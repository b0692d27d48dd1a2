import ConstrainedDecoding.Session.Request

/-! Oracles told by the grammar states that their cursors stand for. -/

namespace ConstrainedDecoding

variable {σ κ γ α : Type}

/--
What an oracle does at the states of a grammar.

A move leaves a state behind even if it fails, because it may have changed its cursor in place.
-/
structure Rules (γ : Type) where
  probe : γ → Int → Except Fault Bool
  mask : γ → Except Fault Mask
  accepting : γ → Except Fault Bool
  stopReason : γ → Except Fault Text
  transition : γ → Int → Turn γ Unit
  restart : γ → Grammar → Turn γ Unit

/-- Which grammar states a cursor stands for in a world. -/
abbrev Standing (σ κ γ : Type) := κ → σ → γ → Prop

/-- What an oracle is told when it asks for an advance in the middle of an operation. -/
def busy : Reentry := fun _ => .error .concurrent

namespace Turn

/-- A query has a given answer and leaves something true of the world. -/
def Tells (turn : Turn σ α) (answer : Except Fault α) (stays : σ → Prop) : Prop :=
  turn.answer = answer ∧ stays turn.state

/-- The cursor held after a move: a new one, or the old one if the move failed. -/
def held (turn : Turn σ κ) (cursor : κ) : κ :=
  match turn.answer with
  | .ok next => next
  | .error _ => cursor

/-- A move ends as another one does, and the cursor held after it stands for where that one leads. -/
def Leads (turn : Turn σ κ) (cursor : κ) (move : Turn γ Unit) (stands : Standing σ κ γ) : Prop :=
  move.answer = turn.answer.map (fun _ => ()) ∧ stands (turn.held cursor) turn.state move.state

/-- A failed move fails as the other one does, and the old cursor stands for where that one leads. -/
theorem Leads.of_error {turn : Turn σ κ} {cursor : κ} {move : Turn γ Unit}
    {stands : Standing σ κ γ} (leads : turn.Leads cursor move stands) {fault : Fault}
    (failed : turn.answer = .error fault) :
    move.answer = .error fault ∧ stands cursor turn.state move.state := by
  -- A failed move hands out no cursor, so the old one is held.
  simpa [Leads, held, failed, Except.map] using leads

/-- After a move that succeeds, the new cursor stands for where the other one leads. -/
theorem Leads.of_ok {turn : Turn σ κ} {cursor next : κ} {move : Turn γ Unit}
    {stands : Standing σ κ γ} (leads : turn.Leads cursor move stands)
    (succeeded : turn.answer = .ok next) :
    move.answer = .ok () ∧ stands next turn.state move.state := by
  -- A move that succeeds hands out the cursor that is then held.
  simpa [Leads, held, succeeded, Except.map] using leads

end Turn

namespace Oracle

/-- The oracle answers queries by the grammar state, and whatever it hands out stands for one. -/
structure Answers (oracle : Oracle σ κ) (rules : Rules γ) (stands : Standing σ κ γ) : Prop where
  probe {cursor : κ} {world : σ} {state : γ} : stands cursor world state → ∀ token,
    (oracle.probe busy cursor token world).Tells (rules.probe state token) (stands cursor · state)
  mask {cursor : κ} {world : σ} {state : γ} : stands cursor world state →
    (oracle.mask cursor world).Tells (rules.mask state) (stands cursor · state)
  accepting {cursor : κ} {world : σ} {state : γ} : stands cursor world state →
    (oracle.accepting cursor world).Tells (rules.accepting state) (stands cursor · state)
  stopReason {cursor : κ} {world : σ} {state : γ} : stands cursor world state →
    (oracle.stopReason cursor world).Tells (rules.stopReason state) (stands cursor · state)
  compiled {grammar : Grammar} {world : σ} {cursor : κ} :
    (oracle.compile grammar world).answer = .ok cursor →
    ∃ state, stands cursor (oracle.compile grammar world).state state
  moved {cursor next : κ} {world : σ} {state : γ} {token : Int} : stands cursor world state →
    (oracle.transition busy cursor token world).answer = .ok next →
    ∃ after, stands next (oracle.transition busy cursor token world).state after
  restarted {cursor next : κ} {world : σ} {grammar : Grammar} :
    (oracle.restart cursor grammar world).answer = .ok next →
    ∃ state, stands next (oracle.restart cursor grammar world).state state

/-- The oracle also moves by the grammar state alone. -/
structure Follows (oracle : Oracle σ κ) (rules : Rules γ) (stands : Standing σ κ γ) : Prop
    extends oracle.Answers rules stands where
  transition {cursor : κ} {world : σ} {state : γ} : stands cursor world state → ∀ token,
    (oracle.transition busy cursor token world).Leads cursor (rules.transition state token) stands
  restart {cursor : κ} {world : σ} {state : γ} : stands cursor world state → ∀ grammar,
    (oracle.restart cursor grammar world).Leads cursor (rules.restart state grammar) stands

/-- Compiling a grammar starts at the grammar's first state, or fails, in every world alike. -/
def Opens (oracle : Oracle σ κ) (start : Grammar → Except Fault γ) (stands : Standing σ κ γ) :
    Prop :=
  ∀ grammar world, match start grammar with
    | .ok state => ∃ cursor, (oracle.compile grammar world).answer = .ok cursor ∧
        stands cursor (oracle.compile grammar world).state state
    | .error fault => (oracle.compile grammar world).answer = .error fault

end Oracle

namespace Rules

/-- The mask of a state has an entry for every token, and every probe agrees with it. -/
def Consistent (rules : Rules γ) (size : Nat) (state : γ) : Prop :=
  ∃ mask, rules.mask state = .ok mask ∧ mask.length = size ∧
    ∀ token : Nat, token < size → rules.probe state token = .ok (mask.getD token false)

/-- The rules are consistent at every state that a cursor can stand for. -/
def AlwaysConsistent (rules : Rules γ) (stands : Standing σ κ γ) (size : Nat) : Prop :=
  ∀ {cursor : κ} {world : σ} {state : γ}, stands cursor world state → rules.Consistent size state

/-- Moves are functions of the state: a failed one changes nothing, and a restart is a start. -/
structure Functional (rules : Rules γ) (start : Grammar → Except Fault γ) : Prop where
  transition {state : γ} {token : Int} {fault : Fault} :
    (rules.transition state token).answer = .error fault →
    (rules.transition state token).state = state
  restart (state : γ) (grammar : Grammar) : rules.restart state grammar =
    match start grammar with
    | .ok first => ⟨.ok (), first⟩
    | .error fault => ⟨.error fault, state⟩

/-- A token is taken just if it is in the vocabulary and admitted, and any other one is rejected. -/
structure Judges (rules : Rules γ) (size : Nat) (state : γ) : Prop where
  takes {token : Int} : 0 ≤ token → token < size → rules.probe state token = .ok true →
    (rules.transition state token).answer = .ok ()
  rejects {token : Int} : ¬(0 ≤ token ∧ token < size ∧ rules.probe state token = .ok true) →
    ∃ detail, (rules.transition state token).answer = .error (.inadmissible (.int token) detail)

/-- The rules judge tokens in this way at every state that a cursor can stand for. -/
def AlwaysJudges (rules : Rules γ) (stands : Standing σ κ γ) (size : Nat) : Prop :=
  ∀ {cursor : κ} {world : σ} {state : γ}, stands cursor world state → rules.Judges size state

/-- How a restart ends, and where it leads to, does not depend on where it is made. -/
def RestartsAlike (rules : Rules γ) : Prop :=
  ∀ state other grammar,
    (rules.restart state grammar).answer = (rules.restart other grammar).answer ∧
      ((rules.restart state grammar).answer = .ok () →
        (rules.restart state grammar).state = (rules.restart other grammar).state)

end Rules

namespace Oracle

/-- The rules of an oracle itself, at the pairs of its cursors and its worlds. -/
def rules (oracle : Oracle σ κ) : Rules (κ × σ) where
  probe place token := (oracle.probe busy place.1 token place.2).answer
  mask place := (oracle.mask place.1 place.2).answer
  accepting place := (oracle.accepting place.1 place.2).answer
  stopReason place := (oracle.stopReason place.1 place.2).answer
  transition place token :=
    let turn := oracle.transition busy place.1 token place.2
    ⟨turn.answer.map fun _ => (), (turn.held place.1, turn.state)⟩
  restart place grammar :=
    let turn := oracle.restart place.1 grammar place.2
    ⟨turn.answer.map fun _ => (), (turn.held place.1, turn.state)⟩

/-- A cursor in a world stands for just this pair, as long as it is one that can come up. -/
def standsForItself (possible : κ → σ → Prop) : Standing σ κ (κ × σ) :=
  fun cursor world place => place = (cursor, world) ∧ possible cursor world

/-- Queries leave no trace, and only certain cursors can come up in certain worlds. -/
structure Traceless (oracle : Oracle σ κ) (possible : κ → σ → Prop) : Prop where
  probe {cursor : κ} {world : σ} (token : Int) : (oracle.probe busy cursor token world).state = world
  mask {cursor : κ} {world : σ} : (oracle.mask cursor world).state = world
  accepting {cursor : κ} {world : σ} : (oracle.accepting cursor world).state = world
  stopReason {cursor : κ} {world : σ} : (oracle.stopReason cursor world).state = world
  compiled {grammar : Grammar} {world : σ} {cursor : κ} :
    (oracle.compile grammar world).answer = .ok cursor →
    possible cursor (oracle.compile grammar world).state
  transition {cursor : κ} {world : σ} (token : Int) : possible cursor world →
    let turn := oracle.transition busy cursor token world
    possible (turn.held cursor) turn.state
  restarted {cursor next : κ} {grammar : Grammar} {world : σ} :
    (oracle.restart cursor grammar world).answer = .ok next →
    possible next (oracle.restart cursor grammar world).state
  restart {cursor : κ} (grammar : Grammar) {world : σ} : possible cursor world →
    let turn := oracle.restart cursor grammar world
    possible (turn.held cursor) turn.state

/-- An oracle whose queries leave no trace follows its own rules. -/
theorem Traceless.follows {oracle : Oracle σ κ} {possible : κ → σ → Prop}
    (traceless : oracle.Traceless possible) :
    oracle.Follows oracle.rules (standsForItself possible) where
  -- Each query ends in the world that it started from.
  probe := by
    rintro cursor world state ⟨rfl, can⟩ token
    exact ⟨rfl, by rw [traceless.probe token]; exact ⟨rfl, can⟩⟩
  mask := by
    rintro cursor world state ⟨rfl, can⟩
    exact ⟨rfl, by rw [traceless.mask]; exact ⟨rfl, can⟩⟩
  accepting := by
    rintro cursor world state ⟨rfl, can⟩
    exact ⟨rfl, by rw [traceless.accepting]; exact ⟨rfl, can⟩⟩
  stopReason := by
    rintro cursor world state ⟨rfl, can⟩
    exact ⟨rfl, by rw [traceless.stopReason]; exact ⟨rfl, can⟩⟩
  compiled compiled := ⟨_, rfl, traceless.compiled compiled⟩
  -- Moves may change the world, and the state that they lead to changes with it.
  moved := by
    rintro cursor next world state token ⟨rfl, can⟩ moved
    have after := traceless.transition token can
    simp only [Turn.held, moved] at after
    exact ⟨_, rfl, after⟩
  restarted restarted := ⟨_, rfl, traceless.restarted restarted⟩
  transition := by
    rintro cursor world state ⟨rfl, can⟩ token
    exact ⟨rfl, rfl, traceless.transition token can⟩
  restart := by
    rintro cursor world state ⟨rfl, can⟩ grammar
    exact ⟨rfl, rfl, traceless.restart grammar can⟩

/-- The rules of an oracle at its cursors, read off in one world. -/
def rulesIn (oracle : Oracle σ κ) (world : σ) : Rules κ where
  probe cursor token := (oracle.probe busy cursor token world).answer
  mask cursor := (oracle.mask cursor world).answer
  accepting cursor := (oracle.accepting cursor world).answer
  stopReason cursor := (oracle.stopReason cursor world).answer
  transition cursor token :=
    let turn := oracle.transition busy cursor token world
    ⟨turn.answer.map fun _ => (), turn.held cursor⟩
  restart cursor grammar :=
    let turn := oracle.restart cursor grammar world
    ⟨turn.answer.map fun _ => (), turn.held cursor⟩

/-- Where the grammars of an oracle start, read off in one world. -/
def startIn (oracle : Oracle σ κ) (world : σ) (grammar : Grammar) : Except Fault κ :=
  (oracle.compile grammar world).answer

/-- A cursor stands for itself in every world, as long as it is one that can come up. -/
def standsAnywhere (possible : κ → Prop) : Standing σ κ κ :=
  fun cursor _ state => cursor = state ∧ possible cursor

/-- Every answer is a function of the cursor, whatever the world, and certain cursors come up. -/
structure Worldless (oracle : Oracle σ κ) (possible : κ → Prop) : Prop where
  probe (cursor : κ) (token : Int) (world other : σ) :
    (oracle.probe busy cursor token world).answer = (oracle.probe busy cursor token other).answer
  mask (cursor : κ) (world other : σ) :
    (oracle.mask cursor world).answer = (oracle.mask cursor other).answer
  accepting (cursor : κ) (world other : σ) :
    (oracle.accepting cursor world).answer = (oracle.accepting cursor other).answer
  stopReason (cursor : κ) (world other : σ) :
    (oracle.stopReason cursor world).answer = (oracle.stopReason cursor other).answer
  compile (grammar : Grammar) (world other : σ) :
    (oracle.compile grammar world).answer = (oracle.compile grammar other).answer
  transition (cursor : κ) (token : Int) (world other : σ) :
    (oracle.transition busy cursor token world).answer =
      (oracle.transition busy cursor token other).answer
  restart (cursor : κ) (grammar : Grammar) (world other : σ) :
    (oracle.restart cursor grammar world).answer = (oracle.restart cursor grammar other).answer
  compiled {grammar : Grammar} {world : σ} {cursor : κ} :
    (oracle.compile grammar world).answer = .ok cursor → possible cursor
  moved {cursor next : κ} {token : Int} {world : σ} : possible cursor →
    (oracle.transition busy cursor token world).answer = .ok next → possible next
  restarted {cursor next : κ} {grammar : Grammar} {world : σ} :
    (oracle.restart cursor grammar world).answer = .ok next → possible next

namespace Worldless

variable {oracle : Oracle σ κ} {possible : κ → Prop}

/-- A move read off in another world leads to the same cursor. -/
theorem leads {turn other : Turn σ κ} (same : turn.answer = other.answer) {cursor : κ}
    (can : possible (turn.held cursor)) :
    turn.Leads cursor ⟨other.answer.map fun _ => (), other.held cursor⟩ (standsAnywhere possible) := by
  -- The answer decides which cursor is held, so equal answers hold the same one.
  refine ⟨by rw [same], ?_, can⟩
  simp only [Turn.held, same]

/-- The cursor held after a move can come up if the old one and every new one can. -/
theorem possible_held {turn : Turn σ κ} {cursor : κ} (can : possible cursor)
    (moved : ∀ {next}, turn.answer = .ok next → possible next) : possible (turn.held cursor) := by
  -- The cursor held is the new one or the old one.
  unfold Turn.held
  split
  · exact moved (by assumption)
  · exact can

/-- An oracle whose answers are functions of the cursor follows the rules of any one world. -/
theorem follows (worldless : oracle.Worldless possible) (world : σ) :
    oracle.Follows (oracle.rulesIn world) (standsAnywhere possible) where
  -- The answer of any world is that of the world in which the rules were read off.
  probe := by
    rintro cursor other state ⟨rfl, can⟩ token
    exact ⟨worldless.probe cursor token other world, rfl, can⟩
  mask := by
    rintro cursor other state ⟨rfl, can⟩
    exact ⟨worldless.mask cursor other world, rfl, can⟩
  accepting := by
    rintro cursor other state ⟨rfl, can⟩
    exact ⟨worldless.accepting cursor other world, rfl, can⟩
  stopReason := by
    rintro cursor other state ⟨rfl, can⟩
    exact ⟨worldless.stopReason cursor other world, rfl, can⟩
  compiled compiled := ⟨_, rfl, worldless.compiled compiled⟩
  moved := by
    rintro cursor next other state token ⟨rfl, can⟩ moved
    exact ⟨_, rfl, worldless.moved can moved⟩
  restarted restarted := ⟨_, rfl, worldless.restarted restarted⟩
  -- A failed move keeps a cursor that can come up, and so does one that succeeds.
  transition := by
    rintro cursor other state ⟨rfl, can⟩ token
    exact leads (worldless.transition cursor token other world)
      (possible_held can (worldless.moved can))
  restart := by
    rintro cursor other state ⟨rfl, can⟩ grammar
    exact leads (worldless.restart cursor grammar other world)
      (possible_held can worldless.restarted)

/-- Such an oracle opens every grammar where it does in any one world. -/
theorem opens (worldless : oracle.Worldless possible) (world : σ) :
    oracle.Opens (oracle.startIn world) (standsAnywhere possible) := by
  intro grammar other
  -- What compiling gives in one world it gives in every world.
  cases compiled : oracle.startIn world grammar with
  | ok cursor =>
    have here := (worldless.compile grammar other world).trans compiled
    exact ⟨cursor, here, rfl, worldless.compiled here⟩
  | error fault => exact (worldless.compile grammar other world).trans compiled

/-- The rules of such an oracle are functions of the cursor if a restart ends as compiling does. -/
theorem functional {world : σ} (alike : ∀ cursor grammar,
      (oracle.restart cursor grammar world).answer = (oracle.compile grammar world).answer) :
    (oracle.rulesIn world).Functional (oracle.startIn world) where
  transition := by
    intro cursor token fault failed
    -- A failed move holds on to the cursor that it was made from.
    cases ended : (oracle.transition busy cursor token world).answer with
    | ok next => simp [rulesIn, ended, Except.map] at failed
    | error fault => simp [rulesIn, Turn.held, ended]
  restart cursor grammar := by
    -- A failed restart holds on to the old cursor, as the rules have it.
    simp only [rulesIn, Turn.held, alike, startIn]
    cases (oracle.compile grammar world).answer <;> rfl

end Worldless

end Oracle

end ConstrainedDecoding
