import ConstrainedDecoding.Proofs.Session.Reachable

/-! What operations leave of a session: advances fail without a trace, or they poison it. -/

namespace ConstrainedDecoding

namespace Session

variable {σ κ : Type}

/-- A session is where it was: its grammar, its cursor, its steps and its owner are the same. -/
structure SamePlace (session after : Session σ κ) : Prop where
  grammar : after.grammar = session.grammar
  cursor : after.cursor = session.cursor
  steps : after.steps = session.steps
  owner : after.owner = session.owner

/-- A session also keeps its mask, if it has one, and is poisoned only if it was. -/
structure Untouched (session after : Session σ κ) : Prop extends SamePlace session after where
  mask : after.mask = session.mask
  poison : after.poison = session.poison

/-- A session is where it was, but poisoned by a failure and without a mask. -/
structure PoisonedBy (session : Session σ κ) (fault : Fault) (after : Session σ κ) : Prop
    extends SamePlace session after where
  mask : after.mask = none
  poison : after.poison = some fault.message

/-- A session has gone on by one step to a new cursor, of which it has no mask yet. -/
structure MovedTo (session : Session σ κ) (cursor : κ) (after : Session σ κ) : Prop where
  grammar : after.grammar = session.grammar
  cursor : after.cursor = cursor
  steps : after.steps = session.steps + 1
  owner : after.owner = session.owner
  mask : after.mask = none
  poison : after.poison = none

/-- The session in the middle of an advance. -/
def engaged (session : Session σ κ) : Session σ κ :=
  { session with locked := true }

/-- Why an advance ends before the oracle is asked for a transition. -/
inductive Refuses (oracle : Oracle σ κ) (session : Session σ κ) (token : Int) : Fault → Prop
  | poisoned {cause : Text} (poison : session.poison = some cause) :
    Refuses oracle session token (.poisoned cause)
  | busy (usable : session.poison = none) (locked : session.locked = true) :
    Refuses oracle session token .concurrent
  | unchecked {fault : Fault} (usable : session.poison = none) (free : session.locked = false)
    (validates : session.validates = true)
    (failed : (session.engaged.admits oracle token).answer = .error fault) :
    Refuses oracle session token fault
  | rejected (usable : session.poison = none) (free : session.locked = false)
    (validates : session.validates = true)
    (denied : (session.engaged.admits oracle token).answer = .ok false) :
    Refuses oracle session token (.inadmissible (.int token) none)

/-- The world in which an advance asks the oracle for a transition, after the check if there is
one. -/
inductive Passes (oracle : Oracle σ κ) (session : Session σ κ) (token : Int) : σ → Prop
  | checked (usable : session.poison = none) (free : session.locked = false)
    (validates : session.validates = true)
    (admitted : (session.engaged.admits oracle token).answer = .ok true) :
    Passes oracle session token (session.engaged.admits oracle token).state.world
  | trusted (usable : session.poison = none) (free : session.locked = false)
    (trusts : session.validates = false) : Passes oracle session token session.world

/-- A turn of a session ends as the oracle's transition does: it is poisoned, or it moves. -/
def EndsAs (session : Session σ κ) (move : Turn σ κ) (turn : Turn (Session σ κ) Unit) : Prop :=
  match move.answer with
  | .error fault => turn.answer = .error fault ∧ session.PoisonedBy fault turn.state
  | .ok cursor => turn.answer = .ok () ∧ session.MovedTo cursor turn.state

variable {session : Session σ κ}

namespace SamePlace

/-- A session is where it is. -/
theorem refl (session : Session σ κ) : session.SamePlace session :=
  ⟨rfl, rfl, rfl, rfl⟩

/-- What is where something else was is where that was before. -/
theorem trans {before after : Session σ κ} (first : before.SamePlace session)
    (later : session.SamePlace after) : before.SamePlace after where
  grammar := later.grammar.trans first.grammar
  cursor := later.cursor.trans first.cursor
  steps := later.steps.trans first.steps
  owner := later.owner.trans first.owner

/-- A query leaves a session where it is. -/
theorem query (oracle : Oracle σ κ) (session : Session σ κ) {request : Request}
    (query : request.isQuery = true) :
    session.SamePlace (session.perform oracle request).state := by
  -- The oracle is asked once at most, which leads to another world, and maybe to a mask.
  rcases query_asks oracle session query with same | ⟨_, call, world, mask, _, same⟩
  · rw [same]
    exact .refl session
  · rw [same]
    exact ⟨rfl, rfl, rfl, rfl⟩

/-- What is recorded does not move a session. -/
theorem noted {after : Session σ κ} (same : session.SamePlace after) (records : List Record) :
    session.SamePlace { after with records := after.records ++ records } :=
  ⟨same.grammar, same.cursor, same.steps, same.owner⟩

end SamePlace

/-- Asking about a token changes nothing but the world and the list of what was asked. -/
theorem admits_eq (oracle : Oracle σ κ) (session : Session σ κ) (token : Int) :
    ∃ world asked, (session.admits oracle token).state = { session with world, asked } := by
  simp only [admits, whenUsable]
  -- The oracle is asked on one of the paths only, and the others leave the session alone.
  repeat' split
  · exact ⟨session.world, session.asked, rfl⟩
  · exact ⟨session.world, session.asked, rfl⟩
  · exact ⟨session.world, session.asked, rfl⟩
  · exact ⟨_, _, rfl⟩

/-- A session that is not poisoned ends its transition as the oracle does. -/
theorem transit_ends (oracle : Oracle σ κ) (usable : session.poison = none) (token : Int) :
    session.EndsAs (oracle.transition busy session.cursor token session.world)
      (session.transit oracle token) := by
  simp only [EndsAs, transit, consult, reentry_of_usable usable]
  -- The mask is dropped either way, and the cursor is replaced if there is a new one.
  cases (oracle.transition busy session.cursor token session.world).answer with
  | error fault => exact ⟨rfl, ⟨rfl, rfl, rfl, rfl⟩, rfl, rfl⟩
  | ok cursor => exact ⟨rfl, rfl, rfl, rfl, rfl, rfl, usable⟩

/-- What ends in the middle of an advance ends so for the session before it and after it. -/
theorem EndsAs.around {ready : Session σ κ} {move : Turn σ κ} {turn : Turn (Session σ κ) Unit}
    (ends : ready.EndsAs move turn) (same : session.SamePlace ready) :
    session.EndsAs move ⟨turn.answer, { turn.state with locked := false }⟩ := by
  obtain ⟨grammar, cursor, steps, owner⟩ := same
  unfold EndsAs at ends ⊢
  -- Neither the place that the turn started from nor the one it led to knows of the lock.
  cases ended : move.answer with
  | error fault =>
    rw [ended] at ends
    obtain ⟨failed, place, mask, poison⟩ := ends
    exact ⟨failed, ⟨place.grammar.trans grammar, place.cursor.trans cursor,
      place.steps.trans steps, place.owner.trans owner⟩, mask, poison⟩
  | ok next =>
    rw [ended] at ends
    obtain ⟨succeeded, moved⟩ := ends
    exact ⟨succeeded, moved.grammar.trans grammar, moved.cursor,
      moved.steps.trans (congrArg (· + 1) steps), moved.owner.trans owner, moved.mask, moved.poison⟩

/-- An advance in the middle of another one is refused, which is what the oracle is told. -/
theorem engaged_advance (oracle : Oracle σ κ) (session : Session σ κ) (token : Int) :
    session.engaged.advance oracle token = ⟨session.reentry token, session.engaged⟩ := by
  -- A poisoned session says so first, and any other one is locked.
  cases poison : session.poison with
  | some cause => simp [advance, reentry, refusal?, engaged, poison]
  | none => simp [advance, reentry, refusal?, engaged, poison]

/-- A session that is neither poisoned nor locked makes the advance with the lock taken. -/
theorem advance_of_free (oracle : Oracle σ κ) (usable : session.poison = none)
    (free : session.locked = false) (token : Int) :
    session.advance oracle token = ⟨(session.engaged.checkedTransit oracle token).answer,
      { (session.engaged.checkedTransit oracle token).state with locked := false }⟩ := by
  simp [advance, refusal?, usable, free, engaged]

/-- A reset that fails replaces the mask and the poison, and nothing else but the world. -/
theorem reset_failed {oracle : Oracle σ κ} {grammar : Option Grammar} {fault : Fault}
    (failed : (session.reset oracle grammar).answer = .error fault) :
    (oracle.restart session.cursor (grammar.getD session.grammar) session.world).answer =
        .error fault ∧
      ∃ asked poison, (session.reset oracle grammar).state = { session with
        world := (oracle.restart session.cursor (grammar.getD session.grammar) session.world).state
        asked, mask := none, poison } := by
  simp only [reset, consult] at failed ⊢
  -- A session is reset whenever its oracle has been restarted.
  split at failed
  · rename_i refused
    cases failed
    rw [refused]
    exact ⟨rfl, _, _, rfl⟩
  · cases failed

/-- What no request changes: how many tokens a session is over, and who holds it. -/
structure SameTerms (session after : Session σ κ) : Prop where
  size : after.size = session.size
  owner : after.owner = session.owner

/-- A query changes no terms. -/
theorem SameTerms.query (oracle : Oracle σ κ) (session : Session σ κ) {request : Request}
    (query : request.isQuery = true) :
    session.SameTerms (session.perform oracle request).state := by
  -- A query writes the state of the oracle, the mask and what was asked.
  rcases query_asks oracle session query with same | ⟨_, call, world, mask, _, same⟩
  · rw [same]
    exact ⟨rfl, rfl⟩
  · rw [same]
    exact ⟨rfl, rfl⟩

/-- Neither does a transition, even if it fails. -/
theorem SameTerms.transit (oracle : Oracle σ κ) (session : Session σ κ) (token : Int) :
    session.SameTerms (session.transit oracle token).state := by
  simp only [Session.transit]
  split
  · exact ⟨rfl, rfl⟩
  · exact ⟨rfl, rfl⟩

/-- So an advance does not, with or without the check. -/
theorem SameTerms.advance (oracle : Oracle σ κ) (session : Session σ κ) (token : Int) :
    session.SameTerms (session.advance oracle token).state := by
  simp only [Session.advance]
  split
  · exact ⟨rfl, rfl⟩
  · have query : (Request.admits token).isQuery = true := rfl
    have checked := SameTerms.query oracle session.engaged query
    -- The session makes a check at most and a transition at most, and is locked meanwhile.
    obtain ⟨fault, refused, _⟩ | ⟨ready, rfl | rfl, moves⟩ :=
      session.engaged.checkedTransit_cases oracle token
    · exact refused ▸ ⟨checked.size, checked.owner⟩
    · have moved := SameTerms.transit oracle session.engaged token
      exact moves ▸ ⟨moved.size, moved.owner⟩
    · have moved := SameTerms.transit oracle (session.engaged.admits oracle token).state token
      exact moves ▸ ⟨moved.size.trans checked.size, moved.owner.trans checked.owner⟩

/-- No request changes the terms. -/
theorem SameTerms.perform (oracle : Oracle σ κ) (session : Session σ κ) (request : Request) :
    session.SameTerms (session.perform oracle request).state := by
  -- A reset writes neither the size nor the owner, whether it succeeds or not.
  obtain query | ⟨token, rfl⟩ | ⟨grammar, rfl⟩ := request.query_or_move
  · exact .query oracle session query
  · exact .advance oracle session token
  · simp only [Session.perform, Turn.reply, Session.reset]
    split
    · exact ⟨rfl, rfl⟩
    · exact ⟨rfl, rfl⟩

/-- The lock is taken after an advance just if it was taken before. -/
theorem advance_locked (oracle : Oracle σ κ) (session : Session σ κ) (token : Int) :
    (session.advance oracle token).state.locked = session.locked := by
  unfold advance
  split
  · -- A refusal leaves the session alone.
    rfl
  · -- Only a session that is not locked is not refused.
    rename_i accepted
    unfold refusal? at accepted
    split at accepted
    · cases accepted
    · split at accepted
      · cases accepted
      · rename_i free
        exact (eq_false_of_ne_true free).symm

/-- Such an advance is refused by the check, or it ends as the oracle's transition does. -/
theorem advance_ends (oracle : Oracle σ κ) (usable : session.poison = none)
    (free : session.locked = false) (token : Int) :
    let turn := session.advance oracle token
    (∃ fault, session.Refuses oracle token fault ∧ turn.answer = .error fault ∧
        session.Untouched turn.state) ∨
      ∃ world, session.Passes oracle token world ∧
        session.EndsAs (oracle.transition busy session.cursor token world) turn := by
  have trusts : session.engaged.validates = session.validates := rfl
  rw [advance_of_free oracle usable free, checkedTransit, trusts]
  cases validates : session.validates with
  | false =>
    have ends := transit_ends oracle (show session.engaged.poison = none from usable) token
    exact .inr ⟨session.world, .trusted usable free validates, ends.around ⟨rfl, rfl, rfl, rfl⟩⟩
  | true =>
    -- The check is made of the locked session, and it leaves that where it is.
    obtain ⟨world, asked, checked⟩ := admits_eq oracle session.engaged token
    simp only [if_true]
    -- A check that fails or that rejects the token ends the advance before it has moved.
    cases answer : (session.engaged.admits oracle token).answer with
    | error fault =>
      refine .inl ⟨fault, .unchecked usable free validates answer, rfl, ?_⟩
      simp only [checked]
      exact ⟨⟨rfl, rfl, rfl, rfl⟩, rfl, rfl⟩
    | ok admits =>
      cases admits with
      | false =>
        refine .inl ⟨_, .rejected usable free validates answer, rfl, ?_⟩
        simp only [checked]
        exact ⟨⟨rfl, rfl, rfl, rfl⟩, rfl, rfl⟩
      | true =>
        -- The transition is made in the world that the check led to.
        have passes := Passes.checked usable free validates answer
        rw [checked] at passes ⊢
        have ready : ({ session.engaged with world, asked } : Session σ κ).poison = none := usable
        exact .inr ⟨world, passes, (transit_ends oracle ready token).around ⟨rfl, rfl, rfl, rfl⟩⟩

/--
An advance that fails leaves the session as it was, unless the oracle was asked for the transition.

Before that it fails because the session is poisoned or in the middle of an advance, or because the
check of the token fails or rejects it. A transition that fails poisons the session where it is, and
one that succeeds is a step to the oracle's new cursor. The session is in the middle of an advance
afterwards just if it was before, and an advance that the oracle asks for in between is refused.
-/
theorem advance_atomic (oracle : Oracle σ κ) (session : Session σ κ) (token : Int) :
    let turn := session.advance oracle token
    turn.state.locked = session.locked ∧
      (∀ other, session.engaged.advance oracle other =
        ⟨session.reentry other, session.engaged⟩) ∧
      ((∃ fault, session.Refuses oracle token fault ∧ turn.answer = .error fault ∧
          session.Untouched turn.state) ∨
        ∃ world, session.Passes oracle token world ∧
          session.EndsAs (oracle.transition busy session.cursor token world) turn) := by
  have self : session.Untouched session := ⟨⟨rfl, rfl, rfl, rfl⟩, rfl, rfl⟩
  refine ⟨advance_locked oracle session token, engaged_advance oracle session, ?_⟩
  -- The poison is looked at before the lock, and neither refusal touches the session.
  cases poison : session.poison with
  | some cause =>
    have refused : session.advance oracle token = ⟨.error (.poisoned cause), session⟩ := by
      simp [advance, refusal?, poison]
    exact .inl ⟨_, .poisoned poison, by rw [refused], by rw [refused]; exact self⟩
  | none =>
    cases locked : session.locked with
    | true =>
      have refused : session.advance oracle token = ⟨.error .concurrent, session⟩ := by
        simp [advance, refusal?, poison, locked]
      exact .inl ⟨_, .busy poison locked, by rw [refused], by rw [refused]; exact self⟩
    | false => exact advance_ends oracle poison locked token

end Session

end ConstrainedDecoding
