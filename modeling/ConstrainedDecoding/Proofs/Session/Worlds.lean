import ConstrainedDecoding.Session.Request

/-! Sessions in worlds that the oracle does not tell apart are not told apart either. -/

namespace ConstrainedDecoding

variable {σ κ α : Type}

/-- Turns with the same answer, that leave states which are alike. -/
structure Turn.Agrees (alike : σ → σ → Prop) (turn twin : Turn σ α) : Prop where
  answer : turn.answer = twin.answer
  state : alike turn.state twin.state

/-- An oracle does not tell worlds apart that are alike, and leaves them alike. -/
structure Oracle.Blind (oracle : Oracle σ κ) (alike : σ → σ → Prop) : Prop where
  compile : ∀ {world twin : σ} (grammar : Grammar), alike world twin →
    (oracle.compile grammar world).Agrees alike (oracle.compile grammar twin)
  probe : ∀ {world twin : σ} (reentry : Reentry) (cursor : κ) (token : Int), alike world twin →
    (oracle.probe reentry cursor token world).Agrees alike (oracle.probe reentry cursor token twin)
  mask : ∀ {world twin : σ} (cursor : κ), alike world twin →
    (oracle.mask cursor world).Agrees alike (oracle.mask cursor twin)
  transition : ∀ {world twin : σ} (reentry : Reentry) (cursor : κ) (token : Int),
    alike world twin →
    (oracle.transition reentry cursor token world).Agrees alike
      (oracle.transition reentry cursor token twin)
  accepting : ∀ {world twin : σ} (cursor : κ), alike world twin →
    (oracle.accepting cursor world).Agrees alike (oracle.accepting cursor twin)
  stopReason : ∀ {world twin : σ} (cursor : κ), alike world twin →
    (oracle.stopReason cursor world).Agrees alike (oracle.stopReason cursor twin)
  restart : ∀ {world twin : σ} (cursor : κ) (grammar : Grammar), alike world twin →
    (oracle.restart cursor grammar world).Agrees alike (oracle.restart cursor grammar twin)

namespace Session

/-- Sessions that are the same but for their worlds, which are alike, and for what was asked. -/
structure InWorlds (alike : σ → σ → Prop) (session twin : Session σ κ) : Prop where
  worlds : alike session.world twin.world
  same : ∃ world asked, twin = { session with world, asked }

namespace InWorlds

variable {oracle : Oracle σ κ} {alike : σ → σ → Prop} {session twin : Session σ κ}

/-- An operation that does not tell the worlds apart gives the same answer. -/
theorem consult {operation : σ → Turn σ α} (same : InWorlds alike session twin)
    (agrees : (operation session.world).Agrees alike (operation twin.world)) (call : OracleCall) :
    (session.consult call operation).Agrees (InWorlds alike) (twin.consult call operation) := by
  obtain ⟨_, world, asked, rfl⟩ := same
  exact ⟨agrees.answer, agrees.state, _, _, rfl⟩

/-- The sessions are poisoned alike, or they act alike. -/
theorem whenUsable {action : Session σ κ → Turn (Session σ κ) α}
    (same : InWorlds alike session twin)
    (agrees : (action session).Agrees (InWorlds alike) (action twin)) :
    (session.whenUsable action).Agrees (InWorlds alike) (twin.whenUsable action) := by
  obtain ⟨worlds, world, asked, rfl⟩ := same
  simp only [Session.whenUsable]
  -- Both sessions are poisoned for the same cause, or neither is.
  split
  · exact ⟨rfl, worlds, _, _, rfl⟩
  · exact agrees

/-- The same tokens are admitted. -/
theorem admits (blind : oracle.Blind alike) (same : InWorlds alike session twin) (token : Int) :
    (session.admits oracle token).Agrees (InWorlds alike) (twin.admits oracle token) := by
  refine same.whenUsable ?_
  have asked := fun reentry => same.consult
    (blind.probe reentry session.cursor token same.worlds) (.probe token)
  obtain ⟨worlds, world, calls, rfl⟩ := same
  -- The size, the mask and the cursor are the same, and so is what is told about an advance.
  dsimp only
  split
  · exact ⟨rfl, worlds, _, _, rfl⟩
  · split
    · exact ⟨rfl, worlds, _, _, rfl⟩
    · exact asked session.reentry

/-- The masks are the same. -/
theorem fullMask (blind : oracle.Blind alike) (same : InWorlds alike session twin) :
    (session.fullMask oracle).Agrees (InWorlds alike) (twin.fullMask oracle) := by
  refine same.whenUsable ?_
  obtain ⟨answer, after⟩ := same.consult (blind.mask session.cursor same.worlds) .mask
  obtain ⟨worlds, world, calls, rfl⟩ := same
  dsimp only
  split
  · exact ⟨rfl, worlds, _, _, rfl⟩
  · rw [← answer]
    split
    · exact ⟨rfl, after⟩
    · -- A mask is kept by both sessions or by neither.
      split
      · exact ⟨rfl, after.worlds, _, _, rfl⟩
      · exact ⟨rfl, after⟩

/-- Transitions end alike. -/
theorem transit (blind : oracle.Blind alike) (same : InWorlds alike session twin) (token : Int) :
    (session.transit oracle token).Agrees (InWorlds alike) (twin.transit oracle token) := by
  obtain ⟨answer, after⟩ := same.consult
    (blind.transition session.reentry session.cursor token same.worlds) (.transition token)
  obtain ⟨worlds, world, calls, rfl⟩ := same
  have told : ({ session with world, asked := calls } : Session σ κ).reentry = session.reentry :=
    rfl
  simp only [Session.transit, told]
  -- The transition succeeds in both worlds or fails in both, and the masks are dropped.
  rw [← answer]
  split
  · exact ⟨rfl, after.worlds, _, _, rfl⟩
  · exact ⟨rfl, after.worlds, _, _, rfl⟩

/-- So do transitions that are checked. -/
theorem checkedTransit (blind : oracle.Blind alike) (same : InWorlds alike session twin)
    (token : Int) :
    (session.checkedTransit oracle token).Agrees (InWorlds alike)
      (twin.checkedTransit oracle token) := by
  obtain ⟨answer, after⟩ := same.admits blind token
  have trusted := same.transit blind token
  have validates : twin.validates = session.validates := by
    obtain ⟨_, _, _, rfl⟩ := same
    rfl
  simp only [Session.checkedTransit, validates, ← answer]
  -- A session that validates goes on from the world in which the token was checked.
  split
  · split
    · exact ⟨rfl, after⟩
    · exact ⟨rfl, after⟩
    · exact after.transit blind token
  · exact trusted

/-- The sessions go on alike. -/
theorem advance (blind : oracle.Blind alike) (same : InWorlds alike session twin) (token : Int) :
    (session.advance oracle token).Agrees (InWorlds alike) (twin.advance oracle token) := by
  have refused : twin.refusal? = session.refusal? := by
    obtain ⟨_, _, _, rfl⟩ := same
    rfl
  have locked : InWorlds alike { session with locked := true } { twin with locked := true } := by
    obtain ⟨worlds, _, _, rfl⟩ := same
    exact ⟨worlds, _, _, rfl⟩
  simp only [Session.advance, refused]
  split
  · exact ⟨rfl, same⟩
  · -- The lock is let go in both sessions, whatever comes of the transition.
    obtain ⟨answer, after⟩ := locked.checkedTransit blind token
    obtain ⟨worlds, world, asked, after⟩ := after
    exact ⟨answer, worlds, world, asked, by rw [after]⟩

/-- A reset does not depend on the mask or on the poison, since it replaces both. -/
theorem reset_replaces {grammar : Option Grammar} {world : σ}
    (agrees : (oracle.restart session.cursor (grammar.getD session.grammar) session.world).Agrees
      alike (oracle.restart session.cursor (grammar.getD session.grammar) world))
    (asked : List OracleCall) (mask : Option Mask) (poison : Option Text) :
    (session.reset oracle grammar).Agrees (InWorlds alike)
      (({ session with world, asked, mask, poison } : Session σ κ).reset oracle grammar) := by
  simp only [Session.reset, Session.consult]
  -- Where the restart succeeds there is no poison left, and where it fails there is a new one.
  rw [← agrees.answer]
  split
  · exact ⟨rfl, agrees.state, _, _, rfl⟩
  · exact ⟨rfl, agrees.state, _, _, rfl⟩

/-- They are reset alike. -/
theorem reset (blind : oracle.Blind alike) (same : InWorlds alike session twin)
    (grammar : Option Grammar) :
    (session.reset oracle grammar).Agrees (InWorlds alike) (twin.reset oracle grammar) := by
  obtain ⟨worlds, world, asked, rfl⟩ := same
  exact reset_replaces (blind.restart _ _ worlds) asked session.mask session.poison

/-- Replies agree where answers do. -/
theorem reply {turn other : Turn (Session σ κ) α} (agrees : turn.Agrees (InWorlds alike) other)
    (wrap : α → Reply) : (turn.reply wrap).Agrees (InWorlds alike) (other.reply wrap) :=
  ⟨congrArg (Except.map wrap) agrees.answer, agrees.state⟩

/-- Every request is answered alike. -/
theorem perform (blind : oracle.Blind alike) (same : InWorlds alike session twin)
    (request : Request) :
    (session.perform oracle request).Agrees (InWorlds alike) (twin.perform oracle request) := by
  -- The twin has the same cursor, so the oracle is asked the same of both.
  have cursor : twin.cursor = session.cursor := by
    obtain ⟨_, _, _, rfl⟩ := same
    rfl
  cases request with
  | admits token => exact reply (same.admits blind token) _
  | mask => exact reply (same.fullMask blind) _
  | advance token => exact reply (same.advance blind token) _
  | isComplete =>
    refine reply (same.whenUsable ?_) _
    rw [cursor]
    exact same.consult (blind.accepting session.cursor same.worlds) .accepting
  | stopReason =>
    refine reply (same.whenUsable ?_) _
    rw [cursor]
    exact same.consult (blind.stopReason session.cursor same.worlds) .stopReason
  | reset grammar => exact reply (same.reset blind grammar) _

/-- Whatever is asked of the sessions, they answer it alike. -/
theorem run (blind : oracle.Blind alike) (same : InWorlds alike session twin)
    (requests : List Request) :
    (session.run oracle requests).1 = (twin.run oracle requests).1 ∧
      InWorlds alike (session.run oracle requests).2 (twin.run oracle requests).2 := by
  induction requests generalizing session twin with
  | nil => exact ⟨rfl, same⟩
  | cons request rest ih =>
    -- The sessions are alike after the first request, so the others are answered alike.
    obtain ⟨answer, after⟩ := same.perform blind request
    obtain ⟨replies, last⟩ := ih after
    exact ⟨List.cons_eq_cons.mpr ⟨answer, replies⟩, last⟩

end InWorlds

end Session

end ConstrainedDecoding
