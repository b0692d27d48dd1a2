import ConstrainedDecoding.Proofs.Oracle.Rules

/-! Outlines of sessions: a session answers as its outline does, whatever world it lives in. -/

namespace ConstrainedDecoding

variable {σ κ γ α : Type}

/-- All that the answers of a session depend on, with a grammar state in place of the cursor. -/
structure Outline (γ : Type) where
  state : γ
  grammar : Grammar
  size : Nat
  validates : Bool
  mask : Option Mask
  poison : Option Text
  steps : Nat

namespace Outline

/-- An outline at the start of a grammar. -/
def opening (state : γ) (grammar : Grammar) (size : Nat) (validates : Bool) : Outline γ :=
  ⟨state, grammar, size, validates, none, none, 0⟩

/-- An action of an outline that is not poisoned. -/
def whenUsable (outline : Outline γ) (action : Turn (Outline γ) α) : Turn (Outline γ) α :=
  match outline.poison with
  | some cause => ⟨.error (.poisoned cause), outline⟩
  | none => action

/-- Whether a token is admitted, read off the mask or else by a probe. -/
def admits (rules : Rules γ) (token : Int) (outline : Outline γ) : Turn (Outline γ) Bool :=
  outline.whenUsable <|
    if token < 0 || outline.size ≤ token then ⟨.ok false, outline⟩
    else match outline.mask with
      | some mask => ⟨.ok (mask.getD token.toNat false), outline⟩
      | none => ⟨rules.probe outline.state token, outline⟩

/-- The mask of the state, made once and then kept. -/
def fullMask (rules : Rules γ) (outline : Outline γ) : Turn (Outline γ) Mask :=
  outline.whenUsable <|
    match outline.mask with
    | some mask => ⟨.ok mask, outline⟩
    | none =>
      match rules.mask outline.state with
      | .error fault => ⟨.error fault, outline⟩
      | .ok mask =>
        if mask.length = outline.size then ⟨.ok mask, { outline with mask := some mask }⟩
        else ⟨.error (.invalid (.maskShape mask.length outline.size)), outline⟩

/-- A move by a token. Whether it succeeds or not, the mask is dropped. -/
def transit (rules : Rules γ) (token : Int) (outline : Outline γ) : Turn (Outline γ) Unit :=
  let move := rules.transition outline.state token
  let after := { outline with state := move.state, mask := none }
  match move.answer with
  | .error fault => ⟨.error fault, { after with poison := some fault.message }⟩
  | .ok () => ⟨.ok (), { after with steps := outline.steps + 1 }⟩

/-- The outline goes on by a token, if need be after the check that the token is admitted. -/
def advance (rules : Rules γ) (token : Int) (outline : Outline γ) : Turn (Outline γ) Unit :=
  outline.whenUsable <|
    if outline.validates then
      let turn := outline.admits rules token
      match turn.answer with
      | .error fault => ⟨.error fault, turn.state⟩
      | .ok false => ⟨.error (.inadmissible (.int token) none), turn.state⟩
      | .ok true => turn.state.transit rules token
    else outline.transit rules token

/-- Whether the stream may end here. -/
def isComplete (rules : Rules γ) (outline : Outline γ) : Turn (Outline γ) Bool :=
  outline.whenUsable ⟨rules.accepting outline.state, outline⟩

/-- Why the grammar has stopped. -/
def stopReason (rules : Rules γ) (outline : Outline γ) : Turn (Outline γ) Text :=
  outline.whenUsable ⟨rules.stopReason outline.state, outline⟩

/-- The outline at the start of its grammar, or of another one, even if it was poisoned. -/
def reset (rules : Rules γ) (grammar : Option Grammar) (outline : Outline γ) :
    Turn (Outline γ) Unit :=
  let next := grammar.getD outline.grammar
  let move := rules.restart outline.state next
  let after := { outline with state := move.state, mask := none }
  match move.answer with
  | .error fault =>
    ⟨.error fault, { after with poison := some ("reset failed: " ++ fault.message) }⟩
  | .ok () => ⟨.ok (), { after with grammar := next, poison := none, steps := 0 }⟩

/-- The outline's answer to a request. -/
def perform (rules : Rules γ) (outline : Outline γ) : Request → Turn (Outline γ) Reply
  | .admits token => (outline.admits rules token).reply .flag
  | .mask => (outline.fullMask rules).reply .mask
  | .advance token => (outline.advance rules token).reply fun _ => .done
  | .isComplete => (outline.isComplete rules).reply .flag
  | .stopReason => (outline.stopReason rules).reply .reason
  | .reset grammar => (outline.reset rules grammar).reply fun _ => .done

/-- Asking whether a token is admitted leaves the outline as it is. -/
theorem admits_state (rules : Rules γ) (token : Int) (outline : Outline γ) :
    (outline.admits rules token).state = outline := by
  -- The answer is read off or probed, and no path writes anything.
  unfold admits whenUsable
  repeat' split
  all_goals rfl

/-- An advance is refused and changes nothing, or it is a move. -/
theorem advance_cases (rules : Rules γ) (outline : Outline γ) (token : Int) :
    (∃ fault, outline.advance rules token = ⟨.error fault, outline⟩) ∨
      outline.advance rules token = outline.transit rules token := by
  simp only [advance, whenUsable, admits_state]
  cases outline.poison with
  | some cause => exact .inl ⟨_, rfl⟩
  | none =>
    by_cases checks : outline.validates = true
    · -- The check can fail or reject, and only a token that it admits gets to the move.
      simp only [if_pos checks]
      split
      · exact .inl ⟨_, rfl⟩
      · exact .inl ⟨_, rfl⟩
      · exact .inr rfl
    · exact .inr (if_neg checks)

end Outline

namespace Session

/-- The outline of a session whose cursor stands for a grammar state. -/
def outline (session : Session σ κ) (state : γ) : Outline γ where
  state
  grammar := session.grammar
  size := session.size
  validates := session.validates
  mask := session.mask
  poison := session.poison
  steps := session.steps

/-- A session has an outline, and is in the middle of an advance or not. -/
def Shows (stands : Standing σ κ γ) (locked : Bool) (session : Session σ κ)
    (outline : Outline γ) : Prop :=
  ∃ state, stands session.cursor session.world state ∧ session.outline state = outline ∧
    session.locked = locked

end Session

/-- A turn of a session and one of an outline give the same answer, and leave the outline shown. -/
def Turn.Mirrors (turn : Turn (Session σ κ) α) (shadow : Turn (Outline γ) α)
    (stands : Standing σ κ γ) (locked : Bool) : Prop :=
  turn.answer = shadow.answer ∧ turn.state.Shows stands locked shadow.state

namespace Session

variable {oracle : Oracle σ κ} {rules : Rules γ} {stands : Standing σ κ γ} {locked : Bool}
  {session : Session σ κ} {outline : Outline γ}

/-- A session is created where the grammar compiles and the vocabulary has a size. -/
theorem create_eq_ok_iff {world : σ} {grammar : Grammar} {vocabulary : Vocabulary}
    {validates : Bool} {records : List Record} :
    create oracle world grammar vocabulary validates records = .ok session ↔
      ∃ cursor size, (oracle.compile grammar world).answer = .ok cursor ∧
        vocabulary.count = .ok size ∧ session = start (oracle.compile grammar world).state cursor
          grammar vocabulary size validates records := by
  simp only [create, Bind.bind, Except.bind, Pure.pure, Except.pure]
  -- Compiling and counting are the two steps that can fail.
  cases (oracle.compile grammar world).answer with
  | error fault => simp
  | ok cursor =>
    cases vocabulary.count with
    | error fault => simp
    | ok size => simp [eq_comm]

/-- A new session is shown at the start of its grammar. -/
theorem create_shows (answers : oracle.Answers rules stands) {world : σ} {grammar : Grammar}
    {vocabulary : Vocabulary} {validates : Bool} {records : List Record}
    (created : create oracle world grammar vocabulary validates records = .ok session) :
    ∃ state size, vocabulary.count = .ok size ∧
      session.Shows stands false (.opening state grammar size validates) := by
  -- What compiling hands out stands for a state, and nothing has been asked yet.
  obtain ⟨cursor, size, compiled, counted, rfl⟩ := create_eq_ok_iff.mp created
  obtain ⟨state, place⟩ := answers.compiled compiled
  exact ⟨state, size, counted, state, place, rfl, rfl⟩

/-- A new session is shown at the start of its grammar, whichever state its cursor stands for. -/
theorem shows_of_create {world : σ} {grammar : Grammar} {vocabulary : Vocabulary}
    {validates : Bool} {records : List Record}
    (created : create oracle world grammar vocabulary validates records = .ok session) {state : γ}
    (place : stands session.cursor session.world state) :
    session.Shows stands false (.opening state grammar session.size validates) := by
  obtain ⟨cursor, size, _, _, rfl⟩ := create_eq_ok_iff.mp created
  exact ⟨state, place, rfl, rfl⟩

/-- A session is poisoned as its outline is. -/
theorem Shows.poison (shown : session.Shows stands locked outline) :
    session.poison = outline.poison := by
  -- The outline copies the field from the session, as it does all others but the cursor.
  obtain ⟨state, _, rfl, _⟩ := shown
  rfl

/-- A session has the grammar of its outline. -/
theorem Shows.grammar (shown : session.Shows stands locked outline) :
    session.grammar = outline.grammar := by
  obtain ⟨state, _, rfl, _⟩ := shown
  rfl

/-- A session has taken the steps of its outline. -/
theorem Shows.steps (shown : session.Shows stands locked outline) :
    session.steps = outline.steps := by
  obtain ⟨state, _, rfl, _⟩ := shown
  rfl

/-- A session has masks of the size of its outline. -/
theorem Shows.size (shown : session.Shows stands locked outline) :
    session.size = outline.size := by
  obtain ⟨state, _, rfl, _⟩ := shown
  rfl

/-- The oracle tells the mask of a session's cursor as the rules tell that of its state. -/
theorem Shows.mask_answer (shown : session.Shows stands locked outline)
    (answers : oracle.Answers rules stands) :
    (oracle.mask session.cursor session.world).answer = rules.mask outline.state := by
  obtain ⟨state, place, rfl, _⟩ := shown
  exact (answers.mask place).1

/-- Rules that are consistent wherever a cursor stands are consistent where a session is. -/
theorem Shows.consistent (shown : session.Shows stands locked outline) {size : Nat}
    (consistent : rules.AlwaysConsistent stands size) : rules.Consistent size outline.state := by
  obtain ⟨state, place, rfl, _⟩ := shown
  exact consistent place

/-- A session is in the middle of an advance as it is shown to be. -/
theorem Shows.locked_eq (shown : session.Shows stands locked outline) : session.locked = locked := by
  obtain ⟨_, _, _, same⟩ := shown
  exact same

/-- Beginning or ending an advance does not touch the outline. -/
theorem Shows.lock (shown : session.Shows stands locked outline) (flag : Bool) :
    ({ session with locked := flag } : Session σ κ).Shows stands flag outline := by
  obtain ⟨state, place, rfl, _⟩ := shown
  exact ⟨state, place, rfl, rfl⟩

/-- An outline does not tell who owns the session. -/
theorem Shows.owner (shown : session.Shows stands locked outline) (owner : Option Owner) :
    ({ session with owner } : Session σ κ).Shows stands locked outline := shown

/-- A session that is not poisoned refuses every advance in the middle of an operation. -/
theorem reentry_of_usable (usable : session.poison = none) : session.reentry = busy := by
  -- Only the poison is reported before the advance that is under way.
  funext token
  simp [reentry, refusal?, usable, busy]

/-- Answers that are alike become replies that are alike. -/
theorem mirrors_reply {turn : Turn (Session σ κ) α} {shadow : Turn (Outline γ) α}
    (mirrors : turn.Mirrors shadow stands locked) (reply : α → Reply) :
    (turn.reply reply).Mirrors (shadow.reply reply) stands locked :=
  ⟨congrArg (Except.map reply) mirrors.1, mirrors.2⟩

/-- An action is mirrored if it is when the session is not poisoned. -/
theorem whenUsable_mirrors (shown : session.Shows stands locked outline)
    {action : Session σ κ → Turn (Session σ κ) α} {shadow : Turn (Outline γ) α}
    (mirrors : session.poison = none → (action session).Mirrors shadow stands locked) :
    (session.whenUsable action).Mirrors (outline.whenUsable shadow) stands locked := by
  -- The poison is a part of the outline, so both see the same.
  obtain ⟨state, place, rfl, same⟩ := shown
  cases poison : session.poison with
  | none => simpa [whenUsable, Outline.whenUsable, Session.outline, poison] using mirrors poison
  | some cause =>
    -- Both refuse for the same cause.
    simp only [whenUsable, Outline.whenUsable, Session.outline, poison]
    exact ⟨rfl, state, place, by simp [Session.outline, poison], same⟩

/-- A query of the oracle is mirrored by what the rules tell of the state. -/
theorem consult_mirrors {state : γ} (call : OracleCall) {operation : σ → Turn σ α}
    {answer : Except Fault α} (same : session.locked = locked)
    (tells : (operation session.world).Tells answer (stands session.cursor · state)) :
    (session.consult call operation).Mirrors ⟨answer, session.outline state⟩ stands locked :=
  ⟨tells.1, state, tells.2, rfl, same⟩

/-- Admission is decided alike. -/
theorem admits_mirrors (answers : oracle.Answers rules stands)
    (shown : session.Shows stands locked outline) (token : Int) :
    (session.admits oracle token).Mirrors (outline.admits rules token) stands locked := by
  apply whenUsable_mirrors shown
  intro usable
  obtain ⟨state, place, rfl, same⟩ := shown
  rw [reentry_of_usable usable]
  -- The oracle is asked only for a token of the vocabulary, and only without a mask.
  cases kept : session.mask <;> simp only [Session.outline, kept] <;> split
  · exact ⟨rfl, state, place, by simp [Session.outline, kept], same⟩
  · have mirrors := consult_mirrors (.probe token) same (answers.probe place token)
    simpa [Session.outline, kept] using mirrors
  all_goals exact ⟨rfl, state, place, by simp [Session.outline, kept], same⟩

/-- The full mask is the same. -/
theorem fullMask_mirrors (answers : oracle.Answers rules stands)
    (shown : session.Shows stands locked outline) :
    (session.fullMask oracle).Mirrors (outline.fullMask rules) stands locked := by
  apply whenUsable_mirrors shown
  intro usable
  obtain ⟨state, place, rfl, same⟩ := shown
  cases kept : session.mask with
  | some mask =>
    -- A kept mask is handed out without asking the oracle.
    simp only [Session.outline, kept]
    exact ⟨rfl, state, place, by simp [Session.outline, kept], same⟩
  | none =>
    -- The oracle's mask is that of the rules, so both keep it or both refuse it by its length.
    obtain ⟨answer, after⟩ := answers.mask place
    simp only [Session.outline, kept, consult, answer]
    cases rules.mask state with
    | error fault => exact ⟨rfl, state, after, by simp [Session.outline], same⟩
    | ok mask =>
      by_cases fits : mask.length = session.size
      · simp only [if_pos fits]
        exact ⟨rfl, state, after, rfl, same⟩
      · simp only [if_neg fits]
        exact ⟨rfl, state, after, by simp [Session.outline], same⟩

/-- A transition moves the state alike, and drops the mask. -/
theorem transit_mirrors (follows : oracle.Follows rules stands)
    (shown : session.Shows stands locked outline) (usable : outline.poison = none) (token : Int) :
    (session.transit oracle token).Mirrors (outline.transit rules token) stands locked := by
  obtain ⟨state, place, rfl, same⟩ := shown
  have leads := follows.transition place token
  simp only [Session.outline] at usable
  simp only [transit, consult, reentry_of_usable usable, Outline.transit, Session.outline]
  -- The oracle and the rules end alike, and each end leaves the session where the rules lead.
  cases ended : (oracle.transition busy session.cursor token session.world).answer with
  | error fault =>
    obtain ⟨failed, after⟩ := leads.of_error ended
    simp only [failed]
    exact ⟨rfl, _, after, rfl, same⟩
  | ok next =>
    obtain ⟨succeeded, after⟩ := leads.of_ok ended
    simp only [succeeded]
    exact ⟨rfl, _, after, by simp [Session.outline, usable], same⟩

/-- A transition after the check that the token is admitted is mirrored, too. -/
theorem checkedTransit_mirrors (follows : oracle.Follows rules stands)
    (shown : session.Shows stands locked outline) (usable : outline.poison = none) (token : Int) :
    (session.checkedTransit oracle token).Mirrors (outline.advance rules token) stands locked := by
  -- The check is the same query that a caller could have made.
  have mirrors := admits_mirrors follows.toAnswers shown token
  have validates : session.validates = outline.validates := by
    obtain ⟨state, _, rfl, _⟩ := shown
    rfl
  simp only [checkedTransit, Outline.advance, Outline.whenUsable, usable, validates]
  by_cases checks : outline.validates = true
  · simp only [if_pos checks, ← mirrors.1]
    -- Only an admitted token gets to the transition, and the check changed no part of the outline.
    cases admitted : (session.admits oracle token).answer with
    | error fault => exact ⟨rfl, mirrors.2⟩
    | ok admits =>
      cases admits with
      | false => exact ⟨rfl, mirrors.2⟩
      | true => exact transit_mirrors follows mirrors.2 (by rw [Outline.admits_state, usable]) token
  · simp only [if_neg checks]
    exact transit_mirrors follows shown usable token

/-- An advance is mirrored, and the session is not left in the middle of it. -/
theorem advance_mirrors (follows : oracle.Follows rules stands)
    (shown : session.Shows stands false outline) (token : Int) :
    (session.advance oracle token).Mirrors (outline.advance rules token) stands false := by
  cases poisoned : outline.poison with
  | some cause =>
    -- The poison is looked at first, before an advance that is under way.
    have refusal : session.refusal? = some (.poisoned cause) := by
      rw [refusal?, shown.poison, poisoned]
    simp only [advance, refusal, Outline.advance, Outline.whenUsable, poisoned]
    exact ⟨rfl, shown⟩
  | none =>
    -- The session is locked for the check and the move, and unlocked after either.
    have refusal : session.refusal? = none := by
      simp [refusal?, shown.poison, poisoned, shown.locked_eq]
    obtain ⟨answer, after⟩ := checkedTransit_mirrors follows (shown.lock true) poisoned token
    simp only [advance, refusal]
    exact ⟨answer, after.lock false⟩

/-- Completion is decided alike. -/
theorem isComplete_mirrors (answers : oracle.Answers rules stands)
    (shown : session.Shows stands locked outline) :
    (session.isComplete oracle).Mirrors (outline.isComplete rules) stands locked := by
  -- The oracle is asked each time, because completion is not kept.
  apply whenUsable_mirrors shown
  intro _
  obtain ⟨state, place, rfl, same⟩ := shown
  exact consult_mirrors .accepting same (answers.accepting place)

/-- The reason to stop is the same. -/
theorem stopReason_mirrors (answers : oracle.Answers rules stands)
    (shown : session.Shows stands locked outline) :
    (session.stopReason oracle).Mirrors (outline.stopReason rules) stands locked := by
  -- Both are refused when poisoned, and otherwise both ask.
  apply whenUsable_mirrors shown
  intro _
  obtain ⟨state, place, rfl, same⟩ := shown
  exact consult_mirrors .stopReason same (answers.stopReason place)

/-- A reset is mirrored, poisoned or not. -/
theorem reset_mirrors (follows : oracle.Follows rules stands)
    (shown : session.Shows stands locked outline) (grammar : Option Grammar) :
    (session.reset oracle grammar).Mirrors (outline.reset rules grammar) stands locked := by
  -- The grammar to start over with is that of the session if none is given.
  obtain ⟨state, place, rfl, same⟩ := shown
  have leads := follows.restart place (grammar.getD session.grammar)
  simp only [reset, consult, Outline.reset, Session.outline]
  -- A reset asks the oracle even if the session is poisoned, and ends as the restart does.
  cases ended : (oracle.restart session.cursor (grammar.getD session.grammar)
      session.world).answer with
  | error fault =>
    obtain ⟨failed, after⟩ := leads.of_error ended
    simp only [failed]
    exact ⟨rfl, _, after, rfl, same⟩
  | ok next =>
    obtain ⟨succeeded, after⟩ := leads.of_ok ended
    simp only [succeeded]
    exact ⟨rfl, _, after, rfl, same⟩

/-- Every request is answered as the outline answers it. -/
theorem perform_mirrors (follows : oracle.Follows rules stands)
    (shown : session.Shows stands false outline) (request : Request) :
    (session.perform oracle request).Mirrors (outline.perform rules request) stands false := by
  -- Each request wraps one action, whose answer becomes the reply.
  cases request with
  | admits token => exact mirrors_reply (admits_mirrors follows.toAnswers shown token) _
  | mask => exact mirrors_reply (fullMask_mirrors follows.toAnswers shown) _
  | advance token => exact mirrors_reply (advance_mirrors follows shown token) _
  | isComplete => exact mirrors_reply (isComplete_mirrors follows.toAnswers shown) _
  | stopReason => exact mirrors_reply (stopReason_mirrors follows.toAnswers shown) _
  | reset grammar => exact mirrors_reply (reset_mirrors follows shown grammar) _

end Session

end ConstrainedDecoding
