import ConstrainedDecoding.Proofs.Session.Mask

/-! The sessions that come up in use, and what holds of all that are not poisoned. -/

namespace ConstrainedDecoding

/-- An oracle is asked something about a cursor, which leads to another world. -/
inductive Oracle.Asked {σ κ : Type} (oracle : Oracle σ κ) (reentry : Reentry) (cursor : κ)
    (world : σ) : OracleCall → σ → Prop where
  | probe (token : Int) : Asked oracle reentry cursor world (.probe token)
      (oracle.probe reentry cursor token world).state
  | mask : Asked oracle reentry cursor world .mask (oracle.mask cursor world).state
  | accepting : Asked oracle reentry cursor world .accepting (oracle.accepting cursor world).state
  | stopReason : Asked oracle reentry cursor world .stopReason
      (oracle.stopReason cursor world).state

namespace Session

variable {σ κ γ : Type}

/-- The sessions that come up: new ones, and whatever requests, owners and appliers leave behind. -/
inductive Reachable (oracle : Oracle σ κ) : Session σ κ → Prop where
  | created {world : σ} {grammar : Grammar} {vocabulary : Vocabulary} {validates : Bool}
      {records : List Record} {session : Session σ κ} :
      create oracle world grammar vocabulary validates records = .ok session →
      Reachable oracle session
  | performed {session : Session σ κ} (request : Request) : Reachable oracle session →
      Reachable oracle (session.perform oracle request).state
  | claimed {session : Session σ κ} (owner : Owner) : Reachable oracle session →
      Reachable oracle (session.claim owner).state
  | released {session : Session σ κ} (owner : Owner) : Reachable oracle session →
      Reachable oracle (session.release owner)
  | validating {session : Session σ κ} (validates : Bool) : Reachable oracle session →
      Reachable oracle { session with validates }
  | noted {session : Session σ κ} (records : List Record) : Reachable oracle session →
      Reachable oracle { session with records }

/-- A claim changes the owner at most. -/
theorem claim_eq (session : Session σ κ) (claimant : Owner) :
    ∃ owner, (session.claim claimant).state = { session with owner } := by
  simp only [claim]
  split
  · exact ⟨session.owner, rfl⟩
  · exact ⟨some claimant, rfl⟩

/-- So does a release. -/
theorem release_eq (session : Session σ κ) (holder : Owner) :
    ∃ owner, session.release holder = { session with owner } := by
  simp only [release]
  split
  · exact ⟨none, rfl⟩
  · exact ⟨session.owner, rfl⟩

/--
What holds of new sessions, and after requests, holds of every session that comes up.

It must not tell who owns the session, whether it checks tokens first, or what it recorded.
-/
theorem Reachable.requestInduction {oracle : Oracle σ κ}
    {motive : (session : Session σ κ) → Reachable oracle session → Prop}
    (created : ∀ {world : σ} {grammar : Grammar} {vocabulary : Vocabulary} {validates : Bool}
      {records : List Record} {session : Session σ κ}
      (made : create oracle world grammar vocabulary validates records = .ok session),
      motive session (.created made))
    (performed : ∀ {session : Session σ κ} (request : Request)
      (reachable : Reachable oracle session), motive session reachable →
      motive (session.perform oracle request).state (.performed request reachable))
    (unseen : ∀ {session : Session σ κ} (owner : Option Owner) (validates : Bool)
      (records : List Record) (reachable : Reachable oracle session)
      (after : Reachable oracle { session with owner, validates, records }),
      motive session reachable → motive { session with owner, validates, records } after)
    {session : Session σ κ} (reachable : Reachable oracle session) :
    motive session reachable := by
  -- Of the other steps, each changes one of three fields.
  have other {session after : Session σ κ} (reachable : Reachable oracle session)
      (comes : Reachable oracle after) (ih : motive session reachable)
      (same : ∃ owner validates records, after = { session with owner, validates, records }) :
      motive after comes := by
    obtain ⟨owner, validates, records, rfl⟩ := same
    exact unseen owner validates records reachable comes ih
  induction reachable with
  | created made => exact created made
  | performed request reachable ih => exact performed request reachable ih
  | @claimed session owner reachable ih =>
    obtain ⟨owner, same⟩ := session.claim_eq owner
    exact other reachable _ ih ⟨owner, session.validates, session.records, same⟩
  | @released session owner reachable ih =>
    obtain ⟨owner, same⟩ := session.release_eq owner
    exact other reachable _ ih ⟨owner, session.validates, session.records, same⟩
  | @validating session validates reachable ih =>
    exact other reachable _ ih ⟨session.owner, validates, session.records, rfl⟩
  | @noted session records reachable ih =>
    exact other reachable _ ih ⟨session.owner, session.validates, records, rfl⟩

/-- A session that is not poisoned has an outline, and its mask is a faithful one. -/
structure Sound (rules : Rules γ) (stands : Standing σ κ γ) (locked : Bool)
    (session : Session σ κ) : Prop where
  flag : session.locked = locked
  usable : session.poison = none →
    ∃ outline : Outline γ, session.Shows stands locked outline ∧ outline.Faithful rules

section

variable {oracle : Oracle σ κ} {rules : Rules γ} {stands : Standing σ κ γ} {locked : Bool}
  {session : Session σ κ} {outline : Outline γ}

/-- A session that shows a faithful outline is sound. -/
theorem Sound.of_shows (shown : session.Shows stands locked outline)
    (faithful : outline.Faithful rules) : session.Sound rules stands locked where
  flag := shown.locked_eq
  usable _ := ⟨outline, shown, faithful⟩

/-- A poisoned session is sound. -/
theorem Sound.of_poison (same : session.locked = locked) {cause : Text}
    (poisoned : session.poison = some cause) : session.Sound rules stands locked where
  flag := same
  usable usable := by
    -- What would have to be shown of a session that is usable is vacuous.
    rw [poisoned] at usable
    cases usable

/-- Beginning or ending an advance leaves a session sound. -/
theorem Sound.lock (sound : session.Sound rules stands locked) (flag : Bool) :
    ({ session with locked := flag } : Session σ κ).Sound rules stands flag where
  flag := rfl
  usable usable := by
    obtain ⟨outline, shown, faithful⟩ := sound.usable usable
    exact ⟨outline, shown.lock flag, faithful⟩

/-- A query is mirrored even if the oracle does not move by the grammar state alone. -/
theorem query_mirrors (answers : oracle.Answers rules stands)
    (shown : session.Shows stands locked outline) {request : Request}
    (query : request.isQuery = true) :
    (session.perform oracle request).Mirrors (outline.perform rules request) stands locked := by
  -- No query moves the oracle, so its answers are all that is needed.
  obtain ⟨token, rfl⟩ | rfl | rfl | rfl := Request.query_cases query
  · exact mirrors_reply (admits_mirrors answers shown token) _
  · exact mirrors_reply (fullMask_mirrors answers shown) _
  · exact mirrors_reply (isComplete_mirrors answers shown) _
  · exact mirrors_reply (stopReason_mirrors answers shown) _

/-- A poisoned session refuses everything but a reset, and stays as it is. -/
theorem perform_of_poison {cause : Text} (poisoned : session.poison = some cause)
    {request : Request} (stays : ∀ grammar, request ≠ .reset grammar) :
    session.perform oracle request = ⟨.error (.poisoned cause), session⟩ := by
  -- Each of these requests looks at the poison before anything else.
  cases request with
  | admits token => simp [perform, Turn.reply, admits, whenUsable, poisoned, Except.map]
  | mask => simp [perform, Turn.reply, fullMask, whenUsable, poisoned, Except.map]
  | advance token => simp [perform, Turn.reply, advance, refusal?, poisoned, Except.map]
  | isComplete => simp [perform, Turn.reply, isComplete, whenUsable, poisoned, Except.map]
  | stopReason => simp [perform, Turn.reply, stopReason, whenUsable, poisoned, Except.map]
  | reset grammar => exact absurd rfl (stays grammar)

/-- A query leaves a poisoned session as it is. -/
theorem query_of_poison {cause : Text} (poisoned : session.poison = some cause) {request : Request}
    (query : request.isQuery = true) : (session.perform oracle request).state = session := by
  -- A query is no reset.
  have stays : ∀ grammar, request ≠ .reset grammar := by
    rintro grammar rfl
    cases query
  rw [perform_of_poison poisoned stays]

/-- A session that is not poisoned acts. -/
theorem whenUsable_of_usable {α : Type} (usable : session.poison = none)
    (action : Session σ κ → Turn (Session σ κ) α) : session.whenUsable action = action session := by
  simp only [whenUsable, usable]

/-- A query is answered by the session itself, or the oracle is asked once. -/
theorem query_asks (oracle : Oracle σ κ) (session : Session σ κ) {request : Request}
    (query : request.isQuery = true) :
    (session.perform oracle request).state = session ∨
      session.poison = none ∧ ∃ call world mask,
        oracle.Asked session.reentry session.cursor session.world call world ∧
        (session.perform oracle request).state =
          { session with world, mask, asked := session.asked ++ [call] } := by
  rcases Option.eq_none_or_eq_some session.poison with usable | ⟨cause, poisoned⟩
  · obtain ⟨token, rfl⟩ | rfl | rfl | rfl := Request.query_cases query
    · simp only [perform, Turn.reply, admits, whenUsable_of_usable usable]
      -- An id outside the vocabulary and a mask that is kept need no oracle.
      split
      · exact .inl rfl
      · split
        · exact .inl rfl
        · exact .inr ⟨usable, _, _, session.mask, .probe token, rfl⟩
    · simp only [perform, Turn.reply, fullMask, whenUsable_of_usable usable]
      split
      · exact .inl rfl
      · -- The mask that the oracle makes is kept if it has the right length.
        split
        · exact .inr ⟨usable, _, _, session.mask, .mask, rfl⟩
        · split
          · exact .inr ⟨usable, _, _, _, .mask, rfl⟩
          · exact .inr ⟨usable, _, _, session.mask, .mask, rfl⟩
    · simp only [perform, Turn.reply, isComplete, whenUsable_of_usable usable]
      exact .inr ⟨usable, _, _, session.mask, .accepting, rfl⟩
    · simp only [perform, Turn.reply, stopReason, whenUsable_of_usable usable]
      exact .inr ⟨usable, _, _, session.mask, .stopReason, rfl⟩
  · exact .inl (query_of_poison poisoned query)

/-- A token is refused by the check, or the transition is made, with or without the check. -/
theorem checkedTransit_cases (oracle : Oracle σ κ) (session : Session σ κ) (token : Int) :
    (∃ fault, session.checkedTransit oracle token =
        ⟨.error fault, (session.admits oracle token).state⟩ ∧
      ((session.admits oracle token).answer = .error fault ∨
        fault = .inadmissible (.int token) none)) ∨
    ∃ ready, (ready = session ∨ ready = (session.admits oracle token).state) ∧
      session.checkedTransit oracle token = ready.transit oracle token := by
  simp only [checkedTransit]
  -- With the check there are its fault, its refusal and its consent. Without it there is the
  -- transition only.
  split
  · split
    · rename_i fault failed
      exact .inl ⟨fault, rfl, .inl failed⟩
    · exact .inl ⟨_, rfl, .inr rfl⟩
    · exact .inr ⟨_, .inr rfl, rfl⟩
  · exact .inr ⟨session, .inl rfl, rfl⟩

/-- A query leaves a session sound. -/
theorem query_sound (answers : oracle.Answers rules stands)
    (sound : session.Sound rules stands locked) {request : Request}
    (query : request.isQuery = true) :
    (session.perform oracle request).state.Sound rules stands locked := by
  -- A poisoned session is left as it is, and any other one has a faithful outline.
  cases poison : session.poison with
  | some cause => rwa [query_of_poison poison query]
  | none =>
    obtain ⟨outline, shown, faithful⟩ := sound.usable poison
    exact .of_shows (query_mirrors answers shown query).2 (faithful.query query)

/-- A move leads to a place that the oracle answers for, or it poisons the session. -/
theorem transit_sound (answers : oracle.Answers rules stands)
    (shown : session.Shows stands locked outline) (usable : session.poison = none) (token : Int) :
    (session.transit oracle token).state.Sound rules stands locked := by
  obtain ⟨state, place, rfl, same⟩ := shown
  simp only [transit, consult, reentry_of_usable usable]
  -- Where a failed move leaves the cursor is not known, and need not be.
  cases moved : (oracle.transition busy session.cursor token session.world).answer with
  | error fault => exact .of_poison same rfl
  | ok next =>
    obtain ⟨after, stands⟩ := answers.moved place moved
    exact .of_shows ⟨after, stands, rfl, same⟩ (Outline.faithful_of_none rfl)

/-- So does a move after the check that the token is admitted. -/
theorem checkedTransit_sound (answers : oracle.Answers rules stands)
    (shown : session.Shows stands locked outline) (faithful : outline.Faithful rules)
    (usable : session.poison = none) (token : Int) :
    (session.checkedTransit oracle token).state.Sound rules stands locked := by
  -- The check leaves the outline as it is, so the session stays usable for the move.
  have checked := (admits_mirrors answers shown token).2
  rw [Outline.admits_state] at checked
  have usableStill := checked.poison.trans (shown.poison.symm.trans usable)
  simp only [checkedTransit]
  by_cases checks : session.validates = true
  · rw [if_pos checks]
    -- A failed check and a rejected token leave the session where it was.
    split
    · exact .of_shows checked faithful
    · exact .of_shows checked faithful
    · exact transit_sound answers checked usableStill token
  · rw [if_neg checks]
    exact transit_sound answers shown usable token

/-- An advance leaves a session sound. -/
theorem advance_sound (answers : oracle.Answers rules stands)
    (sound : session.Sound rules stands false) (token : Int) :
    (session.advance oracle token).state.Sound rules stands false := by
  -- A poisoned session is refused before it is locked.
  cases poison : session.poison with
  | some cause => simpa [advance, refusal?, poison] using sound
  | none =>
    -- The session is locked for the check and the move, and unlocked after either.
    obtain ⟨outline, shown, faithful⟩ := sound.usable poison
    have refusal : session.refusal? = none := by simp [refusal?, poison, sound.flag]
    simp only [advance, refusal]
    exact (checkedTransit_sound answers (shown.lock true) faithful poison token).lock false

/-- A reset leads to a place that the oracle answers for, or it poisons the session. -/
theorem reset_sound (answers : oracle.Answers rules stands) (same : session.locked = locked)
    (grammar : Option Grammar) :
    (session.reset oracle grammar).state.Sound rules stands locked := by
  -- A reset need not start from a place that is known, so it heals a poisoned session.
  simp only [reset, consult]
  cases moved : (oracle.restart session.cursor (grammar.getD session.grammar)
      session.world).answer with
  | error fault => exact .of_poison same rfl
  | ok next =>
    obtain ⟨after, stands⟩ := answers.restarted moved
    exact .of_shows ⟨after, stands, rfl, same⟩ (Outline.faithful_of_none rfl)

/-- Every request leaves a session sound. -/
theorem perform_sound (answers : oracle.Answers rules stands)
    (sound : session.Sound rules stands false) (request : Request) :
    (session.perform oracle request).state.Sound rules stands false := by
  obtain query | ⟨token, rfl⟩ | ⟨grammar, rfl⟩ := request.query_or_move
  · exact query_sound answers sound query
  · exact advance_sound answers sound token
  · exact reset_sound answers sound.flag grammar

/-- Whoever owns a session, whether it checks tokens and what it recorded is no matter for it. -/
theorem Sound.unseen (sound : session.Sound rules stands locked) (owner : Option Owner)
    (validates : Bool) (records : List Record) :
    ({ session with owner, validates, records } : Session σ κ).Sound rules stands locked where
  flag := sound.flag
  usable usable := by
    -- The outline records whether there are checks, but its state and its mask do not depend on it.
    obtain ⟨outline, ⟨state, place, rfl, same⟩, faithful⟩ := sound.usable usable
    exact ⟨_, ⟨state, place, rfl, same⟩, faithful⟩

/-- All sessions that come up are sound. -/
theorem Reachable.sound (answers : oracle.Answers rules stands)
    (reachable : Reachable oracle session) : session.Sound rules stands false := by
  -- Requests are the only steps that reach the oracle, and they leave a session sound.
  induction reachable using Reachable.requestInduction with
  | created created =>
    obtain ⟨state, size, _, shown⟩ := create_shows answers created
    exact .of_shows shown (Outline.faithful_of_none rfl)
  | performed request _ sound => exact perform_sound answers sound request
  | unseen owner validates records _ _ sound => exact sound.unseen owner validates records

end

end Session

end ConstrainedDecoding
