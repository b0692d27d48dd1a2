import ConstrainedDecoding.Proofs.Session.Watched

/-! A session keeps account of the uses that it made of its oracle. -/

namespace ConstrainedDecoding

variable {σ κ : Type}

namespace Session

/-- A session is as the account of its log says, and its log is an orderly one. -/
structure Accounted (locked : Bool) (account : Account) (session : Session (Watched σ) κ) :
    Prop where
  logged : Account.ofLog session.log = account
  poison : session.poison = account.loss
  steps : session.steps = account.taken.length
  asked : session.asked = session.log.map (·.call)
  locked : session.locked = locked
  orderly : IsOrderly session.log

section

variable {oracle : Oracle σ κ} {locked : Bool} {account : Account}
  {session : Session (Watched σ) κ}

/-- An accounted session is poisoned just when its log is stranded. -/
theorem Accounted.isStranded_iff (accounted : Accounted locked account session) :
    IsStranded session.log ↔ session.poison.isSome = true := by
  rw [← ofLog_loss_isSome, accounted.logged, accounted.poison]

/-- A session that is not poisoned has not lost its cursor. -/
theorem Accounted.not_stranded (accounted : Accounted locked account session)
    (usable : session.poison = none) : ¬IsStranded session.log := by
  simp [accounted.isStranded_iff, usable]

/-- Beginning or ending an advance is not entered. -/
theorem Accounted.lock (accounted : Accounted locked account session) (flag : Bool) :
    Accounted flag account ({ session with locked := flag } : Session (Watched σ) κ) :=
  { accounted with locked := rfl }

/-- One more use is entered, if the session that it leaves is as the new account says. -/
theorem Accounted.enter (accounted : Accounted locked account session) {world : σ}
    {entry : Consultation} {after : Session (Watched σ) κ}
    (restarts : IsStranded session.log → entry.call = .restart)
    (noted : after.world = (session.noting world entry).world)
    (asked : after.asked = (session.noting world entry).asked)
    (same : after.locked = session.locked) (poison : after.poison = (account.enter entry).loss)
    (steps : after.steps = (account.enter entry).taken.length) :
    Accounted locked (account.enter entry) after := by
  -- The log of the session goes on with the one use.
  have log : after.log = session.log ++ [entry] := congrArg Watched.log noted
  exact {
    logged := by rw [log, Account.ofLog_snoc, accounted.logged]
    poison
    steps
    asked := by rw [asked, log, List.map_append, ← accounted.asked]; rfl
    locked := same.trans accounted.locked
    orderly := log ▸ accounted.orderly.snoc restarts }

/-- A query of a session that is not poisoned is noted, but it does not change the account. -/
theorem Accounted.noting (accounted : Accounted locked account session)
    (usable : session.poison = none) (world : σ) {entry : Consultation}
    (query : entry.call.isMove = false) :
    Accounted locked account (session.noting world entry) := by
  have same := account.enter_query query
  -- A query enters nothing in the account, so what is noted is all there is to check.
  have entered : Accounted locked (account.enter entry) (session.noting world entry) :=
    accounted.enter (fun stranded => absurd stranded (accounted.not_stranded usable)) rfl rfl rfl
      (by rw [same]; exact accounted.poison) (by rw [same]; exact accounted.steps)
  rwa [same] at entered

/-- A query leaves the account as it is. -/
theorem Accounted.query (accounted : Accounted locked account session) {request : Request}
    (query : request.isQuery = true) :
    Accounted locked account (session.perform oracle.watched request).state := by
  obtain same | ⟨usable, call, world, mask, asked, same⟩ := query_asks oracle.watched session query
  · rwa [same]
  · rw [same]
    -- Whatever was asked is noted with its failure, and the mask is no matter.
    cases asked with
    | probe token => exact { accounted.noting usable _ rfl with }
    | mask => exact { accounted.noting usable _ rfl with }
    | accepting => exact { accounted.noting usable _ rfl with }
    | stopReason => exact { accounted.noting usable _ rfl with }

/-- A transition is entered as it ends. -/
theorem Accounted.transit (accounted : Accounted locked account session)
    (usable : session.poison = none) (token : Int) :
    Accounted locked
      (account.enter ⟨.transition token, (session.transit oracle.watched token).failure?⟩)
      (session.transit oracle.watched token).state := by
  have keeps {entry : Consultation} : IsStranded session.log → entry.call = .restart :=
    fun stranded => absurd stranded (accounted.not_stranded usable)
  simp only [Session.transit, Oracle.watched, consult_record]
  -- The session takes the token or loses the cursor, as the oracle ends.
  cases ended : (oracle.transition session.reentry session.cursor token
      session.world.world).answer with
  | error fault =>
    simp only [Turn.failure?, ended]
    exact accounted.enter keeps rfl rfl rfl rfl accounted.steps
  | ok cursor =>
    simp only [Turn.failure?, ended]
    refine accounted.enter keeps rfl rfl rfl accounted.poison ?_
    simp [Account.enter, accounted.steps]

/-- A reset is entered as it ends, whether or not the cursor was lost. -/
theorem Accounted.reset (accounted : Accounted locked account session) (grammar : Option Grammar) :
    Accounted locked (account.enter ⟨.restart, (session.reset oracle.watched grammar).failure?⟩)
      (session.reset oracle.watched grammar).state := by
  simp only [Session.reset, Oracle.watched, consult_record]
  -- Only a reset that succeeds takes the tokens back and finds the cursor again.
  cases ended : (oracle.restart session.cursor (grammar.getD session.grammar)
      session.world.world).answer with
  | error fault =>
    simp only [Turn.failure?, ended]
    exact accounted.enter (fun _ => rfl) rfl rfl rfl rfl accounted.steps
  | ok cursor =>
    simp only [Turn.failure?, ended]
    exact accounted.enter (fun _ => rfl) rfl rfl rfl rfl rfl

/-- A transition that is refused leaves the account, and any other one is entered as it ends. -/
theorem Accounted.checkedTransit (accounted : Accounted locked account session)
    (usable : session.poison = none) (token : Int) :
    (∃ fault, (session.checkedTransit oracle.watched token).answer = .error fault ∧
      Accounted locked account (session.checkedTransit oracle.watched token).state) ∨
    Accounted locked
      (account.enter ⟨.transition token, (session.checkedTransit oracle.watched token).failure?⟩)
      (session.checkedTransit oracle.watched token).state := by
  -- The check is a query, so it leaves the account, and with it the session usable.
  have query : (Request.admits token).isQuery = true := rfl
  have checked : Accounted locked account (session.admits oracle.watched token).state :=
    accounted.query query
  have usableStill := checked.poison.trans (accounted.poison.symm.trans usable)
  obtain ⟨fault, refused, _⟩ | ⟨ready, rfl | rfl, moves⟩ :=
    session.checkedTransit_cases oracle.watched token
  · exact .inl ⟨fault, by rw [refused], by rw [refused]; exact checked⟩
  · exact .inr (moves ▸ accounted.transit usable token)
  · exact .inr (moves ▸ checked.transit usableStill token)

/-- An advance that is refused leaves the account, and any other one is entered as it ends. -/
theorem Accounted.advance (accounted : Accounted false account session) (token : Int) :
    (∃ fault, (session.advance oracle.watched token).answer = .error fault ∧
      Accounted false account (session.advance oracle.watched token).state) ∨
    Accounted false
      (account.enter ⟨.transition token, (session.advance oracle.watched token).failure?⟩)
      (session.advance oracle.watched token).state := by
  cases poison : session.poison with
  | some cause =>
    simp only [Session.advance, refusal?, poison]
    exact .inl ⟨_, rfl, accounted⟩
  | none =>
    -- The session is locked for the check and the transition, and unlocked after either.
    have refusal : session.refusal? = none := by simp [refusal?, poison, accounted.locked]
    simp only [Session.advance, refusal]
    rcases (accounted.lock true).checkedTransit poison token with ⟨fault, refused, after⟩ | after
    · exact .inl ⟨fault, refused, after.lock false⟩
    · exact .inr (after.lock false)

/-- Every request leaves a session accounted for. -/
theorem Accounted.perform (accounted : Accounted false account session) (request : Request) :
    ∃ after, Accounted false after (session.perform oracle.watched request).state := by
  -- A query changes no account, a move may.
  obtain query | ⟨token, rfl⟩ | ⟨grammar, rfl⟩ := request.query_or_move
  · exact ⟨account, accounted.query query⟩
  · rcases accounted.advance token with ⟨_, _, after⟩ | after
    · exact ⟨account, after⟩
    · exact ⟨_, after⟩
  · exact ⟨_, accounted.reset grammar⟩

/-- A new session has its cursor, and has taken no tokens. -/
theorem create_accounted {world : Watched σ} {grammar : Grammar} {vocabulary : Vocabulary}
    {validates : Bool} {records : List Record}
    (created : create oracle.watched world grammar vocabulary validates records = .ok session) :
    Accounted false .opening session := by
  obtain ⟨cursor, size, compiled, _, rfl⟩ := create_eq_ok_iff.mp created
  refine ⟨rfl, rfl, rfl, rfl, rfl, ?_⟩
  -- The one use so far is the compiling, before which there was nothing to lose.
  have empty : IsOrderly [] := by
    intro before entry after split
    simp at split
  refine empty.snoc fun stranded => ?_
  rw [← ofLog_loss_isSome] at stranded
  cases stranded

/-- No account tells who owns the session. -/
theorem Accounted.claim (accounted : Accounted locked account session) (owner : Owner) :
    Accounted locked account (session.claim owner).state := by
  simp only [Session.claim]
  split
  · exact accounted
  · exact { accounted with }

/-- All sessions that come up are accounted for. -/
theorem Reachable.accounted (reachable : Reachable oracle.watched session) :
    ∃ account, Accounted false account session := by
  -- Only requests use the oracle, so whatever else is done leaves the account as it is.
  induction reachable using Reachable.requestInduction with
  | created created => exact ⟨_, create_accounted created⟩
  | performed request _ ih =>
    obtain ⟨account, accounted⟩ := ih
    exact accounted.perform request
  | unseen _ _ _ _ _ ih =>
    obtain ⟨account, accounted⟩ := ih
    exact ⟨account, { accounted with }⟩

/-- A token that is taken is entered. -/
theorem Accounted.advance_ok (accounted : Accounted false account session) {token : Int}
    (moved : (session.advance oracle.watched token).answer = .ok ()) :
    Accounted false { account with taken := account.taken ++ [token] }
      (session.advance oracle.watched token).state := by
  -- An advance that was refused did not succeed, so the token has been taken.
  rcases accounted.advance token with ⟨fault, refused, _⟩ | after
  · rw [refused] at moved
    cases moved
  · simpa only [Turn.failure?, moved, Account.enter] using after

/-- A token that is not taken is not entered, even if the cursor is lost to it. -/
theorem Accounted.advance_error (accounted : Accounted false account session) {token : Int}
    {fault : Fault} (failed : (session.advance oracle.watched token).answer = .error fault) :
    ∃ loss, Accounted false { account with loss }
      (session.advance oracle.watched token).state := by
  -- It failed before the transition, which loses nothing, or in it.
  rcases accounted.advance token with ⟨_, _, after⟩ | after
  · exact ⟨account.loss, after⟩
  · simp only [Turn.failure?, failed, Account.enter] at after
    exact ⟨_, after⟩

/-- A reset that succeeds opens the account anew. -/
theorem Accounted.reset_ok (accounted : Accounted locked account session)
    {grammar : Option Grammar} (moved : (session.reset oracle.watched grammar).answer = .ok ()) :
    Accounted locked .opening (session.reset oracle.watched grammar).state := by
  have after : Accounted locked _ (session.reset oracle.watched grammar).state :=
    accounted.reset grammar
  simpa only [Turn.failure?, moved, Account.enter] using after

/-- A reset that fails gives no token back. -/
theorem Accounted.reset_error (accounted : Accounted locked account session)
    {grammar : Option Grammar} {fault : Fault}
    (failed : (session.reset oracle.watched grammar).answer = .error fault) :
    ∃ loss, Accounted locked { account with loss }
      (session.reset oracle.watched grammar).state := by
  have after : Accounted locked _ (session.reset oracle.watched grammar).state :=
    accounted.reset grammar
  -- All that a failed restart enters is the loss.
  simp only [Turn.failure?, failed, Account.enter] at after
  exact ⟨_, after⟩

end

end Session

end ConstrainedDecoding
