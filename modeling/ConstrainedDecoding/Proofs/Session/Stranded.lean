import ConstrainedDecoding.Proofs.Oracle.Automata
import ConstrainedDecoding.Proofs.Session.Accounted

/-! A cursor that a failed move left behind is not used until a reset succeeds. -/

namespace ConstrainedDecoding

variable {σ κ α : Type}

namespace Session

/-- A turn that ends as poisoned does so because the last use of the oracle ended so. -/
def BlamesOracle (session : Session (Watched σ) κ) (turn : Turn (Session (Watched σ) κ) α) :
    Prop :=
  ∀ cause, turn.answer = .error (.poisoned cause) → ∃ earlier call,
    turn.state.log = session.log ++ earlier ++ [⟨call, some (.poisoned cause)⟩]

section

variable {oracle : Oracle σ κ} {session : Session (Watched σ) κ}

/-- A turn that does not end as poisoned blames nobody. -/
theorem BlamesOracle.of_ne {turn : Turn (Session (Watched σ) κ) α}
    (other : ∀ cause, turn.answer ≠ .error (.poisoned cause)) : session.BlamesOracle turn :=
  fun cause poisoned => absurd poisoned (other cause)

/-- A use of the oracle that fails is to blame for the answer. -/
theorem consult_blames (call : OracleCall) (operation : σ → Turn σ α) :
    session.BlamesOracle (session.consult call (Watched.record call operation)) := by
  intro cause poisoned
  rw [consult_record] at poisoned ⊢
  refine ⟨[], call, ?_⟩
  -- What the oracle answered is what was written down.
  have answer : (operation session.world.world).answer = .error (.poisoned cause) := poisoned
  have failure : (operation session.world.world).failure? = some (.poisoned cause) := by
    simp only [Turn.failure?, answer]
  simp [Session.noting, Session.log, failure]

/-- Uses of the oracle that were made before do not take the blame off the last one. -/
theorem BlamesOracle.after {turn : Turn (Session (Watched σ) κ) α}
    {middle : Session (Watched σ) κ} (blames : middle.BlamesOracle turn)
    {uses : List Consultation} (log : middle.log = session.log ++ uses) :
    session.BlamesOracle turn := by
  intro cause poisoned
  obtain ⟨earlier, call, logged⟩ := blames cause poisoned
  exact ⟨uses ++ earlier, call, by rw [logged, log, List.append_assoc session.log]⟩

/-- A reply blames whoever the answer does. -/
theorem BlamesOracle.reply {turn : Turn (Session (Watched σ) κ) α}
    (blames : session.BlamesOracle turn) (reply : α → Reply) :
    session.BlamesOracle (turn.reply reply) := by
  intro cause poisoned
  refine blames cause ?_
  simp only [Turn.reply] at poisoned
  -- Wrapping the answer does not touch a fault.
  cases answer : turn.answer with
  | ok value => simp [answer, Except.map] at poisoned
  | error fault => simpa [answer, Except.map] using poisoned

/-- A session that is not poisoned decides about admission by itself, or blames the oracle. -/
theorem admits_blames (usable : session.poison = none) (token : Int) :
    session.BlamesOracle (session.admits oracle.watched token) := by
  simp only [admits, whenUsable, usable]
  -- The oracle is asked only inside the vocabulary and without a mask.
  split
  · exact .of_ne (by simp)
  · split
    · exact .of_ne (by simp)
    · exact consult_blames (.probe token) _

/-- What was written in the log stays there when the session is asked for admission. -/
theorem admits_log (oracle : Oracle σ κ) (session : Session (Watched σ) κ) (token : Int) :
    ∃ uses, (session.admits oracle.watched token).state.log = session.log ++ uses := by
  have query : (Request.admits token).isQuery = true := rfl
  -- A probe adds itself to the log, and what it asks for in the middle.
  obtain same | ⟨_, call, world, mask, asked, same⟩ := query_asks oracle.watched session query
  · exact ⟨[], (congrArg Session.log same).trans (List.append_nil _).symm⟩
  · have logged := congrArg Session.log same
    cases asked <;> exact ⟨_, logged⟩

/-- A mask of the wrong length is no poison, and every other failure is the oracle's. -/
theorem fullMask_blames (usable : session.poison = none) :
    session.BlamesOracle (session.fullMask oracle.watched) := by
  simp only [fullMask, whenUsable, usable]
  -- A mask of a wrong length is refused in other words than those of poison.
  split
  · exact .of_ne (by simp)
  · have asked : session.BlamesOracle
        (session.consult .mask (oracle.watched.mask session.cursor)) := consult_blames .mask _
    split
    · rename_i fault failed
      exact fun cause poisoned => asked cause (failed.trans (by simpa using poisoned))
    · split
      · exact .of_ne (by simp)
      · exact .of_ne (by simp)

/-- A transition that ends as poisoned is the oracle's. -/
theorem transit_blames (token : Int) :
    session.BlamesOracle (session.transit oracle.watched token) := by
  have moved : session.BlamesOracle (session.consult (.transition token)
      (oracle.watched.transition session.reentry session.cursor token)) :=
    consult_blames (.transition token) _
  simp only [transit]
  -- A transition that fails passes on the fault of the oracle.
  split
  · rename_i fault failed
    exact fun cause poisoned => moved cause (failed.trans (by simpa using poisoned))
  · exact .of_ne (by simp)

/-- So is a reset that ends so. -/
theorem reset_blames (grammar : Option Grammar) :
    session.BlamesOracle (session.reset oracle.watched grammar) := by
  have moved : session.BlamesOracle (session.consult .restart
      (oracle.watched.restart session.cursor (grammar.getD session.grammar))) :=
    consult_blames .restart _
  simp only [reset]
  -- A restart that fails passes on the fault of the oracle.
  split
  · rename_i fault failed
    exact fun cause poisoned => moved cause (failed.trans (by simpa using poisoned))
  · exact .of_ne (by simp)

/-- A check may fail by the oracle, and a token that it rejects is no poison. -/
theorem checkedTransit_blames (usable : session.poison = none) (token : Int) :
    session.BlamesOracle (session.checkedTransit oracle.watched token) := by
  have check : session.BlamesOracle (session.admits oracle.watched token) :=
    admits_blames usable token
  obtain ⟨uses, log⟩ := admits_log oracle session token
  -- Both the check and the transition are asked of the oracle, and a refusal is no poison.
  obtain ⟨fault, refused, failed | rfl⟩ | ⟨ready, rfl | rfl, moves⟩ :=
    session.checkedTransit_cases oracle.watched token
  · rw [refused]
    exact fun cause poisoned => check cause (failed.trans (by simpa using poisoned))
  · rw [refused]
    exact .of_ne (by simp)
  · exact moves ▸ transit_blames token
  · exact moves ▸ (transit_blames token).after log

/-- An advance of a session that is not poisoned ends as poisoned only by the oracle. -/
theorem advance_blames (usable : session.poison = none) (token : Int) :
    session.BlamesOracle (session.advance oracle.watched token) := by
  cases refused : session.refusal? with
  | some fault =>
    -- The one refusal left is that of a session in the middle of an advance.
    have busy : fault = .concurrent := by
      simp only [refusal?, usable] at refused
      split at refused
      · exact (Option.some.inj refused).symm
      · cases refused
    simp only [advance, refused]
    exact .of_ne (by simp [busy])
  | none =>
    simp only [advance, refused]
    -- The lock touches neither the poison nor the log.
    have busy : ({ session with locked := true } : Session (Watched σ) κ).poison = none := usable
    exact fun cause poisoned => checkedTransit_blames busy token cause poisoned

/-- A session that is not poisoned never says so of itself. -/
theorem perform_blames (usable : session.poison = none) (request : Request) :
    session.BlamesOracle (session.perform oracle.watched request) := by
  -- Each request asks the oracle at most for what it was made for.
  cases request with
  | admits token => exact (admits_blames usable token).reply _
  | mask => exact (fullMask_blames usable).reply _
  | advance token => exact (advance_blames usable token).reply _
  | isComplete =>
    simp only [perform, isComplete, whenUsable, usable]
    exact (consult_blames .accepting _).reply _
  | stopReason =>
    simp only [perform, stopReason, whenUsable, usable]
    exact (consult_blames .stopReason _).reply _
  | reset grammar => exact (reset_blames grammar).reply _

/--
A cursor that a failed move left behind is never used.

While the log of a session is stranded, its oracle is used for nothing but restarts, and the
session refuses everything but a reset without a trace. As long as it is not, no request ends as
poisoned unless the last use of the oracle did.
-/
theorem stranded_untouched {plain : Session σ κ} (reachable : Reachable oracle plain) :
    (∃ session, Watches oracle session plain) ∧ ∀ session, Watches oracle session plain →
      plain.asked = session.log.map (·.call) ∧ IsOrderly session.log ∧
      (IsStranded session.log → ∀ request, (∀ grammar, request ≠ .reset grammar) →
        ∃ cause, plain.perform oracle request = ⟨.error (.poisoned cause), plain⟩) ∧
      (¬IsStranded session.log → ∀ request cause,
        (plain.perform oracle request).answer = .error (.poisoned cause) → ∃ earlier call,
          (session.perform oracle.watched request).state.log =
            session.log ++ earlier ++ [⟨call, some (.poisoned cause)⟩]) ∧
      ∀ grammar, (session.reset oracle.watched grammar).state.log =
        session.log ++ [⟨.restart, (plain.reset oracle grammar).failure?⟩] := by
  refine ⟨reachable.exists_watches, ?_⟩
  rintro session ⟨watched, rfl⟩
  obtain ⟨account, accounted⟩ := watched.accounted
  refine ⟨accounted.asked, accounted.orderly, ?_, ?_, ?_⟩
  · -- The session is poisoned, and that is all that a request looks at.
    intro stranded request stays
    obtain ⟨cause, poisoned⟩ := Option.isSome_iff_exists.mp (accounted.isStranded_iff.mp stranded)
    have lost : session.unwatched.poison = some cause := poisoned
    exact ⟨cause, perform_of_poison lost stays⟩
  · intro found request cause poisoned
    rw [accounted.isStranded_iff, Option.not_isSome_iff_eq_none] at found
    rw [perform_unwatched] at poisoned
    exact perform_blames found request cause poisoned
  · intro grammar
    rw [reset_unwatched]
    -- A reset is one restart, and it fails just if that does.
    simp only [reset, Oracle.watched, consult_record]
    cases ended : (oracle.restart session.cursor (grammar.getD session.grammar)
        session.world.world).answer with
    | error fault => simp [Turn.failure?, Turn.unwatched, ended, Session.noting, Session.log]
    | ok cursor => simp [Turn.failure?, Turn.unwatched, ended, Session.noting, Session.log]

/-- The session of the pairs has lost its cursor to a token that does not come first. -/
theorem stranded_untouched_pairs :
    let lost := ((Automata.alternatingSession false).advance Automata.alternating.oracle 1).state
    ∃ cause, lost.perform Automata.alternating.oracle .mask = ⟨.error (.poisoned cause), lost⟩ := by
  intro lost
  have reachable : Reachable Automata.alternating.oracle lost :=
    .performed (.advance 1) (.created (Automata.alternating_create false))
  -- The session is watched from its creation on, and its last use was the failed transition.
  let watched : Session (Watched Unit) Place := .start ⟨(), [⟨.compile, none⟩]⟩
    ⟨Automata.pairs, 0⟩ Automata.alternatingGrammar Automata.alternatingVocabulary 3 false []
  have created : create Automata.alternating.oracle.watched ⟨(), []⟩ Automata.alternatingGrammar
      Automata.alternatingVocabulary false [] = .ok watched := rfl
  have watches : Watches Automata.alternating.oracle
      (watched.advance Automata.alternating.oracle.watched 1).state lost :=
    ⟨.performed (.advance 1) (.created created), rfl⟩
  have stranded : IsStranded (watched.advance Automata.alternating.oracle.watched 1).state.log :=
    ⟨[⟨.compile, none⟩], _, [], rfl, rfl, by simp⟩
  exact ((stranded_untouched reachable).2 _ watches).2.2.1 stranded .mask (by simp)

end

end Session

end ConstrainedDecoding
