import ConstrainedDecoding.Proofs.Session.History
import ConstrainedDecoding.Proofs.Session.Reachable

/-! Checking tokens before they are taken makes no difference until one of them is rejected. -/

namespace ConstrainedDecoding

variable {σ κ γ : Type}

namespace Request

/-- An advance that was answered by the rejection of a token. -/
def isRejected : Request → Except Fault Reply → Bool
  | advance _, .error (.inadmissible _ _) => true
  | _, _ => false

/-- Some advance of a run was answered by the rejection of its token. -/
def AnyRejected (requests : List Request) (answers : List (Except Fault Reply)) : Prop :=
  ∃ step ∈ requests.zip answers, step.1.isRejected step.2 = true

end Request

namespace Outline

variable {rules : Rules γ} {outline other : Outline γ}

/-- The outline of a session that does not check tokens before they are taken. -/
def unchecked (outline : Outline γ) : Outline γ :=
  { outline with validates := false }

/-- A turn that ends alike but for the check. -/
def uncheckedTurn {α : Type} (turn : Turn (Outline γ) α) : Turn (Outline γ) α :=
  ⟨turn.answer, turn.state.unchecked⟩

/-- No move depends on the check. -/
theorem transit_unchecked (token : Int) :
    outline.unchecked.transit rules token = uncheckedTurn (outline.transit rules token) := by
  simp only [transit, unchecked, uncheckedTurn]
  split <;> rfl

/-- A token is admitted with or without the check. -/
theorem admits_unchecked (token : Int) :
    (outline.unchecked.admits rules token).answer = (outline.admits rules token).answer := by
  dsimp only [admits, whenUsable, unchecked]
  -- A poisoned outline refuses, and any other one knows its vocabulary and its mask.
  cases outline.poison with
  | some cause => rfl
  | none =>
    by_cases outside : (token < 0 || (outline.size : Int) ≤ token) = true
    · simp only [if_pos outside]
    · simp only [if_neg outside]
      cases outline.mask <;> rfl

/-- The full mask is the same with or without the check. -/
theorem fullMask_unchecked :
    outline.unchecked.fullMask rules = uncheckedTurn (outline.fullMask rules) := by
  dsimp only [fullMask, whenUsable, unchecked, uncheckedTurn]
  cases poison : outline.poison with
  | some cause => simp only [poison]
  | none =>
    cases mask : outline.mask with
    | some mask => simp only [poison, mask]
    | none =>
      -- A mask that is made is kept if it has the right length.
      cases rules.mask outline.state with
      | error fault => simp only [poison, mask]
      | ok made =>
        by_cases fits : made.length = outline.size
        · simp only [if_pos fits]
        · simp only [if_neg fits, poison, mask]

/-- Nothing but an advance depends on the check. -/
theorem perform_unchecked {request : Request} (stays : ∀ token, request ≠ .advance token) :
    outline.unchecked.perform rules request = uncheckedTurn (outline.perform rules request) := by
  -- Only an advance looks at whether tokens are checked.
  cases request with
  | advance token => exact absurd rfl (stays token)
  | reset next =>
    simp only [perform, Turn.reply, reset, unchecked, uncheckedTurn]
    split <;> rfl
  | admits token =>
    simp only [perform, Turn.reply, admits_unchecked, admits_state, uncheckedTurn]
  | mask =>
    simp only [perform, Turn.reply, fullMask_unchecked]
    rfl
  | isComplete =>
    simp only [perform, Turn.reply, isComplete, whenUsable, unchecked, uncheckedTurn]
    cases poison : outline.poison <;> simp only [poison]
  | stopReason =>
    simp only [perform, Turn.reply, stopReason, whenUsable, unchecked, uncheckedTurn]
    cases poison : outline.poison <;> simp only [poison]

/-- A token is admitted just if it is in the vocabulary and a probe says so. -/
theorem Masked.admits_eq {mask : Mask} (masked : outline.Masked rules mask) (token : Int) :
    (outline.admits rules token).answer = .ok true ∧
        0 ≤ token ∧ token < outline.size ∧ rules.probe outline.state token = .ok true ∨
      (outline.admits rules token).answer = .ok false ∧
        ¬(0 ≤ token ∧ token < outline.size ∧ rules.probe outline.state token = .ok true) := by
  rw [masked.admits]
  by_cases inside : 0 ≤ token ∧ token < outline.size
  · -- Inside the vocabulary, the mask says what the probe says.
    have probe := masked.probes token.toNat (by omega)
    rw [Int.toNat_of_nonneg inside.1] at probe
    rw [probe]
    cases mask.getD token.toNat false <;> simp [inside.1, inside.2]
  · refine .inr ⟨?_, fun held => inside ⟨held.1, held.2.1⟩⟩
    -- Outside of it, the id is negative or beyond the mask.
    have length := masked.length
    by_cases negative : token < 0
    · simp [show ¬0 ≤ token by omega]
    · have beyond : mask.length ≤ token.toNat := by omega
      simp [List.getD_eq_getElem?_getD, beyond]

/-- What becomes of an outline that rejects a token, with the check and without. -/
structure Rejects (rules : Rules γ) (token : Int) (outline : Outline γ) : Prop where
  usable : outline.poison = none
  refused : (outline.admits rules token).answer = .ok false
  checked : outline.advance rules token = ⟨.error (.inadmissible (.int token) none), outline⟩
  unchecked : ∃ detail, (outline.unchecked.advance rules token).answer =
    .error (.inadmissible (.int token) detail)
  lost : (outline.unchecked.advance rules token).state.poison.isSome = true

/-- An advance ends alike with or without the check, or the token is rejected by both. -/
theorem advance_unchecked (faithful : outline.Faithful rules) (checks : outline.validates = true)
    (consistent : rules.Consistent outline.size outline.state)
    (judges : rules.Judges outline.size outline.state) (token : Int) :
    (outline.unchecked.advance rules token = uncheckedTurn (outline.advance rules token) ∧
        ∀ given detail, (outline.advance rules token).answer ≠ .error (.inadmissible given detail)) ∨
      outline.Rejects rules token := by
  cases poison : outline.poison with
  | some cause =>
    -- A poisoned outline refuses before anything is checked.
    have poisonToo : outline.unchecked.poison = some cause := poison
    simp only [advance, whenUsable, poison, poisonToo]
    refine .inl ⟨rfl, ?_⟩
    intro given detail refused
    cases refused
  | none =>
    have poisonToo : outline.unchecked.poison = none := poison
    have checksNot : ¬outline.unchecked.validates = true := Bool.false_ne_true
    have plain : outline.unchecked.advance rules token = outline.unchecked.transit rules token := by
      simp only [advance, whenUsable, poisonToo, if_neg checksNot]
    obtain ⟨mask, masked⟩ := exists_masked poison faithful consistent
    rcases masked.admits_eq token with ⟨admitted, lower, upper, probe⟩ | ⟨rejected, outside⟩
    · -- A token that the check admits is one that the move takes.
      have moves : outline.advance rules token = outline.transit rules token := by
        simp only [advance, whenUsable, poison, if_pos checks, admitted, admits_state]
      have taken := judges.takes lower upper probe
      refine .inl ⟨by rw [plain, moves, transit_unchecked], ?_⟩
      intro given detail
      rw [moves]
      simp [transit, taken]
    · -- A token that the check rejects is rejected by the move, which poisons the outline.
      obtain ⟨detail, fails⟩ := judges.rejects outside
      have failsToo : (rules.transition outline.unchecked.state token).answer = _ := fails
      refine .inr ⟨poison, rejected, ?_, ⟨detail, ?_⟩, ?_⟩
      · simp only [advance, whenUsable, poison, if_pos checks, rejected, admits_state]
      · simp only [plain, transit, failsToo]
      · simp only [plain, transit, failsToo, Option.isSome_some]

/-- Every request leaves a faithful outline faithful. -/
theorem Faithful.perform (faithful : outline.Faithful rules) (request : Request) :
    (outline.perform rules request).state.Faithful rules := by
  obtain query | ⟨token, rfl⟩ | ⟨grammar, rfl⟩ := request.query_or_move
  · exact faithful.query query
  · -- An advance that is refused leaves the mask, and a move drops it.
    simp only [Outline.perform, Turn.reply]
    rcases outline.advance_cases rules token with ⟨fault, refused⟩ | moves
    · rwa [refused]
    · rw [moves]
      exact (transit_agree token).2.2
  · exact (reset_agree grammar).2.2

/-- A poisoned outline refuses everything but a reset, and stays as it is. -/
theorem perform_of_poison {cause : Text} (poisoned : outline.poison = some cause)
    {request : Request} (stays : ∀ grammar, request ≠ .reset grammar) :
    outline.perform rules request = ⟨.error (.poisoned cause), outline⟩ := by
  -- All requests but a reset are refused by a poisoned session.
  cases request with
  | reset grammar => exact absurd rfl (stays grammar)
  | _ => simp [perform, Turn.reply, admits, fullMask, advance, isComplete, stopReason, whenUsable,
      poisoned, Except.map]

/-- Nothing but a reset changes the grammar. -/
theorem perform_grammar {request : Request} (stays : ∀ grammar, request ≠ .reset grammar) :
    (outline.perform rules request).state.grammar = outline.grammar := by
  -- A query changes the mask at most, and an advance the state beside it.
  obtain query | ⟨token, rfl⟩ | ⟨grammar, rfl⟩ := request.query_or_move
  · have same : (outline.perform rules request).state.forget = outline.forget := forget_query query
    have kept := congrArg Outline.grammar same
    exact kept
  · simp only [perform, Turn.reply]
    rcases outline.advance_cases rules token with ⟨fault, refused⟩ | moves
    · rw [refused]
    · rw [moves, transit]
      split <;> rfl
  · exact absurd rfl (stays grammar)

/-- A request ends alike with or without the check, unless a token is rejected. -/
theorem perform_or_rejects {size : Nat} (faithful : outline.Faithful rules)
    (terms : outline.terms = (size, true)) (consistent : rules.Consistent size outline.state)
    (judges : rules.Judges size outline.state) (request : Request) :
    (outline.unchecked.perform rules request = uncheckedTurn (outline.perform rules request) ∧
        request.isRejected (outline.perform rules request).answer = false) ∨
      ∃ token, request = .advance token ∧ outline.Rejects rules token := by
  obtain ⟨sized, checks⟩ := Prod.mk.inj terms
  rw [← sized] at consistent judges
  cases request with
  | advance token =>
    rcases advance_unchecked faithful checks consistent judges token with
      ⟨same, taken⟩ | rejects
    · refine .inl ⟨by simp only [perform, Turn.reply, same]; rfl, ?_⟩
      -- An answer that is a rejection would be one of the advance.
      cases answer : (outline.advance rules token).answer with
      | ok done => simp [perform, Turn.reply, answer, Except.map, Request.isRejected]
      | error fault =>
        simp only [perform, Turn.reply, answer, Except.map]
        cases fault with
        | inadmissible given detail => exact absurd answer (taken given detail)
        | _ => rfl
    · exact .inr ⟨token, rfl, rejects⟩
  | _ => exact .inl ⟨perform_unchecked (by simp), rfl⟩

/--
Outlines of two sessions that were asked the same, one with the check and one without.

They differ in nothing but the check until a token is rejected, and from then on the second one is
poisoned.
-/
structure Companions (rules : Rules γ) (size : Nat) (outline other : Outline γ) : Prop where
  faithful : outline.Faithful rules
  terms : outline.terms = (size, true)
  otherTerms : other.terms = (size, false)
  grammar : other.grammar = outline.grammar
  together : other = outline.unchecked ∨ other.poison.isSome = true

namespace Companions

variable {size : Nat}

/-- Resets end alike for companions, and those that succeed leave them together. -/
theorem reset (companions : Companions rules size outline other) (restarts : rules.RestartsAlike)
    (grammar : Option Grammar) :
    (outline.reset rules grammar).answer = (other.reset rules grammar).answer ∧
      ((outline.reset rules grammar).answer = .ok () →
        (other.reset rules grammar).state = (outline.reset rules grammar).state.unchecked) ∧
      Companions rules size (outline.reset rules grammar).state
        (other.reset rules grammar).state := by
  obtain ⟨faithful, terms, otherTerms, sameGrammar, _⟩ := companions
  obtain ⟨sized, checks⟩ := Prod.mk.inj terms
  obtain ⟨otherSized, checksNot⟩ := Prod.mk.inj otherTerms
  -- Both restart with the same grammar, so they restart alike wherever they are.
  obtain ⟨answer, place⟩ := restarts outline.state other.state (grammar.getD outline.grammar)
  simp only [Outline.reset, sameGrammar, ← answer]
  cases ended : (rules.restart outline.state (grammar.getD outline.grammar)).answer with
  | error fault =>
    -- A reset that fails poisons both.
    refine ⟨rfl, ?_, faithful_of_none rfl, terms, otherTerms, rfl, .inr rfl⟩
    intro succeeded
    cases succeeded
  | ok done =>
    simp only [unchecked, ← place ended, otherSized, sized, checksNot]
    exact ⟨trivial, fun _ => trivial, faithful_of_none rfl, by rw [← checks]; rfl, rfl, rfl,
      .inl rfl⟩

/-- A poisoned companion is left behind, whatever is asked but a reset. -/
theorem behind (companions : Companions rules size outline other)
    (poisoned : other.poison.isSome = true) {request : Request}
    (stays : ∀ grammar, request ≠ .reset grammar) :
    Companions rules size (outline.perform rules request).state
      (other.perform rules request).state := by
  -- The one that is poisoned stays where it is, so it stays poisoned.
  obtain ⟨cause, lost⟩ := Option.isSome_iff_exists.mp poisoned
  rw [perform_of_poison lost stays]
  exact ⟨companions.faithful.perform request, (perform_terms request).trans companions.terms,
    companions.otherTerms, companions.grammar.trans (perform_grammar stays).symm, .inr poisoned⟩

/-- Companions stay companions, whatever both are asked. -/
theorem perform (companions : Companions rules size outline other)
    (consistent : rules.Consistent size outline.state) (judges : rules.Judges size outline.state)
    (restarts : rules.RestartsAlike) (request : Request) :
    Companions rules size (outline.perform rules request).state
      (other.perform rules request).state := by
  by_cases isReset : ∃ grammar, request = .reset grammar
  · obtain ⟨grammar, rfl⟩ := isReset
    exact (companions.reset restarts grammar).2.2
  have stays := not_exists.mp isReset
  rcases companions.together with rfl | poisoned
  · have faithful := companions.faithful.perform request
    have terms : (outline.perform rules request).state.terms = (size, true) :=
      (perform_terms request).trans companions.terms
    have otherTerms : (outline.unchecked.perform rules request).state.terms = (size, false) :=
      (perform_terms request).trans companions.otherTerms
    have grammar : (outline.unchecked.perform rules request).state.grammar =
        (outline.perform rules request).state.grammar :=
      (perform_grammar stays).trans (companions.grammar.trans (perform_grammar stays).symm)
    -- The two stay together, or the token is rejected and the second one is poisoned.
    rcases perform_or_rejects companions.faithful companions.terms consistent judges request with
      ⟨same, _⟩ | ⟨token, rfl, rejects⟩
    · exact ⟨faithful, terms, otherTerms, grammar, .inl (by rw [same]; rfl)⟩
    · exact ⟨faithful, terms, otherTerms, grammar, .inr rejects.lost⟩
  · exact companions.behind poisoned stays

end Companions

end Outline

namespace Session

variable {oracle : Oracle σ κ} {rules : Rules γ} {stands : Standing σ κ γ} {size : Nat}
  {session checked plain : Session σ κ}

/-- All sessions that come up show outlines that are faithful, poisoned or not. -/
theorem Reachable.shows (follows : oracle.Follows rules stands)
    (reachable : Reachable oracle session) :
    ∃ outline : Outline γ, session.Shows stands false outline ∧ outline.Faithful rules := by
  induction reachable using Reachable.requestInduction with
  | created created =>
    obtain ⟨state, size, _, shown⟩ := create_shows follows.toAnswers created
    exact ⟨_, shown, Outline.faithful_of_none rfl⟩
  | performed request _ ih =>
    obtain ⟨outline, shown, faithful⟩ := ih
    exact ⟨_, (perform_mirrors follows shown request).2, faithful.perform request⟩
  | unseen _ _ _ _ _ ih =>
    -- The outline records whether tokens are checked, but nothing that it shows depends on it.
    obtain ⟨_, ⟨state, place, rfl, same⟩, faithful⟩ := ih
    exact ⟨_, ⟨state, place, rfl, same⟩, faithful⟩

/-- Rules that judge tokens wherever a cursor stands judge them where a session is. -/
theorem Shows.judges {locked : Bool} {outline : Outline γ}
    (shown : session.Shows stands locked outline) (judges : rules.AlwaysJudges stands size) :
    rules.Judges size outline.state := by
  obtain ⟨state, place, rfl, _⟩ := shown
  exact judges place

/-- The check asks the oracle at most once, and leaves the session as it is but for that. -/
theorem admits_leaves (oracle : Oracle σ κ) (token : Int) (session : Session σ κ) :
    ∃ world calls, (calls = [] ∨ calls = [.probe token]) ∧
      (session.admits oracle token).state =
        { session with world, asked := session.asked ++ calls } := by
  -- A session that is not asked, or that answers by itself, is left as it is.
  have untouched : session = { session with
      world := session.world, asked := session.asked ++ [] } := by simp
  simp only [admits, whenUsable]
  split
  · exact ⟨_, [], .inl rfl, untouched⟩
  · split
    · exact ⟨_, [], .inl rfl, untouched⟩
    · split
      · exact ⟨_, [], .inl rfl, untouched⟩
      · exact ⟨_, [.probe token], .inr rfl, rfl⟩

/-- What becomes of two sessions that reject a token, the first one by its own check. -/
structure RejectsToken (oracle : Oracle σ κ) (token : Int) (checked plain : Session σ κ) :
    Prop where
  answer : (checked.advance oracle token).answer = .error (.inadmissible (.int token) none)
  plainAnswer : ∃ detail,
    (plain.advance oracle token).answer = .error (.inadmissible (.int token) detail)
  /-- No transition is made, and nothing but the probe of the check is noted. -/
  untouched : ∃ world calls, (calls = [] ∨ calls = [.probe token]) ∧
    (checked.advance oracle token).state =
      { checked with world, asked := checked.asked ++ calls }
  /-- No later run tells that there was an advance. -/
  unnoticed : ∀ requests, ((checked.advance oracle token).state.run oracle requests).1 =
    (checked.run oracle requests).1
  lost : (plain.advance oracle token).state.poison.isSome = true

/--
Two sessions answer every run alike as long as no token is rejected.

They have then taken the same steps in the same grammar, and they reject a token together.
-/
def AgreeUntilRejection (oracle : Oracle σ κ) (checked plain : Session σ κ) : Prop :=
  ∀ requests, ¬Request.AnyRejected requests (checked.run oracle requests).1 →
    let (answers, checkedLast) := checked.run oracle requests
    let (plainAnswers, plainLast) := plain.run oracle requests
    answers = plainAnswers ∧ checkedLast.steps = plainLast.steps ∧
      checkedLast.grammar = plainLast.grammar ∧ checkedLast.poison = plainLast.poison ∧
      ∀ token given detail,
        (checkedLast.advance oracle token).answer = .error (.inadmissible given detail) →
        RejectsToken oracle token checkedLast plainLast

/-- Two sessions with outlines of companions. -/
def Companions (rules : Rules γ) (stands : Standing σ κ γ) (size : Nat)
    (checked plain : Session σ κ) : Prop :=
  ∃ outline other, checked.Shows stands false outline ∧ plain.Shows stands false other ∧
    Outline.Companions rules size outline other

/-- Sessions stay companions, whatever both are asked. -/
theorem Companions.run (follows : oracle.Follows rules stands)
    (consistent : rules.AlwaysConsistent stands size) (judges : rules.AlwaysJudges stands size)
    (restarts : rules.RestartsAlike) (companions : Companions rules stands size checked plain)
    (requests : List Request) :
    Companions rules stands size (checked.run oracle requests).2 (plain.run oracle requests).2 := by
  -- By induction on the requests: after each one, the two are companions again.
  induction requests generalizing checked plain with
  | nil => exact companions
  | cons request rest ih =>
    obtain ⟨outline, other, shown, otherShown, companions⟩ := companions
    have after := companions.perform (shown.consistent consistent) (shown.judges judges) restarts
      request
    exact ih ⟨_, _, (perform_mirrors follows shown request).2,
      (perform_mirrors follows otherShown request).2, after⟩

/-- Two sessions with outlines that differ in nothing but the check. -/
def Together (rules : Rules γ) (stands : Standing σ κ γ) (size : Nat)
    (checked plain : Session σ κ) : Prop :=
  ∃ outline : Outline γ, checked.Shows stands false outline ∧
    plain.Shows stands false outline.unchecked ∧ outline.Faithful rules ∧
    outline.terms = (size, true)

/-- Sessions that are together and reject no token answer alike and stay together. -/
theorem Together.perform (follows : oracle.Follows rules stands)
    (consistent : rules.AlwaysConsistent stands size) (judges : rules.AlwaysJudges stands size)
    (together : Together rules stands size checked plain) {request : Request}
    (accepted : request.isRejected (checked.perform oracle request).answer = false) :
    (checked.perform oracle request).answer = (plain.perform oracle request).answer ∧
      Together rules stands size (checked.perform oracle request).state
        (plain.perform oracle request).state := by
  obtain ⟨outline, shown, plainShown, faithful, terms⟩ := together
  have mirrors := perform_mirrors follows shown request
  have plainMirrors := perform_mirrors follows plainShown request
  rcases Outline.perform_or_rejects faithful terms (shown.consistent consistent)
    (shown.judges judges) request with ⟨same, _⟩ | ⟨token, rfl, rejects⟩
  · rw [same] at plainMirrors
    exact ⟨mirrors.1.trans plainMirrors.1.symm, _, mirrors.2, plainMirrors.2,
      faithful.perform request, (Outline.perform_terms request).trans terms⟩
  · -- A rejection of the outline would be one of the session.
    rw [mirrors.1] at accepted
    simp [Outline.perform, Turn.reply, rejects.checked, Except.map, Request.isRejected] at accepted

/-- A session whose check refuses a token answers so, and is left as it is but for the check. -/
theorem advance_of_refused (checks : session.validates = true) (usable : session.poison = none)
    (unlocked : session.locked = false) {token : Int}
    (refused : (({ session with locked := true } : Session σ κ).admits oracle token).answer =
      .ok false) :
    (session.advance oracle token).answer = .error (.inadmissible (.int token) none) ∧
      ∃ world calls, (calls = [] ∨ calls = [.probe token]) ∧
        (session.advance oracle token).state =
          { session with world, asked := session.asked ++ calls } := by
  have refusal : session.refusal? = none := by simp [refusal?, usable, unlocked]
  obtain ⟨world, calls, few, left⟩ :=
    admits_leaves oracle token ({ session with locked := true } : Session σ κ)
  -- The lock that the check was made under is given back.
  simp only [advance, refusal, checkedTransit, if_pos checks, refused, left]
  exact ⟨trivial, world, calls, few, by rw [← unlocked]⟩

/-- Sessions that are together reject a token together, and the second one is lost. -/
theorem Together.rejects (follows : oracle.Follows rules stands)
    (consistent : rules.AlwaysConsistent stands size) (judges : rules.AlwaysJudges stands size)
    (together : Together rules stands size checked plain) {token : Int} {given : Json}
    {detail : Option Text}
    (rejected : (checked.advance oracle token).answer = .error (.inadmissible given detail)) :
    RejectsToken oracle token checked plain := by
  obtain ⟨outline, shown, plainShown, faithful, terms⟩ := together
  obtain ⟨sized, checks⟩ := Prod.mk.inj terms
  have mirrors := advance_mirrors follows shown token
  have plainMirrors := advance_mirrors follows plainShown token
  have consistentHere := shown.consistent consistent
  have judgesHere := shown.judges judges
  rw [← sized] at consistentHere judgesHere
  rcases Outline.advance_unchecked faithful checks consistentHere judgesHere token with
    ⟨_, taken⟩ | rejects
  · exact absurd (mirrors.1.symm.trans rejected) (taken given detail)
  · have usable := shown.poison.trans rejects.usable
    have validates : checked.validates = true := by
      obtain ⟨state, _, rfl, _⟩ := shown
      exact checks
    -- The check is made under the lock, and refuses the token as the outline does.
    have refused := (admits_mirrors follows.toAnswers (shown.lock true) token).1
    rw [rejects.refused] at refused
    obtain ⟨answer, untouched⟩ := advance_of_refused validates usable shown.locked_eq refused
    have after := mirrors.2
    rw [rejects.checked] at after
    obtain ⟨detail, plainAnswer⟩ := rejects.unchecked
    exact ⟨answer, ⟨detail, plainMirrors.1.trans plainAnswer⟩, untouched,
      fun requests => (run_same follows after shown requests).1,
      by rw [plainMirrors.2.poison]; exact rejects.lost⟩

/-- Sessions that are together stay together in a run that rejects no token. -/
theorem Together.run (follows : oracle.Follows rules stands)
    (consistent : rules.AlwaysConsistent stands size) (judges : rules.AlwaysJudges stands size)
    (together : Together rules stands size checked plain) {requests : List Request}
    (accepted : ¬Request.AnyRejected requests (checked.run oracle requests).1) :
    (checked.run oracle requests).1 = (plain.run oracle requests).1 ∧
      Together rules stands size (checked.run oracle requests).2 (plain.run oracle requests).2 := by
  induction requests generalizing checked plain with
  | nil => exact ⟨rfl, together⟩
  | cons request rest ih =>
    simp only [Session.run, Request.AnyRejected, List.zip_cons_cons, List.mem_cons,
      exists_eq_or_imp, not_or, Bool.not_eq_true] at accepted
    -- The first request rejects no token, and neither does any one after it.
    obtain ⟨answer, after⟩ := together.perform follows consistent judges accepted.1
    obtain ⟨answers, last⟩ := ih after accepted.2
    exact ⟨by simp only [Session.run, answer, answers], last⟩

/-- Sessions that are together agree until a token is rejected. -/
theorem Together.agree (follows : oracle.Follows rules stands)
    (consistent : rules.AlwaysConsistent stands size) (judges : rules.AlwaysJudges stands size)
    (together : Together rules stands size checked plain) :
    AgreeUntilRejection oracle checked plain := by
  intro requests accepted
  obtain ⟨answers, last⟩ := together.run follows consistent judges accepted
  refine ⟨answers, ?_, ?_, ?_, fun _ _ _ => last.rejects follows consistent judges⟩
  -- The outlines differ in nothing but the check, so each part is the same.
  all_goals obtain ⟨outline, shown, plainShown, _⟩ := last
  · exact shown.steps.trans plainShown.steps.symm
  · exact shown.grammar.trans plainShown.grammar.symm
  · exact shown.poison.trans plainShown.poison.symm

/-- Resets end alike for companions, and those that succeed bring them together. -/
theorem Companions.reset (follows : oracle.Follows rules stands) (restarts : rules.RestartsAlike)
    (companions : Companions rules stands size checked plain) (grammar : Option Grammar) :
    (checked.reset oracle grammar).answer = (plain.reset oracle grammar).answer ∧
      ((checked.reset oracle grammar).answer = .ok () →
        Together rules stands size (checked.reset oracle grammar).state
          (plain.reset oracle grammar).state) := by
  obtain ⟨outline, other, shown, plainShown, companions⟩ := companions
  have mirrors := reset_mirrors follows shown grammar
  have plainMirrors := reset_mirrors follows plainShown grammar
  obtain ⟨answer, together, after⟩ := companions.reset restarts grammar
  refine ⟨mirrors.1.trans (answer.trans plainMirrors.1.symm), fun succeeded => ?_⟩
  -- If the reset succeeds, both outlines are the same from then on.
  have same := together (mirrors.1.symm.trans succeeded)
  exact ⟨_, mirrors.2, same ▸ plainMirrors.2, after.faithful, after.terms⟩

/--
Checking tokens before they are taken changes only what happens after a rejection.

With the check and without it, a session answers alike until a token is rejected, by both. The check
leaves the session as if there had been no advance, and without it the session is lost. Whatever is
asked then, resets end alike, and from one that succeeds on both agree in the same way again.
-/
theorem validation_unobservable (follows : oracle.Follows rules stands)
    (reachable : Reachable oracle session)
    (consistent : rules.AlwaysConsistent stands session.size)
    (judges : rules.AlwaysJudges stands session.size) (restarts : rules.RestartsAlike) :
    let checked : Session σ κ := { session with validates := true }
    let plain : Session σ κ := { session with validates := false }
    AgreeUntilRejection oracle checked plain ∧
    ∀ requests grammar,
      let turn := (checked.run oracle requests).2.reset oracle grammar
      let plainTurn := (plain.run oracle requests).2.reset oracle grammar
      turn.answer = plainTurn.answer ∧
        (turn.answer = .ok () → AgreeUntilRejection oracle turn.state plainTurn.state) := by
  intro checked plain
  obtain ⟨_, ⟨state, place, rfl, unlocked⟩, faithful⟩ := reachable.shows follows
  -- The two sessions have one outline but for the check.
  have shown : checked.Shows stands false (checked.outline state) := ⟨state, place, rfl, unlocked⟩
  have plainShown : plain.Shows stands false (checked.outline state).unchecked :=
    ⟨state, place, rfl, unlocked⟩
  have together : Together rules stands session.size checked plain :=
    ⟨_, shown, plainShown, faithful, rfl⟩
  have companions : Companions rules stands session.size checked plain :=
    ⟨_, _, shown, plainShown, faithful, rfl, rfl, rfl, .inl rfl⟩
  refine ⟨together.agree follows consistent judges, ?_⟩
  intro requests grammar turn plainTurn
  -- Whatever was asked, they are still companions, and a reset brings them together.
  obtain ⟨answer, after⟩ :=
    (companions.run follows consistent judges restarts requests).reset follows restarts grammar
  exact ⟨answer, fun succeeded => (after succeeded).agree follows consistent judges⟩

/-- The pairs reject a token that does not come first, and the check does not stop there. -/
theorem validation_unobservable_pairs :
    let checked : Session Unit Place := Automata.alternatingSession true
    let plain : Session Unit Place := Automata.alternatingSession false
    let oracle := Automata.alternating.oracle
    AgreeUntilRejection oracle checked plain ∧ RejectsToken oracle 1 checked plain ∧
      let turn := (checked.run oracle [.mask, .advance 1, .advance 0]).2.reset oracle none
      let plainTurn := (plain.run oracle [.mask, .advance 1, .advance 0]).2.reset oracle none
      AgreeUntilRejection oracle turn.state plainTurn.state := by
  intro checked plain oracle
  have worldless := Automata.worldless_judged (rfl : Automata.alternating.isClosed = true) (by decide)
  obtain ⟨agree, resets⟩ := validation_unobservable (worldless.follows ())
    (.created (Automata.alternating_create true))
    Automata.alternating.consistent_judged (Automata.judges rfl) Automata.alternating.restartsAlike
  -- The second token of a pair is rejected at its start, where no token was rejected before.
  obtain ⟨_, _, _, _, rejects⟩ := agree [] (by simp [Request.AnyRejected])
  have alike := resets [.mask, .advance 1, .advance 0] none
  exact ⟨agree, rejects 1 (.int 1) none rfl, alike.2 rfl⟩

end Session

end ConstrainedDecoding
