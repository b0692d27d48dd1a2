import ConstrainedDecoding.Proofs.Session.Outline

/-! Whether an outline keeps its mask makes no difference to what it answers. -/

namespace ConstrainedDecoding

variable {γ : Type}

namespace Request

/-- A request that asks something and changes nothing. -/
def isQuery : Request → Bool
  | admits _ | mask | isComplete | stopReason => true
  | advance _ | reset _ => false

/-- A query is one of four. -/
theorem query_cases {request : Request} (query : request.isQuery = true) :
    (∃ token, request = admits token) ∨ request = mask ∨ request = isComplete ∨
      request = stopReason := by
  -- There are four constructors left when the moves are excluded.
  cases request with
  | admits token => exact .inl ⟨token, rfl⟩
  | mask => exact .inr (.inl rfl)
  | isComplete => exact .inr (.inr (.inl rfl))
  | stopReason => exact .inr (.inr (.inr rfl))
  | advance token => exact absurd query Bool.false_ne_true
  | reset grammar => exact absurd query Bool.false_ne_true

/-- A request is a query, or it moves the session on or back. -/
theorem query_or_move (request : Request) :
    request.isQuery = true ∨ (∃ token, request = advance token) ∨
      ∃ grammar, request = reset grammar := by
  -- All requests but two are queries.
  cases request with
  | advance token => exact .inr (.inl ⟨token, rfl⟩)
  | reset grammar => exact .inr (.inr ⟨grammar, rfl⟩)
  | admits token => exact .inl rfl
  | mask => exact .inl rfl
  | isComplete => exact .inl rfl
  | stopReason => exact .inl rfl

end Request

namespace Outline

variable {rules : Rules γ} {outline : Outline γ}

/-- An outline without a mask. -/
def forget (outline : Outline γ) : Outline γ :=
  { outline with mask := none }

/-- A kept mask is the one that the rules tell of the state. -/
def Faithful (rules : Rules γ) (outline : Outline γ) : Prop :=
  ∀ mask, outline.mask = some mask → rules.mask outline.state = .ok mask

/-- An outline without a mask is faithful. -/
theorem faithful_of_none (none : outline.mask = none) : outline.Faithful rules := by
  -- There is no kept mask to ask about.
  intro mask kept
  simp [none] at kept

/-- An outline that is not poisoned, with the mask that it keeps or would make. -/
structure Masked (rules : Rules γ) (mask : Mask) (outline : Outline γ) : Prop where
  usable : outline.poison = none
  faithful : outline.Faithful rules
  made : rules.mask outline.state = .ok mask
  length : mask.length = outline.size
  probes : ∀ token : Nat, token < outline.size →
    rules.probe outline.state token = .ok (mask.getD token false)

/-- Where the rules are consistent, a faithful outline has a mask. -/
theorem exists_masked (usable : outline.poison = none) (faithful : outline.Faithful rules)
    (consistent : rules.Consistent outline.size outline.state) :
    ∃ mask, outline.Masked rules mask := by
  obtain ⟨mask, made, length, probes⟩ := consistent
  exact ⟨mask, usable, faithful, made, length, probes⟩

/-- Faithful outlines that differ in nothing but their masks have the same one. -/
theorem Masked.of_forget {mask : Mask} {other : Outline γ} (masked : outline.Masked rules mask)
    (same : outline.forget = other.forget) (faithful : other.Faithful rules) :
    other.Masked rules mask := by
  -- What a mask depends on are the parts that forgetting leaves.
  obtain ⟨state, grammar, size, validates, kept, poison, steps⟩ := outline
  obtain ⟨_, _, _, _, known, _, _⟩ := other
  simp only [forget, Outline.mk.injEq] at same
  obtain ⟨rfl, rfl, rfl, rfl, _, rfl, rfl⟩ := same
  -- Whether the mask is kept is the one part that was not shared.
  exact ⟨masked.usable, faithful, masked.made, masked.length, masked.probes⟩

/-- Once it is made, the mask can be kept. -/
theorem Masked.keep {mask : Mask} (masked : outline.Masked rules mask) :
    ({ outline with mask := some mask } : Outline γ).Masked rules mask := by
  -- The mask that is kept from now on is the one that was made.
  have faithful : ({ outline with mask := some mask } : Outline γ).Faithful rules := by
    intro known kept
    obtain rfl := Option.some.inj kept
    exact masked.made
  exact masked.of_forget rfl faithful

/-- Without its kept mask, an outline would make the same one. -/
theorem Masked.forget {mask : Mask} (masked : outline.Masked rules mask) :
    outline.forget.Masked rules mask :=
  masked.of_forget rfl (faithful_of_none rfl)

/-- An outline admits just the tokens of its mask, kept or not. -/
theorem Masked.admits {mask : Mask} (masked : outline.Masked rules mask) (token : Int) :
    (outline.admits rules token).answer =
      .ok (decide (0 ≤ token) && mask.getD token.toNat false) := by
  have length := masked.length
  simp only [Outline.admits, whenUsable, masked.usable]
  by_cases outside : (token < 0 || (outline.size : Int) ≤ token) = true
  · -- Beyond its end the mask admits nothing either.
    rw [if_pos outside]
    by_cases negative : token < 0
    · simp [show ¬0 ≤ token by omega]
    · have beyond : mask.length ≤ token.toNat := by simp at outside; omega
      simp [List.getD_eq_getElem?_getD, beyond]
  · -- Inside it, the kept mask is the one made, and a probe agrees with that.
    rw [if_neg outside]
    have inside : 0 ≤ token ∧ token < outline.size := by simpa using outside
    cases kept : outline.mask with
    | none =>
      have probe := masked.probes token.toNat (by omega)
      rw [Int.toNat_of_nonneg inside.1] at probe
      simpa [inside.1] using probe
    | some known =>
      have same : known = mask := by simpa [masked.made] using (masked.faithful known kept).symm
      simp [same, inside.1]

/-- Asking for the full mask gives the mask, and keeps it. -/
theorem Masked.fullMask {mask : Mask} (masked : outline.Masked rules mask) :
    outline.fullMask rules = ⟨.ok mask, { outline with mask := some mask }⟩ := by
  obtain ⟨usable, faithful, made, length, _⟩ := masked
  obtain ⟨state, grammar, size, validates, kept, poison, steps⟩ := outline
  obtain rfl : poison = none := usable
  obtain rfl : mask.length = size := length
  -- A mask that is made has the right length, and a kept one is the one made.
  cases kept with
  | none => simp_all [Outline.fullMask, whenUsable]
  | some known =>
    have same : known = mask := by simpa [made] using (faithful known rfl).symm
    simp [Outline.fullMask, whenUsable, same]

/-- Two turns answer alike and end alike but for the mask, which is faithful in the first. -/
def AgreeButMask {α : Type} (rules : Rules γ) (turn other : Turn (Outline γ) α) : Prop :=
  turn.answer = other.answer ∧ turn.state.forget = other.state.forget ∧ turn.state.Faithful rules

/-- Turns that agree but for the mask give replies that do. -/
theorem AgreeButMask.reply {α : Type} {turn other : Turn (Outline γ) α}
    (agree : AgreeButMask rules turn other) (reply : α → Reply) :
    AgreeButMask rules (turn.reply reply) (other.reply reply) :=
  ⟨congrArg (Except.map reply) agree.1, agree.2⟩

/-- A poisoned outline refuses an action with or without a mask. -/
theorem whenUsable_agree {α : Type} (faithful : outline.Faithful rules)
    {action other : Turn (Outline γ) α}
    (agree : outline.poison = none → AgreeButMask rules action other) :
    AgreeButMask rules (outline.whenUsable action) (outline.forget.whenUsable other) := by
  -- Forgetting the mask does not forget the poison.
  cases poison : outline.poison with
  | none => simpa [whenUsable, forget, poison] using agree poison
  | some cause =>
    -- The refusal names the cause, and leaves both outlines as they were.
    simp only [whenUsable, forget, poison]
    exact ⟨rfl, by simp [forget, poison], faithful⟩

/-- What the rules tell of the state is told alike. -/
theorem consult_agree {α : Type} (faithful : outline.Faithful rules) (answer : Except Fault α) :
    AgreeButMask rules (outline.whenUsable ⟨answer, outline⟩)
      (outline.forget.whenUsable ⟨answer, outline.forget⟩) :=
  whenUsable_agree faithful fun _ => ⟨rfl, rfl, faithful⟩

/-- Tokens are admitted alike, because the probes agree with a faithful mask. -/
theorem admits_agree (faithful : outline.Faithful rules)
    (consistent : rules.Consistent outline.size outline.state) (token : Int) :
    AgreeButMask rules (outline.admits rules token) (outline.forget.admits rules token) := by
  -- Nothing is written either way, so only the answers are left to compare.
  refine ⟨?_, by rw [admits_state, admits_state]; rfl, by rwa [admits_state]⟩
  cases poison : outline.poison with
  | none =>
    -- Both outlines have the same mask, whether they keep it or would make it.
    obtain ⟨mask, masked⟩ := exists_masked poison faithful consistent
    rw [masked.admits, masked.forget.admits]
  | some cause => simp [admits, whenUsable, forget, poison]

/-- Asking for the full mask leaves a faithful outline faithful. -/
theorem Faithful.fullMask (faithful : outline.Faithful rules) :
    (outline.fullMask rules).state.Faithful rules := by
  -- Every path but one leaves the outline as it is.
  simp only [Outline.fullMask, whenUsable]
  split
  · exact faithful
  · split
    · exact faithful
    · split
      · exact faithful
      · split
        · -- Only a mask that the rules have just made is newly kept.
          rename_i made _
          intro known kept
          obtain rfl := Option.some.inj kept
          exact made
        · exact faithful

/-- Asking for the full mask changes nothing but the mask. -/
theorem forget_fullMask (rules : Rules γ) (outline : Outline γ) :
    (outline.fullMask rules).state.forget = outline.forget := by
  -- The mask is the only part that any path writes.
  simp only [fullMask, whenUsable]
  repeat' split
  all_goals rfl

/-- The full mask is the same, whether it was kept or is made anew. -/
theorem fullMask_agree (faithful : outline.Faithful rules)
    (consistent : rules.Consistent outline.size outline.state) :
    AgreeButMask rules (outline.fullMask rules) (outline.forget.fullMask rules) := by
  refine ⟨?_, by rw [forget_fullMask, forget_fullMask]; rfl, faithful.fullMask⟩
  cases poison : outline.poison with
  | none =>
    -- Kept or made, it is the one mask that the outline has.
    obtain ⟨mask, masked⟩ := exists_masked poison faithful consistent
    rw [masked.fullMask, masked.forget.fullMask]
  | some cause => simp [fullMask, whenUsable, forget, poison]

/-- A move drops the mask, so it does not tell whether there was one. -/
theorem transit_agree (token : Int) :
    AgreeButMask rules (outline.transit rules token) (outline.forget.transit rules token) := by
  -- The mask is dropped on success and on failure alike.
  refine ⟨rfl, rfl, faithful_of_none ?_⟩
  -- Either end of the move starts out from the outline that lost its mask.
  simp only [transit]
  split <;> rfl

/-- An advance agrees, because its check does and its move does. -/
theorem advance_agree (faithful : outline.Faithful rules)
    (consistent : rules.Consistent outline.size outline.state) (token : Int) :
    AgreeButMask rules (outline.advance rules token) (outline.forget.advance rules token) := by
  have check := admits_agree faithful consistent token
  apply whenUsable_agree faithful
  intro _
  by_cases checks : outline.validates = true
  · have checksToo : outline.forget.validates = true := checks
    simp only [if_pos checks, if_pos checksToo, ← check.1]
    -- A token that is rejected leaves the mask where it is, and it stays faithful.
    cases admitted : (outline.admits rules token).answer with
    | error fault => exact ⟨rfl, check.2⟩
    | ok admits =>
      cases admits with
      | false => exact ⟨rfl, check.2⟩
      | true =>
        simp only [admits_state]
        exact transit_agree token
  · have checksNot : ¬outline.forget.validates = true := checks
    -- Without the check, the mask is not even looked at.
    simp only [if_neg checks, if_neg checksNot]
    exact transit_agree token

/-- A reset drops the mask, too. -/
theorem reset_agree (grammar : Option Grammar) :
    AgreeButMask rules (outline.reset rules grammar) (outline.forget.reset rules grammar) := by
  -- A restart knows the state alone, and whatever mask there was is dropped.
  refine ⟨rfl, rfl, faithful_of_none ?_⟩
  simp only [reset]
  split <;> rfl

/-- Every request is answered alike with or without a faithful mask. -/
theorem perform_agree (faithful : outline.Faithful rules)
    (consistent : rules.Consistent outline.size outline.state) (request : Request) :
    AgreeButMask rules (outline.perform rules request) (outline.forget.perform rules request) := by
  -- Queries agree by the consistency of the rules, and moves drop the mask.
  cases request with
  | admits token => exact (admits_agree faithful consistent token).reply _
  | mask => exact (fullMask_agree faithful consistent).reply _
  | advance token => exact (advance_agree faithful consistent token).reply _
  | isComplete => exact (consult_agree faithful (rules.accepting outline.state)).reply _
  | stopReason => exact (consult_agree faithful (rules.stopReason outline.state)).reply _
  | reset grammar => exact (reset_agree grammar).reply _

/-- What an action keeps is kept whether or not the outline is poisoned. -/
theorem whenUsable_keeps {α β : Type} (part : Outline γ → β) {action : Turn (Outline γ) α}
    (kept : part action.state = part outline) :
    part (outline.whenUsable action).state = part outline := by
  -- A refusal keeps every part.
  unfold whenUsable
  split
  · rfl
  · exact kept

/-- A query leaves everything but the mask as it is. -/
theorem forget_query {request : Request} (query : request.isQuery = true) :
    (outline.perform rules request).state.forget = outline.forget := by
  -- Two queries may use the mask, and the other two do not touch the outline.
  obtain ⟨token, rfl⟩ | rfl | rfl | rfl := Request.query_cases query
  · exact congrArg forget (admits_state rules token outline)
  · exact forget_fullMask rules outline
  · exact whenUsable_keeps forget rfl
  · exact whenUsable_keeps forget rfl

/-- A query leaves a faithful outline faithful. -/
theorem Faithful.query (faithful : outline.Faithful rules) {request : Request}
    (query : request.isQuery = true) : (outline.perform rules request).state.Faithful rules := by
  -- Only the request for the mask can put one there.
  obtain ⟨token, rfl⟩ | rfl | rfl | rfl := Request.query_cases query
  · have same := admits_state rules token outline
    simpa [perform, Turn.reply, same] using faithful
  · exact faithful.fullMask
  · exact (consult_agree faithful (rules.accepting outline.state)).2.2
  · exact (consult_agree faithful (rules.stopReason outline.state)).2.2

/-- What no request changes: how many tokens there are, and whether they are checked first. -/
def terms (outline : Outline γ) : Nat × Bool :=
  (outline.size, outline.validates)

/-- No move changes the terms. -/
theorem transit_terms (token : Int) :
    (outline.transit rules token).state.terms = outline.terms := by
  simp only [transit]
  split <;> rfl

/-- No request changes the terms. -/
theorem perform_terms (request : Request) :
    (outline.perform rules request).state.terms = outline.terms := by
  obtain query | ⟨token, rfl⟩ | ⟨grammar, rfl⟩ := request.query_or_move
  · have same : (outline.perform rules request).state.forget = outline.forget := forget_query query
    have kept := congrArg terms same
    exact kept
  · simp only [perform, Turn.reply]
    -- An advance that is refused leaves the outline as it is.
    rcases outline.advance_cases rules token with ⟨fault, refused⟩ | moves
    · rw [refused]
    · rw [moves, transit_terms]
  · -- A reset changes where the outline is, but not what it is over.
    simp only [perform, Turn.reply, reset]
    split <;> rfl

/-- Outlines of one size that differ in nothing but their masks, which are faithful ones. -/
structure AreAlike (rules : Rules γ) (size : Nat) (outline other : Outline γ) : Prop where
  same : outline.forget = other.forget
  faithful : outline.Faithful rules
  otherFaithful : other.Faithful rules
  sized : outline.size = size

namespace AreAlike

variable {other : Outline γ} {size : Nat}

/-- Being alike is mutual. -/
theorem symm (alike : AreAlike rules size outline other) : AreAlike rules size other outline where
  same := alike.same.symm
  faithful := alike.otherFaithful
  otherFaithful := alike.faithful
  sized := by
    -- Both have the same size, since they are the same but for their masks.
    have sizes := congrArg Outline.size alike.same
    exact sizes.symm.trans alike.sized

/-- Outlines that are alike are at the same state. -/
theorem state_eq (alike : AreAlike rules size outline other) : outline.state = other.state := by
  have states := congrArg Outline.state alike.same
  exact states

/-- Outlines that are alike give the same answer to a request, and are alike after it. -/
theorem perform (alike : AreAlike rules size outline other)
    (consistent : rules.Consistent size outline.state) (request : Request) :
    (outline.perform rules request).answer = (other.perform rules request).answer ∧
      AreAlike rules size (outline.perform rules request).state
        (other.perform rules request).state := by
  -- Both are at one state and of one size, so the rules are consistent at both.
  have otherConsistent : rules.Consistent size other.state := alike.state_eq ▸ consistent
  rw [← alike.sized] at consistent
  rw [← alike.symm.sized] at otherConsistent
  -- Both outlines answer as the one without a mask does.
  have agree := perform_agree alike.faithful consistent request
  have otherAgree := perform_agree alike.otherFaithful otherConsistent request
  rw [← alike.same] at otherAgree
  refine ⟨agree.1.trans otherAgree.1.symm, agree.2.1.trans otherAgree.2.1.symm, agree.2.2,
    otherAgree.2.2, ?_⟩
  exact (congrArg Prod.fst (perform_terms request)).trans alike.sized

/-- An outline stays like another one that is asked something. -/
theorem query (alike : AreAlike rules size outline other) {request : Request}
    (query : request.isQuery = true) :
    AreAlike rules size outline (other.perform rules request).state where
  same := alike.same.trans (forget_query query).symm
  faithful := alike.faithful
  otherFaithful := alike.otherFaithful.query query
  sized := alike.sized

end AreAlike

end Outline

end ConstrainedDecoding
