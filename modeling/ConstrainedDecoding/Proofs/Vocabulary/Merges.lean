import ConstrainedDecoding.Proofs.Outcomes
import ConstrainedDecoding.Proofs.Text.Cuts
import ConstrainedDecoding.Vocabulary.Basic

/-! Merge rules in their canonical form: what is accepted as one, and which pairs are told apart. -/

namespace ConstrainedDecoding

/-- What stands between the two parts of a rule. -/
def mergeGap : Letter := .char ' '

/-- A value and the rule that it spells: a text that rule, a list of texts its parts. -/
inductive SpellsMerge : Live → Text → Prop
  | text (rule : Text) : SpellsMerge (.str rule) rule
  | parts (parts : List Text) : SpellsMerge (.list (parts.map .str)) (Text.joinWith [mergeGap] parts)

/-- A value of a kind that rules are given as. -/
def Live.IsMergeKind (merge : Live) : Prop :=
  (∃ text, merge = .str text) ∨ ∃ parts, merge = .list parts

/-- Rules given as pairs of a left and a right part. -/
def pairMerges (pairs : List (Text × Text)) : Live :=
  .list (pairs.map fun pair => .list [.str pair.1, .str pair.2])

/-- One text cut at two gaps, the first pair at the earlier one. -/
def CutsEarlier (pair other : Text × Text) : Prop :=
  ∃ middle, other.1 = pair.1 ++ mergeGap :: middle ∧ pair.2 = middle ++ mergeGap :: other.2

section

variable {merge : Live} {merges : List Live} {rule : Text} {rules : List Text} {fault : Fault}

/-- The rules of a list are taken one by one. -/
theorem normalizeMerges_list (merges : List Live) :
    normalizeMerges (.list merges) = merges.mapM normalizeMerge := by
  -- The empty list counts as false, and has no rules either way.
  cases merges with
  | nil => rfl
  | cons merge rest => rfl

/-- A list of one has the rule of that one. -/
theorem normalizeMerges_singleton_iff :
    normalizeMerges (.list [merge]) = .ok [rule] ↔ normalizeMerge merge = .ok rule := by
  rw [normalizeMerges_list, mapM_eq_ok_iff, List.forall₂_cons]
  exact and_iff_left .nil

/-- A value that is no rule is the one to blame. -/
theorem eq_merge_of_error (failed : normalizeMerge merge = .error fault) :
    fault = .invalid (.merge merge) := by
  cases merge with
  | str text => cases failed
  | list parts => cases failed
  | _ => exact (Except.error.inj failed).symm

/-- There is a rule for each value, or one of the values is none. -/
theorem normalizeMerges_cases (merges : List Live) :
    (∃ rules, normalizeMerges (.list merges) = .ok rules ∧
      List.Forall₂ (fun merge rule => normalizeMerges (.list [merge]) = .ok [rule]) merges rules) ∨
    ∃ merge ∈ merges, normalizeMerges (.list merges) = .error (.invalid (.merge merge)) := by
  simp only [normalizeMerges_singleton_iff]
  rw [normalizeMerges_list]
  -- The rules go through one by one, and the first one that is refused is named.
  cases outcome : merges.mapM normalizeMerge with
  | ok rules => exact .inl ⟨rules, rfl, mapM_eq_ok_iff.mp outcome⟩
  | error fault =>
    obtain ⟨merge, member, failed⟩ := exists_of_mapM_error outcome
    exact .inr ⟨merge, member, by rw [eq_merge_of_error failed]⟩

/-- What has a rule is of a kind that rules are given as. -/
theorem isMergeKind_of_ok (done : normalizeMerge merge = .ok rule) : merge.IsMergeKind := by
  cases merge with
  | str text => exact .inl ⟨text, rfl⟩
  | list parts => exact .inr ⟨parts, rfl⟩
  | _ => cases done

/-- A value of another kind is refused, whatever stands beside it. -/
theorem normalizeMerges_of_kind (member : merge ∈ merges) (other : ¬merge.IsMergeKind) :
    ∃ blamed ∈ merges, normalizeMerges (.list merges) = .error (.invalid (.merge blamed)) := by
  refine (normalizeMerges_cases merges).resolve_left ?_
  -- If all rules went through, this one would be of a kind that does.
  rintro ⟨rules, done, _⟩
  rw [normalizeMerges_list] at done
  obtain ⟨rule, _, done⟩ := exists_of_mapM_ok done member
  exact other (isMergeKind_of_ok done)

/-- A value that spells a rule has it. -/
theorem SpellsMerge.normalizeMerge (spells : SpellsMerge merge rule) :
    normalizeMerge merge = .ok rule := by
  cases spells with
  | text => rfl
  | parts parts =>
    -- Texts are all that is kept of a list, and here there is nothing else in it.
    have texts : (parts.map Live.str).filterMap Live.text? = parts := by
      rw [List.filterMap_map]
      exact List.filterMap_some
    exact congrArg (fun texts => Except.ok (Text.joinWith [mergeGap] texts)) texts

/-- Values that spell rules have these rules, in their order. -/
theorem normalizeMerges_of_spells (spells : List.Forall₂ SpellsMerge merges rules) :
    normalizeMerges (.list merges) = .ok rules := by
  rw [normalizeMerges_list, mapM_eq_ok_iff]
  exact spells.imp fun _ _ => SpellsMerge.normalizeMerge

end

section

variable {pair other : Text × Text} {pairs others : List (Text × Text)}

/-- Pairs become their parts with a gap between them. -/
theorem normalizeMerges_pairs (pairs : List (Text × Text)) :
    normalizeMerges (pairMerges pairs) =
      .ok (pairs.map fun pair => pair.1 ++ mergeGap :: pair.2) := by
  refine normalizeMerges_of_spells ?_
  rw [List.forall₂_map_left_iff, List.forall₂_map_right_iff, List.forall₂_same]
  intro pair _
  -- Between two parts stands one gap.
  have joined : Text.joinWith [mergeGap] [pair.1, pair.2] = pair.1 ++ mergeGap :: pair.2 := by
    simp [Text.joinWith]
  exact joined ▸ SpellsMerge.parts [pair.1, pair.2]

/-- Two pairs make one rule just if they are the same, or they cut it at different gaps. -/
theorem mergeRule_eq_iff :
    pair.1 ++ mergeGap :: pair.2 = other.1 ++ mergeGap :: other.2 ↔
      pair = other ∨ CutsEarlier pair other ∨ CutsEarlier other pair := by
  rw [append_cons_eq_append_cons_iff, ← Prod.ext_iff, CutsEarlier, CutsEarlier]

/-- Tables of pairs become the same rules just if their pairs do so, one by one. -/
theorem normalizeMerges_pairs_eq_iff :
    normalizeMerges (pairMerges pairs) = normalizeMerges (pairMerges others) ↔
      List.Forall₂ (fun pair other => pair = other ∨ CutsEarlier pair other ∨ CutsEarlier other pair)
        pairs others := by
  rw [normalizeMerges_pairs, normalizeMerges_pairs, Except.ok.injEq, ← List.forall₂_eq_eq_eq,
    List.forall₂_map_left_iff, List.forall₂_map_right_iff]
  simp only [mergeRule_eq_iff]

/-- If no left part has a gap in it, or no right part has, no rule can be cut in two ways. -/
theorem eq_of_gapless
    (gapless : (∀ pair ∈ pairs ++ others, mergeGap ∉ pair.1) ∨
      ∀ pair ∈ pairs ++ others, mergeGap ∉ pair.2)
    (same : normalizeMerges (pairMerges pairs) = normalizeMerges (pairMerges others)) :
    pairs = others := by
  rw [normalizeMerges_pairs_eq_iff] at same
  -- The pair that is cut later has a gap on its left, and the other one has it on its right.
  have uncut : ∀ pair ∈ pairs ++ others, ∀ other ∈ pairs ++ others, ¬CutsEarlier pair other := by
    rintro pair member other otherMember ⟨middle, left, right⟩
    rcases gapless with lefts | rights
    · exact lefts other otherMember (by simp [left])
    · exact rights pair member (by simp [right])
  obtain ⟨lengths, related⟩ := List.forall₂_iff_zip.mp same
  rw [← List.forall₂_eq_eq_eq, List.forall₂_iff_zip]
  refine ⟨lengths, fun zipped => ?_⟩
  obtain ⟨left, right⟩ := List.of_mem_zip zipped
  have member := List.mem_append_left others left
  have otherMember := List.mem_append_right pairs right
  rcases related zipped with same | earlier | later
  · exact same
  · exact absurd earlier (uncut _ member _ otherMember)
  · exact absurd later (uncut _ otherMember _ member)

/--
Merge rules are normalized one by one, and pairs are told apart but for where one text is cut.

For every list of values there is one text for each of them, in their order, or one of them is
refused. A value that is neither a text nor a list is enough for that, and texts and lists of texts
are not: these have the rules that they spell. Two tables of pairs become the same rules just if
pair by pair they are the same or cut one text at different gaps, which takes a gap in a left part
and one in a right part.
-/
theorem normalizeMerges_faithful (merges : List Live) :
    ((∃ rules, normalizeMerges (.list merges) = .ok rules ∧
        List.Forall₂ (fun merge rule => normalizeMerges (.list [merge]) = .ok [rule])
          merges rules) ∨
      ∃ blamed ∈ merges, normalizeMerges (.list merges) = .error (.invalid (.merge blamed))) ∧
    ((∃ merge ∈ merges, ¬merge.IsMergeKind) →
      ∃ blamed ∈ merges, normalizeMerges (.list merges) = .error (.invalid (.merge blamed))) ∧
    (∀ rules, List.Forall₂ SpellsMerge merges rules →
      normalizeMerges (.list merges) = .ok rules) ∧
    ∀ pairs others : List (Text × Text),
      (normalizeMerges (pairMerges pairs) = normalizeMerges (pairMerges others) ↔
        List.Forall₂ (fun pair other =>
          pair = other ∨ CutsEarlier pair other ∨ CutsEarlier other pair) pairs others) ∧
      (((∀ pair ∈ pairs ++ others, mergeGap ∉ pair.1) ∨
          ∀ pair ∈ pairs ++ others, mergeGap ∉ pair.2) →
        normalizeMerges (pairMerges pairs) = normalizeMerges (pairMerges others) →
        pairs = others) := by
  -- The first part holds of all merges, and the others are about those of certain kinds.
  refine ⟨normalizeMerges_cases merges, ?_, fun rules => normalizeMerges_of_spells, ?_⟩
  · rintro ⟨merge, member, other⟩
    exact normalizeMerges_of_kind member other
  · exact fun pairs others => ⟨normalizeMerges_pairs_eq_iff, eq_of_gapless⟩

/-- Two tables of pairs without empty parts differ, and become the same rule. -/
theorem pairs_with_gaps_confused :
    let earlier : Text × Text := ("a", "b c")
    let later : Text × Text := ("a b", "c")
    (∀ pair ∈ [earlier, later], pair.1 ≠ [] ∧ pair.2 ≠ []) ∧ [earlier] ≠ [later] ∧
      normalizeMerges (pairMerges [earlier]) = .ok ["a b c"] ∧
      normalizeMerges (pairMerges [later]) = .ok ["a b c"] :=
  ⟨by decide, by decide, rfl, rfl⟩

end

end ConstrainedDecoding
