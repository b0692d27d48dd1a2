import Mathlib.Data.List.Forall2
import Mathlib.Data.List.Perm.Basic

/-! What a computation that may fail has done when it did not. -/

namespace ConstrainedDecoding

variable {ε α β : Type}

/-- Two steps have a result just if the first has one, and the second has it from there. -/
theorem bind_eq_ok_iff {first : Except ε α} {second : α → Except ε β} {result : β} :
    (first >>= second) = .ok result ↔ ∃ value, first = .ok value ∧ second value = .ok result := by
  cases first with
  | error fault => simp [Bind.bind, Except.bind]
  | ok value => simp [Bind.bind, Except.bind]

/-- Two steps fail just if the first one does, or the second one does after it. -/
theorem bind_eq_error_iff {first : Except ε α} {second : α → Except ε β} {fault : ε} :
    (first >>= second) = .error fault ↔
      first = .error fault ∨ ∃ value, first = .ok value ∧ second value = .error fault := by
  cases first with
  | error other => simp [Bind.bind, Except.bind]
  | ok value => simp [Bind.bind, Except.bind]

/-- Renaming a failure does not change what there is without one. -/
theorem mapError_eq_ok_iff {ζ : Type} {outcome : Except ε α} {rename : ε → ζ} {result : α} :
    outcome.mapError rename = .ok result ↔ outcome = .ok result := by
  cases outcome with
  | error fault => simp [Except.mapError]
  | ok value => simp [Except.mapError]

/-- A step for each element has results just if every step has one. -/
theorem mapM_eq_ok_iff {step : α → Except ε β} {elements : List α} {results : List β} :
    elements.mapM step = .ok results ↔
      List.Forall₂ (fun element result => step element = .ok result) elements results := by
  induction elements generalizing results with
  | nil =>
    rw [List.mapM_nil, List.forall₂_nil_left_iff]
    exact ⟨fun none => (Except.ok.inj none).symm, fun none => none ▸ rfl⟩
  | cons element rest ih =>
    -- The first step has to succeed, and then the others.
    rw [List.mapM_cons, List.forall₂_cons_left_iff]
    simp only [bind_eq_ok_iff, ih, Pure.pure, Except.pure, Except.ok.injEq]
    constructor
    · rintro ⟨result, done, others, rests, rfl⟩
      exact ⟨result, others, done, rests, rfl⟩
    · rintro ⟨result, others, done, rests, rfl⟩
      exact ⟨result, done, others, rests, rfl⟩

/-- In lists that are related pair by pair, every element of the first is related to one of the
second. -/
theorem exists_of_mem_forall₂ {related : α → β → Prop} {lefts : List α} {rights : List β}
    (pairs : List.Forall₂ related lefts rights) {left : α} (member : left ∈ lefts) :
    ∃ right ∈ rights, related left right := by
  -- By induction on the pairs: the element is the first one or among the others.
  induction pairs with
  | nil => cases member
  | @cons first second lefts rights relates _ ih =>
    rcases List.mem_cons.mp member with rfl | later
    · exact ⟨second, List.mem_cons_self, relates⟩
    · obtain ⟨found, among, relates⟩ := ih later
      exact ⟨found, List.mem_cons_of_mem second among, relates⟩

/-- Every element has a result among the others if all steps have one. -/
theorem exists_of_mapM_ok {step : α → Except ε β} {elements : List α} {results : List β}
    (done : elements.mapM step = .ok results) {element : α} (member : element ∈ elements) :
    ∃ result ∈ results, step element = .ok result :=
  exists_of_mem_forall₂ (mapM_eq_ok_iff.mp done) member

/-- Every result is that of a step for some element. -/
theorem exists_of_mem_mapM {step : α → Except ε β} {elements : List α} {results : List β}
    (done : elements.mapM step = .ok results) {result : β} (member : result ∈ results) :
    ∃ element ∈ elements, step element = .ok result :=
  -- The pairs are the same with their sides exchanged.
  exists_of_mem_forall₂ (List.Forall₂.flip (mapM_eq_ok_iff.mp done)) member

/-- If the steps fail, one of them has failed. -/
theorem exists_of_mapM_error {step : α → Except ε β} {elements : List α} {fault : ε}
    (failed : elements.mapM step = .error fault) :
    ∃ element ∈ elements, step element = .error fault := by
  -- By induction: the first step fails, or those after it do. Putting the list together never
  -- fails.
  induction elements with
  | nil => cases failed
  | cons element rest ih =>
    rw [List.mapM_cons, bind_eq_error_iff] at failed
    rcases failed with first | ⟨result, _, later⟩
    · exact ⟨element, List.mem_cons_self, first⟩
    · rcases bind_eq_error_iff.mp later with later | ⟨_, _, done⟩
      · obtain ⟨found, among, failed⟩ := ih later
        exact ⟨found, List.mem_cons_of_mem element among, failed⟩
      · cases done

/-- If every step has a result, there are results. -/
theorem exists_mapM_ok {step : α → Except ε β} {elements : List α}
    (steps : ∀ element ∈ elements, ∃ result, step element = .ok result) :
    ∃ results, elements.mapM step = .ok results := by
  -- If the whole failed, one of the steps would have to.
  cases outcome : elements.mapM step with
  | ok results => exact ⟨results, rfl⟩
  | error fault =>
    obtain ⟨element, member, failed⟩ := exists_of_mapM_error outcome
    obtain ⟨result, stepped⟩ := steps element member
    cases failed.symm.trans stepped

/-- The elements with their results are the elements with what their steps come to. -/
theorem map_zip_results {step : α → Except ε β} {elements : List α} {results : List β}
    (done : List.Forall₂ (fun element result => step element = .ok result) elements results) :
    (elements.zip results).map (fun pair => (pair.1, (.ok pair.2 : Except ε β))) =
      elements.map fun element => (element, step element) := by
  induction done with
  | nil => rfl
  | cons stepped _ ih => rw [List.zip_cons_cons, List.map_cons, List.map_cons, ih, stepped]

/-- If elements are put in another order, their results come in that order, too. -/
theorem zip_results_perm {step : α → Except ε β} {elements others : List α}
    {results otherResults : List β}
    (done : List.Forall₂ (fun element result => step element = .ok result) elements results)
    (othersDone : List.Forall₂ (fun element result => step element = .ok result) others
      otherResults) (reordered : others.Perm elements) :
    (others.zip otherResults).Perm (elements.zip results) := by
  -- An element determines its result, so pairs can be compared before the results are taken out.
  have injective : Function.Injective fun pair : α × β => (pair.1, (.ok pair.2 : Except ε β)) := by
    rintro ⟨left, right⟩ ⟨otherLeft, otherRight⟩ same
    cases same
    rfl
  rw [← List.map_perm_map_iff injective, map_zip_results done, map_zip_results othersDone]
  exact reordered.map _

/-- A step for each element succeeds just if every step does. -/
theorem forM_eq_ok_iff {step : α → Except ε Unit} {elements : List α} :
    elements.forM step = .ok () ↔ ∀ element ∈ elements, step element = .ok () := by
  -- By induction: all steps succeed just if the first one and all later ones do.
  induction elements with
  | nil => exact ⟨fun _ => nofun, fun _ => rfl⟩
  | cons element rest ih =>
    rw [List.forM, bind_eq_ok_iff, List.forall_mem_cons, ih]
    exact ⟨fun ⟨_, first, later⟩ => ⟨first, later⟩, fun ⟨first, later⟩ => ⟨(), first, later⟩⟩

end ConstrainedDecoding
