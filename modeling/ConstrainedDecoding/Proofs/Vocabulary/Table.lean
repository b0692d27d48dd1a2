import Mathlib.Algebra.Order.Ring.Int
import ConstrainedDecoding.Proofs.Outcomes
import ConstrainedDecoding.Vocabulary.ByteTable

/-! What a vocabulary writes to its table: the last entry for an id gives the bytes of that id. -/

namespace ConstrainedDecoding

/-- The greatest measure of some elements is at least that of each, and at least where it starts. -/
theorem le_foldl_max {α β : Type} [LinearOrder α] (measure : β → α) (elements : List β) (start : α) :
    let greatest := elements.foldl (fun greatest element => max greatest (measure element)) start
    start ≤ greatest ∧ ∀ element ∈ elements, measure element ≤ greatest := by
  -- Each element may raise the start for those after it.
  induction elements generalizing start with
  | nil => simp
  | cons element rest ih =>
    obtain ⟨start_le, rest_le⟩ := ih (max start (measure element))
    simp only [List.foldl_cons, List.forall_mem_cons]
    exact ⟨(le_max_left _ _).trans start_le, (le_max_right _ _).trans start_le, rest_le⟩

/-- An index that counts from the start is its own place. -/
theorem position?_natCast {length place : Nat} (inside : place < length) :
    position? length place = some place := by
  have counted : ¬(place : Int) < 0 := by omega
  simp [position?, counted, inside]

section Replaced

variable {α : Type} {elements replaced : List α} {element : α}

/-- What is replaced has a place, counted from the start or from the end. -/
theorem exists_position? {index : Int} (written : replaceAt elements index element = .ok replaced) :
    ∃ place, position? elements.length index = some place ∧
      replaced = elements.set place element := by
  simp only [replaceAt] at written
  split at written
  · rename_i place found
    exact ⟨place, found, (Except.ok.inj written).symm⟩
  · cases written

/-- Replacing an element leaves as many as there were. -/
theorem replaceAt_length {index : Int}
    (written : replaceAt elements index element = .ok replaced) :
    replaced.length = elements.length := by
  obtain ⟨place, _, rfl⟩ := exists_position? written
  exact List.length_set

/-- An index is that of an element if it is not too far from the start, or from the end. -/
theorem replaceAt_bounds {index : Int}
    (written : replaceAt elements index element = .ok replaced) :
    -(elements.length : Int) ≤ index ∧ index < elements.length := by
  -- A negative index counts from the end, and has to stay inside as well.
  obtain ⟨place, found, _⟩ := exists_position? written
  simp only [position?, Option.ite_none_right_eq_some, Bool.and_eq_true, decide_eq_true_eq] at found
  obtain ⟨inside, _⟩ := found
  split at inside <;> omega

/-- An element that is counted from the start is replaced at its own place. -/
theorem replaceAt_natCast {index : Nat}
    (written : replaceAt elements index element = .ok replaced) :
    replaced = elements.set index element := by
  have inside : index < elements.length := Int.ofNat_lt.mp (replaceAt_bounds written).2
  -- An index that is not negative is its own place.
  obtain ⟨place, found, rfl⟩ := exists_position? written
  rw [position?_natCast inside] at found
  rw [Option.some.inj found]

end Replaced

namespace Vocabulary

/-- The id is that of an added token that is flagged as special. -/
def IsSpecial (vocabulary : Vocabulary) (id : Int) : Prop :=
  ∃ token ∈ vocabulary.added, token.special = true ∧ token.id = id

/-- The special ids are those of the special added tokens. -/
theorem mem_specialIds_iff {vocabulary : Vocabulary} {id : Int} :
    id ∈ vocabulary.specialIds ↔ vocabulary.IsSpecial id := by
  simp [specialIds, IsSpecial, List.mem_eraseDups, and_assoc]

/-- Ids are compared with the size of a vocabulary if that is a number. -/
theorem isBeyond_eq {vocabulary : Vocabulary} {size : Json} {bound : Json.Number}
    (sized : vocabulary.size = .ok size) (number : size.number? = some bound) (id : Int) :
    vocabulary.isBeyond id = .ok (bound.le (.int id)) := by
  simp only [isBeyond, sized, Bind.bind, Except.bind, number]
  rfl

end Vocabulary

namespace ByteTable

/-- Entries by id, each with the bytes that it writes or with why it has none. -/
abbrev Entries : Type :=
  List (Int × Except Text.Unencodable Bytes)

/-- The last one of the entries for an id gives it some bytes. -/
def Gives (entries : Entries) (id : Int) (bytes : Bytes) : Prop :=
  ∃ before after, entries = before ++ (id, .ok bytes) :: after ∧ ∀ entry ∈ after, entry.1 ≠ id

/-- The last entry is the first one just if no other for its id comes after it. -/
theorem gives_cons_iff {entry : Int × Except Text.Unencodable Bytes} {rest : Entries} {id : Int}
    {bytes : Bytes} : Gives (entry :: rest) id bytes ↔
      Gives rest id bytes ∨ entry = (id, .ok bytes) ∧ ∀ later ∈ rest, later.1 ≠ id := by
  -- What comes before the last entry is empty just if that is the first one.
  constructor
  · rintro ⟨before, after, parts, last⟩
    cases before with
    | nil =>
      obtain ⟨rfl, rfl⟩ := List.cons.inj parts
      exact .inr ⟨rfl, last⟩
    | cons first before =>
      obtain ⟨rfl, rfl⟩ := List.cons.inj parts
      exact .inl ⟨before, after, rfl, last⟩
  · rintro (⟨before, after, rfl, last⟩ | ⟨rfl, last⟩)
    · exact ⟨entry :: before, after, rfl, last⟩
    · exact ⟨[], rest, rfl, last⟩

/-- An entry that is written has bytes, and these are written to its place. -/
theorem writeEntry_eq_ok_iff {tokens written : List Bytes}
    {entry : Int × Except Text.Unencodable Bytes} :
    writeEntry tokens entry = .ok written ↔
      ∃ bytes, entry.2 = .ok bytes ∧ replaceAt tokens entry.1 bytes = .ok written := by
  rw [writeEntry, bind_eq_ok_iff]
  simp only [mapError_eq_ok_iff]

/-- Entries are written one after the other. -/
theorem write_cons_eq_ok_iff {tokens written : List Bytes}
    {entry : Int × Except Text.Unencodable Bytes} {rest : Entries} :
    write tokens (entry :: rest) = .ok written ↔
      ∃ middle, writeEntry tokens entry = .ok middle ∧ write middle rest = .ok written := by
  rw [write, List.foldlM_cons, bind_eq_ok_iff]
  rfl

/-- Writing entries leaves as many places as there were. -/
theorem write_length {tokens written : List Bytes} {entries : Entries}
    (wrote : write tokens entries = .ok written) : written.length = tokens.length := by
  -- An entry with bytes replaces those of one place.
  induction entries generalizing tokens with
  | nil =>
    cases wrote
    rfl
  | cons entry rest ih =>
    obtain ⟨middle, first, later⟩ := write_cons_eq_ok_iff.mp wrote
    obtain ⟨bytes, _, replaced⟩ := writeEntry_eq_ok_iff.mp first
    exact (ih later).trans (replaceAt_length replaced)

/-- Entries with ids that have places can be written just if all of them have bytes. -/
theorem exists_write_iff {tokens : List Bytes} {entries : Entries}
    (inside : ∀ entry ∈ entries, 0 ≤ entry.1 ∧ entry.1 < tokens.length) :
    (∃ written, write tokens entries = .ok written) ↔
      ∀ entry ∈ entries, ∃ bytes, entry.2 = .ok bytes := by
  induction entries generalizing tokens with
  | nil => exact iff_of_true ⟨tokens, rfl⟩ (by simp)
  | cons entry rest ih =>
    obtain ⟨⟨positive, below⟩, later⟩ := List.forall_mem_cons.mp inside
    obtain ⟨id, own⟩ := Int.eq_ofNat_of_zero_le positive
    have place : id < tokens.length := by omega
    -- The first entry has a place, and writing there leaves the places of the others.
    simp only [write_cons_eq_ok_iff, writeEntry_eq_ok_iff, List.forall_mem_cons, own, replaceAt,
      position?_natCast place, Except.ok.injEq]
    constructor
    · rintro ⟨written, _, ⟨bytes, spelled, rfl⟩, wrote⟩
      exact ⟨⟨bytes, spelled⟩, (ih (by simpa using later)).mp ⟨written, wrote⟩⟩
    · rintro ⟨⟨bytes, spelled⟩, others⟩
      obtain ⟨written, wrote⟩ := (@ih (tokens.set id bytes) (by simpa using later)).mpr others
      exact ⟨written, _, ⟨bytes, spelled, rfl⟩, wrote⟩

/-- A place holds what the last entry for its number gives it, or else what it held before. -/
theorem write_getElem?_iff {tokens written : List Bytes} {entries : Entries}
    (positive : ∀ entry ∈ entries, 0 ≤ entry.1) (wrote : write tokens entries = .ok written)
    (place : Nat) (bytes : Bytes) :
    written[place]? = some bytes ↔
      Gives entries place bytes ∧ place < tokens.length ∨
        (∀ entry ∈ entries, entry.1 ≠ place) ∧ tokens[place]? = some bytes := by
  induction entries generalizing tokens with
  | nil =>
    cases wrote
    simp [Gives]
  | cons entry rest ih =>
    obtain ⟨here, later⟩ := List.forall_mem_cons.mp positive
    obtain ⟨middle, first, wrote⟩ := write_cons_eq_ok_iff.mp wrote
    obtain ⟨given, spelled, replaced⟩ := writeEntry_eq_ok_iff.mp first
    obtain ⟨id, own⟩ := Int.eq_ofNat_of_zero_le here
    rw [own] at replaced
    obtain rfl := replaceAt_natCast replaced
    rw [ih later wrote, gives_cons_iff, List.length_set, List.forall_mem_cons, List.getElem?_set]
    obtain rfl : entry = ((id : Int), .ok given) := Prod.ext own spelled
    by_cases same : id = place
    · -- The entry is for this place, and holds there unless a later one is for it as well.
      subst same
      simp only [if_true, Prod.mk.injEq, Except.ok.injEq, true_and, ne_eq, not_true_eq_false,
        false_and, or_false]
      split <;> grind
    · have other : (id : Int) ≠ place := by exact_mod_cast same
      simp [same, other]

/-- A table is made by writing the entries of the vocabulary, and an end that lies beyond it. -/
theorem make_eq_ok_iff {vocabulary : Vocabulary} {eos : Int} {count : Nat} {table : ByteTable} :
    make vocabulary eos count = .ok table ↔
      ∃ tokens, write (List.replicate count []) (entries vocabulary) = .ok tokens ∧
        ((vocabulary.isBeyond eos = .ok true ∧ ∃ extended,
            replaceAt tokens eos endMark = .ok extended ∧
            table = ⟨extended, eos, vocabulary.roles.bos,
              ((eos :: vocabulary.specialIds).mergeSort (· ≤ ·)).eraseDups⟩) ∨
          vocabulary.isBeyond eos = .ok false ∧
            table = ⟨tokens, eos, vocabulary.roles.bos, vocabulary.specialIds⟩) := by
  -- The table is made from what was written, and the end decides on what is added.
  simp only [make, bind_eq_ok_iff]
  refine exists_congr fun tokens => and_congr_right fun _ => ?_
  constructor
  · rintro ⟨beyond, found, made⟩
    cases beyond with
    | true =>
      obtain ⟨extended, replaced, made⟩ := bind_eq_ok_iff.mp made
      exact .inl ⟨found, extended, replaced, (Except.ok.inj made).symm⟩
    | false => exact .inr ⟨found, (Except.ok.inj made).symm⟩
  · rintro (⟨found, extended, replaced, rfl⟩ | ⟨found, rfl⟩)
    · exact ⟨true, found, bind_eq_ok_iff.mpr ⟨extended, replaced, rfl⟩⟩
    · exact ⟨false, found, rfl⟩

section Made

variable {vocabulary : Vocabulary} {eos : Int} {count : Nat} {table : ByteTable}

/-- A table has as many places as it is made with. -/
theorem make_length (made : make vocabulary eos count = .ok table) :
    table.tokens.length = count := by
  -- Writing the entries and the end only replaces what is there.
  obtain ⟨tokens, wrote, made⟩ := make_eq_ok_iff.mp made
  have length : tokens.length = count := by simpa using write_length wrote
  rcases made with ⟨_, extended, replaced, rfl⟩ | ⟨_, rfl⟩
  · exact (replaceAt_length replaced).trans length
  · exact length

/-- A table has the end that it is made with. -/
theorem make_eos (made : make vocabulary eos count = .ok table) : table.eos = eos := by
  obtain ⟨_, _, ⟨_, _, _, rfl⟩ | ⟨_, rfl⟩⟩ := make_eq_ok_iff.mp made
  · rfl
  · rfl

/-- Special in a table are the special added tokens, and an end that lies beyond the vocabulary. -/
theorem mem_special_iff (made : make vocabulary eos count = .ok table) {id : Int} :
    id ∈ table.special ↔
      vocabulary.IsSpecial id ∨ vocabulary.isBeyond eos = .ok true ∧ id = eos := by
  -- Sorting the ids and leaving out repetitions keeps all of them.
  obtain ⟨_, _, ⟨beyond, _, _, rfl⟩ | ⟨inside, rfl⟩⟩ := make_eq_ok_iff.mp made
  · simp [List.mem_eraseDups, Vocabulary.mem_specialIds_iff, beyond, or_comm]
  · simp [Vocabulary.mem_specialIds_iff, inside]

end Made

end ByteTable

end ConstrainedDecoding
