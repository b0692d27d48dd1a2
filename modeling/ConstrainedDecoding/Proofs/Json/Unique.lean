import ConstrainedDecoding.Proofs.Json.Arranged
import ConstrainedDecoding.Proofs.Json.RoundTrip
import ConstrainedDecoding.Proofs.Number.Written

/-! Written documents are told apart by their letters, whatever follows them. -/

namespace ConstrainedDecoding.Json

section Letters

/-- A letter that neither begins nor ends a string, an array or an object, and separates nothing. -/
def IsInner (letter : Letter) : Prop :=
  letter ∉ ([',', ']', '}', '"', '[', '\x7b'] : Text)

instance : DecidablePred IsInner :=
  fun letter => inferInstanceAs (Decidable (letter ∉ ([',', ']', '}', '"', '[', '\x7b'] : Text)))

/-- A digit or another letter of numbers is an inner letter. -/
theorem isInner_of_mark {char : Char} (mark : char.isDigit = true ∨ char ∈ numberMarks) :
    IsInner (.char char) := by
  rcases mark with digit | mark
  · -- None of the other letters is a digit.
    intro among
    simp only [List.mem_cons, List.not_mem_nil, or_false, Letter.char.injEq] at among
    rcases among with rfl | rfl | rfl | rfl | rfl | rfl <;> cases digit
  · have marks : ∀ letter ∈ Text.ofChars numberMarks, IsInner letter := by decide
    exact marks (.char char) (List.mem_map_of_mem mark)

/-- Inner letters go on up to the end of a value. -/
theorem eq_nil_of_inner {more rest : Text} (inner : ∀ letter ∈ more, IsInner letter)
    (ends : Ends (more ++ rest)) : more = [] := by
  cases more with
  | nil => rfl
  | cons letter more =>
    -- If there were a letter, it would have to be both an inner one and one that ends a value.
    have within := inner letter List.mem_cons_self
    rcases ends letter (more ++ rest) rfl with rfl | rfl | rfl <;> exact absurd within (by decide)

/-- Two texts of inner letters are the same if they end in the same place. -/
theorem inner_append_cancel {first second rest other : Text}
    (inner : ∀ letter ∈ first, IsInner letter) (within : ∀ letter ∈ second, IsInner letter)
    (ends : Ends rest) (otherEnds : Ends other) (same : first ++ rest = second ++ other) :
    first = second ∧ rest = other := by
  -- One of the two is the beginning of the other one, which goes on with nothing.
  rcases List.append_eq_append_iff.mp same with ⟨more, rfl, rfl⟩ | ⟨more, rfl, rfl⟩
  · have none : more = [] :=
      eq_nil_of_inner (fun letter member => within letter (List.mem_append_right _ member)) ends
    simp [none]
  · have none : more = [] :=
      eq_nil_of_inner (fun letter member => inner letter (List.mem_append_right _ member)) otherEnds
    simp [none]

end Letters

section Plain

variable {layout : Layout} {left right : Json}

/-- The mark that a string, an array or an object begins with. Words and numbers have none. -/
def mark? : Json → Option Letter
  | str _ => some '"'
  | arr _ => some '['
  | obj _ => some '\x7b'
  | _ => none

/-- The mark comes first. -/
theorem write_of_mark? (layout : Layout) {mark : Letter} (marked : left.mark? = some mark) :
    ∃ tail, write layout left = mark :: tail := by
  -- Just strings, arrays and objects have a mark, and each begins with it.
  match left with
  | null => cases marked
  | bool _ => cases marked
  | int _ => cases marked
  | float _ => cases marked
  | str _ => cases marked; exact ⟨_, rfl⟩
  | arr [] => cases marked; exact ⟨_, rfl⟩
  | arr (_ :: _) => cases marked; exact ⟨_, rfl⟩
  | obj [] => cases marked; exact ⟨_, rfl⟩
  | obj ((_, _) :: _) => cases marked; exact ⟨_, rfl⟩

/-- No mark is an inner letter, and none can follow a value. -/
theorem not_isInner_of_mark? {mark : Letter} (marked : left.mark? = some mark) :
    ¬IsInner mark ∧ mark ≠ ',' ∧ mark ≠ ']' ∧ mark ≠ '}' := by
  cases left <;> cases marked <;> decide

/-- A word or a number is written with inner letters, of which there is at least one. -/
theorem inner_of_mark? (layout : Layout) (plain : left.mark? = none) :
    write layout left ≠ [] ∧ ∀ letter ∈ write layout left, IsInner letter := by
  -- Words are spelled out, and numbers consist of digits, points, signs and the letters of words.
  match left with
  | null => exact ⟨nofun, by rw [write]; decide⟩
  | bool true => exact ⟨nofun, by rw [write]; decide⟩
  | bool false => exact ⟨nofun, by rw [write]; decide⟩
  | int value =>
    refine ⟨?_, fun letter member => ?_⟩
    · intro none
      have none : integerText value = [] := List.map_eq_nil_iff.mp none
      unfold integerText at none
      split at none
      · cases none
      · exact Nat.toDigits_ne_nil none
    · obtain ⟨char, among, rfl⟩ := List.mem_map.mp member
      exact isInner_of_mark (mark_of_mem_integerText among)
  | float value =>
    refine ⟨?_, fun letter member => ?_⟩
    · obtain ⟨char, among, _⟩ := NumberLayout.exists_mark_written value
      exact List.ne_nil_of_mem (List.mem_map_of_mem among)
    · obtain ⟨char, among, rfl⟩ := List.mem_map.mp member
      exact isInner_of_mark (NumberLayout.mem_written among)
  | str _ => cases plain
  | arr _ => cases plain
  | obj _ => cases plain

/-- No value begins with the end of an array. -/
theorem write_append_ne (layout : Layout) (json : Json) (rest tail : Text) :
    write layout json ++ rest ≠ .char ']' :: tail := by
  intro begins
  -- A value begins with its mark or with an inner letter, and the bracket is neither.
  cases marked : json.mark? with
  | some mark =>
    obtain ⟨more, written⟩ := write_of_mark? layout marked
    rw [written] at begins
    exact (not_isInner_of_mark? marked).2.2.1 (List.cons.inj begins).1
  | none =>
    obtain ⟨some, inner⟩ := inner_of_mark? layout marked
    obtain ⟨first, more, written⟩ := List.exists_cons_of_ne_nil some
    rw [written] at begins inner
    have within := inner first List.mem_cons_self
    rw [(List.cons.inj begins).1] at within
    exact absurd within (by decide)

/-- A word: null or a truth value. -/
def IsWord : Json → Prop
  | null => True
  | bool _ => True
  | _ => False

/-- No number is written as a word is. -/
theorem ofChars_ne_write {chars : List Char}
    (number : ∀ char ∈ chars, char.isDigit = true ∨ char ∈ numberMarks) {word : Json}
    (isWord : word.IsWord) : Text.ofChars chars ≠ write layout word := by
  intro same
  -- One of these two letters is in every word, and neither is in a number.
  have letter : .char 'u' ∈ write layout word ∨ .char 's' ∈ write layout word := by
    match word with
    | null => left; rw [write]; decide
    | bool true => left; rw [write]; decide
    | bool false => right; rw [write]; decide
  have mark : ∀ char, .char char ∈ Text.ofChars chars →
      char.isDigit = true ∨ char ∈ numberMarks := by
    intro char member
    obtain ⟨other, among, equal⟩ := List.mem_map.mp member
    exact Letter.char.inj equal ▸ number other among
  rw [← same] at letter
  rcases letter with member | member
  · exact absurd (mark 'u' member) (by decide)
  · exact absurd (mark 's' member) (by decide)

/-- A word is written as no other word or number. -/
theorem IsWord.eq {word : Json} (isWord : word.IsWord) (plain : left.mark? = none)
    (same : write layout left = write layout word) : left = word := by
  -- Two words differ in their first letters or are the same, and no number is written as a word.
  match left, word with
  | null, null => rfl
  | null, bool true => cases same
  | null, bool false => cases same
  | bool true, null => cases same
  | bool false, null => cases same
  | bool true, bool true => rfl
  | bool true, bool false => cases same
  | bool false, bool true => cases same
  | bool false, bool false => rfl
  | int value, word =>
    exact absurd same (ofChars_ne_write (fun _ => mark_of_mem_integerText) isWord)
  | float value, word =>
    exact absurd same (ofChars_ne_write (fun _ => NumberLayout.mem_written) isWord)

/-- Words and numbers are the same if they are written alike, as far as binary64 numbers are. -/
theorem eq_of_write_eq (plain : left.mark? = none) (otherPlain : right.mark? = none)
    (floats : ∀ first second, left = float first → right = float second →
      NumberLayout.written.text first = NumberLayout.written.text second → first = second)
    (same : write layout left = write layout right) : left = right := by
  have chars : ∀ {first second : List Char}, Text.ofChars first = Text.ofChars second →
      first = second := fun same => List.map_injective_iff.mpr (fun _ _ => Letter.char.inj) same
  -- Words are told apart from everything else, and integers from other numbers.
  have null_word : IsWord null := trivial
  have bool_word : ∀ value, IsWord (bool value) := fun _ => trivial
  match left, right with
  | null, right => exact (null_word.eq otherPlain same.symm).symm
  | bool value, right => exact ((bool_word value).eq otherPlain same.symm).symm
  | left, null => exact null_word.eq plain same
  | left, bool value => exact (bool_word value).eq plain same
  | int first, int second => rw [integerText_injective (chars same)]
  | int first, float second =>
    exact absurd (chars same) (NumberLayout.integerText_ne_written first second)
  | float first, int second =>
    exact absurd (chars same).symm (NumberLayout.integerText_ne_written second first)
  | float first, float second => rw [floats first second rfl rfl (chars same)]

end Plain

section Cancels

variable {layout : Layout} {texts : Text → Prop} {floats : Binary64 → Prop}

/-- Two values are the same if they are written alike, and so is what follows them. -/
def Cancels (layout : Layout) (left right : Json) : Prop :=
  ∀ rest other : Text, Ends rest → Ends other →
    write layout left ++ rest = write layout right ++ other → left = right ∧ rest = other

/-- Two strings are the same if they are written alike, and so is what follows them. -/
def TextsCancel (layout : Layout) (left right : Text) : Prop :=
  ∀ rest other : Text, writeString layout.escape left ++ rest =
    writeString layout.escape right ++ other → left = right ∧ rest = other

/-- Strings that read back are told apart. -/
theorem Layout.Reads.textsCancel (reads : layout.Reads texts) {left right : Text}
    (allowed : texts left) (otherAllowed : texts right) : TextsCancel layout left right := by
  intro rest other same
  -- A reader takes each of the two from the same letters, and leaves what follows it.
  have read := reads.string allowed [] rest
  have otherRead := reads.string otherAllowed [] other
  simp only [writeString, List.cons_append, List.append_assoc, List.nil_append, List.cons.injEq,
    true_and] at same
  rw [same, otherRead] at read
  obtain ⟨rfl, rfl⟩ := Prod.mk.inj (Except.ok.inj read)
  exact ⟨rfl, rfl⟩

/-- A string is told apart from itself by what follows it. -/
theorem TextsCancel.refl (layout : Layout) (text : Text) : TextsCancel layout text text :=
  fun _ _ same => ⟨rfl, List.append_cancel_left same⟩

/-- Values that begin differently are told apart. -/
theorem cancels_of_mark?_ne {left right : Json} (differ : left.mark? ≠ right.mark?) :
    Cancels layout left right := by
  -- A text of inner letters, with the end of a value after it, begins with no mark.
  have apart : ∀ {plain json : Json} {rest other : Text} {mark : Letter}, plain.mark? = none →
      json.mark? = some mark → write layout plain ++ rest ≠ write layout json ++ other := by
    intro plain json rest other mark unmarked marked same
    obtain ⟨some, inner⟩ := inner_of_mark? layout unmarked
    obtain ⟨first, more, written⟩ := List.exists_cons_of_ne_nil some
    obtain ⟨tail, begins⟩ := write_of_mark? layout marked
    rw [written] at same inner
    rw [begins] at same
    have within := inner first List.mem_cons_self
    rw [(List.cons.inj same).1] at within
    exact (not_isInner_of_mark? marked).1 within
  intro rest other _ _ same
  cases marked : left.mark? with
  | none =>
    cases otherMarked : right.mark? with
    | none => exact absurd (marked.trans otherMarked.symm) differ
    | some mark => exact absurd same (apart marked otherMarked)
  | some mark =>
    cases otherMarked : right.mark? with
    | none => exact absurd same.symm (apart otherMarked marked)
    | some otherMark =>
      obtain ⟨tail, begins⟩ := write_of_mark? layout marked
      obtain ⟨otherTail, otherBegins⟩ := write_of_mark? layout otherMarked
      rw [begins, otherBegins] at same
      rw [marked, otherMarked, (List.cons.inj same).1] at differ
      exact absurd rfl differ

/-- Words and numbers are told apart if they are written differently. -/
theorem cancels_of_plain {left right : Json} (plain : left.mark? = none)
    (otherPlain : right.mark? = none)
    (unique : write layout left = write layout right → left = right) :
    Cancels layout left right := by
  intro rest other ends otherEnds same
  -- Both are written in inner letters, so they end at the same place.
  obtain ⟨written, follows⟩ := inner_append_cancel (inner_of_mark? layout plain).2
    (inner_of_mark? layout otherPlain).2 ends otherEnds same
  exact ⟨unique written, follows⟩

/-- Strings as values are told apart as strings are. -/
theorem cancels_str {left right : Text} (cancel : TextsCancel layout left right) :
    Cancels layout (str left) (str right) := by
  intro rest other _ _ same
  obtain ⟨rfl, follows⟩ := cancel rest other same
  exact ⟨rfl, follows⟩

/-- What follows an element is told apart if the later elements are. -/
theorem writeElements_cancel (reads : layout.Reads texts) {lefts rights : List Json}
    (parts : ∀ pair ∈ lefts.zip rights, Cancels layout pair.1 pair.2) {rest other : Text}
    (same : writeElements layout lefts ++ rest = writeElements layout rights ++ other) :
    lefts = rights ∧ rest = other := by
  obtain ⟨blanks, comma, _⟩ := reads.comma
  induction lefts generalizing rights with
  | nil =>
    cases rights with
    | nil => exact ⟨rfl, (List.cons.inj same).2⟩
    | cons second rights =>
      -- The end of the array is no comma.
      simp [writeElements, comma] at same
  | cons first lefts ih =>
    cases rights with
    | nil => simp [writeElements, comma] at same
    | cons second rights =>
      simp only [writeElements, List.append_assoc, List.append_cancel_left_eq] at same
      have cancel : Cancels layout first second := parts _ List.mem_cons_self
      obtain ⟨rfl, later⟩ :=
        cancel _ _ (writeElements_ends reads lefts rest) (writeElements_ends reads rights other)
          same
      obtain ⟨rfl, follows⟩ :=
        ih (fun pair member => parts pair (List.mem_cons_of_mem _ member)) later
      exact ⟨rfl, follows⟩

/-- Arrays are told apart if their elements are, one by one. -/
theorem cancels_arr (reads : layout.Reads texts) {lefts rights : List Json}
    (parts : ∀ pair ∈ lefts.zip rights, Cancels layout pair.1 pair.2) :
    Cancels layout (arr lefts) (arr rights) := by
  intro rest other _ _ same
  match lefts, rights with
  | [], [] => exact ⟨rfl, (List.cons.inj (List.cons.inj same).2).2⟩
  | [], second :: rights =>
    -- After the bracket there is an element, or the end of the array.
    simp only [write, List.cons_append, List.append_assoc, List.cons.injEq, true_and] at same
    exact absurd same.symm (write_append_ne layout second _ _)
  | first :: lefts, [] =>
    simp only [write, List.cons_append, List.append_assoc, List.cons.injEq, true_and] at same
    exact absurd same (write_append_ne layout first _ _)
  | first :: lefts, second :: rights =>
    simp only [write, List.cons_append, List.append_assoc, List.cons.injEq, true_and] at same
    have cancel : Cancels layout first second := parts _ List.mem_cons_self
    obtain ⟨rfl, later⟩ :=
      cancel _ _ (writeElements_ends reads lefts rest) (writeElements_ends reads rights other) same
    obtain ⟨rfl, follows⟩ := writeElements_cancel reads
      (fun pair member => parts pair (List.mem_cons_of_mem _ member)) later
    exact ⟨rfl, follows⟩

/-- Two fields are told apart, by their names and by their values. -/
def FieldsCancel (layout : Layout) (left right : Text × Json) : Prop :=
  TextsCancel layout left.1 right.1 ∧ Cancels layout left.2 right.2

/-- A field is told apart from another one, with the fields that follow it. -/
theorem FieldsCancel.first (reads : layout.Reads texts) {left right : Text × Json}
    (cancel : FieldsCancel layout left right) {lefts rights : Fields Json} {rest other : Text}
    (same : writeString layout.escape left.1 ++ (layout.colon ++ (write layout left.2 ++
      (writeFields layout lefts ++ rest))) = writeString layout.escape right.1 ++ (layout.colon ++
        (write layout right.2 ++ (writeFields layout rights ++ other)))) :
    left = right ∧ writeFields layout lefts ++ rest = writeFields layout rights ++ other := by
  -- The colon after the name is the same on both sides.
  obtain ⟨named, same⟩ := cancel.1 _ _ same
  obtain ⟨valued, same⟩ := cancel.2 _ _ (writeFields_ends reads lefts rest)
    (writeFields_ends reads rights other) (List.append_cancel_left same)
  exact ⟨Prod.ext named valued, same⟩

/-- What follows a field is told apart if the later fields are. -/
theorem writeFields_cancel (reads : layout.Reads texts) {lefts rights : Fields Json}
    (parts : ∀ pair ∈ lefts.zip rights, FieldsCancel layout pair.1 pair.2) {rest other : Text}
    (same : writeFields layout lefts ++ rest = writeFields layout rights ++ other) :
    lefts = rights ∧ rest = other := by
  obtain ⟨blanks, comma, _⟩ := reads.comma
  -- By induction on both objects: the fields cancel one by one, and the ends are apart from commas.
  induction lefts generalizing rights with
  | nil =>
    cases rights with
    | nil => exact ⟨rfl, (List.cons.inj same).2⟩
    | cons second rights => simp [writeFields, comma] at same
  | cons first lefts ih =>
    cases rights with
    | nil => simp [writeFields, comma] at same
    | cons second rights =>
      simp only [writeFields, List.append_assoc, List.append_cancel_left_eq] at same
      have cancel : FieldsCancel layout first second := parts _ List.mem_cons_self
      obtain ⟨rfl, later⟩ := cancel.first reads same
      obtain ⟨rfl, follows⟩ :=
        ih (fun pair member => parts pair (List.mem_cons_of_mem _ member)) later
      exact ⟨rfl, follows⟩

/-- Objects are told apart if their fields are, one by one. -/
theorem cancels_obj (reads : layout.Reads texts) {lefts rights : Fields Json}
    (parts : ∀ pair ∈ lefts.zip rights, FieldsCancel layout pair.1 pair.2) :
    Cancels layout (obj lefts) (obj rights) := by
  intro rest other _ _ same
  match lefts, rights with
  | [], [] => exact ⟨rfl, (List.cons.inj (List.cons.inj same).2).2⟩
  | [], second :: rights =>
    -- After the brace there is a name, or the end of the object.
    simp [write, writeString] at same
  | first :: lefts, [] => simp [write, writeString] at same
  | first :: lefts, second :: rights =>
    simp only [write, List.cons_append, List.append_assoc, List.cons.injEq, true_and] at same
    have cancel : FieldsCancel layout first second := parts _ List.mem_cons_self
    obtain ⟨rfl, later⟩ := cancel.first reads same
    obtain ⟨rfl, follows⟩ := writeFields_cancel reads
      (fun pair member => parts pair (List.mem_cons_of_mem _ member)) later
    exact ⟨rfl, follows⟩

/-- Documents that are told apart have different written forms. -/
theorem Cancels.eq {left right : Json} (cancel : Cancels layout left right)
    (same : write layout left = write layout right) : left = right :=
  -- Nothing follows either of them.
  (cancel [] [] nofun nofun (by rw [same])).1

/-- Documents are told apart if the strings in them read back and their numbers are told apart.

Integers of any size and words are told apart in any case. -/
theorem Proper.cancels (reads : layout.Reads texts)
    (unique : ∀ first second, floats first → floats second →
      NumberLayout.written.text first = NumberLayout.written.text second → first = second)
    {left right : Json} (proper : left.Proper texts floats) (other : right.Proper texts floats) :
    Cancels layout left right := by
  -- By induction on the first document. One of another kind begins differently, or it is told apart
  -- by all of its letters.
  have plain : ∀ {left right : Json}, left.Proper texts floats → right.Proper texts floats →
      left.mark? = none → Cancels layout left right := by
    intro left right proper other plain
    by_cases otherPlain : right.mark? = none
    · refine cancels_of_plain plain otherPlain (eq_of_write_eq plain otherPlain ?_)
      rintro first second rfl rfl
      cases proper with
      | float allowed =>
        cases other with
        | float otherAllowed => exact unique first second allowed otherAllowed
    · exact cancels_of_mark?_ne fun same => otherPlain (same ▸ plain)
  induction proper generalizing right with
  | null => exact plain .null other rfl
  | bool value => exact plain (.bool value) other rfl
  | int value => exact plain (.int value) other rfl
  | float allowed => exact plain (.float allowed) other rfl
  | str allowed =>
    cases other with
    | str otherAllowed => exact cancels_str (reads.textsCancel allowed otherAllowed)
    | _ => exact cancels_of_mark?_ne (by simp [mark?])
  | arr _ ih =>
    cases other with
    | arr others =>
      refine cancels_arr reads fun pair member => ?_
      obtain ⟨among, otherwise⟩ := List.of_mem_zip member
      exact ih pair.1 among (others pair.2 otherwise)
    | _ => exact cancels_of_mark?_ne (by simp [mark?])
  | obj _ named _ ih =>
    cases other with
    | obj _ otherNamed others =>
      refine cancels_obj reads fun pair member => ?_
      obtain ⟨among, otherwise⟩ := List.of_mem_zip member
      exact ⟨reads.textsCancel (named pair.1 among) (otherNamed pair.2 otherwise),
        ih pair.1 among (others pair.2 otherwise)⟩
    | _ => exact cancels_of_mark?_ne (by simp [mark?])

end Cancels

end ConstrainedDecoding.Json
