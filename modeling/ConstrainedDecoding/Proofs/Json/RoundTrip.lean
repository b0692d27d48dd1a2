import ConstrainedDecoding.Json.Payload
import ConstrainedDecoding.Proofs.Json.Lawful
import ConstrainedDecoding.Proofs.Text.Utf8

/-! Documents are read back from their written form. -/

namespace ConstrainedDecoding

namespace Json

/-- A layout is one that documents with certain texts are read back from. -/
structure Layout.Reads (layout : Layout) (texts : Text → Prop) : Prop where
  string {text : Text} : texts text → ∀ opening rest,
    scanString opening (text.flatMap layout.escape ++ .char '"' :: rest) = .ok (text, rest)
  comma : ∃ blanks, layout.comma = .char ',' :: blanks ∧ ∀ letter ∈ blanks, isSpace letter = true
  colon : ∃ blanks, layout.colon = .char ':' :: blanks ∧ ∀ letter ∈ blanks, isSpace letter = true

/-- Every text reads back from the layout that keeps Unicode as it is. -/
theorem plainLayout_reads : plainLayout.Reads fun _ => True where
  string _ opening rest := scanString_write opening _ rest
  comma := ⟨[.char ' '], rfl, by simp [isSpace]⟩
  colon := ⟨[.char ' '], rfl, by simp [isSpace]⟩

/-- A text that begins as values do, and neither with white space nor with the end of an array. -/
def Begins (text : Text) : Prop :=
  ∃ letter tail, text = letter :: tail ∧ isSpace letter = false ∧ letter ≠ .char ']' ∧
    letter ≠ .ofNumber 0xFEFF

/-- What a text begins with is not changed by what follows it. -/
theorem Begins.append {text : Text} (begins : Begins text) (more : Text) :
    Begins (text ++ more) := by
  obtain ⟨letter, tail, rfl, visible, others⟩ := begins
  exact ⟨letter, tail ++ more, rfl, visible, others⟩

/-- No white space is skipped before a value, and all of it is before that. -/
theorem Begins.skipSpace {text blanks : Text} (begins : Begins text)
    (blank : ∀ letter ∈ blanks, isSpace letter = true) : skipSpace (blanks ++ text) = text := by
  obtain ⟨letter, tail, rfl, visible, _⟩ := begins
  rw [Json.skipSpace, List.dropWhile_append_of_pos blank, List.dropWhile_cons, visible]
  rfl

/-- A text that begins as values do has no white space to skip. -/
theorem Begins.visible {text : Text} (begins : Begins text) : Json.skipSpace text = text :=
  @Begins.skipSpace text [] begins fun _ none => absurd none List.not_mem_nil

/-- A text that a word or a number is read from begins as values do, and with no mark. -/
theorem begins_of_scanPlain {text : Text} {result : Json × Text}
    (read : scanPlain text = .ok result) :
    Begins text ∧ ∃ letter tail, text = letter :: tail ∧ letter ≠ .char '"' ∧
      letter ≠ .char '[' ∧ letter ≠ .char '\x7b' := by
  cases text with
  | nil => cases read
  | cons letter tail =>
    -- Neither a number nor a word begins with any of these letters.
    have visible : isSpace letter = false := by
      cases space : isSpace letter with
      | false => rfl
      | true =>
        simp only [isSpace, Bool.or_eq_true, decide_eq_true_eq] at space
        rcases space with ((rfl | rfl) | rfl) | rfl <;> cases read
    refine ⟨⟨letter, tail, rfl, visible, ?_, ?_⟩, letter, tail, rfl, ?_, ?_, ?_⟩
    all_goals
      rintro rfl
      cases read

section

variable {fuel : Nat} {text more after rest : Text} {json : Json} {name : Text}
  {elements : List Json} {fields : List (Text × Json)}

/-- A word or a number is read as a value. -/
theorem scanValue_plain (read : scanPlain text = .ok (json, rest)) :
    scanValue (fuel + 1) text = .ok (json, rest) := by
  obtain ⟨_, letter, tail, rfl, string, array, object⟩ := begins_of_scanPlain read
  rw [scanValue.eq_def]
  simp only
  -- None of the three marks of other values stands at the start.
  split
  · rename_i same
    exact absurd (List.cons.inj same).1 string
  · rename_i same
    exact absurd (List.cons.inj same).1 array
  · rename_i same
    exact absurd (List.cons.inj same).1 object
  · exact read

/-- An array with elements is read as its elements are. -/
theorem scanValue_arr (begins : Begins text)
    (read : scanElements fuel text = .ok (elements, rest)) :
    scanValue (fuel + 1) (.char '[' :: text) = .ok (arr elements, rest) := by
  have visible := begins.visible
  obtain ⟨letter, tail, rfl, _, close, _⟩ := begins
  -- An element stands after the bracket, so the array is not empty.
  rw [scanValue.eq_def]
  simp only [visible]
  split
  · rename_i same
    exact absurd (List.cons.inj same).1 close
  · rw [read]
    rfl

/-- An object with fields is read as its fields are. -/
theorem scanValue_obj {tail : Text} (quoted : text = .char '"' :: tail)
    (read : scanFields fuel text = .ok (fields, rest)) :
    scanValue (fuel + 1) (.char '\x7b' :: text) = .ok (obj (Fields.ofList fields), rest) := by
  subst quoted
  have visible : skipSpace (.char '"' :: tail) = .char '"' :: tail := rfl
  rw [scanValue.eq_def]
  simp only [visible]
  -- A quotation mark stands after the brace, so the object is not empty.
  split
  · rename_i same
    exact absurd (List.cons.inj same).1 (by decide)
  · rw [read]
    rfl

/-- The last element is followed by the end of the array. -/
theorem scanElements_last (read : scanValue fuel text = .ok (json, .char ']' :: rest)) :
    scanElements (fuel + 1) text = .ok ([json], rest) := by
  rw [scanElements.eq_def]
  simp only [read]
  rfl

/-- Any other element is followed by a comma and the elements after it. -/
theorem scanElements_more (read : scanValue fuel text = .ok (json, .char ',' :: after))
    (others : scanElements fuel (skipSpace after) = .ok (elements, rest)) :
    scanElements (fuel + 1) text = .ok (json :: elements, rest) := by
  have comma : skipSpace (.char ',' :: after) = .char ',' :: after := rfl
  rw [scanElements.eq_def]
  simp only [read, Bind.bind, Except.bind, comma, others]
  rfl

/-- The last field is followed by the end of the object. -/
theorem scanFields_last
    (named : ∀ opening, scanString opening text = .ok (name, .char ':' :: after))
    (read : scanValue fuel (skipSpace after) = .ok (json, .char '\x7d' :: rest)) :
    scanFields (fuel + 1) (.char '"' :: text) = .ok ([(name, json)], rest) := by
  have colon : skipSpace (.char ':' :: after) = .char ':' :: after := rfl
  rw [scanFields.eq_def]
  simp only [named, Bind.bind, Except.bind, colon, read]
  rfl

/-- Any other field is followed by a comma and the fields after it. -/
theorem scanFields_more {valued : Text}
    (named : ∀ opening, scanString opening text = .ok (name, .char ':' :: after))
    (read : scanValue fuel (skipSpace after) = .ok (json, .char ',' :: valued))
    (others : scanFields fuel (skipSpace valued) = .ok (fields, rest)) :
    scanFields (fuel + 1) (.char '"' :: text) = .ok ((name, json) :: fields, rest) := by
  have colon : skipSpace (.char ':' :: after) = .char ':' :: after := rfl
  have comma : skipSpace (.char ',' :: valued) = .char ',' :: valued := rfl
  rw [scanFields.eq_def]
  simp only [named, Bind.bind, Except.bind, colon, read, comma, others]
  rfl

end

section

variable {layout : Layout} {texts : Text → Prop}

/-- The written form of a lawful value begins as values do. -/
theorem write_begins (layout : Layout) {json : Json}
    (lawful : json.Lawful texts Binary64.ReadsBack) : Begins (write layout json) := by
  have ends : Ends [] := nofun
  -- All forms but those of numbers are spelled out, and what a number is read from begins so.
  match json with
  | null => exact ⟨_, _, rfl, by decide⟩
  | bool true => exact ⟨_, _, rfl, by decide⟩
  | bool false => exact ⟨_, _, rfl, by decide⟩
  | int value =>
    have read := scanPlain_int lawful ends
    rw [List.append_nil] at read
    exact (begins_of_scanPlain read).1
  | float value => exact (begins_of_scanPlain lawful).1
  | str value => exact ⟨_, _, rfl, by decide⟩
  | arr [] => exact ⟨_, _, rfl, by decide⟩
  | arr (_ :: _) => exact ⟨_, _, rfl, by decide⟩
  | obj [] => exact ⟨_, _, rfl, by decide⟩
  | obj (_ :: _) => exact ⟨_, _, rfl, by decide⟩

/-- The written form of a lawful value is not empty. -/
theorem write_length_pos (layout : Layout) {json : Json}
    (lawful : json.Lawful texts Binary64.ReadsBack) : 0 < (write layout json).length := by
  obtain ⟨letter, tail, written, _⟩ := write_begins layout lawful
  rw [written]
  exact Nat.succ_pos tail.length

/-- What follows an element ends its value. -/
theorem writeElements_ends (reads : layout.Reads texts) (elements : List Json) (rest : Text) :
    Ends (writeElements layout elements ++ rest) := by
  intro letter tail begins
  -- A bracket follows the last element, and a comma any other one.
  cases elements with
  | nil =>
    obtain rfl := (List.cons.inj begins).1
    exact .inr (.inl rfl)
  | cons element others =>
    obtain ⟨blanks, comma, _⟩ := reads.comma
    simp only [writeElements, comma, List.cons_append] at begins
    exact .inl (List.cons.inj begins).1.symm

/-- What follows a field ends its value. -/
theorem writeFields_ends (reads : layout.Reads texts) (fields : Fields Json) (rest : Text) :
    Ends (writeFields layout fields ++ rest) := by
  intro letter tail begins
  -- A brace follows the last field, and a comma any other one.
  cases fields with
  | nil =>
    obtain rfl := (List.cons.inj begins).1
    exact .inr (.inr rfl)
  | cons field others =>
    obtain ⟨blanks, comma, _⟩ := reads.comma
    simp only [writeFields, comma, List.cons_append] at begins
    exact .inl (List.cons.inj begins).1.symm

mutual

/-- A lawful value is read back from its written form, if there is fuel for its letters. -/
theorem scanValue_write (reads : layout.Reads texts) : ∀ (json : Json) {fuel : Nat} {rest : Text},
    json.Lawful texts Binary64.ReadsBack → 2 * (write layout json).length ≤ fuel → Ends rest →
      scanValue fuel (write layout json ++ rest) = .ok (json, rest)
  -- By induction on the value: each of its parts has a letter at least, and no call goes deeper
  -- without a letter of its own, so the fuel never runs out.
  | json, 0, _, lawful, enough, _ => by
    have some := write_length_pos layout lawful
    omega
  | null, fuel + 1, rest, _, _, _ => scanValue_plain rfl
  | bool true, fuel + 1, rest, _, _, _ => scanValue_plain rfl
  | bool false, fuel + 1, rest, _, _, _ => scanValue_plain rfl
  | int value, fuel + 1, rest, lawful, _, ends => scanValue_plain (scanPlain_int lawful ends)
  | float value, fuel + 1, rest, lawful, _, ends => scanValue_plain (scanPlain_float lawful ends)
  | str value, fuel + 1, rest, lawful, _, _ => by
    rw [write, writeString, List.cons_append, List.append_assoc, List.singleton_append,
      scanValue.eq_def]
    simp only [reads.string lawful]
    rfl
  | arr [], fuel + 1, rest, _, _, _ => rfl
  | arr (first :: others), fuel + 1, rest, lawful, enough, _ => by
    rw [write, List.length_cons, List.length_append] at enough
    rw [write, List.cons_append, List.append_assoc]
    have begins := (write_begins layout lawful.1).append (writeElements layout others ++ rest)
    -- One unit of fuel is for the bracket, and the other one is for the elements.
    exact scanValue_arr begins (scanElements_write reads first others lawful.1 lawful.2 (by omega))
  | obj [], fuel + 1, rest, _, _, _ => rfl
  | obj ((name, value) :: others), fuel + 1, rest, lawful, enough, _ => by
    obtain ⟨distinct, named, valued, lawful⟩ := lawful
    simp only [write, List.length_cons, List.length_append] at enough
    have read : scanFields fuel (writeString layout.escape name ++ layout.colon ++
        write layout value ++ writeFields layout others ++ rest) =
          .ok ((name, value) :: others, rest) :=
      scanFields_write reads name value others named valued lawful (by omega)
    have given := scanValue_obj rfl read
    rwa [Fields.ofList_of_nodup distinct] at given

/-- Lawful elements are read back from their written form, up to the end of the array. -/
theorem scanElements_write (reads : layout.Reads texts) :
    ∀ (element : Json) (elements : List Json) {fuel : Nat} {rest : Text},
      element.Lawful texts Binary64.ReadsBack → LawfulElements texts Binary64.ReadsBack elements →
      2 * ((write layout element).length + (writeElements layout elements).length) ≤ fuel →
      scanElements fuel (write layout element ++ (writeElements layout elements ++ rest)) =
        .ok (element :: elements, rest)
  | element, _, 0, _, lawful, _, enough => by
    have some := write_length_pos layout lawful
    omega
  | element, [], fuel + 1, rest, lawful, _, enough => by
    simp only [writeElements, List.length_singleton] at enough
    exact scanElements_last (scanValue_write reads element lawful (by omega)
      (writeElements_ends reads [] rest))
  | element, next :: others, fuel + 1, rest, lawful, others_lawful, enough => by
    obtain ⟨blanks, comma, blank⟩ := reads.comma
    simp only [writeElements, comma, List.length_append, List.length_cons] at enough
    have read := scanValue_write reads element lawful
      (show 2 * (write layout element).length ≤ fuel by omega)
      (writeElements_ends reads (next :: others) rest)
    simp only [writeElements, comma, List.cons_append, List.append_assoc] at read ⊢
    -- The blanks after the comma are skipped, since the next element begins as values do.
    have begins :=
      (write_begins layout others_lawful.1).append (writeElements layout others ++ rest)
    have others_read : scanElements fuel (write layout next ++
        (writeElements layout others ++ rest)) = .ok (next :: others, rest) :=
      scanElements_write reads next others others_lawful.1 others_lawful.2 (by omega)
    rw [← begins.skipSpace blank] at others_read
    exact scanElements_more read others_read

/-- Lawful fields are read back from their written form, up to the end of the object. -/
theorem scanFields_write (reads : layout.Reads texts) :
    ∀ (name : Text) (value : Json) (fields : Fields Json) {fuel : Nat} {rest : Text},
      texts name → value.Lawful texts Binary64.ReadsBack →
      LawfulFields texts Binary64.ReadsBack fields →
      2 * ((writeString layout.escape name).length + layout.colon.length +
        (write layout value).length + (writeFields layout fields).length) ≤ fuel →
      scanFields fuel (writeString layout.escape name ++ layout.colon ++ write layout value ++
        writeFields layout fields ++ rest) = .ok ((name, value) :: fields, rest)
  | name, value, _, 0, _, _, lawful, _, enough => by
    have some := write_length_pos layout lawful
    omega
  | name, value, [], fuel + 1, rest, named, lawful, _, enough => by
    obtain ⟨blanks, colon, blank⟩ := reads.colon
    simp only [writeFields, colon, List.length_cons] at enough
    have begins := (write_begins layout lawful).append (writeFields layout [] ++ rest)
    have read := scanValue_write reads value lawful
      (show 2 * (write layout value).length ≤ fuel by omega) (writeFields_ends reads [] rest)
    have scanned := fun opening => reads.string named opening
      (layout.colon ++ (write layout value ++ (writeFields layout [] ++ rest)))
    simp only [writeString, colon, List.cons_append, List.append_assoc, List.nil_append]
      at scanned ⊢
    rw [← begins.skipSpace blank] at read
    exact scanFields_last scanned read
  | name, value, (next, first) :: others, fuel + 1, rest, named, lawful, others_lawful, enough => by
    obtain ⟨next_named, first_lawful, others_lawful⟩ := others_lawful
    obtain ⟨blanks, colon, blank⟩ := reads.colon
    obtain ⟨commaBlanks, comma, commaBlank⟩ := reads.comma
    simp only [writeFields, comma, List.length_append, List.length_cons] at enough
    have begins :=
      (write_begins layout lawful).append (writeFields layout ((next, first) :: others) ++ rest)
    have read := scanValue_write reads value lawful
      (show 2 * (write layout value).length ≤ fuel by omega)
      (writeFields_ends reads ((next, first) :: others) rest)
    have scanned := fun opening => reads.string named opening
      (layout.colon ++ (write layout value ++
        (writeFields layout ((next, first) :: others) ++ rest)))
    have others_read : scanFields fuel (writeString layout.escape next ++ layout.colon ++
        write layout first ++ writeFields layout others ++ rest) =
          .ok ((next, first) :: others, rest) :=
      scanFields_write reads next first others next_named first_lawful others_lawful (by omega)
    -- Blanks are skipped after the colon and after the comma, and no others.
    simp only [writeFields, writeString, colon, comma, List.cons_append, List.append_assoc,
      List.nil_append] at scanned read begins others_read ⊢
    rw [← begins.skipSpace blank] at read
    rw [← Begins.skipSpace ⟨_, _, rfl, by decide⟩ commaBlank] at others_read
    exact scanFields_more scanned read others_read

end

/-- A lawful document is read back from its letters. -/
theorem ofLetters_write (reads : layout.Reads texts) {json : Json}
    (lawful : json.Lawful texts Binary64.ReadsBack) : ofLetters (write layout json) = .ok json := by
  have read := scanValue_write reads json lawful
    (show 2 * (write layout json).length ≤ 2 * (write layout json).length + 2 by omega)
    (show Ends [] from nofun)
  -- Nothing is left after the value, and no blank stands before it.
  rw [List.append_nil] at read
  rw [ofLetters, scanDocument, (write_begins layout lawful).visible, read]
  rfl

/-- A lawful document is read back from its text. -/
theorem ofText_write (reads : layout.Reads texts) {json : Json}
    (lawful : json.Lawful texts Binary64.ReadsBack) : ofText (write layout json) = .ok json := by
  have read := ofLetters_write reads lawful
  obtain ⟨letter, tail, written, _, _, unmarked⟩ := write_begins layout lawful
  rw [written] at read ⊢
  -- The text does not begin with a byte order mark.
  rw [ofText, List.head?_cons, if_neg fun same => unmarked (Option.some.inj same), read]

/-- Bytes that begin with a brace and a quotation mark are taken to be in UTF-8. -/
theorem decodeBytes?_object (rest : Bytes) :
    decodeBytes? (0x7B :: 0x22 :: rest) = Text.decodeUtf8? true (0x7B :: 0x22 :: rest) := by
  -- The two bytes are no part of a byte order mark, and neither of them is zero.
  match rest with
  | [] => rfl
  | [_] => rfl
  | _ :: _ :: _ => rfl

/-- A lawful object that has fields is read back from the bytes of its text. -/
theorem ofPayload_utf8 (reads : layout.Reads texts) {field : Text × Json} {fields : Fields Json}
    (lawful : (obj (field :: fields)).Lawful texts Binary64.ReadsBack) {bytes : Bytes}
    (encoded : Text.utf8 (write layout (obj (field :: fields))) = .ok bytes) :
    ofPayload (.bytes bytes) = .ok (obj (field :: fields)) := by
  obtain ⟨chars, spelled, rfl⟩ := Text.utf8_eq_ok_iff.mp encoded
  have letters := ofLetters_write reads lawful
  rw [spelled] at letters
  have decoded := Text.decodeUtf8?_encodeUtf8 true chars
  -- The text begins with a brace and a quotation mark, whatever the fields are.
  match chars with
  | [] => cases spelled
  | [_] => cases spelled
  | first :: second :: tail =>
    rw [write, writeString] at spelled
    obtain ⟨brace, spelled⟩ := List.cons.inj spelled
    obtain ⟨quote, _⟩ := List.cons.inj spelled
    obtain rfl := Letter.char.inj brace
    obtain rfl := Letter.char.inj quote
    have bytes :
        Text.encodeUtf8 ('\x7b' :: '"' :: tail) = 0x7B :: 0x22 :: Text.encodeUtf8 tail := rfl
    rw [bytes] at decoded ⊢
    rw [ofPayload, decodeBytes?_object, decoded]
    simp only [letters]
    rfl

end

/-- A document that arrived as text or as bytes is lawful. -/
theorem ofPayload_lawful {payload : Payload} {json : Json} (read : ofPayload payload = .ok json) :
    json.Lawful (fun _ => True) (Binary64.InRange .double) := by
  -- Bytes are decoded first, and then they are letters like any others.
  cases payload with
  | text content => exact ofText_lawful (mapError_eq_ok_iff.mp read)
  | bytes content =>
    rw [ofPayload] at read
    split at read
    · exact ofLetters_lawful (mapError_eq_ok_iff.mp read)
    · cases read

end Json

end ConstrainedDecoding
