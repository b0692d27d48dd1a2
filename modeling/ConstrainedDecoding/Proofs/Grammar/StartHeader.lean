import ConstrainedDecoding.Grammar.Basic
import ConstrainedDecoding.Proofs.Text.Cuts

/-! The headers of a source: a start rule gets one of its own, and none beside one that is there. -/

namespace ConstrainedDecoding.Grammar

/-- What a line ends with. -/
def lineBreak : Letter := .char '\n'

/-- The word "start" and a colon, with something before and between them. -/
def headerText (lead gap : Text) : Text :=
  lead ++ ("start" ++ (gap ++ ":"))

/-- A header: the word and its colon with gaps, which may go over several lines. -/
def IsHeader (header : Text) : Prop :=
  ∃ lead gap, Text.IsGap lead ∧ Text.IsGap gap ∧ header = headerText lead gap

/-- A line begins after a text that is empty or ends in a line break. -/
def EndsLine (before : Text) : Prop :=
  before = [] ∨ ∃ earlier, before = earlier ++ [lineBreak]

/-- A header stands in a text after a part of it, where a line begins.

Headers may overlap, as white space before the word can begin at any of several lines. -/
def HeaderAt (text before header : Text) : Prop :=
  EndsLine before ∧ IsHeader header ∧ ∃ after, text = before ++ (header ++ after)

/-- A text has a header at its very beginning, and at no other place. -/
def HasOneHeader (text : Text) : Prop :=
  ∀ before header, HeaderAt text before header ↔ before = [] ∧ header = "start:"

/-- The line that gives a start rule. -/
def startLine (rule : Text) : Text :=
  "start: " ++ rule ++ [lineBreak]

section

variable {text upper lower before earlier header other rule source : Text}

/-- A header has its first visible letter after the first gap, and its last one after the second. -/
theorem headerText_append (lead gap after : Text) :
    headerText lead gap ++ after =
      lead ++ .char 's' :: (Text.ofString "tart" ++ (gap ++ .char ':' :: after)) := by
  simp [headerText, Text.ofString, Text.ofChars]

/-- A text begins with a header just if there is one at its beginning. -/
theorem beginsHeader_iff : beginsHeader text = true ↔ ∃ header, HeaderAt text [] header := by
  constructor
  · intro begins
    unfold beginsHeader at begins
    split at begins
    · rename_i rest found
      have word := Text.after?_eq_some_iff.mp found
      obtain ⟨after, colon⟩ := List.head?_eq_some_iff.mp (of_decide_eq_true begins)
      -- Both gaps go as far as white space does.
      refine ⟨_, Or.inl rfl, ⟨_, _, Text.isGap_takeWhile text, Text.isGap_takeWhile rest, rfl⟩,
        after, ?_⟩
      calc text
          = text.takeWhile Text.isBlank ++ text.dropWhile Text.isBlank :=
            List.takeWhile_append_dropWhile.symm
        _ = text.takeWhile Text.isBlank ++ ("start" ++ (rest.takeWhile Text.isBlank ++
              rest.dropWhile Text.isBlank)) := by rw [word, List.takeWhile_append_dropWhile]
        _ = _ := by rw [colon, headerText_append]; rfl
    · cases begins
  · rintro ⟨header, _, ⟨lead, gap, blank, inner, rfl⟩, after, rfl⟩
    have word : (headerText lead gap ++ after).dropWhile Text.isBlank =
        Text.ofString "start" ++ (gap ++ .char ':' :: after) := by
      rw [headerText_append]
      exact blank.dropWhile (by decide)
    have colon : (gap ++ Letter.char ':' :: after).dropWhile Text.isBlank = .char ':' :: after :=
      inner.dropWhile (by decide)
    rw [beginsHeader, List.nil_append, word, Text.after?_eq_some_iff.mpr rfl]
    simp [colon]

/-- There is one header at most at the beginning of a text. -/
theorem IsHeader.unique {after rest : Text} (isHeader : IsHeader header) (isOther : IsHeader other)
    (same : header ++ after = other ++ rest) : header = other := by
  obtain ⟨lead, gap, blank, inner, rfl⟩ := isHeader
  obtain ⟨otherLead, otherGap, otherBlank, otherInner, rfl⟩ := isOther
  rw [headerText_append, headerText_append] at same
  -- The first gaps are the same, and then so are the second ones.
  obtain ⟨rfl, word⟩ := blank.cancel (by decide) otherBlank (by decide) same
  obtain ⟨rfl, _⟩ := inner.cancel (by decide) otherInner (by decide) (List.append_cancel_left word)
  rfl

/-- A header begins after a break just if there is one at the beginning of the text behind it. -/
theorem headerAfterBreak_iff : headerAfterBreak text = true ↔
    ∃ earlier later, text = earlier ++ lineBreak :: later ∧ beginsHeader later = true := by
  induction text with
  | nil => simp [headerAfterBreak]
  | cons letter rest ih =>
    rw [headerAfterBreak, Bool.or_eq_true, Bool.and_eq_true, decide_eq_true_eq, ih]
    constructor
    · rintro (⟨rfl, begins⟩ | ⟨earlier, later, rfl, begins⟩)
      · exact ⟨[], rest, rfl, begins⟩
      · exact ⟨letter :: earlier, later, rfl, begins⟩
    · rintro ⟨earlier, later, parts, begins⟩
      -- The break is the first letter, or it is one of the rest.
      cases earlier with
      | nil =>
        obtain ⟨rfl, rfl⟩ := List.cons_eq_cons.mp parts
        exact .inl ⟨rfl, begins⟩
      | cons first earlier =>
        obtain ⟨rfl, rfl⟩ := List.cons_eq_cons.mp parts
        exact .inr ⟨earlier, later, rfl, begins⟩

/-- After a break, lines begin where they begin in the text behind it. -/
theorem endsLine_append_iff :
    EndsLine (earlier ++ lineBreak :: before) ↔ EndsLine before := by
  constructor
  · rintro (empty | ⟨shorter, ends⟩)
    · simp at empty
    · -- The last letter is the break itself, or it is that of the text behind it.
      rcases append_cons_eq_append_cons_iff.mp ends with ⟨_, empty⟩ | ⟨middle, _, rfl⟩ |
        ⟨_, _, impossible⟩
      · exact .inl empty
      · exact .inr ⟨middle, rfl⟩
      · simp at impossible
  · rintro (rfl | ⟨shorter, rfl⟩)
    · exact .inr ⟨earlier, rfl⟩
    · exact .inr ⟨earlier ++ lineBreak :: shorter, by simp⟩

/-- After a break, a text has the headers of the text behind it. -/
theorem headerAt_append_iff :
    HeaderAt (upper ++ lineBreak :: lower) (upper ++ lineBreak :: before) header ↔
      HeaderAt lower before header := by
  rw [HeaderAt, HeaderAt, endsLine_append_iff]
  simp

/-- A text defines a start rule just if it has a header. -/
theorem definesStart_iff :
    definesStart text = true ↔ ∃ before header, HeaderAt text before header := by
  rw [definesStart, Bool.or_eq_true, beginsHeader_iff, headerAfterBreak_iff]
  -- The search looks at the beginning and after each break, and no line begins anywhere else.
  constructor
  · rintro (begins | ⟨earlier, later, rfl, begins⟩)
    · exact ⟨[], begins⟩
    · obtain ⟨header, begins⟩ := beginsHeader_iff.mp begins
      exact ⟨earlier ++ lineBreak :: [], header, headerAt_append_iff.mpr begins⟩
  · rintro ⟨before, header, line, isHeader, after, rfl⟩
    rcases line with rfl | ⟨earlier, rfl⟩
    · exact .inl ⟨header, .inl rfl, isHeader, after, rfl⟩
    · refine .inr ⟨earlier, header ++ after, by simp, beginsHeader_iff.mpr ?_⟩
      exact ⟨header, .inl rfl, isHeader, after, rfl⟩

/-- The word and its colon are a header without gaps. -/
theorem isHeader_start : IsHeader "start:" :=
  ⟨[], [], by simp [Text.IsGap], by simp [Text.IsGap], rfl⟩

/-- The line of a start rule ends in a break. -/
theorem startLine_append (rule rest : Text) :
    startLine rule ++ rest = "start: " ++ rule ++ lineBreak :: rest := by
  simp [startLine]

/-- Before the break at the end of the line of a start rule, each break is one of the rule. -/
theorem exists_upper_of_break {rest : Text}
    (parts : "start: " ++ rule = earlier ++ lineBreak :: rest) :
    ∃ upper, rule = upper ++ lineBreak :: rest ∧ earlier = "start: " ++ upper := by
  -- The break comes after the word or within it, and the word has none.
  rcases List.append_eq_append_iff.mp parts with ⟨upper, rfl, split⟩ | ⟨more, word, split⟩
  · exact ⟨upper, split, rfl⟩
  · cases more with
    | nil => exact ⟨[], split.symm, by simpa using word.symm⟩
    | cons first more =>
      obtain ⟨rfl, _⟩ := List.cons_eq_cons.mp split
      have inside : lineBreak ∈ Text.ofString "start: " := by rw [word]; simp
      exact absurd inside (by decide)

/-- After the line of a start rule, a source has its own headers, the one of that line, and those
that begin with a later line of the rule, if it has more than one. -/
theorem headerAt_startLine_iff : HeaderAt (startLine rule ++ source) before header ↔
    (before = [] ∧ header = "start:") ∨
    (∃ upper lower, rule = upper ++ lineBreak :: lower ∧ before = startLine upper ∧
      HeaderAt (lower ++ lineBreak :: source) [] header) ∨
    ∃ later, before = startLine rule ++ later ∧ HeaderAt source later header := by
  constructor
  · rintro ⟨line, isHeader, after, parts⟩
    rcases line with rfl | ⟨earlier, rfl⟩
    · -- The line begins with a header, and there is no other one at that place.
      have first : startLine rule ++ source =
          "start:" ++ (.char ' ' :: rule ++ lineBreak :: source) := startLine_append rule source
      exact .inl ⟨rfl, isHeader.unique isHeader_start (parts.symm.trans first)⟩
    · -- The break before the header is in the rule, at the end of its line, or in the source.
      have cut : "start: " ++ rule ++ lineBreak :: source =
          earlier ++ lineBreak :: (header ++ after) := by
        rw [← startLine_append, parts]
        simp
      rcases append_cons_eq_append_cons_iff.mp cut with ⟨rfl, rfl⟩ | ⟨middle, rfl, rfl⟩ |
        ⟨lower, split, rest⟩
      · exact .inr (.inr ⟨[], by simp [startLine], .inl rfl, isHeader, after, rfl⟩)
      · exact .inr (.inr ⟨middle ++ [lineBreak], by simp [startLine], .inr ⟨middle, rfl⟩, isHeader,
          after, by simp⟩)
      · obtain ⟨upper, rfl, rfl⟩ := exists_upper_of_break split
        exact .inr (.inl ⟨upper, lower, rfl, rfl, .inl rfl, isHeader, after, rest.symm⟩)
  · rintro (⟨rfl, rfl⟩ | ⟨upper, lower, rfl, rfl, begins⟩ | ⟨later, rfl, begins⟩)
    · exact ⟨.inl rfl, isHeader_start, _, startLine_append rule source⟩
    · have whole : startLine (upper ++ lineBreak :: lower) ++ source =
          "start: " ++ upper ++ lineBreak :: (lower ++ lineBreak :: source) := by
        simp [startLine]
      rw [whole]
      exact headerAt_append_iff.mpr begins
    · rw [startLine_append, startLine_append]
      exact headerAt_append_iff.mpr begins

/-- A source without headers gets that of the line, and those of the later lines of the rule. -/
theorem headerAt_startLine_of_free (free : ¬∃ before header, HeaderAt source before header) :
    HeaderAt (startLine rule ++ source) before header ↔
      (before = [] ∧ header = "start:") ∨
      ∃ upper lower, rule = upper ++ lineBreak :: lower ∧ before = startLine upper ∧
        HeaderAt (lower ++ lineBreak :: source) [] header := by
  rw [headerAt_startLine_iff, ← or_assoc]
  -- A header of the source itself is not among the cases.
  refine or_iff_left ?_
  rintro ⟨later, _, own⟩
  exact free ⟨later, header, own⟩

/-- The header of a start rule on one line is the only one of a source that has none. -/
theorem hasOneHeader_of_line (free : ¬∃ before header, HeaderAt source before header)
    (line : lineBreak ∉ rule) : HasOneHeader (startLine rule ++ source) := by
  intro before header
  rw [headerAt_startLine_of_free free]
  -- Only a rule of several lines can bring a header of its own.
  refine or_iff_left ?_
  rintro ⟨upper, lower, rfl, _⟩
  simp at line

end

/--
A source gets a header for a start rule just if it has none.

If it has one, the start rule is refused. Otherwise the line of the rule is put in front of the
source, which stays as it is. The text then has the header of that line, and it has another one just
if a later line of the rule begins with one, which may end in the source. So there is one header
alone wherever the rule is on one line.
-/
theorem resolveStart_headers (source rule : Text) (given : rule ≠ []) (apart : rule ≠ "start") :
    ((∃ before header, HeaderAt source before header) ∧
      resolveStart (.str source) (.str rule) = .error (.invalid (.startRule (.str rule)))) ∨
    ((¬∃ before header, HeaderAt source before header) ∧
      resolveStart (.str source) (.str rule) = .ok (.str (startLine rule ++ source)) ∧
      (∀ before header, HeaderAt (startLine rule ++ source) before header ↔
        (before = [] ∧ header = "start:") ∨
        ∃ upper lower, rule = upper ++ lineBreak :: lower ∧ before = startLine upper ∧
          HeaderAt (lower ++ lineBreak :: source) [] header) ∧
      (lineBreak ∉ rule → HasOneHeader (startLine rule ++ source))) := by
  have named : (!(Json.str rule).isTruthy || (Json.str rule).isText "start") = false := by
    simp [Json.isTruthy, Json.isText, given, apart]
  -- Looking for a header decides between the two outcomes.
  rw [← definesStart_iff]
  cases defined : definesStart source with
  | true => exact .inl ⟨rfl, by simp [resolveStart, named, defined]⟩
  | false =>
    have free : ¬∃ before header, HeaderAt source before header := by
      rw [← definesStart_iff, defined]
      exact Bool.false_ne_true
    refine .inr ⟨Bool.false_ne_true, ?_, fun before header => headerAt_startLine_of_free free,
      hasOneHeader_of_line free⟩
    simp only [resolveStart, named, defined]
    rfl

/-- A source without headers is given a rule, and one with a header over three lines is not. -/
theorem resolveStart_headers_greeting :
    (resolveStart (.str "greeting: A") (.str "greeting") =
        .ok (.str "start: greeting\ngreeting: A") ∧
      HasOneHeader "start: greeting\ngreeting: A") ∧
    (∃ before header, HeaderAt "a: A\n \nstart\n: a" before header) ∧
    resolveStart (.str "a: A\n \nstart\n: a") (.str "a") =
      .error (.invalid (.startRule (.str "a"))) := by
  -- The first source has no header of its own, the second one has a spaced one.
  constructor
  · rcases resolveStart_headers "greeting: A" "greeting" (by decide) (by decide) with
      ⟨has, _⟩ | ⟨_, added, _, one⟩
    · exact absurd (definesStart_iff.mpr has) (by decide)
    · exact ⟨added, one (by decide)⟩
  · have defined : definesStart "a: A\n \nstart\n: a" = true := by decide
    rcases resolveStart_headers "a: A\n \nstart\n: a" "a" (by decide) (by decide) with
      refused | ⟨free, _⟩
    · exact refused
    · exact absurd (definesStart_iff.mp defined) free

/-- A source without headers gets two of them from a rule on two lines. -/
theorem rule_on_two_lines_begins_twice :
    (¬∃ before header, HeaderAt "a: A" before header) ∧
      resolveStart (.str "a: A") (.str "a\nstart: b") = .ok (.str "start: a\nstart: b\na: A") ∧
      HeaderAt "start: a\nstart: b\na: A" [] "start:" ∧
      HeaderAt "start: a\nstart: b\na: A" "start: a\n" "start:" ∧
      ¬HasOneHeader "start: a\nstart: b\na: A" := by
  -- The second line of the rule begins with the header of another rule.
  have second : HeaderAt "start: a\nstart: b\na: A" "start: a\n" "start:" :=
    ⟨.inr ⟨"start: a", rfl⟩, isHeader_start, " b\na: A", rfl⟩
  refine ⟨?_, rfl, ⟨.inl rfl, isHeader_start, " a\nstart: b\na: A", rfl⟩, second, ?_⟩
  · rw [← definesStart_iff]
    decide
  · intro one
    exact absurd ((one _ _).mp second).1 (by decide)

end ConstrainedDecoding.Grammar
