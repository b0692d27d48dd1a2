import ConstrainedDecoding.Regular.Basic
import ConstrainedDecoding.Text.DecimalDigit

/-! Patterns: the written form of regular languages.

A reading gives a part of a pattern and the text after it. -/

namespace ConstrainedDecoding.Regular

/-- The decimal digits. -/
def digitRanges : List (Nat × Nat) := [(48, 57)]

/-- The characters of words. -/
def wordRanges : List (Nat × Nat) := [(48, 57), (65, 90), (95, 95), (97, 122)]

/-- The blank characters. -/
def spaceRanges : List (Nat × Nat) := [(9, 13), (32, 32)]

/-- The ASCII characters outside ranges. -/
def complement (ranges : List (Nat × Nat)) : List (Nat × Nat) :=
  ((List.range 128).filter fun code => !Text.inRanges ranges code).map fun code => (code, code)

/-- What a letter stands for after a backslash. Other characters stand for themselves. -/
def escapeRanges? (char : Char) : Option (List (Nat × Nat)) :=
  if char = 'd' then some digitRanges
  else if char = 'D' then some (complement digitRanges)
  else if char = 'w' then some wordRanges
  else if char = 'W' then some (complement wordRanges)
  else if char = 's' then some spaceRanges
  else if char = 'S' then some (complement spaceRanges)
  else if char = 'n' then some [(10, 10)]
  else if char = 'r' then some [(13, 13)]
  else if char = 't' then some [(9, 9)]
  else if char.isAlphanum then none
  else some [(char.toNat, char.toNat)]

/-- One character of a class, as ranges. -/
def classItem? : List Char → Option (List (Nat × Nat) × List Char)
  | [] => none
  | ['\\'] => none
  | '\\' :: char :: rest => (escapeRanges? char).map (·, rest)
  | char :: rest => some ([(char.toNat, char.toNat)], rest)

/-- The range between two items that are single characters, in order. -/
def rangeBetween? : List (Nat × Nat) → List (Nat × Nat) → Option (Nat × Nat)
  | [(low, lowEnd)], [(high, highEnd)] =>
    if low = lowEnd && high = highEnd && low ≤ high then some (low, high) else none
  | _, _ => none

/-- The items of a class up to its closing bracket. Each item uses up fuel. -/
def classItems? : Nat → List Char → Option (List (Nat × Nat) × List Char)
  | 0, _ => none
  | _ + 1, ']' :: rest => some ([], rest)
  | fuel + 1, text => do
    let (first, rest) ← classItem? text
    match rest with
    | '-' :: ']' :: _ =>
      let (later, rest) ← classItems? fuel rest
      return (first ++ later, rest)
    | '-' :: rest =>
      let (last, rest) ← classItem? rest
      let range ← rangeBetween? first last
      let (later, rest) ← classItems? fuel rest
      return (range :: later, rest)
    | rest =>
      let (later, rest) ← classItems? fuel rest
      return (first ++ later, rest)

/-- A class after its opening bracket. A caret at its beginning takes the complement. -/
def class? (text : List Char) : Option (Regular × List Char) :=
  match text with
  | '^' :: rest => (classItems? text.length rest).map fun (ranges, rest) =>
      (symbol (complement ranges), rest)
  | _ => (classItems? (text.length + 1) text).map fun (ranges, rest) => (symbol ranges, rest)

/-- A number in decimal digits. -/
def count? (text : List Char) : Option (Nat × List Char) :=
  let digits := text.takeWhile Char.isDigit
  if digits.isEmpty then none
  else some (Text.digitsNumber 0 (Text.ofChars digits), text.dropWhile Char.isDigit)

/-- A repetition count in braces, after the opening one. -/
def repetition? (language : Regular) (text : List Char) : Option (Regular × List Char) := do
  let (least, rest) ← count? text
  match rest with
  | '\x7d' :: rest => return (language.times least, rest)
  | ',' :: '\x7d' :: rest => return (chain (language.times least) (many language), rest)
  | ',' :: rest =>
    let (most, rest) ← count? rest
    match rest with
    | '\x7d' :: rest =>
      if most < least then none
      else return (chain (language.times least) (language.upTo (most - least)), rest)
    | _ => none
  | _ => none

/-- The repetition marks after a part. Each mark uses up fuel. -/
def repeated? : Nat → Regular → List Char → Option (Regular × List Char)
  | 0, _, _ => none
  | fuel + 1, language, text =>
    match text with
    | '?' :: rest => repeated? fuel language.optional rest
    | '*' :: rest => repeated? fuel (many language) rest
    | '+' :: rest => repeated? fuel language.oneOrMore rest
    | '\x7b' :: rest => do
      let (language, rest) ← repetition? language rest
      repeated? fuel language rest
    | rest => some (language, rest)

/-- Characters that begin no part of a pattern. -/
def isMisplaced (char : Char) : Bool :=
  ['?', '*', '+', '\x7b', '\x7d', ']'].contains char

/-- Anything but the end of a line. -/
def anySymbol : Regular := symbol (complement [(10, 10)])

mutual

/-- Alternatives with bars between them. Each call uses up fuel. -/
def alternatives? : Nat → List Char → Option (Regular × List Char)
  | 0, _ => none
  | fuel + 1, text => do
    let (first, rest) ← parts? fuel text
    match rest with
    | '|' :: rest =>
      let (later, rest) ← alternatives? fuel rest
      return (either first later, rest)
    | rest => return (first, rest)

/-- Parts one after the other, up to a bar, a closing parenthesis or the end. -/
def parts? : Nat → List Char → Option (Regular × List Char)
  | 0, _ => none
  | fuel + 1, text =>
    match text with
    | [] => some (empty, [])
    | '|' :: rest => some (empty, '|' :: rest)
    | ')' :: rest => some (empty, ')' :: rest)
    | text => do
      let (atom, rest) ← atom? fuel text
      let (part, rest) ← repeated? (rest.length + 1) atom rest
      let (later, rest) ← parts? fuel rest
      return (chain part later, rest)

/-- A single part: a group, a class, an escape or a character. -/
def atom? : Nat → List Char → Option (Regular × List Char)
  | 0, _ => none
  | fuel + 1, text =>
    match text with
    | [] => none
    | '(' :: '?' :: ':' :: rest => group? fuel rest
    | '(' :: rest => group? fuel rest
    | '[' :: rest => class? rest
    | '.' :: rest => some (anySymbol, rest)
    | ['\\'] => none
    | '\\' :: char :: rest => (escapeRanges? char).map fun ranges => (symbol ranges, rest)
    | char :: rest => if isMisplaced char then none else some (Regular.text [char], rest)

/-- A group after its opening parenthesis. -/
def group? : Nat → List Char → Option (Regular × List Char)
  | 0, _ => none
  | fuel + 1, text => do
    let (inner, rest) ← alternatives? fuel text
    match rest with
    | ')' :: rest => return (inner, rest)
    | _ => none

end

/-- The language of a pattern, which matches whole strings. -/
def ofPattern? (text : List Char) : Option Regular :=
  -- No more than four calls are nested between two characters.
  match alternatives? (4 * text.length + 4) text with
  | some (language, []) => some language
  | _ => none

end ConstrainedDecoding.Regular
