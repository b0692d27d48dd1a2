import ConstrainedDecoding.Json.Fields
import ConstrainedDecoding.Regular.Pattern
import ConstrainedDecoding.Text.Basic
import ConstrainedDecoding.Text.Blank

/-! Rule grammars whose rules do not refer to themselves. -/

namespace ConstrainedDecoding.Regular

/-- A piece of the written form of a rule. -/
inductive RulePiece where
  | name (chars : List Char)
  | terminal (language : Regular)
  | mark (char : Char)

/-- What a rule stands for, other rules by name. -/
inductive RuleBody where
  | terminal (language : Regular)
  | name (chars : List Char)
  | sequence (first second : RuleBody)
  | choice (left right : RuleBody)
  | repeated (mark : Char) (body : RuleBody)

/-- Rules by name. -/
abbrev Rules := List (List Char × RuleBody)

/-- A blank character. -/
def isBlank (char : Char) : Bool :=
  Text.isBlank char

/-- A character of a rule's name. -/
def isNameChar (char : Char) : Bool :=
  char.isAlphanum || char = '_'

/-- The text of a quoted or slashed piece up to its closing mark, escapes kept as they are. -/
def upToMark? (mark : Char) : List Char → Option (List Char × List Char)
  | [] => none
  | '\\' :: char :: rest => (upToMark? mark rest).map fun (chars, rest) =>
      ('\\' :: char :: chars, rest)
  | char :: rest =>
    if char = mark then some ([], rest)
    else (upToMark? mark rest).map fun (chars, rest) => (char :: chars, rest)

/-- A quoted text with its escapes resolved. -/
def unquote : List Char → List Char
  | '\\' :: 'n' :: rest => '\n' :: unquote rest
  | '\\' :: 't' :: rest => '\t' :: unquote rest
  | '\\' :: 'r' :: rest => '\r' :: unquote rest
  | '\\' :: char :: rest => char :: unquote rest
  | char :: rest => char :: unquote rest
  | [] => []

/-- The pieces of a rule. Each piece uses up fuel. -/
def pieces? : Nat → List Char → Option (List RulePiece)
  | 0, _ => none
  | fuel + 1, text =>
    match text.dropWhile isBlank with
    | [] => some []
    | '"' :: rest => do
      let (chars, rest) ← upToMark? '"' rest
      return .terminal (Regular.text (unquote chars)) :: (← pieces? fuel rest)
    | '/' :: rest => do
      let (chars, rest) ← upToMark? '/' rest
      return .terminal (← ofPattern? chars) :: (← pieces? fuel rest)
    | char :: rest =>
      if ['|', '(', ')', '?', '*', '+'].contains char then do
        return .mark char :: (← pieces? fuel rest)
      else if isNameChar char then do
        return .name (char :: rest.takeWhile isNameChar) ::
          (← pieces? fuel (rest.dropWhile isNameChar))
      else none

/-- The repetition marks after a part of a rule. -/
def ruleRepeats : RuleBody → List RulePiece → RuleBody × List RulePiece
  | body, .mark char :: rest =>
    if ['?', '*', '+'].contains char then ruleRepeats (.repeated char body) rest
    else (body, .mark char :: rest)
  | body, rest => (body, rest)

mutual

/-- Alternatives with bars between them. Each call uses up fuel. -/
def ruleChoice? : Nat → List RulePiece → Option (RuleBody × List RulePiece)
  | 0, _ => none
  | fuel + 1, pieces => do
    let (first, rest) ← ruleSequence? fuel pieces
    match rest with
    | .mark '|' :: rest =>
      let (later, rest) ← ruleChoice? fuel rest
      return (.choice first later, rest)
    | rest => return (first, rest)

/-- Parts one after the other, up to a bar, a closing parenthesis or the end. -/
def ruleSequence? : Nat → List RulePiece → Option (RuleBody × List RulePiece)
  | 0, _ => none
  | fuel + 1, pieces =>
    match pieces with
    | [] => some (.terminal empty, [])
    | .mark '|' :: rest => some (.terminal empty, .mark '|' :: rest)
    | .mark ')' :: rest => some (.terminal empty, .mark ')' :: rest)
    | .mark '(' :: rest => do
      let (inner, rest) ← ruleChoice? fuel rest
      match rest with
      | .mark ')' :: rest => ruleRest? fuel inner rest
      | _ => none
    | .mark _ :: _ => none
    | .name chars :: rest => ruleRest? fuel (.name chars) rest
    | .terminal language :: rest => ruleRest? fuel (.terminal language) rest

/-- A part with its repetition marks, and the parts after it. -/
def ruleRest? : Nat → RuleBody → List RulePiece → Option (RuleBody × List RulePiece)
  | 0, _, _ => none
  | fuel + 1, body, pieces => do
    let (part, rest) := ruleRepeats body pieces
    let (later, rest) ← ruleSequence? fuel rest
    return (.sequence part later, rest)

end

/-- The body of a rule. -/
def ruleBody? (text : List Char) : Option RuleBody := do
  let pieces ← pieces? (text.length + 1) text
  match ruleChoice? (4 * pieces.length + 4) pieces with
  | some (body, []) => some body
  | _ => none

/-- A line that belongs to the rule before it. -/
def continuesRule : List Char → Bool
  | '|' :: _ => true
  | _ => false

/-- Lines without blanks at their ends, each with the lines that continue it. -/
def joinedLines : List (List Char) → List (List Char)
  | [] => []
  | line :: rest =>
    let line := Text.trimWhere isBlank line
    match joinedLines rest with
    | [] => [line]
    | next :: later => if continuesRule next then (line ++ next) :: later else line :: next :: later

/-- A line that holds no rule: nothing, or a remark. -/
def holdsNoRule : List Char → Bool
  | [] => true
  | '/' :: '/' :: _ => true
  | _ => false

/-- The rule in a line: its name, a colon and its body. -/
def rule? (line : List Char) : Option (List Char × RuleBody) := do
  let name := Text.trimWhere isBlank (line.takeWhile (· ≠ ':'))
  match line.dropWhile (· ≠ ':') with
  | ':' :: body =>
    if !name.isEmpty && name.all isNameChar then return (name, ← ruleBody? body) else none
  | _ => none

/-- The rules of a text. -/
def rules? (text : List Char) : Option Rules :=
  ((joinedLines (Text.parts '\n' text)).filter (!holdsNoRule ·)).mapM rule?

/-- The language of a body. Each rule entered uses up fuel, so that no rule leads to itself. -/
def expand? (rules : Rules) : Nat → RuleBody → Option Regular
  | _, .terminal language => some language
  | 0, .name _ => none
  | fuel + 1, .name chars =>
    match rules.find? fun rule => rule.1 == chars with
    | some rule => expand? rules fuel rule.2
    | none => none
  | fuel, .sequence first second => do
    return chain (← expand? rules fuel first) (← expand? rules fuel second)
  | fuel, .choice left right => do
    return either (← expand? rules fuel left) (← expand? rules fuel right)
  | fuel, .repeated mark body => do
    let language ← expand? rules fuel body
    if mark = '?' then return language.optional
    else if mark = '*' then return many language
    else return language.oneOrMore

/-- The language of the rule named "start". -/
def ofRules? (text : List Char) : Option Regular := do
  let rules ← rules? text
  expand? rules (rules.length + 1) (.name ['s', 't', 'a', 'r', 't'])

end ConstrainedDecoding.Regular
