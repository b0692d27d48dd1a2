import ConstrainedDecoding.Hub.AddressProblem
import ConstrainedDecoding.Text.Basic
import ConstrainedDecoding.Text.DecimalDigit
import ConstrainedDecoding.Text.DomainLetter
import ConstrainedDecoding.Text.Lowercase
import ConstrainedDecoding.Text.Percent
import ConstrainedDecoding.Text.Punycode

/-! Hosts: numbers, names, and the one form in which each is written. -/

namespace ConstrainedDecoding.Host

/-- Four numbers of any size, with dots between them. -/
def looksLikeFourNumbers (host : List Char) : Bool :=
  let parts := Text.parts '.' host
  parts.length = 4 && parts.all fun part => !part.isEmpty && part.all Char.isDigit

/-- A number below 256 without needless zeros. -/
def isByteNumber (text : List Char) : Bool :=
  !text.isEmpty && text.all Char.isDigit && text.length ≤ 3 &&
    (text.length = 1 || text.head? ≠ some '0') && Text.digitsNumber 0 (Text.ofChars text) ≤ 255

/-- An address of four bytes, with dots between them. -/
def isFourBytes (text : List Char) : Bool :=
  let parts := Text.parts '.' text
  parts.length = 4 && parts.all isByteNumber

/-- One to four hexadecimal digits, which stand for two bytes. -/
def isGroup (text : List Char) : Bool :=
  1 ≤ text.length && text.length ≤ 4 && text.all fun char => (Text.hexValue? char).isSome

/-- How many groups a text holds with colons between them, if it holds nothing else. -/
def groupCount? (text : List Char) : Option Nat :=
  let parts := Text.parts ':' text
  if text.isEmpty then some 0
  else if parts.all isGroup then some parts.length
  else none

/-- How many groups a text holds, in which the last two may be written as four bytes. -/
def lastGroupCount? (text : List Char) : Option Nat :=
  let last := ((Text.parts ':' text).getLast?).getD []
  if isFourBytes last then
    match text.take (text.length - last.length) with
    | [] => some 2
    | before => (groupCount? before.dropLast).bind fun count =>
        if count = 0 then none else some (count + 2)
  else groupCount? text

/-- The texts before and after the first two colons in a row. -/
def splitDouble? : List Char → Option (List Char × List Char)
  | [] => none
  | ':' :: ':' :: rest => some ([], rest)
  | char :: rest => (splitDouble? rest).map fun (before, after) => (char :: before, after)

/-- Eight groups, of which two colons in a row leave out one or more. -/
def isEightGroups (text : List Char) : Bool :=
  match splitDouble? text with
  | none => lastGroupCount? text = some 8
  | some (before, after) =>
    match groupCount? before, lastGroupCount? after with
    | some left, some right => left + right ≤ 7
    | _, _ => false

/-- An address of eight groups, and the zone it belongs to if a percent sign introduces one. -/
def isZonedGroups (text : List Char) : Bool :=
  match Text.parts '%' text with
  | [groups] => isEightGroups groups
  | [groups, zone] => isEightGroups groups && !zone.isEmpty
  | _ => false

/-- The text between brackets. -/
def unbracketed? : List Char → Option (List Char)
  | '[' :: rest => if rest.getLast? = some ']' then some rest.dropLast else none
  | _ => none

/-- A mark that stands between the labels of a name. -/
def isDot (char : Char) : Bool :=
  ['.', Char.ofNat 0x3002, Char.ofNat 0xFF0E, Char.ofNat 0xFF61].contains char

/-- The beginning of a label that spells characters outside ASCII. -/
def spelledMark : List Char := ['x', 'n', '-', '-']

/-- Hyphens neither begin nor end a label, nor stand in its third and fourth place. -/
def hasPlacedHyphens (label : List Char) : Bool :=
  label.head? ≠ some '-' && label.getLast? ≠ some '-' && (label.drop 2).take 2 ≠ ['-', '-']

/-- A label that a name may hold. -/
def isLabel (label : List Char) : Bool :=
  !label.isEmpty && hasPlacedHyphens label && label.all fun char => Text.isDomainLetter char

/-- A label that already spells characters outside ASCII. -/
def isSpelled (label : List Char) : Bool :=
  match Text.after? spelledMark label with
  | some rest =>
    !rest.isEmpty && rest.getLast? ≠ some '-' && rest.all fun char => char = '-' || char.isAlphanum
  | none => false

/-- A label in ASCII. -/
def asciiLabel? (label : List Char) : Option (List Char) :=
  let spelled :=
    if label.all fun char => char.toNat < 0x80 then
      if isLabel label || isSpelled label then some label else none
    else if isLabel label then some (spelledMark ++ Text.Punycode.encode label)
    else none
  spelled.filter fun label => label.length ≤ 63

/-- A name of labels in ASCII. A dot may end it. -/
def asciiName? (name : List Char) : Option (List Char) := do
  let labels := Text.parts '.' (name.map fun char => if isDot char then '.' else char)
  let isEnded := labels.getLast? = some []
  let spelled ← (if isEnded then labels.dropLast else labels).mapM asciiLabel?
  let text := (spelled.intersperse ['.']).flatten ++ if isEnded then ['.'] else []
  if text.length ≤ 253 || (isEnded && text.length = 254) then some text else none

/-- A host in lower case. -/
def lower (host : List Char) : List Char :=
  (Text.chars? (Text.lower (Text.ofChars host))).getD []

/-- The marks that a name keeps. -/
def keptMarks : List Char :=
  ['-', '.', '_', '~', '!', '$', '&', Text.apostrophe, '(', ')', '*', '+', ',', ';', '=', '"',
    '\x60', '\x7b', '\x7d', '%', '|', '\\']

/-- A character that stands in a name as it is. -/
def isKept (char : Char) : Bool :=
  char.isAlphanum || keptMarks.contains char

/-- The form in which a host is written, brackets left out. -/
def canonical (host : List Char) : Except AddressProblem (List Char) :=
  match unbracketed? host with
  | some groups => if isZonedGroups groups then .ok groups else .error (.bracketed host)
  | none =>
    if looksLikeFourNumbers host then
      if isFourBytes host then .ok host else .error (.fourNumbers host)
    else if host.all fun char => char.toNat < 0x80 then
      .ok (Text.percentEncode isKept (lower host))
    else match asciiName? (lower host) with
      | some name => .ok name
      | none => .error (.international host)

end ConstrainedDecoding.Host
