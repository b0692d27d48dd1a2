import ConstrainedDecoding.Text.Basic

/-! Texts spelled in ASCII: the plain characters, and numbers that say where the others go. -/

namespace ConstrainedDecoding.Text.Punycode

/-- The digit of a value below 36. -/
def digit (value : Nat) : Char :=
  Char.ofNat (if value < 26 then 97 + value else 22 + value)

/-- The least value of a digit after which more digits follow. -/
def threshold (bias position : Nat) : Nat :=
  min 26 (max 1 (position - bias))

/-- The digits of a number from a position on. The last one is below its threshold. -/
def digits (bias position number : Nat) : List Char :=
  let least := threshold bias position
  if short : number < least then [digit number]
  else
    digit (least + (number - least) % (36 - least)) ::
      digits bias (position + 36) ((number - least) / (36 - least))
termination_by number
decreasing_by
  have bounds : 1 ≤ threshold bias position ∧ threshold bias position ≤ 26 := by
    simp only [threshold]; omega
  calc (number - threshold bias position) / (36 - threshold bias position)
      ≤ number - threshold bias position := Nat.div_le_self _ _
    _ < number := by omega

/-- The bias for a typical number, counting from a position. -/
def settle (position number : Nat) : Nat :=
  if number ≤ 455 then position + 36 * number / (number + 38)
  else settle (position + 36) (number / 35)
termination_by number

/-- The bias after a number was written, when so many characters are placed. -/
def adapt (number placed : Nat) (isFirst : Bool) : Nat :=
  let scaled := if isFirst then number / 700 else number / 2
  settle 0 (scaled + scaled / placed)

/-- Where the spelling of a text stands. -/
structure Progress where
  /-- Characters below this number are placed. -/
  floor : Nat
  /-- Steps since the last character was placed. -/
  steps : Nat
  bias : Nat
  plain : Nat
  placed : Nat
  /-- What is written, the last character first. -/
  written : List Char

/-- One character of the text is passed in the round of a number, or placed if it has that number. -/
def pass (number : Nat) (progress : Progress) (char : Char) : Progress :=
  if char.toNat < number then { progress with steps := progress.steps + 1 }
  else if char.toNat = number then
    { progress with
      steps := 0
      bias := adapt progress.steps (progress.placed + 1) (progress.placed = progress.plain)
      placed := progress.placed + 1
      written := (digits progress.bias 36 progress.steps).reverse ++ progress.written }
  else progress

/-- All characters of one number are placed. -/
def round (text : List Char) (progress : Progress) (number : Nat) : Progress :=
  let ready := { progress with
    steps := progress.steps + (number - progress.floor) * (progress.placed + 1) }
  let after := text.foldl (pass number) ready
  { after with steps := after.steps + 1, floor := number + 1 }

/-- The numbers of the characters outside ASCII, each once and in order. -/
def numbers (text : List Char) : List Nat :=
  (((text.map Char.toNat).filter (0x80 ≤ ·)).mergeSort (· ≤ ·)).eraseDups

/-- The spelling of a text. -/
def encode (text : List Char) : List Char :=
  let plain := text.filter fun char => char.toNat < 0x80
  let start := if plain.isEmpty then [] else '-' :: plain.reverse
  ((numbers text).foldl (round text) ⟨0x80, 0, 72, plain.length, plain.length, start⟩).written.reverse

end ConstrainedDecoding.Text.Punycode
