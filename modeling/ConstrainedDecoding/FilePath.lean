import ConstrainedDecoding.Fault
import ConstrainedDecoding.Text.Basic
import ConstrainedDecoding.Text.Encoding

/-! Paths of files: their parts, the suffix of a name, and the names that no file can have. -/

namespace ConstrainedDecoding

/-- A path from the root of all files, or from a folder. Parts that stand for no step are left out. -/
structure FilePath where
  isAbsolute : Bool
  parts : List Text
  deriving DecidableEq

namespace FilePath

/-- The part that is no step. -/
def standing : Text := "."

/-- The part that is a step up. -/
def stepUp : Text := ".."

/-- The path that a text spells. Empty parts and single dots are no steps. -/
def ofText (text : Text) : FilePath :=
  ⟨text.head? = some (.char '/'),
    (Text.parts (.char '/') text).filter fun part => part ≠ [] && part ≠ standing⟩

/-- The last part of a path, empty if there is none. -/
def name (path : FilePath) : Text :=
  (path.parts.getLast?).getD []

/-- The name from its last dot on, unless the dot begins or ends it. -/
def suffix (path : FilePath) : Text :=
  let extension := (path.name.reverse.takeWhile (· ≠ .char '.')).reverse
  if extension.isEmpty || path.name.length ≤ extension.length + 1 then []
  else '.' :: extension

/-- A path of nothing but steps up leads to a folder. -/
def isFolder (path : FilePath) : Bool :=
  path.parts.all (· = stepUp)

/-- The name of a file in the folder that the path starts from, if the path leads to one. -/
def fileName? (path : FilePath) : Option Text :=
  match path.isAbsolute, path.parts with
  | false, [name] => some name
  | _, _ => none

/-- The longest name that a file can have, in bytes. -/
def nameLimit : Nat := 255

/-- The first part that is no step up is longer than any name. -/
def hasLongPart (path : FilePath) : Bool :=
  match path.parts.dropWhile (· = stepUp) with
  | part :: _ => nameLimit < (Text.encodeUtf8 (part.chars?.getD [])).length
  | [] => false

/-- A zero letter ends no name, and no part is longer than a name can be. -/
def checkName (path : FilePath) : Except Fault Unit :=
  if path.parts.any (·.contains (.ofNumber 0)) then .error (.invalid .nullByte)
  else if path.hasLongPart then .error .nameTooLong
  else .ok ()

end FilePath

end ConstrainedDecoding
