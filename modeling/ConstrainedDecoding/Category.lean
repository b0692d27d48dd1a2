import ConstrainedDecoding.Live.Display

/-! The families that the library's own failures fall into. -/

namespace ConstrainedDecoding

/-- A family of failures. -/
inductive Category where
  | general
  | vocabulary
  | missingVocabulary
  | tokenizerFile
  | compilation
  | incompatible
  | fetch
  | inadmissible
  | poisoned
  | owned
  | concurrent
  deriving DecidableEq

namespace Category

/-- The family and those that contain it, up to the one of all failures. -/
def lineage : Category → List Category
  | general => [general]
  | vocabulary => [vocabulary, general]
  | missingVocabulary => [missingVocabulary, vocabulary, general]
  | tokenizerFile => [tokenizerFile, vocabulary, general]
  | other => [other, general]

/-- The message made of whatever a failure was raised with. -/
def messageOf : List Json → Text
  | [] => ""
  | [argument] => argument.display
  | arguments => "(" ++ Text.joinWith ", " (arguments.map Json.shown) ++ ")"

end Category

end ConstrainedDecoding
