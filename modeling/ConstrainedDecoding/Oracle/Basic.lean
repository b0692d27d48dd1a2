import ConstrainedDecoding.Fault
import ConstrainedDecoding.Grammar.Basic

/-! Oracles: what decides which tokens a grammar admits. -/

namespace ConstrainedDecoding

/-- The admission of every token of a vocabulary, by id. -/
abbrev Mask := List Bool

/-- What a caller in the middle of an operation is told when it asks for another advance. -/
abbrev Reentry := Int → Except Fault Unit

/-- An oracle with state of type `σ`. A cursor of type `κ` stands for a place in a grammar.

The transition and the probe may ask the caller to advance before they answer. -/
structure Oracle (σ κ : Type) where
  compile : Grammar → σ → Turn σ κ
  probe : Reentry → κ → Int → σ → Turn σ Bool
  mask : κ → σ → Turn σ Mask
  transition : Reentry → κ → Int → σ → Turn σ κ
  accepting : κ → σ → Turn σ Bool
  stopReason : κ → σ → Turn σ Text
  restart : κ → Grammar → σ → Turn σ κ

/-- A use of an oracle. -/
inductive OracleCall where
  | compile
  | probe (token : Int)
  | mask
  | transition (token : Int)
  | accepting
  | stopReason
  | restart
  deriving DecidableEq

end ConstrainedDecoding
