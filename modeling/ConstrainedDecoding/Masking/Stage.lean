import ConstrainedDecoding.Masking.Processor

/-! A session together with the appliers and processors that were made for it, by name. -/

namespace ConstrainedDecoding

/-- Whatever masks scores for a session. -/
inductive Masker where
  | applier (applier : Applier)
  | processor (processor : Processor)

/-- A session and its maskers. Every masker ever asked for has a number of its own. -/
structure Stage (σ κ : Type) where
  session : Session σ κ
  maskers : Fields Masker
  made : Nat

namespace Masker

/-- The applier of a masker. -/
def inner : Masker → Applier
  | applier own => own
  | processor own => own.applier

/-- The depth of a masker. A processor does not tell its own. -/
def depth : Masker → Except Fault Nat
  | applier own => .ok own.depth
  | processor _ => .error (.noAttribute "depth")

/-- Whether a masker reports its steps. A processor does not tell. -/
def debug : Masker → Except Fault Json
  | applier own => .ok own.debug
  | processor _ => .error (.noAttribute "debug")

/-- How many tokens a processor has reported. An applier does not count them. -/
def index : Masker → Except Fault Nat
  | applier _ => .error (.noAttribute "index")
  | processor own => .ok own.index

end Masker

namespace Stage

variable {σ κ α : Type}

/-- A session with no maskers yet. -/
def ofSession (session : Session σ κ) : Stage σ κ := ⟨session, [], 0⟩

/-- The masker of a name. -/
def masker (stage : Stage σ κ) (name : Text) : Except Fault Masker :=
  match stage.maskers.get? name with
  | some masker => .ok masker
  | none => .error (.missingKey name)

/-- A masker made under a name. If that fails, the name keeps what it stood for. -/
def add (name : Text) (make : Nat → Session σ κ → Turn (Session σ κ) Masker)
    (stage : Stage σ κ) : Turn (Stage σ κ) Unit :=
  let turn := make stage.made stage.session
  match turn.answer with
  -- A number is used up even if nothing is made.
  | .error fault => ⟨.error fault, ⟨turn.state, stage.maskers, stage.made + 1⟩⟩
  | .ok masker => ⟨.ok (), ⟨turn.state, stage.maskers.put name masker, stage.made + 1⟩⟩

/-- An applier made under a name. -/
def addApplier (name : Text) (arguments : ApplierArguments) : Stage σ κ → Turn (Stage σ κ) Unit :=
  add name fun number session =>
    let turn := Applier.make number arguments session
    ⟨turn.answer.map .applier, turn.state⟩

/-- A processor made under a name. -/
def addProcessor (name : Text) (arguments : ApplierArguments) (promptLength : Json) :
    Stage σ κ → Turn (Stage σ κ) Unit :=
  add name fun number session =>
    let turn := Processor.make number arguments promptLength session
    ⟨turn.answer.map .processor, turn.state⟩

/-- An action of the session. -/
def ofSessionTurn (stage : Stage σ κ) (turn : Turn (Session σ κ) α) : Turn (Stage σ κ) α :=
  ⟨turn.answer, { stage with session := turn.state }⟩

/-- An action of the masker of a name, whichever kind it is of. -/
def act (name : Text)
    (onApplier : Session σ κ × Applier → Turn (Session σ κ × Applier) α)
    (onProcessor : Session σ κ × Processor → Turn (Session σ κ × Processor) α)
    (stage : Stage σ κ) : Turn (Stage σ κ) α :=
  match stage.masker name with
  | .error fault => ⟨.error fault, stage⟩
  | .ok (.applier applier) =>
    let turn := onApplier (stage.session, applier)
    ⟨turn.answer, { stage with
      session := turn.state.1, maskers := stage.maskers.put name (.applier turn.state.2) }⟩
  | .ok (.processor processor) =>
    let turn := onProcessor (stage.session, processor)
    ⟨turn.answer, { stage with
      session := turn.state.1, maskers := stage.maskers.put name (.processor turn.state.2) }⟩

/-- An action that the masker does not offer. -/
def refuse {τ : Type} (fault : Fault) (state : τ) : Turn τ α := ⟨.error fault, state⟩

/-- Scores masked by an applier. -/
def apply (oracle : Oracle σ κ) (name : Text) (array : ScoreArray) :
    Stage σ κ → Turn (Stage σ κ) ScoreArray :=
  act name (Applier.apply oracle array) (refuse (.noAttribute "apply"))

/-- Tokens reported and scores masked by a processor. -/
def call (oracle : Oracle σ κ) (name : Text) (ids : TokenArray) (array : ScoreArray) :
    Stage σ κ → Turn (Stage σ κ) ScoreArray :=
  act name (refuse (.operand "object is not callable")) (Processor.call oracle ids array)

/-- A token reported to a masker. -/
def onToken (oracle : Oracle σ κ) (name : Text) (token : Live) :
    Stage σ κ → Turn (Stage σ κ) Unit :=
  act name (Applier.onToken oracle token) (Processor.within (Applier.onToken oracle token))

/-- Whether the stream may end here, as a masker tells. -/
def canStop (oracle : Oracle σ κ) (name : Text) : Stage σ κ → Turn (Stage σ κ) Bool :=
  act name (Applier.canStop oracle) (Processor.within (Applier.canStop oracle))

/-- The session reset through a masker. -/
def reset (oracle : Oracle σ κ) (name : Text) (grammar : Option Grammar) :
    Stage σ κ → Turn (Stage σ κ) Unit :=
  act name (Applier.reset oracle grammar) (Processor.reset oracle grammar)

/-- The session released by an applier. -/
def close (name : Text) : Stage σ κ → Turn (Stage σ κ) Unit :=
  act name (fun (session, applier) => ⟨.ok (), (applier.close session, applier)⟩)
    (refuse (.noAttribute "close"))

end Stage

end ConstrainedDecoding
