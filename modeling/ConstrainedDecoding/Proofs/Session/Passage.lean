import ConstrainedDecoding.Proofs.Session.Mask

/-! Passages through a grammar, in which every answer is told afresh by the rules at the state. -/

namespace ConstrainedDecoding

variable {γ : Type}

/-- Where a stream is in a grammar. No mask is part of it, and none is ever kept. -/
structure Passage (γ : Type) where
  state : γ
  grammar : Grammar
  size : Nat
  validates : Bool
  poison : Option Text

namespace Passage

/-- A passage at the start of a grammar. -/
def opening (state : γ) (grammar : Grammar) (size : Nat) (validates : Bool) : Passage γ :=
  ⟨state, grammar, size, validates, none⟩

/-- Whether a token is admitted. The rules are asked for every token of the vocabulary. -/
def admits (rules : Rules γ) (token : Int) (passage : Passage γ) : Except Fault Bool :=
  if 0 ≤ token ∧ token < passage.size then rules.probe passage.state token else .ok false

/-- The mask of the state, which must have an entry for every token. -/
def mask (rules : Rules γ) (passage : Passage γ) : Except Fault Mask := do
  let mask ← rules.mask passage.state
  if mask.length = passage.size then .ok mask
  else .error (.invalid (.maskShape mask.length passage.size))

/-- The check before a move, which fails for a token that is not admitted. -/
def check (rules : Rules γ) (token : Int) (passage : Passage γ) : Except Fault Unit := do
  if passage.validates then
    unless ← passage.admits rules token do
      throw (.inadmissible (.int token) none)

/-- The passage after a move, which poisons it by a failure. -/
def move (rules : Rules γ) (token : Int) (passage : Passage γ) : Turn (Passage γ) Reply :=
  let move := rules.transition passage.state token
  match move.answer with
  | .ok () => ⟨.ok .done, { passage with state := move.state }⟩
  | .error fault =>
    ⟨.error fault, { passage with state := move.state, poison := some fault.message }⟩

/-- The passage at the start of a grammar, which heals it unless the start fails. -/
def restart (rules : Rules γ) (grammar : Grammar) (passage : Passage γ) : Turn (Passage γ) Reply :=
  let move := rules.restart passage.state grammar
  match move.answer with
  | .ok () => ⟨.ok .done, { passage with state := move.state, grammar, poison := none }⟩
  | .error fault =>
    ⟨.error fault,
      { passage with state := move.state, poison := some ("reset failed: " ++ fault.message) }⟩

/-- The answer to a request. A poisoned passage refuses every one but a reset. -/
def respond (rules : Rules γ) (passage : Passage γ) (request : Request) :
    Turn (Passage γ) Reply :=
  match passage.poison, request with
  | _, .reset grammar => passage.restart rules (grammar.getD passage.grammar)
  | some cause, _ => ⟨.error (.poisoned cause), passage⟩
  | none, .admits token => ⟨(passage.admits rules token).map .flag, passage⟩
  | none, .mask => ⟨(passage.mask rules).map .mask, passage⟩
  | none, .isComplete => ⟨(rules.accepting passage.state).map .flag, passage⟩
  | none, .stopReason => ⟨(rules.stopReason passage.state).map .reason, passage⟩
  | none, .advance token =>
    match passage.check rules token with
    | .ok () => passage.move rules token
    | .error fault => ⟨.error fault, passage⟩

/-- The answers to requests one after the other. -/
def answers (rules : Rules γ) (passage : Passage γ) : List Request → List (Except Fault Reply)
  | [] => []
  | request :: rest =>
    let turn := passage.respond rules request
    turn.answer :: answers rules turn.state rest

end Passage

namespace Outline

variable {rules : Rules γ} {outline : Outline γ}

/-- The passage of an outline: all of it but the mask and the number of steps. -/
def passage (outline : Outline γ) : Passage γ where
  state := outline.state
  grammar := outline.grammar
  size := outline.size
  validates := outline.validates
  poison := outline.poison

/-- A turn of an outline answers as one of its passage does, and ends where that one does. -/
def Tracks (turn : Turn (Outline γ) Reply) (other : Turn (Passage γ) Reply) : Prop :=
  turn.answer = other.answer ∧ turn.state.passage = other.state

/-- An admission without a mask is a probe of every token of the vocabulary. -/
theorem admits_passage (rules : Rules γ) (bare : outline.mask = none)
    (usable : outline.poison = none) (token : Int) :
    (outline.admits rules token).answer = outline.passage.admits rules token := by
  simp only [admits, whenUsable, usable, bare, Passage.admits, passage]
  -- Both look at the range of the token first.
  by_cases inside : 0 ≤ token ∧ token < outline.size
  · rw [if_pos inside, if_neg (by simp; omega)]
  · rw [if_neg inside, if_pos (by simp; omega)]

/-- A mask that is made is the one that the rules tell, or is refused by its length. -/
theorem fullMask_passage (rules : Rules γ) (bare : outline.mask = none)
    (usable : outline.poison = none) :
    (outline.fullMask rules).answer = outline.passage.mask rules := by
  simp only [fullMask, whenUsable, usable, bare, Passage.mask, passage, Bind.bind, Except.bind]
  cases rules.mask outline.state with
  | error fault => rfl
  | ok mask =>
    -- The length decides in both.
    by_cases fits : mask.length = outline.size
    · simp only [if_pos fits]
    · simp only [if_neg fits]

/-- A move of an outline is one of its passage. -/
theorem transit_tracks (rules : Rules γ) (usable : outline.poison = none) (token : Int) :
    Tracks ((outline.transit rules token).reply fun _ => .done)
      (outline.passage.move rules token) := by
  simp only [transit, Passage.move, Turn.reply, passage]
  -- The rules move both, and both end by the answer.
  cases (rules.transition outline.state token).answer with
  | ok _ => exact ⟨rfl, by simp [passage, usable]⟩
  | error fault => exact ⟨rfl, rfl⟩

/-- An advance without a mask is a check and then a move. -/
theorem advance_tracks (rules : Rules γ) (bare : outline.mask = none)
    (usable : outline.poison = none) (token : Int) :
    Tracks ((outline.advance rules token).reply fun _ => .done)
      (match outline.passage.check rules token with
        | .ok () => outline.passage.move rules token
        | .error fault => ⟨.error fault, outline.passage⟩) := by
  have probed := admits_passage rules bare usable token
  have moves := transit_tracks rules usable token
  simp only [advance, whenUsable, usable, Passage.check, ← probed, admits_state]
  by_cases checks : outline.validates = true
  · -- Only a token that is admitted gets to the move.
    have checksToo : outline.passage.validates = true := checks
    simp only [if_pos checks, if_pos checksToo, Bind.bind, Except.bind]
    cases (outline.admits rules token).answer with
    | error fault => exact ⟨rfl, rfl⟩
    | ok admitted =>
      cases admitted with
      | false => exact ⟨rfl, rfl⟩
      | true => exact moves
  · have checksNot : ¬outline.passage.validates = true := checks
    simp only [if_neg checks, if_neg checksNot]
    exact moves

/-- A reset of an outline is a restart of its passage. -/
theorem reset_tracks (rules : Rules γ) (grammar : Option Grammar) :
    Tracks ((outline.reset rules grammar).reply fun _ => .done)
      (outline.passage.restart rules (grammar.getD outline.grammar)) := by
  simp only [reset, Passage.restart, Turn.reply, passage]
  -- Neither the mask nor what was asked plays a part in a reset.
  cases (rules.restart outline.state (grammar.getD outline.grammar)).answer with
  | ok _ => exact ⟨rfl, rfl⟩
  | error fault => exact ⟨rfl, rfl⟩

/-- Without a mask, an outline answers each request as its passage does. -/
theorem perform_tracks (rules : Rules γ) (bare : outline.mask = none) (request : Request) :
    Tracks (outline.perform rules request) (outline.passage.respond rules request) := by
  cases poison : outline.poison with
  | some cause =>
    have poisoned : outline.passage.poison = some cause := poison
    -- All requests but a reset are refused, and nothing is changed.
    cases request with
    | reset grammar =>
      simp only [Passage.respond]
      exact reset_tracks rules grammar
    | _ =>
      simp only [Passage.respond, poisoned, perform, admits, fullMask, advance, isComplete,
        stopReason, whenUsable, poison]
      exact ⟨rfl, rfl⟩
  | none =>
    have usable : outline.passage.poison = none := poison
    cases request with
    | admits token =>
      have same := admits_passage rules bare poison token
      simp only [Passage.respond, usable, perform, Turn.reply, ← same, admits_state]
      exact ⟨rfl, rfl⟩
    | mask =>
      have same := fullMask_passage rules bare poison
      have after := congrArg passage (forget_fullMask rules outline)
      simp only [Passage.respond, usable, perform, Turn.reply, ← same]
      exact ⟨rfl, after⟩
    | advance token =>
      simp only [Passage.respond, usable]
      exact advance_tracks rules bare poison token
    | reset grammar =>
      simp only [Passage.respond]
      exact reset_tracks rules grammar
    | _ =>
      simp only [Passage.respond, usable, perform, isComplete, stopReason, whenUsable, poison]
      exact ⟨rfl, rfl⟩

/-- With a faithful mask, too, an outline answers each request as its passage does. -/
theorem Faithful.perform_tracks (faithful : outline.Faithful rules)
    (consistent : rules.Consistent outline.size outline.state) (request : Request) :
    Tracks (outline.perform rules request) (outline.passage.respond rules request) := by
  -- The outline that loses its mask has the same passage, and answers the same.
  obtain ⟨answer, after, _⟩ := perform_agree faithful consistent request
  have bare : outline.forget.mask = none := rfl
  obtain ⟨told, later⟩ := Outline.perform_tracks rules bare request
  exact ⟨answer.trans told, (congrArg passage after).trans later⟩

end Outline

end ConstrainedDecoding
