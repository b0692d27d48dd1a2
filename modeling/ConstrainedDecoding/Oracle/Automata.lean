import ConstrainedDecoding.Oracle.Basic

/-! An oracle whose grammars are finite automata over tokens. -/

namespace ConstrainedDecoding

/-- Where an edge leads: to a state, or into a failure. -/
inductive Target where
  | state (index : Nat)
  | failure (fault : Fault)

/-- An automaton: the edges out of each state, and the states where a text may end.

A mask of its own overrides the one that the edges of a state imply. -/
structure Automaton where
  edges : List (List (Int × Target))
  accept : List Nat
  masks : List (Nat × Mask)

/-- A place in an automaton. -/
structure Place where
  automaton : Automaton
  state : Nat

/-- Automata by the text of the grammars that they stand for.

When reentrant, each transition first asks the caller to advance by the same token. -/
structure Automata where
  grammars : Fields Automaton
  size : Nat
  reentrant : Bool

namespace Place

/-- The edges out of the place. -/
def edges (place : Place) : Except Fault (List (Int × Target)) :=
  match place.automaton.edges[place.state]? with
  | some edges => .ok edges
  | none => .error .badIndex

/-- The edge of a token among others. -/
def target? (edges : List (Int × Target)) (token : Int) : Option Target :=
  (edges.find? fun edge => edge.1 == token).map (·.2)

/-- The tokens with an edge, as a mask of a given size. -/
def edgeMask (size : Nat) (edges : List (Int × Target)) : Mask :=
  (List.range size).map fun (token : Nat) => (target? edges token).isSome

/-- The mask of the place. -/
def mask (size : Nat) (place : Place) : Except Fault Mask :=
  match place.automaton.masks.find? fun entry => entry.1 == place.state with
  | some entry => .ok entry.2
  -- Without a mask of its own, a state admits the tokens that have an edge.
  | none => place.edges.map (edgeMask size)

/-- The place after a token. -/
def next (token : Int) (place : Place) : Except Fault Place := do
  match target? (← place.edges) token with
  | some (.state index) => return { place with state := index }
  | some (.failure fault) => .error fault
  | none => .error (.inadmissible (.int token) none)

end Place

namespace Automata

/-- The start of the automaton that stands for a grammar. -/
def start (automata : Automata) (grammar : Grammar) : Except Fault Place := do
  let label := (← grammar.engineText).display
  match automata.grammars.get? label with
  | some automaton => return ⟨automaton, 0⟩
  | none => .error (.compilation ("no grammar for " ++ label))

/-- The place after a token, once the caller allows another advance if it has to be asked. -/
def step (automata : Automata) (reentry : Reentry) (token : Int) (place : Place) :
    Except Fault Place := do
  if automata.reentrant then reentry token
  -- The answer of the caller is a fault unless it lets the step go on.
  place.next token

/-- The oracle of the automata. It has no state of its own. -/
def oracle (automata : Automata) : Oracle Unit Place where
  compile grammar state := ⟨automata.start grammar, state⟩
  probe _ place token state :=
    ⟨place.edges.map fun edges => (Place.target? edges token).isSome, state⟩
  mask place state := ⟨place.mask automata.size, state⟩
  transition reentry place token state := ⟨automata.step reentry token place, state⟩
  accepting place state := ⟨.ok (place.automaton.accept.contains place.state), state⟩
  stopReason place state :=
    ⟨place.edges.map fun edges => if edges.isEmpty then "NoExtension" else "NotStopped", state⟩
  restart _ grammar state := ⟨automata.start grammar, state⟩

end Automata

end ConstrainedDecoding
