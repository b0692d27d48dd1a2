import ConstrainedDecoding.Oracle.Automata
import ConstrainedDecoding.Proofs.Oracle.Rules

/-! Automata whose edges stay inside them make an oracle with consistent masks. -/

namespace ConstrainedDecoding

/-- Every edge leads to a state of the automaton or into a failure, and only edges make masks. -/
def Automaton.isClosed (automaton : Automaton) : Bool :=
  0 < automaton.edges.length && automaton.masks.isEmpty &&
    automaton.edges.all fun edges => edges.all fun edge =>
      match edge.2 with
      | .state index => index < automaton.edges.length
      | .failure _ => true

/-- Every edge is that of a token of the vocabulary, and leads to a state. -/
def Automaton.isDefinite (size : Nat) (automaton : Automaton) : Bool :=
  automaton.edges.all fun edges => edges.all fun edge =>
    0 ≤ edge.1 && edge.1 < size &&
      match edge.2 with
      | .state _ => true
      | .failure _ => false

/-- All automata are closed. -/
def Automata.isClosed (automata : Automata) : Bool :=
  automata.grammars.all fun entry => entry.2.isClosed

namespace Place

/-- A place inside a closed automaton. -/
def IsInside (place : Place) : Prop :=
  place.automaton.isClosed = true ∧ place.state < place.automaton.edges.length

/-- A place inside its automaton has edges, and they lead to places inside. -/
theorem IsInside.edges {place : Place} (inside : place.IsInside) :
    ∃ edges, place.edges = .ok edges ∧
      ∀ edge ∈ edges, ∀ index, edge.2 = .state index → index < place.automaton.edges.length := by
  obtain ⟨closed, below⟩ := inside
  -- The state is one of the automaton, and all its edges were checked with the others.
  refine ⟨place.automaton.edges[place.state], by simp [Place.edges, below], ?_⟩
  intro edge member index leads
  simp only [Automaton.isClosed, Bool.and_eq_true, List.all_eq_true] at closed
  have target := closed.2 _ (List.getElem_mem below) edge member
  simpa [leads] using target

/-- A step from a place inside leads to a place inside. -/
theorem IsInside.next {place after : Place} (inside : place.IsInside) {token : Int}
    (stepped : place.next token = .ok after) : after.IsInside := by
  -- A place inside has edges, so only the edge of the token is in question.
  obtain ⟨edges, found, targets⟩ := inside.edges
  simp only [Place.next, found, Place.target?, Bind.bind, Except.bind] at stepped
  -- Only an edge to a state is a step, and that state belongs to the automaton.
  cases taken : edges.find? fun edge => edge.1 == token with
  | none => simp [taken] at stepped
  | some edge =>
    have member := List.mem_of_find?_eq_some taken
    cases target : edge.2 with
    | failure fault => simp [taken, target] at stepped
    | state index =>
      simp only [taken, Option.map_some, target, Pure.pure, Except.pure, Except.ok.injEq] at stepped
      subst after
      exact ⟨inside.1, targets edge member index target⟩

/-- A place inside an automaton whose edges are all definite. -/
def IsJudged (size : Nat) (place : Place) : Prop :=
  place.IsInside ∧ place.automaton.isDefinite size = true

/-- A step stays in the automaton. -/
theorem next_automaton {place after : Place} {token : Int} (stepped : place.next token = .ok after) :
    after.automaton = place.automaton := by
  simp only [Place.next, Bind.bind, Except.bind] at stepped
  -- A step that succeeds changes the state only.
  repeat' split at stepped
  all_goals cases stepped
  rfl

/-- Where edges are definite, a token with an edge is taken, and any other one is rejected. -/
theorem IsJudged.next {size : Nat} {place : Place} (judged : place.IsJudged size) (token : Int) :
    (0 ≤ token ∧ token < size ∧
        (place.edges.map fun edges => (target? edges token).isSome) = .ok true ∧
        ∃ after, place.next token = .ok after) ∨
      ((place.edges.map fun edges => (target? edges token).isSome) = .ok false ∧
        place.next token = .error (.inadmissible (.int token) none)) := by
  obtain ⟨⟨closed, below⟩, definite⟩ := judged
  have found : place.edges = .ok place.automaton.edges[place.state] := by simp [Place.edges, below]
  simp only [Place.next, found, Except.map, Bind.bind, Except.bind, target?, Option.isSome_map]
  -- The token has an edge, which leads to a state, or it has none.
  cases taken : place.automaton.edges[place.state].find? fun edge => edge.1 == token with
  | none => exact .inr ⟨rfl, rfl⟩
  | some edge =>
    have chosen := List.find?_some taken
    have same : edge.1 = token := beq_iff_eq.mp chosen
    have within := List.all_eq_true.mp (List.all_eq_true.mp definite _ (List.getElem_mem below))
      edge (List.mem_of_find?_eq_some taken)
    simp only [Bool.and_eq_true, decide_eq_true_eq, same] at within
    obtain ⟨⟨lower, upper⟩, leads⟩ := within
    cases target : edge.2 with
    | failure fault => simp [target] at leads
    | state index => exact .inl ⟨lower, upper, rfl, ⟨_, by simp only [Option.map_some, target]; rfl⟩⟩

/-- The mask of edges tells of every token whether it has one. -/
theorem edgeMask_getD (size : Nat) (edges : List (Int × Target)) {token : Nat}
    (below : token < size) :
    (edgeMask size edges).getD token false = (target? edges token).isSome := by
  -- The mask lists the tokens of the vocabulary in order.
  simp [edgeMask, List.getD_eq_getElem?_getD, below]

end Place

namespace Automata

/-- The start of a grammar is the first state of an automaton that is listed. -/
theorem start_listed {automata : Automata} {grammar : Grammar} {place : Place}
    (started : automata.start grammar = .ok place) :
    place.state = 0 ∧ ∃ entry ∈ automata.grammars, entry.2 = place.automaton := by
  simp only [start, Bind.bind, Except.bind] at started
  -- A grammar can fail to have a text, and its text can fail to name an automaton.
  cases text : grammar.engineText with
  | error fault => simp [text] at started
  | ok label =>
    cases found : automata.grammars.get? label.display with
    | none => simp [text, found] at started
    | some automaton =>
      simp only [text, found, Pure.pure, Except.pure, Except.ok.injEq] at started
      subst place
      obtain ⟨entry, listed, rfl⟩ := Option.map_eq_some_iff.mp found
      exact ⟨rfl, entry, List.mem_of_find?_eq_some listed, rfl⟩

/-- The start of a grammar is inside its automaton. -/
theorem start_inside {automata : Automata} (closed : automata.isClosed = true) {grammar : Grammar}
    {place : Place} (started : automata.start grammar = .ok place) : place.IsInside := by
  obtain ⟨first, entry, listed, same⟩ := start_listed started
  -- The automaton is one of those listed, and a closed one has a state to start in.
  have inside : place.automaton.isClosed = true := same ▸ List.all_eq_true.mp closed entry listed
  refine ⟨inside, ?_⟩
  simp only [Automaton.isClosed, Bool.and_eq_true, decide_eq_true_eq] at inside
  rw [first]
  exact inside.1.1

/-- A step of the oracle is one of the place, which the caller has allowed. -/
theorem next_of_step {automata : Automata} {place after : Place} {token : Int}
    (stepped : automata.step busy token place = .ok after) : place.next token = .ok after := by
  simp only [step, busy, Bind.bind, Except.bind] at stepped
  -- An automaton may ask for an advance on its way, which is refused here.
  split at stepped
  · cases stepped
  · exact stepped

/-- The answers of closed automata are functions of the place, and all places are inside. -/
theorem worldless {automata : Automata} (closed : automata.isClosed = true) :
    automata.oracle.Worldless Place.IsInside where
  probe _ _ _ _ := rfl
  mask _ _ _ := rfl
  accepting _ _ _ := rfl
  stopReason _ _ _ := rfl
  compile _ _ _ := rfl
  transition _ _ _ _ := rfl
  restart _ _ _ _ := rfl
  -- A compiled grammar starts inside, and edges of closed automata lead to states inside.
  compiled := start_inside closed
  moved inside stepped := inside.next (next_of_step stepped)
  restarted := start_inside closed

/-- At a place inside, the mask has an entry for every token and agrees with every probe. -/
theorem consistent (automata : Automata) : (automata.oracle.rulesIn ()).AlwaysConsistent
    (Oracle.standsAnywhere Place.IsInside : Standing Unit Place Place) automata.size := by
  intro cursor world place stands
  obtain ⟨rfl, inside⟩ := stands
  obtain ⟨edges, found, _⟩ := inside.edges
  -- A closed automaton has no masks of its own, so its edges tell the mask.
  have plain : cursor.automaton.masks = [] := by
    have closed := inside.1
    simp only [Automaton.isClosed, Bool.and_eq_true, List.isEmpty_iff] at closed
    exact closed.1.2
  refine ⟨Place.edgeMask automata.size edges, ?_, by simp [Place.edgeMask], ?_⟩
  · simp [Oracle.rulesIn, oracle, Place.mask, plain, found, Except.map]
  · intro token below
    rw [Place.edgeMask_getD _ _ below]
    simp [Oracle.rulesIn, oracle, found, Except.map]

/-- Where edges are definite, too, all places that come up have definite edges. -/
theorem worldless_judged {automata : Automata} (closed : automata.isClosed = true)
    (definite : (automata.grammars.all fun entry => entry.2.isDefinite automata.size) = true) :
    automata.oracle.Worldless (Place.IsJudged automata.size) :=
  -- A place is in one of the listed automata, and each of them says what it admits.
  have judged {grammar : Grammar} {place : Place} (started : automata.start grammar = .ok place) :
      place.IsJudged automata.size := by
    obtain ⟨_, entry, listed, same⟩ := start_listed started
    exact ⟨start_inside closed started, same ▸ List.all_eq_true.mp definite entry listed⟩
  { worldless closed with
    compiled := judged
    moved := fun inside stepped => by
      have next := next_of_step stepped
      exact ⟨inside.1.next next, by rw [Place.next_automaton next]; exact inside.2⟩
    restarted := judged }

/-- Their masks are consistent, as those of all places inside automata are. -/
theorem consistent_judged (automata : Automata) : (automata.oracle.rulesIn ()).AlwaysConsistent
    (Oracle.standsAnywhere (Place.IsJudged automata.size) : Standing Unit Place Place)
    automata.size := by
  intro cursor world place stands
  have inside : Oracle.standsAnywhere Place.IsInside cursor world place := ⟨stands.1, stands.2.1⟩
  exact automata.consistent inside

/-- Automata with definite edges judge the tokens at the places that come up. -/
theorem judges {automata : Automata} (steady : automata.reentrant = false) :
    (automata.oracle.rulesIn ()).AlwaysJudges
      (Oracle.standsAnywhere (Place.IsJudged automata.size) : Standing Unit Place Place)
      automata.size := by
  intro cursor world place stands
  obtain ⟨rfl, judged⟩ := stands
  -- A step that need not ask the caller is one of the place.
  have step (token : Int) : automata.step busy token cursor = cursor.next token := by
    simp [Automata.step, steady]
  constructor
  · intro token _ _ admitted
    simp only [Oracle.rulesIn, oracle, step] at admitted ⊢
    rcases judged.next token with ⟨_, _, _, after, taken⟩ | ⟨refused, _⟩
    · simp [taken, Except.map]
    · simp [refused] at admitted
  · intro token outside
    simp only [Oracle.rulesIn, oracle, step] at outside ⊢
    rcases judged.next token with ⟨lower, upper, admitted, _⟩ | ⟨_, rejected⟩
    · exact absurd ⟨lower, upper, admitted⟩ outside
    · exact ⟨none, by simp [rejected, Except.map]⟩

/-- A restart of automata depends on nothing but the grammar. -/
theorem restartsAlike (automata : Automata) : (automata.oracle.rulesIn ()).RestartsAlike := by
  intro state other grammar
  refine ⟨rfl, ?_⟩
  simp only [Oracle.rulesIn, oracle, Turn.held]
  -- Where a restart leads depends on the grammar alone, and one that fails is no concern.
  cases automata.start grammar with
  | ok place => exact fun _ => rfl
  | error fault =>
    intro succeeded
    cases succeeded

/-- A restart of automata ends as compiling does. -/
theorem functional (automata : Automata) :
    (automata.oracle.rulesIn ()).Functional (automata.oracle.startIn ()) :=
  Oracle.Worldless.functional fun _ _ => rfl

/-- Two states that take the tokens 0 and 1 in turn. A text may end after each pair. -/
def pairs : Automaton := ⟨[[(0, .state 1)], [(1, .state 0)]], [0], []⟩

/-- The automata of a single grammar, over three tokens. -/
def alternating : Automata := ⟨[("(ab)*", pairs)], 3, false⟩

/-- The grammar of the pairs. -/
def alternatingGrammar : Grammar := .regex (.str "(ab)*")

/-- A vocabulary with one token more than the pairs are made of. -/
def alternatingVocabulary : Vocabulary :=
  ⟨[("a", 0), ("b", 1), ("c", 2)], [], [], .str "unknown", .none, .null⟩

/-- The session at the start of the pairs. -/
def alternatingSession (validates : Bool) : Session Unit Place :=
  .start () ⟨pairs, 0⟩ alternatingGrammar alternatingVocabulary 3 validates []

/-- The automaton of the pairs is closed, so its answers are functions of the place. -/
theorem alternating_worldless : alternating.oracle.Worldless Place.IsInside :=
  worldless (by decide)

/-- Compiling the grammar of the pairs gives the session at their start. -/
theorem alternating_create (validates : Bool) :
    Session.create alternating.oracle () alternatingGrammar alternatingVocabulary validates [] =
      .ok (alternatingSession validates) := rfl

end Automata

end ConstrainedDecoding
