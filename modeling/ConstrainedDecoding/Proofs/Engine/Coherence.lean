import ConstrainedDecoding.Proofs.Engine.Reuse
import ConstrainedDecoding.Proofs.Engine.Setup

/-! The mask that an oracle remembers is that of its cursor, in whatever order cursors are used. -/

namespace ConstrainedDecoding

variable {μ : Type}

/-- As many bits are unpacked as there are in the words, up to a size. -/
theorem unpackWords_length (size : Nat) (words : List Int) :
    (unpackWords size words).length = min size (32 * words.length) := by
  -- Each word has the same number of bits.
  have bits : (words.flatMap wordBits).length = 32 * words.length := by
    induction words with
    | nil => rfl
    | cons word rest ih =>
      have one : (wordBits word).length = 32 := by simp [wordBits]
      rw [List.flatMap_cons, List.length_append, ih, one, List.length_cons]
      omega
  rw [unpackWords, List.length_take, bits]

namespace Engine

/-- The bitmasks of an engine have a word for every 32 tokens, whatever became of the matcher. -/
structure FixedWidth (engine : Engine μ) : Prop where
  made : ∀ (table : ByteTable) (text : Text) (level : Int),
    (engine.words (engine.matcher table text level)).length = wordCount table
  consumed : ∀ (token : Int) (matcher : μ),
    (engine.words (engine.consume token matcher).2).length = (engine.words matcher).length
  rewound : ∀ matcher : μ,
    (engine.words (engine.rewind matcher)).length = (engine.words matcher).length

/-- What one use of an oracle can do to its matchers: a new one, or one that moves on or back. -/
inductive Revises (engine : Engine μ) (table : ByteTable) (matchers : List μ) :
    Option Nat → List μ → Prop where
  | kept (moved : Option Nat) : Revises engine table matchers moved matchers
  | made (moved : Option Nat) (text : Text) (level : Int) :
      Revises engine table matchers moved (matchers ++ [engine.matcher table text level])
  | consumed {cursor : Nat} {matcher : μ} (token : Int) : matchers[cursor]? = some matcher →
      Revises engine table matchers (some cursor)
        (matchers.set cursor (engine.consume token matcher).2)
  | rewound {cursor : Nat} {matcher : μ} : matchers[cursor]? = some matcher →
      Revises engine table matchers (some cursor) (matchers.set cursor (engine.rewind matcher))

variable {engine : Engine μ} {table : ByteTable} {matchers after : List μ} {moved : Option Nat}

/-- The matcher of a cursor stays as it is if another one is moved, or none. -/
theorem Revises.getElem? (revises : engine.Revises table matchers moved after) {cursor : Nat}
    (other : moved ≠ some cursor) {matcher : μ} (found : matchers[cursor]? = some matcher) :
    after[cursor]? = some matcher := by
  cases revises with
  | kept => exact found
  | made moved text level =>
    -- A new matcher comes after all that there are.
    have inside := (List.getElem?_eq_some_iff.mp found).1
    rwa [List.getElem?_append_left inside]
  | consumed token => rwa [List.getElem?_set_ne (by rintro rfl; exact other rfl)]
  | rewound => rwa [List.getElem?_set_ne (by rintro rfl; exact other rfl)]

/-- A use that moves no matcher could as well be one that may move a certain one. -/
theorem Revises.of_none (revises : engine.Revises table matchers none after)
    (moved : Option Nat) : engine.Revises table matchers moved after := by
  cases revises with
  | kept => exact .kept moved
  | made _ text level => exact .made moved text level

/-- All matchers have bitmasks for the tokens of a table. -/
def AllWide (engine : Engine μ) (table : ByteTable) (matchers : List μ) : Prop :=
  ∀ matcher ∈ matchers, (engine.words matcher).length = wordCount table

/-- No use of an oracle makes the bitmask of a matcher wider or narrower. -/
theorem Revises.allWide (revises : engine.Revises table matchers moved after)
    (fixed : engine.FixedWidth) (wide : engine.AllWide table matchers) :
    engine.AllWide table after := by
  intro matcher member
  cases revises with
  | kept => exact wide matcher member
  | made moved text level =>
    rcases List.mem_append.mp member with old | new
    · exact wide matcher old
    · rw [List.mem_singleton.mp new]
      exact fixed.made table text level
  | consumed token found =>
    -- A matcher that has moved has the bitmask width that it had before.
    rcases List.mem_or_eq_of_mem_set member with old | rfl
    · exact wide matcher old
    · rw [fixed.consumed]
      exact wide _ (List.mem_of_getElem? found)
  | rewound found =>
    rcases List.mem_or_eq_of_mem_set member with old | rfl
    · exact wide matcher old
    · rw [fixed.rewound]
      exact wide _ (List.mem_of_getElem? found)

end Engine

/-- The element at a place that is counted from the start. -/
theorem elementAt_of_getElem? {α : Type} {elements : List α} {index : Nat} {element : α}
    (found : elements[index]? = some element) : elementAt elements index = .ok element := by
  have inside : index < elements.length := (List.getElem?_eq_some_iff.mp found).1
  simp [elementAt, position?_natCast inside, found]

namespace Matchers

variable {engine : Engine μ} {state after : Matchers μ} {moved : Option Nat}

/-- What no use of an oracle changes: its table and the number of its tokens. -/
def terms (state : Matchers μ) : ByteTable × Nat :=
  (state.table, state.size)

/-- A use of an oracle that may move the matcher of a cursor, and then remembers no mask. -/
structure Moves (engine : Engine μ) (state : Matchers μ) (moved : Option Nat)
    (after : Matchers μ) : Prop where
  terms : after.terms = state.terms
  revises : engine.Revises state.table state.matchers moved after.matchers
  cached : after.cached = none ∨ after.cached = state.cached ∧ after.matchers = state.matchers

/-- Building leaves nothing but notes. -/
theorem build_state (engine : Engine μ) (text : Text) (state : Matchers μ) :
    ∃ asked, (build engine text state).state = { state with asked } := by
  simp only [build]
  repeat' split
  all_goals exact ⟨_, rfl⟩

/-- A matcher that is built is made over the table of the oracle. -/
theorem build_made {text : Text} {matcher : μ}
    (built : (build engine text state).answer = .ok matcher) :
    ∃ level, matcher = engine.matcher state.table text level := by
  simp only [build] at built
  -- Of the four ends of the building, only the last one gives a matcher.
  repeat' split at built
  all_goals cases built
  exact ⟨_, rfl⟩

/-- Compiling makes a new matcher and remembers no mask, or it leaves both as they are. -/
theorem compile_moves (engine : Engine μ) (grammar : Grammar) (state : Matchers μ) :
    Moves engine state none (compile engine grammar state).state := by
  obtain ⟨asked, noted⟩ := serialize_state engine grammar state
  simp only [compile, noted]
  split
  · -- A grammar without a text changes nothing but the notes.
    exact ⟨rfl, .kept none, .inr ⟨rfl, rfl⟩⟩
  · rename_i text _
    obtain ⟨asked, built⟩ := build_state engine text { state with asked }
    simp only [built]
    split
    · exact ⟨rfl, .kept none, .inr ⟨rfl, rfl⟩⟩
    · rename_i matcher new
      obtain ⟨level, rfl⟩ := build_made new
      exact ⟨rfl, .made none text level, .inl rfl⟩

/-- A transition moves the matcher of its cursor, and then no mask is remembered. -/
theorem transition_moves (engine : Engine μ) (cursor : Nat) (token : Int) (state : Matchers μ) :
    Moves engine state (some cursor) (transition engine cursor token state).state := by
  cases found : state.matchers[cursor]? with
  | none =>
    -- A cursor that the oracle does not know has no matcher to move.
    simp only [transition, matcher, found]
    exact ⟨rfl, .kept _, .inl rfl⟩
  | some matcher =>
    simp only [transition, Matchers.matcher, found]
    -- Whether the token was taken decides on the answer, but not on what is left behind.
    split
    · exact ⟨rfl, .consumed token found, .inl rfl⟩
    · exact ⟨rfl, .consumed token found, .inl rfl⟩

/-- A restart rewinds the matcher of its cursor or compiles, and then no mask is remembered. -/
theorem restart_moves (engine : Engine μ) (cursor : Option Nat) (grammar : Grammar)
    (state : Matchers μ) : Moves engine state cursor (restart engine cursor grammar state).state := by
  cases found : reusable? engine cursor grammar state.forget with
  | some entry =>
    obtain ⟨rfl, known, _⟩ := reusable?_eq_some_iff.mp found
    rw [restart_of_reusable found]
    exact ⟨rfl, .rewound known, .inl rfl⟩
  | none =>
    simp only [restart, found]
    -- The mask was forgotten before, so compiling cannot leave one.
    obtain ⟨terms, revises, cached⟩ := compile_moves engine grammar state.forget
    refine ⟨terms, revises.of_none cursor, .inl ?_⟩
    rcases cached with none | ⟨same, _⟩
    · exact none
    · exact same

/-- A query changes nothing, or it remembers the mask that the engine has just told of a cursor. -/
theorem currentMask_cases (engine : Engine μ) (cursor : Nat) (state : Matchers μ) :
    (currentMask engine cursor state).state = state ∨
      ∃ matcher words asked, state.matchers[cursor]? = some matcher ∧
        (currentMask engine cursor state).state = { state with
          words, asked, cached := some (cursor, unpackWords state.size (engine.words matcher)) } := by
  simp only [currentMask]
  -- Either a mask is remembered, or it is filled from the matcher, if there is one.
  split
  · exact .inl rfl
  · cases found : state.matchers[cursor]? with
    | none =>
      simp only [matcher, found]
      exact .inl trivial
    | some matcher =>
      simp only [Matchers.matcher, found]
      exact .inr ⟨matcher, _, _, rfl, rfl⟩

/-- A query leaves the table, the size and all matchers as they are. -/
theorem currentMask_keeps (engine : Engine μ) (cursor : Nat) (state : Matchers μ) :
    (currentMask engine cursor state).state.terms = state.terms ∧
      (currentMask engine cursor state).state.matchers = state.matchers := by
  -- Filling a mask writes neither the terms nor a matcher.
  rcases currentMask_cases engine cursor state with same | ⟨_, _, _, _, filled⟩
  · rw [same]
    exact ⟨rfl, rfl⟩
  · rw [filled]
    exact ⟨rfl, rfl⟩

/-- What new oracles have, and neither moves nor queries take away, every oracle in use has. -/
theorem Used.holds {motive : Matchers μ → Prop} (used : Used engine state)
    (made : ∀ {logLevel vocabulary new}, make engine logLevel vocabulary = .ok new → motive new)
    (moves : ∀ {before moved after}, Moves engine before moved after → motive before →
      motive after)
    (asked : ∀ {before} cursor, motive before →
      motive (currentMask engine cursor before).state) : motive state := by
  -- All uses but queries move something, and a probe leaves what the query in it leaves.
  induction used with
  | made new => exact made new
  | compiled grammar _ ih => exact moves (compile_moves engine grammar _) ih
  | probed cursor _ _ ih => exact asked cursor ih
  | masked cursor _ ih => exact asked cursor ih
  | moved cursor token _ ih => exact moves (transition_moves engine cursor token _) ih
  | restarted cursor grammar _ ih => exact moves (restart_moves engine cursor grammar _) ih

/-- What is covered is a matter of the table and the size alone. -/
theorem covers_of_terms (same : after.terms = state.terms)
    (covers : state.table.Covers state.size) : after.table.Covers after.size := by
  obtain ⟨table, size⟩ := Prod.mk.inj same
  rwa [table, size]

/-- The table of an oracle in use covers its tokens. -/
theorem Used.covers (used : Used engine state) : state.table.Covers state.size :=
  used.holds make_covers (fun moves => covers_of_terms moves.terms)
    fun cursor => covers_of_terms (currentMask_keeps engine cursor _).1

/-- The bitmasks of an oracle in use are as wide as its table needs. -/
theorem Used.wide (used : Used engine state) (fixed : engine.FixedWidth) :
    engine.AllWide state.table state.matchers := by
  -- No use changes the table, and the matchers are those of before or moved ones.
  refine used.holds (motive := fun state => engine.AllWide state.table state.matchers) ?_ ?_ ?_
  · intro _ _ new made
    have matchers : new.matchers = [] := congrArg Prod.snd (make_new made).2
    simp [Engine.AllWide, matchers]
  · intro before _ after moves wide
    have table : after.table = before.table := congrArg Prod.fst moves.terms
    rw [table]
    exact moves.revises.allWide fixed wide
  · intro before cursor wide
    obtain ⟨terms, matchers⟩ := currentMask_keeps engine cursor before
    have table : (currentMask engine cursor before).state.table = before.table :=
      congrArg Prod.fst terms
    rwa [table, matchers]

/-- The remembered mask is what the engine tells of its cursor. -/
def Recalls (engine : Engine μ) (state : Matchers μ) : Prop :=
  ∀ (cursor : Nat) (mask : Mask), state.cached = some (cursor, mask) →
    ∃ matcher, state.matchers[cursor]? = some matcher ∧
      mask = unpackWords state.size (engine.words matcher)

/-- A new oracle remembers nothing that could be outdated. -/
theorem make_recalls {logLevel : Except Fault Int} {vocabulary : Vocabulary}
    (made : make engine logLevel vocabulary = .ok state) : Recalls engine state := by
  -- Wherever making an oracle does not fail, there is no mask yet.
  have cached : state.cached = none := by
    simp only [make, Bind.bind, Except.bind] at made
    repeat' split at made
    all_goals cases made
    rfl
  intro cursor mask remembered
  rw [cached] at remembered
  cases remembered

/-- A use that moves a matcher leaves no mask to be outdated. -/
theorem Recalls.moves (recalls : Recalls engine state) (moves : Moves engine state moved after) :
    Recalls engine after := by
  obtain ⟨terms, revises, cached⟩ := moves
  intro cursor mask remembered
  rcases cached with none | ⟨same, matchers⟩
  · rw [none] at remembered
    cases remembered
  · -- A failed compilation is the one use that leaves the mask, and it moves no matcher.
    have size : after.size = state.size := congrArg Prod.snd terms
    rw [same] at remembered
    rw [matchers, size]
    exact recalls cursor mask remembered

/-- A query leaves a mask that is not outdated. -/
theorem Recalls.currentMask (recalls : Recalls engine state) (cursor : Nat) :
    Recalls engine (currentMask engine cursor state).state := by
  rcases currentMask_cases engine cursor state with same | ⟨matcher, words, asked, found, filled⟩
  · rwa [same]
  · -- The mask that is remembered now is the one that has just been filled.
    rw [filled]
    intro other mask remembered
    obtain ⟨rfl, rfl⟩ := Prod.mk.inj (Option.some.inj remembered)
    exact ⟨matcher, found, rfl⟩

/-- No oracle in use remembers a mask that is outdated. -/
theorem Used.recalls (used : Used engine state) : Recalls engine state :=
  used.holds make_recalls (fun moves recalls => recalls.moves moves)
    fun cursor recalls => recalls.currentMask cursor

/-- A mask that is not outdated is what the engine would tell anew. -/
theorem Recalls.answer (recalls : Recalls engine state) {cursor : Nat} {matcher : μ}
    (found : state.matchers[cursor]? = some matcher) :
    (Matchers.currentMask engine cursor state).answer =
      .ok (unpackWords state.size (engine.words matcher)) := by
  simp only [Matchers.currentMask]
  split
  · rename_i mask known
    -- A mask is taken from what is remembered only if that is for this very cursor.
    obtain ⟨⟨place, remembered⟩, kept, rfl⟩ := Option.map_eq_some_iff.mp known
    obtain ⟨cached, own⟩ := Option.filter_eq_some_iff.mp kept
    have own : place = cursor := beq_iff_eq.mp own
    obtain ⟨present, known, same⟩ := recalls place remembered cached
    rw [own, found] at known
    rw [same, Option.some.inj known]
  · simp only [Matchers.matcher, found]

/-- The remembered mask is what the engine tells of its cursor, and bitmasks are wide enough. -/
structure Coherent (engine : Engine μ) (state : Matchers μ) : Prop where
  sized : state.size ≤ state.table.tokens.length
  wide : engine.AllWide state.table state.matchers
  recalls : Recalls engine state

/-- What an oracle remembers is coherent, in whatever order its cursors have been used. -/
theorem Used.coherent (used : Used engine state) (fixed : engine.FixedWidth) :
    Coherent engine state :=
  ⟨used.covers.le, used.wide fixed, used.recalls⟩

/-- The bitmask of every matcher has a bit for each token of the oracle. -/
theorem Coherent.length (coherent : Coherent engine state) {matcher : μ}
    (member : matcher ∈ state.matchers) :
    (unpackWords state.size (engine.words matcher)).length = state.size := by
  have sized := coherent.sized
  rw [unpackWords_length, coherent.wide matcher member, wordCount]
  omega

/-- A probe of a token that is in the mask of its cursor answers as the mask does. -/
theorem probe_of_mask {cursor : Nat} {mask : Mask}
    (answers : (currentMask engine cursor state).answer = .ok mask) {token : Nat} {bit : Bool}
    (found : mask[token]? = some bit) : (probe engine cursor token state).answer = .ok bit := by
  have inside : token < mask.length := (List.getElem?_eq_some_iff.mp found).1
  simp only [probe, answers, Except.bind]
  exact elementAt_of_getElem? found

/-- What an oracle can become while a cursor is only asked, and others are used in any order. -/
inductive Beside (engine : Engine μ) (cursor : Nat) (state : Matchers μ) : Matchers μ → Prop where
  | start : Beside engine cursor state state
  | compiled {after : Matchers μ} (grammar : Grammar) : Beside engine cursor state after →
      Beside engine cursor state (compile engine grammar after).state
  | probed {after : Matchers μ} (other : Nat) (token : Int) : Beside engine cursor state after →
      Beside engine cursor state (probe engine other token after).state
  | masked {after : Matchers μ} (other : Nat) : Beside engine cursor state after →
      Beside engine cursor state (currentMask engine other after).state
  | moved {after : Matchers μ} {other : Nat} (token : Int) : other ≠ cursor →
      Beside engine cursor state after →
      Beside engine cursor state (transition engine other token after).state
  | restarted {after : Matchers μ} {other : Option Nat} (grammar : Grammar) :
      other ≠ some cursor → Beside engine cursor state after →
      Beside engine cursor state (restart engine other grammar after).state

/-- An oracle that is used beside a cursor is an oracle in use. -/
theorem Beside.used {cursor : Nat} (beside : Beside engine cursor state after)
    (used : Used engine state) : Used engine after := by
  -- By induction on what was done beside the cursor: each such step is a use.
  induction beside with
  | start => exact used
  | compiled grammar _ ih => exact ih.compiled grammar
  | probed other token _ ih => exact ih.probed other token
  | masked other _ ih => exact ih.masked other
  | moved token _ _ ih => exact ih.moved _ token
  | restarted grammar _ _ ih => exact ih.restarted _ grammar

/-- What a use of another cursor leaves as it is: the size, and the matcher of this one. -/
theorem Moves.keeps (moves : Moves engine state moved after) {cursor : Nat}
    (other : moved ≠ some cursor) {matcher : μ} (found : state.matchers[cursor]? = some matcher) :
    after.size = state.size ∧ after.matchers[cursor]? = some matcher :=
  ⟨congrArg Prod.snd moves.terms, moves.revises.getElem? other found⟩

/-- No use of an oracle beside a cursor reaches the matcher of that cursor. -/
theorem Beside.keeps {cursor : Nat} {matcher : μ} (beside : Beside engine cursor state after)
    (found : state.matchers[cursor]? = some matcher) :
    after.size = state.size ∧ after.matchers[cursor]? = some matcher := by
  induction beside with
  | start => exact ⟨rfl, found⟩
  | compiled grammar _ ih =>
    obtain ⟨size, kept⟩ := (compile_moves engine grammar _).keeps (nofun) ih.2
    exact ⟨size.trans ih.1, kept⟩
  | @probed after other token _ ih =>
    -- A probe asks for the mask of its cursor, and leaves what that query leaves.
    obtain ⟨terms, matchers⟩ := currentMask_keeps engine other after
    have kept := (congrArg (·[cursor]?) matchers).trans ih.2
    exact ⟨(congrArg Prod.snd terms).trans ih.1, kept⟩
  | @masked after other _ ih =>
    obtain ⟨terms, matchers⟩ := currentMask_keeps engine other after
    have kept := (congrArg (·[cursor]?) matchers).trans ih.2
    exact ⟨(congrArg Prod.snd terms).trans ih.1, kept⟩
  | moved token other _ ih =>
    have apart := fun same => other (Option.some.inj same)
    obtain ⟨size, kept⟩ := (transition_moves engine _ token _).keeps apart ih.2
    exact ⟨size.trans ih.1, kept⟩
  | restarted grammar other _ ih =>
    obtain ⟨size, kept⟩ := (restart_moves engine _ grammar _).keeps other ih.2
    exact ⟨size.trans ih.1, kept⟩

/--
The mask of a cursor is the engine's bitmask for the present state of its matcher.

Queries and probes answer so in every oracle in use, and they go on to do so whatever becomes of the
other cursors. Every token of the oracle has a bit in the bitmask.
-/
theorem Used.answers_current (used : Used engine state) (fixed : engine.FixedWidth)
    {cursor : Nat} {matcher : μ} (found : state.matchers[cursor]? = some matcher) :
    ∃ mask, mask = unpackWords state.size (engine.words matcher) ∧ mask.length = state.size ∧
      ∀ after, Beside engine cursor state after →
        after.size = state.size ∧ after.matchers[cursor]? = some matcher ∧
        (currentMask engine cursor after).answer = .ok mask ∧
        ∀ (token : Nat) (inside : token < mask.length),
          (probe engine cursor token after).answer = .ok mask[token] := by
  refine ⟨_, rfl, (used.coherent fixed).length (List.mem_of_getElem? found), ?_⟩
  intro after beside
  obtain ⟨size, kept⟩ := beside.keeps found
  -- The oracle is still one in use, so what it remembers is still coherent.
  have answers := ((beside.used used).coherent fixed).recalls.answer kept
  rw [size] at answers
  refine ⟨size, kept, answers, ?_⟩
  intro token inside
  exact probe_of_mask answers (List.getElem?_eq_getElem inside)

end Matchers

namespace Script

/-- A scripted engine fills as many words as the table of a matcher needs. -/
theorem fixedWidth (script : Script) : script.engine.FixedWidth where
  made := by
    intro table text level
    simp [engine, matcher, ScriptedMatcher.words, packWords]
  consumed := by
    intro token matcher
    -- A matcher moves on, stops or fails, and has the same table in the end.
    have same : (matcher.consume token).2.table = matcher.table := by
      simp only [ScriptedMatcher.consume]
      repeat' split
      all_goals rfl
    simp [engine, ScriptedMatcher.words, packWords, same]
  rewound := by
    intro matcher
    simp [engine, ScriptedMatcher.words, packWords]

end Script

namespace Matchers

/-- Two cursors are in use, and restarting the second does not change what the first is told. -/
theorem answers_current_letters :
    ∃ (state : Matchers ScriptedMatcher) (mask : Mask), Used Script.letters.engine state ∧
      (currentMask Script.letters.engine 0 state).answer = .ok mask ∧
      (currentMask Script.letters.engine 0
        (restart Script.letters.engine (some 1) (Script.letter "a") state).state).answer =
          .ok mask := by
  obtain ⟨state, table, used, stock, _⟩ := Script.exists_letters
  have matchers : state.matchers = _ := congrArg Prod.snd stock
  have found : state.matchers[0]? = some (Script.letters.engine.matcher table "regex:a" 1) :=
    congrArg (·[0]?) matchers
  obtain ⟨mask, _, _, answers⟩ := used.answers_current Script.letters.fixedWidth found
  -- The oracle is asked before and after the other cursor is restarted.
  have apart : (some 1 : Option Nat) ≠ some 0 := by decide
  have before := answers state .start
  have after := answers _ (.restarted (Script.letter "a") apart .start)
  exact ⟨state, mask, used, before.2.2.1, after.2.2.1⟩

end Matchers

end ConstrainedDecoding
