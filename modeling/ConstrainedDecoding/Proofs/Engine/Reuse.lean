import ConstrainedDecoding.Proofs.Engine.Descent

/-! Where the cursors of one oracle start over, in whatever order they are used. -/

namespace ConstrainedDecoding

variable {μ : Type}

namespace Engine

/-- What an engine takes for the start of a text is where new and rewound matchers are. -/
structure Starts (engine : Engine μ) (atStart : Text → μ → Prop) : Prop where
  new : ∀ {text : Text} {matcher : μ}, engine.IsNew text matcher → atStart text matcher
  rewound : ∀ {text : Text} {matcher : μ}, engine.BuiltFrom text matcher →
    (engine.error matcher).isEmpty = true → atStart text (engine.rewind matcher)

end Engine

namespace Matchers

/-- An oracle, new or used in any order for any of its cursors. -/
inductive Used (engine : Engine μ) : Matchers μ → Prop where
  | made {logLevel : Except Fault Int} {vocabulary : Vocabulary} {state : Matchers μ} :
      make engine logLevel vocabulary = .ok state → Used engine state
  | compiled {state : Matchers μ} (grammar : Grammar) : Used engine state →
      Used engine (compile engine grammar state).state
  | probed {state : Matchers μ} (cursor : Nat) (token : Int) : Used engine state →
      Used engine (probe engine cursor token state).state
  | masked {state : Matchers μ} (cursor : Nat) : Used engine state →
      Used engine (currentMask engine cursor state).state
  | moved {state : Matchers μ} (cursor : Nat) (token : Int) : Used engine state →
      Used engine (transition engine cursor token state).state
  | restarted {state : Matchers μ} (cursor : Option Nat) (grammar : Grammar) : Used engine state →
      Used engine (restart engine cursor grammar state).state

/-- The matcher of each cursor was made for a text of its own, the last one for the grammar
compiled last. -/
structure Lineage (engine : Engine μ) (texts : Nat → Text) (stock : Option Grammar × List μ) :
    Prop where
  built : ∀ {cursor : Nat} {matcher : μ}, stock.2[cursor]? = some matcher →
    engine.BuiltFrom (texts cursor) matcher
  latest : ∀ {grammar : Grammar}, stock.1 = some grammar →
    ∃ cursor, stock.2.length = cursor + 1 ∧ Serializes engine grammar (texts cursor)

variable {engine : Engine μ} {state : Matchers μ} {grammar : Grammar} {texts : Nat → Text}

/-- Moving a matcher on or back leaves it the text that it was made for. -/
theorem Lineage.set {remembered : Option Grammar} {matchers : List μ}
    (lineage : Lineage engine texts (remembered, matchers)) {cursor : Nat} {matcher : μ}
    (built : engine.BuiltFrom (texts cursor) matcher) :
    Lineage engine texts (remembered, matchers.set cursor matcher) where
  built := by
    -- Only the matcher at the cursor has changed, and that one was built as it has to be.
    intro other found known
    simp only [List.getElem?_set] at known
    split at known
    · rename_i same
      split at known
      · obtain rfl := Option.some.inj known
        exact same ▸ built
      · cases known
    · exact lineage.built known
  latest remembers := by
    obtain ⟨cursor, length, serializes⟩ := lineage.latest remembers
    exact ⟨cursor, by rw [List.length_set]; exact length, serializes⟩

/-- A new matcher is the last one, and the grammar that it is for is remembered. -/
theorem Lineage.append {remembered : Option Grammar} {matchers : List μ}
    (lineage : Lineage engine texts (remembered, matchers)) {text : Text} {matcher : μ}
    (serializes : Serializes engine grammar text) (new : engine.IsNew text matcher) :
    Lineage engine (fun cursor => if cursor = matchers.length then text else texts cursor)
      (some grammar, matchers ++ [matcher]) where
  built := by
    intro cursor found known
    by_cases last : cursor = matchers.length
    · subst last
      obtain rfl : matcher = found := by simpa using known
      simpa using new.builtFrom
    · -- Beyond the new matcher there is none, so the cursor is an older one.
      have inside := (List.getElem?_eq_some_iff.mp known).1
      rw [List.length_append, List.length_singleton] at inside
      rw [List.getElem?_append_left (by omega)] at known
      simpa [last] using lineage.built known
  latest remembers := by
    obtain rfl := Option.some.inj remembers
    exact ⟨matchers.length, by simp, by simpa using serializes⟩

/-- Compiling leaves every matcher that there was the text that it was made for. -/
theorem Lineage.compile (lineage : Lineage engine texts state.stock) (grammar : Grammar) :
    ∃ texts, Lineage engine texts (compile engine grammar state).state.stock := by
  -- The new cursor has the text that was compiled, and all older ones have theirs.
  rcases compile_cases engine grammar state with ⟨_, _, stock⟩ | ⟨text, matcher, _, stock,
    serializes, new⟩
  · exact ⟨texts, stock ▸ lineage⟩
  · rw [stock]
    exact ⟨_, lineage.append serializes new⟩

/-- So does restarting, which rewinds a matcher or compiles. -/
theorem Lineage.restart (lineage : Lineage engine texts state.stock) (cursor : Option Nat)
    (grammar : Grammar) :
    ∃ texts, Lineage engine texts (restart engine cursor grammar state).state.stock := by
  rcases restart_cases engine cursor grammar state with ⟨next, matcher, _, _, _, _, found, _, _,
    stock⟩ | compiles
  · rw [stock]
    exact ⟨texts, lineage.set (lineage.built found).rewound⟩
  · rw [compiles]
    -- A mask that is forgotten is not in stock.
    have forgotten : Lineage engine texts state.forget.stock := lineage
    exact forgotten.compile grammar

/-- The matchers of every oracle in use were made for texts, the last for what is remembered. -/
theorem Used.exists_lineage (used : Used engine state) :
    ∃ texts, Lineage engine texts state.stock := by
  -- By induction on the uses: a new cursor has its text from then on, and no other use changes it.
  induction used with
  | made made =>
    refine ⟨fun _ => [], ?_⟩
    rw [(make_new made).2]
    exact ⟨by simp, by simp⟩
  | compiled grammar _ ih =>
    obtain ⟨texts, lineage⟩ := ih
    exact lineage.compile grammar
  | @probed state cursor token _ ih =>
    obtain ⟨texts, lineage⟩ := ih
    have same : (probe engine cursor token state).state.stock = state.stock :=
      currentMask_stock engine cursor state
    exact ⟨texts, same ▸ lineage⟩
  | @masked state cursor _ ih =>
    obtain ⟨texts, lineage⟩ := ih
    exact ⟨texts, currentMask_stock engine cursor state ▸ lineage⟩
  | @moved state cursor token _ ih =>
    obtain ⟨texts, lineage⟩ := ih
    rcases transition_stock engine cursor token state with ⟨_, same⟩ | ⟨matcher, found, stock⟩
    · exact ⟨texts, same ▸ lineage⟩
    · rw [stock]
      exact ⟨texts, lineage.set ((lineage.built found).consumed token)⟩
  | restarted cursor grammar _ ih =>
    obtain ⟨texts, lineage⟩ := ih
    exact lineage.restart cursor grammar

end Matchers

namespace Script

/-- A matcher is in the first state of the grammar of a text, and has not stopped. -/
def AtStart (script : Script) (text : Text) (matcher : ScriptedMatcher) : Prop :=
  matcher.grammar = (script.grammars.get? text).getD .barren ∧ matcher.state = 0 ∧
    matcher.stopped = false

/-- New and rewound matchers of a script are in the first states of their grammars. -/
theorem starts (script : Script) : script.engine.Starts script.AtStart where
  -- A matcher starts where it is made, and rewinding leads back there.
  new := by
    intro text matcher new
    obtain ⟨table, level, rfl⟩ := new.made
    exact ⟨rfl, rfl, rfl⟩
  rewound built _ := ⟨grammar_of_builtFrom built.rewound, rfl, rfl⟩

/-- A pattern of a single letter. -/
def letter (text : Text) : Grammar := .regex (.str text)

/-- Each of two patterns admits its letter. -/
def letters : Script := ⟨none, [
  ("regex:a", ⟨none, [], [], [[(0, 1)], []], [1], false, false⟩),
  ("regex:b", ⟨none, [], [], [[(1, 1)], []], [1], false, false⟩)]⟩

/-- The tokens of the two patterns. -/
def letterVocabulary : Vocabulary :=
  ⟨[("a", 0), ("b", 1)], [], [], .str "unknown", .none, .null⟩

/-- A pattern that is known is compiled, and the oracle gets a matcher more. -/
theorem exists_letter {state : Matchers ScriptedMatcher} (used : Matchers.Used letters.engine state)
    (level : state.logLevel = .ok 1) {text : Text}
    (known : letters.validate ("regex:" ++ text) = [])
    (unbroken : (letters.matcher state.table ("regex:" ++ text)).error = [])
    (serializes : Matchers.Serializes letters.engine (letter text) ("regex:" ++ text)) :
    ∃ after, Matchers.Used letters.engine after ∧ after.logLevel = .ok 1 ∧
      after.table = state.table ∧ after.stock = (some (letter text),
        state.matchers ++ [letters.engine.matcher state.table ("regex:" ++ text) 1]) := by
  -- The engine finds fault with neither the text nor the matcher, so the letter is compiled.
  have valid : (letters.engine.validate state.table ("regex:" ++ text)).isEmpty = true := by
    simp only [engine, known, List.isEmpty_nil]
  have sound : (letters.engine.error (letters.engine.matcher state.table ("regex:" ++ text)
      1)).isEmpty = true := by
    simp only [engine, unbroken, List.isEmpty_nil]
  obtain ⟨asked, compiled⟩ := Matchers.compile_eq_ok serializes valid level sound
  have after := used.compiled (letter text)
  rw [compiled] at after
  exact ⟨_, after, level, rfl, rfl⟩

/-- Of two cursors, for one pattern each, the first can be restarted with the second pattern. -/
theorem exists_letters :
    ∃ state table, Matchers.Used letters.engine state ∧ state.stock = (some (letter "b"),
        [letters.engine.matcher table "regex:a" 1, letters.engine.matcher table "regex:b" 1]) ∧
      Matchers.reusable? letters.engine (some 0) (letter "b") state.forget =
        some (0, letters.engine.matcher table "regex:a" 1) := by
  have makes : (Matchers.make letters.engine (.ok 1) letterVocabulary).isOk = true := by decide
  cases made : Matchers.make letters.engine (.ok 1) letterVocabulary with
  | error fault => simp [made, Except.isOk, Except.toBool] at makes
  | ok world =>
    obtain ⟨level, stock⟩ := Matchers.make_new made
    have empty : world.matchers = [] := congrArg Prod.snd stock
    -- One letter is compiled after the other, so the second one is remembered.
    obtain ⟨first, used, level, table, stock⟩ :=
      exists_letter (.made made) level (rfl : letters.validate ("regex:" ++ "a") = []) rfl
        fun _ => rfl
    have one : first.matchers = _ := congrArg Prod.snd stock
    obtain ⟨second, used, _, _, stock⟩ :=
      exists_letter used level (rfl : letters.validate ("regex:" ++ "b") = []) rfl fun _ => rfl
    rw [one, table, empty] at stock
    obtain ⟨remembered, matchers⟩ := Prod.ext_iff.mp stock
    have found : second.matchers[0]? = _ := congrArg (·[0]?) matchers
    exact ⟨second, world.table, used, stock, Matchers.reusable?_eq_some_iff.mpr
      ⟨rfl, found, rfl, _, remembered, rfl⟩⟩

end Script

namespace Matchers

variable {engine : Engine μ} {state : Matchers μ} {grammar : Grammar}

/--
A restart that returns leaves its cursor at the start of the description's grammar.

The one exception is an older cursor that is restarted with the description compiled last. It goes
back to the start of the grammar that it was made for itself.
-/
theorem restart_atStart {atStart : Text → μ → Prop} (starts : engine.Starts atStart)
    (used : Used engine state) {cursor : Option Nat} {next : Nat} (plain : grammar.isPlain = true)
    (returned : (restart engine cursor grammar state).answer = .ok next) :
    ∃ text matcher, (restart engine cursor grammar state).state.matchers[next]? = some matcher ∧
      atStart text matcher ∧
      (Serializes engine grammar text ∨
        cursor = some next ∧ state.remembered = some grammar ∧ next + 1 < state.matchers.length ∧
          ∃ before, state.matchers[next]? = some before ∧ engine.BuiltFrom text before) := by
  obtain ⟨texts, lineage⟩ := used.exists_lineage
  rcases restart_cases engine cursor grammar state with ⟨place, before, compiled, given, remembers,
    equal, found, sound, answer, stock⟩ | compiles
  · -- The matcher is rewound, to the text that its cursor has had from the beginning.
    obtain rfl := Except.ok.inj (answer.symm.trans returned)
    obtain rfl := Grammar.eq_of_same plain equal
    have built := lineage.built found
    have inside : place < state.matchers.length := (List.getElem?_eq_some_iff.mp found).1
    have matchers : (restart engine cursor compiled state).state.matchers =
      state.matchers.set place (engine.rewind before) := congrArg Prod.snd stock
    refine ⟨texts place, engine.rewind before, by rw [matchers]; simp [inside],
      starts.rewound built sound, ?_⟩
    obtain ⟨latest, length, serializes⟩ := lineage.latest remembers
    have length : state.matchers.length = latest + 1 := length
    by_cases last : place = latest
    · exact .inl (last ▸ serializes)
    · exact .inr ⟨given, remembers, by omega, before, found, built⟩
  · -- A new matcher is at the start of the description's own text.
    rw [compiles] at returned ⊢
    rcases compile_cases engine grammar state.forget with ⟨_, failed, _⟩ | ⟨text, matcher, answer,
      stock, serializes, new⟩
    · simp [failed] at returned
    · obtain rfl := Except.ok.inj (answer.symm.trans returned)
      have matchers : (compile engine grammar state.forget).state.matchers =
        state.forget.matchers ++ [matcher] := congrArg Prod.snd stock
      exact ⟨text, matcher, by rw [matchers]; simp, starts.new new, .inl serializes⟩

/-- The first of two cursors is restarted with the pattern of the second one. -/
theorem restart_atStart_letters :
    ∃ state text matcher, Used Script.letters.engine state ∧
      (restart Script.letters.engine (some 0) (Script.letter "b") state).state.matchers[0]? =
        some matcher ∧ Script.letters.AtStart text matcher := by
  obtain ⟨state, table, used, _, found⟩ := Script.exists_letters
  -- The second letter was compiled last, so the cursor of the first one is given back.
  have returned : (restart Script.letters.engine (some 0) (Script.letter "b") state).answer =
    .ok 0 := by rw [restart_of_reusable found]
  obtain ⟨text, matcher, found, atStart, _⟩ := restart_atStart Script.letters.starts used
    (rfl : (Script.letter "b").isPlain = true) returned
  exact ⟨state, text, matcher, used, found, atStart⟩

/-- It is then at the start of its own pattern, and not of the one that it was restarted with. -/
theorem restart_of_older_cursor :
    ∃ state matcher, Used Script.letters.engine state ∧
      (restart Script.letters.engine (some 0) (Script.letter "b") state).answer = .ok 0 ∧
      (restart Script.letters.engine (some 0) (Script.letter "b") state).state.matchers[0]? =
        some matcher ∧
      ∀ text, Serializes Script.letters.engine (Script.letter "b") text →
        ¬Script.letters.AtStart text matcher := by
  obtain ⟨state, table, used, stock, found⟩ := Script.exists_letters
  have matchers : state.matchers = _ := congrArg Prod.snd stock
  refine ⟨state, Script.letters.engine.rewind (Script.letters.engine.matcher table "regex:a" 1),
    used, ?_⟩
  simp only [restart_of_reusable found, matchers]
  refine ⟨trivial, rfl, ?_⟩
  intro text serializes atStart
  -- The engine has one text for the pattern, and the grammar of that text admits the other letter.
  have same : Serializes Script.letters.engine (Script.letter "b") "regex:b" := fun _ => rfl
  obtain rfl := serializes.unique same state
  have edges := congrArg ScriptedGrammar.edges atStart.1
  exact absurd edges (by decide : ¬[[((0 : Int), 1)], []] = [[((1 : Int), 1)], []])

end Matchers

end ConstrainedDecoding
