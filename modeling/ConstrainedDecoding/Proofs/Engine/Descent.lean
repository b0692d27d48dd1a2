import ConstrainedDecoding.Engine.Matchers
import ConstrainedDecoding.Engine.Scripted
import ConstrainedDecoding.Proofs.Json.Rendered
import ConstrainedDecoding.Proofs.Session.Invariant

/-! Which grammar the matcher of a cursor was made for, whatever became of it since. -/

namespace ConstrainedDecoding

variable {μ α : Type}

/-- A text equals nothing but itself. -/
theorem Json.eq_of_same_str {text : Text} {other : Json} (same : (str text).same other = true) :
    other = str text := by
  cases other with
  | str value =>
    simp only [Json.same, decide_eq_true_eq] at same
    rw [same]
  | _ => simp [Json.same, number?] at same

/-- Nor does the value that stands for none. -/
theorem Json.eq_of_same_null {other : Json} (same : null.same other = true) : other = null := by
  cases other with
  | null => rfl
  | _ => simp [Json.same, number?] at same

namespace Grammar

/-- A pattern or a source, with or without a start rule, and all of them texts. -/
def isPlain : Grammar → Bool
  | regex (.str _) => true
  | lark (.str _) .null => true
  | lark (.str _) (.str _) => true
  | _ => false

/-- Plain descriptions equal nothing but themselves. -/
theorem eq_of_same {grammar other : Grammar} (plain : grammar.isPlain = true)
    (same : grammar.same other = true) : other = grammar := by
  -- Equal descriptions are of one kind and have equal parts, and these are texts or none.
  unfold isPlain at plain
  split at plain
  · cases other <;> simp only [Grammar.same, Bool.false_eq_true] at same
    rw [Json.eq_of_same_str same]
  · cases other <;> simp only [Grammar.same, Bool.false_eq_true, Bool.and_eq_true] at same
    rw [Json.eq_of_same_str same.1, Json.eq_of_same_null same.2]
  · cases other <;> simp only [Grammar.same, Bool.false_eq_true, Bool.and_eq_true] at same
    rw [Json.eq_of_same_str same.1, Json.eq_of_same_str same.2]
  · cases plain

end Grammar

namespace Engine

/-- A matcher was made for an engine text, and has only taken tokens and been rewound since. -/
inductive BuiltFrom (engine : Engine μ) (text : Text) : μ → Prop where
  | made (table : ByteTable) (level : Int) : BuiltFrom engine text (engine.matcher table text level)
  | consumed {matcher : μ} (token : Int) : BuiltFrom engine text matcher →
      BuiltFrom engine text (engine.consume token matcher).2
  | rewound {matcher : μ} : BuiltFrom engine text matcher →
      BuiltFrom engine text (engine.rewind matcher)

/-- A matcher has just been made for an engine text, and there was no error. -/
structure IsNew (engine : Engine μ) (text : Text) (matcher : μ) : Prop where
  made : ∃ table level, matcher = engine.matcher table text level
  sound : (engine.error matcher).isEmpty = true

/-- A matcher that has just been made was made for its text. -/
theorem IsNew.builtFrom {engine : Engine μ} {text : Text} {matcher : μ}
    (new : engine.IsNew text matcher) : engine.BuiltFrom text matcher := by
  obtain ⟨table, level, rfl⟩ := new.made
  exact .made table level

end Engine

namespace Matchers

/-- The engine's text of a grammar is a certain one, whatever the state. -/
def Serializes (engine : Engine μ) (grammar : Grammar) (text : Text) : Prop :=
  ∀ state : Matchers μ, (serialize engine grammar state).answer = .ok text

/-- What tells which grammars the cursors follow: the one compiled last, and the matchers. -/
def stock (state : Matchers μ) : Option Grammar × List μ :=
  (state.remembered, state.matchers)

variable {engine : Engine μ} {state : Matchers μ} {grammar : Grammar}

/-- The text of a grammar depends on the grammar only. -/
theorem serialize_answer (engine : Engine μ) (grammar : Grammar) (state other : Matchers μ) :
    (serialize engine grammar state).answer = (serialize engine grammar other).answer := by
  simp only [serialize]
  split <;> rfl

/-- The texts of grammars are unique. -/
theorem Serializes.unique {text other : Text} (serializes : Serializes engine grammar text)
    (serializesToo : Serializes engine grammar other) (state : Matchers μ) : text = other :=
  Except.ok.inj ((serializes state).symm.trans (serializesToo state))

/-- Serializing leaves nothing but a note. -/
theorem serialize_state (engine : Engine μ) (grammar : Grammar) (state : Matchers μ) :
    ∃ asked, (serialize engine grammar state).state = { state with asked } := by
  simp only [serialize]
  split <;> exact ⟨_, rfl⟩

/-- A matcher that is built is a new one, and it is not yet in stock. -/
theorem build_new {text : Text} {matcher : μ}
    (built : (build engine text state).answer = .ok matcher) : engine.IsNew text matcher := by
  simp only [build] at built
  -- There is a matcher only if the text is valid, a log level is known and no error arose.
  split at built
  · cases built
  · split at built
    · cases built
    · split at built
      · cases built
      · rename_i sound
        cases built
        exact ⟨⟨_, _, rfl⟩, by simpa using sound⟩

/-- Building leaves the stock as it is. -/
theorem build_stock (engine : Engine μ) (text : Text) (state : Matchers μ) :
    (build engine text state).state.stock = state.stock := by
  simp only [build]
  repeat' split
  all_goals rfl

/-- Compiling adds a new matcher for the text of the grammar, or it changes nothing. -/
theorem compile_cases (engine : Engine μ) (grammar : Grammar) (state : Matchers μ) :
    (∃ fault, (compile engine grammar state).answer = .error fault ∧
      (compile engine grammar state).state.stock = state.stock) ∨
    ∃ text matcher, (compile engine grammar state).answer = .ok state.matchers.length ∧
      (compile engine grammar state).state.stock = (some grammar, state.matchers ++ [matcher]) ∧
      Serializes engine grammar text ∧ engine.IsNew text matcher := by
  have serialized : (serialize engine grammar state).state.stock = state.stock := by
    obtain ⟨asked, noted⟩ := serialize_state engine grammar state
    rw [noted]
    rfl
  simp only [compile]
  split
  · exact .inl ⟨_, rfl, serialized⟩
  · rename_i text answer
    have built := build_stock engine text (serialize engine grammar state).state
    split
    · exact .inl ⟨_, rfl, built.trans serialized⟩
    · rename_i matcher new
      -- The new cursor is the first one that there was no matcher for.
      have stock := congrArg Prod.snd (built.trans serialized)
      have matchers : (build engine text (serialize engine grammar state).state).state.matchers =
        state.matchers := stock
      refine .inr ⟨text, matcher, by rw [matchers], ?_, ?_, build_new new⟩
      · simp only [Matchers.stock, matchers]
      · exact fun other => (serialize_answer engine grammar other state).trans answer

/-- Reading a mask leaves the stock as it is. -/
theorem currentMask_stock (engine : Engine μ) (cursor : Nat) (state : Matchers μ) :
    (currentMask engine cursor state).state.stock = state.stock := by
  simp only [currentMask]
  repeat' split
  all_goals rfl

/-- A transition moves the matcher of its cursor, whether it succeeds or not. -/
theorem transition_stock (engine : Engine μ) (cursor : Nat) (token : Int) (state : Matchers μ) :
    (state.matchers[cursor]? = none ∧
      (transition engine cursor token state).state.stock = state.stock) ∨
    ∃ matcher, state.matchers[cursor]? = some matcher ∧
      (transition engine cursor token state).state.stock =
        (state.remembered, state.matchers.set cursor (engine.consume token matcher).2) := by
  -- Only a cursor without a matcher leaves the stock alone.
  cases found : state.matchers[cursor]? with
  | none =>
    refine .inl ⟨rfl, ?_⟩
    simp only [transition, matcher, found]
    rfl
  | some matcher =>
    refine .inr ⟨matcher, rfl, ?_⟩
    simp only [transition, Matchers.matcher, found]
    split <;> rfl

/-- The cursor of a transition stays the same. -/
theorem transition_held (engine : Engine μ) (cursor : Nat) (token : Int) (state : Matchers μ) :
    (transition engine cursor token state).held cursor = cursor := by
  simp only [transition]
  -- The cursor is given back if the token is taken, and held if it is not.
  split
  · rfl
  · split <;> rfl

/-- A token that the matcher takes moves it on, and outdates the mask that is remembered. -/
theorem transition_of_taken {cursor : Nat} {matcher : μ} {token : Int}
    (found : state.matchers[cursor]? = some matcher)
    (taken : (engine.consume token matcher).1 = true) :
    transition engine cursor token state = ⟨.ok cursor, { state.forget.note .consume with
      matchers := state.matchers.set cursor (engine.consume token matcher).2 }⟩ := by
  simp only [transition, Matchers.matcher, found, taken, Bool.true_or, if_true]

/-- A matcher can be rewound if the grammar equals the one compiled last, and it has no error. -/
theorem reusable?_eq_some_iff {cursor : Option Nat} {next : Nat} {matcher : μ} :
    reusable? engine cursor grammar state = some (next, matcher) ↔
      cursor = some next ∧ state.matchers[next]? = some matcher ∧
        (engine.error matcher).isEmpty = true ∧
        ∃ compiled, state.remembered = some compiled ∧ grammar.same compiled = true := by
  -- All that is looked up has to be found, and both checks have to succeed.
  simp only [reusable?, Option.bind_eq_bind, Option.bind_eq_some_iff, Option.ite_none_right_eq_some,
    Bool.and_eq_true, Option.some.injEq, Prod.mk.injEq]
  constructor
  · rintro ⟨given, rfl, compiled, remembered, found, known, ⟨same, sound⟩, rfl, rfl⟩
    exact ⟨rfl, known, sound, compiled, remembered, same⟩
  · rintro ⟨rfl, known, sound, compiled, remembered, same⟩
    exact ⟨next, rfl, compiled, remembered, matcher, known, ⟨same, sound⟩, rfl, rfl⟩

/-- A matcher that can be rewound is. -/
theorem restart_of_reusable {cursor : Option Nat} {next : Nat} {matcher : μ}
    (found : reusable? engine cursor grammar state.forget = some (next, matcher)) :
    restart engine cursor grammar state = ⟨.ok next, { state.forget.note .rewind with
      matchers := state.matchers.set next (engine.rewind matcher) }⟩ := by
  simp only [restart, found]
  rfl

/-- A session whose matcher can be rewound is reset to the grammar. -/
theorem reset_of_reusable {session : Session (Matchers μ) Nat} {next : Nat} {matcher : μ}
    (found : reusable? engine (some session.cursor) grammar session.world.forget =
      some (next, matcher)) :
    session.reset (oracle engine) (some grammar) = ⟨.ok (), { session with
      world := { session.world.forget.note .rewind with
        matchers := session.world.matchers.set next (engine.rewind matcher) }
      cursor := next, grammar, mask := none, poison := none, steps := 0
      asked := session.asked ++ [.restart] }⟩ := by
  simp only [Session.reset, Session.consult, oracle, Option.getD_some, restart_of_reusable found]

/-- A restart rewinds the matcher of its cursor, or else it compiles the grammar. -/
theorem restart_cases (engine : Engine μ) (cursor : Option Nat) (grammar : Grammar)
    (state : Matchers μ) :
    (∃ next matcher compiled, cursor = some next ∧ state.remembered = some compiled ∧
      grammar.same compiled = true ∧ state.matchers[next]? = some matcher ∧
      (engine.error matcher).isEmpty = true ∧
      (restart engine cursor grammar state).answer = .ok next ∧
      (restart engine cursor grammar state).state.stock =
        (state.remembered, state.matchers.set next (engine.rewind matcher))) ∨
    restart engine cursor grammar state = compile engine grammar state.forget := by
  -- Nothing else is tried once there is a matcher to rewind.
  cases found : reusable? engine cursor grammar state.forget with
  | none =>
    refine .inr ?_
    simp only [restart, found]
  | some entry =>
    obtain ⟨given, known, sound, compiled, remembered, same⟩ := reusable?_eq_some_iff.mp found
    rw [restart_of_reusable found]
    exact .inl ⟨entry.1, entry.2, compiled, given, remembered, same, known, sound, rfl, rfl⟩

/--
The matcher of a cursor was made for the grammar compiled last, which equals a description.

To be equal is not to be the same: numbers in a schema are equal by their values.
-/
def Enforces (engine : Engine μ) (grammar : Grammar) (cursor : Nat) (state : Matchers μ) : Prop :=
  ∃ compiled text matcher, state.remembered = some compiled ∧
    (compiled = grammar ∨ grammar.same compiled = true) ∧ Serializes engine compiled text ∧
    state.matchers[cursor]? = some matcher ∧ engine.BuiltFrom text matcher

/-- What the stock does not change is not changed for its matchers. -/
theorem Enforces.of_stock {cursor : Nat} {after : Matchers μ}
    (enforces : Enforces engine grammar cursor state) (same : after.stock = state.stock) :
    Enforces engine grammar cursor after := by
  obtain ⟨remembered, matchers⟩ := Prod.ext_iff.mp same
  obtain ⟨compiled, text, matcher, last, equal, serializes, found, built⟩ := enforces
  exact ⟨compiled, text, matcher, remembered.trans last, equal, serializes,
    (congrArg (·[cursor]?) matchers).trans found, built⟩

/-- A grammar that was compiled is enforced by the new cursor. -/
theorem compile_enforces {cursor : Nat}
    (compiled : (compile engine grammar state).answer = .ok cursor) :
    Enforces engine grammar cursor (compile engine grammar state).state := by
  rcases compile_cases engine grammar state with ⟨fault, failed, _⟩ | ⟨text, matcher, answer, stock,
    serializes, new⟩
  · simp [failed] at compiled
  · -- The new matcher stands behind all others, and it was made for this grammar.
    obtain rfl := Except.ok.inj (answer.symm.trans compiled)
    obtain ⟨remembered, matchers⟩ := Prod.ext_iff.mp stock
    refine ⟨grammar, text, matcher, remembered, .inl rfl, serializes, ?_, new.builtFrom⟩
    exact (congrArg (·[state.matchers.length]?) matchers).trans (by simp)

/-- A transition may move the matcher, but does not change what it was made for. -/
theorem Enforces.transition {cursor : Nat} (enforces : Enforces engine grammar cursor state)
    (token : Int) :
    Enforces engine grammar cursor (transition engine cursor token state).state := by
  rcases transition_stock engine cursor token state with ⟨_, same⟩ | ⟨moving, found, stock⟩
  · exact enforces.of_stock same
  · -- The matcher that moves is the one of the cursor, and moving keeps what it was made for.
    obtain ⟨compiled, text, matcher, last, equal, serializes, known, built⟩ := enforces
    obtain rfl := Option.some.inj (found.symm.trans known)
    obtain ⟨remembered, matchers⟩ := Prod.ext_iff.mp stock
    refine ⟨compiled, text, _, remembered.trans last, equal, serializes, ?_, built.consumed token⟩
    have inside : cursor < state.matchers.length := (List.getElem?_eq_some_iff.mp found).1
    exact (congrArg (·[cursor]?) matchers).trans (by simp [inside])

/-- A restart that succeeds enforces the description, or one that it equals. -/
theorem Enforces.restart {cursor after : Nat} {next : Grammar}
    (enforces : Enforces engine grammar cursor state)
    (restarted : (restart engine (some cursor) next state).answer = .ok after) :
    Enforces engine next after (restart engine (some cursor) next state).state := by
  rcases restart_cases engine (some cursor) next state with ⟨same, rewinding, last, given,
    remembers, equal, found, _, answer, stock⟩ | compiles
  · -- The matcher stays, and so does the grammar that it was made for.
    obtain rfl := Option.some.inj given
    obtain rfl := Except.ok.inj (answer.symm.trans restarted)
    obtain ⟨compiled, text, matcher, remembered, _, serializes, known, built⟩ := enforces
    obtain rfl := Option.some.inj (found.symm.trans known)
    obtain rfl := Option.some.inj (remembers.symm.trans remembered)
    obtain ⟨remembered, matchers⟩ := Prod.ext_iff.mp stock
    refine ⟨last, text, _, remembered.trans remembers, .inr equal, serializes, ?_, built.rewound⟩
    have inside : cursor < state.matchers.length := (List.getElem?_eq_some_iff.mp found).1
    exact (congrArg (·[cursor]?) matchers).trans (by simp [inside])
  · rw [compiles] at restarted ⊢
    exact compile_enforces restarted

/-- A restart that fails leaves the grammar that was enforced. -/
theorem Enforces.failedRestart {cursor : Nat} {next : Grammar} {fault : Fault}
    (enforces : Enforces engine grammar cursor state)
    (failed : (Matchers.restart engine (some cursor) next state).answer = .error fault) :
    Enforces engine grammar cursor (Matchers.restart engine (some cursor) next state).state := by
  rcases restart_cases engine (some cursor) next state with ⟨same, _, _, _, _, _, _, _, answer, _⟩ |
    compiles
  · -- Rewinding never fails, so it was compiling that did, and that leaves the stock.
    simp [answer] at failed
  · rw [compiles] at failed ⊢
    rcases compile_cases engine next state.forget with ⟨_, _, stock⟩ | ⟨text, matcher, answer, _⟩
    · exact enforces.of_stock stock
    · simp [answer] at failed

/-- Whatever the oracle is used for, its cursor enforces the grammar. -/
theorem oracle_keeps (engine : Engine μ) : (oracle engine).Keeps (Enforces engine) where
  compile := compile_enforces
  probe _ _ enforces := enforces.of_stock (currentMask_stock engine _ _)
  mask enforces := enforces.of_stock (currentMask_stock engine _ _)
  -- A transition holds on to its cursor, even if it fails.
  transition _ token enforces := by
    have held := transition_held engine
    simp only [oracle, held]
    exact enforces.transition token
  accepting enforces := enforces
  stopReason enforces := enforces
  restart enforces restarted := enforces.restart restarted
  failedRestart enforces failed := enforces.failedRestart failed

/-- A new oracle has no matchers, and remembers no grammar. -/
theorem make_new {logLevel : Except Fault Int} {vocabulary : Vocabulary}
    (made : make engine logLevel vocabulary = .ok state) :
    state.logLevel = logLevel ∧ state.stock = (none, []) := by
  simp only [make] at made
  -- Of all the outcomes of making an oracle, only the last one is a success.
  split at made
  · cases made
  · simp only [bind, Except.bind] at made
    split at made
    · cases made
    · split at made
      · cases made
      · cases made
        exact ⟨rfl, rfl⟩

/-- A grammar is compiled if the engine finds no fault with it at any stage. -/
theorem compile_eq_ok {text : Text} {level : Int} (serializes : Serializes engine grammar text)
    (valid : (engine.validate state.table text).isEmpty = true)
    (logLevel : state.logLevel = .ok level)
    (sound : (engine.error (engine.matcher state.table text level)).isEmpty = true) :
    ∃ asked, compile engine grammar state = ⟨.ok state.matchers.length, { state with
      asked, cached := none, remembered := some grammar
      matchers := state.matchers ++ [engine.matcher state.table text level] }⟩ := by
  -- None of the checks on the way to a new matcher fails.
  obtain ⟨asked, noted⟩ := serialize_state engine grammar state
  simp only [compile, serializes state, noted, build, note, valid, logLevel, sound, Bool.not_true,
    Bool.false_eq_true, if_false]
  exact ⟨_, rfl⟩

end Matchers

namespace Script

/-- The matchers of a script follow the grammar that they were made for. -/
theorem grammar_of_builtFrom {script : Script} {text : Text} {matcher : ScriptedMatcher}
    (built : script.engine.BuiltFrom text matcher) :
    matcher.grammar = (script.grammars.get? text).getD .barren := by
  induction built with
  | made table level => rfl
  | @consumed matcher token _ ih =>
    rw [← ih]
    -- A matcher moves on, stops or fails, but stays in its grammar.
    simp only [engine, ScriptedMatcher.consume]
    repeat' split
    all_goals rfl
  | rewound _ ih => exact ih

/-- The engine texts of two schemas that are equal, since a truth value counts as a number. -/
def constantTexts : Text × Text :=
  ("json_schema:\x7b\"const\": 1\x7d", "json_schema:\x7b\"const\": true\x7d")

/-- Each of the two schemas admits a token of its own. -/
def constants : Script := ⟨none, [
  (constantTexts.1, ⟨none, [], [], [[(0, 1)], []], [1], false, false⟩),
  (constantTexts.2, ⟨none, [], [], [[(1, 1)], []], [1], false, false⟩)]⟩

/-- The schema of a single value. -/
def constant (value : Json) : Grammar := .jsonSchema [("const", value)]

/-- The tokens of the two schemas. -/
def constantVocabulary : Vocabulary :=
  ⟨[("1", 0), ("true", 1)], [], [], .str "unknown", .none, .null⟩

/-- The engine is given the schema of a value in its canonical form. -/
theorem constant_serializes {value : Json} {canonical text : Text}
    (written : (Json.obj [("const", value)]).canonicalText = .ok canonical)
    (converts : constants.convert "json_schema" canonical = .ok text) :
    Matchers.Serializes constants.engine (constant value) text := by
  intro state
  simp only [Matchers.serialize, constant, Grammar.engineText, written, Bind.bind, Except.bind,
    Pure.pure, Except.pure]
  exact congrArg (Except.mapError Matchers.grammarError) converts

/-- The session that is created with the first of the two schemas. -/
def constantSession (world : Matchers ScriptedMatcher) : Session (Matchers ScriptedMatcher) Nat :=
  .start world 0 (constant (.int 1)) constantVocabulary 2 false []

/-- The session that is created with the first of the two schemas has a matcher for just that. -/
theorem exists_constant_session :
    ∃ world after, Matchers.make constants.engine (.ok 1) constantVocabulary = .ok world ∧
      Session.create (Matchers.oracle constants.engine) world (constant (.int 1))
        constantVocabulary false [] = .ok (constantSession after) ∧
      after.stock =
        (some (constant (.int 1)), [constants.engine.matcher world.table constantTexts.1 1]) := by
  have written : (Json.obj [("const", .int 1)]).canonicalText = .ok "\x7b\"const\": 1\x7d" :=
    Json.canonicalText_eq_ok_iff.mpr ⟨by decide, by cbv⟩
  have serializes : Matchers.Serializes constants.engine (constant (.int 1)) constantTexts.1 :=
    constant_serializes written rfl
  have makes : (Matchers.make constants.engine (.ok 1) constantVocabulary).isOk = true := by decide
  cases made : Matchers.make constants.engine (.ok 1) constantVocabulary with
  | error fault => simp [made, Except.isOk, Except.toBool] at makes
  | ok world =>
    obtain ⟨level, stock⟩ := Matchers.make_new made
    have empty : world.matchers = [] := congrArg Prod.snd stock
    -- The engine finds no fault with the schema, so it is compiled.
    have valid : (constants.engine.validate world.table constantTexts.1).isEmpty = true := rfl
    obtain ⟨asked, compiled⟩ := Matchers.compile_eq_ok serializes valid level rfl
    rw [empty, List.nil_append, List.length_nil] at compiled
    refine ⟨world, _, rfl, Session.create_eq_ok_iff.mpr
      ⟨0, 2, congrArg Turn.answer compiled, rfl, rfl⟩, ?_⟩
    exact congrArg (fun turn => turn.state.stock) compiled

/-- The matcher of the first schema, after its only token. -/
def constantMoved (table : ByteTable) : ScriptedMatcher :=
  { constants.matcher table constantTexts.1 with state := 1 }

/-- The session of the first schema goes on by the token of the schema. -/
theorem advance_constant {table : ByteTable} {after : Matchers ScriptedMatcher}
    (stock : after.stock =
      (some (constant (.int 1)), [constants.engine.matcher table constantTexts.1 1])) :
    ∃ world, world.stock = (some (constant (.int 1)), [constantMoved table]) ∧
      (constantSession after).advance (Matchers.oracle constants.engine) 0 =
        ⟨.ok (), { constantSession after with
          world, steps := 1, asked := [.compile, .transition 0] }⟩ := by
  obtain ⟨remembered, matchers⟩ := Prod.ext_iff.mp stock
  have found : after.matchers[0]? = some (constants.engine.matcher table constantTexts.1 1) :=
    congrArg (·[0]?) matchers
  have consumed : constants.engine.consume 0 (constants.engine.matcher table constantTexts.1 1) =
    (true, constantMoved table) := rfl
  have taken := Matchers.transition_of_taken found (congrArg Prod.fst consumed)
  have only : after.matchers = [constants.engine.matcher table constantTexts.1 1] := matchers
  rw [consumed, only] at taken
  refine ⟨(Matchers.transition constants.engine 0 0 after).state, ?_, ?_⟩
  · rw [taken]
    exact Prod.ext remembered rfl
  · -- Nothing is checked before the transition, and the transition succeeds.
    simp only [Session.advance, Session.refusal?, constantSession, Session.start,
      Session.checkedTransit, Session.transit, Session.consult, Matchers.oracle, taken]
    rfl

/-- A session whose only matcher was made for the first schema is reset to the second one. -/
theorem reset_constant {session : Session (Matchers ScriptedMatcher) Nat}
    {matcher : ScriptedMatcher} (first : session.cursor = 0)
    (stock : session.world.stock = (some (constant (.int 1)), [matcher]))
    (sound : matcher.error.isEmpty = true) :
    let after := (session.reset (Matchers.oracle constants.engine)
      (some (constant (.bool true)))).state
    after.poison = none ∧ after.grammar = constant (.bool true) ∧
      after.world.matchers[after.cursor]? = some (constants.engine.rewind matcher) := by
  obtain ⟨remembered, matchers⟩ := Prod.ext_iff.mp stock
  have only : session.world.matchers = [matcher] := matchers
  -- The second schema equals the first, so the matcher is rewound.
  have found : Matchers.reusable? constants.engine (some session.cursor) (constant (.bool true))
      session.world.forget = some (0, matcher) :=
    Matchers.reusable?_eq_some_iff.mpr
      ⟨congrArg some first, congrArg (·[0]?) only, sound, _, remembered, by decide⟩
  rw [Matchers.reset_of_reusable found]
  exact ⟨rfl, rfl, by rw [only]; rfl⟩

end Script

namespace Matchers

/--
The grammar that a session enforces equals the one that it reports.

The two are the same if the session reports a pattern or a source. Of two schemas that are equal,
but not the same, it may enforce the other one.
-/
theorem enforced_equals_reported {engine : Engine μ} {session : Session (Matchers μ) Nat}
    (reachable : Session.Reachable (oracle engine) session) :
    ∃ compiled text matcher,
      (compiled = session.grammar ∨
        session.grammar.isPlain = false ∧ session.grammar.same compiled = true) ∧
      Serializes engine compiled text ∧
      session.world.matchers[session.cursor]? = some matcher ∧ engine.BuiltFrom text matcher := by
  obtain ⟨compiled, text, matcher, _, equal, serializes, found, built⟩ :=
    reachable.upholds (oracle_keeps engine)
  refine ⟨compiled, text, matcher, ?_, serializes, found, built⟩
  -- Descriptions that consist of texts equal nothing but themselves.
  rcases equal with same | equal
  · exact .inl same
  · cases plain : session.grammar.isPlain with
    | true => exact .inl (Grammar.eq_of_same plain equal)
    | false => exact .inr ⟨rfl, equal⟩

/-- After a token and a reset to the second of the two schemas, a session enforces one of them. -/
theorem enforced_equals_reported_constant :
    ∃ session : Session (Matchers ScriptedMatcher) Nat,
      Session.Reachable (oracle Script.constants.engine) session ∧
      let moved := (session.perform (oracle Script.constants.engine) (.advance 0)).state
      let after := (moved.perform (oracle Script.constants.engine)
        (.reset (some (Script.constant (.bool true))))).state
      moved.steps = 1 ∧ after.poison = none ∧ after.grammar = Script.constant (.bool true) ∧
      ∃ compiled text matcher,
        (compiled = after.grammar ∨
          after.grammar.isPlain = false ∧ after.grammar.same compiled = true) ∧
        Serializes Script.constants.engine compiled text ∧
        after.world.matchers[after.cursor]? = some matcher ∧
        Script.constants.engine.BuiltFrom text matcher := by
  obtain ⟨_, start, _, created, stock⟩ := Script.exists_constant_session
  have reachable := Session.Reachable.created created
  have enforced := enforced_equals_reported ((reachable.performed (.advance 0)).performed
    (.reset (some (Script.constant (.bool true)))))
  obtain ⟨world, stock, advanced⟩ := Script.advance_constant stock
  -- The session has gone on by a token before it is reset.
  have moved : (Script.constantSession start).perform (oracle Script.constants.engine)
      (.advance 0) = ⟨.ok .done, _⟩ := congrArg (fun turn => turn.reply fun _ => .done) advanced
  rw [moved] at enforced
  obtain ⟨usable, reported, _⟩ := @Script.reset_constant { Script.constantSession start with
    world, steps := 1, asked := [.compile, .transition 0] } _ rfl stock rfl
  refine ⟨_, reachable, ?_⟩
  rw [moved]
  exact ⟨rfl, usable, reported, enforced⟩

end Matchers

namespace Script

/-- After a reset to an equal schema, the matcher is still that of the schema before. -/
theorem reset_to_equal_constant :
    ∃ world session,
      Matchers.make constants.engine (.ok 1) constantVocabulary = .ok world ∧
      Session.create (Matchers.oracle constants.engine) world (constant (.int 1))
        constantVocabulary false [] = .ok session ∧
      let after := (session.reset (Matchers.oracle constants.engine)
        (some (constant (.bool true)))).state
      after.poison = none ∧ after.grammar = constant (.bool true) ∧ ∃ text matcher,
        Matchers.Serializes constants.engine after.grammar text ∧
        after.world.matchers[after.cursor]? = some matcher ∧
        ¬constants.engine.BuiltFrom text matcher := by
  obtain ⟨world, start, made, created, stock⟩ := exists_constant_session
  have written : (Json.obj [("const", .bool true)]).canonicalText =
      .ok "\x7b\"const\": true\x7d" :=
    Json.canonicalText_eq_ok_iff.mpr ⟨by decide, by cbv⟩
  have serializes : Matchers.Serializes constants.engine (constant (.bool true)) constantTexts.2 :=
    constant_serializes written rfl
  obtain ⟨usable, reported, rewound⟩ :=
    @reset_constant (constantSession start) _ rfl stock rfl
  refine ⟨world, _, made, created, usable, reported, constantTexts.2, _, ?_, rewound, ?_⟩
  · rw [reported]
    exact serializes
  · -- It still follows the first schema, which admits the other token.
    intro built
    have edges := congrArg ScriptedGrammar.edges (grammar_of_builtFrom built)
    exact absurd edges (by decide : ¬[[((0 : Int), 1)], []] = [[((1 : Int), 1)], []])

end Script

end ConstrainedDecoding
