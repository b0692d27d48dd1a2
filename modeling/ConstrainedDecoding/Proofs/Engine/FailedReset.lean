import ConstrainedDecoding.Proofs.Engine.Coherence
import ConstrainedDecoding.Proofs.Session.Place
import ConstrainedDecoding.Proofs.Session.Worlds

/-! A reset to a grammar that the engine refuses is undone by a reset to the one before. -/

namespace ConstrainedDecoding

variable {μ : Type}

namespace Matchers

/-- The states of oracles that differ only in how the engine was used so far. -/
def SameButUses (state twin : Matchers μ) : Prop :=
  ∃ asked, twin = { state with asked }

variable {engine : Engine μ} {state twin : Matchers μ} {grammar : Grammar} {fault : Fault}

/-- A transition in terms of what the engine makes of the token. -/
theorem transition_of_found {cursor : Nat} {token : Int} {before : μ}
    (found : state.matchers[cursor]? = some before) :
    transition engine cursor token state =
      ⟨if (engine.consume token before).1 || (token = state.table.eos &&
            engine.accepting (engine.consume token before).2) then .ok cursor
        else .error (.inadmissible (.int token) (some ("llguidance rejected token " ++
          toString token ++ ": " ++ engine.error (engine.consume token before).2))),
        { state.forget.note .consume with
          matchers := state.matchers.set cursor (engine.consume token before).2 }⟩ := by
  -- The token is rejected or not, but the matcher has consumed it in either case.
  by_cases taken : ((engine.consume token before).1 || (token = state.table.eos &&
      engine.accepting (engine.consume token before).2)) = true
  · rw [if_pos taken]
    simp only [transition, matcher, found]
    exact if_pos taken
  · rw [if_neg taken]
    simp only [transition, matcher, found]
    exact if_neg taken

namespace SameButUses

/-- The same grammar is remembered, and the matchers are the same. -/
theorem stock (same : SameButUses state twin) : twin.stock = state.stock := by
  obtain ⟨asked, rfl⟩ := same
  rfl

/-- The engine's text of a grammar is the same. -/
theorem serialize (same : SameButUses state twin) (engine : Engine μ) (grammar : Grammar) :
    (serialize engine grammar state).Agrees SameButUses (serialize engine grammar twin) := by
  obtain ⟨asked, rfl⟩ := same
  -- The text depends on the grammar only, and noting the call is all that is done.
  obtain ⟨noted, first⟩ := serialize_state engine grammar state
  obtain ⟨others, second⟩ := serialize_state engine grammar { state with asked }
  exact ⟨serialize_answer engine grammar _ _, by rw [first, second]; exact ⟨_, rfl⟩⟩

/-- The same matcher is built, or the engine finds the same fault. -/
theorem build (same : SameButUses state twin) (engine : Engine μ) (text : Text) :
    (build engine text state).Agrees SameButUses (build engine text twin) := by
  obtain ⟨asked, rfl⟩ := same
  -- The table and the log level are the same, and nothing else decides.
  cases valid : (engine.validate state.table text).isEmpty with
  | false =>
    simp only [Matchers.build, note, valid, Bool.not_false, if_true]
    exact ⟨rfl, _, rfl⟩
  | true =>
    simp only [Matchers.build, note, valid, Bool.not_true, Bool.false_eq_true, if_false]
    cases state.logLevel with
    | error fault => exact ⟨rfl, _, rfl⟩
    | ok level =>
      cases sound : (engine.error (engine.matcher state.table text level)).isEmpty with
      | false =>
        simp only [sound, Bool.not_false, if_true]
        exact ⟨rfl, _, rfl⟩
      | true =>
        simp only [sound, Bool.not_true, Bool.false_eq_true, if_false]
        exact ⟨rfl, _, rfl⟩

/-- A grammar is compiled alike. -/
theorem compile (same : SameButUses state twin) (engine : Engine μ) (grammar : Grammar) :
    (compile engine grammar state).Agrees SameButUses (compile engine grammar twin) := by
  obtain ⟨answer, serialized⟩ := same.serialize engine grammar
  simp only [Matchers.compile, ← answer]
  split
  · -- Without a text there is nothing to build a matcher from.
    exact ⟨rfl, serialized⟩
  · rename_i text _
    obtain ⟨answer, asked, built⟩ := serialized.build engine text
    simp only [← answer]
    split
    · exact ⟨rfl, asked, built⟩
    · -- The new matcher comes after the same ones as before.
      rw [built]
      exact ⟨rfl, _, rfl⟩

/-- The mask of a cursor is the same. -/
theorem currentMask (same : SameButUses state twin) (engine : Engine μ) (cursor : Nat) :
    (currentMask engine cursor state).Agrees SameButUses (currentMask engine cursor twin) := by
  obtain ⟨asked, rfl⟩ := same
  simp only [Matchers.currentMask, cachedMask?, matcher, note]
  -- Whatever case it is for one of them, it is for the other one.
  repeat' split
  all_goals exact ⟨rfl, _, rfl⟩

/-- The matcher of a cursor goes on alike. -/
theorem transition (same : SameButUses state twin) (engine : Engine μ) (cursor : Nat)
    (token : Int) :
    (transition engine cursor token state).Agrees SameButUses
      (transition engine cursor token twin) := by
  obtain ⟨asked, rfl⟩ := same
  -- Which calls were noted plays no part in finding the matcher and moving it.
  cases found : state.matchers[cursor]? with
  | none =>
    simp only [Matchers.transition, matcher, found]
    exact ⟨rfl, _, rfl⟩
  | some before =>
    have foundToo : ({ state with asked } : Matchers μ).matchers[cursor]? = some before := found
    rw [transition_of_found found, transition_of_found foundToo]
    exact ⟨rfl, _, rfl⟩

/-- It is rewound or replaced alike. -/
theorem restart (same : SameButUses state twin) (engine : Engine μ) (cursor : Option Nat)
    (grammar : Grammar) :
    (restart engine cursor grammar state).Agrees SameButUses
      (restart engine cursor grammar twin) := by
  obtain ⟨asked, rfl⟩ := same
  have same : SameButUses state.forget ({ state with asked } : Matchers μ).forget := ⟨asked, rfl⟩
  have reusable : reusable? engine cursor grammar ({ state with asked } : Matchers μ).forget =
    reusable? engine cursor grammar state.forget := rfl
  simp only [Matchers.restart, reusable]
  -- The same matcher is rewound, unless a new one has to be compiled.
  split
  · exact ⟨rfl, _, rfl⟩
  · exact same.compile engine grammar

end SameButUses

/-- No answer of an oracle depends on how its engine was used before. -/
theorem oracle_blind (engine : Engine μ) : (oracle engine).Blind SameButUses where
  compile grammar same := same.compile engine grammar
  -- A probe reads its answer off the mask, and that is the same for both.
  probe _ cursor token same := by
    obtain ⟨answer, after⟩ := same.currentMask engine cursor
    exact ⟨congrArg (Except.bind · fun mask => elementAt mask token) answer, after⟩
  mask cursor same := same.currentMask engine cursor
  transition _ cursor token same := same.transition engine cursor token
  accepting _ same := by
    obtain ⟨asked, rfl⟩ := same
    exact ⟨rfl, asked, rfl⟩
  stopReason _ same := by
    obtain ⟨asked, rfl⟩ := same
    exact ⟨rfl, asked, rfl⟩
  restart cursor grammar same := same.restart engine cursor grammar

/-- A text that the engine refuses is not compiled. -/
theorem compile_of_invalid {text : Text} (serializes : Serializes engine grammar text)
    (invalid : (engine.validate state.table text).isEmpty = false) :
    ∃ fault, (compile engine grammar state).answer = .error fault := by
  obtain ⟨asked, noted⟩ := serialize_state engine grammar state
  simp only [compile, serializes state, noted, build, note, invalid, Bool.not_false, if_true]
  exact ⟨_, rfl⟩

/-- A grammar that is not compiled leaves nothing but the uses of the engine. -/
theorem compile_failed (failed : (compile engine grammar state).answer = .error fault) :
    SameButUses state (compile engine grammar state).state := by
  obtain ⟨asked, noted⟩ := serialize_state engine grammar state
  simp only [compile, noted] at failed ⊢
  split
  · -- There was no text, so the engine was asked to convert a schema at most.
    exact ⟨asked, rfl⟩
  · rename_i text converted
    obtain ⟨others, built⟩ := build_state engine text { state with asked }
    simp only [converted] at failed
    -- The engine refused the text, since otherwise there would be a new cursor.
    split at failed
    · exact ⟨others, built⟩
    · cases failed

/-- A restart that fails loses nothing but the mask that was remembered. -/
theorem restart_failed {cursor : Option Nat}
    (failed : (restart engine cursor grammar state).answer = .error fault) :
    SameButUses state.forget (restart engine cursor grammar state).state := by
  rcases restart_cases engine cursor grammar state with ⟨_, _, _, _, _, _, _, _, answer, _⟩ |
    compiles
  · -- A matcher that is rewound is no failure.
    rw [answer] at failed
    cases failed
  · rw [compiles] at failed ⊢
    exact compile_failed failed

/--
A reset that fails leaves the grammar, the cursor, the steps and the owner of the session as they
were, and of the oracle what it remembers and all its matchers.

A reset to the session's own grammar after it ends like one in its place, and no request later on is
answered differently.
-/
theorem failed_reset_undone {session : Session (Matchers μ) Nat}
    (failed : (session.reset (oracle engine) (some grammar)).answer = .error fault) :
    let after := (session.reset (oracle engine) (some grammar)).state
    let undone := after.reset (oracle engine) none
    let untried := session.reset (oracle engine) none
    session.SamePlace after ∧ after.world.remembered = session.world.remembered ∧
      after.world.matchers = session.world.matchers ∧
      untried.Agrees (Session.InWorlds SameButUses) undone ∧
      ∀ requests,
        (untried.state.run (oracle engine) requests).1 =
            (undone.state.run (oracle engine) requests).1 ∧
          Session.InWorlds SameButUses (untried.state.run (oracle engine) requests).2
            (undone.state.run (oracle engine) requests).2 := by
  obtain ⟨refused, asked, poison, after⟩ := Session.reset_failed failed
  have lost := restart_failed refused
  have stock := lost.stock
  -- A restart forgets the mask itself, so it ends alike where that is forgotten already.
  have restarted := lost.restart engine (some session.cursor) session.grammar
  have undone : (session.reset (oracle engine) none).Agrees (Session.InWorlds SameButUses)
      ((session.reset (oracle engine) (some grammar)).state.reset (oracle engine) none) := by
    rw [after]
    exact Session.InWorlds.reset_replaces restarted asked none poison
  refine ⟨?_, ?_, ?_, undone, undone.state.run (oracle_blind engine)⟩
  · rw [after]
    exact ⟨rfl, rfl, rfl, rfl⟩
  · rw [after]
    exact congrArg Prod.fst stock
  · rw [after]
    exact congrArg Prod.snd stock

/-- A session cannot be reset to a pattern that its engine does not know, and goes back. -/
theorem failed_reset_undone_unknown :
    ∃ session fault, Session.Reachable (oracle Script.constants.engine) session ∧
      let after := session.reset (oracle Script.constants.engine) (some (Script.letter "c"))
      after.answer = .error fault ∧
        (session.reset (oracle Script.constants.engine) none).Agrees
          (Session.InWorlds SameButUses)
          (after.state.reset (oracle Script.constants.engine) none) := by
  obtain ⟨_, start, _, created, stock⟩ := Script.exists_constant_session
  let session := Script.constantSession start
  have serializes : Serializes Script.constants.engine (Script.letter "c") "regex:c" := fun _ => rfl
  have failed : ∃ fault, (session.reset (oracle Script.constants.engine)
      (some (Script.letter "c"))).answer = .error fault := by
    -- The pattern is not the schema that was compiled last, so it has to be compiled.
    rcases restart_cases Script.constants.engine (some session.cursor) (Script.letter "c")
      session.world with ⟨_, _, compiled, _, remembered, equal, _⟩ | compiles
    · obtain rfl := Option.some.inj (remembered.symm.trans (congrArg Prod.fst stock))
      cases equal
    · have invalid : (Script.constants.engine.validate session.world.forget.table
          "regex:c").isEmpty = false := rfl
      obtain ⟨fault, refused⟩ := compile_of_invalid serializes invalid
      refine ⟨fault, ?_⟩
      simp only [Session.reset, Session.consult, oracle, Option.getD_some, compiles, refused]
  obtain ⟨fault, failed⟩ := failed
  obtain ⟨_, _, _, undone, _⟩ := failed_reset_undone failed
  exact ⟨session, fault, .created created, failed, undone⟩

end Matchers

end ConstrainedDecoding
