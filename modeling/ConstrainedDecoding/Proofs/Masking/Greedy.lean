import ConstrainedDecoding.Proofs.Masking.Applier
import ConstrainedDecoding.Proofs.Session.Cache
import ConstrainedDecoding.Proofs.Session.History

/-! Greedy generation under a grammar, which cannot tell how many candidates are probed. -/

namespace ConstrainedDecoding

variable {σ κ γ : Type}

/-- What greedy generation shows of each step: the token picked, and whether the text may end. -/
inductive Event where
  | picked (token : Nat)
  | mayStop (answer : Bool)
  | failed (fault : Fault)

namespace Applier

/-- The numbers of scores, as they are compared with each other. -/
def numbers : Scores → List Binary64
  | .floats _ values => values
  | .integers values => values.map Binary64.ofInt

/-- The numbers of logits are their values. -/
@[simp] theorem numbers_array (logits : Logits) (values : List Binary64) :
    numbers (logits.array values).scores = values := rfl

/-- The foremost score of each step is picked after masking and reported, until a step fails. -/
def greedy (oracle : Oracle σ κ) (next : List Nat → Logits) :
    Nat → List Nat → Session σ κ × Applier → List Event
  | 0, _, _ => []
  | steps + 1, tokens, state =>
    let logits := next tokens
    let masked := apply oracle (logits.array logits.values) state
    match masked.answer with
    | .error fault => [.failed fault]
    | .ok array =>
      let token := foremost (numbers array.scores)
      let moved := onToken oracle (.int token) masked.state
      match moved.answer with
      | .error fault => [.picked token, .failed fault]
      | .ok () =>
        let asked := canStop oracle moved.state
        match asked.answer with
        | .error fault => [.picked token, .failed fault]
        | .ok answer => .picked token :: .mayStop answer ::
            greedy oracle next steps (tokens ++ [token]) asked.state

/-- Greedy generation by a new session and a new applier of it. -/
def generate (oracle : Oracle σ κ) (world : σ) (grammar : Grammar) (vocabulary : Vocabulary)
    (validates : Bool) (arguments : ApplierArguments) (next : List Nat → Logits) (steps : Nat) :
    Except Fault (List Event) := do
  let session ← Session.create oracle world grammar vocabulary validates []
  let turn := make 0 arguments session
  let applier ← turn.answer
  return greedy oracle next steps [] (turn.state, applier)

section

variable {oracle : Oracle σ κ} {rules : Rules γ} {stands : Standing σ κ γ} {size : Nat}
  {first second : Session σ κ}

/-- Sessions that are alike and not poisoned keep the same foremost score, whatever the depths. -/
theorem apply_agree (answers : oracle.Answers rules stands)
    (consistent : rules.AlwaysConsistent stands size)
    (alike : Session.Alike rules stands size first second) (usable : first.poison = none)
    (one other : Applier) (logits : Logits) :
    let turn := apply oracle (logits.array logits.values) (first, one)
    let rival := apply oracle (logits.array logits.values) (second, other)
    ∃ kept others, turn.answer = .ok (logits.array kept) ∧ rival.answer = .ok (logits.array others) ∧
      foremost kept = foremost others ∧ turn.state.1.poison = none ∧
      Session.Alike rules stands size turn.state.1 rival.state.1 := by
  -- Both outlines have the same mask, whichever of them keeps it.
  obtain ⟨outline, shadow, shown, shadowShown, alike⟩ := alike
  have consistentHere := shown.consistent consistent
  rw [← alike.sized] at consistentHere
  obtain ⟨mask, masked⟩ := Outline.exists_masked (shown.poison.symm.trans usable) alike.faithful
    consistentHere
  have shadowMasked := masked.of_forget alike.same alike.otherFaithful
  obtain ⟨answer, _, after, afterShown, afterMasked, afterSame⟩ :=
    apply_keeps answers masked shown one logits
  obtain ⟨rivalAnswer, _, rival, rivalShown, rivalMasked, rivalSame⟩ :=
    apply_keeps answers shadowMasked shadowShown other logits
  -- What is left to compare is the foremost score, the outlines and their size.
  refine ⟨_, _, answer, rivalAnswer, ?_, afterShown.poison.trans afterMasked.usable, after, rival,
    afterShown, rivalShown, ?_, afterMasked.faithful, rivalMasked.faithful, ?_⟩
  · -- Both refine the scores of all admitted tokens.
    have single := logits.single_eq
    have refines := fun depth =>
      speculated_refines depth mask (.floats logits.precision logits.values)
    simp only [single] at refines
    have real : ∀ score ∈ reference mask.length mask logits.values, score ≠ .nan :=
      fun score member => ne_nan_of_mem_reference member
    rw [(refines one.depth).foremost_eq real, (refines other.depth).foremost_eq real]
  · rw [afterSame, rivalSame, alike.same]
  · rw [← afterMasked.length, masked.length, alike.sized]

/-- A session that is not poisoned stays so by an advance that succeeds. -/
theorem advance_usable (follows : oracle.Follows rules stands)
    (alike : Session.Alike rules stands size first second) (usable : first.poison = none)
    {token : Int} (succeeded : (first.advance oracle token).answer = .ok ()) :
    (first.advance oracle token).state.poison = none := by
  -- Only a failed move poisons a session, and the outline tells whether the move failed.
  obtain ⟨outline, _, shown, _⟩ := alike
  obtain ⟨answer, after⟩ := Session.advance_mirrors follows shown token
  rw [after.poison]
  exact Outline.advance_usable (shown.poison.symm.trans usable) (answer.symm.trans succeeded)

/-- A session that is not poisoned stays so when it is asked whether the text may end. -/
theorem isComplete_usable (answers : oracle.Answers rules stands)
    (alike : Session.Alike rules stands size first second) (usable : first.poison = none) :
    (first.isComplete oracle).state.poison = none := by
  -- A query changes nothing but the mask of the outline, and so not the poison.
  obtain ⟨outline, _, shown, _⟩ := alike
  obtain ⟨_, after⟩ := Session.isComplete_mirrors answers shown
  have same : (outline.perform rules .isComplete).state.forget = outline.forget :=
    Outline.forget_query rfl
  have poison := congrArg Outline.poison same
  exact after.poison.trans (poison.trans (shown.poison.symm.trans usable))

/-- Sessions that are alike and not poisoned generate the same, whatever the depths. -/
theorem greedy_agree (follows : oracle.Follows rules stands)
    (consistent : rules.AlwaysConsistent stands size)
    (next : List Nat → Logits) (steps : Nat) (tokens : List Nat)
    (alike : Session.Alike rules stands size first second) (usable : first.poison = none)
    (one other : Applier) :
    greedy oracle next steps tokens (first, one) =
      greedy oracle next steps tokens (second, other) := by
  -- Masking, moving and asking each leave the sessions alike, so the induction is on the steps.
  induction steps generalizing tokens first second one other with
  | zero => rfl
  | succ steps ih =>
    -- Both pick the same token, since what they keep has the same foremost position.
    obtain ⟨kept, others, answer, rivalAnswer, same, usable, alike⟩ :=
      apply_agree follows.toAnswers consistent alike usable one other (next tokens)
    obtain ⟨movedAnswer, moved⟩ := alike.advance follows consistent (foremost kept)
    obtain ⟨askedAnswer, asked⟩ := moved.isComplete follows consistent
    simp only [greedy, answer, rivalAnswer, numbers_array, ← same, onToken, Live.toInt, canStop,
      ← movedAnswer, ← askedAnswer]
    -- The token is the same, so both are rejected, or both may or may not stop after it.
    split
    · rfl
    · rename_i succeeded
      have movedUsable := advance_usable follows alike usable succeeded
      have askedUsable := isComplete_usable follows.toAnswers moved movedUsable
      rw [ih (tokens ++ [foremost kept]) asked askedUsable]

/-- A session that nobody owns takes an applier of any depth of at least one. -/
theorem make_of_free {session : Session σ κ} (free : session.owner = none) (number : Nat)
    (options : Option ApplierOptions) (debug : Json) {depth : Nat} (positive : 1 ≤ depth) :
    ∃ applier, make number ⟨options, .int depth, debug⟩ session =
      ⟨.ok applier, { session with owner := some (.applier number) }⟩ := by
  -- The depth passes its check, and the session can be claimed.
  have valid : 1 ≤ (depth : Int) := by omega
  simp [make, ApplierOptions.override, ApplierOptions.make, Json.isNull, valid, Session.claim, free,
    Except.map]

/--
Greedy generation does not depend on how many candidates are probed.

Two new sessions, in whatever worlds, generate the same tokens, may stop at the same steps and
fail at the same step for the same reason.
-/
theorem generate_depth {start : Grammar → Except Fault γ} (follows : oracle.Follows rules stands)
    (opens : oracle.Opens start stands) (grammar : Grammar) (vocabulary : Vocabulary)
    (consistent : ∀ {size}, vocabulary.count = .ok size → rules.AlwaysConsistent stands size)
    (validates : Bool) (options : Option ApplierOptions) (debug : Json) {one other : Nat}
    (positive : 1 ≤ one) (otherPositive : 1 ≤ other) (next : List Nat → Logits) (steps : Nat)
    (world elsewhere : σ) :
    generate oracle world grammar vocabulary validates ⟨options, .int one, debug⟩ next steps =
      generate oracle elsewhere grammar vocabulary validates ⟨options, .int other, debug⟩ next
        steps := by
  have opened := Session.create_opens opens world grammar vocabulary validates []
  have otherOpened := Session.create_opens opens elsewhere grammar vocabulary validates []
  simp only [generate, Bind.bind, Except.bind, Pure.pure, Except.pure]
  -- Neither session is created, or both are at the start of the grammar.
  cases started : start grammar with
  | error fault =>
    simp only [started] at opened otherOpened
    simp only [opened, otherOpened]
  | ok state =>
    cases counted : vocabulary.count with
    | error fault =>
      simp only [started, counted] at opened otherOpened
      simp only [opened, otherOpened]
    | ok size =>
      simp only [started, counted] at opened otherOpened
      -- Each session is free, so both appliers are made and own their sessions.
      obtain ⟨session, created, free, shown⟩ := opened
      obtain ⟨rival, rivalCreated, rivalFree, rivalShown⟩ := otherOpened
      obtain ⟨applier, made⟩ := make_of_free free 0 options debug positive
      obtain ⟨rivalApplier, rivalMade⟩ := make_of_free rivalFree 0 options debug otherPositive
      simp only [created, rivalCreated, made, rivalMade]
      have alike : Session.Alike rules stands size
          { session with owner := some (.applier 0) } { rival with owner := some (.applier 0) } :=
        Session.Alike.of_shows (shown.owner _) (rivalShown.owner _) (Outline.faithful_of_none rfl)
      rw [greedy_agree follows (consistent counted) next steps [] alike shown.poison]

end

/-- Along the pairs, the first candidate alone gives the same as all five. -/
theorem generate_depth_pairs :
    generate Automata.alternating.oracle () Automata.alternatingGrammar
      Automata.alternatingVocabulary true ⟨none, .int 1, .null⟩ (fun _ => Logits.mixed) 4 =
    generate Automata.alternating.oracle () Automata.alternatingGrammar
      Automata.alternatingVocabulary true ⟨none, .int 5, .null⟩ (fun _ => Logits.mixed) 4 := by
  -- The automaton answers by the place alone, whatever is done with it.
  have worldless := Automata.alternating_worldless
  have consistent : ∀ {size}, Automata.alternatingVocabulary.count = .ok size →
      (Automata.alternating.oracle.rulesIn ()).AlwaysConsistent
        (Oracle.standsAnywhere Place.IsInside : Standing Unit Place Place) size := by
    intro size counted
    obtain rfl := Except.ok.inj counted
    exact Automata.alternating.consistent
  exact generate_depth (worldless.follows ()) (worldless.opens ()) _ _ consistent
    true none .null (by decide) (by decide) (fun _ => Logits.mixed) 4 () ()

end Applier

end ConstrainedDecoding
