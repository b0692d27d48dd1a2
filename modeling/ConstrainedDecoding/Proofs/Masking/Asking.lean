import ConstrainedDecoding.Proofs.Masking.Applier
import ConstrainedDecoding.Proofs.Masking.Outcome
import ConstrainedDecoding.Proofs.Scores.Selection
import ConstrainedDecoding.Proofs.Session.Frugal

/-! What masking asks of an oracle: about the best candidates, and if none is admitted, the mask. -/

namespace ConstrainedDecoding

variable {σ κ : Type} {oracle : Oracle σ κ} {fits : κ → σ → Prop} {session : Session σ κ}

/-- Of candidates, a bare session probes those of its vocabulary, in their order. -/
theorem Session.Bare.run_admits (bare : session.Bare fits)
    (forthcoming : oracle.Forthcoming session.size fits) (candidates : List Candidate) :
    let run := session.run oracle (candidates.map fun candidate => .admits candidate.id)
    run.2.Bare fits ∧ run.2.size = session.size ∧ (∀ fault, .error fault ∉ run.1) ∧
      run.2.asked = session.asked ++
        (candidates.filter (·.id < session.size)).map (.probe ·.id) := by
  induction candidates generalizing session with
  | nil => exact ⟨bare, rfl, by simp [Session.run], (List.append_nil _).symm⟩
  | cons candidate rest ih =>
    obtain ⟨admits, world, stays, asked⟩ := bare.admits forthcoming candidate.id
    have probed : (session.admits oracle candidate.id).state.Bare fits := by
      rw [asked]
      exact ⟨bare.usable, bare.unmasked, stays⟩
    have size : (session.admits oracle candidate.id).state.size = session.size := by rw [asked]
    obtain ⟨last, same, clean, trail⟩ := ih probed (size ▸ forthcoming)
    simp only [List.map_cons, Session.run, Session.perform, Turn.reply]
    refine ⟨last, same.trans size, ?_, ?_⟩
    · simpa [asked, Except.map] using clean
    · -- The first candidate is probed before the others, or it is beyond the vocabulary.
      rw [trail, asked]
      by_cases inside : candidate.id < session.size
      · simp [inside]
      · simp [inside]

namespace Applier

/-- A step is reported without the oracle. -/
theorem report_asked (applier : Applier) (text : String) (session : Session σ κ) :
    (applier.report text session).asked = session.asked := by
  unfold report
  split <;> rfl

/-- Scores of candidates are kept without the oracle. -/
theorem keepCandidates_asked (scores : Scores) (ids : List Nat) (state : Session σ κ × Applier) :
    (keepCandidates scores ids state).state.1.asked = state.1.asked := by
  simp only [keepCandidates]
  split
  · rfl
  · exact report_asked _ _ _

/-- On the path of the full mask, the oracle is asked for what the session asks for its mask. -/
theorem keepMasked_asked (oracle : Oracle σ κ) (scores : Scores) (state : Session σ κ × Applier) :
    (keepMasked oracle scores state).state.1.asked = (state.1.fullMask oracle).state.asked := by
  simp only [keepMasked]
  split
  · rfl
  · -- Whether the scores can be kept by the mask is seen once it is there.
    split
    · rfl
    · exact report_asked _ _ _

/-- A session that asks about no token is left as it is by the probing of candidates. -/
theorem admitted_of_not_bare (oracle : Oracle σ κ)
    (settled : session.poison ≠ none ∨ session.mask ≠ none) (candidates : List Candidate)
    (applier : Applier) :
    (admitted oracle candidates (session, applier)).state.1 = session := by
  -- By induction: each probe leaves the session, so the next one meets the same session.
  induction candidates generalizing applier with
  | nil => rfl
  | cons candidate rest ih =>
    simp only [admitted, Session.admits_of_not_bare settled]
    split
    · rfl
    · exact ih applier.countProbe

/-- Nothing is asked while the session is poisoned, or once it has its mask. -/
theorem apply_of_not_bare (settled : session.poison ≠ none ∨ session.mask ≠ none)
    (applier : Applier) (array : ScoreArray) :
    (apply oracle array (session, applier)).state.1.asked = session.asked := by
  by_cases step : array.IsStep
  · rw [(apply_of_isStep oracle step (session, applier)).2]
    have same := admitted_of_not_bare oracle settled
      (topCandidates applier.countStep.depth array.scores) applier.countStep
    -- Whatever path is taken after the probes, it starts from the same settled session.
    simp only [applyRun]
    split
    · rw [same]
    · rw [keepMasked_asked, same, Session.fullMask_of_not_bare settled]
    · rw [keepCandidates_asked, same]
  · rw [apply_of_not_isStep oracle step]

/-- A bare session probes the candidates, and makes its mask just if none of them is admitted. -/
theorem apply_of_bare (bare : session.Bare fits)
    (forthcoming : oracle.Forthcoming session.size fits) (applier : Applier) {array : ScoreArray}
    (step : array.IsStep) :
    let candidates := topCandidates applier.depth array.scores
    let run := session.run oracle (candidates.map fun candidate => .admits candidate.id)
    ∃ rest, (apply oracle array (session, applier)).state.1.asked = session.asked ++
        (candidates.filter (·.id < session.size)).map (.probe ·.id) ++ rest ∧
      (.ok (.flag true) ∈ run.1 → rest = []) ∧ (.ok (.flag true) ∉ run.1 → rest = [.mask]) := by
  obtain ⟨after, size, clean, trail⟩ :=
    bare.run_admits forthcoming (topCandidates applier.depth array.scores)
  rw [(apply_of_isStep oracle step (session, applier)).2]
  rcases admitted_run oracle (topCandidates applier.depth array.scores)
    (session, applier.countStep) with ⟨fault, _, member⟩ | ⟨ids, found, same, _, none⟩
  · exact absurd member (clean fault)
  · have depth : applier.countStep.depth = applier.depth := rfl
    simp only [applyRun, depth, found]
    -- The mask is made only if none of the candidates is admitted.
    cases ids with
    | nil =>
      obtain ⟨mask, world, _, made⟩ := after.fullMask (size ▸ forthcoming)
      refine ⟨[.mask], ?_, fun admitted => absurd admitted (none.mp rfl), fun _ => rfl⟩
      rw [keepMasked_asked, same, made, trail]
    | cons first others =>
      refine ⟨[], ?_, fun _ => rfl, fun denied => ?_⟩
      · rw [keepCandidates_asked, same, trail, List.append_nil]
      · exact absurd (none.mpr denied) (List.cons_ne_nil first others)

/-- Whatever an applier does with a session leaves one that comes up. -/
structure StaysReachable (oracle : Oracle σ κ) (session : Session σ κ) (applier : Applier) :
    Prop where
  apply : ∀ array, Session.Reachable oracle (apply oracle array (session, applier)).state.1
  onToken : ∀ token, Session.Reachable oracle (onToken oracle token (session, applier)).state.1
  canStop : Session.Reachable oracle (canStop oracle (session, applier)).state.1
  reset : ∀ grammar, Session.Reachable oracle (reset oracle grammar (session, applier)).state.1
  close : Session.Reachable oracle (applier.close session)

/-- Appliers use sessions by nothing but requests, records and releases. -/
theorem stays_reachable (reachable : Session.Reachable oracle session) (applier : Applier) :
    StaysReachable oracle session applier where
  apply := apply_reachable reachable applier
  -- A token that does not convert to an integer is refused before the session is told.
  onToken token := by
    simp only [onToken]
    split
    · exact reachable
    · exact reachable.performed (.advance _)
  canStop := reachable.performed .isComplete
  reset grammar := by
    simp only [reset]
    split
    · exact reachable.performed (.reset grammar)
    · exact reachable.performed (.reset grammar)
  close := reachable.released _

/--
Between two moves, a session asks its oracle for the mask at most once, and for no token after that.

Masking an array asks for nothing where the session is poisoned or has its mask. Otherwise just the
best candidates inside the vocabulary are probed, each of them once and as their scores rank, which
are those of the array in single precision. The mask is asked for just if no candidate is admitted.
All that is asked is in the oracle's log, and appliers leave sessions of which this is true again.
-/
theorem asks_frugally (reachable : Session.Reachable oracle session)
    (forthcoming : oracle.Forthcoming session.size fits) :
    IsFrugal session.asked ∧
    (∀ watched, Session.Watches oracle watched session →
      watched.log.map (·.call) = session.asked) ∧
    ∀ applier : Applier, StaysReachable oracle session applier ∧ ∀ array : ScoreArray,
      let after := (apply oracle array (session, applier)).state.1
      (¬array.IsStep → after = session) ∧
      (session.poison ≠ none ∨ session.mask ≠ none → after.asked = session.asked) ∧
      (session.poison = none → session.mask = none → array.IsStep →
        ∃ ranking rest, Candidate.IsRanking array.scores.single ranking ∧
          let candidates := ranking.take applier.depth
          let run := session.run oracle (candidates.map fun candidate => .admits candidate.id)
          (candidates.map (·.id)).Nodup ∧
          after.asked = session.asked ++
            (candidates.filter (·.id < session.size)).map (.probe ·.id) ++ rest ∧
          (.ok (.flag true) ∈ run.1 → rest = []) ∧
          (.ok (.flag true) ∉ run.1 → rest = [.mask])) := by
  -- Frugality is an invariant of sessions, and masking one more array is looked at by itself.
  have thrifty := reachable.thrifty forthcoming
  refine ⟨thrifty.frugal, ?_, fun applier => ⟨stays_reachable reachable applier, fun array =>
    ⟨?_, fun settled => apply_of_not_bare settled applier array, ?_⟩⟩⟩
  · rintro watched ⟨comes, rfl⟩
    obtain ⟨account, accounted⟩ := comes.accounted
    exact accounted.asked.symm
  · intro idle
    rw [apply_of_not_isStep oracle idle]
  · intro usable unmasked step
    have ranked := Candidate.isRanking_mergeSort array.scores.single
    obtain ⟨rest, asked, path⟩ :=
      apply_of_bare (thrifty.bare usable unmasked) forthcoming applier step
    rw [topCandidates_eq] at asked path
    refine ⟨_, rest, ranked, ?_, asked, path⟩
    rw [List.map_take]
    exact ranked.distinct.sublist (List.take_sublist _ _)

end Applier

/-- At the places inside closed automata, tokens and masks are told. -/
theorem Automata.forthcoming {automata : Automata} (closed : automata.isClosed = true) :
    automata.oracle.Forthcoming automata.size fun place _ => place.IsInside where
  -- A place inside its automaton has edges, and every other field is read off the place.
  probe inside _ _ := by
    obtain ⟨edges, found, _⟩ := inside.edges
    exact ⟨_, by simp only [oracle, found]; rfl, inside⟩
  mask {place world} inside := by
    have stands : Oracle.standsAnywhere Place.IsInside place world place := ⟨rfl, inside⟩
    obtain ⟨mask, made, length, _⟩ := automata.consistent stands
    exact ⟨mask, length, made, inside⟩
  accepting inside := inside
  stopReason inside := inside
  compiled := (worldless closed).compiled
  moved := (worldless closed).moved
  restarted := (worldless closed).restarted

/-- Just the last three of the descending logits rank. -/
theorem Logits.isRanking_descending :
    Candidate.IsRanking (descending.array descending.values).scores.single
      [⟨1, .infinity false⟩, ⟨2, .finite false 0⟩, ⟨3, .finite true 0⟩] := by
  have ranked := Candidate.isRanking_mergeSort descending.values
  have chosen : Candidate.choosable descending.values =
      [⟨1, .infinity false⟩, ⟨2, .finite false 0⟩, ⟨3, .finite true 0⟩] := by decide +kernel
  -- They are in order already, so sorting leaves them where they are.
  rw [chosen, List.mergeSort_of_pairwise (by decide +kernel)] at ranked
  exact descending.single_eq.symm ▸ ranked

/-- The oracle of the pairs is asked about two candidates at the start, and then for the mask, since
it admits neither. After the first token it is asked about the same two and admits one of them. It is
asked for nothing more once the mask is made. -/
theorem Applier.asks_frugally_pairs :
    let start := Automata.alternatingSession false
    let moved := (start.perform Automata.alternating.oracle (.advance 0)).state
    let masked := (start.perform Automata.alternating.oracle .mask).state
    let array := Logits.descending.array Logits.descending.values
    let applier : Applier := ⟨0, 3, .bool false, .zero⟩
    (apply Automata.alternating.oracle array (start, applier)).state.1.asked =
        [.compile, .probe 1, .probe 2, .mask] ∧
      (apply Automata.alternating.oracle array (moved, applier)).state.1.asked =
        [.compile, .transition 0, .probe 1, .probe 2] ∧
      IsFrugal masked.asked ∧ ∀ (applier : Applier) (array : ScoreArray),
        (apply Automata.alternating.oracle array (masked, applier)).state.1.asked =
          [.compile, .mask] := by
  intro start moved masked array applier
  have created : Session.Reachable Automata.alternating.oracle start :=
    .created (Automata.alternating_create false)
  have forthcoming := @Automata.forthcoming Automata.alternating (by decide)
  have step : array.IsStep := ⟨3, rfl⟩
  refine ⟨?_, ?_, ?_⟩
  · obtain ⟨ranking, rest, ranked, _, asked, _, denied⟩ :=
      (((asks_frugally created forthcoming).2.2 applier).2 array).2.2 rfl rfl step
    obtain rfl := ranked.unique Logits.isRanking_descending
    -- None of the three candidates is admitted, and the last one is beyond the vocabulary.
    have refused : Except.ok (.flag true) ∉ (start.run Automata.alternating.oracle
        [.admits 1, .admits 2, .admits 3]).1 := by
      have answers : (start.run Automata.alternating.oracle [.admits 1, .admits 2, .admits 3]).1 =
        List.replicate 3 (.ok (.flag false)) := rfl
      simp [answers]
    rw [asked, denied refused]
    rfl
  · obtain ⟨ranking, rest, ranked, _, asked, admitted, _⟩ :=
      (((asks_frugally (created.performed (.advance 0)) forthcoming).2.2 applier).2 array).2.2
        rfl rfl step
    obtain rfl := ranked.unique Logits.isRanking_descending
    rw [asked, admitted List.mem_cons_self]
    rfl
  · obtain ⟨frugal, _, asks⟩ := asks_frugally (created.performed .mask) forthcoming
    have kept : masked.mask ≠ none := Option.some_ne_none _
    exact ⟨frugal, fun applier array => ((asks applier).2 array).2.1 (.inr kept)⟩

end ConstrainedDecoding
