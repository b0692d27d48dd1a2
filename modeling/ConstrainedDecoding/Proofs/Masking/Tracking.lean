import ConstrainedDecoding.Proofs.Masking.Simulation
import ConstrainedDecoding.Proofs.Oracle.Automata
import ConstrainedDecoding.Proofs.Session.Accounted

/-! A processor reports every generated token once and in order, whatever fails in between. -/

namespace ConstrainedDecoding

variable {σ κ α : Type}

/-- A session takes some tokens one after the other, which leads it to another one. -/
def Session.Takes (oracle : Oracle σ κ) (tokens : List Int) (session after : Session σ κ) : Prop :=
  session.run oracle (tokens.map .advance) = (List.replicate tokens.length (.ok .done), after)

/-- The ids of one stream, as a batch. -/
def TokenArray.stream (ids : List Int) : TokenArray := ⟨[1, ids.length], ids⟩

namespace Processor

/-- A stream goes on from each of those seen before, or it is the beginning of one. -/
def Fits (seen : List (List Int)) (ids : List Int) : Prop :=
  ∀ other ∈ seen, ids <+: other ∨ other <+: ids

/-- The longest of some streams. -/
def longest : List (List Int) → List Int
  | [] => []
  | ids :: seen => if ids.length ≤ (longest seen).length then longest seen else ids

/-- A new processor of a new session, and what calls, questions and resets make of the two.

The streams are those of the calls since the last reset that succeeded. -/
inductive Driven (oracle : Oracle σ κ) (promptLength : Json) :
    List (List Int) → Session σ κ × Processor → Prop where
  | made {world : σ} {grammar : Grammar} {vocabulary : Vocabulary} {validates : Bool}
      {records : List Record} {session : Session σ κ} {number : Nat}
      {arguments : ApplierArguments} {processor : Processor} :
      Session.create oracle world grammar vocabulary validates records = .ok session →
      (make number arguments promptLength session).answer = .ok processor →
      Driven oracle promptLength [] ((make number arguments promptLength session).state, processor)
  | called {seen : List (List Int)} {state : Session σ κ × Processor} (ids : List Int)
      (array : ScoreArray) : Driven oracle promptLength seen state → Fits seen ids →
      Driven oracle promptLength (ids :: seen) (call oracle (.stream ids) array state).state
  | asked {seen : List (List Int)} {state : Session σ κ × Processor} :
      Driven oracle promptLength seen state →
      Driven oracle promptLength seen (within (Applier.canStop oracle) state).state
  | restarted {seen : List (List Int)} {state : Session σ κ × Processor}
      (grammar : Option Grammar) : Driven oracle promptLength seen state →
      (reset oracle grammar state).answer = .ok () →
      Driven oracle promptLength [] (reset oracle grammar state).state
  | stranded {seen : List (List Int)} {state : Session σ κ × Processor} {fault : Fault}
      (grammar : Option Grammar) : Driven oracle promptLength seen state →
      (reset oracle grammar state).answer = .error fault →
      Driven oracle promptLength seen (reset oracle grammar state).state

/-- The processor with some more tokens counted as reported. -/
def counting (processor : Processor) (count : Nat) : Processor :=
  { processor with index := processor.index + count }

/--
A turn that reports tokens one after the other, up to the first that the session does not take.

Only if it takes them all, the turn goes on to something else.
-/
def Reports (oracle : Oracle σ κ) (tokens : List Int) (state : Session σ κ × Processor)
    (next : Session σ κ × Processor → Turn (Session σ κ × Processor) α)
    (turn : Turn (Session σ κ × Processor) α) : Prop :=
  ∃ done rest session, tokens = done ++ rest ∧ state.1.Takes oracle done session ∧
    match rest with
    | [] => turn = next (session, state.2.counting done.length)
    | token :: _ => ∃ fault, (session.advance oracle token).answer = .error fault ∧
        turn = ⟨.error fault, ((session.advance oracle token).state, state.2.counting done.length)⟩

/-- The account of a session is that of a processor that reported the first of some tokens. -/
structure Tracked (generated : List Int) (account : Account)
    (state : Session (Watched σ) κ × Processor) : Prop where
  accounted : state.1.Accounted false account
  taken : account.taken = generated.take state.2.index
  inside : state.2.index ≤ generated.length

section

variable {oracle : Oracle σ κ} {promptLength : Json} {seen : List (List Int)}
  {state : Session σ κ × Processor}

/-- The longest stream is one of them, if there are any. -/
theorem longest_mem_or_nil (seen : List (List Int)) : longest seen ∈ seen ∨ longest seen = [] := by
  -- Each sequence replaces the longest one before it, or leaves it.
  induction seen with
  | nil => exact .inr rfl
  | cons ids seen ih =>
    simp only [longest]
    split
    · exact ih.imp_left fun member => List.mem_cons_of_mem ids member
    · exact .inl List.mem_cons_self

/-- A beginning stays one if both streams lose their prompt. -/
theorem prefix_drop {ids other : List Int} (begins : ids <+: other) (length : Nat) :
    ids.drop length <+: other.drop length := by
  obtain ⟨rest, rfl⟩ := begins
  rw [List.drop_append]
  exact List.prefix_append _ _

/-- A stream that fits goes on from the longest one, or it is the beginning of that. -/
theorem Fits.longest {ids : List Int} (fits : Fits seen ids) :
    ids <+: longest seen ∨ longest seen <+: ids := by
  rcases longest_mem_or_nil seen with member | nil
  · exact fits _ member
  · exact .inr (nil ▸ List.nil_prefix)

/-- A stream that fits takes the longest one further, or leaves it. -/
theorem Fits.prefix_longest_cons {ids : List Int} (fits : Fits seen ids) :
    ids <+: Processor.longest (ids :: seen) ∧
      Processor.longest seen <+: Processor.longest (ids :: seen) := by
  simp only [Processor.longest]
  split
  · -- Of two streams that go on from each other, the shorter one is the beginning.
    rename_i shorter
    refine ⟨?_, List.prefix_rfl⟩
    rcases fits.longest with begins | goesOn
    · exact begins
    · exact goesOn.eq_of_length_le shorter ▸ List.prefix_rfl
  · rename_i longer
    refine ⟨List.prefix_rfl, ?_⟩
    rcases fits.longest with begins | goesOn
    · exact absurd begins.length_le longer
    · exact goesOn

/-- All streams that a processor was called with are beginnings of the longest one. -/
theorem Driven.prefix_longest (driven : Driven oracle promptLength seen state) :
    ∀ ids ∈ seen, ids <+: longest seen := by
  -- By induction on the calls. Only a call adds a sequence, and a reset begins anew.
  induction driven with
  | made created made => simp
  | called ids array driven fits ih =>
    obtain ⟨begins, goesOn⟩ := fits.prefix_longest_cons
    intro other member
    rcases List.mem_cons.mp member with rfl | member
    · exact begins
    · exact (ih other member).trans goesOn
  | asked driven ih => exact ih
  | restarted grammar driven succeeded ih => simp
  | stranded grammar driven failed ih => exact ih

/-- Masking rows moves neither the prompt nor the index. -/
theorem applyRows_keeps (oracle : Oracle σ κ) (rows : List ScoreArray)
    (state : Session σ κ × Processor) :
    (applyRows oracle rows state).state.2.promptLength = state.2.promptLength ∧
      (applyRows oracle rows state).state.2.index = state.2.index := by
  -- Masking a row leaves all but the applier, whether the next row is masked or not.
  induction rows generalizing state with
  | nil => exact ⟨rfl, rfl⟩
  | cons row rest ih =>
    simp only [applyRows]
    split
    · exact ⟨rfl, rfl⟩
    · exact ih (within (Applier.apply oracle row) state).state

/-- Nor does masking a batch. -/
theorem applyBatch_keeps (oracle : Oracle σ κ) (array : ScoreArray)
    (state : Session σ κ × Processor) :
    (applyBatch oracle array state).state.2.promptLength = state.2.promptLength ∧
      (applyBatch oracle array state).state.2.index = state.2.index := by
  -- Masking is an action of the applier within the processor, made once or for each row.
  simp only [applyBatch]
  split
  · exact ⟨rfl, rfl⟩
  · exact ⟨rfl, rfl⟩
  · exact applyRows_keeps oracle array.rows state

/-- What a processor reports of a stream are the tokens after the prompt. -/
theorem generated_stream {length : Nat} (cut : cut? promptLength = some (length : Int))
    (ids : List Int) :
    generated promptLength (.stream ids) = .ok ((ids.drop length).map .int) := by
  -- A prompt that is longer than the stream leaves nothing, like one that is as long.
  have place : ids.drop (cutPosition ids.length length) = ids.drop length := by
    rw [cutPosition, if_neg (by omega), Int.toNat_natCast, Nat.min_def]
    split
    · rfl
    · rw [List.drop_length, List.drop_eq_nil_of_le (by omega)]
  simp [generated, TokenArray.stream, cut, place]

/-- Some tokens are taken if the first one is, and then the others. -/
theorem takes_cons_iff {session after : Session σ κ} {token : Int} {rest : List Int} :
    session.Takes oracle (token :: rest) after ↔
      (session.advance oracle token).answer = .ok () ∧
        (session.advance oracle token).state.Takes oracle rest after := by
  simp only [Session.Takes, List.map_cons, Session.run, Session.perform, Turn.reply,
    List.length_cons, List.replicate_succ, Prod.ext_iff]
  -- An advance that succeeds has but one reply.
  cases (session.advance oracle token).answer with
  | error fault => simp [Except.map]
  | ok done => simp [Except.map]

/-- Tokens are reported up to the first that the session does not take. -/
theorem report_reports (oracle : Oracle σ κ) (tokens : List Int)
    (state : Session σ κ × Processor) :
    Reports oracle tokens state (⟨.ok (), ·⟩) (report oracle (tokens.map .int) state) := by
  induction tokens generalizing state with
  | nil => exact ⟨[], [], state.1, rfl, rfl, rfl⟩
  | cons token rest ih =>
    obtain ⟨session, processor⟩ := state
    simp only [List.map_cons, report, Applier.onToken, Live.toInt]
    cases moved : (session.advance oracle token).answer with
    | error fault => exact ⟨[], token :: rest, session, rfl, rfl, fault, moved, rfl⟩
    | ok done =>
      -- The token is the first of those that are taken.
      obtain ⟨done, left, last, split, takes, ends⟩ :=
        ih ((session.advance oracle token).state, processor.counting 1)
      have counted : (processor.counting 1).counting done.length =
          processor.counting (token :: done).length := by
        simp only [counting, List.length_cons]
        congr 1
        omega
      rw [counted] at ends
      exact ⟨token :: done, left, last, by rw [split, List.cons_append],
        takes_cons_iff.mpr ⟨moved, takes⟩, ends⟩

/-- A call reports the tokens after the prompt that are new, and only then masks the scores. -/
theorem call_reports (oracle : Oracle σ κ) {length : Nat}
    (cut : cut? state.2.promptLength = some (length : Int)) (ids : List Int) (array : ScoreArray) :
    Reports oracle ((ids.drop length).drop state.2.index) state (applyBatch oracle array)
      (call oracle (.stream ids) array state) := by
  have tracks : state.2.promptLength.isNull = false := by
    cases prompt : state.2.promptLength with
    | null => simp [prompt, cut?] at cut
    | _ => rfl
  obtain ⟨done, rest, session, split, takes, ends⟩ :=
    report_reports oracle ((ids.drop length).drop state.2.index) state
  refine ⟨done, rest, session, split, takes, ?_⟩
  rw [List.map_drop] at ends
  simp only [call, sync, tracks, generated_stream cut]
  -- The batch is masked only if all tokens were taken.
  cases rest with
  | nil =>
    simp only [ends]
    rfl
  | cons token rest =>
    obtain ⟨fault, refused, ends⟩ := ends
    refine ⟨fault, refused, ?_⟩
    simp only [ends]
    rfl

/-- The length of the prompt stays what it was given as. -/
theorem Driven.promptLength_eq {length : Nat} (cut : cut? promptLength = some (length : Int))
    (driven : Driven oracle promptLength seen state) : state.2.promptLength = promptLength := by
  induction driven with
  | @made _ _ _ _ _ session number arguments processor created made =>
    simp only [make] at made
    cases inner : (Applier.make number arguments session).answer with
    | error fault => simp [inner, Except.map] at made
    | ok applier =>
      simp only [inner, Except.map, Except.ok.injEq] at made
      rw [← made]
  | @called seen state ids array driven fits ih =>
    -- The tokens are counted, and then the applier masks, or it does not.
    obtain ⟨done, rest, session, _, _, ends⟩ := call_reports oracle (ih ▸ cut) ids array
    cases rest with
    | nil => rw [ends, (applyBatch_keeps oracle array _).1]; exact ih
    | cons token rest =>
      obtain ⟨fault, _, ends⟩ := ends
      rw [ends]
      exact ih
  | asked driven ih => exact ih
  | restarted grammar driven succeeded ih =>
    simp only [reset]
    split <;> exact ih
  | stranded grammar driven failed ih =>
    simp only [reset]
    split <;> exact ih

/-- Answers do not depend on the log, so it makes no difference to what uses the session. -/
theorem watched_simulation (oracle : Oracle σ κ) :
    Simulation oracle oracle.watched (fun _ => True) fun session watched =>
      watched.unwatched = session where
  queries _ _ := trivial
  perform := by
    -- A log beside the oracle has no influence on what the oracle answers.
    rintro _ watched request rfl _
    rw [Session.perform_unwatched]
    exact ⟨rfl, rfl⟩
  noted := by
    rintro _ watched records rfl
    rfl

/-- A processor is made alike, with a log or without one. -/
theorem make_unwatched (number : Nat) (arguments : ApplierArguments) (promptLength : Json)
    (session : Session (Watched σ) κ) :
    make number arguments promptLength session.unwatched =
      (make number arguments promptLength session).unwatched := by
  have size : session.unwatched.size = session.size := rfl
  simp only [make, Applier.make, Session.claim_unwatched, size, Turn.unwatched]
  split <;> rfl

/-- Every processor in use could as well be one whose session is watched. -/
theorem Driven.exists_watched (driven : Driven oracle promptLength seen state) :
    ∃ watched, Driven oracle.watched promptLength seen watched ∧
      Beside (fun session watched => watched.unwatched = session) state watched := by
  have simulation := watched_simulation oracle
  -- Whatever is done with the one is done with the other, too.
  induction driven with
  | @made _ _ _ _ _ _ number arguments processor created made =>
    obtain ⟨session, watching, rfl⟩ := Session.exists_create_watched created
    rw [make_unwatched] at made ⊢
    exact ⟨_, .made watching made, rfl, rfl⟩
  | called ids array driven fits ih =>
    obtain ⟨watched, driven, same⟩ := ih
    exact ⟨_, .called ids array driven fits,
      (call_matches simulation (fun _ => trivial) same _ array).state⟩
  | asked driven ih =>
    obtain ⟨watched, driven, same⟩ := ih
    exact ⟨_, .asked driven, (within_matches (Applier.canStop_matches simulation) same).state⟩
  | restarted grammar driven succeeded ih =>
    obtain ⟨watched, driven, same⟩ := ih
    obtain ⟨answer, after⟩ := reset_matches simulation (trivial : True) same
    exact ⟨_, .restarted grammar driven (answer ▸ succeeded), after⟩
  | stranded grammar driven failed ih =>
    obtain ⟨watched, driven, same⟩ := ih
    obtain ⟨answer, after⟩ := reset_matches simulation (trivial : True) same
    exact ⟨_, .stranded grammar driven (answer ▸ failed), after⟩

end

section

variable {oracle : Oracle σ κ} {promptLength : Json} {seen : List (List Int)} {account : Account}
  {generated : List Int} {session after : Session (Watched σ) κ} {processor : Processor}
  {state : Session (Watched σ) κ × Processor}

/-- The index counts the steps of the session. -/
theorem Tracked.index_eq_steps (tracked : Tracked generated account state) :
    state.2.index = state.1.steps := by
  rw [tracked.accounted.steps, tracked.taken, List.length_take, Nat.min_eq_left tracked.inside]

/-- Nothing is lost of what was reported when the stream goes on. -/
theorem Tracked.extend (tracked : Tracked generated account state) {more : List Int}
    (goesOn : generated <+: more) : Tracked more account state where
  accounted := tracked.accounted
  taken := by
    -- What was taken lies inside the old tokens, which the new ones begin with.
    obtain ⟨rest, rfl⟩ := goesOn
    rw [tracked.taken, List.take_append_of_le_length tracked.inside]
  inside := Nat.le_trans tracked.inside goesOn.length_le

/-- Tokens that are taken are entered. -/
theorem accounted_takes {tokens : List Int} (accounted : Session.Accounted false account session)
    (takes : session.Takes oracle.watched tokens after) :
    Session.Accounted false { account with taken := account.taken ++ tokens } after := by
  -- By induction on the tokens, each of which is taken by an advance that succeeds.
  induction tokens generalizing session account with
  | nil =>
    cases takes
    simpa using accounted
  | cons token rest ih =>
    obtain ⟨moved, takes⟩ := takes_cons_iff.mp takes
    simpa using ih (accounted.advance_ok moved) takes

/-- The index moves past the tokens that are taken. -/
theorem Tracked.takes (tracked : Tracked generated account (session, processor))
    {done : List Int} (next : done <+: generated.drop processor.index)
    (takes : session.Takes oracle.watched done after) :
    Tracked generated { account with taken := account.taken ++ done }
      (after, processor.counting done.length) where
  accounted := accounted_takes tracked.accounted takes
  taken := by
    -- What is taken now follows right behind what was taken before.
    have first := List.prefix_iff_eq_take.mp next
    simp only [counting, List.take_add, ← first]
    rw [tracked.taken]
  inside := by
    have bound := next.length_le
    have inside := tracked.inside
    simp only [counting, List.length_drop] at *
    omega

/-- A processor stays on track as long as its index and the account do. -/
theorem Tracked.of_accounted (tracked : Tracked generated account state)
    {later : Session (Watched σ) κ × Processor}
    (accounted : Session.Accounted false account later.1)
    (same : later.2.index = state.2.index) : Tracked generated account later where
  accounted
  taken := by rw [same, tracked.taken]
  inside := same ▸ tracked.inside

/-- An account is kept by questions and by records. -/
theorem accounted_simulation (oracle : Oracle σ κ) (account : Account) :
    Simulation oracle.watched oracle.watched (·.isQuery = true) fun session twin =>
      session = twin ∧ Session.Accounted false account session :=
  .of_kept (fun _ accounted query => accounted.query query) fun _ accounted => { accounted with }

/-- Masking leaves a processor on track. -/
theorem Tracked.applyBatch (tracked : Tracked generated account state) (array : ScoreArray) :
    Tracked generated account (applyBatch oracle.watched array state).state := by
  have start : Beside (fun session twin => session = twin ∧ Session.Accounted false account session)
    state state := ⟨⟨rfl, tracked.accounted⟩, rfl⟩
  -- Masking makes queries only, and these keep every account.
  have kept := (applyBatch_matches (accounted_simulation oracle account) start array).state
  exact tracked.of_accounted kept.session.2 (applyBatch_keeps oracle.watched array state).2

/-- Asking whether the stream may end leaves a processor on track. -/
theorem Tracked.canStop (tracked : Tracked generated account state) :
    Tracked generated account (within (Applier.canStop oracle.watched) state).state :=
  tracked.of_accounted (tracked.accounted.query (rfl : Request.isComplete.isQuery = true)) rfl

/-- A call leaves a processor on track of a stream that is at least as long. -/
theorem Tracked.call {length : Nat} (tracked : Tracked generated account state)
    (cut : cut? state.2.promptLength = some (length : Int)) {ids : List Int}
    (longer : ids.drop length <+: generated) (array : ScoreArray) :
    ∃ account, Tracked generated account (call oracle.watched (.stream ids) array state).state := by
  obtain ⟨done, rest, after, split, takes, ends⟩ := call_reports oracle.watched cut ids array
  -- The tokens that are taken are the next ones of the longer stream, too.
  have next : done <+: generated.drop state.2.index := by
    have next := prefix_drop longer state.2.index
    exact (List.prefix_append done rest).trans (split ▸ next)
  have taken := tracked.takes next takes
  cases rest with
  | nil => exact ⟨_, ends ▸ taken.applyBatch array⟩
  | cons token rest =>
    obtain ⟨fault, failed, ends⟩ := ends
    obtain ⟨loss, accounted⟩ := taken.accounted.advance_error failed
    rw [ends]
    exact ⟨_, accounted, taken.taken, taken.inside⟩

/-- A new processor has nothing to report, and is on track of any stream. -/
theorem make_tracked {number : Nat} {arguments : ApplierArguments}
    (accounted : Session.Accounted false .opening session)
    (made : (make number arguments promptLength session).answer = .ok processor) :
    Tracked [] .opening ((make number arguments promptLength session).state, processor) := by
  simp only [make, Applier.make] at made ⊢
  split at made
  · simp [Except.map] at made
  · -- The claim changes the owner only, and no account is kept of that.
    cases claimed : (session.claim (.applier number)).answer with
    | error fault => simp [claimed, Except.map] at made
    | ok done =>
      simp only [claimed, Except.map, Except.ok.injEq] at made
      subst made
      exact ⟨accounted.claim _, rfl, Nat.zero_le _⟩

/-- A reset that succeeds takes everything back. -/
theorem Tracked.restart (tracked : Tracked generated account state) {grammar : Option Grammar}
    (succeeded : (reset oracle.watched grammar state).answer = .ok ()) :
    Tracked [] .opening (reset oracle.watched grammar state).state := by
  -- A reset succeeds just if the session is reset, and the account is opened anew.
  cases moved : (state.1.reset oracle.watched grammar).answer with
  | error fault => simp [reset, within, Applier.reset, moved] at succeeded
  | ok done =>
    have accounted := tracked.accounted.reset_ok moved
    simp only [reset, within, Applier.reset, moved]
    exact ⟨accounted, rfl, Nat.le_refl 0⟩

/-- A reset that fails leaves a processor on track, although it poisons the session. -/
theorem Tracked.strand (tracked : Tracked generated account state) {grammar : Option Grammar}
    {fault : Fault} (failed : (reset oracle.watched grammar state).answer = .error fault) :
    ∃ account, Tracked generated account (reset oracle.watched grammar state).state := by
  -- A reset that fails leaves the counter, and the account notes no more than a loss.
  cases moved : (state.1.reset oracle.watched grammar).answer with
  | ok done => simp [reset, within, Applier.reset, moved] at failed
  | error fault =>
    obtain ⟨loss, accounted⟩ := tracked.accounted.reset_error moved
    simp only [reset, within, Applier.reset, moved]
    exact ⟨_, accounted, tracked.taken, tracked.inside⟩

/-- Every processor in use is on track of the longest stream behind the prompt. -/
theorem Driven.tracked {length : Nat} (cut : cut? promptLength = some (length : Int))
    (driven : Driven oracle.watched promptLength seen state) :
    ∃ account, Tracked ((longest seen).drop length) account state := by
  induction driven with
  | made created made =>
    have tracked := make_tracked (Session.create_accounted created) made
    exact ⟨_, by simpa [longest] using tracked⟩
  | called ids array driven fits ih =>
    obtain ⟨account, tracked⟩ := ih
    -- The stream may take the longest one further, which is then the one to be on track of.
    obtain ⟨begins, goesOn⟩ := fits.prefix_longest_cons
    have same := driven.promptLength_eq cut
    exact (tracked.extend (prefix_drop goesOn length)).call (same ▸ cut) (prefix_drop begins length)
      array
  | asked driven ih =>
    obtain ⟨account, tracked⟩ := ih
    exact ⟨account, tracked.canStop⟩
  | restarted grammar driven succeeded ih =>
    obtain ⟨account, tracked⟩ := ih
    exact ⟨_, by simpa [longest] using tracked.restart succeeded⟩
  | stranded grammar driven failed ih =>
    obtain ⟨account, tracked⟩ := ih
    exact tracked.strand failed

/--
A processor reports every generated token to its session once, and in their order.

Whatever calls, questions and resets there were, and whichever of them failed, its index is the
number of steps of the session, and the session took just as many of the tokens after the prompt,
the first ones. The next call goes on with the first token that was not taken, be it a repeated
call or not.
-/
theorem driven_tracks {session : Session σ κ} {length : Nat}
    (cut : cut? promptLength = some (length : Int))
    (driven : Driven oracle promptLength seen (session, processor)) :
    processor.index = session.steps ∧
      (∀ ids ∈ seen, ids <+: longest seen) ∧
      (∃ watched, Driven oracle.watched promptLength seen (watched, processor) ∧
        watched.unwatched = session) ∧
      (∀ watched, Driven oracle.watched promptLength seen (watched, processor) →
        watched.unwatched = session →
        processor.index ≤ ((longest seen).drop length).length ∧
          (Account.ofLog watched.log).taken =
            ((longest seen).drop length).take processor.index) ∧
      ∀ ids array, Reports oracle ((ids.drop length).drop processor.index) (session, processor)
        (applyBatch oracle array) (call oracle (.stream ids) array (session, processor)) := by
  obtain ⟨⟨watched, _⟩, watching, same, beside⟩ := driven.exists_watched
  obtain rfl : watched.unwatched = session := same
  obtain rfl : processor = _ := beside
  obtain ⟨account, tracked⟩ := watching.tracked cut
  refine ⟨tracked.index_eq_steps, driven.prefix_longest, ⟨watched, watching, rfl⟩, ?_, ?_⟩
  · -- The log of any session that was watched comes to an account that is on track.
    intro other watching _
    obtain ⟨account, tracked⟩ := watching.tracked cut
    rw [tracked.accounted.logged]
    exact ⟨tracked.inside, tracked.taken⟩
  · intro ids array
    have same := driven.promptLength_eq cut
    exact call_reports oracle (by rw [same]; exact cut) ids array

/-- The second of two generated tokens is rejected, and the same call begins with it once more. -/
theorem driven_tracks_pairs :
    let again := call Automata.alternating.oracle (.stream [2, 0, 0]) ⟨[0], .integers []⟩
    let state := (again ((make 0 ⟨none, .null, .null⟩ (.int 1)
      (Automata.alternatingSession true)).state, ⟨⟨0, 3, .bool false, .zero⟩, .int 1, 0⟩)).state
    state.2.index = 1 ∧ state.2.index = state.1.steps ∧
      Reports Automata.alternating.oracle [0] state
        (applyBatch Automata.alternating.oracle ⟨[0], .integers []⟩) (again state) := by
  intro again state
  have made : Driven Automata.alternating.oracle (.int 1) []
      ((make 0 ⟨none, .null, .null⟩ (.int 1) (Automata.alternatingSession true)).state,
        ⟨⟨0, 3, .bool false, .zero⟩, .int 1, 0⟩) :=
    .made (Automata.alternating_create true) rfl
  -- The second token is refused at its place, so it is reported again by the next call.
  have called := made.called [2, 0, 0] ⟨[0], .integers []⟩ (by simp [Fits])
  have cut : cut? (.int 1) = some ((1 : Nat) : Int) := rfl
  obtain ⟨steps, _, _, _, reports⟩ := driven_tracks cut called
  exact ⟨by decide, steps, reports [2, 0, 0] ⟨[0], .integers []⟩⟩

end

end Processor

end ConstrainedDecoding
