import ConstrainedDecoding.Proofs.Oracle.Automata
import ConstrainedDecoding.Proofs.Session.Passage

/-! The kept mask of a session is that of its cursor, and no answer tells whether there is one. -/

namespace ConstrainedDecoding

namespace Session

variable {σ κ γ : Type}

/-- Two sessions whose outlines differ in nothing but their masks, which are faithful ones. -/
def Alike (rules : Rules γ) (stands : Standing σ κ γ) (size : Nat)
    (first second : Session σ κ) : Prop :=
  ∃ outline other, first.Shows stands false outline ∧ second.Shows stands false other ∧
    Outline.AreAlike rules size outline other

section

variable {oracle : Oracle σ κ} {rules : Rules γ} {stands : Standing σ κ γ} {locked : Bool}
  {size : Nat} {session first second : Session σ κ} {outline : Outline γ}

/-- Sessions that show the same faithful outline are alike. -/
theorem Alike.of_shows (shown : first.Shows stands false outline)
    (otherShown : second.Shows stands false outline) (faithful : outline.Faithful rules) :
    Alike rules stands outline.size first second :=
  ⟨outline, outline, shown, otherShown, rfl, faithful, faithful, rfl⟩

/-- Sessions that are alike give the same answer to a request, and are alike after it. -/
theorem Alike.perform (follows : oracle.Follows rules stands)
    (consistent : rules.AlwaysConsistent stands size)
    (alike : Alike rules stands size first second) (request : Request) :
    (first.perform oracle request).answer = (second.perform oracle request).answer ∧
      Alike rules stands size (first.perform oracle request).state
        (second.perform oracle request).state := by
  obtain ⟨outline, other, shown, otherShown, alike⟩ := alike
  -- Each session answers as its outline does, and the outlines answer alike.
  obtain ⟨answer, after⟩ := perform_mirrors follows shown request
  obtain ⟨otherAnswer, otherAfter⟩ := perform_mirrors follows otherShown request
  obtain ⟨same, later⟩ := alike.perform (shown.consistent consistent) request
  exact ⟨answer.trans (same.trans otherAnswer.symm), _, _, after, otherAfter, later⟩

/-- A reply tells the answer that it is made of. -/
theorem answer_of_reply {α σ τ : Type} {turn : Turn σ α} {other : Turn τ α} {reply : α → Reply}
    (telling : ∀ {answer others}, reply answer = reply others → answer = others)
    (same : (turn.reply reply).answer = (other.reply reply).answer) :
    turn.answer = other.answer := by
  simp only [Turn.reply] at same
  -- Faults are not touched by a reply, so only two answers are left to compare.
  cases one : turn.answer <;> cases two : other.answer <;> simp_all [Except.map]
  exact telling same

/-- Sessions that are alike go on alike. -/
theorem Alike.advance (follows : oracle.Follows rules stands)
    (consistent : rules.AlwaysConsistent stands size)
    (alike : Alike rules stands size first second) (token : Int) :
    (first.advance oracle token).answer = (second.advance oracle token).answer ∧
      Alike rules stands size (first.advance oracle token).state
        (second.advance oracle token).state := by
  -- An advance is the request of the same name, but for the reply.
  obtain ⟨answer, after⟩ := alike.perform follows consistent (.advance token)
  exact ⟨answer_of_reply (fun _ => rfl) answer, after⟩

/-- Sessions that are alike may end alike. -/
theorem Alike.isComplete (follows : oracle.Follows rules stands)
    (consistent : rules.AlwaysConsistent stands size)
    (alike : Alike rules stands size first second) :
    (first.isComplete oracle).answer = (second.isComplete oracle).answer ∧
      Alike rules stands size (first.isComplete oracle).state
        (second.isComplete oracle).state := by
  obtain ⟨answer, after⟩ := alike.perform follows consistent .isComplete
  exact ⟨answer_of_reply (fun same => Reply.flag.inj same) answer, after⟩

/-- A session stays like another one that is asked something first. -/
theorem Alike.query (follows : oracle.Follows rules stands)
    (alike : Alike rules stands size first second) {request : Request}
    (query : request.isQuery = true) :
    Alike rules stands size first (second.perform oracle request).state := by
  -- The query is mirrored by one of the outline, which leaves that alike.
  obtain ⟨outline, other, shown, otherShown, alike⟩ := alike
  exact ⟨outline, _, shown, (perform_mirrors follows otherShown request).2, alike.query query⟩

/-- Sessions that are alike answer every run alike, and are alike after it. -/
theorem Alike.run (follows : oracle.Follows rules stands)
    (consistent : rules.AlwaysConsistent stands size)
    (alike : Alike rules stands size first second) (requests : List Request) :
    (first.run oracle requests).1 = (second.run oracle requests).1 ∧
      Alike rules stands size (first.run oracle requests).2 (second.run oracle requests).2 := by
  -- Each request leaves the sessions alike, whatever the sessions are.
  induction requests generalizing first second with
  | nil => exact ⟨rfl, alike⟩
  | cons request rest ih =>
    obtain ⟨answer, after⟩ := alike.perform follows consistent request
    obtain ⟨answers, last⟩ := ih after
    refine ⟨?_, last⟩
    simp only [Session.run, answer, answers]

/-- A session with a faithful outline answers every run as the passage of the outline does. -/
theorem Shows.run_answers (follows : oracle.Follows rules stands)
    (consistent : rules.AlwaysConsistent stands outline.size)
    (shown : session.Shows stands false outline) (faithful : outline.Faithful rules)
    (requests : List Request) :
    (session.run oracle requests).1 = outline.passage.answers rules requests := by
  -- The outline after a request is faithful again, and of the same size.
  induction requests generalizing session outline with
  | nil => rfl
  | cons request rest ih =>
    have here := shown.consistent consistent
    obtain ⟨answer, after⟩ := perform_mirrors follows shown request
    obtain ⟨told, later⟩ := faithful.perform_tracks here request
    obtain ⟨_, _, still⟩ := Outline.perform_agree faithful here request
    have size : (outline.perform rules request).state.size = outline.size :=
      congrArg Prod.fst (Outline.perform_terms request)
    have others := ih (size ▸ consistent) after still
    simp only [Session.run, Passage.answers, answer, told, others, later]

/-- A run of queries leaves the session like the one that it was. -/
theorem Alike.queries (follows : oracle.Follows rules stands)
    (alike : Alike rules stands size first second) {queries : List Request}
    (query : ∀ request ∈ queries, request.isQuery = true) :
    Alike rules stands size first (second.run oracle queries).2 := by
  -- Each query leaves the second session like the first one, which is not asked.
  induction queries generalizing second with
  | nil => exact alike
  | cons request rest ih =>
    have after := alike.query follows (query request List.mem_cons_self)
    exact ih after fun later member => query later (List.mem_cons_of_mem request member)

/-- The kept mask of a session is what the oracle tells of its cursor. -/
theorem Alike.mask (answers : oracle.Answers rules stands)
    (alike : Alike rules stands size first second) {mask : Mask} (kept : first.mask = some mask) :
    (oracle.mask first.cursor first.world).answer = .ok mask := by
  -- The kept mask is faithful to the state that the cursor stands for.
  obtain ⟨outline, _, shown, _, alike⟩ := alike
  rw [shown.mask_answer answers]
  obtain ⟨state, _, rfl, _⟩ := shown
  exact alike.faithful mask kept

/-- A run of requests after others goes on where those end. -/
theorem run_append (oracle : Oracle σ κ) (session : Session σ κ) (before after : List Request) :
    session.run oracle (before ++ after) =
      ((session.run oracle before).1 ++ ((session.run oracle before).2.run oracle after).1,
        ((session.run oracle before).2.run oracle after).2) := by
  -- The first requests are answered before it matters what comes after them.
  induction before generalizing session with
  | nil => rfl
  | cons request rest ih => simp only [List.cons_append, run, ih]

/-- Every request of a run is answered. -/
theorem run_length (oracle : Oracle σ κ) (session : Session σ κ) (requests : List Request) :
    (session.run oracle requests).1.length = requests.length := by
  induction requests generalizing session with
  | nil => rfl
  | cons request rest ih => simp only [run, List.length_cons, ih]

/--
No answer tells whether a session keeps its mask.

It answers every run as a passage does that keeps none, in which the rules tell each answer afresh
at the state that the cursor stands for. A kept mask is that of the cursor, and queries inserted
anywhere in a run change no other answer of it.
-/
theorem run_mask_unobservable {world : σ} {grammar : Grammar} {vocabulary : Vocabulary}
    {validates : Bool} {records : List Record} (follows : oracle.Follows rules stands)
    (created : create oracle world grammar vocabulary validates records = .ok session)
    (consistent : rules.AlwaysConsistent stands session.size) :
    (∃ state, stands session.cursor session.world state) ∧
    (∀ state, stands session.cursor session.world state → ∀ requests,
      (session.run oracle requests).1 =
        (Passage.opening state grammar session.size validates).answers rules requests) ∧
    (∀ requests mask, (session.run oracle requests).2.mask = some mask →
      let last := (session.run oracle requests).2
      (oracle.mask last.cursor last.world).answer = .ok mask) ∧
    ∀ before queries after, (∀ request ∈ queries, Request.isQuery request = true) →
      let long := (session.run oracle (before ++ queries ++ after)).1
      let short := (session.run oracle (before ++ after)).1
      long.take before.length = short.take before.length ∧
        long.drop (before.length + queries.length) = short.drop before.length := by
  -- A new session keeps no mask yet, so its outline is faithful, and the session is like itself.
  obtain ⟨_, _, _, first, place, _⟩ := create_shows follows.toAnswers created
  have faithful (state : γ) :
      (Outline.opening state grammar session.size validates).Faithful rules :=
    Outline.faithful_of_none rfl
  have shown := shows_of_create created place
  have self := Alike.of_shows shown shown (faithful first)
  refine ⟨⟨first, place⟩, ?_, ?_, ?_⟩
  · intro state standing requests
    exact (shows_of_create created standing).run_answers follows consistent (faithful state) _
  · -- The last session of a run is still like itself.
    intro requests mask kept
    exact (self.run follows consistent requests).2.mask follows.toAnswers kept
  · intro before queries after query
    -- Both runs share their beginning, and the queries leave the session as it was but for a mask.
    have middle := (self.run follows consistent before).2
    have later := (middle.queries follows query).run follows consistent after
    have beginning := run_length oracle session before
    have inserted := run_length oracle (session.run oracle before).2 queries
    simp only [run_append]
    -- The answers before the queries are shared, and those after them are alike.
    constructor
    · simp [← beginning]
    · rw [← inserted, ← beginning, ← List.length_append, List.drop_left, List.drop_left, later.1]

/-- The session of the pairs is such a session, and its kept mask is outdated by a move. -/
theorem run_mask_unobservable_pairs :
    ((Automata.alternatingSession true).run Automata.alternating.oracle
      [.mask, .advance 0, .admits 0, .mask]).1 =
    (Passage.opening (⟨Automata.pairs, 0⟩ : Place) Automata.alternatingGrammar 3 true).answers
      (Automata.alternating.oracle.rulesIn ()) [.mask, .advance 0, .admits 0, .mask] :=
  (run_mask_unobservable (Automata.alternating_worldless.follows ())
    (Automata.alternating_create true) Automata.alternating.consistent).2.1 ⟨Automata.pairs, 0⟩
    ⟨rfl, rfl, Nat.zero_lt_two⟩ _

end

end Session

end ConstrainedDecoding
