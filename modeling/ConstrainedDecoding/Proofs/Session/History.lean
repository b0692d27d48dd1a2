import ConstrainedDecoding.Proofs.Oracle.Automata
import ConstrainedDecoding.Proofs.Session.Mask

/-! A session is where the tokens lead that it took since it last started, and nothing else. -/

namespace ConstrainedDecoding

variable {σ κ γ : Type}

/-- What a session has been through since it last started: its grammar and the tokens it took. -/
structure Trail where
  grammar : Grammar
  tokens : List Int

namespace Trail

/-- The trail after a request, which counts only if it succeeds. -/
def follow (trail : Trail) : Request → Except Fault Reply → Trail
  | .advance token, .ok _ => ⟨trail.grammar, trail.tokens ++ [token]⟩
  | .reset grammar, .ok _ => ⟨grammar.getD trail.grammar, []⟩
  | _, _ => trail

/-- The trail after requests with their answers. -/
def followAll (trail : Trail) (requests : List Request) (answers : List (Except Fault Reply)) :
    Trail :=
  (requests.zip answers).foldl (fun trail step => trail.follow step.1 step.2) trail

/-- A query leaves no trail. -/
theorem follow_query (trail : Trail) {request : Request} (query : request.isQuery = true)
    (answer : Except Fault Reply) : trail.follow request answer = trail := by
  -- Only advances and resets are looked at.
  obtain ⟨token, rfl⟩ | rfl | rfl | rfl := Request.query_cases query <;> rfl

end Trail

namespace Rules

/-- Where tokens lead from a state, unless one of them is refused. -/
def travel (rules : Rules γ) (state : γ) : List Int → Except Fault γ
  | [] => .ok state
  | token :: rest =>
    let move := rules.transition state token
    match move.answer with
    | .error fault => .error fault
    | .ok () => rules.travel move.state rest

/-- Where a trail leads from the start of its grammar. -/
def arrive (rules : Rules γ) (start : Grammar → Except Fault γ) (trail : Trail) : Except Fault γ :=
  (start trail.grammar).bind fun first => rules.travel first trail.tokens

/-- One more token leads on from where the others lead. -/
theorem travel_snoc (rules : Rules γ) {state middle : γ} {tokens : List Int}
    (arrived : rules.travel state tokens = .ok middle) {token : Int}
    (moves : (rules.transition middle token).answer = .ok ()) :
    rules.travel state (tokens ++ [token]) = .ok (rules.transition middle token).state := by
  -- The tokens are taken from the front, so the start of the way varies in the induction.
  induction tokens generalizing state with
  | nil =>
    -- There is no way to go yet, so the new token is all of it.
    obtain rfl : state = middle := by simpa [travel] using arrived
    simp [travel, moves]
  | cons first rest ih =>
    simp only [travel] at arrived
    simp only [List.cons_append, travel]
    -- The first token was not refused, or nothing would have been reached.
    cases moved : (rules.transition state first).answer with
    | error fault => simp [moved] at arrived
    | ok done =>
      simp only [moved] at arrived
      exact ih arrived

end Rules

namespace Outline

variable {rules : Rules γ} {start : Grammar → Except Fault γ} {outline other : Outline γ}
  {trail : Trail}

/-- An outline is where a trail leads. -/
structure IsAt (rules : Rules γ) (start : Grammar → Except Fault γ) (trail : Trail)
    (outline : Outline γ) : Prop where
  grammar : outline.grammar = trail.grammar
  steps : outline.steps = trail.tokens.length
  state : rules.arrive start trail = .ok outline.state

/-- A kept mask does not change where an outline is. -/
theorem IsAt.of_forget (isAt : outline.IsAt rules start trail)
    (same : other.forget = outline.forget) : other.IsAt rules start trail where
  grammar := (congrArg Outline.grammar same).trans isAt.grammar
  steps := (congrArg Outline.steps same).trans isAt.steps
  state := by
    -- The grammar, the steps and the state are all left when the mask is forgotten.
    have kept := congrArg Outline.state same
    exact isAt.state.trans (congrArg Except.ok kept).symm

/-- A move that succeeds is a token more, and a failed one changes nothing but the poison. -/
theorem IsAt.transit (functional : rules.Functional start) (isAt : outline.IsAt rules start trail)
    (token : Int) : (outline.transit rules token).state.IsAt rules start
      (trail.follow (.advance token) ((outline.transit rules token).reply fun _ => .done).answer) := by
  simp only [Outline.transit]
  cases moved : (rules.transition outline.state token).answer with
  | error fault =>
    -- A failed move is not counted, and the state that it leaves is the one it started from.
    have stays := functional.transition moved
    exact ⟨isAt.grammar, isAt.steps, by rw [stays]; exact isAt.state⟩
  | ok done =>
    -- The new token is taken where the others lead.
    refine ⟨isAt.grammar, by simp [Trail.follow, Turn.reply, Except.map, isAt.steps], ?_⟩
    obtain ⟨first, started, arrived⟩ : ∃ first, start trail.grammar = .ok first ∧
        rules.travel first trail.tokens = .ok outline.state := by
      have leads := isAt.state
      simp only [Rules.arrive] at leads
      cases started : start trail.grammar with
      | error fault => simp [started, Except.bind] at leads
      | ok first => exact ⟨first, rfl, by simpa [started, Except.bind] using leads⟩
    simp only [Rules.arrive, Trail.follow, Turn.reply, Except.map, started, Except.bind]
    exact rules.travel_snoc arrived moved

/-- An advance that succeeds does not poison the outline. -/
theorem advance_usable (usable : outline.poison = none) {token : Int}
    (succeeded : (outline.advance rules token).answer = .ok ()) :
    (outline.advance rules token).state.poison = none := by
  -- A refusal is not a success, and a move that succeeds writes no poison.
  rcases outline.advance_cases rules token with ⟨fault, refused⟩ | moves
  · rw [refused] at succeeded
    cases succeeded
  · rw [moves] at succeeded ⊢
    simp only [Outline.transit] at succeeded ⊢
    cases moved : (rules.transition outline.state token).answer with
    | error fault => simp [moved] at succeeded
    | ok done => exact usable

/-- An advance that succeeds is a token more, and a failed one leaves the outline where it is. -/
theorem IsAt.advance (functional : rules.Functional start) (isAt : outline.IsAt rules start trail)
    (token : Int) : (outline.advance rules token).state.IsAt rules start
      (trail.follow (.advance token) ((outline.advance rules token).reply fun _ => .done).answer) := by
  -- A refused token leaves no trail, just as it leaves the outline.
  rcases outline.advance_cases rules token with ⟨fault, refused⟩ | moves
  · rw [refused]
    exact isAt
  · rw [moves]
    exact isAt.transit functional token

/-- A reset that succeeds starts a trail, and a failed one leaves the outline where it is. -/
theorem IsAt.reset (functional : rules.Functional start) (isAt : outline.IsAt rules start trail)
    (grammar : Option Grammar) : (outline.reset rules grammar).state.IsAt rules start
      (trail.follow (.reset grammar) ((outline.reset rules grammar).reply fun _ => .done).answer) := by
  -- A restart is a start, so it fails just if the grammar has none.
  simp only [Outline.reset, functional.restart, isAt.grammar]
  cases started : start (grammar.getD trail.grammar) with
  | error fault => exact ⟨rfl, isAt.steps, isAt.state⟩
  | ok first =>
    -- A start has taken no tokens yet.
    refine ⟨rfl, rfl, ?_⟩
    simp [Rules.arrive, Trail.follow, Turn.reply, Except.map, started, Except.bind, Rules.travel]

/-- A reset that succeeds leaves the outline at the start of its grammar. -/
theorem reset_opening (functional : rules.Functional start) {grammar : Option Grammar}
    (succeeded : (outline.reset rules grammar).answer = .ok ()) :
    ∃ first, start (grammar.getD outline.grammar) = .ok first ∧
      (outline.reset rules grammar).state =
        .opening first (grammar.getD outline.grammar) outline.size outline.validates := by
  -- A restart that succeeds is a start, whatever state it was made from.
  simp only [Outline.reset, functional.restart] at succeeded ⊢
  cases started : start (grammar.getD outline.grammar) with
  | error fault => simp [started] at succeeded
  | ok first => exact ⟨first, rfl, rfl⟩

/-- Every request leaves the outline where the trail leads that goes on with it. -/
theorem IsAt.perform (functional : rules.Functional start) (isAt : outline.IsAt rules start trail)
    (request : Request) : (outline.perform rules request).state.IsAt rules start
      (trail.follow request (outline.perform rules request).answer) := by
  obtain query | ⟨token, rfl⟩ | ⟨grammar, rfl⟩ := request.query_or_move
  · -- A query leaves no trail, and changes at most the mask.
    rw [trail.follow_query query]
    exact isAt.of_forget (forget_query query)
  · exact isAt.advance functional token
  · exact isAt.reset functional grammar

end Outline

namespace Session

variable {oracle : Oracle σ κ} {rules : Rules γ} {start : Grammar → Except Fault γ}
  {stands : Standing σ κ γ} {session first second : Session σ κ} {outline : Outline γ}

/-- Where grammars have starts, creating a session depends on nothing but those and the count. -/
theorem create_opens (opens : oracle.Opens start stands) (world : σ) (grammar : Grammar)
    (vocabulary : Vocabulary) (validates : Bool) (records : List Record) :
    let created := create oracle world grammar vocabulary validates records
    match start grammar, vocabulary.count with
    | .error fault, _ => created = .error fault
    | .ok _, .error fault => created = .error fault
    | .ok state, .ok size => ∃ session, created = .ok session ∧ session.owner = none ∧
        session.Shows stands false (.opening state grammar size validates) := by
  -- The start decides whether the grammar compiles, and compiling comes before counting.
  have opened := opens grammar world
  simp only [create, Bind.bind, Except.bind, Pure.pure, Except.pure]
  cases started : start grammar with
  | error fault =>
    simp only [started] at opened
    simp only [opened]
  | ok state =>
    simp only [started] at opened
    obtain ⟨cursor, compiled, place⟩ := opened
    cases vocabulary.count with
    | error fault => simp only [compiled]
    | ok size =>
      simp only [compiled]
      exact ⟨_, rfl, rfl, state, place, rfl, rfl⟩

/-- Sessions with the same outline answer every run alike, and have the same outline after it. -/
theorem run_same (follows : oracle.Follows rules stands)
    (shown : first.Shows stands false outline) (otherShown : second.Shows stands false outline)
    (requests : List Request) :
    (first.run oracle requests).1 = (second.run oracle requests).1 ∧
      ∃ last, (first.run oracle requests).2.Shows stands false last ∧
        (second.run oracle requests).2.Shows stands false last := by
  -- Both sessions answer as their common outline does, and then have its next one in common.
  induction requests generalizing first second outline with
  | nil => exact ⟨rfl, outline, shown, otherShown⟩
  | cons request rest ih =>
    have mirrors := perform_mirrors follows shown request
    have otherMirrors := perform_mirrors follows otherShown request
    obtain ⟨answers, last⟩ := ih mirrors.2 otherMirrors.2
    refine ⟨?_, last⟩
    simp only [Session.run, answers, mirrors.1, otherMirrors.1]

/-- A run leaves the outline where its trail leads, and does not change the terms. -/
theorem run_isAt (follows : oracle.Follows rules stands) (functional : rules.Functional start)
    {trail : Trail} (shown : session.Shows stands false outline)
    (isAt : outline.IsAt rules start trail) (requests : List Request) :
    ∃ last : Outline γ, (session.run oracle requests).2.Shows stands false last ∧
      last.IsAt rules start (trail.followAll requests (session.run oracle requests).1) ∧
      last.terms = outline.terms := by
  -- The trail goes on with each answer, and the outline stays where it leads.
  induction requests generalizing session outline trail with
  | nil => exact ⟨outline, shown, isAt, rfl⟩
  | cons request rest ih =>
    have mirrors := perform_mirrors follows shown request
    have after := isAt.perform functional request
    -- The trail goes by the answer of the session, which is that of the outline.
    rw [← mirrors.1] at after
    obtain ⟨last, lastShown, lastIsAt, terms⟩ := ih mirrors.2 after
    exact ⟨last, lastShown, lastIsAt, terms.trans (Outline.perform_terms request)⟩

/-- A session that was created is at the start of its grammar. -/
theorem create_opening (opens : oracle.Opens start stands) {world : σ} {grammar : Grammar}
    {vocabulary : Vocabulary} {validates : Bool} {records : List Record}
    (created : create oracle world grammar vocabulary validates records = .ok session) :
    ∃ state size, start grammar = .ok state ∧ vocabulary.count = .ok size ∧
      session.Shows stands false (.opening state grammar size validates) := by
  -- It was created, so the grammar does start and the tokens can be counted.
  have opened := create_opens opens world grammar vocabulary validates records
  cases started : start grammar <;> cases counted : vocabulary.count <;>
    simp_all

/-- A reset that succeeds leads to the outline that a new session starts with. -/
theorem reset_fresh (follows : oracle.Follows rules stands) (opens : oracle.Opens start stands)
    (functional : rules.Functional start) (shown : session.Shows stands false outline)
    {vocabulary : Vocabulary} (counted : vocabulary.count = .ok outline.size)
    {next : Option Grammar} (succeeded : (session.reset oracle next).answer = .ok ())
    (elsewhere : σ) (others : List Record) :
    ∃ fresh common, create oracle elsewhere (next.getD outline.grammar) vocabulary
        outline.validates others = .ok fresh ∧
      (session.reset oracle next).state.Shows stands false common ∧
      fresh.Shows stands false common := by
  have mirrors := reset_mirrors follows shown next
  obtain ⟨first, restarted, opened⟩ :=
    Outline.reset_opening functional (mirrors.1.symm.trans succeeded)
  -- The grammar has a start, so it compiles in every world.
  have again := create_opens opens elsewhere (next.getD outline.grammar) vocabulary
    outline.validates others
  simp only [restarted, counted] at again
  obtain ⟨fresh, recreated, _, freshShown⟩ := again
  have resetShown := mirrors.2
  rw [opened] at resetShown
  exact ⟨fresh, _, recreated, resetShown, freshShown⟩

/--
A session is determined by its grammar and the tokens that it took since it last started.

Its cursor is where these tokens lead from the start of the grammar. So after any run, a reset
that succeeds makes the session one that cannot be told from a new one.
-/
theorem run_history {world : σ} {grammar : Grammar} {vocabulary : Vocabulary} {validates : Bool}
    {records : List Record} (follows : oracle.Follows rules stands)
    (opens : oracle.Opens start stands) (functional : rules.Functional start)
    (created : create oracle world grammar vocabulary validates records = .ok session)
    (requests : List Request) :
    let (answers, last) := session.run oracle requests
    let trail := Trail.followAll ⟨grammar, []⟩ requests answers
    last.grammar = trail.grammar ∧ last.steps = trail.tokens.length ∧
      (∃ state, stands last.cursor last.world state ∧ rules.arrive start trail = .ok state) ∧
      ∀ next, (last.reset oracle next).answer = .ok () → ∀ elsewhere others, ∃ fresh,
        create oracle elsewhere (next.getD trail.grammar) vocabulary validates others = .ok fresh ∧
          ∀ later,
            let (replies, again) := (last.reset oracle next).state.run oracle later
            let (freshReplies, anew) := fresh.run oracle later
            replies = freshReplies ∧ again.grammar = anew.grammar ∧ again.steps = anew.steps ∧
              again.poison = anew.poison := by
  obtain ⟨state, size, started, counted, shown⟩ := create_opening opens created
  -- The empty trail leads to the start of the grammar, and the run goes on from there.
  have begins : (Outline.opening state grammar size validates).IsAt rules start ⟨grammar, []⟩ :=
    ⟨rfl, rfl, by simp [Rules.arrive, Rules.travel, started, Except.bind, Outline.opening]⟩
  obtain ⟨outline, lastShown, isAt, terms⟩ := run_isAt follows functional shown begins requests
  obtain ⟨sized, checked⟩ := Prod.mk.inj terms
  refine ⟨?_, ?_, ?_, ?_⟩
  · rw [lastShown.grammar, isAt.grammar]
  · rw [lastShown.steps, isAt.steps]
  · obtain ⟨reached, place, same, _⟩ := lastShown
    exact ⟨reached, place, by rw [isAt.state, ← same]; rfl⟩
  · intro next succeeded elsewhere others
    -- The terms are those that the session was created with.
    rw [← show outline.size = size from sized] at counted
    rw [← show outline.validates = validates from checked, ← isAt.grammar]
    obtain ⟨fresh, common, recreated, resetShown, freshShown⟩ :=
      reset_fresh follows opens functional lastShown counted succeeded elsewhere others
    refine ⟨fresh, recreated, ?_⟩
    intro later
    -- From one outline on, the two sessions answer every run alike.
    obtain ⟨replies, ended, endShown, freshEndShown⟩ := run_same follows resetShown freshShown later
    exact ⟨replies, endShown.grammar.trans freshEndShown.grammar.symm,
      endShown.steps.trans freshEndShown.steps.symm,
      endShown.poison.trans freshEndShown.poison.symm⟩

/-- The session of the pairs, poisoned after one pair, is as good as new once it is reset. -/
theorem run_history_pairs :
    let oracle := Automata.alternating.oracle
    let last := ((Automata.alternatingSession false).run oracle
      [.advance 0, .reset none, .advance 0, .mask, .advance 1, .advance 2]).2
    last.steps = 2 ∧
      ((last.reset oracle none).state.run oracle [.admits 0, .advance 0, .mask]).1 =
        ((Automata.alternatingSession false).run oracle [.admits 0, .advance 0, .mask]).1 := by
  have worldless := Automata.alternating_worldless
  have history := run_history (worldless.follows ()) (worldless.opens ())
    Automata.alternating.functional (Automata.alternating_create false)
    [.advance 0, .reset none, .advance 0, .mask, .advance 1, .advance 2]
  obtain ⟨_, steps, _, reset⟩ := history
  refine ⟨steps, ?_⟩
  -- The new session is the one that the run began with.
  obtain ⟨fresh, created, same⟩ := reset none rfl () []
  obtain rfl := Except.ok.inj (created.symm.trans (Automata.alternating_create false))
  exact (same [.admits 0, .advance 0, .mask]).1

end Session

end ConstrainedDecoding
