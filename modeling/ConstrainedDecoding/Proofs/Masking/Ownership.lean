import ConstrainedDecoding.Masking.Stage
import ConstrainedDecoding.Proofs.Oracle.Automata
import ConstrainedDecoding.Proofs.Session.Place

/-! A session is held by one applier at most: the last one that was made and not closed since. -/

namespace ConstrainedDecoding

variable {σ κ : Type}

/-- What is made to mask the scores of a session: an applier, or a processor with one. -/
inductive Construction where
  | applier (arguments : ApplierArguments)
  | processor (arguments : ApplierArguments) (promptLength : Json)

namespace Construction

/-- The options that are given for the applier. -/
def arguments : Construction → ApplierArguments
  | applier arguments => arguments
  | processor arguments _ => arguments

/-- The masker with a number of its own, made for a session. -/
def make (number : Nat) (session : Session σ κ) : Construction → Turn (Session σ κ) Masker
  | applier arguments =>
    let turn := Applier.make number arguments session
    ⟨turn.answer.map .applier, turn.state⟩
  | processor arguments promptLength =>
    let turn := Processor.make number arguments promptLength session
    ⟨turn.answer.map .processor, turn.state⟩

end Construction

/-- A depth that may take the place of another one is left open, or an integer of at least one. -/
def ApplierArguments.AreValid (arguments : ApplierArguments) : Prop :=
  arguments.depth = .null ∨ ∃ value, arguments.depth = .int value ∧ 1 ≤ value

/-- What came of constructions and closings, by the numbers of the appliers. -/
inductive Deed where
  | made (number : Nat)
  | closed (number : Nat)

/-- An applier was made, and has not been closed since. The latest deed is the first. -/
def IsOpen (deeds : List Deed) (number : Nat) : Prop :=
  ∃ later earlier, deeds = later ++ .made number :: earlier ∧ .closed number ∉ later

/-- An applier was made, and no other one after it. -/
def IsLatest (deeds : List Deed) (number : Nat) : Prop :=
  ∃ later earlier, deeds = later ++ .made number :: earlier ∧ ∀ other, .made other ∉ later

/-- The sessions that come up while maskers are made for them and closed, with what came of it.

Each masker has a number that none had before. Every applier may be closed, and as often as one
likes. Whatever else is asked of the session or recorded, no other party claims or releases it. -/
inductive Session.Bound (oracle : Oracle σ κ) : List Deed → Session σ κ → Prop where
  | created {world : σ} {grammar : Grammar} {vocabulary : Vocabulary} {validates : Bool}
      {records : List Record} {session : Session σ κ} :
      create oracle world grammar vocabulary validates records = .ok session →
      Bound oracle [] session
  | constructed {deeds : List Deed} {session : Session σ κ} {masker : Masker}
      (construction : Construction) (number : Nat) : Bound oracle deeds session →
      .made number ∉ deeds → (construction.make number session).answer = .ok masker →
      Bound oracle (.made number :: deeds) (construction.make number session).state
  | refused {deeds : List Deed} {session : Session σ κ} {fault : Fault}
      (construction : Construction) (number : Nat) : Bound oracle deeds session →
      (construction.make number session).answer = .error fault →
      Bound oracle deeds (construction.make number session).state
  | closed {deeds : List Deed} {session : Session σ κ} (applier : Applier) :
      Bound oracle deeds session → .made applier.number ∈ deeds →
      Bound oracle (.closed applier.number :: deeds) (applier.close session)
  | performed {deeds : List Deed} {session : Session σ κ} (request : Request) :
      Bound oracle deeds session → Bound oracle deeds (session.perform oracle request).state
  | noted {deeds : List Deed} {session : Session σ κ} (records : List Record) :
      Bound oracle deeds session → Bound oracle deeds { session with records }

section

variable {deeds : List Deed} {number other : Nat}

/-- Nothing is open before the first deed. -/
theorem not_isOpen_nil (number : Nat) : ¬IsOpen [] number := by
  rintro ⟨later, earlier, split, _⟩
  simp at split

/-- The applier made last is open, and so is every other one that was. -/
theorem isOpen_made_iff : IsOpen (.made number :: deeds) other ↔
    other = number ∨ IsOpen deeds other := by
  -- The latest deed is either the opening itself, or it comes after that.
  constructor
  · rintro ⟨_ | ⟨latest, later⟩, earlier, split, stays⟩
    · exact .inl (Deed.made.inj (List.cons.inj split).1).symm
    · exact .inr ⟨later, earlier, (List.cons.inj split).2, fun shut => stays (.tail latest shut)⟩
  · rintro (rfl | ⟨later, earlier, rfl, stays⟩)
    · exact ⟨[], deeds, rfl, List.not_mem_nil⟩
    · exact ⟨.made number :: later, earlier, rfl, by simpa using stays⟩

/-- The applier closed last is not open, and every other one stays as it was. -/
theorem isOpen_closed_iff : IsOpen (.closed number :: deeds) other ↔
    other ≠ number ∧ IsOpen deeds other := by
  -- The latest deed opens nothing, so it comes after the opening and has to be of another one.
  constructor
  · rintro ⟨_ | ⟨latest, later⟩, earlier, split, stays⟩
    · cases (List.cons.inj split).1
    · obtain ⟨rfl, rest⟩ := List.cons_eq_cons.mp split
      refine ⟨?_, later, earlier, rest, fun shut => stays (.tail _ shut)⟩
      rintro rfl
      exact stays List.mem_cons_self
  · rintro ⟨differs, later, earlier, rfl, stays⟩
    exact ⟨.closed number :: later, earlier, rfl, by simpa [differs] using stays⟩

end

section

variable {oracle : Oracle σ κ} {deeds : List Deed} {session : Session σ κ}

/-- Options are accepted just if the depth that is given for them is valid. -/
theorem ApplierArguments.exists_override_iff (arguments : ApplierArguments)
    (options : ApplierOptions) :
    (∃ result, options.override arguments.depth arguments.debug = .ok result) ↔
      arguments.AreValid := by
  obtain ⟨_, depth, debug⟩ := arguments
  have positive : (1 : Int) ≤ options.depth := by exact_mod_cast options.depth_pos
  simp only [ApplierOptions.override, AreValid]
  cases depth with
  | null =>
    -- Without a depth of its own, it is that of the options, which are valid.
    cases debug <;> simp [Json.isNull, ApplierOptions.make, positive]
  | int value =>
    by_cases valid : 1 ≤ value <;> simp [Json.isNull, ApplierOptions.make, valid]
  | _ => simp [Json.isNull, ApplierOptions.make]

/-- A session may be claimed for an applier: nobody holds it, or that applier does. -/
def Session.IsFreeFor (session : Session σ κ) (number : Nat) : Prop :=
  session.owner = none ∨ session.owner = some (.applier number)

/-- A claim is refused and leaves no trace, or it binds a session that is free. -/
theorem Session.claim_cases (session : Session σ κ) (number : Nat) :
    (¬session.IsFreeFor number ∧ session.claim (.applier number) = ⟨.error .owned, session⟩) ∨
      session.IsFreeFor number ∧ session.claim (.applier number) =
        ⟨.ok (), { session with owner := some (.applier number) }⟩ := by
  simp only [IsFreeFor, claim]
  -- A claim succeeds on a free session, and on one that the claimant has.
  cases session.owner with
  | none => exact .inr ⟨.inl rfl, rfl⟩
  | some owner =>
    by_cases same : owner = .applier number
    · exact .inr ⟨.inr (congrArg some same), by simp [same]⟩
    · exact .inl ⟨by simp [same], by simp [same]⟩

/-- An applier is refused and leaves no trace, or it binds a session that is free. -/
theorem Applier.make_cases (number : Nat) (arguments : ApplierArguments) (session : Session σ κ) :
    (∃ fault, make number arguments session = ⟨.error fault, session⟩ ∧
      ¬(arguments.AreValid ∧ session.IsFreeFor number) ∧ (arguments.AreValid → fault = .owned)) ∨
    ∃ applier, applier.number = number ∧ make number arguments session =
        ⟨.ok applier, { session with owner := some (.applier number) }⟩ ∧
      arguments.AreValid ∧ session.IsFreeFor number := by
  have valid := arguments.exists_override_iff (arguments.options.getD .standard)
  simp only [make]
  -- The options are looked at first, and only then the session is claimed.
  cases given : (arguments.options.getD .standard).override arguments.depth arguments.debug with
  | error fault =>
    have wrong : ¬arguments.AreValid := by simp [← valid, given]
    exact .inl ⟨fault, rfl, fun both => wrong both.1, fun right => absurd right wrong⟩
  | ok options =>
    have right : arguments.AreValid := valid.mp ⟨options, given⟩
    rcases session.claim_cases number with ⟨held, claimed⟩ | ⟨free, claimed⟩
    · exact .inl ⟨.owned, by rw [claimed]; rfl, fun both => held both.2, fun _ => rfl⟩
    · exact .inr ⟨_, rfl, by rw [claimed]; rfl, right, free⟩

/-- So is whatever is made with an applier. -/
theorem Construction.make_cases (construction : Construction) (number : Nat)
    (session : Session σ κ) :
    (∃ fault, construction.make number session = ⟨.error fault, session⟩ ∧
      ¬(construction.arguments.AreValid ∧ session.IsFreeFor number) ∧
        (construction.arguments.AreValid → fault = .owned)) ∨
    ∃ masker, masker.inner.number = number ∧ construction.make number session =
        ⟨.ok masker, { session with owner := some (.applier number) }⟩ ∧
      construction.arguments.AreValid ∧ session.IsFreeFor number := by
  rcases Applier.make_cases number construction.arguments session with
    ⟨fault, refused, why⟩ | ⟨applier, numbered, made, why⟩
  · -- A processor is made of an applier, and fails just as the applier does.
    refine .inl ⟨fault, ?_, why⟩
    cases construction <;> simp_all [make, arguments, Processor.make, Except.map]
  · cases construction with
    | applier arguments =>
      refine .inr ⟨.applier applier, numbered, ?_, why⟩
      simp_all [make, Construction.arguments, Except.map]
    | processor arguments promptLength =>
      refine .inr ⟨.processor ⟨applier, promptLength, 0⟩, numbered, ?_, why⟩
      simp_all [make, Construction.arguments, Processor.make, Except.map]

namespace Session

/-- Whoever holds a session is told by what came of constructions and closings. -/
structure HeldAfter (deeds : List Deed) (session : Session σ κ) : Prop where
  holder : ∀ number, session.owner = some (.applier number) ↔ IsOpen deeds number
  applier : ∀ owner, session.owner = some owner → ∃ number, owner = .applier number
  latest : ∀ number, IsOpen deeds number → IsLatest deeds number

namespace HeldAfter

variable {number : Nat}

/-- A session is held by nobody just if no applier is open. -/
theorem owner_eq_none_iff (held : session.HeldAfter deeds) :
    session.owner = none ↔ ∀ number, ¬IsOpen deeds number := by
  -- The owner of a session is always an applier, and that one is open.
  constructor
  · intro free number opened
    have taken := (held.holder number).mpr opened
    rw [free] at taken
    cases taken
  · intro shut
    cases owner : session.owner with
    | none => rfl
    | some party =>
      obtain ⟨number, rfl⟩ := held.applier party owner
      exact absurd ((held.holder number).mp owner) (shut number)

/-- An applier that is not made yet can claim the session just if nobody holds it. -/
theorem isFreeFor_iff (held : session.HeldAfter deeds) (fresh : .made number ∉ deeds) :
    session.IsFreeFor number ↔ ∀ other, ¬IsOpen deeds other := by
  rw [← held.owner_eq_none_iff, IsFreeFor, or_iff_left]
  -- An applier that holds the session was made.
  rw [held.holder]
  rintro ⟨later, earlier, rfl, _⟩
  exact fresh (by simp)

/-- A new applier holds the session from now on. -/
theorem constructed (number : Nat) (shut : ∀ other, ¬IsOpen deeds other) :
    ({ session with owner := some (.applier number) } : Session σ κ).HeldAfter
      (.made number :: deeds) where
  holder other := by
    rw [isOpen_made_iff, or_iff_left (shut other)]
    simp [eq_comm]
  applier owner taken := ⟨number, (Option.some.inj taken).symm⟩
  latest other opened := by
    -- No other one was open, so the one that is was just made.
    obtain rfl := (isOpen_made_iff.mp opened).resolve_right (shut other)
    exact ⟨[], deeds, rfl, fun _ => List.not_mem_nil⟩

/-- An applier that is closed does not hold the session any more, and no other one is affected. -/
theorem closed (held : session.HeldAfter deeds) (applier : Applier) :
    (applier.close session).HeldAfter (.closed applier.number :: deeds) where
  holder number := by
    rw [isOpen_closed_iff, ← held.holder number]
    simp only [Applier.close, release]
    -- The session is given up only by its holder.
    split
    · rename_i holds
      simp [holds, eq_comm]
    · rename_i differs
      refine (and_iff_right_of_imp ?_).symm
      rintro holds rfl
      exact differs holds
  applier owner taken := by
    simp only [Applier.close, release] at taken
    split at taken
    · cases taken
    · exact held.applier owner taken
  latest number opened := by
    obtain ⟨later, earlier, rfl, last⟩ := held.latest number (isOpen_closed_iff.mp opened).2
    exact ⟨.closed applier.number :: later, earlier, rfl, fun other => by simpa using last other⟩

end HeldAfter

/-- In every session that comes up, the holder is the one that is open. -/
theorem Bound.heldAfter (bound : Bound oracle deeds session) : session.HeldAfter deeds := by
  induction bound with
  | created created =>
    -- A new session is held by nobody.
    obtain ⟨cursor, size, _, _, rfl⟩ := create_eq_ok_iff.mp created
    exact ⟨fun number => iff_of_false nofun (not_isOpen_nil number), nofun,
      fun number opened => absurd opened (not_isOpen_nil number)⟩
  | @constructed deeds session masker construction number _ fresh made held =>
    rcases construction.make_cases number session with ⟨_, refused, _⟩ | ⟨_, _, turn, _, free⟩
    · rw [refused] at made
      cases made
    · rw [turn]
      exact .constructed number ((held.isFreeFor_iff fresh).mp free)
  | @refused deeds session fault construction number _ failed held =>
    rcases construction.make_cases number session with ⟨_, refused, _⟩ | ⟨_, _, turn, _⟩
    · rwa [refused]
    · rw [turn] at failed
      cases failed
  | closed applier _ _ held => exact held.closed applier
  | @performed deeds session request _ held =>
    have same := (SameTerms.perform oracle session request).owner
    exact ⟨fun number => same ▸ held.holder number, fun owner => same ▸ held.applier owner,
      held.latest⟩
  | noted records _ held => exact ⟨held.holder, held.applier, held.latest⟩

end Session

/--
A session is held by the applier that was made last and not closed since, or by nobody.

A construction succeeds just if its options are valid and no applier holds the session, and it
leaves the session alone if it fails. Closing an applier frees the session if that holds it, and
does nothing if not. No request changes the holder.
-/
theorem Session.holder_is_latest_open (bound : Session.Bound oracle deeds session) :
    (∀ number, (session.owner = some (.applier number) ↔ IsOpen deeds number) ∧
      (IsOpen deeds number → IsLatest deeds number)) ∧
    (session.owner = none ↔ ∀ number, ¬IsOpen deeds number) ∧
    (∀ (construction : Construction) (number : Nat), .made number ∉ deeds →
      let turn := construction.make number session
      ((∃ masker, turn.answer = .ok masker) ↔
        construction.arguments.AreValid ∧ ∀ other, ¬IsOpen deeds other) ∧
      (∀ masker, turn.answer = .ok masker → masker.inner.number = number ∧
        turn.state = { session with owner := some (.applier number) }) ∧
      ∀ fault, turn.answer = .error fault → turn.state = session ∧
        (construction.arguments.AreValid → fault = .owned)) ∧
    (∀ applier : Applier,
      (IsOpen deeds applier.number → applier.close session = { session with owner := none }) ∧
      (¬IsOpen deeds applier.number → applier.close session = session)) ∧
    ∀ request, (session.perform oracle request).state.owner = session.owner := by
  -- What holds after all deeds so far decides what any further one does.
  have held := bound.heldAfter
  refine ⟨fun number => ⟨held.holder number, held.latest number⟩, held.owner_eq_none_iff, ?_, ?_,
    fun request => (Session.SameTerms.perform oracle session request).owner⟩
  · intro construction number fresh
    rw [← held.isFreeFor_iff fresh]
    rcases construction.make_cases number session with
      ⟨fault, turn, wrong, why⟩ | ⟨masker, numbered, turn, right⟩
    · rw [turn]
      exact ⟨iff_of_false nofun wrong, nofun, fun other same => ⟨rfl, Except.error.inj same ▸ why⟩⟩
    · rw [turn]
      exact ⟨iff_of_true ⟨masker, rfl⟩ right,
        fun other same => ⟨Except.ok.inj same ▸ numbered, rfl⟩, nofun⟩
  · intro applier
    rw [← held.holder]
    exact ⟨fun holds => if_pos holds, fun differs => if_neg differs⟩

/-- An applier that is closed once more does not free the session of the processor after it. -/
theorem Session.holder_is_latest_open_pairs :
    let first : Applier := ⟨0, 3, .bool false, .zero⟩
    let bound := ((Construction.applier ⟨none, .null, .null⟩).make 0
      (Automata.alternatingSession false)).state
    let session := first.close
      ((Construction.processor ⟨none, .int 3, .null⟩ .null).make 1 (first.close bound)).state
    session.owner = some (.applier 1) ∧
      ∀ construction : Construction, ¬∃ masker, (construction.make 2 session).answer = .ok masker := by
  intro first bound session
  have held : Session.Bound Automata.alternating.oracle [.closed 0, .made 1, .closed 0, .made 0]
      session := by
    refine .closed first (.constructed _ 1 (.closed first (.constructed _ 0
      (.created (Automata.alternating_create false)) (by simp) rfl) ?_) ?_ rfl) ?_ <;> simp [first]
  -- The first applier is closed twice, and the second time it holds nothing any more.
  have opened : IsOpen [.closed 0, .made 1, .closed 0, .made 0] 1 := ⟨[.closed 0], _, rfl, by simp⟩
  obtain ⟨holder, _, constructed, _⟩ := Session.holder_is_latest_open held
  refine ⟨((holder 1).1).mpr opened, fun construction made => ?_⟩
  exact ((constructed construction 2 (by simp)).1.mp made).2 1 opened

end

end ConstrainedDecoding
