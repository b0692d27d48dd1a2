import ConstrainedDecoding.Proofs.Session.Place

/-! However often a session is asked, it answers as it would have at first, and stays in place. -/

namespace ConstrainedDecoding

variable {σ κ γ : Type}

namespace Rules

/-- Every probe agrees with the mask, if there is a mask of the right length. -/
def Agrees (rules : Rules γ) (size : Nat) (state : γ) : Prop :=
  ∀ mask, rules.mask state = .ok mask → mask.length = size →
    ∀ token : Nat, token < size → rules.probe state token = .ok (mask.getD token false)

/-- The probes agree with the masks at every state that a cursor can stand for. -/
def AlwaysAgrees (rules : Rules γ) (stands : Standing σ κ γ) (size : Nat) : Prop :=
  ∀ {cursor : κ} {world : σ} {state : γ}, stands cursor world state → rules.Agrees size state

/-- Rules that are consistent agree, and moreover there is a mask. -/
theorem Consistent.agrees {rules : Rules γ} {size : Nat} {state : γ}
    (consistent : rules.Consistent size state) : rules.Agrees size state := by
  intro mask made _
  obtain ⟨same, makes, _, probes⟩ := consistent
  -- The mask that was made is the one that the probes agree with.
  obtain rfl := Except.ok.inj (made.symm.trans makes)
  exact probes

end Rules

namespace Outline

variable {rules : Rules γ} {outline : Outline γ}

/-- A kept mask has an entry for every token. -/
def Fits (outline : Outline γ) : Prop :=
  ∀ mask, outline.mask = some mask → mask.length = outline.size

/-- There is nothing to forget without a mask. -/
theorem forget_of_none (none : outline.mask = none) : outline.forget = outline := by
  obtain ⟨state, grammar, size, validates, mask, poison, steps⟩ := outline
  cases none
  rfl

/-- Where a mask is kept, there is one that the probes agree with. -/
theorem consistent_of_kept (faithful : outline.Faithful rules) (fits : outline.Fits)
    (agrees : rules.Agrees outline.size outline.state) {mask : Mask}
    (kept : outline.mask = some mask) : rules.Consistent outline.size outline.state :=
  ⟨mask, faithful mask kept, fits mask kept,
    agrees mask (faithful mask kept) (fits mask kept)⟩

/-- The same tokens are admitted without the mask. -/
theorem admits_forget (faithful : outline.Faithful rules) (fits : outline.Fits)
    (agrees : rules.Agrees outline.size outline.state) (token : Int) :
    (outline.admits rules token).answer = (outline.forget.admits rules token).answer := by
  -- A mask that is kept tells the same as a probe, and without one there is nothing to forget.
  cases kept : outline.mask with
  | none => rw [forget_of_none kept]
  | some mask =>
    have consistent := consistent_of_kept faithful fits agrees kept
    exact (admits_agree faithful consistent token).1

/-- The same mask would be made without the one that is kept. -/
theorem fullMask_forget (faithful : outline.Faithful rules) (fits : outline.Fits)
    (agrees : rules.Agrees outline.size outline.state) :
    (outline.fullMask rules).answer = (outline.forget.fullMask rules).answer := by
  -- A mask that is kept is the one that is made anew.
  cases kept : outline.mask with
  | none => rw [forget_of_none kept]
  | some mask =>
    have consistent := consistent_of_kept faithful fits agrees kept
    exact (fullMask_agree faithful consistent).1

end Outline

namespace Session

variable {oracle : Oracle σ κ} {rules : Rules γ} {stands : Standing σ κ γ} {session : Session σ κ}

/-- A kept mask has an entry for every token of the session. -/
def MaskFits (session : Session σ κ) : Prop :=
  ∀ mask, session.mask = some mask → mask.length = session.size

namespace MaskFits

/-- Without a mask there is none that does not fit. -/
theorem of_none (none : session.mask = none) : session.MaskFits := by
  intro mask kept
  simp [none] at kept

/-- A mask that does not fit is not kept. -/
theorem fullMask (fits : session.MaskFits) : (session.fullMask oracle).state.MaskFits := by
  simp only [Session.fullMask, whenUsable]
  split
  · exact fits
  · split
    · exact fits
    · split
      · exact fits
      · -- The length of a new mask is checked before it is kept.
        split
        · rename_i length
          intro mask kept
          cases kept
          exact length
        · exact fits

/-- A transition drops the mask, and so does an advance that makes it. -/
theorem advance (fits : session.MaskFits) (token : Int) :
    (session.advance oracle token).state.MaskFits := by
  unfold Session.advance
  split
  · exact fits
  · -- Either the check ends the advance, or the session is in transit from where the check led.
    rcases checkedTransit_cases oracle session.engaged token with ⟨fault, refused, _⟩ |
      ⟨ready, _, moves⟩
    · obtain ⟨world, asked, checked⟩ := admits_eq oracle session.engaged token
      rw [checked] at refused
      simp only [engaged] at refused
      rw [refused]
      exact fits
    · have dropped : (ready.transit oracle token).state.mask = none := by
        simp only [transit]
        split <;> rfl
      simp only [engaged] at moves
      rw [moves]
      exact .of_none dropped

/-- A reset drops the mask. -/
theorem reset (grammar : Option Grammar) : (session.reset oracle grammar).state.MaskFits := by
  simp only [Session.reset]
  split
  · exact .of_none rfl
  · exact .of_none rfl

/-- Whatever a session is asked, its mask fits. -/
theorem perform (fits : session.MaskFits) (request : Request) :
    (session.perform oracle request).state.MaskFits := by
  -- Only the request for the mask and the moves change the mask.
  cases request with
  | admits token =>
    obtain ⟨world, asked, same⟩ := admits_eq oracle session token
    simp only [Session.perform, Turn.reply, same]
    exact fits
  | mask => exact fits.fullMask
  | advance token => exact fits.advance token
  | isComplete =>
    simp only [Session.perform, Turn.reply, Session.isComplete, whenUsable]
    split
    · exact fits
    · exact fits
  | stopReason =>
    simp only [Session.perform, Turn.reply, Session.stopReason, whenUsable]
    split
    · exact fits
    · exact fits
  | reset grammar => exact reset grammar

end MaskFits

/-- All sessions that come up have masks that fit. -/
theorem Reachable.fits (reachable : Reachable oracle session) : session.MaskFits := by
  -- By induction on how the session came up, which is without a mask.
  induction reachable using Reachable.requestInduction with
  | created created =>
    obtain ⟨_, _, _, _, rfl⟩ := create_eq_ok_iff.mp created
    exact .of_none rfl
  | performed request _ fits => exact fits.perform request
  | unseen _ _ _ _ _ fits => exact fits

/-- The mask of an outline fits if that of the session does. -/
theorem Shows.fits {locked : Bool} {outline : Outline γ}
    (shown : session.Shows stands locked outline) (fits : session.MaskFits) : outline.Fits := by
  obtain ⟨state, _, rfl, _⟩ := shown
  exact fits

/-- Rules that agree wherever a cursor stands agree where a session is. -/
theorem Shows.agrees {locked : Bool} {outline : Outline γ}
    (shown : session.Shows stands locked outline) {size : Nat}
    (agrees : rules.AlwaysAgrees stands size) : rules.Agrees size outline.state := by
  obtain ⟨state, place, rfl, _⟩ := shown
  exact agrees place

/--
Sessions of a kind answer what is asked of them in one way, and stay of the kind.

They are asked about tokens and for the full mask, and records may be written in between.
-/
structure Steady (oracle : Oracle σ κ) (ask : Int → Except Fault Bool) (full : Except Fault Mask)
    (kind : Session σ κ → Prop) : Prop where
  admits : ∀ {session : Session σ κ} (token : Int), kind session →
    (session.admits oracle token).answer = ask token ∧ kind (session.admits oracle token).state
  fullMask : ∀ {session : Session σ κ}, kind session →
    (session.fullMask oracle).answer = full ∧ kind (session.fullMask oracle).state
  noted : ∀ {session : Session σ κ} (records : List Record), kind session →
    kind { session with records := session.records ++ records }

/-- A session is where another one was, with the same outline but for a mask that is right. -/
structure Remains (rules : Rules γ) (stands : Standing σ κ γ) (outline : Outline γ)
    (start session : Session σ κ) : Prop where
  place : start.SamePlace session
  fits : session.MaskFits
  shown : ∃ after : Outline γ, session.Shows stands false after ∧
    after.forget = outline.forget ∧ after.Faithful rules

namespace Remains

variable {outline : Outline γ} {start : Session σ κ}

/-- No query changes that. -/
theorem query (remains : Remains rules stands outline start session)
    (answers : oracle.Answers rules stands) {request : Request} (query : request.isQuery = true) :
    Remains rules stands outline start (session.perform oracle request).state where
  place := remains.place.trans (.query oracle session query)
  fits := remains.fits.perform request
  shown := by
    -- A query changes an outline in its mask only.
    obtain ⟨after, shown, same, faithful⟩ := remains.shown
    exact ⟨_, (query_mirrors answers shown query).2, (Outline.forget_query query).trans same,
      faithful.query query⟩

/-- Neither do records. -/
theorem noted (remains : Remains rules stands outline start session) (records : List Record) :
    Remains rules stands outline start { session with records := session.records ++ records } :=
  ⟨remains.place.noted records, remains.fits, remains.shown⟩

/-- The outline of such a session answers as it would without its mask. -/
theorem exists_outline (remains : Remains rules stands outline start session)
    (agrees : rules.Agrees outline.size outline.state) :
    ∃ after : Outline γ, session.Shows stands false after ∧
      (∀ token, (after.admits rules token).answer =
        (outline.forget.admits rules token).answer) ∧
      (after.fullMask rules).answer = (outline.forget.fullMask rules).answer := by
  obtain ⟨after, shown, same, faithful⟩ := remains.shown
  have fits := shown.fits remains.fits
  -- Only the mask tells the two outlines apart, so they are of one size and at one state.
  have sizes := congrArg Outline.size same
  have states := congrArg Outline.state same
  simp only [Outline.forget] at sizes states
  rw [← sizes, ← states] at agrees
  refine ⟨after, shown, fun token => ?_, ?_⟩
  · rw [Outline.admits_forget faithful fits agrees, same]
  · rw [Outline.fullMask_forget faithful fits agrees, same]

/-- Such sessions are steady. -/
theorem steady (answers : oracle.Answers rules stands)
    (agrees : rules.Agrees outline.size outline.state) (start : Session σ κ) :
    Steady oracle (fun token => (outline.forget.admits rules token).answer)
      (outline.forget.fullMask rules).answer (Remains rules stands outline start) where
  admits token remains := by
    -- The outline may have a mask by now, but it answers as it would without.
    obtain ⟨after, shown, asks, _⟩ := remains.exists_outline agrees
    exact ⟨(admits_mirrors answers shown token).1.trans (asks token),
      remains.query answers (rfl : (Request.admits token).isQuery = true)⟩
  fullMask remains := by
    obtain ⟨after, shown, _, full⟩ := remains.exists_outline agrees
    exact ⟨(fullMask_mirrors answers shown).1.trans full,
      remains.query answers (rfl : Request.mask.isQuery = true)⟩
  noted records remains := remains.noted records

end Remains

/-- Poisoned sessions are steady as well, since they refuse everything. -/
theorem steady_of_poison (oracle : Oracle σ κ) (cause : Text) (start : Session σ κ) :
    Steady oracle (fun _ => .error (.poisoned cause)) (.error (.poisoned cause))
      (fun session => session.poison = some cause ∧ start.SamePlace session) where
  admits token kind := by simpa [admits, whenUsable, kind.1] using kind.2
  fullMask kind := by simpa [fullMask, whenUsable, kind.1] using kind.2
  noted records kind := ⟨kind.1, kind.2.noted records⟩

/-- A session that comes up is of a steady kind, all of them where it is. -/
theorem Reachable.exists_steady (answers : oracle.Answers rules stands)
    (reachable : Reachable oracle session)
    (agrees : rules.AlwaysAgrees stands session.size) :
    ∃ ask full kind, Steady oracle ask full kind ∧ kind session ∧
      ∀ {after : Session σ κ}, kind after → session.SamePlace after := by
  -- A session is steady in its refusals, or in what its rules make of the place it is at.
  cases poison : session.poison with
  | some cause =>
    have steady := steady_of_poison oracle cause session
    exact ⟨_, _, _, steady, ⟨poison, .refl session⟩, fun kind => kind.2⟩
  | none =>
    obtain ⟨outline, shown, faithful⟩ := (reachable.sound answers).usable poison
    have agreesHere := shown.agrees agrees
    rw [shown.size] at agreesHere
    have remains : Remains rules stands outline session session :=
      ⟨.refl session, reachable.fits, outline, shown, rfl, faithful⟩
    exact ⟨_, _, _, Remains.steady answers agreesHere session, remains, fun kind => kind.place⟩

end Session

end ConstrainedDecoding
