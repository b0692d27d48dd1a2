import ConstrainedDecoding.Proofs.Session.Accounted
import ConstrainedDecoding.Proofs.Session.Place

/-! A session asks for a mask at most once at each place, and for no single token after that. -/

namespace ConstrainedDecoding

variable {σ κ : Type}

/-- A use of an oracle that tells which tokens are admitted. -/
def OracleCall.tellsTokens : OracleCall → Bool
  | probe _ | mask => true
  | compile | transition _ | accepting | stopReason | restart => false

/-- After a mask, the oracle is asked for no other one and for no token before the next move. -/
def IsFrugal (calls : List OracleCall) : Prop :=
  ∀ before between next after, calls = before ++ .mask :: between ++ next :: after →
    (∀ call ∈ between, call.isMove = false) → next.tellsTokens = false

/-- Every mask that the oracle was asked for is outdated by a move after it. -/
def IsUnmasked (calls : List OracleCall) : Prop :=
  ∀ before after, calls = before ++ .mask :: after → ∃ call ∈ after, call.isMove = true

section

variable {calls : List OracleCall} {next : OracleCall}

/-- No mask was asked for before the first use. -/
theorem isUnmasked_nil : IsUnmasked [] := by
  rintro before after split
  simp at split

/-- So nothing was asked for too often. -/
theorem isFrugal_nil : IsFrugal [] := by
  rintro before between next after split
  simp at split

/-- Masks stay outdated until the oracle is asked for a new one. -/
theorem IsUnmasked.snoc (unmasked : IsUnmasked calls) (other : next ≠ .mask) :
    IsUnmasked (calls ++ [next]) := by
  intro before after split
  -- A mask that was asked for stands further back, and a move comes after it.
  rcases snoc_split split with ⟨_, same, _⟩ | ⟨middle, rfl, earlier⟩
  · exact absurd same.symm other
  · obtain ⟨call, member, moves⟩ := unmasked before middle earlier
    exact ⟨call, by simp [member], moves⟩

/-- A move outdates all masks before it. -/
theorem IsUnmasked.of_move (calls : List OracleCall) (moves : next.isMove = true) :
    IsUnmasked (calls ++ [next]) := by
  intro before after split
  -- The move comes after any mask that was asked for.
  rcases snoc_split split with ⟨_, rfl, _⟩ | ⟨middle, rfl, _⟩
  · cases moves
  · exact ⟨next, by simp, moves⟩

/-- An oracle may be asked about tokens while all masks are outdated, and for anything else. -/
theorem IsFrugal.snoc (frugal : IsFrugal calls)
    (unmasked : next.tellsTokens = true → IsUnmasked calls) : IsFrugal (calls ++ [next]) := by
  intro before between use after split stays
  rcases snoc_split split with ⟨rfl, rfl, _⟩ | ⟨middle, _, earlier⟩
  · -- A move would have to be between the mask and the last use.
    rw [← Bool.not_eq_true]
    intro tells
    obtain ⟨call, member, moves⟩ := unmasked tells before between rfl
    rw [stays call member] at moves
    cases moves
  · exact frugal before between use middle earlier stays

/-- What tells of no tokens may be asked for at any time. -/
theorem IsFrugal.snoc_quiet (frugal : IsFrugal calls) (quiet : next.tellsTokens = false) :
    IsFrugal (calls ++ [next]) :=
  frugal.snoc fun tells => absurd tells (by simp [quiet])

end

/-- Wherever an oracle stands, it tells of each token, and its masks have an entry for each.

Moves may fail, and nothing is said of where they lead to then. -/
structure Oracle.Forthcoming (oracle : Oracle σ κ) (size : Nat) (fits : κ → σ → Prop) : Prop where
  probe {cursor : κ} {world : σ} {token : Int} : fits cursor world → 0 ≤ token → token < size →
    ∃ admits, (oracle.probe busy cursor token world).Tells (.ok admits) (fits cursor)
  mask {cursor : κ} {world : σ} : fits cursor world →
    ∃ mask : Mask, mask.length = size ∧ (oracle.mask cursor world).Tells (.ok mask) (fits cursor)
  accepting {cursor : κ} {world : σ} : fits cursor world →
    fits cursor (oracle.accepting cursor world).state
  stopReason {cursor : κ} {world : σ} : fits cursor world →
    fits cursor (oracle.stopReason cursor world).state
  compiled {grammar : Grammar} {world : σ} {cursor : κ} :
    (oracle.compile grammar world).answer = .ok cursor →
    fits cursor (oracle.compile grammar world).state
  moved {cursor next : κ} {world : σ} {token : Int} : fits cursor world →
    (oracle.transition busy cursor token world).answer = .ok next →
    fits next (oracle.transition busy cursor token world).state
  restarted {cursor next : κ} {world : σ} {grammar : Grammar} :
    (oracle.restart cursor grammar world).answer = .ok next →
    fits next (oracle.restart cursor grammar world).state

namespace Session

variable {oracle : Oracle σ κ} {fits : κ → σ → Prop} {session : Session σ κ}

/-- A session can be told of tokens, without a mask and without being poisoned. -/
structure Bare (fits : κ → σ → Prop) (session : Session σ κ) : Prop where
  usable : session.poison = none
  unmasked : session.mask = none
  fits : fits session.cursor session.world

/-- Such a session probes a token of its vocabulary, and denies any other one. -/
theorem Bare.admits (bare : session.Bare fits) (forthcoming : oracle.Forthcoming session.size fits)
    (token : Int) :
    ∃ admits world, fits session.cursor world ∧ session.admits oracle token =
      ⟨.ok admits, { session with
        world
        asked := session.asked ++
          if 0 ≤ token ∧ token < session.size then [.probe token] else [] }⟩ := by
  obtain ⟨usable, unmasked, fits⟩ := bare
  simp only [Session.admits, whenUsable_of_usable usable]
  -- Only a token inside the vocabulary is asked about, since no mask is there to tell.
  by_cases inside : 0 ≤ token ∧ token < session.size
  · obtain ⟨admits, answer, stays⟩ := forthcoming.probe fits inside.1 inside.2
    refine ⟨admits, _, stays, ?_⟩
    rw [if_neg (by simpa using inside), if_pos inside]
    simp only [unmasked, consult, reentry_of_usable usable, answer]
  · refine ⟨false, session.world, fits, ?_⟩
    rw [if_pos (by simp; omega), if_neg inside, List.append_nil]

/-- It makes a mask, and keeps it. -/
theorem Bare.fullMask (bare : session.Bare fits)
    (forthcoming : oracle.Forthcoming session.size fits) :
    ∃ mask world, fits session.cursor world ∧ session.fullMask oracle =
      ⟨.ok mask, { session with
        world, mask := some mask, asked := session.asked ++ [.mask] }⟩ := by
  obtain ⟨usable, unmasked, fits⟩ := bare
  obtain ⟨mask, length, answer, stays⟩ := forthcoming.mask fits
  -- The mask has the right length, so it is kept.
  refine ⟨mask, _, stays, ?_⟩
  simp only [Session.fullMask, whenUsable_of_usable usable, unmasked, consult, answer, if_pos length]

/-- A session that is poisoned, or that has its mask, does not ask about a token. -/
theorem admits_of_not_bare (settled : session.poison ≠ none ∨ session.mask ≠ none) (token : Int) :
    (session.admits oracle token).state = session := by
  simp only [Session.admits, whenUsable]
  split
  · rfl
  · rename_i usable
    -- There is a mask, so it is read.
    obtain ⟨mask, kept⟩ := Option.ne_none_iff_exists'.mp (settled.resolve_left (absurd usable))
    rw [kept]
    split <;> rfl

/-- Neither does it ask for a mask. -/
theorem fullMask_of_not_bare (settled : session.poison ≠ none ∨ session.mask ≠ none) :
    (session.fullMask oracle).state = session := by
  simp only [Session.fullMask, whenUsable]
  -- A poisoned session is refused, and any other one that is settled has its mask.
  split
  · rfl
  · rename_i usable
    obtain ⟨mask, kept⟩ := Option.ne_none_iff_exists'.mp (settled.resolve_left (absurd usable))
    rw [kept]

/-- A session at a place that its oracle answers for, where it asked for the mask that it keeps. -/
structure Thrifty (fits : κ → σ → Prop) (session : Session σ κ) : Prop where
  fits : session.poison = none → fits session.cursor session.world
  unmasked : session.mask = none → IsUnmasked session.asked
  frugal : IsFrugal session.asked

namespace Thrifty

/-- A thrifty session without a mask is bare, unless it is poisoned. -/
theorem bare (thrifty : session.Thrifty fits) (usable : session.poison = none)
    (unmasked : session.mask = none) : session.Bare fits :=
  ⟨usable, unmasked, thrifty.fits usable⟩

/-- A use of the oracle that does not tell of tokens does not count. -/
theorem consult {α : Type} (thrifty : session.Thrifty fits) {call : OracleCall}
    (quiet : call.tellsTokens = false) {operation : σ → Turn σ α}
    (stays : fits session.cursor (operation session.world).state) :
    (session.consult call operation).state.Thrifty fits where
  fits _ := stays
  unmasked none := (thrifty.unmasked none).snoc (by rintro rfl; cases quiet)
  frugal := thrifty.frugal.snoc_quiet quiet

/-- A session stays thrifty by a query, because it asks about tokens only without a mask. -/
theorem query (thrifty : session.Thrifty fits)
    (forthcoming : oracle.Forthcoming session.size fits) {request : Request}
    (query : request.isQuery = true) : (session.perform oracle request).state.Thrifty fits := by
  rcases Option.eq_none_or_eq_some session.poison with usable | ⟨cause, poisoned⟩
  · obtain ⟨token, rfl⟩ | rfl | rfl | rfl := Request.query_cases query
    · -- Without a mask the token is asked about, which is allowed since no mask was asked for yet.
      by_cases kept : session.mask = none
      · obtain ⟨admits, world, stays, asked⟩ :=
          (thrifty.bare usable kept).admits forthcoming token
        have unmasked := thrifty.unmasked kept
        simp only [perform, Turn.reply, asked]
        refine ⟨fun _ => stays, fun _ => ?_, ?_⟩
        · split
          · exact unmasked.snoc (by simp)
          · rwa [List.append_nil]
        · split
          · exact thrifty.frugal.snoc fun _ => unmasked
          · simpa using thrifty.frugal
      · simpa only [perform, Turn.reply, admits_of_not_bare (.inr kept)] using thrifty
    · by_cases kept : session.mask = none
      · obtain ⟨mask, world, stays, made⟩ := (thrifty.bare usable kept).fullMask forthcoming
        simp only [perform, Turn.reply, made]
        refine ⟨fun _ => stays, fun none => ?_, thrifty.frugal.snoc fun _ => thrifty.unmasked kept⟩
        exact absurd none (Option.some_ne_none mask)
      · simpa only [perform, Turn.reply, fullMask_of_not_bare (.inr kept)] using thrifty
    · simp only [perform, Turn.reply, isComplete, whenUsable_of_usable usable]
      exact thrifty.consult rfl (forthcoming.accepting (thrifty.fits usable))
    · simp only [perform, Turn.reply, stopReason, whenUsable_of_usable usable]
      exact thrifty.consult rfl (forthcoming.stopReason (thrifty.fits usable))
  · rwa [query_of_poison poisoned query]

/-- A transition outdates the mask, which is dropped, even if it fails. -/
theorem transit (thrifty : session.Thrifty fits)
    (forthcoming : oracle.Forthcoming session.size fits) (usable : session.poison = none)
    (token : Int) : (session.transit oracle token).state.Thrifty fits := by
  -- After the transition there is no mask, whatever was asked before it.
  have unmasked : IsUnmasked (session.asked ++ [.transition token]) := .of_move session.asked rfl
  have frugal : IsFrugal (session.asked ++ [.transition token]) := thrifty.frugal.snoc_quiet rfl
  simp only [Session.transit, Session.consult, reentry_of_usable usable]
  cases moved : (oracle.transition busy session.cursor token session.world).answer with
  | error fault =>
    exact ⟨fun usable => absurd usable (Option.some_ne_none _), fun _ => unmasked, frugal⟩
  | ok cursor =>
    exact ⟨fun _ => forthcoming.moved (thrifty.fits usable) moved, fun _ => unmasked, frugal⟩

/-- An advance makes a query at most, and then a transition. -/
theorem advance (thrifty : session.Thrifty fits)
    (forthcoming : oracle.Forthcoming session.size fits) (token : Int) :
    (session.advance oracle token).state.Thrifty fits := by
  cases refused : session.refusal? with
  | some fault => simpa only [Session.advance, refused] using thrifty
  | none =>
    -- Only a session that is not poisoned is not refused, and it stays so by the check.
    have usable : session.engaged.poison = none := by
      cases poison : session.poison with
      | none => exact poison
      | some cause => simp [refusal?, poison] at refused
    have start : session.engaged.Thrifty fits := ⟨thrifty.fits, thrifty.unmasked, thrifty.frugal⟩
    have query : (Request.admits token).isQuery = true := rfl
    have checked : (session.engaged.admits oracle token).state.Thrifty fits :=
      start.query forthcoming query
    obtain ⟨world, asked, same⟩ := admits_eq oracle session.engaged token
    have ended : (session.engaged.checkedTransit oracle token).state.Thrifty fits := by
      obtain ⟨fault, refused, _⟩ | ⟨ready, rfl | rfl, moves⟩ :=
        session.engaged.checkedTransit_cases oracle token
      · rwa [refused]
      · exact moves ▸ start.transit forthcoming usable token
      · rw [same] at checked moves
        exact moves ▸ checked.transit forthcoming usable token
    simp only [Session.advance, refused]
    exact ⟨ended.fits, ended.unmasked, ended.frugal⟩

/-- A restart outdates the mask as well, and it leads to a place that the oracle answers for. -/
theorem reset (thrifty : session.Thrifty fits)
    (forthcoming : oracle.Forthcoming session.size fits) (grammar : Option Grammar) :
    (session.reset oracle grammar).state.Thrifty fits := by
  -- After the restart there is no mask, whatever was asked before it.
  have unmasked : IsUnmasked (session.asked ++ [.restart]) := .of_move session.asked rfl
  have frugal : IsFrugal (session.asked ++ [.restart]) := thrifty.frugal.snoc_quiet rfl
  simp only [Session.reset, Session.consult]
  cases moved : (oracle.restart session.cursor (grammar.getD session.grammar)
      session.world).answer with
  | error fault =>
    exact ⟨fun usable => absurd usable (Option.some_ne_none _), fun _ => unmasked, frugal⟩
  | ok cursor => exact ⟨fun _ => forthcoming.restarted moved, fun _ => unmasked, frugal⟩

end Thrifty

/-- Every session that comes up is thrifty, if its oracle is forthcoming. -/
theorem Reachable.thrifty (reachable : Reachable oracle session)
    (forthcoming : oracle.Forthcoming session.size fits) : session.Thrifty fits := by
  induction reachable using Reachable.requestInduction with
  | created created =>
    obtain ⟨cursor, size, compiled, _, rfl⟩ := create_eq_ok_iff.mp created
    -- So far, the oracle was asked to compile, and not for any mask.
    have unmasked : IsUnmasked [.compile] := isUnmasked_nil.snoc (by simp)
    have frugal : IsFrugal [.compile] := isFrugal_nil.snoc_quiet rfl
    exact ⟨fun _ => forthcoming.compiled compiled, fun _ => unmasked, frugal⟩
  | @performed session request _ thrifty =>
    rw [(SameTerms.perform oracle session request).size] at forthcoming
    obtain query | ⟨token, rfl⟩ | ⟨grammar, rfl⟩ := request.query_or_move
    · exact (thrifty forthcoming).query forthcoming query
    · exact (thrifty forthcoming).advance forthcoming token
    · exact (thrifty forthcoming).reset forthcoming grammar
  | unseen _ _ _ _ _ thrifty => exact { thrifty forthcoming with }

end Session

end ConstrainedDecoding
