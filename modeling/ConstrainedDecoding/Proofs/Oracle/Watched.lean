import ConstrainedDecoding.Session.Basic
import Mathlib.Data.List.Induction

/-! Oracles that keep a log of their uses, and what the log tells of whoever used them. -/

namespace ConstrainedDecoding

variable {σ κ α : Type}

/-- Why a turn has no answer, if it has none. -/
def Turn.failure? (turn : Turn σ α) : Option Fault :=
  match turn.answer with
  | .ok _ => none
  | .error fault => some fault

namespace OracleCall

/-- A use that may leave the cursor somewhere else. -/
def isMove : OracleCall → Bool
  | transition _ | restart => true
  | compile | probe _ | mask | accepting | stopReason => false

end OracleCall

/-- A use of an oracle, and the failure that it ended in, if it failed. -/
structure Consultation where
  call : OracleCall
  failure : Option Fault

namespace Consultation

/-- A use that should have moved the cursor, and failed. -/
def isFailedMove (entry : Consultation) : Bool :=
  entry.call.isMove && entry.failure.isSome

/-- A restart that did not fail. -/
def isFreshStart : Consultation → Bool
  | ⟨.restart, none⟩ => true
  | _ => false

end Consultation

/-- The world of an oracle, and the uses made of it since it last compiled a grammar. -/
structure Watched (σ : Type) where
  world : σ
  log : List Consultation

namespace Watched

/-- A use of the oracle, written down with what came of it. -/
def record (call : OracleCall) (operation : σ → Turn σ α) (watched : Watched σ) :
    Turn (Watched σ) α :=
  let turn := operation watched.world
  ⟨turn.answer, ⟨turn.state, watched.log ++ [⟨call, turn.failure?⟩]⟩⟩

end Watched

/-- The oracle with a log, which a new grammar opens anew. It answers as it does without one. -/
def Oracle.watched (oracle : Oracle σ κ) : Oracle (Watched σ) κ where
  compile grammar watched := Watched.record .compile (oracle.compile grammar) ⟨watched.world, []⟩
  probe reentry cursor token := Watched.record (.probe token) (oracle.probe reentry cursor token)
  mask cursor := Watched.record .mask (oracle.mask cursor)
  transition reentry cursor token :=
    Watched.record (.transition token) (oracle.transition reentry cursor token)
  accepting cursor := Watched.record .accepting (oracle.accepting cursor)
  stopReason cursor := Watched.record .stopReason (oracle.stopReason cursor)
  restart cursor grammar := Watched.record .restart (oracle.restart cursor grammar)

/-- A move failed, and no restart has succeeded since. -/
def IsStranded (log : List Consultation) : Prop :=
  ∃ before entry after, log = before ++ entry :: after ∧ entry.isFailedMove = true ∧
    ∀ later ∈ after, later.isFreshStart = false

/-- While the cursor is lost, the oracle is used for nothing but restarts. -/
def IsOrderly (log : List Consultation) : Prop :=
  ∀ before entry after, log = before ++ entry :: after → IsStranded before → entry.call = .restart

/-- What a log comes to: why the cursor is lost, if it is, and the tokens taken since the start. -/
structure Account where
  loss : Option Text
  taken : List Int

namespace Account

/-- Nothing is lost, and no token was taken. -/
def opening : Account := ⟨none, []⟩

/-- The account after one more use. Queries do not count. -/
def enter (account : Account) : Consultation → Account
  | ⟨.transition token, none⟩ => { account with taken := account.taken ++ [token] }
  | ⟨.transition _, some fault⟩ => { account with loss := some fault.message }
  | ⟨.restart, none⟩ => opening
  -- A cursor that could not be restarted is lost, but the tokens are not given back.
  | ⟨.restart, some fault⟩ => { account with loss := some ("reset failed: " ++ fault.message) }
  | _ => account

/-- The account of a whole log. -/
def ofLog (log : List Consultation) : Account :=
  log.foldl enter opening

/-- The account of a log goes on with the use that is written down next. -/
@[simp] theorem ofLog_snoc (log : List Consultation) (entry : Consultation) :
    ofLog (log ++ [entry]) = (ofLog log).enter entry := by
  simp [ofLog]

/-- A query does not change the account. -/
theorem enter_query (account : Account) {entry : Consultation} (query : entry.call.isMove = false) :
    account.enter entry = account := by
  obtain ⟨call, failure⟩ := entry
  -- Only transitions and restarts are entered.
  cases call with
  | transition token => simp [OracleCall.isMove] at query
  | restart => simp [OracleCall.isMove] at query
  | compile => rfl
  | probe token => rfl
  | mask => rfl
  | accepting => rfl
  | stopReason => rfl

/-- The cursor is lost by a failed move, and found again by nothing but a fresh start. -/
theorem loss_enter_isSome (account : Account) (entry : Consultation) :
    (account.enter entry).loss.isSome = true ↔
      entry.isFailedMove = true ∨ account.loss.isSome = true ∧ entry.isFreshStart = false := by
  obtain ⟨call, failure⟩ := entry
  -- The uses differ in what they enter, and those that fail from those that do not.
  cases call <;> cases failure <;>
    simp [enter, opening, Consultation.isFailedMove, Consultation.isFreshStart, OracleCall.isMove]

end Account

/-- An entry of a log that goes on with one more is that one, or it was in the log before. -/
theorem snoc_split {log before after : List α} {entry use : α}
    (split : log ++ [entry] = before ++ use :: after) :
    (before = log ∧ use = entry ∧ after = []) ∨
      ∃ middle, after = middle ++ [entry] ∧ log = before ++ use :: middle := by
  -- Both sides end with the same entry, which is found at the end of what comes after.
  induction after using List.reverseRecOn with
  | nil =>
    obtain ⟨rfl, same⟩ := List.append_inj' split rfl
    exact .inl ⟨rfl, (List.singleton_inj.mp same).symm, rfl⟩
  | append_singleton middle last _ =>
    rw [← List.cons_append, ← List.append_assoc] at split
    obtain ⟨rfl, same⟩ := List.append_inj' split rfl
    exact .inr ⟨middle, by rw [same], rfl⟩

/-- A log is stranded by its last use, or it was before and that use was no fresh start. -/
theorem isStranded_snoc (log : List Consultation) (entry : Consultation) :
    IsStranded (log ++ [entry]) ↔
      entry.isFailedMove = true ∨ IsStranded log ∧ entry.isFreshStart = false := by
  constructor
  · rintro ⟨before, failed, after, split, moves, stays⟩
    -- The failed move is the last use, or the last use is one of those after it.
    rcases snoc_split split with ⟨_, rfl, _⟩ | ⟨middle, rfl, rfl⟩
    · exact .inl moves
    · refine .inr ⟨⟨before, failed, middle, rfl, moves, ?_⟩, stays entry (by simp)⟩
      exact fun later member => stays later (by simp [member])
  · rintro (moves | ⟨⟨before, failed, after, rfl, moves, stays⟩, stale⟩)
    · exact ⟨log, entry, [], rfl, moves, by simp⟩
    · refine ⟨before, failed, after ++ [entry], by simp, moves, ?_⟩
      intro later member
      rcases List.mem_append.mp member with member | member
      · exact stays later member
      · rwa [List.mem_singleton.mp member]

/-- The account tells of a loss just where the log is stranded. -/
theorem ofLog_loss_isSome (log : List Consultation) :
    (Account.ofLog log).loss.isSome = true ↔ IsStranded log := by
  -- Both sides go on alike with each use, so the induction is from the end of the log.
  induction log using List.reverseRecOn with
  | nil =>
    refine iff_of_false (by simp [Account.ofLog, Account.opening]) ?_
    rintro ⟨before, failed, after, split, _⟩
    simp at split
  | append_singleton log entry ih =>
    rw [Account.ofLog_snoc, Account.loss_enter_isSome, isStranded_snoc, ih]

/-- An orderly log stays so by a use that is a restart if the cursor is lost. -/
theorem IsOrderly.snoc {log : List Consultation} (orderly : IsOrderly log) {entry : Consultation}
    (restarts : IsStranded log → entry.call = .restart) : IsOrderly (log ++ [entry]) := by
  intro before use after split stranded
  -- The use in question is the last one, or it was in the log before.
  rcases snoc_split split with ⟨rfl, rfl, _⟩ | ⟨middle, _, rfl⟩
  · exact restarts stranded
  · exact orderly before use middle rfl stranded

end ConstrainedDecoding
