import ConstrainedDecoding.Session.Basic

/-! Requests to a session, and runs of them. -/

namespace ConstrainedDecoding

/-- What can be asked of a session. -/
inductive Request where
  | admits (token : Int)
  | mask
  | advance (token : Int)
  | isComplete
  | stopReason
  | reset (grammar : Option Grammar)

/-- What a session answers. -/
inductive Reply where
  | done
  | flag (value : Bool)
  | mask (mask : Mask)
  | reason (text : Text)
  deriving DecidableEq

/-- A turn with its answer as a reply. -/
def Turn.reply {σ α : Type} (turn : Turn σ α) (reply : α → Reply) : Turn σ Reply :=
  ⟨turn.answer.map reply, turn.state⟩

namespace Session

variable {σ κ : Type}

/-- The session's answer to a request. -/
def perform (oracle : Oracle σ κ) (session : Session σ κ) : Request → Turn (Session σ κ) Reply
  | .admits token => (session.admits oracle token).reply .flag
  | .mask => (session.fullMask oracle).reply .mask
  | .advance token => (session.advance oracle token).reply fun _ => .done
  | .isComplete => (session.isComplete oracle).reply .flag
  | .stopReason => (session.stopReason oracle).reply .reason
  | .reset grammar => (session.reset oracle grammar).reply fun _ => .done

/-- The answers to requests one after the other, and the session after them. -/
def run (oracle : Oracle σ κ) (session : Session σ κ) :
    List Request → List (Except Fault Reply) × Session σ κ
  | [] => ([], session)
  | request :: rest =>
    let turn := session.perform oracle request
    let (replies, last) := run oracle turn.state rest
    (turn.answer :: replies, last)

end Session

end ConstrainedDecoding
