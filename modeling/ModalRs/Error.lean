/-
  File:      ModalRs/Error.lean
  Subject:   The client's error type and the gRPC statuses it wraps.
-/
import Mathlib.Logic.Basic

namespace ModalRs

/-- `tonic::Code`. -/
inductive Code where
  | ok | cancelled | unknown | invalidArgument | deadlineExceeded | notFound | alreadyExists
  | permissionDenied | resourceExhausted | failedPrecondition | aborted | outOfRange
  | unimplemented | internal | unavailable | dataLoss | unauthenticated
  deriving DecidableEq, Repr

/-- `tonic::Status`. -/
structure Status where
  code : Code
  message : String
  deriving DecidableEq, Repr

/-- `ModalError`. -/
inductive ModalError where
  | functionTimeout (msg : String)
  | remote (msg : String)
  | internalFailure (msg : String)
  | execution (msg : String)
  | notFound (msg : String)
  | alreadyExists (msg : String)
  | invalid (msg : String)
  | queueEmpty (msg : String)
  | queueFull (msg : String)
  | sandboxFilesystem (msg : String)
  | sandboxTimeout (msg : String)
  | clientClosed (msg : String)
  | execTimeout (msg : String)
  | grpc (status : Status)
  | config (msg : String)
  | serialization (msg : String)
  | other (msg : String)
  deriving DecidableEq, Repr

/-- A reply of the server, its status as the client's error. -/
def statusToError {α : Type} : Except Status α → Except ModalError α
  | .ok a => .ok a
  | .error status => .error (.grpc status)

theorem statusToError_ok {α : Type} {reply : Except Status α} {a : α}
    (h : statusToError reply = .ok a) : reply = .ok a := by
  cases reply with
  | ok a' =>
    cases h
    rfl
  | error status => cases h

/-- An RPC only fails with a status. -/
theorem statusToError_error {α : Type} {reply : Except Status α} {e : ModalError}
    (h : statusToError reply = .error e) : ∃ status, reply = .error status ∧ e = .grpc status := by
  cases reply with
  | ok a => cases h
  | error status =>
    cases h
    exact ⟨status, rfl, rfl⟩

end ModalRs
