/-
  File:      ModalRs/Router/Client.lean
  Subject:   The client of the task command router: token, closing, and reading a process's output.

  The router is whatever the caller of the model wants: each RPC takes the world
  and gives back a reply and the world behind it.

  * `TaskCommandRouterClient`: the task, the router's URL, the token and whether
    the client was closed.
  * `callWithAuthRetry`: an RPC, made again with a new token if it was refused.
  * `execStdioRead`: the chunks of an output from an offset on.
  * `execStdioRead_answered`, `execStdioRead_closed`: one round trip, or none.
-/
import ModalRs.Error

namespace ModalRs

/-- `TaskGetCommandRouterAccessResponse`. -/
structure TaskGetCommandRouterAccessResponse where
  jwt : String
  url : String
  deriving DecidableEq, Repr

/-- `TaskExecStdioFileDescriptor`. -/
inductive TaskExecStdioFileDescriptor where
  | stdout | stderr
  deriving DecidableEq, Repr

/-- `TaskExecStdioReadRequest`. -/
structure TaskExecStdioReadRequest where
  taskId : String
  execId : String
  offset : UInt64
  fileDescriptor : TaskExecStdioFileDescriptor
  deriving DecidableEq, Repr

/-- `TaskExecStdioReadResponse`: a chunk. -/
structure TaskExecStdioReadResponse where
  data : List UInt8
  deriving DecidableEq, Repr

/-- The gRPC calls of the client, each made with a token, and the parser of the token's expiry. -/
structure TaskCommandRouterGrpcClient (ω : Type) where
  taskGetCommandRouterAccess :
    (taskId : String) → ω → Except ModalError TaskGetCommandRouterAccessResponse × ω
  taskExecStdioRead : TaskExecStdioReadRequest → (jwt : String) → ω →
    Except ModalError (List TaskExecStdioReadResponse) × ω
  parseJwtExpiration : (jwt : String) → Except ModalError (Option Int64)

/-- High-level client for the TaskCommandRouter gRPC service. -/
structure TaskCommandRouterClient where
  taskId : String
  serverUrl : String
  jwt : String
  jwtExp : Option Int64
  closed : Bool
  deriving DecidableEq

namespace TaskCommandRouterClient

variable {ω α : Type}

/-- Force-refresh the JWT regardless of expiry. Used when UNAUTHENTICATED is received. -/
def forceRefreshJwt (grpc : TaskCommandRouterGrpcClient ω) (c : TaskCommandRouterClient) (w : ω) :
    Except ModalError Unit × TaskCommandRouterClient × ω :=
  if c.closed then (.error (.clientClosed "client is closed"), c, w)
  else
    match grpc.taskGetCommandRouterAccess c.taskId w with
    | (.error e, w) => (.error e, c, w)
    | (.ok resp, w) =>
        if resp.url ≠ c.serverUrl then
          (.error (.other "task router URL changed during session"), c, w)
        else
          -- a token whose expiry cannot be read has none
          let newExp := (grpc.parseJwtExpiration resp.jwt).toOption.join
          (.ok (), { c with jwt := resp.jwt, jwtExp := newExp }, w)

/-- Execute a function with auth retry: if UNAUTHENTICATED, force-refresh JWT and retry once. -/
def callWithAuthRetry (grpc : TaskCommandRouterGrpcClient ω)
    (f : (jwt : String) → ω → Except ModalError α × ω) (c : TaskCommandRouterClient) (w : ω) :
    Except ModalError α × TaskCommandRouterClient × ω :=
  match f c.jwt w with
  | (.ok result, w) => (.ok result, c, w)
  | (.error (.grpc ⟨.unauthenticated, _⟩), w) =>
      match forceRefreshJwt grpc c w with
      | (.error e, c, w) => (.error e, c, w)
      | (.ok (), c, w) =>
          let (result, w) := f c.jwt w
          (result, c, w)
  | (.error e, w) => (.error e, c, w)

/-- Read stdout or stderr from an exec. Returns all available data chunks. -/
def execStdioRead (grpc : TaskCommandRouterGrpcClient ω) (taskId execId : String)
    (fd : TaskExecStdioFileDescriptor) (offset : UInt64) (c : TaskCommandRouterClient) (w : ω) :
    Except ModalError (List TaskExecStdioReadResponse) × TaskCommandRouterClient × ω :=
  if c.closed then
    (.error (.clientClosed "Unable to perform operation on a detached sandbox"), c, w)
  else
    callWithAuthRetry grpc (grpc.taskExecStdioRead ⟨taskId, execId, offset, fd⟩) c w

section Read

variable {grpc : TaskCommandRouterGrpcClient ω} {taskId execId : String}
  {fd : TaskExecStdioFileDescriptor} {offset : UInt64} {c : TaskCommandRouterClient} {w w' : ω}

/-- **A read that is answered**: one RPC, at the offset asked for. -/
theorem execStdioRead_answered {chunks : List TaskExecStdioReadResponse} (hopen : c.closed = false)
    (h : grpc.taskExecStdioRead ⟨taskId, execId, offset, fd⟩ c.jwt w = (.ok chunks, w')) :
    execStdioRead grpc taskId execId fd offset c w = (.ok chunks, c, w') := by
  simp only [execStdioRead, hopen, Bool.false_eq_true, if_false, callWithAuthRetry, h]

/-- **A closed client reads nothing** and makes no RPC. -/
theorem execStdioRead_closed (hclosed : c.closed = true) :
    execStdioRead grpc taskId execId fd offset c w =
      (.error (.clientClosed "Unable to perform operation on a detached sandbox"), c, w) :=
  if_pos hclosed

end Read

end TaskCommandRouterClient

end ModalRs
