/-
  File:      ModalRs/Router/Session.lean
  Subject:   The methods of the command router's client as programs over its shared fields.

  A client is shared between threads. The flag is atomic, the token and its expiry
  have a lock each; a load, a store, a locked section and an RPC are one action. The
  subtraction of the expiry check wraps, as in a build without overflow checks.

  * `ClientAction`: the actions; `perform`: what they do to the fields.
  * `refreshJwtIfNeeded`, `forceRefreshJwt`, `callWithAuthRetry`, and the operations.
  * `Call`, `session`: calls on one client, in any interleaving.
  * `alone_callWithAuthRetry`: with nobody else there, this is the client of Client.lean.
-/
import ModalRs.Lib.Threads
import ModalRs.Router.Client
import ModalRs.Router.Jwt
import ModalRs.Rust.Time

namespace ModalRs

open ModalRs.Lib ModalRs.Rust

/-! ## 1. Messages -/

/-- `TaskMountDirectoryRequest`. -/
structure TaskMountDirectoryRequest where
  taskId : String
  path : List UInt8
  imageId : String

/-- `TaskSnapshotDirectoryRequest`. -/
structure TaskSnapshotDirectoryRequest where
  taskId : String
  path : List UInt8

/-- `TaskSnapshotDirectoryResponse`. -/
structure TaskSnapshotDirectoryResponse where
  imageId : String

/-- `TaskExecStartRequest`. -/
structure TaskExecStartRequest where
  taskId : String
  execId : String
  commandArgs : List String
  stdoutConfig : Int32
  stderrConfig : Int32
  timeoutSecs : Option UInt32
  workdir : Option String
  secretIds : List String
  runtimeDebug : Bool

/-- `TaskExecStartResponse`. -/
structure TaskExecStartResponse where

/-- `TaskExecStdinWriteRequest`. -/
structure TaskExecStdinWriteRequest where
  taskId : String
  execId : String
  offset : UInt64
  data : List UInt8
  eof : Bool

/-- `TaskExecStdinWriteResponse`. -/
structure TaskExecStdinWriteResponse where

/-- `TaskExecWaitRequest`. -/
structure TaskExecWaitRequest where
  taskId : String
  execId : String

/-- `task_exec_wait_response::ExitStatus`. -/
inductive ExitStatus where
  | code (code : Int32)
  | signal (signal : Int32)

/-- `TaskExecWaitResponse`. -/
structure TaskExecWaitResponse where
  exitStatus : Option ExitStatus

/-- The RPCs of the operations. -/
inductive RouterRequest where
  | taskMountDirectory (request : TaskMountDirectoryRequest)
  | taskSnapshotDirectory (request : TaskSnapshotDirectoryRequest)
  | taskExecStart (request : TaskExecStartRequest)
  | taskExecStdinWrite (request : TaskExecStdinWriteRequest)
  | taskExecWait (request : TaskExecWaitRequest)
  | taskExecStdioRead (request : TaskExecStdioReadRequest)

abbrev RouterRequest.Response : RouterRequest → Type
  | .taskMountDirectory _ => Unit
  | .taskSnapshotDirectory _ => TaskSnapshotDirectoryResponse
  | .taskExecStart _ => TaskExecStartResponse
  | .taskExecStdinWrite _ => TaskExecStdinWriteResponse
  | .taskExecWait _ => TaskExecWaitResponse
  | .taskExecStdioRead _ => List TaskExecStdioReadResponse

/-! ## 2. Actions -/

/-- What a method does in one step: the atomic flag, the two locks, the RPCs and the clock. -/
inductive ClientAction where
  | loadClosed
  | storeClosed
  | readJwt
  | readJwtExp
  | writeJwt (jwt : String)
  | writeJwtExp (exp : Option Int64)
  | access (taskId : String)
  | rpc (request : RouterRequest) (jwt : String)
  | instantNow

/-- What an action is answered. The locked section of the expiry check also reads the clock. -/
abbrev ClientAction.Reply : ClientAction → Type
  | .loadClosed => Bool
  | .storeClosed => Unit
  | .readJwt => String
  | .readJwtExp => Option Int64 × Int64
  | .writeJwt _ => Unit
  | .writeJwtExp _ => Unit
  | .access _ => Except ModalError TaskGetCommandRouterAccessResponse
  | .rpc request _ => Except ModalError request.Response
  | .instantNow => Instant

/-- A method of the client, which may fail. -/
abbrev ClientM : Type → Type := ExceptT ModalError (Resumption ClientAction ClientAction.Reply)

/-- An action that does not fail. -/
def act (a : ClientAction) : ClientM a.Reply := ExceptT.mk (.act a fun r => .done (.ok r))

/-- The RPC that grants a token. -/
def taskGetCommandRouterAccess (taskId : String) : ClientM TaskGetCommandRouterAccessResponse :=
  ExceptT.mk (.act (.access taskId) .done)

/-- The RPC of an operation. -/
def rpc (request : RouterRequest) (jwt : String) : ClientM request.Response :=
  ExceptT.mk (.act (.rpc request jwt) .done)

/-- What an action does to the fields, and its answer; RPCs and clocks are answered by the world. -/
def perform (c : TaskCommandRouterClient) :
    (a : ClientAction) → a.Reply → a.Reply × TaskCommandRouterClient
  | .loadClosed, _ => (c.closed, c)
  | .storeClosed, _ => ((), { c with closed := true })
  | .readJwt, _ => (c.jwt, c)
  | .readJwtExp, world => ((c.jwtExp, world.2), c)
  | .writeJwt jwt, _ => ((), { c with jwt := jwt })
  | .writeJwtExp exp, _ => ((), { c with jwtExp := exp })
  | .access _, world => (world, c)
  | .rpc _ _, world => (world, c)
  | .instantNow, world => (world, c)

section Perform

variable {s s' : TaskCommandRouterClient} {e : Answered ClientAction ClientAction.Reply}
  {answer : e.action.Reply}

theorem perform_url (h : perform s e.action answer = (e.reply, s')) :
    s'.serverUrl = s.serverUrl := by
  rcases e with ⟨a, r⟩
  cases a
  all_goals
    cases congrArg Prod.snd h
    rfl

/-- Only a write changes the token. -/
theorem perform_jwt (h : perform s e.action answer = (e.reply, s')) :
    s'.jwt = s.jwt ∨ e = ⟨.writeJwt s'.jwt, ()⟩ := by
  rcases e with ⟨a, r⟩
  cases a with
  | writeJwt jwt =>
    cases congrArg Prod.snd h
    exact Or.inr rfl
  | _ =>
    cases congrArg Prod.snd h
    exact Or.inl rfl

/-- Only a write changes the expiry. -/
theorem perform_jwtExp (h : perform s e.action answer = (e.reply, s')) :
    s'.jwtExp = s.jwtExp ∨ e = ⟨.writeJwtExp s'.jwtExp, ()⟩ := by
  rcases e with ⟨a, r⟩
  cases a with
  | writeJwtExp exp =>
    cases congrArg Prod.snd h
    exact Or.inr rfl
  | _ =>
    cases congrArg Prod.snd h
    exact Or.inl rfl

/-- The flag is only ever set. -/
theorem perform_closed (h : perform s e.action answer = (e.reply, s')) :
    (s'.closed = s.closed ∧ e ≠ ⟨.storeClosed, ()⟩) ∨ s'.closed = true := by
  rcases e with ⟨a, r⟩
  cases a with
  | storeClosed =>
    cases congrArg Prod.snd h
    exact Or.inr rfl
  | _ =>
    cases congrArg Prod.snd h
    exact Or.inl ⟨rfl, fun h => nomatch h⟩

theorem perform_readJwt {jwt answer : String} (h : perform s .readJwt answer = (jwt, s')) :
    jwt = s.jwt := (Prod.mk.inj h).1.symm

theorem perform_loadClosed {closed answer : Bool}
    (h : perform s .loadClosed answer = (closed, s')) :
    closed = s.closed := (Prod.mk.inj h).1.symm

end Perform

/-- `Err(ModalError::Grpc(status)) if status.code() == tonic::Code::Unauthenticated`. -/
def ModalError.isUnauthenticated : ModalError → Bool
  | .grpc ⟨.unauthenticated, _⟩ => true
  | _ => false

theorem ModalError.isUnauthenticated_iff {e : ModalError} :
    e.isUnauthenticated = true ↔ ∃ msg, e = .grpc ⟨.unauthenticated, msg⟩ := by
  constructor
  · intro h
    unfold isUnauthenticated at h
    split at h
    · exact ⟨_, rfl⟩
    · cases h
  · rintro ⟨msg, rfl⟩
    rfl

/-! ## 3. The methods -/

/-- Don't refresh the JWT if its expiry is farther away than this. -/
def jwtRefreshBufferSeconds : Int64 := 30

namespace TaskCommandRouterClient

/-- Initialize a client by fetching command router access; `reply` is what the RPC gives. -/
def init (lib : JwtLibs) (reply : Except ModalError TaskGetCommandRouterAccessResponse)
    (taskId : String) : Except ModalError TaskCommandRouterClient := do
  let resp ← reply
  let jwtExp ← parseJwtExpiration lib resp.jwt
  if !"https://".toList.isPrefixOf resp.url.toList then
    .error (.other ("task router URL must be https, got: " ++ resp.url))
  else .ok ⟨taskId, resp.url, resp.jwt, jwtExp, false⟩

section Methods

variable (lib : JwtLibs) (taskId serverUrl : String)

/-- The part that both refreshes share: a new token, its URL checked, written under two locks. -/
def replaceJwt : ClientM Unit := do
  let resp ← taskGetCommandRouterAccess taskId
  if resp.url ≠ serverUrl then throw (.other "task router URL changed during session")
  else
    act (.writeJwt resp.jwt)
    act (.writeJwtExp (expiryOf lib resp.jwt))

/-- Refresh the JWT if it's close to expiry. -/
def refreshJwtIfNeeded : ClientM Unit := do
  let closed ← act .loadClosed
  if closed then throw (.clientClosed "client is closed")
  else
    let (exp, now) ← act .readJwtExp
    match exp with
    | some expVal =>
        if expVal - now > jwtRefreshBufferSeconds then pure () else replaceJwt lib taskId serverUrl
    | none => replaceJwt lib taskId serverUrl

/-- Force-refresh the JWT regardless of expiry. -/
def forceRefreshJwtM : ClientM Unit := do
  let closed ← act .loadClosed
  if closed then throw (.clientClosed "client is closed")
  else replaceJwt lib taskId serverUrl

/-- What `callWithAuthRetry` does about an error. -/
def retryUnauthenticated {α : Type} (f : String → ClientM α) : ModalError → ClientM α
  | .grpc ⟨.unauthenticated, _⟩ => do
      forceRefreshJwtM lib taskId serverUrl
      let jwt ← act .readJwt
      f jwt
  | e => throw e

variable {taskId serverUrl} in
theorem retryUnauthenticated_of_not {α : Type} {f : String → ClientM α} {e : ModalError}
    (h : ¬ e.isUnauthenticated = true) :
    retryUnauthenticated lib taskId serverUrl f e = throw e := by
  unfold retryUnauthenticated
  split
  · exact absurd rfl h
  · rfl

/-- Execute a function with auth retry: if UNAUTHENTICATED, force-refresh JWT and retry once. -/
def callWithAuthRetryM {α : Type} (f : String → ClientM α) : ClientM α := do
  let jwt ← act .readJwt
  tryCatch (f jwt) (retryUnauthenticated lib taskId serverUrl f)

/-- The check that every operation begins with. -/
def ifOpen {α : Type} (operation : ClientM α) : ClientM α := do
  let closed ← act .loadClosed
  if closed then throw (.clientClosed "Unable to perform operation on a detached sandbox")
  else operation

def mountDirectory (request : TaskMountDirectoryRequest) : ClientM Unit :=
  ifOpen (callWithAuthRetryM lib taskId serverUrl (rpc (.taskMountDirectory request)))

def snapshotDirectory (request : TaskSnapshotDirectoryRequest) :
    ClientM TaskSnapshotDirectoryResponse :=
  ifOpen (callWithAuthRetryM lib taskId serverUrl (rpc (.taskSnapshotDirectory request)))

def execStart (request : TaskExecStartRequest) : ClientM TaskExecStartResponse :=
  ifOpen (callWithAuthRetryM lib taskId serverUrl (rpc (.taskExecStart request)))

def execStdinWrite (task execId : String) (offset : UInt64) (data : List UInt8) (eof : Bool) :
    ClientM Unit :=
  ifOpen (callWithAuthRetryM lib taskId serverUrl fun jwt => do
    let _ ← rpc (.taskExecStdinWrite ⟨task, execId, offset, data, eof⟩) jwt
    pure ())

def execTimeoutError (execId : String) : ModalError :=
  .execTimeout ("deadline exceeded while waiting for exec " ++ execId)

/-- A deadline that has passed, as it comes back from an RPC, is a timeout. -/
def deadlineToTimeout (execId : String) : ModalError → ModalError
  | .other msg => if msg = "deadline exceeded" then execTimeoutError execId else .other msg
  | .grpc status =>
      if status.code = .deadlineExceeded then execTimeoutError execId else .grpc status
  | e => e

/-- Wait for an exec to complete and return the exit status. -/
def execWait (task execId : String) (deadline : Option Instant) : ClientM TaskExecWaitResponse :=
  ifOpen do
    let attempt := tryCatch
      (callWithAuthRetryM lib taskId serverUrl (rpc (.taskExecWait ⟨task, execId⟩)))
      fun e => throw (deadlineToTimeout execId e)
    match deadline with
    | none => attempt
    | some d =>
        let now ← act .instantNow
        if d ≤ now then throw (execTimeoutError execId) else attempt

def execStdioReadM (task execId : String) (fd : TaskExecStdioFileDescriptor) (offset : UInt64) :
    ClientM (List TaskExecStdioReadResponse) :=
  ifOpen (callWithAuthRetryM lib taskId serverUrl
    (rpc (.taskExecStdioRead ⟨task, execId, offset, fd⟩)))

/-- Close the client. All subsequent operations will fail. -/
def close : ClientM Unit := act .storeClosed

end Methods

end TaskCommandRouterClient

/-! ## 4. Calls -/

/-- The calls on a client: its operations, a refresh, and closing it. -/
inductive Call where
  | mountDirectory (request : TaskMountDirectoryRequest)
  | snapshotDirectory (request : TaskSnapshotDirectoryRequest)
  | execStart (request : TaskExecStartRequest)
  | execStdinWrite (task execId : String) (offset : UInt64) (data : List UInt8) (eof : Bool)
  | execWait (task execId : String) (deadline : Option Instant)
  | execStdioRead (task execId : String) (fd : TaskExecStdioFileDescriptor) (offset : UInt64)
  | refreshJwtIfNeeded
  | close

/-- What a call comes back with. -/
inductive CallValue where
  | unit
  | snapshot (response : TaskSnapshotDirectoryResponse)
  | started (response : TaskExecStartResponse)
  | exited (response : TaskExecWaitResponse)
  | chunks (chunks : List TaskExecStdioReadResponse)

/-- A call that is neither a refresh nor closing. -/
def Call.IsOperation : Call → Prop
  | .refreshJwtIfNeeded | .close => False
  | _ => True

section Program

variable (lib : JwtLibs) (taskId serverUrl : String)

def Call.method : Call → ClientM CallValue
  | .mountDirectory request => do
      TaskCommandRouterClient.mountDirectory lib taskId serverUrl request
      pure .unit
  | .snapshotDirectory request => do
      let response ← TaskCommandRouterClient.snapshotDirectory lib taskId serverUrl request
      pure (.snapshot response)
  | .execStart request => do
      let response ← TaskCommandRouterClient.execStart lib taskId serverUrl request
      pure (.started response)
  | .execStdinWrite task execId offset data eof => do
      TaskCommandRouterClient.execStdinWrite lib taskId serverUrl task execId offset data eof
      pure .unit
  | .execWait task execId deadline => do
      let response ← TaskCommandRouterClient.execWait lib taskId serverUrl task execId deadline
      pure (.exited response)
  | .execStdioRead task execId fd offset => do
      let chunks ← TaskCommandRouterClient.execStdioReadM lib taskId serverUrl task execId fd offset
      pure (.chunks chunks)
  | .refreshJwtIfNeeded => do
      TaskCommandRouterClient.refreshJwtIfNeeded lib taskId serverUrl
      pure .unit
  | .close => do
      TaskCommandRouterClient.close
      pure .unit

def Call.program (k : Call) : Resumption ClientAction ClientAction.Reply (Except ModalError CallValue) :=
  (k.method lib taskId serverUrl).run

end Program

/-- What happens on a client. -/
abbrev ClientEvent : Type := Happening Call ClientAction ClientAction.Reply

/-- An interleaving of calls. -/
abbrev ClientMove : Type := Move Call ClientAction ClientAction.Reply

/-- A client, its threads and what has happened. -/
abbrev Session : Type :=
  Pool TaskCommandRouterClient Call ClientAction ClientAction.Reply (Except ModalError CallValue)

/-- The client `c` after some moves. -/
def session (lib : JwtLibs) (c : TaskCommandRouterClient) (moves : List ClientMove) : Session :=
  Pool.run (Call.program lib c.taskId c.serverUrl) perform moves (Pool.initial c)

section History

variable (lib : JwtLibs) (c : TaskCommandRouterClient)

theorem session_append (moves moves' : List ClientMove) : session lib c (moves ++ moves') =
    Pool.run (Call.program lib c.taskId c.serverUrl) perform moves' (session lib c moves) :=
  Pool.run_append moves moves' _

theorem session_snoc (moves : List ClientMove) (m : ClientMove) : session lib c (moves ++ [m]) =
    Pool.move (Call.program lib c.taskId c.serverUrl) perform (session lib c moves) m :=
  session_append lib c moves [m]

/-- The threads of a session are where their actions have brought them. -/
theorem session_onPath (moves : List ClientMove) :
    Pool.OnPath (Call.program lib c.taskId c.serverUrl) (session lib c moves) :=
  Pool.run_onPath moves c

/-- What has happened has happened for good. -/
theorem session_history (moves moves' : List ClientMove) :
    (session lib c moves).history <+: (session lib c (moves ++ moves')).history := by
  rw [session_append]
  exact Pool.run_history moves' _

end History

/-! ## 5. A client alone -/

namespace TaskCommandRouterClient

section Alone

variable {ω α : Type}

/-- The world as the client of Client.lean sees it, with the RPCs of the operations. -/
structure RouterWorld (ω : Type) where
  access : (taskId : String) → ω → Except ModalError TaskGetCommandRouterAccessResponse × ω
  rpc : (request : RouterRequest) → (jwt : String) → ω → Except ModalError request.Response × ω
  utcNow : ω → Int64
  instantNow : ω → Instant

/-- What the world answers; the actions on the fields do not read it. -/
def RouterWorld.answer (world : RouterWorld ω) (w : ω) : (a : ClientAction) → a.Reply × ω
  | .access taskId => world.access taskId w
  | .rpc request jwt => world.rpc request jwt w
  | .readJwtExp => ((none, world.utcNow w), w)
  | .instantNow => (world.instantNow w, w)
  | .loadClosed => (false, w)
  | .storeClosed => ((), w)
  | .readJwt => ("", w)
  | .writeJwt _ => ((), w)
  | .writeJwtExp _ => ((), w)

/-- An action, with nobody else there. -/
def performAlone (world : RouterWorld ω) (s : TaskCommandRouterClient × ω) (a : ClientAction) :
    a.Reply × TaskCommandRouterClient × ω :=
  let (answer, w) := world.answer s.2 a
  let (r, c) := perform s.1 a answer
  (r, c, w)

/-- A method of a client, with nobody else there. -/
def alone (world : RouterWorld ω) (p : ClientM α) (c : TaskCommandRouterClient) (w : ω) :
    Except ModalError α × TaskCommandRouterClient × ω :=
  p.run.interpret (performAlone world) (c, w)

variable {world : RouterWorld ω} {c : TaskCommandRouterClient} {w : ω}

theorem alone_bind {β : Type} (p : ClientM α) (f : α → ClientM β) :
    alone world (p >>= f) c w =
      match alone world p c w with
      | (.ok a, c', w') => alone world (f a) c' w'
      | (.error e, c', w') => (.error e, c', w') := by
  unfold alone
  rw [ExceptT.run_bind, Resumption.interpret_bind]
  rcases p.run.interpret (performAlone world) (c, w) with ⟨out, c', w'⟩
  cases out with
  | ok a => rfl
  | error e => rfl

theorem alone_tryCatch (p : ClientM α) (handle : ModalError → ClientM α) :
    alone world (tryCatch p handle) c w =
      match alone world p c w with
      | (.ok a, c', w') => (.ok a, c', w')
      | (.error e, c', w') => alone world (handle e) c' w' := by
  show Resumption.interpret _ ((p.run) >>= _) _ = _
  unfold alone
  rw [Resumption.interpret_bind]
  rcases p.run.interpret (performAlone world) (c, w) with ⟨out, c', w'⟩
  cases out with
  | ok a => rfl
  | error e => rfl

/-- The RPCs, as the client of Client.lean takes them. -/
def RouterWorld.grpc (world : RouterWorld ω) (lib : JwtLibs) : TaskCommandRouterGrpcClient ω where
  taskGetCommandRouterAccess := world.access
  taskExecStdioRead request := world.rpc (.taskExecStdioRead request)
  parseJwtExpiration := parseJwtExpiration lib

variable (lib : JwtLibs)

theorem alone_replaceJwt : alone world (replaceJwt lib c.taskId c.serverUrl) c w =
    match world.access c.taskId w with
    | (.error e, w) => (.error e, c, w)
    | (.ok resp, w) =>
        if resp.url ≠ c.serverUrl then
          (.error (.other "task router URL changed during session"), c, w)
        else (.ok (), { c with jwt := resp.jwt, jwtExp := expiryOf lib resp.jwt }, w) := by
  have haccess : alone world (taskGetCommandRouterAccess c.taskId) c w =
      ((world.access c.taskId w).1, c, (world.access c.taskId w).2) := rfl
  rw [replaceJwt, alone_bind, haccess]
  rcases world.access c.taskId w with ⟨e | resp, w'⟩
  · rfl
  · by_cases hurl : resp.url ≠ c.serverUrl
    · simp only [if_pos hurl]
      rfl
    · simp only [if_neg hurl]
      rfl

theorem alone_forceRefreshJwt : alone world (forceRefreshJwtM lib c.taskId c.serverUrl) c w =
    forceRefreshJwt (world.grpc lib) c w := by
  have hload : alone world (act .loadClosed) c w = (.ok c.closed, c, w) := rfl
  rw [forceRefreshJwtM, alone_bind, hload, forceRefreshJwt]
  by_cases hclosed : c.closed = true
  · simp only [if_pos hclosed]
    rfl
  · simp only [if_neg hclosed]
    exact alone_replaceJwt lib

/-- **Alone, the shared client's auth retry is that of Client.lean.** -/
theorem alone_callWithAuthRetry {f : String → ClientM α}
    {rpc : (jwt : String) → ω → Except ModalError α × ω}
    (hf : ∀ jwt c w, alone world (f jwt) c w = ((rpc jwt w).1, c, (rpc jwt w).2)) :
    alone world (callWithAuthRetryM lib c.taskId c.serverUrl f) c w =
      callWithAuthRetry (world.grpc lib) rpc c w := by
  have hread : ∀ c w, alone world (act .readJwt) c w = (.ok c.jwt, c, w) := fun _ _ => rfl
  rw [callWithAuthRetryM, alone_bind, hread, callWithAuthRetry]
  simp only [alone_tryCatch, hf]
  rcases rpc c.jwt w with ⟨e | a, w'⟩
  · by_cases hrefused : e.isUnauthenticated = true
    · obtain ⟨msg, rfl⟩ := ModalError.isUnauthenticated_iff.mp hrefused
      simp only [retryUnauthenticated, alone_bind, alone_forceRefreshJwt]
      rcases forceRefreshJwt (world.grpc lib) c w' with ⟨e' | _, c', w''⟩
      · rfl
      · simp only [hread, hf]
    · simp only [retryUnauthenticated_of_not lib hrefused]
      split
      · rename_i heq
        cases heq
      · rename_i heq
        cases heq
        exact absurd rfl hrefused
      · rename_i heq
        cases heq
        rfl
  · rfl

/-- **Alone, reading an output is that of Client.lean.** -/
theorem alone_execStdioRead (task execId : String) (fd : TaskExecStdioFileDescriptor)
    (offset : UInt64) :
    alone world (execStdioReadM lib c.taskId c.serverUrl task execId fd offset) c w =
      execStdioRead (world.grpc lib) task execId fd offset c w := by
  have hload : alone world (act .loadClosed) c w = (.ok c.closed, c, w) := rfl
  rw [execStdioReadM, ifOpen, alone_bind, hload, execStdioRead]
  cases hclosed : c.closed with
  | true => rfl
  | false =>
    simp only [Bool.false_eq_true, if_false]
    exact alone_callWithAuthRetry lib fun jwt c w => rfl

end Alone

end TaskCommandRouterClient

end ModalRs
