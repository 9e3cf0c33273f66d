/-
  File:      ModalRs/Router/Protocol.lean
  Subject:   What a call on the command router's client does, whatever it is answered.

  * `Phase`, `protocol`, `Turn`: an automaton that reads the actions of one call. It
    says once what each action needs: an open flag, a token that was read, a grant.
  * `CallEnded`: the results a call can have in each phase.
  * `keeps_program`: every call keeps to it.
  * `session_phase`: so does every thread of every interleaving.
  * `session_invariant`: what every turn keeps holds of every interleaving.
-/
import ModalRs.Router.Session

namespace ModalRs

open ModalRs.Lib

/-! ## 1. The automaton -/

/-- How far a call has come. -/
inductive Phase where
  | idle
  /-- The client is not closed. -/
  | opened
  /-- A token was read, and goes with the first RPC. -/
  | holding (jwt : String)
  /-- The RPC was refused: the token is to be replaced. -/
  | refused
  /-- A new token is needed, and the client is not closed. -/
  | refreshing
  /-- The server granted a token for the same URL. -/
  | granted (jwt : String)
  /-- The token is written, its expiry is not. -/
  | written (jwt : String)
  | refreshed
  /-- The new token was read, and goes with the second RPC. -/
  | holdingNew (jwt : String)
  /-- The flag was set. -/
  | shut
  /-- There is no new token. -/
  | failed
  | finished
  deriving DecidableEq

/-- The reply to an RPC is a refusal of the token. -/
def Refused {α : Type} : Except ModalError α → Bool
  | .error e => e.isUnauthenticated
  | .ok _ => false

/-- **What a call does**: the actions it may perform in each phase, and where they lead. -/
def protocol (lib : JwtLibs) (serverUrl : String) :
    Resumption.Discipline ClientAction ClientAction.Reply Phase
  | .idle, ⟨.loadClosed, closed⟩ => some (if closed then .shut else .opened)
  | .idle, ⟨.storeClosed, _⟩ => some .finished
  | .opened, ⟨.instantNow, _⟩ => some .opened
  | .opened, ⟨.readJwtExp, _⟩ => some .refreshing
  | .opened, ⟨.readJwt, jwt⟩ => some (.holding jwt)
  | .holding jwt, ⟨.rpc _ jwt', out⟩ =>
      if jwt' = jwt then some (if Refused out then .refused else .finished) else none
  | .refused, ⟨.loadClosed, closed⟩ => some (if closed then .shut else .refreshing)
  | .refreshing, ⟨.access _, .ok resp⟩ =>
      some (if resp.url = serverUrl then .granted resp.jwt else .failed)
  | .refreshing, ⟨.access _, .error _⟩ => some .failed
  | .granted jwt, ⟨.writeJwt jwt', _⟩ => if jwt' = jwt then some (.written jwt) else none
  | .written jwt, ⟨.writeJwtExp exp, _⟩ =>
      if exp = expiryOf lib jwt then some .refreshed else none
  | .refreshed, ⟨.readJwt, jwt⟩ => some (.holdingNew jwt)
  | .holdingNew jwt, ⟨.rpc _ jwt', _⟩ => if jwt' = jwt then some .finished else none
  | _, _ => none

/-- The turns of the protocol, one by one. -/
inductive Turn (lib : JwtLibs) (serverUrl : String) :
    Phase → Answered ClientAction ClientAction.Reply → Phase → Prop where
  | look (closed : Bool) :
      Turn lib serverUrl .idle ⟨.loadClosed, closed⟩ (if closed then .shut else .opened)
  | close : Turn lib serverUrl .idle ⟨.storeClosed, ()⟩ .finished
  | clock (now : Rust.Instant) : Turn lib serverUrl .opened ⟨.instantNow, now⟩ .opened
  | expiry (r : Option Int64 × Int64) : Turn lib serverUrl .opened ⟨.readJwtExp, r⟩ .refreshing
  | take (jwt : String) : Turn lib serverUrl .opened ⟨.readJwt, jwt⟩ (.holding jwt)
  | attempt (request : RouterRequest) (jwt : String) (out : Except ModalError request.Response) :
      Turn lib serverUrl (.holding jwt) ⟨.rpc request jwt, out⟩
        (if Refused out then .refused else .finished)
  | lookAgain (closed : Bool) :
      Turn lib serverUrl .refused ⟨.loadClosed, closed⟩ (if closed then .shut else .refreshing)
  | grant (taskId : String) (resp : TaskGetCommandRouterAccessResponse)
      (hurl : resp.url = serverUrl) :
      Turn lib serverUrl .refreshing ⟨.access taskId, .ok resp⟩ (.granted resp.jwt)
  | elsewhere (taskId : String) (resp : TaskGetCommandRouterAccessResponse)
      (hurl : resp.url ≠ serverUrl) :
      Turn lib serverUrl .refreshing ⟨.access taskId, .ok resp⟩ .failed
  | noAccess (taskId : String) (e : ModalError) :
      Turn lib serverUrl .refreshing ⟨.access taskId, .error e⟩ .failed
  | write (jwt : String) : Turn lib serverUrl (.granted jwt) ⟨.writeJwt jwt, ()⟩ (.written jwt)
  | writeExp (jwt : String) :
      Turn lib serverUrl (.written jwt) ⟨.writeJwtExp (expiryOf lib jwt), ()⟩ .refreshed
  | takeNew (jwt : String) : Turn lib serverUrl .refreshed ⟨.readJwt, jwt⟩ (.holdingNew jwt)
  | secondAttempt (request : RouterRequest) (jwt : String)
      (out : Except ModalError request.Response) :
      Turn lib serverUrl (.holdingNew jwt) ⟨.rpc request jwt, out⟩ .finished

theorem turn_of_protocol {lib : JwtLibs} {serverUrl : String} {ph ph' : Phase}
    {e : Answered ClientAction ClientAction.Reply} (h : protocol lib serverUrl ph e = some ph') :
    Turn lib serverUrl ph e ph' := by
  unfold protocol at h
  split at h
  · cases h
    exact .look _
  · cases h
    exact .close
  · cases h
    exact .clock _
  · cases h
    exact .expiry _
  · cases h
    exact .take _
  · split at h
    · rename_i hjwt
      cases h
      cases hjwt
      exact .attempt _ _ _
    · cases h
  · cases h
    exact .lookAgain _
  · cases h
    split
    · rename_i hurl
      exact .grant _ _ hurl
    · rename_i hurl
      exact .elsewhere _ _ hurl
  · cases h
    exact .noAccess _ _
  · split at h
    · rename_i hjwt
      cases h
      cases hjwt
      exact .write _
    · cases h
  · split at h
    · rename_i hexp
      cases h
      cases hexp
      exact .writeExp _
    · cases h
  · cases h
    exact .takeNew _
  · split at h
    · rename_i hjwt
      cases h
      cases hjwt
      exact .secondAttempt _ _ _
    · cases h
  · cases h

/-- What leads to a phase: where a call was before, and what it did. -/
def Into (lib : JwtLibs) (serverUrl : String) (ph : Phase)
    (e : Answered ClientAction ClientAction.Reply) : Phase → Prop
  | .idle => False
  | .holding jwt => ph = .opened ∧ e = ⟨.readJwt, jwt⟩
  | .refused =>
      ∃ request jwt out, ph = .holding jwt ∧ e = ⟨.rpc request jwt, out⟩ ∧ Refused out = true
  | .refreshing =>
      (ph = .opened ∧ ∃ r, e = ⟨.readJwtExp, r⟩) ∨ (ph = .refused ∧ e = ⟨.loadClosed, false⟩)
  | .granted jwt => ph = .refreshing ∧ ∃ task, e = ⟨.access task, .ok ⟨jwt, serverUrl⟩⟩
  | .written jwt => ph = .granted jwt ∧ e = ⟨.writeJwt jwt, ()⟩
  | .refreshed => ∃ jwt, ph = .written jwt ∧ e = ⟨.writeJwtExp (expiryOf lib jwt), ()⟩
  | .holdingNew jwt => ph = .refreshed ∧ e = ⟨.readJwt, jwt⟩
  | .opened | .shut | .failed | .finished => True

/-- **A phase is reached by what leads to it**, and by nothing else. -/
theorem Turn.into {lib : JwtLibs} {serverUrl : String} {ph ph' : Phase}
    {e : Answered ClientAction ClientAction.Reply} (h : Turn lib serverUrl ph e ph') :
    Into lib serverUrl ph e ph' := by
  cases h with
  | look closed =>
    cases closed
    all_goals trivial
  | attempt request jwt out =>
    cases hout : Refused out with
    | true => exact ⟨request, jwt, out, rfl, rfl, hout⟩
    | false => trivial
  | lookAgain closed =>
    cases closed with
    | true => trivial
    | false => exact Or.inr ⟨rfl, rfl⟩
  | grant task resp hurl => exact ⟨rfl, task, by rw [← hurl]⟩
  | expiry r => exact Or.inl ⟨rfl, r, rfl⟩
  | writeExp jwt => exact ⟨jwt, rfl, rfl⟩
  | take jwt | write jwt | takeNew jwt => exact ⟨rfl, rfl⟩
  | close | clock | elsewhere | noAccess | secondAttempt => trivial

/-- A call that has come anywhere got there by a turn. -/
theorem last_turn {lib : JwtLibs} {serverUrl : String} {ph : Phase}
    {es : List (Answered ClientAction ClientAction.Reply)}
    (h : (protocol lib serverUrl).after .idle es = some ph) (hne : ph ≠ .idle) :
    ∃ es' e ph', es = es' ++ [e] ∧ (protocol lib serverUrl).after .idle es' = some ph' ∧
      Turn lib serverUrl ph' e ph := by
  rcases List.eq_nil_or_concat es with rfl | ⟨es', e, rfl⟩
  · cases h
    exact absurd rfl hne
  · rw [List.concat_eq_append] at h
    obtain ⟨ph', hph', he⟩ := Resumption.Discipline.after_snoc.mp h
    exact ⟨es', e, ph', List.concat_eq_append, hph', turn_of_protocol he⟩

/-- The results that a call can have. -/
def CallEnded {α : Type} : Phase → Except ModalError α → Prop
  | .shut, out => ∃ msg, out = .error (.clientClosed msg)
  | .failed, out | .opened, out => ∃ e, out = .error e
  | .refreshing, out | .refreshed, out => ∃ a, out = .ok a
  | .finished, _ => True
  | _, _ => False

theorem CallEnded.ok {α β : Type} {ph : Phase} {a : α}
    (h : CallEnded ph (.ok a : Except ModalError α)) (b : β) :
    CallEnded ph (.ok b : Except ModalError β) := by
  cases ph with
  | shut =>
    obtain ⟨msg, hmsg⟩ := h
    cases hmsg
  | failed | opened =>
    obtain ⟨e, he⟩ := h
    cases he
  | refreshing | refreshed => exact ⟨b, rfl⟩
  | finished => trivial
  | idle | holding | refused | granted | written | holdingNew => exact h

/-- Another error ends the call in the same phase, if a closed client is still named as one. -/
theorem CallEnded.other {α β : Type} {ph : Phase} {e e' : ModalError}
    (h : CallEnded ph (.error e : Except ModalError α))
    (hclosed : ∀ msg, e = .clientClosed msg → e' = .clientClosed msg) :
    CallEnded ph (.error e' : Except ModalError β) := by
  cases ph with
  | shut =>
    obtain ⟨msg, hmsg⟩ := h
    exact ⟨msg, congrArg Except.error (hclosed msg (Except.error.inj hmsg))⟩
  | failed | opened => exact ⟨e', rfl⟩
  | refreshing | refreshed =>
    obtain ⟨a, ha⟩ := h
    cases ha
  | finished => trivial
  | idle | holding | refused | granted | written | holdingNew => exact h

theorem CallEnded.error {α β : Type} {ph : Phase} {e : ModalError}
    (h : CallEnded ph (.error e : Except ModalError α)) :
    CallEnded ph (.error e : Except ModalError β) := h.other fun _ he => he

/-! ## 2. The methods -/

namespace TaskCommandRouterClient

variable {lib : JwtLibs} {taskId serverUrl : String} {α : Type}

/-- The flag is looked at, and the method goes on if it is not set. -/
theorem keeps_unlessClosed {ph ph' : Phase} {msg : String} {p : ClientM α}
    {post : Phase → Except ModalError α → Prop}
    (hload : ∀ closed, protocol lib serverUrl ph ⟨.loadClosed, closed⟩ =
      some (if closed then .shut else ph'))
    (hshut : post .shut (.error (.clientClosed msg)))
    (hp : Resumption.Keeps (protocol lib serverUrl) post ph' p.run) :
    Resumption.Keeps (protocol lib serverUrl) post ph
      (act .loadClosed >>= fun closed =>
        if closed then throw (.clientClosed msg) else p).run := by
  intro closed
  refine ⟨_, hload closed, ?_⟩
  cases closed with
  | true => exact hshut
  | false => exact hp

/-- A new token is granted and written, or there is none. -/
theorem keeps_replaceJwt : Resumption.Keeps (protocol lib serverUrl)
    (fun ph out => CallEnded ph out ∧ (ph = .failed ∨ ph = .refreshed))
    .refreshing (replaceJwt lib taskId serverUrl).run := by
  intro out
  cases out with
  | error e => exact ⟨.failed, rfl, ⟨e, rfl⟩, Or.inl rfl⟩
  | ok resp =>
    refine ⟨if resp.url = serverUrl then .granted resp.jwt else .failed, rfl, ?_⟩
    show Resumption.Keeps _ _ _ (ExceptT.run (if resp.url ≠ serverUrl then _ else _))
    by_cases hurl : resp.url = serverUrl
    · rw [if_neg (not_not.mpr hurl), if_pos hurl]
      intro _
      refine ⟨.written resp.jwt, if_pos rfl, fun _ => ⟨.refreshed, if_pos rfl, ?_⟩⟩
      exact ⟨⟨(), rfl⟩, Or.inr rfl⟩
    · rw [if_pos hurl, if_neg hurl]
      exact ⟨⟨_, rfl⟩, Or.inl rfl⟩

/-- A refresh sends no RPC but the one for access, and is not finished by another. -/
theorem keeps_refreshJwtIfNeeded : Resumption.Keeps (protocol lib serverUrl)
    (fun ph out => CallEnded ph out ∧ ph ≠ .finished) .idle
    (refreshJwtIfNeeded lib taskId serverUrl).run := by
  have hreplace : Resumption.Keeps (protocol lib serverUrl)
      (fun ph out => CallEnded ph out ∧ ph ≠ .finished) .refreshing
      (replaceJwt lib taskId serverUrl).run := by
    refine Resumption.keeps_mono ?_ keeps_replaceJwt
    rintro ph out ⟨hended, rfl | rfl⟩
    all_goals exact ⟨hended, fun h => nomatch h⟩
  refine keeps_unlessClosed (fun _ => rfl) ⟨⟨_, rfl⟩, fun h => nomatch h⟩ ?_
  rintro ⟨exp, now⟩
  refine ⟨.refreshing, rfl, ?_⟩
  cases exp with
  | none => exact hreplace
  | some exp =>
    show Resumption.Keeps _ _ _ (ExceptT.run (if exp - now > jwtRefreshBufferSeconds then _ else _))
    by_cases hfar : exp - now > jwtRefreshBufferSeconds
    · rw [if_pos hfar]
      exact ⟨⟨(), rfl⟩, fun h => nomatch h⟩
    · rw [if_neg hfar]
      exact hreplace

theorem keeps_forceRefreshJwt : Resumption.Keeps (protocol lib serverUrl)
    (fun ph out => CallEnded ph out ∧ (ph = .shut ∨ ph = .failed ∨ ph = .refreshed))
    .refused (forceRefreshJwtM lib taskId serverUrl).run := by
  refine keeps_unlessClosed (fun _ => rfl) ⟨⟨_, rfl⟩, Or.inl rfl⟩ ?_
  exact Resumption.keeps_mono (fun _ _ h => ⟨h.1, Or.inr h.2⟩) keeps_replaceJwt

/-- **The retry**: one attempt with the token that was read, and after a refusal of it and a
    refresh, one with the new token. -/
theorem keeps_callWithAuthRetry {f : String → ClientM α}
    (hf : ∀ jwt, Resumption.Keeps (protocol lib serverUrl)
      (fun ph out => ph = if Refused out then .refused else .finished) (.holding jwt) (f jwt).run)
    (hf' : ∀ jwt, Resumption.Keeps (protocol lib serverUrl) (fun ph _ => ph = .finished)
      (.holdingNew jwt) (f jwt).run) :
    Resumption.Keeps (protocol lib serverUrl) CallEnded .opened
      (callWithAuthRetryM lib taskId serverUrl f).run := by
  intro jwt
  refine ⟨.holding jwt, rfl, Resumption.keeps_tryCatch (hf jwt) ?_ ?_⟩
  · rintro ph a rfl
    trivial
  · rintro ph e rfl
    by_cases hrefused : e.isUnauthenticated = true
    · obtain ⟨msg, rfl⟩ := ModalError.isUnauthenticated_iff.mp hrefused
      refine Resumption.keeps_bindExcept keeps_forceRefreshJwt ?_ fun ph e h => h.1.error
      rintro ph ⟨⟩ ⟨hended, rfl | rfl | rfl⟩
      · obtain ⟨msg', hmsg'⟩ := hended
        cases hmsg'
      · obtain ⟨e', he'⟩ := hended
        cases he'
      · refine fun jwt' => ⟨.holdingNew jwt', rfl, Resumption.keeps_mono ?_ (hf' jwt')⟩
        rintro ph a rfl
        trivial
    · rw [retryUnauthenticated_of_not lib hrefused]
      have hover : (if Refused (.error e : Except ModalError α) then Phase.refused else .finished) =
          .finished := if_neg hrefused
      rw [hover]
      trivial

theorem keeps_rpc (request : RouterRequest) (jwt : String) :
    Resumption.Keeps (protocol lib serverUrl)
      (fun ph out => ph = if Refused out then .refused else .finished) (.holding jwt)
      (rpc request jwt).run :=
  fun out => ⟨if Refused out then .refused else .finished, if_pos rfl, rfl⟩

theorem keeps_rpcNew (request : RouterRequest) (jwt : String) :
    Resumption.Keeps (protocol lib serverUrl) (fun ph _ => ph = .finished) (.holdingNew jwt)
      (rpc request jwt).run :=
  fun _ => ⟨.finished, if_pos rfl, rfl⟩

theorem keeps_retryRpc (request : RouterRequest) :
    Resumption.Keeps (protocol lib serverUrl) CallEnded .opened
    (callWithAuthRetryM lib taskId serverUrl (rpc request)).run :=
  keeps_callWithAuthRetry (keeps_rpc request) (keeps_rpcNew request)

/-- A timeout in place of a deadline error is an error of the same phase. -/
theorem callEnded_deadlineToTimeout {ph : Phase} {e : ModalError} {execId : String}
    (h : CallEnded ph (.error e : Except ModalError α)) :
    CallEnded ph (.error (deadlineToTimeout execId e) : Except ModalError α) := by
  refine h.other fun msg he => ?_
  rw [he]
  rfl

/-- Every operation begins with the check of the flag. -/
theorem keeps_ifOpen {operation : ClientM α}
    (h : Resumption.Keeps (protocol lib serverUrl) CallEnded .opened operation.run) :
    Resumption.Keeps (protocol lib serverUrl) CallEnded .idle (ifOpen operation).run :=
  keeps_unlessClosed (fun _ => rfl) ⟨_, rfl⟩ h

/-- The answer of a write is thrown away, which does not change what is done. -/
theorem keeps_execStdinWrite (task execId : String) (offset : UInt64) (data : List UInt8)
    (eof : Bool) : Resumption.Keeps (protocol lib serverUrl) CallEnded .idle
      (execStdinWrite lib taskId serverUrl task execId offset data eof).run := by
  refine keeps_ifOpen (keeps_callWithAuthRetry (fun jwt => ?_) fun jwt => ?_)
  · refine Resumption.keeps_bindExcept (keeps_rpc _ jwt) ?_ ?_
    · rintro ph a rfl
      rfl
    · rintro ph e rfl
      rfl
  · refine Resumption.keeps_bindExcept (keeps_rpcNew _ jwt) ?_ ?_
    · rintro ph a rfl
      rfl
    · rintro ph e rfl
      rfl

theorem keeps_execWait (task execId : String) (deadline : Option Rust.Instant) :
    Resumption.Keeps (protocol lib serverUrl) CallEnded .idle
      (execWait lib taskId serverUrl task execId deadline).run := by
  have hattempt : Resumption.Keeps (protocol lib serverUrl) CallEnded .opened
      (tryCatch (callWithAuthRetryM lib taskId serverUrl (rpc (.taskExecWait ⟨task, execId⟩)))
        fun e => throw (deadlineToTimeout execId e)).run := by
    exact Resumption.keeps_tryCatch (keeps_retryRpc _) (fun _ _ h => h) fun ph e h =>
      callEnded_deadlineToTimeout h
  refine keeps_ifOpen ?_
  cases deadline with
  | none => exact hattempt
  | some d =>
    intro now
    refine ⟨.opened, rfl, ?_⟩
    show Resumption.Keeps _ _ _ (ExceptT.run (if d ≤ now then _ else _))
    by_cases hpassed : d ≤ now
    · rw [if_pos hpassed]
      exact ⟨_, rfl⟩
    · rw [if_neg hpassed]
      exact hattempt

end TaskCommandRouterClient

/-! ## 3. The calls -/

section Calls

variable {lib : JwtLibs} {taskId serverUrl : String}

open TaskCommandRouterClient

/-- What a call returns is what its method returned. -/
theorem keeps_value {α : Type} {p : ClientM α} {value : α → CallValue} {ph : Phase}
    (h : Resumption.Keeps (protocol lib serverUrl) CallEnded ph p.run) :
    Resumption.Keeps (protocol lib serverUrl) CallEnded ph
      (p >>= fun a => pure (value a) : ClientM CallValue).run :=
  Resumption.keeps_bindExcept h (fun _ _ h => h.ok _) fun _ _ h => h.error

/-- Nor is the call of a refresh. -/
theorem keeps_refreshProgram : Resumption.Keeps (protocol lib serverUrl)
    (fun ph out => CallEnded ph out ∧ ph ≠ .finished) .idle
    (Call.refreshJwtIfNeeded.program lib taskId serverUrl) :=
  Resumption.keeps_bindExcept keeps_refreshJwtIfNeeded (fun _ _ h => ⟨h.1.ok _, h.2⟩)
    fun _ _ h => ⟨h.1.error, h.2⟩

/-- **Every call keeps to the protocol**, and ends as its phase says. -/
theorem keeps_program (k : Call) :
    Resumption.Keeps (protocol lib serverUrl) CallEnded .idle (k.program lib taskId serverUrl) := by
  cases k with
  | mountDirectory request => exact keeps_value (keeps_ifOpen (keeps_retryRpc _))
  | snapshotDirectory request => exact keeps_value (keeps_ifOpen (keeps_retryRpc _))
  | execStart request => exact keeps_value (keeps_ifOpen (keeps_retryRpc _))
  | execStdinWrite task execId offset data eof =>
    exact keeps_value (keeps_execStdinWrite task execId offset data eof)
  | execWait task execId deadline => exact keeps_value (keeps_execWait task execId deadline)
  | execStdioRead task execId fd offset => exact keeps_value (keeps_ifOpen (keeps_retryRpc _))
  | refreshJwtIfNeeded => exact Resumption.keeps_mono (fun _ _ h => h.1) keeps_refreshProgram
  | close => exact fun _ => ⟨.finished, rfl, trivial⟩

/-- **Every thread of every interleaving is in a phase**: the one its own actions lead to. -/
theorem session_phase {c : TaskCommandRouterClient} {moves : List ClientMove} {i : Nat} {k : Call}
    {p : Resumption ClientAction ClientAction.Reply (Except ModalError CallValue)}
    (h : (session lib c moves).threads i = some (k, p)) :
    ∃ ph, (protocol lib c.serverUrl).after .idle (Pool.own i (session lib c moves).history) =
      some ph ∧ Resumption.Keeps (protocol lib c.serverUrl) CallEnded ph p :=
  Resumption.keeps_follows ((session_onPath lib c moves).path i k p h).2 (keeps_program k)

/-- Started or not, its own actions lead somewhere. -/
theorem session_after (lib : JwtLibs) (c : TaskCommandRouterClient) (moves : List ClientMove)
    (i : Nat) : ∃ ph,
      (protocol lib c.serverUrl).after .idle (Pool.own i (session lib c moves).history) = some ph := by
  cases hi : (session lib c moves).threads i with
  | none => exact ⟨.idle, by rw [((session_onPath lib c moves).idle i hi).1]; rfl⟩
  | some t =>
    obtain ⟨ph, hph, -⟩ := session_phase hi
    exact ⟨ph, hph⟩

/-- What a thread does next is a turn of the protocol. -/
theorem session_turn {c : TaskCommandRouterClient} {moves : List ClientMove} {g : Session} {i : Nat}
    {k : Call} {a : ClientAction}
    {next : a.Reply → Resumption ClientAction ClientAction.Reply (Except ModalError CallValue)}
    {r : a.Reply} (h : Pool.Steps perform (session lib c moves) g i k a next r) :
    ∃ ph ph', (protocol lib c.serverUrl).after .idle (Pool.own i (session lib c moves).history) =
      some ph ∧ Turn lib c.serverUrl ph ⟨a, r⟩ ph' := by
  obtain ⟨ph, hph, hkeeps⟩ := session_phase h.thread
  obtain ⟨ph', hph', -⟩ := hkeeps r
  exact ⟨ph, ph', hph, turn_of_protocol hph'⟩

/-- **The invariant rule of a session**: what the start of a thread and every turn keep. -/
theorem session_invariant {c : TaskCommandRouterClient}
    {I : TaskCommandRouterClient → List ClientEvent → Prop} (hinitial : I c [])
    (hstart : ∀ s history i k, I s history → I s (history ++ [.start i k]))
    (hturn : ∀ s history s' i e ph ph', I s history →
      (protocol lib c.serverUrl).after .idle (Pool.own i history) = some ph →
      Turn lib c.serverUrl ph e ph' → (∃ answer, perform s e.action answer = (e.reply, s')) →
      I s' (history ++ [.step i e]))
    (moves : List ClientMove) :
    I (session lib c moves).shared (session lib c moves).history := by
  induction moves using List.reverseRecOn with
  | nil => exact hinitial
  | append_singleton moves m ih =>
    rw [session_snoc]
    rcases Pool.move_cases (Call.program lib c.taskId c.serverUrl) perform
        (session lib c moves) m with hsame | ⟨i, k, -, hnew⟩ | ⟨i, k, a, next, r, hstep⟩
    · rw [hsame]
      exact ih
    · rw [hnew]
      exact hstart _ _ i k ih
    · obtain ⟨ph, ph', hph, ht⟩ := session_turn hstep
      rw [hstep.history]
      exact hturn _ _ _ i ⟨a, r⟩ ph ph' ih hph ht hstep.shared

end Calls

end ModalRs
