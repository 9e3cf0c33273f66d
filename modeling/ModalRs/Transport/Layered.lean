/-
  File:      ModalRs/Transport/Layered.lean
  Subject:   Services over the retrying transport: what the RPCs of a service become.

  A service sees RPCs, each with one reply. Below it each RPC is a retried call:
  attempts that are lost, sleeps, and a reply to the last attempt. The services on
  named objects run over it, many at once, over one counter.

  * `RpcMethod`, `ModalGrpcTransport.rpc`: a method of the transport.
  * `Block`: the attempts that come to one reply; `rpc_returns`.
  * `wired`: a service over the transport; `follows_wired`: its RPCs, block by block.
  * `NamedMessage`, `namedMethod`: the requests and responses of the named objects.
  * `wiredSession`: their calls in any interleaving of attempts.
  * `wired_named_refines`: each call does what it does over plain RPCs, block by block.
-/
import ModalRs.Lib.Layers
import ModalRs.Named
import ModalRs.Transport.AtMostOnce
import ModalRs.Transport.Keys

namespace ModalRs

open ModalRs.Lib ModalRs.Rust

/-! ## 1. One RPC -/

section Rpc

variable {M : Type} {V : M → Type} {α : Type}

/-- A method of the transport: the request, and what is made of the response. -/
structure RpcMethod (V : M → Type) (α : Type) where
  request : M
  response : V request → α

/-- A result that the caller sees, or what keeps it from seeing any. -/
def settle : Res ModalError α → Except (Stop Empty) (Except ModalError α)
  | .ok val => .ok (.ok val)
  | .error (.err e) => .ok (.error e)
  | .error (.panic p) => .error (.panic p)
  | .error .diverged => .error .diverged

/-- `let resp = self.retry_block_on(|_ctx| …)?; Ok(…)`. -/
def ModalGrpcTransport.rpc (t : ModalGrpcTransport) (method : RpcMethod V α) :
    ExceptT (Stop Empty) (Resumption (RetryAction M) (RetryAction.Reply V)) (Except ModalError α) :=
  ExceptT.mk (retryCall t.retryConfig method.request >>= fun resp =>
    pure (settle (resp.map method.response)))

/-- The reply of an attempt to a caller of the method. -/
def RpcMethod.reply (method : RpcMethod V α) (reply : Except Status (V method.request)) :
    Except ModalError α :=
  match reply with
  | .ok resp => .ok (method.response resp)
  | .error status => .error (.grpc status)

/-- **The attempts that come to a reply**: four at most, all of the same request and under one key,
    each but the last answered with a transient status, and 100, 200 and 400 ms between them. -/
inductive Block (t : ModalGrpcTransport) (method : RpcMethod V α) :
    List (RetryEvent V) → Except ModalError α → Prop where
  | attempts {nanos seq : Nat} {rest : List (RetryEvent V)}
      {reply : Except Status (V method.request)}
      (h : Attempts t.retryConfig method.request (generateIdempotencyKey nanos seq) 0
        t.retryConfig.baseDelay rest reply) :
      Block t method (⟨.readClock, nanos⟩ :: ⟨.takeNumber, seq⟩ :: rest) (method.reply reply)

variable {interceptor : ModalInterceptor} {method : RpcMethod V α} {es : List (RetryEvent V)}

theorem Block.paced {r : Except ModalError α}
    (h : Block (ModalGrpcTransport.connected interceptor) method es r) :
    ∃ n key, n ≤ 3 ∧
      es.filterMap attemptOf = (List.range (n + 1)).map (fun k => (method.request, ⟨k, key⟩)) ∧
      es.filterMap sleepOf = ([100, 200, 400].take n).map .fromMillis := by
  have hfirst : ({} : GrpcRetryConfig).sleepAt 0 = ({} : GrpcRetryConfig).baseDelay :=
    delayAt_zero (by decide)
  have hpace : ∀ n ≤ 3, (List.range' 0 n).map ({} : GrpcRetryConfig).sleepAt =
      ([100, 200, 400].take n).map .fromMillis := by decide
  cases h with
  | @attempts nanos seq rest reply h =>
    obtain ⟨n, hn, hattempts, hsleeps⟩ := h.paced (Nat.le_succ 1) hfirst.symm (Nat.zero_le 3)
    have hn : n ≤ 3 := (Nat.zero_add n).ge.trans hn
    refine ⟨n, generateIdempotencyKey nanos seq, hn, ?_, hsleeps.trans (hpace n hn)⟩
    rw [List.range_eq_range']
    exact hattempts

/-- What is done of a method is done of its retried call. -/
theorem follows_rpc {t : ModalGrpcTransport}
    {q : RetryProgram V (Except (Stop Empty) (Except ModalError α))}
    (h : Resumption.Follows (t.rpc method).run es q) :
    (∃ p, Resumption.Follows (retryCall t.retryConfig method.request) es p ∧
      (∀ out, p ≠ .done out) ∧ ∀ out, q ≠ .done out) ∨
    ∃ out, Resumption.Follows (retryCall t.retryConfig method.request) es (.done out) ∧
      q = .done (settle (out.map method.response)) := by
  rcases Resumption.follows_bind h with ⟨p, hp, hne, rfl⟩ | ⟨es₁, es₂, out, rfl, hp, hdone⟩
  · refine Or.inl ⟨p, hp, hne, fun out hout => ?_⟩
    cases p with
    | done a => exact hne a rfl
    | act a next => cases hout
  · obtain ⟨rfl, rfl⟩ := hdone.of_done
    rw [List.append_nil]
    exact Or.inr ⟨out, hp, rfl⟩

/-- **A method of a connected transport returns**, the reply of a block. -/
theorem rpc_returns {out : Except (Stop Empty) (Except ModalError α)}
    (h : Resumption.Follows ((ModalGrpcTransport.connected interceptor).rpc method).run es
      (.done out)) :
    ∃ r, out = .ok r ∧ Block (ModalGrpcTransport.connected interceptor) method es r := by
  rcases follows_rpc h with ⟨_, -, -, hne⟩ | ⟨result, hcall, hout⟩
  · exact absurd rfl (hne out)
  · obtain ⟨nanos, seq, rest, reply, rfl, hattempts, rfl⟩ := follows_retryCall backoff_le hcall
    cases hout
    refine ⟨method.reply reply, ?_, .attempts hattempts⟩
    cases reply with
    | ok val => rfl
    | error status => rfl

/-- Whatever is attempted of a method is its request. -/
theorem attempts_request [DecidableEq M] {t : ModalGrpcTransport}
    {q : RetryProgram V (Except (Stop Empty) (Except ModalError α))}
    (h : Resumption.Follows (t.rpc method).run es q) :
    ∀ a ∈ es.filterMap attemptOf, a.1 = method.request := by
  have hcall : ∃ p, Resumption.Follows (retryCall t.retryConfig method.request) es p := by
    rcases follows_rpc h with ⟨p, hp, -⟩ | ⟨out, hp, -⟩
    · exact ⟨p, hp⟩
    · exact ⟨_, hp⟩
  obtain ⟨p, hp⟩ := hcall
  obtain ⟨m, hstands⟩ := stands_retryCall hp
  cases hstands with
  | fresh => exact fun a ha => by cases ha
  | clocked nanos => exact fun a ha => by cases ha
  | keyed nanos seq made rest htail hattempts =>
    intro a ha
    have ha : a ∈ rest.filterMap attemptOf := ha
    rw [hattempts] at ha
    obtain ⟨n, -, rfl⟩ := List.mem_map.mp ha
    rfl

end Rpc

section Services

variable {Rpc M : Type} {Val : Rpc → Type} {V : M → Type} {α : Type}
  (interceptor : ModalInterceptor) (method : (a : Rpc) → RpcMethod V (Val a))

/-- A program of a service, each of its RPCs a method of a connected transport. -/
def wired (p : Resumption Rpc (fun a => Except ModalError (Val a)) α) :
    ExceptT (Stop Empty) (Resumption (RetryAction M) (RetryAction.Reply V)) α :=
  p.through fun a => (ModalGrpcTransport.connected interceptor).rpc (method a)

/-- The blocks of a program's RPCs. -/
abbrev RpcBlocks : List (RetryEvent V) →
    List (Answered Rpc fun a => Except ModalError (Val a)) → Prop :=
  Resumption.Blocks fun a => Block (ModalGrpcTransport.connected interceptor) (method a)

variable {interceptor method}

/-- **What a service has done over the transport** is one block for each of its RPCs, and the
    beginning of one more. It comes to a path of the service over plain RPCs, and ends as that. -/
theorem follows_wired {p : Resumption Rpc (fun a => Except ModalError (Val a)) α}
    {es : List (RetryEvent V)} {q : RetryProgram V (Except (Stop Empty) α)}
    (h : Resumption.Follows (wired interceptor method p).run es q) :
    ∃ past rest as p', es = past ++ rest ∧ RpcBlocks interceptor method past as ∧
      Resumption.Follows p as p' ∧
      ((∃ out, p' = .done out ∧ rest = [] ∧ q = .done (.ok out)) ∨
      ∃ a next l, p' = .act a next ∧ (∀ out, q ≠ .done out) ∧ (∀ out, l ≠ .done out) ∧
        Resumption.Follows ((ModalGrpcTransport.connected interceptor).rpc (method a)).run
          rest l) := by
  obtain ⟨past, rest, as, p', hes, hpast, hfollows, hrest⟩ := Resumption.follows_through h
  refine ⟨past, rest, as, p', hes, hpast.mono fun a block r hblock => ?_, hfollows, ?_⟩
  · obtain ⟨r', hr', hblock⟩ := rpc_returns hblock
    cases hr'
    exact hblock
  · cases hrest with
    | done out => exact Or.inl ⟨out, rfl, rfl, rfl⟩
    | @act a next block l hlower hl =>
      refine Or.inr ⟨a, next, l, rfl, fun out hout => ?_, hl, hlower⟩
      cases l with
      | done out => exact hl out rfl
      | act action rest => cases hout
    | gaveUp hlower =>
      obtain ⟨r, hr, -⟩ := rpc_returns hlower
      cases hr

end Services

/-! ## 2. The methods of the named objects -/

/-- The requests. -/
inductive NamedMessage where
  | queueGetOrCreate (deploymentName environmentName : String) (objectCreationType : Int32)
  | queueDelete (queueId : String)
  | volumeGetOrCreate (deploymentName environmentName : String) (objectCreationType : Int32)
      (appId : String) (version : Int32)
  | volumeDelete (volumeId environmentName : String)
  | secretGetOrCreate (deploymentName environmentName : String) (objectCreationType : Int32)
      (envDict : HashMap String String) (requiredKeys : List String) (appId : String)
  | secretDelete (secretId : String)
  | appGetOrCreate (appName environmentName : String) (objectCreationType : Int32)
  | proxyGet (name environmentName : String)
  deriving DecidableEq

/-- What is read of their responses: an id, nothing, or the id of a proxy if there is one. -/
abbrev NamedMessage.Response : NamedMessage → Type
  | .queueGetOrCreate .. | .volumeGetOrCreate .. | .secretGetOrCreate .. | .appGetOrCreate .. =>
      String
  | .queueDelete _ | .volumeDelete .. | .secretDelete _ => Unit
  | .proxyGet .. => Option String

/-- The methods of the transport for the named objects. A proxy with an empty id is none. -/
def namedMethod : (a : NamedRpc) → RpcMethod NamedMessage.Response a.Value
  | .queueGetOrCreate name env type => ⟨.queueGetOrCreate name env type, id⟩
  | .queueDelete queueId => ⟨.queueDelete queueId, id⟩
  | .volumeGetOrCreate name env type => ⟨.volumeGetOrCreate name env type "" 0, id⟩
  | .volumeDelete volumeId => ⟨.volumeDelete volumeId "", id⟩
  | .secretGetOrCreate name env keys type envDict =>
      ⟨.secretGetOrCreate name env type envDict keys "", id⟩
  | .secretDelete secretId => ⟨.secretDelete secretId, id⟩
  | .appGetOrCreate name env type => ⟨.appGetOrCreate name env type, id⟩
  | .proxyGet name env =>
      ⟨.proxyGet name env, fun proxy => proxy.bind fun id => if id.isEmpty then none else some id⟩

/-! ## 3. Their calls over the transport -/

section Session

variable (interceptor : ModalInterceptor) (profileEnvironment : String)

/-- What is left of a call. -/
abbrev WiredProgram : Type :=
  RetryProgram NamedMessage.Response (Except (Stop Empty) (Except ModalError NamedValue))

abbrev WiredMove : Type :=
  Move NamedCall (RetryAction NamedMessage) (RetryAction.Reply NamedMessage.Response)

/-- The calls after some moves: they share the counter of the keys, and the server. -/
def wiredSession (moves : List WiredMove) :
    Pool UInt64 NamedCall (RetryAction NamedMessage) (RetryAction.Reply NamedMessage.Response)
      (Except (Stop Empty) (Except ModalError NamedValue)) :=
  Pool.run (fun k => (wired interceptor namedMethod (k.program profileEnvironment)).run)
    performRetry moves (Pool.initial 0)

/-- How far a call is that has done `es` and has `q` left, behind its RPCs `as`: it has returned as
    it may, or the attempts of the RPC that is due are under way. -/
inductive WiredStage (k : NamedCall) (as : List NamedEvent) :
    List (RetryEvent NamedMessage.Response) → WiredProgram → Prop where
  | returned {out : Except ModalError NamedValue} (hends : NamedEnds k as out) :
      WiredStage k as [] (.done (.ok out))
  | attempting {a : NamedRpc} {es : List (RetryEvent NamedMessage.Response)}
      {action : RetryAction NamedMessage}
      {next : action.Reply NamedMessage.Response → WiredProgram}
      (hdue : k.next profileEnvironment as = some a)
      (hrequest : ∀ attempt ∈ es.filterMap attemptOf, attempt.1 = (namedMethod a).request) :
      WiredStage k as es (.act action next)

/-- **The services over the transport do what they do over plain RPCs**: in any interleaving of
    attempts, what a call has done is one block of attempts for each of its RPCs and the beginning
    of one more. The RPCs are its lookup and then the deletion of what that has found; no call
    fails otherwise than by returning an error. -/
theorem wired_named_refines (moves : List WiredMove) (i : Nat) (k : NamedCall) (q : WiredProgram)
    (h : (wiredSession interceptor profileEnvironment moves).threads i = some (k, q)) :
    ∃ past rest as,
      Pool.own i (wiredSession interceptor profileEnvironment moves).history = past ++ rest ∧
      RpcBlocks interceptor namedMethod past as ∧
      (named profileEnvironment k).after [] as = some as ∧
      WiredStage profileEnvironment k as rest q := by
  obtain ⟨-, hpath⟩ := (Pool.run_onPath moves 0).path i k q h
  obtain ⟨past, rest, as, p', hown, hpast, hfollows, hrest⟩ := follows_wired hpath
  obtain ⟨es, hafter, hkeeps⟩ :=
    Resumption.keeps_follows hfollows (keepsNamed_program profileEnvironment k)
  obtain rfl := named_after hafter
  refine ⟨past, rest, es, hown, hpast, hafter, ?_⟩
  rcases hrest with ⟨out, rfl, rfl, rfl⟩ | ⟨a, next, l, rfl, hq, -, hattempts⟩
  · exact .returned hkeeps
  · obtain ⟨es', hnext, -⟩ := hkeeps (.error (.other ""))
    cases q with
    | done out => exact absurd rfl (hq out)
    | act action rest => exact .attempting (next_of_named hnext).1 (attempts_request hattempts)

/-- The first attempt of the lookup does not arrive; the reply to the first deletion is lost, and
    the second one finds nothing. The call fails although its queue is deleted. -/
def lostReply : List WiredMove :=
  let flaky : (a : RetryAction NamedMessage) → a.Reply NamedMessage.Response
    | .readClock | .takeNumber => 0
    | .sleep _ => ()
    | .attempt (.queueGetOrCreate ..) ctx =>
        if ctx.attempt = 0 then .error ⟨.unavailable, ""⟩ else .ok "qu-1"
    | .attempt (.queueDelete _) ctx =>
        .error ⟨if ctx.attempt = 0 then .unavailable else .notFound, ""⟩
    | .attempt _ _ => .error ⟨.unavailable, ""⟩
  .start 0 (.queueDelete "jobs" none) :: List.replicate 10 (.step 0 flaky)

theorem wired_named_refines_lost :
    ∃ past rest as, Pool.own 0 (wiredSession ⟨"ak", "as", "modal-rs/0.1"⟩ "main" lostReply).history =
        past ++ rest ∧
      RpcBlocks ⟨"ak", "as", "modal-rs/0.1"⟩ namedMethod past as ∧
      (named "main" (.queueDelete "jobs" none)).after [] as = some as ∧
      WiredStage "main" (.queueDelete "jobs" none) as rest
        (.done (.ok (.error (.grpc ⟨.notFound, ""⟩)))) :=
  wired_named_refines ⟨"ak", "as", "modal-rs/0.1"⟩ "main" lostReply 0 (.queueDelete "jobs" none) _ rfl

end Session

end ModalRs
