/-
  File:      ModalRs/Transport/AtMostOnce.lean
  Subject:   State-changing RPCs under retries: how often the server applies them.

  The server applies a request that carries an idempotency key if it has not
  seen the key, and every request that carries none. The network may lose a
  request or a reply, attempt by attempt.

  * `ModalInterceptor.call`, `ModalGrpcTransport.unary`: what every call site of
    `retry_block_on` sends. Its closure takes the retry context and drops it.
  * `Server.receive`, `send`: the server and one attempt over the network.
  * `unary_applied`: an RPC is applied once for every attempt that arrives.
  * `applied_at_most_once_exactly`: so it is applied at most once exactly when no
    attempt that arrived is followed by another that arrives.
-/
import ModalRs.Transport.Retry

namespace ModalRs

open ModalRs.Rust

/-! ## 1. The transport -/

/-- gRPC metadata: header names and values. -/
abbrev Metadata : Type := List (String × String)

/-- `MetadataMap::insert`: the header has this value now. -/
def Metadata.insert (md : Metadata) (name value : String) : Metadata :=
  (md.filter fun h => h.1 ≠ name) ++ [(name, value)]

/-- The messages of the state-changing RPCs: `queue_put` and `function_map` field by field, any
    other by its method and its encoding. -/
inductive Message where
  | queuePut (queueId : String) (values : List (List UInt8)) (partitionKey : List UInt8)
      (partitionTtlSeconds : Int32)
  | functionMap (functionId parentInputId : String) (returnExceptions : Bool)
      (functionCallType : Int32) (pipelinedInputs : List (List UInt8))
      (functionCallInvocationType : Int32) (fromSpawnMap : Bool)
  | other (method : String) (encoded : List UInt8)
  deriving DecidableEq, Repr

/-- `tonic::Request`. -/
structure Request where
  message : Message
  metadata : Metadata
  deriving DecidableEq, Repr

/-- `Request::new`. -/
def Request.new (message : Message) : Request := ⟨message, []⟩

/-- The header values shared by all requests of a client. -/
structure ModalInterceptor where
  tokenId : String
  tokenSecret : String
  libmodalVersion : String

/-- Injects the Modal headers. -/
def ModalInterceptor.call (i : ModalInterceptor) (request : Request) : Request :=
  { request with
    metadata := ((((request.metadata.insert "x-modal-client-type" "9").insert
      "x-modal-client-version" "1.0.0").insert
      "x-modal-libmodal-version" i.libmodalVersion).insert
      "x-modal-token-id" i.tokenId).insert
      "x-modal-token-secret" i.tokenSecret }

structure ModalGrpcTransport where
  interceptor : ModalInterceptor
  retryConfig : GrpcRetryConfig

/-- The transport that `connect` builds. -/
def ModalGrpcTransport.connected (interceptor : ModalInterceptor) : ModalGrpcTransport :=
  ⟨interceptor, {}⟩

/-! ## 2. The server and the network -/

/-- The idempotency key that a request carries, if any. -/
def Request.idempotencyKey (request : Request) : Option String :=
  request.metadata.lookup "x-idempotency-key"

/-- The keys a server has seen, and the requests it has applied. -/
structure Server where
  seen : List String
  applied : List Request
  deriving DecidableEq

def Server.receive (server : Server) (request : Request) : Server :=
  match request.idempotencyKey with
  | some key =>
      if key ∈ server.seen then server
      else { seen := key :: server.seen, applied := server.applied ++ [request] }
  | none => { server with applied := server.applied ++ [request] }

/-- How the client sees a loss. -/
inductive Loss where
  | unavailable | deadlineExceeded | cancelled
  deriving DecidableEq, Repr

def Loss.status : Loss → Status
  | .unavailable => ⟨.unavailable, ""⟩
  | .deadlineExceeded => ⟨.deadlineExceeded, ""⟩
  | .cancelled => ⟨.cancelled, ""⟩

/-- What becomes of an attempt. -/
inductive Fate (α : Type) where
  | requestLost (loss : Loss)
  | replyLost (loss : Loss)
  /-- The server answers with an error and does not apply the request. -/
  | refused (status : Status)
  | answered (reply : α)

namespace Fate

variable {α : Type}

/-- The request gets to the server, which applies it unless it knows its key. -/
def arrives : Fate α → Bool
  | .replyLost _ | .answered _ => true
  | .requestLost _ | .refused _ => false

/-- What the client sees. -/
def outcome : Fate α → Except Status α
  | .requestLost loss | .replyLost loss => .error loss.status
  | .refused status => .error status
  | .answered reply => .ok reply

/-- The client sees a transient error. -/
def transient (config : GrpcRetryConfig) (fate : Fate α) : Bool :=
  match fate.outcome with
  | .error status => config.isRetryable status.code
  | .ok _ => false

end Fate

/-- The server, the fates of the attempts to come, by their number, and the attempts made. -/
structure World (α : Type) where
  server : Server
  fate : Nat → Fate α
  sent : Nat

variable {α : Type}

/-- One attempt. -/
def send (request : Request) (w : World α) : Except Status α × World α :=
  let fate := w.fate w.sent
  let server := if fate.arrives then w.server.receive request else w.server
  (fate.outcome, { w with server := server, sent := w.sent + 1 })

/-! ## 3. The call sites -/

namespace ModalGrpcTransport

/-- Execute a gRPC call with automatic retry on transient errors. -/
def retryBlockOn (t : ModalGrpcTransport) (nanos seq : Nat)
    (makeCall : RetryContext → World α → Except Status α × World α) (w : World α) :
    Retried (World α) α :=
  retryCallAsync t.retryConfig nanos seq makeCall w

/-- `self.retry_block_on(|_ctx| { … client.method(req).await })`, the same at every call site: the
    context is not used. -/
def unary (t : ModalGrpcTransport) (message : Message) (nanos seq : Nat) (w : World α) :
    Retried (World α) α :=
  t.retryBlockOn nanos seq (fun _ctx w => send (t.interceptor.call (Request.new message)) w) w

def queuePut (t : ModalGrpcTransport) (queueId : String) (values : List (List UInt8))
    (partitionKey : Option (List UInt8)) (partitionTtlSeconds : Int32) (nanos seq : Nat)
    (w : World α) : Retried (World α) α :=
  t.unary (.queuePut queueId values (partitionKey.getD []) partitionTtlSeconds) nanos seq w

def functionMap (t : ModalGrpcTransport) (functionId : String) (functionCallType : Int32)
    (functionCallInvocationType : Int32) (pipelinedInputs : List (List UInt8)) (nanos seq : Nat)
    (w : World α) : Retried (World α) α :=
  t.unary (.functionMap functionId "" false functionCallType pipelinedInputs
    functionCallInvocationType false) nanos seq w

end ModalGrpcTransport

/-! ## 4. How often a request is applied -/

/-- **No request carries an idempotency key.** -/
theorem call_idempotencyKey (i : ModalInterceptor) (message : Message) :
    (i.call (Request.new message)).idempotencyKey = none := by
  simp [ModalInterceptor.call, Request.new, Metadata.insert, Request.idempotencyKey]

theorem receive_unkeyed {server : Server} {request : Request} (h : request.idempotencyKey = none) :
    server.receive request = { server with applied := server.applied ++ [request] } := by
  simp only [Server.receive, h]

/-- The attempts that arrive, of `left` attempts from number `i` on. -/
def arrivals (config : GrpcRetryConfig) (fate : Nat → Fate α) : (left i : Nat) → Nat
  | 0, _ => 0
  | left + 1, i =>
      (fate i).arrives.toNat +
        if (fate i).transient config then arrivals config fate left (i + 1) else 0

section Arrivals

variable {config : GrpcRetryConfig} {fate : Nat → Fate α}

theorem add_succ_eq (i k : Nat) : i + (k + 1) = i + 1 + k := by
  omega

/-- An attempt after the first is made exactly if the first came back with a transient error and
    it is made of the attempts from the next number on. -/
theorem made_succ {i b : Nat} :
    (∀ k, k < b + 1 → (fate (i + k)).transient config = true) ↔
      (fate i).transient config = true ∧
        ∀ k, k < b → (fate (i + 1 + k)).transient config = true := by
  rw [Nat.forall_lt_succ_left, Nat.add_zero]
  refine and_congr_right fun _ => forall_congr' fun k => ?_
  rw [add_succ_eq]

/-- Nothing arrives exactly when no attempt that is made arrives. -/
theorem arrivals_eq_zero : ∀ (left i : Nat), arrivals config fate left i = 0 ↔
    ∀ j, j < left → (∀ k, k < j → (fate (i + k)).transient config = true) →
      (fate (i + j)).arrives = false
  | 0, _ => ⟨fun _ _ hj => absurd hj (Nat.not_lt_zero _), fun _ => rfl⟩
  | left + 1, i => by
      rw [arrivals, Nat.add_eq_zero_iff, Bool.toNat_eq_zero]
      constructor
      · rintro ⟨hfirst, hrest⟩ j hj hmade
        cases j with
        | zero => exact hfirst
        | succ j =>
          obtain ⟨htr, hmade⟩ := made_succ.mp hmade
          rw [if_pos htr, arrivals_eq_zero left (i + 1)] at hrest
          rw [add_succ_eq]
          exact hrest j (by omega) hmade
      · intro h
        refine ⟨h 0 (Nat.succ_pos left) fun k hk => absurd hk (Nat.not_lt_zero k), ?_⟩
        by_cases htr : (fate i).transient config = true
        · rw [if_pos htr, arrivals_eq_zero left (i + 1)]
          intro j hj hmade
          rw [← add_succ_eq]
          exact h (j + 1) (by omega) (made_succ.mpr ⟨htr, hmade⟩)
        · rw [if_neg htr]

/-- Two of the attempts that are made arrive. -/
def ArrivesTwice (config : GrpcRetryConfig) (fate : Nat → Fate α) (left i : Nat) : Prop :=
  ∃ a b, a < b ∧ b < left ∧ (∀ k, k < b → (fate (i + k)).transient config = true) ∧
    (fate (i + a)).arrives = true ∧ (fate (i + b)).arrives = true

/-- What is two attempts from `i` on, one of them not the first. -/
theorem arrivesTwice_succ {left i : Nat} (htr : (fate i).transient config = true) :
    ArrivesTwice config fate (left + 1) i ↔
      ((fate i).arrives = true ∧ arrivals config fate left (i + 1) ≠ 0) ∨
        ArrivesTwice config fate left (i + 1) := by
  constructor
  · rintro ⟨a, b, hab, hb, hmade, ha, hb'⟩
    obtain ⟨b, rfl⟩ := Nat.exists_eq_succ_of_ne_zero (Nat.ne_of_gt (Nat.zero_lt_of_lt hab))
    obtain ⟨-, hmade⟩ := made_succ.mp hmade
    rw [Nat.succ_eq_add_one, add_succ_eq] at hb'
    cases a with
    | zero =>
      refine Or.inl ⟨ha, fun hzero => ?_⟩
      have hnone := (arrivals_eq_zero left (i + 1)).mp hzero b (by omega) hmade
      rw [hnone] at hb'
      cases hb'
    | succ a =>
      rw [add_succ_eq] at ha
      exact Or.inr ⟨a, b, by omega, by omega, hmade, ha, hb'⟩
  · rintro (⟨hfirst, hne⟩ | ⟨a, b, hab, hb, hmade, ha, hb'⟩)
    · rw [Ne, arrivals_eq_zero] at hne
      obtain ⟨b, hb⟩ := not_forall.mp hne
      obtain ⟨hlt, hb⟩ := Classical.not_imp.mp hb
      obtain ⟨hmade, hb'⟩ := Classical.not_imp.mp hb
      refine ⟨0, b + 1, Nat.succ_pos b, by omega, made_succ.mpr ⟨htr, hmade⟩, hfirst, ?_⟩
      rw [add_succ_eq]
      exact Bool.of_not_eq_false hb'
    · refine ⟨a + 1, b + 1, by omega, by omega, made_succ.mpr ⟨htr, hmade⟩, ?_, ?_⟩
      · rw [add_succ_eq]
        exact ha
      · rw [add_succ_eq]
        exact hb'

theorem arrivals_le_one : ∀ (left i : Nat),
    arrivals config fate left i ≤ 1 ↔ ¬ ArrivesTwice config fate left i
  | 0, i => by
      refine ⟨fun _ => ?_, fun _ => Nat.zero_le 1⟩
      rintro ⟨a, b, -, hb, -⟩
      exact absurd hb (Nat.not_lt_zero b)
  | left + 1, i => by
      rw [arrivals]
      by_cases htr : (fate i).transient config = true
      · rw [if_pos htr, arrivesTwice_succ htr, not_or, ← arrivals_le_one left (i + 1)]
        cases (fate i).arrives with
        | false => simp
        | true =>
          simp only [Bool.toNat_true, Ne, true_and, not_not]
          omega
      · rw [if_neg htr]
        refine ⟨fun _ => ?_, fun _ => Bool.toNat_le (fate i).arrives⟩
        rintro ⟨a, b, hab, -, hmade, -⟩
        exact htr (hmade 0 (Nat.zero_lt_of_lt hab))

end Arrivals

theorem transient_iff {config : GrpcRetryConfig} {fate : Fate α} :
    fate.transient config = true ↔ Transient config fate.outcome := by
  unfold Fate.transient Transient
  cases fate.outcome with
  | ok reply => simp
  | error status => simp

/-- What one attempt adds to the applied requests. -/
theorem send_applied {request : Request} (hkey : request.idempotencyKey = none) (w : World α) :
    (send request w).2.server.applied.length =
      w.server.applied.length + (w.fate w.sent).arrives.toNat := by
  cases harrives : (w.fate w.sent).arrives with
  | true => simp [send, harrives, receive_unkeyed hkey]
  | false => simp [send, harrives]

/-- **An RPC is applied once for every attempt that arrives.** -/
theorem retryFrom_applied {config : GrpcRetryConfig} {request : Request} {key : String}
    (hkey : request.idempotencyKey = none)
    (hmul : max config.baseDelay config.maxDelay * config.backoffFactor ≤ Duration.max) :
    ∀ (left attempt : Nat) (delay : Duration) (w : World α),
      attempt + left = config.maxRetries + 1 → delay ≤ max config.baseDelay config.maxDelay →
        (retryFrom config (fun _ctx w => send request w) key left attempt delay
            w).world.server.applied.length =
          w.server.applied.length + arrivals config w.fate left w.sent
  | 0, _, _, _, _, _ => rfl
  | left + 1, attempt, delay, w, hleft, hdelay => by
      have happlied := send_applied hkey w
      rcases hcall : send request w with ⟨out, w'⟩
      rw [hcall] at happlied
      have hout : out = (w.fate w.sent).outcome := (congrArg Prod.fst hcall).symm
      have hw' : w'.fate = w.fate ∧ w'.sent = w.sent + 1 := by
        have hsnd : w' = (send request w).2 := (congrArg Prod.snd hcall).symm
        rw [hsnd]
        exact ⟨rfl, rfl⟩
      rw [arrivals]
      by_cases htr : (w.fate w.sent).transient config = true
      · -- a transient error
        have htransient : Transient config out := by
          rw [hout]
          exact transient_iff.mp htr
        rw [if_pos htr]
        by_cases hlast : attempt < config.maxRetries
        · have hlong : delay * config.backoffFactor ≤ Duration.max :=
            Nat.le_trans (Nat.mul_le_mul_right _ hdelay) hmul
          rw [retryFrom_retries hcall htransient hlast hlong]
          rw [retryFrom_applied hkey hmul left (attempt + 1) _ w' (by omega)
            (Nat.le_trans (Nat.min_le_right _ _) (Nat.le_max_right _ _))]
          rw [hw'.1, hw'.2, happlied, Nat.add_assoc]
        · have hzero : left = 0 := by omega
          subst hzero
          rw [retryFrom_stops hcall fun h => hlast h.2, happlied]
          rfl
      · -- a reply or another error
        have hstop : ¬ Transient config out := by
          rw [hout]
          exact fun h => htr (transient_iff.mpr h)
        rw [if_neg htr, retryFrom_stops hcall fun h => hstop h.1, happlied]
        rfl

/-- No delay of the default configuration overflows. -/
theorem backoff_le : max ({} : GrpcRetryConfig).baseDelay ({} : GrpcRetryConfig).maxDelay *
    ({} : GrpcRetryConfig).backoffFactor ≤ Duration.max := by
  decide

/-- The same of an RPC of a connected transport: four attempts at most. -/
theorem unary_applied (interceptor : ModalInterceptor) (message : Message) (nanos seq : Nat)
    (w : World α) :
    ((ModalGrpcTransport.connected interceptor).unary message nanos seq
        w).world.server.applied.length =
      w.server.applied.length + arrivals {} w.fate 4 w.sent := by
  rw [ModalGrpcTransport.unary, ModalGrpcTransport.retryBlockOn, retryCallAsync]
  have hkey := call_idempotencyKey interceptor message
  exact retryFrom_applied hkey backoff_le 4 0 _ w rfl (Nat.le_max_left _ _)

/-- **At most once, exactly when no two attempts arrive**: an RPC of a connected transport is
    applied at most once if and only if there are no two attempts among the four it can make that
    both arrive, where every attempt before the later one came back with a transient error. -/
theorem applied_at_most_once_exactly (interceptor : ModalInterceptor) (message : Message)
    (nanos seq : Nat) (server : Server) (fate : Nat → Fate α) :
    ((ModalGrpcTransport.connected interceptor).unary message nanos seq
        ⟨server, fate, 0⟩).world.server.applied.length ≤ server.applied.length + 1 ↔
      ¬ ∃ a b, a < b ∧ b < 4 ∧ (∀ k, k < b → (fate k).transient {} = true) ∧
        (fate a).arrives = true ∧ (fate b).arrives = true := by
  have htwice := @arrivals_le_one α {} fate 4 0
  simp only [ArrivesTwice, Nat.zero_add] at htwice
  rw [unary_applied, ← htwice]
  exact Nat.add_le_add_iff_left

/-- The reply to the first attempt is lost, and the second attempt is answered: the server applies
    the put twice. -/
theorem queuePut_applied_twice :
    ¬ ((ModalGrpcTransport.connected ⟨"ak", "as", "modal-rs/0.1"⟩).queuePut "qu-1" [[1]] none
        86400 0 0 ⟨⟨[], []⟩, fun i => if i = 0 then .replyLost .unavailable else .answered (),
          0⟩).world.server.applied.length ≤ 1 := by
  decide

end ModalRs
