/-
  File:      ModalRs/Named.lean
  Subject:   Objects that are found by their names and deleted, by many threads at once.

  * `orNotFound`, `deleteByName`: what the services have in common.
  * `QueueServiceImpl`, `VolumeServiceImpl`, `SecretServiceImpl`, `AppServiceImpl`,
    `ProxyServiceImpl`: their lookups by name, and their deletions.
  * `NamedCall`: the calls; `namedSession`: their threads in any interleaving.
  * `named`: what a call sends: its lookup, and for a deletion the id that was found.
  * `named_session_sound`: this in every interleaving, and what an `Ok` says of a deletion.
-/
import ModalRs.Ephemeral
import ModalRs.Lib.Threads

namespace ModalRs

open ModalRs.Lib ModalRs.Rust

/-! ## 1. The services -/

/-- App references a deployed Modal App. -/
structure App where
  appId : String
  name : String
  deriving DecidableEq

/-- Proxy represents a Modal Proxy. -/
structure Proxy where
  proxyId : String
  deriving DecidableEq

/-- The calls of the clients of the services. -/
inductive NamedRpc where
  | queueGetOrCreate (deploymentName environmentName : String) (objectCreationType : Int32)
  | queueDelete (queueId : String)
  | volumeGetOrCreate (deploymentName environmentName : String) (objectCreationType : Int32)
  | volumeDelete (volumeId : String)
  | secretGetOrCreate (deploymentName environmentName : String) (requiredKeys : List String)
      (objectCreationType : Int32) (envDict : HashMap String String)
  | secretDelete (secretId : String)
  | appGetOrCreate (appName environmentName : String) (objectCreationType : Int32)
  | proxyGet (name environmentName : String)
  deriving DecidableEq

/-- What an RPC returns. -/
abbrev NamedRpc.Value : NamedRpc → Type
  | .queueGetOrCreate .. | .volumeGetOrCreate .. | .secretGetOrCreate .. | .appGetOrCreate .. =>
      String
  | .queueDelete _ | .volumeDelete _ | .secretDelete _ => Unit
  | .proxyGet _ _ => Option String

abbrev NamedRpc.Reply (a : NamedRpc) : Type := Except ModalError a.Value

/-- An RPC with its reply. -/
abbrev NamedEvent : Type := Answered NamedRpc NamedRpc.Reply

abbrev NamedM (α : Type) : Type := ExceptT ModalError (Resumption NamedRpc NamedRpc.Reply) α

/-- The default of `QueueFromNameParams`, `VolumeFromNameParams` and `AppFromNameParams`. -/
structure FromNameParams where
  environment : String := ""
  createIfMissing : Bool := false

/-- The default of `QueueDeleteParams`, `VolumeDeleteParams` and `SecretDeleteParams`. -/
structure DeleteParams where
  environment : String := ""
  allowMissing : Bool := false

structure SecretFromNameParams where
  environment : String := ""
  requiredKeys : List String := []

/-- Check if an error is a gRPC NotFound status. -/
def isGrpcNotFound : ModalError → Bool
  | .grpc status => status.code == .notFound
  | _ => false

/-- Check if an error is a NotFound error. -/
def isNotFoundError : ModalError → Bool
  | .notFound _ => true
  | e => isGrpcNotFound e

/-- OBJECT_CREATION_TYPE_CREATE_IF_MISSING or OBJECT_CREATION_TYPE_UNSPECIFIED. -/
def creationType (createIfMissing : Bool) : Int32 := if createIfMissing then 1 else 0

/-- What is missing is not found under its name; `missing` tells the services apart. -/
def orNotFound {α : Type} (missing : ModalError → Bool) (kind name : String) (m : NamedM α) :
    NamedM α :=
  tryCatch m fun e =>
    throw (if missing e then .notFound (kind ++ " '" ++ name ++ "' not found") else e)

/-- A deletion: the object is found by its name, and deleted by its id. -/
def deleteByName (fromName : NamedM String) (delete : String → NamedM Unit) (allowMissing : Bool) :
    NamedM Unit := do
  let found ← tryCatch (some <$> fromName) fun e =>
    if isNotFoundError e && allowMissing then pure none else throw e
  match found with
  | none => pure ()
  | some id =>
      tryCatch (delete id) fun e => if isGrpcNotFound e && allowMissing then pure () else throw e

section Services

variable (profileEnvironment : String)

def QueueServiceImpl.fromName (name : String) (params : Option FromNameParams) : NamedM Queue := do
  let params := params.getD {}
  let env := environmentName params.environment profileEnvironment
  let queueId ← orNotFound isNotFoundError "Queue" name
    (ExceptT.mk (.act (.queueGetOrCreate name env (creationType params.createIfMissing)) .done))
  pure ⟨queueId, name⟩

def QueueServiceImpl.delete (name : String) (params : Option DeleteParams) : NamedM Unit :=
  let params := params.getD {}
  deleteByName
    (Queue.queueId <$> QueueServiceImpl.fromName profileEnvironment name
      (some ⟨params.environment, false⟩))
    (fun queueId => ExceptT.mk (.act (.queueDelete queueId) .done)) params.allowMissing

def VolumeServiceImpl.fromName (name : String) (params : Option FromNameParams) :
    NamedM Volume := do
  let params := params.getD {}
  let env := environmentName params.environment profileEnvironment
  let volumeId ← orNotFound isNotFoundError "Volume" name
    (ExceptT.mk (.act (.volumeGetOrCreate name env (creationType params.createIfMissing)) .done))
  pure (.new volumeId name)

def VolumeServiceImpl.delete (name : String) (params : Option DeleteParams) : NamedM Unit :=
  let params := params.getD {}
  deleteByName
    (Volume.volumeId <$> VolumeServiceImpl.fromName profileEnvironment name
      (some ⟨params.environment, false⟩))
    (fun volumeId => ExceptT.mk (.act (.volumeDelete volumeId) .done)) params.allowMissing

def SecretServiceImpl.fromName (name : String) (params : Option SecretFromNameParams) :
    NamedM Secret := do
  let params := params.getD {}
  let env := environmentName params.environment profileEnvironment
  let secretId ← orNotFound isNotFoundError "Secret" name
    (ExceptT.mk (.act (.secretGetOrCreate name env params.requiredKeys 0 ∅) .done))
  pure ⟨secretId, name⟩

/-- The default of `SecretFromMapParams` has no environment. -/
def SecretServiceImpl.fromMap (keyValuePairs : HashMap String String)
    (environment : Option String) : NamedM Secret := do
  let env := environmentName (environment.getD "") profileEnvironment
  -- OBJECT_CREATION_TYPE_EPHEMERAL
  let secretId ← ExceptT.mk (.act (.secretGetOrCreate "" env [] 5 keyValuePairs) .done)
  pure ⟨secretId, ""⟩

def SecretServiceImpl.delete (name : String) (params : Option DeleteParams) : NamedM Unit :=
  let params := params.getD {}
  deleteByName
    (Secret.secretId <$> SecretServiceImpl.fromName profileEnvironment name
      (some ⟨params.environment, []⟩))
    (fun secretId => ExceptT.mk (.act (.secretDelete secretId) .done)) params.allowMissing

/-- Only the status of the server is taken for a missing app. -/
def AppServiceImpl.fromName (name : String) (params : Option FromNameParams) : NamedM App := do
  let params := params.getD {}
  let env := environmentName params.environment profileEnvironment
  let appId ← orNotFound isGrpcNotFound "App" name
    (ExceptT.mk (.act (.appGetOrCreate name env (creationType params.createIfMissing)) .done))
  pure ⟨appId, name⟩

/-- The default of `ProxyFromNameParams` has no environment. An empty id is no proxy. -/
def ProxyServiceImpl.fromName (name : String) (environment : Option String) : NamedM Proxy := do
  let env := environmentName (environment.getD "") profileEnvironment
  let proxyId ← orNotFound isGrpcNotFound "Proxy" name (ExceptT.mk (.act (.proxyGet name env) .done))
  match proxyId with
  | some id =>
      if id ≠ "" then pure ⟨id⟩ else throw (.notFound ("Proxy '" ++ name ++ "' not found"))
  | none => throw (.notFound ("Proxy '" ++ name ++ "' not found"))

/-- Merge environment variables into the secrets list. `none` for no secret service. -/
def mergeEnvIntoSecrets (secretService : Option (HashMap String String → NamedM Secret))
    (env : Option (HashMap String String)) (secrets : Option (List Secret)) :
    NamedM (List Secret) :=
  let result := secrets.getD []
  match env with
  | none => pure result
  | some e =>
      if e = ∅ then pure result
      else
        match secretService with
        | none => throw (.other "secret service required")
        | some fromMap => do
            let envSecret ← fromMap e
            pure (result ++ [envSecret])

end Services

/-! ## 2. Calls and their threads -/

/-- A call of a service. -/
inductive NamedCall where
  | queueFromName (name : String) (params : Option FromNameParams)
  | queueDelete (name : String) (params : Option DeleteParams)
  | volumeFromName (name : String) (params : Option FromNameParams)
  | volumeDelete (name : String) (params : Option DeleteParams)
  | secretFromName (name : String) (params : Option SecretFromNameParams)
  | secretFromMap (keyValuePairs : HashMap String String) (environment : Option String)
  | secretDelete (name : String) (params : Option DeleteParams)
  | mergeEnvIntoSecrets (env : Option (HashMap String String)) (secrets : Option (List Secret))
  | appFromName (name : String) (params : Option FromNameParams)
  | proxyFromName (name : String) (environment : Option String)

/-- What a call returns. -/
inductive NamedValue where
  | queue (queue : Queue)
  | volume (volume : Volume)
  | secret (secret : Secret)
  | secrets (secrets : List Secret)
  | app (app : App)
  | proxy (proxy : Proxy)
  | deleted
  deriving DecidableEq

section Threads

variable (profileEnvironment : String)

def NamedCall.method : NamedCall → NamedM NamedValue
  | .queueFromName name params =>
      .queue <$> QueueServiceImpl.fromName profileEnvironment name params
  | .queueDelete name params =>
      (fun _ => .deleted) <$> QueueServiceImpl.delete profileEnvironment name params
  | .volumeFromName name params =>
      .volume <$> VolumeServiceImpl.fromName profileEnvironment name params
  | .volumeDelete name params =>
      (fun _ => .deleted) <$> VolumeServiceImpl.delete profileEnvironment name params
  | .secretFromName name params =>
      .secret <$> SecretServiceImpl.fromName profileEnvironment name params
  | .secretFromMap keyValuePairs environment =>
      .secret <$> SecretServiceImpl.fromMap profileEnvironment keyValuePairs environment
  | .secretDelete name params =>
      (fun _ => .deleted) <$> SecretServiceImpl.delete profileEnvironment name params
  | .mergeEnvIntoSecrets env secrets =>
      .secrets <$> ModalRs.mergeEnvIntoSecrets
        (some fun e => SecretServiceImpl.fromMap profileEnvironment e none) env secrets
  | .appFromName name params => .app <$> AppServiceImpl.fromName profileEnvironment name params
  | .proxyFromName name environment =>
      .proxy <$> ProxyServiceImpl.fromName profileEnvironment name environment

abbrev NamedCall.program (k : NamedCall) :
    Resumption NamedRpc NamedRpc.Reply (Except ModalError NamedValue) :=
  (k.method profileEnvironment).run

/-- An interleaving of calls, each RPC with the reply of the server. -/
abbrev NamedMove : Type := Move NamedCall NamedRpc NamedRpc.Reply

/-- The services after some moves; the threads share nothing but the server. -/
def namedSession (moves : List NamedMove) :
    Pool Unit NamedCall NamedRpc NamedRpc.Reply (Except ModalError NamedValue) :=
  Pool.run (NamedCall.program profileEnvironment) (fun _ _ r => (r, ())) moves (Pool.initial ())

/-! ## 3. What a call sends -/

/-- The RPC that a call sends first. -/
def NamedCall.lookup : NamedCall → NamedRpc
  | .queueFromName name params =>
      .queueGetOrCreate name (environmentName (params.getD {}).environment profileEnvironment)
        (creationType (params.getD {}).createIfMissing)
  | .queueDelete name params =>
      .queueGetOrCreate name (environmentName (params.getD {}).environment profileEnvironment) 0
  | .volumeFromName name params =>
      .volumeGetOrCreate name (environmentName (params.getD {}).environment profileEnvironment)
        (creationType (params.getD {}).createIfMissing)
  | .volumeDelete name params =>
      .volumeGetOrCreate name (environmentName (params.getD {}).environment profileEnvironment) 0
  | .secretFromName name params =>
      .secretGetOrCreate name (environmentName (params.getD {}).environment profileEnvironment)
        (params.getD {}).requiredKeys 0 ∅
  | .secretFromMap keyValuePairs environment =>
      .secretGetOrCreate "" (environmentName (environment.getD "") profileEnvironment) [] 5
        keyValuePairs
  | .secretDelete name params =>
      .secretGetOrCreate name (environmentName (params.getD {}).environment profileEnvironment) []
        0 ∅
  | .mergeEnvIntoSecrets env _ =>
      .secretGetOrCreate "" (environmentName "" profileEnvironment) [] 5 (env.getD ∅)
  | .appFromName name params =>
      .appGetOrCreate name (environmentName (params.getD {}).environment profileEnvironment)
        (creationType (params.getD {}).createIfMissing)
  | .proxyFromName name environment =>
      .proxyGet name (environmentName (environment.getD "") profileEnvironment)

/-- The RPC that deletes what a deletion has found, and whether it may be missing. -/
def NamedCall.deletion : NamedCall → Option ((String → NamedRpc) × Bool)
  | .queueDelete _ params => some (.queueDelete, (params.getD {}).allowMissing)
  | .volumeDelete _ params => some (.volumeDelete, (params.getD {}).allowMissing)
  | .secretDelete _ params => some (.secretDelete, (params.getD {}).allowMissing)
  | _ => none

/-- The id that a lookup has found. -/
def foundId : NamedEvent → Option String
  | ⟨.queueGetOrCreate .., .ok id⟩ => some id
  | ⟨.volumeGetOrCreate .., .ok id⟩ => some id
  | ⟨.secretGetOrCreate .., .ok id⟩ => some id
  | _ => none

/-- The error of a reply. -/
def NamedEvent.failure : NamedEvent → Option ModalError
  | ⟨_, .error e⟩ => some e
  | ⟨_, .ok _⟩ => none

/-- The RPC that may come next in a call. -/
def NamedCall.next (k : NamedCall) : List NamedEvent → Option NamedRpc
  | [] => some (k.lookup profileEnvironment)
  | [e] => k.deletion.bind fun d => (foundId e).map d.1
  | _ => none

/-- A call's events, one after the other; `none` where another RPC is sent. -/
def named (k : NamedCall) : Resumption.Discipline NamedRpc NamedRpc.Reply (List NamedEvent) := fun es e =>
  if k.next profileEnvironment es = some e.action then some (es ++ [e]) else none

end Threads

section Calls

variable {profileEnvironment : String} {k : NamedCall}

theorem named_next {es : List NamedEvent} {a : NamedRpc}
    (h : k.next profileEnvironment es = some a) (r : a.Reply) :
    named profileEnvironment k es ⟨a, r⟩ = some (es ++ [⟨a, r⟩]) := if_pos h

/-- What a lookup leaves: one event, which brings the id or the failure. -/
def LookedUp (es : List NamedEvent) (out : Except ModalError String) : Prop :=
  ∃ e, es = [e] ∧ match out with
    | .ok id => foundId e = some id
    | .error err => ∃ err', e.failure = some err' ∧
        if isNotFoundError err' then ∃ msg, err = .notFound msg else err = err'

/-- How a deletion ends. -/
structure DeletionEnds (allowMissing : Bool) (es : List NamedEvent)
    (out : Except ModalError Unit) : Prop where
  /-- `Ok` means that it is deleted, or that it was missing and may be. -/
  ok : out = .ok () → (∃ e e', es = [e, e'] ∧ e'.failure = none) ∨
    allowMissing = true ∧ ∃ e err, es.getLast? = some e ∧ e.failure = some err ∧
      isNotFoundError err = true
  /-- An error is that of the last reply, and no status `NotFound` that may be. -/
  error : ∀ err, out = .error err → ∃ e err', es.getLast? = some e ∧ e.failure = some err' ∧
    (err = err' ∨ isNotFoundError err' = true ∧ ∃ msg, err = .notFound msg) ∧
    ¬ (allowMissing = true ∧ isGrpcNotFound err' = true)

theorem isNotFoundError_of_grpc {e : ModalError} (h : isGrpcNotFound e = true) :
    isNotFoundError e = true := by
  cases e with
  | notFound msg => rfl
  | _ => exact h

/-- What the deletion of a found object leaves. -/
def Deleted (e : NamedEvent) (es : List NamedEvent) (out : Except ModalError Unit) : Prop :=
  ∃ e', es = [e, e'] ∧ match out with
    | .ok () => e'.failure = none
    | .error err => e'.failure = some err

/-- What the first half of a deletion leaves: an object, or none that has to be there. -/
def Searched (allowMissing : Bool) (es : List NamedEvent) (out : Except ModalError (Option String)) :
    Prop :=
  ∃ e, es = [e] ∧ match out with
    | .ok (some id) => foundId e = some id
    | .ok none => allowMissing = true ∧ ∃ err, e.failure = some err ∧ isNotFoundError err = true
    | .error err => ∃ err', e.failure = some err' ∧
        (err = err' ∨ isNotFoundError err' = true ∧ ∃ msg, err = .notFound msg) ∧
        ¬ (allowMissing = true ∧ isGrpcNotFound err' = true)

/-- A lookup whose failure is forgiven if the object may be missing. -/
theorem keeps_search {fromName : NamedM String} (allowMissing : Bool)
    (hfrom : Resumption.Keeps (named profileEnvironment k) LookedUp [] fromName.run) :
    Resumption.Keeps (named profileEnvironment k) (Searched allowMissing) []
      (ExceptT.run (tryCatch (some <$> fromName) fun e =>
        if isNotFoundError e && allowMissing then pure none else throw e)) := by
  have hfound : Resumption.Keeps (named profileEnvironment k)
      (fun es out => match out with
        | .ok (some id) => LookedUp es (.ok id)
        | .ok none => False
        | .error err => LookedUp es (.error err)) [] (ExceptT.run (some <$> fromName)) :=
    Resumption.keeps_mapExcept hfrom (fun _ _ h => h) fun _ _ h => h
  refine Resumption.keeps_tryCatch hfound ?_ ?_
  · intro es found h
    cases found with
    | none => exact h.elim
    | some id => exact h
  · intro es err ⟨e, hes, err', hfailure, hmapped⟩
    by_cases hmissing : isNotFoundError err' = true
    · rw [if_pos hmissing] at hmapped
      obtain ⟨msg, rfl⟩ := hmapped
      cases allowMissing with
      | true => exact ⟨e, hes, rfl, err', hfailure, hmissing⟩
      | false =>
        exact ⟨e, hes, err', hfailure, Or.inr ⟨hmissing, msg, rfl⟩, fun h => by cases h.1⟩
    · rw [if_neg hmissing] at hmapped
      subst hmapped
      have hthrow : (isNotFoundError err && allowMissing) ≠ true := fun h =>
        hmissing (Bool.and_eq_true_iff.mp h).1
      rw [if_neg hthrow]
      exact ⟨e, hes, err, hfailure, Or.inl rfl, fun h => hmissing (isNotFoundError_of_grpc h.2)⟩

/-- **A deletion by name** sends its lookup and then the deletion of what was found. -/
theorem keeps_deleteByName {fromName : NamedM String} {delete : String → NamedM Unit}
    (allowMissing : Bool)
    (hfrom : Resumption.Keeps (named profileEnvironment k) LookedUp [] fromName.run)
    (hdelete : ∀ e id, foundId e = some id →
      Resumption.Keeps (named profileEnvironment k) (Deleted e) [e] (delete id).run) :
    Resumption.Keeps (named profileEnvironment k) (DeletionEnds allowMissing) []
      (deleteByName fromName delete allowMissing).run := by
  refine Resumption.keeps_bindExcept (keeps_search allowMissing hfrom) ?_ ?_
  · rintro es found ⟨e, rfl, h⟩
    cases found with
    | none =>
      obtain ⟨hallow, err, hfailure, hmissing⟩ := h
      exact ⟨fun _ => Or.inr ⟨hallow, e, err, rfl, hfailure, hmissing⟩, fun err h => by cases h⟩
    | some id =>
      refine Resumption.keeps_tryCatch (hdelete e id h) ?_ ?_
      · rintro es ⟨⟩ ⟨e', rfl, hnone⟩
        exact ⟨fun _ => Or.inl ⟨e, e', rfl, hnone⟩, fun err h => by cases h⟩
      · rintro es err ⟨e', rfl, hfailure⟩
        by_cases hforgiven : (isGrpcNotFound err && allowMissing) = true
        · obtain ⟨hgrpc, hallow⟩ := Bool.and_eq_true_iff.mp hforgiven
          rw [if_pos hforgiven]
          exact ⟨fun _ => Or.inr ⟨hallow, e', err, rfl, hfailure, isNotFoundError_of_grpc hgrpc⟩,
            fun err h => by cases h⟩
        · rw [if_neg hforgiven]
          refine ⟨fun h => (by cases h), fun err' herr => ?_⟩
          cases herr
          exact ⟨e', err, rfl, hfailure, Or.inl rfl, fun h =>
            hforgiven (Bool.and_eq_true_iff.mpr ⟨h.2, h.1⟩)⟩
  · rintro es err ⟨e, rfl, err', hfailure, hmapped, hstrict⟩
    refine ⟨fun h => (by cases h), fun err₂ herr => ?_⟩
    cases herr
    exact ⟨e, err', rfl, hfailure, hmapped, hstrict⟩

/-- A lookup that is answered. -/
theorem keeps_orNotFound {m : NamedM String} (kind name : String)
    (h : Resumption.Keeps (named profileEnvironment k) (fun es out => ∃ e, es = [e] ∧
      match out with
      | .ok id => foundId e = some id
      | .error err => e.failure = some err) [] m.run) :
    Resumption.Keeps (named profileEnvironment k) LookedUp []
      (orNotFound isNotFoundError kind name m).run := by
  refine Resumption.keeps_tryCatch h (fun es id h => h) fun es err ⟨e, hes, hfailure⟩ => ?_
  refine ⟨e, hes, err, hfailure, ?_⟩
  by_cases hmissing : isNotFoundError err = true
  · rw [if_pos hmissing, if_pos hmissing]
    exact ⟨_, rfl⟩
  · rw [if_neg hmissing, if_neg hmissing]

/-- The object of a lookup has the id that was found. -/
theorem keeps_fromName {α : Type} {m : NamedM String} (object : String → α) (idOf : α → String)
    (hid : ∀ id, idOf (object id) = id)
    (h : Resumption.Keeps (named profileEnvironment k) LookedUp [] m.run) :
    Resumption.Keeps (named profileEnvironment k) LookedUp []
      (ExceptT.run (idOf <$> (m >>= fun id => pure (object id)))) := by
  have hobject : Resumption.Keeps (named profileEnvironment k)
      (fun es out => LookedUp es (out.map idOf)) []
      (ExceptT.run (m >>= fun id => pure (object id))) := by
    refine Resumption.keeps_bindExcept h (fun es id hid' => ?_) (fun _ _ h => h)
    show LookedUp es (.ok (idOf (object id)))
    rw [hid]
    exact hid'
  exact Resumption.keeps_mapExcept hobject (fun _ _ h => h) (fun _ _ h => h)

/-- The promise of a call: of a deletion, how it ends. -/
def NamedEnds (k : NamedCall) (es : List NamedEvent) (out : Except ModalError NamedValue) : Prop :=
  ∀ delete allowMissing, k.deletion = some (delete, allowMissing) →
    DeletionEnds allowMissing es (out.map fun _ => ())

theorem namedEnds_of_none (h : k.deletion = none) (es : List NamedEvent)
    (out : Except ModalError NamedValue) : NamedEnds k es out := by
  intro delete allowMissing hsome
  rw [h] at hsome
  cases hsome

/-- A deletion returns nothing but that it did. -/
theorem keeps_deleted {m : NamedM Unit} {delete : String → NamedRpc} {allowMissing : Bool}
    (hdeletion : k.deletion = some (delete, allowMissing))
    (h : Resumption.Keeps (named profileEnvironment k) (DeletionEnds allowMissing) [] m.run) :
    Resumption.Keeps (named profileEnvironment k) (NamedEnds k) []
      (ExceptT.run ((fun _ => NamedValue.deleted) <$> m)) := by
  refine Resumption.keeps_mapExcept h ?_ ?_
  · intro es _ hends delete' allow' hsome
    rw [hdeletion] at hsome
    cases hsome
    exact hends
  · intro es err hends delete' allow' hsome
    rw [hdeletion] at hsome
    cases hsome
    exact hends

/-- The next RPC of a deletion, behind a lookup that has found `id`. -/
theorem next_found {delete : String → NamedRpc} {allowMissing : Bool} {e : NamedEvent} {id : String}
    (hdeletion : k.deletion = some (delete, allowMissing)) (h : foundId e = some id) :
    k.next profileEnvironment [e] = some (delete id) := by
  rw [NamedCall.next, hdeletion, Option.bind_some, h, Option.map_some]

end Calls

/-! ## 4. Every call, and every interleaving -/

section Programs

variable (profileEnvironment : String)

/-- **Every call sends what is due**: its lookup, and for a deletion what was found. -/
theorem keepsNamed_program (k : NamedCall) :
    Resumption.Keeps (named profileEnvironment k) (NamedEnds k) [] (k.program profileEnvironment) := by
  cases k with
  | queueFromName name params =>
    intro r
    refine ⟨_, named_next rfl r, ?_⟩
    cases r <;> exact namedEnds_of_none rfl _ _
  | volumeFromName name params =>
    intro r
    refine ⟨_, named_next rfl r, ?_⟩
    cases r <;> exact namedEnds_of_none rfl _ _
  | secretFromName name params =>
    intro r
    refine ⟨_, named_next rfl r, ?_⟩
    cases r <;> exact namedEnds_of_none rfl _ _
  | appFromName name params =>
    intro r
    refine ⟨_, named_next rfl r, ?_⟩
    cases r <;> exact namedEnds_of_none rfl _ _
  | proxyFromName name environment =>
    have hlookup : Resumption.Keeps (named profileEnvironment (.proxyFromName name environment))
        (fun _ _ => True) [] (orNotFound isGrpcNotFound "Proxy" name (ExceptT.mk (.act
          (.proxyGet name (environmentName (environment.getD "") profileEnvironment)) .done))).run := by
      intro r
      refine ⟨_, named_next rfl r, ?_⟩
      cases r <;> exact trivial
    have hproxy : Resumption.Keeps (named profileEnvironment (.proxyFromName name environment))
        (fun _ _ => True) []
        (ProxyServiceImpl.fromName profileEnvironment name environment).run := by
      refine Resumption.keeps_bindExcept hlookup (fun es id _ => ?_) fun _ _ _ => trivial
      cases id with
      | none => exact trivial
      | some id =>
        by_cases hid : id ≠ ""
        · simp only [if_pos hid]
          exact trivial
        · simp only [if_neg hid]
          exact trivial
    exact Resumption.keeps_mapExcept hproxy (fun _ _ _ => namedEnds_of_none rfl _ _)
      (fun _ _ _ => namedEnds_of_none rfl _ _)
  | secretFromMap keyValuePairs environment =>
    intro r
    refine ⟨_, named_next rfl r, ?_⟩
    cases r <;> exact namedEnds_of_none rfl _ _
  | mergeEnvIntoSecrets env secrets =>
    cases env with
    | none => exact namedEnds_of_none rfl _ _
    | some e =>
      by_cases hempty : e = ∅
      · rw [NamedCall.program, NamedCall.method, mergeEnvIntoSecrets, if_pos hempty]
        exact namedEnds_of_none rfl _ _
      · rw [NamedCall.program, NamedCall.method, mergeEnvIntoSecrets, if_neg hempty]
        intro r
        refine ⟨_, named_next rfl r, ?_⟩
        cases r <;> exact namedEnds_of_none rfl _ _
  | queueDelete name params =>
    refine keeps_deleted rfl (keeps_deleteByName _
      (keeps_fromName _ _ (fun _ => rfl) (keeps_orNotFound _ _ fun r => ?_)) fun e id he r => ?_)
    · refine ⟨_, named_next rfl r, ?_⟩
      cases r <;> exact ⟨_, rfl, rfl⟩
    · refine ⟨_, named_next (next_found rfl he) r, ?_⟩
      cases r <;> exact ⟨_, rfl, rfl⟩
  | volumeDelete name params =>
    refine keeps_deleted rfl (keeps_deleteByName _
      (keeps_fromName _ _ (fun _ => rfl) (keeps_orNotFound _ _ fun r => ?_)) fun e id he r => ?_)
    · refine ⟨_, named_next rfl r, ?_⟩
      cases r <;> exact ⟨_, rfl, rfl⟩
    · refine ⟨_, named_next (next_found rfl he) r, ?_⟩
      cases r <;> exact ⟨_, rfl, rfl⟩
  | secretDelete name params =>
    refine keeps_deleted rfl (keeps_deleteByName _
      (keeps_fromName _ _ (fun _ => rfl) (keeps_orNotFound _ _ fun r => ?_)) fun e id he r => ?_)
    · refine ⟨_, named_next rfl r, ?_⟩
      cases r <;> exact ⟨_, rfl, rfl⟩
    · refine ⟨_, named_next (next_found rfl he) r, ?_⟩
      cases r <;> exact ⟨_, rfl, rfl⟩

variable {profileEnvironment}

theorem next_of_named {k : NamedCall} {es es' : List NamedEvent} {e : NamedEvent}
    (h : named profileEnvironment k es e = some es') :
    k.next profileEnvironment es = some e.action ∧ es' = es ++ [e] := by
  unfold named at h
  split at h
  case isTrue hnext =>
    cases h
    exact ⟨hnext, rfl⟩
  case isFalse => cases h

/-- The mode of a call is what it has sent. -/
theorem named_after {k : NamedCall} {es es' : List NamedEvent}
    (h : (named profileEnvironment k).after [] es = some es') : es' = es := by
  refine Resumption.Discipline.after_invariant (I := fun m es => m = es) ?_ rfl h
  rintro m es e m' rfl hnext
  exact (next_of_named hnext).2

/-- **What is due behind a call's events**: the lookup, or the deletion of what it has found. -/
theorem next_cases {k : NamedCall} {es : List NamedEvent} {a : NamedRpc}
    (hafter : (named profileEnvironment k).after [] es = some es)
    (h : k.next profileEnvironment es = some a) :
    es = [] ∧ a = k.lookup profileEnvironment ∨
    ∃ e delete allowMissing id, es = [e] ∧ e.action = k.lookup profileEnvironment ∧
      foundId e = some id ∧ k.deletion = some (delete, allowMissing) ∧ a = delete id := by
  match es, hafter, h with
  | [], _, h =>
    cases h
    exact Or.inl ⟨rfl, rfl⟩
  | [e], hafter, h =>
    obtain ⟨m, hm, -⟩ := Resumption.Discipline.after_cons.mp hafter
    obtain ⟨d, hd, hid⟩ := Option.bind_eq_some_iff.mp h
    obtain ⟨id, hfound, rfl⟩ := Option.map_eq_some_iff.mp hid
    have hlookup := Option.some.inj (next_of_named hm).1
    exact Or.inr ⟨e, d.1, d.2, id, rfl, hlookup.symm, hfound, hd, rfl⟩
  | _ :: _ :: _, _, h => cases h

/-- **Named objects in any interleaving**: a call first sends its lookup, and a deletion deletes the
    id that its own lookup has found, whatever happened in between; it returns `Ok` only if that
    was deleted or may be missing. -/
theorem named_session_sound (profileEnvironment : String) (moves : List NamedMove) :
    (∀ before i e behind,
      (namedSession profileEnvironment moves).history = before ++ .step i e :: behind →
      ∃ k, .start i k ∈ before ∧
        (Pool.own i before = [] ∧ e.action = k.lookup profileEnvironment ∨
        ∃ found delete allowMissing id, Pool.own i before = [found] ∧
          found.action = k.lookup profileEnvironment ∧ foundId found = some id ∧
          k.deletion = some (delete, allowMissing) ∧ e.action = delete id)) ∧
    ∀ i k out, (namedSession profileEnvironment moves).threads i = some (k, .done out) →
      NamedEnds k (Pool.own i (namedSession profileEnvironment moves).history) out := by
  constructor
  · intro before i e behind h
    obtain ⟨ms₁, m, ms₂, k, next, -, hbefore, hsteps⟩ := Pool.run_performed h
    obtain ⟨hstart, hfollows⟩ := (Pool.run_onPath ms₁ ()).path i k _ hsteps.thread
    rw [hbefore] at hstart hfollows
    obtain ⟨es, hafter, hkeeps⟩ :=
      Resumption.keeps_follows hfollows (keepsNamed_program profileEnvironment k)
    obtain rfl := named_after hafter
    obtain ⟨es', hnext, -⟩ := hkeeps e.reply
    exact ⟨k, hstart, next_cases hafter (next_of_named hnext).1⟩
  · intro i k out h
    obtain ⟨-, hfollows⟩ := (Pool.run_onPath moves ()).path i k _ h
    obtain ⟨es, hafter, hkeeps⟩ :=
      Resumption.keeps_follows hfollows (keepsNamed_program profileEnvironment k)
    obtain rfl := named_after hafter
    exact hkeeps

/-- A queue that is made anew between a deletion's lookup and its end is not deleted by it. -/
theorem named_session_sound_race :
    let create : NamedMove := .step 1 fun
      | .queueGetOrCreate _ _ _ => .ok "qu-2"
      | .queueDelete _ | .volumeDelete _ | .secretDelete _ => .ok ()
      | .volumeGetOrCreate .. | .secretGetOrCreate .. | .appGetOrCreate .. => .ok ""
      | .proxyGet _ _ => .ok none
    let delete : NamedMove := .step 0 fun
      | .queueGetOrCreate _ _ _ => .ok "qu-1"
      | .queueDelete _ | .volumeDelete _ | .secretDelete _ => .ok ()
      | .volumeGetOrCreate .. | .secretGetOrCreate .. | .appGetOrCreate .. => .ok ""
      | .proxyGet _ _ => .ok none
    let moves : List NamedMove :=
      [.start 0 (.queueDelete "jobs" none), .start 1 (.queueFromName "jobs" (some ⟨"", true⟩)),
        delete, create, delete]
    (namedSession "main" moves).history.getLast? =
        some (.step 0 ⟨.queueDelete "qu-1", .ok ()⟩) ∧
      NamedEnds (.queueDelete "jobs" none) (Pool.own 0 (namedSession "main" moves).history)
        (.ok .deleted) := by
  intro create delete moves
  exact ⟨rfl, (named_session_sound "main" moves).2 0 (.queueDelete "jobs" none) (.ok .deleted) rfl⟩

end Programs

end ModalRs
