/-
  File:      ModalRs/Function/Failure.lean
  Subject:   Failures of a remote call, and what becomes of them on the way.

  A result is read data first, status second. So a blob that cannot be fetched
  takes the place of the failure that the result reports.

  * `Pb.GenericResult.failure`: the error that a result reports.
  * `FetchAllows`: fetching the data leaves an error as it is.
  * `processResult_failure`: how a failed result is read.
  * `awaitOutput_reports`: when the failure is reported, and retried.
-/
import ModalRs.Function.AwaitDeadline

namespace ModalRs

open ModalRs.Lib ModalRs.Rust

variable {V : Type} {lib : Ciborium V}

/-! ## 1. Reading a failed result -/

/-- The error that a result reports, if it is no success. -/
def Pb.GenericResult.failure (result : Pb.GenericResult) : Option ModalError :=
  match result.status with
  | .success => none
  | .timeout => some (.functionTimeout result.exception)
  | .internalFailure => some (.internalFailure result.exception)
  | .other _ => some (.remote result.exception)

/-- Fetching the data leaves an error as it is: there is nothing to fetch, or the blob is fetched,
    or that fails with the very error. -/
def FetchAllows (err : ModalError) : Option Pb.DataOneof → List InvocationAnswer → Prop
  | some (.dataBlobId _), [] => False
  | some (.dataBlobId blobId), blob :: is =>
      match blob.reply (.blobGet blobId), is with
      | .error e, _ => e = err
      | .ok _, [] => False
      | .ok resp, url :: _ => ∀ e, url.reply (.download resp.downloadUrl) = .error e → e = err
  | _, _ => True

section Reading

variable {result : Pb.GenericResult} {err : ModalError} {script rest : List InvocationAnswer}
  {es : List InvocationEvent}

/-- **The data come first**: a failed result reports its failure once they are there. -/
theorem processResult_failure (hfailure : result.failure = some err) (dataFormat : Pb.DataFormat) :
    processResult lib (some result) dataFormat =
      (resultData result.dataOneof >>= fun _ => fail err : InvocationM (InvocationResult V)) := by
  unfold processResult Pb.GenericResult.failure at *
  refine congrArg (resultData result.dataOneof >>= ·) (funext fun data => ?_)
  cases hstatus : result.status with
  | success =>
    rw [hstatus] at hfailure
    cases hfailure
  | timeout | internalFailure | other =>
    rw [hstatus] at hfailure
    cases hfailure
    rfl

/-- What fetching the data comes to. -/
theorem resultData_allows (data : Option Pb.DataOneof) (err : ModalError)
    (script : List InvocationAnswer) :
    FetchAllows err data script ↔
      ∀ halt, (resultData data script).2.1 = .error halt → halt = .err err := by
  match data with
  | none => exact ⟨fun _ _ h => (by cases h), fun _ => trivial⟩
  | some (.data bytes) => exact ⟨fun _ _ h => (by cases h), fun _ => trivial⟩
  | some (.dataBlobId blobId) =>
    match script with
    | [] => exact ⟨False.elim, fun h => by cases h _ rfl⟩
    | blob :: is =>
      unfold FetchAllows resultData blobDownload InvocationRequest.require
      simp only [Exchange.bind_apply, Exchange.ask_cons]
      cases hblob : blob.reply (.blobGet blobId) with
      | error e =>
        constructor
        · intro hsame halt h
          cases h
          exact congrArg Halt.err hsame
        · intro h
          exact Halt.err.inj (h _ rfl)
      | ok resp =>
        cases is with
        | nil => exact ⟨False.elim, fun h => by cases h _ rfl⟩
        | cons url is =>
          simp only [answered, Exchange.ask_cons]
          cases hurl : url.reply (.download resp.downloadUrl) with
          | error e =>
            constructor
            · intro hsame halt h
              cases h
              exact congrArg Halt.err (hsame e rfl)
            · intro h e' he'
              cases he'
              exact Halt.err.inj (h _ rfl)
          | ok bytes => exact ⟨fun _ _ h => (by cases h), fun _ _ h => (by cases h)⟩

/-- **A failed result is reported as what it is** exactly when fetching its data allows that. -/
theorem processResult_reports (hfailure : result.failure = some err) {dataFormat : Pb.DataFormat}
    {out : Except Halt (InvocationResult V)}
    (h : processResult lib (some result) dataFormat script = (es, out, rest)) :
    out = .error (.err err) ↔ FetchAllows err result.dataOneof script := by
  rw [processResult_failure hfailure] at h
  rw [resultData_allows]
  rcases Exchange.bind_cases h with ⟨halt, hdata, rfl⟩ | ⟨es₁, data, is₁, es₂, hdata, hfail, -⟩
  · rw [hdata]
    constructor
    · intro hout halt' hsame
      cases hsame
      exact Except.error.inj hout
    · intro hsame
      rw [hsame halt rfl]
  · rw [hdata]
    obtain ⟨-, hout, -⟩ := Exchange.lift_cases hfail
    exact ⟨fun _ halt hsame => (by cases hsame), fun _ => hout⟩

end Reading

/-! ## 2. Awaiting and retrying -/

/-- **An internal failure is retried**: behind the await comes the retry that is due. -/
theorem remoteLoop_retries {inv : ControlPlaneInvocation} {input : Pb.FunctionInput} {k : Nat}
    {script is : List InvocationAnswer} {es : List InvocationEvent} {msg : String}
    (hinput : inv.input = some input) (hk : k ≤ maxSystemRetries)
    (hawait : inv.awaitOutput lib none script =
      (es, .error (.err (.internalFailure msg)), is)) :
    let run := Function.remoteLoop lib inv k script
    (sent run.1 run.2.1)[es.length]? = some (inv.dueRetry input k).request := by
  rcases hrun : Function.remoteLoop lib inv k script with ⟨es', out, rest⟩
  have hlength : (es.map (·.action)).length = es.length := List.length_map _
  have hnext : ∀ more, (es.map (·.action) ++ (inv.dueRetry input k).request :: more)[es.length]? =
      some (inv.dueRetry input k).request := by
    intro more
    rw [List.getElem?_append_right (Nat.le_of_eq hlength), hlength, Nat.sub_self]
    rfl
  cases remoteLoop_step hinput hrun with
  | returned hawait' hspent =>
    cases hawait.symm.trans hawait'
    exact absurd (hspent msg rfl) (Nat.not_lt.mpr hk)
  | waits hawait' hk =>
    cases hawait.symm.trans hawait'
    exact hnext []
  | failed hawait' hk e hreply =>
    cases hawait.symm.trans hawait'
    dsimp only
    rw [sent_append]
    exact hnext _
  | retried hawait' hk response hreply hrest =>
    cases hawait.symm.trans hawait'
    dsimp only
    rw [sent_append]
    exact hnext _

/-- **When a failure is reported as what it is**, and an internal one retried while retries are
    left: exactly when fetching the data of the result allows it. -/
theorem awaitOutput_reports (lib : Ciborium V) (inv : Invocation) (timeout : Option Duration)
    (script : List InvocationAnswer) {es : List InvocationEvent}
    {out : Except Halt (InvocationResult V)} {rest : List InvocationAnswer}
    (h : inv.awaitOutput lib timeout script = (es, out, rest)) {k : Nat} {e : InvocationEvent}
    {item : Pb.FunctionGetOutputsItem} {result : Pb.GenericResult} {err : ModalError}
    (hk : es[k]? = some e) (hitem : outputOf e = some item) (hresult : item.result = some result)
    (hfailure : result.failure = some err) :
    (out = .error (.err err) ∧
      ∀ (called : ControlPlaneInvocation) (input : Pb.FunctionInput) (n : Nat),
        inv = .controlPlane called → timeout = none → called.input = some input →
        result.status = .internalFailure → n < maxSystemRetries →
        let run := Function.remoteLoop lib called n script
        (sent run.1 run.2.1)[es.length]? = some (called.dueRetry input n).request) ↔
      FetchAllows err result.dataOneof (script.drop (k + 1)) := by
  have hawait := h
  rw [Invocation.awaitOutput_eq] at hawait
  obtain ⟨-, hread⟩ := pollFunctionOutput_decides inv.getOutput_polls hawait hk hitem
  rw [hresult] at hread
  have hreports := processResult_reports hfailure hread
  constructor
  · intro hreported
    exact hreports.mp hreported.1
  · intro hallows
    have hout := hreports.mpr hallows
    refine ⟨hout, ?_⟩
    rintro called input n rfl rfl hinput hstatus hn
    have herr : err = .internalFailure result.exception := by
      rw [Pb.GenericResult.failure, hstatus] at hfailure
      exact (Option.some.inj hfailure).symm
    rw [hout, herr] at h
    exact remoteLoop_retries hinput (Nat.le_of_lt hn) h

/-- What a server replies whose function has failed and has left a blob. -/
def blobServer (blob : Except ModalError Pb.BlobGetResponse) : InvocationAnswer where
  took := 0
  reply
    | .functionMap .. => .ok ⟨"fc-1", "call-jwt", [⟨"input-jwt"⟩]⟩
    | .functionGetOutputs .. =>
        .ok ⟨[⟨some ⟨.internalFailure, "worker lost", some (.dataBlobId "bl-1")⟩, .cbor⟩]⟩
    | .blobGet _ => blob
    | .download _ => .ok [7]
    | _ => .error (.other "unexpected")

/-- The blob is gone. -/
def lostBlobServer : InvocationAnswer := blobServer (.error (.grpc ⟨.notFound, "no such blob"⟩))

/-- An internal failure whose blob is fetched is reported, and retried. -/
theorem awaitOutput_reports_blob :
    let called : ControlPlaneInvocation := ⟨"fc-1", some ⟨.cbor, none, none⟩, "call-jwt", "jwt"⟩
    let script := List.replicate 3 (blobServer (.ok ⟨"https://blob"⟩))
    (called.awaitOutput encodedCbor none script).2.1 =
        .error (.err (.internalFailure "worker lost")) ∧
      let run := Function.remoteLoop encodedCbor called 0 script
      (sent run.1 run.2.1)[3]? = some (called.dueRetry ⟨.cbor, none, none⟩ 0).request := by
  intro called script
  have hallows : FetchAllows (.internalFailure "worker lost") (some (.dataBlobId "bl-1"))
      (script.drop 1) := fun e he => by cases he
  obtain ⟨hout, hretry⟩ := (awaitOutput_reports encodedCbor (.controlPlane called) none script rfl
    (k := 0) rfl rfl rfl rfl).mpr hallows
  exact ⟨hout, hretry called _ 0 rfl rfl rfl rfl (Nat.zero_lt_succ _)⟩

/-- A lost blob hides an internal failure, which then is not retried. -/
theorem internalFailure_hidden :
    let f : Function := ⟨"fu-1", some ⟨[.cbor], "", ""⟩⟩
    let run := f.remote encodedCbor [] [0xA0] (List.replicate 5 lostBlobServer)
    run.2.1 = .error (.err (.grpc ⟨.notFound, "no such blob"⟩)) ∧
      run.2.1 ≠ .error (.err (.internalFailure "worker lost")) ∧
      retriesSent run.1 run.2.1 = [] := by
  intro f run
  let input : Pb.FunctionInput := ⟨.cbor, some (.args [0x82, 0x80, 0xA0]), none⟩
  let item : Pb.FunctionGetOutputsItem :=
    ⟨some ⟨.internalFailure, "worker lost", some (.dataBlobId "bl-1")⟩, .cbor⟩
  let awaited : List InvocationEvent :=
    [⟨.functionGetOutputs "fc-1" 1 outputsTimeout "0-0" true, .ok ⟨[item]⟩⟩,
      ⟨.blobGet "bl-1", .error (.grpc ⟨.notFound, "no such blob"⟩)⟩]
  let onward := Function.remoteLoop encodedCbor ⟨"fc-1", some input, "call-jwt", "input-jwt"⟩ 0
    (List.replicate 4 lostBlobServer)
  have hloop : onward =
      (awaited, .error (.err (.grpc ⟨.notFound, "no such blob"⟩)),
        List.replicate 2 lostBlobServer) := by
    change Function.remoteLoop _ _ _ _ = _
    rw [Function.remoteLoop]
    rfl
  have hrun : run = (⟨f.mapRequest input, .ok ⟨"fc-1", "call-jwt", [⟨"input-jwt"⟩]⟩⟩ :: awaited,
      .error (.err (.grpc ⟨.notFound, "no such blob"⟩)), List.replicate 2 lostBlobServer) := by
    change (_ :: onward.1, onward.2.1, onward.2.2) = _
    rw [hloop]
    rfl
  rw [hrun]
  refine ⟨rfl, fun h => ?_, rfl⟩
  cases h

end ModalRs
