/-
  File:      ModalRs/Image/Build.lean
  Subject:   Building an image layer by layer, against any server.

  The server is a script: each answer says what it would reply to either RPC.

  * `buildLayer`, `Image.build`: the build of a layer and of an image.
  * `LayerRun`: what went on over a layer, its request, the reply and the joins.
  * `buildLayers_runs`: the events of a build are runs of its layers, in order, each
    on top of the image the one before came to.
  * `build_reference_fold`: so a build is the reference fold over its layers.
-/
import ModalRs.Image.Basic
import ModalRs.Lib.Exchange
import ModalRs.Rust.Outcome

namespace ModalRs

open ModalRs.Lib ModalRs.Rust

/-! ## 1. The build -/

/-- What the server would reply to either RPC. -/
structure ImageAnswer where
  imageGetOrCreate : ImageLayerBuildRequest → Except ModalError ImageBuildResult
  imageJoinStreaming :
    (imageId lastEntryId : String) → Except ModalError ImageJoinStreamingResult

/-- An RPC that was answered. -/
inductive ImageEvent where
  | getOrCreate (request : ImageLayerBuildRequest) (reply : Except ModalError ImageBuildResult)
  | joinStreaming (imageId lastEntryId : String)
      (reply : Except ModalError ImageJoinStreamingResult)

/-- The event is the answer's. -/
def ImageEvent.AnsweredBy : ImageEvent → ImageAnswer → Prop
  | .getOrCreate request reply, a => reply = a.imageGetOrCreate request
  | .joinStreaming imageId lastEntryId reply, a => reply = a.imageJoinStreaming imageId lastEntryId

/-- The request of an ImageGetOrCreate. -/
def ImageEvent.request? : ImageEvent → Option ImageLayerBuildRequest
  | .getOrCreate request _ => some request
  | .joinStreaming _ _ _ => none

/-- The ImageGetOrCreate requests that were sent, in order. -/
def requestsOf (events : List ImageEvent) : List ImageLayerBuildRequest :=
  events.filterMap ImageEvent.request?

/-- A part of a build. -/
abbrev BuildM (α : Type) : Type := Exchange ImageAnswer ImageEvent (Stop ModalError) α

def imageGetOrCreate (request : ImageLayerBuildRequest) : BuildM ImageBuildResult :=
  .ask .diverged (fun a => .getOrCreate request (a.imageGetOrCreate request))
    fun a => liftExcept (a.imageGetOrCreate request)

/-- What a join leads to: a result, or another join when the stream ended without one. -/
def joinReply : Except ModalError ImageJoinStreamingResult →
    Res ModalError (String ⊕ ImageBuildResult)
  | .error e => .error (.err e)
  | .ok ⟨some result, _⟩ => .ok (.inr result)
  | .ok ⟨none, lastEntryId⟩ => .ok (.inl lastEntryId)

/-- Poll until complete. -/
def joinLoop (imageId lastEntryId : String) : BuildM ImageBuildResult :=
  .askWhile .diverged
    (fun last a => .joinStreaming imageId last (a.imageJoinStreaming imageId last))
    (fun last a => joinReply (a.imageJoinStreaming imageId last)) lastEntryId

/-- The GPU config of a layer, if specified. -/
def layerGpuConfig (layer : Layer) : Except ModalError (Option GpuConfig) :=
  if layer.gpu = "" then .ok none else (parseGpuConfig layer.gpu).map some

/-- The request for layer `i`, on top of the current image. -/
def buildRequest (image : Image) (params : ImageBuildParams) (builderVersion : String) (i : Nat)
    (currentLayer : Layer) (gpuConfig : Option GpuConfig) (currentImageId : String) :
    ImageLayerBuildRequest :=
  { appId := params.appId
    -- first layer: FROM <tag>; subsequent layers: FROM base, with base image linking
    dockerfileCommands :=
      (if i = 0 then "FROM " ++ image.tag else "FROM base") :: currentLayer.commands
    imageRegistryConfig := if i = 0 then image.imageRegistryConfig else none
    secretIds := currentLayer.secrets.map (·.secretId)
    gpuConfig := gpuConfig
    baseImages := if i = 0 then [] else [⟨"base", currentImageId⟩]
    builderVersion := builderVersion
    -- inherit from previous layers if any layer requested it
    forceBuild := currentLayer.forceBuild ||
      (decide (0 < i) && (image.layers.take i).any (·.forceBuild)) }

/-- The body of the loop of `build`: the image id that layer `i` comes to. -/
def buildLayer (image : Image) (params : ImageBuildParams) (builderVersion : String) (i : Nat)
    (currentLayer : Layer) (currentImageId : String) : BuildM String := do
  let gpuConfig ← Exchange.lift (liftExcept (layerGpuConfig currentLayer))
  let buildResult ← imageGetOrCreate
    (buildRequest image params builderVersion i currentLayer gpuConfig currentImageId)
  let finalResult ←
    if buildResult.status = .pending then joinLoop buildResult.imageId "" else pure buildResult
  Exchange.lift (liftExcept finalResult.intoResult)

/-- The loop of `build`, from layer `i` on. -/
def buildLayers (image : Image) (params : ImageBuildParams) (builderVersion : String) :
    Nat → List Layer → String → BuildM String
  | _, [], currentImageId => pure currentImageId
  | i, layer :: layers, currentImageId => do
      let imageId ← buildLayer image params builderVersion i layer currentImageId
      buildLayers image params builderVersion (i + 1) layers imageId

/-- Validate all layers before building. -/
def validateLayers : List Layer → Except ModalError Unit
  | [] => .ok ()
  | layer :: layers => do
      validateDockerfileCommands layer.commands
      validateLayers layers

def ImageBuildParams.version (params : ImageBuildParams) : String :=
  if params.builderVersion = "" then "2024.10" else params.builderVersion

/-- Build an image layer-by-layer. -/
def Image.build (image : Image) (params : ImageBuildParams) : BuildM Image :=
  -- image is already hydrated
  if image.imageId ≠ "" then pure image
  else do
    Exchange.lift (liftExcept (validateLayers image.layers))
    let currentImageId ← buildLayers image params params.version 0 image.layers ""
    pure {
      imageId := currentImageId
      imageRegistryConfig := image.imageRegistryConfig
      tag := image.tag
      layers := image.layers }

/-! ## 2. The run of a layer -/

/-- A join: the entry id it passed, and the reply. -/
structure JoinRun where
  lastEntryId : String
  reply : Except ModalError ImageJoinStreamingResult

/-- The result or the error of a join, if it did not end without either. -/
def JoinRun.outcome (j : JoinRun) : Option (Except ModalError ImageBuildResult) :=
  match j.reply with
  | .error e => some (.error e)
  | .ok r => r.result.map .ok

/-- What went on over a layer. -/
structure LayerRun where
  request : ImageLayerBuildRequest
  reply : Except ModalError ImageBuildResult
  joins : List JoinRun

/-- The joins of an image, each with the entry id that the one before returned. -/
def JoinChain : (lastEntryId : String) → List JoinRun → Prop
  | _, [] => True
  | lastEntryId, j :: js => j.lastEntryId = lastEntryId ∧
      (js = [] ∨ ∃ r, j.reply = .ok r ∧ r.result = none ∧ JoinChain r.lastEntryId js)

def joinEvents (imageId : String) (js : List JoinRun) : List ImageEvent :=
  js.map fun j => .joinStreaming imageId j.lastEntryId j.reply

namespace LayerRun

/-- The image that is joined. -/
def pendingId (run : LayerRun) : String :=
  match run.reply with
  | .ok r => r.imageId
  | .error _ => ""

def events (run : LayerRun) : List ImageEvent :=
  .getOrCreate run.request run.reply :: joinEvents run.pendingId run.joins

/-- A pending build is joined, from an empty entry id on; no other one is. -/
def Joined (run : LayerRun) : Prop :=
  JoinChain "" run.joins ∧
    (run.joins ≠ [] → ∃ r, run.reply = .ok r ∧ r.status = .pending)

/-- What the layer came to, if it did: the reply, or the last join, decides. -/
def outcome (run : LayerRun) : Option (Except ModalError String) :=
  match run.reply with
  | .error e => some (.error e)
  | .ok r =>
      if r.status = .pending then
        (run.joins.getLast?.bind JoinRun.outcome).map fun final => final >>= (·.intoResult)
      else some r.intoResult

/-- The image that the layer came to. -/
def builtId (run : LayerRun) : Option String :=
  match run.outcome with
  | some (.ok imageId) => some imageId
  | _ => none

theorem joined_of_nil {run : LayerRun} (h : run.joins = []) : run.Joined := by
  rw [Joined, h]
  exact ⟨trivial, fun hne => absurd rfl hne⟩

end LayerRun

theorem requestsOf_joinEvents (imageId : String) (js : List JoinRun) :
    requestsOf (joinEvents imageId js) = [] := by
  rw [requestsOf, joinEvents, List.filterMap_map]
  exact List.filterMap_eq_nil_iff.mpr fun _ _ => rfl

/-- **A layer sends one request.** -/
theorem requestsOf_run (run : LayerRun) : requestsOf run.events = [run.request] := by
  have hjoins := requestsOf_joinEvents run.pendingId run.joins
  rw [requestsOf] at hjoins
  rw [requestsOf, LayerRun.events, List.filterMap_cons, hjoins]
  rfl

theorem requestsOf_runs (runs : List LayerRun) :
    requestsOf (runs.flatMap LayerRun.events) = runs.map LayerRun.request := by
  induction runs with
  | nil => rfl
  | cons run runs ih =>
    have hrun := requestsOf_run run
    rw [requestsOf] at hrun ih
    rw [requestsOf, List.flatMap_cons, List.filterMap_append, hrun, ih, List.map_cons]
    rfl

/-- An outcome as the result of a computation; without one it is still going on. -/
def ofOutcome {α : Type} : Option (Except ModalError α) → Res ModalError α
  | none => .error .diverged
  | some out => liftExcept out

theorem joinLoop_run {imageId lastEntryId : String} {is rest : List ImageAnswer}
    {es : List ImageEvent} {out : Res ModalError ImageBuildResult}
    (h : joinLoop imageId lastEntryId is = (es, out, rest)) :
    ∃ js, es = joinEvents imageId js ∧ JoinChain lastEntryId js ∧
      out = ofOutcome (js.getLast?.bind JoinRun.outcome) := by
  induction is generalizing lastEntryId es out rest with
  | nil =>
    cases h
    exact ⟨[], rfl, trivial, rfl⟩
  | cons a is ih =>
    rcases hreply : a.imageJoinStreaming imageId lastEntryId with e | ⟨result?, last⟩
    · rw [joinLoop, Exchange.askWhile_error (e := .err e) (by rw [hreply]; rfl), hreply] at h
      cases h
      exact ⟨[⟨lastEntryId, .error e⟩], rfl, ⟨rfl, Or.inl rfl⟩, rfl⟩
    · cases result? with
      | some result =>
        rw [joinLoop, Exchange.askWhile_value (a := result) (by rw [hreply]; rfl), hreply] at h
        cases h
        exact ⟨[⟨lastEntryId, .ok ⟨some result, last⟩⟩], rfl, ⟨rfl, Or.inl rfl⟩, rfl⟩
      | none =>
        rcases hloop : joinLoop imageId last is with ⟨es', out', rest'⟩
        rw [joinLoop, Exchange.askWhile_goes (by rw [hreply]; rfl) hloop, hreply] at h
        cases h
        obtain ⟨js, rfl, hchain, rfl⟩ := ih hloop
        refine ⟨⟨lastEntryId, .ok ⟨none, last⟩⟩ :: js, rfl,
          ⟨rfl, Or.inr ⟨⟨none, last⟩, rfl, rfl, hchain⟩⟩, ?_⟩
        cases js with
        | nil => rfl
        | cons j js => rw [List.getLast?_cons_cons]

theorem imageGetOrCreate_cons {request : ImageLayerBuildRequest} {a : ImageAnswer}
    {reply : Except ModalError ImageBuildResult} (h : a.imageGetOrCreate request = reply)
    (is : List ImageAnswer) : imageGetOrCreate request (a :: is) =
      ([ImageEvent.getOrCreate request reply], Rust.liftExcept reply, is) := by
  rw [imageGetOrCreate, Exchange.ask_cons, h]

/-- A last step that asks nothing acts on the outcome. -/
theorem bind_lift_outcome {α β : Type} {m : BuildM α} {f : α → Except ModalError β}
    {is rest : List ImageAnswer} {es : List ImageEvent} {outcome : Option (Except ModalError α)}
    (h : m is = (es, ofOutcome outcome, rest)) :
    (m >>= fun a => Exchange.lift (liftExcept (f a))) is =
      (es, ofOutcome (outcome.map fun out => out >>= f), rest) := by
  rw [Exchange.bind_apply, h]
  rcases outcome with _ | e | a
  · rfl
  · rfl
  · show (es ++ [], liftExcept (f a), rest) = (es, liftExcept (f a), rest)
    rw [List.append_nil]

/-- **The run of a layer** whose GPU string is valid: nothing was answered, or the request that it
    asks for was, and then its joins. -/
theorem buildLayer_run {image : Image} {params : ImageBuildParams} {builderVersion : String}
    {i : Nat} {layer : Layer} {current : String} {gpuConfig : Option GpuConfig}
    (hgpu : layerGpuConfig layer = .ok gpuConfig) {is rest : List ImageAnswer}
    {es : List ImageEvent} {out : Res ModalError String}
    (h : buildLayer image params builderVersion i layer current is = (es, out, rest)) :
    (es = [] ∧ out = .error .diverged) ∨
    ∃ run : LayerRun, es = run.events ∧ run.Joined ∧ out = ofOutcome run.outcome ∧
      run.request = buildRequest image params builderVersion i layer gpuConfig current := by
  rw [buildLayer, hgpu, Exchange.bind_of_silent (a := gpuConfig) rfl] at h
  cases is with
  | nil =>
    cases h
    exact Or.inl ⟨rfl, rfl⟩
  | cons a is =>
    right
    generalize hreq : buildRequest image params builderVersion i layer gpuConfig current = request
      at h ⊢
    rcases hreply : a.imageGetOrCreate request with err | r
    · rw [Exchange.bind_of_error (imageGetOrCreate_cons hreply is)] at h
      cases h
      exact ⟨⟨request, .error err, []⟩, rfl, LayerRun.joined_of_nil rfl, rfl, rfl⟩
    · by_cases hpending : r.status = .pending
      · -- the build is in progress: its joins decide
        rcases hloop : joinLoop r.imageId "" is with ⟨es', out', rest'⟩
        obtain ⟨js, rfl, hchain, rfl⟩ := joinLoop_run hloop
        rw [Exchange.bind_apply, imageGetOrCreate_cons hreply is] at h
        simp only [liftExcept_value, if_pos hpending, bind_lift_outcome hloop] at h
        cases h
        refine ⟨⟨request, .ok r, js⟩, rfl, ⟨hchain, fun _ => ⟨r, rfl, hpending⟩⟩, ?_, rfl⟩
        simp only [LayerRun.outcome, if_pos hpending]
      · -- the reply decides
        rw [Exchange.bind_apply, imageGetOrCreate_cons hreply is] at h
        simp only [liftExcept_value, if_neg hpending,
          Exchange.bind_of_silent (Exchange.pure_apply r is)] at h
        cases h
        refine ⟨⟨request, .ok r, []⟩, rfl, LayerRun.joined_of_nil rfl, ?_, rfl⟩
        simp only [LayerRun.outcome, if_neg hpending]
        rfl

/-! ## 3. The reference fold -/

/-- What the requests for a layer have in common: its secrets in order, its GPU, and whether a
    layer up to it forces the build. -/
def layerRequest (image : Image) (params : ImageBuildParams) (i : Nat) (layer : Layer)
    (dockerfileCommands : List String) (imageRegistryConfig : Option ImageRegistryConfig)
    (baseImages : List BaseImage) : ImageLayerBuildRequest :=
  { appId := params.appId
    dockerfileCommands := dockerfileCommands
    imageRegistryConfig := imageRegistryConfig
    secretIds := layer.secrets.map (·.secretId)
    gpuConfig := (layerGpuConfig layer).toOption.join
    baseImages := baseImages
    builderVersion := params.version
    forceBuild := (image.layers.take (i + 1)).any (·.forceBuild) }

/-- The request for layer `i`: from the tag if there is no base, else from the base. -/
def referenceRequest (image : Image) (params : ImageBuildParams) (i : Nat) (layer : Layer) :
    (base : Option String) → ImageLayerBuildRequest
  | none => layerRequest image params i layer (("FROM " ++ image.tag) :: layer.commands)
      image.imageRegistryConfig []
  | some base => layerRequest image params i layer ("FROM base" :: layer.commands) none
      [⟨"base", base⟩]

/-- The reference fold, from layer `i` and a base on: the runs of the layers, and what they come
    to. It stops at the first layer that does not come to an image. -/
inductive RunsFrom (image : Image) (params : ImageBuildParams) :
    Nat → Option String → List Layer → List LayerRun → Res ModalError String → Prop where
  | done (i : Nat) (base : Option String) :
      RunsFrom image params i base [] [] (.ok (base.getD ""))
  | silent (i : Nat) (base : Option String) (layer : Layer) (layers : List Layer) :
      RunsFrom image params i base (layer :: layers) [] (.error .diverged)
  | stops (i : Nat) (base : Option String) (layer : Layer) (layers : List Layer) (run : LayerRun)
      (e : Stop ModalError) (hjoined : run.Joined)
      (hrequest : run.request = referenceRequest image params i layer base)
      (hout : ofOutcome run.outcome = .error e) :
      RunsFrom image params i base (layer :: layers) [run] (.error e)
  | goes (i : Nat) (base : Option String) (layer : Layer) (layers : List Layer) (run : LayerRun)
      (imageId : String) (runs : List LayerRun) (out : Res ModalError String)
      (hjoined : run.Joined)
      (hrequest : run.request = referenceRequest image params i layer base)
      (hout : run.outcome = some (.ok imageId))
      (hrest : RunsFrom image params (i + 1) (some imageId) layers runs out) :
      RunsFrom image params i base (layer :: layers) (run :: runs) out

section Fold

variable {image : Image} {params : ImageBuildParams} {i : Nat} {base : Option String}
  {layer : Layer} {layers : List Layer}

/-- The request of the code is that of the reference: its flag runs over all layers up to `i`. -/
theorem buildRequest_eq {gpuConfig : Option GpuConfig} (hdrop : image.layers.drop i = layer :: layers)
    (hbase : base = none ↔ i = 0) (hgpu : layerGpuConfig layer = .ok gpuConfig) :
    buildRequest image params params.version i layer gpuConfig (base.getD "") =
      referenceRequest image params i layer base := by
  have hforce : (layer.forceBuild ||
      (decide (0 < i) && (image.layers.take i).any (·.forceBuild))) =
        (image.layers.take (i + 1)).any (·.forceBuild) := by
    have hlayer : image.layers[i]? = some layer := by
      rw [← List.head?_drop, hdrop, List.head?_cons]
    rw [List.take_add_one, hlayer, List.any_append, Option.toList_some, List.any_cons,
      List.any_nil, Bool.or_false, Bool.or_comm]
    rcases Nat.eq_zero_or_pos i with rfl | hpos
    · rfl
    · rw [decide_eq_true hpos, Bool.true_and]
  have hjoin : (layerGpuConfig layer).toOption.join = gpuConfig := by
    rw [hgpu]
    rfl
  cases base with
  | none =>
    have hzero : i = 0 := hbase.mp rfl
    subst hzero
    simp only [buildRequest, referenceRequest, layerRequest, hforce, hjoin]
    rfl
  | some base =>
    have hne : i ≠ 0 := fun h => by cases hbase.mpr h
    simp only [buildRequest, referenceRequest, layerRequest, hforce, hjoin, if_neg hne,
      Option.getD_some]

theorem layerGpuConfig_of_valid (h : layer.Valid) :
    ∃ gpuConfig, layerGpuConfig layer = .ok gpuConfig := by
  obtain ⟨-, config, hconfig⟩ := h
  by_cases hempty : layer.gpu = ""
  · exact ⟨none, if_pos hempty⟩
  · exact ⟨some config, by rw [layerGpuConfig, if_neg hempty, hconfig]; rfl⟩

/-- **The loop of `build` is the reference fold**: its events are the runs of the layers. -/
theorem buildLayers_runs (hvalid : ∀ l ∈ layers, l.Valid) (hdrop : image.layers.drop i = layers)
    (hbase : base = none ↔ i = 0) {is rest : List ImageAnswer} {es : List ImageEvent}
    {out : Res ModalError String}
    (h : buildLayers image params params.version i layers (base.getD "") is = (es, out, rest)) :
    ∃ runs, es = runs.flatMap LayerRun.events ∧ RunsFrom image params i base layers runs out := by
  induction layers generalizing i base is es with
  | nil =>
    cases h
    exact ⟨[], rfl, .done i base⟩
  | cons layer layers ih =>
    obtain ⟨gpuConfig, hgpu⟩ := layerGpuConfig_of_valid (hvalid layer List.mem_cons_self)
    rw [buildLayers] at h
    rcases Exchange.bind_cases h with ⟨e, hlayer, rfl⟩ | ⟨es₁, imageId, is₁, es₂, hlayer, hrest, rfl⟩
    · rcases buildLayer_run hgpu hlayer with ⟨rfl, hout⟩ | ⟨run, rfl, hjoined, hout, hreq⟩
      · cases hout
        exact ⟨[], rfl, .silent i base layer layers⟩
      · rw [buildRequest_eq hdrop hbase hgpu] at hreq
        refine ⟨[run], ?_, .stops i base layer layers run e hjoined hreq hout.symm⟩
        rw [List.flatMap_cons, List.flatMap_nil, List.append_nil]
    · rcases buildLayer_run hgpu hlayer with ⟨-, hout⟩ | ⟨run, rfl, hjoined, hout, hreq⟩
      · cases hout
      · rw [buildRequest_eq hdrop hbase hgpu] at hreq
        have hok : run.outcome = some (.ok imageId) := by
          rcases hrun : run.outcome with _ | e | id
          · rw [hrun] at hout
            cases hout
          · rw [hrun] at hout
            cases hout
          · rw [hrun] at hout
            cases hout
            rfl
        have hdrop' : image.layers.drop (i + 1) = layers := by
          rw [← List.drop_drop, hdrop]
          rfl
        have hbase' : some imageId = none ↔ i + 1 = 0 :=
          ⟨fun h => (nomatch h), fun h => (nomatch h)⟩
        obtain ⟨runs, rfl, hruns⟩ :=
          ih (fun l hl => hvalid l (List.mem_cons_of_mem _ hl)) hdrop' hbase' hrest
        exact ⟨run :: runs, rfl, .goes i base layer layers run imageId runs _ hjoined hreq hok hruns⟩

/-- The base of run `i` of a fold that starts from `base`: the image that the run before came to. -/
def baseOf (base : Option String) (runs : List LayerRun) : Nat → Option String
  | 0 => base
  | i + 1 => runs[i]?.bind LayerRun.builtId

/-- **Each request names its layer and its base**, and its layer's joins are in order. -/
theorem runs_requests {runs : List LayerRun} {out : Res ModalError String}
    (h : RunsFrom image params i base layers runs out) :
    ∀ j run, runs[j]? = some run → run.Joined ∧ ∃ layer, layers[j]? = some layer ∧
      run.request = referenceRequest image params (i + j) layer (baseOf base runs j) := by
  induction h with
  | done i base => exact fun j run hrun => nomatch hrun
  | silent i base layer layers => exact fun j run hrun => nomatch hrun
  | stops i base layer layers run e hjoined hrequest hout =>
    intro j run' hrun
    cases j with
    | zero =>
      cases hrun
      exact ⟨hjoined, layer, rfl, hrequest⟩
    | succ j => cases hrun
  | goes i base layer layers run imageId runs out hjoined hrequest hout hrest ih =>
    intro j run' hrun
    cases j with
    | zero =>
      cases hrun
      exact ⟨hjoined, layer, rfl, hrequest⟩
    | succ j =>
      obtain ⟨hjoined', layer', hlayer', hrequest'⟩ := ih j run' hrun
      refine ⟨hjoined', layer', hlayer', ?_⟩
      rw [hrequest', Nat.add_right_comm, Nat.add_assoc]
      cases j with
      | zero =>
        show referenceRequest image params _ layer' (some imageId) =
          referenceRequest image params _ layer' run.builtId
        rw [LayerRun.builtId, hout]
      | succ j => rfl

/-- **Only the last layer's run can fail**: every run before came to an image. -/
theorem runs_linked {runs : List LayerRun} {out : Res ModalError String}
    (h : RunsFrom image params i base layers runs out) :
    ∀ j, j + 1 < runs.length → ∃ imageId, baseOf base runs (j + 1) = some imageId := by
  induction h with
  | done i base => exact fun j hj => absurd hj (Nat.not_lt_zero _)
  | silent i base layer layers => exact fun j hj => absurd hj (Nat.not_lt_zero _)
  | stops i base layer layers run e hjoined hrequest hout =>
    intro j hj
    have hj' : j + 1 < 1 := hj
    omega
  | goes i base layer layers run imageId runs out hjoined hrequest hout hrest ih =>
    intro j hj
    cases j with
    | zero =>
      refine ⟨imageId, ?_⟩
      show run.builtId = some imageId
      rw [LayerRun.builtId, hout]
    | succ j => exact ih j (Nat.lt_of_succ_lt_succ hj)

/-- What runs over some layers come to: the last run decides. -/
def runsOutcome (layers : List Layer) (runs : List LayerRun) : Res ModalError String :=
  match runs.getLast? with
  | none => .error .diverged
  | some last =>
      match last.outcome with
      | none => .error .diverged
      | some (.error e) => .error (.err e)
      | some (.ok imageId) =>
          if runs.length = layers.length then .ok imageId else .error .diverged

theorem runs_outcome {runs : List LayerRun} {out : Res ModalError String}
    (h : RunsFrom image params i base layers runs out) (hlayers : layers ≠ []) :
    out = runsOutcome layers runs := by
  induction h with
  | done i base => exact absurd rfl hlayers
  | silent i base layer layers => rfl
  | stops i base layer layers run e hjoined hrequest hout =>
    show _ = match run.outcome with | none => _ | some (.error e) => _ | some (.ok imageId) => _
    rcases hrun : run.outcome with _ | err | imageId
    · rw [hrun] at hout
      exact hout.symm
    · rw [hrun] at hout
      exact hout.symm
    · rw [hrun] at hout
      cases hout
  | goes i base layer layers run imageId runs out hjoined hrequest hout hrest ih =>
    cases hrest with
    | done =>
      simp only [runsOutcome, List.getLast?_singleton, hout]
      rfl
    | silent i base layer' layers =>
      simp only [runsOutcome, List.getLast?_singleton, hout]
      rfl
    | stops i base layer' layers run' e hjoined' hrequest' hout' =>
      rw [ih (List.cons_ne_nil _ _)]
      simp only [runsOutcome, List.getLast?_cons_cons, List.length_cons, Nat.add_right_cancel_iff]
    | goes i base layer' layers run' imageId' runs out hjoined' hrequest' hout' hrest' =>
      rw [ih (List.cons_ne_nil _ _)]
      simp only [runsOutcome, List.getLast?_cons_cons, List.length_cons, Nat.add_right_cancel_iff]

end Fold

/-! ## 4. The build of an image -/

theorem joinReply_ne_diverged (reply : Except ModalError ImageJoinStreamingResult)
    {e : Stop ModalError} (he : e = .diverged) : joinReply reply ≠ .error e := by
  subst he
  rcases reply with e | ⟨_ | result, last⟩
  · exact fun h => nomatch h
  · exact fun h => nomatch h
  · exact fun h => nomatch h

theorem imageGetOrCreate_honest (request : ImageLayerBuildRequest) :
    Exchange.Honest (· = .diverged) ImageEvent.AnsweredBy (imageGetOrCreate request) :=
  .ask (fun _ => rfl) fun _ _ => liftExcept_ne_diverged _

theorem joinLoop_honest (imageId lastEntryId : String) :
    Exchange.Honest (· = .diverged) ImageEvent.AnsweredBy (joinLoop imageId lastEntryId) := by
  unfold joinLoop
  refine .askWhile ?_ (fun last a _ => joinReply_ne_diverged _) lastEntryId
  exact fun last a => rfl

/-- The events of a layer are those of the answers it took. -/
theorem buildLayer_honest (image : Image) (params : ImageBuildParams) (builderVersion : String)
    (i : Nat) (layer : Layer) (current : String) :
    Exchange.Honest (· = .diverged) ImageEvent.AnsweredBy
      (buildLayer image params builderVersion i layer current) := by
  unfold buildLayer
  refine .bind (.lift fun _ => liftExcept_ne_diverged _) fun gpuConfig => ?_
  refine .bind (imageGetOrCreate_honest _) fun r => ?_
  refine .ite ?_ ?_
  · exact .bind (joinLoop_honest _ _) fun final => .lift fun _ => liftExcept_ne_diverged _
  · exact .bind (.pure r) fun final => .lift fun _ => liftExcept_ne_diverged _

theorem buildLayers_honest (image : Image) (params : ImageBuildParams) (builderVersion : String)
    (i : Nat) (layers : List Layer) (current : String) :
    Exchange.Honest (· = .diverged) ImageEvent.AnsweredBy
      (buildLayers image params builderVersion i layers current) := by
  induction layers generalizing i current with
  | nil => exact .pure current
  | cons layer layers ih =>
    exact .bind (buildLayer_honest _ _ _ _ _ _) fun imageId => ih _ imageId

/-- **The events of a build are those of the answers it took**, in order. -/
theorem build_honest (image : Image) (params : ImageBuildParams) :
    Exchange.Honest (· = .diverged) ImageEvent.AnsweredBy (image.build params) := by
  unfold Image.build
  refine .ite (.pure image) ?_
  refine .bind (.lift fun _ => liftExcept_ne_diverged _) fun _ => ?_
  exact .bind (buildLayers_honest _ _ _ _ _ _) fun imageId => .pure _

theorem validateLayers_ok : ∀ {layers : List Layer},
    (∀ l ∈ layers, validateDockerfileCommands l.commands = .ok ()) → validateLayers layers = .ok ()
  | [], _ => rfl
  | layer :: layers, h => by
      obtain ⟨hfirst, hrest⟩ := List.forall_mem_cons.mp h
      rw [validateLayers, hfirst]
      exact validateLayers_ok hrest

theorem validateLayers_commands : ∀ {layers : List Layer}, validateLayers layers = .ok () →
    ∀ l ∈ layers, validateDockerfileCommands l.commands = .ok ()
  | [], _ => fun l hl => absurd hl List.not_mem_nil
  | layer :: layers, h => by
      obtain ⟨_, hfirst, hrest⟩ := except_bind_ok h
      intro l hl
      rcases List.mem_cons.mp hl with rfl | hl
      · exact hfirst
      · exact validateLayers_commands hrest l hl

theorem layerGpuConfig_parses {layer : Layer} {config? : Option GpuConfig}
    (h : layerGpuConfig layer = .ok config?) : ∃ config, parseGpuConfig layer.gpu = .ok config := by
  unfold layerGpuConfig at h
  by_cases hempty : layer.gpu = ""
  · rw [hempty]
    exact ⟨⟨"", 0⟩, rfl⟩
  · rw [if_neg hempty] at h
    obtain ⟨config, hparse, -⟩ := except_map_ok h
    exact ⟨config, hparse⟩

/-- A layer comes to an image only if its GPU string parses: it does so before its request. -/
theorem buildLayer_parses {image : Image} {params : ImageBuildParams} {builderVersion : String}
    {i : Nat} {layer : Layer} {current imageId : String} {is rest : List ImageAnswer}
    {es : List ImageEvent}
    (h : buildLayer image params builderVersion i layer current is = (es, .ok imageId, rest)) :
    ∃ config, parseGpuConfig layer.gpu = .ok config := by
  rw [buildLayer] at h
  rcases Exchange.bind_cases h with ⟨e, -, hout⟩ | ⟨_, config?, _, _, hconfig, -, -⟩
  · cases hout
  · have hgpu : layerGpuConfig layer = .ok config? := liftExcept_ok (Exchange.lift_cases hconfig).2.1.symm
    exact layerGpuConfig_parses hgpu

theorem buildLayers_parses {image : Image} {params : ImageBuildParams} {builderVersion : String}
    {i : Nat} {layers : List Layer} {current imageId : String} {is rest : List ImageAnswer}
    {es : List ImageEvent}
    (h : buildLayers image params builderVersion i layers current is = (es, .ok imageId, rest)) :
    ∀ l ∈ layers, ∃ config, parseGpuConfig l.gpu = .ok config := by
  induction layers generalizing i current is es with
  | nil => exact fun l hl => absurd hl List.not_mem_nil
  | cons layer layers ih =>
    rw [buildLayers] at h
    rcases Exchange.bind_cases h with ⟨e, -, hout⟩ | ⟨_, _, _, _, hlayer, hlayers, -⟩
    · cases hout
    · intro l hl
      rcases List.mem_cons.mp hl with rfl | hl
      · exact buildLayer_parses hlayer
      · exact ih hlayers l hl

/-- An image is built only if its layers are valid: their commands are checked before the first
    request, a GPU string before the request of its layer. -/
theorem valid_of_built {image built : Image} {params : ImageBuildParams}
    {script rest : List ImageAnswer} {events : List ImageEvent} (hid : image.imageId = "")
    (h : image.build params script = (events, .ok built, rest)) : ∀ l ∈ image.layers, l.Valid := by
  rw [Image.build, if_neg (not_not.mpr hid)] at h
  rcases Exchange.bind_cases h with ⟨e, -, hout⟩ | ⟨_, _, _, _, hlift, h, -⟩
  · cases hout
  have hcommands : validateLayers image.layers = .ok () :=
    liftExcept_ok (Exchange.lift_cases hlift).2.1.symm
  rcases Exchange.bind_cases h with ⟨e, -, hout⟩ | ⟨_, imageId, _, _, hlayers, -, -⟩
  · cases hout
  exact fun l hl => ⟨validateLayers_commands hcommands l hl, buildLayers_parses hlayers l hl⟩

/-- The build of an image without an id whose commands are valid is the loop. -/
theorem build_loop {image : Image} {params : ImageBuildParams} (hid : image.imageId = "")
    (hcommands : ∀ l ∈ image.layers, validateDockerfileCommands l.commands = .ok ())
    {script rest : List ImageAnswer} {events : List ImageEvent} {result : Res ModalError Image}
    (h : image.build params script = (events, result, rest)) :
    ∃ out, buildLayers image params params.version 0 image.layers "" script =
        (events, out, rest) ∧
      result = out.map fun imageId => { image with imageId := imageId } := by
  have hlift : (Exchange.lift (Rust.liftExcept (validateLayers image.layers)) : BuildM Unit)
      script = ([], .ok (), script) := by
    rw [validateLayers_ok hcommands]
    rfl
  rw [Image.build, if_neg (not_not.mpr hid), Exchange.bind_of_silent hlift] at h
  rcases Exchange.bind_cases h with ⟨e, hlayers, rfl⟩ | ⟨es₁, imageId, is₁, es₂, hlayers, hend, rfl⟩
  · exact ⟨.error e, hlayers, rfl⟩
  · cases hend
    rw [List.append_nil]
    exact ⟨.ok imageId, hlayers, rfl⟩

/-- The build of an image without an id whose layers are valid, as runs of its layers. -/
theorem build_runs {image : Image} {params : ImageBuildParams} (hid : image.imageId = "")
    (hvalid : ∀ l ∈ image.layers, l.Valid) {script rest : List ImageAnswer}
    {events : List ImageEvent} {result : Res ModalError Image}
    (h : image.build params script = (events, result, rest)) :
    ∃ runs out, events = runs.flatMap LayerRun.events ∧
      RunsFrom image params 0 none image.layers runs out ∧
      result = out.map fun imageId => { image with imageId := imageId } := by
  obtain ⟨out, hlayers, rfl⟩ := build_loop hid (fun l hl => (hvalid l hl).1) h
  have hbase : (none : Option String) = none ↔ 0 = 0 := ⟨fun _ => rfl, fun _ => rfl⟩
  obtain ⟨runs, rfl, hruns⟩ := buildLayers_runs hvalid rfl hbase hlayers
  exact ⟨runs, out, rfl, hruns, rfl⟩

/-- What the reference fold over the layers of an image promises of its runs. -/
structure ReferenceFold (image : Image) (params : ImageBuildParams) (runs : List LayerRun) : Prop
    where
  /-- Run `i` is that of layer `i`, on top of the image that the run before came to. -/
  requests : ∀ i run, runs[i]? = some run → ∃ layer, image.layers[i]? = some layer ∧
    run.request = referenceRequest image params i layer (baseOf none runs i)
  /-- A run that is not the last came to an image. -/
  linked : ∀ i, i + 1 < runs.length → ∃ imageId, baseOf none runs (i + 1) = some imageId
  /-- The joins of a layer pass the entry id of the one before, the empty one at first. -/
  joined : ∀ run ∈ runs, run.Joined

/-- **A build is the reference fold over its layers**: for every script of the server, the events
    are the runs of the layers, answered by the script in order, and the last run decides the
    result: its error, or the image with the id of the last layer. -/
theorem build_reference_fold {image : Image} {params : ImageBuildParams} (hid : image.imageId = "")
    (hlayers : image.layers ≠ []) (hvalid : ∀ l ∈ image.layers, l.Valid)
    {script rest : List ImageAnswer} {events : List ImageEvent} {result : Res ModalError Image}
    (h : image.build params script = (events, result, rest)) :
    (∃ taken, script = taken ++ rest ∧ List.Forall₂ ImageEvent.AnsweredBy events taken ∧
      (result = .error .diverged → rest = [])) ∧
    ∃ runs, events = runs.flatMap LayerRun.events ∧ ReferenceFold image params runs ∧
      result = (runsOutcome image.layers runs).map fun imageId => { image with imageId := imageId } := by
  obtain ⟨taken, hscript, hanswered, hcut⟩ := build_honest image params _ _ _ _ h
  refine ⟨⟨taken, hscript, hanswered, hcut _ rfl⟩, ?_⟩
  obtain ⟨runs, out, rfl, hruns, rfl⟩ := build_runs hid hvalid h
  have hrequests := runs_requests hruns
  refine ⟨runs, rfl, ⟨fun i run hrun => ?_, runs_linked hruns, fun run hrun => ?_⟩, ?_⟩
  · obtain ⟨-, layer, hlayer, hrequest⟩ := hrequests i run hrun
    rw [Nat.zero_add] at hrequest
    exact ⟨layer, hlayer, hrequest⟩
  · obtain ⟨i, hi⟩ := List.getElem?_of_mem hrun
    exact (hrequests i run hi).1
  · rw [runs_outcome hruns hlayers]

/-- An image of two layers, the second one forced. -/
def twoLayers : Image :=
  (Image.fromRegistry "alpine:3.21" none).dockerfileCommands ["RUN a"] (some { forceBuild := true })

theorem twoLayers_valid : ∀ l ∈ twoLayers.layers, l.Valid := by
  intro l hl
  rcases List.mem_cons.mp hl with rfl | hl
  · exact ⟨rfl, ⟨"", 0⟩, rfl⟩
  · cases List.mem_singleton.mp hl
    exact ⟨by decide, ⟨"", 0⟩, rfl⟩

/-- The first layer is there at once, the second one after two joins. -/
def twoLayersScript : List ImageAnswer :=
  [⟨fun _ => .ok ⟨"im-0", .success, none⟩, fun _ _ => .ok ⟨none, ""⟩⟩,
   ⟨fun _ => .ok ⟨"im-1", .pending, none⟩, fun _ _ => .ok ⟨none, ""⟩⟩,
   ⟨fun _ => .error (.other ""), fun _ _ => .ok ⟨none, "e1"⟩⟩,
   ⟨fun _ => .error (.other ""), fun _ _ => .ok ⟨some ⟨"im-1", .success, none⟩, "e2"⟩⟩]

theorem build_reference_fold_two : ∃ events runs,
    events = runs.flatMap LayerRun.events ∧ ReferenceFold twoLayers {} runs ∧
      (.ok { twoLayers with imageId := "im-1" } : Res ModalError Image) =
        (runsOutcome twoLayers.layers runs).map fun id => { twoLayers with imageId := id } := by
  have h := build_reference_fold rfl (by decide) twoLayers_valid
    (rfl : twoLayers.build {} twoLayersScript = (_, .ok { twoLayers with imageId := "im-1" }, []))
  exact ⟨_, h.2⟩

end ModalRs
