/-
  File:      ModalRs/Image/Options.lean
  Subject:   Which options of a layer reach the server.

  Two images are built against one server. What their requests say of the layers
  decides whether they differ.

  * `Carried`: what a request says of its layer, apart from where it starts.
  * `runs_carried`: the requests of a build say it of the layers, in order.
  * `buildLayers_congr`: layers of which the same is said are built alike.
  * `options_kept_exactly`: the requests differ exactly if what they say does.
-/
import ModalRs.Image.Build

namespace ModalRs

open ModalRs.Lib ModalRs.Rust

/-! ## 1. What a request says of its layer -/

/-- The commands, the secrets, the GPU, and whether the build is forced. -/
structure Carried where
  commands : List String
  secretIds : List String
  gpuConfig : Option GpuConfig
  forceBuild : Bool
  deriving DecidableEq

/-- What a request says; the first of its commands is its FROM line. -/
def ImageLayerBuildRequest.carried (request : ImageLayerBuildRequest) : Carried :=
  ⟨request.dockerfileCommands.tail, request.secretIds, request.gpuConfig, request.forceBuild⟩

/-- What is said of layer `i` of an image: not its `env`. -/
def Image.carriedAt (image : Image) (i : Nat) (layer : Layer) : Carried :=
  { commands := layer.commands
    secretIds := layer.secrets.map (·.secretId)
    gpuConfig := (layerGpuConfig layer).toOption.join
    forceBuild := (image.layers.take (i + 1)).any (·.forceBuild) }

/-- What is said of some layers, from layer `i` on. -/
def Image.carriedFrom (image : Image) : (i : Nat) → List Layer → List Carried
  | _, [] => []
  | i, layer :: layers => image.carriedAt i layer :: image.carriedFrom (i + 1) layers

/-- What is said of all layers of an image. -/
def Image.carried (image : Image) : List Carried := image.carriedFrom 0 image.layers

theorem referenceRequest_carried (image : Image) (params : ImageBuildParams) (i : Nat)
    (layer : Layer) (base : Option String) :
    (referenceRequest image params i layer base).carried = image.carriedAt i layer := by
  cases base with
  | none => rfl
  | some base => rfl

/-- **The requests of a build that succeeds say it of the layers**, in order. -/
theorem runs_carried {image : Image} {params : ImageBuildParams} {i : Nat} {base : Option String}
    {layers : List Layer} {runs : List LayerRun} {out : Res ModalError String} {imageId : String}
    (h : RunsFrom image params i base layers runs out) (hout : out = .ok imageId) :
    runs.map (·.request.carried) = image.carriedFrom i layers := by
  induction h with
  | done i base => rfl
  | silent i base layer layers => cases hout
  | stops i base layer layers run e hjoined hrequest hfails => cases hout
  | goes i base layer layers run imageId runs out hjoined hrequest hbuilt hrest ih =>
    rw [List.map_cons, ih hout, hrequest, referenceRequest_carried]
    rfl

/-! ## 2. Layers that are built alike -/

section Alike

variable {image₁ image₂ : Image} {params : ImageBuildParams} {i : Nat} {layer₁ layer₂ : Layer}

theorem referenceRequest_congr (htag : image₁.tag = image₂.tag)
    (hconfig : image₁.imageRegistryConfig = image₂.imageRegistryConfig)
    (h : image₁.carriedAt i layer₁ = image₂.carriedAt i layer₂) (base : Option String) :
    referenceRequest image₁ params i layer₁ base =
      referenceRequest image₂ params i layer₂ base := by
  obtain ⟨hcommands, hsecrets, hgpu, hforce⟩ := Carried.mk.inj h
  cases base with
  | none =>
    simp only [referenceRequest, layerRequest, htag, hconfig, hcommands, hsecrets, hgpu, hforce]
  | some base =>
    simp only [referenceRequest, layerRequest, hcommands, hsecrets, hgpu, hforce]

/-- A GPU string that is parsed is part of what is said. -/
theorem layerGpuConfig_congr (hvalid₁ : layer₁.Valid) (hvalid₂ : layer₂.Valid)
    (h : image₁.carriedAt i layer₁ = image₂.carriedAt i layer₂) :
    layerGpuConfig layer₁ = layerGpuConfig layer₂ := by
  obtain ⟨gpuConfig₁, hgpu₁⟩ := layerGpuConfig_of_valid hvalid₁
  obtain ⟨gpuConfig₂, hgpu₂⟩ := layerGpuConfig_of_valid hvalid₂
  have hsame : (layerGpuConfig layer₁).toOption.join = (layerGpuConfig layer₂).toOption.join :=
    congrArg Carried.gpuConfig h
  rw [hgpu₁, hgpu₂] at hsame
  have hconfig : gpuConfig₁ = gpuConfig₂ := hsame
  rw [hgpu₁, hgpu₂, hconfig]

/-- The first thing that the body of the loop does succeeds without asking. -/
theorem buildLayer_parsed {image : Image} {builderVersion : String} {layer : Layer}
    {gpuConfig : Option GpuConfig} (hgpu : layerGpuConfig layer = .ok gpuConfig)
    (current : String) :
    buildLayer image params builderVersion i layer current = (do
      let buildResult ← imageGetOrCreate
        (buildRequest image params builderVersion i layer gpuConfig current)
      let finalResult ←
        if buildResult.status = .pending then joinLoop buildResult.imageId ""
        else pure buildResult
      Exchange.lift (liftExcept finalResult.intoResult)) := by
  funext is
  rw [buildLayer, hgpu, Exchange.bind_of_silent (a := gpuConfig) rfl]

/-- **Layers of which the same is said are built alike**, whatever else differs. -/
theorem buildLayers_congr (htag : image₁.tag = image₂.tag)
    (hconfig : image₁.imageRegistryConfig = image₂.imageRegistryConfig)
    {layers₁ layers₂ : List Layer} {base : Option String}
    (hvalid₁ : ∀ l ∈ layers₁, l.Valid) (hvalid₂ : ∀ l ∈ layers₂, l.Valid)
    (hdrop₁ : image₁.layers.drop i = layers₁) (hdrop₂ : image₂.layers.drop i = layers₂)
    (hbase : base = none ↔ i = 0)
    (hcarried : image₁.carriedFrom i layers₁ = image₂.carriedFrom i layers₂) :
    buildLayers image₁ params params.version i layers₁ (base.getD "") =
      buildLayers image₂ params params.version i layers₂ (base.getD "") := by
  induction layers₁ generalizing i layers₂ base with
  | nil =>
    cases layers₂ with
    | nil => rfl
    | cons layer₂ layers₂ => cases hcarried
  | cons layer₁ layers₁ ih =>
    cases layers₂ with
    | nil => cases hcarried
    | cons layer₂ layers₂ =>
      obtain ⟨hfirst, hrest⟩ := List.cons.inj hcarried
      obtain ⟨hlayer₁, hlayers₁⟩ := List.forall_mem_cons.mp hvalid₁
      obtain ⟨hlayer₂, hlayers₂⟩ := List.forall_mem_cons.mp hvalid₂
      -- the first layers have the same request
      obtain ⟨gpuConfig, hgpu₂⟩ := layerGpuConfig_of_valid hlayer₂
      have hgpu₁ := (layerGpuConfig_congr hlayer₁ hlayer₂ hfirst).trans hgpu₂
      have hlayer : buildLayer image₁ params params.version i layer₁ (base.getD "") =
          buildLayer image₂ params params.version i layer₂ (base.getD "") := by
        rw [buildLayer_parsed hgpu₁, buildLayer_parsed hgpu₂, buildRequest_eq hdrop₁ hbase hgpu₁,
          buildRequest_eq hdrop₂ hbase hgpu₂, referenceRequest_congr htag hconfig hfirst]
      -- and what they come to is the base of the others
      have hdrop : ∀ {image : Image} {layer : Layer} {layers : List Layer},
          image.layers.drop i = layer :: layers → image.layers.drop (i + 1) = layers := by
        intro image layer layers h
        rw [← List.drop_drop, h]
        rfl
      have hlayers : ∀ imageId, buildLayers image₁ params params.version (i + 1) layers₁ imageId =
          buildLayers image₂ params params.version (i + 1) layers₂ imageId := by
        intro imageId
        have hbase' : some imageId = none ↔ i + 1 = 0 :=
          ⟨fun h => (nomatch h), fun h => (nomatch h)⟩
        exact ih hlayers₁ hlayers₂ (hdrop hdrop₁) (hdrop hdrop₂) hbase' hrest
      rw [buildLayers, buildLayers, hlayer, funext hlayers]

end Alike

/-! ## 3. Two images and one server -/

theorem buildLayer_determined (image : Image) (params : ImageBuildParams) (builderVersion : String)
    (i : Nat) (layer : Layer) (current : String) :
    Exchange.Determined .diverged (buildLayer image params builderVersion i layer current) := by
  unfold buildLayer
  have hparse : Exchange.Honest (· = .diverged) ImageEvent.AnsweredBy
      (Exchange.lift (liftExcept (layerGpuConfig layer)) : BuildM (Option GpuConfig)) :=
    .lift fun _ => liftExcept_ne_diverged _
  refine .bind hparse (.lift _) fun gpuConfig => ?_
  refine .bind (imageGetOrCreate_honest _) (.ask _ _) fun r => ?_
  have hdone : Exchange.Honest (· = .diverged) ImageEvent.AnsweredBy
      (pure r : BuildM ImageBuildResult) := .pure r
  refine .ite ?_ ?_
  · exact .bind (joinLoop_honest _ _) (.askWhile _ _ _) fun final => .lift _
  · exact .bind hdone (.pure r) fun final => .lift _

/-- Against one server there is one run of the layers. -/
theorem buildLayers_determined (image : Image) (params : ImageBuildParams)
    (builderVersion : String) (i : Nat) (layers : List Layer) (current : String) :
    Exchange.Determined .diverged (buildLayers image params builderVersion i layers current) := by
  induction layers generalizing i current with
  | nil => exact .pure current
  | cons layer layers ih =>
    exact .bind (buildLayer_honest _ _ _ _ _ _) (buildLayer_determined _ _ _ _ _ _)
      fun imageId => ih _ imageId

/-- The server accepts every layer, and answers to the end: the build comes to an image. -/
def BuiltBy (serve : List ImageEvent → ImageAnswer) (image : Image) (params : ImageBuildParams)
    (events : List ImageEvent) : Prop :=
  ∃ built, Exchange.Against serve (image.build params) events (.ok built)

section Built

variable {serve : List ImageEvent → ImageAnswer} {image image₁ image₂ : Image}
  {params : ImageBuildParams} {events events₁ events₂ : List ImageEvent}

theorem BuiltBy.valid (hid : image.imageId = "") (h : BuiltBy serve image params events) :
    ∀ l ∈ image.layers, l.Valid := by
  obtain ⟨built, script, rest, hrun, -⟩ := h
  exact valid_of_built hid hrun

/-- The loop of `build` has run. -/
theorem BuiltBy.layers (hid : image.imageId = "") (h : BuiltBy serve image params events) :
    ∃ imageId, Exchange.Against serve (buildLayers image params params.version 0 image.layers "")
      events (.ok imageId) := by
  have hvalid := h.valid hid
  obtain ⟨built, script, rest, hrun, hplays⟩ := h
  obtain ⟨out, hlayers, hout⟩ := build_loop hid (fun l hl => (hvalid l hl).1) hrun
  cases out with
  | error e => cases hout
  | ok imageId => exact ⟨imageId, script, rest, hlayers, hplays⟩

/-- **The requests say it of the layers**, in order. -/
theorem BuiltBy.carried (hid : image.imageId = "") (h : BuiltBy serve image params events) :
    (requestsOf events).map (·.carried) = image.carried := by
  have hvalid := h.valid hid
  obtain ⟨built, script, rest, hrun, -⟩ := h
  obtain ⟨runs, out, rfl, hruns, hout⟩ := build_runs hid hvalid hrun
  cases out with
  | error e => cases hout
  | ok imageId =>
    have hcarried := runs_carried hruns rfl
    rw [requestsOf_runs, List.map_map]
    exact hcarried

/-- **Which options of the layers are kept**, exactly: two images with the same tag and registry
    config, whatever their layers, are built by one server with different requests if and only if
    their layers differ in what a request says of them. -/
theorem options_kept_exactly (hid₁ : image₁.imageId = "") (hid₂ : image₂.imageId = "")
    (htag : image₁.tag = image₂.tag)
    (hconfig : image₁.imageRegistryConfig = image₂.imageRegistryConfig)
    (h₁ : BuiltBy serve image₁ params events₁) (h₂ : BuiltBy serve image₂ params events₂) :
    requestsOf events₁ ≠ requestsOf events₂ ↔ image₁.carried ≠ image₂.carried := by
  constructor
  · intro hne hsame
    have hbase : (none : Option String) = none ↔ 0 = 0 := ⟨fun _ => rfl, fun _ => rfl⟩
    have halike : buildLayers image₁ params params.version 0 image₁.layers "" =
        buildLayers image₂ params params.version 0 image₂.layers "" :=
      buildLayers_congr htag hconfig (h₁.valid hid₁) (h₂.valid hid₂) rfl rfl hbase hsame
    obtain ⟨imageId₁, hrun₁⟩ := h₁.layers hid₁
    obtain ⟨imageId₂, hrun₂⟩ := h₂.layers hid₂
    rw [halike] at hrun₁
    obtain ⟨rfl, -⟩ := buildLayers_determined _ _ _ _ _ _ _ _ _ _ _ hrun₁ hrun₂
      (fun h => nomatch h) (fun h => nomatch h)
    exact hne rfl
  · intro hne hsame
    refine hne ?_
    rw [← h₁.carried hid₁, ← h₂.carried hid₂, hsame]

end Built

/-- A server that has every image already. -/
def readyServer (_ : List ImageEvent) : ImageAnswer :=
  ⟨fun _ => .ok ⟨"im-0", .success, none⟩, fun _ _ => .ok ⟨none, ""⟩⟩

/-- What the build of an image of two layers leaves behind there. -/
def readyEvents (image : Image) : List ImageEvent :=
  (image.build {} [readyServer [], readyServer []]).1

theorem readyServer_builds {image : Image}
    (hbuild : image.build {} [readyServer [], readyServer []] =
      (readyEvents image, .ok { image with imageId := "im-0" }, [])) :
    BuiltBy readyServer image {} (readyEvents image) := by
  refine ⟨_, _, _, hbuild, fun k hk => ?_⟩
  obtain ⟨taken, htaken, hans, -⟩ := build_honest image {} _ _ _ _ hbuild
  rw [List.append_nil] at htaken
  rw [hans.length_eq, ← htaken] at hk
  match k, hk with
  | 0, _ => rfl
  | 1, _ => rfl

/-- An image of two layers, the second one with commands and these options. -/
def optionsImage (params : ImageDockerfileCommandsParams) : Image :=
  (Image.fromRegistry "alpine:3.21" none).dockerfileCommands ["RUN a"] (some params)

/-- A forced layer makes a difference. -/
theorem options_kept_forced :
    requestsOf (readyEvents (optionsImage { forceBuild := true })) ≠
      requestsOf (readyEvents (optionsImage {})) := by
  have hforced : BuiltBy readyServer (optionsImage { forceBuild := true }) {}
      (readyEvents (optionsImage { forceBuild := true })) := readyServer_builds rfl
  have hplain : BuiltBy readyServer (optionsImage {}) {} (readyEvents (optionsImage {})) :=
    readyServer_builds rfl
  have hdiffers : (optionsImage { forceBuild := true }).carried ≠ (optionsImage {}).carried := by
    decide
  exact (options_kept_exactly rfl rfl (by decide) (by decide) hforced hplain).mpr hdiffers

/-- The layers differ in the `env` of one that has commands. -/
def EnvDiffers (image₁ image₂ : Image) : Prop :=
  ∃ (i : Nat) (l₁ l₂ : Layer), image₁.layers[i]? = some l₁ ∧ image₂.layers[i]? = some l₂ ∧
    l₁.commands ≠ [] ∧ l₂.commands ≠ [] ∧ l₁.env ≠ l₂.env

/-- **An environment variable is lost**: two images that differ in it alone are built by one server
    with the same requests. -/
theorem env_lost :
    let image₁ := optionsImage { env := [⟨"A", "1"⟩].toFinmap }
    let image₂ := optionsImage {}
    image₁.imageId = "" ∧ image₂.imageId = "" ∧ image₁.tag = image₂.tag ∧
      image₁.imageRegistryConfig = image₂.imageRegistryConfig ∧
      image₁.layers.length = image₂.layers.length ∧ (∀ l ∈ image₁.layers, l.Valid) ∧
      (∀ l ∈ image₂.layers, l.Valid) ∧ EnvDiffers image₁ image₂ ∧
      ∃ events₁ events₂, BuiltBy readyServer image₁ {} events₁ ∧
        BuiltBy readyServer image₂ {} events₂ ∧ requestsOf events₁ = requestsOf events₂ := by
  intro image₁ image₂
  have hbuilt₁ : BuiltBy readyServer image₁ {} (readyEvents image₁) := readyServer_builds rfl
  have hbuilt₂ : BuiltBy readyServer image₂ {} (readyEvents image₂) := readyServer_builds rfl
  refine ⟨rfl, rfl, rfl, rfl, rfl, hbuilt₁.valid rfl, hbuilt₂.valid rfl, ?_, ?_⟩
  · exact ⟨1, _, _, rfl, rfl, by decide, by decide, by decide⟩
  · exact ⟨_, _, hbuilt₁, hbuilt₂, rfl⟩

end ModalRs
