/-
  File:      ModalRs/Image/Content.lean
  Subject:   What an image contains, and whether extending it keeps that.

  A content is a base followed by the commands applied to it. The server knows
  the content of every image id; an accepted layer comes to an image with the
  content that its request describes.

  * `Obtained`: the ways to an image, and its content: its id if it was looked up
    by id, else its tag followed by all its layers.
  * `layerContent`, `Accepted`: the server's side.
  * `runs_content`: the reference fold comes to the base followed by the commands
    of all layers.
  * `build_content`: so does a build, by a server that accepts every layer.
  * `extension_keeps_base_exactly`: building an extension keeps the content of the
    image extended exactly when that was not looked up by id.
-/
import ModalRs.Image.Build

namespace ModalRs

open ModalRs.Lib ModalRs.Rust

/-! ## 1. Contents -/

/-- What an image starts from: an image that exists, by its id, or a registry tag. -/
inductive Base where
  | id (imageId : String)
  | tag (tag : String)
  deriving DecidableEq, Repr

/-- A base followed by the commands applied to it. -/
structure Content where
  base : Base
  commands : List String
  deriving DecidableEq, Repr

def Content.followedBy (c : Content) (commands : List String) : Content :=
  { c with commands := c.commands ++ commands }

/-- The content of an image that was looked up by id. -/
def Content.LookedUp (c : Content) : Prop := ∃ imageId, c.base = .id imageId

theorem followedBy_nil (c : Content) : c.followedBy [] = c := by
  rw [Content.followedBy, List.append_nil]

theorem followedBy_append (c : Content) (xs ys : List String) :
    c.followedBy (xs ++ ys) = (c.followedBy xs).followedBy ys := by
  simp only [Content.followedBy, List.append_assoc]

/-- The tag of an image, followed by all its layers. -/
def Image.ownContent (image : Image) : Content := ⟨.tag image.tag, image.layers.flatMap (·.commands)⟩

/-- **The ways to an image**, and its content. -/
inductive Obtained : Image → Content → Prop where
  | new (imageId : String) : Obtained (Image.new imageId) ⟨.id imageId, []⟩
  | fromId {reply : Except ModalError String} {imageId : String} {image : Image}
      (h : Image.fromId reply imageId = .ok image) : Obtained image ⟨.id image.imageId, []⟩
  | fromRegistry (tag : String) (secret : Option Secret) :
      Obtained (Image.fromRegistry tag secret) (Image.fromRegistry tag secret).ownContent
  | fromAwsEcr (tag : String) (secret : Secret) :
      Obtained (Image.fromAwsEcr tag secret) (Image.fromAwsEcr tag secret).ownContent
  | fromGcpArtifactRegistry (tag : String) (secret : Secret) :
      Obtained (Image.fromGcpArtifactRegistry tag secret)
        (Image.fromGcpArtifactRegistry tag secret).ownContent
  /-- No commands: the image itself. -/
  | unchanged {image : Image} {c : Content} (params : Option ImageDockerfileCommandsParams)
      (h : Obtained image c) : Obtained (image.dockerfileCommands [] params) c
  | extended {image : Image} {c : Content} (commands : List String)
      (params : Option ImageDockerfileCommandsParams) (hne : commands ≠ []) (h : Obtained image c) :
      Obtained (image.dockerfileCommands commands params)
        (image.dockerfileCommands commands params).ownContent
  /-- A build of an image that has an id: the image itself. -/
  | hydrated {image built : Image} {c : Content} {params : ImageBuildParams}
      {script rest : List ImageAnswer} {events : List ImageEvent} (h : Obtained image c)
      (hid : image.imageId ≠ "") (hbuild : image.build params script = (events, .ok built, rest)) :
      Obtained built c
  | built {image built : Image} {c : Content} {params : ImageBuildParams}
      {script rest : List ImageAnswer} {events : List ImageEvent} (h : Obtained image c)
      (hid : image.imageId = "") (hbuild : image.build params script = (events, .ok built, rest)) :
      Obtained built built.ownContent

/-- An image is its tag and layers, or was looked up by id and has no layer of its own. -/
theorem obtained_cases {image : Image} {c : Content} (h : Obtained image c) :
    c = image.ownContent ∨ (c = ⟨.id image.imageId, []⟩ ∧ image.layers = [{}]) := by
  induction h with
  | new imageId => exact Or.inr ⟨rfl, rfl⟩
  | fromId h =>
    refine Or.inr ⟨rfl, ?_⟩
    unfold Image.fromId at h
    split at h
    · cases h
      rfl
    · cases h
    · cases h
  | fromRegistry tag secret => exact Or.inl rfl
  | fromAwsEcr tag secret => exact Or.inl rfl
  | fromGcpArtifactRegistry tag secret => exact Or.inl rfl
  | unchanged params h ih => exact ih
  | extended commands params hne h ih => exact Or.inl rfl
  | hydrated h hid hbuild ih =>
    rw [Image.build, if_pos hid] at hbuild
    cases hbuild
    exact ih
  | built h hid hbuild ih => exact Or.inl rfl

/-! ## 2. A server that accepts every layer -/

/-- The content that a request describes: the base that its first line names, one of its base
    images or else a tag, followed by the other commands. -/
def layerContent (content : String → Content) (request : ImageLayerBuildRequest) : Content :=
  match request.dockerfileCommands with
  | [] => ⟨.tag "", []⟩
  | fromLine :: commands =>
      let name := String.ofList (fromLine.toList.drop 5)
      match request.baseImages.find? (·.dockerTag = name) with
      | some base => (content base.imageId).followedBy commands
      | none => ⟨.tag name, commands⟩

/-- The server accepts: it has, or is building, an image with the content that the request
    describes; and a join ends without a result or with that image. -/
def Accepted (content : String → Content) : ImageEvent → Prop
  | .getOrCreate request reply => ∃ r, reply = .ok r ∧
      (r.status = .success ∨ r.status = .pending) ∧
      content r.imageId = layerContent content request
  | .joinStreaming imageId _ reply => ∃ r, reply = .ok r ∧
      ∀ final, r.result = some final →
        final.status = .success ∧ content final.imageId = content imageId

section Fold

variable {image : Image} {params : ImageBuildParams} {content : String → Content}

/-- What a layer starts from. -/
def startContent (image : Image) (content : String → Content) : Option String → Content
  | none => ⟨.tag image.tag, []⟩
  | some base => content base

/-- **The request of the reference describes the base followed by the layer.** -/
theorem layerContent_reference (i : Nat) (layer : Layer) (base : Option String) :
    layerContent content (referenceRequest image params i layer base) =
      (startContent image content base).followedBy layer.commands := by
  cases base with
  | none =>
    have hname : String.ofList (("FROM " ++ image.tag).toList.drop 5) = image.tag := by
      rw [String.toList_append]
      exact String.ofList_toList
    simp only [layerContent, referenceRequest, layerRequest, startContent, List.find?_nil, hname]
    rfl
  | some base =>
    simp [layerContent, referenceRequest, layerRequest, startContent]

/-- An accepted layer comes to an image with the content its request describes, if to anything. -/
theorem accepted_outcome {run : LayerRun} (h : ∀ e ∈ run.events, Accepted content e) :
    run.outcome = none ∨ ∃ imageId, run.outcome = some (.ok imageId) ∧
      content imageId = layerContent content run.request := by
  obtain ⟨request, reply, joins⟩ := run
  obtain ⟨r, rfl, hstatus, hcontent⟩ := h _ List.mem_cons_self
  rcases hstatus with hsuccess | hpending
  · refine Or.inr ⟨r.imageId, ?_, hcontent⟩
    simp [LayerRun.outcome, ImageBuildResult.intoResult, hsuccess]
  · rcases hlast : joins.getLast? with _ | j
    · exact Or.inl (by simp [LayerRun.outcome, hpending, hlast])
    · have hmem : ImageEvent.joinStreaming r.imageId j.lastEntryId j.reply ∈
          (LayerRun.mk request (.ok r) joins).events :=
        List.mem_cons_of_mem _ (List.mem_map.mpr ⟨j, List.mem_of_getLast? hlast, rfl⟩)
      obtain ⟨joined, hreply, hfinal⟩ := h _ hmem
      rcases hresult : joined.result with _ | final
      · exact Or.inl (by simp [LayerRun.outcome, JoinRun.outcome, hpending, hlast, hreply, hresult])
      · obtain ⟨hsuccess, hsame⟩ := hfinal final hresult
        refine Or.inr ⟨final.imageId, ?_, hsame.trans hcontent⟩
        simp only [LayerRun.outcome, JoinRun.outcome, hpending, hlast, hreply, hresult, if_true,
          Option.bind_some, Option.map_some]
        show some final.intoResult = _
        rw [ImageBuildResult.intoResult, hsuccess]

/-- **The reference fold over accepted layers** comes to the base followed by the commands of all
    layers, unless it is still going on. -/
theorem runs_content {i : Nat} {base : Option String} {layers : List Layer} {runs : List LayerRun}
    {out : Res ModalError String} (h : RunsFrom image params i base layers runs out)
    (hacc : ∀ e ∈ runs.flatMap LayerRun.events, Accepted content e)
    (hsome : layers ≠ [] ∨ base ≠ none) :
    out = .error .diverged ∨ ∃ imageId, out = .ok imageId ∧
      content imageId =
        (startContent image content base).followedBy (layers.flatMap (·.commands)) := by
  induction h with
  | done i base =>
    rcases hsome with h | h
    · exact absurd rfl h
    · cases base with
      | none => exact absurd rfl h
      | some base =>
        refine Or.inr ⟨base, rfl, ?_⟩
        rw [List.flatMap_nil, followedBy_nil]
        rfl
  | silent i base layer layers => exact Or.inl rfl
  | stops i base layer layers run e hjoined hrequest hout =>
    have hevents : ∀ e ∈ run.events, Accepted content e := fun e he =>
      hacc e (List.mem_flatMap.mpr ⟨run, List.mem_cons_self, he⟩)
    rcases accepted_outcome hevents with hnone | ⟨imageId, hok, -⟩
    · rw [hnone] at hout
      exact Or.inl hout.symm
    · rw [hok] at hout
      cases hout
  | goes i base layer layers run imageId runs out hjoined hrequest hout hrest ih =>
    rw [List.flatMap_cons] at hacc
    have hevents : ∀ e ∈ run.events, Accepted content e := fun e he =>
      hacc e (List.mem_append_left _ he)
    rcases accepted_outcome hevents with hnone | ⟨imageId', hok, hcontent⟩
    · rw [hout] at hnone
      cases hnone
    · rw [hout] at hok
      cases hok
      rw [hrequest, layerContent_reference] at hcontent
      have hrestAcc : ∀ e ∈ runs.flatMap LayerRun.events, Accepted content e := fun e he =>
        hacc e (List.mem_append_right _ he)
      rcases ih hrestAcc (Or.inr (Option.some_ne_none imageId)) with hdiv | ⟨final, rfl, hfinal⟩
      · exact Or.inl hdiv
      · refine Or.inr ⟨final, rfl, ?_⟩
        rw [hfinal, List.flatMap_cons, followedBy_append, ← hcontent]
        rfl

end Fold

/-! ## 3. Extending an image -/

theorem ownContent_not_lookedUp (image : Image) : ¬ image.ownContent.LookedUp := by
  rintro ⟨imageId, h⟩
  cases h

/-- The tag and layers followed by commands are the content followed by them exactly if the image
    was not looked up by id. -/
theorem ownContent_followedBy_iff {image : Image} {c : Content} (h : Obtained image c)
    (commands : List String) :
    image.ownContent.followedBy commands = c.followedBy commands ↔ ¬ c.LookedUp := by
  rcases obtained_cases h with rfl | ⟨rfl, -⟩
  · exact ⟨fun _ => ownContent_not_lookedUp image, fun _ => rfl⟩
  · refine ⟨fun h => ?_, fun h => absurd ⟨image.imageId, rfl⟩ h⟩
    exact absurd (congrArg Content.base h) (fun h => nomatch h)

/-- An image that was looked up by id has only the default layer, which is valid. -/
theorem not_lookedUp_of_invalid {image : Image} {c : Content} (h : Obtained image c) {l : Layer}
    (hl : l ∈ image.layers) (hinvalid : ¬ l.Valid) : ¬ c.LookedUp := by
  rcases obtained_cases h with rfl | ⟨-, hdefault⟩
  · exact ownContent_not_lookedUp image
  · have hvalid : ({} : Layer).Valid := ⟨rfl, ⟨"", 0⟩, rfl⟩
    rw [hdefault] at hl
    cases List.mem_singleton.mp hl
    exact absurd hvalid hinvalid

/-- An extension: the same tag, no id, and one more layer. -/
structure Extends (image : Image) (commands : List String) (extended : Image) (layer : Layer) :
    Prop where
  imageId : extended.imageId = ""
  tag : extended.tag = image.tag
  layers : extended.layers = image.layers ++ [layer]
  commands : layer.commands = commands
  valid : layer.Valid

section Extension

variable {image extended : Image} {commands : List String} {layer : Layer}

theorem dockerfileCommands_extends (image : Image) (hne : commands ≠ [])
    (hcommands : validateDockerfileCommands commands = .ok ())
    {params : Option ImageDockerfileCommandsParams} {config : GpuConfig}
    (hgpu : parseGpuConfig (params.getD {}).gpu = .ok config) :
    ∃ layer, Extends image commands (image.dockerfileCommands commands params) layer := by
  rw [Image.dockerfileCommands, if_neg hne]
  exact ⟨_, rfl, rfl, rfl, rfl, hcommands, config, hgpu⟩

theorem Extends.all_valid (h : Extends image commands extended layer)
    (hall : ∀ l ∈ image.layers, l.Valid) : ∀ l ∈ extended.layers, l.Valid := by
  rw [h.layers]
  intro l hl
  rcases List.mem_append.mp hl with hl | hl
  · exact hall l hl
  · cases List.mem_singleton.mp hl
    exact h.valid

theorem Extends.ownContent (h : Extends image commands extended layer) :
    extended.ownContent = image.ownContent.followedBy commands := by
  rw [Image.ownContent, h.layers, h.tag, List.flatMap_append, List.flatMap_singleton, h.commands]
  rfl

end Extension

/-- **A build comes to the tag and layers of its image**, if the server accepts every layer and
    answers to the end. -/
theorem build_content {image : Image} (hid : image.imageId = "") (hsome : image.layers ≠ [])
    (hvalid : ∀ l ∈ image.layers, l.Valid) {params : ImageBuildParams}
    {script rest : List ImageAnswer} {events : List ImageEvent} {result : Res ModalError Image}
    (hbuild : image.build params script = (events, result, rest)) {content : String → Content}
    (hacc : ∀ e ∈ events, Accepted content e) (hends : result ≠ .error .diverged) :
    ∃ built, result = .ok built ∧ content built.imageId = image.ownContent := by
  obtain ⟨runs, out, rfl, hruns, rfl⟩ := build_runs hid hvalid hbuild
  rcases runs_content hruns hacc (Or.inl hsome) with rfl | ⟨imageId, rfl, hcontent⟩
  · exact absurd rfl hends
  · exact ⟨_, rfl, hcontent⟩

/-- A build that more replies would not change has ended with those that it took. -/
theorem build_ended {image : Image} {params : ImageBuildParams} {script rest : List ImageAnswer}
    {events : List ImageEvent} {result : Res ModalError Image}
    (h : ∀ more, image.build params (script ++ more) = (events, result, rest ++ more)) :
    result ≠ .error .diverged := by
  intro hcut
  let refusal : ImageAnswer := ⟨fun _ => .error (.other ""), fun _ _ => .error (.other "")⟩
  obtain ⟨taken, -, -, hrest⟩ := build_honest image params _ _ _ _ (h [refusal])
  exact List.append_ne_nil_of_right_ne_nil rest (List.cons_ne_nil _ _) (hrest _ rfl hcut)

/-- The build of an extension came to an image with the content of the image extended, followed by
    the commands; or it refused a layer of that image that is not valid. -/
def KeepsContent (content : String → Content) (image : Image) (c : Content)
    (commands : List String) : Res ModalError Image → Prop
  | .ok built => content built.imageId = c.followedBy commands
  | .error _ => ∃ l ∈ image.layers, ¬ l.Valid

/-- **Extending an image**, exactly: for every image that can be obtained, and every list of valid
    commands, the build of the extension by a server that accepts every layer keeps the content of
    the image if and only if the image was not looked up by id. The replies of the script are all
    that the build takes: whatever comes behind them changes nothing. -/
theorem extension_keeps_base_exactly {image : Image} {c : Content} (himage : Obtained image c)
    {commands : List String} (hne : commands ≠ [])
    (hcommands : validateDockerfileCommands commands = .ok ())
    {params : Option ImageDockerfileCommandsParams} {config : GpuConfig}
    (hgpu : parseGpuConfig (params.getD {}).gpu = .ok config) {buildParams : ImageBuildParams}
    {script rest : List ImageAnswer} {events : List ImageEvent} {result : Res ModalError Image}
    (hscript : ∀ more, (image.dockerfileCommands commands params).build buildParams
      (script ++ more) = (events, result, rest ++ more))
    {content : String → Content} (hacc : ∀ e ∈ events, Accepted content e) :
    KeepsContent content image c commands result ↔ ¬ c.LookedUp := by
  obtain ⟨layer, hextends⟩ := dockerfileCommands_extends image hne hcommands hgpu
  have hbuild := hscript []
  rw [List.append_nil, List.append_nil] at hbuild
  by_cases hall : ∀ l ∈ image.layers, l.Valid
  · have hsome : (image.dockerfileCommands commands params).layers ≠ [] := by
      rw [hextends.layers]
      exact List.append_ne_nil_of_right_ne_nil _ (List.cons_ne_nil _ _)
    obtain ⟨built, rfl, hcontent⟩ :=
      build_content hextends.imageId hsome (hextends.all_valid hall) hbuild hacc
        (build_ended hscript)
    show content built.imageId = c.followedBy commands ↔ ¬ c.LookedUp
    rw [hcontent, hextends.ownContent]
    exact ownContent_followedBy_iff himage commands
  · -- an image with a layer that is not valid has tag and layers, and its extension is refused
    obtain ⟨l, hl⟩ := not_forall.mp hall
    obtain ⟨hl, hinvalid⟩ := Classical.not_imp.mp hl
    refine ⟨fun _ => not_lookedUp_of_invalid himage hl hinvalid, fun _ => ?_⟩
    cases result with
    | error e => exact ⟨l, hl, hinvalid⟩
    | ok built =>
      have hmem : l ∈ (image.dockerfileCommands commands params).layers := by
        rw [hextends.layers]
        exact List.mem_append_left _ hl
      exact absurd (valid_of_built hextends.imageId hbuild l hmem) hinvalid

/-- What a server knows of the images of the script above, built from a tag. -/
def knownContent (tag imageId : String) : Content :=
  if imageId = "im-0" then ⟨.tag tag, []⟩ else ⟨.tag tag, ["RUN a"]⟩

/-- The server of that script accepts both layers. -/
theorem knownContent_accepts {tag : String} {request₀ request₁ : ImageLayerBuildRequest}
    (h₀ : layerContent (knownContent tag) request₀ = ⟨.tag tag, []⟩)
    (h₁ : layerContent (knownContent tag) request₁ = ⟨.tag tag, ["RUN a"]⟩) :
    ∀ e ∈ [ImageEvent.getOrCreate request₀ (.ok ⟨"im-0", .success, none⟩),
        .getOrCreate request₁ (.ok ⟨"im-1", .pending, none⟩),
        .joinStreaming "im-1" "" (.ok ⟨none, "e1"⟩),
        .joinStreaming "im-1" "e1" (.ok ⟨some ⟨"im-1", .success, none⟩, "e2"⟩)],
      Accepted (knownContent tag) e := by
  intro e he
  rcases List.mem_cons.mp he with rfl | he
  · exact ⟨_, rfl, Or.inl rfl, h₀.symm⟩
  rcases List.mem_cons.mp he with rfl | he
  · exact ⟨_, rfl, Or.inr rfl, h₁.symm⟩
  rcases List.mem_cons.mp he with rfl | he
  · exact ⟨_, rfl, fun _ h => nomatch h⟩
  cases List.mem_singleton.mp he
  refine ⟨_, rfl, fun final h => ?_⟩
  cases h
  exact ⟨rfl, rfl⟩

theorem extension_keeps_alpine :
    KeepsContent (knownContent "alpine:3.21") (Image.fromRegistry "alpine:3.21" none)
        (Image.fromRegistry "alpine:3.21" none).ownContent ["RUN a"]
        (.ok { twoLayers with imageId := "im-1" }) ↔
      ¬ (Image.fromRegistry "alpine:3.21" none).ownContent.LookedUp := by
  exact extension_keeps_base_exactly (.fromRegistry _ _) (List.cons_ne_nil _ _) (by decide) rfl
    (fun more => (rfl : twoLayers.build {} (twoLayersScript ++ more) =
      (_, .ok { twoLayers with imageId := "im-1" }, [] ++ more)))
    (knownContent_accepts (by decide) (by decide))

/-- An image that is looked up by id and extended: its first request is for "FROM " without a tag,
    so the image built does not contain it. -/
theorem extension_loses_base : ∃ events built,
    ((Image.new "im-9").dockerfileCommands ["RUN a"] none).build {} twoLayersScript =
        (events, .ok built, []) ∧
      (∀ e ∈ events, Accepted (knownContent "") e) ∧ Obtained (Image.new "im-9") ⟨.id "im-9", []⟩ ∧
      ¬ knownContent "" built.imageId = Content.followedBy ⟨.id "im-9", []⟩ ["RUN a"] := by
  exact ⟨_, _, rfl, knownContent_accepts (by decide) (by decide), .new "im-9", by decide⟩

end ModalRs
