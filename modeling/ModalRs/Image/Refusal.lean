/-
  File:      ModalRs/Image/Refusal.lean
  Subject:   Builds of images with a layer that is not valid.

  The commands of all layers are checked before the first request. A GPU string
  is parsed when its layer is reached, so that the layers before it are built.

  * `RefusedUnsent`: an error, and no request.
  * `refused_of_commands`, `refused_of_first`: the layers that are refused so.
  * `sent_of_first`: otherwise the request of the first layer is sent.
  * `refusal_exactly`: which layers that are not valid are refused.
-/
import ModalRs.Image.Build

namespace ModalRs

open ModalRs.Lib ModalRs.Rust

/-! ## 1. What is not valid -/

def Layer.CommandsValid (layer : Layer) : Prop :=
  validateDockerfileCommands layer.commands = .ok ()

def Layer.GpuValid (layer : Layer) : Prop := ∃ config, parseGpuConfig layer.gpu = .ok config

theorem validateLayers_error {layers : List Layer} (h : ∃ l ∈ layers, ¬ l.CommandsValid) :
    ∃ e, validateLayers layers = .error e := by
  obtain ⟨l, hl, hinvalid⟩ := h
  cases hvalidate : validateLayers layers with
  | error e => exact ⟨e, rfl⟩
  | ok _ => exact absurd (validateLayers_commands hvalidate l hl) hinvalid

theorem layerGpuConfig_error {layer : Layer} (h : ¬ layer.GpuValid) :
    ∃ e, layerGpuConfig layer = .error e := by
  cases hconfig : layerGpuConfig layer with
  | error e => exact ⟨e, rfl⟩
  | ok config => exact absurd (layerGpuConfig_parses hconfig) h

/-! ## 2. What is sent -/

/-- An error, and no request. -/
structure RefusedUnsent (events : List ImageEvent) (result : Res ModalError Image) : Prop where
  err : ∃ e, result = .error (.err e)
  unsent : requestsOf events = []

section Builds

variable {image : Image} {params : ImageBuildParams} {script rest : List ImageAnswer}
  {events : List ImageEvent} {result : Res ModalError Image}

/-- **A layer whose commands are not valid is refused**, wherever it is. -/
theorem refused_of_commands (hid : image.imageId = "")
    (hinvalid : ∃ l ∈ image.layers, ¬ l.CommandsValid)
    (h : image.build params script = (events, result, rest)) : RefusedUnsent events result := by
  obtain ⟨e, he⟩ := validateLayers_error hinvalid
  rw [Image.build, if_neg (not_not.mpr hid), he, Exchange.bind_of_error (e := .err e) rfl] at h
  cases h
  exact ⟨⟨e, rfl⟩, rfl⟩

/-- **A GPU string of the first layer that is not valid is refused.** -/
theorem refused_of_first (hid : image.imageId = "")
    (hvalid : ∀ l ∈ image.layers, l.CommandsValid) {layer : Layer}
    (hfirst : image.layers.head? = some layer) (hgpu : ¬ layer.GpuValid)
    (h : image.build params script = (events, result, rest)) : RefusedUnsent events result := by
  obtain ⟨layers, hlayers⟩ := List.head?_eq_some_iff.mp hfirst
  obtain ⟨e, he⟩ := layerGpuConfig_error hgpu
  obtain ⟨out, hloop, rfl⟩ := build_loop hid hvalid h
  have hlayer : buildLayer image params params.version 0 layer "" script =
      ([], .error (.err e), script) := by
    rw [buildLayer, he, Exchange.bind_of_error rfl]
  rw [hlayers, buildLayers, Exchange.bind_of_error hlayer] at hloop
  cases hloop
  exact ⟨⟨e, rfl⟩, rfl⟩

/-- **The request of a layer is sent** once its GPU string is parsed. -/
theorem sent_of_first {builderVersion : String} {i : Nat} {layer : Layer} {layers : List Layer}
    {current : String} {gpuConfig : Option GpuConfig} (hgpu : layerGpuConfig layer = .ok gpuConfig)
    {out : Res ModalError String}
    (h : buildLayers image params builderVersion i (layer :: layers) current script =
      (events, out, rest)) :
    requestsOf events ≠ [] ∨ out = .error .diverged := by
  rw [buildLayers] at h
  rcases Exchange.bind_cases h with ⟨e, hlayer, rfl⟩ | ⟨es₁, imageId, is₁, es₂, hlayer, -, rfl⟩
  · rcases buildLayer_run hgpu hlayer with ⟨-, hout⟩ | ⟨run, rfl, -⟩
    · cases hout
      exact Or.inr rfl
    · rw [requestsOf_run]
      exact Or.inl (List.cons_ne_nil _ _)
  · rcases buildLayer_run hgpu hlayer with ⟨-, hout⟩ | ⟨run, rfl, -⟩
    · cases hout
    · have hrun := requestsOf_run run
      rw [requestsOf] at hrun
      rw [requestsOf, List.filterMap_append, hrun]
      exact Or.inl (List.cons_ne_nil _ _)

/-- **Which images with a layer that is not valid are refused** before the first request, exactly:
    those with invalid commands in any layer, or an invalid GPU string in the first one. -/
theorem refusal_exactly (hid : image.imageId = "") (hinvalid : ∃ l ∈ image.layers, ¬ l.Valid)
    (h : image.build params script = (events, result, rest)) :
    RefusedUnsent events result ↔
      (∃ l ∈ image.layers, ¬ l.CommandsValid) ∨
        ∃ l, image.layers.head? = some l ∧ ¬ l.GpuValid := by
  by_cases hcommands : ∃ l ∈ image.layers, ¬ l.CommandsValid
  · exact ⟨fun _ => Or.inl hcommands, fun _ => refused_of_commands hid hcommands h⟩
  · have hvalid : ∀ l ∈ image.layers, l.CommandsValid := by
      intro l hl
      by_contra hno
      exact hcommands ⟨l, hl, hno⟩
    constructor
    · intro hrefused
      right
      by_contra hfirst
      -- the first layer is valid, so that its request is sent
      obtain ⟨l, hl, -⟩ := hinvalid
      obtain ⟨layer, layers, hlayers⟩ := List.exists_cons_of_ne_nil (List.ne_nil_of_mem hl)
      have hhead : image.layers.head? = some layer := by
        rw [hlayers]
        rfl
      have hgpu : layer.GpuValid := by
        by_contra hno
        exact hfirst ⟨layer, hhead, hno⟩
      obtain ⟨gpuConfig, hconfig⟩ :=
        layerGpuConfig_of_valid ⟨hvalid layer (List.mem_of_head? hhead), hgpu⟩
      obtain ⟨out, hloop, rfl⟩ := build_loop hid hvalid h
      rw [hlayers] at hloop
      rcases sent_of_first hconfig hloop with hsent | rfl
      · exact hsent hrefused.unsent
      · obtain ⟨e, he⟩ := hrefused.err
        cases he
    · rintro (hany | ⟨layer, hfirst, hgpu⟩)
      · exact absurd hany hcommands
      · exact refused_of_first hid hvalid hfirst hgpu h

end Builds

/-- An image of two layers, the second one with a local COPY. -/
def localCopyImage : Image :=
  (Image.fromRegistry "alpine:3.21" none).dockerfileCommands ["COPY a b"] none

theorem refusal_exactly_copy : ∃ events result,
    localCopyImage.build {} twoLayersScript = (events, result, twoLayersScript) ∧
      RefusedUnsent events result := by
  have hinvalid : ¬ Layer.CommandsValid { commands := ["COPY a b"] } := by
    unfold Layer.CommandsValid
    decide
  have hmem : ({ commands := ["COPY a b"] } : Layer) ∈ localCopyImage.layers :=
    List.mem_cons_of_mem _ List.mem_cons_self
  have hbuild : localCopyImage.build {} twoLayersScript = ([], _, twoLayersScript) := rfl
  exact ⟨_, _, hbuild, (refusal_exactly rfl ⟨_, hmem, fun hvalid => hinvalid hvalid.1⟩ hbuild).mpr
    (Or.inl ⟨_, hmem, hinvalid⟩)⟩

/-- An image of two layers, the second one with a GPU string without a count. -/
def badGpuImage : Image :=
  (Image.fromRegistry "alpine:3.21" none).dockerfileCommands ["RUN a"] (some { gpu := "A100:x" })

/-- **The first layer is built** although the second one is not valid. -/
theorem first_layer_built :
    badGpuImage.imageId = "" ∧ (∃ l ∈ badGpuImage.layers, ¬ l.Valid) ∧
      (requestsOf (badGpuImage.build {} twoLayersScript).1).length = 1 ∧
      ¬ RefusedUnsent (badGpuImage.build {} twoLayersScript).1
        (badGpuImage.build {} twoLayersScript).2.1 := by
  have hsent : (requestsOf (badGpuImage.build {} twoLayersScript).1).length = 1 := rfl
  refine ⟨rfl, ⟨_, List.mem_cons_of_mem _ List.mem_cons_self, ?_⟩, hsent, fun hrefused => ?_⟩
  · rintro ⟨-, config, hconfig⟩
    cases hconfig
  · rw [hrefused.unsent] at hsent
    cases hsent

end ModalRs
