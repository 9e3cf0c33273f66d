/-
  File:      ModalRs/Image/Wire.lean
  Subject:   The request that builds an image layer, as the transport sends it.

  * `imageGetOrCreateRequest`: the message for a request.
  * `imageGetOrCreateRequest_eq_iff`: what two requests with the same message share.
  * `image_distinct_exactly`: which requests the server can tell apart.
-/
import Mathlib.Data.List.Basic
import ModalRs.Image.Basic
import ModalRs.Transport.Messages

namespace ModalRs

/-- The message of `image_get_or_create`. -/
def imageGetOrCreateRequest (request : ImageLayerBuildRequest) : Pb.ImageGetOrCreateRequest where
  image := some {
    dockerfileCommands := request.dockerfileCommands
    baseImages := request.baseImages.map fun bi => ⟨bi.dockerTag, bi.imageId⟩
    secretIds := request.secretIds
    gpuConfig := request.gpuConfig.map fun gc => ⟨0, gc.count, gc.gpuType⟩ }
  appId := request.appId
  existingImageId := ""
  buildFunctionId := ""
  forceBuild := request.forceBuild
  deploymentNamespace := 0
  builderVersion := ""
  allowGlobalDeployment := false
  ignoreCache := false

section Requests

variable {r s : ImageLayerBuildRequest}

/-- The base images of a message are those of the request. -/
theorem baseImages_injective :
    Function.Injective
      (List.map fun bi : BaseImage => (⟨bi.dockerTag, bi.imageId⟩ : Pb.BaseImage)) := by
  refine List.map_injective_iff.mpr fun x y h => ?_
  obtain ⟨tag, id⟩ := x
  obtain ⟨tag', id'⟩ := y
  cases h
  rfl

/-- **What two requests with the same message share**: five fields, and nothing about the registry
    or the builder version. -/
theorem imageGetOrCreateRequest_eq_iff (hgpu : r.gpuConfig = s.gpuConfig) :
    imageGetOrCreateRequest r = imageGetOrCreateRequest s ↔
      r.appId = s.appId ∧ r.dockerfileCommands = s.dockerfileCommands ∧
        r.secretIds = s.secretIds ∧ r.baseImages = s.baseImages ∧ r.forceBuild = s.forceBuild := by
  constructor
  · intro h
    have himage := Option.some.inj (congrArg Pb.ImageGetOrCreateRequest.image h)
    exact ⟨congrArg Pb.ImageGetOrCreateRequest.appId h,
      congrArg Pb.Image.dockerfileCommands himage, congrArg Pb.Image.secretIds himage,
      baseImages_injective (congrArg Pb.Image.baseImages himage),
      congrArg Pb.ImageGetOrCreateRequest.forceBuild h⟩
  · intro h
    obtain ⟨happ, hcommands, hsecrets, hbases, hforce⟩ := h
    rw [imageGetOrCreateRequest, imageGetOrCreateRequest, hgpu, happ, hcommands, hsecrets, hbases,
      hforce]

/-- **Which requests the server can tell apart**: those that differ in the app, the commands, the
    secrets, the base images or whether the build is forced. -/
theorem image_distinct_exactly (hgpu : r.gpuConfig = s.gpuConfig) :
    imageGetOrCreateRequest r ≠ imageGetOrCreateRequest s ↔
      r.appId ≠ s.appId ∨ r.dockerfileCommands ≠ s.dockerfileCommands ∨
        r.secretIds ≠ s.secretIds ∨ r.baseImages ≠ s.baseImages ∨ r.forceBuild ≠ s.forceBuild := by
  rw [Ne, imageGetOrCreateRequest_eq_iff hgpu]
  simp only [not_and_or, Ne]

/-- **A registry and a builder version are lost**: a request that names them has the same message as
    one that does not. -/
theorem image_indistinct :
    let plain : ImageLayerBuildRequest :=
      ⟨"ap-1", ["FROM registry.example/private:1"], none, [], none, [], "2024.10", false⟩
    let private_ := { plain with imageRegistryConfig := some ⟨.staticCreds, "st-1"⟩ }
    let newer := { plain with builderVersion := "2025.06" }
    plain ≠ private_ ∧ plain ≠ newer ∧
      imageGetOrCreateRequest plain = imageGetOrCreateRequest private_ ∧
      imageGetOrCreateRequest plain = imageGetOrCreateRequest newer := by
  intro plain private_ newer
  refine ⟨fun h => ?_, fun h => ?_, rfl, rfl⟩
  · cases congrArg ImageLayerBuildRequest.imageRegistryConfig h
  · exact absurd (congrArg ImageLayerBuildRequest.builderVersion h) (by decide)

/-- A forced build is told apart from one that is not. -/
theorem image_distinct_exactly_forced :
    let lazy : ImageLayerBuildRequest := ⟨"ap-1", ["FROM a"], none, [], none, [], "2024.10", false⟩
    imageGetOrCreateRequest lazy ≠ imageGetOrCreateRequest { lazy with forceBuild := true } := by
  intro lazy
  have hgpu : lazy.gpuConfig = { lazy with forceBuild := true }.gpuConfig := rfl
  refine (image_distinct_exactly hgpu).mpr ?_
  exact Or.inr (Or.inr (Or.inr (Or.inr Bool.false_ne_true)))

end Requests

end ModalRs
