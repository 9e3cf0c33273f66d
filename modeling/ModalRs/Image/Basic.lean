/-
  File:      ModalRs/Image/Basic.lean
  Subject:   Images and their layers, how an image is made, and the RPCs of a build.

  * `Image.new`, `dockerfileCommands`, `fromRegistry`, `fromAwsEcr`,
    `fromGcpArtifactRegistry`, `fromId`: the ways to an image that do not build it.
  * `ImageLayerBuildRequest`, `ImageBuildResult`, `ImageJoinStreamingResult`: what is
    sent and received for a layer.
  * `validateDockerfileCommands`: the commands a build accepts.
-/
import ModalRs.App
import ModalRs.Rust.HashMap

namespace ModalRs

open ModalRs.Rust

/-! ## 1. Images -/

structure Secret where
  secretId : String
  name : String
  deriving DecidableEq, Repr

/-- Registry authentication type. -/
inductive RegistryAuthType where
  | staticCreds | aws | gcp
  deriving DecidableEq, Repr

/-- Image registry configuration for private registries. -/
structure ImageRegistryConfig where
  registryAuthType : RegistryAuthType
  secretId : String
  deriving DecidableEq, Repr

/-- A single image layer with its build configuration. -/
structure Layer where
  commands : List String := []
  env : HashMap String String := ∅
  secrets : List Secret := []
  gpu : String := ""
  forceBuild : Bool := false
  deriving DecidableEq

/-- Image represents a Modal Image, which can be used to create Sandboxes. -/
structure Image where
  imageId : String
  imageRegistryConfig : Option ImageRegistryConfig
  tag : String
  layers : List Layer
  deriving DecidableEq

/-- Options for `dockerfile_commands`. -/
structure ImageDockerfileCommandsParams where
  env : HashMap String String := ∅
  secrets : List Secret := []
  gpu : String := ""
  forceBuild : Bool := false

namespace Image

/-- Create a new Image with a given ID. -/
def new (imageId : String) : Image := ⟨imageId, none, "", [{}]⟩

/-- Extends an image with arbitrary Dockerfile-like commands, as a new layer. -/
def dockerfileCommands (image : Image) (commands : List String)
    (params : Option ImageDockerfileCommandsParams) : Image :=
  if commands = [] then image
  else
    let params := params.getD {}
    let newLayer : Layer := {
      commands := commands
      env := params.env
      secrets := params.secrets
      gpu := params.gpu
      forceBuild := params.forceBuild }
    { imageId := ""
      tag := image.tag
      imageRegistryConfig := image.imageRegistryConfig
      layers := image.layers ++ [newLayer] }

/-- An image of a registry; the secret, if any, is for static credentials. -/
def fromRegistry (tag : String) (secret : Option Secret) : Image :=
  ⟨"", secret.map fun s => ⟨.staticCreds, s.secretId⟩, tag, [{}]⟩

def fromAwsEcr (tag : String) (secret : Secret) : Image :=
  ⟨"", some ⟨.aws, secret.secretId⟩, tag, [{}]⟩

def fromGcpArtifactRegistry (tag : String) (secret : Secret) : Image :=
  ⟨"", some ⟨.gcp, secret.secretId⟩, tag, [{}]⟩

/-- Looks an image up by its id; `reply` is what `image_from_id` gives. -/
def fromId (reply : Except ModalError String) (imageId : String) : Except ModalError Image :=
  match reply with
  | .ok resolvedId => .ok ⟨resolvedId, none, "", [{}]⟩
  | .error (.grpc ⟨.notFound, _⟩) => .error (.notFound ("Image '" ++ imageId ++ "' not found"))
  | .error e => .error e

end Image

/-! ## 2. The RPCs of a build -/

/-- A base image reference for multi-layer builds. -/
structure BaseImage where
  dockerTag : String
  imageId : String
  deriving DecidableEq, Repr

/-- Parameters for the ImageGetOrCreate RPC for a single layer. -/
structure ImageLayerBuildRequest where
  appId : String
  dockerfileCommands : List String
  imageRegistryConfig : Option ImageRegistryConfig
  secretIds : List String
  gpuConfig : Option GpuConfig
  baseImages : List BaseImage
  builderVersion : String
  forceBuild : Bool
  deriving DecidableEq

/-- Parameters for building an image. -/
structure ImageBuildParams where
  appId : String := ""
  builderVersion : String := ""

/-- Result status from an image build. -/
inductive ImageBuildStatus where
  | success | failure | timeout | terminated | pending
  deriving DecidableEq, Repr

/-- Result of an image build operation. -/
structure ImageBuildResult where
  imageId : String
  status : ImageBuildStatus
  exception : Option String
  deriving DecidableEq, Repr

/-- Convert the build result into a Result, returning an error if the build failed. -/
def ImageBuildResult.intoResult (r : ImageBuildResult) : Except ModalError String :=
  match r.status with
  | .success => .ok r.imageId
  | .failure => .error (.remote ("Image build for " ++ r.imageId ++
      " failed with the exception:\n" ++ r.exception.getD "unknown error"))
  | .terminated => .error (.remote ("Image build for " ++ r.imageId ++
      " terminated due to external shut-down. Please try again."))
  | .timeout => .error (.remote ("Image build for " ++ r.imageId ++
      " timed out. Please try again with a larger timeout parameter."))
  | .pending => .error (.other "image build still pending")

/-- Result from a single image_join_streaming poll iteration: the build result, if the build has
    completed, and the last entry ID for resumable polling. -/
structure ImageJoinStreamingResult where
  result : Option ImageBuildResult
  lastEntryId : String
  deriving DecidableEq, Repr

/-! ## 3. Valid commands -/

/-- A `COPY` from local context. -/
def isLocalCopy (command : String) : Bool :=
  let trimmed := toUppercase (trim command.toList)
  "COPY ".toList.isPrefixOf trimmed && !"COPY --FROM=".toList.isPrefixOf trimmed

/-- Validate that Dockerfile commands don't contain unsupported COPY operations. -/
def validateDockerfileCommands : List String → Except ModalError Unit
  | [] => .ok ()
  | command :: commands =>
      if isLocalCopy command then
        .error (.invalid "COPY commands that copy from local context are not yet supported.")
      else validateDockerfileCommands commands

/-- A layer whose commands and GPU string a build accepts. -/
def Layer.Valid (layer : Layer) : Prop :=
  validateDockerfileCommands layer.commands = .ok () ∧ ∃ config, parseGpuConfig layer.gpu = .ok config

end ModalRs
