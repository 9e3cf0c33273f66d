/-
  File:      ModalRs/Image/Delivery.lean
  Subject:   The two ways in which the result of an image build arrives.

  The server puts a result into its reply to ImageGetOrCreate, or leaves that
  reply without one and sends it later, as a message of a joined stream.

  * `imageGetOrCreateReply`, `imageJoinStreamingReply`: what the transport makes of either.
  * `Delivers`, `EndsWithout`: streams that carry a result, and streams that do not.
  * `buildLayer_direct`, `buildLayer_joined`: what a layer comes to either way.
  * `build_delivery_exactly`: which results lead to the same outcome both ways.
-/
import ModalRs.Image.Build
import ModalRs.Image.Wire

namespace ModalRs

open ModalRs.Lib ModalRs.Rust

/-! ## 1. The replies of the transport -/

/-- An empty exception text is none. -/
def Pb.ImageResult.exception? (result : Pb.ImageResult) : Option String :=
  if result.exception = "" then none else some result.exception

/-- What `image_get_or_create` makes of the outcome of its RPC, retries included. -/
def imageGetOrCreateReply (reply : Except Status Pb.ImageGetOrCreateResponse) :
    Except ModalError ImageBuildResult := do
  let inner ← statusToError reply
  match inner.result with
  | some result =>
      pure ⟨inner.imageId, if result.status = 1 then .success else .failure, result.exception?⟩
  | none => pure ⟨inner.imageId, .pending, none⟩

/-- The messages of a stream, each with how it came; then the stream ends. -/
abbrev ImageStream : Type := List (Except Status Pb.ImageJoinStreamingResponse)

/-- Reads a stream until a message has a result or an eof: that message, and the last entry id. -/
def collectStream (lastEntry : String) :
    ImageStream → Except ModalError (Option Pb.ImageJoinStreamingResponse × String)
  | [] => .ok (none, lastEntry)
  | .error status :: _ => .error (.grpc status)
  | .ok resp :: stream =>
      let lastEntry := if resp.entryId = "" then lastEntry else resp.entryId
      if resp.result.isSome || resp.eof then .ok (some resp, lastEntry)
      else collectStream lastEntry stream

/-- The build result that a message of a stream carries. -/
def joinedResult (imageId : String) (generic : Pb.ImageResult) : ImageBuildResult where
  imageId := imageId
  status :=
    if generic.status = 1 then .success
    else if generic.status = 4 then .timeout
    else if generic.status = 5 then .terminated
    else .failure
  exception := generic.exception?

/-- What `image_join_streaming` makes of the reply to its RPC. -/
def imageJoinStreamingReply (imageId lastEntryId : String) (reply : Except Status ImageStream) :
    Except ModalError ImageJoinStreamingResult := do
  let stream ← statusToError reply
  let (finalResult, lastEntry) ← collectStream lastEntryId stream
  pure {
    result := finalResult.bind fun resp => resp.result.map (joinedResult imageId)
    lastEntryId := lastEntry }

/-- What the server would reply to either message. -/
structure ImageServer where
  imageGetOrCreate : Pb.ImageGetOrCreateRequest → Except Status Pb.ImageGetOrCreateResponse
  imageJoinStreaming : Pb.ImageJoinStreamingRequest → Except Status ImageStream

/-- The server, seen through the transport. -/
def ImageServer.client (server : ImageServer) : ImageAnswer where
  imageGetOrCreate request :=
    imageGetOrCreateReply (server.imageGetOrCreate (imageGetOrCreateRequest request))
  imageJoinStreaming imageId lastEntryId :=
    imageJoinStreamingReply imageId lastEntryId
      (server.imageJoinStreaming ⟨imageId, 55, lastEntryId, false⟩)

/-! ## 2. Streams -/

/-- The stream ends without a result, by itself or with an eof. -/
inductive EndsWithout : ImageStream → Prop where
  | ends : EndsWithout []
  | eof (entryId : String) (rest : ImageStream) : EndsWithout (.ok ⟨none, entryId, true⟩ :: rest)
  | goes (entryId : String) {rest : ImageStream} (h : EndsWithout rest) :
      EndsWithout (.ok ⟨none, entryId, false⟩ :: rest)

/-- The stream comes to a message with the result. -/
inductive Delivers (r : Pb.ImageResult) : ImageStream → Prop where
  | here (entryId : String) (eof : Bool) (rest : ImageStream) :
      Delivers r (.ok ⟨some r, entryId, eof⟩ :: rest)
  | goes (entryId : String) {rest : ImageStream} (h : Delivers r rest) :
      Delivers r (.ok ⟨none, entryId, false⟩ :: rest)

theorem join_without {stream : ImageStream} (h : EndsWithout stream)
    (imageId lastEntryId : String) : ∃ last,
      imageJoinStreamingReply imageId lastEntryId (.ok stream) = .ok ⟨none, last⟩ := by
  induction h generalizing lastEntryId with
  | ends => exact ⟨lastEntryId, rfl⟩
  | eof entryId rest => exact ⟨_, rfl⟩
  | goes entryId h ih => exact ih _

theorem join_delivers {r : Pb.ImageResult} {stream : ImageStream} (h : Delivers r stream)
    (imageId lastEntryId : String) : ∃ last,
      imageJoinStreamingReply imageId lastEntryId (.ok stream) =
        .ok ⟨some (joinedResult imageId r), last⟩ := by
  induction h generalizing lastEntryId with
  | here entryId eof rest => exact ⟨_, rfl⟩
  | goes entryId h ih => exact ih _

/-! ## 3. A layer -/

/-- The server's reply to the request has the result. -/
def ImageServer.Direct (imageId : String) (r : Pb.ImageResult) (server : ImageServer) : Prop :=
  ∀ request, server.imageGetOrCreate request = .ok ⟨imageId, some r⟩

/-- The server's reply to the request has no result. -/
def ImageServer.Pending (imageId : String) (server : ImageServer) : Prop :=
  ∀ request, server.imageGetOrCreate request = .ok ⟨imageId, none⟩

/-- Any number of streams that end without a result, then one that delivers it. -/
inductive Joins (r : Pb.ImageResult) : List ImageServer → Prop where
  | last {server : ImageServer}
      (h : ∀ request, ∃ stream, server.imageJoinStreaming request = .ok stream ∧ Delivers r stream) :
      Joins r [server]
  | again {server : ImageServer} {servers : List ImageServer}
      (h : ∀ request, ∃ stream, server.imageJoinStreaming request = .ok stream ∧ EndsWithout stream)
      (hrest : Joins r servers) : Joins r (server :: servers)

/-- What the transport makes of a result in the reply. -/
def directResult (imageId : String) (r : Pb.ImageResult) : ImageBuildResult :=
  ⟨imageId, if r.status = 1 then .success else .failure, r.exception?⟩

theorem directResult_ne_pending (imageId : String) (r : Pb.ImageResult) :
    (directResult imageId r).status ≠ .pending := by
  unfold directResult
  by_cases h : r.status = 1
  · simp [h]
  · simp [h]

/-- **The joins come to the result** after all streams without one. -/
theorem joinLoop_joins {r : Pb.ImageResult} {servers : List ImageServer} (h : Joins r servers)
    (imageId lastEntryId : String) (rest : List ImageAnswer) : ∃ es,
      joinLoop imageId lastEntryId (servers.map ImageServer.client ++ rest) =
        (es, .ok (joinedResult imageId r), rest) := by
  induction h generalizing lastEntryId with
  | @last server h =>
    obtain ⟨stream, hreply, hstream⟩ := h ⟨imageId, 55, lastEntryId, false⟩
    obtain ⟨last, hjoin⟩ := join_delivers hstream imageId lastEntryId
    refine ⟨_, Exchange.askWhile_value ?_⟩
    show joinReply (imageJoinStreamingReply imageId lastEntryId _) = _
    rw [hreply, hjoin]
    rfl
  | @again server servers h hrest ih =>
    obtain ⟨stream, hreply, hstream⟩ := h ⟨imageId, 55, lastEntryId, false⟩
    obtain ⟨last, hjoin⟩ := join_without hstream imageId lastEntryId
    obtain ⟨es, hes⟩ := ih last
    refine ⟨_, Exchange.askWhile_goes ?_ hes⟩
    show joinReply (imageJoinStreamingReply imageId lastEntryId _) = _
    rw [hreply, hjoin]
    rfl

section Layer

variable {image : Image} {params : ImageBuildParams} {builderVersion : String} {i : Nat}
  {layer : Layer} {current imageId : String} {r : Pb.ImageResult}

/-- A layer whose result is in the reply. -/
theorem buildLayer_direct (hgpu : ∃ gpuConfig, layerGpuConfig layer = .ok gpuConfig)
    {server : ImageServer} (h : server.Direct imageId r) (rest : List ImageAnswer) : ∃ es,
      buildLayer image params builderVersion i layer current (server.client :: rest) =
        (es, liftExcept (directResult imageId r).intoResult, rest) := by
  obtain ⟨gpuConfig, hgpu⟩ := hgpu
  have hreply : ∀ request, server.client.imageGetOrCreate request =
      .ok (directResult imageId r) := by
    intro request
    show imageGetOrCreateReply (server.imageGetOrCreate _) = _
    rw [h]
    rfl
  rw [buildLayer, hgpu, Exchange.bind_of_silent (a := gpuConfig) rfl, Exchange.bind_apply,
    imageGetOrCreate_cons (hreply _) rest]
  simp only [liftExcept_value, if_neg (directResult_ne_pending imageId r),
    Exchange.bind_of_silent (Exchange.pure_apply (directResult imageId r) rest)]
  exact ⟨_, rfl⟩

/-- A layer whose result arrives through its joins. -/
theorem buildLayer_joined (hgpu : ∃ gpuConfig, layerGpuConfig layer = .ok gpuConfig)
    {server : ImageServer} {servers : List ImageServer} (h : server.Pending imageId)
    (hjoins : Joins r servers) (rest : List ImageAnswer) : ∃ es,
      buildLayer image params builderVersion i layer current
          ((server :: servers).map ImageServer.client ++ rest) =
        (es, liftExcept (joinedResult imageId r).intoResult, rest) := by
  obtain ⟨gpuConfig, hgpu⟩ := hgpu
  have hreply : ∀ request, server.client.imageGetOrCreate request =
      .ok ⟨imageId, .pending, none⟩ := by
    intro request
    show imageGetOrCreateReply (server.imageGetOrCreate _) = _
    rw [h]
    rfl
  obtain ⟨es, hloop⟩ := joinLoop_joins hjoins imageId "" rest
  rw [buildLayer, hgpu, Exchange.bind_of_silent (a := gpuConfig) rfl, Exchange.bind_apply,
    List.map_cons, List.cons_append, imageGetOrCreate_cons (hreply _)]
  simp only [liftExcept_value, if_pos, Exchange.bind_apply, hloop]
  exact ⟨_, rfl⟩

end Layer

/-! ## 4. The outcome of a result -/

section Outcome

variable {imageId : String} {r : Pb.ImageResult}

/-- Either way a result other than a timeout and a termination means the same. -/
theorem joinedResult_eq (h4 : r.status ≠ 4) (h5 : r.status ≠ 5) :
    joinedResult imageId r = directResult imageId r := by
  rw [joinedResult, directResult, if_neg h4, if_neg h5]

/-- The text of a failed build. -/
def failureText (imageId why : String) : String := "Image build for " ++ imageId ++ why

theorem failureText_injective {why why' : String}
    (h : failureText imageId why = failureText imageId why') : why = why' := by
  have hsplit : ∀ w, (failureText imageId w).toList =
      ("Image build for " ++ imageId).toList ++ w.toList := fun _ => String.toList_append
  have hchars := (hsplit why).symm.trans ((congrArg String.toList h).trans (hsplit why'))
  exact String.toList_inj.mp (List.append_cancel_left hchars)

/-- A result in the reply that is not a success fails the build. -/
theorem directResult_failure (h : r.status ≠ 1) :
    (directResult imageId r).intoResult =
      .error (.remote (failureText imageId
        (" failed with the exception:\n" ++ r.exception?.getD "unknown error"))) := by
  have hfails : (directResult imageId r).intoResult = .error (.remote ("Image build for " ++
      imageId ++ " failed with the exception:\n" ++ r.exception?.getD "unknown error")) := by
    rw [directResult, if_neg h]
    rfl
  exact hfails.trans (congrArg (fun t => Except.error (ModalError.remote t)) String.append_assoc)

/-- **A timeout and a termination are told only by a stream.** -/
theorem joinedResult_failure (imageId : String) (h : r.status = 4 ∨ r.status = 5) :
    ∃ why : String,
    (why.toList.head? = some ' ' ∧ why.toList[1]? = some 't') ∧
      (joinedResult imageId r).intoResult = .error (.remote (failureText imageId why)) := by
  rcases h with h | h
  · have hne : r.status ≠ 1 := by
      rw [h]
      decide
    refine ⟨" timed out. Please try again with a larger timeout parameter.", ⟨rfl, rfl⟩, ?_⟩
    rw [joinedResult, if_neg hne, if_pos h]
    rfl
  · have hne : r.status ≠ 1 ∧ r.status ≠ 4 := by
      rw [h]
      decide
    refine ⟨" terminated due to external shut-down. Please try again.", ⟨rfl, rfl⟩, ?_⟩
    rw [joinedResult, if_neg hne.1, if_neg hne.2, if_pos h]
    rfl

/-- **The two errors differ** where a stream tells a timeout or a termination. -/
theorem outcomes_differ (imageId : String) (h : r.status = 4 ∨ r.status = 5) :
    ∃ e e' : ModalError, e ≠ e' ∧ (directResult imageId r).intoResult = .error e ∧
      (joinedResult imageId r).intoResult = .error e' := by
  have hfail : r.status ≠ 1 := by
    rcases h with h | h
    · rw [h]
      decide
    · rw [h]
      decide
  obtain ⟨why, ⟨-, hletter⟩, hjoined⟩ := joinedResult_failure imageId h
  refine ⟨_, _, fun heq => ?_, directResult_failure hfail, hjoined⟩
  have hwhy := failureText_injective (ModalError.remote.inj heq)
  rw [← hwhy, String.toList_append, List.getElem?_append_left (by decide)] at hletter
  exact absurd hletter (by decide)

end Outcome

/-! ## 5. The outcome of a build -/

theorem buildLayer_stable (image : Image) (params : ImageBuildParams) (builderVersion : String)
    (i : Nat) (layer : Layer) (current : String) :
    Exchange.Stable .diverged (buildLayer image params builderVersion i layer current) := by
  unfold buildLayer
  refine .bind (.lift _) fun gpuConfig => .bind (.ask _ _) fun r => ?_
  refine .ite ?_ (.bind (.pure r) fun final => .lift _)
  exact .bind (.askWhile _ _ _) fun final => .lift _

section Build

variable {image : Image} {params : ImageBuildParams} {builderVersion : String}

/-- The loop of `build` gets to layer `i` once the layers before it came to images. -/
theorem buildLayers_append (layers : List Layer) {built : List Layer} {i : Nat}
    {current imageId : String} {before : List ImageAnswer} {es : List ImageEvent}
    (h : buildLayers image params builderVersion i built current before = (es, .ok imageId, []))
    (more : List ImageAnswer) :
    (buildLayers image params builderVersion i (built ++ layers) current (before ++ more)).2 =
      (buildLayers image params builderVersion (i + built.length) layers imageId more).2 := by
  induction built generalizing i current before es with
  | nil =>
    cases h
    rfl
  | cons layer built ih =>
    rw [buildLayers] at h
    rcases Exchange.bind_cases h with ⟨e, -, hout⟩ | ⟨es₁, id, left, es₂, hlayer, hrest, -⟩
    · cases hout
    · have hmore := buildLayer_stable image params builderVersion i layer current _ _ _ _ hlayer
        (fun he => by cases he) more
      have hindex : i + (layer :: built).length = i + 1 + built.length := by
        rw [List.length_cons]
        omega
      rw [List.cons_append, buildLayers, Exchange.bind_apply, hmore, hindex]
      exact ih hrest

/-- The outcome of the loop of `build` at a layer that has come to its result. -/
theorem buildLayers_outcome {layer : Layer} {layers : List Layer} {i : Nat} {current : String}
    {out : Except ModalError String} {script rest : List ImageAnswer}
    (h : ∃ es, buildLayer image params builderVersion i layer current script =
      (es, liftExcept out, rest)) :
    (buildLayers image params builderVersion i (layer :: layers) current script).2.1 =
      liftExcept out >>= fun imageId =>
        (buildLayers image params builderVersion (i + 1) layers imageId rest).2.1 := by
  obtain ⟨es, h⟩ := h
  rw [buildLayers, Exchange.bind_apply, h]
  cases out with
  | error e => rfl
  | ok imageId => rfl

/-- The outcome of a build is that of its loop. -/
theorem build_outcome (hid : image.imageId = "") (hvalid : validateLayers image.layers = .ok ())
    (script : List ImageAnswer) :
    (image.build params script).2.1 =
      (buildLayers image params params.version 0 image.layers "" script).2.1.map
        fun imageId => { image with imageId := imageId } := by
  have hlift : (Exchange.lift (liftExcept (validateLayers image.layers)) : BuildM Unit) script =
      ([], .ok (), script) := by
    rw [hvalid]
    rfl
  rw [Image.build, if_neg (not_not.mpr hid), Exchange.bind_of_silent hlift, Exchange.bind_apply]
  rcases buildLayers image params params.version 0 image.layers "" script with ⟨es, e | id, rest⟩
  · rfl
  · rfl

end Build

/-- A build that has come to images for the layers before layer `i`, and now builds that one. -/
structure AtLayer (image : Image) (params : ImageBuildParams) (before : List ImageServer)
    (layer : Layer) (layers : List Layer) (current : String) : Prop where
  fresh : image.imageId = ""
  valid : validateLayers image.layers = .ok ()
  gpu : ∃ gpuConfig, layerGpuConfig layer = .ok gpuConfig
  built : ∃ done es, image.layers = done ++ layer :: layers ∧
    buildLayers image params params.version 0 done "" (before.map ImageServer.client) =
      (es, .ok current, [])

/-- The outcome of a build against some servers. -/
def Image.outcome (image : Image) (params : ImageBuildParams) (servers : List ImageServer) :
    Res ModalError Image := (image.build params (servers.map ImageServer.client)).2.1

section Delivery

variable {image : Image} {params : ImageBuildParams} {before : List ImageServer} {layer : Layer}
  {layers : List Layer} {current imageId : String} {r : Pb.ImageResult}
  (h : AtLayer image params before layer layers current)

include h

/-- The outcome of a build at a layer that has come to its result. -/
theorem outcome_atLayer : ∃ next : String → List ImageServer → Res ModalError Image,
    ∀ (servers after : List ImageServer) (out : Except ModalError String),
      (∀ i : Nat, ∃ es, buildLayer image params params.version i layer current
        (servers.map ImageServer.client ++ after.map ImageServer.client) =
          (es, liftExcept out, after.map ImageServer.client)) →
      image.outcome params (before ++ servers ++ after) =
        liftExcept out >>= fun imageId => next imageId after := by
  obtain ⟨done, es, hlayers, hbuilt⟩ := h.built
  refine ⟨fun imageId after => (buildLayers image params params.version (0 + done.length + 1) layers
    imageId (after.map ImageServer.client)).2.1.map fun imageId => { image with imageId := imageId },
    fun servers after out hlayer => ?_⟩
  have happend := buildLayers_append (layer :: layers) hbuilt
    (servers.map ImageServer.client ++ after.map ImageServer.client)
  rw [Image.outcome, build_outcome h.fresh h.valid, hlayers, List.map_append, List.map_append,
    List.append_assoc, happend, buildLayers_outcome (hlayer _)]
  cases out with
  | error e => rfl
  | ok imageId => rfl

/-- **Which results lead to the same outcome both ways**: all but a timeout and a termination,
    which the reply to ImageGetOrCreate turns into a failure. -/
theorem build_delivery_exactly {direct pending : ImageServer} {joined after : List ImageServer}
    (hdirect : direct.Direct imageId r) (hpending : pending.Pending imageId)
    (hjoined : Joins r joined) :
    image.outcome params (before ++ [direct] ++ after) =
        image.outcome params (before ++ pending :: joined ++ after) ↔
      r.status ≠ 4 ∧ r.status ≠ 5 := by
  obtain ⟨next, hnext⟩ := outcome_atLayer h
  rw [hnext [direct] after _ fun i => buildLayer_direct h.gpu hdirect _,
    hnext (pending :: joined) after _ fun i => buildLayer_joined h.gpu hpending hjoined _]
  constructor
  · intro hsame
    by_contra hstatus
    have hstatus : r.status = 4 ∨ r.status = 5 := by
      by_cases h4 : r.status = 4
      · exact Or.inl h4
      · exact Or.inr (by_contra fun h5 => hstatus ⟨h4, h5⟩)
    obtain ⟨e, e', hne, he, he'⟩ := outcomes_differ imageId hstatus
    rw [he, he'] at hsame
    cases hsame
    exact hne rfl
  · intro hstatus
    rw [joinedResult_eq hstatus.1 hstatus.2]

end Delivery

/-- The servers of a build of one layer whose result `r` is in the reply. -/
def repliedServer (r : Pb.ImageResult) : ImageServer :=
  ⟨fun _ => .ok ⟨"im-1", some r⟩, fun _ => .ok []⟩

/-- The reply has no result, the first stream ends with an eof, and the second one has `r`. -/
def pendingServer : ImageServer := ⟨fun _ => .ok ⟨"im-1", none⟩, fun _ => .ok []⟩

def streamServers (r : Pb.ImageResult) : List ImageServer :=
  [⟨fun _ => .ok ⟨"im-1", none⟩, fun _ => .ok [.ok ⟨none, "e1", true⟩]⟩,
   ⟨fun _ => .ok ⟨"im-1", none⟩, fun _ => .ok [.ok ⟨none, "e2", false⟩, .ok ⟨some r, "e3", false⟩]⟩]

/-- A failed build is the same both ways. -/
theorem build_delivery_exactly_failed :
    (Image.fromRegistry "alpine:3.21" none).outcome {} ([] ++ [repliedServer ⟨2, "oom"⟩] ++ []) =
        (Image.fromRegistry "alpine:3.21" none).outcome {}
          ([] ++ pendingServer :: streamServers ⟨2, "oom"⟩ ++ []) ↔
      (2 : Int32) ≠ 4 ∧ (2 : Int32) ≠ 5 := by
  have hat : AtLayer (Image.fromRegistry "alpine:3.21" none) {} [] {} [] "" :=
    ⟨rfl, rfl, ⟨none, rfl⟩, ⟨[], [], rfl, rfl⟩⟩
  have hjoins : Joins ⟨2, "oom"⟩ (streamServers ⟨2, "oom"⟩) :=
    .again (fun _ => ⟨_, rfl, .eof "e1" []⟩)
      (.last fun _ => ⟨_, rfl, .goes "e2" (.here "e3" false [])⟩)
  have hdirect : (repliedServer ⟨2, "oom"⟩).Direct "im-1" ⟨2, "oom"⟩ := fun _ => rfl
  have hpending : pendingServer.Pending "im-1" := fun _ => rfl
  exact build_delivery_exactly hat hdirect hpending hjoins

/-- **A timeout in the reply is a plain failure**, and in a stream it is a timeout. -/
theorem build_delivery_timeout :
    (Image.fromRegistry "alpine:3.21" none).outcome {} [repliedServer ⟨4, ""⟩] ≠
      (Image.fromRegistry "alpine:3.21" none).outcome {}
        (pendingServer :: streamServers ⟨4, ""⟩) := by
  have hreply : (Image.fromRegistry "alpine:3.21" none).outcome {} [repliedServer ⟨4, ""⟩] =
      .error (.err (.remote
        "Image build for im-1 failed with the exception:\nunknown error")) := rfl
  have hstream : (Image.fromRegistry "alpine:3.21" none).outcome {}
      (pendingServer :: streamServers ⟨4, ""⟩) = .error (.err (.remote
        "Image build for im-1 timed out. Please try again with a larger timeout parameter.")) := rfl
  rw [hreply, hstream]
  intro h
  exact absurd (ModalError.remote.inj (Stop.err.inj (Except.error.inj h))) (by decide)

end ModalRs
