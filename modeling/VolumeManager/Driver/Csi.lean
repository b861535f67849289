import VolumeManager.Driver.Paths
import VolumeManager.Api.Manager

/-!
# The CSI bridge (`csi.ControllerServer`, `csi.NodeServer`)

The bridge translates each CSI call into one or two client requests and maps the outcome to a
gRPC status. A controller call is a request on the control plane's world `σ × φ`; a node call
also makes `os.MkdirAll` calls on its own host, so it is a request on `(σ × φ) × ψ`, `ψ` the node's
file system. `ControllerPublishVolume`, the snapshot calls and the other calls that only return
`Unimplemented` or a constant are not modelled, nor is the identity service.

* `NodeServer.unstage_unpublish_rejected`: `NodeUnstageVolume` and `NodeUnpublishVolume` send
  `DELETE` to `/stage` and `/publish`, which the server routes for `POST` only; for every volume
  ID the bridge can send as it is, every path and every state, both calls fail with `Internal`
  and change nothing.
-/

namespace VolumeManager

/-- The gRPC codes the bridge returns. -/
inductive Code where
  | invalidArgument
  | notFound
  | internal
  deriving DecidableEq, Repr

/-- `status.Error(code, message)`. -/
structure GrpcStatus where
  code : Code
  message : String
  deriving DecidableEq, Repr

namespace ControllerServer

variable {σ φ : Type} (cp : ControlPlane σ φ) (env : RequestEnv)

/-- `ControllerServer.CreateVolume`: the new volume's ID and, as its context, the parameters. -/
def createVolume (name : String) (parameters : StrMap String) :
    Proc (σ × φ) (Except GrpcStatus (String × StrMap String)) :=
  if name = "" then pure (.error ⟨.invalidArgument, "volume name is required"⟩)
  else
    let backend := (parameters.lookup "backend").getD ""
    let backend := if backend = "" then "local" else backend
    (VolumeManagerClient.createVolume cp env name backend parameters).bind fun
      | .error err => pure (.error ⟨.internal, "failed to create volume: " ++ err.text⟩)
      | .ok volume => pure (.ok (volume.id, parameters))

/-- What `CreateVolume` makes of `HandleCreate`'s answer: any status but `201` is an error, which
it reports as `Internal`. -/
def createResult (parameters : StrMap String) (resp : Response) :
    Except GrpcStatus (String × StrMap String) :=
  if resp.status ≠ 201 then
    .error ⟨.internal, "failed to create volume: " ++ (VolumeManagerClient.unexpected cp resp).text⟩
  else .ok (resp.body.decodeVolume.id, parameters)

/-- `CreateVolume` with a name is `HandleCreate` on the body the client builds, the backend the
`backend` parameter or `local`. -/
theorem createVolume_eq {name : String} (hn : name ≠ "") (parameters : StrMap String) :
    createVolume cp env name parameters =
      (VolumeHandler.handleCreate cp.store cp.registry
        [("backend", .str (if (parameters.lookup "backend").getD "" = "" then "local"
            else (parameters.lookup "backend").getD "")),
          ("name", .str name), ("parameters", .strMap parameters)] env).bind
        fun resp => pure (createResult cp parameters resp) := by
  simp only [createVolume, hn, if_false, VolumeManagerClient.createVolume,
    VolumeManagerClient.send_create, Proc.bind_eq, Proc.bind_assoc, Proc.done_bind, Proc.pure_eq]
  congr 1
  funext resp
  unfold createResult
  split <;> rfl

/-- `ControllerServer.DeleteVolume`: a client error whose text is `volume not found` counts as
success. -/
def deleteVolume (volumeID : String) : Proc (σ × φ) (Except GrpcStatus Unit) :=
  if volumeID = "" then pure (.error ⟨.invalidArgument, "volume ID is required"⟩)
  else
    (VolumeManagerClient.deleteVolume cp env volumeID).bind fun
      | .ok () => pure (.ok ())
      | .error err =>
        if err.text = "volume not found" then pure (.ok ())
        else pure (.error ⟨.internal, "failed to delete volume: " ++ err.text⟩)

/-- `ControllerServer.ValidateVolumeCapabilities`: every capability is confirmed once the volume
can be read; any client error is reported as `NotFound`. -/
def validateVolumeCapabilities {Cap : Type} (volumeID : String) (caps : List Cap)
    (context : StrMap String) : Proc (σ × φ) (Except GrpcStatus (List Cap × StrMap String)) :=
  if volumeID = "" then pure (.error ⟨.invalidArgument, "volume ID is required"⟩)
  else
    (VolumeManagerClient.getVolume cp env volumeID).bind fun
      | .error err => pure (.error ⟨.notFound, "volume not found: " ++ err.text⟩)
      | .ok _ => pure (.ok (caps, context))

/-- `ControllerServer.ListVolumes`: the IDs of the listed volumes. -/
def listVolumes : Proc (σ × φ) (Except GrpcStatus (Multiset String)) :=
  (VolumeManagerClient.listVolumes cp env).bind fun
    | .error err => pure (.error ⟨.internal, "failed to list volumes: " ++ err.text⟩)
    | .ok volumes => pure (.ok (volumes.map Volume.id))

end ControllerServer

/-- `csi.NodeServer`: the node ID it was started with and the host it runs on. -/
structure NodeServer (ψ : Type) where
  nodeID : String
  os : HostOS ψ

namespace NodeServer

variable {σ φ ψ : Type} (cp : ControlPlane σ φ) (env : RequestEnv) (ns : NodeServer ψ)

/-- `os.MkdirAll` on the node's host. -/
def mkdirAll (path : String) : Proc ((σ × φ) × ψ) (Except String Unit) :=
  (Proc.atomic (ns.os.mkdirAll path)).onSnd

/-- A client call, made from the node. -/
def callManager {α : Type} (p : Proc (σ × φ) (Except ClientError α)) (what : String) :
    Proc ((σ × φ) × ψ) (Except GrpcStatus Unit) :=
  p.onFst.bind fun
    | .error err => pure (.error ⟨.internal, "failed to " ++ what ++ ": " ++ err.text⟩)
    | .ok _ => pure (.ok ())

/-- `NodeServer.NodeStageVolume`. -/
def nodeStageVolume (volumeID stagingPath : String) :
    Proc ((σ × φ) × ψ) (Except GrpcStatus Unit) :=
  if volumeID = "" then pure (.error ⟨.invalidArgument, "volume ID is required"⟩)
  else if stagingPath = "" then pure (.error ⟨.invalidArgument, "staging target path is required"⟩)
  else
    (mkdirAll ns stagingPath).bind fun
      | .error e => pure (.error ⟨.internal, "failed to create staging path: " ++ e⟩)
      | .ok () =>
        callManager (VolumeManagerClient.stageVolume cp env volumeID stagingPath ns.nodeID)
          "stage volume"

/-- `NodeServer.NodeUnstageVolume`. -/
def nodeUnstageVolume (volumeID stagingPath : String) :
    Proc ((σ × φ) × ψ) (Except GrpcStatus Unit) :=
  if volumeID = "" then pure (.error ⟨.invalidArgument, "volume ID is required"⟩)
  else if stagingPath = "" then pure (.error ⟨.invalidArgument, "staging target path is required"⟩)
  else callManager (VolumeManagerClient.unstageVolume cp env volumeID stagingPath) "unstage volume"

/-- `NodeServer.NodePublishVolume`. -/
def nodePublishVolume (volumeID stagingPath targetPath : String) (readOnly : Bool) :
    Proc ((σ × φ) × ψ) (Except GrpcStatus Unit) :=
  if volumeID = "" then pure (.error ⟨.invalidArgument, "volume ID is required"⟩)
  else if stagingPath = "" then pure (.error ⟨.invalidArgument, "staging target path is required"⟩)
  else if targetPath = "" then pure (.error ⟨.invalidArgument, "target path is required"⟩)
  else
    (mkdirAll ns targetPath).bind fun
      | .error e => pure (.error ⟨.internal, "failed to create target path: " ++ e⟩)
      | .ok () =>
        callManager (VolumeManagerClient.publishVolume cp env volumeID stagingPath targetPath readOnly)
          "publish volume"

/-- `NodeServer.NodeUnpublishVolume`. -/
def nodeUnpublishVolume (volumeID targetPath : String) :
    Proc ((σ × φ) × ψ) (Except GrpcStatus Unit) :=
  if volumeID = "" then pure (.error ⟨.invalidArgument, "volume ID is required"⟩)
  else if targetPath = "" then pure (.error ⟨.invalidArgument, "target path is required"⟩)
  else callManager (VolumeManagerClient.unpublishVolume cp env volumeID targetPath) "unpublish volume"

/-- `NodeServer.NodeGetInfo`. -/
def nodeGetInfo : String := ns.nodeID

/-! ## The node's requests at the server -/

/-- The client's result once the server has answered a request it expects `200` for. -/
def okResult (resp : Response) : Except ClientError Unit :=
  if resp.status ≠ 200 then .error (VolumeManagerClient.unexpected cp resp) else .ok ()

/-- `StageVolume` for a plain ID is `HandleStage` on that ID with the body the client builds. -/
theorem stageVolume_eq {v : String} (hv : Url.IsPlainID v) (stagingPath nodeID : String) :
    VolumeManagerClient.stageVolume cp env v stagingPath nodeID =
      (VolumeHandler.handleStage cp.store cp.registry v
        [("node_id", .str nodeID), ("staging_path", .str stagingPath)] env).bind
        fun resp => pure (okResult cp resp) := by
  simp only [VolumeManagerClient.stageVolume, VolumeManagerClient.expectOk,
    VolumeManagerClient.send_volume_node cp env hv.routable "/stage" (.inl rfl), ControlPlane.serve,
    ControlPlane.route, String.reduceEq, if_false, dispatch_post_stage v hv.routable, param, List.lookup_cons_self, Option.getD_some,
    Proc.bind_eq, Proc.bind_assoc, Proc.pure_eq, Proc.done_bind]
  congr 1
  funext resp
  unfold okResult
  split <;> rfl

/-- `PublishVolume` for a plain ID is `HandlePublish` on that ID with the body the client builds,
which has no `node_id`. -/
theorem publishVolume_eq {v : String} (hv : Url.IsPlainID v) (stagingPath targetPath : String)
    (readOnly : Bool) :
    VolumeManagerClient.publishVolume cp env v stagingPath targetPath readOnly =
      (VolumeHandler.handlePublish cp.store cp.registry v
        [("read_only", .bool readOnly), ("staging_path", .str stagingPath),
          ("target_path", .str targetPath)] env).bind
        fun resp => pure (okResult cp resp) := by
  simp only [VolumeManagerClient.publishVolume, VolumeManagerClient.expectOk,
    VolumeManagerClient.send_volume_node cp env hv.routable "/publish" (.inr rfl), ControlPlane.serve,
    ControlPlane.route, String.reduceEq, if_false, dispatch_post_publish v hv.routable, param, List.lookup_cons_self, Option.getD_some,
    Proc.bind_eq, Proc.bind_assoc, Proc.pure_eq, Proc.done_bind]
  congr 1
  funext resp
  unfold okResult
  split <;> rfl

/-! ## Teardown -/

/-- What echo answers a method a path is not routed for. -/
def methodNotAllowed : Response := ⟨405, .fields [("message", "Method Not Allowed")]⟩

/-- DELETE of a plain ID's stage or publish path is answered 405, as echo answers a method a path is
not routed for. -/
theorem serve_delete_node {v : String} (hv : Url.IsPlainID v) (sfx : String)
    (hsfx : sfx = "/stage" ∨ sfx = "/publish") (body : JsonObject) :
    cp.serve ⟨"DELETE", "/api/v1/volumes/" ++ v ++ sfx, body⟩ env = pure methodNotAllowed := by
  simp [ControlPlane.serve, ControlPlane.route, dispatch_delete_node v hv.routable sfx hsfx,
    methodNotAllowed]

/-- A teardown request from the node (`DELETE` on `/stage` or `/publish`): `405`, whatever the
state. -/
theorem expectOk_delete_node {v : String} (hv : Url.IsPlainID v) (sfx : String)
    (hsfx : sfx = "/stage" ∨ sfx = "/publish") (body : JsonObject) :
    VolumeManagerClient.expectOk cp env "DELETE" ("/api/v1/volumes/" ++ v ++ sfx) body =
      pure (.error (.unexpectedStatus 405 (cp.render methodNotAllowed.body))) := by
  simp [VolumeManagerClient.expectOk, VolumeManagerClient.send_volume_node cp env hv.routable sfx hsfx,
    serve_delete_node cp env hv sfx hsfx, VolumeManagerClient.unexpected, methodNotAllowed]

/-- `NodeUnstageVolume` and `NodeUnpublishVolume` always fail: for a volume ID the bridge sends as
it is, every non-empty path and every state of the control plane and of the node, each call
answers `Internal` with the `405` the server returns, and the state is left as it was. -/
theorem unstage_unpublish_rejected {v : String} (hv : Url.IsPlainID v) (path : String)
    (hpath : path ≠ "") (w : (σ × φ) × ψ) :
    (nodeUnstageVolume cp env v path).run w =
      (.error ⟨.internal, "failed to unstage volume: unexpected status 405: " ++
        cp.render (.fields [("message", "Method Not Allowed")])⟩, w) ∧
    (nodeUnpublishVolume cp env v path).run w =
      (.error ⟨.internal, "failed to unpublish volume: unexpected status 405: " ++
        cp.render (.fields [("message", "Method Not Allowed")])⟩, w) := by
  have hv₀ : v ≠ "" := hv.1
  have h405 : toString 405 = "405" := rfl
  simp [nodeUnstageVolume, nodeUnpublishVolume, hv₀, hpath, callManager,
    VolumeManagerClient.unstageVolume, VolumeManagerClient.unpublishVolume,
    expectOk_delete_node cp env hv, ClientError.text, methodNotAllowed, h405]
  exact ⟨String.ext (by simp), String.ext (by simp)⟩

/-- Both teardown calls for volume `vol-1` at `/mnt/target`, on the empty memory-store manager. -/
theorem unstage_unpublish_rejected_demo :
    Url.IsPlainID "vol-1" ∧ "/mnt/target" ≠ "" ∧
    (nodeUnstageVolume (ψ := Unit) ControlPlane.demo ⟨"", 0, 0⟩ "vol-1" "/mnt/target").run
        ((MemoryStore.empty, ()), ()) =
      (.error ⟨.internal, "failed to unstage volume: unexpected status 405: "⟩,
        ((MemoryStore.empty, ()), ())) ∧
    (nodeUnpublishVolume (ψ := Unit) ControlPlane.demo ⟨"", 0, 0⟩ "vol-1" "/mnt/target").run
        ((MemoryStore.empty, ()), ()) =
      (.error ⟨.internal, "failed to unpublish volume: unexpected status 405: "⟩,
        ((MemoryStore.empty, ()), ())) :=
  ⟨by decide, by decide,
    unstage_unpublish_rejected ControlPlane.demo ⟨"", 0, 0⟩ (by decide) "/mnt/target" (by decide) _⟩

end NodeServer

end VolumeManager
