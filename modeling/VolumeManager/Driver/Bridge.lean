import VolumeManager.Driver.Csi
import VolumeManager.Api.Lifecycle

/-!
# The node server over the memory-store manager

`NodeStageVolume` and `NodePublishVolume` make the node's `os.MkdirAll` call and then one client
request, which the server hands to `HandleStage` or `HandlePublish` (`stageVolume_eq`,
`publishVolume_eq`). What reaches the record is the node ID in the request body: the client puts
`node_id` in a stage body but not in a publish body, so the handler's bind leaves it empty.

* `node_ids_recorded`: whenever `NodeStageVolume` succeeds the record lists the server's node ID
  in `StagedOn`; whenever `NodePublishVolume` succeeds it lists the empty string in `PublishedOn`,
  not the node ID.
* `create_retry_fails`: `CreateVolume` is not idempotent: the same call after a success finds the
  name taken and fails with `Internal`.
* `bridge_codes_misreported`: the gRPC codes do not follow the control plane's verdicts: a `400`
  from `HandleCreate` becomes `Internal`, a request that cannot be built becomes `NotFound` in
  `ValidateVolumeCapabilities`, a `404` from `HandleStage` becomes `Internal`.
-/

namespace VolumeManager

namespace NodeServer

variable {σ φ ψ : Type} (cp : ControlPlane σ φ) (env : RequestEnv) (ns : NodeServer ψ)

/-- What a node call that forwards one handler's answer leaves behind: the handler's state on the
manager's side, the node's host as it was. -/
theorem run_callManager_snd (h : Proc (σ × φ) Response) (what : String) (w : (σ × φ) × ψ) :
    ((callManager (h.bind fun resp => pure (okResult cp resp)) what).run w).2 =
      ((h.run w.1).2, w.2) := by
  simp only [callManager, Proc.bind_eq, Proc.run_bind, Proc.run_onFst, Proc.pure_eq,
    Proc.run_done]
  split <;> rfl

/-- Such a call succeeds exactly when the handler answered `200`. -/
theorem callManager_ok_iff (h : Proc (σ × φ) Response) (what : String) (w : (σ × φ) × ψ) :
    ((callManager (h.bind fun resp => pure (okResult cp resp)) what).run w).1 = .ok () ↔
      (h.run w.1).1.status = 200 := by
  simp only [callManager, okResult, Proc.bind_eq, Proc.run_bind, Proc.run_onFst, Proc.pure_eq,
    Proc.run_done]
  by_cases h200 : (h.run w.1).1.status = 200 <;> simp [h200]

section
variable {v : String} (hv : Url.IsPlainID v)
include hv

/-- A successful `NodeStageVolume` had `HandleStage` answer `200` for the body the client built,
and the manager's side is what that handler left. -/
theorem nodeStageVolume_ok (path : String) (w : (σ × φ) × ψ)
    (h : ((nodeStageVolume cp env ns v path).run w).1 = .ok ()) :
    ((VolumeHandler.handleStage cp.store cp.registry v
        [("node_id", .str ns.nodeID), ("staging_path", .str path)] env).run w.1).1.status = 200 ∧
    ((nodeStageVolume cp env ns v path).run w).2.1 =
      ((VolumeHandler.handleStage cp.store cp.registry v
        [("node_id", .str ns.nodeID), ("staging_path", .str path)] env).run w.1).2 := by
  have hv₀ : v ≠ "" := hv.1
  by_cases hp : path = ""
  · simp [nodeStageVolume, hp, hv₀] at h
  simp only [nodeStageVolume, hv₀, hp, if_false, mkdirAll, Proc.run_bind, Proc.run_onSnd,
    Proc.run_atomic] at h ⊢
  rcases hm : ns.os.mkdirAll path w.2 with ⟨_ | ⟨⟩, g⟩
  · simp [hm] at h
  · simp only [hm, stageVolume_eq cp env hv] at h ⊢
    exact ⟨(callManager_ok_iff cp _ _ (w.1, g)).1 h,
      congrArg Prod.fst (run_callManager_snd cp _ _ (w.1, g))⟩

/-- A successful `NodePublishVolume` had `HandlePublish` answer `200` for the body the client
built, and the manager's side is what that handler left. -/
theorem nodePublishVolume_ok (stagingPath targetPath : String) (readOnly : Bool) (w : (σ × φ) × ψ)
    (h : ((nodePublishVolume cp env ns v stagingPath targetPath readOnly).run w).1 = .ok ()) :
    ((VolumeHandler.handlePublish cp.store cp.registry v
        [("read_only", .bool readOnly), ("staging_path", .str stagingPath),
          ("target_path", .str targetPath)] env).run w.1).1.status = 200 ∧
    ((nodePublishVolume cp env ns v stagingPath targetPath readOnly).run w).2.1 =
      ((VolumeHandler.handlePublish cp.store cp.registry v
        [("read_only", .bool readOnly), ("staging_path", .str stagingPath),
          ("target_path", .str targetPath)] env).run w.1).2 := by
  have hv₀ : v ≠ "" := hv.1
  by_cases hs : stagingPath = ""
  · simp [nodePublishVolume, hs, hv₀] at h
  by_cases ht : targetPath = ""
  · simp [nodePublishVolume, hs, ht, hv₀] at h
  simp only [nodePublishVolume, hv₀, hs, ht, if_false, mkdirAll, Proc.run_bind, Proc.run_onSnd,
    Proc.run_atomic] at h ⊢
  rcases hm : ns.os.mkdirAll targetPath w.2 with ⟨_ | ⟨⟩, g⟩
  · simp [hm] at h
  · simp only [hm, publishVolume_eq cp env hv] at h ⊢
    exact ⟨(callManager_ok_iff cp _ _ (w.1, g)).1 h,
      congrArg Prod.fst (run_callManager_snd cp _ _ (w.1, g))⟩

end

/-- The memory-store manager on a registry, with its file routes and rendering. -/
abbrev memoryPlane (reg : Storage.Registry φ) (files : FileRoutes (MemoryStore × φ))
    (render : Body → String) : ControlPlane MemoryStore φ :=
  ⟨MemoryStore.store, reg, files, render⟩

/-- On the memory-store manager, in every state whose records sit under their own IDs: a
successful `NodeStageVolume` leaves `v`'s record staged with the server's node ID appended to
`StagedOn`, but a successful `NodePublishVolume` leaves it published with the empty string
appended to `PublishedOn`, whatever the server's node ID. -/
theorem node_ids_recorded {v : String} (hv : Url.IsPlainID v) (reg : Storage.Registry φ)
    (files : FileRoutes (MemoryStore × φ)) (render : Body → String) (stagingPath targetPath : String) (readOnly : Bool) (s : MemoryStore)
    (hs : MemoryStore.WellKeyed s) (f : φ) (g : ψ) :
    (((nodeStageVolume (memoryPlane reg files render) env ns v stagingPath).run ((s, f), g)).1 =
        .ok () →
      ∃ vol, s.volumes.lookup v = some vol ∧
        (((nodeStageVolume (memoryPlane reg files render) env ns v stagingPath).run
          ((s, f), g)).2.1.1.volumes.lookup v = some (vol.markStaged ns.nodeID env.now))) ∧
    (((nodePublishVolume (memoryPlane reg files render) env ns v stagingPath targetPath
        readOnly).run ((s, f), g)).1 = .ok () →
      ∃ vol, s.volumes.lookup v = some vol ∧
        (((nodePublishVolume (memoryPlane reg files render) env ns v stagingPath targetPath
          readOnly).run ((s, f), g)).2.1.1.volumes.lookup v = some (vol.markPublished "" env.now))) := by
  constructor
  · intro h
    obtain ⟨h200, hw⟩ := nodeStageVolume_ok (memoryPlane reg files render) env ns hv _ _ h
    obtain ⟨vol, hvol, hstore⟩ := MemoryStore.handleNodeRequest_ok reg v _ _ _ env (s, f) h200
    exact ⟨vol, hvol, by
      rw [(congrArg Prod.fst hw).trans hstore]; exact hs.lookup_updateVolume hvol rfl⟩
  · intro h
    obtain ⟨h200, hw⟩ := nodePublishVolume_ok (memoryPlane reg files render) env ns hv _ _ _ _ h
    obtain ⟨vol, hvol, hstore⟩ := MemoryStore.handleNodeRequest_ok reg v _ _ _ env (s, f) h200
    exact ⟨vol, hvol, by
      rw [(congrArg Prod.fst hw).trans hstore]; exact hs.lookup_updateVolume hvol rfl⟩

/-- The catalog after creating `vol-1` from the empty memory store. -/
def createdCatalog : MemoryStore :=
  (Request.runAll MemoryStore.store (Storage.defaultRegistry HostOS.permissive)
    (MemoryStore.empty, ()) [Request.createData]).2.1

/-- Node `node-1` publishes `vol-1` through the bridge: the call succeeds and the record's
`PublishedOn` is `[""]`. -/
theorem node_ids_recorded_publish_node1 :
    Url.IsPlainID "vol-1" ∧ MemoryStore.WellKeyed createdCatalog ∧
    (((nodePublishVolume ControlPlane.demo ⟨"", 5, 0⟩ ⟨"node-1", HostOS.permissive⟩ "vol-1"
        "/staging" "/mnt/target" false).run ((createdCatalog, ()), ())).1 = .ok () →
      ∃ vol, createdCatalog.volumes.lookup "vol-1" = some vol ∧
        (((nodePublishVolume ControlPlane.demo ⟨"", 5, 0⟩ ⟨"node-1", HostOS.permissive⟩ "vol-1"
          "/staging" "/mnt/target" false).run ((createdCatalog, ()), ())).2.1.1.volumes.lookup
            "vol-1" = some (vol.markPublished "" 5))) ∧
    ((nodePublishVolume ControlPlane.demo ⟨"", 5, 0⟩ ⟨"node-1", HostOS.permissive⟩ "vol-1"
        "/staging" "/mnt/target" false).run ((createdCatalog, ()), ())).1.toOption = some () ∧
    (((nodePublishVolume ControlPlane.demo ⟨"", 5, 0⟩ ⟨"node-1", HostOS.permissive⟩ "vol-1"
        "/staging" "/mnt/target" false).run ((createdCatalog, ()), ())).2.1.1.volumes.lookup
          "vol-1").map Volume.publishedOn = some [""] := by
  have hkeyed : MemoryStore.WellKeyed createdCatalog :=
    (Request.tidy_runAll _ _ [Request.createData] MemoryStore.tidy_empty ⟨trivial, trivial⟩).keyed
  exact ⟨by decide, hkeyed,
    (node_ids_recorded ⟨"", 5, 0⟩ ⟨"node-1", HostOS.permissive⟩ (by decide) _ _ _ "/staging"
      "/mnt/target" false createdCatalog hkeyed () ()).2, by decide, by decide⟩

end NodeServer

namespace ControllerServer

open NodeServer

variable {φ : Type} (reg : Storage.Registry φ) (files : FileRoutes (MemoryStore × φ))
  (render : Body → String) (env : RequestEnv)

/-- Deleting an ID that names no record, on the memory-store manager: `HandleDelete` answers
`404`, the client reports `volume not found`, and the controller counts that as success; nothing
changes. -/
theorem deleteVolume_absent {v : String} (hv : Url.IsPlainID v) (s : MemoryStore) (f : φ)
    (habsent : s.volumes.lookup v = none) :
    (deleteVolume (memoryPlane reg files render) env v).run (s, f) = (.ok (), (s, f)) := by
  have hv₀ : v ≠ "" := hv.1
  simp [deleteVolume, hv₀, VolumeManagerClient.deleteVolume,
    VolumeManagerClient.send_volume _ env hv.routable, ControlPlane.serve, ControlPlane.route,
    String.reduceEq, if_false, dispatch_delete_volume v hv.routable,
    param, Proc.run_bind, MemoryStore.run_handleDelete, habsent, errorResponse, ClientError.text]

/-- Deleting `vol-2` from the catalog that holds only `vol-1`. -/
theorem deleteVolume_absent_vol2 :
    Url.IsPlainID "vol-2" ∧ createdCatalog.volumes.lookup "vol-2" = none ∧
    (deleteVolume ControlPlane.demo ⟨"", 0, 0⟩ "vol-2").run (createdCatalog, ()) =
      (.ok (), (createdCatalog, ())) :=
  ⟨by decide, by decide, deleteVolume_absent _ _ _ _ (by decide) _ _ (by decide)⟩

/-- Two `DeleteVolume` calls for `vol-1` on the manager holding it, unpublished, interleaved so that
both read the record before either deletes it: the first succeeds, the second's `HandleDelete`
finds nothing left to delete and answers `500`, which the controller reports as `Internal`. And a
delete of `vol-1?x`, an ID no record has, succeeds by deleting `vol-1`: the client's URL cuts the
query off before the server routes it. -/
theorem deletes_misreported :
    ((⟨(createdCatalog, ()),
        [deleteVolume ControlPlane.demo ⟨"", 0, 0⟩ "vol-1",
         deleteVolume ControlPlane.demo ⟨"", 0, 0⟩ "vol-1"]⟩ :
        Config (MemoryStore × Unit) (Except GrpcStatus Unit)).exec [0, 1, 0, 1]).reqs =
      [.done (.ok ()), .done (.error ⟨.internal, "failed to delete volume: unexpected status 500: "⟩)] ∧
    (((⟨(createdCatalog, ()),
        [deleteVolume ControlPlane.demo ⟨"", 0, 0⟩ "vol-1",
         deleteVolume ControlPlane.demo ⟨"", 0, 0⟩ "vol-1"]⟩ :
        Config (MemoryStore × Unit) (Except GrpcStatus Unit)).exec [0, 1, 0, 1]).shared.1.volumes.lookup
        "vol-1").isNone ∧
    (createdCatalog.volumes.lookup "vol-1?x").isNone ∧
    ((createdCatalog.volumes.lookup "vol-1").map Volume.publishedOn) = some [] ∧
    ((deleteVolume ControlPlane.demo ⟨"", 0, 0⟩ "vol-1?x").run (createdCatalog, ())).1.toOption =
      some () ∧
    (((deleteVolume ControlPlane.demo ⟨"", 0, 0⟩ "vol-1?x").run (createdCatalog, ())).2.1.volumes.lookup
      "vol-1").isNone := by
  refine ⟨rfl, ?_, ?_, ?_, ?_, ?_⟩ <;> decide

/-! ## A retried create -/

/-- A retried `CreateVolume` fails. On the memory-store manager, with any registry, from any state:
once `CreateVolume(n, p)` has succeeded, the same call again, whatever ID and times its request
gets, finds the name taken; `HandleCreate` answers `409` `already_exists` and the controller
reports `Internal`, not the volume it created. -/
theorem create_retry_fails (name : String) (parameters : StrMap String) (env env' : RequestEnv)
    (s : MemoryStore) (f : φ) {id : String} {context : StrMap String}
    (hfirst : ((createVolume (memoryPlane reg files render) env name parameters).run (s, f)).1 =
      .ok (id, context)) :
    ((createVolume (memoryPlane reg files render) env' name parameters).run
        ((createVolume (memoryPlane reg files render) env name parameters).run (s, f)).2).1 =
      .error ⟨.internal, "failed to create volume: unexpected status 409: " ++
        render (.error ⟨"already_exists", "Volume with this name already exists"⟩)⟩ := by
  have hn : name ≠ "" := by
    rintro rfl
    simp [createVolume] at hfirst
  simp only [createVolume_eq _ _ hn] at hfirst ⊢
  generalize [("backend", JsonValue.str (if (parameters.lookup "backend").getD "" = "" then "local"
      else (parameters.lookup "backend").getD "")), ("name", .str name),
      ("parameters", .strMap parameters)] = body at hfirst ⊢
  simp only [Proc.run_bind, MemoryStore.run_handleCreate, Proc.pure_eq, Proc.run_done] at hfirst ⊢
  cases hv : VolumeHandler.newVolume reg body env with
  | error r =>
    have h201 := VolumeHandler.newVolume_error_status reg hv
    simp [hv, createResult, h201] at hfirst
  | ok v =>
    have hok : (s.createVolume v).1 = .ok () := by
      rcases hx : (s.createVolume v).1 with (_ | _ | _) | ⟨⟩ <;>
        simp [hv, hx, createResult, VolumeHandler.createdResponse] at hfirst ⊢
    have htaken : ((s.createVolume v).2).createVolume
        { v with id := env'.uuid, createdAt := env'.now, updatedAt := env'.now₂ } =
          (.error .alreadyExists, (s.createVolume v).2) :=
      MemoryStore.createVolume_of_mem_names (MemoryStore.mem_names_createVolume hok)
    have h409 : toString 409 = "409" := rfl
    simp only [hv, VolumeHandler.newVolume_env reg hv env', htaken, VolumeHandler.createdResponse,
      createResult, errorResponse_status, VolumeManagerClient.unexpected, ClientError.text]
    rw [if_pos (by decide), h409]
    simp only [← String.append_assoc, errorResponse]
    rfl

/-- `data` on the local backend at `/srv/data`, created as `vol-1` on the empty manager and then
requested again as `vol-2`. -/
theorem create_retry_fails_data :
    ((createVolume (memoryPlane (Storage.defaultRegistry HostOS.permissive) FileRoutes.unavailable
        fun _ => "") ⟨"vol-1", 0, 0⟩ "data" ((∅ : StrMap String).insert "path" "/srv/data")).run
        (MemoryStore.empty, ())).1 = .ok ("vol-1", (∅ : StrMap String).insert "path" "/srv/data") ∧
    ((createVolume (memoryPlane (Storage.defaultRegistry HostOS.permissive) FileRoutes.unavailable
        fun _ => "") ⟨"vol-2", 1, 1⟩ "data" ((∅ : StrMap String).insert "path" "/srv/data")).run
      ((createVolume (memoryPlane (Storage.defaultRegistry HostOS.permissive) FileRoutes.unavailable
        fun _ => "") ⟨"vol-1", 0, 0⟩ "data" ((∅ : StrMap String).insert "path" "/srv/data")).run
        (MemoryStore.empty, ())).2).1 =
      .error ⟨.internal, "failed to create volume: unexpected status 409: " ++ ""⟩ :=
  ⟨rfl, create_retry_fails _ _ _ "data" _ _ _ _ _ rfl⟩

end ControllerServer

/-! ## The codes the bridge reports -/

/-- The parameters of a create on the backend `nfs`, which the manager does not have. -/
def nfsParams : StrMap String := (∅ : StrMap String).insert "backend" "nfs"

/-- The codes against the control plane's verdicts, in every state of the memory-store manager.
A create on a backend the manager does not have is refused by `HandleCreate` as `400`
`invalid_backend`, and `CreateVolume` reports `Internal`. A `ValidateVolumeCapabilities` whose
request cannot even be built (an ID with a malformed escape) reports `NotFound`. A stage of a volume
the catalog does not hold is answered `404` by `HandleStage`, and `NodeStageVolume` reports
`Internal`. -/
theorem bridge_codes_misreported (env : RequestEnv) (w : MemoryStore × Unit) :
    ((VolumeHandler.handleCreate MemoryStore.store ControlPlane.demo.registry
        [("backend", .str "nfs"), ("name", .str "data"), ("parameters", .strMap nfsParams)] env).run
        w).1 = errorResponse 400 "invalid_backend" "Backend not found: nfs" ∧
    ((ControllerServer.createVolume ControlPlane.demo env "data" nfsParams).run w).1 =
      .error ⟨.internal, "failed to create volume: unexpected status 400: "⟩ ∧
    ((ControllerServer.validateVolumeCapabilities ControlPlane.demo env "x%zz" ([] : List Unit)
        ∅).run w).1 =
      .error ⟨.notFound, "volume not found: failed to create request: invalid URL escape"⟩ ∧
    ((VolumeHandler.handleStage MemoryStore.store ControlPlane.demo.registry "vol-1"
        [("node_id", .str "node-1"), ("staging_path", .str "/staging")] env).run
        (MemoryStore.empty, ())).1 = errorResponse 404 "not_found" "Volume not found" ∧
    ((NodeServer.nodeStageVolume ControlPlane.demo env ⟨"node-1", HostOS.permissive⟩ "vol-1"
        "/staging").run ((MemoryStore.empty, ()), ())).1 =
      .error ⟨.internal, "failed to stage volume: unexpected status 404: "⟩ :=
  ⟨rfl, rfl, rfl, rfl, rfl⟩

end VolumeManager
