import VolumeManager.Store.Basic
import VolumeManager.Storage.Backend

/-!
# The volume handlers (`handlers.VolumeHandler`)

Each handler is a request on the world `σ × φ`: the metadata store's state beside the host file
system. Store calls run on the first half (`Proc.onFst`), backend calls on the second
(`Proc.onSnd`), and everything between them is local computation, as in the Go code. What
`uuid.New()` and `time.Now()` return is an argument (`RequestEnv`).

The Go handlers write the response with `c.JSON(status, value)`; here they return it as a
`Response`, its body the value passed to `c.JSON`.

* `found_after_handleCreate`, `gone_after_handleDelete`: on a store that keeps `Store.Laws`, a
  created record is then answered by `HandleGet`, and after a delete `HandleGet` and the same
  delete answer `404`.
* `listed_after_handleCreate`: on such a store, a create under an ID `HandleGet` answered `404`
  for adds its record to what `HandleList` answers.
-/

namespace VolumeManager

/-- `handlers.FileInfo`, without `Size`, `Mode` and `ModTime`: sizes of directories, permissions
and times are not modelled. -/
structure FileInfo where
  name : String
  path : String
  isDir : Bool
  deriving DecidableEq

/-- `handlers.ReadFileResponse`. -/
structure ReadFileResponse where
  path : String
  size : Nat
  contentType : String
  content : String
  isText : Bool
  deriving DecidableEq

/-- The value a handler passes to `c.JSON`, or no body at all (`c.NoContent`). -/
inductive Body where
  | volume (v : Volume)
  | error (e : ErrorResponse)
  | success (message : String)
  | volumes (vs : Multiset Volume) (count : Nat)
  | backends (bs : Multiset BackendInfo) (count : Nat)
  | fields (members : List (String × String))
  | fileList (path : String) (files : List FileInfo) (count : Nat)
  | fileContent (r : ReadFileResponse)
  | fileInfo (f : FileInfo)
  | noContent

/-- An HTTP response: the status and the body. -/
structure Response where
  status : Nat
  body : Body

/-- A response carrying a `types.ErrorResponse`. -/
def errorResponse (status : Nat) (error message : String) : Response :=
  ⟨status, .error ⟨error, message⟩⟩

/-- Equation lemma: an error response has the status it is given. -/
@[simp] theorem errorResponse_status (status : Nat) (error message : String) :
    (errorResponse status error message).status = status := rfl

/-- What the handler's calls of `uuid.New()` and `time.Now()` return. -/
structure RequestEnv where
  uuid : String
  now : Int
  now₂ : Int

/-- The record `HandleStage` writes back: staged, the node appended to `StagedOn`, the time
updated. -/
def Volume.markStaged (v : Volume) (nodeID : String) (now : Int) : Volume :=
  { v with status := .staged, stagedOn := v.stagedOn ++ [nodeID], updatedAt := now }

/-- The record `HandlePublish` writes back: published, the node appended to `PublishedOn`, the time
updated. -/
def Volume.markPublished (v : Volume) (nodeID : String) (now : Int) : Volume :=
  { v with status := .published, publishedOn := v.publishedOn ++ [nodeID], updatedAt := now }

/-- Staging appends the node to StagedOn. -/
@[simp] theorem Volume.markStaged_stagedOn (v : Volume) (n : String) (t : Int) :
    (v.markStaged n t).stagedOn = v.stagedOn ++ [n] := rfl

/-- Staging keeps PublishedOn. -/
@[simp] theorem Volume.markStaged_publishedOn (v : Volume) (n : String) (t : Int) :
    (v.markStaged n t).publishedOn = v.publishedOn := rfl

/-- Publishing keeps StagedOn. -/
@[simp] theorem Volume.markPublished_stagedOn (v : Volume) (n : String) (t : Int) :
    (v.markPublished n t).stagedOn = v.stagedOn := rfl

/-- Publishing appends the node to PublishedOn. -/
@[simp] theorem Volume.markPublished_publishedOn (v : Volume) (n : String) (t : Int) :
    (v.markPublished n t).publishedOn = v.publishedOn ++ [n] := rfl

/-- Staging keeps the ID. -/
@[simp] theorem Volume.markStaged_id (v : Volume) (n : String) (t : Int) :
    (v.markStaged n t).id = v.id := rfl

/-- Publishing keeps the ID. -/
@[simp] theorem Volume.markPublished_id (v : Volume) (n : String) (t : Int) :
    (v.markPublished n t).id = v.id := rfl

/-- Staging keeps the name. -/
@[simp] theorem Volume.markStaged_name (v : Volume) (n : String) (t : Int) :
    (v.markStaged n t).name = v.name := rfl

/-- Publishing keeps the name. -/
@[simp] theorem Volume.markPublished_name (v : Volume) (n : String) (t : Int) :
    (v.markPublished n t).name = v.name := rfl

/-- Staging keeps the backend. -/
@[simp] theorem Volume.markStaged_backend (v : Volume) (n : String) (t : Int) :
    (v.markStaged n t).backend = v.backend := rfl

/-- Publishing keeps the backend. -/
@[simp] theorem Volume.markPublished_backend (v : Volume) (n : String) (t : Int) :
    (v.markPublished n t).backend = v.backend := rfl

namespace VolumeHandler

variable {σ φ : Type} (st : Store σ) (reg : Storage.Registry φ)

/-- `VolumeHandler.HandleCreate` (`POST /api/v1/volumes`). -/
def handleCreate (body : JsonObject) (env : RequestEnv) : Proc (σ × φ) Response :=
  match bindCreateVolumeRequest body with
  | .error _ => pure (errorResponse 400 "invalid_request" "Invalid request body")
  | .ok req =>
    if req.name = "" then pure (errorResponse 400 "validation_error" "Volume name is required")
    else if req.backend = "" then pure (errorResponse 400 "validation_error" "Backend is required")
    else
      match Storage.getBackend reg req.backend with
      | .error (.notFound _) =>
        pure (errorResponse 400 "invalid_backend" ("Backend not found: " ++ req.backend))
      | .error (.factory _) => pure (errorResponse 500 "internal_error" "Failed to get backend")
      | .ok backend =>
        match backend.validate req.parameters with
        | .error msg => pure (errorResponse 400 "validation_error" msg)
        | .ok () => do
          let volume : Volume :=
            { id := env.uuid, name := req.name, backend := req.backend,
              parameters := req.parameters, status := .created, stagedOn := [], publishedOn := [],
              createdAt := env.now, updatedAt := env.now₂ }
          match ← (st.createVolume volume).onFst with
          | .ok () => pure ⟨201, .volume volume⟩
          | .error .alreadyExists =>
            pure (errorResponse 409 "already_exists" "Volume with this name already exists")
          | .error _ => pure (errorResponse 500 "internal_error" "Failed to create volume")

/-- The part of `HandleCreate` before the store is called: the record to create, or the response
that rejects the request. -/
def newVolume (body : JsonObject) (env : RequestEnv) : Except Response Volume :=
  match bindCreateVolumeRequest body with
  | .error _ => .error (errorResponse 400 "invalid_request" "Invalid request body")
  | .ok req =>
    if req.name = "" then .error (errorResponse 400 "validation_error" "Volume name is required")
    else if req.backend = "" then .error (errorResponse 400 "validation_error" "Backend is required")
    else
      match Storage.getBackend reg req.backend with
      | .error (.notFound _) =>
        .error (errorResponse 400 "invalid_backend" ("Backend not found: " ++ req.backend))
      | .error (.factory _) => .error (errorResponse 500 "internal_error" "Failed to get backend")
      | .ok backend =>
        match backend.validate req.parameters with
        | .error msg => .error (errorResponse 400 "validation_error" msg)
        | .ok () =>
          .ok { id := env.uuid, name := req.name, backend := req.backend,
                parameters := req.parameters, status := .created, stagedOn := [], publishedOn := [],
                createdAt := env.now, updatedAt := env.now₂ }

/-- What `HandleCreate` answers once the store's `CreateVolume` has returned. -/
def createdResponse (volume : Volume) : Except StoreError Unit → Response
  | .ok () => ⟨201, .volume volume⟩
  | .error .alreadyExists =>
    errorResponse 409 "already_exists" "Volume with this name already exists"
  | .error _ => errorResponse 500 "internal_error" "Failed to create volume"

/-- `HandleCreate` is its checks, then one `CreateVolume` call. -/
theorem handleCreate_eq (body : JsonObject) (env : RequestEnv) :
    handleCreate st reg body env =
      match newVolume reg body env with
      | .error r => pure r
      | .ok volume => (st.createVolume volume).onFst.bind fun r => pure (createdResponse volume r) := by
  unfold handleCreate newVolume
  split
  · rfl
  · split_ifs
    · rfl
    · rfl
    · split
      · rfl
      · rfl
      · split
        · rfl
        · simp only [Proc.bind_eq]
          congr 1
          funext r
          rcases r with (_ | _ | _) | _ <;> rfl

/-- A created record lists no node. -/
theorem newVolume_nodes {body : JsonObject} {env : RequestEnv} {volume : Volume}
    (h : newVolume reg body env = .ok volume) :
    volume.id = env.uuid ∧ volume.stagedOn = [] ∧ volume.publishedOn = [] := by
  unfold newVolume at h
  split at h
  · cases h
  · split_ifs at h
    split at h
    · cases h
    · cases h
    · split at h
      · cases h
      · cases h
        exact ⟨rfl, rfl, rfl⟩

/-- The checks read nothing of `uuid.New()` and `time.Now()`: with other values they accept the
same body, and the record differs only in its ID and times. -/
theorem newVolume_env {body : JsonObject} {env : RequestEnv} {volume : Volume}
    (h : newVolume reg body env = .ok volume) (env' : RequestEnv) :
    newVolume reg body env' =
      .ok { volume with id := env'.uuid, createdAt := env'.now, updatedAt := env'.now₂ } := by
  unfold newVolume at h ⊢
  cases hb : bindCreateVolumeRequest body with
  | error => simp only [hb] at h; cases h
  | ok req =>
    simp only [hb] at h ⊢
    split_ifs at h ⊢
    cases hg : Storage.getBackend reg req.backend with
    | error e => simp only [hg] at h; cases e <;> cases h
    | ok backend =>
      simp only [hg] at h ⊢
      cases hval : backend.validate req.parameters with
      | error => simp only [hval] at h; cases h
      | ok u =>
        simp only [hval] at h ⊢
        cases h
        rfl

/-- A rejected body is never answered `201`. -/
theorem newVolume_error_status {body : JsonObject} {env : RequestEnv} {r : Response}
    (h : newVolume reg body env = .error r) : r.status ≠ 201 := by
  unfold newVolume at h
  cases hb : bindCreateVolumeRequest body with
  | error => simp only [hb, Except.error.injEq] at h; simp [← h]
  | ok req =>
    simp only [hb] at h
    split_ifs at h
    · simp [← Except.error.inj h]
    · simp [← Except.error.inj h]
    cases hg : Storage.getBackend reg req.backend with
    | error e => simp only [hg] at h; cases e <;> simp [← Except.error.inj h]
    | ok backend =>
      simp only [hg] at h
      cases hval : backend.validate req.parameters with
      | error => simp only [hval] at h; simp [← Except.error.inj h]
      | ok u => simp only [hval] at h; cases h

/-- `VolumeHandler.HandleList` (`GET /api/v1/volumes`). -/
def handleList : Proc (σ × φ) Response := do
  match ← st.listVolumes.onFst with
  | .ok volumes => pure ⟨200, .volumes volumes (Multiset.card volumes)⟩
  | .error _ => pure (errorResponse 500 "internal_error" "Failed to list volumes")

/-- `VolumeHandler.HandleGet` (`GET /api/v1/volumes/:id`). -/
def handleGet (id : String) : Proc (σ × φ) Response := do
  match ← (st.getVolume id).onFst with
  | .ok volume => pure ⟨200, .volume volume⟩
  | .error .notFound => pure (errorResponse 404 "not_found" "Volume not found")
  | .error _ => pure (errorResponse 500 "internal_error" "Failed to get volume")

/-- `VolumeHandler.HandleDelete` (`DELETE /api/v1/volumes/:id`). -/
def handleDelete (id : String) : Proc (σ × φ) Response := do
  match ← (st.getVolume id).onFst with
  | .error .notFound => pure (errorResponse 404 "not_found" "Volume not found")
  | .error _ => pure (errorResponse 500 "internal_error" "Failed to get volume")
  | .ok volume =>
    if volume.publishedOn ≠ [] then
      pure (errorResponse 409 "volume_in_use" "Volume is still published, unpublish first")
    else
      match ← (st.deleteVolume id).onFst with
      | .error _ => pure (errorResponse 500 "internal_error" "Failed to delete volume")
      | .ok () => pure ⟨200, .success "Volume deleted successfully"⟩

/-- The request `HandleStage` and `HandlePublish` bind, reduced to what they use: the node that
asks, and the backend call to make on the record. -/
structure NodeRequest (φ : Type) where
  nodeID : String
  call : Storage.Backend φ → Volume → Proc φ (Except String Unit)

/-- What `HandleStage` and `HandlePublish` share: read the record, get its backend, make the
backend call, and write the record back marked with the node (`mark`); a failed call answers
`500` with the code `failure`, and the write-back's result is only logged. -/
def handleNodeRequest (id : String) (req : Except String (NodeRequest φ)) (failure : String)
    (mark : Volume → String → Int → Volume) (env : RequestEnv) : Proc (σ × φ) Response :=
  match req with
  | .error _ => pure (errorResponse 400 "invalid_request" "Invalid request body")
  | .ok req => do
    match ← (st.getVolume id).onFst with
    | .error .notFound => pure (errorResponse 404 "not_found" "Volume not found")
    | .error _ => pure (errorResponse 500 "internal_error" "Failed to get volume")
    | .ok volume =>
      match Storage.getBackend reg volume.backend with
      | .error _ => pure (errorResponse 500 "internal_error" "Failed to get backend")
      | .ok backend =>
        match ← (req.call backend volume).onSnd with
        | .error msg => pure (errorResponse 500 failure msg)
        | .ok () =>
          let volume' := mark volume req.nodeID env.now
          let _ ← (st.updateVolume volume').onFst
          pure ⟨200, .volume volume'⟩

/-- `VolumeHandler.HandleStage` (`POST /api/v1/volumes/:id/stage`): the backend stages at the
request's staging path. -/
def handleStage (id : String) (body : JsonObject) (env : RequestEnv) : Proc (σ × φ) Response :=
  handleNodeRequest st reg id
    ((bindStageVolumeRequest body).map fun req => ⟨req.nodeID, fun b v => b.stage v req.stagingPath⟩)
    "stage_failed" Volume.markStaged env

/-- `VolumeHandler.HandlePublish` (`POST /api/v1/volumes/:id/publish`): the backend publishes with
an empty staging path. -/
def handlePublish (id : String) (body : JsonObject) (env : RequestEnv) : Proc (σ × φ) Response :=
  handleNodeRequest st reg id
    ((bindPublishVolumeRequest body).map fun req =>
      ⟨req.nodeID, fun b v => b.publish v "" req.targetPath req.readOnly⟩)
    "publish_failed" Volume.markPublished env

/-! ## The host is left alone

The volume handlers other than stage and publish make store calls only: none touches the host file
system, not even a delete, which leaves the volume's files where they are. -/

/-- HandleCreate never touches the host. -/
theorem keepsSnd_handleCreate (body : JsonObject) (env : RequestEnv) :
    Proc.KeepsSnd (handleCreate st reg body env) := by
  rw [handleCreate_eq]
  split
  · exact Proc.keepsSnd_done _
  · exact (Proc.keepsSnd_onFst _).bind fun _ => Proc.keepsSnd_done _

/-- HandleList never touches the host. -/
theorem keepsSnd_handleList : Proc.KeepsSnd (handleList st (φ := φ)) :=
  (Proc.keepsSnd_onFst _).bind fun r => by cases r <;> exact Proc.keepsSnd_done _

/-- HandleGet never touches the host. -/
theorem keepsSnd_handleGet (id : String) : Proc.KeepsSnd (handleGet st id (φ := φ)) :=
  (Proc.keepsSnd_onFst _).bind fun r => by
    rcases r with (_ | _ | _) | _ <;> exact Proc.keepsSnd_done _

/-- HandleDelete never touches the host. -/
theorem keepsSnd_handleDelete (id : String) : Proc.KeepsSnd (handleDelete st id (φ := φ)) :=
  (Proc.keepsSnd_onFst _).bind fun r => by
    rcases r with (_ | _ | _) | v
    iterate 3 exact Proc.keepsSnd_done _
    dsimp only
    split
    · exact Proc.keepsSnd_done _
    · exact (Proc.keepsSnd_onFst _).bind fun r => by cases r <;> exact Proc.keepsSnd_done _

/-! ## Reading back what a request wrote -/

/-- A create answered `201` stored, through the store, the record it answers. -/
theorem run_handleCreate_created {body : JsonObject} {env : RequestEnv} {w : σ × φ}
    (h201 : ((handleCreate st reg body env).run w).1.status = 201) :
    ∃ v s', newVolume reg body env = .ok v ∧ (st.createVolume v).run w.1 = (.ok (), s') ∧
      (handleCreate st reg body env).run w = (⟨201, .volume v⟩, (s', w.2)) := by
  rw [handleCreate_eq] at h201 ⊢
  cases hv : newVolume reg body env with
  | error r =>
    simp only [hv, Proc.pure_eq, Proc.run_done] at h201
    exact absurd h201 (newVolume_error_status reg hv)
  | ok v =>
    simp only [hv, Proc.pure_eq, Proc.run_bind, Proc.run_onFst, Proc.run_done] at h201 ⊢
    rcases hc : (st.createVolume v).run w.1 with ⟨(_ | _ | _) | ⟨⟩, s'⟩
    all_goals simp [hc, createdResponse, errorResponse] at h201 ⊢

/-- A delete answered `200` read the record, then deleted it through the store. -/
theorem run_handleDelete_ok {id : String} {w : σ × φ} (h200 : ((handleDelete st id).run w).1.status = 200) :
    ∃ s', (st.deleteVolume id).run ((st.getVolume id).run w.1).2 = (.ok (), s') ∧
      (handleDelete st id).run w = (⟨200, .success "Volume deleted successfully"⟩, (s', w.2)) := by
  simp only [handleDelete, Proc.bind_eq, Proc.pure_eq, Proc.run_bind, Proc.run_onFst] at h200 ⊢
  rcases hg : (st.getVolume id).run w.1 with ⟨(_ | _ | _) | vol, s₁⟩
  iterate 3 · simp [hg, errorResponse] at h200
  simp only [hg] at h200 ⊢
  split_ifs at h200 ⊢
  · simp [errorResponse] at h200
  rcases hd : (st.deleteVolume id).run s₁ with ⟨_ | ⟨⟩, s'⟩
  all_goals simp [hd, Proc.run_bind, errorResponse] at h200 ⊢

/-- On a store that keeps the laws, once a create has been answered `201`, a get of the new ID
answers `200` with the record the create answered, and changes nothing. -/
theorem found_after_handleCreate (hst : st.Laws) {body : JsonObject} {env : RequestEnv} {w : σ × φ}
    (h201 : ((handleCreate st reg body env).run w).1.status = 201) :
    (handleGet st env.uuid).run ((handleCreate st reg body env).run w).2 =
      (⟨200, ((handleCreate st reg body env).run w).1.body⟩, ((handleCreate st reg body env).run w).2) := by
  obtain ⟨v, s', hv, hc, hrun⟩ := run_handleCreate_created st reg h201
  have hget : (st.getVolume env.uuid).run s' = (.ok v, s') := by
    rw [← (newVolume_nodes reg hv).1]
    exact Prod.ext (hst.create_get _ _ _ hc) (hst.get_keeps _ _)
  rw [hrun]
  simp [handleGet, Proc.run_bind, hget]

/-- On a store that keeps the laws, once a delete of a volume has been answered `200`, a get of it
answers `404`, and so does the same delete sent again; neither changes anything. -/
theorem gone_after_handleDelete (hst : st.Laws) {id : String} {w : σ × φ}
    (h200 : ((handleDelete st id).run w).1.status = 200) :
    (handleGet st id).run ((handleDelete st id).run w).2 =
        (errorResponse 404 "not_found" "Volume not found", ((handleDelete st id).run w).2) ∧
      (handleDelete st id).run ((handleDelete st id).run w).2 =
        (errorResponse 404 "not_found" "Volume not found", ((handleDelete st id).run w).2) := by
  obtain ⟨s', hdel, hrun⟩ := run_handleDelete_ok st h200
  have hget : (st.getVolume id).run s' = (.error .notFound, s') :=
    Prod.ext (hst.delete_get _ _ _ hdel) (hst.get_keeps _ _)
  rw [hrun]
  constructor <;> simp [handleGet, handleDelete, Proc.run_bind, hget]

/-- A get answers `404` only when the store has no record under the ID. -/
theorem notFound_of_handleGet {id : String} {w : σ × φ} (h404 : ((handleGet st id).run w).1.status = 404) :
    ((st.getVolume id).run w.1).1 = .error .notFound := by
  simp only [handleGet, Proc.bind_eq, Proc.run_bind, Proc.run_onFst] at h404
  rcases hg : (st.getVolume id).run w.1 with ⟨(_ | _ | _) | vol, s₁⟩ <;> simp [hg, errorResponse] at h404 ⊢

/-- On a store that keeps the laws, a create answered `201` under an ID a get had answered `404`
for adds its record to the listing, and the count by one. -/
theorem listed_after_handleCreate (hst : st.Laws) {body : JsonObject} {env : RequestEnv} {w w' : σ × φ}
    {v : Volume} {vs : Multiset Volume} {n : Nat} (hfresh : ((handleGet st env.uuid).run w).1.status = 404)
    (hc : (handleCreate st reg body env).run w = (⟨201, .volume v⟩, w'))
    (hlist : ((handleList st).run w).1 = ⟨200, .volumes vs n⟩) :
    (handleList st).run w' = (⟨200, .volumes (v ::ₘ vs) (n + 1)⟩, w') := by
  obtain ⟨v', s', hv, hcr, hrun⟩ := run_handleCreate_created st reg (by rw [hc])
  rw [hrun] at hc
  cases hc
  have hold : (st.listVolumes.run w.1).1 = .ok vs ∧ Multiset.card vs = n := by
    simp only [handleList, Proc.bind_eq, Proc.run_bind, Proc.run_onFst] at hlist
    rcases hl : st.listVolumes.run w.1 with ⟨_ | vs', s₁⟩ <;> simp [hl, errorResponse] at hlist ⊢
    exact hlist.1 ▸ hlist
  have hnew := hst.create_list v _ _ ((newVolume_nodes reg hv).1 ▸ notFound_of_handleGet st hfresh) hcr
  rw [hold.1] at hnew
  simp [handleList, Proc.run_bind, hnew, Except.map, hst.list_keeps, ← hold.2]

end VolumeHandler

/-- `HealthHandler.HandleHealth` (`GET /health`). -/
def handleHealth {W : Type} : Proc W Response :=
  pure ⟨200, .fields [("status", "healthy"), ("service", "volume-manager")]⟩

/-- `HealthHandler.HandleReady` (`GET /ready`). -/
def handleReady {W : Type} : Proc W Response := pure ⟨200, .fields [("status", "ready")]⟩

/-- `BackendHandler.HandleList` (`GET /api/v1/backends`). -/
def handleListBackends {W φ : Type} (reg : Storage.Registry φ) : Proc W Response :=
  let backends := Storage.listBackends reg
  pure ⟨200, .backends backends (Multiset.card backends)⟩

end VolumeManager
