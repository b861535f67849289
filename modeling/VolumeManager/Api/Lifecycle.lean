import VolumeManager.Api.Manager

/-!
# Requests one at a time on the memory store

`Request` is a call of one of the four volume handlers that change the catalog, and
`Request.runAll` serves a sequence of them one after another on the world `MemoryStore × φ`. The
spec lemmas `run_handleCreate`, `run_handleNodeRequest` and `run_handleDelete` give each handler's
run on the memory store; nothing else unfolds a handler.

* `WellKeyed`: every record is stored under its own ID; every request keeps it.
* `nodes_nodup_of_fresh`: along every sequence of requests in which each stage (publish) names a
  node its record does not list yet, no record ever lists a node twice in `StagedOn` or
  `PublishedOn`.
* `restage_duplicates_node`: the freshness condition is needed: staging a volume twice on one node
  succeeds twice and lists the node twice.
* `handlePublish_unstaged`: a publish never looks at `StagedOn`; from any state it lists its node
  in `PublishedOn` whether or not the record is staged there. `publish_before_stage`: a create and
  then a publish from `node-1`, with no stage, leave `node-1` published and not staged.
-/

namespace VolumeManager

/-- A request to a volume handler that changes the catalog. -/
inductive Request where
  | create (body : JsonObject) (env : RequestEnv)
  | stage (id : String) (body : JsonObject) (env : RequestEnv)
  | publish (id : String) (body : JsonObject) (env : RequestEnv)
  | delete (id : String)

namespace Request

variable {σ φ : Type} (st : Store σ) (reg : Storage.Registry φ)

/-- The handler that serves a request. -/
def handler : Request → Proc (σ × φ) Response
  | create body env => VolumeHandler.handleCreate st reg body env
  | stage id body env => VolumeHandler.handleStage st reg id body env
  | publish id body env => VolumeHandler.handlePublish st reg id body env
  | delete id => VolumeHandler.handleDelete st id

/-- Serve requests one at a time: the responses, and the world reached. -/
def runAll (w : σ × φ) : List Request → List Response × (σ × φ)
  | [] => ([], w)
  | r :: rs =>
    let x := (r.handler st reg).run w
    let y := runAll x.2 rs
    (x.1 :: y.1, y.2)

end Request

namespace MemoryStore

variable {φ : Type} (reg : Storage.Registry φ)

/-! ## The handlers on the memory store -/

/-- Equation lemma: the memory store's CreateVolume as a request. -/
@[simp] theorem run_store_createVolume (v : Volume) (s : MemoryStore) :
    (store.createVolume v).run s = s.createVolume v := rfl

/-- Equation lemma: the memory store's GetVolume as a request reads without a change. -/
@[simp] theorem run_store_getVolume (id : String) (s : MemoryStore) :
    (store.getVolume id).run s = (s.getVolume id, s) := rfl

/-- Equation lemma: the memory store's UpdateVolume as a request. -/
@[simp] theorem run_store_updateVolume (v : Volume) (s : MemoryStore) :
    (store.updateVolume v).run s = s.updateVolume v := rfl

/-- Equation lemma: the memory store's DeleteVolume as a request. -/
@[simp] theorem run_store_deleteVolume (id : String) (s : MemoryStore) :
    (store.deleteVolume id).run s = s.deleteVolume id := rfl

/-- HandleCreate on the memory store: the request's error response, or the answer to the create of the
new record and the store it leaves. -/
theorem run_handleCreate (body : JsonObject) (env : RequestEnv) (w : MemoryStore × φ) :
    (VolumeHandler.handleCreate store reg body env).run w =
      match VolumeHandler.newVolume reg body env with
      | .error r => (r, w)
      | .ok v =>
        (VolumeHandler.createdResponse v (w.1.createVolume v).1, ((w.1.createVolume v).2, w.2)) := by
  rw [VolumeHandler.handleCreate_eq]
  cases VolumeHandler.newVolume reg body env <;> simp [Proc.run_bind]

/-- The shared body of HandleStage and HandlePublish on the memory store, one outcome per branch of the
source: no record, no backend, a failed backend call, or the record written back marked. -/
theorem run_handleNodeRequest (id : String) (req : VolumeHandler.NodeRequest φ) (failure : String)
    (mark : Volume → String → Int → Volume) (env : RequestEnv) (w : MemoryStore × φ) :
    (VolumeHandler.handleNodeRequest store reg id (.ok req) failure mark env).run w =
      match w.1.volumes.lookup id with
      | none => (errorResponse 404 "not_found" "Volume not found", w)
      | some vol =>
        match Storage.getBackend reg vol.backend with
        | .error _ => (errorResponse 500 "internal_error" "Failed to get backend", w)
        | .ok backend =>
          match (req.call backend vol).run w.2 with
          | (.error msg, f) => (errorResponse 500 failure msg, (w.1, f))
          | (.ok (), f) =>
            (⟨200, .volume (mark vol req.nodeID env.now)⟩,
              ((w.1.updateVolume (mark vol req.nodeID env.now)).2, f)) := by
  simp only [VolumeHandler.handleNodeRequest, Proc.bind_eq, Proc.run_bind, Proc.run_onFst,
    run_store_getVolume, getVolume]
  cases w.1.volumes.lookup id with
  | none => rfl
  | some vol =>
    simp only
    cases Storage.getBackend reg vol.backend with
    | error => rfl
    | ok backend =>
      simp only [Proc.run_bind, Proc.run_onSnd]
      rcases (req.call backend vol).run w.2 with ⟨_ | ⟨⟩, f⟩ <;> simp [Proc.run_bind]

/-- HandleDelete on the memory store: 404 without a record, 409 while it is published, otherwise the
record is deleted. -/
theorem run_handleDelete (id : String) (w : MemoryStore × φ) :
    (VolumeHandler.handleDelete store id).run w =
      match w.1.volumes.lookup id with
      | none => (errorResponse 404 "not_found" "Volume not found", w)
      | some vol =>
        if vol.publishedOn ≠ [] then
          (errorResponse 409 "volume_in_use" "Volume is still published, unpublish first", w)
        else (⟨200, .success "Volume deleted successfully"⟩, ((w.1.deleteVolume id).2, w.2)) := by
  simp only [VolumeHandler.handleDelete, Proc.bind_eq, Proc.run_bind, Proc.run_onFst,
    run_store_getVolume, getVolume]
  cases hv : w.1.volumes.lookup id with
  | none => rfl
  | some vol =>
    simp only
    split_ifs <;> simp [Proc.run_bind, deleteVolume, hv]

/-- A stage or publish that answers `200` wrote back the record it read, marked with its node. -/
theorem handleNodeRequest_ok (id : String) (req : VolumeHandler.NodeRequest φ) (failure : String)
    (mark : Volume → String → Int → Volume) (env : RequestEnv) (w : MemoryStore × φ)
    (h : ((VolumeHandler.handleNodeRequest store reg id (.ok req) failure mark env).run w).1.status
      = 200) :
    ∃ vol, w.1.volumes.lookup id = some vol ∧
      ((VolumeHandler.handleNodeRequest store reg id (.ok req) failure mark env).run w).2.1 =
        (w.1.updateVolume (mark vol req.nodeID env.now)).2 := by
  rw [run_handleNodeRequest] at h ⊢
  cases hvol : w.1.volumes.lookup id with
  | none => simp [hvol, errorResponse] at h
  | some vol =>
    simp only [hvol] at h ⊢
    cases hb : Storage.getBackend reg vol.backend with
    | error => simp [hb, errorResponse] at h
    | ok backend =>
      simp only [hb] at h ⊢
      rcases hc : (req.call backend vol).run w.2 with ⟨_ | ⟨⟩, f⟩
      · simp [hc, errorResponse] at h
      · exact ⟨vol, rfl, by simp [hc]⟩

/-! ## Records stay under their own ID -/

/-- Every record is stored under its own ID. -/
def WellKeyed (s : MemoryStore) : Prop := ∀ id v, s.volumes.lookup id = some v → v.id = id

/-- The empty memory store is well keyed. -/
theorem wellKeyed_empty : WellKeyed empty := by
  intro id v h
  simp [empty] at h

variable {s : MemoryStore}

/-- Inserting a record under its own ID keeps the store well keyed. -/
theorem WellKeyed.insert (hs : WellKeyed s) (v : Volume) :
    WellKeyed ⟨s.volumes.insert v.id v, s.names⟩ := by
  intro id w h
  by_cases hid : id = v.id
  · subst hid
    simp only [Finmap.lookup_insert, Option.some.injEq] at h
    rw [← h]
  · rw [Finmap.lookup_insert_of_ne _ hid] at h
    exact hs id w h

/-- Writing back a stored record under its own ID replaces it. -/
theorem WellKeyed.lookup_updateVolume (hs : WellKeyed s) {id : String} {vol v : Volume}
    (hvol : s.volumes.lookup id = some vol) (hid : v.id = vol.id) :
    (s.updateVolume v).2.volumes.lookup id = some v := by
  have hkey : v.id = id := hid.trans (hs id vol hvol)
  have hmem : v.id ∈ s.volumes := hkey ▸ Finmap.mem_of_lookup_eq_some hvol
  simp only [MemoryStore.updateVolume, if_pos hmem]
  rw [← hkey, Finmap.lookup_insert]

/-- Erasing an ID keeps the store well keyed, whatever the name index becomes. -/
theorem WellKeyed.erase (hs : WellKeyed s) (id : String) (names : StrMap String) :
    WellKeyed ⟨s.volumes.erase id, names⟩ := by
  intro i v h
  by_cases hi : i = id
  · subst hi
    simp at h
  · rw [Finmap.lookup_erase_ne hi] at h
    exact hs i v h

/-! ## Publishing needs no stage -/

/-- `HandlePublish` never reads `StagedOn`: from any state whose records sit under their own IDs,
a publish of a stored record whose backend call succeeds answers `200` and writes the record back
with the node appended to `PublishedOn` and `StagedOn` as it was. -/
theorem handlePublish_unstaged (id : String) (body : JsonObject) (env : RequestEnv)
    (w : MemoryStore × φ) (hs : WellKeyed w.1) {vol : Volume} (hvol : w.1.volumes.lookup id = some vol)
    {req : PublishVolumeRequest} (hb : bindPublishVolumeRequest body = .ok req)
    {backend : Storage.Backend φ} (hback : Storage.getBackend reg vol.backend = .ok backend) {f : φ}
    (hcall : (backend.publish vol "" req.targetPath req.readOnly).run w.2 = (.ok (), f)) :
    ((VolumeHandler.handlePublish store reg id body env).run w).1.status = 200 ∧
    ((VolumeHandler.handlePublish store reg id body env).run w).2.1.volumes.lookup id =
      some (vol.markPublished req.nodeID env.now) := by
  simp only [VolumeHandler.handlePublish, hb, Except.map, run_handleNodeRequest, hvol, hback, hcall]
  exact ⟨trivial, hs.lookup_updateVolume hvol rfl⟩

/-! ## No node twice -/

/-- No record lists a node twice in `StagedOn` or in `PublishedOn`. -/
def NodesNodup (s : MemoryStore) : Prop :=
  ∀ id v, s.volumes.lookup id = some v → v.stagedOn.Nodup ∧ v.publishedOn.Nodup

/-- The invariant of a run: records under their own IDs, no node listed twice. -/
structure Tidy (s : MemoryStore) : Prop where
  keyed : WellKeyed s
  nodup : NodesNodup s

/-- The empty memory store is tidy. -/
theorem tidy_empty : Tidy empty := ⟨wellKeyed_empty, fun id v h => by simp [empty] at h⟩

/-- Creating a record that lists no node keeps the invariant. -/
theorem Tidy.createVolume (hs : Tidy s) {v : Volume} (hv : v.stagedOn = [] ∧ v.publishedOn = []) :
    Tidy (s.createVolume v).2 := by
  unfold MemoryStore.createVolume
  split_ifs
  · exact hs
  · exact hs
  · refine ⟨hs.keyed.insert v, fun id w h => ?_⟩
    by_cases hid : id = v.id
    · subst hid
      simp only [Finmap.lookup_insert, Option.some.injEq] at h
      subst h
      simp [hv.1, hv.2]
    · rw [Finmap.lookup_insert_of_ne _ hid] at h
      exact hs.nodup id w h

/-- Writing back a stored record, its lists still without repeats, keeps the invariant. -/
theorem Tidy.updateVolume (hs : Tidy s) {id : String} {vol v : Volume}
    (hvol : s.volumes.lookup id = some vol) (hid : v.id = vol.id)
    (hv : v.stagedOn.Nodup ∧ v.publishedOn.Nodup) : Tidy (s.updateVolume v).2 := by
  have hkey : vol.id = id := hs.keyed id vol hvol
  have hmem : v.id ∈ s.volumes := by
    rw [hid, hkey]
    exact Finmap.mem_of_lookup_eq_some hvol
  simp only [MemoryStore.updateVolume, if_pos hmem]
  refine ⟨hs.keyed.insert v, fun i w h => ?_⟩
  by_cases hi : i = v.id
  · subst hi
    simp only [Finmap.lookup_insert, Option.some.injEq] at h
    exact h ▸ hv
  · rw [Finmap.lookup_insert_of_ne _ hi] at h
    exact hs.nodup i w h

/-- A delete keeps the store tidy. -/
theorem Tidy.deleteVolume (hs : Tidy s) (id : String) : Tidy (s.deleteVolume id).2 := by
  unfold MemoryStore.deleteVolume
  split
  · refine ⟨hs.keyed.erase id _, fun i w h => ?_⟩
    by_cases hi : i = id
    · subst hi
      simp at h
    · rw [Finmap.lookup_erase_ne hi] at h
      exact hs.nodup i w h
  · exact hs

end MemoryStore

namespace Request

open MemoryStore

variable {φ : Type} (reg : Storage.Registry φ)

/-- A stage (publish) request names a node its record does not list in `StagedOn`
(`PublishedOn`) yet. -/
def FreshNode (s : MemoryStore) : Request → Prop
  | stage id body _ => ∀ v req, s.volumes.lookup id = some v →
      bindStageVolumeRequest body = .ok req → req.nodeID ∉ v.stagedOn
  | publish id body _ => ∀ v req, s.volumes.lookup id = some v →
      bindPublishVolumeRequest body = .ok req → req.nodeID ∉ v.publishedOn
  | _ => True

/-- Each request of the sequence names a fresh node in the state it meets. -/
def FreshRun : MemoryStore × φ → List Request → Prop
  | _, [] => True
  | w, r :: rs => r.FreshNode w.1 ∧ FreshRun ((r.handler store reg).run w).2 rs

/-- What stage and publish do to the store: nothing, or the record read is written back marked. -/
theorem handleNodeRequest_store (id : String) (req : Except String (VolumeHandler.NodeRequest φ))
    (failure : String) (mark : Volume → String → Int → Volume) (env : RequestEnv)
    (w : MemoryStore × φ) :
    ((VolumeHandler.handleNodeRequest store reg id req failure mark env).run w).2.1 = w.1 ∨
      ∃ r vol, req = .ok r ∧ w.1.volumes.lookup id = some vol ∧
        ((VolumeHandler.handleNodeRequest store reg id req failure mark env).run w).2.1 =
          (w.1.updateVolume (mark vol r.nodeID env.now)).2 := by
  rcases req with e | r
  · exact .inl rfl
  rw [run_handleNodeRequest]
  cases hvol : w.1.volumes.lookup id with
  | none => exact .inl rfl
  | some vol =>
    simp only
    cases Storage.getBackend reg vol.backend with
    | error => exact .inl rfl
    | ok backend =>
      simp only
      rcases (r.call backend vol).run w.2 with ⟨_ | ⟨⟩, f⟩
      · exact .inl rfl
      · exact .inr ⟨r, vol, rfl, rfl, rfl⟩

/-- A stage or publish keeps the invariant when the copy it would write back of the stored record
lists no node twice. -/
theorem tidy_handleNodeRequest (id : String) (req : Except String (VolumeHandler.NodeRequest φ))
    (failure : String) (mark : Volume → String → Int → Volume) (env : RequestEnv)
    (w : MemoryStore × φ) (hs : Tidy w.1) (hid : ∀ vol n t, (mark vol n t).id = vol.id)
    (hmark : ∀ r vol, req = .ok r → w.1.volumes.lookup id = some vol →
      (mark vol r.nodeID env.now).stagedOn.Nodup ∧ (mark vol r.nodeID env.now).publishedOn.Nodup) :
    Tidy ((VolumeHandler.handleNodeRequest store reg id req failure mark env).run w).2.1 := by
  rcases handleNodeRequest_store reg id req failure mark env w with h | ⟨r, vol, hr, hvol, h⟩
  · exact h ▸ hs
  · rw [h]
    exact hs.updateVolume hvol (hid ..) (hmark r vol hr hvol)

/-- One request keeps the invariant when it names a fresh node. -/
theorem tidy_handler (r : Request) (w : MemoryStore × φ) (hs : Tidy w.1) (hr : r.FreshNode w.1) :
    Tidy ((r.handler store reg).run w).2.1 := by
  cases r with
  | create body env =>
    simp only [handler, run_handleCreate]
    cases hv : VolumeHandler.newVolume reg body env with
    | error => exact hs
    | ok v => exact hs.createVolume (VolumeHandler.newVolume_nodes reg hv).2
  | stage id body env =>
    simp only [handler, VolumeHandler.handleStage]
    refine tidy_handleNodeRequest reg id _ _ _ env w hs (fun _ _ _ => rfl) fun r vol hb hvol => ?_
    cases hreq : bindStageVolumeRequest body with
    | error => simp [hreq, Except.map] at hb
    | ok req =>
      simp only [hreq, Except.map, Except.ok.injEq] at hb
      subst hb
      have hn := hs.nodup id vol hvol
      exact ⟨List.nodup_append.2 ⟨hn.1, List.nodup_singleton _, by simpa using hr vol req hvol hreq⟩, hn.2⟩
  | publish id body env =>
    simp only [handler, VolumeHandler.handlePublish]
    refine tidy_handleNodeRequest reg id _ _ _ env w hs (fun _ _ _ => rfl) fun r vol hb hvol => ?_
    cases hreq : bindPublishVolumeRequest body with
    | error => simp [hreq, Except.map] at hb
    | ok req =>
      simp only [hreq, Except.map, Except.ok.injEq] at hb
      subst hb
      have hn := hs.nodup id vol hvol
      exact ⟨hn.1, List.nodup_append.2 ⟨hn.2, List.nodup_singleton _, by simpa using hr vol req hvol hreq⟩⟩
  | delete id =>
    simp only [handler, run_handleDelete]
    cases w.1.volumes.lookup id with
    | none => exact hs
    | some vol =>
      simp only
      split_ifs
      · exact hs
      · exact hs.deleteVolume id

/-- Every run of requests that stages and publishes only on fresh nodes keeps the store tidy. -/
theorem tidy_runAll (w : MemoryStore × φ) (reqs : List Request) (hs : Tidy w.1)
    (h : FreshRun reg w reqs) : Tidy (runAll store reg w reqs).2.1 := by
  induction reqs generalizing w with
  | nil => exact hs
  | cons r rs ih => exact ih _ (tidy_handler reg r w hs h.1) h.2

/-- From the empty store, along every sequence of create, stage, publish and delete requests in
which no stage (publish) names a node its record already lists, with any backends and any host,
no record lists a node twice. -/
theorem nodes_nodup_of_fresh (f : φ) (reqs : List Request)
    (h : FreshRun reg (MemoryStore.empty, f) reqs) :
    NodesNodup (runAll store reg (MemoryStore.empty, f) reqs).2.1 :=
  (tidy_runAll reg _ reqs tidy_empty h).nodup

/-- The body creating a volume named `data` on the local backend at `/srv/data`. -/
def dataBody : JsonObject :=
  [("name", .str "data"), ("backend", .str "local"),
    ("parameters", .strMap ((∅ : StrMap String).insert "path" "/srv/data"))]

/-- Creating volume `vol-1`, named `data`, on the local backend. -/
def createData : Request := .create dataBody ⟨"vol-1", 0, 0⟩

/-- Staging `vol-1` on `node-1` at time `t`. -/
def stageOnNode1 (t : Int) : Request :=
  .stage "vol-1" [("node_id", .str "node-1"), ("staging_path", .str "/staging")] ⟨"", t, 0⟩

/-- Creating vol-1 and staging it on node-1 is a fresh run from the empty store, after which no record
lists a node twice. -/
theorem nodes_nodup_of_fresh_create_stage :
    FreshRun (Storage.defaultRegistry HostOS.permissive) (MemoryStore.empty, ())
      [createData, stageOnNode1 1] ∧
    NodesNodup (runAll store (Storage.defaultRegistry HostOS.permissive) (MemoryStore.empty, ())
      [createData, stageOnNode1 1]).2.1 := by
  have h : FreshRun (Storage.defaultRegistry HostOS.permissive) (MemoryStore.empty, ())
      [createData, stageOnNode1 1] := by
    refine ⟨trivial, fun v req hv _ => ?_, trivial⟩
    have hcreated : (Finmap.lookup "vol-1" (((createData.handler store
        (Storage.defaultRegistry HostOS.permissive)).run (MemoryStore.empty, ())).2.1.volumes)).map
        Volume.stagedOn = some [] := by decide
    simp_all [createData]
  exact ⟨h, nodes_nodup_of_fresh _ () _ h⟩

/-- Publishing `vol-1` from `node-1` at `/mnt/target` at time `t`. -/
def publishOnNode1 (t : Int) : Request :=
  .publish "vol-1" [("node_id", .str "node-1"), ("target_path", .str "/mnt/target")] ⟨"", t, 0⟩

/-- A publish straight after the create, with no stage: both succeed, and the record lists
`node-1` in `PublishedOn` while `StagedOn` stays empty. -/
theorem publish_before_stage :
    (runAll store (Storage.defaultRegistry HostOS.permissive) (MemoryStore.empty, ())
        [createData, publishOnNode1 1]).1.map Response.status = [201, 200] ∧
    ((runAll store (Storage.defaultRegistry HostOS.permissive) (MemoryStore.empty, ())
        [createData, publishOnNode1 1]).2.1.volumes.lookup "vol-1").map
      (fun v => (v.publishedOn, v.stagedOn)) = some (["node-1"], []) := by
  decide

/-- Staging `vol-1` on `node-1` a second time succeeds again and lists `node-1` twice. -/
theorem restage_duplicates_node :
    (runAll store (Storage.defaultRegistry HostOS.permissive) (MemoryStore.empty, ())
        [createData, stageOnNode1 1, stageOnNode1 2]).1.map Response.status = [201, 200, 200] ∧
    ((runAll store (Storage.defaultRegistry HostOS.permissive) (MemoryStore.empty, ())
        [createData, stageOnNode1 1, stageOnNode1 2]).2.1.volumes.lookup "vol-1").map
      Volume.stagedOn = some ["node-1", "node-1"] := by
  decide

end Request

end VolumeManager
