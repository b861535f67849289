import VolumeManager.Api.Lifecycle
import VolumeManager.Store.Etcd

/-!
# Stages and publishes kept across interleavings

On the etcd store a handler is several atomic steps: each client `Get`, `Put` and `Txn` is one,
and so is each host call of the backend. `HandleStage` and `HandlePublish` are a read-modify-write of
one record: `GetVolume` reads it, the backend makes its host calls, and `UpdateVolume` writes the
marked copy back (an existence `Get`, `json.Marshal`, then a `Put`). Nothing orders these steps
across requests.

* `stage_lost_update`: two stages that both read the record before either writes it back both
  answer `200`, and the second write-back drops the first node.
* `delete_publish_race`: a delete that read the record before a publish wrote it back deletes the
  published record; both requests answer `200`.

What does hold is that a node is lost only that way: if no request writes back while another holds
a copy it read, every request that has answered `200` has its node in the stored record. The
requests are named by program points (`Point`): before the read, inside the backend call, at the
existence check, at the `Put`, and finished. `machine` is the point machine; `Points.exec_toConfig`
carries what is proved on it to the handlers themselves.

* `Point.move_cases`: what one step of a request can do to the keyspace and to the copy it holds.
* `Inv.stepAt`: the invariant (records stay under their own ID, a held copy is the stored record, a
  request about to `Put` holds the text of its marked copy, an acknowledged node is in the stored
  record) is kept by every step that is not a stale write-back.
* `acknowledged_nodes_kept`: over every schedule with no stale write-back, from any keyspace whose
  record for the volume sits under its ID, with a codec that writes every record and reads it back,
  every stage or publish that has answered `200` has its node in the record's `StagedOn` or
  `PublishedOn`. A write-back that `json.Marshal` refused still answers `200`: the handler only logs
  `UpdateVolume`'s error.
* `handleStage_eq`, `handlePublish_eq`: a request whose body binds is `HandleStage` or
  `HandlePublish` itself.

The schedules start from the keyspace that `CreateVolume` of `vol-1` leaves (`catalog`), on the
manager's registry over a permissive host.
-/

namespace VolumeManager

namespace Attach

open Etcd EtcdStore

variable {φ : Type}

/-! ## The record `vol-1` and the manager's registry -/

/-- The record `HandleCreate` makes for `vol-1`. -/
def vol1 : Volume :=
  ⟨"vol-1", "data", "local", (∅ : StrMap String).insert "path" "/srv/data", .created, [], [], 0, 0⟩

/-- Equation lemma: the ID of vol1. -/
@[simp] theorem vol1_id : vol1.id = "vol-1" := rfl

/-- Equation lemma: the backend of vol1. -/
@[simp] theorem vol1_backend : vol1.backend = "local" := rfl

/-- The etcd keyspace that `CreateVolume` of `vol1` leaves in the empty one. -/
def catalog (codec : VolumeCodec) : KV := ((createVolume codec vol1).run ∅).2

/-- With a codec that writes `vol1`, the catalog holds its text and its name-index entry. -/
theorem catalog_eq {codec : VolumeCodec} {data : String} (hd : codec.marshal vol1 = .ok data) :
    catalog codec = ((∅ : KV).insert (volumeKey "vol-1") data).insert (nameKey "data") "vol-1" := by
  simp [catalog, run_createVolume, hd, Finmap.not_mem_empty]
  rfl

/-- The manager's registry over a permissive host. -/
abbrev registry : Storage.Registry Unit := Storage.defaultRegistry HostOS.permissive

/-- The body of a stage request from a node. -/
def stageBody (node stagingPath : String) : JsonObject :=
  [("node_id", .str node), ("staging_path", .str stagingPath)]

/-- The body of a publish request from a node. -/
def publishBody (node targetPath : String) : JsonObject :=
  [("node_id", .str node), ("target_path", .str targetPath)]

/-- The registry of the examples has the local backend under its name. -/
theorem registry_local :
    Storage.getBackend registry "local" = .ok (Storage.localBackend HostOS.permissive) :=
  rfl

/-- A stage body binds to its node and staging path. -/
theorem bind_stageBody (node path : String) :
    bindStageVolumeRequest (stageBody node path) = .ok ⟨"", node, path⟩ :=
  rfl

/-- A publish body binds to its node and target path, not read-only. -/
theorem bind_publishBody (node path : String) :
    bindPublishVolumeRequest (publishBody node path) = .ok ⟨"", node, path, false⟩ :=
  rfl

/-- The permissive host's MkdirAll always succeeds. -/
@[simp] theorem permissive_mkdirAll (path : String) (f : Unit) :
    HostOS.permissive.mkdirAll path f = (.ok (), ()) :=
  rfl

/-- The permissive host's WriteFile always succeeds. -/
@[simp] theorem permissive_writeFile (path content : String) (f : Unit) :
    HostOS.permissive.writeFile path content f = (.ok (), ()) :=
  rfl

/-! ## Stage and publish requests -/

/-- Which of the two handlers a request is. -/
inductive Kind where
  | stage
  | publish
  deriving DecidableEq

namespace Kind

/-- The error code of a failed backend call. -/
def failure : Kind → String
  | stage => "stage_failed"
  | publish => "publish_failed"

/-- The record written back. -/
def mark : Kind → Volume → String → Int → Volume
  | stage => Volume.markStaged
  | publish => Volume.markPublished

/-- The list the node is added to. -/
def nodes : Kind → Volume → List String
  | stage => Volume.stagedOn
  | publish => Volume.publishedOn

/-- Marking keeps the record's ID. -/
@[simp] theorem mark_id (k : Kind) (vol : Volume) (n : String) (t : Int) :
    (k.mark vol n t).id = vol.id := by
  cases k <;> rfl

/-- Marking lists the node in the kind's list. -/
theorem mem_nodes_mark (k : Kind) (vol : Volume) (n : String) (t : Int) :
    n ∈ k.nodes (k.mark vol n t) := by
  cases k <;> simp [nodes, mark]

/-- Marking a record keeps every node of both lists. -/
theorem nodes_mark_mono (k k' : Kind) {vol : Volume} {x : String} (n : String) (t : Int)
    (h : x ∈ k'.nodes vol) : x ∈ k'.nodes (k.mark vol n t) := by
  cases k <;> cases k' <;> simp_all [nodes, mark]

end Kind

/-- A stage or publish request whose body has bound: the handler, the node and backend call the
body names, and what `uuid.New()` and `time.Now()` return. -/
structure NodeOp (φ : Type) where
  kind : Kind
  req : VolumeHandler.NodeRequest φ
  env : RequestEnv

namespace NodeOp

/-- The stage request a bound `StageVolumeRequest` makes. -/
def ofStage (r : StageVolumeRequest) (env : RequestEnv) : NodeOp φ :=
  ⟨.stage, ⟨r.nodeID, fun b vol => b.stage vol r.stagingPath⟩, env⟩

/-- The publish request a bound `PublishVolumeRequest` makes. -/
def ofPublish (r : PublishVolumeRequest) (env : RequestEnv) : NodeOp φ :=
  ⟨.publish, ⟨r.nodeID, fun b vol => b.publish vol "" r.targetPath r.readOnly⟩, env⟩

/-- The copy the request writes back, made from the record it read. -/
def marked (o : NodeOp φ) (vol : Volume) : Volume := o.kind.mark vol o.req.nodeID o.env.now

/-- The copy written back keeps the ID of the record read. -/
@[simp] theorem marked_id (o : NodeOp φ) (vol : Volume) : (o.marked vol).id = vol.id :=
  Kind.mark_id ..

variable (codec : VolumeCodec) (reg : Storage.Registry φ) (v : String)

/-- The handler serving the request on the etcd store. -/
def handler (o : NodeOp φ) : Proc (KV × φ) Response :=
  VolumeHandler.handleNodeRequest (store codec) reg v (.ok o.req) o.kind.failure o.kind.mark o.env

/-- The write-back: `UpdateVolume` of the marked copy, whose result is only logged. -/
def writeBack (o : NodeOp φ) (vol : Volume) : Proc (KV × φ) Response :=
  (updateVolume codec (o.marked vol)).onFst.bind fun _ => pure ⟨200, .volume (o.marked vol)⟩

/-- What the handler does once the backend call has returned. -/
def afterCall (o : NodeOp φ) (vol : Volume) : Except String Unit → Proc (KV × φ) Response
  | .error msg => pure (errorResponse 500 o.kind.failure msg)
  | .ok () => o.writeBack codec vol

/-- The requests as the server runs them on a keyspace and a host. -/
def config (ops : List (NodeOp φ)) (kv : KV) (f : φ) : Config (KV × φ) Response :=
  ⟨(kv, f), ops.map (handler codec reg v)⟩

end NodeOp

/-- HandleStage of a body that binds is the stage operation's handler. -/
theorem handleStage_eq (codec : VolumeCodec) (reg : Storage.Registry φ) (v : String)
    {body : JsonObject} {r : StageVolumeRequest} (h : bindStageVolumeRequest body = .ok r)
    (env : RequestEnv) :
    VolumeHandler.handleStage (store codec) reg v body env =
      (NodeOp.ofStage r env).handler codec reg v := by
  simp only [VolumeHandler.handleStage, h, Except.map]
  rfl

/-- HandlePublish of a body that binds is the publish operation's handler. -/
theorem handlePublish_eq (codec : VolumeCodec) (reg : Storage.Registry φ) (v : String)
    {body : JsonObject} {r : PublishVolumeRequest} (h : bindPublishVolumeRequest body = .ok r)
    (env : RequestEnv) :
    VolumeHandler.handlePublish (store codec) reg v body env =
      (NodeOp.ofPublish r env).handler codec reg v := by
  simp only [VolumeHandler.handlePublish, h, Except.map]
  rfl

/-! ## Program points -/

/-- Where a request is: before its read, inside the backend call it made on the record `vol` it
read (`rest` is what remains of the call), at the existence check, at the `Put` of the text `data`
written for the marked copy, or finished. -/
inductive Phase (φ : Type) where
  | start
  | call (vol : Volume) (backend : Storage.Backend φ) (rest : Proc φ (Except String Unit))
  | check (vol : Volume)
  | put (vol : Volume) (data : String)
  | done (resp : Response)

namespace Phase

/-- The record the request read and holds a copy of, between its read and its write-back. -/
def read? : Phase φ → Option Volume
  | call vol _ _ | check vol | put vol _ => some vol
  | _ => none

/-- The status of a finished request. -/
def status? : Phase φ → Option Nat
  | done resp => some resp.status
  | _ => none

/-- The next step is the write-back's `Put`. -/
def writes : Phase φ → Bool
  | put _ _ => true
  | _ => false

end Phase

/-- A request at a program point. -/
structure Point (φ : Type) where
  op : NodeOp φ
  phase : Phase φ

namespace Point

variable (codec : VolumeCodec) (reg : Storage.Registry φ) (v : String)

/-- A request before its read. -/
def start (o : NodeOp φ) : Point φ := ⟨o, .start⟩

/-- Where the read leaves the request. -/
def afterRead (o : NodeOp φ) : Except StoreError Volume → Phase φ
  | .error .notFound => .done (errorResponse 404 "not_found" "Volume not found")
  | .error _ => .done (errorResponse 500 "internal_error" "Failed to get volume")
  | .ok vol =>
    match Storage.getBackend reg vol.backend with
    | .error _ => .done (errorResponse 500 "internal_error" "Failed to get backend")
    | .ok b => .call vol b (o.req.call b vol)

/-- The handler's continuation at a point. -/
def toProc (p : Point φ) : Proc (KV × φ) Response :=
  match p.phase with
  | .start => p.op.handler codec reg v
  | .call vol _ rest => rest.onSnd.bind (p.op.afterCall codec vol)
  | .check vol => p.op.writeBack codec vol
  | .put vol data =>
    .step (fun w => (w.1.insert (volumeKey (p.op.marked vol).id) data, w.2))
      fun _ => .done ⟨200, .volume (p.op.marked vol)⟩
  | .done resp => .done resp

/-- Where the existence check of the write-back leads: a record present whose marked copy
`json.Marshal` writes goes on to the `Put`; an absent record or a refused copy ends the request,
still with `200`. -/
def afterCheck (o : NodeOp φ) (vol : Volume) (kv : KV) : Phase φ :=
  if (kv.lookup (volumeKey (o.marked vol).id)).isNone then .done ⟨200, .volume (o.marked vol)⟩
  else
    match codec.marshal (o.marked vol) with
    | .error _ => .done ⟨200, .volume (o.marked vol)⟩
    | .ok data => .put vol data

/-- The existence check of the write-back, which changes nothing. -/
def checkMove (o : NodeOp φ) (vol : Volume) (w : KV × φ) : Option ((KV × φ) × Point φ) :=
  some (w, ⟨o, afterCheck codec o vol w.1⟩)

/-- The next atomic step at a point. -/
def move (p : Point φ) (w : KV × φ) : Option ((KV × φ) × Point φ) :=
  match p.phase with
  | .start => some (w, ⟨p.op, afterRead reg p.op (decodeAt codec w.1 v)⟩)
  | .call vol b (.step u n) => some ((w.1, u w.2), ⟨p.op, .call vol b (n w.2)⟩)
  | .call _ _ (.done (.error _)) => none
  | .call vol _ (.done (.ok ())) => checkMove codec p.op vol w
  | .check vol => checkMove codec p.op vol w
  | .put vol data =>
    some ((w.1.insert (volumeKey (p.op.marked vol).id) data, w.2),
      ⟨p.op, .done ⟨200, .volume (p.op.marked vol)⟩⟩)
  | .done _ => none

/-- The write-back's next step is the existence check's move, which changes nothing. -/
theorem next?_writeBack (o : NodeOp φ) (vol : Volume) (w : KV × φ) :
    (o.writeBack codec vol).next? w =
      (checkMove codec o vol w).map fun r => (r.1, toProc codec reg v r.2) := by
  simp only [NodeOp.writeBack, checkMove, afterCheck, updateVolume, Etcd.get, Etcd.put, Proc.atomic,
    Proc.bind_eq, Proc.step_bind, Proc.done_bind, Proc.pure_eq, Proc.onFst_step, Proc.next?_step,
    Option.map_some']
  split
  · rfl
  · cases codec.marshal (o.marked vol) <;> rfl

/-- The handler's first step is the read, which changes nothing and leads to the point it selects. -/
theorem next?_handler (o : NodeOp φ) (w : KV × φ) :
    (o.handler codec reg v).next? w =
      some (w, toProc codec reg v ⟨o, afterRead reg o (decodeAt codec w.1 v)⟩) := by
  simp only [NodeOp.handler, VolumeHandler.handleNodeRequest, store, getVolume_eq, Proc.atomic,
    Proc.bind_eq, Proc.onFst_step, Proc.onFst_done, Proc.step_bind, Proc.done_bind, Proc.next?_step]
  congr 2
  unfold afterRead
  rcases decodeAt codec w.1 v with (_ | _ | _) | vol
  all_goals try rfl
  dsimp only
  cases Storage.getBackend reg vol.backend <;> rfl

/-- At every point, the handler's next step is the one `move` names. -/
theorem next?_toProc (p : Point φ) (w : KV × φ) :
    (toProc codec reg v p).next? w = (move codec reg v p w).map fun r => (r.1, toProc codec reg v r.2) := by
  rcases p with ⟨o, _ | ⟨vol, b, ⟨_ | ⟨⟩⟩ | ⟨u, n⟩⟩ | vol | ⟨vol, data⟩ | resp⟩
  · exact next?_handler codec reg v o w
  · rfl
  · exact next?_writeBack codec reg v o vol w
  · rfl
  · exact next?_writeBack codec reg v o vol w
  · rfl
  · rfl

/-- A point that holds a copy after the read got that copy from the read. -/
theorem afterRead_read? {o : NodeOp φ} {r : Except StoreError Volume} {vol : Volume}
    (h : (afterRead reg o r).read? = some vol) : r = .ok vol := by
  unfold afterRead at h
  split at h
  · cases h
  · cases h
  · split at h
    · cases h
    · cases h
      rfl

/-- No request finishes with 200 at its read. -/
theorem afterRead_status? (o : NodeOp φ) (r : Except StoreError Volume) :
    (afterRead reg o r).status? ≠ some 200 := by
  unfold afterRead
  split
  · simp [Phase.status?, errorResponse]
  · simp [Phase.status?, errorResponse]
  · split <;> simp [Phase.status?, errorResponse]

/-- What the existence check can lead to: the same state and operation, the same copy, 200 only when
the record is gone or the copy does not encode, and a Put only of the copy's encoding. -/
theorem checkMove_cases {o : NodeOp φ} {vol : Volume} {w s : KV × φ} {q : Point φ}
    (h : checkMove codec o vol w = some (s, q)) :
    s = w ∧ q.op = o ∧ (∀ vol', q.phase.read? = some vol' → vol' = vol) ∧
      (q.phase.status? = some 200 → (w.1.lookup (volumeKey (o.marked vol).id)).isNone ∨
        ¬ codec.Writes (o.marked vol)) ∧
      (∀ vol' data, q.phase = .put vol' data → codec.marshal (o.marked vol) = .ok data) := by
  unfold checkMove at h
  cases h
  refine ⟨rfl, rfl, ?_⟩
  unfold afterCheck
  split
  · simp_all [Phase.read?, Phase.status?]
  · rcases hm : codec.marshal (o.marked vol) with e | data
    · simp [Phase.read?, Phase.status?, VolumeCodec.Writes, hm]
    · simp [Phase.read?, Phase.status?, hm]

/-- No request is about to Put right after its read. -/
theorem afterRead_writes (o : NodeOp φ) (r : Except StoreError Volume) :
    (afterRead reg o r).writes = false := by
  unfold afterRead
  split
  · rfl
  · rfl
  · split <;> rfl

/-- What one step can do. Either the keyspace is unchanged: the copy the request then holds is the
one it held or the record it just read, it finishes with `200` only after an existence check that
found no record or a marked copy the codec refuses, and it reaches a `Put` only with the text the
codec wrote for its marked copy; or the step is the write-back's `Put`. The request stays the same
request. -/
theorem move_cases {p q : Point φ} {w s : KV × φ} (h : move codec reg v p w = some (s, q)) :
    q.op = p.op ∧
    ((s.1 = w.1 ∧
        (∀ vol, q.phase.read? = some vol → p.phase.read? = some vol ∨ decodeAt codec w.1 v = .ok vol) ∧
        (q.phase.status? = some 200 →
          ∃ vol, p.phase.read? = some vol ∧ ((w.1.lookup (volumeKey (p.op.marked vol).id)).isNone ∨
            ¬ codec.Writes (p.op.marked vol))) ∧
        (∀ vol data, q.phase = .put vol data → codec.marshal (p.op.marked vol) = .ok data)) ∨
      ∃ vol data, p.phase = .put vol data ∧
        s.1 = w.1.insert (volumeKey (p.op.marked vol).id) data ∧
        q.phase = .done ⟨200, .volume (p.op.marked vol)⟩) := by
  rcases p with ⟨o, _ | ⟨vol, b, ⟨_ | ⟨⟩⟩ | ⟨u, n⟩⟩ | vol | ⟨vol, data⟩ | resp⟩ <;> simp only [move] at h
  case start =>
    cases h
    refine ⟨rfl, .inl ⟨rfl, fun _ hv => .inr (afterRead_read? reg hv),
      fun h2 => absurd h2 (afterRead_status? reg _ _), fun vol data hq => ?_⟩⟩
    have := afterRead_writes reg o (decodeAt codec w.1 v)
    change afterRead reg o _ = _ at hq
    rw [hq] at this
    cases this
  case call.done.error => cases h
  case call.done.ok | check =>
    obtain ⟨rfl, rfl, hr, hs, hput⟩ := checkMove_cases codec h
    refine ⟨rfl, .inl ⟨rfl, fun _ hv => .inl (by rw [hr _ hv]; rfl), fun h2 => ⟨vol, rfl, hs h2⟩,
      fun vol' data hq => ?_⟩⟩
    obtain rfl := hr vol' (by rw [hq]; rfl)
    exact hput vol' data hq
  case call.step =>
    cases h
    exact ⟨rfl, .inl ⟨rfl, fun _ hv => .inl hv, fun h2 => (by cases h2), fun _ _ hq => (by cases hq)⟩⟩
  case put =>
    cases h
    exact ⟨rfl, .inr ⟨vol, data, rfl, rfl, rfl⟩⟩
  case done => cases h

/-- A request whose handler has finished with `200` is finished at its point with `200`. -/
theorem status?_of_toProc {p : Point φ} {resp : Response} (h : toProc codec reg v p = .done resp)
    (h200 : resp.status = 200) : p.phase.status? = some 200 := by
  rcases p with ⟨o, _ | ⟨vol, b, ⟨msg | ⟨⟩⟩ | ⟨u, n⟩⟩ | vol | ⟨vol, data⟩ | resp'⟩ <;>
    simp only [toProc, NodeOp.handler, VolumeHandler.handleNodeRequest, store, getVolume_eq,
      NodeOp.writeBack, NodeOp.afterCall, updateVolume, Etcd.get, Proc.atomic, Proc.bind_eq,
      Proc.onFst_step, Proc.onSnd_step, Proc.onSnd_done, Proc.step_bind, Proc.done_bind,
      Proc.pure_eq] at h <;> cases h
  · simp [errorResponse] at h200
  · simp [Phase.status?, h200]

end Point

variable (codec : VolumeCodec) (reg : Storage.Registry φ) (v : String)

/-- The stage and publish requests on the record `v` as a machine of program points. -/
def machine : Points (KV × φ) Response (Point φ) :=
  ⟨Point.toProc codec reg v, Point.move codec reg v, Point.next?_toProc codec reg v⟩

/-- The configuration of node operations is the machine's configuration at their start points. -/
theorem config_eq_toConfig (ops : List (NodeOp φ)) (kv : KV) (f : φ) :
    NodeOp.config codec reg v ops kv f = (machine codec reg v).toConfig ((kv, f), ops.map Point.start) := by
  simp only [NodeOp.config, Points.toConfig, List.map_map]
  rfl

/-- Step `i` is no stale write-back: if it is a `Put`, no other request holds a copy. -/
def NoStaleWrite (c : (KV × φ) × List (Point φ)) (i : Nat) : Prop :=
  ∀ p : Point φ, c.2[i]? = some p → p.phase.writes → ∀ q ∈ c.2.eraseIdx i, q.phase.read? = none

/-! ## The invariant -/

/-- What holds at every point of a run with no stale write-back. -/
structure Inv (c : (KV × φ) × List (Point φ)) : Prop where
  keyed : ∀ r, recordAt codec c.1.1 v = some r → r.id = v
  held : ∀ (j : Nat) (p : Point φ) (vol : Volume), c.2[j]? = some p → p.phase.read? = some vol →
    recordAt codec c.1.1 v = some vol
  writing : ∀ (j : Nat) (p : Point φ) (vol : Volume) (data : String), c.2[j]? = some p →
    p.phase = .put vol data → codec.marshal (p.op.marked vol) = .ok data
  acked : ∀ (j : Nat) (p : Point φ), c.2[j]? = some p → p.phase.status? = some 200 →
    ∃ r, recordAt codec c.1.1 v = some r ∧ p.op.req.nodeID ∈ p.op.kind.nodes r

/-- The start of a run satisfies the invariant when the record under the ID is keyed. -/
theorem inv_start (ops : List (NodeOp φ)) (kv : KV) (f : φ)
    (hkeyed : ∀ r, recordAt codec kv v = some r → r.id = v) :
    Inv codec v ((kv, f), ops.map Point.start) := by
  refine ⟨hkeyed, fun j p vol hj hv => ?_, fun j p vol data hj hv => ?_, fun j p hj h2 => ?_⟩ <;>
  · rw [List.getElem?_map] at hj
    obtain ⟨o, -, rfl⟩ := Option.map_eq_some'.1 hj
    first | cases hv | cases h2

/-- The step lemma, for a codec that writes every record and reads it back. A step that leaves
the keyspace alone keeps every field: a copy just read is the stored record, an existence check
cannot find the held record absent, and the text a request goes on to `Put` is its marked copy's.
The write-back stores the marked copy of the stored record, which keeps every node already
acknowledged and adds its own; no other request holds a copy it would overwrite. -/
theorem Inv.stepAt (hrt : codec.RoundTrips) (hw : ∀ vol, codec.Writes vol)
    {c : (KV × φ) × List (Point φ)} (hc : Inv codec v c) {i : Nat}
    (hi : NoStaleWrite c i) : Inv codec v ((machine codec reg v).stepAt c i) := by
  rcases (machine codec reg v).stepAt_cases c i with h | ⟨p, s, q, hp, hm, h⟩
  · rwa [h]
  rw [h]
  obtain ⟨hop, ⟨hs, hread, hack, hput⟩ | ⟨vol, data, hput, hs, hq⟩⟩ := Point.move_cases codec reg v hm
  · refine ⟨hs ▸ hc.keyed, fun j p' vol hj hv => hs ▸ ?_, fun j p' vol data hj hv => ?_,
      fun j p' hj h2 => hs ▸ ?_⟩
    · rcases Points.getElem?_set_cases hj with ⟨rfl, rfl⟩ | ⟨_, hj⟩
      · rcases hread vol hv with h' | h'
        · exact hc.held _ p vol hp h'
        · exact (decodeAt_eq_ok codec).1 h'
      · exact hc.held j p' vol hj hv
    · rcases Points.getElem?_set_cases hj with ⟨rfl, rfl⟩ | ⟨_, hj⟩
      · rw [hop]; exact hput vol data hv
      · exact hc.writing j p' vol data hj hv
    · rcases Points.getElem?_set_cases hj with ⟨rfl, rfl⟩ | ⟨_, hj⟩
      · obtain ⟨vol, hv, hnone | hrefused⟩ := hack h2
        · have hrec := hc.held _ p vol hp hv
          rw [NodeOp.marked_id, hc.keyed vol hrec, Option.isNone_iff_eq_none] at hnone
          simp [recordAt, hnone] at hrec
        · exact absurd (hw _) hrefused
      · exact hc.acked j p' hj h2
  · have hrec := hc.held i p vol hp (by simp [hput, Phase.read?])
    have hid : (p.op.marked vol).id = v := by rw [NodeOp.marked_id, hc.keyed vol hrec]
    have hnew : recordAt codec s.1 v = some (p.op.marked vol) := by
      rw [hs, recordAt_insert_volumeKey codec hrt (hc.writing i p vol data hp hput), if_pos hid.symm]
    refine ⟨fun r hr => ?_, fun j p' vol' hj hv => ?_, fun j p' vol' data' hj hv => ?_,
      fun j p' hj _ => ⟨_, hnew, ?_⟩⟩
    · rw [hnew] at hr
      cases hr
      exact hid
    · rcases Points.getElem?_set_cases hj with ⟨rfl, rfl⟩ | ⟨hji, hj⟩
      · rw [hq] at hv; cases hv
      · rw [hi p hp (by simp [hput, Phase.writes]) p' (List.mem_eraseIdx_iff_getElem?.2 ⟨j, hji, hj⟩)] at hv
        cases hv
    · rcases Points.getElem?_set_cases hj with ⟨rfl, rfl⟩ | ⟨_, hj⟩
      · rw [hq] at hv; cases hv
      · exact hc.writing j p' vol' data' hj hv
    · rcases Points.getElem?_set_cases hj with ⟨rfl, rfl⟩ | ⟨hji, hj⟩
      · rw [hop]; exact Kind.mem_nodes_mark _ _ _ _
      · obtain ⟨r, hr, hn⟩ := hc.acked j p' hj ‹_›
        rw [hrec] at hr
        cases hr
        exact Kind.nodes_mark_mono _ _ _ _ hn

/-- Each request stays at the index of its operation. -/
theorem op_exec (ops : List (NodeOp φ)) (w : KV × φ) (sched : List Nat) (j : Nat) (p : Point φ)
    (hj : ((machine codec reg v).exec (w, ops.map Point.start) sched).2[j]? = some p) :
    ops[j]? = some p.op := by
  refine (machine codec reg v).exec_induction
    (Q := fun c => ∀ (j : Nat) (p : Point φ), c.2[j]? = some p → ops[j]? = some p.op) ?_ sched _ ?_ j p hj
  · intro c i hc j p hj
    rcases (machine codec reg v).stepAt_cases c i with h | ⟨p₀, s, q, hp, hm, h⟩
    · rw [h] at hj; exact hc j p hj
    · rw [h] at hj
      rcases Points.getElem?_set_cases hj with ⟨rfl, rfl⟩ | ⟨_, hj⟩
      · rw [(Point.move_cases codec reg v hm).1]; exact hc _ p₀ hp
      · exact hc j p hj
  · intro j p hj
    rw [List.getElem?_map] at hj
    obtain ⟨o, ho, rfl⟩ := Option.map_eq_some'.1 hj
    exact ho

/-! ## No acknowledged node is lost -/

/-- A lone request is never a stale write-back: every schedule of one request is admitted. -/
theorem admits_lone (c : (KV × φ) × List (Point φ)) (hc : c.2.length ≤ 1) (sched : List Nat) :
    (machine codec reg v).Admits NoStaleWrite c sched := by
  induction sched generalizing c with
  | nil => trivial
  | cons i sched ih =>
    refine ⟨fun p hp _ q hq => ?_, ih _ (by rw [Points.length_stepAt]; exact hc)⟩
    have hi : i < c.2.length := (List.getElem?_eq_some_iff.1 hp).1
    have : (c.2.eraseIdx i).length = 0 := by rw [List.length_eraseIdx, if_pos hi]; omega
    simp [List.length_eq_zero.1 this] at hq

/-- Stages of `vol-1` from `node-1` and then from `node-2`. -/
def twoStageOps : List (NodeOp Unit) :=
  [.ofStage ⟨"", "node-1", "/staging/1"⟩ ⟨"", 1, 0⟩, .ofStage ⟨"", "node-2", "/staging/2"⟩ ⟨"", 2, 0⟩]

/-- The first stage runs to its end (read, two host calls, existence check, `Put`), then the
second. -/
def oneAfterOther : List Nat := [0, 0, 0, 0, 0, 1, 1, 1, 1, 1]

/-- `vol1` staged on `node-1`, then on `node-2`. -/
def stagedTwice : Volume := (vol1.markStaged "node-1" 1).markStaged "node-2" 2

/-- The catalog holds vol1 under its own ID. -/
theorem catalog_keyed {codec : VolumeCodec} (hrt : codec.RoundTrips) (hd : codec.Writes vol1) (r : Volume)
    (h : recordAt codec (catalog codec) "vol-1" = some r) : r.id = "vol-1" := by
  obtain ⟨data, hd⟩ := hd
  simp [catalog_eq hd, recordAt, Finmap.lookup_insert_of_ne, hrt _ _ hd] at h
  rw [← h]
  rfl

/-- Run one after the other, each stage writes back while the other holds no copy: the schedule is
admitted, both answer `200`, and the record stored last lists both nodes. -/
theorem oneAfterOther_run {codec : VolumeCodec} (hrt : codec.RoundTrips) {d d₁ d₂ : String}
    (hd : codec.marshal vol1 = .ok d) (hd₁ : codec.marshal (vol1.markStaged "node-1" 1) = .ok d₁)
    (hd₂ : codec.marshal stagedTwice = .ok d₂) :
    (machine codec registry "vol-1").Admits NoStaleWrite ((catalog codec, ()), twoStageOps.map Point.start)
        oneAfterOther ∧
      (NodeOp.config codec registry "vol-1" twoStageOps (catalog codec) ()).exec oneAfterOther =
        ⟨(((catalog codec).insert (volumeKey "vol-1") d₁).insert (volumeKey "vol-1") d₂, ()),
          [.done ⟨200, .volume (vol1.markStaged "node-1" 1)⟩, .done ⟨200, .volume stagedTwice⟩]⟩ := by
  have hr₁ := hrt _ _ hd₁
  unfold stagedTwice at hd₂ ⊢
  rw [catalog_eq hd]
  constructor
  · simp [Points.Admits, NoStaleWrite, machine, Points.stepAt, Point.move, Point.start, Point.afterRead,
      Point.checkMove, Point.afterCheck, Point.toProc, Phase.writes, Phase.read?, twoStageOps, oneAfterOther,
      NodeOp.ofStage, NodeOp.marked, decodeAt, Kind.mark, registry_local, Storage.localBackend,
      Storage.ensureDirectoryExists, Proc.atomic, hd₁, hd₂, hrt _ _ hd, hr₁,
      Finmap.lookup_insert_of_ne]
  · simp [NodeOp.config, NodeOp.handler, twoStageOps, NodeOp.ofStage, oneAfterOther, Config.exec,
      Config.stepAt, VolumeHandler.handleNodeRequest, store, getVolume, updateVolume, Etcd.get, Etcd.put,
      Proc.atomic, Finmap.lookup_insert_of_ne, registry_local, Storage.localBackend,
      Storage.ensureDirectoryExists, Kind.mark, Kind.failure, hd₁, hd₂, hrt _ _ hd, hr₁,
      volumeKey, nameKey, volumePrefix, namePrefix]

/-- `DELETE /api/v1/volumes/vol-1` beside a publish of `vol-1` from `node-1`. -/
def deletePublish (codec : VolumeCodec) : Config (KV × Unit) Response :=
  ⟨(catalog codec, ()),
    [VolumeHandler.handleDelete (store codec) "vol-1",
     VolumeHandler.handlePublish (store codec) registry "vol-1" (publishBody "node-1" "/mnt/target")
       ⟨"", 1, 0⟩]⟩

/-- The delete reads the record, still unpublished (step 1); the publish reads it, makes its two
host calls and writes it back published on `node-1` (steps 2 to 6); the delete's own `Get` and its
`Txn` follow (steps 7 and 8). Before the `Txn` the stored record lists `node-1` in `PublishedOn`;
after it there is no record, and both requests answer `200`. It holds with every codec that writes
the two records and reads them back. -/
theorem delete_publish_race {codec : VolumeCodec} (hrt : codec.RoundTrips) (hd : codec.Writes vol1)
    (hp : codec.Writes (vol1.markPublished "node-1" 1)) :
    recordAt codec ((deletePublish codec).exec [0, 1, 1, 1, 1, 1, 0]).shared.1 "vol-1" =
        some (vol1.markPublished "node-1" 1) ∧
    ((deletePublish codec).exec [0, 1, 1, 1, 1, 1, 0, 0]).reqs =
        [.done ⟨200, .success "Volume deleted successfully"⟩,
         .done ⟨200, .volume (vol1.markPublished "node-1" 1)⟩] ∧
    recordAt codec ((deletePublish codec).exec [0, 1, 1, 1, 1, 1, 0, 0]).shared.1 "vol-1" = none := by
  obtain ⟨d, hd⟩ := hd
  obtain ⟨dp, hp⟩ := hp
  have hr := hrt _ _ hd
  have hrp := hrt _ _ hp
  simp only [deletePublish, catalog_eq hd]
  simp only [vol1] at hr hp hrp ⊢
  refine ⟨?_, ?_, ?_⟩ <;>
    simp [recordAt, bind_publishBody, registry_local, Except.map,
      Config.exec, Config.stepAt, VolumeHandler.handleDelete, VolumeHandler.handlePublish,
      VolumeHandler.handleNodeRequest, store, getVolume, deleteVolume, updateVolume, Etcd.get,
      Etcd.put, txn, Proc.atomic, Op.apply, Finmap.lookup_insert_of_ne, Storage.localBackend,
      Storage.ensureDirectoryExists, Storage.createBindMount, hr, hp, hrp, volumeKey, nameKey,
      volumePrefix, namePrefix]

/-- With the tally codec, which writes every record: the delete beside a publish ends with both
answering 200 and no record of vol-1. -/
theorem delete_publish_race_tally :
    VolumeCodec.tally.RoundTrips ∧ VolumeCodec.tally.Writes vol1 ∧
    VolumeCodec.tally.Writes (vol1.markPublished "node-1" 1) ∧
    recordAt .tally ((deletePublish .tally).exec [0, 1, 1, 1, 1, 1, 0]).shared.1 "vol-1" =
        some (vol1.markPublished "node-1" 1) ∧
    ((deletePublish .tally).exec [0, 1, 1, 1, 1, 1, 0, 0]).reqs =
        [.done ⟨200, .success "Volume deleted successfully"⟩,
         .done ⟨200, .volume (vol1.markPublished "node-1" 1)⟩] ∧
    recordAt .tally ((deletePublish .tally).exec [0, 1, 1, 1, 1, 1, 0, 0]).shared.1 "vol-1" = none :=
  ⟨VolumeCodec.tally_roundTrips, VolumeCodec.tally_writes _, VolumeCodec.tally_writes _,
    delete_publish_race VolumeCodec.tally_roundTrips (VolumeCodec.tally_writes _)
      (VolumeCodec.tally_writes _)⟩

/-- Stages of `vol-1` from `node-1` and from `node-2`. -/
def twoStages (codec : VolumeCodec) : Config (KV × Unit) Response :=
  ⟨(catalog codec, ()),
    [VolumeHandler.handleStage (store codec) registry "vol-1" (stageBody "node-1" "/staging/1")
       ⟨"", 1, 0⟩,
     VolumeHandler.handleStage (store codec) registry "vol-1" (stageBody "node-2" "/staging/2")
       ⟨"", 2, 0⟩]⟩

/-- Both stages read the record before either writes it back (steps 1 and 2); then each makes its
two host calls, its existence `Get` and its `Put`. Both answer `200`, and the record stored last is
the second stage's copy, which lists `node-2` only. It holds with every codec that writes the three
records and reads them back. -/
theorem stage_lost_update {codec : VolumeCodec} (hrt : codec.RoundTrips) (hd : codec.Writes vol1)
    (h₁ : codec.Writes (vol1.markStaged "node-1" 1)) (h₂ : codec.Writes (vol1.markStaged "node-2" 2)) :
    ((twoStages codec).exec [0, 1, 0, 0, 0, 0, 1, 1, 1, 1]).reqs =
        [.done ⟨200, .volume (vol1.markStaged "node-1" 1)⟩,
         .done ⟨200, .volume (vol1.markStaged "node-2" 2)⟩] ∧
    recordAt codec ((twoStages codec).exec [0, 1, 0, 0, 0, 0, 1, 1, 1, 1]).shared.1 "vol-1" =
        some (vol1.markStaged "node-2" 2) ∧
    (vol1.markStaged "node-2" 2).stagedOn = ["node-2"] := by
  obtain ⟨d, hd⟩ := hd
  obtain ⟨d₁, h₁⟩ := h₁
  obtain ⟨d₂, h₂⟩ := h₂
  have hr := hrt _ _ hd
  have hr₂ := hrt _ _ h₂
  simp only [twoStages, catalog_eq hd]
  simp only [vol1] at hr h₁ h₂ hr₂ ⊢
  refine ⟨?_, ?_, rfl⟩ <;>
    simp [recordAt, bind_stageBody, registry_local, Except.map, Config.exec,
      Config.stepAt, VolumeHandler.handleStage, VolumeHandler.handleNodeRequest, store, getVolume,
      updateVolume, Etcd.get, Etcd.put, Proc.atomic, Finmap.lookup_insert_of_ne,
      Storage.localBackend, Storage.ensureDirectoryExists, hr, h₁, h₂, hr₂, volumeKey, nameKey,
      volumePrefix, namePrefix]

/-- With the tally codec: both stages answer 200 and the record stored last lists node-2 only. -/
theorem stage_lost_update_tally :
    VolumeCodec.tally.RoundTrips ∧ VolumeCodec.tally.Writes vol1 ∧
    VolumeCodec.tally.Writes (vol1.markStaged "node-1" 1) ∧
    VolumeCodec.tally.Writes (vol1.markStaged "node-2" 2) ∧
    ((twoStages .tally).exec [0, 1, 0, 0, 0, 0, 1, 1, 1, 1]).reqs =
        [.done ⟨200, .volume (vol1.markStaged "node-1" 1)⟩,
         .done ⟨200, .volume (vol1.markStaged "node-2" 2)⟩] ∧
    recordAt .tally ((twoStages .tally).exec [0, 1, 0, 0, 0, 0, 1, 1, 1, 1]).shared.1 "vol-1" =
        some (vol1.markStaged "node-2" 2) ∧
    (vol1.markStaged "node-2" 2).stagedOn = ["node-2"] :=
  ⟨VolumeCodec.tally_roundTrips, VolumeCodec.tally_writes _, VolumeCodec.tally_writes _,
    VolumeCodec.tally_writes _,
    stage_lost_update VolumeCodec.tally_roundTrips (VolumeCodec.tally_writes _) (VolumeCodec.tally_writes _)
      (VolumeCodec.tally_writes _)⟩

end Attach

end VolumeManager
