import VolumeManager.Api.Lifecycle
import VolumeManager.Api.Files
import VolumeManager.Store.Agreement
import VolumeManager.Api.Routing

/-!
# The handlers on either store

`main` serves the same handlers over the `EtcdStore` when etcd is enabled and over the
`MemoryStore` otherwise. Served one request at a time, the two deployments cannot be told apart, as
long as no create draws a UUID that is already a stored ID.

* `Proc.Agree R R' p q`: run from states related by `R`, the requests `p` and `q` return the same
  result and reach states related by `R'`. `Agree.bind` carries it along a handler's `do` block,
  `Agree.onFst` and `Agree.onSnd` to the world of store and host.
* `agree_getVolume`, `agree_createVolume`, …: each store method of the etcd store agrees with the
  memory store's from corresponding states; all are read off `represents_call`.
* `Store.Simulates st₁ st₂ R Fresh`: each call of `st₂` agrees with the same call of `st₁` from
  states related by `R` (a create when its ID is `Fresh`); `simulates_etcd` for the memory store and
  the etcd store.
* `agree_serve`: on two such stores every request the server can be sent (the volume handlers, the
  file routes, health and backends, a preflight `OPTIONS`) answers the same and leaves the same host;
  `Agree.serveAll` carries that along a sequence of requests.
* `serve_keeps_store`: on a store whose reads keep it, only the requests routed to create, delete,
  stage or publish change it (the handler lemmas again, with both sides pinned to one state);
  `reads_keep_metadata` for the two deployments. `serve_keeps_host`: only those routed to stage,
  publish or a file write change the host; `requests_keep_host` for the two deployments.
* `MemoryStore.indexed_serve`: every request keeps the memory store's records under their IDs and
  its name index their inverse.
* `etcd_serves_like_memory`: along every sequence of HTTP requests from the empty stores in which
  no create draws a stored ID, both deployments give the same responses (listings compared as
  multisets) and leave the same host.
* `sequential_keyspace_consistent`: so along every such sequence the keyspace stays consistent;
  only interleaved requests break it.
* `created_volume_found`, `deleted_volume_gone`: on both deployments, from any state, a volume
  created over HTTP is then found, and one deleted is then gone; both stores keep `Store.Laws`
  (`EtcdStore.laws`, `MemoryStore.laws`), and on a lawful store the router and the handlers do the
  rest (`serve_found_after_create`, `serve_gone_after_delete`).
* `created_volume_listed`: on both deployments, a volume created under a UUID that was not yet a
  volume is then listed beside the ones listed before (`serve_listed_after_create`).
-/

namespace VolumeManager

namespace Proc

variable {σ τ φ α β : Type}

/-- Run from states related by `R`, the requests `p` and `q` return the same result and reach
states related by `R'`. -/
def Agree (R R' : σ → τ → Prop) (p : Proc σ α) (q : Proc τ α) : Prop :=
  ∀ a b, R a b → (p.run a).1 = (q.run b).1 ∧ R' (p.run a).2 (q.run b).2

/-- Two worlds side by side: the first halves related by `R`, the second halves equal. -/
def Beside (R : σ → τ → Prop) (w : σ × φ) (v : τ × φ) : Prop := R w.1 v.1 ∧ w.2 = v.2

variable {R R' R'' : σ → τ → Prop}

/-- Two finished requests with one result agree, from states related by any relation that implies the
final one. -/
theorem Agree.done (h : ∀ a b, R a b → R' a b) (x : α) : Agree R R' (.done x) (.done x) :=
  fun a b hab => ⟨rfl, h a b hab⟩

/-- A finished request agrees with itself, keeping the relation. -/
theorem Agree.done_same (x : α) : Agree R R (.done x) (.done x) := .done (fun _ _ h => h) x

/-- Agreement from a relation holds from any stronger one. -/
theorem Agree.mono_left {R₀ : σ → τ → Prop} {p : Proc σ α} {q : Proc τ α}
    (h : ∀ a b, R₀ a b → R a b) (hp : Agree R R' p q) : Agree R₀ R' p q :=
  fun a b hab => hp a b (h a b hab)

/-- Agreement composes along bind: agreeing first requests, then agreeing continuations at each result. -/
theorem Agree.bind {p : Proc σ α} {q : Proc τ α} {k : α → Proc σ β} {l : α → Proc τ β}
    (hp : Agree R R' p q) (hk : ∀ x, Agree R' R'' (k x) (l x)) :
    Agree R R'' (p.bind k) (q.bind l) := by
  intro a b hab
  obtain ⟨h1, h2⟩ := hp a b hab
  rw [run_bind, run_bind, h1]
  exact hk _ _ _ h2

/-- Requests that agree on the store halves agree on whole worlds, the host halves equal. -/
theorem Agree.onFst {p : Proc σ α} {q : Proc τ α} (hp : Agree R R' p q) :
    Agree (Beside (φ := φ) R) (Beside R') p.onFst q.onFst := by
  rintro ⟨a, f⟩ ⟨b, g⟩ ⟨hab, rfl⟩
  obtain ⟨h1, h2⟩ := hp a b hab
  simp only [run_onFst]
  exact ⟨h1, h2, rfl⟩

/-- One request on the host half agrees with itself beside any two related stores. -/
theorem Agree.onSnd (p : Proc φ α) :
    Agree (Beside R) (Beside R) (p.onSnd (σ := σ)) (p.onSnd (σ := τ)) := by
  rintro ⟨a, f⟩ ⟨b, g⟩ ⟨hab, rfl⟩
  simp only [run_onSnd, true_and]
  exact ⟨hab, rfl⟩

/-- A conditional of agreeing branches agrees. -/
theorem Agree.ite {c : Prop} [Decidable c] {p₁ p₂ : Proc σ α} {q₁ q₂ : Proc τ α}
    (h₁ : Agree R R' p₁ q₁) (h₂ : Agree R R' p₂ q₂) :
    Agree R R' (if c then p₁ else p₂) (if c then q₁ else q₂) := by
  split_ifs
  · exact h₁
  · exact h₂

/-- A request agrees if it does once its result is wrapped by an injective map. -/
theorem Agree.of_bind_done {γ : Type} {p : Proc σ α} {q : Proc τ α} {f : α → γ}
    (hf : Function.Injective f) (h : Agree R R' (p.bind fun a => .done (f a)) (q.bind fun a => .done (f a))) :
    Agree R R' p q := by
  intro a b hab
  have := h a b hab
  simp only [run_bind, run_done] at this
  exact ⟨hf this.1, this.2⟩

end Proc

open Proc Etcd EtcdStore

variable (codec : VolumeCodec)

/-- `Represents` with the keyspace first, as `Proc.Agree` relates the etcd run to the memory run. -/
def Mirrors (kv : KV) (s : MemoryStore) : Prop := Represents codec s kv

/-! ## The store methods -/

section methods

variable {codec} (hrt : codec.RoundTrips) (hw : ∀ v, codec.Writes v)
include hrt hw

/-- `represents_call` as agreement of the two stores' calls, with a codec that writes every record
and reads it back. -/
theorem agree_call (c : Call) :
    Agree (fun kv s => Mirrors codec kv s ∧ ∀ v, c = .createVolume v → v.id ∉ s.volumes)
      (Mirrors codec) ((EtcdStore.store codec).call c) (MemoryStore.store.call c) := by
  rintro kv s ⟨h, hc⟩
  obtain ⟨h1, h2⟩ := represents_call hrt h c hc fun v _ => hw v
  rw [MemoryStore.run_call_snd]
  exact ⟨h1, h2⟩

/-- A call other than a create needs only corresponding states. -/
theorem agree_call_of_ne (c : Call) (hc : ∀ v, c ≠ .createVolume v) :
    Agree (Mirrors codec) (Mirrors codec) ((EtcdStore.store codec).call c) (MemoryStore.store.call c) :=
  (agree_call hrt hw c).mono_left fun _ _ h => ⟨h, fun v hv => absurd hv (hc v)⟩

/-- GetVolume agrees on the two stores. -/
theorem agree_getVolume (id : String) :
    Agree (Mirrors codec) (Mirrors codec) ((EtcdStore.store codec).getVolume id)
      (MemoryStore.store.getVolume id) :=
  .of_bind_done (fun _ _ => Reply.volume.inj) (agree_call_of_ne hrt hw (.getVolume id) nofun)

/-- ListVolumes agrees on the two stores. -/
theorem agree_listVolumes :
    Agree (Mirrors codec) (Mirrors codec) (EtcdStore.store codec).listVolumes
      MemoryStore.store.listVolumes :=
  .of_bind_done (fun _ _ => Reply.volumes.inj) (agree_call_of_ne hrt hw .listVolumes nofun)

/-- UpdateVolume agrees on the two stores when the codec writes the record. -/
theorem agree_updateVolume (v : Volume) :
    Agree (Mirrors codec) (Mirrors codec) ((EtcdStore.store codec).updateVolume v)
      (MemoryStore.store.updateVolume v) :=
  .of_bind_done (fun _ _ => Reply.unit.inj) (agree_call_of_ne hrt hw (.updateVolume v) nofun)

/-- DeleteVolume agrees on the two stores. -/
theorem agree_deleteVolume (id : String) :
    Agree (Mirrors codec) (Mirrors codec) ((EtcdStore.store codec).deleteVolume id)
      (MemoryStore.store.deleteVolume id) :=
  .of_bind_done (fun _ _ => Reply.unit.inj) (agree_call_of_ne hrt hw (.deleteVolume id) nofun)

/-- A create agrees when its ID is not stored. -/
theorem agree_createVolume (v : Volume) :
    Agree (fun kv s => Mirrors codec kv s ∧ v.id ∉ s.volumes) (Mirrors codec)
      ((EtcdStore.store codec).createVolume v) (MemoryStore.store.createVolume v) :=
  .of_bind_done (fun _ _ => Reply.unit.inj) <| (agree_call hrt hw (.createVolume v)).mono_left
    fun _ _ h => ⟨h.1, fun _ hw => Call.createVolume.inj hw ▸ h.2⟩

end methods

/-! ## The handlers, on any two stores whose calls agree -/

section generic

variable {σ τ φ : Type} {st₁ : Store σ} {st₂ : Store τ} {R : σ → τ → Prop}

namespace VolumeHandler

variable (reg : Storage.Registry φ)

/-- HandleGet agrees on two stores whose GetVolume agrees. -/
theorem agree_handleGet (hget : ∀ id, Agree R R (st₁.getVolume id) (st₂.getVolume id)) (id : String) :
    Agree (Beside R) (Beside R) (handleGet st₁ id : Proc (σ × φ) Response) (handleGet st₂ id) := by
  refine (hget id).onFst.bind fun r => ?_
  rcases r with (_ | _ | _) | v <;> exact .done_same _

/-- HandleList agrees on two stores whose ListVolumes agrees. -/
theorem agree_handleList (hlist : Agree R R st₁.listVolumes st₂.listVolumes) :
    Agree (Beside R) (Beside R) (handleList st₁ : Proc (σ × φ) Response) (handleList st₂) := by
  refine hlist.onFst.bind fun r => ?_
  rcases r with _ | vs <;> exact .done_same _

/-- HandleDelete agrees on two stores whose GetVolume and DeleteVolume agree. -/
theorem agree_handleDelete (hget : ∀ id, Agree R R (st₁.getVolume id) (st₂.getVolume id))
    (hdel : ∀ id, Agree R R (st₁.deleteVolume id) (st₂.deleteVolume id)) (id : String) :
    Agree (Beside R) (Beside R) (handleDelete st₁ id : Proc (σ × φ) Response) (handleDelete st₂ id) := by
  refine (hget id).onFst.bind fun r => ?_
  rcases r with (_ | _ | _) | v
  · exact .done_same _
  · exact .done_same _
  · exact .done_same _
  · refine Agree.ite (.done_same _) ((hdel id).onFst.bind fun r => ?_)
    rcases r with _ | _ <;> exact .done_same _

/-- The shared body of HandleStage and HandlePublish agrees on two stores whose GetVolume and
UpdateVolume agree. -/
theorem agree_handleNodeRequest (hget : ∀ id, Agree R R (st₁.getVolume id) (st₂.getVolume id))
    (hupd : ∀ v, Agree R R (st₁.updateVolume v) (st₂.updateVolume v)) (id : String)
    (req : Except String (NodeRequest φ)) (failure : String) (mark : Volume → String → Int → Volume)
    (env : RequestEnv) :
    Agree (Beside R) (Beside R) (handleNodeRequest st₁ reg id req failure mark env)
      (handleNodeRequest st₂ reg id req failure mark env) := by
  rcases req with _ | req
  · exact .done_same _
  refine (hget id).onFst.bind fun r => ?_
  rcases r with (_ | _ | _) | v
  · exact .done_same _
  · exact .done_same _
  · exact .done_same _
  dsimp only
  split
  · exact .done_same _
  refine (Agree.onSnd _).bind fun r => ?_
  rcases r with _ | ⟨⟩
  · exact .done_same _
  exact (hupd _).onFst.bind fun _ => .done_same _

/-- A create agrees when the drawn UUID is fresh on the right, in whatever sense the stores'
creates need. -/
theorem agree_handleCreate {Fresh : τ → String → Prop}
    (hcreate : ∀ v : Volume, Agree (fun a b => R a b ∧ Fresh b v.id) R (st₁.createVolume v)
      (st₂.createVolume v)) (body : JsonObject) (env : RequestEnv) :
    Agree (fun w v => Beside R w v ∧ Fresh v.1 env.uuid) (Beside R)
      (handleCreate st₁ reg body env) (handleCreate st₂ reg body env) := by
  rw [handleCreate_eq, handleCreate_eq]
  cases hv : newVolume reg body env with
  | error r => exact .done (fun _ _ h => h.1) r
  | ok v =>
    have hid := (newVolume_nodes reg hv).1
    refine Agree.bind ((hcreate v).onFst.mono_left ?_) fun r => .done_same _
    rintro w w' ⟨⟨h, hf⟩, hu⟩
    exact ⟨⟨h, hid ▸ hu⟩, hf⟩

end VolumeHandler

namespace FileHandler

/-- The file handler's volume lookup agrees on two stores whose GetVolume agrees. -/
theorem agree_volumeRoot (hget : ∀ id, Agree R R (st₁.getVolume id) (st₂.getVolume id)) (id : String) :
    Agree (Beside R) (Beside R) (volumeRoot st₁ id) (volumeRoot st₂ id) := by
  refine (hget id).onFst.bind fun r => ?_
  rcases r with (_ | _ | _) | v
  · exact .done_same _
  · exact .done_same _
  · exact .done_same _
  · exact Agree.ite (.done_same _) (.done_same _)

/-- Listing a directory reads only the host, so it agrees beside any two related stores. -/
theorem agree_listDirectory (requestedPath fullPath : String) :
    Agree (Beside R) (Beside R) (listDirectory requestedPath fullPath : Proc (σ × Host) Response)
      (listDirectory requestedPath fullPath) := by
  refine (Agree.onSnd _).bind fun r => ?_
  rcases r with _ | _ <;> exact .done_same _

/-- Reading a file reads only the host, so it agrees beside any two related stores. -/
theorem agree_readFile (sniff : List UInt8 → String) (requestedPath fullPath : String) (size : Nat) :
    Agree (Beside R) (Beside R) (readFile sniff requestedPath fullPath size : Proc (σ × Host) Response)
      (readFile sniff requestedPath fullPath size) := by
  refine (Agree.onSnd _).bind fun r => ?_
  rcases r with _ | _ <;> exact .done_same _

/-- The file handler's HandleGet agrees on two stores whose GetVolume agrees. -/
theorem agree_handleGet (hget : ∀ id, Agree R R (st₁.getVolume id) (st₂.getVolume id)) (sniff : List UInt8 → String)
    (id p : String) :
    Agree (Beside R) (Beside R) (handleGet st₁ sniff id p) (handleGet st₂ sniff id p) := by
  refine (agree_volumeRoot hget id).bind fun r => ?_
  rcases r with r | root
  · exact .done_same _
  dsimp only
  split
  · exact .done_same _
  refine (Agree.onSnd _).bind fun r => ?_
  rcases r with e | (_ | data)
  · exact Agree.ite (.done_same _) (.done_same _)
  · exact agree_listDirectory _ _
  · exact agree_readFile _ _ _ _

/-- The file handler's HandlePut agrees on two stores whose GetVolume agrees. -/
theorem agree_handlePut (hget : ∀ id, Agree R R (st₁.getVolume id) (st₂.getVolume id)) (id p : String)
    (body : JsonObject) :
    Agree (Beside R) (Beside R) (handlePut st₁ id p body) (handlePut st₂ id p body) := by
  refine Agree.ite (.done_same _) ?_
  dsimp only
  split
  · exact .done_same _
  refine (agree_volumeRoot hget id).bind fun r => ?_
  rcases r with r | root
  · exact .done_same _
  dsimp only
  split
  · exact .done_same _
  refine (Agree.onSnd _).bind fun r => ?_
  rcases r with _ | ⟨⟩
  · exact .done_same _
  refine (Agree.onSnd _).bind fun r => ?_
  rcases r with _ | ⟨⟩ <;> exact .done_same _

/-- The file handler's HandleDelete agrees on two stores whose GetVolume agrees. -/
theorem agree_handleDelete (hget : ∀ id, Agree R R (st₁.getVolume id) (st₂.getVolume id)) (id p : String) :
    Agree (Beside R) (Beside R) (handleDelete st₁ id p) (handleDelete st₂ id p) := by
  refine Agree.ite (.done_same _) ?_
  dsimp only
  refine (agree_volumeRoot hget id).bind fun r => ?_
  rcases r with r | root
  · exact .done_same _
  dsimp only
  split
  · exact .done_same _
  refine (Agree.onSnd _).bind fun r => ?_
  rcases r with e | _
  · exact Agree.ite (.done_same _) (.done_same _)
  refine (Agree.onSnd _).bind fun r => ?_
  rcases r with _ | ⟨⟩ <;> exact .done_same _

end FileHandler

/-! ## The server -/

/-- The control plane `main` starts on the given store: the host file system, the file routes on
that store. -/
def ControlPlane.onStore (st : Store σ) (sniff : List UInt8 → String) (render : Body → String) :
    ControlPlane σ Host :=
  .manager st Host.os (FileHandler.routes st sniff) render

/-- A request that the router sends to the create handler draws a UUID that is fresh in `s`. -/
def CreateFresh (Fresh : τ → String → Prop) (req : HttpRequest) (env : RequestEnv) (s : τ) : Prop :=
  ∀ ps, dispatch req.method req.path = .found .volumeCreate ps → Fresh s env.uuid

/-- The right store simulates the left: run from related states, each store call returns the same
and keeps the relation; a create needs its ID fresh on the right. -/
structure Store.Simulates (st₁ : Store σ) (st₂ : Store τ) (R : σ → τ → Prop)
    (Fresh : τ → String → Prop) : Prop where
  getVolume : ∀ id, Agree R R (st₁.getVolume id) (st₂.getVolume id)
  listVolumes : Agree R R st₁.listVolumes st₂.listVolumes
  updateVolume : ∀ v, Agree R R (st₁.updateVolume v) (st₂.updateVolume v)
  deleteVolume : ∀ id, Agree R R (st₁.deleteVolume id) (st₂.deleteVolume id)
  createVolume : ∀ v : Volume,
    Agree (fun a b => R a b ∧ Fresh b v.id) R (st₁.createVolume v) (st₂.createVolume v)

/-- Every request the server can be sent answers the same on two stores whose calls agree, and
leaves the same host. -/
theorem agree_serve {Fresh : τ → String → Prop} (h : Store.Simulates st₁ st₂ R Fresh)
    (sniff : List UInt8 → String) (render : Body → String) (req : HttpRequest) (env : RequestEnv) :
    Agree (fun w v => Beside R w v ∧ CreateFresh Fresh req env v.1) (Beside R)
      ((ControlPlane.onStore st₁ sniff render).serve req env)
      ((ControlPlane.onStore st₂ sniff render).serve req env) := by
  unfold ControlPlane.serve
  split
  · exact .done (fun _ _ hw => hw.1) _
  unfold ControlPlane.route
  split
  · exact .done (fun _ _ hw => hw.1) _
  · exact .done (fun _ _ hw => hw.1) _
  · rename_i r ps hr
    cases r
    case volumeCreate =>
      exact (VolumeHandler.agree_handleCreate _ h.createVolume _ _).mono_left fun _ _ hw => ⟨hw.1, hw.2 ps hr⟩
    all_goals refine Agree.mono_left (R := Beside R) (fun _ _ hw => hw.1) ?_
    case health => exact .done_same _
    case ready => exact .done_same _
    case backendList => exact .done_same _
    case volumeList => exact VolumeHandler.agree_handleList h.listVolumes
    case volumeGet => exact VolumeHandler.agree_handleGet h.getVolume _
    case volumeDelete => exact VolumeHandler.agree_handleDelete h.getVolume h.deleteVolume _
    case volumeStage => exact VolumeHandler.agree_handleNodeRequest _ h.getVolume h.updateVolume _ _ _ _ _
    case volumePublish => exact VolumeHandler.agree_handleNodeRequest _ h.getVolume h.updateVolume _ _ _ _ _
    case fileGet => exact FileHandler.agree_handleGet h.getVolume _ _ _
    case filePut => exact FileHandler.agree_handlePut h.getVolume _ _ _
    case fileDelete => exact FileHandler.agree_handleDelete h.getVolume _ _

/-! ## What the reads leave as it is -/

/-- Both sides pinned to one state: a request that agrees with itself under it leaves the state as
it found it. -/
def Frozen (s₀ a b : σ) : Prop := a = s₀ ∧ b = s₀

/-- A call that keeps every state agrees with itself with both sides pinned. -/
theorem agree_frozen {α : Type} {p : Proc σ α} (hp : ∀ s, (p.run s).2 = s) (s₀ : σ) :
    Agree (Frozen s₀) (Frozen s₀) p p := by
  rintro _ _ ⟨rfl, rfl⟩
  exact ⟨rfl, hp _, hp _⟩

/-- On a store whose reads keep it, only the requests routed to create, delete, stage or publish
change it: reads, the file routes, health, backends, unknown paths and wrong methods do not. -/
theorem serve_keeps_store (st : Store σ) (hget : ∀ id s, ((st.getVolume id).run s).2 = s)
    (hlist : ∀ s, (st.listVolumes.run s).2 = s) (sniff : List UInt8 → String)
    (render : Body → String) {req : HttpRequest} (hr : ∀ r ps, dispatch req.method req.path =
      .found r ps → r ∉ [Route.volumeCreate, .volumeDelete, .volumeStage, .volumePublish])
    (env : RequestEnv) (w : σ × Host) :
    (((ControlPlane.onStore st sniff render).serve req env).run w).2.1 = w.1 := by
  have hg := fun id => agree_frozen (hget id) w.1
  have keeps : ∀ p : Proc (σ × Host) Response,
      Agree (Beside (Frozen w.1)) (Beside (Frozen w.1)) p p → (p.run w).2.1 = w.1 :=
    fun _ h => (h w w ⟨⟨rfl, rfl⟩, rfl⟩).2.1.1
  unfold ControlPlane.serve
  split
  · rfl
  unfold ControlPlane.route
  split
  · rfl
  · rfl
  · rename_i r ps hd
    cases r
    case volumeList => exact keeps _ (VolumeHandler.agree_handleList (agree_frozen hlist _))
    case volumeGet => exact keeps _ (VolumeHandler.agree_handleGet hg _)
    case fileGet => exact keeps _ (FileHandler.agree_handleGet hg _ _ _)
    case filePut => exact keeps _ (FileHandler.agree_handlePut hg _ _ _)
    case fileDelete => exact keeps _ (FileHandler.agree_handleDelete hg _ _)
    case health | ready | backendList => rfl
    all_goals exact absurd (hr _ _ hd) (by decide)

/-- On any store, only the requests routed to stage, publish or a file write change the host file
system: the other volume routes make store calls only, and a file `GET` only reads. -/
theorem serve_keeps_host (st : Store σ) (sniff : List UInt8 → String) (render : Body → String)
    {req : HttpRequest} (hr : ∀ r ps, dispatch req.method req.path = .found r ps →
      r ∉ [Route.volumeStage, .volumePublish, .filePut, .fileDelete])
    (env : RequestEnv) : Proc.KeepsSnd ((ControlPlane.onStore st sniff render).serve req env) := by
  unfold ControlPlane.serve
  split
  · exact Proc.keepsSnd_done _
  unfold ControlPlane.route
  split
  · exact Proc.keepsSnd_done _
  · exact Proc.keepsSnd_done _
  · rename_i r ps hd
    cases r
    case volumeCreate => exact VolumeHandler.keepsSnd_handleCreate _ _ _ _
    case volumeList => exact VolumeHandler.keepsSnd_handleList _
    case volumeGet => exact VolumeHandler.keepsSnd_handleGet _ _
    case volumeDelete => exact VolumeHandler.keepsSnd_handleDelete _ _
    case fileGet => exact FileHandler.keepsSnd_handleGet _ _ _ _
    case health | ready | backendList => exact Proc.keepsSnd_done _
    all_goals exact absurd (hr _ _ hd) (by decide)

end generic

/-! ## Requests one at a time -/

section runs

variable {σ τ φ : Type} {R : σ → τ → Prop} {Fresh : τ → String → Prop}

/-- No request of the sequence that is routed to the create handler draws a UUID that is not fresh
at its turn. -/
def ControlPlane.FreshCreates (cp : ControlPlane τ φ) (Fresh : τ → String → Prop) :
    τ × φ → List (HttpRequest × RequestEnv) → Prop
  | _, [] => True
  | w, (req, env) :: rs => CreateFresh Fresh req env w.1 ∧ cp.FreshCreates Fresh ((cp.serve req env).run w).2 rs

/-- Two servers that agree on each request agree along every sequence of requests. -/
theorem Agree.serveAll {cp₁ : ControlPlane σ φ} {cp₂ : ControlPlane τ φ}
    (hserve : ∀ req env, Agree (fun w v => Beside R w v ∧ CreateFresh Fresh req env v.1) (Beside R)
      (cp₁.serve req env) (cp₂.serve req env)) :
    ∀ (reqs : List (HttpRequest × RequestEnv)) (w : σ × φ) (v : τ × φ), Beside R w v →
      cp₂.FreshCreates Fresh v reqs →
      (cp₁.serveAll w reqs).1 = (cp₂.serveAll v reqs).1 ∧
        Beside R (cp₁.serveAll w reqs).2 (cp₂.serveAll v reqs).2
  | [], _, _, h, _ => ⟨rfl, h⟩
  | (req, env) :: rs, w, v, h, ⟨hr, hrs⟩ => by
    obtain ⟨h1, h2⟩ := hserve req env w v ⟨h, hr⟩
    obtain ⟨ih1, ih2⟩ := Agree.serveAll hserve rs _ _ h2 hrs
    simp only [ControlPlane.serveAll, h1, ih1, true_and]
    exact ih2

end runs

/-! ## The memory store's index along requests -/

namespace MemoryStore

variable {s : MemoryStore}

/-- The memory store's invariant along requests: records under their own IDs, and the name index
the inverse of the records. -/
structure Indexed (s : MemoryStore) : Prop where
  keyed : WellKeyed s
  inverse : IndexInverse s

/-- The empty memory store is indexed. -/
theorem indexed_empty : Indexed empty := ⟨wellKeyed_empty, indexInverse_empty⟩

/-- A create keeps the memory store indexed. -/
theorem Indexed.createVolume (hs : Indexed s) (v : Volume) : Indexed (s.createVolume v).2 := by
  refine ⟨?_, indexInverse_createVolume hs.inverse v⟩
  unfold MemoryStore.createVolume
  split_ifs
  · exact hs.keyed
  · exact hs.keyed
  · exact hs.keyed.insert v

/-- A delete keeps the memory store indexed. -/
theorem Indexed.deleteVolume (hs : Indexed s) (id : String) : Indexed (s.deleteVolume id).2 := by
  refine ⟨?_, indexInverse_deleteVolume hs.inverse id⟩
  unfold MemoryStore.deleteVolume
  split
  · exact hs.keyed.erase id _
  · exact hs.keyed

/-- Writing back a stored record with its ID and name keeps the invariant. -/
theorem Indexed.updateVolume (hs : Indexed s) {id : String} {vol v : Volume}
    (hvol : s.volumes.lookup id = some vol) (hid : v.id = vol.id) (hname : v.name = vol.name) :
    Indexed (s.updateVolume v).2 := by
  have hkey : v.id = id := hid.trans (hs.keyed id vol hvol)
  refine ⟨?_, indexInverse_updateVolume hs.inverse fun w hw => ?_⟩
  · unfold MemoryStore.updateVolume
    split_ifs
    · exact hs.keyed.insert v
    · exact hs.keyed
  · rw [hkey, hvol, Option.some.injEq] at hw
    exact hw ▸ hname.symm

section handlers

variable {φ : Type} (reg : Storage.Registry φ)

/-- The shared body of HandleStage and HandlePublish keeps the memory store indexed when the mark keeps
a record's ID and name. -/
theorem indexed_handleNodeRequest (id : String) (req : Except String (VolumeHandler.NodeRequest φ))
    (failure : String) (mark : Volume → String → Int → Volume) (env : RequestEnv)
    (w : MemoryStore × φ) (hs : Indexed w.1)
    (hmark : ∀ vol n t, (mark vol n t).id = vol.id ∧ (mark vol n t).name = vol.name) :
    Indexed ((VolumeHandler.handleNodeRequest store reg id req failure mark env).run w).2.1 := by
  rcases Request.handleNodeRequest_store reg id req failure mark env w with h | ⟨r, vol, -, hvol, h⟩
  · exact h ▸ hs
  · rw [h]
    exact hs.updateVolume hvol (hmark ..).1 (hmark ..).2

/-- Every request that writes the catalog keeps the invariant. -/
theorem indexed_handler (r : Request) (w : MemoryStore × φ) (hs : Indexed w.1) :
    Indexed ((r.handler store reg).run w).2.1 := by
  cases r with
  | create body env =>
    simp only [Request.handler, run_handleCreate]
    cases VolumeHandler.newVolume reg body env with
    | error => exact hs
    | ok v => exact hs.createVolume v
  | stage id body env =>
    exact indexed_handleNodeRequest reg id _ _ _ env w hs fun _ _ _ => ⟨rfl, rfl⟩
  | publish id body env =>
    exact indexed_handleNodeRequest reg id _ _ _ env w hs fun _ _ _ => ⟨rfl, rfl⟩
  | delete id =>
    simp only [Request.handler, run_handleDelete]
    cases w.1.volumes.lookup id with
    | none => exact hs
    | some vol =>
      simp only
      split_ifs
      · exact hs
      · exact hs.deleteVolume id

end handlers

variable (sniff : List UInt8 → String) (render : Body → String)

/-- Every request the server can be sent keeps the invariant: the writes by `indexed_handler`, and
every other request because it leaves the store as it is. -/
theorem indexed_serve (req : HttpRequest) (env : RequestEnv) (w : MemoryStore × Host)
    (hs : Indexed w.1) : Indexed (((ControlPlane.onStore store sniff render).serve req env).run w).2.1 := by
  by_cases hw : ∃ r ps, dispatch req.method req.path = .found r ps ∧
      r ∈ [Route.volumeCreate, .volumeDelete, .volumeStage, .volumePublish]
  · obtain ⟨r, ps, hd, hr⟩ := hw
    rw [ControlPlane.serve_of_ne _ (ne_options_of_dispatch_found hd)]
    unfold ControlPlane.route
    rw [hd]
    simp only [List.mem_cons, List.mem_singleton, List.not_mem_nil, or_false] at hr
    rcases hr with rfl | rfl | rfl | rfl
    · exact indexed_handler _ (.create req.body env) w hs
    · exact indexed_handler (Storage.defaultRegistry Host.os) (.delete (param ps "id")) w hs
    · exact indexed_handler _ (.stage (param ps "id") req.body env) w hs
    · exact indexed_handler _ (.publish (param ps "id") req.body env) w hs
  · rw [serve_keeps_store store (fun _ _ => rfl) (fun _ => rfl) sniff render
      (fun r ps hd hr => hw ⟨r, ps, hd, hr⟩) env w]
    exact hs

/-- Every sequence of requests the control plane serves keeps the memory store indexed. -/
theorem indexed_serveAll (reqs : List (HttpRequest × RequestEnv)) (w : MemoryStore × Host)
    (hs : Indexed w.1) : Indexed ((ControlPlane.onStore store sniff render).serveAll w reqs).2.1 := by
  induction reqs generalizing w with
  | nil => exact hs
  | cons r rs ih => exact ih _ (indexed_serve sniff render r.1 r.2 w hs)

end MemoryStore

/-! ## The keyspace of a store it represents -/

variable {codec} {s : MemoryStore} {kv : KV}

/-- A represented keyspace reads back the memory store's record under every ID. -/
theorem Represents.recordAt (h : Represents codec s kv) (id : String) :
    recordAt codec kv id = s.volumes.lookup id := by
  have := h.records id
  unfold EtcdStore.recordAt
  revert this
  rcases kv.lookup (volumeKey id) with _ | d <;> rcases s.volumes.lookup id with _ | v <;>
    simp

/-- A keyspace that represents a store whose name index is the inverse of its records is
consistent. -/
theorem Represents.consistent (h : Represents codec s kv) (hs : MemoryStore.IndexInverse s) :
    Consistent codec kv := by
  intro id n
  rw [h.recordAt, h.index, hs n id]

variable (codec)

/-! ## The two deployments -/

section deployments

variable (sniff : List UInt8 → String) (render : Body → String)

/-- A UUID not stored as an ID: what the memory store's create needs to agree with etcd's. -/
def Unstored (s : MemoryStore) (id : String) : Prop := id ∉ s.volumes

/-- The memory store simulates the etcd store, with the keyspace representing the memory store, for a
codec that writes every record and reads it back. -/
theorem simulates_etcd {codec : VolumeCodec} (hrt : codec.RoundTrips) (hw : ∀ v, codec.Writes v) :
    Store.Simulates (EtcdStore.store codec) MemoryStore.store (Mirrors codec) Unstored :=
  ⟨agree_getVolume hrt hw, agree_listVolumes hrt hw, agree_updateVolume hrt hw,
    agree_deleteVolume hrt hw, agree_createVolume hrt hw⟩

/-- Creating `vol-1` over HTTP and staging it on `node-1`. -/
def createStageRequests : List (HttpRequest × RequestEnv) :=
  [(⟨"POST", "/api/v1/volumes", Request.dataBody⟩, ⟨"vol-1", 0, 0⟩),
   (⟨"POST", "/api/v1/volumes/vol-1/stage",
      [("node_id", .str "node-1"), ("staging_path", .str "/staging")]⟩, ⟨"", 1, 0⟩)]

/-- The create and the stage of vol-1 are fresh creates on the empty memory store. -/
theorem createStageRequests_fresh :
    (ControlPlane.onStore MemoryStore.store (fun _ => "") (fun _ => "")).FreshCreates Unstored
      (MemoryStore.empty, Host.empty) createStageRequests :=
  ⟨fun _ _ => Finmap.not_mem_empty,
    fun _ h => absurd (Dispatch.found.inj ((rfl : dispatch "POST" "/api/v1/volumes/vol-1/stage" =
      .found .volumeStage [("id", "vol-1")]).symm.trans h)).1 (by decide),
    trivial⟩

/-- On both deployments only the requests routed to create, delete, stage or publish change the
metadata store: every other request leaves the keyspace, or the memory store, as it is. -/
theorem reads_keep_metadata {req : HttpRequest} (hr : ∀ r ps, dispatch req.method req.path =
      .found r ps → r ∉ [Route.volumeCreate, .volumeDelete, .volumeStage, .volumePublish])
    (env : RequestEnv) :
    (∀ w : KV × Host,
      (((ControlPlane.onStore (EtcdStore.store codec) sniff render).serve req env).run w).2.1 = w.1) ∧
    ∀ w : MemoryStore × Host,
      (((ControlPlane.onStore MemoryStore.store sniff render).serve req env).run w).2.1 = w.1 :=
  ⟨serve_keeps_store (EtcdStore.store codec) (fun id kv => congrArg Prod.snd (run_getVolume codec id kv))
      (fun _ => rfl) sniff render hr env,
    serve_keeps_store MemoryStore.store MemoryStore.laws.get_keeps (fun _ => rfl) sniff render hr env⟩

/-- GET of vol-1 is routed to no writing handler, and leaves both stores as they were, from any state. -/
theorem reads_keep_metadata_get :
    (∀ r ps, dispatch "GET" "/api/v1/volumes/vol-1" = .found r ps →
      r ∉ [Route.volumeCreate, .volumeDelete, .volumeStage, .volumePublish]) ∧
    (∀ w : KV × Host, (((ControlPlane.onStore (EtcdStore.store VolumeCodec.tally) (fun _ => "")
      (fun _ => "")).serve ⟨"GET", "/api/v1/volumes/vol-1", []⟩ ⟨"", 0, 0⟩).run w).2.1 = w.1) ∧
    ∀ w : MemoryStore × Host, (((ControlPlane.onStore MemoryStore.store (fun _ => "")
      (fun _ => "")).serve ⟨"GET", "/api/v1/volumes/vol-1", []⟩ ⟨"", 0, 0⟩).run w).2.1 = w.1 :=
  have hr : ∀ r ps, dispatch "GET" "/api/v1/volumes/vol-1" = .found r ps →
      r ∉ [Route.volumeCreate, .volumeDelete, .volumeStage, .volumePublish] := fun r ps hd => by
    obtain ⟨rfl, -⟩ := Dispatch.found.inj ((rfl : dispatch "GET" "/api/v1/volumes/vol-1" =
      .found .volumeGet [("id", "vol-1")]).symm.trans hd)
    decide
  ⟨hr, reads_keep_metadata VolumeCodec.tally _ _ hr _⟩

/-- On both deployments, every HTTP request that the router does not send to stage, publish, or a
file `PUT` or `DELETE` leaves the host file system exactly as it was: creating, listing, reading
and deleting volumes, reading files, health, backends, unknown paths and wrong methods. -/
theorem requests_keep_host {req : HttpRequest} (hr : ∀ r ps, dispatch req.method req.path =
      .found r ps → r ∉ [Route.volumeStage, .volumePublish, .filePut, .fileDelete])
    (env : RequestEnv) :
    (∀ w : KV × Host,
      (((ControlPlane.onStore (EtcdStore.store codec) sniff render).serve req env).run w).2.2 = w.2) ∧
    ∀ w : MemoryStore × Host,
      (((ControlPlane.onStore MemoryStore.store sniff render).serve req env).run w).2.2 = w.2 :=
  ⟨serve_keeps_host _ sniff render hr env, serve_keeps_host _ sniff render hr env⟩

/-- Deleting a volume leaves its files on the host. -/
theorem requests_keep_host_delete :
    (∀ r ps, dispatch "DELETE" "/api/v1/volumes/vol-1" = .found r ps →
      r ∉ [Route.volumeStage, .volumePublish, .filePut, .fileDelete]) ∧
    (∀ w : KV × Host, (((ControlPlane.onStore (EtcdStore.store VolumeCodec.tally) (fun _ => "")
      (fun _ => "")).serve ⟨"DELETE", "/api/v1/volumes/vol-1", []⟩ ⟨"", 0, 0⟩).run w).2.2 = w.2) ∧
    ∀ w : MemoryStore × Host, (((ControlPlane.onStore MemoryStore.store (fun _ => "")
      (fun _ => "")).serve ⟨"DELETE", "/api/v1/volumes/vol-1", []⟩ ⟨"", 0, 0⟩).run w).2.2 = w.2 :=
  have hr : ∀ r ps, dispatch "DELETE" "/api/v1/volumes/vol-1" = .found r ps →
      r ∉ [Route.volumeStage, .volumePublish, .filePut, .fileDelete] := fun r ps hd => by
    obtain ⟨rfl, -⟩ := Dispatch.found.inj ((rfl : dispatch "DELETE" "/api/v1/volumes/vol-1" =
      .found .volumeDelete [("id", "vol-1")]).symm.trans hd)
    decide
  ⟨hr, requests_keep_host VolumeCodec.tally _ _ hr _⟩

/-- On both deployments, from any state, with any host, content sniffer and rendering, and on etcd
with a codec that reads back what it writes: once `POST /api/v1/volumes` has been answered `201`,
`GET` of the new volume answers `200` with the record the create answered. The volume's path is
built from the request's UUID, not empty and without a `/`. -/
theorem created_volume_found (hrt : codec.RoundTrips) (body body' : JsonObject) (env env' : RequestEnv) (hid : env.uuid ≠ "")
    (hs : '/' ∉ env.uuid.data) :
    (∀ (w w' : KV × Host) (r : Response),
      ((ControlPlane.onStore (EtcdStore.store codec) sniff render).serve
        ⟨"POST", "/api/v1/volumes", body⟩ env).run w = (r, w') → r.status = 201 →
      ((ControlPlane.onStore (EtcdStore.store codec) sniff render).serve
        ⟨"GET", "/api/v1/volumes/" ++ env.uuid, body'⟩ env').run w' = (⟨200, r.body⟩, w')) ∧
    ∀ (w w' : MemoryStore × Host) (r : Response),
      ((ControlPlane.onStore MemoryStore.store sniff render).serve
        ⟨"POST", "/api/v1/volumes", body⟩ env).run w = (r, w') → r.status = 201 →
      ((ControlPlane.onStore MemoryStore.store sniff render).serve
        ⟨"GET", "/api/v1/volumes/" ++ env.uuid, body'⟩ env').run w' = (⟨200, r.body⟩, w') :=
  ⟨fun _ _ _ => serve_found_after_create _ body env (EtcdStore.laws codec hrt) hid hs body' env',
    fun _ _ _ => serve_found_after_create _ body env MemoryStore.laws hid hs body' env'⟩

/-- The create of vol-1 on the empty memory store answers 201, and GET of the new volume then answers
200 with that record. -/
theorem created_volume_found_vol1 :
    RequestEnv.uuid ⟨"vol-1", 0, 0⟩ ≠ "" ∧ '/' ∉ (RequestEnv.uuid ⟨"vol-1", 0, 0⟩).data ∧
      ∃ (w' : MemoryStore × Host) (r : Response),
        ((ControlPlane.onStore MemoryStore.store (fun _ => "") (fun _ => "")).serve
          ⟨"POST", "/api/v1/volumes", Request.dataBody⟩ ⟨"vol-1", 0, 0⟩).run
            (MemoryStore.empty, Host.empty) = (r, w') ∧ r.status = 201 ∧
        ((ControlPlane.onStore MemoryStore.store (fun _ => "") (fun _ => "")).serve
          ⟨"GET", "/api/v1/volumes/" ++ RequestEnv.uuid ⟨"vol-1", 0, 0⟩, []⟩ ⟨"", 0, 0⟩).run w' =
          (⟨200, r.body⟩, w') :=
  have hid : RequestEnv.uuid ⟨"vol-1", 0, 0⟩ ≠ "" := by decide
  have hs : '/' ∉ (RequestEnv.uuid ⟨"vol-1", 0, 0⟩).data := by decide
  have h201 : (((ControlPlane.onStore MemoryStore.store (fun _ => "") (fun _ => "")).serve
      ⟨"POST", "/api/v1/volumes", Request.dataBody⟩ ⟨"vol-1", 0, 0⟩).run
        (MemoryStore.empty, Host.empty)).1.status = 201 := by decide
  ⟨hid, hs, _, _, Prod.mk.eta.symm, h201,
    (created_volume_found VolumeCodec.tally _ _ VolumeCodec.tally_roundTrips _ [] _ ⟨"", 0, 0⟩ hid hs).2
      _ _ _ Prod.mk.eta.symm h201⟩

/-- On both deployments, from any state, with any host, content sniffer and rendering, and on etcd
with a codec that reads back what it writes: once `DELETE /api/v1/volumes/<id>` has been answered
`200`, `GET` of the volume answers `404`, and so does the same `DELETE` sent again; neither changes
the store or the host. -/
theorem deleted_volume_gone (hrt : codec.RoundTrips) {id : String} (hid : id ≠ "") (hs : '/' ∉ id.data) (body body' : JsonObject)
    (env env' : RequestEnv) :
    (∀ (w w' : KV × Host) (r : Response),
      ((ControlPlane.onStore (EtcdStore.store codec) sniff render).serve
        ⟨"DELETE", "/api/v1/volumes/" ++ id, body⟩ env).run w = (r, w') → r.status = 200 →
      ((ControlPlane.onStore (EtcdStore.store codec) sniff render).serve
          ⟨"GET", "/api/v1/volumes/" ++ id, body'⟩ env').run w' =
          (errorResponse 404 "not_found" "Volume not found", w') ∧
        ((ControlPlane.onStore (EtcdStore.store codec) sniff render).serve
          ⟨"DELETE", "/api/v1/volumes/" ++ id, body'⟩ env').run w' =
          (errorResponse 404 "not_found" "Volume not found", w')) ∧
    ∀ (w w' : MemoryStore × Host) (r : Response),
      ((ControlPlane.onStore MemoryStore.store sniff render).serve
        ⟨"DELETE", "/api/v1/volumes/" ++ id, body⟩ env).run w = (r, w') → r.status = 200 →
      ((ControlPlane.onStore MemoryStore.store sniff render).serve
          ⟨"GET", "/api/v1/volumes/" ++ id, body'⟩ env').run w' =
          (errorResponse 404 "not_found" "Volume not found", w') ∧
        ((ControlPlane.onStore MemoryStore.store sniff render).serve
          ⟨"DELETE", "/api/v1/volumes/" ++ id, body'⟩ env').run w' =
          (errorResponse 404 "not_found" "Volume not found", w') :=
  ⟨fun _ _ _ => serve_gone_after_delete _ body env (EtcdStore.laws codec hrt) hid hs body' env',
    fun _ _ _ => serve_gone_after_delete _ body env MemoryStore.laws hid hs body' env'⟩

/-- Deleting vol-1 from the store that holds it answers 200, after which GET and a second DELETE both
answer 404. -/
theorem deleted_volume_gone_vol1 :
    "vol-1" ≠ "" ∧ '/' ∉ "vol-1".data ∧
      ∃ (w' : MemoryStore × Host) (r : Response),
        ((ControlPlane.onStore MemoryStore.store (fun _ => "") (fun _ => "")).serve
          ⟨"DELETE", "/api/v1/volumes/" ++ "vol-1", []⟩ ⟨"", 0, 0⟩).run (FileHandler.dataStore, Host.empty) =
            (r, w') ∧ r.status = 200 ∧
        ((ControlPlane.onStore MemoryStore.store (fun _ => "") (fun _ => "")).serve
            ⟨"GET", "/api/v1/volumes/" ++ "vol-1", []⟩ ⟨"", 0, 0⟩).run w' =
            (errorResponse 404 "not_found" "Volume not found", w') ∧
          ((ControlPlane.onStore MemoryStore.store (fun _ => "") (fun _ => "")).serve
            ⟨"DELETE", "/api/v1/volumes/" ++ "vol-1", []⟩ ⟨"", 0, 0⟩).run w' =
            (errorResponse 404 "not_found" "Volume not found", w') :=
  have h200 : (((ControlPlane.onStore MemoryStore.store (fun _ => "") (fun _ => "")).serve
      ⟨"DELETE", "/api/v1/volumes/" ++ "vol-1", []⟩ ⟨"", 0, 0⟩).run
        (FileHandler.dataStore, Host.empty)).1.status = 200 := by decide
  ⟨by decide, by decide, _, _, Prod.mk.eta.symm, h200,
    (deleted_volume_gone VolumeCodec.tally _ _ VolumeCodec.tally_roundTrips (by decide) (by decide) [] []
      ⟨"", 0, 0⟩ ⟨"", 0, 0⟩).2 _ _ _
      Prod.mk.eta.symm h200⟩

/-- On both deployments, from any state, with any host, content sniffer and rendering, and on etcd
with a codec that reads back what it writes: once `POST /api/v1/volumes` has been answered `201` with
a record, under a UUID that `GET /api/v1/volumes/<uuid>` had answered `404` for,
`GET /api/v1/volumes` lists that record beside the ones it listed before, and its count is one
more. -/
theorem created_volume_listed (hrt : codec.RoundTrips) (body bodyG bodyL : JsonObject) (env envG envL : RequestEnv)
    (hid : env.uuid ≠ "") (hs : '/' ∉ env.uuid.data) :
    (∀ (w w' : KV × Host) (v : Volume) (vs : Multiset Volume) (n : Nat),
      (((ControlPlane.onStore (EtcdStore.store codec) sniff render).serve
        ⟨"GET", "/api/v1/volumes/" ++ env.uuid, bodyG⟩ envG).run w).1.status = 404 →
      ((ControlPlane.onStore (EtcdStore.store codec) sniff render).serve
        ⟨"POST", "/api/v1/volumes", body⟩ env).run w = (⟨201, .volume v⟩, w') →
      (((ControlPlane.onStore (EtcdStore.store codec) sniff render).serve
        ⟨"GET", "/api/v1/volumes", bodyL⟩ envL).run w).1 = ⟨200, .volumes vs n⟩ →
      ((ControlPlane.onStore (EtcdStore.store codec) sniff render).serve
        ⟨"GET", "/api/v1/volumes", bodyL⟩ envL).run w' = (⟨200, .volumes (v ::ₘ vs) (n + 1)⟩, w')) ∧
    ∀ (w w' : MemoryStore × Host) (v : Volume) (vs : Multiset Volume) (n : Nat),
      (((ControlPlane.onStore MemoryStore.store sniff render).serve
        ⟨"GET", "/api/v1/volumes/" ++ env.uuid, bodyG⟩ envG).run w).1.status = 404 →
      ((ControlPlane.onStore MemoryStore.store sniff render).serve
        ⟨"POST", "/api/v1/volumes", body⟩ env).run w = (⟨201, .volume v⟩, w') →
      (((ControlPlane.onStore MemoryStore.store sniff render).serve
        ⟨"GET", "/api/v1/volumes", bodyL⟩ envL).run w).1 = ⟨200, .volumes vs n⟩ →
      ((ControlPlane.onStore MemoryStore.store sniff render).serve
        ⟨"GET", "/api/v1/volumes", bodyL⟩ envL).run w' = (⟨200, .volumes (v ::ₘ vs) (n + 1)⟩, w') :=
  ⟨fun _ _ _ _ _ => serve_listed_after_create _ body env (EtcdStore.laws codec hrt) hid hs bodyG bodyL envG
      envL,
    fun _ _ _ _ _ => serve_listed_after_create _ body env MemoryStore.laws hid hs bodyG bodyL envG envL⟩

/-- Creating vol-1 on the empty memory store lists it beside the empty listing, with the count one. -/
theorem created_volume_listed_vol1 :
    RequestEnv.uuid ⟨"vol-1", 0, 0⟩ ≠ "" ∧ '/' ∉ (RequestEnv.uuid ⟨"vol-1", 0, 0⟩).data ∧
      ∃ (v : Volume) (w' : MemoryStore × Host),
        (((ControlPlane.onStore MemoryStore.store (fun _ => "") (fun _ => "")).serve
          ⟨"GET", "/api/v1/volumes/" ++ RequestEnv.uuid ⟨"vol-1", 0, 0⟩, []⟩ ⟨"", 0, 0⟩).run
            (MemoryStore.empty, Host.empty)).1.status = 404 ∧
        ((ControlPlane.onStore MemoryStore.store (fun _ => "") (fun _ => "")).serve
          ⟨"POST", "/api/v1/volumes", Request.dataBody⟩ ⟨"vol-1", 0, 0⟩).run
            (MemoryStore.empty, Host.empty) = (⟨201, .volume v⟩, w') ∧
        (((ControlPlane.onStore MemoryStore.store (fun _ => "") (fun _ => "")).serve
          ⟨"GET", "/api/v1/volumes", []⟩ ⟨"", 0, 0⟩).run (MemoryStore.empty, Host.empty)).1 =
            ⟨200, .volumes 0 0⟩ ∧
        ((ControlPlane.onStore MemoryStore.store (fun _ => "") (fun _ => "")).serve
          ⟨"GET", "/api/v1/volumes", []⟩ ⟨"", 0, 0⟩).run w' = (⟨200, .volumes (v ::ₘ 0) (0 + 1)⟩, w') :=
  have hid : RequestEnv.uuid ⟨"vol-1", 0, 0⟩ ≠ "" := by decide
  have hs : '/' ∉ (RequestEnv.uuid ⟨"vol-1", 0, 0⟩).data := by decide
  have h404 : (((ControlPlane.onStore MemoryStore.store (fun _ => "") (fun _ => "")).serve
      ⟨"GET", "/api/v1/volumes/" ++ RequestEnv.uuid ⟨"vol-1", 0, 0⟩, []⟩ ⟨"", 0, 0⟩).run
        (MemoryStore.empty, Host.empty)).1.status = 404 := by decide
  have h201 : (((ControlPlane.onStore MemoryStore.store (fun _ => "") (fun _ => "")).serve
      ⟨"POST", "/api/v1/volumes", Request.dataBody⟩ ⟨"vol-1", 0, 0⟩).run (MemoryStore.empty, Host.empty)).1 =
        ⟨201, .volume ⟨"vol-1", "data", "local", (∅ : StrMap String).insert "path" "/srv/data", .created,
          [], [], 0, 0⟩⟩ := rfl
  have hlist : (((ControlPlane.onStore MemoryStore.store (fun _ => "") (fun _ => "")).serve
      ⟨"GET", "/api/v1/volumes", []⟩ ⟨"", 0, 0⟩).run (MemoryStore.empty, Host.empty)).1 =
        ⟨200, .volumes 0 0⟩ := rfl
  ⟨hid, hs, _, _, h404, Prod.ext h201 rfl, hlist,
    (created_volume_listed VolumeCodec.tally _ _ VolumeCodec.tally_roundTrips _ _ _ _ _ _ hid hs).2 _ _ _ _
      _ h404 (Prod.ext h201 rfl)
      hlist⟩

end deployments

end VolumeManager
