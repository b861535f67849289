import VolumeManager.Api.Handlers
import VolumeManager.Store.Memory
import VolumeManager.Store.Etcd

/-!
# Reads, stages and publishes beside other requests

Requests run concurrently, so between two steps of one request the others may change the store.
`HandleGet` and `HandleList` only read. `HandleStage` and `HandlePublish` read a record, call the
backend on the host, and write back a copy marked with the node. None of them touches the name
index, and none removes a record or changes what a record is apart from the marks stage and
publish write (`Volume.unmarked`).

* `View`: what a store's state says about records: the record under each ID and the name index
  (`MemoryStore.view`, `EtcdStore.view`).
* `View.Rely`: what a step of another request may do to a request that holds a copy of a record:
  records stay under their own IDs, and none is removed or changes what stage and publish leave of
  it.
* `View.Quiet`: what a read, a stage or a publish does: the name index stays, the records stay up
  to their marks, and records stay under their own IDs.
* `View.Calls`: what that needs of a store's calls: a read answers a record stored under the ID it
  carries, a listing only reads, and writing back a marked copy of such a record is quiet.
  `MemoryStore.calls`, and `EtcdStore.calls` with a codec that reads back what it writes.
* `Concurrent.guards`: on a store with `View.Calls`, every read, listing, stage and publish keeps to
  `Quiet` while the others' steps keep to `Rely` (`Proc.Guards`).
-/

namespace VolumeManager

/-- A record without what `HandleStage` and `HandlePublish` write into it: its node lists, its
status and its update time. -/
def Volume.unmarked (v : Volume) : Volume :=
  { v with status := .created, stagedOn := [], publishedOn := [], updatedAt := v.createdAt }

/-- Equation lemma: unmarking keeps the ID. -/
@[simp] theorem Volume.unmarked_id (v : Volume) : v.unmarked.id = v.id := rfl

/-- Equation lemma: unmarking keeps the name. -/
@[simp] theorem Volume.unmarked_name (v : Volume) : v.unmarked.name = v.name := rfl

/-- Staging changes nothing the marks do not cover. -/
@[simp] theorem Volume.markStaged_unmarked (v : Volume) (n : String) (t : Int) :
    (v.markStaged n t).unmarked = v.unmarked := rfl

/-- Publishing changes nothing the marks do not cover. -/
@[simp] theorem Volume.markPublished_unmarked (v : Volume) (n : String) (t : Int) :
    (v.markPublished n t).unmarked = v.unmarked := rfl

/-- What a store's state says about records: the record under each ID, and the name index. -/
structure View (σ : Type) where
  records : σ → String → Option Volume
  index : σ → String → Option String

namespace View

variable {σ φ : Type} (V : View σ)

/-- Every record sits under its own ID. -/
def Keyed (s : σ) : Prop := ∀ id r, V.records s id = some r → r.id = id

/-- A copy `c` a request holds is of a record stored under its ID, up to the marks. -/
def Holds (c : Volume) (s : σ) : Prop :=
  V.Keyed s ∧ ∃ r, V.records s c.id = some r ∧ r.unmarked = c.unmarked

/-- What a step of another request may do: records stay under their own IDs, and none is removed
or changes what stage and publish leave of it. -/
def Rely (w w' : σ × φ) : Prop :=
  (V.Keyed w.1 → V.Keyed w'.1) ∧
    ∀ id r, V.records w.1 id = some r → ∃ r', V.records w'.1 id = some r' ∧ r'.unmarked = r.unmarked

/-- What a read, a stage or a publish does: the name index stays, so does every record up to its
marks (and every absent one stays absent), and records stay under their own IDs. -/
def Quiet (w w' : σ × φ) : Prop :=
  V.index w'.1 = V.index w.1 ∧
    (∀ id, (V.records w'.1 id).map Volume.unmarked = (V.records w.1 id).map Volume.unmarked) ∧
    (V.Keyed w.1 → V.Keyed w'.1)

variable {V}

/-- Changing only the host half is quiet. -/
theorem quiet_snd (w : σ × φ) (x : φ) : V.Quiet w (w.1, x) := ⟨rfl, fun _ => rfl, id⟩

/-- Changing nothing is quiet. -/
theorem quiet_self (w : σ × φ) : V.Quiet w w := quiet_snd w w.2

/-- A quiet step is one the other requests may take. -/
theorem Quiet.rely {w w' : σ × φ} (h : V.Quiet w w') : V.Rely w w' := by
  refine ⟨h.2.2, fun id r hr => ?_⟩
  have := h.2.1 id
  rw [hr, Option.map_some'] at this
  obtain ⟨r', hr', he⟩ := Option.map_eq_some'.1 this
  exact ⟨r', hr', he⟩

/-- Records under their own IDs stay so under the other requests' steps. -/
theorem stable_keyed : Proc.Stable (V.Rely (φ := φ)) fun w => V.Keyed w.1 :=
  fun _ _ h hR => hR.1 h

/-- A held copy stays held under the other requests' steps. -/
theorem stable_holds (c : Volume) : Proc.Stable (V.Rely (φ := φ)) fun w => V.Holds c w.1 := by
  rintro w w' ⟨hk, r, hr, hu⟩ hR
  obtain ⟨r', hr', hu'⟩ := hR.2 _ r hr
  exact ⟨hR.1 hk, r', hr', hu'.trans hu⟩

/-- What a read's answer gives the request: the store is keyed, and a record it answered is held. -/
def Answered (r : Except StoreError Volume) (w : σ × φ) : Prop :=
  V.Keyed w.1 ∧ ∀ c, r = .ok c → V.Holds c w.1

/-- What a read's answer gives a request stays true under the other requests' steps. -/
theorem stable_answered (r : Except StoreError Volume) : Proc.Stable (V.Rely (φ := φ)) (V.Answered r) :=
  fun _ _ h hR => ⟨hR.1 h.1, fun c hc => stable_holds c _ _ (h.2 c hc) hR⟩

/-- The record under a read ID, in a keyed store, is held. -/
theorem holds_of_records {s : σ} (hk : V.Keyed s) {id : String} {c : Volume}
    (h : V.records s id = some c) : V.Holds c s :=
  ⟨hk, c, hk id c h ▸ h, rfl⟩

/-- A finished request, from any assertion that gives a keyed store. -/
theorem guards_done {α : Type} {P : σ × φ → Prop} (hP : Proc.Stable V.Rely P)
    (hk : ∀ w, P w → V.Keyed w.1) (a : α) :
    Proc.Guards V.Rely V.Quiet (fun _ w => V.Keyed w.1) P (.done a) :=
  .done hP hk

/-- A finished request, from a keyed store. -/
theorem guards_done_keyed {α : Type} (a : α) :
    Proc.Guards V.Rely V.Quiet (fun _ w => V.Keyed w.1) (fun w : σ × φ => V.Keyed w.1) (.done a) :=
  guards_done stable_keyed (fun _ hw => hw) a

/-- A finished request, after a read. -/
theorem guards_done_answered {α : Type} (r : Except StoreError Volume) (a : α) :
    Proc.Guards V.Rely V.Quiet (fun _ w => V.Keyed w.1) (V.Answered (φ := φ) r) (.done a) :=
  guards_done (stable_answered r) (fun _ hw => hw.1) a

/-- Writing a marked copy `c'` of a held record `c` over it, leaving the name index, is quiet and
leaves the store keyed. -/
theorem quiet_writeBack {s s' : σ} {c c' : Volume} (hold : V.Holds c s) (hid : c'.id = c.id)
    (hun : c'.unmarked = c.unmarked) (hidx : V.index s' = V.index s)
    (hrec : ∀ id, V.records s' id = if id = c'.id then some c' else V.records s id) (f f' : φ) :
    V.Quiet (s, f) (s', f') ∧ V.Keyed s' := by
  obtain ⟨hk, r, hr, hu⟩ := hold
  have hkeyed : V.Keyed s' := fun id r' h => by
    rw [hrec] at h
    split_ifs at h with he
    · cases h
      exact he.symm
    · exact hk id r' h
  refine ⟨⟨hidx, fun id => ?_, fun _ => hkeyed⟩, hkeyed⟩
  rw [hrec]
  split_ifs with he
  · subst he
    rw [hid, hr]
    simp [hun, hu]
  · rfl

/-- Adding a record under its own ID, where none was, is a step other requests may take. -/
theorem rely_insert {s s' : σ} {v : Volume} (hnone : V.records s v.id = none)
    (hrec : ∀ id, V.records s' id = if id = v.id then some v else V.records s id) (f f' : φ) :
    V.Rely (s, f) (s', f') := by
  refine ⟨fun hk id r h => ?_, fun id r h => ⟨r, ?_, rfl⟩⟩
  · rw [hrec] at h
    split_ifs at h with he
    · cases h
      exact he.symm
    · exact hk id r h
  · rw [hrec, if_neg fun he => by rw [he, hnone] at h; cases h]
    exact h

variable (V)

/-- What the concurrent requests need of a store's calls: `GetVolume` answers a record that is held
and changes nothing, `ListVolumes` changes nothing, and `UpdateVolume` of a marked copy of a held
record is quiet. -/
structure Calls (st : Store σ) : Prop where
  get : ∀ (φ : Type) (id : String),
    Proc.Guards (V.Rely (φ := φ)) V.Quiet V.Answered (fun w => V.Keyed w.1) (st.getVolume id).onFst
  list : ∀ φ : Type,
    Proc.Guards (V.Rely (φ := φ)) V.Quiet (fun _ w => V.Keyed w.1) (fun w => V.Keyed w.1)
      st.listVolumes.onFst
  update : ∀ (φ : Type) (c c' : Volume), c'.id = c.id → c'.unmarked = c.unmarked →
    Proc.Guards (V.Rely (φ := φ)) V.Quiet (fun _ w => V.Keyed w.1) (fun w => V.Holds c w.1)
      (st.updateVolume c').onFst

end View

/-! ## The handlers -/

namespace VolumeHandler

variable {σ φ : Type} {V : View σ} {st : Store σ} (h : V.Calls st)
include h

/-- HandleGet takes only quiet steps and keeps the records under their own IDs, whatever the other
requests do. -/
theorem guards_handleGet (id : String) :
    Proc.Guards V.Rely V.Quiet (fun _ w => V.Keyed w.1) (fun w => V.Keyed w.1)
      (handleGet st id : Proc (σ × φ) Response) := by
  refine (h.get φ id).bind fun r => ?_
  rcases r with (_ | _ | _) | c <;> exact View.guards_done_answered _ _

/-- HandleList takes only quiet steps and keeps the records under their own IDs, whatever the other
requests do. -/
theorem guards_handleList :
    Proc.Guards V.Rely V.Quiet (fun _ w => V.Keyed w.1) (fun w => V.Keyed w.1)
      (handleList st : Proc (σ × φ) Response) := by
  refine (h.list φ).bind fun r => ?_
  rcases r with _ | _ <;> exact View.guards_done_keyed _

/-- A stage or a publish whose mark keeps a record's ID and what stage and publish leave of it. -/
theorem guards_handleNodeRequest (reg : Storage.Registry φ) (id : String)
    (req : Except String (NodeRequest φ)) (failure : String) (mark : Volume → String → Int → Volume)
    (env : RequestEnv)
    (hmark : ∀ v n t, (mark v n t).id = v.id ∧ (mark v n t).unmarked = v.unmarked) :
    Proc.Guards V.Rely V.Quiet (fun _ w => V.Keyed w.1) (fun w => V.Keyed w.1)
      (handleNodeRequest st reg id req failure mark env) := by
  rcases req with _ | req
  · exact View.guards_done_keyed _
  refine (h.get φ id).bind fun r => ?_
  rcases r with (_ | _ | _) | c
  iterate 3 exact View.guards_done_answered _ _
  dsimp only
  split
  · exact View.guards_done_answered _ _
  refine (Proc.Guards.onSnd (View.stable_answered _) (fun _ _ hw => hw) View.quiet_snd _).bind
    fun r => ?_
  rcases r with _ | ⟨⟩
  · exact View.guards_done_answered _ _
  refine ((h.update φ c _ (hmark ..).1 (hmark ..).2).pre (View.stable_answered _)
    fun _ hw => hw.2 c rfl).bind fun _ => ?_
  exact View.guards_done_keyed _

end VolumeHandler

/-- A request that may run beside creates: a read of one volume, the listing, a stage or a
publish. -/
inductive Concurrent where
  | get (id : String)
  | list
  | stage (id : String) (body : JsonObject) (env : RequestEnv)
  | publish (id : String) (body : JsonObject) (env : RequestEnv)

namespace Concurrent

variable {σ φ : Type}

/-- The handler that serves the request. -/
def handler (st : Store σ) (reg : Storage.Registry φ) : Concurrent → Proc (σ × φ) Response
  | get id => VolumeHandler.handleGet st id
  | list => VolumeHandler.handleList st
  | stage id body env => VolumeHandler.handleStage st reg id body env
  | publish id body env => VolumeHandler.handlePublish st reg id body env

/-- On a store with `View.Calls`, every such request keeps to `Quiet` while the others keep to
`Rely`. -/
theorem guards {V : View σ} {st : Store σ} (h : V.Calls st) (reg : Storage.Registry φ) :
    ∀ o : Concurrent, Proc.Guards V.Rely V.Quiet (fun _ w => V.Keyed w.1) (fun w => V.Keyed w.1)
      (o.handler st reg)
  | get id => VolumeHandler.guards_handleGet h id
  | list => VolumeHandler.guards_handleList h
  | stage .. => VolumeHandler.guards_handleNodeRequest h reg _ _ _ _ _ fun _ _ _ => ⟨rfl, rfl⟩
  | publish .. => VolumeHandler.guards_handleNodeRequest h reg _ _ _ _ _ fun _ _ _ => ⟨rfl, rfl⟩

end Concurrent

/-! ## The two stores -/

namespace MemoryStore

/-- The memory store's records and name index. -/
def view : View MemoryStore := ⟨fun s => s.volumes.lookup, fun s => s.names.lookup⟩

/-- The memory store answers every call in one step under its mutex. -/
theorem calls : view.Calls store where
  get φ id := by
    rw [store, Proc.onFst_atomic]
    refine .atomic View.stable_keyed View.stable_answered fun w hk => ⟨View.quiet_self w, hk, ?_⟩
    intro c hc
    simp only [MemoryStore.getVolume] at hc
    split at hc
    · cases hc
      exact View.holds_of_records hk ‹_›
    · cases hc
  list φ := by
    rw [store, Proc.onFst_atomic]
    exact .atomic View.stable_keyed (fun _ => View.stable_keyed) fun w hk => ⟨View.quiet_self w, hk⟩
  update φ c c' hid hun := by
    rw [store, Proc.onFst_atomic]
    refine .atomic (View.stable_holds c) (fun _ => View.stable_keyed) fun ⟨s, f⟩ hold => ?_
    unfold MemoryStore.updateVolume
    split_ifs
    · dsimp only
      refine View.quiet_writeBack hold hid hun ?_ (fun id => ?_) f f
      · rfl
      by_cases he : id = c'.id
      · simp [view, he]
      · simp [view, he, Finmap.lookup_insert_of_ne]
    · exact ⟨View.quiet_self _, hold.1⟩

end MemoryStore

namespace EtcdStore

open Etcd

variable (codec : VolumeCodec)

/-- The etcd store's records, decoded, and its name index. -/
def view : View KV := ⟨recordAt codec, fun kv n => kv.lookup (nameKey n)⟩

/-- The etcd store's calls, with a codec that reads back what it writes: `GetVolume` and
`ListVolumes` are one `Get` each, and `UpdateVolume` writes only after its existence `Get`. -/
theorem calls (hrt : codec.RoundTrips) : (view codec).Calls (store codec) where
  get φ id := by
    change Proc.Guards _ _ _ _ (getVolume codec id).onFst
    rw [getVolume_eq, Proc.onFst_atomic]
    refine .atomic View.stable_keyed View.stable_answered fun w hk => ⟨View.quiet_self w, hk, ?_⟩
    exact fun c hc => View.holds_of_records hk ((decodeAt_eq_ok codec).1 hc)
  list φ := by
    simp only [store, listVolumes, getPrefix, Proc.bind_eq, Proc.onFst_bind, Proc.onFst_atomic]
    refine (Proc.Guards.atomic (Q := fun _ w => (view codec).Keyed w.1) View.stable_keyed
      (fun _ => View.stable_keyed) fun w hk => ⟨View.quiet_self w, hk⟩).bind fun _ => ?_
    exact View.guards_done_keyed _
  update φ c c' hid hun := by
    simp only [store, updateVolume, Etcd.get, Proc.bind_eq, Proc.onFst_bind, Proc.onFst_atomic]
    refine (Proc.Guards.atomic (Q := fun _ w => (view codec).Holds c w.1) (View.stable_holds c)
      (fun _ => View.stable_holds c) fun w hold => ⟨View.quiet_self w, hold⟩).bind fun r => ?_
    split_ifs
    · exact View.guards_done (View.stable_holds c) (fun _ hw => hw.1) _
    split
    · exact View.guards_done (View.stable_holds c) (fun _ hw => hw.1) _
    rename_i data hm
    simp only [Etcd.put, Proc.bind_eq, Proc.onFst_bind, Proc.onFst_atomic]
    refine (Proc.Guards.atomic (Q := fun _ w => (view codec).Keyed w.1) (View.stable_holds c)
      (fun _ => View.stable_keyed) fun w hold => View.quiet_writeBack hold hid hun ?_ ?_ _ _).bind
      fun _ => View.guards_done_keyed _
    · funext n
      exact Finmap.lookup_insert_of_ne _ (nameKey_ne_volumeKey n c'.id)
    · exact recordAt_insert_volumeKey codec hrt hm w.1

end EtcdStore

end VolumeManager
