import VolumeManager.Store.Basic

/-!
# The in-memory store (`store.MemoryStore`)

`MemoryStore` keeps the records by ID and a name index; every call runs under the store's mutex,
so it is one atomic step (`MemoryStore.store`). The Go store hands out the stored pointer and the
stage and publish handlers mutate it before writing it back: with the handler's write-back following
at once, the state a sequence of calls reaches is the one computed here with value semantics.

* `IndexInverse`: the two maps are mutually inverse, `names[n] = id` iff `volumes[id]` is a record
  named `n`.
* `indexInverse_createVolume`, `indexInverse_updateVolume`, `indexInverse_deleteVolume`: every call
  keeps it, the update when it writes back the name of the record it replaces (`Call.KeepsName`,
  what the stage and publish handlers guarantee by writing back a record they just read).
* `memoryStore_index_inverse`: along every admissible sequence of calls from the empty store the
  maps stay inverse, no two records share a name, `GetVolumeByName n` answers exactly the record
  named `n` and `DeleteVolume id` removes exactly the index entry of the record it deletes.
-/

namespace VolumeManager

/-- `store.MemoryStore`: the records by ID and the name index. -/
structure MemoryStore where
  volumes : StrMap Volume
  names : StrMap String

namespace MemoryStore

/-- `store.NewMemoryStore`. -/
def empty : MemoryStore := ⟨∅, ∅⟩

/-- `MemoryStore.CreateVolume`. -/
def createVolume (s : MemoryStore) (v : Volume) : Except StoreError Unit × MemoryStore :=
  if v.id ∈ s.volumes then (.error .alreadyExists, s)
  else if v.name ∈ s.names then (.error .alreadyExists, s)
  else (.ok (), ⟨s.volumes.insert v.id v, s.names.insert v.name v.id⟩)

/-- `MemoryStore.GetVolume`. -/
def getVolume (s : MemoryStore) (id : String) : Except StoreError Volume :=
  match s.volumes.lookup id with
  | some v => .ok v
  | none => .error .notFound

/-- `MemoryStore.GetVolumeByName`. -/
def getVolumeByName (s : MemoryStore) (name : String) : Except StoreError Volume :=
  match s.names.lookup name with
  | some id => s.getVolume id
  | none => .error .notFound

/-- `MemoryStore.ListVolumes`. -/
def listVolumes (s : MemoryStore) : Multiset Volume := s.volumes.entries.map Sigma.snd

/-- `MemoryStore.UpdateVolume`. -/
def updateVolume (s : MemoryStore) (v : Volume) : Except StoreError Unit × MemoryStore :=
  if v.id ∈ s.volumes then (.ok (), { s with volumes := s.volumes.insert v.id v })
  else (.error .notFound, s)

/-- `MemoryStore.DeleteVolume`. -/
def deleteVolume (s : MemoryStore) (id : String) : Except StoreError Unit × MemoryStore :=
  match s.volumes.lookup id with
  | some v => (.ok (), ⟨s.volumes.erase id, s.names.erase v.name⟩)
  | none => (.error .notFound, s)

/-- The memory store behind the `Store` interface: each call is one atomic step. -/
def store : Store MemoryStore where
  createVolume v := .atomic fun s => s.createVolume v
  getVolume id := .atomic fun s => (s.getVolume id, s)
  getVolumeByName name := .atomic fun s => (s.getVolumeByName name, s)
  listVolumes := .atomic fun s => (.ok s.listVolumes, s)
  updateVolume v := .atomic fun s => s.updateVolume v
  deleteVolume id := .atomic fun s => s.deleteVolume id

/-- A create refuses a name that is taken and changes nothing. -/
theorem createVolume_of_mem_names {s : MemoryStore} {v : Volume} (h : v.name ∈ s.names) :
    s.createVolume v = (.error .alreadyExists, s) := by
  unfold createVolume
  split_ifs <;> rfl

/-- A create that succeeds takes the record's name. -/
theorem mem_names_createVolume {s : MemoryStore} {v : Volume} (h : (s.createVolume v).1 = .ok ()) :
    v.name ∈ (s.createVolume v).2.names := by
  unfold createVolume at h ⊢
  split_ifs at h ⊢
  exact Finmap.mem_insert.2 (.inl rfl)

/-- The memory store keeps the store laws. -/
theorem laws : store.Laws where
  get_keeps _ _ := rfl
  create_get v s s' h := by
    change s.createVolume v = _ at h
    unfold createVolume at h
    split_ifs at h <;> cases h
    simp [store, getVolume]
  delete_get id s s' h := by
    change s.deleteVolume id = _ at h
    unfold deleteVolume at h
    split at h
    · cases h
      simp [store, getVolume]
    · cases h
  list_keeps _ := rfl
  create_list v s s' hfresh h := by
    change s.createVolume v = _ at h
    have hid : v.id ∉ s.volumes := fun hm => by
      change s.getVolume v.id = _ at hfresh
      obtain ⟨w, hw⟩ := Finmap.mem_iff.1 hm
      simp [getVolume, hw] at hfresh
    unfold createVolume at h
    split_ifs at h <;> cases h
    change Except.ok (listVolumes _) = Except.ok (v ::ₘ listVolumes s)
    simp [listVolumes, Finmap.insert_entries_of_neg hid]

/-! ## The name index is the inverse of the records -/

/-- `names[n] = id` iff `volumes[id]` is a record named `n`. -/
def IndexInverse (s : MemoryStore) : Prop :=
  ∀ n id, s.names.lookup n = some id ↔ ∃ v, s.volumes.lookup id = some v ∧ v.name = n

/-- The state after a call. -/
def apply (s : MemoryStore) : Call → MemoryStore
  | .createVolume v => (s.createVolume v).2
  | .updateVolume v => (s.updateVolume v).2
  | .deleteVolume id => (s.deleteVolume id).2
  | .getVolume _ | .getVolumeByName _ | .listVolumes => s

/-- An update writes back the name of the record it replaces. -/
def KeepsName (s : MemoryStore) : Call → Prop
  | .updateVolume v => ∀ w, s.volumes.lookup v.id = some w → w.name = v.name
  | _ => True

/-- Every update of the sequence, in the state it meets, keeps the stored name. -/
def Admissible (s : MemoryStore) : List Call → Prop
  | [] => True
  | c :: cs => s.KeepsName c ∧ Admissible (s.apply c) cs

/-- The state a sequence of calls reaches. -/
def applyAll (s : MemoryStore) (calls : List Call) : MemoryStore := calls.foldl apply s

/-- A call through the interface reaches the state `apply` computes. -/
theorem run_call_snd (s : MemoryStore) (c : Call) : ((store.call c).run s).2 = s.apply c := by
  cases c <;> rfl

/-- In the empty store the name index is the inverse of the records. -/
theorem indexInverse_empty : IndexInverse empty := by
  intro n id
  simp [empty]

variable {s : MemoryStore}

/-- Under the invariant an unindexed name names no record. -/
theorem IndexInverse.name_free (hs : IndexInverse s) {n : String} (hn : n ∉ s.names) :
    ∀ id v, s.volumes.lookup id = some v → v.name ≠ n := by
  intro id v hv hvn
  exact hn (Finmap.mem_of_lookup_eq_some ((hs n id).2 ⟨v, hv, hvn⟩))

/-- Under the invariant no index entry points at an ID without a record. -/
theorem IndexInverse.id_free (hs : IndexInverse s) {id : String} (hid : id ∉ s.volumes) :
    ∀ n, s.names.lookup n ≠ some id := by
  intro n hn
  obtain ⟨v, hv, -⟩ := (hs n id).1 hn
  exact hid (Finmap.mem_of_lookup_eq_some hv)

/-- A create keeps the name index the inverse of the records. -/
theorem indexInverse_createVolume (hs : IndexInverse s) (v : Volume) :
    IndexInverse (s.createVolume v).2 := by
  unfold createVolume
  split_ifs with hid hname
  · exact hs
  · exact hs
  · intro n id
    simp only
    by_cases hn : n = v.name
    · subst hn
      by_cases hi : id = v.id
      · subst hi; simp
      · simp only [Finmap.lookup_insert, Option.some.injEq, Finmap.lookup_insert_of_ne _ hi]
        exact ⟨fun h => absurd h.symm hi, fun ⟨w, hw, hwn⟩ => absurd hwn (hs.name_free hname id w hw)⟩
    · rw [Finmap.lookup_insert_of_ne _ hn, hs n id]
      by_cases hi : id = v.id
      · subst hi
        simp only [Finmap.lookup_insert, Option.some.injEq, exists_eq_left']
        exact ⟨fun ⟨w, hw, _⟩ => absurd (Finmap.mem_of_lookup_eq_some hw) hid, fun h => absurd h.symm hn⟩
      · rw [Finmap.lookup_insert_of_ne _ hi]

/-- An update that keeps the stored name keeps the name index the inverse of the records. -/
theorem indexInverse_updateVolume (hs : IndexInverse s) {v : Volume}
    (hk : s.KeepsName (.updateVolume v)) :
    IndexInverse (s.updateVolume v).2 := by
  unfold updateVolume
  split_ifs with hid
  · intro n id
    rw [hs n id]
    by_cases hi : id = v.id
    · subst hi
      obtain ⟨w, hw⟩ := Finmap.mem_iff.mp hid
      simp only [Finmap.lookup_insert, Option.some.injEq, exists_eq_left', hw, ← hk w hw]
    · simp only [Finmap.lookup_insert_of_ne _ hi]
  · exact hs

/-- A delete keeps the name index the inverse of the records. -/
theorem indexInverse_deleteVolume (hs : IndexInverse s) (id : String) :
    IndexInverse (s.deleteVolume id).2 := by
  unfold deleteVolume
  split
  · next v hv =>
    intro n id'
    by_cases hi : id' = id
    · subst hi
      simp only [Finmap.lookup_erase, reduceCtorEq, false_and, exists_false, iff_false]
      intro h
      by_cases hn : n = v.name
      · subst hn; simp at h
      · rw [Finmap.lookup_erase_ne hn, hs] at h
        obtain ⟨w, hw, rfl⟩ := h
        rw [hv, Option.some.injEq] at hw
        exact hn (congrArg Volume.name hw).symm
    · rw [Finmap.lookup_erase_ne hi]
      by_cases hn : n = v.name
      · subst hn
        simp only [Finmap.lookup_erase, reduceCtorEq, false_iff, not_exists, not_and]
        intro w hw hwn
        exact hi (Option.some.inj (((hs _ _).2 ⟨w, hw, hwn⟩).symm.trans ((hs _ _).2 ⟨v, hv, rfl⟩)))
      · rw [Finmap.lookup_erase_ne hn, hs]
  · exact hs

/-- Each call that keeps the stored name keeps the name index the inverse of the records. -/
theorem indexInverse_apply (hs : IndexInverse s) {c : Call} (hk : s.KeepsName c) :
    IndexInverse (s.apply c) := by
  cases c with
  | createVolume v => exact indexInverse_createVolume hs v
  | updateVolume v => exact indexInverse_updateVolume hs hk
  | deleteVolume id => exact indexInverse_deleteVolume hs id
  | getVolume _ | getVolumeByName _ | listVolumes => exact hs

/-- Every admissible sequence of calls keeps the name index the inverse of the records. -/
theorem indexInverse_applyAll :
    ∀ (calls : List Call) (s : MemoryStore), IndexInverse s → Admissible s calls →
      IndexInverse (s.applyAll calls)
  | [], _, hs, _ => hs
  | _ :: cs, _, hs, ⟨hk, hcs⟩ => indexInverse_applyAll cs _ (indexInverse_apply hs hk) hcs

/-- Under the invariant no two records share a name. -/
theorem IndexInverse.id_eq_of_name_eq (hs : IndexInverse s) {i j : String} {v w : Volume}
    (hv : s.volumes.lookup i = some v) (hw : s.volumes.lookup j = some w)
    (h : v.name = w.name) : i = j :=
  Option.some.inj (((hs _ _).2 ⟨v, hv, h⟩).symm.trans ((hs _ _).2 ⟨w, hw, rfl⟩))

/-- Under the invariant `GetVolumeByName n` answers exactly the record named `n`. -/
theorem IndexInverse.getVolumeByName_eq_ok (hs : IndexInverse s) (n : String) (v : Volume) :
    s.getVolumeByName n = .ok v ↔ (∃ id, s.volumes.lookup id = some v) ∧ v.name = n := by
  unfold getVolumeByName
  split
  · next id hid =>
    obtain ⟨w, hw, rfl⟩ := (hs _ _).1 hid
    simp only [getVolume, hw, Except.ok.injEq]
    constructor
    · rintro rfl; exact ⟨⟨id, hw⟩, rfl⟩
    · rintro ⟨⟨id', hv⟩, hvn⟩
      cases hs.id_eq_of_name_eq hv hw hvn
      exact Option.some.inj (hw.symm.trans hv)
  · next hn =>
    simp only [reduceCtorEq, false_iff, not_and, forall_exists_index]
    exact fun id hv hvn => by simp [(hs _ _).2 ⟨v, hv, hvn⟩] at hn

/-- Under the invariant `DeleteVolume id` removes exactly the index entries that point at `id`. -/
theorem IndexInverse.deleteVolume_names (hs : IndexInverse s) (id n : String) :
    (s.deleteVolume id).2.names.lookup n =
      if s.names.lookup n = some id then none else s.names.lookup n := by
  unfold deleteVolume
  split
  · next v hv =>
    have hpoint : s.names.lookup n = some id ↔ n = v.name := by
      rw [hs]; simp [hv, eq_comm]
    by_cases hn : n = v.name
    · subst hn; simp [hpoint]
    · simp [Finmap.lookup_erase_ne hn, hpoint, hn]
  · next hid =>
    have hfree := hs.id_free (Finmap.lookup_eq_none.mp hid) n
    simp [hfree]

/-- What the name index guarantees in a state where it is the inverse of the records. -/
structure IndexLaws (s : MemoryStore) : Prop where
  inverse : IndexInverse s
  name_unique : ∀ i j v w, s.volumes.lookup i = some v → s.volumes.lookup j = some w →
    v.name = w.name → i = j
  getVolumeByName_eq_ok : ∀ n v,
    s.getVolumeByName n = .ok v ↔ (∃ id, s.volumes.lookup id = some v) ∧ v.name = n
  deleteVolume_names : ∀ id n, (s.deleteVolume id).2.names.lookup n =
    if s.names.lookup n = some id then none else s.names.lookup n

/-- Where the name index is the inverse of the records, its laws hold. -/
theorem IndexInverse.laws (hs : IndexInverse s) : IndexLaws s :=
  ⟨hs, fun _ _ _ _ => hs.id_eq_of_name_eq, hs.getVolumeByName_eq_ok, hs.deleteVolume_names⟩

/-- Along every sequence of calls from the empty store in which each update writes back the stored
name, the two maps stay inverse, with the laws that follow. -/
theorem memoryStore_index_inverse (calls : List Call) (h : Admissible empty calls) :
    IndexLaws (empty.applyAll calls) :=
  (indexInverse_applyAll calls empty indexInverse_empty h).laws

/-- Create, stage and delete from the empty store is admissible, and the laws of the name index hold
after it. -/
theorem memoryStore_index_inverse_create_stage_delete :
    Admissible empty [.createVolume ⟨"a", "demo", "local", ∅, .created, [], [], 0, 0⟩,
      .updateVolume ⟨"a", "demo", "local", ∅, .staged, ["n1"], [], 0, 1⟩, .deleteVolume "a"] ∧
    IndexLaws (empty.applyAll [.createVolume ⟨"a", "demo", "local", ∅, .created, [], [], 0, 0⟩,
      .updateVolume ⟨"a", "demo", "local", ∅, .staged, ["n1"], [], 0, 1⟩, .deleteVolume "a"]) :=
  have h : Admissible empty [.createVolume ⟨"a", "demo", "local", ∅, .created, [], [], 0, 0⟩,
      .updateVolume ⟨"a", "demo", "local", ∅, .staged, ["n1"], [], 0, 1⟩, .deleteVolume "a"] := by
    simp [Admissible, KeepsName, apply, createVolume, empty, Finmap.not_mem_empty]
  ⟨h, memoryStore_index_inverse _ h⟩

end MemoryStore

end VolumeManager
