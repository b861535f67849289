import VolumeManager.Store.Memory
import VolumeManager.Store.Etcd

/-!
# The two stores side by side

Both implementations of `store.Store` are meant to be interchangeable. They check for an existing
record differently: `MemoryStore.CreateVolume` looks the new record's ID up and then its name,
`EtcdStore.CreateVolume` only the name key.

* `stores_disagree_on_reused_id`: a second `CreateVolume` under a stored ID and a fresh name fails
  with `ErrAlreadyExists` on the memory store and succeeds on the etcd store, which overwrites the
  stored record and indexes a second name for it.
* `Represents codec s kv`: the keyspace holds exactly the memory store's records under their ID keys,
  each as a text that decodes to it, and its name index under the name keys.
* `represents_call`: from corresponding states, a call other than a create under a stored ID or a
  write of a record `json.Marshal` refuses returns the same reply on both stores and leads to
  corresponding states. The memory store never encodes, so a refused record makes only the etcd
  store fail.
* `etcd_agrees_with_memory`: so on every sequence of calls from the empty stores in which no create
  reuses a stored ID and every record written encodes, the two stores return the same replies at
  every step (listings as multisets), with a codec that decodes what it encodes.
-/

namespace VolumeManager

open Etcd EtcdStore

variable (codec : VolumeCodec)

/-- A second create under a stored ID and a fresh name: `ErrAlreadyExists` on the memory store,
success on the etcd store, with any codec that writes the two records. -/
theorem stores_disagree_on_reused_id
    (hx : codec.Writes ⟨"a", "x", "local", ∅, .created, [], [], 0, 0⟩)
    (hy : codec.Writes ⟨"a", "y", "local", ∅, .created, [], [], 1, 1⟩) :
    (MemoryStore.store.runCalls .empty [.createVolume ⟨"a", "x", "local", ∅, .created, [], [], 0, 0⟩,
      .createVolume ⟨"a", "y", "local", ∅, .created, [], [], 1, 1⟩]).1 =
        [.unit (.ok ()), .unit (.error .alreadyExists)] ∧
    ((EtcdStore.store codec).runCalls ∅ [.createVolume ⟨"a", "x", "local", ∅, .created, [], [], 0, 0⟩,
      .createVolume ⟨"a", "y", "local", ∅, .created, [], [], 1, 1⟩]).1 =
        [.unit (.ok ()), .unit (.ok ())] := by
  obtain ⟨dx, hx⟩ := hx
  obtain ⟨dy, hy⟩ := hy
  constructor
  · simp [Store.runCalls, Store.call, MemoryStore.store, MemoryStore.createVolume,
      MemoryStore.empty, Proc.run_bind, Finmap.not_mem_empty]
  · simp [Store.runCalls, Store.call, EtcdStore.store, run_createVolume, Proc.run_bind,
      Finmap.not_mem_empty, hx, hy]

/-- With the tally codec, which writes every record: the memory store refuses the second create under
ID `a` and the etcd store accepts it. -/
theorem stores_disagree_on_reused_id_tally :
    VolumeCodec.tally.Writes ⟨"a", "x", "local", ∅, .created, [], [], 0, 0⟩ ∧
    VolumeCodec.tally.Writes ⟨"a", "y", "local", ∅, .created, [], [], 1, 1⟩ ∧
    (MemoryStore.store.runCalls .empty [.createVolume ⟨"a", "x", "local", ∅, .created, [], [], 0, 0⟩,
      .createVolume ⟨"a", "y", "local", ∅, .created, [], [], 1, 1⟩]).1 =
        [.unit (.ok ()), .unit (.error .alreadyExists)] ∧
    ((EtcdStore.store .tally).runCalls ∅ [.createVolume ⟨"a", "x", "local", ∅, .created, [], [], 0, 0⟩,
      .createVolume ⟨"a", "y", "local", ∅, .created, [], [], 1, 1⟩]).1 =
        [.unit (.ok ()), .unit (.ok ())] :=
  ⟨VolumeCodec.tally_writes _, VolumeCodec.tally_writes _,
    stores_disagree_on_reused_id .tally (VolumeCodec.tally_writes _) (VolumeCodec.tally_writes _)⟩

/-- The keyspace holds exactly the memory store's records under their ID keys, each as a text that
decodes to it, and its name index under the name keys. -/
structure Represents (s : MemoryStore) (kv : KV) : Prop where
  records : ∀ id, (kv.lookup (volumeKey id)).map codec.unmarshal = (s.volumes.lookup id).map some
  index : ∀ n, kv.lookup (nameKey n) = s.names.lookup n

/-- The empty keyspace represents the empty memory store. -/
theorem represents_empty : Represents codec .empty ∅ :=
  ⟨fun _ => by simp [MemoryStore.empty], fun _ => by simp [MemoryStore.empty]⟩

variable {codec} {s : MemoryStore} {kv : KV}

/-- A represented record's ID key is in the keyspace exactly when the memory store holds the ID. -/
theorem Represents.mem_volumeKey (h : Represents codec s kv) (id : String) :
    volumeKey id ∈ kv ↔ id ∈ s.volumes := by
  have := congrArg Option.isSome (h.records id)
  rw [Option.isSome_map', Option.isSome_map'] at this
  rw [← Finmap.lookup_isSome, ← Finmap.lookup_isSome, this]

/-- A name key is in the keyspace exactly when the memory store indexes the name. -/
theorem Represents.mem_nameKey (h : Represents codec s kv) (n : String) :
    nameKey n ∈ kv ↔ n ∈ s.names := by
  rw [← Finmap.lookup_isSome, h.index, ← Finmap.lookup_isSome]

/-- Reading a record from a represented keyspace gives what the memory store's GetVolume gives. -/
theorem Represents.decodeAt (h : Represents codec s kv) (id : String) :
    EtcdStore.decodeAt codec kv id = s.getVolume id := by
  have := h.records id
  unfold EtcdStore.decodeAt MemoryStore.getVolume
  revert this
  rcases kv.lookup (volumeKey id) with _ | d <;> rcases s.volumes.lookup id with _ | v <;>
    simp only [Option.map_none', Option.map_some', reduceCtorEq, Option.some.injEq, imp_self,
      false_implies]
  intro hd
  rw [hd]

/-- A key starts with the record prefix exactly when it is the key of some ID. -/
theorem isPrefixOf_volumePrefix {k : String} :
    volumePrefix.data.isPrefixOf k.data = true ↔ ∃ id, k = volumeKey id := by
  rw [List.isPrefixOf_iff_prefix]
  constructor
  · rintro ⟨t, ht⟩
    exact ⟨⟨t⟩, String.ext (by rw [← ht]; rfl)⟩
  · rintro ⟨id, rfl⟩
    exact ⟨id.data, rfl⟩

/-- Two entries of a finite map under one key are the same entry. -/
theorem entries_eq_of_fst_eq {β : Type} {m : Finmap fun _ : String => β} {e e' : (_ : String) × β}
    (he : e ∈ m.entries) (he' : e' ∈ m.entries) (h : e.1 = e'.1) : e = e' := by
  obtain ⟨k, b⟩ := e
  obtain ⟨k', b'⟩ := e'
  obtain rfl : k = k' := h
  rw [← Finmap.lookup_eq_some_iff] at he he'
  rw [he] at he'
  cases he'
  rfl

/-- The entries under the record prefix, each with its value decoded, are the memory store's records
under their ID keys. -/
theorem Represents.entries_filter (h : Represents codec s kv) :
    (kv.entries.filter fun e => volumePrefix.data.isPrefixOf e.1.data = true).map
        (fun e => (e.1, codec.unmarshal e.2)) =
      s.volumes.entries.map fun e => (volumeKey e.1, some e.2) := by
  refine (Multiset.Nodup.ext
    (((Finmap.nodup_entries kv).filter _).map_on fun a ha b hb hab =>
      entries_eq_of_fst_eq (Multiset.mem_of_mem_filter ha) (Multiset.mem_of_mem_filter hb)
        (congrArg Prod.fst hab))
    ((Finmap.nodup_entries s.volumes).map_on fun a ha b hb hab =>
      entries_eq_of_fst_eq ha hb (volumeKey_injective (congrArg Prod.fst hab)))).2
    fun ⟨k, o⟩ => ?_
  simp only [Multiset.mem_map, Multiset.mem_filter, Sigma.exists, ← Finmap.lookup_eq_some_iff,
    isPrefixOf_volumePrefix, Prod.mk.injEq]
  constructor
  · rintro ⟨_, d, ⟨hd, id, rfl⟩, rfl, rfl⟩
    have := h.records id
    rw [hd, Option.map_some'] at this
    obtain ⟨v, hv, hvd⟩ := Option.map_eq_some'.1 this.symm
    exact ⟨id, v, hv, rfl, hvd⟩
  · rintro ⟨id, v, hv, rfl, rfl⟩
    have := h.records id
    rw [hv, Option.map_some'] at this
    obtain ⟨d, hd, hdv⟩ := Option.map_eq_some'.1 this
    exact ⟨_, d, ⟨hd, id, rfl⟩, rfl, hdv⟩

/-- Decoding the entries under the record prefix gives the memory store's listing, as a multiset. -/
theorem Represents.listVolumes (h : Represents codec s kv) :
    ((kv.entries.filter fun e => volumePrefix.data.isPrefixOf e.1.data = true).map Sigma.snd).filterMap
      codec.unmarshal = s.listVolumes := by
  have := congrArg (Multiset.filterMap Prod.snd) h.entries_filter
  rw [Multiset.filterMap_map, Multiset.filterMap_map] at this
  rw [Multiset.filterMap_map, MemoryStore.listVolumes, ← Multiset.filterMap_eq_map]
  exact this

/-- A create that the codec writes keeps the two stores in correspondence. -/
theorem Represents.createVolume (hrt : codec.RoundTrips) (h : Represents codec s kv) {v : Volume}
    {data : String} (hm : codec.marshal v = .ok data) :
    Represents codec ⟨s.volumes.insert v.id v, s.names.insert v.name v.id⟩
      ((kv.insert (volumeKey v.id) data).insert (nameKey v.name) v.id) := by
  constructor
  · intro id
    by_cases hi : id = v.id
    · subst hi; simp [Finmap.lookup_insert_of_ne, hrt _ _ hm]
    · simp [Finmap.lookup_insert_of_ne, hi, h.records]
  · intro n
    by_cases hn : n = v.name
    · subst hn; simp
    · simp [Finmap.lookup_insert_of_ne, hn, h.index]

/-- An update that the codec writes keeps the two stores in correspondence. -/
theorem Represents.updateVolume (hrt : codec.RoundTrips) (h : Represents codec s kv) {v : Volume}
    {data : String} (hm : codec.marshal v = .ok data) :
    Represents codec { s with volumes := s.volumes.insert v.id v }
      (kv.insert (volumeKey v.id) data) := by
  constructor
  · intro id
    by_cases hi : id = v.id
    · subst hi; simp [hrt _ _ hm]
    · simp [Finmap.lookup_insert_of_ne, hi, h.records]
  · intro n
    simp [Finmap.lookup_insert_of_ne, h.index]

/-- Erasing an ID and a name from both keeps the two stores in correspondence. -/
theorem Represents.deleteVolume (h : Represents codec s kv) (id name : String) :
    Represents codec ⟨s.volumes.erase id, s.names.erase name⟩
      ((kv.erase (volumeKey id)).erase (nameKey name)) := by
  constructor
  · intro id'
    by_cases hi : id' = id
    · subst hi; simp
    · simp [Finmap.lookup_erase_ne, hi, h.records]
  · intro n
    by_cases hn : n = name
    · subst hn; simp
    · simp [Finmap.lookup_erase_ne, hn, h.index]

/-- The records a call writes: the argument of a create or an update. -/
def Call.written : Call → Option Volume
  | .createVolume v | .updateVolume v => some v
  | _ => none

/-- One call from corresponding states: the same reply, and corresponding states after it, unless
the call creates a record under a stored ID or writes one the codec refuses. -/
theorem represents_call (hrt : codec.RoundTrips) (h : Represents codec s kv) (c : Call)
    (hc : ∀ v, c = .createVolume v → v.id ∉ s.volumes) (hw : ∀ v, c.written = some v → codec.Writes v) :
    (((EtcdStore.store codec).call c).run kv).1 = ((MemoryStore.store.call c).run s).1 ∧
      Represents codec (s.apply c) (((EtcdStore.store codec).call c).run kv).2 := by
  cases c <;>
    simp only [Store.call, EtcdStore.store, MemoryStore.store, Proc.run_bind, MemoryStore.apply]
  case createVolume v =>
    obtain ⟨data, hm⟩ := hw v rfl
    by_cases hn : v.name ∈ s.names <;>
      simp [run_createVolume, MemoryStore.createVolume, hc v rfl, hn, h.mem_nameKey, h, hm,
        h.createVolume hrt hm]
  case getVolume id => simp [run_getVolume, h.decodeAt, h]
  case getVolumeByName name =>
    cases hn : s.names.lookup name <;>
      simp [run_getVolumeByName, h.index, hn, h.decodeAt, MemoryStore.getVolumeByName, h]
  case listVolumes =>
    simp only [EtcdStore.listVolumes, getPrefix, Proc.atomic, Proc.bind_eq, Proc.step_bind,
      Proc.done_bind, Proc.run_step, Proc.run_done, Proc.pure_eq, h.listVolumes]
    exact ⟨trivial, h⟩
  case updateVolume v =>
    obtain ⟨data, hm⟩ := hw v rfl
    by_cases hid : v.id ∈ s.volumes <;>
      simp [run_updateVolume, MemoryStore.updateVolume, hid, h.mem_volumeKey, h, hm,
        h.updateVolume hrt hm]
  case deleteVolume id =>
    cases hv : s.volumes.lookup id <;>
      simp [run_deleteVolume, h.decodeAt, MemoryStore.deleteVolume, MemoryStore.getVolume, hv,
        h.deleteVolume, h]

/-- No create of the sequence reuses an ID stored at its turn. -/
def ReusesNoId : MemoryStore → List Call → Prop
  | _, [] => True
  | s, c :: cs => (∀ v, c = .createVolume v → v.id ∉ s.volumes) ∧ ReusesNoId (s.apply c) cs

/-- From corresponding states, a sequence of calls that reuses no ID and writes only records the codec
encodes gets the same replies from both stores. -/
theorem runCalls_agree (hrt : codec.RoundTrips) :
    ∀ (calls : List Call) (s : MemoryStore) (kv : KV), Represents codec s kv → ReusesNoId s calls →
      (∀ c ∈ calls, ∀ v, c.written = some v → codec.Writes v) →
      ((EtcdStore.store codec).runCalls kv calls).1 = (MemoryStore.store.runCalls s calls).1
  | [], _, _, _, _, _ => rfl
  | c :: cs, s, kv, h, ⟨hc, hcs⟩, hw => by
    have hstep := represents_call hrt h c hc (hw c (List.mem_cons_self c cs))
    have hrest := runCalls_agree hrt cs _ _ hstep.2 hcs fun c' hc' => hw c' (List.mem_cons_of_mem c hc')
    simp only [Store.runCalls, hstep.1, ← MemoryStore.run_call_snd s c, hrest]

/-- On every sequence of calls from the empty stores in which no create reuses a stored ID and every
record a create or an update writes is one `json.Marshal` encodes, the etcd store, with a codec that
decodes what it encodes, returns what the memory store returns, at every step. -/
theorem etcd_agrees_with_memory (hrt : codec.RoundTrips) (calls : List Call) (h : ReusesNoId .empty calls)
    (hw : ∀ c ∈ calls, ∀ v, c.written = some v → codec.Writes v) :
    ((EtcdStore.store codec).runCalls ∅ calls).1 = (MemoryStore.store.runCalls .empty calls).1 :=
  runCalls_agree hrt calls _ _ (represents_empty codec) h hw

/-- The run create, get by name, delete, list from the empty stores gets the same replies from both
stores with the tally codec. -/
theorem etcd_agrees_with_memory_create_delete :
    VolumeCodec.tally.RoundTrips ∧
    ReusesNoId .empty [.createVolume ⟨"a", "x", "local", ∅, .created, [], [], 0, 0⟩,
      .getVolumeByName "x", .deleteVolume "a", .listVolumes] ∧
    (∀ c ∈ [.createVolume ⟨"a", "x", "local", ∅, .created, [], [], 0, 0⟩, .getVolumeByName "x",
      .deleteVolume "a", .listVolumes], ∀ v, Call.written c = some v → VolumeCodec.tally.Writes v) ∧
    ((EtcdStore.store VolumeCodec.tally).runCalls ∅
        [.createVolume ⟨"a", "x", "local", ∅, .created, [], [], 0, 0⟩, .getVolumeByName "x",
          .deleteVolume "a", .listVolumes]).1 =
      (MemoryStore.store.runCalls .empty
        [.createVolume ⟨"a", "x", "local", ∅, .created, [], [], 0, 0⟩, .getVolumeByName "x",
          .deleteVolume "a", .listVolumes]).1 :=
  have h : ReusesNoId .empty [.createVolume ⟨"a", "x", "local", ∅, .created, [], [], 0, 0⟩,
      .getVolumeByName "x", .deleteVolume "a", .listVolumes] := by
    simp [ReusesNoId, MemoryStore.empty, Finmap.not_mem_empty]
  have hw : ∀ c ∈ [Call.createVolume ⟨"a", "x", "local", ∅, .created, [], [], 0, 0⟩,
      .getVolumeByName "x", .deleteVolume "a", .listVolumes], ∀ v, c.written = some v →
        VolumeCodec.tally.Writes v := fun _ _ v _ => VolumeCodec.tally_writes v
  ⟨VolumeCodec.tally_roundTrips, h, hw,
    etcd_agrees_with_memory VolumeCodec.tally_roundTrips _ h hw⟩

end VolumeManager
