import VolumeManager.Store.Basic

/-!
# The etcd-backed store (`store.EtcdStore`)

The embedded etcd member is a key-value map (`KV`); each client call (`Get`, `Put`, `Txn`) is one
atomic step on it, and an `EtcdStore` method is a request made of those steps. Records live under
`/volumes/<id>` as `json.Marshal` of the record, the name index under `/volume-names/<name>` with the
ID as value. The JSON codec is a parameter (`VolumeCodec`): `json.Marshal`, which can fail, and
`json.Unmarshal`. `VolumeCodec.json` (`Json.Volume`) is `encoding/json`'s. What needs a record read
back as it was written assumes `VolumeCodec.RoundTrips`.

* `Consistent codec kv`: `/volumes/<id>` holds a record named `n` iff `/volume-names/<n>` holds `id`.
* `createVolume_run_consistent`, `updateVolume_run_consistent`, `deleteVolume_run_consistent`:
  run one at a time, the three writing methods keep the keyspace consistent (the create when no
  record sits under its ID, the update when it writes back the stored name).
* `etcd_keyspace_race`: interleaved, they do not. An `UpdateVolume` that passed its existence `Get`
  before a `DeleteVolume` committed writes the record back after it, and the record is then stored
  with no name index.
* `VolumeCodec.tally`: a codec that writes every record and reads it back, to run the store on
  concrete records.

`CreateVolume` and `UpdateVolume` return `json.Marshal`'s error, before writing anything. The
client never fails here: connection errors and timeouts of the embedded member are not modelled.
-/

namespace VolumeManager

/-- The etcd key-value map. -/
abbrev KV := StrMap String

/-- `json.Marshal` and `json.Unmarshal` of a `types.Volume`: the first can refuse a record, with
its error, the second a text. -/
structure VolumeCodec where
  marshal : Volume → Except String String
  unmarshal : String → Option Volume

namespace VolumeCodec

/-- The codec reads back every record it writes. -/
def RoundTrips (codec : VolumeCodec) : Prop :=
  ∀ v data, codec.marshal v = .ok data → codec.unmarshal data = some v

/-- The codec writes the record. -/
def Writes (codec : VolumeCodec) (v : Volume) : Prop := ∃ data, codec.marshal v = .ok data

end VolumeCodec

namespace Etcd

/-- `volumePrefix`. -/
def volumePrefix : String := "/volumes/"

/-- `namePrefix`. -/
def namePrefix : String := "/volume-names/"

/-- The key of a record. -/
def volumeKey (id : String) : String := volumePrefix ++ id

/-- The key of a name-index entry. -/
def nameKey (name : String) : String := namePrefix ++ name

/-- A record key is never a name key. -/
@[simp] theorem volumeKey_ne_nameKey (id name : String) : volumeKey id ≠ nameKey name := by
  intro h
  have := congrArg String.data h
  simp [volumeKey, nameKey, volumePrefix, namePrefix] at this

/-- Different IDs have different record keys. -/
theorem volumeKey_injective : Function.Injective volumeKey := fun _ _ h =>
  String.ext (List.append_cancel_left (congrArg String.data h))

/-- Different names have different name keys. -/
theorem nameKey_injective : Function.Injective nameKey := fun _ _ h =>
  String.ext (List.append_cancel_left (congrArg String.data h))

/-- Record keys are equal exactly when the IDs are. -/
@[simp] theorem volumeKey_inj {a b : String} : volumeKey a = volumeKey b ↔ a = b :=
  volumeKey_injective.eq_iff

/-- Name keys are equal exactly when the names are. -/
@[simp] theorem nameKey_inj {a b : String} : nameKey a = nameKey b ↔ a = b :=
  nameKey_injective.eq_iff

/-- A name key is never a record key. -/
@[simp] theorem nameKey_ne_volumeKey (name id : String) : nameKey name ≠ volumeKey id :=
  (volumeKey_ne_nameKey id name).symm

/-- `client.Get(ctx, key)`. -/
def get (key : String) : Proc KV (Option String) := .atomic fun kv => (kv.lookup key, kv)

/-- `client.Get(ctx, prefix, clientv3.WithPrefix())`: the values of the keys under the prefix
(etcd answers them in key order; listings are compared as multisets). -/
def getPrefix (pre : String) : Proc KV (Multiset String) :=
  .atomic fun kv => ((kv.entries.filter fun e => pre.data.isPrefixOf e.1.data = true).map Sigma.snd, kv)

/-- `client.Put(ctx, key, value)`. -/
def put (key value : String) : Proc KV Unit := .atomic fun kv => ((), kv.insert key value)

/-- An operation of a transaction. -/
inductive Op where
  | put (key value : String)
  | delete (key : String)

/-- Apply one operation. -/
def Op.apply (kv : KV) : Op → KV
  | .put key value => kv.insert key value
  | .delete key => kv.erase key

/-- `client.Txn(ctx).If(Compare(Version(k), "=", 0) for k in absent).Then(ops...).Commit()`:
when every key of `absent` is absent, apply `ops` in order and succeed, else change nothing. -/
def txn (absent : List String) (ops : List Op) : Proc KV Bool :=
  .atomic fun kv =>
    if absent.all fun k => k ∉ kv then (true, ops.foldl Op.apply kv) else (false, kv)

end Etcd

open Etcd

namespace EtcdStore

variable (codec : VolumeCodec)

/-- The error of a record `json.Marshal` refused. -/
def marshalError (e : String) : StoreError := .failed ("failed to marshal volume: " ++ e)

/-- `EtcdStore.CreateVolume`. -/
def createVolume (v : Volume) : Proc KV (Except StoreError Unit) := do
  let r ← get (nameKey v.name)
  if r.isSome then return .error .alreadyExists
  match codec.marshal v with
  | .error e => return .error (marshalError e)
  | .ok data =>
    let ok ← txn [nameKey v.name] [.put (volumeKey v.id) data, .put (nameKey v.name) v.id]
    if ok then return .ok () else return .error .alreadyExists

/-- The record stored under an ID, decoded. -/
def recordAt (kv : KV) (id : String) : Option Volume := (kv.lookup (volumeKey id)).bind codec.unmarshal

/-- The keyspace is consistent: `/volumes/<id>` holds a record named `n` iff `/volume-names/<n>`
holds `id`. -/
def Consistent (kv : KV) : Prop :=
  ∀ id n, (∃ v, recordAt codec kv id = some v ∧ v.name = n) ↔ kv.lookup (nameKey n) = some id

/-- `EtcdStore.GetVolume`. -/
def getVolume (id : String) : Proc KV (Except StoreError Volume) := do
  let r ← get (volumeKey id)
  match r with
  | none => return .error .notFound
  | some data =>
    match codec.unmarshal data with
    | some v => return .ok v
    | none => return .error (.failed "failed to unmarshal volume")

/-- `EtcdStore.GetVolumeByName`. -/
def getVolumeByName (name : String) : Proc KV (Except StoreError Volume) := do
  let r ← get (nameKey name)
  match r with
  | none => return .error .notFound
  | some id => getVolume codec id

/-- `EtcdStore.ListVolumes`: values that do not decode are skipped. -/
def listVolumes : Proc KV (Except StoreError (Multiset Volume)) := do
  let values ← getPrefix volumePrefix
  return .ok (values.filterMap codec.unmarshal)

/-- `EtcdStore.UpdateVolume`. -/
def updateVolume (v : Volume) : Proc KV (Except StoreError Unit) := do
  let r ← get (volumeKey v.id)
  if r.isNone then return .error .notFound
  match codec.marshal v with
  | .error e => return .error (marshalError e)
  | .ok data =>
    put (volumeKey v.id) data
    return .ok ()

/-- `EtcdStore.DeleteVolume`. -/
def deleteVolume (id : String) : Proc KV (Except StoreError Unit) := do
  let r ← getVolume codec id
  match r with
  | .error e => return .error e
  | .ok v =>
    let _ ← txn [] [.delete (volumeKey id), .delete (nameKey v.name)]
    return .ok ()

/-! ## One call at a time -/

/-- What `GetVolume` answers in a keyspace. -/
def decodeAt (kv : KV) (id : String) : Except StoreError Volume :=
  match kv.lookup (volumeKey id) with
  | none => .error .notFound
  | some data =>
    match codec.unmarshal data with
    | some v => .ok v
    | none => .error (.failed "failed to unmarshal volume")

/-- Reading a record succeeds exactly when a record decodes under its key. -/
theorem decodeAt_eq_ok {kv : KV} {id : String} {v : Volume} :
    decodeAt codec kv id = .ok v ↔ recordAt codec kv id = some v := by
  unfold decodeAt recordAt
  cases kv.lookup (volumeKey id) with
  | none => simp
  | some data => cases hu : codec.unmarshal data <;> simp [hu]

/-- Writing a name key changes no record. -/
@[simp] theorem recordAt_insert_nameKey (kv : KV) (n x id : String) :
    recordAt codec (kv.insert (nameKey n) x) id = recordAt codec kv id := by
  simp [recordAt, Finmap.lookup_insert_of_ne]

/-- A record written under its own ID is read back there, by a codec that reads back what it
writes. -/
theorem recordAt_insert_volumeKey (hrt : codec.RoundTrips) {v : Volume} {data : String}
    (hm : codec.marshal v = .ok data) (kv : KV) (id : String) :
    recordAt codec (kv.insert (volumeKey v.id) data) id =
      if id = v.id then some v else recordAt codec kv id := by
  by_cases h : id = v.id
  · subst h
    simp [recordAt, hrt _ _ hm]
  · simp [recordAt, h, Finmap.lookup_insert_of_ne]

/-- GetVolume is one atomic read that changes nothing. -/
theorem getVolume_eq (id : String) :
    getVolume codec id = .atomic fun kv => (decodeAt codec kv id, kv) := by
  simp only [getVolume, Etcd.get, Proc.atomic, Proc.bind_eq, Proc.step_bind, Proc.done_bind]
  congr 1
  funext kv
  unfold decodeAt
  split <;> (try split) <;> rfl

/-- ListVolumes decodes the values under the record prefix, skipping those that do not decode. -/
theorem run_listVolumes (kv : KV) : ((listVolumes codec).run kv).1 =
    .ok (((kv.entries.filter fun e => volumePrefix.data.isPrefixOf e.1.data = true).map
      Sigma.snd).filterMap codec.unmarshal) := rfl

/-- CreateVolume fails when the name key exists, or when the codec refuses the record; otherwise it
writes the record key and the name key. -/
theorem run_createVolume (v : Volume) (kv : KV) :
    (createVolume codec v).run kv =
      if nameKey v.name ∈ kv then (.error .alreadyExists, kv)
      else
        match codec.marshal v with
        | .error e => (.error (marshalError e), kv)
        | .ok data => (.ok (), (kv.insert (volumeKey v.id) data).insert (nameKey v.name) v.id) := by
  by_cases h : nameKey v.name ∈ kv
  · simp [createVolume, Etcd.get, Proc.atomic, h, Finmap.lookup_isSome]
  · cases hm : codec.marshal v <;>
      simp [createVolume, Etcd.get, txn, Proc.atomic, Op.apply, h, hm, Finmap.lookup_isSome]

/-- GetVolume reads the record under its key and changes nothing. -/
theorem run_getVolume (id : String) (kv : KV) :
    (getVolume codec id).run kv = (decodeAt codec kv id, kv) := by
  rw [getVolume_eq]; rfl

/-- GetVolumeByName follows the name key to the record, and changes nothing. -/
theorem run_getVolumeByName (name : String) (kv : KV) :
    (getVolumeByName codec name).run kv =
      (match kv.lookup (nameKey name) with
        | none => .error .notFound
        | some id => decodeAt codec kv id, kv) := by
  simp only [getVolumeByName, Etcd.get, Proc.atomic, Proc.bind_eq, Proc.step_bind,
    Proc.done_bind, Proc.run_step]
  split <;> simp [run_getVolume]

/-- UpdateVolume fails when the record key is absent, or when the codec refuses the record; otherwise
it overwrites the record key. -/
theorem run_updateVolume (v : Volume) (kv : KV) :
    (updateVolume codec v).run kv =
      if volumeKey v.id ∈ kv then
        match codec.marshal v with
        | .error e => (.error (marshalError e), kv)
        | .ok data => (.ok (), kv.insert (volumeKey v.id) data)
      else (.error .notFound, kv) := by
  by_cases h : volumeKey v.id ∈ kv
  · cases hm : codec.marshal v <;>
      simp [updateVolume, Etcd.get, Etcd.put, Proc.atomic, h, hm, Finmap.lookup_eq_none]
  · simp [updateVolume, Etcd.get, Proc.atomic, h, Finmap.lookup_eq_none]

/-- DeleteVolume reads the record, then erases its key and the name key of the name it read. -/
theorem run_deleteVolume (id : String) (kv : KV) :
    (deleteVolume codec id).run kv =
      match decodeAt codec kv id with
      | .error e => (.error e, kv)
      | .ok v => (.ok (), (kv.erase (volumeKey id)).erase (nameKey v.name)) := by
  simp only [deleteVolume, getVolume_eq, Proc.atomic, Proc.bind_eq, Proc.step_bind,
    Proc.done_bind, Proc.run_step]
  split <;> simp [txn, Proc.atomic, Op.apply]

/-! ## One call at a time keeps the keyspace consistent -/

/-- Writing a record key changes no name key. -/
@[simp] theorem lookup_nameKey_insert_volumeKey (kv : KV) (a x n : String) :
    (kv.insert (volumeKey a) x).lookup (nameKey n) = kv.lookup (nameKey n) :=
  Finmap.lookup_insert_of_ne _ (nameKey_ne_volumeKey n a)

/-- A create whose ID holds no record adds the record and its index entry, or nothing. -/
theorem createVolume_run_consistent (hrt : codec.RoundTrips) {kv : KV} (hc : Consistent codec kv)
    (v : Volume) (hfresh : recordAt codec kv v.id = none) :
    Consistent codec ((createVolume codec v).run kv).2 := by
  rw [run_createVolume]
  split_ifs with hn
  · exact hc
  rcases hm : codec.marshal v with e | data
  · exact hc
  intro id n
  have hc' := hc id n
  have hfree : kv.lookup (nameKey v.name) = none := Finmap.lookup_eq_none.2 hn
  simp only [recordAt_insert_nameKey, recordAt_insert_volumeKey codec hrt hm]
  by_cases hid : id = v.id <;> by_cases hnm : n = v.name
  · subst hid hnm; simp
  · subst hid; simp_all [Finmap.lookup_insert_of_ne, Ne.symm hnm]
  · subst hnm; simp_all [Ne.symm hid]
  · simp_all [Finmap.lookup_insert_of_ne]

/-- An update that keeps the stored record's name changes no index entry. -/
theorem updateVolume_run_consistent (hrt : codec.RoundTrips) {kv : KV} (hc : Consistent codec kv)
    (v : Volume)
    (hname : volumeKey v.id ∈ kv → ∃ r, recordAt codec kv v.id = some r ∧ r.name = v.name) :
    Consistent codec ((updateVolume codec v).run kv).2 := by
  rw [run_updateVolume]
  split_ifs with hk
  · obtain ⟨r₀, hr₀, hn₀⟩ := hname hk
    rcases hm : codec.marshal v with e | data
    · exact hc
    intro id n
    have hc' := hc id n
    simp only [recordAt_insert_volumeKey codec hrt hm, lookup_nameKey_insert_volumeKey]
    by_cases hid : id = v.id
    · subst hid
      simp only [if_true, Option.some.injEq, exists_eq_left']
      rw [← hc', hr₀]
      simp [hn₀]
    · simp only [hid, if_false]
      exact hc'
  · exact hc

/-- Erasing a name key changes no record. -/
@[simp] theorem recordAt_erase_nameKey (kv : KV) (n id : String) :
    recordAt codec (kv.erase (nameKey n)) id = recordAt codec kv id := by
  simp [recordAt, Finmap.lookup_erase_ne]

/-- Erasing a record key removes that record only. -/
theorem recordAt_erase_volumeKey (kv : KV) (a id : String) :
    recordAt codec (kv.erase (volumeKey a)) id = if id = a then none else recordAt codec kv id := by
  by_cases h : id = a
  · subst h; simp [recordAt]
  · simp [recordAt, h, Finmap.lookup_erase_ne]

/-- Erasing a record key changes no name key. -/
@[simp] theorem lookup_nameKey_erase_volumeKey (kv : KV) (a n : String) :
    (kv.erase (volumeKey a)).lookup (nameKey n) = kv.lookup (nameKey n) :=
  Finmap.lookup_erase_ne (nameKey_ne_volumeKey n a)

/-- A delete removes the record and the index entry of the name it reads. -/
theorem deleteVolume_run_consistent {kv : KV} (hc : Consistent codec kv) (id₀ : String) :
    Consistent codec ((deleteVolume codec id₀).run kv).2 := by
  rw [run_deleteVolume]
  rcases hd : decodeAt codec kv id₀ with e | r₀
  · exact hc
  have hr₀ := (decodeAt_eq_ok codec).1 hd
  have hidx : kv.lookup (nameKey r₀.name) = some id₀ := (hc id₀ r₀.name).1 ⟨r₀, hr₀, rfl⟩
  intro id n
  have hc' := hc id n
  simp only [recordAt_erase_nameKey, recordAt_erase_volumeKey]
  by_cases hid : id = id₀ <;> by_cases hn : n = r₀.name
  · subst hid hn; simp
  · subst hid
    simp only [if_true, Finmap.lookup_erase_ne (mt nameKey_inj.1 hn), lookup_nameKey_erase_volumeKey]
    rw [← hc', hr₀]
    simp [Ne.symm hn]
  · subst hn
    simp only [hid, if_false, Finmap.lookup_erase, hc']
    rw [hidx]
    simp [Ne.symm hid]
  · simp only [hid, if_false, Finmap.lookup_erase_ne (mt nameKey_inj.1 hn), lookup_nameKey_erase_volumeKey]
    exact hc'

/-- The etcd store behind the `Store` interface. -/
def store : Store KV where
  createVolume := createVolume codec
  getVolume := getVolume codec
  getVolumeByName := getVolumeByName codec
  listVolumes := listVolumes codec
  updateVolume := updateVolume codec
  deleteVolume := deleteVolume codec

/-- What a create that succeeded did: the record was written, and stored with its index entry, in a
keyspace where the name was free. -/
theorem createVolume_ok {v : Volume} {kv kv' : KV} (h : (createVolume codec v).run kv = (.ok (), kv')) :
    nameKey v.name ∉ kv ∧ ∃ data, codec.marshal v = .ok data ∧
      kv' = (kv.insert (volumeKey v.id) data).insert (nameKey v.name) v.id := by
  rw [run_createVolume] at h
  split_ifs at h with hn
  · cases h
  rcases hm : codec.marshal v with e | data <;> simp only [hm] at h <;> cases h
  exact ⟨hn, data, rfl, rfl⟩

/-- The etcd store keeps the store laws with a codec that reads back what it writes. -/
theorem laws (hrt : codec.RoundTrips) : (store codec).Laws where
  get_keeps id kv := congrArg Prod.snd (run_getVolume codec id kv)
  create_get v kv kv' h := by
    obtain ⟨-, data, hm, rfl⟩ := createVolume_ok codec h
    change ((getVolume codec v.id).run _).1 = _
    simp [run_getVolume, decodeAt, Finmap.lookup_insert_of_ne, hrt _ _ hm]
  delete_get id kv kv' h := by
    change (deleteVolume codec id).run kv = _ at h
    rw [run_deleteVolume] at h
    split at h
    · cases h
    · cases h
      change ((getVolume codec id).run _).1 = _
      simp [run_getVolume, decodeAt, Finmap.lookup_erase_ne]
  list_keeps _ := rfl
  create_list v kv kv' hfresh h := by
    change ((getVolume codec v.id).run kv).1 = _ at hfresh
    change (createVolume codec v).run kv = _ at h
    rw [run_getVolume] at hfresh
    have hid : volumeKey v.id ∉ kv := fun hm => by
      obtain ⟨d, hd⟩ := Finmap.mem_iff.1 hm
      cases hu : codec.unmarshal d <;> simp [decodeAt, hd, hu] at hfresh
    obtain ⟨hn, data, hm, rfl⟩ := createVolume_ok codec h
    have hn' : nameKey v.name ∉ kv.insert (volumeKey v.id) data := by
      simpa [Finmap.mem_insert] using hn
    change ((listVolumes codec).run _).1 = ((listVolumes codec).run kv).1.map _
    rw [run_listVolumes, run_listVolumes, Except.map, Finmap.insert_entries_of_neg hn', Finmap.insert_entries_of_neg hid,
      Multiset.filter_cons_of_neg _ (by simp [nameKey, volumePrefix, namePrefix]),
      Multiset.filter_cons_of_pos _ (by simp [volumeKey]), Multiset.map_cons,
      Multiset.filterMap_cons_some _ _ _ (hrt _ _ hm)]

end EtcdStore

/-! ## A codec to run the store on

To run the store on concrete records without writing JSON, `VolumeCodec.tally` numbers the records
(`Encodable`) and stores record number `k` as a string of `k` bars. It writes every record and reads
it back. -/

/-- Characters numbered by their code point. -/
instance encodableChar : Encodable Char :=
  Encodable.ofLeftInjection Char.toNat (fun n => some (Char.ofNat n)) fun c => by simp

/-- Strings numbered as their lists of characters. -/
instance encodableString : Encodable String :=
  Encodable.ofEquiv (List Char) ⟨String.data, String.mk, fun _ => rfl, fun _ => rfl⟩

/-- A string map numbered as the multiset of its entries. -/
instance encodableStrMap : Encodable (StrMap String) :=
  Encodable.ofLeftInjection Finmap.entries
    (fun s => if h : s.keys.Nodup then some ⟨s, Multiset.nodup_keys.1 h⟩ else none)
    fun m => by simp [m.nodupKeys.nodup_keys]

/-- A status numbered as its string. -/
instance encodableVolumeStatus : Encodable VolumeStatus :=
  Encodable.ofEquiv String ⟨VolumeStatus.val, VolumeStatus.mk, fun _ => rfl, fun _ => rfl⟩

/-- A record numbered as the tuple of its fields. -/
instance encodableVolume : Encodable Volume :=
  Encodable.ofEquiv
    (String × String × String × StrMap String × VolumeStatus × List String × List String × Int × Int)
    ⟨fun v => (v.id, v.name, v.backend, v.parameters, v.status, v.stagedOn, v.publishedOn, v.createdAt,
        v.updatedAt),
     fun t => ⟨t.1, t.2.1, t.2.2.1, t.2.2.2.1, t.2.2.2.2.1, t.2.2.2.2.2.1, t.2.2.2.2.2.2.1,
        t.2.2.2.2.2.2.2.1, t.2.2.2.2.2.2.2.2⟩,
     fun _ => rfl, fun _ => rfl⟩

/-- Record number `k` stored as `k` bars. -/
def VolumeCodec.tally : VolumeCodec where
  marshal v := .ok (String.mk (List.replicate (Encodable.encode v) '|'))
  unmarshal s := Encodable.decode s.length

/-- The tally codec reads back what it writes. -/
theorem VolumeCodec.tally_roundTrips : VolumeCodec.tally.RoundTrips := by
  intro v data h
  obtain rfl : String.mk (List.replicate (Encodable.encode v) '|') = data := Except.ok.inj h
  show Encodable.decode (String.mk _).length = _
  rw [String.length_mk, List.length_replicate]
  exact Encodable.encodek v

/-- The tally codec writes every record. -/
theorem VolumeCodec.tally_writes (v : Volume) : VolumeCodec.tally.Writes v := ⟨_, rfl⟩

namespace EtcdStore

variable (codec : VolumeCodec)

/-- Interleaved, the writing methods break the keyspace. `UpdateVolume` checks that the record
exists with one `Get` and writes it back with a later `Put`; a `DeleteVolume` committed in between
is undone for the record but not for its name index, and a later `CreateVolume` then reuses the
name. Every call succeeds, the record `a` is stored with no index entry and two records are named
`x`. -/
theorem etcd_keyspace_race (hrt : codec.RoundTrips)
    (hA : codec.Writes ⟨"a", "x", "local", ∅, .created, [], [], 0, 0⟩)
    (hA' : codec.Writes ⟨"a", "x", "local", ∅, .staged, ["n1"], [], 0, 1⟩)
    (hB : codec.Writes ⟨"b", "x", "local", ∅, .created, [], [], 2, 2⟩) :
    ((⟨∅, [createVolume codec ⟨"a", "x", "local", ∅, .created, [], [], 0, 0⟩,
        updateVolume codec ⟨"a", "x", "local", ∅, .staged, ["n1"], [], 0, 1⟩,
        deleteVolume codec "a",
        createVolume codec ⟨"b", "x", "local", ∅, .created, [], [], 2, 2⟩]⟩ :
      Config KV (Except StoreError Unit)).exec [0, 0, 1, 2, 2, 3, 3, 1]).reqs =
        [.done (.ok ()), .done (.ok ()), .done (.ok ()), .done (.ok ())] ∧
    ∃ kv, kv = ((⟨∅, [createVolume codec ⟨"a", "x", "local", ∅, .created, [], [], 0, 0⟩,
        updateVolume codec ⟨"a", "x", "local", ∅, .staged, ["n1"], [], 0, 1⟩,
        deleteVolume codec "a",
        createVolume codec ⟨"b", "x", "local", ∅, .created, [], [], 2, 2⟩]⟩ :
      Config KV (Except StoreError Unit)).exec [0, 0, 1, 2, 2, 3, 3, 1]).shared ∧
      recordAt codec kv "a" = some ⟨"a", "x", "local", ∅, .staged, ["n1"], [], 0, 1⟩ ∧
      recordAt codec kv "b" = some ⟨"b", "x", "local", ∅, .created, [], [], 2, 2⟩ ∧
      kv.lookup (nameKey "x") = some "b" ∧ ¬ Consistent codec kv := by
  obtain ⟨dA, hdA⟩ := hA
  obtain ⟨dA', hdA'⟩ := hA'
  obtain ⟨dB, hdB⟩ := hB
  generalize hvA : (⟨"a", "x", "local", ∅, .created, [], [], 0, 0⟩ : Volume) = vA at hdA
  generalize hvA' : (⟨"a", "x", "local", ∅, .staged, ["n1"], [], 0, 1⟩ : Volume) = vA' at hdA'
  generalize hvB : (⟨"b", "x", "local", ∅, .created, [], [], 2, 2⟩ : Volume) = vB at hdB
  generalize hc : (⟨∅, [createVolume codec vA, updateVolume codec vA', deleteVolume codec "a",
    createVolume codec vB]⟩ : Config KV (Except StoreError Unit)).exec [0, 0, 1, 2, 2, 3, 3, 1] = c
  replace hc : c = ⟨(((((((∅ : KV).insert (volumeKey "a") dA).insert (nameKey "x") "a"
      ).erase (volumeKey "a")).erase (nameKey "x")).insert (volumeKey "b") dB).insert
      (nameKey "x") "b").insert (volumeKey "a") dA',
      [.done (.ok ()), .done (.ok ()), .done (.ok ()), .done (.ok ())]⟩ := by
    subst hvA hvA' hvB hc
    simp [Config.exec, Config.stepAt, createVolume, updateVolume, deleteVolume, getVolume,
      Etcd.get, Etcd.put, txn, Proc.atomic, Finmap.not_mem_empty, Finmap.lookup_insert_of_ne,
      Finmap.lookup_erase_ne, volumeKey, nameKey, volumePrefix, namePrefix, Op.apply, hdA, hdA', hdB,
      hrt _ _ hdA]
  have hx : c.shared.lookup (nameKey "x") = some "b" := by
    simp [hc, Finmap.lookup_insert_of_ne]
  have ha : recordAt codec c.shared "a" = some vA' := by simp [hc, recordAt, hrt _ _ hdA']
  refine ⟨by rw [hc], _, rfl, hvA' ▸ ha, ?_, hx, fun h => ?_⟩
  · simp [hc, recordAt, Finmap.lookup_insert_of_ne, hrt _ _ hdB, ← hvB]
  · have := (h "a" "x").1 ⟨vA', ha, by rw [← hvA']⟩
    rw [hx] at this
    simp at this

/-- With the tally codec, which writes every record: the interleaving leaves the keyspace
inconsistent, with record a staged, record b created, and the name x indexing b. -/
theorem etcd_keyspace_race_tally :
    VolumeCodec.tally.RoundTrips ∧
    VolumeCodec.tally.Writes ⟨"a", "x", "local", ∅, .created, [], [], 0, 0⟩ ∧
    VolumeCodec.tally.Writes ⟨"a", "x", "local", ∅, .staged, ["n1"], [], 0, 1⟩ ∧
    VolumeCodec.tally.Writes ⟨"b", "x", "local", ∅, .created, [], [], 2, 2⟩ ∧
    ((⟨∅, [createVolume VolumeCodec.tally ⟨"a", "x", "local", ∅, .created, [], [], 0, 0⟩,
        updateVolume VolumeCodec.tally ⟨"a", "x", "local", ∅, .staged, ["n1"], [], 0, 1⟩,
        deleteVolume VolumeCodec.tally "a",
        createVolume VolumeCodec.tally ⟨"b", "x", "local", ∅, .created, [], [], 2, 2⟩]⟩ :
      Config KV (Except StoreError Unit)).exec [0, 0, 1, 2, 2, 3, 3, 1]).reqs =
        [.done (.ok ()), .done (.ok ()), .done (.ok ()), .done (.ok ())] ∧
    ∃ kv, kv = ((⟨∅, [createVolume VolumeCodec.tally ⟨"a", "x", "local", ∅, .created, [], [], 0, 0⟩,
        updateVolume VolumeCodec.tally ⟨"a", "x", "local", ∅, .staged, ["n1"], [], 0, 1⟩,
        deleteVolume VolumeCodec.tally "a",
        createVolume VolumeCodec.tally ⟨"b", "x", "local", ∅, .created, [], [], 2, 2⟩]⟩ :
      Config KV (Except StoreError Unit)).exec [0, 0, 1, 2, 2, 3, 3, 1]).shared ∧
      recordAt VolumeCodec.tally kv "a" = some ⟨"a", "x", "local", ∅, .staged, ["n1"], [], 0, 1⟩ ∧
      recordAt VolumeCodec.tally kv "b" = some ⟨"b", "x", "local", ∅, .created, [], [], 2, 2⟩ ∧
      kv.lookup (nameKey "x") = some "b" ∧ ¬ Consistent VolumeCodec.tally kv :=
  ⟨VolumeCodec.tally_roundTrips, VolumeCodec.tally_writes _, VolumeCodec.tally_writes _,
    VolumeCodec.tally_writes _,
    etcd_keyspace_race .tally VolumeCodec.tally_roundTrips (VolumeCodec.tally_writes _)
      (VolumeCodec.tally_writes _) (VolumeCodec.tally_writes _)⟩

end EtcdStore

end VolumeManager
