import VolumeManager.Proc
import VolumeManager.Types

/-!
# The metadata store interface (`store.Store`)

`Store σ` is the Go interface with each method a request on the store's state `σ`: the
`MemoryStore` answers every call in one atomic step under its mutex, the `EtcdStore` in several
(one per etcd client call). `Close` is not modelled: it changes no catalog state.

`Store.Laws` is what the handlers rely on when they read a record back: reads change nothing, a
created record is found under its ID and listed with the others, a deleted one is not found.

`ListVolumes` answers a `Multiset`: the memory store lists in map-iteration order, which Go leaves
unspecified, and every statement about listing compares listings as multisets.
-/

namespace VolumeManager

/-- The errors a store call returns: `store.ErrNotFound`, `store.ErrAlreadyExists`, or another
failure (the etcd store's wrapped client and decoding errors) with its text. -/
inductive StoreError where
  | notFound
  | alreadyExists
  | failed (msg : String)
  deriving DecidableEq, Repr

/-- `store.Store`. -/
structure Store (σ : Type) where
  createVolume : Volume → Proc σ (Except StoreError Unit)
  getVolume : String → Proc σ (Except StoreError Volume)
  getVolumeByName : String → Proc σ (Except StoreError Volume)
  listVolumes : Proc σ (Except StoreError (Multiset Volume))
  updateVolume : Volume → Proc σ (Except StoreError Unit)
  deleteVolume : String → Proc σ (Except StoreError Unit)

/-- A call of the `Store` interface with its arguments. -/
inductive Call where
  | createVolume (v : Volume)
  | getVolume (id : String)
  | getVolumeByName (name : String)
  | listVolumes
  | updateVolume (v : Volume)
  | deleteVolume (id : String)

/-- What a call returns. -/
inductive Reply where
  | unit (r : Except StoreError Unit)
  | volume (r : Except StoreError Volume)
  | volumes (r : Except StoreError (Multiset Volume))

namespace Store

variable {σ : Type}

/-- Issue a call. -/
def call (st : Store σ) : Call → Proc σ Reply
  | .createVolume v => (st.createVolume v).bind fun r => .done (.unit r)
  | .getVolume id => (st.getVolume id).bind fun r => .done (.volume r)
  | .getVolumeByName name => (st.getVolumeByName name).bind fun r => .done (.volume r)
  | .listVolumes => st.listVolumes.bind fun r => .done (.volumes r)
  | .updateVolume v => (st.updateVolume v).bind fun r => .done (.unit r)
  | .deleteVolume id => (st.deleteVolume id).bind fun r => .done (.unit r)

/-- Issue calls one at a time: the replies, and the state reached. -/
def runCalls (st : Store σ) (s : σ) : List Call → List Reply × σ
  | [] => ([], s)
  | c :: cs =>
    let r := (st.call c).run s
    let rest := st.runCalls r.2 cs
    (r.1 :: rest.1, rest.2)

/-- What a store promises about one record, one call at a time: a read changes nothing, a record
created is read back under its ID and listed with the others, and after a delete nothing is. -/
structure Laws (st : Store σ) : Prop where
  /-- `GetVolume` only reads. -/
  get_keeps : ∀ id s, ((st.getVolume id).run s).2 = s
  /-- A record `CreateVolume` stored is what `GetVolume` of its ID answers. -/
  create_get : ∀ v s s', (st.createVolume v).run s = (.ok (), s') →
    ((st.getVolume v.id).run s').1 = .ok v
  /-- After a `DeleteVolume` that succeeded, `GetVolume` of the ID answers `ErrNotFound`. -/
  delete_get : ∀ id s s', (st.deleteVolume id).run s = (.ok (), s') →
    ((st.getVolume id).run s').1 = .error .notFound
  /-- `ListVolumes` only reads. -/
  list_keeps : ∀ s, (st.listVolumes.run s).2 = s
  /-- A record created under an ID where none was is listed beside the others. -/
  create_list : ∀ v s s', ((st.getVolume v.id).run s).1 = .error .notFound →
    (st.createVolume v).run s = (.ok (), s') →
    (st.listVolumes.run s').1 = (st.listVolumes.run s).1.map (v ::ₘ ·)

end Store

end VolumeManager
