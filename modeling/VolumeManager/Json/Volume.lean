import VolumeManager.Json.Time
import VolumeManager.Api.Attach
import Mathlib.Data.Finset.Sort
import Mathlib.Data.String.Basic

/-!
# A catalog record in JSON

`EtcdStore.CreateVolume` and `UpdateVolume` store `json.Marshal(volume)`. `GetVolume` and
`ListVolumes` decode it with `json.Unmarshal` into a zero `types.Volume`.

* `Json.marshalVolume` is the struct encoder on `types.Volume`. It writes the fields in
  declaration order under their JSON names and leaves out `staged_on` and `published_on` when
  they are empty (`omitempty`). The parameter map's keys are sorted. A time is written by
  `Time.MarshalJSON`, in the zone the time carries.
* `Json.unmarshalVolume` is the struct decoder. A member's key selects a field by its name,
  compared after case folding. Unknown keys are skipped. `null` leaves a string or a time as it
  was and makes a map or a slice nil. A value of the wrong kind is an `UnmarshalTypeError`.
* `Json.unmarshalVolume_volumeText`: a record whose two times are `Time.Writable` is decoded back
  to itself, field for field, from the text `json.Marshal` writes (`Json.marshalVolume_writable`).
  Its strings are any Lean strings, which are exactly the valid UTF-8 ones. Behind it stand
  `Json.parse_render` and `Json.unquote_escape` for the text, and `Time.unmarshalJSON_marshalJSON`
  for the times.
* `Json.volume_json_offset_seconds`: in a zone whose offset has seconds, both times come back
  32 seconds late.
* `VolumeCodec.json` is the etcd store's codec made of the two functions. `json.Marshal` fails on a
  record with a time it cannot write, and the store then fails the call.
  `VolumeCodec.json_roundTrips`: in a zone whose offsets are whole minutes, every text it writes is
  read back as the record (`Json.marshalVolume_ok`: it writes only writable times).
  `VolumeHandler.handleGet_after_handleCreate_json`: on the etcd store with it, the record that
  `HandleCreate` stored is the text `json.Marshal` wrote, and `HandleGet` answers it.
  `volume_json_round_trip` puts the two together.

Decoding stops at the first error, where `json.Unmarshal` keeps the first type error and goes on;
the two differ only in which message an input with several errors gets. Not modelled: a nil
parameter map is not told apart from an empty one (the model writes `{}`), and the texts of syntax
errors and of `time.Parse` errors.
-/

namespace VolumeManager

namespace Json

/-! ## The fields -/

/-- The fields of `types.Volume`. -/
inductive Field where
  | id | name | backend | parameters | status | stagedOn | publishedOn | createdAt | updatedAt
  deriving DecidableEq

/-- A field's JSON name, from its tag. -/
def Field.jsonName : Field → String
  | .id => "id"
  | .name => "name"
  | .backend => "backend"
  | .parameters => "parameters"
  | .status => "status"
  | .stagedOn => "staged_on"
  | .publishedOn => "published_on"
  | .createdAt => "created_at"
  | .updatedAt => "updated_at"

/-- The fields in declaration order. -/
def fields : List Field :=
  [.id, .name, .backend, .parameters, .status, .stagedOn, .publishedOn, .createdAt, .updatedAt]

/-! ## Writing a record -/

/-- The JSON string of a Go string. -/
def string (s : String) : Value := .str (escape s)

/-- Keys compared as `strings.Compare` compares them, decided on their characters. -/
def keyLE : DecidableRel fun a b : String => a ≤ b := fun a b =>
  decidable_of_iff (a.data ≤ b.data) String.le_iff_toList_le.symm

/-- The keys of a map in the encoder's order. They are sorted bytewise, which for valid UTF-8 is
the order of code points. -/
def sortedKeys (m : StrMap String) : List String :=
  Quot.liftOn m.keys.val (@List.insertionSort String (· ≤ ·) keyLE) fun _ _ h =>
    List.eq_of_perm_of_sorted
      ((@List.perm_insertionSort _ _ keyLE _).trans (h.trans (@List.perm_insertionSort _ _ keyLE _).symm))
      (@List.sorted_insertionSort _ _ keyLE _ _ _) (@List.sorted_insertionSort _ _ keyLE _ _ _)

/-- `encodeMap` of a `map[string]string`. -/
def stringMap (m : StrMap String) : Value :=
  .object ((sortedKeys m).map fun k => (escape k, string ((m.lookup k).getD "")))

/-- A `time.Time` field: the string `MarshalJSON` wrote, or its error as `json.Marshal` reports
it. -/
def timeValue (zone : Time.Zone) (t : Int) : Except String Value :=
  match Time.marshalJSON zone t with
  | .ok b => .ok (.str (b.drop 1).dropLast)
  | .error e => .error ("json: error calling MarshalJSON for type time.Time: " ++ e)

/-- The fields `json.Marshal` writes for a `types.Volume`, given its two times, with their values:
in declaration order, `staged_on` and `published_on` left out when empty (`omitempty`). -/
def volumeFields (v : Volume) (created updated : Value) : List (Field × Value) :=
  [(.id, string v.id), (.name, string v.name), (.backend, string v.backend),
    (.parameters, stringMap v.parameters), (.status, string v.status.val)] ++
  (if v.stagedOn = [] then [] else [(.stagedOn, .array (v.stagedOn.map string))]) ++
  (if v.publishedOn = [] then [] else [(.publishedOn, .array (v.publishedOn.map string))]) ++
  [(.createdAt, created), (.updatedAt, updated)]

/-- The members of the object: each field under its name, escaped as the encoder caches it. -/
def members (fs : List (Field × Value)) : List (List Char × Value) :=
  fs.map fun f => (escape f.1.jsonName, f.2)

/-- `json.Marshal` of a `types.Volume` whose times carry `zone`. -/
def marshalVolume (zone : Time.Zone) (v : Volume) : Except String String := do
  let created ← timeValue zone v.createdAt
  let updated ← timeValue zone v.updatedAt
  pure ⟨render (.object (members (volumeFields v created updated)))⟩

/-! ## Reading a record -/

/-- The kind an `UnmarshalTypeError` names. -/
def Value.kind : Value → String
  | .null => "null"
  | .bool _ => "bool"
  | .number _ => "number"
  | .str _ => "string"
  | .array _ => "array"
  | .object _ => "object"

/-- The `UnmarshalTypeError` for a field of `types.Volume`. -/
def typeError (v : Value) (field goType : String) : String :=
  "json: cannot unmarshal " ++ v.kind ++ " into Go struct field Volume." ++ field ++ " of type " ++
    goType

/-- A string literal's characters as a Go string. -/
def unquoteString (lit : List Char) : Except String String :=
  match unquote lit with
  | some cs => .ok ⟨cs⟩
  | none => .error "json: invalid string literal"

/-- Decoding into a string field: a string sets it, `null` leaves it as it was. -/
def decodeString (field goType : String) (old : String) : Value → Except String String
  | .null => .ok old
  | .str lit => unquoteString lit
  | v => .error (typeError v field goType)

/-- The items of an array decoded into a `[]string` over the slice already there. An item `null`
keeps the element at its index. -/
def decodeItems (field : String) : List String → List Value → Except String (List String)
  | _, [] => .ok []
  | old, item :: items => do
    let s ← decodeString field "string" (old.headD "") item
    let rest ← decodeItems field old.tail items
    pure (s :: rest)

/-- Decoding into a `[]string` field: `null` is the nil slice, an array its items. -/
def decodeStrings (field : String) (old : List String) : Value → Except String (List String)
  | .null => .ok []
  | .array items => decodeItems field old items
  | v => .error (typeError v field "[]string")

/-- Decoding into a `map[string]string` field: `null` is the nil map, and an object adds its
members to the map already there. A member `null` is the empty string. -/
def decodeStringMap (field : String) (old : StrMap String) : Value → Except String (StrMap String)
  | .null => .ok ∅
  | .object members =>
    members.foldlM (fun m member => do
      let key ← unquoteString member.1
      let s ← decodeString field "string" "" member.2
      pure (m.insert key s)) old
  | v => .error (typeError v field "map[string]string")

/-- Decoding into a `time.Time` field: `null` leaves it; anything else goes to `UnmarshalJSON`,
which takes a string literal's text as it is. -/
def decodeTime (old : Int) : Value → Except String Int
  | .null => .ok old
  | .str lit => Time.unmarshalJSON lit
  | _ => .error "Time.UnmarshalJSON: input is not a JSON string"

/-- The field a member's key selects: the one whose name folds to what the key folds to. -/
def fieldOf (key : String) : Option Field :=
  fields.find? fun f => foldName f.jsonName = foldName key

/-- `d.value` into the field a member selected. -/
def decodeField (v : Volume) : Field → Value → Except String Volume
  | .id, x => return { v with id := ← decodeString "id" "string" v.id x }
  | .name, x => return { v with name := ← decodeString "name" "string" v.name x }
  | .backend, x => return { v with backend := ← decodeString "backend" "string" v.backend x }
  | .parameters, x => return { v with parameters := ← decodeStringMap "parameters" v.parameters x }
  | .status, x =>
    return { v with status := ⟨← decodeString "status" "types.VolumeStatus" v.status.val x⟩ }
  | .stagedOn, x => return { v with stagedOn := ← decodeStrings "staged_on" v.stagedOn x }
  | .publishedOn, x => return { v with publishedOn := ← decodeStrings "published_on" v.publishedOn x }
  | .createdAt, x => return { v with createdAt := ← decodeTime v.createdAt x }
  | .updatedAt, x => return { v with updatedAt := ← decodeTime v.updatedAt x }

/-- One member of the object decoded into the record; a key that selects no field is skipped. -/
def decodeMember (v : Volume) (member : List Char × Value) : Except String Volume := do
  let key ← unquoteString member.1
  match fieldOf key with
  | none => pure v
  | some f => decodeField v f member.2

/-- The zero `time.Time`, 1 January of the year 1 at midnight UTC. -/
def zeroTime : Int := -62135596800000000000

/-- The zero `types.Volume` that `GetVolume` and `ListVolumes` decode into. -/
def zeroVolume : Volume := ⟨"", "", "", ∅, ⟨""⟩, [], [], zeroTime, zeroTime⟩

/-- The decoder on the document's value: an object's members in order, or `null`. -/
def decodeVolume : Value → Except String Volume
  | .object members => members.foldlM decodeMember zeroVolume
  | .null => .ok zeroVolume
  | v => .error ("json: cannot unmarshal " ++ v.kind ++ " into Go value of type types.Volume")

/-- `json.Unmarshal` into a zero `types.Volume`. -/
def unmarshalVolume (data : String) : Except String Volume :=
  match parse data.data with
  | some tree => decodeVolume tree
  | none => .error "json: invalid character in JSON text"

/-! ## Reading back a record -/

/-- The encoder writes every key of the map, and no other. -/
theorem mem_sortedKeys {m : StrMap String} {k : String} : k ∈ sortedKeys m ↔ k ∈ m := by
  rw [← Finmap.mem_keys, ← Finset.mem_val, sortedKeys]
  induction m.keys.val using Quot.inductionOn with
  | h l => exact (@List.perm_insertionSort _ _ keyLE l).mem_iff

/-- Unquoting a string's escaping reads the string back. -/
theorem unquoteString_escape (s : String) : unquoteString (escape s) = .ok s := by
  rw [unquoteString, unquote_escape]

/-- A field's JSON name finds that field. -/
theorem fieldOf_jsonName (f : Field) : fieldOf f.jsonName = some f := by
  cases f <;> rfl

/-- A member under a field's escaped name goes to that field. -/
theorem decodeMember_escape (v : Volume) (f : Field) (x : Value) :
    decodeMember v (escape f.jsonName, x) = decodeField v f x := by
  simp only [decodeMember, unquoteString_escape, bind, Except.bind, fieldOf_jsonName]

/-- Decoding a written string reads it back. -/
@[simp] theorem decodeString_string (field goType old s : String) :
    decodeString field goType old (string s) = .ok s :=
  unquoteString_escape s

/-- Decoding an array of written strings reads them back. -/
theorem decodeItems_map_string (field : String) :
    ∀ (l old : List String), decodeItems field old (l.map string) = .ok l
  | [], _ => rfl
  | s :: l, old => by
    simp only [List.map_cons, decodeItems, decodeString_string, decodeItems_map_string field l]
    rfl

/-- Inserting the keys of a list one after another, each with its value under `g`. -/
theorem lookup_foldl_insert (g : String → String) (k : String) :
    ∀ (ks : List String) (acc : StrMap String),
      (ks.foldl (fun a k' => a.insert k' (g k')) acc).lookup k =
        if k ∈ ks then some (g k) else acc.lookup k
  | [], _ => rfl
  | k' :: ks, acc => by
    rw [List.foldl_cons, lookup_foldl_insert g k ks]
    by_cases hk : k = k'
    · subst hk
      simp
    · simp [hk, Finmap.lookup_insert_of_ne]

/-- Decoding an object of written strings inserts its keys one after another. -/
theorem decodeStringMap_object (field : String) (g : String → String) :
    ∀ (ks : List String) (acc : StrMap String),
      decodeStringMap field acc (.object (ks.map fun k => (escape k, string (g k)))) =
        .ok (ks.foldl (fun a k => a.insert k (g k)) acc)
  | [], _ => rfl
  | k :: ks, acc => by
    simp only [decodeStringMap, List.map_cons, List.foldlM_cons, unquoteString_escape,
      decodeString_string, bind, Except.bind, pure, Except.pure]
    exact decodeStringMap_object field g ks _

/-- Decoding the object `encodeMap` wrote into the nil map gives the map back. -/
theorem decodeStringMap_stringMap (field : String) (m : StrMap String) :
    decodeStringMap field ∅ (stringMap m) = .ok m := by
  rw [stringMap, decodeStringMap_object]
  congr 1
  refine Finmap.ext_lookup fun k => ?_
  rw [lookup_foldl_insert]
  cases hk : m.lookup k with
  | none => rw [if_neg (mt mem_sortedKeys.1 (Finmap.lookup_eq_none.1 hk))]; rfl
  | some x => rw [if_pos (mem_sortedKeys.2 (Finmap.mem_of_lookup_eq_some hk))]; rfl

/-- Decoding the fields of a record into the zero record gives it back, once its times do. -/
theorem decodeFields_volumeFields (v : Volume) {created updated : Value}
    (hc : decodeTime zeroTime created = .ok v.createdAt)
    (hu : decodeTime zeroTime updated = .ok v.updatedAt) :
    (volumeFields v created updated).foldlM (fun w f => decodeField w f.1 f.2) zeroVolume = .ok v := by
  obtain ⟨id, name, backend, parameters, ⟨status⟩, stagedOn, publishedOn, createdAt, updatedAt⟩ := v
  rcases eq_or_ne stagedOn [] with hs | hs <;> rcases eq_or_ne publishedOn [] with hp | hp <;>
    simp_all [volumeFields, decodeField, zeroVolume, decodeStringMap_stringMap, decodeStrings,
      decodeItems_map_string, bind, Except.bind, pure, Except.pure, Functor.map, Except.map]

/-! ## The round trip -/

/-- A string's value is written. -/
theorem written_string (s : String) : Written (string s) := ⟨s, rfl⟩

/-- An array of strings is written. -/
theorem writtenItems_map_string : ∀ l : List String, WrittenItems (l.map string)
  | [] => trivial
  | s :: l => ⟨written_string s, writtenItems_map_string l⟩

/-- A string map's value is written. -/
theorem written_stringMap (m : StrMap String) : Written (stringMap m) := by
  show WrittenMembers _
  induction sortedKeys m with
  | nil => trivial
  | cons k ks ih => exact ⟨⟨k, rfl⟩, written_string _, ih⟩

/-- An object of written members is written. -/
theorem written_members : ∀ fs : List (Field × Value), (∀ f ∈ fs, Written f.2) →
    Written (.object (members fs))
  | [], _ => trivial
  | f :: fs, h => ⟨⟨_, rfl⟩, h f (List.mem_cons_self _ _),
      written_members fs fun f' hf' => h f' (List.mem_cons_of_mem _ hf')⟩

/-- Every value the encoder writes for a record is a `Json.Written` tree, once its times are. -/
theorem written_volumeFields (v : Volume) {created updated : Value} (hc : Written created)
    (hu : Written updated) : ∀ f ∈ volumeFields v created updated, Written f.2 := by
  have hl : ∀ l : List String, Written (.array (l.map string)) := writtenItems_map_string
  unfold volumeFields
  split_ifs <;> simp [written_string, written_stringMap, hl, hc, hu]

/-- A time's field, once `MarshalJSON` has written it: its RFC 3339 text. -/
theorem timeValue_ok {zone : Time.Zone} {t : Int} (h : Time.Writable zone t) :
    timeValue zone t = .ok (.str (Time.rfc3339 zone t)) := by
  unfold timeValue
  rw [Time.marshalJSON_ok h]
  simp only [List.cons_append, List.drop_succ_cons, List.drop_zero, List.dropLast_concat]

/-- A time's text is a written string. -/
theorem written_rfc3339 (zone : Time.Zone) (t : Int) : Written (.str (Time.rfc3339 zone t)) :=
  ⟨⟨Time.rfc3339 zone t⟩, (Time.escape_rfc3339 zone t).symm⟩

/-- Decoding a writable time's text reads the time back. -/
theorem decodeTime_rfc3339 {zone : Time.Zone} {t : Int} (h : Time.Writable zone t) (old : Int) :
    decodeTime old (.str (Time.rfc3339 zone t)) = .ok t :=
  (Time.unmarshalJSON_marshalJSON h).2

/-- The text `json.Marshal` writes for a record whose times are writable. -/
def volumeText (zone : Time.Zone) (v : Volume) : String :=
  ⟨render (.object (members (volumeFields v (.str (Time.rfc3339 zone v.createdAt))
    (.str (Time.rfc3339 zone v.updatedAt)))))⟩

/-- `json.Marshal` succeeds on a record whose times are writable. -/
theorem marshalVolume_writable {zone : Time.Zone} {v : Volume} (hc : Time.Writable zone v.createdAt)
    (hu : Time.Writable zone v.updatedAt) : marshalVolume zone v = .ok (volumeText zone v) := by
  simp only [marshalVolume, timeValue_ok hc, timeValue_ok hu]
  rfl

/-- `json.Unmarshal` reads the record back from that text, field for field. -/
theorem unmarshalVolume_volumeText {zone : Time.Zone} {v : Volume} (hc : Time.Writable zone v.createdAt)
    (hu : Time.Writable zone v.updatedAt) : unmarshalVolume (volumeText zone v) = .ok v := by
  rw [unmarshalVolume, volumeText, parse_render (written_members _ (written_volumeFields v
    (written_rfc3339 _ _) (written_rfc3339 _ _)))]
  simp only [decodeVolume, members, List.foldlM_map, decodeMember_escape]
  exact decodeFields_volumeFields v (decodeTime_rfc3339 hc _) (decodeTime_rfc3339 hu _)

/-- A record created at the Unix epoch. -/
def epochVolume : Volume := ⟨"vol-1", "data", "local", ∅, .created, [], [], 0, 0⟩

set_option maxRecDepth 20000 in
/-- In a zone 19 minutes 32 seconds east of UTC (Amsterdam's mean time until 1937), a record of
1970 is written with its times at `00:19:32+00:19`, and both are read back 32 seconds late. -/
theorem volume_json_offset_seconds :
    Time.localYear (fun _ => 1172) 0 = 1970 ∧
      ∃ data, marshalVolume (fun _ => 1172) epochVolume = .ok data ∧
        unmarshalVolume data =
          .ok { epochVolume with createdAt := 32000000000, updatedAt := 32000000000 } :=
  ⟨by decide, _, rfl, rfl⟩

/-- In a zone whose offsets are whole minutes, a time `Time.MarshalJSON` writes is writable. -/
theorem writable_of_timeValue {zone : Time.Zone} {t : Int} (hz : ∀ s, zone s % 60 = 0) {x : Value}
    (h : timeValue zone t = .ok x) : Time.Writable zone t := by
  unfold timeValue Time.marshalJSON at h
  split_ifs at h with hy hd
  refine ⟨by omega, by omega, hz _, ?_⟩
  by_cases h0 : zone (Time.unixSec t) = 0
  · simp [h0]
  · have := not_and.1 hd h0
    omega

/-- In such a zone, `json.Marshal` of a record succeeds only when both its times are writable. -/
theorem marshalVolume_ok {zone : Time.Zone} (hz : ∀ s, zone s % 60 = 0) {v : Volume} {data : String}
    (h : marshalVolume zone v = .ok data) :
    Time.Writable zone v.createdAt ∧ Time.Writable zone v.updatedAt := by
  unfold marshalVolume at h
  cases hc : timeValue zone v.createdAt <;> cases hu : timeValue zone v.updatedAt <;>
    simp only [hc, hu, bind, Except.bind, reduceCtorEq] at h
  exact ⟨writable_of_timeValue hz hc, writable_of_timeValue hz hu⟩

end Json

/-! ## The store's codec -/

/-- The etcd store's codec in `zone`: `json.Marshal` and `json.Unmarshal`. -/
def VolumeCodec.json (zone : Time.Zone) : VolumeCodec :=
  ⟨Json.marshalVolume zone, fun data => (Json.unmarshalVolume data).toOption⟩

/-- In a zone whose offsets are whole minutes, `json.Unmarshal` reads back every record
`json.Marshal` wrote. -/
theorem VolumeCodec.json_roundTrips {zone : Time.Zone} (hz : ∀ s, zone s % 60 = 0) :
    (VolumeCodec.json zone).RoundTrips := fun v data h => by
  obtain ⟨hc, hu⟩ := Json.marshalVolume_ok hz h
  change Json.marshalVolume zone v = .ok data at h
  rw [Json.marshalVolume_writable hc hu, Except.ok.injEq] at h
  subst h
  simp only [VolumeCodec.json, Json.unmarshalVolume_volumeText hc hu]
  rfl

/-! ## Create, then get -/

namespace VolumeHandler

variable {φ : Type} (reg : Storage.Registry φ)

/-- The record `HandleCreate` builds from a bound request. -/
theorem newVolume_record {body : JsonObject} {env : RequestEnv} {req : CreateVolumeRequest}
    {v : Volume} (hreq : bindCreateVolumeRequest body = .ok req) (h : newVolume reg body env = .ok v) :
    v = ⟨env.uuid, req.name, req.backend, req.parameters, .created, [], [], env.now, env.now₂⟩ := by
  unfold newVolume at h
  simp only [hreq] at h
  split_ifs at h
  split at h
  · cases h
  · cases h
  · split at h
    · cases h
    · cases h
      rfl

/-- `HandleCreate` and then `HandleGet` of the new ID on the etcd store. The record stored is the
text `json.Marshal` wrote, and the one answered has the request's name, backend and parameters,
status `created`, no nodes, and the times of the create. -/
theorem handleGet_after_handleCreate_json (zone : Time.Zone) {body : JsonObject}
    {req : CreateVolumeRequest} {env : RequestEnv} {w w' : KV × φ} {r : Response}
    (hreq : bindCreateVolumeRequest body = .ok req) (hc : Time.Writable zone env.now)
    (hu : Time.Writable zone env.now₂)
    (hrun : (handleCreate (EtcdStore.store (VolumeCodec.json zone)) reg body env).run w = (r, w'))
    (h201 : r.status = 201) :
    (∃ data, Json.marshalVolume zone
        ⟨env.uuid, req.name, req.backend, req.parameters, .created, [], [], env.now, env.now₂⟩ = .ok data ∧
      w'.1.lookup (Etcd.volumeKey env.uuid) = some data) ∧
    (handleGet (EtcdStore.store (VolumeCodec.json zone)) env.uuid).run w' =
      (⟨200, .volume ⟨env.uuid, req.name, req.backend, req.parameters, .created, [], [], env.now,
        env.now₂⟩⟩, w') := by
  rw [handleCreate_eq] at hrun
  cases hv : newVolume reg body env with
  | error e =>
    rw [hv] at hrun
    cases hrun
    exact absurd h201 (newVolume_error_status reg hv)
  | ok v =>
    have hrec := newVolume_record reg hreq hv
    have hid : env.uuid = v.id := by rw [hrec]
    rw [← hrec, hid]
    rw [hv] at hrun
    have hc' : Time.Writable zone v.createdAt := hrec ▸ hc
    have hu' : Time.Writable zone v.updatedAt := hrec ▸ hu
    have hm : (VolumeCodec.json zone).marshal v = .ok (Json.volumeText zone v) :=
      Json.marshalVolume_writable hc' hu'
    simp only [Proc.run_bind, Proc.run_onFst, EtcdStore.store, EtcdStore.run_createVolume, hm] at hrun
    split_ifs at hrun
    · cases hrun
      simp [createdResponse] at h201
    · cases hrun
      refine ⟨⟨_, hm, by simp [Finmap.lookup_insert_of_ne]⟩, ?_⟩
      simp only [handleGet, Proc.bind_eq, Proc.run_bind, Proc.run_onFst, EtcdStore.store,
        EtcdStore.run_getVolume]
      rw [(@EtcdStore.decodeAt_eq_ok _ _ _ v).2 (by
        simp [EtcdStore.recordAt, VolumeCodec.json, Json.unmarshalVolume_volumeText hc' hu']; rfl)]
      rfl

end VolumeHandler

/-- A record whose two times are writable is read back as itself from the text `json.Marshal`
writes for it. On the etcd store with that codec, when `HandleCreate` answered 201 with the record's
ID from `uuid.New()` and its times from `time.Now()`, the store holds `json.Marshal` of the new
record under its ID, and `HandleGet` of the ID answers the request's name, backend and parameters,
status `created`, no nodes and those times. -/
theorem volume_json_round_trip (zone : Time.Zone) (v : Volume) (hc : Time.Writable zone v.createdAt)
    (hu : Time.Writable zone v.updatedAt) :
    (∃ data, Json.marshalVolume zone v = .ok data ∧ Json.unmarshalVolume data = .ok v) ∧
      ∀ {φ : Type} (reg : Storage.Registry φ) (body : JsonObject) (req : CreateVolumeRequest)
        (w w' : KV × φ) (r : Response), bindCreateVolumeRequest body = .ok req →
        (VolumeHandler.handleCreate (EtcdStore.store (VolumeCodec.json zone)) reg body
          ⟨v.id, v.createdAt, v.updatedAt⟩).run w = (r, w') → r.status = 201 →
        (∃ data, Json.marshalVolume zone ⟨v.id, req.name, req.backend, req.parameters, .created, [], [],
            v.createdAt, v.updatedAt⟩ = .ok data ∧ w'.1.lookup (Etcd.volumeKey v.id) = some data) ∧
        (VolumeHandler.handleGet (EtcdStore.store (VolumeCodec.json zone)) v.id).run w' =
          (⟨200, .volume ⟨v.id, req.name, req.backend, req.parameters, .created, [], [], v.createdAt,
            v.updatedAt⟩⟩, w') :=
  ⟨⟨_, Json.marshalVolume_writable hc hu, Json.unmarshalVolume_volumeText hc hu⟩,
    fun reg _ _ _ _ _ hreq hrun h201 =>
      @VolumeHandler.handleGet_after_handleCreate_json _ reg zone _ _ ⟨v.id, v.createdAt, v.updatedAt⟩
        _ _ _ hreq hc hu hrun h201⟩

/-- Creating `vol-1`, named `data`, at the Unix epoch in UTC, and getting it back. -/
theorem volume_json_round_trip_vol1 :
    Time.Writable (fun _ => 0) Attach.vol1.createdAt ∧ Time.Writable (fun _ => 0) Attach.vol1.updatedAt ∧
      (∃ data, Json.marshalVolume (fun _ => 0) Attach.vol1 = .ok data ∧
        Json.unmarshalVolume data = .ok Attach.vol1) ∧
      ((VolumeHandler.handleCreate (EtcdStore.store (VolumeCodec.json fun _ => 0)) Attach.registry
        Request.dataBody ⟨"vol-1", 0, 0⟩).run (∅, ())).1.status = 201 ∧
      (VolumeHandler.handleGet (EtcdStore.store (VolumeCodec.json fun _ => 0)) "vol-1").run
          ((VolumeHandler.handleCreate (EtcdStore.store (VolumeCodec.json fun _ => 0)) Attach.registry
            Request.dataBody ⟨"vol-1", 0, 0⟩).run (∅, ())).2 =
        (⟨200, .volume Attach.vol1⟩, ((VolumeHandler.handleCreate
          (EtcdStore.store (VolumeCodec.json fun _ => 0)) Attach.registry Request.dataBody
          ⟨"vol-1", 0, 0⟩).run (∅, ())).2) := by
  have hw : Time.Writable (fun _ => 0) 0 := by decide
  have h201 : ((VolumeHandler.handleCreate (EtcdStore.store (VolumeCodec.json fun _ => 0))
      Attach.registry Request.dataBody ⟨"vol-1", 0, 0⟩).run (∅, ())).1.status = 201 := by
    rw [VolumeHandler.handleCreate_eq]
    rfl
  have h := volume_json_round_trip (fun _ => 0) Attach.vol1 hw hw
  exact ⟨hw, hw, h.1, h201, (h.2 Attach.registry Request.dataBody _ (∅, ()) _ _ rfl rfl h201).2⟩

end VolumeManager
