import Mathlib.Data.Finmap
import Mathlib.Logic.Equiv.List

/-!
# The data model (`pkg/types`)

* `Volume` is the catalog record. A Go `map[string]string` is a `StrMap String`, a `Finmap`, so two
  parameter maps are equal exactly when they agree at every key; a nil slice and an empty slice are
  both `[]`; the two timestamps are instants (nanoseconds since the epoch).
* `VolumeStatus` keeps Go's string type; the five constants are the only values the code writes.
* The request types, with `JsonObject` for the request bodies and `bindStageVolumeRequest`,
  `bindPublishVolumeRequest`, `bindCreateVolumeRequest` for what echo's binder (`encoding/json`
  decoding into the struct) makes of a body. The members are decoded in the order they were
  written, each into the field whose name its key equals after case folding (`foldName`), others
  skipped. A string or a boolean replaces the field's value and `null` leaves it; an object is added
  to the map there is and `null` sets it back to nil. A member of the wrong type is an error: the
  first one of the field decoded first, where `encoding/json` reports the first one in the text;
  the handlers answer every binding error alike.
-/

namespace VolumeManager

/-- A Go `map[string]V`. -/
abbrev StrMap (V : Type) := Finmap fun _ : String => V

/-- `types.VolumeStatus`, a Go string type. -/
structure VolumeStatus where
  val : String
  deriving DecidableEq, Repr

namespace VolumeStatus

/-- `types.VolumeStatusCreated`. -/
def created : VolumeStatus := ⟨"created"⟩

/-- `types.VolumeStatusStaging`. -/
def staging : VolumeStatus := ⟨"staging"⟩

/-- `types.VolumeStatusStaged`. -/
def staged : VolumeStatus := ⟨"staged"⟩

/-- `types.VolumeStatusPublished`. -/
def published : VolumeStatus := ⟨"published"⟩

/-- `types.VolumeStatusFailed`. -/
def failed : VolumeStatus := ⟨"failed"⟩

end VolumeStatus

/-- `types.Volume`: one record of the catalog. -/
structure Volume where
  id : String
  name : String
  backend : String
  parameters : StrMap String
  status : VolumeStatus
  stagedOn : List String
  publishedOn : List String
  createdAt : Int
  updatedAt : Int
  deriving DecidableEq

/-- `types.BackendCapability`. -/
structure BackendCapability where
  supportsReadOnly : Bool
  supportsReadWrite : Bool
  supportsSnapshot : Bool
  supportsClone : Bool
  deriving DecidableEq, Repr

/-- `types.ErrorResponse`. -/
structure ErrorResponse where
  error : String
  message : String
  deriving DecidableEq, Repr

/-- `types.CreateVolumeRequest`. -/
structure CreateVolumeRequest where
  name : String
  backend : String
  parameters : StrMap String

/-- `types.StageVolumeRequest`. -/
structure StageVolumeRequest where
  volumeID : String
  nodeID : String
  stagingPath : String
  deriving DecidableEq, Repr

/-- `types.PublishVolumeRequest`. -/
structure PublishVolumeRequest where
  volumeID : String
  nodeID : String
  targetPath : String
  readOnly : Bool
  deriving DecidableEq, Repr

/-! ## Request bodies -/

/-- The JSON values the request bodies of this API carry: `null`, booleans, strings and objects of
strings (a `map[string]string`, its members already decoded into a map). -/
inductive JsonValue where
  | null
  | bool (b : Bool)
  | str (s : String)
  | strMap (m : StrMap String)
  deriving DecidableEq

/-- A JSON object, its members in the order they were written. -/
abbrev JsonObject := List (String × JsonValue)

/-- `foldName` on one character, as far as the ASCII names here can tell. ASCII letters are
upper-cased. The four other characters that fold to an ASCII letter are mapped to it: `ſ` to
`S`, the Kelvin sign to `K`, and `İ` and `ı` to `I`. Every other character folds to one that no
field name here contains, so it is kept. -/
def foldChar (c : Char) : Char :=
  if 'a' ≤ c ∧ c ≤ 'z' then Char.ofNat (c.toNat - 32)
  else if c.toNat = 0x17F then 'S'
  else if c.toNat = 0x212A then 'K'
  else if c.toNat = 0x130 ∨ c.toNat = 0x131 then 'I'
  else c

/-- `foldName`: a member's key selects the field whose name it equals after folding. -/
def foldName (s : String) : List Char := s.data.map foldChar

namespace JsonObject

/-- The members `encoding/json` decodes into the field named `key`, in the order they were
written: those whose key folds to what `key` folds to. -/
def members (o : JsonObject) (key : String) : List JsonValue :=
  o.filterMap fun m => if foldName m.1 = foldName key then some m.2 else none

/-- One member decoded into a `string` field: a string replaces it, and `null` leaves it as it
was. -/
def stringStep (key s : String) : JsonValue → Except String String
  | .null => .ok s
  | .str s' => .ok s'
  | _ => .error ("json: cannot unmarshal into Go struct field " ++ key ++ " of type string")

/-- One member decoded into a `bool` field: a boolean replaces it, and `null` leaves it. -/
def boolStep (key : String) (b : Bool) : JsonValue → Except String Bool
  | .null => .ok b
  | .bool b' => .ok b'
  | _ => .error ("json: cannot unmarshal into Go struct field " ++ key ++ " of type bool")

/-- One member decoded into a `map[string]string` field: an object's members are added to the map
there is (a key it has wins), and `null` sets it back to nil. -/
def strMapStep (key : String) (m : StrMap String) : JsonValue → Except String (StrMap String)
  | .null => .ok ∅
  | .strMap m' => .ok (m' ∪ m)
  | _ => .error ("json: cannot unmarshal into Go struct field " ++ key ++ " of type map[string]string")

/-- Decode a `string` field: its members in order, from the zero value. -/
def string (o : JsonObject) (key : String) : Except String String :=
  (o.members key).foldlM (stringStep key) ""

/-- Decode a `bool` field: its members in order, from the zero value. -/
def bool (o : JsonObject) (key : String) : Except String Bool :=
  (o.members key).foldlM (boolStep key) false

/-- Decode a `map[string]string` field: its members in order, from nil. -/
def strMap (o : JsonObject) (key : String) : Except String (StrMap String) :=
  (o.members key).foldlM (strMapStep key) ∅

end JsonObject

/-- `c.Bind(&req)` for a `types.CreateVolumeRequest`. -/
def bindCreateVolumeRequest (o : JsonObject) : Except String CreateVolumeRequest := do
  let name ← o.string "name"
  let backend ← o.string "backend"
  let parameters ← o.strMap "parameters"
  pure { name, backend, parameters }

/-- `c.Bind(&req)` for a `types.StageVolumeRequest`. -/
def bindStageVolumeRequest (o : JsonObject) : Except String StageVolumeRequest := do
  let volumeID ← o.string "volume_id"
  let nodeID ← o.string "node_id"
  let stagingPath ← o.string "staging_path"
  pure { volumeID, nodeID, stagingPath }

/-- `c.Bind(&req)` for a `types.PublishVolumeRequest`. -/
def bindPublishVolumeRequest (o : JsonObject) : Except String PublishVolumeRequest := do
  let volumeID ← o.string "volume_id"
  let nodeID ← o.string "node_id"
  let targetPath ← o.string "target_path"
  let readOnly ← o.bool "read_only"
  pure { volumeID, nodeID, targetPath, readOnly }

end VolumeManager
