import VolumeManager.Api.Server

/-!
# The bridge's HTTP client (`client.VolumeManagerClient`)

The client formats each URL as the base URL followed by `/api/v1/volumes/<id>` (and `/stage` or
`/publish`), with the ID as given. The base URL (`MANAGER_URL`) is an origin,
`scheme://host[:port]`, so what reaches the router is decided by the path part alone:

* `Url.requestPath`: what `url.Parse` (inside `http.NewRequestWithContext`) and the server's
  request parsing make of it. Control characters before a `#` and malformed `%` escapes are errors;
  the fragment (from `#`) and the query (from `?`) are cut off; the rest is percent-decoded, and
  echo routes on the decoded path unless re-escaping it does not give the raw path back, in which
  case net/http keeps the raw path (`URL.RawPath`) and echo routes on that. Lean strings are
  Unicode: a path whose escapes decode to bytes that are not UTF-8 is routed on its raw form here.
* `ClientError` with its `Error()` text, which the controller's delete compares.
* Each client method sends its request to the control plane (`ControlPlane.serve`) and reads the
  status. The transport always delivers: connection failures and the 30 s client timeout are not
  modelled.
-/

namespace VolumeManager

namespace Url

/-- An ASCII control character (`stringContainsCTLByte`). -/
def isCTL (c : Char) : Bool := c.toNat < 0x20 || c.toNat == 0x7f

/-- The value of a hexadecimal digit. -/
def hexDigit? (c : Char) : Option Nat :=
  if '0' ≤ c ∧ c ≤ '9' then some (c.toNat - '0'.toNat)
  else if 'a' ≤ c ∧ c ≤ 'f' then some (c.toNat - 'a'.toNat + 10)
  else if 'A' ≤ c ∧ c ≤ 'F' then some (c.toNat - 'A'.toNat + 10)
  else none

/-- `url.unescape` (path mode): `%XX` becomes its byte, any other character its UTF-8 bytes. -/
def unescape : List Char → Except String (List UInt8)
  | [] => .ok []
  | '%' :: a :: b :: rest =>
    match hexDigit? a, hexDigit? b with
    | some x, some y => (unescape rest).map ((16 * x + y).toUInt8 :: ·)
    | _, _ => .error "invalid URL escape"
  | '%' :: _ => .error "invalid URL escape"
  | c :: rest => (unescape rest).map (String.utf8EncodeChar c ++ ·)

/-- `shouldEscape(c, encodePath)`. -/
def shouldEscapePath (b : UInt8) : Bool :=
  let c := Char.ofNat b.toNat
  !(c.isAlphanum || "-_.~$&+,/:;=@".data.contains c)

/-- An upper-case hexadecimal digit. -/
def hexUpper (n : Nat) : Char :=
  if n < 10 then Char.ofNat ('0'.toNat + n) else Char.ofNat ('A'.toNat + n - 10)

/-- `url.escape(s, encodePath)` of a byte string. -/
def escape (bs : List UInt8) : String :=
  String.mk (bs.flatMap fun b =>
    if shouldEscapePath b then ['%', hexUpper (b.toNat / 16), hexUpper (b.toNat % 16)]
    else [Char.ofNat b.toNat])

/-- UTF-8 decoding of a byte string: a byte below `0x80` is its own character, a longer sequence
is read by `String.utf8DecodeChar?`. Every character takes at least one byte, so `fuel` = the
number of bytes suffices. -/
def decodeUtf8 : Nat → List UInt8 → Option (List Char)
  | _, [] => some []
  | 0, _ :: _ => none
  | fuel + 1, b :: bs =>
    if b.toNat < 0x80 then (decodeUtf8 fuel bs).map (Char.ofNat b.toNat :: ·)
    else do
      let c ← String.utf8DecodeChar? ⟨(b :: bs).toArray⟩ 0
      (decodeUtf8 fuel ((b :: bs).drop c.utf8Size)).map (c :: ·)

example : decodeUtf8 4 [0x61, 0xC3, 0xA9, 0x62] = some ['a', 'é', 'b'] := by decide

/-- The path echo routes on for a raw request path. -/
def routePath (raw : String) : Except String String := do
  let bytes ← unescape raw.data
  if escape bytes = raw then
    match decodeUtf8 bytes.length bytes with
    | some decoded => pure (String.mk decoded)
    | none => pure raw
  else pure raw

/-- The path the server routes on for a URL whose part after the origin is `target`. -/
def requestPath (target : String) : Except String String :=
  let beforeFragment := target.data.takeWhile (· ≠ '#')
  let fragment := (target.data.dropWhile (· ≠ '#')).drop 1
  if beforeFragment.any isCTL then .error "net/url: invalid control character in URL"
  else do
    let _ ← unescape fragment
    routePath (String.mk (beforeFragment.takeWhile (· ≠ '?')))

end Url

/-- The errors the client returns. -/
inductive ClientError where
  | createRequest (msg : String)
  | volumeNotFound
  | unexpectedStatus (status : Nat) (body : String)

/-- `Error()` of a client error. -/
def ClientError.text : ClientError → String
  | .createRequest msg => "failed to create request: " ++ msg
  | .volumeNotFound => "volume not found"
  | .unexpectedStatus status body => "unexpected status " ++ toString status ++ ": " ++ body

/-- Go's zero `types.Volume` (the zero `time.Time` is 0001-01-01 UTC). -/
def Volume.zero : Volume :=
  ⟨"", "", "", ∅, ⟨""⟩, [], [], -62135596800000000000, -62135596800000000000⟩

/-- `json.Decode` of a response body into a `types.Volume`: a record decodes to itself, any other
object has none of its fields. -/
def Body.decodeVolume : Body → Volume
  | .volume v => v
  | _ => Volume.zero

/-- `json.Decode` of a response body into the listing `{count, volumes}`. -/
def Body.decodeVolumes : Body → Multiset Volume
  | .volumes vs _ => vs
  | _ => 0

namespace VolumeManagerClient

variable {σ φ : Type} (cp : ControlPlane σ φ) (env : RequestEnv)

/-- Build a request and have the control plane answer it. -/
def send (method target : String) (body : JsonObject) :
    Proc (σ × φ) (Except ClientError Response) :=
  match Url.requestPath target with
  | .error e => pure (.error (.createRequest e))
  | .ok path => (cp.serve ⟨method, path, body⟩ env).bind fun resp => pure (.ok resp)

/-- The error for a status the caller does not accept. -/
def unexpected (resp : Response) : ClientError := .unexpectedStatus resp.status (cp.render resp.body)

/-- `VolumeManagerClient.CreateVolume`. -/
def createVolume (name backend : String) (parameters : StrMap String) :
    Proc (σ × φ) (Except ClientError Volume) := do
  match ← send cp env "POST" "/api/v1/volumes"
      [("backend", .str backend), ("name", .str name), ("parameters", .strMap parameters)] with
  | .error e => pure (.error e)
  | .ok resp =>
    if resp.status ≠ 201 then pure (.error (unexpected cp resp)) else pure (.ok resp.body.decodeVolume)

/-- `VolumeManagerClient.GetVolume`. -/
def getVolume (volumeID : String) : Proc (σ × φ) (Except ClientError Volume) := do
  match ← send cp env "GET" ("/api/v1/volumes/" ++ volumeID) [] with
  | .error e => pure (.error e)
  | .ok resp =>
    if resp.status = 404 then pure (.error .volumeNotFound)
    else if resp.status ≠ 200 then pure (.error (unexpected cp resp))
    else pure (.ok resp.body.decodeVolume)

/-- `VolumeManagerClient.ListVolumes`. -/
def listVolumes : Proc (σ × φ) (Except ClientError (Multiset Volume)) := do
  match ← send cp env "GET" "/api/v1/volumes" [] with
  | .error e => pure (.error e)
  | .ok resp =>
    if resp.status ≠ 200 then pure (.error (unexpected cp resp)) else pure (.ok resp.body.decodeVolumes)

/-- `VolumeManagerClient.DeleteVolume`. -/
def deleteVolume (volumeID : String) : Proc (σ × φ) (Except ClientError Unit) := do
  match ← send cp env "DELETE" ("/api/v1/volumes/" ++ volumeID) [] with
  | .error e => pure (.error e)
  | .ok resp =>
    if resp.status = 404 then pure (.error .volumeNotFound)
    else if resp.status ≠ 200 ∧ resp.status ≠ 204 then pure (.error (unexpected cp resp))
    else pure (.ok ())

/-- A request whose only accepted status is `200`. -/
def expectOk (method target : String) (body : JsonObject) :
    Proc (σ × φ) (Except ClientError Unit) := do
  match ← send cp env method target body with
  | .error e => pure (.error e)
  | .ok resp => if resp.status ≠ 200 then pure (.error (unexpected cp resp)) else pure (.ok ())

/-- `VolumeManagerClient.StageVolume`. -/
def stageVolume (volumeID stagingPath nodeID : String) : Proc (σ × φ) (Except ClientError Unit) :=
  expectOk cp env "POST" ("/api/v1/volumes/" ++ volumeID ++ "/stage")
    [("node_id", .str nodeID), ("staging_path", .str stagingPath)]

/-- `VolumeManagerClient.UnstageVolume`. -/
def unstageVolume (volumeID stagingPath : String) : Proc (σ × φ) (Except ClientError Unit) :=
  expectOk cp env "DELETE" ("/api/v1/volumes/" ++ volumeID ++ "/stage")
    [("staging_path", .str stagingPath)]

/-- `VolumeManagerClient.PublishVolume`: the body carries no node ID. -/
def publishVolume (volumeID stagingPath targetPath : String) (readOnly : Bool) :
    Proc (σ × φ) (Except ClientError Unit) :=
  expectOk cp env "POST" ("/api/v1/volumes/" ++ volumeID ++ "/publish")
    [("read_only", .bool readOnly), ("staging_path", .str stagingPath),
     ("target_path", .str targetPath)]

/-- `VolumeManagerClient.UnpublishVolume`. -/
def unpublishVolume (volumeID targetPath : String) : Proc (σ × φ) (Except ClientError Unit) :=
  expectOk cp env "DELETE" ("/api/v1/volumes/" ++ volumeID ++ "/publish")
    [("target_path", .str targetPath)]

end VolumeManagerClient

end VolumeManager
