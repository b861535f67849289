import VolumeManager.Proc
import VolumeManager.Types
import VolumeManager.FilePath

/-!
# Storage backends (`pkg/storage`, `pkg/storage/local`)

* `Storage.Backend φ` is the backend interface. `validate` is pure; the four verbs are requests on
  the host file system `φ`, which the backends share with nothing in the metadata store.
* `Storage.Registry φ` maps names to factories (a factory call's outcome); `Storage.getBackend`,
  `Storage.registerBackend` and `Storage.listBackends` are the package functions.
* `HostOS φ` gives the host calls the local backend and the node plugin make (`os.MkdirAll`,
  `os.WriteFile`, `os.Remove`), each one atomic step on the host file system; what they do to it is
  left to the instance.
* `Storage.localBackend os` is `local.Backend` over a host, registered under `local`
  (`Storage.defaultRegistry`, what the manager's `init` does).
-/

namespace VolumeManager

/-- What `os.Remove` reports: the path did not exist, or another failure. -/
inductive RemoveError where
  | notExist
  | failed (msg : String)

/-- The host's file-system calls, each one atomic step on the host file system `φ`. -/
structure HostOS (φ : Type) where
  mkdirAll : String → φ → Except String Unit × φ
  writeFile : String → String → φ → Except String Unit × φ
  remove : String → φ → Except RemoveError Unit × φ

/-- `types.Backend`: what `ListBackends` reports of a backend. -/
structure BackendInfo where
  name : String
  description : String
  capabilities : BackendCapability
  deriving DecidableEq

namespace Storage

/-- `storage.Backend`. -/
structure Backend (φ : Type) where
  name : String
  capabilities : BackendCapability
  validate : StrMap String → Except String Unit
  stage : Volume → String → Proc φ (Except String Unit)
  unstage : Volume → String → Proc φ (Except String Unit)
  publish : Volume → String → String → Bool → Proc φ (Except String Unit)
  unpublish : Volume → String → Proc φ (Except String Unit)

/-- The backend registry: each name's factory, as the outcome of calling it. -/
abbrev Registry (φ : Type) := StrMap (Except String (Backend φ))

/-- Why `GetBackend` fails: `ErrBackendNotFound`, or the factory's own error. -/
inductive GetBackendError where
  | notFound (name : String)
  | factory (msg : String)

variable {φ : Type}

/-- `storage.GetBackend`. -/
def getBackend (reg : Registry φ) (name : String) : Except GetBackendError (Backend φ) :=
  match reg.lookup name with
  | none => .error (.notFound name)
  | some (.ok b) => .ok b
  | some (.error msg) => .error (.factory msg)

/-- `storage.RegisterBackend`. -/
def registerBackend (reg : Registry φ) (name : String) (factory : Except String (Backend φ)) :
    Except String (Registry φ) :=
  if name ∈ reg then .error ("backend already registered: " ++ name)
  else .ok (reg.insert name factory)

/-- `storage.ListBackends`: every backend whose factory succeeds (map order, so a multiset). -/
def listBackends (reg : Registry φ) : Multiset BackendInfo :=
  reg.entries.filterMap fun e =>
    match e.2 with
    | .ok b => some ⟨b.name, b.name ++ " storage backend", b.capabilities⟩
    | .error _ => none

/-! ## The local backend -/

variable (os : HostOS φ)

/-- `Backend.ensureDirectoryExists`. -/
def ensureDirectoryExists (path : String) : Proc φ (Except String Unit) := do
  match ← .atomic (os.mkdirAll path) with
  | .ok () => return .ok ()
  | .error e => return .error ("failed to create directory " ++ path ++ ": " ++ e)

/-- `Backend.createBindMount`: writes the marker file `target/.volume-mount`. -/
def createBindMount (source target : String) (readOnly : Bool) : Proc φ (Except String Unit) := do
  let content := "source=" ++ source ++ "\nreadonly=" ++ (if readOnly then "true" else "false") ++ "\n"
  match ← .atomic (os.writeFile (FilePath.join target ".volume-mount") content) with
  | .ok () => return .ok ()
  | .error e => return .error ("failed to create mount marker: " ++ e)

/-- `Backend.removeBindMount`: removes the marker file; a missing one is fine. -/
def removeBindMount (target : String) : Proc φ (Except String Unit) := do
  match ← .atomic (os.remove (FilePath.join target ".volume-mount")) with
  | .ok () | .error .notExist => return .ok ()
  | .error (.failed e) => return .error ("failed to remove mount marker: " ++ e)

/-- `local.Backend.Validate`. -/
def localValidate (params : StrMap String) : Except String Unit :=
  match params.lookup "path" with
  | none => .error "parameter 'path' is required"
  | some path =>
    if path = "" then .error "parameter 'path' is required"
    else if FilePath.isAbs path then .ok ()
    else .error ("path must be absolute: " ++ path)

/-- `local.Backend`. -/
def localBackend : Backend φ where
  name := "local"
  capabilities := ⟨true, true, false, false⟩
  validate := localValidate
  stage volume stagingPath := do
    let sourcePath := (volume.parameters.lookup "path").getD ""
    match ← ensureDirectoryExists os sourcePath with
    | .error e => return .error ("failed to ensure source path: " ++ e)
    | .ok () =>
      match ← ensureDirectoryExists os stagingPath with
      | .error e => return .error ("failed to ensure staging path: " ++ e)
      | .ok () => return .ok ()
  unstage _ _ := return .ok ()
  publish volume _ targetPath readOnly := do
    let sourcePath := (volume.parameters.lookup "path").getD ""
    match ← ensureDirectoryExists os targetPath with
    | .error e => return .error ("failed to ensure target path: " ++ e)
    | .ok () =>
      match ← createBindMount os sourcePath targetPath readOnly with
      | .error e => return .error ("failed to bind mount: " ++ e)
      | .ok () => return .ok ()
  unpublish _ targetPath := do
    match ← removeBindMount os targetPath with
    | .error e => return .error ("failed to remove bind mount: " ++ e)
    | .ok () => return .ok ()

/-- The registry after the local package's `init`: `local` only. -/
def defaultRegistry : Registry φ := (∅ : Registry φ).insert "local" (.ok (localBackend os))

end Storage

end VolumeManager
