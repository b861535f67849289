import VolumeManager.Api.Server
import VolumeManager.Store.Memory

/-!
# The manager as `main` wires it

`main` starts the server on the memory store, or on the etcd store when etcd is enabled, with the
backends the imported packages register: `local` only. `ControlPlane.manager` is that wiring for a
given host, file routes and JSON rendering.

`ControlPlane.demo` fixes those three to run the model on concrete inputs of the volume routes: a
host on which every file-system call succeeds and that keeps no files, file routes that stand in
with `501` (the file handlers run on a host file tree, `FileHandler.routes` in `Api/Files`, which
this host does not keep), and bodies rendered as the empty string.
-/

namespace VolumeManager

/-- The control plane `main` starts: the given store, the registry after the `local` package's
`init`. -/
def ControlPlane.manager {σ φ : Type} (st : Store σ) (os : HostOS φ) (files : FileRoutes (σ × φ))
    (render : Body → String) : ControlPlane σ φ :=
  ⟨st, Storage.defaultRegistry os, files, render⟩

/-- A host on which every file-system call succeeds and leaves nothing behind. -/
def HostOS.permissive : HostOS Unit :=
  ⟨fun _ _ => (.ok (), ()), fun _ _ _ => (.ok (), ()), fun _ _ => (.ok (), ())⟩

/-- Stand-in file routes for a host that keeps no files: every file request is answered `501`. -/
def FileRoutes.unavailable {W : Type} : FileRoutes W :=
  ⟨fun _ _ => pure response, fun _ _ _ => pure response, fun _ _ => pure response⟩
where
  response : Response := errorResponse 501 "not_implemented" "This host keeps no files"

/-- The memory-store manager on a permissive host. -/
def ControlPlane.demo : ControlPlane MemoryStore Unit :=
  .manager MemoryStore.store HostOS.permissive FileRoutes.unavailable fun _ => ""

end VolumeManager
