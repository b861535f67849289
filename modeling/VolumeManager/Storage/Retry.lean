import VolumeManager.Host.Os

/-!
# Retrying the local backend

The node plugin and the manager may call a backend again after a call that succeeded (a retried
CSI request, a repeated `POST .../stage`). On the host file system (`Host.os`) each of
`local.Backend`'s four calls is safe to repeat (`localBackend_retryable`): run again right after a
run that succeeded, it succeeds and leaves the host exactly as the first run left it.

The reasons, one per host call: a `MkdirAll` that succeeded left a directory, which later calls
keep (`Os.mkdirAll_ok`), and on a directory `MkdirAll` does nothing; a second `WriteFile` of the
same bytes writes what is there (`Os.writeFile_again`); a second `Remove` finds nothing, which
`removeBindMount` accepts (`Os.remove_again`).

`localBackend_retryable_srv` runs the calls for a volume at `/srv` on an empty host: each
succeeds, and each is retryable there.
-/

namespace VolumeManager

namespace Storage

variable {φ : Type}

/-- Running `p` again right after a run that succeeded succeeds, and leaves the state as the first
run left it. -/
def Retryable (p : Proc φ (Except String Unit)) (w : φ) : Prop :=
  (p.run w).1 = .ok () → p.run (p.run w).2 = (.ok (), (p.run w).2)

/-! ## The steps on `Host.os` -/

/-- A run of `ensureDirectoryExists` that succeeds only adds directories, and leaves `path` a
directory. -/
theorem run_ensureDirectoryExists_ok {path : String} {w w' : Host}
    (h : (ensureDirectoryExists Host.os path).run w = (.ok (), w')) :
    Host.DirsKept w w' ∧ w'.stat path = .ok .dir := by
  simp only [ensureDirectoryExists, Proc.bind_eq, Proc.run_bind, Proc.run_atomic] at h
  rcases hm : Os.mkdirAll w path.data with ⟨_ | ⟨⟩, w₁⟩
  · simp [Host.os, hm, Except.mapError] at h
  · simp only [Host.os, hm, Except.mapError, Proc.pure_eq, Proc.run_done, Prod.mk.injEq, true_and] at h
    subst h
    exact Os.mkdirAll_ok hm

/-- On a path that is already a directory, `ensureDirectoryExists` succeeds and changes nothing. -/
theorem run_ensureDirectoryExists_of_dir {path : String} {w : Host} (hs : w.stat path = .ok .dir) :
    (ensureDirectoryExists Host.os path).run w = (.ok (), w) := by
  simp only [ensureDirectoryExists, Proc.bind_eq, Proc.run_bind, Proc.run_atomic, Host.os,
    Os.mkdirAll_of_dir hs]
  rfl

/-- A run of `createBindMount` that succeeds only adds directories, and a second run right after it
succeeds and changes nothing. -/
theorem run_createBindMount_ok {source target : String} {readOnly : Bool} {w w' : Host}
    (h : (createBindMount Host.os source target readOnly).run w = (.ok (), w')) :
    Host.DirsKept w w' ∧ (createBindMount Host.os source target readOnly).run w' = (.ok (), w') := by
  simp only [createBindMount, Proc.bind_eq, Proc.run_bind, Proc.run_atomic, Host.os] at h ⊢
  generalize hr : Os.writeFile w _ _ = r at h
  rcases r with ⟨_ | ⟨⟩, w₁⟩
  · simp [Except.mapError] at h
  · simp only [Except.mapError, Proc.pure_eq, Proc.run_done, Prod.mk.injEq, true_and] at h
    subst h
    refine ⟨Os.writeFile_ok hr, ?_⟩
    rw [Os.writeFile_again hr]
    rfl

/-- A call is retryable when, from the state each successful run leaves, the call succeeds again and
changes nothing. -/
theorem retryable_of {p : Proc φ (Except String Unit)} {w : φ}
    (hfix : ∀ w', p.run w = (.ok (), w') → p.run w' = (.ok (), w')) : Retryable p w :=
  fun hok => hfix _ (Prod.ext hok rfl)

/-! ## The four calls -/

variable (v : Volume)

/-- A successful `Stage` leaves both the volume's path and the staging path directories. -/
theorem run_stage_ok {stagingPath : String} {w w' : Host}
    (h : ((localBackend Host.os).stage v stagingPath).run w = (.ok (), w')) :
    w'.stat ((v.parameters.lookup "path").getD "") = .ok .dir ∧ w'.stat stagingPath = .ok .dir := by
  simp only [localBackend, Proc.bind_eq, Proc.run_bind] at h
  generalize hr₁ : (ensureDirectoryExists Host.os _).run w = r₁ at h
  rcases r₁ with ⟨_ | ⟨⟩, w₁⟩
  · simp at h
  · simp only [Proc.run_bind] at h
    generalize hr₂ : (ensureDirectoryExists Host.os stagingPath).run w₁ = r₂ at h
    rcases r₂ with ⟨_ | ⟨⟩, w₂⟩
    · simp at h
    · simp only [Proc.pure_eq, Proc.run_done, Prod.mk.injEq, true_and] at h
      subst h
      obtain ⟨-, hs₁⟩ := run_ensureDirectoryExists_ok hr₁
      obtain ⟨hk₂, hs₂⟩ := run_ensureDirectoryExists_ok hr₂
      exact ⟨Host.stat_of_dirsKept hk₂ hs₁, hs₂⟩

/-- When the volume's path and the staging path are already directories, `Stage` succeeds and changes
nothing. -/
theorem run_stage_of_dirs {stagingPath : String} {w : Host}
    (h₁ : w.stat ((v.parameters.lookup "path").getD "") = .ok .dir) (h₂ : w.stat stagingPath = .ok .dir) :
    ((localBackend Host.os).stage v stagingPath).run w = (.ok (), w) := by
  simp only [localBackend, Proc.bind_eq, Proc.run_bind, run_ensureDirectoryExists_of_dir h₁,
    run_ensureDirectoryExists_of_dir h₂]
  rfl

/-- A successful `Publish` leaves the target path a directory, and the bind mount it made succeeds
again there without a change. -/
theorem run_publish_ok {stagingPath targetPath : String} {readOnly : Bool} {w w' : Host}
    (h : ((localBackend Host.os).publish v stagingPath targetPath readOnly).run w = (.ok (), w')) :
    w'.stat targetPath = .ok .dir ∧
      (createBindMount Host.os ((v.parameters.lookup "path").getD "") targetPath readOnly).run w' =
        (.ok (), w') := by
  simp only [localBackend, Proc.bind_eq, Proc.run_bind] at h
  generalize hr₁ : (ensureDirectoryExists Host.os targetPath).run w = r₁ at h
  rcases r₁ with ⟨_ | ⟨⟩, w₁⟩
  · simp at h
  · simp only [Proc.run_bind] at h
    generalize hr₂ : (createBindMount Host.os _ targetPath readOnly).run w₁ = r₂ at h
    rcases r₂ with ⟨_ | ⟨⟩, w₂⟩
    · simp at h
    · simp only [Proc.pure_eq, Proc.run_done, Prod.mk.injEq, true_and] at h
      subst h
      obtain ⟨-, hs₁⟩ := run_ensureDirectoryExists_ok hr₁
      obtain ⟨hk₂, hagain⟩ := run_createBindMount_ok hr₂
      exact ⟨Host.stat_of_dirsKept hk₂ hs₁, hagain⟩

/-- When the target path is a directory and the bind mount succeeds without a change, `Publish`
succeeds and changes nothing. -/
theorem run_publish_of {stagingPath targetPath : String} {readOnly : Bool} {w : Host}
    (h₁ : w.stat targetPath = .ok .dir)
    (h₂ : (createBindMount Host.os ((v.parameters.lookup "path").getD "") targetPath readOnly).run w =
      (.ok (), w)) :
    ((localBackend Host.os).publish v stagingPath targetPath readOnly).run w = (.ok (), w) := by
  simp only [localBackend, Proc.bind_eq, Proc.run_bind, run_ensureDirectoryExists_of_dir h₁]
  simp only [h₂]
  rfl

/-- Unpublish is retryable: a second `Remove` of the target finds nothing, which
`removeBindMount` accepts. -/
theorem unpublish_retryable (targetPath : String) (w : Host) :
    Retryable ((localBackend Host.os).unpublish v targetPath) w := by
  unfold Retryable
  simp only [localBackend, removeBindMount, Proc.bind_eq, Proc.run_bind, Proc.run_atomic, Host.os]
  generalize hm : FilePath.join targetPath ".volume-mount" = marker
  rcases hr : Os.remove w marker with ⟨_ | ⟨⟩, w₁⟩
  · rename_i e
    have hw₁ : (Os.remove w marker).2 = w := Os.remove_state_of_error (by rw [hr])
    rw [hr] at hw₁
    subst hw₁
    by_cases hn : e.err = .noent
    · intro _
      simp [hr, hn, Except.mapError]
    · simp [hr, hn, Except.mapError]
  · intro _
    have hagain : Os.remove (Os.remove w marker).2 marker =
        (.error ⟨"remove", marker, .noent⟩, (Os.remove w marker).2) := Os.remove_again (by rw [hr])
    rw [hr] at hagain
    simp [hagain, Except.mapError]

/-- Each of the local backend's four calls is retryable on the host file system, for every volume,
path and host. -/
theorem localBackend_retryable (stagingPath targetPath : String) (readOnly : Bool) (w : Host) :
    Retryable ((localBackend Host.os).stage v stagingPath) w ∧
      Retryable ((localBackend Host.os).unstage v stagingPath) w ∧
      Retryable ((localBackend Host.os).publish v stagingPath targetPath readOnly) w ∧
      Retryable ((localBackend Host.os).unpublish v targetPath) w :=
  ⟨retryable_of fun _ h => run_stage_of_dirs v (run_stage_ok v h).1 (run_stage_ok v h).2,
    retryable_of fun _ _ => rfl,
    retryable_of fun _ h => run_publish_of v (run_publish_ok v h).1 (run_publish_ok v h).2,
    unpublish_retryable v targetPath w⟩

/-- A local volume at `/srv`. -/
def srvVolume : Volume :=
  ⟨"vol-1", "srv", "local", (∅ : StrMap String).insert "path" "/srv", .created, [], [], 0, 0⟩

/-- For the volume at `/srv` on an empty host, `Stage`, `Publish` and `Unpublish` succeed, and each of
the four calls is retryable there. -/
theorem localBackend_retryable_srv :
    (((localBackend Host.os).stage srvVolume "/staging").run Host.empty).1 = .ok () ∧
      (((localBackend Host.os).publish srvVolume "/staging" "/target" false).run Host.empty).1 = .ok () ∧
      (((localBackend Host.os).unpublish srvVolume "/target").run Host.empty).1 = .ok () ∧
      Retryable ((localBackend Host.os).stage srvVolume "/staging") Host.empty ∧
      Retryable ((localBackend Host.os).unstage srvVolume "/staging") Host.empty ∧
      Retryable ((localBackend Host.os).publish srvVolume "/staging" "/target" false) Host.empty ∧
      Retryable ((localBackend Host.os).unpublish srvVolume "/target") Host.empty := by
  refine ⟨?_, ?_, rfl, localBackend_retryable srvVolume "/staging" "/target" false Host.empty⟩ <;>
  · simp only [localBackend, ensureDirectoryExists, Host.os, Proc.bind_eq, Proc.run_bind, Proc.run_atomic]
    unfold Os.mkdirAll
    rfl

end Storage

end VolumeManager
