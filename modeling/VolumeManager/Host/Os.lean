import VolumeManager.Host.Tree
import VolumeManager.Storage.Backend
import Mathlib.Data.Finset.Sort
import Mathlib.Data.String.Basic

/-!
# The `os` package on the host file system

Go's `os.Stat`, `os.MkdirAll`, `os.WriteFile`, `os.Remove`, `os.RemoveAll`, `os.ReadFile` and
`os.ReadDir` on `Host`, each as the Go source writes it over the system calls, failing with its
`*PathError`. `Host.os` is the `HostOS` the local backend and the node plugin run on.

* `mkdirAll_ok`: a `MkdirAll` that succeeded leaves a directory at the path and keeps every
  directory; `mkdirAll_of_dir`: on a directory it does nothing.
* `writeFile_again`: writing the same bytes to the same path again changes nothing.
* `remove_again`: after a `Remove` that succeeded, the same `Remove` fails with `ENOENT` and
  changes nothing.
* `stat_of_removeAll`, `stat_below_removeAll`: after a `RemoveAll` that succeeded on an entry,
  `Stat` finds nothing there, nor at any path that extends it.
-/

namespace VolumeManager

/-- `*os.PathError`: the operation, the path it was given, and the errno. -/
structure PathError where
  op : String
  path : String
  err : Errno
  deriving DecidableEq

/-- `(*PathError).Error()`. -/
def PathError.text (e : PathError) : String := e.op ++ " " ++ e.path ++ ": " ++ e.err.text

/-- `[]byte(s)`: the UTF-8 encoding of `s`. -/
def utf8Bytes (s : String) : List UInt8 := s.data.flatMap String.utf8EncodeChar

namespace Os

/-- `os.Stat`. -/
def stat (h : Host) (path : String) : Except PathError Node :=
  (h.stat path).mapError fun e => ⟨"stat", path, e⟩

/-- The parent `MkdirAll` makes first: the path up to the separator before its last element,
trailing separators skipped (empty when there is none). -/
def mkdirParent (cs : List Char) : List Char :=
  (((cs.reverse.dropWhile (· = '/')).dropWhile (· ≠ '/')).drop 1).reverse

/-- The parent MkdirAll makes first is shorter than the path, when there is one. -/
theorem mkdirParent_length_lt {cs : List Char} (hp : mkdirParent cs ≠ []) :
    (mkdirParent cs).length < cs.length := by
  unfold mkdirParent at hp ⊢
  generalize hL : (cs.reverse.dropWhile (· = '/')).dropWhile (· ≠ '/') = L at hp ⊢
  have hle : L.length ≤ cs.length := by
    rw [← hL]
    exact ((List.dropWhile_suffix _).trans (List.dropWhile_suffix _)).length_le.trans_eq
      (List.length_reverse cs)
  have hpos : 0 < (L.drop 1).reverse.length := List.length_pos.2 hp
  simp only [List.length_reverse, List.length_drop] at hpos ⊢
  omega

/-- `os.MkdirAll`: done if the path is a directory, an error if it is a file; otherwise make the
parent, then `Mkdir` the path, a failure forgiven when the path turns out to be a directory. -/
def mkdirAll (h : Host) (cs : List Char) : Except PathError Unit × Host :=
  match h.stat (String.mk cs) with
  | .ok .dir => (.ok (), h)
  | .ok (.file _) => (.error ⟨"mkdir", String.mk cs, .notdir⟩, h)
  | .error _ =>
    let made : Except PathError Unit × Host :=
      if _hp : mkdirParent cs = [] then (.ok (), h) else mkdirAll h (mkdirParent cs)
    match made with
    | (.error e, h') => (.error e, h')
    | (.ok (), h') =>
      match h'.mkdir (String.mk cs) with
      | .ok h'' => (.ok (), h'')
      | .error e =>
        match h'.stat (String.mk cs) with
        | .ok .dir => (.ok (), h')
        | _ => (.error ⟨"mkdir", String.mk cs, e⟩, h')
termination_by cs.length
decreasing_by exact mkdirParent_length_lt _hp

/-- `os.WriteFile`: open with `O_WRONLY|O_CREATE|O_TRUNC`, write, close. -/
def writeFile (h : Host) (path : String) (data : List UInt8) : Except PathError Unit × Host :=
  match h.create path data with
  | .ok h' => (.ok (), h')
  | .error e => (.error ⟨"open", path, e⟩, h)

/-- `os.Remove`: `unlink`, then `rmdir`; when both fail, the error of `rmdir` unless it is
`ENOTDIR`. -/
def remove (h : Host) (path : String) : Except PathError Unit × Host :=
  match h.unlink path with
  | .ok h' => (.ok (), h')
  | .error e =>
    match h.rmdir path with
    | .ok h' => (.ok (), h')
    | .error e₁ => (.error ⟨"remove", path, if e₁ ≠ .notdir then e₁ else e⟩, h)

/-- `endsWithDot`: the path is `.` or ends in `/.`. -/
def endsWithDot (path : String) : Bool :=
  path = "." || (path.data.length ≥ 2 && path.data.getLast? = some '.' &&
    path.data.dropLast.getLast? = some '/')

/-- `os.RemoveAll` on the cleaned paths the file handlers pass: `Remove`, and when that fails for
another reason than a missing entry, `removeAllFrom` on the parent, which deletes the entry with
everything under it (a path whose last element is `..` is not modelled: it is refused here). -/
def removeAll (h : Host) (path : String) : Except PathError Unit × Host :=
  if path = "" then (.ok (), h)
  else if endsWithDot path then (.error ⟨"RemoveAll", path, .inval⟩, h)
  else
    match remove h path with
    | (.ok (), h') => (.ok (), h')
    | (.error e, _) =>
      if e.err = .noent then (.ok (), h)
      else
        match h.resolve path with
        | .error .noent => (.ok (), h)
        | .ok (.last dir c _) =>
          if c ≠ ".." ∧ (h.node (dir ++ [c])).isSome then (.ok (), h.prune (dir ++ [c]) (by simp))
          else (.error e, h)
        | _ => (.error e, h)

/-- `os.ReadFile`. -/
def readFile (h : Host) (path : String) : Except PathError (List UInt8) :=
  match h.stat path with
  | .ok (.file data) => .ok data
  | .ok .dir => .error ⟨"read", path, .isdir⟩
  | .error e => .error ⟨"open", path, e⟩

/-- The entries in the directory `q`, by name, sorted by name. -/
def children (h : Host) (q : List String) : List (String × Node) :=
  (((h.entries.keys.filter fun k => k ≠ [] ∧ k.dropLast = q).image fun k => k.getLastD "").sort
    (· ≤ ·)).filterMap fun name => (h.node (q ++ [name])).map fun n => (name, n)

/-- `os.ReadDir`: the entries of a directory, sorted by name. -/
def readDir (h : Host) (path : String) : Except PathError (List (String × Node)) :=
  match h.locate path with
  | .ok (q, .dir) => .ok (children h q)
  | .ok (_, .file _) => .error ⟨"readdirent", path, .notdir⟩
  | .error e => .error ⟨"open", path, e⟩

end Os

/-- The host calls of the local backend and the node plugin on `Host`: `os.MkdirAll`,
`os.WriteFile` of a string's bytes, and `os.Remove`, its error `IsNotExist` exactly when the errno
is `ENOENT`. -/
def Host.os : HostOS Host where
  mkdirAll path h := ((Os.mkdirAll h path.data).1.mapError PathError.text, (Os.mkdirAll h path.data).2)
  writeFile path content h :=
    ((Os.writeFile h path (utf8Bytes content)).1.mapError PathError.text,
      (Os.writeFile h path (utf8Bytes content)).2)
  remove path h :=
    ((Os.remove h path).1.mapError fun e => if e.err = .noent then .notExist else .failed e.text,
      (Os.remove h path).2)

namespace Os

variable {h : Host}

/-! ## `MkdirAll` -/

/-- On a directory `MkdirAll` does nothing. -/
theorem mkdirAll_of_dir {cs : List Char} (hs : h.stat (String.mk cs) = .ok .dir) :
    mkdirAll h cs = (.ok (), h) := by
  rw [mkdirAll, hs]

/-- A `MkdirAll` that succeeded leaves a directory at the path and keeps every directory. -/
theorem mkdirAll_ok : ∀ {cs : List Char} {h h' : Host}, mkdirAll h cs = (.ok (), h') →
    Host.DirsKept h h' ∧ h'.stat (String.mk cs) = .ok .dir := by
  intro cs
  induction' hn : cs.length using Nat.strong_induction_on with n ih generalizing cs
  intro h h' hm
  rw [mkdirAll] at hm
  split at hm
  · cases hm
    exact ⟨.refl h, ‹_›⟩
  · cases hm
  · have hmade : ∀ h₁, (if hp : mkdirParent cs = [] then ((.ok (), h) : Except PathError Unit × Host)
        else mkdirAll h (mkdirParent cs)) = (.ok (), h₁) → Host.DirsKept h h₁ := by
      intro h₁ h₁'
      split at h₁'
      · cases h₁'; exact .refl h
      · exact (ih _ (hn ▸ mkdirParent_length_lt ‹_›) rfl h₁').1
    dsimp only at hm
    split at hm
    · cases hm
    · rename_i h₁ hmade₁
      have hk₁ := hmade h₁ hmade₁
      split at hm
      · cases hm
        rename_i h₂ hmk
        exact ⟨hk₁.trans (Host.mkdir_ok hmk).1, (Host.mkdir_ok hmk).2⟩
      · split at hm
        · cases hm
          exact ⟨hk₁, ‹_›⟩
        · cases hm

/-! ## `WriteFile` and `Remove` -/

/-- A `WriteFile` that succeeded kept every directory. -/
theorem writeFile_ok {path : String} {data : List UInt8} {h' : Host}
    (hw : writeFile h path data = (.ok (), h')) : Host.DirsKept h h' := by
  unfold writeFile at hw
  split at hw
  · cases hw
    exact (Host.create_ok ‹_›).1
  · cases hw

/-- Writing the same bytes to the same path again changes nothing. -/
theorem writeFile_again {path : String} {data : List UInt8} {h' : Host}
    (hw : writeFile h path data = (.ok (), h')) : writeFile h' path data = (.ok (), h') := by
  unfold writeFile at hw
  split at hw
  · cases hw
    rename_i hc
    unfold writeFile
    rw [Host.create_again hc]
  · cases hw

/-- What a `WriteFile` that succeeded wrote, `Stat` finds at the path. -/
theorem stat_of_writeFile {path : String} {data : List UInt8} {h' : Host}
    (hw : writeFile h path data = (.ok (), h')) : stat h' path = .ok (.file data) := by
  unfold writeFile at hw
  split at hw
  · cases hw
    rw [stat, Host.stat_of_create ‹_›]
    rfl
  · cases hw

/-- `ReadFile` returns the bytes of the regular file `Stat` finds. -/
theorem readFile_of_stat {path : String} {data : List UInt8} (hs : stat h path = .ok (.file data)) :
    readFile h path = .ok data := by
  unfold stat at hs
  unfold readFile
  cases hh : h.stat path <;> simp_all [Except.mapError]

/-- A `Remove` that failed changed nothing. -/
theorem remove_state_of_error {path : String} {e : PathError} (hr : (remove h path).1 = .error e) :
    (remove h path).2 = h := by
  unfold remove at hr ⊢
  cases hu : h.unlink path with
  | ok h' => simp [hu] at hr
  | error e' =>
    cases hrm : h.rmdir path with
    | ok h' => simp [hu, hrm] at hr
    | error e₁ => simp [hu, hrm]

/-- A `Remove` that succeeded unlinked the path or removed the directory it names. -/
theorem remove_ok {path : String} {h' : Host} (hr : remove h path = (.ok (), h')) :
    h.unlink path = .ok h' ∨ h.rmdir path = .ok h' := by
  unfold remove at hr
  split at hr
  · cases hr
    exact .inl ‹_›
  · split at hr
    · cases hr
      exact .inr ‹_›
    · cases hr

/-- After a `Remove` that succeeded, the same `Remove` fails with `ENOENT` and changes nothing. -/
theorem remove_again {path : String} (hr : (remove h path).1 = .ok ()) :
    remove (remove h path).2 path = (.error ⟨"remove", path, .noent⟩, (remove h path).2) := by
  obtain ⟨h', hh'⟩ : ∃ h', remove h path = (.ok (), h') := ⟨_, Prod.ext hr rfl⟩
  rw [hh']
  obtain ⟨dir, c, slash, hres, hd, h₁, h₂, hnode, hcwd⟩ := Host.unlink_rmdir_ok (remove_ok hh')
  have hq : h'.node (dir ++ [c]) = none := by rw [hnode, if_pos rfl]
  have hboth : h'.unlink path = .error .noent ∧ h'.rmdir path = .error .noent := by
    rcases Host.resolve_of_shrink (Host.shrinks_of_node hnode hcwd) path with hres' | hres'
    · rw [hres] at hres'
      have hdne : dir ≠ dir ++ [c] := fun e => by simpa using congrArg List.length e
      exact Host.unlink_rmdir_of_none hres' (by rw [hnode, if_neg hdne, hd]) h₁ h₂ hq
    · constructor
      · unfold Host.unlink; rw [hres']
      · unfold Host.rmdir; rw [hres']
  unfold remove
  rw [hboth.1, hboth.2]
  rfl

/-- On a path that exists, `Remove` does not fail with `ENOENT`. -/
theorem remove_error_of_stat {path : String} {n : Node} (hs : h.stat path = .ok n) {e : PathError}
    {h' : Host} (hr : remove h path = (.error e, h')) : e.err ≠ .noent := by
  obtain ⟨hm, hu⟩ := Host.rmdir_unlink_of_stat hs
  unfold remove at hr
  split at hr
  · cases hr
  · rename_i e₀ hu₀
    split at hr
    · cases hr
    · rename_i e₁ hm₁
      cases hr
      dsimp only
      split_ifs
      · exact fun h => hm (hm₁ ▸ h ▸ rfl)
      · exact fun h => hu (hu₀ ▸ h ▸ rfl)

/-- Stat succeeds with a node exactly when the host's stat does. -/
theorem stat_ok_iff {path : String} {n : Node} : stat h path = .ok n ↔ h.stat path = .ok n := by
  unfold stat
  cases h.stat path <;> simp [Except.mapError]

/-- `RemoveAll` refuses `.`. -/
theorem removeAll_ne_dot {path : String} {h' : Host} (hr : removeAll h path = (.ok (), h')) :
    path ≠ "." := by
  rintro rfl
  simp [removeAll, endsWithDot] at hr

/-- A `RemoveAll` that succeeded on a path that named an entry, none of whose elements is `.`,
removed that entry, alone by `Remove` or with everything under it, and nothing but entries. -/
theorem removeAll_gone {path : String} {n : Node} {h' : Host} (hdot : "." ∉ Host.names path)
    (hs : h.stat path = .ok n) (hr : removeAll h path = (.ok (), h')) :
    ∃ dir c slash, h.resolve path = .ok (.last dir c slash) ∧ h.node dir = some .dir ∧ c ≠ "." ∧
      c ≠ ".." ∧ Host.Shrinks h h' ∧ h'.node (dir ++ [c]) = none := by
  have hdir : ∀ dir c slash, h.resolve path = .ok (.last dir c slash) → h.node dir = some .dir :=
    fun dir c slash hres => by
      unfold Host.stat at hs
      rw [hres] at hs
      exact (Host.inDir_eq_ok hs).1
  unfold removeAll at hr
  split_ifs at hr with h0 hd0
  · subst h0
    simp [Host.stat, Host.resolve] at hs
  · simp at hr
  rcases hrem : remove h path with ⟨_ | ⟨⟩, h''⟩
  · -- `Remove` failed, for another reason than a missing entry: the entry is pruned
    rename_i e
    rw [hrem] at hr
    dsimp only at hr
    rw [if_neg (remove_error_of_stat hs hrem)] at hr
    split at hr
    · rename_i hres
      unfold Host.stat at hs
      rw [hres] at hs
      cases hs
    · rename_i dir c slash hres
      split_ifs at hr with hc
      · cases hr
        exact ⟨dir, c, slash, hres, hdir _ _ _ hres, fun e => hdot (e ▸ Host.mem_names_of_resolve hres),
          hc.1, Host.shrinks_of_node (Host.node_prune (h := h)) Host.cwd_prune,
          by rw [Host.node_prune, if_pos (List.prefix_refl _)]⟩
      · simp at hr
    · simp at hr
  · -- `Remove` succeeded
    rw [hrem] at hr
    cases hr
    obtain ⟨dir, c, slash, hres, hd, h₁, h₂, hnode, hcwd⟩ := Host.unlink_rmdir_ok (remove_ok hrem)
    exact ⟨dir, c, slash, hres, hd, h₁, h₂, Host.shrinks_of_node hnode hcwd, by rw [hnode, if_pos rfl]⟩

/-- A `RemoveAll` that succeeded on a path that named an entry, none of whose elements is `.`,
leaves nothing there. -/
theorem stat_of_removeAll {path : String} {n : Node} {h' : Host} (hdot : "." ∉ Host.names path)
    (hs : stat h path = .ok n) (hr : removeAll h path = (.ok (), h')) :
    stat h' path = .error ⟨"stat", path, .noent⟩ := by
  obtain ⟨dir, c, slash, hres, hd, h₁, h₂, hsh, hgone⟩ := removeAll_gone hdot (stat_ok_iff.1 hs) hr
  rw [stat, Host.stat_of_gone hsh hres hd h₁ h₂ hgone]
  rfl

/-- Nor below it: a path whose elements extend that path's names nothing either. -/
theorem stat_below_removeAll {path path' : String} {n : Node} {h' : Host}
    (hdot : "." ∉ Host.names path) (hs : stat h path = .ok n) (hr : removeAll h path = (.ok (), h'))
    (habs : FilePath.isAbs path' = FilePath.isAbs path) {more : List String} (hmore : more ≠ [])
    (hn : Host.names path' = Host.names path ++ more) :
    stat h' path' = .error ⟨"stat", path', .noent⟩ := by
  obtain ⟨dir, c, slash, hres, hd, h₁, h₂, hsh, hgone⟩ := removeAll_gone hdot (stat_ok_iff.1 hs) hr
  rw [stat, Host.stat_below_gone hsh hres hd h₁ h₂ hgone habs hmore hn]
  rfl

end Os

end VolumeManager
