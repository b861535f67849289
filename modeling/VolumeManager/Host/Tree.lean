import VolumeManager.FilePath
import Mathlib.Data.Finmap

/-!
# The host file system and its system calls

`Host` is the state the file-system calls of the manager and of the node plugin act on: a tree of
directories and regular files, each entry under the names that lead to it from the root, and the
process's working directory. Two fields keep it a tree: the root is a directory, and every other
entry sits in a directory. Symbolic links, permissions, owners and times are not modelled.

A path is walked as the kernel walks it (`Host.resolve`): from the root when it starts with `/`,
from the working directory otherwise; empty elements are skipped, `.` stays and `..` goes up (the
root is its own parent), and every directory passed through must exist and be one. The last
element is looked up by the call itself: `stat`, `mkdir`, `open` with `O_CREAT|O_TRUNC`
(`Host.create`), `unlink` and `rmdir`, each failing with the errno Linux gives.

* `Host.put`, `Host.erase`, `Host.prune` change entries and keep the two tree fields.
* `Host.walk_of_dirsKept`: a walk that succeeded still succeeds on a host that kept every
  directory; `Host.walk_of_shrink`: on a host with entries gone it gives the same or `ENOENT`.
* `Host.stat_of_gone`: an entry removed, `stat` of a path that named it finds nothing;
  `Host.stat_below_gone`: nor of any path whose elements extend that path's.
-/

namespace VolumeManager

/-- An entry of the host file system. -/
inductive Node where
  | dir
  | file (data : List UInt8)
  deriving DecidableEq

/-- The `errno` values of the calls modelled. -/
inductive Errno where
  | noent
  | notdir
  | exist
  | isdir
  | notempty
  | inval
  | busy
  deriving DecidableEq

/-- `syscall.Errno.Error()` on Linux. -/
def Errno.text : Errno → String
  | .noent => "no such file or directory"
  | .notdir => "not a directory"
  | .exist => "file exists"
  | .isdir => "is a directory"
  | .notempty => "directory not empty"
  | .inval => "invalid argument"
  | .busy => "device or resource busy"

/-- The host file system: each entry under the names leading to it, and the working directory. -/
structure Host where
  entries : Finmap fun _ : List String => Node
  cwd : List String
  root_dir : entries.lookup [] = some .dir
  parent_dir : ∀ p, p ≠ [] → p ∈ entries → entries.lookup p.dropLast = some .dir

/-- Filtering a multiset of entries keeps its keys without repeats. -/
theorem nodupKeys_filter (keep : List String → Bool) :
    ∀ m : Multiset (Σ _ : List String, Node), m.NodupKeys → (m.filter fun e => keep e.1).NodupKeys := by
  rintro ⟨l⟩ hl
  exact List.NodupKeys.sublist (List.filter_sublist _) hl

/-- The entries whose names satisfy `keep`. -/
def keepEntries (keep : List String → Bool) (s : Finmap fun _ : List String => Node) :
    Finmap fun _ : List String => Node :=
  ⟨s.entries.filter fun e => keep e.1, nodupKeys_filter keep _ s.nodupKeys⟩

/-- Looking a name up among the filtered entries finds it only when the name is kept. -/
theorem dlookup_filter (keep : List String → Bool) (a : List String) :
    ∀ l : List (Σ _ : List String, Node),
      (l.filter fun e => decide (keep e.1 = true)).dlookup a = if keep a then l.dlookup a else none
  | [] => by simp [List.dlookup_nil]
  | ⟨k, n⟩ :: l => by
    by_cases hk : a = k
    · subst hk
      rw [List.filter_cons]
      by_cases hkeep : keep a = true
      · rw [if_pos (by simpa using hkeep), List.dlookup_cons_eq, if_pos hkeep, List.dlookup_cons_eq]
      · rw [if_neg (by simpa using hkeep), dlookup_filter keep a l, if_neg hkeep, if_neg hkeep]
    · rw [List.dlookup_cons_ne _ _ hk, ← dlookup_filter keep a l, List.filter_cons]
      split
      · exact List.dlookup_cons_ne _ _ hk
      · rfl

/-- Looking a name up among the kept entries finds it only when the name is kept. -/
theorem lookup_keepEntries (keep : List String → Bool) (s : Finmap fun _ : List String => Node)
    (a : List String) : (keepEntries keep s).lookup a = if keep a then s.lookup a else none := by
  rcases s with ⟨⟨l⟩, hl⟩
  exact dlookup_filter keep a l

/-- Dropping the last element of a non-empty path changes it. -/
theorem dropLast_ne_self {k : List String} (hk : k ≠ []) : k.dropLast ≠ k := fun e => by
  have := congrArg List.length e
  rw [List.length_dropLast] at this
  have : 0 < k.length := List.length_pos.2 hk
  omega

namespace Host

variable (h : Host)

/-- The entry at `p`. -/
def node (p : List String) : Option Node := h.entries.lookup p

/-- The root is a directory. -/
@[simp] theorem node_root : h.node [] = some .dir := h.root_dir

/-- Every entry but the root sits in a directory. -/
theorem node_dropLast {p : List String} (hp : p ≠ []) {n : Node} (hn : h.node p = some n) :
    h.node p.dropLast = some .dir :=
  h.parent_dir p hp (Finmap.mem_of_lookup_eq_some hn)

/-- Nothing sits in an entry that is not a directory. -/
theorem node_eq_none_of_parent {k : List String} (hk : k ≠ []) (hp : h.node k.dropLast ≠ some .dir) :
    h.node k = none := by
  cases hn : h.node k with
  | none => rfl
  | some n => exact absurd (h.node_dropLast hk hn) hp

/-! ## Changing entries -/

/-- Set the entry at `p`, inside an existing directory; over a directory only a directory goes,
so what sits in it keeps a directory around it. -/
def put (p : List String) (n : Node) (hp : p ≠ []) (hd : h.node p.dropLast = some .dir)
    (hn : h.node p = some .dir → n = .dir) : Host where
  entries := h.entries.insert p n
  cwd := h.cwd
  root_dir := by rw [Finmap.lookup_insert_of_ne _ hp.symm]; exact h.root_dir
  parent_dir k hk hmem := by
    rcases Finmap.mem_insert.1 hmem with rfl | hmem
    · rw [Finmap.lookup_insert_of_ne _ (dropLast_ne_self hk)]
      exact hd
    · have hpar := h.parent_dir k hk hmem
      by_cases hkp : k.dropLast = p
      · rw [hkp, Finmap.lookup_insert, hn (hkp ▸ hpar)]
      · rw [Finmap.lookup_insert_of_ne _ hkp]
        exact hpar

/-- Remove the entry `p`, which nothing sits in. -/
def erase (p : List String) (hp : p ≠ []) (hleaf : ∀ k, k ≠ [] → k.dropLast = p → h.node k = none) :
    Host where
  entries := h.entries.erase p
  cwd := h.cwd
  root_dir := by rw [Finmap.lookup_erase_ne hp.symm]; exact h.root_dir
  parent_dir k hk hmem := by
    obtain ⟨-, hmem⟩ := Finmap.mem_erase.1 hmem
    have hkp : k.dropLast ≠ p := fun e =>
      Finmap.lookup_eq_none.1 (hleaf k hk e) hmem
    rw [Finmap.lookup_erase_ne hkp]
    exact h.parent_dir k hk hmem

/-- Remove `p` and everything under it. -/
def prune (p : List String) (hp : p ≠ []) : Host where
  entries := keepEntries (fun k => !p.isPrefixOf k) h.entries
  cwd := h.cwd
  root_dir := by
    rw [lookup_keepEntries]
    cases p with
    | nil => exact absurd rfl hp
    | cons _ _ => exact h.root_dir
  parent_dir k hk hmem := by
    rw [← Finmap.lookup_isSome, lookup_keepEntries] at hmem
    split_ifs at hmem with hkeep
    · have hpar : p.isPrefixOf k.dropLast = false := by
        rw [Bool.eq_false_iff]
        intro hd
        rw [List.isPrefixOf_iff_prefix.2 ((List.isPrefixOf_iff_prefix.1 hd).trans
          (List.dropLast_prefix k))] at hkeep
        cases hkeep
      rw [lookup_keepEntries, if_pos (by simp [hpar])]
      exact h.parent_dir k hk (Finmap.lookup_isSome.1 hmem)
    · exact absurd hmem (by simp)

/-- A host with nothing but the root directory, the working directory at the root. -/
def empty : Host where
  entries := Finmap.singleton [] .dir
  cwd := []
  root_dir := Finmap.lookup_singleton_eq
  parent_dir _ hp hmem := absurd ((Finmap.mem_singleton _ _ _).1 hmem) hp

variable {h}

/-- Putting a node at a path changes only that path. -/
@[simp] theorem node_put {p : List String} {n : Node} {hp hd hn} (q : List String) :
    (h.put p n hp hd hn).node q = if q = p then some n else h.node q := by
  unfold put node
  split_ifs with hq
  · subst hq; exact Finmap.lookup_insert _
  · exact Finmap.lookup_insert_of_ne _ hq

/-- Erasing a path changes only that path. -/
@[simp] theorem node_erase {p : List String} {hp hleaf} (q : List String) :
    (h.erase p hp hleaf).node q = if q = p then none else h.node q := by
  unfold erase node
  split_ifs with hq
  · subst hq; exact Finmap.lookup_erase _ _
  · exact Finmap.lookup_erase_ne hq

/-- Pruning a path removes it and everything below it, and nothing else. -/
@[simp] theorem node_prune {p : List String} {hp} (q : List String) :
    (h.prune p hp).node q = if p <+: q then none else h.node q := by
  unfold prune node
  rw [lookup_keepEntries]
  by_cases hq : p <+: q <;> simp [hq]

/-- Putting a node keeps the working directory. -/
@[simp] theorem cwd_put {p : List String} {n : Node} {hp hd hn} : (h.put p n hp hd hn).cwd = h.cwd := rfl

/-- Erasing a path keeps the working directory. -/
@[simp] theorem cwd_erase {p : List String} {hp hleaf} : (h.erase p hp hleaf).cwd = h.cwd := rfl

/-- Pruning a path keeps the working directory. -/
@[simp] theorem cwd_prune {p : List String} {hp} : (h.prune p hp).cwd = h.cwd := rfl

/-- Two hosts with the same entries and working directory are the same host. -/
theorem ext {h₁ h₂ : Host} (hn : ∀ p, h₁.node p = h₂.node p) (hc : h₁.cwd = h₂.cwd) : h₁ = h₂ := by
  obtain ⟨e₁, c₁, _, _⟩ := h₁
  obtain ⟨e₂, c₂, _, _⟩ := h₂
  obtain rfl : e₁ = e₂ := Finmap.ext_lookup hn
  obtain rfl : c₁ = c₂ := hc
  rfl

/-- Setting an entry to what it already is changes nothing. -/
theorem put_self {p : List String} {n : Node} {hp hd hn} (he : h.node p = some n) :
    h.put p n hp hd hn = h :=
  ext (fun q => by rw [node_put]; split_ifs with hq <;> simp [hq, he]) rfl

/-! ## Walking a path -/

variable (h)

/-- The last element of a path is looked up in a directory: `dir` must exist and be one. -/
def inDir {α : Type} (dir : List String) (k : h.node dir = some .dir → Except Errno α) :
    Except Errno α :=
  match hd : h.node dir with
  | some .dir => k hd
  | some (.file _) => .error .notdir
  | none => .error .noent

/-- Where the element `c` leads from the directory `dir`. -/
def child (dir : List String) (c : String) : List String :=
  if c = "." then dir else if c = ".." then dir.dropLast else dir ++ [c]

/-- One element of a walk. -/
def enter (cur : List String) (c : String) : Except Errno (List String) :=
  h.inDir cur fun _ => .ok (child cur c)

/-- The walk through a list of elements. -/
def walk : List String → List String → Except Errno (List String)
  | cur, [] => .ok cur
  | cur, c :: cs =>
    match h.enter cur c with
    | .ok next => walk next cs
    | .error e => .error e

/-- The elements of a path: the text between its slashes, empty ones dropped. -/
def names (path : String) : List String :=
  ((FilePath.splitSlash path.data).map String.mk).filter (· ≠ "")

/-- Where the walk of a path starts. -/
def start (path : String) : List String := if FilePath.isAbs path then [] else h.cwd

/-- What a path leads to before its last element is looked up. -/
inductive Target where
  /-- a path of slashes only -/
  | root
  /-- the last element `c`, to look up in the directory `dir`; `slash` when the path ends in `/` -/
  | last (dir : List String) (c : String) (slash : Bool)
  deriving DecidableEq

/-- The walk of every element of `path` but the last. -/
def resolve (path : String) : Except Errno Target :=
  if path = "" then .error .noent
  else
    match (names path).getLast? with
    | none => .ok .root
    | some c =>
      (h.walk (h.start path) (names path).dropLast).map fun dir =>
        .last dir c (path.data.getLast? = some '/')

/-! ## The system calls -/

/-- `stat(2)`: the entry a path names. -/
def stat (path : String) : Except Errno Node :=
  match h.resolve path with
  | .error e => .error e
  | .ok .root => .ok .dir
  | .ok (.last dir c slash) => h.inDir dir fun _ =>
    match h.node (child dir c) with
    | none => .error .noent
    | some .dir => .ok .dir
    | some (.file data) => if slash then .error .notdir else .ok (.file data)

/-- The entry a path names, with the names that lead to it (`stat`, keeping where the entry is). -/
def locate (path : String) : Except Errno (List String × Node) :=
  match h.resolve path with
  | .error e => .error e
  | .ok .root => .ok ([], .dir)
  | .ok (.last dir c slash) => h.inDir dir fun _ =>
    match h.node (child dir c) with
    | none => .error .noent
    | some .dir => .ok (child dir c, .dir)
    | some (.file data) => if slash then .error .notdir else .ok (child dir c, .file data)

/-- `mkdir(2)`. -/
def mkdir (path : String) : Except Errno Host :=
  match h.resolve path with
  | .error e => .error e
  | .ok .root => .error .exist
  | .ok (.last dir c _) => h.inDir dir fun hd =>
    if c = "." ∨ c = ".." then .error .exist
    else if hn : h.node (dir ++ [c]) = none then
      .ok (h.put (dir ++ [c]) .dir (by simp) (by simpa using hd) fun _ => rfl)
    else .error .exist

/-- `open(2)` with `O_WRONLY|O_CREAT|O_TRUNC`, then `data` written: the regular file `path` holds
`data`. -/
def create (path : String) (data : List UInt8) : Except Errno Host :=
  match h.resolve path with
  | .error e => .error e
  | .ok .root => .error .isdir
  | .ok (.last dir c slash) => h.inDir dir fun hd =>
    if c = "." ∨ c = ".." then .error .isdir
    else
      match hn : h.node (dir ++ [c]) with
      | some .dir => .error .isdir
      | some (.file _) =>
        if slash then .error .notdir
        else .ok (h.put (dir ++ [c]) (.file data) (by simp) (by simpa using hd) (by simp [hn]))
      | none =>
        if slash then .error .isdir
        else .ok (h.put (dir ++ [c]) (.file data) (by simp) (by simpa using hd) (by simp [hn]))

/-- `unlink(2)`. -/
def unlink (path : String) : Except Errno Host :=
  match h.resolve path with
  | .error e => .error e
  | .ok .root => .error .isdir
  | .ok (.last dir c slash) => h.inDir dir fun _ =>
    if c = "." ∨ c = ".." then .error .isdir
    else
      match hn : h.node (dir ++ [c]) with
      | none => .error .noent
      | some .dir => .error .isdir
      | some (.file _) =>
        if slash then .error .notdir
        else .ok (h.erase (dir ++ [c]) (by simp) fun k hk hkp =>
          h.node_eq_none_of_parent hk (by simp [hkp, hn]))

/-- Whether some entry sits in the directory `p`. -/
def hasChildren (p : List String) : Prop := ∃ k ∈ h.entries.keys, k ≠ [] ∧ k.dropLast = p

/-- Whether a directory has entries is decidable, as the host's entries are finite. -/
instance (p : List String) : Decidable (h.hasChildren p) :=
  inferInstanceAs (Decidable (∃ k ∈ h.entries.keys, _))

/-- A directory without entries has nothing directly below it. -/
theorem node_eq_none_of_not_hasChildren {p : List String} (hc : ¬h.hasChildren p) {k : List String}
    (hk : k ≠ []) (hkp : k.dropLast = p) : h.node k = none :=
  Finmap.lookup_eq_none.2 fun hmem => hc ⟨k, Finmap.mem_keys.2 hmem, hk, hkp⟩

/-- `rmdir(2)`. -/
def rmdir (path : String) : Except Errno Host :=
  match h.resolve path with
  | .error e => .error e
  | .ok .root => .error .busy
  | .ok (.last dir c _) => h.inDir dir fun _ =>
    if c = "." then .error .inval
    else if c = ".." then .error .notempty
    else
      match h.node (dir ++ [c]) with
      | none => .error .noent
      | some (.file _) => .error .notdir
      | some .dir =>
        if hc : h.hasChildren (dir ++ [c]) then .error .notempty
        else .ok (h.erase (dir ++ [c]) (by simp) fun _ hk hkp =>
          h.node_eq_none_of_not_hasChildren hc hk hkp)

/-! ## What a walk depends on -/

variable {h}

/-- In a directory, the lookup continues there. -/
theorem inDir_of_dir {α : Type} {dir : List String} {k : h.node dir = some .dir → Except Errno α}
    (hd : h.node dir = some .dir) : h.inDir dir k = k hd := by
  unfold inDir
  split <;> simp_all

/-- In a file, the lookup fails with ENOTDIR. -/
theorem inDir_of_file {α : Type} {dir : List String} {k : h.node dir = some .dir → Except Errno α}
    {d : List UInt8} (hf : h.node dir = some (.file d)) : h.inDir dir k = .error .notdir := by
  unfold inDir
  split <;> simp_all

/-- In nothing, the lookup fails with ENOENT. -/
theorem inDir_of_none {α : Type} {dir : List String} {k : h.node dir = some .dir → Except Errno α}
    (hn : h.node dir = none) : h.inDir dir k = .error .noent := by
  unfold inDir
  split <;> simp_all

/-- A lookup whose continuation does not use the proof depends on the directory's entry only. -/
theorem inDir_const {h' : Host} {α : Type} {dir : List String} (he : h'.node dir = h.node dir)
    (r : Except Errno α) : h'.inDir dir (fun _ => r) = h.inDir dir (fun _ => r) := by
  obtain hn | ⟨n, hn⟩ := Option.eq_none_or_eq_some (h.node dir)
  · rw [inDir_of_none hn, inDir_of_none (he.trans hn)]
  · cases n with
    | dir => rw [inDir_of_dir hn, inDir_of_dir (he.trans hn)]
    | file d => rw [inDir_of_file hn, inDir_of_file (he.trans hn)]

/-- A lookup that succeeded found a directory and succeeded in it. -/
theorem inDir_eq_ok {α : Type} {dir : List String} {k : h.node dir = some .dir → Except Errno α}
    {a : α} (hk : h.inDir dir k = .ok a) : ∃ hd : h.node dir = some .dir, k hd = .ok a := by
  unfold inDir at hk
  split at hk
  · exact ⟨‹_›, hk⟩
  · cases hk
  · cases hk

/-- `h'` keeps every directory of `h`, and the working directory. -/
def DirsKept (h h' : Host) : Prop := (∀ p, h.node p = some .dir → h'.node p = some .dir) ∧ h'.cwd = h.cwd

/-- A host keeps its own directories. -/
theorem DirsKept.refl (h : Host) : DirsKept h h := ⟨fun _ hp => hp, rfl⟩

/-- Keeping directories is transitive. -/
theorem DirsKept.trans {h₁ h₂ h₃ : Host} (h₁₂ : DirsKept h₁ h₂) (h₂₃ : DirsKept h₂ h₃) :
    DirsKept h₁ h₃ :=
  ⟨fun p hp => h₂₃.1 p (h₁₂.1 p hp), h₂₃.2.trans h₁₂.2⟩

/-- A lookup that succeeded still succeeds on a host that keeps the directories, when its continuation
answers the same. -/
theorem inDir_of_dirsKept {h' : Host} (hk : DirsKept h h') {α : Type} {dir : List String}
    {k : h.node dir = some .dir → Except Errno α} {k' : h'.node dir = some .dir → Except Errno α}
    (hkk : ∀ hd hd', k hd = k' hd') {a : α} (hok : h.inDir dir k = .ok a) : h'.inDir dir k' = .ok a := by
  obtain ⟨hd, hka⟩ := inDir_eq_ok hok
  have hd' := hk.1 dir hd
  unfold inDir
  split
  · rw [← hkk hd]; exact hka
  · simp_all
  · simp_all

/-- A walk that succeeded still succeeds on a host that keeps the directories. -/
theorem walk_of_dirsKept {h' : Host} (hk : DirsKept h h') :
    ∀ {cur : List String} {cs : List String} {q : List String}, h.walk cur cs = .ok q →
      h'.walk cur cs = .ok q
  | _, [], _, hw => hw
  | cur, c :: cs, q, hw => by
    unfold walk at hw ⊢
    cases he : h.enter cur c with
    | error e => rw [he] at hw; cases hw
    | ok next =>
      rw [he] at hw
      have he' : h'.enter cur c = .ok next := inDir_of_dirsKept hk (fun _ _ => rfl) he
      rw [he']
      exact walk_of_dirsKept hk hw

/-- A path that resolved still resolves to the same target on a host that keeps the directories. -/
theorem resolve_of_dirsKept {h' : Host} (hk : DirsKept h h') {path : String} {t : Target}
    (hr : h.resolve path = .ok t) : h'.resolve path = .ok t := by
  unfold resolve at hr ⊢
  have hs : h'.start path = h.start path := by simp only [start, hk.2]
  split_ifs at hr ⊢
  split at hr
  · exact hr
  · rw [hs]
    cases hw : h.walk (h.start path) (names path).dropLast with
    | error e => rw [hw] at hr; cases hr
    | ok dir => rw [hw] at hr; rw [walk_of_dirsKept hk hw]; exact hr

/-- A path that named a directory names one on a host that kept every directory. -/
theorem stat_of_dirsKept {h' : Host} (hk : DirsKept h h') {path : String}
    (hs : h.stat path = .ok .dir) : h'.stat path = .ok .dir := by
  unfold stat at hs ⊢
  cases hr : h.resolve path with
  | error e => rw [hr] at hs; cases hs
  | ok t =>
    rw [hr] at hs
    rw [resolve_of_dirsKept hk hr]
    cases t with
    | root => rfl
    | last dir c slash =>
      obtain ⟨hd, hs⟩ := inDir_eq_ok hs
      have hc : h.node (child dir c) = some .dir := by
        rcases hn : h.node (child dir c) with _ | _ | d
        · rw [hn] at hs; cases hs
        · rfl
        · rw [hn] at hs; dsimp only at hs; split at hs <;> cases hs
      dsimp only
      rw [inDir_of_dir (hk.1 _ hd), hk.1 _ hc]

/-- `h'` has the entries of `h` or fewer, and its working directory: what a removal leaves. -/
def Shrinks (h h' : Host) : Prop := (∀ p, h'.node p = h.node p ∨ h'.node p = none) ∧ h'.cwd = h.cwd

/-- A host whose nodes are the old ones except for some removed, with the same working directory,
shrinks the old one. -/
theorem shrinks_of_node {h' : Host} {gone : List String → Prop} [DecidablePred gone]
    (hn : ∀ q, h'.node q = if gone q then none else h.node q) (hc : h'.cwd = h.cwd) : Shrinks h h' :=
  ⟨fun q => by rw [hn]; split_ifs; exacts [.inr rfl, .inl rfl], hc⟩

/-- On a host with entries gone, a walk gives what it gave, or `ENOENT` when it had to pass
through one of them. -/
theorem walk_of_shrink {h' : Host} (hs : Shrinks h h') :
    ∀ (cur cs : List String), h'.walk cur cs = h.walk cur cs ∨ h'.walk cur cs = .error .noent
  | _, [] => .inl rfl
  | cur, c :: cs => by
    unfold walk
    rcases hs.1 cur with he | hn
    · rw [show h'.enter cur c = h.enter cur c from inDir_const he _]
      split
      · exact walk_of_shrink hs _ cs
      · exact .inl rfl
    · right
      rw [show h'.enter cur c = .error .noent from inDir_of_none hn]

/-- On a host with entries gone, a path resolves as it did, or not at all (`ENOENT`). -/
theorem resolve_of_shrink {h' : Host} (hs : Shrinks h h') (path : String) :
    h'.resolve path = h.resolve path ∨ h'.resolve path = .error .noent := by
  unfold resolve
  have hst : h'.start path = h.start path := by simp only [start, hs.2]
  split_ifs
  · exact .inl rfl
  · split
    · exact .inl rfl
    · rw [hst]
      rcases walk_of_shrink hs (h.start path) (names path).dropLast with hw | hw
      · exact .inl (by rw [hw])
      · exact .inr (by rw [hw]; rfl)

/-- The last element a path resolves to is one of its elements. -/
theorem mem_names_of_resolve {path : String} {dir : List String} {c : String} {slash : Bool}
    (hr : h.resolve path = .ok (.last dir c slash)) : c ∈ names path := by
  unfold resolve at hr
  split_ifs at hr
  split at hr
  · cases hr
  · rename_i c' hc'
    cases hw : h.walk (h.start path) (names path).dropLast with
    | error e => rw [hw] at hr; cases hr
    | ok d =>
      rw [hw] at hr
      cases hr
      exact List.mem_of_mem_getLast? hc'

/-- Elements appended after slashes are elements of the path. -/
theorem names_append_slashJoin {a b : String} {ms : List String} (hms : ∀ m ∈ ms, FilePath.Kept m)
    (hb : b.data = a.data ++ FilePath.slashJoin ms) : names b = names a ++ ms := by
  unfold names
  rw [hb, FilePath.splitSlash_append_slashJoin' _ fun m hm => (hms m hm).2.2, List.map_append,
    List.filter_append, List.map_map, show String.mk ∘ String.data = id from rfl, List.map_id]
  congr 1
  exact List.filter_eq_self.2 fun m hm => by simpa using (hms m hm).1

/-- The elements of a clean path extended by elements without `..`: its own, then the extension's
plain ones. -/
theorem names_clean_append {p q : String} (hp : p ≠ "") (hc : FilePath.clean p ≠ ".")
    (hq : ".." ∉ (FilePath.splitSlash q.data).map String.mk) :
    names (FilePath.clean (p ++ "/" ++ q)) = names (FilePath.clean p) ++ FilePath.plainElements q := by
  have hd := FilePath.clean_append hp hc hq
  split_ifs at hd with hm hr
  · rw [hm, List.append_nil, String.ext hd]
  · rw [hr]
    exact names_append_slashJoin (a := "") (FilePath.kept_plainElements q) hd
  · exact names_append_slashJoin (FilePath.kept_plainElements q) hd

/-- A walk through two lists of elements: through the first, then on from where it stopped. -/
theorem walk_append (cur a b : List String) :
    h.walk cur (a ++ b) = (h.walk cur a).bind fun d => h.walk d b := by
  induction a generalizing cur with
  | nil => rfl
  | cons c a ih =>
    simp only [List.cons_append, walk]
    split
    · exact ih _
    · rfl

/-- From an entry that is not there, a walk goes nowhere. -/
theorem walk_from_none {cur : List String} (hn : h.node cur = none) :
    ∀ cs, h.walk cur cs = .error .noent ∨ h.walk cur cs = .ok cur ∧ cs = []
  | [] => .inr ⟨rfl, rfl⟩
  | c :: cs => .inl (by unfold walk enter; rw [inDir_of_none hn])

/-! ## What the calls do -/

/-- An element other than . and .. leads to the entry of that name. -/
theorem child_of_not_dot {dir : List String} {c : String} (h₁ : c ≠ ".") (h₂ : c ≠ "..") :
    child dir c = dir ++ [c] := by
  simp [child, h₁, h₂]

/-- Putting a node keeps every directory. -/
theorem dirsKept_put {p : List String} {n : Node} {hp hd hn} : DirsKept h (h.put p n hp hd hn) :=
  ⟨fun q hq => by
    rw [node_put]
    split_ifs with hqp
    · subst hqp; rw [hn hq]
    · exact hq, rfl⟩

/-- `stat` of a path whose last element is looked up in an existing directory. -/
theorem stat_last {path : String} {dir : List String} {c : String} {slash : Bool}
    (hr : h.resolve path = .ok (.last dir c slash)) (hd : h.node dir = some .dir) :
    h.stat path =
      match h.node (child dir c) with
      | none => .error .noent
      | some .dir => .ok .dir
      | some (.file data) => if slash then .error .notdir else .ok (.file data) := by
  unfold stat
  rw [hr]
  exact inDir_of_dir hd

/-- The entry a path named in `h` is gone from a host with entries gone: `stat` finds nothing. -/
theorem stat_of_gone {h' : Host} (hs : Shrinks h h') {path : String} {dir : List String} {c : String}
    {slash : Bool} (hr : h.resolve path = .ok (.last dir c slash)) (hd : h.node dir = some .dir)
    (h₁ : c ≠ ".") (h₂ : c ≠ "..") (hgone : h'.node (dir ++ [c]) = none) :
    h'.stat path = .error .noent := by
  rcases resolve_of_shrink hs path with hres | hres
  · rcases hs.1 dir with hd' | hd'
    · rw [stat_last (hres.trans hr) (hd'.trans hd), child_of_not_dot h₁ h₂, hgone]
    · unfold stat
      rw [hres, hr]
      exact inDir_of_none hd'
  · unfold stat
    rw [hres]

/-- A path whose walk stops at an entry that is not there names nothing. -/
theorem stat_of_walk_none {path : String} (hne : names path ≠ [])
    (hw : h.walk (h.start path) (names path).dropLast = .error .noent ∨
      ∃ d, h.walk (h.start path) (names path).dropLast = .ok d ∧ h.node d = none) :
    h.stat path = .error .noent := by
  have hp : path ≠ "" := fun e => hne (by rw [e]; rfl)
  obtain ⟨z, hz⟩ := Option.isSome_iff_exists.1 (List.getLast?_isSome.2 hne)
  unfold stat resolve
  rw [if_neg hp, hz]
  rcases hw with hw | ⟨d, hw, hd⟩
  · rw [hw]
    rfl
  · rw [hw]
    exact inDir_of_none hd

/-- An entry gone from a host with entries gone: `stat` of any path whose elements extend those of
a path that named it in `h` finds nothing, whatever the further elements are. -/
theorem stat_below_gone {h' : Host} (hs : Shrinks h h') {path path' : String} {dir : List String}
    {c : String} {slash : Bool} (hr : h.resolve path = .ok (.last dir c slash))
    (hd : h.node dir = some .dir) (h₁ : c ≠ ".") (h₂ : c ≠ "..") (hgone : h'.node (dir ++ [c]) = none)
    (habs : FilePath.isAbs path' = FilePath.isAbs path) {more : List String} (hmore : more ≠ [])
    (hn : names path' = names path ++ more) : h'.stat path' = .error .noent := by
  unfold resolve at hr
  split_ifs at hr
  split at hr
  · cases hr
  rename_i c' hlast
  cases hw : h.walk (h.start path) (names path).dropLast with
  | error e => rw [hw] at hr; cases hr
  | ok d =>
  rw [hw] at hr
  cases hr
  have hnames : names path' = (names path).dropLast ++ c :: more := by
    rw [hn]
    conv_lhs => rw [← List.dropLast_append_getLast? c hlast]
    rw [List.append_assoc]
    rfl
  have hst : h'.start path' = h.start path := by simp only [start, habs, hs.2]
  refine stat_of_walk_none (by simp [hnames]) ?_
  rw [hnames, List.dropLast_append_of_ne_nil _ (List.cons_ne_nil _ _),
    List.dropLast_cons_of_ne_nil hmore, walk_append, hst]
  rcases walk_of_shrink hs (h.start path) (names path).dropLast with hw' | hw'
  · rw [hw', hw]
    rcases hs.1 dir with hd' | hd'
    · -- the directory is still there: the walk enters the entry that is gone, and stops
      have hwalk : h'.walk dir (c :: more.dropLast) = h'.walk (dir ++ [c]) more.dropLast := by
        simp only [walk, enter, inDir_of_dir (hd'.trans hd), child_of_not_dot h₁ h₂]
      rcases walk_from_none hgone more.dropLast with hw'' | ⟨hw'', -⟩
      · exact .inl (hwalk.trans hw'')
      · exact .inr ⟨_, hwalk.trans hw'', hgone⟩
    · -- the directory is gone too
      left
      show h'.walk dir (c :: more.dropLast) = _
      simp only [walk, enter, inDir_of_none hd']
  · left
    rw [hw']
    rfl

/-- On a path that names an entry, neither `rmdir` nor `unlink` fails with `ENOENT`. -/
theorem rmdir_unlink_of_stat {path : String} {n : Node} (hs : h.stat path = .ok n) :
    h.rmdir path ≠ .error .noent ∧ h.unlink path ≠ .error .noent := by
  unfold stat at hs
  unfold rmdir unlink
  rcases hr : h.resolve path with e | _ | ⟨dir, c, slash⟩
  · rw [hr] at hs; cases hs
  · simp
  · rw [hr] at hs
    dsimp only at hs ⊢
    obtain ⟨hd, hs⟩ := inDir_eq_ok hs
    rw [inDir_of_dir hd, inDir_of_dir hd]
    by_cases h₁ : c = "."
    · simp [h₁]
    by_cases h₂ : c = ".."
    · simp [h₂]
    rw [child_of_not_dot h₁ h₂] at hs
    simp only [h₁, h₂, if_false, or_self]
    -- the entry is there: each call fails, if at all, for another reason
    constructor <;> split <;> (try split) <;> simp_all

/-- A `mkdir` that succeeded made a directory at the path and kept every other entry. -/
theorem mkdir_ok {path : String} {h' : Host} (hm : h.mkdir path = .ok h') :
    DirsKept h h' ∧ h'.stat path = .ok .dir := by
  unfold mkdir at hm
  split at hm
  · cases hm
  · cases hm
  · rename_i dir c slash hr
    obtain ⟨hd, hm⟩ := inDir_eq_ok hm
    have hdot : ¬(c = "." ∨ c = "..") := fun hdot => by rw [if_pos hdot] at hm; cases hm
    rw [if_neg hdot] at hm
    have hn : h.node (dir ++ [c]) = none := by
      by_contra hn
      rw [dif_neg hn] at hm
      cases hm
    rw [dif_pos hn] at hm
    cases hm
    obtain ⟨h₁, h₂⟩ := not_or.1 hdot
    refine ⟨dirsKept_put, ?_⟩
    rw [stat_last (resolve_of_dirsKept dirsKept_put hr) (dirsKept_put.1 _ hd),
      child_of_not_dot h₁ h₂, node_put, if_pos rfl]

/-- A write that succeeded put a regular file holding `data` at the path, in an existing
directory, and kept every directory. -/
theorem create_ok {path : String} {data : List UInt8} {h' : Host} (hc : h.create path data = .ok h') :
    DirsKept h h' ∧ ∃ dir c, h.resolve path = .ok (.last dir c false) ∧ h.node dir = some .dir ∧
      c ≠ "." ∧ c ≠ ".." ∧ h'.node (dir ++ [c]) = some (.file data) := by
  unfold create at hc
  split at hc
  · cases hc
  · cases hc
  · rename_i dir c slash hr
    obtain ⟨hd, hc⟩ := inDir_eq_ok hc
    have hdot : ¬(c = "." ∨ c = "..") := fun hdot => by rw [if_pos hdot] at hc; cases hc
    rw [if_neg hdot] at hc
    obtain ⟨h₁, h₂⟩ := not_or.1 hdot
    obtain rfl : slash = false := by
      cases slash
      · rfl
      · split at hc <;> simp at hc
    split at hc
    · cases hc
    all_goals
      rw [if_neg Bool.false_ne_true] at hc
      cases hc
      exact ⟨dirsKept_put, dir, c, hr, hd, h₁, h₂, by simp⟩

/-- Writing the same data to the same path again changes nothing. -/
theorem create_again {path : String} {data : List UInt8} {h' : Host} (hc : h.create path data = .ok h') :
    h'.create path data = .ok h' := by
  obtain ⟨hk, dir, c, hr, hd, h₁, h₂, hn⟩ := create_ok hc
  unfold create
  rw [resolve_of_dirsKept hk hr]
  dsimp only
  rw [inDir_of_dir (hk.1 _ hd), if_neg (not_or.2 ⟨h₁, h₂⟩)]
  split
  · simp_all
  · rename_i d hn'
    rw [hn] at hn'
    cases hn'
    exact congrArg Except.ok (put_self hn)
  · simp_all

/-- What a write put at a path, `stat` finds there. -/
theorem stat_of_create {path : String} {data : List UInt8} {h' : Host}
    (hc : h.create path data = .ok h') : h'.stat path = .ok (.file data) := by
  obtain ⟨hk, dir, c, hr, hd, h₁, h₂, hn⟩ := create_ok hc
  rw [stat_last (resolve_of_dirsKept hk hr) (hk.1 dir hd), child_of_not_dot h₁ h₂, hn]
  rfl

/-- The last element names no entry: `unlink` and `rmdir` fail with `ENOENT`. -/
theorem unlink_rmdir_of_none {path : String} {dir : List String} {c : String} {slash : Bool}
    (hr : h.resolve path = .ok (.last dir c slash)) (hd : h.node dir = some .dir) (h₁ : c ≠ ".")
    (h₂ : c ≠ "..") (hn : h.node (dir ++ [c]) = none) :
    h.unlink path = .error .noent ∧ h.rmdir path = .error .noent := by
  constructor
  · unfold unlink
    rw [hr]
    dsimp only
    rw [inDir_of_dir hd, if_neg (not_or.2 ⟨h₁, h₂⟩)]
    split <;> simp_all
  · unfold rmdir
    rw [hr]
    dsimp only
    rw [inDir_of_dir hd, if_neg h₁, if_neg h₂, hn]

/-- An `unlink` or `rmdir` that succeeded removed the entry the path names, in an existing
directory, and nothing else. -/
theorem unlink_rmdir_ok {path : String} {h' : Host} (hu : h.unlink path = .ok h' ∨ h.rmdir path = .ok h') :
    ∃ dir c slash, h.resolve path = .ok (.last dir c slash) ∧ h.node dir = some .dir ∧ c ≠ "." ∧
      c ≠ ".." ∧ (∀ q, h'.node q = if q = dir ++ [c] then none else h.node q) ∧ h'.cwd = h.cwd := by
  rcases hu with hu | hu
  · unfold unlink at hu
    split at hu
    · cases hu
    · cases hu
    · rename_i dir c slash hr
      obtain ⟨hd, hu⟩ := inDir_eq_ok hu
      have hdot : ¬(c = "." ∨ c = "..") := fun hdot => by rw [if_pos hdot] at hu; cases hu
      rw [if_neg hdot] at hu
      obtain ⟨h₁, h₂⟩ := not_or.1 hdot
      split at hu
      · cases hu
      · cases hu
      · by_cases hs : slash = true
        · rw [if_pos hs] at hu; cases hu
        · rw [if_neg hs] at hu
          cases hu
          exact ⟨dir, c, slash, hr, hd, h₁, h₂, node_erase, rfl⟩
  · unfold rmdir at hu
    split at hu
    · cases hu
    · cases hu
    · rename_i dir c slash hr
      obtain ⟨hd, hu⟩ := inDir_eq_ok hu
      have h₁ : c ≠ "." := fun h₁ => by rw [if_pos h₁] at hu; cases hu
      rw [if_neg h₁] at hu
      have h₂ : c ≠ ".." := fun h₂ => by rw [if_pos h₂] at hu; cases hu
      rw [if_neg h₂] at hu
      split at hu
      · cases hu
      · cases hu
      · by_cases hc : h.hasChildren (dir ++ [c])
        · rw [dif_pos hc] at hu; cases hu
        · rw [dif_neg hc] at hu
          cases hu
          exact ⟨dir, c, slash, hr, hd, h₁, h₂, node_erase, rfl⟩

end Host

end VolumeManager
