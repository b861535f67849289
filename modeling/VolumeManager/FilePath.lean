import Mathlib.Data.List.Basic

/-!
# Slash-separated paths (`path/filepath` on Unix)

`FilePath.clean` is `filepath.Clean`: empty and `.` elements are dropped, `..` removes the element
before it (at the root it is dropped, in a relative path with nothing to remove it stays), and the
result is `.` rather than empty. `FilePath.join` is `filepath.Join` of two elements and
`FilePath.isAbs` is `filepath.IsAbs`; `FilePath.dir`, `FilePath.base` and `FilePath.ext` are
`filepath.Dir`, `filepath.Base` and `filepath.Ext`.

`clean_rooted`: on a rooted path whose elements include no `..`, `Clean` keeps the elements that
are neither empty nor `.`, in order; `splitSlash_slash_intercalate` reads the elements of such a
result back. `clean_elements`: whatever the path, `Clean` gives `.` or a path none of whose
elements is `.`. `clean_append`: `Clean` of a path extended past a slash by elements without `..`
is the clean path followed by the extension's elements other than empty ones and `.`.
-/

namespace VolumeManager

namespace FilePath

/-- The elements of a path, between its slashes (`a//b/` has the elements `a`, ``, `b`, ``). -/
def splitSlash : List Char → List (List Char)
  | [] => [[]]
  | c :: cs =>
    match splitSlash cs with
    | [] => [[c]]
    | e :: es => if c = '/' then [] :: e :: es else (c :: e) :: es

/-- One element of `filepath.Clean`'s scan, on the elements kept so far (last kept first). -/
def cleanStep (rooted : Bool) (kept : List String) (e : String) : List String :=
  if e = "" ∨ e = "." then kept
  else if e = ".." then
    match kept with
    | k :: ks => if k = ".." then ".." :: kept else ks
    | [] => if rooted then [] else [".."]
  else e :: kept

/-- `filepath.Clean`. -/
def clean (path : String) : String :=
  if path = "" then "."
  else
    let rooted := path.data.head? = some '/'
    let kept := ((splitSlash path.data).map String.mk).foldl (cleanStep rooted) []
    let body := "/".intercalate kept.reverse
    if rooted then "/" ++ body else if body = "" then "." else body

/-- `filepath.Join` of two elements: the non-empty ones joined by a slash, then cleaned. -/
def join (a b : String) : String :=
  if a = "" then (if b = "" then "" else clean b)
  else if b = "" then clean a
  else clean (a ++ "/" ++ b)

/-- `filepath.IsAbs`. -/
def isAbs (path : String) : Bool := path.data.head? = some '/'

/-- `filepath.Dir`: the path up to its last slash, cleaned (`.` when it has none). -/
def dir (path : String) : String := clean (String.mk (path.data.reverse.dropWhile (· ≠ '/')).reverse)

/-- `filepath.Base`: the last element, trailing slashes dropped; `.` for the empty path and `/` for
a path of slashes. -/
def base (path : String) : String :=
  if path = "" then "."
  else
    let last := ((path.data.reverse.dropWhile (· = '/')).takeWhile (· ≠ '/')).reverse
    if last = [] then "/" else String.mk last

/-- `filepath.Ext`: the last element's suffix from its last dot, or empty. -/
def ext (path : String) : String :=
  let r := path.data.reverse.takeWhile (· ≠ '/')
  if '.' ∈ r then String.mk (r.take (r.indexOf '.' + 1)).reverse else ""

/-! ## Paths without `..` -/

/-- The characters of `/e₁/e₂/…/eₙ` (none for no elements). -/
def slashJoin (es : List String) : List Char := es.flatMap fun e => '/' :: e.data

/-- Splitting at slashes always gives at least one element. -/
theorem splitSlash_ne_nil (cs : List Char) : splitSlash cs ≠ [] := by
  cases cs with
  | nil => simp [splitSlash]
  | cons c cs =>
    simp only [splitSlash]
    split
    · simp
    · split_ifs <;> simp

/-- Equation lemma: a leading slash starts an empty element. -/
theorem splitSlash_slash (cs : List Char) : splitSlash ('/' :: cs) = [] :: splitSlash cs := by
  obtain ⟨e, es, he⟩ := List.exists_cons_of_ne_nil (splitSlash_ne_nil cs)
  simp only [splitSlash, he, if_true]

/-- A path without a slash is one element. -/
theorem splitSlash_of_not_mem {cs : List Char} (h : '/' ∉ cs) : splitSlash cs = [cs] := by
  induction cs with
  | nil => rfl
  | cons c cs ih =>
    have hc : c ≠ '/' := fun e => h (e ▸ List.mem_cons_self _ _)
    simp only [splitSlash, ih fun m => h (List.mem_cons_of_mem _ m), hc, if_false]

/-- Splitting a character onto a split path: a slash starts a new element, any other character joins
the first. -/
theorem splitSlash_cons_of_eq {c : Char} {cs e : List Char} {es : List (List Char)}
    (h : splitSlash cs = e :: es) :
    splitSlash (c :: cs) = if c = '/' then [] :: e :: es else (c :: e) :: es := by
  simp only [splitSlash, h]

/-- A slash splits a path into the elements before it and the elements after it. -/
theorem splitSlash_append_slash (a b : List Char) :
    splitSlash (a ++ '/' :: b) = splitSlash a ++ splitSlash b := by
  induction a with
  | nil =>
    rw [List.nil_append, splitSlash_slash]
    rfl
  | cons c a ih =>
    obtain ⟨e, es, he⟩ := List.exists_cons_of_ne_nil (splitSlash_ne_nil a)
    rw [List.cons_append, splitSlash_cons_of_eq (ih.trans (by rw [he]; rfl)), splitSlash_cons_of_eq he]
    split_ifs <;> rfl

/-- No element of a path holds a slash. -/
theorem not_mem_of_mem_splitSlash {cs e : List Char} (he : e ∈ splitSlash cs) : '/' ∉ e := by
  induction cs generalizing e with
  | nil => simp_all [splitSlash]
  | cons c cs ih =>
    obtain ⟨x, xs, hx⟩ := List.exists_cons_of_ne_nil (splitSlash_ne_nil cs)
    simp only [splitSlash, hx] at he
    have hxs : ∀ y ∈ x :: xs, '/' ∉ y := fun y hy => ih (hx ▸ hy)
    split_ifs at he with hc
    · rcases List.mem_cons.1 he with rfl | he
      · simp
      · exact hxs e he
    · rcases List.mem_cons.1 he with rfl | he
      · simp only [List.mem_cons, not_or]
        exact ⟨Ne.symm hc, hxs x (List.mem_cons_self _ _)⟩
      · exact hxs e (List.mem_cons_of_mem _ he)

/-- Splitting a first element followed by slash-joined elements without slashes gives them back. -/
theorem splitSlash_append_slashJoin {e : List Char} (he : '/' ∉ e) {es : List String}
    (hes : ∀ x ∈ es, '/' ∉ x.data) : splitSlash (e ++ slashJoin es) = e :: es.map String.data := by
  induction es generalizing e with
  | nil => simp [slashJoin, splitSlash_of_not_mem he]
  | cons x xs ih =>
    have hrest := ih (hes x (List.mem_cons_self _ _)) fun y hy => hes y (List.mem_cons_of_mem _ hy)
    simp only [slashJoin, List.flatMap_cons, List.cons_append] at hrest ⊢
    rw [splitSlash_append_slash, splitSlash_of_not_mem he, hrest]
    rfl

/-- Equation lemma: the characters of a string after a slash. -/
theorem slash_append_data (s : String) : ("/" ++ s).data = '/' :: s.data := rfl

/-- String.intercalate with a slash, from an accumulator, writes the accumulator then the elements each
after a slash. -/
theorem intercalate_go_data (acc : String) (es : List String) :
    (String.intercalate.go acc "/" es).data = acc.data ++ slashJoin es := by
  induction es generalizing acc with
  | nil => simp [String.intercalate.go, slashJoin]
  | cons e es ih =>
    simp only [String.intercalate.go, ih, slashJoin, List.flatMap_cons, String.data_append,
      List.append_assoc]
    rfl

/-- The characters of the rooted path with the given elements. -/
theorem slash_intercalate_data (es : List String) :
    ("/" ++ "/".intercalate es).data = if es = [] then ['/'] else slashJoin es := by
  cases es with
  | nil => rfl
  | cons e es =>
    simp only [String.intercalate, String.data_append, intercalate_go_data, reduceCtorEq, if_false,
      slashJoin, List.flatMap_cons]
    rfl

/-- The elements of the rooted path with the given elements, none of them empty or holding a
slash: the given ones, after the empty one before the first slash. -/
theorem splitSlash_slash_intercalate {es : List String} (hes : ∀ x ∈ es, '/' ∉ x.data) :
    (splitSlash ("/" ++ "/".intercalate es).data).map String.mk =
      if es = [] then ["", ""] else "" :: es := by
  rw [slash_intercalate_data]
  split_ifs with he
  · rfl
  · have := splitSlash_append_slashJoin (List.not_mem_nil '/') hes
    rw [List.nil_append] at this
    simp only [this, List.map_cons, List.map_map]
    congr 1
    exact List.map_id'' (fun _ => rfl) es

/-- `Clean`'s scan over elements without `..`: the elements that are neither empty nor `.` are
kept, in order. -/
theorem foldl_cleanStep (rooted : Bool) {es : List String} (hes : ".." ∉ es) (kept : List String) :
    es.foldl (cleanStep rooted) kept = (es.filter fun e => e ≠ "" ∧ e ≠ ".").reverse ++ kept := by
  induction es generalizing kept with
  | nil => rfl
  | cons e es ih =>
    have he : e ≠ ".." := fun h => hes (h ▸ List.mem_cons_self _ _)
    rw [List.foldl_cons, ih (fun h => hes (List.mem_cons_of_mem _ h))]
    by_cases hk : e = "" ∨ e = "."
    · have : ¬ (e ≠ "" ∧ e ≠ ".") := by tauto
      simp [cleanStep, hk, this]
    · have : e ≠ "" ∧ e ≠ "." := by tauto
      simp [cleanStep, hk, he, this]

/-- `Clean` of a rooted path whose elements include no `..`: a slash, then the elements that are
neither empty nor `.`, joined by slashes. -/
theorem clean_rooted {path : String} (hr : path.data.head? = some '/')
    (hd : ".." ∉ (splitSlash path.data).map String.mk) :
    clean path = "/" ++ "/".intercalate
      (((splitSlash path.data).map String.mk).filter fun e => e ≠ "" ∧ e ≠ ".") := by
  have hne : path ≠ "" := by
    rintro rfl
    simp at hr
  simp [clean, hne, hr, foldl_cleanStep _ hd]

/-! ## What `Clean` keeps -/

/-- What `Clean`'s scan keeps: elements that are neither empty nor `.`, and hold no slash. -/
def Kept (k : String) : Prop := k ≠ "" ∧ k ≠ "." ∧ '/' ∉ k.data

/-- The parent element .. is one Clean's scan keeps. -/
theorem kept_dotdot : Kept ".." := ⟨by decide, by decide, by decide⟩

/-- One step of Clean's scan keeps only kept elements. -/
theorem kept_cleanStep (rooted : Bool) {kept : List String} (hk : ∀ k ∈ kept, Kept k) {e : String}
    (he : '/' ∉ e.data) : ∀ k ∈ cleanStep rooted kept e, Kept k := by
  intro k hk'
  unfold cleanStep at hk'
  by_cases h₁ : e = "" ∨ e = "."
  · rw [if_pos h₁] at hk'
    exact hk k hk'
  rw [if_neg h₁] at hk'
  by_cases h₂ : e = ".."
  · rw [if_pos h₂] at hk'
    rcases kept with _ | ⟨k₀, ks⟩
    · cases rooted
      · rw [List.mem_singleton.1 hk']
        exact kept_dotdot
      · cases hk'
    · dsimp only at hk'
      split_ifs at hk'
      · rcases List.mem_cons.1 hk' with rfl | hk'
        · exact kept_dotdot
        · exact hk k hk'
      · exact hk k (List.mem_cons_of_mem _ hk')
  · rw [if_neg h₂] at hk'
    rcases List.mem_cons.1 hk' with rfl | hk'
    · exact ⟨fun h => h₁ (.inl h), fun h => h₁ (.inr h), he⟩
    · exact hk k hk'

/-- Over elements without slashes, `Clean`'s scan keeps only what `Kept` says. -/
theorem kept_foldl_cleanStep (rooted : Bool) {es : List String} (hes : ∀ e ∈ es, '/' ∉ e.data)
    {kept : List String} (hk : ∀ k ∈ kept, Kept k) : ∀ k ∈ es.foldl (cleanStep rooted) kept, Kept k := by
  induction es generalizing kept with
  | nil => exact hk
  | cons e es ih =>
    exact ih (fun x hx => hes x (List.mem_cons_of_mem _ hx))
      (kept_cleanStep rooted hk (hes e (List.mem_cons_self _ _)))

/-- The elements `Clean`'s scan keeps of a path, the last kept first. -/
def cleanKept (path : String) : List String :=
  ((splitSlash path.data).map String.mk).foldl (cleanStep (path.data.head? = some '/')) []

/-- The elements of a path that are neither empty nor `.`: what `Clean` keeps of a path without
`..`. -/
def plainElements (path : String) : List String :=
  ((splitSlash path.data).map String.mk).filter fun e => e ≠ "" ∧ e ≠ "."

/-- Clean of a non-empty path joins the elements its scan keeps: after a slash for a rooted path, as
. when none is left. -/
theorem clean_eq_cleanKept {path : String} (hp : path ≠ "") :
    clean path = if path.data.head? = some '/' then "/" ++ "/".intercalate (cleanKept path).reverse
      else if "/".intercalate (cleanKept path).reverse = "" then "."
      else "/".intercalate (cleanKept path).reverse := by
  simp only [clean, if_neg hp]
  rfl

/-- No element of a split path holds a slash. -/
theorem no_slash_of_mem_splitSlash {path e : String} (he : e ∈ (splitSlash path.data).map String.mk) :
    '/' ∉ e.data := by
  obtain ⟨x, hx, rfl⟩ := List.mem_map.1 he
  exact not_mem_of_mem_splitSlash hx

/-- Clean's scan keeps only kept elements. -/
theorem kept_cleanKept (path : String) : ∀ k ∈ cleanKept path, Kept k :=
  kept_foldl_cleanStep _ (fun _ => no_slash_of_mem_splitSlash) (List.forall_mem_nil Kept)

/-- The plain elements of a path are kept elements. -/
theorem kept_plainElements (path : String) : ∀ m ∈ plainElements path, Kept m := fun m hm => by
  obtain ⟨hm, hp⟩ := List.mem_filter.1 hm
  simp only [decide_eq_true_eq] at hp
  exact ⟨hp.1, hp.2, no_slash_of_mem_splitSlash hm⟩

/-- The characters of the relative path with the given elements. -/
theorem intercalate_data_cons (k : String) (ks : List String) :
    ("/".intercalate (k :: ks)).data = k.data ++ slashJoin ks := by
  simp only [String.intercalate, intercalate_go_data]

/-- Kept elements joined by slashes: text that is not empty and does not start with a slash. -/
theorem intercalate_kept {ks : List String} (hk : ∀ k ∈ ks, Kept k) (hks : ks ≠ []) :
    ∃ c cs, ("/".intercalate ks).data = c :: cs ∧ c ≠ '/' := by
  obtain ⟨k, ks, rfl⟩ := List.exists_cons_of_ne_nil hks
  obtain ⟨hk₀, -, hs⟩ := hk k (List.mem_cons_self _ _)
  obtain ⟨c, cs, hc⟩ := List.exists_cons_of_ne_nil fun h => hk₀ (String.ext h)
  refine ⟨c, cs ++ slashJoin ks, by rw [intercalate_data_cons, hc]; rfl, fun h => hs ?_⟩
  rw [hc, h]
  exact List.mem_cons_self _ _

/-- `Clean` gives `.`, or a path none of whose elements is `.`. -/
theorem clean_elements (path : String) :
    clean path = "." ∨ ∀ e ∈ (splitSlash (clean path).data).map String.mk, e ≠ "." := by
  by_cases h0 : path = ""
  · exact .inl (by simp [clean, h0])
  have hrev : ∀ k ∈ (cleanKept path).reverse, Kept k := fun k h =>
    kept_cleanKept path k (List.mem_reverse.1 h)
  rw [clean_eq_cleanKept h0]
  generalize (cleanKept path).reverse = ks at hrev
  split_ifs with hr hb
  · right
    rw [splitSlash_slash_intercalate fun x hx => (hrev x hx).2.2]
    split_ifs
    · simp
    · exact List.forall_mem_cons.2 ⟨by decide, fun x hx => (hrev x hx).2.1⟩
  · exact .inl rfl
  · right
    obtain ⟨k, ks, rfl⟩ : ∃ k ks', ks = k :: ks' :=
      List.exists_cons_of_ne_nil fun h => hb (by rw [h]; rfl)
    rw [intercalate_data_cons, splitSlash_append_slashJoin (hrev k (List.mem_cons_self _ _)).2.2
      fun x hx => (hrev x (List.mem_cons_of_mem _ hx)).2.2, List.map_cons, List.map_map,
      show String.mk ∘ String.data = id from rfl, List.map_id]
    exact fun x hx => (hrev x hx).2.1

/-- `Join` gives `.`, or a path none of whose elements is `.`. -/
theorem join_elements (a b : String) :
    join a b = "." ∨ ∀ e ∈ (splitSlash (join a b).data).map String.mk, e ≠ "." := by
  unfold join
  split_ifs
  · exact .inr (by decide)
  all_goals exact clean_elements _

/-- Clean never returns the empty path. -/
theorem clean_ne_empty (path : String) : clean path ≠ "" := by
  by_cases hp : path = ""
  · simp [clean, hp]
  rw [clean_eq_cleanKept hp]
  split_ifs with hr hb
  · exact fun h => by simpa using congrArg String.data h
  · decide
  · exact hb

/-! ## Extending a clean path -/

/-- `Clean`'s scan goes on past a slash with the plain elements of what follows. -/
theorem cleanKept_append {p q : String} (hp : p ≠ "") (hq : ".." ∉ (splitSlash q.data).map String.mk) :
    cleanKept (p ++ "/" ++ q) = (plainElements q).reverse ++ cleanKept p := by
  have hdata : (p ++ "/" ++ q).data = p.data ++ '/' :: q.data := by simp
  have hhead : (p ++ "/" ++ q).data.head? = p.data.head? := by
    rw [hdata]
    exact List.head?_append_of_ne_nil _ fun h => hp (String.ext h)
  unfold cleanKept
  rw [hhead, hdata, splitSlash_append_slash, List.map_append, List.foldl_append, foldl_cleanStep _ hq]
  rfl

/-- Elements joined by slashes, then more: the first ones joined, then a slash before each of the
rest. -/
theorem intercalate_append_data {ks : List String} (hks : ks ≠ []) (ms : List String) :
    ("/".intercalate (ks ++ ms)).data = ("/".intercalate ks).data ++ slashJoin ms := by
  obtain ⟨k, ks, rfl⟩ := List.exists_cons_of_ne_nil hks
  simp only [List.cons_append, intercalate_data_cons, slashJoin, List.flatMap_append, List.append_assoc]

/-- Elements appended after a slash are elements of the path. -/
theorem splitSlash_append_slashJoin' (a : List Char) {ms : List String}
    (hms : ∀ m ∈ ms, '/' ∉ m.data) : splitSlash (a ++ slashJoin ms) = splitSlash a ++ ms.map String.data := by
  cases ms with
  | nil => simp [slashJoin]
  | cons m ms =>
    have hrest := splitSlash_append_slashJoin (hms m (List.mem_cons_self _ _))
      fun x hx => hms x (List.mem_cons_of_mem _ hx)
    simp only [slashJoin, List.flatMap_cons] at hrest ⊢
    rw [List.cons_append, splitSlash_append_slash, hrest, List.map_cons]

/-- `Clean` of a path extended by elements without `..`: the clean path followed by the elements of
the extension that are neither empty nor `.` (the root `/` then gives only its slash once). -/
theorem clean_append {p q : String} (hp : p ≠ "") (hc : clean p ≠ ".")
    (hq : ".." ∉ (splitSlash q.data).map String.mk) :
    (clean (p ++ "/" ++ q)).data =
      if plainElements q = [] then (clean p).data
      else (if clean p = "/" then [] else (clean p).data) ++ slashJoin (plainElements q) := by
  have hdata : (p ++ "/" ++ q).data = p.data ++ '/' :: q.data := by simp
  have hne : p ++ "/" ++ q ≠ "" := fun h => by simpa [hdata] using congrArg String.data h
  have hhead : (p ++ "/" ++ q).data.head? = p.data.head? := by
    rw [hdata]
    exact List.head?_append_of_ne_nil _ fun h => hp (String.ext h)
  have hk : ∀ k ∈ (cleanKept p).reverse, Kept k := fun k h => kept_cleanKept p k (List.mem_reverse.1 h)
  rw [clean_eq_cleanKept hp] at hc ⊢
  rw [clean_eq_cleanKept hne, cleanKept_append hp hq, hhead, List.reverse_append, List.reverse_reverse]
  generalize (cleanKept p).reverse = ks at hc hk
  generalize plainElements q = ms
  by_cases hr : p.data.head? = some '/'
  · -- rooted: a slash, then the elements kept
    simp only [if_pos hr]
    rcases eq_or_ne ks [] with rfl | hks
    · rw [List.nil_append, slash_intercalate_data,
        show "/" ++ "/".intercalate ([] : List String) = "/" from rfl, if_pos rfl]
      split_ifs <;> rfl
    · obtain ⟨c, cs, hcs, -⟩ := intercalate_kept hk hks
      have hne' : "/" ++ "/".intercalate ks ≠ "/" := fun h => by
        simpa [hcs] using congrArg String.data h
      rw [if_neg hne', String.data_append, String.data_append, intercalate_append_data hks]
      split_ifs with hm
      · simp [hm, slashJoin]
      · rfl
  · -- relative: the elements kept, not none since the path is not `.`
    simp only [if_neg hr] at hc ⊢
    have hks : ks ≠ [] := fun h => by subst h; exact hc (if_pos rfl)
    obtain ⟨c, cs, hcs, hc'⟩ := intercalate_kept hk hks
    have hI : "/".intercalate ks ≠ "" := fun h => by simpa [hcs] using congrArg String.data h
    have hI' : "/".intercalate ks ≠ "/" := fun h => by
      have : c = '/' ∧ cs = [] := by simpa [hcs] using congrArg String.data h
      exact hc' this.1
    have hIm : "/".intercalate (ks ++ ms) ≠ "" := fun h => by
      simpa [intercalate_append_data hks, hcs] using congrArg String.data h
    rw [if_neg hI, if_neg hIm, if_neg hI', intercalate_append_data hks]
    split_ifs with hm
    · simp [hm, slashJoin]
    · rfl

/-- Join of two non-empty paths is Clean of the two with a slash between. -/
theorem join_eq_clean {a b : String} (ha : a ≠ "") (hb : b ≠ "") : join a b = clean (a ++ "/" ++ b) := by
  simp [join, ha, hb]

/-- The clean path is the start of the clean extended path. -/
theorem clean_prefix_append {p q : String} (hp : p ≠ "") (hc : clean p ≠ ".")
    (hq : ".." ∉ (splitSlash q.data).map String.mk) :
    (clean p).data <+: (clean (p ++ "/" ++ q)).data := by
  rw [clean_append hp hc hq]
  split_ifs with hm hr
  · exact List.prefix_refl _
  · obtain ⟨m, ms, hms⟩ := List.exists_cons_of_ne_nil hm
    rw [hr, hms]
    exact ⟨_, rfl⟩
  · exact List.prefix_append _ _

/-- The extended path is rooted exactly when the path is. -/
theorem isAbs_clean_append {p q : String} (hp : p ≠ "") (hc : clean p ≠ ".")
    (hq : ".." ∉ (splitSlash q.data).map String.mk) :
    isAbs (clean (p ++ "/" ++ q)) = isAbs (clean p) := by
  obtain ⟨t, ht⟩ := clean_prefix_append hp hc hq
  have hne : (clean p).data ≠ [] := fun h => clean_ne_empty p (String.ext h)
  simp only [isAbs, ← ht, List.head?_append_of_ne_nil _ hne]

end FilePath

end VolumeManager
