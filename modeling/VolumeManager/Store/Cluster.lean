import VolumeManager.Driver.Client
import Mathlib.Data.List.Basic

/-!
# The cluster a replica starts (`NewEtcdStore`)

With `ClusterSize > 1`, `NewEtcdStore` names the local member `<ServiceName>-<TaskSlot>`,
advertises the peer URL `http://<ServiceName>.<TaskSlot>:<PeerPort>` and seeds etcd with one
`<ServiceName>-<i>=http://<ServiceName>.<i>:<PeerPort>` entry per slot `i` from `1` to `ClusterSize`,
joined by commas (`initialClusterFromSlice`). Go's `%d` is `formatInt`; the advertised URL is a
`url.URL`, which etcd compares as the text `URL.String()` gives, its host escaped (`escapeHost`).

* `readCluster`: the cluster string split at `,` and each piece cut at its first `=`.
* `initial_cluster_members`: for every cluster size `n ≥ 2`, every slot and every service name
  without `,` and `=`, the string reads back as the `n` entries in order, with distinct names; when
  the host escaping keeps every character of the service name (`hostKept`), the local member with
  its advertised URL is among them exactly when its slot is between `1` and `n`.
* `spaced_service_unlisted`: with a space in the service name the advertised URL is escaped and no
  entry matches it.
-/

namespace VolumeManager

namespace EtcdStore

/-! ## Go's `%d` -/

/-- The character of a decimal digit. -/
def digitChar (d : Nat) : Char := Char.ofNat ('0'.toNat + d)

/-- The decimal digits of `n`, most significant first, `fuel` bounding their number. -/
def decimalDigits : Nat → Nat → List Char
  | 0, _ => []
  | fuel + 1, n => (if n < 10 then [] else decimalDigits fuel (n / 10)) ++ [digitChar (n % 10)]

/-- `strconv.FormatUint(n, 10)`: `n + 1` digits always suffice. -/
def decimal (n : Nat) : List Char := decimalDigits (n + 1) n

/-- `fmt.Sprintf("%d", i)` for a Go `int`. -/
def formatInt (i : Int) : String :=
  if i < 0 then String.mk ('-' :: decimal i.natAbs) else String.mk (decimal i.toNat)

/-- The number a string of decimal digits stands for. -/
def digitsValue (cs : List Char) : Nat := cs.foldl (fun acc c => 10 * acc + (c.toNat - '0'.toNat)) 0

/-- Each digit character reads back as its value. -/
theorem digitChar_toNat : ∀ d, d < 10 → (digitChar d).toNat - '0'.toNat = d := by decide

/-- Appending a digit multiplies the value by ten and adds the digit. -/
theorem digitsValue_append_digit (cs : List Char) {d : Nat} (hd : d < 10) :
    digitsValue (cs ++ [digitChar d]) = 10 * digitsValue cs + d := by
  simp only [digitsValue, List.foldl_append, List.foldl_cons, List.foldl_nil, digitChar_toNat d hd]

/-- A number's digits, with fuel for each, read back as the number. -/
theorem digitsValue_decimalDigits : ∀ (fuel n : Nat), n < 10 ^ fuel →
    digitsValue (decimalDigits fuel n) = n
  | 0, n, h => by simp at h; simp [h, decimalDigits, digitsValue]
  | fuel + 1, n, h => by
    have hd : n % 10 < 10 := Nat.mod_lt _ (by decide)
    rw [decimalDigits, digitsValue_append_digit _ hd]
    split_ifs with hn
    · simp [digitsValue, Nat.mod_eq_of_lt hn]
    · rw [digitsValue_decimalDigits fuel (n / 10) (by rw [pow_succ] at h; omega)]
      omega

/-- A number written in decimal reads back. -/
theorem digitsValue_decimal (n : Nat) : digitsValue (decimal n) = n :=
  digitsValue_decimalDigits _ n (by have := Nat.lt_pow_self (by decide : 1 < 10) (n + 1); omega)

/-- Every character of a number's digits is a digit character. -/
theorem mem_decimalDigits {c : Char} : ∀ {fuel n : Nat}, c ∈ decimalDigits fuel n →
    ∃ d, d < 10 ∧ c = digitChar d
  | 0, _, h => by simp [decimalDigits] at h
  | fuel + 1, n, h => by
    rw [decimalDigits, List.mem_append] at h
    rcases h with h | h
    · split_ifs at h
      · simp at h
      · exact mem_decimalDigits h
    · exact ⟨n % 10, Nat.mod_lt _ (by decide), List.mem_singleton.1 h⟩

/-- A number written in decimal has no minus sign. -/
theorem minus_not_mem_decimal (n : Nat) : '-' ∉ decimal n := fun h => by
  obtain ⟨d, hd, he⟩ := mem_decimalDigits h
  have : ∀ d, d < 10 → '-' ≠ digitChar d := by decide
  exact this d hd he

/-- Reading `%d` back. -/
def parseInt (cs : List Char) : Int :=
  if cs.head? = some '-' then -(digitsValue cs.tail : Int) else digitsValue cs

/-- Reading a formatted integer gives it back. -/
theorem parseInt_formatInt (i : Int) : parseInt (formatInt i).data = i := by
  unfold formatInt parseInt
  by_cases hi : i < 0
  · simp only [hi, if_true, List.head?_cons, List.tail_cons, digitsValue_decimal]
    omega
  · have hhead : (decimal i.toNat).head? ≠ some '-' := fun h =>
      minus_not_mem_decimal _ (List.mem_of_mem_head? h)
    simp only [hi, if_false, hhead, digitsValue_decimal]
    omega

/-- Different integers are formatted differently. -/
theorem formatInt_injective : Function.Injective formatInt := fun i j h => by
  rw [← parseInt_formatInt i, ← parseInt_formatInt j, h]

/-! ## URLs -/

/-- The characters `shouldEscape(c, encodeHost)` keeps besides letters and digits, other than `,`
and `=`: `-_.~`, the host's other sub-delimiters, `:`, brackets, `<`, `>` and `"`. -/
def hostMarks : List Char :=
  ['-', '_', '.', '~', '!', '$', '&', Char.ofNat 39, '(', ')', '*', '+', ';', ':', '[', ']', '<', '>',
    Char.ofNat 34]

/-- `shouldEscape(c, encodeHost)`: letters, digits, the marks above, `,` and `=` stay. -/
def shouldEscapeHost (b : UInt8) : Bool :=
  let c := Char.ofNat b.toNat
  !(c.isAlphanum || (hostMarks ++ [',', '=']).contains c)

/-- `escape(s, encodeHost)` on one character: each of its UTF-8 bytes as it is or as `%XX`. -/
def escapeHostChar (c : Char) : List Char :=
  (String.utf8EncodeChar c).flatMap fun b =>
    if shouldEscapeHost b then ['%', Url.hexUpper (b.toNat / 16), Url.hexUpper (b.toNat % 16)]
    else [Char.ofNat b.toNat]

/-- `escape(s, encodeHost)`. -/
def escapeHost (s : String) : String := String.mk (s.data.flatMap escapeHostChar)

/-- A `url.URL` with a scheme and a host, the only parts `NewEtcdStore` sets. -/
structure HostURL where
  scheme : String
  host : String
  deriving DecidableEq

/-- `URL.String()` of such a URL: the scheme, then `//` and the escaped host when there is one. -/
def HostURL.render (u : HostURL) : String :=
  u.scheme ++ ":" ++ (if u.host = "" then "" else "//" ++ escapeHost u.host)

/-! ## The configuration -/

/-- `store.EtcdConfig`: the fields `NewEtcdStore` reads (it does not read `Name`). -/
structure EtcdConfig where
  dataDir : String
  clusterSize : Int
  serviceName : String
  taskSlot : Int
  clientPort : Int
  peerPort : Int

/-- What `NewEtcdStore` sets on `embed.NewConfig()` before it starts etcd. -/
structure EmbedConfig where
  dir : String
  name : String
  listenClientUrls : List HostURL
  listenPeerUrls : List HostURL
  advertiseClientUrls : List HostURL
  advertisePeerUrls : List HostURL
  initialCluster : String

/-- `fmt.Sprintf("%s-%d", ServiceName, i)`: a member's name. -/
def memberName (service : String) (i : Int) : String := service ++ "-" ++ formatInt i

/-- `fmt.Sprintf("http://%s.%d:%d", ServiceName, i, PeerPort)`: a member's peer URL. -/
def peerURL (service : String) (i port : Int) : String :=
  "http://" ++ service ++ "." ++ formatInt i ++ ":" ++ formatInt port

/-- The loop of `NewEtcdStore`: `initialCluster[i-1]` is `<name>=<peer URL>` for `i` from `1` to
`ClusterSize`. -/
def clusterEntries (cfg : EtcdConfig) : List String :=
  (List.range cfg.clusterSize.toNat).map fun k : Nat =>
    memberName cfg.serviceName (k + 1) ++ "=" ++ peerURL cfg.serviceName (k + 1) cfg.peerPort

/-- `initialClusterFromSlice`: each member, with a comma before every one but the first. -/
def initialClusterFromSlice (members : List String) : String :=
  members.enum.foldl (fun result m => (if m.1 > 0 then result ++ "," else result) ++ m.2) ""

/-- `NewEtcdStore` up to `embed.StartEtcd`: the configuration it starts etcd with. -/
def newEtcdConfig (cfg : EtcdConfig) : EmbedConfig :=
  let name := memberName cfg.serviceName cfg.taskSlot
  let listenClient : List HostURL := [⟨"http", "0.0.0.0:" ++ formatInt cfg.clientPort⟩]
  let listenPeer : List HostURL := [⟨"http", "0.0.0.0:" ++ formatInt cfg.peerPort⟩]
  if cfg.clusterSize > 1 then
    let hostname := cfg.serviceName ++ "." ++ formatInt cfg.taskSlot
    ⟨FilePath.join cfg.dataDir "etcd", name, listenClient, listenPeer,
      [⟨"http", hostname ++ ":" ++ formatInt cfg.clientPort⟩],
      [⟨"http", hostname ++ ":" ++ formatInt cfg.peerPort⟩],
      initialClusterFromSlice (clusterEntries cfg)⟩
  else
    ⟨FilePath.join cfg.dataDir "etcd", name, listenClient, listenPeer,
      [⟨"http", "localhost:" ++ formatInt cfg.clientPort⟩],
      [⟨"http", "localhost:" ++ formatInt cfg.peerPort⟩],
      name ++ "=http://localhost:" ++ formatInt cfg.peerPort⟩

/-- The entries of an initial-cluster string: split at `,`, each piece cut at its first `=` into a
name and a URL. -/
def readCluster (s : String) : List (String × String) :=
  (s.data.splitOn ',').map fun piece =>
    (String.mk (piece.takeWhile (· ≠ '=')), String.mk ((piece.dropWhile (· ≠ '=')).drop 1))

/-! ## Reading the string back -/

/-- Joining the rest of a list with commas, as the loop of initialClusterFromSlice does, writes a
comma before each element. -/
theorem foldl_enumFrom_data (l : List String) (k : Nat) (acc : String) :
    ((l.enumFrom (k + 1)).foldl
        (fun result m => (if m.1 > 0 then result ++ "," else result) ++ m.2) acc).data =
      acc.data ++ (l.map fun x => ',' :: x.data).flatten := by
  induction l generalizing k acc with
  | nil => simp
  | cons x l ih =>
    simp only [List.enumFrom_cons, List.foldl_cons, if_pos (Nat.succ_pos k), ih, String.data_append,
      List.map_cons, List.flatten_cons, List.append_assoc]
    rfl

/-- The initial cluster of a list is its first element, then each other one after a comma. -/
theorem initialClusterFromSlice_cons (e : String) (es : List String) :
    (initialClusterFromSlice (e :: es)).data = e.data ++ (es.map fun x => ',' :: x.data).flatten := by
  simp only [initialClusterFromSlice, List.enum, List.enumFrom_cons, List.foldl_cons, gt_iff_lt,
    lt_irrefl, if_false]
  rw [foldl_enumFrom_data es 0]
  simp

/-- A list without a comma has no character equal to a comma. -/
theorem not_comma_of_not_mem {e : List Char} (he : ',' ∉ e) : ∀ c ∈ e, ¬(c == ',') = true :=
  fun _ hc h => he (beq_iff_eq.1 h ▸ hc)

/-- Splitting comma-joined elements without commas at the commas gives them back. -/
theorem splitOn_join_commas (e : List Char) (es : List String) (he : ',' ∉ e)
    (hes : ∀ x ∈ es, ',' ∉ x.data) :
    (e ++ (es.map fun x => ',' :: x.data).flatten).splitOn ',' = e :: es.map String.data := by
  induction es generalizing e with
  | nil =>
    simpa [List.splitOn] using List.splitOnP_eq_single _ _ (not_comma_of_not_mem he)
  | cons x es ih =>
    simp only [List.map_cons, List.flatten_cons, List.cons_append, List.splitOn]
    rw [List.splitOnP_first _ _ (not_comma_of_not_mem he) ',' (beq_self_eq_true _)]
    exact congrArg _ (ih x.data (hes x (List.mem_cons_self _ _)) fun y hy =>
      hes y (List.mem_cons_of_mem _ hy))

/-- A name without = followed by = and a value is cut at that = into the two. -/
theorem cut_first_eq (a b : List Char) (ha : '=' ∉ a) :
    (a ++ '=' :: b).takeWhile (· ≠ '=') = a ∧ ((a ++ '=' :: b).dropWhile (· ≠ '=')).drop 1 = b := by
  induction a with
  | nil => simp
  | cons c a ih =>
    have hc : decide (c ≠ '=') = true := decide_eq_true fun h => ha (h ▸ List.mem_cons_self _ _)
    obtain ⟨h₁, h₂⟩ := ih fun h => ha (List.mem_cons_of_mem _ h)
    rw [List.cons_append, List.takeWhile_cons, List.dropWhile_cons, if_pos hc, if_pos hc]
    exact ⟨congrArg _ h₁, h₂⟩

/-- One entry `<name>=<url>`, no `=` in the name, is cut back into its two halves. -/
theorem readEntry_eq (p : String × String) (h : '=' ∉ p.1.data) :
    (String.mk ((p.1 ++ "=" ++ p.2).data.takeWhile (· ≠ '=')),
      String.mk (((p.1 ++ "=" ++ p.2).data.dropWhile (· ≠ '=')).drop 1)) = p := by
  obtain ⟨h₁, h₂⟩ := cut_first_eq p.1.data p.2.data h
  rw [show (p.1 ++ "=" ++ p.2).data = p.1.data ++ '=' :: p.2.data by simp [String.data_append], h₁, h₂]

/-- A non-empty list of entries `<name>=<url>`, no comma anywhere and no `=` in a name, reads back
as itself. -/
theorem readCluster_entries (l : List (String × String)) (hl : l ≠ [])
    (h : ∀ p ∈ l, ',' ∉ p.1.data ∧ '=' ∉ p.1.data ∧ ',' ∉ p.2.data) :
    readCluster (initialClusterFromSlice (l.map fun p => p.1 ++ "=" ++ p.2)) = l := by
  obtain ⟨p, ps, rfl⟩ := List.exists_cons_of_ne_nil hl
  have hcomma : ∀ q ∈ p :: ps, ',' ∉ (q.1 ++ "=" ++ q.2).data := by
    intro q hq
    obtain ⟨h₁, -, h₃⟩ := h q hq
    simp [String.data_append, h₁, h₃]
  rw [readCluster, List.map_cons, initialClusterFromSlice_cons,
    splitOn_join_commas _ _ (hcomma p (.head _)) fun x hx => by
      obtain ⟨q, hq, rfl⟩ := List.mem_map.1 hx
      exact hcomma q (.tail _ hq),
    List.map_cons, List.map_map, List.map_map]
  exact congrArg₂ List.cons (readEntry_eq p (h p (.head _)).2.1)
    ((List.map_congr_left fun q hq => readEntry_eq q (h q (.tail _ hq)).2.1).trans ps.map_id')

/-! ## Hosts the escaping keeps -/

/-- The characters a service name can have for its host to be written as it is: letters, digits
and `hostMarks`. -/
def hostKept (c : Char) : Bool := c.isAlphanum || hostMarks.contains c

/-- A letter or digit is ASCII. -/
theorem toNat_lt_of_isAlphanum {c : Char} (h : c.isAlphanum = true) : c.toNat < 128 := by
  simp only [Char.isAlphanum, Char.isAlpha, Char.isUpper, Char.isLower, Char.isDigit, Bool.or_eq_true,
    Bool.and_eq_true, decide_eq_true_eq] at h
  have hle : ∀ m, m < 128 → c.val ≤ UInt32.ofNat m → c.toNat < 128 := fun m hm hc =>
    lt_of_le_of_lt (UInt32.toNat_le_of_le (lt_trans hm (by decide)) hc) hm
  rcases h with ((⟨-, h⟩ | ⟨-, h⟩) | ⟨-, h⟩)
  · exact hle 90 (by decide) h
  · exact hle 122 (by decide) h
  · exact hle 57 (by decide) h

/-- A character the host keeps is ASCII. -/
theorem toNat_lt_of_hostKept {c : Char} (h : hostKept c = true) : c.toNat < 128 := by
  rcases Bool.or_eq_true _ _ ▸ h with h | h
  · exact toNat_lt_of_isAlphanum h
  · exact (by decide : ∀ c ∈ hostMarks, c.toNat < 128) c (List.elem_iff.1 h)

set_option maxRecDepth 10000 in
/-- An ASCII character the host keeps is escaped as itself. -/
theorem escapeHostChar_ascii : ∀ n < 128, hostKept (Char.ofNat n) = true →
    escapeHostChar (Char.ofNat n) = [Char.ofNat n] := by
  decide

/-- A character the host keeps is escaped as itself. -/
theorem escapeHostChar_of_hostKept {c : Char} (h : hostKept c = true) : escapeHostChar c = [c] := by
  have hlt := toNat_lt_of_hostKept h
  rw [← Char.ofNat_toNat c] at h ⊢
  exact escapeHostChar_ascii _ hlt h

/-- A host of kept characters is escaped as itself. -/
theorem escapeHost_of_hostKept {s : String} (h : ∀ c ∈ s.data, hostKept c = true) :
    escapeHost s = s := by
  suffices ∀ cs : List Char, (∀ c ∈ cs, hostKept c = true) → cs.flatMap escapeHostChar = cs from
    congrArg String.mk (this s.data h)
  intro cs hcs
  induction cs with
  | nil => rfl
  | cons c cs ih =>
    rw [List.flatMap_cons, escapeHostChar_of_hostKept (hcs c (.head _)), ih fun x hx => hcs x (.tail _ hx)]
    rfl

/-- A formatted integer is all kept characters. -/
theorem hostKept_formatInt (i : Int) : ∀ c ∈ (formatInt i).data, hostKept c = true := by
  have hdigits : ∀ n, ∀ c ∈ decimal n, hostKept c = true := fun n c hc => by
    obtain ⟨d, hd, rfl⟩ := mem_decimalDigits hc
    exact (by decide : ∀ d < 10, hostKept (digitChar d) = true) d hd
  unfold formatInt
  split_ifs
  · rintro c (_ | ⟨_, hc⟩)
    exacts [by decide, hdigits _ c hc]
  · exact hdigits _

/-- The separators `,` and `=` appear in a member's name or peer URL only through the service name. -/
theorem sep_not_mem_member {x : Char} (hx : x = ',' ∨ x = '=') {m : String} (hm : x ∉ m.data)
    (i port : Int) : x ∉ (memberName m i).data ∧ x ∉ (peerURL m i port).data := by
  have hint : ∀ j, x ∉ (formatInt j).data := fun j h => by
    have := hostKept_formatInt j x h
    rcases hx with rfl | rfl <;> exact absurd this (by decide)
  simp [memberName, peerURL, String.data_append, hm, hint]
  rcases hx with rfl | rfl <;> decide

/-- With a service name the escaping keeps, the advertised peer URL is written as the template
writes the member's peer URL. -/
theorem render_advertised {m : String} (hm : ∀ c ∈ m.data, hostKept c = true) (i port : Int) :
    HostURL.render ⟨"http", m ++ "." ++ formatInt i ++ ":" ++ formatInt port⟩ = peerURL m i port := by
  have hkept : ∀ c ∈ (m ++ "." ++ formatInt i ++ ":" ++ formatInt port).data, hostKept c = true := by
    intro c hc
    simp only [String.data_append, List.mem_append] at hc
    rcases hc with (((h | h) | h) | h) | h
    exacts [hm c h, (by decide : ∀ c ∈ ".".data, hostKept c = true) c h, hostKept_formatInt i c h,
      (by decide : ∀ c ∈ ":".data, hostKept c = true) c h, hostKept_formatInt port c h]
  have hne : m ++ "." ++ formatInt i ++ ":" ++ formatInt port ≠ "" := fun h => by
    simpa [String.data_append] using congrArg String.data h
  rw [HostURL.render, if_neg hne, escapeHost_of_hostKept hkept, peerURL]
  simp only [← String.append_assoc]
  rw [show "http" ++ ":" ++ "//" = "http://" by decide]

/-! ## The members -/

/-- Members of one service with different slots have different names. -/
theorem memberName_injective (m : String) : Function.Injective (memberName m) := fun i j h => by
  apply formatInt_injective
  have := congrArg String.data h
  simp only [memberName, String.data_append, List.append_assoc] at this
  exact String.ext (List.append_cancel_left (List.append_cancel_left this))

/-- The pair of slot `s` is among the entries of slots `1` to `n` exactly when `1 ≤ s ≤ n`. -/
theorem mem_members_iff (m : String) (n : Nat) (s port : Int) :
    (memberName m s, peerURL m s port) ∈ (List.range n).map
        (fun k : Nat => (memberName m (k + 1), peerURL m (k + 1) port)) ↔ 1 ≤ s ∧ s ≤ n := by
  simp only [List.mem_map, List.mem_range, Prod.mk.injEq]
  constructor
  · rintro ⟨k, hk, h, -⟩
    have := memberName_injective m h
    omega
  · rintro ⟨h₁, h₂⟩
    have hk : ((s - 1).toNat : Int) + 1 = s := by omega
    exact ⟨(s - 1).toNat, by omega, by rw [hk], by rw [hk]⟩

/-- For a service name without a comma or =, and a cluster of at least two: the initial cluster lists
one member per slot, each with its name and peer URL, with no name twice, this member's name is the
one for its slot, and when the service's host is written as it is, this member's advertised peer
URL is listed under its name exactly when its slot is from 1 to the cluster size. -/
theorem initial_cluster_members (cfg : EtcdConfig) (hsize : 2 ≤ cfg.clusterSize)
    (hsep : ',' ∉ cfg.serviceName.data ∧ '=' ∉ cfg.serviceName.data) :
    readCluster (newEtcdConfig cfg).initialCluster =
        (List.range cfg.clusterSize.toNat).map (fun k : Nat => (memberName cfg.serviceName (k + 1),
          peerURL cfg.serviceName (k + 1) cfg.peerPort)) ∧
      ((readCluster (newEtcdConfig cfg).initialCluster).map Prod.fst).Nodup ∧
      (newEtcdConfig cfg).name = memberName cfg.serviceName cfg.taskSlot ∧
      ((∀ c ∈ cfg.serviceName.data, hostKept c = true) →
        ∀ u ∈ (newEtcdConfig cfg).advertisePeerUrls,
          ((newEtcdConfig cfg).name, u.render) ∈ readCluster (newEtcdConfig cfg).initialCluster ↔
            1 ≤ cfg.taskSlot ∧ cfg.taskSlot ≤ cfg.clusterSize) := by
  have hread : readCluster (newEtcdConfig cfg).initialCluster =
      (List.range cfg.clusterSize.toNat).map (fun k : Nat => (memberName cfg.serviceName (k + 1),
        peerURL cfg.serviceName (k + 1) cfg.peerPort)) := by
    have h := readCluster_entries ((List.range cfg.clusterSize.toNat).map fun k : Nat =>
      (memberName cfg.serviceName (k + 1), peerURL cfg.serviceName (k + 1) cfg.peerPort))
      (by simp; omega) fun p hp => by
        obtain ⟨k, -, rfl⟩ := List.mem_map.1 hp
        have h₁ := sep_not_mem_member (.inl rfl) hsep.1 (k + 1) cfg.peerPort
        exact ⟨h₁.1, (sep_not_mem_member (.inr rfl) hsep.2 (k + 1) cfg.peerPort).1, h₁.2⟩
    rw [List.map_map] at h
    simpa only [newEtcdConfig, if_pos (show cfg.clusterSize > 1 by omega)] using h
  refine ⟨hread, ?_, ?_, fun hkept u hu => ?_⟩
  · rw [hread, List.map_map]
    exact (List.nodup_range _).map fun k j h => by
      have := memberName_injective _ h
      omega
  · simp only [newEtcdConfig, if_pos (show cfg.clusterSize > 1 by omega)]
  · simp only [newEtcdConfig, if_pos (show cfg.clusterSize > 1 by omega), List.mem_singleton] at hu
    simp only [newEtcdConfig, if_pos (show cfg.clusterSize > 1 by omega)] at hread ⊢
    rw [hu, render_advertised hkept, hread, mem_members_iff]
    omega

/-- Three replicas of `vm`, this one in slot `2`. -/
def threeReplicas : EtcdConfig := ⟨"/data", 3, "vm", 2, 2379, 2380⟩

/-- The three replicas of vm: the initial cluster lists the three members, and this one is among them. -/
theorem initial_cluster_members_vm :
    2 ≤ threeReplicas.clusterSize ∧
      (',' ∉ threeReplicas.serviceName.data ∧ '=' ∉ threeReplicas.serviceName.data) ∧
      (readCluster (newEtcdConfig threeReplicas).initialCluster =
          (List.range threeReplicas.clusterSize.toNat).map (fun k : Nat =>
            (memberName threeReplicas.serviceName (k + 1),
              peerURL threeReplicas.serviceName (k + 1) threeReplicas.peerPort)) ∧
        ((readCluster (newEtcdConfig threeReplicas).initialCluster).map Prod.fst).Nodup ∧
        (newEtcdConfig threeReplicas).name = memberName threeReplicas.serviceName threeReplicas.taskSlot ∧
        ((∀ c ∈ threeReplicas.serviceName.data, hostKept c = true) →
          ∀ u ∈ (newEtcdConfig threeReplicas).advertisePeerUrls,
            ((newEtcdConfig threeReplicas).name, u.render) ∈
                readCluster (newEtcdConfig threeReplicas).initialCluster ↔
              1 ≤ threeReplicas.taskSlot ∧ threeReplicas.taskSlot ≤ threeReplicas.clusterSize)) :=
  ⟨by decide, by decide, initial_cluster_members threeReplicas (by decide) (by decide)⟩

/-- Two replicas of a service whose name has a space, this one in slot `1`. -/
def spacedService : EtcdConfig := ⟨"/data", 2, "a b", 1, 2379, 2380⟩

/-- A service whose name has a space: the advertised peer URL escapes the space, so this member is not
listed under it in the initial cluster. -/
theorem spaced_service_unlisted :
    ',' ∉ spacedService.serviceName.data ∧ '=' ∉ spacedService.serviceName.data ∧
      1 ≤ spacedService.taskSlot ∧ spacedService.taskSlot ≤ spacedService.clusterSize ∧
      (newEtcdConfig spacedService).advertisePeerUrls.map HostURL.render = ["http://a%20b.1:2380"] ∧
      ∀ u ∈ (newEtcdConfig spacedService).advertisePeerUrls,
        ((newEtcdConfig spacedService).name, u.render) ∉
          readCluster (newEtcdConfig spacedService).initialCluster := by
  decide

end EtcdStore

end VolumeManager
