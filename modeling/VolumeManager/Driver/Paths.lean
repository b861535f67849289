import VolumeManager.Driver.Client
import VolumeManager.Api.Routing

/-!
# The client's volume paths, through URL parsing and the router

The bridge addresses a volume as `/api/v1/volumes/<id>`, `…/<id>/stage` or `…/<id>/publish`, with
the ID pasted in unescaped. For an ID that is not empty and has no `?`, `#`, `%`, `/` and no ASCII
control character (`Url.IsRoutableID`; every ID `uuid.New().String()` produces is one), nothing in
between changes the path:

* `requestPath_of_routable`: URL parsing and the server's path selection give back a path without
  those characters unchanged. Either re-escaping its bytes gives the path back, and then each
  character is one byte that decodes to itself (`routePath_of_passes`), or it does not, as soon as
  one character is escaped (`escapes_of_not_passes`), and echo routes on the raw path.
* `dispatch_get_volume`, `dispatch_delete_volume`, `dispatch_post_stage`, `dispatch_post_publish`:
  where echo's router sends the methods the client uses on the three volume paths.
* `dispatch_delete_node`: `/<id>/stage` and `/<id>/publish` are routed for `POST` only, so a
  `DELETE` there is `405`.
* `send_volume`: the client's request for such a path is the control plane's `serve` of it.
* `volume_requests_routed`: so the requests `GetVolume`, `DeleteVolume`, `StageVolume` and
  `PublishVolume` build for such an ID reach their handlers with that ID.
* `send_get_query_cut`: an ID the client does not escape is cut: the `GET` for `x?y` reaches
  `HandleGet` for `x`. `query_in_id_misrouted` is the case of the memory-store manager, beside an
  ID with a tab, which `url.Parse` refuses.
-/

namespace VolumeManager

namespace Url

/-- RFC 3986's unreserved characters: letters, digits, `-`, `.`, `_`, `~`. -/
def unreservedChars : List Char :=
  "ABCDEFGHIJKLMNOPQRSTUVWXYZabcdefghijklmnopqrstuvwxyz0123456789-._~".data

/-- A volume ID the bridge can paste into a path as it is: non-empty, unreserved characters only.
-/
def IsPlainID (v : String) : Prop := v ≠ "" ∧ ∀ c ∈ v.data, c ∈ unreservedChars

/-- Plain IDs are decidable, so examples can be checked by evaluation. -/
instance : DecidablePred IsPlainID := fun _ => inferInstanceAs (Decidable (_ ∧ _))

/-- What URL parsing needs of a path's character to route the path as it is: it ends neither the
path nor the query, it starts no escape, and `url.Parse` accepts it. -/
def Routable (c : Char) : Prop := c ≠ '#' ∧ c ≠ '?' ∧ c ≠ '%' ∧ isCTL c = false

/-- Routable characters are decidable. -/
instance : DecidablePred Routable := fun _ => inferInstanceAs (Decidable (_ ∧ _))

/-- A volume ID the client's paths carry to the router as it is: not empty, and each character
routable and not `/`. -/
def IsRoutableID (v : String) : Prop := v ≠ "" ∧ ∀ c ∈ v.data, Routable c ∧ c ≠ '/'

/-- Routable IDs are decidable. -/
instance : DecidablePred IsRoutableID := fun _ => inferInstanceAs (Decidable (_ ∧ _))

/-- A plain ID is routable. -/
theorem IsPlainID.routable {v : String} (h : IsPlainID v) : IsRoutableID v := by
  have all : ∀ c ∈ unreservedChars, Routable c ∧ c ≠ '/' := by decide
  exact ⟨h.1, fun c hc => all c (h.2 c hc)⟩

/-- What URL parsing needs of a character to leave it as it is, byte for byte: it ends neither the
path nor the query, it starts no escape, it is one ASCII byte, and re-escaping keeps it. -/
structure Passes (c : Char) : Prop where
  not_hash : c ≠ '#'
  not_query : c ≠ '?'
  not_percent : c ≠ '%'
  not_ctl : isCTL c = false
  encode : String.utf8EncodeChar c = [c.val.toUInt8]
  ascii : c.val.toUInt8.toNat < 0x80
  kept : shouldEscapePath c.val.toUInt8 = false
  decode : Char.ofNat c.val.toUInt8.toNat = c

/-- An ASCII character that re-escaping keeps passes. -/
theorem passes_of_ascii {c : Char} (ha : c.toNat < 0x80) (hk : shouldEscapePath c.val.toUInt8 = false) :
    Passes c := by
  have all : ∀ n < 0x80, shouldEscapePath (Char.ofNat n).val.toUInt8 = false →
      Char.ofNat n ≠ '#' ∧ Char.ofNat n ≠ '?' ∧ Char.ofNat n ≠ '%' ∧ isCTL (Char.ofNat n) = false ∧
      String.utf8EncodeChar (Char.ofNat n) = [(Char.ofNat n).val.toUInt8] ∧
      (Char.ofNat n).val.toUInt8.toNat < 0x80 ∧
      Char.ofNat (Char.ofNat n).val.toUInt8.toNat = Char.ofNat n := by
    decide
  have h := all c.toNat ha (by rwa [Char.ofNat_toNat])
  rw [Char.ofNat_toNat] at h
  obtain ⟨h₁, h₂, h₃, h₄, h₅, h₆, h₇⟩ := h
  exact ⟨h₁, h₂, h₃, h₄, h₅, h₆, hk, h₇⟩

/-- A byte of `0x80` and above is escaped. -/
theorem shouldEscapePath_of_high {b : UInt8} (h : 0x80 ≤ b.toNat) : shouldEscapePath b = true := by
  have all : ∀ k < 0x80, shouldEscapePath (UInt8.ofNat (k + 0x80)) = true := by decide
  have hb : b.toNat < 0x100 := b.toNat_lt_size
  rw [← UInt8.toNat.inj (UInt8.toNat_ofNat_of_lt b.toNat_lt_size), ← Nat.sub_add_cancel h]
  exact all _ (by omega)

/-- Setting the top bit makes a byte `0x80` or above: the first byte of a character of several
UTF-8 bytes is one. -/
theorem le_toNat_or (x : UInt8) {y : UInt8} (hy : y.toNat.testBit 7 = true) : 0x80 ≤ (x ||| y).toNat := by
  have hor : (x ||| y).toNat = x.toNat ||| y.toNat := BitVec.toNat_or _ _
  have h7 : (x.toNat ||| y.toNat).testBit 7 = true := by rw [Nat.testBit_or, hy, Bool.or_true]
  rw [hor]
  exact Nat.testBit_implies_ge h7

/-- A character that does not pass has a UTF-8 byte that re-escaping escapes: an ASCII one its only
byte, any other its first. -/
theorem escapes_of_not_passes {c : Char} (h : ¬ Passes c) :
    ∃ b ∈ String.utf8EncodeChar c, shouldEscapePath b = true := by
  by_cases ha : c.val ≤ 0x7f
  · have hone : String.utf8EncodeChar c = [c.val.toUInt8] := by simp [String.utf8EncodeChar, ha]
    refine ⟨c.val.toUInt8, by simp [hone], ?_⟩
    by_contra hk
    exact h (passes_of_ascii (Nat.lt_succ_of_le ha) (by simpa using hk))
  · unfold String.utf8EncodeChar
    simp only [ha, if_false]
    split_ifs <;> exact ⟨_, List.mem_cons_self _ _, shouldEscapePath_of_high (le_toNat_or _ (by decide))⟩

/-! ## Parsing a path of routable characters -/

section
variable {cs : List Char}

/-- The bytes of a path of one-byte characters. -/
def bytesOf (cs : List Char) : List UInt8 := cs.map (·.val.toUInt8)

/-- A path without `%` unescapes to the UTF-8 bytes of its characters. -/
theorem unescape_of_no_percent (h : '%' ∉ cs) : unescape cs = .ok (cs.flatMap String.utf8EncodeChar) := by
  induction cs with
  | nil => rfl
  | cons c cs ih =>
    have hc : c ≠ '%' := fun he => h (he ▸ List.mem_cons_self _ _)
    have hrest := ih fun hm => h (List.mem_cons_of_mem _ hm)
    cases cs with
    | nil => simp [unescape, hc, Except.map]
    | cons d ds => cases ds <;> simp_all [unescape, Except.map]

/-- UTF-8 encoding of characters that pass is one byte each. -/
theorem flatMap_encode_of_passes (h : ∀ c ∈ cs, Passes c) :
    cs.flatMap String.utf8EncodeChar = bytesOf cs := by
  induction cs with
  | nil => rfl
  | cons c cs ih =>
    rw [List.flatMap_cons, (h c (List.mem_cons_self _ _)).encode,
      ih fun d hd => h d (List.mem_cons_of_mem _ hd)]
    rfl

/-- Escaping the bytes of characters that pass writes the characters back. -/
theorem escape_of_passes (h : ∀ c ∈ cs, Passes c) : escape (bytesOf cs) = String.mk cs := by
  simp only [escape, bytesOf, List.flatMap_map]
  congr 1
  conv_rhs => rw [← List.flatMap_singleton' cs]
  exact List.flatMap_congr fun c hc => by
    simp only [Function.comp, (h c hc).kept, Bool.false_eq_true, if_false, (h c hc).decode]

/-- Decoding the bytes of characters that pass gives the characters back. -/
theorem decodeUtf8_of_passes (h : ∀ c ∈ cs, Passes c) :
    decodeUtf8 cs.length (bytesOf cs) = some cs := by
  induction cs with
  | nil => rfl
  | cons c cs ih =>
    have hc := h c (List.mem_cons_self _ _)
    have hcs : decodeUtf8 cs.length (bytesOf cs) = some cs :=
      ih fun d hd => h d (List.mem_cons_of_mem _ hd)
    simp only [bytesOf, List.map_cons, List.length_cons, decodeUtf8, if_pos hc.ascii, hc.decode]
    simp only [bytesOf] at hcs
    rw [hcs]
    rfl

/-- Re-escaping bytes one of which is escaped writes a `%`. -/
theorem percent_mem_escape {bs : List UInt8} {b : UInt8} (hb : b ∈ bs) (hs : shouldEscapePath b = true) :
    '%' ∈ (escape bs).data :=
  List.mem_flatMap.2 ⟨b, hb, by simp [hs]⟩

end

/-- A path of passing characters is routed on as it is, decoded from its bytes. -/
theorem routePath_of_passes (raw : String) (h : ∀ c ∈ raw.data, Passes c) : routePath raw = .ok raw := by
  have hesc : escape (bytesOf raw.data) = raw := escape_of_passes h
  have hdec : decodeUtf8 (bytesOf raw.data).length (bytesOf raw.data) = some raw.data := by
    rw [bytesOf, List.length_map]
    exact decodeUtf8_of_passes h
  simp only [routePath, unescape_of_no_percent fun hm => (h _ hm).not_percent rfl,
    flatMap_encode_of_passes h, bind, Except.bind, hesc, if_true, hdec]
  rfl

/-- A path without `%` is routed on as it is: when a character does not pass, re-escaping its
bytes writes a `%` the path does not have, and echo routes on the raw path. -/
theorem routePath_of_no_percent (raw : String) (h : '%' ∉ raw.data) : routePath raw = .ok raw := by
  by_cases hp : ∀ c ∈ raw.data, Passes c
  · exact routePath_of_passes raw hp
  push_neg at hp
  obtain ⟨c, hc, hnp⟩ := hp
  obtain ⟨b, hb, hs⟩ := escapes_of_not_passes hnp
  have hesc : escape (raw.data.flatMap String.utf8EncodeChar) ≠ raw := fun he =>
    h (he ▸ percent_mem_escape (List.mem_flatMap.2 ⟨c, hc, hb⟩) hs)
  simp only [routePath, unescape_of_no_percent h, bind, Except.bind, if_neg hesc]
  rfl

/-- A path of routable characters is routed on as it is. -/
theorem requestPath_of_routable (p : String) (h : ∀ c ∈ p.data, Routable c) : requestPath p = .ok p := by
  have hfrag : p.data.takeWhile (· ≠ '#') = p.data :=
    List.takeWhile_eq_self_iff.2 fun c hc => by simpa using (h c hc).1
  have hrest : p.data.dropWhile (· ≠ '#') = [] :=
    List.dropWhile_eq_nil_iff.2 fun c hc => by simpa using (h c hc).1
  have hquery : p.data.takeWhile (· ≠ '?') = p.data :=
    List.takeWhile_eq_self_iff.2 fun c hc => by simpa using (h c hc).2.1
  have hctl : p.data.any isCTL = false := List.any_eq_false.2 fun c hc => by simp [(h c hc).2.2.2]
  simp only [requestPath, hfrag, hrest, hquery, hctl, Bool.false_eq_true, if_false, List.drop_nil]
  exact routePath_of_no_percent p fun hm => (h _ hm).2.2.1 rfl

/-- The client's path for a routable ID and one of the suffixes it uses is routed on as it is. -/
theorem requestPath_volume (v sfx : String) (hv : IsRoutableID v)
    (hsfx : ∀ c ∈ sfx.data, Routable c) :
    requestPath ("/api/v1/volumes/" ++ v ++ sfx) = .ok ("/api/v1/volumes/" ++ v ++ sfx) := by
  apply requestPath_of_routable
  simp only [String.data_append, List.mem_append]
  rintro c ((hc | hc) | hc)
  · revert c hc
    decide
  · exact (hv.2 c hc).1
  · exact hsfx c hc

end Url

/-! ## Routing the volume paths -/

section
variable (v : String)

/-- The four routes outside `/api/v1/volumes/` do not match a volume path. -/
theorem matchPattern_volume_off (sfx : String) :
    matchPattern [.lit "/health"] ("/api/v1/volumes/" ++ v ++ sfx).data = none ∧
    matchPattern [.lit "/ready"] ("/api/v1/volumes/" ++ v ++ sfx).data = none ∧
    matchPattern [.lit "/api/v1/volumes"] ("/api/v1/volumes/" ++ v ++ sfx).data = none ∧
    matchPattern [.lit "/api/v1/backends"] ("/api/v1/volumes/" ++ v ++ sfx).data = none := by
  rw [String.data_append, String.data_append, List.append_assoc]
  exact ⟨rfl, rfl, rfl, rfl⟩

variable (hv : Url.IsRoutableID v)
include hv

/-- `GET /api/v1/volumes/<id>` reaches `HandleGet`. -/
theorem dispatch_get_volume :
    dispatch "GET" ("/api/v1/volumes/" ++ v) = .found .volumeGet [("id", v)] :=
  dispatch_volume_route (fun h => (hv.2 _ h).2 rfl) "GET" .volumeGet [] [] [] (by decide) (.inl rfl) rfl _
    (List.append_nil _).symm

/-- `DELETE /api/v1/volumes/<id>` reaches `HandleDelete`. -/
theorem dispatch_delete_volume :
    dispatch "DELETE" ("/api/v1/volumes/" ++ v) = .found .volumeDelete [("id", v)] :=
  dispatch_volume_route (fun h => (hv.2 _ h).2 rfl) "DELETE" .volumeDelete [] [] [] (by decide) (.inl rfl)
    rfl _ (List.append_nil _).symm

/-- `POST /api/v1/volumes/<id>/stage` reaches `HandleStage`. -/
theorem dispatch_post_stage :
    dispatch "POST" ("/api/v1/volumes/" ++ v ++ "/stage") = .found .volumeStage [("id", v)] :=
  dispatch_volume_route (fun h => (hv.2 _ h).2 rfl) "POST" .volumeStage [.lit "/stage"] "/stage".data []
    (by decide) (.inr rfl) rfl _ (String.data_append _ _)

/-- `POST /api/v1/volumes/<id>/publish` reaches `HandlePublish`. -/
theorem dispatch_post_publish :
    dispatch "POST" ("/api/v1/volumes/" ++ v ++ "/publish") = .found .volumePublish [("id", v)] :=
  dispatch_volume_route (fun h => (hv.2 _ h).2 rfl) "POST" .volumePublish [.lit "/publish"] "/publish".data
    [] (by decide) (.inr rfl) rfl _ (String.data_append _ _)

/-- `DELETE` on `/<id>/stage` or `/<id>/publish`: the paths are routed, for `POST` only, so echo
answers `405`. -/
theorem dispatch_delete_node (sfx : String) (hsfx : sfx = "/stage" ∨ sfx = "/publish") :
    dispatch "DELETE" ("/api/v1/volumes/" ++ v ++ sfx) = .methodNotAllowed := by
  obtain ⟨h₁, h₂, h₃, h₄⟩ := matchPattern_volume_off v sfx
  have hvol (tail : List Segment) :
      matchPattern (volumePattern tail) ("/api/v1/volumes/" ++ v ++ sfx).data =
        (matchPattern tail sfx.data).map (("id", v) :: ·) := by
    rw [String.data_append, String.data_append, List.append_assoc]
    exact matchPattern_volumePattern tail (fun h => (hv.2 _ h).2 rfl)
      (by rcases hsfx with rfl | rfl <;> exact .inr rfl)
  simp only [volumePattern] at hvol
  simp only [dispatch, routes, List.filterMap_cons, List.any_cons, h₁, h₂, h₃, h₄, hvol]
  rcases hsfx with rfl | rfl <;> rfl

end

/-! ## The client's requests for a volume -/

namespace VolumeManagerClient

variable {σ φ : Type} (cp : ControlPlane σ φ) (env : RequestEnv)

/-- A request whose target parses to itself is the control plane's answer to it. -/
theorem send_of_requestPath {target : String} (h : Url.requestPath target = .ok target)
    (method : String) (body : JsonObject) :
    send cp env method target body = (cp.serve ⟨method, target, body⟩ env).bind fun r => pure (.ok r) := by
  simp [send, h]

/-- `CreateVolume`'s request reaches `HandleCreate`. -/
theorem send_create (body : JsonObject) :
    send cp env "POST" "/api/v1/volumes" body =
      (VolumeHandler.handleCreate cp.store cp.registry body env).bind fun r => pure (.ok r) := by
  have hpath : Url.requestPath "/api/v1/volumes" = .ok "/api/v1/volumes" := rfl
  have hroute : dispatch "POST" "/api/v1/volumes" = .found .volumeCreate [] := rfl
  simp only [send, hpath, ControlPlane.serve, ControlPlane.route, String.reduceEq, if_false, hroute]

section
variable {v : String} (hv : Url.IsRoutableID v)
include hv

/-- For a routable ID, a request to the volume's path is the control plane's answer to that path. -/
theorem send_volume (method : String) (body : JsonObject) :
    send cp env method ("/api/v1/volumes/" ++ v) body =
      (cp.serve ⟨method, "/api/v1/volumes/" ++ v, body⟩ env).bind fun r => pure (.ok r) :=
  send_of_requestPath cp env (by simpa using Url.requestPath_volume v "" hv (by decide)) method body

/-- For a routable ID, a request to the volume's stage or publish path is the control plane's answer
to that path. -/
theorem send_volume_node (sfx : String) (hsfx : sfx = "/stage" ∨ sfx = "/publish") (method : String)
    (body : JsonObject) :
    send cp env method ("/api/v1/volumes/" ++ v ++ sfx) body =
      (cp.serve ⟨method, "/api/v1/volumes/" ++ v ++ sfx, body⟩ env).bind fun r => pure (.ok r) :=
  send_of_requestPath cp env
    (Url.requestPath_volume v sfx hv (by rcases hsfx with rfl | rfl <;> decide)) method body

/-- For a volume ID that is not empty and has no `?`, `#`, `%`, `/` and no control character, the
requests `GetVolume`, `DeleteVolume`, `StageVolume` and `PublishVolume` build reach `HandleGet`,
`HandleDelete`, `HandleStage` and `HandlePublish`, with `c.Param("id")` the ID itself, whatever the
body and the control plane. -/
theorem volume_requests_routed (body : JsonObject) :
    send cp env "GET" ("/api/v1/volumes/" ++ v) body =
      (VolumeHandler.handleGet cp.store v).bind (fun r => pure (.ok r)) ∧
    send cp env "DELETE" ("/api/v1/volumes/" ++ v) body =
      (VolumeHandler.handleDelete cp.store v).bind (fun r => pure (.ok r)) ∧
    send cp env "POST" ("/api/v1/volumes/" ++ v ++ "/stage") body =
      (VolumeHandler.handleStage cp.store cp.registry v body env).bind (fun r => pure (.ok r)) ∧
    send cp env "POST" ("/api/v1/volumes/" ++ v ++ "/publish") body =
      (VolumeHandler.handlePublish cp.store cp.registry v body env).bind (fun r => pure (.ok r)) := by
  simp only [send_volume cp env hv, send_volume_node cp env hv _ (.inl rfl),
    send_volume_node cp env hv _ (.inr rfl), ControlPlane.serve, ControlPlane.route, String.reduceEq,
    if_false, dispatch_get_volume v hv,
    dispatch_delete_volume v hv, dispatch_post_stage v hv, dispatch_post_publish v hv, param,
    List.lookup_cons_self, Option.getD_some, and_self]

end

/-- The volume `a b:é` on the memory-store manager: each of the four requests reaches its
handler with that ID, space, colon and non-ASCII letter included. -/
theorem volume_requests_routed_vol1 :
    Url.IsRoutableID "a b:é" ∧
    send ControlPlane.demo ⟨"", 0, 0⟩ "GET" ("/api/v1/volumes/" ++ "a b:é") [] =
      (VolumeHandler.handleGet ControlPlane.demo.store "a b:é").bind (fun r => pure (.ok r)) ∧
    send ControlPlane.demo ⟨"", 0, 0⟩ "DELETE" ("/api/v1/volumes/" ++ "a b:é") [] =
      (VolumeHandler.handleDelete ControlPlane.demo.store "a b:é").bind (fun r => pure (.ok r)) ∧
    send ControlPlane.demo ⟨"", 0, 0⟩ "POST" ("/api/v1/volumes/" ++ "a b:é" ++ "/stage") [] =
      (VolumeHandler.handleStage ControlPlane.demo.store ControlPlane.demo.registry "a b:é" []
        ⟨"", 0, 0⟩).bind (fun r => pure (.ok r)) ∧
    send ControlPlane.demo ⟨"", 0, 0⟩ "POST" ("/api/v1/volumes/" ++ "a b:é" ++ "/publish") [] =
      (VolumeHandler.handlePublish ControlPlane.demo.store ControlPlane.demo.registry "a b:é" []
        ⟨"", 0, 0⟩).bind (fun r => pure (.ok r)) :=
  ⟨by decide, volume_requests_routed ControlPlane.demo ⟨"", 0, 0⟩ (by decide) []⟩

/-- An ID with a `?` is cut at it: the request `GetVolume` builds for `x?y` reaches `HandleGet`
for the volume `x`, on every control plane. -/
theorem send_get_query_cut (body : JsonObject) :
    send cp env "GET" ("/api/v1/volumes/" ++ "x?y") body =
      (VolumeHandler.handleGet cp.store "x").bind (fun r => pure (.ok r)) := by
  have hpath : Url.requestPath ("/api/v1/volumes/" ++ "x?y") = .ok "/api/v1/volumes/x" := rfl
  have hroute : dispatch "GET" "/api/v1/volumes/x" = .found .volumeGet [("id", "x")] := rfl
  simp only [send, hpath, ControlPlane.serve, ControlPlane.route, String.reduceEq, if_false, hroute,
    param, List.lookup_cons_self, Option.getD_some]

/-- On the memory-store manager, `GetVolume("x?y")` is `HandleGet` of `x`, and `GetVolume` of an ID
with a tab is refused before it is sent. -/
theorem query_in_id_misrouted :
    send ControlPlane.demo ⟨"", 0, 0⟩ "GET" ("/api/v1/volumes/" ++ "x?y") [] =
      (VolumeHandler.handleGet ControlPlane.demo.store "x").bind (fun r => pure (.ok r)) ∧
    send ControlPlane.demo ⟨"", 0, 0⟩ "GET" ("/api/v1/volumes/" ++ "x\ty") [] =
      pure (.error (.createRequest "net/url: invalid control character in URL")) :=
  ⟨send_get_query_cut ControlPlane.demo ⟨"", 0, 0⟩ [], rfl⟩

end VolumeManagerClient

end VolumeManager
