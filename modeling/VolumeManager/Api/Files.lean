import VolumeManager.Api.Server
import VolumeManager.Host.Os
import VolumeManager.Codec
import VolumeManager.Store.Memory

/-!
# The file handlers (`handlers.FileHandler`)

The three handlers behind `/api/v1/volumes/:id/files/*`, each a request on the store and the host
file system: `FileHandler.handleGet` lists a directory or returns a file, `handlePut` writes one,
`handleDelete` removes a file or a directory with everything under it. Each looks the volume up,
takes its `path` parameter as the root, joins the requested path to it and refuses the result
unless the root is a prefix of it (`FileHandler.target`).

A file's bytes travel as text: `readFile` answers them as the text they spell when
`isTextContent` holds (as `encoding/json` writes such a `string`, `Utf8.toJson`) and in base64
otherwise; `handlePut` writes the base64 decoding of the content it is given when there is one,
and the content's own bytes otherwise.

* `contentBytes_contentString`: what `readFile` answers for bytes that are not text, `handlePut`
  writes back as the same bytes.
* `target_confined`: on a volume whose root is a clean absolute path, every requested path without
  a `..` element passes the check, and the path opened is the root's elements followed by the
  requested path's elements other than `.`.
* `traversal_leaves_root`: the prefix check is on strings, not on path components. A volume at
  `/data` reads and writes `/data2` through `../data2/...`, and `DELETE` of `.` removes the
  volume's root and answers 200.
* `text_content_changes`: a text file whose bytes happen to be valid base64, written back as it was
  read, is replaced by the decoding of its text.

The file mode a `PUT` may give (`Sscanf` of `%o`) and the `os.Stat` after the write feed only the
`Mode`, `Size` and `ModTime` of the answer, which are not modelled. `http.DetectContentType` is
the argument `sniff`.
-/

namespace VolumeManager

/-- `handlers.WriteFileRequest`. -/
structure WriteFileRequest where
  content : String
  mode : String

/-- `c.Bind(&req)` for a `WriteFileRequest` (`Bind` does not run the `validate` tag). -/
def bindWriteFileRequest (o : JsonObject) : Except String WriteFileRequest := do
  let content ← o.string "content"
  let mode ← o.string "mode"
  pure { content, mode }

/-- `isTextContent`: empty, or no NUL byte among the first 512. -/
def isTextContent (content : List UInt8) : Bool :=
  content.isEmpty || !((content.take 512).contains 0)

/-- `detectContentType`: by the extension, lower-cased (the extensions compared are ASCII, and no
other letter lower-cases to one of theirs), then `http.DetectContentType` (`sniff`) of a non-empty
content, else `application/octet-stream`. -/
def detectContentType (sniff : List UInt8 → String) (path : String) (content : List UInt8) :
    String :=
  match String.mk ((FilePath.ext path).data.map Char.toLower) with
  | ".txt" => "text/plain"
  | ".json" => "application/json"
  | ".xml" => "application/xml"
  | ".html" => "text/html"
  | ".md" => "text/markdown"
  | ".yaml" | ".yml" => "application/yaml"
  | _ => if content.length > 0 then sniff content else "application/octet-stream"

namespace FileHandler

variable {σ : Type} (st : Store σ)

/-- A call on the host file system, one atomic step. -/
def host {α : Type} (f : Host → α × Host) : Proc (σ × Host) α := (Proc.atomic f).onSnd

/-- A call that only reads the host file system. -/
def look {α : Type} (f : Host → α) : Proc (σ × Host) α := host fun h => (f h, h)

/-- The requested path with a leading slash. -/
def withSlash (requested : String) : String :=
  if "/".data.isPrefixOf requested.data then requested else "/" ++ requested

/-- `GetVolume` and the `path` parameter: the root of the volume's files, or the answer that ends
the request. -/
def volumeRoot (volumeID : String) : Proc (σ × Host) (Except Response String) := do
  match ← (st.getVolume volumeID).onFst with
  | .error .notFound => pure (.error (errorResponse 404 "not_found" "Volume not found"))
  | .error _ => pure (.error (errorResponse 500 "internal_error" "Failed to get volume"))
  | .ok volume =>
    let volumePath := (volume.parameters.lookup "path").getD ""
    if volumePath = "" then
      pure (.error (errorResponse 400 "invalid_volume" "Volume has no path parameter"))
    else pure (.ok volumePath)

/-- The check of all three handlers: the requested path joined to the root, refused unless the
root is a prefix of the result. -/
def target (volumePath requestedPath : String) : Except Response String :=
  if volumePath.data.isPrefixOf (FilePath.join volumePath requestedPath).data then
    .ok (FilePath.join volumePath requestedPath)
  else .error (errorResponse 400 "invalid_path" "Path traversal not allowed")

/-- `FileHandler.listDirectory`. -/
def listDirectory (requestedPath fullPath : String) : Proc (σ × Host) Response := do
  match ← look fun h => Os.readDir h fullPath with
  | .error e => pure (errorResponse 500 "internal_error" ("Failed to read directory: " ++ e.text))
  | .ok entries =>
    let files := entries.map fun e =>
      FileInfo.mk e.1 (if requestedPath = "/" then "/" ++ e.1 else FilePath.join requestedPath e.1)
        (e.2 = .dir)
    pure ⟨200, .fileList requestedPath files files.length⟩

/-- The content a `GET` answers for a file's bytes: the text they spell, or their base64. -/
def contentString (content : List UInt8) : String :=
  if isTextContent content then Utf8.toJson content else String.mk (Base64.encode content)

/-- `FileHandler.readFile`; `size` is what the `Stat` before it saw. -/
def readFile (sniff : List UInt8 → String) (requestedPath fullPath : String) (size : Nat) :
    Proc (σ × Host) Response := do
  match ← look fun h => Os.readFile h fullPath with
  | .error e => pure (errorResponse 500 "internal_error" ("Failed to read file: " ++ e.text))
  | .ok content =>
    pure ⟨200, .fileContent ⟨requestedPath, size, detectContentType sniff fullPath content,
      contentString content, isTextContent content⟩⟩

/-- `FileHandler.HandleGet` (`GET /api/v1/volumes/:id/files/*`). -/
def handleGet (sniff : List UInt8 → String) (volumeID requested : String) :
    Proc (σ × Host) Response := do
  let requestedPath := withSlash (if requested = "" then "/" else requested)
  match ← volumeRoot st volumeID with
  | .error r => pure r
  | .ok volumePath =>
    match target volumePath requestedPath with
    | .error r => pure r
    | .ok fullPath =>
      match ← look fun h => Os.stat h fullPath with
      | .error e =>
        if e.err = .noent then pure (errorResponse 404 "not_found" "Path not found")
        else pure (errorResponse 500 "internal_error" ("Failed to stat path: " ++ e.text))
      | .ok .dir => listDirectory requestedPath fullPath
      | .ok (.file data) => readFile sniff requestedPath fullPath data.length

/-- The bytes a `PUT` writes for a content: its base64 decoding, or its own bytes. -/
def contentBytes (content : String) : List UInt8 := (Base64.decode content).getD (utf8Bytes content)

/-- `FileHandler.HandlePut` (`PUT /api/v1/volumes/:id/files/*`). -/
def handlePut (volumeID requested : String) (body : JsonObject) : Proc (σ × Host) Response := do
  if requested = "" ∨ requested = "/" then
    pure (errorResponse 400 "invalid_path" "Cannot write to root directory")
  else
    let requestedPath := withSlash requested
    match bindWriteFileRequest body with
    | .error _ => pure (errorResponse 400 "invalid_request" "Invalid request body")
    | .ok req =>
      match ← volumeRoot st volumeID with
      | .error r => pure r
      | .ok volumePath =>
        match target volumePath requestedPath with
        | .error r => pure r
        | .ok fullPath =>
          match ← host fun h => Os.mkdirAll h (FilePath.dir fullPath).data with
          | .error e =>
            pure (errorResponse 500 "internal_error" ("Failed to create parent directory: " ++ e.text))
          | .ok () =>
            match ← host fun h => Os.writeFile h fullPath (contentBytes req.content) with
            | .error e => pure (errorResponse 500 "internal_error" ("Failed to write file: " ++ e.text))
            | .ok () => pure ⟨201, .fileInfo ⟨FilePath.base requestedPath, requestedPath, false⟩⟩

/-- `FileHandler.HandleDelete` (`DELETE /api/v1/volumes/:id/files/*`). -/
def handleDelete (volumeID requested : String) : Proc (σ × Host) Response := do
  if requested = "" ∨ requested = "/" then
    pure (errorResponse 400 "invalid_path" "Cannot delete root directory")
  else
    let requestedPath := withSlash requested
    match ← volumeRoot st volumeID with
    | .error r => pure r
    | .ok volumePath =>
      match target volumePath requestedPath with
      | .error r => pure r
      | .ok fullPath =>
        match ← look fun h => Os.stat h fullPath with
        | .error e =>
          if e.err = .noent then pure (errorResponse 404 "not_found" "File or directory not found")
          else pure (errorResponse 500 "internal_error" ("Failed to stat path: " ++ e.text))
        | .ok _ =>
          match ← host fun h => Os.removeAll h fullPath with
          | .error e => pure (errorResponse 500 "internal_error" ("Failed to delete: " ++ e.text))
          | .ok () => pure ⟨200, .success "File or directory deleted successfully"⟩

/-- The file routes `Server.setupRoutes` registers, on the host file system. -/
def routes (sniff : List UInt8 → String) : FileRoutes (σ × Host) :=
  ⟨handleGet st sniff, handlePut st, handleDelete st⟩

/-! ## A `GET` only reads -/

/-- A host read keeps the host. -/
theorem keepsSnd_look {α : Type} (f : Host → α) : Proc.KeepsSnd (look (σ := σ) f) :=
  Proc.keepsSnd_onSnd fun _ => rfl

/-- The volume lookup keeps the host. -/
theorem keepsSnd_volumeRoot (id : String) : Proc.KeepsSnd (volumeRoot st id) :=
  (Proc.keepsSnd_onFst _).bind fun r => by
    rcases r with (_ | _ | _) | v
    iterate 3 exact Proc.keepsSnd_done _
    dsimp only
    split <;> exact Proc.keepsSnd_done _

/-- A `GET` of a file or a directory leaves the host as it was. -/
theorem keepsSnd_handleGet (sniff : List UInt8 → String) (id requested : String) :
    Proc.KeepsSnd (handleGet st sniff id requested) :=
  (keepsSnd_volumeRoot st id).bind fun r => by
    rcases r with r | volumePath
    · exact Proc.keepsSnd_done _
    dsimp only
    split
    · exact Proc.keepsSnd_done _
    refine (keepsSnd_look _).bind fun r => ?_
    rcases r with e | (⟨⟩ | data)
    · dsimp only
      split <;> exact Proc.keepsSnd_done _
    all_goals
      simp only [listDirectory, readFile, Proc.bind_eq]
      exact (keepsSnd_look _).bind fun r => by cases r <;> exact Proc.keepsSnd_done _

/-! ## The two encodings of a file's bytes -/

/-- A file that is not text is answered in base64, and a `PUT` of that answer writes its bytes
back. -/
theorem contentBytes_contentString {content : List UInt8} (hb : isTextContent content = false) :
    contentBytes (contentString content) = content := by
  rw [contentString, hb, if_neg Bool.false_ne_true, contentBytes, Base64.decode_encode]
  rfl

/-! ## A request without `..` stays under the root -/

open FilePath in
/-- The elements of the rooted path with the given elements, none empty or holding a slash, are
those elements. -/
theorem names_slash_intercalate {es : List String} (hes : ∀ x ∈ es, x ≠ "" ∧ '/' ∉ x.data) :
    Host.names ("/" ++ "/".intercalate es) = es := by
  rw [Host.names, splitSlash_slash_intercalate fun x hx => (hes x hx).2]
  split_ifs with he
  · simp [he]
  · simpa using fun x hx => (hes x hx).1

open FilePath in
/-- A rooted path is a prefix of the rooted path with more elements. -/
theorem slash_intercalate_extends (rs ns : List String) :
    ("/" ++ "/".intercalate rs).data <+: ("/" ++ "/".intercalate (rs ++ ns)).data := by
  rw [slash_intercalate_data, slash_intercalate_data]
  rcases rs with _ | ⟨r, rs⟩
  · rcases ns with _ | ⟨n, ns⟩
    · exact List.prefix_refl _
    · exact ⟨_, rfl⟩
  · rw [if_neg (List.cons_ne_nil r rs), if_neg (List.append_ne_nil_of_left_ne_nil (List.cons_ne_nil r rs) ns)]
    simp only [slashJoin, List.flatMap_append]
    exact List.prefix_append _ _

open FilePath in
/-- Adding the leading slash adds at most an empty first element to the path's elements. -/
theorem withSlash_data (requested : String) :
    (splitSlash (withSlash requested).data).map String.mk =
        (splitSlash requested.data).map String.mk ∨
      (splitSlash (withSlash requested).data).map String.mk =
        "" :: (splitSlash requested.data).map String.mk := by
  unfold withSlash
  split_ifs
  · exact .inl rfl
  · right
    rw [String.data_append]
    exact congrArg (List.map String.mk) (FilePath.splitSlash_slash _)

open FilePath in
/-- Joined to a clean rooted path, a requested path without `..` resolves to the root's elements
followed by the requested path's elements other than `.`. -/
theorem join_confined {rs : List String} (hrs : ∀ r ∈ rs, r ≠ "" ∧ r ≠ "." ∧ r ≠ ".." ∧ '/' ∉ r.data)
    {requested : String} (hreq : ".." ∉ Host.names requested) :
    join ("/" ++ "/".intercalate rs) (withSlash requested) =
      "/" ++ "/".intercalate (rs ++ (Host.names requested).filter (· ≠ ".")) := by
  have hslash : ∀ x ∈ rs, '/' ∉ x.data := fun x hx => (hrs x hx).2.2.2
  have hroot := splitSlash_slash_intercalate hslash
  -- the requested path's elements, with or without the slash `withSlash` puts first
  have hX : ".." ∉ (splitSlash requested.data).map String.mk := fun h =>
    hreq (List.mem_filter.2 ⟨h, by decide⟩)
  have hB : ".." ∉ (splitSlash (withSlash requested).data).map String.mk ∧
      ((splitSlash (withSlash requested).data).map String.mk).filter (fun e => e ≠ "" ∧ e ≠ ".") =
        (Host.names requested).filter (· ≠ ".") := by
    have hf : (Host.names requested).filter (· ≠ ".") =
        ((splitSlash requested.data).map String.mk).filter fun e => e ≠ "" ∧ e ≠ "." := by
      rw [Host.names, List.filter_filter]
      congr 1
      funext e
      simp only [ne_eq, Bool.decide_and, decide_not]
      exact Bool.and_comm _ _
    rcases withSlash_data requested with h | h <;> rw [h, hf] <;> simp [hX]
  have hne : withSlash requested ≠ "" := by
    unfold withSlash
    split_ifs with h
    · rintro rfl
      exact absurd h (by decide)
    · intro h'
      have := congrArg String.data h'
      cases this
  have hR : "/" ++ "/".intercalate rs ≠ "" := fun h => by
    have := congrArg String.data h
    rw [slash_append_data] at this
    cases this
  have hpath : ("/" ++ "/".intercalate rs ++ "/" ++ withSlash requested).data =
      ("/" ++ "/".intercalate rs).data ++ '/' :: (withSlash requested).data := by
    simp only [String.data_append, List.append_assoc]
    rfl
  have hsplit : (splitSlash ("/" ++ "/".intercalate rs ++ "/" ++ withSlash requested).data).map
      String.mk = (if rs = [] then ["", ""] else "" :: rs) ++
        (splitSlash (withSlash requested).data).map String.mk := by
    rw [hpath, splitSlash_append_slash, List.map_append, hroot]
  have hhead : ("/" ++ "/".intercalate rs ++ "/" ++ withSlash requested).data.head? = some '/' := by
    rw [hpath, slash_append_data]
    rfl
  have hnames : ∀ r ∈ rs, r ≠ "" ∧ r ≠ "." := fun r hr => ⟨(hrs r hr).1, (hrs r hr).2.1⟩
  have hkeep : ((if rs = [] then ["", ""] else "" :: rs).filter fun e => e ≠ "" ∧ e ≠ ".") = rs := by
    split_ifs with hr
    · simp [hr]
    · rw [List.filter_cons_of_neg (by simp), List.filter_eq_self.2 (by simpa using hnames)]
  rw [join, if_neg hR, if_neg hne, clean_rooted hhead, hsplit, List.filter_append, hB.2, hkeep]
  · rw [hsplit, List.mem_append, not_or]
    refine ⟨?_, hB.1⟩
    split_ifs
    · decide
    · simpa using fun h => (hrs ".." h).2.2.1 rfl

/-- A volume whose root is a clean absolute path (a slash, then elements that are neither empty,
`.` nor `..` and hold no slash) serves every requested path without a `..` element: the check
passes, and the path the handlers open is the root's elements followed by the requested path's
elements other than `.`: lexically a path under the root. The host has no symbolic links, so this
says nothing of a link inside the volume. -/
theorem target_confined {rs : List String}
    (hrs : ∀ r ∈ rs, r ≠ "" ∧ r ≠ "." ∧ r ≠ ".." ∧ '/' ∉ r.data) {requested : String}
    (hreq : ".." ∉ Host.names requested) :
    target ("/" ++ "/".intercalate rs) (withSlash requested) =
        .ok ("/" ++ "/".intercalate (rs ++ (Host.names requested).filter (· ≠ "."))) ∧
      Host.names ("/" ++ "/".intercalate (rs ++ (Host.names requested).filter (· ≠ "."))) =
        rs ++ (Host.names requested).filter (· ≠ ".") := by
  refine ⟨?_, names_slash_intercalate fun x hx => ?_⟩
  · rw [target, join_confined hrs hreq,
      if_pos (List.isPrefixOf_iff_prefix.2 (slash_intercalate_extends _ _))]
  · rcases List.mem_append.1 hx with hx | hx
    · exact ⟨(hrs x hx).1, (hrs x hx).2.2.2⟩
    · simp only [List.mem_filter, Host.names, List.mem_map] at hx
      obtain ⟨⟨⟨e, he, rfl⟩, hne⟩, -⟩ := hx
      exact ⟨by simpa using hne, FilePath.not_mem_of_mem_splitSlash he⟩

/-- The path notes/./a.txt in the volume rooted at /data stays below the root, with its dot dropped. -/
theorem target_confined_notes :
    (∀ r ∈ ["data"], r ≠ "" ∧ r ≠ "." ∧ r ≠ ".." ∧ '/' ∉ r.data) ∧ ".." ∉ Host.names "notes/./a.txt" ∧
      target ("/" ++ "/".intercalate ["data"]) (withSlash "notes/./a.txt") =
        .ok ("/" ++ "/".intercalate (["data"] ++ (Host.names "notes/./a.txt").filter (· ≠ "."))) ∧
      Host.names ("/" ++ "/".intercalate (["data"] ++ (Host.names "notes/./a.txt").filter (· ≠ "."))) =
        ["data"] ++ (Host.names "notes/./a.txt").filter (· ≠ ".") :=
  ⟨by decide, by decide, target_confined (by decide) (by decide)⟩

/-! ## A volume and its files -/

/-- The volume `vol-1`, its files under `/data`. -/
def dataVolume : Volume :=
  ⟨"vol-1", "data", "local", (∅ : StrMap String).insert "path" "/data", .created, [], [], 0, 0⟩

/-- The memory store holding `dataVolume`. -/
def dataStore : MemoryStore := (MemoryStore.empty.createVolume dataVolume).2

/-- A host with `/data/notes` (the text `abcd`) and, beside `/data`, a directory `/data2` holding
`x` (the text `hi`). -/
def dataHost : Host :=
  match Host.empty.mkdir "/data" >>= (·.mkdir "/data2") >>= (·.create "/data2/x" (utf8Bytes "hi")) >>=
      (·.create "/data/notes" (utf8Bytes "abcd")) with
  | .ok h => h
  | .error _ => Host.empty

/-- `dataHost` with `/data/docs/a.bin` holding the bytes `0, 1, 2`, which are not text. -/
def binaryHost : Host :=
  match dataHost.mkdir "/data/docs" >>= (·.create "/data/docs/a.bin" [0, 1, 2]) with
  | .ok h => h
  | .error _ => dataHost

/-- A volume rooted at /data: the path ../data2/x reads and writes outside the root, and the path .
deletes the root itself. -/
theorem traversal_leaves_root (sniff : List UInt8 → String) :
    Storage.localValidate dataVolume.parameters = .ok () ∧
      target "/data" (withSlash "../data2/x") = .ok "/data2/x" ∧
      ((handleGet MemoryStore.store sniff "vol-1" "../data2/x").run (dataStore, dataHost)).1.body =
        .fileContent ⟨"/../data2/x", 2, sniff (utf8Bytes "hi"), "hi", true⟩ ∧
      ((handlePut MemoryStore.store "vol-1" "../data2/y" [("content", .str "hi")]).run
        (dataStore, dataHost)).2.2.node ["data2", "y"] = some (.file (utf8Bytes "hi")) ∧
      target "/data" (withSlash ".") = .ok "/data" ∧
      ((handleDelete MemoryStore.store "vol-1" ".").run (dataStore, dataHost)).1.status = 200 ∧
      ((handleDelete MemoryStore.store "vol-1" ".").run (dataStore, dataHost)).2.2.node ["data"] = none := by
  refine ⟨rfl, rfl, rfl, ?_, rfl, by decide, by decide⟩
  unfold handlePut Os.mkdirAll
  decide

/-- Writing back the text GET read of a file holding abcd replaces it with the bytes of its base64
decoding, which GET then reads as other text. -/
theorem text_content_changes (sniff : List UInt8 → String) :
    ((handleGet MemoryStore.store sniff "vol-1" "notes").run (dataStore, dataHost)).1.body =
        .fileContent ⟨"/notes", 4, sniff (utf8Bytes "abcd"), "abcd", true⟩ ∧
      ((handlePut MemoryStore.store "vol-1" "notes" [("content", .str "abcd")]).run
        (dataStore, dataHost)).2.2.node ["data", "notes"] = some (.file [105, 183, 29]) ∧
      ((handleGet MemoryStore.store sniff "vol-1" "notes").run
          ((handlePut MemoryStore.store "vol-1" "notes" [("content", .str "abcd")]).run
            (dataStore, dataHost)).2).1.body =
        .fileContent ⟨"/notes", 3, sniff [105, 183, 29], String.mk ['i', Char.ofNat 0xFFFD, Char.ofNat 29],
          true⟩ := by
  refine ⟨rfl, ?_, ?_⟩
  · unfold handlePut Os.mkdirAll
    decide
  · unfold handlePut Os.mkdirAll
    rfl

end FileHandler

end VolumeManager
