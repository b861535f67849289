import VolumeManager.Api.Files

/-!
# What the file requests leave behind

Each file request, run on a store whose reads keep it, is read back by the requests that follow it.
The spec lemmas say what a request that answered success did to the host: `handlePut_created` (it
made the parent directory and wrote the bytes), `handleDelete_deleted` (it found the path and
removed it with `RemoveAll`); `handleGet_file` and `handleGet_missing` say what a `GET` answers on
a file and where nothing is.

* `handleGet_after_put`: after a `PUT` answered `201`, a `GET` of the same path answers the bytes of
  the content the `PUT` was given.
* `binary_file_round_trip`: a file whose bytes are not text, downloaded and uploaded back, is
  answered the same afterwards.
* `handleGet_after_delete`: after a `DELETE` answered `200`, a `GET` of the same path answers
  `404`. The path is a joined one, which `Clean` left without `.` elements, and on such a path a
  `RemoveAll` that succeeded leaves nothing (`Os.stat_of_removeAll`).
* `handleGet_below_delete`: nor anything under it: a `GET` of the path extended by any elements
  without `..` answers `404` too (`target_append`, `Os.stat_below_removeAll`).
* `handlePut_again`, `handleDelete_again`: a `PUT` answered `201` is idempotent; a `DELETE`
  answered `200`, sent again, answers `404` and changes nothing.
-/

namespace VolumeManager

namespace FileHandler

variable {σ : Type} (st : Store σ)

open Proc

/-- A host call runs on the host half of the world and keeps the store half. -/
@[simp] theorem run_host {α : Type} (f : Host → α × Host) (w : σ × Host) :
    (host f).run w = ((f w.2).1, (w.1, (f w.2).2)) := by
  simp [host]

/-- A host read answers from the host half and changes nothing. -/
@[simp] theorem run_look {α : Type} (f : Host → α) (w : σ × Host) : (look f).run w = (f w.2, w) :=
  run_host _ w

/-- On a store whose reads keep it, the root lookup reads the store only: its answer does not
depend on the host, and it leaves both as they are. -/
theorem volumeRoot_reads (hkeep : ∀ id s, ((st.getVolume id).run s).2 = s) (id : String) (s : σ) :
    ∃ v, ∀ h, (volumeRoot st id).run (s, h) = (v, (s, h)) := by
  refine ⟨((volumeRoot st id).run (s, Host.empty)).1, fun h => ?_⟩
  simp only [volumeRoot, bind_eq, run_bind, run_onFst, hkeep]
  split <;> try rfl
  split <;> rfl

/-- The root lookup refuses with an error answer: `404`, `500` or `400`. -/
theorem volumeRoot_error {id : String} {w : σ × Host} {r : Response}
    (h : ((volumeRoot st id).run w).1 = .error r) :
    ∃ n e m, r = errorResponse n e m ∧ (n = 404 ∨ n = 500 ∨ n = 400) := by
  simp only [volumeRoot, bind_eq, run_bind, run_onFst] at h
  split at h
  · cases h
    exact ⟨_, _, _, rfl, .inl rfl⟩
  · cases h
    exact ⟨_, _, _, rfl, .inr (.inl rfl)⟩
  · split at h <;> cases h
    exact ⟨_, _, _, rfl, .inr (.inr rfl)⟩

/-- The volume root the file handler finds is never empty. -/
theorem volumeRoot_ne_empty {id volumePath : String} {w : σ × Host}
    (h : ((volumeRoot st id).run w).1 = .ok volumePath) : volumePath ≠ "" := by
  simp only [volumeRoot, bind_eq, run_bind, run_onFst] at h
  split at h
  · cases h
  · cases h
  · split_ifs at h with hv
    · cases h
    · cases h
      exact hv

/-- The requested path with its leading slash is never empty. -/
theorem withSlash_ne_empty (requested : String) : withSlash requested ≠ "" := by
  unfold withSlash
  split_ifs with h
  · rintro rfl
    simp at h
  · exact fun e => by simpa using congrArg String.data e

/-- A requested path extended past a slash gets its leading slash as the path did. -/
theorem withSlash_append {requested : String} (hreq : requested ≠ "") (rest : String) :
    withSlash (requested ++ "/" ++ rest) = withSlash requested ++ "/" ++ rest := by
  obtain ⟨c, cs, hc⟩ := List.exists_cons_of_ne_nil fun h => hreq (String.ext h)
  have hpre : "/".data.isPrefixOf (requested ++ "/" ++ rest).data = "/".data.isPrefixOf requested.data := by
    simp [hc, List.isPrefixOf]
  unfold withSlash
  rw [hpre]
  split_ifs
  · rfl
  · simp only [String.append_assoc]

/-- The only error the path check gives is the 400 against traversal. -/
theorem target_error {volumePath requestedPath : String} {r : Response}
    (h : target volumePath requestedPath = .error r) :
    r = errorResponse 400 "invalid_path" "Path traversal not allowed" := by
  unfold target at h
  split_ifs at h
  exact (Except.error.inj h).symm

/-- A `PUT` answered `201` found the volume, passed the check, made the parent directory and wrote
the bytes of its content to the path it opened; it changed the host only. -/
theorem handlePut_created (hkeep : ∀ id s, ((st.getVolume id).run s).2 = s) {id requested : String}
    {body : JsonObject} {w : σ × Host} (h201 : ((handlePut st id requested body).run w).1.status = 201) :
    ∃ req volumePath fullPath h₁ h₂, ¬(requested = "" ∨ requested = "/") ∧
      bindWriteFileRequest body = .ok req ∧
      ((volumeRoot st id).run w).1 = .ok volumePath ∧
      target volumePath (withSlash requested) = .ok fullPath ∧
      Os.mkdirAll w.2 (FilePath.dir fullPath).data = (.ok (), h₁) ∧
      Os.writeFile h₁ fullPath (contentBytes req.content) = (.ok (), h₂) ∧
      ((handlePut st id requested body).run w).2 = (w.1, h₂) := by
  obtain ⟨s, h⟩ := w
  obtain ⟨v, hroot⟩ := volumeRoot_reads st hkeep id s
  simp only [handlePut, bind_eq, pure_eq] at h201 ⊢
  split_ifs at h201 ⊢ with hr
  · simp at h201
  cases hreq : bindWriteFileRequest body with
  | error => simp [hreq] at h201
  | ok req =>
  simp only [hreq, run_bind, hroot] at h201 ⊢
  cases v with
  | error r =>
    obtain ⟨n, e, m, rfl, hn⟩ := volumeRoot_error st (by rw [hroot h])
    simp only [run_done, errorResponse_status] at h201
    omega
  | ok volumePath =>
  simp only at h201 ⊢
  cases ht : target volumePath (withSlash requested) with
  | error r => simp [ht, target_error ht] at h201
  | ok fullPath =>
  simp only [ht, run_bind, run_host] at h201 ⊢
  rcases hm : Os.mkdirAll h (FilePath.dir fullPath).data with ⟨_ | ⟨⟩, h₁⟩
  · simp [hm] at h201
  rcases hw : Os.writeFile h₁ fullPath (contentBytes req.content) with ⟨_ | ⟨⟩, h₂⟩
  · simp [hm, hw, run_bind] at h201
  exact ⟨req, volumePath, fullPath, h₁, h₂, hr, rfl, rfl, ht, hm, hw,
    by simp [hm, hw, run_bind]⟩

/-- A `GET` of a path that names a regular file answers its bytes. -/
theorem handleGet_file (sniff : List UInt8 → String) (hkeep : ∀ id s, ((st.getVolume id).run s).2 = s) {id requested volumePath fullPath : String}
    {data : List UInt8} {w : σ × Host} (hreq : requested ≠ "") (hroot : ((volumeRoot st id).run w).1 = .ok volumePath)
    (ht : target volumePath (withSlash requested) = .ok fullPath)
    (hs : Os.stat w.2 fullPath = .ok (.file data)) :
    ((handleGet st sniff id requested).run w).1 =
      ⟨200, .fileContent ⟨withSlash requested, data.length, detectContentType sniff fullPath data,
        contentString data, isTextContent data⟩⟩ := by
  obtain ⟨s, h⟩ := w
  obtain ⟨v, hv⟩ := volumeRoot_reads st hkeep id s
  rw [hv] at hroot
  subst hroot
  simp only [handleGet, bind_eq, pure_eq, if_neg hreq, run_bind, hv, ht, run_look, hs, readFile,
    Os.readFile_of_stat hs, run_done]

/-- A `GET` answered with a file's content read the regular file the path names. -/
theorem handleGet_fileContent (sniff : List UInt8 → String) (hkeep : ∀ id s, ((st.getVolume id).run s).2 = s) {id requested : String} {w : σ × Host}
    {r : ReadFileResponse} (hget : ((handleGet st sniff id requested).run w).1 = ⟨200, .fileContent r⟩) :
    ∃ volumePath fullPath data, ((volumeRoot st id).run w).1 = .ok volumePath ∧
      target volumePath (withSlash (if requested = "" then "/" else requested)) = .ok fullPath ∧
      Os.stat w.2 fullPath = .ok (.file data) ∧
      r = ⟨withSlash (if requested = "" then "/" else requested), data.length,
        detectContentType sniff fullPath data, contentString data, isTextContent data⟩ := by
  obtain ⟨s, h⟩ := w
  obtain ⟨v, hv⟩ := volumeRoot_reads st hkeep id s
  simp only [handleGet, bind_eq, pure_eq, run_bind, hv] at hget
  cases v with
  | error r' =>
    obtain ⟨n, e, m, rfl, -⟩ := volumeRoot_error st (by rw [hv h])
    cases hget
  | ok volumePath =>
  simp only at hget
  cases ht : target volumePath (withSlash (if requested = "" then "/" else requested)) with
  | error r' => simp [ht, target_error ht, errorResponse] at hget
  | ok fullPath =>
  simp only [ht, run_bind, run_look] at hget
  rcases hs : Os.stat h fullPath with e | (⟨⟩ | data)
  · simp only [hs] at hget
    split_ifs at hget <;> simp [errorResponse] at hget
  · simp only [hs, listDirectory, bind_eq, run_bind, run_look] at hget
    split at hget <;> simp [errorResponse] at hget
  · simp only [hs, readFile, bind_eq, pure_eq, run_bind, run_look, Os.readFile_of_stat hs, run_done,
      Response.mk.injEq, Body.fileContent.injEq, true_and] at hget
    exact ⟨volumePath, fullPath, data, by rw [hv], ht, hs, hget.symm⟩

/-- Whatever a `PUT` answered `201` wrote, a `GET` of the same path then answers: the bytes of the
content it was given, as text or in base64. -/
theorem handleGet_after_put (sniff : List UInt8 → String) (hkeep : ∀ id s, ((st.getVolume id).run s).2 = s) {id requested : String}
    {body : JsonObject} {w : σ × Host} (h201 : ((handlePut st id requested body).run w).1.status = 201) :
    ∃ req volumePath fullPath, bindWriteFileRequest body = .ok req ∧
      ((volumeRoot st id).run w).1 = .ok volumePath ∧
      target volumePath (withSlash requested) = .ok fullPath ∧
      ((handleGet st sniff id requested).run ((handlePut st id requested body).run w).2).1 =
        ⟨200, .fileContent ⟨withSlash requested, (contentBytes req.content).length,
          detectContentType sniff fullPath (contentBytes req.content),
          contentString (contentBytes req.content), isTextContent (contentBytes req.content)⟩⟩ := by
  obtain ⟨req, volumePath, fullPath, h₁, h₂, hne, hreq, hroot, ht, -, hw, hstate⟩ :=
    handlePut_created st hkeep h201
  obtain ⟨v, hv⟩ := volumeRoot_reads st hkeep id w.1
  refine ⟨req, volumePath, fullPath, hreq, hroot, ht, ?_⟩
  rw [hstate]
  refine handleGet_file st sniff hkeep (fun e => hne (.inl e)) ?_ ht (Os.stat_of_writeFile hw)
  rw [hv, ← hroot, hv]

/-- On the host holding the bytes 0, 1, 2 under docs/a.bin of vol-1: the PUT of their base64 text
answers 201, and GET answers the same content, from the same request and path. -/
theorem handleGet_after_put_binary :
    (∀ id s, ((MemoryStore.store.getVolume id).run s).2 = s) ∧
      ((handlePut MemoryStore.store "vol-1" "docs/a.bin" [("content", .str "AAEC")]).run
        (dataStore, binaryHost)).1.status = 201 ∧
      ∃ req volumePath fullPath, bindWriteFileRequest [("content", .str "AAEC")] = .ok req ∧
        ((volumeRoot MemoryStore.store "vol-1").run (dataStore, binaryHost)).1 = .ok volumePath ∧
        target volumePath (withSlash "docs/a.bin") = .ok fullPath ∧
        ((handleGet MemoryStore.store (fun _ => "") "vol-1" "docs/a.bin").run
          ((handlePut MemoryStore.store "vol-1" "docs/a.bin" [("content", .str "AAEC")]).run
            (dataStore, binaryHost)).2).1 =
          ⟨200, .fileContent ⟨withSlash "docs/a.bin", (contentBytes req.content).length,
            detectContentType (fun _ => "") fullPath (contentBytes req.content),
            contentString (contentBytes req.content), isTextContent (contentBytes req.content)⟩⟩ :=
  have h201 : ((handlePut MemoryStore.store "vol-1" "docs/a.bin" [("content", .str "AAEC")]).run
      (dataStore, binaryHost)).1.status = 201 := by
    unfold handlePut Os.mkdirAll
    decide
  ⟨fun _ _ => rfl, h201, handleGet_after_put MemoryStore.store (fun _ => "") (fun _ _ => rfl) h201⟩

/-- Binding a body whose only member is content gives that content and no mode. -/
theorem bindWriteFileRequest_content (c : String) :
    bindWriteFileRequest [("content", .str c)] = .ok ⟨c, ""⟩ := rfl

/-- A file whose bytes are not text, downloaded by a `GET` and uploaded back by a `PUT` of the
content it answered, is answered the same by the next `GET`: its bytes are unchanged. -/
theorem binary_file_round_trip (sniff : List UInt8 → String) (hkeep : ∀ id s, ((st.getVolume id).run s).2 = s)
    {id requested : String} {w : σ × Host} {r : ReadFileResponse}
    (hget : ((handleGet st sniff id requested).run w).1 = ⟨200, .fileContent r⟩)
    (hbin : r.isText = false)
    (h201 : ((handlePut st id requested [("content", .str r.content)]).run w).1.status = 201) :
    ((handleGet st sniff id requested).run
      ((handlePut st id requested [("content", .str r.content)]).run w).2).1 = ⟨200, .fileContent r⟩ := by
  obtain ⟨volumePath, fullPath, data, hroot, ht, -, rfl⟩ := handleGet_fileContent st sniff hkeep hget
  obtain ⟨req, vp, fp, h₁, h₂, hne, hreq, hroot', ht', -, hw, hstate⟩ := handlePut_created st hkeep h201
  obtain rfl : req = ⟨contentString data, ""⟩ :=
    Except.ok.inj (hreq.symm.trans (bindWriteFileRequest_content _))
  obtain rfl : vp = volumePath := Except.ok.inj (hroot'.symm.trans hroot)
  rw [if_neg fun e => hne (.inl e)] at ht ⊢
  obtain rfl : fp = fullPath := Except.ok.inj (ht'.symm.trans ht)
  obtain ⟨v, hv⟩ := volumeRoot_reads st hkeep id w.1
  rw [hstate, handleGet_file st sniff hkeep (fun e => hne (.inl e)) (by rw [hv, ← hroot, hv]) ht (Os.stat_of_writeFile hw),
    contentBytes_contentString hbin]

/-- What a `GET` of `docs/a.bin` on `binaryHost` answers, with no content sniffed. -/
def binaryAnswer : ReadFileResponse := ⟨"/docs/a.bin", 3, "", "AAEC", false⟩

/-- The binary file docs/a.bin reads as base64, not text; writing back the content read answers 201
and leaves the same answer to a second GET. -/
theorem binary_file_round_trip_docs :
    (∀ id s, ((MemoryStore.store.getVolume id).run s).2 = s) ∧
      ((handleGet MemoryStore.store (fun _ => "") "vol-1" "docs/a.bin").run (dataStore, binaryHost)).1 =
        ⟨200, .fileContent binaryAnswer⟩ ∧ binaryAnswer.isText = false ∧
      ((handlePut MemoryStore.store "vol-1" "docs/a.bin" [("content", .str binaryAnswer.content)]).run
        (dataStore, binaryHost)).1.status = 201 ∧
      ((handleGet MemoryStore.store (fun _ => "") "vol-1" "docs/a.bin").run
        ((handlePut MemoryStore.store "vol-1" "docs/a.bin" [("content", .str binaryAnswer.content)]).run
          (dataStore, binaryHost)).2).1 = ⟨200, .fileContent binaryAnswer⟩ :=
  have hget : ((handleGet MemoryStore.store (fun _ => "") "vol-1" "docs/a.bin").run
      (dataStore, binaryHost)).1 = ⟨200, .fileContent binaryAnswer⟩ := rfl
  have h201 : ((handlePut MemoryStore.store "vol-1" "docs/a.bin"
      [("content", .str binaryAnswer.content)]).run (dataStore, binaryHost)).1.status = 201 := by
    unfold handlePut Os.mkdirAll
    decide
  ⟨fun _ _ => rfl, hget, rfl, h201,
    binary_file_round_trip MemoryStore.store _ (fun _ _ => rfl) hget rfl h201⟩

/-- A `DELETE` answered `200` found the volume, passed the check, found the path and removed it
with what was under it; it changed the host only. -/
theorem handleDelete_deleted (hkeep : ∀ id s, ((st.getVolume id).run s).2 = s) {id requested : String}
    {w : σ × Host} (h200 : ((handleDelete st id requested).run w).1.status = 200) :
    ∃ volumePath fullPath n h', ¬(requested = "" ∨ requested = "/") ∧
      ((volumeRoot st id).run w).1 = .ok volumePath ∧
      target volumePath (withSlash requested) = .ok fullPath ∧ Os.stat w.2 fullPath = .ok n ∧
      Os.removeAll w.2 fullPath = (.ok (), h') ∧ ((handleDelete st id requested).run w).2 = (w.1, h') := by
  obtain ⟨s, h⟩ := w
  obtain ⟨v, hroot⟩ := volumeRoot_reads st hkeep id s
  simp only [handleDelete, bind_eq, pure_eq] at h200 ⊢
  split_ifs at h200 ⊢ with hr
  · simp at h200
  simp only [run_bind, hroot] at h200 ⊢
  cases v with
  | error r =>
    obtain ⟨n, e, m, rfl, hn⟩ := volumeRoot_error st (by rw [hroot h])
    simp only [run_done, errorResponse_status] at h200
    omega
  | ok volumePath =>
  simp only at h200 ⊢
  cases ht : target volumePath (withSlash requested) with
  | error r => simp [ht, target_error ht] at h200
  | ok fullPath =>
  simp only [ht, run_bind, run_look] at h200 ⊢
  rcases hs : Os.stat h fullPath with e | n
  · simp only [hs] at h200
    split_ifs at h200 <;> simp at h200
  rcases hrm : Os.removeAll h fullPath with ⟨_ | ⟨⟩, h'⟩
  · simp [hs, hrm, run_bind] at h200
  exact ⟨volumePath, fullPath, n, h', hr, rfl, ht, hs, hrm,
    by simp [hs, hrm, run_bind]⟩

/-- A `GET` of a path where nothing is answers `404`. -/
theorem handleGet_missing (sniff : List UInt8 → String) (hkeep : ∀ id s, ((st.getVolume id).run s).2 = s)
    {id requested volumePath fullPath : String} {w : σ × Host} {e : PathError} (hreq : requested ≠ "")
    (hroot : ((volumeRoot st id).run w).1 = .ok volumePath)
    (ht : target volumePath (withSlash requested) = .ok fullPath) (hs : Os.stat w.2 fullPath = .error e)
    (he : e.err = .noent) :
    ((handleGet st sniff id requested).run w).1 = errorResponse 404 "not_found" "Path not found" := by
  obtain ⟨s, h⟩ := w
  obtain ⟨v, hv⟩ := volumeRoot_reads st hkeep id s
  rw [hv] at hroot
  subst hroot
  simp only [handleGet, bind_eq, pure_eq, if_neg hreq, run_bind, hv, ht, run_look, hs, if_pos he, run_done]

/-- The path a check passed is the volume root joined with the requested path. -/
theorem target_ok {volumePath requestedPath fullPath : String}
    (ht : target volumePath requestedPath = .ok fullPath) :
    fullPath = FilePath.join volumePath requestedPath := by
  unfold target at ht
  split_ifs at ht
  exact (Except.ok.inj ht).symm

/-- A path the check passed and `RemoveAll` removed has no `.` element: it is a joined path, and
`RemoveAll` refuses `.` itself. -/
theorem dot_not_mem_of_removeAll {volumePath requestedPath fullPath : String} {h h' : Host}
    (ht : target volumePath requestedPath = .ok fullPath) (hrm : Os.removeAll h fullPath = (.ok (), h')) :
    "." ∉ Host.names fullPath := fun hm => by
  rcases target_ok ht ▸ FilePath.join_elements volumePath requestedPath with hj | hj
  · exact Os.removeAll_ne_dot hrm hj
  · exact hj _ (List.mem_filter.1 hm).1 rfl

/-- What a `RemoveAll` that succeeded on a path the check passed removed, `Stat` no longer finds. -/
theorem stat_of_removeAll_target {volumePath requestedPath fullPath : String} {h h' : Host} {n : Node}
    (ht : target volumePath requestedPath = .ok fullPath) (hs : Os.stat h fullPath = .ok n)
    (hrm : Os.removeAll h fullPath = (.ok (), h')) :
    Os.stat h' fullPath = .error ⟨"stat", fullPath, .noent⟩ :=
  Os.stat_of_removeAll (dot_not_mem_of_removeAll ht hrm) hs hrm

/-- After a `DELETE` answered `200`, a `GET` of the same path answers `404`: nothing is left there,
neither the file nor a directory with what was under it. -/
theorem handleGet_after_delete (sniff : List UInt8 → String) (hkeep : ∀ id s, ((st.getVolume id).run s).2 = s)
    {id requested : String} {w : σ × Host} (h200 : ((handleDelete st id requested).run w).1.status = 200) :
    ((handleGet st sniff id requested).run ((handleDelete st id requested).run w).2).1 =
      errorResponse 404 "not_found" "Path not found" := by
  obtain ⟨volumePath, fullPath, n, h', hne, hroot, ht, hs, hrm, hstate⟩ :=
    handleDelete_deleted st hkeep h200
  obtain ⟨v, hv⟩ := volumeRoot_reads st hkeep id w.1
  rw [hstate]
  exact handleGet_missing st sniff hkeep (fun e => hne (.inl e)) (by rw [hv, ← hroot, hv]) ht
    (stat_of_removeAll_target ht hs hrm) rfl

/-- After DELETE of the directory docs answers 200, GET of it answers 404. -/
theorem handleGet_after_delete_docs :
    (∀ id s, ((MemoryStore.store.getVolume id).run s).2 = s) ∧
      ((handleDelete MemoryStore.store "vol-1" "docs").run (dataStore, binaryHost)).1.status = 200 ∧
      ((handleGet MemoryStore.store (fun _ => "") "vol-1" "docs").run
        ((handleDelete MemoryStore.store "vol-1" "docs").run (dataStore, binaryHost)).2).1 =
        errorResponse 404 "not_found" "Path not found" :=
  have h200 : ((handleDelete MemoryStore.store "vol-1" "docs").run (dataStore, binaryHost)).1.status =
      200 := by decide
  ⟨fun _ _ => rfl, h200, handleGet_after_delete MemoryStore.store _ (fun _ _ => rfl) h200⟩

/-- The check passes for a path below one it passed: the requested path extended past a slash by
elements without `..` leads to the clean extension of the path the check gave. -/
theorem target_append {volumePath requested fullPath rest : String} (hvp : volumePath ≠ "")
    (hreq : requested ≠ "") (ht : target volumePath (withSlash requested) = .ok fullPath)
    (hc : fullPath ≠ ".") (hrest : ".." ∉ (FilePath.splitSlash rest.data).map String.mk) :
    fullPath = FilePath.clean (volumePath ++ "/" ++ withSlash requested) ∧
      target volumePath (withSlash (requested ++ "/" ++ rest)) =
        .ok (FilePath.clean (volumePath ++ "/" ++ withSlash requested ++ "/" ++ rest)) := by
  have hP : volumePath ++ "/" ++ withSlash requested ≠ "" := fun e => by
    simpa using congrArg String.data e
  have hfp := (target_ok ht).trans (FilePath.join_eq_clean hvp (withSlash_ne_empty _))
  have hj : FilePath.join volumePath (withSlash (requested ++ "/" ++ rest)) =
      FilePath.clean (volumePath ++ "/" ++ withSlash requested ++ "/" ++ rest) := by
    rw [withSlash_append hreq, FilePath.join_eq_clean hvp (withSlash_append hreq rest ▸ withSlash_ne_empty _)]
    simp only [String.append_assoc]
  refine ⟨hfp, ?_⟩
  have hjP := (target_ok ht).symm.trans hfp
  unfold target at ht ⊢
  split_ifs at ht with hpre
  rw [hj, if_pos]
  rw [hjP, List.isPrefixOf_iff_prefix] at hpre
  exact List.isPrefixOf_iff_prefix.2 (hpre.trans (FilePath.clean_prefix_append hP (hfp ▸ hc) hrest))

/-- After a `DELETE` answered `200`, a `GET` of any path below the one deleted, extended by elements
without `..`, answers `404`: `RemoveAll` took the entry with everything under it. -/
theorem handleGet_below_delete (sniff : List UInt8 → String) (hkeep : ∀ id s, ((st.getVolume id).run s).2 = s)
    {id requested rest : String} (hrest : ".." ∉ (FilePath.splitSlash rest.data).map String.mk)
    {w : σ × Host} (h200 : ((handleDelete st id requested).run w).1.status = 200) :
    ((handleGet st sniff id (requested ++ "/" ++ rest)).run ((handleDelete st id requested).run w).2).1 =
      errorResponse 404 "not_found" "Path not found" := by
  obtain ⟨volumePath, fullPath, n, h', hne, hroot, ht, hs, hrm, hstate⟩ :=
    handleDelete_deleted st hkeep h200
  obtain ⟨v, hv⟩ := volumeRoot_reads st hkeep id w.1
  have hP : volumePath ++ "/" ++ withSlash requested ≠ "" := fun e => by
    simpa using congrArg String.data e
  obtain ⟨hfp, ht'⟩ := target_append (volumeRoot_ne_empty st hroot) (fun e => hne (.inl e)) ht
    (Os.removeAll_ne_dot hrm) hrest
  have hc := hfp ▸ Os.removeAll_ne_dot hrm
  -- nothing is left there: the same path when `rest` adds no element, one below it otherwise
  have hgone : Os.stat h' (FilePath.clean (volumePath ++ "/" ++ withSlash requested ++ "/" ++ rest)) =
      .error ⟨"stat", FilePath.clean (volumePath ++ "/" ++ withSlash requested ++ "/" ++ rest), .noent⟩ := by
    by_cases hm : FilePath.plainElements rest = []
    · have hsame : FilePath.clean (volumePath ++ "/" ++ withSlash requested ++ "/" ++ rest) = fullPath :=
        String.ext (by rw [FilePath.clean_append hP hc hrest, if_pos hm, hfp])
      rw [hsame]
      exact stat_of_removeAll_target ht hs hrm
    · have hdot := dot_not_mem_of_removeAll ht hrm
      rw [hfp] at hs hrm hdot
      exact Os.stat_below_removeAll hdot hs hrm (FilePath.isAbs_clean_append hP hc hrest) hm
        (Host.names_clean_append hP hc hrest)
  rw [hstate]
  exact handleGet_missing st sniff hkeep (fun e => by simpa using congrArg String.data e)
    (by rw [hv, ← hroot, hv]) ht' hgone rfl

/-- After DELETE of the directory docs answers 200, GET of a file below it answers 404. -/
theorem handleGet_below_delete_docs :
    (∀ id s, ((MemoryStore.store.getVolume id).run s).2 = s) ∧
      ".." ∉ (FilePath.splitSlash "a.bin".data).map String.mk ∧
      ((handleDelete MemoryStore.store "vol-1" "docs").run (dataStore, binaryHost)).1.status = 200 ∧
      ((handleGet MemoryStore.store (fun _ => "") "vol-1" ("docs" ++ "/" ++ "a.bin")).run
        ((handleDelete MemoryStore.store "vol-1" "docs").run (dataStore, binaryHost)).2).1 =
        errorResponse 404 "not_found" "Path not found" :=
  have h200 : ((handleDelete MemoryStore.store "vol-1" "docs").run (dataStore, binaryHost)).1.status =
      200 := by decide
  have hrest : ".." ∉ (FilePath.splitSlash "a.bin".data).map String.mk := by decide
  ⟨fun _ _ => rfl, hrest, h200,
    handleGet_below_delete MemoryStore.store _ (fun _ _ => rfl) hrest h200⟩

/-- A `DELETE` of a path where nothing is answers `404` and changes nothing. -/
theorem run_handleDelete_missing {id requested volumePath fullPath : String} {s : σ} {h : Host}
    {e : PathError} (hne : ¬(requested = "" ∨ requested = "/"))
    (hroot : ∀ h, (volumeRoot st id).run (s, h) = (.ok volumePath, (s, h)))
    (ht : target volumePath (withSlash requested) = .ok fullPath) (hs : Os.stat h fullPath = .error e)
    (he : e.err = .noent) :
    (handleDelete st id requested).run (s, h) =
      (errorResponse 404 "not_found" "File or directory not found", (s, h)) := by
  simp only [handleDelete, bind_eq, pure_eq, if_neg hne, run_bind, hroot, ht, run_look, hs, if_pos he,
    run_done]

/-- A `DELETE` answered `200`, sent again, answers `404` and changes nothing. -/
theorem handleDelete_again (hkeep : ∀ id s, ((st.getVolume id).run s).2 = s) {id requested : String}
    {w : σ × Host} (h200 : ((handleDelete st id requested).run w).1.status = 200) :
    (handleDelete st id requested).run ((handleDelete st id requested).run w).2 =
      (errorResponse 404 "not_found" "File or directory not found", ((handleDelete st id requested).run w).2) := by
  obtain ⟨volumePath, fullPath, n, h', hne, hroot, ht, hs, hrm, hstate⟩ :=
    handleDelete_deleted st hkeep h200
  obtain ⟨v, hv⟩ := volumeRoot_reads st hkeep id w.1
  obtain rfl : v = .ok volumePath := (congrArg Prod.fst (hv w.2)).symm.trans hroot
  rw [hstate]
  exact run_handleDelete_missing st hne hv ht (stat_of_removeAll_target ht hs hrm) rfl

/-- A second DELETE of docs answers 404 and changes nothing. -/
theorem handleDelete_again_docs :
    (∀ id s, ((MemoryStore.store.getVolume id).run s).2 = s) ∧
      ((handleDelete MemoryStore.store "vol-1" "docs").run (dataStore, binaryHost)).1.status = 200 ∧
      (handleDelete MemoryStore.store "vol-1" "docs").run
        ((handleDelete MemoryStore.store "vol-1" "docs").run (dataStore, binaryHost)).2 =
        (errorResponse 404 "not_found" "File or directory not found",
          ((handleDelete MemoryStore.store "vol-1" "docs").run (dataStore, binaryHost)).2) :=
  have h200 : ((handleDelete MemoryStore.store "vol-1" "docs").run (dataStore, binaryHost)).1.status =
      200 := by decide
  ⟨fun _ _ => rfl, h200, handleDelete_again MemoryStore.store (fun _ _ => rfl) h200⟩

/-- A `PUT` that finds its volume, passes the check, makes the parent directory and writes the
bytes answers `201` with the file's name and path, and changes the host only. -/
theorem run_handlePut_written {id requested volumePath fullPath : String} {body : JsonObject}
    {req : WriteFileRequest} {s : σ} {h h₁ h₂ : Host} (hne : ¬(requested = "" ∨ requested = "/"))
    (hreq : bindWriteFileRequest body = .ok req)
    (hroot : ∀ h, (volumeRoot st id).run (s, h) = (.ok volumePath, (s, h)))
    (ht : target volumePath (withSlash requested) = .ok fullPath)
    (hm : Os.mkdirAll h (FilePath.dir fullPath).data = (.ok (), h₁))
    (hw : Os.writeFile h₁ fullPath (contentBytes req.content) = (.ok (), h₂)) :
    (handlePut st id requested body).run (s, h) =
      (⟨201, .fileInfo ⟨FilePath.base (withSlash requested), withSlash requested, false⟩⟩, (s, h₂)) := by
  simp only [handlePut, bind_eq, pure_eq, if_neg hne, hreq, run_bind, hroot, ht, run_host, hm, hw,
    run_done]

/-- A `PUT` answered `201`, sent again, answers the same and changes nothing: the parent directory
is there, and the file already holds the bytes. -/
theorem handlePut_again (hkeep : ∀ id s, ((st.getVolume id).run s).2 = s) {id requested : String}
    {body : JsonObject} {w : σ × Host} (h201 : ((handlePut st id requested body).run w).1.status = 201) :
    (handlePut st id requested body).run ((handlePut st id requested body).run w).2 =
      (handlePut st id requested body).run w := by
  obtain ⟨req, volumePath, fullPath, h₁, h₂, hne, hreq, hroot, ht, hm, hw, -⟩ :=
    handlePut_created st hkeep h201
  obtain ⟨s, h⟩ := w
  obtain ⟨v, hv⟩ := volumeRoot_reads st hkeep id s
  obtain rfl : v = .ok volumePath := (congrArg Prod.fst (hv h)).symm.trans hroot
  have hdir : h₂.stat (FilePath.dir fullPath) = .ok .dir :=
    Host.stat_of_dirsKept (Os.writeFile_ok hw) (Os.mkdirAll_ok hm).2
  rw [run_handlePut_written st hne hreq hv ht hm hw,
    run_handlePut_written st hne hreq hv ht (Os.mkdirAll_of_dir hdir) (Os.writeFile_again hw)]

/-- A second identical PUT of docs/a.bin answers as the first and leaves the host as the first left it. -/
theorem handlePut_again_docs :
    (∀ id s, ((MemoryStore.store.getVolume id).run s).2 = s) ∧
      ((handlePut MemoryStore.store "vol-1" "docs/a.bin" [("content", .str "AAEC")]).run
        (dataStore, binaryHost)).1.status = 201 ∧
      (handlePut MemoryStore.store "vol-1" "docs/a.bin" [("content", .str "AAEC")]).run
        ((handlePut MemoryStore.store "vol-1" "docs/a.bin" [("content", .str "AAEC")]).run
          (dataStore, binaryHost)).2 =
        (handlePut MemoryStore.store "vol-1" "docs/a.bin" [("content", .str "AAEC")]).run
          (dataStore, binaryHost) :=
  have h201 : ((handlePut MemoryStore.store "vol-1" "docs/a.bin" [("content", .str "AAEC")]).run
      (dataStore, binaryHost)).1.status = 201 := by
    unfold handlePut Os.mkdirAll
    decide
  ⟨fun _ _ => rfl, h201, handlePut_again MemoryStore.store (fun _ _ => rfl) h201⟩

end FileHandler

end VolumeManager
