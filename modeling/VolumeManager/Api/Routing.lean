import VolumeManager.Api.Manager

/-!
# The router answers the route table

`dispatch` takes the first route of the table whose method is the request's and whose pattern
matches its path. Every pattern of the table is one literal path, or `/api/v1/volumes/:id`
followed by nothing, `/stage`, `/publish` or `/files/*`; what follows the ID starts with a
different character in each, so no path matches two patterns and the first match is the only one.

* `patterns_disjoint`: two patterns of the table that match one path are the same pattern.
* `dispatch_found_iff`: a request is routed to `r` with parameters `ps` iff the table lists `r`
  under the request's method with a pattern that binds `ps` on its path.
* `dispatch_notFound_iff`, `dispatch_methodNotAllowed_iff`: `404` iff no pattern matches the path,
  `405` iff one does but none under the request's method.
* `matchPattern_volumePattern`: on `/api/v1/volumes/<id>` followed by a rest that is empty or
  starts with `/`, the ID pattern binds `id` and matches the rest.
* `volume_routes_reach_handlers`: for every ID that is not empty and has no `/`, and every file
  path, `serve` runs each volume route's handler on that ID (and path).
* `serve_found_after_create`, `serve_gone_after_delete`: on a store that keeps `Store.Laws`, a
  volume created over HTTP is found at its path, and one deleted answers `404` there.
* `serve_listed_after_create`: on such a store, a volume created under a fresh UUID is listed by
  `GET /api/v1/volumes`.
-/

namespace VolumeManager

deriving instance DecidableEq for Segment

/-- The patterns under `/api/v1/volumes/:id`, by what follows the ID. -/
def volumePattern (tail : List Segment) : List Segment :=
  .lit "/api/v1/volumes/" :: .param "id" :: tail

/-- What follows the ID in the table's patterns under `/api/v1/volumes/:id`. -/
def volumeTails : List (List Segment) :=
  [[], [.lit "/stage"], [.lit "/publish"], [.lit "/files/", .any]]

/-- The table's patterns that are one literal path. -/
def staticPaths : List String := ["/health", "/ready", "/api/v1/volumes", "/api/v1/backends"]

/-- Every route's pattern is one literal path or the volume prefix with one of the volume tails. -/
theorem routes_shape {ρ : String × List Segment × Route} (h : ρ ∈ routes) :
    (∃ s ∈ staticPaths, ρ.2.1 = [.lit s]) ∨ ∃ tail ∈ volumeTails, ρ.2.1 = volumePattern tail := by
  simp only [routes, List.mem_cons, List.mem_singleton, List.not_mem_nil, or_false] at h
  rcases h with rfl | rfl | rfl | rfl | rfl | rfl | rfl | rfl | rfl | rfl | rfl | rfl <;>
    simp [staticPaths, volumeTails, volumePattern]

/-- No method lists one pattern twice. -/
theorem routes_method_pattern_unique :
    ∀ ρ₁ ∈ routes, ∀ ρ₂ ∈ routes, ρ₁.1 = ρ₂.1 → ρ₁.2.1 = ρ₂.2.1 → ρ₁.2.2 = ρ₂.2.2 := by
  decide

/-- No route of the table is for `OPTIONS`, which the CORS middleware answers. -/
theorem routes_not_options : ∀ ρ ∈ routes, ρ.1 ≠ "OPTIONS" := by
  decide

/-! ## Matching one segment -/

/-- The empty pattern matches exactly the empty path. -/
@[simp] theorem matchPattern_nil_isSome {cs : List Char} : (matchPattern [] cs).isSome ↔ cs = [] := by
  cases cs <;> simp [matchPattern]

/-- A literal segment matches when the path starts with it and the rest of the pattern matches what
follows. -/
theorem matchPattern_lit_isSome {s : String} {ps : List Segment} {cs : List Char} :
    (matchPattern (.lit s :: ps) cs).isSome ↔
      s.data <+: cs ∧ (matchPattern ps (cs.drop s.data.length)).isSome := by
  simp only [matchPattern, ← List.isPrefixOf_iff_prefix]
  split_ifs with h <;> simp [h]

/-- A path matches a one-literal pattern iff it is that literal. -/
theorem matchPattern_static_isSome {s : String} {cs : List Char} :
    (matchPattern [.lit s] cs).isSome ↔ cs = s.data := by
  rw [matchPattern_lit_isSome, matchPattern_nil_isSome]
  constructor
  · rintro ⟨⟨t, rfl⟩, ht⟩
    simpa using ht
  · rintro rfl
    simp

/-- A parameter that matches leaves the rest of the pattern matching from the next slash on. -/
theorem matchPattern_param_isSome {n : String} {ps : List Segment} {cs : List Char}
    (h : (matchPattern (.param n :: ps) cs).isSome) :
    (matchPattern ps (cs.drop (cs.takeWhile (· ≠ '/')).length)).isSome := by
  simp only [matchPattern] at h
  rwa [Option.isSome_map'] at h

/-- A path an ID pattern matches starts with `/api/v1/volumes/`, and the rest after the ID matches
the pattern's tail. -/
theorem matchPattern_volumePattern_isSome {tail : List Segment} {cs : List Char}
    (h : (matchPattern (volumePattern tail) cs).isSome) :
    "/api/v1/volumes/".data <+: cs ∧
      (matchPattern tail ((cs.drop "/api/v1/volumes/".data.length).drop
        ((cs.drop "/api/v1/volumes/".data.length).takeWhile (· ≠ '/')).length)).isSome := by
  rw [volumePattern, matchPattern_lit_isSome] at h
  exact ⟨h.1, matchPattern_param_isSome h.2⟩

/-! ## No path matches two patterns -/

/-- No path matches two different volume tails. -/
theorem volumeTails_disjoint {t₁ t₂ : List Segment} (h₁ : t₁ ∈ volumeTails) (h₂ : t₂ ∈ volumeTails)
    {u : List Char} (m₁ : (matchPattern t₁ u).isSome) (m₂ : (matchPattern t₂ u).isSome) :
    t₁ = t₂ := by
  simp only [volumeTails, List.mem_cons, List.mem_singleton, List.not_mem_nil, or_false] at h₁ h₂
  rcases h₁ with rfl | rfl | rfl | rfl <;> rcases h₂ with rfl | rfl | rfl | rfl <;>
    simp only [matchPattern_nil_isSome, matchPattern_lit_isSome] at m₁ m₂ <;>
    first
    | rfl
    | (subst m₁; exact absurd m₂.1 (by decide))
    | (subst m₂; exact absurd m₁.1 (by decide))
    | exact absurd (List.prefix_or_prefix_of_prefix m₁.1 m₂.1) (by decide)

/-- Two patterns of the table that match one path are the same pattern. -/
theorem patterns_disjoint {ρ₁ ρ₂ : String × List Segment × Route} (h₁ : ρ₁ ∈ routes)
    (h₂ : ρ₂ ∈ routes) {cs : List Char} (m₁ : (matchPattern ρ₁.2.1 cs).isSome)
    (m₂ : (matchPattern ρ₂.2.1 cs).isSome) : ρ₁.2.1 = ρ₂.2.1 := by
  have hstatic : ∀ s ∈ staticPaths, ¬ "/api/v1/volumes/".data <+: s.data := by decide
  rcases routes_shape h₁ with ⟨s₁, hs₁, e₁⟩ | ⟨t₁, ht₁, e₁⟩ <;>
    rcases routes_shape h₂ with ⟨s₂, hs₂, e₂⟩ | ⟨t₂, ht₂, e₂⟩ <;> rw [e₁, e₂] <;> rw [e₁] at m₁ <;>
    rw [e₂] at m₂
  · rw [matchPattern_static_isSome] at m₁ m₂
    rw [String.ext_iff.2 (m₁.symm.trans m₂)]
  · rw [matchPattern_static_isSome] at m₁
    exact absurd (m₁ ▸ (matchPattern_volumePattern_isSome m₂).1) (hstatic s₁ hs₁)
  · rw [matchPattern_static_isSome] at m₂
    exact absurd (m₂ ▸ (matchPattern_volumePattern_isSome m₁).1) (hstatic s₂ hs₂)
  · rw [volumeTails_disjoint ht₁ ht₂ (matchPattern_volumePattern_isSome m₁).2
      (matchPattern_volumePattern_isSome m₂).2]

/-! ## The first match is the only one -/

/-- The routes `dispatch` collects for a request: every route of its method whose pattern
matches, with the parameters bound. -/
theorem mem_dispatch_candidates {method path : String} {r : Route} {ps : List (String × String)} :
    (r, ps) ∈ routes.filterMap (fun ρ =>
        if ρ.1 = method then (matchPattern ρ.2.1 path.data).map fun ps => (ρ.2.2, ps) else none) ↔
      ∃ pat, (method, pat, r) ∈ routes ∧ matchPattern pat path.data = some ps := by
  simp only [List.mem_filterMap]
  constructor
  · rintro ⟨⟨m, pat, r'⟩, hmem, h⟩
    split_ifs at h with hm
    obtain ⟨ps', hps, he⟩ := Option.map_eq_some'.1 h
    cases he
    exact ⟨pat, hm ▸ hmem, hps⟩
  · rintro ⟨pat, hmem, hps⟩
    exact ⟨(method, pat, r), hmem, by simp [hps]⟩

/-- All routes `dispatch` collects for a request are one route with one binding. -/
theorem dispatch_candidates_unique {method path : String} {x y : Route × List (String × String)}
    (hx : x ∈ routes.filterMap (fun ρ =>
        if ρ.1 = method then (matchPattern ρ.2.1 path.data).map fun ps => (ρ.2.2, ps) else none))
    (hy : y ∈ routes.filterMap (fun ρ =>
        if ρ.1 = method then (matchPattern ρ.2.1 path.data).map fun ps => (ρ.2.2, ps) else none)) :
    x = y := by
  obtain ⟨p₁, h₁, m₁⟩ := mem_dispatch_candidates.1 hx
  obtain ⟨p₂, h₂, m₂⟩ := mem_dispatch_candidates.1 hy
  have hp : p₁ = p₂ := patterns_disjoint h₁ h₂
    (Option.isSome_iff_exists.2 ⟨_, m₁⟩) (Option.isSome_iff_exists.2 ⟨_, m₂⟩)
  subst hp
  have hr := routes_method_pattern_unique _ h₁ _ h₂ rfl rfl
  exact Prod.ext hr (Option.some.inj (m₁.symm.trans m₂))

/-- A route found by dispatch is a route of the table whose pattern matches the path. -/
theorem mem_of_dispatch_found {method path : String} {r : Route} {ps : List (String × String)}
    (h : dispatch method path = .found r ps) :
    ∃ pat, (method, pat, r) ∈ routes ∧ matchPattern pat path.data = some ps := by
  unfold dispatch at h
  split at h
  · next r' ps' tl heq =>
    cases h
    have hfirst : (r, ps) ∈ (r, ps) :: tl := List.mem_cons_self _ _
    rw [← heq] at hfirst
    exact mem_dispatch_candidates.1 hfirst
  · split_ifs at h

/-- A request the router sends to a route is not a preflight: no route is for `OPTIONS`. -/
theorem ne_options_of_dispatch_found {method path : String} {r : Route} {ps : List (String × String)}
    (h : dispatch method path = .found r ps) : method ≠ "OPTIONS" := by
  obtain ⟨pat, hmem, -⟩ := mem_of_dispatch_found h
  exact routes_not_options _ hmem

/-- A route of the table whose pattern matches the path is the one dispatch finds. -/
theorem dispatch_found_of_mem {method path : String} {r : Route} {ps : List (String × String)}
    {pat : List Segment} (hmem : (method, pat, r) ∈ routes) (hps : matchPattern pat path.data = some ps) :
    dispatch method path = .found r ps := by
  have hc := mem_dispatch_candidates.2 ⟨pat, hmem, hps⟩
  unfold dispatch
  split
  · next r' ps' tl heq =>
    have hfirst : (r', ps') ∈ (r', ps') :: tl := List.mem_cons_self _ _
    rw [← heq] at hfirst
    cases dispatch_candidates_unique hfirst hc
    rfl
  · next heq => simp [heq] at hc

/-- A request is answered `404 Not Found` iff no pattern of the table matches its path. -/
theorem dispatch_notFound_iff {method path : String} :
    dispatch method path = .notFound ↔ ∀ ρ ∈ routes, matchPattern ρ.2.1 path.data = none := by
  unfold dispatch
  split
  · next r ps tl heq =>
    simp only [reduceCtorEq, false_iff, not_forall]
    have hfirst : (r, ps) ∈ (r, ps) :: tl := List.mem_cons_self _ _
    rw [← heq] at hfirst
    obtain ⟨pat, hmem, hps⟩ := mem_dispatch_candidates.1 hfirst
    exact ⟨_, hmem, by simp [hps]⟩
  · split_ifs with h
    · simp only [reduceCtorEq, false_iff, not_forall]
      obtain ⟨ρ, hρ, hs⟩ := List.any_eq_true.1 h
      exact ⟨ρ, hρ, by simpa [Option.isSome_iff_ne_none] using hs⟩
    · simp only [true_iff]
      intro ρ hρ
      simpa [Option.isSome_iff_ne_none] using fun hs => h (List.any_eq_true.2 ⟨ρ, hρ, hs⟩)

/-- A request is answered `405 Method Not Allowed` iff some pattern of the table matches its path
but none listed under its method does. -/
theorem dispatch_methodNotAllowed_iff {method path : String} :
    dispatch method path = .methodNotAllowed ↔
      (∃ ρ ∈ routes, (matchPattern ρ.2.1 path.data).isSome) ∧
        ∀ ρ ∈ routes, ρ.1 = method → matchPattern ρ.2.1 path.data = none := by
  unfold dispatch
  split
  · next r ps tl heq =>
    simp only [reduceCtorEq, false_iff, not_and, not_forall]
    have hfirst : (r, ps) ∈ (r, ps) :: tl := List.mem_cons_self _ _
    rw [← heq] at hfirst
    obtain ⟨pat, hmem, hps⟩ := mem_dispatch_candidates.1 hfirst
    exact fun _ => ⟨_, hmem, rfl, by simp [hps]⟩
  · next heq =>
    have hnone : ∀ ρ ∈ routes, ρ.1 = method → matchPattern ρ.2.1 path.data = none := by
      rintro ⟨m, pat, r⟩ hρ rfl
      cases hps : matchPattern pat path.data with
      | none => rfl
      | some ps =>
        have := mem_dispatch_candidates.2 ⟨pat, hρ, hps⟩
        simp [heq] at this
    split_ifs with h
    · simp only [true_iff]
      exact ⟨List.any_eq_true.1 h, hnone⟩
    · simp only [reduceCtorEq, false_iff, not_and]
      exact fun ⟨ρ, hρ, hs⟩ => absurd (List.any_eq_true.2 ⟨ρ, hρ, hs⟩) h

/-! ## The volume routes -/

/-- On `/api/v1/volumes/` followed by an ID and a rest that is empty or starts with `/`, the ID
pattern binds the ID and matches the rest against its tail. -/
theorem matchPattern_volumePattern (tail : List Segment) {v t : List Char} (hs : '/' ∉ v) (ht : t = [] ∨ t.head? = some '/') :
    matchPattern (volumePattern tail) ("/api/v1/volumes/".data ++ (v ++ t)) =
      (matchPattern tail t).map (("id", String.mk v) :: ·) := by
  have hw : (v ++ t).takeWhile (· ≠ '/') = v := by
    have hall : ∀ a ∈ v, decide (a ≠ '/') = true := fun a ha => decide_eq_true fun h => hs (h ▸ ha)
    rw [List.takeWhile_append_of_pos hall]
    rcases ht with rfl | ht
    · simp
    · obtain ⟨t', rfl⟩ : ∃ t', t = '/' :: t' := by cases t <;> simp_all
      simp
  simp only [volumePattern, matchPattern, List.isPrefixOf_iff_prefix.2 (List.prefix_append _ _),
    if_true, List.drop_left, hw]

/-- A volume route of the table, on a path built from an ID without `/` (the empty one included, as
echo binds it) and a rest the route's tail binds: the ID, then what the tail binds. -/
theorem dispatch_volume_route {id : String} (hs : '/' ∉ id.data) (m : String)
    (r : Route) (tail : List Segment) (t : List Char) (ps : List (String × String))
    (hr : (m, volumePattern tail, r) ∈ routes) (ht : t = [] ∨ t.head? = some '/')
    (hps : matchPattern tail t = some ps) (path : String)
    (hpath : path.data = ("/api/v1/volumes/" ++ id).data ++ t) :
    dispatch m path = .found r (("id", id) :: ps) := by
  refine dispatch_found_of_mem hr ?_
  rw [hpath, String.data_append, List.append_assoc,
    matchPattern_volumePattern tail hs ht, hps]
  rfl

section serve

variable {σ φ : Type} (cp : ControlPlane σ φ) (body : JsonObject) (env : RequestEnv)

/-- A request that dispatch routes (never an OPTIONS one) is served by the handler of its route, with
the parameters dispatch bound. -/
theorem serve_of_dispatch {method path : String} {r : Route} {ps : List (String × String)} :
    dispatch method path = .found r ps →
    cp.serve ⟨method, path, body⟩ env =
      match r with
      | .health => handleHealth
      | .ready => handleReady
      | .volumeCreate => VolumeHandler.handleCreate cp.store cp.registry body env
      | .volumeList => VolumeHandler.handleList cp.store
      | .volumeGet => VolumeHandler.handleGet cp.store (param ps "id")
      | .volumeDelete => VolumeHandler.handleDelete cp.store (param ps "id")
      | .volumeStage => VolumeHandler.handleStage cp.store cp.registry (param ps "id") body env
      | .volumePublish => VolumeHandler.handlePublish cp.store cp.registry (param ps "id") body env
      | .fileGet => cp.files.handleGet (param ps "id") (param ps "*")
      | .filePut => cp.files.handlePut (param ps "id") (param ps "*") body
      | .fileDelete => cp.files.handleDelete (param ps "id") (param ps "*")
      | .backendList => handleListBackends cp.registry := by
  intro h
  rw [ControlPlane.serve_of_ne cp (ne_options_of_dispatch_found h)]
  cases r <;> simp only [ControlPlane.route, h]

/-- For every volume ID that is not empty and has no `/`, and every file path, each volume route
runs its handler on that ID (and path): the server reads back what the path was built from. -/
theorem volume_routes_reach_handlers (id p : String) (hid : id ≠ "") (hs : '/' ∉ id.data) :
    cp.serve ⟨"GET", "/api/v1/volumes/" ++ id, body⟩ env = VolumeHandler.handleGet cp.store id ∧
      cp.serve ⟨"DELETE", "/api/v1/volumes/" ++ id, body⟩ env =
        VolumeHandler.handleDelete cp.store id ∧
      cp.serve ⟨"POST", "/api/v1/volumes/" ++ id ++ "/stage", body⟩ env =
        VolumeHandler.handleStage cp.store cp.registry id body env ∧
      cp.serve ⟨"POST", "/api/v1/volumes/" ++ id ++ "/publish", body⟩ env =
        VolumeHandler.handlePublish cp.store cp.registry id body env ∧
      cp.serve ⟨"GET", "/api/v1/volumes/" ++ id ++ "/files/" ++ p, body⟩ env =
        cp.files.handleGet id p ∧
      cp.serve ⟨"PUT", "/api/v1/volumes/" ++ id ++ "/files/" ++ p, body⟩ env =
        cp.files.handlePut id p body ∧
      cp.serve ⟨"DELETE", "/api/v1/volumes/" ++ id ++ "/files/" ++ p, body⟩ env =
        cp.files.handleDelete id p := by
  have hroute := dispatch_volume_route hs
  have hfiles : matchPattern [.lit "/files/", .any] ("/files/".data ++ p.data) = some [("*", p)] := by
    simp [matchPattern, List.isPrefixOf_iff_prefix.2 (List.prefix_append _ _)]
  have hslash : ("/files/".data ++ p.data).head? = some '/' :=
    (List.head?_append_of_ne_nil _ (by decide)).trans (by decide)
  have hpath : ("/api/v1/volumes/" ++ id ++ "/files/" ++ p).data =
      ("/api/v1/volumes/" ++ id).data ++ ("/files/".data ++ p.data) := by
    simp only [String.data_append, List.append_assoc]
  refine ⟨?_, ?_, ?_, ?_, ?_, ?_, ?_⟩
  · exact serve_of_dispatch cp body env
      (hroute "GET" .volumeGet [] [] [] (by decide) (.inl rfl) rfl _ (List.append_nil _).symm)
  · exact serve_of_dispatch cp body env
      (hroute "DELETE" .volumeDelete [] [] [] (by decide) (.inl rfl) rfl _ (List.append_nil _).symm)
  · exact serve_of_dispatch cp body env (hroute "POST" .volumeStage [.lit "/stage"] "/stage".data []
      (by decide) (.inr (by decide)) rfl _ (String.data_append _ _))
  · exact serve_of_dispatch cp body env (hroute "POST" .volumePublish [.lit "/publish"]
      "/publish".data [] (by decide) (.inr (by decide)) rfl _ (String.data_append _ _))
  · exact serve_of_dispatch cp body env
      (hroute "GET" .fileGet _ _ _ (by decide) (.inr hslash) hfiles _ hpath)
  · exact serve_of_dispatch cp body env
      (hroute "PUT" .filePut _ _ _ (by decide) (.inr hslash) hfiles _ hpath)
  · exact serve_of_dispatch cp body env
      (hroute "DELETE" .fileDelete _ _ _ (by decide) (.inr hslash) hfiles _ hpath)

/-- The volume routes reach their handlers for vol-1 and the file path data/a.txt. -/
theorem volume_routes_reach_handlers_vol1 :
    "vol-1" ≠ "" ∧ '/' ∉ "vol-1".data ∧
      ControlPlane.demo.serve ⟨"GET", "/api/v1/volumes/" ++ "vol-1", []⟩ ⟨"", 0, 0⟩ =
        VolumeHandler.handleGet ControlPlane.demo.store "vol-1" ∧
      ControlPlane.demo.serve ⟨"DELETE", "/api/v1/volumes/" ++ "vol-1", []⟩ ⟨"", 0, 0⟩ =
        VolumeHandler.handleDelete ControlPlane.demo.store "vol-1" ∧
      ControlPlane.demo.serve ⟨"POST", "/api/v1/volumes/" ++ "vol-1" ++ "/stage", []⟩ ⟨"", 0, 0⟩ =
        VolumeHandler.handleStage ControlPlane.demo.store ControlPlane.demo.registry "vol-1" []
          ⟨"", 0, 0⟩ ∧
      ControlPlane.demo.serve ⟨"POST", "/api/v1/volumes/" ++ "vol-1" ++ "/publish", []⟩ ⟨"", 0, 0⟩ =
        VolumeHandler.handlePublish ControlPlane.demo.store ControlPlane.demo.registry "vol-1" []
          ⟨"", 0, 0⟩ ∧
      ControlPlane.demo.serve ⟨"GET", "/api/v1/volumes/" ++ "vol-1" ++ "/files/" ++ "data/a.txt", []⟩
          ⟨"", 0, 0⟩ = ControlPlane.demo.files.handleGet "vol-1" "data/a.txt" ∧
      ControlPlane.demo.serve ⟨"PUT", "/api/v1/volumes/" ++ "vol-1" ++ "/files/" ++ "data/a.txt", []⟩
          ⟨"", 0, 0⟩ = ControlPlane.demo.files.handlePut "vol-1" "data/a.txt" [] ∧
      ControlPlane.demo.serve
          ⟨"DELETE", "/api/v1/volumes/" ++ "vol-1" ++ "/files/" ++ "data/a.txt", []⟩ ⟨"", 0, 0⟩ =
        ControlPlane.demo.files.handleDelete "vol-1" "data/a.txt" :=
  ⟨by decide, by decide,
    volume_routes_reach_handlers ControlPlane.demo [] ⟨"", 0, 0⟩ "vol-1" "data/a.txt" (by decide)
      (by decide)⟩

/-- POST of the volume collection reaches HandleCreate. -/
theorem serve_create :
    cp.serve ⟨"POST", "/api/v1/volumes", body⟩ env = VolumeHandler.handleCreate cp.store cp.registry body env :=
  serve_of_dispatch cp body env (rfl : dispatch "POST" "/api/v1/volumes" = .found .volumeCreate [])

/-- GET of the volume collection reaches HandleList. -/
theorem serve_list :
    cp.serve ⟨"GET", "/api/v1/volumes", body⟩ env = VolumeHandler.handleList cp.store :=
  serve_of_dispatch cp body env (rfl : dispatch "GET" "/api/v1/volumes" = .found .volumeList [])

/-- GET of a volume whose ID has no slash reaches HandleGet on that ID. -/
theorem serve_get_volume {id : String} (hs : '/' ∉ id.data) :
    cp.serve ⟨"GET", "/api/v1/volumes/" ++ id, body⟩ env = VolumeHandler.handleGet cp.store id :=
  serve_of_dispatch cp body env
    (dispatch_volume_route hs "GET" .volumeGet [] [] [] (by decide) (.inl rfl) rfl _ (List.append_nil _).symm)

/-- DELETE of a volume whose ID has no slash reaches HandleDelete on that ID. -/
theorem serve_delete_volume {id : String} (hs : '/' ∉ id.data) :
    cp.serve ⟨"DELETE", "/api/v1/volumes/" ++ id, body⟩ env = VolumeHandler.handleDelete cp.store id :=
  serve_of_dispatch cp body env
    (dispatch_volume_route hs "DELETE" .volumeDelete [] [] [] (by decide) (.inl rfl) rfl _
      (List.append_nil _).symm)

/-- On a control plane whose store keeps the laws: once `POST /api/v1/volumes` has been answered
`201`, `GET` of the new volume answers `200` with the record the create answered. -/
theorem serve_found_after_create (hst : cp.store.Laws) (hid : env.uuid ≠ "") (hs : '/' ∉ env.uuid.data)
    (body' : JsonObject) (env' : RequestEnv) {w w' : σ × φ} {r : Response}
    (hrun : (cp.serve ⟨"POST", "/api/v1/volumes", body⟩ env).run w = (r, w')) (h201 : r.status = 201) :
    (cp.serve ⟨"GET", "/api/v1/volumes/" ++ env.uuid, body'⟩ env').run w' = (⟨200, r.body⟩, w') := by
  rw [serve_create] at hrun
  rw [serve_get_volume cp body' env' hs]
  have := VolumeHandler.found_after_handleCreate cp.store cp.registry hst (w := w) (by rw [hrun]; exact h201)
  rwa [hrun] at this

/-- On a control plane whose store keeps the laws: once `DELETE /api/v1/volumes/<id>` has been
answered `200`, `GET` of the volume answers `404`, and so does the same `DELETE` again; neither
changes anything. -/
theorem serve_gone_after_delete (hst : cp.store.Laws) {id : String} (hid : id ≠ "") (hs : '/' ∉ id.data)
    (body' : JsonObject) (env' : RequestEnv) {w w' : σ × φ} {r : Response}
    (hrun : (cp.serve ⟨"DELETE", "/api/v1/volumes/" ++ id, body⟩ env).run w = (r, w'))
    (h200 : r.status = 200) :
    (cp.serve ⟨"GET", "/api/v1/volumes/" ++ id, body'⟩ env').run w' =
        (errorResponse 404 "not_found" "Volume not found", w') ∧
      (cp.serve ⟨"DELETE", "/api/v1/volumes/" ++ id, body'⟩ env').run w' =
        (errorResponse 404 "not_found" "Volume not found", w') := by
  rw [serve_delete_volume cp body env hs] at hrun
  rw [serve_get_volume cp body' env' hs, serve_delete_volume cp body' env' hs]
  have := VolumeHandler.gone_after_handleDelete cp.store hst (w := w) (by rw [hrun]; exact h200)
  rwa [hrun] at this

/-- On a control plane whose store keeps the laws: once `POST /api/v1/volumes` has been answered
`201` under a UUID that `GET` had answered `404` for, `GET /api/v1/volumes` lists the new record
beside the ones it listed before, and counts one more. -/
theorem serve_listed_after_create (hst : cp.store.Laws) (hid : env.uuid ≠ "") (hs : '/' ∉ env.uuid.data)
    (bodyG bodyL : JsonObject) (envG envL : RequestEnv) {w w' : σ × φ} {v : Volume}
    {vs : Multiset Volume} {n : Nat}
    (hfresh : ((cp.serve ⟨"GET", "/api/v1/volumes/" ++ env.uuid, bodyG⟩ envG).run w).1.status = 404)
    (hrun : (cp.serve ⟨"POST", "/api/v1/volumes", body⟩ env).run w = (⟨201, .volume v⟩, w'))
    (hlist : ((cp.serve ⟨"GET", "/api/v1/volumes", bodyL⟩ envL).run w).1 = ⟨200, .volumes vs n⟩) :
    (cp.serve ⟨"GET", "/api/v1/volumes", bodyL⟩ envL).run w' = (⟨200, .volumes (v ::ₘ vs) (n + 1)⟩, w') := by
  rw [serve_get_volume cp bodyG envG hs] at hfresh
  rw [serve_create] at hrun
  rw [serve_list] at hlist ⊢
  exact VolumeHandler.listed_after_handleCreate cp.store cp.registry hst hfresh hrun hlist

end serve

end VolumeManager
