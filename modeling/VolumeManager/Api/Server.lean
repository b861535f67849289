import VolumeManager.Api.Handlers

/-!
# The HTTP API (`api.Server`)

`routes` is the route table `Server.setupRoutes` registers, `dispatch` is echo's router on it and
`ControlPlane.serve` runs the handler a request is routed to; `ControlPlane.serveAll` serves requests
one at a time.

Echo finds the route by the path first and then by the method: a path that some route matches but
none for the request's method is answered `405 Method Not Allowed`, a path no route matches
`404 Not Found`. No path matches two patterns of this table, so echo's priorities between static,
parameter and wildcard children never come into play. A `:param` segment takes the characters up
to the next `/`, none at all included (echo binds the empty value); `*` takes the rest of the path.

The middleware runs around the handler the router picked. CORS (`CORSWithConfig`) answers a
preflight `OPTIONS` request itself, `204` with no body, whatever the path. `Recovery` turns a
panic into `500`; no handler modelled here panics when requests run one at a time. `Logger`,
request IDs and the 30 s timeout change no response modelled here: time is not modelled.
-/

namespace VolumeManager

/-- A segment of a route pattern: literal text, a named parameter, or the trailing wildcard. -/
inductive Segment where
  | lit (s : String)
  | param (name : String)
  | any

/-- The handlers the route table names. -/
inductive Route where
  | health | ready
  | volumeCreate | volumeList | volumeGet | volumeDelete | volumeStage | volumePublish
  | fileGet | filePut | fileDelete
  | backendList
  deriving DecidableEq, Repr

/-- `Server.setupRoutes`: method, pattern, handler. -/
def routes : List (String × List Segment × Route) :=
  [("GET", [.lit "/health"], .health),
   ("GET", [.lit "/ready"], .ready),
   ("POST", [.lit "/api/v1/volumes"], .volumeCreate),
   ("GET", [.lit "/api/v1/volumes"], .volumeList),
   ("GET", [.lit "/api/v1/volumes/", .param "id"], .volumeGet),
   ("DELETE", [.lit "/api/v1/volumes/", .param "id"], .volumeDelete),
   ("POST", [.lit "/api/v1/volumes/", .param "id", .lit "/stage"], .volumeStage),
   ("POST", [.lit "/api/v1/volumes/", .param "id", .lit "/publish"], .volumePublish),
   ("GET", [.lit "/api/v1/volumes/", .param "id", .lit "/files/", .any], .fileGet),
   ("PUT", [.lit "/api/v1/volumes/", .param "id", .lit "/files/", .any], .filePut),
   ("DELETE", [.lit "/api/v1/volumes/", .param "id", .lit "/files/", .any], .fileDelete),
   ("GET", [.lit "/api/v1/backends"], .backendList)]

/-- Match a pattern against a path: the parameter values it binds. -/
def matchPattern : List Segment → List Char → Option (List (String × String))
  | [], [] => some []
  | [], _ :: _ => none
  | .lit s :: ps, cs => if s.data.isPrefixOf cs then matchPattern ps (cs.drop s.data.length) else none
  | .param n :: ps, cs =>
    let v := cs.takeWhile (· ≠ '/')
    (matchPattern ps (cs.drop v.length)).map ((n, String.mk v) :: ·)
  | .any :: _, cs => some [("*", String.mk cs)]

/-- Where the router sends a request. -/
inductive Dispatch where
  | found (r : Route) (params : List (String × String))
  | notFound
  | methodNotAllowed

/-- Echo's router on `routes`. -/
def dispatch (method path : String) : Dispatch :=
  match routes.filterMap fun r =>
      if r.1 = method then (matchPattern r.2.1 path.data).map fun ps => (r.2.2, ps) else none with
  | (r, ps) :: _ => .found r ps
  | [] =>
    if routes.any fun r => (matchPattern r.2.1 path.data).isSome then .methodNotAllowed
    else .notFound

/-- `c.Param(name)`: the value the route bound, or empty. -/
def param (params : List (String × String)) (name : String) : String :=
  (params.lookup name).getD ""

/-- A request as the server's router sees it: the method, the path it routes on, the JSON body. -/
structure HttpRequest where
  method : String
  path : String
  body : JsonObject

/-- The file routes' handlers (`handlers.FileHandler`): the volume ID and the wildcard path, and
for `PUT` the body. -/
structure FileRoutes (W : Type) where
  handleGet : String → String → Proc W Response
  handlePut : String → String → JsonObject → Proc W Response
  handleDelete : String → String → Proc W Response

/-- The control plane behind the HTTP API: the metadata store, the backend registry, the file
routes, and how echo renders a response body (`c.JSON`). -/
structure ControlPlane (σ φ : Type) where
  store : Store σ
  registry : Storage.Registry φ
  files : FileRoutes (σ × φ)
  render : Body → String

namespace ControlPlane

variable {σ φ : Type} (cp : ControlPlane σ φ)

/-- The handler the router picks for the request, run on it. -/
def route (req : HttpRequest) (env : RequestEnv) : Proc (σ × φ) Response :=
  match dispatch req.method req.path with
  | .notFound => pure ⟨404, .fields [("message", "Not Found")]⟩
  | .methodNotAllowed => pure ⟨405, .fields [("message", "Method Not Allowed")]⟩
  | .found r params =>
    let id := param params "id"
    match r with
    | .health => handleHealth
    | .ready => handleReady
    | .volumeCreate => VolumeHandler.handleCreate cp.store cp.registry req.body env
    | .volumeList => VolumeHandler.handleList cp.store
    | .volumeGet => VolumeHandler.handleGet cp.store id
    | .volumeDelete => VolumeHandler.handleDelete cp.store id
    | .volumeStage => VolumeHandler.handleStage cp.store cp.registry id req.body env
    | .volumePublish => VolumeHandler.handlePublish cp.store cp.registry id req.body env
    | .fileGet => cp.files.handleGet id (param params "*")
    | .filePut => cp.files.handlePut id (param params "*") req.body
    | .fileDelete => cp.files.handleDelete id (param params "*")
    | .backendList => handleListBackends cp.registry

/-- The server: the CORS middleware answers a preflight `OPTIONS` with `204` and no body; every
other request goes to the handler the router picks. -/
def serve (req : HttpRequest) (env : RequestEnv) : Proc (σ × φ) Response :=
  if req.method = "OPTIONS" then pure ⟨204, .noContent⟩ else cp.route req env

/-- A request other than a preflight goes to the handler the router picks. -/
theorem serve_of_ne {req : HttpRequest} (h : req.method ≠ "OPTIONS") (env : RequestEnv) :
    cp.serve req env = cp.route req env :=
  if_neg h

/-- Serve requests one at a time: the responses, and the world reached. -/
def serveAll (w : σ × φ) : List (HttpRequest × RequestEnv) → List Response × (σ × φ)
  | [] => ([], w)
  | (req, env) :: rs =>
    let x := (cp.serve req env).run w
    let y := serveAll x.2 rs
    (x.1 :: y.1, y.2)

end ControlPlane

end VolumeManager
