import VolumeManager.Store.Cluster

/-!
# The manager's configuration (`config.Load`)

`Load` reads eleven environment variables, each with a default, and validates the port and the
log level. `getEnv*` fall back to the default when the variable is empty or does not parse, so a
typo in a number or a boolean is never reported: only a port that parses and lies outside
`1..65535`, or a log level that is set to another word, makes `Load` fail. The environment is
`os.Getenv` after `godotenv.Load()`: a function with the empty string for an unset variable.

* `load_error_iff`: `Load` fails exactly on a parsed port out of range, or on a port in range and
  an unknown log level; the error names the value that failed.
* `load_render`: a valid configuration, its fields written to the environment as `%d`, `%t` and as
  they are, is what `Load` reads back.
* `setupLogger_level`: on every configuration `Load` returns, the logger runs at the level the
  configuration names; the fallback to `info` is never taken.

Reading `.env` (`godotenv`) is not modelled: the environment is the one it leaves.
-/

namespace VolumeManager

namespace Configuration

open EtcdStore

/-- `os.Getenv` after `godotenv.Load()`. -/
abbrev Env := String → String

/-- `strconv.Atoi` on a 64-bit platform: an optional `+` or `-`, then at least one decimal digit,
the value an `int`. -/
def atoi (s : String) : Option Int :=
  let neg := s.data.head? = some '-'
  let ds := if s.data.head? = some '-' ∨ s.data.head? = some '+' then s.data.tail else s.data
  if ds ≠ [] ∧ ds.all Char.isDigit then
    let n : Int := if neg then -(digitsValue ds : Int) else digitsValue ds
    if -9223372036854775808 ≤ n ∧ n ≤ 9223372036854775807 then some n else none
  else none

/-- `strconv.ParseBool`. -/
def parseBool (s : String) : Option Bool :=
  if s ∈ ["1", "t", "T", "TRUE", "true", "True"] then some true
  else if s ∈ ["0", "f", "F", "FALSE", "false", "False"] then some false
  else none

/-- `strconv.FormatBool`, as `%t` writes a `bool`. -/
def formatBool (b : Bool) : String := if b then "true" else "false"

/-- `getEnv`. -/
def getEnv (env : Env) (key defaultValue : String) : String :=
  if env key ≠ "" then env key else defaultValue

/-- `getEnvInt`. -/
def getEnvInt (env : Env) (key : String) (defaultValue : Int) : Int :=
  if env key ≠ "" then (atoi (env key)).getD defaultValue else defaultValue

/-- `getEnvBool`. -/
def getEnvBool (env : Env) (key : String) (defaultValue : Bool) : Bool :=
  if env key ≠ "" then (parseBool (env key)).getD defaultValue else defaultValue

/-- `config.Config`. -/
structure Config where
  port : Int
  host : String
  environment : String
  logLevel : String
  dataDir : String
  etcdEnabled : Bool
  clusterSize : Int
  serviceName : String
  taskSlot : Int
  etcdClientPort : Int
  etcdPeerPort : Int
  deriving DecidableEq

/-- `Config.Validate`. -/
def validate (c : Config) : Except String Unit :=
  if c.port < 1 ∨ c.port > 65535 then .error ("invalid port: " ++ formatInt c.port)
  else if c.logLevel ≠ "debug" ∧ c.logLevel ≠ "info" ∧ c.logLevel ≠ "warn" ∧ c.logLevel ≠ "error" then
    .error ("invalid log level: " ++ c.logLevel)
  else .ok ()

/-- The configuration `Load` builds before it validates. -/
def fromEnv (env : Env) : Config where
  port := getEnvInt env "PORT" 9789
  host := getEnv env "HOST" "0.0.0.0"
  environment := getEnv env "ENVIRONMENT" "development"
  logLevel := getEnv env "LOG_LEVEL" "info"
  dataDir := getEnv env "DATA_DIR" "/var/lib/volume-manager"
  etcdEnabled := getEnvBool env "ETCD_ENABLED" false
  clusterSize := getEnvInt env "CLUSTER_SIZE" 1
  serviceName := getEnv env "SERVICE_NAME" "volume-manager"
  taskSlot := getEnvInt env "TASK_SLOT" 1
  etcdClientPort := getEnvInt env "ETCD_CLIENT_PORT" 2379
  etcdPeerPort := getEnvInt env "ETCD_PEER_PORT" 2380

/-- `config.Load`. -/
def load (env : Env) : Except String Config :=
  match validate (fromEnv env) with
  | .error e => .error ("invalid configuration: " ++ e)
  | .ok () => .ok (fromEnv env)

/-- `Config.IsDevelopment`. -/
def isDevelopment (c : Config) : Bool := c.environment = "development"

/-- `Config.IsProduction`. -/
def isProduction (c : Config) : Bool := c.environment = "production"

/-- The `slog` levels. -/
inductive Level where
  | debug | info | warn | error
  deriving DecidableEq, Repr

/-- The word of the configuration that names a level. -/
def Level.word : Level → String
  | .debug => "debug"
  | .info => "info"
  | .warn => "warn"
  | .error => "error"

/-- The handler `setupLogger` writes with. -/
inductive Format where
  | text | json
  deriving DecidableEq, Repr

/-- `setupLogger`: the level the configuration names (`info` for any other word), text in
development and JSON otherwise. -/
def setupLogger (c : Config) : Level × Format :=
  let level :=
    if c.logLevel = "debug" then Level.debug
    else if c.logLevel = "info" then .info
    else if c.logLevel = "warn" then .warn
    else if c.logLevel = "error" then .error
    else .info
  (level, if isDevelopment c then .text else .json)

/-- The `store.EtcdConfig` `main` builds from the configuration. -/
def etcdConfig (c : Config) : EtcdConfig :=
  ⟨c.dataDir, c.clusterSize, c.serviceName, c.taskSlot, c.etcdClientPort, c.etcdPeerPort⟩

/-- The metadata store `main` starts. -/
inductive MetaStore where
  | etcd (cfg : EmbedConfig)
  | memory

/-- `main`'s choice of store: the embedded etcd member `NewEtcdStore` configures, or the memory
store. -/
def metaStore (c : Config) : MetaStore :=
  if c.etcdEnabled then .etcd (newEtcdConfig (etcdConfig c)) else .memory

/-- `parseEndpoint` of the CSI plugin: the scheme and the address of `CSI_ENDPOINT`. -/
def parseEndpoint (endpoint : String) : String × String :=
  if endpoint.length > 7 ∧ endpoint.data.take 7 = "unix://".data then
    ("unix", String.mk (endpoint.data.drop 7))
  else if endpoint.length > 6 ∧ endpoint.data.take 6 = "tcp://".data then
    ("tcp", String.mk (endpoint.data.drop 6))
  else ("unix", endpoint)

/-! ## Reading a variable -/

/-- The empty string is not a number. -/
@[simp] theorem atoi_empty : atoi "" = none := rfl

/-- getEnv is the variable, or the default when it is empty. -/
theorem getEnv_eq (env : Env) (key d : String) :
    getEnv env key d = if env key = "" then d else env key := by
  unfold getEnv
  split_ifs <;> simp_all

/-- An empty variable does not parse, so `getEnvInt` is `Atoi` with the default. -/
theorem getEnvInt_eq (env : Env) (key : String) (d : Int) :
    getEnvInt env key d = (atoi (env key)).getD d := by
  unfold getEnvInt
  split_ifs with h
  · rfl
  · simp only [not_not] at h
    rw [h, atoi_empty, Option.getD_none]

/-- The empty string is not a boolean. -/
@[simp] theorem parseBool_empty : parseBool "" = none := rfl

/-- An empty variable does not parse, so getEnvBool is ParseBool with the default. -/
theorem getEnvBool_eq (env : Env) (key : String) (d : Bool) :
    getEnvBool env key d = (parseBool (env key)).getD d := by
  unfold getEnvBool
  split_ifs with h
  · rfl
  · simp only [not_not] at h
    rw [h, parseBool_empty, Option.getD_none]

/-- ParseBool reads back the word strconv writes for a boolean. -/
theorem parseBool_formatBool (b : Bool) : parseBool (formatBool b) = some b := by
  cases b <;> rfl

/-- Every number has a digit. -/
theorem decimal_ne_nil (n : Nat) : decimal n ≠ [] := by
  simp [decimal, decimalDigits]

/-- Every character of a written number is a digit. -/
theorem isDigit_of_mem_decimal {n : Nat} {c : Char} (hc : c ∈ decimal n) : c.isDigit := by
  obtain ⟨d, hd, rfl⟩ := mem_decimalDigits hc
  have : ∀ d, d < 10 → (digitChar d).isDigit = true := by decide
  exact this d hd

/-- `Atoi` reads `%d` back for every `int`. -/
theorem atoi_formatInt {n : Int} (h : -9223372036854775808 ≤ n ∧ n ≤ 9223372036854775807) :
    atoi (formatInt n) = some n := by
  have hall : ∀ m, (decimal m).all Char.isDigit := fun m =>
    List.all_eq_true.2 fun c hc => isDigit_of_mem_decimal hc
  unfold atoi formatInt
  by_cases hn : n < 0
  · simp only [hn, if_true, List.head?_cons, true_or, List.tail_cons, ne_eq, decimal_ne_nil,
      not_false_eq_true, hall, and_self, digitsValue_decimal]
    rw [if_pos (by omega)]
    congr 1
    omega
  · have hsign : ∀ c ∈ decimal n.toNat, c ≠ '-' ∧ c ≠ '+' := fun c hc => by
      obtain ⟨d, hd, rfl⟩ := mem_decimalDigits hc
      have : ∀ d, d < 10 → digitChar d ≠ '-' ∧ digitChar d ≠ '+' := by decide
      exact this d hd
    have hhead : (decimal n.toNat).head? ≠ some '-' ∧ (decimal n.toNat).head? ≠ some '+' :=
      ⟨fun e => (hsign _ (List.mem_of_mem_head? e)).1 rfl,
        fun e => (hsign _ (List.mem_of_mem_head? e)).2 rfl⟩
    simp only [hn, if_false, hhead, or_self, ne_eq, decimal_ne_nil, not_false_eq_true, hall,
      and_self, if_true, digitsValue_decimal]
    rw [if_pos (by omega)]
    congr 1
    omega

/-! ## When `Load` fails -/

/-- Load validates the configuration read from the environment, and prefixes its error. -/
theorem load_eq (env : Env) :
    load env = match validate (fromEnv env) with
      | .error e => .error ("invalid configuration: " ++ e)
      | .ok () => .ok (fromEnv env) := rfl

/-- `Validate` refuses a port out of range, naming it, and then a log level other than the four,
naming it. -/
theorem validate_error_iff (c : Config) (m : String) :
    validate c = .error m ↔
      ((c.port < 1 ∨ 65535 < c.port) ∧ m = "invalid port: " ++ formatInt c.port) ∨
        (1 ≤ c.port ∧ c.port ≤ 65535 ∧ c.logLevel ∉ ["debug", "info", "warn", "error"] ∧
          m = "invalid log level: " ++ c.logLevel) := by
  unfold validate
  by_cases hp : c.port < 1 ∨ c.port > 65535
  · rw [if_pos hp, Except.error.injEq]
    constructor
    · rintro rfl
      exact .inl ⟨by omega, rfl⟩
    · rintro (⟨-, rfl⟩ | ⟨h1, h2, -⟩)
      · rfl
      · omega
  · rw [if_neg hp]
    have hmem : c.logLevel ∉ ["debug", "info", "warn", "error"] ↔
        c.logLevel ≠ "debug" ∧ c.logLevel ≠ "info" ∧ c.logLevel ≠ "warn" ∧ c.logLevel ≠ "error" := by
      simp
    split_ifs with hl
    · rw [Except.error.injEq]
      constructor
      · rintro rfl
        exact .inr ⟨by omega, by omega, hmem.2 hl, rfl⟩
      · rintro (⟨h, -⟩ | ⟨-, -, -, rfl⟩)
        · omega
        · rfl
    · simp only [reduceCtorEq, false_iff, not_or, not_and]
      exact ⟨fun h => absurd h (by omega), fun _ _ h => absurd (hmem.1 h) hl⟩

/-- `Load` fails exactly on a port that parses and lies outside `1..65535`, or on a port in range
and a log level set to a word other than the four; the error names the value that failed. -/
theorem load_error_iff (env : Env) (e : String) :
    load env = .error e ↔
      (∃ n, atoi (env "PORT") = some n ∧ (n < 1 ∨ 65535 < n) ∧
          e = "invalid configuration: invalid port: " ++ formatInt n) ∨
        ((∀ n, atoi (env "PORT") = some n → 1 ≤ n ∧ n ≤ 65535) ∧
          env "LOG_LEVEL" ∉ ["", "debug", "info", "warn", "error"] ∧
          e = "invalid configuration: invalid log level: " ++ env "LOG_LEVEL") := by
  have hload : load env = .error e ↔
      ∃ m, validate (fromEnv env) = .error m ∧ e = "invalid configuration: " ++ m := by
    rw [load_eq]
    cases validate (fromEnv env) with
    | error m => simp [eq_comm]
    | ok u => simp
  have hport : (fromEnv env).port = (atoi (env "PORT")).getD 9789 := getEnvInt_eq _ _ _
  have hlevel : (fromEnv env).logLevel = if env "LOG_LEVEL" = "" then "info" else env "LOG_LEVEL" :=
    getEnv_eq _ _ _
  rw [hload]
  simp only [validate_error_iff, hport, hlevel]
  -- by cases on the parsed port and on an empty log level
  cases atoi (env "PORT") <;> by_cases hl : env "LOG_LEVEL" = "" <;>
    simp [hl, ← String.append_assoc, and_assoc, or_and_right, exists_or]

/-! ## A configuration written to the environment -/

/-- `Validate` accepts a port in range with one of the four log levels. -/
theorem validate_ok_iff (c : Config) :
    validate c = .ok () ↔ 1 ≤ c.port ∧ c.port ≤ 65535 ∧ c.logLevel ∈ ["debug", "info", "warn", "error"] := by
  unfold validate
  split_ifs with hp hl
  · simp only [reduceCtorEq, false_iff]
    omega
  · simp only [reduceCtorEq, false_iff, not_and]
    intro _ _
    simpa using hl
  · simp only [true_iff, List.mem_cons, List.mem_singleton, List.not_mem_nil, or_false]
    refine ⟨by omega, by omega, ?_⟩
    tauto

/-- The environment that sets each variable `Load` reads to the text of the configuration's
field: `%d` for a number, `%t` for a boolean, a string as it is. -/
def render (c : Config) : Env := fun key =>
  if key = "PORT" then formatInt c.port
  else if key = "HOST" then c.host
  else if key = "ENVIRONMENT" then c.environment
  else if key = "LOG_LEVEL" then c.logLevel
  else if key = "DATA_DIR" then c.dataDir
  else if key = "ETCD_ENABLED" then formatBool c.etcdEnabled
  else if key = "CLUSTER_SIZE" then formatInt c.clusterSize
  else if key = "SERVICE_NAME" then c.serviceName
  else if key = "TASK_SLOT" then formatInt c.taskSlot
  else if key = "ETCD_CLIENT_PORT" then formatInt c.etcdClientPort
  else if key = "ETCD_PEER_PORT" then formatInt c.etcdPeerPort
  else ""

/-- A valid configuration whose strings are not empty and whose numbers are `int`s, written to the
environment, is what `Load` reads back. -/
theorem load_render (c : Config) (hv : validate c = .ok ())
    (hs : c.host ≠ "" ∧ c.environment ≠ "" ∧ c.dataDir ≠ "" ∧ c.serviceName ≠ "")
    (hi : ∀ n ∈ [c.clusterSize, c.taskSlot, c.etcdClientPort, c.etcdPeerPort],
      -9223372036854775808 ≤ n ∧ n ≤ 9223372036854775807) :
    load (render c) = .ok c := by
  obtain ⟨hp1, hp2, hl⟩ := (validate_ok_iff c).1 hv
  have hl' : c.logLevel ≠ "" := fun h => by simp [h] at hl
  simp only [List.mem_cons, List.mem_singleton, List.not_mem_nil, or_false, forall_eq_or_imp,
    forall_eq] at hi
  have hport := atoi_formatInt (show -9223372036854775808 ≤ c.port ∧ c.port ≤ 9223372036854775807 by
    omega)
  have hf : fromEnv (render c) = c := by
    cases c
    simp only [fromEnv, getEnvInt_eq, getEnv_eq, getEnvBool_eq, render, if_true, if_false,
      String.reduceEq, hport, atoi_formatInt hi.1, atoi_formatInt hi.2.1, atoi_formatInt hi.2.2.1,
      atoi_formatInt hi.2.2.2, parseBool_formatBool, Option.getD_some, hs.1, hs.2.1, hs.2.2.1,
      hs.2.2.2, hl']
  rw [load_eq, hf, hv]

/-- The production configuration of the example is valid, so loading its rendering gives it back. -/
theorem load_render_production :
    validate ⟨8080, "0.0.0.0", "production", "warn", "/data", true, 3, "vm", 2, 2379, 2380⟩ = .ok () ∧
      ("0.0.0.0" ≠ "" ∧ "production" ≠ "" ∧ "/data" ≠ "" ∧ "vm" ≠ "") ∧
      (∀ n ∈ [(3 : Int), 2, 2379, 2380], -9223372036854775808 ≤ n ∧ n ≤ 9223372036854775807) ∧
      load (render ⟨8080, "0.0.0.0", "production", "warn", "/data", true, 3, "vm", 2, 2379, 2380⟩) =
        .ok ⟨8080, "0.0.0.0", "production", "warn", "/data", true, 3, "vm", 2, 2379, 2380⟩ :=
  ⟨rfl, by decide, by decide, load_render _ rfl (by decide) (by decide)⟩

/-! ## The logger -/

/-- On every configuration `Load` returns, the logger runs at the level the configuration names:
the fallback of `setupLogger` to `info` is never taken. -/
theorem setupLogger_level {env : Env} {c : Config} (h : load env = .ok c) :
    (setupLogger c).1.word = c.logLevel := by
  rw [load_eq] at h
  split at h
  · cases h
  · next hv =>
    cases h
    obtain ⟨-, -, hl⟩ := (validate_ok_iff _).1 hv
    simp only [List.mem_cons, List.mem_singleton, List.not_mem_nil, or_false] at hl
    rcases hl with hl | hl | hl | hl <;> simp [setupLogger, hl, Level.word]

example : (setupLogger ⟨9789, "0.0.0.0", "development", "warn", "/var/lib/volume-manager", false, 1,
    "volume-manager", 1, 2379, 2380⟩).1.word = "warn" :=
  @setupLogger_level (fun key => if key = "LOG_LEVEL" then "warn" else "") _ rfl

end Configuration

end VolumeManager
