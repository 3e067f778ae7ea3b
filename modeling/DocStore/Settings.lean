import DocStore.Text.Numeral

/-!
# Settings

A configuration is read from environment variables; settings are made from it, or from defaults,
and resolved for the place where the store runs.
-/

namespace DocStore

inductive Environment where
  | native
  | browser (indexedDb : Bool)
  deriving DecidableEq

def occursIn (part : List Char) : List Char → Bool
  | [] => part.isEmpty
  | c :: rest => part.isPrefixOf (c :: rest) || occursIn part rest

def hasScheme (path : String) : Bool := occursIn [':', '/', '/'] path.toList

/-- In a browser that has IndexedDB, a path without a scheme is one of its databases. -/
def Environment.normalize (environment : Environment) (path : String) : String :=
  if environment = .browser true ∧ ¬ hasScheme path then "idb://" ++ path else path

inductive ConfigError where
  | missingDatabaseUrl
  | invalidMaxConnections (value : String)
  | invalidChangeBuffer (value : String)
  deriving DecidableEq

def ConfigError.message : ConfigError → String
  | missingDatabaseUrl => "DATABASE_URL environment variable is required"
  | invalidMaxConnections value => "Invalid PGDOC_MAX_CONNECTIONS value: " ++ value
  | invalidChangeBuffer value => "Invalid PGDOC_CHANGE_BUFFER value: " ++ value

structure Config where
  databaseUrl : String
  maxConnections : Nat
  changeBuffer : Nat
  disableNormalizePath : Bool
  deriving DecidableEq

def defaultMaxConnections : Nat := 10

def defaultChangeBuffer : Nat := 256

namespace Config

def isYes (value : String) : Bool :=
  value == "1" || value == "true" || value == "TRUE" || value == "yes"

def maxConnectionsOf : Option String → Except ConfigError Nat
  | none => .ok defaultMaxConnections
  | some value =>
      match Numeral.natural? UInt32.size value.toList with
      | some count => .ok count
      | none => .error (.invalidMaxConnections value)

def changeBufferOf : Option String → Except ConfigError Nat
  | none => .ok defaultChangeBuffer
  | some value =>
      match Numeral.natural? UInt64.size value.toList with
      | some (size + 1) => .ok (size + 1)
      | _ => .error (.invalidChangeBuffer value)

def ofVariables (values : List (String × String)) : Except ConfigError Config := do
  match values.lookup "DATABASE_URL" with
  | none => .error .missingDatabaseUrl
  | some databaseUrl =>
      let maxConnections ← maxConnectionsOf (values.lookup "PGDOC_MAX_CONNECTIONS")
      let changeBuffer ← changeBufferOf (values.lookup "PGDOC_CHANGE_BUFFER")
      let disableNormalizePath :=
        (values.lookup "PGDOC_DISABLE_NORMALIZE_PATH").any isYes
      return { databaseUrl, maxConnections, changeBuffer, disableNormalizePath }

end Config

structure Settings where
  path : String
  autoCreate : Bool
  readOnly : Bool
  disableNormalizePath : Bool
  changeBuffer : Nat
  deriving DecidableEq

namespace Settings

def ofPath (path : String) : Settings := ⟨path, true, false, false, defaultChangeBuffer⟩

def standard : Settings := ofPath "./db.pgdoc"

def inMemory : Settings := ofPath "memory"

def ofConfig (config : Config) : Settings :=
  { ofPath config.databaseUrl with
    disableNormalizePath := config.disableNormalizePath
    changeBuffer := config.changeBuffer }

def withAutoCreate (settings : Settings) (autoCreate : Bool) : Settings :=
  { settings with autoCreate }

def withReadOnly (settings : Settings) (readOnly : Bool) : Settings :=
  { settings with readOnly }

def withDisableNormalizePath (settings : Settings) (disable : Bool) : Settings :=
  { settings with disableNormalizePath := disable }

/-- At least one batch is buffered. -/
def withChangeBuffer (settings : Settings) (size : Nat) : Settings :=
  { settings with changeBuffer := max size 1 }

def resolve (settings : Settings) (environment : Environment) : Settings :=
  if settings.disableNormalizePath then settings
  else { settings with path := environment.normalize settings.path }

end Settings

end DocStore
