import PangolinGateway.Config
import PangolinGateway.Maps.InsertLoop
import PangolinGateway.Text.Decimal
import PangolinGateway.Text.Items

/-! # Variables of the environment

Each reader takes a variable by its key. What it returns is a function of the variable alone, so a
value can be read exactly when it is the reading of some text, or of none. -/
namespace PangolinGateway
set_option autoImplicit false

/-- `std::env::var`; a variable that is not Unicode reads like one that is not set. -/
abbrev Vars := String → Option String

/-- The `humantime` crate. -/
class HumantimeCrate where
  /-- In nanoseconds. -/
  parseDuration : String → Option ℕ

/-- An error that ends the start of the controller. -/
inductive EnvError where
  /-- "required environment variable {key} is not set" -/
  | notSet (key : String)
  /-- "CONFIG_ENDPOINT must be a valid URL" -/
  | endpoint
  /-- "CONFIG_TLS_SKIP_VERIFY=true requires I_UNDERSTAND_CONFIG_TLS_SKIP_VERIFY_IS_INSECURE=true to
  be explicitly set" -/
  | tlsSkipVerify
  /-- "CONFIG_ENDPOINT uses http://. Set CONFIG_ALLOW_INSECURE_HTTP=true to permit it." -/
  | insecureHttp
  /-- "invalid boolean for {key}: {other:?}" -/
  | boolean (key other : String)
  /-- "invalid duration for {key}: {v:?}" -/
  | duration (key v : String)
  /-- "invalid u64 for {key}: {v:?}" -/
  | u64 (key v : String)
  /-- "invalid i32 for {key}: {v:?}" -/
  | i32 (key v : String)
  /-- "invalid CONFIG_BACKEND_KIND {other:?}; expected `service` or `envoy-backend`" -/
  | backendKind (other : String)
  /-- "{key}: entry {entry:?} is not `key=value`" -/
  | notKeyValue (key entry : String)
  /-- "{key}: empty annotation key in entry {entry:?}" -/
  | emptyKey (key entry : String)
  deriving DecidableEq

/-! ## The readers -/

def requiredEnv (env : Vars) (key : String) : Except EnvError String :=
  match env key with
  | some v => .ok v
  | none => .error (.notSet key)

def optionalEnv (env : Vars) (key : String) : Option String := (env key).filter fun v => !v.isEmpty

/-- A variable that is not set, or empty, has its default. -/
def readEnv {E A : Type} (env : Vars) (key : String) (default : A) (parse : String → Except E A) :
    Except E A :=
  match optionalEnv env key with
  | none => .ok default
  | some v => parse v

def toLowercase (v : String) : String := String.ofList (v.toList.map Str.toAsciiLowercase)

def parseBool (key v : String) : Except EnvError Bool :=
  let v := toLowercase v
  if v = "1" ∨ v = "true" ∨ v = "yes" ∨ v = "on" then .ok true
  else if v = "0" ∨ v = "false" ∨ v = "no" ∨ v = "off" then .ok false
  else .error (.boolean key v)

def boolEnv (env : Vars) (key : String) (default : Bool) : Except EnvError Bool :=
  readEnv env key default (parseBool key)

/-- `with_context` on a parser. -/
def orError {E A : Type} (e : E) : Option A → Except E A
  | some a => .ok a
  | none => .error e

def durationEnv [HumantimeCrate] (env : Vars) (key : String) (default : ℕ) : Except EnvError ℕ :=
  readEnv env key default fun v => orError (.duration key v) (HumantimeCrate.parseDuration v)

def u64Env (env : Vars) (key : String) (default : ℕ) : Except EnvError ℕ :=
  readEnv env key default fun v => orError (.u64 key v) (Str.parseU64 v.toList)

def i32Env (env : Vars) (key : String) (default : ℤ) : Except EnvError ℤ :=
  readEnv env key default fun v => orError (.i32 key v) (Str.parseI32 v.toList)

def csvEnv (env : Vars) (key : String) (default : List String) : List String :=
  match optionalEnv env key with
  | none => default
  | some raw => (Str.items ',' raw.toList).map String.ofList

def BackendKind.parse (s : String) : Except EnvError BackendKind :=
  let s := toLowercase (String.ofList (Str.trim s.toList))
  if s = "service" ∨ s = "service-endpointslice" ∨ s = "" then .ok .service
  else if s = "envoy-backend" ∨ s = "envoybackend" ∨ s = "backend" then .ok .envoyBackend
  else .error (.backendKind s)

/-- `key=value`, with white space around both. -/
def parseKv (key : String) (entry : List Char) : Except EnvError (String × String) :=
  match Str.splitOnce ['='] entry with
  | none => .error (.notKeyValue key (String.ofList entry))
  | some (k, v) =>
    if (Str.trim k).isEmpty then .error (.emptyKey key (String.ofList entry))
    else .ok (String.ofList (Str.trim k), String.ofList (Str.trim v))

/-- Entries that are empty once trimmed are skipped; a later entry replaces an earlier one. -/
def parseKvs (key : String) : List (List Char) → Map String → Except EnvError (Map String)
  | [], out => .ok out
  | entry :: rest, out =>
    if (Str.trim entry).isEmpty then parseKvs key rest out
    else match parseKv key (Str.trim entry) with
      | .error e => .error e
      | .ok kv => parseKvs key rest (out.insert kv.1 kv.2)

def parseKvEnv (env : Vars) (key : String) : Except EnvError (Map String) :=
  match optionalEnv env key with
  | none => .ok ∅
  | some raw => parseKvs key (raw.toList.splitOn ',') ∅

end PangolinGateway
