import PangolinGateway.Crates

/-! # The wire types of the badger API -/
namespace PangolinGateway
set_option autoImplicit false

structure VerifyBody where
  sessions : Map String
  headers : Map String
  query : Map String
  originalRequestUrl : String
  scheme : String
  host : String
  path : String
  method : String
  tls : Bool
  requestIp : Option String

structure ExchangeBody where
  requestToken : String
  host : String
  requestIp : Option String

structure UserData where
  userId : Option String
  username : Option String
  email : Option String
  name : Option String
  role : Option String

structure VerifyData where
  valid : Bool
  redirectUrl : Option String
  headerAuthChallenged : Option Bool
  userData : Option UserData

def VerifyData.default : VerifyData := ⟨false, none, none, none⟩

structure ExchangeData where
  valid : Bool
  cookie : Option String

def ExchangeData.default : ExchangeData := ⟨false, none⟩

def UserData.decode (v : Value) : Option UserData := do
  let members ← v.fields ["userId", "username", "email", "name", "role"]
  let text name := Value.fieldOr members name (Value.nullable Value.asStr) none
  return ⟨← text "userId", ← text "username", ← text "email", ← text "name", ← text "role"⟩

def VerifyData.decode (v : Value) : Option VerifyData := do
  let members ← v.fields ["valid", "redirectUrl", "headerAuthChallenged", "userData"]
  let valid ← Value.fieldOr members "valid" Value.asBool false
  let redirectUrl ← Value.fieldOr members "redirectUrl" (Value.nullable Value.asStr) none
  let challenged ← Value.fieldOr members "headerAuthChallenged" (Value.nullable Value.asBool) none
  let userData ← Value.fieldOr members "userData" (Value.nullable UserData.decode) none
  return ⟨valid, redirectUrl, challenged, userData⟩

def ExchangeData.decode (v : Value) : Option ExchangeData := do
  let members ← v.fields ["valid", "cookie"]
  let valid ← Value.fieldOr members "valid" Value.asBool false
  let cookie ← Value.fieldOr members "cookie" (Value.nullable Value.asStr) none
  return ⟨valid, cookie⟩

/-- `VerifyResponse` and `ExchangeResponse`: the one member `data`. -/
def decodeData {α : Type} (decode : Value → Option α) (absent : α) (v : Value) : Option α := do
  let members ← v.fields ["data"]
  Value.fieldOr members "data" decode absent

/-! ## Answers of pangolin -/

/-- What the HTTP client's `send` returns, after any redirects that it has followed. -/
inductive PangolinReply where
  | unreachable
  /-- The body is `none` when the connection breaks or times out before it is complete. -/
  | response (status : ℕ) (body : Option Bytes)

inductive SessionError where
  /-- building pangolin endpoint URL -/
  | endpoint
  | sending
  | decoding
deriving DecidableEq, Repr

variable [JsonCrate]

/-- The body counts whatever the status. Without one that can be read, an error status is an answer
that grants nothing. -/
def readReply {α : Type} (decode : Value → Option α) (absent : α) :
    PangolinReply → Except SessionError α
  | .unreachable => .error .sending
  | .response status body =>
    match (body.bind JsonCrate.parse).bind (decodeData decode absent) with
    | some data => .ok data
    | none => if 200 ≤ status ∧ status < 300 then .error .decoding else .ok absent

def readVerify : PangolinReply → Except SessionError VerifyData :=
  readReply VerifyData.decode .default

def readExchange : PangolinReply → Except SessionError ExchangeData :=
  readReply ExchangeData.decode .default

end PangolinGateway
