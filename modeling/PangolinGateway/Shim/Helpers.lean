import PangolinGateway.Crates
import PangolinGateway.Text.Str

/-! # Paths, queries, cookies and headers of a check request -/
namespace PangolinGateway
set_option autoImplicit false

/-- `some` when the prefix matched on a segment boundary. -/
def stripPathPrefix (pre pathAndQuery : String) : Option String :=
  if pre.isEmpty ∨ pre = "/" then some pathAndQuery
  else
    match (Str.trimEndMatches (· == '/') pre.toList).isPrefixOf? pathAndQuery.toList with
    | none => none
    | some [] => some "/"
    | some ('/' :: rest) => some (String.ofList ('/' :: rest))
    | some ('?' :: rest) => some (String.ofList ('/' :: '?' :: rest))
    | some _ => none

def collectSessions (cookieHeader namePrefix : String) : Map String :=
  (cookieHeader.toList.splitOn ';').foldl (fun sessions pair =>
    match Str.splitOnce ['='] pair with
    | none => sessions
    | some (name, value) =>
      let name := Str.trim name
      if name ≠ [] ∧ namePrefix.toList.isPrefixOf name then
        sessions.insert (String.ofList name) (String.ofList (Str.trim value))
      else sessions) ∅

def canonicalSegment : List Char → List Char
  | [] => []
  | first :: rest => Str.toAsciiUppercase first :: rest.map Str.toAsciiLowercase

/-- `x-forwarded-proto` is `X-Forwarded-Proto`. -/
def canonicalHeader (name : String) : String :=
  String.ofList (['-'].intercalate ((name.toList.splitOn '-').map canonicalSegment))

/-- A check request. Header names are in lower case, as the `http` crate stores them. -/
structure Request where
  method : String
  /-- `none` for a target without a path, such as that of a `CONNECT`. -/
  pathAndQuery : Option String
  headers : List (String × Bytes)

/-- `Uri::path`. -/
def Request.path (req : Request) : String :=
  match req.pathAndQuery with
  | none => ""
  | some pathAndQuery =>
    let path := pathAndQuery.toList.takeWhile (· != '?')
    if path.isEmpty then "/" else String.ofList path

def Request.values (req : Request) (name : String) : List Bytes :=
  (req.headers.filter fun header => header.1 == name).map Prod.snd

/-- Requests that agree on some of the headers have the same values of each of these. -/
theorem Request.values_of_filter {req req' : Request} (p : String → Bool)
    (h : req'.headers.filter (fun header => p header.1) =
      req.headers.filter fun header => p header.1) {name : String} (hname : p name = true) :
    req'.values name = req.values name := by
  have hsub : ∀ headers : List (String × Bytes), headers.filter (fun header => header.1 == name) =
      (headers.filter fun header => p header.1).filter fun header => header.1 == name := by
    intro headers
    rw [List.filter_filter]
    apply List.filter_congr
    intro header _
    by_cases heq : header.1 = name
    · simp [heq, hname]
    · simp [heq]
  rw [Request.values, Request.values, hsub, h, ← hsub]

variable [HttpCrate]

def headerStr (req : Request) (name : String) : Option String :=
  (req.values name).head?.bind HttpCrate.toStr

/-- The first readable value per header. Cookies are left to the sessions. -/
def collectHeaders (req : Request) : Map String :=
  req.headers.foldl (fun out header =>
    if header.1 = "cookie" then out
    else match HttpCrate.toStr header.2 with
      | some v => out.insertIfNew (canonicalHeader header.1) v
      | none => out) ∅

variable [UrlCrate]

def parseQuery (query : String) : Map String :=
  (UrlCrate.formUrlencodedParse query).foldl (fun out (k, v) => out.insertIfNew k v) ∅

/-- Without the parameter, and without the `?` when nothing remains. -/
def stripQueryParam (pathAndQuery param : String) : String :=
  match Str.splitOnce ['?'] pathAndQuery.toList with
  | none => pathAndQuery
  | some (path, query) =>
    let kept := (UrlCrate.formUrlencodedParse (String.ofList query)).filter fun pair =>
      pair.1 != param
    if kept.isEmpty then String.ofList path
    else String.ofList path ++ "?" ++ UrlCrate.formUrlencodedSerialize kept

example : stripPathPrefix "/verify" "/verify?x=1" = some "/?x=1" := by decide

end PangolinGateway
