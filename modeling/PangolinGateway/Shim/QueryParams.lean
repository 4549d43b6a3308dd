import PangolinGateway.Maps.FirstWins
import PangolinGateway.Shim.Check
import PangolinGateway.Text.FormUrlencoded

/-! # Query parameters: what is read and what is stripped

The session token is read from the query by `parseQuery` and removed from it by `stripQueryParam`.
Both go through the pairs that the query decodes to. -/
namespace PangolinGateway
set_option autoImplicit false
open Calls

def pathPart (pathAndQuery : String) : String :=
  match Str.splitOnce ['?'] pathAndQuery.toList with
  | some (path, _) => String.ofList path
  | none => pathAndQuery

/-- The text behind the first `?`, empty without one. -/
def queryPart (pathAndQuery : String) : String :=
  match Str.splitOnce ['?'] pathAndQuery.toList with
  | some (_, query) => String.ofList query
  | none => ""

theorem pathOnly_pathPart (cfg : ShimConfig) (req : Request) :
    pathOnly cfg req = pathPart (originalPathQ cfg req) := rfl

theorem queryStr_queryPart (cfg : ShimConfig) (req : Request) :
    queryStr cfg req = queryPart (originalPathQ cfg req) := rfl

/-! ## Taking a path and query apart -/

section Parts
variable {path : String} (hpath : '?' ∉ path.toList)
include hpath

theorem parts_of_path : pathPart path = path ∧ queryPart path = "" := by
  have hsplit : Str.splitOnce ['?'] path.toList = none := by
    rw [Str.splitOnce_singleton, if_neg hpath]
  simp [pathPart, queryPart, hsplit]

theorem parts_of_query (query : String) :
    pathPart (path ++ "?" ++ query) = path ∧ queryPart (path ++ "?" ++ query) = query := by
  have hsplit : Str.splitOnce ['?'] (path ++ "?" ++ query).toList =
      some (path.toList, query.toList) := by
    rw [Str.splitOnce_singleton_iff]
    simp [hpath]
  simp only [pathPart, queryPart, hsplit, String.ofList_toList, and_self]

end Parts

theorem pathPart_no_question (pathAndQuery : String) : '?' ∉ (pathPart pathAndQuery).toList := by
  unfold pathPart
  cases hsplit : Str.splitOnce ['?'] pathAndQuery.toList with
  | none =>
    simp only
    intro hmem
    rw [Str.splitOnce_singleton, if_pos hmem] at hsplit
    cases hsplit
  | some parts =>
    simpa using (Str.splitOnce_singleton_iff.mp hsplit).2

section Query
variable [UrlCrate]

def decodedQuery (pathAndQuery : String) : List (String × String) :=
  UrlCrate.formUrlencodedParse (queryPart pathAndQuery)

theorem parseQuery_lookup (query name : String) :
    (parseQuery query)[name]? = (UrlCrate.formUrlencodedParse query).lookup name :=
  FirstWins.lookup_insertNew (UrlCrate.formUrlencodedParse query) name

/-- A path with the query that pairs are serialized to. -/
def withPairs (path : String) (pairs : List (String × String)) : String :=
  if pairs.isEmpty then path else path ++ "?" ++ UrlCrate.formUrlencodedSerialize pairs

theorem pathPart_withPairs {path : String} (hpath : '?' ∉ path.toList)
    (pairs : List (String × String)) : pathPart (withPairs path pairs) = path := by
  unfold withPairs
  by_cases hempty : pairs.isEmpty
  · rw [if_pos hempty, (parts_of_path hpath).1]
  · rw [if_neg hempty, (parts_of_query hpath _).1]

/-- Parsing undoes serializing, and without a pair there is nothing to serialize. -/
structure FormUrlencodedRoundTrip : Prop where
  parse_serialize : ∀ pairs : List (String × String),
    UrlCrate.formUrlencodedParse (UrlCrate.formUrlencodedSerialize pairs) = pairs
  serialize_nil : UrlCrate.formUrlencodedSerialize [] = ""

variable (hround : FormUrlencodedRoundTrip)
include hround

theorem FormUrlencodedRoundTrip.parse_empty : UrlCrate.formUrlencodedParse "" = [] := by
  rw [← hround.serialize_nil, hround.parse_serialize]

theorem decodedQuery_withPairs {path : String} (hpath : '?' ∉ path.toList)
    (pairs : List (String × String)) : decodedQuery (withPairs path pairs) = pairs := by
  unfold withPairs decodedQuery
  by_cases hempty : pairs.isEmpty
  · rw [if_pos hempty, (parts_of_path hpath).2, hround.parse_empty, List.isEmpty_iff.mp hempty]
  · rw [if_neg hempty, (parts_of_query hpath _).2, hround.parse_serialize]

theorem stripQueryParam_eq (pathAndQuery param : String) :
    stripQueryParam pathAndQuery param = withPairs (pathPart pathAndQuery)
      ((decodedQuery pathAndQuery).filter fun pair => pair.1 != param) := by
  unfold stripQueryParam withPairs pathPart decodedQuery queryPart
  cases Str.splitOnce ['?'] pathAndQuery.toList with
  | none => simp [hround.parse_empty]
  | some parts => rfl

/-! ## The query of a check -/

section Handler
variable [HttpCrate] [JsonCrate]

omit hround in
/-- A check exchanges a token only if it reads the parameter from its query. -/
theorem check_verifies_only {cfg : ShimConfig} {req : Request}
    (hquery : (checkQuery cfg req)[cfg.resourceSessionRequestParam]? = none) {S : Type}
    (serve : Server ShimCall ShimCall.Reply S) (s : S) :
    ∀ entry ∈ (check cfg req).log serve s, entry.1.verifies := by
  unfold check
  split
  · simp [Program.log]
  · rw [hquery]
    simp only [verifyStep, verifySession]
    cases endpoint cfg.pangolinApiBaseUrl "badger/verify-session" with
    | none => simp [Program.bind]
    | some url => simp [Program.bind, Program.log, ShimCall.verifies]

/-- Stripping a parameter keeps the path and the other pairs in their order. The parameter is then
not read from the query, so that a check of the stripped path and query exchanges no token. -/
theorem stripQueryParam_spec (pathAndQuery param : String) :
    pathPart (stripQueryParam pathAndQuery param) = pathPart pathAndQuery ∧
      decodedQuery (stripQueryParam pathAndQuery param) =
        (decodedQuery pathAndQuery).filter (fun pair => pair.1 != param) ∧
      (∀ name, (parseQuery (queryPart (stripQueryParam pathAndQuery param)))[name]? =
        if name = param then none else (parseQuery (queryPart pathAndQuery))[name]?) ∧
      stripQueryParam (stripQueryParam pathAndQuery param) param =
        stripQueryParam pathAndQuery param ∧
      ∀ (cfg : ShimConfig) (req : Request), cfg.resourceSessionRequestParam = param →
        originalPathQ cfg req = stripQueryParam pathAndQuery param →
          ∀ {S : Type} (serve : Server ShimCall ShimCall.Reply S) (s : S),
            ∀ entry ∈ (check cfg req).log serve s, entry.1.verifies := by
  have hpath := pathPart_no_question pathAndQuery
  have hquery : decodedQuery (stripQueryParam pathAndQuery param) =
      (decodedQuery pathAndQuery).filter fun pair => pair.1 != param := by
    rw [stripQueryParam_eq hround, decodedQuery_withPairs hround hpath]
  have hkeeps : pathPart (stripQueryParam pathAndQuery param) = pathPart pathAndQuery := by
    rw [stripQueryParam_eq hround, pathPart_withPairs hpath]
  have hread : ∀ name, (parseQuery (queryPart (stripQueryParam pathAndQuery param)))[name]? =
      if name = param then none else (parseQuery (queryPart pathAndQuery))[name]? := by
    intro name
    rw [parseQuery_lookup, parseQuery_lookup]
    change (decodedQuery (stripQueryParam pathAndQuery param)).lookup name = _
    rw [hquery, FirstWins.lookup_filter_ne]
    rfl
  refine ⟨hkeeps, hquery, hread, ?_, ?_⟩
  · rw [stripQueryParam_eq hround (stripQueryParam pathAndQuery param), hkeeps, hquery,
      List.filter_filter, stripQueryParam_eq hround]
    simp
  · rintro cfg req rfl horiginal S serve s
    apply check_verifies_only
    rw [checkQuery, queryStr_queryPart, horiginal, hread, if_pos rfl]

end Handler
end Query

section Sample

@[reducible] def sampleFormCrate : UrlCrate where
  parse _ := none
  formUrlencodedParse := FormUrlencoded.parse
  formUrlencodedSerialize := FormUrlencoded.serialize

attribute [local instance] sampleHttpCrate sampleFormCrate sampleJsonCrate

theorem sampleFormCrate_roundTrip : FormUrlencodedRoundTrip where
  parse_serialize := FormUrlencoded.parse_serialize
  serialize_nil := rfl

theorem stripQueryParam_token :
    decodedQuery (stripQueryParam
      (withPairs "/app" [("p_session_request", "tok"), ("keep", "1"), ("p_session_request", "")])
        "p_session_request") = [("keep", "1")] := by
  rw [(stripQueryParam_spec sampleFormCrate_roundTrip _ "p_session_request").2.1,
    decodedQuery_withPairs sampleFormCrate_roundTrip (by decide)]
  decide

end Sample

end PangolinGateway
