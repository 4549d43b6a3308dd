import PangolinGateway.Shim.CookieIsolation
import PangolinGateway.Shim.Prefixed
import PangolinGateway.Text.Items

/-! # Signing in

The auth portal sends the browser back with a one-time token. The check exchanges it for a cookie
and sends the browser to the same URL without the token, and that request is the one with the
session that pangolin verifies. -/
namespace PangolinGateway
set_option autoImplicit false
open Calls

/-! ## The cookies of a browser -/

/-- The name and value that a `Set-Cookie` text sets; attributes follow the first `;`. -/
def setCookiePair (text : String) : Option (String × String) :=
  (Str.splitOnce ['='] (text.toList.takeWhile (· != ';'))).map fun (name, value) =>
    (String.ofList (Str.trim name), String.ofList (Str.trim value))

/-- The `Cookie` header that a browser makes of its cookies. -/
def cookieHeader (jar : Map String) : String :=
  String.ofList ([';', ' '].intercalate (jar.toList.map Str.pairText))

/-- Every cookie can stand in a header. -/
def JarValid (jar : Map String) : Prop :=
  ∀ name value : String, jar[name]? = some value → Str.Pair ';' name.toList value.toList

theorem setCookiePair_pair {text name value : String}
    (h : setCookiePair text = some (name, value)) (hname : name ≠ "") :
    Str.Pair ';' name.toList value.toList := by
  obtain ⟨⟨before, after⟩, hsplit, hpair⟩ := Option.map_eq_some_iff.mp h
  obtain ⟨rfl, rfl⟩ := Prod.mk.inj hpair
  obtain ⟨htext, hplain⟩ := Str.splitOnce_singleton_iff.mp hsplit
  have hapart : ';' ∉ before ++ '=' :: after := by
    rw [← htext]
    intro hmem
    simpa using List.mem_takeWhile_imp hmem
  simp only [List.mem_append, List.mem_cons, not_or] at hapart
  simp only [String.toList_ofList]
  refine ⟨⟨?_, ?_, Str.trim_trim _⟩, ?_, Str.trim_trim _, ?_⟩
  · intro hnil
    exact hname (by rw [hnil])
  · exact fun hmem => hapart.1 (Str.trim_subset _ hmem)
  · exact fun hmem => hplain (Str.trim_subset _ hmem)
  · exact fun hmem => hapart.2.2 (Str.trim_subset _ hmem)

/-- What is between the semicolons of a header. -/
def fragments : List (List Char) → List (List Char)
  | [] => [[]]
  | w :: ws => w :: ws.map (' ' :: ·)

theorem splitOn_cookieHeader {ws : List (List Char)} (h : ∀ w ∈ ws, ';' ∉ w) :
    ([';', ' '].intercalate ws).splitOn ';' = fragments ws := by
  cases ws with
  | nil => rfl
  | cons w ws =>
    have hjoin : [';', ' '].intercalate (w :: ws) = [';'].intercalate (w :: ws.map (' ' :: ·)) := by
      induction ws generalizing w with
      | nil => simp
      | cons v ws ih =>
        have htail := ih v fun u hu => h u (List.mem_cons_of_mem _ hu)
        rw [List.intercalate_cons_cons, htail, List.map_cons, List.intercalate_cons_cons,
          List.intercalate_cons_cons_left]
        simp
    rw [hjoin, fragments, List.splitOn_intercalate]
    · intro v hv
      rcases List.mem_cons.mp hv with rfl | hv
      · exact h v List.mem_cons_self
      · obtain ⟨u, hu, rfl⟩ := List.mem_map.mp hv
        simp [h u (List.mem_cons_of_mem _ hu)]
    · simp

theorem trim_space (s : List Char) : Str.trim (' ' :: s) = Str.trim s := rfl

/-- A space in front of a cookie is not part of its name. -/
theorem sessionEntry_space (namePrefix : String) (fragment : List Char) :
    sessionEntry namePrefix (' ' :: fragment) = sessionEntry namePrefix fragment := by
  cases hsplit : Str.splitOnce ['='] fragment with
  | none =>
    have hspace : Str.splitOnce ['='] (' ' :: fragment) = none := by
      rw [Str.splitOnce_singleton] at hsplit ⊢
      simpa using hsplit
    rw [sessionEntry, sessionEntry, hsplit, hspace]
  | some parts =>
    obtain ⟨before, after⟩ := parts
    obtain ⟨rfl, hplain⟩ := Str.splitOnce_singleton_iff.mp hsplit
    have hspace : Str.splitOnce ['='] (' ' :: (before ++ '=' :: after)) =
        some (' ' :: before, after) :=
      Str.splitOnce_singleton_iff.mpr ⟨rfl, by simpa using hplain⟩
    rw [sessionEntry, sessionEntry, hsplit, hspace]
    simp only [Option.bind_some, trim_space]
    rfl

theorem sessionEntry_pairText {name value : String} (h : Str.Pair ';' name.toList value.toList)
    (namePrefix : String) : sessionEntry namePrefix (Str.pairText (name, value)) =
      if namePrefix.toList.isPrefixOf name.toList then some (name, value) else none := by
  rw [sessionEntry, h.splitOnce]
  simp [h.key.trimmed, h.value, h.key.nonempty]

/-- The sessions are the cookies of the browser whose name starts with the prefix. -/
theorem collectSessions_cookieHeader {jar : Map String} (hjar : JarValid jar)
    (namePrefix name : String) : (collectSessions (cookieHeader jar) namePrefix)[name]? =
      if namePrefix.toList.isPrefixOf name.toList then jar[name]? else none := by
  have hpairs : ∀ w ∈ jar.toList.map Str.pairText,
      ∃ name value, jar[name]? = some value ∧ w = Str.pairText (name, value) := by
    rw [List.forall_mem_map]
    rintro ⟨name, value⟩ hmem
    exact ⟨name, value, Std.ExtTreeMap.mem_toList_iff_getElem?_eq_some.mp hmem, rfl⟩
  have happart : ∀ w ∈ jar.toList.map Str.pairText, ';' ∉ w := by
    intro w hw
    obtain ⟨name, value, hset, rfl⟩ := hpairs w hw
    exact ((hjar name value hset).item (by decide)).apart
  have hentries : ((cookieHeader jar).toList.splitOn ';').filterMap (sessionEntry namePrefix) =
      (jar.toList.map Str.pairText).filterMap (sessionEntry namePrefix) := by
    rw [cookieHeader, String.toList_ofList, splitOn_cookieHeader happart]
    cases jar.toList.map Str.pairText with
    | nil => rfl
    | cons w ws =>
      simp only [fragments, List.filterMap_cons, List.filterMap_map, Function.comp_def,
        sessionEntry_space]
  rw [collectSessions_eq, hentries]
  refine Option.ext fun value => ?_
  rw [@InsertLoop.getElem?_insertAll_iff _ _ _ _ _ some _ _ _
    (fun name value => namePrefix.toList.isPrefixOf name.toList ∧ jar[name]? = some value)]
  · split <;> simp [*]
  · intro name value
    constructor
    · rintro ⟨hstarts, hset⟩
      have hmem : Str.pairText (name, value) ∈ jar.toList.map Str.pairText :=
        List.mem_map_of_mem (Std.ExtTreeMap.mem_toList_iff_getElem?_eq_some.mpr hset)
      refine ⟨_, List.mem_filterMap.mpr ⟨_, hmem, ?_⟩, rfl⟩
      rw [sessionEntry_pairText (hjar name value hset), if_pos hstarts]
    · rintro ⟨entry, hentry, hsame⟩
      obtain rfl := Option.some.inj hsame
      obtain ⟨w, hw, hread⟩ := List.mem_filterMap.mp hentry
      obtain ⟨name', value', hset, rfl⟩ := hpairs w hw
      rw [sessionEntry_pairText (hjar name' value' hset)] at hread
      split at hread
      · next hstarts =>
        obtain ⟨rfl, rfl⟩ := Prod.mk.inj (Option.some.inj hread)
        exact ⟨hstarts, hset⟩
      · cases hread
  · rintro name v w ⟨_, hv⟩ ⟨_, hw⟩
    exact Option.some.inj (hv.symm.trans hw)

/-! ## The answer with a cookie -/

section Handler
variable [HttpCrate] [UrlCrate] [JsonCrate]

omit [UrlCrate] [JsonCrate] in
theorem answerVerify_no_cookie (result : Except SessionError VerifyData) (b : Bytes) :
    ("set-cookie", b) ∉ (answerVerify result).headers := by
  cases result with
  | error e => simp [answerVerify, plain]
  | ok data =>
    simp only [answerVerify]
    split
    · split <;> simp [plain]
    · split
      · simp
      · split
        · intro hmem
          obtain ⟨field, hfield, hheader⟩ := List.mem_filterMap.mp hmem
          obtain ⟨value, _, hpair⟩ := Option.map_eq_some_iff.mp hheader
          have hname : field.1 = "set-cookie" := congrArg Prod.fst hpair
          simp only [identityFields, List.mem_cons, List.not_mem_nil, or_false] at hfield
          rcases hfield with rfl | rfl | rfl | rfl | rfl <;> simp at hname
        · simp [plain]

variable {S : Type} {serve : Server ShimCall ShimCall.Reply S} {s : S}

omit [UrlCrate] in
theorem verifyStep_no_cookie [UrlCrate] (cfg : ShimConfig) (req : Request) {resp : Response}
    (h : ((verifyStep cfg req).run serve s).1 = some resp) (b : Bytes) :
    ("set-cookie", b) ∉ resp.headers := by
  rw [verifyStep, Program.run_bind, Program.run_done] at h
  obtain rfl := Option.some.inj h
  exact answerVerify_no_cookie _ b

/-- The handoff of a token for a cookie. -/
structure HandsOff (cfg : ShimConfig) (req : Request) (log : List ((c : ShimCall) × c.Reply))
    (cookie : String) (resp : Response) : Prop where
  named : (host req).isEmpty = false
  exchanged : ∃ url token reply data,
    (checkQuery cfg req)[cfg.resourceSessionRequestParam]? = some token ∧
      log = [⟨.exchangeSession url (exchangeBody req token), reply⟩] ∧
      readExchange reply = .ok data ∧ data.valid = true ∧ data.cookie = some cookie
  nonempty : cookie ≠ ""
  answer : ∃ location setCookie,
    HttpCrate.fromStr (scheme req ++ "://" ++ host req ++
      stripQueryParam (originalPathQ cfg req) cfg.resourceSessionRequestParam) = some location ∧
      HttpCrate.fromStr cookie = some setCookie ∧
      resp = ⟨302, [("location", location), ("set-cookie", setCookie)], ""⟩

omit [HttpCrate] [UrlCrate] [JsonCrate] in
theorem sessionCookie_some {data : ExchangeData} {cookie : String}
    (h : data.sessionCookie = some cookie) :
    data.valid = true ∧ data.cookie = some cookie ∧ cookie ≠ "" := by
  unfold ExchangeData.sessionCookie at h
  split at h
  · next hvalid =>
    obtain ⟨hset, hne⟩ := Option.filter_eq_some_iff.mp h
    exact ⟨hvalid, hset, by simpa using hne⟩
  · cases h

omit [JsonCrate] in
theorem answerHandoff_cookie {cfg : ShimConfig} {req : Request} {cookie : String} {resp : Response}
    {b : Bytes} (hanswer : answerHandoff cfg req cookie = some resp)
    (hcookie : ("set-cookie", b) ∈ resp.headers) :
    ∃ location setCookie,
      HttpCrate.fromStr (scheme req ++ "://" ++ host req ++
        stripQueryParam (originalPathQ cfg req) cfg.resourceSessionRequestParam) = some location ∧
        HttpCrate.fromStr cookie = some setCookie ∧
        resp = ⟨302, [("location", location), ("set-cookie", setCookie)], ""⟩ := by
  unfold answerHandoff at hanswer
  cases hset : HttpCrate.fromStr cookie with
  | none =>
    rw [hset] at hanswer
    obtain rfl := Option.some.inj hanswer
    simp [plain] at hcookie
  | some setCookie =>
    rw [hset] at hanswer
    obtain ⟨location, hlocation, rfl⟩ := Option.map_eq_some_iff.mp hanswer
    exact ⟨location, setCookie, hlocation, rfl, rfl⟩

theorem sets_cookie {cfg : ShimConfig} {req : Request} {resp : Response} {b : Bytes}
    (hanswer : ((check cfg req).run serve s).1 = some resp)
    (hcookie : ("set-cookie", b) ∈ resp.headers) :
    ∃ cookie, HandsOff cfg req ((check cfg req).log serve s) cookie resp := by
  unfold check at hanswer ⊢
  by_cases hhost : (host req).isEmpty
  · rw [if_pos hhost] at hanswer
    obtain rfl := Option.some.inj hanswer
    simp [plain] at hcookie
  rw [if_neg hhost] at hanswer ⊢
  cases htoken : (checkQuery cfg req)[cfg.resourceSessionRequestParam]? with
  | none =>
    rw [htoken] at hanswer
    exact absurd hcookie (verifyStep_no_cookie cfg req hanswer b)
  | some token =>
    rw [htoken] at hanswer
    simp only [exchangeSession] at hanswer ⊢
    cases hurl : endpoint cfg.pangolinApiBaseUrl "badger/exchange-session" with
    | none =>
      rw [hurl] at hanswer
      obtain rfl := Option.some.inj hanswer
      simp [plain] at hcookie
    | some url =>
      rw [hurl] at hanswer
      simp only [Program.bind, Program.run, Program.log] at hanswer ⊢
      cases hread : readExchange (serve (.exchangeSession url (exchangeBody req token)) s).1 with
      | error e =>
        rw [hread] at hanswer
        obtain rfl := Option.some.inj hanswer
        simp [plain] at hcookie
      | ok data =>
        rw [hread] at hanswer
        simp only at hanswer ⊢
        cases hsession : data.sessionCookie with
        | none =>
          rw [hsession] at hanswer
          exact absurd hcookie (verifyStep_no_cookie cfg req hanswer b)
        | some cookie =>
          rw [hsession] at hanswer
          obtain ⟨hvalid, hset, hne⟩ := sessionCookie_some hsession
          refine ⟨cookie, by simpa using hhost, ⟨url, token, _, data, htoken, ?_, hread, hvalid, hset⟩,
            hne, answerHandoff_cookie hanswer hcookie⟩
          simp

/-- A cookie is only ever set by pangolin: for the token of the query, on the way back to the URL
without it. -/
theorem cookie_from_exchange (cfg : ShimConfig) (req : Request)
    (serve : Server ShimCall ShimCall.Reply S) (s : S) (resp : Response)
    (hanswer : ((check cfg req).run serve s).1 = some resp) (b : Bytes) :
    ("set-cookie", b) ∈ resp.headers ↔ ∃ cookie, HttpCrate.fromStr cookie = some b ∧
      HandsOff cfg req ((check cfg req).log serve s) cookie resp := by
  constructor
  · intro hcookie
    obtain ⟨cookie, hoff⟩ := sets_cookie hanswer hcookie
    refine ⟨cookie, ?_, hoff⟩
    obtain ⟨location, setCookie, _, hset, rfl⟩ := hoff.answer
    simp only [List.mem_cons, Prod.mk.injEq, List.not_mem_nil, or_false] at hcookie
    rcases hcookie with ⟨hname, _⟩ | ⟨_, rfl⟩
    · simp at hname
    · exact hset
  · rintro ⟨cookie, hset, hoff⟩
    obtain ⟨location, setCookie, _, hset', rfl⟩ := hoff.answer
    obtain rfl := Option.some.inj (hset.symm.trans hset')
    simp

/-! ## The request that follows -/

/-- The value of a header has the bytes of its text. -/
def FromStrInjective : Prop := ∀ (text text' : String) (b : Bytes),
  HttpCrate.fromStr text = some b → HttpCrate.fromStr text' = some b → text = text'

/-- The check of a path and query behind the prefix answered with the cookie. -/
structure SignedIn (cfg : ShimConfig) (req : Request) (resp : Response) (name value : String) :
    Prop where
  behind : ∃ pathAndQuery : String, req.pathAndQuery = some (cfg.pathPrefix ++ pathAndQuery) ∧
    pathAndQuery.toList.head? = some '/'
  answered : ∃ (S : Type) (serve : Server ShimCall ShimCall.Reply S) (s : S),
    ((check cfg req).run serve s).1 = some resp
  cookie : ∃ cookie b, HttpCrate.fromStr cookie = some b ∧ ("set-cookie", b) ∈ resp.headers ∧
    setCookiePair cookie = some (name, value)
  named : name ≠ ""

/-- The browser goes to the location with its cookies, and Envoy puts the prefix in front of the
path. -/
structure Follows (cfg : ShimConfig) (req : Request) (resp : Response) (jar : Map String)
    (next : Request) : Prop where
  location : ∃ pathAndQuery location, ("location", location) ∈ resp.headers ∧
    HttpCrate.fromStr (scheme req ++ "://" ++ host req ++ pathAndQuery) = some location ∧
    next.pathAndQuery = some (cfg.pathPrefix ++ pathAndQuery)
  host : host next = host req
  cookies : headerStr next "cookie" = some (cookieHeader jar)

/-- What pangolin verifies after a sign-in: the request without its token, with the sessions of the
browser. -/
structure VerifiesSession (cfg : ShimConfig) (req : Request) (jar : Map String) (body : VerifyBody) :
    Prop where
  sessions : ∀ name : String, body.sessions[name]? =
    if cfg.userSessionCookieName.toList.isPrefixOf name.toList then jar[name]? else none
  path : body.path = pathOnly cfg req
  query : ∀ name : String, body.query[name]? =
    if name = cfg.resourceSessionRequestParam then none else (checkQuery cfg req)[name]?

omit [HttpCrate] [JsonCrate] in
/-- Stripping a parameter leaves the others. -/
theorem parseQuery_stripped (hround : FormUrlencodedRoundTrip) (pathAndQuery param name : String) :
    (parseQuery (queryPart (stripQueryParam pathAndQuery param)))[name]? =
      if name = param then none else (parseQuery (queryPart pathAndQuery))[name]? := by
  have hquery : UrlCrate.formUrlencodedParse (queryPart (stripQueryParam pathAndQuery param)) =
      (decodedQuery pathAndQuery).filter fun pair => pair.1 != param := by
    rw [stripQueryParam_eq hround]
    exact decodedQuery_withPairs hround (pathPart_no_question pathAndQuery) _
  rw [parseQuery_lookup, parseQuery_lookup, hquery, FirstWins.lookup_filter_ne]
  rfl

omit [HttpCrate] [JsonCrate] in
theorem stripQueryParam_head (hround : FormUrlencodedRoundTrip) {pathAndQuery : String}
    (h : pathAndQuery.toList.head? = some '/') (param : String) :
    (stripQueryParam pathAndQuery param).toList.head? = some '/' := by
  have hpart : (pathPart pathAndQuery).toList.head? = some '/' := by
    unfold pathPart
    cases hsplit : Str.splitOnce ['?'] pathAndQuery.toList with
    | none => exact h
    | some parts =>
      obtain ⟨path, query⟩ := parts
      rw [(Str.splitOnce_singleton_iff.mp hsplit).1] at h
      cases path with
      | nil => simp at h
      | cons c path => simpa using h
  rw [stripQueryParam_eq hround, withPairs]
  split
  · exact hpart
  · rw [String.toList_append, String.toList_append, List.append_assoc,
      List.head?_append, hpart]
    rfl

/-- A check of a request without the token is one verification. -/
theorem check_without_token {cfg : ShimConfig} {req : Request} (hhost : (host req).isEmpty = false)
    (hquery : (checkQuery cfg req)[cfg.resourceSessionRequestParam]? = none) {url : Url}
    (hurl : endpoint cfg.pangolinApiBaseUrl "badger/verify-session" = some url)
    (serve : Server ShimCall ShimCall.Reply S) (s : S) :
    ∃ reply, (check cfg req).log serve s = [⟨.verifySession url (verifyBody cfg req), reply⟩] ∧
      ((check cfg req).run serve s).1 = some (answerVerify (readVerify reply)) := by
  simp only [check, hhost, hquery, verifyStep, verifySession, hurl]
  exact ⟨_, rfl, rfl⟩

/-- After a handoff the browser is back at its URL, and pangolin verifies the session that it was
handed: no token is exchanged again. -/
theorem sign_in_verified (htext : FromStrInjective) (hround : FormUrlencodedRoundTrip)
    (cfg : ShimConfig) (hpre : cfg.pathPrefix.toList.head? = some '/')
    (hend : ¬EndsInSlash cfg.pathPrefix) (url : Url)
    (hurl : endpoint cfg.pangolinApiBaseUrl "badger/verify-session" = some url) (req : Request)
    (resp : Response) (name value : String) (hin : SignedIn cfg req resp name value)
    (jar : Map String) (hjar : JarValid jar) (next : Request)
    (hnext : Follows cfg req resp (jar.insert name value) next)
    (serve : Server ShimCall ShimCall.Reply S) (s : S) :
    ∃ body reply, (check cfg next).log serve s = [⟨.verifySession url body, reply⟩] ∧
      ((check cfg next).run serve s).1 = some (answerVerify (readVerify reply)) ∧
      VerifiesSession cfg req (jar.insert name value) body := by
  obtain ⟨⟨original, hreq, hslash⟩, ⟨S', serve', s', hanswer⟩, ⟨cookie, b, hset, hcookie, hpair⟩,
    hname⟩ := hin
  obtain ⟨⟨target, location, hlocation, htarget, hpath⟩, hhost, hcookies⟩ := hnext
  obtain ⟨_, hoff⟩ := sets_cookie hanswer hcookie
  have horiginal : originalPathQ cfg req = original := (originalPathQ_append hpre hslash hreq).mpr hend
  -- the location leads to the path and query without the token
  obtain rfl : target = stripQueryParam original cfg.resourceSessionRequestParam := by
    obtain ⟨location', setCookie, hlocation', _, rfl⟩ := hoff.answer
    have hsame : location = location' := by simpa using hlocation
    have htexts := congrArg String.toList (htext _ _ _ htarget (hsame ▸ hlocation'))
    simp only [String.toList_append, List.append_cancel_left_eq, horiginal] at htexts
    exact String.toList_inj.mp htexts
  have hnextPath := (originalPathQ_append hpre (stripQueryParam_head hround hslash
    cfg.resourceSessionRequestParam) hpath).mpr hend
  have hquery : ∀ n : String, (checkQuery cfg next)[n]? =
      if n = cfg.resourceSessionRequestParam then none else (checkQuery cfg req)[n]? := by
    intro n
    rw [checkQuery, checkQuery, queryStr_queryPart, queryStr_queryPart, hnextPath, horiginal,
      parseQuery_stripped hround]
  have hjar' : JarValid (jar.insert name value) := by
    intro n v hv
    rw [Std.ExtTreeMap.getElem?_insert] at hv
    split at hv
    · next heq =>
      obtain rfl := Option.some.inj hv
      rw [← Std.LawfulEqCmp.eq_of_compare heq]
      exact setCookiePair_pair hpair hname
    · exact hjar n v hv
  obtain ⟨reply, hlog, hrun⟩ := check_without_token (hhost ▸ hoff.named)
    ((hquery _).trans (if_pos rfl)) hurl serve s
  refine ⟨verifyBody cfg next, reply, hlog, hrun, ?_, ?_, hquery⟩
  · intro n
    rw [verifyBody, hcookies, Option.getD_some, collectSessions_cookieHeader hjar']
  · rw [verifyBody, pathOnly_pathPart, pathOnly_pathPart, hnextPath, horiginal,
      stripQueryParam_eq hround, pathPart_withPairs (pathPart_no_question original)]

end Handler

/-! ## A sample: a token that pangolin exchanges -/

section Sample

def exchangeEndpoint : Url :=
  ⟨"http://pangolin:3001/api/v1/badger/exchange-session", "http", some "pangolin", some 3001⟩

@[reducible] def signInUrlCrate : UrlCrate where
  parse s :=
    if s = sampleEndpoint.asStr then some sampleEndpoint
    else if s = exchangeEndpoint.asStr then some exchangeEndpoint
    else none
  formUrlencodedParse := FormUrlencoded.parse
  formUrlencodedSerialize := FormUrlencoded.serialize

def exchangedBody : Bytes := jsonBytes
  "\x7b\"data\":\x7b\"valid\":true,\"cookie\":\"p_session_token=abc; Path=/\"\x7d\x7d"

@[reducible] def signInJsonCrate : JsonCrate where
  parse body :=
    if body = exchangedBody then some (.object [("data", .object
      [("valid", .bool true), ("cookie", .string "p_session_token=abc; Path=/")])])
    else none

def signInRequest : Request := sampleRequest "/verify/app?p_session_request=tok" []

def signInResponse : Response :=
  ⟨302, [("location", jsonBytes "https://app.example.com/app"),
    ("set-cookie", jsonBytes "p_session_token=abc; Path=/")], ""⟩

def signedInRequest : Request :=
  sampleRequest "/verify/app" [("cookie", jsonBytes "p_session_token=abc")]

attribute [local instance] sampleHttpCrate signInUrlCrate signInJsonCrate

theorem signIn_answered :
    ((check sampleShimConfig signInRequest).run
      (pangolin (.response 200 (some exchangedBody)) .unreachable) ()).1 = some signInResponse := by
  decide

theorem cookie_from_exchange_sample :
    ∃ cookie, HttpCrate.fromStr cookie = some (jsonBytes "p_session_token=abc; Path=/") ∧
      HandsOff sampleShimConfig signInRequest ((check sampleShimConfig signInRequest).log
        (pangolin (.response 200 (some exchangedBody)) .unreachable) ()) cookie signInResponse :=
  (cookie_from_exchange sampleShimConfig signInRequest _ () signInResponse signIn_answered _).mp
    (by decide)

theorem signIn_signedIn : SignedIn sampleShimConfig signInRequest signInResponse "p_session_token"
    "abc" where
  behind := ⟨"/app?p_session_request=tok", by decide, by decide⟩
  answered := ⟨Unit, _, (), signIn_answered⟩
  cookie := ⟨"p_session_token=abc; Path=/", jsonBytes "p_session_token=abc; Path=/", by decide,
    by decide, by decide⟩
  named := by decide

theorem signIn_follows : Follows sampleShimConfig signInRequest signInResponse
    ((∅ : Map String).insert "p_session_token" "abc") signedInRequest where
  location := ⟨"/app", jsonBytes "https://app.example.com/app", by decide, by decide, by decide⟩
  host := by decide
  cookies := by decide

theorem signInUrlCrate_roundTrip : FormUrlencodedRoundTrip where
  parse_serialize := FormUrlencoded.parse_serialize
  serialize_nil := rfl

/-- The bytes of visible ASCII give the text back. -/
theorem sampleHttpCrate_text {text : String} {b : Bytes} (h : HttpCrate.fromStr text = some b) :
    byteText b = text.toList := by
  obtain ⟨hvisible, hb⟩ := Option.ite_none_right_eq_some.mp h
  obtain rfl := Option.some.inj hb
  rw [byteText, jsonBytes, List.map_map]
  refine (List.map_congr_left fun c hc => ?_).trans (List.map_id _)
  have hc := of_decide_eq_true (List.all_eq_true.mp hvisible c hc)
  have hbyte : (UInt8.ofNat c.toNat).toNat = c.toNat := by
    rw [UInt8.toNat_ofNat']
    rcases hc with rfl | hc
    · rfl
    · omega
  simp [hbyte]

theorem sampleHttpCrate_injective : FromStrInjective := by
  intro text text' b h h'
  rw [← String.toList_inj, ← sampleHttpCrate_text h, ← sampleHttpCrate_text h']

theorem sign_in_verified_sample : ∃ body reply,
    (check sampleShimConfig signedInRequest).log (pangolin .unreachable .unreachable) () =
      [⟨.verifySession sampleEndpoint body, reply⟩] ∧
    ((check sampleShimConfig signedInRequest).run (pangolin .unreachable .unreachable) ()).1 =
      some (answerVerify (readVerify reply)) ∧
    VerifiesSession sampleShimConfig signInRequest
      ((∅ : Map String).insert "p_session_token" "abc") body :=
  sign_in_verified sampleHttpCrate_injective signInUrlCrate_roundTrip sampleShimConfig (by decide)
    (by simp [EndsInSlash, sampleShimConfig]) sampleEndpoint (by rfl) signInRequest
    signInResponse "p_session_token" "abc" signIn_signedIn ∅ (by simp [JarValid]) signedInRequest
    signIn_follows (pangolin .unreachable .unreachable) ()

end Sample

end PangolinGateway
