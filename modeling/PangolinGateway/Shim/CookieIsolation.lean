import PangolinGateway.Maps.InsertLoop
import PangolinGateway.Shim.CanonicalHeaders
import PangolinGateway.Shim.QueryParams

/-! # What other cookies do to a check

Two requests differ in their `Cookie` header only, and the session cookies in it are the same. The
cookies are read off the bytes of the header here, whether or not the header is readable as text. -/
namespace PangolinGateway
set_option autoImplicit false
open Calls

/-! ## Cookies in the bytes of a header -/

/-- One character for each byte. -/
def byteText (value : Bytes) : List Char := value.map fun b => Char.ofNat b.toNat

def utf8Bytes (s : String) : Bytes := s.toList.flatMap String.utf8EncodeChar

def isCookieSpace (c : Char) : Bool := c == ' ' || c == '\t'

def rawCookies (value : Bytes) : List (List Char × List Char) :=
  ((byteText value).splitOn ';').filterMap fun fragment =>
    (Str.splitOnce ['='] fragment).map fun (name, value) =>
      (Str.trimMatches isCookieSpace name, Str.trimMatches isCookieSpace value)

/-- The cookies whose name starts with the prefix, in their order. -/
def sessionCookies (namePrefix : String) (value : Bytes) : List (List Char × List Char) :=
  (rawCookies value).filter fun cookie =>
    !cookie.1.isEmpty && (byteText (utf8Bytes namePrefix)).isPrefixOf cookie.1

/-- Visible ASCII and the tab: the bytes that `HeaderValue::to_str` accepts. -/
def isVisible (b : UInt8) : Bool := b = 9 ∨ (32 ≤ b ∧ b < 127)

def Readable (value : Bytes) : Prop := ∀ b ∈ value, isVisible b = true

instance (value : Bytes) : Decidable (Readable value) :=
  List.decidableBAll (fun b => isVisible b = true) value

theorem byteText_visible {value : Bytes} (h : Readable value) :
    ∀ c ∈ byteText value, c.toNat < 128 ∧ Str.isWhitespace c = isCookieSpace c := by
  have hall : ∀ n < 127, n = 9 ∨ 32 ≤ n →
      Str.isWhitespace (Char.ofNat n) = isCookieSpace (Char.ofNat n) := by decide
  intro c hc
  obtain ⟨b, hb, rfl⟩ := List.mem_map.mp hc
  have hvisible := h b hb
  simp only [isVisible, decide_eq_true_eq, UInt8.le_iff_toNat_le, UInt8.lt_iff_toNat_lt,
    ← UInt8.toNat_inj, UInt8.reduceToNat] at hvisible
  constructor
  · rw [FormUrlencoded.toNat_ofNat_byte]
    omega
  · exact hall b.toNat (by omega) (by omega)

/-- Outside ASCII the encoding starts with a byte that no ASCII text holds. -/
theorem utf8EncodeChar_not_ascii {c : Char} (h : ¬c.toNat < 128) :
    ∃ b bytes, String.utf8EncodeChar c = b :: bytes ∧ 128 ≤ b.toNat := by
  have hval : ¬c.val.toNat ≤ 127 := fun hle => h (Nat.lt_succ_of_le hle)
  unfold String.utf8EncodeChar
  simp only [if_neg hval]
  split
  · exact ⟨_, _, rfl, by rw [UInt8.toNat_ofNat']; omega⟩
  · split
    · exact ⟨_, _, rfl, by rw [UInt8.toNat_ofNat']; omega⟩
    · exact ⟨_, _, rfl, by rw [UInt8.toNat_ofNat']; omega⟩

theorem byteText_ascii {c : Char} (h : c.toNat < 128) :
    byteText (String.utf8EncodeChar c) = [c] := by
  have hb : (UInt8.ofNat c.toNat).toNat = c.toNat := by
    rw [UInt8.toNat_ofNat']
    omega
  have hc : Char.ofNat (UInt8.ofNat c.toNat).toNat = c := by rw [hb, Char.ofNat_toNat]
  have hencode := FormUrlencoded.utf8EncodeChar_byte (b := UInt8.ofNat c.toNat) (by omega)
  rw [hc] at hencode
  rw [hencode, byteText, List.map_singleton, hc]

/-- On ASCII text a prefix is one of characters as much as of bytes. -/
theorem isPrefixOf_utf8 {name : List Char} (hname : ∀ c ∈ name, c.toNat < 128) (s : List Char) :
    (byteText (s.flatMap String.utf8EncodeChar)).isPrefixOf name = s.isPrefixOf name := by
  induction s generalizing name with
  | nil => rfl
  | cons c s ih =>
    have hbytes : byteText ((c :: s).flatMap String.utf8EncodeChar) =
        byteText (String.utf8EncodeChar c) ++ byteText (s.flatMap String.utf8EncodeChar) := by
      rw [List.flatMap_cons, byteText, List.map_append]
      rfl
    rw [hbytes]
    by_cases hascii : c.toNat < 128
    · rw [byteText_ascii hascii, List.singleton_append]
      cases name with
      | nil => rfl
      | cons d name =>
        rw [List.isPrefixOf, List.isPrefixOf, ih fun e he => hname e (List.mem_cons_of_mem _ he)]
    · obtain ⟨b, bytes, hencode, hb⟩ := utf8EncodeChar_not_ascii hascii
      rw [hencode, byteText, List.map_cons, List.cons_append]
      cases name with
      | nil => rfl
      | cons d name =>
        have hd := hname d List.mem_cons_self
        have hchar : Char.ofNat b.toNat ≠ d := by
          rintro rfl
          rw [FormUrlencoded.toNat_ofNat_byte] at hd
          omega
        have hc : c ≠ d := fun heq => hascii (heq ▸ hd)
        rw [List.isPrefixOf, List.isPrefixOf, beq_false_of_ne hchar, beq_false_of_ne hc,
          Bool.false_and, Bool.false_and]

/-! ## Trimming -/

theorem trimMatches_congr {p q : Char → Bool} {s : List Char} (h : ∀ c ∈ s, p c = q c) :
    Str.trimMatches p s = Str.trimMatches q s := by
  have hdrop : ∀ t : List Char, (∀ c ∈ t, p c = q c) → t.dropWhile p = t.dropWhile q := by
    intro t ht
    induction t with
    | nil => rfl
    | cons c t ih =>
      rw [List.dropWhile_cons, List.dropWhile_cons, ht c List.mem_cons_self,
        ih fun d hd => ht d (List.mem_cons_of_mem _ hd)]
  have hstart := hdrop s h
  unfold Str.trimMatches Str.trimStartMatches Str.trimEndMatches List.rdropWhile
  rw [hstart, hdrop]
  intro c hc
  exact h c ((List.dropWhile_suffix _).subset (List.mem_reverse.mp hc))

/-! ## The sessions of a readable header -/

/-- What a fragment of the header contributes to the sessions. -/
def sessionEntry (namePrefix : String) (fragment : List Char) : Option (String × String) :=
  (Str.splitOnce ['='] fragment).bind fun (name, value) =>
    let name := Str.trim name
    if name ≠ [] ∧ namePrefix.toList.isPrefixOf name then
      some (String.ofList name, String.ofList (Str.trim value))
    else none

theorem collectSessions_eq (cookieHeader namePrefix : String) :
    collectSessions cookieHeader namePrefix =
      InsertLoop.insertAll some
        ((cookieHeader.toList.splitOn ';').filterMap (sessionEntry namePrefix)) ∅ := by
  rw [InsertLoop.insertAll, List.foldl_filterMap, collectSessions]
  congr 1
  funext sessions fragment
  unfold sessionEntry
  cases Str.splitOnce ['='] fragment with
  | none => rfl
  | some parts =>
    simp only [Option.bind_some]
    split <;> rfl

/-- The sessions read from a readable header are its session cookies. -/
theorem sessionEntries_readable {value : Bytes} (h : Readable value) (namePrefix : String) :
    ((byteText value).splitOn ';').filterMap (sessionEntry namePrefix) =
      (sessionCookies namePrefix value).map fun cookie =>
        (String.ofList cookie.1, String.ofList cookie.2) := by
  rw [sessionCookies, rawCookies, List.filter_filterMap, List.map_filterMap]
  apply List.filterMap_congr
  intro fragment hfragment
  have hvisible := byteText_visible h
  have hsub := Split.subset_of_mem_splitOn hfragment
  unfold sessionEntry
  cases hsplit : Str.splitOnce ['='] fragment with
  | none => rfl
  | some parts =>
    obtain ⟨name, text⟩ := parts
    obtain ⟨rfl, _⟩ := Str.splitOnce_singleton_iff.mp hsplit
    have hname : ∀ c ∈ name, c.toNat < 128 ∧ Str.isWhitespace c = isCookieSpace c :=
      fun c hc => hvisible c (hsub (List.mem_append_left _ hc))
    have htext : ∀ c ∈ text, Str.isWhitespace c = isCookieSpace c :=
      fun c hc => (hvisible c (hsub (List.mem_append_right _ (List.mem_cons_of_mem _ hc)))).2
    have htrimName : Str.trim name = Str.trimMatches isCookieSpace name :=
      trimMatches_congr fun c hc => (hname c hc).2
    have htrimText : Str.trim text = Str.trimMatches isCookieSpace text := trimMatches_congr htext
    have hascii : ∀ c ∈ Str.trimMatches isCookieSpace name, c.toNat < 128 := by
      intro c hc
      exact (hname c ((List.dropWhile_suffix _).subset
        ((List.rdropWhile_prefix _ _).subset hc))).1
    simp only [Option.bind_some, Option.map_some, htrimName, htrimText, utf8Bytes,
      isPrefixOf_utf8 hascii, Option.filter_some]
    have hkept : (!(Str.trimMatches isCookieSpace name).isEmpty &&
        namePrefix.toList.isPrefixOf (Str.trimMatches isCookieSpace name)) = true ↔
          Str.trimMatches isCookieSpace name ≠ [] ∧
            namePrefix.toList.isPrefixOf (Str.trimMatches isCookieSpace name) = true := by
      simp
    simp only [hkept]
    split <;> rfl

/-! ## What a check reads -/

section Handler
variable [HttpCrate]

/-- `HeaderValue::to_str`. -/
def ToStrVisible : Prop := ∀ value : Bytes,
  HttpCrate.toStr value = if Readable value then some (String.ofList (byteText value)) else none

def cookieSessions (cfg : ShimConfig) (req : Request) : Map String :=
  collectSessions ((headerStr req "cookie").getD "") cfg.userSessionCookieName

def sessionMap (cookies : List (List Char × List Char)) : Map String :=
  InsertLoop.insertAll some
    (cookies.map fun cookie => (String.ofList cookie.1, String.ofList cookie.2)) ∅

omit [HttpCrate] in
theorem sessionMap_eq_empty_iff {cookies : List (List Char × List Char)} :
    sessionMap cookies = ∅ ↔ cookies = [] := by
  constructor
  · intro hempty
    cases cookies with
    | nil => rfl
    | cons cookie cookies =>
      obtain ⟨_, _, _, _, hlookup⟩ := InsertLoop.insertAll_written some (∅ : Map String)
        (List.mem_cons_self (a := (String.ofList cookie.1, String.ofList cookie.2))
          (l := cookies.map fun cookie => (String.ofList cookie.1, String.ofList cookie.2))) rfl
      change (sessionMap (cookie :: cookies))[String.ofList cookie.1]? = _ at hlookup
      rw [hempty] at hlookup
      simp at hlookup
  · rintro rfl
    rfl

theorem cookieSessions_of_value (htoStr : ToStrVisible) (cfg : ShimConfig) {req : Request}
    {value : Bytes} (hvalue : req.values "cookie" = [value]) :
    cookieSessions cfg req =
      if Readable value then sessionMap (sessionCookies cfg.userSessionCookieName value) else ∅ := by
  have hheader : headerStr req "cookie" = HttpCrate.toStr value := by
    rw [headerStr, hvalue, List.head?_cons, Option.bind_some]
  rw [cookieSessions, hheader, htoStr]
  by_cases hreadable : Readable value
  · rw [if_pos hreadable, if_pos hreadable, Option.getD_some, collectSessions_eq,
      String.toList_ofList, sessionEntries_readable hreadable, sessionMap]
  · rw [if_neg hreadable, if_neg hreadable]
    rfl

/-! ## Two runs -/

/-- The requests differ in their one `Cookie` header only. -/
structure SameButCookie (req req' : Request) (value value' : Bytes) : Prop where
  method : req'.method = req.method
  pathAndQuery : req'.pathAndQuery = req.pathAndQuery
  headers : req'.headers.filter (fun header => header.1 != "cookie") =
    req.headers.filter fun header => header.1 != "cookie"
  cookie : req.values "cookie" = [value]
  cookie' : req'.values "cookie" = [value']

theorem SameButCookie.headerStr {req req' : Request} {value value' : Bytes}
    (h : SameButCookie req req' value value') {name : String} (hname : name ≠ "cookie") :
    headerStr req' name = headerStr req name := by
  rw [PangolinGateway.headerStr,
    Request.values_of_filter (fun name => name != "cookie") h.headers (by simpa using hname),
    PangolinGateway.headerStr]

theorem collectHeaders_filter (req : Request) : collectHeaders req = FirstWins.insertNew
    ((req.headers.filter fun header => header.1 != "cookie").filterMap headerEntry) ∅ := by
  rw [collectHeaders_eq, List.filterMap_filter]
  congr 1
  apply List.filterMap_congr
  intro header _
  by_cases hcookie : header.1 = "cookie"
  · simp [headerEntry, hcookie]
  · simp [hcookie]

variable [UrlCrate]

/-- Of what pangolin is sent, only the sessions can differ. -/
theorem SameButCookie.verifyBody {cfg : ShimConfig} {req req' : Request} {value value' : Bytes}
    (h : SameButCookie req req' value value') : verifyBody cfg req' =
      { PangolinGateway.verifyBody cfg req with sessions := cookieSessions cfg req' } := by
  have hpath : originalPathQ cfg req' = originalPathQ cfg req := by
    rw [originalPathQ, originalPathQ, fullPath, fullPath, h.pathAndQuery]
  have hquery : checkQuery cfg req' = checkQuery cfg req := by
    rw [checkQuery, checkQuery, queryStr_queryPart, queryStr_queryPart, hpath]
  have hscheme : scheme req' = scheme req := by
    rw [scheme, scheme, h.headerStr (by decide)]
  have hhost : host req' = host req := by rw [host, host, h.headerStr (by decide)]
  have hip : requestIp req' = requestIp req := by
    rw [requestIp, requestIp, h.headerStr (by decide)]
  have hheaders : collectHeaders req' = collectHeaders req := by
    rw [collectHeaders_filter, collectHeaders_filter, h.headers]
  simp only [PangolinGateway.verifyBody, hheaders, hquery, hscheme, hhost, hpath, hip, h.method,
    pathOnly_pathPart, cookieSessions]

theorem SameButCookie.verifyBody_iff (htoStr : ToStrVisible) {cfg : ShimConfig}
    {req req' : Request} {value value' : Bytes} (h : SameButCookie req req' value value')
    (hcookies : sessionCookies cfg.userSessionCookieName value' =
      sessionCookies cfg.userSessionCookieName value) :
    PangolinGateway.verifyBody cfg req' = PangolinGateway.verifyBody cfg req ↔
      (Readable value ↔ Readable value') ∨
        sessionCookies cfg.userSessionCookieName value = [] := by
  have hsessions : PangolinGateway.verifyBody cfg req' = PangolinGateway.verifyBody cfg req ↔
      cookieSessions cfg req' = cookieSessions cfg req := by
    rw [h.verifyBody]
    constructor
    · intro heq
      exact congrArg VerifyBody.sessions heq
    · intro heq
      rw [heq]
      rfl
  rw [hsessions, cookieSessions_of_value htoStr cfg h.cookie,
    cookieSessions_of_value htoStr cfg h.cookie', hcookies]
  have hempty : sessionMap (sessionCookies cfg.userSessionCookieName value) = ∅ ↔
      sessionCookies cfg.userSessionCookieName value = [] := sessionMap_eq_empty_iff
  by_cases hreadable : Readable value
  · by_cases hreadable' : Readable value'
    · simp [hreadable, hreadable']
    · simp [hreadable, hreadable', ← hempty, eq_comm]
  · by_cases hreadable' : Readable value'
    · simp [hreadable, hreadable', ← hempty]
    · simp [hreadable, hreadable']

/-- Other cookies change what pangolin is asked to verify exactly when they make a header with
session cookies unreadable. -/
theorem cookies_isolated [JsonCrate] (htoStr : ToStrVisible) (cfg : ShimConfig)
    {req req' : Request} {value value' : Bytes} (h : SameButCookie req req' value value')
    (hcookies : sessionCookies cfg.userSessionCookieName value' =
      sessionCookies cfg.userSessionCookieName value) :
    (verifyBody cfg req' = verifyBody cfg req ↔
      (Readable value ↔ Readable value') ∨
        sessionCookies cfg.userSessionCookieName value = []) ∧
    ∀ {S : Type} (serve serve' : Server ShimCall ShimCall.Reply S) (s s' : S) (url url' : Url)
      (body body' : VerifyBody) (reply reply' : PangolinReply),
      ⟨.verifySession url body, reply⟩ ∈ (check cfg req).log serve s →
      ⟨.verifySession url' body', reply'⟩ ∈ (check cfg req').log serve' s' →
        (body' = body ↔ (Readable value ↔ Readable value') ∨
          sessionCookies cfg.userSessionCookieName value = []) := by
  refine ⟨h.verifyBody_iff htoStr hcookies, ?_⟩
  intro S serve serve' s s' url url' body body' reply reply' hmem hmem'
  rw [check_verifies serve hmem, check_verifies serve' hmem']
  exact h.verifyBody_iff htoStr hcookies

end Handler

/-! ## A sample: a session cookie beside another one -/

section Sample
attribute [local instance] sampleHttpCrate sampleEndpointCrate sampleJsonCrate

theorem sampleHttpCrate_toStr : ToStrVisible := by
  intro value
  have hall : value.all isVisible = true ↔ Readable value := List.all_eq_true
  by_cases hreadable : Readable value
  · rw [if_pos hreadable]
    exact if_pos (hall.mpr hreadable)
  · rw [if_neg hreadable]
    exact if_neg fun hvisible => hreadable (hall.mp hvisible)

def cookieRequest (value : Bytes) : Request := sampleRequest "/verify/x" [("cookie", value)]

theorem cookieRequest_same (value value' : Bytes) :
    SameButCookie (cookieRequest value) (cookieRequest value') value value' :=
  ⟨rfl, rfl, rfl, rfl, rfl⟩

/-- A text cookie in front, and a fragment without `=` behind. -/
theorem cookies_isolated_text :
    verifyBody sampleShimConfig (cookieRequest (jsonBytes "a=b; p_session_token=7; q")) =
      verifyBody sampleShimConfig (cookieRequest (jsonBytes "p_session_token=7")) := by
  refine (cookies_isolated sampleHttpCrate_toStr sampleShimConfig
    (cookieRequest_same (jsonBytes "p_session_token=7") (jsonBytes "a=b; p_session_token=7; q"))
    (by decide)).1.mpr (Or.inl ?_)
  exact iff_of_true (by decide) (by decide)

/-- Another cookie with a byte outside ASCII hides the session. -/
theorem cookie_hides_session :
    ¬ ∀ (cfg : ShimConfig) (req req' : Request) (value value' : Bytes),
      SameButCookie req req' value value' →
      sessionCookies cfg.userSessionCookieName value' =
        sessionCookies cfg.userSessionCookieName value →
      verifyBody cfg req' = verifyBody cfg req := by
  intro h
  have hsame := cookieRequest_same (jsonBytes "p_session_token=7")
    (jsonBytes "p_session_token=7; a=" ++ [200])
  have hcookies : sessionCookies sampleShimConfig.userSessionCookieName
      (jsonBytes "p_session_token=7; a=" ++ [200]) =
        sessionCookies sampleShimConfig.userSessionCookieName (jsonBytes "p_session_token=7") := by
    decide
  have hequal := h sampleShimConfig _ _ _ _ hsame hcookies
  rw [hsame.verifyBody_iff sampleHttpCrate_toStr hcookies] at hequal
  revert hequal
  decide

end Sample

end PangolinGateway
