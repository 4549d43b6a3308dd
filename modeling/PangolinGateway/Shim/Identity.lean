import PangolinGateway.Shim.FailClosed

/-! # The verified identity of an upstream request

Envoy lets the headers of a 200 answer replace those of the client, and leaves the client's own value
of a header that the answer does not carry. -/
namespace PangolinGateway
set_option autoImplicit false
open Calls

def identityNames : List String := identityFields.map Prod.fst

/-- The requests differ only in the identity headers that the client sent. -/
structure SameButIdentity (req req' : Request) : Prop where
  method : req'.method = req.method
  pathAndQuery : req'.pathAndQuery = req.pathAndQuery
  headers : req'.headers.filter (fun header => !identityNames.contains header.1) =
    req.headers.filter fun header => !identityNames.contains header.1

theorem identityNames_nodup : identityNames.Nodup := by decide

def Response.values (resp : Response) (name : String) : List Bytes :=
  (resp.headers.filter fun header => header.1 == name).map Prod.snd

/-- The values of a header that reach the backend, with the header listed in `headersToBackend`. -/
def upstreamValues (resp : Response) (req : Request) (name : String) : List Bytes :=
  if resp.values name = [] then req.values name else resp.values name

theorem SameButIdentity.values {req req' : Request} (h : SameButIdentity req req') {name : String}
    (hname : name ∉ identityNames) : req'.values name = req.values name :=
  Request.values_of_filter (fun name => !identityNames.contains name) h.headers (by simpa using hname)

section Handler
variable [HttpCrate]

theorem SameButIdentity.headerStr {req req' : Request} (h : SameButIdentity req req') {name : String}
    (hname : name ∉ identityNames) : headerStr req' name = headerStr req name := by
  rw [PangolinGateway.headerStr, h.values hname, PangolinGateway.headerStr]

/-! ## The headers of a 200 answer -/

def identityValue (userData : Option UserData) (field : String × (UserData → Option String)) :
    Option Bytes :=
  (userData.bind field.2).bind HttpCrate.fromStr

theorem filterMap_identity {fields : List (String × (UserData → Option String))}
    (hnodup : (fields.map Prod.fst).Nodup) (userData : Option UserData)
    {field : String × (UserData → Option String)} (hmem : field ∈ fields) :
    ((fields.filterMap (identityHeader userData)).filter fun header => header.1 == field.1).map
      Prod.snd = (identityValue userData field).toList := by
  have hnone : ∀ rest : List (String × (UserData → Option String)), field.1 ∉ rest.map Prod.fst →
      (rest.filterMap (identityHeader userData)).filter (fun header => header.1 == field.1) = [] := by
    intro rest hrest
    rw [List.filter_eq_nil_iff]
    intro header hheader heq
    obtain ⟨other, hother, hvalue⟩ := List.mem_filterMap.mp hheader
    obtain ⟨value, _, rfl⟩ := Option.map_eq_some_iff.mp hvalue
    exact hrest (List.mem_map.mpr ⟨other, hother, by simpa using heq⟩)
  have hhead : ∀ other : String × (UserData → Option String),
      identityHeader userData other = (identityValue userData other).map fun v => (other.1, v) :=
    fun _ => rfl
  induction fields with
  | nil => simp at hmem
  | cons other rest ih =>
    obtain ⟨hnotin, hrest⟩ := List.nodup_cons.mp hnodup
    rcases List.mem_cons.mp hmem with rfl | hmem
    · rw [List.filterMap_cons, hhead]
      cases identityValue userData field with
      | none => simp [hnone rest hnotin]
      | some value => simp [hnone rest hnotin]
    · have hne : other.1 ≠ field.1 := fun heq =>
        hnotin (heq ▸ List.mem_map.mpr ⟨field, hmem, rfl⟩)
      rw [List.filterMap_cons, hhead]
      cases identityValue userData other with
      | none => exact ih hrest hmem
      | some value => simpa [hne] using ih hrest hmem

theorem answerVerify_granted {data : VerifyData} (h : data.Grants) :
    answerVerify (.ok data) = ⟨200, identityFields.filterMap (identityHeader data.userData), ""⟩ := by
  have hchallenged : data.headerAuthChallenged.getD false = false := by
    cases hc : data.headerAuthChallenged with
    | none => rfl
    | some b =>
      cases b with
      | false => rfl
      | true => exact absurd hc h.challenged
  simp [answerVerify, VerifyData.redirect_none.mpr h.redirectUrl, hchallenged, h.valid]

/-- What reaches the backend: the value that the answer carries, else what the client sent. -/
theorem upstream_granted {data : VerifyData} (h : data.Grants) (req : Request)
    {field : String × (UserData → Option String)} (hfield : field ∈ identityFields) :
    upstreamValues (answerVerify (.ok data)) req field.1 =
      match identityValue data.userData field with
      | some value => [value]
      | none => req.values field.1 := by
  have hvalues : (answerVerify (.ok data)).values field.1 =
      (identityValue data.userData field).toList := by
    rw [answerVerify_granted h]
    exact filterMap_identity identityNames_nodup data.userData hfield
  rw [upstreamValues, hvalues]
  cases identityValue data.userData field <;> rfl

variable [UrlCrate] [JsonCrate]

/-! ## The identity headers decide nothing -/

theorem run_verifyStep (cfg : ShimConfig) (req : Request) (exchange verify : PangolinReply) :
    ((verifyStep cfg req).run (pangolin exchange verify) ()).1 =
      some (answerVerify (match endpoint cfg.pangolinApiBaseUrl "badger/verify-session" with
        | none => .error .endpoint
        | some _ => readVerify verify)) := by
  unfold verifyStep verifySession
  cases endpoint cfg.pangolinApiBaseUrl "badger/verify-session" <;> rfl

omit [HttpCrate] in
theorem run_exchangeSession (cfg : ShimConfig) (body : ExchangeBody)
    (exchange verify : PangolinReply) :
    ((exchangeSession cfg body).run (pangolin exchange verify) ()).1 =
      match endpoint cfg.pangolinApiBaseUrl "badger/exchange-session" with
      | none => .error .endpoint
      | some _ => readExchange exchange := by
  unfold exchangeSession
  cases endpoint cfg.pangolinApiBaseUrl "badger/exchange-session" <;> rfl

theorem SameButIdentity.answer {req req' : Request} (h : SameButIdentity req req')
    (cfg : ShimConfig) (exchange verify : PangolinReply) :
    ((check cfg req').run (pangolin exchange verify) ()).1 =
      ((check cfg req).run (pangolin exchange verify) ()).1 := by
  have hhost : host req' = host req := by
    rw [host, h.headerStr (by decide), host]
  have hscheme : scheme req' = scheme req := by
    rw [scheme, h.headerStr (by decide), scheme]
  have hpath : originalPathQ cfg req' = originalPathQ cfg req := by
    rw [originalPathQ, fullPath, h.pathAndQuery, ← fullPath, ← originalPathQ]
  have hquery : checkQuery cfg req' = checkQuery cfg req := by
    rw [checkQuery, queryStr, hpath, ← queryStr, ← checkQuery]
  have hhandoff : ∀ cookie, answerHandoff cfg req' cookie = answerHandoff cfg req cookie := by
    intro cookie
    rw [answerHandoff, hscheme, hhost, hpath, ← answerHandoff]
  unfold check
  rw [hhost, hquery]
  split
  · rfl
  · cases (checkQuery cfg req)[cfg.resourceSessionRequestParam]? with
    | none => simp only [run_verifyStep]
    | some token =>
      simp only [Program.run_bind, run_exchangeSession]
      split
      · rfl
      · rename_i data _
        cases data.sessionCookie with
        | some cookie => simp only [Program.run_done, hhandoff]
        | none =>
          exact (run_verifyStep cfg req' exchange verify).trans
            (run_verifyStep cfg req exchange verify).symm

/-! ## Two requests with one answer of pangolin -/

/-- The request is answered with a 2xx status after verify-session gave this reply. -/
def LetThrough (cfg : ShimConfig) (req : Request) (reply : PangolinReply) (resp : Response) : Prop :=
  ∃ (S : Type) (serve : Server ShimCall ShimCall.Reply S) (s : S),
    ((check cfg req).run serve s).1 = some resp ∧ resp.isSuccess ∧
      ∃ url body, ⟨.verifySession url body, reply⟩ ∈ (check cfg req).log serve s

/-- Requests that differ from `base` only in identity headers, and get the same answer from pangolin,
reach the backend with the same identity headers. -/
def SameIdentityUpstream (cfg : ShimConfig) (base : Request) (reply : PangolinReply) : Prop :=
  ∀ req₁ req₂ resp₁ resp₂, SameButIdentity base req₁ → SameButIdentity base req₂ →
    LetThrough cfg req₁ reply resp₁ → LetThrough cfg req₂ reply resp₂ →
      ∀ name ∈ identityNames, upstreamValues resp₁ req₁ name = upstreamValues resp₂ req₂ name

theorem LetThrough.answer {cfg : ShimConfig} {req : Request} {reply : PangolinReply}
    {resp : Response} (h : LetThrough cfg req reply resp) :
    resp = answerVerify (readVerify reply) ∧ resp.isSuccess := by
  obtain ⟨S, serve, s, hanswer, hsuccess, url, body, hmem⟩ := h
  refine ⟨?_, hsuccess⟩
  have hspec := check_checks serve cfg req s
  rw [hanswer] at hspec
  generalize (check cfg req).log serve s = log at hspec hmem
  cases hspec with
  | refused _ _ hdeny _ => exact absurd hsuccess (hdeny resp rfl)
  | verified url' reply' front _ hfront =>
    rcases List.mem_append.mp hmem with hmem | hmem
    · exact absurd trivial (hfront _ hmem)
    · obtain ⟨_, hreply⟩ := Sigma.mk.inj (List.mem_singleton.mp hmem)
      rw [eq_of_heq hreply]

theorem check_pangolin (cfg : ShimConfig) (req : Request) (exchange reply : PangolinReply) :
    (∀ entry ∈ (check cfg req).log (pangolin exchange reply) (), ¬entry.1.verifies) ∧
        (∀ resp, ((check cfg req).run (pangolin exchange reply) ()).1 = some resp →
          ¬resp.isSuccess) ∨
      ((check cfg req).run (pangolin exchange reply) ()).1 =
          some (answerVerify (readVerify reply)) ∧
        ∃ url body, ⟨.verifySession url body, reply⟩ ∈
          (check cfg req).log (pangolin exchange reply) () := by
  have hspec := check_checks (pangolin exchange reply) cfg req ()
  have hreply : ∀ url body reply', ⟨.verifySession url body, reply'⟩ ∈
      (check cfg req).log (pangolin exchange reply) () → reply' = reply := by
    intro url body reply' hmem
    obtain ⟨_, heq⟩ := Program.reply_of_mem_log _ _ _ hmem
    exact heq
  generalize (check cfg req).log (pangolin exchange reply) () = log at hspec hreply ⊢
  generalize ((check cfg req).run (pangolin exchange reply) ()).1 = answer at hspec ⊢
  cases hspec with
  | refused _ _ hdeny hlog => exact Or.inl ⟨hlog, hdeny⟩
  | verified url reply' front _ _ =>
    obtain rfl := hreply url (verifyBody cfg req) reply' (by simp)
    exact Or.inr ⟨rfl, url, verifyBody cfg req, by simp⟩

/-- A request like one that asks verify-session is let through by a reply that grants. -/
theorem letThrough_of_asked {cfg : ShimConfig} {base req : Request}
    {exchange reply : PangolinReply} {data : VerifyData} (hdata : readVerify reply = .ok data)
    (hgrants : data.Grants)
    (hasked : ∃ entry ∈ (check cfg base).log (pangolin exchange reply) (), entry.1.verifies)
    (hsame : SameButIdentity base req) :
    LetThrough cfg req reply (answerVerify (.ok data)) := by
  obtain ⟨entry, hentry, hverifies⟩ := hasked
  have hsuccess : (answerVerify (.ok data)).isSuccess :=
    answerVerify_isSuccess.mpr ⟨data, rfl, hgrants⟩
  have hanswer : ((check cfg req).run (pangolin exchange reply) ()).1 =
      some (answerVerify (.ok data)) := by
    rw [hsame.answer]
    rcases check_pangolin cfg base exchange reply with ⟨hlog, _⟩ | ⟨hanswer, _⟩
    · exact absurd hverifies (hlog entry hentry)
    · rw [hanswer, hdata]
  rcases check_pangolin cfg req exchange reply with ⟨_, hdeny⟩ | ⟨_, hmem⟩
  · exact absurd hsuccess (hdeny _ hanswer)
  · exact ⟨Unit, pangolin exchange reply, (), hanswer, hsuccess, hmem⟩

def Request.withIdentity (req : Request) (identity : List (String × Bytes)) : Request :=
  { req with headers :=
      req.headers.filter (fun header => !identityNames.contains header.1) ++ identity }

omit [HttpCrate] [UrlCrate] [JsonCrate] in
theorem withIdentity_same (req : Request) (identity : List (String × Bytes))
    (h : ∀ header ∈ identity, header.1 ∈ identityNames) :
    SameButIdentity req (req.withIdentity identity) where
  method := rfl
  pathAndQuery := rfl
  headers := by
    have hnone : identity.filter (fun header => !identityNames.contains header.1) = [] := by
      rw [List.filter_eq_nil_iff]
      intro header hheader
      simpa using h header hheader
    simp only [Request.withIdentity, List.filter_append, hnone, List.append_nil, List.filter_filter,
      Bool.and_self]

omit [HttpCrate] [UrlCrate] [JsonCrate] in
theorem withIdentity_values (req : Request) (identity : List (String × Bytes)) {name : String}
    (hname : name ∈ identityNames) : (req.withIdentity identity).values name =
      (identity.filter fun header => header.1 == name).map Prod.snd := by
  have hnone : (req.headers.filter fun header => !identityNames.contains header.1).filter
      (fun header => header.1 == name) = [] := by
    rw [List.filter_filter, List.filter_eq_nil_iff]
    rintro header _ h
    rw [Bool.and_eq_true, beq_iff_eq] at h
    obtain ⟨rfl, hnot⟩ := h
    simp [hname] at hnot
  rw [Request.values, Request.withIdentity, List.filter_append, hnone, List.nil_append]

theorem not_sameIdentityUpstream {cfg : ShimConfig} {base : Request}
    {exchange reply : PangolinReply} {data : VerifyData} (hdata : readVerify reply = .ok data)
    (hgrants : data.Grants)
    (hasked : ∃ entry ∈ (check cfg base).log (pangolin exchange reply) (), entry.1.verifies)
    {field : String × (UserData → Option String)} (hfield : field ∈ identityFields)
    (hmissing : identityValue data.userData field = none) :
    ¬SameIdentityUpstream cfg base reply := by
  intro h
  have hname : field.1 ∈ identityNames := List.mem_map.mpr ⟨field, hfield, rfl⟩
  have hsilent := withIdentity_same base [] (by simp)
  have hclaims := withIdentity_same base [(field.1, jsonBytes "admin")] (by simpa)
  have heq := h _ _ _ _ hsilent hclaims (letThrough_of_asked hdata hgrants hasked hsilent)
    (letThrough_of_asked hdata hgrants hasked hclaims) field.1 hname
  rw [upstream_granted hgrants _ hfield, upstream_granted hgrants _ hfield, hmissing] at heq
  simp [withIdentity_values base _ hname] at heq

/-- The identity headers upstream do not depend on the client exactly when pangolin does not let the
request through, or gives every field a legal header value. -/
theorem sameIdentityUpstream_iff (cfg : ShimConfig) (base : Request)
    (exchange reply : PangolinReply) (data : VerifyData) (hdata : readVerify reply = .ok data)
    (hasked : ∃ entry ∈ (check cfg base).log (pangolin exchange reply) (), entry.1.verifies) :
    SameIdentityUpstream cfg base reply ↔
      ¬data.Grants ∨ ∀ field ∈ identityFields, (identityValue data.userData field).isSome = true := by
  constructor
  · intro h
    by_contra hno
    rw [not_or, not_not] at hno
    obtain ⟨hgrants, hfields⟩ := hno
    simp only [not_forall] at hfields
    obtain ⟨field, hfield, hmissing⟩ := hfields
    exact not_sameIdentityUpstream hdata hgrants hasked hfield (by simpa using hmissing) h
  · intro h req₁ req₂ resp₁ resp₂ _ _ h₁ h₂ name hname
    obtain ⟨rfl, hsuccess⟩ := h₁.answer
    obtain ⟨rfl, _⟩ := h₂.answer
    rw [hdata] at hsuccess ⊢
    obtain ⟨data', hdata', hgrants⟩ := answerVerify_isSuccess.mp hsuccess
    obtain rfl := Except.ok.inj hdata'
    obtain ⟨field, hfield, rfl⟩ := List.mem_map.mp hname
    rcases h with hdeny | hall
    · exact absurd hgrants hdeny
    · obtain ⟨value, hvalue⟩ := Option.isSome_iff_exists.mp (hall field hfield)
      rw [upstream_granted hgrants _ hfield, upstream_granted hgrants _ hfield, hvalue]

end Handler

section Sample
attribute [local instance] sampleHttpCrate sampleEndpointCrate sampleJsonCrate

theorem sample_asked (reply : PangolinReply) :
    ∃ entry ∈ (check sampleShimConfig (sampleRequest "/verify/x" [])).log
      (pangolin .unreachable reply) (), entry.1.verifies := by
  refine ⟨⟨.verifySession sampleEndpoint
    (verifyBody sampleShimConfig (sampleRequest "/verify/x" [])), reply⟩, ?_, trivial⟩
  exact List.mem_cons_self

/-- The session of a user without a role: the client's own `remote-role` reaches the backend. -/
theorem identity_forged :
    ∃ data, readVerify (.response 200 (some grantingBody)) = .ok data ∧ data.valid = true ∧
      ¬SameIdentityUpstream sampleShimConfig (sampleRequest "/verify/x" [])
        (.response 200 (some grantingBody)) := by
  refine ⟨⟨true, none, none, some ⟨some "7", none, none, none, none⟩⟩, rfl, rfl, ?_⟩
  have hrole : ("remote-role", UserData.role) ∈ identityFields := by simp [identityFields]
  exact not_sameIdentityUpstream rfl ⟨rfl, Or.inl rfl, by simp⟩ (sample_asked _) hrole rfl

/-- The session of a user with all five fields. -/
theorem sameIdentityUpstream_sample :
    SameIdentityUpstream sampleShimConfig (sampleRequest "/verify/x" [])
      (.response 200 (some fullBody)) := by
  refine (sameIdentityUpstream_iff sampleShimConfig (sampleRequest "/verify/x" []) .unreachable
    (.response 200 (some fullBody)) ⟨true, none, none,
      some ⟨some "7", some "ann", some "ann@a.b", some "Ann", some "admin"⟩⟩ ?_
    (sample_asked _)).mpr (Or.inr ?_)
  · rfl
  · decide

end Sample
end PangolinGateway
