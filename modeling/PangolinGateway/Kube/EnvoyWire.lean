import PangolinGateway.Json.Members
import PangolinGateway.Kube.Objects

/-! # The Envoy Gateway objects on the wire

The two kinds whose types are part of the repository. What is applied is read again by every listing
of the kind, so a spec has to come back as it was written. -/
namespace PangolinGateway
open Value
set_option autoImplicit false

def asI32 : Value → Option ℤ := asInt Str.InI32

/-! ## `Backend` -/

def BackendIp.members (b : BackendIp) : List (String × Option Value) :=
  [("address", some (string b.address)), ("port", some (int b.port))]

def BackendIp.encode (b : BackendIp) : Value := record b.members

def BackendIp.decode (v : Value) : Option BackendIp := do
  let members ← v.fields ["address", "port"]
  return ⟨← required members "address" asStr, ← required members "port" asI32⟩

def BackendFqdn.members (b : BackendFqdn) : List (String × Option Value) :=
  [("hostname", some (string b.hostname)), ("port", some (int b.port))]

def BackendFqdn.encode (b : BackendFqdn) : Value := record b.members

def BackendFqdn.decode (v : Value) : Option BackendFqdn := do
  let members ← v.fields ["hostname", "port"]
  return ⟨← required members "hostname" asStr, ← required members "port" asI32⟩

def BackendEndpoint.members (e : BackendEndpoint) : List (String × Option Value) :=
  [("ip", e.ip.map BackendIp.encode), ("fqdn", e.fqdn.map BackendFqdn.encode)]

def BackendEndpoint.encode (e : BackendEndpoint) : Value := record e.members

def BackendEndpoint.decode (v : Value) : Option BackendEndpoint := do
  let members ← v.fields ["ip", "fqdn"]
  let ip ← maybe members "ip" BackendIp.decode
  let fqdn ← maybe members "fqdn" BackendFqdn.decode
  return ⟨ip, fqdn⟩

def BackendTlsSettings.members (t : BackendTlsSettings) : List (String × Option Value) :=
  [("wellKnownCACertificates", t.wellKnownCaCertificates.map string),
    ("insecureSkipVerify", t.insecureSkipVerify.map bool), ("sni", t.sni.map string)]

def BackendTlsSettings.encode (t : BackendTlsSettings) : Value := record t.members

def BackendTlsSettings.decode (v : Value) : Option BackendTlsSettings := do
  let members ← v.fields ["wellKnownCACertificates", "insecureSkipVerify", "sni"]
  let wellKnown ← maybe members "wellKnownCACertificates" asStr
  let skip ← maybe members "insecureSkipVerify" asBool
  let sni ← maybe members "sni" asStr
  return ⟨wellKnown, skip, sni⟩

def BackendSpec.members (spec : BackendSpec) : List (String × Option Value) :=
  [("endpoints", some (list BackendEndpoint.encode spec.endpoints)),
    ("tls", spec.tls.map BackendTlsSettings.encode)]

def BackendSpec.encode (spec : BackendSpec) : Value := record spec.members

def BackendSpec.decode (v : Value) : Option BackendSpec := do
  let members ← v.fields ["endpoints", "tls"]
  let endpoints ← required members "endpoints" (asList BackendEndpoint.decode)
  let tls ← maybe members "tls" BackendTlsSettings.decode
  return ⟨endpoints, tls⟩

/-! ## `SecurityPolicy` -/

def PolicyTargetRef.members (ref : PolicyTargetRef) : List (String × Option Value) :=
  [("group", some (string ref.group)), ("kind", some (string ref.kind)),
    ("name", some (string ref.name))]

def PolicyTargetRef.encode (ref : PolicyTargetRef) : Value := record ref.members

def PolicyTargetRef.decode (v : Value) : Option PolicyTargetRef := do
  let members ← v.fields ["group", "kind", "name"]
  return ⟨← required members "group" asStr, ← required members "kind" asStr,
    ← required members "name" asStr⟩

def ExtAuthBackendRef.members (ref : ExtAuthBackendRef) : List (String × Option Value) :=
  [("name", some (string ref.name)), ("namespace", ref.ns.map string),
    ("port", ref.port.map int)]

def ExtAuthBackendRef.encode (ref : ExtAuthBackendRef) : Value := record ref.members

def ExtAuthBackendRef.decode (v : Value) : Option ExtAuthBackendRef := do
  let members ← v.fields ["name", "namespace", "port"]
  let name ← required members "name" asStr
  let ns ← maybe members "namespace" asStr
  let port ← maybe members "port" asI32
  return ⟨name, ns, port⟩

def HttpExtAuthService.members (http : HttpExtAuthService) : List (String × Option Value) :=
  [("backendRefs", some (list ExtAuthBackendRef.encode http.backendRefs)),
    ("path", http.path.map string),
    ("headersToBackend", http.headersToBackend.map (list string))]

def HttpExtAuthService.encode (http : HttpExtAuthService) : Value := record http.members

def HttpExtAuthService.decode (v : Value) : Option HttpExtAuthService := do
  let members ← v.fields ["backendRefs", "path", "headersToBackend"]
  let backendRefs ← required members "backendRefs" (asList ExtAuthBackendRef.decode)
  let path ← maybe members "path" asStr
  let headers ← maybe members "headersToBackend" (asList asStr)
  return ⟨backendRefs, path, headers⟩

def ExtAuth.members (ea : ExtAuth) : List (String × Option Value) :=
  [("http", ea.http.map HttpExtAuthService.encode),
    ("headersToExtAuth", ea.headersToExtAuth.map (list string)),
    ("failOpen", ea.failOpen.map bool)]

def ExtAuth.encode (ea : ExtAuth) : Value := record ea.members

def ExtAuth.decode (v : Value) : Option ExtAuth := do
  let members ← v.fields ["http", "headersToExtAuth", "failOpen"]
  let http ← maybe members "http" HttpExtAuthService.decode
  let headers ← maybe members "headersToExtAuth" (asList asStr)
  let failOpen ← maybe members "failOpen" asBool
  return ⟨http, headers, failOpen⟩

def SecurityPolicySpec.members (spec : SecurityPolicySpec) : List (String × Option Value) :=
  [("targetRefs", some (list PolicyTargetRef.encode spec.targetRefs)),
    ("extAuth", spec.extAuth.map ExtAuth.encode)]

def SecurityPolicySpec.encode (spec : SecurityPolicySpec) : Value := record spec.members

def SecurityPolicySpec.decode (v : Value) : Option SecurityPolicySpec := do
  let members ← v.fields ["targetRefs", "extAuth"]
  let targetRefs ← required members "targetRefs" (asList PolicyTargetRef.decode)
  let extAuth ← maybe members "extAuth" ExtAuth.decode
  return ⟨targetRefs, extAuth⟩

/-! ## What is written is read -/

theorem BackendIp.reads {b : BackendIp} (h : Str.InI32 b.port) :
    Reads BackendIp.decode BackendIp.encode b := by
  have hnames : ["address", "port"].Nodup := by decide
  refine ⟨record_reads rfl hnames ?_, record_ne_null _⟩
  apply bind_reads
  · exact required_reads b.members hnames rfl (reads_str b.address)
  apply bind_reads
  · exact required_reads b.members hnames rfl (reads_int h)
  rfl

theorem BackendFqdn.reads {b : BackendFqdn} (h : Str.InI32 b.port) :
    Reads BackendFqdn.decode BackendFqdn.encode b := by
  have hnames : ["hostname", "port"].Nodup := by decide
  refine ⟨record_reads rfl hnames ?_, record_ne_null _⟩
  apply bind_reads
  · exact required_reads b.members hnames rfl (reads_str b.hostname)
  apply bind_reads
  · exact required_reads b.members hnames rfl (reads_int h)
  rfl

/-- The ports of an endpoint are 32-bit integers. -/
structure BackendEndpoint.Valid (e : BackendEndpoint) : Prop where
  ip : ∀ ip, e.ip = some ip → Str.InI32 ip.port
  fqdn : ∀ fqdn, e.fqdn = some fqdn → Str.InI32 fqdn.port

theorem BackendEndpoint.reads {e : BackendEndpoint} (h : e.Valid) :
    Reads BackendEndpoint.decode BackendEndpoint.encode e := by
  have hnames : ["ip", "fqdn"].Nodup := by decide
  refine ⟨record_reads rfl hnames ?_, record_ne_null _⟩
  apply bind_reads
  · exact maybe_reads e.members hnames rfl fun ip hip => BackendIp.reads (h.ip ip hip)
  apply bind_reads
  · exact maybe_reads e.members hnames rfl fun fqdn hfqdn => BackendFqdn.reads (h.fqdn fqdn hfqdn)
  rfl

theorem BackendTlsSettings.reads (t : BackendTlsSettings) :
    Reads BackendTlsSettings.decode BackendTlsSettings.encode t := by
  have hnames : ["wellKnownCACertificates", "insecureSkipVerify", "sni"].Nodup := by decide
  refine ⟨record_reads rfl hnames ?_, record_ne_null _⟩
  apply bind_reads
  · exact maybe_reads t.members hnames rfl fun text _ => reads_str text
  apply bind_reads
  · exact maybe_reads t.members hnames rfl fun b _ => reads_bool b
  apply bind_reads
  · exact maybe_reads t.members hnames rfl fun text _ => reads_str text
  rfl

theorem BackendSpec.reads {spec : BackendSpec} (h : ∀ e ∈ spec.endpoints, e.Valid) :
    Reads BackendSpec.decode BackendSpec.encode spec := by
  have hnames : ["endpoints", "tls"].Nodup := by decide
  refine ⟨record_reads rfl hnames ?_, record_ne_null _⟩
  apply bind_reads
  · exact required_reads spec.members hnames rfl (reads_list fun e he => (BackendEndpoint.reads (h e he)).back)
  apply bind_reads
  · exact maybe_reads spec.members hnames rfl fun t _ => BackendTlsSettings.reads t
  rfl

theorem PolicyTargetRef.reads (ref : PolicyTargetRef) :
    Reads PolicyTargetRef.decode PolicyTargetRef.encode ref := by
  have hnames : ["group", "kind", "name"].Nodup := by decide
  refine ⟨record_reads rfl hnames ?_, record_ne_null _⟩
  apply bind_reads
  · exact required_reads ref.members hnames rfl (reads_str ref.group)
  apply bind_reads
  · exact required_reads ref.members hnames rfl (reads_str ref.kind)
  apply bind_reads
  · exact required_reads ref.members hnames rfl (reads_str ref.name)
  rfl

theorem ExtAuthBackendRef.reads {ref : ExtAuthBackendRef}
    (h : ∀ port, ref.port = some port → Str.InI32 port) :
    Reads ExtAuthBackendRef.decode ExtAuthBackendRef.encode ref := by
  have hnames : ["name", "namespace", "port"].Nodup := by decide
  refine ⟨record_reads rfl hnames ?_, record_ne_null _⟩
  apply bind_reads
  · exact required_reads ref.members hnames rfl (reads_str ref.name)
  apply bind_reads
  · exact maybe_reads ref.members hnames rfl fun text _ => reads_str text
  apply bind_reads
  · exact maybe_reads ref.members hnames rfl fun port hport => reads_int (h port hport)
  rfl

def HttpExtAuthService.Valid (http : HttpExtAuthService) : Prop :=
  ∀ ref ∈ http.backendRefs, ∀ port, ref.port = some port → Str.InI32 port

theorem HttpExtAuthService.reads {http : HttpExtAuthService} (h : http.Valid) :
    Reads HttpExtAuthService.decode HttpExtAuthService.encode http := by
  have hnames : ["backendRefs", "path", "headersToBackend"].Nodup := by decide
  refine ⟨record_reads rfl hnames ?_, record_ne_null _⟩
  apply bind_reads
  · exact required_reads http.members hnames rfl
      (reads_list fun ref href => (ExtAuthBackendRef.reads (h ref href)).back)
  apply bind_reads
  · exact maybe_reads http.members hnames rfl fun text _ => reads_str text
  apply bind_reads
  · exact maybe_reads http.members hnames rfl fun l _ => reads_list fun _ _ => rfl
  rfl

theorem ExtAuth.reads {ea : ExtAuth} (h : ∀ http, ea.http = some http → http.Valid) :
    Reads ExtAuth.decode ExtAuth.encode ea := by
  have hnames : ["http", "headersToExtAuth", "failOpen"].Nodup := by decide
  refine ⟨record_reads rfl hnames ?_, record_ne_null _⟩
  apply bind_reads
  · exact maybe_reads ea.members hnames rfl fun http hhttp => HttpExtAuthService.reads (h http hhttp)
  apply bind_reads
  · exact maybe_reads ea.members hnames rfl fun l _ => reads_list fun _ _ => rfl
  apply bind_reads
  · exact maybe_reads ea.members hnames rfl fun b _ => reads_bool b
  rfl

def SecurityPolicySpec.Valid (spec : SecurityPolicySpec) : Prop :=
  ∀ ea, spec.extAuth = some ea → ∀ http, ea.http = some http → http.Valid

theorem SecurityPolicySpec.reads {spec : SecurityPolicySpec} (h : spec.Valid) :
    Reads SecurityPolicySpec.decode SecurityPolicySpec.encode spec := by
  have hnames : ["targetRefs", "extAuth"].Nodup := by decide
  refine ⟨record_reads rfl hnames ?_, record_ne_null _⟩
  apply bind_reads
  · exact required_reads spec.members hnames rfl (reads_list fun ref _ => (PolicyTargetRef.reads ref).back)
  apply bind_reads
  · exact maybe_reads spec.members hnames rfl fun ea hea => ExtAuth.reads (h ea hea)
  rfl

end PangolinGateway
