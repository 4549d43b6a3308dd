import PangolinGateway.Pangolin.Decode

/-! # The dynamic configs that can be received

Every config is decoded from some document, apart from what the decoder cannot make: a priority
outside 64 bits, and TLS options that are null. -/
namespace PangolinGateway
open Value
set_option autoImplicit false

/-! ## A document for every config -/

def L4Router.members (r : L4Router) : List (String × Option Value) :=
  [("rule", r.rule.map string), ("service", some (string r.service)),
    ("entryPoints", some (list string r.entryPoints)), ("tls", r.tls.map id)]

def L4Router.document (r : L4Router) : Value := record r.members

def L4Server.members (s : L4Server) : List (String × Option Value) :=
  [("address", some (string s.address))]

def L4Server.document (s : L4Server) : Value := record s.members

def L4LoadBalancer.members (lb : L4LoadBalancer) : List (String × Option Value) :=
  [("servers", some (list L4Server.document lb.servers))]

def L4LoadBalancer.document (lb : L4LoadBalancer) : Value := record lb.members

def L4Service.members (svc : L4Service) : List (String × Option Value) :=
  [("loadBalancer", svc.loadBalancer.map L4LoadBalancer.document), ("weighted", none)]

def L4Service.document (svc : L4Service) : Value := record svc.members

def L4Config.members (l4 : L4Config) : List (String × Option Value) :=
  [("routers", some (map L4Router.document l4.routers)),
    ("services", some (map L4Service.document l4.services))]

def L4Config.document (l4 : L4Config) : Value := record l4.members

def TlsDomain.members (d : TlsDomain) : List (String × Option Value) :=
  [("main", d.main.map string), ("sans", some (list string d.sans))]

def TlsDomain.document (d : TlsDomain) : Value := record d.members

def RouterTls.members (t : RouterTls) : List (String × Option Value) :=
  [("certResolver", t.certResolver.map string),
    ("domains", some (list TlsDomain.document t.domains))]

def RouterTls.document (t : RouterTls) : Value := record t.members

def Router.members (r : Router) : List (String × Option Value) :=
  [("rule", some (string r.rule)), ("service", some (string r.service)),
    ("middlewares", some (list string r.middlewares)),
    ("entryPoints", some (list string r.entryPoints)), ("priority", r.priority.map int),
    ("tls", r.tls.map RouterTls.document)]

def Router.document (r : Router) : Value := record r.members

def LoadBalancerServer.members (s : LoadBalancerServer) : List (String × Option Value) :=
  [("url", some (string s.url))]

def LoadBalancerServer.document (s : LoadBalancerServer) : Value := record s.members

def LoadBalancer.members (lb : LoadBalancer) : List (String × Option Value) :=
  [("servers", some (list LoadBalancerServer.document lb.servers)), ("sticky", none),
    ("serversTransport", lb.serversTransport.map string), ("passHostHeader", none)]

def LoadBalancer.document (lb : LoadBalancer) : Value := record lb.members

def PangService.members (svc : PangService) : List (String × Option Value) :=
  [("loadBalancer", svc.loadBalancer.map LoadBalancer.document), ("weighted", none),
    ("mirroring", none)]

def PangService.document (svc : PangService) : Value := record svc.members

def HttpConfig.members (http : HttpConfig) : List (String × Option Value) :=
  [("routers", some (map Router.document http.routers)),
    ("services", some (map PangService.document http.services)),
    ("middlewares", some (map id http.middlewares)),
    ("serversTransports", some (map id http.serversTransports))]

def HttpConfig.document (http : HttpConfig) : Value := record http.members

def TraefikDynamicConfig.members (c : TraefikDynamicConfig) : List (String × Option Value) :=
  [("http", some c.http.document), ("tcp", c.tcp.map L4Config.document),
    ("udp", c.udp.map L4Config.document)]

def TraefikDynamicConfig.document (c : TraefikDynamicConfig) : Value := record c.members

/-! ## The document is read -/

theorem reads_texts (l : List String) : Reads texts (list string) l :=
  reads_list fun _ _ => rfl

theorem L4Router.reads {r : L4Router} (h : r.tls ≠ some .null) :
    Reads L4Router.decode L4Router.document r := by
  have hnames : ["rule", "service", "entryPoints", "tls"].Nodup := by decide
  refine ⟨record_reads rfl hnames ?_, record_ne_null _⟩
  apply bind_reads
  · exact maybe_reads r.members hnames rfl fun text _ => reads_str text
  apply bind_reads
  · exact fieldOr_reads r.members hnames "" rfl (reads_str r.service)
  apply bind_reads
  · exact fieldOr_reads r.members hnames [] rfl (reads_texts r.entryPoints)
  apply bind_reads
  · exact maybe_reads r.members hnames rfl fun v hv => ⟨rfl, fun hnull => h (hnull ▸ hv)⟩
  rfl

theorem L4Server.reads (s : L4Server) :
    Reads L4Server.decode L4Server.document s := by
  have hnames : ["address"].Nodup := by decide
  refine ⟨record_reads rfl hnames ?_, record_ne_null _⟩
  apply bind_reads
  · exact fieldOr_reads s.members hnames "" rfl (reads_str s.address)
  rfl

theorem L4LoadBalancer.reads (lb : L4LoadBalancer) :
    Reads L4LoadBalancer.decode L4LoadBalancer.document lb := by
  have hnames : ["servers"].Nodup := by decide
  refine ⟨record_reads rfl hnames ?_, record_ne_null _⟩
  apply bind_reads
  · exact fieldOr_reads lb.members hnames [] rfl (reads_list fun s _ => s.reads.back)
  rfl

theorem L4Service.reads (svc : L4Service) :
    Reads L4Service.decode L4Service.document svc := by
  have hnames : ["loadBalancer", "weighted"].Nodup := by decide
  refine ⟨record_reads rfl hnames ?_, record_ne_null _⟩
  apply bind_reads
  · exact maybe_reads svc.members hnames rfl fun lb _ => lb.reads
  rfl

theorem L4Config.reads {l4 : L4Config}
    (h : ∀ (name : String) r, l4.routers[name]? = some r → r.tls ≠ some .null) :
    Reads L4Config.decode L4Config.document l4 := by
  have hnames : ["routers", "services"].Nodup := by decide
  refine ⟨record_reads rfl hnames ?_, record_ne_null _⟩
  apply bind_reads
  · exact fieldOr_reads l4.members hnames ∅ rfl
      (reads_map fun name r hr => (L4Router.reads (h name r hr)).back)
  apply bind_reads
  · exact fieldOr_reads l4.members hnames ∅ rfl
      (reads_map fun _ svc _ => svc.reads.back)
  rfl

theorem TlsDomain.reads (d : TlsDomain) :
    Reads TlsDomain.decode TlsDomain.document d := by
  have hnames : ["main", "sans"].Nodup := by decide
  refine ⟨record_reads rfl hnames ?_, record_ne_null _⟩
  apply bind_reads
  · exact maybe_reads d.members hnames rfl fun text _ => reads_str text
  apply bind_reads
  · exact fieldOr_reads d.members hnames [] rfl (reads_texts d.sans)
  rfl

theorem RouterTls.reads (t : RouterTls) :
    Reads RouterTls.decode RouterTls.document t := by
  have hnames : ["certResolver", "domains"].Nodup := by decide
  refine ⟨record_reads rfl hnames ?_, record_ne_null _⟩
  apply bind_reads
  · exact maybe_reads t.members hnames rfl fun text _ => reads_str text
  apply bind_reads
  · exact fieldOr_reads t.members hnames [] rfl (reads_list fun d _ => d.reads.back)
  rfl

theorem Router.reads {r : Router} (h : ∀ n, r.priority = some n → Str.InI64 n) :
    Reads Router.decode Router.document r := by
  have hnames : ["rule", "service", "middlewares", "entryPoints", "priority", "tls"].Nodup := by
    decide
  refine ⟨record_reads rfl hnames ?_, record_ne_null _⟩
  apply bind_reads
  · exact required_reads r.members hnames rfl (reads_str r.rule)
  apply bind_reads
  · exact required_reads r.members hnames rfl (reads_str r.service)
  apply bind_reads
  · exact fieldOr_reads r.members hnames [] rfl (reads_texts r.middlewares)
  apply bind_reads
  · exact fieldOr_reads r.members hnames [] rfl (reads_texts r.entryPoints)
  apply bind_reads
  · exact maybe_reads r.members hnames rfl fun n hn => reads_int (h n hn)
  apply bind_reads
  · exact maybe_reads r.members hnames rfl fun t _ => t.reads
  rfl

theorem LoadBalancerServer.reads (s : LoadBalancerServer) :
    Reads LoadBalancerServer.decode LoadBalancerServer.document s := by
  have hnames : ["url"].Nodup := by decide
  refine ⟨record_reads rfl hnames ?_, record_ne_null _⟩
  apply bind_reads
  · exact required_reads s.members hnames rfl (reads_str s.url)
  rfl

theorem LoadBalancer.reads (lb : LoadBalancer) :
    Reads LoadBalancer.decode LoadBalancer.document lb := by
  have hnames : ["servers", "sticky", "serversTransport", "passHostHeader"].Nodup := by decide
  refine ⟨record_reads rfl hnames ?_, record_ne_null _⟩
  apply bind_reads
  · exact fieldOr_reads lb.members hnames [] rfl (reads_list fun s _ => s.reads.back)
  apply bind_reads
  · exact maybe_reads lb.members hnames rfl fun text _ => reads_str text
  apply bind_reads
  · exact @maybe_reads _ asBool bool lb.members hnames "passHostHeader" none rfl nofun
  rfl

theorem PangService.reads (svc : PangService) :
    Reads PangService.decode PangService.document svc := by
  have hnames : ["loadBalancer", "weighted", "mirroring"].Nodup := by decide
  refine ⟨record_reads rfl hnames ?_, record_ne_null _⟩
  apply bind_reads
  · exact maybe_reads svc.members hnames rfl fun lb _ => lb.reads
  rfl

theorem HttpConfig.reads {http : HttpConfig}
    (h : ∀ (name : String) r, http.routers[name]? = some r →
      ∀ n, r.priority = some n → Str.InI64 n) :
    Reads HttpConfig.decode HttpConfig.document http := by
  have hnames : ["routers", "services", "middlewares", "serversTransports"].Nodup := by decide
  refine ⟨record_reads rfl hnames ?_, record_ne_null _⟩
  apply bind_reads
  · exact fieldOr_reads http.members hnames ∅ rfl
      (reads_map fun name r hr => (Router.reads (h name r hr)).back)
  apply bind_reads
  · exact fieldOr_reads http.members hnames ∅ rfl
      (reads_map fun _ svc _ => svc.reads.back)
  apply bind_reads
  · exact fieldOr_reads http.members hnames ∅ rfl (reads_map fun _ _ _ => rfl)
  apply bind_reads
  · exact fieldOr_reads http.members hnames ∅ rfl (reads_map fun _ _ _ => rfl)
  rfl

/-! ## What can be received -/

/-- No null survives decoding as TLS options, and a priority is a 64-bit integer. -/
structure TraefikDynamicConfig.Receivable (c : TraefikDynamicConfig) : Prop where
  priorities : ∀ (name : String) r, c.http.routers[name]? = some r →
    ∀ n, r.priority = some n → Str.InI64 n
  tcp : ∀ l4, c.tcp = some l4 → ∀ (name : String) r, l4.routers[name]? = some r →
    r.tls ≠ some .null
  udp : ∀ l4, c.udp = some l4 → ∀ (name : String) r, l4.routers[name]? = some r →
    r.tls ≠ some .null

theorem TraefikDynamicConfig.reads {c : TraefikDynamicConfig} (h : c.Receivable) :
    Reads TraefikDynamicConfig.decode TraefikDynamicConfig.document c := by
  have hnames : ["http", "tcp", "udp"].Nodup := by decide
  refine ⟨record_reads rfl hnames ?_, record_ne_null _⟩
  apply bind_reads
  · exact fieldOr_reads c.members hnames _ rfl (HttpConfig.reads h.priorities)
  apply bind_reads
  · exact maybe_reads c.members hnames rfl fun l4 hl4 => L4Config.reads (h.tcp l4 hl4)
  apply bind_reads
  · exact maybe_reads c.members hnames rfl fun l4 hl4 => L4Config.reads (h.udp l4 hl4)
  rfl

theorem L4Router.tls_of_decode {v : Value} {r : L4Router} (h : L4Router.decode v = some r) :
    r.tls ≠ some .null := by
  obtain ⟨members, _, h⟩ := Option.bind_eq_some_iff.mp h
  obtain ⟨rule, _, h⟩ := Option.bind_eq_some_iff.mp h
  obtain ⟨service, _, h⟩ := Option.bind_eq_some_iff.mp h
  obtain ⟨entryPoints, _, h⟩ := Option.bind_eq_some_iff.mp h
  obtain ⟨tls, htls, h⟩ := Option.bind_eq_some_iff.mp h
  obtain rfl := Option.some.inj h
  intro (hnull : tls = some .null)
  obtain ⟨v, hv, hread⟩ := maybe_some (hnull ▸ htls)
  exact hv (Option.some.inj hread)

theorem Router.priority_of_decode {v : Value} {r : Router} (h : Router.decode v = some r) {n : ℤ}
    (hn : r.priority = some n) : Str.InI64 n := by
  obtain ⟨members, _, h⟩ := Option.bind_eq_some_iff.mp h
  obtain ⟨rule, _, h⟩ := Option.bind_eq_some_iff.mp h
  obtain ⟨service, _, h⟩ := Option.bind_eq_some_iff.mp h
  obtain ⟨middlewares, _, h⟩ := Option.bind_eq_some_iff.mp h
  obtain ⟨entryPoints, _, h⟩ := Option.bind_eq_some_iff.mp h
  obtain ⟨priority, hpriority, h⟩ := Option.bind_eq_some_iff.mp h
  obtain ⟨tls, _, h⟩ := Option.bind_eq_some_iff.mp h
  obtain rfl := Option.some.inj h
  change priority = some n at hn
  obtain ⟨v, _, hread⟩ := maybe_some (hn ▸ hpriority)
  exact asInt_range hread

/-- A map that was decoded, or the empty one of a member left out, has decoded values only. -/
theorem decoded_of_mem {α : Type} {members : List (String × Value)} {name : String}
    {read : Value → Option α} {m : Map α} (h : fieldOr members name (asMap read) ∅ = some m)
    {k : String} {a : α} (hk : m[k]? = some a) : ∃ v, read v = some a := by
  rcases fieldOr_some h with rfl | ⟨v, hv⟩
  · simp at hk
  · exact asMap_some hv hk

theorem L4Config.tls_of_decode {v : Value} {l4 : L4Config} (h : L4Config.decode v = some l4)
    (name : String) (r : L4Router) (hr : l4.routers[name]? = some r) : r.tls ≠ some .null := by
  obtain ⟨members, _, h⟩ := Option.bind_eq_some_iff.mp h
  obtain ⟨routers, hrouters, h⟩ := Option.bind_eq_some_iff.mp h
  obtain ⟨services, _, h⟩ := Option.bind_eq_some_iff.mp h
  obtain rfl := Option.some.inj h
  obtain ⟨v, hv⟩ := decoded_of_mem hrouters hr
  exact L4Router.tls_of_decode hv

theorem HttpConfig.priorities_of_decode {v : Value} {http : HttpConfig}
    (h : HttpConfig.decode v = some http) (name : String) (r : Router)
    (hr : http.routers[name]? = some r) (n : ℤ) (hn : r.priority = some n) : Str.InI64 n := by
  obtain ⟨members, _, h⟩ := Option.bind_eq_some_iff.mp h
  obtain ⟨routers, hrouters, h⟩ := Option.bind_eq_some_iff.mp h
  obtain ⟨services, _, h⟩ := Option.bind_eq_some_iff.mp h
  obtain ⟨middlewares, _, h⟩ := Option.bind_eq_some_iff.mp h
  obtain ⟨transports, _, h⟩ := Option.bind_eq_some_iff.mp h
  obtain rfl := Option.some.inj h
  obtain ⟨v, hv⟩ := decoded_of_mem hrouters hr
  exact Router.priority_of_decode hv hn

theorem TraefikDynamicConfig.receivable_of_decode {v : Value} {c : TraefikDynamicConfig}
    (h : TraefikDynamicConfig.decode v = some c) : c.Receivable := by
  obtain ⟨members, _, h⟩ := Option.bind_eq_some_iff.mp h
  obtain ⟨http, hhttp, h⟩ := Option.bind_eq_some_iff.mp h
  obtain ⟨tcp, htcp, h⟩ := Option.bind_eq_some_iff.mp h
  obtain ⟨udp, hudp, h⟩ := Option.bind_eq_some_iff.mp h
  obtain rfl := Option.some.inj h
  have hl4 : ∀ {name : String} {block : Option L4Config},
      maybe members name L4Config.decode = some block → ∀ l4, block = some l4 →
      ∀ (router : String) r, l4.routers[router]? = some r → r.tls ≠ some .null := by
    rintro name block hblock l4 rfl
    obtain ⟨v, _, hread⟩ := maybe_some hblock
    exact L4Config.tls_of_decode hread
  refine ⟨?_, hl4 htcp, hl4 hudp⟩
  rcases fieldOr_some hhttp with rfl | ⟨v, hv⟩
  · intro name r hr
    simp at hr
  · exact HttpConfig.priorities_of_decode hv

/-- The configs that are decoded from some document. -/
theorem received_iff (c : TraefikDynamicConfig) :
    (∃ v, TraefikDynamicConfig.decode v = some c) ↔ c.Receivable := by
  constructor
  · rintro ⟨v, hv⟩
    exact TraefikDynamicConfig.receivable_of_decode hv
  · exact fun h => ⟨c.document, (TraefikDynamicConfig.reads h).back⟩

end PangolinGateway
