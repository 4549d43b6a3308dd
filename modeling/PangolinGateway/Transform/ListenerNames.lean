import PangolinGateway.Transform.ListenerAttach
import PangolinGateway.Transform.PortClaims

/-! # The names of the listeners

Each listener is named by the label of its family and its host or port. Ports and families never
collide; two hosts do when their names clash once they are sanitised. -/
namespace PangolinGateway
set_option autoImplicit false

variable [DefaultHasher] [UrlCrate]

/-! ## The hosts that get listeners -/

/-- A translated router serves the host. -/
def RoutedHost (cfg : Config) (dynConfig : TraefikDynamicConfig) (host : String) : Prop :=
  ∃ routerName router, Translated cfg dynConfig routerName router ∧ host ∈ (parse router.rule).hosts

/-- A translated router that asked for TLS serves the host. -/
def TlsHost (cfg : Config) (dynConfig : TraefikDynamicConfig) (host : String) : Prop :=
  ∃ routerName router, Translated cfg dynConfig routerName router ∧ router.requestsTls = true ∧
    host ∈ (parse router.rule).hosts

theorem hostnames_iff {cfg : Config} {dynConfig : TraefikDynamicConfig} {host : String} :
    host ∈ (routesStage cfg dynConfig).1.hostnames ↔ RoutedHost cfg dynConfig host := by
  rw [routesStage, buildRoutes_hostnames]
  constructor
  · rintro ⟨entry, hmem, hroute, hhost⟩
    refine ⟨entry.1, entry.2, ⟨Std.ExtTreeMap.mem_toList_iff_getElem?_eq_some.mp hmem, ?_⟩, hhost⟩
    simpa [routeEntry] using hroute
  · rintro ⟨routerName, router, ⟨hrouter, hroute⟩, hhost⟩
    exact ⟨(routerName, router), Std.ExtTreeMap.mem_toList_iff_getElem?_eq_some.mpr hrouter,
      by simpa [routeEntry] using hroute, hhost⟩

/-! ## Distinct names within and across the families -/

omit [DefaultHasher] [UrlCrate] in
theorem set_toList_nodup (hosts : StringSet) : hosts.toList.Nodup :=
  Std.ExtTreeSet.distinct_toList.imp fun hne heq => hne (by simp [heq])

omit [UrlCrate] in
/-- The names of the listeners of one tag are distinct when no two hosts clash under it. -/
theorem hostNames_nodup_iff (tag : String) (hosts : StringSet) :
    (hosts.toList.map fun host => dnsLabel (tag ++ host)).Nodup ↔
      ∀ host ∈ hosts, ∀ host' ∈ hosts, host ≠ host' → ¬NamesClash (tag ++ host) (tag ++ host') := by
  rw [List.nodup_map_iff_inj_on (set_toList_nodup hosts)]
  simp only [Std.ExtTreeSet.mem_toList, dnsLabel_eq_iff]
  constructor
  · intro h host hhost host' hhost' hne hclash
    exact hne (h host hhost host' hhost' hclash)
  · intro h host hhost host' hhost' hclash
    by_contra hne
    exact h host hhost host' hhost' hne hclash

omit [UrlCrate] in
theorem httpListener_names (cfg : Config) (routes : RouteIndex) :
    (routes.hostnames.toList.map (httpListener cfg)).map ListenerSetListener.name =
      routes.hostnames.toList.map fun host => dnsLabel ("http-" ++ host) := by
  simp only [List.map_map, Function.comp_def, httpListener]

omit [UrlCrate] in
theorem httpsListeners_names (cfg : Config) (routes : RouteIndex) :
    (httpsListeners cfg routes).map ListenerSetListener.name =
      if cfg.enableHttpsListeners = true ∧ cfg.tlsSecretTemplate.isSome = true then
        routes.httpsHosts.toList.map fun host => dnsLabel ("https-" ++ host)
      else [] := by
  unfold httpsListeners
  cases cfg.tlsSecretTemplate with
  | none => simp
  | some template =>
    cases cfg.enableHttpsListeners with
    | false => simp
    | true =>
      simp only [if_true, Option.isSome_some, and_self, List.map_map, Function.comp_def,
        httpsListener]

omit [DefaultHasher] [UrlCrate] in
theorem tag_dashed : Dashed "http".toList ∧ Dashed "https".toList :=
  ⟨by decide, by decide⟩

omit [UrlCrate] in
theorem http_ne_https (host host' : String) :
    dnsLabel ("http-" ++ host) ≠ dnsLabel ("https-" ++ host') :=
  dnsLabel_ne_of_tags tag_dashed.1 tag_dashed.2 (by decide) (by decide) (by decide) (by decide)
    (by decide) host host'

omit [UrlCrate] in
theorem http_ne_l4 (host : String) (proto : L4Protocol) (port : ℤ) :
    dnsLabel ("http-" ++ host) ≠ (l4Listener proto port).name ∧
      dnsLabel ("https-" ++ host) ≠ (l4Listener proto port).name := by
  have hproto := infixTag_dashed proto
  simp only [l4Listener]
  constructor
  · apply dnsLabel_ne_of_tags tag_dashed.1 hproto <;> cases proto <;> decide
  · apply dnsLabel_ne_of_tags tag_dashed.2 hproto <;> cases proto <;> decide

omit [UrlCrate] in
theorem tcp_ne_udp (port port' : ℤ) :
    (l4Listener .tcp port).name ≠ (l4Listener .udp port').name := by
  simp only [l4Listener]
  exact dnsLabel_ne_of_tags (infixTag_dashed .tcp) (infixTag_dashed .udp) (by decide) (by decide)
    (by decide) (by decide) (by decide) (toString port) (toString port')

omit [UrlCrate] in
theorem buildL4Family_listed (cfg : Config) (block : Option L4Config) (proto : L4Protocol)
    (enabled : Bool) (desired : Desired) : ∃ claims : PortClaims, ClaimsListed proto claims ∧
      (buildL4Family cfg block proto enabled desired).1 = claims.listeners := by
  unfold buildL4Family
  have hnone : ClaimsListed proto ⟨[], []⟩ := ⟨rfl, List.nodup_nil, by simp⟩
  cases block with
  | none => exact ⟨_, hnone, rfl⟩
  | some block =>
    cases enabled with
    | false => exact ⟨_, hnone, rfl⟩
    | true => exact buildL4_listed cfg block proto desired

/-- The names of the L4 listeners are distinct, and none is the name of a host's listener. -/
theorem l4Names_nodup (cfg : Config) (dynConfig : TraefikDynamicConfig) :
    (((tcpStage cfg dynConfig).1 ++ (udpStage cfg dynConfig).1).map
        ListenerSetListener.name).Nodup ∧
      ∀ host, ∀ name ∈ ((tcpStage cfg dynConfig).1 ++ (udpStage cfg dynConfig).1).map
          ListenerSetListener.name,
        dnsLabel ("http-" ++ host) ≠ name ∧ dnsLabel ("https-" ++ host) ≠ name := by
  obtain ⟨tcp, htcp, htcpEq⟩ := buildL4Family_listed cfg dynConfig.tcp .tcp cfg.enableTcpRoutes
    (routesStage cfg dynConfig).2
  obtain ⟨udp, hudp, hudpEq⟩ := buildL4Family_listed cfg dynConfig.udp .udp cfg.enableUdpRoutes
    (tcpStage cfg dynConfig).2
  have hport : ∀ {proto : L4Protocol} {claims : PortClaims}, ClaimsListed proto claims →
      ∀ name ∈ claims.listeners.map ListenerSetListener.name,
        ∃ port, (l4Listener proto port).name = name := by
    intro proto claims h name hname
    obtain ⟨listener, hlistener, rfl⟩ := List.mem_map.mp hname
    rw [h.listeners] at hlistener
    obtain ⟨claim, _, rfl⟩ := List.mem_map.mp hlistener
    exact ⟨claim.1, rfl⟩
  rw [tcpStage, udpStage, htcpEq, hudpEq, List.map_append]
  constructor
  · rw [List.nodup_append]
    refine ⟨htcp.names_nodup, hudp.names_nodup, ?_⟩
    intro name hname name' hname' heq
    obtain ⟨port, rfl⟩ := hport htcp name hname
    obtain ⟨port', rfl⟩ := hport hudp name' hname'
    exact tcp_ne_udp port port' heq
  · intro host name hname
    rcases List.mem_append.mp hname with hname | hname
    · obtain ⟨port, rfl⟩ := hport htcp name hname
      exact http_ne_l4 host .tcp port
    · obtain ⟨port, rfl⟩ := hport hudp name hname
      exact http_ne_l4 host .udp port

/-! ## All of them -/

/-- No two hosts with listeners of one family have clashing names. -/
structure HostsApart (cfg : Config) (dynConfig : TraefikDynamicConfig) : Prop where
  http : ∀ host, RoutedHost cfg dynConfig host → ∀ host', RoutedHost cfg dynConfig host' →
    host ≠ host' → ¬NamesClash ("http-" ++ host) ("http-" ++ host')
  https : cfg.enableHttpsListeners = true → cfg.tlsSecretTemplate.isSome = true →
    ∀ host, TlsHost cfg dynConfig host → ∀ host', TlsHost cfg dynConfig host' →
      host ≠ host' → ¬NamesClash ("https-" ++ host) ("https-" ++ host')

def ListenerNamesDistinct (desired : Desired) : Prop :=
  ∀ (name : String) (ls : ListenerSet), desired.listenerSets[name]? = some ls →
    (ls.spec.listeners.map ListenerSetListener.name).Nodup

theorem listenerNames_nodup_iff (cfg : Config) (dynConfig : TraefikDynamicConfig) :
    ListenerNamesDistinct (buildDesired cfg dynConfig) ↔
      ((listenerSet cfg (routesStage cfg dynConfig).1
        ((tcpStage cfg dynConfig).1 ++ (udpStage cfg dynConfig).1)).spec.listeners.map
          ListenerSetListener.name).Nodup := by
  unfold ListenerNamesDistinct
  rw [buildDesired_listenerSets]
  constructor
  · intro h
    exact h (dnsLabel cfg.listenerSetName) _ Std.ExtTreeMap.getElem?_insert_self
  · intro h name ls hlookup
    rw [Std.ExtTreeMap.getElem?_insert] at hlookup
    split at hlookup
    · rwa [← Option.some.inj hlookup]
    · simp at hlookup

theorem hostsApart_of_distinct {cfg : Config} {dynConfig : TraefikDynamicConfig}
    (h : ListenerNamesDistinct (buildDesired cfg dynConfig)) : HostsApart cfg dynConfig := by
  have hhttp := hostNames_nodup_iff "http-" (routesStage cfg dynConfig).1.hostnames
  have hhttps := hostNames_nodup_iff "https-" (routesStage cfg dynConfig).1.httpsHosts
  simp only [hostnames_iff] at hhttp
  rw [listenerNames_nodup_iff, listenerSet, List.map_append, List.map_append, httpListener_names,
    httpsListeners_names] at h
  obtain ⟨hhosts, _, _⟩ := List.nodup_append.mp h
  obtain ⟨hplain, htls, _⟩ := List.nodup_append.mp hhosts
  refine ⟨hhttp.mp hplain, ?_⟩
  intro henabled htemplate host hhost host' hhost'
  rw [if_pos ⟨henabled, htemplate⟩] at htls
  exact hhttps.mp htls host (httpsHosts_iff.mpr ⟨henabled, hhost⟩) host'
    (httpsHosts_iff.mpr ⟨henabled, hhost'⟩)

/-- The listeners of the emitted set have distinct names exactly when no hosts clash. -/
theorem listenerNames_distinct_iff (cfg : Config) (dynConfig : TraefikDynamicConfig) :
    ListenerNamesDistinct (buildDesired cfg dynConfig) ↔ HostsApart cfg dynConfig := by
  constructor
  · exact hostsApart_of_distinct
  · intro h
    obtain ⟨hl4, hapart⟩ := l4Names_nodup cfg dynConfig
    have hhttp := hostNames_nodup_iff "http-" (routesStage cfg dynConfig).1.hostnames
    have hhttps := hostNames_nodup_iff "https-" (routesStage cfg dynConfig).1.httpsHosts
    simp only [hostnames_iff] at hhttp
    rw [listenerNames_nodup_iff, listenerSet, List.map_append, List.map_append,
      httpListener_names, httpsListeners_names]
    rw [List.nodup_append, List.nodup_append]
    refine ⟨⟨hhttp.mpr h.http, ?_, ?_⟩, hl4, ?_⟩
    · split
      · next hon =>
        refine hhttps.mpr ?_
        intro host hhost host' hhost'
        exact h.https hon.1 hon.2 host (httpsHosts_iff.mp hhost).2 host' (httpsHosts_iff.mp hhost').2
      · exact List.nodup_nil
    · intro name hname name' hname' heq
      obtain ⟨host, _, rfl⟩ := List.mem_map.mp hname
      split at hname'
      · obtain ⟨host', _, rfl⟩ := List.mem_map.mp hname'
        exact http_ne_https host host' heq
      · simp at hname'
    · intro name hname name' hname' heq
      rcases List.mem_append.mp hname with hname | hname
      · obtain ⟨host, _, rfl⟩ := List.mem_map.mp hname
        exact (hapart host name' hname').1 heq
      · split at hname
        · obtain ⟨host, _, rfl⟩ := List.mem_map.mp hname
          exact (hapart host name' hname').2 heq
        · simp at hname

/-! ## Two hosts that fold together -/

def foldedRouters : List (String × Router) :=
  [("dots", ⟨"Host(`a.b`)", "app", [], ["http"], none, none⟩),
    ("dash", ⟨"Host(`a-b`)", "app", [], ["http"], none, none⟩)]

omit [DefaultHasher] [UrlCrate] in
/-- The hosts `a.b` and `a-b` get two listeners of the name `http-a-b`. -/
theorem folded_hosts : ¬ListenerNamesDistinct (@buildDesired sampleHasher sampleUrlCrate sampleConfig
    (sampleDynConfig foldedRouters)) := by
  let _ := sampleHasher
  let _ := sampleUrlCrate
  intro h
  have hapart := hostsApart_of_distinct h
  have hdots : RoutedHost sampleConfig (sampleDynConfig foldedRouters) "a.b" :=
    ⟨"dots", ⟨"Host(`a.b`)", "app", [], ["http"], none, none⟩, ⟨rfl, by decide⟩, by decide⟩
  have hdash : RoutedHost sampleConfig (sampleDynConfig foldedRouters) "a-b" :=
    ⟨"dash", ⟨"Host(`a-b`)", "app", [], ["http"], none, none⟩, ⟨rfl, by decide⟩, by decide⟩
  exact hapart.http _ hdots _ hdash (by decide) (by decide)

end PangolinGateway
