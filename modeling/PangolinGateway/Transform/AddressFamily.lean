import PangolinGateway.Transform.Selected

/-! # The address type of an EndpointSlice

A slice says of which family all its addresses are. The text of an IPv6 address holds a colon and
that of an IPv4 address does not, so a text tells the family of its address. -/
namespace Str.IpAddr
set_option autoImplicit false

/-- The `addressType` of a slice with this address. -/
def family : IpAddr → String
  | v4 _ => "IPv4"
  | v6 _ => "IPv6"

theorem not_mem_joinWith {c sep : Char} (hsep : c ≠ sep) {parts : List (List Char)}
    (h : ∀ part ∈ parts, c ∉ part) : c ∉ joinWith sep parts := by
  induction parts with
  | nil => simp [joinWith]
  | cons part parts ih =>
    have hpart := h part List.mem_cons_self
    have hrest := ih fun other hother => h other (List.mem_cons_of_mem _ hother)
    cases parts with
    | nil => exact hpart
    | cons next parts => simp [joinWith, hsep, hpart, hrest]

theorem mem_joinWith {sep : Char} {parts : List (List Char)} (h : 2 ≤ parts.length) :
    sep ∈ joinWith sep parts := by
  match parts, h with
  | part :: next :: parts, _ => simp [joinWith]

theorem colon_not_mem_decimal (n : ℕ) : ':' ∉ decimal n := by
  intro h
  have hdigit := Nat.isDigit_of_mem_toDigits (by decide) (by decide) h
  revert hdigit
  decide

theorem colon_mem_print_iff (ip : IpAddr) : ':' ∈ ip.print ↔ ip.family = "IPv6" := by
  cases ip with
  | v4 octets =>
    refine iff_of_false (not_mem_joinWith (by decide) ?_) (by simp [family])
    intro part hpart
    obtain ⟨n, _, rfl⟩ := List.mem_map.mp hpart
    exact colon_not_mem_decimal n
  | v6 segments =>
    refine iff_of_true ?_ rfl
    simp only [print]
    split
    · exact List.mem_append_left _ (by decide)
    · split
      · exact List.mem_append_left _ (List.mem_append_right _ (by decide))
      · exact mem_joinWith (by simp)

/-- The text of an address tells its family. -/
theorem family_of_print {ip ip' : IpAddr} (h : ip.print = ip'.print) : ip.family = ip'.family := by
  have hcolon : ip.family = "IPv6" ↔ ip'.family = "IPv6" := by
    rw [← colon_mem_print_iff, ← colon_mem_print_iff, h]
  cases ip <;> cases ip' <;> simp_all [family]

end Str.IpAddr

namespace PangolinGateway
set_option autoImplicit false

/-- Every listed text is that of an address of the slice's family. -/
def EndpointSlice.OneFamily (slice : EndpointSlice) : Prop :=
  ∀ endpoint ∈ slice.endpoints, ∀ text ∈ endpoint.addresses,
    ∃ ip : Str.IpAddr, text = String.ofList ip.print ∧ slice.addressType = ip.family

theorem oneFamily_iff {slice : EndpointSlice} {addresses : List Str.IpAddr}
    (h : slice.endpoints = addresses.map fun ip => ⟨[String.ofList ip.print]⟩) :
    slice.OneFamily ↔ ∀ ip ∈ addresses, slice.addressType = ip.family := by
  unfold EndpointSlice.OneFamily
  rw [h]
  simp only [List.forall_mem_map, List.mem_singleton, forall_eq]
  constructor
  · intro hlisted ip hip
    obtain ⟨ip', htext, hfamily⟩ := hlisted ip hip
    rw [hfamily, Str.IpAddr.family_of_print (String.ofList_injective htext)]
  · intro hfamily ip hip
    exact ⟨ip, rfl, hfamily ip hip⟩

variable [DefaultHasher]

/-- In service mode IP servers become one slice of IPv4 addresses. -/
theorem emitIpBackend_slices {cfg : Config} (hmode : cfg.backendKind = .service) (pangName : String)
    (addresses : List Str.IpAddr) (port : ℤ) (infx protocol : String) (tls : Option Bool) :
    ∃ (sliceName : String) (slice : EndpointSlice),
      (emitIpBackend cfg pangName addresses port infx protocol tls .empty).2.endpointSlices =
        (∅ : Map EndpointSlice).insert sliceName slice ∧ slice.addressType = "IPv4" ∧
      slice.endpoints = addresses.map fun ip => ⟨[String.ofList ip.print]⟩ := by
  unfold emitIpBackend
  rw [hmode]
  cases tls <;> cases addresses <;> exact ⟨_, _, rfl, rfl, rfl⟩

theorem emitClusterDnsBackend_slices (cfg : Config) (pangName service ns : String) (port : ℤ)
    (infx : String) (tls : Option Bool) :
    (emitClusterDnsBackend cfg pangName service ns port infx tls .empty).2.endpointSlices = ∅ := by
  unfold emitClusterDnsBackend
  cases tls with
  | none => rfl
  | some skipVerify =>
    cases cfg.backendKind with
    | envoyBackend => rfl
    | service =>
      simp only
      split <;> rfl

variable [UrlCrate]

/-- Each slice emitted for a service says the family of its addresses. -/
def SlicesOfOneFamily (made : ResolvedBackend × Desired) : Prop :=
  ∀ (sliceName : String) (slice : EndpointSlice),
    made.2.endpointSlices[sliceName]? = some slice → slice.OneFamily

omit [DefaultHasher] [UrlCrate] in
theorem slicesOfOneFamily_empty {made : ResolvedBackend × Desired}
    (h : made.2.endpointSlices = ∅) : SlicesOfOneFamily made := by
  intro sliceName slice hslice
  simp [h] at hslice

theorem slicesOfOneFamily_iff {cfg : Config} (hmode : cfg.backendKind = .service)
    {dynConfig : TraefikDynamicConfig} {b : Block} {name : String}
    {made : ResolvedBackend × Desired} (hmade : serviceBackend cfg dynConfig b name = some made) :
    SlicesOfOneFamily made ↔
      ∀ e ∈ blockServers cfg dynConfig b name, ∀ ip, e.ip = some ip → ip.family = "IPv4" := by
  obtain ⟨c, hc, hemit⟩ := serviceBackend_of hmade
  cases c with
  | empty => cases hemit
  | ips addresses port tls =>
    obtain rfl := Option.some.inj hemit
    obtain ⟨sliceName, slice, hslices, htype, hendpoints⟩ := emitIpBackend_slices hmode name addresses
      port b.infixTag b.k8sProtocol (thenSome tls (blockSkipsVerify dynConfig b name))
    have hone : SlicesOfOneFamily (emitIpBackend cfg name addresses port b.infixTag b.k8sProtocol
        (thenSome tls (blockSkipsVerify dynConfig b name)) .empty) ↔ slice.OneFamily := by
      unfold SlicesOfOneFamily
      rw [hslices]
      constructor
      · intro h
        exact h sliceName slice Std.ExtTreeMap.getElem?_insert_self
      · intro h other slice' hother
        rw [Std.ExtTreeMap.getElem?_insert] at hother
        split at hother
        · rwa [← Option.some.inj hother]
        · simp at hother
    rw [hone, oneFamily_iff hendpoints, htype]
    have hmem : ∀ ip, ip ∈ addresses ↔ ∃ e ∈ blockServers cfg dynConfig b name, e.ip = some ip := by
      intro ip
      have hsome : ip ∈ addresses ↔ some ip ∈ addresses.map some := by simp
      rw [hsome, ← hc.2.1, List.mem_map]
    constructor
    · intro h e he ip hip
      exact (h ip ((hmem ip).mpr ⟨e, he, hip⟩)).symm
    · intro h ip hip
      obtain ⟨e, he, hip⟩ := (hmem ip).mp hip
      exact (h e he ip hip).symm
  | fqdn hostname port tls =>
    obtain rfl := Option.some.inj hemit
    obtain ⟨e, hservers, hremaining, _⟩ := hc
    refine iff_of_true (slicesOfOneFamily_empty rfl) ?_
    intro e' he' ip hip
    rw [hservers, List.mem_singleton] at he'
    subst he'
    simp [HostPort.remaining, hip] at hremaining
  | clusterDns service ns port tls =>
    obtain rfl := Option.some.inj hemit
    obtain ⟨e, hservers, hdns, _⟩ := hc
    refine iff_of_true (slicesOfOneFamily_empty (emitClusterDnsBackend_slices ..)) ?_
    intro e' he' ip hip
    rw [hservers, List.mem_singleton] at he'
    subst he'
    simp [HostPort.clusterDns, hip] at hdns

/-- In service mode the slices of a service say the family of their addresses exactly when none of
the servers it is emitted for is an IPv6 address. -/
theorem slice_address_type (cfg : Config) (dynConfig : TraefikDynamicConfig) (b : Block)
    (name : String) (backend : ResolvedBackend) (d : Desired) (hmode : cfg.backendKind = .service)
    (hmade : serviceBackend cfg dynConfig b name = some (backend, d)) :
    (∀ (sliceName : String) (slice : EndpointSlice),
      d.endpointSlices[sliceName]? = some slice → slice.OneFamily) ↔
      ∀ e ∈ blockServers cfg dynConfig b name, ∀ ip, e.ip = some ip → ip.family = "IPv4" :=
  slicesOfOneFamily_iff hmode hmade

def rawService (address : String) : L4Service := ⟨some ⟨[⟨address⟩]⟩⟩

def rawConfig (address : String) : TraefikDynamicConfig where
  http := ⟨∅, ∅, ∅, ∅⟩
  tcp := some ⟨∅, Std.ExtTreeMap.ofList [("raw", rawService address)]⟩
  udp := none

omit [DefaultHasher] [UrlCrate] in
theorem slice_address_type_v4 : ∃ backend d,
    @serviceBackend sampleHasher sampleUrlCrate sampleConfig (rawConfig "10.0.0.7:9000") (.l4 .tcp)
      "raw" = some (backend, d) ∧
    ∀ (sliceName : String) (slice : EndpointSlice),
      d.endpointSlices[sliceName]? = some slice → slice.OneFamily := by
  let _ := sampleHasher
  let _ := sampleUrlCrate
  have hsome : (serviceBackend sampleConfig (rawConfig "10.0.0.7:9000") (.l4 .tcp) "raw").isSome =
      true := by decide
  obtain ⟨⟨backend, d⟩, hmade⟩ := Option.isSome_iff_exists.mp hsome
  refine ⟨backend, d, hmade, (slice_address_type sampleConfig _ _ _ _ _ rfl hmade).mpr ?_⟩
  have hips : (blockServers sampleConfig (rawConfig "10.0.0.7:9000") (.l4 .tcp) "raw").map
      HostPort.ip = [some (.v4 #v[10, 0, 0, 7])] := by decide
  intro e he ip hip
  have hmem := List.mem_map_of_mem (f := HostPort.ip) he
  rw [hips, List.mem_singleton, hip] at hmem
  rw [Option.some.inj hmem]
  rfl

omit [DefaultHasher] [UrlCrate] in
/-- An IPv6 server is listed in a slice of IPv4 addresses. -/
theorem ipv6_in_ipv4_slice :
    ¬ ∀ (cfg : Config) (dynConfig : TraefikDynamicConfig) (b : Block) (name : String)
      (backend : ResolvedBackend) (d : Desired), cfg.backendKind = .service →
      @serviceBackend sampleHasher sampleUrlCrate cfg dynConfig b name = some (backend, d) →
        ∀ (sliceName : String) (slice : EndpointSlice),
          d.endpointSlices[sliceName]? = some slice → slice.OneFamily := by
  let _ := sampleHasher
  let _ := sampleUrlCrate
  intro h
  have hsome : (serviceBackend sampleConfig (rawConfig "[2001:db8::1]:9000") (.l4 .tcp)
      "raw").isSome = true := by decide
  obtain ⟨⟨backend, d⟩, hmade⟩ := Option.isSome_iff_exists.mp hsome
  have hfamily := (slicesOfOneFamily_iff rfl hmade).mp (h sampleConfig _ _ _ _ _ rfl hmade)
  have hips : (blockServers sampleConfig (rawConfig "[2001:db8::1]:9000") (.l4 .tcp) "raw").map
      HostPort.ip = [some (.v6 #v[0x2001, 0xdb8, 0, 0, 0, 0, 0, 1])] := by decide
  have hmem := List.mem_singleton_self (some (Str.IpAddr.v6 #v[0x2001, 0xdb8, 0, 0, 0, 0, 0, 1]))
  rw [← hips] at hmem
  obtain ⟨e, he, hip⟩ := List.mem_map.mp hmem
  exact absurd (hfamily e he _ hip) (by decide)

end PangolinGateway
