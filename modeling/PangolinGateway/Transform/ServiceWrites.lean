import PangolinGateway.Transform.BuildDesired
import PangolinGateway.Transform.Writes

/-! # What the services of a block write

A service of the `http`, `tcp` or `udp` block is emitted on its own: what it writes, and what it
resolves to, is what its emitter makes out of an empty desired set. -/
namespace PangolinGateway
set_option autoImplicit false

inductive Block where
  | http
  | l4 (proto : L4Protocol)
  deriving DecidableEq

namespace Block

def infixTag : Block → String
  | http => ""
  | l4 proto => proto.infixTag

def k8sProtocol : Block → String
  | http => "TCP"
  | l4 proto => proto.k8sProtocol

end Block

/-- The prefix that a kind's names carry, for the kinds that backends are made of. -/
def Kind.backendPrefix : Kind → Option String
  | .service => some "svc"
  | .endpointSlice => some "eps"
  | .envoyBackend => some "be"
  | .backendTlsPolicy => some "btp"
  | _ => none

def serviceNameLabel : String := "kubernetes.io/service-name"

variable [DefaultHasher]

def backendName (base infx pangName : String) : String :=
  prefixedLabel (namePrefix base infx) pangName

/-! ## One service -/

/-- The policies that go with a backend: at most one, under the service's own name. -/
def TlsPolicies (cfg : Config) (pangName infx : String) (policies : List Entry) : Prop :=
  policies = [] ∨ ∃ policy : BackendTLSPolicy,
    policy.metadata = managedMetadata cfg (backendName "btp" infx pangName)
      (ownerLabels cfg (backendName "btp" infx pangName)) ∧
    policies = [⟨.backendTlsPolicy, policy⟩]

/-- What a service resolves to, with the objects made for it. -/
inductive Emits (cfg : Config) (pangName infx : String) : ResolvedBackend → List Entry → Prop
  | synthesized (svc : Service) (slice : EndpointSlice) (policies : List Entry) (port : ℤ)
      (hsvc : svc.metadata = managedMetadata cfg (backendName "svc" infx pangName)
        (ownerLabels cfg (backendName "svc" infx pangName)))
      (hslice : slice.metadata = managedMetadata cfg (backendName "eps" infx pangName)
        ((ownerLabels cfg (backendName "svc" infx pangName)).insert serviceNameLabel
          (backendName "svc" infx pangName)))
      (hpolicies : TlsPolicies cfg pangName infx policies) :
      Emits cfg pangName infx ⟨"", "Service", backendName "svc" infx pangName, none, port⟩
        (⟨.service, svc⟩ :: ⟨.endpointSlice, slice⟩ :: policies)
  | envoy (be : Backend) (port : ℤ)
      (hbe : be.metadata = managedMetadata cfg (backendName "be" infx pangName)
        (ownerLabels cfg (backendName "be" infx pangName))) :
      Emits cfg pangName infx
        ⟨"gateway.envoyproxy.io", "Backend", backendName "be" infx pangName, none, port⟩
        [⟨.envoyBackend, be⟩]
  | direct (service ns : String) (policies : List Entry) (port : ℤ)
      (hpolicies : TlsPolicies cfg pangName infx policies) :
      Emits cfg pangName infx ⟨"", "Service", service, some ns, port⟩ policies

theorem emitBackendTlsPolicy_policies (cfg : Config) (pangName infx targetService hostname : String) :
    TlsPolicies cfg pangName infx
      (emitBackendTlsPolicy cfg pangName infx targetService hostname .empty).entries :=
  Or.inr ⟨_, rfl, rfl⟩

theorem emitEnvoyBackend_emits (cfg : Config) (pangName : String) (endpoints : List BackendEndpoint)
    (port : ℤ) (infx : String) (tls : Option BackendTlsSettings) :
    Emits cfg pangName infx (emitEnvoyBackend cfg pangName endpoints port infx tls .empty).1
      (emitEnvoyBackend cfg pangName endpoints port infx tls .empty).2.entries :=
  Emits.envoy _ port rfl

theorem emitIpBackend_emits (cfg : Config) (pangName : String) (ips : List Str.IpAddr) (port : ℤ)
    (infx protocol : String) (tls : Option Bool) :
    Emits cfg pangName infx (emitIpBackend cfg pangName ips port infx protocol tls .empty).1
      (emitIpBackend cfg pangName ips port infx protocol tls .empty).2.entries := by
  unfold emitIpBackend
  cases cfg.backendKind with
  | envoyBackend => exact emitEnvoyBackend_emits _ _ _ _ _ _
  | service =>
    cases tls with
    | none => exact Emits.synthesized _ _ [] port rfl rfl (Or.inl rfl)
    | some skipVerify =>
      cases ips with
      | nil => exact Emits.synthesized _ _ [] port rfl rfl (Or.inl rfl)
      | cons ip ips => exact Emits.synthesized _ _ _ port rfl rfl (Or.inr ⟨_, rfl, rfl⟩)

theorem emitClusterDnsBackend_emits (cfg : Config) (pangName service ns : String) (port : ℤ)
    (infx : String) (tls : Option Bool) :
    Emits cfg pangName infx (emitClusterDnsBackend cfg pangName service ns port infx tls .empty).1
      (emitClusterDnsBackend cfg pangName service ns port infx tls .empty).2.entries := by
  unfold emitClusterDnsBackend
  cases tls with
  | none => exact Emits.direct service ns [] port (Or.inl rfl)
  | some skipVerify =>
    cases cfg.backendKind with
    | envoyBackend => exact emitEnvoyBackend_emits _ _ _ _ _ _
    | service =>
      simp only
      split
      · exact Emits.direct service ns _ port (emitBackendTlsPolicy_policies _ _ _ _ _)
      · exact Emits.direct service ns [] port (Or.inl rfl)

theorem emitBackend_emits {cfg : Config} {pangName : String} {classification : Classification}
    {infx protocol : String} {skipVerify : Bool} {backend : ResolvedBackend} {d : Desired}
    (h : emitBackend cfg pangName classification infx protocol skipVerify .empty =
      some (backend, d)) : Emits cfg pangName infx backend d.entries := by
  cases classification with
  | empty => simp [emitBackend] at h
  | ips entries port tls =>
    have hemits := emitIpBackend_emits cfg pangName entries port infx protocol
      (thenSome tls skipVerify)
    rwa [Option.some.inj h] at hemits
  | fqdn hostname port tls =>
    have hemits := emitEnvoyBackend_emits cfg pangName [⟨none, some ⟨hostname, port⟩⟩] port infx
      ((thenSome tls skipVerify).map fun skip => backendTlsSettings skip (some hostname))
    have hback := Option.some.inj h
    unfold emitFqdnBackend at hback
    rwa [hback] at hemits
  | clusterDns service ns port tls =>
    have hemits := emitClusterDnsBackend_emits cfg pangName service ns port infx
      (thenSome tls skipVerify)
    rwa [Option.some.inj h] at hemits

/-! ## The same on any desired set -/

theorem emitIpBackend_writes (cfg : Config) (pangName : String) (ips : List Str.IpAddr) (port : ℤ)
    (infx protocol : String) (tls : Option Bool) (d : Desired) :
    emitIpBackend cfg pangName ips port infx protocol tls d =
      ((emitIpBackend cfg pangName ips port infx protocol tls .empty).1,
        d.writeAll (emitIpBackend cfg pangName ips port infx protocol tls .empty).2.entries) := by
  unfold emitIpBackend
  cases cfg.backendKind with
  | envoyBackend => rfl
  | service => cases tls <;> cases ips <;> rfl

theorem emitClusterDnsBackend_writes (cfg : Config) (pangName service ns : String) (port : ℤ)
    (infx : String) (tls : Option Bool) (d : Desired) :
    emitClusterDnsBackend cfg pangName service ns port infx tls d =
      ((emitClusterDnsBackend cfg pangName service ns port infx tls .empty).1,
        d.writeAll
          (emitClusterDnsBackend cfg pangName service ns port infx tls .empty).2.entries) := by
  unfold emitClusterDnsBackend
  cases tls with
  | none => rfl
  | some skipVerify =>
    cases cfg.backendKind with
    | envoyBackend => rfl
    | service =>
      simp only
      split <;> rfl

theorem emitBackend_writes (cfg : Config) (pangName : String) (classification : Classification)
    (infx protocol : String) (skipVerify : Bool) (d : Desired) :
    emitBackend cfg pangName classification infx protocol skipVerify d =
      (emitBackend cfg pangName classification infx protocol skipVerify .empty).map fun made =>
        (made.1, d.writeAll made.2.entries) := by
  cases classification with
  | empty => rfl
  | ips entries port tls => exact congrArg some (emitIpBackend_writes _ _ _ _ _ _ _ _)
  | fqdn hostname port tls => rfl
  | clusterDns service ns port tls => exact congrArg some (emitClusterDnsBackend_writes _ _ _ _ _ _ _ _)

/-! ## The services of one block -/

/-- What a block asks to be emitted for one of its services. -/
abbrev ServiceRequest (A : Type) := A → Classification × Bool

variable {A : Type} (cfg : Config) (b : Block) (request : ServiceRequest A)

def emission (entry : String × A) : Option (ResolvedBackend × Desired) :=
  emitBackend cfg entry.1 (request entry.2).1 b.infixTag b.k8sProtocol (request entry.2).2 .empty

/-- A service resolves exactly when it is not classified as empty. -/
theorem emission_isSome (entry : String × A) :
    (emission cfg b request entry).isSome = true ↔ (request entry.2).1 ≠ .empty := by
  unfold emission emitBackend
  cases (request entry.2).1 <;> simp

def emissionEntries (entry : String × A) : List Entry :=
  ((emission cfg b request entry).map fun made => made.2.entries).getD []

def indexEntry (entry : String × A) : Option (String × ResolvedBackend) :=
  (emission cfg b request entry).map fun made => (entry.1, made.1)

def emitRequest (acc : BackendIndex × Desired) (entry : String × A) : BackendIndex × Desired :=
  emitIndexed cfg entry.1 (request entry.2).1 b.infixTag b.k8sProtocol (request entry.2).2 acc

theorem emitRequest_framed : WriteLog.Framed Desired.write (emitRequest cfg b request)
    (fun index entry => InsertLoop.insertAll (indexEntry cfg b request) [entry] index)
    fun _ => emissionEntries cfg b request := by
  intro index d entry
  have hmade : emission cfg b request entry = emitBackend cfg entry.1 (request entry.2).1 b.infixTag
    b.k8sProtocol (request entry.2).2 .empty := rfl
  unfold emitRequest emitIndexed emissionEntries InsertLoop.insertAll indexEntry
  rw [emitBackend_writes, ← hmade]
  simp only [List.foldl_cons, List.foldl_nil]
  cases emission cfg b request entry <;> rfl

/-- The index of a block and what its services write. -/
theorem foldl_emitRequest (l : List (String × A)) (d : Desired) :
    l.foldl (emitRequest cfg b request) (∅, d) =
      (InsertLoop.insertAll (indexEntry cfg b request) l ∅,
        d.writeAll (l.flatMap (emissionEntries cfg b request))) := by
  rw [(emitRequest_framed cfg b request).foldl, WriteLog.flatMap_visits,
    InsertLoop.foldl_insertAll]
  rfl

theorem index_iff {services : Map A} {name : String} {backend : ResolvedBackend} :
    (InsertLoop.insertAll (indexEntry cfg b request) services.toList ∅)[name]? = some backend ↔
      ∃ svc, services[name]? = some svc ∧
        ∃ d, emission cfg b request (name, svc) = some (backend, d) := by
  constructor
  · intro h
    rcases InsertLoop.insertAll_entry _ h with h | ⟨⟨name', svc⟩, hmem, hmade⟩
    · simp at h
    · obtain ⟨⟨backend', d⟩, hemission, heq⟩ := Option.map_eq_some_iff.mp hmade
      obtain ⟨rfl, rfl⟩ := Prod.mk.inj heq
      exact ⟨svc, Std.ExtTreeMap.mem_toList_iff_getElem?_eq_some.mp hmem, d, hemission⟩
  · rintro ⟨svc, hsvc, d, hemission⟩
    have hentry : indexEntry cfg b request (name, svc) = some (name, backend) := by
      simp [indexEntry, hemission]
    obtain ⟨⟨name', svc'⟩, hmem, backend', hmade, hlookup⟩ :=
      InsertLoop.insertAll_written (indexEntry cfg b request) ∅
        (Std.ExtTreeMap.mem_toList_iff_getElem?_eq_some.mpr hsvc) hentry
    obtain ⟨made, hemission', heq⟩ := Option.map_eq_some_iff.mp hmade
    obtain ⟨rfl, rfl⟩ := Prod.mk.inj heq
    have hsvc' := Std.ExtTreeMap.mem_toList_iff_getElem?_eq_some.mp hmem
    obtain rfl : svc = svc' := Option.some.inj (hsvc.symm.trans hsvc')
    rw [hemission] at hemission'
    rw [hlookup, ← Option.some.inj hemission']

end PangolinGateway
