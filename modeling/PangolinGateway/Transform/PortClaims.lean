import PangolinGateway.Transform.L4
import PangolinGateway.Transform.Labels
import Mathlib.Data.List.Nodup

/-! # The ports a family claims and the listeners it opens for them

Each claimed port has one listener, named after it, in the order of the claims. -/
namespace PangolinGateway
set_option autoImplicit false

variable [DefaultHasher]

def l4Listener (proto : L4Protocol) (port : ℤ) : ListenerSetListener :=
  ⟨dnsLabel (proto.infixTag ++ "-" ++ toString port), none, port, proto.k8sProtocol, none⟩

structure ClaimsListed (proto : L4Protocol) (claims : PortClaims) : Prop where
  listeners : claims.listeners = claims.claimedPorts.reverse.map fun claim => l4Listener proto claim.1
  distinct : (claims.claimedPorts.map Prod.fst).Nodup
  ports : ∀ claim ∈ claims.claimedPorts, ∃ n : ℕ, claim.1 = n ∧ n < 65536

/-! ## One entrypoint -/

omit [DefaultHasher] in
theorem parseEntrypointPort_range {entrypoint : String} {proto : L4Protocol} {port : ℤ}
    (h : parseEntrypointPort entrypoint proto = some port) : ∃ n : ℕ, port = n ∧ n < 65536 := by
  obtain ⟨rest, _, h⟩ := Option.bind_eq_some_iff.mp h
  obtain ⟨digits, _, h⟩ := Option.bind_eq_some_iff.mp h
  obtain ⟨n, hn, h⟩ := Option.bind_eq_some_iff.mp h
  have hlt : n < 65536 := by
    unfold Str.parseU16 at hn
    simpa using (Option.filter_eq_some_iff.mp hn).2
  split at h
  · simp at h
  · exact ⟨n, (Option.some.inj h).symm, hlt⟩

omit [DefaultHasher] in
theorem claimablePort_fresh {cfg : Config} {proto : L4Protocol} {claims : PortClaims}
    {entrypoint : String} {port : ℤ} (h : claimablePort cfg proto claims entrypoint = some port) :
    (∃ n : ℕ, port = n ∧ n < 65536) ∧ port ∉ claims.claimedPorts.map Prod.fst := by
  obtain ⟨port', hport, h⟩ := Option.bind_eq_some_iff.mp h
  split at h
  · simp at h
  · split at h
    · simp at h
    · next hclaimed =>
      obtain rfl := Option.some.inj h
      refine ⟨parseEntrypointPort_range hport, ?_⟩
      intro hmem
      obtain ⟨claim, hclaim, heq⟩ := List.mem_map.mp hmem
      exact hclaimed (List.any_eq_true.mpr ⟨claim, hclaim, by simpa using heq⟩)

/-- A claim adds one listener, for a port that had none. -/
theorem claimEntrypoint_eq (cfg : Config) (proto : L4Protocol) (routerName : String)
    (acc : PortClaims × List String) (entrypoint : String) :
    claimEntrypoint cfg proto routerName acc entrypoint = acc ∨
      ∃ port, claimablePort cfg proto acc.1 entrypoint = some port ∧
        claimEntrypoint cfg proto routerName acc entrypoint =
          (⟨(port, routerName) :: acc.1.claimedPorts, acc.1.listeners ++ [l4Listener proto port]⟩,
            acc.2 ++ [(l4Listener proto port).name]) := by
  unfold claimEntrypoint
  cases claimablePort cfg proto acc.1 entrypoint with
  | none => exact Or.inl rfl
  | some port => exact Or.inr ⟨port, rfl, by simp only [l4Listener]⟩

theorem claimEntrypoint_listed {cfg : Config} {proto : L4Protocol} (routerName : String)
    {acc : PortClaims × List String} (entrypoint : String) (h : ClaimsListed proto acc.1) :
    ClaimsListed proto (claimEntrypoint cfg proto routerName acc entrypoint).1 := by
  rcases claimEntrypoint_eq cfg proto routerName acc entrypoint with heq | ⟨port, hport, heq⟩
  · rwa [heq]
  · obtain ⟨hrange, hfresh⟩ := claimablePort_fresh hport
    rw [heq]
    constructor
    · simp [h.listeners]
    · exact List.nodup_cons.mpr ⟨hfresh, h.distinct⟩
    · intro claim hclaim
      rcases List.mem_cons.mp hclaim with rfl | hclaim
      · exact hrange
      · exact h.ports claim hclaim

/-! ## The entrypoints of one router -/

def claimEntrypoints (cfg : Config) (proto : L4Protocol) (entry : String × L4Router)
    (claims : PortClaims) : PortClaims × List String :=
  entry.2.entryPoints.foldl (claimEntrypoint cfg proto entry.1) (claims, [])

theorem claimEntrypoints_listed (cfg : Config) {proto : L4Protocol} (entry : String × L4Router)
    {claims : PortClaims} (h : ClaimsListed proto claims) :
    ClaimsListed proto (claimEntrypoints cfg proto entry claims).1 :=
  List.foldlRecOn (motive := fun acc : PortClaims × List String => ClaimsListed proto acc.1) _ _ h
    fun _ hacc entrypoint _ => claimEntrypoint_listed entry.1 entrypoint hacc

/-- Claiming only adds listeners, and the sections of a router are listeners of its claims. -/
theorem claimEntrypoints_grows (cfg : Config) (proto : L4Protocol) (entry : String × L4Router)
    (claims : PortClaims) :
    claims.listeners <+: (claimEntrypoints cfg proto entry claims).1.listeners ∧
      ∀ section_ ∈ (claimEntrypoints cfg proto entry claims).2,
        ∃ listener ∈ (claimEntrypoints cfg proto entry claims).1.listeners,
          listener.name = section_ ∧ listener.protocol = proto.k8sProtocol := by
  unfold claimEntrypoints
  refine List.foldlRecOn (motive := fun acc : PortClaims × List String =>
    claims.listeners <+: acc.1.listeners ∧ ∀ section_ ∈ acc.2, ∃ listener ∈ acc.1.listeners,
      listener.name = section_ ∧ listener.protocol = proto.k8sProtocol) _ _
    ⟨List.prefix_rfl, by simp⟩ ?_
  rintro acc ⟨hgrows, hsections⟩ entrypoint _
  rcases claimEntrypoint_eq cfg proto entry.1 acc entrypoint with heq | ⟨port, _, heq⟩
  · rw [heq]
    exact ⟨hgrows, hsections⟩
  · rw [heq]
    refine ⟨hgrows.trans (List.prefix_append _ _), ?_⟩
    intro section_ hmem
    rcases List.mem_append.mp hmem with hmem | hmem
    · obtain ⟨listener, hlistener, hname⟩ := hsections section_ hmem
      exact ⟨listener, List.mem_append_left _ hlistener, hname⟩
    · rw [List.mem_singleton.mp hmem]
      exact ⟨l4Listener proto port, List.mem_append_right _ List.mem_cons_self, rfl, rfl⟩

/-! ## The names of the listeners -/

omit [DefaultHasher] in
theorem infixTag_dashed (proto : L4Protocol) : Dashed proto.infixTag.toList := by
  cases proto <;> decide

omit [DefaultHasher] in
theorem isLabel_port (proto : L4Protocol) {n : ℕ} (h : n < 65536) :
    IsLabel (proto.infixTag ++ "-" ++ toString (n : ℤ)) := by
  have htext : (proto.infixTag ++ "-" ++ toString (n : ℤ)).toList =
      proto.infixTag.toList ++ '-' :: Nat.toDigits 10 n := by
    have hn : toString (n : ℤ) = String.ofList (Nat.toDigits 10 n) :=
      Nat.toString_eq_ofList_toDigits
    simp [hn]
  constructor
  · rw [htext]
    apply (infixTag_dashed proto).append_word Nat.toDigits_ne_nil
    intro c hc
    have hdigit := Nat.isDigit_of_mem_toDigits (by omega) (by omega) hc
    simp only [Char.isDigit, Bool.and_eq_true, decide_eq_true_eq, ge_iff_le,
      UInt32.le_iff_toNat_le] at hdigit
    have hrange : 48 ≤ c.toNat ∧ c.toNat ≤ 57 := hdigit
    constructor
    · simp [isLabelChar, Str.isAsciiDigit, hrange]
    · rintro rfl
      exact absurd hrange (by decide)
  · rw [htext]
    have hdigits : (Nat.toDigits 10 n).length ≤ 5 := Nat.toDigits_length 10 n 5 (by omega) (by omega)
    have htag : proto.infixTag.toList.length = 3 := by cases proto <;> rfl
    simp only [List.length_append, List.length_cons, maxDnsLabel]
    omega

theorem l4Listener_name {proto : L4Protocol} {n : ℕ} (h : n < 65536) :
    (l4Listener proto n).name = proto.infixTag ++ "-" ++ toString (n : ℤ) := by
  simp only [l4Listener]
  exact (dnsLabel_eq_self_iff _).mpr (isLabel_port proto h)

theorem l4Listener_name_injective {proto : L4Protocol} {m n : ℕ} (hm : m < 65536) (hn : n < 65536)
    (h : (l4Listener proto m).name = (l4Listener proto n).name) : m = n := by
  rw [l4Listener_name hm, l4Listener_name hn] at h
  have hdigits : toString (m : ℤ) = toString (n : ℤ) := by
    simpa [← String.toList_inj] using h
  have hm' : toString (m : ℤ) = toString m := rfl
  have hn' : toString (n : ℤ) = toString n := rfl
  rw [hm', hn', Nat.toString_eq_ofList_toDigits, Nat.toString_eq_ofList_toDigits] at hdigits
  have hlists : Nat.toDigits 10 m = Nat.toDigits 10 n := by
    simpa using congrArg String.toList hdigits
  rw [← Nat.ofDigitChars_ten_toDigits (n := m), hlists, Nat.ofDigitChars_ten_toDigits]

theorem ClaimsListed.names_nodup {proto : L4Protocol} {claims : PortClaims}
    (h : ClaimsListed proto claims) : (claims.listeners.map ListenerSetListener.name).Nodup := by
  have hnames : claims.listeners.map ListenerSetListener.name =
      (claims.claimedPorts.map Prod.fst).reverse.map fun port => (l4Listener proto port).name := by
    rw [h.listeners, ← List.map_reverse, List.map_map, List.map_map]
    rfl
  rw [hnames]
  refine List.Nodup.map_on ?_ (List.nodup_reverse.mpr h.distinct)
  have hrange : ∀ port ∈ (claims.claimedPorts.map Prod.fst).reverse,
      ∃ n : ℕ, port = n ∧ n < 65536 := by
    intro port hport
    obtain ⟨claim, hclaim, rfl⟩ := List.mem_map.mp (List.mem_reverse.mp hport)
    exact h.ports claim hclaim
  intro port hport port' hport' heq
  obtain ⟨m, rfl, hm⟩ := hrange port hport
  obtain ⟨n, rfl, hn⟩ := hrange port' hport'
  rw [l4Listener_name_injective hm hn heq]

/-! ## The family -/

theorem emitL4Route_claims (cfg : Config) (proto : L4Protocol) (backends : BackendIndex)
    (acc : PortClaims × Desired) (entry : String × L4Router) :
    (emitL4Route cfg proto backends acc entry).1 = acc.1 ∨
      (emitL4Route cfg proto backends acc entry).1 = (claimEntrypoints cfg proto entry acc.1).1 := by
  unfold emitL4Route claimEntrypoints
  split
  · exact Or.inl rfl
  · split
    · exact Or.inl rfl
    · simp only
      split
      · exact Or.inr rfl
      · cases proto <;> exact Or.inr rfl

theorem emitL4Route_listed {cfg : Config} {proto : L4Protocol} (backends : BackendIndex)
    {acc : PortClaims × Desired} (entry : String × L4Router) (h : ClaimsListed proto acc.1) :
    ClaimsListed proto (emitL4Route cfg proto backends acc entry).1 := by
  rcases emitL4Route_claims cfg proto backends acc entry with heq | heq
  · rwa [heq]
  · rw [heq]
    exact claimEntrypoints_listed cfg entry h

theorem buildL4_listed (cfg : Config) (l4 : L4Config) (proto : L4Protocol) (desired : Desired) :
    ∃ claims : PortClaims, ClaimsListed proto claims ∧
      (buildL4 cfg l4 proto desired).1 = claims.listeners :=
  have hstart : ClaimsListed proto ⟨[], []⟩ := ⟨rfl, List.nodup_nil, by simp⟩
  ⟨_, List.foldlRecOn (motive := fun acc : PortClaims × Desired => ClaimsListed proto acc.1) _ _
    hstart fun _ hacc entry _ => emitL4Route_listed _ entry hacc, rfl⟩

end PangolinGateway
