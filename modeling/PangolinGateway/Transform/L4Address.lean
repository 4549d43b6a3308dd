import PangolinGateway.Text.Split
import PangolinGateway.Transform.Backend

/-! # L4 server addresses

What is left of an address after trimming and after a stray scheme is cut into a host and a port: in
brackets at the first `]`, else at the last colon. The cut at the last colon also takes an address
that has more than one. -/
namespace PangolinGateway
set_option autoImplicit false

/-! ## The parser, cut in two -/

/-- The address without surrounding blanks and without a stray `<scheme>://`. -/
def l4Text (address : String) : List Char :=
  match Str.splitOnce "://".toList (Str.trim address.toList) with
  | some (_, rest) => rest
  | none => Str.trim address.toList

/-- Host and port as they are written; a bracketed host keeps no bracket. -/
def splitL4 (text : List Char) : Option (List Char × List Char) :=
  match text with
  | '[' :: rest => (Str.splitOnce [']'] rest).bind fun (host, after) =>
    ([':'].isPrefixOf? after).map fun port => (host, port)
  | _ => Str.rsplitOnce ':' text

def hostPort (parts : List Char × List Char) : Option HostPort :=
  (Str.parseU16 parts.2).bind fun n =>
    if parts.1.isEmpty then none else some ⟨String.ofList parts.1, n, false⟩

theorem splitL4_bracket (rest : List Char) :
    splitL4 ('[' :: rest) = (Str.splitOnce [']'] rest).bind fun (host, after) =>
      ([':'].isPrefixOf? after).map fun port => (host, port) := rfl

theorem splitL4_bare {text : List Char} (h : ∀ rest, text ≠ '[' :: rest) :
    splitL4 text = Str.rsplitOnce ':' text := by
  unfold splitL4
  split
  · exact absurd rfl (h _)
  · rfl

theorem parseL4Address_split (address : String) :
    parseL4Address address = (splitL4 (l4Text address)).bind hostPort := by
  unfold parseL4Address l4Text
  simp only
  -- the text that is left is the trimmed address or what follows its scheme
  cases Str.splitOnce "://".toList (Str.trim address.toList)
  all_goals
    simp only
    split
    · next rest htext =>
      rw [htext, splitL4_bracket]
      cases Str.splitOnce [']'] rest with
      | none => rfl
      | some parts => cases hport : [':'].isPrefixOf? parts.2 <;> simp [hport, hostPort]
    · next hbare =>
      rw [splitL4_bare hbare]
      generalize Str.rsplitOnce ':' _ = cut
      cases cut <;> rfl

/-! ## What is accepted -/

/-- `s` is a decimal number of at most 65535, with value `n`. -/
structure DecimalPort (s : List Char) (n : ℕ) : Prop where
  nonempty : s ≠ []
  digits : ∀ c ∈ s, Str.isAsciiDigit c = true
  value : Str.digitsValue s = n
  bound : n ≤ 65535

/-- `host:port` without a further colon or a leading bracket, or `[host]:port`. -/
inductive HostColonPort : List Char → List Char → List Char → Prop
  | bare (host port : List Char) (hcolon : ':' ∉ host) (hbracket : host.head? ≠ some '[') :
      HostColonPort (host ++ ':' :: port) host port
  | bracketed (host port : List Char) (hclose : ']' ∉ host) :
      HostColonPort ('[' :: host ++ ']' :: ':' :: port) host port

/-- What an address should be read as: a host that is not empty, and a decimal port. -/
def L4AddressSpec (address : String) (e : HostPort) : Prop :=
  ∃ host port n, HostColonPort (l4Text address) host port ∧ host ≠ [] ∧ DecimalPort port n ∧
    e = ⟨String.ofList host, n, false⟩

/-- More than one colon in an unbracketed text, and a port after the last one. -/
def SplitsAtLastColon (text : List Char) : Prop :=
  ∃ host port n, text = host ++ ':' :: port ∧ host.head? ≠ some '[' ∧ ':' ∈ host ∧
    Str.parseU16 port = some n

/-- The port is a decimal number with a `+` before it. -/
def SignedPort (text : List Char) : Prop :=
  ∃ host digits n, HostColonPort text host ('+' :: digits) ∧ host ≠ [] ∧ DecimalPort digits n

theorem parseDigits_iff {s : List Char} {n : ℕ} :
    (Str.parseDigits s).filter (· < 65536) = some n ↔ DecimalPort s n := by
  rw [Option.filter_eq_some_iff, Str.parseDigits]
  constructor
  · rintro ⟨hdigits, hbound⟩
    split at hdigits
    · next h =>
      have hlt : n < 65536 := by simpa using hbound
      exact ⟨h.1, List.all_eq_true.mp h.2, Option.some.inj hdigits, by omega⟩
    · cases hdigits
  · intro h
    rw [if_pos ⟨h.nonempty, List.all_eq_true.mpr h.digits⟩]
    have hbound := h.bound
    exact ⟨congrArg some h.value, decide_eq_true (by omega)⟩

theorem DecimalPort.head {s : List Char} {n : ℕ} (h : DecimalPort s n) (t : List Char) :
    s ≠ '+' :: t := by
  rintro rfl
  have hdigit := h.digits '+' List.mem_cons_self
  revert hdigit
  decide

/-- Apart from the sign that the standard library admits, a port is read as it should be. -/
theorem parseU16_iff {s : List Char} {n : ℕ} : Str.parseU16 s = some n ↔
    DecimalPort s n ∨ ∃ digits, s = '+' :: digits ∧ DecimalPort digits n := by
  unfold Str.parseU16
  simp only
  split
  · next rest =>
    rw [parseDigits_iff]
    constructor
    · exact fun h => Or.inr ⟨rest, rfl, h⟩
    · rintro (h | ⟨digits, heq, h⟩)
      · exact absurd rfl (h.head rest)
      · rwa [(List.cons.inj heq).2]
  · next hsign =>
    rw [parseDigits_iff]
    constructor
    · exact Or.inl
    · rintro (h | ⟨digits, rfl, h⟩)
      · exact h
      · exact absurd rfl (hsign digits)

theorem DecimalPort.no_colon {s : List Char} {n : ℕ} (h : DecimalPort s n) : ':' ∉ s := by
  intro hmem
  have hdigit := h.digits ':' hmem
  revert hdigit
  decide

theorem no_colon_of_parseU16 {s : List Char} {n : ℕ} (h : Str.parseU16 s = some n) : ':' ∉ s := by
  obtain hdecimal | ⟨digits, rfl, hdecimal⟩ := parseU16_iff.mp h
  · exact hdecimal.no_colon
  · simp [hdecimal.no_colon]

/-! ### The cut -/

theorem head_append_colon {host port : List Char} :
    (∀ rest, host ++ ':' :: port ≠ '[' :: rest) ↔ host.head? ≠ some '[' := by
  cases host with
  | nil => simp
  | cons c host => simp

theorem splitL4_bracket_iff {rest host port : List Char} :
    splitL4 ('[' :: rest) = some (host, port) ↔ rest = host ++ ']' :: ':' :: port ∧ ']' ∉ host := by
  rw [splitL4_bracket]
  constructor
  · intro h
    obtain ⟨⟨before, after⟩, hcut, hmap⟩ := Option.bind_eq_some_iff.mp h
    obtain ⟨tail, hprefix, heq⟩ := Option.map_eq_some_iff.mp hmap
    obtain ⟨rfl, rfl⟩ := Prod.mk.inj heq
    obtain ⟨hrest, hclose⟩ := Str.splitOnce_singleton_iff.mp hcut
    have hafter : after = ':' :: tail := by
      have hcons := List.isPrefixOf?_eq_some_iff_append_eq.mp hprefix
      exact hcons.symm
    exact ⟨by rw [hrest, hafter], hclose⟩
  · rintro ⟨hrest, hclose⟩
    rw [Str.splitOnce_singleton_iff.mpr ⟨hrest, hclose⟩]
    simp [List.isPrefixOf?]

/-- A cut is the one the address asks for, or it leaves a colon in an unbracketed host. -/
theorem splitL4_iff {text host port : List Char} (hport : ':' ∉ port) :
    splitL4 text = some (host, port) ↔ HostColonPort text host port ∨
      (text = host ++ ':' :: port ∧ host.head? ≠ some '[' ∧ ':' ∈ host) := by
  by_cases hbare : ∀ rest, text ≠ '[' :: rest
  · rw [splitL4_bare hbare, Str.rsplitOnce_iff]
    constructor
    · rintro ⟨rfl, _⟩
      have hhead := head_append_colon.mp hbare
      by_cases hcolon : ':' ∈ host
      · exact Or.inr ⟨rfl, hhead, hcolon⟩
      · exact Or.inl (.bare host port hcolon hhead)
    · rintro (h | ⟨rfl, _, _⟩)
      · cases h with
        | bare _ _ _ _ => exact ⟨rfl, hport⟩
        | bracketed _ _ _ => exact absurd rfl (hbare _)
      · exact ⟨rfl, hport⟩
  · push Not at hbare
    obtain ⟨rest, rfl⟩ := hbare
    rw [splitL4_bracket_iff]
    constructor
    · rintro ⟨rfl, hclose⟩
      exact Or.inl (.bracketed host port hclose)
    · rintro (h | ⟨heq, hhead, _⟩)
      · generalize htext : '[' :: rest = text at h
        cases h with
        | bare _ _ _ hbracket => exact absurd htext.symm (head_append_colon.mpr hbracket rest)
        | bracketed _ _ hclose => exact ⟨(List.cons.inj htext).2, hclose⟩
      · exact absurd heq.symm (head_append_colon.mpr hhead rest)

/-- The parser reads a host that is not empty and a port off the cut. -/
theorem parseL4Address_iff {address : String} {e : HostPort} :
    parseL4Address address = some e ↔ ∃ host port n, splitL4 (l4Text address) = some (host, port) ∧
      Str.parseU16 port = some n ∧ host ≠ [] ∧ e = ⟨String.ofList host, n, false⟩ := by
  rw [parseL4Address_split, Option.bind_eq_some_iff]
  unfold hostPort
  constructor
  · rintro ⟨⟨host, port⟩, hcut, hmade⟩
    obtain ⟨n, hport, hhost⟩ := Option.bind_eq_some_iff.mp hmade
    split at hhost
    · cases hhost
    · next hempty =>
      exact ⟨host, port, n, hcut, hport, by simpa using hempty, (Option.some.inj hhost).symm⟩
  · rintro ⟨host, port, n, hcut, hport, hhost, rfl⟩
    exact ⟨(host, port), hcut, by simp [hport, hhost]⟩

theorem parseL4Address_tls {address : String} {e : HostPort} (h : parseL4Address address = some e) :
    e.tls = false := by
  obtain ⟨_, _, _, _, _, _, rfl⟩ := parseL4Address_iff.mp h
  rfl

/-- Whatever is well formed is read as it should be. -/
theorem parseL4Address_of_spec {address : String} {e : HostPort} (h : L4AddressSpec address e) :
    parseL4Address address = some e := by
  obtain ⟨host, port, n, hform, hhost, hport, rfl⟩ := h
  refine parseL4Address_iff.mpr ⟨host, port, n, ?_, parseU16_iff.mpr (Or.inl hport), hhost, rfl⟩
  exact (splitL4_iff hport.no_colon).mpr (Or.inl hform)

/-- A cut is unique, so what is accepted beside the well-formed addresses is misread. -/
theorem not_spec_of_splitsAtLastColon {address : String} (h : SplitsAtLastColon (l4Text address)) :
    ∃ e, parseL4Address address = some e ∧ ¬ L4AddressSpec address e := by
  obtain ⟨host, port, n, htext, hhead, hcolon, hport⟩ := h
  have hcut := (splitL4_iff (no_colon_of_parseU16 hport)).mpr (Or.inr ⟨htext, hhead, hcolon⟩)
  refine ⟨_, parseL4Address_iff.mpr ⟨host, port, n, hcut, hport, List.ne_nil_of_mem hcolon, rfl⟩, ?_⟩
  rintro ⟨host', port', n', hform, _, hport', _⟩
  have hcut' := (splitL4_iff hport'.no_colon).mpr (Or.inl hform)
  obtain ⟨rfl, rfl⟩ := Prod.mk.inj (Option.some.inj (hcut.symm.trans hcut'))
  generalize l4Text address = text at htext hform
  cases hform with
  | bare _ _ hbare _ => exact hbare hcolon
  | bracketed _ _ _ => exact head_append_colon.mpr hhead _ htext.symm

theorem not_spec_of_signedPort {address : String} (h : SignedPort (l4Text address)) :
    ∃ e, parseL4Address address = some e ∧ ¬ L4AddressSpec address e := by
  obtain ⟨host, digits, n, hform, hhost, hdigits⟩ := h
  have hport : Str.parseU16 ('+' :: digits) = some n := parseU16_iff.mpr (Or.inr ⟨digits, rfl, hdigits⟩)
  have hcut := (splitL4_iff (no_colon_of_parseU16 hport)).mpr (Or.inl hform)
  refine ⟨_, parseL4Address_iff.mpr ⟨host, _, n, hcut, hport, hhost, rfl⟩, ?_⟩
  rintro ⟨host', port', n', hform', _, hport', _⟩
  have hcut' := (splitL4_iff hport'.no_colon).mpr (Or.inl hform')
  obtain ⟨_, rfl⟩ := Prod.mk.inj (Option.some.inj (hcut.symm.trans hcut'))
  exact hport'.head digits rfl

/-- An address is accepted exactly as it should be unless an unbracketed text is cut at the last of
several colons or the port carries a sign. -/
theorem l4Address_accepted (address : String) :
    (∀ e, parseL4Address address = some e ↔ L4AddressSpec address e) ↔
      ¬ SplitsAtLastColon (l4Text address) ∧ ¬ SignedPort (l4Text address) := by
  constructor
  · intro h
    constructor
    · intro hlast
      obtain ⟨e, hparse, hspec⟩ := not_spec_of_splitsAtLastColon hlast
      exact hspec ((h e).mp hparse)
    · intro hsigned
      obtain ⟨e, hparse, hspec⟩ := not_spec_of_signedPort hsigned
      exact hspec ((h e).mp hparse)
  · rintro ⟨hlast, hsigned⟩ e
    refine ⟨fun hparse => ?_, parseL4Address_of_spec⟩
    obtain ⟨host, port, n, hcut, hport, hhost, rfl⟩ := parseL4Address_iff.mp hparse
    obtain hform | ⟨htext, hhead, hcolon⟩ := (splitL4_iff (no_colon_of_parseU16 hport)).mp hcut
    · obtain hdecimal | ⟨digits, rfl, hdecimal⟩ := parseU16_iff.mp hport
      · exact ⟨host, port, n, hform, hhost, hdecimal, rfl⟩
      · exact absurd ⟨host, digits, n, hform, hhost, hdecimal⟩ hsigned
    · exact absurd ⟨host, port, n, htext, hhead, hcolon, hport⟩ hlast

/-- An IPv6 literal without brackets and without a port is cut at its last colon. -/
theorem l4Address_bare_ipv6 :
    ¬ ∀ address e, parseL4Address address = some e ↔ L4AddressSpec address e := by
  intro h
  have hlast : SplitsAtLastColon (l4Text "2001:db8::1") :=
    ⟨"2001:db8:".toList, ['1'], 1, by decide, by decide, by decide, by decide⟩
  obtain ⟨e, hparse, hspec⟩ := not_spec_of_splitsAtLastColon hlast
  exact hspec ((h _ e).mp hparse)

end PangolinGateway
