import PangolinGateway.Transform.Collisions

/-! # The infix that separates the traffic families

The names of TCP and UDP backends carry the protocol behind the prefix of their kind, which keeps
the two apart from each other. An http service whose own name begins like the infix is not kept
apart from them. -/
namespace PangolinGateway
set_option autoImplicit false

variable [DefaultHasher]

omit [DefaultHasher] in
theorem namePrefix_dashed {k : Kind} {base : String} (h : k.backendPrefix = some base)
    (proto : L4Protocol) : Dashed (namePrefix base proto.infixTag).toList ∧
      (namePrefix base proto.infixTag).toList.length ≤ 54 := by
  cases k <;> simp only [Kind.backendPrefix, Option.some.injEq, reduceCtorEq] at h <;> subst h <;>
    cases proto <;> exact ⟨by decide, by decide⟩

theorem l4_not_clash {k : Kind} {proto proto' : L4Protocol} (hne : proto ≠ proto')
    (name name' : String) : ¬ServiceClash k (.l4 proto) name (.l4 proto') name' := by
  rintro ⟨base, hbase, hclash⟩
  obtain ⟨hdashed, hlen⟩ := namePrefix_dashed hbase proto
  obtain ⟨hdashed', hlen'⟩ := namePrefix_dashed hbase proto'
  refine dnsLabel_ne_of_tags hdashed hdashed' hlen hlen' ?_ ?_ ?_ name name'
    ((dnsLabel_eq_iff _ _).mpr hclash) <;>
  cases k <;> simp only [Kind.backendPrefix, Option.some.injEq, reduceCtorEq] at hbase <;>
    subst hbase <;> cases proto <;> cases proto' <;> first | exact absurd rfl hne | decide

variable [UrlCrate]

/-- Objects synthesised for services of different blocks never share a kind and a name. -/
def FamiliesApart (cfg : Config) (dynConfig : TraefikDynamicConfig) : Prop :=
  ∀ b name entry b' name' entry', b ≠ b' → Synthesises cfg dynConfig b name entry →
    Synthesises cfg dynConfig b' name' entry' → Entry.key entry ≠ Entry.key entry'

/-- No http service clashes with an L4 service that has an object of the same kind. -/
def InfixSeparates (cfg : Config) (dynConfig : TraefikDynamicConfig) : Prop :=
  ∀ k proto name name', SynthesisesKind cfg dynConfig .http name k →
    SynthesisesKind cfg dynConfig (.l4 proto) name' k → ¬ServiceClash k .http name (.l4 proto) name'

theorem infixSeparates_of_familiesApart {cfg : Config} {dynConfig : TraefikDynamicConfig}
    (h : FamiliesApart cfg dynConfig) : InfixSeparates cfg dynConfig := by
  rintro k proto name name' ⟨obj, hmade⟩ ⟨obj', hmade'⟩ hclash
  exact h .http name ⟨k, obj⟩ (.l4 proto) name' ⟨k, obj'⟩ (by simp) hmade hmade'
    ((synthesises_key_iff hmade hmade').mpr ⟨rfl, hclash⟩)

/-- The families never overwrite each other's objects exactly when the infix separates them. -/
theorem familiesApart_iff (cfg : Config) (dynConfig : TraefikDynamicConfig) :
    FamiliesApart cfg dynConfig ↔ InfixSeparates cfg dynConfig := by
  constructor
  · exact infixSeparates_of_familiesApart
  · intro h
    have hhttp : ∀ {name entry proto name' entry'}, Synthesises cfg dynConfig .http name entry →
        Synthesises cfg dynConfig (.l4 proto) name' entry' →
          Entry.key entry ≠ Entry.key entry' := by
      rintro name ⟨k, obj⟩ proto name' ⟨k', obj'⟩ hmade hmade' hkey
      obtain ⟨hkind, hclash⟩ := (synthesises_key_iff hmade hmade').mp hkey
      obtain rfl : k = k' := hkind
      exact h k proto name name' ⟨obj, hmade⟩ ⟨obj', hmade'⟩ hclash
    intro b name entry b' name' entry' hne hmade hmade' hkey
    cases b with
    | http =>
      cases b' with
      | http => exact hne rfl
      | l4 proto' => exact hhttp hmade hmade' hkey
    | l4 proto =>
      cases b' with
      | http => exact hhttp hmade' hmade hkey.symm
      | l4 proto' =>
        have hproto : proto ≠ proto' := fun heq => hne (by rw [heq])
        exact l4_not_clash hproto name name' ((synthesises_key_iff hmade hmade').mp hkey).2

/-! ## An http service named like a TCP one -/

def infixServices : List (String × PangService) :=
  [("tcp-x", ⟨some ⟨[⟨"http://10.0.0.7:8080"⟩], none⟩⟩)]

def infixL4Services : List (String × L4Service) := [("x", ⟨some ⟨[⟨"10.0.0.8:9000"⟩]⟩⟩)]

/-- The http service `tcp-x` and the TCP service `x`. -/
def infixDynConfig : TraefikDynamicConfig where
  http := ⟨∅, Std.ExtTreeMap.ofList infixServices, ∅, ∅⟩
  tcp := some ⟨∅, Std.ExtTreeMap.ofList infixL4Services⟩
  udp := none

omit [DefaultHasher] [UrlCrate] in
/-- Both services get the Service `svc-tcp-x`. -/
theorem service_named_like_infix :
    ¬@FamiliesApart sampleHasher sampleUrlCrate sampleConfig infixDynConfig := by
  let _ := sampleHasher
  let _ := sampleUrlCrate
  intro h
  have hhttp : SynthesisesKind sampleConfig infixDynConfig .http "tcp-x" .service :=
    synthesisesKind_service (by decide)
  have htcp : SynthesisesKind sampleConfig infixDynConfig (.l4 .tcp) "x" .service :=
    synthesisesKind_service (by decide)
  exact infixSeparates_of_familiesApart h .service .tcp "tcp-x" "x" hhttp htcp
    ⟨"svc", rfl, by decide⟩

end PangolinGateway
