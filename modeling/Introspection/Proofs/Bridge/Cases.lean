import Introspection.Bridge

set_option autoImplicit false

namespace Introspection

namespace Boundary

theorem bridge_cases (b : Boundary) {t : TypeRef} (hvalue : t.isVoid = false) :
    (b.registry.classify t = .record ∧ ∃ handle, b.bridge t = .record handle) ∨
      (b.registry.classify t = .bitfield ∧ ∃ symbolic raw, b.bridge t = .bitfield symbolic raw) ∨
      (b.registry.classify t = .enumeration ∧ ∃ symbolic, b.bridge t = .enumeration symbolic) ∨
      (b.registry.classify t = .typeAlias ∧ b.bridge t = .typeAlias t.name) ∨
      (b.registry.classify t = .fundamental ∧
        ((∃ f, t.fundamental? = some f ∧ fits t f = true ∧ b.bridge t = .fundamental f) ∨
          b.bridge t = .verbatim (b.verbatimType t))) := by
  unfold bridge
  rw [if_neg (by simp [hvalue])]
  cases b.registry.classify t with
  | record => exact .inl ⟨rfl, _, rfl⟩
  | bitfield => exact .inr (.inl ⟨rfl, _, _, rfl⟩)
  | enumeration =>
    refine .inr (.inr (.inl ⟨rfl, ?_⟩))
    change ∃ symbolic, b.enumerationBridge t = .enumeration symbolic
    unfold enumerationBridge
    split <;> exact ⟨_, rfl⟩
  | typeAlias => exact .inr (.inr (.inr (.inl ⟨rfl, rfl⟩)))
  | fundamental =>
    refine .inr (.inr (.inr (.inr ⟨rfl, ?_⟩)))
    change (∃ f, t.fundamental? = some f ∧ fits t f = true ∧ b.fundamentalBridge t = .fundamental f) ∨
      b.fundamentalBridge t = .verbatim (b.verbatimType t)
    unfold fundamentalBridge
    cases t.fundamental? with
    | none => exact .inr rfl
    | some f =>
      by_cases hfits : fits t f = true
      · exact .inl ⟨f, rfl, hfits, by simp [hfits]⟩
      · exact .inr (by simp [hfits])

theorem bridge_eq_void_iff {b : Boundary} {t : TypeRef} : b.bridge t = .void ↔ t.isVoid = true := by
  constructor
  · intro hbridge
    cases hvalue : t.isVoid with
    | true => rfl
    | false =>
      obtain ⟨_, _, h⟩ | ⟨_, _, _, h⟩ | ⟨_, _, h⟩ | ⟨_, h⟩ | ⟨_, ⟨_, _, _, h⟩ | h⟩ := b.bridge_cases hvalue
      all_goals exact absurd (hbridge.symm.trans h) (by simp)
  · intro hvoid
    rw [bridge, if_pos hvoid]

theorem ne_unit_of_colon {type : String} (h : ':' ∈ type.toList) : type ≠ "()" := by
  rintro rfl
  exact absurd h (by decide)

theorem fundamental_abi_ne_unit {t : TypeRef} {f : Fundamental} (hvalue : t.isVoid = false)
    (hf : t.fundamental? = some f) (hfits : fits t f = true) : f.abi ≠ "()" := by
  intro hunit
  have hnone : f = .none := by
    cases f with
    | none => rfl
    | _ => exact absurd hunit (by decide)
  subst hnone
  have hname : TypeRef.voidNames.contains t.name = true := by
    have hnames := List.find?_some hf
    simpa [TypeRef.voidNames, Fundamental.name, Fundamental.synonyms, or_assoc] using hnames
  have hlevel : t.level = 0 := by
    simp only [fits, Bool.or_eq_true, beq_iff_eq] at hfits
    obtain hspelling | hlevel := hfits
    · simp [TypeRef.level, hspelling]
    · exact hlevel
  rw [TypeRef.isVoid, hlevel, hname] at hvalue
  exact absurd hvalue (by simp)

theorem abi_bridge_eq_unit_iff {b : Boundary} {t : TypeRef} (halias : b.registry.classify t ≠ .typeAlias) :
    b.abi (b.bridge t) = "()" ↔ t.isVoid = true := by
  constructor
  · intro hunit
    cases hvalue : t.isVoid with
    | true => rfl
    | false =>
      refine absurd hunit ?_
      obtain ⟨_, _, h⟩ | ⟨_, _, _, h⟩ | ⟨_, _, h⟩ | ⟨hclass, _⟩ | ⟨_, ⟨f, hf, hfits, h⟩ | h⟩ :=
        b.bridge_cases hvalue
      · rw [h]
        exact ne_unit_of_colon (by simp [abi])
      · rw [h]
        exact (by decide : enumType ≠ "()")
      · rw [h]
        exact (by decide : enumType ≠ "()")
      · exact absurd hclass halias
      · rw [h]
        exact fundamental_abi_ne_unit hvalue hf hfits
      · rw [h]
        exact ne_unit_of_colon (by simp [abi, idiomatic, verbatimType])
  · intro hvoid
    rw [bridge_eq_void_iff.mpr hvoid]
    rfl

end Boundary

end Introspection
