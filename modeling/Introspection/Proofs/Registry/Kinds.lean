import Introspection.Proofs.Registry.Names
import Mathlib.Data.List.Nodup

/-!
Names of enumerations and names of bitfields. No two declarations have one name, so what is declared as an enumeration
is not declared as a bitfield. A bitfield also goes by its symbolic and its raw name, though, and these are entered
without a look at the names that are taken: a name that belongs to an enumeration can come to stand for a bitfield too,
in whatever order the two are registered.
-/

set_option autoImplicit false

namespace Introspection

open Markup

namespace Registry

theorem mem_enumeration_names_iff {space : Option String} {d : Declaration} {name : String} :
    name ∈ namesOfKind Declaration.enumeration? (space, d) ↔
      ∃ e, d = .enumeration e ∧ name ∈ namesWithin space e.item.name := by
  rw [mem_namesOfKind_iff]
  cases d with
  | enumeration e => simp [Declaration.enumeration?, Declaration.name, Declaration.item]
  | typeAlias _ | constant _ | bitfield _ | record _ | callback _ => simp [Declaration.enumeration?]

theorem mem_bitfieldNamesOf_iff {space : Option String} {d : Declaration} {name : String} :
    name ∈ bitfieldNamesOf (space, d) ↔ ∃ b, d = .bitfield b ∧
      (name ∈ namesWithin space b.item.name ∨ name = b.symbolicName ∨ name = rawName space b) := by
  cases d with
  | bitfield b => simp [bitfieldNamesOf]
  | typeAlias _ | constant _ | enumeration _ | record _ | callback _ => simp [bitfieldNamesOf]

theorem mem_namesWithin_iff {space : Option String} {name declared : String} :
    name ∈ namesWithin space declared ↔
      name = declared ∨ ∃ within, space = some within ∧ name = qualify within declared := by
  cases space <;> simp [namesWithin]

theorem dot_mem_of_shared {space other : Option String} {name first second : String} (hne : first ≠ second)
    (hfirst : name ∈ namesWithin space first) (hsecond : name ∈ namesWithin other second) :
    '.' ∈ first.toList ∨ '.' ∈ second.toList := by
  have hdot : ∀ within n, '.' ∈ (qualify within n).toList := by simp [qualify]
  rw [mem_namesWithin_iff] at hfirst hsecond
  obtain rfl | ⟨within, _, rfl⟩ := hfirst
  · obtain rfl | ⟨within, _, rfl⟩ := hsecond
    · exact absurd rfl hne
    · exact .inl (hdot _ _)
  · obtain rfl | ⟨_, _, hsame⟩ := hsecond
    · exact .inr (hdot _ _)
    · by_contra hplain
      rw [not_or] at hplain
      exact hne (qualify_inj hplain.1 hplain.2 hsame).2

end Registry

namespace Builder

theorem accepted_eq_of_name_eq (ops : List Operation) {space other : Option String} {d e : Declaration}
    (hd : (space, d) ∈ ({} : Builder).accepted ops) (he : (other, e) ∈ ({} : Builder).accepted ops)
    (hname : d.name = e.name) : d = e := by
  have hnodup : ((({} : Builder).run ops).registry.entities.map Declaration.name).Nodup :=
    (Registry.Reachable.indexed ⟨ops, rfl⟩).names_nodup
  rw [run_entities] at hnodup
  exact List.inj_on_of_nodup_map hnodup (List.mem_map.mpr ⟨_, hd, rfl⟩) (List.mem_map.mpr ⟨_, he, rfl⟩) hname

theorem run_isEnum_iff (ops : List Operation) (name : String) :
    (({} : Builder).run ops).registry.isEnum name = true ↔
      ∃ space e, (space, .enumeration e) ∈ ({} : Builder).accepted ops ∧
        name ∈ Registry.namesWithin space e.item.name := by
  unfold Registry.isEnum
  rw [List.contains_iff_mem, run_collects Registry.enumNames_collects]
  constructor
  · rintro ⟨⟨space, d⟩, hmem, hadds⟩
    obtain ⟨e, rfl, hname⟩ := Registry.mem_enumeration_names_iff.mp hadds
    exact ⟨space, e, hmem, hname⟩
  · rintro ⟨space, e, hmem, hname⟩
    exact ⟨_, hmem, Registry.mem_enumeration_names_iff.mpr ⟨e, rfl, hname⟩⟩

theorem run_isBitfield_iff (ops : List Operation) (name : String) :
    (({} : Builder).run ops).registry.isBitfield name = true ↔
      ∃ space b, (space, .bitfield b) ∈ ({} : Builder).accepted ops ∧
        (name ∈ Registry.namesWithin space b.item.name ∨ name = b.symbolicName ∨ name = Registry.rawName space b) := by
  unfold Registry.isBitfield
  rw [List.contains_iff_mem, run_collects Registry.bitfieldNames_collects]
  constructor
  · rintro ⟨⟨space, d⟩, hmem, hadds⟩
    obtain ⟨b, rfl, hname⟩ := Registry.mem_bitfieldNamesOf_iff.mp hadds
    exact ⟨space, b, hmem, hname⟩
  · rintro ⟨space, b, hmem, hname⟩
    exact ⟨_, hmem, Registry.mem_bitfieldNamesOf_iff.mpr ⟨b, rfl, hname⟩⟩

theorem accepted_enumeration_ne_bitfield (ops : List Operation) {space other : Option String} {e b : Enumeration}
    (he : (space, .enumeration e) ∈ ({} : Builder).accepted ops)
    (hb : (other, .bitfield b) ∈ ({} : Builder).accepted ops) : e.item.name ≠ b.item.name := by
  intro hname
  cases accepted_eq_of_name_eq ops he hb hname

/-- The names that a bitfield brings in beside the declared one are all that can make an enumeration a bitfield too. -/
theorem run_enumeration_isBitfield_iff (ops : List Operation) {space : Option String} {e : Enumeration}
    (he : (space, .enumeration e) ∈ ({} : Builder).accepted ops) :
    (({} : Builder).run ops).registry.isBitfield e.item.name = true ↔
      ∃ other b, (other, .bitfield b) ∈ ({} : Builder).accepted ops ∧
        (e.item.name = b.symbolicName ∨ e.item.name = Registry.rawName other b ∨
          ∃ within, other = some within ∧ e.item.name = qualify within b.item.name) := by
  rw [run_isBitfield_iff]
  refine exists_congr fun other => exists_congr fun b => and_congr_right fun hb => ?_
  rw [Registry.mem_namesWithin_iff, or_iff_right (accepted_enumeration_ne_bitfield ops he hb), or_comm, or_assoc]

/-- Where a name means an enumeration and a bitfield: the bitfield has it as its symbolic or raw name, or one of the two
    is declared with a name that looks qualified. In particular, the name of an enumeration stands for no bitfield
    exactly if no bitfield has it as its symbolic, raw or qualified name, be it registered before or after. -/
theorem run_enum_bitfield_iff (ops : List Operation) (name : String) :
    let r := (({} : Builder).run ops).registry
    let declared := ({} : Builder).accepted ops
    (r.isEnum name = true ∧ r.isBitfield name = true ↔
      ∃ space e other b, (space, .enumeration e) ∈ declared ∧ (other, .bitfield b) ∈ declared ∧
        name ∈ Registry.namesWithin space e.item.name ∧
        (name = b.symbolicName ∨ name = Registry.rawName other b ∨
          name ∈ Registry.namesWithin other b.item.name ∧
            ('.' ∈ e.item.name.toList ∨ '.' ∈ b.item.name.toList))) ∧
    ∀ space e, (space, .enumeration e) ∈ declared →
      (r.isBitfield e.item.name = false ↔ ¬ ∃ other b, (other, .bitfield b) ∈ declared ∧
        (e.item.name = b.symbolicName ∨ e.item.name = Registry.rawName other b ∨
          ∃ within, other = some within ∧ e.item.name = qualify within b.item.name)) := by
  intro r declared
  constructor
  · rw [run_isEnum_iff, run_isBitfield_iff]
    constructor
    · rintro ⟨⟨space, e, he, hename⟩, other, b, hb, hbname⟩
      refine ⟨space, e, other, b, he, hb, hename, ?_⟩
      obtain hdeclared | hsymbolic | hraw := hbname
      · have hne := accepted_enumeration_ne_bitfield ops he hb
        exact .inr (.inr ⟨hdeclared, Registry.dot_mem_of_shared hne hename hdeclared⟩)
      · exact .inl hsymbolic
      · exact .inr (.inl hraw)
    · rintro ⟨space, e, other, b, he, hb, hename, hclash⟩
      refine ⟨⟨space, e, he, hename⟩, other, b, hb, ?_⟩
      obtain hsymbolic | hraw | ⟨hdeclared, _⟩ := hclash
      · exact .inr (.inl hsymbolic)
      · exact .inr (.inr hraw)
      · exact .inl hdeclared
  · intro space e he
    rw [Bool.eq_false_iff, ne_eq, run_enumeration_isBitfield_iff ops he]

theorem run_enum_bitfield_align :
    let element (name spelling : String) : Element :=
      { Element.named "declaration" with attributes := [("name", name), ("type", spelling)] }
    let align := Enumeration.ofElement (element "Align" "GtkAlign") 0
    let flags := Enumeration.ofElement (element "StateFlags" "GtkStateFlags") 0
    let ops : List Operation := [.enter "Gtk", .register (.enumeration align), .register (.bitfield flags)]
    let r := (({} : Builder).run ops).registry
    (∀ name, ¬ (r.isEnum name = true ∧ r.isBitfield name = true)) ∧
      (some "Gtk", .enumeration align) ∈ ({} : Builder).accepted ops ∧ r.isBitfield "Align" = false := by
  intro element align flags ops r
  have haccepted : ({} : Builder).accepted ops = [(some "Gtk", .enumeration align), (some "Gtk", .bitfield flags)] := rfl
  have hmem : (some "Gtk", .enumeration align) ∈ ({} : Builder).accepted ops := by simp [haccepted]
  have hflags : ∀ {other b}, (other, .bitfield b) ∈ ({} : Builder).accepted ops → other = some "Gtk" ∧ b = flags := by
    simp [haccepted]
  refine ⟨?_, hmem, ((run_enum_bitfield_iff ops "").2 _ align hmem).mpr ?_⟩
  · intro name hboth
    obtain ⟨space, e, other, b, he, hb, hname, hclash⟩ := (run_enum_bitfield_iff ops name).1.mp hboth
    obtain ⟨rfl, rfl⟩ : space = some "Gtk" ∧ e = align := by simpa [haccepted] using he
    obtain ⟨rfl, rfl⟩ := hflags hb
    have hnames : name ∈ ["Align", "Gtk.Align"] := hname
    revert hclash
    simp only [List.mem_cons, List.not_mem_nil, or_false] at hnames
    obtain rfl | rfl := hnames
    · decide
    · decide
  · rintro ⟨other, b, hb, hclash⟩
    obtain ⟨rfl, rfl⟩ := hflags hb
    obtain hsymbolic | hraw | ⟨within, hwithin, hqualified⟩ := hclash
    · exact absurd hsymbolic (by decide)
    · exact absurd hraw (by decide)
    · cases hwithin
      exact absurd hqualified (by decide)

/-- Once a bitfield `color` is registered, before or after, the enumeration `Color` is a bitfield by name and still none
    by its class. -/
theorem run_enum_is_bitfield :
    let element (name spelling : String) : Element :=
      { Element.named "declaration" with attributes := [("name", name), ("type", spelling)] }
    let color : Operation := .register (.enumeration (.ofElement (element "Color" "TestColor") 0))
    let mask : Operation := .register (.bitfield (.ofElement (element "color" "TestColorMask") 0))
    let early := (({} : Builder).run [.enter "Test", color]).registry
    (early.isEnum "Color" = true ∧ early.isBitfield "Color" = false) ∧
    ∀ ops ∈ [[.enter "Test", color, mask], [.enter "Test", mask, color]],
      let r := (({} : Builder).run ops).registry
      r.isEnum "Color" = true ∧ r.isBitfield "Color" = true ∧ (r.bitfield? "Color").isSome = false ∧
        r.classify (TypeRef.of "Color" "TestColor") = .enumeration := by
  decide

end Builder

end Introspection
