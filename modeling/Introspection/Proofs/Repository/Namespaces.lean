import Introspection.Proofs.Registry.Index
import Introspection.Proofs.Repository.Declarations
import Introspection.Proofs.Repository.Refusal
import Mathlib.Data.List.Nodup

set_option autoImplicit false

namespace Introspection

open Markup

namespace Builder

/-- The positions of the registry in order, each with the name of the namespace that holds it, and nothing but what
    is held resolves by a qualified name. -/
structure Holds (b : Builder) (held : List (String × Nat)) : Prop where
  indexed : b.registry.Indexed
  positions : held.map Prod.snd = List.range b.registry.size
  held_of_qualified : ∀ key id, b.registry.qualified.get? key = some id →
    ∃ space d, (space, id) ∈ held ∧ b.registry.get? id = some d ∧ key = qualify space d.name
  qualified_of_held : ∀ space id, (space, id) ∈ held →
    ∃ d other, b.registry.get? id = some d ∧ b.registry.qualified.get? (qualify space d.name) = some other

namespace Holds

variable {b : Builder} {held : List (String × Nat)}

theorem empty : ({} : Builder).Holds [] where
  indexed := Registry.indexed_empty
  positions := rfl
  held_of_qualified := by simp [Table.get?]
  qualified_of_held := by simp

theorem enter (h : b.Holds held) (space : String) : (b.enter space).Holds held :=
  ⟨h.indexed, h.positions, h.held_of_qualified, h.qualified_of_held⟩

theorem warnAll (h : b.Holds held) (ws : List Warning) : (b.warnAll ws).Holds held := by
  rw [warnAll_eq]
  exact ⟨h.indexed.withWarnings _, h.positions, h.held_of_qualified, h.qualified_of_held⟩

theorem lt_size (h : b.Holds held) {space : String} {id : Nat} (hmem : (space, id) ∈ held) : id < b.registry.size := by
  have hid : id ∈ held.map Prod.snd := List.mem_map_of_mem hmem
  rw [h.positions] at hid
  exact List.mem_range.mp hid

theorem space_unique (h : b.Holds held) {space other : String} {id : Nat} (hspace : (space, id) ∈ held)
    (hother : (other, id) ∈ held) : space = other := by
  have hnodup : (held.map Prod.snd).Nodup := by
    rw [h.positions]
    exact List.nodup_range
  exact congrArg Prod.fst (List.inj_on_of_nodup_map hnodup hspace hother rfl)

theorem accept (h : b.Holds held) {space : String} (hspace : b.space = some space) {d : Declaration}
    (hfree : b.registry.index.get? d.name = none) :
    Holds { b with registry := b.registry.accept b.space d } (held ++ [(space, b.registry.size)]) where
  indexed := h.indexed.accept b.space hfree
  positions := by
    have hsize : (b.registry.accept b.space d).size = b.registry.size + 1 := by simp [Registry.size]
    rw [List.map_append, h.positions, hsize, List.range_succ]
    rfl
  held_of_qualified := by
    intro key id hkey
    change (b.registry.accept b.space d).qualified.get? key = some id at hkey
    change ∃ space' e, _ ∧ (b.registry.accept b.space d).get? id = some e ∧ _
    rw [hspace, Registry.accept_qualified_some, Table.get?_insertNew] at hkey
    rw [Registry.accept_get?]
    obtain hold | ⟨_, hnew⟩ := Option.or_eq_some_iff.mp hkey
    · obtain ⟨old, e, hmem, hget, hname⟩ := h.held_of_qualified key id hold
      have hid : id ≠ b.registry.size := Nat.ne_of_lt (h.lt_size hmem)
      exact ⟨old, e, List.mem_append_left _ hmem, by rw [if_neg hid, hget], hname⟩
    · obtain ⟨hname, hid⟩ : key = qualify space d.name ∧ b.registry.size = id := by simpa using hnew
      exact ⟨space, d, by simp [hid], by rw [if_pos hid.symm], hname⟩
  qualified_of_held := by
    intro space' id hmem
    change ∃ e other, (b.registry.accept b.space d).get? id = some e ∧
      (b.registry.accept b.space d).qualified.get? (qualify space' e.name) = some other
    rw [hspace, Registry.accept_qualified_some, Registry.accept_get?]
    obtain hold | hnew := List.mem_append.mp hmem
    · obtain ⟨e, other, hget, hkey⟩ := h.qualified_of_held space' id hold
      have hid : id ≠ b.registry.size := Nat.ne_of_lt (h.lt_size hold)
      exact ⟨e, other, by rw [if_neg hid, hget], Table.keptIn_insertNew _ _ _ _ _ hkey⟩
    · obtain ⟨rfl, rfl⟩ := Prod.mk.inj (List.mem_singleton.mp hnew)
      obtain ⟨other, hother⟩ := b.registry.qualified.exists_get?_insertNew (qualify space' d.name) b.registry.size
      exact ⟨d, other, by rw [if_pos rfl], hother⟩

theorem register (h : b.Holds held) {space : String} (hspace : b.space = some space) (d : Declaration) :
    (b.register d).1.Holds (held ++ (b.register d).2.toList.map fun id => (space, id)) := by
  cases hindex : b.registry.index.get? d.name with
  | some id =>
    rw [register_taken hindex, Option.toList_none, List.map_nil, List.append_nil]
    exact h.warnAll [.duplicate d.kind d.name]
  | none =>
    rw [register_free hindex]
    exact h.accept hspace hindex

end Holds

theorem register_space (b : Builder) (d : Declaration) : (b.register d).1.space = b.space := by
  unfold register
  split <;> rfl

theorem declare_space (b : Builder) (d : Declared) : (b.declare d).1.space = b.space := by
  unfold declare
  rw [register_space, warnAll_eq]

theorem Holds.declareAll {b : Builder} {held : List (String × Nat)} (h : b.Holds held) {space : String}
    (hspace : b.space = some space) (ds : List Declared) :
    (b.declareAll ds).1.Holds (held ++ (b.declareAll ds).2.map fun id => (space, id)) := by
  induction ds generalizing b held with
  | nil =>
    rw [Builder.declareAll, List.map_nil, List.append_nil]
    exact h
  | cons d ds ih =>
    have hwarned : (b.warnAll d.read.warnings).space = some space := by rw [warnAll_eq, hspace]
    have hone : (b.declare d).1.Holds (held ++ (b.declare d).2.toList.map fun id => (space, id)) :=
      (h.warnAll d.read.warnings).register hwarned d.read.value
    have hrest := ih hone (by rw [declare_space, hspace])
    rw [List.append_assoc, ← List.map_append] at hrest
    exact hrest

end Builder

namespace Loader

/-- The positions that the namespaces hold, in the order in which they were loaded. -/
def holdings (l : Loader) : List (String × Nat) := l.namespaces.flatMap fun n => n.entities.map fun id => (n.name, id)

theorem mem_holdings_iff {l : Loader} {space : String} {id : Nat} :
    (space, id) ∈ l.holdings ↔ ∃ n ∈ l.namespaces, n.name = space ∧ id ∈ n.entities := by
  simp only [holdings, List.mem_flatMap, List.mem_map, Prod.mk.injEq]
  constructor
  · rintro ⟨n, hn, id, hid, hspace, rfl⟩
    exact ⟨n, hn, hspace, hid⟩
  · rintro ⟨n, hn, hspace, hid⟩
    exact ⟨n, hn, id, hid, hspace, rfl⟩

variable {l : Loader}

theorem holds_loadNamespace (h : l.builder.Holds l.holdings) (d : Description) (space : Element) :
    (l.loadNamespace d space).builder.Holds (l.loadNamespace d space).holdings := by
  have hentered := (h.warnAll (l.nameOf space).warnings).enter (l.nameOf space).value
  have hloaded := (hentered.declareAll rfl (Declared.all space)).warnAll (functionsOf space).warnings
  have hholdings : (l.loadNamespace d space).holdings = l.holdings ++
      (((l.builder.warnAll (l.nameOf space).warnings).enter (l.nameOf space).value).declareAll
        (Declared.all space)).2.map fun id => ((l.nameOf space).value, id) := by
    simp [holdings, loadNamespace]
  rw [hholdings]
  exact hloaded

theorem attemptAll_holds (texts : List String) :
    (({} : Loader).attemptAll texts).1.builder.Holds (({} : Loader).attemptAll texts).1.holdings :=
  attemptAll_preserves (P := fun l => l.builder.Holds l.holdings) (fun _ d space h => holds_loadNamespace h d space)
    texts Builder.Holds.empty

end Loader

namespace Builder.Holds

variable {b : Builder} {held : List (String × Nat)}

theorem lookup?_qualify_iff (h : b.Holds held) (hplain : ∀ d ∈ b.registry.entities, '.' ∉ d.name.toList)
    {space name : String} (hname : '.' ∉ name.toList) {d : Declaration} :
    b.registry.lookup? (qualify space name) = some d ↔
      ∃ id, (space, id) ∈ held ∧ b.registry.get? id = some d ∧ d.name = name := by
  have hindex : b.registry.index.get? (qualify space name) = none := by
    cases hid : b.registry.index.get? (qualify space name) with
    | none => rfl
    | some id =>
      obtain ⟨e, he, hdotted⟩ := (h.indexed _ id).mp hid
      have hdot : '.' ∈ e.name.toList := by simp [hdotted, qualify]
      exact absurd hdot (hplain e (Registry.get?_mem he))
  have hlookup : b.registry.lookup? (qualify space name) =
      (b.registry.qualified.get? (qualify space name)).bind b.registry.get? := by
    simp [Registry.lookup?, Registry.idOf?, hindex]
  rw [hlookup, Option.bind_eq_some_iff]
  constructor
  · rintro ⟨id, hid, hget⟩
    obtain ⟨owner, e, hmem, he, hkey⟩ := h.held_of_qualified _ id hid
    obtain rfl : e = d := Option.some.inj (he.symm.trans hget)
    obtain ⟨rfl, rfl⟩ := qualify_inj hname (hplain e (Registry.get?_mem he)) hkey
    exact ⟨id, hmem, hget, rfl⟩
  · rintro ⟨id, hmem, hget, rfl⟩
    obtain ⟨e, other, he, hother⟩ := h.qualified_of_held space id hmem
    obtain rfl : e = d := Option.some.inj (he.symm.trans hget)
    obtain ⟨owner, e', _, he', hkey⟩ := h.held_of_qualified _ other hother
    have hsame := (qualify_inj hname (hplain e' (Registry.get?_mem he')) hkey).2
    have hid : id = other := h.indexed.position_unique hget he' hsame
    exact ⟨other, hother, hid ▸ hget⟩

end Builder.Holds

theorem Registry.classify_of_lookup?_eq_none {r : Registry} {name : String} (h : r.lookup? name = none) {t : TypeRef}
    (ht : t.name = name) : r.classify t = .fundamental := by
  rw [Registry.classify, ht, h]
  rfl

namespace Repository

/-- A qualified name resolves to what a loaded namespace of that name holds and to nothing else, provided that no
    declaration has a dot in its name. So it is unknown if no such namespace was loaded, and also if the declaration
    of that name is held by a namespace of another name. -/
theorem ofTexts_qualified_iff (texts : List String)
    (hplain : ∀ d ∈ (ofTexts texts).registry.entities, '.' ∉ d.name.toList)
    (space name : String) (hname : '.' ∉ name.toList) :
    let r := ofTexts texts
    (∀ d, r.registry.lookup? (space ++ "." ++ name) = some d ↔
      ∃ n ∈ r.namespaces, n.name = space ∧ ∃ id ∈ n.entities, r.registry.get? id = some d ∧ d.name = name) ∧
    ((∀ n ∈ r.namespaces, n.name ≠ space) →
      r.registry.lookup? (space ++ "." ++ name) = none ∧
        ∀ t : TypeRef, t.name = space ++ "." ++ name → r.registry.classify t = .fundamental) ∧
    ∀ n ∈ r.namespaces, n.name ≠ space → ∀ id ∈ n.entities, ∀ d, r.registry.get? id = some d → d.name = name →
      r.registry.lookup? (space ++ "." ++ name) = none ∧
        ∀ t : TypeRef, t.name = space ++ "." ++ name → r.registry.classify t = .fundamental := by
  intro r
  have hholds : (({} : Loader).attemptAll texts).1.builder.Holds (({} : Loader).attemptAll texts).1.holdings :=
    Loader.attemptAll_holds texts
  have hlookup : ∀ d, r.registry.lookup? (space ++ "." ++ name) = some d ↔
      ∃ n ∈ r.namespaces, n.name = space ∧ ∃ id ∈ n.entities, r.registry.get? id = some d ∧ d.name = name := by
    intro d
    refine (hholds.lookup?_qualify_iff hplain hname).trans ?_
    constructor
    · rintro ⟨id, hmem, hget, hnamed⟩
      obtain ⟨n, hn, hspace, hid⟩ := Loader.mem_holdings_iff.mp hmem
      exact ⟨n, hn, hspace, id, hid, hget, hnamed⟩
    · rintro ⟨n, hn, hspace, id, hid, hget, hnamed⟩
      exact ⟨id, Loader.mem_holdings_iff.mpr ⟨n, hn, hspace, hid⟩, hget, hnamed⟩
  have hunknown : (∀ d, r.registry.lookup? (space ++ "." ++ name) ≠ some d) →
      r.registry.lookup? (space ++ "." ++ name) = none ∧
        ∀ t : TypeRef, t.name = space ++ "." ++ name → r.registry.classify t = .fundamental := by
    intro hno
    have hnone := Option.eq_none_iff_forall_ne_some.mpr hno
    exact ⟨hnone, fun t ht => Registry.classify_of_lookup?_eq_none hnone ht⟩
  refine ⟨hlookup, ?_, ?_⟩
  · intro hnever
    apply hunknown
    intro d hd
    obtain ⟨n, hn, hspace, _⟩ := (hlookup d).mp hd
    exact hnever n hn hspace
  · intro n hn hspace id hid d hget hnamed
    apply hunknown
    intro e he
    obtain ⟨m, hm, hspace', other, hother, he, hnamed'⟩ := (hlookup e).mp he
    have hpos : id = other := hholds.indexed.position_unique hget he (hnamed.trans hnamed'.symm)
    have hmem : (n.name, other) ∈ (({} : Loader).attemptAll texts).1.holdings :=
      Loader.mem_holdings_iff.mpr ⟨n, hn, rfl, hpos ▸ hid⟩
    have hmem' : (m.name, other) ∈ (({} : Loader).attemptAll texts).1.holdings :=
      Loader.mem_holdings_iff.mpr ⟨m, hm, rfl, hother⟩
    exact hspace ((hholds.space_unique hmem hmem').trans hspace')

theorem ofTexts_qualified_ui :
    let texts := ["<repository><namespace name='Base'><class name='Widget'/></namespace></repository>",
      "<repository><namespace name='Ui.Kit'><class name='Widget'/><class name='Button'/></namespace></repository>"]
    let r := ofTexts texts
    (∀ d ∈ r.registry.entities, '.' ∉ d.name.toList) ∧
      (r.registry.lookup? "Ui.Kit.Button").map Declaration.name = some "Button" ∧
      r.registry.lookup? "Ui.Kit.Widget" = none ∧ r.registry.lookup? "Gtk.Widget" = none := by
  intro texts r
  have hloaded : (∀ d ∈ r.registry.entities, '.' ∉ d.name.toList) ∧ (∀ n ∈ r.namespaces, n.name ≠ "Gtk") ∧
      (∃ n ∈ r.namespaces, n.name ≠ "Ui.Kit" ∧ ∃ id ∈ n.entities,
        (r.registry.get? id).map Declaration.name = some "Widget") ∧
      ∃ n ∈ r.namespaces, n.name = "Ui.Kit" ∧ ∃ id ∈ n.entities,
        (r.registry.get? id).map Declaration.name = some "Button" := by
    decide +kernel
  obtain ⟨hplain, hnever, ⟨base, hbase, hother, id, hid, hwidget⟩, kit, hkit, hspace, id', hid', hbutton⟩ := hloaded
  obtain ⟨widget, hgetWidget, hnameWidget⟩ := Option.map_eq_some_iff.mp hwidget
  obtain ⟨button, hgetButton, hnameButton⟩ := Option.map_eq_some_iff.mp hbutton
  have hfound : r.registry.lookup? "Ui.Kit.Button" = some button :=
    ((ofTexts_qualified_iff texts hplain "Ui.Kit" "Button" (by decide)).1 button).mpr
      ⟨kit, hkit, hspace, id', hid', hgetButton, hnameButton⟩
  have hrejected : r.registry.lookup? "Ui.Kit.Widget" = none :=
    ((ofTexts_qualified_iff texts hplain "Ui.Kit" "Widget" (by decide)).2.2 base hbase hother id hid widget
      hgetWidget hnameWidget).1
  have hunloaded : r.registry.lookup? "Gtk.Widget" = none :=
    ((ofTexts_qualified_iff texts hplain "Gtk" "Widget" (by decide)).2.1 hnever).1
  exact ⟨hplain, by rw [hfound, Option.map_some, hnameButton], hrejected, hunloaded⟩

end Repository

end Introspection
