import Introspection.Proofs.Registry.Index

set_option autoImplicit false

namespace Introspection

theorem ConversionTable.keptIn_insertPair (t : ConversionTable) (forward backward : Conversion) :
    t.byEnds.KeptIn (t.insertPair forward backward).byEnds :=
  (t.byEnds.keptIn_insertNew (forward.source, forward.target) forward).trans
    (Table.keptIn_insertNew _ (backward.source, backward.target) backward)

namespace Registry

/-- Nothing of the first registry is lost, moved or changed in the second. -/
structure KeptIn (r u : Registry) : Prop where
  entities : r.entities <+: u.entities
  warnings : r.warnings <+: u.warnings
  index : r.index.KeptIn u.index
  qualified : r.qualified.KeptIn u.qualified
  protocols : r.protocols.KeptIn u.protocols
  references : r.references.KeptIn u.references
  referents : r.referents.KeptIn u.referents
  conversions : r.conversions.byEnds.KeptIn u.conversions.byEnds
  enumNames : r.enumNames ⊆ u.enumNames
  bitfieldNames : r.bitfieldNames ⊆ u.bitfieldNames
  recordNames : r.recordNames ⊆ u.recordNames

theorem KeptIn.refl (r : Registry) : r.KeptIn r where
  entities := List.prefix_refl r.entities
  warnings := List.prefix_refl r.warnings
  index := Table.KeptIn.refl r.index
  qualified := Table.KeptIn.refl r.qualified
  protocols := Table.KeptIn.refl r.protocols
  references := Table.KeptIn.refl r.references
  referents := Table.KeptIn.refl r.referents
  conversions := Table.KeptIn.refl r.conversions.byEnds
  enumNames := List.Subset.refl r.enumNames
  bitfieldNames := List.Subset.refl r.bitfieldNames
  recordNames := List.Subset.refl r.recordNames

theorem KeptIn.trans {r u v : Registry} (hru : r.KeptIn u) (huv : u.KeptIn v) : r.KeptIn v where
  entities := hru.entities.trans huv.entities
  warnings := hru.warnings.trans huv.warnings
  index := hru.index.trans huv.index
  qualified := hru.qualified.trans huv.qualified
  protocols := hru.protocols.trans huv.protocols
  references := hru.references.trans huv.references
  referents := hru.referents.trans huv.referents
  conversions := hru.conversions.trans huv.conversions
  enumNames := List.Subset.trans hru.enumNames huv.enumNames
  bitfieldNames := List.Subset.trans hru.bitfieldNames huv.bitfieldNames
  recordNames := List.Subset.trans hru.recordNames huv.recordNames

theorem keptIn_warnings (r : Registry) (ws : List Warning) :
    r.KeptIn { r with warnings := r.warnings ++ ws } :=
  { KeptIn.refl r with warnings := List.prefix_append r.warnings ws }

theorem keptIn_addViews (r : Registry) (record : Record) (v : ViewNames) : r.KeptIn (r.addViews record v) :=
  { KeptIn.refl r with
    recordNames := subset_insertMember r.recordNames v.raw
    protocols :=
      ((r.protocols.keptIn_insertNew v.raw _).trans (Table.keptIn_insertNew _ v.ofClass _)).trans
        (Table.keptIn_insertNew _ v.ofReference _)
    references := r.references.keptIn_insertAllNew _ _
    referents := r.referents.keptIn_insertAllNew _ _ }

theorem keptIn_addRecord (r : Registry) (space : Option String) (record : Record) :
    r.KeptIn (r.addRecord space record) := by
  cases space with
  | none => exact r.keptIn_addViews record record.viewNames
  | some space =>
    exact (r.keptIn_addViews record record.viewNames).trans
      (keptIn_addViews _ record (record.viewNames.within space))

theorem keptIn_addEnumeration (r : Registry) (space : Option String) (e : Enumeration) :
    r.KeptIn (r.addEnumeration space e) :=
  { KeptIn.refl r with enumNames := subset_foldl_insertMember r.enumNames _ }

theorem keptIn_addConversions (t : ConversionTable) (raw symbolic : String) :
    t.byEnds.KeptIn (addConversions t raw symbolic).byEnds := by
  unfold addConversions
  split
  · exact Table.KeptIn.refl t.byEnds
  · split
    · exact t.keptIn_insertPair _ _
    · exact Table.KeptIn.refl t.byEnds

theorem keptIn_addBitfield (r : Registry) (space : Option String) (b : Enumeration) :
    r.KeptIn (r.addBitfield space b) :=
  { KeptIn.refl r with
    bitfieldNames := subset_foldl_insertMember r.bitfieldNames _
    conversions := keptIn_addConversions r.conversions (rawName space b) b.symbolicName }

theorem keptIn_addDerived (r : Registry) (space : Option String) (d : Declaration) :
    r.KeptIn (r.addDerived space d) := by
  cases d with
  | enumeration e => exact r.keptIn_addEnumeration space e
  | bitfield b => exact r.keptIn_addBitfield space b
  | record record => exact r.keptIn_addRecord space record
  | typeAlias _ | constant _ | callback _ => exact KeptIn.refl r

theorem keptIn_addEntity {r : Registry} (space : Option String) {d : Declaration}
    (hfree : r.index.get? d.name = none) : r.KeptIn (r.addEntity space d) where
  __ := KeptIn.refl r
  entities := List.prefix_append r.entities [d]
  index := Table.keptIn_insert hfree r.size
  qualified := by
    cases space with
    | none => exact Table.KeptIn.refl r.qualified
    | some space => exact r.qualified.keptIn_insertNew (qualify space d.name) r.size

-- The index would lose the older position of a name that is taken, so this rests on the check before it.
theorem keptIn_accept {r : Registry} (space : Option String) {d : Declaration} (hfree : r.index.get? d.name = none) :
    r.KeptIn (r.accept space d) := by
  have hindex : (r.addDerived space d).index = r.index := (r.addDerived_frame space d).2.1
  exact (r.keptIn_addDerived space d).trans (keptIn_addEntity space (hindex ▸ hfree))

namespace KeptIn

variable {r u : Registry}

theorem get? (h : r.KeptIn u) {id : Nat} {d : Declaration} (hd : r.get? id = some d) : u.get? id = some d := by
  obtain ⟨tail, htail⟩ := h.entities
  change u.entities[id]? = some d
  rw [← htail, List.getElem?_append_left (lt_size_of_get? hd)]
  exact hd

theorem lookup?_of_index (h : r.KeptIn u) {name : String} {id : Nat} {d : Declaration}
    (hname : r.index.get? name = some id) (hd : r.get? id = some d) :
    r.lookup? name = some d ∧ u.lookup? name = some d := by
  have hname' := h.index name id hname
  have hd' := h.get? hd
  constructor
  · simp [lookup?, idOf?, hname, hd]
  · simp [lookup?, idOf?, hname', hd']

/-- A qualified name keeps its meaning as long as no declaration of that name is there. -/
theorem lookup?_of_qualified (h : r.KeptIn u) {name : String} {id : Nat} {d : Declaration}
    (hname : r.qualified.get? name = some id) (hd : r.get? id = some d) (hfree : u.index.get? name = none) :
    u.lookup? name = some d := by
  have hname' := h.qualified name id hname
  have hd' := h.get? hd
  simp [lookup?, idOf?, hfree, hname', hd']

end KeptIn

end Registry

namespace Builder

theorem run_keptIn (b : Builder) (ops : List Operation) : b.registry.KeptIn (b.run ops).registry :=
  run_preserves (P := b.registry.KeptIn) (fun r ws h => h.trans (r.keptIn_warnings ws))
    (fun _ space _ hfree h => h.trans (Registry.keptIn_accept space hfree)) b ops (Registry.KeptIn.refl b.registry)

theorem run_index_new (b : Builder) (ops : List Operation) {name : String} {id : Nat}
    (hold : b.registry.index.get? name = none) (hnew : (b.run ops).registry.index.get? name = some id) :
    ∃ space d, b.Registers ops space d id ∧ d.name = name := by
  induction ops using List.reverseRecOn with
  | nil => exact absurd (hold.symm.trans hnew) (by simp)
  | append_singleton ops op ih =>
    rw [run_concat] at hnew
    have hearlier : (b.run ops).registry.index.get? name = some id →
        ∃ space d, b.Registers (ops ++ [op]) space d id ∧ d.name = name := by
      intro h
      obtain ⟨space, d, hreg, hname⟩ := ih h
      exact ⟨space, d, hreg.append [op], hname⟩
    obtain ⟨ws, hws⟩ | ⟨d, rfl, hfree, hd⟩ := (b.run ops).apply_registry_cases op
    · rw [hws] at hnew
      exact hearlier hnew
    · rw [hd, Registry.accept_index, Table.get?_insert] at hnew
      split at hnew
      · next hname =>
        obtain rfl := Option.some.inj hnew
        exact ⟨(b.run ops).space, d, registers_concat hfree, hname.symm⟩
      · exact hearlier hnew

/-- The first registration stays. After any operations, further ones change nothing that is there; a declaration
    is found by its name as before, and so it is by its qualified name, unless one with just that name is
    registered later. -/
theorem run_first_stays (ops later : List Operation) :
    let b := ({} : Builder).run ops
    let r := b.registry
    let u := (b.run later).registry
    r.KeptIn u ∧
    (∀ name id, r.index.get? name = some id → ∃ d, r.lookup? name = some d ∧ u.lookup? name = some d) ∧
    (∀ name id, r.index.get? name = none → r.qualified.get? name = some id →
      (∃ d, r.lookup? name = some d ∧ u.lookup? name = some d) ∨
      ∃ space d position, b.Registers later space d position ∧ d.name = name) := by
  intro b r u
  have hkept : r.KeptIn u := b.run_keptIn later
  have hindexed : r.Indexed := Registry.Reachable.indexed ⟨ops, rfl⟩
  refine ⟨hkept, ?_, ?_⟩
  · intro name id hname
    obtain ⟨d, hd, _⟩ := (hindexed name id).mp hname
    exact ⟨d, hkept.lookup?_of_index hname hd⟩
  · intro name id hfree hname
    obtain ⟨_, d, _, hd, _⟩ := run_qualified ops (Table.mem_entries_of_get? hname)
    cases hlater : u.index.get? name with
    | some position =>
      obtain ⟨space, e, hreg, hname⟩ := b.run_index_new later hfree hlater
      exact Or.inr ⟨space, e, position, hreg, hname⟩
    | none =>
      have hr := (Registry.KeptIn.refl r).lookup?_of_qualified hname hd hfree
      exact Or.inl ⟨d, hr, hkept.lookup?_of_qualified hname hd hlater⟩

example :
    let named (name : String) : Declaration :=
      .typeAlias { item := { name }, slot := { type := .void }, target := .void }
    let b := ({} : Builder).run [.enter "Gtk", .register (named "Int")]
    b.registry.idOf? "Gtk.Int" = some 0 ∧
      (b.run [.register (named "Gtk.Int")]).registry.idOf? "Gtk.Int" = some 1 := by decide

end Builder

end Introspection
