import Introspection.Proofs.Registry.Accepted

set_option autoImplicit false

namespace Introspection

open Markup

def ViewNames.all (v : ViewNames) : List String := [v.raw, v.ofClass, v.ofReference, v.ofProtocol]

theorem ViewNames.all_within (v : ViewNames) (space : String) : (v.within space).all = v.all.map (qualify space) :=
  rfl

def Record.viewKeys (record : Record) (space : Option String) : List String :=
  record.viewNames.all.flatMap (Registry.namesWithin space)

def recordKnownAs (name : String) : Option String × Declaration → Option Record
  | (space, .record record) => if name ∈ record.viewKeys space then some record else none
  | (_, .typeAlias _) | (_, .constant _) | (_, .enumeration _) | (_, .bitfield _) | (_, .callback _) => none

namespace Registry

theorem mem_flatMap_namesWithin_none {names : List String} {key : String} :
    key ∈ names.flatMap (namesWithin none) ↔ key ∈ names := by
  simp [namesWithin]

theorem mem_flatMap_namesWithin_some {names : List String} {space key : String} :
    key ∈ names.flatMap (namesWithin (some space)) ↔ key ∈ names ∨ key ∈ names.map (qualify space) := by
  rw [List.mem_flatMap, List.mem_map]
  constructor
  · rintro ⟨name, hname, hkey⟩
    obtain rfl | hkey := List.mem_cons.mp hkey
    · exact Or.inl hname
    · exact Or.inr ⟨name, hname, (List.mem_singleton.mp hkey).symm⟩
  · rintro (hname | ⟨name, hname, rfl⟩)
    · exact ⟨key, hname, List.mem_cons_self⟩
    · exact ⟨name, hname, List.mem_cons_of_mem name List.mem_cons_self⟩

/-- A table that every record fills under all its names, with a value of its own, and that nothing else changes. -/
structure FilledByRecords {ν : Type} (T : Registry → Table String ν) (value : Record → ν) : Prop where
  start : T {} = {}
  warned : ∀ r ws, T { r with warnings := r.warnings ++ ws } = T r
  stored : ∀ r space d, T (r.addEntity space d) = T r
  skipped : ∀ r space d, d.record? = none → T (r.addDerived space d) = T r
  views : ∀ r record v key, (T (r.addViews record v)).get? key =
    ((T r).get? key).or (if key ∈ v.all then some (value record) else none)

theorem addDerived_views_of_not_record {d : Declaration} (h : d.record? = none) (r : Registry) (space : Option String) :
    (r.addDerived space d).references = r.references ∧ (r.addDerived space d).referents = r.referents := by
  cases d with
  | record record => cases h
  | typeAlias _ | constant _ | enumeration _ | bitfield _ | callback _ => exact ⟨rfl, rfl⟩

theorem references_filled : FilledByRecords references fun record => TypeRef.of record.referenceName "" where
  start := rfl
  warned _ _ := rfl
  stored _ _ _ := rfl
  skipped r space _ h := (addDerived_views_of_not_record h r space).1
  views r _ v key := r.references.get?_insertAllNew v.all _ key

namespace FilledByRecords

variable {ν : Type} {T : Registry → Table String ν} {value : Record → ν} (h : FilledByRecords T value)
include h

theorem get?_addRecord (r : Registry) (space : Option String) (record : Record) (key : String) :
    (T (r.addRecord space record)).get? key =
      ((T r).get? key).or (if key ∈ record.viewKeys space then some (value record) else none) := by
  cases space with
  | none =>
    rw [addRecord, h.views]
    simp only [Record.viewKeys, mem_flatMap_namesWithin_none]
  | some space =>
    rw [addRecord, h.views, h.views, Option.or_assoc, ViewNames.all_within]
    simp only [Record.viewKeys, mem_flatMap_namesWithin_some]
    by_cases hplain : key ∈ record.viewNames.all
    · simp only [hplain, if_true, true_or, Option.some_or]
    · simp only [hplain, if_false, false_or, Option.none_or]

theorem get?_accept (r : Registry) (space : Option String) (d : Declaration) (key : String) :
    (T (r.accept space d)).get? key = ((T r).get? key).or ((recordKnownAs key (space, d)).map value) := by
  rw [accept, h.stored]
  cases d with
  | record record =>
    rw [addDerived, h.get?_addRecord, recordKnownAs]
    split <;> rfl
  | typeAlias _ | constant _ | enumeration _ | bitfield _ | callback _ =>
    rw [h.skipped _ _ _ rfl]
    exact Option.or_none.symm

end FilledByRecords

end Registry

namespace Builder

def viewOwner? (b : Builder) (ops : List Operation) (name : String) : Option Record :=
  (b.accepted ops).findSome? (recordKnownAs name)

theorem run_filledByRecords {ν : Type} {T : Registry → Table String ν} {value : Record → ν}
    (h : Registry.FilledByRecords T value) (ops : List Operation) (name : String) :
    (T (({} : Builder).run ops).registry).get? name = (({} : Builder).viewOwner? ops name).map value := by
  unfold viewOwner?
  rw [List.map_findSome?]
  refine run_first (V := fun r => (T r).get? name) ?_ ?_ (fun r space d _ => h.get?_accept r space d name) ops
  · rw [h.start]
    rfl
  · intro r ws
    rw [h.warned]

theorem run_referenceFor? (ops : List Operation) (name : String) :
    (({} : Builder).run ops).registry.referenceFor? name =
      (({} : Builder).viewOwner? ops name).map fun owner => TypeRef.of owner.referenceName "" :=
  run_filledByRecords Registry.references_filled ops name

end Builder

end Introspection
