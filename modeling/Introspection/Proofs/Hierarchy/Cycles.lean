import Introspection.Proofs.Hierarchy.Validity
import Mathlib.Data.List.Cycle

/-!
Cycles of parents. A cycle is a list of records up to rotation, each the child of the next. Since parents are a function,
a record lies on one cycle at most, the one that its own ancestors run through. Every cycle is reported once, at the
record on it that was registered first, and a record that only leads into a cycle is not mentioned.
-/

set_option autoImplicit false

namespace Introspection

open Markup

theorem cycle_eq_cons_of_mem {α : Type} {s : Cycle α} {a : α} (h : a ∈ s) :
    ∃ rest : List α, s = ((a :: rest : List α) : Cycle α) := by
  induction s using Quotient.inductionOn' with
  | _ l =>
    obtain ⟨before, after, rfl⟩ := List.append_of_mem h
    exact ⟨after ++ before, Cycle.coe_eq_coe.mpr List.isRotated_append⟩

theorem filter_filterMap_eq_toList {α β κ : Type} [DecidableEq κ] {key : α → κ} {key' : β → κ} {f : α → Option β}
    (hkey : ∀ x y, f x = some y → key' y = key x) {xs : List α} (hnodup : (xs.map key).Nodup) {x : α} (hx : x ∈ xs) :
    (xs.filterMap f).filter (fun y => key' y = key x) = (f x).toList := by
  have hnone : ∀ ys : List α, key x ∉ ys.map key → (ys.filterMap f).filter (fun y => key' y = key x) = [] := by
    intro ys hnew
    rw [List.filter_eq_nil_iff]
    intro y hy hsame
    obtain ⟨z, hz, hzy⟩ := List.mem_filterMap.mp hy
    exact hnew (List.mem_map.mpr ⟨z, hz, (hkey z y hzy).symm.trans (of_decide_eq_true hsame)⟩)
  obtain ⟨before, after, rfl⟩ := List.append_of_mem hx
  rw [List.map_append, List.map_cons, List.nodup_middle, List.nodup_cons, List.mem_append, not_or] at hnodup
  rw [List.filterMap_append, List.filter_append, hnone before hnodup.1.1, List.nil_append]
  cases hfx : f x with
  | none => rw [List.filterMap_cons_none hfx, hnone after hnodup.1.2, Option.toList_none]
  | some y =>
    rw [List.filterMap_cons_some hfx, List.filter_cons_of_pos (by simpa using hkey x y hfx),
      hnone after hnodup.1.2, Option.toList_some]

namespace HierarchyFault

def isCycle : HierarchyFault → Bool
  | .cycle _ => true
  | .unresolvedParent _ _ | .unresolvedInterface _ _ => false

/-- The report of a cycle, from one of its records up to the same one. -/
def ofCycle (c : Record × List Record) : HierarchyFault := .cycle ((c.1 :: c.2).map Record.name ++ [c.1.name])

end HierarchyFault

namespace Registry

variable {r : Registry}

/-- Every record has the next one for a parent, and the last has the first. -/
structure IsParentCycle (r : Registry) (s : Cycle Record) : Prop where
  nonempty : s ≠ Cycle.nil
  nodup : s.Nodup
  chain : s.Chain r.IsParent

theorem isChain_return_iff {record : Record} {chain : List Record} :
    List.IsChain r.IsParent (record :: (chain ++ [record])) ↔
      List.IsChain r.IsParent (record :: chain) ∧ r.parentOf? (chain.getLastD record) = some record := by
  rw [← List.cons_append, List.isChain_append, List.getLast?_cons, List.getLastD_eq_getLast?]
  simp [IsParent]

namespace IsParentCycle

variable {s : Cycle Record}

theorem mem_records (h : r.IsParentCycle s) {a : Record} (ha : a ∈ s) : a ∈ r.records := by
  obtain ⟨rest, rfl⟩ := cycle_eq_cons_of_mem ha
  exact mem_records_of_isChain h.chain (List.mem_append_right rest List.mem_cons_self)

theorem ancestors_eq {a : Record} {rest : List Record} (h : r.IsParentCycle (a :: rest : List Record))
    (hr : r.Indexed) : r.ancestors a = rest := by
  obtain ⟨hchain, hreturn⟩ := isChain_return_iff.mp h.chain
  refine ancestors_of_return hchain ?_ hreturn
  refine List.Nodup.map_on ?_ (Cycle.nodup_coe_iff.mp h.nodup)
  exact fun x hx y hy => hr.record_unique (h.mem_records hx) (h.mem_records hy)

theorem eq_lineage (h : r.IsParentCycle s) (hr : r.Indexed) {a : Record} (ha : a ∈ s) : s = r.lineage a := by
  obtain ⟨rest, rfl⟩ := cycle_eq_cons_of_mem ha
  rw [lineage, h.ancestors_eq hr]

end IsParentCycle

theorem isParentCycle_lineage_iff {record : Record} :
    r.IsParentCycle (r.lineage record) ↔ r.parentOf? (r.rootOf record) = some record := by
  rw [rootOf_eq]
  constructor
  · intro h
    exact (isChain_return_iff.mp h.chain).2
  · intro hreturn
    refine ⟨?_, ?_, isChain_return_iff.mpr ⟨r.lineage_isChain record, hreturn⟩⟩
    · simp [lineage]
    · exact Cycle.nodup_coe_iff.mpr (r.lineage_nodup record)

theorem cycle?_eq_some_iff (hr : r.Indexed) {record : Record} (hrecord : record ∈ r.records) {path : List String} :
    r.cycle? record = some path ↔
      r.IsParentCycle (r.lineage record) ∧ path = (r.lineage record).map Record.name ++ [record.name] := by
  rw [isParentCycle_lineage_iff]
  unfold cycle?
  cases hparent : r.parentOf? (r.rootOf record) with
  | none => simp
  | some parent =>
    have hsame : parent.name = record.name ↔ parent = record :=
      ⟨hr.record_unique (parentOf?_mem hparent) hrecord, congrArg Record.name⟩
    simp [hsame, eq_comm]

/-- The records from `m` around, where none of them was registered before `m`. -/
structure OpensCycle (r : Registry) (m : Record) (rest : List Record) : Prop where
  cycle : r.IsParentCycle (m :: rest : List Record)
  first : ∃ before after, r.records = before ++ m :: after ∧ ∀ a ∈ before, a ∉ m :: rest

open Classical in
noncomputable def opened? (r : Registry) (m : Record) : Option (Record × List Record) :=
  if r.OpensCycle m (r.ancestors m) then some (m, r.ancestors m) else none

theorem opened?_eq_some_iff {m : Record} {c : Record × List Record} :
    r.opened? m = some c ↔ r.OpensCycle m (r.ancestors m) ∧ c = (m, r.ancestors m) := by
  unfold opened?
  split
  · next h => simp [h, eq_comm]
  · next h => simp [h]

theorem opened?_eq_none {m : Record} (h : ¬ r.OpensCycle m (r.ancestors m)) : r.opened? m = none :=
  if_neg h

theorem exists_opensCycle (hr : r.Indexed) {s : Cycle Record} (h : r.IsParentCycle s) :
    ∃ m, r.OpensCycle m (r.ancestors m) ∧ s = r.lineage m := by
  classical
  obtain ⟨a, ha⟩ : ∃ a, a ∈ s := by
    induction s using Quotient.inductionOn' with
    | _ l => exact List.exists_mem_of_ne_nil l fun hnil => h.nonempty (congrArg _ hnil)
  have hfound : (r.records.find? fun a => decide (a ∈ s)).isSome = true :=
    List.find?_isSome.mpr ⟨a, h.mem_records ha, decide_eq_true ha⟩
  obtain ⟨m, hm⟩ := Option.isSome_iff_exists.mp hfound
  obtain ⟨hmem, before, after, hrecords, hbefore⟩ := List.find?_eq_some_iff_append.mp hm
  have hs : s = r.lineage m := h.eq_lineage hr (of_decide_eq_true hmem)
  refine ⟨m, ⟨hs ▸ h, before, after, hrecords, ?_⟩, hs⟩
  intro b hb hin
  have hbs : b ∈ s := hs ▸ hin
  simpa [hbs] using hbefore b hb

theorem OpensCycle.unique {m m' : Record} {rest rest' : List Record} (h : r.OpensCycle m rest)
    (h' : r.OpensCycle m' rest') (hsame : ((m :: rest : List Record) : Cycle Record) = (m' :: rest' : List Record)) :
    m = m' := by
  have hm : m ∈ m' :: rest' := Cycle.mem_coe_iff.mp (hsame ▸ Cycle.mem_coe_iff.mpr List.mem_cons_self)
  have hm' : m' ∈ m :: rest := Cycle.mem_coe_iff.mp (hsame ▸ Cycle.mem_coe_iff.mpr List.mem_cons_self)
  obtain ⟨before, after, hrecords, hfirst⟩ := h.first
  obtain ⟨before', after', hrecords', hfirst'⟩ := h'.first
  obtain ⟨between, hbefore, hrest⟩ | ⟨between, hbefore, hrest⟩ :=
    List.append_eq_append_iff.mp (hrecords.symm.trans hrecords')
  · cases between with
    | nil => exact (List.cons.inj hrest).1
    | cons a between =>
      obtain rfl := (List.cons.inj hrest).1
      exact absurd hm (hfirst' m (by simp [hbefore]))
  · cases between with
    | nil => exact (List.cons.inj hrest).1.symm
    | cons a between =>
      obtain rfl := (List.cons.inj hrest).1
      exact absurd hm' (hfirst m' (by simp [hbefore]))

/-- Marked are the records of all cycles that run through one of `before`. -/
def Marks (r : Registry) (before : List Record) (marked : List String) : Prop :=
  ∀ m ∈ r.records, m.name ∈ marked ↔ ∃ a ∈ before, r.IsParentCycle (r.lineage a) ∧ m ∈ r.lineage a

namespace Marks

variable {before after : List Record} {marked : List String} {m : Record}

theorem nil (r : Registry) : r.Marks [] [] := by
  intro m _
  simp

theorem opensCycle_iff (h : r.Marks before marked) (hr : r.Indexed) (hrecords : r.records = before ++ m :: after) :
    r.OpensCycle m (r.ancestors m) ↔ m.name ∉ marked ∧ r.IsParentCycle (r.lineage m) := by
  have hm : m ∈ r.records := hrecords ▸ List.mem_append_right before List.mem_cons_self
  constructor
  · rintro ⟨hcycle, before', after', hrecords', hfirst⟩
    refine ⟨fun hmarked => ?_, hcycle⟩
    obtain ⟨a, ha, hon, hmem⟩ := (h m hm).mp hmarked
    have hnodup : r.records.Nodup := List.Nodup.of_map _ hr.record_names_nodup
    rw [hrecords, List.nodup_middle, List.nodup_cons, List.mem_append, not_or] at hnodup
    obtain ⟨rfl, -, -⟩ := (List.append_cons_inj_of_notMem hnodup.1.1 hnodup.1.2).mp (hrecords.symm.trans hrecords')
    have hback : a ∈ r.lineage m :=
      Cycle.mem_coe_iff.mp (hon.eq_lineage hr hmem ▸ Cycle.mem_coe_iff.mpr List.mem_cons_self)
    exact hfirst a ha hback
  · rintro ⟨hnew, hcycle⟩
    refine ⟨hcycle, before, after, hrecords, fun a ha hmem => hnew ((h m hm).mpr ⟨a, ha, ?_⟩)⟩
    have hsame := hcycle.eq_lineage hr hmem
    exact ⟨hsame ▸ hcycle, Cycle.mem_coe_iff.mp (hsame ▸ Cycle.mem_coe_iff.mpr List.mem_cons_self)⟩

theorem concat (h : r.Marks before marked) (hr : r.Indexed) (hm : m ∈ r.records)
    (hmarked : r.IsParentCycle (r.lineage m) → m.name ∈ marked) : r.Marks (before ++ [m]) marked := by
  intro other hother
  rw [h other hother]
  constructor
  · rintro ⟨a, ha, hon⟩
    exact ⟨a, List.mem_append_left _ ha, hon⟩
  · rintro ⟨a, ha, hon, hmem⟩
    obtain ha | ha := List.mem_append.mp ha
    · exact ⟨a, ha, hon, hmem⟩
    · -- The cycle of `m` is one that was met before.
      obtain rfl := List.mem_singleton.mp ha
      obtain ⟨b, hb, honb, hmemb⟩ := (h a hm).mp (hmarked hon)
      exact ⟨b, hb, honb, Cycle.mem_coe_iff.mp (honb.eq_lineage hr hmemb ▸ Cycle.mem_coe_iff.mpr hmem)⟩

theorem report (h : r.Marks before marked) (hr : r.Indexed) (hm : m ∈ r.records)
    (hcycle : r.IsParentCycle (r.lineage m)) :
    r.Marks (before ++ [m]) (marked ++ ((r.lineage m).map Record.name ++ [m.name])) := by
  intro other hother
  have hnamed : other.name ∈ (r.lineage m).map Record.name ++ [m.name] ↔ other ∈ r.lineage m := by
    constructor
    · intro hname
      obtain ⟨a, ha, hsame⟩ : ∃ a ∈ r.lineage m, a.name = other.name := by
        obtain hname | hname := List.mem_append.mp hname
        · exact List.mem_map.mp hname
        · exact ⟨m, List.mem_cons_self, (List.mem_singleton.mp hname).symm⟩
      exact hr.record_unique (mem_records_of_mem_lineage hm ha) hother hsame ▸ ha
    · intro hmem
      exact List.mem_append_left _ (List.mem_map.mpr ⟨other, hmem, rfl⟩)
  rw [List.mem_append, hnamed, h other hother]
  simp only [List.mem_append, List.mem_singleton, or_and_right, exists_or, exists_eq_left, hcycle, true_and]

end Marks

theorem faultsFrom_eq_flatMap (hr : r.Indexed) {before rest : List Record} {marked : List String}
    (hrecords : r.records = before ++ rest) (h : r.Marks before marked) :
    r.faultsFrom marked rest = rest.flatMap fun m =>
      r.parentFaults m ++ r.interfaceFaults m ++ (r.opened? m).toList.map .ofCycle := by
  induction rest generalizing before marked with
  | nil => rfl
  | cons m rest ih =>
    have hm : m ∈ r.records := hrecords ▸ List.mem_append_right before List.mem_cons_self
    have hnext : r.records = (before ++ [m]) ++ rest := by rw [hrecords, List.append_assoc, List.singleton_append]
    have hopens := h.opensCycle_iff hr hrecords
    rw [faultsFrom, List.flatMap_cons]
    by_cases hmarked : m.name ∈ marked
    · have hnone : r.opened? m = none := opened?_eq_none fun hopen => (hopens.mp hopen).1 hmarked
      rw [if_pos hmarked, ih hnext (h.concat hr hm fun _ => hmarked), hnone, Option.toList_none, List.map_nil,
        List.append_nil]
    · rw [if_neg hmarked]
      cases hcycle : r.cycle? m with
      | none =>
        have hoff : ¬ r.IsParentCycle (r.lineage m) := by
          intro hon
          have hsome := (cycle?_eq_some_iff hr hm).mpr ⟨hon, rfl⟩
          exact absurd (hcycle.symm.trans hsome) (by simp)
        have hnone : r.opened? m = none := opened?_eq_none fun hopen => hoff (hopens.mp hopen).2
        rw [ih hnext (h.concat hr hm fun hon => absurd hon hoff), hnone, Option.toList_none, List.map_nil,
          List.append_nil]
      | some path =>
        obtain ⟨hon, rfl⟩ := (cycle?_eq_some_iff hr hm).mp hcycle
        have hopened : r.opened? m = some (m, r.ancestors m) :=
          opened?_eq_some_iff.mpr ⟨hopens.mpr ⟨hmarked, hon⟩, rfl⟩
        change _ ++ HierarchyFault.ofCycle (m, r.ancestors m) :: r.faultsFrom _ rest = _
        rw [ih hnext (h.report hr hm hon), hopened, Option.toList_some, List.map_singleton, List.append_assoc _ [_],
          List.singleton_append]

theorem filter_isCycle_faults (r : Registry) (m : Record) (cycles : List (Record × List Record)) :
    (r.parentFaults m ++ r.interfaceFaults m ++ cycles.map HierarchyFault.ofCycle).filter HierarchyFault.isCycle =
      cycles.map HierarchyFault.ofCycle := by
  have hparent : (r.parentFaults m).filter HierarchyFault.isCycle = [] := by
    unfold parentFaults
    split
    · split <;> rfl
    · rfl
  have hinterface : (r.interfaceFaults m).filter HierarchyFault.isCycle = [] := by
    unfold interfaceFaults
    rw [List.filter_map]
    simp [HierarchyFault.isCycle, Function.comp_def]
  have hcycles : (cycles.map HierarchyFault.ofCycle).filter HierarchyFault.isCycle = cycles.map .ofCycle := by
    rw [List.filter_map, List.filter_eq_self.mpr]
    exact fun _ _ => rfl
  rw [List.filter_append, List.filter_append, hparent, hinterface, hcycles, List.nil_append, List.nil_append]

noncomputable def openings (r : Registry) : List (Record × List Record) := r.records.filterMap r.opened?

theorem mem_openings_iff (hr : r.Indexed) {m : Record} {rest : List Record} :
    (m, rest) ∈ r.openings ↔ r.OpensCycle m rest := by
  unfold openings
  rw [List.mem_filterMap]
  constructor
  · rintro ⟨m', _, hm'⟩
    obtain ⟨hopens, heq⟩ := opened?_eq_some_iff.mp hm'
    cases heq
    exact hopens
  · intro hopens
    obtain rfl := hopens.cycle.ancestors_eq hr
    exact ⟨m, hopens.cycle.mem_records List.mem_cons_self, opened?_eq_some_iff.mpr ⟨hopens, rfl⟩⟩

theorem isParentCycle_iff_mem_openings (hr : r.Indexed) (s : Cycle Record) :
    r.IsParentCycle s ↔ s ∈ r.openings.map fun c => ((c.1 :: c.2 : List Record) : Cycle Record) := by
  rw [List.mem_map]
  constructor
  · intro hs
    obtain ⟨m, hopens, rfl⟩ := exists_opensCycle hr hs
    exact ⟨(m, r.ancestors m), (mem_openings_iff hr).mpr hopens, rfl⟩
  · rintro ⟨⟨m, rest⟩, hc, rfl⟩
    exact ((mem_openings_iff hr).mp hc).cycle

theorem openings_nodup (hr : r.Indexed) :
    (r.openings.map fun c => ((c.1 :: c.2 : List Record) : Cycle Record)).Nodup := by
  refine List.Nodup.map_on ?_ (List.Nodup.filterMap ?_ (List.Nodup.of_map _ hr.record_names_nodup))
  · rintro ⟨m, rest⟩ hc ⟨m', rest'⟩ hc' hsame
    have hopens := (mem_openings_iff hr).mp hc
    have hopens' := (mem_openings_iff hr).mp hc'
    obtain rfl : m = m' := hopens.unique hopens' hsame
    rw [← hopens.cycle.ancestors_eq hr, ← hopens'.cycle.ancestors_eq hr]
  · intro m m' c hm hm'
    obtain ⟨_, rfl⟩ := opened?_eq_some_iff.mp hm
    exact congrArg Prod.fst (opened?_eq_some_iff.mp hm').2

theorem filter_openings (hr : r.Indexed) {m : Record} (hm : m ∈ r.records) :
    (r.openings.filter fun c => c.1.name = m.name) = (r.opened? m).toList := by
  refine filter_filterMap_eq_toList ?_ hr.record_names_nodup hm
  intro m c hc
  rw [(opened?_eq_some_iff.mp hc).2]

/-- The cycles of parents and their reports correspond one to one. Each cycle is reported at the first of its records,
    after what else is wrong there, with all its records in the order of parents from that one back to itself. A record
    that is on no cycle is the first of none. -/
theorem run_cycles_reported_once (ops : List Builder.Operation) :
    let r := (({} : Builder).run ops).registry
    ∃ cycles : List (Record × List Record),
      (∀ s : Cycle Record, r.IsParentCycle s ↔ s ∈ cycles.map fun c => ((c.1 :: c.2 : List Record) : Cycle Record)) ∧
      (cycles.map fun c => ((c.1 :: c.2 : List Record) : Cycle Record)).Nodup ∧
      (∀ c ∈ cycles, r.OpensCycle c.1 c.2) ∧
      r.hierarchyFaults.filter HierarchyFault.isCycle = cycles.map .ofCycle ∧
      (r.hierarchyFaults = r.records.flatMap fun m =>
        r.parentFaults m ++ r.interfaceFaults m ++ (cycles.filter fun c => c.1.name = m.name).map .ofCycle) ∧
      (∀ m ∈ r.records, (∀ s : Cycle Record, r.IsParentCycle s → m ∉ s) → ∀ c ∈ cycles, c.1.name ≠ m.name) ∧
      ∀ c ∈ cycles, (HierarchyFault.ofCycle c).message =
        "circular parent chain detected: " ++ " -> ".intercalate ((c.1 :: c.2).map Record.name ++ [c.1.name]) := by
  intro r
  have hr : r.Indexed := Reachable.indexed ⟨ops, rfl⟩
  have hfaults : r.hierarchyFaults = r.records.flatMap fun m =>
      r.parentFaults m ++ r.interfaceFaults m ++ (r.opened? m).toList.map .ofCycle :=
    faultsFrom_eq_flatMap hr rfl (Marks.nil r)
  have hopens : ∀ c ∈ r.openings, r.OpensCycle c.1 c.2 := fun _ hc => (mem_openings_iff hr).mp hc
  refine ⟨r.openings, isParentCycle_iff_mem_openings hr, openings_nodup hr, hopens, ?_, ?_, ?_, fun _ _ => rfl⟩
  · rw [hfaults, List.filter_flatMap, openings, List.filterMap_eq_flatMap_toList, List.map_flatMap]
    exact List.flatMap_congr fun m _ => r.filter_isCycle_faults m _
  · rw [hfaults]
    exact List.flatMap_congr fun m hm => by rw [filter_openings hr hm]
  · intro m hm hoff c hc hname
    have hcycle := (hopens c hc).cycle
    have hsame : c.1 = m := hr.record_unique (hcycle.mem_records List.mem_cons_self) hm hname
    exact hoff _ hcycle (hsame ▸ List.mem_cons_self)

example :
    let named (name parent : String) : Builder.Operation := .register (.record (Record.ofElement .objectClass
      { Element.named "class" with attributes := [("name", name), ("parent", parent)] } 0).value)
    (({} : Builder).run [named "Leaf" "Root", named "Stem" "Root", named "Root" "Stem"]).registry.hierarchyFaults =
      [.cycle ["Stem", "Root", "Stem"]] := by
  decide +kernel

end Registry

end Introspection
