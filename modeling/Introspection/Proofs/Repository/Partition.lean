import Introspection.Proofs.Repository.Namespaces

set_option autoImplicit false

namespace Introspection

open Markup

def Stage.rank : Stage → Nat
  | aliases => 0
  | constants => 1
  | enumerations => 2
  | records => 3
  | classes => 4
  | callbacks => 5

def RecordKind.stage : RecordKind → Stage
  | record | union => .records
  | objectClass | interface => .classes

def Declaration.stage : Declaration → Stage
  | typeAlias _ => .aliases
  | constant _ => .constants
  | enumeration _ | bitfield _ => .enumerations
  | record r => r.kind.stage
  | callback _ => .callbacks

theorem Record.ofElement_kind (kind : RecordKind) (e : Element) (index : Nat) :
    (Record.ofElement kind e index).value.kind = kind := by
  cases e
  rw [Record.ofElement]
  rfl

theorem Stage.declare_stage (s : Stage) (e : Element) (index : Nat) : (s.declare e index).value.stage = s := by
  cases s with
  | aliases | constants | callbacks => rfl
  | enumerations =>
    rw [Stage.declare]
    split <;> rfl
  | records | classes =>
    rw [Stage.declare, Warned.map_value, Declaration.stage, Record.ofElement_kind]
    split <;> rfl

namespace Declared

theorem read_stage (d : Declared) : d.read.value.stage = d.stage := by
  unfold read
  split <;> exact d.stage.declare_stage d.element d.index

theorem stage_of_mem_ofStage {space : Element} {stage : Stage} {d : Declared} (h : d ∈ ofStage space stage) :
    d.stage = stage := by
  obtain ⟨i, hi, rfl⟩ := List.mem_mapIdx.mp h
  rfl

theorem all_pairwise_rank (space : Element) : (all space).Pairwise fun d e => d.stage.rank ≤ e.stage.rank := by
  have hstages : Stage.all.Pairwise fun s u => s.rank ≤ u.rank := by decide
  refine List.pairwise_flatMap.mpr ⟨?_, hstages.imp ?_⟩
  · intro stage _
    apply List.pairwise_of_forall_mem_list
    intro d hd e he
    exact Nat.le_of_eq (by rw [stage_of_mem_ofStage hd, stage_of_mem_ofStage he])
  · intro s u hsu d hd e he
    rw [stage_of_mem_ofStage hd, stage_of_mem_ofStage he]
    exact hsu

end Declared

namespace Registry

theorem map_get?_range' {r : Registry} {before kept : List Declaration} (h : r.entities = before ++ kept) :
    (List.range' before.length kept.length).map r.get? = kept.map some := by
  apply List.ext_getElem?
  intro i
  rw [List.getElem?_map, List.getElem?_map]
  by_cases hi : i < kept.length
  · have hget : r.get? (before.length + i) = kept[i]? := by
      change r.entities[before.length + i]? = _
      rw [h, List.getElem?_append_right (by omega), Nat.add_sub_cancel_left]
    simp [hi, hget]
  · simp [hi]

theorem map_get?_range (r : Registry) : (List.range r.size).map r.get? = r.entities.map some := by
  have hall : r.entities = [] ++ r.entities := rfl
  rw [List.range_eq_range']
  exact map_get?_range' hall

theorem map_get?_of_append {r u : Registry} {later : List Declaration} (h : u.entities = r.entities ++ later)
    {ids : List Nat} {ds : List Declaration} (hids : ids.map r.get? = ds.map some) : ids.map u.get? = ds.map some := by
  rw [← hids]
  apply List.map_congr_left
  intro id hid
  have hmem : r.get? id ∈ ds.map some := hids ▸ List.mem_map_of_mem hid
  obtain ⟨d, _, hd⟩ := List.mem_map.mp hmem
  change u.entities[id]? = r.entities[id]?
  rw [h, List.getElem?_append_left (lt_size_of_get? hd.symm)]

theorem filterMap_get? {r : Registry} {ids : List Nat} {ds : List Declaration} (h : ids.map r.get? = ds.map some) :
    ids.filterMap r.get? = ds := by
  calc
    ids.filterMap r.get? = (ids.map r.get?).filterMap id := by rw [List.filterMap_map]; rfl
    _ = (ds.map some).filterMap id := by rw [h]
    _ = ds := by simp

end Registry

namespace Builder

theorem warnAll_entities (b : Builder) (ws : List Warning) :
    (b.warnAll ws).registry.entities = b.registry.entities := by
  rw [warnAll_eq]

theorem register_entities_cases (b : Builder) (d : Declaration) :
    ((b.register d).2 = none ∧ (b.register d).1.registry.entities = b.registry.entities) ∨
    ((b.register d).2 = some b.registry.size ∧
      (b.register d).1.registry.entities = b.registry.entities ++ [d]) := by
  cases hindex : b.registry.index.get? d.name with
  | some id =>
    rw [register_taken hindex]
    exact Or.inl ⟨rfl, rfl⟩
  | none =>
    rw [register_free hindex]
    exact Or.inr ⟨rfl, b.registry.accept_entities b.space d⟩

theorem declare_entities_cases (b : Builder) (d : Declared) :
    ((b.declare d).2 = none ∧ (b.declare d).1.registry.entities = b.registry.entities) ∨
    ((b.declare d).2 = some b.registry.size ∧
      (b.declare d).1.registry.entities = b.registry.entities ++ [d.read.value]) := by
  have hcases := (b.warnAll d.read.warnings).register_entities_cases d.read.value
  rw [Registry.size, warnAll_entities] at hcases
  exact hcases

/-- Of the declarations registered in turn, some are kept, and these go to the next positions in the same order. -/
theorem declareAll_kept (b : Builder) (ds : List Declared) :
    ∃ kept, List.Sublist kept ds ∧
      (b.declareAll ds).1.registry.entities = b.registry.entities ++ kept.map (fun d => d.read.value) ∧
      (b.declareAll ds).2 = List.range' b.registry.size kept.length := by
  induction ds generalizing b with
  | nil => exact ⟨[], List.Sublist.refl [], (List.append_nil _).symm, rfl⟩
  | cons d ds ih =>
    obtain ⟨kept, hsublist, hentities, hids⟩ := ih (b.declare d).1
    have hall : (b.declareAll (d :: ds)).2 = (b.declare d).2.toList ++ ((b.declare d).1.declareAll ds).2 := rfl
    obtain ⟨hid, hsame⟩ | ⟨hid, hstored⟩ := b.declare_entities_cases d
    · have hsize : (b.declare d).1.registry.size = b.registry.size := congrArg List.length hsame
      refine ⟨kept, hsublist.cons d, ?_, ?_⟩
      · rw [← hsame]
        exact hentities
      · rw [hall, hid, hids, hsize]
        rfl
    · have hsize : (b.declare d).1.registry.size = b.registry.size + 1 := by simp [Registry.size, hstored]
      refine ⟨d :: kept, hsublist.cons_cons d, ?_, ?_⟩
      · rw [List.map_cons, List.append_cons, ← hstored]
        exact hentities
      · rw [hall, hid, hids, hsize, List.length_cons, List.range'_succ]
        rfl

end Builder

/-- Everything the namespace holds is stored, and in the order of the stages. -/
def Namespace.Staged (n : Namespace) (r : Registry) : Prop :=
  ∃ ds : List Declaration, n.entities.map r.get? = ds.map some ∧ ds.Pairwise fun d e => d.stage.rank ≤ e.stage.rank

namespace Loader

theorem loadNamespace_kept (l : Loader) (d : Description) (space : Element) :
    ∃ kept n, List.Sublist kept (Declared.all space) ∧
      (l.loadNamespace d space).builder.registry.entities =
        l.builder.registry.entities ++ kept.map (fun d => d.read.value) ∧
      (l.loadNamespace d space).namespaces = l.namespaces ++ [n] ∧
      n.entities = List.range' l.builder.registry.size kept.length := by
  obtain ⟨kept, hsublist, hentities, hids⟩ :=
    ((l.builder.warnAll (l.nameOf space).warnings).enter (l.nameOf space).value).declareAll_kept (Declared.all space)
  have hentered : ((l.builder.warnAll (l.nameOf space).warnings).enter (l.nameOf space).value).registry.entities =
      l.builder.registry.entities := l.builder.warnAll_entities _
  rw [hentered] at hentities
  rw [Registry.size, hentered] at hids
  exact ⟨kept, _, hsublist, (Builder.warnAll_entities _ _).trans hentities, rfl, hids⟩

theorem staged_loadNamespace {l : Loader} (h : ∀ n ∈ l.namespaces, n.Staged l.builder.registry) (d : Description)
    (space : Element) :
    ∀ n ∈ (l.loadNamespace d space).namespaces, n.Staged (l.loadNamespace d space).builder.registry := by
  obtain ⟨kept, new, hsublist, hentities, hnamespaces, hids⟩ := l.loadNamespace_kept d space
  intro n hn
  rw [hnamespaces] at hn
  obtain hold | hnew := List.mem_append.mp hn
  · obtain ⟨ds, hstored, hsorted⟩ := h n hold
    exact ⟨ds, Registry.map_get?_of_append hentities hstored, hsorted⟩
  · obtain rfl := List.mem_singleton.mp hnew
    refine ⟨kept.map fun d => d.read.value, ?_, ?_⟩
    · have hstored := Registry.map_get?_range' hentities
      rw [List.length_map] at hstored
      rw [hids]
      exact hstored
    · rw [List.pairwise_map]
      simp only [Declared.read_stage]
      exact (Declared.all_pairwise_rank space).sublist hsublist

theorem attemptAll_staged (texts : List String) :
    ∀ n ∈ (({} : Loader).attemptAll texts).1.namespaces,
      n.Staged (({} : Loader).attemptAll texts).1.builder.registry :=
  attemptAll_preserves (P := fun l => ∀ n ∈ l.namespaces, n.Staged l.builder.registry)
    (fun _ d space h => staged_loadNamespace h d space) texts (by simp)

theorem flatMap_entities_eq (l : Loader) : l.namespaces.flatMap Namespace.entities = l.holdings.map Prod.snd := by
  unfold holdings
  rw [List.map_flatMap]
  simp [Function.comp_def]

end Loader

namespace Repository

theorem ofTexts_positions (texts : List String) :
    (ofTexts texts).namespaces.flatMap Namespace.entities = List.range (ofTexts texts).registry.size :=
  (Loader.flatMap_entities_eq _).trans (Loader.attemptAll_holds texts).positions

/-- The namespaces divide the registry among them. Their positions in turn are all positions, from the first to the
    last; within each, the declarations follow the order of the stages; and their records in turn are the records of
    the registry, which all have different names. -/
theorem ofTexts_partition (texts : List String) :
    (ofTexts texts).namespaces.flatMap Namespace.entities = List.range (ofTexts texts).registry.size ∧
    (∀ n ∈ (ofTexts texts).namespaces, n.Staged (ofTexts texts).registry) ∧
    (ofTexts texts).namespaces.flatMap (ofTexts texts).records = (ofTexts texts).registry.records ∧
    ((ofTexts texts).registry.records.map Record.name).Nodup := by
  have hpositions := ofTexts_positions texts
  refine ⟨hpositions, Loader.attemptAll_staged texts, ?_, (Loader.attemptAll_holds texts).indexed.record_names_nodup⟩
  generalize ofTexts texts = r at hpositions
  calc
    r.namespaces.flatMap r.records
      = ((r.namespaces.flatMap Namespace.entities).filterMap r.registry.get?).filterMap Declaration.record? := by
        rw [List.filterMap_flatMap, List.filterMap_flatMap]
        rfl
    _ = ((List.range r.registry.size).filterMap r.registry.get?).filterMap Declaration.record? := by rw [hpositions]
    _ = r.registry.records := by rw [Registry.filterMap_get? r.registry.map_get?_range]; rfl

end Repository

end Introspection
