import Introspection.Proofs.Entity.Warnings
import Introspection.Proofs.Registry.Index
import Introspection.Repository.Loader

set_option autoImplicit false

namespace Introspection

open Markup

section Occurrences

variable {α : Type} (key : α → String)

/-- The members whose key occurs before them, or those whose key does not. -/
def occurring (again : Bool) (xs : List α) : List α :=
  (xs.zipIdx.filter fun p => ((xs.take p.2).map key).contains (key p.1) == again).map Prod.fst

def firsts (xs : List α) : List α := occurring key false xs

def repeats (xs : List α) : List α := occurring key true xs

theorem occurring_concat (again : Bool) (xs : List α) (x : α) :
    occurring key again (xs ++ [x]) =
      occurring key again xs ++ if (xs.map key).contains (key x) = again then [x] else [] := by
  have hold : (xs.zipIdx.filter fun p => (((xs ++ [x]).take p.2).map key).contains (key p.1) == again) =
      xs.zipIdx.filter fun p => ((xs.take p.2).map key).contains (key p.1) == again := by
    apply List.filter_congr
    intro p hp
    have hlt := List.snd_lt_of_mem_zipIdx hp
    rw [List.take_append_of_le_length (by omega)]
  have hnew : (xs ++ [x]).take xs.length = xs := List.take_left
  unfold occurring
  rw [List.zipIdx_append, List.filter_append, List.map_append, hold]
  congr 1
  simp only [List.zipIdx_cons, List.zipIdx_nil, Nat.zero_add, List.filter_cons, List.filter_nil, hnew, beq_iff_eq]
  split <;> rfl

theorem firsts_concat (xs : List α) (x : α) :
    firsts key (xs ++ [x]) = firsts key xs ++ if key x ∈ xs.map key then [] else [x] := by
  unfold firsts
  rw [occurring_concat]
  by_cases h : key x ∈ xs.map key
  · rw [if_pos h, if_neg (by simpa using h)]
  · rw [if_neg h, if_pos (by simpa using h)]

theorem repeats_concat (xs : List α) (x : α) :
    repeats key (xs ++ [x]) = repeats key xs ++ if key x ∈ xs.map key then [x] else [] := by
  unfold repeats
  rw [occurring_concat]
  by_cases h : key x ∈ xs.map key
  · rw [if_pos h, if_pos (by simpa using h)]
  · rw [if_neg h, if_neg (by simpa using h)]

example : firsts id ["b", "a", "b", "c", "a"] = ["b", "a", "c"] ∧
    repeats id ["b", "a", "b", "c", "a"] = ["b", "a"] := by decide

theorem mem_map_firsts (xs : List α) (k : String) : k ∈ (firsts key xs).map key ↔ k ∈ xs.map key := by
  induction xs using List.reverseRecOn with
  | nil => simp [firsts, occurring]
  | append_singleton xs x ih =>
    rw [firsts_concat, List.map_append, List.mem_append, ih, List.map_append, List.mem_append]
    split
    · next h =>
      constructor
      · exact fun hk => Or.inl (hk.elim id (by simp))
      · rintro (hk | hk)
        · exact Or.inl hk
        · exact Or.inl (List.mem_singleton.mp hk ▸ h)
    · rfl

end Occurrences

def stagedNames : List (List String) :=
  [["alias"], ["constant"], ["enumeration", "bitfield"], ["record", "union"], ["class", "interface"], ["callback"]]

/-- An element with its position among those that are taken together with it. -/
abbrev Placed := Element × Nat

namespace Placed

def inNamespace (space : Element) : List Placed :=
  stagedNames.flatMap fun names => (space.children.filter fun c => names.contains c.name).zipIdx

def inText (text : String) : List Placed :=
  match readDocument text with
  | .ok root => if root.name = "repository" then (root.childrenNamed "namespace").flatMap inNamespace else []
  | .error _ => []

def name (p : Placed) : String := (p.1.attribute? "name").getD (unnamed p.2)

def declaration (p : Placed) : Declaration :=
  match p.1.name with
  | "alias" => .typeAlias (.ofElement p.1 p.2)
  | "constant" => .constant (.ofElement p.1 p.2)
  | "enumeration" => .enumeration (.ofElement p.1 p.2)
  | "bitfield" => .bitfield (.ofElement p.1 p.2)
  | "record" => .record (Record.ofElement .record p.1 p.2).value
  | "union" => .record (Record.ofElement .union p.1 p.2).value
  | "class" => .record (Record.ofElement .objectClass p.1 p.2).value
  | "interface" => .record (Record.ofElement .interface p.1 p.2).value
  | _ => .callback (Callable.ofElement .callback p.1 p.2).value

end Placed

theorem Placed.inText_eq (text : String) : inText text =
    match Description.read text with
    | .ok d => d.namespaces.flatMap inNamespace
    | .error _ => [] := by
  unfold inText Description.read
  cases readDocument text with
  | error fault => rfl
  | ok root =>
    change (if root.name = "repository" then (root.childrenNamed "namespace").flatMap inNamespace else []) =
      match (Description.ofElement root).mapError DocumentFault.shape with
      | .ok d => d.namespaces.flatMap inNamespace
      | .error _ => []
    unfold Description.ofElement
    by_cases hroot : root.name = "repository"
    · rw [if_pos hroot, if_pos hroot]
      cases root.childrenNamed "namespace" <;> rfl
    · rw [if_neg hroot, if_neg hroot]
      rfl

theorem Record.ofElement_item (kind : RecordKind) (e : Element) (index : Nat) :
    (Record.ofElement kind e index).value.item = Item.ofElement e index := by
  cases e
  rw [Record.ofElement]
  rfl

theorem Placed.declaration_name (p : Placed) : p.declaration.name = p.name := by
  unfold declaration
  split
  case h_5 | h_6 | h_7 | h_8 => exact congrArg Item.name (Record.ofElement_item _ p.1 p.2)
  all_goals rfl

theorem Stage.declare_onlyInvalid (s : Stage) (e : Element) (index : Nat) :
    (s.declare e index).OnlyInvalid := by
  cases s with
  | aliases | constants => exact Warned.onlyInvalid_pure _
  | enumerations =>
    simp only [Stage.declare]
    split <;> exact Warned.onlyInvalid_pure _
  | records | classes =>
    intro w hw
    rw [Stage.declare, Warned.map_warnings] at hw
    exact Record.onlyInvalid_ofElement _ e index w hw
  | callbacks =>
    intro w hw
    rw [Stage.declare, Warned.map_warnings] at hw
    exact Callable.onlyInvalid_ofElement _ e index w hw

theorem Stage.declare_value {s : Stage} {e : Element} (h : s.takes e = true) (index : Nat) :
    (s.declare e index).value = Placed.declaration (e, index) := by
  have hname : e.name ∈ s.elementNames := by simpa [Stage.takes] using h
  unfold Placed.declaration
  cases s with
  | aliases | constants | callbacks =>
    rw [List.mem_singleton.mp hname]
    rfl
  | enumerations | records | classes =>
    simp only [elementNames, List.mem_cons, List.not_mem_nil, or_false] at hname
    obtain hname | hname := hname
    all_goals
      simp only [Stage.declare, hname]
      rfl

def Warning.isDuplicate : Warning → Bool
  | .duplicate _ _ => true
  | .missing _ _ _ | .invalid _ _ _ _ => false

theorem Warning.isDuplicate_of_isInvalid {w : Warning} (h : w.isInvalid = true) : w.isDuplicate = false := by
  cases w with
  | invalid _ _ _ _ => rfl
  | duplicate _ _ | missing _ _ _ => cases h

namespace Declared

def placed (d : Declared) : Placed := (d.element, d.index)

theorem map_placed_ofStage (space : Element) (stage : Stage) :
    (ofStage space stage).map placed =
      (space.children.filter fun c => stage.elementNames.contains c.name).zipIdx := by
  unfold ofStage
  rw [List.mapIdx_eq_zipIdx_map, List.map_map]
  exact List.map_id _

theorem map_placed_all (space : Element) : (all space).map placed = Placed.inNamespace space := by
  unfold all
  rw [List.map_flatMap]
  simp only [map_placed_ofStage]
  rfl

theorem takes_of_mem_all {space : Element} {d : Declared} (h : d ∈ all space) :
    d.stage.takes d.element = true := by
  obtain ⟨stage, _, hd⟩ := List.mem_flatMap.mp h
  obtain ⟨i, hi, rfl⟩ := List.mem_mapIdx.mp hd
  exact (List.mem_filter.mp (List.getElem_mem hi)).2

theorem read_value {d : Declared} (h : d.stage.takes d.element = true) :
    d.read.value = d.placed.declaration := by
  rw [placed, ← Stage.declare_value h]
  unfold read
  split <;> rfl

theorem read_warnings (d : Declared) : ∀ w ∈ d.read.warnings, w.isDuplicate = false := by
  have hdeclare : ∀ w ∈ (d.stage.declare d.element d.index).warnings, w.isDuplicate = false :=
    fun w hw => Warning.isDuplicate_of_isInvalid (d.stage.declare_onlyInvalid d.element d.index w hw)
  intro w hw
  unfold read at hw
  split at hw
  · exact hdeclare w hw
  · obtain rfl | hw := List.mem_cons.mp hw
    · rfl
    · exact hdeclare w hw

end Declared

namespace Builder

/-- The registry holds the first declaration of every name, and its warnings report the others. -/
structure Accounts (b : Builder) (ps : List Placed) : Prop where
  indexed : b.registry.Indexed
  entities : b.registry.entities = (firsts Placed.name ps).map Placed.declaration
  duplicates : b.registry.warnings.filter Warning.isDuplicate =
    (repeats Placed.name ps).map fun p => .duplicate p.declaration.kind p.name

namespace Accounts

variable {b : Builder} {ps : List Placed}

theorem empty : ({} : Builder).Accounts [] where
  indexed := Registry.indexed_empty
  entities := rfl
  duplicates := rfl

theorem enter (h : b.Accounts ps) (space : String) : (b.enter space).Accounts ps :=
  ⟨h.indexed, h.entities, h.duplicates⟩

theorem warnAll (h : b.Accounts ps) {ws : List Warning} (hws : ∀ w ∈ ws, w.isDuplicate = false) :
    (b.warnAll ws).Accounts ps := by
  have hnone : ws.filter Warning.isDuplicate = [] := by
    rw [List.filter_eq_nil_iff]
    intro w hw
    simp [hws w hw]
  rw [warnAll_eq]
  refine ⟨h.indexed, h.entities, ?_⟩
  change (b.registry.warnings ++ ws).filter Warning.isDuplicate = _
  rw [List.filter_append, hnone, List.append_nil]
  exact h.duplicates

theorem taken_iff (h : b.Accounts ps) (name : String) :
    (∃ id, b.registry.index.get? name = some id) ↔ name ∈ ps.map Placed.name := by
  have hnames : b.registry.entities.map Declaration.name = (firsts Placed.name ps).map Placed.name := by
    rw [h.entities, List.map_map]
    exact List.map_congr_left fun p _ => p.declaration_name
  rw [← mem_map_firsts, ← hnames, List.mem_map]
  constructor
  · rintro ⟨id, hid⟩
    obtain ⟨d, hd, hname⟩ := (h.indexed name id).mp hid
    exact ⟨d, Registry.get?_mem hd, hname⟩
  · rintro ⟨d, hd, hname⟩
    obtain ⟨id, hid⟩ := List.mem_iff_getElem?.mp hd
    exact ⟨id, (h.indexed name id).mpr ⟨d, hid, hname⟩⟩

theorem register (h : b.Accounts ps) (p : Placed) : (b.register p.declaration).1.Accounts (ps ++ [p]) := by
  have htaken := h.taken_iff p.declaration.name
  rw [p.declaration_name] at htaken
  cases hindex : b.registry.index.get? p.declaration.name with
  | some id =>
    have hmem : p.name ∈ ps.map Placed.name := htaken.mp ⟨id, p.declaration_name ▸ hindex⟩
    rw [register_taken hindex]
    refine ⟨h.indexed.withWarnings _, ?_, ?_⟩
    · rw [firsts_concat, if_pos hmem, List.append_nil]
      exact h.entities
    · change (b.registry.warnings ++ [_]).filter Warning.isDuplicate = _
      rw [List.filter_append, h.duplicates, repeats_concat, if_pos hmem, List.map_append, p.declaration_name]
      rfl
  | none =>
    have hmem : p.name ∉ ps.map Placed.name := by
      rw [← htaken, ← p.declaration_name, hindex]
      simp
    rw [register_free hindex]
    refine ⟨h.indexed.accept b.space hindex, ?_, ?_⟩
    · rw [firsts_concat, if_neg hmem, List.map_append, ← h.entities]
      exact b.registry.accept_entities b.space p.declaration
    · rw [repeats_concat, if_neg hmem, List.append_nil, ← h.duplicates]
      exact congrArg (List.filter Warning.isDuplicate) (b.registry.accept_warnings b.space p.declaration)

theorem declare (h : b.Accounts ps) {d : Declared} (hd : d.stage.takes d.element = true) :
    (b.declare d).1.Accounts (ps ++ [d.placed]) := by
  change ((b.warnAll d.read.warnings).register d.read.value).1.Accounts _
  rw [Declared.read_value hd]
  exact (h.warnAll d.read_warnings).register d.placed

theorem declareAll (h : b.Accounts ps) {ds : List Declared} (hds : ∀ d ∈ ds, d.stage.takes d.element = true) :
    (b.declareAll ds).1.Accounts (ps ++ ds.map Declared.placed) := by
  induction ds generalizing b ps with
  | nil =>
    rw [List.map_nil, List.append_nil]
    exact h
  | cons d ds ih =>
    rw [List.map_cons, List.append_cons]
    exact ih (h.declare (hds d List.mem_cons_self)) fun e he => hds e (List.mem_cons_of_mem d he)

end Accounts

end Builder

namespace Loader

theorem nameOf_warnings (l : Loader) (space : Element) : ∀ w ∈ (l.nameOf space).warnings, w.isDuplicate = false := by
  intro w hw
  unfold nameOf at hw
  split at hw
  · simp at hw
  · rw [List.mem_singleton.mp hw]
    rfl

theorem functionsOf_warnings (space : Element) : ∀ w ∈ (functionsOf space).warnings, w.isDuplicate = false :=
  fun w hw => Warning.isDuplicate_of_isInvalid
    (Warned.onlyInvalid_collect_mapIdx (fun i f => Callable.onlyInvalid_ofElement .function f i) _ w hw)

variable {l : Loader} {ps : List Placed}

theorem accounts_loadNamespace (h : l.builder.Accounts ps) (d : Description) (space : Element) :
    (l.loadNamespace d space).builder.Accounts (ps ++ Placed.inNamespace space) := by
  have hentered := (h.warnAll (l.nameOf_warnings space)).enter (l.nameOf space).value
  rw [← Declared.map_placed_all]
  exact (hentered.declareAll fun _ => Declared.takes_of_mem_all).warnAll (functionsOf_warnings space)

theorem accounts_loadDescription (h : l.builder.Accounts ps) (d : Description) :
    (l.loadDescription d).builder.Accounts (ps ++ d.namespaces.flatMap Placed.inNamespace) := by
  unfold loadDescription
  induction d.namespaces generalizing l ps with
  | nil => simpa using h
  | cons space spaces ih =>
    rw [List.foldl_cons, List.flatMap_cons, ← List.append_assoc]
    exact ih (accounts_loadNamespace h d space)

theorem accounts_attempt (h : l.builder.Accounts ps) (text : String) :
    (l.attempt text).1.builder.Accounts (ps ++ Placed.inText text) := by
  rw [Placed.inText_eq]
  unfold attempt load
  cases Description.read text with
  | ok d => exact accounts_loadDescription h d
  | error fault =>
    change l.builder.Accounts (ps ++ [])
    rw [List.append_nil]
    exact h

theorem accounts_attemptAll (h : l.builder.Accounts ps) (texts : List String) :
    (l.attemptAll texts).1.builder.Accounts (ps ++ texts.flatMap Placed.inText) := by
  induction texts generalizing l ps with
  | nil =>
    rw [List.flatMap_nil, List.append_nil]
    exact h
  | cons text texts ih =>
    rw [List.flatMap_cons, ← List.append_assoc]
    exact ih (accounts_attempt h text)

end Loader

namespace Repository

end Repository

end Introspection
