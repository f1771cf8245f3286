import Introspection.Registry.Builder
import Introspection.Signal.Rejection
import Mathlib.Data.List.Perm.Basic
import Mathlib.Data.Prod.Lex
import Mathlib.Order.WithBot

set_option autoImplicit false

namespace Introspection

inductive Place where
  | argument (index : Nat)
  | returns
deriving DecidableEq, Repr

namespace Place

def isArgument : Place → Bool
  | argument _ => true
  | returns => false

/-- The arguments come in their order, and what is returned comes after all of them. -/
def rank : Place → WithTop Nat
  | argument index => WithTop.some index
  | returns => ⊤

def label (place : Place) (value : Argument) : String :=
  match place with
  | argument _ => value.name
  | returns => returnPosition

end Place

inductive Rule where
  | ownership
  | direction
  | void
  | typeAlias
  | nullable
  | array
  | recordReturn
deriving DecidableEq, Repr

namespace Rule

def all : List Rule := [ownership, direction, void, typeAlias, nullable, array, recordReturn]

def number : Rule → Nat
  | ownership => 1
  | direction => 2
  | void => 3
  | typeAlias => 4
  | nullable => 5
  | array => 6
  | recordReturn => 7

def appliesTo (rule : Rule) (place : Place) : Bool :=
  match rule with
  | ownership | direction | void => place.isArgument
  | typeAlias | nullable | array => true
  | recordReturn => !place.isArgument

def brokenBy (r : Registry) (rule : Rule) (value : Argument) : Bool :=
  match rule with
  | ownership => value.transfer != .none
  | direction => value.direction != .input
  | void => value.type.name == "Void"
  | typeAlias => r.classify value.type == .typeAlias
  | nullable => value.isNullable || value.isOptional
  | array => value.isArray
  | recordReturn => r.classify value.type == .record

def rejection (rule : Rule) (label : String) : Rejection :=
  match rule with
  | ownership => .ownership label
  | direction => .direction label
  | void => .void label
  | typeAlias => .typeAlias label
  | nullable => .nullable label
  | array => .array label
  | recordReturn => .recordReturn

theorem forall_iff {P : Rule → Prop} :
    (∀ rule, P rule) ↔
      (P ownership ∧ P direction ∧ P void) ∧ (P typeAlias ∧ P nullable ∧ P array) ∧ P recordReturn := by
  constructor
  · intro h
    exact ⟨⟨h _, h _, h _⟩, ⟨h _, h _, h _⟩, h _⟩
  · rintro ⟨⟨_, _, _⟩, ⟨_, _, _⟩, _⟩ rule
    cases rule <;> assumption

theorem mem_all (rule : Rule) : rule ∈ all := by
  cases rule <;> decide

theorem all_increasing : all.Pairwise (·.number < ·.number) := by
  decide

end Rule

namespace Callable

def valueAt? (c : Callable) : Place → Option Argument
  | .argument index => c.arguments[index]?
  | .returns => some c.returns

def argumentPlaces (c : Callable) : List (Place × Argument) :=
  c.arguments.zipIdx.map fun x => (.argument x.2, x.1)

def places (c : Callable) : List (Place × Argument) := c.argumentPlaces ++ [(.returns, c.returns)]

theorem mem_places_iff {c : Callable} {place : Place} {value : Argument} :
    (place, value) ∈ c.places ↔ c.valueAt? place = some value := by
  cases place with
  | argument index => simp [places, argumentPlaces, valueAt?, List.mem_zipIdx_iff_getElem?]
  | returns => simp [places, argumentPlaces, valueAt?, eq_comm]

theorem isArgument_of_mem {c : Callable} {x : Place × Argument} (h : x ∈ c.argumentPlaces) :
    x.1.isArgument = true := by
  obtain ⟨_, _, rfl⟩ := List.mem_map.mp h
  rfl

theorem places_increasing (c : Callable) : c.places.Pairwise fun x y => x.1.rank < y.1.rank := by
  have hindices : (c.arguments.zipIdx.map Prod.snd).Pairwise (· < ·) := by
    rw [List.zipIdx_map_snd]
    exact List.pairwise_lt_range'
  refine List.pairwise_append.mpr ⟨List.pairwise_map.mpr ?_, List.pairwise_singleton _ _, ?_⟩
  · exact (List.pairwise_map.mp hindices).imp fun hlt => WithTop.coe_lt_coe.mpr hlt
  · intro x hx y hy
    obtain ⟨_, _, rfl⟩ := List.mem_map.mp hx
    obtain rfl := List.mem_singleton.mp hy
    exact WithTop.coe_lt_top _

theorem filter_isArgument_places (c : Callable) :
    (c.places.filter fun x => x.1.isArgument) = c.argumentPlaces := by
  unfold places
  rw [List.filter_append, List.filter_eq_self.mpr fun _ => isArgument_of_mem]
  exact List.append_nil _

theorem filter_not_isArgument_places (c : Callable) :
    (c.places.filter fun x => !x.1.isArgument) = [(.returns, c.returns)] := by
  unfold places
  rw [List.filter_append, List.filter_eq_nil_iff.mpr fun x hx => by simp [isArgument_of_mem hx]]
  rfl

theorem find?_argumentPlaces (c : Callable) (p : Argument → Bool) :
    ((c.argumentPlaces.find? fun x => p x.2).map fun x => x.1.label x.2) = c.argumentWith? p := by
  have harguments : c.arguments.find? p = (c.arguments.zipIdx.find? (p ∘ Prod.fst)).map Prod.fst := by
    rw [← List.find?_map, List.zipIdx_map_fst]
  unfold argumentPlaces argumentWith?
  rw [List.find?_map, harguments, Option.map_map, Option.map_map]
  rfl

theorem find?_returnPlace (c : Callable) (p : Argument → Bool) :
    (([(Place.returns, c.returns)].find? fun x => p x.2).map fun x => x.1.label x.2) =
      if p c.returns then some returnPosition else none := by
  cases hp : p c.returns <;> simp [hp, Place.label]

theorem find?_places (c : Callable) (p : Argument → Bool) :
    ((c.places.find? fun x => p x.2).map fun x => x.1.label x.2) = c.positionWith? p := by
  unfold places positionWith?
  rw [List.find?_append, Option.map_or, find?_argumentPlaces, find?_returnPlace]

end Callable

/-- A rule that is broken by the value in some place. -/
structure Violation where
  rule : Rule
  place : Place
  value : Argument

namespace Violation

def OccursIn (v : Violation) (r : Registry) (signal : Callable) : Prop :=
  signal.valueAt? v.place = some v.value ∧ v.rule.appliesTo v.place = true ∧ v.rule.brokenBy r v.value = true

/-- The number of the rule decides first, and then the place. -/
def rank (v : Violation) : Nat ×ₗ WithTop Nat := toLex (v.rule.number, v.place.rank)

def rejection (v : Violation) : Rejection := v.rule.rejection (v.place.label v.value)

structure IsFirst (v : Violation) (r : Registry) (signal : Callable) : Prop where
  occurs : v.OccursIn r signal
  least : ∀ w : Violation, w.OccursIn r signal → v.rank ≤ w.rank

end Violation

theorem find?_eq_some_iff_least {α β : Type} [LinearOrder β] {rank : α → β} {xs : List α}
    (hincreasing : xs.Pairwise fun x y => rank x < rank y) {p : α → Bool} {x : α} :
    xs.find? p = some x ↔ x ∈ xs ∧ p x = true ∧ ∀ y ∈ xs, p y = true → rank x ≤ rank y := by
  induction xs with
  | nil => simp
  | cons z xs ih =>
    obtain ⟨hhead, htail⟩ := List.pairwise_cons.mp hincreasing
    cases hz : p z with
    | true =>
      rw [List.find?_cons_of_pos hz, Option.some_inj]
      constructor
      · rintro rfl
        refine ⟨List.mem_cons_self, hz, ?_⟩
        intro y hy _
        obtain rfl | hy := List.mem_cons.mp hy
        · exact le_refl _
        · exact (hhead y hy).le
      · rintro ⟨hx, _, hleast⟩
        obtain rfl | hx := List.mem_cons.mp hx
        · rfl
        · exact absurd (hleast z List.mem_cons_self hz) (hhead x hx).not_ge
    | false =>
      rw [List.find?_cons_of_neg (by simp [hz]), ih htail, List.mem_cons, List.forall_mem_cons]
      have hne : p x = true → x ≠ z := by
        rintro hx rfl
        simp [hx] at hz
      simp only [hz, Bool.false_eq_true, false_implies, true_and]
      constructor
      · rintro ⟨hx, hrest⟩
        exact ⟨.inr hx, hrest⟩
      · rintro ⟨hx, hpx, hleast⟩
        exact ⟨hx.resolve_left (hne hpx), hpx, hleast⟩

/-- Every rule with every place that it applies to and the value there, by rank. -/
def Callable.charges (c : Callable) : List Violation :=
  Rule.all.flatMap fun rule => (c.places.filter fun x => rule.appliesTo x.1).map fun x => ⟨rule, x.1, x.2⟩

namespace Callable

theorem mem_charges_iff {c : Callable} {v : Violation} :
    v ∈ c.charges ↔ c.valueAt? v.place = some v.value ∧ v.rule.appliesTo v.place = true := by
  unfold charges
  rw [List.mem_flatMap, ← mem_places_iff]
  constructor
  · rintro ⟨rule, _, hv⟩
    obtain ⟨x, hx, rfl⟩ := List.mem_map.mp hv
    exact List.mem_filter.mp hx
  · intro hv
    exact ⟨v.rule, v.rule.mem_all, List.mem_map.mpr ⟨(v.place, v.value), List.mem_filter.mpr hv, rfl⟩⟩

theorem charges_increasing (c : Callable) : c.charges.Pairwise fun v w => v.rank < w.rank := by
  unfold charges
  rw [List.pairwise_flatMap]
  constructor
  · intro rule _
    refine List.pairwise_map.mpr ((c.places_increasing.filter _).imp ?_)
    intro x y hlt
    exact Prod.Lex.toLex_lt_toLex.mpr (.inr ⟨rfl, hlt⟩)
  · refine Rule.all_increasing.imp ?_
    intro rule other hlt v hv w hw
    obtain ⟨_, _, rfl⟩ := List.mem_map.mp hv
    obtain ⟨_, _, rfl⟩ := List.mem_map.mp hw
    exact Prod.Lex.toLex_lt_toLex.mpr (.inl hlt)

end Callable

namespace Registry

/-- What a single rule says about the signal. -/
def rejectionBy? (r : Registry) (signal : Callable) (rule : Rule) : Option Rejection :=
  (((signal.places.filter fun x => rule.appliesTo x.1).find? fun x => rule.brokenBy r x.2).map fun x =>
    x.1.label x.2).map rule.rejection

theorem rejection?_eq_findSome? (r : Registry) (signal : Callable) :
    r.rejection? signal = Rule.all.findSome? (r.rejectionBy? signal) := by
  have hor : ∀ (f : Rule → Option Rejection) rule rules,
      (rule :: rules).findSome? f = (f rule).or (rules.findSome? f) := by
    intro f rule rules
    rw [List.findSome?_cons]
    cases f rule <;> rfl
  have hrecord : (if r.classify signal.returns.type = .record then some Rejection.recordReturn else none) =
      (if Rule.recordReturn.brokenBy r signal.returns then some returnPosition else none).map
        Rule.recordReturn.rejection := by
    by_cases hclass : r.classify signal.returns.type = .record
    · simp [Rule.brokenBy, Rule.rejection, hclass]
    · simp [Rule.brokenBy, hclass]
  simp only [Rule.all, hor, rejectionBy?, Rule.appliesTo, List.findSome?_nil, Option.or_none]
  simp only [Callable.filter_isArgument_places, Callable.filter_not_isArgument_places, List.filter_true,
    Callable.find?_argumentPlaces, Callable.find?_places, Callable.find?_returnPlace]
  unfold rejection?
  rw [hrecord]
  rfl

theorem rejection?_eq_find? (r : Registry) (signal : Callable) :
    r.rejection? signal = (signal.charges.find? fun v => v.rule.brokenBy r v.value).map Violation.rejection := by
  rw [rejection?_eq_findSome?, Callable.charges, List.find?_flatMap, List.map_findSome?]
  congr
  funext rule
  simp only [Function.comp_apply, List.find?_map, Option.map_map, rejectionBy?]
  rfl

theorem rejection?_eq_some_iff {r : Registry} {signal : Callable} {reason : Rejection} :
    r.rejection? signal = some reason ↔ ∃ v : Violation, v.IsFirst r signal ∧ reason = v.rejection := by
  rw [rejection?_eq_find?, Option.map_eq_some_iff]
  refine exists_congr fun v => and_congr ?_ eq_comm
  rw [find?_eq_some_iff_least signal.charges_increasing]
  simp only [Callable.mem_charges_iff]
  constructor
  · rintro ⟨⟨hvalue, happlies⟩, hbroken, hleast⟩
    refine ⟨⟨hvalue, happlies, hbroken⟩, ?_⟩
    rintro w ⟨hw, hwapplies, hwbroken⟩
    exact hleast w ⟨hw, hwapplies⟩ hwbroken
  · rintro ⟨⟨hvalue, happlies, hbroken⟩, hleast⟩
    refine ⟨⟨hvalue, happlies⟩, hbroken, ?_⟩
    rintro w ⟨hw, hwapplies⟩ hwbroken
    exact hleast w ⟨hw, hwapplies, hwbroken⟩

/-- No rule that applies to the place speaks against the value. -/
def Admits (r : Registry) (place : Place) (value : Argument) : Prop :=
  ∀ rule : Rule, rule.appliesTo place = true → rule.brokenBy r value = false

theorem rejection?_eq_none_iff_admits {r : Registry} {signal : Callable} :
    r.rejection? signal = none ↔ ∀ place value, signal.valueAt? place = some value → r.Admits place value := by
  rw [rejection?_eq_find?, Option.map_eq_none_iff, List.find?_eq_none]
  simp only [Callable.mem_charges_iff, Bool.not_eq_true]
  constructor
  · intro hnone place value hvalue rule happlies
    exact hnone ⟨rule, place, value⟩ ⟨hvalue, happlies⟩
  · rintro hadmits v ⟨hvalue, happlies⟩
    exact hadmits v.place v.value hvalue v.rule happlies

theorem admits_all_iff {r : Registry} {signal : Callable} :
    (∀ place value, signal.valueAt? place = some value → r.Admits place value) ↔
      (∀ value ∈ signal.arguments, r.Admits (.argument 0) value) ∧ r.Admits .returns signal.returns := by
  constructor
  · intro hadmits
    refine ⟨?_, hadmits .returns signal.returns rfl⟩
    intro value hvalue
    obtain ⟨index, hindex⟩ := List.mem_iff_getElem?.mp hvalue
    exact hadmits (.argument index) value hindex
  · rintro ⟨harguments, hreturns⟩ place value hvalue
    cases place with
    | argument index => exact harguments value (List.mem_of_getElem? hvalue)
    | returns => exact Option.some.inj hvalue ▸ hreturns

theorem admits_iff {r : Registry} {place : Place} {value : Argument} :
    r.Admits place value ↔
      (place.isArgument = true →
        value.transfer = .none ∧ value.direction = .input ∧ value.type.name ≠ "Void") ∧
      (r.classify value.type ≠ .typeAlias ∧ (value.isNullable || value.isOptional) = false ∧ value.isArray = false) ∧
      (place.isArgument = false → r.classify value.type ≠ .record) := by
  unfold Admits
  rw [Rule.forall_iff]
  simp only [Rule.appliesTo, Rule.brokenBy, bne_eq_false_iff_eq, beq_eq_false_iff_ne, forall_const, ← forall_and,
    Bool.not_eq_true']

theorem rejection?_eq_none_iff {r : Registry} {signal : Callable} :
    r.rejection? signal = none ↔
      (∀ a ∈ signal.arguments, a.transfer = .none ∧ a.direction = .input ∧ a.type.name ≠ "Void") ∧
      (∀ a ∈ signal.returns :: signal.arguments,
        r.classify a.type ≠ .typeAlias ∧ (a.isNullable || a.isOptional) = false ∧ a.isArray = false) ∧
      r.classify signal.returns.type ≠ .record := by
  rw [rejection?_eq_none_iff_admits, admits_all_iff, List.forall_mem_cons]
  simp only [admits_iff, Place.isArgument]
  grind

/-- A signal is accepted exactly if every value is admitted in its place, whatever the order of the arguments, and
    otherwise it is rejected for the violation of least rank. -/
theorem rejection?_least_violation (r : Registry) (signal : Callable) :
    (r.rejection? signal = none ↔ ∀ place value, signal.valueAt? place = some value → r.Admits place value) ∧
    (∀ arguments : List Argument, arguments.Perm signal.arguments →
      (r.rejection? { signal with arguments } = none ↔ r.rejection? signal = none)) ∧
    ∀ reason, r.rejection? signal = some reason ↔ ∃ v : Violation, v.IsFirst r signal ∧ reason = v.rejection := by
  refine ⟨rejection?_eq_none_iff_admits, ?_, fun reason => rejection?_eq_some_iff⟩
  intro arguments hperm
  rw [rejection?_eq_none_iff_admits, rejection?_eq_none_iff_admits, admits_all_iff, admits_all_iff]
  simp only [hperm.mem_iff]

/-- What is returned may stand last, but an alias there comes before an array among the arguments. -/
example :
    let size : Declaration := .typeAlias { item := { name := "Size" }, slot := { type := .void }, target := .void }
    let r := (({} : Builder).run [.register size]).registry
    let numbers : Argument :=
      { item := { name := "numbers" }, slot := { type := TypeRef.of "gint" "gint*", contained := [.of "gint" "gint"] } }
    let length : Argument := { item := { name := "length" }, slot := { type := .of "Size" "TestSize" } }
    let signal : Callable :=
      { item := { name := "sorted" }, kind := .signal, symbol := "", type := length.type, returns := length,
        arguments := [numbers], canThrow := false }
    r.rejection? signal = some (.typeAlias "return") ∧
      r.rejection? { signal with returns := .void } = some (.array "numbers") := by
  decide

end Registry

end Introspection
