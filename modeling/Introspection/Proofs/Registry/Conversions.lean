import Introspection.Proofs.Conversion
import Introspection.Proofs.Registry.Accepted
import Mathlib.Algebra.Ring.Parity

set_option autoImplicit false

namespace Introspection

open Markup Text

theorem hole_toList : hole.toList = ['\x7b', '\x7d'] := by decide

namespace Conversion

/-- The conversion of a bitfield from its raw name. A hole in the symbolic name comes before the one that is meant. -/
def fromBits (raw symbolic : String) : Conversion :=
  match splitFirst hole.toList symbolic.toList with
  | some (before, after) =>
    ⟨raw, symbolic, String.ofList before, String.ofList after ++ "::from_bits_retain(" ++ hole ++ ")"⟩
  | none => ⟨raw, symbolic, symbolic ++ "::from_bits_retain(", ")"⟩

def toBits (symbolic raw : String) : Conversion := ⟨symbolic, raw, "", ".bits()"⟩

theorem fromBits_source (raw symbolic : String) : (fromBits raw symbolic).source = raw := by
  unfold fromBits
  split <;> rfl

theorem fromBits_target (raw symbolic : String) : (fromBits raw symbolic).target = symbolic := by
  unfold fromBits
  split <;> rfl

theorem apply_toBits (symbolic raw e : String) : (toBits symbolic raw).apply e = e ++ ".bits()" := by
  simp [apply, toBits]

theorem ofTemplate_fromBits (raw symbolic : String) :
    ofTemplate raw symbolic (symbolic ++ "::from_bits_retain(" ++ hole ++ ")") = .ok (fromBits raw symbolic) := by
  have htemplate : (symbolic ++ "::from_bits_retain(" ++ hole ++ ")").toList =
      symbolic.toList ++ ':' :: (":from_bits_retain(" ++ hole ++ ")").toList := by
    rw [String.toList_append, String.toList_append, String.toList_append, List.append_assoc, List.append_assoc]
    rfl
  unfold ofTemplate fromBits
  rw [htemplate]
  cases hsplit : splitFirst hole.toList symbolic.toList with
  | some p =>
    have hrest : String.ofList (':' :: (":from_bits_retain(" ++ hole ++ ")").toList) =
        "::from_bits_retain(" ++ hole ++ ")" := by decide
    rw [splitFirst_append_of_some hsplit]
    simp only [String.ofList_append, hrest]
    simp only [String.append_assoc]
  | none =>
    have hrest : splitFirst hole.toList (':' :: (":from_bits_retain(" ++ hole ++ ")").toList) =
        some ("::from_bits_retain(".toList, [')']) := by decide
    rw [hole_toList] at hsplit hrest ⊢
    rw [splitFirst_append_of_none (by decide) hsplit, hrest]
    simp only [Option.map_some, String.ofList_append, String.ofList_toList]

theorem getLast?_tail_fromBits (raw symbolic : String) : (fromBits raw symbolic).tail.toList.getLast? = some ')' := by
  unfold fromBits
  split
  · simp [hole_toList]
  · change ")".toList.getLast? = some ')'
    decide

theorem getLast?_tail_toBits (symbolic raw : String) : (toBits symbolic raw).tail.toList.getLast? = some ')' := by
  change ".bits()".toList.getLast? = some ')'
  decide

end Conversion

open Conversion

/-- Two names that there are conversions between. -/
def distinctEnds (raw symbolic : String) : Option (String × String) :=
  if raw = symbolic then none else some (raw, symbolic)

theorem distinctEnds_ne {raw symbolic : String} {ends : String × String}
    (h : distinctEnds raw symbolic = some ends) : ends.1 ≠ ends.2 := by
  unfold distinctEnds at h
  split at h
  · cases h
  · next hne =>
    cases h
    exact hne

def conversionBetween (source target : String) (ends : String × String) : Option Conversion :=
  if ends = (source, target) then some (fromBits source target)
  else if ends = (target, source) then some (toBits source target)
  else none

namespace ConversionTable

theorem addConversions_eq (t : ConversionTable) (raw symbolic : String) :
    Registry.addConversions t raw symbolic =
      if raw = symbolic then t else (t.insertNew (fromBits raw symbolic)).insertNew (toBits symbolic raw) := by
  have hbackward : ofTemplate symbolic raw (hole ++ ".bits()") = .ok (toBits symbolic raw) := by
    have hsplit : splitFirst hole.toList (hole ++ ".bits()").toList = some ([], ".bits()".toList) := by decide
    simp only [ofTemplate, hsplit, toBits, String.ofList_toList, String.ofList_nil]
  unfold Registry.addConversions Registry.bitfieldConversions
  rw [ofTemplate_fromBits, hbackward]
  rfl

theorem get?_addConversions (t : ConversionTable) (raw symbolic source target : String) :
    (Registry.addConversions t raw symbolic).get? source target =
      (t.get? source target).or ((distinctEnds raw symbolic).bind (conversionBetween source target)) := by
  rw [addConversions_eq, distinctEnds]
  by_cases hne : raw = symbolic
  · simp [hne]
  · rw [if_neg hne, if_neg hne, get?_insertNew, get?_insertNew, Option.or_assoc, fromBits_source, fromBits_target]
    congr 1
    simp only [Option.bind_some, conversionBetween]
    by_cases hforward : (source, target) = (raw, symbolic)
    · rw [if_pos hforward, if_pos hforward.symm, Option.some_or, (Prod.mk.inj hforward).1, (Prod.mk.inj hforward).2]
    · rw [if_neg hforward, if_neg (Ne.symm hforward), Option.none_or]
      by_cases hbackward : (source, target) = (symbolic, raw)
      · obtain ⟨rfl, rfl⟩ := Prod.mk.inj hbackward
        rw [if_pos rfl]
        exact if_pos rfl
      · have hswap : (raw, symbolic) ≠ (target, source) := by
          intro h
          exact hbackward (Prod.ext (Prod.mk.inj h).2.symm (Prod.mk.inj h).1.symm)
        rw [if_neg hswap]
        exact if_neg hbackward

end ConversionTable

def conversionEnds : Option String × Declaration → Option (String × String)
  | (space, .bitfield e) => distinctEnds (Registry.rawName space e) e.symbolicName
  | (_, .typeAlias _) | (_, .constant _) | (_, .enumeration _) | (_, .record _) | (_, .callback _) => none

namespace Registry

theorem accept_conversions (r : Registry) (space : Option String) (d : Declaration) :
    (r.accept space d).conversions =
      match d with
      | .bitfield e => addConversions r.conversions (rawName space e) e.symbolicName
      | .typeAlias _ | .constant _ | .enumeration _ | .record _ | .callback _ => r.conversions := by
  cases d with
  | record record => cases space <;> rfl
  | bitfield e => simp only [accept, addEntity, addDerived, addBitfield]
  | typeAlias _ | constant _ | enumeration _ | callback _ => rfl

theorem get?_accept_conversions (r : Registry) (space : Option String) (d : Declaration) (source target : String) :
    (r.accept space d).conversions.get? source target =
      (r.conversions.get? source target).or
        ((conversionEnds (space, d)).bind (conversionBetween source target)) := by
  rw [accept_conversions]
  cases d with
  | bitfield e => exact ConversionTable.get?_addConversions _ _ _ _ _
  | typeAlias _ | constant _ | enumeration _ | record _ | callback _ => exact Option.or_none.symm

end Registry

namespace Builder

def conversionNames (b : Builder) (ops : List Operation) : List (String × String) :=
  (b.accepted ops).filterMap conversionEnds

theorem findSome?_conversionEnds (b : Builder) (ops : List Operation) (f : String × String → Option Conversion) :
    (b.accepted ops).findSome? (fun p => (conversionEnds p).bind f) = (b.conversionNames ops).findSome? f := by
  rw [← List.head?_filterMap, ← List.head?_filterMap, conversionNames, List.filterMap_filterMap]

theorem run_conversions_get? (ops : List Operation) (source target : String) :
    (({} : Builder).run ops).registry.conversions.get? source target =
      (({} : Builder).conversionNames ops).findSome? (conversionBetween source target) := by
  rw [← findSome?_conversionEnds]
  exact run_first (V := fun r => r.conversions.get? source target) rfl (fun _ _ => rfl)
    (fun r space d _ => r.get?_accept_conversions space d source target) ops

theorem conversionNames_ne {b : Builder} {ops : List Operation} {ends : String × String}
    (h : ends ∈ b.conversionNames ops) : ends.1 ≠ ends.2 := by
  obtain ⟨⟨space, d⟩, _, hends⟩ := List.mem_filterMap.mp h
  cases d with
  | bitfield e => exact distinctEnds_ne hends
  | typeAlias _ | constant _ | enumeration _ | record _ | callback _ => cases hends

end Builder

theorem conversionBetween_isSome_iff {source target : String} {ends : String × String} :
    (conversionBetween source target ends).isSome = true ↔ ends = (source, target) ∨ ends = (target, source) := by
  unfold conversionBetween
  by_cases hforward : ends = (source, target)
  · simp [hforward]
  · rw [if_neg hforward]
    by_cases hbackward : ends = (target, source)
    · simp [hbackward]
    · simp [hforward, hbackward]

theorem conversionBetween_exchanged {raw symbolic : String} (hne : raw ≠ symbolic) :
    conversionBetween symbolic raw (raw, symbolic) = some (toBits symbolic raw) := by
  rw [conversionBetween, if_neg fun heq => hne (Prod.mk.inj heq).1, if_pos rfl]

namespace ConversionTable

/-- No conversion leads from a name to itself, and each has one that leads back, so they come in pairs. -/
structure Paired (t : ConversionTable) : Prop where
  distinct : ∀ a b, (t.get? a b).isSome = true → a ≠ b
  mirrored : ∀ a b, (t.get? a b).isSome = true → (t.get? b a).isSome = true
  even : Even t.size

theorem paired_empty : Paired {} where
  distinct _ _ h := by cases h
  mirrored _ _ h := by cases h
  even := Even.zero

theorem size_insertNew (t : ConversionTable) (c : Conversion) :
    (t.insertNew c).size = if (t.get? c.source c.target).isSome then t.size else t.size + 1 :=
  t.byEnds.size_insertNew (c.source, c.target) c

theorem isSome_get?_addConversions (t : ConversionTable) (raw symbolic a b : String) :
    ((Registry.addConversions t raw symbolic).get? a b).isSome = true ↔
      (t.get? a b).isSome = true ∨ raw ≠ symbolic ∧ ((raw, symbolic) = (a, b) ∨ (raw, symbolic) = (b, a)) := by
  rw [get?_addConversions, Option.isSome_or, Bool.or_eq_true, distinctEnds]
  by_cases hne : raw = symbolic
  · simp [hne]
  · rw [if_neg hne, Option.bind_some, conversionBetween_isSome_iff]
    simp [hne]

namespace Paired

variable {t : ConversionTable} (h : t.Paired)
include h

theorem even_addConversions (raw symbolic : String) : Even (Registry.addConversions t raw symbolic).size := by
  rw [addConversions_eq]
  by_cases hne : raw = symbolic
  · rw [if_pos hne]
    exact h.even
  · rw [if_neg hne, size_insertNew, size_insertNew, get?_insertNew, fromBits_source, fromBits_target]
    change Even (if ((t.get? symbolic raw).or
      (if (symbolic, raw) = (raw, symbolic) then some (fromBits raw symbolic) else none)).isSome then _ else _)
    rw [if_neg fun heq => hne (Prod.mk.inj heq).2, Option.or_none]
    by_cases hold : (t.get? raw symbolic).isSome = true
    · rw [if_pos hold, if_pos (h.mirrored raw symbolic hold)]
      exact h.even
    · have hback : ¬ (t.get? symbolic raw).isSome = true := fun hback => hold (h.mirrored symbolic raw hback)
      rw [if_neg hold, if_neg hback]
      exact h.even.add even_two

theorem addConversions (raw symbolic : String) : (Registry.addConversions t raw symbolic).Paired where
  distinct a b hab := by
    obtain hold | ⟨hne, hnew⟩ := (isSome_get?_addConversions t raw symbolic a b).mp hab
    · exact h.distinct a b hold
    · obtain heq | heq := hnew
      · obtain ⟨rfl, rfl⟩ := Prod.mk.inj heq
        exact hne
      · obtain ⟨rfl, rfl⟩ := Prod.mk.inj heq
        exact hne.symm
  mirrored a b hab := by
    rw [isSome_get?_addConversions] at hab ⊢
    exact hab.imp (h.mirrored a b) fun hnew => ⟨hnew.1, hnew.2.symm⟩
  even := h.even_addConversions raw symbolic

end Paired

end ConversionTable

theorem Registry.Reachable.conversions_paired {r : Registry} (h : r.Reachable) : r.conversions.Paired := by
  refine h.induction (P := fun r => r.conversions.Paired) ConversionTable.paired_empty (fun _ _ hr => hr) ?_
  intro r space d _ hr
  rw [Registry.accept_conversions]
  cases d with
  | bitfield e => exact hr.addConversions _ _
  | typeAlias _ | constant _ | enumeration _ | record _ | callback _ => exact hr

namespace Builder

theorem mem_conversionNames_of_registers {ops : List Operation} {space : Option String} {e : Enumeration} {id : Nat}
    (h : ({} : Builder).Registers ops space (.bitfield e) id) (hne : Registry.rawName space e ≠ e.symbolicName) :
    (Registry.rawName space e, e.symbolicName) ∈ ({} : Builder).conversionNames ops :=
  List.mem_filterMap.mpr ⟨_, List.mem_of_getElem? ((registers_iff ops).mp h), if_neg hne⟩

theorem run_conversions_isSome (ops : List Operation) {raw symbolic : String}
    (h : (raw, symbolic) ∈ ({} : Builder).conversionNames ops) :
    ((({} : Builder).run ops).registry.conversions.get? raw symbolic).isSome = true := by
  rw [run_conversions_get?]
  exact List.findSome?_isSome_iff.mpr ⟨_, h, conversionBetween_isSome_iff.mpr (Or.inl rfl)⟩

/-- The table of conversions is symmetric, so it has an even number of them, and it has both conversions of every
    bitfield that was registered, whatever else was. -/
theorem run_conversions_symmetric (ops : List Operation) :
    let t := (({} : Builder).run ops).registry.conversions
    (∀ a b, (a, b) ∈ t.byEnds.keys → a ≠ b ∧ (b, a) ∈ t.byEnds.keys) ∧ Even t.size ∧
    ∀ space e id, ({} : Builder).Registers ops space (.bitfield e) id → Registry.rawName space e ≠ e.symbolicName →
      t.hasPair (Registry.rawName space e) e.symbolicName = true := by
  intro t
  have hpaired : t.Paired := Registry.Reachable.conversions_paired ⟨ops, rfl⟩
  refine ⟨?_, hpaired.even, ?_⟩
  · intro a b hab
    rw [Table.mem_keys_iff] at hab ⊢
    exact ⟨hpaired.distinct a b hab, hpaired.mirrored a b hab⟩
  · intro space e id hregisters hne
    have hforward := run_conversions_isSome ops (mem_conversionNames_of_registers hregisters hne)
    exact Bool.and_eq_true_iff.mpr ⟨hforward, hpaired.mirrored _ _ hforward⟩

theorem run_conversions_symmetric_overlapping :
    let bitfield (name spelling : String) : Enumeration := .ofElement
      { Element.named "bitfield" with attributes := [("name", name), ("type", spelling)] } 0
    let ops : List Operation := [.enter "Gdk", .register (.bitfield (bitfield "GdkModifier" "Modifier")),
      .register (.bitfield (bitfield "Modifier" ""))]
    let t := (({} : Builder).run ops).registry.conversions
    ({} : Builder).Registers ops (some "Gdk") (.bitfield (bitfield "Modifier" "")) 1 ∧
      Registry.rawName (some "Gdk") (bitfield "Modifier" "") ≠ (bitfield "Modifier" "").symbolicName ∧
      t.hasPair "GdkModifier" "Modifier" = true ∧ Even t.size := by
  intro bitfield ops t
  have hregisters : ({} : Builder).Registers ops (some "Gdk") (.bitfield (bitfield "Modifier" "")) 1 :=
    ⟨ops.take 2, [], rfl, rfl, by decide⟩
  have hraw : Registry.rawName (some "Gdk") (bitfield "Modifier" "") = "GdkModifier" := by decide
  have hsymbolic : (bitfield "Modifier" "").symbolicName = "Modifier" := by decide
  have hne : Registry.rawName (some "Gdk") (bitfield "Modifier" "") ≠ (bitfield "Modifier" "").symbolicName := by
    rw [hraw, hsymbolic]
    decide
  obtain ⟨_, heven, hpair⟩ := run_conversions_symmetric ops
  have hmodifier := hpair _ _ 1 hregisters hne
  rw [hraw, hsymbolic] at hmodifier
  exact ⟨hregisters, hne, hmodifier, heven⟩

def firstBetween? (b : Builder) (ops : List Operation) (name other : String) : Option (String × String) :=
  (b.conversionNames ops).find? fun ends => ends = (name, other) ∨ ends = (other, name)

theorem run_get?_firstBetween? (ops : List Operation) {name other : String} {ends : String × String}
    (h : ({} : Builder).firstBetween? ops name other = some ends) :
    let t := (({} : Builder).run ops).registry.conversions
    t.get? name other = conversionBetween name other ends ∧ t.get? other name = conversionBetween other name ends := by
  intro t
  have hends : ends = (name, other) ∨ ends = (other, name) := by simpa using List.find?_some h
  have hsilent : ∀ p : String × String, decide (p = (name, other) ∨ p = (other, name)) = false →
      conversionBetween name other p = none ∧ conversionBetween other name p = none := by
    intro p hp
    have hp' := of_decide_eq_false hp
    rw [← Option.not_isSome_iff_eq_none, ← Option.not_isSome_iff_eq_none, conversionBetween_isSome_iff,
      conversionBetween_isSome_iff]
    exact ⟨hp', fun hor => hp' hor.symm⟩
  rw [run_conversions_get?, run_conversions_get?]
  constructor
  · exact findSome?_of_find? h (fun p hp => (hsilent p hp).1) (conversionBetween_isSome_iff.mpr hends)
  · exact findSome?_of_find? h (fun p hp => (hsilent p hp).2) (conversionBetween_isSome_iff.mpr hends.symm)

/-- The two conversions between the names of a bitfield are its own, unless one that has the names exchanged came
    before it. -/
theorem run_conversions_cases (ops : List Operation) {raw symbolic : String}
    (h : (raw, symbolic) ∈ ({} : Builder).conversionNames ops) :
    let t := (({} : Builder).run ops).registry.conversions
    (({} : Builder).firstBetween? ops raw symbolic = some (raw, symbolic) ∧
      t.get? raw symbolic = some (fromBits raw symbolic) ∧ t.get? symbolic raw = some (toBits symbolic raw)) ∨
    (({} : Builder).firstBetween? ops raw symbolic = some (symbolic, raw) ∧
      t.get? raw symbolic = some (toBits raw symbolic) ∧ t.get? symbolic raw = some (fromBits symbolic raw)) := by
  intro t
  have hne : raw ≠ symbolic := conversionNames_ne h
  have hexists : (({} : Builder).firstBetween? ops raw symbolic).isSome = true :=
    List.find?_isSome.mpr ⟨_, h, by simp⟩
  obtain ⟨ends, hfirst⟩ := Option.isSome_iff_exists.mp hexists
  obtain ⟨hthere, hback⟩ := run_get?_firstBetween? ops hfirst
  have hends : ends = (raw, symbolic) ∨ ends = (symbolic, raw) := by simpa using List.find?_some hfirst
  obtain rfl | rfl := hends
  · rw [conversionBetween_exchanged hne] at hback
    exact Or.inl ⟨hfirst, hthere.trans (if_pos rfl), hback⟩
  · rw [conversionBetween_exchanged hne.symm] at hthere
    exact Or.inr ⟨hfirst, hthere, hback.trans (if_pos rfl)⟩

theorem toBits_grows {symbolic raw : String} (c : Conversion) (e : String) :
    (toBits symbolic raw).apply (c.apply e) ≠ e ∧ c.apply ((toBits symbolic raw).apply e) ≠ e := by
  have htail : (toBits symbolic raw).tail.length = 7 := by
    change ".bits()".length = 7
    decide
  constructor
  all_goals
    intro heq
    have hlength := congrArg String.length heq
    rw [length_apply, length_apply, htail] at hlength
    omega

/-- Where the conversions of a bitfield cancel. From the raw name to the symbolic one and back an expression comes out as
    it was, unless it consists of the conversion back around the conversion there; of such an expression only the
    inside is left. -/
theorem run_roundTrip_iff (ops : List Operation) {space : Option String} {e : Enumeration} {id : Nat}
    (h : ({} : Builder).Registers ops space (.bitfield e) id) (hne : Registry.rawName space e ≠ e.symbolicName) :
    let t := (({} : Builder).run ops).registry.conversions
    let raw := Registry.rawName space e
    let symbolic := e.symbolicName
    ∃ there back, t.get? raw symbolic = some there ∧ t.get? symbolic raw = some back ∧
      (({} : Builder).firstBetween? ops raw symbolic = some (raw, symbolic) ∧
          there = fromBits raw symbolic ∧ back = toBits symbolic raw ∨
        ({} : Builder).firstBetween? ops raw symbolic = some (symbolic, raw) ∧
          there = toBits raw symbolic ∧ back = fromBits symbolic raw) ∧
      (∀ x, t.roundTrip? x raw symbolic = some x ↔ ∀ inner, x ≠ back.apply (there.apply inner)) ∧
      ∀ inner, t.roundTrip? (back.apply (there.apply inner)) raw symbolic = some inner := by
  intro t raw symbolic
  have hcases := run_conversions_cases ops (mem_conversionNames_of_registers h hne)
  obtain ⟨hfirst, hthere, hback⟩ | ⟨hfirst, hthere, hback⟩ := hcases
  · refine ⟨_, _, hthere, hback, Or.inl ⟨hfirst, rfl, rfl⟩, ?_, ConversionTable.roundTrip?_apply_apply hthere hback⟩
    exact ConversionTable.roundTrip?_eq_some_iff hthere hback fun x => (toBits_grows _ x).1
  · refine ⟨_, _, hthere, hback, Or.inr ⟨hfirst, rfl, rfl⟩, ?_, ConversionTable.roundTrip?_apply_apply hthere hback⟩
    exact ConversionTable.roundTrip?_eq_some_iff hthere hback fun x => (toBits_grows _ x).2

theorem run_roundTrip_mask :
    let flags : Enumeration := .ofElement
      { Element.named "bitfield" with attributes := [("name", "StateFlags"), ("type", "TestStateFlags")] } 0
    let ops : List Operation := [.enter "Test", .register (.bitfield flags)]
    let t := (({} : Builder).run ops).registry.conversions
    ({} : Builder).Registers ops (some "Test") (.bitfield flags) 0 ∧
      Registry.rawName (some "Test") flags ≠ flags.symbolicName ∧
      t.roundTrip? "mask.bits()" "TestStateFlags" "StateFlags" = some "mask.bits()" := by
  intro flags ops t
  have hregisters : ({} : Builder).Registers ops (some "Test") (.bitfield flags) 0 :=
    ⟨[.enter "Test"], [], rfl, rfl, rfl⟩
  have hraw : Registry.rawName (some "Test") flags = "TestStateFlags" := by decide
  have hsymbolic : flags.symbolicName = "StateFlags" := by decide
  have hne : Registry.rawName (some "Test") flags ≠ flags.symbolicName := by
    rw [hraw, hsymbolic]
    decide
  obtain ⟨there, back, hthere, hback, _, hiff, _⟩ := run_roundTrip_iff ops hregisters hne
  rw [hraw, hsymbolic] at hthere hback hiff
  have hthere' : there = fromBits "TestStateFlags" "StateFlags" := Option.some.inj (hthere.symm.trans (by decide))
  have hback' : back = toBits "StateFlags" "TestStateFlags" := Option.some.inj (hback.symm.trans (by decide))
  refine ⟨hregisters, hne, (hiff "mask.bits()").mpr ?_⟩
  intro inner heq
  have hout : back.unapply? "mask.bits()" = some "mask" := by
    rw [hback']
    decide
  have hmask : there.apply inner = "mask" :=
    Option.some.inj ((unapply?_eq_some_iff.mpr heq.symm).symm.trans hout)
  have hin : there.unapply? "mask" = none := by
    rw [hthere']
    decide
  exact absurd ((unapply?_eq_some_iff.mpr hmask).symm.trans hin) (by simp)

/-- An expression of the raw type that comes back as something that is no expression. -/
theorem run_roundTrip_union :
    let flags : Enumeration := .ofElement
      { Element.named "bitfield" with attributes := [("name", "StateFlags"), ("type", "TestStateFlags")] } 0
    let ops : List Operation := [.enter "Test", .register (.bitfield flags)]
    let t := (({} : Builder).run ops).registry.conversions
    let union := "StateFlags::from_bits_retain(a).union(StateFlags::from_bits_retain(b))"
    ({} : Builder).Registers ops (some "Test") (.bitfield flags) 0 ∧
      Registry.rawName (some "Test") flags = "TestStateFlags" ∧ flags.symbolicName = "StateFlags" ∧
      t.convert? (union ++ ".bits()") "TestStateFlags" "StateFlags" = some union ∧
      t.roundTrip? (union ++ ".bits()") "TestStateFlags" "StateFlags" =
        some "a).union(StateFlags::from_bits_retain(b)" ∧
      "a).union(StateFlags::from_bits_retain(b)" ≠ union ++ ".bits()" := by
  intro flags ops t union
  have hthere : t.get? "TestStateFlags" "StateFlags" = some (fromBits "TestStateFlags" "StateFlags") := by decide
  have hback : t.get? "StateFlags" "TestStateFlags" = some (toBits "StateFlags" "TestStateFlags") := by decide
  have hunion : (fromBits "TestStateFlags" "StateFlags").apply "a).union(StateFlags::from_bits_retain(b)" = union := by
    decide
  have hconverted := ConversionTable.convert?_apply hthere hback union
  have hround := ConversionTable.roundTrip?_apply_apply hthere hback "a).union(StateFlags::from_bits_retain(b)"
  rw [hunion] at hround
  rw [apply_toBits] at hconverted hround
  exact ⟨⟨[.enter "Test"], [], rfl, rfl, rfl⟩, by decide, by decide, hconverted, hround, by decide⟩

end Builder

end Introspection
