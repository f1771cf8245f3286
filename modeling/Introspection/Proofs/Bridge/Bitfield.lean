import Introspection.Bridge
import Introspection.Proofs.Registry.Conversions

set_option autoImplicit false

namespace Introspection

open Markup Text

namespace Conversion

/-- A converted expression as it is meant, or else one that ends in the hole that was meant to be filled. -/
theorem apply_fromBits_cases (raw symbolic e : String) :
    (contains hole symbolic = false ∧
      (fromBits raw symbolic).apply e = symbolic ++ "::from_bits_retain(" ++ e ++ ")") ∨
    (contains hole symbolic = true ∧
      ∃ front, (fromBits raw symbolic).apply e = front ++ hole ++ ")") := by
  unfold fromBits contains
  cases splitFirst hole.toList symbolic.toList with
  | none => exact Or.inl ⟨rfl, rfl⟩
  | some p =>
    refine Or.inr ⟨rfl, String.ofList p.1 ++ e ++ (String.ofList p.2 ++ "::from_bits_retain("), ?_⟩
    simp only [apply, String.append_assoc]

theorem apply_fromBits_eq_iff (raw symbolic : String) {e : String} (he : e.toList.getLast? ≠ some '\x7d') :
    (fromBits raw symbolic).apply e = symbolic ++ "::from_bits_retain(" ++ e ++ ")" ↔
      contains hole symbolic = false := by
  obtain ⟨hnone, happly⟩ | ⟨hsome, front, happly⟩ := apply_fromBits_cases raw symbolic e
  · exact ⟨fun _ => hnone, fun _ => happly⟩
  · rw [happly, hsome, String.append_left_inj]
    refine ⟨fun h => ?_, fun h => by cases h⟩
    have hlast := congrArg (fun s => s.toList.getLast?) h
    simp only [String.toList_append, List.getLast?_append, hole_toList] at hlast
    cases hlaste : e.toList.getLast? with
    | none => simp [hlaste] at hlast
    | some x =>
      rw [hlaste] at hlast he
      exact absurd hlast.symm he

theorem apply_fromBits_output_ne (raw symbolic : String) :
    (fromBits raw symbolic).apply "output" ≠ "output.bits()" := by
  have hbits : "output.bits()" = "output.bits(" ++ ")" := by decide
  intro h
  obtain ⟨_, happly⟩ | ⟨_, front, happly⟩ := apply_fromBits_cases raw symbolic "output"
  all_goals
    rw [happly, hbits, String.append_left_inj] at h
    have hlast := congrArg (fun s => s.toList.getLast?) h
    simp [List.getLast?_append, hole_toList] at hlast

end Conversion

open Conversion

/-- What a bitfield with these names has to say about ways that leave a name. -/
def conversionLeaving (source : String) (ends : String × String) : Option Conversion :=
  if ends.1 = source then some (fromBits source ends.2)
  else if ends.2 = source then some (toBits source ends.1)
  else none

namespace ConversionTable

theorem keyed_addConversions {t : ConversionTable} (h : t.Keyed) (raw symbolic : String) :
    (Registry.addConversions t raw symbolic).Keyed := by
  unfold Registry.addConversions
  split
  · exact h
  · split
    · exact (h.insertNew _).insertNew _
    · exact h

theorem head?_leaving_addConversions {t : ConversionTable} (h : t.Keyed) (raw symbolic source : String) :
    ((Registry.addConversions t raw symbolic).leaving source).head? =
      (t.leaving source).head?.or ((distinctEnds raw symbolic).bind (conversionLeaving source)) := by
  rw [addConversions_eq, distinctEnds]
  by_cases hne : raw = symbolic
  · simp [hne]
  · rw [if_neg hne, if_neg hne, head?_leaving_insertNew (h.insertNew _), head?_leaving_insertNew h, Option.or_assoc,
      fromBits_source]
    congr 1
    simp only [Option.bind_some, conversionLeaving]
    by_cases hraw : raw = source
    · rw [if_pos hraw, if_pos hraw, Option.some_or, hraw]
    · rw [if_neg hraw, if_neg hraw, Option.none_or]
      by_cases hsymbolic : symbolic = source
      · rw [hsymbolic]
        rfl
      · rw [if_neg hsymbolic]
        exact if_neg hsymbolic

end ConversionTable

namespace Registry

theorem conversions_keyed {r : Registry} (h : r.Reachable) : r.conversions.Keyed := by
  refine h.induction (P := fun r => r.conversions.Keyed) ConversionTable.keyed_empty (fun _ _ hr => hr) ?_
  intro r space d _ hr
  rw [accept_conversions]
  cases d with
  | bitfield e => exact ConversionTable.keyed_addConversions hr _ _
  | typeAlias _ | constant _ | enumeration _ | record _ | callback _ => exact hr

theorem head?_leaving_accept {r : Registry} (h : r.Reachable) (space : Option String) (d : Declaration)
    (source : String) :
    ((r.accept space d).conversions.leaving source).head? =
      (r.conversions.leaving source).head?.or ((conversionEnds (space, d)).bind (conversionLeaving source)) := by
  rw [accept_conversions]
  cases d with
  | bitfield e => exact ConversionTable.head?_leaving_addConversions (conversions_keyed h) _ _ _
  | typeAlias _ | constant _ | enumeration _ | record _ | callback _ => exact Option.or_none.symm

end Registry

namespace Builder

theorem run_leaving_head? (ops : List Operation) (source : String) :
    ((({} : Builder).run ops).registry.conversions.leaving source).head? =
      (({} : Builder).conversionNames ops).findSome? (conversionLeaving source) := by
  rw [← findSome?_conversionEnds]
  exact run_first (V := fun r => (r.conversions.leaving source).head?) rfl (fun _ _ => rfl)
    (fun r space d h => Registry.head?_leaving_accept h space d source) ops

def firstConversion? (b : Builder) (ops : List Operation) (name : String) : Option (String × String) :=
  (b.conversionNames ops).find? fun ends => ends.1 = name ∨ ends.2 = name

theorem firstConversion?_ne {b : Builder} {ops : List Operation} {name : String} {ends : String × String}
    (h : b.firstConversion? ops name = some ends) : ends.1 ≠ ends.2 :=
  conversionNames_ne (List.mem_of_find?_eq_some h)

/-- Whatever only bitfields with this name can say is said by the first of them. -/
theorem findSome?_of_firstConversion? {b : Builder} {ops : List Operation} {name : String} {ends : String × String}
    {f : String × String → Option Conversion} (h : b.firstConversion? ops name = some ends)
    (hother : ∀ p : String × String, p.1 ≠ name → p.2 ≠ name → f p = none) (hends : (f ends).isSome = true) :
    (b.conversionNames ops).findSome? f = f ends := by
  refine findSome?_of_find? h ?_ hends
  intro p hp
  have hp' : ¬ p.1 = name ∧ ¬ p.2 = name := by simpa using hp
  exact hother p hp'.1 hp'.2

theorem run_leaving_first (ops : List Operation) {name : String} {ends : String × String}
    (h : ({} : Builder).firstConversion? ops name = some ends) :
    ((({} : Builder).run ops).registry.conversions.leaving name).head? = conversionLeaving name ends := by
  have hname : ends.1 = name ∨ ends.2 = name := by simpa using List.find?_some h
  rw [run_leaving_head?]
  apply findSome?_of_firstConversion? h
  · intro p hraw hsymbolic
    simp [conversionLeaving, hraw, hsymbolic]
  · by_cases hraw : ends.1 = name
    · simp [conversionLeaving, hraw]
    · simp [conversionLeaving, hraw, hname.resolve_left hraw]

theorem run_get?_first (ops : List Operation) {name source target : String} {ends : String × String}
    (h : ({} : Builder).firstConversion? ops name = some ends) (hname : source = name ∨ target = name)
    (hends : ends = (source, target) ∨ ends = (target, source)) :
    (({} : Builder).run ops).registry.conversions.get? source target = conversionBetween source target ends := by
  rw [run_conversions_get?]
  apply findSome?_of_firstConversion? h
  · intro p hraw hsymbolic
    have hforward : p ≠ (source, target) := by
      rintro rfl
      exact hname.elim hraw hsymbolic
    have hbackward : p ≠ (target, source) := by
      rintro rfl
      exact hname.elim hsymbolic hraw
    simp [conversionBetween, hforward, hbackward]
  · by_cases hforward : ends = (source, target)
    · simp [conversionBetween, hforward]
    · rw [conversionBetween, if_neg hforward, if_pos (hends.resolve_left hforward)]
      rfl

end Builder

namespace Boundary

theorem exists_bitfield_of_classify {b : Boundary} {t : TypeRef} (h : b.registry.classify t = .bitfield) :
    ∃ e, b.registry.bitfield? t.name = some e := by
  unfold Registry.classify at h
  unfold Registry.bitfield?
  cases hlookup : b.registry.lookup? t.name with
  | none => simp [hlookup, Registry.classOf] at h
  | some d =>
    cases d with
    | bitfield e => exact ⟨e, rfl⟩
    | typeAlias _ | constant _ | enumeration _ | record _ | callback _ => simp [hlookup, Registry.classOf] at h

theorem bridge_of_bitfield {b : Boundary} {t : TypeRef} {e : Enumeration} (hvalue : t.isVoid = false)
    (hclass : b.registry.classify t = .bitfield) (he : b.registry.bitfield? t.name = some e) :
    b.bridge t =
      .bitfield e.symbolicName ((b.registry.conversions.leaving e.symbolicName).head?.map Conversion.target) := by
  simp [bridge, hvalue, hclass, bitfieldBridge, he]

end Boundary

theorem getLast?_argument_ne (i : Nat) {c : Char} (hc : c.isDigit = false) :
    ("arg" ++ toString i).toList.getLast? ≠ some c := by
  intro h
  have hdigits : (toString i).toList = Nat.toDigits 10 i := by
    rw [Nat.toString_eq_repr, Nat.toList_repr]
  have hlast := List.getLast?_eq_some_getLast (Nat.toDigits_ne_nil (n := i) (b := 10))
  rw [String.toList_append, hdigits, List.getLast?_append, hlast, Option.some_or, ← hlast] at h
  have hdigit := Nat.isDigit_of_mem_toDigits (by decide) (by decide) (List.mem_of_getLast? h)
  exact absurd (hc.symm.trans hdigit) (by decide)

namespace Builder

/-- The pair of conversions in the table belongs to the first bitfield that has either of its names. -/
theorem run_pair_first (ops : List Operation) {name raw symbolic : String}
    (h : ({} : Builder).firstConversion? ops name = some (raw, symbolic)) (hname : raw = name ∨ symbolic = name) :
    let t := (({} : Builder).run ops).registry.conversions
    t.get? raw symbolic = some (fromBits raw symbolic) ∧ t.get? symbolic raw = some (toBits symbolic raw) := by
  have hne : (raw, symbolic) ≠ (symbolic, raw) := fun heq => firstConversion?_ne h (Prod.mk.inj heq).1
  constructor
  · rw [run_get?_first ops h hname (Or.inl rfl), conversionBetween, if_pos rfl]
  · rw [run_get?_first ops h hname.symm (Or.inr rfl), conversionBetween, if_neg hne, if_pos rfl]

theorem run_leaving_none (ops : List Operation) {name : String}
    (h : ({} : Builder).firstConversion? ops name = none) :
    ((({} : Builder).run ops).registry.conversions.leaving name).head? = none := by
  rw [run_leaving_head?, List.findSome?_eq_none_iff]
  intro p hp
  have hp' : ¬ p.1 = name ∧ ¬ p.2 = name := by simpa using List.find?_eq_none.mp h p hp
  simp [conversionLeaving, hp'.1, hp'.2]

section Texts

variable {ops : List Operation}

def bitfieldBridge (b : Builder) (symbolic : String) : Bridge :=
  .bitfield symbolic ((b.registry.conversions.leaving symbolic).head?.map Conversion.target)

theorem run_texts_without_conversion (ffi : String) {symbolic : String}
    (h : ({} : Builder).firstConversion? ops symbolic = none) (e : String) :
    (Boundary.mk (({} : Builder).run ops).registry ffi).receive ((({} : Builder).run ops).bitfieldBridge symbolic) e =
        symbolic ++ "::from_bits_retain(" ++ e ++ ")" ∧
      (Boundary.mk (({} : Builder).run ops).registry ffi).send ((({} : Builder).run ops).bitfieldBridge symbolic) e =
        e ++ ".bits()" := by
  simp [bitfieldBridge, run_leaving_none ops h, Boundary.receive, Boundary.send]

theorem run_texts_symbolic_first (ffi : String) {raw symbolic : String}
    (h : ({} : Builder).firstConversion? ops symbolic = some (raw, symbolic)) {e : String}
    (he : e.toList.getLast? ≠ some ')') :
    (Boundary.mk (({} : Builder).run ops).registry ffi).receive ((({} : Builder).run ops).bitfieldBridge symbolic) e =
        (fromBits raw symbolic).apply e ∧
      (Boundary.mk (({} : Builder).run ops).registry ffi).send ((({} : Builder).run ops).bitfieldBridge symbolic) e =
        e ++ ".bits()" := by
  obtain ⟨hforward, hbackward⟩ := run_pair_first ops h (Or.inr rfl)
  have hhead := run_leaving_first ops h
  rw [conversionLeaving, if_neg (firstConversion?_ne h), if_pos rfl] at hhead
  have hreceive := ConversionTable.convert?_of_pair hforward hbackward (unapply?_eq_none (getLast?_tail_toBits _ _) he)
  have hsend := ConversionTable.convert?_of_pair hbackward hforward (unapply?_eq_none (getLast?_tail_fromBits _ _) he)
  have hbridge : (({} : Builder).run ops).bitfieldBridge symbolic = .bitfield symbolic (some raw) := by
    rw [bitfieldBridge, hhead]
    rfl
  rw [hbridge]
  constructor
  · simp only [Boundary.receive, Option.bind_some, hreceive, Option.getD_some]
  · simp only [Boundary.send, Option.bind_some, hsend, Option.getD_some, apply_toBits]

theorem run_send_raw_first (ffi : String) {symbolic other : String}
    (h : ({} : Builder).firstConversion? ops symbolic = some (symbolic, other)) {e : String}
    (he : e.toList.getLast? ≠ some ')') :
    (Boundary.mk (({} : Builder).run ops).registry ffi).send ((({} : Builder).run ops).bitfieldBridge symbolic) e =
      (fromBits symbolic other).apply e := by
  obtain ⟨hforward, hbackward⟩ := run_pair_first ops h (Or.inl rfl)
  have hhead := run_leaving_first ops h
  rw [conversionLeaving, if_pos rfl] at hhead
  have hsend := ConversionTable.convert?_of_pair hforward hbackward (unapply?_eq_none (getLast?_tail_toBits _ _) he)
  have hbridge : (({} : Builder).run ops).bitfieldBridge symbolic = .bitfield symbolic (some other) := by
    rw [bitfieldBridge, hhead, Option.map_some, fromBits_target]
  rw [hbridge]
  simp only [Boundary.send, Option.bind_some, hsend, Option.getD_some]

end Texts

theorem run_texts_iff (ops : List Operation) (ffi symbolic : String) :
    (∀ i, 1 ≤ i →
        (Boundary.mk (({} : Builder).run ops).registry ffi).receive ((({} : Builder).run ops).bitfieldBridge symbolic)
            ("arg" ++ toString i) = symbolic ++ "::from_bits_retain(" ++ ("arg" ++ toString i) ++ ")") ∧
      (Boundary.mk (({} : Builder).run ops).registry ffi).send ((({} : Builder).run ops).bitfieldBridge symbolic)
        "output" = "output.bits()" ↔
    ∀ ends, ({} : Builder).firstConversion? ops symbolic = some ends →
      ends.2 = symbolic ∧ Text.contains hole symbolic = false := by
  have hbits : "output" ++ ".bits()" = "output.bits()" := by decide
  have houtput : "output".toList.getLast? ≠ some ')' := by decide
  cases hfirst : ({} : Builder).firstConversion? ops symbolic with
  | none =>
    have htexts := run_texts_without_conversion ffi hfirst
    refine ⟨fun _ ends h => (by cases h), fun _ => ⟨fun i _ => (htexts _).1, ?_⟩⟩
    rw [(htexts "output").2, hbits]
  | some ends =>
    obtain ⟨raw, other⟩ := ends
    by_cases hother : other = symbolic
    · subst hother
      have hreceive (i : Nat) := (run_texts_symbolic_first ffi hfirst (getLast?_argument_ne i (c := ')') (by decide))).1
      have hmeant (i : Nat) := apply_fromBits_eq_iff raw other
        (getLast?_argument_ne i (c := '\x7d') (by decide))
      constructor
      · rintro ⟨h, _⟩ ends hends
        cases hends
        exact ⟨rfl, (hmeant 1).mp ((hreceive 1).symm.trans (h 1 (Nat.le_refl 1)))⟩
      · intro h
        refine ⟨fun i _ => (hreceive i).trans ((hmeant i).mpr (h _ rfl).2), ?_⟩
        rw [(run_texts_symbolic_first ffi hfirst houtput).2, hbits]
    · have hraw : raw = symbolic ∨ other = symbolic := by simpa using List.find?_some hfirst
      obtain rfl := hraw.resolve_right hother
      have hsend := run_send_raw_first ffi hfirst houtput
      constructor
      · rintro ⟨_, h⟩
        exact absurd (hsend.symm.trans h) (apply_fromBits_output_ne _ _)
      · exact fun h => absurd (h _ rfl).1 hother

/-- The bridge of a bitfield. Its type is always the symbolic name. The expressions it writes are the bitfield's own
    exactly if no bitfield has conversions for that name, or the first one that has uses it as its symbolic name and
    it contains no hole. -/
theorem run_bitfield_bridge_iff (ops : List Operation) (ffi : String) (t : TypeRef) (hvalue : t.isVoid = false)
    (hclass : (({} : Builder).run ops).registry.classify t = .bitfield) :
    ∃ e, (({} : Builder).run ops).registry.bitfield? t.name = some e ∧
      let b : Boundary := ⟨(({} : Builder).run ops).registry, ffi⟩
      Boundary.idiomatic (b.bridge t) = e.symbolicName ∧
      ((∀ i, 1 ≤ i → b.receive (b.bridge t) ("arg" ++ toString i) =
            e.symbolicName ++ "::from_bits_retain(" ++ ("arg" ++ toString i) ++ ")") ∧
          b.send (b.bridge t) "output" = "output.bits()" ↔
        ∀ ends, ({} : Builder).firstConversion? ops e.symbolicName = some ends →
          ends.2 = e.symbolicName ∧ Text.contains hole e.symbolicName = false) := by
  obtain ⟨e, he⟩ := Boundary.exists_bitfield_of_classify (b := ⟨_, ffi⟩) hclass
  refine ⟨e, he, ?_⟩
  intro b
  have hbridge : b.bridge t = (({} : Builder).run ops).bitfieldBridge e.symbolicName :=
    Boundary.bridge_of_bitfield hvalue hclass he
  rw [hbridge]
  exact ⟨rfl, run_texts_iff ops ffi e.symbolicName⟩

theorem run_bitfield_bridge_state_first :
    let bitfield (name spelling : String) : Declaration := .bitfield (.ofElement
      { Element.named "bitfield" with attributes := [("name", name), ("type", spelling)] } 0)
    let ops : List Operation := [.register (bitfield "State" "TestState"), .register (bitfield "StateMask" "State")]
    let b : Boundary := ⟨(({} : Builder).run ops).registry, "ffi"⟩
    let t := TypeRef.of "State" "TestState"
    t.isVoid = false ∧ b.registry.classify t = .bitfield ∧
      b.receive (b.bridge t) "arg1" = "State::from_bits_retain(arg1)" ∧
      b.send (b.bridge t) "output" = "output.bits()" := by
  intro bitfield ops b t
  have hvalue : t.isVoid = false := by decide
  have hclass : b.registry.classify t = .bitfield := by decide
  obtain ⟨e, he, _, htexts⟩ := run_bitfield_bridge_iff ops "ffi" t hvalue hclass
  have hname : e.symbolicName = "State" := by
    have hnames : (b.registry.bitfield? t.name).map Enumeration.symbolicName = some "State" := by decide
    rw [he] at hnames
    exact Option.some.inj hnames
  rw [hname] at htexts
  have hfirst : ({} : Builder).firstConversion? ops "State" = some ("TestState", "State") := by decide
  have hmeant := htexts.mpr fun ends hends => by
    rw [hfirst] at hends
    cases hends
    decide
  exact ⟨hvalue, hclass, hmeant.1 1 (Nat.le_refl 1), hmeant.2⟩

/-- The same two bitfields the other way round: `State` gets the conversions of `StateMask`, back to front. -/
theorem run_bitfield_bridge_mask_first :
    let bitfield (name spelling : String) : Declaration := .bitfield (.ofElement
      { Element.named "bitfield" with attributes := [("name", name), ("type", spelling)] } 0)
    let ops : List Operation := [.register (bitfield "StateMask" "State"), .register (bitfield "State" "TestState")]
    let b : Boundary := ⟨(({} : Builder).run ops).registry, "ffi"⟩
    let t := TypeRef.of "State" "TestState"
    t.isVoid = false ∧ b.registry.classify t = .bitfield ∧
      (b.registry.bitfield? t.name).map Enumeration.symbolicName = some "State" ∧
      b.receive (b.bridge t) "arg1" = "arg1.bits()" ∧
      b.send (b.bridge t) "output" = "StateMask::from_bits_retain(output)" := by
  decide

end Builder

end Introspection
