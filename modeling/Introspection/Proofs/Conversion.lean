import Introspection.Conversion
import Introspection.Proofs.Table
import Introspection.Proofs.Text.Pieces

set_option autoImplicit false

namespace Introspection

open Text

namespace Conversion

theorem unapply?_eq_some_iff {c : Conversion} {s e : String} : c.unapply? s = some e ↔ c.apply e = s := by
  unfold unapply? apply
  rw [Option.bind_eq_some_iff]
  constructor
  · rintro ⟨middle, hmiddle, he⟩
    rw [String.append_assoc, withoutEnding?_eq_some_iff.mp he]
    exact withoutBeginning?_eq_some_iff.mp hmiddle
  · rintro rfl
    exact ⟨e ++ c.tail, withoutBeginning?_eq_some_iff.mpr String.append_assoc.symm,
      withoutEnding?_eq_some_iff.mpr rfl⟩

theorem unapply?_apply (c : Conversion) (e : String) : c.unapply? (c.apply e) = some e :=
  unapply?_eq_some_iff.mpr rfl

theorem length_apply (c : Conversion) (e : String) :
    (c.apply e).length = c.lead.length + e.length + c.tail.length := by
  simp [apply]

theorem unapply?_eq_none {c : Conversion} {s : String} {x : Char} (htail : c.tail.toList.getLast? = some x)
    (hs : s.toList.getLast? ≠ some x) : c.unapply? s = none := by
  rw [Option.eq_none_iff_forall_ne_some]
  intro e he
  apply hs
  rw [← unapply?_eq_some_iff.mp he]
  simp [apply, List.getLast?_append, htail]

section Template

variable {source target template : String}

theorem ofTemplate_eq_ok_iff {c : Conversion} : ofTemplate source target template = .ok c ↔
    c.source = source ∧ c.target = target ∧
      splitFirst hole.toList template.toList = some (c.lead.toList, c.tail.toList) := by
  unfold ofTemplate
  split
  · next lead tail hsplit =>
    rw [hsplit, Except.ok.injEq]
    constructor
    · rintro rfl
      exact ⟨rfl, rfl, by rw [String.toList_ofList, String.toList_ofList]⟩
    · rintro ⟨rfl, rfl, hparts⟩
      cases hparts
      rw [String.ofList_toList, String.ofList_toList]
  · next hnone => simp [hnone]

theorem exists_ofTemplate_eq_ok (h : hole.toList <:+: template.toList) :
    ∃ c, ofTemplate source target template = .ok c := by
  obtain ⟨⟨lead, tail⟩, hsplit⟩ := Option.isSome_iff_exists.mp (splitFirst_isSome_iff.mpr h)
  refine ⟨⟨source, target, String.ofList lead, String.ofList tail⟩, ofTemplate_eq_ok_iff.mpr ⟨rfl, rfl, ?_⟩⟩
  rw [hsplit, String.toList_ofList, String.toList_ofList]

theorem ofTemplate_eq_error (h : ¬ hole.toList <:+: template.toList) :
    ofTemplate source target template = .error (.noHole source target template) := by
  have hnone : splitFirst hole.toList template.toList = none :=
    Option.not_isSome_iff_eq_none.mp (mt splitFirst_isSome_iff.mp h)
  rw [ofTemplate, hnone]

theorem template_of_ofTemplate {c : Conversion} (h : ofTemplate source target template = .ok c) :
    c.template = template := by
  obtain ⟨_, _, hsplit⟩ := ofTemplate_eq_ok_iff.mp h
  rw [Conversion.template, ← String.toList_inj, String.toList_append, String.toList_append]
  exact (splitFirst_append hsplit).symm

/-- Of all holes in the template the conversion fills the first. -/
theorem length_lead_le {c : Conversion} (h : ofTemplate source target template = .ok c) {before after : String}
    (htemplate : template = before ++ hole ++ after) : c.lead.length ≤ before.length := by
  obtain ⟨_, _, hsplit⟩ := ofTemplate_eq_ok_iff.mp h
  rw [← String.length_toList, ← String.length_toList]
  refine length_le_of_splitFirst hsplit (?_ : _ = before.toList ++ hole.toList ++ after.toList)
  rw [htemplate, String.toList_append, String.toList_append]

end Template

/-- A template with a hole makes a conversion that fills the first one, and the conversion can be taken off exactly what
    it was applied to. A template without a hole is refused. -/
theorem ofTemplate_invertible (source target template : String) :
    (hole.toList <:+: template.toList → ∃ c, ofTemplate source target template = .ok c ∧
      c.source = source ∧ c.target = target ∧ c.template = template ∧
      (∀ before after, template = before ++ hole ++ after → c.lead.length ≤ before.length) ∧
      ∀ s e, c.unapply? s = some e ↔ s = c.apply e) ∧
    (¬ hole.toList <:+: template.toList →
      ofTemplate source target template = .error (.noHole source target template)) := by
  refine ⟨fun hhole => ?_, ofTemplate_eq_error⟩
  obtain ⟨c, hc⟩ := exists_ofTemplate_eq_ok hhole
  obtain ⟨hsource, htarget, _⟩ := ofTemplate_eq_ok_iff.mp hc
  refine ⟨c, hc, hsource, htarget, template_of_ofTemplate hc, fun _ _ => length_lead_le hc, ?_⟩
  intro s e
  exact unapply?_eq_some_iff.trans eq_comm

end Conversion

namespace ConversionTable

def Keyed (t : ConversionTable) : Prop := ∀ entry ∈ t.byEnds.entries, entry.1 = (entry.2.source, entry.2.target)

theorem keyed_empty : Keyed {} := by
  intro entry h
  simp at h

theorem Keyed.insertNew {t : ConversionTable} (h : t.Keyed) (c : Conversion) : (t.insertNew c).Keyed := by
  intro entry hentry
  obtain hold | rfl := Table.mem_entries_insertNew hentry
  · exact h entry hold
  · rfl

theorem get?_insertNew (t : ConversionTable) (c : Conversion) (source target : String) :
    (t.insertNew c).get? source target =
      (t.get? source target).or (if (source, target) = (c.source, c.target) then some c else none) :=
  t.byEnds.get?_insertNew (c.source, c.target) (source, target) c

theorem leaving_insertNew (t : ConversionTable) (c : Conversion) (source : String) :
    (t.insertNew c).leaving source =
      if t.byEnds.contains (c.source, c.target) then t.leaving source
      else t.leaving source ++ [c].filter fun c => c.source == source := by
  change ((t.byEnds.insertNew (c.source, c.target) c).entries.map Prod.snd).filter _ = _
  unfold Table.insertNew
  split
  · rfl
  · rw [List.map_append, List.filter_append]
    rfl

theorem Keyed.exists_leaving {t : ConversionTable} (h : t.Keyed) {source target : String}
    (hcontains : t.byEnds.contains (source, target) = true) : ∃ c, (t.leaving source).head? = some c := by
  obtain ⟨c, hc⟩ := Option.isSome_iff_exists.mp hcontains
  have hmem := Table.mem_entries_of_get? hc
  have hends : (source, target) = (c.source, c.target) := h _ hmem
  have hleaving : c ∈ t.leaving source := by
    refine List.mem_filter.mpr ⟨List.mem_map.mpr ⟨_, hmem, rfl⟩, ?_⟩
    rw [(Prod.mk.inj hends).1]
    exact beq_self_eq_true c.source
  exact ⟨_, List.head?_eq_some_head (List.ne_nil_of_mem hleaving)⟩

theorem head?_leaving_insertNew {t : ConversionTable} (h : t.Keyed) (c : Conversion) (source : String) :
    ((t.insertNew c).leaving source).head? =
      (t.leaving source).head?.or (if c.source = source then some c else none) := by
  rw [leaving_insertNew]
  by_cases hcontains : t.byEnds.contains (c.source, c.target) = true
  · rw [if_pos hcontains]
    by_cases hsource : c.source = source
    · obtain ⟨first, hfirst⟩ := h.exists_leaving hcontains
      rw [← hsource, hfirst]
      rfl
    · rw [if_neg hsource, Option.or_none]
  · rw [if_neg hcontains, List.head?_append]
    congr 1
    by_cases hsource : c.source = source
    · simp [hsource]
    · simp [hsource]

def roundTrip? (t : ConversionTable) (expression source target : String) : Option String :=
  (t.convert? expression source target).bind fun converted => t.convert? converted target source

section Pair

variable {t : ConversionTable} {source target : String} {there back : Conversion}
  (hthere : t.get? source target = some there) (hback : t.get? target source = some back)
include hthere hback

theorem convert?_of_pair {e : String} (he : back.unapply? e = none) :
    t.convert? e source target = some (there.apply e) := by
  simp [convert?, hthere, hback, he]

theorem convert?_apply (e : String) : t.convert? (back.apply e) source target = some e := by
  simp [convert?, hthere, hback, back.unapply?_apply]

theorem roundTrip?_apply_apply (e : String) : t.roundTrip? (back.apply (there.apply e)) source target = some e := by
  rw [roundTrip?, convert?_apply hthere hback, Option.bind_some, convert?_apply hback hthere]

/-- An expression comes back unchanged unless it is the way back applied to the way there. -/
theorem roundTrip?_eq_some_iff (hgrows : ∀ e, back.apply (there.apply e) ≠ e) (e : String) :
    t.roundTrip? e source target = some e ↔ ∀ inner, e ≠ back.apply (there.apply inner) := by
  constructor
  · rintro h inner rfl
    rw [roundTrip?_apply_apply hthere hback] at h
    exact hgrows inner (Option.some.inj h).symm
  · intro h
    rw [roundTrip?]
    cases hout : back.unapply? e with
    | none => rw [convert?_of_pair hthere hback hout, Option.bind_some, convert?_apply hback hthere]
    | some converted =>
      -- The first step takes the way back off; the second has to put it on again.
      obtain rfl := Conversion.unapply?_eq_some_iff.mp hout
      have hin : there.unapply? converted = none := by
        rw [Option.eq_none_iff_forall_ne_some]
        intro inner hinner
        exact h inner (by rw [Conversion.unapply?_eq_some_iff.mp hinner])
      rw [convert?_apply hthere hback, Option.bind_some, convert?_of_pair hback hthere hin]

end Pair

end ConversionTable

end Introspection
