import Introspection.Proofs.Repository.Declarations
import Mathlib.Data.List.Nodup

set_option autoImplicit false

namespace Introspection

open Markup Text

section Occurrences

variable {α : Type} (key : α → String)

theorem occurring_filter (again : Bool) (p : String → Bool) (xs : List α) :
    (occurring key again xs).filter (fun x => p (key x)) = occurring key again (xs.filter fun x => p (key x)) := by
  induction xs using List.reverseRecOn with
  | nil => rfl
  | append_singleton xs x ih =>
    rw [occurring_concat, List.filter_append, ih, List.filter_append]
    cases hx : p (key x) with
    | false =>
      have hnone : [x].filter (fun y => p (key y)) = [] := by simp [hx]
      rw [hnone, List.append_nil]
      split <;> simp [hx]
    | true =>
      have hone : [x].filter (fun y => p (key y)) = [x] := by simp [hx]
      -- Whatever has the key of `x` passes the test with it, so none of it is missing from the filtered list.
      have hcontains : ((xs.filter fun y => p (key y)).map key).contains (key x) = (xs.map key).contains (key x) := by
        rw [Bool.eq_iff_iff, List.contains_iff_mem, List.contains_iff_mem, List.mem_map, List.mem_map]
        constructor
        · rintro ⟨y, hy, heq⟩
          exact ⟨y, (List.mem_filter.mp hy).1, heq⟩
        · rintro ⟨y, hy, heq⟩
          exact ⟨y, List.mem_filter.mpr ⟨hy, heq ▸ hx⟩, heq⟩
      rw [hone, occurring_concat, hcontains]
      split <;> simp [hx]

theorem length_firsts_add_length_repeats (xs : List α) :
    (firsts key xs).length + (repeats key xs).length = xs.length := by
  induction xs using List.reverseRecOn with
  | nil => rfl
  | append_singleton xs x ih =>
    rw [firsts_concat, repeats_concat]
    split <;> simp <;> omega

theorem nodup_map_concat_iff (xs : List α) (x : α) :
    ((xs ++ [x]).map key).Nodup ↔ (xs.map key).Nodup ∧ key x ∉ xs.map key := by
  rw [List.map_append, List.map_singleton, ← List.concat_eq_append, List.nodup_concat, and_comm]

theorem repeats_eq_nil_iff {xs : List α} : repeats key xs = [] ↔ (xs.map key).Nodup := by
  induction xs using List.reverseRecOn with
  | nil => exact iff_of_true rfl List.nodup_nil
  | append_singleton xs x ih =>
    rw [repeats_concat, nodup_map_concat_iff, List.append_eq_nil_iff, ih]
    simp

theorem firsts_eq_self {xs : List α} (h : (xs.map key).Nodup) : firsts key xs = xs := by
  induction xs using List.reverseRecOn with
  | nil => rfl
  | append_singleton xs x ih =>
    obtain ⟨hxs, hx⟩ := (nodup_map_concat_iff key xs x).mp h
    rw [firsts_concat, if_neg hx, ih hxs]

end Occurrences

/-- Whether a name is of the form that is given to declarations without a name. -/
def isSynthetic (name : String) : Bool :=
  match withoutBeginning? "Unknown" name with
  | some digits => digits != "" && digits.toList.all Char.isDigit
  | none => false

theorem unnamed_injective : Function.Injective unnamed := by
  intro i j h
  have hdigits : toString i = toString j := (String.append_right_inj "Unknown").mp h
  rw [Nat.toString_eq_ofList_toDigits, Nat.toString_eq_ofList_toDigits, String.ofList_inj] at hdigits
  rw [← Nat.ofDigitChars_ten_toDigits (n := i), hdigits, Nat.ofDigitChars_ten_toDigits]

theorem isSynthetic_unnamed (index : Nat) : isSynthetic (unnamed index) = true := by
  have hrest : withoutBeginning? "Unknown" (unnamed index) = some (String.ofList (Nat.toDigits 10 index)) := by
    unfold withoutBeginning? unnamed
    rw [Nat.toString_eq_ofList_toDigits, String.toList_append, List.isPrefixOf?_eq_some_iff_append_eq.mpr rfl, Option.map_some,
      String.ofList_toList]
  have hsome : String.ofList (Nat.toDigits 10 index) ≠ "" := by
    simp [Nat.toDigits_ne_nil]
  have hdigits : ∀ c ∈ Nat.toDigits 10 index, c.isDigit = true :=
    fun c hc => Nat.isDigit_of_mem_toDigits (by decide) (by decide) hc
  simpa [isSynthetic, hrest, hsome] using hdigits

namespace Placed

def isUnnamed (p : Placed) : Bool := (p.1.attribute? "name").isNone

def unnamedIn (texts : List String) : List Placed := (texts.flatMap inText).filter isUnnamed

theorem name_of_isUnnamed {p : Placed} (h : p.isUnnamed = true) : p.name = unnamed p.2 := by
  unfold name
  rw [Option.isNone_iff_eq_none.mp h, Option.getD_none]

theorem map_name_unnamedIn (texts : List String) :
    (unnamedIn texts).map name = ((unnamedIn texts).map Prod.snd).map unnamed := by
  rw [List.map_map]
  exact List.map_congr_left fun p hp => name_of_isUnnamed (List.mem_filter.mp hp).2

/-- No name that is given in the texts is of the form that is made up. -/
def NamesApart (texts : List String) : Prop :=
  ∀ p ∈ texts.flatMap inText, (p.1.attribute? "name").any isSynthetic = false

instance (texts : List String) : Decidable (NamesApart texts) := inferInstanceAs (Decidable (∀ _ ∈ _, _))

theorem filter_isSynthetic {texts : List String} (h : NamesApart texts) :
    (texts.flatMap inText).filter (fun p => isSynthetic p.name) = unnamedIn texts := by
  apply List.filter_congr
  intro p hp
  cases hname : p.1.attribute? "name" with
  | none =>
    have hunnamed : p.isUnnamed = true := by rw [isUnnamed, hname]; rfl
    rw [hunnamed, name_of_isUnnamed hunnamed, isSynthetic_unnamed]
  | some given =>
    have hgiven := h p hp
    rw [hname] at hgiven
    rw [name, isUnnamed, hname]
    exact hgiven

end Placed

namespace Builder.Accounts

variable {b : Builder} {texts : List String}

theorem unnamed_entities (h : b.Accounts (texts.flatMap Placed.inText)) (hnames : Placed.NamesApart texts) :
    b.registry.entities.filter (fun d => isSynthetic d.name) =
      (firsts Placed.name (Placed.unnamedIn texts)).map Placed.declaration := by
  rw [h.entities, List.filter_map, firsts, firsts, ← Placed.filter_isSynthetic hnames,
    ← occurring_filter Placed.name false isSynthetic]
  simp only [Function.comp_def, Placed.declaration_name]

theorem unnamed_duplicates_iff (h : b.Accounts (texts.flatMap Placed.inText)) (hnames : Placed.NamesApart texts) :
    (∀ kind name, isSynthetic name = true → Warning.duplicate kind name ∉ b.registry.warnings) ↔
      repeats Placed.name (Placed.unnamedIn texts) = [] := by
  have hmem : ∀ kind name, Warning.duplicate kind name ∈ b.registry.warnings ↔
      ∃ p ∈ repeats Placed.name (texts.flatMap Placed.inText), p.declaration.kind = kind ∧ p.name = name := by
    intro kind name
    have hfilter : Warning.duplicate kind name ∈ b.registry.warnings ↔
        Warning.duplicate kind name ∈ b.registry.warnings.filter Warning.isDuplicate := by
      rw [List.mem_filter]
      exact (and_iff_left rfl).symm
    rw [hfilter, h.duplicates, List.mem_map]
    simp only [Warning.duplicate.injEq]
  rw [← Placed.filter_isSynthetic hnames, repeats, ← occurring_filter Placed.name true isSynthetic,
    List.filter_eq_nil_iff]
  constructor
  · intro hnone p hp hsynthetic
    exact hnone _ _ hsynthetic ((hmem _ _).mpr ⟨p, hp, rfl, rfl⟩)
  · intro hnone kind name hsynthetic hwarned
    obtain ⟨p, hp, _, rfl⟩ := (hmem _ _).mp hwarned
    exact hnone p hp hsynthetic

end Builder.Accounts

namespace Repository

/-- If no declaration is given a name of the made-up form, then the registry keeps every unnamed declaration, in
    order, no warning about a duplicate has a made-up name, and the unnamed declarations have different names, each of
    the three exactly if no two of them have the same position in a stage, be it in another stage, namespace or text. -/
theorem ofTexts_unnamed_kept_iff (texts : List String) (hnames : Placed.NamesApart texts) :
    ((ofTexts texts).registry.entities.filter (fun d => isSynthetic d.name) =
        (Placed.unnamedIn texts).map Placed.declaration ↔ ((Placed.unnamedIn texts).map Prod.snd).Nodup) ∧
    ((∀ kind name, isSynthetic name = true →
        Warning.duplicate kind name ∉ (ofTexts texts).registry.warnings) ↔
      ((Placed.unnamedIn texts).map Prod.snd).Nodup) ∧
    (((Placed.unnamedIn texts).map Placed.name).Nodup ↔ ((Placed.unnamedIn texts).map Prod.snd).Nodup) := by
  have haccounts : (({} : Loader).attemptAll texts).1.builder.Accounts (texts.flatMap Placed.inText) :=
    Loader.accounts_attemptAll (l := {}) Builder.Accounts.empty texts
  have hpositions : ((Placed.unnamedIn texts).map Placed.name).Nodup ↔
      ((Placed.unnamedIn texts).map Prod.snd).Nodup := by
    rw [Placed.map_name_unnamedIn, List.nodup_map_iff unnamed_injective]
  have hlengths := length_firsts_add_length_repeats Placed.name (Placed.unnamedIn texts)
  refine ⟨?_, ?_, hpositions⟩
  · have hkept := haccounts.unnamed_entities hnames
    rw [← hpositions]
    constructor
    · intro hall
      have hsame := congrArg List.length (hkept.symm.trans hall)
      rw [List.length_map, List.length_map] at hsame
      exact (repeats_eq_nil_iff Placed.name).mp (List.length_eq_zero_iff.mp (by omega))
    · intro hdistinct
      exact hkept.trans (congrArg _ (firsts_eq_self Placed.name hdistinct))
  · exact (haccounts.unnamed_duplicates_iff hnames).trans ((repeats_eq_nil_iff Placed.name).trans hpositions)

theorem ofTexts_unnamed_kept_apart :
    let texts := ["<repository><namespace name='Test'><record/><class name='A'/><class/></namespace></repository>"]
    let registry := (ofTexts texts).registry
    Placed.NamesApart texts ∧ (Placed.unnamedIn texts).map Prod.snd = [0, 1] ∧
      registry.entities.filter (fun d => isSynthetic d.name) = (Placed.unnamedIn texts).map Placed.declaration ∧
      (∀ kind name, isSynthetic name = true → Warning.duplicate kind name ∉ registry.warnings) ∧
      ((Placed.unnamedIn texts).map Placed.name).Nodup := by
  intro texts registry
  have hnames : Placed.NamesApart texts := by decide +kernel
  have hpositions : (Placed.unnamedIn texts).map Prod.snd = [0, 1] := by decide +kernel
  have hdistinct : ((Placed.unnamedIn texts).map Prod.snd).Nodup := by rw [hpositions]; decide
  obtain ⟨hkept, hwarnings, hdifferent⟩ := ofTexts_unnamed_kept_iff texts hnames
  exact ⟨hnames, hpositions, hkept.mpr hdistinct, hwarnings.mpr hdistinct, hdifferent.mpr hdistinct⟩

/-- The first record and the first class of a namespace, both without a name, share one: the class is dropped. -/
theorem ofTexts_unnamed_dropped :
    let texts := ["<repository><namespace name='Test'><record/><class/></namespace></repository>"]
    let registry := (ofTexts texts).registry
    Placed.NamesApart texts ∧ (Placed.unnamedIn texts).map Placed.name = ["Unknown0", "Unknown0"] ∧
      registry.entities.map Declaration.kind = ["Record"] ∧
      Warning.duplicate "Class" "Unknown0" ∈ registry.warnings := by
  decide +kernel

end Repository

end Introspection
