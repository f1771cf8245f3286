import Introspection.Proofs.Text.ByteOrder
import Introspection.Proofs.Text.Pieces
import Introspection.Repository.Basic
import Mathlib.Data.Prod.Lex

set_option autoImplicit false

namespace Introspection

open Text

/-- More bytes come first, and of equally many the smaller ones. -/
def LongestFirst (a b : String) : Prop :=
  (utf8Bytes b).length < (utf8Bytes a).length ∨
    (utf8Bytes a).length = (utf8Bytes b).length ∧ utf8Bytes a ≤ utf8Bytes b

def stemRank (s : String) : ℕᵒᵈ ×ₗ String := toLex (OrderDual.toDual s.utf8ByteSize, s)

theorem stemRank_injective : Function.Injective stemRank := fun _ _ h => congrArg (fun key => (ofLex key).2) h

theorem stemBefore_iff_rank_le {a b : String} : stemBefore a b = true ↔ stemRank a ≤ stemRank b := by
  simp [stemBefore, stemRank, Prod.Lex.toLex_le_toLex]

theorem stemBefore_iff_longestFirst {a b : String} : stemBefore a b = true ↔ LongestFirst a b := by
  rw [LongestFirst, length_utf8Bytes, length_utf8Bytes, utf8Bytes_le_utf8Bytes_iff]
  simp [stemBefore]

theorem pairwise_mergeSort_stemBefore (parts : List String) :
    (parts.mergeSort stemBefore).Pairwise fun a b => stemBefore a b = true := by
  apply List.pairwise_mergeSort
  · intro a b c hab hbc
    rw [stemBefore_iff_rank_le] at *
    exact hab.trans hbc
  · intro a b
    rw [Bool.or_eq_true, stemBefore_iff_rank_le, stemBefore_iff_rank_le]
    exact le_total _ _

/-- What is sorted is all that matters, not the order that it came in. -/
theorem mergeSort_stemBefore_eq {parts parts' : List String} (h : parts.Perm parts') :
    parts.mergeSort stemBefore = parts'.mergeSort stemBefore := by
  refine List.Perm.eq_of_pairwise ?_ (pairwise_mergeSort_stemBefore parts) (pairwise_mergeSort_stemBefore parts') ?_
  · intro a b _ _ hab hba
    rw [stemBefore_iff_rank_le] at hab hba
    exact stemRank_injective (le_antisymm hab hba)
  · exact (List.mergeSort_perm parts _).trans (h.trans (List.mergeSort_perm parts' _).symm)

def segments (list : String) : List String := (list.toList.splitOn ',').map String.ofList

theorem segments_ne_nil (list : String) : segments list ≠ [] := by
  simp [segments]

theorem comma_not_mem_segment {list part : String} (h : part ∈ segments list) : ',' ∉ part.toList := by
  obtain ⟨piece, hpiece, rfl⟩ := List.mem_map.mp h
  rw [String.toList_ofList]
  intro hcomma
  exact absurd (eq_false_of_mem_splitOnP hpiece ',' hcomma) (by decide)

theorem segments_intercalate {parts : List String} (hne : parts ≠ []) (hcomma : ∀ part ∈ parts, ',' ∉ part.toList) :
    segments (",".intercalate parts) = parts := by
  have hpieces : ∀ piece ∈ parts.map String.toList, ',' ∉ piece := by
    simpa using hcomma
  unfold segments
  rw [String.toList_intercalate]
  change (([','].intercalate (parts.map String.toList)).splitOn ',').map String.ofList = parts
  rw [List.splitOn_intercalate ',' hpieces (by simpa using hne), List.map_map]
  simp [Function.comp_def]

def trimmedSegments (list : String) : List String := ((segments list).map trim).filter (· ≠ "")

theorem trim_trim (s : String) : trim (trim s) = trim s := by
  rw [trim, trim, String.toList_ofList, dropBlankEnds_idempotent]

theorem comma_not_mem_trimmedSegment {list part : String} (h : part ∈ trimmedSegments list) : ',' ∉ part.toList := by
  obtain ⟨segment, hsegment, rfl⟩ := List.mem_map.mp (List.mem_filter.mp h).1
  rw [trim, String.toList_ofList]
  intro hcomma
  exact comma_not_mem_segment hsegment (dropBlankEnds_subset _ hcomma)

theorem trimmedSegments_intercalate {list : String} {parts : List String}
    (h : ∀ part ∈ parts, part ∈ trimmedSegments list) : trimmedSegments (",".intercalate parts) = parts := by
  cases parts with
  | nil => decide
  | cons part rest =>
    have htrim : ∀ s ∈ part :: rest, trim s = id s := by
      intro s hs
      obtain ⟨segment, _, rfl⟩ := List.mem_map.mp (List.mem_filter.mp (h s hs)).1
      exact trim_trim segment
    rw [trimmedSegments, segments_intercalate (by simp) fun s hs => comma_not_mem_trimmedSegment (h s hs),
      List.map_congr_left htrim, List.map_id, List.filter_eq_self]
    intro s hs
    exact (List.mem_filter.mp (h s hs)).2

theorem stems_eq (list : String) : stems list = (trimmedSegments list).mergeSort stemBefore := by
  have htrim : ∀ piece, trim (String.ofList piece) = String.ofList (dropBlankEnds piece) := by
    intro piece
    rw [trim, String.toList_ofList]
  have hfilter : (fun part : String => part != "") = fun part => decide (part ≠ "") := by
    funext part
    rw [bne, Bool.beq_eq_decide_eq, decide_not]
  unfold stems trimmedSegments segments
  rw [List.map_map, hfilter]
  simp only [Function.comp_def, htrim]
  rfl

theorem stems_perm (list : String) : (stems list).Perm (trimmedSegments list) := by
  rw [stems_eq]
  exact List.mergeSort_perm _ _

theorem stems_eq_of_perm {list list' : String} (h : (trimmedSegments list).Perm (trimmedSegments list')) :
    stems list = stems list' := by
  rw [stems_eq, stems_eq]
  exact mergeSort_stemBefore_eq h

/-- Stems are the segments that are not blank, each as often as it is written, trimmed and with the longest first. No
    order of the segments gives other stems, and the stems are the ones of their own list. -/
theorem stems_canonical (list : String) :
    (stems list).Perm (((segments list).map trim).filter (· ≠ "")) ∧ (stems list).Pairwise LongestFirst ∧
    (∀ parts : List String, parts.Perm (segments list) → stems (",".intercalate parts) = stems list) ∧
    stems (",".intercalate (stems list)) = stems list := by
  refine ⟨stems_perm list, ?_, ?_, ?_⟩
  · rw [stems_eq]
    exact (pairwise_mergeSort_stemBefore _).imp stemBefore_iff_longestFirst.mp
  · intro parts hparts
    have hne : parts ≠ [] := fun h => segments_ne_nil list (List.perm_nil.mp (h ▸ hparts.symm))
    have hsegments : segments (",".intercalate parts) = parts :=
      segments_intercalate hne fun part hpart => comma_not_mem_segment (hparts.mem_iff.mp hpart)
    apply stems_eq_of_perm
    rw [trimmedSegments, hsegments]
    exact (hparts.map trim).filter _
  · apply stems_eq_of_perm
    rw [trimmedSegments_intercalate fun part hpart => (stems_perm list).mem_iff.mp hpart]
    exact stems_perm list

example : stems "G, Gtk ,,Gdk,G" = ["Gdk", "Gtk", "G", "G"] := by cbv

end Introspection
