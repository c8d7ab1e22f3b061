import Mathlib.Data.List.Basic
import PropertyGen.Table

/-!
Tables and lists of first occurrences: what is found in them, and how they grow at the end.
-/

namespace PropertyGen

namespace Table

variable {α : Type}

theorem get_put (table : Table α) (key : String) (value : α) (name : String) :
    (table.put key value).get? name = if key = name then some value else table.get? name := by
  induction table with
  | nil => by_cases same : key = name <;> simp [put, get?, same]
  | cons entry rest induction =>
      by_cases own : entry.1 = key
      · rw [put, if_pos own]
        by_cases same : key = name <;> simp [get?, own, same]
      · rw [put, if_neg own]
        by_cases first : entry.1 = name
        · have other : key ≠ name := fun same => own (first.trans same.symm)
          simp [get?, first, other]
        · simp only [get?, List.find?_cons, first, decide_false] at induction ⊢
          exact induction

theorem keys_append (first second : Table α) : (first ++ second).keys = first.keys ++ second.keys :=
  List.map_append

theorem mem_keys_put {table : Table α} {key name : String} {value : α} :
    name ∈ (table.put key value).keys ↔ name = key ∨ name ∈ table.keys := by
  induction table with
  | nil => simp [put, keys]
  | cons entry rest induction =>
      by_cases own : entry.1 = key
      · simp [put, keys, own]
      · simp only [keys] at induction
        simp only [put, own, if_false, keys, List.map_cons, List.mem_cons, induction]
        tauto

theorem mem_keys_merge {table : Table α} {name : String} (known : name ∈ table.keys)
    (entries : Table α) : name ∈ (table.merge entries).keys := by
  unfold merge
  induction entries generalizing table with
  | nil => exact known
  | cons entry rest induction => exact induction (mem_keys_put.mpr (.inr known))

section Merge

variable {table entries : Table α} {key : String} {value : α}

theorem put_new (new : key ∉ table.keys) : table.put key value = table ++ [(key, value)] := by
  induction table with
  | nil => rfl
  | cons entry rest induction =>
      have apart := List.ne_of_not_mem_cons new
      rw [put, if_neg (Ne.symm apart), induction (List.not_mem_of_not_mem_cons new)]
      rfl

theorem merge_new (apart : (table.keys ++ entries.keys).Nodup) :
    table.merge entries = table ++ entries := by
  induction entries generalizing table with
  | nil => exact (List.append_nil table).symm
  | cons entry rest induction =>
      have new : entry.1 ∉ table.keys := fun known =>
        (List.nodup_append.mp apart).2.2 entry.1 known entry.1 List.mem_cons_self rfl
      have others : ((table ++ [entry]).keys ++ keys rest).Nodup := by
        rw [keys_append, List.append_assoc]
        exact apart
      show (table.put entry.1 entry.2).merge rest = _
      rw [put_new new, induction others, List.append_assoc]
      rfl

theorem of_entries_apart (apart : entries.keys.Nodup) : ofEntries entries = entries :=
  merge_new apart

theorem get_merge_other (other : key ∉ entries.keys) :
    (table.merge entries).get? key = table.get? key := by
  induction entries generalizing table with
  | nil => rfl
  | cons entry rest induction =>
      have apart := List.ne_of_not_mem_cons other
      show ((table.put entry.1 entry.2).merge rest).get? key = _
      rw [induction (List.not_mem_of_not_mem_cons other), get_put, if_neg (Ne.symm apart)]

theorem get_merge (apart : entries.keys.Nodup) (member : (key, value) ∈ entries) :
    (table.merge entries).get? key = some value := by
  induction entries generalizing table with
  | nil => cases member
  | cons entry rest induction =>
      obtain ⟨own, others⟩ := List.nodup_cons.mp apart
      show ((table.put entry.1 entry.2).merge rest).get? key = _
      rcases List.mem_cons.mp member with rfl | later
      · rw [get_merge_other own, get_put, if_pos rfl]
      · exact induction others later

end Merge

end Table

section Distinct

variable {α : Type} [DecidableEq α]

theorem mem_distinct {element : α} {elements : List α} :
    element ∈ distinct elements ↔ element ∈ elements := by
  induction elements with
  | nil => rfl
  | cons first rest induction =>
      by_cases same : element = first
      · simp [distinct, same]
      · simp [distinct, same, induction]

theorem distinct_nodup (elements : List α) : (distinct elements).Nodup := by
  induction elements with
  | nil => exact List.nodup_nil
  | cons first rest induction =>
      exact List.nodup_cons.mpr ⟨by simp, induction.filter _⟩

theorem distinct_sublist (elements : List α) : (distinct elements).Sublist elements := by
  induction elements with
  | nil => exact List.Sublist.refl _
  | cons first rest induction => exact (List.filter_sublist.trans induction).cons_cons first

theorem distinct_filter (test : α → Bool) (elements : List α) :
    distinct (elements.filter test) = (distinct elements).filter test := by
  induction elements with
  | nil => rfl
  | cons first rest induction =>
      by_cases kept : test first = true
      · simp only [List.filter_cons_of_pos kept, distinct, induction, List.filter_filter,
          Bool.and_comm]
      · rw [List.filter_cons_of_neg kept, distinct, List.filter_cons_of_neg kept, induction,
          List.filter_filter]
        apply List.filter_congr
        intro element _
        by_cases same : element = first
        · rw [same, Bool.eq_false_iff.mpr kept, Bool.false_and]
        · rw [decide_eq_true same, Bool.and_true]

theorem distinct_append (first second : List α) :
    distinct (first ++ second) =
      distinct first ++ (distinct second).filter fun element => element ∉ first := by
  induction first with
  | nil => simp [distinct]
  | cons element rest induction =>
      simp only [List.cons_append, distinct, induction, List.filter_append, List.filter_filter,
        List.mem_cons, not_or, Bool.decide_and]

theorem distinct_concat (elements : List α) (element : α) :
    distinct (elements ++ [element]) =
      if element ∈ elements then distinct elements else distinct elements ++ [element] := by
  rw [distinct_append]
  by_cases known : element ∈ elements <;> simp [distinct, known]

theorem distinct_pairwise (elements : List α) :
    (distinct elements).Pairwise fun first second =>
      elements.idxOf first < elements.idxOf second := by
  induction elements with
  | nil => exact .nil
  | cons element rest induction =>
      have shifted {other : α} (member : other ∈ (distinct rest).filter (· ≠ element)) :
          (element :: rest).idxOf other = rest.idxOf other + 1 := by
        have apart := of_decide_eq_true (List.mem_filter.mp member).2
        exact List.idxOf_cons_ne rest (Ne.symm apart)
      refine List.pairwise_cons.mpr ⟨fun other member => ?_, ?_⟩
      · rw [List.idxOf_cons_self, shifted member]
        omega
      · refine (induction.filter _).imp_of_mem fun firstMember secondMember before => ?_
        rw [shifted firstMember, shifted secondMember]
        omega

/-- Sorting by levels and leaving out what has occurred can change places. -/
theorem distinct_levels (depth : α → Nat) (elements : List α) (count : Nat) :
    distinct ((List.range count).flatMap fun level =>
        elements.filter fun element => depth element = level) =
      (List.range count).flatMap fun level =>
        (distinct elements).filter fun element => depth element = level := by
  induction count with
  | zero => rfl
  | succ count induction =>
      rw [List.range_succ, List.flatMap_append, List.flatMap_append, distinct_append, induction,
        List.flatMap_singleton, List.flatMap_singleton, distinct_filter, List.filter_filter]
      congr 1
      apply List.filter_congr
      intro element _
      by_cases last : depth element = count
      · simp [last]
      · simp [last]

end Distinct

end PropertyGen
