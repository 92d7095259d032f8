import Mathlib.Algebra.BigOperators.Group.Finset.Piecewise
import VoiceBus.Table

/-! # Counting what a table holds

A count over the entries is a sum over keys, so it is seen through `get?` too.
-/

namespace VoiceBus.Table

variable {α : Type}

theorem countP_eq_sum (test : String → α → Bool) {entries : List (String × α)}
    (distinct : (entries.map Prod.fst).Nodup) {keys : Finset String}
    (within : ∀ entry ∈ entries, entry.1 ∈ keys) :
    (entries.countP fun entry => test entry.1 entry.2) =
      ∑ key ∈ keys, if (entries.lookup key).any (test key) then 1 else 0 := by
  induction entries with
  | nil => simp
  | cons entry rest ih =>
    obtain ⟨name, value⟩ := entry
    rw [List.map_cons, List.nodup_cons] at distinct
    rw [List.forall_mem_cons] at within
    -- the key of the first entry is found here and nowhere later
    have split (key : String) :
        (if (((name, value) :: rest).lookup key).any (test key) then 1 else 0) =
          (if (rest.lookup key).any (test key) then 1 else 0) +
            if key = name then (if test name value then 1 else 0) else 0 := by
      by_cases same : key = name
      · subst same
        simp [lookup_eq_none_of_notMem distinct.1]
      · have other : (key == name) = false := by simpa using same
        simp [List.lookup_cons, other, same]
    rw [List.countP_cons, ih distinct.2 within.2, Finset.sum_congr rfl fun key _ => split key,
      Finset.sum_add_distrib, Finset.sum_ite_eq', if_pos within.1]

theorem count_eq_sum (test : String → α → Bool) {table : Table α} (keys : Finset String)
    (within : ∀ key ∉ keys, table.get? key = none) :
    table.count test = ∑ key ∈ keys, if (table.get? key).any (test key) then 1 else 0 := by
  refine countP_eq_sum test table.distinct ?_
  intro entry member
  by_contra outside
  have absent := List.lookup_eq_none_iff.1 (within _ outside) entry member
  simp at absent

theorem exists_card_eq_count (test : String → α → Bool) (table : Table α) :
    ∃ keys : Finset String, (∀ key, key ∈ keys ↔ (table.get? key).any (test key) = true) ∧
      keys.card = table.count test := by
  have within : ∀ key ∉ table.keys.toFinset, table.get? key = none := by
    intro key outside
    exact lookup_eq_none_of_notMem (mt List.mem_toFinset.2 outside)
  refine ⟨table.keys.toFinset.filter fun key => (table.get? key).any (test key) = true, ?_, ?_⟩
  · intro key
    rw [Finset.mem_filter, and_iff_right_iff_imp]
    intro passes
    by_contra outside
    rw [within key outside] at passes
    cases passes
  · rw [table.count_eq_sum _ _ within, Finset.card_filter]

theorem get?_of_mem {table : Table α} {key : String} {value : α}
    (h : (key, value) ∈ table.entries) : table.get? key = some value := by
  obtain ⟨before, later, entries⟩ := List.append_of_mem h
  have distinct := table.distinct
  rw [entries, List.map_append, List.nodup_append] at distinct
  rw [get?, List.lookup_eq_some_iff]
  refine ⟨before, later, entries, fun entry member => bne_iff_ne.2 fun same => ?_⟩
  exact distinct.2.2 key (same ▸ List.mem_map_of_mem member) key (List.mem_cons_self ..) rfl

theorem count_add_count_not (test : String → α → Bool) (table : Table α) :
    table.count test + (table.count fun key value => !test key value) = table.size := by
  have parts := List.length_eq_countP_add_countP
    (fun entry : String × α => test entry.1 entry.2) (l := table.entries)
  simp only [Bool.not_eq_true, Bool.decide_eq_false] at parts
  exact parts.symm

/-! ## Changes in a row -/

theorem get?_erase_insert (table : Table α) (key other : String) (value : α) :
    ((table.insert key value).erase key).get? other = (table.erase key).get? other := by
  by_cases same : other = key
  · rw [same, get?_erase_self, get?_erase_self]
  · rw [get?_erase_of_ne _ same, get?_erase_of_ne _ same, get?_insert_of_ne _ _ same]

theorem get?_set_get? (table : Table α) (key other : String) :
    (table.set key (table.get? key)).get? other = table.get? other := by
  by_cases same : other = key
  · rw [same, get?_set_self]
  · rw [get?_set_of_ne _ _ same]

/-! ## Filtering -/

theorem eq_of_entries_eq {first second : Table α} (same : first.entries = second.entries) :
    first = second := by
  cases first
  cases second
  cases same
  rfl

theorem filter_all (table : Table α) : (table.filter fun _ _ => true) = table :=
  eq_of_entries_eq (List.filter_eq_self.2 fun _ _ => rfl)

theorem filter_filter (keep also : String → α → Bool) (table : Table α) :
    (table.filter keep).filter also =
      table.filter fun key value => keep key value && also key value := by
  refine eq_of_entries_eq (List.filter_filter.trans ?_)
  exact List.filter_congr fun entry _ => Bool.and_comm ..

theorem size_filter (keep : String → α → Bool) (table : Table α) :
    (table.filter keep).size = table.count keep :=
  List.countP_eq_length_filter.symm

theorem size_sub_size_filter (keep : String → α → Bool) (table : Table α) :
    table.size - (table.filter keep).size = table.count fun key value => !keep key value := by
  rw [size_filter, ← count_add_count_not keep table]
  exact Nat.add_sub_cancel_left _ _

end VoiceBus.Table
