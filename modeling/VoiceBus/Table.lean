/-! # Tables keyed by text

Each key stands once. What a table holds is seen through `get?`; the order of its entries has no
meaning.
-/

namespace VoiceBus

/-- Values by their keys. -/
structure Table (α : Type) where
  entries : List (String × α) := []
  /-- No key stands twice. -/
  distinct : (entries.map Prod.fst).Nodup := by simp

namespace Table

variable {α : Type}

def empty : Table α := {}

instance : Inhabited (Table α) := ⟨empty⟩

def keys (table : Table α) : List String := table.entries.map Prod.fst

def get? (table : Table α) (key : String) : Option α := table.entries.lookup key

/-- The entries that a test accepts. -/
def filter (keep : String → α → Bool) (table : Table α) : Table α where
  entries := table.entries.filter fun entry => keep entry.1 entry.2
  distinct := table.distinct.sublist (List.filter_sublist.map Prod.fst)

def erase (table : Table α) (key : String) : Table α := table.filter fun other _ => other != key

/-- The table with a value under a key, in place of what stood there. -/
def insert (table : Table α) (key : String) (value : α) : Table α where
  entries := (key, value) :: (table.erase key).entries
  distinct := by
    rw [List.map_cons, List.nodup_cons]
    refine ⟨?_, (table.erase key).distinct⟩
    simp [erase, filter]

/-- The table with a value under a key, or without the key. -/
def set (table : Table α) (key : String) : Option α → Table α
  | some value => table.insert key value
  | none => table.erase key

def count (test : String → α → Bool) (table : Table α) : Nat :=
  table.entries.countP fun entry => test entry.1 entry.2

def size (table : Table α) : Nat := table.entries.length

/-! ## What `get?` sees -/

@[simp] theorem get?_empty (key : String) : (empty : Table α).get? key = none := rfl

theorem lookup_eq_none_of_notMem {entries : List (String × α)} {key : String}
    (h : key ∉ entries.map Prod.fst) : entries.lookup key = none :=
  List.lookup_eq_none_iff.2 fun _ member =>
    bne_iff_ne.2 fun same => h (same ▸ List.mem_map_of_mem member)

theorem lookup_filter (keep : String → α → Bool) {entries : List (String × α)}
    (distinct : (entries.map Prod.fst).Nodup) (key : String) :
    (entries.filter fun entry => keep entry.1 entry.2).lookup key =
      (entries.lookup key).filter (keep key) := by
  induction entries with
  | nil => rfl
  | cons entry rest ih =>
    obtain ⟨name, value⟩ := entry
    rw [List.map_cons, List.nodup_cons] at distinct
    have later := ih distinct.2
    by_cases same : key = name
    · subst same
      rw [lookup_eq_none_of_notMem distinct.1] at later
      by_cases kept : keep key value = true
      · simp [kept, Option.filter]
      · simp only [kept, List.filter_cons, List.lookup_cons, BEq.rfl, Option.filter, later,
          Bool.false_eq_true, if_false]
    · have other : (key == name) = false := by simpa using same
      by_cases kept : keep name value = true
      · simpa [kept, List.lookup_cons, other] using later
      · simpa [kept, List.lookup_cons, other] using later

theorem get?_filter (keep : String → α → Bool) (table : Table α) (key : String) :
    (table.filter keep).get? key = (table.get? key).filter (keep key) :=
  lookup_filter keep table.distinct key

@[simp] theorem get?_erase_self (table : Table α) (key : String) :
    (table.erase key).get? key = none := by
  rw [erase, get?_filter]
  simp

theorem get?_erase_of_ne (table : Table α) {key other : String} (h : other ≠ key) :
    (table.erase key).get? other = table.get? other := by
  rw [erase, get?_filter, bne_iff_ne.2 h]
  cases table.get? other <;> rfl

@[simp] theorem get?_insert_self (table : Table α) (key : String) (value : α) :
    (table.insert key value).get? key = some value := by
  simp [get?, insert]

theorem get?_insert_of_ne (table : Table α) {key other : String} (value : α) (h : other ≠ key) :
    (table.insert key value).get? other = table.get? other := by
  have : (other == key) = false := by simpa using h
  simp only [get?, insert, List.lookup_cons, this]
  exact get?_erase_of_ne table h

@[simp] theorem get?_set_self (table : Table α) (key : String) (value : Option α) :
    (table.set key value).get? key = value := by
  cases value <;> simp [set]

theorem get?_set_of_ne (table : Table α) {key other : String} (value : Option α)
    (h : other ≠ key) : (table.set key value).get? other = table.get? other := by
  cases value with
  | none => exact get?_erase_of_ne table h
  | some value => exact get?_insert_of_ne table value h

theorem count_eq_zero {table : Table α} (nothing : ∀ key, table.get? key = none)
    (test : String → α → Bool) : table.count test = 0 := by
  unfold count
  unfold get? at nothing
  cases entries : table.entries with
  | nil => rfl
  | cons entry rest =>
    have found := nothing entry.1
    rw [entries, List.lookup_cons_self] at found
    cases found

end Table

end VoiceBus
