/-! # Queues

What is put in first comes out first. A queue is seen through `toList`, the oldest item first. Each
operation takes constant time on average, so a long queue costs no more per item than a short one.
-/

namespace VoiceBus

/-- Items in the order in which they came. -/
structure Queue (α : Type) where
  /-- The oldest items, the oldest first. -/
  front : List α := []
  /-- The items that came after those, the newest first. -/
  back : List α := []
  size : Nat := 0
  size_eq : size = front.length + back.length := by rfl
  deriving DecidableEq, Repr

namespace Queue

variable {α : Type}

def empty : Queue α := {}

instance : Inhabited (Queue α) := ⟨empty⟩

/-- The items, the oldest first. -/
def toList (queue : Queue α) : List α := queue.front ++ queue.back.reverse

def push (queue : Queue α) (item : α) : Queue α where
  front := queue.front
  back := item :: queue.back
  size := queue.size + 1
  size_eq := by rw [queue.size_eq, List.length_cons, Nat.add_assoc]

def pop? (queue : Queue α) : Option (α × Queue α) :=
  match oldest : queue.front with
  | item :: rest =>
    some (item, {
      front := rest
      back := queue.back
      size := queue.size - 1
      size_eq := by rw [queue.size_eq, oldest, List.length_cons]; omega })
  | [] =>
    match newer : queue.back.reverse with
    | item :: rest =>
      some (item, {
        front := rest
        size := queue.size - 1
        size_eq := by
          have held := congrArg List.length newer
          simp only [List.length_reverse, List.length_cons] at held
          simp [queue.size_eq, oldest, held] })
    | [] => none

/-! ## What `toList` sees -/

@[simp] theorem toList_empty : (empty : Queue α).toList = [] := rfl

@[simp] theorem toList_push (queue : Queue α) (item : α) :
    (queue.push item).toList = queue.toList ++ [item] := by
  simp [toList, push]

theorem size_eq_length (queue : Queue α) : queue.size = queue.toList.length := by
  rw [queue.size_eq, toList, List.length_append, List.length_reverse]

theorem pop?_eq_none_iff {queue : Queue α} : queue.pop? = none ↔ queue.toList = [] := by
  unfold pop? toList
  split
  · simp [*]
  · split <;> simp_all

theorem toList_of_pop? {queue rest : Queue α} {item : α} (h : queue.pop? = some (item, rest)) :
    queue.toList = item :: rest.toList := by
  revert h
  unfold pop? toList
  split
  · rintro ⟨⟩
    simp [*]
  · split
    · rintro ⟨⟩
      simp [*]
    · rintro ⟨⟩

end Queue

end VoiceBus
