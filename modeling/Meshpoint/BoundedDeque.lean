import Mathlib.Order.Basic
import Mathlib.Data.List.Basic
import Mathlib.Data.List.Pairwise

/-!
# Queues of bounded length

`collections.deque(maxlen)`: appending to a full queue drops its oldest item.  The bound is a
field, so a queue that is too long cannot be built.

The oldest item is popped (`popleft_eq_some_iff`), and an append to a full queue drops the
oldest one, counting the new item (`items_append_of_full`).
-/

universe u

/-- A queue of at most `maxLen` items, oldest first. -/
structure BoundedDeque (α : Type u) (maxLen : Nat) where
  items : List α
  length_le : items.length ≤ maxLen

namespace BoundedDeque

variable {α : Type u} {maxLen : Nat}

def empty : BoundedDeque α maxLen := ⟨[], Nat.zero_le _⟩

@[simp] theorem items_empty : (empty : BoundedDeque α maxLen).items = [] := rfl

def isFull (d : BoundedDeque α maxLen) : Bool := decide (d.items.length = maxLen)

/-- `d.append(x)`. -/
def append (d : BoundedDeque α maxLen) (x : α) : BoundedDeque α maxLen :=
  ⟨(d.items ++ [x]).drop (d.items.length + 1 - maxLen), by
    rw [List.length_drop, List.length_append, List.length_singleton]
    omega⟩

/-- `d.popleft()`; `none` when it raises. -/
def popleft : BoundedDeque α maxLen → Option (α × BoundedDeque α maxLen)
  | ⟨[], _⟩ => none
  | ⟨x :: rest, h⟩ => some (x, ⟨rest, Nat.le_of_succ_le h⟩)

theorem items_append (d : BoundedDeque α maxLen) (x : α) :
    (d.append x).items = (d.items ++ [x]).drop (d.items.length + 1 - maxLen) := rfl

theorem items_append_of_not_full {d : BoundedDeque α maxLen} (h : d.isFull = false) (x : α) :
    (d.append x).items = d.items ++ [x] := by
  have hne : d.items.length ≠ maxLen := by simpa [isFull] using h
  have hle := d.length_le
  have hdrop : d.items.length + 1 - maxLen = 0 := by omega
  rw [items_append, hdrop, List.drop_zero]

theorem items_append_of_full {d : BoundedDeque α maxLen} (h : d.isFull = true) (x : α) :
    (d.append x).items = (d.items ++ [x]).tail := by
  have heq : d.items.length = maxLen := by simpa [isFull] using h
  have hdrop : d.items.length + 1 - maxLen = 1 := by omega
  rw [items_append, hdrop, List.drop_one]

theorem popleft_eq_some_iff {d rest : BoundedDeque α maxLen} {x : α} :
    d.popleft = some (x, rest) ↔ d.items = x :: rest.items := by
  obtain ⟨items, hle⟩ := d
  obtain ⟨tail, htail⟩ := rest
  cases items with
  | nil => simp [popleft]
  | cons y items => simp [popleft]

theorem popleft_isSome {d : BoundedDeque α maxLen} (h : d.items ≠ []) :
    ∃ x rest, d.popleft = some (x, rest) := by
  obtain ⟨items, hle⟩ := d
  cases items with
  | nil => exact absurd rfl h
  | cons x rest => exact ⟨x, ⟨rest, Nat.le_of_succ_le hle⟩, rfl⟩

end BoundedDeque
