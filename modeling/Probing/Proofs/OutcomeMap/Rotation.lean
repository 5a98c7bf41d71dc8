import Mathlib.Data.List.DropRight
import Mathlib.Data.List.Rotate

/-!
# Rings of slots

A full list of slots is overwritten from its start, so the slots in storage order are a rotation of
the order in which they were written. `Holds slots position history` says that, read from the write
position around the end, the slots are the last entries of the history, behind as many empty slots
as the history is too short. The statement does not distinguish a ring that is still being filled
from one that has wrapped, which is why one lemma covers every write.

## Main definitions

* `writePosition`: where the next entry goes, as a function of the number of entries so far
* `Holds`: the slots hold the end of a history

## Main results

* `Holds.write`: writing at the write position appends to the history
* `Holds.grow`: a full ring that has not wrapped may be extended by empty slots
* `Holds.slots_eq_of_le`, `Holds.rotate_eq_of_le`: the two regimes
-/

namespace Probing.Ring

variable {α : Type}

/-! ## Lists -/

theorem rotate_set_succ {l : List α} {p : Nat} (hp : p < l.length) (x : α) :
    (l.set p x).rotate (p + 1) = (l.rotate p).tail ++ [x] := by
  have hset : (l.set p x).length = l.length := List.length_set ..
  rw [List.rotate_eq_drop_append_take (by omega), List.rotate_eq_drop_append_take hp.le,
    List.drop_set_of_lt (by omega), List.tail_append_of_ne_nil (by simpa using hp),
    List.tail_drop, List.append_assoc]
  congr 1
  rw [List.take_add_one, List.take_set_of_le (Nat.le_refl p)]
  simp [hp]

theorem rtake_concat {l : List α} {n : Nat} (hn : 0 < n) (hl : n ≤ l.length) (x : α) :
    (l ++ [x]).rtake n = (l.rtake n).tail ++ [x] := by
  obtain ⟨m, rfl⟩ : ∃ m, n = m + 1 := ⟨n - 1, by omega⟩
  rw [List.rtake_concat_succ, List.rtake, List.rtake, List.tail_drop]
  congr 2
  omega

theorem rtake_replicate_append {l : List α} {n : Nat} (h : l.length ≤ n) (x : α) :
    (List.replicate n x ++ l).rtake n = List.replicate (n - l.length) x ++ l := by
  rw [List.rtake, List.length_append, List.length_replicate, Nat.add_sub_cancel_left,
    List.drop_append_of_le_length (by simpa using h), List.drop_replicate]

/-! ## The write position -/

/-- One past the slot written last in a ring of `capacity` slots after `recorded` entries. -/
def writePosition (capacity recorded : Nat) : Nat :=
  if recorded = 0 then 0 else (recorded - 1) % capacity + 1

theorem writePosition_zero (capacity : Nat) : writePosition capacity 0 = 0 := rfl

theorem writePosition_succ (capacity recorded : Nat) :
    writePosition capacity (recorded + 1) = recorded % capacity + 1 := by
  simp [writePosition]

theorem writePosition_le {capacity : Nat} (hc : 0 < capacity) (recorded : Nat) :
    writePosition capacity recorded ≤ capacity := by
  unfold writePosition
  split
  · exact Nat.zero_le _
  · exact Nat.mod_lt _ hc

theorem writePosition_of_le {capacity recorded : Nat} (h : recorded ≤ capacity) :
    writePosition capacity recorded = recorded := by
  cases recorded with
  | zero => rfl
  | succ recorded => rw [writePosition_succ, Nat.mod_eq_of_lt (by omega)]

/-- The next position: from past the last slot back to the first. -/
theorem writePosition_next {capacity : Nat} (hc : 0 < capacity) (recorded : Nat) :
    writePosition capacity (recorded + 1) =
      (if writePosition capacity recorded = capacity then 0
        else writePosition capacity recorded) + 1 := by
  rw [writePosition_succ, Nat.add_right_cancel_iff]
  cases recorded with
  | zero => rw [writePosition_zero, ite_self, Nat.zero_mod]
  | succ recorded =>
    rw [writePosition_succ, ← Nat.mod_add_mod]
    split
    · next hfull => rw [hfull, Nat.mod_self]
    · next hfull =>
      have hlt := Nat.mod_lt recorded hc
      exact Nat.mod_eq_of_lt (by omega)

/-! ## What a ring holds -/

/-- The slots, read from the write position on and around the end, are the last entries of the
history, behind as many `empty` slots as there are entries missing. -/
structure Holds (empty : α) (slots : List α) (history : List α) : Prop where
  rotate_eq : slots.rotate (writePosition slots.length history.length) =
    (List.replicate slots.length empty ++ history).rtake slots.length

variable {empty : α} {slots history : List α}

theorem holds_replicate (empty : α) (n : Nat) : Holds empty (List.replicate n empty) [] := by
  constructor
  rw [List.rotate_replicate, List.append_nil, List.length_replicate, List.rtake,
    List.length_replicate, Nat.sub_self, List.drop_zero]

/-- The slots with an entry at the write position. -/
def put (slots : List α) (position : Nat) (entry : α) : List α :=
  slots.set (if position = slots.length then 0 else position) entry

/-- **Writing appends to the history**, whether or not the ring has wrapped. -/
theorem Holds.write (h : Holds empty slots history) (hne : 0 < slots.length) (entry : α) :
    Holds empty (put slots (writePosition slots.length history.length) entry)
      (history ++ [entry]) := by
  have hle := writePosition_le hne history.length
  constructor
  unfold put
  -- Forgetting the oldest entry is rotating by one slot more.
  rw [List.length_set, List.length_append, List.length_singleton, writePosition_next hne,
    ← List.append_assoc, rtake_concat hne (by simp), ← h.rotate_eq]
  split
  · next hfull =>
    rw [rotate_set_succ hne, List.rotate_zero, hfull, List.rotate_length]
  · next hfull => rw [rotate_set_succ (by omega)]

/-- While no entry was overwritten the slots are the history and then empty slots. -/
theorem Holds.slots_eq_of_le (h : Holds empty slots history)
    (hle : history.length ≤ slots.length) :
    slots = history ++ List.replicate (slots.length - history.length) empty := by
  have hrotate := h.rotate_eq
  rw [writePosition_of_le hle, List.rotate_eq_drop_append_take hle,
    rtake_replicate_append hle] at hrotate
  obtain ⟨hdrop, htake⟩ := List.append_inj hrotate (by simp)
  calc slots = slots.take history.length ++ slots.drop history.length :=
        (List.take_append_drop history.length slots).symm
    _ = history ++ List.replicate (slots.length - history.length) empty := by rw [htake, hdrop]

/-- From the first full ring on the slots are a rotation of the end of the history. -/
theorem Holds.rotate_eq_of_le (h : Holds empty slots history)
    (hle : slots.length ≤ history.length) :
    slots.rotate (writePosition slots.length history.length) = history.rtake slots.length := by
  rw [h.rotate_eq, List.rtake, List.rtake, List.length_append, List.length_replicate,
    List.drop_append]
  simp [hle]

/-- A full ring in which nothing was overwritten holds the same history with more slots. -/
theorem Holds.grow (h : Holds empty slots history) (hfull : history.length = slots.length)
    (extra : Nat) : Holds empty (slots ++ List.replicate extra empty) history := by
  have hslots := h.slots_eq_of_le hfull.le
  rw [hfull, Nat.sub_self, List.replicate_zero, List.append_nil] at hslots
  subst hslots
  constructor
  rw [List.length_append, writePosition_of_le (by omega), List.rotate_append_length_eq,
    rtake_replicate_append (by omega), List.length_replicate, Nat.add_sub_cancel_left]

end Probing.Ring
