import Mathlib.Tactic.Common

/-!
# Ring buffers

A ring of fixed capacity keeps the latest of what is put into it. When it is full, the oldest slot
is taken and the head moves on.
-/

namespace Rings

structure Ring (α : Type*) where
  slots : Nat → α
  head : Nat
  count : Nat

section Ring

variable {α : Type*}

def Ring.index (cap : Nat) (r : Ring α) (i : Nat) : Nat := (r.head + i) % cap

/-- From the oldest to the latest. -/
def Ring.read (cap : Nat) (r : Ring α) : List α :=
  (List.range r.count).map fun i => r.slots (r.index cap i)

/-- The slot that the next element goes to. -/
def Ring.free (cap : Nat) (r : Ring α) : Nat :=
  if r.count < cap then r.index cap r.count else r.head

def Ring.put (cap : Nat) (r : Ring α) (x : α) : Ring α where
  slots := fun i => if i = r.free cap then x else r.slots i
  head := if r.count < cap then r.head else r.index cap 1
  count := if r.count < cap then r.count + 1 else r.count

/-- What stays in the ring when an element is put into it. -/
def Ring.kept (cap : Nat) (r : Ring α) : List α :=
  if r.count < cap then r.read cap else (r.read cap).tail

structure Ring.Fits (cap : Nat) (r : Ring α) : Prop where
  head_lt : r.head < cap
  count_le : r.count ≤ cap

/-- The last `n` elements. -/
def latest (n : Nat) (l : List α) : List α := l.drop (l.length - n)

variable {cap : Nat} {r : Ring α} {x : α}

theorem wrap {h i : Nat} (hh : h < cap) (hi : i ≤ cap) :
    (h + i) % cap = if h + i < cap then h + i else h + i - cap := by
  split
  · rename_i hlt
    exact Nat.mod_eq_of_lt hlt
  · rename_i hlt
    rw [Nat.mod_eq_sub_mod (by omega), Nat.mod_eq_of_lt (by omega)]

theorem Ring.Fits.index_eq (hr : r.Fits cap) {i : Nat} (hi : i ≤ cap) :
    r.index cap i = if r.head + i < cap then r.head + i else r.head + i - cap :=
  wrap hr.head_lt hi

/-- Different places have different slots. -/
theorem Ring.Fits.index_inj (hr : r.Fits cap) {i j : Nat} (hi : i < cap) (hj : j < cap)
    (h : r.index cap i = r.index cap j) : i = j := by
  have hlt := hr.head_lt
  rw [hr.index_eq (by omega), hr.index_eq (by omega)] at h
  split at h <;> split at h <;> omega

theorem Ring.Fits.put (hr : r.Fits cap) : (r.put cap x).Fits cap := by
  have hlt := hr.head_lt
  have hle := hr.count_le
  constructor
  · rw [Ring.put]
    dsimp only
    split
    · exact hlt
    · exact Nat.mod_lt _ (by omega)
  · rw [Ring.put]
    dsimp only
    split <;> omega

theorem length_read : (r.read cap).length = r.count := by
  rw [Ring.read, List.length_map, List.length_range]

theorem read_put_room (hr : r.Fits cap) (hroom : r.count < cap) :
    (r.put cap x).read cap = r.read cap ++ [x] := by
  have hfree : r.free cap = r.index cap r.count := if_pos hroom
  have hcount : (r.put cap x).count = r.count + 1 := if_pos hroom
  have hindex : ∀ i, (r.put cap x).index cap i = r.index cap i := by
    intro i
    rw [Ring.index, Ring.put]
    dsimp only
    rw [if_pos hroom, Ring.index]
  rw [Ring.read, hcount, List.range_succ, List.map_append, Ring.read]
  congr 1
  · apply List.map_congr_left
    intro i hi
    rw [List.mem_range] at hi
    rw [hindex]
    refine if_neg fun heq => ?_
    rw [hfree] at heq
    have hsame := hr.index_inj (by omega) hroom heq
    omega
  · rw [List.map_singleton, hindex]
    exact congrArg (fun y => [y]) (if_pos hfree.symm)

theorem read_put_full (hr : r.Fits cap) (hfull : ¬ r.count < cap) :
    (r.put cap x).read cap = (r.read cap).tail ++ [x] := by
  have hlt := hr.head_lt
  have hle := hr.count_le
  have hfree : r.free cap = r.head := if_neg hfull
  have hcount : (r.put cap x).count = r.count := if_neg hfull
  have hhead : (r.put cap x).head = r.index cap 1 := if_neg hfull
  have hindex : ∀ i, i < cap → (r.put cap x).index cap i =
      if i + 1 < cap then r.index cap (i + 1) else r.head := by
    intro i hi
    have hone := hr.index_eq (i := 1) (by omega)
    have hnext := (hr.put (x := x)).index_eq (i := i) (by omega)
    rw [hhead] at hnext
    by_cases hlast : i + 1 < cap
    · have hold := hr.index_eq (i := i + 1) (by omega)
      rw [if_pos hlast]
      split at hone <;> split at hnext <;> split at hold <;> omega
    · rw [if_neg hlast]
      split at hone <;> split at hnext <;> omega
  obtain ⟨n, hn⟩ : ∃ n, r.count = n + 1 := ⟨r.count - 1, by omega⟩
  have htail : (r.read cap).tail = (List.range n).map fun i => r.slots (r.index cap (i + 1)) := by
    rw [Ring.read, hn, List.range_succ_eq_map, List.map_cons, List.tail_cons, List.map_map]
    rfl
  rw [Ring.read, hcount, hn, List.range_succ, List.map_append, htail]
  congr 1
  · apply List.map_congr_left
    intro i hi
    rw [List.mem_range] at hi
    rw [hindex i (by omega), if_pos (by omega)]
    refine if_neg fun heq => ?_
    have hzero : r.index cap 0 = r.head := Nat.mod_eq_of_lt hlt
    rw [hfree, ← hzero] at heq
    have hsame := hr.index_inj (by omega) (by omega) heq
    omega
  · rw [List.map_singleton, hindex n (by omega), if_neg (by omega)]
    exact congrArg (fun y => [y]) (if_pos hfree.symm)

theorem read_put (hr : r.Fits cap) : (r.put cap x).read cap = r.kept cap ++ [x] := by
  rw [Ring.kept]
  split
  · rename_i hroom
    exact read_put_room hr hroom
  · rename_i hfull
    exact read_put_full hr hfull

theorem length_latest (n : Nat) (l : List α) : (latest n l).length = min l.length n := by
  rw [latest, List.length_drop]
  omega

theorem latest_nil (n : Nat) : latest n ([] : List α) = [] := List.drop_nil

theorem latest_append_one {n : Nat} {l : List α} (hlength : l.length < n) :
    latest n (l ++ [x]) = latest n l ++ [x] := by
  have hnone : l.length - n = 0 := by omega
  have hnone' : (l ++ [x]).length - n = 0 := by
    rw [List.length_append, List.length_singleton]
    omega
  rw [latest, latest, hnone, hnone']
  rfl

theorem latest_append_full {n : Nat} {l : List α} (hn : 0 < n) (hlength : n ≤ l.length) :
    latest n (l ++ [x]) = (latest n l).tail ++ [x] := by
  have hnext : (l ++ [x]).length - n = l.length - n + 1 := by
    rw [List.length_append, List.length_singleton]
    omega
  rw [latest, hnext, latest, List.drop_append_of_le_length (by omega), List.tail_drop]

/-- The ring goes on to hold the latest elements, as they are seen. -/
theorem latest_put {β : Type*} {f g : α → β} {log : List β} {y : β} (hr : r.Fits cap)
    (hlog : (r.read cap).map f = latest cap log) (hkept : ∀ a ∈ r.kept cap, g a = f a)
    (hx : g x = y) : ((r.put cap x).read cap).map g = latest cap (log ++ [y]) := by
  have hlt := hr.head_lt
  have hcount := congrArg List.length hlog
  rw [List.length_map, length_read, length_latest] at hcount
  rw [read_put hr, List.map_append, List.map_congr_left hkept, List.map_singleton, hx]
  by_cases hroom : r.count < cap
  · rw [Ring.kept, if_pos hroom, latest_append_one (by omega), hlog]
  · rw [Ring.kept, if_neg hroom, latest_append_full (by omega) (by omega), List.map_tail, hlog]

end Ring

end Rings
