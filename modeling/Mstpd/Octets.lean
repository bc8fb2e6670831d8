import Mathlib.Algebra.Ring.Nat
import Mathlib.Data.List.GetD
import Mathlib.Tactic.Common

/-!
# Octets in memory

A memory has an octet at each address. What is written to a range is found there again until
something else is written to it; numbers stand with their least octet first.
-/

namespace Octets

abbrev Memory := Nat → UInt8

/-- The octets of a list behind an address. -/
def Holds (m : Memory) (o : Nat) (l : List UInt8) : Prop :=
  ∀ i, i < l.length → m (o + i) = l.getD i 0

/-- A list of octets written to an address. -/
def store (m : Memory) (o : Nat) (l : List UInt8) : Memory := fun i =>
  if o ≤ i ∧ i < o + l.length then l.getD (i - o) 0 else m i

/-- The memory that a list fills from its start. -/
def ofList (l : List UInt8) : Memory := fun i => l.getD i 0

/-- Members of a structure: where they start, and their octets. -/
abbrev Members := List (Nat × List UInt8)

/-- The members stored one after the other; between them stays what was there. -/
def assign (m : Memory) (members : Members) : Memory :=
  members.foldl (fun m x => store m x.1 x.2) m

/-- Each member starts behind the one before it. -/
def Ordered : Nat → Members → Prop
  | _, [] => True
  | o, x :: xs => o ≤ x.1 ∧ Ordered (x.1 + x.2.length) xs

/-- The first octets of a memory. -/
def toList (m : Memory) (n : Nat) : List UInt8 := (List.range n).map m

/-- The number in some octets. -/
def number (m : Memory) (o : Nat) : Nat → Nat
  | 0 => 0
  | k + 1 => (m o).toNat + 256 * number m (o + 1) k

/-- A number in some octets, as far as they can hold it. -/
def digits (n : Nat) : Nat → List UInt8
  | 0 => []
  | k + 1 => UInt8.ofNat n :: digits (n / 256) k

variable {m m' : Memory} {o o' n k : Nat} {l l' : List UInt8}

/-! ## Ranges -/

theorem Holds.nil : Holds m o [] := fun _ h => absurd h (Nat.not_lt_zero _)

theorem holds_cons {b : UInt8} : Holds m o (b :: l) ↔ m o = b ∧ Holds m (o + 1) l := by
  constructor
  · intro h
    constructor
    · exact h 0 (Nat.zero_lt_succ _)
    · intro i hi
      have hin := h (i + 1) (Nat.succ_lt_succ hi)
      rw [Nat.add_assoc, Nat.add_comm 1 i]
      exact hin
  · rintro ⟨hb, hl⟩ i hi
    cases i with
    | zero => exact hb
    | succ i =>
      rw [Nat.add_comm i 1, ← Nat.add_assoc, hl i (Nat.lt_of_succ_lt_succ hi), Nat.add_comm 1 i]
      rfl

theorem holds_append : Holds m o (l ++ l') ↔ Holds m o l ∧ Holds m (o + l.length) l' := by
  induction l generalizing o with
  | nil => simp [Holds.nil]
  | cons b l ih =>
    have hlen : o + 1 + l.length = o + (b :: l).length := by
      rw [List.length_cons]
      omega
    rw [List.cons_append, holds_cons, holds_cons, ih, hlen, and_assoc]

/-- The same octets in another memory. -/
theorem Holds.congr (h : Holds m o l) (heq : ∀ i, o ≤ i → i < o + l.length → m' i = m i) :
    Holds m' o l := by
  intro i hi
  rw [heq _ (Nat.le_add_right _ _) (by omega)]
  exact h i hi

theorem holds_store : Holds (store m o l) o l := by
  intro i hi
  rw [store, if_pos ⟨Nat.le_add_right _ _, by omega⟩, Nat.add_sub_cancel_left]

theorem store_outside {i : Nat} (h : i < o ∨ o + l.length ≤ i) : store m o l i = m i :=
  if_neg (by omega)

/-- A range that a store does not touch. -/
theorem Holds.store (h : Holds m o l) (hapart : o + l.length ≤ o' ∨ o' + l'.length ≤ o) :
    Holds (store m o' l') o l := by
  apply h.congr
  intro i hlow hhigh
  apply store_outside
  omega

@[simp] theorem length_toList : (toList m n).length = n := by
  rw [toList, List.length_map, List.length_range]

theorem getD_toList (h : o < n) : (toList m n).getD o 0 = m o := by
  rw [List.getD_eq_getElem _ _ (by rwa [length_toList])]
  simp [toList]

theorem toList_ofList (l : List UInt8) : toList (ofList l) l.length = l := by
  apply List.ext_getElem
  · rw [length_toList]
  · intro i hi hi'
    have hget := getD_toList (m := ofList l) hi'
    rw [List.getD_eq_getElem _ _ hi, ofList, List.getD_eq_getElem _ _ hi'] at hget
    exact hget

theorem holds_ofList (l : List UInt8) : Holds (ofList l) 0 l := by
  intro i _
  rw [Nat.zero_add, ofList]

/-! ## Members -/

section Members

variable {members : Members}

/-- What stands in front of the members is left alone. -/
theorem Holds.assign (h : Holds m o l) (hle : o + l.length ≤ o') (hord : Ordered o' members) :
    Holds (assign m members) o l := by
  induction members generalizing m o' with
  | nil => exact h
  | cons x xs ih =>
    obtain ⟨hx, hxs⟩ := hord
    apply ih
    · exact h.store (Or.inl (by omega))
    · exact (by omega : o + l.length ≤ x.1 + x.2.length)
    · exact hxs

/-- Every member is found where it starts. -/
theorem assign_holds (hord : Ordered o members) :
    ∀ x ∈ members, Holds (assign m members) x.1 x.2 := by
  induction members generalizing m o with
  | nil =>
    intro x hx
    cases hx
  | cons y ys ih =>
    obtain ⟨-, hys⟩ := hord
    intro x hx
    rcases List.mem_cons.mp hx with rfl | hx
    · change Holds (assign (store m x.1 x.2) ys) x.1 x.2
      exact Holds.assign holds_store (Nat.le_refl _) hys
    · exact ih hys x hx

end Members

/-! ## Numbers -/

@[simp] theorem length_digits : (digits n k).length = k := by
  induction k generalizing n with
  | zero => rfl
  | succ k ih => rw [digits, List.length_cons, ih]

theorem number_lt : number m o k < 256 ^ k := by
  induction k generalizing o with
  | zero => exact Nat.one_pos
  | succ k ih =>
    have hlow := (m o).toNat_lt
    have hrest : number m (o + 1) k < 256 ^ k := ih
    rw [number, Nat.pow_succ']
    omega

theorem number_congr (h : ∀ i, i < k → m' (o' + i) = m (o + i)) :
    number m' o' k = number m o k := by
  induction k generalizing o o' with
  | zero => rfl
  | succ k ih =>
    have hrest : ∀ i, i < k → m' (o' + 1 + i) = m (o + 1 + i) := by
      intro i hi
      rw [Nat.add_assoc, Nat.add_assoc, Nat.add_comm 1 i]
      exact h (i + 1) (Nat.succ_lt_succ hi)
    rw [number, number, ih hrest, show m' o' = m o from h 0 (Nat.zero_lt_succ k)]

/-- The digits of a number are read back as far as they go. -/
theorem Holds.number (h : Holds m o (digits n k)) : number m o k = n % 256 ^ k := by
  induction k generalizing n o with
  | zero => rw [Octets.number, Nat.pow_zero, Nat.mod_one]
  | succ k ih =>
    obtain ⟨hlow, hrest⟩ := holds_cons.mp h
    have hdigit : (UInt8.ofNat n).toNat = n % 256 := UInt8.toNat_ofNat'
    rw [Octets.number, hlow, ih hrest, hdigit, Nat.pow_succ', Nat.mod_mul]

theorem Holds.number_eq (h : Holds m o (digits n k)) (hn : n < 256 ^ k) :
    Octets.number m o k = n := by
  rw [h.number, Nat.mod_eq_of_lt hn]

end Octets
