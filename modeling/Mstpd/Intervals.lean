import Mathlib.Tactic.Common

/-!
# Maximal intervals

The numbers of a range that meet a predicate, as ascending intervals with gaps between them. A
scan that counts how many numbers in a row have met the predicate yields them.
-/

namespace Intervals

/-- Both ends are included. -/
structure Interval where
  first : Nat
  last : Nat
  le : first ≤ last
  deriving DecidableEq

def Interval.Covers (v : Interval) (i : Nat) : Prop := v.first ≤ i ∧ i ≤ v.last

instance (v : Interval) (i : Nat) : Decidable (v.Covers i) :=
  inferInstanceAs (Decidable (v.first ≤ i ∧ i ≤ v.last))

def Covered (l : List Interval) (i : Nat) : Prop := ∃ v ∈ l, v.Covers i

instance (l : List Interval) (i : Nat) : Decidable (Covered l i) :=
  inferInstanceAs (Decidable (∃ v ∈ l, v.Covers i))

/-- No two intervals touch, so none can be made longer. -/
def Separated (l : List Interval) : Prop := l.Pairwise fun v w => v.last + 1 < w.first

/-- The maximal intervals of the numbers from `low` up to `stop` that meet `P`, in order. -/
structure Maximal (P : Nat → Bool) (low stop : Nat) (l : List Interval) : Prop where
  separated : Separated l
  covered : ∀ i, Covered l i ↔ low ≤ i ∧ i < stop ∧ P i = true

/-- The interval that ends before `i` with `count` numbers, if there are any. -/
def closed (i count : Nat) : List Interval :=
  if h : count = 0 then [] else [⟨i - count, i - 1, by omega⟩]

/-- A scan of `n` numbers from `i` on, of which the last `count` have met `P`. -/
def runs (P : Nat → Bool) : Nat → Nat → Nat → List Interval
  | 0, i, count => closed i count
  | n + 1, i, count =>
    if P i then runs P n (i + 1) (count + 1) else closed i count ++ runs P n (i + 1) 0

section Covered

variable {l l' : List Interval} {i : Nat}

theorem covered_nil : ¬ Covered [] i := by
  rintro ⟨v, hv, -⟩
  cases hv

theorem covered_cons {v : Interval} : Covered (v :: l) i ↔ v.Covers i ∨ Covered l i := by
  simp [Covered]

theorem covered_append : Covered (l ++ l') i ↔ Covered l i ∨ Covered l' i := by
  induction l with
  | nil => simp [covered_nil]
  | cons v l ih => rw [List.cons_append, covered_cons, covered_cons, ih, or_assoc]

end Covered

section Runs

variable {P : Nat → Bool}

theorem covered_closed {i count j : Nat} (hcount : count ≤ i) :
    Covered (closed i count) j ↔ i - count ≤ j ∧ j < i := by
  rw [closed]
  split
  · rename_i h
    refine ⟨fun hj => absurd hj covered_nil, fun hj => ?_⟩
    omega
  · rw [covered_cons, or_iff_left covered_nil, Interval.Covers]
    dsimp only
    omega

theorem closed_last {i count : Nat} {v : Interval} (hcount : count ≤ i) (hv : v ∈ closed i count) :
    v.last + 1 = i ∧ i - count = v.first := by
  rw [closed] at hv
  split at hv
  · cases hv
  · obtain rfl := List.mem_singleton.mp hv
    dsimp only
    omega

/-- No interval starts before the numbers that are counted already. -/
theorem le_first_runs {n i count : Nat} (hcount : count ≤ i) {v : Interval}
    (hv : v ∈ runs P n i count) : i - count ≤ v.first := by
  induction n generalizing i count with
  | zero =>
    rw [runs] at hv
    exact Nat.le_of_eq (closed_last hcount hv).2
  | succ n ih =>
    rw [runs] at hv
    split at hv
    · have hfirst := ih (by omega) hv
      omega
    · rcases List.mem_append.mp hv with hv | hv
      · exact Nat.le_of_eq (closed_last hcount hv).2
      · have hfirst := ih (by omega) hv
        omega

theorem separated_runs {n i count : Nat} (hcount : count ≤ i) : Separated (runs P n i count) := by
  have hclosed : ∀ i count, Separated (closed i count) := by
    intro i count
    rw [closed, Separated]
    split
    · exact List.Pairwise.nil
    · exact List.pairwise_singleton _ _
  induction n generalizing i count with
  | zero => exact hclosed i count
  | succ n ih =>
    rw [runs]
    split
    · exact ih (by omega)
    · refine List.pairwise_append.mpr ⟨hclosed i count, ih (by omega), fun v hv w hw => ?_⟩
      have hlast := (closed_last hcount hv).1
      have hfirst := le_first_runs (by omega) hw
      omega

theorem covered_runs {n i count j : Nat} (hcount : count ≤ i) :
    Covered (runs P n i count) j ↔
      (i - count ≤ j ∧ j < i) ∨ (i ≤ j ∧ j < i + n ∧ P j = true) := by
  induction n generalizing i count with
  | zero =>
    rw [runs, covered_closed hcount]
    omega
  | succ n ih =>
    rw [runs]
    by_cases hi : P i = true
    · rw [if_pos hi, ih (by omega)]
      have hsame : i = j → P j = true := fun h => h ▸ hi
      constructor
      · rintro (h | h)
        · by_cases hj : j < i
          · exact Or.inl (by omega)
          · exact Or.inr ⟨by omega, by omega, hsame (by omega)⟩
        · exact Or.inr ⟨by omega, by omega, h.2.2⟩
      · rintro (h | h)
        · exact Or.inl (by omega)
        · by_cases hj : i = j
          · exact Or.inl (by omega)
          · exact Or.inr ⟨by omega, by omega, h.2.2⟩
    · rw [if_neg hi, covered_append, covered_closed hcount, ih (by omega)]
      constructor
      · rintro (h | h | h)
        · exact Or.inl h
        · omega
        · exact Or.inr ⟨by omega, by omega, h.2.2⟩
      · rintro (h | h)
        · exact Or.inl h
        · have hne : i ≠ j := fun heq => hi (heq ▸ h.2.2)
          exact Or.inr (Or.inr ⟨by omega, by omega, h.2.2⟩)

/-- A scan looks at no other numbers than those it is over. -/
theorem runs_congr {Q : Nat → Bool} {n i count : Nat} (h : ∀ j, i ≤ j → j < i + n → P j = Q j) :
    runs P n i count = runs Q n i count := by
  induction n generalizing i count with
  | zero => rfl
  | succ n ih =>
    have hnext : ∀ j, i + 1 ≤ j → j < i + 1 + n → P j = Q j :=
      fun j hj hj' => h j (by omega) (by omega)
    rw [runs, runs, h i (Nat.le_refl i) (by omega), ih hnext, ih hnext]

/-- A number at the end that does not meet the predicate adds nothing. -/
theorem runs_last {n i count : Nat} (h : P (i + n) = false) :
    runs P (n + 1) i count = runs P n i count := by
  induction n generalizing i count with
  | zero =>
    have hi : ¬ P i = true := by simpa using h
    have hnil : closed (i + 1) 0 = [] := rfl
    rw [runs, runs, if_neg hi, runs, hnil, List.append_nil]
  | succ n ih =>
    have hlast : P (i + 1 + n) = false := by
      rw [Nat.add_assoc, Nat.add_comm 1 n]
      exact h
    rw [runs, ih hlast, ih hlast, runs]

theorem maximal_runs (P : Nat → Bool) (low n : Nat) : Maximal P low (low + n) (runs P n low 0) where
  separated := separated_runs (Nat.zero_le low)
  covered i := by
    rw [covered_runs (Nat.zero_le low)]
    constructor
    · rintro (h | h)
      · omega
      · exact h
    · exact Or.inr

end Runs

end Intervals
