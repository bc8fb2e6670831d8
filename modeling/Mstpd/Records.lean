import Mstpd.Octets

/-!
# Chains of records

Records that start with their own length stand one behind the other, each at the next multiple of
some number of octets. A chain is read by walking from length to length.
-/

namespace Records

open Octets

/-- The octets of the length, the least length, and the multiple where the next record starts. -/
structure Framing where
  width : Nat
  header : Nat
  align : Nat
  width_le : width ≤ header
  header_pos : 0 < header
  align_pos : 0 < align

namespace Framing

variable (F : Framing)

def roundUp (n : Nat) : Nat := (n + F.align - 1) / F.align * F.align

/-- The length that a record states. -/
def lengthAt (m : Memory) (o : Nat) : Nat := number m o F.width

/-- The length of a record with some octets behind its length. -/
def size (r : List UInt8) : Nat := F.width + r.length

structure Record (m : Memory) (o : Nat) (r : List UInt8) : Prop where
  length : F.lengthAt m o = F.size r
  least : F.header ≤ F.size r
  body : Holds m (o + F.width) r

/-- The records between two addresses. -/
inductive Chain (m : Memory) : Nat → List (List UInt8) → Nat → Prop
  | nil {o : Nat} : Chain m o [] o
  | cons {o e : Nat} {r : List UInt8} {rs : List (List UInt8)} (h : F.Record m o r)
    (rest : Chain m (o + F.roundUp (F.size r)) rs e) : Chain m o (r :: rs) e

/-- Does a whole record stand at an address, with so many octets left? -/
def fits (m : Memory) (o : Nat) (left : Int) : Bool :=
  decide ((F.header : Int) ≤ left) && decide (F.header ≤ F.lengthAt m o) &&
    decide ((F.lengthAt m o : Int) ≤ left)

/-- The walk over the records, with what is done at the address of each, and the octets that are
left behind the last. -/
def walk {σ : Type} (m : Memory) (f : Nat → σ → σ) : Nat → Nat → Int → σ → σ × Int
  | 0, _, left, s => (s, left)
  | n + 1, o, left, s =>
    if F.fits m o left then
      let step := F.roundUp (F.lengthAt m o)
      walk m f n (o + step) (left - step) (f o s)
    else (s, left)

/-- The records of a chain with their addresses. -/
def placed : Nat → List (List UInt8) → List (Nat × List UInt8)
  | _, [] => []
  | o, r :: rs => (o, r) :: placed (o + F.roundUp (F.size r)) rs

section

variable {F} {m m' : Memory} {o e n : Nat} {left : Int} {r : List UInt8} {rs : List (List UInt8)}

theorem le_roundUp : n ≤ F.roundUp n := by
  have hpos := F.align_pos
  have hmod := Nat.mod_lt (n + F.align - 1) hpos
  have hdiv := Nat.div_add_mod' (n + F.align - 1) F.align
  rw [roundUp]
  omega

theorem roundUp_dvd : F.align ∣ F.roundUp n := Nat.dvd_mul_left _ _

theorem roundUp_eq (h : F.align ∣ n) : F.roundUp n = n := by
  obtain ⟨k, rfl⟩ := h
  have hpos := F.align_pos
  rw [roundUp, show F.align * k + F.align - 1 = F.align - 1 + F.align * k by omega,
    Nat.add_mul_div_left _ _ hpos, Nat.div_eq_of_lt (by omega), Nat.zero_add, Nat.mul_comm]

theorem Record.congr (h : F.Record m o r) (heq : ∀ i, o ≤ i → i < o + F.size r → m' i = m i) :
    F.Record m' o r := by
  constructor
  · have hsame : F.lengthAt m' o = F.lengthAt m o := by
      apply number_congr
      intro i hi
      exact heq _ (Nat.le_add_right _ _) (by rw [size]; omega)
    exact hsame.trans h.length
  · exact h.least
  · apply h.body.congr
    intro i hlow hhigh
    exact heq i (by omega) (by rw [size]; omega)

theorem Chain.le (h : F.Chain m o rs e) : o ≤ e := by
  induction h with
  | nil => exact Nat.le_refl _
  | cons _ _ ih => omega

/-- A chain takes as many octets as its end is behind its start. -/
theorem Chain.length_le (h : F.Chain m o rs e) : rs.length ≤ e - o := by
  induction h with
  | nil => exact Nat.zero_le _
  | @cons o e r rs hr rest ih =>
    have hround : F.size r ≤ F.roundUp (F.size r) := le_roundUp
    have hleast := hr.least
    have hpos := F.header_pos
    have hle := rest.le
    rw [List.length_cons]
    omega

theorem Chain.congr (h : F.Chain m o rs e) (heq : ∀ i, o ≤ i → i < e → m' i = m i) :
    F.Chain m' o rs e := by
  induction h with
  | nil => exact .nil
  | @cons o e r rs hr rest ih =>
    have hround : F.size r ≤ F.roundUp (F.size r) := le_roundUp
    have hle := rest.le
    apply Chain.cons
    · apply hr.congr
      intro i hlow hhigh
      exact heq i hlow (by omega)
    · apply ih
      intro i hlow hhigh
      exact heq i (by omega) hhigh

/-- A record behind the last one. -/
theorem Chain.snoc (h : F.Chain m o rs e) (hr : F.Record m e r) :
    F.Chain m o (rs ++ [r]) (e + F.roundUp (F.size r)) := by
  induction h with
  | nil => exact .cons hr .nil
  | cons h _ ih => exact .cons h (ih hr)

theorem Chain.placed (h : F.Chain m o rs e) :
    ∀ a ∈ F.placed o rs, F.Record m a.1 a.2 ∧ a.1 + F.size a.2 ≤ e := by
  induction h with
  | nil => intro a ha; cases ha
  | @cons o e r rs hr rest ih =>
    have hround : F.size r ≤ F.roundUp (F.size r) := le_roundUp
    have hle := rest.le
    intro a ha
    rcases List.mem_cons.mp ha with rfl | ha
    · exact ⟨hr, by dsimp only; omega⟩
    · exact ih a ha

theorem Chain.dvd (h : F.Chain m o rs e) (ho : F.align ∣ o) : F.align ∣ e := by
  induction h with
  | nil => exact ho
  | cons _ _ ih => exact ih ((Nat.dvd_add_right ho).mpr roundUp_dvd)

/-! ## The walk -/

theorem Record.fits (h : F.Record m o r) (hleft : (F.size r : Int) ≤ left) :
    F.fits m o left = true := by
  have hleast := h.least
  simp only [Framing.fits, h.length, Bool.and_eq_true, decide_eq_true_eq]
  omega

/-- On a chain the walk comes by every record, and nothing is left at its end. -/
theorem walk_chain {σ : Type} {f : Nat → σ → σ} {s : σ} (h : F.Chain m o rs e)
    (hn : rs.length ≤ n) (hleft : left = (e : Int) - o) :
    F.walk m f n o left s = ((F.placed o rs).foldl (fun s a => f a.1 s) s, 0) := by
  induction h generalizing n left s with
  | @nil o =>
    cases n with
    | zero => simp [walk, placed, hleft]
    | succ n =>
      have hpos := F.header_pos
      have hnone : F.fits m o left = false := by
        simp only [Framing.fits, Bool.and_eq_false_iff, decide_eq_false_iff_not]
        omega
      rw [walk, hnone, if_neg Bool.false_ne_true, hleft, Int.sub_self]
      rfl
  | @cons o e r rs hr rest ih =>
    have hround : F.size r ≤ F.roundUp (F.size r) := le_roundUp
    have hle := rest.le
    cases n with
    | zero => exact absurd hn (by simp)
    | succ n =>
      rw [walk, if_pos (hr.fits (by omega)), hr.length]
      exact ih (Nat.le_of_succ_le_succ hn) (by push_cast; omega)

/-- Whatever the memory holds, what every record inside the range keeps is kept by the walk. -/
theorem walk_inv {σ : Type} {f : Nat → σ → σ} {s : σ} {P : σ → Prop}
    (hstep : ∀ a s, o ≤ a → F.header ≤ F.lengthAt m a → (a : Int) + F.lengthAt m a ≤ o + left →
      P s → P (f a s)) (hs : P s) : P (F.walk m f n o left s).1 := by
  induction n generalizing o left s with
  | zero => exact hs
  | succ n ih =>
    rw [walk]
    split
    · rename_i hfits
      simp only [Framing.fits, Bool.and_eq_true, decide_eq_true_eq] at hfits
      obtain ⟨⟨-, hleast⟩, hend⟩ := hfits
      apply ih
      · intro a s hlow hhead hhigh hP
        exact hstep a s (by omega) hhead (by omega) hP
      · exact hstep o s (Nat.le_refl _) hleast (by omega) hs
    · exact hs

end

end Framing

end Records
