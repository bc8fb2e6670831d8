import Mathlib.Algebra.Ring.Nat
import Mathlib.Tactic.Common

/-!
# Hashing block by block

An iterated hash takes a message in blocks of one size. What arrives in pieces is kept until it
fills a block, so that the pieces do not matter. Two messages with one hash meet in a compression.
-/

namespace BlockHash

section Blocks

variable {β : Type*} {n : Nat} {xs ys : List β}

/-- The full blocks at the start of a message. -/
def blocks (n : Nat) (xs : List β) : List (List β) :=
  (List.range (xs.length / n)).map fun i => (xs.drop (i * n)).take n

/-- What follows the last full block. -/
def rest (n : Nat) (xs : List β) : List β := xs.drop (xs.length / n * n)

theorem length_rest : (rest n xs).length = xs.length % n := by
  rw [rest, List.length_drop, Nat.mod_eq_sub_div_mul]

theorem blocks_of_lt (h : xs.length < n) : blocks n xs = [] := by
  rw [blocks, Nat.div_eq_of_lt h, List.range_zero, List.map_nil]

theorem rest_of_lt (h : xs.length < n) : rest n xs = xs := by
  rw [rest, Nat.div_eq_of_lt h, Nat.zero_mul, List.drop_zero]

theorem drop_block_append (h : xs.length = n) (i : Nat) :
    (xs ++ ys).drop ((i + 1) * n) = ys.drop (i * n) := by
  have hstep : (i + 1) * n = xs.length + i * n := by rw [h, Nat.add_mul, Nat.one_mul, Nat.add_comm]
  rw [hstep, List.drop_append, List.drop_eq_nil_of_le (Nat.le_add_right _ _), List.nil_append,
    Nat.add_sub_cancel_left]

theorem rest_block_append (hn : 0 < n) (h : xs.length = n) : rest n (xs ++ ys) = rest n ys := by
  rw [rest, rest, List.length_append, h, Nat.add_div_left _ hn, drop_block_append h]

/-- The first block in front of the blocks of what follows it. -/
theorem blocks_block_append (hn : 0 < n) (h : xs.length = n) :
    blocks n (xs ++ ys) = xs :: blocks n ys := by
  have hcount : (xs ++ ys).length / n = ys.length / n + 1 := by
    rw [List.length_append, h, Nat.add_div_left _ hn]
  rw [blocks, hcount, List.range_succ_eq_map, List.map_cons, List.map_map, Nat.zero_mul,
    List.drop_zero, List.take_left' h]
  simp only [blocks, Function.comp_def, Nat.succ_eq_add_one, drop_block_append h]

theorem blocks_flatten_append (hn : 0 < n) {bs : List (List β)} (h : ∀ b ∈ bs, b.length = n) :
    blocks n (bs.flatten ++ ys) = bs ++ blocks n ys := by
  induction bs with
  | nil => rfl
  | cons b bs ih =>
    have htail : ∀ b' ∈ bs, b'.length = n := fun b' hb' => h b' (List.mem_cons_of_mem _ hb')
    rw [List.flatten_cons, List.append_assoc, blocks_block_append hn (h b List.mem_cons_self),
      ih htail, List.cons_append]

theorem rest_flatten_append (hn : 0 < n) {bs : List (List β)} (h : ∀ b ∈ bs, b.length = n) :
    rest n (bs.flatten ++ ys) = rest n ys := by
  induction bs with
  | nil => rfl
  | cons b bs ih =>
    have htail : ∀ b' ∈ bs, b'.length = n := fun b' hb' => h b' (List.mem_cons_of_mem _ hb')
    rw [List.flatten_cons, List.append_assoc, rest_block_append hn (h b List.mem_cons_self),
      ih htail]

theorem length_of_mem_blocks {b : List β} (h : b ∈ blocks n xs) : b.length = n := by
  obtain ⟨i, hi, rfl⟩ := List.mem_map.mp h
  have hfull : (i + 1) * n ≤ xs.length := by
    have hle : (i + 1) * n ≤ xs.length / n * n := Nat.mul_le_mul_right n (List.mem_range.mp hi)
    exact Nat.le_trans hle (Nat.div_mul_le_self _ _)
  rw [List.length_take, List.length_drop]
  rw [Nat.add_mul, Nat.one_mul] at hfull
  omega

/-- A message is its full blocks and what follows them. -/
theorem flatten_blocks_append_rest : (blocks n xs).flatten ++ rest n xs = xs := by
  have htake : ∀ k, k * n ≤ xs.length →
      ((List.range k).map fun i => (xs.drop (i * n)).take n).flatten = xs.take (k * n) := by
    intro k hk
    induction k with
    | zero => simp
    | succ k ih =>
      rw [Nat.add_mul, Nat.one_mul] at hk ⊢
      rw [List.range_succ, List.map_append, List.flatten_append, ih (by omega), List.take_add]
      simp
  rw [blocks, rest, htake _ (Nat.div_mul_le_self _ _), List.take_append_drop]

/-- What is kept of the first piece goes in front of the second. -/
theorem blocks_append (hn : 0 < n) :
    blocks n (xs ++ ys) = blocks n xs ++ blocks n (rest n xs ++ ys) := by
  have hsplit : xs ++ ys = (blocks n xs).flatten ++ (rest n xs ++ ys) := by
    rw [← List.append_assoc, flatten_blocks_append_rest]
  calc blocks n (xs ++ ys)
    _ = blocks n ((blocks n xs).flatten ++ (rest n xs ++ ys)) := by rw [← hsplit]
    _ = blocks n xs ++ blocks n (rest n xs ++ ys) :=
      blocks_flatten_append hn fun _ => length_of_mem_blocks

theorem rest_append (hn : 0 < n) : rest n (xs ++ ys) = rest n (rest n xs ++ ys) := by
  have hsplit : xs ++ ys = (blocks n xs).flatten ++ (rest n xs ++ ys) := by
    rw [← List.append_assoc, flatten_blocks_append_rest]
  calc rest n (xs ++ ys) = rest n ((blocks n xs).flatten ++ (rest n xs ++ ys)) := by rw [← hsplit]
    _ = rest n (rest n xs ++ ys) := rest_flatten_append hn fun _ => length_of_mem_blocks

/-- When no octet is left over, the blocks are the message. -/
theorem flatten_blocks (h : xs.length % n = 0) : (blocks n xs).flatten = xs := by
  have hrest : rest n xs = [] := List.eq_nil_of_length_eq_zero (length_rest.trans h)
  have hsplit := @flatten_blocks_append_rest β n xs
  rwa [hrest, List.append_nil] at hsplit

theorem length_blocks : (blocks n xs).length = xs.length / n := by
  rw [blocks, List.length_map, List.length_range]

end Blocks

section Collisions

variable {σ β : Type*} {compress : σ → β → σ} {s s' : σ} {bs bs' : List β}

/-- What the compressions of a hash are applied to, in order. -/
def inputs (compress : σ → β → σ) : σ → List β → List (σ × β)
  | _, [] => []
  | s, b :: bs => (s, b) :: inputs compress (compress s b) bs

/-- An input of the first hash and a different one of the second are compressed to one state. -/
def Collide (compress : σ → β → σ) (l l' : List (σ × β)) : Prop :=
  ∃ x ∈ l, ∃ y ∈ l', x ≠ y ∧ compress x.1 x.2 = compress y.1 y.2

theorem Collide.mono {l l' m m' : List (σ × β)} (h : Collide compress l l') (hl : l ⊆ m)
    (hl' : l' ⊆ m') : Collide compress m m' := by
  obtain ⟨x, hx, y, hy, hne, heq⟩ := h
  exact ⟨x, hl hx, y, hl' hy, hne, heq⟩

theorem inputs_concat {b : β} :
    inputs compress s (bs ++ [b]) = inputs compress s bs ++ [(bs.foldl compress s, b)] := by
  induction bs generalizing s with
  | nil => rfl
  | cons c bs ih => rw [List.cons_append, inputs, inputs, ih, List.foldl_cons, List.cons_append]

/-- The last blocks differ. -/
theorem collide_concat {b b' : β} (hb : b ≠ b')
    (h : (bs ++ [b]).foldl compress s = (bs' ++ [b']).foldl compress s') :
    Collide compress (inputs compress s (bs ++ [b])) (inputs compress s' (bs' ++ [b'])) := by
  rw [List.foldl_append, List.foldl_append] at h
  rw [inputs_concat, inputs_concat]
  refine ⟨_, List.mem_append_right _ List.mem_cons_self,
    _, List.mem_append_right _ List.mem_cons_self, ?_, h⟩
  intro heq
  exact hb (Prod.mk.inj heq).2

/-- By induction from the front: the first compression that merges two states is the collision. -/
theorem eq_or_collide (hlength : bs.length = bs'.length)
    (h : bs.foldl compress s = bs'.foldl compress s') :
    s = s' ∧ bs = bs' ∨ Collide compress (inputs compress s bs) (inputs compress s' bs') := by
  induction bs generalizing s s' bs' with
  | nil =>
    cases bs' with
    | nil => exact Or.inl ⟨h, rfl⟩
    | cons b' bs' => cases hlength
  | cons b bs ih =>
    cases bs' with
    | nil => cases hlength
    | cons b' bs' =>
      have htails : bs.length = bs'.length := Nat.succ.inj hlength
      rcases ih htails h with ⟨hmeet, rfl⟩ | hlater
      · by_cases hfirst : (s, b) = (s', b')
        · obtain ⟨rfl, rfl⟩ := Prod.mk.inj hfirst
          exact Or.inl ⟨rfl, rfl⟩
        · exact Or.inr ⟨_, List.mem_cons_self, _, List.mem_cons_self, hfirst, hmeet⟩
      · exact Or.inr (hlater.mono (List.subset_cons_self _ _) (List.subset_cons_self _ _))

end Collisions

end BlockHash
