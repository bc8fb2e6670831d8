import Mathlib.Tactic.Common

/-!
# Choosing the best of a list

A fold that starts from a value of its own and takes over each candidate that is
at least as good as the best one so far, so that among equals the last one wins.
The choice is the candidate taken, or `none` while the start value stands.
-/

namespace Best

universe u v
variable {α : Type u} {β : Type v}

/-- The value of a choice. -/
def value (start : β) (cand : α → β) (o : Option α) : β := o.elim start cand

def pick (le : β → β → Bool) (start : β) (ok : α → Bool) (cand : α → β)
    (o : Option α) (a : α) : Option α :=
  if ok a && le (cand a) (value start cand o) then some a else o

def choose (le : β → β → Bool) (start : β) (ok : α → Bool) (cand : α → β)
    (o : Option α) (l : List α) : Option α :=
  l.foldl (pick le start ok cand) o

variable {le : β → β → Bool} {start : β} {ok : α → Bool} {cand : α → β}

theorem choose_cons (o : Option α) (a : α) (l : List α) :
    choose le start ok cand o (a :: l) =
      choose le start ok cand (pick le start ok cand o a) l := rfl

theorem choose_mem {o : Option α} {l : List α} {a : α}
    (h : choose le start ok cand o l = some a) : o = some a ∨ a ∈ l ∧ ok a = true := by
  induction l generalizing o with
  | nil => exact Or.inl h
  | cons x l ih =>
    rw [choose_cons] at h
    rcases ih h with hpick | ⟨ha, hok⟩
    · rw [pick] at hpick
      split at hpick
      · rename_i hx
        obtain rfl : x = a := Option.some.inj hpick
        exact Or.inr ⟨List.mem_cons_self, (Bool.and_eq_true_iff.mp hx).1⟩
      · exact Or.inl hpick
    · exact Or.inr ⟨List.mem_cons_of_mem x ha, hok⟩

/-- The start value stands exactly where no candidate is at least as good. -/
theorem choose_none_iff {l : List α} :
    choose le start ok cand none l = none ↔
      ∀ a ∈ l, ok a = true → ¬ le (cand a) start = true := by
  -- a candidate that is taken over is only replaced by another one
  have hsome : ∀ (l : List α) (a : α), choose le start ok cand (some a) l ≠ none := by
    intro l
    induction l with
    | nil => exact fun a => Option.some_ne_none a
    | cons x l ih =>
      intro a
      rw [choose_cons, pick]
      split
      · exact ih x
      · exact ih a
  induction l with
  | nil => simp [choose]
  | cons x l ih =>
    rw [choose_cons, pick, List.forall_mem_cons]
    split
    · rename_i hx
      obtain ⟨hok, hle⟩ := Bool.and_eq_true_iff.mp hx
      exact ⟨fun h => absurd h (hsome l x), fun h => absurd hle (h.1 hok)⟩
    · rename_i hx
      exact ⟨fun h => ⟨fun hok hle => hx (Bool.and_eq_true_iff.mpr ⟨hok, hle⟩), ih.mp h⟩,
        fun h => ih.mpr h.2⟩

section Order

variable (refl : ∀ b, le b b = true)
  (trans : ∀ a b c, le a b = true → le b c = true → le a c = true)
  (total : ∀ a b, le a b = true ∨ le b a = true)

include refl in
theorem pick_le (o : Option α) (a : α) :
    le (value start cand (pick le start ok cand o a)) (value start cand o) = true := by
  rw [pick]
  split
  · rename_i h
    exact (Bool.and_eq_true_iff.mp h).2
  · exact refl _

include refl trans in
theorem choose_le (o : Option α) (l : List α) :
    le (value start cand (choose le start ok cand o l)) (value start cand o) = true := by
  induction l generalizing o with
  | nil => exact refl _
  | cons x l ih =>
    rw [choose_cons]
    exact trans _ _ _ (ih _) (pick_le refl o x)

include refl trans total in
theorem choose_le_of_mem {o : Option α} {l : List α} {a : α} (ha : a ∈ l) (hok : ok a = true) :
    le (value start cand (choose le start ok cand o l)) (cand a) = true := by
  induction l generalizing o with
  | nil => cases ha
  | cons x l ih =>
    rw [choose_cons]
    rcases List.mem_cons.mp ha with rfl | hl
    · refine trans _ _ _ (choose_le refl trans _ l) ?_
      by_cases hbetter : le (cand a) (value start cand o) = true
      · rw [pick, hok, hbetter]
        exact refl _
      · rw [pick, hok]
        simp only [Bool.true_and, hbetter, Bool.false_eq_true, if_false]
        exact (total _ _).resolve_left hbetter
    · exact ih hl

include refl trans total in
/-- Where no two candidates are equally good, their order does not matter. -/
theorem choose_perm {l l' : List α} (hperm : l.Perm l')
    (distinct : ∀ a ∈ l, ∀ b ∈ l, ok a = true → ok b = true → le (cand a) (cand b) = true →
      le (cand b) (cand a) = true → a = b) :
    choose le start ok cand none l = choose le start ok cand none l' := by
  have hleast : ∀ {l : List α} {a b : α}, choose le start ok cand none l = some a → b ∈ l →
      ok b = true → le (cand a) (cand b) = true := by
    intro l a b ha hb hok
    have h : le (value start cand (choose le start ok cand none l)) (cand b) = true :=
      choose_le_of_mem refl trans total hb hok
    rw [ha] at h
    exact h
  have hchosen : ∀ {l : List α} {a : α}, choose le start ok cand none l = some a →
      a ∈ l ∧ ok a = true := fun h => (choose_mem h).resolve_left (Option.some_ne_none _).symm
  cases hl : choose le start ok cand none l with
  | none =>
    refine (choose_none_iff.mpr fun a ha hok => ?_).symm
    exact choose_none_iff.mp hl a (hperm.mem_iff.mpr ha) hok
  | some a =>
    obtain ⟨hmem, hok⟩ := hchosen hl
    cases hl' : choose le start ok cand none l' with
    | none =>
      have hnone : choose le start ok cand none l = none :=
        choose_none_iff.mpr fun b hb => choose_none_iff.mp hl' b (hperm.mem_iff.mp hb)
      exact absurd (hnone.symm.trans hl) (Option.some_ne_none a).symm
    | some b =>
      obtain ⟨hmem', hok'⟩ := hchosen hl'
      have hb := hperm.mem_iff.mpr hmem'
      rw [distinct a hmem b hb hok hok' (hleast hl hb hok')
        (hleast hl' (hperm.mem_iff.mp hmem) hok)]

end Order

end Best
