import Mathlib.Data.List.Nodup
import Mathlib.Data.List.Flatten
import Mathlib.Data.List.Pairwise

/-!
# Lists of records with keys

A record is found by a predicate and replaced in place. The records own lists of elements,
and no element is owned twice.
-/

namespace Table

universe u v

variable {α : Type u} {β : Type v} {p : α → Bool} {f : α → Option α} {l l' : List α}

/-- Replace the first record that satisfies the predicate, if any does. -/
def updateFirst (p : α → Bool) (f : α → Option α) : List α → Option (List α)
  | [] => some []
  | a :: l => if p a then (f a).map (· :: l) else (updateFirst p f l).map (a :: ·)

theorem updateFirst_cases (h : updateFirst p f l = some l') :
    (l' = l ∧ ∀ a ∈ l, p a = false) ∨
      ∃ before a a' rest, l = before ++ a :: rest ∧ l' = before ++ a' :: rest ∧
        p a = true ∧ f a = some a' := by
  induction l generalizing l' with
  | nil => exact Or.inl ⟨(Option.some.inj h).symm, fun _ ha => absurd ha List.not_mem_nil⟩
  | cons b l ih =>
    rw [updateFirst] at h
    split at h
    · rename_i hb
      obtain ⟨b', hb', rfl⟩ := Option.map_eq_some_iff.mp h
      exact Or.inr ⟨[], b, b', l, rfl, rfl, hb, hb'⟩
    · rename_i hb
      obtain ⟨l'', hl, rfl⟩ := Option.map_eq_some_iff.mp h
      rcases ih hl with ⟨rfl, hnone⟩ | ⟨before, a, a', rest, rfl, rfl, ha, ha'⟩
      · refine Or.inl ⟨rfl, fun a ha => ?_⟩
        rcases List.mem_cons.mp ha with rfl | hrest
        · simpa using hb
        · exact hnone a hrest
      · exact Or.inr ⟨b :: before, a, a', rest, rfl, rfl, ha, ha'⟩

theorem updateFirst_at {before rest : List α} {a : α} (hbefore : ∀ b ∈ before, p b = false)
    (ha : p a = true) : updateFirst p f (before ++ a :: rest) =
      (f a).map fun a' => before ++ a' :: rest := by
  induction before with
  | nil => rw [List.nil_append, updateFirst, if_pos ha]; rfl
  | cons b before ih =>
    have hb : p b = false := hbefore b List.mem_cons_self
    rw [List.cons_append, updateFirst, hb, if_neg Bool.false_ne_true,
      ih fun c hc => hbefore c (List.mem_cons_of_mem b hc), Option.map_map]
    rfl

/-- What the update of a record preserves, all records keep. -/
theorem updateFirst_forall {P : α → Prop} (step : ∀ a ∈ l, ∀ a', p a = true → f a = some a' → P a')
    (hP : ∀ a ∈ l, P a) (h : updateFirst p f l = some l') : ∀ a ∈ l', P a := by
  rcases updateFirst_cases h with ⟨rfl, -⟩ | ⟨before, a, a', rest, rfl, rfl, ha, ha'⟩
  · exact hP
  · intro c hc
    rcases List.mem_append.mp hc with hb | hr
    · exact hP c (List.mem_append_left _ hb)
    · rcases List.mem_cons.mp hr with rfl | hr
      · exact step a (List.mem_append_right _ List.mem_cons_self) c ha ha'
      · exact hP c (List.mem_append_right _ (List.mem_cons_of_mem a hr))

theorem updateFirst_map {g : α → β} (step : ∀ a ∈ l, ∀ a', p a = true → f a = some a' → g a' = g a)
    (h : updateFirst p f l = some l') : l'.map g = l.map g := by
  rcases updateFirst_cases h with ⟨rfl, -⟩ | ⟨before, a, a', rest, rfl, rfl, ha, ha'⟩
  · rfl
  · have hmem : a ∈ before ++ a :: rest := List.mem_append_right _ List.mem_cons_self
    simp only [List.map_append, List.map_cons, step a hmem a' ha ha']

section Owners

variable {g : α → List β}

theorem owner_unique {a b : α} {x : β} (hl : (l.flatMap g).Nodup) (ha : a ∈ l) (hb : b ∈ l)
    (hxa : x ∈ g a) (hxb : x ∈ g b) : a = b := by
  by_contra hne
  have hsymm : Std.Symm (Function.onFun List.Disjoint g) := ⟨fun _ _ h _ hy hx => h hx hy⟩
  exact (List.nodup_flatMap.mp hl).2.forall ha hb hne hxa hxb

/-- Records that only lose elements. -/
theorem updateFirst_sublist
    (step : ∀ a ∈ l, ∀ a', p a = true → f a = some a' → (g a').Sublist (g a))
    (h : updateFirst p f l = some l') : (l'.flatMap g).Sublist (l.flatMap g) := by
  rcases updateFirst_cases h with ⟨rfl, -⟩ | ⟨before, a, a', rest, rfl, rfl, ha, ha'⟩
  · exact List.Sublist.refl _
  · simp only [List.flatMap_append, List.flatMap_cons]
    have hmem : a ∈ before ++ a :: rest := List.mem_append_right _ List.mem_cons_self
    exact (List.Sublist.refl _).append ((step a hmem a' ha ha').append (List.Sublist.refl _))

/-- A record that takes an element which nobody owns. -/
theorem updateFirst_take {x : β} (hx : x ∉ l.flatMap g) (hl : (l.flatMap g).Nodup)
    (step : ∀ a ∈ l, ∀ a', p a = true → f a = some a' → g a' = g a ∨ g a' = g a ++ [x])
    (h : updateFirst p f l = some l') : (l'.flatMap g).Nodup := by
  rcases updateFirst_cases h with ⟨rfl, -⟩ | ⟨before, a, a', rest, rfl, rfl, ha, ha'⟩
  · exact hl
  · have hmem : a ∈ before ++ a :: rest := List.mem_append_right _ List.mem_cons_self
    simp only [List.flatMap_append, List.flatMap_cons] at hx hl ⊢
    rcases step a hmem a' ha ha' with hsame | htake
    · rw [hsame]
      exact hl
    · have hmoved : (before.flatMap g ++ (g a' ++ rest.flatMap g)).Perm
          (x :: (before.flatMap g ++ (g a ++ rest.flatMap g))) := by
        rw [htake]
        refine List.Perm.trans ?_ List.perm_middle
        refine List.Perm.append_left _ ?_
        rw [List.append_assoc, List.singleton_append]
        exact List.perm_middle
      exact hmoved.nodup_iff.mpr (List.nodup_cons.mpr ⟨hx, hl⟩)

/-- An element that only records satisfying the predicate own is given up by the first. -/
theorem updateFirst_release {x : β} (hl : (l.flatMap g).Nodup)
    (howner : ∀ a ∈ l, x ∈ g a → p a = true)
    (hheld : ∀ a, p a = true → x ∈ g a)
    (step : ∀ a ∈ l, ∀ a', p a = true → f a = some a' → x ∉ g a')
    (h : updateFirst p f l = some l') : x ∉ l'.flatMap g := by
  rcases updateFirst_cases h with ⟨rfl, hnone⟩ | ⟨before, a, a', rest, rfl, rfl, ha, ha'⟩
  · intro hx
    obtain ⟨a, ha, hxa⟩ := List.mem_flatMap.mp hx
    exact absurd (howner a ha hxa) (by simp [hnone a ha])
  · simp only [List.flatMap_append, List.flatMap_cons] at hl ⊢
    have hmem : a ∈ before ++ a :: rest := List.mem_append_right _ List.mem_cons_self
    have hxa := hheld a ha
    obtain ⟨-, hrest, hbefore⟩ := List.nodup_append.mp hl
    obtain ⟨-, -, hdisjoint⟩ := List.nodup_append.mp hrest
    intro hx
    rcases List.mem_append.mp hx with hb | hr
    · exact hbefore x hb x (List.mem_append_left _ hxa) rfl
    · rcases List.mem_append.mp hr with hnew | hr
      · exact step a hmem a' ha ha' hnew
      · exact hdisjoint x hxa x hr rfl

end Owners

end Table
