import Mathlib.Tactic.Common

/-!
# Systems of guarded actions

An action may be taken in the states that meet its guard and then has one outcome. A
run is a list of actions, so that the states it goes through are determined by the
first one. Properties of whole runs follow from what single actions preserve.
-/

universe u v

structure Labelled (σ : Type u) (α : Type v) where
  guard : α → σ → Prop
  act : α → σ → σ

namespace Labelled

variable {σ : Type u} {α : Type v} (S : Labelled σ α)

/-- The state after a list of actions. -/
def after : List α → σ → σ
  | [], s => s
  | a :: l, s => after l (S.act a s)

/-- Every action of the list is taken where its guard and the condition `C` hold. -/
def Fires (C : α → σ → Prop) : List α → σ → Prop
  | [], _ => True
  | a :: l, s => S.guard a s ∧ C a s ∧ Fires C l (S.act a s)

/-- Some list of actions that meet the condition leads from one state to the other. -/
def Leads (C : α → σ → Prop) (s s' : σ) : Prop := ∃ l, S.Fires C l s ∧ S.after l s = s'

variable {S} {C : α → σ → Prop}

theorem after_append (l l' : List α) (s : σ) : S.after (l ++ l') s = S.after l' (S.after l s) := by
  induction l generalizing s with
  | nil => rfl
  | cons a l ih => exact ih (S.act a s)

theorem fires_append {l l' : List α} {s : σ} :
    S.Fires C (l ++ l') s ↔ S.Fires C l s ∧ S.Fires C l' (S.after l s) := by
  induction l generalizing s with
  | nil => simp [Fires, after]
  | cons a l ih => simp only [List.cons_append, Fires, after, ih, and_assoc]

theorem Fires.mono {D : α → σ → Prop} (hCD : ∀ a s, C a s → D a s) {l : List α} {s : σ}
    (h : S.Fires C l s) : S.Fires D l s := by
  induction l generalizing s with
  | nil => trivial
  | cons a l ih => exact ⟨h.1, hCD a s h.2.1, ih h.2.2⟩

/-- A condition that every action of the list meets in any state. -/
theorem Fires.and_mem {D : α → Prop} {l : List α} {s : σ} (h : S.Fires C l s)
    (hD : ∀ a ∈ l, D a) : S.Fires (fun a s => C a s ∧ D a) l s := by
  induction l generalizing s with
  | nil => trivial
  | cons a l ih =>
    exact ⟨h.1, ⟨h.2.1, hD a List.mem_cons_self⟩,
      ih h.2.2 fun b hb => hD b (List.mem_cons_of_mem a hb)⟩

theorem Leads.refl (s : σ) : S.Leads C s s := ⟨[], trivial, rfl⟩

theorem Leads.trans {s s' s'' : σ} (h : S.Leads C s s') (h' : S.Leads C s' s'') :
    S.Leads C s s'' := by
  obtain ⟨l, hl, rfl⟩ := h
  obtain ⟨l', hl', rfl⟩ := h'
  exact ⟨l ++ l', fires_append.mpr ⟨hl, hl'⟩, after_append l l' s⟩

theorem Leads.act {s : σ} {a : α} (hg : S.guard a s) (hC : C a s) : S.Leads C s (S.act a s) :=
  ⟨[a], ⟨hg, hC, trivial⟩, rfl⟩

/-- What every action preserves holds along a run. -/
theorem Fires.inv {I : σ → Prop}
    (step : ∀ a s, I s → S.guard a s → C a s → I (S.act a s)) {l : List α} {s : σ}
    (hs : I s) (h : S.Fires C l s) : I (S.after l s) := by
  induction l generalizing s with
  | nil => exact hs
  | cons a l ih => exact ih (step a s hs h.1 h.2.1) h.2.2

theorem Leads.inv {I : σ → Prop}
    (step : ∀ a s, I s → S.guard a s → C a s → I (S.act a s)) {s s' : σ}
    (hs : I s) (h : S.Leads C s s') : I s' := by
  obtain ⟨l, hl, rfl⟩ := h
  exact hl.inv step hs

/-- A list of actions tried out, as long as guards and condition hold. -/
def attempt (S : Labelled σ α) (C : α → σ → Prop) [∀ a s, Decidable (S.guard a s)]
    [∀ a s, Decidable (C a s)] : List α → σ → Option σ
  | [], s => some s
  | a :: l, s => if S.guard a s ∧ C a s then attempt S C l (S.act a s) else none

theorem attempt_fires [∀ a s, Decidable (S.guard a s)] [∀ a s, Decidable (C a s)] {l : List α}
    {s s' : σ} (h : S.attempt C l s = some s') : S.Fires C l s ∧ S.after l s = s' := by
  induction l generalizing s with
  | nil => exact ⟨trivial, Option.some.inj h⟩
  | cons a l ih =>
    rw [attempt] at h
    split at h
    · rename_i hg
      obtain ⟨hrest, hend⟩ := ih h
      exact ⟨⟨hg.1, hg.2, hrest⟩, hend⟩
    · cases h

theorem attempt_leads [∀ a s, Decidable (S.guard a s)] [∀ a s, Decidable (C a s)] {l : List α}
    {s s' : σ} (h : S.attempt C l s = some s') : S.Leads C s s' := ⟨l, attempt_fires h⟩

/-- A system that matches every action of another one matches its runs. -/
theorem Leads.map {τ β : Type*} {T : Labelled τ β} {D : β → τ → Prop} (f : σ → τ)
    (step : ∀ a s, S.guard a s → C a s → T.Leads D (f s) (f (S.act a s))) {s s' : σ}
    (h : S.Leads C s s') : T.Leads D (f s) (f s') := by
  obtain ⟨l, hl, rfl⟩ := h
  induction l generalizing s with
  | nil => exact Leads.refl (f s)
  | cons a l ih => exact (step a s hl.1 hl.2.1).trans (ih hl.2.2)

end Labelled
