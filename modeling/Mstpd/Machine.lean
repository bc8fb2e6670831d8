import Mathlib.Tactic.Common
import Mathlib.Order.WellFounded

/-!
# Machines driven by tail recursion

A machine offers at most one transition in each state. Its run function takes
transitions until none is offered, or until an entry action declares that no
further condition can hold. Such a recursion need not end, so it carries fuel;
running out of fuel is `none`, and more fuel never changes a result.
-/

namespace Machine

universe u v
variable {σ : Type u} {α : Type v}

/-- One transition: the state after the entry action, and whether to look again. -/
abbrev Next (σ : Type u) := σ → Option (σ × Bool)

def run (next : Next σ) : Nat → σ → Option σ
  | 0, _ => none
  | fuel + 1, s =>
    match next s with
    | none => some s
    | some (s', true) => run next fuel s'
    | some (s', false) => some s'

/-- Run one action for each element of a list, in order. -/
def forEach (act : α → σ → Option σ) : List α → σ → Option σ
  | [], s => some s
  | a :: rest, s => (act a s).bind (forEach act rest)

/-- Repeat a pass while the prediction says that it would change something.
`late n` is the clock's verdict after pass number `n`. -/
def loop (pending : σ → Bool) (pass : σ → Option σ) (late : Nat → Bool) :
    Nat → Nat → σ → Option σ
  | 0, _, _ => none
  | fuel + 1, n, s =>
    if pending s then
      (pass s).bind fun s' => if late n then some s' else loop pending pass late fuel (n + 1) s'
    else some s

theorem run_inv {next : Next σ} {I : σ → Prop}
    (step : ∀ s s' again, I s → next s = some (s', again) → I s')
    {fuel : Nat} {s s' : σ} (hs : I s) (h : run next fuel s = some s') : I s' := by
  induction fuel generalizing s with
  | zero => cases h
  | succ fuel ih =>
    rw [run] at h
    split at h
    · exact Option.some.inj h ▸ hs
    · rename_i hn
      exact ih (step _ _ _ hs hn) h
    · rename_i hn
      exact Option.some.inj h ▸ step _ _ _ hs hn

/-- A run ends where no transition is offered, or after one that asks for no other. An
invariant holds where that last transition is taken. -/
theorem run_ends {next : Next σ} {I : σ → Prop}
    (step : ∀ s s' again, I s → next s = some (s', again) → I s') {fuel : Nat} {s s' : σ}
    (hs : I s) (h : run next fuel s = some s') :
    next s' = none ∨ ∃ s₀, I s₀ ∧ next s₀ = some (s', false) := by
  induction fuel generalizing s with
  | zero => cases h
  | succ fuel ih =>
    rw [run] at h
    split at h
    · rename_i hn
      exact Or.inl (Option.some.inj h ▸ hn)
    · rename_i hn
      exact ih (step _ _ _ hs hn) h
    · rename_i hn
      exact Or.inr ⟨s, hs, Option.some.inj h ▸ hn⟩

theorem run_stops {next : Next σ} {fuel : Nat} {s s' : σ} (h : run next fuel s = some s') :
    next s' = none ∨ ∃ s₀, next s₀ = some (s', false) := by
  rcases run_ends (I := fun _ => True) (fun _ _ _ _ _ => trivial) trivial h with hn | ⟨s₀, -, hn⟩
  · exact Or.inl hn
  · exact Or.inr ⟨s₀, hn⟩

theorem run_mono {next : Next σ} {fuel more : Nat} {s s' : σ} (hle : fuel ≤ more)
    (h : run next fuel s = some s') : run next more s = some s' := by
  induction fuel generalizing s more with
  | zero => cases h
  | succ fuel ih =>
    obtain ⟨more, rfl⟩ : ∃ k, more = k + 1 := ⟨more - 1, by omega⟩
    rw [run] at h ⊢
    split at h
    · exact h
    · exact ih (by omega) h
    · exact h

theorem forEach_inv {act : α → σ → Option σ} {I : σ → Prop} {l : List α}
    (step : ∀ a ∈ l, ∀ s s', I s → act a s = some s' → I s')
    {s s' : σ} (hs : I s) (h : forEach act l s = some s') : I s' := by
  induction l generalizing s with
  | nil => exact Option.some.inj h ▸ hs
  | cons a rest ih =>
    obtain ⟨m, ha, hrest⟩ := Option.bind_eq_some_iff.mp h
    exact ih (fun b hb => step b (List.mem_cons_of_mem a hb))
      (step a List.mem_cons_self s m hs ha) hrest

/-- What each element settles at its own turn, and no other turn disturbs, holds of all
elements in the end. -/
theorem forEach_settles {act : α → σ → Option σ} {I : σ → Prop} {P : α → σ → Prop} {l : List α}
    (keeps : ∀ a ∈ l, ∀ s s', I s → act a s = some s' → I s')
    (settles : ∀ a ∈ l, ∀ s s', I s → act a s = some s' → P a s')
    (stays : ∀ a ∈ l, ∀ b ∈ l, ∀ s s', I s → P a s → act b s = some s' → P a s')
    {s s' : σ} (hs : I s) (h : forEach act l s = some s') : ∀ a ∈ l, P a s' := by
  induction l generalizing s with
  | nil => simp
  | cons x rest ih =>
    obtain ⟨m, hx, hrest⟩ := Option.bind_eq_some_iff.mp h
    have hm : I m := keeps x List.mem_cons_self s m hs hx
    intro a ha
    rcases List.mem_cons.mp ha with rfl | hmem
    · have hP : P a m := settles a List.mem_cons_self s m hs hx
      have hboth : I s' ∧ P a s' := by
        refine forEach_inv (I := fun b => I b ∧ P a b) ?_ ⟨hm, hP⟩ hrest
        intro b hb u u' hu hact
        have hb' := List.mem_cons_of_mem a hb
        exact ⟨keeps b hb' u u' hu.1 hact,
          stays a List.mem_cons_self b hb' u u' hu.1 hu.2 hact⟩
      exact hboth.2
    · refine ih (fun b hb => keeps b (List.mem_cons_of_mem x hb))
        (fun b hb => settles b (List.mem_cons_of_mem x hb)) ?_ hm hrest a hmem
      intro b hb c hc
      exact stays b (List.mem_cons_of_mem x hb) c (List.mem_cons_of_mem x hc)

theorem loop_inv {pending : σ → Bool} {pass : σ → Option σ} {late : Nat → Bool}
    {I : σ → Prop} (step : ∀ s s', I s → pass s = some s' → I s')
    {fuel n : Nat} {s s' : σ} (hs : I s)
    (h : loop pending pass late fuel n s = some s') : I s' := by
  induction fuel generalizing s n with
  | zero => cases h
  | succ fuel ih =>
    rw [loop] at h
    split at h
    · obtain ⟨m, hp, hm⟩ := Option.bind_eq_some_iff.mp h
      have him := step s m hs hp
      split at hm
      · exact Option.some.inj hm ▸ him
      · exact ih him hm
    · exact Option.some.inj h ▸ hs

/-- What each pass brings about holds at the end, where it also holds if nothing is pending. -/
theorem loop_ends {pending : σ → Bool} {pass : σ → Option σ} {late : Nat → Bool}
    {I P : σ → Prop} (rests : ∀ s, I s → pending s = false → P s)
    (step : ∀ s s', I s → pass s = some s' → I s' ∧ P s') {fuel n : Nat} {s s' : σ} (hs : I s)
    (h : loop pending pass late fuel n s = some s') : P s' := by
  induction fuel generalizing s n with
  | zero => cases h
  | succ fuel ih =>
    rw [loop] at h
    split at h
    · obtain ⟨m, hp, hm⟩ := Option.bind_eq_some_iff.mp h
      obtain ⟨him, hpm⟩ := step s m hs hp
      split at hm
      · exact Option.some.inj hm ▸ hpm
      · exact ih him hm
    · rename_i hpending
      exact Option.some.inj h ▸ rests s hs (by simpa using hpending)

/-- Without a clock the loop ends only where nothing is pending. -/
theorem loop_settled {pending : σ → Bool} {pass : σ → Option σ} {late : Nat → Bool}
    (hlate : ∀ n, late n = false) {fuel n : Nat} {s s' : σ}
    (h : loop pending pass late fuel n s = some s') : pending s' = false := by
  induction fuel generalizing s n with
  | zero => cases h
  | succ fuel ih =>
    rw [loop] at h
    split at h
    · obtain ⟨m, hp, hm⟩ := Option.bind_eq_some_iff.mp h
      rw [hlate, if_neg (by simp)] at hm
      exact ih hm
    · rename_i hpending
      exact Option.some.inj h ▸ by simpa using hpending

/-- Where no transition is offered, a run does nothing. -/
theorem run_rest {next : Next σ} {fuel : Nat} {s : σ} (hfuel : 0 < fuel) (h : next s = none) :
    run next fuel s = some s := by
  obtain ⟨fuel, rfl⟩ : ∃ k, fuel = k + 1 := ⟨fuel - 1, by omega⟩
  rw [run, h]

theorem run_fuel_pos {next : Next σ} {fuel : Nat} {s s' : σ} (h : run next fuel s = some s') :
    0 < fuel := by
  cases fuel with
  | zero => cases h
  | succ fuel => exact Nat.succ_pos fuel

/-- A run that ends at rest changes the state exactly when it takes a transition: had it
come back to its first state, that state would offer none. -/
theorem run_changes_iff {next : Next σ} {fuel : Nat} {s s' : σ} (h : run next fuel s = some s')
    (hrest : next s' = none) : next s ≠ none ↔ s' ≠ s := by
  constructor
  · rintro hs rfl
    exact hs hrest
  · intro hne hs
    rw [run_rest (run_fuel_pos h) hs] at h
    exact hne (Option.some.inj h).symm

/-- A run ends when every transition lowers a measure. -/
theorem run_of_measure {next : Next σ} {I : σ → Prop} (μ : σ → Nat)
    (step : ∀ s s' again, I s → next s = some (s', again) → I s' ∧ μ s' < μ s) {fuel : Nat} {s : σ}
    (hs : I s) (hfuel : μ s < fuel) : ∃ r, run next fuel s = some r := by
  induction fuel generalizing s with
  | zero => omega
  | succ fuel ih =>
    rw [run]
    cases hn : next s with
    | none => exact ⟨s, rfl⟩
    | some r =>
      obtain ⟨s', again⟩ := r
      obtain ⟨hs', hlt⟩ := step s s' again hs hn
      cases again with
      | true => exact ih hs' (by omega)
      | false => exact ⟨s', rfl⟩

/-- A run does not end from states that all lead to one another. -/
theorem run_diverges {next : Next σ} {I : σ → Prop}
    (step : ∀ s, I s → ∃ s', next s = some (s', true) ∧ I s') {s : σ} (hs : I s) (fuel : Nat) :
    run next fuel s = none := by
  induction fuel generalizing s with
  | zero => rfl
  | succ fuel ih =>
    obtain ⟨s', hn, hs'⟩ := step s hs
    rw [run, hn]
    exact ih hs'

end Machine
