import Mathlib.Tactic.Common

/-!
# Queues delivered in waves

A wave is what a queue holds when it is detached. Handling an item may queue more, for the next
wave. One call that goes on until the queue is empty does what calls for single waves do.
-/

namespace Waves

/-- `handle` tells whether the item was delivered. An item that is dropped does not queue others. -/
structure Queued (S F : Type*) where
  queue : S → List F
  detach : S → S
  handle : F → S → Option (S × Bool)
  queue_detach : ∀ s, queue (detach s) = []
  detach_empty : ∀ s, queue s = [] → detach s = s
  queue_dropped : ∀ f s s', handle f s = some (s', false) → queue s' = queue s

/-- The items taken off the queue include the dropped ones, and the one that the budget stops at. -/
structure Outcome (S : Type*) where
  state : S
  delivered : Nat
  taken : Nat

section Waves

variable {S F : Type*}

def Outcome.after (r : Outcome S) (delivered taken : Nat) : Outcome S :=
  ⟨r.state, delivered + r.delivered, taken + r.taken⟩

/-- The next item. When the wave is over, `all` detaches what was queued meanwhile. -/
def Queued.next (q : Queued S F) (all : Bool) (wave : List F) (s : S) : Option (F × List F × S) :=
  match wave with
  | f :: wave => some (f, wave, s)
  | [] =>
    if all then
      match q.queue s with
      | f :: wave => some (f, wave, q.detach s)
      | [] => none
    else none

/-- Items are handled while the budget lasts. Then the rest is thrown away. -/
def Queued.loop (q : Queued S F) (all : Bool) : Nat → List F → S → Option (Outcome S)
  | budget, wave, s =>
    match q.next all wave s with
    | none => some ⟨s, 0, 0⟩
    | some (f, wave, s) =>
      match budget with
      | 0 => some ⟨q.detach s, 0, 1⟩
      | budget + 1 =>
        (q.handle f s).bind fun r =>
          (q.loop all budget wave r.1).map fun later => later.after (if r.2 then 1 else 0) 1

def Queued.deliver (q : Queued S F) (cap : Nat) (all : Bool) (s : S) : Option (Outcome S) :=
  q.loop all cap (q.queue s) (q.detach s)

/-- Single waves until one delivers nothing. -/
def Queued.waves (q : Queued S F) (cap : Nat) : Nat → S → Option (S × Nat)
  | 0, _ => none
  | fuel + 1, s =>
    (q.deliver cap false s).bind fun r =>
      if r.delivered = 0 then some (r.state, 0)
      else (q.waves cap fuel r.state).map fun later => (later.1, r.delivered + later.2)

variable {q : Queued S F} {all : Bool} {budget budget' : Nat} {wave : List F} {f : F} {s : S}
  {r : Outcome S}

theorem loop_wave_end (budget : Nat) (s : S) : q.loop false budget [] s = some ⟨s, 0, 0⟩ := by
  rw [Queued.loop]
  rfl

theorem loop_cons : q.loop all (budget + 1) (f :: wave) s =
    (q.handle f s).bind fun r =>
      (q.loop all budget wave r.1).map fun later => later.after (if r.2 then 1 else 0) 1 := by
  rw [Queued.loop]
  rfl

theorem loop_exhausted : q.loop all 0 (f :: wave) s = some ⟨q.detach s, 0, 1⟩ := by
  rw [Queued.loop]
  rfl

/-- At the end of a wave the next one is detached. -/
theorem loop_refill (budget : Nat) (s : S) :
    q.loop true budget [] s = q.loop true budget (q.queue s) (q.detach s) := by
  cases hqueue : q.queue s with
  | nil => rw [q.detach_empty s hqueue]
  | cons f wave =>
    have hnext : q.next true [] s = some (f, wave, q.detach s) := by
      simp only [Queued.next, if_true, hqueue]
    cases budget with
    | zero =>
      rw [Queued.loop, hnext, loop_exhausted]
    | succ budget =>
      rw [Queued.loop, hnext, loop_cons]

/-- What one item adds to the outcome of the rest. -/
theorem loop_step (h : q.loop all (budget + 1) (f :: wave) s = some r) :
    ∃ s' ok later, q.handle f s = some (s', ok) ∧ q.loop all budget wave s' = some later ∧
      r = later.after (if ok then 1 else 0) 1 := by
  rw [loop_cons] at h
  cases hhandle : q.handle f s with
  | none =>
    rw [hhandle] at h
    cases h
  | some next =>
    rw [hhandle, Option.bind_some] at h
    cases hlater : q.loop all budget wave next.1 with
    | none =>
      rw [hlater] at h
      cases h
    | some later =>
      rw [hlater, Option.map_some] at h
      exact ⟨next.1, next.2, later, rfl, hlater, (Option.some.inj h).symm⟩

/-- A budget that lasts may as well be larger. -/
theorem loop_mono (hle : budget ≤ budget') (h : q.loop false budget wave s = some r)
    (hlasts : r.taken ≤ budget) : q.loop false budget' wave s = some r := by
  induction wave generalizing budget budget' s r with
  | nil =>
    rw [loop_wave_end] at h ⊢
    exact h
  | cons f wave ih =>
    cases budget with
    | zero =>
      rw [loop_exhausted] at h
      obtain rfl := Option.some.inj h
      exact absurd hlasts (Nat.not_succ_le_zero 0)
    | succ budget =>
      obtain ⟨s', ok, later, hhandle, hlater, rfl⟩ := loop_step h
      obtain ⟨budget', rfl⟩ := Nat.exists_eq_succ_of_ne_zero (n := budget') (by omega)
      have htaken : 1 + later.taken ≤ budget + 1 := hlasts
      rw [loop_cons, hhandle, Option.bind_some, ih (by omega) hlater (by omega)]
      rfl

/-- The loop first comes to the end of the wave. -/
theorem loop_first_wave (h : q.loop true budget wave s = some r) (hlasts : r.taken ≤ budget) :
    ∃ first rest, q.loop false budget wave s = some first ∧
      q.loop true (budget - first.taken) [] first.state = some rest ∧
      r = rest.after first.delivered first.taken := by
  induction wave generalizing budget s r with
  | nil =>
    refine ⟨⟨s, 0, 0⟩, r, loop_wave_end budget s, h, ?_⟩
    simp [Outcome.after]
  | cons f wave ih =>
    cases budget with
    | zero =>
      rw [loop_exhausted] at h
      obtain rfl := Option.some.inj h
      exact absurd hlasts (Nat.not_succ_le_zero 0)
    | succ budget =>
      obtain ⟨s', ok, later, hhandle, hlater, rfl⟩ := loop_step h
      have htaken : 1 + later.taken ≤ budget + 1 := hlasts
      obtain ⟨first, rest, hfirst, hrest, rfl⟩ := ih hlater (by omega)
      refine ⟨first.after (if ok then 1 else 0) 1, rest, ?_, ?_, ?_⟩
      · rw [loop_cons, hhandle, Option.bind_some, hfirst]
        rfl
      · have hleft : budget + 1 - (1 + first.taken) = budget - first.taken := by omega
        rw [Outcome.after]
        dsimp only
        rw [hleft]
        exact hrest
      · simp [Outcome.after, Nat.add_assoc]

/-- What delivers nothing leaves the queue as it was, and delivering takes something. -/
theorem loop_idle (h : q.loop false budget wave s = some r) (hlasts : r.taken ≤ budget) :
    (r.delivered = 0 → q.queue r.state = q.queue s) ∧ r.delivered ≤ r.taken := by
  induction wave generalizing budget s r with
  | nil =>
    rw [loop_wave_end] at h
    obtain rfl := Option.some.inj h
    exact ⟨fun _ => rfl, Nat.le_refl 0⟩
  | cons f wave ih =>
    cases budget with
    | zero =>
      rw [loop_exhausted] at h
      obtain rfl := Option.some.inj h
      exact absurd hlasts (Nat.not_succ_le_zero 0)
    | succ budget =>
      obtain ⟨s', ok, later, hhandle, hlater, rfl⟩ := loop_step h
      have htaken : 1 + later.taken ≤ budget + 1 := hlasts
      obtain ⟨hqueue, hle⟩ := ih hlater (by omega)
      rw [Outcome.after]
      dsimp only
      cases ok with
      | true =>
        refine ⟨fun hzero => ?_, ?_⟩
        · rw [if_pos rfl] at hzero
          omega
        · rw [if_pos rfl]
          omega
      | false =>
        rw [if_neg Bool.false_ne_true]
        refine ⟨fun hzero => ?_, by omega⟩
        rw [hqueue (by omega), q.queue_dropped f s s' hhandle]

/-- Waves come to the same as one call, as long as its budget lasts. -/
theorem waves_eq {cap : Nat} (budget : Nat) : ∀ (s : S) (r : Outcome S) (fuel : Nat),
    budget ≤ cap → q.loop true budget (q.queue s) (q.detach s) = some r → r.taken ≤ budget →
      r.taken < fuel → q.waves cap fuel s = some (r.state, r.delivered) := by
  induction budget using Nat.strongRecOn with
  | _ budget ih =>
    intro s r fuel hcap h hlasts hfuel
    obtain ⟨fuel, rfl⟩ := Nat.exists_eq_succ_of_ne_zero (n := fuel) (by omega)
    obtain ⟨first, rest, hfirst, hrest, rfl⟩ := loop_first_wave h hlasts
    have htaken : first.taken + rest.taken ≤ budget := hlasts
    have hmore : first.taken + rest.taken < fuel + 1 := hfuel
    obtain ⟨hidle, hle⟩ := loop_idle hfirst (by omega)
    have hdeliver : q.deliver cap false s = some first := loop_mono hcap hfirst (by omega)
    rw [Queued.waves, hdeliver, Option.bind_some]
    rw [loop_refill] at hrest
    by_cases hzero : first.delivered = 0
    · have hempty : q.queue first.state = [] := (hidle hzero).trans (q.queue_detach s)
      have hend : rest = ⟨first.state, 0, 0⟩ := by
        rw [q.detach_empty first.state hempty, hempty, Queued.loop] at hrest
        simpa [Queued.next, hempty] using hrest.symm
      rw [if_pos hzero, hend]
      simp [Outcome.after, hzero]
    · have hlater := ih (budget - first.taken) (by omega) first.state rest fuel (by omega) hrest
        (by omega) (by omega)
      rw [if_neg hzero, hlater]
      rfl

/-- Delivering until the queue is empty, or wave by wave. -/
theorem waves_deliver {cap fuel : Nat} (h : q.deliver cap true s = some r) (hlasts : r.taken ≤ cap)
    (hfuel : r.taken < fuel) : q.waves cap fuel s = some (r.state, r.delivered) :=
  waves_eq cap s r fuel (Nat.le_refl cap) h hlasts hfuel

end Waves

end Waves
