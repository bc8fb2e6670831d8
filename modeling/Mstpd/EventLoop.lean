import Mathlib.Data.List.Nodup
import Mstpd.CtlSocket

/-!
# The main loop

The loop waits for events until the next second is due, and then hands each event to its handler.
Handlers may remove each other while events are still to be handed out.
-/

namespace Mstpd.EventLoop

open CtlSocket (wrapInt)

/-! ## Time -/

structure Timespec where
  tvSec : Int
  tvNsec : Int
  nonneg : 0 ≤ tvNsec
  lt : tvNsec < 1000000000

/-- The time in nanoseconds. -/
def Timespec.ns (t : Timespec) : Int := t.tvSec * 1000000000 + t.tvNsec

/-- `++(t.tv_sec)`. -/
def Timespec.nextSecond (t : Timespec) : Timespec := { t with tvSec := t.tvSec + 1 }

@[simp] theorem Timespec.nextSecond_ns (t : Timespec) :
    t.nextSecond.ns = t.ns + 1000000000 := by
  simp only [Timespec.ns, Timespec.nextSecond]
  omega

/-- The difference in milliseconds, as a `long` and converted to `int`. -/
def timeDiff (second first : Timespec) : Int :=
  wrapInt ((second.tvSec - first.tvSec) * 1000 + (second.tvNsec - first.tvNsec).tdiv 1000000)

/-- `nexttimeout`, and how often `bridge_one_second` has been called. -/
structure Ticker where
  nexttimeout : Timespec
  ticks : Nat := 0

def Ticker.start (now : Timespec) : Ticker := { nexttimeout := now.nextSecond }

def Ticker.runTimeouts (c : Ticker) : Ticker :=
  { nexttimeout := c.nexttimeout.nextSecond, ticks := c.ticks + 1 }

/-- One turn of the loop that begins at a time: what it waits for, in milliseconds. -/
def Ticker.turn (c : Ticker) (tv : Timespec) : Ticker × Int :=
  let timeout := timeDiff c.nexttimeout tv
  if timeout < 0 ∨ 1000 < timeout then
    let c := c.runTimeouts
    -- most probably, system time has changed
    if timeout < -4000 ∨ 1000 < timeout then ({ c with nexttimeout := tv.nextSecond }, 0)
    else (c, 0)
  else (c, timeout)

/-- The turns that begin at these times. -/
def Ticker.turns (c : Ticker) : List Timespec → Ticker
  | [] => c
  | tv :: rest => (c.turn tv).1.turns rest

/-- No turn begins more than four seconds late. -/
def Ticker.InTime (c : Ticker) : List Timespec → Prop
  | [] => True
  | tv :: rest => tv.ns ≤ c.nexttimeout.ns + 4000000000 ∧ (c.turn tv).1.InTime rest

instance Ticker.decidableInTime : (c : Ticker) → (times : List Timespec) →
    Decidable (c.InTime times)
  | _, [] => isTrue trivial
  | c, tv :: rest =>
    have : Decidable ((c.turn tv).1.InTime rest) := decidableInTime (c.turn tv).1 rest
    inferInstanceAs (Decidable (_ ∧ _))

/-- The clock does not go back. -/
def Monotone (now : Timespec) : List Timespec → Prop
  | [] => True
  | tv :: rest => now.ns ≤ tv.ns ∧ Monotone tv rest

section Time

variable {start now tv : Timespec} {c : Ticker}

/-- The difference before it is converted is that of the times, rounded towards zero. -/
theorem millis_bounds (second first : Timespec) :
    let d := (second.tvSec - first.tvSec) * 1000 + (second.tvNsec - first.tvNsec).tdiv 1000000
    second.ns - first.ns - 1000000 < d * 1000000 ∧
      d * 1000000 < second.ns - first.ns + 1000000 := by
  have hsplit := Int.mul_tdiv_add_tmod (second.tvNsec - first.tvNsec) 1000000
  have hlow := Int.lt_tmod_of_pos (second.tvNsec - first.tvNsec) (by decide : (0 : Int) < 1000000)
  have hhigh := Int.tmod_lt_of_pos (second.tvNsec - first.tvNsec) (by decide : (0 : Int) < 1000000)
  simp only [Timespec.ns]
  omega

/-- Where the timeout is at most a second away, no wrap of the difference hides that it is late. -/
theorem late_of_timeDiff {second first : Timespec} (hnear : second.ns ≤ first.ns + 1000000000)
    (h : timeDiff second first < 0 ∨ 1000 < timeDiff second first) : second.ns < first.ns := by
  obtain ⟨hlow, hhigh⟩ := millis_bounds second first
  simp only [timeDiff, wrapInt] at h
  omega

/-- One turn: how long it waits, when the next second is due, and when a second has passed. -/
theorem turn_spec (hnear : c.nexttimeout.ns ≤ tv.ns + 1000000000) :
    0 ≤ (c.turn tv).2 ∧ (c.turn tv).2 ≤ 1000 ∧
    (c.turn tv).1.nexttimeout.ns ≤ tv.ns + 1000000000 ∧
    ((c.turn tv).1 = c ∨ (c.turn tv).1.ticks = c.ticks + 1 ∧ (c.turn tv).2 = 0 ∧
      c.nexttimeout.ns < tv.ns ∧ c.nexttimeout.ns + 1000000000 ≤ (c.turn tv).1.nexttimeout.ns) := by
  by_cases hdue : timeDiff c.nexttimeout tv < 0 ∨ 1000 < timeDiff c.nexttimeout tv
  · have hlate := late_of_timeDiff hnear hdue
    by_cases hjump : timeDiff c.nexttimeout tv < -4000 ∨ 1000 < timeDiff c.nexttimeout tv
    · have hturn : c.turn tv = ({ c.runTimeouts with nexttimeout := tv.nextSecond }, 0) := by
        simp only [Ticker.turn, if_pos hdue, if_pos hjump]
      rw [hturn]
      simp only [Timespec.nextSecond_ns, Ticker.runTimeouts]
      refine ⟨by omega, by omega, by omega, Or.inr ⟨trivial, trivial, hlate, by omega⟩⟩
    · have hturn : c.turn tv = (c.runTimeouts, 0) := by
        simp only [Ticker.turn, if_pos hdue, if_neg hjump]
      rw [hturn]
      simp only [Timespec.nextSecond_ns, Ticker.runTimeouts]
      refine ⟨by omega, by omega, by omega, Or.inr ⟨trivial, trivial, hlate, by omega⟩⟩
  · have hturn : c.turn tv = (c, timeDiff c.nexttimeout tv) := by
      simp only [Ticker.turn, if_neg hdue]
    rw [hturn]
    refine ⟨by omega, by omega, hnear, Or.inl rfl⟩

theorem turn_waits (h : 0 < (c.turn tv).2) : c.turn tv = (c, timeDiff c.nexttimeout tv) := by
  by_cases hdue : timeDiff c.nexttimeout tv < 0 ∨ 1000 < timeDiff c.nexttimeout tv
  · simp only [Ticker.turn, if_pos hdue] at h
    split at h
    · omega
    · omega
  · simp only [Ticker.turn, if_neg hdue]

/-- The clock has shown `now` when the loop is in this state, since it began at `start`. -/
structure Paced (start now : Timespec) (c : Ticker) : Prop where
  began : start.ns ≤ now.ns
  near : c.nexttimeout.ns ≤ now.ns + 1000000000
  due : start.ns + (c.ticks + 1) * 1000000000 ≤ c.nexttimeout.ns
  passed : start.ns + c.ticks * 1000000000 ≤ now.ns

theorem paced_start (start : Timespec) : Paced start start (Ticker.start start) := by
  refine ⟨le_refl _, ?_, ?_, ?_⟩
  all_goals simp only [Ticker.start, Timespec.nextSecond_ns, Nat.cast_zero]; omega

/-- Each second that is counted has passed before. -/
theorem Paced.turn (h : Paced start now c) (hnow : now.ns ≤ tv.ns) :
    Paced start tv (c.turn tv).1 := by
  obtain ⟨hbegan, hnear, hdue, hpassed⟩ := h
  have hahead : c.nexttimeout.ns ≤ tv.ns + 1000000000 := by omega
  obtain ⟨-, -, hnext, hcases⟩ := turn_spec hahead
  rcases hcases with hsame | ⟨hticks, -, hlate, hlater⟩
  · rw [hsame] at hnext ⊢
    exact ⟨by omega, hnext, hdue, by omega⟩
  · refine ⟨by omega, hnext, ?_, ?_⟩
    · rw [hticks]
      push_cast
      omega
    · rw [hticks]
      push_cast
      omega

/-- Without a wrap, the difference is that of the times. -/
theorem timeDiff_near {second first : Timespec} (hnear : second.ns ≤ first.ns + 1000000000)
    (hin : first.ns ≤ second.ns + 4000000000) : -4000 ≤ timeDiff second first ∧
      timeDiff second first ≤ 1000 ∧ (0 < timeDiff second first → first.ns < second.ns) := by
  obtain ⟨hlow, hhigh⟩ := millis_bounds second first
  simp only [timeDiff, wrapInt]
  omega

/-- As long as no turn is late, a second is due every second from the beginning. -/
theorem turn_inTime (hnear : c.nexttimeout.ns ≤ tv.ns + 1000000000)
    (hexact : c.nexttimeout.ns = start.ns + (c.ticks + 1) * 1000000000)
    (hin : tv.ns ≤ c.nexttimeout.ns + 4000000000) :
    (c.turn tv).1.nexttimeout.ns = start.ns + ((c.turn tv).1.ticks + 1) * 1000000000 := by
  obtain ⟨hlow, hhigh, -⟩ := timeDiff_near hnear hin
  have hjump : ¬ (timeDiff c.nexttimeout tv < -4000 ∨ 1000 < timeDiff c.nexttimeout tv) := by omega
  simp only [Ticker.turn, if_neg hjump]
  split
  · simp only [Ticker.runTimeouts, Timespec.nextSecond_ns]
    push_cast
    omega
  · exact hexact

theorem Paced.turns {times : List Timespec} (h : Paced start now c)
    (hmono : Monotone now (times ++ [tv])) :
    ∃ last : Timespec, Paced start last (c.turns times) ∧ last.ns ≤ tv.ns := by
  induction times generalizing now c with
  | nil => exact ⟨now, h, hmono.1⟩
  | cons time rest ih => exact ih (h.turn hmono.1) hmono.2

theorem turns_inTime {times : List Timespec} (h : Paced start now c)
    (hexact : c.nexttimeout.ns = start.ns + (c.ticks + 1) * 1000000000)
    (hmono : Monotone now (times ++ [tv])) (hin : c.InTime (times ++ [tv])) :
    (c.turns times).nexttimeout.ns = start.ns + ((c.turns times).ticks + 1) * 1000000000 ∧
      tv.ns ≤ (c.turns times).nexttimeout.ns + 4000000000 := by
  induction times generalizing now c with
  | nil => exact ⟨hexact, hin.1⟩
  | cons time rest ih =>
    have hnear : c.nexttimeout.ns ≤ time.ns + 1000000000 := by
      have hnow := hmono.1
      have hlimit := h.near
      omega
    exact ih (h.turn hmono.1) (turn_inTime hnear hexact hin.1) hmono.2 hin.2

/-- However long the handlers take, the loop never waits for more than a second and never counts a
second that has not passed. While it is no more than four seconds late, it has counted all
seconds that have passed whenever it waits. -/
theorem seconds_counted {times : List Timespec} (hmono : Monotone start (times ++ [tv])) :
    0 ≤ (((Ticker.start start).turns times).turn tv).2 ∧
    (((Ticker.start start).turns times).turn tv).2 ≤ 1000 ∧
    ((((Ticker.start start).turns times).turn tv).1.ticks : Int) ≤
      (tv.ns - start.ns) / 1000000000 ∧
    ((Ticker.start start).InTime (times ++ [tv]) →
      0 < (((Ticker.start start).turns times).turn tv).2 →
      ((((Ticker.start start).turns times).turn tv).1.ticks : Int) =
        (tv.ns - start.ns) / 1000000000) := by
  obtain ⟨last, hpaced, hlast⟩ := (paced_start start).turns hmono
  have hfirst : (Ticker.start start).nexttimeout.ns =
      start.ns + ((Ticker.start start).ticks + 1) * 1000000000 := by
    simp only [Ticker.start, Timespec.nextSecond_ns, Nat.cast_zero]
    omega
  have hexact := turns_inTime (paced_start start) hfirst hmono
  generalize (Ticker.start start).turns times = c at hpaced hexact ⊢
  have hnear : c.nexttimeout.ns ≤ tv.ns + 1000000000 := by
    have hlimit := hpaced.near
    omega
  obtain ⟨hlow, hhigh, -, -⟩ := turn_spec hnear
  have hpassed := (hpaced.turn hlast).passed
  refine ⟨hlow, hhigh, by omega, fun hin hwait => ?_⟩
  obtain ⟨hdue, hlate⟩ := hexact hin
  have hturn := turn_waits hwait
  rw [hturn] at hpassed hwait
  have hahead := (timeDiff_near hnear hlate).2.2 hwait
  have hticks : ((c.turn tv).1.ticks : Int) = c.ticks := by rw [hturn]
  rw [hticks]
  dsimp only at hpassed
  omega

end Time

/-- A time that many half seconds after zero. -/
def sampleTime (half : Nat) : Timespec := ⟨half / 2, half % 2 * 500000000, by omega, by omega⟩

/-- Turns at multiples of half a second, one of which comes late: five seconds are counted. -/
theorem sample_seconds_counted :
    let turns :=
      (Ticker.start (sampleTime 0)).turns ([1, 2, 3, 4, 5, 10, 11, 11, 11].map sampleTime)
    (turns.turn (sampleTime 11)).2 = 500 ∧
      ((turns.turn (sampleTime 11)).1.ticks : Int) =
        ((sampleTime 11).ns - (sampleTime 0).ns) / 1000000000 := by
  have hmono : Monotone (sampleTime 0)
      ([1, 2, 3, 4, 5, 10, 11, 11, 11].map sampleTime ++ [sampleTime 11]) := by
    simp [Monotone, sampleTime, Timespec.ns]
  obtain ⟨-, -, -, hexact⟩ := seconds_counted hmono
  have hwait : (((Ticker.start (sampleTime 0)).turns
      ([1, 2, 3, 4, 5, 10, 11, 11, 11].map sampleTime)).turn (sampleTime 11)).2 = 500 := by
    decide +kernel
  refine ⟨hwait, hexact (by decide +kernel) ?_⟩
  rw [hwait]
  decide

/-! ## Handing out events -/

/-- What a handler may do to the set of handlers. -/
inductive Call (H : Type)
  | add (h : H)
  | remove (h : H)

/-- What has happened while a batch of events was handed out. -/
inductive Did (H : Type)
  | called (h : H)
  | removed (h : H)
  /-- A call of `add_epoll` that the kernel refused. -/
  | refused (h : H)
  deriving DecidableEq

/-- The array `ev`, the member `ref_ev` of each handler, and what the kernel knows. -/
structure Batch (H : Type) where
  ptr : Nat → Option H
  refEv : H → Option Nat
  registered : H → Bool
  past : List (Did H)

section Dispatch

variable {H : Type} [DecidableEq H]

def addEpoll (h : H) (e : Batch H) : Batch H :=
  let e := { e with refEv := fun g => if g = h then none else e.refEv g }
  if e.registered h then { e with past := e.past ++ [.refused h] }
  else { e with registered := fun g => if g = h then true else e.registered g }

def removeEpoll (h : H) (e : Batch H) : Batch H :=
  if !e.registered h then e
  else
    let e :=
      { e with
        registered := fun g => if g = h then false else e.registered g
        past := e.past ++ [.removed h] }
    match e.refEv h with
    | none => e
    | some i =>
      if e.ptr i = some h then
        { e with
          ptr := fun j => if j = i then none else e.ptr j
          refEv := fun g => if g = h then none else e.refEv g }
      else e

def Call.perform (e : Batch H) : Call H → Batch H
  | .add h => addEpoll h e
  | .remove h => removeEpoll h e

/-- What the handlers do when event `i` is handed to them, unless `handler` is a null pointer. -/
abbrev Handlers (H : Type) := Nat → H → Option (List (Call H))

def handOut (handlers : Handlers H) (i : Nat) (e : Batch H) : Batch H :=
  match e.ptr i with
  | none => e
  | some p =>
    match handlers i p with
    | none => e
    | some calls => calls.foldl Call.perform { e with past := e.past ++ [.called p] }

/-- The events from `i` on. -/
def handOutFrom (handlers : Handlers H) : Nat → Nat → Batch H → Batch H
  | 0, _, e => e
  | n + 1, i, e => handOutFrom handlers n (i + 1) (handOut handlers i e)

/-- The first loop over the events. -/
def point : Nat → Batch H → Batch H
  | 0, e => e
  | n + 1, e =>
    match (point n e).ptr n with
    | none => point n e
    | some p => { point n e with refEv := fun g => if g = p then some n else (point n e).refEv g }

/-- The last loop over the events. -/
def unpoint : Nat → Batch H → Batch H
  | 0, e => e
  | n + 1, e =>
    match (unpoint n e).ptr n with
    | none => unpoint n e
    | some p => { unpoint n e with refEv := fun g => if g = p then none else (unpoint n e).refEv g }

/-- What the kernel reports for some of the handlers. -/
def reported (ready : List H) (registered : H → Bool) : Batch H where
  ptr i := ready[i]?
  refEv _ := none
  registered := registered
  past := []

/-- A batch from its report to its end. -/
def batch (handlers : Handlers H) (ready : List H) (registered : H → Bool) : Batch H :=
  let r := ready.length
  unpoint r (handOutFrom handlers r 0 (point r (reported ready registered)))

/-! ## What is handed out -/

/-- Two things that happen in this order. -/
def Follows (a b : Did H) : Prop := ∀ h, a = .removed h → b ≠ .called h

/-- Events and handlers point to each other, and what has been removed is not pointed to. -/
structure Consistent (e : Batch H) : Prop where
  pointed : ∀ j h, e.ptr j = some h → e.refEv h = some j ∧ e.registered h = true
  points : ∀ h j, e.refEv h = some j → e.ptr j = some h
  gone : ∀ h, .removed h ∈ e.past → ∀ j, e.ptr j ≠ some h
  order : e.past.Pairwise Follows

variable {e : Batch H} {h : H}

omit [DecidableEq H] in
theorem pairwise_snoc {l : List (Did H)} {d : Did H} (hl : l.Pairwise Follows)
    (hd : ∀ h, d = .called h → .removed h ∉ l) : (l ++ [d]).Pairwise Follows := by
  refine List.pairwise_append.mpr ⟨hl, List.pairwise_singleton _ d, ?_⟩
  intro a ha b hb h hremoved hcalled
  rw [List.mem_singleton.mp hb] at hcalled
  exact hd h hcalled (hremoved ▸ ha)

theorem addEpoll_consistent (hi : Consistent e) (hnew : e.registered h = false) :
    Consistent (addEpoll h e) ∧ (addEpoll h e).past = e.past ∧ (addEpoll h e).ptr = e.ptr := by
  simp only [addEpoll, hnew, Bool.false_eq_true, if_false]
  refine ⟨⟨fun j g hg => ?_, fun g j hg => ?_, hi.gone, hi.order⟩, trivial, trivial⟩
  · obtain ⟨hpoint, hreg⟩ := hi.pointed j g hg
    have hne : g ≠ h := by
      rintro rfl
      rw [hnew] at hreg
      cases hreg
    exact ⟨(if_neg hne).trans hpoint, (if_neg hne).trans hreg⟩
  · dsimp only at hg
    split at hg
    · cases hg
    · exact hi.points g j hg

/-- A handler that is removed takes its event with it. -/
theorem removeEpoll_consistent (hi : Consistent e) (hreg : e.registered h = true) :
    Consistent (removeEpoll h e) ∧ (removeEpoll h e).past = e.past ++ [.removed h] ∧
      ∀ j g, (removeEpoll h e).ptr j = some g ↔ e.ptr j = some g ∧ g ≠ h := by
  have horder : (e.past ++ [Did.removed h]).Pairwise Follows :=
    pairwise_snoc hi.order fun g hg => by cases hg
  cases href : e.refEv h with
  | none =>
    have hnot : ∀ j, e.ptr j ≠ some h := by
      intro j hj
      rw [(hi.pointed j h hj).1] at href
      cases href
    have heq : removeEpoll h e = { e with
        registered := fun g => if g = h then false else e.registered g
        past := e.past ++ [.removed h] } := by
      simp only [removeEpoll, hreg, href, Bool.not_true, Bool.false_eq_true, if_false]
    rw [heq]
    refine ⟨⟨fun j g hg => ?_, hi.points, fun g hg j hj => ?_, horder⟩, rfl, fun j g => ?_⟩
    · have hne : g ≠ h := fun hgh => hnot j (hgh ▸ hg)
      exact ⟨(hi.pointed j g hg).1, (if_neg hne).trans (hi.pointed j g hg).2⟩
    · rcases List.mem_append.mp hg with hold | hlast
      · exact hi.gone g hold j hj
      · cases List.mem_singleton.mp hlast
        exact hnot j hj
    · exact ⟨fun hg => ⟨hg, fun hgh => hnot j (hgh ▸ hg)⟩, fun hg => hg.1⟩
  | some i =>
    have hptr : e.ptr i = some h := hi.points h i href
    have honly : ∀ j, e.ptr j = some h → j = i := by
      intro j hj
      have hsame := (hi.pointed j h hj).1
      rw [href] at hsame
      exact (Option.some.inj hsame).symm
    have heq : removeEpoll h e = { e with
        registered := fun g => if g = h then false else e.registered g
        past := e.past ++ [.removed h]
        ptr := fun j => if j = i then none else e.ptr j
        refEv := fun g => if g = h then none else e.refEv g } := by
      simp only [removeEpoll, hreg, href, hptr, Bool.not_true, Bool.false_eq_true, if_false,
        if_true]
    have hleft : ∀ j g, (if j = i then none else e.ptr j) = some g ↔ e.ptr j = some g ∧ g ≠ h := by
      intro j g
      constructor
      · intro hg
        split at hg
        · cases hg
        · rename_i hji
          exact ⟨hg, fun hgh => hji (honly j (hgh ▸ hg))⟩
      · rintro ⟨hg, hne⟩
        have hji : j ≠ i := by
          rintro rfl
          rw [hptr] at hg
          exact hne (Option.some.inj hg).symm
        rw [if_neg hji]
        exact hg
    rw [heq]
    refine ⟨⟨fun j g hg => ?_, fun g j hg => ?_, fun g hg j hj => ?_, horder⟩, rfl, hleft⟩
    · obtain ⟨hold, hne⟩ := (hleft j g).mp hg
      exact ⟨(if_neg hne).trans (hi.pointed j g hold).1, (if_neg hne).trans (hi.pointed j g hold).2⟩
    · dsimp only at hg
      split at hg
      · cases hg
      · rename_i hne
        exact (hleft j g).mpr ⟨hi.points g j hg, hne⟩
    · obtain ⟨hold, hne⟩ := (hleft j g).mp hj
      rcases List.mem_append.mp hg with hbefore | hlast
      · exact hi.gone g hbefore j hold
      · cases List.mem_singleton.mp hlast
        exact hne rfl

/-- A call of a handler removes at most one, and adds only what was not there. -/
theorem perform_cases (hi : Consistent e) {c : Call H}
    (hno : ∀ g, .refused g ∉ (c.perform e).past) :
    Consistent (c.perform e) ∧
      ((c.perform e).past = e.past ∧ (c.perform e).ptr = e.ptr ∨
        ∃ h, (c.perform e).past = e.past ++ [.removed h] ∧
          ∀ j g, (c.perform e).ptr j = some g ↔ e.ptr j = some g ∧ g ≠ h) := by
  cases c with
  | add h =>
    cases hreg : e.registered h with
    | false =>
      obtain ⟨hconsistent, hpast, hptr⟩ := addEpoll_consistent hi hreg
      exact ⟨hconsistent, Or.inl ⟨hpast, hptr⟩⟩
    | true =>
      refine absurd ?_ (hno h)
      simp only [Call.perform, addEpoll, hreg, if_true]
      exact List.mem_append_right _ List.mem_cons_self
  | remove h =>
    cases hreg : e.registered h with
    | false =>
      have hsame : removeEpoll h e = e := by simp only [removeEpoll, hreg, Bool.not_false, if_true]
      rw [Call.perform, hsame]
      exact ⟨hi, Or.inl ⟨rfl, rfl⟩⟩
    | true =>
      obtain ⟨hconsistent, hpast, hptr⟩ := removeEpoll_consistent hi hreg
      exact ⟨hconsistent, Or.inr ⟨h, hpast, hptr⟩⟩

/-- The events before `i` have been handed out. -/
structure Progress (handlers : Handlers H) (ready : List H) (i : Nat) (e : Batch H) : Prop where
  consistent : Consistent e
  within : ∀ j h, e.ptr j = some h → ready[j]? = some h
  pending : ∀ j h, ready[j]? = some h → e.ptr j = some h ∨ .removed h ∈ e.past
  later : ∀ j h, ready[j]? = some h → i ≤ j → .called h ∉ e.past
  served : ∀ j h, ready[j]? = some h → j < i → (handlers j h).isSome = true →
    .called h ∈ e.past ∨ .removed h ∈ e.past
  once : ∀ h, e.past.count (.called h) ≤ 1
  listed : ∀ h, .called h ∈ e.past → h ∈ ready

section Progress

variable {handlers : Handlers H} {ready : List H} {i n : Nat}

theorem Progress.perform (hp : Progress handlers ready i e) {c : Call H}
    (hno : ∀ g, .refused g ∉ (c.perform e).past) : Progress handlers ready i (c.perform e) := by
  obtain ⟨hconsistent, hcases⟩ := perform_cases hp.consistent hno
  rcases hcases with ⟨hpast, hptr⟩ | ⟨h, hpast, hptr⟩
  · constructor
    · exact hconsistent
    · exact hptr ▸ hp.within
    · exact hptr ▸ hpast ▸ hp.pending
    · exact hpast ▸ hp.later
    · exact hpast ▸ hp.served
    · exact hpast ▸ hp.once
    · exact hpast ▸ hp.listed
  · have hcalled : ∀ g, Did.called g ∈ (c.perform e).past ↔ Did.called g ∈ e.past := by
      intro g
      rw [hpast, List.mem_append, List.mem_singleton]
      simp
    have hremoved : ∀ g, Did.removed g ∈ e.past → Did.removed g ∈ (c.perform e).past := by
      intro g hg
      rw [hpast]
      exact List.mem_append_left _ hg
    constructor
    · exact hconsistent
    · exact fun j g hg => hp.within j g ((hptr j g).mp hg).1
    · intro j g hg
      rcases hp.pending j g hg with hin | hgone
      · by_cases hgh : g = h
        · refine Or.inr ?_
          rw [hpast, hgh]
          exact List.mem_append_right _ List.mem_cons_self
        · exact Or.inl ((hptr j g).mpr ⟨hin, hgh⟩)
      · exact Or.inr (hremoved g hgone)
    · exact fun j g hg hj hmem => hp.later j g hg hj ((hcalled g).mp hmem)
    · intro j g hg hj hsome
      rcases hp.served j g hg hj hsome with hdone | hgone
      · exact Or.inl ((hcalled g).mpr hdone)
      · exact Or.inr (hremoved g hgone)
    · intro g
      have hone : [Did.removed h].count (Did.called g) = 0 := by simp
      rw [hpast, List.count_append, hone]
      exact hp.once g
    · exact fun g hg => hp.listed g ((hcalled g).mp hg)

theorem perform_grows (c : Call H) (e : Batch H) : e.past <+: (c.perform e).past := by
  cases c with
  | add h =>
    simp only [Call.perform, addEpoll]
    split
    · exact List.prefix_append _ _
    · exact List.prefix_refl _
  | remove h =>
    simp only [Call.perform, removeEpoll]
    split
    · exact List.prefix_refl _
    · split
      · exact List.prefix_append _ _
      · split
        · exact List.prefix_append _ _
        · exact List.prefix_append _ _

theorem calls_grow (calls : List (Call H)) (e : Batch H) :
    e.past <+: (calls.foldl Call.perform e).past := by
  induction calls generalizing e with
  | nil => exact List.prefix_refl _
  | cons c calls ih => exact (perform_grows c e).trans (ih (c.perform e))

theorem Progress.calls {calls : List (Call H)} (hp : Progress handlers ready i e)
    (hno : ∀ g, .refused g ∉ (calls.foldl Call.perform e).past) :
    Progress handlers ready i (calls.foldl Call.perform e) := by
  induction calls generalizing e with
  | nil => exact hp
  | cons c calls ih =>
    have hfirst : ∀ g, .refused g ∉ (c.perform e).past := fun g hg =>
      hno g ((calls_grow calls (c.perform e)).subset hg)
    exact ih (hp.perform hfirst) hno

theorem handOut_grows (i : Nat) (e : Batch H) : e.past <+: (handOut handlers i e).past := by
  rw [handOut]
  split
  · exact List.prefix_refl _
  · split
    · exact List.prefix_refl _
    · rename_i p _ _ calls _
      have hmore := calls_grow calls { e with past := e.past ++ [.called p] }
      exact (List.prefix_append _ _).trans hmore

/-- The turn of one event. -/
theorem Progress.handOut (hready : ready.Nodup) (hp : Progress handlers ready i e)
    (hno : ∀ g, .refused g ∉ (handOut handlers i e).past) :
    Progress handlers ready (i + 1) (handOut handlers i e) := by
  have hnext : ∀ {P : Prop} {j : Nat}, (j < i → P) → (j = i → P) → j < i + 1 → P := by
    intro P j hless hsame hj
    rcases Nat.lt_succ_iff_lt_or_eq.mp hj with hlt | heq
    · exact hless hlt
    · exact hsame heq
  cases hptr : e.ptr i with
  | none =>
    have heq : EventLoop.handOut handlers i e = e := by rw [EventLoop.handOut, hptr]
    rw [heq]
    refine ⟨hp.consistent, hp.within, hp.pending, fun j h hj hle => hp.later j h hj (by omega),
      fun j h hj hlt hsome => ?_, hp.once, hp.listed⟩
    refine hnext (fun hless => hp.served j h hj hless hsome) (fun hji => ?_) hlt
    subst hji
    rcases hp.pending j h hj with hin | hgone
    · rw [hptr] at hin
      cases hin
    · exact Or.inr hgone
  | some p =>
    have hlisted : ready[i]? = some p := hp.within i p hptr
    cases hhandler : handlers i p with
    | none =>
      have heq : EventLoop.handOut handlers i e = e := by
        simp only [EventLoop.handOut, hptr, hhandler]
      rw [heq]
      refine ⟨hp.consistent, hp.within, hp.pending, fun j h hj hle => hp.later j h hj (by omega),
        fun j h hj hlt hsome => ?_, hp.once, hp.listed⟩
      refine hnext (fun hless => hp.served j h hj hless hsome) (fun hji => ?_) hlt
      subst hji
      rw [hlisted] at hj
      rw [← Option.some.inj hj, hhandler] at hsome
      cases hsome
    | some calls =>
      have heq : EventLoop.handOut handlers i e =
          calls.foldl Call.perform { e with past := e.past ++ [.called p] } := by
        simp only [EventLoop.handOut, hptr, hhandler]
      rw [heq] at hno ⊢
      refine Progress.calls ?_ hno
      -- the handler has not been removed, and it is called for the first time
      have hkept : Did.removed p ∉ e.past := fun hgone => hp.consistent.gone p hgone i hptr
      have hfirst : Did.called p ∉ e.past := hp.later i p hlisted (le_refl i)
      have hcalled : ∀ g, Did.called g ∈ e.past ++ [Did.called p] ↔
          Did.called g ∈ e.past ∨ g = p := by
        intro g
        simp
      have hremoved : ∀ g, Did.removed g ∈ e.past ++ [Did.called p] ↔ Did.removed g ∈ e.past := by
        intro g
        simp
      constructor
      · refine ⟨hp.consistent.pointed, hp.consistent.points, fun g hg => ?_, ?_⟩
        · exact hp.consistent.gone g ((hremoved g).mp hg)
        · refine pairwise_snoc hp.consistent.order fun g hg => ?_
          cases hg
          exact hkept
      · exact hp.within
      · exact fun j g hg => (hp.pending j g hg).imp_right (hremoved g).mpr
      · intro j g hg hj hmem
        rcases (hcalled g).mp hmem with hold | rfl
        · exact hp.later j g hg (by omega) hold
        · have hsame : j = i := by
            obtain ⟨hjlt, hjget⟩ := List.getElem?_eq_some_iff.mp hg
            obtain ⟨hilt, higet⟩ := List.getElem?_eq_some_iff.mp hlisted
            exact (List.Nodup.getElem_inj_iff hready).mp (hjget.trans higet.symm)
          omega
      · intro j g hg hlt hsome
        refine hnext (fun hless => ?_) (fun hji => ?_) hlt
        · rcases hp.served j g hg hless hsome with hdone | hgone
          · exact Or.inl ((hcalled g).mpr (Or.inl hdone))
          · exact Or.inr ((hremoved g).mpr hgone)
        · subst hji
          rw [hlisted] at hg
          exact Or.inl ((hcalled g).mpr (Or.inr (Option.some.inj hg).symm))
      · intro g
        rw [List.count_append]
        by_cases hgp : g = p
        · subst hgp
          rw [List.count_eq_zero.mpr hfirst]
          simp
        · have hzero : [Did.called p].count (Did.called g) = 0 := by simp [Ne.symm hgp]
          rw [hzero]
          exact hp.once g
      · intro g hg
        rcases (hcalled g).mp hg with hold | rfl
        · exact hp.listed g hold
        · exact List.mem_of_getElem? hlisted

theorem handOutFrom_grows (n i : Nat) (e : Batch H) :
    e.past <+: (handOutFrom handlers n i e).past := by
  induction n generalizing i e with
  | zero => exact List.prefix_refl _
  | succ n ih => exact (handOut_grows i e).trans (ih (i + 1) _)

theorem Progress.handOutFrom (hready : ready.Nodup) (hp : Progress handlers ready i e)
    (hno : ∀ g, .refused g ∉ (handOutFrom handlers n i e).past) :
    Progress handlers ready (i + n) (handOutFrom handlers n i e) := by
  induction n generalizing i e with
  | zero => exact hp
  | succ n ih =>
    have hfirst : ∀ g, .refused g ∉ (EventLoop.handOut handlers i e).past := fun g hg =>
      hno g ((handOutFrom_grows n (i + 1) _).subset hg)
    have hlast := ih (hp.handOut hready hfirst) hno
    have hindex : i + 1 + n = i + (n + 1) := by omega
    exact hindex ▸ hlast

/-! ## A whole batch -/

omit [DecidableEq H] in
theorem reported_ptr (registered : H → Bool) (j : Nat) :
    (reported ready registered).ptr j = ready[j]? := rfl

theorem point_keeps (n : Nat) (e : Batch H) : (point n e).ptr = e.ptr ∧
    (point n e).registered = e.registered ∧ (point n e).past = e.past := by
  induction n with
  | zero => exact ⟨rfl, rfl, rfl⟩
  | succ n ih =>
    rw [point]
    split
    · exact ih
    · exact ih

/-- The handlers of the first events point to them. -/
theorem point_refEv (hready : ready.Nodup) {registered : H → Bool} (n : Nat) (h : H) (j : Nat) :
    (point n (reported ready registered)).refEv h = some j ↔ j < n ∧ ready[j]? = some h := by
  induction n with
  | zero =>
    constructor
    · intro hpoint
      cases hpoint
    · rintro ⟨hlt, -⟩
      omega
  | succ n ih =>
    have hptr : (point n (reported ready registered)).ptr n = ready[n]? := by
      rw [(point_keeps n _).1, reported_ptr]
    rw [point]
    split
    · rename_i hnone
      rw [ih]
      refine and_congr_left fun hj => ?_
      have hne : j ≠ n := by
        rintro rfl
        rw [hptr, hj] at hnone
        cases hnone
      omega
    · rename_i p hp
      rw [hptr] at hp
      dsimp only
      by_cases hhp : h = p
      · subst hhp
        rw [if_pos rfl]
        constructor
        · intro hn
          obtain rfl := Option.some.inj hn
          exact ⟨Nat.lt_succ_self _, hp⟩
        · rintro ⟨-, hj⟩
          obtain ⟨hjlt, hjget⟩ := List.getElem?_eq_some_iff.mp hj
          obtain ⟨hnlt, hnget⟩ := List.getElem?_eq_some_iff.mp hp
          exact congrArg some ((List.Nodup.getElem_inj_iff hready).mp (hnget.trans hjget.symm))
      · rw [if_neg hhp, ih]
        refine and_congr_left fun hj => ?_
        have hne : j ≠ n := by
          rintro rfl
          rw [hp] at hj
          exact hhp (Option.some.inj hj).symm
        omega

theorem point_progress (hready : ready.Nodup) {registered : H → Bool}
    (hreg : ∀ h ∈ ready, registered h = true) :
    Progress handlers ready 0 (point ready.length (reported ready registered)) := by
  obtain ⟨hptr, hregistered, hpast⟩ := point_keeps ready.length (reported ready registered)
  have hempty : (reported ready registered).past = [] := rfl
  rw [hempty] at hpast
  have hin : ∀ j h, (point ready.length (reported ready registered)).ptr j = some h ↔
      ready[j]? = some h := by
    intro j h
    rw [hptr, reported_ptr]
  constructor
  · constructor
    · intro j h hj
      have hlisted := (hin j h).mp hj
      obtain ⟨hlt, -⟩ := List.getElem?_eq_some_iff.mp hlisted
      refine ⟨(point_refEv hready _ h j).mpr ⟨hlt, hlisted⟩, ?_⟩
      rw [hregistered]
      exact hreg h (List.mem_of_getElem? hlisted)
    · intro h j hj
      exact (hin j h).mpr ((point_refEv hready _ h j).mp hj).2
    · intro h hgone
      rw [hpast] at hgone
      cases hgone
    · rw [hpast]
      exact List.Pairwise.nil
  · exact fun j h hj => (hin j h).mp hj
  · exact fun j h hj => Or.inl ((hin j h).mpr hj)
  · intro j h _ _ hmem
    rw [hpast] at hmem
    cases hmem
  · intro j h _ hlt
    omega
  · intro h
    rw [hpast]
    exact Nat.zero_le _
  · intro h hmem
    rw [hpast] at hmem
    cases hmem

theorem unpoint_keeps (n : Nat) (e : Batch H) :
    (unpoint n e).ptr = e.ptr ∧ (unpoint n e).past = e.past := by
  induction n with
  | zero => exact ⟨rfl, rfl⟩
  | succ n ih =>
    rw [unpoint]
    split
    · exact ih
    · exact ih

theorem unpoint_refEv (n : Nat) (e : Batch H) (h : H) (j : Nat)
    (hpoint : (unpoint n e).refEv h = some j) : e.refEv h = some j ∧ ∀ i < n, e.ptr i ≠ some h := by
  induction n with
  | zero => exact ⟨hpoint, fun i hi => absurd hi (Nat.not_lt_zero i)⟩
  | succ n ih =>
    rw [unpoint] at hpoint
    split at hpoint
    · rename_i hnone
      rw [(unpoint_keeps n e).1] at hnone
      obtain ⟨hold, hnot⟩ := ih hpoint
      refine ⟨hold, fun i hi hptr => ?_⟩
      rcases Nat.lt_succ_iff_lt_or_eq.mp hi with hlt | rfl
      · exact hnot i hlt hptr
      · rw [hnone] at hptr
        cases hptr
    · rename_i p hp
      rw [(unpoint_keeps n e).1] at hp
      dsimp only at hpoint
      split at hpoint
      · cases hpoint
      · rename_i hne
        obtain ⟨hold, hnot⟩ := ih hpoint
        refine ⟨hold, fun i hi hptr => ?_⟩
        rcases Nat.lt_succ_iff_lt_or_eq.mp hi with hlt | rfl
        · exact hnot i hlt hptr
        · rw [hp] at hptr
          exact hne (Option.some.inj hptr).symm

/-- Whatever the handlers do to each other, short of adding one that is there already: a handler
that has been removed is not called, every other one with an event is called once, and when the
batch is over no handler points into the array of the events. -/
theorem batch_handed_out (handlers : Handlers H) (hready : ready.Nodup) {registered : H → Bool}
    (hreg : ∀ h ∈ ready, registered h = true)
    (hno : ∀ h, .refused h ∉ (batch handlers ready registered).past) :
    (batch handlers ready registered).past.Pairwise Follows ∧
    (∀ h, (batch handlers ready registered).past.count (.called h) ≤ 1) ∧
    (∀ h, .called h ∈ (batch handlers ready registered).past → h ∈ ready) ∧
    (∀ j h, ready[j]? = some h → (handlers j h).isSome = true →
      .called h ∈ (batch handlers ready registered).past ∨
        .removed h ∈ (batch handlers ready registered).past) ∧
    ∀ h, (batch handlers ready registered).refEv h = none := by
  have hstart : Progress handlers ready 0 (point ready.length (reported ready registered)) :=
    point_progress hready hreg
  rw [batch] at hno ⊢
  have hkeeps := unpoint_keeps ready.length
    (handOutFrom handlers ready.length 0 (point ready.length (reported ready registered)))
  rw [hkeeps.2] at hno ⊢
  have hp := Progress.handOutFrom hready hstart hno
  rw [Nat.zero_add] at hp
  refine ⟨hp.consistent.order, hp.once, hp.listed, fun j h hj hsome => ?_, fun h => ?_⟩
  · obtain ⟨hlt, -⟩ := List.getElem?_eq_some_iff.mp hj
    exact hp.served j h hj hlt hsome
  · by_contra hpoint
    obtain ⟨j, hj⟩ := Option.ne_none_iff_exists'.mp hpoint
    obtain ⟨hold, hnot⟩ := unpoint_refEv _ _ h j hj
    have hptr := hp.consistent.points h j hold
    obtain ⟨hlt, -⟩ := List.getElem?_eq_some_iff.mp (hp.within j h hptr)
    exact hnot j hlt hptr

/-- The first of three handlers removes the second, and the third comes back. -/
theorem sample_batch_handed_out :
    let handlers : Handlers Nat := fun _ h =>
      some (if h = 1 then [.remove 2, .remove 3, .add 3] else [])
    let e := batch handlers [1, 2, 3] fun h => decide (h ≤ 3)
    e.past = [.called 1, .removed 2, .removed 3] ∧ e.past.Pairwise Follows ∧
      ∀ h, e.refEv h = none := by
  intro handlers e
  have hpast : e.past = [.called 1, .removed 2, .removed 3] := by decide
  have hno : ∀ h, .refused h ∉ e.past := by
    intro h hmem
    rw [hpast] at hmem
    simp at hmem
  have hready : [1, 2, 3].Nodup := by decide
  have hreg : ∀ h ∈ [1, 2, 3], decide (h ≤ 3) = true := by decide
  obtain ⟨horder, -, -, -, hnone⟩ := batch_handed_out handlers hready hreg hno
  exact ⟨hpast, horder, hnone⟩

end Progress

end Dispatch

end Mstpd.EventLoop
