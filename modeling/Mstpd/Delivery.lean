import Mstpd.Capture
import Mstpd.Waves

/-!
# Delivery in waves

`mstpw_deliver_bpdus` delivers what is queued, or goes on until the queue is empty. What handles a
frame and what a second does to a bridge may be any functions of all that the harness holds.
-/

namespace Mstpd.Wasm

open Harness Machine Waves

structure TraceEvent where
  t : Nat
  port : Int
  event : String

/-- The globals of the harness, with the capture and the trace. -/
structure World where
  harness : State
  capture : CaptureState
  traceOn : Bool
  trace : List TraceEvent

/-- What `MSTP_IN_rx_bpdu` does for a frame, to whatever it reaches. -/
abbrev Receive := QueuedFrame → World → Option World

/-- What `MSTP_IN_one_second` does for the bridge with a handle. -/
abbrev Second := Int → World → Option World

/-- `mstpw_one_second`. -/
def oneSecond (second : Second) (w : World) : Option World :=
  forEach (fun j w =>
    if (w.harness.bridges j).any BridgeSlot.stpEnabled then second j w else some w)
    (handles maxBridges) { w with capture := { w.capture with now := w.capture.now + 1 } }

def World.setQueue (w : World) (queue : List QueuedFrame) : World :=
  { w with harness := { w.harness with queue := queue } }

/-- One frame of a wave, and whether it was delivered. -/
def handleFrame (receive : Receive) (f : QueuedFrame) (w : World) : Option (World × Bool) :=
  if portHandleOk f.dst w.harness && (w.harness.ports f.dst).prt.any PortSysdeps.up then
    let delivered :=
      { w.harness with
        framesDelivered := w.harness.framesDelivered + 1
        handed := ⟨f, w.harness.ports f.dst, w.harness.ports f.src⟩ :: w.harness.handed }
    (receive f { w with harness := delivered }).map fun w => (w, true)
  else some (w, false)

/-- The queue of the harness. -/
def frameQueue (receive : Receive) : Queued World QueuedFrame where
  queue w := w.harness.queue
  detach w := w.setQueue []
  handle := handleFrame receive
  queue_detach _ := rfl
  detach_empty w hqueue := by rw [← hqueue]; rfl
  queue_dropped f w w' h := by
    rw [handleFrame] at h
    split at h
    · obtain ⟨next, -, heq⟩ := Option.map_eq_some_iff.mp h
      cases heq
    · cases h
      rfl

/-- `mstpw_deliver_bpdus`. -/
def deliverBpdus (receive : Receive) (all : Bool) (w : World) : Option (Outcome World) :=
  (frameQueue receive).deliver mstpwDeliverCap all w

/-- `mstpw_deliver_bpdus(0)` until it returns 0. -/
def deliverWaves (receive : Receive) (fuel : Nat) (w : World) : Option (World × Nat) :=
  (frameQueue receive).waves mstpwDeliverCap fuel w

def stepSeconds (second : Second) (receive : Receive) : Nat → World → Option World
  | 0, w => some w
  | n + 1, w =>
    (oneSecond second w).bind fun w =>
      (deliverBpdus receive true w).bind fun r => stepSeconds second receive n r.state

/-- The same with waves after each second. -/
def stepByWaves (second : Second) (receive : Receive) (fuel : Nat) : Nat → World → Option World
  | 0, w => some w
  | n + 1, w =>
    (oneSecond second w).bind fun w =>
      (deliverWaves receive fuel w).bind fun r => stepByWaves second receive fuel n r.1

/-- No second takes more frames off the queue than the cap lets pass. -/
def WithinCap (second : Second) (receive : Receive) : Nat → World → Prop
  | 0, _ => True
  | n + 1, w => ∀ w' r, oneSecond second w = some w' → deliverBpdus receive true w' = some r →
    r.taken ≤ mstpwDeliverCap ∧ WithinCap second receive n r.state

section Steps

variable {second : Second} {receive : Receive} {w w' : World} {r : Outcome World}

theorem stepByWaves_eq {fuel : Nat} (hfuel : mstpwDeliverCap < fuel) (n : Nat) : ∀ w w',
    WithinCap second receive n w → stepSeconds second receive n w = some w' →
      stepByWaves second receive fuel n w = some w' := by
  induction n with
  | zero => exact fun w w' _ h => h
  | succ n ih =>
    intro w w' hcap h
    rw [stepSeconds] at h
    rw [stepByWaves]
    cases hsecond : oneSecond second w with
    | none =>
      rw [hsecond] at h
      cases h
    | some w₁ =>
      rw [hsecond, Option.bind_some] at h
      rw [Option.bind_some]
      cases hdeliver : deliverBpdus receive true w₁ with
      | none =>
        rw [hdeliver] at h
        cases h
      | some r =>
        rw [hdeliver, Option.bind_some] at h
        obtain ⟨htaken, hlater⟩ := hcap w₁ r hsecond hdeliver
        have hwaves : deliverWaves receive fuel w₁ = some (r.state, r.delivered) :=
          waves_deliver hdeliver htaken (by omega)
        rw [hwaves, Option.bind_some]
        exact ih r.state w' hlater h

/-- The core of the bridges as the handler. It leaves the capture and the trace alone here. -/
def receiveCore (o : Harness.Outside) : Receive := fun f w =>
  (callCore o (mstpOutOfRx o) (.rxBpdu (portRef f.dst) f.data f.len)
    (w.harness.ports f.dst).brh w.harness).map fun r => { w with harness := r.1 }

theorem handleFrame_core (o : Harness.Outside) (f : QueuedFrame) (w : World) :
    (handleFrame (receiveCore o) f w).map (fun r => (r.1.harness, r.2)) =
      deliverFrame o f w.harness := by
  rw [handleFrame, deliverFrame]
  split
  · simp only [receiveCore, Option.map_map]
    rfl
  · rfl

theorem next_core (o : Harness.Outside) (all : Bool) (wave : List QueuedFrame) (w : World) :
    ((frameQueue (receiveCore o)).next all wave w).map (fun r => (r.1, r.2.1, r.2.2.harness)) =
      nextFrame all wave w.harness := by
  cases wave with
  | cons f wave => rfl
  | nil =>
    cases all with
    | false => rfl
    | true =>
      have hqueue : (frameQueue (receiveCore o)).queue w = w.harness.queue := rfl
      simp only [Queued.next, nextFrame, if_true, hqueue]
      cases w.harness.queue <;> rfl

theorem loop_core (o : Harness.Outside) (all : Bool) (budget : Nat) : ∀ wave (n : Int) (w : World),
    ((frameQueue (receiveCore o)).loop all budget wave w).map
        (fun r => (r.state.harness, n + r.delivered)) =
      deliverLoop o all budget wave n w.harness := by
  induction budget with
  | zero =>
    intro wave n w
    have hnext := next_core o all wave w
    rw [Queued.loop, deliverLoop, ← hnext]
    rcases (frameQueue (receiveCore o)).next all wave w with _ | ⟨f, wave', w'⟩
    · simp
    · simp [frameQueue, World.setQueue]
  | succ budget ih =>
    intro wave n w
    have hnext := next_core o all wave w
    rw [Queued.loop, deliverLoop, ← hnext]
    rcases (frameQueue (receiveCore o)).next all wave w with _ | ⟨f, wave', w'⟩
    · simp
    · have hhandle := handleFrame_core o f w'
      have hcall : (frameQueue (receiveCore o)).handle f w' = handleFrame (receiveCore o) f w' :=
        rfl
      simp only [Option.map_some]
      rw [hcall, ← hhandle]
      rcases handleFrame (receiveCore o) f w' with _ | ⟨w'', ok⟩
      · rfl
      · simp only [Option.bind_some, Option.map_some, Option.map_map]
        rw [← ih]
        congr 1
        funext later
        cases ok with
        | false => simp [Outcome.after]
        | true =>
          simp [Outcome.after]
          omega

/-- With the core as the handler this is the delivery of the harness. -/
theorem deliverBpdus_core (o : Harness.Outside) (all : Bool) (w : World) :
    (deliverBpdus (receiveCore o) all w).map (fun r => (r.state.harness, (r.delivered : Int))) =
      mstpwDeliverBpdus o all w.harness := by
  have hloop := loop_core o all mstpwDeliverCap w.harness.queue 0 (w.setQueue [])
  simp only [Int.zero_add] at hloop
  exact hloop

end Steps

/-- Delivering everything and delivering wave by wave come to the same, for one call and for any
number of seconds. -/
theorem deliver_by_waves (second : Second) (receive : Receive) (w : World) :
    (∀ r, deliverBpdus receive true w = some r → r.taken ≤ mstpwDeliverCap →
        ∀ fuel, r.taken < fuel → deliverWaves receive fuel w = some (r.state, r.delivered)) ∧
      ∀ n w', WithinCap second receive n w → stepSeconds second receive n w = some w' →
        ∀ fuel, mstpwDeliverCap < fuel → stepByWaves second receive fuel n w = some w' :=
  ⟨fun _ hdeliver htaken _ hfuel => waves_deliver hdeliver htaken hfuel,
    fun n w' hcap hstep _ hfuel => stepByWaves_eq hfuel n w w' hcap hstep⟩

/-! ## A queue at the cap -/

/-- A frame to a handle that no port has. -/
def strayFrame : QueuedFrame := ⟨0, 0, 9, 0, fun _ => 0, 0⟩

def goodFrame (seq : Nat) : QueuedFrame := ⟨seq, 0, 1, 0, fun _ => 0, 0⟩

/-- Port 1 is up, and frame 0 to it is behind `n` stray ones. -/
def crowdedWorld (n : Nat) : World where
  harness :=
    { ports := fun i => if i = 1 then { prt := some ⟨"eth1", 0x020000000001, true⟩ } else {}
      queue := List.replicate n strayFrame ++ [goodFrame 0] }
  capture := .start
  traceOn := false
  trace := []

/-- Frame 0 is answered with frame 1. -/
def answerFirst : Receive := fun f w =>
  some (if f.seq = 0 then w.setQueue (w.harness.queue ++ [goodFrame 1]) else w)

/-- No second does anything to a bridge. -/
def idleSecond : Second := fun _ w => some w

theorem oneSecond_idle (w : World) : oneSecond idleSecond w =
    some { w with capture := { w.capture with now := w.capture.now + 1 } } := by
  rw [oneSecond]
  generalize { w with capture := { w.capture with now := w.capture.now + 1 } } = next
  induction handles maxBridges with
  | nil => rfl
  | cons j rest ih =>
    rw [forEach, idleSecond, ite_self]
    exact ih

theorem quietWorld_by_waves : ∃ r w', deliverBpdus answerFirst true (crowdedWorld 0) = some r ∧
    deliverWaves answerFirst 3 (crowdedWorld 0) = some (r.state, r.delivered) ∧
    stepSeconds idleSecond answerFirst 1 (crowdedWorld 0) = some w' ∧
    stepByWaves idleSecond answerFirst (mstpwDeliverCap + 1) 1 (crowdedWorld 0) = some w' := by
  obtain ⟨r, hr, htaken⟩ : ∃ r, deliverBpdus answerFirst true (crowdedWorld 0) = some r ∧
      r.taken = 2 := ⟨_, rfl, rfl⟩
  obtain ⟨w₁, hsecond, r₁, hr₁, htaken₁⟩ : ∃ w₁,
      oneSecond idleSecond (crowdedWorld 0) = some w₁ ∧
        ∃ r₁, deliverBpdus answerFirst true w₁ = some r₁ ∧ r₁.taken = 2 :=
    ⟨_, oneSecond_idle _, _, rfl, rfl⟩
  have hsmall : 2 ≤ mstpwDeliverCap := by decide
  have hstep : stepSeconds idleSecond answerFirst 1 (crowdedWorld 0) = some r₁.state := by
    rw [stepSeconds, hsecond, Option.bind_some, hr₁]
    rfl
  have hcap : WithinCap idleSecond answerFirst 1 (crowdedWorld 0) := by
    intro w' r' hw' hr'
    obtain rfl := Option.some.inj (hsecond.symm.trans hw')
    obtain rfl := Option.some.inj (hr₁.symm.trans hr')
    exact ⟨by omega, trivial⟩
  obtain ⟨hdeliver, hsteps⟩ := deliver_by_waves idleSecond answerFirst (crowdedWorld 0)
  exact ⟨r, r₁.state, hr, hdeliver r hr (by omega) 3 (by omega), hstep,
    hsteps 1 r₁.state hcap hstep _ (Nat.lt_succ_self _)⟩

/-- Stray frames are dropped, but they count. -/
theorem loop_stray {receive : Receive} {all : Bool} {budget : Nat} {wave : List QueuedFrame}
    {w : World} (hstray : portHandleOk 9 w.harness = false) (n : Nat) :
    (frameQueue receive).loop all (budget + n) (List.replicate n strayFrame ++ wave) w =
      ((frameQueue receive).loop all budget wave w).map fun r => r.after 0 n := by
  induction n with
  | zero =>
    have hsame : (fun r : Outcome World => r.after 0 0) = id := by
      funext r
      simp [Outcome.after]
    rw [hsame, Option.map_id]
    rfl
  | succ n ih =>
    have hdrop : (frameQueue receive).handle strayFrame w = some (w, false) := by
      have hhandle : (frameQueue receive).handle strayFrame w = handleFrame receive strayFrame w :=
        rfl
      have hdst : strayFrame.dst = 9 := rfl
      rw [hhandle, handleFrame, hdst, hstray]
      rfl
    rw [List.replicate_succ, List.cons_append, ← Nat.add_assoc, loop_cons, hdrop, Option.bind_some,
      ih, Option.map_map]
    congr 1
    funext r
    simp [Outcome.after, Nat.add_comm, Nat.add_left_comm, Nat.add_assoc]

theorem crowdedWorld_differs {n : Nat} (hn : 1 + n = mstpwDeliverCap) :
    (∃ r, deliverBpdus answerFirst true (crowdedWorld n) = some r ∧ r.delivered = 1) ∧
      ∃ w', deliverWaves answerFirst 3 (crowdedWorld n) = some (w', 2) := by
  have hstray : portHandleOk 9 ((crowdedWorld n).setQueue []).harness = false := rfl
  have hloop := fun all => @loop_stray answerFirst all 1
    [goodFrame 0] _ hstray n
  obtain ⟨r, hr, hdelivered⟩ : ∃ r, (frameQueue answerFirst).loop true 1 [goodFrame 0]
      ((crowdedWorld n).setQueue []) = some r ∧ r.delivered = 1 := ⟨_, rfl, rfl⟩
  obtain ⟨first, hfirst, hone, w', hlater⟩ : ∃ first, (frameQueue answerFirst).loop false 1
      [goodFrame 0] ((crowdedWorld n).setQueue []) = some first ∧ first.delivered = 1 ∧
      ∃ w', deliverWaves answerFirst 2 first.state = some (w', 1) := ⟨_, rfl, rfl, _, rfl⟩
  constructor
  · refine ⟨r.after 0 n, ?_, by rw [Outcome.after, hdelivered]⟩
    rw [deliverBpdus, Queued.deliver, ← hn]
    exact (hloop true).trans (by rw [hr]; rfl)
  · have hdeliver : (frameQueue answerFirst).deliver mstpwDeliverCap false (crowdedWorld n) =
        some (first.after 0 n) := by
      rw [Queued.deliver, ← hn]
      exact (hloop false).trans (by rw [hfirst]; rfl)
    have hstate : (first.after 0 n).state = first.state := rfl
    refine ⟨w', ?_⟩
    rw [deliverWaves, Queued.waves, hdeliver, Option.bind_some, hstate, Outcome.after, hone,
      if_neg (Nat.succ_ne_zero 0)]
    rw [deliverWaves] at hlater
    rw [hlater]
    rfl

/-- The call delivers one frame, which is fewer than the cap, and the waves deliver two. -/
theorem fullWorld_differs :
    (∃ r, deliverBpdus answerFirst true (crowdedWorld 1999999) = some r ∧ r.delivered = 1) ∧
      ∃ w', deliverWaves answerFirst 3 (crowdedWorld 1999999) = some (w', 2) :=
  crowdedWorld_differs (by decide)

end Mstpd.Wasm
