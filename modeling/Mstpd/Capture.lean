import Mathlib.Algebra.Ring.Nat
import Mstpd.Harness
import Mstpd.Ring

/-!
# The capture ring of the harness

`capture_record` keeps copies of the latest frames in a ring of fixed capacity and frees what it
overwrites. The order of frames in one second is a counter of 32 bits.
-/

namespace Mstpd.Wasm

open Rings

/-- `MSTPW_CAPTURE_CAP`. -/
def captureCap : Nat := 8192

/-- The `data` of a slot is a pointer, or none. -/
structure CaptureFrame where
  t : Nat
  subsec : UInt32
  port : Int
  len : Nat
  src : BitVec 48
  data : Option Nat

/-- A frame with its bytes. -/
structure Captured where
  t : Nat
  subsec : UInt32
  port : Int
  len : Nat
  src : BitVec 48
  bytes : List UInt8

/-- What a pointer points at, while it is allocated. -/
abbrev Heap := Nat → Option (List UInt8)

def Heap.malloc (heap : Heap) (p : Nat) (bytes : List UInt8) : Heap := fun q =>
  if q = p then some bytes else heap q

/-- Nothing happens to a null pointer. -/
def Heap.free (heap : Heap) (p : Option Nat) : Heap := fun q => if p = some q then none else heap q

/-- `ring` is `g_capture` with its head and its count. `log` is not in the program: it has what was
recorded since the last reset. -/
structure CaptureState where
  now : Nat
  on : Bool
  ring : Rings.Ring CaptureFrame
  captureT : Nat
  subsec : UInt32
  heap : Heap
  log : List Captured

def CaptureState.start : CaptureState where
  now := 0
  on := false
  ring := ⟨fun _ => ⟨0, 0, 0, 0, 0, none⟩, 0, 0⟩
  captureT := 0
  subsec := 0
  heap := fun _ => none
  log := []

def freeSlot (head : Nat) (acc : (Nat → CaptureFrame) × Heap) (i : Nat) :
    (Nat → CaptureFrame) × Heap :=
  let idx := (head + i) % captureCap
  (fun j => if j = idx then { acc.1 idx with data := none } else acc.1 j,
    acc.2.free (acc.1 idx).data)

/-- The loop that frees what the ring holds. -/
def freeSlots (ring : Rings.Ring CaptureFrame) (heap : Heap) : (Nat → CaptureFrame) × Heap :=
  (List.range ring.count).foldl (freeSlot ring.head) (ring.slots, heap)

def captureReset (s : CaptureState) : CaptureState :=
  let freed := freeSlots s.ring s.heap
  { s with
    ring := ⟨freed.1, 0, 0⟩, heap := freed.2, captureT := 0, subsec := 0, log := [] }

/-- `copy` is what `malloc` returns. -/
def captureRecord (ifIndex : Int) (macaddr : BitVec 48) (data : List UInt8) (copy : Option Nat)
    (s : CaptureState) : CaptureState :=
  if s.on then
    match copy with
    | none => s
    | some copy =>
      let captureT := if s.now ≠ s.captureT then s.now else s.captureT
      let subsec := if s.now ≠ s.captureT then 0 else s.subsec
      let heap := s.heap.malloc copy data
      let room := decide (s.ring.count < captureCap)
      let idx := if room then (s.ring.head + s.ring.count) % captureCap else s.ring.head
      let heap := if room then heap else heap.free (s.ring.slots idx).data
      let head := if room then s.ring.head else (s.ring.head + 1) % captureCap
      let count := if room then s.ring.count + 1 else s.ring.count
      let frame := ⟨s.now, subsec, ifIndex, data.length, macaddr, some copy⟩
      { s with
        ring := ⟨fun i => if i = idx then frame else s.ring.slots i, head, count⟩
        captureT := captureT
        subsec := subsec + 1
        heap := heap
        log := s.log ++ [⟨s.now, subsec, ifIndex, data.length, macaddr, data⟩] }
  else s

inductive CaptureOp
  | record (ifIndex : Int) (macaddr : BitVec 48) (data : List UInt8) (copy : Option Nat)
  | reset
  | enable (on : Bool)
  | clock (now : Nat)

/-- `malloc` never returns what is in use. -/
def captureStep (s : CaptureState) : CaptureOp → Option CaptureState
  | .record ifIndex macaddr data copy =>
    if copy.any (fun p => (s.heap p).isSome) then none
    else some (captureRecord ifIndex macaddr data copy s)
  | .reset => some (captureReset s)
  | .enable on => some (captureReset { s with on := on })
  | .clock now => some { s with now := now }

def captureRun (s : CaptureState) : List CaptureOp → Option CaptureState
  | [] => some s
  | op :: ops => (captureStep s op).bind fun s => captureRun s ops

/-! ## What is read from the ring -/

def CaptureFrame.captured (heap : Heap) (frame : CaptureFrame) : Option Captured :=
  (frame.data.bind heap).map fun bytes =>
    ⟨frame.t, frame.subsec, frame.port, frame.len, frame.src, bytes⟩

/-- The loop of `mstpw_capture_json` without a filter. -/
def captureFrames (s : CaptureState) : List (Option Captured) :=
  (List.range s.ring.count).map fun i =>
    (s.ring.slots ((s.ring.head + i) % captureCap)).captured s.heap

/-- The slot at a place of the ring owns the buffer. -/
def OwnedAt (s : CaptureState) (p i : Nat) : Prop :=
  i < s.ring.count ∧ (s.ring.slots ((s.ring.head + i) % captureCap)).data = some p

def Earlier (a b : Captured) : Prop := a.t < b.t ∨ (a.t = b.t ∧ a.subsec < b.subsec)

/-- The clock does not go backwards. -/
def Forward : Nat → List CaptureOp → Prop
  | _, [] => True
  | now, .clock now' :: ops => now ≤ now' ∧ Forward now' ops
  | now, _ :: ops => Forward now ops

/-- How many frames were recorded at a time. -/
def recordedAt (t : Nat) (log : List Captured) : Nat :=
  (log.filter fun c => decide (c.t = t)).length

/-! ## The contents -/

/-- The ring holds the latest frames, in buffers of their own. -/
structure Kept (s : CaptureState) : Prop where
  fits : s.ring.Fits captureCap
  frames : (s.ring.read captureCap).map (CaptureFrame.captured s.heap) =
    latest captureCap (s.log.map some)
  owners : ∃ ps : List Nat, (s.ring.read captureCap).map CaptureFrame.data = ps.map some ∧
    ps.Nodup ∧ ∀ p, (s.heap p).isSome = true ↔ p ∈ ps

section Kept

variable {s s' : CaptureState}

theorem start_kept : Kept .start where
  fits := ⟨by decide, by decide⟩
  frames := rfl
  owners := ⟨[], rfl, List.nodup_nil, fun p => ⟨nofun, nofun⟩⟩

theorem captured_congr {heap heap' : Heap} {frame : CaptureFrame}
    (h : ∀ p, frame.data = some p → heap p = heap' p) :
    frame.captured heap = frame.captured heap' := by
  rw [CaptureFrame.captured, CaptureFrame.captured]
  cases hdata : frame.data with
  | none => rfl
  | some p =>
    have hp := h p hdata
    simp only [Option.bind_some, hp]

/-- What becomes of the ring when a frame is recorded. -/
theorem captureRecord_ring {ifIndex : Int} {macaddr : BitVec 48} {data : List UInt8} {copy : Nat}
    (hon : s.on = true) : ∃ frame, frame.data = some copy ∧
    (captureRecord ifIndex macaddr data (some copy) s).ring = s.ring.put captureCap frame ∧
    (captureRecord ifIndex macaddr data (some copy) s).heap =
      (if s.ring.count < captureCap then s.heap.malloc copy data
        else (s.heap.malloc copy data).free (s.ring.slots s.ring.head).data) ∧
    ∃ subsec, (captureRecord ifIndex macaddr data (some copy) s).log =
        s.log ++ [⟨s.now, subsec, ifIndex, data.length, macaddr, data⟩] ∧
      frame = ⟨s.now, subsec, ifIndex, data.length, macaddr, some copy⟩ := by
  rw [captureRecord, if_pos hon]
  refine ⟨_, rfl, ?_, ?_, _, rfl, rfl⟩
  · by_cases hroom : s.ring.count < captureCap
    · simp [Ring.put, Ring.free, Ring.index, hroom]
    · simp [Ring.put, Ring.free, Ring.index, hroom]
  · by_cases hroom : s.ring.count < captureCap
    · simp [hroom]
    · simp [hroom]

/-- The buffers of the slots that stay. -/
def keptOwners (s : CaptureState) (ps : List Nat) : List Nat :=
  if s.ring.count < captureCap then ps else ps.tail

theorem keptOwners_data {ps : List Nat}
    (hps : (s.ring.read captureCap).map CaptureFrame.data = ps.map some) :
    (s.ring.kept captureCap).map CaptureFrame.data = (keptOwners s ps).map some := by
  rw [Ring.kept, keptOwners]
  split
  · exact hps
  · rw [List.map_tail, hps, List.map_tail]

/-- The heap has the buffers that stay, and the new one. -/
theorem recorded_heap {data : List UInt8} {copy : Nat} {ps : List Nat}
    (hfits : s.ring.Fits captureCap)
    (hps : (s.ring.read captureCap).map CaptureFrame.data = ps.map some) (hnodup : ps.Nodup)
    (hheap : ∀ p, (s.heap p).isSome = true ↔ p ∈ ps) (hfresh : s.heap copy = none) (p : Nat) :
    (if s.ring.count < captureCap then s.heap.malloc copy data
        else (s.heap.malloc copy data).free (s.ring.slots s.ring.head).data) p =
      if p = copy then some data else if p ∈ keptOwners s ps then s.heap p else none := by
  have hdead : ∀ q, q ∉ ps → s.heap q = none := by
    intro q hq
    cases hsome : s.heap q with
    | none => rfl
    | some bytes => exact absurd ((hheap q).mp (by rw [hsome]; rfl)) hq
  rw [keptOwners]
  by_cases hroom : s.ring.count < captureCap
  · rw [if_pos hroom, if_pos hroom, Heap.malloc]
    by_cases hp : p ∈ ps
    · rw [if_pos hp]
    · rw [if_neg hp, hdead p hp]
  · rw [if_neg hroom, if_neg hroom, Heap.free, Heap.malloc]
    have hlt := hfits.head_lt
    have hle := hfits.count_le
    have hlength := congrArg List.length hps
    rw [List.length_map, length_read, List.length_map] at hlength
    obtain ⟨first, rest, rfl⟩ : ∃ first rest, ps = first :: rest := by
      cases ps with
      | nil =>
        rw [List.length_nil] at hlength
        omega
      | cons first rest => exact ⟨first, rest, rfl⟩
    have hfirst : (s.ring.slots s.ring.head).data = some first := by
      obtain ⟨n, hn⟩ : ∃ n, s.ring.count = n + 1 := ⟨s.ring.count - 1, by omega⟩
      have hzero : s.ring.index captureCap 0 = s.ring.head := Nat.mod_eq_of_lt hlt
      rw [Ring.read, hn, List.range_succ_eq_map, List.map_cons, List.map_cons, List.map_cons] at hps
      rw [← hzero]
      exact (List.cons.inj hps).1
    have hne : first ≠ copy := by
      rintro rfl
      have hlive := (hheap first).mpr List.mem_cons_self
      rw [hfresh] at hlive
      cases hlive
    rw [List.nodup_cons] at hnodup
    rw [hfirst, List.tail_cons]
    by_cases hp : first = p
    · subst hp
      rw [if_pos rfl, if_neg hne, if_neg hnodup.1]
    · have hp' : ¬ some first = some p := fun h => hp (Option.some.inj h)
      rw [if_neg hp']
      by_cases hmem : p ∈ rest
      · rw [if_pos hmem]
      · have hout : p ∉ first :: rest := by
          rw [List.mem_cons, not_or]
          exact ⟨Ne.symm hp, hmem⟩
        rw [if_neg hmem, hdead p hout]

theorem Kept.record (hs : Kept s) {ifIndex : Int} {macaddr : BitVec 48} {data : List UInt8}
    {copy : Nat} (hon : s.on = true) (hfresh : s.heap copy = none) :
    Kept (captureRecord ifIndex macaddr data (some copy) s) := by
  obtain ⟨frame, hdata, hring, hheap', subsec, hlog, hframe⟩ := @captureRecord_ring s
    ifIndex macaddr data copy hon
  obtain ⟨ps, hps, hnodup, hheap⟩ := hs.owners
  have hnew := @recorded_heap _ data _ _ hs.fits hps hnodup hheap hfresh
  have hkept := keptOwners_data hps
  have hsub : ∀ p ∈ keptOwners s ps, p ∈ ps := by
    intro p hp
    rw [keptOwners] at hp
    split at hp
    · exact hp
    · exact List.mem_of_mem_tail hp
  have hcopy : copy ∉ ps := by
    intro hmem
    have hlive := (hheap copy).mpr hmem
    rw [hfresh] at hlive
    cases hlive
  have hfree : ∀ p ∈ keptOwners s ps, p ≠ copy := by
    rintro p hp rfl
    exact hcopy (hsub p hp)
  refine ⟨?_, ?_, keptOwners s ps ++ [copy], ?_, ?_, ?_⟩
  · rw [hring]
    exact hs.fits.put
  · rw [hring, hlog, hheap', List.map_append]
    apply latest_put hs.fits hs.frames
    · intro slot hslot
      apply captured_congr
      intro p hp
      have hmem : p ∈ keptOwners s ps := by
        have hmap := List.mem_map_of_mem (f := CaptureFrame.data) hslot
        rw [hkept, hp] at hmap
        obtain ⟨q, hq, heq⟩ := List.mem_map.mp hmap
        exact Option.some.inj heq ▸ hq
      rw [hnew, if_neg (hfree p hmem), if_pos hmem]
    · rw [CaptureFrame.captured, hdata, Option.bind_some, hnew, if_pos rfl, hframe]
      rfl
  · rw [hring, read_put hs.fits, List.map_append, hkept, List.map_append, List.map_singleton, hdata]
    rfl
  · rw [List.nodup_append]
    refine ⟨?_, List.pairwise_singleton _ copy, ?_⟩
    · rw [keptOwners]
      split
      · exact hnodup
      · exact hnodup.sublist (List.tail_sublist ps)
    · intro p hp q hq
      rw [List.mem_singleton.mp hq]
      exact hfree p hp
  · intro p
    rw [hheap', hnew, List.mem_append, List.mem_singleton]
    by_cases hp : p = copy
    · rw [if_pos hp]
      exact ⟨fun _ => Or.inr hp, fun _ => rfl⟩
    · rw [if_neg hp, or_iff_left hp]
      by_cases hmem : p ∈ keptOwners s ps
      · rw [if_pos hmem, hheap]
        exact ⟨fun _ => hmem, fun _ => hsub p hmem⟩
      · rw [if_neg hmem]
        exact ⟨nofun, fun h => absurd h hmem⟩

/-- Nothing stays allocated that a slot of the ring points to. -/
theorem freeSlots_heap {ring : Rings.Ring CaptureFrame} (hring : ring.Fits captureCap) (heap : Heap)
    (p : Nat) : (freeSlots ring heap).2 p =
      if some p ∈ (ring.read captureCap).map CaptureFrame.data then none else heap p := by
  have hle := hring.count_le
  have hwritten : ∀ k, k ≤ ring.count →
      let acc := (List.range k).foldl (freeSlot ring.head) (ring.slots, heap)
      (∀ i, k ≤ i → i < ring.count →
        acc.1 (ring.index captureCap i) = ring.slots (ring.index captureCap i)) ∧
      ∀ p, acc.2 p =
        if ∃ i, i < k ∧ (ring.slots (ring.index captureCap i)).data = some p then none
        else heap p := by
    intro k
    induction k with
    | zero =>
      refine fun _ => ⟨fun i _ _ => rfl, fun p => ?_⟩
      rw [if_neg (by rintro ⟨i, hi, -⟩; exact Nat.not_lt_zero i hi)]
      rfl
    | succ k ih =>
      intro hk
      obtain ⟨hslots, hheap⟩ := ih (by omega)
      rw [List.range_succ, List.foldl_append, List.foldl_cons, List.foldl_nil]
      have hcurrent := hslots k (Nat.le_refl k) hk
      constructor
      · intro i hi hi'
        have hne : ring.index captureCap i ≠ ring.index captureCap k := by
          intro heq
          have hsame := hring.index_inj (by omega) (by omega) heq
          omega
        exact (if_neg hne).trans (hslots i (by omega) hi')
      · intro q
        have hfree : ∀ (h : Heap) (r : Option Nat), h.free r q = if r = some q then none else h q :=
          fun _ _ => rfl
        rw [freeSlot]
        dsimp only
        rw [hfree, hheap]
        have hdata := congrArg CaptureFrame.data hcurrent
        rw [Ring.index] at hdata
        rw [hdata]
        by_cases hlast : (ring.slots (ring.index captureCap k)).data = some q
        · have hfound : ∃ i, i < k + 1 ∧
              (ring.slots (ring.index captureCap i)).data = some q :=
            ⟨k, Nat.lt_succ_self k, hlast⟩
          rw [if_pos hfound]
          exact if_pos hlast
        · have hiff : (∃ i, i < k + 1 ∧ (ring.slots (ring.index captureCap i)).data = some q) ↔
              ∃ i, i < k ∧ (ring.slots (ring.index captureCap i)).data = some q := by
            constructor
            · rintro ⟨i, hi, hq⟩
              by_cases hik : i = k
              · exact absurd (hik ▸ hq) hlast
              · exact ⟨i, by omega, hq⟩
            · rintro ⟨i, hi, hq⟩
              exact ⟨i, by omega, hq⟩
          simp only [hiff]
          exact if_neg hlast
  have hmem : some p ∈ (ring.read captureCap).map CaptureFrame.data ↔
      ∃ i, i < ring.count ∧ (ring.slots (ring.index captureCap i)).data = some p := by
    rw [Ring.read, List.map_map, List.mem_map]
    constructor
    · rintro ⟨i, hi, hp⟩
      exact ⟨i, List.mem_range.mp hi, hp⟩
    · rintro ⟨i, hi, hp⟩
      exact ⟨i, List.mem_range.mpr hi, hp⟩
  simp only [hmem]
  exact (hwritten ring.count (Nat.le_refl _)).2 p

theorem Kept.reset (hs : Kept s) : Kept (captureReset s) := by
  obtain ⟨ps, hps, -, hheap⟩ := hs.owners
  refine ⟨⟨Nat.zero_lt_of_lt hs.fits.head_lt, Nat.zero_le _⟩,
    (latest_nil captureCap).symm, [], rfl, List.nodup_nil, fun p => ?_⟩
  have hnone : (captureReset s).heap p = none := by
    refine (freeSlots_heap hs.fits s.heap p).trans ?_
    rw [hps]
    by_cases hp : p ∈ ps
    · exact if_pos (List.mem_map_of_mem hp)
    · rw [if_neg]
      · cases hsome : s.heap p with
        | none => rfl
        | some bytes => exact absurd ((hheap p).mp (by rw [hsome]; rfl)) hp
      · rintro hmem
        obtain ⟨q, hq, heq⟩ := List.mem_map.mp hmem
        exact hp (Option.some.inj heq ▸ hq)
  rw [hnone]
  exact ⟨nofun, nofun⟩

theorem Kept.step (hs : Kept s) {op : CaptureOp} (hstep : captureStep s op = some s') :
    Kept s' := by
  cases op with
  | record ifIndex macaddr data copy =>
    rw [captureStep] at hstep
    split at hstep
    · cases hstep
    · rename_i hcopy
      obtain rfl := Option.some.inj hstep
      by_cases hon : s.on = true
      · cases copy with
        | none =>
          simpa only [captureRecord, ite_self] using hs
        | some copy =>
          apply hs.record hon
          simpa using hcopy
      · have hsame : captureRecord ifIndex macaddr data copy s = s := by
          unfold captureRecord
          exact if_neg hon
        rw [hsame]
        exact hs
  | reset =>
    obtain rfl := Option.some.inj hstep
    exact hs.reset
  | enable on =>
    obtain rfl := Option.some.inj hstep
    have hs' : Kept { s with on := on } := ⟨hs.fits, hs.frames, hs.owners⟩
    exact hs'.reset
  | clock now =>
    obtain rfl := Option.some.inj hstep
    exact ⟨hs.fits, hs.frames, hs.owners⟩

theorem Kept.run (hs : Kept s) {ops : List CaptureOp} (hrun : captureRun s ops = some s') :
    Kept s' := by
  induction ops generalizing s with
  | nil =>
    obtain rfl := Option.some.inj hrun
    exact hs
  | cons op ops ih =>
    rw [captureRun] at hrun
    cases hstep : captureStep s op with
    | none =>
      rw [hstep] at hrun
      cases hrun
    | some next =>
      rw [hstep, Option.bind_some] at hrun
      exact ih (hs.step hstep) hrun

/-- A buffer that is in use has one slot that owns it. -/
theorem Kept.owned (hs : Kept s) {p : Nat} (hp : (s.heap p).isSome = true) :
    ∃ i, OwnedAt s p i ∧ ∀ j, OwnedAt s p j → j = i := by
  obtain ⟨ps, hps, hnodup, hheap⟩ := hs.owners
  have hget : ∀ i, OwnedAt s p i ↔ ps[i]? = some p := by
    intro i
    have hi := congrArg (fun l : List (Option Nat) => l[i]?) hps
    simp only [List.getElem?_map, Ring.read] at hi
    rw [OwnedAt]
    by_cases hlt : i < s.ring.count
    · rw [List.getElem?_range hlt, Option.map_some, Option.map_some] at hi
      have hslot : s.ring.index captureCap i = (s.ring.head + i) % captureCap := rfl
      rw [hslot] at hi
      constructor
      · rintro ⟨-, hdata⟩
        rw [hdata] at hi
        cases hp' : ps[i]? with
        | none => rw [hp'] at hi; cases hi
        | some q =>
          rw [hp'] at hi
          exact (Option.some.inj hi).symm ▸ rfl
      · intro hp'
        rw [hp'] at hi
        exact ⟨hlt, Option.some.inj hi⟩
    · have hnone : (List.range s.ring.count)[i]? = none :=
        List.getElem?_eq_none (by rw [List.length_range]; omega)
      rw [hnone] at hi
      constructor
      · exact fun h => absurd h.1 hlt
      · intro hp'
        rw [hp'] at hi
        cases hi
  obtain ⟨i, hi, hget'⟩ := List.mem_iff_getElem.mp ((hheap p).mp hp)
  refine ⟨i, (hget i).mpr ?_, fun j hj => ?_⟩
  · rw [List.getElem?_eq_getElem hi, hget']
  · have hj' := (hget j).mp hj
    have hi' : ps[i]? = some p := by rw [List.getElem?_eq_getElem hi, hget']
    exact ((List.getElem?_inj hi hnodup).mp (hi'.trans hj'.symm)).symm

end Kept

/-! ## The order of the frames -/

/-- Each frame is stamped with how many were recorded before it at its time. -/
inductive Stamps : List Captured → Prop
  | nil : Stamps []
  | snoc {log : List Captured} {c : Captured} : Stamps log → (∀ b ∈ log, b.t ≤ c.t) →
    c.subsec = UInt32.ofNat (recordedAt c.t log) → Stamps (log ++ [c])

structure Stamped (s : CaptureState) : Prop where
  ahead : s.captureT ≤ s.now
  bounded : ∀ c ∈ s.log, c.t ≤ s.captureT
  next : s.subsec = UInt32.ofNat (recordedAt s.captureT s.log)
  stamps : Stamps s.log

section Stamps

variable {s s' : CaptureState} {log : List Captured}

theorem recordedAt_append (t : Nat) (log : List Captured) (c : Captured) :
    recordedAt t (log ++ [c]) = recordedAt t log + if c.t = t then 1 else 0 := by
  rw [recordedAt, List.filter_append, List.length_append, recordedAt]
  by_cases hc : c.t = t <;> simp [hc]

theorem recordedAt_eq_zero {t : Nat} (h : ∀ c ∈ log, c.t < t) : recordedAt t log = 0 := by
  rw [recordedAt, List.length_eq_zero_iff, List.filter_eq_nil_iff]
  intro c hc
  have hlt := h c hc
  simp only [decide_eq_true_eq]
  omega

theorem Stamps.subsec_lt (h : Stamps log) : ∀ c ∈ log, c.subsec.toNat < recordedAt c.t log := by
  induction h with
  | nil => exact nofun
  | @snoc log c _ _ hsubsec ih =>
    intro b hb
    rw [recordedAt_append]
    rcases List.mem_append.mp hb with hb | hb
    · have hlt := ih b hb
      omega
    · obtain rfl := List.mem_singleton.mp hb
      rw [if_pos rfl, hsubsec, UInt32.toNat_ofNat']
      have hle := Nat.mod_le (recordedAt b.t log) (2 ^ 32)
      omega

/-- Stamps that fit into 32 bits are in order. -/
theorem Stamps.pairwise (h : Stamps log) (hfew : ∀ t, recordedAt t log ≤ 2 ^ 32) :
    log.Pairwise Earlier := by
  induction h with
  | nil => exact List.Pairwise.nil
  | @snoc log c hlog htimes hsubsec ih =>
    have hbefore : ∀ t, recordedAt t log ≤ 2 ^ 32 := by
      intro t
      have hle := hfew t
      rw [recordedAt_append] at hle
      omega
    refine List.pairwise_append.mpr ⟨ih hbefore, List.pairwise_singleton _ c, ?_⟩
    intro b hb c' hc'
    obtain rfl := List.mem_singleton.mp hc'
    by_cases ht : b.t = c'.t
    · refine Or.inr ⟨ht, ?_⟩
      have hroom := hfew c'.t
      rw [recordedAt_append, if_pos rfl] at hroom
      have hlt := hlog.subsec_lt b hb
      rw [ht] at hlt
      rw [UInt32.lt_iff_toNat_lt, hsubsec, UInt32.toNat_ofNat', Nat.mod_eq_of_lt (by omega)]
      exact hlt
    · have hle := htimes b hb
      exact Or.inl (by omega)

theorem start_stamped : Stamped .start := ⟨Nat.le_refl 0, nofun, rfl, Stamps.nil⟩

theorem Stamped.record (hs : Stamped s) {ifIndex : Int} {macaddr : BitVec 48} {data : List UInt8}
    {copy : Nat} (hon : s.on = true) :
    Stamped (captureRecord ifIndex macaddr data (some copy) s) := by
  have hahead := hs.ahead
  rw [captureRecord, if_pos hon]
  dsimp only
  have hused : (if s.now ≠ s.captureT then 0 else s.subsec) =
      UInt32.ofNat (recordedAt s.now s.log) := by
    split
    · rename_i hne
      rw [recordedAt_eq_zero]
      · rfl
      · intro c hc
        have hle := hs.bounded c hc
        omega
    · rename_i heq
      rw [not_not.mp heq]
      exact hs.next
  have hclock : (if s.now ≠ s.captureT then s.now else s.captureT) = s.now := by
    split
    · rfl
    · rename_i heq
      exact (not_not.mp heq).symm
  rw [hused, hclock]
  have htimes : ∀ c ∈ s.log, c.t ≤ s.now := fun c hc => Nat.le_trans (hs.bounded c hc) hahead
  refine ⟨Nat.le_refl _, ?_, ?_, hs.stamps.snoc htimes rfl⟩
  · intro c hc
    rcases List.mem_append.mp hc with hc | hc
    · exact htimes c hc
    · rw [List.mem_singleton.mp hc]
  · dsimp only
    rw [recordedAt_append, if_pos rfl, UInt32.ofNat_add]
    rfl

theorem reset_stamped : Stamped (captureReset s) :=
  ⟨Nat.zero_le _, nofun, rfl, Stamps.nil⟩

theorem captureRun_cons {op : CaptureOp} {ops : List CaptureOp}
    (hrun : captureRun s (op :: ops) = some s') :
    ∃ next, captureStep s op = some next ∧ captureRun next ops = some s' := by
  rw [captureRun] at hrun
  cases hstep : captureStep s op with
  | none =>
    rw [hstep] at hrun
    cases hrun
  | some next =>
    rw [hstep, Option.bind_some] at hrun
    exact ⟨next, rfl, hrun⟩

theorem captureRecord_now {ifIndex : Int} {macaddr : BitVec 48} {data : List UInt8}
    {copy : Option Nat} : (captureRecord ifIndex macaddr data copy s).now = s.now := by
  unfold captureRecord
  split
  · cases copy <;> rfl
  · rfl

theorem Stamped.run (hs : Stamped s) {ops : List CaptureOp} (hforward : Forward s.now ops)
    (hrun : captureRun s ops = some s') : Stamped s' := by
  induction ops generalizing s with
  | nil =>
    obtain rfl := Option.some.inj hrun
    exact hs
  | cons op ops ih =>
    obtain ⟨next, hstep, hrun⟩ := captureRun_cons hrun
    cases op with
    | record ifIndex macaddr data copy =>
      rw [captureStep] at hstep
      split at hstep
      · cases hstep
      · obtain rfl := Option.some.inj hstep
        refine ih ?_ (by rw [captureRecord_now]; exact hforward) hrun
        by_cases hon : s.on = true
        · cases copy with
          | none => simpa only [captureRecord, ite_self] using hs
          | some copy => exact hs.record hon
        · have hsame : captureRecord ifIndex macaddr data copy s = s := by
            unfold captureRecord
            exact if_neg hon
          rw [hsame]
          exact hs
    | reset =>
      obtain rfl := Option.some.inj hstep
      exact ih reset_stamped hforward hrun
    | enable on =>
      obtain rfl := Option.some.inj hstep
      have hs' : Stamped (captureReset { s with on := on }) := reset_stamped
      exact ih hs' hforward hrun
    | clock now =>
      obtain rfl := Option.some.inj hstep
      have hs' : Stamped { s with now := now } :=
        ⟨Nat.le_trans hs.ahead hforward.1, hs.bounded, hs.next, hs.stamps⟩
      exact ih hs' hforward.2 hrun

end Stamps

/-! ## Bursts -/

/-- Frames in one second, each in a buffer of its own. -/
def burst (n : Nat) : List CaptureOp :=
  .enable true :: (List.range n).map fun i => .record 0 0 [0] (some i)

/-- What is recorded of it. -/
def burstLog (n : Nat) : List Captured :=
  (List.range n).map fun i => ⟨0, UInt32.ofNat i, 0, 1, 0, [0]⟩

theorem captureRun_append (ops ops' : List CaptureOp) : ∀ s,
    captureRun s (ops ++ ops') = (captureRun s ops).bind fun s => captureRun s ops' := by
  induction ops with
  | nil => exact fun s => rfl
  | cons op ops ih =>
    intro s
    rw [List.cons_append, captureRun, captureRun, Option.bind_assoc]
    congr 1
    exact funext ih

theorem burst_run (n : Nat) : ∃ s, captureRun .start (burst n) = some s ∧ s.on = true ∧
    s.now = 0 ∧ s.captureT = 0 ∧ s.subsec = UInt32.ofNat n ∧ s.log = burstLog n ∧
    ∀ p, n ≤ p → s.heap p = none := by
  induction n with
  | zero => exact ⟨_, rfl, rfl, rfl, rfl, rfl, rfl, fun p _ => rfl⟩
  | succ n ih =>
    obtain ⟨s, hrun, hon, hnow, hcaptureT, hsubsec, hlog, hheap⟩ := ih
    have hburst : burst (n + 1) = burst n ++ [.record 0 0 [0] (some n)] := by
      rw [burst, List.range_succ, List.map_append]
      rfl
    have hstep : captureStep s (.record 0 0 [0] (some n)) =
        some (captureRecord 0 0 [0] (some n) s) := by
      rw [captureStep, Option.any_some, hheap n (Nat.le_refl n)]
      rfl
    obtain ⟨frame, -, -, hheap', -⟩ := @captureRecord_ring s 0 0 [0] n hon
    refine ⟨captureRecord 0 0 [0] (some n) s, ?_, ?_, ?_, ?_, ?_, ?_, ?_⟩
    · rw [hburst, captureRun_append, hrun, Option.bind_some, captureRun, hstep]
      rfl
    · rw [captureRecord, if_pos hon]
      exact hon
    · rw [captureRecord_now, hnow]
    · rw [captureRecord, if_pos hon]
      simp [hnow, hcaptureT]
    · rw [captureRecord, if_pos hon, UInt32.ofNat_add]
      simp [hnow, hcaptureT, hsubsec]
    · rw [captureRecord, if_pos hon, burstLog, List.range_succ, List.map_append]
      simp [hnow, hcaptureT, hsubsec, hlog, burstLog]
    · intro p hp
      have hold := hheap p (by omega)
      have hmalloc : s.heap.malloc n [0] p = none := by
        rw [Heap.malloc, if_neg (by omega), hold]
      rw [hheap']
      split
      · exact hmalloc
      · rw [Heap.free, hmalloc]
        exact ite_self _

theorem burst_forward (n : Nat) : Forward 0 (burst n) := by
  have hrecords : ∀ is : List Nat,
      Forward 0 (is.map fun i => CaptureOp.record 0 0 [0] (some i)) := by
    intro is
    induction is with
    | nil => trivial
    | cons i is ih => exact ih
  exact hrecords _

/-! ## The latest frames -/

/-- The ring has the latest frames in the order in which they were recorded, and every buffer has
its one slot. -/
theorem capture_latest (ops : List CaptureOp) (s : CaptureState)
    (hrun : captureRun .start ops = some s) :
    captureFrames s = (latest captureCap s.log).map some ∧
      (∀ p, (s.heap p).isSome = true → ∃ i, OwnedAt s p i ∧ ∀ j, OwnedAt s p j → j = i) ∧
      (Forward 0 ops → (∀ t, recordedAt t s.log ≤ 2 ^ 32) →
        (latest captureCap s.log).Pairwise Earlier) := by
  have hkept := start_kept.run hrun
  refine ⟨?_, fun p hp => hkept.owned hp, fun hforward hfew => ?_⟩
  · have hframes := hkept.frames
    rw [Ring.read, List.map_map, latest, List.length_map, ← List.map_drop] at hframes
    exact hframes
  · have hstamped := start_stamped.run hforward hrun
    exact (hstamped.stamps.pairwise hfew).sublist (List.drop_sublist _ _)

/-- A burst that overwrites the oldest frames, and a reset behind it. -/
theorem longBurst_latest : ∃ s s', captureRun .start (burst 9000) = some s ∧
    captureFrames s = ((burstLog 9000).drop 808).map some ∧
    (∀ p, (s.heap p).isSome = true → ∃ i, OwnedAt s p i ∧ ∀ j, OwnedAt s p j → j = i) ∧
    ((burstLog 9000).drop 808).Pairwise Earlier ∧
    captureRun .start (burst 9000 ++ [.reset]) = some s' ∧ captureFrames s' = [] ∧
    ∀ p, s'.heap p = none := by
  -- with the number itself the burst would be computed
  generalize hn : 9000 = n
  obtain ⟨s, hrun, -, -, -, -, hlog, -⟩ := burst_run n
  have hlength : (burstLog n).length = n := by
    rw [burstLog, List.length_map, List.length_range]
  have hlatest : latest captureCap s.log = (burstLog n).drop 808 := by
    rw [latest, hlog, hlength, ← hn]
    rfl
  obtain ⟨hframes, howned, horder⟩ := capture_latest (burst n) s hrun
  rw [hlatest] at hframes horder
  have hreset : captureRun .start (burst n ++ [.reset]) = some (captureReset s) := by
    rw [captureRun_append, hrun]
    rfl
  obtain ⟨hempty, hfreed, -⟩ := capture_latest _ (captureReset s) hreset
  have hnone : captureFrames (captureReset s) = [] := by
    have hlog' : (captureReset s).log = [] := rfl
    rw [hempty, hlog', latest, List.drop_nil]
    rfl
  refine ⟨s, captureReset s, hrun, hframes, howned, ?_, hreset, hnone, fun p => ?_⟩
  · refine horder (burst_forward n) fun t => ?_
    have hle := List.length_filter_le (fun c : Captured => decide (c.t = t)) s.log
    rw [recordedAt]
    rw [hlog, hlength] at hle
    rw [hlog]
    omega
  · by_contra hheld
    obtain ⟨i, ⟨hlt, -⟩, -⟩ := hfreed p (Option.isSome_iff_ne_none.mpr hheld)
    exact absurd hlt (Nat.not_lt_zero i)

/-! ## More frames in a second than the counter counts -/

/-- The stamps of the last two frames. -/
theorem burst_disorder {n : Nat} (hn : captureCap ≤ n + 2)
    (hwrap : ¬ UInt32.ofNat n < UInt32.ofNat (n + 1)) : ∃ s,
    captureRun .start (burst (n + 2)) = some s ∧ Forward 0 (burst (n + 2)) ∧
      ¬ (latest captureCap s.log).Pairwise Earlier := by
  obtain ⟨s, hrun, -, -, -, -, hlog, -⟩ := burst_run (n + 2)
  refine ⟨s, hrun, burst_forward _, fun horder => ?_⟩
  have hsplit : burstLog (n + 2) = burstLog n ++
      [⟨0, UInt32.ofNat n, 0, 1, 0, [0]⟩, ⟨0, UInt32.ofNat (n + 1), 0, 1, 0, [0]⟩] := by
    rw [burstLog, List.range_succ, List.range_succ, List.append_assoc, List.map_append]
    rfl
  have hlength : (burstLog n).length = n := by
    rw [burstLog, List.length_map, List.length_range]
  rw [hlog, hsplit, latest, List.drop_append_of_le_length, List.pairwise_append] at horder
  · have hlast := (List.pairwise_cons.mp horder.2.1).1 _ (List.mem_singleton_self _)
    rcases hlast with hlt | ⟨-, hlt⟩
    · exact absurd hlt (Nat.lt_irrefl 0)
    · exact hwrap hlt
  · have hcap : captureCap = 8192 := rfl
    rw [List.length_append, hlength]
    simp only [List.length_cons, List.length_nil]
    omega

/-- The counter starts again after 4294967296 frames. -/
theorem longSecond_disorder : ∃ s, captureRun .start (burst (4294967295 + 2)) = some s ∧
    Forward 0 (burst (4294967295 + 2)) ∧ ¬ (latest captureCap s.log).Pairwise Earlier :=
  burst_disorder (by rw [captureCap]; omega) (by decide)

end Mstpd.Wasm
