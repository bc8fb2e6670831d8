import Mathlib.Tactic.Common

/-!
# Packet filters

The part of the classic packet filter language that loads from fixed places of a packet. Jumps
only go forward, so a program is read once from its beginning to its end.
-/

namespace PacketFilter

/-- An instruction as it is handed to the kernel: `struct sock_filter`. -/
structure SockFilter where
  code : UInt16
  jt : UInt8
  jf : UInt8
  k : UInt32

inductive Width
  | word | half | byte

def Width.size : Width → Nat
  | .word => 4
  | .half => 2
  | .byte => 1

inductive Test
  | equal | greater | greaterOrEqual | anyBit

def Test.holds (a k : UInt32) : Test → Bool
  | .equal => a == k
  | .greater => decide (k < a)
  | .greaterOrEqual => decide (k ≤ a)
  | .anyBit => a &&& k != 0

/-- Jumps say how many instructions are skipped. -/
inductive Op
  | load (w : Width) (k : UInt32)
  | always (k : UInt32)
  | jump (test : Test) (k : UInt32) (jt jf : UInt8)
  | ret (k : UInt32)
  | retA

def SockFilter.op (i : SockFilter) : Option Op :=
  match i.code with
  | 0x20 => some (.load .word i.k)
  | 0x28 => some (.load .half i.k)
  | 0x30 => some (.load .byte i.k)
  | 0x05 => some (.always i.k)
  | 0x15 => some (.jump .equal i.k i.jt i.jf)
  | 0x25 => some (.jump .greater i.k i.jt i.jf)
  | 0x35 => some (.jump .greaterOrEqual i.k i.jt i.jf)
  | 0x45 => some (.jump .anyBit i.k i.jt i.jf)
  | 0x06 => some (.ret i.k)
  | 0x16 => some .retA
  | _ => none

/-- The number that the octets make, the highest first. -/
def bigEndian (octets : List UInt8) : UInt32 :=
  octets.foldl (fun n o => n <<< 8 ||| o.toUInt32) 0

/-- The number at an offset, if all of it is in the packet. -/
def loadAt (packet : List UInt8) (w : Width) (k : UInt32) : Option UInt32 :=
  if k.toNat + w.size ≤ packet.length then
    some (bigEndian ((packet.drop k.toNat).take w.size))
  else none

/-- The verdict of a program with this accumulator, after so many instructions are skipped. -/
def run (packet : List UInt8) : List Op → Nat → UInt32 → Option UInt32
  | [], _, _ => none
  | _ :: rest, skip + 1, a => run packet rest skip a
  | op :: rest, 0, a =>
    match op with
    | .load w k =>
      match loadAt packet w k with
      | some a => run packet rest 0 a
      | none => some 0
    | .always k => run packet rest k.toNat a
    | .jump test k jt jf => run packet rest (if test.holds a k then jt.toNat else jf.toNat) a
    | .ret k => some k
    | .retA => some a

def Op.returns : Op → Bool
  | .ret _ => true
  | .retA => true
  | _ => false

/-- Does a jump stay among the instructions that follow? -/
def Op.staysIn (n : Nat) : Op → Bool
  | .always k => decide (k.toNat < n)
  | .jump _ _ jt jf => decide (jt.toNat < n) && decide (jf.toNat < n)
  | _ => true

/-- What the kernel checks before it takes a program. -/
def checked : List Op → Bool
  | [] => false
  | op :: rest => if rest.isEmpty then op.returns else op.staysIn rest.length && checked rest

/-- A program of which every run ends with a verdict. -/
structure Filter where
  ops : List Op
  checked : checked ops = true

def attach (prog : List SockFilter) : Option Filter :=
  (prog.mapM SockFilter.op).bind fun ops => if h : checked ops = true then some ⟨ops, h⟩ else none

section Run

variable {packet : List UInt8}

theorem run_checked {ops : List Op} (h : checked ops = true) {skip : Nat} (hs : skip < ops.length)
    (a : UInt32) : (run packet ops skip a).isSome = true := by
  induction ops generalizing skip a with
  | nil => cases h
  | cons op rest ih =>
    rw [checked] at h
    cases skip with
    | succ skip =>
      have hlt : skip < rest.length := Nat.lt_of_succ_lt_succ hs
      have hmore : rest.isEmpty = false := by
        cases rest with
        | nil => cases hlt
        | cons => rfl
      simp only [hmore, Bool.false_eq_true, if_false, Bool.and_eq_true] at h
      exact ih h.2 hlt a
    | zero =>
      cases rest with
      | nil =>
        cases op with
        | ret | retA => rfl
        | load | always | jump => cases h
      | cons next rest =>
        simp only [List.isEmpty_cons, Bool.false_eq_true, if_false, Bool.and_eq_true] at h
        cases op with
        | load w k =>
          rw [run]
          split
          · exact ih h.2 (Nat.succ_pos _) _
          · rfl
        | always k => exact ih h.2 (of_decide_eq_true h.1) a
        | jump test k jt jf =>
          obtain ⟨hjt, hjf⟩ := Bool.and_eq_true_iff.mp h.1
          apply ih h.2
          split
          · exact of_decide_eq_true hjt
          · exact of_decide_eq_true hjf
        | ret | retA => rfl

theorem loadAt_append {w : Width} {k a : UInt32} (h : loadAt packet w k = some a)
    (pad : List UInt8) : loadAt (packet ++ pad) w k = some a := by
  rw [loadAt] at h ⊢
  split at h
  · rename_i hin
    rw [if_pos (by rw [List.length_append]; omega), List.drop_append_of_le_length (by omega),
      List.take_append_of_le_length (by rw [List.length_drop]; omega)]
    exact h
  · cases h

/-- A program that takes a packet takes it with anything behind it. -/
theorem run_append {ops : List Op} {skip : Nat} {a v : UInt32}
    (h : run packet ops skip a = some v) (hv : v ≠ 0) (pad : List UInt8) :
    run (packet ++ pad) ops skip a = some v := by
  induction ops generalizing skip a with
  | nil => cases h
  | cons op rest ih =>
    cases skip with
    | succ skip => exact ih h
    | zero =>
      cases op with
      | load w k =>
        rw [run] at h ⊢
        cases hload : loadAt packet w k with
        | some b =>
          rw [hload] at h
          rw [loadAt_append hload]
          exact ih h
        | none =>
          -- a load outside the packet is the verdict not to take it
          rw [hload] at h
          exact absurd (Option.some.inj h).symm hv
      | always k => exact ih h
      | jump test k jt jf => exact ih h
      | ret k => exact h
      | retA => exact h

end Run

namespace Filter

variable (f : Filter) {packet : List UInt8}

theorem ops_length_pos : 0 < f.ops.length := by
  have h := f.checked
  cases hops : f.ops with
  | nil =>
    rw [hops] at h
    cases h
  | cons => exact Nat.succ_pos _

/-- How much of the packet is taken. -/
def verdict (packet : List UInt8) : UInt32 :=
  (run packet f.ops 0 0).get (run_checked f.checked f.ops_length_pos 0)

theorem run_eq : run packet f.ops 0 0 = some (f.verdict packet) := (Option.some_get _).symm

theorem verdict_append (h : f.verdict packet ≠ 0) (pad : List UInt8) :
    f.verdict (packet ++ pad) = f.verdict packet :=
  Option.some.inj (f.run_eq.symm.trans (run_append f.run_eq h pad))

/-- What the socket receives of the packet. -/
def deliver (packet : List UInt8) : Option (List UInt8) :=
  if f.verdict packet = 0 then none else some (packet.take (f.verdict packet).toNat)

theorem deliver_length {octets : List UInt8} (h : f.deliver packet = some octets) :
    octets.length ≤ (f.verdict packet).toNat := by
  rw [deliver] at h
  split at h
  · cases h
  · obtain rfl := Option.some.inj h
    exact List.length_take_le _ _

/-- A packet that is taken as a whole is at the front of what is received when it comes padded. -/
theorem deliver_append (h : f.verdict packet ≠ 0) (hfits : packet.length ≤ (f.verdict packet).toNat)
    (pad : List UInt8) : ∃ rest, f.deliver (packet ++ pad) = some (packet ++ rest) := by
  refine ⟨pad.take ((f.verdict packet).toNat - packet.length), ?_⟩
  rw [deliver, f.verdict_append h, if_neg h, List.take_append, List.take_of_length_le hfits]

end Filter

end PacketFilter
