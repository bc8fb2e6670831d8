import Mathlib.Data.List.GetD
import Mstpd.Types

/-!
# BPDUs in memory

The octets of a `bpdu_t`, which the receiver finds as the sender has written them.
-/

namespace Mstpd

def be32 (n : UInt32) : List UInt8 := be16 (n >>> 16).toUInt16 ++ be16 n.toUInt16

def beMac (m : BitVec 48) : List UInt8 :=
  be16 ⟨m.extractLsb' 32 16⟩ ++ be16 ⟨m.extractLsb' 16 16⟩ ++ be16 ⟨m.extractLsb' 0 16⟩

def BridgeIdentifier.octets (id : BridgeIdentifier) : List UInt8 :=
  be16 id.priority ++ beMac id.macAddress

/-- The sixteen octets of one MSTI configuration message. -/
def MstiMessage.octets (msg : MstiMessage) : List UInt8 :=
  msg.flags :: (msg.mstiRRootID.octets ++ be32 msg.mstiIntRootPathCost ++
    [msg.bridgeIdentifierPriority, msg.portIdentifierPriority, msg.remainingHops])

def octetPair (o : UInt8 × UInt8) : List UInt8 := [o.1, o.2]

/-- The octets before the MST configuration identifier. -/
def Bpdu.head (b : Bpdu) : List UInt8 :=
  be16 b.protocolIdentifier ++ [b.protocolVersion, b.bpduType, b.flags] ++ b.cistRootID.octets ++
    be32 b.cistExtRootPathCost ++ b.cistRRootID.octets ++ be16 b.cistPortID ++
    octetPair b.messageAge ++ octetPair b.maxAge ++ octetPair b.helloTime ++
    octetPair b.forwardDelay ++ [b.version1Len] ++ be16 b.version3Len

/-- The octets behind the MST configuration identifier. -/
def Bpdu.tail (b : Bpdu) : List UInt8 :=
  be32 b.cistIntRootPathCost ++ b.cistBridgeID.octets ++ [b.cistRemainingHops]

/-- The members of `bpdu_t` at their packed offsets. -/
def Bpdu.mem (b : Bpdu) : Mem := fun o =>
  if o < 38 then b.head.getD o 0
  else if o < 89 then b.mstConfigurationIdentifier.getD (o - 38) 0
  else if o < 102 then b.tail.getD (o - 89) 0
  else (b.mstConfiguration ((o - 102) / 16)).octets.getD ((o - 102) % 16) 0

/-- The octets of a list behind an offset. -/
def Mem.Holds (m : Mem) (o : Nat) (l : List UInt8) : Prop :=
    ∀ i, i < l.length → m (o + i) = l.getD i 0

theorem Mem.Holds.append {m : Mem} {o : Nat} {l l' : List UInt8} (h : m.Holds o (l ++ l')) :
    m.Holds o l ∧ m.Holds (o + l.length) l' := by
  constructor
  · intro i hi
    rw [h i (by rw [List.length_append]; omega), List.getD_append _ _ _ _ hi]
  · intro i hi
    have hin := h (l.length + i) (by rw [List.length_append]; omega)
    rw [List.getD_append_right _ _ _ _ (Nat.le_add_right _ _), Nat.add_sub_cancel_left] at hin
    rw [Nat.add_assoc]
    exact hin

section Reading

variable {m : Mem} {o : Nat}

theorem Mem.Holds.u16 {n : UInt16} (h : m.Holds o (be16 n)) : m.u16 o = n := by
  have hhigh := h 0 Nat.zero_lt_two
  have hlow := h 1 Nat.one_lt_two
  simp only [be16, Nat.add_zero, List.getD_cons_zero, List.getD_cons_succ] at hhigh hlow
  rw [Mem.u16, hhigh, hlow]
  apply UInt16.toNat_inj.mp
  have hn := n.toNat_lt
  have h8 : (8 : UInt16).toNat % 16 = 8 := rfl
  simp only [UInt16.toNat_or, UInt16.toNat_shiftLeft, UInt8.toNat_toUInt16, UInt16.toNat_toUInt8,
    UInt16.toNat_shiftRight, h8, Nat.shiftRight_eq_div_pow, Nat.shiftLeft_eq]
  rw [Nat.mod_eq_of_lt (by omega : n.toNat / 2 ^ 8 % 2 ^ 8 * 2 ^ 8 < 2 ^ 16), ← Nat.shiftLeft_eq,
    ← Nat.shiftLeft_add_eq_or_of_lt (by omega), Nat.shiftLeft_eq]
  omega

theorem Mem.Holds.u32 {n : UInt32} (h : m.Holds o (be32 n)) : m.u32 o = n := by
  obtain ⟨hhigh, hlow⟩ := h.append
  rw [Mem.u32, hhigh.u16, show m.u16 (o + 2) = n.toUInt16 from hlow.u16]
  apply UInt32.toNat_inj.mp
  have hn := n.toNat_lt
  have h16 : (16 : UInt32).toNat % 32 = 16 := rfl
  simp only [UInt32.toNat_or, UInt32.toNat_shiftLeft, UInt16.toNat_toUInt32, UInt32.toNat_toUInt16,
    UInt32.toNat_shiftRight, h16, Nat.shiftRight_eq_div_pow, Nat.shiftLeft_eq]
  rw [Nat.mod_eq_of_lt (by omega : n.toNat / 2 ^ 16 % 2 ^ 16 * 2 ^ 16 < 2 ^ 32), ← Nat.shiftLeft_eq,
    ← Nat.shiftLeft_add_eq_or_of_lt (by omega), Nat.shiftLeft_eq]
  omega

theorem Mem.Holds.mac {a : BitVec 48} (h : m.Holds o (beMac a)) : m.mac o = a := by
  obtain ⟨h, hlow⟩ := h.append
  obtain ⟨hhigh, hmid⟩ := h.append
  rw [Mem.mac, hhigh.u16, show m.u16 (o + 2) = _ from hmid.u16,
    show m.u16 (o + 4) = _ from hlow.u16]
  ext i hi
  simp only [BitVec.getElem_append, BitVec.getElem_extractLsb']
  split
  · simp [hi]
  · split
    · rw [BitVec.getLsbD_eq_getElem (by omega)]
      congr 1
      omega
    · rw [BitVec.getLsbD_eq_getElem (by omega)]
      congr 1
      omega

theorem Mem.Holds.bridgeId {id : BridgeIdentifier} (h : m.Holds o id.octets) :
    m.bridgeId o = id := by
  obtain ⟨hpriority, hmac⟩ := h.append
  rw [Mem.bridgeId, hpriority.u16, show m.mac (o + 2) = _ from hmac.mac]

theorem Mem.Holds.mstiMessage {msg : MstiMessage} (h : m.Holds o msg.octets) :
    m.mstiMessage o = msg := by
  have hflags := h 0 (Nat.succ_pos _)
  have hsplit : m.Holds o ([msg.flags] ++ (msg.mstiRRootID.octets ++ be32 msg.mstiIntRootPathCost ++
    [msg.bridgeIdentifierPriority, msg.portIdentifierPriority, msg.remainingHops])) := h
  obtain ⟨-, hrest⟩ := hsplit.append
  obtain ⟨hvector, hends⟩ := hrest.append
  obtain ⟨hroot, hcost⟩ := hvector.append
  have hbridge := hends 0 (by decide : 0 < 3)
  have hport := hends 1 (by decide : 1 < 3)
  have hhops := hends 2 (by decide : 2 < 3)
  rw [Mem.mstiMessage, show m o = msg.flags from hflags,
    show m.bridgeId (o + 1) = _ from hroot.bridgeId, show m.u32 (o + 9) = _ from hcost.u32,
    show m (o + 13) = msg.bridgeIdentifierPriority from hbridge,
    show m (o + 14) = msg.portIdentifierPriority from hport,
    show m (o + 15) = msg.remainingHops from hhops]

end Reading

namespace Bpdu

variable (b : Bpdu)

theorem mem_head : b.mem.Holds 0 b.head := by
  intro i hi
  have hlt : i < 38 := hi
  rw [mem, Nat.zero_add, if_pos hlt]

theorem mem_identifier (hid : b.mstConfigurationIdentifier.length = 51) :
    b.mem.Holds 38 b.mstConfigurationIdentifier := by
  intro i hi
  rw [mem, if_neg (by omega), if_pos (by omega), Nat.add_sub_cancel_left]

theorem mem_tail : b.mem.Holds 89 b.tail := by
  intro i hi
  have hlt : i < 13 := hi
  rw [mem, if_neg (by omega), if_neg (by omega), if_pos (by omega), Nat.add_sub_cancel_left]

theorem mem_msti (i : Nat) : b.mem.Holds (102 + 16 * i) (b.mstConfiguration i).octets := by
  intro j hj
  have hlt : j < 16 := hj
  rw [mem, if_neg (by omega), if_neg (by omega), if_neg (by omega)]
  have hdiv : (102 + 16 * i + j - 102) / 16 = i := by omega
  have hmod : (102 + 16 * i + j - 102) % 16 = j := by omega
  rw [hdiv, hmod]

/-- The receiver decodes the members that the sender has assigned. -/
theorem bpdu_mem (hid : b.mstConfigurationIdentifier.length = 51) : b.mem.bpdu = b := by
  obtain ⟨h, hlen3⟩ := b.mem_head.append
  obtain ⟨h, hlen1⟩ := h.append
  obtain ⟨h, hdelay⟩ := h.append
  obtain ⟨h, hhello⟩ := h.append
  obtain ⟨h, hmaxAge⟩ := h.append
  obtain ⟨h, hage⟩ := h.append
  obtain ⟨h, hport⟩ := h.append
  obtain ⟨h, hregional⟩ := h.append
  obtain ⟨h, hcost⟩ := h.append
  obtain ⟨h, hroot⟩ := h.append
  obtain ⟨hprotocol, htypes⟩ := h.append
  obtain ⟨ht, hhops⟩ := b.mem_tail.append
  obtain ⟨hintcost, hbridge⟩ := ht.append
  have hident : (List.range 51).map (fun i => b.mem (38 + i)) = b.mstConfigurationIdentifier := by
    refine List.ext_getElem (by simp [hid]) fun i hi hi' => ?_
    rw [List.getElem_map, List.getElem_range, b.mem_identifier hid i hi',
      List.getD_eq_getElem _ _ hi']
  have hmstis : (fun i => b.mem.mstiMessage (102 + 16 * i)) = b.mstConfiguration :=
    funext fun i => (b.mem_msti i).mstiMessage
  rw [Mem.bpdu, hident, hmstis, show b.mem.u16 0 = _ from hprotocol.u16,
    show b.mem 2 = b.protocolVersion from htypes 0 (by decide : 0 < 3),
    show b.mem 3 = b.bpduType from htypes 1 (by decide : 1 < 3),
    show b.mem 4 = b.flags from htypes 2 (by decide : 2 < 3),
    show b.mem.bridgeId 5 = _ from hroot.bridgeId, show b.mem.u32 13 = _ from hcost.u32,
    show b.mem.bridgeId 17 = _ from hregional.bridgeId, show b.mem.u16 25 = _ from hport.u16,
    show b.mem 27 = b.messageAge.1 from hage 0 Nat.zero_lt_two,
    show b.mem 28 = b.messageAge.2 from hage 1 Nat.one_lt_two,
    show b.mem 29 = b.maxAge.1 from hmaxAge 0 Nat.zero_lt_two,
    show b.mem 30 = b.maxAge.2 from hmaxAge 1 Nat.one_lt_two,
    show b.mem 31 = b.helloTime.1 from hhello 0 Nat.zero_lt_two,
    show b.mem 32 = b.helloTime.2 from hhello 1 Nat.one_lt_two,
    show b.mem 33 = b.forwardDelay.1 from hdelay 0 Nat.zero_lt_two,
    show b.mem 34 = b.forwardDelay.2 from hdelay 1 Nat.one_lt_two,
    show b.mem 35 = b.version1Len from hlen1 0 Nat.one_pos,
    show b.mem.u16 36 = _ from hlen3.u16, show b.mem.u32 89 = _ from hintcost.u32,
    show b.mem.bridgeId 93 = _ from hbridge.bridgeId,
    show b.mem 101 = b.cistRemainingHops from hhops 0 Nat.one_pos]

end Bpdu

end Mstpd
