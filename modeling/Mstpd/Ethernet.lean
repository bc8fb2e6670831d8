import Mstpd.BridgeTrack
import Mstpd.Exchange
import Mstpd.PacketFilter

/-!
# BPDUs in Ethernet frames

What `MSTP_OUT_tx_bpdu` puts around a BPDU, and how `packet_rcv` and `bridge_bpdu_rcv` find the
BPDU and the port that it is for.
-/

namespace Mstpd

open Bridge Table

/-! ## The header -/

def ethHlen : Nat := 14

def ethDataLen : Nat := 1500

/-- `LLC_PDU_LEN_U`. -/
def llcPduLenU : Nat := 3

def llcPduTypeU : UInt8 := 3

def llcSapBspan : UInt8 := 0x42

/-- 7.12.3 of 802.1D -/
def bridgeGroupAddress : BitVec 48 := 0x0180c2000000

structure LlcHeader where
  destAddr : BitVec 48
  srcAddr : BitVec 48
  len8023 : UInt16
  dSap : UInt8
  sSap : UInt8
  llcCtrl : UInt8

/-- `sizeof(struct llc_header)`. -/
def sizeofLlcHeader : Nat := 17

def LlcHeader.octets (h : LlcHeader) : List UInt8 :=
  beMac h.destAddr ++ beMac h.srcAddr ++ be16 h.len8023 ++ [h.dSap, h.sSap, h.llcCtrl]

def Mem.llcHeader (m : Mem) : LlcHeader where
  destAddr := m.mac 0
  srcAddr := m.mac 6
  len8023 := m.u16 12
  dSap := m 14
  sSap := m 15
  llcCtrl := m 16

theorem Mem.Holds.llcHeader {m : Mem} {h : LlcHeader} (hm : m.Holds 0 h.octets) :
    m.llcHeader = h := by
  obtain ⟨hfront, hsaps⟩ := hm.append
  obtain ⟨haddrs, hlen⟩ := hfront.append
  obtain ⟨hdest, hsrc⟩ := haddrs.append
  have hd := hsaps 0 (by decide : 0 < 3)
  have hs := hsaps 1 (by decide : 1 < 3)
  have hc := hsaps 2 (by decide : 2 < 3)
  rw [Mem.llcHeader, hdest.mac, show m.mac 6 = _ from hsrc.mac, show m.u16 12 = _ from hlen.u16,
    show m 14 = h.dSap from hd, show m 15 = h.sSap from hs, show m 16 = h.llcCtrl from hc]

/-! ## Sending -/

/-- The first octets of a BPDU in memory. -/
def Bpdu.octets (b : Bpdu) (size : Nat) : List UInt8 := (List.range size).map b.mem

/-- The header of a BPDU that a port with this address sends. -/
def txHeader (macaddr : BitVec 48) (size : Nat) : LlcHeader where
  destAddr := bridgeGroupAddress
  srcAddr := macaddr
  len8023 := (size + llcPduLenU).toUInt16
  dSap := llcSapBspan
  sSap := llcSapBspan
  llcCtrl := llcPduTypeU

/-- What `MSTP_OUT_tx_bpdu` gives to `packet_send`, in one piece. -/
def txFrame (macaddr : BitVec 48) (bpdu : Bpdu) (size : Nat) : List UInt8 :=
  (txHeader macaddr size).octets ++ bpdu.octets size

/-! ## Receiving -/

/-- From `tcpdump -s 1152 -dd stp`. -/
def stpFilterCode : List PacketFilter.SockFilter :=
  [⟨0x28, 0, 0, 0x0000000c⟩, ⟨0x25, 3, 0, 0x000005dc⟩, ⟨0x30, 0, 0, 0x0000000e⟩,
    ⟨0x15, 0, 1, 0x00000042⟩, ⟨0x6, 0, 0, 0x00000480⟩, ⟨0x6, 0, 0, 0x00000000⟩]

/-- The filter of the packet socket. -/
def stpFilter : PacketFilter.Filter := (PacketFilter.attach stpFilterCode).get (by decide)

/-- The checks of the Ethernet and LLC header: the size of the BPDU behind it. -/
def bpduBehind (data : Mem) (len : Int) : Option Nat :=
  let h := data.llcHeader
  let l := h.len8023.toNat
  if ¬ (sizeofLlcHeader : Int) < len then none
  else if h.destAddr ≠ bridgeGroupAddress then none
  else if ¬ (l ≤ ethDataLen ∧ (l : Int) ≤ len - ethHlen ∧ llcPduLenU ≤ l) then none
  else if ¬ (h.dSap = llcSapBspan ∧ h.sSap = llcSapBspan ∧ h.llcCtrl &&& 0x3 = llcPduTypeU) then
    none
  else some (l - llcPduLenU)

/-- The turn of the first bridge that has the interface. -/
def bpduForBridge (env : Int → Env) (ifIndex : Int) (data : Mem) (len : Int) (b : TrackedBridge) :
    Option TrackedBridge :=
  match findIf ifIndex b with
  | none => some b
  | some p =>
    if !(b.ifs p).up then some b
    else
      match bpduBehind data len with
      | none => some b
      | some size =>
        (mstpInRxBpdu (env ifIndex) p (fun o => data (sizeofLlcHeader + o)) size b.core).map
          fun core => { b with core := core }

def bridgeBpduRcv (env : Int → Env) (ifIndex : Int) (data : Mem) (len : Int) (d : Daemon) :
    Option Daemon :=
  updateFirst (hasIf ifIndex) (bpduForBridge env ifIndex data len) d

/-- The size of `buf` in `packet_rcv`. -/
def packetBufLen : Nat := 2048

/-- `buf` when `recvfrom` has written to it. -/
def received (stack : Mem) (octets : List UInt8) : Mem := fun o => octets[o]?.getD (stack o)

/-- `packet_rcv`, given what is on the stack and what the socket has, if anything. -/
def packetRcv (env : Int → Env) (ifIndex : Int) (stack : Mem) (packet : Option (List UInt8))
    (d : Daemon) : Option Daemon :=
  match packet with
  | none => some d
  | some packet =>
    let octets := packet.take packetBufLen
    if octets.length = 0 then some d
    else bridgeBpduRcv env ifIndex (received stack octets) octets.length d

theorem received_holds (stack : Mem) (octets : List UInt8) :
    (received stack octets).Holds 0 octets := by
  intro i hi
  rw [Nat.zero_add, received, List.getElem?_eq_getElem hi, List.getD_eq_getElem _ _ hi]
  rfl

/-! ## What is handed to the state machines -/

/-- All of it has been received, and fits into the buffer with what is copied of it. -/
theorem bpduBehind_bounds {data : Mem} {len : Int} {size : Nat}
    (h : bpduBehind data len = some size) :
    (sizeofLlcHeader + size : Int) ≤ len ∧ size + llcPduLenU ≤ ethDataLen := by
  simp only [bpduBehind] at h
  split at h
  · cases h
  · split at h
    · cases h
    · split at h
      · cases h
      · rename_i hlen
        split at h
        · cases h
        · obtain rfl := Option.some.inj h
          simp only [sizeofLlcHeader, llcPduLenU, ethDataLen, ethHlen] at hlen ⊢
          omega

section Frame

variable {macaddr : BitVec 48} {bpdu : Bpdu} {size : Nat}

theorem txHeader_length (macaddr : BitVec 48) (size : Nat) :
    (txHeader macaddr size).octets.length = sizeofLlcHeader := rfl

theorem txFrame_length (macaddr : BitVec 48) (bpdu : Bpdu) (size : Nat) :
    (txFrame macaddr bpdu size).length = sizeofLlcHeader + size := by
  rw [txFrame, List.length_append, txHeader_length, Bpdu.octets, List.length_map, List.length_range]

/-- A frame that is received, with anything behind it, has its BPDU found. -/
theorem bpduBehind_frame {data : Mem} {len : Int} (hpos : 0 < size)
    (hsize : size + llcPduLenU ≤ ethDataLen) (hdata : data.Holds 0 (txFrame macaddr bpdu size))
    (hlen : (sizeofLlcHeader + size : Int) ≤ len) : bpduBehind data len = some size := by
  have hheader : data.llcHeader = txHeader macaddr size := hdata.append.1.llcHeader
  have hl : (size + llcPduLenU).toUInt16.toNat = size + llcPduLenU := by
    have h1500 : ethDataLen = 1500 := rfl
    simp only [Nat.toUInt16, UInt16.toNat_ofNat']
    exact Nat.mod_eq_of_lt (by omega)
  have hctrl : llcPduTypeU &&& 0x3 = llcPduTypeU := by decide
  have hok : size + llcPduLenU ≤ ethDataLen ∧ ((size + llcPduLenU : Nat) : Int) ≤ len - ethHlen ∧
      llcPduLenU ≤ size + llcPduLenU := by
    simp only [sizeofLlcHeader, llcPduLenU, ethHlen, ethDataLen] at hsize hlen ⊢
    omega
  have hlonger : (sizeofLlcHeader : Int) < len := by omega
  simp only [bpduBehind, hheader, txHeader, hl, hctrl, hok, hlonger, not_true_eq_false, if_false,
    ne_eq, and_self, Nat.add_sub_cancel]

theorem holds_bpdu {data : Mem} (hdata : data.Holds 0 (txFrame macaddr bpdu size)) {o : Nat}
    (ho : o < size) : data (sizeofLlcHeader + o) = bpdu.mem o := by
  have hbehind := hdata.append.2 o (by
    rw [Bpdu.octets, List.length_map, List.length_range]
    exact ho)
  rw [txHeader_length, Nat.zero_add] at hbehind
  rw [hbehind, Bpdu.octets, List.getD_eq_getElem _ _ (by simpa using ho), List.getElem_map,
    List.getElem_range]

/-- The filter takes 1152 octets of a packet whose length is no type and that has the SAP. -/
theorem stpFilter_verdict {packet : List UInt8} {high low dsap : UInt8} {front rest : List UInt8}
    (hpacket : packet = front ++ high :: low :: dsap :: rest) (hfront : front.length = 12)
    (hlen : high.toUInt32 <<< 8 ||| low.toUInt32 ≤ 1500) (hsap : dsap = llcSapBspan) :
    stpFilter.verdict packet = 0x480 := by
  have hops : stpFilter.ops = [.load .half 12, .jump .greater 1500 3 0, .load .byte 14,
      .jump .equal 0x42 0 1, .ret 0x480, .ret 0] := rfl
  have hlength : 15 ≤ packet.length := by
    rw [hpacket, List.length_append, hfront]
    simp only [List.length_cons]
    omega
  have hhalf : (packet.drop 12).take 2 = [high, low] := by
    rw [hpacket, ← hfront, List.drop_left]
    rfl
  have hbyte : (packet.drop 14).take 1 = [dsap] := by
    have h14 : 14 = front.length + 2 := by omega
    rw [hpacket, h14, ← List.drop_drop, List.drop_left]
    rfl
  have hload : PacketFilter.loadAt packet .half 12 =
      some (high.toUInt32 <<< 8 ||| low.toUInt32) := by
    have h12 : (12 : UInt32).toNat = 12 := rfl
    rw [PacketFilter.loadAt, h12, PacketFilter.Width.size, if_pos (by omega), hhalf]
    simp [PacketFilter.bigEndian]
  have hload' : PacketFilter.loadAt packet .byte 14 = some 0x42 := by
    have h14 : (14 : UInt32).toNat = 14 := rfl
    rw [PacketFilter.loadAt, h14, PacketFilter.Width.size, if_pos (by omega), hbyte, hsap]
    rfl
  have hnot : PacketFilter.Test.holds (high.toUInt32 <<< 8 ||| low.toUInt32) 1500 .greater =
      false :=
    decide_eq_false (UInt32.not_lt.mpr hlen)
  have hequal : PacketFilter.Test.holds 0x42 0x42 .equal = true := rfl
  have hnext : (0 : UInt8).toNat = 0 := rfl
  have hrun : PacketFilter.run packet stpFilter.ops 0 0 = some 0x480 := by
    rw [hops]
    simp only [PacketFilter.run, hload, hnot, hnext, hload', hequal, Bool.false_eq_true, if_false,
      if_true]
  exact Option.some.inj (stpFilter.run_eq.symm.trans hrun)

theorem be16_octets (n : UInt16) : ∃ high low : UInt8, be16 n = [high, low] ∧
    high.toUInt32 <<< 8 ||| low.toUInt32 = n.toUInt32 := by
  refine ⟨_, _, rfl, ?_⟩
  apply UInt32.toNat_inj.mp
  have hn := n.toNat_lt
  have h8 : (8 : UInt16).toNat % 16 = 8 := rfl
  have h8' : (8 : UInt32).toNat % 32 = 8 := rfl
  simp only [UInt32.toNat_or, UInt32.toNat_shiftLeft, UInt8.toNat_toUInt32, UInt16.toNat_toUInt8,
    UInt16.toNat_shiftRight, UInt16.toNat_toUInt32, h8, h8', Nat.shiftRight_eq_div_pow,
    Nat.shiftLeft_eq]
  rw [Nat.mod_eq_of_lt (by omega : n.toNat / 2 ^ 8 % 2 ^ 8 * 2 ^ 8 < 2 ^ 32), ← Nat.shiftLeft_eq,
    ← Nat.shiftLeft_add_eq_or_of_lt (by omega), Nat.shiftLeft_eq]
  omega

/-- The filter lets a frame with a BPDU through, up to its snapshot length. -/
theorem stpFilter_frame (hsize : size + llcPduLenU ≤ ethDataLen) :
    stpFilter.verdict (txFrame macaddr bpdu size) = 0x480 := by
  obtain ⟨high, low, hoctets, hvalue⟩ := be16_octets (size + llcPduLenU).toUInt16
  have hle : high.toUInt32 <<< 8 ||| low.toUInt32 ≤ 1500 := by
    have h1500 : ethDataLen = 1500 := rfl
    rw [hvalue, UInt32.le_iff_toNat_le, UInt16.toNat_toUInt32]
    simp only [Nat.toUInt16, UInt16.toNat_ofNat']
    have hmod := Nat.mod_le (size + llcPduLenU) (2 ^ 16)
    exact hmod.trans (hsize.trans h1500.le)
  have hframe : txFrame macaddr bpdu size =
      (beMac bridgeGroupAddress ++ beMac macaddr) ++ high :: low :: llcSapBspan ::
        ([llcSapBspan, llcPduTypeU] ++ bpdu.octets size) := by
    rw [txFrame, LlcHeader.octets, txHeader, hoctets]
    simp only [List.append_assoc, List.cons_append, List.nil_append]
  exact stpFilter_verdict hframe rfl hle rfl

end Frame

/-! ## What is sent -/

/-- A BPDU that fits into a frame and that its receiver finds valid. -/
structure Sendable (b : Bpdu) (size : Nat) : Prop where
  pos : 0 < size
  fits : size ≤ 1110
  valid : ∀ m : Mem, (∀ o < size, m o = b.mem o) →
    ∃ mstis, validateBpdu m size = some (b.protocolVersion, mstis)

section Sendable

variable {b : Bpdu} {size : Nat} {m : Mem}

theorem type_agrees (hm : ∀ o < size, m o = b.mem o) (hsize : 4 ≤ size) :
    m.bpdu.protocolIdentifier = b.protocolIdentifier ∧
      m.bpdu.protocolVersion = b.protocolVersion ∧ m.bpdu.bpduType = b.bpduType := by
  have hfirst : m.Holds 0 (be16 b.protocolIdentifier ++ [b.protocolVersion, b.bpduType]) := by
    intro i hi
    have hlt : i < 4 := hi
    rw [Nat.zero_add, hm i (by omega)]
    match i, hlt with
    | 0, _ | 1, _ | 2, _ | 3, _ => rfl
  obtain ⟨hprotocol, hrest⟩ := hfirst.append
  have hversion := hrest 0 (by decide : 0 < 2)
  have htype := hrest 1 (by decide : 1 < 2)
  exact ⟨hprotocol.u16, hversion, htype⟩

theorem lengths_agree (hm : ∀ o < size, m o = b.mem o) (hsize : 38 ≤ size) :
    m.bpdu.version1Len = b.version1Len ∧ m.bpdu.version3Len = b.version3Len := by
  have hlast : m.Holds 35 (b.version1Len :: be16 b.version3Len) := by
    intro i hi
    have hlt : i < 3 := hi
    rw [hm (35 + i) (by omega)]
    match i, hlt with
    | 0, _ | 1, _ | 2, _ => rfl
  have hsplit : m.Holds 35 ([b.version1Len] ++ be16 b.version3Len) := hlast
  have hlen1 := hlast 0 (Nat.succ_pos _)
  exact ⟨hlen1, hsplit.append.2.u16⟩

theorem sendable_tcn (hprotocol : b.protocolIdentifier = 0)
    (hversion : b.protocolVersion = protoSTP) (htype : b.bpduType = bpduTypeTcn) :
    Sendable b tcnBpduSize where
  pos := by decide
  fits := by decide
  valid m hm := by
    obtain ⟨hp, -, ht⟩ := type_agrees hm (le_refl 4)
    refine ⟨none, ?_⟩
    simp only [validateBpdu, hp, hprotocol, ht, htype, hversion, if_true, lt_irrefl, ne_eq,
      not_true_eq_false, or_self, if_false]

theorem sendable_config (hprotocol : b.protocolIdentifier = 0)
    (hversion : b.protocolVersion = protoSTP) (htype : b.bpduType = bpduTypeConfig) :
    Sendable b configBpduSize where
  pos := by decide
  fits := by decide
  valid m hm := by
    obtain ⟨hp, -, ht⟩ := type_agrees hm (by decide)
    have htcn : ¬ bpduTypeConfig = bpduTypeTcn := by decide
    have hlong : ¬ configBpduSize < tcnBpduSize := by decide
    refine ⟨none, ?_⟩
    simp only [validateBpdu, hp, hprotocol, ht, htype, hversion, htcn, hlong, if_true, lt_irrefl,
      ne_eq, not_true_eq_false, or_self, if_false]

theorem sendable_rst (hprotocol : b.protocolIdentifier = 0)
    (hversion : b.protocolVersion = protoRSTP) (htype : b.bpduType = bpduTypeRst) :
    Sendable b rstBpduSize where
  pos := by decide
  fits := by decide
  valid m hm := by
    obtain ⟨hp, hv, ht⟩ := type_agrees hm (by decide)
    have htcn : ¬ bpduTypeRst = bpduTypeTcn := by decide
    have hconfig : ¬ bpduTypeRst = bpduTypeConfig := by decide
    have hlong : ¬ rstBpduSize < tcnBpduSize := by decide
    refine ⟨none, ?_⟩
    simp only [validateBpdu, hp, hprotocol, ht, htype, hv, hversion, htcn, hconfig, hlong, if_true,
      lt_irrefl, ne_eq, not_true_eq_false, or_self, if_false]

theorem sendable_mst {n : Nat} (hprotocol : b.protocolIdentifier = 0)
    (hversion : b.protocolVersion = protoMSTP) (htype : b.bpduType = bpduTypeRst)
    (hlen1 : b.version1Len = 0) (hlen3 : b.version3Len = (64 + 16 * n).toUInt16) (hn : n ≤ 63) :
    Sendable b (102 + 16 * n) where
  pos := by omega
  fits := by omega
  valid m hm := by
    obtain ⟨hp, hv, ht⟩ := type_agrees hm (by omega)
    obtain ⟨h1, h3⟩ := lengths_agree hm (by omega)
    exact ⟨some n, hversion ▸ validateBpdu_mst (hp.trans hprotocol) (ht.trans htype)
      (hv.trans hversion) (h1.trans hlen1) (h3.trans hlen3) hn⟩

end Sendable

/-- Everything that has been handed to `MSTP_OUT_tx_bpdu` can be sent. -/
def AllSendable (br : Bridge) : Prop :=
  ∀ p b size, .txBpdu p b size ∈ br.out → Sendable b size

section AllSendable

variable {p : PortRef} {br br' : Bridge}

theorem AllSendable.frame {o : Owned} (hi : AllSendable br) (h : Frame o br br')
    (ho : ∀ q b size, o.out (.txBpdu q b size) = false) : AllSendable br' := by
  intro q b size hmem
  have hkept : MstpOut.txBpdu q b size ∈ br'.out.filter fun c => !o.out c :=
    List.mem_filter.mpr ⟨hmem, by rw [ho, Bool.not_false]⟩
  rw [h.out] at hkept
  exact hi q b size (List.mem_filter.mp hkept).1

theorem AllSendable.tx (hi : AllSendable br) {b : Bpdu} {size : Nat} (hb : Sendable b size) :
    AllSendable (mstpOutTxBpdu p b size br) := by
  intro q b' size' hmem
  rcases List.mem_cons.mp hmem with heq | hold
  · cases heq
    exact hb
  · exact hi q b' size' hold

theorem txMstpBpdu_sendable (hcount : br.trees.length ≤ maxImplementationMstis + 1) :
    Sendable (txMstpBpdu br p).1 (txMstpBpdu br p).2 := by
  have hn : br.trees.tail.length ≤ 63 := by
    have h63 : maxImplementationMstis = 63 := rfl
    rw [List.length_tail]
    omega
  by_cases hmode : br.forceProtocolVersion = .mstp
  · obtain ⟨hsize, hsaid, -⟩ := txMstpBpdu_mstp (p := p) hmode
    rw [hsize]
    exact sendable_mst hsaid.protocolIdentifier hsaid.protocolVersion hsaid.bpduType
      hsaid.version1Len hsaid.version3Len hn
  · rw [txMstpBpdu, if_neg hmode]
    exact sendable_rst rfl rfl rfl

/-- Each state of the transmit machine sends a BPDU of its kind, if any. -/
theorem AllSendable.ptsm (hi : AllSendable br)
    (hcount : br.trees.length ≤ maxImplementationMstis + 1) (s : PtsmState) :
    AllSendable (ptsmTo p s br) := by
  cases s with
  | transmitInit | transmitPeriodic | idle => exact hi
  | transmitConfig =>
    have hsend : AllSendable (txConfig p (br.setPort p fun prt =>
        { prt with ptsmState := .transmitConfig, newInfo := false })) := by
      rw [txConfig]
      split
      · exact hi
      · exact AllSendable.tx hi (sendable_config rfl rfl rfl)
    exact hsend
  | transmitTcn =>
    have hsend : AllSendable (txTcn p (br.setPort p fun prt =>
        { prt with ptsmState := .transmitTcn, newInfo := false })) := by
      rw [txTcn]
      split
      · exact hi
      · exact AllSendable.tx hi (sendable_tcn rfl rfl rfl)
    exact hsend
  | transmitRstp =>
    have hsend : AllSendable (txMstp p (br.setPort p fun prt =>
        { prt with ptsmState := .transmitRstp, newInfo := false, newInfoMsti := false })) := by
      rw [txMstp]
      split
      · exact hi
      · exact AllSendable.tx hi (txMstpBpdu_sendable hcount)
    exact hsend

theorem allSendable_begin : BeginInv AllSendable where
  prsm br p hi _ := hi.frame (prsmToDiscard_frame p br) fun _ _ _ => rfl
  ppmsm br p hi _ := hi.frame (ppmsmToCheckingRstp_frame p br) fun _ _ _ => rfl
  bdsm br p hi _ := hi.frame (bdsmBegin_beside p br) fun _ _ _ => rfl
  ptsm _ _ hi _ := hi
  pism br p t hi _ _ := hi.frame (pismBegin_frame p t br) fun _ _ _ => rfl
  initTree br t hi _ := hi.frame (prssmToInitTree_frame t br) fun _ _ _ => rfl
  prtsm br p t hi _ _ := hi.frame (prtsmToInitPort_frame p t br) fun _ _ _ => rfl
  pstsm br p t hi _ _ := hi.frame (pstsmTo_frame p t .discarding br) fun _ _ _ => rfl
  tcsm br p t hi _ _ := hi.frame (tcsmToInactive_frame p t br) fun _ _ _ => rfl

theorem AllSendable.act (hi : AllSendable br) (hv : Visited anyAct br) (a : Act) :
    AllSendable (a.run br) := by
  have hbegin := allSendable_begin
  cases a with
  | ptsm p s => exact hi.ptsm hv.trees_shape.1 s
  | createPort p portno name speed duplex =>
    have hadd : AllSendable (addPort p portno name speed duplex br) := hi
    exact hbegin.port
      (fun b t hb _ _ => hb.frame (prssmToRoleSelection_frame t b) fun _ _ _ => rfl)
      (List.mem_append_right _ List.mem_cons_self) hadd
  | switchBridge up => exact hbegin.bridge (hi.frame (resetBridge_frame up br) fun _ _ _ => rfl)
  | tick => exact hi.frame (Act.frame .tick br) fun _ _ _ => rfl
  | removePort p => exact hi
  | bridgeAddress macaddr =>
    exact hbegin.ite (hi.frame (writeAddress_frame macaddr br) fun _ _ _ => rfl)
  | bridgeConfig cfg =>
    exact hbegin.ite (hi.frame (writeBridgeConfig_opFrame cfg br).frame fun _ _ _ => rfl)
  | tables env changed vid2fid fid2mstid =>
    exact hbegin.ite
      (hi.frame (writeTables_beside env changed vid2fid fid2mstid br) fun _ _ _ => rfl)
  | configId revision name =>
    exact hbegin.bridge (hi.frame (writeConfigId_beside revision name br) fun _ _ _ => rfl)
  | _ => exact hi.frame (Act.beside_tx rfl br) fun _ _ _ => rfl

/-- Along every run, whatever is sent can be received. -/
theorem Visited.allSendable {C : Act → Bridge → Prop} (h : Visited C br) : AllSendable br := by
  have hall : Visited anyAct br ∧ AllSendable br := by
    refine h.inv (I := fun b => Visited anyAct b ∧ AllSendable b) (fun env macaddr => ?_) ?_
    · exact ⟨⟨env, macaddr, .refl _⟩, fun _ _ _ hmem => by cases hmem⟩
    · intro a b hb hg _
      obtain ⟨env, macaddr, hlead⟩ := hb.1
      exact ⟨⟨env, macaddr, hlead.trans (.act hg trivial)⟩, hb.2.act hb.1 a⟩
  exact hall.2

end AllSendable

end Mstpd
