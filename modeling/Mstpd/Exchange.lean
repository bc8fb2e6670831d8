import Mstpd.RegionalRoots
import Mstpd.RegionInfo
import Mstpd.MessageAge
import Mstpd.Wire

/-!
# An MST BPDU between two bridges of a region

What the transmit machine of one bridge announces is what the receive machine of another reads in
the octets: the vector and the times of the CIST, and for every tree that both bridges have the
vector, the hops and the flags of the MSTI. An MSTI that the sender does not have gets no message.
-/

namespace Mstpd

open Bridge

/-! ## The octets -/

/-- The members of a BPDU before its MSTI messages. -/
def Bpdu.withoutMstis (b : Bpdu) : Bpdu := { b with mstConfiguration := fun _ => default }

section Octets

variable {m m' : Mem}

theorem Mem.bpdu_congr (h : ∀ o < 102, m o = m' o) :
    m.bpdu.withoutMstis = m'.bpdu.withoutMstis := by
  have hid : (List.range 51).map (fun i => m (38 + i)) =
      (List.range 51).map fun i => m' (38 + i) := by
    refine List.map_congr_left fun i hi => h _ ?_
    have hlt := List.mem_range.mp hi
    omega
  simp (disch := decide) only [Bpdu.withoutMstis, Mem.bpdu, Mem.bridgeId, Mem.mac, Mem.u32, Mem.u16,
    hid, h]

theorem Mem.mstiMessage_congr {o : Nat} (h : ∀ i < 16, m (o + i) = m' (o + i)) :
    m.mstiMessage o = m'.mstiMessage o := by
  have hflags := h 0 (by decide)
  rw [Nat.add_zero] at hflags
  simp (disch := decide) only [Mem.mstiMessage, Mem.bridgeId, Mem.mac, Mem.u32, Mem.u16,
    Nat.add_assoc, Nat.reduceAdd, hflags, h]

end Octets

/-! ## Identifiers and flags -/

/-- The flag octet tells the state of an entry. -/
structure FlagsTell (flags : UInt8) (x : PerTreePort) : Prop where
  role : bpduFlagsRoleGet flags = messageRoleFromPortRole x.role
  tc : hasFlag flags tcBit = (x.tcWhile != 0)
  proposal : hasFlag flags proposalBit = x.proposing
  learning : hasFlag flags learningBit = x.learning
  forwarding : hasFlag flags forwardingBit = x.forwarding
  agreement : hasFlag flags agreementBit = x.agree

/-- The octet with the last bit, which only an MSTI message has. -/
theorem flags_tell (x : PerTreePort) (master : Bool) :
    FlagsTell (txFlags x ||| flagIf master masterBit) x ∧
      hasFlag (txFlags x ||| flagIf master masterBit) masterBit = master := by
  have hall : ∀ r : Fin 4, ∀ tc proposing learning forwarding agree master : Bool,
      let flags := bpduFlagsRoleSet (UInt8.ofNat r) ||| flagIf tc tcBit |||
        flagIf proposing proposalBit ||| flagIf learning learningBit |||
        flagIf forwarding forwardingBit ||| flagIf agree agreementBit ||| flagIf master masterBit
      bpduFlagsRoleGet flags = UInt8.ofNat r ∧ hasFlag flags tcBit = tc ∧
        hasFlag flags proposalBit = proposing ∧ hasFlag flags learningBit = learning ∧
        hasFlag flags forwardingBit = forwarding ∧ hasFlag flags agreementBit = agree ∧
        hasFlag flags masterBit = master := by decide +kernel
  have hrole : ∃ r : Fin 4, messageRoleFromPortRole x.role = UInt8.ofNat r := by
    cases x.role with
    | root => exact ⟨2, rfl⟩
    | designated => exact ⟨3, rfl⟩
    | master => exact ⟨0, rfl⟩
    | disabled | alternate | backup => exact ⟨1, rfl⟩
  obtain ⟨r, hr⟩ := hrole
  obtain ⟨h₁, h₂, h₃, h₄, h₅, h₆, h₇⟩ := hall r (x.tcWhile != 0) x.proposing x.learning x.forwarding
    x.agree master
  rw [txFlags, hr]
  exact ⟨⟨hr ▸ h₁, h₂, h₃, h₄, h₅, h₆⟩, h₇⟩

/-! ## What is sent -/

section Sender

variable {c : Bridge} {p : PortRef}

/-- The CIST and at most 63 MSTIs. -/
theorem Visited.trees_shape {C : Act → Bridge → Prop} (h : Visited C c) :
    c.trees.length ≤ maxImplementationMstis + 1 ∧
      ∃ rest, c.trees = 0 :: rest ∧ ∀ t ∈ rest, t ≠ 0 := by
  obtain ⟨m, hm, hrep⟩ := h.mesh
  have hcount := hm.wellFormed.count
  have hhead := hm.wellFormed.cist
  have hsorted := hm.wellFormed.sorted
  have hlength : m.trees.length = c.trees.length := by
    rw [← hrep.trees, List.length_map]
  rw [hrep.trees] at hhead hsorted
  refine ⟨hlength ▸ hcount, ?_⟩
  cases htrees : c.trees with
  | nil => simp [htrees] at hhead
  | cons t rest =>
    rw [htrees, List.head?_cons] at hhead
    obtain rfl := Option.some.inj hhead
    rw [htrees, List.pairwise_cons] at hsorted
    refine ⟨rest, rfl, fun u hu h => ?_⟩
    have hlt := UInt16.lt_iff_toNat_lt.mp (hsorted.1 u hu)
    rw [h] at hlt
    exact absurd hlt (lt_irrefl _)

/-- What a BPDU says about the CIST, and that it is an MST BPDU of the region. -/
structure SaysCist (c : Bridge) (p : PortRef) (b : Bpdu) : Prop where
  protocolIdentifier : b.protocolIdentifier = 0
  protocolVersion : b.protocolVersion = protoMSTP
  bpduType : b.bpduType = bpduTypeRst
  flags : b.flags = txFlags (c.cist p)
  vector : (⟨b.cistRRootID, b.cistIntRootPathCost, b.cistBridgeID, b.cistPortID, b.cistRootID,
    b.cistExtRootPathCost⟩ : PortPriorityVector) = (c.cist p).designatedPriority
  hops : b.cistRemainingHops = (c.cist p).designatedTimes.remainingHops
  messageAge : b.messageAge = ((c.cist p).designatedTimes.messageAge, 0)
  maxAge : b.maxAge = ((c.cist p).designatedTimes.maxAge, 0)
  helloTime : b.helloTime = ((c.cist p).portTimes.helloTime, 0)
  forwardDelay : b.forwardDelay = ((c.cist p).designatedTimes.forwardDelay, 0)
  version1Len : b.version1Len = 0
  version3Len : b.version3Len = (64 + 16 * c.trees.tail.length).toUInt16
  identifier : b.mstConfigurationIdentifier = c.mstConfigId.a

/-- It says so before its MSTI messages. -/
theorem SaysCist.congr {b b' : Bpdu} (h : SaysCist c p b) (hb : b'.withoutMstis = b.withoutMstis) :
    SaysCist c p b' := by
  have hsame : ∀ {α : Type} (f : Bpdu → α), (∀ b, f b.withoutMstis = f b) → f b' = f b := by
    intro α f hf
    rw [← hf, hb, hf]
  constructor
  · exact (hsame Bpdu.protocolIdentifier fun _ => rfl).trans h.protocolIdentifier
  · exact (hsame Bpdu.protocolVersion fun _ => rfl).trans h.protocolVersion
  · exact (hsame Bpdu.bpduType fun _ => rfl).trans h.bpduType
  · exact (hsame Bpdu.flags fun _ => rfl).trans h.flags
  · exact (hsame (fun b => (⟨b.cistRRootID, b.cistIntRootPathCost, b.cistBridgeID, b.cistPortID,
      b.cistRootID, b.cistExtRootPathCost⟩ : PortPriorityVector)) fun _ => rfl).trans h.vector
  · exact (hsame Bpdu.cistRemainingHops fun _ => rfl).trans h.hops
  · exact (hsame Bpdu.messageAge fun _ => rfl).trans h.messageAge
  · exact (hsame Bpdu.maxAge fun _ => rfl).trans h.maxAge
  · exact (hsame Bpdu.helloTime fun _ => rfl).trans h.helloTime
  · exact (hsame Bpdu.forwardDelay fun _ => rfl).trans h.forwardDelay
  · exact (hsame Bpdu.version1Len fun _ => rfl).trans h.version1Len
  · exact (hsame Bpdu.version3Len fun _ => rfl).trans h.version3Len
  · exact (hsame Bpdu.mstConfigurationIdentifier fun _ => rfl).trans h.identifier

/-- The BPDU of a bridge in MSTP mode, and its size. -/
theorem txMstpBpdu_mstp (hmode : c.forceProtocolVersion = .mstp) :
    (txMstpBpdu c p).2 = 102 + 16 * c.trees.tail.length ∧ SaysCist c p (txMstpBpdu c p).1 ∧
      ∀ i, (txMstpBpdu c p).1.mstConfiguration i =
        ((c.trees.tail.map fun s => txMstiMessage (c.ptp p s))[i]?).getD default := by
  rw [txMstpBpdu, if_pos hmode]
  refine ⟨rfl, ?_, fun _ => rfl⟩
  constructor <;> rfl

end Sender

/-! ## What is heard -/

/-- An MST BPDU with `n` MSTI messages. -/
theorem validateBpdu_mst {m : Mem} {n : Nat} (hprotocol : m.bpdu.protocolIdentifier = 0)
    (htype : m.bpdu.bpduType = bpduTypeRst) (hversion : m.bpdu.protocolVersion = protoMSTP)
    (hlen1 : m.bpdu.version1Len = 0) (hlen3 : m.bpdu.version3Len = (64 + 16 * n).toUInt16)
    (hn : n ≤ 63) : validateBpdu m (102 + 16 * n) = some (protoMSTP, some n) := by
  have hlen : m.bpdu.version3Len.toNat = 64 + 16 * n := by
    rw [hlen3]
    simp only [Nat.toUInt16, UInt16.toNat_ofNat']
    exact Nat.mod_eq_of_lt (by omega)
  have htcn : ¬ bpduTypeRst = bpduTypeTcn := by decide
  have hconfig : ¬ bpduTypeRst = bpduTypeConfig := by decide
  have hrstp : ¬ protoMSTP = protoRSTP := by decide
  have hmstp : ¬ protoMSTP < protoMSTP := by decide
  have hmstis : ((64 + 16 * n : Nat) : Int) - mstBpduVer3LenWoMstiMsgs =
      ((16 * n : Nat) : Int) := by
    simp only [mstBpduVer3LenWoMstiMsgs]
    omega
  simp only [validateBpdu, hprotocol, hversion, htype, hlen1, hlen, hmstis, htcn, hconfig, hrstp,
    hmstp, if_false, if_true, ne_eq, not_true_eq_false, or_false, false_or, tcnBpduSize,
    configBpduSize, mstBpduSizeWoMstiMsgs, mstiMessageSize, maxStandardMstis]
  rw [if_neg (by omega), if_neg (by omega), if_neg (by omega)]
  have hnumber : (((16 * n : Nat) : Int)).toNat / 16 = n := by
    omega
  rw [hnumber]

/-- The memory holds what has been sent, as far as it was sent. -/
def Delivered (c : Bridge) (p : PortRef) (m : Mem) : Prop :=
  ∀ o < (txMstpBpdu c p).2, m o = (txMstpBpdu c p).1.mem o

section Delivered

variable {c : Bridge} {p : PortRef} {m : Mem} (hmode : c.forceProtocolVersion = .mstp)
  (hid : c.mstConfigId.a.length = 51) (hm : Delivered c p m)

include hmode hid hm

/-- What the sender has said about the CIST is in the octets. -/
theorem Delivered.cist : SaysCist c p m.bpdu := by
  obtain ⟨hsize, hsaid, -⟩ := txMstpBpdu_mstp (p := p) hmode
  have hmem := (txMstpBpdu c p).1.bpdu_mem (hsaid.identifier ▸ hid)
  refine hsaid.congr ?_
  rw [← congrArg Bpdu.withoutMstis hmem]
  exact Mem.bpdu_congr fun o ho => hm o (by omega)

theorem Delivered.msti {i : Nat} (hi : i < c.trees.tail.length) :
    m.bpdu.mstConfiguration i = (txMstpBpdu c p).1.mstConfiguration i := by
  obtain ⟨hsize, hsaid, -⟩ := txMstpBpdu_mstp (p := p) hmode
  have hmem := (txMstpBpdu c p).1.bpdu_mem (hsaid.identifier ▸ hid)
  have hsent : (txMstpBpdu c p).1.mem.mstiMessage (102 + 16 * i) =
      (txMstpBpdu c p).1.mstConfiguration i := congrArg (fun b => b.mstConfiguration i) hmem
  rw [← hsent]
  exact Mem.mstiMessage_congr fun j hj => hm _ (by omega)

/-- The receiver takes the BPDU for an MST BPDU with a message for each MSTI of the sender. -/
theorem Delivered.valid (hcount : c.trees.length ≤ maxImplementationMstis + 1) :
    validateBpdu m (txMstpBpdu c p).2 = some (protoMSTP, some c.trees.tail.length) := by
  have hsaid := Delivered.cist hmode hid hm
  have htail : c.trees.tail.length ≤ 63 := by
    rw [List.length_tail]
    have h63 : maxImplementationMstis = 63 := rfl
    omega
  rw [(txMstpBpdu_mstp (p := p) hmode).1]
  exact validateBpdu_mst hsaid.protocolIdentifier hsaid.bpduType hsaid.protocolVersion
    hsaid.version1Len hsaid.version3Len htail

/-- Each message names the MSTI it is about. -/
theorem Delivered.names
    (hnamed : ∀ t ∈ c.trees.tail, Mstpd.names t (c.ptp p t).designatedPriority.rRootID) {i : Nat}
    (hi : i < c.trees.tail.length) :
    m.bpdu.mstConfiguration i = txMstiMessage (c.ptp p c.trees.tail[i]) ∧
      Mstpd.names c.trees.tail[i] (m.bpdu.mstConfiguration i).mstiRRootID := by
  have hmessage : m.bpdu.mstConfiguration i = txMstiMessage (c.ptp p c.trees.tail[i]) := by
    rw [Delivered.msti hmode hid hm hi, (txMstpBpdu_mstp hmode).2.2 i, List.getElem?_map,
      List.getElem?_eq_getElem hi]
    rfl
  refine ⟨hmessage, ?_⟩
  rw [hmessage]
  exact hnamed _ (List.getElem_mem hi)

end Delivered

/-- The receiver has the octets in store, and knows how many messages there are. -/
structure Stores (c : Bridge) (m : Mem) (prt : Port) : Prop where
  data : prt.rcvdBpduData = m
  count : prt.rcvdBpduNumOfMstis = c.trees.tail.length

section Receiver

variable {c : Bridge} {p q : PortRef} {m : Mem} {t : Mstid} {prt : Port}

/-- The message for an MSTI is found where the sender has the MSTI, and is the one sent for it. -/
theorem findMstiMsg_delivered (hmode : c.forceProtocolVersion = .mstp)
    (hid : c.mstConfigId.a.length = 51) (hm : Delivered c p m)
    (hnamed : ∀ t ∈ c.trees.tail, names t (c.ptp p t).designatedPriority.rRootID)
    (hstores : Stores c m prt) :
    ((findMstiMsg prt t).isSome = true ↔ t ∈ c.trees.tail) ∧
      ∀ i, findMstiMsg prt t = some i →
        m.bpdu.mstConfiguration i = txMstiMessage (c.ptp p t) := by
  have hmessages := fun {i : Nat} (hi : i < c.trees.tail.length) =>
    Delivered.names hmode hid hm hnamed hi
  have hfound : ∀ i, findMstiMsg prt t = some i →
      ∃ hi : i < c.trees.tail.length, c.trees.tail[i] = t := by
    intro i hi
    have hmem := List.mem_range.mp (List.mem_of_find?_eq_some hi)
    rw [hstores.count] at hmem
    have hname := findMstiMsg_names hi
    rw [hstores.data] at hname
    exact ⟨hmem, (hmessages hmem).2.symm.trans hname⟩
  refine ⟨⟨fun hsome => ?_, fun hmem => ?_⟩, fun i hi => ?_⟩
  · obtain ⟨i, hi⟩ := Option.isSome_iff_exists.mp hsome
    obtain ⟨hlt, rfl⟩ := hfound i hi
    exact List.getElem_mem hlt
  · obtain ⟨i, hlt, rfl⟩ := List.getElem_of_mem hmem
    rw [findMstiMsg, List.find?_isSome]
    refine ⟨i, List.mem_range.mpr (hstores.count ▸ hlt), ?_⟩
    rw [hstores.data]
    exact beq_iff_eq.mpr (hmessages hlt).2
  · obtain ⟨hlt, rfl⟩ := hfound i hi
    exact (hmessages hlt).1

variable {rb : Bridge}

end Receiver

/-- The part of a priority vector that counts in an MSTI. -/
def regionalPart (v : PortPriorityVector) : BridgeIdentifier × UInt32 × BridgeIdentifier × UInt16 :=
  (v.rRootID, v.intRootPathCost, v.designatedBridgeID, v.designatedPortID)

/-- What the port `q` of `b` reads for the trees is what the port `p` of `c` announces in them. -/
structure Hears (c : Bridge) (p : PortRef) (b : Bridge) (q : PortRef) : Prop where
  internal : (b.port q).rcvdInternal = true
  cistVector : msgPriorityOf b q 0 = (c.cist p).designatedPriority
  cistTimes : msgTimesOf b q 0 =
    { (c.cist p).designatedTimes with helloTime := (c.cist p).portTimes.helloTime }
  cistFlags : FlagsTell (b.port q).rcvdBpduData.bpdu.flags (c.cist p)
  addressed : ∀ t ∈ b.trees, (b.ptp q t).rcvdMsg = true ↔ t ∈ c.trees
  vector : ∀ t ∈ b.trees, t ∈ c.trees → t ≠ 0 →
    regionalPart (msgPriorityOf b q t) = regionalPart (c.ptp p t).designatedPriority
  hops : ∀ t ∈ b.trees, t ∈ c.trees → t ≠ 0 →
    (msgTimesOf b q t).remainingHops = (c.ptp p t).designatedTimes.remainingHops
  flags : ∀ t ∈ b.trees, t ∈ c.trees → t ≠ 0 → FlagsTell (rcvdMstiMsg b q t).flags (c.ptp p t) ∧
    hasFlag (rcvdMstiMsg b q t).flags masterBit = (c.ptp p t).master

section Exchange

variable {c rb : Bridge} {p q : PortRef} {m : Mem}

/-- The port has stored the BPDU of a bridge in its region, and reads it. -/
theorem heard_cist (hmode : c.forceProtocolVersion = .mstp) (hid : c.mstConfigId.a.length = 51)
    (hm : Delivered c p m) (hstores : Stores c m (rb.port q)) :
    msgPriorityOf rb q 0 = (c.cist p).designatedPriority ∧
      msgTimesOf rb q 0 =
        { (c.cist p).designatedTimes with helloTime := (c.cist p).portTimes.helloTime } ∧
      FlagsTell (rb.port q).rcvdBpduData.bpdu.flags (c.cist p) := by
  have hsaid := Delivered.cist hmode hid hm
  have hversion : ¬ protoMSTP < protoMSTP := by decide
  have hwhole : ∀ n : UInt8, nearestWholeSecond (n, 0) = n := fun _ => rfl
  rw [msgPriorityOf, msgTimesOf, hstores.data]
  refine ⟨?_, ?_, ?_⟩
  · simp only [if_true, hsaid.protocolVersion, hversion, if_false]
    exact hsaid.vector
  · simp only [if_true, hsaid.protocolVersion, hversion, if_false, hsaid.forwardDelay, hsaid.maxAge,
      hsaid.messageAge, hsaid.helloTime, hsaid.hops, hwhole]
  · have hflags := (flags_tell (c.cist p) false).1
    have hplain : flagIf false masterBit = 0 := rfl
    rw [hplain, UInt8.or_zero] at hflags
    rw [hsaid.flags]
    exact hflags

/-- The message that an entry has been given is the one for its tree. -/
theorem heard_msti (hmode : c.forceProtocolVersion = .mstp) (hid : c.mstConfigId.a.length = 51)
    (hm : Delivered c p m) (hdata : (rb.port q).rcvdBpduData = m) {t : Mstid} (hne : t ≠ 0)
    (hmessage : rcvdMstiMsg rb q t = txMstiMessage (c.ptp p t))
    (hids : (⟨setPriorityInIdentifier (getPriorityFromIdentifier
          (c.ptp p t).designatedPriority.designatedBridgeID.priority) t,
        (c.cist p).designatedPriority.designatedBridgeID.macAddress⟩ : BridgeIdentifier) =
          (c.ptp p t).designatedPriority.designatedBridgeID ∧
      setPriorityInIdentifier (getPriorityFromIdentifier
        (c.ptp p t).designatedPriority.designatedPortID)
        (c.cist p).designatedPriority.designatedPortID =
          (c.ptp p t).designatedPriority.designatedPortID) :
    regionalPart (msgPriorityOf rb q t) = regionalPart (c.ptp p t).designatedPriority ∧
      (msgTimesOf rb q t).remainingHops = (c.ptp p t).designatedTimes.remainingHops ∧
      FlagsTell (rcvdMstiMsg rb q t).flags (c.ptp p t) ∧
      hasFlag (rcvdMstiMsg rb q t).flags masterBit = (c.ptp p t).master := by
  have hvector := (Delivered.cist hmode hid hm).vector
  have hbridge : m.bpdu.cistBridgeID = (c.cist p).designatedPriority.designatedBridgeID :=
    congrArg PortPriorityVector.designatedBridgeID hvector
  have hport : m.bpdu.cistPortID = (c.cist p).designatedPriority.designatedPortID :=
    congrArg PortPriorityVector.designatedPortID hvector
  rw [msgPriorityOf, msgTimesOf, hdata, hmessage]
  refine ⟨?_, ?_, flags_tell _ _⟩
  · simp only [hne, if_false, regionalPart, txMstiMessage, hbridge, hport, hids.1, hids.2]
  · simp only [hne, if_false, txMstiMessage]

/-- What the sender announces, as far as a receiver needs it. -/
structure Announcing (c : Bridge) (p : PortRef) : Prop where
  mode : c.forceProtocolVersion = .mstp
  identifier : c.mstConfigId.a.length = 51
  trees : ∃ rest, c.trees = 0 :: rest ∧ ∀ t ∈ rest, t ≠ 0
  named : ∀ t ∈ c.trees, t ≠ 0 → names t (c.ptp p t).designatedPriority.rRootID
  identifiers : ∀ t ∈ c.trees,
    (⟨setPriorityInIdentifier (getPriorityFromIdentifier
          (c.ptp p t).designatedPriority.designatedBridgeID.priority) t,
        (c.cist p).designatedPriority.designatedBridgeID.macAddress⟩ : BridgeIdentifier) =
          (c.ptp p t).designatedPriority.designatedBridgeID ∧
      setPriorityInIdentifier (getPriorityFromIdentifier
        (c.ptp p t).designatedPriority.designatedPortID)
        (c.cist p).designatedPriority.designatedPortID =
          (c.ptp p t).designatedPriority.designatedPortID

theorem Announcing.tail (h : Announcing c p) {t : Mstid} (hne : t ≠ 0) :
    t ∈ c.trees.tail ↔ t ∈ c.trees := by
  obtain ⟨rest, htrees, -⟩ := h.trees
  rw [htrees, List.tail_cons, List.mem_cons]
  simp only [hne, false_or]

theorem Announcing.named_tail (h : Announcing c p) :
    ∀ t ∈ c.trees.tail, names t (c.ptp p t).designatedPriority.rRootID := by
  obtain ⟨rest, htrees, hrest⟩ := h.trees
  intro t ht
  have hne : t ≠ 0 := hrest t (by rwa [htrees] at ht)
  exact h.named t ((h.tail hne).mp ht) hne

/-- The receive machine finds for each tree the message that has been sent for it. -/
theorem hears {b : Bridge} (hc : Announcing c p) (hm : Delivered c p m)
    (hstores : Stores c m (b.port q)) (hregion : b.mstConfigId.a = c.mstConfigId.a)
    (hidle : ∀ t ∈ b.trees, (b.ptp q t).rcvdMsg = false) : Hears c p (prsmToReceive q b) q := by
  have hsaid := Delivered.cist hc.mode hc.identifier hm
  have hframe := prsmToReceive_frame q b
  have hinternal : fromSameRegion b q = true := by
    simp only [fromSameRegion, hstores.data, hsaid.protocolVersion, hsaid.identifier, hregion,
      beq_self_eq_true]
    rfl
  have hstores' : Stores c m ((prsmToReceive q b).port q) :=
    ⟨(hframe.port_eq Port.rcvdBpduData (fun _ => rfl) q).trans hstores.data,
      (hframe.port_eq Port.rcvdBpduNumOfMstis (fun _ => rfl) q).trans hstores.count⟩
  have hfind := fun t =>
    findMstiMsg_delivered (t := t) hc.mode hc.identifier hm hc.named_tail hstores
  have hmessage : ∀ t ∈ b.trees, t ∈ c.trees → t ≠ 0 →
      rcvdMstiMsg (prsmToReceive q b) q t = txMstiMessage (c.ptp p t) := by
    intro t ht htc hne
    obtain ⟨i, hi⟩ := Option.isSome_iff_exists.mp ((hfind t).1.mpr ((hc.tail hne).mpr htc))
    rw [rcvdMstiMsg, hstores'.data, prsmToReceive_msti ht hne]
    simp only [hinternal, if_true, hi, Option.getD_some]
    exact (hfind t).2 i hi
  have hmstis : ∀ t ∈ b.trees, t ∈ c.trees → t ≠ 0 → _ := fun t ht htc hne =>
    heard_msti hc.mode hc.identifier hm hstores'.data hne
      (hmessage t ht htc hne) (hc.identifiers t htc)
  obtain ⟨hvector, htimes, hflags⟩ := heard_cist hc.mode hc.identifier hm hstores'
  refine ⟨(prsmToReceive_taken q b).1.trans hinternal, hvector, htimes, hflags, ?_, ?_, ?_, ?_⟩
  · intro t ht
    have ht' : t ∈ b.trees := hframe.trees_eq ▸ ht
    by_cases hne : t = 0
    · subst hne
      obtain ⟨rest, htrees, -⟩ := hc.trees
      have hmsg : ((prsmToReceive q b).ptp q 0).rcvdMsg = true :=
        congrArg PerTreePort.rcvdMsg (prsmToReceive_cist q b)
      simp only [hmsg, htrees, List.mem_cons_self]
    · rw [prsmToReceive_msti ht' hne, ← hc.tail hne]
      simp only [hidle t ht', hinternal, Bool.false_or, Bool.true_and]
      exact (hfind t).1
  · exact fun t ht htc hne => (hmstis t (hframe.trees_eq ▸ ht) htc hne).1
  · exact fun t ht htc hne => (hmstis t (hframe.trees_eq ▸ ht) htc hne).2.1
  · exact fun t ht htc hne => (hmstis t (hframe.trees_eq ▸ ht) htc hne).2.2

end Exchange

instance (a : Act) (br : Bridge) : Decidable (unhurried a br) :=
  match a with
  | .rxBpdu p _ _ =>
    inferInstanceAs (Decidable (∀ t ∈ br.trees, t ≠ 0 → (br.ptp p t).rcvdMsg = false))
  | .assurance _ | .prsm _ _ | .ppmsm _ _ | .bdsm _ _ | .ptsm _ _ | .pism _ _ _ | .prssm _
  | .prtsm _ _ _ | .pstsm _ _ _ | .tcsm _ _ _ | .createPort _ _ _ _ _ | .markDeleted _
  | .removePort _ | .createMsti _ _ | .removeMsti _ | .switchBridge _ | .tick | .idleSecond
  | .linkUp _ _ _ | .linkDown _ | .flushed _ _ | .bridgeAddress _ | .bridgeConfig _
  | .mstiBridgeConfig _ _ | .portConfig _ _ | .mstiPortConfig _ _ _ | .mcheck _
  | .tables _ _ _ _ | .configId _ _ | .sysdeps _ _ _ => isTrue trivial

end Mstpd
