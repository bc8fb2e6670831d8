import Mstpd.Priority

/-!
# Procedures of 13.26

The procedures the machines call: reception, recording of received flags, the
topology change timer, flushing and transmission. Each keeps the name it has in
`mstp.c`. A conditional assignment is written as a conditional value, so that the
fields a procedure leaves alone are visible from its definition.
-/

namespace Mstpd

open Bridge

/-- 13.26.4 -/
def fromSameRegion (br : Bridge) (p : PortRef) : Bool :=
  let b := (br.port p).rcvdBpduData.bpdu
  decide (protoMSTP ≤ b.protocolVersion) &&
    br.mstConfigId.a == b.mstConfigurationIdentifier

/-- 13.26.2 -/
def clearAllRcvdMsgs (p : PortRef) (br : Bridge) : Bridge :=
  br.setPortPtps p fun _ ptp => { ptp with rcvdMsg := false }

/-- 13.26.3 -/
def clearReselectTree (t : Mstid) (br : Bridge) : Bridge :=
  br.setTreePtps t fun _ ptp => { ptp with reselect := false }

/-- 13.26.14 -/
def setSelectedTree (t : Mstid) (br : Bridge) : Bridge :=
  br.setTreePtps t fun _ ptp => { ptp with selected := true }

/-- 13.26.13 -/
def setReRootTree (t : Mstid) (br : Bridge) : Bridge :=
  br.setTreePtps t fun _ ptp => { ptp with reRoot := true }

/-- 13.26.15 -/
def setSyncTree (t : Mstid) (br : Bridge) : Bridge :=
  br.setTreePtps t fun _ ptp => { ptp with sync := true }

/-- 13.26.17 -/
def setTcPropTree (p : PortRef) (t : Mstid) (br : Bridge) : Bridge :=
  br.setTreePtps t fun q ptp =>
    { ptp with tcProp := ptp.tcProp || (!(br.port p).restrictedTcn && q != p) }

/-- The index of the message for an MSTI among those announced in the BPDU. -/
def findMstiMsg (prt : Port) (t : Mstid) : Option Nat :=
  (List.range prt.rcvdBpduNumOfMstis).find? fun i =>
    ((prt.rcvdBpduData.bpdu.mstConfiguration i).mstiRRootID.priority &&& (0x0FFF : UInt16)) == t

/-- 13.26.12 -/
def setRcvdMsgs (p : PortRef) (br : Bridge) : Bridge :=
  let prt := br.port p
  let br := br.setPtp p 0 fun ptp => { ptp with rcvdMsg := true }
  br.setMstiPtps p fun s ptp =>
    { ptp with
      rcvdMsg := ptp.rcvdMsg || (prt.rcvdInternal && (findMstiMsg prt s).isSome)
      rcvdMstiConfig :=
        if prt.rcvdInternal then (findMstiMsg prt s).getD ptp.rcvdMstiConfig
        else ptp.rcvdMstiConfig }

/-- 13.26.21 -/
def updtBPDUVersion (p : PortRef) (br : Bridge) : Bridge :=
  br.setPort p fun prt =>
    let rst := decide (protoRSTP ≤ prt.rcvdBpduData.bpdu.protocolVersion)
    { prt with rcvdRSTP := prt.rcvdRSTP || rst, rcvdSTP := prt.rcvdSTP || !rst }

/-- `rcvdMstiConfig` dereferenced. -/
def rcvdMstiMsg (br : Bridge) (p : PortRef) (t : Mstid) : MstiMessage :=
  (br.port p).rcvdBpduData.bpdu.mstConfiguration (br.ptp p t).rcvdMstiConfig

/-- The role test of `rcvInfo`: `none` is an early `return OtherInfo`. -/
def roleIsDesignated (br : Bridge) (p : PortRef) (t : Mstid) : Option Bool :=
  let b := (br.port p).rcvdBpduData.bpdu
  if t = 0 then
    if b.protocolVersion = protoSTP then some true
    else
      let role := bpduFlagsRoleGet b.flags
      if role = encodedRoleAlternateBackup ∨ role = encodedRoleRoot then some false
      else if role = encodedRoleDesignated then some true
      -- a role of zero is Unknown in an RST BPDU, and read as a Configuration BPDU
      else if b.protocolVersion = protoRSTP then some true
      else none
  else if b.protocolVersion < protoMSTP then none
  else
    let role := bpduFlagsRoleGet (rcvdMstiMsg br p t).flags
    if role = encodedRoleAlternateBackup ∨ role = encodedRoleRoot then some false
    else if role = encodedRoleDesignated then some true
    else none

/-- `NEAREST_WHOLE_SECOND`, assigned to an octet. -/
def nearestWholeSecond (msgTime : UInt8 × UInt8) : UInt8 :=
  if msgTime.2 < 128 then msgTime.1 else msgTime.1 + 1

/-- The message priority vector that `rcvInfo` decodes. -/
def msgPriorityOf (br : Bridge) (p : PortRef) (t : Mstid) : PortPriorityVector :=
  let b := (br.port p).rcvdBpduData.bpdu
  let old := (br.ptp p t).msgPriority
  if t = 0 then
    { rRootID := b.cistRRootID
      designatedPortID := b.cistPortID
      rootID := b.cistRootID
      extRootPathCost := b.cistExtRootPathCost
      intRootPathCost := if b.protocolVersion < protoMSTP then 0 else b.cistIntRootPathCost
      designatedBridgeID :=
        if b.protocolVersion < protoMSTP then b.cistRRootID else b.cistBridgeID }
  else
    let m := rcvdMstiMsg br p t
    { old with
      rRootID := m.mstiRRootID
      intRootPathCost := m.mstiIntRootPathCost
      designatedBridgeID :=
        ⟨setPriorityInIdentifier m.bridgeIdentifierPriority t, b.cistBridgeID.macAddress⟩
      designatedPortID := setPriorityInIdentifier m.portIdentifierPriority b.cistPortID }

/-- The message times that `rcvInfo` decodes. -/
def msgTimesOf (br : Bridge) (p : PortRef) (t : Mstid) : Times :=
  let b := (br.port p).rcvdBpduData.bpdu
  if t = 0 then
    { forwardDelay := nearestWholeSecond b.forwardDelay
      maxAge := nearestWholeSecond b.maxAge
      messageAge := nearestWholeSecond b.messageAge
      helloTime := nearestWholeSecond b.helloTime
      remainingHops := if b.protocolVersion < protoMSTP then br.maxHops else b.cistRemainingHops }
  else { (br.ptp p t).msgTimes with remainingHops := (rcvdMstiMsg br p t).remainingHops }

/-- The comparison part of `rcvInfo`, on the decoded message. -/
def classifyInfo (ptp : PerTreePort) (mPri : PortPriorityVector) (mTimes : Times)
    (designated cist : Bool) : PortInfo :=
  let msgBetterPort := !betterorsamePriority ptp.portPriority mPri 0 0 cist
  if designated then
    if msgBetterPort ||
        (mPri.designatedBridgeID.macAddress == ptp.portPriority.designatedBridgeID.macAddress &&
          ((mPri.designatedPortID ^^^ ptp.portPriority.designatedPortID) &&& (0x0FFF : UInt16))
            == 0) then
      .superiorDesignatedInfo
    else
      let same := samePriorityAndTimers mPri ptp.portPriority mTimes ptp.portTimes cist
      if !same && betterorsamePriority mPri ptp.portPriority 0 0 cist then
        .superiorDesignatedInfo
      else if same && ptp.infoIs == .received then .repeatedDesignatedInfo
      else .inferiorDesignatedInfo
  else if !msgBetterPort then .inferiorRootAlternateInfo
  else .otherInfo

/-- 13.26.6: the classification, and the message fields it leaves behind. -/
def rcvInfo (p : PortRef) (t : Mstid) (br : Bridge) : PortInfo × Bridge :=
  if (br.port p).rcvdBpduData.bpdu.bpduType = bpduTypeTcn then
    (.otherInfo, (br.setPort p fun prt => { prt with rcvdTcn := true }).setPortPtps p
      fun _ ptp => { ptp with rcvdTc := true })
  else
    match roleIsDesignated br p t with
    | none => (.otherInfo, br)
    | some designated =>
      let mPri := msgPriorityOf br p t
      let mTimes := msgTimesOf br p t
      (classifyInfo (br.ptp p t) mPri mTimes designated (t == 0),
        br.setPtp p t fun ptp => { ptp with msgPriority := mPri, msgTimes := mTimes })

/-- 13.26.7 -/
def recordAgreement (p : PortRef) (t : Mstid) (br : Bridge) : Bridge :=
  let prt := br.port p
  let b := prt.rcvdBpduData.bpdu
  if t = 0 then
    let agrees := br.rstpVersion && prt.operPointToPointMAC && hasFlag b.flags agreementBit
    let proposing := (br.ptp p 0).proposing && !agrees
    let br := br.setPtp p 0 fun ptp => { ptp with agreed := agrees, proposing := proposing }
    br.setMstiPtps p fun _ ptp =>
      { ptp with
        agreed := if prt.rcvdInternal then ptp.agreed else agrees
        proposing := if prt.rcvdInternal then ptp.proposing else proposing }
  else
    let cist := br.cist p
    let agrees := prt.operPointToPointMAC && b.cistRootID == cist.portPriority.rootID &&
      b.cistExtRootPathCost == cist.portPriority.extRootPathCost &&
      b.cistRRootID == cist.portPriority.rRootID &&
      hasFlag (rcvdMstiMsg br p t).flags agreementBit
    br.setPtp p t fun ptp =>
      { ptp with agreed := agrees, proposing := ptp.proposing && !agrees }

/-- 13.26.8 -/
def recordDispute (p : PortRef) (t : Mstid) (br : Bridge) : Bridge :=
  let prt := br.port p
  if t = 0 then
    let disputes := hasFlag prt.rcvdBpduData.bpdu.flags learningBit
    let br := br.setPtp p 0 fun ptp =>
      { ptp with disputed := ptp.disputed || disputes, agreed := ptp.agreed && !disputes }
    br.setMstiPtps p fun _ ptp =>
      { ptp with
        disputed := ptp.disputed || (disputes && !prt.rcvdInternal)
        agreed := ptp.agreed && !(disputes && !prt.rcvdInternal) }
  else
    let disputes := hasFlag (rcvdMstiMsg br p t).flags learningBit
    br.setPtp p t fun ptp =>
      { ptp with disputed := ptp.disputed || disputes, agreed := ptp.agreed && !disputes }

/-- 13.26.9 -/
def recordMastered (p : PortRef) (t : Mstid) (br : Bridge) : Bridge :=
  let prt := br.port p
  if t = 0 then
    br.setMstiPtps p fun _ ptp => { ptp with mastered := ptp.mastered && prt.rcvdInternal }
  else
    let m := prt.operPointToPointMAC && hasFlag (rcvdMstiMsg br p t).flags masterBit
    br.setPtp p t fun ptp => { ptp with mastered := m }

/-- 13.26.10 -/
def recordProposal (p : PortRef) (t : Mstid) (br : Bridge) : Bridge :=
  let prt := br.port p
  if t = 0 then
    let proposed := (br.ptp p 0).proposed || hasFlag prt.rcvdBpduData.bpdu.flags proposalBit
    let br := br.setPtp p 0 fun ptp => { ptp with proposed := proposed }
    br.setMstiPtps p fun _ ptp =>
      { ptp with proposed := if prt.rcvdInternal then ptp.proposed else proposed }
  else
    let proposes := hasFlag (rcvdMstiMsg br p t).flags proposalBit
    br.setPtp p t fun ptp => { ptp with proposed := ptp.proposed || proposes }

/-- 13.26.16. For an external message with the TC flag the loop over the MSTIs
assigns `proposed`, where the CIST entry gets `rcvdTc`. -/
def setTcFlags (p : PortRef) (t : Mstid) (br : Bridge) : Bridge :=
  let prt := br.port p
  if t = 0 then
    let flags := prt.rcvdBpduData.bpdu.flags
    let tc := hasFlag flags tcBit
    let br := br.setPort p fun prt =>
      { prt with rcvdTcAck := prt.rcvdTcAck || hasFlag flags tcAckBit }
    let br := br.setPtp p 0 fun ptp => { ptp with rcvdTc := ptp.rcvdTc || tc }
    br.setMstiPtps p fun _ ptp =>
      { ptp with proposed := ptp.proposed || (tc && !prt.rcvdInternal) }
  else
    let tc := hasFlag (rcvdMstiMsg br p t).flags tcBit
    br.setPtp p t fun ptp => { ptp with rcvdTc := ptp.rcvdTc || tc }

/-- 13.26.f -/
def recordPriority (p : PortRef) (t : Mstid) (br : Bridge) : Bridge :=
  br.setPtp p t fun ptp => { ptp with portPriority := ptp.msgPriority }

/-- 13.26.11, which keeps the configured hello time. -/
def recordTimes (p : PortRef) (t : Mstid) (br : Bridge) : Bridge :=
  br.setPtp p t fun ptp =>
    { ptp with portTimes := { ptp.msgTimes with helloTime := ptp.portTimes.helloTime } }

/-- 13.26.22 -/
def updtRcvdInfoWhile (p : PortRef) (t : Mstid) (br : Bridge) : Bridge :=
  let times := (br.cist p).portTimes
  let internal := (br.port p).rcvdInternal
  br.setPtp p t fun ptp =>
    { ptp with
      rcvdInfoWhile :=
        if (!internal && decide (times.messageAge.toNat + 1 ≤ times.maxAge.toNat)) ||
            (internal && decide (1 < ptp.portTimes.remainingHops)) then
          3 * times.helloTime.toNat
        else 0 }

def updtbrAssuRcvdInfoWhile (p : PortRef) (br : Bridge) : Bridge :=
  br.setPort p fun prt =>
    { prt with brAssuRcvdInfoWhile := 3 * (br.cist p).portTimes.helloTime.toNat }

/-- `newInfoXst = TRUE`: the CIST and the MSTIs have separate flags. -/
def setNewInfo (p : PortRef) (t : Mstid) (br : Bridge) : Bridge :=
  br.setPort p fun prt =>
    { prt with newInfo := prt.newInfo || t == 0, newInfoMsti := prt.newInfoMsti || t != 0 }

/-- `set_TopologyChange(tree, true, port)`. -/
def setTopologyChange (t : Mstid) (p : PortRef) (br : Bridge) : Bridge :=
  br.setTree t fun tree =>
    { tree with
      topologyChange := true
      timeSinceTopologyChange := 0
      topologyChangeCount :=
        if tree.topologyChange then tree.topologyChangeCount else tree.topologyChangeCount + 1
      topologyChangePort := tree.lastTopologyChangePort
      lastTopologyChangePort := (br.port p).name }

/-- `set_TopologyChange(tree, false, port)`: some timer has just become zero. -/
def resetTopologyChange (t : Mstid) (br : Bridge) : Bridge :=
  br.setTree t fun tree =>
    let busy := br.ports.any fun q => (br.ptp q t).tcWhile != 0
    { tree with
      topologyChange := tree.topologyChange && busy
      timeSinceTopologyChange :=
        if tree.topologyChange && busy then 0 else tree.timeSinceTopologyChange }

/-- 13.26.5 -/
def newTcWhile (p : PortRef) (t : Mstid) (br : Bridge) : Bridge :=
  if (br.ptp p t).tcWhile ≠ 0 then br
  else if (br.port p).sendRSTP then
    let tcWhile := (br.cist p).portTimes.helloTime.toNat + 1
    setNewInfo p t <| setTopologyChange t p <|
      br.setPtp p t fun ptp => { ptp with tcWhile := tcWhile }
  else
    let times := (br.tree t).rootTimes
    setTopologyChange t p <|
      br.setPtp p t fun ptp =>
        { ptp with tcWhile := times.maxAge.toNat + times.forwardDelay.toNat }

/-- `MSTP_OUT_set_state` with the driver that returns the requested state. -/
def mstpOutSetState (p : PortRef) (t : Mstid) (s : BrState) (br : Bridge) : Bridge :=
  let changes := (br.ptp p t).state != s
  let br := br.setPtp p t fun ptp => { ptp with state := s }
  let br := br.setPort p fun prt =>
    { prt with
      numTransFwd :=
        if changes && s == .forwarding then prt.numTransFwd + 1 else prt.numTransFwd
      numTransBlk :=
        if changes && s == .blocking then prt.numTransBlk + 1 else prt.numTransBlk }
  br.emit (.setState p t s)

/-- 13.24.s. The default driver calls `MSTP_IN_all_fids_flushed` inside the flush,
with `calledFromFlushRoutine` set, so that only `fdbFlush` is written. -/
def setFdbFlush (p : PortRef) (t : Mstid) (br : Bridge) : Bridge :=
  let prt := br.port p
  if prt.operEdge || prt.deleted then
    br.setPtp p t fun ptp => { ptp with fdbFlush := false }
  else if br.rstpVersion then
    (br.setPtp p t fun ptp =>
      { ptp with fdbFlush := br.flushesLater, calledFromFlushRoutine := false }).emit
        (.flushAllFids p t)
  else
    let fwdDelay := (br.cist p).designatedTimes.forwardDelay.toNat
    let br := br.emit (.setAgeingTime p fwdDelay)
    let br := br.setPort p fun prt => { prt with rapidAgeingWhile := fwdDelay }
    br.setPtp p t fun ptp => { ptp with fdbFlush := false }

/-- `MSTP_OUT_tx_bpdu`, with the port's transmit counters. -/
def mstpOutTxBpdu (p : PortRef) (b : Bpdu) (size : Nat) (br : Bridge) : Bridge :=
  let tcn := (b.protocolVersion == protoSTP && b.bpduType == bpduTypeTcn) || hasFlag b.flags tcBit
  (br.setPort p fun prt =>
    { prt with
      numTxBpdu := prt.numTxBpdu + 1
      numTxTcn := if tcn then prt.numTxTcn + 1 else prt.numTxTcn }).emit (.txBpdu p b size)

/-- The early return shared by `txConfig`, `txMstp` and `txTcn`. -/
def txSuppressed (br : Bridge) (p : PortRef) : Bool :=
  (br.port p).deleted || (br.cist p).role == .disabled || (br.port p).dontTxmtBpdu

def flagIf (c : Bool) (bit : UInt8) : UInt8 := if c then bit else 0

/-- 13.26.19 -/
def txConfig (p : PortRef) (br : Bridge) : Bridge :=
  let cist := br.cist p
  if txSuppressed br p then br
  else
    let b : Bpdu :=
      { (default : Bpdu) with
        protocolIdentifier := 0
        protocolVersion := protoSTP
        bpduType := bpduTypeConfig
        flags := flagIf (cist.tcWhile != 0) tcBit ||| flagIf (br.port p).tcAck tcAckBit
        cistRootID := cist.designatedPriority.rootID
        cistExtRootPathCost := cist.designatedPriority.extRootPathCost
        cistRRootID := cist.designatedPriority.designatedBridgeID
        cistPortID := cist.designatedPriority.designatedPortID
        messageAge := (cist.designatedTimes.messageAge, 0)
        maxAge := (cist.designatedTimes.maxAge, 0)
        helloTime := (cist.portTimes.helloTime, 0)
        forwardDelay := (cist.designatedTimes.forwardDelay, 0) }
    mstpOutTxBpdu p b configBpduSize br

def messageRoleFromPortRole : Role → UInt8
  | .root => encodedRoleRoot
  | .designated => encodedRoleDesignated
  | .alternate => encodedRoleAlternateBackup
  | .backup => encodedRoleAlternateBackup
  | .master => encodedRoleMaster
  | .disabled => encodedRoleAlternateBackup

/-- The flag octet that `txMstp` builds for the CIST and for each MSTI. -/
def txFlags (ptp : PerTreePort) : UInt8 :=
  bpduFlagsRoleSet (messageRoleFromPortRole ptp.role) ||| flagIf (ptp.tcWhile != 0) tcBit |||
    flagIf ptp.proposing proposalBit ||| flagIf ptp.learning learningBit |||
    flagIf ptp.forwarding forwardingBit ||| flagIf ptp.agree agreementBit

def txMstiMessage (ptp : PerTreePort) : MstiMessage where
  flags := txFlags ptp ||| flagIf ptp.master masterBit
  mstiRRootID := ptp.designatedPriority.rRootID
  mstiIntRootPathCost := ptp.designatedPriority.intRootPathCost
  bridgeIdentifierPriority :=
    getPriorityFromIdentifier ptp.designatedPriority.designatedBridgeID.priority
  portIdentifierPriority := getPriorityFromIdentifier ptp.designatedPriority.designatedPortID
  remainingHops := ptp.designatedTimes.remainingHops

/-- The BPDU that `txMstp` hands to the driver, and its size. -/
def txMstpBpdu (br : Bridge) (p : PortRef) : Bpdu × Nat :=
  let cist := br.cist p
  let b : Bpdu :=
    { (default : Bpdu) with
      protocolIdentifier := 0
      bpduType := bpduTypeRst
      flags := txFlags cist
      cistRootID := cist.designatedPriority.rootID
      cistExtRootPathCost := cist.designatedPriority.extRootPathCost
      cistRRootID := cist.designatedPriority.rRootID
      cistPortID := cist.designatedPriority.designatedPortID
      messageAge := (cist.designatedTimes.messageAge, 0)
      maxAge := (cist.designatedTimes.maxAge, 0)
      helloTime := (cist.portTimes.helloTime, 0)
      forwardDelay := (cist.designatedTimes.forwardDelay, 0)
      version1Len := 0
      protocolVersion := protoRSTP }
  if br.forceProtocolVersion = .mstp then
    let mstis := br.trees.tail
    ({ b with
        protocolVersion := protoMSTP
        mstConfigurationIdentifier := br.mstConfigId.a
        cistIntRootPathCost := cist.designatedPriority.intRootPathCost
        cistBridgeID := cist.designatedPriority.designatedBridgeID
        cistRemainingHops := cist.designatedTimes.remainingHops
        mstConfiguration := fun i =>
          ((mstis.map fun s => txMstiMessage (br.ptp p s))[i]?).getD default
        version3Len := (mstBpduVer3LenWoMstiMsgs + mstiMessageSize * mstis.length).toUInt16 },
      mstBpduSizeWoMstiMsgs + mstiMessageSize * mstis.length)
  else (b, rstBpduSize)

/-- 13.26.20 -/
def txMstp (p : PortRef) (br : Bridge) : Bridge :=
  if txSuppressed br p then br
  else mstpOutTxBpdu p (txMstpBpdu br p).1 (txMstpBpdu br p).2 br

/-- 13.26.a -/
def txTcn (p : PortRef) (br : Bridge) : Bridge :=
  if txSuppressed br p then br
  else
    let b : Bpdu :=
      { (default : Bpdu) with
        protocolIdentifier := 0, protocolVersion := protoSTP, bpduType := bpduTypeTcn }
    mstpOutTxBpdu p b tcnBpduSize br

end Mstpd
