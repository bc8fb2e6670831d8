import Mstpd.Run

/-!
# External events

The `MSTP_IN_` functions. Each is a function of the bridge; those that run the
machines return `none` only when the fuel does not suffice. `Env` holds what the
source takes from outside: the clock, the digest function and the allocator.
-/

namespace Mstpd

open Bridge

structure Env where
  /-- Is a second over after this pass of `br_state_machines_run`? -/
  late : Nat → Bool := fun _ => false
  fuel : Nat
  hmacMd5 : List UInt8 → List UInt8 → List UInt8
  /-- Does the allocation with this number, counted inside one call, succeed? -/
  calloc : Nat → Bool := fun _ => true

/-- 13.7, Table 13-1 -/
def hmacKey : List UInt8 :=
  [0x13, 0xAC, 0x06, 0xA6, 0x2E, 0x47, 0xFD, 0x51, 0xF9, 0x5D, 0x2B, 0xA2, 0x43, 0xCD, 0x03, 0x46]

def vid2mstid (br : Bridge) (vid : Nat) : UInt16 := br.fid2mstid (br.vid2fid vid).toNat

/-- `RecalcConfigDigest`. -/
def recalcConfigDigest (env : Env) (br : Bridge) : Bridge :=
  let table := (List.range (maxVid + 2)).flatMap fun vid =>
    be16 (if 1 ≤ vid ∧ vid ≤ maxVid then vid2mstid br vid else 0)
  { br with
    mstConfigId := { br.mstConfigId with configurationDigest := env.hmacMd5 table hmacKey } }

/-- 13.37.1, Table 13-3 -/
def computePcost (speed : Int) : UInt32 :=
  if 0 < speed then
    if speed < 20000000 then (20000000 / speed.toNat).toUInt32 else 1
  else maxPathCost

def treeDefaultInternalVars (tree : Tree) : Tree :=
  { tree with
    timeSinceTopologyChange := 0, topologyChangeCount := 0, topologyChange := false
    topologyChangePort := "None", lastTopologyChangePort := "None" }

def portDefaultInternalVars (prt : Port) : Port :=
  { prt with
    infoInternal := false, rcvdInternal := false, rcvdTcAck := false, rcvdTcn := false
    rapidAgeingWhile := 0, brAssuRcvdInfoWhile := 0, baInconsistent := false
    numRxBpduFiltered := 0, numRxBpdu := 0, numRxTcn := 0, numTxBpdu := 0, numTxTcn := 0
    numTransFwd := 0, numTransBlk := 0 }

def ptpDefaultInternalVars (ptp : PerTreePort) : PerTreePort :=
  { ptp with
    rcvdTc := false, tcProp := false, updtInfo := false, master := false, disputed := false
    rcvdInfo := .otherInfo, mastered := false, msgPriority := 0, msgTimes := 0 }

/-- `BridgePriority`, which is totally calculated from `BridgeIdentifier`. -/
def ownPriority (id : BridgeIdentifier) (old : PortPriorityVector) : PortPriorityVector :=
  { old with rootID := id, rRootID := id, designatedBridgeID := id }

def createTree (br : Bridge) (macaddr : BitVec 48) (t : Mstid) : Tree :=
  let id : BridgeIdentifier := ⟨0x8000 ||| t, macaddr⟩
  treeDefaultInternalVars
    { bridgeIdentifier := id
      bridgePriority := ownPriority id 0
      bridgeTimes := ⟨br.maxHops, br.forwardDelay, br.maxAge, 0, br.helloTime⟩ }

def createPtp (tree : Tree) (prt : Port) : PerTreePort :=
  ptpDefaultInternalVars
    { state := .disabled
      portId := 0x8000 ||| prt.portNumber
      internalPortPathCost := computePcost prt.speed
      portPriority := tree.bridgePriority
      portTimes := tree.bridgeTimes }

def hexDigit (n : Nat) : UInt8 := (if n < 10 then 48 + n else 55 + n).toUInt8

/-- The name `"%02hhX…"` of the address, in zeroed memory of 32 octets. -/
def macName (macaddr : BitVec 48) : List UInt8 :=
  (List.range 12).map (fun i => hexDigit (macaddr.toNat >>> (4 * (11 - i)) % 16)) ++
    List.replicate 20 0

/-- `MSTP_IN_bridge_create` on zeroed memory. -/
def mstpInBridgeCreate (env : Env) (macaddr : BitVec 48) : Bridge :=
  let br : Bridge :=
    { mstConfigId := ⟨0, macName macaddr, 0, List.replicate 16 0⟩
      forceProtocolVersion := .rstp
      maxHops := 20, forwardDelay := 15, maxAge := 20, helloTime := 2
      transmitHoldCount := 6, migrateTime := 3, ageingTime := 300 }
  let br := recalcConfigDigest env br
  { br with trees := [0], tree := fun s => if s = 0 then createTree br macaddr 0 else {} }

/-- A new port at the end of the list, with an entry for each tree. -/
def addPort (p : PortRef) (portno : UInt16) (name : String) (speed duplex : Int) (br : Bridge) :
    Bridge :=
  let prt : Port := portDefaultInternalVars
    { portNumber := portno, externalPortPathCost := maxPathCost, autoEdge := true
      name := name, speed := speed, duplex := duplex }
  let br := br.setPort p fun _ => prt
  let br := br.setPortPtps p fun s _ => createPtp (br.tree s) prt
  { br with ports := br.ports ++ [p] }

/-- `MSTP_IN_port_create_and_add_tail` for a zeroed port with its `sysdeps` filled in.
A failed allocation frees the entries made before it. -/
def mstpInPortCreateAndAddTail (env : Env) (p : PortRef) (portno : UInt16) (name : String)
    (speed duplex : Int) (br : Bridge) : Option (Bridge × Bool) :=
  if (List.range br.trees.length).all env.calloc then
    (prtStateMachinesBegin env.late env.fuel p (addPort p portno name speed duplex br)).map
      (·, true)
  else some (br, false)

/-- The marks of a port that is about to leave the list. -/
def markDeleted (p : PortRef) (br : Bridge) : Bridge :=
  br.setPort p fun prt => { prt with deleted := true, portEnabled := false }

def mstpInDeletePort (env : Env) (p : PortRef) (br : Bridge) : Option Bridge :=
  let enabled := (br.port p).portEnabled
  let br := markDeleted p br
  (if enabled then brStateMachinesRun env.late env.fuel br else some br).bind fun br =>
    brStateMachinesRun env.late env.fuel { br with ports := br.ports.erase p }

/-- The turn of one tree in `MSTP_IN_set_bridge_address`. -/
def treeAddress (macaddr : BitVec 48) (tree : Tree) : Tree :=
  if tree.bridgeIdentifier.macAddress = macaddr then tree
  else
    let id := { tree.bridgeIdentifier with macAddress := macaddr }
    { tree with bridgeIdentifier := id, bridgePriority := ownPriority id tree.bridgePriority }

def mstpInSetBridgeAddress (env : Env) (macaddr : BitVec 48) (br : Bridge) : Option Bridge :=
  let changed := br.trees.any fun s => (br.tree s).bridgeIdentifier.macAddress != macaddr
  let br := forAll (fun s b => b.setTree s (treeAddress macaddr)) br.trees br
  if changed then brStateMachinesBegin env.late env.fuel br else some br

/-- The turn of one port in the reset loop of `MSTP_IN_set_bridge_enable`. -/
def resetPort (p : PortRef) (br : Bridge) : Bridge :=
  let br := if (br.port p).rapidAgeingWhile ≠ 0 then br.emit (.setAgeingTime p br.ageingTime)
    else br
  let br := br.setPort p portDefaultInternalVars
  forAll (fun s b =>
    (if (b.ptp p s).state ≠ .disabled then mstpOutSetState p s .disabled b else b).setPtp p s
      ptpDefaultInternalVars) br.trees br

/-- All assignments when the bridge is switched on or off. -/
def resetBridge (up : Bool) (br : Bridge) : Bridge :=
  let br := { br with bridgeEnabled := up, uptime := 0 }
  forAll resetPort br.ports
    (forAll (fun s b => b.setTree s treeDefaultInternalVars) br.trees br)

def mstpInSetBridgeEnable (env : Env) (up : Bool) (br : Bridge) : Option Bridge :=
  if br.bridgeEnabled = up then some br
  else brStateMachinesBegin env.late env.fuel (resetBridge up br)

/-- The point to point state that `AdminP2P` and the duplex mode give. -/
def operP2P (admin : AdminP2P) (duplex : Int) : Bool :=
  match admin with
  | .forceTrue => true
  | .forceFalse => false
  | .auto => duplex != 0

/-- An administrative path cost, or the computed one where it is zero. -/
def effectiveCost (admin computed : UInt32) : UInt32 := if admin = 0 then computed else admin

/-- The costs and the point to point state of a port that is up. -/
def assignLink (p : PortRef) (speed duplex : Int) (br : Bridge) : Bridge :=
  let computed := computePcost speed
  let br := br.setPort p fun prt =>
    { prt with
      externalPortPathCost := effectiveCost prt.adminExternalPortPathCost computed
      operPointToPointMAC := operP2P prt.adminP2P duplex }
  br.setPortPtps p fun _ ptp =>
    { ptp with internalPortPathCost := effectiveCost ptp.adminInternalPortPathCost computed }

/-- Does `assignLink` change anything? -/
def linkChanges (p : PortRef) (speed duplex : Int) (br : Bridge) : Bool :=
  let prt := br.port p
  let computed := computePcost speed
  prt.externalPortPathCost != effectiveCost prt.adminExternalPortPathCost computed ||
    (br.trees.any fun s => (br.ptp p s).internalPortPathCost !=
      effectiveCost (br.ptp p s).adminInternalPortPathCost computed) ||
    prt.operPointToPointMAC != operP2P prt.adminP2P duplex

/-- The assignments for a port that comes up. -/
def portUp (p : PortRef) (br : Bridge) : Bridge :=
  updtbrAssuRcvdInfoWhile p <| br.setPort p fun prt =>
    { prt with
      portEnabled := true, bpduGuardError := false, baInconsistent := false
      numRxBpduFiltered := 0, numRxBpdu := 0, numRxTcn := 0, numTxBpdu := 0, numTxTcn := 0 }

def mstpInSetPortEnable (env : Env) (p : PortRef) (up : Bool) (speed duplex : Int)
    (br : Bridge) : Option Bridge :=
  let enabled := (br.port p).portEnabled
  if up then
    let br' := assignLink p speed duplex br
    let br' := if enabled then br' else portUp p br'
    if linkChanges p speed duplex br || !enabled then brStateMachinesRun env.late env.fuel br'
    else some br'
  else if enabled then
    brStateMachinesRun env.late env.fuel (br.setPort p fun prt => { prt with portEnabled := false })
  else some br

/-- The per-tree part of `PTSM_tick`. -/
def ptpTick (p : PortRef) (t : Mstid) (br : Bridge) : Bridge :=
  let expires := (br.ptp p t).tcWhile == 1
  let br := br.setPtp p t fun ptp =>
    { ptp with
      fdWhile := ptp.fdWhile - 1, rrWhile := ptp.rrWhile - 1, rbWhile := ptp.rbWhile - 1
      tcWhile := ptp.tcWhile - 1, rcvdInfoWhile := ptp.rcvdInfoWhile - 1 }
  if expires then resetTopologyChange t br else br

/-- `PTSM_tick`, followed by the port's rapid ageing. -/
def portTick (p : PortRef) (br : Bridge) : Bridge :=
  let br := br.setPort p fun prt =>
    { prt with
      helloWhen := prt.helloWhen - 1, mdelayWhile := prt.mdelayWhile - 1
      edgeDelayWhile := prt.edgeDelayWhile - 1, txCount := prt.txCount - 1
      brAssuRcvdInfoWhile := prt.brAssuRcvdInfoWhile - 1 }
  let br := forAll (ptpTick p) br.trees br
  let ends := (br.port p).rapidAgeingWhile == 1 && !(br.port p).deleted
  let br := br.setPort p fun prt => { prt with rapidAgeingWhile := prt.rapidAgeingWhile - 1 }
  if ends then br.emit (.setAgeingTime p br.ageingTime) else br

def treeTick (tree : Tree) : Tree :=
  { tree with
    timeSinceTopologyChange :=
      if tree.topologyChange then tree.timeSinceTopologyChange
      else tree.timeSinceTopologyChange + 1 }

/-- All timers of the trees and the ports, one second later. -/
def bridgeTick (br : Bridge) : Bridge :=
  let br := forAll (fun s b => b.setTree s treeTick) br.trees br
  forAll portTick br.ports br

def mstpInOneSecond (env : Env) (br : Bridge) : Option Bridge :=
  let br := { br with uptime := br.uptime + 1 }
  if br.bridgeEnabled then brStateMachinesRun env.late env.fuel (bridgeTick br) else some br

/-- `MSTP_IN_all_fids_flushed` called by the driver outside the flush routine. -/
def mstpInAllFidsFlushed (env : Env) (p : PortRef) (t : Mstid) (br : Bridge) : Option Bridge :=
  let br := br.setPtp p t fun ptp => { ptp with fdbFlush := false }
  if br.bridgeEnabled && !(br.ptp p t).calledFromFlushRoutine then
    (Machine.run (tcsmStep p t) env.fuel br).bind (brStateMachinesRun env.late env.fuel)
  else some br

/-- 14.4: the protocol version under which a BPDU is accepted, and the number of
MSTI messages when it is accepted as an MST BPDU. -/
def validateBpdu (bpdu : Mem) (size : Nat) : Option (UInt8 × Option Nat) :=
  let b := bpdu.bpdu
  if size < tcnBpduSize ∨ b.protocolIdentifier ≠ 0 then none
  else if b.bpduType = bpduTypeTcn then some (protoSTP, none)
  else if b.bpduType = bpduTypeConfig then
    if size < configBpduSize then none else some (protoSTP, none)
  else if b.bpduType = bpduTypeRst then
    if b.protocolVersion = protoRSTP then
      if size < rstBpduSize then none else some (protoRSTP, none)
    else if b.protocolVersion < protoMSTP then none
    -- 14.4.d) asks for 35 octets here, not for 36
    else if size < configBpduSize then none
    else
      let mstisSize : Int := b.version3Len.toNat - mstBpduVer3LenWoMstiMsgs
      if size < mstBpduSizeWoMstiMsgs ∨ b.version1Len ≠ 0 ∨ mstisSize < 0 ∨
          ((maxStandardMstis * mstiMessageSize : Nat) : Int) < mstisSize ∨
          mstisSize % mstiMessageSize ≠ 0 then
        some (protoRSTP, none)
      else some (protoMSTP, some (mstisSize.toNat / mstiMessageSize))
  else none

/-- `*bpdu` after the assignment to its `protocolVersion`. -/
def withVersion (bpdu : Mem) (version : UInt8) : Mem := fun o => if o = 2 then version else bpdu o

/-- Why `MSTP_IN_rx_bpdu` returns before the validation. -/
inductive RxRefusal
  | guarded | filtered | bridgeDisabled | notProcessed
  deriving DecidableEq

def rxRefusal (br : Bridge) (p : PortRef) : Option RxRefusal :=
  let prt := br.port p
  if prt.bpduGuardPort then some .guarded
  else if prt.bpduFilterPort then some .filtered
  else if !br.bridgeEnabled then some .bridgeDisabled
  else if prt.rcvdBpdu then some .notProcessed
  else none

/-- The assignments for an accepted BPDU. -/
def acceptBpdu (p : PortRef) (bpdu : Mem) (version : UInt8) (mstis : Option Nat)
    (br : Bridge) : Bridge :=
  let b := bpdu.bpdu
  let tc := (version == protoSTP && b.bpduType == bpduTypeTcn) || hasFlag b.flags tcBit
  updtbrAssuRcvdInfoWhile p <| br.setPort p fun prt =>
    { prt with
      numRxTcn := if tc then prt.numRxTcn + 1 else prt.numRxTcn
      rcvdBpduNumOfMstis := mstis.getD prt.rcvdBpduNumOfMstis
      rcvdBpduData := withVersion bpdu version
      rcvdBpdu := true, baInconsistent := false }

def mstpInRxBpdu (env : Env) (p : PortRef) (bpdu : Mem) (size : Nat) (br : Bridge) :
    Option Bridge :=
  let br := br.setPort p fun prt => { prt with numRxBpdu := prt.numRxBpdu + 1 }
  match rxRefusal br p with
  | some .guarded =>
    some ((br.setPort p fun prt => { prt with bpduGuardError := true }).emit (.shutdownPort p))
  | some .filtered =>
    some (br.setPort p fun prt => { prt with numRxBpduFiltered := prt.numRxBpduFiltered + 1 })
  | some _ => some br
  | none =>
    match validateBpdu bpdu size with
    | none => some br
    | some (version, mstis) =>
      brStateMachinesRun env.late env.fuel (acceptBpdu p bpdu version mstis br)

/-- `CIST_BridgeConfig`; a field is present when its `set_` flag is. -/
structure CistBridgeConfig where
  bridgeMaxAge : Option UInt8 := none
  bridgeForwardDelay : Option UInt8 := none
  protocolVersion : Option Nat := none
  txHoldCount : Option Nat := none
  maxHops : Option UInt8 := none
  bridgeHelloTime : Option UInt8 := none
  bridgeAgeingTime : Option Nat := none

def protocolVersionOf : Nat → Option ProtocolVersion
  | 0 => some .stp
  | 2 => some .rstp
  | 3 => some .mstp
  | _ => none

/-- The validation that precedes every assignment. -/
def cistBridgeConfigOk (br : Bridge) (cfg : CistBridgeConfig) : Bool :=
  let newMaxAge := cfg.bridgeMaxAge.getD br.maxAge
  let newForwardDelay := cfg.bridgeForwardDelay.getD br.forwardDelay
  cfg.bridgeMaxAge.all (fun a => decide (6 ≤ a ∧ a ≤ 40)) &&
  cfg.bridgeForwardDelay.all (fun d => decide (4 ≤ d ∧ d ≤ 30)) &&
  (!(cfg.bridgeMaxAge.isSome || cfg.bridgeForwardDelay.isSome) ||
    decide ((newMaxAge.toNat : Int) ≤ 2 * ((newForwardDelay.toNat : Int) - 1))) &&
  cfg.protocolVersion.all (fun v => (protocolVersionOf v).isSome) &&
  cfg.txHoldCount.all (fun n => decide (1 ≤ n ∧ n ≤ 10)) &&
  cfg.maxHops.all (fun n => decide (6 ≤ n ∧ n ≤ 100)) &&
  cfg.bridgeHelloTime.all (fun n => n == 2) &&
  cfg.bridgeAgeingTime.all (fun n => decide (10 ≤ n ∧ n ≤ 1000000))

/-- Finalize a change of the bridge times. -/
def propagateBridgeTimes (br : Bridge) : Bridge :=
  let hello := br.helloTime
  forAll (fun s b =>
    (b.setTree s fun tree =>
      { tree with
        bridgeTimes :=
          { tree.bridgeTimes with
            remainingHops := b.maxHops, forwardDelay := b.forwardDelay, maxAge := b.maxAge
            helloTime := hello } }).setTreePtps s fun _ ptp =>
      { ptp with
        selected := false, reselect := true
        portTimes := { ptp.portTimes with helloTime := hello } }) br.trees br

/-- The bridge with the parameters of the configuration. -/
def assignParameters (cfg : CistBridgeConfig) (br : Bridge) : Bridge :=
  { br with
    maxAge := cfg.bridgeMaxAge.getD br.maxAge
    forwardDelay := cfg.bridgeForwardDelay.getD br.forwardDelay
    forceProtocolVersion :=
      (cfg.protocolVersion.bind protocolVersionOf).getD br.forceProtocolVersion
    transmitHoldCount := cfg.txHoldCount.getD br.transmitHoldCount
    maxHops := cfg.maxHops.getD br.maxHops
    ageingTime := cfg.bridgeAgeingTime.getD br.ageingTime }

/-- A new hold count forgets the BPDUs sent so far. -/
def resetTxCounts (br : Bridge) : Bridge :=
  forAll (fun p b => b.setPort p fun prt => { prt with txCount := 0 }) br.ports br

/-- Do the parameters change the bridge times? -/
def timesChange (cfg : CistBridgeConfig) (br : Bridge) : Bool :=
  let br' := assignParameters cfg br
  br'.maxAge != br.maxAge || br'.forwardDelay != br.forwardDelay || br'.maxHops != br.maxHops

def holdCountChanges (cfg : CistBridgeConfig) (br : Bridge) : Bool :=
  (assignParameters cfg br).transmitHoldCount != br.transmitHoldCount

/-- All assignments of a bridge configuration. -/
def writeBridgeConfig (cfg : CistBridgeConfig) (br : Bridge) : Bridge :=
  let br' := assignParameters cfg br
  let br' := if holdCountChanges cfg br then resetTxCounts br' else br'
  if timesChange cfg br then propagateBridgeTimes br' else br'

def mstpInSetCistBridgeConfig (env : Env) (cfg : CistBridgeConfig) (br : Bridge) :
    Option (Bridge × Bool) :=
  if !cistBridgeConfigOk br cfg then some (br, false)
  else
    let br' := writeBridgeConfig cfg br
    if br.bridgeEnabled then
      if (assignParameters cfg br).forceProtocolVersion != br.forceProtocolVersion then
        (brStateMachinesBegin env.late env.fuel br').map (·, true)
      else if timesChange cfg br || holdCountChanges cfg br then
        (brStateMachinesRun env.late env.fuel br').map (·, true)
      else some (br', true)
    else some (br', true)

def mstpInSetMstiBridgeConfig (t : Mstid) (bridgePriority : UInt8) (br : Bridge) : Bridge × Bool :=
  if 15 < bridgePriority then (br, false)
  else
    let valuePri := bridgePriority <<< 4
    let id := (br.tree t).bridgeIdentifier
    if getPriorityFromIdentifier id.priority = valuePri then (br, true)
    else
      let id' := { id with priority := setPriorityInIdentifier valuePri id.priority }
      let br := br.setTree t fun tree =>
        { tree with
          bridgeIdentifier := id', bridgePriority := ownPriority id' tree.bridgePriority }
      (br.setTreePtps t fun _ ptp => { ptp with selected := false, reselect := true }, true)

/-- `CIST_PortConfig`; a field is present when its `set_` flag is. -/
structure CistPortConfig where
  adminExternalPortPathCost : Option UInt32 := none
  adminEdgePort : Option Bool := none
  autoEdgePort : Option Bool := none
  adminP2P : Option Nat := none
  restrictedRole : Option Bool := none
  restrictedTcn : Option Bool := none
  bpduGuardPort : Option Bool := none
  networkPort : Option Bool := none
  dontTxmt : Option Bool := none
  bpduFilterPort : Option Bool := none

/-- Values outside the enumeration count as automatic. -/
def adminP2POf : Nat → AdminP2P
  | 1 => .forceTrue
  | 2 => .forceFalse
  | _ => .auto

/-- The external path cost after the configuration. -/
def newExternalCost (prt : Port) (cfg : CistPortConfig) : UInt32 :=
  match cfg.adminExternalPortPathCost with
  | some admin => effectiveCost admin (computePcost prt.speed)
  | none => prt.externalPortPathCost

/-- The fields of the port after the configuration. -/
def assignPortConfig (cfg : CistPortConfig) (prt : Port) : Port :=
  let newAdminP2P := (cfg.adminP2P.map adminP2POf).getD prt.adminP2P
  let newNetwork := cfg.networkPort.getD prt.networkPort
  let newFilter := cfg.bpduFilterPort.getD prt.bpduFilterPort
  { prt with
    adminExternalPortPathCost :=
      cfg.adminExternalPortPathCost.getD prt.adminExternalPortPathCost
    externalPortPathCost := newExternalCost prt cfg
    adminP2P := newAdminP2P
    operPointToPointMAC :=
      if cfg.adminP2P.isSome then operP2P newAdminP2P prt.duplex else prt.operPointToPointMAC
    adminEdgePort := cfg.adminEdgePort.getD prt.adminEdgePort
    autoEdge := cfg.autoEdgePort.getD prt.autoEdge
    restrictedRole := cfg.restrictedRole.getD prt.restrictedRole
    restrictedTcn := cfg.restrictedTcn.getD prt.restrictedTcn
    bpduGuardPort := cfg.bpduGuardPort.getD prt.bpduGuardPort
    networkPort := newNetwork
    baInconsistent := prt.baInconsistent && (prt.networkPort == newNetwork || newNetwork)
    dontTxmtBpdu := cfg.dontTxmt.getD prt.dontTxmtBpdu
    bpduFilterPort := newFilter
    numRxBpduFiltered := if prt.bpduFilterPort = newFilter then prt.numRxBpduFiltered else 0 }

/-- Those changes after which the machines are run. -/
def portConfigChanges (prt prt' : Port) : Bool :=
  prt.externalPortPathCost != prt'.externalPortPathCost ||
    prt.operPointToPointMAC != prt'.operPointToPointMAC ||
    prt.adminEdgePort != prt'.adminEdgePort || prt.autoEdge != prt'.autoEdge ||
    prt.restrictedRole != prt'.restrictedRole || prt.restrictedTcn != prt'.restrictedTcn ||
    prt.networkPort != prt'.networkPort

/-- Does the configuration change the external path cost? -/
def costChanges (p : PortRef) (cfg : CistPortConfig) (br : Bridge) : Bool :=
  (br.port p).externalPortPathCost != newExternalCost (br.port p) cfg

/-- All assignments of a port configuration. -/
def writePortConfig (p : PortRef) (cfg : CistPortConfig) (br : Bridge) : Bridge :=
  let prt := br.port p
  let cost := costChanges p cfg br
  let br := br.setPtp p 0 fun ptp =>
    { ptp with selected := ptp.selected && !cost, reselect := ptp.reselect || cost }
  let br := br.setPort p (assignPortConfig cfg)
  if prt.adminEdgePort = (assignPortConfig cfg prt).adminEdgePort then br else bdsmBegin p br

def mstpInSetCistPortConfig (env : Env) (p : PortRef) (cfg : CistPortConfig) (br : Bridge) :
    Option (Bridge × Bool) :=
  let prt := br.port p
  if cfg.adminExternalPortPathCost.any (fun c => decide (maxPathCost < c)) then some (br, false)
  else if portConfigChanges prt (assignPortConfig cfg prt) && prt.portEnabled then
    (brStateMachinesRun env.late env.fuel (writePortConfig p cfg br)).map (·, true)
  else some (writePortConfig p cfg br, true)

/-- `MSTI_PortConfig`; a field is present when its `set_` flag is. -/
structure MstiPortConfig where
  adminInternalPortPathCost : Option UInt32 := none
  portPriority : Option UInt8 := none

/-- The port identifier and the internal cost after the configuration. -/
def assignPtpConfig (speed : Int) (cfg : MstiPortConfig) (ptp : PerTreePort) : PerTreePort :=
  { ptp with
    portId :=
      match cfg.portPriority with
      | some n =>
        if getPriorityFromIdentifier ptp.portId = n <<< 4 then ptp.portId
        else setPriorityInIdentifier (n <<< 4) ptp.portId
      | none => ptp.portId
    adminInternalPortPathCost :=
      cfg.adminInternalPortPathCost.getD ptp.adminInternalPortPathCost
    internalPortPathCost :=
      match cfg.adminInternalPortPathCost with
      | some admin => effectiveCost admin (computePcost speed)
      | none => ptp.internalPortPathCost }

def mstpInSetMstiPortConfig (env : Env) (p : PortRef) (t : Mstid) (cfg : MstiPortConfig)
    (br : Bridge) : Option (Bridge × Bool) :=
  let ptp := br.ptp p t
  if cfg.portPriority.any (fun n => decide (15 < n)) ||
      cfg.adminInternalPortPathCost.any (fun c => decide (maxPathCost < c)) then some (br, false)
  else
    let ptp' := assignPtpConfig (br.port p).speed cfg ptp
    let changed := ptp'.portId != ptp.portId ||
      ptp'.internalPortPathCost != ptp.internalPortPathCost
    let br' := br.setPtp p t (assignPtpConfig (br.port p).speed cfg)
    if changed && (br.port p).portEnabled then
      (brStateMachinesRun env.late env.fuel <| br'.setPtp p t fun ptp =>
        { ptp with selected := false, reselect := true }).map (·, true)
    else some (br', true)

/-- The assignments of a migration check. -/
def requestMcheck (p : PortRef) (br : Bridge) : Bridge :=
  (br.setPort p fun prt => { prt with mcheck := true }).setPtp p 0 fun ptp =>
    { ptp with proposing := true }

def mstpInPortMcheck (env : Env) (p : PortRef) (br : Bridge) : Option Bridge :=
  if br.rstpVersion && (br.port p).portEnabled && br.bridgeEnabled then
    brStateMachinesRun env.late env.fuel (requestMcheck p br)
  else some br

/-- What follows a write to the allocation tables. -/
def tablesWritten (env : Env) (changed : Bool) (br : Bridge) : Option (Bridge × Bool) :=
  if changed then
    (brStateMachinesBegin env.late env.fuel (recalcConfigDigest env br)).map (·, true)
  else some (br, true)

def mstpInSetVid2fid (env : Env) (vid fid : UInt16) (br : Bridge) : Option (Bridge × Bool) :=
  if vid.toNat < 1 ∨ maxVid < vid.toNat ∨ maxFid < fid.toNat then some (br, false)
  else
    let changed := br.fid2mstid fid.toNat != vid2mstid br vid.toNat
    tablesWritten env changed
      { br with vid2fid := fun v => if v = vid.toNat then fid else br.vid2fid v }

def mstpInSetAllVids2fids (env : Env) (vids2fids : Nat → UInt16) (br : Bridge) :
    Option (Bridge × Bool) :=
  let new (vid : Nat) : UInt16 :=
    if 1 ≤ vid ∧ maxFid < (vids2fids vid).toNat then br.vid2fid vid else vids2fids vid
  let changed := (List.range (maxVid + 1)).any fun vid =>
    decide (1 ≤ vid) && br.fid2mstid (new vid).toNat != vid2mstid br vid
  tablesWritten env changed
    { br with vid2fid := fun vid => if vid ≤ maxVid then new vid else br.vid2fid vid }

def mstpInSetFid2mstid (env : Env) (fid mstid : UInt16) (br : Bridge) : Option (Bridge × Bool) :=
  if maxFid < fid.toNat then some (br, false)
  else if !br.trees.contains mstid then some (br, false)
  else if br.fid2mstid fid.toNat = mstid then some (br, true)
  else
    let used := (List.range (maxVid + 1)).any fun vid => decide (1 ≤ vid) && br.vid2fid vid == fid
    tablesWritten env used
      { br with fid2mstid := fun f => if f = fid.toNat then mstid else br.fid2mstid f }

def mstpInSetAllFids2mstids (env : Env) (fids2mstids : Nat → UInt16) (br : Bridge) :
    Option (Bridge × Bool) :=
  let new (fid : Nat) : UInt16 :=
    if maxMstid < (fids2mstids fid).toNat then br.fid2mstid fid else fids2mstids fid
  if !(List.range (maxFid + 1)).all (fun fid => br.trees.contains (new fid)) then some (br, false)
  else
    let br' :=
      { br with fid2mstid := fun fid => if fid ≤ maxFid then new fid else br.fid2mstid fid }
    let changed := (List.range (maxVid + 1)).any fun vid =>
      decide (1 ≤ vid) && vid2mstid br' vid != vid2mstid br vid
    tablesWritten env changed br'

/-- `list_add` of the new tree behind the last tree with a smaller MSTID. -/
def insertAfterLast (P : Mstid → Bool) (x : Mstid) : List Mstid → Option (List Mstid)
  | [] => none
  | a :: rest =>
    match insertAfterLast P x rest with
    | some rest' => some (a :: rest')
    | none => if P a then some (a :: x :: rest) else none

/-- A new tree in its place, with an entry for each port. -/
def addTree (mstid : UInt16) (trees : List Mstid) (br : Bridge) : Bridge :=
  let tree := createTree br (br.tree 0).bridgeIdentifier.macAddress mstid
  let br := { br.setTree mstid (fun _ => tree) with trees := trees }
  br.setTreePtps mstid fun q _ => createPtp tree (br.port q)

def mstpInCreateMsti (env : Env) (mstid : UInt16) (br : Bridge) : Option (Bridge × Bool) :=
  if mstid.toNat < 1 ∨ maxMstid < mstid.toNat then some (br, false)
  else if br.trees.contains mstid then some (br, true)
  else
    match insertAfterLast (fun s => decide (s < mstid)) mstid br.trees with
    | none => some (br, false)
    | some trees =>
      if maxImplementationMstis < br.trees.length then some (br, false)
      else if !(List.range (br.ports.length + 1)).all env.calloc then some (br, false)
      else
        (treeStateMachinesBegin env.late env.fuel mstid (addTree mstid trees br)).map (·, true)

def mstpInDeleteMsti (env : Env) (mstid : UInt16) (br : Bridge) : Option (Bridge × Bool) :=
  if mstid.toNat < 1 ∨ maxMstid < mstid.toNat then some (br, false)
  else if (List.range (maxFid + 1)).any (fun fid => br.fid2mstid fid == mstid) then
    some (br, false)
  else if !br.trees.contains mstid then some (br, true)
  else
    (brStateMachinesRun env.late env.fuel { br with trees := br.trees.erase mstid }).map (·, true)

/-- The octets `strncmp` and `strncpy` see of a name: up to a NUL, at most 32. -/
def cName (name : Nat → UInt8) : List UInt8 :=
  ((List.range 32).map name).takeWhile (· != 0)

def mstpInSetMstConfigId (env : Env) (revision : UInt16) (name : Nat → UInt8) (br : Bridge) :
    Option Bridge :=
  let old := br.mstConfigId
  let changed := cName name != old.configurationName.takeWhile (· != 0) ||
    revision != old.revisionLevel
  if changed then
    let padded := cName name ++ List.replicate (32 - (cName name).length) 0
    brStateMachinesBegin env.late env.fuel
      { br with
        mstConfigId := { old with revisionLevel := revision, configurationName := padded } }
  else some br

end Mstpd
