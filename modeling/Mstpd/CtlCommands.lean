import Mstpd.BridgeTrack
import Mstpd.CtlSocket

/-!
# The commands of the control socket

What the commands read and write of the daemon, and which of them a user may give.
-/

namespace Mstpd.CtlServer

open Bridge Table
open CtlSocket (Datagram intAt toSizeT ctlAccessOk laterCommand messageCases
  cmdCodeAddBridges cmdCodeDelBridges brArraySize sizeofInt)

/-! ## Status -/

structure CistBridgeStatus where
  bridgeId : BridgeIdentifier
  timeSinceTopologyChange : Nat
  topologyChangeCount : Nat
  topologyChange : Bool
  topologyChangePort : String
  lastTopologyChangePort : String
  designatedRoot : BridgeIdentifier
  rootPathCost : UInt32
  rootPortId : UInt16
  rootMaxAge : UInt8
  rootForwardDelay : UInt8
  bridgeMaxAge : UInt8
  bridgeForwardDelay : UInt8
  txHoldCount : Nat
  protocolVersion : ProtocolVersion
  regionalRoot : BridgeIdentifier
  internalPathCost : UInt32
  enabled : Bool
  stpEnabled : Bool
  ageingTime : Nat
  maxHops : UInt8
  bridgeHelloTime : UInt8

def mstpInGetCistBridgeStatus (b : TrackedBridge) : CistBridgeStatus :=
  let br := b.core
  let cist := br.tree 0
  { bridgeId := cist.bridgeIdentifier
    timeSinceTopologyChange := cist.timeSinceTopologyChange
    topologyChangeCount := cist.topologyChangeCount
    topologyChange := cist.topologyChange
    topologyChangePort := cist.topologyChangePort
    lastTopologyChangePort := cist.lastTopologyChangePort
    designatedRoot := cist.rootPriority.rootID
    rootPathCost := cist.rootPriority.extRootPathCost
    rootPortId := cist.rootPortId
    rootMaxAge := cist.rootTimes.maxAge
    rootForwardDelay := cist.rootTimes.forwardDelay
    bridgeMaxAge := br.maxAge
    bridgeForwardDelay := br.forwardDelay
    txHoldCount := br.transmitHoldCount
    protocolVersion := br.forceProtocolVersion
    regionalRoot := cist.rootPriority.rRootID
    internalPathCost := cist.rootPriority.intRootPathCost
    enabled := br.bridgeEnabled
    stpEnabled := b.stpEnabled
    ageingTime := br.ageingTime
    maxHops := br.maxHops
    bridgeHelloTime := br.helloTime }

structure MstiBridgeStatus where
  bridgeId : BridgeIdentifier
  timeSinceTopologyChange : Nat
  topologyChangeCount : Nat
  topologyChange : Bool
  topologyChangePort : String
  lastTopologyChangePort : String
  regionalRoot : BridgeIdentifier
  internalPathCost : UInt32
  rootPortId : UInt16

def mstpInGetMstiBridgeStatus (tree : Tree) : MstiBridgeStatus where
  bridgeId := tree.bridgeIdentifier
  timeSinceTopologyChange := tree.timeSinceTopologyChange
  topologyChangeCount := tree.topologyChangeCount
  topologyChange := tree.topologyChange
  topologyChangePort := tree.topologyChangePort
  lastTopologyChangePort := tree.lastTopologyChangePort
  regionalRoot := tree.rootPriority.rRootID
  internalPathCost := tree.rootPriority.intRootPathCost
  rootPortId := tree.rootPortId

structure CistPortStatus where
  uptime : Int
  state : BrState
  portId : UInt16
  adminExternalPortPathCost : UInt32
  externalPortPathCost : UInt32
  designatedRoot : BridgeIdentifier
  designatedExternalCost : UInt32
  designatedBridge : BridgeIdentifier
  designatedPort : UInt16
  tcAck : Bool
  portHelloTime : UInt8
  adminEdgePort : Bool
  autoEdgePort : Bool
  operEdgePort : Bool
  enabled : Bool
  adminP2P : AdminP2P
  operP2P : Bool
  restrictedRole : Bool
  restrictedTcn : Bool
  role : Role
  disputed : Bool
  designatedRegionalRoot : BridgeIdentifier
  designatedInternalCost : UInt32
  adminInternalPortPathCost : UInt32
  internalPortPathCost : UInt32
  bpduGuardPort : Bool
  bpduGuardError : Bool
  bpduFilterPort : Bool
  networkPort : Bool
  baInconsistent : Bool
  numRxBpduFiltered : Nat
  numRxBpdu : Nat
  numRxTcn : Nat
  numTxBpdu : Nat
  numTxTcn : Nat
  numTransFwd : Nat
  numTransBlk : Nat
  rcvdBpdu : Bool
  rcvdRSTP : Bool
  rcvdSTP : Bool
  rcvdTcAck : Bool
  rcvdTcn : Bool
  sendRSTP : Bool

def mstpInGetCistPortStatus (br : Bridge) (p : PortRef) : CistPortStatus :=
  let prt := br.port p
  let cist := br.cist p
  { uptime := (br.uptime : Int) - cist.startTime
    state := cist.state
    portId := cist.portId
    adminExternalPortPathCost := prt.adminExternalPortPathCost
    externalPortPathCost := prt.externalPortPathCost
    designatedRoot := cist.portPriority.rootID
    designatedExternalCost := cist.portPriority.extRootPathCost
    designatedBridge := cist.portPriority.designatedBridgeID
    designatedPort := cist.portPriority.designatedPortID
    tcAck := prt.tcAck
    portHelloTime := cist.portTimes.helloTime
    adminEdgePort := prt.adminEdgePort
    autoEdgePort := prt.autoEdge
    operEdgePort := prt.operEdge
    enabled := prt.portEnabled
    adminP2P := prt.adminP2P
    operP2P := prt.operPointToPointMAC
    restrictedRole := prt.restrictedRole
    restrictedTcn := prt.restrictedTcn
    role := cist.role
    disputed := cist.disputed
    designatedRegionalRoot := cist.portPriority.rRootID
    designatedInternalCost := cist.portPriority.intRootPathCost
    adminInternalPortPathCost := cist.adminInternalPortPathCost
    internalPortPathCost := cist.internalPortPathCost
    bpduGuardPort := prt.bpduGuardPort
    bpduGuardError := prt.bpduGuardError
    bpduFilterPort := prt.bpduFilterPort
    networkPort := prt.networkPort
    baInconsistent := prt.baInconsistent
    numRxBpduFiltered := prt.numRxBpduFiltered
    numRxBpdu := prt.numRxBpdu
    numRxTcn := prt.numRxTcn
    numTxBpdu := prt.numTxBpdu
    numTxTcn := prt.numTxTcn
    numTransFwd := prt.numTransFwd
    numTransBlk := prt.numTransBlk
    rcvdBpdu := prt.rcvdBpdu
    rcvdRSTP := prt.rcvdRSTP
    rcvdSTP := prt.rcvdSTP
    rcvdTcAck := prt.rcvdTcAck
    rcvdTcn := prt.rcvdTcn
    sendRSTP := prt.sendRSTP }

structure MstiPortStatus where
  uptime : Int
  state : BrState
  portId : UInt16
  adminInternalPortPathCost : UInt32
  internalPortPathCost : UInt32
  designatedRegionalRoot : BridgeIdentifier
  designatedInternalCost : UInt32
  designatedBridge : BridgeIdentifier
  designatedPort : UInt16
  role : Role
  disputed : Bool

def mstpInGetMstiPortStatus (br : Bridge) (p : PortRef) (t : Mstid) : MstiPortStatus :=
  let ptp := br.ptp p t
  { uptime := (br.uptime : Int) - ptp.startTime
    state := ptp.state
    portId := ptp.portId
    adminInternalPortPathCost := ptp.adminInternalPortPathCost
    internalPortPathCost := ptp.internalPortPathCost
    designatedRegionalRoot := ptp.portPriority.rRootID
    designatedInternalCost := ptp.portPriority.intRootPathCost
    designatedBridge := ptp.portPriority.designatedBridgeID
    designatedPort := ptp.portPriority.designatedPortID
    role := ptp.role
    disputed := ptp.disputed }

/-- The list of the trees, with room for the CIST and all MSTIs. -/
def mstpInGetMstilist (br : Bridge) : List Mstid := br.trees.take (maxImplementationMstis + 1)

/-! ## Payloads -/

def u8At (bytes : List UInt8) (o : Nat) : UInt8 := bytes.getD o 0

def boolAt (bytes : List UInt8) (o : Nat) : Bool := u8At bytes o != 0

def u16At (bytes : List UInt8) (o : Nat) : UInt16 :=
  (u8At bytes o).toUInt16 ||| (u8At bytes (o + 1)).toUInt16 <<< 8

def u32At (bytes : List UInt8) (o : Nat) : UInt32 :=
  (u16At bytes o).toUInt32 ||| (u16At bytes (o + 2)).toUInt32 <<< 16

/-- A member that counts where its `set_` flag, at the second offset, is set. -/
def memberAt {α : Type} (read : List UInt8 → Nat → α) (bytes : List UInt8) (o flag : Nat) :
    Option α :=
  if boolAt bytes flag then some (read bytes o) else none

def natAt (bytes : List UInt8) (o : Nat) : Nat := (u32At bytes o).toNat

/-- `CIST_BridgeConfig` at an offset. -/
def cistBridgeConfigAt (bytes : List UInt8) (o : Nat) : CistBridgeConfig where
  bridgeMaxAge := memberAt u8At bytes o (o + 1)
  bridgeForwardDelay := memberAt u8At bytes (o + 2) (o + 3)
  protocolVersion := memberAt natAt bytes (o + 4) (o + 8)
  txHoldCount := memberAt natAt bytes (o + 12) (o + 16)
  maxHops := memberAt u8At bytes (o + 17) (o + 18)
  bridgeHelloTime := memberAt u8At bytes (o + 19) (o + 20)
  bridgeAgeingTime := memberAt natAt bytes (o + 24) (o + 28)

/-- `CIST_PortConfig` at an offset. -/
def cistPortConfigAt (bytes : List UInt8) (o : Nat) : CistPortConfig where
  adminExternalPortPathCost := memberAt u32At bytes o (o + 4)
  adminEdgePort := memberAt boolAt bytes (o + 5) (o + 6)
  autoEdgePort := memberAt boolAt bytes (o + 7) (o + 8)
  adminP2P := memberAt natAt bytes (o + 12) (o + 16)
  restrictedRole := memberAt boolAt bytes (o + 17) (o + 18)
  restrictedTcn := memberAt boolAt bytes (o + 19) (o + 20)
  bpduGuardPort := memberAt boolAt bytes (o + 21) (o + 22)
  networkPort := memberAt boolAt bytes (o + 23) (o + 24)
  dontTxmt := memberAt boolAt bytes (o + 25) (o + 26)
  bpduFilterPort := memberAt boolAt bytes (o + 27) (o + 28)

/-- `MSTI_PortConfig` at an offset. -/
def mstiPortConfigAt (bytes : List UInt8) (o : Nat) : MstiPortConfig where
  adminInternalPortPathCost := memberAt u32At bytes o (o + 4)
  portPriority := memberAt u8At bytes (o + 5) (o + 6)

/-! ## Commands -/

structure ServerState where
  bridges : Daemon
  logLevel : Int

/-- What a command puts out to its user. -/
inductive Reply
  | empty
  | cistBridgeStatus (status : CistBridgeStatus) (rootPortName : String)
  | mstiBridgeStatus (status : MstiBridgeStatus) (rootPortName : String)
  | cistPortStatus (status : CistPortStatus)
  | mstiPortStatus (status : MstiPortStatus)
  | mstilist (mstids : List Mstid)
  | mstconfid (cfg : MstConfigurationIdentifier)
  | table (entries : List UInt16)

/-- The state after a command, its return value and its output; nothing where the state
machines do not come to an end. -/
abbrev Handled := Option (ServerState × Int × Reply)

section Commands

variable (o : Outside) (s : ServerState)

/-- `CTL_CHECK_BRIDGE`. -/
def checkBridge (brIndex : Int) (act : TrackedBridge → Handled) : Handled :=
  match findBr brIndex s.bridges with
  | none => some (s, -1, .empty)
  | some b => act b

/-- `CTL_CHECK_BRIDGE_PORT`. -/
def checkBridgePort (brIndex portIndex : Int) (act : TrackedBridge → PortRef → Handled) :
    Handled :=
  checkBridge s brIndex fun b =>
    match findIf portIndex b with
    | none => some (s, -1, .empty)
    | some p => act b p

/-- `CTL_CHECK_BRIDGE_TREE`. -/
def checkBridgeTree (brIndex : Int) (mstid : Mstid) (act : TrackedBridge → Handled) : Handled :=
  checkBridge s brIndex fun b =>
    if b.core.trees.contains mstid then act b else some (s, -1, .empty)

/-- `CTL_CHECK_BRIDGE_PERTREEPORT`. -/
def checkBridgePertreeport (brIndex portIndex : Int) (mstid : Mstid)
    (act : TrackedBridge → PortRef → Handled) : Handled :=
  checkBridgePort s brIndex portIndex fun b p =>
    if b.core.trees.contains mstid then act b p else some (s, -1, .empty)

/-- A call into the protocol of a bridge, with the result of the call. -/
def callCore (op : Op) (b : TrackedBridge) : Handled :=
  (exec (o.env .command b.ifIndex) b.core op).bind fun r =>
    (updateFirst (isBr b.ifIndex) (fun b => some { b with core := r.1 }) s.bridges).map fun d =>
      ({ s with bridges := d }, if r.2 then 0 else -1, .empty)

/-- The name of the port with the root port identifier, if there is one. -/
def rootPortName (br : Bridge) (t : Mstid) (rootPortId : UInt16) : String :=
  match br.ports.find? fun p => (br.ptp p t).portId == rootPortId with
  | none => ""
  | some p => (br.port p).name

def ctlGetCistBridgeStatus (brIndex : Int) : Handled :=
  checkBridge s brIndex fun b =>
    let status := mstpInGetCistBridgeStatus b
    some (s, 0, .cistBridgeStatus status (rootPortName b.core 0 status.rootPortId))

def ctlGetMstiBridgeStatus (brIndex : Int) (mstid : Mstid) : Handled :=
  checkBridgeTree s brIndex mstid fun b =>
    let status := mstpInGetMstiBridgeStatus (b.core.tree mstid)
    some (s, 0, .mstiBridgeStatus status (rootPortName b.core mstid status.rootPortId))

def ctlGetCistPortStatus (brIndex portIndex : Int) : Handled :=
  checkBridgePort s brIndex portIndex fun b p =>
    some (s, 0, .cistPortStatus (mstpInGetCistPortStatus b.core p))

def ctlGetMstiPortStatus (brIndex portIndex : Int) (mstid : Mstid) : Handled :=
  checkBridgePertreeport s brIndex portIndex mstid fun b p =>
    some (s, 0, .mstiPortStatus (mstpInGetMstiPortStatus b.core p mstid))

def ctlGetMstilist (brIndex : Int) : Handled :=
  checkBridge s brIndex fun b => some (s, 0, .mstilist (mstpInGetMstilist b.core))

def ctlGetMstconfid (brIndex : Int) : Handled :=
  checkBridge s brIndex fun b => some (s, 0, .mstconfid b.core.mstConfigId)

def ctlGetVids2fids (brIndex : Int) : Handled :=
  checkBridge s brIndex fun b =>
    some (s, 0, .table ((List.range (maxVid + 1)).map b.core.vid2fid))

def ctlGetFids2mstids (brIndex : Int) : Handled :=
  checkBridge s brIndex fun b =>
    some (s, 0, .table ((List.range (maxFid + 1)).map b.core.fid2mstid))

def ctlSetDebugLevel (level : Int) : Handled := some ({ s with logLevel := level }, 0, .empty)

def ctlCreateMsti (brIndex : Int) (mstid : Mstid) : Handled :=
  checkBridge s brIndex fun b =>
    if o.driverCreateMsti brIndex mstid then callCore o s (.createMsti mstid) b
    else some (s, -1, .empty)

def ctlDeleteMsti (brIndex : Int) (mstid : Mstid) : Handled :=
  checkBridge s brIndex fun b =>
    if o.driverDeleteMsti brIndex mstid then callCore o s (.deleteMsti mstid) b
    else some (s, -1, .empty)

/-- The call of a command with its arguments from the input structure. -/
def ctlCall (cmd : Int) (input : List UInt8) : Handled :=
  let brIndex := intAt input 0
  match cmd with
  | 101 => ctlGetCistBridgeStatus s brIndex
  | 102 => ctlGetMstiBridgeStatus s brIndex (u16At input 4)
  | 103 => checkBridge s brIndex (callCore o s (.setCistBridgeConfig (cistBridgeConfigAt input 4)))
  | 104 =>
    let mstid := u16At input 4
    checkBridgeTree s brIndex mstid (callCore o s (.setMstiBridgeConfig mstid (u8At input 6)))
  | 105 => ctlGetCistPortStatus s brIndex (intAt input 4)
  | 106 => ctlGetMstiPortStatus s brIndex (intAt input 4) (u16At input 8)
  | 107 => checkBridgePort s brIndex (intAt input 4) fun b p =>
      callCore o s (.setCistPortConfig p (cistPortConfigAt input 8)) b
  | 108 =>
    let mstid := u16At input 8
    checkBridgePertreeport s brIndex (intAt input 4) mstid fun b p =>
      callCore o s (.setMstiPortConfig p mstid (mstiPortConfigAt input 12)) b
  | 109 => checkBridgePort s brIndex (intAt input 4) fun b p => callCore o s (.portMcheck p) b
  | 110 => ctlSetDebugLevel s brIndex
  | 111 => ctlGetMstilist s brIndex
  | 112 => ctlCreateMsti o s brIndex (u16At input 4)
  | 113 => ctlDeleteMsti o s brIndex (u16At input 4)
  | 114 => ctlGetMstconfid s brIndex
  | 115 =>
    let name (i : Nat) := u8At input (6 + i)
    checkBridge s brIndex (callCore o s (.setMstConfigId (u16At input 4) name))
  | 116 => ctlGetVids2fids s brIndex
  | 117 => ctlGetFids2mstids s brIndex
  | 118 => checkBridge s brIndex (callCore o s (.setVid2fid (u16At input 4) (u16At input 6)))
  | 119 => checkBridge s brIndex (callCore o s (.setFid2mstid (u16At input 4) (u16At input 6)))
  | 120 =>
    let vids2fids (vid : Nat) := u16At input (4 + 2 * vid)
    checkBridge s brIndex (callCore o s (.setAllVids2fids vids2fids))
  | 121 =>
    let fids2mstids (fid : Nat) := u16At input (4 + 2 * fid)
    checkBridge s brIndex (callCore o s (.setAllFids2mstids fids2mstids))
  | _ => some (s, -1, .empty)

/-- The entries of `br_array` behind its count. -/
def brArrayAt (inbuf : List UInt8) : List Int :=
  (List.range (intAt inbuf 0).toNat).map fun i => intAt inbuf (sizeofInt * (i + 1))

/-- The two commands on bridges; `sizeOk` is the comparison in which they differ. -/
def bridgesCommand (sizeOk : Int → Int → Bool)
    (control : List Int → Daemon → Option (Daemon × Int)) (inbuf : List UInt8) (lin lout : Int) :
    Handled :=
  if lout ≠ 0 ∨ toSizeT lin < sizeofInt ∨ !sizeOk (toSizeT lin) (brArraySize (intAt inbuf 0)) then
    some (s, -1, .empty)
  else
    (control (brArrayAt inbuf) s.bridges).map fun r => ({ s with bridges := r.1 }, r.2, .empty)

/-- `handle_message`. -/
def handleMessage (cmd : Int) (inbuf : List UInt8) (lin lout : Int) : Handled :=
  match messageCases.find? (fun c => c.code == cmd) with
  | some c =>
    if (c.input.size : Int) ≠ toSizeT lin ∨ (c.output.size : Int) ≠ toSizeT lout then
      some (s, -1, .empty)
    else ctlCall o s cmd (inbuf.take lin.toNat)
  | none =>
    if cmd = cmdCodeAddBridges then
      bridgesCommand s (fun l n => decide (n ≤ l)) (ctlAddBridges o) inbuf lin lout
    else if cmd = cmdCodeDelBridges then
      bridgesCommand s (fun l n => decide (n = l)) (ctlDelBridges o) inbuf lin lout
    else some (s, -1, .empty)

/-- The handling of a message before its response is sent. -/
def handleFirst (d : Datagram) : Handled :=
  if ctlAccessOk (d.uid.getD 0) d.cmd then
    if laterCommand d.cmd then some (s, 0, .empty)
    else handleMessage o s d.cmd d.inbuf d.lin d.lout
  else some (s, -1, .empty)

/-- `ctl_rcv_handler`, with the result and the output of the response, if one is sent. -/
def ctlRcvHandler (d : Datagram) : Option (ServerState × Option (Int × Reply)) :=
  if d.ignored then some (s, none)
  else
    (handleFirst o s d).bind fun r =>
      if r.2.1 = 0 ∧ laterCommand d.cmd = true then
        (handleMessage o r.1 d.cmd d.inbuf d.lin d.lout).map fun later => (later.1, some r.2)
      else some (r.1, some r.2)

end Commands

/-! ## What others than root can do -/

/-- The state is left as it is. -/
def ReadOnly (s : ServerState) (h : Handled) : Prop := ∃ r, h = some (s, r)

section ReadOnly

variable {o : Outside} {s : ServerState}

theorem readOnly_answer (s : ServerState) (r : Int × Reply) : ReadOnly s (some (s, r)) := ⟨r, rfl⟩

theorem checkBridge_readOnly {brIndex : Int} {act : TrackedBridge → Handled}
    (hact : ∀ b, ReadOnly s (act b)) : ReadOnly s (checkBridge s brIndex act) := by
  rw [checkBridge]
  split
  · exact readOnly_answer s _
  · exact hact _

theorem checkBridgePort_readOnly {brIndex portIndex : Int}
    {act : TrackedBridge → PortRef → Handled} (hact : ∀ b p, ReadOnly s (act b p)) :
    ReadOnly s (checkBridgePort s brIndex portIndex act) := by
  refine checkBridge_readOnly fun b => ?_
  split
  · exact readOnly_answer s _
  · exact hact b _

theorem checkBridgeTree_readOnly {brIndex : Int} {mstid : Mstid} {act : TrackedBridge → Handled}
    (hact : ∀ b, ReadOnly s (act b)) : ReadOnly s (checkBridgeTree s brIndex mstid act) := by
  refine checkBridge_readOnly fun b => ?_
  split
  · exact hact b
  · exact readOnly_answer s _

theorem checkBridgePertreeport_readOnly {brIndex portIndex : Int} {mstid : Mstid}
    {act : TrackedBridge → PortRef → Handled} (hact : ∀ b p, ReadOnly s (act b p)) :
    ReadOnly s (checkBridgePertreeport s brIndex portIndex mstid act) := by
  refine checkBridgePort_readOnly fun b p => ?_
  split
  · exact hact b p
  · exact readOnly_answer s _

theorem mem_of_open {cmd : Int} (hopen : ctlAccessOk 1 cmd = true) :
    cmd ∈ ([101, 102, 105, 106, 111, 114, 116, 117] : List Int) := by
  rw [ctlAccessOk] at hopen
  split at hopen
  · assumption
  · cases hopen

/-- The commands that are open to everybody write nothing. -/
theorem ctlCall_readOnly {cmd : Int} (hopen : ctlAccessOk 1 cmd = true) (input : List UInt8) :
    ReadOnly s (ctlCall o s cmd input) := by
  have hlist := mem_of_open hopen
  simp only [List.mem_cons, List.not_mem_nil, or_false] at hlist
  rcases hlist with rfl | rfl | rfl | rfl | rfl | rfl | rfl | rfl
  · exact checkBridge_readOnly fun b => readOnly_answer s _
  · exact checkBridgeTree_readOnly fun b => readOnly_answer s _
  · exact checkBridgePort_readOnly fun b p => readOnly_answer s _
  · exact checkBridgePertreeport_readOnly fun b p => readOnly_answer s _
  · exact checkBridge_readOnly fun b => readOnly_answer s _
  · exact checkBridge_readOnly fun b => readOnly_answer s _
  · exact checkBridge_readOnly fun b => readOnly_answer s _
  · exact checkBridge_readOnly fun b => readOnly_answer s _

theorem ctlAccessOk_user {uid : Nat} (hroot : uid ≠ 0) (cmd : Int) :
    ctlAccessOk uid cmd = ctlAccessOk 1 cmd := by
  have huid : (uid == 0) = false := beq_eq_false_iff_ne.mpr hroot
  rw [ctlAccessOk, ctlAccessOk, huid]
  rfl

/-- A command that is open to everybody is none of those that control bridges. -/
theorem open_command {cmd : Int} (hopen : ctlAccessOk 1 cmd = true) :
    cmd ≠ cmdCodeAddBridges ∧ cmd ≠ cmdCodeDelBridges ∧ laterCommand cmd = false := by
  have hall : ∀ c ∈ ([101, 102, 105, 106, 111, 114, 116, 117] : List Int),
      c ≠ cmdCodeAddBridges ∧ c ≠ cmdCodeDelBridges ∧ laterCommand c = false := by decide
  exact hall cmd (mem_of_open hopen)

theorem handleMessage_readOnly {cmd : Int} (hopen : ctlAccessOk 1 cmd = true)
    (inbuf : List UInt8) (lin lout : Int) : ReadOnly s (handleMessage o s cmd inbuf lin lout) := by
  obtain ⟨hadd, hdel, -⟩ := open_command hopen
  rw [handleMessage]
  split
  · split
    · exact readOnly_answer s _
    · exact ctlCall_readOnly hopen _
  · rw [if_neg hadd, if_neg hdel]
    exact readOnly_answer s _

/-- Whatever a sender other than root puts into a datagram, the daemon is the same after
it has been handled: its bridges with all they contain and have told the kernel, and the
log level. -/
theorem user_changes_nothing (o : Outside) (s : ServerState) {d : Datagram} {uid : Nat}
    (huid : d.uid = some uid) (hroot : uid ≠ 0) :
    ∃ response, ctlRcvHandler o s d = some (s, response) := by
  rw [ctlRcvHandler]
  split
  · exact ⟨none, rfl⟩
  · rw [handleFirst, huid, Option.getD_some, ctlAccessOk_user hroot]
    by_cases hopen : ctlAccessOk 1 d.cmd = true
    · -- an open command is handled at once, and not again after the response
      obtain ⟨-, -, hfirst⟩ := open_command hopen
      obtain ⟨r, hr⟩ := handleMessage_readOnly (o := o) (s := s) hopen d.inbuf d.lin d.lout
      refine ⟨some r, ?_⟩
      simp [hopen, hfirst, hr]
    · -- any other one is refused, and a refusal is not followed up
      refine ⟨some (-1, .empty), ?_⟩
      simp [hopen]

/-- `set_debug_level` with level 4. -/
def setDebugLevel (uid : Nat) : Datagram where
  bytes := [110, 0, 0, 0, 4, 0, 0, 0, 0, 0, 0, 0, 0, 0, 0, 0, 0, 0, 0, 0, 4, 0, 0, 0]
  flags := false
  uid := some uid

/-- What root can change, and another user cannot. -/
theorem user_keeps_log_level :
    (∃ response, ctlRcvHandler sampleOutside ⟨[], 2⟩ (setDebugLevel 1000) =
      some (⟨[], 2⟩, response)) ∧
    (ctlRcvHandler sampleOutside ⟨[], 2⟩ (setDebugLevel 0)).any (fun r => r.1.logLevel == 4) :=
  ⟨user_changes_nothing sampleOutside ⟨[], 2⟩ rfl (by decide), by decide +kernel⟩

end ReadOnly

end Mstpd.CtlServer
