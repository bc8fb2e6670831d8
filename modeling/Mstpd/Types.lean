import Mathlib.Tactic.Common

/-!
# Data model of the spanning tree core

The records of `mstp.h`. Multi-byte protocol fields are held as numbers: the
source stores them in network byte order and compares them with `memcmp`, which
is the order of the numbers. The pointer mesh of bridge, trees and ports is two
ordered lists of handles with one total map for each kind of object; a per-tree
port is addressed by its port and its MSTID.
-/

namespace Mstpd

/-- `bridge_identifier_t`: priority with system identifier, then the address. -/
structure BridgeIdentifier where
  priority : UInt16
  macAddress : BitVec 48
  deriving DecidableEq, Inhabited

/-- The eight octets read as one big endian number, as `memcmp` orders them. -/
def BridgeIdentifier.u (b : BridgeIdentifier) : Nat :=
  b.priority.toNat * 0x1000000000000 + b.macAddress.toNat

theorem BridgeIdentifier.u_inj {a b : BridgeIdentifier} : a.u = b.u ↔ a = b := by
  constructor
  · intro h
    have ha := a.macAddress.isLt
    have hb := b.macAddress.isLt
    simp only [u] at h
    have hp : a.priority.toNat = b.priority.toNat := by omega
    have hm : a.macAddress.toNat = b.macAddress.toNat := by omega
    cases a
    cases b
    simp only [BridgeIdentifier.mk.injEq]
    exact ⟨UInt16.toNat_inj.mp hp, BitVec.eq_of_toNat_eq hm⟩
  · exact congrArg BridgeIdentifier.u

/-- `GET_PRIORITY_FROM_IDENTIFIER`: the high nibble of the first octet. -/
def getPriorityFromIdentifier (id : UInt16) : UInt8 := (id >>> 8).toUInt8 &&& (0xF0 : UInt8)

/-- `SET_PRIORITY_IN_IDENTIFIER`. -/
def setPriorityInIdentifier (pri : UInt8) (id : UInt16) : UInt16 :=
  (id &&& (0x0FFF : UInt16)) ||| ((pri &&& (0xF0 : UInt8)).toUInt16 <<< 8)

/-- `mst_configuration_identifier_t`. -/
structure MstConfigurationIdentifier where
  selector : UInt8
  configurationName : List UInt8
  revisionLevel : UInt16
  configurationDigest : List UInt8
  deriving DecidableEq, Inhabited

def be16 (n : UInt16) : List UInt8 := [(n >>> 8).toUInt8, n.toUInt8]

/-- The octet view `a` of the union. -/
def MstConfigurationIdentifier.a (c : MstConfigurationIdentifier) : List UInt8 :=
  c.selector :: (c.configurationName ++ be16 c.revisionLevel ++ c.configurationDigest)

structure PortPriorityVector where
  rRootID : BridgeIdentifier
  intRootPathCost : UInt32
  designatedBridgeID : BridgeIdentifier
  designatedPortID : UInt16
  rootID : BridgeIdentifier
  extRootPathCost : UInt32
  deriving DecidableEq, Inhabited

structure Times where
  remainingHops : UInt8
  forwardDelay : UInt8
  maxAge : UInt8
  messageAge : UInt8
  helloTime : UInt8
  deriving DecidableEq, Inhabited

/-- `port_info_t`; the zero value of the C enumeration comes first. -/
inductive PortInfo
  | otherInfo | superiorDesignatedInfo | repeatedDesignatedInfo
  | inferiorDesignatedInfo | inferiorRootAlternateInfo
  deriving DecidableEq, Inhabited

inductive InfoOrigin
  | disabled | mine | aged | received
  deriving DecidableEq, Inhabited

inductive Role
  | disabled | root | designated | alternate | backup | master
  deriving DecidableEq, Inhabited

inductive ProtocolVersion
  | stp | rstp | mstp
  deriving DecidableEq, Inhabited

inductive AdminP2P
  | auto | forceTrue | forceFalse
  deriving DecidableEq, Inhabited

inductive PrsmState
  | discard | receive
  deriving DecidableEq, Inhabited

inductive PpmsmState
  | checkingRstp | selectingStp | sensing
  deriving DecidableEq, Inhabited

inductive BdsmState
  | edge | notEdge
  deriving DecidableEq, Inhabited

inductive PtsmState
  | transmitInit | transmitConfig | transmitTcn | transmitRstp | transmitPeriodic | idle
  deriving DecidableEq, Inhabited

inductive PismState
  | disabled | aged | update | superiorDesignated | repeatedDesignated
  | inferiorDesignated | notDesignated | other | current | receive
  deriving DecidableEq, Inhabited

inductive PrssmState
  | initTree | roleSelection
  deriving DecidableEq, Inhabited

inductive PrtsmState
  | initPort | disablePort | disabledPort
  | masterProposed | masterAgreed | masterSynced | masterRetired
  | masterForward | masterLearn | masterDiscard | masterPort
  | rootProposed | rootAgreed | rootSynced | reroot
  | rootForward | rootLearn | rerooted | rootPort
  | designatedPropose | designatedAgreed | designatedSynced | designatedRetired
  | designatedForward | designatedLearn | designatedDiscard | designatedPort
  | blockPort | backupPort | alternateProposed | alternateAgreed | alternatePort
  deriving DecidableEq, Inhabited

inductive PstsmState
  | discarding | learning | forwarding
  deriving DecidableEq, Inhabited

inductive TcsmState
  | inactive | learning | detected | notifiedTcn | notifiedTc
  | propagating | acknowledged | active
  deriving DecidableEq, Inhabited

/-- `BR_STATE_xxx`, the kernel's view of a port. -/
inductive BrState
  | disabled | listening | learning | forwarding | blocking
  deriving DecidableEq, Inhabited

/-- Memory behind a `bpdu_t *`: the octet at each offset. -/
abbrev Mem := Nat → UInt8

/-- `msti_configuration_message_t`. -/
structure MstiMessage where
  flags : UInt8
  mstiRRootID : BridgeIdentifier
  mstiIntRootPathCost : UInt32
  bridgeIdentifierPriority : UInt8
  portIdentifierPriority : UInt8
  remainingHops : UInt8
  deriving DecidableEq, Inhabited

/-- `bpdu_t` with its packed members decoded. -/
structure Bpdu where
  protocolIdentifier : UInt16
  protocolVersion : UInt8
  bpduType : UInt8
  flags : UInt8
  cistRootID : BridgeIdentifier
  cistExtRootPathCost : UInt32
  cistRRootID : BridgeIdentifier
  cistPortID : UInt16
  messageAge : UInt8 × UInt8
  maxAge : UInt8 × UInt8
  helloTime : UInt8 × UInt8
  forwardDelay : UInt8 × UInt8
  version1Len : UInt8
  version3Len : UInt16
  mstConfigurationIdentifier : List UInt8
  cistIntRootPathCost : UInt32
  cistBridgeID : BridgeIdentifier
  cistRemainingHops : UInt8
  mstConfiguration : Nat → MstiMessage
  deriving Inhabited

namespace Mem

def u16 (m : Mem) (o : Nat) : UInt16 := (m o).toUInt16 <<< 8 ||| (m (o + 1)).toUInt16

def u32 (m : Mem) (o : Nat) : UInt32 :=
  (m.u16 o).toUInt32 <<< 16 ||| (m.u16 (o + 2)).toUInt32

def mac (m : Mem) (o : Nat) : BitVec 48 :=
  (m.u16 o).toBitVec ++ (m.u16 (o + 2)).toBitVec ++ (m.u16 (o + 4)).toBitVec

def bridgeId (m : Mem) (o : Nat) : BridgeIdentifier := ⟨m.u16 o, m.mac (o + 2)⟩

/-- The sixteen octets of one MSTI configuration message. -/
def mstiMessage (m : Mem) (o : Nat) : MstiMessage where
  flags := m o
  mstiRRootID := m.bridgeId (o + 1)
  mstiIntRootPathCost := m.u32 (o + 9)
  bridgeIdentifierPriority := m (o + 13)
  portIdentifierPriority := m (o + 14)
  remainingHops := m (o + 15)

/-- The members of `bpdu_t` at their packed offsets. -/
def bpdu (m : Mem) : Bpdu where
  protocolIdentifier := m.u16 0
  protocolVersion := m 2
  bpduType := m 3
  flags := m 4
  cistRootID := m.bridgeId 5
  cistExtRootPathCost := m.u32 13
  cistRRootID := m.bridgeId 17
  cistPortID := m.u16 25
  messageAge := (m 27, m 28)
  maxAge := (m 29, m 30)
  helloTime := (m 31, m 32)
  forwardDelay := (m 33, m 34)
  version1Len := m 35
  version3Len := m.u16 36
  mstConfigurationIdentifier := (List.range 51).map fun i => m (38 + i)
  cistIntRootPathCost := m.u32 89
  cistBridgeID := m.bridgeId 93
  cistRemainingHops := m 101
  mstConfiguration := fun i => m.mstiMessage (102 + 16 * i)

end Mem

def tcnBpduSize : Nat := 4
def configBpduSize : Nat := 35
def rstBpduSize : Nat := 36
def mstBpduSizeWoMstiMsgs : Nat := 102
def mstBpduVer3LenWoMstiMsgs : Nat := 64
def mstiMessageSize : Nat := 16
def maxStandardMstis : Nat := 64

def bpduTypeConfig : UInt8 := 0
def bpduTypeRst : UInt8 := 2
def bpduTypeTcn : UInt8 := 128
def protoSTP : UInt8 := 0
def protoRSTP : UInt8 := 2
def protoMSTP : UInt8 := 3

def encodedRoleMaster : UInt8 := 0
def encodedRoleAlternateBackup : UInt8 := 1
def encodedRoleRoot : UInt8 := 2
def encodedRoleDesignated : UInt8 := 3

/-- Bits of `bpduFlagOffset_t`. -/
def tcBit : UInt8 := 0x01
def proposalBit : UInt8 := 0x02
def learningBit : UInt8 := 0x10
def forwardingBit : UInt8 := 0x20
def agreementBit : UInt8 := 0x40
def tcAckBit : UInt8 := 0x80
def masterBit : UInt8 := 0x80

def hasFlag (flags bit : UInt8) : Bool := flags &&& bit != 0

def bpduFlagsRoleGet (flags : UInt8) : UInt8 := (flags >>> 2) &&& 3

def bpduFlagsRoleSet (role : UInt8) : UInt8 := (role &&& 3) <<< 2

def maxPortNumber : Nat := 4095
def maxVid : Nat := 4094
def maxFid : Nat := 4095
def maxMstid : Nat := 4094
def maxImplementationMstis : Nat := 63
def maxPathCost : UInt32 := 200000000

/-- A `port_t *`. -/
abbrev PortRef := Nat

/-- An MSTID; zero is the CIST. -/
abbrev Mstid := UInt16

/-- Calls of the `MSTP_OUT_` functions. -/
inductive MstpOut
  | setState (p : PortRef) (t : Mstid) (s : BrState)
  | flushAllFids (p : PortRef) (t : Mstid)
  | setAgeingTime (p : PortRef) (ageingTime : Nat)
  | txBpdu (p : PortRef) (b : Bpdu) (size : Nat)
  | shutdownPort (p : PortRef)

/-- `port_t` without its anchors. -/
structure Port where
  portNumber : UInt16 := 0
  mdelayWhile : Nat := 0
  helloWhen : Nat := 0
  edgeDelayWhile : Nat := 0
  txCount : Nat := 0
  operEdge : Bool := false
  portEnabled : Bool := false
  infoInternal : Bool := false
  rcvdInternal : Bool := false
  mcheck : Bool := false
  rcvdBpdu : Bool := false
  rcvdRSTP : Bool := false
  rcvdSTP : Bool := false
  rcvdTcAck : Bool := false
  rcvdTcn : Bool := false
  sendRSTP : Bool := false
  tcAck : Bool := false
  newInfo : Bool := false
  newInfoMsti : Bool := false
  operPointToPointMAC : Bool := false
  restrictedRole : Bool := false
  restrictedTcn : Bool := false
  externalPortPathCost : UInt32 := 0
  adminExternalPortPathCost : UInt32 := 0
  adminP2P : AdminP2P := .auto
  adminEdgePort : Bool := false
  autoEdge : Bool := false
  bpduGuardPort : Bool := false
  bpduGuardError : Bool := false
  networkPort : Bool := false
  baInconsistent : Bool := false
  dontTxmtBpdu : Bool := false
  bpduFilterPort : Bool := false
  rapidAgeingWhile : Nat := 0
  brAssuRcvdInfoWhile : Nat := 0
  prsmState : PrsmState := .discard
  ppmsmState : PpmsmState := .checkingRstp
  bdsmState : BdsmState := .edge
  ptsmState : PtsmState := .transmitInit
  rcvdBpduData : Mem := fun _ => 0
  rcvdBpduNumOfMstis : Nat := 0
  deleted : Bool := false
  speed : Int := 0
  duplex : Int := 0
  name : String := ""
  numRxBpduFiltered : Nat := 0
  numRxBpdu : Nat := 0
  numRxTcn : Nat := 0
  numTxBpdu : Nat := 0
  numTxTcn : Nat := 0
  numTransFwd : Nat := 0
  numTransBlk : Nat := 0
  deriving Inhabited

instance : Zero PortPriorityVector := ⟨⟨⟨0, 0⟩, 0, ⟨0, 0⟩, 0, ⟨0, 0⟩, 0⟩⟩

instance : Zero Times := ⟨⟨0, 0, 0, 0, 0⟩⟩

/-- `per_tree_port_t` without its anchors. The pointer `rcvdMstiConfig` into
`rcvdBpduData.mstConfiguration` is the index it points to. -/
structure PerTreePort where
  state : BrState := .disabled
  fdWhile : Nat := 0
  rrWhile : Nat := 0
  rbWhile : Nat := 0
  tcWhile : Nat := 0
  rcvdInfoWhile : Nat := 0
  agree : Bool := false
  agreed : Bool := false
  disputed : Bool := false
  forward : Bool := false
  forwarding : Bool := false
  learn : Bool := false
  learning : Bool := false
  rcvdInfo : PortInfo := .otherInfo
  infoIs : InfoOrigin := .disabled
  proposed : Bool := false
  proposing : Bool := false
  rcvdMsg : Bool := false
  rcvdTc : Bool := false
  reRoot : Bool := false
  reselect : Bool := false
  selected : Bool := false
  fdbFlush : Bool := false
  tcProp : Bool := false
  updtInfo : Bool := false
  sync : Bool := false
  synced : Bool := false
  portId : UInt16 := 0
  role : Role := .disabled
  selectedRole : Role := .disabled
  designatedPriority : PortPriorityVector := 0
  msgPriority : PortPriorityVector := 0
  portPriority : PortPriorityVector := 0
  designatedTimes : Times := 0
  msgTimes : Times := 0
  portTimes : Times := 0
  master : Bool := false
  mastered : Bool := false
  internalPortPathCost : UInt32 := 0
  adminInternalPortPathCost : UInt32 := 0
  startTime : Nat := 0
  pismState : PismState := .disabled
  prtsmState : PrtsmState := .initPort
  pstsmState : PstsmState := .discarding
  tcsmState : TcsmState := .inactive
  calledFromFlushRoutine : Bool := false
  rcvdMstiConfig : Nat := 0
  deriving Inhabited

/-- `tree_t` without its anchors. -/
structure Tree where
  bridgeIdentifier : BridgeIdentifier := ⟨0, 0⟩
  rootPortId : UInt16 := 0
  rootPriority : PortPriorityVector := 0
  bridgePriority : PortPriorityVector := 0
  bridgeTimes : Times := 0
  rootTimes : Times := 0
  timeSinceTopologyChange : Nat := 0
  topologyChangeCount : Nat := 0
  topologyChange : Bool := false
  topologyChangePort : String := ""
  lastTopologyChangePort : String := ""
  prssmState : PrssmState := .initTree
  deriving Inhabited

/-- `bridge_t` together with the objects it owns and the calls it has made. -/
structure Bridge where
  ports : List PortRef := []
  trees : List Mstid := []
  bridgeEnabled : Bool := false
  mstConfigId : MstConfigurationIdentifier := ⟨0, [], 0, []⟩
  forceProtocolVersion : ProtocolVersion := .stp
  maxHops : UInt8 := 0
  forwardDelay : UInt8 := 0
  maxAge : UInt8 := 0
  helloTime : UInt8 := 0
  transmitHoldCount : Nat := 0
  migrateTime : Nat := 0
  ageingTime : Nat := 0
  vid2fid : Nat → UInt16 := fun _ => 0
  fid2mstid : Nat → UInt16 := fun _ => 0
  uptime : Nat := 0
  /-- The driver signals flush completion later instead of inside the call. -/
  flushesLater : Bool := false
  tree : Mstid → Tree := fun _ => {}
  port : PortRef → Port := fun _ => {}
  ptp : PortRef → Mstid → PerTreePort := fun _ _ => {}
  /-- Calls of the `MSTP_OUT_` functions, the latest first. -/
  out : List MstpOut := []
  deriving Inhabited

end Mstpd
