import Mstpd.Machine
import Mstpd.Roles

/-!
# The nine state machines

For each machine: the entry actions `xxxTo…`, the transition that the `switch` of
its run function takes in the current state, what the dry run reports, and the run
itself. In the source the entry functions call the run function again; that tail
recursion is `Machine.run`. Entry functions that skip it, with the remark that no
condition will be met, end the run.
-/

namespace Mstpd

open Bridge

/-! ## 13.28 Port Receive -/

def prsmToDiscard (p : PortRef) (br : Bridge) : Bridge :=
  let migrateTime := br.migrateTime
  clearAllRcvdMsgs p <| br.setPort p fun prt =>
    { prt with
      prsmState := .discard, rcvdBpdu := false, rcvdRSTP := false, rcvdSTP := false
      edgeDelayWhile := migrateTime }

def prsmToReceive (p : PortRef) (br : Bridge) : Bridge :=
  let br := updtBPDUVersion p <| br.setPort p fun prt => { prt with prsmState := .receive }
  let internal := fromSameRegion br p
  let br := setRcvdMsgs p <| br.setPort p fun prt => { prt with rcvdInternal := internal }
  let migrateTime := br.migrateTime
  br.setPort p fun prt =>
    { prt with operEdge := false, rcvdBpdu := false, edgeDelayWhile := migrateTime }

def rcvdAnyMsg (br : Bridge) (p : PortRef) : Bool := br.trees.any fun s => (br.ptp p s).rcvdMsg

/-- The state that `PRSM_run` enters. -/
def prsmNext (br : Bridge) (p : PortRef) : Option PrsmState :=
  let prt := br.port p
  if (prt.rcvdBpdu || prt.edgeDelayWhile != br.migrateTime) && !prt.portEnabled then
    some .discard
  else
    match prt.prsmState with
    | .discard => if prt.rcvdBpdu && prt.portEnabled then some .receive else none
    | .receive =>
      if prt.rcvdBpdu && prt.portEnabled && !rcvdAnyMsg br p then some .receive else none

def prsmTo (p : PortRef) : PrsmState → Bridge → Bridge
  | .discard => prsmToDiscard p
  | .receive => prsmToReceive p

def prsmDry (br : Bridge) (p : PortRef) : Bool :=
  let prt := br.port p
  match prsmNext br p with
  | none => false
  | some .receive => true
  | some .discard =>
    prt.prsmState != .discard || prt.rcvdBpdu || prt.rcvdRSTP || prt.rcvdSTP ||
      prt.edgeDelayWhile != br.migrateTime || rcvdAnyMsg br p

def prsmRun (p : PortRef) (br : Bridge) : Bridge :=
  match prsmNext br p with
  | none => br
  | some s => prsmTo p s br

/-! ## 13.29 Port Protocol Migration -/

def ppmsmToCheckingRstp (p : PortRef) (br : Bridge) : Bridge :=
  br.setPort p fun prt =>
    { prt with
      ppmsmState := .checkingRstp, mcheck := false, sendRSTP := br.rstpVersion
      mdelayWhile := br.migrateTime }

def ppmsmToSelectingStp (p : PortRef) (br : Bridge) : Bridge :=
  br.setPort p fun prt =>
    { prt with ppmsmState := .selectingStp, sendRSTP := false, mdelayWhile := br.migrateTime }

def ppmsmToSensing (p : PortRef) (br : Bridge) : Bridge :=
  br.setPort p fun prt =>
    { prt with ppmsmState := .sensing, rcvdRSTP := false, rcvdSTP := false }

def ppmsmNext (br : Bridge) (p : PortRef) : Option PpmsmState :=
  let prt := br.port p
  match prt.ppmsmState with
  | .checkingRstp =>
    if prt.mdelayWhile != br.migrateTime && !prt.portEnabled then some .checkingRstp
    else if prt.mdelayWhile == 0 then some .sensing
    else none
  | .selectingStp =>
    if prt.mdelayWhile == 0 || !prt.portEnabled || prt.mcheck then some .sensing else none
  | .sensing =>
    if !prt.portEnabled || prt.mcheck || (br.rstpVersion && !prt.sendRSTP && prt.rcvdRSTP) then
      some .checkingRstp
    else if prt.sendRSTP && prt.rcvdSTP then some .selectingStp
    else none

def ppmsmTo (p : PortRef) : PpmsmState → Bridge → Bridge
  | .checkingRstp => ppmsmToCheckingRstp p
  | .selectingStp => ppmsmToSelectingStp p
  | .sensing => ppmsmToSensing p

def ppmsmStep (p : PortRef) (br : Bridge) : Option (Bridge × Bool) :=
  (ppmsmNext br p).map fun s => (ppmsmTo p s br, s != .checkingRstp)

def ppmsmDry (br : Bridge) (p : PortRef) : Bool := (ppmsmNext br p).isSome

/-! ## 13.30 Bridge Detection -/

def bdsmTo (p : PortRef) : BdsmState → Bridge → Bridge
  | .edge => fun br => br.setPort p fun prt => { prt with bdsmState := .edge, operEdge := true }
  | .notEdge => fun br =>
      br.setPort p fun prt => { prt with bdsmState := .notEdge, operEdge := false }

def bdsmBegin (p : PortRef) (br : Bridge) : Bridge :=
  bdsmTo p (if (br.port p).adminEdgePort then .edge else .notEdge) br

def bdsmNext (br : Bridge) (p : PortRef) : Option BdsmState :=
  let prt := br.port p
  match prt.bdsmState with
  | .edge =>
    if ((!prt.portEnabled || !prt.autoEdge) && !prt.adminEdgePort) || !prt.operEdge then
      some .notEdge
    else none
  | .notEdge =>
    if (!prt.portEnabled && prt.adminEdgePort) ||
        (prt.edgeDelayWhile == 0 && prt.autoEdge && prt.sendRSTP && (br.cist p).proposing) then
      some .edge
    else none

def bdsmDry (br : Bridge) (p : PortRef) : Bool := (bdsmNext br p).isSome

def bdsmRun (p : PortRef) (br : Bridge) : Bridge :=
  match bdsmNext br p with
  | none => br
  | some s => bdsmTo p s br

/-! ## 13.31 Port Transmit -/

def ptsmToTransmitInit (p : PortRef) (br : Bridge) : Bridge :=
  br.setPort p fun prt =>
    { prt with ptsmState := .transmitInit, newInfo := true, newInfoMsti := true, txCount := 0 }

def ptsmToTransmitConfig (p : PortRef) (br : Bridge) : Bridge :=
  let br := br.setPort p fun prt => { prt with ptsmState := .transmitConfig, newInfo := false }
  (txConfig p br).setPort p fun prt => { prt with txCount := prt.txCount + 1, tcAck := false }

def ptsmToTransmitTcn (p : PortRef) (br : Bridge) : Bridge :=
  let br := br.setPort p fun prt => { prt with ptsmState := .transmitTcn, newInfo := false }
  (txTcn p br).setPort p fun prt => { prt with txCount := prt.txCount + 1 }

def ptsmToTransmitRstp (p : PortRef) (br : Bridge) : Bridge :=
  let br := br.setPort p fun prt =>
    { prt with ptsmState := .transmitRstp, newInfo := false, newInfoMsti := false }
  (txMstp p br).setPort p fun prt => { prt with txCount := prt.txCount + 1, tcAck := false }

/-- Designated, or a root port that propagates a topology change. -/
def keepsTalking (ptp : PerTreePort) : Bool :=
  ptp.role == .designated || (ptp.role == .root && ptp.tcWhile != 0)

def ptsmToTransmitPeriodic (p : PortRef) (br : Bridge) : Bridge :=
  let cist := keepsTalking (br.cist p)
  let msti := br.trees.tail.any fun s => keepsTalking (br.ptp p s)
  br.setPort p fun prt =>
    { prt with
      ptsmState := .transmitPeriodic
      newInfo := prt.newInfo || cist, newInfoMsti := prt.newInfoMsti || msti }

def ptsmToIdle (p : PortRef) (br : Bridge) : Bridge :=
  let helloTime := (br.cist p).portTimes.helloTime.toNat
  br.setPort p fun prt => { prt with ptsmState := .idle, helloWhen := helloTime }

def allTransmitReady (br : Bridge) (p : PortRef) : Bool :=
  br.trees.all fun s => (br.ptp p s).selected && !(br.ptp p s).updtInfo

def mstiMasterPort (br : Bridge) (p : PortRef) : Bool :=
  br.trees.tail.any fun s => (br.ptp p s).role == .master

def ptsmNext (br : Bridge) (p : PortRef) : Option PtsmState :=
  let prt := br.port p
  if !prt.portEnabled then some .transmitInit
  else
    match prt.ptsmState with
    | .idle =>
      if !allTransmitReady br p then none
      else if prt.helloWhen == 0 then some .transmitPeriodic
      else if !decide (prt.txCount < br.transmitHoldCount) then none
      else if prt.bpduFilterPort then none
      else if prt.sendRSTP then
        if prt.newInfo || (prt.newInfoMsti && !mstiMasterPort br p) || br.assurancePort p then
          some .transmitRstp
        else none
      else if prt.newInfo && (br.cist p).role == .designated then some .transmitConfig
      else if prt.newInfo && (br.cist p).role == .root then some .transmitTcn
      else none
    | _ => some .idle

def ptsmTo (p : PortRef) : PtsmState → Bridge → Bridge
  | .transmitInit => ptsmToTransmitInit p
  | .transmitConfig => ptsmToTransmitConfig p
  | .transmitTcn => ptsmToTransmitTcn p
  | .transmitRstp => ptsmToTransmitRstp p
  | .transmitPeriodic => ptsmToTransmitPeriodic p
  | .idle => ptsmToIdle p

/-- `TRANSMIT_INIT` is entered from the run function only while the port is
disabled, and then does not call it again. -/
def ptsmStep (p : PortRef) (br : Bridge) : Option (Bridge × Bool) :=
  (ptsmNext br p).map fun s => (ptsmTo p s br, s != .transmitInit)

def ptsmDry (br : Bridge) (p : PortRef) : Bool :=
  let prt := br.port p
  match ptsmNext br p with
  | none => false
  | some .transmitInit =>
    prt.ptsmState != .transmitInit || !prt.newInfo || !prt.newInfoMsti || prt.txCount != 0
  | some _ => true

/-! ## 13.32 Port Information -/

def pismToDisabled (p : PortRef) (t : Mstid) (br : Bridge) : Bridge :=
  br.setPtp p t fun ptp =>
    { ptp with
      pismState := .disabled, rcvdMsg := false, proposing := false, proposed := false
      agree := false, agreed := false, rcvdInfoWhile := 0, infoIs := .disabled
      reselect := true, selected := false }

def pismToAged (p : PortRef) (t : Mstid) (br : Bridge) : Bridge :=
  br.setPtp p t fun ptp =>
    { ptp with pismState := .aged, infoIs := .aged, reselect := true, selected := false }

def pismToUpdate (p : PortRef) (t : Mstid) (br : Bridge) : Bridge :=
  setNewInfo p t <| br.setPtp p t fun ptp =>
    { ptp with
      pismState := .update, proposing := false, proposed := false
      agreed := ptp.agreed && betterorsameInfo ptp t .mine
      synced := ptp.synced && (ptp.agreed && betterorsameInfo ptp t .mine)
      portPriority := ptp.designatedPriority, portTimes := ptp.designatedTimes
      updtInfo := false, infoIs := .mine }

def pismToSuperiorDesignated (p : PortRef) (t : Mstid) (br : Bridge) : Bridge :=
  let br := br.setPort p fun prt => { prt with infoInternal := prt.rcvdInternal }
  let br := br.setPtp p t fun ptp =>
    { ptp with pismState := .superiorDesignated, agreed := false, proposing := false }
  let br := setTcFlags p t <| recordProposal p t br
  let br := br.setPtp p t fun ptp =>
    { ptp with agree := ptp.agree && betterorsameInfo ptp t .received }
  let br := recordAgreement p t br
  let br := br.setPtp p t fun ptp => { ptp with synced := ptp.synced && ptp.agreed }
  let br := updtRcvdInfoWhile p t <| recordTimes p t <| recordPriority p t br
  br.setPtp p t fun ptp =>
    { ptp with infoIs := .received, reselect := true, selected := false, rcvdMsg := false }

def pismToRepeatedDesignated (p : PortRef) (t : Mstid) (br : Bridge) : Bridge :=
  let br := br.setPort p fun prt => { prt with infoInternal := prt.rcvdInternal }
  let br := br.setPtp p t fun ptp => { ptp with pismState := .repeatedDesignated }
  let br := updtRcvdInfoWhile p t <| recordAgreement p t <| setTcFlags p t <| recordProposal p t br
  br.setPtp p t fun ptp => { ptp with rcvdMsg := false }

def pismToInferiorDesignated (p : PortRef) (t : Mstid) (br : Bridge) : Bridge :=
  (recordDispute p t br).setPtp p t fun ptp =>
    { ptp with pismState := .inferiorDesignated, rcvdMsg := false }

def pismToNotDesignated (p : PortRef) (t : Mstid) (br : Bridge) : Bridge :=
  (setTcFlags p t <| recordAgreement p t br).setPtp p t fun ptp =>
    { ptp with pismState := .notDesignated, rcvdMsg := false }

def pismToOther (p : PortRef) (t : Mstid) (br : Bridge) : Bridge :=
  br.setPtp p t fun ptp => { ptp with pismState := .other, rcvdMsg := false }

def pismToCurrent (p : PortRef) (t : Mstid) (br : Bridge) : Bridge :=
  br.setPtp p t fun ptp => { ptp with pismState := .current }

def pismToReceive (p : PortRef) (t : Mstid) (br : Bridge) : Bridge :=
  let info := rcvInfo p t br
  recordMastered p t <| info.2.setPtp p t fun ptp =>
    { ptp with pismState := .receive, rcvdInfo := info.1 }

/-- `rcvdXstMsg`. -/
def rcvdXstMsg (br : Bridge) (p : PortRef) (t : Mstid) : Bool :=
  if t = 0 then (br.ptp p t).rcvdMsg else !(br.cist p).rcvdMsg && (br.ptp p t).rcvdMsg

/-- `updtXstInfo`. -/
def updtXstInfo (br : Bridge) (p : PortRef) (t : Mstid) : Bool :=
  if t = 0 then (br.ptp p t).updtInfo else (br.ptp p t).updtInfo || (br.cist p).updtInfo

def pismNext (br : Bridge) (p : PortRef) (t : Mstid) : Option PismState :=
  let prt := br.port p
  let ptp := br.ptp p t
  if !prt.portEnabled && ptp.infoIs != .disabled then some .disabled
  else
    match ptp.pismState with
    | .disabled =>
      if prt.portEnabled then some .aged else if ptp.rcvdMsg then some .disabled else none
    | .aged => if ptp.selected && ptp.updtInfo then some .update else none
    | .update => some .current
    | .superiorDesignated => some .current
    | .repeatedDesignated => some .current
    | .inferiorDesignated => some .current
    | .notDesignated => some .current
    | .other => some .current
    | .current =>
      if rcvdXstMsg br p t && !updtXstInfo br p t then some .receive
      else if ptp.infoIs == .received && ptp.rcvdInfoWhile == 0 && !ptp.updtInfo &&
          !rcvdXstMsg br p t then
        some .aged
      else if ptp.selected && ptp.updtInfo then some .update
      else none
    | .receive =>
      match ptp.rcvdInfo with
      | .superiorDesignatedInfo => some .superiorDesignated
      | .repeatedDesignatedInfo => some .repeatedDesignated
      | .inferiorDesignatedInfo => some .inferiorDesignated
      | .inferiorRootAlternateInfo => some .notDesignated
      | .otherInfo => some .other

def pismTo (p : PortRef) (t : Mstid) : PismState → Bridge → Bridge
  | .disabled => pismToDisabled p t
  | .aged => pismToAged p t
  | .update => pismToUpdate p t
  | .superiorDesignated => pismToSuperiorDesignated p t
  | .repeatedDesignated => pismToRepeatedDesignated p t
  | .inferiorDesignated => pismToInferiorDesignated p t
  | .notDesignated => pismToNotDesignated p t
  | .other => pismToOther p t
  | .current => pismToCurrent p t
  | .receive => pismToReceive p t

def pismStep (p : PortRef) (t : Mstid) (br : Bridge) : Option (Bridge × Bool) :=
  (pismNext br p t).map fun s => (pismTo p t s br, true)

def pismDry (br : Bridge) (p : PortRef) (t : Mstid) : Bool := (pismNext br p t).isSome

/-! ## 13.33 Port Role Selection -/

def prssmToInitTree (t : Mstid) (br : Bridge) : Bridge :=
  updtRolesDisabledTree t <| br.setTree t fun tree => { tree with prssmState := .initTree }

def prssmToRoleSelection (t : Mstid) (br : Bridge) : Bridge :=
  setSelectedTree t <| updtRolesTree t <| clearReselectTree t <|
    br.setTree t fun tree => { tree with prssmState := .roleSelection }

def prssmDry (br : Bridge) (t : Mstid) : Bool :=
  match (br.tree t).prssmState with
  | .initTree => true
  | .roleSelection => br.ports.any fun q => (br.ptp q t).reselect

def prssmRun (t : Mstid) (br : Bridge) : Bridge :=
  if prssmDry br t then prssmToRoleSelection t br else br

/-! ## 13.34 Port Role Transitions -/

/-- The static variables of `PRTSM_runr`, computed once in a chain of calls. -/
structure PrtsmVars where
  maxAge : Nat
  fwdDelay : Nat
  forwardDelay : Nat
  helloTime : Nat

def prtsmVars (br : Bridge) (p : PortRef) : PrtsmVars :=
  let fwdDelay := (br.cist p).designatedTimes.forwardDelay.toNat
  let helloTime := (br.cist p).portTimes.helloTime.toNat
  { maxAge := (br.cist p).designatedTimes.maxAge.toNat
    fwdDelay := fwdDelay
    forwardDelay := if (br.port p).sendRSTP then helloTime else fwdDelay
    helloTime := helloTime }

def prtsmToInitPort (p : PortRef) (t : Mstid) (br : Bridge) : Bridge :=
  let times := (br.cist p).designatedTimes
  br.setPtp p t fun ptp =>
    { ptp with
      prtsmState := .initPort, role := .disabled, learn := false, forward := false
      synced := false, sync := true, reRoot := true
      rrWhile := times.forwardDelay.toNat, fdWhile := times.maxAge.toNat, rbWhile := 0 }

/-- 13.25.1 -/
def allSynced (br : Bridge) (p : PortRef) (t : Mstid) : Bool :=
  br.ports.all fun q =>
    let ptp1 := br.ptp q t
    ptp1.selected && ptp1.role == ptp1.selectedRole && !ptp1.updtInfo &&
      match (br.ptp p t).role with
      | .root => ptp1.role == .root || ptp1.synced
      | .alternate => ptp1.role == .root || ptp1.synced
      | .designated => q == p || ptp1.synced
      | .master => q == p || ptp1.synced
      | .disabled => false
      | .backup => false

/-- 17.20.10 of 802.1D -/
def reRooted (br : Bridge) (p : PortRef) (t : Mstid) : Bool :=
  br.ports.all fun q => q == p || (br.ptp q t).rrWhile == 0

def prtsmNextMaster (br : Bridge) (p : PortRef) (t : Mstid) : Option PrtsmState :=
  let prt := br.port p
  let ptp := br.ptp p t
  let synced := allSynced br p t
  if !(ptp.selected && !ptp.updtInfo) then none
  else if ptp.reRoot && ptp.rrWhile == 0 then some .masterRetired
  else if (!ptp.learning && !ptp.forwarding && !ptp.synced) || (ptp.agreed && !ptp.synced) ||
      (prt.operEdge && !ptp.synced) || (ptp.sync && ptp.synced) then
    some .masterSynced
  else if (synced && !ptp.agree) || (ptp.proposed && ptp.agree) then some .masterAgreed
  else if ptp.proposed && !ptp.agree then some .masterProposed
  else if (ptp.fdWhile == 0 || synced) && ptp.learn && !ptp.forward then some .masterForward
  else if (ptp.fdWhile == 0 || synced) && !ptp.learn then some .masterLearn
  else if ((ptp.sync && !ptp.synced) || (ptp.reRoot && ptp.rrWhile != 0) || ptp.disputed) &&
      !prt.operEdge && (ptp.learn || ptp.forward) then
    some .masterDiscard
  else none

def prtsmNextRoot (v : PrtsmVars) (br : Bridge) (p : PortRef) (t : Mstid) : Option PrtsmState :=
  let ptp := br.ptp p t
  let ready := ptp.fdWhile == 0 || (reRooted br p t && ptp.rbWhile == 0 && br.rstpVersion)
  if !(ptp.selected && !ptp.updtInfo) then none
  else if !ptp.forward && !ptp.reRoot then some .reroot
  else if (ptp.agreed && !ptp.synced) || (ptp.sync && ptp.synced) then some .rootSynced
  else if (allSynced br p t && !ptp.agree) || (ptp.proposed && ptp.agree) then some .rootAgreed
  else if ptp.proposed && !ptp.agree then some .rootProposed
  else if ready && !ptp.learn then some .rootLearn
  else if ready && !ptp.forward then some .rootForward
  else if ptp.reRoot && ptp.forward then some .rerooted
  else if ptp.rrWhile != v.fwdDelay then some .rootPort
  else none

def prtsmNextDesignated (br : Bridge) (p : PortRef) (t : Mstid) : Option PrtsmState :=
  let prt := br.port p
  let ptp := br.ptp p t
  let ready := (ptp.fdWhile == 0 || ptp.agreed || prt.operEdge) &&
    (ptp.rrWhile == 0 || !ptp.reRoot) && !ptp.sync && !prt.baInconsistent
  if !(ptp.selected && !ptp.updtInfo) then none
  else if ptp.reRoot && ptp.rrWhile == 0 then some .designatedRetired
  else if (!ptp.learning && !ptp.forwarding && !ptp.synced) || (ptp.agreed && !ptp.synced) ||
      (prt.operEdge && !ptp.synced) || (ptp.sync && ptp.synced) then
    some .designatedSynced
  else if allSynced br p t && (ptp.proposed || !ptp.agree) then some .designatedAgreed
  else if !ptp.forward && !ptp.agreed && !ptp.proposing && !prt.operEdge then
    some .designatedPropose
  else if ready && !ptp.learn then some .designatedLearn
  else if ready && !ptp.forward then some .designatedForward
  else if ((ptp.sync && !ptp.synced) || (ptp.reRoot && ptp.rrWhile != 0) || ptp.disputed ||
      prt.baInconsistent) && !prt.operEdge && (ptp.learn || ptp.forward) then
    some .designatedDiscard
  else none

def prtsmNextAlternate (v : PrtsmVars) (br : Bridge) (p : PortRef) (t : Mstid) :
    Option PrtsmState :=
  let ptp := br.ptp p t
  if !(ptp.selected && !ptp.updtInfo) then none
  else if (allSynced br p t && !ptp.agree) || (ptp.proposed && ptp.agree) then
    some .alternateAgreed
  else if ptp.proposed && !ptp.agree then some .alternateProposed
  else if ptp.rbWhile != 2 * v.helloTime && ptp.role == .backup then some .backupPort
  else if ptp.fdWhile != v.forwardDelay || ptp.sync || ptp.reRoot || !ptp.synced then
    some .alternatePort
  else none

/-- The state entered when the role has to follow the selected role. -/
def roleState : Role → PrtsmState
  | .disabled => .disablePort
  | .master => .masterPort
  | .root => .rootPort
  | .designated => .designatedPort
  | .alternate => .blockPort
  | .backup => .blockPort

def prtsmNext (v : PrtsmVars) (br : Bridge) (p : PortRef) (t : Mstid) : Option PrtsmState :=
  let ptp := br.ptp p t
  let settled := ptp.selected && !ptp.updtInfo
  if ptp.role != ptp.selectedRole && settled then some (roleState ptp.selectedRole)
  else
    match ptp.prtsmState with
    | .initPort => some .disablePort
    | .disablePort =>
      if settled && !ptp.learning && !ptp.forwarding then some .disabledPort else none
    | .disabledPort =>
      if settled && (ptp.sync || ptp.reRoot || !ptp.synced || ptp.fdWhile != v.maxAge) then
        some .disabledPort
      else none
    | .masterProposed => some .masterPort
    | .masterAgreed => some .masterPort
    | .masterSynced => some .masterPort
    | .masterRetired => some .masterPort
    | .masterForward => some .masterPort
    | .masterLearn => some .masterPort
    | .masterDiscard => some .masterPort
    | .masterPort => prtsmNextMaster br p t
    | .rootProposed => some .rootPort
    | .rootAgreed => some .rootPort
    | .rootSynced => some .rootPort
    | .reroot => some .rootPort
    | .rootForward => some .rootPort
    | .rootLearn => some .rootPort
    | .rerooted => some .rootPort
    | .rootPort => prtsmNextRoot v br p t
    | .designatedPropose => some .designatedPort
    | .designatedAgreed => some .designatedPort
    | .designatedSynced => some .designatedPort
    | .designatedRetired => some .designatedPort
    | .designatedForward => some .designatedPort
    | .designatedLearn => some .designatedPort
    | .designatedDiscard => some .designatedPort
    | .designatedPort => prtsmNextDesignated br p t
    | .blockPort =>
      if settled && !ptp.learning && !ptp.forwarding then some .alternatePort else none
    | .backupPort => some .alternatePort
    | .alternateProposed => some .alternatePort
    | .alternateAgreed => some .alternatePort
    | .alternatePort => prtsmNextAlternate v br p t

/-- The assignments of an entry function to its own per-tree port. -/
def prtsmEnter (v : PrtsmVars) (sendRSTP : Bool) (s : PrtsmState) (ptp : PerTreePort) :
    PerTreePort :=
  match s with
  | .initPort => { ptp with prtsmState := .initPort }
  | .disablePort =>
    { ptp with prtsmState := .disablePort, role := .disabled, learn := false, forward := false }
  | .disabledPort =>
    { ptp with
      prtsmState := .disabledPort, fdWhile := v.maxAge, synced := true, rrWhile := 0
      sync := false, reRoot := false }
  | .masterProposed => { ptp with prtsmState := .masterProposed, proposed := false }
  | .masterAgreed =>
    { ptp with prtsmState := .masterAgreed, proposed := false, sync := false, agree := true }
  | .masterSynced =>
    { ptp with prtsmState := .masterSynced, rrWhile := 0, synced := true, sync := false }
  | .masterRetired => { ptp with prtsmState := .masterRetired, reRoot := false }
  | .masterForward =>
    { ptp with prtsmState := .masterForward, forward := true, fdWhile := 0, agreed := sendRSTP }
  | .masterLearn =>
    { ptp with prtsmState := .masterLearn, learn := true, fdWhile := v.forwardDelay }
  | .masterDiscard =>
    { ptp with
      prtsmState := .masterDiscard, learn := false, forward := false, disputed := false
      fdWhile := v.forwardDelay }
  | .masterPort => { ptp with prtsmState := .masterPort, role := .master }
  | .rootProposed => { ptp with prtsmState := .rootProposed, proposed := false }
  | .rootAgreed =>
    { ptp with prtsmState := .rootAgreed, proposed := false, sync := false, agree := true }
  | .rootSynced => { ptp with prtsmState := .rootSynced, synced := true, sync := false }
  | .reroot => { ptp with prtsmState := .reroot }
  | .rootForward => { ptp with prtsmState := .rootForward, fdWhile := 0, forward := true }
  | .rootLearn => { ptp with prtsmState := .rootLearn, fdWhile := v.forwardDelay, learn := true }
  | .rerooted => { ptp with prtsmState := .rerooted, reRoot := false }
  | .rootPort => { ptp with prtsmState := .rootPort, role := .root, rrWhile := v.fwdDelay }
  | .designatedPropose => { ptp with prtsmState := .designatedPropose, proposing := true }
  | .designatedAgreed =>
    { ptp with prtsmState := .designatedAgreed, proposed := false, sync := false, agree := true }
  | .designatedSynced =>
    { ptp with prtsmState := .designatedSynced, rrWhile := 0, synced := true, sync := false }
  | .designatedRetired => { ptp with prtsmState := .designatedRetired, reRoot := false }
  | .designatedForward =>
    { ptp with
      prtsmState := .designatedForward, forward := true, fdWhile := 0, agreed := sendRSTP }
  | .designatedLearn =>
    { ptp with prtsmState := .designatedLearn, learn := true, fdWhile := v.forwardDelay }
  | .designatedDiscard =>
    { ptp with
      prtsmState := .designatedDiscard, learn := false, forward := false, disputed := false
      fdWhile := v.forwardDelay }
  | .designatedPort => { ptp with prtsmState := .designatedPort, role := .designated }
  | .blockPort =>
    { ptp with
      prtsmState := .blockPort, role := ptp.selectedRole, learn := false, forward := false }
  | .backupPort => { ptp with prtsmState := .backupPort, rbWhile := 2 * v.helloTime }
  | .alternateProposed => { ptp with prtsmState := .alternateProposed, proposed := false }
  | .alternateAgreed =>
    { ptp with prtsmState := .alternateAgreed, proposed := false, agree := true }
  | .alternatePort =>
    { ptp with
      prtsmState := .alternatePort, fdWhile := v.forwardDelay, synced := true, rrWhile := 0
      sync := false, reRoot := false }

/-- `newInfoXst = TRUE` in the entry functions that assign it. -/
def prtsmNewInfo : PrtsmState → Bool
  | .rootAgreed => true
  | .designatedPropose => true
  | .designatedAgreed => true
  | .alternateAgreed => true
  | _ => false

/-- `EdgeDelay` of 17.20.4 of 802.1D. -/
def edgeDelay (br : Bridge) (p : PortRef) : Nat :=
  if (br.port p).operPointToPointMAC then br.migrateTime
  else (br.cist p).designatedTimes.maxAge.toNat

/-- The tree-wide procedure that an entry function calls. -/
def prtsmTree (t : Mstid) (s : PrtsmState) (br : Bridge) : Bridge :=
  match s with
  | .masterProposed => setSyncTree t br
  | .rootProposed => setSyncTree t br
  | .alternateProposed => setSyncTree t br
  | .reroot => setReRootTree t br
  | _ => br

/-- An entry function: its tree-wide procedure, its port flags, its own entry. -/
def prtsmTo (v : PrtsmVars) (p : PortRef) (t : Mstid) (s : PrtsmState) (br : Bridge) : Bridge :=
  let delay := edgeDelay br p
  let sendRSTP := (br.port p).sendRSTP
  let br := (prtsmTree t s br).setPort p fun prt =>
    { prt with
      newInfo := prt.newInfo || (prtsmNewInfo s && t == 0)
      newInfoMsti := prt.newInfoMsti || (prtsmNewInfo s && t != 0)
      edgeDelayWhile := if s == .designatedPropose && t == 0 then delay else prt.edgeDelayWhile }
  br.setPtp p t (prtsmEnter v sendRSTP s)

def prtsmStep (v : PrtsmVars) (p : PortRef) (t : Mstid) (br : Bridge) : Option (Bridge × Bool) :=
  (prtsmNext v br p t).map fun s => (prtsmTo v p t s br, true)

def prtsmDry (br : Bridge) (p : PortRef) (t : Mstid) : Bool :=
  (prtsmNext (prtsmVars br p) br p t).isSome

/-! ## 13.35 Port State Transition -/

/-- The call of `MSTP_OUT_set_state` inside an entry function. -/
def pstsmPush (p : PortRef) (t : Mstid) (s : BrState) (br : Bridge) : Bridge :=
  if (br.ptp p t).state != s && !(br.port p).deleted then mstpOutSetState p t s br else br

def pstsmTo (p : PortRef) (t : Mstid) : PstsmState → Bridge → Bridge
  | .discarding => fun br => (pstsmPush p t .blocking br).setPtp p t fun ptp =>
      { ptp with pstsmState := .discarding, learning := false, forwarding := false }
  | .learning => fun br => (pstsmPush p t .learning br).setPtp p t fun ptp =>
      { ptp with pstsmState := .learning, learning := true }
  | .forwarding => fun br => (pstsmPush p t .forwarding br).setPtp p t fun ptp =>
      { ptp with pstsmState := .forwarding, forwarding := true }

def pstsmNext (br : Bridge) (p : PortRef) (t : Mstid) : Option PstsmState :=
  let ptp := br.ptp p t
  match ptp.pstsmState with
  | .discarding => if ptp.learn then some .learning else none
  | .learning =>
    if !ptp.learn then some .discarding else if ptp.forward then some .forwarding else none
  | .forwarding => if !ptp.forward then some .discarding else none

def pstsmStep (p : PortRef) (t : Mstid) (br : Bridge) : Option (Bridge × Bool) :=
  (pstsmNext br p t).map fun s => (pstsmTo p t s br, s != .forwarding)

def pstsmDry (br : Bridge) (p : PortRef) (t : Mstid) : Bool := (pstsmNext br p t).isSome

/-! ## 13.36 Topology Change -/

def tcsmToInactive (p : PortRef) (t : Mstid) (br : Bridge) : Bridge :=
  let br := setFdbFlush p t <| br.setPtp p t fun ptp => { ptp with tcsmState := .inactive }
  let br := resetTopologyChange t <| br.setPtp p t fun ptp => { ptp with tcWhile := 0 }
  br.setPort p fun prt => { prt with tcAck := prt.tcAck && t != 0 }

def tcsmToLearning (p : PortRef) (t : Mstid) (br : Bridge) : Bridge :=
  let br := br.setPort p fun prt =>
    { prt with rcvdTcn := prt.rcvdTcn && t != 0, rcvdTcAck := prt.rcvdTcAck && t != 0 }
  br.setPtp p t fun ptp => { ptp with tcsmState := .learning, rcvdTc := false, tcProp := false }

def tcsmToDetected (p : PortRef) (t : Mstid) (br : Bridge) : Bridge :=
  let br := br.setPtp p t fun ptp => { ptp with tcsmState := .detected }
  setNewInfo p t <| setTcPropTree p t <| newTcWhile p t br

def tcsmToNotifiedTcn (p : PortRef) (t : Mstid) (br : Bridge) : Bridge :=
  newTcWhile p t <| br.setPtp p t fun ptp => { ptp with tcsmState := .notifiedTcn }

def tcsmToNotifiedTc (p : PortRef) (t : Mstid) (br : Bridge) : Bridge :=
  let designated := (br.ptp p t).role == .designated
  let br := br.setPtp p t fun ptp => { ptp with tcsmState := .notifiedTc, rcvdTc := false }
  let br := br.setPort p fun prt =>
    { prt with
      rcvdTcn := prt.rcvdTcn && t != 0, tcAck := prt.tcAck || (t == 0 && designated) }
  setTcPropTree p t br

def tcsmToPropagating (p : PortRef) (t : Mstid) (br : Bridge) : Bridge :=
  let br := br.setPtp p t fun ptp => { ptp with tcsmState := .propagating }
  (setFdbFlush p t <| newTcWhile p t br).setPtp p t fun ptp => { ptp with tcProp := false }

def tcsmToAcknowledged (p : PortRef) (t : Mstid) (br : Bridge) : Bridge :=
  let br := br.setPtp p t fun ptp => { ptp with tcsmState := .acknowledged, tcWhile := 0 }
  (resetTopologyChange t br).setPort p fun prt => { prt with rcvdTcAck := false }

def tcsmToActive (p : PortRef) (t : Mstid) (br : Bridge) : Bridge :=
  br.setPtp p t fun ptp => { ptp with tcsmState := .active }

def activePort (ptp : PerTreePort) : Bool :=
  ptp.role == .root || ptp.role == .designated || ptp.role == .master

def tcsmNext (br : Bridge) (p : PortRef) (t : Mstid) : Option TcsmState :=
  let prt := br.port p
  let ptp := br.ptp p t
  match ptp.tcsmState with
  | .inactive => if ptp.learn && !ptp.fdbFlush then some .learning else none
  | .learning =>
    if activePort ptp && ptp.forward && !prt.operEdge then some .detected
    else if ptp.rcvdTc || ptp.tcProp || (t == 0 && (prt.rcvdTcn || prt.rcvdTcAck)) then
      some .learning
    else if !activePort ptp && !(ptp.learn || ptp.learning) then some .inactive
    else none
  | .notifiedTcn => some .notifiedTc
  | .detected => some .active
  | .notifiedTc => some .active
  | .propagating => some .active
  | .acknowledged => some .active
  | .active =>
    if !activePort ptp || prt.operEdge then some .learning
    else if t == 0 && prt.rcvdTcn then some .notifiedTcn
    else if ptp.rcvdTc then some .notifiedTc
    else if ptp.tcProp then some .propagating
    else if t == 0 && prt.rcvdTcAck then some .acknowledged
    else none

def tcsmTo (p : PortRef) (t : Mstid) : TcsmState → Bridge → Bridge
  | .inactive => tcsmToInactive p t
  | .learning => tcsmToLearning p t
  | .detected => tcsmToDetected p t
  | .notifiedTcn => tcsmToNotifiedTcn p t
  | .notifiedTc => tcsmToNotifiedTc p t
  | .propagating => tcsmToPropagating p t
  | .acknowledged => tcsmToAcknowledged p t
  | .active => tcsmToActive p t

/-- The states whose entry flushes addresses. -/
def TcsmState.flushes : TcsmState → Bool
  | .inactive => true
  | .propagating => true
  | _ => false

def tcsmStep (p : PortRef) (t : Mstid) (br : Bridge) : Option (Bridge × Bool) :=
  (tcsmNext br p t).map fun s => (tcsmTo p t s br, true)

/-- The self transition of `LEARNING` predicts which of its fields would change. -/
def tcsmDry (br : Bridge) (p : PortRef) (t : Mstid) : Bool :=
  let prt := br.port p
  let ptp := br.ptp p t
  match tcsmNext br p t with
  | none => false
  | some .learning =>
    ptp.tcsmState != .learning || ptp.rcvdTc || ptp.tcProp ||
      (t == 0 && (prt.rcvdTcn || prt.rcvdTcAck))
  | some _ => true

end Mstpd
