import Mstpd.Procedures

/-!
# Role selection

`updtRolesTree` (13.26.23): the root priority vector of a tree is the best of the
bridge's own vector and the root path vectors of its ports, the designated
vectors follow from it, and each port's role is read off by comparing the two.
-/

namespace Mstpd

open Bridge

/-- 13.26.24 -/
def updtRolesDisabledTree (t : Mstid) (br : Bridge) : Bridge :=
  br.setTreePtps t fun _ ptp => { ptp with selectedRole := .disabled }

/-- Addition that stops at `UINT32_MAX`. -/
def addPathCost (cost pathCost : UInt32) : UInt32 :=
  if cost > 0xFFFFFFFF - pathCost then 0xFFFFFFFF else cost + pathCost

/-- The vector `root_path_priority` of a port. -/
def rootPathPriority (br : Bridge) (t : Mstid) (p : PortRef) : PortPriorityVector :=
  let prt := br.port p
  let ptp := br.ptp p t
  if prt.rcvdInternal then
    { ptp.portPriority with
      intRootPathCost := addPathCost ptp.portPriority.intRootPathCost ptp.internalPortPathCost }
  else if t = 0 then
    { ptp.portPriority with
      extRootPathCost := addPathCost ptp.portPriority.extRootPathCost prt.externalPortPathCost
      rRootID := (br.tree t).bridgeIdentifier
      intRootPathCost := 0 }
  else ptp.portPriority

/-- The ports whose root path vector takes part in the selection. -/
def offersRootPath (br : Bridge) (t : Mstid) (p : PortRef) : Bool :=
  (br.ptp p t).infoIs == .received && !(br.port p).restrictedRole &&
    (br.ptp p t).portPriority.designatedBridgeID != (br.tree t).bridgeIdentifier

/-- `{rootPriority, rootPortId}` and `root_ptp` while the ports are examined. -/
structure RootChoice where
  priority : PortPriorityVector
  portId : UInt16
  rootPtp : Option PortRef

/-- One turn of the loop of clauses a) and b). -/
def examinePort (br : Bridge) (t : Mstid) (best : RootChoice) (p : PortRef) : RootChoice :=
  if offersRootPath br t p &&
      betterorsamePriority (rootPathPriority br t p) best.priority (br.ptp p t).portId
        best.portId (t == 0) then
    ⟨rootPathPriority br t p, (br.ptp p t).portId, some p⟩
  else best

def selectRoot (br : Bridge) (t : Mstid) : RootChoice :=
  br.ports.foldl (examinePort br t) ⟨(br.tree t).bridgePriority, 0, none⟩

/-- c) The times of the root port, one hop or one second later. -/
def rootTimesOf (br : Bridge) (t : Mstid) (root : Option PortRef) : Times :=
  match root with
  | none => (br.tree t).bridgeTimes
  | some r =>
    let times := (br.ptp r t).portTimes
    if (br.port r).rcvdInternal then
      { times with
        remainingHops :=
          if times.remainingHops = 0 then times.remainingHops else times.remainingHops - 1 }
    else { times with messageAge := times.messageAge + 1 }

/-- d) -/
def designatedPriorityOf (br : Bridge) (t : Mstid) (p : PortRef)
    (rootPriority : PortPriorityVector) : PortPriorityVector :=
  { rootPriority with
    designatedBridgeID := (br.tree t).bridgeIdentifier
    designatedPortID := (br.ptp p t).portId
    rRootID :=
      if t == 0 && !(br.port p).sendRSTP then (br.tree t).bridgeIdentifier
      else rootPriority.rRootID }

/-- 13.26.18 -/
def syncMaster (br : Bridge) : Bridge :=
  { br with
    ptp := fun q s =>
      if s ≠ 0 ∧ s ∈ br.trees ∧ q ∈ br.ports ∧ (br.port q).infoInternal then
        { br.ptp q s with agree := false, agreed := false, synced := false, sync := true }
      else br.ptp q s }

/-- Clauses f) to m): the selected role of a port and its `updtInfo`. -/
def selectRole (br : Bridge) (t : Mstid) (root : Option PortRef) (p : PortRef) : Role × Bool :=
  let prt := br.port p
  let ptp := br.ptp p t
  let cist := br.cist p
  let differs := !samePriorityAndTimers ptp.portPriority ptp.designatedPriority
    ptp.portTimes ptp.designatedTimes (t == 0)
  match ptp.infoIs with
  | .disabled => (.disabled, ptp.updtInfo)
  | origin =>
    if t != 0 && cist.infoIs == .received && !prt.infoInternal then
      -- g) at a boundary port every MSTI follows the CIST
      (if cist.selectedRole = .root then .master else cist.selectedRole, ptp.updtInfo || differs)
    else
      match origin with
      | .disabled => (.disabled, ptp.updtInfo)
      | .aged => (.designated, true)
      | .mine => (.designated, ptp.updtInfo || differs)
      | .received =>
        if root = some p then (.root, false)
        else if betterorsamePriority ptp.portPriority ptp.designatedPriority 0 0 (t == 0) then
          (if ptp.portPriority.designatedBridgeID != (br.tree t).bridgeIdentifier then .alternate
            else .backup, false)
        else (.designated, true)

/-- Does the CIST turn of the role loop call `reselectMSTIs` for this port? -/
def reselectsMstis (br : Bridge) (t : Mstid) (root : Option PortRef) (p : PortRef) : Bool :=
  t == 0 && (br.ptp p t).infoIs == .received &&
    (selectRole br t root p).1 != (br.ptp p t).role

/-- 13.26.23, after the choice of the root: c), d) and e). -/
def updtDesignated (t : Mstid) (root : RootChoice) (br : Bridge) : Bridge :=
  let rootTimes := rootTimesOf br t root.rootPtp
  let br' := br.setTree t fun tree =>
    { tree with
      rootPriority := root.priority, rootPortId := root.portId, rootTimes := rootTimes }
  br'.setTreePtps t fun q ptp =>
    { ptp with
      designatedPriority := designatedPriorityOf br t q root.priority
      designatedTimes := { rootTimes with helloTime := ptp.portTimes.helloTime } }

/-- The role loop. Its turns write only their own port, so they are taken at once. -/
def updtSelectedRoles (t : Mstid) (root : Option PortRef) (br : Bridge) : Bridge :=
  { br with
    ptp := fun q s =>
      if q ∈ br.ports then
        if s = t then
          { br.ptp q s with
            selectedRole := (selectRole br t root q).1
            updtInfo := (selectRole br t root q).2 }
        else if s ∈ br.trees then
          { br.ptp q s with reselect := (br.ptp q s).reselect || reselectsMstis br t root q }
        else br.ptp q s
      else br.ptp q s }

/-- 13.26.23 -/
def updtRolesTree (t : Mstid) (br : Bridge) : Bridge :=
  let prev := (br.tree t).rootPriority
  let root := selectRoot br t
  let br := updtDesignated t root br
  let moved := t == 0 && root.priority.rRootID != prev.rRootID &&
    (root.priority.extRootPathCost != 0 || prev.extRootPathCost != 0)
  updtSelectedRoles t root.rootPtp (if moved then syncMaster br else br)

end Mstpd
