import Mstpd.Types

/-!
# Access to the state and comparison of priority vectors

The helpers that write one port, one tree, one per-tree port, or all per-tree
ports of a tree or of a port, and the comparisons of 13.26.
-/

namespace Mstpd

namespace Bridge

def setPort (br : Bridge) (p : PortRef) (f : Port → Port) : Bridge :=
  { br with port := fun q => if q = p then f (br.port q) else br.port q }

def setTree (br : Bridge) (t : Mstid) (f : Tree → Tree) : Bridge :=
  { br with tree := fun s => if s = t then f (br.tree s) else br.tree s }

def setPtp (br : Bridge) (p : PortRef) (t : Mstid) (f : PerTreePort → PerTreePort) : Bridge :=
  { br with ptp := fun q s => if q = p ∧ s = t then f (br.ptp q s) else br.ptp q s }

@[simp]
theorem setPtp_self (br : Bridge) (p : PortRef) (t : Mstid) (f : PerTreePort → PerTreePort) :
    (br.setPtp p t f).ptp p t = f (br.ptp p t) := by
  simp only [setPtp, and_self, if_true]

/-- `FOREACH_PTP_IN_TREE` with a body that writes only its own entry. -/
def setTreePtps (br : Bridge) (t : Mstid)
    (f : PortRef → PerTreePort → PerTreePort) : Bridge :=
  { br with ptp := fun q s => if s = t ∧ q ∈ br.ports then f q (br.ptp q s) else br.ptp q s }

/-- `FOREACH_PTP_IN_PORT` with a body that writes only its own entry. -/
def setPortPtps (br : Bridge) (p : PortRef)
    (f : Mstid → PerTreePort → PerTreePort) : Bridge :=
  { br with ptp := fun q s => if q = p ∧ s ∈ br.trees then f s (br.ptp q s) else br.ptp q s }

/-- The MSTI entries of a port: the list continued after its first entry, the CIST. -/
def setMstiPtps (br : Bridge) (p : PortRef)
    (f : Mstid → PerTreePort → PerTreePort) : Bridge :=
  br.setPortPtps p fun s ptp => if s = 0 then ptp else f s ptp

def emit (br : Bridge) (o : MstpOut) : Bridge := { br with out := o :: br.out }

/-- `GET_CIST_PTP_FROM_PORT`. -/
def cist (br : Bridge) (p : PortRef) : PerTreePort := br.ptp p 0

/-- `rstpVersion`. -/
def rstpVersion (br : Bridge) : Bool := br.forceProtocolVersion != .stp

/-- `assurancePort`. -/
def assurancePort (br : Bridge) (p : PortRef) : Bool :=
  (br.port p).networkPort && (br.port p).operPointToPointMAC && (br.port p).sendRSTP

end Bridge

def samePriorityAndTimers (vec1 vec2 : PortPriorityVector) (time1 time2 : Times)
    (cist : Bool) : Bool :=
  (!cist ||
    (time1.forwardDelay == time2.forwardDelay && time1.maxAge == time2.maxAge &&
      time1.messageAge == time2.messageAge && time1.helloTime == time2.helloTime &&
      vec1.rootID == vec2.rootID && vec1.extRootPathCost == vec2.extRootPathCost)) &&
  time1.remainingHops == time2.remainingHops && vec1.rRootID == vec2.rRootID &&
  vec1.intRootPathCost == vec2.intRootPathCost &&
  vec1.designatedBridgeID == vec2.designatedBridgeID &&
  vec1.designatedPortID == vec2.designatedPortID

/-- One stage of the comparison: worse, better, or the same and checked further. -/
def ncmp (x y : Nat) (further : Bool) : Bool :=
  if y < x then false else if x < y then true else further

def betterorsamePriority (vec1 vec2 : PortPriorityVector) (pId1 pId2 : UInt16)
    (cist : Bool) : Bool :=
  let regional :=
    ncmp vec1.rRootID.u vec2.rRootID.u <|
    ncmp vec1.intRootPathCost.toNat vec2.intRootPathCost.toNat <|
    ncmp vec1.designatedBridgeID.u vec2.designatedBridgeID.u <|
    ncmp vec1.designatedPortID.toNat vec2.designatedPortID.toNat <|
    decide (pId1 ≤ pId2)
  if cist then
    ncmp vec1.rootID.u vec2.rootID.u <|
    ncmp vec1.extRootPathCost.toNat vec2.extRootPathCost.toNat regional
  else regional

/-- 13.26.1 -/
def betterorsameInfo (ptp : PerTreePort) (t : Mstid) (newInfoIs : InfoOrigin) : Bool :=
  if newInfoIs = .received ∧ ptp.infoIs = .received then
    betterorsamePriority ptp.msgPriority ptp.portPriority 0 0 (t == 0)
  else if newInfoIs = .mine ∧ ptp.infoIs = .mine then
    betterorsamePriority ptp.designatedPriority ptp.portPriority 0 0 (t == 0)
  else false

end Mstpd
