import Mstpd.Machines

/-!
# Running all machines

A pass runs the machines in the order of the source, each for all ports or all
trees. `brStateMachinesRun` repeats passes until the dry run predicts no change or
the clock says that a second is over.
-/

namespace Mstpd

open Bridge Machine

/-- The objects that `FOREACH_PORT { FOREACH_PTP_IN_PORT }` visits, in order. -/
def Bridge.ptpRefs (br : Bridge) : List (PortRef × Mstid) :=
  br.ports.flatMap fun p => br.trees.map fun t => (p, t)

/-- Is the bridge assurance timer of the port expiring? -/
def assuranceExpires (br : Bridge) (p : PortRef) : Bool :=
  (br.port p).portEnabled && br.assurancePort p && (br.port p).brAssuRcvdInfoWhile == 0 &&
    !(br.port p).baInconsistent

def assuranceRun (p : PortRef) (br : Bridge) : Bridge :=
  if assuranceExpires br p then br.setPort p fun prt => { prt with baInconsistent := true }
  else br

/-- `__br_state_machines_run(br, true)`. -/
def brStateMachinesDry (br : Bridge) : Bool :=
  br.ports.any (assuranceExpires br) || br.ports.any (prsmDry br) || br.ports.any (ppmsmDry br) ||
  br.ports.any (bdsmDry br) || br.ports.any (ptsmDry br) ||
  br.ptpRefs.any (fun o => pismDry br o.1 o.2) || br.trees.any (prssmDry br) ||
  br.ptpRefs.any (fun o => prtsmDry br o.1 o.2) ||
  br.ptpRefs.any (fun o => pstsmDry br o.1 o.2) || br.ptpRefs.any (fun o => tcsmDry br o.1 o.2)

def prtsmRun (fuel : Nat) (p : PortRef) (t : Mstid) (br : Bridge) : Option Bridge :=
  run (prtsmStep (prtsmVars br p) p t) fuel br

/-- The run function of a machine without recursion. -/
def always (act : PortRef → Bridge → Bridge) (p : PortRef) (br : Bridge) : Option Bridge :=
  some (act p br)

/-! The stages of a pass. The lists of ports and trees do not change during a pass. -/

def assuranceStage (ports : List PortRef) : Bridge → Option Bridge :=
  forEach (always assuranceRun) ports

def prsmStage (ports : List PortRef) : Bridge → Option Bridge := forEach (always prsmRun) ports

def ppmsmStage (fuel : Nat) (ports : List PortRef) : Bridge → Option Bridge :=
  forEach (fun p => run (ppmsmStep p) fuel) ports

def bdsmStage (ports : List PortRef) : Bridge → Option Bridge := forEach (always bdsmRun) ports

def ptsmStage (fuel : Nat) (ports : List PortRef) : Bridge → Option Bridge :=
  forEach (fun p => run (ptsmStep p) fuel) ports

def pismStage (fuel : Nat) (refs : List (PortRef × Mstid)) : Bridge → Option Bridge :=
  forEach (fun o => run (pismStep o.1 o.2) fuel) refs

def prssmStage (trees : List Mstid) : Bridge → Option Bridge :=
  forEach (fun t br => some (prssmRun t br)) trees

def prtsmStage (fuel : Nat) (refs : List (PortRef × Mstid)) : Bridge → Option Bridge :=
  forEach (fun o => prtsmRun fuel o.1 o.2) refs

def pstsmStage (fuel : Nat) (refs : List (PortRef × Mstid)) : Bridge → Option Bridge :=
  forEach (fun o => run (pstsmStep o.1 o.2) fuel) refs

def tcsmStage (fuel : Nat) (refs : List (PortRef × Mstid)) : Bridge → Option Bridge :=
  forEach (fun o => run (tcsmStep o.1 o.2) fuel) refs

/-- The order of the machines in `__br_state_machines_run`. -/
def stages (fuel : Nat) (br : Bridge) : List (Bridge → Option Bridge) :=
  [assuranceStage br.ports, prsmStage br.ports, ppmsmStage fuel br.ports, bdsmStage br.ports,
    ptsmStage fuel br.ports, pismStage fuel br.ptpRefs, prssmStage br.trees,
    prtsmStage fuel br.ptpRefs, pstsmStage fuel br.ptpRefs, tcsmStage fuel br.ptpRefs]

/-- `__br_state_machines_run(br, false)`. -/
def brStateMachinesPass (fuel : Nat) (br : Bridge) : Option Bridge :=
  forEach id (stages fuel br) br

/-- `br_state_machines_run`. -/
def brStateMachinesRun (late : Nat → Bool) (fuel : Nat) (br : Bridge) : Option Bridge :=
  if br.bridgeEnabled then
    loop brStateMachinesDry (brStateMachinesPass fuel) late fuel 0 br
  else some br

/-! ## BEGIN -/

/-- `PISM_begin` preceded by the port's start time. -/
def pismBegin (p : PortRef) (t : Mstid) (br : Bridge) : Bridge :=
  pismToDisabled p t <| br.setPtp p t fun ptp => { ptp with startTime := br.uptime }

def forAll {α : Type} (act : α → Bridge → Bridge) (l : List α) (br : Bridge) : Bridge :=
  l.foldl (fun b a => act a b) br

/-- The per-tree-port machines that follow role selection in every BEGIN. -/
def ptpMachinesBegin (refs : List (PortRef × Mstid)) (br : Bridge) : Bridge :=
  let br := forAll (fun o => prtsmToInitPort o.1 o.2) refs br
  let br := forAll (fun o => pstsmTo o.1 o.2 .discarding) refs br
  forAll (fun o => tcsmToInactive o.1 o.2) refs br

/-- The per-port machines of BEGIN. -/
def portMachinesBegin (ports : List PortRef) (br : Bridge) : Bridge :=
  let br := forAll prsmToDiscard ports br
  let br := forAll ppmsmToCheckingRstp ports br
  let br := forAll bdsmBegin ports br
  forAll ptsmToTransmitInit ports br

def treeStateMachinesBegin (late : Nat → Bool) (fuel : Nat) (t : Mstid) (br : Bridge) :
    Option Bridge :=
  if br.bridgeEnabled then
    let refs := br.ports.map fun p => (p, t)
    let br' := forAll (fun o => pismBegin o.1 o.2) refs br
    brStateMachinesRun late fuel (ptpMachinesBegin refs (prssmToInitTree t br'))
  else some br

def prtStateMachinesBegin (late : Nat → Bool) (fuel : Nat) (p : PortRef) (br : Bridge) :
    Option Bridge :=
  if br.bridgeEnabled then
    let refs := br.trees.map fun t => (p, t)
    let br' := forAll (fun o => pismBegin o.1 o.2) refs (portMachinesBegin [p] br)
    brStateMachinesRun late fuel (ptpMachinesBegin refs (forAll prssmRun br.trees br'))
  else some br

def brStateMachinesBegin (late : Nat → Bool) (fuel : Nat) (br : Bridge) : Option Bridge :=
  if br.bridgeEnabled then
    let refs := br.ptpRefs
    let br' := forAll (fun o => pismBegin o.1 o.2) refs (portMachinesBegin br.ports br)
    brStateMachinesRun late fuel (ptpMachinesBegin refs (forAll prssmToInitTree br.trees br'))
  else some br

end Mstpd
