import Mstpd.Labelled
import Mstpd.OpFrames
import Mstpd.Pass

/-!
# The actions of a run

Between two operations and inside them the state changes by transitions of machines
and by the assignments of the operations. Both are actions here, with the guards the
code has at that place. A run of a bridge is a sequence of such actions; the actions
may come in any order, so the runs of the source are among them.
-/

namespace Mstpd

open Bridge Machine

/-- The transitions of the machines, and what the operations assign around the runs of
the machines. -/
inductive Act
  | assurance (p : PortRef)
  | prsm (p : PortRef) (s : PrsmState)
  | ppmsm (p : PortRef) (s : PpmsmState)
  | bdsm (p : PortRef) (s : BdsmState)
  | ptsm (p : PortRef) (s : PtsmState)
  | pism (p : PortRef) (t : Mstid) (s : PismState)
  | prssm (t : Mstid)
  | prtsm (p : PortRef) (t : Mstid) (s : PrtsmState)
  | pstsm (p : PortRef) (t : Mstid) (s : PstsmState)
  | tcsm (p : PortRef) (t : Mstid) (s : TcsmState)
  | createPort (p : PortRef) (portno : UInt16) (name : String) (speed duplex : Int)
  | markDeleted (p : PortRef)
  | removePort (p : PortRef)
  | createMsti (mstid : UInt16) (trees : List Mstid)
  | removeMsti (mstid : UInt16)
  | switchBridge (up : Bool)
  | tick
  | idleSecond
  | linkUp (p : PortRef) (speed duplex : Int)
  | linkDown (p : PortRef)
  | flushed (p : PortRef) (t : Mstid)
  | rxBpdu (p : PortRef) (bpdu : Mem) (size : Nat)
  | bridgeAddress (macaddr : BitVec 48)
  | bridgeConfig (cfg : CistBridgeConfig)
  | mstiBridgeConfig (t : Mstid) (bridgePriority : UInt8)
  | portConfig (p : PortRef) (cfg : CistPortConfig)
  | mstiPortConfig (p : PortRef) (t : Mstid) (cfg : MstiPortConfig)
  | mcheck (p : PortRef)
  | tables (env : Env) (changed : Bool) (vid2fid fid2mstid : Nat → UInt16)
  | configId (revision : UInt16) (name : List UInt8)
  | sysdeps (p : PortRef) (speed duplex : Int)

/-- The assignments of `br_state_machines_begin` before it runs the machines. -/
def bridgeBegin (br : Bridge) : Bridge :=
  if br.bridgeEnabled then
    let br' := forAll (fun o => pismBegin o.1 o.2) br.ptpRefs (portMachinesBegin br.ports br)
    ptpMachinesBegin br.ptpRefs (forAll prssmToInitTree br.trees br')
  else br

/-- The assignments of `tree_state_machines_begin` before it runs the machines. -/
def treeBegin (t : Mstid) (br : Bridge) : Bridge :=
  if br.bridgeEnabled then
    let refs := br.ports.map fun p => (p, t)
    ptpMachinesBegin refs (prssmToInitTree t (forAll (fun o => pismBegin o.1 o.2) refs br))
  else br

/-- The state in which `prt_state_machines_begin` runs role selection for each tree. -/
def portBeginSelect (p : PortRef) (br : Bridge) : Bridge :=
  forAll (fun o => pismBegin o.1 o.2) (br.trees.map fun t => (p, t)) (portMachinesBegin [p] br)

/-- The assignments of `prt_state_machines_begin` before it runs the machines. -/
def portBegin (p : PortRef) (br : Bridge) : Bridge :=
  if br.bridgeEnabled then
    ptpMachinesBegin (br.trees.map fun t => (p, t))
      (forAll prssmRun br.trees (portBeginSelect p br))
  else br

/-- The assignments for a port whose link is reported to be up. -/
def linkUp (p : PortRef) (speed duplex : Int) (br : Bridge) : Bridge :=
  let br' := assignLink p speed duplex br
  if (br.port p).portEnabled then br' else portUp p br'

/-- The assignments of `MSTP_IN_rx_bpdu` before it runs the machines. -/
def rxAssign (p : PortRef) (bpdu : Mem) (size : Nat) (br : Bridge) : Bridge :=
  let br := br.setPort p fun prt => { prt with numRxBpdu := prt.numRxBpdu + 1 }
  match rxRefusal br p with
  | some .guarded =>
    (br.setPort p fun prt => { prt with bpduGuardError := true }).emit (.shutdownPort p)
  | some .filtered =>
    br.setPort p fun prt => { prt with numRxBpduFiltered := prt.numRxBpduFiltered + 1 }
  | some _ => br
  | none =>
    match validateBpdu bpdu size with
    | none => br
    | some (version, mstis) => acceptBpdu p bpdu version mstis br

/-- The new address in all trees. -/
def writeAddress (macaddr : BitVec 48) (br : Bridge) : Bridge :=
  forAll (fun s b => b.setTree s (treeAddress macaddr)) br.trees br

/-- The configuration of a per-tree port and the request for role selection after it. -/
def writePtpConfig (p : PortRef) (t : Mstid) (cfg : MstiPortConfig) (br : Bridge) : Bridge :=
  let ptp := br.ptp p t
  let ptp' := assignPtpConfig (br.port p).speed cfg ptp
  let changed := ptp'.portId != ptp.portId || ptp'.internalPortPathCost != ptp.internalPortPathCost
  let br' := br.setPtp p t (assignPtpConfig (br.port p).speed cfg)
  if changed && (br.port p).portEnabled then
    br'.setPtp p t fun ptp => { ptp with selected := false, reselect := true }
  else br'

/-- The allocation tables, and the digest when an allocation has changed. -/
def writeTables (env : Env) (changed : Bool) (vid2fid fid2mstid : Nat → UInt16) (br : Bridge) :
    Bridge :=
  let br' := { br with vid2fid := vid2fid, fid2mstid := fid2mstid }
  if changed then recalcConfigDigest env br' else br'

def writeConfigId (revision : UInt16) (name : List UInt8) (br : Bridge) : Bridge :=
  { br with
    mstConfigId := { br.mstConfigId with revisionLevel := revision, configurationName := name } }

/-- Where an action may be taken. -/
def Act.Guard (br : Bridge) : Act → Prop
  | .assurance p => br.bridgeEnabled = true ∧ p ∈ br.ports
  | .prsm p s => br.bridgeEnabled = true ∧ p ∈ br.ports ∧ prsmNext br p = some s
  | .ppmsm p s => br.bridgeEnabled = true ∧ p ∈ br.ports ∧ ppmsmNext br p = some s
  | .bdsm p s => br.bridgeEnabled = true ∧ p ∈ br.ports ∧ bdsmNext br p = some s
  | .ptsm p s => br.bridgeEnabled = true ∧ p ∈ br.ports ∧ ptsmNext br p = some s
  | .pism p t s =>
    br.bridgeEnabled = true ∧ p ∈ br.ports ∧ t ∈ br.trees ∧ pismNext br p t = some s
  | .prssm t => br.bridgeEnabled = true ∧ t ∈ br.trees ∧ prssmDry br t = true
  | .prtsm p t s =>
    br.bridgeEnabled = true ∧ p ∈ br.ports ∧ t ∈ br.trees ∧
      prtsmNext (prtsmVars br p) br p t = some s
  | .pstsm p t s =>
    br.bridgeEnabled = true ∧ p ∈ br.ports ∧ t ∈ br.trees ∧ pstsmNext br p t = some s
  | .tcsm p t s =>
    br.bridgeEnabled = true ∧ p ∈ br.ports ∧ t ∈ br.trees ∧ tcsmNext br p t = some s
  | .createPort p portno _ _ _ => p ∉ br.ports ∧ 1 ≤ portno.toNat ∧ portno.toNat ≤ maxPortNumber
  | .markDeleted p => p ∈ br.ports
  | .removePort p =>
    p ∈ br.ports ∧ (br.port p).deleted = true ∧ (br.port p).portEnabled = false
  | .createMsti mstid trees =>
    mstid ≠ 0 ∧ mstid.toNat ≤ maxMstid ∧ mstid ∉ br.trees ∧
      br.trees.length ≤ maxImplementationMstis ∧
      insertAfterLast (fun s => decide (s < mstid)) mstid br.trees = some trees
  | .removeMsti mstid => mstid ≠ 0 ∧ mstid ∈ br.trees
  | .switchBridge up => br.bridgeEnabled ≠ up
  | .tick => br.bridgeEnabled = true
  | .idleSecond => br.bridgeEnabled = false
  | .linkUp p _ _ => p ∈ br.ports
  | .linkDown p => p ∈ br.ports
  | .flushed p t => p ∈ br.ports ∧ t ∈ br.trees
  | .rxBpdu p _ _ => p ∈ br.ports
  | .bridgeAddress _ => True
  | .bridgeConfig cfg => cistBridgeConfigOk br cfg = true
  | .mstiBridgeConfig t _ => t ∈ br.trees
  | .portConfig p _ => p ∈ br.ports
  | .mstiPortConfig p t cfg =>
    p ∈ br.ports ∧ t ∈ br.trees ∧ cfg.portPriority.any (fun n => decide (15 < n)) = false
  | .mcheck p => p ∈ br.ports ∧ br.bridgeEnabled = true
  | .tables _ _ _ _ => True
  | .configId _ name => name.length = 32
  | .sysdeps p _ _ => p ∈ br.ports

instance (br : Bridge) : (a : Act) → Decidable (a.Guard br)
  | .assurance p => inferInstanceAs (Decidable (br.bridgeEnabled = true ∧ p ∈ br.ports))
  | .prsm p s =>
    inferInstanceAs (Decidable (br.bridgeEnabled = true ∧ p ∈ br.ports ∧ prsmNext br p = some s))
  | .ppmsm p s =>
    inferInstanceAs (Decidable (br.bridgeEnabled = true ∧ p ∈ br.ports ∧ ppmsmNext br p = some s))
  | .bdsm p s =>
    inferInstanceAs (Decidable (br.bridgeEnabled = true ∧ p ∈ br.ports ∧ bdsmNext br p = some s))
  | .ptsm p s =>
    inferInstanceAs (Decidable (br.bridgeEnabled = true ∧ p ∈ br.ports ∧ ptsmNext br p = some s))
  | .pism p t s =>
    inferInstanceAs (Decidable
      (br.bridgeEnabled = true ∧ p ∈ br.ports ∧ t ∈ br.trees ∧ pismNext br p t = some s))
  | .prssm t =>
    inferInstanceAs (Decidable (br.bridgeEnabled = true ∧ t ∈ br.trees ∧ prssmDry br t = true))
  | .prtsm p t s =>
    inferInstanceAs (Decidable (br.bridgeEnabled = true ∧ p ∈ br.ports ∧ t ∈ br.trees ∧
      prtsmNext (prtsmVars br p) br p t = some s))
  | .pstsm p t s =>
    inferInstanceAs (Decidable
      (br.bridgeEnabled = true ∧ p ∈ br.ports ∧ t ∈ br.trees ∧ pstsmNext br p t = some s))
  | .tcsm p t s =>
    inferInstanceAs (Decidable
      (br.bridgeEnabled = true ∧ p ∈ br.ports ∧ t ∈ br.trees ∧ tcsmNext br p t = some s))
  | .createPort p portno _ _ _ =>
    inferInstanceAs (Decidable (p ∉ br.ports ∧ 1 ≤ portno.toNat ∧ portno.toNat ≤ maxPortNumber))
  | .markDeleted p => inferInstanceAs (Decidable (p ∈ br.ports))
  | .removePort p =>
    inferInstanceAs (Decidable
      (p ∈ br.ports ∧ (br.port p).deleted = true ∧ (br.port p).portEnabled = false))
  | .createMsti mstid trees =>
    inferInstanceAs (Decidable (mstid ≠ 0 ∧ mstid.toNat ≤ maxMstid ∧ mstid ∉ br.trees ∧
      br.trees.length ≤ maxImplementationMstis ∧
      insertAfterLast (fun s => decide (s < mstid)) mstid br.trees = some trees))
  | .removeMsti mstid => inferInstanceAs (Decidable (mstid ≠ 0 ∧ mstid ∈ br.trees))
  | .switchBridge up => inferInstanceAs (Decidable (br.bridgeEnabled ≠ up))
  | .tick => inferInstanceAs (Decidable (br.bridgeEnabled = true))
  | .idleSecond => inferInstanceAs (Decidable (br.bridgeEnabled = false))
  | .linkUp p _ _ => inferInstanceAs (Decidable (p ∈ br.ports))
  | .linkDown p => inferInstanceAs (Decidable (p ∈ br.ports))
  | .flushed p t => inferInstanceAs (Decidable (p ∈ br.ports ∧ t ∈ br.trees))
  | .rxBpdu p _ _ => inferInstanceAs (Decidable (p ∈ br.ports))
  | .bridgeAddress _ => isTrue trivial
  | .bridgeConfig cfg => inferInstanceAs (Decidable (cistBridgeConfigOk br cfg = true))
  | .mstiBridgeConfig t _ => inferInstanceAs (Decidable (t ∈ br.trees))
  | .portConfig p _ => inferInstanceAs (Decidable (p ∈ br.ports))
  | .mstiPortConfig p t cfg =>
    inferInstanceAs (Decidable
      (p ∈ br.ports ∧ t ∈ br.trees ∧ cfg.portPriority.any (fun n => decide (15 < n)) = false))
  | .mcheck p => inferInstanceAs (Decidable (p ∈ br.ports ∧ br.bridgeEnabled = true))
  | .tables _ _ _ _ => isTrue trivial
  | .configId _ name => inferInstanceAs (Decidable (name.length = 32))
  | .sysdeps p _ _ => inferInstanceAs (Decidable (p ∈ br.ports))

/-- What an action does. -/
def Act.run (br : Bridge) : Act → Bridge
  | .assurance p => assuranceRun p br
  | .prsm p s => prsmTo p s br
  | .ppmsm p s => ppmsmTo p s br
  | .bdsm p s => bdsmTo p s br
  | .ptsm p s => ptsmTo p s br
  | .pism p t s => pismTo p t s br
  | .prssm t => prssmToRoleSelection t br
  | .prtsm p t s => prtsmTo (prtsmVars br p) p t s br
  | .pstsm p t s => pstsmTo p t s br
  | .tcsm p t s => tcsmTo p t s br
  | .createPort p portno name speed duplex => portBegin p (addPort p portno name speed duplex br)
  | .markDeleted p => Mstpd.markDeleted p br
  | .removePort p => { br with ports := br.ports.erase p }
  | .createMsti mstid trees => treeBegin mstid (addTree mstid trees br)
  | .removeMsti mstid => { br with trees := br.trees.erase mstid }
  | .switchBridge up => bridgeBegin (resetBridge up br)
  | .tick => bridgeTick { br with uptime := br.uptime + 1 }
  | .idleSecond => { br with uptime := br.uptime + 1 }
  | .linkUp p speed duplex => Mstpd.linkUp p speed duplex br
  | .linkDown p => br.setPort p fun prt => { prt with portEnabled := false }
  | .flushed p t => br.setPtp p t fun ptp => { ptp with fdbFlush := false }
  | .rxBpdu p bpdu size => rxAssign p bpdu size br
  | .bridgeAddress macaddr =>
    if br.trees.any fun s => (br.tree s).bridgeIdentifier.macAddress != macaddr then
      bridgeBegin (writeAddress macaddr br)
    else writeAddress macaddr br
  | .bridgeConfig cfg =>
    if (assignParameters cfg br).forceProtocolVersion != br.forceProtocolVersion then
      bridgeBegin (writeBridgeConfig cfg br)
    else writeBridgeConfig cfg br
  | .mstiBridgeConfig t prio => (mstpInSetMstiBridgeConfig t prio br).1
  | .portConfig p cfg => writePortConfig p cfg br
  | .mstiPortConfig p t cfg => writePtpConfig p t cfg br
  | .mcheck p => requestMcheck p br
  | .tables env changed vid2fid fid2mstid =>
    if changed then bridgeBegin (writeTables env changed vid2fid fid2mstid br)
    else writeTables env changed vid2fid fid2mstid br
  | .configId revision name => bridgeBegin (writeConfigId revision name br)
  | .sysdeps p speed duplex => br.setPort p fun prt => { prt with speed := speed, duplex := duplex }

/-- The actions of a bridge. -/
def bridgeActs : Labelled Bridge Act where
  guard a br := a.Guard br
  act a br := a.run br

instance (a : Act) (br : Bridge) : Decidable (bridgeActs.guard a br) :=
  inferInstanceAs (Decidable (a.Guard br))

/-- No condition on the actions. -/
def anyAct : Act → Bridge → Prop := fun _ _ => True

/-! ## The order of a pass -/

/-- Where a run stands: between passes, or in a stage of a pass. -/
inductive Phase
  | idle | assurance | prsm | ppmsm | bdsm | ptsm | pism | prssm | prtsm | pstsm | tcsm
  deriving DecidableEq

def Phase.next : Phase → Phase
  | .idle => .assurance
  | .assurance => .prsm
  | .prsm => .ppmsm
  | .ppmsm => .bdsm
  | .bdsm => .ptsm
  | .ptsm => .pism
  | .pism => .prssm
  | .prssm => .prtsm
  | .prtsm => .pstsm
  | .pstsm => .tcsm
  | .tcsm => .idle

/-- The stage that takes an action. What the operations assign comes between passes. -/
def Act.phase : Act → Phase
  | .assurance _ => .assurance
  | .prsm _ _ => .prsm
  | .ppmsm _ _ => .ppmsm
  | .bdsm _ _ => .bdsm
  | .ptsm _ _ => .ptsm
  | .pism _ _ _ => .pism
  | .prssm _ => .prssm
  | .prtsm _ _ _ => .prtsm
  | .pstsm _ _ _ => .pstsm
  | .tcsm _ _ _ => .tcsm
  | _ => .idle

/-- `MSTP_IN_all_fids_flushed` runs the topology change machine of one port by itself. -/
def Act.betweenPasses : Act → Bool
  | .tcsm _ _ _ => true
  | _ => false

/-- What the end of a stage guarantees. -/
def StageDone (br : Bridge) : Phase → Prop
  | .pism => ∀ p ∈ br.ports, 0 ∈ br.trees → pismNext br p 0 = none
  | .pstsm => ∀ p ∈ br.ports, ∀ t ∈ br.trees, pstsmNext br p t = none
  | _ => True

inductive Move
  | act (a : Act)
  | proceed

/-- The actions in the order of the passes. -/
def passActs : Labelled (Phase × Bridge) Move where
  guard
    | .act a, s => a.Guard s.2 ∧ (s.1 = a.phase ∨ s.1 = .idle ∧ a.betweenPasses = true)
    | .proceed, s => s.2.bridgeEnabled = true ∧ StageDone s.2 s.1
  act
    | .act a, s => (s.1, a.run s.2)
    | .proceed, s => (s.1.next, s.2)

/-- A condition on the actions of a run. -/
def onActs (C : Act → Bridge → Prop) : Move → Phase × Bridge → Prop
  | .act a, s => C a s.2
  | .proceed, _ => True

instance (br : Bridge) : (k : Phase) → Decidable (StageDone br k)
  | .pism => inferInstanceAs (Decidable (∀ p ∈ br.ports, 0 ∈ br.trees → pismNext br p 0 = none))
  | .pstsm =>
    have (p : PortRef) : Decidable (∀ t ∈ br.trees, pstsmNext br p t = none) :=
      List.decidableBAll (fun t => pstsmNext br p t = none) br.trees
    List.decidableBAll (fun p => ∀ t ∈ br.trees, pstsmNext br p t = none) br.ports
  | .idle | .assurance | .prsm | .ppmsm | .bdsm | .ptsm | .prssm | .prtsm | .tcsm => isTrue trivial

instance : (m : Move) → (s : Phase × Bridge) → Decidable (passActs.guard m s)
  | .act a, s =>
    inferInstanceAs (Decidable
      (a.Guard s.2 ∧ (s.1 = a.phase ∨ s.1 = .idle ∧ a.betweenPasses = true)))
  | .proceed, s => inferInstanceAs (Decidable (s.2.bridgeEnabled = true ∧ StageDone s.2 s.1))

instance (C : Act → Bridge → Prop) [∀ a b, Decidable (C a b)] :
    (m : Move) → (s : Phase × Bridge) → Decidable (onActs C m s)
  | .act a, s => inferInstanceAs (Decidable (C a s.2))
  | .proceed, _ => isTrue trivial

instance : ∀ a b, Decidable (anyAct a b) := fun _ _ => isTrue trivial

/-! ## Operations are made of actions -/

/-- A relation that the actions under the condition keep between passes, and that a run of
the machines keeps. -/
structure Composes (C : Act → Prop) (R : Bridge → Bridge → Prop) : Prop where
  refl : ∀ br, R br br
  trans : ∀ {br br' br'' : Bridge}, R br br' → R br' br'' → R br br''
  act : ∀ br a, .idle = a.phase ∨ a.betweenPasses = true → a.Guard br → C a → R br (a.run br)
  run : ∀ {late : Nat → Bool} {fuel : Nat} {br br' : Bridge},
    brStateMachinesRun late fuel br = some br' → R br br'

/-- Passes and assignments between them lead from one state to the other. -/
def Performs (br br' : Bridge) : Prop :=
  passActs.Leads (onActs anyAct) (.idle, br) (.idle, br')

section Performs

theorem Performs.refl (br : Bridge) : Performs br br := Labelled.Leads.refl _

theorem Performs.trans {br br' br'' : Bridge} (h : Performs br br') (h' : Performs br' br'') :
    Performs br br'' := Labelled.Leads.trans h h'

theorem performs_act (br : Bridge) (a : Act) (hphase : .idle = a.phase ∨ a.betweenPasses = true)
    (hg : a.Guard br) : Performs br (a.run br) :=
  Labelled.Leads.act (a := Move.act a) ⟨hg, hphase.imp_right fun h => ⟨rfl, h⟩⟩ trivial

/-- In a stage of a pass that began in `br₀`. -/
def InStage (br₀ : Bridge) (k : Phase) (br : Bridge) : Prop :=
  passActs.Leads (onActs anyAct) (.idle, br₀) (k, br) ∧ br.bridgeEnabled = true

theorem InStage.act {br₀ br : Bridge} (a : Act) (h : InStage br₀ a.phase br) (hg : a.Guard br)
    (hen : (a.run br).bridgeEnabled = br.bridgeEnabled) : InStage br₀ a.phase (a.run br) :=
  ⟨h.1.trans (Labelled.Leads.act (a := Move.act a) ⟨hg, Or.inl rfl⟩ trivial), hen.trans h.2⟩

theorem InStage.proceed {br₀ br : Bridge} {k : Phase} (h : InStage br₀ k br)
    (hdone : StageDone br k) : InStage br₀ k.next br :=
  ⟨h.1.trans (Labelled.Leads.act (a := Move.proceed) ⟨h.2, hdone⟩ trivial), h.2⟩

/-- A pass takes the actions of its stages one stage after the other. -/
theorem pass_performs {fuel : Nat} {br br' : Bridge} (hen : br.bridgeEnabled = true)
    (h : brStateMachinesPass fuel br = some br') : Performs br br' ∧ br'.bridgeEnabled = true := by
  obtain ⟨b₁, b₂, b₃, b₄, b₅, b₆, b₇, b₈, b₉, h₁, h₂, h₃, h₄, h₅, h₆, h₇, h₈, h₉, h₁₀⟩ :=
    pass_cases h
  have hrefs : ∀ o ∈ br.ptpRefs, o.1 ∈ br.ports ∧ o.2 ∈ br.trees := fun o ho => mem_ptpRefs.mp ho
  have i₀ : OnLists br.ports br.trees (InStage br .assurance) br :=
    ⟨InStage.proceed (k := .idle) ⟨.refl _, hen⟩ trivial, rfl, rfl⟩
  have i₁ : OnLists br.ports br.trees (InStage br .assurance) b₁ := by
    refine assuranceStage_inv (fun p hp b hb => ?_) i₀ h₁
    have hf := assuranceRun_frame p b
    exact hb.frame hf (hb.1.act (.assurance p) ⟨hb.1.2, hb.2.1 ▸ hp⟩ hf.enabled_eq)
  have i₂ : OnLists br.ports br.trees (InStage br .prsm) b₂ := by
    refine prsmStage_inv (fun p hp b s hb hs => ?_) ⟨i₁.1.proceed trivial, i₁.2⟩ h₂
    have hf := prsmTo_frame p s b
    exact hb.frame hf (hb.1.act (.prsm p s) ⟨hb.1.2, hb.2.1 ▸ hp, hs⟩ hf.enabled_eq)
  have i₃ : OnLists br.ports br.trees (InStage br .ppmsm) b₃ := by
    refine ppmsmStage_inv (fun p hp b s hb hs => ?_) ⟨i₂.1.proceed trivial, i₂.2⟩ h₃
    have hf := ppmsmTo_frame p s b
    exact hb.frame hf (hb.1.act (.ppmsm p s) ⟨hb.1.2, hb.2.1 ▸ hp, hs⟩ hf.enabled_eq)
  have i₄ : OnLists br.ports br.trees (InStage br .bdsm) b₄ := by
    refine bdsmStage_inv (fun p hp b s hb hs => ?_) ⟨i₃.1.proceed trivial, i₃.2⟩ h₄
    have hf := bdsmTo_frame p s b
    exact hb.frame hf (hb.1.act (.bdsm p s) ⟨hb.1.2, hb.2.1 ▸ hp, hs⟩ hf.enabled_eq)
  have i₅ : OnLists br.ports br.trees (InStage br .ptsm) b₅ := by
    refine ptsmStage_inv (fun p hp b s hb hs => ?_) ⟨i₄.1.proceed trivial, i₄.2⟩ h₅
    have hf := ptsmTo_frame p s b
    exact hb.frame hf (hb.1.act (.ptsm p s) ⟨hb.1.2, hb.2.1 ▸ hp, hs⟩ hf.enabled_eq)
  have i₆ : OnLists br.ports br.trees (InStage br .pism) b₆ := by
    refine pismStage_inv (fun o ho b s hb hs => ?_) ⟨i₅.1.proceed trivial, i₅.2⟩ h₆
    have hf := pismTo_frame o.1 o.2 s b
    exact hb.frame hf (hb.1.act (.pism o.1 o.2 s)
      ⟨hb.1.2, hb.2.1 ▸ (hrefs o ho).1, hb.2.2 ▸ (hrefs o ho).2, hs⟩ hf.enabled_eq)
  have hpism : StageDone b₆ .pism := by
    intro p hp ht
    exact pismStage_rests h₆ (p, 0) (mem_ptpRefs.mpr ⟨i₆.2.1 ▸ hp, i₆.2.2 ▸ ht⟩) rfl
  have i₇ : OnLists br.ports br.trees (InStage br .prssm) b₇ := by
    refine prssmStage_inv (fun t ht b hb hdry => ?_) ⟨i₆.1.proceed hpism, i₆.2⟩ h₇
    have hf := prssmToRoleSelection_frame t b
    exact hb.frame hf (hb.1.act (.prssm t) ⟨hb.1.2, hb.2.2 ▸ ht, hdry⟩ hf.enabled_eq)
  have i₈ : OnLists br.ports br.trees (InStage br .prtsm) b₈ := by
    refine prtsmStage_inv (fun o ho b s hb hs => ?_) ⟨i₇.1.proceed trivial, i₇.2⟩ h₈
    have hf := prtsmTo_frame (prtsmVars b o.1) o.1 o.2 s b
    exact hb.frame hf (hb.1.act (.prtsm o.1 o.2 s)
      ⟨hb.1.2, hb.2.1 ▸ (hrefs o ho).1, hb.2.2 ▸ (hrefs o ho).2, hs⟩ hf.enabled_eq)
  have i₉ : OnLists br.ports br.trees (InStage br .pstsm) b₉ := by
    refine pstsmStage_inv (fun o ho b s hb hs => ?_) ⟨i₈.1.proceed trivial, i₈.2⟩ h₉
    have hf := pstsmTo_frame o.1 o.2 s b
    exact hb.frame hf (hb.1.act (.pstsm o.1 o.2 s)
      ⟨hb.1.2, hb.2.1 ▸ (hrefs o ho).1, hb.2.2 ▸ (hrefs o ho).2, hs⟩ hf.enabled_eq)
  have hpstsm : StageDone b₉ .pstsm := by
    intro p hp t ht
    exact pstsmStage_rests h₉ (p, t) (mem_ptpRefs.mpr ⟨i₉.2.1 ▸ hp, i₉.2.2 ▸ ht⟩)
  have i₁₀ : OnLists br.ports br.trees (InStage br .tcsm) br' := by
    refine tcsmStage_inv (fun o ho b s hb hs => ?_) ⟨i₉.1.proceed hpstsm, i₉.2⟩ h₁₀
    have hf := tcsmTo_frame o.1 o.2 s b
    exact hb.frame hf (hb.1.act (.tcsm o.1 o.2 s)
      ⟨hb.1.2, hb.2.1 ▸ (hrefs o ho).1, hb.2.2 ▸ (hrefs o ho).2, hs⟩ hf.enabled_eq)
  exact i₁₀.1.proceed trivial

theorem brRun_performs {late : Nat → Bool} {fuel : Nat} {br br' : Bridge}
    (h : brStateMachinesRun late fuel br = some br') : Performs br br' := by
  rw [brStateMachinesRun] at h
  split at h
  · rename_i hen
    have hboth : Performs br br' ∧ br'.bridgeEnabled = true := by
      refine loop_inv (I := fun b => Performs br b ∧ b.bridgeEnabled = true)
        (fun b b' hb hpass => ?_) ⟨.refl br, hen⟩ h
      obtain ⟨hperf, hen'⟩ := pass_performs hb.2 hpass
      exact ⟨hb.1.trans hperf, hen'⟩
    exact hboth.1
  · exact Option.some.inj h ▸ .refl br

theorem performs_composes : Composes (fun _ => True) Performs where
  refl := .refl
  trans := .trans
  act br a hphase hg _ := performs_act br a hphase hg
  run := brRun_performs

end Performs

section Composes

variable {C : Act → Prop} {R : Bridge → Bridge → Prop}

theorem Composes.mono {D : Act → Prop} (hR : Composes D R) (hCD : ∀ a, C a → D a) :
    Composes C R where
  refl := hR.refl
  trans := hR.trans
  act br a hphase hg hC := hR.act br a hphase hg (hCD a hC)
  run := hR.run

theorem Composes.begin (hR : Composes C R) {late : Nat → Bool} {fuel : Nat} {br br' : Bridge}
    (h : brStateMachinesBegin late fuel br = some br') : R (bridgeBegin br) br' := by
  rw [brStateMachinesBegin] at h
  rw [bridgeBegin]
  split at h
  · rename_i hen
    rw [if_pos hen]
    exact hR.run h
  · rename_i hen
    rw [if_neg hen]
    exact Option.some.inj h ▸ hR.refl br

theorem Composes.stay (hR : Composes C R) {br b : Bridge} {ok ok' : Bool}
    (h : some (br, ok) = some (b, ok')) : R br b :=
  (Prod.mk.inj (Option.some.inj h)).1 ▸ hR.refl br

theorem Composes.createPort (hR : Composes C R) {env : Env} {p : PortRef} {portno : UInt16}
    {name : String} {speed duplex : Int} {br br' : Bridge} {ok : Bool}
    (hC : C (.createPort p portno name speed duplex))
    (hv : (Op.createPort p portno name speed duplex).Valid br)
    (h : mstpInPortCreateAndAddTail env p portno name speed duplex br = some (br', ok)) :
    R br br' := by
  rcases createPort_cases h with rfl | hbegin
  · exact hR.refl br'
  · have hcreate : R br (portBegin p (addPort p portno name speed duplex br)) :=
      hR.act br (.createPort p portno name speed duplex) (.inl rfl) hv hC
    refine hR.trans hcreate ?_
    rw [prtStateMachinesBegin] at hbegin
    rw [portBegin]
    split at hbegin
    · rename_i hen
      rw [if_pos hen]
      exact hR.run hbegin
    · rename_i hen
      rw [if_neg hen]
      exact Option.some.inj hbegin ▸ hR.refl _

theorem Composes.createMsti (hR : Composes C R) {env : Env} {mstid : UInt16} {br br' : Bridge}
    {ok : Bool} (hC : ∀ trees, C (.createMsti mstid trees))
    (h : mstpInCreateMsti env mstid br = some (br', ok)) : R br br' := by
  rw [mstpInCreateMsti] at h
  split at h
  · exact hR.stay h
  · rename_i hrange
    split at h
    · exact hR.stay h
    · rename_i hnew
      split at h
      · exact hR.stay h
      · rename_i trees htrees
        split at h
        · exact hR.stay h
        · rename_i hcount
          split at h
          · exact hR.stay h
          · have hne : mstid ≠ 0 := by
              rintro rfl
              exact hrange (Or.inl (by decide))
            have hcreate : R br (treeBegin mstid (addTree mstid trees br)) :=
              hR.act br (.createMsti mstid trees) (.inl rfl)
                ⟨hne, by omega, by simpa using hnew, by omega, htrees⟩ (hC trees)
            refine hR.trans hcreate ?_
            have hbegin := map_true h
            rw [treeStateMachinesBegin] at hbegin
            rw [treeBegin]
            split at hbegin
            · rename_i hen
              rw [if_pos hen]
              exact hR.run hbegin
            · rename_i hen
              rw [if_neg hen]
              exact Option.some.inj hbegin ▸ hR.refl _

theorem Composes.deleteMsti (hR : Composes C R) {env : Env} {mstid : UInt16} {br br' : Bridge}
    {ok : Bool} (hC : C (.removeMsti mstid))
    (h : mstpInDeleteMsti env mstid br = some (br', ok)) : R br br' := by
  rw [mstpInDeleteMsti] at h
  split at h
  · exact hR.stay h
  · rename_i hrange
    split at h
    · exact hR.stay h
    · split at h
      · exact hR.stay h
      · rename_i hmem
        have hne : mstid ≠ 0 := by
          rintro rfl
          exact hrange (Or.inl (by decide))
        refine hR.trans ?_ (hR.run (map_true h))
        exact hR.act br (.removeMsti mstid) (.inl rfl) ⟨hne, by simpa using hmem⟩ hC

/-- The marks of a deleted port stay while the machines run. -/
theorem deleted_stepInv (p : PortRef) :
    StepInv fun b => p ∈ b.ports ∧ (b.port p).deleted = true ∧ (b.port p).portEnabled = false := by
  have keep : ∀ {o : Owned} [o.KeepsLists] {b b' : Bridge}, Frame o b b' →
      (∀ x, ((o.port x).deleted, (o.port x).portEnabled) = (x.deleted, x.portEnabled)) →
      (p ∈ b.ports ∧ (b.port p).deleted = true ∧ (b.port p).portEnabled = false) →
      (p ∈ b'.ports ∧ (b'.port p).deleted = true ∧ (b'.port p).portEnabled = false) := by
    intro o _ b b' hf hmarks hi
    have h := hf.port_eq (fun x => (x.deleted, x.portEnabled)) hmarks p
    simp only [Prod.mk.injEq] at h
    rw [hf.ports_eq, h.1, h.2]
    exact hi
  constructor
  · exact fun br q hi _ => keep (assuranceRun_frame q br) (fun _ => rfl) hi
  · exact fun br q s hi _ _ => keep (prsmTo_frame q s br) (fun _ => rfl) hi
  · exact fun br q s hi _ _ => keep (ppmsmTo_frame q s br) (fun _ => rfl) hi
  · exact fun br q s hi _ _ => keep (bdsmTo_frame q s br) (fun _ => rfl) hi
  · exact fun br q s hi _ _ => keep (ptsmTo_frame q s br) (fun _ => rfl) hi
  · exact fun br q t s hi _ _ _ => keep (pismTo_frame q t s br) (fun _ => rfl) hi
  · exact fun br t hi _ _ =>
      keep (prssmToRoleSelection_frame t br) (fun _ => rfl) hi
  · exact fun br q t s hi _ _ _ =>
      keep (prtsmTo_frame _ q t s br) (fun _ => rfl) hi
  · exact fun br q t s hi _ _ _ => keep (pstsmTo_frame q t s br) (fun _ => rfl) hi
  · exact fun br q t s hi _ _ _ => keep (tcsmTo_frame q t s br) (fun _ => rfl) hi

theorem Composes.deletePort (hR : Composes C R) {env : Env} {p : PortRef} {br br' : Bridge}
    (hmarkC : C (.markDeleted p)) (hremoveC : C (.removePort p)) (hp : p ∈ br.ports)
    (h : mstpInDeletePort env p br = some br') : R br br' := by
  obtain ⟨b, hb, hrun⟩ := deletePort_cases h
  have hmark : p ∈ (markDeleted p br).ports ∧ ((markDeleted p br).port p).deleted = true ∧
      ((markDeleted p br).port p).portEnabled = false := by
    simp [markDeleted, setPort, hp]
  have hboth : R (markDeleted p br) b ∧
      (p ∈ b.ports ∧ (b.port p).deleted = true ∧ (b.port p).portEnabled = false) := by
    rcases hb with hb | ⟨-, rfl⟩
    · exact ⟨hR.run hb, (deleted_stepInv p).brRun hmark hb⟩
    · exact ⟨hR.refl _, hmark⟩
  have hmarked : R br b :=
    hR.trans (hR.act br (.markDeleted p) (.inl rfl) hp hmarkC) hboth.1
  have hremoved : R b { b with ports := b.ports.erase p } :=
    hR.act b (.removePort p) (.inl rfl) hboth.2 hremoveC
  exact hR.trans hmarked (hR.trans hremoved (hR.run hrun))

theorem Composes.setPortEnable (hR : Composes C R) {env : Env} {p : PortRef} {up : Bool}
    {speed duplex : Int} {br br' : Bridge} (hup : up = true → C (.linkUp p speed duplex))
    (hdown : up = false → C (.linkDown p)) (hp : p ∈ br.ports)
    (h : mstpInSetPortEnable env p up speed duplex br = some br') : R br br' := by
  rw [mstpInSetPortEnable] at h
  split at h
  · rename_i htrue
    have hlink := hR.act br (.linkUp p speed duplex) (.inl rfl) hp (hup htrue)
    dsimp only at h
    split at h
    · exact hR.trans hlink (hR.run h)
    · exact Option.some.inj h ▸ hlink
  · rename_i hfalse
    have hfalse : up = false := by simpa using hfalse
    split at h
    · exact hR.trans (hR.act br (.linkDown p) (.inl rfl) hp (hdown hfalse)) (hR.run h)
    · exact Option.some.inj h ▸ hR.refl br

theorem Composes.allFidsFlushed (hR : Composes C R) {env : Env} {p : PortRef} {t : Mstid}
    {br br' : Bridge} (hC : C (.flushed p t)) (htcsm : ∀ s, C (.tcsm p t s)) (hp : p ∈ br.ports)
    (ht : t ∈ br.trees) (h : mstpInAllFidsFlushed env p t br = some br') : R br br' := by
  have hflush := hR.act br (.flushed p t) (.inl rfl) ⟨hp, ht⟩ hC
  rw [mstpInAllFidsFlushed] at h
  split at h
  · rename_i hen
    obtain ⟨b, hb, hrun⟩ := Option.bind_eq_some_iff.mp h
    have hen' := (Bool.and_eq_true_iff.mp hen).1
    have hi : R br b ∧ b.bridgeEnabled = true ∧ p ∈ b.ports ∧ t ∈ b.trees := by
      refine run_inv (I := fun c => R br c ∧ c.bridgeEnabled = true ∧
        p ∈ c.ports ∧ t ∈ c.trees) ?_ ⟨hflush, hen', hp, ht⟩ hb
      intro c c' more hc hstep
      obtain ⟨s, hs, heq⟩ := Option.map_eq_some_iff.mp hstep
      have hframe := tcsmTo_frame p t s c
      rw [← (Prod.mk.inj heq).1]
      have htcsm := hR.act c (.tcsm p t s) (.inr rfl) ⟨hc.2.1, hc.2.2.1, hc.2.2.2, hs⟩ (htcsm s)
      exact ⟨hR.trans hc.1 htcsm, hframe.enabled_eq ▸ hc.2.1, hframe.ports_eq ▸ hc.2.2.1,
        hframe.trees_eq ▸ hc.2.2.2⟩
    exact hR.trans hi.1 (hR.run hrun)
  · exact Option.some.inj h ▸ hflush

theorem Composes.rxBpdu (hR : Composes C R) {env : Env} {p : PortRef} {bpdu : Mem} {size : Nat}
    {br br' : Bridge} (hC : C (.rxBpdu p bpdu size)) (hp : p ∈ br.ports)
    (h : mstpInRxBpdu env p bpdu size br = some br') : R br br' := by
  have hrx : R br (rxAssign p bpdu size br) := hR.act br (.rxBpdu p bpdu size) (.inl rfl) hp hC
  rw [rxAssign] at hrx
  rw [mstpInRxBpdu] at h
  split at h
  · rename_i hrefusal
    rw [hrefusal] at hrx
    exact Option.some.inj h ▸ hrx
  · rename_i hrefusal
    rw [hrefusal] at hrx
    exact Option.some.inj h ▸ hrx
  · rename_i r hguarded hfiltered hrefusal
    rw [hrefusal] at hrx
    cases r with
    | guarded => exact absurd rfl hguarded
    | filtered => exact absurd rfl hfiltered
    | bridgeDisabled => exact Option.some.inj h ▸ hrx
    | notProcessed => exact Option.some.inj h ▸ hrx
  · rename_i hrefusal
    rw [hrefusal] at hrx
    split at h
    · rename_i hvalid
      rw [hvalid] at hrx
      exact Option.some.inj h ▸ hrx
    · rename_i version mstis hvalid
      rw [hvalid] at hrx
      exact hR.trans hrx (hR.run h)

theorem Composes.setBridgeEnable (hR : Composes C R) {env : Env} {up : Bool} {br br' : Bridge}
    (hC : C (.switchBridge up)) (h : mstpInSetBridgeEnable env up br = some br') : R br br' := by
  rcases setBridgeEnable_cases h with rfl | ⟨hup, hbegin⟩
  · exact hR.refl br'
  · exact hR.trans (hR.act br (.switchBridge up) (.inl rfl) hup hC) (hR.begin hbegin)

theorem Composes.oneSecond (hR : Composes C R) {env : Env} {br br' : Bridge} (htick : C .tick)
    (hidle : C .idleSecond) (h : mstpInOneSecond env br = some br') : R br br' := by
  rw [mstpInOneSecond] at h
  split at h
  · rename_i hen
    exact hR.trans (hR.act br .tick (.inl rfl) hen htick) (hR.run h)
  · rename_i hen
    have hdisabled : br.bridgeEnabled = false := by simpa using hen
    exact Option.some.inj h ▸ hR.act br .idleSecond (.inl rfl) hdisabled hidle

theorem Composes.setBridgeAddress (hR : Composes C R) {env : Env} {macaddr : BitVec 48}
    {br br' : Bridge} (hC : C (.bridgeAddress macaddr))
    (h : mstpInSetBridgeAddress env macaddr br = some br') : R br br' := by
  have hwrite : R br
      (if br.trees.any fun s => (br.tree s).bridgeIdentifier.macAddress != macaddr then
        bridgeBegin (writeAddress macaddr br)
      else writeAddress macaddr br) := hR.act br (.bridgeAddress macaddr) (.inl rfl) trivial hC
  rw [mstpInSetBridgeAddress] at h
  split at h
  · rename_i hchanged
    rw [if_pos hchanged] at hwrite
    exact hR.trans hwrite (hR.begin h)
  · rename_i hchanged
    rw [if_neg hchanged] at hwrite
    exact Option.some.inj h ▸ hwrite

theorem bridgeBegin_disabled {br : Bridge} (h : br.bridgeEnabled = false) :
    bridgeBegin br = br := by
  rw [bridgeBegin, if_neg (by simp [h])]

theorem Composes.setCistBridgeConfig (hR : Composes C R) {env : Env} {cfg : CistBridgeConfig}
    {br br' : Bridge} {ok : Bool} (hC : C (.bridgeConfig cfg))
    (h : mstpInSetCistBridgeConfig env cfg br = some (br', ok)) : R br br' := by
  rw [mstpInSetCistBridgeConfig] at h
  split at h
  · exact hR.stay h
  · rename_i hok
    have hok : cistBridgeConfigOk br cfg = true := by simpa using hok
    have hwrite : R br
        (if (assignParameters cfg br).forceProtocolVersion != br.forceProtocolVersion then
          bridgeBegin (writeBridgeConfig cfg br)
        else writeBridgeConfig cfg br) := hR.act br (.bridgeConfig cfg) (.inl rfl) hok hC
    have henabled : (writeBridgeConfig cfg br).bridgeEnabled = br.bridgeEnabled :=
      (writeBridgeConfig_opFrame cfg br).frame.enabled_eq
    split at h
    · split at h
      · rename_i hversion
        rw [if_pos hversion] at hwrite
        exact hR.trans hwrite (hR.begin (map_true h))
      · rename_i hversion
        rw [if_neg hversion] at hwrite
        split at h
        · exact hR.trans hwrite (hR.run (map_true h))
        · exact hR.trans hwrite (hR.stay h)
    · rename_i hen
      rw [bridgeBegin_disabled (henabled.trans (by simpa using hen)), ite_self] at hwrite
      exact hR.trans hwrite (hR.stay h)

theorem Composes.setCistPortConfig (hR : Composes C R) {env : Env} {p : PortRef}
    {cfg : CistPortConfig} {br br' : Bridge} {ok : Bool}
    (hC : cfg.adminExternalPortPathCost.any (fun c => decide (maxPathCost < c)) = false →
      C (.portConfig p cfg)) (hp : p ∈ br.ports)
    (h : mstpInSetCistPortConfig env p cfg br = some (br', ok)) : R br br' := by
  rw [mstpInSetCistPortConfig] at h
  split at h
  · exact hR.stay h
  · rename_i hok
    refine hR.trans (hR.act br (.portConfig p cfg) (.inl rfl) hp (hC (by simpa using hok))) ?_
    split at h
    · exact hR.run (map_true h)
    · exact hR.stay h

theorem Composes.setMstiPortConfig (hR : Composes C R) {env : Env} {p : PortRef} {t : Mstid}
    {cfg : MstiPortConfig} {br br' : Bridge} {ok : Bool}
    (hC : cfg.adminInternalPortPathCost.any (fun c => decide (maxPathCost < c)) = false →
      C (.mstiPortConfig p t cfg)) (hp : p ∈ br.ports) (ht : t ∈ br.trees)
    (h : mstpInSetMstiPortConfig env p t cfg br = some (br', ok)) : R br br' := by
  rw [mstpInSetMstiPortConfig] at h
  split at h
  · exact hR.stay h
  · rename_i hok
    simp only [Bool.or_eq_true, not_or, Bool.not_eq_true] at hok
    have hwrite : R br (writePtpConfig p t cfg br) :=
      hR.act br (.mstiPortConfig p t cfg) (.inl rfl) ⟨hp, ht, hok.1⟩ (hC hok.2)
    rw [writePtpConfig] at hwrite
    dsimp only at h hwrite
    split at h
    · rename_i hchanged
      rw [if_pos hchanged] at hwrite
      exact hR.trans hwrite (hR.run (map_true h))
    · rename_i hchanged
      rw [if_neg hchanged] at hwrite
      exact hR.trans hwrite (hR.stay h)

theorem Composes.portMcheck (hR : Composes C R) {env : Env} {p : PortRef} {br br' : Bridge}
    (hC : C (.mcheck p)) (hp : p ∈ br.ports) (h : mstpInPortMcheck env p br = some br') :
    R br br' := by
  rw [mstpInPortMcheck] at h
  split at h
  · rename_i hen
    have hmcheck := hR.act br (.mcheck p) (.inl rfl) ⟨hp, (Bool.and_eq_true_iff.mp hen).2⟩ hC
    exact hR.trans hmcheck (hR.run h)
  · exact Option.some.inj h ▸ hR.refl br

theorem Composes.tablesWritten (hR : Composes C R) {env : Env} {changed ok : Bool}
    {br br' : Bridge} {vid2fid fid2mstid : Nat → UInt16}
    (hC : ∀ env changed vid2fid fid2mstid, C (.tables env changed vid2fid fid2mstid))
    (h : tablesWritten env changed { br with vid2fid := vid2fid, fid2mstid := fid2mstid }
      = some (br', ok)) : R br br' := by
  have hwrite : R br
      (if changed then bridgeBegin (writeTables env changed vid2fid fid2mstid br)
      else writeTables env changed vid2fid fid2mstid br) :=
    hR.act br (.tables env changed vid2fid fid2mstid) (.inl rfl) trivial (hC _ _ _ _)
  rw [writeTables] at hwrite
  rw [Mstpd.tablesWritten] at h
  split at h
  · rename_i hchanged
    rw [if_pos hchanged, if_pos hchanged] at hwrite
    exact hR.trans hwrite (hR.begin (map_true h))
  · rename_i hchanged
    rw [if_neg hchanged, if_neg hchanged] at hwrite
    exact hR.trans hwrite (hR.stay h)

theorem Composes.setFid2mstid (hR : Composes C R) {env : Env} {fid mstid : UInt16}
    {br br' : Bridge} {ok : Bool}
    (hC : ∀ env changed vid2fid fid2mstid, C (.tables env changed vid2fid fid2mstid))
    (h : mstpInSetFid2mstid env fid mstid br = some (br', ok)) : R br br' := by
  rw [mstpInSetFid2mstid] at h
  split at h
  · exact hR.stay h
  · split at h
    · exact hR.stay h
    · split at h
      · exact hR.stay h
      · exact hR.tablesWritten hC h

theorem Composes.setVid2fid (hR : Composes C R) {env : Env} {vid fid : UInt16}
    {br br' : Bridge} {ok : Bool}
    (hC : ∀ env changed vid2fid fid2mstid, C (.tables env changed vid2fid fid2mstid))
    (h : mstpInSetVid2fid env vid fid br = some (br', ok)) : R br br' := by
  rw [mstpInSetVid2fid] at h
  split at h
  · exact hR.stay h
  · exact hR.tablesWritten hC h

theorem Composes.setAllVids2fids (hR : Composes C R) {env : Env} {f : Nat → UInt16}
    {br br' : Bridge} {ok : Bool}
    (hC : ∀ env changed vid2fid fid2mstid, C (.tables env changed vid2fid fid2mstid))
    (h : mstpInSetAllVids2fids env f br = some (br', ok)) : R br br' := by
  rw [mstpInSetAllVids2fids] at h
  exact hR.tablesWritten hC h

theorem Composes.setAllFids2mstids (hR : Composes C R) {env : Env} {f : Nat → UInt16}
    {br br' : Bridge} {ok : Bool}
    (hC : ∀ env changed vid2fid fid2mstid, C (.tables env changed vid2fid fid2mstid))
    (h : mstpInSetAllFids2mstids env f br = some (br', ok)) : R br br' := by
  rw [mstpInSetAllFids2mstids] at h
  split at h
  · exact hR.stay h
  · exact hR.tablesWritten hC h

theorem cName_length (name : Nat → UInt8) : (cName name).length ≤ 32 := by
  have h := (List.takeWhile_sublist (p := (· != 0)) (l := (List.range 32).map name)).length_le
  simpa [cName] using h

theorem Composes.setMstConfigId (hR : Composes C R) {env : Env} {revision : UInt16}
    {name : Nat → UInt8} {br br' : Bridge} (hC : ∀ name, C (.configId revision name))
    (h : mstpInSetMstConfigId env revision name br = some br') : R br br' := by
  rw [mstpInSetMstConfigId] at h
  split at h
  · have hlen : (cName name ++ List.replicate (32 - (cName name).length) 0).length = 32 := by
      have hle := cName_length name
      simp only [List.length_append, List.length_replicate]
      omega
    exact hR.trans (hR.act br (.configId revision _) (.inl rfl) hlen (hC _)) (hR.begin h)
  · exact Option.some.inj h ▸ hR.refl br

/-- The actions that an operation takes between passes. -/
def Op.Takes : Op → Act → Prop
  | .createPort p portno name speed duplex, a => a = .createPort p portno name speed duplex
  | .deletePort p, a => a = .markDeleted p ∨ a = .removePort p
  | .setBridgeAddress macaddr, a => a = .bridgeAddress macaddr
  | .setBridgeEnable up, a => a = .switchBridge up
  | .setPortEnable p up speed duplex, a =>
    up = true ∧ a = .linkUp p speed duplex ∨ up = false ∧ a = .linkDown p
  | .oneSecond, a => a = .tick ∨ a = .idleSecond
  | .allFidsFlushed p t, a => a = .flushed p t ∨ ∃ s, a = .tcsm p t s
  | .rxBpdu p bpdu size, a => a = .rxBpdu p bpdu size
  | .setCistBridgeConfig cfg, a => a = .bridgeConfig cfg
  | .setMstiBridgeConfig t prio, a => a = .mstiBridgeConfig t prio
  | .setCistPortConfig p cfg, a =>
    cfg.adminExternalPortPathCost.any (fun c => decide (maxPathCost < c)) = false ∧
      a = .portConfig p cfg
  | .setMstiPortConfig p t cfg, a =>
    cfg.adminInternalPortPathCost.any (fun c => decide (maxPathCost < c)) = false ∧
      a = .mstiPortConfig p t cfg
  | .portMcheck p, a => a = .mcheck p
  | .setVid2fid .., a => ∃ env changed vid2fid fid2mstid, a = .tables env changed vid2fid fid2mstid
  | .setAllVids2fids .., a =>
    ∃ env changed vid2fid fid2mstid, a = .tables env changed vid2fid fid2mstid
  | .setFid2mstid .., a =>
    ∃ env changed vid2fid fid2mstid, a = .tables env changed vid2fid fid2mstid
  | .setAllFids2mstids .., a =>
    ∃ env changed vid2fid fid2mstid, a = .tables env changed vid2fid fid2mstid
  | .createMsti mstid, a => ∃ trees, a = .createMsti mstid trees
  | .deleteMsti mstid, a => a = .removeMsti mstid
  | .setMstConfigId revision _, a => ∃ name, a = .configId revision name
  | .sysdeps p speed duplex, a => a = .sysdeps p speed duplex

/-- An operation takes its actions and runs the machines, and does nothing else. -/
theorem exec_composes {env : Env} {op : Op} {br br' : Bridge} {ok : Bool}
    (hR : Composes op.Takes R) (hv : op.Valid br) (h : exec env br op = some (br', ok)) :
    R br br' := by
  cases op with
  | createPort p portno name speed duplex => exact hR.createPort rfl hv h
  | deletePort p => exact hR.deletePort (Or.inl rfl) (Or.inr rfl) hv (map_true h)
  | setBridgeAddress macaddr => exact hR.setBridgeAddress rfl (map_true h)
  | setBridgeEnable up => exact hR.setBridgeEnable rfl (map_true h)
  | setPortEnable p up speed duplex =>
    exact hR.setPortEnable (fun hup => Or.inl ⟨hup, rfl⟩) (fun hdown => Or.inr ⟨hdown, rfl⟩) hv
      (map_true h)
  | oneSecond => exact hR.oneSecond (Or.inl rfl) (Or.inr rfl) (map_true h)
  | allFidsFlushed p t =>
    exact hR.allFidsFlushed (Or.inl rfl) (fun s => Or.inr ⟨s, rfl⟩) hv.1 hv.2 (map_true h)
  | rxBpdu p bpdu size => exact hR.rxBpdu rfl hv (map_true h)
  | setCistBridgeConfig cfg => exact hR.setCistBridgeConfig rfl h
  | setMstiBridgeConfig t prio =>
    have hpair : mstpInSetMstiBridgeConfig t prio br = (br', ok) := Option.some.inj h
    have hlead : R br (mstpInSetMstiBridgeConfig t prio br).1 :=
      hR.act br (.mstiBridgeConfig t prio) (.inl rfl) hv rfl
    rw [hpair] at hlead
    exact hlead
  | setCistPortConfig p cfg => exact hR.setCistPortConfig (fun hok => ⟨hok, rfl⟩) hv h
  | setMstiPortConfig p t cfg =>
    exact hR.setMstiPortConfig (fun hok => ⟨hok, rfl⟩) hv.1 hv.2 h
  | portMcheck p => exact hR.portMcheck rfl hv (map_true h)
  | setVid2fid vid fid => exact hR.setVid2fid (fun _ _ _ _ => ⟨_, _, _, _, rfl⟩) h
  | setAllVids2fids f => exact hR.setAllVids2fids (fun _ _ _ _ => ⟨_, _, _, _, rfl⟩) h
  | setFid2mstid fid mstid => exact hR.setFid2mstid (fun _ _ _ _ => ⟨_, _, _, _, rfl⟩) h
  | setAllFids2mstids f =>
    rw [exec] at h
    exact hR.setAllFids2mstids (fun _ _ _ _ => ⟨_, _, _, _, rfl⟩) h
  | createMsti mstid => exact hR.createMsti (fun trees => ⟨trees, rfl⟩) h
  | deleteMsti mstid => exact hR.deleteMsti rfl h
  | setMstConfigId revision name =>
    exact hR.setMstConfigId (fun name => ⟨name, rfl⟩) (map_true h)
  | sysdeps p speed duplex =>
    have hlead : R br (br.setPort p fun prt => { prt with speed := speed, duplex := duplex }) :=
      hR.act br (.sysdeps p speed duplex) (.inl rfl) hv rfl
    rw [(Prod.mk.inj (Option.some.inj h)).1] at hlead
    exact hlead

/-- Every operation takes actions only. -/
theorem exec_performs {env : Env} {op : Op} {br br' : Bridge} {ok : Bool} (hv : op.Valid br)
    (h : exec env br op = some (br', ok)) : Performs br br' :=
  exec_composes (performs_composes.mono fun _ _ => trivial) hv h

end Composes

/-! ## Runs of actions -/

/-- The states that actions under a condition lead to from the creation of a bridge,
between operations and inside them. -/
def Visited (C : Act → Bridge → Prop) (br : Bridge) : Prop :=
  ∃ env macaddr, bridgeActs.Leads C (mstpInBridgeCreate env macaddr) br

theorem Visited.inv {C : Act → Bridge → Prop} {I : Bridge → Prop}
    (init : ∀ env macaddr, I (mstpInBridgeCreate env macaddr))
    (step : ∀ a br, I br → a.Guard br → C a br → I (a.run br)) {br : Bridge} (h : Visited C br) :
    I br := by
  obtain ⟨env, macaddr, hlead⟩ := h
  exact hlead.inv step (init env macaddr)

/-- The states of a run under a condition on its actions, with the point of the pass at
which they are reached. -/
def VisitedAt (C : Act → Bridge → Prop) (k : Phase) (br : Bridge) : Prop :=
  ∃ env macaddr, passActs.Leads (onActs C) (.idle, mstpInBridgeCreate env macaddr) (k, br)

/-- The point of a pass at which an action may stand. -/
def Act.At (a : Act) (k : Phase) : Prop := k = a.phase ∨ k = .idle ∧ a.betweenPasses = true

theorem VisitedAt.act {C : Act → Bridge → Prop} {k : Phase} {br : Bridge} (h : VisitedAt C k br)
    {a : Act} (hg : a.Guard br) (hat : a.At k) (hC : C a br) : VisitedAt C k (a.run br) := by
  obtain ⟨env, macaddr, hlead⟩ := h
  exact ⟨env, macaddr, hlead.trans (.act (a := Move.act a) ⟨hg, hat⟩ hC)⟩

/-- What the actions preserve since a visited state. -/
theorem VisitedAt.since {C D : Act → Bridge → Prop} {I : Phase → Bridge → Prop} {k k' : Phase}
    {br br' : Bridge} (hv : VisitedAt C k br) (hDC : ∀ a b, D a b → C a b) (hi : I k br)
    (step : ∀ a k br, VisitedAt C k br → I k br → a.Guard br → a.At k → D a br → I k (a.run br))
    (proceed : ∀ k br, VisitedAt C k br → I k br → br.bridgeEnabled = true → StageDone br k →
      I k.next br)
    (h : passActs.Leads (onActs D) (k, br) (k', br')) : I k' br' := by
  have hboth : VisitedAt C k' br' ∧ I k' br' := by
    refine Labelled.Leads.inv (I := fun s => VisitedAt C s.1 s.2 ∧ I s.1 s.2) ?_ ⟨hv, hi⟩ h
    intro m s hs hg hD
    obtain ⟨env, macaddr, hbefore⟩ := hs.1
    cases m with
    | act a =>
      exact ⟨⟨env, macaddr, hbefore.trans (.act hg (hDC a s.2 hD))⟩,
        step a s.1 s.2 hs.1 hs.2 hg.1 hg.2 hD⟩
    | proceed =>
      exact ⟨⟨env, macaddr, hbefore.trans (.act hg trivial)⟩,
        proceed s.1 s.2 hs.1 hs.2 hg.1 hg.2⟩
  exact hboth.2

theorem VisitedAt.inv {C : Act → Bridge → Prop} {I : Phase → Bridge → Prop}
    (init : ∀ env macaddr, I .idle (mstpInBridgeCreate env macaddr))
    (step : ∀ a k br, VisitedAt C k br → I k br → a.Guard br → a.At k → C a br → I k (a.run br))
    (proceed : ∀ k br, VisitedAt C k br → I k br → br.bridgeEnabled = true → StageDone br k →
      I k.next br)
    {k : Phase} {br : Bridge} (h : VisitedAt C k br) : I k br := by
  obtain ⟨env, macaddr, hlead⟩ := h
  exact VisitedAt.since ⟨env, macaddr, .refl _⟩ (fun _ _ => id)
    (init env macaddr) step proceed hlead

/-- The order of the actions forgotten. -/
theorem VisitedAt.visited {C : Act → Bridge → Prop} {k : Phase} {br : Bridge}
    (h : VisitedAt C k br) : Visited C br := by
  obtain ⟨env, macaddr, hlead⟩ := h
  refine ⟨env, macaddr, hlead.map Prod.snd fun m s hg hC => ?_⟩
  cases m with
  | act a => exact Labelled.Leads.act (S := bridgeActs) hg.1 hC
  | proceed => exact Labelled.Leads.refl s.2

theorem Reachable.visitedAt {A : Allowed} {br : Bridge} (h : Reachable A br) :
    VisitedAt anyAct .idle br := by
  obtain ⟨env, macaddr, hrun⟩ := h
  refine ⟨env, macaddr, ?_⟩
  induction hrun with
  | refl => exact .refl _
  | tail _ hstep ih =>
    obtain ⟨env', op, ok, hv, -, hexec⟩ := hstep
    exact ih.trans (exec_performs hv hexec)

theorem Reachable.visited {A : Allowed} {br : Bridge} (h : Reachable A br) : Visited anyAct br :=
  h.visitedAt.visited

/-! ## What an action owns -/

/-- No statement about the fields. -/
def everything : Owned where
  config _ := {}
  ptp _ := {}
  port _ := {}
  tree _ := {}
  out _ := true

/-- The fields that an action may write. For those that include a BEGIN see `BeginInv`. -/
def Act.owned : Act → Owned
  | .assurance _ => assuranceOwned
  | .prsm _ _ => prsmOwned
  | .ppmsm _ _ => ppmsmOwned
  | .bdsm _ _ => bdsmOwned
  | .ptsm _ _ => ptsmOwned
  | .pism _ _ _ => pismOwned
  | .prssm _ => prssmOwned
  | .prtsm _ _ _ => prtsmOwned
  | .pstsm _ _ _ => pstsmOwned
  | .tcsm _ _ _ => tcsmOwned
  | .createPort _ _ _ _ _ => everything
  | .markDeleted _ => { port := fun x => { x with deleted := false, portEnabled := false } }
  | .removePort _ => { config := fun b => { b with ports := [] } }
  | .createMsti _ _ => everything
  | .removeMsti _ => { config := fun b => { b with trees := [] } }
  | .switchBridge _ => everything
  | .tick => tickOwned
  | .idleSecond => tickOwned
  | .linkUp _ _ _ => linkOwned
  | .linkDown _ => linkOwned
  | .flushed _ _ => { ptp := fun x => { x with fdbFlush := false } }
  | .rxBpdu _ _ _ => rxOwned
  | .bridgeAddress _ => everything
  | .bridgeConfig _ => everything
  | .mstiBridgeConfig _ _ => managementOwned
  | .portConfig _ _ => managementOwned
  | .mstiPortConfig _ _ _ => managementOwned
  | .mcheck _ => managementOwned
  | .tables _ _ _ _ => everything
  | .configId _ _ => everything
  | .sysdeps _ _ _ => managementOwned

theorem everything_frame (br br' : Bridge) : Frame everything br br' where
  config := rfl
  ptp _ _ := rfl
  port _ := rfl
  tree _ := rfl
  out := by
    have hnone : ∀ l : List MstpOut, l.filter (fun c => !everything.out c) = [] := fun l =>
      List.filter_eq_nil_iff.mpr fun _ _ => Bool.false_ne_true
    rw [hnone, hnone]

theorem writeAddress_frame (macaddr : BitVec 48) (br : Bridge) :
    Frame managementOwned br (writeAddress macaddr br) := by
  rw [writeAddress]
  refine Frame.forAll (fun s b => Frame.setTree fun x => ?_) br.trees br
  rw [treeAddress]
  split <;> rfl

theorem linkUp_frame (p : PortRef) (speed duplex : Int) (br : Bridge) :
    Frame linkOwned br (linkUp p speed duplex br) := by
  have hassign := assignLink_frame p speed duplex br
  exact Frame.ite hassign (hassign.trans (portUp_frame p _))

theorem rxAssign_frame (p : PortRef) (bpdu : Mem) (size : Nat) (br : Bridge) :
    Frame rxOwned br (rxAssign p bpdu size br) := by
  have hcount : Frame rxOwned br (br.setPort p fun prt =>
      { prt with numRxBpdu := prt.numRxBpdu + 1 }) := Frame.setPort fun _ => rfl
  rw [rxAssign]
  split
  · exact Frame.after (Frame.emit rfl) (Frame.after (Frame.setPort fun _ => rfl) hcount)
  · exact Frame.after (Frame.setPort fun _ => rfl) hcount
  · exact hcount
  · split
    · exact hcount
    · exact hcount.trans (acceptBpdu_frame p bpdu _ _ _)

theorem writePtpConfig_frame (p : PortRef) (t : Mstid) (cfg : MstiPortConfig) (br : Bridge) :
    Frame managementOwned br (writePtpConfig p t cfg br) := by
  have hassign : Frame managementOwned br
      (br.setPtp p t (assignPtpConfig (br.port p).speed cfg)) := Frame.setPtp fun _ => rfl
  rw [writePtpConfig]
  exact Frame.ite (hassign.trans (Frame.setPtp fun _ => rfl)) hassign

theorem writeTables_frame (env : Env) (changed : Bool) (vid2fid fid2mstid : Nat → UInt16)
    (br : Bridge) : Frame managementOwned br (writeTables env changed vid2fid fid2mstid br) := by
  have hwrite : Frame managementOwned br { br with vid2fid := vid2fid, fid2mstid := fid2mstid } :=
    ⟨rfl, fun _ _ => rfl, fun _ => rfl, fun _ => rfl, rfl⟩
  exact Frame.ite (hwrite.trans (recalcConfigDigest_opFrame env _).frame) hwrite

theorem writeConfigId_frame (revision : UInt16) (name : List UInt8) (br : Bridge) :
    Frame managementOwned br (writeConfigId revision name br) :=
  ⟨rfl, fun _ _ => rfl, fun _ => rfl, fun _ => rfl, rfl⟩

theorem Act.frame (a : Act) (br : Bridge) : Frame a.owned br (a.run br) := by
  cases a with
  | assurance p => exact assuranceRun_frame p br
  | prsm p s => exact prsmTo_frame p s br
  | ppmsm p s => exact ppmsmTo_frame p s br
  | bdsm p s => exact bdsmTo_frame p s br
  | ptsm p s => exact ptsmTo_frame p s br
  | pism p t s => exact pismTo_frame p t s br
  | prssm t => exact prssmToRoleSelection_frame t br
  | prtsm p t s => exact prtsmTo_frame _ p t s br
  | pstsm p t s => exact pstsmTo_frame p t s br
  | tcsm p t s => exact tcsmTo_frame p t s br
  | createPort => exact everything_frame _ _
  | markDeleted p =>
    rw [Act.run, Mstpd.markDeleted]
    exact Frame.setPort fun _ => rfl
  | removePort p => exact ⟨rfl, fun _ _ => rfl, fun _ => rfl, fun _ => rfl, rfl⟩
  | createMsti => exact everything_frame _ _
  | removeMsti t => exact ⟨rfl, fun _ _ => rfl, fun _ => rfl, fun _ => rfl, rfl⟩
  | switchBridge => exact everything_frame _ _
  | tick =>
    have huptime : Frame tickOwned br { br with uptime := br.uptime + 1 } :=
      ⟨rfl, fun _ _ => rfl, fun _ => rfl, fun _ => rfl, rfl⟩
    exact huptime.trans (bridgeTick_frame _)
  | idleSecond => exact ⟨rfl, fun _ _ => rfl, fun _ => rfl, fun _ => rfl, rfl⟩
  | linkUp p speed duplex => exact linkUp_frame p speed duplex br
  | linkDown p =>
    rw [Act.run]
    exact Frame.setPort fun _ => rfl
  | flushed p t =>
    rw [Act.run]
    exact Frame.setPtp fun _ => rfl
  | rxBpdu p bpdu size => exact rxAssign_frame p bpdu size br
  | bridgeAddress => exact everything_frame _ _
  | bridgeConfig => exact everything_frame _ _
  | mstiBridgeConfig t prio => exact (setMstiBridgeConfig_opFrame t prio br).frame
  | portConfig p cfg => exact (writePortConfig_opFrame p cfg br).frame
  | mstiPortConfig p t cfg => exact writePtpConfig_frame p t cfg br
  | mcheck p =>
    rw [Act.run, requestMcheck]
    exact Frame.after (Frame.setPtp fun _ => rfl) (Frame.setPort fun _ => rfl)
  | tables => exact everything_frame _ _
  | configId => exact everything_frame _ _
  | sysdeps p speed duplex =>
    rw [Act.run]
    exact Frame.setPort fun _ => rfl

/-! ## Invariants of the BEGIN assignments -/

/-- Each BEGIN of each machine preserves `I`. -/
structure BeginInv (I : Bridge → Prop) : Prop where
  prsm : ∀ br p, I br → p ∈ br.ports → I (prsmToDiscard p br)
  ppmsm : ∀ br p, I br → p ∈ br.ports → I (ppmsmToCheckingRstp p br)
  bdsm : ∀ br p, I br → p ∈ br.ports → I (bdsmBegin p br)
  ptsm : ∀ br p, I br → p ∈ br.ports → I (ptsmToTransmitInit p br)
  pism : ∀ br p t, I br → p ∈ br.ports → t ∈ br.trees → I (pismBegin p t br)
  initTree : ∀ br t, I br → t ∈ br.trees → I (prssmToInitTree t br)
  prtsm : ∀ br p t, I br → p ∈ br.ports → t ∈ br.trees → I (prtsmToInitPort p t br)
  pstsm : ∀ br p t, I br → p ∈ br.ports → t ∈ br.trees → I (pstsmTo p t .discarding br)
  tcsm : ∀ br p t, I br → p ∈ br.ports → t ∈ br.trees → I (tcsmToInactive p t br)

section BeginInv

variable {I : Bridge → Prop} {ports : List PortRef} {trees : List Mstid} {br : Bridge}

theorem BeginInv.portMachines (hI : BeginInv I) (hi : OnLists ports trees I br) {l : List PortRef}
    (hl : ∀ p ∈ l, p ∈ ports) : OnLists ports trees I (portMachinesBegin l br) := by
  rw [portMachinesBegin]
  refine forAll_inv (fun p hp b hb => hb.frame (ptsmTo_frame p .transmitInit b)
    (hI.ptsm b p hb.1 (hb.2.1 ▸ hl p hp))) ?_
  refine forAll_inv (fun p hp b hb => hb.frame (bdsmTo_frame p _ b)
    (hI.bdsm b p hb.1 (hb.2.1 ▸ hl p hp))) ?_
  refine forAll_inv (fun p hp b hb => hb.frame (ppmsmTo_frame p .checkingRstp b)
    (hI.ppmsm b p hb.1 (hb.2.1 ▸ hl p hp))) ?_
  exact forAll_inv (fun p hp b hb => hb.frame (prsmTo_frame p .discard b)
    (hI.prsm b p hb.1 (hb.2.1 ▸ hl p hp))) hi

theorem BeginInv.pismAll (hI : BeginInv I) (hi : OnLists ports trees I br)
    {refs : List (PortRef × Mstid)} (hrefs : ∀ o ∈ refs, o.1 ∈ ports ∧ o.2 ∈ trees) :
    OnLists ports trees I (forAll (fun o => pismBegin o.1 o.2) refs br) :=
  forAll_inv (fun o ho b hb => hb.frame (pismBegin_frame o.1 o.2 b)
    (hI.pism b o.1 o.2 hb.1 (hb.2.1 ▸ (hrefs o ho).1) (hb.2.2 ▸ (hrefs o ho).2))) hi

theorem BeginInv.ptpMachines (hI : BeginInv I) (hi : OnLists ports trees I br)
    {refs : List (PortRef × Mstid)} (hrefs : ∀ o ∈ refs, o.1 ∈ ports ∧ o.2 ∈ trees) :
    OnLists ports trees I (ptpMachinesBegin refs br) := by
  rw [ptpMachinesBegin]
  refine forAll_inv (fun o ho b hb => hb.frame (tcsmTo_frame o.1 o.2 .inactive b)
    (hI.tcsm b o.1 o.2 hb.1 (hb.2.1 ▸ (hrefs o ho).1) (hb.2.2 ▸ (hrefs o ho).2))) ?_
  refine forAll_inv (fun o ho b hb => hb.frame (pstsmTo_frame o.1 o.2 .discarding b)
    (hI.pstsm b o.1 o.2 hb.1 (hb.2.1 ▸ (hrefs o ho).1) (hb.2.2 ▸ (hrefs o ho).2))) ?_
  exact forAll_inv (fun o ho b hb => hb.frame (prtsmToInitPort_frame o.1 o.2 b)
    (hI.prtsm b o.1 o.2 hb.1 (hb.2.1 ▸ (hrefs o ho).1) (hb.2.2 ▸ (hrefs o ho).2))) hi

theorem BeginInv.bridge (hI : BeginInv I) (hi : I br) : I (bridgeBegin br) := by
  rw [bridgeBegin]
  split
  · have hrefs : ∀ o ∈ br.ptpRefs, o.1 ∈ br.ports ∧ o.2 ∈ br.trees := fun o ho => mem_ptpRefs.mp ho
    have h₁ : OnLists br.ports br.trees I (portMachinesBegin br.ports br) :=
      hI.portMachines ⟨hi, rfl, rfl⟩ fun p hp => hp
    have h₂ := hI.pismAll h₁ hrefs
    refine (hI.ptpMachines (forAll_inv (fun t ht b hb => ?_) h₂) hrefs).1
    exact hb.frame (prssmToInitTree_frame t b) (hI.initTree b t hb.1 (hb.2.2 ▸ ht))
  · exact hi

theorem BeginInv.tree (hI : BeginInv I) {t : Mstid} (ht : t ∈ br.trees) (hi : I br) :
    I (treeBegin t br) := by
  rw [treeBegin]
  split
  · have hrefs : ∀ o ∈ br.ports.map (fun p => (p, t)), o.1 ∈ br.ports ∧ o.2 ∈ br.trees := by
      intro o ho
      obtain ⟨p, hp, rfl⟩ := List.mem_map.mp ho
      exact ⟨hp, ht⟩
    have hstart : OnLists br.ports br.trees I br := ⟨hi, rfl, rfl⟩
    have h := hI.pismAll hstart hrefs
    exact (hI.ptpMachines (h.frame (prssmToInitTree_frame t _)
      (hI.initTree _ t h.1 (h.2.2 ▸ ht))) hrefs).1
  · exact hi

/-- The BEGIN of a port also runs role selection, for one tree after the other. -/
theorem BeginInv.portSelect (hI : BeginInv I)
    (select : ∀ br t, I br → t ∈ br.trees → prssmDry br t = true → I (prssmToRoleSelection t br))
    {p : PortRef} (hp : p ∈ br.ports) (hi : I br) {l : List Mstid} (hl : ∀ t ∈ l, t ∈ br.trees) :
    OnLists br.ports br.trees I (forAll prssmRun l (portBeginSelect p br)) := by
  have h₁ : OnLists br.ports br.trees I (portMachinesBegin [p] br) :=
    hI.portMachines ⟨hi, rfl, rfl⟩ fun q hq => by rwa [List.mem_singleton.mp hq]
  have hrefs : ∀ o ∈ br.trees.map (fun t => (p, t)), o.1 ∈ br.ports ∧ o.2 ∈ br.trees := by
    intro o ho
    obtain ⟨t, ht, rfl⟩ := List.mem_map.mp ho
    exact ⟨hp, ht⟩
  rw [portBeginSelect]
  refine forAll_inv (fun t ht b hb => ?_) (hI.pismAll h₁ hrefs)
  rw [prssmRun]
  split
  · rename_i hdry
    exact hb.frame (prssmToRoleSelection_frame t b) (select b t hb.1 (hb.2.2 ▸ hl t ht) hdry)
  · exact hb

theorem BeginInv.port (hI : BeginInv I)
    (select : ∀ br t, I br → t ∈ br.trees → prssmDry br t = true → I (prssmToRoleSelection t br))
    {p : PortRef} (hp : p ∈ br.ports) (hi : I br) : I (portBegin p br) := by
  rw [portBegin]
  split
  · refine (hI.ptpMachines (hI.portSelect select hp hi fun t ht => ht) ?_).1
    intro o ho
    obtain ⟨t, ht, rfl⟩ := List.mem_map.mp ho
    exact ⟨hp, ht⟩
  · exact hi

theorem BeginInv.ite (hI : BeginInv I) {c : Prop} [Decidable c] (hi : I br) :
    I (if c then bridgeBegin br else br) := by
  split
  · exact hI.bridge hi
  · exact hi

end BeginInv

/-- The management actions that may restart all machines. -/
def Act.restarts : Act → Bool
  | .bridgeAddress _ => true
  | .bridgeConfig _ => true
  | .tables _ _ _ _ => true
  | .configId _ _ => true
  | _ => false

/-- A property that does not look at configuration survives a restart. -/
theorem BeginInv.restart {I : Bridge → Prop} (hI : BeginInv I)
    (hf : ∀ b b', Frame managementOwned b b' → I b → I b') {a : Act} (ha : a.restarts = true)
    {br : Bridge} (hi : I br) : I (a.run br) := by
  cases a with
  | bridgeAddress macaddr => exact hI.ite (hf _ _ (writeAddress_frame macaddr br) hi)
  | bridgeConfig cfg => exact hI.ite (hf _ _ (writeBridgeConfig_opFrame cfg br).frame hi)
  | tables env changed vid2fid fid2mstid =>
    exact hI.ite (hf _ _ (writeTables_frame env changed vid2fid fid2mstid br) hi)
  | configId revision name => exact hI.bridge (hf _ _ (writeConfigId_frame revision name br) hi)
  | _ => cases ha

/-! ## A constant of the bridge -/

theorem migrateTime_begin (n : Nat) : BeginInv fun b => b.migrateTime = n where
  prsm _ _ hi _ := hi
  ppmsm _ _ hi _ := hi
  bdsm br p hi _ := ((bdsmTo_frame p _ br).config_eq Bridge.migrateTime fun _ => rfl).trans hi
  ptsm _ _ hi _ := hi
  pism _ _ _ hi _ _ := hi
  initTree _ _ hi _ := hi
  prtsm _ _ _ hi _ _ := hi
  pstsm br p t hi _ _ :=
    ((pstsmTo_frame p t .discarding br).config_eq Bridge.migrateTime fun _ => rfl).trans hi
  tcsm br p t hi _ _ :=
    ((tcsmTo_frame p t .inactive br).config_eq Bridge.migrateTime fun _ => rfl).trans hi

theorem Visited.migrateTime {C : Act → Bridge → Prop} {br : Bridge} (h : Visited C br) :
    br.migrateTime = 3 := by
  refine h.inv (I := fun b => b.migrateTime = 3) (fun _ _ => rfl) fun a br hi hg _ => ?_
  cases a with
  | createPort p portno name speed duplex =>
    refine (migrateTime_begin 3).port (fun b t hb _ _ => ?_) ?_ hi
    · exact ((prssmToRoleSelection_frame t b).config_eq Bridge.migrateTime fun _ => rfl).trans hb
    · exact List.mem_append_right _ List.mem_cons_self
  | createMsti mstid trees =>
    refine (migrateTime_begin 3).tree ?_ hi
    exact (insertAfterLast_mem hg.2.2.2.2 mstid).mpr (Or.inl rfl)
  | switchBridge up =>
    refine (migrateTime_begin 3).bridge ?_
    exact ((resetBridge_frame up br).config_eq Bridge.migrateTime fun _ => rfl).trans hi
  | bridgeAddress _ | bridgeConfig _ | tables _ _ _ _ | configId _ _ =>
    refine (migrateTime_begin 3).restart (fun b b' hf hb => ?_) rfl hi
    exact (hf.config_eq Bridge.migrateTime fun _ => rfl).trans hb
  | _ => exact ((Act.frame _ br).config_eq Bridge.migrateTime fun _ => rfl).trans hi

end Mstpd
