import Mstpd.Trace

/-!
# The configuration of a bridge

The ranges of the parameters, and what the trees and the ports derive from them. Each copy
is refreshed by the operations that change what it is taken from; an operation that reports
an error has written nothing.
-/

namespace Mstpd

open Bridge

/-! ## Identifiers -/

/-- The low 12 bits of an identifier: an MSTID or a port number. -/
def systemId (id : UInt16) : UInt16 := id &&& (0x0FFF : UInt16)

theorem systemId_setPriority (pri : UInt8) (id : UInt16) :
    systemId (setPriorityInIdentifier pri id) = systemId id := by
  have hmask : ∀ i : Fin 16, (!decide (i.val < 8) && (240#16).getLsbD (i.val - 8) &&
      (4095#16).getLsbD i.val) = false := by decide
  rw [systemId, systemId, setPriorityInIdentifier]
  apply UInt16.toBitVec_inj.mp
  apply BitVec.eq_of_getLsbD_eq
  intro i hi
  have hi' := hmask ⟨i, hi⟩
  simp at hi' ⊢
  grind

theorem systemId_default {n : UInt16} (h : n.toNat ≤ 4095) : systemId (0x8000 ||| n) = n := by
  have hlow : n.toNat &&& 4095 = n.toNat := by
    have hmod : n.toNat &&& 4095 = n.toNat % 4096 := Nat.and_two_pow_sub_one_eq_mod n.toNat 12
    omega
  apply UInt16.toNat_inj.mp
  simp [systemId, Nat.and_or_distrib_right, hlow]

/-! ## The invariant -/

/-- The parameters of the bridge are in their ranges. -/
structure Parameters (br : Bridge) : Prop where
  maxAge : 6 ≤ br.maxAge ∧ br.maxAge ≤ 40
  forwardDelay : 4 ≤ br.forwardDelay ∧ br.forwardDelay ≤ 30
  related : (br.maxAge.toNat : Int) ≤ 2 * ((br.forwardDelay.toNat : Int) - 1)
  helloTime : br.helloTime = 2
  maxHops : 6 ≤ br.maxHops ∧ br.maxHops ≤ 100
  transmitHoldCount : 1 ≤ br.transmitHoldCount ∧ br.transmitHoldCount ≤ 10
  ageingTime : 10 ≤ br.ageingTime ∧ br.ageingTime ≤ 1000000

/-- The times that the bridge has as a root. -/
def Bridge.ownTimes (br : Bridge) : Times :=
  ⟨br.maxHops, br.forwardDelay, br.maxAge, 0, br.helloTime⟩

/-- What a tree derives from the parameters, its number and the address of the bridge. -/
structure TreeConfig (br : Bridge) (t : Mstid) (tree : Tree) : Prop where
  times : tree.bridgeTimes = br.ownTimes
  number : systemId tree.bridgeIdentifier.priority = t
  address : tree.bridgeIdentifier.macAddress = (br.tree 0).bridgeIdentifier.macAddress
  priority : tree.bridgePriority = ownPriority tree.bridgeIdentifier 0

structure Configured (br : Bridge) : Prop where
  parameters : Parameters br
  cist : 0 ∈ br.trees
  trees : ∀ t ∈ br.trees, TreeConfig br t (br.tree t)
  numbers : ∀ p ∈ br.ports, (br.port p).portNumber.toNat ≤ maxPortNumber
  portIds : ∀ p ∈ br.ports, ∀ t ∈ br.trees,
    systemId (br.ptp p t).portId = (br.port p).portNumber

/-! ## What changes no configuration -/

/-- Everything but what no machine writes. -/
def machinesOwned : Owned where
  ptp x :=
    { portId := x.portId, internalPortPathCost := x.internalPortPathCost
      adminInternalPortPathCost := x.adminInternalPortPathCost }
  port x :=
    { portNumber := x.portNumber, name := x.name, speed := x.speed, duplex := x.duplex
      portEnabled := x.portEnabled, deleted := x.deleted
      externalPortPathCost := x.externalPortPathCost
      adminExternalPortPathCost := x.adminExternalPortPathCost, adminP2P := x.adminP2P
      operPointToPointMAC := x.operPointToPointMAC, adminEdgePort := x.adminEdgePort
      autoEdge := x.autoEdge, restrictedRole := x.restrictedRole
      restrictedTcn := x.restrictedTcn, bpduGuardPort := x.bpduGuardPort
      bpduGuardError := x.bpduGuardError, networkPort := x.networkPort
      dontTxmtBpdu := x.dontTxmtBpdu, bpduFilterPort := x.bpduFilterPort }
  tree x :=
    { bridgeIdentifier := x.bridgeIdentifier, bridgePriority := x.bridgePriority
      bridgeTimes := x.bridgeTimes }
  out _ := true

instance : machinesOwned.KeepsLists := ⟨fun _ => rfl, fun _ => rfl⟩

instance : machinesOwned.KeepsEnabled := ⟨fun _ => rfl⟩

instance : assuranceOwned.Within machinesOwned :=
  ⟨fun _ => rfl, fun _ => rfl, fun _ => rfl, fun _ => rfl, fun _ _ => rfl⟩

instance : prsmOwned.Within machinesOwned :=
  ⟨fun _ => rfl, fun _ => rfl, fun _ => rfl, fun _ => rfl, fun _ _ => rfl⟩

instance : discardOwned.Within machinesOwned :=
  ⟨fun _ => rfl, fun _ => rfl, fun _ => rfl, fun _ => rfl, fun _ _ => rfl⟩

instance : ppmsmOwned.Within machinesOwned :=
  ⟨fun _ => rfl, fun _ => rfl, fun _ => rfl, fun _ => rfl, fun _ _ => rfl⟩

instance : bdsmOwned.Within machinesOwned :=
  ⟨fun _ => rfl, fun _ => rfl, fun _ => rfl, fun _ => rfl, fun _ _ => rfl⟩

instance : ptsmOwned.Within machinesOwned :=
  ⟨fun _ => rfl, fun _ => rfl, fun _ => rfl, fun _ => rfl, fun _ _ => rfl⟩

instance : pismOwned.Within machinesOwned :=
  ⟨fun _ => rfl, fun _ => rfl, fun _ => rfl, fun _ => rfl, fun _ _ => rfl⟩

instance : pismBeginOwned.Within machinesOwned :=
  ⟨fun _ => rfl, fun _ => rfl, fun _ => rfl, fun _ => rfl, fun _ _ => rfl⟩

instance : prssmOwned.Within machinesOwned :=
  ⟨fun _ => rfl, fun _ => rfl, fun _ => rfl, fun _ => rfl, fun _ _ => rfl⟩

instance : initTreeOwned.Within machinesOwned :=
  ⟨fun _ => rfl, fun _ => rfl, fun _ => rfl, fun _ => rfl, fun _ _ => rfl⟩

instance : prtsmOwned.Within machinesOwned :=
  ⟨fun _ => rfl, fun _ => rfl, fun _ => rfl, fun _ => rfl, fun _ _ => rfl⟩

instance : pstsmOwned.Within machinesOwned :=
  ⟨fun _ => rfl, fun _ => rfl, fun _ => rfl, fun _ => rfl, fun _ _ => rfl⟩

instance : tcsmOwned.Within machinesOwned :=
  ⟨fun _ => rfl, fun _ => rfl, fun _ => rfl, fun _ => rfl, fun _ _ => rfl⟩

theorem machines_stepInv (br : Bridge) : StepInv (Frame machinesOwned br) where
  assurance b p h _ := h.trans (assuranceRun_frame p b).mono
  prsm b p s h _ _ := h.trans (prsmTo_frame p s b).mono
  ppmsm b p s h _ _ := h.trans (ppmsmTo_frame p s b).mono
  bdsm b p s h _ _ := h.trans (bdsmTo_frame p s b).mono
  ptsm b p s h _ _ := h.trans (ptsmTo_frame p s b).mono
  pism b p t s h _ _ _ := h.trans (pismTo_frame p t s b).mono
  prssm b t h _ _ := h.trans (prssmToRoleSelection_frame t b).mono
  prtsm b p t s h _ _ _ := h.trans (prtsmTo_frame _ p t s b).mono
  pstsm b p t s h _ _ _ := h.trans (pstsmTo_frame p t s b).mono
  tcsm b p t s h _ _ _ := h.trans (tcsmTo_frame p t s b).mono

theorem machines_begin (br : Bridge) : BeginInv (Frame machinesOwned br) where
  prsm b p h _ := h.trans (prsmToDiscard_frame p b).mono
  ppmsm b p h _ := h.trans (ppmsmToCheckingRstp_frame p b).mono
  bdsm b p h _ := h.trans (bdsmTo_frame p _ b).mono
  ptsm b p h _ := h.trans (ptsmToTransmitInit_frame p b).mono
  pism b p t h _ _ := h.trans (pismBegin_frame p t b).mono
  initTree b t h _ := h.trans (prssmToInitTree_frame t b).mono
  prtsm b p t h _ _ := h.trans (prtsmToInitPort_frame p t b).mono
  pstsm b p t h _ _ := h.trans (pstsmTo_frame p t .discarding b).mono
  tcsm b p t h _ _ := h.trans (tcsmToInactive_frame p t b).mono

/-- Everything but what management assigns. -/
def besideSettings : Owned where
  config b := { b with bridgeEnabled := false, uptime := 0 }
  ptp x := { portId := x.portId, adminInternalPortPathCost := x.adminInternalPortPathCost }
  port x :=
    { portNumber := x.portNumber, name := x.name, speed := x.speed, duplex := x.duplex
      adminExternalPortPathCost := x.adminExternalPortPathCost, adminP2P := x.adminP2P
      adminEdgePort := x.adminEdgePort, autoEdge := x.autoEdge, restrictedRole := x.restrictedRole
      restrictedTcn := x.restrictedTcn, bpduGuardPort := x.bpduGuardPort
      networkPort := x.networkPort, dontTxmtBpdu := x.dontTxmtBpdu
      bpduFilterPort := x.bpduFilterPort }
  tree x :=
    { bridgeIdentifier := x.bridgeIdentifier, bridgePriority := x.bridgePriority
      bridgeTimes := x.bridgeTimes }
  out _ := true

instance : assuranceOwned.Within besideSettings :=
  ⟨fun _ => rfl, fun _ => rfl, fun _ => rfl, fun _ => rfl, fun _ _ => rfl⟩

instance : prsmOwned.Within besideSettings :=
  ⟨fun _ => rfl, fun _ => rfl, fun _ => rfl, fun _ => rfl, fun _ _ => rfl⟩

instance : discardOwned.Within besideSettings :=
  ⟨fun _ => rfl, fun _ => rfl, fun _ => rfl, fun _ => rfl, fun _ _ => rfl⟩

instance : ppmsmOwned.Within besideSettings :=
  ⟨fun _ => rfl, fun _ => rfl, fun _ => rfl, fun _ => rfl, fun _ _ => rfl⟩

instance : bdsmOwned.Within besideSettings :=
  ⟨fun _ => rfl, fun _ => rfl, fun _ => rfl, fun _ => rfl, fun _ _ => rfl⟩

instance : ptsmOwned.Within besideSettings :=
  ⟨fun _ => rfl, fun _ => rfl, fun _ => rfl, fun _ => rfl, fun _ _ => rfl⟩

instance : pismOwned.Within besideSettings :=
  ⟨fun _ => rfl, fun _ => rfl, fun _ => rfl, fun _ => rfl, fun _ _ => rfl⟩

instance : pismBeginOwned.Within besideSettings :=
  ⟨fun _ => rfl, fun _ => rfl, fun _ => rfl, fun _ => rfl, fun _ _ => rfl⟩

instance : prssmOwned.Within besideSettings :=
  ⟨fun _ => rfl, fun _ => rfl, fun _ => rfl, fun _ => rfl, fun _ _ => rfl⟩

instance : initTreeOwned.Within besideSettings :=
  ⟨fun _ => rfl, fun _ => rfl, fun _ => rfl, fun _ => rfl, fun _ _ => rfl⟩

instance : prtsmOwned.Within besideSettings :=
  ⟨fun _ => rfl, fun _ => rfl, fun _ => rfl, fun _ => rfl, fun _ _ => rfl⟩

instance : pstsmOwned.Within besideSettings :=
  ⟨fun _ => rfl, fun _ => rfl, fun _ => rfl, fun _ => rfl, fun _ _ => rfl⟩

instance : tcsmOwned.Within besideSettings :=
  ⟨fun _ => rfl, fun _ => rfl, fun _ => rfl, fun _ => rfl, fun _ _ => rfl⟩

instance : tickOwned.Within besideSettings :=
  ⟨fun _ => rfl, fun _ => rfl, fun _ => rfl, fun _ => rfl, fun _ _ => rfl⟩

instance : linkOwned.Within besideSettings :=
  ⟨fun _ => rfl, fun _ => rfl, fun _ => rfl, fun _ => rfl, fun _ _ => rfl⟩

instance : rxOwned.Within besideSettings :=
  ⟨fun _ => rfl, fun _ => rfl, fun _ => rfl, fun _ => rfl, fun _ _ => rfl⟩

instance : resetOwned.Within besideSettings :=
  ⟨fun _ => rfl, fun _ => rfl, fun _ => rfl, fun _ => rfl, fun _ _ => rfl⟩

instance : machinesOwned.Within besideSettings :=
  ⟨fun _ => rfl, fun _ => rfl, fun _ => rfl, fun _ => rfl, fun _ _ => rfl⟩

section Runs

variable {late : Nat → Bool} {fuel : Nat} {br br' : Bridge}

theorem brRun_machines (h : brStateMachinesRun late fuel br = some br') :
    Frame machinesOwned br br' :=
  (machines_stepInv br).brRun (Frame.refl _ br) h

theorem brBegin_eq (late : Nat → Bool) (fuel : Nat) (br : Bridge) :
    brStateMachinesBegin late fuel br = brStateMachinesRun late fuel (bridgeBegin br) := by
  rw [brStateMachinesBegin, bridgeBegin]
  split
  · rfl
  · rename_i hdisabled
    rw [brStateMachinesRun, if_neg hdisabled]

theorem prtBegin_eq (late : Nat → Bool) (fuel : Nat) (p : PortRef) (br : Bridge) :
    prtStateMachinesBegin late fuel p br = brStateMachinesRun late fuel (portBegin p br) := by
  rw [prtStateMachinesBegin, portBegin]
  split
  · rfl
  · rename_i hdisabled
    rw [brStateMachinesRun, if_neg hdisabled]

theorem treeBegin_eq (late : Nat → Bool) (fuel : Nat) (t : Mstid) (br : Bridge) :
    treeStateMachinesBegin late fuel t br = brStateMachinesRun late fuel (treeBegin t br) := by
  rw [treeStateMachinesBegin, treeBegin]
  split
  · rfl
  · rename_i hdisabled
    rw [brStateMachinesRun, if_neg hdisabled]

theorem bridgeBegin_machines (br : Bridge) : Frame machinesOwned br (bridgeBegin br) :=
  (machines_begin br).bridge (Frame.refl _ br)

theorem portBegin_machines {p : PortRef} (hp : p ∈ br.ports) :
    Frame machinesOwned br (portBegin p br) := by
  refine (machines_begin br).port (fun b t hb _ _ => ?_) hp (Frame.refl _ br)
  exact hb.trans (prssmToRoleSelection_frame t b).mono

theorem treeBegin_machines {t : Mstid} (ht : t ∈ br.trees) :
    Frame machinesOwned br (treeBegin t br) :=
  (machines_begin br).tree ht (Frame.refl _ br)

theorem brBegin_machines (h : brStateMachinesBegin late fuel br = some br') :
    Frame machinesOwned br br' := by
  rw [brBegin_eq] at h
  exact (bridgeBegin_machines br).trans (brRun_machines h)

theorem brRun_settings (h : brStateMachinesRun late fuel br = some br') :
    Frame besideSettings br br' := (brRun_machines h).mono

theorem brBegin_settings (h : brStateMachinesBegin late fuel br = some br') :
    Frame besideSettings br br' := (brBegin_machines h).mono

theorem prtBegin_settings {p : PortRef} (hp : p ∈ br.ports)
    (h : prtStateMachinesBegin late fuel p br = some br') : Frame besideSettings br br' := by
  rw [prtBegin_eq] at h
  exact (portBegin_machines hp).mono.trans (brRun_settings h)

theorem treeBegin_settings {t : Mstid} (ht : t ∈ br.trees)
    (h : treeStateMachinesBegin late fuel t br = some br') : Frame besideSettings br br' := by
  rw [treeBegin_eq] at h
  exact (treeBegin_machines ht).mono.trans (brRun_settings h)

end Runs

/-- Everything but the fields of the invariant. -/
def besideConfig : Owned where
  config b :=
    { ports := b.ports, trees := b.trees, maxAge := b.maxAge, forwardDelay := b.forwardDelay
      helloTime := b.helloTime, maxHops := b.maxHops, transmitHoldCount := b.transmitHoldCount
      ageingTime := b.ageingTime }
  ptp x := { portId := x.portId }
  port x := { portNumber := x.portNumber }
  tree := besideSettings.tree
  out _ := true

instance : besideConfig.KeepsLists := ⟨fun _ => rfl, fun _ => rfl⟩

instance : besideSettings.Within besideConfig :=
  ⟨fun _ => rfl, fun _ => rfl, fun _ => rfl, fun _ => rfl, fun _ _ => rfl⟩

theorem TreeConfig.congr {br br' : Bridge} {t : Mstid} {tree tree' : Tree}
    (h : TreeConfig br t tree) (htimes : br'.ownTimes = br.ownTimes)
    (hcist : (br'.tree 0).bridgeIdentifier.macAddress = (br.tree 0).bridgeIdentifier.macAddress)
    (htree : (tree'.bridgeIdentifier, tree'.bridgePriority, tree'.bridgeTimes) =
      (tree.bridgeIdentifier, tree.bridgePriority, tree.bridgeTimes)) : TreeConfig br' t tree' := by
  simp only [Prod.mk.injEq] at htree
  obtain ⟨hid, hpriority, hown⟩ := htree
  exact ⟨by rw [hown, htimes, h.times], by rw [hid, h.number], by rw [hid, hcist, h.address],
    by rw [hpriority, hid, h.priority]⟩

theorem Parameters.congr {br br' : Bridge} (h : Parameters br)
    (hsame : (br'.maxAge, br'.forwardDelay, br'.helloTime, br'.maxHops, br'.transmitHoldCount,
      br'.ageingTime) = (br.maxAge, br.forwardDelay, br.helloTime, br.maxHops,
      br.transmitHoldCount, br.ageingTime)) : Parameters br' := by
  simp only [Prod.mk.injEq] at hsame
  obtain ⟨hage, hdelay, hhello, hhops, hhold, hageing⟩ := hsame
  exact ⟨hage ▸ h.maxAge, hdelay ▸ h.forwardDelay, by rw [hage, hdelay]; exact h.related,
    hhello ▸ h.helloTime, hhops ▸ h.maxHops, hhold ▸ h.transmitHoldCount,
    hageing ▸ h.ageingTime⟩

theorem Configured.frame {br br' : Bridge} (hi : Configured br) (h : Frame besideConfig br br') :
    Configured br' := by
  have hports : br'.ports = br.ports := h.ports_eq
  have htrees : br'.trees = br.trees := h.trees_eq
  have htree := h.tree_eq
    (fun x => (x.bridgeIdentifier, x.bridgePriority, x.bridgeTimes)) fun _ => rfl
  have htimes : br'.ownTimes = br.ownTimes := h.config_eq Bridge.ownTimes fun _ => rfl
  refine ⟨hi.parameters.congr ?_, htrees ▸ hi.cist, fun t ht => ?_, fun p hp => ?_,
    fun p hp t ht => ?_⟩
  · exact h.config_eq (fun b => (b.maxAge, b.forwardDelay, b.helloTime, b.maxHops,
      b.transmitHoldCount, b.ageingTime)) fun _ => rfl
  · have hcist := congrArg (fun x => x.1.macAddress) (htree 0)
    exact (hi.trees t (htrees ▸ ht)).congr htimes hcist (htree t)
  · rw [h.port_eq Port.portNumber (fun _ => rfl) p]
    exact hi.numbers p (hports ▸ hp)
  · rw [h.port_eq Port.portNumber (fun _ => rfl) p, h.ptp_eq PerTreePort.portId (fun _ => rfl) p t]
    exact hi.portIds p (hports ▸ hp) t (htrees ▸ ht)

theorem Configured.beside {br br' : Bridge} (hi : Configured br)
    (h : Frame besideSettings br br') : Configured br' := hi.frame h.mono

theorem configured_begin : BeginInv Configured where
  prsm br p hi _ := hi.beside (prsmToDiscard_frame p br).mono
  ppmsm br p hi _ := hi.beside (ppmsmToCheckingRstp_frame p br).mono
  bdsm br p hi _ := hi.beside (bdsmTo_frame p _ br).mono
  ptsm br p hi _ := hi.beside (ptsmToTransmitInit_frame p br).mono
  pism br p t hi _ _ := hi.beside (pismBegin_frame p t br).mono
  initTree br t hi _ := hi.beside (prssmToInitTree_frame t br).mono
  prtsm br p t hi _ _ := hi.beside (prtsmToInitPort_frame p t br).mono
  pstsm br p t hi _ _ := hi.beside (pstsmTo_frame p t .discarding br).mono
  tcsm br p t hi _ _ := hi.beside (tcsmToInactive_frame p t br).mono

/-! ## The lists of ports and trees -/

theorem configured_create (env : Env) (macaddr : BitVec 48) :
    Configured (mstpInBridgeCreate env macaddr) where
  parameters :=
    ⟨(by decide : (6 : UInt8) ≤ 20 ∧ (20 : UInt8) ≤ 40),
      (by decide : (4 : UInt8) ≤ 15 ∧ (15 : UInt8) ≤ 30),
      (by decide : ((20 : UInt8).toNat : Int) ≤ 2 * (((15 : UInt8).toNat : Int) - 1)), rfl,
      (by decide : (6 : UInt8) ≤ 20 ∧ (20 : UInt8) ≤ 100), (by decide : 1 ≤ 6 ∧ 6 ≤ 10),
      (by decide : 10 ≤ 300 ∧ 300 ≤ 1000000)⟩
  cist := List.mem_singleton_self 0
  trees t ht := by
    rw [List.mem_singleton.mp ht]
    exact ⟨rfl, (by decide : systemId (0x8000 ||| 0) = 0), rfl, rfl⟩
  numbers _ hp := absurd hp List.not_mem_nil
  portIds _ hp := absurd hp List.not_mem_nil

theorem Configured.addPort {br : Bridge} (hi : Configured br) {p : PortRef} {portno : UInt16}
    (hnew : p ∉ br.ports) (hno : portno.toNat ≤ maxPortNumber) (name : String)
    (speed duplex : Int) : Configured (addPort p portno name speed duplex br) where
  parameters := hi.parameters.congr rfl
  cist := hi.cist
  trees t ht := (hi.trees t ht).congr rfl rfl rfl
  numbers q hq := by
    rcases List.mem_append.mp hq with hold | hone
    · have hne : q ≠ p := fun h => hnew (h ▸ hold)
      simpa [Mstpd.addPort, setPortPtps, Bridge.setPort, hne] using hi.numbers q hold
    · rw [List.mem_singleton.mp hone]
      simpa [Mstpd.addPort, setPortPtps, Bridge.setPort, portDefaultInternalVars] using hno
  portIds q hq t ht := by
    rcases List.mem_append.mp hq with hold | hone
    · have hne : q ≠ p := fun h => hnew (h ▸ hold)
      simpa [Mstpd.addPort, setPortPtps, Bridge.setPort, hne] using hi.portIds q hold t ht
    · rw [List.mem_singleton.mp hone]
      have htree : t ∈ br.trees := ht
      simpa [Mstpd.addPort, setPortPtps, Bridge.setPort, portDefaultInternalVars, createPtp,
        ptpDefaultInternalVars, htree] using systemId_default hno

theorem Configured.addTree {br : Bridge} (hi : Configured br) {mstid : Mstid} {trees : List Mstid}
    (hzero : mstid ≠ 0) (hno : mstid.toNat ≤ maxMstid)
    (hmem : ∀ s, s ∈ trees ↔ s = mstid ∨ s ∈ br.trees) : Configured (addTree mstid trees br) where
  parameters := hi.parameters.congr rfl
  cist := (hmem 0).mpr (Or.inr hi.cist)
  trees t ht := by
    have hcist : ((Mstpd.addTree mstid trees br).tree 0) = br.tree 0 := by
      simp [Mstpd.addTree, setTreePtps, setTree, hzero.symm]
    by_cases h : t = mstid
    · subst h
      have hle : t.toNat ≤ 4095 := hno.trans (by decide)
      rw [show (Mstpd.addTree t trees br).tree t =
        createTree br (br.tree 0).bridgeIdentifier.macAddress t by
          simp [Mstpd.addTree, setTreePtps, setTree]]
      exact ⟨rfl, systemId_default hle, by rw [hcist]; rfl, rfl⟩
    · have hold : t ∈ br.trees := ((hmem t).mp ht).resolve_left h
      have hsame : (Mstpd.addTree mstid trees br).tree t = br.tree t := by
        simp [Mstpd.addTree, setTreePtps, setTree, h]
      exact (hi.trees t hold).congr rfl (by rw [hcist]) (by rw [hsame])
  numbers := hi.numbers
  portIds p hp t ht := by
    by_cases h : t = mstid
    · have hport : p ∈ br.ports := hp
      simpa [Mstpd.addTree, setTreePtps, setTree, h, createPtp, ptpDefaultInternalVars, hport] using
        systemId_default (hi.numbers p hp)
    · have hold : t ∈ br.trees := ((hmem t).mp ht).resolve_left h
      simpa [Mstpd.addTree, setTreePtps, setTree, h] using hi.portIds p hp t hold

/-- Ports and trees may leave, but the CIST. -/
theorem Configured.shrink {br : Bridge} (hi : Configured br) {ports : List PortRef}
    {trees : List Mstid} (hports : ∀ p ∈ ports, p ∈ br.ports) (htrees : ∀ t ∈ trees, t ∈ br.trees)
    (hcist : 0 ∈ trees) : Configured { br with ports := ports, trees := trees } where
  parameters := hi.parameters.congr rfl
  cist := hcist
  trees t ht := (hi.trees t (htrees t ht)).congr rfl rfl rfl
  numbers p hp := hi.numbers p (hports p hp)
  portIds p hp t ht := hi.portIds p (hports p hp) t (htrees t ht)

/-! ## Management -/

theorem forAll_setTree {f : Tree → Tree} (hf : ∀ x, f (f x) = f x) (l : List Mstid) (br : Bridge)
    (t : Mstid) : (forAll (fun s b => b.setTree s f) l br).tree t =
      if t ∈ l then f (br.tree t) else br.tree t := by
  induction l generalizing br with
  | nil => rfl
  | cons s l ih =>
    have hstep : (forAll (fun s b => b.setTree s f) (s :: l) br).tree t =
        (forAll (fun s b => b.setTree s f) l (br.setTree s f)).tree t := rfl
    rw [hstep, ih]
    by_cases hts : t = s
    · simp [setTree, hts, hf]
    · simp [setTree, hts]

theorem treeAddress_twice (macaddr : BitVec 48) (x : Tree) :
    treeAddress macaddr (treeAddress macaddr x) = treeAddress macaddr x := by
  by_cases h : x.bridgeIdentifier.macAddress = macaddr
  · simp [treeAddress, h]
  · simp [treeAddress, h]

theorem treeAddress_address (macaddr : BitVec 48) (x : Tree) :
    (treeAddress macaddr x).bridgeIdentifier.macAddress = macaddr := by
  rw [treeAddress]
  split
  · assumption
  · rfl

theorem Configured.writeAddress {br : Bridge} (hi : Configured br) (macaddr : BitVec 48) :
    Configured (writeAddress macaddr br) := by
  have htree : ∀ t ∈ br.trees, (Mstpd.writeAddress macaddr br).tree t =
      treeAddress macaddr (br.tree t) := by
    intro t ht
    rw [Mstpd.writeAddress, forAll_setTree (treeAddress_twice macaddr), if_pos ht]
  have hbeside : Frame { tree := fun _ => {} } br (Mstpd.writeAddress macaddr br) := by
    have hset : ∀ s b, Frame { tree := fun _ => {} } b (b.setTree s (treeAddress macaddr)) :=
      fun _ _ => Frame.setTree fun _ => rfl
    exact Frame.forAll hset br.trees br
  have hports : (Mstpd.writeAddress macaddr br).ports = br.ports :=
    hbeside.config_eq Bridge.ports fun _ => rfl
  have htrees : (Mstpd.writeAddress macaddr br).trees = br.trees :=
    hbeside.config_eq Bridge.trees fun _ => rfl
  have htimes : (Mstpd.writeAddress macaddr br).ownTimes = br.ownTimes :=
    hbeside.config_eq Bridge.ownTimes fun _ => rfl
  have hport := hbeside.port_eq Port.portNumber fun _ => rfl
  have hptp := hbeside.ptp_eq PerTreePort.portId fun _ => rfl
  refine ⟨hi.parameters.congr (hbeside.config_eq (fun b => (b.maxAge, b.forwardDelay, b.helloTime,
    b.maxHops, b.transmitHoldCount, b.ageingTime)) fun _ => rfl), htrees ▸ hi.cist,
    fun t ht => ?_, fun p hp => ?_, fun p hp t ht => ?_⟩
  · rw [htrees] at ht
    have hold := hi.trees t ht
    rw [htree t ht]
    refine ⟨?_, ?_, ?_, ?_⟩
    · refine Eq.trans ?_ (hold.times.trans htimes.symm)
      rw [treeAddress]
      split <;> rfl
    · refine Eq.trans ?_ hold.number
      rw [treeAddress]
      split <;> rfl
    · rw [htree 0 hi.cist, treeAddress_address, treeAddress_address]
    · rw [treeAddress]
      split
      · exact hold.priority
      · rw [hold.priority]
        rfl
  · rw [hport]
    exact hi.numbers p (hports ▸ hp)
  · rw [hport, hptp]
    exact hi.portIds p (hports ▸ hp) t (htrees ▸ ht)

theorem Parameters.assign {br : Bridge} (h : Parameters br) {cfg : CistBridgeConfig}
    (hok : cistBridgeConfigOk br cfg = true) : Parameters (assignParameters cfg br) := by
  simp only [cistBridgeConfigOk, Bool.and_eq_true, Option.all_eq_true, decide_eq_true_eq] at hok
  obtain ⟨⟨⟨⟨⟨⟨⟨hage, hdelay⟩, hrelated⟩, -⟩, hhold⟩, hhops⟩, -⟩, hageing⟩ := hok
  refine ⟨?_, ?_, ?_, h.helloTime, ?_, ?_, ?_⟩
  · cases hset : cfg.bridgeMaxAge with
    | none => simpa [assignParameters, hset] using h.maxAge
    | some a => simpa [assignParameters, hset] using hage a hset
  · cases hset : cfg.bridgeForwardDelay with
    | none => simpa [assignParameters, hset] using h.forwardDelay
    | some d => simpa [assignParameters, hset] using hdelay d hset
  · by_cases hset : (cfg.bridgeMaxAge.isSome || cfg.bridgeForwardDelay.isSome) = true
    · simpa [assignParameters, hset] using hrelated
    · simp only [Bool.or_eq_true, not_or, Option.not_isSome_iff_eq_none] at hset
      simpa [assignParameters, hset] using h.related
  · cases hset : cfg.maxHops with
    | none => simpa [assignParameters, hset] using h.maxHops
    | some n => simpa [assignParameters, hset] using hhops n hset
  · cases hset : cfg.txHoldCount with
    | none => simpa [assignParameters, hset] using h.transmitHoldCount
    | some n => simpa [assignParameters, hset] using hhold n hset
  · cases hset : cfg.bridgeAgeingTime with
    | none => simpa [assignParameters, hset] using h.ageingTime
    | some n => simpa [assignParameters, hset] using hageing n hset

/-- What a change of the times assigns. -/
def timesOwned : Owned where
  ptp x :=
    { x with
      selected := false, reselect := false, portTimes := { x.portTimes with helloTime := 0 } }
  tree x := { x with bridgeTimes := 0 }

theorem propagateBridgeTimes_frame (br : Bridge) :
    Frame timesOwned br (propagateBridgeTimes br) := by
  rw [propagateBridgeTimes]
  refine Frame.forAll (fun s b => ?_) br.trees br
  exact Frame.after (Frame.setTreePtps fun _ _ => rfl) (Frame.setTree fun _ => rfl)

/-- Every tree gets the times of the bridge; the message age is not assigned. -/
theorem propagateBridgeTimes_times {br : Bridge} {t : Mstid} (ht : t ∈ br.trees)
    (hage : (br.tree t).bridgeTimes.messageAge = 0) :
    ((propagateBridgeTimes br).tree t).bridgeTimes = br.ownTimes := by
  have hboth : ((propagateBridgeTimes br).tree t).bridgeTimes = br.ownTimes ∧
      (propagateBridgeTimes br).ownTimes = br.ownTimes := by
    rw [propagateBridgeTimes]
    refine forAll_reaches_of
      (I := fun b => (b.tree t).bridgeTimes = br.ownTimes ∧ b.ownTimes = br.ownTimes)
      (J := fun b => (b.tree t).bridgeTimes.messageAge = 0 ∧ b.ownTimes = br.ownTimes)
      ht ?_ ?_ ?_ ⟨hage, rfl⟩
    · intro s b hb
      refine ⟨?_, hb.2⟩
      by_cases h : t = s
      · subst h
        simpa [setTreePtps, setTree] using hb.1
      · simpa [setTreePtps, setTree, h] using hb.1
    · intro b hb
      have htimes := hb.2
      simp only [Bridge.ownTimes, Times.mk.injEq] at htimes
      refine ⟨?_, hb.2⟩
      simp [setTreePtps, setTree, Bridge.ownTimes, htimes, hb.1]
    · intro s b hb
      have htimes := hb.2
      refine ⟨?_, hb.2⟩
      by_cases h : t = s
      · subst h
        simp only [Bridge.ownTimes, Times.mk.injEq] at htimes
        simp [setTreePtps, setTree, Bridge.ownTimes, htimes, hb.1]
      · simpa [setTreePtps, setTree, h] using hb.1
  exact hboth.1

/-- What a change of the parameters assigns before the times are passed on. -/
def parametersOwned : Owned where
  config _ := {}
  port := besideConfig.port

def txCountOwned : Owned where
  port x := { x with txCount := 0 }

instance : txCountOwned.Within besideSettings :=
  ⟨fun _ => rfl, fun _ => rfl, fun _ => rfl, fun _ => rfl, fun _ _ => rfl⟩

instance : txCountOwned.Within parametersOwned :=
  ⟨fun _ => rfl, fun _ => rfl, fun _ => rfl, fun _ => rfl, fun _ h => h⟩

theorem resetTxCounts_frame (br : Bridge) : Frame txCountOwned br (resetTxCounts br) := by
  have hset : ∀ p b, Frame txCountOwned b (b.setPort p fun prt => { prt with txCount := 0 }) :=
    fun _ _ => Frame.setPort fun _ => rfl
  exact Frame.forAll hset br.ports br

theorem assignParameters_frame (cfg : CistBridgeConfig) (br : Bridge) :
    Frame parametersOwned br (assignParameters cfg br) :=
  ⟨rfl, fun _ _ => rfl, fun _ => rfl, fun _ => rfl, rfl⟩

/-- The parameters are written where no change of the times has to be passed on. -/
theorem Configured.assign {br : Bridge} (hi : Configured br) {cfg : CistBridgeConfig}
    (hok : cistBridgeConfigOk br cfg = true) (hsame : timesChange cfg br = false) :
    Configured (assignParameters cfg br) := by
  simp only [timesChange, Bool.or_eq_false_iff, bne_eq_false_iff_eq] at hsame
  have htimes : (assignParameters cfg br).ownTimes = br.ownTimes := by
    simp only [Bridge.ownTimes, hsame]
    rfl
  exact ⟨hi.parameters.assign hok, hi.cist, fun t ht => (hi.trees t ht).congr htimes rfl rfl,
    hi.numbers, hi.portIds⟩

/-- Passing on the times is enough for the trees, whatever their times were. -/
theorem configured_propagate {br b : Bridge} (hi : Configured br) (hparams : Parameters b)
    (hb : Frame parametersOwned br b)
    (hports : b.ports = br.ports) (htrees : b.trees = br.trees) :
    Configured (propagateBridgeTimes b) := by
  have hf := propagateBridgeTimes_frame b
  have hboth : ∀ t, (b.tree t) = br.tree t := hb.tree
  have hid := hf.tree_eq (fun x => (x.bridgeIdentifier, x.bridgePriority)) fun _ => rfl
  simp only [Prod.mk.injEq] at hid
  have hports' : (propagateBridgeTimes b).ports = br.ports :=
    (hf.config_eq Bridge.ports fun _ => rfl).trans hports
  have htrees' : (propagateBridgeTimes b).trees = br.trees :=
    (hf.config_eq Bridge.trees fun _ => rfl).trans htrees
  have htimes : (propagateBridgeTimes b).ownTimes = b.ownTimes :=
    hf.config_eq Bridge.ownTimes fun _ => rfl
  have hport : ∀ q, ((propagateBridgeTimes b).port q).portNumber = (br.port q).portNumber :=
    fun q => (hf.port_eq Port.portNumber (fun _ => rfl) q).trans
      (hb.port_eq Port.portNumber (fun _ => rfl) q)
  have hptp : ∀ q s, ((propagateBridgeTimes b).ptp q s).portId = (br.ptp q s).portId :=
    fun q s => (hf.ptp_eq PerTreePort.portId (fun _ => rfl) q s).trans
      (hb.ptp_eq PerTreePort.portId (fun _ => rfl) q s)
  refine ⟨hparams.congr (hf.config_eq (fun c => (c.maxAge, c.forwardDelay, c.helloTime,
    c.maxHops, c.transmitHoldCount, c.ageingTime)) fun _ => rfl), htrees' ▸ hi.cist,
    fun t ht => ?_, fun p hp => ?_, fun p hp t ht => ?_⟩
  · rw [htrees'] at ht
    have hold := hi.trees t ht
    have hage : (b.tree t).bridgeTimes.messageAge = 0 := by
      rw [hboth, hold.times]
      rfl
    refine ⟨?_, ?_, ?_, ?_⟩
    · rw [htimes]
      exact propagateBridgeTimes_times (htrees ▸ ht) hage
    · rw [(hid t).1, hboth]
      exact hold.number
    · rw [(hid t).1, (hid 0).1, hboth, hboth]
      exact hold.address
    · rw [(hid t).2, (hid t).1, hboth]
      exact hold.priority
  · rw [hport]
    exact hi.numbers p (hports' ▸ hp)
  · rw [hport, hptp]
    exact hi.portIds p (hports' ▸ hp) t (htrees' ▸ ht)

theorem Configured.writeBridgeConfig {br : Bridge} (hi : Configured br) {cfg : CistBridgeConfig}
    (hok : cistBridgeConfigOk br cfg = true) : Configured (writeBridgeConfig cfg br) := by
  rw [Mstpd.writeBridgeConfig]
  have hparams := hi.parameters.assign hok
  have hreset := resetTxCounts_frame (assignParameters cfg br)
  cases hchange : timesChange cfg br with
  | false =>
    have hassign := hi.assign hok hchange
    simp only [Bool.false_eq_true, if_false]
    split
    · exact hassign.beside hreset.mono
    · exact hassign
  | true =>
    simp only [if_true]
    split
    · have hboth := (assignParameters_frame cfg br).trans hreset.mono
      refine configured_propagate hi (hparams.congr ?_) hboth ?_ ?_
      · exact hreset.config_eq (fun c => (c.maxAge, c.forwardDelay, c.helloTime, c.maxHops,
          c.transmitHoldCount, c.ageingTime)) fun _ => rfl
      · exact hreset.config_eq Bridge.ports fun _ => rfl
      · exact hreset.config_eq Bridge.trees fun _ => rfl
    · exact configured_propagate hi hparams (assignParameters_frame cfg br) rfl rfl

/-- A tree may be assigned what still fits the bridge. -/
theorem Configured.setTree {br : Bridge} (hi : Configured br) {t : Mstid} {f : Tree → Tree}
    (hf : TreeConfig br t (f (br.tree t))) : Configured (br.setTree t f) := by
  have hcist : ((br.setTree t f).tree 0).bridgeIdentifier.macAddress =
      (br.tree 0).bridgeIdentifier.macAddress := by
    by_cases h : 0 = t
    · subst h
      simpa [Bridge.setTree] using hf.address
    · simp [Bridge.setTree, h]
  refine ⟨hi.parameters.congr rfl, hi.cist, fun s hs => ?_, hi.numbers, hi.portIds⟩
  by_cases h : s = t
  · subst h
    refine hf.congr rfl hcist ?_
    simp [Bridge.setTree]
  · refine (hi.trees s hs).congr rfl hcist ?_
    simp [Bridge.setTree, h]

theorem Configured.setMstiBridgeConfig {br : Bridge} (hi : Configured br) {t : Mstid}
    (ht : t ∈ br.trees) (prio : UInt8) : Configured (mstpInSetMstiBridgeConfig t prio br).1 := by
  rw [mstpInSetMstiBridgeConfig]
  split
  · exact hi
  · dsimp only
    split
    · exact hi
    · have hold := hi.trees t ht
      dsimp only
      refine Configured.frame (hi.setTree ⟨hold.times, ?_, hold.address, ?_⟩)
        (Frame.setTreePtps fun _ _ => rfl)
      · exact (systemId_setPriority _ _).trans hold.number
      · dsimp only
        rw [hold.priority]
        rfl

theorem writePortConfig_frame (p : PortRef) (cfg : CistPortConfig) (br : Bridge) :
    Frame besideConfig br (writePortConfig p cfg br) := by
  have hassign : Frame besideConfig br ((br.setPtp p 0 fun ptp =>
      { ptp with
        selected := ptp.selected && !costChanges p cfg br
        reselect := ptp.reselect || costChanges p cfg br }).setPort p (assignPortConfig cfg)) :=
    Frame.after (Frame.setPort fun _ => rfl) (Frame.setPtp fun _ => rfl)
  have hbegin : ∀ b, Frame besideConfig b (bdsmBegin p b) := by
    intro b
    have h : Frame besideSettings b (bdsmBegin p b) := (bdsmTo_frame p _ b).mono
    exact h.mono
  rw [writePortConfig]
  exact Frame.ite hassign (hassign.trans (hbegin _))

theorem Configured.writePtpConfig {br : Bridge} (hi : Configured br) (p : PortRef) (t : Mstid)
    (cfg : MstiPortConfig) : Configured (writePtpConfig p t cfg br) := by
  have hid : ∀ x,
      systemId (assignPtpConfig (br.port p).speed cfg x).portId = systemId x.portId := by
    intro x
    simp only [assignPtpConfig]
    split
    · split
      · rfl
      · exact systemId_setPriority _ _
    · rfl
  have hassign : Configured (br.setPtp p t (assignPtpConfig (br.port p).speed cfg)) := by
    refine ⟨hi.parameters.congr rfl, hi.cist, fun s hs => (hi.trees s hs).congr rfl rfl rfl,
      hi.numbers, fun q hq s hs => ?_⟩
    simp only [setPtp]
    split
    · rw [hid]
      exact hi.portIds q hq s hs
    · exact hi.portIds q hq s hs
  rw [Mstpd.writePtpConfig]
  split
  · exact hassign.frame (Frame.setPtp fun _ => rfl)
  · exact hassign

theorem writeTables_config (env : Env) (changed : Bool) (vid2fid fid2mstid : Nat → UInt16)
    (br : Bridge) : Frame besideConfig br (writeTables env changed vid2fid fid2mstid br) :=
  Frame.ite ⟨rfl, fun _ _ => rfl, fun _ => rfl, fun _ => rfl, rfl⟩
    ⟨rfl, fun _ _ => rfl, fun _ => rfl, fun _ => rfl, rfl⟩

/-! ## Every state of a run -/

theorem Configured.act {br : Bridge} (hi : Configured br) {a : Act} (o : Owned)
    [o.Within besideSettings] (ho : a.owned = o) : Configured (a.run br) :=
  hi.beside (Frame.mono (o := o) (ho ▸ Act.frame a br))

theorem Visited.configured {C : Act → Bridge → Prop} {br : Bridge} (h : Visited C br) :
    Configured br := by
  refine h.inv configured_create fun a br hi hg _ => ?_
  cases a with
  | createPort p portno name speed duplex =>
    refine configured_begin.port (fun b t hb _ _ =>
      hb.beside (prssmToRoleSelection_frame t b).mono)
      (List.mem_append_right _ List.mem_cons_self) ?_
    exact hi.addPort hg.1 hg.2.2 name speed duplex
  | createMsti mstid trees =>
    have hmem := insertAfterLast_mem hg.2.2.2.2
    refine configured_begin.tree ((hmem mstid).mpr (Or.inl rfl)) ?_
    exact hi.addTree hg.1 hg.2.1 hmem
  | switchBridge up => exact configured_begin.bridge (hi.beside (resetBridge_frame up br).mono)
  | removePort p => exact hi.shrink (fun q hq => List.mem_of_mem_erase hq) (fun _ ht => ht) hi.cist
  | removeMsti mstid =>
    exact hi.shrink (fun _ hq => hq) (fun t ht => List.mem_of_mem_erase ht)
      ((List.mem_erase_of_ne hg.1.symm).mpr hi.cist)
  | bridgeAddress macaddr => exact configured_begin.ite (hi.writeAddress macaddr)
  | bridgeConfig cfg => exact configured_begin.ite (hi.writeBridgeConfig hg)
  | tables env changed vid2fid fid2mstid =>
    exact configured_begin.ite (hi.frame (writeTables_config env changed vid2fid fid2mstid br))
  | configId revision name =>
    refine configured_begin.bridge (hi.frame ?_)
    exact ⟨rfl, fun _ _ => rfl, fun _ => rfl, fun _ => rfl, rfl⟩
  | mstiBridgeConfig t prio => exact hi.setMstiBridgeConfig hg prio
  | portConfig p cfg => exact hi.frame (writePortConfig_frame p cfg br)
  | mstiPortConfig p t cfg => exact hi.writePtpConfig p t cfg
  | mcheck p =>
    refine hi.frame ?_
    rw [Act.run, requestMcheck]
    exact Frame.after (Frame.setPtp fun _ => rfl) (Frame.setPort fun _ => rfl)
  | sysdeps p speed duplex =>
    refine hi.frame ?_
    rw [Act.run]
    exact Frame.setPort fun _ => rfl
  | markDeleted p =>
    refine hi.frame ?_
    rw [Act.run, markDeleted]
    exact Frame.setPort fun _ => rfl
  | flushed p t =>
    refine hi.frame ?_
    rw [Act.run]
    exact Frame.setPtp fun _ => rfl
  | assurance => exact hi.act assuranceOwned rfl
  | prsm => exact hi.act prsmOwned rfl
  | ppmsm => exact hi.act ppmsmOwned rfl
  | bdsm => exact hi.act bdsmOwned rfl
  | ptsm => exact hi.act ptsmOwned rfl
  | pism => exact hi.act pismOwned rfl
  | prssm => exact hi.act prssmOwned rfl
  | prtsm => exact hi.act prtsmOwned rfl
  | pstsm => exact hi.act pstsmOwned rfl
  | tcsm => exact hi.act tcsmOwned rfl
  | tick | idleSecond => exact hi.act tickOwned rfl
  | linkUp | linkDown => exact hi.act linkOwned rfl
  | rxBpdu => exact hi.act rxOwned rfl

/-! ## Operations that report an error -/

theorem map_true_ok {x : Option Bridge} {br' : Bridge} {ok : Bool}
    (h : x.map (fun b => (b, true)) = some (br', ok)) : ok = true := by
  obtain ⟨b, -, heq⟩ := Option.map_eq_some_iff.mp h
  exact (Prod.mk.inj heq).2.symm

theorem tablesWritten_ok {env : Env} {changed ok : Bool} {b br' : Bridge}
    (h : tablesWritten env changed b = some (br', ok)) : ok = true := by
  rw [tablesWritten] at h
  split at h
  · exact map_true_ok h
  · exact (Prod.mk.inj (Option.some.inj h)).2.symm

/-- An operation that reports an error leaves the bridge as it was. -/
theorem exec_rejected {env : Env} {op : Op} {br br' : Bridge}
    (h : exec env br op = some (br', false)) : br' = br := by
  have hstay : ∀ {b : Bool}, some (br, b) = some (br', false) → br' = br := fun hb =>
    (Prod.mk.inj (Option.some.inj hb)).1.symm
  cases op with
  | setCistBridgeConfig cfg =>
    rw [exec, mstpInSetCistBridgeConfig] at h
    split at h
    · exact hstay h
    · dsimp only at h
      split at h
      · split at h
        · cases map_true_ok h
        · split at h
          · cases map_true_ok h
          · cases h
      · cases h
  | setMstiBridgeConfig t prio =>
    rw [exec, mstpInSetMstiBridgeConfig] at h
    split at h
    · exact hstay h
    · dsimp only at h
      split at h <;> cases h
  | setCistPortConfig p cfg =>
    rw [exec, mstpInSetCistPortConfig] at h
    split at h
    · exact hstay h
    · split at h
      · cases map_true_ok h
      · cases h
  | setMstiPortConfig p t cfg =>
    rw [exec, mstpInSetMstiPortConfig] at h
    dsimp only at h
    split at h
    · exact hstay h
    · split at h
      · cases map_true_ok h
      · cases h
  | setVid2fid vid fid =>
    rw [exec, mstpInSetVid2fid] at h
    split at h
    · exact hstay h
    · cases tablesWritten_ok h
  | setAllVids2fids f =>
    rw [exec, mstpInSetAllVids2fids] at h
    cases tablesWritten_ok h
  | setFid2mstid fid mstid =>
    rw [exec, mstpInSetFid2mstid] at h
    split at h
    · exact hstay h
    · split at h
      · exact hstay h
      · split at h
        · cases h
        · cases tablesWritten_ok h
  | setAllFids2mstids f =>
    rw [exec, mstpInSetAllFids2mstids] at h
    split at h
    · exact hstay h
    · cases tablesWritten_ok h
  | createPort p portno name speed duplex =>
    rw [exec, mstpInPortCreateAndAddTail] at h
    split at h
    · cases map_true_ok h
    · exact hstay h
  | createMsti mstid =>
    rw [exec, mstpInCreateMsti] at h
    split at h
    · exact hstay h
    · split at h
      · cases h
      · split at h
        · exact hstay h
        · split at h
          · exact hstay h
          · split at h
            · exact hstay h
            · cases map_true_ok h
  | deleteMsti mstid =>
    rw [exec, mstpInDeleteMsti] at h
    split at h
    · exact hstay h
    · split at h
      · exact hstay h
      · split at h
        · cases h
        · cases map_true_ok h
  | sysdeps p speed duplex => cases h
  | _ => cases map_true_ok h

/-- The configuration invariant of every visited state, and the operations that fail there. -/
theorem configuration_kept {br : Bridge} (h : Visited anyAct br) :
    Configured br ∧
      ∀ env op br', exec env br op = some (br', false) → br' = br :=
  ⟨h.configured, fun _ _ _ hop => exec_rejected hop⟩

/-- A refused priority at a bridge with an MSTI and a port. -/
theorem sample_configuration_kept : ∃ br, Visited anyAct br ∧ Configured br ∧
    ∀ br', exec sampleEnv br (.setMstiBridgeConfig 1 16) = some (br', false) → br' = br := by
  have hrun : (sampleRun [.createPort 1 1 "sw1p1" 1000 1, .createMsti 1,
      .setMstiBridgeConfig 1 4,
      .setCistBridgeConfig { bridgeMaxAge := some 10 }]).isSome = true := by
    decide +kernel
  obtain ⟨br, hbr⟩ := Option.isSome_iff_exists.mp hrun
  have hr : Reachable anyOp br := sampleRun_reachable (fun _ _ => trivial) hbr
  obtain ⟨hconfig, hrejected⟩ := configuration_kept hr.visited
  exact ⟨br, hr.visited, hconfig, fun br' h => hrejected _ _ br' h⟩

end Mstpd
