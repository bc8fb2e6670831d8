import Mstpd.BridgeConfig

/-!
# Path costs

The effective path costs are kept for each port and each tree. They follow the configured
costs and the speed of the link wherever the port is enabled, and the operations that
write them refuse what is out of range.
-/

namespace Mstpd

open Bridge

/-! ## Computed costs -/

theorem computePcost_toNat {speed : Int} (hpos : 0 < speed) (hlt : speed < 20000000) :
    (computePcost speed).toNat = 20000000 / speed.toNat := by
  rw [computePcost, if_pos hpos, if_pos hlt]
  have hle : 20000000 / speed.toNat ≤ 20000000 := Nat.div_le_self _ _
  change (20000000 / speed.toNat) % 2 ^ 32 = _
  exact Nat.mod_eq_of_lt (by omega)

theorem computePcost_fast {speed : Int} (hle : 20000000 ≤ speed) : computePcost speed = 1 := by
  rw [computePcost, if_pos (by omega), if_neg (by omega)]

theorem computePcost_pos (speed : Int) : 1 ≤ computePcost speed := by
  by_cases hpos : 0 < speed
  · by_cases hlt : speed < 20000000
    · rw [UInt32.le_iff_toNat_le, computePcost_toNat hpos hlt]
      exact Nat.div_pos (by omega) (by omega)
    · rw [computePcost_fast (by omega)]
      exact UInt32.le_refl 1
  · rw [computePcost, if_neg hpos]
    decide

theorem computePcost_le (speed : Int) : computePcost speed ≤ maxPathCost := by
  by_cases hpos : 0 < speed
  · by_cases hlt : speed < 20000000
    · rw [UInt32.le_iff_toNat_le, computePcost_toNat hpos hlt]
      exact (Nat.div_le_self _ _).trans (by decide)
    · rw [computePcost_fast (by omega)]
      decide
  · rw [computePcost, if_neg hpos]
    exact UInt32.le_refl _

/-- A faster link is not more expensive. -/
theorem computePcost_antitone {slow fast : Int} (hpos : 0 < slow) (hle : slow ≤ fast) :
    computePcost fast ≤ computePcost slow := by
  by_cases hfast : fast < 20000000
  · rw [UInt32.le_iff_toNat_le, computePcost_toNat (by omega) hfast,
      computePcost_toNat hpos (by omega)]
    exact Nat.div_le_div_left (by omega) (by omega)
  · rw [computePcost_fast (by omega)]
    exact computePcost_pos slow

/-! ## The invariant -/

/-- An effective cost beside the configured one and the speed of the link. -/
structure CostFollows (admin cost : UInt32) (enabled : Bool) (speed : Int) : Prop where
  configured : admin ≤ maxPathCost
  positive : 1 ≤ cost
  limited : cost ≤ maxPathCost
  effective : enabled = true → cost = effectiveCost admin (computePcost speed)

structure PathCosts (br : Bridge) : Prop where
  external : ∀ p ∈ br.ports,
    CostFollows (br.port p).adminExternalPortPathCost (br.port p).externalPortPathCost
      (br.port p).portEnabled (br.port p).speed
  internal : ∀ p ∈ br.ports, ∀ t ∈ br.trees,
    CostFollows (br.ptp p t).adminInternalPortPathCost (br.ptp p t).internalPortPathCost
      (br.port p).portEnabled (br.port p).speed

theorem CostFollows.assign {admin : UInt32} (hadmin : admin ≤ maxPathCost) (enabled : Bool)
    (speed : Int) :
    CostFollows admin (effectiveCost admin (computePcost speed)) enabled speed := by
  have hrange : 1 ≤ effectiveCost admin (computePcost speed) ∧
      effectiveCost admin (computePcost speed) ≤ maxPathCost := by
    rw [effectiveCost]
    split
    · exact ⟨computePcost_pos speed, computePcost_le speed⟩
    · rename_i hne
      refine ⟨?_, hadmin⟩
      rw [UInt32.le_iff_toNat_le]
      have hzero : admin.toNat ≠ 0 := fun h => hne (UInt32.toNat_inj.mp h)
      change 1 ≤ admin.toNat
      omega
  exact ⟨hadmin, hrange.1, hrange.2, fun _ => rfl⟩

theorem CostFollows.disable {admin cost : UInt32} {enabled : Bool} {speed : Int}
    (h : CostFollows admin cost enabled speed) (speed' : Int) :
    CostFollows admin cost false speed' :=
  ⟨h.configured, h.positive, h.limited, fun hno => absurd hno Bool.false_ne_true⟩

/-- Everything but the costs and what they are computed from. -/
def besideCosts : Owned where
  config b := { ports := b.ports, trees := b.trees }
  ptp x :=
    { internalPortPathCost := x.internalPortPathCost
      adminInternalPortPathCost := x.adminInternalPortPathCost }
  port x :=
    { portEnabled := x.portEnabled, speed := x.speed
      externalPortPathCost := x.externalPortPathCost
      adminExternalPortPathCost := x.adminExternalPortPathCost }
  tree _ := {}
  out _ := true

instance : besideCosts.KeepsLists := ⟨fun _ => rfl, fun _ => rfl⟩

instance : machinesOwned.Within besideCosts :=
  ⟨fun _ => rfl, fun _ => rfl, fun _ => rfl, fun _ => rfl, fun _ _ => rfl⟩

instance : tickOwned.Within besideCosts :=
  ⟨fun _ => rfl, fun _ => rfl, fun _ => rfl, fun _ => rfl, fun _ _ => rfl⟩

instance : rxOwned.Within besideCosts :=
  ⟨fun _ => rfl, fun _ => rfl, fun _ => rfl, fun _ => rfl, fun _ _ => rfl⟩

instance : resetOwned.Within besideCosts :=
  ⟨fun _ => rfl, fun _ => rfl, fun _ => rfl, fun _ => rfl, fun _ _ => rfl⟩

instance : timesOwned.Within besideCosts :=
  ⟨fun _ => rfl, fun _ => rfl, fun _ => rfl, fun _ => rfl, fun _ _ => rfl⟩

instance : txCountOwned.Within besideCosts :=
  ⟨fun _ => rfl, fun _ => rfl, fun _ => rfl, fun _ => rfl, fun _ _ => rfl⟩

theorem PathCosts.frame {br br' : Bridge} (hi : PathCosts br) (h : Frame besideCosts br br') :
    PathCosts br' := by
  have hport := h.port_eq (fun x => (x.portEnabled, x.speed, x.externalPortPathCost,
    x.adminExternalPortPathCost)) fun _ => rfl
  have hptp := h.ptp_eq (fun x => (x.internalPortPathCost, x.adminInternalPortPathCost))
    fun _ => rfl
  simp only [Prod.mk.injEq] at hport hptp
  constructor
  · intro p hp
    obtain ⟨henabled, hspeed, hcost, hadmin⟩ := hport p
    rw [henabled, hspeed, hcost, hadmin]
    exact hi.external p (h.ports_eq ▸ hp)
  · intro p hp t ht
    obtain ⟨henabled, hspeed, -, -⟩ := hport p
    obtain ⟨hcost, hadmin⟩ := hptp p t
    rw [henabled, hspeed, hcost, hadmin]
    exact hi.internal p (h.ports_eq ▸ hp) t (h.trees_eq ▸ ht)

theorem PathCosts.machines {br br' : Bridge} (hi : PathCosts br)
    (h : Frame machinesOwned br br') : PathCosts br' := hi.frame h.mono

theorem pathCosts_create (env : Env) (macaddr : BitVec 48) :
    PathCosts (mstpInBridgeCreate env macaddr) where
  external _ hp := absurd hp List.not_mem_nil
  internal _ hp := absurd hp List.not_mem_nil

/-! ## Ports and trees -/

/-- A new port is not enabled, and its costs are those of its link or the largest. -/
theorem PathCosts.addPort {br : Bridge} (hi : PathCosts br) {p : PortRef} (hnew : p ∉ br.ports)
    (portno : UInt16) (name : String) (speed duplex : Int) :
    PathCosts (addPort p portno name speed duplex br) := by
  have hold : ∀ q ∈ br.ports, q ≠ p := fun q hq h => hnew (h ▸ hq)
  constructor
  · intro q hq
    rcases List.mem_append.mp hq with hq | hone
    · simpa [Mstpd.addPort, setPortPtps, Bridge.setPort, hold q hq] using hi.external q hq
    · rw [List.mem_singleton.mp hone]
      have hlargest : CostFollows 0 maxPathCost false speed :=
        ⟨by decide, by decide, UInt32.le_refl _, fun hno => absurd hno Bool.false_ne_true⟩
      simpa [Mstpd.addPort, setPortPtps, Bridge.setPort, portDefaultInternalVars] using hlargest
  · intro q hq t ht
    rcases List.mem_append.mp hq with hq | hone
    · simpa [Mstpd.addPort, setPortPtps, Bridge.setPort, hold q hq] using hi.internal q hq t ht
    · rw [List.mem_singleton.mp hone]
      have htree : t ∈ br.trees := ht
      have hcomputed : CostFollows 0 (computePcost speed) false speed :=
        CostFollows.assign (by decide) false speed
      simpa [Mstpd.addPort, setPortPtps, Bridge.setPort, portDefaultInternalVars, createPtp,
        ptpDefaultInternalVars, htree] using hcomputed

/-- The entries of a new tree get the costs of the links as they are. -/
theorem PathCosts.addTree {br : Bridge} (hi : PathCosts br) {mstid : Mstid} {trees : List Mstid}
    (hmem : ∀ s, s ∈ trees ↔ s = mstid ∨ s ∈ br.trees) : PathCosts (addTree mstid trees br) where
  external := hi.external
  internal p hp t ht := by
    have hport : p ∈ br.ports := hp
    by_cases h : t = mstid
    · have hcomputed : CostFollows 0 (computePcost (br.port p).speed) (br.port p).portEnabled
          (br.port p).speed := CostFollows.assign (by decide) _ _
      simpa [Mstpd.addTree, setTreePtps, setTree, h, createPtp, ptpDefaultInternalVars, hport]
        using hcomputed
    · have hold : t ∈ br.trees := ((hmem t).mp ht).resolve_left h
      simpa [Mstpd.addTree, setTreePtps, setTree, h] using hi.internal p hport t hold

theorem PathCosts.shrink {br : Bridge} (hi : PathCosts br) {ports : List PortRef}
    {trees : List Mstid} (hports : ∀ p ∈ ports, p ∈ br.ports) (htrees : ∀ t ∈ trees, t ∈ br.trees) :
    PathCosts { br with ports := ports, trees := trees } where
  external p hp := hi.external p (hports p hp)
  internal p hp t ht := hi.internal p (hports p hp) t (htrees t ht)

theorem setPort_setPort (p : PortRef) (f g : Port → Port) (br : Bridge) :
    (br.setPort p f).setPort p g = br.setPort p fun prt => g (f prt) := by
  simp only [Bridge.setPort]
  congr 1
  funext q
  by_cases h : q = p
  · simp [h]
  · simp [h]

/-- A port that is no longer enabled, whatever its speed is then. -/
theorem PathCosts.disable {br : Bridge} (hi : PathCosts br) {p : PortRef} {f : Port → Port}
    (hcost : ∀ x, ((f x).externalPortPathCost, (f x).adminExternalPortPathCost) =
      (x.externalPortPathCost, x.adminExternalPortPathCost))
    (hdisabled : (f (br.port p)).portEnabled = false) : PathCosts (br.setPort p f) := by
  have hcost := hcost (br.port p)
  simp only [Prod.mk.injEq] at hcost
  constructor
  · intro q hq
    by_cases h : q = p
    · subst h
      simp only [Bridge.setPort, if_true, hcost, hdisabled]
      exact (hi.external q hq).disable _
    · simpa [Bridge.setPort, h] using hi.external q hq
  · intro q hq t ht
    by_cases h : q = p
    · subst h
      simp only [Bridge.setPort, if_true, hdisabled]
      exact (hi.internal q hq t ht).disable _
    · simpa [Bridge.setPort, h] using hi.internal q hq t ht

/-! ## Costs that are written -/

theorem PathCosts.writePortConfig {br : Bridge} (hi : PathCosts br) {p : PortRef}
    {cfg : CistPortConfig}
    (hok : cfg.adminExternalPortPathCost.any (fun c => decide (maxPathCost < c)) = false) :
    PathCosts (writePortConfig p cfg br) := by
  have hassign : PathCosts (br.setPort p (assignPortConfig cfg)) := by
    constructor
    · intro q hq
      by_cases h : q = p
      · subst h
        have hold := hi.external q hq
        simp only [Bridge.setPort, if_true, assignPortConfig, newExternalCost]
        cases hset : cfg.adminExternalPortPathCost with
        | none => exact hold
        | some admin =>
          rw [hset] at hok
          have hadmin : admin ≤ maxPathCost := by simpa using hok
          exact CostFollows.assign hadmin _ _
      · simpa [Bridge.setPort, h] using hi.external q hq
    · intro q hq t ht
      by_cases h : q = p
      · subst h
        simpa [Bridge.setPort, assignPortConfig] using hi.internal q hq t ht
      · simpa [Bridge.setPort, h] using hi.internal q hq t ht
  have hrequest : Frame besideCosts (br.setPort p (assignPortConfig cfg))
      ((br.setPtp p 0 fun ptp =>
        { ptp with
          selected := ptp.selected && !costChanges p cfg br
          reselect := ptp.reselect || costChanges p cfg br }).setPort
        p (assignPortConfig cfg)) := by
    have h : Frame besideCosts (br.setPort p (assignPortConfig cfg))
        ((br.setPort p (assignPortConfig cfg)).setPtp p 0 fun ptp =>
          { ptp with
            selected := ptp.selected && !costChanges p cfg br
            reselect := ptp.reselect || costChanges p cfg br }) := Frame.setPtp fun _ => rfl
    exact h
  rw [Mstpd.writePortConfig]
  split
  · exact hassign.frame hrequest
  · exact (hassign.frame hrequest).machines (bdsmTo_frame p _ _).mono

theorem PathCosts.writePtpConfig {br : Bridge} (hi : PathCosts br) {p : PortRef} {t : Mstid}
    {cfg : MstiPortConfig}
    (hok : cfg.adminInternalPortPathCost.any (fun c => decide (maxPathCost < c)) = false) :
    PathCosts (writePtpConfig p t cfg br) := by
  have hassign : PathCosts (br.setPtp p t (assignPtpConfig (br.port p).speed cfg)) := by
    refine ⟨hi.external, fun q hq s hs => ?_⟩
    have hold := hi.internal q hq s hs
    by_cases h : q = p ∧ s = t
    · obtain ⟨rfl, rfl⟩ := h
      simp only [setPtp, and_self, if_true, assignPtpConfig]
      cases hset : cfg.adminInternalPortPathCost with
      | none => exact hold
      | some admin =>
        rw [hset] at hok
        have hadmin : admin ≤ maxPathCost := by simpa using hok
        exact CostFollows.assign hadmin _ _
    · simpa [setPtp, h] using hold
  rw [Mstpd.writePtpConfig]
  split
  · exact hassign.frame (Frame.setPtp fun _ => rfl)
  · exact hassign

theorem linkUp_port (p q : PortRef) (speed duplex : Int) (br : Bridge) :
    ((linkUp p speed duplex br).port q).portEnabled =
      (if q = p then true else (br.port q).portEnabled) ∧
    ((linkUp p speed duplex br).port q).speed = (br.port q).speed ∧
    ((linkUp p speed duplex br).port q).adminExternalPortPathCost =
      (br.port q).adminExternalPortPathCost ∧
    ((linkUp p speed duplex br).port q).externalPortPathCost =
      if q = p then
        effectiveCost (br.port q).adminExternalPortPathCost (computePcost speed)
      else (br.port q).externalPortPathCost := by
  by_cases h : q = p
  · subst h
    cases henabled : (br.port q).portEnabled with
    | true => simp [linkUp, assignLink, setPortPtps, Bridge.setPort, henabled]
    | false =>
      simp [linkUp, assignLink, portUp, updtbrAssuRcvdInfoWhile, setPortPtps, Bridge.setPort,
        henabled]
  · cases henabled : (br.port p).portEnabled with
    | true => simp [linkUp, assignLink, setPortPtps, Bridge.setPort, henabled, h]
    | false =>
      simp [linkUp, assignLink, portUp, updtbrAssuRcvdInfoWhile, setPortPtps, Bridge.setPort,
        henabled, h]

theorem linkUp_ptp (p q : PortRef) {t : Mstid} {br : Bridge} (ht : t ∈ br.trees)
    (speed duplex : Int) :
    ((linkUp p speed duplex br).ptp q t).adminInternalPortPathCost =
      (br.ptp q t).adminInternalPortPathCost ∧
    ((linkUp p speed duplex br).ptp q t).internalPortPathCost =
      if q = p then effectiveCost (br.ptp q t).adminInternalPortPathCost (computePcost speed)
      else (br.ptp q t).internalPortPathCost := by
  by_cases h : q = p
  · subst h
    cases henabled : (br.port q).portEnabled with
    | true => simp [linkUp, assignLink, setPortPtps, Bridge.setPort, henabled, ht]
    | false =>
      simp [linkUp, assignLink, portUp, updtbrAssuRcvdInfoWhile, setPortPtps, Bridge.setPort,
        henabled, ht]
  · cases henabled : (br.port p).portEnabled with
    | true => simp [linkUp, assignLink, setPortPtps, Bridge.setPort, henabled, h]
    | false =>
      simp [linkUp, assignLink, portUp, updtbrAssuRcvdInfoWhile, setPortPtps, Bridge.setPort,
        henabled, h]

/-- A link that is reported up with the speed that its port has; what the costs of the port
were is not used. -/
theorem PathCosts.linkUp {br : Bridge} {p : PortRef} {speed duplex : Int}
    (hi : PathCosts (br.setPort p fun prt => { prt with portEnabled := false }))
    (hspeed : (br.port p).speed = speed) : PathCosts (linkUp p speed duplex br) := by
  have hports : (Mstpd.linkUp p speed duplex br).ports = br.ports :=
    (linkUp_frame p speed duplex br).ports_eq
  have htrees : (Mstpd.linkUp p speed duplex br).trees = br.trees :=
    (linkUp_frame p speed duplex br).trees_eq
  constructor
  · intro q hq
    have hold := hi.external q (hports ▸ hq)
    obtain ⟨henabled, hspeed', hadmin, hcost⟩ := linkUp_port p q speed duplex br
    rw [henabled, hspeed', hadmin, hcost]
    by_cases h : q = p
    · subst h
      have hle : (br.port q).adminExternalPortPathCost ≤ maxPathCost := by
        simpa [Bridge.setPort] using hold.configured
      rw [if_pos rfl, if_pos rfl, hspeed]
      exact CostFollows.assign hle true speed
    · rw [if_neg h, if_neg h]
      simpa [Bridge.setPort, h] using hold
  · intro q hq t ht
    have ht : t ∈ br.trees := htrees ▸ ht
    have hold := hi.internal q (hports ▸ hq) t ht
    obtain ⟨henabled, hspeed', -, -⟩ := linkUp_port p q speed duplex br
    obtain ⟨hadmin, hcost⟩ := linkUp_ptp p q ht speed duplex
    rw [henabled, hspeed', hadmin, hcost]
    by_cases h : q = p
    · subst h
      rw [if_pos rfl, if_pos rfl, hspeed]
      exact CostFollows.assign hold.configured true speed
    · rw [if_neg h, if_neg h]
      simpa [Bridge.setPort, h] using hold

/-! ## Runs -/

/-- An action that writes a cost in range, or none; links coming up and the notes of the
daemon are apart. -/
def Act.KeepsCosts : Act → Prop
  | .linkUp .. => False
  | .sysdeps .. => False
  | .portConfig _ cfg =>
    cfg.adminExternalPortPathCost.any (fun c => decide (maxPathCost < c)) = false
  | .mstiPortConfig _ _ cfg =>
    cfg.adminInternalPortPathCost.any (fun c => decide (maxPathCost < c)) = false
  | _ => True

theorem pathCosts_ite {c : Prop} [Decidable c] {br : Bridge} (h : PathCosts br) :
    PathCosts (if c then bridgeBegin br else br) := by
  split
  · exact h.machines (bridgeBegin_machines br)
  · exact h

theorem PathCosts.act {br : Bridge} (hi : PathCosts br) {a : Act} (hg : a.Guard br)
    (ha : a.KeepsCosts) : PathCosts (a.run br) := by
  have machine : ∀ {o : Owned} [o.Within machinesOwned], Frame o br (a.run br) →
      PathCosts (a.run br) := fun h => hi.machines h.mono
  cases a with
  | assurance p => exact machine (assuranceRun_frame p br)
  | prsm p s => exact machine (prsmTo_frame p s br)
  | ppmsm p s => exact machine (ppmsmTo_frame p s br)
  | bdsm p s => exact machine (bdsmTo_frame p s br)
  | ptsm p s => exact machine (ptsmTo_frame p s br)
  | pism p t s => exact machine (pismTo_frame p t s br)
  | prssm t => exact machine (prssmToRoleSelection_frame t br)
  | prtsm p t s => exact machine (prtsmTo_frame _ p t s br)
  | pstsm p t s => exact machine (pstsmTo_frame p t s br)
  | tcsm p t s => exact machine (tcsmTo_frame p t s br)
  | createPort p portno name speed duplex =>
    exact (hi.addPort hg.1 portno name speed duplex).machines
      (portBegin_machines (List.mem_append_right _ List.mem_cons_self))
  | markDeleted p =>
    have hmark : PathCosts (br.setPort p fun prt =>
        { prt with deleted := true, portEnabled := false }) := hi.disable (fun _ => rfl) rfl
    exact hmark
  | removePort p => exact hi.shrink (fun q hq => List.mem_of_mem_erase hq) fun _ ht => ht
  | createMsti mstid trees =>
    have hmem := insertAfterLast_mem hg.2.2.2.2
    exact (hi.addTree hmem).machines (treeBegin_machines ((hmem mstid).mpr (Or.inl rfl)))
  | removeMsti mstid => exact hi.shrink (fun _ hq => hq) fun t ht => List.mem_of_mem_erase ht
  | switchBridge up =>
    exact (hi.frame (resetBridge_frame up br).mono).machines (bridgeBegin_machines _)
  | tick =>
    have htick : Frame tickOwned br (Act.run br .tick) := Act.frame .tick br
    exact hi.frame htick.mono
  | idleSecond =>
    have hidle : Frame tickOwned br (Act.run br .idleSecond) := Act.frame .idleSecond br
    exact hi.frame hidle.mono
  | linkUp => exact ha.elim
  | linkDown p =>
    have hdown : PathCosts (br.setPort p fun prt => { prt with portEnabled := false }) :=
      hi.disable (fun _ => rfl) rfl
    exact hdown
  | flushed p t =>
    have hflush : Frame besideCosts br (br.setPtp p t fun ptp => { ptp with fdbFlush := false }) :=
      Frame.setPtp fun _ => rfl
    exact hi.frame hflush
  | rxBpdu p bpdu size => exact hi.frame (rxAssign_frame p bpdu size br).mono
  | bridgeAddress macaddr =>
    have hset : ∀ s b, Frame besideCosts b (b.setTree s (treeAddress macaddr)) :=
      fun _ _ => Frame.setTree fun _ => rfl
    exact pathCosts_ite (hi.frame (Frame.forAll hset br.trees br))
  | bridgeConfig cfg =>
    have hassign : Frame besideCosts br (assignParameters cfg br) :=
      ⟨rfl, fun _ _ => rfl, fun _ => rfl, fun _ => rfl, rfl⟩
    have hreset := Frame.ite (c := holdCountChanges cfg br)
      (hassign.trans (resetTxCounts_frame _).mono) hassign
    exact pathCosts_ite
      (hi.frame (Frame.ite (hreset.trans (propagateBridgeTimes_frame _).mono) hreset))
  | mstiBridgeConfig t prio =>
    have hframe : Frame besideCosts br (mstpInSetMstiBridgeConfig t prio br).1 := by
      rw [mstpInSetMstiBridgeConfig]
      split
      · exact Frame.refl _ _
      · dsimp only
        split
        · exact Frame.refl _ _
        · dsimp only
          exact Frame.after (Frame.setTreePtps fun _ _ => rfl) (Frame.setTree fun _ => rfl)
    exact hi.frame hframe
  | portConfig p cfg => exact hi.writePortConfig ha
  | mstiPortConfig p t cfg => exact hi.writePtpConfig ha
  | mcheck p =>
    have hmcheck : Frame besideCosts br (requestMcheck p br) :=
      Frame.after (Frame.setPtp fun _ => rfl) (Frame.setPort fun _ => rfl)
    exact hi.frame hmcheck
  | tables env changed vid2fid fid2mstid =>
    have hwrite : Frame besideCosts br (writeTables env changed vid2fid fid2mstid br) :=
      Frame.ite ⟨rfl, fun _ _ => rfl, fun _ => rfl, fun _ => rfl, rfl⟩
        ⟨rfl, fun _ _ => rfl, fun _ => rfl, fun _ => rfl, rfl⟩
    exact pathCosts_ite (hi.frame hwrite)
  | configId revision name =>
    have hwrite : Frame besideCosts br (writeConfigId revision name br) :=
      ⟨rfl, fun _ _ => rfl, fun _ => rfl, fun _ => rfl, rfl⟩
    exact (hi.frame hwrite).machines (bridgeBegin_machines _)
  | sysdeps => exact ha.elim

/-- The operations that give the core the speed of a link. -/
def Op.aboutLink : Op → Bool
  | .setPortEnable _ up _ _ => up
  | .sysdeps .. => true
  | _ => false

theorem Op.Takes.keepsCosts {op : Op} {a : Act} (h : op.Takes a) (hlink : op.aboutLink = false) :
    a.KeepsCosts := by
  cases op with
  | setPortEnable p up speed duplex =>
    rcases h with ⟨rfl, -⟩ | ⟨-, rfl⟩
    · cases hlink
    · trivial
  | sysdeps p speed duplex => cases hlink
  | setCistPortConfig p cfg =>
    obtain ⟨hok, rfl⟩ := h
    exact hok
  | setMstiPortConfig p t cfg =>
    obtain ⟨hok, rfl⟩ := h
    exact hok
  | deletePort p | oneSecond =>
    rcases h with rfl | rfl <;> trivial
  | allFidsFlushed p t =>
    rcases h with rfl | ⟨s, rfl⟩ <;> trivial
  | createMsti _ | setMstConfigId _ _ =>
    obtain ⟨_, rfl⟩ := h
    trivial
  | setVid2fid _ _ | setAllVids2fids _ | setFid2mstid _ _ | setAllFids2mstids _ =>
    obtain ⟨_, _, _, _, rfl⟩ := h
    trivial
  | _ =>
    obtain rfl := h
    trivial

/-- Links are reported up with the speed that their ports have, and the speed of an enabled
port is not noted without a report. -/
def linksReported : Allowed := fun _ op br =>
  match op with
  | .setPortEnable p true speed _ => speed = (br.port p).speed
  | .sysdeps p speed _ => (br.port p).portEnabled = true → speed = (br.port p).speed
  | _ => True

/-- `set_if_up` for a link that is up: the new speed and duplex mode are noted, and the link
is reported with them. -/
def sysdepsLink (p : PortRef) (speed duplex : Int) (br : Bridge) : Bridge :=
  br.setPort p fun prt => { prt with speed := speed, duplex := duplex }

inductive LinkStep (br br' : Bridge) : Prop
  | op (h : Step linksReported br br')
  | setIfUp (env : Env) (p : PortRef) (speed duplex : Int) (hp : p ∈ br.ports)
    (h : mstpInSetPortEnable env p true speed duplex (sysdepsLink p speed duplex br) = some br')

/-- The states that operations lead to when links are reported so. -/
def LinkReachable (br : Bridge) : Prop :=
  ∃ env macaddr, Relation.ReflTransGen LinkStep (mstpInBridgeCreate env macaddr) br

section Runs

variable {env : Env} {p : PortRef} {speed duplex : Int} {br br' : Bridge}

theorem brRun_costs {late : Nat → Bool} {fuel : Nat} (hi : PathCosts br)
    (h : brStateMachinesRun late fuel br = some br') : PathCosts br' :=
  hi.machines (brRun_machines h)

/-- A report keeps the costs even where the noted speed is new. -/
theorem setPortEnable_costs
    (hi : PathCosts (br.setPort p fun prt => { prt with portEnabled := false }))
    (hspeed : (br.port p).speed = speed)
    (h : mstpInSetPortEnable env p true speed duplex br = some br') : PathCosts br' := by
  have hlink : PathCosts (linkUp p speed duplex br) := hi.linkUp hspeed
  rw [mstpInSetPortEnable, if_pos rfl] at h
  dsimp only at h
  split at h
  · exact brRun_costs hlink h
  · exact Option.some.inj h ▸ hlink

theorem sysdeps_costs (hi : PathCosts br)
    (hsame : (br.port p).portEnabled = true → speed = (br.port p).speed) :
    PathCosts (sysdepsLink p speed duplex br) := by
  cases henabled : (br.port p).portEnabled with
  | true =>
    have hspeed := hsame henabled
    constructor
    · intro q hq
      by_cases h : q = p
      · subst h
        simpa [sysdepsLink, setPort, hspeed] using hi.external q hq
      · simpa [sysdepsLink, setPort, h] using hi.external q hq
    · intro q hq t ht
      by_cases h : q = p
      · subst h
        simpa [sysdepsLink, setPort, hspeed] using hi.internal q hq t ht
      · simpa [sysdepsLink, setPort, h] using hi.internal q hq t ht
  | false => exact hi.disable (fun _ => rfl) henabled

/-- An operation whose actions write costs in range only. -/
theorem exec_costs {op : Op} {ok : Bool} (hi : PathCosts br) (hv : op.Valid br)
    (hop : ∀ a, op.Takes a → a.KeepsCosts) (h : exec env br op = some (br', ok)) :
    PathCosts br' := by
  have hcomposes : Composes op.Takes fun b b' => PathCosts b → PathCosts b' :=
    { refl := fun _ => id
      trans := fun h h' => h' ∘ h
      act := fun b a _ hg ha hb => hb.act hg (hop a ha)
      run := fun hrun hb => brRun_costs hb hrun }
  exact exec_composes hcomposes hv h hi

theorem LinkStep.costs (hi : PathCosts br) (h : LinkStep br br') : PathCosts br' := by
  cases h with
  | setIfUp env p speed duplex hp h =>
    refine setPortEnable_costs (p := p) ?_ ?_ h
    · rw [sysdepsLink, setPort_setPort]
      exact hi.disable (fun _ => rfl) rfl
    · simp [sysdepsLink, setPort]
  | op h =>
    obtain ⟨env, op, ok, hv, hA, hexec⟩ := h
    cases hlink : op.aboutLink with
    | false => exact exec_costs hi hv (fun a ha => ha.keepsCosts hlink) hexec
    | true =>
      cases op with
      | setPortEnable p up speed duplex =>
        obtain rfl : up = true := hlink
        refine setPortEnable_costs (p := p) ?_ hA.symm (map_true hexec)
        exact hi.disable (fun _ => rfl) rfl
      | sysdeps p speed duplex =>
        have hnote : PathCosts (sysdepsLink p speed duplex br) := sysdeps_costs hi hA
        rw [sysdepsLink, (Prod.mk.inj (Option.some.inj hexec)).1] at hnote
        exact hnote
      | _ => cases hlink

theorem LinkReachable.costs (h : LinkReachable br) : PathCosts br := by
  obtain ⟨env, macaddr, hrun⟩ := h
  induction hrun with
  | refl => exact pathCosts_create env macaddr
  | tail _ hstep ih => exact hstep.costs ih

/-- Effective costs are in range and follow the configuration and the speed of the link;
faster links have smaller computed costs. -/
theorem path_costs_follow :
    (∀ br, LinkReachable br → PathCosts br) ∧
    ∀ slow fast : Int, 0 < slow → slow ≤ fast → computePcost fast ≤ computePcost slow :=
  ⟨fun _ h => h.costs, fun _ _ hpos hle => computePcost_antitone hpos hle⟩

end Runs

theorem execAll_linkReachable {env : Env} {ops : List Op}
    (hA : ∀ op ∈ ops, ∀ br, linksReported env op br) {br br' : Bridge} (hr : LinkReachable br)
    (h : execAll env ops br = some br') : LinkReachable br' := by
  induction ops generalizing br with
  | nil => exact Option.some.inj h ▸ hr
  | cons op ops ih =>
    rw [execAll] at h
    split at h
    · rename_i hvalid
      obtain ⟨⟨b, ok⟩, hb, hrest⟩ := Option.bind_eq_some_iff.mp h
      obtain ⟨env₀, macaddr, hrun⟩ := hr
      have hstep : Step linksReported br b :=
        ⟨env, op, ok, hvalid, hA op List.mem_cons_self br, hb⟩
      exact ih (fun op hop => hA op (List.mem_cons_of_mem _ hop))
        ⟨env₀, macaddr, hrun.tail (.op hstep)⟩ hrest
    · cases h

/-- A bridge with one port. -/
def costsBefore : Option Bridge :=
  execAll sampleEnv [.createPort 1 1 "sw1p1" 1000 1, .setBridgeEnable true]
    (mstpInBridgeCreate sampleEnv 0x020000000001)

/-- An MSTI, and a configured cost for it. -/
def costsAfter : Bridge → Option Bridge :=
  execAll sampleEnv
    [.createMsti 1, .setMstiPortConfig 1 1 { adminInternalPortPathCost := some 40000 }]

/-- The link comes up with another speed than the port was created with; an MSTI is created
then, and its cost configured. -/
theorem sample_costs_follow : ∃ br, LinkReachable br ∧ PathCosts br ∧
    (br.port 1).portEnabled = true ∧ (br.port 1).speed = 100 ∧
    (br.port 1).externalPortPathCost = 200000 ∧ (br.ptp 1 1).internalPortPathCost = 40000 := by
  have hrun : (costsBefore.any fun b => decide (1 ∈ b.ports) &&
      (mstpInSetPortEnable sampleEnv 1 true 100 1 (sysdepsLink 1 100 1 b)).any fun c =>
        (costsAfter c).any fun br => (br.port 1).portEnabled && decide ((br.port 1).speed = 100) &&
          decide ((br.port 1).externalPortPathCost = 200000) &&
          decide ((br.ptp 1 1).internalPortPathCost = 40000)) = true := by
    decide +kernel
  obtain ⟨b, hb, hrun⟩ := (Option.any_eq_true _ _).mp hrun
  obtain ⟨hport, hrun⟩ := Bool.and_eq_true_iff.mp hrun
  obtain ⟨c, hc, hrun⟩ := (Option.any_eq_true _ _).mp hrun
  obtain ⟨br, hbr, hrun⟩ := (Option.any_eq_true _ _).mp hrun
  simp only [Bool.and_eq_true, decide_eq_true_eq] at hport hrun
  obtain ⟨⟨⟨henabled, hspeed⟩, hexternal⟩, hinternal⟩ := hrun
  have hcreated : LinkReachable (mstpInBridgeCreate sampleEnv 0x020000000001) :=
    ⟨sampleEnv, _, .refl⟩
  have hb : LinkReachable b := by
    refine execAll_linkReachable (fun op hop br => ?_) hcreated hb
    simp only [List.mem_cons, List.not_mem_nil, or_false] at hop
    rcases hop with rfl | rfl <;> trivial
  obtain ⟨env, macaddr, hsteps⟩ := hb
  have hc : LinkReachable c := ⟨env, macaddr, hsteps.tail (.setIfUp sampleEnv 1 100 1 hport hc)⟩
  have hbr : LinkReachable br := by
    refine execAll_linkReachable (fun op hop br => ?_) hc hbr
    simp only [List.mem_cons, List.not_mem_nil, or_false] at hop
    rcases hop with rfl | rfl <;> trivial
  exact ⟨br, hbr, path_costs_follow.1 br hbr, henabled, hspeed, hexternal, hinternal⟩

end Mstpd
