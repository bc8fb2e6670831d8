import Mstpd.Cabling
import Mstpd.PathCosts

/-!
# Speed and duplex mode

The harness notes the speed and the duplex mode of a port without telling the core, which
reads them when the carrier changes and in some other operations. While a port is up, its
costs and its point to point state therefore lag behind unless the new link counts as the
old one.
-/

namespace Mstpd

open Bridge Machine

/-! ## In one bridge -/

/-- What a bridge has computed from the links of its ports is up to date where they are up. -/
structure LinkFollows (br : Bridge) : Prop extends PathCosts br where
  pointToPoint : ∀ p ∈ br.ports, (br.port p).portEnabled = true →
    (br.port p).operPointToPointMAC = operP2P (br.port p).adminP2P (br.port p).duplex

/-- A new link makes no difference, as far as the costs and the point to point state of the
port are not configured. -/
structure SameLink (p : PortRef) (speed duplex : Int) (br : Bridge) : Prop where
  external : (br.port p).adminExternalPortPathCost = 0 →
    computePcost speed = computePcost (br.port p).speed
  internal : ∀ t ∈ br.trees, (br.ptp p t).adminInternalPortPathCost = 0 →
    computePcost speed = computePcost (br.port p).speed
  pointToPoint : (br.port p).adminP2P = .auto → (duplex != 0) = ((br.port p).duplex != 0)

/-- Everything but the point to point state and what it is computed from. -/
def besideP2p : Owned where
  config b := { ports := b.ports }
  ptp _ := {}
  port x :=
    { portEnabled := x.portEnabled, duplex := x.duplex, adminP2P := x.adminP2P
      operPointToPointMAC := x.operPointToPointMAC }
  tree _ := {}
  out _ := true

instance : machinesOwned.Within besideP2p :=
  ⟨fun _ => rfl, fun _ => rfl, fun _ => rfl, fun _ => rfl, fun _ _ => rfl⟩

instance : tickOwned.Within besideP2p :=
  ⟨fun _ => rfl, fun _ => rfl, fun _ => rfl, fun _ => rfl, fun _ _ => rfl⟩

instance : rxOwned.Within besideP2p :=
  ⟨fun _ => rfl, fun _ => rfl, fun _ => rfl, fun _ => rfl, fun _ _ => rfl⟩

instance : resetOwned.Within besideP2p :=
  ⟨fun _ => rfl, fun _ => rfl, fun _ => rfl, fun _ => rfl, fun _ _ => rfl⟩

instance : timesOwned.Within besideP2p :=
  ⟨fun _ => rfl, fun _ => rfl, fun _ => rfl, fun _ => rfl, fun _ _ => rfl⟩

instance : txCountOwned.Within besideP2p :=
  ⟨fun _ => rfl, fun _ => rfl, fun _ => rfl, fun _ => rfl, fun _ _ => rfl⟩

/-- The point to point state of every port that is up. -/
def P2pFollows (br : Bridge) : Prop :=
  ∀ p ∈ br.ports, (br.port p).portEnabled = true →
    (br.port p).operPointToPointMAC = operP2P (br.port p).adminP2P (br.port p).duplex

section Core

variable {env : Env} {p : PortRef} {speed duplex : Int} {br br' : Bridge}

theorem P2pFollows.frame (hi : P2pFollows br) (h : Frame besideP2p br br') : P2pFollows br' := by
  intro q hq hup
  have hport := h.port_eq (fun x => (x.portEnabled, x.duplex, x.adminP2P, x.operPointToPointMAC))
    (fun _ => rfl) q
  simp only [Prod.mk.injEq] at hport
  obtain ⟨henabled, hduplex, hadmin, hoper⟩ := hport
  have hlisted : q ∈ br.ports := h.config_eq Bridge.ports (fun _ => rfl) ▸ hq
  rw [hoper, hadmin, hduplex]
  exact hi q hlisted (henabled ▸ hup)

theorem P2pFollows.machines (hi : P2pFollows br) (h : Frame machinesOwned br br') :
    P2pFollows br' := hi.frame h.mono

/-- Only one port is written, and its new state is up to date if it is up. -/
theorem P2pFollows.setPort {f : Port → Port} (hi : P2pFollows br)
    (hf : p ∈ br.ports → (f (br.port p)).portEnabled = true →
      (f (br.port p)).operPointToPointMAC =
        operP2P (f (br.port p)).adminP2P (f (br.port p)).duplex) :
    P2pFollows (br.setPort p f) := by
  intro q hq hup
  by_cases h : q = p
  · subst h
    simp only [Bridge.setPort, if_true] at hup ⊢
    exact hf hq hup
  · simp only [Bridge.setPort, h, if_false] at hup ⊢
    exact hi q hq hup

theorem P2pFollows.addPort (hi : P2pFollows br) (hnew : p ∉ br.ports) (portno : UInt16)
    (name : String) : P2pFollows (addPort p portno name speed duplex br) := by
  intro q hq hup
  rcases List.mem_append.mp hq with hq | hone
  · have hne : q ≠ p := fun h => hnew (h ▸ hq)
    have hport : (Mstpd.addPort p portno name speed duplex br).port q = br.port q := by
      simp [Mstpd.addPort, setPortPtps, Bridge.setPort, hne]
    rw [hport] at hup ⊢
    exact hi q hq hup
  · rw [List.mem_singleton.mp hone] at hup
    simp [Mstpd.addPort, setPortPtps, Bridge.setPort, portDefaultInternalVars] at hup

theorem P2pFollows.writePortConfig (hi : P2pFollows br) {cfg : CistPortConfig} :
    P2pFollows (writePortConfig p cfg br) := by
  have hask : P2pFollows (br.setPtp p 0 fun ptp =>
      { ptp with
        selected := ptp.selected && !costChanges p cfg br
        reselect := ptp.reselect || costChanges p cfg br }) := hi.frame (Frame.setPtp fun _ => rfl)
  have hassign := hask.setPort (p := p) (f := assignPortConfig cfg) fun hp hup => by
    simp only [assignPortConfig]
    split
    · rfl
    · rename_i hnone
      have hadmin : cfg.adminP2P = none := by simpa using hnone
      rw [hadmin]
      exact hi p hp hup
  rw [Mstpd.writePortConfig]
  split
  · exact hassign
  · exact hassign.machines (bdsmTo_frame p _ _).mono

theorem p2pFollows_ite {c : Prop} [Decidable c] (h : P2pFollows br) :
    P2pFollows (if c then bridgeBegin br else br) := by
  split
  · exact h.machines (bridgeBegin_machines br)
  · exact h

theorem P2pFollows.act (hi : P2pFollows br) {a : Act} (hg : a.Guard br) (ha : a.KeepsCosts) :
    P2pFollows (a.run br) := by
  have hdown : ∀ {q : PortRef} {f : Port → Port}, (f (br.port q)).portEnabled = false →
      P2pFollows (br.setPort q f) := fun hoff => hi.setPort fun _ hup => by
    rw [hoff] at hup
    cases hup
  cases a with
  | assurance p => exact hi.machines (assuranceRun_frame p br).mono
  | prsm p s => exact hi.machines (prsmTo_frame p s br).mono
  | ppmsm p s => exact hi.machines (ppmsmTo_frame p s br).mono
  | bdsm p s => exact hi.machines (bdsmTo_frame p s br).mono
  | ptsm p s => exact hi.machines (ptsmTo_frame p s br).mono
  | pism p t s => exact hi.machines (pismTo_frame p t s br).mono
  | prssm t => exact hi.machines (prssmToRoleSelection_frame t br).mono
  | prtsm p t s => exact hi.machines (prtsmTo_frame _ p t s br).mono
  | pstsm p t s => exact hi.machines (pstsmTo_frame p t s br).mono
  | tcsm p t s => exact hi.machines (tcsmTo_frame p t s br).mono
  | createPort p portno name speed duplex =>
    exact (hi.addPort hg.1 portno name).machines
      (portBegin_machines (List.mem_append_right _ List.mem_cons_self))
  | markDeleted p => exact hdown rfl
  | removePort p => exact fun q hq hup => hi q (List.mem_of_mem_erase hq) hup
  | createMsti mstid trees =>
    have hmem := insertAfterLast_mem hg.2.2.2.2
    have hadd : P2pFollows (addTree mstid trees br) := hi
    exact hadd.machines (treeBegin_machines ((hmem mstid).mpr (Or.inl rfl)))
  | removeMsti mstid => exact hi
  | switchBridge up =>
    exact (hi.frame (resetBridge_frame up br).mono).machines (bridgeBegin_machines _)
  | tick =>
    have htick : Frame tickOwned br (Act.run br .tick) := Act.frame .tick br
    exact hi.frame htick.mono
  | idleSecond =>
    have hidle : Frame tickOwned br (Act.run br .idleSecond) := Act.frame .idleSecond br
    exact hi.frame hidle.mono
  | linkUp => exact ha.elim
  | linkDown p => exact hdown rfl
  | flushed p t => exact hi
  | rxBpdu p bpdu size => exact hi.frame (rxAssign_frame p bpdu size br).mono
  | bridgeAddress macaddr =>
    have hset : ∀ s b, Frame besideP2p b (b.setTree s (treeAddress macaddr)) :=
      fun _ _ => Frame.setTree fun _ => rfl
    exact p2pFollows_ite (hi.frame (Frame.forAll hset br.trees br))
  | bridgeConfig cfg =>
    have hassign : Frame besideP2p br (assignParameters cfg br) :=
      ⟨rfl, fun _ _ => rfl, fun _ => rfl, fun _ => rfl, rfl⟩
    have hreset := Frame.ite (c := holdCountChanges cfg br)
      (hassign.trans (resetTxCounts_frame _).mono) hassign
    exact p2pFollows_ite
      (hi.frame (Frame.ite (hreset.trans (propagateBridgeTimes_frame _).mono) hreset))
  | mstiBridgeConfig t prio =>
    have hframe : Frame besideP2p br (mstpInSetMstiBridgeConfig t prio br).1 := by
      rw [mstpInSetMstiBridgeConfig]
      split
      · exact Frame.refl _ _
      · dsimp only
        split
        · exact Frame.refl _ _
        · dsimp only
          exact Frame.after (Frame.setTreePtps fun _ _ => rfl) (Frame.setTree fun _ => rfl)
    exact hi.frame hframe
  | portConfig p cfg => exact hi.writePortConfig
  | mstiPortConfig p t cfg =>
    have hwrite : Frame besideP2p br (writePtpConfig p t cfg br) := by
      rw [writePtpConfig]
      split
      · exact Frame.after (Frame.setPtp fun _ => rfl) (Frame.setPtp fun _ => rfl)
      · exact Frame.setPtp fun _ => rfl
    exact hi.frame hwrite
  | mcheck p =>
    have hmcheck : Frame besideP2p br (requestMcheck p br) :=
      Frame.after (Frame.setPtp fun _ => rfl) (Frame.setPort fun _ => rfl)
    exact hi.frame hmcheck
  | tables env changed vid2fid fid2mstid =>
    have hwrite : Frame besideP2p br (writeTables env changed vid2fid fid2mstid br) :=
      Frame.ite ⟨rfl, fun _ _ => rfl, fun _ => rfl, fun _ => rfl, rfl⟩
        ⟨rfl, fun _ _ => rfl, fun _ => rfl, fun _ => rfl, rfl⟩
    exact p2pFollows_ite (hi.frame hwrite)
  | configId revision name =>
    have hwrite : P2pFollows (writeConfigId revision name br) := hi
    exact hwrite.machines (bridgeBegin_machines _)
  | sysdeps => exact ha.elim

theorem linkUp_p2p (p q : PortRef) (speed duplex : Int) (br : Bridge) :
    ((linkUp p speed duplex br).port q).adminP2P = (br.port q).adminP2P ∧
    ((linkUp p speed duplex br).port q).duplex = (br.port q).duplex ∧
    ((linkUp p speed duplex br).port q).operPointToPointMAC =
      if q = p then operP2P (br.port q).adminP2P duplex else (br.port q).operPointToPointMAC := by
  by_cases h : q = p
  · subst h
    cases henabled : (br.port q).portEnabled with
    | true => simp [linkUp, assignLink, setPortPtps, Bridge.setPort, henabled]
    | false =>
      simp [linkUp, assignLink, portUp, updtbrAssuRcvdInfoWhile, setPortPtps, Bridge.setPort,
        henabled]
  · cases henabled : (br.port p).portEnabled with
    | true => simp [linkUp, assignLink, setPortPtps, Bridge.setPort, henabled, h]
    | false =>
      simp [linkUp, assignLink, portUp, updtbrAssuRcvdInfoWhile, setPortPtps, Bridge.setPort,
        henabled, h]

/-- A report of the duplex mode that the port has. -/
theorem setPortEnable_p2p (hi : P2pFollows br) (hduplex : (br.port p).duplex = duplex)
    (h : mstpInSetPortEnable env p true speed duplex br = some br') : P2pFollows br' := by
  have hlink : P2pFollows (linkUp p speed duplex br) := by
    intro q hq hup
    have hlisted : q ∈ br.ports := (linkUp_frame p speed duplex br).ports_eq ▸ hq
    obtain ⟨henabled, -, -, -⟩ := linkUp_port p q speed duplex br
    obtain ⟨hadmin, hmode, hoper⟩ := linkUp_p2p p q speed duplex br
    rw [hoper, hadmin, hmode]
    by_cases hqp : q = p
    · rw [if_pos hqp, hqp, hduplex]
    · rw [henabled, if_neg hqp] at hup
      rw [if_neg hqp]
      exact hi q hlisted hup
  rw [mstpInSetPortEnable, if_pos rfl] at h
  dsimp only at h
  split at h
  · exact hlink.machines (brRun_machines h)
  · exact Option.some.inj h ▸ hlink

theorem exec_p2p {op : Op} {ok : Bool} (hi : P2pFollows br) (hv : op.Valid br)
    (hlink : op.aboutLink = false) (h : exec env br op = some (br', ok)) : P2pFollows br' := by
  have hcomposes : Composes op.Takes fun b b' => P2pFollows b → P2pFollows b' :=
    { refl := fun _ => id
      trans := fun h h' => h' ∘ h
      act := fun b a _ hg ha hb => hb.act hg (ha.keepsCosts hlink)
      run := fun hrun hb => hb.machines (brRun_machines hrun) }
  exact exec_composes hcomposes hv h hi

/-- The effective value of a new link where it counts as the old one. -/
theorem SameLink.effective {admin : UInt32} {old : Int}
    (h : admin = 0 → computePcost speed = computePcost old) :
    effectiveCost admin (computePcost speed) = effectiveCost admin (computePcost old) := by
  rw [effectiveCost, effectiveCost]
  split
  · rename_i hzero
    exact h hzero
  · rfl

theorem SameLink.oper {admin : AdminP2P} {old : Int}
    (h : admin = .auto → (duplex != 0) = (old != 0)) :
    operP2P admin duplex = operP2P admin old := by
  cases admin with
  | forceTrue => rfl
  | forceFalse => rfl
  | auto => exact h rfl

/-- The note of a link is followed if the port is down or the link counts as the old one. -/
theorem LinkFollows.note (hi : LinkFollows br)
    (hsame : (br.port p).portEnabled = true → SameLink p speed duplex br) :
    LinkFollows (sysdepsLink p speed duplex br) := by
  refine ⟨⟨fun q hq => ?_, fun q hq t ht => ?_⟩, fun q hq hup => ?_⟩
  · have hold := hi.external q hq
    by_cases h : q = p
    · subst h
      simp only [sysdepsLink, setPort, if_true]
      refine ⟨hold.configured, hold.positive, hold.limited, fun hup => ?_⟩
      rw [SameLink.effective (hsame hup).external]
      exact hold.effective hup
    · simpa [sysdepsLink, setPort, h] using hold
  · have hold := hi.internal q hq t ht
    by_cases h : q = p
    · subst h
      simp only [sysdepsLink, setPort, if_true]
      refine ⟨hold.configured, hold.positive, hold.limited, fun hup => ?_⟩
      have heffective := SameLink.effective ((hsame hup).internal t ht)
      rw [heffective]
      exact hold.effective hup
    · simpa [sysdepsLink, setPort, h] using hold
  · by_cases h : q = p
    · subst h
      simp only [sysdepsLink, setPort, if_true] at hup ⊢
      rw [SameLink.oper (hsame hup).pointToPoint]
      exact hi.pointToPoint q hq hup
    · simp only [sysdepsLink, setPort, h, if_false] at hup ⊢
      exact hi.pointToPoint q hq hup

theorem LinkFollows.out (hi : LinkFollows br) (calls : List MstpOut) :
    LinkFollows { br with out := calls } :=
  ⟨⟨hi.external, hi.internal⟩, hi.pointToPoint⟩

/-- An operation reports a link as it has been noted, or notes one that makes no difference. -/
def Op.Told (br : Bridge) : Op → Prop
  | .setPortEnable p up speed duplex =>
    up = true → speed = (br.port p).speed ∧ duplex = (br.port p).duplex
  | .sysdeps p speed duplex => (br.port p).portEnabled = true → SameLink p speed duplex br
  | _ => True

theorem LinkFollows.exec {op : Op} {ok : Bool} (hi : LinkFollows br) (hv : op.Valid br)
    (ht : op.Told br) (h : exec env br op = some (br', ok)) : LinkFollows br' := by
  cases hlink : op.aboutLink with
  | false =>
    exact ⟨exec_costs hi.toPathCosts hv (fun a ha => ha.keepsCosts hlink) h,
      exec_p2p hi.pointToPoint hv hlink h⟩
  | true =>
    cases op with
    | setPortEnable p up speed duplex =>
      obtain rfl : up = true := hlink
      obtain ⟨hspeed, hduplex⟩ := ht rfl
      refine ⟨setPortEnable_costs (p := p) ?_ hspeed.symm (map_true h),
        setPortEnable_p2p hi.pointToPoint hduplex.symm (map_true h)⟩
      exact hi.toPathCosts.disable (fun _ => rfl) rfl
    | sysdeps p speed duplex =>
      have hnote : LinkFollows (sysdepsLink p speed duplex br) := hi.note ht
      rw [sysdepsLink, (Prod.mk.inj (Option.some.inj h)).1] at hnote
      exact hnote
    | _ => cases hlink

/-! ### The list of ports -/

/-- The operations that change the list of ports. -/
def Op.lists : Op → Bool
  | .createPort .. => true
  | .deletePort _ => true
  | _ => false

theorem Op.Takes.lists {op : Op} {a : Act} (h : op.Takes a) (hop : op.lists = false) :
    a.lists = false := by
  cases op with
  | createPort | deletePort => cases hop
  | setPortEnable p up speed duplex =>
    rcases h with ⟨-, rfl⟩ | ⟨-, rfl⟩ <;> rfl
  | oneSecond =>
    rcases h with rfl | rfl <;> rfl
  | allFidsFlushed p t =>
    rcases h with rfl | ⟨s, rfl⟩ <;> rfl
  | setCistPortConfig _ _ | setMstiPortConfig _ _ _ =>
    obtain ⟨-, rfl⟩ := h
    rfl
  | createMsti _ | setMstConfigId _ _ =>
    obtain ⟨_, rfl⟩ := h
    rfl
  | setVid2fid _ _ | setAllVids2fids _ | setFid2mstid _ _ | setAllFids2mstids _ =>
    obtain ⟨_, _, _, _, rfl⟩ := h
    rfl
  | _ =>
    obtain rfl := h
    rfl

theorem exec_ports {op : Op} {ok : Bool} (hv : op.Valid br) (hop : op.lists = false)
    (h : exec env br op = some (br', ok)) : br'.ports = br.ports := by
  have hcomposes : Composes op.Takes fun b b' => b'.ports = b.ports :=
    { refl := fun _ => rfl
      trans := fun h h' => h'.trans h
      act := fun b a _ hg ha => Act.ports_eq (ha.lists hop) hg
      run := fun hrun => (brRun_machines hrun).config_eq Bridge.ports fun _ => rfl }
  exact exec_composes hcomposes hv h

theorem createPort_refused {portno : UInt16} {name : String}
    (h : mstpInPortCreateAndAddTail env p portno name speed duplex br = some (br', false)) :
    br' = br := by
  rw [mstpInPortCreateAndAddTail] at h
  split at h
  · obtain ⟨b, -, heq⟩ := Option.map_eq_some_iff.mp h
    cases heq
  · cases h
    rfl

end Core

/-! ## In the harness -/

namespace Harness

/-- The costs and the point to point state of a port are those of its link. -/
structure LinkAt (p : PortRef) (br : Bridge) : Prop where
  external : (br.port p).externalPortPathCost =
    effectiveCost (br.port p).adminExternalPortPathCost (computePcost (br.port p).speed)
  internal : ∀ t ∈ br.trees, (br.ptp p t).internalPortPathCost =
    effectiveCost (br.ptp p t).adminInternalPortPathCost (computePcost (br.port p).speed)
  pointToPoint : (br.port p).operPointToPointMAC =
    operP2P (br.port p).adminP2P (br.port p).duplex

/-- Every port that is up has the costs and the point to point state of its link. -/
def Follows (h : State) : Prop :=
  ∀ p, portHandleOk p h = true → upAt h p = true →
    ∃ b, h.bridges (h.ports p).brh = some b ∧ LinkAt (portRef p) b.core

/-- No port that is up is given another link, as far as its core would see it. -/
def NoNewLink : Call → State → Prop
  | .portSetEnable p true speed duplex, h =>
    portHandleOk p h = true → upAt h p = true → ∀ b, h.bridges (h.ports p).brh = some b →
      SameLink (portRef p) (if 0 < speed then speed else (b.core.port (portRef p)).speed)
        (if duplex ≠ 0 then 1 else 0) b.core
  | _, _ => True

/-- The live ports are those in the lists of their bridges, which follow the links. -/
structure Registered (h : State) : Prop where
  listed : ∀ p, portHandleOk p h = true →
    ∃ b, h.bridges (h.ports p).brh = some b ∧ portRef p ∈ b.core.ports
  live : ∀ j b, h.bridges j = some b → ∀ q ∈ b.core.ports,
    ∃ p, portHandleOk p h = true ∧ portRef p = q ∧ (h.ports p).brh = j
  nodup : ∀ j b, h.bridges j = some b → b.core.ports.Nodup
  follows : ∀ j b, h.bridges j = some b → LinkFollows b.core

/-- Ports and bridges are the same, whatever cables and carriers have become. -/
structure SameOwners (h h' : State) : Prop where
  handles : ∀ p, portHandleOk p h' = portHandleOk p h
  owners : ∀ p, (h'.ports p).brh = (h.ports p).brh
  bridges : h'.bridges = h.bridges

section Steps

variable {o : Outside} {h h' h'' h₁ h₂ : State} {a b p q brh r : Int} {op : Op} {up ok : Bool}
  {f : PortSlot → PortSlot}

theorem SameOwners.trans (hs : SameOwners h h') (hs' : SameOwners h' h'') : SameOwners h h'' :=
  ⟨fun p => (hs'.handles p).trans (hs.handles p), fun p => (hs'.owners p).trans (hs.owners p),
    hs'.bridges.trans hs.bridges⟩

theorem SameOwners.of_ports (hports : h'.ports = h.ports) (hbridges : h'.bridges = h.bridges) :
    SameOwners h h' :=
  ⟨fun _ => portHandleOk_congr hports, fun _ => by rw [hports], hbridges⟩

theorem SlotsKept.sameOwners (hs : SlotsKept h h') (hbridges : h'.bridges = h.bridges) :
    SameOwners h h' := ⟨hs.handleOk, hs.brh, hbridges⟩

theorem setSlot_sameOwners (hlive : ∀ s, (f s).prt.isSome = s.prt.isSome)
    (hbrh : ∀ s, (f s).brh = s.brh) : SameOwners h (setSlot p f h) := by
  refine ⟨fun q => setSlot_handleOk (hlive _), fun q => ?_, rfl⟩
  by_cases hq : q = p
  · rw [hq, setSlot_self, hbrh]
  · rw [setSlot_of_ne hq]

theorem unplug_sameOwners (p : Int) (h : State) : SameOwners h (unplug p h).1 := by
  refine ⟨unplug_handleOk p h, fun q => ?_, (unplug_rest p h).1⟩
  rcases unplug_slot p h q with heq | heq <;> rw [heq]
  rfl

theorem plug_sameOwners (a b : Int) (h : State) : SameOwners h (plug a b h) := by
  have hfirst : SameOwners h (setSlot a (fun s => { s with peer := b, cable := h.cables + 1 }) h) :=
    setSlot_sameOwners (fun _ => rfl) fun _ => rfl
  have hboth := hfirst.trans (setSlot_sameOwners (p := b)
    (f := fun s => { s with peer := a, cable := h.cables + 1 }) (fun _ => rfl) fun _ => rfl)
  exact hboth.trans (SameOwners.of_ports rfl rfl)

theorem Registered.same (hR : Registered h) (hs : SameOwners h h') : Registered h' where
  listed p hp := by
    rw [hs.owners, hs.bridges]
    exact hR.listed p ((hs.handles p).symm.trans hp)
  live j b hb q hq := by
    rw [hs.bridges] at hb
    obtain ⟨p, hp, heq, hbrh⟩ := hR.live j b hb q hq
    exact ⟨p, (hs.handles p).trans hp, heq, (hs.owners p).trans hbrh⟩
  nodup j b hb := hR.nodup j b (hs.bridges ▸ hb)
  follows j b hb := hR.follows j b (hs.bridges ▸ hb)

/-! ### Calls of the core -/

/-- What a call into the core needs, and what it leaves to be written. -/
theorem Registered.exec {x : BridgeSlot} {core : Bridge} {env : Env} (hR : Registered h)
    (hx : h.bridges brh = some x) (hv : op.Valid x.core) (ht : op.Told x.core)
    (hcore : exec env { x.core with out := [] } op = some (core, ok)) : LinkFollows core := by
  have hstart := (hR.follows brh x hx).out []
  have hv' : op.Valid { x.core with out := [] } := by cases op <;> exact hv
  have ht' : op.Told { x.core with out := [] } := by
    cases op with
    | sysdeps p speed duplex => exact fun hup => ⟨(ht hup).1, (ht hup).2, (ht hup).3⟩
    | _ => exact ht
  exact hstart.exec hv' ht' hcore

/-- The core of one bridge is written, with the ports it has. -/
theorem Registered.setBridge {x y : BridgeSlot} (hR : Registered h) (hx : h.bridges brh = some x)
    (hports : y.core.ports = x.core.ports) (hfollows : LinkFollows y.core) :
    Registered (setBridge brh (some y) h) := by
  have hbridge : ∀ j z, (Harness.setBridge brh (some y) h).bridges j = some z →
      ∃ w, h.bridges j = some w ∧ z.core.ports = w.core.ports ∧ LinkFollows z.core := by
    intro j z hz
    by_cases hj : j = brh
    · obtain rfl := Option.some.inj ((if_pos hj).symm.trans hz)
      exact ⟨x, hj ▸ hx, hports, hfollows⟩
    · have hold : h.bridges j = some z := (if_neg hj).symm.trans hz
      exact ⟨z, hold, rfl, hR.follows j z hold⟩
  refine ⟨fun p hp => ?_, fun j z hz q hq => ?_, fun j z hz => ?_, fun j z hz => ?_⟩
  · obtain ⟨w, hw, hlisted⟩ := hR.listed p hp
    by_cases hj : (h.ports p).brh = brh
    · rw [hj, hx] at hw
      obtain rfl := Option.some.inj hw
      refine ⟨y, if_pos hj, ?_⟩
      exact hports.symm ▸ hlisted
    · exact ⟨w, (if_neg hj).trans hw, hlisted⟩
  · obtain ⟨w, hw, heq, -⟩ := hbridge j z hz
    exact hR.live j w hw q (heq ▸ hq)
  · obtain ⟨w, hw, heq, -⟩ := hbridge j z hz
    exact heq ▸ hR.nodup j w hw
  · obtain ⟨w, -, -, hf⟩ := hbridge j z hz
    exact hf

theorem Registered.putCore {x : BridgeSlot} {core : Bridge} (hR : Registered h)
    (hx : h.bridges brh = some x) (hports : core.ports = x.core.ports)
    (hfollows : LinkFollows core) : Registered (putCore brh x core h) := by
  have hsame : SameOwners h { h with asked := h.asked + 1 } := SameOwners.of_ports rfl rfl
  have hwrite := (hR.same hsame).setBridge (y := { x with core := { core with out := [] } }) hx
    hports (hfollows.out [])
  exact hwrite

/-- A call into the core, before what it calls is carried out. -/
theorem Registered.called {x : BridgeSlot} {core : Bridge} {env : Env} (hR : Registered h)
    (hx : h.bridges brh = some x) (hv : op.Valid x.core) (ht : op.Told x.core)
    (hop : op.lists = false)
    (hcore : Mstpd.exec env { x.core with out := [] } op = some (core, ok)) :
    Registered (Harness.putCore brh x core h) := by
  have hv' : op.Valid { x.core with out := [] } := by cases op <;> exact hv
  refine hR.putCore hx ?_ (hR.exec hx hv ht hcore)
  have hkept := exec_ports hv' hop hcore
  exact hkept

theorem Registered.callCore (hR : Registered h)
    (hv : ∀ x, h.bridges brh = some x → op.Valid x.core ∧ op.Told x.core)
    (hop : op.lists = false) (hc : callCore o (mstpOut o) op brh h = some (h', ok)) :
    Registered h' := by
  obtain ⟨x, core, hx, hcore, hsent⟩ := callCore_sent hc
  have hput := hR.called hx (hv x hx).1 (hv x hx).2 hop hcore
  exact hput.same (SameOwners.of_ports hsent.ports hsent.bridges)

/-- The core of a live port has it in its list. -/
theorem Registered.mem {x : BridgeSlot} (hR : Registered h) (hp : portHandleOk p h = true)
    (hx : h.bridges (h.ports p).brh = some x) : portRef p ∈ x.core.ports := by
  obtain ⟨y, hy, hlisted⟩ := hR.listed p hp
  rw [hx] at hy
  exact (Option.some.inj hy) ▸ hlisted

theorem Registered.enablePort (hR : Registered h) (hp : portHandleOk p h = true)
    (hc : enablePort o p h = some h') : Registered h' := by
  obtain ⟨x, hx, hc⟩ := Option.bind_eq_some_iff.mp hc
  obtain ⟨⟨h₁, ok⟩, hcall, rfl⟩ := Option.map_eq_some_iff.mp hc
  refine hR.callCore ?_ rfl hcall
  intro y hy
  refine ⟨hR.mem hp hy, fun _ => ?_⟩
  rw [hx] at hy
  obtain rfl := Option.some.inj hy
  exact ⟨rfl, rfl⟩

theorem Registered.enableIf {c : Bool} (hR : Registered h)
    (hp : c = true → portHandleOk p h = true)
    (hc : (if c then Harness.enablePort o p h else some h) = some h') : Registered h' := by
  cases c with
  | false => exact Option.some.inj hc ▸ hR
  | true => exact hR.enablePort (hp rfl) hc

/-- The carriers are told with the link that has been noted. -/
theorem Registered.syncCarrier (hR : Registered h) (hc : syncCarrier o a b h = some h') :
    Registered h' := by
  obtain ⟨h₃, hcA, hcB⟩ := Option.bind_eq_some_iff.mp hc
  obtain ⟨hquietA, hbridgesA⟩ := refreshCarrier_quiet a h
  obtain ⟨hquietB, hbridgesB⟩ := refreshCarrier_quiet b (refreshCarrier a h).1
  have hrefreshed := (hR.same (hquietA.slots.sameOwners hbridgesA)).same
    (hquietB.slots.sameOwners hbridgesB)
  have hlive : ∀ q, portHandleOk q (refreshCarrier b (refreshCarrier a h).1).1 =
      portHandleOk q h := fun q => (hquietB.slots.handleOk q).trans (hquietA.slots.handleOk q)
  have hA : Registered h₃ := hrefreshed.enableIf
    (fun hchanged => (hlive a).trans ((refreshCarrier_up a h).2.2.2 hchanged)) hcA
  refine hA.enableIf (fun hchanged => ?_) hcB
  have hok := (refreshCarrier_up b (refreshCarrier a h).1).2.2.2 hchanged
  exact ((enableIf_quiet hcA).slots.handleOk b).trans ((hquietB.slots.handleOk b).trans hok)

/-! ### Ports and bridges come and go -/

/-- A port has been taken out of the list of its bridge and out of its slot. -/
theorem Registered.removed (hR : Registered h) (hp : portHandleOk p h = true)
    (hbrh : (h.ports p).brh = brh)
    (hc : Harness.callCore o (mstpOut o) (.deletePort (portRef p)) brh (unplug p h).1 =
      some (h₁, ok))
    (hports : h₂.ports = (setSlot p freeSlot h₁).ports) (hbridges : h₂.bridges = h₁.bridges) :
    Registered h₂ := by
  have hU := hR.same (unplug_sameOwners p h)
  obtain ⟨x, core, hx, hcore, hsent⟩ := callCore_sent hc
  have hx' : h.bridges brh = some x := (unplug_sameOwners p h).bridges ▸ hx
  have hmem : portRef p ∈ x.core.ports := hR.mem hp (hbrh ▸ hx')
  have hvalid : (Op.deletePort (portRef p)).Valid x.core := hmem
  have hfollows := hU.exec hx hvalid trivial hcore
  have herase : core.ports = x.core.ports.erase (portRef p) := (deletePort_up (map_true hcore)).2
  have hbridge : ∀ j y, h₂.bridges j = some y → ∃ z, h.bridges j = some z ∧
      (∀ q ∈ y.core.ports, q ∈ z.core.ports ∧ q ≠ portRef p) ∧ y.core.ports.Nodup ∧
      LinkFollows y.core := by
    intro j y hy
    rw [hbridges, hsent.bridges] at hy
    by_cases hj : j = brh
    · obtain rfl := Option.some.inj ((if_pos hj).symm.trans hy)
      have hnodup := hR.nodup brh x hx'
      refine ⟨x, hj ▸ hx', fun q hq => ?_, ?_,
        hfollows.out []⟩
      · have hq' : q ∈ x.core.ports.erase (portRef p) := herase ▸ hq
        exact ⟨List.mem_of_mem_erase hq', fun heq => hnodup.not_mem_erase (heq ▸ hq')⟩
      · have hkept := hnodup.erase (portRef p)
        exact herase ▸ hkept
    · have hold : (unplug p h).1.bridges j = some y := (if_neg hj).symm.trans hy
      rw [(unplug_sameOwners p h).bridges] at hold
      refine ⟨y, hold, fun q hq => ⟨hq, ?_⟩, hR.nodup j y hold, hR.follows j y hold⟩
      rintro rfl
      obtain ⟨r, hr, heq, howner⟩ := hR.live j y hold _ hq
      obtain rfl := portRef_inj (handle_range hr).1 (handle_range hp).1 heq
      exact hj (howner.symm.trans hbrh)
  have hslots : h₂.ports = (setSlot p freeSlot (unplug p h).1).ports := by
    have hcore : h₁.ports = (unplug p h).1.ports := callCore_ports hc
    rw [hports]
    simp only [setSlot, hcore]
  have hlive : ∀ q, portHandleOk q h₂ = (portHandleOk q h && q != p) := by
    intro q
    rw [portHandleOk_congr hslots, freeSlot_handleOk, unplug_handleOk]
  have howner : ∀ q, q ≠ p → (h₂.ports q).brh = (h.ports q).brh := by
    intro q hq
    rw [hslots, setSlot_of_ne hq]
    exact (unplug_sameOwners p h).owners q
  refine ⟨fun q hq => ?_, fun j y hy q hq => ?_, fun j y hy => ?_, fun j y hy => ?_⟩
  · rw [hlive] at hq
    obtain ⟨hq, hne⟩ : portHandleOk q h = true ∧ q ≠ p := by simpa using hq
    obtain ⟨y, hy, hlisted⟩ := hR.listed q hq
    rw [howner q hne, hbridges, hsent.bridges]
    by_cases hj : (h.ports q).brh = brh
    · rw [hj, hx'] at hy
      obtain rfl := Option.some.inj hy
      refine ⟨_, if_pos hj, ?_⟩
      have hne' : portRef q ≠ portRef p := fun heq =>
        hne (portRef_inj (handle_range hq).1 (handle_range hp).1 heq)
      have hkept := (List.mem_erase_of_ne hne').mpr hlisted
      exact herase.symm ▸ hkept
    · refine ⟨y, (if_neg hj).trans ?_, hlisted⟩
      exact (congrFun (unplug_sameOwners p h).bridges _).trans hy
  · obtain ⟨z, hz, hsub, -, -⟩ := hbridge j y hy
    obtain ⟨hold, hne⟩ := hsub q hq
    obtain ⟨r, hr, heq, hbr⟩ := hR.live j z hz q hold
    have hrp : r ≠ p := fun h => hne (h ▸ heq.symm)
    refine ⟨r, ?_, heq, (howner r hrp).trans hbr⟩
    rw [hlive, hr]
    simpa using hrp
  · obtain ⟨z, -, -, hnodup, -⟩ := hbridge j y hy
    exact hnodup
  · obtain ⟨z, -, -, -, hf⟩ := hbridge j y hy
    exact hf

/-- A port has been put into the list of its bridge and into a free slot. -/
theorem Registered.created {x : PortSysdeps} {portno : UInt16} {name : String} {speed duplex : Int}
    (hR : Registered h) (hrange : 0 ≤ p ∧ p < maxPorts) (hfree : portHandleOk p h = false)
    (hno : 1 ≤ portno.toNat ∧ portno.toNat ≤ maxPortNumber)
    (hc : Harness.callCore o (mstpOut o) (.createPort (portRef p) portno name speed duplex) brh h
      = some (h₁, true)) : Registered (setSlot p (newSlot x brh) h₁) := by
  obtain ⟨y, core, hy, hcore, hsent⟩ := callCore_sent hc
  have hnew : ∀ j z, h.bridges j = some z → portRef p ∉ z.core.ports := by
    intro j z hz hmem
    obtain ⟨r, hr, heq, -⟩ := hR.live j z hz _ hmem
    obtain rfl := portRef_inj (handle_range hr).1 hrange.1 heq
    rw [hr] at hfree
    cases hfree
  have hvalid : (Op.createPort (portRef p) portno name speed duplex).Valid y.core :=
    ⟨hnew brh y hy, hno⟩
  have hfollows := hR.exec hy hvalid trivial hcore
  have hadd : core.ports = y.core.ports ++ [portRef p] := (createPort_up hcore).2.1
  have hlive : ∀ q, q ≠ p → portHandleOk q (setSlot p (newSlot x brh) h₁) = portHandleOk q h := by
    intro q hq
    rw [portHandleOk, portHandleOk, setSlot_of_ne hq, hsent.ports]
    rfl
  have hthis : portHandleOk p (setSlot p (newSlot x brh) h₁) = true := by
    rw [portHandleOk, setSlot_self, decide_eq_true hrange]
    rfl
  have hbridges : (setSlot p (newSlot x brh) h₁).bridges = h₁.bridges := rfl
  refine ⟨fun q hq => ?_, fun j z hz q hq => ?_, fun j z hz => ?_, fun j z hz => ?_⟩
  · rw [hbridges, hsent.bridges]
    by_cases hqp : q = p
    · rw [hqp, setSlot_self]
      refine ⟨_, if_pos rfl, ?_⟩
      exact hadd.symm ▸ List.mem_append_right _ List.mem_cons_self
    · rw [hlive q hqp] at hq
      rw [setSlot_of_ne hqp, hsent.ports]
      obtain ⟨z, hz, hlisted⟩ := hR.listed q hq
      by_cases hj : (h.ports q).brh = brh
      · rw [hj, hy] at hz
        obtain rfl := Option.some.inj hz
        refine ⟨_, if_pos hj, ?_⟩
        exact hadd.symm ▸ List.mem_append_left _ hlisted
      · exact ⟨z, (if_neg hj).trans hz, hlisted⟩
  · rw [hbridges, hsent.bridges] at hz
    have hold : ∀ r, portHandleOk r h = true → (h.ports r).brh = j →
        portHandleOk r (setSlot p (newSlot x brh) h₁) = true ∧
          ((setSlot p (newSlot x brh) h₁).ports r).brh = j := by
      intro r hr hbr
      have hne := ne_of_free hr hfree
      refine ⟨(hlive r hne.symm).trans hr, ?_⟩
      rw [setSlot_of_ne hne.symm, hsent.ports]
      exact hbr
    by_cases hj : j = brh
    · obtain rfl := Option.some.inj ((if_pos hj).symm.trans hz)
      have hq' : q ∈ y.core.ports ++ [portRef p] := hadd ▸ hq
      rcases List.mem_append.mp hq' with hq' | hone
      · obtain ⟨r, hr, heq, hbr⟩ := hR.live brh y hy q hq'
        obtain ⟨hr', hbr'⟩ := hold r hr (hbr.trans hj.symm)
        exact ⟨r, hr', heq, hbr'⟩
      · refine ⟨p, hthis, (List.mem_singleton.mp hone).symm, ?_⟩
        rw [setSlot_self]
        exact hj.symm
    · obtain ⟨r, hr, heq, hbr⟩ := hR.live j z ((if_neg hj).symm.trans hz) q hq
      obtain ⟨hr', hbr'⟩ := hold r hr hbr
      exact ⟨r, hr', heq, hbr'⟩
  · rw [hbridges, hsent.bridges] at hz
    by_cases hj : j = brh
    · obtain rfl := Option.some.inj ((if_pos hj).symm.trans hz)
      have hboth : (y.core.ports ++ [portRef p]).Nodup := by
        refine List.nodup_append.mpr ⟨hR.nodup brh y hy, List.nodup_singleton _, ?_⟩
        intro r hr s hs heq
        rw [List.mem_singleton.mp hs] at heq
        exact hnew brh y hy (heq ▸ hr)
      exact hadd.symm ▸ hboth
    · exact hR.nodup j z ((if_neg hj).symm.trans hz)
  · rw [hbridges, hsent.bridges] at hz
    by_cases hj : j = brh
    · obtain rfl := Option.some.inj ((if_pos hj).symm.trans hz)
      exact hfollows.out []
    · exact hR.follows j z ((if_neg hj).symm.trans hz)

/-- There was no memory for a port. -/
theorem Registered.refused {portno : UInt16} {name : String} {speed duplex : Int}
    (hR : Registered h)
    (hc : Harness.callCore o (mstpOut o) (.createPort (portRef p) portno name speed duplex) brh h
      = some (h₁, false)) : Registered h₁ := by
  obtain ⟨x, core, hx, hcore, hsent⟩ := callCore_sent hc
  obtain rfl := createPort_refused hcore
  have hput : Registered (Harness.putCore brh x { x.core with out := [] } h) :=
    Registered.putCore hR hx (by rfl) ((hR.follows brh x hx).out [])
  exact hput.same (SameOwners.of_ports hsent.ports hsent.bridges)

/-! ### The calls of the API -/

theorem bridgeCreate_registered (name : Option String) (mac : Option (List Char))
    (hR : Registered h) : Registered (mstpwBridgeCreate o name mac h).1 := by
  rw [mstpwBridgeCreate]
  split
  · exact hR
  · rename_i brh hfree
    dsimp only
    split
    · exact hR.same (SameOwners.of_ports rfl rfl)
    · have hnone : h.bridges brh = none := by simpa using (firstFree_spec hfree).1
      refine ⟨fun p hp => ?_, fun j y hy q hq => ?_, fun j y hy => ?_, fun j y hy => ?_⟩
      · obtain ⟨x, hx, hlisted⟩ := hR.listed p hp
        have hne : (h.ports p).brh ≠ brh := fun heq => by
          rw [heq, hnone] at hx
          cases hx
        exact ⟨x, (if_neg hne).trans hx, hlisted⟩
      · by_cases hj : j = brh
        · obtain rfl := Option.some.inj ((if_pos hj).symm.trans hy)
          exact absurd hq List.not_mem_nil
        · exact hR.live j y ((if_neg hj).symm.trans hy) q hq
      · by_cases hj : j = brh
        · obtain rfl := Option.some.inj ((if_pos hj).symm.trans hy)
          exact List.nodup_nil
        · exact hR.nodup j y ((if_neg hj).symm.trans hy)
      · by_cases hj : j = brh
        · obtain rfl := Option.some.inj ((if_pos hj).symm.trans hy)
          exact ⟨pathCosts_create _ _, fun q hq => absurd hq List.not_mem_nil⟩
        · exact hR.follows j y ((if_neg hj).symm.trans hy)

theorem manageBridge_registered (hlists : op.lists = false)
    (hv : brHandleOk brh h = true → ∀ x, h.bridges brh = some x → op.Valid x.core ∧ op.Told x.core)
    (hR : Registered h) (hc : manageBridge o brh op h = some (h', r)) : Registered h' := by
  rw [manageBridge] at hc
  split at hc
  · cases hc
    exact hR
  · rename_i hok
    obtain ⟨⟨h₁, ok⟩, hcall, heq⟩ := Option.map_eq_some_iff.mp hc
    cases heq
    exact hR.callCore (hv (by simpa using hok)) hlists hcall

theorem managePort_registered {op : PortRef → Op} (hlists : ∀ q, (op q).lists = false)
    (hv : portHandleOk p h = true → ∀ x, h.bridges (h.ports p).brh = some x →
      portRef p ∈ x.core.ports → (op (portRef p)).Valid x.core ∧ (op (portRef p)).Told x.core)
    (hR : Registered h)
    (hc : managePort o p op h = some (h', r)) : Registered h' := by
  rw [managePort] at hc
  split at hc
  · cases hc
    exact hR
  · rename_i hok
    have hp : portHandleOk p h = true := by simpa using hok
    obtain ⟨⟨h₁, ok⟩, hcall, heq⟩ := Option.map_eq_some_iff.mp hc
    cases heq
    exact hR.callCore (fun x hx => hv hp x hx (hR.mem hp hx)) (hlists _) hcall

theorem portConfig_registered {cfg : CistPortConfig} (hR : Registered h)
    (hc : managePort o p (fun q => .setCistPortConfig q cfg) h = some (h', r)) : Registered h' := by
  refine managePort_registered ?_ ?_ hR hc
  · exact fun _ => rfl
  · exact fun _ _ _ hmem => ⟨hmem, trivial⟩

theorem bridgeSetEnable_registered (hR : Registered h)
    (hc : mstpwBridgeSetEnable o brh up h = some (h', r)) : Registered h' := by
  rw [mstpwBridgeSetEnable] at hc
  split at hc
  · cases hc
    exact hR
  · obtain ⟨⟨h₁, ok⟩, hcall, heq⟩ := Option.map_eq_some_iff.mp hc
    cases heq
    refine Registered.callCore ?_ ?_ rfl hcall
    swap
    · exact fun _ _ => ⟨trivial, trivial⟩
    cases hx : h.bridges brh with
    | none =>
      refine hR.same ⟨fun _ => rfl, fun _ => rfl, ?_⟩
      funext j
      by_cases hj : j = brh
      · rw [hj, hx]
        exact if_pos rfl
      · exact if_neg hj
    | some x => exact hR.setBridge hx rfl (hR.follows brh x hx)

theorem oneSecond_registered (hR : Registered h) (hc : mstpwOneSecond o h = some h') :
    Registered h' := by
  refine forEach_inv (I := Registered) (fun j _ s s' hs hstep => ?_) hR hc
  rw [tickBridge] at hstep
  split at hstep
  · obtain ⟨⟨h₁, ok⟩, hcall, rfl⟩ := Option.map_eq_some_iff.mp hstep
    refine hs.callCore ?_ rfl hcall
    exact fun _ _ => ⟨trivial, trivial⟩
  · cases hstep
    exact hs

theorem shutdownPort_registered (hR : Registered h) (hc : mstpOutShutdownPort o p h = some h') :
    Registered h' := by
  have hdown : Registered (setSlot p (fun s => { s with adminUp := false }) h) :=
    hR.same (setSlot_sameOwners (fun _ => rfl) fun _ => rfl)
  exact hdown.syncCarrier hc

theorem mstpOutOfRx_registered {call : MstpOut} (hR : Registered h)
    (hc : mstpOutOfRx o call h = some h') : Registered h' := by
  have hsent : mstpOut o call h = some h' → Registered h' := fun hcall =>
    hR.same (SameOwners.of_ports (mstpOut_sent hcall).ports (mstpOut_sent hcall).bridges)
  cases call with
  | shutdownPort q => exact shutdownPort_registered hR hc
  | setState q t s => exact hsent hc
  | flushAllFids q t => exact hsent hc
  | setAgeingTime q ageingTime => exact hsent hc
  | txBpdu q bpdu size => exact hsent hc

theorem deliverFrame_registered {f : QueuedFrame} (hR : Registered h)
    (hc : deliverFrame o f h = some (h', ok)) : Registered h' := by
  rw [deliverFrame] at hc
  split at hc
  · rename_i hlive
    have hp : portHandleOk f.dst h = true := (Bool.and_eq_true_iff.mp hlive).1
    obtain ⟨⟨h₁, ok⟩, hcall, heq⟩ := Option.map_eq_some_iff.mp hc
    cases heq
    obtain ⟨x, core, hx, hcore, hout⟩ := callCore_cases hcall
    refine forEach_inv (I := Registered) (fun _ _ _ _ hs hstep => mstpOutOfRx_registered hs hstep)
      ?_ hout
    have hstart : Registered
        { h with
          framesDelivered := h.framesDelivered + 1
          handed := ⟨f, h.ports f.dst, h.ports f.src⟩ :: h.handed } :=
      hR.same (SameOwners.of_ports rfl rfl)
    have hmem : portRef f.dst ∈ x.core.ports := hR.mem hp hx
    have hvalid : (Op.rxBpdu (portRef f.dst) f.data f.len).Valid x.core := hmem
    exact hstart.called hx hvalid trivial rfl hcore
  · cases hc
    exact hR

theorem nextFrame_registered {all : Bool} {wave rest : List QueuedFrame} {f : QueuedFrame}
    (hR : Registered h) (hn : nextFrame all wave h = some (f, rest, h')) : Registered h' := by
  rw [nextFrame.eq_def] at hn
  split at hn
  · cases hn
    exact hR
  · split at hn
    · split at hn
      · cases hn
        exact hR.same (SameOwners.of_ports rfl rfl)
      · cases hn
    · cases hn

theorem deliverLoop_registered {all : Bool} {budget : Nat} {wave : List QueuedFrame} {n : Int}
    (hR : Registered h) (hc : deliverLoop o all budget wave n h = some (h', r)) :
    Registered h' := by
  induction budget generalizing wave n h with
  | zero =>
    rw [deliverLoop] at hc
    split at hc
    · cases hc
      exact hR
    · rename_i hn
      cases hc
      exact (nextFrame_registered hR hn).same (SameOwners.of_ports rfl rfl)
  | succ budget ih =>
    rw [deliverLoop] at hc
    split at hc
    · cases hc
      exact hR
    · rename_i f rest h₁ hn
      obtain ⟨⟨h₂, ok⟩, hframe, hrest⟩ := Option.bind_eq_some_iff.mp hc
      exact ih (deliverFrame_registered (nextFrame_registered hR hn) hframe) hrest

theorem deliverBpdus_registered {all : Bool} (hR : Registered h)
    (hc : mstpwDeliverBpdus o all h = some (h', r)) : Registered h' := by
  have hstart : Registered { h with queue := [] } := hR.same (SameOwners.of_ports rfl rfl)
  exact deliverLoop_registered hstart hc

theorem step_registered {n : Nat} (hR : Registered h) (hc : mstpwStep o n h = some h') :
    Registered h' := by
  induction n generalizing h with
  | zero => exact Option.some.inj hc ▸ hR
  | succ n ih =>
    obtain ⟨h₁, hsecond, hrest⟩ := Option.bind_eq_some_iff.mp hc
    obtain ⟨⟨h₂, d⟩, hdeliver, hrest⟩ := Option.bind_eq_some_iff.mp hrest
    exact ih (deliverBpdus_registered (oneSecond_registered hR hsecond) hdeliver) hrest

/-- A link is noted where the port is down, or where it makes no difference. -/
theorem portSetEnable_registered {speed duplex : Int} (hS : Settled ∅ ∅ h) (hR : Registered h)
    (hnew : NoNewLink (.portSetEnable p up speed duplex) h)
    (hc : mstpwPortSetEnable o p up speed duplex h = some (h', r)) : Registered h' := by
  rw [mstpwPortSetEnable] at hc
  split at hc
  · cases hc
    exact hR
  · rename_i hok
    have hp : portHandleOk p h = true := by simpa using hok
    obtain ⟨h₁, hnote, hc⟩ := Option.bind_eq_some_iff.mp hc
    obtain ⟨h₂, hsync, heq⟩ := Option.map_eq_some_iff.mp hc
    cases heq
    have hnoted : Registered h₁ := by
      cases up with
      | false => exact Option.some.inj hnote ▸ hR
      | true =>
        obtain ⟨x, hx, hnote⟩ := Option.bind_eq_some_iff.mp hnote
        obtain ⟨⟨h₃, ok⟩, hcall, rfl⟩ := Option.map_eq_some_iff.mp hnote
        refine hR.callCore ?_ rfl hcall
        intro y hy
        refine ⟨hR.mem hp hy, fun hup => ?_⟩
        obtain ⟨z, hz, hagree⟩ := hS.core p hp (Set.notMem_empty p)
        rw [hz] at hx hy
        obtain rfl := Option.some.inj hx
        obtain rfl := Option.some.inj hy
        exact hnew hp (hagree.symm.trans hup) _ hz
    have hadmin := hnoted.same (setSlot_sameOwners (p := p) (f := fun s => { s with adminUp := up })
      (fun _ => rfl) fun _ => rfl)
    exact hadmin.syncCarrier hsync

theorem portDelete_registered (hR : Registered h)
    (hc : mstpwPortDelete o p h = some (h', r)) : Registered h' := by
  rw [mstpwPortDelete] at hc
  split at hc
  · cases hc
    exact hR
  · rename_i hok
    obtain ⟨⟨h₁, ok⟩, hcall, hc⟩ := Option.bind_eq_some_iff.mp hc
    obtain ⟨h₂, hsync, heq⟩ := Option.map_eq_some_iff.mp hc
    cases heq
    have hremoved := hR.removed (by simpa using hok) ((unplug_sameOwners p h).owners p).symm hcall
      rfl rfl
    exact hremoved.syncCarrier hsync

theorem dropPort_registered {i : Int} (hi : 0 ≤ i ∧ i < maxPorts) (hR : Registered h)
    (hc : dropPort o brh i h = some h') : Registered h' := by
  rw [dropPort] at hc
  split at hc
  · rename_i hthis
    simp only [Bool.and_eq_true, beq_iff_eq] at hthis
    have hlive : portHandleOk i h = true := by
      rw [portHandleOk, hthis.1, Bool.and_true]
      exact decide_eq_true hi
    obtain ⟨⟨h₁, ok⟩, hcall, hsync⟩ := Option.bind_eq_some_iff.mp hc
    have hports : (framePurgeDst i (setSlot i freeSlot h₁)).ports = (setSlot i freeSlot h₁).ports :=
      rfl
    exact (hR.removed hlive hthis.2 hcall hports rfl).syncCarrier hsync
  · cases hc
    exact hR

theorem bridgeDelete_registered (hS : Settled ∅ ∅ h) (hR : Registered h)
    (hc : mstpwBridgeDelete o brh h = some (h', r)) : Registered h' := by
  rw [mstpwBridgeDelete] at hc
  split at hc
  · cases hc
    exact hR
  · obtain ⟨h₁, hloop, heq⟩ := Option.map_eq_some_iff.mp hc
    cases heq
    have hgone := (dropPorts_settled hS hloop).2
    have hR₁ : Registered h₁ := forEach_inv (I := Registered)
      (fun i hi _ _ hs hstep => dropPort_registered (mem_handles.mp hi) hs hstep) hR hloop
    have hbridge : ∀ j y, (setBridge brh none h₁).bridges j = some y → h₁.bridges j = some y := by
      intro j y hy
      by_cases hj : j = brh
      · cases (if_pos hj).symm.trans hy
      · exact (if_neg hj).symm.trans hy
    refine ⟨fun p hp => ?_, fun j y hy => hR₁.live j y (hbridge j y hy),
      fun j y hy => hR₁.nodup j y (hbridge j y hy), fun j y hy => hR₁.follows j y (hbridge j y hy)⟩
    obtain ⟨x, hx, hlisted⟩ := hR₁.listed p hp
    exact ⟨x, (if_neg (hgone p hp)).trans hx, hlisted⟩

theorem portCreate_registered {name : Option String} {mac : Option (List Char)}
    {portno speed duplex : Int} (hR : Registered h)
    (hc : mstpwPortCreate o brh name mac portno speed duplex h = some (h', r)) :
    Registered h' := by
  rw [mstpwPortCreate] at hc
  split at hc
  · cases hc
    exact hR
  · split at hc
    · cases hc
      exact hR
    · rename_i hno
      split at hc
      · cases hc
        exact hR
      · rename_i porth hporth
        dsimp only at hc
        split at hc
        · cases hc
          exact hR.same (SameOwners.of_ports rfl rfl)
        · obtain ⟨⟨h₁, ok⟩, hcall, heq⟩ := Option.map_eq_some_iff.mp hc
          obtain ⟨hfree, hlow, hhigh⟩ := firstFree_spec hporth
          have hdead : portHandleOk porth h = false := by rw [portHandleOk, hfree, Bool.and_false]
          have hR' : Registered { h with asked := h.asked + 1 } :=
            hR.same (SameOwners.of_ports rfl rfl)
          have hrange : 1 ≤ (UInt16.ofInt portno).toNat ∧
              (UInt16.ofInt portno).toNat ≤ maxPortNumber := by
            have hfit : (UInt16.ofInt portno).toNat = portno.toNat := by
              have hmax : maxPortNumber = 4095 := rfl
              have hnat : (UInt16.ofInt portno).toNat = (portno % 65536).toNat % 65536 := rfl
              rw [hnat]
              omega
            omega
          cases ok with
          | false =>
            obtain ⟨rfl, -⟩ := Prod.mk.inj heq
            exact hR'.refused hcall
          | true =>
            obtain ⟨rfl, -⟩ := Prod.mk.inj heq
            exact hR'.created ⟨hlow, by omega⟩ hdead hrange hcall

theorem unplugBoth_registered (hR : Registered h) (hc : unplugBoth o a b h = some h') :
    Registered h' := by
  have hstart : SameOwners h { h with asked := h.asked + 1 } := SameOwners.of_ports rfl rfl
  rw [unplugBoth] at hc
  dsimp only at hc
  split at hc
  · have hpulled := (hstart.trans (unplug_sameOwners b _)).trans (unplug_sameOwners a _)
    exact (hR.same hpulled).syncCarrier hc
  · have hpulled := (hstart.trans (unplug_sameOwners a _)).trans (unplug_sameOwners b _)
    exact (hR.same hpulled).syncCarrier hc

theorem link_registered (hR : Registered h) (hc : mstpwLink o a b h = some (h', r)) :
    Registered h' := by
  rw [mstpwLink] at hc
  split at hc
  · cases hc
    exact hR
  · obtain ⟨h₁, hpulled, hc⟩ := Option.bind_eq_some_iff.mp hc
    obtain ⟨h₂, hsync, heq⟩ := Option.map_eq_some_iff.mp hc
    cases heq
    exact ((unplugBoth_registered hR hpulled).same (plug_sameOwners a b h₁)).syncCarrier hsync

theorem linkOneway_registered (hR : Registered h)
    (hc : mstpwLinkOneway o a b h = some (h', r)) : Registered h' := by
  rw [mstpwLinkOneway] at hc
  split at hc
  · cases hc
    exact hR
  · obtain ⟨h₁, hpulled, hc⟩ := Option.bind_eq_some_iff.mp hc
    obtain ⟨h₂, hsync, heq⟩ := Option.map_eq_some_iff.mp hc
    cases heq
    have hmuted := (plug_sameOwners a b h₁).trans (setSlot_sameOwners (p := b)
      (f := fun s => { s with mute := true }) (fun _ => rfl) fun _ => rfl)
    exact ((unplugBoth_registered hR hpulled).same hmuted).syncCarrier hsync

theorem unlink_registered (hR : Registered h) (hc : mstpwUnlink o p h = some (h', r)) :
    Registered h' := by
  rw [mstpwUnlink] at hc
  split at hc
  · cases hc
    exact hR
  · obtain ⟨h₂, hsync, heq⟩ := Option.map_eq_some_iff.mp hc
    cases heq
    exact (hR.same (unplug_sameOwners p h)).syncCarrier hsync

theorem hasTree_mem {mstid : Int} {x : BridgeSlot} (ht : hasTree brh mstid h = true)
    (hx : h.bridges brh = some x) : UInt16.ofInt mstid ∈ x.core.trees := by
  rw [hasTree, hx] at ht
  exact List.contains_iff_mem.mp ht

theorem mstpw_registered {c : Call} (hS : Settled ∅ ∅ h) (hR : Registered h)
    (hnew : NoNewLink c h) (hc : mstpw o c h = some (h', r)) : Registered h' := by
  have hanyBridge : ∀ {brh : Int} {op : Op}, manageBridge o brh op h = some (h', r) →
      op.lists = false → (∀ br, op.Valid br) → (∀ br, op.Told br) → Registered h' :=
    fun hc hlists hv ht =>
    manageBridge_registered hlists (fun _ x _ => ⟨hv x.core, ht x.core⟩) hR hc
  cases c with
  | bridgeCreate name mac =>
    have hpair : (mstpwBridgeCreate o name mac h).1 = h' := congrArg Prod.fst (Option.some.inj hc)
    exact hpair ▸ bridgeCreate_registered name mac hR
  | bridgeSetEnable brh up => exact bridgeSetEnable_registered hR hc
  | bridgeDelete brh => exact bridgeDelete_registered hS hR hc
  | portCreate brh name mac portno speed duplex => exact portCreate_registered hR hc
  | portSetEnable porth up speed duplex => exact portSetEnable_registered hS hR hnew hc
  | portDelete porth => exact portDelete_registered hR hc
  | link a b => exact link_registered hR hc
  | linkOneway a b => exact linkOneway_registered hR hc
  | unlink porth => exact unlink_registered hR hc
  | oneSecond =>
    obtain ⟨h₁, hloop, heq⟩ := Option.map_eq_some_iff.mp hc
    cases heq
    exact oneSecond_registered hR hloop
  | deliverBpdus all => exact deliverBpdus_registered hR hc
  | step seconds =>
    obtain ⟨h₁, hloop, heq⟩ := Option.map_eq_some_iff.mp hc
    cases heq
    exact step_registered hR hloop
  | setMstConfigId brh revision name => exact hanyBridge hc rfl (fun _ => trivial) fun _ => trivial
  | setForceProtocolVersion brh version =>
    exact hanyBridge hc rfl (fun _ => trivial) fun _ => trivial
  | setBridgeTimes => exact hanyBridge hc rfl (fun _ => trivial) fun _ => trivial
  | createMsti brh mstid => exact hanyBridge hc rfl (fun _ => trivial) fun _ => trivial
  | deleteMsti brh mstid => exact hanyBridge hc rfl (fun _ => trivial) fun _ => trivial
  | setVid2fid brh vid fid => exact hanyBridge hc rfl (fun _ => trivial) fun _ => trivial
  | setFid2mstid brh fid mstid => exact hanyBridge hc rfl (fun _ => trivial) fun _ => trivial
  | setBridgePriority brh mstid priority =>
    rw [mstpw, mstpwSetBridgePriority] at hc
    split at hc
    · cases hc
      exact hR
    · rename_i htree
      refine manageBridge_registered ?_ ?_ hR hc
      · rfl
      intro hok x hx
      refine ⟨?_, trivial⟩
      rw [hok, Bool.true_and, Bool.not_eq_true', Bool.not_eq_false] at htree
      exact hasTree_mem htree hx
  | setPortPathCost porth mstid cost =>
    rw [mstpw, mstpwSetPortPathCost] at hc
    split at hc
    · exact portConfig_registered hR hc
    · split at hc
      · cases hc
        exact hR
      · rename_i htree
        refine managePort_registered ?_ ?_ hR hc
        · exact fun _ => rfl
        intro hok x hx hmem
        refine ⟨⟨hmem, ?_⟩, trivial⟩
        rw [hok, Bool.true_and, Bool.not_eq_true', Bool.not_eq_false] at htree
        exact hasTree_mem htree hx
  | setPortAdminEdge porth yes => exact portConfig_registered hR hc
  | setPortAutoEdge porth yes => exact portConfig_registered hR hc
  | setPortAdminP2p porth p2p => exact portConfig_registered hR hc
  | setPortBpduGuard porth yes => exact portConfig_registered hR hc
  | setPortRestrictedRole porth yes => exact portConfig_registered hR hc
  | setPortRestrictedTcn porth yes => exact portConfig_registered hR hc
  | setPortNetwork porth yes => exact portConfig_registered hR hc

/-! ### A new link on a port that is up -/

/-- Where the bridges follow the links, so do all ports that are up. -/
theorem Registered.followed (hS : Settled ∅ ∅ h) (hR : Registered h) : Follows h := by
  intro p hp hup
  obtain ⟨x, hx, hmem⟩ := hR.listed p hp
  obtain ⟨y, hy, hagree⟩ := hS.core p hp (Set.notMem_empty p)
  rw [hx] at hy
  obtain rfl := Option.some.inj hy
  have hfollows := hR.follows _ x hx
  have henabled : (x.core.port (portRef p)).portEnabled = true := hagree.trans hup
  exact ⟨x, hx, (hfollows.external _ hmem).effective henabled,
    fun t ht => (hfollows.internal _ hmem t ht).effective henabled,
    hfollows.pointToPoint _ hmem henabled⟩

/-- Nothing happens to a port that has its carrier. -/
theorem refreshCarrier_idle (hup : portHandleOk p h = true → upAt h p = portCarrier h p) :
    (refreshCarrier p h).2 = false ∧ (refreshCarrier p h).1.ports = h.ports ∧
      (refreshCarrier p h).1.bridges = h.bridges := by
  have hsame : (refreshCarrier p h).2 = false := by
    rcases refreshCarrier_cases p h with ⟨heq, -⟩ | ⟨sysdeps, hsome, hok, heq⟩
    · rw [heq]
    · have hcarrier := hup hok
      rw [upAt, hsome] at hcarrier
      have hup : sysdeps.up = portCarrier h p := hcarrier
      rw [heq, hup]
      exact bne_self_eq_false _
  exact ⟨hsame, (refreshCarrier_up p h).2.2.1 hsame, (refreshCarrier_quiet p h).2⟩

theorem syncCarrier_idle
    (hup : ∀ p, portHandleOk p h = true → upAt h p = portCarrier h p) :
    ∃ h', syncCarrier o a b h = some h' ∧ h'.ports = h.ports ∧ h'.bridges = h.bridges := by
  obtain ⟨hsameA, hportsA, hbridgesA⟩ := refreshCarrier_idle (hup a)
  have hup' : ∀ p, portHandleOk p (refreshCarrier a h).1 = true →
      upAt (refreshCarrier a h).1 p = portCarrier (refreshCarrier a h).1 p := by
    intro p hp
    rw [portHandleOk_congr hportsA] at hp
    rw [upAt, hportsA, (SlotsKept.of_eq hportsA).carrier]
    exact hup p hp
  obtain ⟨hsameB, hportsB, hbridgesB⟩ := refreshCarrier_idle (hup' b)
  refine ⟨(refreshCarrier b (refreshCarrier a h).1).1, ?_, hportsB.trans hportsA,
    hbridgesB.trans hbridgesA⟩
  rw [syncCarrier]
  generalize refreshCarrier a h = ra at *
  obtain ⟨h₁, changedA⟩ := ra
  obtain rfl : changedA = false := hsameA
  dsimp only at *
  generalize refreshCarrier b h₁ = rb at *
  obtain ⟨h₂, changedB⟩ := rb
  obtain rfl : changedB = false := hsameB
  rfl

/-- A new link is noted on a port that stays up, and that is all. -/
theorem portSetEnable_notes {x : BridgeSlot} {speed duplex : Int} (hS : Settled ∅ ∅ h)
    (hp : portHandleOk p h = true) (hup : upAt h p = true)
    (hx : h.bridges (h.ports p).brh = some x) :
    ∃ h' y, mstpwPortSetEnable o p true speed duplex h = some (h', 0) ∧ h'.ports = h.ports ∧
      h'.bridges (h.ports p).brh = some y ∧
      y.core = { sysdepsLink (portRef p)
        (if 0 < speed then speed else (x.core.port (portRef p)).speed)
        (if duplex ≠ 0 then 1 else 0) x.core with out := [] } := by
  have hadmin : (h.ports p).adminUp = true := by
    have hcarrier := hS.carrier p hp (Set.notMem_empty p)
    rw [hup, portCarrier] at hcarrier
    by_contra hoff
    rw [Bool.not_eq_true] at hoff
    rw [hoff] at hcarrier
    cases hcarrier
  let core := sysdepsLink (portRef p)
    (if 0 < speed then speed else (x.core.port (portRef p)).speed)
    (if duplex ≠ 0 then 1 else 0) { x.core with out := [] }
  let noted := putCore (h.ports p).brh x core h
  have hnote : noteSpeed o p speed duplex h = some noted := by
    rw [noteSpeed, hx]
    dsimp only [Option.bind_some]
    rw [callCore, hx]
    rfl
  have hslots : (setSlot p (fun s => { s with adminUp := true }) noted).ports = h.ports := by
    funext q
    by_cases hq : q = p
    · rw [hq, setSlot_self]
      change { h.ports p with adminUp := true } = h.ports p
      rw [← hadmin]
    · rw [setSlot_of_ne hq]
      rfl
  obtain ⟨h', hsync, hports, hbridges⟩ := syncCarrier_idle (o := o) (a := p)
    (b := (noted.ports p).peer) (h := setSlot p (fun s => { s with adminUp := true }) noted) (by
      intro q hq
      rw [portHandleOk_congr hslots] at hq
      rw [upAt, hslots, (SlotsKept.of_eq hslots).carrier]
      exact hS.carrier q hq (Set.notMem_empty q))
  refine ⟨h', _, ?_, hports.trans hslots, (congrFun hbridges _).trans (if_pos rfl), rfl⟩
  rw [mstpwPortSetEnable, hp, if_pos rfl, hnote]
  exact Option.map_eq_some_iff.mpr ⟨h', hsync, rfl⟩

/-- A port that keeps the values of its old link has those of the new link only where there is
no difference. -/
theorem LinkAt.same {p : PortRef} {br : Bridge} {speed duplex : Int} (hold : LinkAt p br)
    (hnew : LinkAt p (sysdepsLink p speed duplex br)) : SameLink p speed duplex br := by
  have hcost : ∀ {admin cost : UInt32},
      cost = effectiveCost admin (computePcost (br.port p).speed) →
      cost = effectiveCost admin (computePcost speed) → admin = 0 →
      computePcost speed = computePcost (br.port p).speed := by
    rintro admin cost hbefore hafter rfl
    exact hafter.symm.trans hbefore
  refine ⟨?_, fun t ht => ?_, fun hauto => ?_⟩
  · have hafter := hnew.external
    simp only [sysdepsLink, setPort, if_true] at hafter
    exact hcost hold.external hafter
  · have hafter := hnew.internal t ht
    simp only [sysdepsLink, setPort, if_true] at hafter
    exact hcost (hold.internal t ht) hafter
  · have hbefore := hold.pointToPoint
    have hafter := hnew.pointToPoint
    simp only [sysdepsLink, setPort, if_true] at hafter
    rw [hauto] at hbefore hafter
    exact hafter.symm.trans hbefore

/-- Only where the new link makes no difference is it followed. -/
theorem noNewLink_of_follows {c : Call} (hS : Settled ∅ ∅ h) (hF : Follows h)
    (hafter : ∀ h' r, mstpw o c h = some (h', r) → Follows h') : NoNewLink c h := by
  cases c with
  | portSetEnable porth up speed duplex =>
    cases up with
    | false => trivial
    | true =>
      intro hp hup x hx
      obtain ⟨h', y, hstep, hports, hy, hcore⟩ :=
        @portSetEnable_notes o _ _ _ speed duplex hS hp hup hx
      obtain ⟨z, hz, hbefore⟩ := hF porth hp hup
      rw [hx] at hz
      obtain rfl := Option.some.inj hz
      have hp' : portHandleOk porth h' = true := (portHandleOk_congr hports).trans hp
      have hup' : upAt h' porth = true := by rw [upAt, hports]; exact hup
      obtain ⟨w, hw, hnew⟩ := hafter h' 0 hstep porth hp' hup'
      rw [hports, hy] at hw
      obtain rfl := Option.some.inj hw
      rw [hcore] at hnew
      exact hbefore.same ⟨hnew.external, hnew.internal, hnew.pointToPoint⟩
  | _ => trivial

end Steps

/-! ## Sequences of calls -/

section Runs

variable {o : Outside} {h h' : State}

theorem registered_start : Registered {} := by
  have hfree : ∀ p, portHandleOk p ({} : State) = false := fun p => by simp [portHandleOk]
  refine ⟨fun p hp => ?_, fun j b hb => ?_, fun j b hb => ?_, fun j b hb => ?_⟩
  · rw [hfree p] at hp
    cases hp
  all_goals cases hb

/-- A sequence of calls that gives no port which is up another link leaves the bridges with the
values of the links. -/
theorem calls_registered {l : List Call} (hS : Settled ∅ ∅ h) (hR : Registered h)
    (hnew : ∀ l' c, l' ++ [c] <+: l → ∀ s, calls o l' h = some s → NoNewLink c s)
    (hl : calls o l h = some h') : Registered h' := by
  induction l generalizing h with
  | nil => exact Option.some.inj hl ▸ hR
  | cons c l ih =>
    obtain ⟨⟨h₁, r⟩, hstep, hrest⟩ := Option.bind_eq_some_iff.mp hl
    have hfirst : NoNewLink c h := hnew [] c (List.prefix_append [c] l) h rfl
    refine ih (mstpw_settled hS hstep) (mstpw_registered hS hR hfirst hstep) ?_ hrest
    intro l' d hpre s hs
    refine hnew (c :: l') d (List.prefix_cons_inj c |>.mpr hpre) s ?_
    rw [calls, hstep]
    exact hs

/-- The costs and the point to point state of the ports that are up follow their links after
every call of a sequence, exactly if no call gives a port that is up another link. -/
theorem links_followed (o : Outside) (l : List Call) :
    (∀ l', l' <+: l → ∀ h, calls o l' {} = some h → Follows h) ↔
      ∀ l' c, l' ++ [c] <+: l → ∀ h, calls o l' {} = some h → NoNewLink c h := by
  have hsettled : ∀ {l' : List Call} {h : State}, calls o l' {} = some h → Settled ∅ ∅ h :=
    fun hl => (calls_reached (C := anyCall) (fun _ _ _ => trivial) .start hl).settled
  constructor
  · intro hfollow l' c hpre h hl
    have hbefore : Follows h := hfollow l' ((List.prefix_append l' [c]).trans hpre) h hl
    refine noNewLink_of_follows (o := o) (hsettled hl) hbefore fun h' r hstep => ?_
    refine hfollow (l' ++ [c]) hpre h' ?_
    rw [calls_append, hl, Option.bind_some, calls, hstep]
    rfl
  · intro hnew l' hpre h hl
    have hstart : Settled ∅ ∅ ({} : State) := Reached.settled (o := o) (C := anyCall) .start
    have hR : Registered h :=
      calls_registered hstart registered_start (fun m c hm => hnew m c (hm.trans hpre)) hl
    exact hR.followed (hsettled hl)

/-- A port that is up with 1000 Mb/s is given 100 Mb/s. -/
def slowerLink : List Call :=
  [.bridgeCreate none none, .bridgeSetEnable 0 true, .portCreate 0 none none 1 1000 1,
    .portSetEnable 0 true 1000 1, .portSetEnable 0 true 100 1]

/-- The port keeps the costs of the faster link. -/
theorem slowerLink_unnoticed : ∃ h, calls sampleCables slowerLink {} = some h ∧ ¬ Follows h := by
  have hrun : ((calls sampleCables slowerLink {}).any fun h =>
      portHandleOk 0 h && upAt h 0 && (h.bridges (h.ports 0).brh).all fun b =>
        decide ((b.core.port (portRef 0)).externalPortPathCost ≠
          effectiveCost (b.core.port (portRef 0)).adminExternalPortPathCost
            (computePcost (b.core.port (portRef 0)).speed))) = true := by
    decide +kernel
  obtain ⟨h, hh, hfacts⟩ := (Option.any_eq_true _ _).mp hrun
  simp only [Bool.and_eq_true] at hfacts
  obtain ⟨⟨hlive, hup⟩, hcost⟩ := hfacts
  refine ⟨h, hh, fun hfollows => ?_⟩
  obtain ⟨b, hb, hlink⟩ := hfollows 0 hlive hup
  rw [hb, Option.all_some] at hcost
  exact of_decide_eq_true hcost hlink.external

end Runs

end Harness

end Mstpd
