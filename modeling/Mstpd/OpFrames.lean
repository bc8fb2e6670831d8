import Mstpd.Frames
import Mstpd.Reach

/-!
# What the operations write

An operation assigns some configuration, timers or flags and then runs the machines,
runs them from BEGIN, or does neither. Management operations, ticks, link changes and
received BPDUs differ in what they assign. Operations that create or delete ports and
trees or switch the bridge on and off stay with their definitions.
-/

namespace Mstpd

open Bridge

/-- Operations that only assign configuration. -/
def Op.management : Op → Bool
  | .setBridgeAddress .. => true
  | .setCistBridgeConfig .. => true
  | .setMstiBridgeConfig .. => true
  | .setCistPortConfig .. => true
  | .setMstiPortConfig .. => true
  | .portMcheck .. => true
  | .setVid2fid .. => true
  | .setAllVids2fids .. => true
  | .setFid2mstid .. => true
  | .setAllFids2mstids .. => true
  | .setMstConfigId .. => true
  | .sysdeps .. => true
  | _ => false

/-- What management assigns besides requests for role selection. -/
def quietOwned : Owned where
  config b :=
    { b with
      mstConfigId := ⟨0, [], 0, []⟩, forceProtocolVersion := .stp, maxHops := 0, forwardDelay := 0
      maxAge := 0, transmitHoldCount := 0, ageingTime := 0, vid2fid := fun _ => 0
      fid2mstid := fun _ => 0 }
  ptp x :=
    { x with
      portId := 0, internalPortPathCost := 0, adminInternalPortPathCost := 0, proposing := false }
  port x :=
    { x with
      externalPortPathCost := 0, adminExternalPortPathCost := 0, adminP2P := .auto
      operPointToPointMAC := false, adminEdgePort := false, autoEdge := false
      restrictedRole := false, restrictedTcn := false, bpduGuardPort := false
      networkPort := false, baInconsistent := false, dontTxmtBpdu := false
      bpduFilterPort := false, speed := 0, duplex := 0, bdsmState := .edge, operEdge := false
      mcheck := false, txCount := 0, numRxBpduFiltered := 0 }
  tree x := { x with bridgeIdentifier := ⟨0, 0⟩, bridgePriority := 0, bridgeTimes := 0 }

instance : bdsmOwned.Within quietOwned :=
  ⟨fun _ => rfl, fun _ => rfl, fun _ => rfl, fun _ => rfl, fun _ h => absurd h Bool.false_ne_true⟩

/-- With requests for role selection, which also refresh the hello time of a port. -/
def managementOwned : Owned where
  config := quietOwned.config
  ptp x :=
    quietOwned.ptp
      { x with
        selected := false, reselect := false, portTimes := { x.portTimes with helloTime := 0 } }
  port := quietOwned.port
  tree := quietOwned.tree

instance : quietOwned.Within managementOwned :=
  ⟨fun _ => rfl, fun _ => rfl, fun _ => rfl, fun _ => rfl, fun _ h => absurd h Bool.false_ne_true⟩

instance : managementOwned.KeepsLists := ⟨fun _ => rfl, fun _ => rfl⟩

instance : managementOwned.KeepsEnabled := ⟨fun _ => rfl⟩

/-- A port whose `selected` or `reselect` is written is asked to be selected again. -/
def Requests (br b : Bridge) : Prop :=
  ∀ q s, ((b.ptp q s).selected = (br.ptp q s).selected ∧
    (b.ptp q s).reselect = (br.ptp q s).reselect) ∨ (b.ptp q s).reselect = true

/-- The assignments of a management operation. -/
structure OpFrame (br b : Bridge) : Prop where
  frame : Frame managementOwned br b
  requests : Requests br b

theorem Frame.opFrame {br b : Bridge} (h : Frame quietOwned br b) : OpFrame br b where
  frame := h.mono
  requests q s := by
    have hsel := h.ptp_eq (fun x => (x.selected, x.reselect)) (fun _ => rfl) q s
    simp only [Prod.mk.injEq] at hsel
    exact Or.inl hsel

theorem OpFrame.refl (br : Bridge) : OpFrame br br := (Frame.refl quietOwned br).opFrame

theorem OpFrame.trans {br b c : Bridge} (h : OpFrame br b) (h' : OpFrame b c) : OpFrame br c where
  frame := h.frame.trans h'.frame
  requests q s := by
    rcases h'.requests q s with ⟨hsel, hre⟩ | hre
    · rcases h.requests q s with ⟨hsel', hre'⟩ | hre'
      · exact Or.inl ⟨hsel.trans hsel', hre.trans hre'⟩
      · exact Or.inr (hre.trans hre')
    · exact Or.inr hre

theorem OpFrame.after {br b c : Bridge} (h' : OpFrame b c) (h : OpFrame br b) : OpFrame br c :=
  h.trans h'

theorem OpFrame.ite {c : Prop} [Decidable c] {br b b' : Bridge} (h : OpFrame br b)
    (h' : OpFrame br b') : OpFrame br (if c then b else b') := by
  split
  · exact h
  · exact h'

theorem Frame.forAll {o : Owned} {α : Type} {act : α → Bridge → Bridge}
    (h : ∀ a b, Frame o b (act a b)) (l : List α) (br : Bridge) :
    Frame o br (forAll act l br) := by
  induction l generalizing br with
  | nil => exact Frame.refl o br
  | cons a l ih => exact Frame.trans (h a br) (ih (act a br))

theorem OpFrame.forAll {α : Type} {act : α → Bridge → Bridge}
    (h : ∀ a b, OpFrame b (act a b)) (l : List α) (br : Bridge) :
    OpFrame br (forAll act l br) := by
  induction l generalizing br with
  | nil => exact OpFrame.refl br
  | cons a l ih => exact OpFrame.trans (h a br) (ih (act a br))

/-- How an operation ends. -/
inductive Ending (env : Env) (b br' : Bridge) : Prop
  | stay (h : br' = b)
  | run (h : brStateMachinesRun env.late env.fuel b = some br')
  | restart (h : brStateMachinesBegin env.late env.fuel b = some br')

/-! ## Each plain operation -/

theorem bdsmBegin_opFrame (p : PortRef) (br : Bridge) : OpFrame br (bdsmBegin p br) := by
  have h : Frame quietOwned br (bdsmBegin p br) := (bdsmTo_frame p _ br).mono
  exact h.opFrame

theorem recalcConfigDigest_opFrame (env : Env) (br : Bridge) :
    OpFrame br (recalcConfigDigest env br) := by
  have h : Frame quietOwned br (recalcConfigDigest env br) :=
    ⟨rfl, fun _ _ => rfl, fun _ => rfl, fun _ => rfl, rfl⟩
  exact h.opFrame

theorem map_true {x : Option Bridge} {br' : Bridge} {ok : Bool}
    (h : x.map (fun b => (b, true)) = some (br', ok)) : x = some br' := by
  cases x with
  | none => cases h
  | some b =>
    have hpair : (b, true) = (br', ok) := Option.some.inj h
    rw [(Prod.mk.inj hpair).1]

theorem refused_ending {env : Env} {br br' : Bridge} {refusal ok : Bool}
    (h : some (br, refusal) = some (br', ok)) : ∃ b, OpFrame br b ∧ Ending env b br' :=
  ⟨br, OpFrame.refl br, .stay (Prod.mk.inj (Option.some.inj h)).1.symm⟩

theorem tablesWritten_ending {env : Env} {changed ok : Bool} {b br' : Bridge}
    (h : tablesWritten env changed b = some (br', ok)) : ∃ c, OpFrame b c ∧ Ending env c br' := by
  rw [tablesWritten] at h
  split at h
  · exact ⟨_, recalcConfigDigest_opFrame env b, .restart (map_true h)⟩
  · exact ⟨b, OpFrame.refl b, .stay (Prod.mk.inj (Option.some.inj h)).1.symm⟩

theorem setBridgeAddress_ending {env : Env} {macaddr : BitVec 48} {br br' : Bridge}
    (h : mstpInSetBridgeAddress env macaddr br = some br') :
    ∃ b, OpFrame br b ∧ Ending env b br' := by
  have htree : ∀ s b, OpFrame b (b.setTree s (treeAddress macaddr)) := by
    intro s b
    have hset : Frame quietOwned b (b.setTree s (treeAddress macaddr)) := by
      refine Frame.setTree fun x => ?_
      rw [treeAddress]
      split <;> rfl
    exact hset.opFrame
  rw [mstpInSetBridgeAddress] at h
  refine ⟨_, OpFrame.forAll htree br.trees br, ?_⟩
  split at h
  · exact .restart h
  · exact .stay (Option.some.inj h).symm

theorem assignParameters_opFrame (cfg : CistBridgeConfig) (br : Bridge) :
    OpFrame br (assignParameters cfg br) := by
  have h : Frame quietOwned br (assignParameters cfg br) :=
    ⟨rfl, fun _ _ => rfl, fun _ => rfl, fun _ => rfl, rfl⟩
  exact h.opFrame

theorem resetTxCounts_opFrame (br : Bridge) : OpFrame br (resetTxCounts br) := by
  refine OpFrame.forAll (fun p b => ?_) br.ports br
  have h : Frame quietOwned b (b.setPort p fun prt => { prt with txCount := 0 }) :=
    Frame.setPort fun _ => rfl
  exact h.opFrame

theorem OpFrame.request {br : Bridge} {t : Mstid} {f : PortRef → PerTreePort → PerTreePort}
    (hf : ∀ q x, managementOwned.ptp (f q x) = managementOwned.ptp x)
    (hre : ∀ q x, (f q x).reselect = true) : OpFrame br (br.setTreePtps t f) where
  frame := Frame.setTreePtps hf
  requests q s := by
    simp only [setTreePtps]
    split
    · exact Or.inr (hre _ _)
    · exact Or.inl ⟨rfl, rfl⟩

theorem propagateBridgeTimes_opFrame (br : Bridge) : OpFrame br (propagateBridgeTimes br) := by
  rw [propagateBridgeTimes]
  refine OpFrame.forAll (fun s b => ?_) br.trees br
  exact OpFrame.after (OpFrame.request (fun _ _ => rfl) fun _ _ => rfl)
    (Frame.opFrame (Frame.setTree fun _ => rfl))

theorem writeBridgeConfig_opFrame (cfg : CistBridgeConfig) (br : Bridge) :
    OpFrame br (writeBridgeConfig cfg br) := by
  have hparams := assignParameters_opFrame cfg br
  have hreset : OpFrame br (if holdCountChanges cfg br then resetTxCounts (assignParameters cfg br)
      else assignParameters cfg br) :=
    OpFrame.ite (hparams.trans (resetTxCounts_opFrame _)) hparams
  exact OpFrame.ite (hreset.trans (propagateBridgeTimes_opFrame _)) hreset

theorem setCistBridgeConfig_ending {env : Env} {cfg : CistBridgeConfig} {br br' : Bridge}
    {ok : Bool}
    (h : mstpInSetCistBridgeConfig env cfg br = some (br', ok)) :
    ∃ b, OpFrame br b ∧ Ending env b br' := by
  rw [mstpInSetCistBridgeConfig] at h
  split at h
  · exact refused_ending h
  · refine ⟨_, writeBridgeConfig_opFrame cfg br, ?_⟩
    split at h
    · split at h
      · exact .restart (map_true h)
      · split at h
        · exact .run (map_true h)
        · exact .stay (Prod.mk.inj (Option.some.inj h)).1.symm
    · exact .stay (Prod.mk.inj (Option.some.inj h)).1.symm

theorem setMstiBridgeConfig_opFrame (t : Mstid) (prio : UInt8) (br : Bridge) :
    OpFrame br (mstpInSetMstiBridgeConfig t prio br).1 := by
  rw [mstpInSetMstiBridgeConfig]
  split
  · exact OpFrame.refl br
  · dsimp only
    split
    · exact OpFrame.refl br
    · dsimp only
      refine OpFrame.after (OpFrame.request ?_ ?_) (Frame.opFrame (Frame.setTree fun _ => rfl))
      · exact fun _ _ => rfl
      · exact fun _ _ => rfl

theorem writePortConfig_opFrame (p : PortRef) (cfg : CistPortConfig) (br : Bridge) :
    OpFrame br (writePortConfig p cfg br) := by
  have hcost : ∀ cost : Bool, OpFrame br (br.setPtp p 0 fun ptp =>
      { ptp with selected := ptp.selected && !cost, reselect := ptp.reselect || cost }) := by
    intro cost
    refine ⟨Frame.setPtp fun _ => rfl, fun q s => ?_⟩
    simp only [setPtp]
    split
    · cases cost <;> simp
    · exact Or.inl ⟨rfl, rfl⟩
  have hassign : ∀ b, OpFrame b (b.setPort p (assignPortConfig cfg)) := fun b =>
    Frame.opFrame (Frame.setPort fun _ => rfl)
  rw [writePortConfig]
  have hboth := (hcost (costChanges p cfg br)).trans (hassign _)
  exact OpFrame.ite hboth (hboth.trans (bdsmBegin_opFrame p _))

theorem setCistPortConfig_ending {env : Env} {p : PortRef} {cfg : CistPortConfig} {br br' : Bridge}
    {ok : Bool} (h : mstpInSetCistPortConfig env p cfg br = some (br', ok)) :
    ∃ b, OpFrame br b ∧ Ending env b br' := by
  rw [mstpInSetCistPortConfig] at h
  split at h
  · exact refused_ending h
  · refine ⟨_, writePortConfig_opFrame p cfg br, ?_⟩
    split at h
    · exact .run (map_true h)
    · exact .stay (Prod.mk.inj (Option.some.inj h)).1.symm

theorem setMstiPortConfig_ending {env : Env} {p : PortRef} {t : Mstid} {cfg : MstiPortConfig}
    {br br' : Bridge} {ok : Bool} (h : mstpInSetMstiPortConfig env p t cfg br = some (br', ok)) :
    ∃ b, OpFrame br b ∧ Ending env b br' := by
  have hassign : OpFrame br (br.setPtp p t (assignPtpConfig (br.port p).speed cfg)) :=
    Frame.opFrame (Frame.setPtp fun _ => rfl)
  have hrequest : ∀ b, OpFrame b (b.setPtp p t fun ptp =>
      { ptp with selected := false, reselect := true }) := by
    intro b
    refine ⟨Frame.setPtp fun _ => rfl, fun q s => ?_⟩
    simp only [setPtp]
    split
    · exact Or.inr rfl
    · exact Or.inl ⟨rfl, rfl⟩
  rw [mstpInSetMstiPortConfig] at h
  split at h
  · exact refused_ending h
  · dsimp only at h
    split at h
    · exact ⟨_, hassign.trans (hrequest _), .run (map_true h)⟩
    · exact ⟨_, hassign, .stay (Prod.mk.inj (Option.some.inj h)).1.symm⟩

theorem portMcheck_ending {env : Env} {p : PortRef} {br br' : Bridge}
    (h : mstpInPortMcheck env p br = some br') : ∃ b, OpFrame br b ∧ Ending env b br' := by
  rw [mstpInPortMcheck] at h
  split at h
  · have hwrite : Frame quietOwned br (requestMcheck p br) :=
      Frame.after (Frame.setPtp fun _ => rfl) (Frame.setPort fun _ => rfl)
    exact ⟨_, hwrite.opFrame, .run h⟩
  · exact ⟨br, OpFrame.refl br, .stay (Option.some.inj h).symm⟩

theorem tables_ending {env : Env} {changed ok : Bool} {br br' : Bridge}
    {vid2fid fid2mstid : Nat → UInt16}
    (h : tablesWritten env changed { br with vid2fid := vid2fid, fid2mstid := fid2mstid }
      = some (br', ok)) : ∃ b, OpFrame br b ∧ Ending env b br' := by
  obtain ⟨d, hd, hend⟩ := tablesWritten_ending h
  have hwrite : Frame quietOwned br { br with vid2fid := vid2fid, fid2mstid := fid2mstid } :=
    ⟨rfl, fun _ _ => rfl, fun _ => rfl, fun _ => rfl, rfl⟩
  exact ⟨d, hwrite.opFrame.trans hd, hend⟩

theorem setVid2fid_ending {env : Env} {vid fid : UInt16} {br br' : Bridge} {ok : Bool}
    (h : mstpInSetVid2fid env vid fid br = some (br', ok)) :
    ∃ b, OpFrame br b ∧ Ending env b br' := by
  rw [mstpInSetVid2fid] at h
  split at h
  · exact refused_ending h
  · exact tables_ending h

theorem setAllVids2fids_ending {env : Env} {f : Nat → UInt16} {br br' : Bridge} {ok : Bool}
    (h : mstpInSetAllVids2fids env f br = some (br', ok)) :
    ∃ b, OpFrame br b ∧ Ending env b br' := by
  rw [mstpInSetAllVids2fids] at h
  exact tables_ending h

theorem setFid2mstid_ending {env : Env} {fid mstid : UInt16} {br br' : Bridge} {ok : Bool}
    (h : mstpInSetFid2mstid env fid mstid br = some (br', ok)) :
    ∃ b, OpFrame br b ∧ Ending env b br' := by
  rw [mstpInSetFid2mstid] at h
  split at h
  · exact refused_ending h
  · split at h
    · exact refused_ending h
    · split at h
      · exact refused_ending h
      · exact tables_ending h

theorem setAllFids2mstids_ending {env : Env} {f : Nat → UInt16} {br br' : Bridge} {ok : Bool}
    (h : mstpInSetAllFids2mstids env f br = some (br', ok)) :
    ∃ b, OpFrame br b ∧ Ending env b br' := by
  rw [mstpInSetAllFids2mstids] at h
  split at h
  · exact refused_ending h
  · exact tables_ending h

theorem setMstConfigId_ending {env : Env} {revision : UInt16} {name : Nat → UInt8}
    {br br' : Bridge} (h : mstpInSetMstConfigId env revision name br = some br') :
    ∃ b, OpFrame br b ∧ Ending env b br' := by
  rw [mstpInSetMstConfigId] at h
  split at h
  · have hwrite : ∀ id, Frame quietOwned br { br with mstConfigId := id } := fun _ =>
      ⟨rfl, fun _ _ => rfl, fun _ => rfl, fun _ => rfl, rfl⟩
    exact ⟨_, (hwrite _).opFrame, .restart h⟩
  · exact ⟨br, OpFrame.refl br, .stay (Option.some.inj h).symm⟩

/-- Every management operation assigns configuration and ends in one of three ways. -/
theorem exec_management {env : Env} {op : Op} {br br' : Bridge} {ok : Bool}
    (hop : op.management = true) (h : exec env br op = some (br', ok)) :
    ∃ b, OpFrame br b ∧ Ending env b br' := by
  cases op with
  | setBridgeAddress macaddr => exact setBridgeAddress_ending (map_true h)
  | setCistBridgeConfig cfg => exact setCistBridgeConfig_ending h
  | setMstiBridgeConfig t prio =>
    have hpair : (mstpInSetMstiBridgeConfig t prio br) = (br', ok) := Option.some.inj h
    have hframe := setMstiBridgeConfig_opFrame t prio br
    exact ⟨_, hframe, .stay (congrArg Prod.fst hpair).symm⟩
  | setCistPortConfig p cfg => exact setCistPortConfig_ending h
  | setMstiPortConfig p t cfg => exact setMstiPortConfig_ending h
  | portMcheck p => exact portMcheck_ending (map_true h)
  | setVid2fid vid fid => exact setVid2fid_ending h
  | setAllVids2fids f => exact setAllVids2fids_ending h
  | setFid2mstid fid mstid => exact setFid2mstid_ending h
  | setAllFids2mstids f =>
    rw [exec] at h
    exact setAllFids2mstids_ending h
  | setMstConfigId revision name => exact setMstConfigId_ending (map_true h)
  | sysdeps p speed duplex =>
    have hwrite : Frame quietOwned br (br.setPort p fun prt =>
        { prt with speed := speed, duplex := duplex }) := Frame.setPort fun _ => rfl
    exact ⟨_, hwrite.opFrame, .stay (Prod.mk.inj (Option.some.inj h)).1.symm⟩
  | _ => cases hop

/-! ## Ticks -/

def tickOwned : Owned where
  config b := { b with uptime := 0 }
  ptp x :=
    { x with fdWhile := 0, rrWhile := 0, rbWhile := 0, tcWhile := 0, rcvdInfoWhile := 0 }
  port x :=
    { x with
      helloWhen := 0, mdelayWhile := 0, edgeDelayWhile := 0, txCount := 0, brAssuRcvdInfoWhile := 0
      rapidAgeingWhile := 0 }
  tree x := { x with timeSinceTopologyChange := 0, topologyChange := false }
  out := MstpOut.isFlush

instance : tickOwned.KeepsLists := ⟨fun _ => rfl, fun _ => rfl⟩

theorem ptpTick_frame (p : PortRef) (t : Mstid) (br : Bridge) :
    Frame tickOwned br (ptpTick p t br) := by
  have hset : Frame tickOwned br (br.setPtp p t fun ptp =>
      { ptp with
        fdWhile := ptp.fdWhile - 1, rrWhile := ptp.rrWhile - 1, rbWhile := ptp.rbWhile - 1
        tcWhile := ptp.tcWhile - 1, rcvdInfoWhile := ptp.rcvdInfoWhile - 1 }) :=
    Frame.setPtp fun _ => rfl
  have hreset : ∀ b, Frame tickOwned b (resetTopologyChange t b) := by
    intro b
    rw [resetTopologyChange]
    exact Frame.setTree fun _ => rfl
  exact Frame.ite (hset.trans (hreset _)) hset

theorem portTick_frame (p : PortRef) (br : Bridge) : Frame tickOwned br (portTick p br) := by
  have htimers : ∀ b, Frame tickOwned b (b.setPort p fun prt =>
      { prt with
        helloWhen := prt.helloWhen - 1, mdelayWhile := prt.mdelayWhile - 1
        edgeDelayWhile := prt.edgeDelayWhile - 1, txCount := prt.txCount - 1
        brAssuRcvdInfoWhile := prt.brAssuRcvdInfoWhile - 1 }) :=
    fun _ => Frame.setPort fun _ => rfl
  have hageing : ∀ b, Frame tickOwned b (b.setPort p fun prt =>
      { prt with rapidAgeingWhile := prt.rapidAgeingWhile - 1 }) :=
    fun _ => Frame.setPort fun _ => rfl
  have hall := ((htimers br).trans (Frame.forAll (ptpTick_frame p) br.trees _)).trans (hageing _)
  exact Frame.ite (hall.trans (Frame.emit rfl)) hall

theorem bridgeTick_frame (br : Bridge) : Frame tickOwned br (bridgeTick br) := by
  have htree : ∀ s b, Frame tickOwned b (b.setTree s treeTick) := fun _ _ =>
    Frame.setTree fun _ => rfl
  rw [bridgeTick]
  exact Frame.after (Frame.forAll portTick_frame _ _) (Frame.forAll htree br.trees br)

theorem oneSecond_ending {env : Env} {br br' : Bridge} (h : mstpInOneSecond env br = some br') :
    ∃ b, Frame tickOwned br b ∧ ((br' = b ∧ br.bridgeEnabled = false) ∨
      brStateMachinesRun env.late env.fuel b = some br') := by
  have huptime : Frame tickOwned br { br with uptime := br.uptime + 1 } :=
    ⟨rfl, fun _ _ => rfl, fun _ => rfl, fun _ => rfl, rfl⟩
  rw [mstpInOneSecond] at h
  split at h
  · exact ⟨_, huptime.trans (bridgeTick_frame _), Or.inr h⟩
  · rename_i hdisabled
    exact ⟨_, huptime, Or.inl ⟨(Option.some.inj h).symm, by simpa using hdisabled⟩⟩

/-! ## Link changes -/

def linkOwned : Owned where
  ptp x := { x with internalPortPathCost := 0 }
  port x :=
    { x with
      portEnabled := false, externalPortPathCost := 0, operPointToPointMAC := false
      bpduGuardError := false, baInconsistent := false, brAssuRcvdInfoWhile := 0
      numRxBpduFiltered := 0, numRxBpdu := 0, numRxTcn := 0, numTxBpdu := 0, numTxTcn := 0 }

instance : linkOwned.KeepsEnabled := ⟨fun _ => rfl⟩

instance : linkOwned.KeepsLists := ⟨fun _ => rfl, fun _ => rfl⟩

theorem assignLink_frame (p : PortRef) (speed duplex : Int) (br : Bridge) :
    Frame linkOwned br (assignLink p speed duplex br) := by
  rw [assignLink]
  exact Frame.after (Frame.setPortPtps fun _ _ => rfl) (Frame.setPort fun _ => rfl)

theorem portUp_frame (p : PortRef) (br : Bridge) : Frame linkOwned br (portUp p br) := by
  rw [portUp, updtbrAssuRcvdInfoWhile]
  exact Frame.after (Frame.setPort fun _ => rfl) (Frame.setPort fun _ => rfl)

theorem assignLink_portEnabled (p q : PortRef) (speed duplex : Int) (br : Bridge) :
    ((assignLink p speed duplex br).port q).portEnabled = (br.port q).portEnabled := by
  simp only [assignLink, setPortPtps, setPort]
  split <;> rfl

theorem setPortEnable_ending {env : Env} {p : PortRef} {up : Bool} {speed duplex : Int}
    {br br' : Bridge} (h : mstpInSetPortEnable env p up speed duplex br = some br') :
    ∃ b, Frame linkOwned br b ∧
      ((br' = b ∧ ∀ q, (b.port q).portEnabled = (br.port q).portEnabled) ∨
        brStateMachinesRun env.late env.fuel b = some br') := by
  have hassign := assignLink_frame p speed duplex br
  rw [mstpInSetPortEnable] at h
  split at h
  · dsimp only at h
    split at h
    · exact ⟨_, Frame.ite hassign (hassign.trans (portUp_frame p _)), Or.inr h⟩
    · rename_i hchange
      have hup : (br.port p).portEnabled = true := by
        simp only [Bool.or_eq_true, Bool.not_eq_true', not_or, Bool.not_eq_false] at hchange
        exact hchange.2
      rw [if_pos hup] at h
      refine ⟨_, hassign, Or.inl ⟨(Option.some.inj h).symm, fun q => ?_⟩⟩
      exact assignLink_portEnabled p q speed duplex br
  · split at h
    · refine ⟨_, ?_, Or.inr h⟩
      exact Frame.setPort fun _ => rfl
    · exact ⟨br, Frame.refl _ _, Or.inl ⟨(Option.some.inj h).symm, fun _ => rfl⟩⟩

/-! ## Received BPDUs -/

def rxOwned : Owned where
  port x :=
    { x with
      bpduGuardError := false, baInconsistent := false, brAssuRcvdInfoWhile := 0
      rcvdBpdu := false, rcvdBpduData := fun _ => 0, rcvdBpduNumOfMstis := 0
      numRxBpduFiltered := 0, numRxBpdu := 0, numRxTcn := 0 }
  out c :=
    match c with
    | .shutdownPort .. => true
    | _ => false

theorem acceptBpdu_frame (p : PortRef) (bpdu : Mem) (version : UInt8) (mstis : Option Nat)
    (br : Bridge) : Frame rxOwned br (acceptBpdu p bpdu version mstis br) := by
  rw [acceptBpdu, updtbrAssuRcvdInfoWhile]
  exact Frame.after (Frame.setPort fun _ => rfl) (Frame.setPort fun _ => rfl)

/-- What `MSTP_IN_rx_bpdu` assigns when it does not accept the BPDU. -/
def refusedOwned : Owned where
  port x :=
    { x with bpduGuardError := false, numRxBpduFiltered := 0, numRxBpdu := 0 }
  out := rxOwned.out

theorem rxBpdu_ending {env : Env} {p : PortRef} {bpdu : Mem} {size : Nat} {br br' : Bridge}
    (h : mstpInRxBpdu env p bpdu size br = some br') :
    Frame refusedOwned br br' ∨
    ∃ b version mstis, Frame refusedOwned br b ∧ rxRefusal br p = none ∧
      validateBpdu bpdu size = some (version, mstis) ∧
      brStateMachinesRun env.late env.fuel (acceptBpdu p bpdu version mstis b) = some br' := by
  have hcount : Frame refusedOwned br (br.setPort p fun prt =>
      { prt with numRxBpdu := prt.numRxBpdu + 1 }) := Frame.setPort fun _ => rfl
  have hrefusal : rxRefusal (br.setPort p fun prt =>
      { prt with numRxBpdu := prt.numRxBpdu + 1 }) p = rxRefusal br p := by
    simp [rxRefusal, setPort]
  rw [mstpInRxBpdu] at h
  split at h
  · refine Or.inl (Option.some.inj h ▸ ?_)
    exact Frame.after (Frame.emit rfl) (Frame.after (Frame.setPort fun _ => rfl) hcount)
  · refine Or.inl (Option.some.inj h ▸ ?_)
    exact Frame.after (Frame.setPort fun _ => rfl) hcount
  · exact Or.inl (Option.some.inj h ▸ hcount)
  · rename_i hnone
    split at h
    · exact Or.inl (Option.some.inj h ▸ hcount)
    · rename_i version mstis hvalid
      exact Or.inr ⟨_, version, mstis, hcount, hrefusal ▸ hnone, hvalid, h⟩

/-! ## Switching the bridge -/

def resetOwned : Owned where
  config b := { b with bridgeEnabled := false, uptime := 0 }
  ptp x := ptpDefaultInternalVars { x with state := .disabled }
  port := portDefaultInternalVars
  tree := treeDefaultInternalVars
  out c := c.isSetState || c.isFlush

instance : resetOwned.KeepsLists := ⟨fun _ => rfl, fun _ => rfl⟩

theorem resetPort_frame (p : PortRef) (br : Bridge) : Frame resetOwned br (resetPort p br) := by
  rw [resetPort]
  refine Frame.after (Frame.forAll (fun s b => ?_) _ _) ?_
  · refine Frame.after (Frame.setPtp fun _ => rfl) ?_
    refine Frame.ite ?_ (Frame.refl _ _)
    rw [mstpOutSetState]
    exact Frame.after (Frame.emit rfl)
      (Frame.after (Frame.setPort fun _ => rfl) (Frame.setPtp fun _ => rfl))
  · exact Frame.after (Frame.setPort fun _ => rfl) (Frame.ite (Frame.emit rfl) (Frame.refl _ _))

theorem resetBridge_frame (up : Bool) (br : Bridge) : Frame resetOwned br (resetBridge up br) := by
  have hup : Frame resetOwned br { br with bridgeEnabled := up, uptime := 0 } :=
    ⟨rfl, fun _ _ => rfl, fun _ => rfl, fun _ => rfl, rfl⟩
  rw [resetBridge]
  refine Frame.after (Frame.forAll resetPort_frame _ _) (Frame.after (Frame.forAll ?_ _ _) hup)
  exact fun s b => Frame.setTree fun _ => rfl

/-! ## Operations on the lists of ports and trees -/

theorem createPort_cases {env : Env} {p : PortRef} {portno : UInt16} {name : String}
    {speed duplex : Int} {br br' : Bridge} {ok : Bool}
    (h : mstpInPortCreateAndAddTail env p portno name speed duplex br = some (br', ok)) :
    br' = br ∨
      prtStateMachinesBegin env.late env.fuel p (addPort p portno name speed duplex br)
        = some br' := by
  rw [mstpInPortCreateAndAddTail] at h
  split at h
  · exact Or.inr (map_true h)
  · exact Or.inl (Prod.mk.inj (Option.some.inj h)).1.symm

theorem deletePort_cases {env : Env} {p : PortRef} {br br' : Bridge}
    (h : mstpInDeletePort env p br = some br') :
    ∃ b, (brStateMachinesRun env.late env.fuel (markDeleted p br) = some b ∨
        ((br.port p).portEnabled = false ∧ b = markDeleted p br)) ∧
      brStateMachinesRun env.late env.fuel { b with ports := b.ports.erase p } = some br' := by
  obtain ⟨b, hb, hrun⟩ := Option.bind_eq_some_iff.mp h
  refine ⟨b, ?_, hrun⟩
  split at hb
  · exact Or.inl hb
  · rename_i henabled
    exact Or.inr ⟨by simpa using henabled, (Option.some.inj hb).symm⟩

theorem setBridgeEnable_cases {env : Env} {up : Bool} {br br' : Bridge}
    (h : mstpInSetBridgeEnable env up br = some br') :
    br' = br ∨ br.bridgeEnabled ≠ up ∧
      brStateMachinesBegin env.late env.fuel (resetBridge up br) = some br' := by
  rw [mstpInSetBridgeEnable] at h
  split at h
  · exact Or.inl (Option.some.inj h).symm
  · rename_i hup
    exact Or.inr ⟨hup, h⟩

theorem createMsti_cases {env : Env} {mstid : UInt16} {br br' : Bridge} {ok : Bool}
    (h : mstpInCreateMsti env mstid br = some (br', ok)) :
    br' = br ∨ ∃ trees, mstid ≠ 0 ∧ mstid ∉ br.trees ∧
      insertAfterLast (fun s => decide (s < mstid)) mstid br.trees = some trees ∧
      treeStateMachinesBegin env.late env.fuel mstid (addTree mstid trees br) = some br' := by
  have hstay : ∀ {b : Bool}, some (br, b) = some (br', ok) → br' = br := fun hb =>
    (Prod.mk.inj (Option.some.inj hb)).1.symm
  rw [mstpInCreateMsti] at h
  split at h
  · exact Or.inl (hstay h)
  · rename_i hrange
    split at h
    · exact Or.inl (hstay h)
    · rename_i hnew
      split at h
      · exact Or.inl (hstay h)
      · rename_i trees htrees
        split at h
        · exact Or.inl (hstay h)
        · split at h
          · exact Or.inl (hstay h)
          · refine Or.inr ⟨trees, ?_, by simpa using hnew, htrees, map_true h⟩
            rintro rfl
            exact hrange (Or.inl (by decide))

theorem deleteMsti_cases {env : Env} {mstid : UInt16} {br br' : Bridge} {ok : Bool}
    (h : mstpInDeleteMsti env mstid br = some (br', ok)) :
    br' = br ∨ (mstid ≠ 0 ∧
      brStateMachinesRun env.late env.fuel { br with trees := br.trees.erase mstid }
        = some br') := by
  have hstay : ∀ {b : Bool}, some (br, b) = some (br', ok) → br' = br := fun hb =>
    (Prod.mk.inj (Option.some.inj hb)).1.symm
  rw [mstpInDeleteMsti] at h
  split at h
  · exact Or.inl (hstay h)
  · rename_i hrange
    split at h
    · exact Or.inl (hstay h)
    · split at h
      · exact Or.inl (hstay h)
      · refine Or.inr ⟨?_, map_true h⟩
        rintro rfl
        exact hrange (Or.inl (by decide))

theorem insertAfterLast_mem {P : Mstid → Bool} {x : Mstid} {l l' : List Mstid}
    (h : insertAfterLast P x l = some l') : ∀ a, a ∈ l' ↔ a = x ∨ a ∈ l := by
  induction l generalizing l' with
  | nil => cases h
  | cons b rest ih =>
    intro a
    rw [insertAfterLast] at h
    split at h
    · rename_i rest' hrest
      obtain rfl := Option.some.inj h
      rw [List.mem_cons, List.mem_cons, ih hrest a]
      tauto
    · split at h
      · obtain rfl := Option.some.inj h
        simp only [List.mem_cons]
        tauto
      · cases h

end Mstpd
