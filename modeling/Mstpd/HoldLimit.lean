import Mstpd.BridgeConfig
import Mstpd.OnePort

/-!
# The transmit hold limit

A port counts the BPDUs that it sends and forgets one of them with each tick. It sends only
while the count is below the limit. So the count never exceeds the limit, and in any part
of a run the port sends no more than the limit and one BPDU for each tick.
-/

namespace Mstpd

open Bridge

/-! ## What is counted -/

/-- A BPDU that the port hands to `MSTP_OUT_tx_bpdu`. -/
def MstpOut.sentBy (p : PortRef) : MstpOut → Bool
  | .txBpdu q _ _ => decide (q = p)
  | _ => false

/-- The BPDUs that the port has sent so far. -/
def sent (p : PortRef) (br : Bridge) : Nat := br.out.countP (MstpOut.sentBy p)

/-- Everything but the counts of the ports, their limit and the calls that send. -/
def besideTx : Owned where
  config b := { ports := b.ports, transmitHoldCount := b.transmitHoldCount }
  ptp _ := {}
  port x := { txCount := x.txCount }
  tree _ := {}
  out c := !c.isTx

section BesideTx

variable {br br' : Bridge}

theorem Frame.txCount_eq (h : Frame besideTx br br') (p : PortRef) :
    (br'.port p).txCount = (br.port p).txCount := h.port_eq Port.txCount (fun _ => rfl) p

theorem Frame.holdCount_eq (h : Frame besideTx br br') :
    br'.transmitHoldCount = br.transmitHoldCount :=
  h.config_eq Bridge.transmitHoldCount fun _ => rfl

theorem Frame.ports_same (h : Frame besideTx br br') : br'.ports = br.ports :=
  h.config_eq Bridge.ports fun _ => rfl

/-- Who does not own the sending of BPDUs sends none. -/
theorem Frame.sent_eq {o : Owned} (ho : ∀ q b size, o.out (.txBpdu q b size) = false)
    (h : Frame o br br') (p : PortRef) : sent p br' = sent p br := by
  have hkept : ∀ l : List MstpOut,
      l.countP (MstpOut.sentBy p) = (l.filter fun c => !o.out c).countP (MstpOut.sentBy p) := by
    intro l
    rw [List.countP_filter]
    refine List.countP_congr fun c _ => ?_
    cases c with
    | txBpdu q b size => simp [ho]
    | _ => simp [MstpOut.sentBy]
  rw [sent, sent, hkept, h.out, ← hkept]

end BesideTx

instance : assuranceOwned.Within besideTx :=
  ⟨fun _ => rfl, fun _ => rfl, fun _ => rfl, fun _ => rfl, fun _ h => absurd h Bool.false_ne_true⟩

instance : prsmOwned.Within besideTx :=
  ⟨fun _ => rfl, fun _ => rfl, fun _ => rfl, fun _ => rfl, fun _ h => absurd h Bool.false_ne_true⟩

instance : discardOwned.Within besideTx :=
  ⟨fun _ => rfl, fun _ => rfl, fun _ => rfl, fun _ => rfl, fun _ h => absurd h Bool.false_ne_true⟩

instance : ppmsmOwned.Within besideTx :=
  ⟨fun _ => rfl, fun _ => rfl, fun _ => rfl, fun _ => rfl, fun _ h => absurd h Bool.false_ne_true⟩

instance : bdsmOwned.Within besideTx :=
  ⟨fun _ => rfl, fun _ => rfl, fun _ => rfl, fun _ => rfl, fun _ h => absurd h Bool.false_ne_true⟩

instance : pismOwned.Within besideTx :=
  ⟨fun _ => rfl, fun _ => rfl, fun _ => rfl, fun _ => rfl, fun _ h => absurd h Bool.false_ne_true⟩

instance : pismBeginOwned.Within besideTx :=
  ⟨fun _ => rfl, fun _ => rfl, fun _ => rfl, fun _ => rfl, fun _ h => absurd h Bool.false_ne_true⟩

instance : prssmOwned.Within besideTx :=
  ⟨fun _ => rfl, fun _ => rfl, fun _ => rfl, fun _ => rfl, fun _ h => absurd h Bool.false_ne_true⟩

instance : initTreeOwned.Within besideTx :=
  ⟨fun _ => rfl, fun _ => rfl, fun _ => rfl, fun _ => rfl, fun _ h => absurd h Bool.false_ne_true⟩

instance : prtsmOwned.Within besideTx :=
  ⟨fun _ => rfl, fun _ => rfl, fun _ => rfl, fun _ => rfl, fun _ h => absurd h Bool.false_ne_true⟩

/-- A kind of call other than sending. -/
theorem not_isTx {f : MstpOut → Bool} (hf : ∀ q b size, f (.txBpdu q b size) = false)
    (c : MstpOut) (h : f c = true) : besideTx.out c = true := by
  cases c with
  | txBpdu q b size => exact absurd h (by simp [hf])
  | _ => rfl

instance : pstsmOwned.Within besideTx :=
  ⟨fun _ => rfl, fun _ => rfl, fun _ => rfl, fun _ => rfl, not_isTx fun _ _ _ => rfl⟩

instance : tcsmOwned.Within besideTx :=
  ⟨fun _ => rfl, fun _ => rfl, fun _ => rfl, fun _ => rfl, not_isTx fun _ _ _ => rfl⟩

instance : rxOwned.Within besideTx :=
  ⟨fun _ => rfl, fun _ => rfl, fun _ => rfl, fun _ => rfl, not_isTx fun _ _ _ => rfl⟩

instance : resetOwned.Within besideTx :=
  ⟨fun _ => rfl, fun _ => rfl, fun _ => rfl, fun _ => rfl, not_isTx fun _ _ _ => rfl⟩

instance : linkOwned.Within besideTx :=
  ⟨fun _ => rfl, fun _ => rfl, fun _ => rfl, fun _ => rfl, fun _ h => absurd h Bool.false_ne_true⟩

instance : timesOwned.Within besideTx :=
  ⟨fun _ => rfl, fun _ => rfl, fun _ => rfl, fun _ => rfl, fun _ h => absurd h Bool.false_ne_true⟩

/-! ## The transmit machine -/

/-- The states that send a BPDU on entry. -/
def PtsmState.transmits : PtsmState → Bool
  | .transmitConfig => true
  | .transmitTcn => true
  | .transmitRstp => true
  | _ => false

section Transmit

variable {p q : PortRef} {br : Bridge}

theorem mstpOutTxBpdu_txCount (b : Bpdu) (size : Nat) :
    ((mstpOutTxBpdu q b size br).port p).txCount = (br.port p).txCount := by
  simp only [mstpOutTxBpdu, emit, Bridge.setPort]
  split <;> rfl

theorem mstpOutTxBpdu_sent (b : Bpdu) (size : Nat) :
    sent p (mstpOutTxBpdu q b size br) = sent p br + if q = p then 1 else 0 := by
  have hout : (mstpOutTxBpdu q b size br).out = .txBpdu q b size :: br.out := rfl
  rw [sent, sent, hout, List.countP_cons]
  by_cases h : q = p <;> simp [MstpOut.sentBy, h]

theorem txConfig_cases :
    txConfig q br = br ∨ ∃ b size, txConfig q br = mstpOutTxBpdu q b size br := by
  rw [txConfig]
  split
  · exact Or.inl rfl
  · exact Or.inr ⟨_, _, rfl⟩

theorem txTcn_cases : txTcn q br = br ∨ ∃ b size, txTcn q br = mstpOutTxBpdu q b size br := by
  rw [txTcn]
  split
  · exact Or.inl rfl
  · exact Or.inr ⟨_, _, rfl⟩

theorem txMstp_cases : txMstp q br = br ∨ ∃ b size, txMstp q br = mstpOutTxBpdu q b size br := by
  rw [txMstp]
  split
  · exact Or.inl rfl
  · exact Or.inr ⟨_, _, rfl⟩

/-- A transmission between assignments to the sending port that count it. -/
theorem transmission_counts {tx : Bridge → Bridge} (before after : Port → Port) (br : Bridge)
    (htx : ∀ b, tx b = b ∨ ∃ bpdu size, tx b = mstpOutTxBpdu q bpdu size b)
    (hbefore : ∀ x, (before x).txCount = x.txCount)
    (hafter : ∀ x, (after x).txCount = x.txCount + 1) :
    (((tx (br.setPort q before)).setPort q after).port q).txCount = (br.port q).txCount + 1 ∧
    sent p ((tx (br.setPort q before)).setPort q after) ≤ sent p br + if q = p then 1 else 0 := by
  have hset : ((br.setPort q before).port q).txCount = (br.port q).txCount := by
    simp [Bridge.setPort, hbefore]
  have hlast : ∀ b : Bridge, ((b.setPort q after).port q).txCount = (b.port q).txCount + 1 := by
    intro b
    simp [Bridge.setPort, hafter]
  rw [hlast]
  rcases htx (br.setPort q before) with hstay | ⟨bpdu, size, hsend⟩
  · rw [hstay, hset]
    exact ⟨rfl, Nat.le_add_right _ _⟩
  · rw [hsend, mstpOutTxBpdu_txCount, hset]
    exact ⟨rfl, (mstpOutTxBpdu_sent bpdu size).le⟩

/-- Sending is counted, and only sending. -/
theorem ptsmTo_counts (s : PtsmState) :
    ((ptsmTo q s br).port q).txCount =
      (if s = .transmitInit then 0 else (br.port q).txCount + if s.transmits then 1 else 0) ∧
    sent p (ptsmTo q s br) ≤ sent p br + if s.transmits ∧ q = p then 1 else 0 := by
  have hsilent : ∀ f : Port → Port, sent p (br.setPort q f) = sent p br := fun _ => rfl
  cases s with
  | transmitInit => exact ⟨by simp [ptsmTo, ptsmToTransmitInit, setPort], Nat.le_add_right _ _⟩
  | transmitPeriodic =>
    exact ⟨by simp [ptsmTo, ptsmToTransmitPeriodic, setPort, PtsmState.transmits],
      Nat.le_add_right _ _⟩
  | idle =>
    exact ⟨by simp [ptsmTo, ptsmToIdle, setPort, PtsmState.transmits], Nat.le_add_right _ _⟩
  | transmitConfig =>
    have hsend := transmission_counts (p := p) (q := q)
      (fun prt => { prt with ptsmState := .transmitConfig, newInfo := false })
      (fun prt => { prt with txCount := prt.txCount + 1, tcAck := false }) br
      (fun _ => txConfig_cases) (fun _ => rfl) fun _ => rfl
    simpa [PtsmState.transmits, ptsmTo, ptsmToTransmitConfig] using hsend
  | transmitTcn =>
    have hsend := transmission_counts (p := p) (q := q)
      (fun prt => { prt with ptsmState := .transmitTcn, newInfo := false })
      (fun prt => { prt with txCount := prt.txCount + 1 }) br
      (fun _ => txTcn_cases) (fun _ => rfl) fun _ => rfl
    simpa [PtsmState.transmits, ptsmTo, ptsmToTransmitTcn] using hsend
  | transmitRstp =>
    have hsend := transmission_counts (p := p) (q := q)
      (fun prt => { prt with ptsmState := .transmitRstp, newInfo := false, newInfoMsti := false })
      (fun prt => { prt with txCount := prt.txCount + 1, tcAck := false }) br
      (fun _ => txMstp_cases) (fun _ => rfl) fun _ => rfl
    simpa [PtsmState.transmits, ptsmTo, ptsmToTransmitRstp] using hsend

/-- The limit stands before each transmission. -/
theorem ptsmNext_limited {s : PtsmState} (h : ptsmNext br p = some s) (hs : s.transmits = true) :
    (br.port p).txCount < br.transmitHoldCount := by
  have hstep := h
  rw [ptsmNext] at hstep
  split at hstep
  · rw [← Option.some.inj hstep] at hs
    cases hs
  · split at hstep
    · by_contra hfull
      simp only [hfull, decide_false, Bool.not_false, if_true] at hstep
      split at hstep
      · cases hstep
      · split at hstep
        · rw [← Option.some.inj hstep] at hs
          cases hs
        · cases hstep
    all_goals
      rw [← Option.some.inj hstep] at hs
      cases hs

theorem ptsmNext_init (h : ptsmNext br p = some .transmitInit) :
    (br.port p).portEnabled = false := by
  by_contra hup
  rw [Bool.not_eq_false] at hup
  simp only [ptsmNext, hup, Bool.not_true, Bool.false_eq_true, if_false] at h
  grind

end Transmit

/-! ## The other actions -/

section Others

variable {p q : PortRef} {br : Bridge}

theorem ptpTick_besideHold (t : Mstid) : Frame besideTx br (ptpTick q t br) := by
  have hreset : ∀ b, Frame besideTx b (resetTopologyChange t b) := by
    intro b
    rw [resetTopologyChange]
    exact Frame.setTree fun _ => rfl
  exact Frame.ite (Frame.after (hreset _) (Frame.setPtp fun _ => rfl)) (Frame.setPtp fun _ => rfl)

/-- A tick forgets one BPDU of the port whose turn it is. -/
theorem portTick_txCount :
    ((portTick q br).port p).txCount = (br.port p).txCount - if p = q then 1 else 0 := by
  have htimers : ∀ b : Bridge, ((forAll (ptpTick q) b.trees b).port p).txCount =
      (b.port p).txCount := fun b =>
    Frame.txCount_eq (Frame.forAll (fun t _ => ptpTick_besideHold t) b.trees b) p
  have hageing : ∀ (b : Bridge) (n : Nat),
      ((b.setPort q fun prt => { prt with rapidAgeingWhile := prt.rapidAgeingWhile - n }).port
        p).txCount = (b.port p).txCount := by
    intro b n
    simp only [Bridge.setPort]
    split <;> rfl
  rw [portTick, apply_ite Bridge.port, Bridge.emit, ite_self, hageing, htimers]
  by_cases h : p = q <;> simp [Bridge.setPort, h]

theorem bridgeTick_txCount :
    ((bridgeTick br).port p).txCount = (br.port p).txCount - br.ports.count p := by
  have hports : ∀ (l : List PortRef) (b : Bridge),
      ((forAll portTick l b).port p).txCount = (b.port p).txCount - l.count p := by
    intro l
    induction l with
    | nil => intro b; rfl
    | cons q l ih =>
      intro b
      rw [forAll, List.foldl_cons, ← forAll, ih, portTick_txCount, List.count_cons]
      by_cases h : p = q
      · subst h
        simp
        omega
      · simp [h, Ne.symm h]
  have htree : ∀ s b, Frame besideTx b (b.setTree s treeTick) := fun _ _ =>
    Frame.setTree fun _ => rfl
  have htrees := Frame.forAll htree br.trees br
  rw [bridgeTick, hports, htrees.txCount_eq, htrees.ports_same]

/-- Actions other than sending, the second that passes and a BEGIN. -/
def Act.besideSending : Act → Bool
  | .ptsm _ _ => false
  | .createPort _ _ _ _ _ => false
  | .switchBridge _ => false
  | .tick => false
  | .removePort _ => false
  | .bridgeAddress _ => false
  | .bridgeConfig _ => false
  | .tables _ _ _ _ => false
  | .configId _ _ => false
  | _ => true

theorem pismAll_beside (refs : List (PortRef × Mstid)) (br : Bridge) :
    Frame besideTx br (forAll (fun o => pismBegin o.1 o.2) refs br) :=
  Frame.forAll (fun o b => (pismBegin_frame o.1 o.2 b).mono) refs br

theorem ptpMachines_beside (refs : List (PortRef × Mstid)) (br : Bridge) :
    Frame besideTx br (ptpMachinesBegin refs br) := by
  rw [ptpMachinesBegin]
  refine Frame.after (Frame.forAll (fun o b => tcsmToInactive_frame o.1 o.2 b) refs _).mono ?_
  refine Frame.after (Frame.forAll (fun o b => pstsmTo_frame o.1 o.2 _ b) refs _).mono ?_
  have hinit :=
    Frame.forAll (fun (o : PortRef × Mstid) b => prtsmToInitPort_frame o.1 o.2 b) refs br
  exact hinit.mono

theorem bdsmBegin_beside (q : PortRef) (br : Bridge) : Frame besideTx br (bdsmBegin q br) :=
  (bdsmTo_frame q _ br).mono

theorem Act.beside_tx {a : Act} (ha : a.besideSending = true) (br : Bridge) :
    Frame besideTx br (a.run br) := by
  cases a with
  | ptsm | createPort | switchBridge | tick | removePort | bridgeAddress | bridgeConfig | tables
  | configId => cases ha
  | assurance p => exact (assuranceRun_frame p br).mono
  | prsm p s => exact (prsmTo_frame p s br).mono
  | ppmsm p s => exact (ppmsmTo_frame p s br).mono
  | bdsm p s => exact (bdsmTo_frame p s br).mono
  | pism p t s => exact (pismTo_frame p t s br).mono
  | prssm t => exact (prssmToRoleSelection_frame t br).mono
  | prtsm p t s => exact (prtsmTo_frame _ p t s br).mono
  | pstsm p t s => exact (pstsmTo_frame p t s br).mono
  | tcsm p t s => exact (tcsmTo_frame p t s br).mono
  | createMsti mstid trees =>
    have hadd : Frame besideTx br (addTree mstid trees br) :=
      ⟨rfl, fun _ _ => rfl, fun _ => rfl, fun _ => rfl, rfl⟩
    simp only [Act.run, treeBegin]
    refine Frame.ite (hadd.trans ?_) hadd
    refine Frame.after (ptpMachines_beside _ _) ?_
    exact Frame.after (prssmToInitTree_frame mstid _).mono (pismAll_beside _ _)
  | removeMsti mstid => exact ⟨rfl, fun _ _ => rfl, fun _ => rfl, fun _ => rfl, rfl⟩
  | idleSecond => exact ⟨rfl, fun _ _ => rfl, fun _ => rfl, fun _ => rfl, rfl⟩
  | linkUp p speed duplex => exact (linkUp_frame p speed duplex br).mono
  | rxBpdu p bpdu size => exact (rxAssign_frame p bpdu size br).mono
  | markDeleted p =>
    rw [Act.run, Mstpd.markDeleted]
    exact Frame.setPort fun _ => rfl
  | linkDown p =>
    rw [Act.run]
    exact Frame.setPort fun _ => rfl
  | flushed p t =>
    rw [Act.run]
    exact Frame.setPtp fun _ => rfl
  | mstiBridgeConfig t prio =>
    rw [Act.run, mstpInSetMstiBridgeConfig]
    split
    · exact Frame.refl _ br
    · dsimp only
      split
      · exact Frame.refl _ br
      · dsimp only
        exact Frame.after (Frame.setTreePtps fun _ _ => rfl) (Frame.setTree fun _ => rfl)
  | portConfig p cfg =>
    simp only [Act.run, writePortConfig]
    have hassign : ∀ f, Frame besideTx br ((br.setPtp p 0 f).setPort p (assignPortConfig cfg)) :=
      fun f => Frame.after (Frame.setPort fun _ => rfl) (Frame.setPtp fun _ => rfl)
    exact Frame.ite (hassign _) (Frame.after (bdsmBegin_beside p _) (hassign _))
  | mstiPortConfig p t cfg =>
    simp only [Act.run, writePtpConfig]
    have hassign : Frame besideTx br (br.setPtp p t (assignPtpConfig (br.port p).speed cfg)) :=
      Frame.setPtp fun _ => rfl
    exact Frame.ite (Frame.after (Frame.setPtp fun _ => rfl) hassign) hassign
  | mcheck p =>
    rw [Act.run, requestMcheck]
    exact Frame.after (Frame.setPtp fun _ => rfl) (Frame.setPort fun _ => rfl)
  | sysdeps p speed duplex =>
    rw [Act.run]
    exact Frame.setPort fun _ => rfl

end Others

/-! ## The count stays within the limit -/

/-- The invariant of the counts. -/
def HoldLimited (br : Bridge) : Prop :=
  ∀ p ∈ br.ports, (br.port p).txCount ≤ br.transmitHoldCount

section HoldLimited

variable {p q : PortRef} {br br' : Bridge}

theorem HoldLimited.frame (hi : HoldLimited br) (h : Frame besideTx br br') : HoldLimited br' := by
  intro p hp
  rw [h.txCount_eq, h.holdCount_eq]
  exact hi p (h.ports_same ▸ hp)

/-- The count of one port is set, within the limit. -/
theorem HoldLimited.ptsm (hi : HoldLimited br) {s : PtsmState}
    (hs : s.transmits = true → (br.port q).txCount < br.transmitHoldCount) :
    HoldLimited (ptsmTo q s br) := by
  intro p hp
  have hports : (ptsmTo q s br).ports = br.ports := (ptsmTo_frame q s br).ports_eq
  have hhold : (ptsmTo q s br).transmitHoldCount = br.transmitHoldCount :=
    (ptsmTo_frame q s br).config_eq Bridge.transmitHoldCount fun _ => rfl
  have hbefore := hi p (hports ▸ hp)
  rw [hhold]
  by_cases h : p = q
  · subst h
    rw [(ptsmTo_counts (p := p) s).1]
    split
    · exact Nat.zero_le _
    · split
      · rename_i hsends
        exact hs hsends
      · exact hbefore
  · rw [(ptsmTo_untouched h br s).1]
    exact hbefore

theorem holdLimited_begin : BeginInv HoldLimited where
  prsm br p hi _ := hi.frame (prsmToDiscard_frame p br).mono
  ppmsm br p hi _ := hi.frame (ppmsmToCheckingRstp_frame p br).mono
  bdsm br p hi _ := hi.frame (bdsmBegin_beside p br)
  ptsm _ p hi _ := hi.ptsm (q := p) (s := .transmitInit) nofun
  pism br p t hi _ _ := hi.frame (pismBegin_frame p t br).mono
  initTree br t hi _ := hi.frame (prssmToInitTree_frame t br).mono
  prtsm br p t hi _ _ := hi.frame (prtsmToInitPort_frame p t br).mono
  pstsm br p t hi _ _ := hi.frame (pstsmTo_frame p t .discarding br).mono
  tcsm br p t hi _ _ := hi.frame (tcsmToInactive_frame p t br).mono

theorem writeBridgeConfig_beside {cfg : CistBridgeConfig}
    (hsame : holdCountChanges cfg br = false) :
    Frame besideTx br (writeBridgeConfig cfg br) := by
  have hhold : (assignParameters cfg br).transmitHoldCount = br.transmitHoldCount := by
    simpa [holdCountChanges] using hsame
  have hassign : Frame besideTx br (assignParameters cfg br) :=
    ⟨congrArg (fun n => ({ ports := br.ports, transmitHoldCount := n } : Bridge)) hhold,
      fun _ _ => rfl, fun _ => rfl, fun _ => rfl, rfl⟩
  simp only [writeBridgeConfig, hsame, Bool.false_eq_true, if_false]
  exact Frame.ite (hassign.trans (propagateBridgeTimes_frame _).mono) hassign

/-- A new limit forgets what was sent. -/
theorem writeBridgeConfig_reset {cfg : CistBridgeConfig} (hchange : holdCountChanges cfg br = true)
    (hp : p ∈ br.ports) : ((writeBridgeConfig cfg br).port p).txCount = 0 := by
  have hreset : ((resetTxCounts (assignParameters cfg br)).port p).txCount = 0 := by
    rw [resetTxCounts]
    refine forAll_reaches (I := fun b => (b.port p).txCount = 0) hp (fun b => ?_)
      (fun q b hb => ?_) _
    · simp [Bridge.setPort]
    · simp only [Bridge.setPort]
      split
      · rfl
      · exact hb
  simp only [writeBridgeConfig, hchange, if_true]
  split
  · have hkept : Frame besideTx (resetTxCounts (assignParameters cfg br)) _ :=
      (propagateBridgeTimes_frame _).mono
    rw [hkept.txCount_eq, hreset]
  · exact hreset

theorem writeBridgeConfig_ports (cfg : CistBridgeConfig) :
    (writeBridgeConfig cfg br).ports = br.ports := (writeBridgeConfig_opFrame cfg br).frame.ports_eq

theorem writeBridgeConfig_holdCount (cfg : CistBridgeConfig) :
    (writeBridgeConfig cfg br).transmitHoldCount = (assignParameters cfg br).transmitHoldCount := by
  have hreset := (resetTxCounts_frame (assignParameters cfg br)).config_eq
    Bridge.transmitHoldCount fun _ => rfl
  have htimes : ∀ b, (propagateBridgeTimes b).transmitHoldCount = b.transmitHoldCount := fun b =>
    (propagateBridgeTimes_frame b).config_eq Bridge.transmitHoldCount fun _ => rfl
  rw [writeBridgeConfig]
  rw [apply_ite Bridge.transmitHoldCount, htimes, ite_self, apply_ite Bridge.transmitHoldCount,
    hreset, ite_self]

theorem HoldLimited.writeBridgeConfig (hi : HoldLimited br) (cfg : CistBridgeConfig) :
    HoldLimited (writeBridgeConfig cfg br) := by
  cases h : holdCountChanges cfg br with
  | false => exact hi.frame (writeBridgeConfig_beside h)
  | true =>
    intro p hp
    rw [writeBridgeConfig_reset h (writeBridgeConfig_ports cfg ▸ hp)]
    exact Nat.zero_le _

theorem writeAddress_beside (macaddr : BitVec 48) (br : Bridge) :
    Frame besideTx br (writeAddress macaddr br) := by
  have hset : ∀ s b, Frame besideTx b (b.setTree s (treeAddress macaddr)) :=
    fun _ _ => Frame.setTree fun _ => rfl
  exact Frame.forAll hset br.trees br

theorem writeTables_beside (env : Env) (changed : Bool) (vid2fid fid2mstid : Nat → UInt16)
    (br : Bridge) : Frame besideTx br (writeTables env changed vid2fid fid2mstid br) :=
  Frame.ite ⟨rfl, fun _ _ => rfl, fun _ => rfl, fun _ => rfl, rfl⟩
    ⟨rfl, fun _ _ => rfl, fun _ => rfl, fun _ => rfl, rfl⟩

theorem writeConfigId_beside (revision : UInt16) (name : List UInt8) (br : Bridge) :
    Frame besideTx br (writeConfigId revision name br) :=
  ⟨rfl, fun _ _ => rfl, fun _ => rfl, fun _ => rfl, rfl⟩

theorem HoldLimited.addPort (hi : HoldLimited br) (portno : UInt16) (name : String)
    (speed duplex : Int) : HoldLimited (addPort p portno name speed duplex br) := by
  intro q hq
  by_cases h : q = p
  · subst h
    simp [Mstpd.addPort, setPortPtps, Bridge.setPort, portDefaultInternalVars]
  · have hold : q ∈ br.ports :=
      (List.mem_append.mp hq).resolve_right fun hone => h (List.mem_singleton.mp hone)
    simpa [Mstpd.addPort, setPortPtps, Bridge.setPort, h] using hi q hold

theorem HoldLimited.tick (hi : HoldLimited br) : HoldLimited (Act.tick.run br) := by
  intro p hp
  have htick : ((Act.tick.run br).port p).txCount = (br.port p).txCount - br.ports.count p :=
    bridgeTick_txCount
  have hhold : (Act.tick.run br).transmitHoldCount = br.transmitHoldCount :=
    (Act.frame .tick br).config_eq Bridge.transmitHoldCount fun _ => rfl
  have hports : (Act.tick.run br).ports = br.ports :=
    (Act.frame .tick br).config_eq Bridge.ports fun _ => rfl
  rw [htick, hhold]
  exact (Nat.sub_le _ _).trans (hi p (hports ▸ hp))

theorem createPort_ports (portno : UInt16) (name : String) (speed duplex : Int) :
    ((Act.createPort p portno name speed duplex).run br).ports = br.ports ++ [p] :=
  (ports_begin (br.ports ++ [p])).port
    (fun b t hb _ _ => (prssmToRoleSelection_frame t b).ports_eq.trans hb)
    (List.mem_append_right _ List.mem_cons_self) rfl

theorem act_nodup {a : Act} (hi : br.ports.Nodup) (hg : a.Guard br) : (a.run br).ports.Nodup := by
  cases a with
  | createPort p portno name speed duplex =>
    rw [createPort_ports]
    refine List.pairwise_append.mpr ⟨hi, List.pairwise_singleton _ p, fun q hq r hr hqr => ?_⟩
    exact hg.1 (List.mem_singleton.mp hr ▸ hqr ▸ hq)
  | removePort p => exact hi.erase p
  | _ =>
    rw [Act.ports_eq rfl hg]
    exact hi

theorem Visited.ports_nodup {C : Act → Bridge → Prop} (h : Visited C br) : br.ports.Nodup :=
  h.inv (I := fun b => b.ports.Nodup) (fun _ _ => List.nodup_nil) fun _ _ hi hg _ =>
    act_nodup hi hg

theorem Visited.holdLimited {C : Act → Bridge → Prop} (h : Visited C br) : HoldLimited br := by
  refine h.inv (fun _ _ _ hp => absurd hp List.not_mem_nil) fun a br hi hg _ => ?_
  have hbegin := holdLimited_begin
  cases a with
  | ptsm p s => exact hi.ptsm fun hs => ptsmNext_limited hg.2.2 hs
  | createPort p portno name speed duplex =>
    exact hbegin.port (fun b t hb _ _ => hb.frame (prssmToRoleSelection_frame t b).mono)
      (List.mem_append_right _ List.mem_cons_self) (hi.addPort portno name speed duplex)
  | switchBridge up => exact hbegin.bridge (hi.frame (resetBridge_frame up br).mono)
  | tick => exact hi.tick
  | removePort p => exact fun q hq => hi q (List.mem_of_mem_erase hq)
  | bridgeAddress macaddr => exact hbegin.ite (hi.frame (writeAddress_beside macaddr br))
  | bridgeConfig cfg => exact hbegin.ite (hi.writeBridgeConfig cfg)
  | tables env changed vid2fid fid2mstid =>
    exact hbegin.ite (hi.frame (writeTables_beside env changed vid2fid fid2mstid br))
  | configId revision name =>
    exact hbegin.bridge (hi.frame (writeConfigId_beside revision name br))
  | _ => exact hi.frame (Act.beside_tx rfl br)

end HoldLimited

/-! ## How many BPDUs a port sends -/

/-- Does the action run the BEGIN of all machines of an enabled bridge? -/
def Act.begins (br : Bridge) : Act → Bool
  | .switchBridge up => up
  | .bridgeAddress macaddr =>
    br.bridgeEnabled && br.trees.any fun s => (br.tree s).bridgeIdentifier.macAddress != macaddr
  | .bridgeConfig cfg =>
    br.bridgeEnabled && (assignParameters cfg br).forceProtocolVersion != br.forceProtocolVersion
  | .tables _ changed _ _ => br.bridgeEnabled && changed
  | .configId _ _ => br.bridgeEnabled
  | _ => false

/-- The port is enabled, no BEGIN of the bridge happens and the limit is not changed. -/
def Undisturbed (p : PortRef) (a : Act) (br : Bridge) : Prop :=
  (br.port p).portEnabled = true ∧ a.begins br = false ∧
    (a.run br).transmitHoldCount = br.transmitHoldCount

instance (p : PortRef) : (a : Act) → (br : Bridge) → Decidable (Undisturbed p a br) := fun a br =>
  inferInstanceAs (Decidable ((br.port p).portEnabled = true ∧ a.begins br = false ∧
    (a.run br).transmitHoldCount = br.transmitHoldCount))

/-- One BPDU for each second that passes. -/
def Act.seconds : Act → Nat
  | .tick => 1
  | _ => 0

def secondsIn : List Act → Nat
  | [] => 0
  | a :: l => a.seconds + secondsIn l

section Budget

variable {p : PortRef} {br br' : Bridge}

/-- What the port has sent is counted, but for one BPDU for each second. -/
def Counted (p : PortRef) (n : Nat) (br br' : Bridge) : Prop :=
  sent p br' + (br.port p).txCount ≤ sent p br + (br'.port p).txCount + n

theorem Counted.trans {br'' : Bridge} {n n' : Nat} (h : Counted p n br br')
    (h' : Counted p n' br' br'') : Counted p (n + n') br br'' := by
  simp only [Counted] at h h' ⊢
  omega

theorem Counted.frame {br'' : Bridge} {n : Nat} (h : Counted p n br br')
    (h' : Frame besideTx br' br'') : Counted p n br br'' := by
  rw [Counted, h'.sent_eq (fun _ _ _ => rfl) p, h'.txCount_eq p]
  exact h

theorem Frame.counted (h : Frame besideTx br br') : Counted p 0 br br' := by
  rw [Counted, h.sent_eq (fun _ _ _ => rfl) p, h.txCount_eq p]
  exact Nat.le_refl _

theorem ptsmTo_counted {q : PortRef} {s : PtsmState} (hs : s = .transmitInit → p ≠ q) :
    Counted p 0 br (ptsmTo q s br) := by
  have hcounts : ((ptsmTo q s br).port q).txCount =
      (if s = .transmitInit then 0 else (br.port q).txCount + if s.transmits then 1 else 0) ∧
      sent p (ptsmTo q s br) ≤ sent p br + if s.transmits ∧ q = p then 1 else 0 := ptsmTo_counts s
  rw [Counted]
  by_cases h : p = q
  · subst h
    have hother : s ≠ .transmitInit := fun hinit => hs hinit rfl
    rw [hcounts.1, if_neg hother]
    have hsent := hcounts.2
    simp only [and_true] at hsent
    omega
  · rw [(ptsmTo_untouched h br s).1]
    have hsent := hcounts.2
    rw [if_neg fun hboth => h hboth.2.symm] at hsent
    omega

/-- The BEGIN of another port. -/
theorem createPort_counted {q : PortRef} (hne : p ≠ q) (portno : UInt16) (name : String)
    (speed duplex : Int) : Counted p 0 br ((Act.createPort q portno name speed duplex).run br) := by
  have hadd : Counted p 0 br (addPort q portno name speed duplex br) := by
    have hsame : ((addPort q portno name speed duplex br).port p).txCount =
        (br.port p).txCount := by
      simp [addPort, setPortPtps, Bridge.setPort, hne]
    rw [Counted, hsame]
    exact Nat.le_refl _
  have hports : ∀ b, Counted p 0 b (portMachinesBegin [q] b) := by
    intro b
    have hbefore : Frame besideTx b (bdsmBegin q (ppmsmToCheckingRstp q (prsmToDiscard q b))) :=
      Frame.after (bdsmBegin_beside q _)
        (Frame.after (ppmsmToCheckingRstp_frame q _).mono (prsmToDiscard_frame q b).mono)
    have hinit : Counted p 0 _ (portMachinesBegin [q] b) :=
      ptsmTo_counted (q := q) (s := .transmitInit) fun _ => hne
    exact hbefore.counted.trans hinit
  have hselect : ∀ t b, Frame besideTx b (prssmRun t b) := fun t b =>
    Frame.ite (prssmToRoleSelection_frame t b).mono (Frame.refl _ b)
  rw [Act.run, portBegin]
  split
  · refine hadd.trans ((hports _).frame ?_)
    refine Frame.after (ptpMachines_beside _ _) ?_
    exact Frame.after (Frame.forAll hselect _ _) (pismAll_beside _ _)
  · exact hadd

theorem bridgeBegin_off (h : br.bridgeEnabled = false) : bridgeBegin br = br := by
  rw [bridgeBegin, if_neg (by rw [h]; exact Bool.false_ne_true)]

/-- A restart of a bridge that is not enabled. -/
theorem restart_counted {c : Prop} [Decidable c] (h : Frame besideTx br br')
    (hen : br'.bridgeEnabled = br.bridgeEnabled) (hoff : br.bridgeEnabled = true → ¬c) :
    Counted p 0 br (if c then bridgeBegin br' else br') := by
  split
  · rename_i hc
    have hdown : br'.bridgeEnabled = false := by
      rw [hen]
      exact Bool.eq_false_iff.mpr fun hup => hoff hup hc
    rw [bridgeBegin_off hdown]
    exact h.counted
  · exact h.counted

/-- What one action sends is counted. -/
theorem act_counted {a : Act} (hnodup : br.ports.Nodup) (hp : p ∈ br.ports) (hg : a.Guard br)
    (hC : Undisturbed p a br) : Counted p a.seconds br (a.run br) := by
  obtain ⟨hup, hbegins, hhold⟩ := hC
  cases a with
  | ptsm q s =>
    refine ptsmTo_counted fun hs hpq => ?_
    have hdown := ptsmNext_init (hs ▸ hg.2.2)
    rw [← hpq, hup] at hdown
    cases hdown
  | createPort q portno name speed duplex =>
    refine createPort_counted (fun h => hg.1 ?_) portno name speed duplex
    exact h ▸ hp
  | switchBridge up =>
    have hdown : up = false := hbegins
    subst hdown
    have hreset : Frame besideTx br (resetBridge false br) := (resetBridge_frame false br).mono
    rw [Act.run, bridgeBegin_off (resetBridge_enabled false br)]
    exact hreset.counted
  | tick =>
    have htick : ((Act.tick.run br).port p).txCount = (br.port p).txCount - br.ports.count p :=
      bridgeTick_txCount
    have hsent := (Act.frame .tick br).sent_eq (fun _ _ _ => rfl) p
    have hcount := List.nodup_iff_count.mp hnodup p
    rw [Counted, htick, hsent, Act.seconds]
    omega
  | removePort q => exact Nat.le_refl _
  | bridgeAddress macaddr =>
    refine restart_counted (writeAddress_beside macaddr br)
      (writeAddress_frame macaddr br).enabled_eq fun hen hc => ?_
    rw [Act.begins, hen, hc] at hbegins
    cases hbegins
  | bridgeConfig cfg =>
    have hassign : ((Act.bridgeConfig cfg).run br).transmitHoldCount =
        (assignParameters cfg br).transmitHoldCount := by
      rw [Act.run, apply_ite Bridge.transmitHoldCount,
        (bridgeBegin_machines _).config_eq Bridge.transmitHoldCount fun _ => rfl, ite_self,
        writeBridgeConfig_holdCount]
    have hsame : holdCountChanges cfg br = false := by
      simpa [holdCountChanges] using hassign.symm.trans hhold
    refine restart_counted (writeBridgeConfig_beside hsame)
      (writeBridgeConfig_opFrame cfg br).frame.enabled_eq fun hen hc => ?_
    rw [Act.begins, hen, hc] at hbegins
    cases hbegins
  | tables env changed vid2fid fid2mstid =>
    refine restart_counted (writeTables_beside env changed vid2fid fid2mstid br)
      (writeTables_frame env changed vid2fid fid2mstid br).enabled_eq fun hen hc => ?_
    rw [Act.begins, hen, hc] at hbegins
    cases hbegins
  | configId revision name =>
    have hdown : br.bridgeEnabled = false := hbegins
    have hwrite := writeConfigId_beside revision name br
    have hoff : bridgeBegin (writeConfigId revision name br) = writeConfigId revision name br :=
      bridgeBegin_off hdown
    rw [Act.run, hoff]
    exact hwrite.counted
  | _ => exact (Act.beside_tx rfl br).counted

/-- The port stays in the list while it is enabled. -/
theorem act_keeps_port {a : Act} (hp : p ∈ br.ports) (hg : a.Guard br)
    (hup : (br.port p).portEnabled = true) : p ∈ (a.run br).ports := by
  cases a with
  | createPort q portno name speed duplex =>
    rw [createPort_ports]
    exact List.mem_append_left _ hp
  | removePort q =>
    have hne : p ≠ q := by
      rintro rfl
      rw [hg.2.2] at hup
      cases hup
    exact (List.mem_erase_of_ne hne).mpr hp
  | _ => exact (Act.ports_eq rfl hg).symm ▸ hp

/-- What a part of a run sends is counted. -/
theorem run_counted {l : List Act} (hnodup : br.ports.Nodup) (hp : p ∈ br.ports)
    (h : bridgeActs.Fires (Undisturbed p) l br) :
    Counted p (secondsIn l) br (bridgeActs.after l br) ∧
      p ∈ (bridgeActs.after l br).ports ∧
      (bridgeActs.after l br).transmitHoldCount = br.transmitHoldCount := by
  induction l generalizing br with
  | nil => exact ⟨Nat.le_refl _, hp, rfl⟩
  | cons a l ih =>
    obtain ⟨hg, hC, hrest⟩ := h
    have hstep := act_counted hnodup hp hg hC
    obtain ⟨hcounted, hend, hhold⟩ :=
      ih (act_nodup hnodup hg) (act_keeps_port hp hg hC.1) hrest
    refine ⟨?_, hend, hhold.trans hC.2.2⟩
    rw [secondsIn]
    exact hstep.trans hcounted

/-- The count of a port never exceeds the limit, and in any part of a run in which the port is
enabled, no BEGIN happens and the limit stays, the port sends at most the limit and one BPDU
for each second. -/
theorem transmission_limited :
    (∀ br, Visited anyAct br → ∀ p ∈ br.ports, (br.port p).txCount ≤ br.transmitHoldCount) ∧
    ∀ br, Visited anyAct br → ∀ p ∈ br.ports, ∀ l, bridgeActs.Fires (Undisturbed p) l br →
      sent p (bridgeActs.after l br) ≤
        sent p br + br.transmitHoldCount + secondsIn l := by
  refine ⟨fun br hv => hv.holdLimited, fun br hv p hp l hl => ?_⟩
  obtain ⟨env, macaddr, hlead⟩ := hv
  have hany := hl.mono (D := anyAct) fun _ _ _ => trivial
  have hend : Visited anyAct (bridgeActs.after l br) := ⟨env, macaddr, hlead.trans ⟨l, hany, rfl⟩⟩
  obtain ⟨hcounted, hport, hhold⟩ :=
    run_counted (Visited.ports_nodup ⟨env, macaddr, hlead⟩) hp hl
  have hlimit := hend.holdLimited p hport
  rw [Counted] at hcounted
  omega

end Budget

/-- A bridge whose port has just come up. -/
def heldPortOps : List Op :=
  [.createPort 1 1 "sw1p1" 1000 1, .setBridgeEnable true, .setPortEnable 1 true 1000 1]

/-- The next hello of the port, two seconds later. -/
def nextHello : List Act :=
  [.tick, .tick, .ptsm 1 .transmitPeriodic, .ptsm 1 .idle, .ptsm 1 .transmitRstp, .ptsm 1 .idle]

theorem nextHello_limited : ∃ br, Visited anyAct br ∧
    (br.port 1).txCount ≤ br.transmitHoldCount ∧
    sent 1 (bridgeActs.after nextHello br) = sent 1 br + 1 ∧
    sent 1 (bridgeActs.after nextHello br) ≤ sent 1 br + br.transmitHoldCount + 2 := by
  have hrun : (sampleRun heldPortOps).any (fun br => br.ports.contains 1 &&
      (bridgeActs.attempt (Undisturbed 1) nextHello br).any fun b =>
        sent 1 b == sent 1 br + 1) = true := by
    decide +kernel
  obtain ⟨br, hbr, hrun⟩ := (Option.any_eq_true _ _).mp hrun
  obtain ⟨hp, hrun⟩ := Bool.and_eq_true_iff.mp hrun
  obtain ⟨b, hb, hsent⟩ := (Option.any_eq_true _ _).mp hrun
  rw [List.contains_iff_mem] at hp
  obtain ⟨hfires, rfl⟩ := Labelled.attempt_fires hb
  have hv := (sampleRun_reachable (A := anyOp) (fun _ _ => trivial) hbr).visitedAt.visited
  exact ⟨br, hv, transmission_limited.1 br hv 1 hp, beq_iff_eq.mp hsent,
    transmission_limited.2 br hv 1 hp nextHello hfires⟩

end Mstpd
