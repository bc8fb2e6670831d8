import Mstpd.HelloTimes
import Mstpd.HoldLimit

/-!
# Hellos

A Designated port announces itself again before two seconds have passed, whatever else happens.
Either the time of the next hello comes, or there is something to send already, and with each
second the limit leaves room for one BPDU more.
-/

namespace Mstpd

open Bridge Machine

/-! ## What others do to the transmit machine -/

/-- What the transmit machine counts and where it stands. -/
def txFields (x : Port) : Nat × Nat × PtsmState := (x.helloWhen, x.txCount, x.ptsmState)

/-- The transmit machine of the port is as it was, but it may have got something to send. -/
structure Louder (p : PortRef) (br b : Bridge) : Prop where
  fields : txFields (b.port p) = txFields (br.port p)
  newInfo : (br.port p).newInfo = true → (b.port p).newInfo = true
  holdCount : b.transmitHoldCount = br.transmitHoldCount

namespace Louder

variable {p q : PortRef} {t : Mstid} {br b b' : Bridge}

theorem refl (p : PortRef) (br : Bridge) : Louder p br br := ⟨rfl, id, rfl⟩

/-- The later step comes first. -/
theorem after (h' : Louder p b b') (h : Louder p br b) : Louder p br b' where
  fields := h'.fields.trans h.fields
  newInfo := h'.newInfo ∘ h.newInfo
  holdCount := h'.holdCount.trans h.holdCount

theorem of_port (h : b.port p = br.port p) (hhold : b.transmitHoldCount = br.transmitHoldCount) :
    Louder p br b := ⟨congrArg txFields h, fun hnew => h ▸ hnew, hhold⟩

theorem frame {o : Owned} (hf : Frame o br b)
    (hport : ∀ x, (txFields (o.port x), (o.port x).newInfo) = (txFields x, x.newInfo))
    (hhold : ∀ c : Bridge, (o.config c.config).transmitHoldCount = c.transmitHoldCount) :
    Louder p br b := by
  have hsame := hf.port_eq (fun x => (txFields x, x.newInfo)) hport p
  rw [Prod.mk.injEq] at hsame
  exact ⟨hsame.1, fun hnew => hsame.2.trans hnew, hf.config_eq Bridge.transmitHoldCount hhold⟩

/-- The count and the limit are kept by the one account, the rest by the other. -/
theorem apart {o : Owned} (h : Frame besideTx br b) (hf : Frame o br b)
    (hport : ∀ x, ((o.port x).helloWhen, (o.port x).ptsmState, (o.port x).newInfo) =
      (x.helloWhen, x.ptsmState, x.newInfo)) : Louder p br b := by
  have hsame := hf.port_eq (fun x => (x.helloWhen, x.ptsmState, x.newInfo)) hport p
  simp only [Prod.mk.injEq] at hsame
  obtain ⟨hwhen, hstate, hnew⟩ := hsame
  refine ⟨?_, fun h => hnew.trans h, h.holdCount_eq⟩
  rw [txFields, hwhen, h.txCount_eq, hstate, txFields]

theorem setPort {f : Port → Port} (hf : ∀ x, txFields (f x) = txFields x)
    (hnew : ∀ x, x.newInfo = true → (f x).newInfo = true) : Louder p br (br.setPort q f) := by
  constructor
  · simp only [Bridge.setPort]
    split
    · exact hf _
    · rfl
  · simp only [Bridge.setPort]
    split
    · exact hnew _
    · exact id
  · rfl

theorem ite {c : Prop} [Decidable c] (h : Louder p br b) (h' : Louder p br b') :
    Louder p br (if c then b else b') := by
  split
  · exact h
  · exact h'

theorem setPtp {f : PerTreePort → PerTreePort} : Louder p br (br.setPtp q t f) := of_port rfl rfl

theorem emit {c : MstpOut} : Louder p br (br.emit c) := of_port rfl rfl

theorem setNewInfo : Louder p br (setNewInfo q t br) := by
  apply setPort
  · exact fun _ => rfl
  · exact fun x hnew => by simp [hnew]

theorem newTcWhile : Louder p br (newTcWhile q t br) := by
  rw [Mstpd.newTcWhile]
  apply ite
  · exact refl p br
  · apply ite
    · exact after setNewInfo (of_port rfl rfl)
    · exact of_port rfl rfl

theorem setFdbFlush : Louder p br (setFdbFlush q t br) := by
  rw [Mstpd.setFdbFlush]
  apply ite
  · exact setPtp
  · apply ite
    · exact after emit setPtp
    · apply after setPtp
      refine after (setPort ?_ ?_) emit
      · exact fun _ => rfl
      · exact fun _ hnew => hnew

theorem pism (q : PortRef) (t : Mstid) (s : PismState) (br : Bridge) :
    Louder p br (pismTo q t s br) := by
  cases s with
  | update => exact after setNewInfo setPtp
  | superiorDesignated =>
    exact frame (pismToSuperiorDesignated_frame q t br) (fun _ => rfl) fun _ => rfl
  | repeatedDesignated =>
    exact frame (pismToRepeatedDesignated_frame q t br) (fun _ => rfl) fun _ => rfl
  | inferiorDesignated =>
    exact frame (pismToInferiorDesignated_frame q t br) (fun _ => rfl) fun _ => rfl
  | notDesignated => exact frame (pismToNotDesignated_frame q t br) (fun _ => rfl) fun _ => rfl
  | receive => exact frame (pismToReceive_frame q t br) (fun _ => rfl) fun _ => rfl
  | _ => exact of_port rfl rfl

theorem prtsm (v : PrtsmVars) (q : PortRef) (t : Mstid) (s : PrtsmState) (br : Bridge) :
    Louder p br (prtsmTo v q t s br) := by
  have htree : Louder p br (prtsmTree t s br) := by
    cases s <;> exact of_port rfl rfl
  rw [prtsmTo]
  apply after setPtp
  refine after (setPort ?_ ?_) htree
  · exact fun _ => rfl
  · exact fun x hnew => by simp [hnew]

theorem tcsm (q : PortRef) (t : Mstid) (s : TcsmState) (br : Bridge) :
    Louder p br (tcsmTo q t s br) := by
  have hset : ∀ (f : Port → Port) (b : Bridge), (∀ x, txFields (f x) = txFields x) →
      (∀ x, (f x).newInfo = x.newInfo) → Louder p b (b.setPort q f) := fun f b hf hnew =>
    setPort hf fun x h => (hnew x).trans h
  have hclear : ∀ b, Louder p b (resetTopologyChange t b) := fun b => of_port rfl rfl
  have htree : ∀ b, Louder p b (setTcPropTree q t b) := fun b => of_port rfl rfl
  cases s with
  | inactive =>
    rw [tcsmTo, tcsmToInactive]
    refine after (hset _ _ (fun _ => rfl) fun _ => rfl) (after (hclear _) (after setPtp ?_))
    exact after setFdbFlush setPtp
  | learning =>
    rw [tcsmTo, tcsmToLearning]
    exact after setPtp (hset _ _ (fun _ => rfl) fun _ => rfl)
  | detected =>
    rw [tcsmTo, tcsmToDetected]
    exact after setNewInfo (after (htree _) (after newTcWhile setPtp))
  | notifiedTcn => exact after newTcWhile setPtp
  | notifiedTc =>
    rw [tcsmTo, tcsmToNotifiedTc]
    exact after (htree _) (after (hset _ _ (fun _ => rfl) fun _ => rfl) setPtp)
  | propagating =>
    rw [tcsmTo, tcsmToPropagating]
    exact after setPtp (after setFdbFlush (after newTcWhile setPtp))
  | acknowledged =>
    rw [tcsmTo, tcsmToAcknowledged]
    exact after (hset _ _ (fun _ => rfl) fun _ => rfl) (after (hclear _) setPtp)
  | active => exact of_port rfl rfl

end Louder

/-! ## Hello times -/

/-- No hello is further away than the hello time. -/
def HellosNear (br : Bridge) : Prop := ∀ p, (br.port p).helloWhen ≤ 2

section HellosNear

variable {p q : PortRef} {br b : Bridge}

theorem HellosNear.louder (hi : HellosNear br) (h : ∀ p, Louder p br b) : HellosNear b := by
  intro p
  have hsame : (b.port p).helloWhen = (br.port p).helloWhen := congrArg Prod.fst (h p).fields
  rw [hsame]
  exact hi p

/-- Everything that sending writes. -/
def sendOwned : Owned where
  port x := { ptsmOwned.port x with helloWhen := x.helloWhen }
  out := MstpOut.isTx

/-- Only the idle state starts the time anew. -/
theorem ptsmTo_send {s : PtsmState} (hs : s ≠ .idle) : Frame sendOwned br (ptsmTo q s br) := by
  have htx : ∀ {c d : Bridge}, (d = c ∨ ∃ bpdu size, d = mstpOutTxBpdu q bpdu size c) →
      Frame sendOwned c d := by
    rintro c d (rfl | ⟨bpdu, size, rfl⟩)
    · exact Frame.refl _ _
    · exact Frame.after (Frame.emit rfl) (Frame.setPort fun _ => rfl)
  cases s with
  | idle => exact absurd rfl hs
  | transmitInit =>
    rw [ptsmTo, ptsmToTransmitInit]
    exact Frame.setPort fun _ => rfl
  | transmitPeriodic =>
    rw [ptsmTo, ptsmToTransmitPeriodic]
    exact Frame.setPort fun _ => rfl
  | transmitConfig =>
    rw [ptsmTo, ptsmToTransmitConfig]
    exact Frame.after (Frame.setPort fun _ => rfl)
      (Frame.after (htx txConfig_cases) (Frame.setPort fun _ => rfl))
  | transmitTcn =>
    rw [ptsmTo, ptsmToTransmitTcn]
    exact Frame.after (Frame.setPort fun _ => rfl)
      (Frame.after (htx txTcn_cases) (Frame.setPort fun _ => rfl))
  | transmitRstp =>
    rw [ptsmTo, ptsmToTransmitRstp]
    exact Frame.after (Frame.setPort fun _ => rfl)
      (Frame.after (htx txMstp_cases) (Frame.setPort fun _ => rfl))

theorem ptsmTo_helloWhen {s : PtsmState} (hs : s ≠ .idle) :
    ((ptsmTo q s br).port p).helloWhen = (br.port p).helloWhen :=
  (ptsmTo_send hs).port_eq Port.helloWhen (fun _ => rfl) p

theorem HellosNear.ptsm (hi : HellosNear br) {s : PtsmState}
    (hhello : (br.cist q).portTimes.helloTime = 2) : HellosNear (ptsmTo q s br) := by
  intro p
  by_cases hs : s = .idle
  · subst hs
    simp only [ptsmTo, ptsmToIdle, setPort, hhello]
    split
    · exact Nat.le_refl 2
    · exact hi p
  · rw [ptsmTo_helloWhen hs]
    exact hi p

/-- In a second the hello of a port comes closer. -/
theorem portTick_helloWhen : ((portTick q br).port p).helloWhen =
    (br.port p).helloWhen - if p = q then 1 else 0 := by
  have htimers : ∀ b : Bridge, (forAll (ptpTick q) b.trees b).port p = b.port p := by
    intro b
    apply forAll_inv (I := fun c => c.port p = b.port p)
    · intro t _ c hc
      rw [ptpTick]
      split <;> exact hc
    · rfl
  have hageing : ∀ (b : Bridge) (n : Nat),
      ((b.setPort q fun prt => { prt with rapidAgeingWhile := prt.rapidAgeingWhile - n }).port
        p).helloWhen = (b.port p).helloWhen := by
    intro b n
    simp only [Bridge.setPort]
    split <;> rfl
  rw [portTick, apply_ite Bridge.port, Bridge.emit, ite_self, hageing, htimers]
  by_cases h : p = q <;> simp [Bridge.setPort, h]

theorem bridgeTick_helloWhen :
    ((bridgeTick br).port p).helloWhen = (br.port p).helloWhen - br.ports.count p := by
  have hports : ∀ (l : List PortRef) (b : Bridge),
      ((forAll portTick l b).port p).helloWhen = (b.port p).helloWhen - l.count p := by
    intro l
    induction l with
    | nil => exact fun b => rfl
    | cons q l ih =>
      intro b
      rw [forAll, List.foldl_cons, ← forAll, ih, portTick_helloWhen, List.count_cons]
      by_cases h : p = q
      · subst h
        simp
        omega
      · simp [h, Ne.symm h]
  have htree : ∀ s b, Frame besideTx b (b.setTree s treeTick) := fun _ _ =>
    Frame.setTree fun _ => rfl
  have htrees := Frame.forAll htree br.trees br
  have hsame : (forAll (fun s b => b.setTree s treeTick) br.trees br).port = br.port := by
    apply forAll_inv (I := fun c => c.port = br.port)
    · exact fun _ _ _ hc => hc
    · rfl
  rw [bridgeTick, hports, htrees.ports_same, hsame]

theorem hellosNear_begin : BeginInv HellosNear where
  prsm br q hi _ := hi.louder fun _ =>
    Louder.frame (prsmToDiscard_frame q br) (fun _ => rfl) fun _ => rfl
  ppmsm br q hi _ := hi.louder fun _ =>
    Louder.frame (ppmsmToCheckingRstp_frame q br) (fun _ => rfl) fun _ => rfl
  bdsm br q hi _ := hi.louder fun _ =>
    Louder.frame (bdsmTo_frame q _ br) (fun _ => rfl) fun _ => rfl
  ptsm _ q hi _ := fun p =>
    (ptsmTo_helloWhen (q := q) (s := .transmitInit) PtsmState.noConfusion).le.trans (hi p)
  pism _ _ _ hi _ _ := hi.louder fun _ => Louder.of_port rfl rfl
  initTree br t hi _ := hi.louder fun _ =>
    Louder.frame (prssmToInitTree_frame t br) (fun _ => rfl) fun _ => rfl
  prtsm _ _ _ hi _ _ := hi.louder fun _ => Louder.of_port rfl rfl
  pstsm br q t hi _ _ := hi.louder fun _ =>
    Louder.frame (pstsmTo_frame q t .discarding br) (fun _ => rfl) fun _ => rfl
  tcsm br q t hi _ _ := hi.louder fun _ => Louder.tcsm q t .inactive br

theorem HellosNear.act {a : Act} (hi : HellosNear br) (hg : a.Guard br)
    (hhello : ∀ p ∈ br.ports, (br.cist p).portTimes.helloTime = 2) : HellosNear (a.run br) := by
  cases a with
  | ptsm q s => exact hi.ptsm (hhello q hg.2.1)
  | pism q t s => exact hi.louder fun _ => Louder.pism q t s br
  | prtsm q t s => exact hi.louder fun _ => Louder.prtsm _ q t s br
  | tcsm q t s => exact hi.louder fun _ => Louder.tcsm q t s br
  | tick =>
    intro p
    have htick : ((Act.tick.run br).port p).helloWhen = (br.port p).helloWhen - br.ports.count p :=
      bridgeTick_helloWhen
    rw [htick]
    exact (Nat.sub_le _ _).trans (hi p)
  | createPort q portno name speed duplex =>
    apply hellosNear_begin.port
    · exact fun b t hb _ _ => hb.louder fun _ =>
        Louder.frame (prssmToRoleSelection_frame t b) (fun _ => rfl) fun _ => rfl
    · exact List.mem_append_right _ List.mem_cons_self
    · intro p
      by_cases h : p = q
      · simp [Mstpd.addPort, setPortPtps, Bridge.setPort, portDefaultInternalVars, h]
      · simpa [Mstpd.addPort, setPortPtps, Bridge.setPort, h] using hi p
  | createMsti mstid trees =>
    apply hellosNear_begin.tree
    · exact (insertAfterLast_mem hg.2.2.2.2 mstid).mpr (Or.inl rfl)
    · exact hi
  | switchBridge up =>
    apply hellosNear_begin.bridge
    exact hi.louder fun _ => Louder.frame (resetBridge_frame up br) (fun _ => rfl) fun _ => rfl
  | bridgeAddress | bridgeConfig | tables | configId =>
    apply hellosNear_begin.restart _ rfl hi
    intro b b' hf hb p
    exact (hf.port_eq Port.helloWhen (fun _ => rfl) p).le.trans (hb p)
  | removePort | removeMsti | idleSecond => exact hi
  | _ =>
    intro p
    exact ((Act.frame _ br).port_eq Port.helloWhen (fun _ => rfl) p).le.trans (hi p)

theorem Visited.then {C : Act → Bridge → Prop} {a : Act} (h : Visited C br) (hg : a.Guard br)
    (hC : C a br) : Visited C (a.run br) := by
  obtain ⟨env, macaddr, hlead⟩ := h
  exact ⟨env, macaddr, hlead.trans (Labelled.Leads.act hg hC)⟩

theorem Visited.hellosNear (h : Visited anyAct br) : HellosNear br := by
  have hboth : Visited anyAct br ∧ HelloKept (fun _ _ => False) br ∧ HellosNear br := by
    apply h.inv (I := fun b => Visited anyAct b ∧ HelloKept (fun _ _ => False) b ∧ HellosNear b)
    · intro env macaddr
      refine ⟨⟨env, macaddr, Labelled.Leads.refl _⟩, fun p hp => ?_, fun p => Nat.zero_le 2⟩
      cases hp
    · rintro a b ⟨hv, hkept, hnear⟩ hg -
      refine ⟨hv.then hg trivial, hkept.act hv.configured (fun _ _ h => h.elim) hg, ?_⟩
      exact hnear.act hg fun p hp => (hkept p hp 0 hv.cist_mem).port
  exact hboth.2.2

end HellosNear

/-! ## What a port owes -/

/-- After `k` seconds in which the port has sent nothing. -/
structure Owes (p : PortRef) (k : Nat) (br : Bridge) : Prop where
  hello : (br.port p).helloWhen ≤ 2 - k ∨ (br.port p).newInfo = true
  room : 1 ≤ k → (br.port p).txCount < br.transmitHoldCount
  state : (br.port p).ptsmState = .idle ∨ (br.port p).newInfo = true ∧
    ((br.port p).ptsmState = .transmitInit ∨ (br.port p).ptsmState = .transmitPeriodic)

section Owes

variable {p q : PortRef} {k : Nat} {br b : Bridge}

theorem Owes.louder (hi : Owes p k br) (h : Louder p br b) : Owes p k b := by
  have hfields := h.fields
  simp only [txFields, Prod.mk.injEq] at hfields
  obtain ⟨hwhen, hcount, hstate⟩ := hfields
  constructor
  · rw [hwhen]
    exact hi.hello.imp_right h.newInfo
  · rw [hcount, h.holdCount]
    exact hi.room
  · rw [hstate]
    exact hi.state.imp_right fun hnew => ⟨h.newInfo hnew.1, hnew.2⟩

/-- A machine that begins anew has something to send, and all the room for it. -/
theorem Owes.init (hi : Owes p k br) (hlimit : 1 ≤ br.transmitHoldCount) (q : PortRef) :
    Owes p k (ptsmToTransmitInit q br) := by
  by_cases h : p = q
  · subst h
    constructor <;> simp [ptsmToTransmitInit, Bridge.setPort]
    exact fun _ => hlimit
  · exact hi.louder (Louder.of_port (if_neg h) rfl)

/-- The limit and what is owed. -/
def OwesLimited (p : PortRef) (k : Nat) (br : Bridge) : Prop :=
  1 ≤ br.transmitHoldCount ∧ Owes p k br

theorem OwesLimited.louder (hi : OwesLimited p k br) (h : Louder p br b) : OwesLimited p k b :=
  ⟨h.holdCount ▸ hi.1, hi.2.louder h⟩

theorem owesLimited_begin : BeginInv (OwesLimited p k) where
  prsm br q hi _ := hi.louder (Louder.frame (prsmToDiscard_frame q br) (fun _ => rfl) fun _ => rfl)
  ppmsm br q hi _ :=
    hi.louder (Louder.frame (ppmsmToCheckingRstp_frame q br) (fun _ => rfl) fun _ => rfl)
  bdsm br q hi _ := hi.louder (Louder.frame (bdsmTo_frame q _ br) (fun _ => rfl) fun _ => rfl)
  ptsm _ q hi _ := ⟨hi.1, hi.2.init hi.1 q⟩
  pism _ _ _ hi _ _ := hi.louder (Louder.of_port rfl rfl)
  initTree br t hi _ :=
    hi.louder (Louder.frame (prssmToInitTree_frame t br) (fun _ => rfl) fun _ => rfl)
  prtsm _ _ _ hi _ _ := hi.louder (Louder.of_port rfl rfl)
  pstsm br q t hi _ _ :=
    hi.louder (Louder.frame (pstsmTo_frame q t .discarding br) (fun _ => rfl) fun _ => rfl)
  tcsm br q t hi _ _ := hi.louder (Louder.tcsm q t .inactive br)

/-- A message that is sent cannot be called back. -/
theorem sent_begin {n : Nat} : BeginInv fun b => n ≤ sent p b := by
  have hsame : ∀ {b b' : Bridge}, Frame besideTx b b' → n ≤ sent p b → n ≤ sent p b' := by
    intro b b' hf hb
    rwa [hf.sent_eq (fun _ _ _ => rfl) p]
  constructor
  · exact fun br q hi _ => hsame (prsmToDiscard_frame q br).mono hi
  · exact fun br q hi _ => hsame (ppmsmToCheckingRstp_frame q br).mono hi
  · exact fun br q hi _ => hsame (bdsmBegin_beside q br) hi
  · exact fun _ _ hi _ => hi
  · exact fun br q t hi _ _ => hsame (pismBegin_frame q t br).mono hi
  · exact fun br t hi _ => hsame (prssmToInitTree_frame t br).mono hi
  · exact fun br q t hi _ _ => hsame (prtsmToInitPort_frame q t br).mono hi
  · exact fun br q t hi _ _ => hsame (pstsmTo_frame q t .discarding br).mono hi
  · exact fun br q t hi _ _ => hsame (tcsmToInactive_frame q t br).mono hi

/-- The port may send: nothing has the transmit functions return early. -/
def MaySend (p : PortRef) (br : Bridge) : Prop :=
  (br.cist p).role = .designated ∧ (br.port p).deleted = false ∧ (br.port p).dontTxmtBpdu = false

instance (p : PortRef) (br : Bridge) : Decidable (MaySend p br) :=
  inferInstanceAs (Decidable ((br.cist p).role = .designated ∧ (br.port p).deleted = false ∧
    (br.port p).dontTxmtBpdu = false))

theorem txConfig_sends (h : txSuppressed br p = false) :
    ∃ bpdu size, txConfig p br = mstpOutTxBpdu p bpdu size br := by
  rw [txConfig, h]
  exact ⟨_, _, rfl⟩

theorem txTcn_sends (h : txSuppressed br p = false) :
    ∃ bpdu size, txTcn p br = mstpOutTxBpdu p bpdu size br := by
  rw [txTcn, h]
  exact ⟨_, _, rfl⟩

theorem txMstp_sends (h : txSuppressed br p = false) :
    ∃ bpdu size, txMstp p br = mstpOutTxBpdu p bpdu size br := by
  rw [txMstp, h]
  exact ⟨_, _, rfl⟩

theorem transmission_sends {tx : Bridge → Bridge} {before after : Port → Port}
    (htx : ∃ bpdu size, tx (br.setPort p before) =
      mstpOutTxBpdu p bpdu size (br.setPort p before)) :
    sent p ((tx (br.setPort p before)).setPort p after) = sent p br + 1 := by
  obtain ⟨bpdu, size, htx⟩ := htx
  rw [htx]
  exact (mstpOutTxBpdu_sent bpdu size).trans (by rw [if_pos rfl]; rfl)

/-- A port that may send does when its machine enters a state that transmits. -/
theorem ptsmTo_sends {s : PtsmState} (hmay : MaySend p br) (hs : s.transmits = true) :
    sent p (ptsmTo p s br) = sent p br + 1 := by
  obtain ⟨hrole, hdeleted, hsilent⟩ := hmay
  have hfree : ∀ f : Port → Port, (∀ x, (f x).deleted = x.deleted) →
      (∀ x, (f x).dontTxmtBpdu = x.dontTxmtBpdu) → txSuppressed (br.setPort p f) p = false := by
    intro f hdel hdont
    have hcist : (br.setPort p f).cist p = br.cist p := rfl
    rw [txSuppressed, setPort_self, hcist, hdel, hdont, hdeleted, hsilent, hrole]
    rfl
  cases s with
  | transmitConfig =>
    rw [ptsmTo, ptsmToTransmitConfig]
    apply transmission_sends
    exact txConfig_sends (hfree _ (fun _ => rfl) fun _ => rfl)
  | transmitTcn =>
    rw [ptsmTo, ptsmToTransmitTcn]
    apply transmission_sends
    exact txTcn_sends (hfree _ (fun _ => rfl) fun _ => rfl)
  | transmitRstp =>
    rw [ptsmTo, ptsmToTransmitRstp]
    apply transmission_sends
    exact txMstp_sends (hfree _ (fun _ => rfl) fun _ => rfl)
  | _ => cases hs

/-- A transition sends at most one BPDU and calls none back. -/
theorem ptsmTo_sent (s : PtsmState) : sent p br ≤ sent p (ptsmTo q s br) := by
  have htx : ∀ {tx : Bridge → Bridge} {before after : Port → Port},
      (∀ b, tx b = b ∨ ∃ bpdu size, tx b = mstpOutTxBpdu q bpdu size b) →
      sent p br ≤ sent p ((tx (br.setPort q before)).setPort q after) := by
    intro tx before after h
    rcases h (br.setPort q before) with hstay | ⟨bpdu, size, hsend⟩
    · rw [hstay]
      exact Nat.le_refl _
    · rw [hsend]
      exact (Nat.le_add_right _ _).trans (mstpOutTxBpdu_sent bpdu size).ge
  cases s with
  | transmitConfig => exact htx fun _ => txConfig_cases
  | transmitTcn => exact htx fun _ => txTcn_cases
  | transmitRstp => exact htx fun _ => txMstp_cases
  | _ => exact Nat.le_refl _

theorem act_sent {a : Act} (hg : a.Guard br) : sent p br ≤ sent p (a.run br) := by
  have hbegin := sent_begin (p := p) (n := sent p br)
  have hstart : sent p br ≤ sent p br := Nat.le_refl _
  cases a with
  | ptsm q s => exact ptsmTo_sent s
  | createPort q portno name speed duplex =>
    apply hbegin.port
    · intro b t hb _ _
      have hf : Frame besideTx b (prssmToRoleSelection t b) := (prssmToRoleSelection_frame t b).mono
      rwa [hf.sent_eq (fun _ _ _ => rfl) p]
    · exact List.mem_append_right _ List.mem_cons_self
    · exact hstart
  | switchBridge up =>
    apply hbegin.bridge
    rw [(resetBridge_frame up br).sent_eq (fun _ _ _ => rfl) p]
  | bridgeAddress | bridgeConfig | tables | configId =>
    apply hbegin.restart _ rfl hstart
    intro b b' hf hb
    rwa [hf.sent_eq (fun _ _ _ => rfl) p]
  | tick => exact ((Act.frame .tick br).sent_eq (fun _ _ _ => rfl) p).ge
  | removePort q => exact hstart
  | _ => exact ((Act.beside_tx rfl br).sent_eq (fun _ _ _ => rfl) p).ge

/-- The port is kept, and may send whenever its transmit machine moves. -/
def Talks (p : PortRef) : Act → Bridge → Prop
  | .removePort q, _ => q ≠ p
  | .ptsm q _, br => q = p → MaySend p br
  | _, _ => True

instance (p : PortRef) (br : Bridge) : (a : Act) → Decidable (Talks p a br) := fun a => by
  cases a <;> unfold Talks <;> infer_instance

/-- What is owed after a transition that sends nothing. -/
theorem OwesLimited.ptsm {s : PtsmState} (hi : OwesLimited p k br) (hnext : ptsmNext br p = some s)
    (hmay : MaySend p br) :
    sent p br < sent p (ptsmTo p s br) ∨ OwesLimited p k (ptsmTo p s br) := by
  by_cases hs : s.transmits = true
  · exact Or.inl (by rw [ptsmTo_sends hmay hs]; omega)
  · refine Or.inr ?_
    have hcount := (@ptsmTo_counts p p br s).1
    have hhold : (ptsmTo p s br).transmitHoldCount = br.transmitHoldCount :=
      (ptsmTo_frame p s br).config_eq Bridge.transmitHoldCount fun _ => rfl
    cases s with
    | transmitInit => exact ⟨hi.1, hi.2.init hi.1 p⟩
    | transmitPeriodic =>
      have hnew : ((ptsmTo p .transmitPeriodic br).port p).newInfo = true := by
        simp [ptsmTo, ptsmToTransmitPeriodic, Bridge.setPort, keepsTalking, hmay.1]
      refine ⟨hhold ▸ hi.1, Or.inr hnew, fun hk => ?_, Or.inr ⟨hnew, Or.inr (ptsmTo_state _)⟩⟩
      rw [hcount, hhold]
      exact hi.2.room hk
    | idle =>
      have hup : (br.port p).portEnabled = true := by
        by_contra hdown
        rw [Bool.not_eq_true] at hdown
        simp [ptsmNext, hdown] at hnext
      have hnew : (br.port p).newInfo = true := by
        rcases ptsmNext_cases hup hnext with ⟨hstate, -⟩ | ⟨-, ⟨-, hno⟩ | ⟨-, hno⟩⟩
        · exact (hi.2.state.resolve_left hstate).1
        · cases hno
        · cases hno
      have hkept : ((ptsmTo p .idle br).port p).newInfo = true := by
        simpa [ptsmTo, ptsmToIdle, Bridge.setPort] using hnew
      refine ⟨hhold ▸ hi.1, Or.inr hkept, fun hk => ?_, Or.inl (ptsmTo_state _)⟩
      rw [hcount, hhold]
      exact hi.2.room hk
    | _ => exact absurd rfl hs

theorem OwesLimited.tick (hi : OwesLimited p k br) (hp : p ∈ br.ports) (hlimit : HoldLimited br) :
    OwesLimited p (k + 1) (Act.tick.run br) := by
  have hwhen : ((Act.tick.run br).port p).helloWhen = (br.port p).helloWhen - br.ports.count p :=
    bridgeTick_helloWhen
  have hcount : ((Act.tick.run br).port p).txCount = (br.port p).txCount - br.ports.count p :=
    bridgeTick_txCount
  have hf := Act.frame .tick br
  have hsame := hf.port_eq (fun x => (x.ptsmState, x.newInfo)) (fun _ => rfl) p
  have hhold : (Act.tick.run br).transmitHoldCount = br.transmitHoldCount :=
    hf.config_eq Bridge.transmitHoldCount fun _ => rfl
  have hmost := hlimit p hp
  have hone : 1 ≤ br.ports.count p := List.count_pos_iff.mpr hp
  have hroom := hi.1
  rw [Prod.mk.injEq] at hsame
  obtain ⟨hstate, hnew⟩ := hsame
  refine ⟨hhold ▸ hi.1, ?_, fun _ => ?_, ?_⟩
  · rw [hwhen, hnew]
    exact hi.2.hello.imp_left fun hnear => by omega
  · rw [hcount, hhold]
    omega
  · rw [hstate, hnew]
    exact hi.2.state

theorem OwesLimited.bridgeConfig (hi : OwesLimited p k br) (hp : p ∈ br.ports)
    {cfg : CistBridgeConfig} (hlimit : 1 ≤ (writeBridgeConfig cfg br).transmitHoldCount) :
    OwesLimited p k (writeBridgeConfig cfg br) := by
  have hf := (writeBridgeConfig_opFrame cfg br).frame
  cases hchange : holdCountChanges cfg br with
  | false =>
    exact hi.louder (Louder.apart (writeBridgeConfig_beside hchange) hf fun _ => rfl)
  | true =>
    have hsame := hf.port_eq (fun x => (x.helloWhen, x.ptsmState, x.newInfo)) (fun _ => rfl) p
    simp only [Prod.mk.injEq] at hsame
    obtain ⟨hwhen, hstate, hnew⟩ := hsame
    refine ⟨hlimit, ?_, fun _ => ?_, ?_⟩
    · rw [hwhen, hnew]
      exact hi.2.hello
    · rw [writeBridgeConfig_reset hchange hp]
      exact hlimit
    · rw [hstate, hnew]
      exact hi.2.state

/-- With an action the port sends something, or owes what it owed. -/
theorem OwesLimited.act {a : Act} (hi : OwesLimited p k br) (hv : Visited anyAct br)
    (hp : p ∈ br.ports) (hg : a.Guard br) (hC : Talks p a br) :
    sent p br < sent p (a.run br) ∨ OwesLimited p (k + a.seconds) (a.run br) := by
  have hbegin := owesLimited_begin (p := p) (k := k)
  cases a with
  | ptsm q s =>
    by_cases h : q = p
    · subst h
      exact hi.ptsm hg.2.2 (hC rfl)
    · have hhold : (ptsmTo q s br).transmitHoldCount = br.transmitHoldCount :=
        (ptsmTo_frame q s br).config_eq Bridge.transmitHoldCount fun _ => rfl
      exact Or.inr (hi.louder (Louder.of_port (ptsmTo_untouched (Ne.symm h) br s).1 hhold))
  | tick => exact Or.inr (hi.tick hp hv.holdLimited)
  | pism q t s => exact Or.inr (hi.louder (Louder.pism q t s br))
  | prtsm q t s => exact Or.inr (hi.louder (Louder.prtsm _ q t s br))
  | tcsm q t s => exact Or.inr (hi.louder (Louder.tcsm q t s br))
  | createPort q portno name speed duplex =>
    refine Or.inr (hbegin.port ?_ (List.mem_append_right _ List.mem_cons_self) ?_)
    · exact fun b t hb _ _ =>
        hb.louder (Louder.frame (prssmToRoleSelection_frame t b) (fun _ => rfl) fun _ => rfl)
    · have hne : p ≠ q := fun h => hg.1 (h ▸ hp)
      exact hi.louder (Louder.of_port (if_neg hne) rfl)
  | createMsti mstid trees =>
    refine Or.inr (hbegin.tree ?_ (hi.louder (Louder.of_port rfl rfl)))
    exact (insertAfterLast_mem hg.2.2.2.2 mstid).mpr (Or.inl rfl)
  | switchBridge up =>
    refine Or.inr (hbegin.bridge (hi.louder ?_))
    exact Louder.frame (resetBridge_frame up br) (fun _ => rfl) fun _ => rfl
  | bridgeAddress macaddr =>
    refine Or.inr (hbegin.ite (hi.louder ?_))
    exact Louder.apart (writeAddress_beside macaddr br) (writeAddress_frame macaddr br) fun _ => rfl
  | tables env changed vid2fid fid2mstid =>
    refine Or.inr (hbegin.ite (hi.louder ?_))
    exact Louder.apart (writeTables_beside env changed vid2fid fid2mstid br)
      (writeTables_frame env changed vid2fid fid2mstid br) fun _ => rfl
  | configId revision name =>
    refine Or.inr (hbegin.bridge (hi.louder ?_))
    exact Louder.apart (writeConfigId_beside revision name br)
      (writeConfigId_frame revision name br) fun _ => rfl
  | bridgeConfig cfg =>
    refine Or.inr (hbegin.ite (hi.bridgeConfig hp ?_))
    have hafter := (hv.then hg trivial).configured.parameters.transmitHoldCount.1
    rwa [Act.run, apply_ite Bridge.transmitHoldCount,
      (bridgeBegin_machines _).config_eq Bridge.transmitHoldCount fun _ => rfl, ite_self] at hafter
  | removePort | removeMsti | idleSecond => exact Or.inr ⟨hi.1, hi.2.hello, hi.2.room, hi.2.state⟩
  | _ =>
    exact Or.inr (hi.louder (Louder.apart (Act.beside_tx rfl br) (Act.frame _ br) fun _ => rfl))

/-- What is owed after a part of a run. -/
theorem run_owes {l : List Act} (hv : Visited anyAct br) (hp : p ∈ br.ports)
    (hi : OwesLimited p k br) (hl : bridgeActs.Fires (Talks p) l br) :
    sent p br < sent p (bridgeActs.after l br) ∨
      OwesLimited p (k + secondsIn l) (bridgeActs.after l br) := by
  have hmore : ∀ {l : List Act} {b : Bridge}, bridgeActs.Fires (Talks p) l b →
      sent p b ≤ sent p (bridgeActs.after l b) := fun hl =>
    hl.inv (I := fun c => sent p _ ≤ sent p c) (fun _ _ hc hg _ => hc.trans (act_sent hg))
      (Nat.le_refl _)
  induction l generalizing br k with
  | nil => exact Or.inr hi
  | cons a l ih =>
    obtain ⟨hg, hC, hrest⟩ := hl
    have hp' : p ∈ (a.run br).ports := by
      refine Act.ports_keep hg hp ?_
      rintro rfl
      exact hC rfl
    rcases hi.act hv hp hg hC with hsent | howes
    · exact Or.inl (hsent.trans_le (hmore hrest))
    · rcases ih (hv.then hg trivial) hp' howes hrest with hsent | hend
      · exact Or.inl ((act_sent hg).trans_lt hsent)
      · rw [secondsIn, ← Nat.add_assoc]
        exact Or.inr hend

/-- The transmit machine of a Designated port that is up has nothing to do, and all trees are in
effect. -/
structure RestsDesignated (p : PortRef) (br : Bridge) : Prop where
  rests : ptsmDry br p = false
  enabled : (br.port p).portEnabled = true
  ready : allTransmitReady br p = true
  unfiltered : (br.port p).bpduFilterPort = false
  role : (br.cist p).role = .designated

/-- A machine that rests owes what is left of the hello time. -/
theorem owes_rests (hv : Visited anyAct br) (hrests : ptsmDry br p = false) :
    OwesLimited p 0 br := by
  refine ⟨hv.configured.parameters.transmitHoldCount.1, Or.inl (hv.hellosNear p), nofun, ?_⟩
  cases hup : (br.port p).portEnabled with
  | false =>
    have hinit := (ptsmDry_disabled hup).mp hrests
    exact Or.inr ⟨hinit.2.1, Or.inl hinit.1⟩
  | true =>
    refine Or.inl ?_
    by_contra hstate
    have hnext : ptsmNext br p = some .idle := by
      rw [ptsmNext]
      cases hs : (br.port p).ptsmState <;> simp_all
    rw [ptsmDry, hnext] at hrests
    cases hrests

/-- After two seconds a Designated port cannot rest and owe. -/
theorem RestsDesignated.nothing_owed (hrest : RestsDesignated p br) (hk : 2 ≤ k) :
    ¬ OwesLimited p k br := by
  rintro ⟨-, hello, room, state⟩
  have hnone : ptsmNext br p = none := by
    have hdry := hrest.rests
    rw [ptsmDry_enabled hrest.enabled, ptsmStep, Option.isSome_map] at hdry
    simpa using hdry
  have hidle : (br.port p).ptsmState = .idle := by
    by_contra hstate
    rw [ptsmNext] at hnone
    simp only [hrest.enabled] at hnone
    cases hs : (br.port p).ptsmState <;> simp_all
  have hroom := room (by omega)
  rw [ptsmNext] at hnone
  simp only [hrest.enabled, hidle, hrest.ready, hrest.unfiltered, hrest.role, hroom] at hnone
  rcases hello with hwhen | hnew
  · have hnow : (br.port p).helloWhen = 0 := by omega
    simp [hnow] at hnone
  · by_cases hnow : (br.port p).helloWhen = 0
    · simp [hnow] at hnone
    · cases hmode : (br.port p).sendRSTP <;> simp [hnow, hnew, hmode] at hnone

/-- Between two states in which the transmit machine of a port has nothing to do, and in the second
of which the port is Designated, the port has sent a BPDU if two seconds have passed, whatever else
has happened, provided that it could send whenever its machine moved. -/
theorem hello_sent (hv : Visited anyAct br) (hp : p ∈ br.ports) (hrests : ptsmDry br p = false)
    {l : List Act} (hl : bridgeActs.Fires (Talks p) l br) (hlong : 2 ≤ secondsIn l)
    (hend : RestsDesignated p (bridgeActs.after l br)) :
    sent p br < sent p (bridgeActs.after l br) := by
  rcases run_owes hv hp (owes_rests hv hrests) hl with hsent | howes
  · exact hsent
  · refine absurd howes (hend.nothing_owed ?_)
    rwa [Nat.zero_add]

end Owes

theorem heldPort_hello_sent : ∃ br, Visited anyAct br ∧ secondsIn nextHello = 2 ∧
    sent 1 br < sent 1 (bridgeActs.after nextHello br) := by
  have hrun : (sampleRun heldPortOps).any (fun br => br.ports.contains 1 && !ptsmDry br 1 &&
      (bridgeActs.attempt (Talks 1) nextHello br).any fun b =>
        !ptsmDry b 1 && (b.port 1).portEnabled && allTransmitReady b 1 &&
          !(b.port 1).bpduFilterPort && decide ((b.cist 1).role = .designated)) = true := by
    decide +kernel
  obtain ⟨br, hbr, hprop⟩ := (Option.any_eq_true _ _).mp hrun
  simp only [Bool.and_eq_true, Bool.not_eq_true', List.contains_iff_mem] at hprop
  obtain ⟨⟨hp, hrests⟩, htwo⟩ := hprop
  obtain ⟨b, hb, hprop⟩ := (Option.any_eq_true _ _).mp htwo
  simp only [Bool.and_eq_true, Bool.not_eq_true', decide_eq_true_eq] at hprop
  obtain ⟨⟨⟨⟨hdry, hup⟩, hready⟩, hfilter⟩, hrole⟩ := hprop
  obtain ⟨hfires, rfl⟩ := Labelled.attempt_fires hb
  have hv := (sampleRun_reachable (A := anyOp) (fun _ _ => trivial) hbr).visitedAt.visited
  exact ⟨br, hv, rfl, hello_sent hv hp hrests hfires (Nat.le_refl 2)
    ⟨hdry, hup, hready, hfilter, hrole⟩⟩

end Mstpd
