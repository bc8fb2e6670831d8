import Mstpd.HelloTimes
import Mstpd.Readiness
import Mstpd.TopologyFlag

/-!
# Information ages

Received information is used for three hello times at most, whatever times the messages carried.
A port that hears nothing for so long has none left when the machines come to rest, so that it is
no longer a port towards the root.
-/

namespace Mstpd

open Bridge Machine

/-! ## The life time of information -/

/-- Six seconds is the life time of any information. -/
def InfoTimed (br : Bridge) : Prop :=
  ∀ p ∈ br.ports, ∀ t ∈ br.trees, (br.ptp p t).rcvdInfoWhile ≤ 6

section Lifetime

variable {br b : Bridge} {p : PortRef} {t : Mstid}

theorem updtRcvdInfoWhile_most (hhello : (br.cist p).portTimes.helloTime = 2) :
    ((updtRcvdInfoWhile p t br).ptp p t).rcvdInfoWhile ≤ 6 := by
  rw [updtRcvdInfoWhile, setPtp_self, hhello]
  dsimp only
  split
  · exact Nat.le_refl 6
  · exact Nat.zero_le 6

/-- What is recorded before the life time is that of the message, but for the hello time. -/
theorem helloTime_kept (hf : Frame besideHello br b)
    (hhello : (br.cist p).portTimes.helloTime = 2) : (b.cist p).portTimes.helloTime = 2 :=
  (hf.ptp_eq (fun x => x.portTimes.helloTime) (fun _ => rfl) p 0).trans hhello

/-- The flags of a message are no reason to use information for longer. -/
theorem flags_infoWhile (hf : Frame flagsOwned br b) :
    (b.ptp p t).rcvdInfoWhile = (br.ptp p t).rcvdInfoWhile :=
  hf.ptp_eq PerTreePort.rcvdInfoWhile (fun _ => rfl) p t

theorem pismTo_infoWhile {s : PismState} (hhello : (br.cist p).portTimes.helloTime = 2)
    (h : (br.ptp p t).rcvdInfoWhile ≤ 6) : ((pismTo p t s br).ptp p t).rcvdInfoWhile ≤ 6 := by
  cases s with
  | superiorDesignated =>
    rw [pismTo, pismToSuperiorDesignated, setPtp_self]
    apply updtRcvdInfoWhile_most
    refine helloTime_kept ?_ hhello
    refine Frame.after (Frame.setPtp fun _ => rfl) (Frame.after (Frame.setPtp fun _ => rfl) ?_)
    refine Frame.after (Frame.setPtp fun _ => rfl) ?_
    apply Frame.after (recordAgreement_frame p t _).mono
    refine Frame.after (Frame.setPtp fun _ => rfl) ?_
    apply Frame.after (setTcFlags_frame p t _).mono
    apply Frame.after (recordProposal_frame p t _).mono
    exact Frame.after (Frame.setPtp fun _ => rfl) (Frame.setPort fun _ => rfl)
  | repeatedDesignated =>
    rw [pismTo, pismToRepeatedDesignated, setPtp_self]
    apply updtRcvdInfoWhile_most
    refine helloTime_kept ?_ hhello
    apply Frame.after (recordAgreement_frame p t _).mono
    apply Frame.after (setTcFlags_frame p t _).mono
    apply Frame.after (recordProposal_frame p t _).mono
    exact Frame.after (Frame.setPtp fun _ => rfl) (Frame.setPort fun _ => rfl)
  | inferiorDesignated =>
    rw [pismTo, pismToInferiorDesignated, setPtp_self]
    exact (flags_infoWhile (recordDispute_flags p t br)).le.trans h
  | notDesignated =>
    rw [pismTo, pismToNotDesignated, setPtp_self]
    have hboth := Frame.after (setTcFlags_flags p t _) (recordAgreement_flags p t br)
    exact (flags_infoWhile hboth).le.trans h
  | receive =>
    have hread : Frame flagsOwned br (rcvInfo p t br).2 := rcvInfo_flags p t br
    rw [pismTo, pismToReceive, flags_infoWhile (recordMastered_flags p t _), setPtp_self]
    exact (flags_infoWhile hread).le.trans h
  | disabled => simp [pismTo, pismToDisabled]
  | aged => simpa [pismTo, pismToAged] using h
  | update => simpa [pismTo, pismToUpdate, setNewInfo, setPort] using h
  | other => simpa [pismTo, pismToOther] using h
  | current => simpa [pismTo, pismToCurrent] using h

end Lifetime

/-! ## A second -/

section Ticks

variable {br : Bridge} {p q : PortRef} {t s : Mstid} {n : Nat}

theorem ptpTick_infoWhile : ((ptpTick q s br).ptp p t).rcvdInfoWhile =
    if p = q ∧ t = s then (br.ptp p t).rcvdInfoWhile - 1 else (br.ptp p t).rcvdInfoWhile := by
  have hset : (ptpTick q s br).ptp p t = (br.setPtp q s secondLater).ptp p t := by
    change (if (br.ptp q s).tcWhile == 1 then
      resetTopologyChange s (br.setPtp q s secondLater) else br.setPtp q s secondLater).ptp p t = _
    split <;> rfl
  rw [hset]
  by_cases hself : p = q ∧ t = s
  · obtain ⟨rfl, rfl⟩ := hself
    rw [setPtp_self, if_pos ⟨rfl, rfl⟩]
    rfl
  · rw [if_neg hself]
    exact congrArg PerTreePort.rcvdInfoWhile (if_neg hself)

theorem ptpTick_infoMost (h : (br.ptp p t).rcvdInfoWhile ≤ n) :
    ((ptpTick q s br).ptp p t).rcvdInfoWhile ≤ n := by
  rw [ptpTick_infoWhile]
  split <;> omega

theorem portTick_infoMost (h : (br.ptp p t).rcvdInfoWhile ≤ n) :
    ((portTick q br).ptp p t).rcvdInfoWhile ≤ n := by
  have hall : ∀ b l, (b.ptp p t).rcvdInfoWhile ≤ n →
      ((forAll (ptpTick q) l b).ptp p t).rcvdInfoWhile ≤ n := fun b l hb =>
    forAll_inv (I := fun c => (c.ptp p t).rcvdInfoWhile ≤ n) (l := l)
      (fun _ _ _ hc => ptpTick_infoMost hc) hb
  rw [portTick]
  split
  · exact hall _ _ h
  · exact hall _ _ h

/-- Of the port's own second, each tree gets its part. -/
theorem portTick_infoWhile (ht : t ∈ br.trees) (h : (br.ptp p t).rcvdInfoWhile ≤ n + 1) :
    ((portTick p br).ptp p t).rcvdInfoWhile ≤ n := by
  have hall : ∀ b : Bridge, (b.ptp p t).rcvdInfoWhile ≤ n + 1 →
      ((forAll (ptpTick p) br.trees b).ptp p t).rcvdInfoWhile ≤ n := by
    intro b hb
    refine forAll_reaches_of (I := fun c => (c.ptp p t).rcvdInfoWhile ≤ n)
      (J := fun c => (c.ptp p t).rcvdInfoWhile ≤ n + 1) ht ?_ ?_ ?_ hb
    · exact fun _ _ hc => ptpTick_infoMost hc
    · intro c hc
      rw [ptpTick_infoWhile, if_pos ⟨rfl, rfl⟩]
      omega
    · exact fun _ _ hc => ptpTick_infoMost hc
  rw [portTick]
  split
  · exact hall _ h
  · exact hall _ h

/-- The part of the trees in a second. -/
theorem treeTicks_kept (l : List Mstid) (br : Bridge) :
    let b := forAll (fun s b => b.setTree s treeTick) l br
    b.ports = br.ports ∧ b.trees = br.trees ∧ b.ptp = br.ptp := by
  intro b
  apply forAll_inv (I := fun c => c.ports = br.ports ∧ c.trees = br.trees ∧ c.ptp = br.ptp)
  · exact fun _ _ _ hc => hc
  · exact ⟨rfl, rfl, rfl⟩

theorem bridgeTick_infoWhile (hp : p ∈ br.ports) (ht : t ∈ br.trees)
    (h : (br.ptp p t).rcvdInfoWhile ≤ n + 1) : ((bridgeTick br).ptp p t).rcvdInfoWhile ≤ n := by
  obtain ⟨hports, htrees, hptp⟩ := treeTicks_kept br.trees br
  rw [bridgeTick]
  refine forAll_reaches_of (I := fun b => (b.ptp p t).rcvdInfoWhile ≤ n)
    (J := fun b => t ∈ b.trees ∧ (b.ptp p t).rcvdInfoWhile ≤ n + 1)
    (hports.symm ▸ hp) ?_ ?_ ?_ ⟨htrees.symm ▸ ht, hptp.symm ▸ h⟩
  · exact fun q b hb => ⟨(portTick_frame q b).trees_eq.symm ▸ hb.1, portTick_infoMost hb.2⟩
  · exact fun b hb => portTick_infoWhile hb.1 hb.2
  · exact fun _ _ hb => portTick_infoMost hb

theorem bridgeTick_infoMost (h : (br.ptp p t).rcvdInfoWhile ≤ n) :
    ((bridgeTick br).ptp p t).rcvdInfoWhile ≤ n := by
  obtain ⟨-, -, hptp⟩ := treeTicks_kept br.trees br
  rw [bridgeTick]
  exact forAll_inv (I := fun b => (b.ptp p t).rcvdInfoWhile ≤ n)
    (fun _ _ _ hb => portTick_infoMost hb) (hptp.symm ▸ h)

end Ticks

/-! ## What actions do to it -/

section InfoTimed

variable {br br' : Bridge}

theorem InfoTimed.frame (hi : InfoTimed br) {o : Owned} (hf : Frame o br br')
    (hlists : ∀ b : Bridge, ((o.config b.config).ports, (o.config b.config).trees) =
      (b.ports, b.trees))
    (ho : ∀ x, (o.ptp x).rcvdInfoWhile = x.rcvdInfoWhile) : InfoTimed br' := by
  have hl := hf.config_eq (fun b => (b.ports, b.trees)) hlists
  simp only [Prod.mk.injEq] at hl
  intro p hp t ht
  rw [hf.ptp_eq PerTreePort.rcvdInfoWhile ho p t]
  exact hi p (hl.1 ▸ hp) t (hl.2 ▸ ht)

theorem infoTimed_begin : BeginInv InfoTimed :=
  BeginInv.of_pism (fun _ _ hf hi => hi.frame hf (fun _ => rfl) fun _ => rfl) fun b p t hi _ _ => by
    intro q hq u hu
    rw [(pismBegin_frame p t b).ports_eq] at hq
    rw [(pismBegin_frame p t b).trees_eq] at hu
    by_cases h : q = p ∧ u = t
    · obtain ⟨rfl, rfl⟩ := h
      simp [pismBegin, pismToDisabled]
    · have hsame : (pismBegin p t b).ptp q u = b.ptp q u := by
        simp only [pismBegin, pismToDisabled, Bridge.setPtp, if_neg h]
      rw [hsame]
      exact hi q hq u hu

theorem InfoTimed.addPort {p : PortRef} {portno : UInt16} {name : String} {speed duplex : Int}
    (hi : InfoTimed br) : InfoTimed (addPort p portno name speed duplex br) := by
  intro q hq u hu
  by_cases h : q = p
  · subst h
    have hmem : u ∈ br.trees := hu
    simp [Mstpd.addPort, setPortPtps, setPort, hmem, createPtp, ptpDefaultInternalVars]
  · have hold : q ∈ br.ports := by
      rcases List.mem_append.mp hq with hmem | hmem
      · exact hmem
      · exact absurd (List.mem_singleton.mp hmem) h
    have hsame : (Mstpd.addPort p portno name speed duplex br).ptp q u = br.ptp q u := by
      simp [Mstpd.addPort, setPortPtps, setPort, h]
    rw [hsame]
    exact hi q hold u hu

theorem InfoTimed.addTree {mstid : UInt16} {trees : List Mstid} (hi : InfoTimed br)
    (htrees : insertAfterLast (fun s => decide (s < mstid)) mstid br.trees = some trees) :
    InfoTimed (addTree mstid trees br) := by
  intro q hq u hu
  by_cases h : u = mstid
  · subst h
    have hmem : q ∈ br.ports := hq
    simp [Mstpd.addTree, setTreePtps, setTree, hmem, createPtp, ptpDefaultInternalVars]
  · have hold : u ∈ br.trees := ((insertAfterLast_mem htrees u).mp hu).resolve_left h
    have hsame : (Mstpd.addTree mstid trees br).ptp q u = br.ptp q u := by
      simp [Mstpd.addTree, setTreePtps, setTree, h]
    rw [hsame]
    exact hi q hq u hold

theorem InfoTimed.act {a : Act} (hi : InfoTimed br) (hg : a.Guard br)
    (hhello : ∀ p ∈ br.ports, (br.cist p).portTimes.helloTime = 2) : InfoTimed (a.run br) := by
  cases a with
  | pism p t s =>
    intro q hq u hu
    replace hq : q ∈ br.ports := (pismTo_frame p t s br).ports_eq ▸ hq
    replace hu : u ∈ br.trees := (pismTo_frame p t s br).trees_eq ▸ hu
    by_cases h : q = p ∧ u = t
    · obtain ⟨rfl, rfl⟩ := h
      exact pismTo_infoWhile (hhello q hq) (hi q hq u hu)
    · exact ((pismTo_local p t s br).eq PerTreePort.rcvdInfoWhile (fun _ => rfl) h).le.trans
        (hi q hq u hu)
  | createPort p portno name speed duplex =>
    apply infoTimed_begin.port
    · exact fun b t hb _ _ => hb.frame (prssmToRoleSelection_frame t b) (fun _ => rfl) fun _ => rfl
    · exact List.mem_append_right _ List.mem_cons_self
    · exact hi.addPort
  | createMsti mstid trees =>
    apply infoTimed_begin.tree
    · exact (insertAfterLast_mem hg.2.2.2.2 mstid).mpr (Or.inl rfl)
    · exact hi.addTree hg.2.2.2.2
  | switchBridge up =>
    apply infoTimed_begin.bridge
    exact hi.frame (resetBridge_frame up br) (fun _ => rfl) fun _ => rfl
  | removePort p => exact fun q hq u hu => hi q (List.mem_of_mem_erase hq) u hu
  | removeMsti mstid => exact fun q hq u hu => hi q hq u (List.mem_of_mem_erase hu)
  | bridgeAddress | bridgeConfig | tables | configId =>
    exact infoTimed_begin.restart (fun _ _ hf hb => hb.frame hf (fun _ => rfl) fun _ => rfl) rfl hi
  | tick =>
    intro q hq u hu
    have hf := Act.frame .tick br
    apply bridgeTick_infoMost
    refine hi q ?_ u ?_
    · exact (hf.config_eq Bridge.ports fun _ => rfl) ▸ hq
    · exact (hf.config_eq Bridge.trees fun _ => rfl) ▸ hu
  | idleSecond => exact hi
  | _ => exact hi.frame (Act.frame _ br) (fun _ => rfl) fun _ => rfl

theorem VisitedAt.infoTimed {C : Act → Bridge → Prop} {k : Phase} (h : VisitedAt C k br) :
    InfoTimed br := by
  refine h.inv (I := fun _ b => InfoTimed b) ?_ ?_ fun _ _ _ hi _ _ => hi
  · intro env macaddr p hp
    cases hp
  · intro a k b hv hi hg _ _
    exact hi.act hg fun p hp => (hv.helloKept p hp 0 hv.visited.cist_mem).port

end InfoTimed

/-! ## A port that hears nothing -/

/-- What decides whether information of an entry is still used. -/
def ageFields (x : PerTreePort) : Bool × PismState × InfoOrigin × Nat :=
  (x.rcvdMsg, x.pismState, x.infoIs, x.rcvdInfoWhile)

/-- The port has no message for the tree, and received information is used for `n` more seconds
at most. -/
structure Ages (p : PortRef) (t : Mstid) (n : Nat) (br : Bridge) : Prop where
  bpdu : (br.port p).rcvdBpdu = false
  message : (br.ptp p t).rcvdMsg = false
  state : (br.ptp p t).pismState ≠ .receive
  left : br.bridgeEnabled = true → p ∈ br.ports → t ∈ br.trees →
    (br.ptp p t).infoIs = .received → (br.ptp p t).rcvdInfoWhile ≤ n

section Ages

variable {br br' : Bridge} {p q : PortRef} {t u : Mstid} {n : Nat}

theorem Ages.congr (hi : Ages p t n br)
    (hlists : (br'.ports, br'.trees, br'.bridgeEnabled) = (br.ports, br.trees, br.bridgeEnabled))
    (hport : (br'.port p).rcvdBpdu = (br.port p).rcvdBpdu)
    (hptp : ageFields (br'.ptp p t) = ageFields (br.ptp p t)) : Ages p t n br' := by
  simp only [Prod.mk.injEq] at hlists
  simp only [ageFields, Prod.mk.injEq] at hptp
  obtain ⟨hports, htrees, hen⟩ := hlists
  obtain ⟨hmessage, hstate, hinfo, hwhile⟩ := hptp
  constructor
  · exact hport.trans hi.bpdu
  · exact hmessage.trans hi.message
  · exact hstate ▸ hi.state
  · rw [hports, htrees, hen, hinfo, hwhile]
    exact hi.left

theorem Ages.frame (hi : Ages p t n br) {o : Owned} (hf : Frame o br br')
    (hlists : ∀ b : Bridge, ((o.config b.config).ports, (o.config b.config).trees,
      (o.config b.config).bridgeEnabled) = (b.ports, b.trees, b.bridgeEnabled))
    (hport : ∀ x, (o.port x).rcvdBpdu = x.rcvdBpdu)
    (hptp : ∀ x, ageFields (o.ptp x) = ageFields x) : Ages p t n br' :=
  hi.congr (hf.config_eq (fun b => (b.ports, b.trees, b.bridgeEnabled)) hlists)
    (hf.port_eq Port.rcvdBpdu hport p) (hf.ptp_eq ageFields hptp p t)

/-- What is written to other ports only. -/
theorem Ages.untouched (hi : Ages p t n br) {o : Owned} (hf : Frame o br br')
    (hlists : ∀ b : Bridge, ((o.config b.config).ports, (o.config b.config).trees,
      (o.config b.config).bridgeEnabled) = (b.ports, b.trees, b.bridgeEnabled))
    (h : Untouched p br br') : Ages p t n br' :=
  hi.congr (hf.config_eq (fun b => (b.ports, b.trees, b.bridgeEnabled)) hlists)
    (congrArg Port.rcvdBpdu h.1) (congrArg ageFields (h.2 t))

theorem Ages.discard (hi : Ages p t n br) (q : PortRef) : Ages p t n (prsmToDiscard q br) := by
  by_cases h : p = q
  · subst h
    have hsame := (prsmToDiscard_frame p br).ptp_eq
      (fun x => (x.pismState, x.infoIs, x.rcvdInfoWhile)) (fun _ => rfl) p t
    simp only [Prod.mk.injEq] at hsame
    obtain ⟨hstate, hinfo, hwhile⟩ := hsame
    constructor
    · simp [prsmToDiscard, clearAllRcvdMsgs, setPortPtps, setPort]
    · have hmessage := hi.message
      simp only [prsmToDiscard, clearAllRcvdMsgs, setPortPtps]
      split
      · rfl
      · exact hmessage
    · exact hstate ▸ hi.state
    · rw [hinfo, hwhile]
      exact hi.left
  · exact hi.untouched (prsmToDiscard_frame q br) (fun _ => rfl) (prsmTo_untouched h br .discard)

theorem ages_begin : BeginInv (Ages p t n) where
  prsm br q hi _ := hi.discard q
  ppmsm br q hi _ :=
    hi.frame (ppmsmToCheckingRstp_frame q br) (fun _ => rfl) (fun _ => rfl) fun _ => rfl
  bdsm br q hi _ := hi.frame (bdsmTo_frame q _ br) (fun _ => rfl) (fun _ => rfl) fun _ => rfl
  ptsm br q hi _ :=
    hi.frame (ptsmToTransmitInit_frame q br) (fun _ => rfl) (fun _ => rfl) fun _ => rfl
  pism br q u hi _ _ := by
    by_cases h : p = q ∧ t = u
    · obtain ⟨rfl, rfl⟩ := h
      constructor <;> simp [pismBegin, pismToDisabled, hi.bpdu]
    · refine hi.congr rfl rfl ?_
      simp only [pismBegin, pismToDisabled, Bridge.setPtp, if_neg h]
  initTree br u hi _ :=
    hi.frame (prssmToInitTree_frame u br) (fun _ => rfl) (fun _ => rfl) fun _ => rfl
  prtsm br q u hi _ _ :=
    hi.frame (prtsmToInitPort_frame q u br) (fun _ => rfl) (fun _ => rfl) fun _ => rfl
  pstsm br q u hi _ _ :=
    hi.frame (pstsmTo_frame q u .discarding br) (fun _ => rfl) (fun _ => rfl) fun _ => rfl
  tcsm br q u hi _ _ :=
    hi.frame (tcsmToInactive_frame q u br) (fun _ => rfl) (fun _ => rfl) fun _ => rfl

/-- Without a message nothing is examined. -/
theorem Ages.pism_quiet (hi : Ages p t n br) {s : PismState} (h : pismNext br p t = some s) :
    s = .disabled ∨ s = .aged ∨ s = .update ∨ s = .current := by
  have hmessage : rcvdXstMsg br p t = false := by
    rw [rcvdXstMsg, hi.message]
    simp
  have hstate := hi.state
  rw [pismNext] at h
  simp only [hmessage] at h
  cases hs : (br.ptp p t).pismState with
  | receive => exact absurd hs hstate
  | _ =>
    simp only [hs] at h
    grind

theorem Ages.pism (hi : Ages p t n br) {s : PismState} (h : pismNext br p t = some s) :
    Ages p t n (pismTo p t s br) := by
  have hmessage := hi.message
  have hbpdu : ((pismTo p t s br).port p).rcvdBpdu = false :=
    ((pismTo_frame p t s br).port_eq Port.rcvdBpdu (fun _ => rfl) p).trans hi.bpdu
  rcases hi.pism_quiet h with rfl | rfl | rfl | rfl
  · constructor <;> simp [pismTo, pismToDisabled, hi.bpdu]
  · constructor <;> simp [pismTo, pismToAged, hmessage, hi.bpdu]
  · refine ⟨hbpdu, ?_, ?_, ?_⟩ <;>
      simp [pismTo, pismToUpdate, setNewInfo, setPort, setPtp, hmessage]
  · have hptp : (pismTo p t .current br).ptp p t = { br.ptp p t with pismState := .current } := by
      rw [pismTo, pismToCurrent, setPtp_self]
    constructor
    · exact hbpdu
    · rw [hptp]
      exact hmessage
    · rw [hptp]
      exact PismState.noConfusion
    · rw [hptp]
      exact hi.left

/-- Switching the bridge on begins all information anew. -/
theorem Ages.switchBridge (hi : Ages p t n br) (up : Bool) :
    Ages p t n ((Act.switchBridge up).run br) := by
  have hf := resetBridge_frame up br
  have hptp := hf.ptp_eq ageFields (fun _ => rfl) p t
  simp only [ageFields, Prod.mk.injEq] at hptp
  obtain ⟨hmessage, hstate, -, -⟩ := hptp
  have hreset : Ages p t ((resetBridge up br).ptp p t).rcvdInfoWhile (resetBridge up br) := by
    constructor
    · exact (hf.port_eq Port.rcvdBpdu (fun _ => rfl) p).trans hi.bpdu
    · exact hmessage.trans hi.message
    · exact hstate ▸ hi.state
    · exact fun _ _ _ _ => Nat.le_refl _
  have hbegin := ages_begin.bridge hreset
  refine ⟨hbegin.bpdu, hbegin.message, hbegin.state, fun hen hp ht hinfo => ?_⟩
  have hup : (resetBridge up br).bridgeEnabled = true := by
    by_contra hoff
    have hstay : bridgeBegin (resetBridge up br) = resetBridge up br :=
      bridgeBegin_disabled (by simpa using hoff)
    rw [Act.run, hstay] at hen
    exact hoff hen
  have hbegun := bridgeBegin_begun hup
  have hwaiting := hbegun.waiting (p, t) (mem_ptpRefs.mpr ⟨hbegun.ports ▸ hp, hbegun.trees ▸ ht⟩)
  simp only [Waiting, Prod.mk.injEq] at hwaiting
  exact absurd (hinfo.symm.trans hwaiting.2.2.1) InfoOrigin.noConfusion

theorem Ages.addPort {portno : UInt16} {name : String} {speed duplex : Int} (hi : Ages p t n br)
    (hq : q ∉ br.ports) : Ages p t n (addPort q portno name speed duplex br) := by
  by_cases h : p = q
  · subst h
    by_cases ht : t ∈ br.trees
    · constructor <;> simp [Mstpd.addPort, setPortPtps, setPort, ht, createPtp,
        ptpDefaultInternalVars, portDefaultInternalVars]
    · have hsame : (Mstpd.addPort p portno name speed duplex br).ptp p t = br.ptp p t := by
        simp [Mstpd.addPort, setPortPtps, setPort, ht]
      constructor
      · simp [Mstpd.addPort, setPortPtps, setPort, portDefaultInternalVars]
      · exact hsame ▸ hi.message
      · exact hsame ▸ hi.state
      · exact fun _ _ hmem => absurd hmem ht
  · have hptp : (Mstpd.addPort q portno name speed duplex br).ptp p t = br.ptp p t := by
      simp [Mstpd.addPort, setPortPtps, setPort, h]
    have hport : (Mstpd.addPort q portno name speed duplex br).port p = br.port p := by
      simp [Mstpd.addPort, setPortPtps, setPort, h]
    refine ⟨hport ▸ hi.bpdu, hptp ▸ hi.message, hptp ▸ hi.state, fun hen hp ht => ?_⟩
    have hold : p ∈ br.ports := by
      rcases List.mem_append.mp hp with hmem | hmem
      · exact hmem
      · exact absurd (List.mem_singleton.mp hmem) h
    rw [hptp]
    exact hi.left hen hold ht

theorem Ages.addTree {mstid : UInt16} {trees : List Mstid} (hi : Ages p t n br)
    (htrees : insertAfterLast (fun s => decide (s < mstid)) mstid br.trees = some trees) :
    Ages p t n (addTree mstid trees br) := by
  by_cases h : t = mstid ∧ p ∈ br.ports
  · obtain ⟨rfl, hp⟩ := h
    refine ⟨hi.bpdu, ?_, ?_, ?_⟩ <;>
      simp [Mstpd.addTree, setTreePtps, setTree, hp, createPtp, ptpDefaultInternalVars]
  · have hptp : (Mstpd.addTree mstid trees br).ptp p t = br.ptp p t := by
      simp only [Mstpd.addTree, setTreePtps, setTree]
      exact if_neg fun hboth => h ⟨hboth.1, hboth.2⟩
    refine ⟨hi.bpdu, hptp ▸ hi.message, hptp ▸ hi.state, fun hen hp ht => ?_⟩
    have hold : t ∈ br.trees :=
      ((insertAfterLast_mem htrees t).mp ht).resolve_left fun hsame => h ⟨hsame, hp⟩
    rw [hptp]
    exact hi.left hen hp hold

/-- An action that hands the port no BPDU. -/
theorem Ages.act {a : Act} (hi : Ages p t n br) (hg : a.Guard br)
    (hsilent : ∀ bpdu size, a ≠ .rxBpdu p bpdu size) : Ages p t n (a.run br) := by
  cases a with
  | rxBpdu q bpdu size =>
    have hne : p ≠ q := fun h => hsilent bpdu size (h ▸ rfl)
    exact hi.untouched (rxAssign_frame q bpdu size br) (fun _ => rfl)
      (rxAssign_untouched hne br bpdu size)
  | prsm q s =>
    by_cases h : p = q
    · subst h
      cases s with
      | discard => exact hi.discard p
      | receive =>
        have hnext := hg.2.2
        rw [prsmNext] at hnext
        simp only [hi.bpdu] at hnext
        grind
    · exact hi.untouched (prsmTo_frame q s br) (fun _ => rfl) (prsmTo_untouched h br s)
  | pism q u s =>
    by_cases h : p = q ∧ t = u
    · obtain ⟨rfl, rfl⟩ := h
      exact hi.pism hg.2.2.2
    · have hf := pismTo_frame q u s br
      exact hi.congr (hf.config_eq (fun b => (b.ports, b.trees, b.bridgeEnabled)) fun _ => rfl)
        (hf.port_eq Port.rcvdBpdu (fun _ => rfl) p)
        ((pismTo_local q u s br).eq ageFields (fun _ => rfl) h)
  | createPort q portno name speed duplex =>
    apply ages_begin.port
    · exact fun b u hb _ _ =>
        hb.frame (prssmToRoleSelection_frame u b) (fun _ => rfl) (fun _ => rfl) fun _ => rfl
    · exact List.mem_append_right _ List.mem_cons_self
    · exact hi.addPort hg.1
  | createMsti mstid trees =>
    apply ages_begin.tree
    · exact (insertAfterLast_mem hg.2.2.2.2 mstid).mpr (Or.inl rfl)
    · exact hi.addTree hg.2.2.2.2
  | switchBridge up => exact hi.switchBridge up
  | removePort q =>
    refine ⟨hi.bpdu, hi.message, hi.state, fun hen hp => ?_⟩
    exact hi.left hen (List.mem_of_mem_erase hp)
  | removeMsti mstid =>
    refine ⟨hi.bpdu, hi.message, hi.state, fun hen hp ht => ?_⟩
    exact hi.left hen hp (List.mem_of_mem_erase ht)
  | bridgeAddress | bridgeConfig | tables | configId =>
    exact ages_begin.restart
      (fun _ _ hf hb => hb.frame hf (fun _ => rfl) (fun _ => rfl) fun _ => rfl) rfl hi
  | tick =>
    have hf := Act.frame .tick br
    have hlists := hf.config_eq (fun b => (b.ports, b.trees, b.bridgeEnabled)) fun _ => rfl
    have hptp := hf.ptp_eq (fun x => (x.rcvdMsg, x.pismState, x.infoIs)) (fun _ => rfl) p t
    simp only [Prod.mk.injEq] at hlists hptp
    obtain ⟨hports, htrees, hen⟩ := hlists
    obtain ⟨hmessage, hstate, hinfo⟩ := hptp
    refine ⟨(hf.port_eq Port.rcvdBpdu (fun _ => rfl) p).trans hi.bpdu, hmessage.trans hi.message,
      hstate ▸ hi.state, fun hen' hp ht hr => bridgeTick_infoMost ?_⟩
    exact hi.left (hen ▸ hen') (hports ▸ hp) (htrees ▸ ht) (hinfo ▸ hr)
  | idleSecond => exact ⟨hi.bpdu, hi.message, hi.state, hi.left⟩
  | _ => exact hi.frame (Act.frame _ br) (fun _ => rfl) (fun _ => rfl) fun _ => rfl

/-- In a second less of the life time is left. -/
theorem Ages.second (hi : Ages p t n br) (hen : br.bridgeEnabled = true) :
    Ages p t (n - 1) (Act.tick.run br) := by
  have htick : Ages p t n (Act.tick.run br) := hi.act hen fun _ _ => Act.noConfusion
  have hf := Act.frame .tick br
  refine ⟨htick.bpdu, htick.message, htick.state, fun _ hp ht hinfo => ?_⟩
  have hp' : p ∈ br.ports := (hf.config_eq Bridge.ports fun _ => rfl) ▸ hp
  have ht' : t ∈ br.trees := (hf.config_eq Bridge.trees fun _ => rfl) ▸ ht
  have hold : (br.ptp p t).infoIs = .received :=
    (hf.ptp_eq PerTreePort.infoIs (fun _ => rfl) p t).symm.trans hinfo
  have hleft := hi.left hen hp' ht' hold
  have hsoon : (br.ptp p t).rcvdInfoWhile ≤ n - 1 + 1 := by
    have := hi.left hen hp' ht' hold
    omega
  exact @bridgeTick_infoWhile { br with uptime := br.uptime + 1 } p t (n - 1) hp' ht' hsoon

end Ages

/-! ## Operations -/

/-- What the actions of a pass preserve is preserved by a run of the machines. -/
theorem brRun_acts {I : Bridge → Prop}
    (step : ∀ (a : Act) (b : Bridge), I b → a.phase ≠ .idle → a.Guard b → I (a.run b))
    {late : Nat → Bool} {fuel : Nat} {br br' : Bridge} (hi : I br)
    (h : brStateMachinesRun late fuel br = some br') : I br' := by
  have hstep : StepInv fun b => I b ∧ b.bridgeEnabled = true := by
    apply StepInv.of_acts
    · exact fun b hb => hb.2
    · intro a b hb ha hg
      have hup : ∀ up, a ≠ .switchBridge up := by
        rintro up rfl
        exact ha rfl
      exact ⟨step a b hb.1 ha hg, (Act.enabled_eq hup hg).trans hb.2⟩
  by_cases hen : br.bridgeEnabled = true
  · exact (hstep.brRun ⟨hi, hen⟩ h).1
  · rw [brStateMachinesRun, if_neg hen] at h
    exact Option.some.inj h ▸ hi

/-- The operation hands the port a BPDU. -/
def Op.hears (p : PortRef) : Op → Bool
  | .rxBpdu q _ _ => q == p
  | _ => false

def Op.seconds : Op → Nat
  | .oneSecond => 1
  | _ => 0

/-- The seconds that pass during the operations. -/
def secondsOf : List (Env × Op) → Nat
  | [] => 0
  | first :: ops => first.2.seconds + secondsOf ops

/-- A sequence of operations, each in an environment of its own, as long as its handles are
valid. -/
def execEach : List (Env × Op) → Bridge → Option Bridge
  | [], br => some br
  | first :: ops, br =>
    if first.2.Valid br then (exec first.1 br first.2).bind fun r => execEach ops r.1 else none

section Operations

variable {env : Env} {br br' : Bridge} {p : PortRef} {t : Mstid} {n : Nat}

/-- A bridge at rest has no message of the CIST left, on whatever port. -/
theorem quiescent_cist_message (hr : Reachable untilQuiet br) (hen : br.bridgeEnabled = true)
    (hdry : brStateMachinesDry br = false) (hp : p ∈ br.ports) : (br.cist p).rcvdMsg = false := by
  by_cases hup : (br.port p).portEnabled = true
  · exact (quiescent_cist_read hr hen hdry hp hup).2
  · have hdown : (br.port p).portEnabled = false := by simpa using hup
    have h0 : 0 ∈ br.trees := hr.visited.cist_mem
    have hempty : (br.cist p).infoIs = .disabled :=
      ((reachable_quiescent_settled hr hen hdry hp h0).2.2.2.2 hdown).1
    obtain ⟨early, hat⟩ := hr.atPass
    have hstate : (br.cist p).pismState = .disabled :=
      ((hat.rolesFit hen).1 p hp 0 h0).origin hempty
    have hnone := (quiet_of_dry hdry).pism p hp 0 h0
    by_contra hmessage
    rw [Bool.not_eq_false] at hmessage
    simp [pismNext, hdown, hempty, hstate, hmessage] at hnone

theorem Ages.brRun {late : Nat → Bool} {fuel : Nat} (hi : Ages p t n br)
    (h : brStateMachinesRun late fuel br = some br') : Ages p t n br' := by
  refine brRun_acts (I := Ages p t n) (fun a b hb ha hg => hb.act hg ?_) hi h
  rintro bpdu size rfl
  exact ha rfl

theorem Ages.exec {op : Op} {ok : Bool} (hi : Ages p t n br) (hv : op.Valid br)
    (hsilent : op.hears p = false) (h : exec env br op = some (br', ok)) :
    Ages p t (n - op.seconds) br' := by
  by_cases hsecond : op = .oneSecond
  · subst hsecond
    have hone : mstpInOneSecond env br = some br' := map_true h
    rw [mstpInOneSecond] at hone
    dsimp only at hone
    split at hone
    · rename_i hen
      exact (hi.second hen).brRun hone
    · rename_i hoff
      obtain rfl := Option.some.inj hone
      exact ⟨hi.bpdu, hi.message, hi.state, fun hen => absurd hen hoff⟩
  · have hseconds : op.seconds = 0 := by
      cases op with
      | oneSecond => exact absurd rfl hsecond
      | _ => rfl
    have htakes : ∀ a, op.Takes a → ∀ bpdu size, a ≠ .rxBpdu p bpdu size := by
      rintro a ha bpdu size rfl
      cases op with
      | rxBpdu q bpdu' size' =>
        obtain ⟨rfl, -, -⟩ := Act.rxBpdu.inj ha
        simp [Op.hears] at hsilent
      | _ => simp [Op.Takes] at ha
    have hcomposes : Composes op.Takes fun b b' => Ages p t n b → Ages p t n b' :=
      { refl := fun _ => id
        trans := fun h h' => h' ∘ h
        act := fun b a _ hg ha hb => hb.act hg (htakes a ha)
        run := fun hrun hb => hb.brRun hrun }
    rw [hseconds]
    exact exec_composes hcomposes hv h hi

theorem execEach_cons {first : Env × Op} {ops : List (Env × Op)}
    (h : execEach (first :: ops) br = some br') : first.2.Valid br ∧
      ∃ b ok, exec first.1 br first.2 = some (b, ok) ∧ execEach ops b = some br' := by
  rw [execEach] at h
  split at h
  · rename_i hvalid
    obtain ⟨⟨b, ok⟩, hb, hrest⟩ := Option.bind_eq_some_iff.mp h
    exact ⟨hvalid, b, ok, hb, hrest⟩
  · cases h

theorem execEach_reachable {A : Allowed} {ops : List (Env × Op)}
    (hA : ∀ o ∈ ops, ∀ b, A o.1 o.2 b) (hr : Reachable A br) (h : execEach ops br = some br') :
    Reachable A br' := by
  induction ops generalizing br with
  | nil => exact Option.some.inj h ▸ hr
  | cons first ops ih =>
    obtain ⟨hvalid, b, ok, hb, hrest⟩ := execEach_cons h
    obtain ⟨env, macaddr, hrun⟩ := hr
    refine ih (fun o ho => hA o (List.mem_cons_of_mem first ho)) ⟨env, macaddr, ?_⟩ hrest
    exact hrun.tail ⟨first.1, first.2, ok, hvalid, hA first List.mem_cons_self br, hb⟩

theorem Ages.execEach {ops : List (Env × Op)} (hi : Ages p t n br)
    (hsilent : ∀ o ∈ ops, o.2.hears p = false) (h : execEach ops br = some br') :
    Ages p t (n - secondsOf ops) br' := by
  induction ops generalizing br n with
  | nil => exact Option.some.inj h ▸ hi
  | cons first ops ih =>
    obtain ⟨hvalid, b, ok, hb, hrest⟩ := execEach_cons h
    have hfirst := hi.exec hvalid (hsilent first List.mem_cons_self) hb
    have hlast := ih hfirst (fun o ho => hsilent o (List.mem_cons_of_mem first ho)) hrest
    rw [secondsOf, ← Nat.sub_sub]
    exact hlast

/-- At the end of its life time information is dropped when the machines come to rest. -/
theorem Ages.dropped (hi : Ages p t 0 br) (hr : Reachable untilQuiet br)
    (hen : br.bridgeEnabled = true) (hdry : brStateMachinesDry br = false) (hp : p ∈ br.ports)
    (ht : t ∈ br.trees) : (br.ptp p t).infoIs ≠ .received := by
  intro hinfo
  have hzero := hi.left hen hp ht hinfo
  have hnone := (quiet_of_dry hdry).pism p hp t ht
  have hup : (br.port p).portEnabled = true := by
    by_contra hdown
    have hempty := (reachable_quiescent_settled hr hen hdry hp ht).2.2.2.2 (by simpa using hdown)
    exact InfoOrigin.noConfusion (hinfo.symm.trans hempty.1)
  have hmessage : rcvdXstMsg br p t = false := by
    rw [rcvdXstMsg, hi.message]
    simp
  rcases pismNext_none_message hup (quiescent_updtXstInfo hr hen hdry hp ht) hnone with
    haged | ⟨hstate, -⟩
  · have hentry := (hr.visited.allAged hen p hp t ht).info.mp haged
    exact InfoOrigin.noConfusion (hinfo.symm.trans hentry)
  · obtain ⟨-, -, hupdt, -⟩ := reachable_quiescent_settled hr hen hdry hp ht
    have hexpired : (br.ptp p t).rcvdInfoWhile = 0 := Nat.le_zero.mp hzero
    simp [pismNext, hup, hstate, hmessage, hinfo, hexpired, hupdt] at hnone

/-- A bridge at rest whose port has no BPDU to read, and any operations during which the port gets
none and three hello times pass, none of them cut off by the clock. When the bridge is at rest
again, the port has no information of another bridge in the CIST, and in no tree that had no
message for it, and its role is none that looks at such information. -/
theorem silence_ages (hr : Reachable untilQuiet br) (hen : br.bridgeEnabled = true)
    (hdry : brStateMachinesDry br = false) (hp : p ∈ br.ports)
    (hbpdu : (br.port p).rcvdBpdu = false) {ops : List (Env × Op)}
    (hlate : ∀ o ∈ ops, ∀ n, o.1.late n = false) (hsilent : ∀ o ∈ ops, o.2.hears p = false)
    (hrun : execEach ops br = some br')
    (hlong : 3 * br.helloTime.toNat ≤ secondsOf ops) (hen' : br'.bridgeEnabled = true)
    (hdry' : brStateMachinesDry br' = false) (hp' : p ∈ br'.ports) :
    (br'.cist p).infoIs ≠ .received ∧ (br'.cist p).role.usesInfo = false ∧
    ∀ t ∈ br.trees, (br.ptp p t).rcvdMsg = false → t ∈ br'.trees →
      (br'.ptp p t).infoIs ≠ .received := by
  have hr' : Reachable untilQuiet br' := execEach_reachable (fun o ho _ => hlate o ho) hr hrun
  have hquiet := quiet_of_dry hdry
  have hsix : 6 ≤ secondsOf ops := by
    rw [hr.visited.configured.parameters.helloTime] at hlong
    exact hlong
  have hdropped : ∀ t ∈ br.trees, (br.ptp p t).rcvdMsg = false → t ∈ br'.trees →
      (br'.ptp p t).infoIs ≠ .received := by
    intro t ht hmessage ht'
    have hstart : Ages p t 6 br := by
      refine ⟨hbpdu, hmessage, ?_, fun _ hp ht _ => hr.visitedAt.infoTimed p hp t ht⟩
      intro hreceive
      have hnone := hquiet.pism p hp t ht
      rw [pismNext] at hnone
      simp only [hreceive] at hnone
      grind
    have hend := hstart.execEach hsilent hrun
    rw [Nat.sub_eq_zero_of_le hsix] at hend
    exact hend.dropped hr' hen' hdry' hp' ht'
  have h0 : 0 ∈ br.trees := hr.visited.cist_mem
  have h0' : 0 ∈ br'.trees := hr'.visited.cist_mem
  have hread : (br.cist p).rcvdMsg = false := quiescent_cist_message hr hen hdry hp
  have hcist := hdropped 0 h0 hread h0'
  refine ⟨hcist, ?_, hdropped⟩
  obtain ⟨early, hat⟩ := hr'.atPass
  have hready := (hat.rolesFit hen').1 p hp' 0 h0'
  obtain ⟨hselected, -, -, hrole, -⟩ := reachable_quiescent_settled hr' hen' hdry' hp' h0'
  rw [cist, hrole]
  by_contra huses
  exact hcist (hready.received rfl hselected (by simpa using huses))

end Operations

/-- A message of a better root, and six seconds without another. -/
def lostRootOps : List Op :=
  heldPortOps ++ [.rxBpdu 1 (agedBpdu (0, 0)) 36]

theorem lostRoot_silence_ages : ∃ br br', Reachable untilQuiet br ∧ (br.cist 1).role = .root ∧
    execEach (List.replicate 6 (sampleEnv, .oneSecond)) br = some br' ∧
    (br'.cist 1).infoIs ≠ .received ∧ (br'.cist 1).role.usesInfo = false := by
  have hrun : (sampleRun lostRootOps).any (fun br => br.bridgeEnabled && !brStateMachinesDry br &&
      br.ports.contains 1 && !(br.port 1).rcvdBpdu && br.helloTime == 2 &&
      decide ((br.cist 1).role = .root) &&
      (execEach (List.replicate 6 (sampleEnv, .oneSecond)) br).any fun br' =>
        br'.bridgeEnabled && !brStateMachinesDry br' && br'.ports.contains 1) = true := by
    decide +kernel
  obtain ⟨br, hbr, hprop⟩ := (Option.any_eq_true _ _).mp hrun
  simp only [Bool.and_eq_true, Bool.not_eq_true', List.contains_iff_mem, beq_iff_eq,
    decide_eq_true_eq] at hprop
  obtain ⟨⟨⟨⟨⟨⟨hen, hdry⟩, hp⟩, hbpdu⟩, hhello⟩, hroot⟩, hsix⟩ := hprop
  obtain ⟨br', hbr', hprop⟩ := (Option.any_eq_true _ _).mp hsix
  simp only [Bool.and_eq_true, Bool.not_eq_true', List.contains_iff_mem] at hprop
  obtain ⟨⟨hen', hdry'⟩, hp'⟩ := hprop
  have hr : Reachable untilQuiet br := sampleRun_reachable (fun _ _ _ => rfl) hbr
  have hlate : ∀ o ∈ List.replicate 6 (sampleEnv, Op.oneSecond), ∀ n, o.1.late n = false :=
    fun o ho _ => by rw [List.eq_of_mem_replicate ho]; rfl
  have hsilent : ∀ o ∈ List.replicate 6 (sampleEnv, Op.oneSecond), o.2.hears 1 = false :=
    fun o ho => by rw [List.eq_of_mem_replicate ho]; rfl
  obtain ⟨hinfo, hrole, -⟩ := silence_ages hr hen hdry hp hbpdu hlate hsilent hbr'
    (by rw [hhello]; decide) hen' hdry' hp'
  exact ⟨br, br', hr, hroot, hbr', hinfo, hrole⟩

end Mstpd
