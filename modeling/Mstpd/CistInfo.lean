import Mstpd.OnePort

/-!
# Port information in the CIST

What each entry of the port information machine leaves in the record and in the CIST
entry of its port, and what the classification of a message says about its vector.
-/

namespace Mstpd

open Bridge Machine

/-! ## Reading one entry -/

section Read

variable (br : Bridge) (p q : PortRef)

@[simp]
theorem ptp_cist : br.ptp p 0 = br.cist p := rfl

@[simp]
theorem cist_setPort (f : Port → Port) : (br.setPort q f).cist p = br.cist p := rfl

@[simp]
theorem cist_setPtp_self (f : PerTreePort → PerTreePort) :
    (br.setPtp p 0 f).cist p = f (br.cist p) := setPtp_self br p 0 f

@[simp]
theorem cist_setMstiPtps (f : Mstid → PerTreePort → PerTreePort) :
    (br.setMstiPtps q f).cist p = br.cist p := by
  simp only [cist, setMstiPtps, setPortPtps]
  split <;> rfl

@[simp]
theorem port_setPort_self (f : Port → Port) : (br.setPort p f).port p = f (br.port p) := if_pos rfl

@[simp]
theorem port_setPtp (t : Mstid) (f : PerTreePort → PerTreePort) :
    (br.setPtp q t f).port p = br.port p := rfl

@[simp]
theorem port_setMstiPtps (f : Mstid → PerTreePort → PerTreePort) :
    (br.setMstiPtps q f).port p = br.port p := rfl

@[simp]
theorem port_setPortPtps (f : Mstid → PerTreePort → PerTreePort) :
    (br.setPortPtps q f).port p = br.port p := rfl

@[simp]
theorem rstpVersion_setPort (f : Port → Port) :
    (br.setPort q f).rstpVersion = br.rstpVersion := rfl

@[simp]
theorem rstpVersion_setPtp (t : Mstid) (f : PerTreePort → PerTreePort) :
    (br.setPtp q t f).rstpVersion = br.rstpVersion := rfl

@[simp]
theorem rstpVersion_setMstiPtps (f : Mstid → PerTreePort → PerTreePort) :
    (br.setMstiPtps q f).rstpVersion = br.rstpVersion := rfl

end Read

/-! ## The entries of the machine -/

/-- Does the message agree, as `recordAgreement` reads it for the CIST? -/
def agrees (br : Bridge) (p : PortRef) : Bool :=
  br.rstpVersion && (br.port p).operPointToPointMAC &&
    hasFlag (br.port p).rcvdBpduData.bpdu.flags agreementBit

/-- The life time that `updtRcvdInfoWhile` gives to information. -/
def infoLifetime (internal : Bool) (times : Times) : Nat :=
  if (!internal && decide (times.messageAge.toNat + 1 ≤ times.maxAge.toNat)) ||
      (internal && decide (1 < times.remainingHops)) then
    3 * times.helloTime.toNat
  else 0

/-- The times that `recordTimes` leaves. -/
def recordedTimes (ptp : PerTreePort) : Times :=
  { ptp.msgTimes with helloTime := ptp.portTimes.helloTime }

theorem betterorsameInfo_received (ptp : PerTreePort) :
    betterorsameInfo ptp 0 .received =
      (decide (ptp.infoIs = .received) &&
        betterorsamePriority ptp.msgPriority ptp.portPriority 0 0 true) := by
  by_cases h : ptp.infoIs = .received <;> simp [betterorsameInfo, h]

theorem betterorsameInfo_mine (ptp : PerTreePort) :
    betterorsameInfo ptp 0 .mine =
      (decide (ptp.infoIs = .mine) &&
        betterorsamePriority ptp.designatedPriority ptp.portPriority 0 0 true) := by
  by_cases h : ptp.infoIs = .mine <;> simp [betterorsameInfo, h]

section Entries

variable (p : PortRef) (br : Bridge)

theorem updtRcvdInfoWhile_cist :
    (updtRcvdInfoWhile p 0 br).cist p =
      { br.cist p with
        rcvdInfoWhile := infoLifetime (br.port p).rcvdInternal (br.cist p).portTimes } := by
  rw [updtRcvdInfoWhile, cist_setPtp_self]
  rfl

theorem disabled_cist :
    (pismToDisabled p 0 br).cist p =
      { br.cist p with
        pismState := .disabled, rcvdMsg := false, proposing := false, proposed := false
        agree := false, agreed := false, rcvdInfoWhile := 0, infoIs := .disabled
        reselect := true, selected := false } := by
  rw [pismToDisabled, cist_setPtp_self]

theorem aged_cist :
    (pismToAged p 0 br).cist p =
      { br.cist p with
        pismState := .aged, infoIs := .aged, reselect := true, selected := false } := by
  rw [pismToAged, cist_setPtp_self]

theorem update_cist :
    (pismToUpdate p 0 br).cist p =
      { br.cist p with
        pismState := .update, proposing := false, proposed := false
        agreed := (br.cist p).agreed && betterorsameInfo (br.cist p) 0 .mine
        synced :=
          (br.cist p).synced && ((br.cist p).agreed && betterorsameInfo (br.cist p) 0 .mine)
        portPriority := (br.cist p).designatedPriority
        portTimes := (br.cist p).designatedTimes, updtInfo := false, infoIs := .mine } := by
  rw [pismToUpdate, setNewInfo, cist_setPort, cist_setPtp_self]

theorem superiorDesignated_cist :
    (pismToSuperiorDesignated p 0 br).cist p =
      { br.cist p with
        pismState := .superiorDesignated, infoIs := .received, proposing := false
        proposed :=
          (br.cist p).proposed || hasFlag (br.port p).rcvdBpduData.bpdu.flags proposalBit
        rcvdTc := (br.cist p).rcvdTc || hasFlag (br.port p).rcvdBpduData.bpdu.flags tcBit
        agree := (br.cist p).agree && betterorsameInfo (br.cist p) 0 .received
        agreed := agrees br p, synced := (br.cist p).synced && agrees br p
        portPriority := (br.cist p).msgPriority, portTimes := recordedTimes (br.cist p)
        rcvdInfoWhile := infoLifetime (br.port p).rcvdInternal (recordedTimes (br.cist p))
        reselect := true, selected := false, rcvdMsg := false } := by
  simp [pismToSuperiorDesignated, recordProposal, setTcFlags, recordAgreement, recordPriority,
    recordTimes, updtRcvdInfoWhile_cist, agrees, recordedTimes, betterorsameInfo_received]

theorem repeatedDesignated_cist :
    (pismToRepeatedDesignated p 0 br).cist p =
      { br.cist p with
        pismState := .repeatedDesignated
        proposed :=
          (br.cist p).proposed || hasFlag (br.port p).rcvdBpduData.bpdu.flags proposalBit
        rcvdTc := (br.cist p).rcvdTc || hasFlag (br.port p).rcvdBpduData.bpdu.flags tcBit
        agreed := agrees br p, proposing := (br.cist p).proposing && !agrees br p
        rcvdInfoWhile := infoLifetime (br.port p).rcvdInternal (br.cist p).portTimes
        rcvdMsg := false } := by
  simp [pismToRepeatedDesignated, recordProposal, setTcFlags, recordAgreement,
    updtRcvdInfoWhile_cist, agrees]

theorem inferiorDesignated_cist :
    (pismToInferiorDesignated p 0 br).cist p =
      { br.cist p with
        pismState := .inferiorDesignated, rcvdMsg := false
        disputed :=
          (br.cist p).disputed || hasFlag (br.port p).rcvdBpduData.bpdu.flags learningBit
        agreed :=
          (br.cist p).agreed && !hasFlag (br.port p).rcvdBpduData.bpdu.flags learningBit } := by
  simp [pismToInferiorDesignated, recordDispute]

theorem notDesignated_cist :
    (pismToNotDesignated p 0 br).cist p =
      { br.cist p with
        pismState := .notDesignated, rcvdMsg := false, agreed := agrees br p
        proposing := (br.cist p).proposing && !agrees br p
        rcvdTc := (br.cist p).rcvdTc || hasFlag (br.port p).rcvdBpduData.bpdu.flags tcBit } := by
  simp [pismToNotDesignated, recordAgreement, setTcFlags, agrees]

theorem other_cist :
    (pismToOther p 0 br).cist p = { br.cist p with pismState := .other, rcvdMsg := false } := by
  rw [pismToOther, cist_setPtp_self]

theorem current_cist :
    (pismToCurrent p 0 br).cist p = { br.cist p with pismState := .current } := by
  rw [pismToCurrent, cist_setPtp_self]

/-- Does `rcvInfo` get as far as decoding the message? -/
def decodes (br : Bridge) (p : PortRef) : Bool :=
  (br.port p).rcvdBpduData.bpdu.bpduType != bpduTypeTcn && (roleIsDesignated br p 0).isSome

theorem receive_cist :
    withoutRcvdTc ((pismToReceive p 0 br).cist p) = withoutRcvdTc
      { br.cist p with
        pismState := .receive, rcvdInfo := (rcvInfo p 0 br).1
        msgPriority := if decodes br p then msgPriorityOf br p 0 else (br.cist p).msgPriority
        msgTimes := if decodes br p then msgTimesOf br p 0 else (br.cist p).msgTimes } := by
  rw [pismToReceive, recordMastered, if_pos rfl, cist_setMstiPtps, cist_setPtp_self]
  rw [rcvInfo, decodes]
  split
  · rename_i htcn
    simp only [htcn, bne_self_eq_false, Bool.false_and, Bool.false_eq_true, if_false]
    simp only [cist, setPortPtps, setPort]
    split <;> rfl
  · rename_i htcn
    split
    · rename_i hrole
      simp [hrole]
    · rename_i designated hrole
      simp [htcn, hrole]

end Entries

/-- Every entry notes its own state. -/
theorem pismTo_state (p : PortRef) (s : PismState) (br : Bridge) :
    ((pismTo p 0 s br).cist p).pismState = s := by
  cases s with
  | disabled => rw [pismTo, disabled_cist]
  | aged => rw [pismTo, aged_cist]
  | update => rw [pismTo, update_cist]
  | superiorDesignated => rw [pismTo, superiorDesignated_cist]
  | repeatedDesignated => rw [pismTo, repeatedDesignated_cist]
  | inferiorDesignated => rw [pismTo, inferiorDesignated_cist]
  | notDesignated => rw [pismTo, notDesignated_cist]
  | other => rw [pismTo, other_cist]
  | current => rw [pismTo, current_cist]
  | receive => exact congrArg PerTreePort.pismState (receive_cist p br)

/-! ## The message that is being examined -/

/-- What `rcvInfo` answers for the CIST. -/
def messageInfo (br : Bridge) (p : PortRef) : PortInfo :=
  if (br.port p).rcvdBpduData.bpdu.bpduType = bpduTypeTcn then .otherInfo
  else
    match roleIsDesignated br p 0 with
    | none => .otherInfo
    | some designated =>
      classifyInfo (br.cist p) (msgPriorityOf br p 0) (msgTimesOf br p 0) designated true

theorem rcvInfo_fst (p : PortRef) (br : Bridge) : (rcvInfo p 0 br).1 = messageInfo br p := by
  rw [rcvInfo, messageInfo]
  split
  · rfl
  · cases roleIsDesignated br p 0 with
    | none => rfl
    | some designated => rfl

/-- What the classification of a message compares it with. -/
def recorded (ptp : PerTreePort) : PortPriorityVector × Times × InfoOrigin :=
  (ptp.portPriority, ptp.portTimes, ptp.infoIs)

theorem classifyInfo_congr {x y : PerTreePort} (h : recorded x = recorded y)
    (mPri : PortPriorityVector) (mTimes : Times) (designated cist : Bool) :
    classifyInfo x mPri mTimes designated cist = classifyInfo y mPri mTimes designated cist := by
  simp only [recorded, Prod.mk.injEq] at h
  simp only [classifyInfo, h]

/-- What is read off a stored BPDU depends on nothing else than the BPDU and the hops of
the bridge, and its classification also on the record it is compared with. -/
theorem messageInfo_congr {p : PortRef} {b b' : Bridge}
    (hdata : (b'.port p).rcvdBpduData = (b.port p).rcvdBpduData) (hhops : b'.maxHops = b.maxHops)
    (hrec : recorded (b'.cist p) = recorded (b.cist p)) : messageInfo b' p = messageInfo b p := by
  have hrole : roleIsDesignated b' p 0 = roleIsDesignated b p 0 := by
    simp only [roleIsDesignated, if_true, hdata]
  have hpri : msgPriorityOf b' p 0 = msgPriorityOf b p 0 := by
    simp only [msgPriorityOf, if_true, hdata]
  have htimes : msgTimesOf b' p 0 = msgTimesOf b p 0 := by
    simp only [msgTimesOf, if_true, hdata, hhops]
  rw [messageInfo, messageInfo, hrole, hdata, hpri, htimes]
  split
  · rfl
  · split
    · rfl
    · exact classifyInfo_congr hrec _ _ _ _

/-- The port holds the classification and the vectors of the BPDU it has stored. -/
structure ReadsMessage (p : PortRef) (br : Bridge) : Prop where
  info : (br.cist p).rcvdInfo = messageInfo br p
  priority : decodes br p = true → (br.cist p).msgPriority = msgPriorityOf br p 0
  times : decodes br p = true → (br.cist p).msgTimes = msgTimesOf br p 0

theorem ReadsMessage.congr {p : PortRef} {b b' : Bridge} (h : ReadsMessage p b)
    (hdata : (b'.port p).rcvdBpduData = (b.port p).rcvdBpduData) (hhops : b'.maxHops = b.maxHops)
    (hrec : recorded (b'.cist p) = recorded (b.cist p))
    (hmsg : ((b'.cist p).rcvdInfo, (b'.cist p).msgPriority, (b'.cist p).msgTimes) =
      ((b.cist p).rcvdInfo, (b.cist p).msgPriority, (b.cist p).msgTimes)) : ReadsMessage p b' := by
  have hrole : roleIsDesignated b' p 0 = roleIsDesignated b p 0 := by
    simp only [roleIsDesignated, if_true, hdata]
  have hpri : msgPriorityOf b' p 0 = msgPriorityOf b p 0 := by
    simp only [msgPriorityOf, if_true, hdata]
  have htimes : msgTimesOf b' p 0 = msgTimesOf b p 0 := by
    simp only [msgTimesOf, if_true, hdata, hhops]
  have hdec : decodes b' p = decodes b p := by simp only [decodes, hrole, hdata]
  simp only [Prod.mk.injEq] at hmsg
  refine ⟨?_, fun hd => ?_, fun hd => ?_⟩
  · rw [hmsg.1, h.info, messageInfo_congr hdata hhops hrec]
  · rw [hmsg.2.1, h.priority (hdec ▸ hd), hpri]
  · rw [hmsg.2.2, h.times (hdec ▸ hd), htimes]

theorem readsMessage_receive (p : PortRef) (br : Bridge) :
    ReadsMessage p (pismToReceive p 0 br) := by
  have hcist := receive_cist p br
  have hframe := pismToReceive_frame p 0 br
  have hdata := hframe.port_eq Port.rcvdBpduData (fun _ => rfl) p
  have hhops := hframe.config_eq Bridge.maxHops fun _ => rfl
  have hread : ∀ {α : Type} (f : PerTreePort → α), (∀ x, f (withoutRcvdTc x) = f x) →
      f ((pismToReceive p 0 br).cist p) = f
        { br.cist p with
          pismState := .receive, rcvdInfo := (rcvInfo p 0 br).1
          msgPriority := if decodes br p then msgPriorityOf br p 0 else (br.cist p).msgPriority
          msgTimes := if decodes br p then msgTimesOf br p 0 else (br.cist p).msgTimes } := by
    intro α f hf
    rw [← hf, hcist, hf]
  generalize hb : { br.cist p with
    pismState := .receive, rcvdInfo := (rcvInfo p 0 br).1
    msgPriority := if decodes br p then msgPriorityOf br p 0 else (br.cist p).msgPriority
    msgTimes := if decodes br p then msgTimesOf br p 0 else (br.cist p).msgTimes } = x at hread
  have hbefore : ReadsMessage p { br with ptp := fun _ _ => x } := by
    subst hb
    refine ⟨(rcvInfo_fst p br).trans ?_, fun hd => ?_, fun hd => ?_⟩
    · rfl
    · exact if_pos hd
    · exact if_pos hd
  exact hbefore.congr hdata hhops (hread recorded fun _ => rfl)
    (hread (fun y => (y.rcvdInfo, y.msgPriority, y.msgTimes)) fun _ => rfl)

/-! ## Information outside its machine -/

/-- The information of a port and the agreement for it. -/
def informationOf (x : PerTreePort) : PismState × InfoOrigin × PortPriorityVector × Bool :=
  (x.pismState, x.infoIs, x.portPriority, x.agreed)

/-- An entry after the BEGIN of port information, or a new one. -/
structure Fresh (x : PerTreePort) : Prop where
  pismState : x.pismState = .disabled
  infoIs : x.infoIs = .disabled
  agreed : x.agreed = false

theorem Fresh.frame {p : PortRef} {b b' : Bridge} (h : Fresh (b.cist p)) {o : Owned}
    (hf : Frame o b b') (ho : ∀ x, informationOf (o.ptp x) = informationOf x) :
    Fresh (b'.cist p) := by
  have hinfo := hf.ptp_eq informationOf ho p 0
  simp only [informationOf, Prod.mk.injEq] at hinfo
  exact ⟨hinfo.1.trans h.pismState, hinfo.2.1.trans h.infoIs, hinfo.2.2.2.trans h.agreed⟩

/-- The BEGIN of an enabled bridge drops the information of every port. -/
theorem bridgeBegin_fresh {p : PortRef} {br : Bridge} (hen : br.bridgeEnabled = true)
    (hp : p ∈ br.ports) (hcist : 0 ∈ br.trees) : Fresh ((bridgeBegin br).cist p) := by
  rw [bridgeBegin, if_pos hen]
  refine Fresh.frame ?_ (ptpMachinesBegin_begin _ _) fun _ => rfl
  refine Fresh.frame ?_ (Frame.forAll prssmToInitTree_frame br.trees _) fun _ => rfl
  have hreset : ∀ (x : PortRef × Mstid) b, Fresh ((pismBegin p 0 b).cist p) ∧
      (Fresh (b.cist p) → Fresh ((pismBegin x.1 x.2 b).cist p)) := by
    intro x b
    constructor
    · rw [pismBegin, cist, ptp_cist, disabled_cist]
      exact ⟨rfl, rfl, rfl⟩
    · intro hfresh
      rcases pismBegin_cist p x.1 x.2 b with h | h
      · exact h.symm ▸ hfresh
      · exact h.symm ▸ ⟨rfl, rfl, rfl⟩
  exact forAll_reaches (a := ((p, 0) : PortRef × Mstid)) (mem_ptpRefs.mpr ⟨hp, hcist⟩)
    (fun b => (hreset (p, 0) b).1) (fun x b => (hreset x b).2) _

/-- The actions of port information and of role transitions. -/
def Act.informs : Act → Bool
  | .pism _ _ _ => true
  | .prtsm _ _ _ => true
  | _ => false

/-- The information is as before, or BEGIN has reset it. -/
def KeptOrFresh (p : PortRef) (br br' : Bridge) : Prop :=
  informationOf (br'.cist p) = informationOf (br.cist p) ∨ Fresh (br'.cist p)

theorem KeptOrFresh.frame {p : PortRef} {br b b' : Bridge} (h : KeptOrFresh p br b) {o : Owned}
    (hf : Frame o b b')
    (ho : ∀ x, informationOf (o.ptp x) = informationOf x) : KeptOrFresh p br b' := by
  exact h.imp (hf.ptp_eq informationOf ho p 0).trans fun hfresh => hfresh.frame hf ho

theorem KeptOrFresh.fresh {p : PortRef} {br b : Bridge} (h : KeptOrFresh p br b)
    (hfresh : Fresh (br.cist p)) : Fresh (b.cist p) := by
  refine h.elim (fun hk => ?_) id
  simp only [informationOf, Prod.mk.injEq] at hk
  exact ⟨hk.1.trans hfresh.pismState, hk.2.1.trans hfresh.infoIs, hk.2.2.2.trans hfresh.agreed⟩

theorem keptOrFresh_begin (p : PortRef) (br : Bridge) : BeginInv (KeptOrFresh p br) :=
  BeginInv.of_pism (fun _ _ hf hi => hi.frame hf fun _ => rfl) fun b q t hi _ _ => by
    rcases pismBegin_cist p q t b with h | h
    · rw [KeptOrFresh, h]
      exact hi
    · exact Or.inr ⟨congrArg PerTreePort.pismState h, congrArg PerTreePort.infoIs h,
        congrArg PerTreePort.agreed h⟩

theorem KeptOrFresh.select {p : PortRef} {br b : Bridge} (h : KeptOrFresh p br b) (t : Mstid) :
    KeptOrFresh p br (prssmToRoleSelection t b) := by
  have hsel : informationOf (withoutSelection ((prssmToRoleSelection t b).cist p)) =
      informationOf (withoutSelection (b.cist p)) :=
    congrArg informationOf (roleSelection_cist t p b)
  exact h.imp hsel.trans fun hfresh => KeptOrFresh.fresh (Or.inl hsel) hfresh

theorem addPort_fresh (p : PortRef) (portno : UInt16) (name : String) (speed duplex : Int)
    {br : Bridge} (hcist : 0 ∈ br.trees) :
    Fresh ((addPort p portno name speed duplex br).cist p) := by
  rw [addPort]
  simp only [cist, setPortPtps, setPort, hcist, and_self, if_true]
  exact ⟨rfl, rfl, rfl⟩

theorem addPort_keptOrFresh (p q : PortRef) (portno : UInt16) (name : String)
    (speed duplex : Int) {br : Bridge} (hcist : 0 ∈ br.trees) :
    KeptOrFresh p br (addPort q portno name speed duplex br) := by
  by_cases h : p = q
  · subst h
    exact Or.inr (addPort_fresh p portno name speed duplex hcist)
  · refine Or.inl ?_
    rw [addPort]
    simp only [cist, setPortPtps, setPort, h, false_and, if_false]

theorem addTree_keptOrFresh (p : PortRef) {mstid : UInt16} (hne : mstid ≠ 0) (trees : List Mstid)
    (br : Bridge) : KeptOrFresh p br (addTree mstid trees br) := by
  have h : ¬ (0 : Mstid) = mstid := fun h => hne h.symm
  refine Or.inl ?_
  rw [addTree]
  simp only [cist, setTreePtps, h, false_and, if_false]
  rfl

/-- A port starts without information. -/
theorem createPort_fresh (p : PortRef) (portno : UInt16) (name : String) (speed duplex : Int)
    {br : Bridge} (hcist : 0 ∈ br.trees) :
    Fresh (((Act.createPort p portno name speed duplex).run br).cist p) :=
  KeptOrFresh.fresh ((keptOrFresh_begin p _).port (fun _ t hb _ _ => hb.select t)
    (List.mem_append_right _ List.mem_cons_self) (Or.inl rfl))
    (addPort_fresh p portno name speed duplex hcist)

/-- Outside its own machine and the role transitions information is kept or reset. -/
theorem Act.information_kept {a : Act} (ha : a.informs = false) (p : PortRef) {br : Bridge}
    (hcist : 0 ∈ br.trees) (hg : a.Guard br) : KeptOrFresh p br (a.run br) := by
  have hsame : KeptOrFresh p br br := Or.inl rfl
  cases a with
  | pism => cases ha
  | prtsm => cases ha
  | prssm t => exact hsame.select t
  | createPort q portno name speed duplex =>
    refine (keptOrFresh_begin p br).port (fun b t hb _ _ => hb.select t) ?_
      (addPort_keptOrFresh p q portno name speed duplex hcist)
    exact List.mem_append_right _ List.mem_cons_self
  | createMsti mstid trees =>
    refine (keptOrFresh_begin p br).tree ?_ (addTree_keptOrFresh p hg.1 trees br)
    exact (insertAfterLast_mem hg.2.2.2.2 mstid).mpr (Or.inl rfl)
  | switchBridge up =>
    exact (keptOrFresh_begin p br).bridge (hsame.frame (resetBridge_frame up br) fun _ => rfl)
  | bridgeAddress _ | bridgeConfig _ | tables _ _ _ _ | configId _ _ =>
    exact (keptOrFresh_begin p br).restart (fun b b' hf hb => hb.frame hf fun _ => rfl) rfl hsame
  | _ => exact hsame.frame (Act.frame _ br) fun _ => rfl

theorem pismNext_receive {p : PortRef} {br : Bridge} (h : (br.cist p).pismState = .receive) :
    pismNext br p 0 ≠ none := by
  rw [pismNext]
  split
  · exact Option.some_ne_none _
  · simp only [ptp_cist, h]
    split <;> exact Option.some_ne_none _

/-- A port examines a message only inside the stage of port information, and holds what it
has read off that message. -/
theorem VisitedAt.receives {C : Act → Bridge → Prop} {k : Phase} {br : Bridge}
    (h : VisitedAt C k br) (p : PortRef) : (br.cist p).pismState = .receive →
      k = .pism ∧ p ∈ br.ports ∧ ReadsMessage p br := by
  refine h.inv (I := fun k b => (b.cist p).pismState = .receive →
    k = .pism ∧ p ∈ b.ports ∧ ReadsMessage p b) ?_ ?_ ?_
  · intro env macaddr hrecv
    cases hrecv
  · intro a k b hv hi hg hat _ hrecv
    cases a with
    | pism q t s =>
      have hk : k = .pism := hat.resolve_right fun h => Bool.false_ne_true h.2
      have hframe := pismTo_frame q t s b
      have hports : (pismTo q t s b).ports = b.ports := hframe.ports_eq
      by_cases hself : q = p ∧ t = 0
      · obtain ⟨rfl, rfl⟩ := hself
        obtain rfl : s = .receive := (pismTo_state q s b).symm.trans hrecv
        exact ⟨hk, hports ▸ hg.2.1, readsMessage_receive q b⟩
      · have hcist := pismTo_elsewhere hself s b
        have hbefore := hi ((hcist.eq PerTreePort.pismState fun _ => rfl).symm.trans hrecv)
        refine ⟨hk, hports ▸ hbefore.2.1, hbefore.2.2.congr ?_ ?_ ?_ ?_⟩
        · exact hframe.port_eq Port.rcvdBpduData (fun _ => rfl) p
        · exact hframe.config_eq Bridge.maxHops fun _ => rfl
        · exact hcist.eq recorded fun _ => rfl
        · exact hcist.eq (fun x => (x.rcvdInfo, x.msgPriority, x.msgTimes)) fun _ => rfl
    | prtsm q t s =>
      have hstate := (prtsmTo_frame (prtsmVars b q) q t s b).ptp_eq PerTreePort.pismState
        (fun _ => rfl) p 0
      have hk : k = .prtsm := hat.resolve_right fun h => Bool.false_ne_true h.2
      have hbefore := (hi (hstate.symm.trans hrecv)).1
      exact absurd (hk.symm.trans hbefore) Phase.noConfusion
    | _ =>
      rcases Act.information_kept rfl p hv.visited.cist_mem hg with hkept | hfresh
      · simp only [informationOf, Prod.mk.injEq] at hkept
        have hbefore := (hi (hkept.1.symm.trans hrecv)).1
        subst hbefore
        rcases hat with h | h
        · cases h
        · cases h.1
      · exact absurd (hfresh.pismState.symm.trans hrecv) PismState.noConfusion
  · intro k b hv hi hen hdone hrecv
    obtain ⟨rfl, hp, hread⟩ := hi hrecv
    exact absurd (hdone p hp hv.visited.cist_mem) (pismNext_receive hrecv)

end Mstpd
