import Mstpd.Agreement
import Mstpd.FinalRoles

/-!
# The age of a message

A message from outside the region that is as old as it may become is not used: the port
records it without a life time, and the same run of the port information machine ages it.
The two fields are rounded to whole seconds in one octet each. An age in the last half second
of its range is rounded to zero, and then the oldest message looks like a new one.
-/

namespace Mstpd

open Bridge Machine

/-! ## Rounding -/

/-- A time of a BPDU in units of 1/256 of a second. -/
def timeField (msgTime : UInt8 × UInt8) : Nat := msgTime.1.toNat * 256 + msgTime.2.toNat

/-- The least time that is rounded beyond the octet. -/
def roundsToZero : Nat := 0xFF80

theorem nearestWholeSecond_toNat (msgTime : UInt8 × UInt8) :
    (nearestWholeSecond msgTime).toNat = (timeField msgTime + 128) / 256 % 256 := by
  have hseconds := msgTime.1.toNat_lt
  have hfraction := msgTime.2.toNat_lt
  rw [nearestWholeSecond, timeField]
  split
  · rename_i hdown
    have hdown : msgTime.2.toNat < 128 := hdown
    omega
  · rename_i hup
    have hup : ¬ msgTime.2.toNat < 128 := hup
    rw [UInt8.toNat_add]
    have hone : (1 : UInt8).toNat = 1 := rfl
    omega

/-- The rounding keeps the order of age and maximum. -/
def RoundedInOrder (b : Bpdu) : Prop :=
  timeField b.messageAge < roundsToZero ∨ timeField b.maxAge < 128 ∨
    roundsToZero ≤ timeField b.maxAge

/-- What has reached its maximum age in the message has reached it after rounding, exactly where
the rounding keeps the order. -/
theorem rounded_expired_iff {b : Bpdu} (hold : timeField b.maxAge ≤ timeField b.messageAge) :
    ¬ (nearestWholeSecond b.messageAge).toNat + 1 ≤ (nearestWholeSecond b.maxAge).toNat ↔
      RoundedInOrder b := by
  have hage := b.messageAge.1.toNat_lt
  have hage' := b.messageAge.2.toNat_lt
  have hmax := b.maxAge.1.toNat_lt
  have hmax' := b.maxAge.2.toNat_lt
  rw [RoundedInOrder, nearestWholeSecond_toNat, nearestWholeSecond_toNat, roundsToZero]
  simp only [timeField] at hold ⊢
  omega

/-! ## The message in store -/

/-- The port stores a message from outside the region, from a Designated port, with vector `V`,
that is too old after rounding. -/
structure StoresExpired (p : PortRef) (V : PortPriorityVector) (br : Bridge) : Prop where
  outside : fromSameRegion br p = false
  kind : (br.port p).rcvdBpduData.bpdu.bpduType ≠ bpduTypeTcn
  designated : roleIsDesignated br p 0 = some true
  vector : msgPriorityOf br p 0 = V
  expired : ¬ (msgTimesOf br p 0).messageAge.toNat + 1 ≤ (msgTimesOf br p 0).maxAge.toNat

section StoresExpired

variable {p : PortRef} {V : PortPriorityVector} {br b : Bridge}

theorem StoresExpired.congr (h : StoresExpired p V br)
    (hdata : (b.port p).rcvdBpduData = (br.port p).rcvdBpduData)
    (hid : b.mstConfigId = br.mstConfigId) : StoresExpired p V b := by
  obtain ⟨houtside, hkind, hdesignated, hvector, hexpired⟩ := h
  refine ⟨?_, hdata ▸ hkind, ?_, ?_, ?_⟩
  · rw [fromSameRegion, hdata, hid]
    exact houtside
  · simp only [roleIsDesignated, if_true, hdata] at hdesignated ⊢
    exact hdesignated
  · simp only [msgPriorityOf, if_true, hdata] at hvector ⊢
    exact hvector
  · simp only [msgTimesOf, if_true, hdata] at hexpired ⊢
    exact hexpired

theorem StoresExpired.decodes (h : StoresExpired p V br) : decodes br p = true := by
  simp [Mstpd.decodes, h.kind, h.designated]

/-- A message with the recorded vector is taken for a superior one. -/
theorem StoresExpired.superior (h : StoresExpired p V br)
    (hsame : (br.cist p).portPriority = V) : messageInfo br p = .superiorDesignatedInfo := by
  rw [messageInfo, if_neg h.kind, h.designated]
  simp only [h.vector, classifyInfo, if_true, hsame]
  rw [if_pos]
  simp

end StoresExpired

/-! ## What becomes of it -/

/-- Information with that vector is at the end of its life time. -/
def Unused (V : PortPriorityVector) (x : PerTreePort) : Prop :=
  x.infoIs = .received → x.portPriority = V → x.rcvdInfoWhile = 0

/-- The enabled port has stored the message, takes it, examines it or does not use it. -/
structure DropsExpired (p : PortRef) (V : PortPriorityVector) (br : Bridge) : Prop where
  running : br.bridgeEnabled = true
  enabled : (br.port p).portEnabled = true
  message : StoresExpired p V br
  reads : (br.cist p).pismState = .receive → ReadsMessage p br
  progress : (br.port p).rcvdBpdu = true ∨ (br.port p).rcvdInternal = false ∧
    ((br.cist p).rcvdMsg = true ∨ Unused V (br.cist p))

/-- The fields of an entry that say what becomes of a message. -/
def messageFields (x : PerTreePort) : (PismState × Bool × Nat) ×
    (PortInfo × PortPriorityVector × Times) × PortPriorityVector × Times × InfoOrigin :=
  ((x.pismState, x.rcvdMsg, x.rcvdInfoWhile), (x.rcvdInfo, x.msgPriority, x.msgTimes), recorded x)

section DropsExpired

variable {p : PortRef} {V : PortPriorityVector} {br b : Bridge}

theorem DropsExpired.congr (h : DropsExpired p V br)
    (hconfig : (b.bridgeEnabled, b.mstConfigId, b.maxHops) =
      (br.bridgeEnabled, br.mstConfigId, br.maxHops))
    (hport : ((b.port p).portEnabled, (b.port p).rcvdBpdu, (b.port p).rcvdInternal,
        (b.port p).rcvdBpduData) =
      ((br.port p).portEnabled, (br.port p).rcvdBpdu, (br.port p).rcvdInternal,
        (br.port p).rcvdBpduData))
    (hcist : messageFields (b.cist p) = messageFields (br.cist p)) : DropsExpired p V b := by
  simp only [Prod.mk.injEq] at hconfig hport
  have hrec : recorded (b.cist p) = recorded (br.cist p) := congrArg (fun x => x.2.2) hcist
  have hmsg : ((b.cist p).rcvdInfo, (b.cist p).msgPriority, (b.cist p).msgTimes) =
      ((br.cist p).rcvdInfo, (br.cist p).msgPriority, (br.cist p).msgTimes) :=
    congrArg (fun x => x.2.1) hcist
  have hstate : ((b.cist p).pismState, (b.cist p).rcvdMsg, (b.cist p).rcvdInfoWhile) =
      ((br.cist p).pismState, (br.cist p).rcvdMsg, (br.cist p).rcvdInfoWhile) :=
    congrArg Prod.fst hcist
  simp only [Prod.mk.injEq] at hstate
  refine ⟨hconfig.1.trans h.running, hport.1.trans h.enabled,
    h.message.congr hport.2.2.2 hconfig.2.1, fun hrecv => ?_, ?_⟩
  · exact (h.reads (hstate.1.symm.trans hrecv)).congr hport.2.2.2 hconfig.2.2 hrec hmsg
  · simp only [recorded, Prod.mk.injEq] at hrec
    rw [Unused, hport.2.1, hport.2.2.1, hstate.2.1, hstate.2.2, hrec.1, hrec.2.2]
    exact h.progress

theorem DropsExpired.frame (h : DropsExpired p V br) {o : Owned} (hf : Frame o br b)
    (hconfig : ∀ c : Bridge, ((o.config c.config).bridgeEnabled, (o.config c.config).mstConfigId,
      (o.config c.config).maxHops) = (c.bridgeEnabled, c.mstConfigId, c.maxHops))
    (hport : ∀ x, ((o.port x).portEnabled, (o.port x).rcvdBpdu, (o.port x).rcvdInternal,
      (o.port x).rcvdBpduData) = (x.portEnabled, x.rcvdBpdu, x.rcvdInternal, x.rcvdBpduData))
    (hcist : ∀ x, messageFields (o.ptp x) = messageFields x) : DropsExpired p V b :=
  h.congr (hf.config_eq (fun c => (c.bridgeEnabled, c.mstConfigId, c.maxHops)) hconfig)
    (hf.port_eq (fun x => (x.portEnabled, x.rcvdBpdu, x.rcvdInternal, x.rcvdBpduData)) hport p)
    (hf.ptp_eq messageFields hcist p 0)

end DropsExpired

section Steps

variable {p : PortRef} {V : PortPriorityVector} {br : Bridge}

/-- A message is examined before it is classified. -/
theorem pismNext_from_receive {s : PismState} (h : pismNext br p 0 = some s)
    (hs : s.recordsAgreement = true ∨ s = .inferiorDesignated ∨ s = .other) :
    (br.cist p).pismState = .receive := by
  rcases hs with hs | rfl | rfl
  · exact (pismNext_recordsAgreement h hs).1
  · exact (pismNext_entersFrom h).1
  · exact (pismNext_entersFrom h).1

/-- What the transitions do to the record. A message that is not taken for a superior one has
another vector than the record. -/
theorem DropsExpired.record (hi : DropsExpired p V br)
    (hinternal : (br.port p).rcvdInternal = false)
    (hx : (br.cist p).rcvdMsg = true ∨ Unused V (br.cist p)) {s : PismState}
    (hnext : pismNext br p 0 = some s) :
    ((pismTo p 0 s br).cist p).rcvdMsg = true ∨ Unused V ((pismTo p 0 s br).cist p) := by
  have hother : (br.cist p).pismState = .receive → s ≠ .superiorDesignated →
      recorded ((pismTo p 0 s br).cist p) = recorded (br.cist p) →
      Unused V ((pismTo p 0 s br).cist p) := by
    intro hstate hs hrec _ hV
    simp only [recorded, Prod.mk.injEq] at hrec
    have hinfo := (hi.reads hstate).info.trans (hi.message.superior (hrec.1.symm.trans hV))
    have hup := hi.enabled
    simp [pismNext, hup, hstate, hinfo] at hnext
    exact absurd hnext.symm hs
  cases s with
  | disabled =>
    refine Or.inr fun hr => ?_
    rw [pismTo, disabled_cist] at hr
    cases hr
  | aged =>
    refine Or.inr fun hr => ?_
    rw [pismTo, aged_cist] at hr
    cases hr
  | update =>
    refine Or.inr fun hr => ?_
    rw [pismTo, update_cist] at hr
    cases hr
  | superiorDesignated =>
    have hstate := pismNext_from_receive hnext (Or.inl rfl)
    refine Or.inr fun _ _ => ?_
    rw [pismTo, superiorDesignated_cist]
    have htimes := (hi.reads hstate).times hi.message.decodes
    have hexpired := hi.message.expired
    rw [← htimes] at hexpired
    simp [infoLifetime, recordedTimes, hinternal, hexpired]
  | repeatedDesignated =>
    have hstate := pismNext_from_receive hnext (Or.inl rfl)
    refine Or.inr (hother hstate PismState.noConfusion ?_)
    rw [pismTo, repeatedDesignated_cist]
    rfl
  | inferiorDesignated =>
    have hstate := pismNext_from_receive hnext (Or.inr (Or.inl rfl))
    exact Or.inr (hother hstate PismState.noConfusion (keepsRecord_cist rfl p br).2.1)
  | notDesignated =>
    have hstate := pismNext_from_receive hnext (Or.inl rfl)
    exact Or.inr (hother hstate PismState.noConfusion (keepsRecord_cist rfl p br).2.1)
  | other =>
    have hstate := pismNext_from_receive hnext (Or.inr (Or.inr rfl))
    exact Or.inr (hother hstate PismState.noConfusion (keepsRecord_cist rfl p br).2.1)
  | current =>
    rw [pismTo, current_cist]
    exact hx
  | receive =>
    have hmsg := congrArg PerTreePort.rcvdMsg (receive_cist p br)
    exact Or.inl (hmsg.trans (pismNext_entersFrom hnext).2.1)

theorem DropsExpired.pism (hi : DropsExpired p V br) {s : PismState}
    (hnext : pismNext br p 0 = some s) : DropsExpired p V (pismTo p 0 s br) := by
  have hframe := pismTo_frame p 0 s br
  have hport := hframe.port_eq
    (fun x => (x.portEnabled, x.rcvdBpdu, x.rcvdInternal, x.rcvdBpduData)) (fun _ => rfl) p
  simp only [Prod.mk.injEq] at hport
  refine ⟨hframe.enabled_eq.trans hi.running, hport.1.trans hi.enabled,
    hi.message.congr hport.2.2.2 (hframe.config_eq Bridge.mstConfigId fun _ => rfl),
    fun hrecv => ?_, ?_⟩
  · obtain rfl : s = .receive := (pismTo_state p s br).symm.trans hrecv
    exact readsMessage_receive p br
  · rw [hport.2.1, hport.2.2.1]
    exact hi.progress.imp_right fun ⟨hinternal, hx⟩ =>
      ⟨hinternal, hi.record hinternal hx hnext⟩

theorem DropsExpired.prsm (hi : DropsExpired p V br) {s : PrsmState}
    (hnext : prsmNext br p = some s) : DropsExpired p V (prsmTo p s br) := by
  obtain rfl := (prsmNext_portEnabled hnext).mp hi.enabled
  have hframe := prsmTo_frame p .receive br
  have hport := hframe.port_eq (fun x => (x.portEnabled, x.rcvdBpduData)) (fun _ => rfl) p
  have htaken := prsmToReceive_taken p br
  have hcist := prsmToReceive_cist p br
  simp only [Prod.mk.injEq] at hport
  refine ⟨hframe.enabled_eq.trans hi.running, hport.1.trans hi.enabled,
    hi.message.congr hport.2 (hframe.config_eq Bridge.mstConfigId fun _ => rfl),
    fun hrecv => ?_, ?_⟩
  · have hstate := congrArg PerTreePort.pismState hcist
    have hrec := congrArg recorded hcist
    have hmsg := congrArg (fun x : PerTreePort => (x.rcvdInfo, x.msgPriority, x.msgTimes)) hcist
    exact (hi.reads (hstate.symm.trans hrecv)).congr hport.2
      (hframe.config_eq Bridge.maxHops fun _ => rfl) hrec hmsg
  · refine Or.inr ⟨htaken.1.trans hi.message.outside, Or.inl ?_⟩
    exact congrArg PerTreePort.rcvdMsg hcist

/-- The machines of a pass. -/
theorem DropsExpired.act (hi : DropsExpired p V br) {a : Act} (ha : a.phase ≠ .idle)
    (hg : a.Guard br) : DropsExpired p V (a.run br) := by
  cases a with
  | prsm q s =>
    by_cases h : p = q
    · subst h
      exact hi.prsm hg.2.2
    · have hframe := prsmTo_frame q s br
      have hsame := prsmTo_untouched h br s
      refine hi.congr (hframe.config_eq (fun c => (c.bridgeEnabled, c.mstConfigId, c.maxHops))
        fun _ => rfl) ?_ (congrArg messageFields (hsame.2 0))
      exact congrArg (fun x : Port => (x.portEnabled, x.rcvdBpdu, x.rcvdInternal, x.rcvdBpduData))
        hsame.1
  | pism q t s =>
    by_cases h : q = p ∧ t = 0
    · obtain ⟨rfl, rfl⟩ := h
      exact hi.pism hg.2.2.2
    · have hframe := pismTo_frame q t s br
      exact hi.congr (hframe.config_eq (fun c => (c.bridgeEnabled, c.mstConfigId, c.maxHops))
        fun _ => rfl) (hframe.port_eq
        (fun x => (x.portEnabled, x.rcvdBpdu, x.rcvdInternal, x.rcvdBpduData)) (fun _ => rfl) p)
        ((pismTo_elsewhere h s br).eq messageFields fun _ => rfl)
  | prssm t =>
    have hframe := prssmToRoleSelection_frame t br
    exact hi.frame hframe (fun _ => rfl) (fun _ => rfl) fun _ => rfl
  | assurance | ppmsm | bdsm | ptsm | prtsm | pstsm | tcsm =>
    exact hi.frame (Act.frame _ br) (fun _ => rfl) (fun _ => rfl) fun _ => rfl
  | _ => exact absurd rfl ha

end Steps

/-- An invariant of the machines' actions is one of passes and runs. -/
theorem StepInv.of_acts {I : Bridge → Prop} (hrunning : ∀ b, I b → b.bridgeEnabled = true)
    (step : ∀ (a : Act) (b : Bridge), I b → a.phase ≠ .idle → a.Guard b → I (a.run b)) :
    StepInv I where
  assurance b p hi hp := step (.assurance p) b hi Phase.noConfusion ⟨hrunning b hi, hp⟩
  prsm b p s hi hp hs := step (.prsm p s) b hi Phase.noConfusion ⟨hrunning b hi, hp, hs⟩
  ppmsm b p s hi hp hs := step (.ppmsm p s) b hi Phase.noConfusion ⟨hrunning b hi, hp, hs⟩
  bdsm b p s hi hp hs := step (.bdsm p s) b hi Phase.noConfusion ⟨hrunning b hi, hp, hs⟩
  ptsm b p s hi hp hs := step (.ptsm p s) b hi Phase.noConfusion ⟨hrunning b hi, hp, hs⟩
  pism b p t s hi hp ht hs :=
    step (.pism p t s) b hi Phase.noConfusion ⟨hrunning b hi, hp, ht, hs⟩
  prssm b t hi ht hdry := step (.prssm t) b hi Phase.noConfusion ⟨hrunning b hi, ht, hdry⟩
  prtsm b p t s hi hp ht hs :=
    step (.prtsm p t s) b hi Phase.noConfusion ⟨hrunning b hi, hp, ht, hs⟩
  pstsm b p t s hi hp ht hs :=
    step (.pstsm p t s) b hi Phase.noConfusion ⟨hrunning b hi, hp, ht, hs⟩
  tcsm b p t s hi hp ht hs :=
    step (.tcsm p t s) b hi Phase.noConfusion ⟨hrunning b hi, hp, ht, hs⟩

theorem dropsExpired_stepInv (p : PortRef) (V : PortPriorityVector) : StepInv (DropsExpired p V) :=
  StepInv.of_acts (fun _ hi => hi.running) fun _ _ hi ha hg => hi.act ha hg

/-! ## Quiescence -/

section Quiescence

variable {p : PortRef} {V : PortPriorityVector} {br : Bridge}

/-- A port with a link at which nothing is left to do. -/
structure AtRest (br : Bridge) (p : PortRef) : Prop where
  selected : (br.cist p).selected = true
  updtInfo : (br.cist p).updtInfo = false
  role : (br.cist p).role = (br.cist p).selectedRole
  info : (br.cist p).role.usesInfo = true → (br.cist p).infoIs = .received

theorem AtPass.atRest {early : Bool} (h : AtPass early br) (hen : br.bridgeEnabled = true)
    (hq : Quiet br) (hp : p ∈ br.ports) (hup : (br.port p).portEnabled = true) : AtRest br p := by
  obtain ⟨rest, htrees⟩ := h.trees_head
  have h0 : 0 ∈ br.trees := by simp [htrees]
  have hready := (h.rolesFit hen).1 p hp 0 h0
  have hselected : (br.ptp p 0).selected = true := by
    by_contra hno
    have hasks := hready.asks (Bool.eq_false_iff.mpr hno)
    rw [prssmDry_reselect (hq.prssm 0 h0) hp] at hasks
    cases hasks
  have hupdt := pismNext_none_updtInfo hselected
    (fun hdown => by simp [hup] at hdown) (hq.pism p hp 0 h0)
  have hrole := prtsmNext_none_role (hq.prtsm p hp 0 h0) hselected hupdt
  exact ⟨hselected, hupdt, hrole, fun huses => hready.received rfl hselected (hrole ▸ huses)⟩

/-- Where port information rests there is no message to take and no information to age. -/
theorem pismNext_none_received {C : Act → Bridge → Prop} {k : Phase} (hv : VisitedAt C k br)
    (hrest : AtRest br p) (hnone : pismNext br p 0 = none)
    (hr : (br.cist p).infoIs = .received) :
    (br.cist p).rcvdMsg = false ∧ (br.cist p).rcvdInfoWhile ≠ 0 := by
  obtain ⟨hdisabled, haged⟩ := hv.received_state p hr
  have hmay := pismNext_none_mayRest hnone
  have hstate : (br.cist p).pismState = .current := by
    cases hs : (br.cist p).pismState <;> simp_all [PismState.mayRest]
  have hmsg : rcvdXstMsg br p 0 = (br.cist p).rcvdMsg := if_pos rfl
  have hupd : updtXstInfo br p 0 = (br.cist p).updtInfo := if_pos rfl
  have hupdt := hrest.updtInfo
  rw [pismNext] at hnone
  split at hnone
  · cases hnone
  · simp only [ptp_cist, hmsg, hupd, hstate, hr, hupdt] at hnone
    constructor
    · by_contra hno
      rw [Bool.not_eq_false] at hno
      simp [hno] at hnone
    · intro hzero
      cases hrcvd : (br.cist p).rcvdMsg <;> simp [hrcvd, hzero] at hnone

theorem DropsExpired.unused {C : Act → Bridge → Prop} {k : Phase} (hi : DropsExpired p V br)
    (hv : VisitedAt C k br) (hrest : AtRest br p) (hnone : pismNext br p 0 = none)
    (hdone : (br.port p).rcvdBpdu = false) :
    ¬ ((br.cist p).infoIs = .received ∧ (br.cist p).portPriority = V) := by
  rintro ⟨hr, hV⟩
  obtain ⟨hmsg, hwhile⟩ := pismNext_none_received hv hrest hnone hr
  rcases hi.progress with hpending | ⟨-, hpending | hunused⟩
  · rw [hdone] at hpending
    cases hpending
  · rw [hmsg] at hpending
    cases hpending
  · exact hwhile (hunused hr hV)

end Quiescence

/-! ## The operation -/

section Operation

variable {br : Bridge} {p : PortRef} {bpdu : Mem} {size : Nat} {version : UInt8}
  {mstis : Option Nat}

/-- What the port does with an accepted BPDU before the machines run. -/
theorem rxAssign_accepted (hrefusal : rxRefusal br p = none)
    (hvalid : validateBpdu bpdu size = some (version, mstis)) :
    rxAssign p bpdu size br = acceptBpdu p bpdu version mstis
      (br.setPort p fun prt => { prt with numRxBpdu := prt.numRxBpdu + 1 }) := by
  have hrefusal' :
      rxRefusal (br.setPort p fun prt => { prt with numRxBpdu := prt.numRxBpdu + 1 }) p =
      none := by
    rw [← hrefusal]
    simp only [rxRefusal, port_setPort_self]
    rfl
  simp only [rxAssign, hrefusal', hvalid]

theorem exec_rxBpdu_accepted {env : Env} {br' : Bridge} {ok : Bool}
    (hrefusal : rxRefusal br p = none) (hvalid : validateBpdu bpdu size = some (version, mstis))
    (hexec : exec env br (.rxBpdu p bpdu size) = some (br', ok)) :
    brStateMachinesRun env.late env.fuel (rxAssign p bpdu size br) = some br' := by
  have hrefusal' :
      rxRefusal (br.setPort p fun prt => { prt with numRxBpdu := prt.numRxBpdu + 1 }) p =
      none := by
    rw [← hrefusal]
    simp only [rxRefusal, port_setPort_self]
    rfl
  obtain ⟨b, hb, heq⟩ := Option.map_eq_some_iff.mp hexec
  obtain ⟨rfl, -⟩ := Prod.mk.inj heq
  rw [rxAssign_accepted hrefusal hvalid]
  simpa only [mstpInRxBpdu, hrefusal', hvalid] using hb

theorem rxAssign_port (hrefusal : rxRefusal br p = none)
    (hvalid : validateBpdu bpdu size = some (version, mstis)) :
    ((rxAssign p bpdu size br).port p).rcvdBpdu = true ∧
      ((rxAssign p bpdu size br).port p).rcvdBpduData = withVersion bpdu version := by
  rw [rxAssign_accepted hrefusal hvalid]
  simp [acceptBpdu, updtbrAssuRcvdInfoWhile]

/-- An accepted BPDU leaves the bridge and the link of the port as they are. -/
theorem rxAssign_kept (p : PortRef) (bpdu : Mem) (size : Nat) (br : Bridge) :
    (rxAssign p bpdu size br).ports = br.ports ∧
      (rxAssign p bpdu size br).bridgeEnabled = br.bridgeEnabled ∧
      ((rxAssign p bpdu size br).port p).portEnabled = (br.port p).portEnabled := by
  have hframe := rxAssign_frame p bpdu size br
  exact ⟨hframe.config_eq Bridge.ports fun _ => rfl,
    hframe.config_eq Bridge.bridgeEnabled fun _ => rfl,
    hframe.port_eq Port.portEnabled (fun _ => rfl) p⟩

theorem rxAssign_expired_iff (hrefusal : rxRefusal br p = none)
    (hvalid : validateBpdu bpdu size = some (version, mstis))
    (hold : timeField bpdu.bpdu.maxAge ≤ timeField bpdu.bpdu.messageAge) :
    ¬ (msgTimesOf (rxAssign p bpdu size br) p 0).messageAge.toNat + 1 ≤
        (msgTimesOf (rxAssign p bpdu size br) p 0).maxAge.toNat ↔ RoundedInOrder bpdu.bpdu := by
  simp only [msgTimesOf, if_true, (rxAssign_port hrefusal hvalid).2]
  exact rounded_expired_iff hold

theorem storesExpired_accepted (hrefusal : rxRefusal br p = none)
    (hvalid : validateBpdu bpdu size = some (version, mstis))
    (hkind : bpdu.bpdu.bpduType ≠ bpduTypeTcn)
    (hdesignated : roleIsDesignated (rxAssign p bpdu size br) p 0 = some true)
    (houtside : fromSameRegion (rxAssign p bpdu size br) p = false)
    (hexpired : ¬ (msgTimesOf (rxAssign p bpdu size br) p 0).messageAge.toNat + 1 ≤
      (msgTimesOf (rxAssign p bpdu size br) p 0).maxAge.toNat) :
    StoresExpired p (msgPriorityOf (rxAssign p bpdu size br) p 0) (rxAssign p bpdu size br) := by
  have hdata := (rxAssign_port hrefusal hvalid).2
  refine ⟨houtside, ?_, hdesignated, rfl, hexpired⟩
  rw [hdata]
  exact hkind

theorem rxRefusal_enabled (h : rxRefusal br p = none) : br.bridgeEnabled = true := by
  rw [rxRefusal] at h
  grind

/-- An accepted message that is too old awaits to be dropped. -/
theorem dropsExpired_accepted {V : PortPriorityVector} (hv : VisitedAt anyAct .idle br)
    (hrefusal : rxRefusal br p = none)
    (hvalid : validateBpdu bpdu size = some (version, mstis)) (hup : (br.port p).portEnabled = true)
    (hmessage : StoresExpired p V (rxAssign p bpdu size br)) :
    DropsExpired p V (rxAssign p bpdu size br) := by
  obtain ⟨-, hrunning, hlink⟩ := rxAssign_kept p bpdu size br
  refine ⟨hrunning.trans (rxRefusal_enabled hrefusal), hlink.trans hup, hmessage, fun hrecv => ?_,
    Or.inl (rxAssign_port hrefusal hvalid).1⟩
  have hstate := (rxAssign_frame p bpdu size br).ptp_eq PerTreePort.pismState (fun _ => rfl) p 0
  have hrest := hv.mayRest p Phase.noConfusion
  rw [cist, ← hstate, ← cist, hrecv] at hrest
  cases hrest

theorem Reachable.step {A : Allowed} {br' : Bridge} (h : Reachable A br) (hs : Step A br br') :
    Reachable A br' := by
  obtain ⟨env, macaddr, hrun⟩ := h
  exact ⟨env, macaddr, hrun.tail hs⟩

/-- A message from outside the region, from a Designated port, whose age has reached its maximum.
The port takes it for too old exactly where the rounding keeps the order of the two times, and
does not use it then. -/
theorem expired_message_unused {env : Env} {br' : Bridge} {ok : Bool} (hr : Reachable anyOp br)
    (hp : p ∈ br.ports) (hrefusal : rxRefusal br p = none)
    (hvalid : validateBpdu bpdu size = some (version, mstis))
    (hkind : bpdu.bpdu.bpduType ≠ bpduTypeTcn)
    (hdesignated : roleIsDesignated (rxAssign p bpdu size br) p 0 = some true)
    (houtside : fromSameRegion (rxAssign p bpdu size br) p = false)
    (hold : timeField bpdu.bpdu.maxAge ≤ timeField bpdu.bpdu.messageAge)
    (hexec : exec env br (.rxBpdu p bpdu size) = some (br', ok))
    (hquiet : brStateMachinesDry br' = false) (hdone : (br'.port p).rcvdBpdu = false) :
    (¬ (msgTimesOf (rxAssign p bpdu size br) p 0).messageAge.toNat + 1 ≤
        (msgTimesOf (rxAssign p bpdu size br) p 0).maxAge.toNat ↔ RoundedInOrder bpdu.bpdu) ∧
      (RoundedInOrder bpdu.bpdu →
        ¬ ((br'.cist p).infoIs = .received ∧
          (br'.cist p).portPriority = msgPriorityOf (rxAssign p bpdu size br) p 0) ∧
        ((br'.port p).portEnabled = true → (br'.cist p).role.usesInfo = true →
          (br'.cist p).infoIs = .received)) := by
  have hexpired := rxAssign_expired_iff hrefusal hvalid hold
  refine ⟨hexpired, fun horder => ?_⟩
  have hafter : Reachable anyOp br' := hr.step ⟨env, .rxBpdu p bpdu size, ok, hp, trivial, hexec⟩
  obtain ⟨early, hat⟩ := hafter.atPass
  have hrun := exec_rxBpdu_accepted hrefusal hvalid hexec
  have hq := quiet_of_dry hquiet
  have hmachines := (machines_stepInv (rxAssign p bpdu size br)).brRun (Frame.refl _ _) hrun
  obtain ⟨hports, hrunning, hlink⟩ := rxAssign_kept p bpdu size br
  have hp' : p ∈ br'.ports := by
    rw [hmachines.config_eq Bridge.ports fun _ => rfl, hports]
    exact hp
  have hen : br'.bridgeEnabled = true := by
    rw [hmachines.config_eq Bridge.bridgeEnabled fun _ => rfl, hrunning]
    exact rxRefusal_enabled hrefusal
  have h0 : 0 ∈ br'.trees := by
    obtain ⟨rest, htrees⟩ := hat.trees_head
    simp [htrees]
  have hnone := hq.pism p hp' 0 h0
  refine ⟨?_, fun hup huses => (hat.atRest hen hq hp' hup).info huses⟩
  by_cases hup : (br'.port p).portEnabled = true
  · have hbefore : (br.port p).portEnabled = true := by
      rw [← hlink, ← hmachines.port_eq Port.portEnabled (fun _ => rfl) p]
      exact hup
    have hmessage := storesExpired_accepted hrefusal hvalid hkind hdesignated houtside
      (hexpired.mpr horder)
    have hdrops := dropsExpired_accepted hr.visitedAt hrefusal hvalid hbefore hmessage
    have hend := (dropsExpired_stepInv p _).brRun hdrops hrun
    exact hend.unused hafter.visitedAt (hat.atRest hen hq hp' hup) hnone hdone
  · rintro ⟨hinfo, -⟩
    have hempty := pismNext_none_disabled hnone (by simpa using hup)
    exact InfoOrigin.noConfusion (hinfo.symm.trans hempty)

end Operation

/-! ## Two messages of a better root -/

/-- An RST BPDU of a root with the best identifier, with the age and a maximum of 20 seconds. -/
def agedBpdu (messageAge : UInt8 × UInt8) : Mem := fun o =>
  match o with
  | 2 => 2
  | 3 => 2
  | 4 => 0x0C
  | 27 => messageAge.1
  | 28 => messageAge.2
  | 29 => 20
  | 31 => 2
  | 33 => 15
  | _ => 0

/-- What the message does to a bridge with one port, as far as the two results need it. -/
def agedRun (messageAge : UInt8 × UInt8) (check : Bridge → Bridge → Bool) : Bool :=
  (sampleRun heldPortOps).any fun br =>
    br.ports.contains 1 && decide (rxRefusal br 1 = none) &&
      (roleIsDesignated (rxAssign 1 (agedBpdu messageAge) 36 br) 1 0 == some true) &&
      !fromSameRegion (rxAssign 1 (agedBpdu messageAge) 36 br) 1 &&
      (exec sampleEnv br (.rxBpdu 1 (agedBpdu messageAge) 36)).any fun r =>
        !brStateMachinesDry r.1 && !(r.1.port 1).rcvdBpdu && check br r.1

/-- The run in the form of the hypotheses of the theorem. -/
theorem agedRun_reached {messageAge : UInt8 × UInt8} {check : Bridge → Bridge → Bool}
    (h : agedRun messageAge check = true) :
    ∃ br br' ok, Reachable anyOp br ∧ 1 ∈ br.ports ∧ rxRefusal br 1 = none ∧
      roleIsDesignated (rxAssign 1 (agedBpdu messageAge) 36 br) 1 0 = some true ∧
      fromSameRegion (rxAssign 1 (agedBpdu messageAge) 36 br) 1 = false ∧
      exec sampleEnv br (.rxBpdu 1 (agedBpdu messageAge) 36) = some (br', ok) ∧
      brStateMachinesDry br' = false ∧ (br'.port 1).rcvdBpdu = false ∧ check br br' = true := by
  obtain ⟨br, hbr, hrun⟩ := (Option.any_eq_true _ _).mp h
  simp only [Bool.and_eq_true, Bool.not_eq_true', List.contains_iff_mem, beq_iff_eq,
    decide_eq_true_eq] at hrun
  obtain ⟨⟨⟨⟨hp, hrefusal⟩, hrole⟩, houtside⟩, hrun⟩ := hrun
  obtain ⟨⟨br', ok⟩, hexec, hrun⟩ := (Option.any_eq_true _ _).mp hrun
  simp only [Bool.and_eq_true, Bool.not_eq_true'] at hrun
  exact ⟨br, br', ok, sampleRun_reachable (fun _ _ => trivial) hbr, hp, hrefusal, hrole, houtside,
    hexec, hrun.1.1, hrun.1.2, hrun.2⟩

/-- A message that has just reached its maximum age. -/
theorem agedBpdu_unused : ∃ br br' : Bridge, Reachable anyOp br ∧ 1 ∈ br.ports ∧
    ¬ ((br'.cist 1).infoIs = .received ∧ (br'.cist 1).portPriority =
      msgPriorityOf (rxAssign 1 (agedBpdu (20, 0)) 36 br) 1 0) := by
  have hrun : agedRun (20, 0) (fun _ _ => true) = true := by decide +kernel
  obtain ⟨br, br', ok, hr, hp, hrefusal, hrole, houtside, hexec, hquiet, hdone, -⟩ :=
    agedRun_reached hrun
  have hvalid : validateBpdu (agedBpdu (20, 0)) 36 = some (protoRSTP, none) := by decide
  have hunused := expired_message_unused hr hp hrefusal hvalid (by decide) hrole houtside
    (by decide) hexec hquiet hdone
  exact ⟨br, br', hr, hp, (hunused.2 (Or.inl (by decide))).1⟩

/-- The oldest message is rounded to an age of zero, and its sender becomes the root. -/
theorem oldest_message_used : ∃ (br br' : Bridge) (ok : Bool), Reachable anyOp br ∧ 1 ∈ br.ports ∧
    rxRefusal br 1 = none ∧
    roleIsDesignated (rxAssign 1 (agedBpdu (0xFF, 0xFF)) 36 br) 1 0 = some true ∧
    fromSameRegion (rxAssign 1 (agedBpdu (0xFF, 0xFF)) 36 br) 1 = false ∧
    timeField (agedBpdu (0xFF, 0xFF)).bpdu.maxAge ≤
      timeField (agedBpdu (0xFF, 0xFF)).bpdu.messageAge ∧
    exec sampleEnv br (.rxBpdu 1 (agedBpdu (0xFF, 0xFF)) 36) = some (br', ok) ∧
    brStateMachinesDry br' = false ∧ (br'.port 1).rcvdBpdu = false ∧
    (br'.cist 1).infoIs = .received ∧ (br'.cist 1).portPriority =
      msgPriorityOf (rxAssign 1 (agedBpdu (0xFF, 0xFF)) 36 br) 1 0 ∧
    (br'.cist 1).role = .root := by
  have hrun : agedRun (0xFF, 0xFF) (fun br br' => (br'.cist 1).infoIs == .received &&
      decide ((br'.cist 1).portPriority =
        msgPriorityOf (rxAssign 1 (agedBpdu (0xFF, 0xFF)) 36 br) 1 0) &&
      (br'.cist 1).role == .root) = true := by
    decide +kernel
  obtain ⟨br, br', ok, hr, hp, hrefusal, hrole, houtside, hexec, hquiet, hdone, hcheck⟩ :=
    agedRun_reached hrun
  simp only [Bool.and_eq_true, beq_iff_eq, decide_eq_true_eq] at hcheck
  exact ⟨br, br', ok, hr, hp, hrefusal, hrole, houtside, by decide, hexec, hquiet, hdone,
    hcheck.1.1, hcheck.1.2, hcheck.2⟩

end Mstpd
