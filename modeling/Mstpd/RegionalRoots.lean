import Mstpd.DesignatedInfo

/-!
# The regional root of an MSTI names the tree

A bridge finds the message for an MSTI by the number in its regional root. The number survives
the classification, the record and the selection of roles, so that a bridge announces each MSTI
under the number of the MSTI, unless a BPDU arrives while a message of the port is pending.
-/

namespace Mstpd

open Bridge

/-- The twelve bits of an identifier that hold the number of a tree. -/
def names (t : Mstid) (id : BridgeIdentifier) : Prop := systemId id.priority = t

/-- What an entry of an MSTI holds of regional roots, from the message to the announcement. -/
structure RootsNamed (t : Mstid) (message : MstiMessage) (x : PerTreePort) : Prop where
  message : x.rcvdMsg = true → names t message.mstiRRootID
  superior : x.pismState = .receive → x.rcvdInfo = .superiorDesignatedInfo →
    names t x.msgPriority.rRootID
  received : x.infoIs = .received → names t x.portPriority.rRootID
  announced : x.selected = true → names t x.designatedPriority.rRootID

def AllRootsNamed (br : Bridge) : Prop :=
  br.bridgeEnabled = true → ∀ p ∈ br.ports, ∀ t ∈ br.trees, t ≠ 0 →
    RootsNamed t (rcvdMstiMsg br p t) (br.ptp p t)

/-- A BPDU arrives only where no message of the port for an MSTI is pending. -/
def unhurried (a : Act) (br : Bridge) : Prop :=
  match a with
  | .rxBpdu p _ _ => ∀ t ∈ br.trees, t ≠ 0 → (br.ptp p t).rcvdMsg = false
  | _ => True

/-- What an entry has received, and how far it has come with it. -/
def receivedFields (x : PerTreePort) :
    Bool × Nat × PismState × PortInfo × PortPriorityVector × InfoOrigin × PortPriorityVector :=
  (x.rcvdMsg, x.rcvdMstiConfig, x.pismState, x.rcvdInfo, x.msgPriority, x.infoIs, x.portPriority)

section Entry

variable {t : Mstid} {m : MstiMessage} {x y : PerTreePort}

theorem RootsNamed.congr (h : RootsNamed t m x) (hx : receivedFields y = receivedFields x)
    (hsel : y.selected = true → x.selected = true ∧ y.designatedPriority = x.designatedPriority) :
    RootsNamed t m y := by
  simp only [receivedFields, Prod.mk.injEq] at hx
  obtain ⟨hmsg, -, hstate, hinfo, hvector, hinfoIs, hport⟩ := hx
  constructor
  · rw [hmsg]
    exact h.message
  · rw [hstate, hinfo, hvector]
    exact h.superior
  · rw [hinfoIs, hport]
    exact h.received
  · intro hy
    obtain ⟨hbefore, hsame⟩ := hsel hy
    rw [hsame]
    exact h.announced hbefore

/-- An entry that has begun anew. -/
theorem RootsNamed.begun (hmsg : x.rcvdMsg = false) (hstate : x.pismState = .disabled)
    (hinfo : x.infoIs = .disabled) (hsel : x.selected = false) : RootsNamed t m x := by
  constructor
  · intro h
    rw [hmsg] at h
    cases h
  · intro h
    rw [hstate] at h
    cases h
  · intro h
    rw [hinfo] at h
    cases h
  · intro h
    rw [hsel] at h
    cases h

end Entry

section Steps

variable {br b : Bridge} {p : PortRef} {t : Mstid}

/-- The message of an entry is found by its index in the stored BPDU. -/
theorem rcvdMstiMsg_eq (hdata : (b.port p).rcvdBpduData = (br.port p).rcvdBpduData)
    (hindex : (b.ptp p t).rcvdMstiConfig = (br.ptp p t).rcvdMstiConfig) :
    rcvdMstiMsg b p t = rcvdMstiMsg br p t := by
  rw [rcvdMstiMsg, rcvdMstiMsg, hdata, hindex]

/-- What keeps the received fields and puts no entry into effect. -/
theorem AllRootsNamed.fewer (hi : AllRootsNamed br) (h : Fewer br b)
    (hdata : ∀ p, (b.port p).rcvdBpduData = (br.port p).rcvdBpduData)
    (hentry : ∀ p t, receivedFields (b.ptp p t) = receivedFields (br.ptp p t)) :
    AllRootsNamed b := by
  intro hen p hp t ht hne
  rw [h.ports] at hp
  rw [h.trees] at ht
  have hindex : (b.ptp p t).rcvdMstiConfig = (br.ptp p t).rcvdMstiConfig := by
    have hfields := hentry p t
    simp only [receivedFields, Prod.mk.injEq] at hfields
    exact hfields.2.1
  rw [rcvdMstiMsg_eq (hdata p) hindex]
  refine (hi (h.enabled hen) p hp t ht hne).congr (hentry p t) fun hsel => ?_
  obtain ⟨hbefore, hsame, -, -⟩ := h.entry p hp t ht hsel
  exact ⟨hbefore, congrArg Prod.fst hsame⟩

/-- A frame that keeps what is received, announced and selected. -/
theorem AllRootsNamed.frame {o : Owned} (hi : AllRootsNamed br) (hf : Frame o br b)
    (hconfig : ∀ c : Bridge, ((o.config c.config).bridgeEnabled, (o.config c.config).ports,
      (o.config c.config).trees) = (c.bridgeEnabled, c.ports, c.trees))
    (hptp : ∀ x, (receivedFields (o.ptp x), announced (o.ptp x), (o.ptp x).selected) =
      (receivedFields x, announced x, x.selected))
    (htree : ∀ x, treeInfo (o.tree x) = treeInfo x)
    (hport : ∀ x, ((o.port x).rcvdBpduData, (o.port x).portNumber) =
      (x.rcvdBpduData, x.portNumber)) : AllRootsNamed b := by
  have hfewer : Fewer br b := Fewer.of_frame hf hconfig (fun x => congrArg Prod.snd (hptp x)) htree
    fun x => congrArg Prod.snd (hport x)
  exact hi.fewer hfewer (hf.port_eq Port.rcvdBpduData fun x => congrArg Prod.fst (hport x))
    (hf.ptp_eq receivedFields fun x => congrArg Prod.fst (hptp x))

/-! ## Reception -/

/-- The message that is found for an MSTI carries its number. -/
theorem findMstiMsg_names {prt : Port} {i : Nat} (h : findMstiMsg prt t = some i) :
    names t (prt.rcvdBpduData.bpdu.mstConfiguration i).mstiRRootID := by
  have hfound := List.find?_some h
  exact beq_iff_eq.mp hfound

/-- The entry of an MSTI after reception. -/
theorem prsmToReceive_msti (ht : t ∈ br.trees) (hne : t ≠ 0) :
    (prsmToReceive p br).ptp p t =
      { br.ptp p t with
        rcvdMsg :=
          (br.ptp p t).rcvdMsg || (fromSameRegion br p && (findMstiMsg (br.port p) t).isSome)
        rcvdMstiConfig :=
          if fromSameRegion br p then (findMstiMsg (br.port p) t).getD (br.ptp p t).rcvdMstiConfig
          else (br.ptp p t).rcvdMstiConfig } := by
  simp [prsmToReceive, setRcvdMsgs, updtBPDUVersion, setMstiPtps, setPortPtps, setPtp, setPort, ht,
    hne, fromSameRegion, findMstiMsg]

theorem prsmToReceive_other {q : PortRef} (h : q ≠ p) :
    (prsmToReceive p br).ptp q t = br.ptp q t := by
  simp [prsmToReceive, setRcvdMsgs, updtBPDUVersion, setMstiPtps, setPortPtps, setPtp, setPort, h]

theorem AllRootsNamed.prsmToReceive (hi : AllRootsNamed br) (p : PortRef) :
    AllRootsNamed (prsmToReceive p br) := by
  have hframe := prsmToReceive_frame p br
  have hdata : ∀ q, ((Mstpd.prsmToReceive p br).port q).rcvdBpduData = (br.port q).rcvdBpduData :=
    hframe.port_eq Port.rcvdBpduData fun _ => rfl
  intro hen q hq t ht hne
  rw [hframe.enabled_eq] at hen
  rw [hframe.ports_eq] at hq
  rw [hframe.trees_eq] at ht
  have hbefore := hi hen q hq t ht hne
  by_cases h : q = p
  · subst h
    have hentry := prsmToReceive_msti (p := q) ht hne
    rw [rcvdMstiMsg, hdata, hentry]
    refine ⟨fun hmsg => ?_, hbefore.superior, hbefore.received, hbefore.announced⟩
    -- the message is one of those just stored, or was found in the BPDU before
    by_cases hfound : fromSameRegion br q = true ∧ (findMstiMsg (br.port q) t).isSome = true
    · obtain ⟨i, hi⟩ := Option.isSome_iff_exists.mp hfound.2
      simp only [hfound.1, if_true, hi, Option.getD_some]
      exact findMstiMsg_names hi
    · have hindex : (if fromSameRegion br q then
          (findMstiMsg (br.port q) t).getD (br.ptp q t).rcvdMstiConfig
          else (br.ptp q t).rcvdMstiConfig) = (br.ptp q t).rcvdMstiConfig := by
        split
        · rename_i hregion
          have hnone : findMstiMsg (br.port q) t = none := by
            simpa using fun hsome => hfound ⟨hregion, hsome⟩
          rw [hnone, Option.getD_none]
        · rfl
      have hold : (br.ptp q t).rcvdMsg = true := by
        simp only [Bool.or_eq_true, Bool.and_eq_true] at hmsg
        exact hmsg.resolve_right hfound
      simp only [hindex]
      exact hbefore.message hold
  · rw [rcvdMstiMsg_eq (hdata q) (by rw [prsmToReceive_other h]), prsmToReceive_other h]
    exact hbefore

/-- No message of the port is pending after it has been discarded. -/
theorem AllRootsNamed.prsmToDiscard (hi : AllRootsNamed br) (p : PortRef) :
    AllRootsNamed (prsmToDiscard p br) := by
  have hframe := prsmToDiscard_frame p br
  intro hen q hq t ht hne
  rw [hframe.enabled_eq] at hen
  rw [hframe.ports_eq] at hq
  rw [hframe.trees_eq] at ht
  have hbefore := hi hen q hq t ht hne
  have hmsg : ((Mstpd.prsmToDiscard p br).ptp q t).rcvdMsg = true →
      (br.ptp q t).rcvdMsg = true := by
    simp only [Mstpd.prsmToDiscard, clearAllRcvdMsgs, setPortPtps, setPort]
    split
    · intro h
      cases h
    · exact id
  have hrest := hframe.ptp_eq (fun x => (x.rcvdMstiConfig, x.pismState, x.rcvdInfo, x.msgPriority,
    x.infoIs, x.portPriority, x.selected, x.designatedPriority)) (fun _ => rfl) q t
  simp only [Prod.mk.injEq] at hrest
  obtain ⟨hindex, hstate, hinfo, hvector, hinfoIs, hport, hsel, hdesignated⟩ := hrest
  rw [rcvdMstiMsg_eq (hframe.port_eq Port.rcvdBpduData (fun _ => rfl) q) hindex]
  refine ⟨fun h => hbefore.message (hmsg h), ?_, ?_, ?_⟩
  · rw [hstate, hinfo, hvector]
    exact hbefore.superior
  · rw [hinfoIs, hport]
    exact hbefore.received
  · rw [hsel, hdesignated]
    exact hbefore.announced

/-! ## Port information -/

/-- What the classification of a message writes. -/
def classifyOwned : Owned where
  ptp x :=
    { x with
      pismState := .current, rcvdInfo := .otherInfo, rcvdTc := false, mastered := false
      msgPriority := 0, msgTimes := 0 }
  port x := { x with rcvdTcn := false }

theorem pismToReceive_classify (p : PortRef) (t : Mstid) (br : Bridge) :
    Frame classifyOwned br (pismToReceive p t br) := by
  have hinfo : Frame classifyOwned br (rcvInfo p t br).2 := by
    rw [rcvInfo]
    split
    · dsimp only
      exact Frame.after (Frame.setPortPtps fun _ _ => rfl) (Frame.setPort fun _ => rfl)
    · split
      · exact Frame.refl _ _
      · dsimp only
        exact Frame.setPtp fun _ => rfl
  have hmastered : ∀ b : Bridge, Frame classifyOwned b (recordMastered p t b) := by
    intro b
    rw [recordMastered]
    exact Frame.ite (Frame.setMstiPtps fun _ _ => rfl) (Frame.setPtp fun _ => rfl)
  rw [pismToReceive]
  exact Frame.after (hmastered _) (Frame.after (Frame.setPtp fun _ => rfl) hinfo)

theorem pismTo_rcvdMsg (p : PortRef) (t : Mstid) (s : PismState) (br : Bridge)
    (h : ((pismTo p t s br).ptp p t).rcvdMsg = true) : (br.ptp p t).rcvdMsg = true := by
  cases s with
  | disabled | superiorDesignated | repeatedDesignated | inferiorDesignated | notDesignated
  | other =>
    simp [pismTo, pismToDisabled, pismToSuperiorDesignated, pismToRepeatedDesignated,
      pismToInferiorDesignated, pismToNotDesignated, pismToOther] at h
  | aged | current => simpa [pismTo, pismToAged, pismToCurrent] using h
  | update => simpa [pismTo, pismToUpdate, setNewInfo, setPort] using h
  | receive =>
    have hkeep := (pismToReceive_classify p t br).ptp_eq PerTreePort.rcvdMsg (fun _ => rfl) p t
    exact hkeep ▸ h

/-- The entry of an MSTI with superior information. -/
theorem superiorDesignated_msti (hne : t ≠ 0) (br : Bridge) :
    receivedFields ((pismToSuperiorDesignated p t br).ptp p t) =
      (false, (br.ptp p t).rcvdMstiConfig, .superiorDesignated, (br.ptp p t).rcvdInfo,
        (br.ptp p t).msgPriority, .received, (br.ptp p t).msgPriority) := by
  simp [receivedFields, pismToSuperiorDesignated, recordProposal, setTcFlags, recordAgreement,
    recordPriority, recordTimes, updtRcvdInfoWhile, setPort, hne]

/-- Every state of the machine but `RECEIVE` leaves the message behind it. -/
theorem pismTo_receive_iff (hne : t ≠ 0) (s : PismState) (br : Bridge) :
    ((pismTo p t s br).ptp p t).pismState = .receive ↔ s = .receive := by
  cases s with
  | disabled | aged | update | current | other =>
    simp [pismTo, pismToDisabled, pismToAged, pismToUpdate, setNewInfo, setPort, pismToCurrent,
      pismToOther]
  | inferiorDesignated | notDesignated =>
    simp [pismTo, pismToInferiorDesignated, pismToNotDesignated]
  | superiorDesignated =>
    have hfields := superiorDesignated_msti (p := p) hne br
    simp only [receivedFields, Prod.mk.injEq] at hfields
    simp [pismTo, hfields.2.2.1]
  | repeatedDesignated =>
    simp [pismTo, pismToRepeatedDesignated, recordProposal, setTcFlags, recordAgreement,
      updtRcvdInfoWhile, hne]
  | receive => simp [pismTo, pismToReceive, recordMastered, hne]

/-- The vector of a message that is superior is the one in the message. -/
theorem receive_superior_root (hne : t ≠ 0) (br : Bridge)
    (h : ((pismToReceive p t br).ptp p t).rcvdInfo = .superiorDesignatedInfo) :
    ((pismToReceive p t br).ptp p t).msgPriority.rRootID = (rcvdMstiMsg br p t).mstiRRootID := by
  simp only [pismToReceive, recordMastered, hne, if_false, setPtp_self] at h ⊢
  by_cases htcn : (br.port p).rcvdBpduData.bpdu.bpduType = bpduTypeTcn
  · simp [rcvInfo, htcn] at h
  · cases hrole : roleIsDesignated br p t with
    | none => simp [rcvInfo, htcn, hrole] at h
    | some designated => simp [rcvInfo, htcn, hrole, msgPriorityOf, hne]

/-- Received information is what it was, except where it has just been recorded. -/
theorem pismTo_received {s : PismState} (hs : s ≠ .superiorDesignated) (br : Bridge)
    (h : ((pismTo p t s br).ptp p t).infoIs = .received) :
    (br.ptp p t).infoIs = .received ∧
      ((pismTo p t s br).ptp p t).portPriority = (br.ptp p t).portPriority := by
  have hmessage : Frame messageOwned br (pismTo p t s br) → (br.ptp p t).infoIs = .received ∧
      ((pismTo p t s br).ptp p t).portPriority = (br.ptp p t).portPriority := by
    intro hframe
    have hfields := hframe.ptp_eq (fun x => (x.infoIs, x.portPriority)) (fun _ => rfl) p t
    rw [Prod.mk.injEq] at hfields
    exact ⟨hfields.1 ▸ h, hfields.2⟩
  cases s with
  | superiorDesignated => exact absurd rfl hs
  | disabled => simp [pismTo, pismToDisabled] at h
  | aged => simp [pismTo, pismToAged] at h
  | update => simp [pismTo, pismToUpdate, setNewInfo, setPort] at h
  | repeatedDesignated => exact hmessage (pismToRepeatedDesignated_frame p t br)
  | inferiorDesignated => exact hmessage (pismToInferiorDesignated_frame p t br)
  | notDesignated => exact hmessage (pismToNotDesignated_frame p t br)
  | other => exact hmessage (pismToOther_frame p t br)
  | current => exact hmessage (pismToCurrent_frame p t br)
  | receive => exact hmessage (pismToReceive_frame p t br)

/-- The machine receives where a message is pending. -/
theorem pismNext_receive_pending (hne : t ≠ 0) (h : pismNext br p t = some .receive) :
    (br.ptp p t).rcvdMsg = true := by
  simp only [pismNext] at h
  cases hstate : (br.ptp p t).pismState <;> simp only [hstate] at h
  case current =>
    by_cases hmsg : (br.ptp p t).rcvdMsg = true
    · exact hmsg
    · simp [rcvdXstMsg, hne, hmsg] at h
      grind
  all_goals grind

/-- The machine records a message as superior that has just been classified so. -/
theorem pismNext_superior (h : pismNext br p t = some .superiorDesignated) :
    (br.ptp p t).pismState = .receive ∧ (br.ptp p t).rcvdInfo = .superiorDesignatedInfo := by
  simp only [pismNext] at h
  cases hstate : (br.ptp p t).pismState <;> simp only [hstate] at h
  case receive =>
    cases hinfo : (br.ptp p t).rcvdInfo <;> simp only [hinfo] at h
    all_goals grind
  all_goals grind

theorem RootsNamed.pism {s : PismState} (hne : t ≠ 0) (hp : p ∈ br.ports) (ht : t ∈ br.trees)
    (h : RootsNamed t (rcvdMstiMsg br p t) (br.ptp p t)) (hnext : pismNext br p t = some s) :
    RootsNamed t (rcvdMstiMsg br p t) ((pismTo p t s br).ptp p t) := by
  constructor
  · exact fun hmsg => h.message (pismTo_rcvdMsg p t s br hmsg)
  · intro hstate hinfo
    have hs := (pismTo_receive_iff hne s br).mp hstate
    subst hs
    have hpending := pismNext_receive_pending hne hnext
    rw [pismTo] at hinfo ⊢
    rw [receive_superior_root hne br hinfo]
    exact h.message hpending
  · intro hinfo
    by_cases hs : s = .superiorDesignated
    · subst hs
      obtain ⟨hstate, hsuperior⟩ := pismNext_superior hnext
      have hfields := superiorDesignated_msti (p := p) hne br
      simp only [receivedFields, Prod.mk.injEq] at hfields
      rw [pismTo, hfields.2.2.2.2.2.2]
      exact h.superior hstate hsuperior
    · obtain ⟨hbefore, hsame⟩ := pismTo_received hs br hinfo
      rw [hsame]
      exact h.received hbefore
  · intro hsel
    obtain ⟨hbefore, hsame, -, -⟩ := (pismTo_fewer p t s br).entry p hp t ht hsel
    have hdesignated := congrArg Prod.fst hsame
    simp only [Mstpd.announced] at hdesignated
    rw [hdesignated]
    exact h.announced hbefore

theorem AllRootsNamed.pismTo (hi : AllRootsNamed br) {s : PismState} (ht : t ∈ br.trees)
    (hp : p ∈ br.ports) (hnext : pismNext br p t = some s) : AllRootsNamed (pismTo p t s br) := by
  have hframe := pismTo_frame p t s br
  have hfewer := pismTo_fewer p t s br
  intro hen q hq u hu hne
  rw [hframe.ports_eq] at hq
  rw [hframe.trees_eq] at hu
  have hbefore := hi (hfewer.enabled hen) q hq u hu hne
  rw [rcvdMstiMsg_eq (hframe.port_eq Port.rcvdBpduData (fun _ => rfl) q)
    (hframe.ptp_eq PerTreePort.rcvdMstiConfig (fun _ => rfl) q u)]
  by_cases h : q = p ∧ u = t
  · obtain ⟨rfl, rfl⟩ := h
    exact hbefore.pism hne hq hu hnext
  · refine hbefore.congr ((pismTo_local p t s br).eq receivedFields (fun _ => rfl) h) fun hsel => ?_
    obtain ⟨hold, hsame, -, -⟩ := hfewer.entry q hq u hu hsel
    exact ⟨hold, congrArg Prod.fst hsame⟩

/-! ## Role selection -/

/-- The root of a tree is the bridge itself or was received for the tree. -/
theorem rootVectorOf_names (hne : t ≠ 0) (hown : names t (br.tree t).bridgePriority.rRootID)
    (hi : ∀ p ∈ br.ports, (br.ptp p t).infoIs = .received →
      names t (br.ptp p t).portPriority.rRootID) : names t (rootVectorOf br t).1.rRootID := by
  rcases @rootVectorOf_candidate br t with hself | ⟨q, helig, hpath⟩
  · rw [hself]
    exact hown
  · rw [hpath]
    have hname := hi q helig.1 helig.2.1
    simp only [rootPathVector, rootPathPriority, hne, if_false]
    split <;> exact hname

/-- Each tree would name itself if the bridge were its root. -/
def OwnRootsNamed (br : Bridge) : Prop := ∀ t ∈ br.trees, names t (br.tree t).bridgePriority.rRootID

theorem Configured.ownRootsNamed (hc : Configured br) : OwnRootsNamed br := by
  intro t ht
  rw [(hc.trees t ht).priority]
  exact (hc.trees t ht).number

theorem AllRootsNamed.roleSelection (hi : AllRootsNamed br) (hown : OwnRootsNamed br)
    (ht : t ∈ br.trees) : AllRootsNamed (prssmToRoleSelection t br) := by
  have hframe := prssmToRoleSelection_frame t br
  intro hen q hq u hu hne
  rw [hframe.enabled_eq] at hen
  rw [hframe.ports_eq] at hq
  rw [hframe.trees_eq] at hu
  have hbefore := hi hen q hq u hu hne
  rw [rcvdMstiMsg_eq (hframe.port_eq Port.rcvdBpduData (fun _ => rfl) q)
    (hframe.ptp_eq PerTreePort.rcvdMstiConfig (fun _ => rfl) q u)]
  by_cases h : u = t
  · subst h
    have hroot := rootVectorOf_names hne (hown u ht) fun p hp => (hi hen p hp u ht hne).received
    rw [roleSelection_self u hq]
    refine ⟨hbefore.message, hbefore.superior, hbefore.received, fun _ => ?_⟩
    simpa [newDesignatedPriority, designatedPriorityOf, hne] using hroot
  · have hreceived := roleSelection_other_eq receivedFields (fun _ => rfl) h br q
    refine hbefore.congr hreceived fun hsel => ?_
    have hother := roleSelection_other_eq (fun x => (x.selected, x.designatedPriority))
      (fun _ => rfl) h br q
    rw [Prod.mk.injEq] at hother
    exact ⟨hother.1 ▸ hsel, hother.2⟩

/-! ## BEGIN -/

/-- Port information that begins holds nothing yet. -/
theorem AllRootsNamed.pismBegin (hi : AllRootsNamed br) (p : PortRef) (t : Mstid) :
    AllRootsNamed (pismBegin p t br) := by
  have hframe := pismBegin_frame p t br
  have hfewer := pismBegin_fewer p t br
  intro hen q hq u hu hne
  rw [hframe.ports_eq] at hq
  rw [hframe.trees_eq] at hu
  by_cases h : q = p ∧ u = t
  · obtain ⟨rfl, rfl⟩ := h
    refine RootsNamed.begun ?_ ?_ ?_ ?_
    all_goals simp [Mstpd.pismBegin, pismToDisabled]
  · rw [rcvdMstiMsg_eq (hframe.port_eq Port.rcvdBpduData (fun _ => rfl) q)
      (by rw [pismBegin_other h]), pismBegin_other h]
    exact hi (hfewer.enabled hen) q hq u hu hne

theorem ownRootsNamed_congr (hown : OwnRootsNamed br) (htrees : b.trees = br.trees)
    (h : ∀ t, (b.tree t).bridgePriority = (br.tree t).bridgePriority) : OwnRootsNamed b := by
  intro t ht
  rw [h t]
  exact hown t (htrees ▸ ht)

theorem ownRootsNamed_begin : BeginInv OwnRootsNamed := by
  refine BeginInv.of_pism (fun b b' hf hb => ?_) fun b p t hb _ _ => ?_
  · exact ownRootsNamed_congr hb hf.trees_eq (hf.tree_eq Tree.bridgePriority fun _ => rfl)
  · have hframe := pismBegin_frame p t b
    exact ownRootsNamed_congr hb hframe.trees_eq (hframe.tree_eq Tree.bridgePriority fun _ => rfl)

theorem allRootsNamed_begin : BeginInv AllRootsNamed where
  prsm _ p hi _ := hi.prsmToDiscard p
  ppmsm b p hi _ := hi.frame (ppmsmToCheckingRstp_frame p b) (fun _ => rfl) (fun _ => rfl)
    (fun _ => rfl) fun _ => rfl
  bdsm b p hi _ := hi.frame (bdsmTo_frame p _ b) (fun _ => rfl) (fun _ => rfl) (fun _ => rfl)
    fun _ => rfl
  ptsm b p hi _ := hi.frame (ptsmToTransmitInit_frame p b) (fun _ => rfl) (fun _ => rfl)
    (fun _ => rfl) fun _ => rfl
  pism _ p t hi _ _ := hi.pismBegin p t
  initTree b t hi _ := hi.frame (prssmToInitTree_frame t b) (fun _ => rfl) (fun _ => rfl)
    (fun _ => rfl) fun _ => rfl
  prtsm b p t hi _ _ := hi.frame (prtsmToInitPort_frame p t b) (fun _ => rfl) (fun _ => rfl)
    (fun _ => rfl) fun _ => rfl
  pstsm b p t hi _ _ := hi.frame (pstsmTo_frame p t .discarding b) (fun _ => rfl) (fun _ => rfl)
    (fun _ => rfl) fun _ => rfl
  tcsm b p t hi _ _ := hi.frame (tcsmToInactive_frame p t b) (fun _ => rfl) (fun _ => rfl)
    (fun _ => rfl) fun _ => rfl

theorem BeginInv.and {I J : Bridge → Prop} (hI : BeginInv I) (hJ : BeginInv J) :
    BeginInv fun b => I b ∧ J b where
  prsm b p hi hp := ⟨hI.prsm b p hi.1 hp, hJ.prsm b p hi.2 hp⟩
  ppmsm b p hi hp := ⟨hI.ppmsm b p hi.1 hp, hJ.ppmsm b p hi.2 hp⟩
  bdsm b p hi hp := ⟨hI.bdsm b p hi.1 hp, hJ.bdsm b p hi.2 hp⟩
  ptsm b p hi hp := ⟨hI.ptsm b p hi.1 hp, hJ.ptsm b p hi.2 hp⟩
  pism b p t hi hp ht := ⟨hI.pism b p t hi.1 hp ht, hJ.pism b p t hi.2 hp ht⟩
  initTree b t hi ht := ⟨hI.initTree b t hi.1 ht, hJ.initTree b t hi.2 ht⟩
  prtsm b p t hi hp ht := ⟨hI.prtsm b p t hi.1 hp ht, hJ.prtsm b p t hi.2 hp ht⟩
  pstsm b p t hi hp ht := ⟨hI.pstsm b p t hi.1 hp ht, hJ.pstsm b p t hi.2 hp ht⟩
  tcsm b p t hi hp ht := ⟨hI.tcsm b p t hi.1 hp ht, hJ.tcsm b p t hi.2 hp ht⟩

/-- Port information that has begun in a list of entries. -/
theorem pismBegins_fresh {refs : List (PortRef × Mstid)} (h : (p, t) ∈ refs) (br : Bridge) :
    let x := (forAll (fun o => Mstpd.pismBegin o.1 o.2) refs br).ptp p t
    (x.rcvdMsg, x.pismState, x.infoIs, x.selected) = (false, .disabled, .disabled, false) := by
  have hself : ∀ b, (((Mstpd.pismBegin p t b).ptp p t).rcvdMsg,
      ((Mstpd.pismBegin p t b).ptp p t).pismState, ((Mstpd.pismBegin p t b).ptp p t).infoIs,
      ((Mstpd.pismBegin p t b).ptp p t).selected) = (false, .disabled, .disabled, false) := by
    intro b
    simp [Mstpd.pismBegin, pismToDisabled]
  refine forAll_reaches (I := fun b => ((b.ptp p t).rcvdMsg, (b.ptp p t).pismState,
    (b.ptp p t).infoIs, (b.ptp p t).selected) = (false, .disabled, .disabled, false)) h hself
    (fun o b hb => ?_) br
  by_cases hsame : p = o.1 ∧ t = o.2
  · rw [← hsame.1, ← hsame.2]
    exact hself b
  · rw [pismBegin_other hsame]
    exact hb

/-- After BEGIN no entry holds anything, whatever there was before. -/
theorem allRootsNamed_bridgeBegin (br : Bridge) : AllRootsNamed (bridgeBegin br) := by
  by_cases hon : br.bridgeEnabled = true
  · have hrefs : ∀ o ∈ br.ptpRefs, o.1 ∈ br.ports ∧ o.2 ∈ br.trees := fun o => mem_ptpRefs.mp
    have hports := portMachinesBegin_frame br.ports br
    have hpism := pismBegins_frame br.ptpRefs (portMachinesBegin br.ports br)
    have hfresh : OnLists br.ports br.trees AllRootsNamed
        (forAll (fun o => Mstpd.pismBegin o.1 o.2) br.ptpRefs (portMachinesBegin br.ports br)) := by
      refine ⟨?_, hpism.ports_eq.trans hports.ports_eq, hpism.trees_eq.trans hports.trees_eq⟩
      intro _ p hp t ht _
      rw [hpism.ports_eq, hports.ports_eq] at hp
      rw [hpism.trees_eq, hports.trees_eq] at ht
      have hx := pismBegins_fresh (mem_ptpRefs.mpr ⟨hp, ht⟩) (portMachinesBegin br.ports br)
      simp only [Prod.mk.injEq] at hx
      exact RootsNamed.begun hx.1 hx.2.1 hx.2.2.1 hx.2.2.2
    rw [bridgeBegin, if_pos hon]
    refine (allRootsNamed_begin.ptpMachines (forAll_inv (fun t ht b hb => ?_) hfresh) hrefs).1
    exact hb.frame (prssmToInitTree_frame t b)
      (allRootsNamed_begin.initTree b t hb.1 (hb.2.2 ▸ ht))
  · rw [bridgeBegin_disabled (by simpa using hon)]
    exact fun hen => absurd hen hon

/-! ## New ports and trees -/

theorem AllRootsNamed.addPort (hi : AllRootsNamed br) {p : PortRef} (portno : UInt16)
    (name : String) (speed duplex : Int) :
    AllRootsNamed (addPort p portno name speed duplex br) := by
  intro hen q hq t ht hne
  have htrees : t ∈ br.trees := ht
  by_cases h : q = p
  · subst h
    refine RootsNamed.begun ?_ ?_ ?_ ?_
    all_goals simp [Mstpd.addPort, setPortPtps, setPort, htrees, createPtp, ptpDefaultInternalVars]
  · have hold : q ∈ br.ports := by
      rcases List.mem_append.mp hq with hold | hnew
      · exact hold
      · exact absurd (List.mem_singleton.mp hnew) h
    have hother : ¬ (q = p ∧ t ∈ br.trees) := fun hand => h hand.1
    have hentry : (Mstpd.addPort p portno name speed duplex br).ptp q t = br.ptp q t := by
      simp only [Mstpd.addPort, setPortPtps, setPort, if_neg hother]
    have hdata : ((Mstpd.addPort p portno name speed duplex br).port q).rcvdBpduData =
        (br.port q).rcvdBpduData := by
      simp only [Mstpd.addPort, setPortPtps, setPort, if_neg h]
    rw [rcvdMstiMsg_eq hdata (by rw [hentry]), hentry]
    exact hi hen q hold t htrees hne

theorem AllRootsNamed.addTree (hi : AllRootsNamed br) {mstid : UInt16} {trees : List Mstid}
    (htrees : ∀ s ∈ trees, s = mstid ∨ s ∈ br.trees) : AllRootsNamed (addTree mstid trees br) := by
  intro hen q hq s hs hne
  have hports : q ∈ br.ports := hq
  by_cases h : s = mstid
  · subst h
    refine RootsNamed.begun ?_ ?_ ?_ ?_
    all_goals simp [Mstpd.addTree, setTreePtps, setTree, hports, createPtp, ptpDefaultInternalVars]
  · have hother : ¬ (s = mstid ∧ q ∈ br.ports) := fun hand => h hand.1
    have hentry : (Mstpd.addTree mstid trees br).ptp q s = br.ptp q s := by
      simp only [Mstpd.addTree, setTreePtps, setTree, if_neg hother]
    have hdata : ((Mstpd.addTree mstid trees br).port q).rcvdBpduData = (br.port q).rcvdBpduData :=
      rfl
    rw [rcvdMstiMsg_eq hdata (by rw [hentry]), hentry]
    exact hi hen q hports s ((htrees s hs).resolve_left h) hne

theorem OwnRootsNamed.addTree (hown : OwnRootsNamed br) {mstid : UInt16} {trees : List Mstid}
    (hmax : mstid.toNat ≤ maxMstid) (htrees : ∀ s ∈ trees, s = mstid ∨ s ∈ br.trees) :
    OwnRootsNamed (addTree mstid trees br) := by
  intro s hs
  rw [Mstpd.addTree]
  simp only [setTreePtps, setTree]
  split
  · rename_i h
    subst h
    refine systemId_default ?_
    exact hmax.trans (by decide)
  · rename_i h
    exact hown s ((htrees s hs).resolve_left h)

/-- A BPDU that arrives while no message is pending replaces none. -/
theorem AllRootsNamed.rxAssign (hi : AllRootsNamed br) (bpdu : Mem) (size : Nat)
    (hnone : ∀ t ∈ br.trees, t ≠ 0 → (br.ptp p t).rcvdMsg = false) :
    AllRootsNamed (rxAssign p bpdu size br) := by
  have hframe := rxAssign_frame p bpdu size br
  have hentry : ∀ q t, (Mstpd.rxAssign p bpdu size br).ptp q t = br.ptp q t :=
    hframe.ptp_eq id fun _ => rfl
  intro hen q hq t ht hne
  rw [hframe.config_eq Bridge.bridgeEnabled fun _ => rfl] at hen
  rw [hframe.config_eq Bridge.ports fun _ => rfl] at hq
  rw [hframe.config_eq Bridge.trees fun _ => rfl] at ht
  have hbefore := hi hen q hq t ht hne
  rw [hentry]
  by_cases h : q = p
  · subst h
    refine ⟨fun hmsg => ?_, hbefore.superior, hbefore.received, hbefore.announced⟩
    rw [hnone t ht hne] at hmsg
    cases hmsg
  · have hdata : ((Mstpd.rxAssign p bpdu size br).port q).rcvdBpduData = (br.port q).rcvdBpduData :=
      congrArg Port.rcvdBpduData (rxAssign_untouched h br bpdu size).1
    rw [rcvdMstiMsg_eq hdata (by rw [hentry])]
    exact hbefore

end Steps

/-! ## Over runs -/

section Runs

variable {br : Bridge}

/-- The operations that end with BEGIN, or leave what is received as it was. -/
theorem Act.keeps_or_begin {a : Act} (ha : a.restarts = true) :
    Frame managementOwned br (a.run br) ∨ ∃ b, a.run br = bridgeBegin b := by
  have hite : ∀ (c : Bool) (b : Bridge), Frame managementOwned br b →
      Frame managementOwned br (if c then bridgeBegin b else b) ∨
        ∃ b', (if c then bridgeBegin b else b) = bridgeBegin b' := by
    intro c b hb
    cases c with
    | true => exact Or.inr ⟨b, rfl⟩
    | false => exact Or.inl hb
  cases a with
  | bridgeAddress macaddr => exact hite _ _ (writeAddress_frame macaddr br)
  | bridgeConfig cfg => exact hite _ _ (writeBridgeConfig_opFrame cfg br).frame
  | tables env changed vid2fid fid2mstid =>
    exact hite _ _ (writeTables_frame env changed vid2fid fid2mstid br)
  | configId revision name => exact Or.inr ⟨_, rfl⟩
  | _ => cases ha

/-- Management that puts no entry into effect. -/
theorem AllRootsNamed.managed {b : Bridge} (hi : AllRootsNamed br) (hf : Frame managementOwned br b)
    (h : Fewer br b) : AllRootsNamed b :=
  hi.fewer h (hf.port_eq Port.rcvdBpduData fun _ => rfl) (hf.ptp_eq receivedFields fun _ => rfl)

theorem AllRootsNamed.act (hi : AllRootsNamed br) (hc : Configured br) {a : Act} (hg : a.Guard br)
    (hC : unhurried a br) : AllRootsNamed (a.run br) := by
  have hown := hc.ownRootsNamed
  have hquiet : a.relabels = false → Frame managementOwned br (a.run br) →
      AllRootsNamed (a.run br) := by
    intro ha hf
    have hcases : Fewer br (a.run br) ∨ ∃ b, a.run br = bridgeBegin b := Act.fewer_or_begin ha
    rcases hcases with hfewer | ⟨b, hb⟩
    · exact hi.managed hf hfewer
    · rw [hb]
      exact allRootsNamed_bridgeBegin b
  have hrestart : a.restarts = true → a.relabels = false → AllRootsNamed (a.run br) := by
    intro ha hrelabels
    have hcases : Frame managementOwned br (a.run br) ∨ ∃ b, a.run br = bridgeBegin b :=
      Act.keeps_or_begin ha
    rcases hcases with hf | ⟨b, hb⟩
    · exact hquiet hrelabels hf
    · rw [hb]
      exact allRootsNamed_bridgeBegin b
  cases a with
  | prsm p s =>
    cases s with
    | discard => exact hi.prsmToDiscard p
    | receive => exact hi.prsmToReceive p
  | pism p t s => exact hi.pismTo hg.2.2.1 hg.2.1 hg.2.2.2
  | prssm t => exact hi.roleSelection hown hg.2.1
  | rxBpdu p bpdu size => exact hi.rxAssign bpdu size hC
  | createPort q portno name speed duplex =>
    have hlisted : q ∈ (Mstpd.addPort q portno name speed duplex br).ports :=
      List.mem_append_right _ List.mem_cons_self
    have hboth := allRootsNamed_begin.and ownRootsNamed_begin
    refine (hboth.port (fun b t hb ht _ => ⟨hb.1.roleSelection hb.2 ht, ?_⟩) hlisted
      ⟨hi.addPort portno name speed duplex, hown⟩).1
    have hframe := prssmToRoleSelection_frame t b
    exact ownRootsNamed_congr hb.2 hframe.trees_eq (hframe.tree_eq Tree.bridgePriority fun _ => rfl)
  | createMsti mstid trees =>
    have hmem := insertAfterLast_mem hg.2.2.2.2
    have hlisted : mstid ∈ (Mstpd.addTree mstid trees br).trees := (hmem mstid).mpr (Or.inl rfl)
    exact allRootsNamed_begin.tree hlisted (hi.addTree fun s hs => (hmem s).mp hs)
  | removePort q => exact fun hen p hp => hi hen p (List.mem_of_mem_erase hp)
  | removeMsti u => exact fun hen p hp t ht => hi hen p hp t (List.mem_of_mem_erase ht)
  | switchBridge up => exact allRootsNamed_bridgeBegin _
  | bridgeAddress _ | bridgeConfig _ | tables _ _ _ _ | configId _ _ => exact hrestart rfl rfl
  | mstiBridgeConfig t prio => exact hquiet rfl (Act.frame (.mstiBridgeConfig t prio) br)
  | portConfig p cfg => exact hquiet rfl (Act.frame (.portConfig p cfg) br)
  | mstiPortConfig p t cfg => exact hquiet rfl (Act.frame (.mstiPortConfig p t cfg) br)
  | mcheck p => exact hquiet rfl (Act.frame (.mcheck p) br)
  | sysdeps p speed duplex => exact hquiet rfl (Act.frame (.sysdeps p speed duplex) br)
  | _ => exact hi.frame (Act.frame _ br) (fun _ => rfl) (fun _ => rfl) (fun _ => rfl) fun _ => rfl

end Runs

end Mstpd
