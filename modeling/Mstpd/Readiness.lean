import Mstpd.FinalRoles

/-!
# Messages that wait

A bridge that has come to rest has read what its ports received. The one place where a message can
wait is an MSTI whose information has aged and need not be written again.
-/

namespace Mstpd

open Bridge Machine

/-! ## Aged information -/

/-- What `samePriorityAndTimers` compares for an MSTI. -/
def vectorsOf (x : PerTreePort) : PortPriorityVector × PortPriorityVector × UInt8 × UInt8 :=
  (x.portPriority, x.designatedPriority, x.portTimes.remainingHops,
    x.designatedTimes.remainingHops)

/-- The record is what the port announces itself. -/
def Echoes (x : PerTreePort) : Prop :=
  samePriorityAndTimers x.portPriority x.designatedPriority x.portTimes x.designatedTimes
    false = true

/-- Aged information for which roles have been selected is to be written again, but for what an
MSTI announces already. -/
structure AgedEntry (t : Mstid) (x : PerTreePort) : Prop where
  info : x.pismState = .aged ↔ x.infoIs = .aged
  update : x.infoIs = .aged → x.selected = true → x.updtInfo = true ∨ t ≠ 0 ∧ Echoes x

def AllAged (br : Bridge) : Prop := ∀ p ∈ br.ports, ∀ t ∈ br.trees, AgedEntry t (br.ptp p t)

section Entries

variable {t : Mstid} {x y : PerTreePort}

theorem Echoes.congr (h : Echoes x) (hsame : vectorsOf y = vectorsOf x) : Echoes y := by
  simp only [vectorsOf, Prod.mk.injEq] at hsame
  obtain ⟨hport, hdesignated, hhops, hhops'⟩ := hsame
  simpa only [Echoes, samePriorityAndTimers, hport, hdesignated, hhops, hhops', Bool.not_false,
    Bool.true_or] using h

theorem AgedEntry.waiting (h : Waiting x) : AgedEntry t x := by
  simp only [Waiting, Prod.mk.injEq] at h
  obtain ⟨-, -, hinfo, hstate⟩ := h
  constructor
  · rw [hstate, hinfo]
    decide
  · intro haged
    rw [hinfo] at haged
    cases haged

/-- Entries that differ in what is not aged information, or ask to be selected. -/
theorem AgedEntry.asksAgain (h : AgedEntry t x) (hagain : AsksAgain x y)
    (hsame : vectorsOf y = vectorsOf x) : AgedEntry t y := by
  rcases hagain with hkept | hasks
  · simp only [roleFields, Prod.mk.injEq] at hkept
    obtain ⟨hselected, -, hinfo, hstate, -, hupdt, -⟩ := hkept
    constructor
    · rw [hstate, hinfo]
      exact h.info
    · rw [hinfo, hselected, hupdt]
      intro haged hsel
      exact (h.update haged hsel).imp_right fun hecho => ⟨hecho.1, hecho.2.congr hsame⟩
  · simp only [roleFields, Prod.mk.injEq] at hasks
    obtain ⟨hselected, -, hinfo, hstate, -⟩ := hasks
    constructor
    · rw [hstate, hinfo]
      exact h.info
    · intro _ hsel
      rw [hselected] at hsel
      cases hsel

end Entries

/-! ## What an action does to it -/

section Actions

variable {br br' : Bridge}

theorem AllAged.managed (hi : AllAged br) (h : Managed br br')
    (hsame : ∀ p t, vectorsOf (br'.ptp p t) = vectorsOf (br.ptp p t)) : AllAged br' := by
  intro p hp t ht
  rcases h p hp t ht with hwaiting | ⟨hpold, htold, hagain⟩
  · exact AgedEntry.waiting hwaiting
  · exact (hi p hpold t htold).asksAgain hagain (hsame p t)

/-- The fields of aged information. -/
def agedFields (x : PerTreePort) : (PismState × InfoOrigin × Bool × Bool) ×
    PortPriorityVector × PortPriorityVector × UInt8 × UInt8 :=
  ((x.pismState, x.infoIs, x.selected, x.updtInfo), vectorsOf x)

theorem AgedEntry.congr {t : Mstid} {x y : PerTreePort} (h : AgedEntry t x)
    (hsame : agedFields y = agedFields x) : AgedEntry t y := by
  simp only [agedFields, Prod.mk.injEq] at hsame
  obtain ⟨⟨hstate, hinfo, hselected, hupdt⟩, hvectors⟩ := hsame
  constructor
  · rw [hstate, hinfo]
    exact h.info
  · rw [hinfo, hselected, hupdt]
    intro haged hsel
    exact (h.update haged hsel).imp_right fun hecho => ⟨hecho.1, hecho.2.congr hvectors⟩

theorem AllAged.frame (hi : AllAged br) {o : Owned} [o.KeepsLists] (hf : Frame o br br')
    (ho : ∀ x, agedFields (o.ptp x) = agedFields x) : AllAged br' := by
  intro p hp t ht
  rw [hf.ports_eq] at hp
  rw [hf.trees_eq] at ht
  exact (hi p hp t ht).congr (hf.ptp_eq agedFields ho p t)

/-! ## The state of the machine -/

/-- The flags and the message itself, but not what the machine counts and where it stands. -/
def flagsOwned : Owned where
  ptp x :=
    { messageOwned.ptp x with
      pismState := x.pismState, rcvdMsg := x.rcvdMsg, rcvdInfoWhile := x.rcvdInfoWhile }
  port := messageOwned.port

/-- What is recorded of a message, but not the state of the machine. -/
def recordOwned : Owned where
  ptp x := { informationOwned.ptp x with pismState := x.pismState }
  port := messageOwned.port

instance : flagsOwned.Within recordOwned :=
  ⟨fun _ => rfl, fun _ => rfl, fun _ => rfl, fun _ => rfl, fun _ h => absurd h Bool.false_ne_true⟩

section State

variable (p : PortRef) (t : Mstid) (br : Bridge)

theorem recordAgreement_flags : Frame flagsOwned br (recordAgreement p t br) := by
  rw [recordAgreement]
  apply Frame.ite
  · exact Frame.after (Frame.setMstiPtps fun _ _ => rfl) (Frame.setPtp fun _ => rfl)
  · exact Frame.setPtp fun _ => rfl

theorem recordProposal_flags : Frame flagsOwned br (recordProposal p t br) := by
  rw [recordProposal]
  apply Frame.ite
  · exact Frame.after (Frame.setMstiPtps fun _ _ => rfl) (Frame.setPtp fun _ => rfl)
  · exact Frame.setPtp fun _ => rfl

theorem recordDispute_flags : Frame flagsOwned br (recordDispute p t br) := by
  rw [recordDispute]
  apply Frame.ite
  · exact Frame.after (Frame.setMstiPtps fun _ _ => rfl) (Frame.setPtp fun _ => rfl)
  · exact Frame.setPtp fun _ => rfl

theorem setTcFlags_flags : Frame flagsOwned br (setTcFlags p t br) := by
  rw [setTcFlags]
  apply Frame.ite
  · exact Frame.after (Frame.setMstiPtps fun _ _ => rfl)
      (Frame.after (Frame.setPtp fun _ => rfl) (Frame.setPort fun _ => rfl))
  · exact Frame.setPtp fun _ => rfl

theorem recordMastered_flags : Frame flagsOwned br (recordMastered p t br) := by
  rw [recordMastered]
  apply Frame.ite
  · exact Frame.setMstiPtps fun _ _ => rfl
  · exact Frame.setPtp fun _ => rfl

theorem rcvInfo_flags : Frame flagsOwned br (rcvInfo p t br).2 := by
  rw [rcvInfo]
  split
  · dsimp only
    exact Frame.after (Frame.setPortPtps fun _ _ => rfl) (Frame.setPort fun _ => rfl)
  · split
    · exact Frame.refl _ _
    · dsimp only
      exact Frame.setPtp fun _ => rfl

theorem updtRcvdInfoWhile_record : Frame recordOwned br (updtRcvdInfoWhile p t br) := by
  rw [updtRcvdInfoWhile]
  exact Frame.setPtp fun _ => rfl

theorem recordTimes_record : Frame recordOwned br (recordTimes p t br) := Frame.setPtp fun _ => rfl

theorem recordPriority_record : Frame recordOwned br (recordPriority p t br) :=
  Frame.setPtp fun _ => rfl

/-- Recording the message leaves the state that has been entered. -/
theorem recorded_state {b : Bridge} (h : Frame recordOwned br b) :
    (b.ptp p t).pismState = (br.ptp p t).pismState :=
  h.ptp_eq PerTreePort.pismState (fun _ => rfl) p t

/-- Every entry notes its own state, in every tree. -/
theorem pismTo_entered (s : PismState) : ((pismTo p t s br).ptp p t).pismState = s := by
  cases s with
  | superiorDesignated =>
    let b : Bridge := (br.setPort p fun prt => { prt with infoInternal := prt.rcvdInternal }).setPtp
      p t fun ptp =>
        { ptp with pismState := .superiorDesignated, agreed := false, proposing := false }
    have hentered : (b.ptp p t).pismState = .superiorDesignated :=
      congrArg PerTreePort.pismState (setPtp_self _ p t _)
    have hrest : Frame recordOwned b (pismToSuperiorDesignated p t br) := by
      rw [pismToSuperiorDesignated]
      refine Frame.after (Frame.setPtp fun _ => rfl) ?_
      apply Frame.after (updtRcvdInfoWhile_record p t _)
      apply Frame.after (recordTimes_record p t _)
      apply Frame.after (recordPriority_record p t _)
      refine Frame.after (Frame.setPtp fun _ => rfl) ?_
      apply Frame.after (recordAgreement_flags p t _).mono
      refine Frame.after (Frame.setPtp fun _ => rfl) ?_
      exact Frame.after (setTcFlags_flags p t _).mono (recordProposal_flags p t _).mono
    exact (recorded_state p t b hrest).trans hentered
  | repeatedDesignated =>
    let b : Bridge := (br.setPort p fun prt => { prt with infoInternal := prt.rcvdInternal }).setPtp
      p t fun ptp => { ptp with pismState := .repeatedDesignated }
    have hentered : (b.ptp p t).pismState = .repeatedDesignated :=
      congrArg PerTreePort.pismState (setPtp_self _ p t _)
    have hrest : Frame recordOwned b (pismToRepeatedDesignated p t br) := by
      rw [pismToRepeatedDesignated]
      refine Frame.after (Frame.setPtp fun _ => rfl) ?_
      apply Frame.after (updtRcvdInfoWhile_record p t _)
      apply Frame.after (recordAgreement_flags p t _).mono
      exact Frame.after (setTcFlags_flags p t _).mono (recordProposal_flags p t _).mono
    exact (recorded_state p t b hrest).trans hentered
  | receive =>
    let b : Bridge := (rcvInfo p t br).2.setPtp p t fun ptp =>
      { ptp with pismState := .receive, rcvdInfo := (rcvInfo p t br).1 }
    have hentered : (b.ptp p t).pismState = .receive :=
      congrArg PerTreePort.pismState (setPtp_self _ p t _)
    have hrest : Frame recordOwned b (pismToReceive p t br) := (recordMastered_flags p t _).mono
    exact (recorded_state p t b hrest).trans hentered
  | update => simp [pismTo, pismToUpdate, setNewInfo, setPort, setPtp]
  | disabled => simp [pismTo, pismToDisabled]
  | aged => simp [pismTo, pismToAged]
  | inferiorDesignated => simp [pismTo, pismToInferiorDesignated]
  | notDesignated => simp [pismTo, pismToNotDesignated]
  | other => simp [pismTo, pismToOther]
  | current => simp [pismTo, pismToCurrent]

end State

/-! ## Port information -/

/-- Aged information is only left by an update or where the port goes down. -/
theorem pismNext_from_aged {p : PortRef} {t : Mstid} {s : PismState}
    (hstate : (br.ptp p t).pismState = .aged) (hnext : pismNext br p t = some s) :
    s = .disabled ∨ s = .update := by
  rw [pismNext] at hnext
  split at hnext
  · exact Or.inl (Option.some.inj hnext).symm
  · simp only [hstate] at hnext
    split at hnext
    · exact Or.inr (Option.some.inj hnext).symm
    · cases hnext

/-- A message is only read where the information is not aged. -/
theorem AgedEntry.pism_message {p : PortRef} {t : Mstid} {s : PismState}
    (hi : AgedEntry t (br.ptp p t)) (hnext : pismNext br p t = some s)
    (hs : s ≠ .disabled ∧ s ≠ .update ∧ s ≠ .aged)
    (hframe : Frame messageOwned br (pismTo p t s br)) :
    AgedEntry t ((pismTo p t s br).ptp p t) := by
  have hbefore : (br.ptp p t).infoIs ≠ .aged := by
    intro haged
    exact (pismNext_from_aged (hi.info.mpr haged) hnext).elim hs.1 hs.2.1
  have hinfo : ((pismTo p t s br).ptp p t).infoIs = (br.ptp p t).infoIs :=
    hframe.ptp_eq PerTreePort.infoIs (fun _ => rfl) p t
  constructor
  · rw [pismTo_entered, hinfo]
    exact ⟨fun haged => absurd haged hs.2.2, fun haged => absurd haged hbefore⟩
  · rw [hinfo]
    exact fun haged => absurd haged hbefore

theorem AgedEntry.pism {p : PortRef} {t : Mstid} {s : PismState} (hi : AgedEntry t (br.ptp p t))
    (hnext : pismNext br p t = some s) : AgedEntry t ((pismTo p t s br).ptp p t) := by
  cases s with
  | disabled => constructor <;> simp [pismTo, pismToDisabled]
  | aged => constructor <;> simp [pismTo, pismToAged]
  | update => constructor <;> simp [pismTo, pismToUpdate, setNewInfo, setPort, setPtp]
  | superiorDesignated =>
    have hstate := pismTo_entered p t br .superiorDesignated
    constructor
    · rw [hstate]
      simp [pismTo, pismToSuperiorDesignated]
    · simp [pismTo, pismToSuperiorDesignated]
  | repeatedDesignated =>
    exact hi.pism_message hnext (by decide) (pismToRepeatedDesignated_frame p t br)
  | inferiorDesignated =>
    exact hi.pism_message hnext (by decide) (pismToInferiorDesignated_frame p t br)
  | notDesignated =>
    exact hi.pism_message hnext (by decide) (pismToNotDesignated_frame p t br)
  | other => exact hi.pism_message hnext (by decide) (pismToOther_frame p t br)
  | current => exact hi.pism_message hnext (by decide) (pismToCurrent_frame p t br)
  | receive => exact hi.pism_message hnext (by decide) (pismToReceive_frame p t br)

theorem AllAged.pism {p : PortRef} {t : Mstid} {s : PismState} (hi : AllAged br)
    (hnext : pismNext br p t = some s) : AllAged (pismTo p t s br) := by
  intro q hq u hu
  rw [(pismTo_frame p t s br).ports_eq] at hq
  rw [(pismTo_frame p t s br).trees_eq] at hu
  by_cases h : q = p ∧ u = t
  · obtain ⟨rfl, rfl⟩ := h
    exact (hi q hq u hu).pism hnext
  · exact (hi q hq u hu).congr ((pismTo_local p t s br).eq agedFields (fun _ => rfl) h)

/-! ## Role selection and BEGIN -/

/-- Role selection has aged information written again, but for clause f) where it is known. -/
theorem roleFrom_aged {isCist isRoot infoInternal : Bool} {id : BridgeIdentifier}
    {cist x : PerTreePort} (haged : x.infoIs = .aged) :
    (roleFrom isCist isRoot infoInternal id cist x).2 = true ∨ isCist = false ∧ Echoes x := by
  simp only [roleFrom, haged]
  split
  · rename_i hboundary
    have hmsti : isCist = false := by
      cases isCist with
      | false => rfl
      | true => simp at hboundary
    subst hmsti
    by_cases hecho : Echoes x
    · exact Or.inr ⟨rfl, hecho⟩
    · refine Or.inl ?_
      rw [Echoes, Bool.not_eq_true] at hecho
      simp [hecho]
  · exact Or.inl rfl

theorem AllAged.select (hi : AllAged br) (t : Mstid) : AllAged (prssmToRoleSelection t br) := by
  intro p hp u hu
  rw [(prssmToRoleSelection_frame t br).ports_eq] at hp
  rw [(prssmToRoleSelection_frame t br).trees_eq] at hu
  by_cases h : u = t
  · subst h
    rw [roleSelection_self u hp]
    constructor
    · exact (hi p hp u hu).info
    · intro haged _
      have hchoice : (newRole br u p).2 = true ∨ (u == 0) = false ∧ Echoes
          { br.ptp p u with
            designatedPriority := newDesignatedPriority br u p
            designatedTimes := newDesignatedTimes br u p } := by
        rw [newRole_eq_roleFrom br u hp]
        exact roleFrom_aged haged
      rcases hchoice with hupdt | ⟨hmsti, hecho⟩
      · exact Or.inl hupdt
      · exact Or.inr ⟨by simpa using hmsti, hecho.congr rfl⟩
  · exact (hi p hp u hu).congr (roleSelection_other_eq agedFields (fun _ => rfl) h br p)

theorem allAged_begin : BeginInv AllAged :=
  BeginInv.of_pism (fun _ _ hf hi => hi.frame hf fun _ => rfl) fun b p t hi _ _ q hq u hu => by
    rw [(pismBegin_frame p t b).ports_eq] at hq
    rw [(pismBegin_frame p t b).trees_eq] at hu
    by_cases h : q = p ∧ u = t
    · obtain ⟨rfl, rfl⟩ := h
      constructor <;> simp [pismBegin, pismToDisabled]
    · have hsame : (pismBegin p t b).ptp q u = b.ptp q u := by
        simp only [pismBegin, pismToDisabled, Bridge.setPtp, if_neg h]
      rw [hsame]
      exact hi q hq u hu

theorem addPort_aged {p : PortRef} {portno : UInt16} {name : String} {speed duplex : Int}
    (hi : AllAged br) : AllAged (addPort p portno name speed duplex br) := by
  intro q hq u hu
  by_cases h : q = p
  · subst h
    have hmem : u ∈ br.trees := hu
    constructor <;> simp [addPort, setPortPtps, setPort, hmem, createPtp, ptpDefaultInternalVars]
  · have hold : q ∈ br.ports := by
      rcases List.mem_append.mp hq with hmem | hmem
      · exact hmem
      · exact absurd (List.mem_singleton.mp hmem) h
    have hsame : (addPort p portno name speed duplex br).ptp q u = br.ptp q u := by
      simp [addPort, setPortPtps, setPort, h]
    rw [hsame]
    exact hi q hold u hu

theorem addTree_aged {mstid : UInt16} {trees : List Mstid} (hi : AllAged br)
    (htrees : insertAfterLast (fun s => decide (s < mstid)) mstid br.trees = some trees) :
    AllAged (addTree mstid trees br) := by
  intro q hq u hu
  by_cases h : u = mstid
  · subst h
    have hmem : q ∈ br.ports := hq
    constructor <;> simp [addTree, setTreePtps, setTree, hmem, createPtp, ptpDefaultInternalVars]
  · have hold : u ∈ br.trees := ((insertAfterLast_mem htrees u).mp hu).resolve_left h
    have hsame : (addTree mstid trees br).ptp q u = br.ptp q u := by
      simp [addTree, setTreePtps, setTree, h]
    rw [hsame]
    exact hi q hq u hold

/-- Management asks at most for selection. -/
theorem AllAged.management (hi : AllAged br) (h : Managed br br')
    (hf : Frame managementOwned br br') : AllAged br' :=
  hi.managed h fun p t => hf.ptp_eq vectorsOf (fun _ => rfl) p t

/-- A bridge that is switched on begins with all its entries. -/
theorem bridgeBegin_aged (hen : br.bridgeEnabled = true) : AllAged (bridgeBegin br) := by
  have hbegun := bridgeBegin_begun hen
  intro p hp t ht
  apply AgedEntry.waiting
  exact hbegun.waiting (p, t) (mem_ptpRefs.mpr ⟨hbegun.ports ▸ hp, hbegun.trees ▸ ht⟩)

theorem AllAged.act {a : Act} (hi : AllAged br) (hg : a.Guard br)
    (hup : ∀ up, a ≠ .switchBridge up) : AllAged (a.run br) := by
  cases a with
  | pism p t s => exact hi.pism hg.2.2.2
  | prssm t => exact hi.select t
  | createPort p portno name speed duplex =>
    apply allAged_begin.port (fun _ t hb _ _ => hb.select t)
    · exact List.mem_append_right _ List.mem_cons_self
    · exact addPort_aged hi
  | createMsti mstid trees =>
    apply allAged_begin.tree
    · exact (insertAfterLast_mem hg.2.2.2.2 mstid).mpr (Or.inl rfl)
    · exact addTree_aged hi hg.2.2.2.2
  | switchBridge up => exact absurd rfl (hup up)
  | removePort p => exact fun q hq u hu => hi q (List.mem_of_mem_erase hq) u hu
  | removeMsti mstid => exact fun q hq u hu => hi q hq u (List.mem_of_mem_erase hu)
  | bridgeAddress macaddr =>
    apply allAged_begin.ite
    exact hi.management (writeAddress_managed macaddr br) (writeAddress_frame macaddr br)
  | bridgeConfig cfg =>
    apply allAged_begin.ite
    exact hi.management (writeBridgeConfig_managed cfg br) (writeBridgeConfig_opFrame cfg br).frame
  | tables env changed vid2fid fid2mstid =>
    apply allAged_begin.ite
    exact hi.management (writeTables_managed env changed vid2fid fid2mstid br)
      (writeTables_frame env changed vid2fid fid2mstid br)
  | configId revision name =>
    apply allAged_begin.bridge
    exact hi
  | assurance p => exact hi.frame (assuranceRun_frame p br) fun _ => rfl
  | prsm p s => exact hi.frame (prsmTo_frame p s br) fun _ => rfl
  | ppmsm p s => exact hi.frame (ppmsmTo_frame p s br) fun _ => rfl
  | bdsm p s => exact hi.frame (bdsmTo_frame p s br) fun _ => rfl
  | ptsm p s => exact hi.frame (ptsmTo_frame p s br) fun _ => rfl
  | prtsm p t s => exact hi.frame (prtsmTo_frame _ p t s br) fun _ => rfl
  | pstsm p t s => exact hi.frame (pstsmTo_frame p t s br) fun _ => rfl
  | _ =>
    exact hi.managed (Act.managed rfl br) fun p t =>
      (Act.frame _ br).ptp_eq vectorsOf (fun _ => rfl) p t

end Actions

theorem Visited.allAged {br : Bridge} (h : Visited anyAct br) : br.bridgeEnabled = true →
    AllAged br := by
  apply h.inv
  · intro env macaddr hen
    cases hen
  · intro a br hi hg _ hen
    by_cases hswitch : ∃ up, a = .switchBridge up
    · obtain ⟨up, rfl⟩ := hswitch
      apply bridgeBegin_aged
      by_contra hoff
      rw [Act.run, bridgeBegin_disabled (by simpa using hoff)] at hen
      exact hoff hen
    · have hno : ∀ up, a ≠ .switchBridge up := fun up h => hswitch ⟨up, h⟩
      exact (hi ((Act.enabled_eq hno hg).symm.trans hen)).act hg hno

/-! ## At rest -/

/-- Where nothing is to be updated, a machine rests with aged information or without a message. -/
theorem pismNext_none_message {br : Bridge} {p : PortRef} {t : Mstid}
    (hup : (br.port p).portEnabled = true) (hupdt : updtXstInfo br p t = false)
    (h : pismNext br p t = none) : (br.ptp p t).pismState = .aged ∨
      (br.ptp p t).pismState = .current ∧ rcvdXstMsg br p t = false := by
  simp only [pismNext, hup, hupdt, Bool.not_true, Bool.false_and, Bool.false_eq_true, if_false,
    if_true, Bool.not_false, Bool.and_true] at h
  cases hstate : (br.ptp p t).pismState with
  | aged => exact Or.inl rfl
  | current =>
    refine Or.inr ⟨rfl, ?_⟩
    by_contra hread
    have hmessage : rcvdXstMsg br p t = true := by simpa using hread
    simp only [hstate, if_pos hmessage] at h
    cases h
  | receive =>
    simp only [hstate] at h
    split at h <;> cases h
  | _ =>
    simp only [hstate] at h
    cases h

section Rest

variable {br : Bridge} {p : PortRef}

/-- A bridge at rest has nothing to update, in the tree itself or in the CIST. -/
theorem quiescent_updtXstInfo (hr : Reachable untilQuiet br) (hen : br.bridgeEnabled = true)
    (hdry : brStateMachinesDry br = false) (hp : p ∈ br.ports) {t : Mstid} (ht : t ∈ br.trees) :
    updtXstInfo br p t = false := by
  have hsettled (s : Mstid) (hs : s ∈ br.trees) := reachable_quiescent_settled hr hen hdry hp hs
  have hown := (hsettled t ht).2.2.1
  have hcist : (br.cist p).updtInfo = false := (hsettled 0 hr.visited.cist_mem).2.2.1
  rw [updtXstInfo]
  split
  · exact hown
  · rw [hown, hcist]
    rfl

/-- Information of the CIST does not stay aged. -/
theorem quiescent_cist_read (hr : Reachable untilQuiet br) (hen : br.bridgeEnabled = true)
    (hdry : brStateMachinesDry br = false) (hp : p ∈ br.ports)
    (hup : (br.port p).portEnabled = true) :
    (br.cist p).pismState = .current ∧ (br.cist p).rcvdMsg = false := by
  have h0 : 0 ∈ br.trees := hr.visited.cist_mem
  have hrest := (quiet_of_dry hdry).pism p hp 0 h0
  rcases pismNext_none_message hup (quiescent_updtXstInfo hr hen hdry hp h0) hrest with
    hstate | hread
  · have hentry := hr.visited.allAged hen p hp 0 h0
    obtain ⟨hselected, -, hwritten, -⟩ := reachable_quiescent_settled hr hen hdry hp h0
    rcases hentry.update (hentry.info.mp hstate) hselected with hwrite | ⟨hmsti, -⟩
    · rw [hwritten] at hwrite
      cases hwrite
    · exact absurd rfl hmsti
  · exact hread

/-- A bridge at rest has read the message of the CIST on every port that is up. A message that
waits is that of an MSTI with aged information that the port announces itself, and only such a
message has a BPDU refused for which there was no time. -/
theorem quiescent_messages_read {br : Bridge} (hr : Reachable untilQuiet br)
    (hen : br.bridgeEnabled = true) (hdry : brStateMachinesDry br = false) {p : PortRef}
    (hp : p ∈ br.ports) (hup : (br.port p).portEnabled = true) :
    (br.cist p).pismState = .current ∧ (br.cist p).rcvdMsg = false ∧
    (∀ t ∈ br.trees, (br.ptp p t).rcvdMsg = true →
      t ≠ 0 ∧ (br.ptp p t).infoIs = .aged ∧ Echoes (br.ptp p t)) ∧
    (rxRefusal br p = some .notProcessed → ∃ t ∈ br.trees, (br.ptp p t).rcvdMsg = true) := by
  have hquiet := quiet_of_dry hdry
  have haged := hr.visited.allAged hen
  have hsettled (t : Mstid) (ht : t ∈ br.trees) := reachable_quiescent_settled hr hen hdry hp ht
  have hrest (t : Mstid) (ht : t ∈ br.trees) :=
    pismNext_none_message hup (quiescent_updtXstInfo hr hen hdry hp ht) (hquiet.pism p hp t ht)
  have hcurrent := quiescent_cist_read hr hen hdry hp hup
  refine ⟨hcurrent.1, hcurrent.2, fun t ht hmessage => ?_, fun hrefused => ?_⟩
  · have hmsti : t ≠ 0 := by
      rintro rfl
      rw [cist, hmessage] at hcurrent
      cases hcurrent.2
    rcases hrest t ht with hstate | ⟨-, hread⟩
    · have hentry := haged p hp t ht
      have hinfo := hentry.info.mp hstate
      rcases hentry.update hinfo (hsettled t ht).1 with hwrite | ⟨-, hecho⟩
      · rw [(hsettled t ht).2.2.1] at hwrite
        cases hwrite
      · exact ⟨hmsti, hinfo, hecho⟩
    · rw [rcvdXstMsg, if_neg hmsti, hcurrent.2, hmessage] at hread
      cases hread
  · have hpending : (br.port p).rcvdBpdu = true := by
      simp only [rxRefusal] at hrefused
      grind
    have hany : rcvdAnyMsg br p = true := by
      by_contra hnone
      have hnext : prsmNext br p = some .receive := by
        rw [prsmNext]
        cases hstate : (br.port p).prsmState <;> simp [hup, hpending, hnone]
      have hprsm := hquiet.prsm p hp
      rw [prsmDry, hnext] at hprsm
      cases hprsm
    exact List.any_eq_true.mp hany

end Rest

/-- A bridge with the CIST alone has time for the next BPDU on its port. -/
theorem oneLink_messages_read : ∃ br, Reachable untilQuiet br ∧ br.trees = [0] ∧ 1 ∈ br.ports ∧
    (br.cist 1).pismState = .current ∧ rxRefusal br 1 ≠ some .notProcessed := by
  have hrun : (sampleRun oneLinkOps).any (fun br => br.bridgeEnabled && !brStateMachinesDry br &&
      br.ports.contains 1 && br.trees == [0] && (br.port 1).portEnabled) = true := by
    decide +kernel
  obtain ⟨br, hbr, hprop⟩ := (Option.any_eq_true _ _).mp hrun
  simp only [Bool.and_eq_true, Bool.not_eq_true', List.contains_iff_mem, beq_iff_eq] at hprop
  obtain ⟨⟨⟨⟨hen, hdry⟩, hp⟩, htrees⟩, hup⟩ := hprop
  have hr : Reachable untilQuiet br := sampleRun_reachable (fun _ _ _ => rfl) hbr
  obtain ⟨hstate, -, hwaiting, hrefused⟩ := quiescent_messages_read hr hen hdry hp hup
  refine ⟨br, hr, htrees, hp, hstate, fun hno => ?_⟩
  obtain ⟨t, ht, hmessage⟩ := hrefused hno
  rw [htrees] at ht
  exact (hwaiting t (htrees ▸ ht) hmessage).1 (List.mem_singleton.mp ht)

end Mstpd
