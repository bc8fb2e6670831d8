import Mstpd.CistInfo

/-!
# From which side information comes

Every message is marked as internal or external to the region before it is classified,
and the record of a port keeps the mark of the message it was taken from. Role selection
reads the mark of the last message, so the two have to agree whenever it looks at a port
with received information.
-/

namespace Mstpd

open Bridge Machine

/-! ## Where port information rests -/

/-- The states in which a pass may leave the machine. -/
def PismState.mayRest : PismState → Bool
  | .disabled => true
  | .aged => true
  | .current => true
  | _ => false

theorem pismNext_none_mayRest {p : PortRef} {br : Bridge} (h : pismNext br p 0 = none) :
    (br.cist p).pismState.mayRest = true := by
  rw [pismNext] at h
  split at h
  · cases h
  · simp only [ptp_cist] at h
    cases hs : (br.cist p).pismState with
    | disabled => rfl
    | aged => rfl
    | current => rfl
    | receive =>
      simp only [hs] at h
      split at h <;> cases h
    | _ =>
      simp only [hs] at h
      cases h

/-- Outside its own stage the machine is where a pass may leave it. -/
theorem VisitedAt.mayRest {C : Act → Bridge → Prop} {k : Phase} {br : Bridge}
    (h : VisitedAt C k br) (p : PortRef) (hk : k ≠ .pism) :
    (br.cist p).pismState.mayRest = true := by
  refine Or.resolve_left ?_ fun hin : k = .pism ∧ p ∈ br.ports => hk hin.1
  refine h.inv (I := fun k b => (k = .pism ∧ p ∈ b.ports) ∨
    (b.cist p).pismState.mayRest = true) ?_ ?_ ?_
  · exact fun _ _ => Or.inr rfl
  · intro a k b hv hi hg hat _
    cases a with
    | pism q t s =>
      have hk : k = .pism := hat.resolve_right fun h => Bool.false_ne_true h.2
      by_cases hself : q = p ∧ t = 0
      · obtain ⟨rfl, rfl⟩ := hself
        exact Or.inl ⟨hk, (pismTo_frame q 0 s b).ports_eq ▸ hg.2.1⟩
      · refine hi.imp (fun hin => ⟨hk, (pismTo_frame q t s b).ports_eq ▸ hin.2⟩) fun hrest => ?_
        have hstate := (pismTo_elsewhere hself s b).eq PerTreePort.pismState fun _ => rfl
        exact hstate.symm ▸ hrest
    | prtsm q t s =>
      have hk : k = .prtsm := hat.resolve_right fun h => Bool.false_ne_true h.2
      have hstate := (prtsmTo_frame (prtsmVars b q) q t s b).ptp_eq PerTreePort.pismState
        (fun _ => rfl) p 0
      refine hi.elim (fun hin => absurd (hk.symm.trans hin.1) Phase.noConfusion) fun hrest => ?_
      exact Or.inr (hstate.symm ▸ hrest)
    | _ =>
      rcases Act.information_kept rfl p hv.visited.cist_mem hg with hkept | hfresh
      · simp only [informationOf, Prod.mk.injEq] at hkept
        refine hi.elim (fun hin => ?_) fun hrest => Or.inr (hkept.1.symm ▸ hrest)
        rcases hat with hat | hat
        · exact absurd (hin.1.symm.trans hat) Phase.noConfusion
        · exact absurd (hin.1.symm.trans hat.1) Phase.noConfusion
      · exact Or.inr (hfresh.pismState.symm ▸ rfl)
  · intro k b hv hi _ hdone
    refine hi.elim (fun hin => ?_) fun hrest => Or.inr hrest
    obtain ⟨rfl, hp⟩ := hin
    exact Or.inr (pismNext_none_mayRest (hdone p hp hv.visited.cist_mem))

/-- Received information is dropped before the machine ages or gets disabled. -/
theorem VisitedAt.received_state {C : Act → Bridge → Prop} {k : Phase} {br : Bridge}
    (h : VisitedAt C k br) (p : PortRef) : (br.cist p).infoIs = .received →
      (br.cist p).pismState ≠ .disabled ∧ (br.cist p).pismState ≠ .aged := by
  refine h.inv (I := fun _ b => (b.cist p).infoIs = .received →
    (b.cist p).pismState ≠ .disabled ∧ (b.cist p).pismState ≠ .aged) ?_ ?_ ?_
  · intro _ _ hr
    cases hr
  · intro a k b hv hi hg _ _ hr
    cases a with
    | pism q t s =>
      by_cases hself : q = p ∧ t = 0
      · obtain ⟨rfl, rfl⟩ := hself
        change ((pismTo q 0 s b).cist q).infoIs = .received at hr
        change ((pismTo q 0 s b).cist q).pismState ≠ .disabled ∧
          ((pismTo q 0 s b).cist q).pismState ≠ .aged
        rw [pismTo_state]
        cases s with
        | disabled =>
          rw [pismTo, disabled_cist] at hr
          cases hr
        | aged =>
          rw [pismTo, aged_cist] at hr
          cases hr
        | _ => exact ⟨PismState.noConfusion, PismState.noConfusion⟩
      · have hsame := (pismTo_elsewhere hself s b).eq (fun x => (x.pismState, x.infoIs))
          fun _ => rfl
        simp only [Prod.mk.injEq] at hsame
        change ((pismTo q t s b).cist p).infoIs = .received at hr
        exact hsame.1.symm ▸ hi (hsame.2.symm.trans hr)
    | prtsm q t s =>
      have hsame := (prtsmTo_frame (prtsmVars b q) q t s b).ptp_eq
        (fun x => (x.pismState, x.infoIs)) (fun _ => rfl) p 0
      simp only [Prod.mk.injEq] at hsame
      exact hsame.1.symm ▸ hi (hsame.2.symm.trans hr)
    | _ =>
      rcases Act.information_kept rfl p hv.visited.cist_mem hg with hkept | hfresh
      · simp only [informationOf, Prod.mk.injEq] at hkept
        exact hkept.1.symm ▸ hi (hkept.2.1.symm.trans hr)
      · exact absurd (hfresh.infoIs.symm.trans hr) InfoOrigin.noConfusion
  · exact fun _ _ _ hi _ _ => hi

/-! ## What becomes of a message -/

/-- The classes of messages that are recorded. -/
def PortInfo.isRecorded : PortInfo → Bool
  | .superiorDesignatedInfo => true
  | .repeatedDesignatedInfo => true
  | _ => false

/-- The entries that mark the record with the side of the message. -/
def PismState.marks : PismState → Bool
  | .superiorDesignated => true
  | .repeatedDesignated => true
  | _ => false

/-- Where the machine stands before it enters a state. -/
def entersFrom (x : PerTreePort) : PismState → Prop
  | .receive => x.pismState = .current ∧ x.rcvdMsg = true ∧ x.updtInfo = false
  | .current => x.pismState ≠ .current ∧ x.pismState ≠ .receive
  | .inferiorDesignated => x.pismState = .receive ∧ x.rcvdInfo.isRecorded = false
  | .notDesignated => x.pismState = .receive ∧ x.rcvdInfo.isRecorded = false
  | .other => x.pismState = .receive ∧ x.rcvdInfo.isRecorded = false
  | _ => True

theorem pismNext_entersFrom {p : PortRef} {br : Bridge} {s : PismState}
    (h : pismNext br p 0 = some s) : entersFrom (br.cist p) s := by
  have hmsg : rcvdXstMsg br p 0 = (br.cist p).rcvdMsg := if_pos rfl
  have hupd : updtXstInfo br p 0 = (br.cist p).updtInfo := if_pos rfl
  rw [pismNext] at h
  split at h
  · exact Option.some.inj h ▸ trivial
  · simp only [ptp_cist, hmsg, hupd] at h
    cases hs : (br.cist p).pismState with
    | disabled =>
      simp only [hs] at h
      grind [entersFrom]
    | aged =>
      simp only [hs] at h
      grind [entersFrom]
    | current =>
      simp only [hs] at h
      split at h
      · rename_i hreceive
        simp only [Bool.and_eq_true, Bool.not_eq_true'] at hreceive
        exact Option.some.inj h ▸ ⟨hs, hreceive.1, hreceive.2⟩
      · grind [entersFrom]
    | receive =>
      simp only [hs] at h
      split at h
      · exact Option.some.inj h ▸ trivial
      · exact Option.some.inj h ▸ trivial
      all_goals
        rename_i hinfo
        exact Option.some.inj h ▸ ⟨hs, congrArg PortInfo.isRecorded hinfo⟩
    | _ =>
      simp only [hs] at h
      exact Option.some.inj h ▸ ⟨hs ▸ PismState.noConfusion, hs ▸ PismState.noConfusion⟩

/-- The pending update or the stored message replaces the record, or the record ages. -/
def replacesRecord (br : Bridge) (p : PortRef) : Bool :=
  if (br.cist p).updtInfo then (br.cist p).selected
  else (messageInfo br p).isRecorded || (br.cist p).rcvdInfoWhile == 0

/-- The message in store will replace the record. -/
def Superseding (p : PortRef) (br : Bridge) : Prop :=
  (br.cist p).rcvdMsg = true ∧
    ((br.cist p).pismState = .current ∧
        (if (br.cist p).updtInfo then (br.cist p).selected else (messageInfo br p).isRecorded) =
          true ∨
      (br.cist p).pismState = .receive ∧ (br.cist p).rcvdInfo.isRecorded = true)

/-- The record will age. -/
def Expiring (p : PortRef) (br : Bridge) : Prop :=
  (br.cist p).rcvdInfoWhile = 0 ∧ (br.cist p).updtInfo = false ∧
    (br.cist p).pismState ≠ .disabled ∧ (br.cist p).pismState ≠ .aged

/-- The mark of the last message does not matter, as the record is going to be replaced
before role selection. -/
structure Awaiting (p : PortRef) (br : Bridge) : Prop where
  listed : p ∈ br.ports
  enabled : (br.port p).portEnabled = true
  taken : (br.port p).rcvdBpdu = false
  settles : Superseding p br ∨ Expiring p br

section Awaiting

variable {p : PortRef} {br br' : Bridge}

/-- What decides about the record in the CIST entry of the port. -/
def deciding (x : PerTreePort) :
    (PismState × Bool × PortInfo) × (Nat × Bool × Bool) × PortPriorityVector × Times × InfoOrigin :=
  ((x.pismState, x.rcvdMsg, x.rcvdInfo), (x.rcvdInfoWhile, x.updtInfo, x.selected), recorded x)

theorem Awaiting.congr (h : Awaiting p br) (hports : br'.ports = br.ports)
    (hhops : br'.maxHops = br.maxHops)
    (hport : ((br'.port p).portEnabled, (br'.port p).rcvdBpdu, (br'.port p).rcvdBpduData) =
      ((br.port p).portEnabled, (br.port p).rcvdBpdu, (br.port p).rcvdBpduData))
    (hcist : deciding (br'.cist p) = deciding (br.cist p)) : Awaiting p br' := by
  simp only [Prod.mk.injEq] at hport
  have hrec : recorded (br'.cist p) = recorded (br.cist p) :=
    congrArg (fun x => x.2.2) hcist
  have hinfo := messageInfo_congr hport.2.2 hhops hrec
  simp only [deciding, Prod.mk.injEq] at hcist
  obtain ⟨⟨hstate, hmsg, hrcvd⟩, ⟨hwhile, hupd, hsel⟩, -⟩ := hcist
  refine ⟨hports ▸ h.listed, hport.1 ▸ h.enabled, hport.2.1 ▸ h.taken, ?_⟩
  rw [Superseding, Expiring, hstate, hmsg, hrcvd, hwhile, hupd, hsel, hinfo]
  exact h.settles

theorem Awaiting.frame (h : Awaiting p br) {o : Owned} [o.KeepsLists] (hf : Frame o br br')
    (hhops : ∀ b : Bridge, (o.config b.config).maxHops = b.maxHops)
    (hport : ∀ x, ((o.port x).portEnabled, (o.port x).rcvdBpdu, (o.port x).rcvdBpduData) =
      (x.portEnabled, x.rcvdBpdu, x.rcvdBpduData))
    (hcist : ∀ x, deciding (o.ptp x) = deciding x) : Awaiting p br' :=
  h.congr hf.ports_eq (hf.config_eq Bridge.maxHops hhops)
    (hf.port_eq (fun x => (x.portEnabled, x.rcvdBpdu, x.rcvdBpduData)) hport p)
    (hf.ptp_eq deciding hcist p 0)

/-- A port does not stay with a mark that does not matter. -/
theorem Awaiting.moves (h : Awaiting p br) (hr : (br.cist p).infoIs = .received) :
    pismNext br p 0 ≠ none := by
  have hmsg : rcvdXstMsg br p 0 = (br.cist p).rcvdMsg := if_pos rfl
  have hupd : updtXstInfo br p 0 = (br.cist p).updtInfo := if_pos rfl
  intro hnone
  have hrest := pismNext_none_mayRest hnone
  rw [pismNext, if_neg (by simp [h.enabled])] at hnone
  simp only [ptp_cist, hmsg, hupd] at hnone
  have hstate : (br.cist p).pismState = .current := by
    rcases h.settles with ⟨-, hs | hs⟩ | ⟨-, -, hdisabled, haged⟩
    · exact hs.1
    · rw [hs.1] at hrest
      cases hrest
    · cases hs : (br.cist p).pismState <;> simp_all [PismState.mayRest]
  simp only [hstate, hr, beq_self_eq_true, Bool.true_and] at hnone
  rcases h.settles with ⟨hrcvd, hs | hs⟩ | ⟨hwhile, hnoupd, -⟩
  · cases hu : (br.cist p).updtInfo with
    | false => simp [hrcvd, hu] at hnone
    | true =>
      have hsel := hs.2
      simp only [hu, if_true] at hsel
      simp [hu, hsel] at hnone
  · exact absurd (hstate.symm.trans hs.1) PismState.noConfusion
  · cases hrcvd : (br.cist p).rcvdMsg <;> simp [hrcvd, hwhile, hnoupd] at hnone

/-- The entries that keep received information and its mark. -/
def PismState.keepsRecord : PismState → Bool
  | .inferiorDesignated => true
  | .notDesignated => true
  | .other => true
  | .current => true
  | .receive => true
  | _ => false

/-- What those entries write. -/
theorem keepsRecord_cist {s : PismState} (hs : s.keepsRecord = true) (p : PortRef) (br : Bridge) :
    ((pismTo p 0 s br).cist p).pismState = s ∧
      recorded ((pismTo p 0 s br).cist p) = recorded (br.cist p) ∧
      ((pismTo p 0 s br).cist p).rcvdInfoWhile = (br.cist p).rcvdInfoWhile ∧
      ((pismTo p 0 s br).cist p).updtInfo = (br.cist p).updtInfo := by
  refine ⟨pismTo_state p s br, ?_⟩
  cases s with
  | inferiorDesignated =>
    rw [pismTo, inferiorDesignated_cist]
    exact ⟨rfl, rfl, rfl⟩
  | notDesignated =>
    rw [pismTo, notDesignated_cist]
    exact ⟨rfl, rfl, rfl⟩
  | other =>
    rw [pismTo, other_cist]
    exact ⟨rfl, rfl, rfl⟩
  | current =>
    rw [pismTo, current_cist]
    exact ⟨rfl, rfl, rfl⟩
  | receive =>
    have hcist := congrArg (fun x : PerTreePort => (recorded x, x.rcvdInfoWhile, x.updtInfo))
      (receive_cist p br)
    simp only [Prod.mk.injEq] at hcist
    exact hcist
  | _ => cases hs

theorem Awaiting.pism (h : Awaiting p br) {s : PismState} (hg : pismNext br p 0 = some s)
    (hs : s.keepsRecord = true) : Awaiting p (pismTo p 0 s br) := by
  have hframe := pismTo_frame p 0 s br
  have hport := hframe.port_eq (fun x => (x.portEnabled, x.rcvdBpdu)) (fun _ => rfl) p
  simp only [Prod.mk.injEq] at hport
  obtain ⟨hstate, -, hwhile, hupd⟩ := keepsRecord_cist hs p br
  refine ⟨hframe.ports_eq ▸ h.listed, hport.1 ▸ h.enabled, hport.2 ▸ h.taken, ?_⟩
  have hfrom := pismNext_entersFrom hg
  rcases h.settles with ⟨hmsg, hsup⟩ | ⟨hzero, hnoupd, -⟩
  · refine Or.inl ?_
    cases s with
    | receive =>
      obtain ⟨hcurrent, -, hnoupd⟩ := hfrom
      rcases hsup with hsup | hsup
      · have hcist := congrArg (fun x : PerTreePort => (x.rcvdMsg, x.rcvdInfo))
          (receive_cist p br)
        simp only [Prod.mk.injEq] at hcist
        refine ⟨hcist.1.trans hmsg, Or.inr ⟨hstate, ?_⟩⟩
        rw [hnoupd] at hsup
        exact (congrArg PortInfo.isRecorded (hcist.2.trans (rcvInfo_fst p br))).trans hsup.2
      · exact absurd (hcurrent.symm.trans hsup.1) PismState.noConfusion
    | current =>
      rcases hsup with hsup | hsup
      · exact absurd hsup.1 hfrom.1
      · exact absurd hsup.1 hfrom.2
    | inferiorDesignated | notDesignated | other =>
      rcases hsup with hsup | hsup
      · exact absurd (hfrom.1.symm.trans hsup.1) PismState.noConfusion
      · exact absurd (hfrom.2.symm.trans hsup.2) Bool.false_ne_true
    | _ => cases hs
  · refine Or.inr ⟨hwhile.trans hzero, hupd.trans hnoupd, ?_⟩
    rw [hstate]
    cases s with
    | disabled => cases hs
    | aged => cases hs
    | _ => exact ⟨PismState.noConfusion, PismState.noConfusion⟩

end Awaiting

/-! ## The marks outside the two machines -/

/-- The origin of the record of a port, and the marks of the last message and the record. -/
def sides (p : PortRef) (br : Bridge) : InfoOrigin × Bool × Bool :=
  ((br.cist p).infoIs, (br.port p).rcvdInternal, (br.port p).infoInternal)

/-- The record and the marks are as before, or BEGIN has dropped the record. -/
def SidesKept (p : PortRef) (br br' : Bridge) : Prop :=
  sides p br' = sides p br ∨ (br'.cist p).infoIs = .disabled

theorem SidesKept.refl {p : PortRef} {br : Bridge} : SidesKept p br br := Or.inl rfl

theorem SidesKept.frame {p : PortRef} {br b b' : Bridge} (h : SidesKept p br b) {o : Owned}
    (hf : Frame o b b') (hcist : ∀ x, (o.ptp x).infoIs = x.infoIs)
    (hport : ∀ x, ((o.port x).rcvdInternal, (o.port x).infoInternal) =
      (x.rcvdInternal, x.infoInternal)) : SidesKept p br b' := by
  have hinfo : (b'.cist p).infoIs = (b.cist p).infoIs := hf.ptp_eq PerTreePort.infoIs hcist p 0
  have hmarks := hf.port_eq (fun x => (x.rcvdInternal, x.infoInternal)) hport p
  have hsides : sides p b' = sides p b := by
    rw [sides, hinfo]
    exact congrArg (Prod.mk _) hmarks
  exact h.imp hsides.trans hinfo.trans

theorem SidesKept.select {p : PortRef} {br b : Bridge} (h : SidesKept p br b) (t : Mstid) :
    SidesKept p br (prssmToRoleSelection t b) := by
  have hinfo := congrArg PerTreePort.infoIs (roleSelection_cist t p b)
  change ((prssmToRoleSelection t b).cist p).infoIs = (b.cist p).infoIs at hinfo
  have hmarks := (prssmToRoleSelection_frame t b).port_eq
    (fun x => (x.rcvdInternal, x.infoInternal)) (fun _ => rfl) p
  have hsides : sides p (prssmToRoleSelection t b) = sides p b := by
    rw [sides, hinfo]
    exact congrArg (Prod.mk _) hmarks
  exact h.imp hsides.trans hinfo.trans

theorem sidesKept_begin (p : PortRef) (br : Bridge) : BeginInv (SidesKept p br) :=
  BeginInv.of_pism (fun _ _ hf hi => hi.frame hf (fun _ => rfl) fun _ => rfl) fun b q t hi _ _ => by
    rcases pismBegin_cist p q t b with h | h
    · refine hi.imp (fun hs => Eq.trans ?_ hs) fun hs => (congrArg PerTreePort.infoIs h).trans hs
      rw [sides, h]
      rfl
    · exact Or.inr (congrArg PerTreePort.infoIs h)

theorem addPort_sidesKept (p q : PortRef) (portno : UInt16) (name : String)
    (speed duplex : Int) {br : Bridge} (hcist : 0 ∈ br.trees) :
    SidesKept p br (addPort q portno name speed duplex br) := by
  by_cases h : p = q
  · subst h
    refine Or.inr ?_
    rw [addPort]
    simp only [cist, setPortPtps, setPort, hcist, and_self, if_true]
    rfl
  · refine Or.inl ?_
    rw [addPort]
    simp only [sides, cist, setPortPtps, setPort, h, false_and, if_false]

theorem addTree_sidesKept (p : PortRef) {mstid : UInt16} (hne : mstid ≠ 0) (trees : List Mstid)
    (br : Bridge) : SidesKept p br (addTree mstid trees br) := by
  have h : ¬ (0 : Mstid) = mstid := fun h => hne h.symm
  refine Or.inl ?_
  rw [addTree]
  simp only [sides, cist, setTreePtps, h, false_and, if_false]
  rfl

/-- The actions that write the marks: those of the two machines, and the reset of the
bridge. -/
def Act.sides : Act → Bool
  | .prsm _ _ => true
  | .pism _ _ _ => true
  | .switchBridge _ => true
  | _ => false

theorem Act.sides_kept {a : Act} (ha : a.sides = false) (p : PortRef) {br : Bridge}
    (hcist : 0 ∈ br.trees) (hg : a.Guard br) : SidesKept p br (a.run br) := by
  have hsame : SidesKept p br br := .refl
  cases a with
  | prsm => cases ha
  | pism => cases ha
  | switchBridge => cases ha
  | prssm t => exact hsame.select t
  | createPort q portno name speed duplex =>
    refine (sidesKept_begin p br).port (fun b t hb _ _ => hb.select t) ?_
      (addPort_sidesKept p q portno name speed duplex hcist)
    exact List.mem_append_right _ List.mem_cons_self
  | createMsti mstid trees =>
    refine (sidesKept_begin p br).tree ?_ (addTree_sidesKept p hg.1 trees br)
    exact (insertAfterLast_mem hg.2.2.2.2 mstid).mpr (Or.inl rfl)
  | bridgeAddress _ | bridgeConfig _ | tables _ _ _ _ | configId _ _ =>
    exact (sidesKept_begin p br).restart
      (fun b b' hf hb => hb.frame hf (fun _ => rfl) fun _ => rfl) rfl hsame
  | _ => exact hsame.frame (Act.frame _ br) (fun _ => rfl) fun _ => rfl

/-! ## The two marks agree -/

/-- The port that takes a message. -/
def Act.takes : Act → Option PortRef
  | .prsm p .receive => some p
  | _ => none

/-- A message that comes from the other side than the received record of its port takes the
place of that record, unless the record is on its way out. -/
def keepsSides (a : Act) (br : Bridge) : Prop :=
  ∀ p ∈ a.takes, (br.cist p).infoIs = .received →
    fromSameRegion br p = (br.port p).infoInternal ∨ replacesRecord br p = true

instance (a : Act) (br : Bridge) : Decidable (keepsSides a br) :=
  inferInstanceAs (Decidable (∀ p ∈ a.takes, (br.cist p).infoIs = .received →
    fromSameRegion br p = (br.port p).infoInternal ∨ replacesRecord br p = true))

/-- The actions that mark the record of the port in the CIST. -/
def Act.marks (p : PortRef) : Act → Bool
  | .pism q t s => decide (q = p ∧ t = 0) && s.marks
  | _ => false

/-- The record of the port was taken from a message with the same mark as the last one. -/
def MarkedLikeRecord (C : Act → Bridge → Prop) (p : PortRef) (k : Phase) (br : Bridge) : Prop :=
  ∃ b₁ s, VisitedAt C .pism b₁ ∧ (Act.pism p 0 s).Guard b₁ ∧ s.marks = true ∧
    passActs.Leads (onActs fun a _ => a.marks p = false) (.pism, (Act.pism p 0 s).run b₁) (k, br) ∧
    (br.port p).rcvdInternal = (b₁.port p).rcvdInternal

/-- The stages before role selection in which messages are taken. -/
def Phase.takesMessages : Phase → Bool
  | .prsm => true
  | .ppmsm => true
  | .bdsm => true
  | .ptsm => true
  | .pism => true
  | _ => false

/-- The marks of a listed port with received information, at any point of a pass. -/
def SidesAgree (C : Act → Bridge → Prop) (p : PortRef) (k : Phase) (br : Bridge) : Prop :=
  p ∈ br.ports → br.bridgeEnabled = true → (br.cist p).infoIs = .received →
    ((br.port p).rcvdInternal = (br.port p).infoInternal ∧ MarkedLikeRecord C p k br) ∨
      (k.takesMessages = true ∧ Awaiting p br)

section Marks

variable {C : Act → Bridge → Prop} {p : PortRef} {k : Phase} {br : Bridge}

theorem MarkedLikeRecord.act (h : MarkedLikeRecord C p k br) {a : Act} (hg : a.Guard br)
    (hat : a.At k) (hm : a.marks p = false)
    (hsame : ((a.run br).port p).rcvdInternal = (br.port p).rcvdInternal) :
    MarkedLikeRecord C p k (a.run br) := by
  obtain ⟨b₁, s, hv, hgs, hs, hlead, hmark⟩ := h
  refine ⟨b₁, s, hv, hgs, hs, hlead.trans ?_, hsame.trans hmark⟩
  exact .act (a := Move.act a) ⟨hg, hat⟩ hm

/-- Actions that keep the record and the mark of the last message. -/
theorem SidesAgree.keep (h : SidesAgree C p k br) {a : Act} (hg : a.Guard br) (hat : a.At k)
    (hm : a.marks p = false) (hlisted : p ∈ (a.run br).ports → p ∈ br.ports)
    (hen : (a.run br).bridgeEnabled = br.bridgeEnabled)
    (hinfo : ((a.run br).cist p).infoIs = (br.cist p).infoIs)
    (hrcvd : ((a.run br).port p).rcvdInternal = (br.port p).rcvdInternal)
    (hmark : ((a.run br).port p).infoInternal = (br.port p).infoInternal ∨
      ((a.run br).port p).infoInternal = (br.port p).rcvdInternal)
    (hwait : k.takesMessages = true → Awaiting p br → Awaiting p (a.run br)) :
    SidesAgree C p k (a.run br) := by
  intro hp henabled hr
  refine (h (hlisted hp) (hen ▸ henabled) (hinfo.symm.trans hr)).imp (fun hagree => ?_)
    fun hpending => ⟨hpending.1, hwait hpending.1 hpending.2⟩
  refine ⟨?_, hagree.2.act hg hat hm hrcvd⟩
  rcases hmark with hmark | hmark
  · exact hrcvd.trans (hagree.1.trans hmark.symm)
  · exact hrcvd.trans hmark.symm

end Marks

section Procedures

variable (p : PortRef) (t : Mstid) (br : Bridge)

theorem port_recordAgreement : (recordAgreement p t br).port p = br.port p := by
  rw [recordAgreement]
  split <;> rfl

theorem port_recordDispute : (recordDispute p t br).port p = br.port p := by
  rw [recordDispute]
  split <;> rfl

theorem port_recordMastered : (recordMastered p t br).port p = br.port p := by
  rw [recordMastered]
  split <;> rfl

theorem port_recordProposal : (recordProposal p t br).port p = br.port p := by
  rw [recordProposal]
  split <;> rfl

theorem setTcFlags_mark :
    ((setTcFlags p t br).port p).infoInternal = (br.port p).infoInternal := by
  rw [setTcFlags]
  split
  · simp
  · rfl

theorem rcvInfo_mark :
    ((rcvInfo p t br).2.port p).infoInternal = (br.port p).infoInternal := by
  rw [rcvInfo]
  split
  · simp
  · split <;> rfl

/-- The mark of a record is written only with the one of the last message. -/
theorem pismTo_marks (s : PismState) :
    ((pismTo p t s br).port p).rcvdInternal = (br.port p).rcvdInternal ∧
      ((pismTo p t s br).port p).infoInternal =
        if s.marks then (br.port p).rcvdInternal else (br.port p).infoInternal := by
  refine ⟨(pismTo_frame p t s br).port_eq Port.rcvdInternal (fun _ => rfl) p, ?_⟩
  cases s with
  | superiorDesignated =>
    simp [pismTo, pismToSuperiorDesignated, updtRcvdInfoWhile, recordTimes, recordPriority,
      port_recordAgreement, setTcFlags_mark, port_recordProposal, PismState.marks]
  | repeatedDesignated =>
    simp [pismTo, pismToRepeatedDesignated, updtRcvdInfoWhile, port_recordAgreement,
      setTcFlags_mark, port_recordProposal, PismState.marks]
  | inferiorDesignated =>
    simp [pismTo, pismToInferiorDesignated, port_recordDispute, PismState.marks]
  | notDesignated =>
    simp [pismTo, pismToNotDesignated, port_recordAgreement, setTcFlags_mark, PismState.marks]
  | receive =>
    simp [pismTo, pismToReceive, port_recordMastered, rcvInfo_mark, PismState.marks]
  | update =>
    rw [pismTo, pismToUpdate, setNewInfo, port_setPort_self]
    rfl
  | _ => rfl

end Procedures

theorem prsmToReceive_cist (p : PortRef) (br : Bridge) :
    (prsmToReceive p br).cist p = { br.cist p with rcvdMsg := true } := by
  simp [prsmToReceive, setRcvdMsgs, updtBPDUVersion]

theorem prsmToReceive_taken (p : PortRef) (br : Bridge) :
    ((prsmToReceive p br).port p).rcvdInternal = fromSameRegion br p ∧
      ((prsmToReceive p br).port p).rcvdBpdu = false := by
  constructor
  · simp only [prsmToReceive, setRcvdMsgs, updtBPDUVersion, port_setPort_self, port_setMstiPtps,
      port_setPtp, fromSameRegion]
    rfl
  · rw [prsmToReceive, port_setPort_self]

section Step

variable {p : PortRef} {k : Phase} {br : Bridge}

theorem prsmNext_portEnabled {s : PrsmState} (h : prsmNext br p = some s) :
    (br.port p).portEnabled = true ↔ s = .receive := by
  rw [prsmNext] at h
  cases hen : (br.port p).portEnabled with
  | false =>
    simp only [hen, Bool.not_false, Bool.and_true, Bool.and_false, Bool.false_and] at h
    grind
  | true =>
    simp only [hen, Bool.not_true, Bool.and_false, Bool.false_eq_true, if_false] at h
    grind

theorem prsmNext_rcvdBpdu (h : prsmNext br p = some .receive) : (br.port p).rcvdBpdu = true := by
  rw [prsmNext] at h
  grind

/-- A message is taken in exchange for the record, or it has the same mark. -/
theorem SidesAgree.take (h : SidesAgree keepsSides p k br) (hv : VisitedAt keepsSides k br)
    (hg : (Act.prsm p .receive).Guard br) (hat : (Act.prsm p .receive).At k)
    (hC : keepsSides (.prsm p .receive) br) :
    SidesAgree keepsSides p k ((Act.prsm p .receive).run br) := by
  have hk : k = .prsm := hat.resolve_right fun h => Bool.false_ne_true h.2
  have hframe := prsmTo_frame p .receive br
  have hinfo := hframe.ptp_eq PerTreePort.infoIs (fun _ => rfl) p 0
  have hsame := hframe.port_eq (fun x => (x.portEnabled, x.infoInternal, x.rcvdBpduData))
    (fun _ => rfl) p
  simp only [Prod.mk.injEq] at hsame
  obtain ⟨hportEnabled, hmark, hdata⟩ := hsame
  obtain ⟨hrcvd, htaken⟩ := prsmToReceive_taken p br
  intro hp hen hr
  have hbefore : (br.cist p).infoIs = .received := hinfo.symm.trans hr
  have hagree := (h hg.2.1 hg.1 hbefore).resolve_right fun hpending =>
    Bool.false_ne_true (hpending.2.taken.symm.trans (prsmNext_rcvdBpdu hg.2.2))
  rcases hC p rfl hbefore with hside | hreplaces
  · have hrun : (((Act.prsm p .receive).run br).port p).rcvdInternal =
        (br.port p).infoInternal := hrcvd.trans hside
    exact Or.inl ⟨hrun.trans hmark.symm, hagree.2.act hg hat rfl (hrun.trans hagree.1.symm)⟩
  · refine Or.inr ⟨by rw [hk]; rfl, hp, ?_, htaken, ?_⟩
    · exact hportEnabled.trans ((prsmNext_portEnabled hg.2.2).mpr rfl)
    · have hrest := hv.mayRest p (hk ▸ Phase.noConfusion)
      obtain ⟨hdisabled, haged⟩ := hv.received_state p hbefore
      have hcist : ((Act.prsm p .receive).run br).cist p = { br.cist p with rcvdMsg := true } :=
        prsmToReceive_cist p br
      have hmsg : messageInfo ((Act.prsm p .receive).run br) p = messageInfo br p :=
        messageInfo_congr hdata (hframe.config_eq Bridge.maxHops fun _ => rfl)
          ((congrArg recorded hcist).trans rfl)
      rw [Superseding, Expiring, hcist, hmsg]
      rw [replacesRecord] at hreplaces
      have hcurrent : (br.cist p).pismState = .current := by
        cases hs : (br.cist p).pismState <;> simp_all [PismState.mayRest]
      split at hreplaces
      · rename_i hupd
        exact Or.inl ⟨rfl, Or.inl ⟨hcurrent, by rw [if_pos hupd]; exact hreplaces⟩⟩
      · rename_i hupd
        rcases Bool.or_eq_true_iff.mp hreplaces with hrecorded | hwhile
        · exact Or.inl ⟨rfl, Or.inl ⟨hcurrent, by rw [if_neg hupd]; exact hrecorded⟩⟩
        · exact Or.inr ⟨beq_iff_eq.mp hwhile, Bool.eq_false_iff.mpr hupd, hdisabled, haged⟩

/-- Port information keeps the marks together, as it copies one to the other. -/
theorem SidesAgree.inform (h : SidesAgree keepsSides p k br) (hv : VisitedAt keepsSides k br)
    {s : PismState} (hg : (Act.pism p 0 s).Guard br) (hat : (Act.pism p 0 s).At k) :
    SidesAgree keepsSides p k ((Act.pism p 0 s).run br) := by
  have hk : k = .pism := hat.resolve_right fun h => Bool.false_ne_true h.2
  obtain ⟨hrcvd, hmark⟩ := pismTo_marks p 0 br s
  have hframe := pismTo_frame p 0 s br
  cases hs : s.marks with
  | true =>
    rw [hs, if_pos rfl] at hmark
    exact fun _ _ _ => Or.inl ⟨hrcvd.trans hmark.symm, br, s, hk ▸ hv, hg, hs, hk ▸ .refl _, hrcvd⟩
  | false =>
    rw [hs, if_neg Bool.false_ne_true] at hmark
    cases hkeep : s.keepsRecord with
    | true =>
      have hinfo : recorded ((pismTo p 0 s br).cist p) = recorded (br.cist p) :=
        (keepsRecord_cist hkeep p br).2.1
      refine h.keep hg hat ?_ (fun hp => hframe.ports_eq ▸ hp) hframe.enabled_eq
        (congrArg (fun x => x.2.2) hinfo) hrcvd (Or.inl hmark)
        fun _ hwait => hwait.pism hg.2.2.2 hkeep
      rw [Act.marks, hs, Bool.and_false]
    | false =>
      intro _ _ hr
      change ((pismTo p 0 s br).cist p).infoIs = .received at hr
      cases s with
      | disabled =>
        rw [pismTo, disabled_cist] at hr
        cases hr
      | aged =>
        rw [pismTo, aged_cist] at hr
        cases hr
      | update =>
        rw [pismTo, update_cist] at hr
        cases hr
      | superiorDesignated => cases hs
      | repeatedDesignated => cases hs
      | _ => cases hkeep

/-- The stages of a pass in which messages are taken have no other actions that write what
decides about the record. -/
theorem Awaiting.other (h : Awaiting p br) {a : Act} (ha : a.sides = false) (hat : a.At k)
    (hk : k.takesMessages = true) : Awaiting p (a.run br) := by
  have hphase : k = a.phase := hat.resolve_right fun h => by
    rw [h.1] at hk
    cases hk
  cases a with
  | prsm => cases ha
  | pism => cases ha
  | switchBridge => cases ha
  | ppmsm q s => exact h.frame (ppmsmTo_frame q s br) (fun _ => rfl) (fun _ => rfl) fun _ => rfl
  | bdsm q s => exact h.frame (bdsmTo_frame q s br) (fun _ => rfl) (fun _ => rfl) fun _ => rfl
  | ptsm q s => exact h.frame (ptsmTo_frame q s br) (fun _ => rfl) (fun _ => rfl) fun _ => rfl
  | _ =>
    rw [hphase] at hk
    cases hk

/-- An action that leaves the port alone. -/
theorem SidesAgree.untouched (h : SidesAgree keepsSides p k br) {a : Act} (hg : a.Guard br)
    (hat : a.At k) (hm : a.marks p = false) (hports : (a.run br).ports = br.ports)
    (hen : (a.run br).bridgeEnabled = br.bridgeEnabled) (hhops : (a.run br).maxHops = br.maxHops)
    (hun : Untouched p br (a.run br)) : SidesAgree keepsSides p k (a.run br) :=
  h.keep hg hat hm (fun hp => hports ▸ hp) hen (congrArg PerTreePort.infoIs (hun.2 0))
    (congrArg Port.rcvdInternal hun.1) (Or.inl (congrArg Port.infoInternal hun.1))
    fun _ hwait => hwait.congr hports hhops
      (congrArg (fun x : Port => (x.portEnabled, x.rcvdBpdu, x.rcvdBpduData)) hun.1)
      (congrArg deciding (hun.2 0))

/-- The other actions keep the record and both marks, or drop the record. -/
theorem SidesAgree.other (h : SidesAgree keepsSides p k br) (hcist : 0 ∈ br.trees) {a : Act}
    (ha : a.sides = false) (hc : a.creates p = false) (hg : a.Guard br) (hat : a.At k) :
    SidesAgree keepsSides p k (a.run br) := by
  have hm : a.marks p = false := by
    cases a with
    | pism => cases ha
    | _ => rfl
  rcases Act.sides_kept ha p hcist hg with hsame | hdisabled
  · simp only [Mstpd.sides, Prod.mk.injEq] at hsame
    refine h.keep hg hat hm (Act.listed hc hg) (Act.enabled_eq (fun up hup => ?_) hg) hsame.1
      hsame.2.1 (Or.inl hsame.2.2) fun hk hwait => hwait.other ha hat hk
    subst hup
    cases ha
  · exact fun _ _ hr => absurd (hdisabled.symm.trans hr) InfoOrigin.noConfusion

end Step

/-- At every point of a run that meets the condition. -/
theorem VisitedAt.sidesAgree {k : Phase} {br : Bridge} (h : VisitedAt keepsSides k br)
    (p : PortRef) : SidesAgree keepsSides p k br := by
  refine h.inv (I := SidesAgree keepsSides p) ?_ ?_ ?_
  · intro _ _ hp
    cases hp
  · intro a k b hv hi hg hat hC
    have hcist : 0 ∈ b.trees := hv.visited.cist_mem
    cases a with
    | prsm q s =>
      have hframe := prsmTo_frame q s b
      by_cases hself : p = q
      · subst hself
        cases s with
        | receive => exact hi.take hv hg hat hC
        | discard =>
          have hdiscard := prsmToDiscard_frame p b
          refine hi.keep hg hat rfl (fun hp => hframe.ports_eq ▸ hp) hframe.enabled_eq
            (hdiscard.ptp_eq PerTreePort.infoIs (fun _ => rfl) p 0)
            (hdiscard.port_eq Port.rcvdInternal (fun _ => rfl) p)
            (Or.inl (hdiscard.port_eq Port.infoInternal (fun _ => rfl) p)) ?_
          intro _ hwait
          exact absurd ((prsmNext_portEnabled hg.2.2).mp hwait.enabled) PrsmState.noConfusion
      · exact hi.untouched hg hat rfl hframe.ports_eq hframe.enabled_eq
          (hframe.config_eq Bridge.maxHops fun _ => rfl) (prsmTo_untouched hself b s)
    | pism q t s =>
      have hframe := pismTo_frame q t s b
      have hhops := hframe.config_eq Bridge.maxHops fun _ => rfl
      by_cases hself : q = p ∧ t = 0
      · obtain ⟨rfl, rfl⟩ := hself
        exact hi.inform hv hg hat
      · have hm : (Act.pism q t s).marks p = false := by
          rw [Act.marks, decide_eq_false hself, Bool.false_and]
        by_cases hp : p = q
        · subst hp
          obtain ⟨hrcvd, hmark⟩ := pismTo_marks p t b s
          have hkeep := pismTo_elsewhere hself s b
          refine hi.keep hg hat hm (fun hp => hframe.ports_eq ▸ hp) hframe.enabled_eq
            (hkeep.eq PerTreePort.infoIs fun _ => rfl) hrcvd ?_ ?_
          · cases hs : s.marks with
            | true =>
              rw [hs, if_pos rfl] at hmark
              exact Or.inr hmark
            | false =>
              rw [hs, if_neg Bool.false_ne_true] at hmark
              exact Or.inl hmark
          · exact fun _ hwait => hwait.congr hframe.ports_eq hhops
              (hframe.port_eq (fun x => (x.portEnabled, x.rcvdBpdu, x.rcvdBpduData))
                (fun _ => rfl) p) (hkeep.eq deciding fun _ => rfl)
        · exact hi.untouched hg hat hm hframe.ports_eq hframe.enabled_eq hhops
            (pismTo_untouched hp b t s)
    | switchBridge up =>
      intro hp hen hr
      have hup : up = true := (switchBridge_enabled up b).symm.trans hen
      have hlisted : p ∈ (resetBridge up b).ports :=
        (resetBridge_frame up b).ports_eq.symm ▸ Act.listed rfl hg hp
      have hfresh : Fresh (((Act.switchBridge up).run b).cist p) :=
        bridgeBegin_fresh ((resetBridge_enabled up b).trans hup) hlisted
          ((resetBridge_frame up b).trees_eq.symm ▸ hcist)
      exact absurd (hfresh.infoIs.symm.trans hr) InfoOrigin.noConfusion
    | createPort q portno name speed duplex =>
      by_cases hself : q = p
      · subst hself
        have hfresh := createPort_fresh q portno name speed duplex hcist
        exact fun _ _ hr => absurd (hfresh.infoIs.symm.trans hr) InfoOrigin.noConfusion
      · exact hi.other hcist rfl (decide_eq_false hself) hg hat
    | _ => exact hi.other hcist rfl rfl hg hat
  · intro k b hv hi hen hdone hp hen' hr
    rcases hi hp hen' hr with hagree | hpending
    · refine Or.inl ⟨hagree.1, ?_⟩
      obtain ⟨b₁, s, hv₁, hg₁, hs, hlead, hsame⟩ := hagree.2
      exact ⟨b₁, s, hv₁, hg₁, hs, hlead.trans (.act (a := Move.proceed) ⟨hen, hdone⟩ trivial),
        hsame⟩
    · have hk : k ≠ .pism := by
        rintro rfl
        exact hpending.2.moves hr (hdone p hp hv.visited.cist_mem)
      refine Or.inr ⟨?_, hpending.2⟩
      have htakes := hpending.1
      cases k with
      | pism => exact absurd rfl hk
      | prsm => rfl
      | ppmsm => rfl
      | bdsm => rfl
      | ptsm => rfl
      | _ => cases htakes

/-- Role selection for a tree starts in the state: in its stage of a pass, or in the BEGIN of
a new port, where the trees have their turn one after the other. -/
inductive Selects (k : Phase) (b : Bridge) (t : Mstid) : Bridge → Prop
  | stage (hk : k = .prssm) (hg : (Act.prssm t).Guard b) : Selects k b t b
  | begin {p : PortRef} {portno : UInt16} {name : String} {speed duplex : Int}
    {before after : List Mstid} (hat : (Act.createPort p portno name speed duplex).At k)
    (hg : (Act.createPort p portno name speed duplex).Guard b) (hen : b.bridgeEnabled = true)
    (htrees : b.trees = before ++ t :: after) :
    Selects k b t
      (forAll prssmRun before (portBeginSelect p (addPort p portno name speed duplex b)))

/-- Role selection takes the side of the record from the last message, which has the mark of
the message that was recorded. -/
theorem received_sides_agree {k : Phase} {b br : Bridge} {t : Mstid} {p : PortRef}
    (hv : VisitedAt keepsSides k b) (hsel : Selects k b t br) (hp : p ∈ br.ports)
    (hr : (br.cist p).infoIs = .received) :
    (br.port p).rcvdInternal = (br.port p).infoInternal ∧
      (br.port p).rcvdInternal = (b.port p).rcvdInternal ∧
      MarkedLikeRecord keepsSides p k b := by
  cases hsel with
  | stage hk hg =>
    rcases hv.sidesAgree p hp hg.1 hr with hagree | hpending
    · exact ⟨hagree.1, rfl, hagree.2⟩
    · rw [hk] at hpending
      exact absurd hpending.1 Bool.false_ne_true
  | @begin q portno name speed duplex before after hat hg hen htrees =>
    have hk : k = .idle := hat.elim id fun h => h.1
    have hcist : 0 ∈ b.trees := hv.visited.cist_mem
    have hq : q ∈ (addPort q portno name speed duplex b).ports :=
      List.mem_append_right _ List.mem_cons_self
    have hbefore : ∀ s ∈ before, s ∈ (addPort q portno name speed duplex b).trees := by
      intro s hs
      change s ∈ b.trees
      rw [htrees]
      exact List.mem_append_left _ hs
    obtain ⟨hkept, hports, -⟩ := (sidesKept_begin p b).portSelect (fun b t hb _ _ => hb.select t)
      hq (addPort_sidesKept p q portno name speed duplex hcist) hbefore
    have hsame := hkept.resolve_right fun h => InfoOrigin.noConfusion (h.symm.trans hr)
    simp only [Mstpd.sides, Prod.mk.injEq] at hsame
    have hold : p ∈ b.ports := by
      rw [hports] at hp
      rcases List.mem_append.mp hp with hold | hnew
      · exact hold
      · obtain rfl := List.mem_singleton.mp hnew
        have hinfo := ((keptOrFresh_begin p _).portSelect (fun b t hb _ _ => hb.select t)
          hq (Or.inl rfl) hbefore).1
        have hfresh := hinfo.fresh (addPort_fresh p portno name speed duplex hcist)
        exact absurd (hfresh.infoIs.symm.trans hr) InfoOrigin.noConfusion
    rcases hv.sidesAgree p hold hen (hsame.1.symm.trans hr) with hagree | hpending
    · exact ⟨hsame.2.1.trans (hagree.1.trans hsame.2.2.symm), hsame.2.1, hagree.2⟩
    · rw [hk] at hpending
      exact absurd hpending.1 Bool.false_ne_true

/-! ## A message that is not recorded -/

/-- A message of the root of the same region: a Designated port, no cost, the times of the
standard and the identifier of the sample bridge. -/
def regionBpdu : Mem := fun o =>
  if 38 ≤ o ∧ o < 89 then
    (0 :: macName 0x020000000001 ++ [0, 0] ++ sampleEnv.hmacMd5 [] []).getD (o - 38) 0
  else
    match o with
    | 2 => 3
    | 3 => 2
    | 4 => 0x0C
    | 29 => 20
    | 31 => 2
    | 33 => 15
    | 37 => 64
    | 101 => 20
    | _ => 0

/-- A Topology Change Notification. -/
def tcnBpdu : Mem := fun o => if o = 3 then 128 else 0

def notifiedOps : List Op :=
  [.createPort 1 1 "sw1p1" 1000 1, .setCistBridgeConfig { protocolVersion := some 3 },
    .setBridgeEnable true, .setPortEnable 1 true 1000 1, .rxBpdu 1 regionBpdu 102,
    .rxBpdu 1 tcnBpdu 4, .setMstiBridgeConfig 0 4]

/-- After a notification, role selection takes information of the region to be external. -/
theorem notified_sides_differ : ¬ ∀ (k : Phase) (b br : Bridge) (t : Mstid) (p : PortRef),
    VisitedAt anyAct k b → Selects k b t br → p ∈ br.ports →
    (br.cist p).infoIs = .received → (br.port p).rcvdInternal = (br.port p).infoInternal := by
  have hrun : (sampleRun notifiedOps).any (fun br =>
      (passActs.attempt (onActs anyAct) [.proceed, .proceed, .proceed, .proceed, .proceed,
        .proceed, .proceed] (.idle, br)).any fun s =>
        s.1 == .prssm && decide ((Act.prssm 0).Guard s.2) && s.2.ports.contains 1 &&
          (s.2.cist 1).infoIs == .received &&
          (s.2.port 1).rcvdInternal != (s.2.port 1).infoInternal) = true := by
    decide +kernel
  intro hclaim
  obtain ⟨br, hbr, hrun⟩ := (Option.any_eq_true _ _).mp hrun
  obtain ⟨⟨k, b⟩, hb, hrun⟩ := (Option.any_eq_true _ _).mp hrun
  simp only [Bool.and_eq_true, beq_iff_eq, decide_eq_true_eq, List.contains_iff_mem,
    bne_iff_ne] at hrun
  obtain ⟨⟨⟨⟨hk, hg⟩, hp⟩, hr⟩, hdiffer⟩ := hrun
  have hreach : Reachable anyOp br := sampleRun_reachable (fun _ _ => trivial) hbr
  obtain ⟨env, macaddr, hlead⟩ := hreach.visitedAt
  have hv : VisitedAt anyAct k b := ⟨env, macaddr, hlead.trans (Labelled.attempt_leads hb)⟩
  exact hdiffer (hclaim k b b 0 1 hv (.stage hk hg) hp hr)

/-- A run in which a port records a message of its region. -/
def regionMoves : List Move :=
  [.act (.createPort 1 1 "sw1p1" 1000 1), .act (.switchBridge true), .act (.linkUp 1 1000 1),
    .proceed, .proceed, .proceed, .proceed, .proceed, .proceed, .act (.pism 1 0 .aged), .proceed,
    .act (.prssm 0), .proceed, .proceed, .proceed, .proceed, .act (.rxBpdu 1 regionBpdu 102),
    .proceed, .proceed, .act (.prsm 1 .receive), .proceed, .proceed, .proceed, .proceed,
    .act (.pism 1 0 .update), .act (.pism 1 0 .current), .act (.pism 1 0 .receive),
    .act (.pism 1 0 .superiorDesignated), .act (.pism 1 0 .current), .proceed]

theorem region_sides_agree : ∃ b, VisitedAt keepsSides .prssm b ∧ Selects .prssm b 0 b ∧
    1 ∈ b.ports ∧ (b.cist 1).infoIs = .received ∧ (b.port 1).infoInternal = true ∧
    (b.port 1).rcvdInternal = (b.port 1).infoInternal := by
  have hrun : (passActs.attempt (onActs keepsSides) regionMoves
      (.idle, mstpInBridgeCreate sampleEnv 0x020000000001)).any (fun s =>
        s.1 == .prssm && decide ((Act.prssm 0).Guard s.2) && s.2.ports.contains 1 &&
          (s.2.cist 1).infoIs == .received && (s.2.port 1).infoInternal) = true := by
    decide +kernel
  obtain ⟨⟨k, b⟩, hb, hrun⟩ := (Option.any_eq_true _ _).mp hrun
  simp only [Bool.and_eq_true, beq_iff_eq, decide_eq_true_eq, List.contains_iff_mem] at hrun
  obtain ⟨⟨⟨⟨rfl, hg⟩, hp⟩, hr⟩, hinternal⟩ := hrun
  have hv : VisitedAt keepsSides .prssm b := ⟨_, _, Labelled.attempt_leads hb⟩
  have hsel : Selects .prssm b 0 b := .stage rfl hg
  exact ⟨b, hv, hsel, hp, hr, hinternal, (received_sides_agree hv hsel hp hr).1⟩

end Mstpd
