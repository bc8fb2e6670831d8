import Mstpd.CistInfo
import Mstpd.Selection

/-!
# Agreements of a designated port

An agreement is a flag, and the vector it was given for is not stored. The guarantee
that it covers the port's present vector rests on the classification of the message
that carries it, and on every update since to have been an improvement.
-/

namespace Mstpd

open Bridge Machine

/-- The entries that call `recordAgreement`. -/
def PismState.recordsAgreement : PismState → Bool
  | .superiorDesignated => true
  | .repeatedDesignated => true
  | .notDesignated => true
  | _ => false

/-- The actions that may set `agreed` in the CIST entry of a port: a message is recorded,
or the port starts to forward. -/
def Act.setsAgreed (p : PortRef) : Act → Bool
  | .pism q t s => decide (q = p ∧ t = 0) && s.recordsAgreement
  | .prtsm q t s => decide (q = p ∧ t = 0) && (s == .designatedForward || s == .masterForward)
  | _ => false

/-- While `agreed` lasts the message of `b₁` agreed, and a port with information of its own
has a vector that is no worse than the one of that message. -/
def HeldFor (p : PortRef) (b₁ br : Bridge) : Prop :=
  (br.cist p).agreed = true → agrees b₁ p = true ∧
    ((br.cist p).infoIs = .mine →
      betterorsamePriority (br.cist p).portPriority (msgPriorityOf b₁ p 0) 0 0 true = true)

variable {p : PortRef} {b₁ br br' : Bridge}

theorem HeldFor.keep (h : HeldFor p b₁ br)
    (hinfo : (br'.cist p).infoIs = (br.cist p).infoIs)
    (hpri : (br'.cist p).portPriority = (br.cist p).portPriority)
    (hagreed : (br'.cist p).agreed = true → (br.cist p).agreed = true) : HeldFor p b₁ br' := by
  intro ha
  rw [hinfo, hpri]
  exact h (hagreed ha)

theorem HeldFor.keptOrFresh (h : HeldFor p b₁ br) (hk : KeptOrFresh p br br') :
    HeldFor p b₁ br' := by
  rcases hk with hk | hfresh
  · simp only [informationOf, Prod.mk.injEq] at hk
    exact h.keep hk.2.1 hk.2.2.1 fun ha => hk.2.2.2 ▸ ha
  · intro ha
    exact absurd (hfresh.agreed.symm.trans ha) Bool.false_ne_true

/-- An update keeps the agreement only where the new vector is no worse than the old one. -/
theorem HeldFor.update (h : HeldFor p b₁ br) : HeldFor p b₁ (pismToUpdate p 0 br) := by
  intro ha
  rw [update_cist, betterorsameInfo_mine] at ha
  simp only [Bool.and_eq_true, decide_eq_true_eq] at ha
  obtain ⟨hagreed, hmine, hbetter⟩ := ha
  obtain ⟨hmsg, hheld⟩ := h hagreed
  refine ⟨hmsg, fun _ => ?_⟩
  rw [update_cist]
  exact betterorsame_trans true ((br.cist p).designatedPriority, 0) ((br.cist p).portPriority, 0)
    (msgPriorityOf b₁ p 0, 0) hbetter (hheld hmine)

theorem HeldFor.pism (h : HeldFor p b₁ br) {s : PismState} (hs : s.recordsAgreement = false) :
    HeldFor p b₁ (pismTo p 0 s br) := by
  cases s with
  | disabled =>
    intro ha
    rw [pismTo, disabled_cist] at ha
    cases ha
  | aged =>
    intro ha
    rw [pismTo, aged_cist] at ha ⊢
    exact ⟨(h ha).1, fun hmine => by cases hmine⟩
  | update => exact h.update
  | superiorDesignated => cases hs
  | repeatedDesignated => cases hs
  | notDesignated => cases hs
  | inferiorDesignated =>
    intro ha
    rw [pismTo, inferiorDesignated_cist] at ha ⊢
    exact h (Bool.and_eq_true_iff.mp ha).1
  | other =>
    intro ha
    rw [pismTo, other_cist] at ha ⊢
    exact h ha
  | current =>
    intro ha
    rw [pismTo, current_cist] at ha ⊢
    exact h ha
  | receive =>
    have hcist := congrArg informationOf (receive_cist p br)
    have hkeep : informationOf ((pismToReceive p 0 br).cist p) =
      (.receive, (br.cist p).infoIs, (br.cist p).portPriority, (br.cist p).agreed) := hcist
    simp only [informationOf, Prod.mk.injEq] at hkeep
    exact h.keep hkeep.2.1 hkeep.2.2.1 fun ha => hkeep.2.2.2 ▸ ha

/-- Role transitions set `agreed` only where they start to forward. -/
theorem prtsmEnter_agreed (v : PrtsmVars) (sendRSTP : Bool) {s : PrtsmState}
    (hs : (s == .designatedForward || s == .masterForward) = false) (x : PerTreePort) :
    (prtsmEnter v sendRSTP s x).agreed = x.agreed := by
  cases s <;> first | rfl | cases hs

theorem HeldFor.prtsm (h : HeldFor p b₁ br) {q : PortRef} {t : Mstid} {s : PrtsmState}
    (hs : (Act.prtsm q t s).setsAgreed p = false) (v : PrtsmVars) :
    HeldFor p b₁ (prtsmTo v q t s br) := by
  have hframe := (prtsmTo_frame v q t s br).ptp_eq (fun x => (x.infoIs, x.portPriority))
    (fun _ => rfl) p 0
  simp only [Prod.mk.injEq] at hframe
  refine h.keep hframe.1 hframe.2 fun ha => ?_
  by_cases hself : q = p ∧ t = 0
  · obtain ⟨rfl, rfl⟩ := hself
    have hs' : (s == .designatedForward || s == .masterForward) = false := by
      simpa [Act.setsAgreed] using hs
    have htree : (withoutSync ((prtsmTree 0 s br).cist q)).agreed =
        (withoutSync (br.cist q)).agreed := congrArg PerTreePort.agreed (prtsmTree_cist q 0 s br)
    rw [prtsmTo_self, prtsmEnter_agreed _ _ hs'] at ha
    exact htree ▸ ha
  · have helse := congrArg PerTreePort.agreed (prtsmTo_elsewhere hself v s br)
    have hsame : ((prtsmTo v q t s br).cist p).agreed = (br.cist p).agreed := helse
    exact hsame ▸ ha

theorem HeldFor.act (h : HeldFor p b₁ br) (hcist : 0 ∈ br.trees) {a : Act} (hg : a.Guard br)
    (ha : a.setsAgreed p = false) : HeldFor p b₁ (a.run br) := by
  cases a with
  | pism q t s =>
    by_cases hself : q = p ∧ t = 0
    · have hs : s.recordsAgreement = false := by simpa [Act.setsAgreed, hself] using ha
      obtain ⟨rfl, rfl⟩ := hself
      exact h.pism hs
    · exact h.keptOrFresh (Or.inl ((pismTo_elsewhere hself s br).eq informationOf fun _ => rfl))
  | prtsm q t s => exact h.prtsm ha _
  | _ => exact h.keptOrFresh (Act.information_kept rfl p hcist hg)

/-! ## The message that agrees -/

theorem classifyInfo_notDesignated {ptp : PerTreePort} {mPri : PortPriorityVector} {mTimes : Times}
    {designated : Bool}
    (h : classifyInfo ptp mPri mTimes designated true = .inferiorRootAlternateInfo) :
    betterorsamePriority ptp.portPriority mPri 0 0 true = true := by
  simp only [classifyInfo] at h
  split at h
  · split at h
    · cases h
    · split at h
      · cases h
      · split at h <;> cases h
  · split at h
    · rename_i hbetter
      simpa using hbetter
    · cases h

theorem messageInfo_notDesignated (h : messageInfo br p = .inferiorRootAlternateInfo) :
    betterorsamePriority (br.cist p).portPriority (msgPriorityOf br p 0) 0 0 true = true := by
  rw [messageInfo] at h
  split at h
  · cases h
  · split at h
    · cases h
    · exact classifyInfo_notDesignated h

theorem classifyInfo_repeated {ptp : PerTreePort} {mPri : PortPriorityVector} {mTimes : Times}
    {designated : Bool}
    (h : classifyInfo ptp mPri mTimes designated true = .repeatedDesignatedInfo) :
    ptp.infoIs = .received := by
  simp only [classifyInfo] at h
  split at h
  · split at h
    · cases h
    · split at h
      · cases h
      · split at h
        · rename_i hsame
          simpa using (Bool.and_eq_true_iff.mp hsame).2
        · cases h
  · split at h <;> cases h

theorem messageInfo_repeated (h : messageInfo br p = .repeatedDesignatedInfo) :
    (br.cist p).infoIs = .received := by
  rw [messageInfo] at h
  split at h
  · cases h
  · split at h
    · cases h
    · exact classifyInfo_repeated h

/-- An agreement is recorded only while a message is examined, as the classification of
that message says. -/
theorem pismNext_recordsAgreement {s : PismState} (h : pismNext br p 0 = some s)
    (hs : s.recordsAgreement = true) : (br.cist p).pismState = .receive ∧
      (s = .repeatedDesignated → (br.cist p).rcvdInfo = .repeatedDesignatedInfo) ∧
      (s = .notDesignated → (br.cist p).rcvdInfo = .inferiorRootAlternateInfo) := by
  rw [pismNext] at h
  split at h
  · obtain rfl := Option.some.inj h
    cases hs
  · simp only [ptp_cist] at h
    split at h
    case h_10 hstate =>
      refine ⟨hstate, fun hrep => ?_, fun hnot => ?_⟩
      · subst hrep
        split at h <;> first | assumption | cases h
      · subst hnot
        split at h <;> first | assumption | cases h
    all_goals
      exfalso
      grind [PismState.recordsAgreement]

/-- After a message was recorded the flag is held for that message. -/
theorem heldFor_recorded {k : Phase} (hv : VisitedAt anyAct k b₁) {s : PismState}
    (hg : (Act.pism p 0 s).Guard b₁) (hs : s.recordsAgreement = true) :
    HeldFor p b₁ (pismTo p 0 s b₁) := by
  obtain ⟨hstate, hrep, hnot⟩ := pismNext_recordsAgreement hg.2.2.2 hs
  obtain ⟨-, -, hread⟩ := hv.receives p hstate
  intro ha
  cases s with
  | superiorDesignated =>
    rw [pismTo, superiorDesignated_cist] at ha ⊢
    exact ⟨ha, fun hmine => by cases hmine⟩
  | repeatedDesignated =>
    rw [pismTo, repeatedDesignated_cist] at ha ⊢
    refine ⟨ha, fun hmine => ?_⟩
    have hreceived := messageInfo_repeated (hread.info.symm.trans (hrep rfl))
    exact absurd (hmine.symm.trans hreceived) InfoOrigin.noConfusion
  | notDesignated =>
    rw [pismTo, notDesignated_cist] at ha ⊢
    exact ⟨ha, fun _ => messageInfo_notDesignated (hread.info.symm.trans (hnot rfl))⟩
  | _ => cases hs

/-- Agreements are not carried over to worse information. In the state `b₁` of a run a
message is recorded in the CIST entry of `p`; since then no other message was, and the
port has not started to forward. While `agreed` lasts, the message of `b₁` is the one that
agreed, and a port that holds information of its own has a vector better than or the same
as the vector of that message. -/
theorem agreement_covers {k₁ k : Phase} {br : Bridge} (hv : VisitedAt anyAct k₁ b₁)
    {s : PismState} (hg : (Act.pism p 0 s).Guard b₁) (hat : (Act.pism p 0 s).At k₁)
    (hs : s.recordsAgreement = true)
    (hsince : passActs.Leads (onActs fun a _ => a.setsAgreed p = false)
      (k₁, (Act.pism p 0 s).run b₁) (k, br))
    (hagreed : (br.cist p).agreed = true) : agrees b₁ p = true ∧
      ((br.cist p).infoIs = .mine →
        betterorsamePriority (br.cist p).portPriority (msgPriorityOf b₁ p 0) 0 0 true = true) := by
  have hafter : VisitedAt anyAct k₁ ((Act.pism p 0 s).run b₁) := hv.act hg hat trivial
  refine VisitedAt.since (I := fun _ b => HeldFor p b₁ b) hafter (fun _ _ _ => trivial)
    (heldFor_recorded hv hg hs) ?_ (fun _ _ _ hi _ _ => hi) hsince hagreed
  intro a _ b hvb hi hga _ ha
  exact hi.act hvb.visited.cist_mem hga ha

/-- An RST BPDU of a root port that agrees, with a vector worse than any bridge has. -/
def agreeingBpdu : Mem := fun o =>
  if o < 2 then 0 else if o < 4 then 2 else if o = 4 then 0x48 else 0xFF

/-- A designated port receives the message and starts to examine it. -/
def agreeingMoves : List Move :=
  [.act (.rxBpdu 1 agreeingBpdu 36), .proceed, .proceed, .act (.prsm 1 .receive), .proceed,
    .proceed, .proceed, .proceed, .act (.pism 1 0 .receive)]

/-- An agreement that is held by a designated port of an enabled bridge. -/
theorem sample_agreement_covers : ∃ b₁ k b, VisitedAt anyAct .pism b₁ ∧
    (Act.pism 1 0 .notDesignated).Guard b₁ ∧
    passActs.Leads (onActs fun a _ => a.setsAgreed 1 = false)
      (.pism, (Act.pism 1 0 .notDesignated).run b₁) (k, b) ∧
    (b.cist 1).agreed = true ∧ agrees b₁ 1 = true ∧ (b.cist 1).infoIs = .mine ∧
    betterorsamePriority (b.cist 1).portPriority (msgPriorityOf b₁ 1 0) 0 0 true = true := by
  have hrun : (sampleRun [.createPort 1 1 "sw1p1" 1000 1, .setBridgeEnable true,
      .setPortEnable 1 true 1000 1]).any (fun br =>
        (passActs.attempt (onActs anyAct) agreeingMoves (.idle, br)).any fun s =>
          (s.1 == .pism && decide ((Act.pism 1 0 .notDesignated).Guard s.2)) &&
          (passActs.attempt (onActs fun a _ => a.setsAgreed 1 = false)
            [.act (.pism 1 0 .current), .proceed]
            (.pism, (Act.pism 1 0 .notDesignated).run s.2)).any fun s' =>
              (s'.2.cist 1).agreed && (s'.2.cist 1).infoIs == .mine) = true := by
    decide +kernel
  obtain ⟨br, hbr, hrun⟩ := (Option.any_eq_true _ _).mp hrun
  obtain ⟨⟨k₁, b₁⟩, hb₁, hrun⟩ := (Option.any_eq_true _ _).mp hrun
  simp only [Bool.and_eq_true, beq_iff_eq, decide_eq_true_eq] at hrun
  obtain ⟨⟨rfl, hg⟩, hrun⟩ := hrun
  obtain ⟨⟨k, b⟩, hb, hrun⟩ := (Option.any_eq_true _ _).mp hrun
  simp only [Bool.and_eq_true, beq_iff_eq] at hrun
  obtain ⟨hagreed, hmine⟩ := hrun
  have hr : Reachable anyOp br := sampleRun_reachable (fun _ _ => trivial) hbr
  obtain ⟨env, macaddr, hlead⟩ := hr.visitedAt
  have hv : VisitedAt anyAct .pism b₁ := ⟨env, macaddr, hlead.trans (Labelled.attempt_leads hb₁)⟩
  have hsince := Labelled.attempt_leads hb
  have hcovers := agreement_covers hv hg (Or.inl rfl) rfl hsince hagreed
  exact ⟨b₁, k, b, hv, hg, hsince, hagreed, hcovers.1, hmine, hcovers.2 hmine⟩

end Mstpd
