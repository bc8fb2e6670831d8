import Mstpd.Pass
import Mstpd.OpFrames
import Mstpd.Reselect

/-!
# Handing a role from machine to machine

Port information asks for a selection by clearing `selected` and setting `reselect`, role
selection answers with `updtInfo` and a selected role, and role transitions take the role
over. The invariant says that no request and no answer is lost on the way.
-/

namespace Mstpd

open Bridge Machine

/-- What holds of every per-tree port while the machines run; one in `E` awaits its BEGIN. -/
structure Handover (E : PortRef → Mstid → Prop) (br : Bridge) : Prop where
  asks : ∀ q ∈ br.ports, ∀ s ∈ br.trees, ¬ E q s → (br.ptp q s).selected = false →
    (br.ptp q s).reselect = true
  drops : ∀ q ∈ br.ports, ∀ s ∈ br.trees, ¬ E q s → (br.ptp q s).infoIs = .disabled →
    (br.ptp q s).reselect = false → (br.ptp q s).selectedRole = .disabled
  idle : ∀ q ∈ br.ports, ∀ s ∈ br.trees, (br.port q).portEnabled = false →
    (br.ptp q s).updtInfo = false

/-- Ports without a link have no information. -/
def NoStaleInfo (br : Bridge) : Prop :=
  ∀ q ∈ br.ports, ∀ s ∈ br.trees, (br.port q).portEnabled = false → (br.ptp q s).infoIs = .disabled

/-- Everything but the fields of the invariant. -/
def apartFromHandover : Owned where
  config b := { ports := b.ports, trees := b.trees, bridgeEnabled := b.bridgeEnabled }
  ptp x :=
    { selected := x.selected, reselect := x.reselect, infoIs := x.infoIs
      selectedRole := x.selectedRole, updtInfo := x.updtInfo }
  port x := { portEnabled := x.portEnabled }
  tree _ := {}
  out _ := true

instance : apartFromHandover.KeepsEnabled := ⟨fun _ => rfl⟩

instance : apartFromHandover.KeepsLists := ⟨fun _ => rfl, fun _ => rfl⟩

instance : assuranceOwned.Within apartFromHandover :=
  ⟨fun _ => rfl, fun _ => rfl, fun _ => rfl, fun _ => rfl, fun _ _ => rfl⟩

instance : tickOwned.Within apartFromHandover :=
  ⟨fun _ => rfl, fun _ => rfl, fun _ => rfl, fun _ => rfl, fun _ _ => rfl⟩

instance : tcsmOwned.Within apartFromHandover :=
  ⟨fun _ => rfl, fun _ => rfl, fun _ => rfl, fun _ => rfl, fun _ _ => rfl⟩

instance : rxOwned.Within apartFromHandover :=
  ⟨fun _ => rfl, fun _ => rfl, fun _ => rfl, fun _ => rfl, fun _ _ => rfl⟩

instance : refusedOwned.Within apartFromHandover :=
  ⟨fun _ => rfl, fun _ => rfl, fun _ => rfl, fun _ => rfl, fun _ _ => rfl⟩

instance : ptsmOwned.Within apartFromHandover :=
  ⟨fun _ => rfl, fun _ => rfl, fun _ => rfl, fun _ => rfl, fun _ _ => rfl⟩

instance : pstsmOwned.Within apartFromHandover :=
  ⟨fun _ => rfl, fun _ => rfl, fun _ => rfl, fun _ => rfl, fun _ _ => rfl⟩

instance : prtsmOwned.Within apartFromHandover :=
  ⟨fun _ => rfl, fun _ => rfl, fun _ => rfl, fun _ => rfl, fun _ _ => rfl⟩

instance : prsmOwned.Within apartFromHandover :=
  ⟨fun _ => rfl, fun _ => rfl, fun _ => rfl, fun _ => rfl, fun _ _ => rfl⟩

instance : discardOwned.Within apartFromHandover :=
  ⟨fun _ => rfl, fun _ => rfl, fun _ => rfl, fun _ => rfl, fun _ _ => rfl⟩

instance : ppmsmOwned.Within apartFromHandover :=
  ⟨fun _ => rfl, fun _ => rfl, fun _ => rfl, fun _ => rfl, fun _ _ => rfl⟩

instance : bdsmOwned.Within apartFromHandover :=
  ⟨fun _ => rfl, fun _ => rfl, fun _ => rfl, fun _ => rfl, fun _ _ => rfl⟩

/-- The fields of the invariant in a per-tree port. -/
def handoverFields (x : PerTreePort) : Bool × Bool × InfoOrigin × Role × Bool :=
  (x.selected, x.reselect, x.infoIs, x.selectedRole, x.updtInfo)

theorem Handover.frame {E : PortRef → Mstid → Prop} {br br' : Bridge} (hi : Handover E br)
    (h : Frame apartFromHandover br br') : Handover E br' := by
  have hports : br'.ports = br.ports := h.ports_eq
  have htrees : br'.trees = br.trees := h.trees_eq
  have hfields := h.ptp_eq handoverFields fun _ => rfl
  simp only [handoverFields, Prod.mk.injEq] at hfields
  refine ⟨fun q hq s hs => ?_, fun q hq s hs => ?_, fun q hq s hs => ?_⟩
  all_goals
    obtain ⟨hsel, hre, hinfo, hrole, hupdt⟩ := hfields q s
    rw [hports] at hq
    rw [htrees] at hs
  · rw [hsel, hre]
    exact hi.asks q hq s hs
  · rw [hinfo, hre, hrole]
    exact hi.drops q hq s hs
  · rw [hupdt, h.port_eq Port.portEnabled (fun _ => rfl) q]
    exact hi.idle q hq s hs

theorem NoStaleInfo.frame {br br' : Bridge} (hi : NoStaleInfo br)
    (h : Frame apartFromHandover br br') : NoStaleInfo br' := by
  intro q hq s hs
  rw [h.port_eq Port.portEnabled (fun _ => rfl) q, h.ptp_eq PerTreePort.infoIs (fun _ => rfl) q s]
  have hports : br'.ports = br.ports := h.ports_eq
  have htrees : br'.trees = br.trees := h.trees_eq
  exact hi q (hports ▸ hq) s (htrees ▸ hs)

/-! ## Port information -/

/-- A step of the port information machine, seen through the fields of the invariant. -/
theorem pismTo_handover (p : PortRef) (t : Mstid) (s : PismState) (br : Bridge) :
    let x := br.ptp p t
    let y := (pismTo p t s br).ptp p t
    y.selectedRole = x.selectedRole ∧ (y.updtInfo = x.updtInfo ∨ y.updtInfo = false) ∧
      (y.reselect = true ∨ y.selected = x.selected ∧ y.reselect = x.reselect ∧
        (y.infoIs = x.infoIs ∨ y.infoIs = .mine)) := by
  intro x y
  have hrole : y.selectedRole = x.selectedRole :=
    (pismTo_frame p t s br).ptp_eq PerTreePort.selectedRole (fun _ => rfl) p t
  have hmessage : Frame messageOwned br (pismTo p t s br) → (y.updtInfo = x.updtInfo ∨
      y.updtInfo = false) ∧ (y.reselect = true ∨ y.selected = x.selected ∧
        y.reselect = x.reselect ∧ (y.infoIs = x.infoIs ∨ y.infoIs = .mine)) := by
    intro hframe
    have hfields := hframe.ptp_eq handoverFields (fun _ => rfl) p t
    simp only [handoverFields, Prod.mk.injEq] at hfields
    obtain ⟨hsel, hre, hinfo, -, hupdt⟩ := hfields
    exact ⟨Or.inl hupdt, Or.inr ⟨hsel, hre, Or.inl hinfo⟩⟩
  refine ⟨hrole, ?_⟩
  cases s with
  | disabled => exact ⟨Or.inl (by simp [y, x, pismTo, pismToDisabled]),
      Or.inl (by simp [y, pismTo, pismToDisabled])⟩
  | aged => exact ⟨Or.inl (by simp [y, x, pismTo, pismToAged]),
      Or.inl (by simp [y, pismTo, pismToAged])⟩
  | update =>
    have hy : y = (pismToUpdate p t br).ptp p t := rfl
    refine ⟨Or.inr (by simp [hy, pismToUpdate, setNewInfo, setPort]), Or.inr ⟨?_, ?_, Or.inr ?_⟩⟩
    all_goals simp [hy, x, pismToUpdate, setNewInfo, setPort]
  | superiorDesignated =>
    have hupdt := (pismToSuperiorDesignated_frame p t br).ptp_eq PerTreePort.updtInfo
      (fun _ => rfl) p t
    exact ⟨Or.inl hupdt, Or.inl (by simp [y, pismTo, pismToSuperiorDesignated])⟩
  | repeatedDesignated => exact hmessage (pismToRepeatedDesignated_frame p t br)
  | inferiorDesignated => exact hmessage (pismToInferiorDesignated_frame p t br)
  | notDesignated => exact hmessage (pismToNotDesignated_frame p t br)
  | other => exact hmessage (pismToOther_frame p t br)
  | current => exact hmessage (pismToCurrent_frame p t br)
  | receive => exact hmessage (pismToReceive_frame p t br)

theorem pismTo_handover_other {p q : PortRef} {t u : Mstid} (s : PismState) (br : Bridge)
    (h : ¬ (q = p ∧ u = t)) :
    handoverFields ((pismTo p t s br).ptp q u) = handoverFields (br.ptp q u) :=
  (pismTo_local p t s br).eq handoverFields (fun _ => rfl) h

theorem Handover.pismTo {E : PortRef → Mstid → Prop} {br : Bridge} (hi : Handover E br)
    (p : PortRef) (t : Mstid) (s : PismState) : Handover E (pismTo p t s br) := by
  have hframe := pismTo_frame p t s br
  have hports : (Mstpd.pismTo p t s br).ports = br.ports := hframe.ports_eq
  have htrees : (Mstpd.pismTo p t s br).trees = br.trees := hframe.trees_eq
  have henabled := hframe.port_eq Port.portEnabled fun _ => rfl
  obtain ⟨hrole, hupdt, hpair⟩ := pismTo_handover p t s br
  refine ⟨fun q hq u hu => ?_, fun q hq u hu => ?_, fun q hq u hu => ?_⟩
  all_goals
    rw [hports] at hq
    rw [htrees] at hu
    by_cases h : q = p ∧ u = t
  · obtain ⟨rfl, rfl⟩ := h
    rcases hpair with hre | ⟨hsel, hre, -⟩
    · exact fun _ _ => hre
    · rw [hsel, hre]
      exact hi.asks q hq u hu
  · have hfields := pismTo_handover_other s br h
    simp only [handoverFields, Prod.mk.injEq] at hfields
    rw [hfields.1, hfields.2.1]
    exact hi.asks q hq u hu
  · obtain ⟨rfl, rfl⟩ := h
    intro hE hinfo hno
    rcases hpair with hre | ⟨-, hre, hinfo' | hmine⟩
    · rw [hre] at hno
      cases hno
    · rw [hrole]
      exact hi.drops q hq u hu hE (hinfo' ▸ hinfo) (hre ▸ hno)
    · rw [hmine] at hinfo
      cases hinfo
  · have hfields := pismTo_handover_other s br h
    simp only [handoverFields, Prod.mk.injEq] at hfields
    rw [hfields.2.1, hfields.2.2.1, hfields.2.2.2.1]
    exact hi.drops q hq u hu
  · obtain ⟨rfl, rfl⟩ := h
    rw [henabled]
    intro hdown
    rcases hupdt with hsame | hfalse
    · exact hsame.trans (hi.idle q hq u hu hdown)
    · exact hfalse
  · have hfields := pismTo_handover_other s br h
    simp only [handoverFields, Prod.mk.injEq] at hfields
    rw [henabled, hfields.2.2.2.2]
    exact hi.idle q hq u hu

theorem pismNext_none_disabled {br : Bridge} {p : PortRef} {t : Mstid}
    (h : pismNext br p t = none) (hdown : (br.port p).portEnabled = false) :
    (br.ptp p t).infoIs = .disabled := by
  by_contra hne
  rw [pismNext, if_pos (by simp [hdown, hne])] at h
  cases h

/-- After the stage of port information no port without a link holds any. -/
theorem pismStage_noStaleInfo {fuel : Nat} {refs : List (PortRef × Mstid)} {br br' : Bridge}
    (h : pismStage fuel refs br = some br') : ∀ o ∈ refs,
      (br'.port o.1).portEnabled = false → (br'.ptp o.1 o.2).infoIs = .disabled := by
  refine forEach_settles (I := fun _ => True)
    (P := fun o b => (b.port o.1).portEnabled = false → (b.ptp o.1 o.2).infoIs = .disabled)
    (fun _ _ _ _ _ _ => trivial) ?_ ?_ trivial h
  · intro o _ b b' _ hrun
    exact pismNext_none_disabled (pismRun_none hrun)
  · intro a _ o _ b b' _ hb hrun hdown
    by_cases hsame : a.1 = o.1 ∧ a.2 = o.2
    · rw [hsame.1, hsame.2]
      exact pismNext_none_disabled (pismRun_none hrun) (hsame.1 ▸ hdown)
    · rw [pismRun_keeps PerTreePort.infoIs (fun _ => rfl) hsame hrun]
      exact hb (pismRun_portEnabled hrun a.1 ▸ hdown)

/-! ## Role selection -/

theorem Handover.roleSelection {br : Bridge} (hi : Handover settled br) (hinfo : NoStaleInfo br)
    (t : Mstid) : Handover settled (prssmToRoleSelection t br) := by
  have hframe := prssmToRoleSelection_frame t br
  have hports : (prssmToRoleSelection t br).ports = br.ports := hframe.ports_eq
  have htrees : (prssmToRoleSelection t br).trees = br.trees := hframe.trees_eq
  have henabled := hframe.port_eq Port.portEnabled fun _ => rfl
  have hdisabled : ∀ q ∈ br.ports, (br.ptp q t).infoIs = .disabled →
      newRole br t q = (.disabled, (br.ptp q t).updtInfo) := by
    intro q hq hdown
    rw [newRole_eq_roleFrom br t hq, roleFrom]
    simp only [hdown]
  refine ⟨fun q hq u hu => ?_, fun q hq u hu => ?_, fun q hq u hu => ?_⟩
  all_goals
    rw [hports] at hq
    rw [htrees] at hu
    by_cases ht : u = t
  · subst ht
    rw [roleSelection_self u hq]
    intro _ h
    cases h
  · have hother := roleSelection_other t br q ht
    have hsel : ((prssmToRoleSelection t br).ptp q u).selected = (br.ptp q u).selected :=
      roleSelection_other_eq PerTreePort.selected (fun _ => rfl) ht br q
    rw [hsel]
    exact fun hE h => hother.2 (hi.asks q hq u hu hE h)
  · subst ht
    rw [roleSelection_self u hq]
    intro _ hdown _
    simp only [hdisabled q hq hdown]
  · have hother := roleSelection_other t br q ht
    have hinfo' : ((prssmToRoleSelection t br).ptp q u).infoIs = (br.ptp q u).infoIs :=
      roleSelection_other_eq PerTreePort.infoIs (fun _ => rfl) ht br q
    have hrole : ((prssmToRoleSelection t br).ptp q u).selectedRole = (br.ptp q u).selectedRole :=
      roleSelection_other_eq PerTreePort.selectedRole (fun _ => rfl) ht br q
    rw [hinfo', hrole]
    intro hE hdown hno
    refine hi.drops q hq u hu hE hdown ?_
    by_contra hre
    rw [hother.2 (by simpa using hre)] at hno
    cases hno
  · subst ht
    rw [henabled, roleSelection_self u hq]
    intro hdown
    simp only [hdisabled q hq (hinfo q hq u hu hdown)]
    exact hi.idle q hq u hu hdown
  · have hother := roleSelection_other t br q ht
    have hupdt : ((prssmToRoleSelection t br).ptp q u).updtInfo = (br.ptp q u).updtInfo :=
      roleSelection_other_eq PerTreePort.updtInfo (fun _ => rfl) ht br q
    rw [henabled, hupdt]
    exact hi.idle q hq u hu

theorem NoStaleInfo.roleSelection {br : Bridge} (hi : NoStaleInfo br) (t : Mstid) :
    NoStaleInfo (prssmToRoleSelection t br) := by
  have hframe := prssmToRoleSelection_frame t br
  have hports : (prssmToRoleSelection t br).ports = br.ports := hframe.ports_eq
  have htrees : (prssmToRoleSelection t br).trees = br.trees := hframe.trees_eq
  intro q hq s hs
  rw [hframe.port_eq Port.portEnabled (fun _ => rfl) q,
    hframe.ptp_eq PerTreePort.infoIs (fun _ => rfl) q s]
  exact hi q (hports ▸ hq) s (htrees ▸ hs)

/-! ## Passes -/

theorem Handover.pass {fuel : Nat} {br br' : Bridge} (hi : Handover settled br)
    (h : brStateMachinesPass fuel br = some br') : Handover settled br' := by
  obtain ⟨b₁, b₂, b₃, b₄, b₅, b₆, b₇, b₈, b₉, h₁, h₂, h₃, h₄, h₅, h₆, h₇, h₈, h₉, h₁₀⟩ :=
    pass_cases h
  have i₁ : OnLists br.ports br.trees (Handover settled) b₁ :=
    assuranceStage_inv (fun p _ b hb =>
      hb.frame (assuranceRun_frame p b) (hb.1.frame (assuranceRun_frame p b).mono))
    ⟨hi, rfl, rfl⟩ h₁
  have i₂ : OnLists br.ports br.trees (Handover settled) b₂ :=
    prsmStage_inv (fun p _ b s hb _ =>
      hb.frame (prsmTo_frame p s b) (hb.1.frame (prsmTo_frame p s b).mono)) i₁ h₂
  have i₃ : OnLists br.ports br.trees (Handover settled) b₃ :=
    ppmsmStage_inv (fun p _ b s hb _ =>
      hb.frame (ppmsmTo_frame p s b) (hb.1.frame (ppmsmTo_frame p s b).mono)) i₂ h₃
  have i₄ : OnLists br.ports br.trees (Handover settled) b₄ :=
    bdsmStage_inv (fun p _ b s hb _ =>
      hb.frame (bdsmTo_frame p s b) (hb.1.frame (bdsmTo_frame p s b).mono)) i₃ h₄
  have i₅ : OnLists br.ports br.trees (Handover settled) b₅ :=
    ptsmStage_inv (fun p _ b s hb _ =>
      hb.frame (ptsmTo_frame p s b) (hb.1.frame (ptsmTo_frame p s b).mono)) i₄ h₅
  have i₆ : OnLists br.ports br.trees (Handover settled) b₆ :=
    pismStage_inv (fun o _ b s hb _ =>
      hb.frame (pismTo_frame o.1 o.2 s b) (hb.1.pismTo o.1 o.2 s)) i₅ h₆
  have n₆ : OnLists br.ports br.trees (fun b => Handover settled b ∧ NoStaleInfo b) b₆ := by
    refine ⟨⟨i₆.1, fun q hq s hs => ?_⟩, i₆.2⟩
    have href : (q, s) ∈ br.ptpRefs := mem_ptpRefs.mpr ⟨i₆.2.1 ▸ hq, i₆.2.2 ▸ hs⟩
    exact pismStage_noStaleInfo h₆ (q, s) href
  have i₇ : OnLists br.ports br.trees (fun b => Handover settled b ∧ NoStaleInfo b) b₇ :=
    prssmStage_inv (fun t _ b hb _ => hb.frame (prssmToRoleSelection_frame t b)
      ⟨hb.1.1.roleSelection hb.1.2 t, hb.1.2.roleSelection t⟩) n₆ h₇
  have i₈ : Handover settled b₈ :=
    prtsmStage_inv (fun o _ b s hb _ => hb.frame (prtsmTo_frame _ o.1 o.2 s b).mono) i₇.1.1 h₈
  have i₉ : Handover settled b₉ :=
    pstsmStage_inv (fun o _ b s hb _ => hb.frame (pstsmTo_frame o.1 o.2 s b).mono) i₈ h₉
  exact tcsmStage_inv (fun o _ b s hb _ => hb.frame (tcsmTo_frame o.1 o.2 s b).mono) i₉ h₁₀

/-! ## Quiescence -/

/-- What a quiescent state has settled for a per-tree port. -/
structure Settled (br : Bridge) (p : PortRef) (t : Mstid) : Prop where
  selected : (br.ptp p t).selected = true
  reselect : (br.ptp p t).reselect = false
  updtInfo : (br.ptp p t).updtInfo = false
  role : (br.ptp p t).role = (br.ptp p t).selectedRole
  noLink : (br.port p).portEnabled = false →
    (br.ptp p t).infoIs = .disabled ∧ (br.ptp p t).role = .disabled

theorem prssmDry_reselect {br : Bridge} {t : Mstid} (h : prssmDry br t = false) {q : PortRef}
    (hq : q ∈ br.ports) : (br.ptp q t).reselect = false := by
  rw [prssmDry] at h
  split at h
  · cases h
  · simpa using (List.any_eq_false.mp h) q hq

/-- With a selected role, port information rests only where nothing is to be updated. -/
theorem pismNext_none_updtInfo {br : Bridge} {p : PortRef} {t : Mstid}
    (hsel : (br.ptp p t).selected = true)
    (hidle : (br.port p).portEnabled = false → (br.ptp p t).updtInfo = false)
    (h : pismNext br p t = none) : (br.ptp p t).updtInfo = false := by
  by_contra hne
  have hupdt : (br.ptp p t).updtInfo = true := by simpa using hne
  have hup : (br.port p).portEnabled = true := by
    by_contra hdown
    exact hne (hidle (by simpa using hdown))
  have hxst : updtXstInfo br p t = true := by
    rw [updtXstInfo]
    split <;> simp [hupdt]
  simp only [pismNext, hup, hsel, hupdt, hxst] at h
  cases hstate : (br.ptp p t).pismState <;> simp [hstate] at h
  split at h <;> cases h

theorem Handover.settled {br : Bridge} (hi : Handover settled br) (hq : Quiet br) {p : PortRef}
    (hp : p ∈ br.ports) {t : Mstid} (ht : t ∈ br.trees) : Settled br p t := by
  have hreselect := prssmDry_reselect (hq.prssm t ht) hp
  have hselected : (br.ptp p t).selected = true := by
    by_contra hne
    rw [hi.asks p hp t ht id (by simpa using hne)] at hreselect
    cases hreselect
  have hupdt := pismNext_none_updtInfo hselected (hi.idle p hp t ht) (hq.pism p hp t ht)
  have hrole : (br.ptp p t).role = (br.ptp p t).selectedRole := by
    by_contra hne
    have hnext := hq.prtsm p hp t ht
    rw [prtsmNext, if_pos (by simp [hselected, hupdt, hne])] at hnext
    cases hnext
  refine ⟨hselected, hreselect, hupdt, hrole, fun hdown => ?_⟩
  have hinfo := pismNext_none_disabled (hq.pism p hp t ht) hdown
  exact ⟨hinfo, hrole.trans (hi.drops p hp t ht id hinfo hreselect)⟩

/-! ## Between operations -/

/-- No port has information to update. -/
def NoUpdate (br : Bridge) : Prop :=
  ∀ q ∈ br.ports, ∀ s ∈ br.trees, (br.ptp q s).updtInfo = false

/-- The invariant of operations that run the machines until they are quiet. -/
structure Between (br : Bridge) : Prop where
  noUpdate : NoUpdate br
  handover : br.bridgeEnabled = true → Handover settled br
  info : br.bridgeEnabled = true → NoStaleInfo br

theorem Between.run {late : Nat → Bool} (hlate : ∀ n, late n = false) {fuel : Nat} {b br' : Bridge}
    (hupdt : b.bridgeEnabled = false → NoUpdate b)
    (hi : b.bridgeEnabled = true → Handover Mstpd.settled b)
    (h : brStateMachinesRun late fuel b = some br') : Between br' := by
  rw [brStateMachinesRun] at h
  split at h
  · rename_i hen
    have hquiet := quiet_of_dry (loop_settled hlate h)
    have hrun : Handover Mstpd.settled br' :=
      loop_inv (fun _ _ hb hpass => hb.pass hpass) (hi hen) h
    refine ⟨fun q hq s hs => ?_, fun _ => hrun, fun _ q hq s hs hdown => ?_⟩
    · exact (hrun.settled hquiet hq hs).updtInfo
    · exact ((hrun.settled hquiet hq hs).noLink hdown).1
  · rename_i hen
    obtain rfl := Option.some.inj h
    exact ⟨hupdt (by simpa using hen), fun h => absurd h hen, fun h => absurd h hen⟩

/-- Everything but `updtInfo`, the lists and the switch of the bridge. -/
def apartFromUpdate : Owned where
  config b := { ports := b.ports, trees := b.trees, bridgeEnabled := b.bridgeEnabled }
  ptp x := { updtInfo := x.updtInfo }
  port _ := {}
  tree _ := {}
  out _ := true

instance : apartFromUpdate.KeepsLists := ⟨fun _ => rfl, fun _ => rfl⟩

instance : apartFromHandover.Within apartFromUpdate :=
  ⟨fun _ => rfl, fun _ => rfl, fun _ => rfl, fun _ => rfl, fun _ _ => rfl⟩

instance : apartFromUpdate.KeepsEnabled := ⟨fun _ => rfl⟩

instance : pstsmOwned.Within apartFromUpdate :=
  ⟨fun _ => rfl, fun _ => rfl, fun _ => rfl, fun _ => rfl, fun _ _ => rfl⟩

instance : managementOwned.Within apartFromUpdate :=
  ⟨fun _ => rfl, fun _ => rfl, fun _ => rfl, fun _ => rfl, fun _ _ => rfl⟩

instance : linkOwned.Within apartFromUpdate :=
  ⟨fun _ => rfl, fun _ => rfl, fun _ => rfl, fun _ => rfl, fun _ _ => rfl⟩

instance : initTreeOwned.Within apartFromUpdate :=
  ⟨fun _ => rfl, fun _ => rfl, fun _ => rfl, fun _ => rfl, fun _ _ => rfl⟩

theorem NoUpdate.frame {br br' : Bridge} (hi : NoUpdate br) (h : Frame apartFromUpdate br br') :
    NoUpdate br' := by
  intro q hq s hs
  have hports : br'.ports = br.ports := h.ports_eq
  have htrees : br'.trees = br.trees := h.trees_eq
  rw [h.ptp_eq PerTreePort.updtInfo (fun _ => rfl) q s]
  exact hi q (hports ▸ hq) s (htrees ▸ hs)

theorem Between.frame {br br' : Bridge} (hi : Between br) (h : Frame apartFromHandover br br') :
    Between br' where
  noUpdate := hi.noUpdate.frame h.mono
  handover hen := (hi.handover (h.enabled_eq ▸ hen)).frame h
  info hen := (hi.info (h.enabled_eq ▸ hen)).frame h

/-- All fields of the ports besides those apart from the handover. -/
def apartFromLinks : Owned := { apartFromHandover with port := fun _ => {} }

instance : apartFromLinks.KeepsLists := ⟨fun _ => rfl, fun _ => rfl⟩

instance : apartFromLinks.KeepsEnabled := ⟨fun _ => rfl⟩

instance : apartFromLinks.Within apartFromUpdate :=
  ⟨fun _ => rfl, fun _ => rfl, fun _ => rfl, fun _ => rfl, fun _ _ => rfl⟩

instance : linkOwned.Within apartFromLinks :=
  ⟨fun _ => rfl, fun _ => rfl, fun _ => rfl, fun _ => rfl, fun _ _ => rfl⟩

/-- With nothing to update, the invariant does not depend on the links. -/
theorem Handover.relink {E : PortRef → Mstid → Prop} {br br' : Bridge} (hi : Handover E br)
    (hupdt : NoUpdate br) (h : Frame apartFromLinks br br') : Handover E br' := by
  have hports : br'.ports = br.ports := h.ports_eq
  have htrees : br'.trees = br.trees := h.trees_eq
  have hfields := h.ptp_eq handoverFields fun _ => rfl
  simp only [handoverFields, Prod.mk.injEq] at hfields
  refine ⟨fun q hq s hs => ?_, fun q hq s hs => ?_, fun q hq s hs _ => ?_⟩
  all_goals
    obtain ⟨hsel, hre, hinfo, hrole, hup⟩ := hfields q s
    rw [hports] at hq
    rw [htrees] at hs
  · rw [hsel, hre]
    exact hi.asks q hq s hs
  · rw [hinfo, hre, hrole]
    exact hi.drops q hq s hs
  · rw [hup]
    exact hupdt q hq s hs

/-! ## BEGIN -/

/-- With the start time that BEGIN notes, but without `updtInfo`. -/
def beginInformationOwned : Owned :=
  { informationOwned with ptp := fun x => informationOwned.ptp { x with startTime := 0 } }

instance : beginInformationOwned.KeepsLists := ⟨fun _ => rfl, fun _ => rfl⟩

instance : beginInformationOwned.KeepsEnabled := ⟨fun _ => rfl⟩

instance : beginInformationOwned.Within apartFromUpdate :=
  ⟨fun _ => rfl, fun _ => rfl, fun _ => rfl, fun _ => rfl, fun _ _ => rfl⟩

theorem pismBegin_information (p : PortRef) (t : Mstid) (br : Bridge) :
    Frame beginInformationOwned br (pismBegin p t br) := by
  rw [pismBegin, pismToDisabled]
  exact Frame.after (Frame.setPtp fun _ => rfl) (Frame.setPtp fun _ => rfl)

theorem Handover.pismBegin {E : PortRef → Mstid → Prop} {br : Bridge} (hi : Handover E br)
    (p : PortRef) (t : Mstid) :
    Handover (fun q s => E q s ∧ ¬ (q = p ∧ s = t)) (pismBegin p t br) := by
  have hstart : Handover E (br.setPtp p t fun ptp => { ptp with startTime := br.uptime }) :=
    hi.frame (Frame.setPtp fun _ => rfl)
  have hdisabled : Handover E (Mstpd.pismBegin p t br) := hstart.pismTo p t .disabled
  have hre : ((Mstpd.pismBegin p t br).ptp p t).reselect = true := by
    simp [Mstpd.pismBegin, pismToDisabled]
  refine ⟨fun q hq s hs hE => ?_, fun q hq s hs hE => ?_, hdisabled.idle⟩
  all_goals by_cases h : q = p ∧ s = t
  · rw [h.1, h.2]
    exact fun _ => hre
  · exact hdisabled.asks q hq s hs fun hq => hE ⟨hq, h⟩
  · rw [h.1, h.2, hre]
    intro _ hno
    cases hno
  · exact hdisabled.drops q hq s hs fun hq => hE ⟨hq, h⟩

theorem Handover.weaken {E E' : PortRef → Mstid → Prop} {br : Bridge} (hi : Handover E br)
    (h : ∀ q ∈ br.ports, ∀ s ∈ br.trees, E q s → E' q s) : Handover E' br where
  asks q hq s hs hE := hi.asks q hq s hs fun hEq => hE (h q hq s hs hEq)
  drops q hq s hs hE := hi.drops q hq s hs fun hEq => hE (h q hq s hs hEq)
  idle := hi.idle

theorem Handover.pismBegins {br : Bridge} (refs : List (PortRef × Mstid))
    (hi : Handover (fun q s => (q, s) ∈ refs) br) :
    Handover Mstpd.settled (forAll (fun o => Mstpd.pismBegin o.1 o.2) refs br) := by
  have hgeneral : ∀ (l : List (PortRef × Mstid)) (E : PortRef → Mstid → Prop) (b : Bridge),
      Handover E b → Handover (fun q s => E q s ∧ (q, s) ∉ l)
        (forAll (fun o => Mstpd.pismBegin o.1 o.2) l b) := by
    intro l
    induction l with
    | nil => exact fun E b hb => hb.weaken fun _ _ _ _ hE => ⟨hE, List.not_mem_nil⟩
    | cons o l ih =>
      intro E b hb
      refine (ih _ _ (hb.pismBegin o.1 o.2)).weaken fun q _ s _ hE => ⟨hE.1.1, ?_⟩
      rw [List.mem_cons, not_or]
      refine ⟨fun heq => hE.1.2 ?_, hE.2⟩
      exact ⟨congrArg Prod.fst heq, congrArg Prod.snd heq⟩
  exact (hgeneral refs _ br hi).weaken fun q _ s _ hE => hE.2 hE.1

theorem Handover.initTree {E : PortRef → Mstid → Prop} {br : Bridge} (hi : Handover E br)
    (t : Mstid) : Handover E (prssmToInitTree t br) := by
  have hptp : ∀ q s, ∃ r, (prssmToInitTree t br).ptp q s = { br.ptp q s with selectedRole := r } ∧
      (r = .disabled ∨ r = (br.ptp q s).selectedRole) := by
    intro q s
    simp only [prssmToInitTree, updtRolesDisabledTree, setTreePtps, setTree]
    split
    · exact ⟨.disabled, rfl, Or.inl rfl⟩
    · exact ⟨_, rfl, Or.inr rfl⟩
  refine ⟨fun q hq s hs => ?_, fun q hq s hs => ?_, fun q hq s hs => ?_⟩
  all_goals
    obtain ⟨r, heq, hr⟩ := hptp q s
    rw [heq]
  · exact hi.asks q hq s hs
  · intro hE hinfo hre
    rcases hr with rfl | rfl
    · rfl
    · exact hi.drops q hq s hs hE hinfo hre
  · exact hi.idle q hq s hs

theorem ptpMachinesBegin_frame (refs : List (PortRef × Mstid)) (br : Bridge) :
    Frame apartFromHandover br (ptpMachinesBegin refs br) := by
  rw [ptpMachinesBegin]
  refine Frame.after (Frame.forAll (fun o b => tcsmToInactive_frame o.1 o.2 b) refs _).mono ?_
  refine Frame.after (Frame.forAll (fun o b => pstsmTo_frame o.1 o.2 _ b) refs _).mono ?_
  have hinit :=
    Frame.forAll (fun (o : PortRef × Mstid) b => prtsmToInitPort_frame o.1 o.2 b) refs br
  exact hinit.mono

theorem portMachinesBegin_frame (ports : List PortRef) (br : Bridge) :
    Frame apartFromHandover br (portMachinesBegin ports br) := by
  rw [portMachinesBegin]
  refine Frame.after (Frame.forAll ptsmToTransmitInit_frame ports _).mono ?_
  refine Frame.after (Frame.forAll (fun p b => bdsmTo_frame p _ b) ports _).mono ?_
  refine Frame.after (Frame.forAll ppmsmToCheckingRstp_frame ports _).mono ?_
  have hdiscard := Frame.forAll prsmToDiscard_frame ports br
  exact hdiscard.mono

theorem pismBegins_frame (refs : List (PortRef × Mstid)) (br : Bridge) :
    Frame apartFromUpdate br (forAll (fun o => pismBegin o.1 o.2) refs br) := by
  have hbegin := Frame.forAll
    (fun (o : PortRef × Mstid) b => pismBegin_information o.1 o.2 b) refs br
  exact hbegin.mono

theorem Between.brBegin {late : Nat → Bool} (hlate : ∀ n, late n = false) {fuel : Nat}
    {b br' : Bridge} (hupdt : NoUpdate b) (h : brStateMachinesBegin late fuel b = some br') :
    Between br' := by
  rw [brStateMachinesBegin] at h
  split at h
  · have hstart : Handover (fun q s => (q, s) ∈ b.ptpRefs) b :=
      ⟨fun q hq s hs hE => absurd (mem_ptpRefs.mpr ⟨hq, hs⟩) hE,
        fun q hq s hs hE => absurd (mem_ptpRefs.mpr ⟨hq, hs⟩) hE,
        fun q hq s hs _ => hupdt q hq s hs⟩
    have hports := portMachinesBegin_frame b.ports b
    have hasked := (hstart.frame hports).pismBegins
    have hinit : Handover Mstpd.settled (forAll prssmToInitTree b.trees _) :=
      forAll_inv (fun t _ c hc => hc.initTree t) hasked
    have hkeep := (hupdt.frame hports.mono).frame (pismBegins_frame b.ptpRefs _)
    have hkeep' := hkeep.frame (Frame.forAll prssmToInitTree_frame b.trees _).mono
    have hlast := ptpMachinesBegin_frame b.ptpRefs (forAll prssmToInitTree b.trees
      (forAll (fun o => Mstpd.pismBegin o.1 o.2) b.ptpRefs (portMachinesBegin b.ports b)))
    exact Between.run hlate (fun _ => hkeep'.frame hlast.mono) (fun _ => hinit.frame hlast) h
  · rename_i hen
    obtain rfl := Option.some.inj h
    exact ⟨hupdt, fun h => absurd h hen, fun h => absurd h hen⟩

theorem Between.treeBegin {late : Nat → Bool} (hlate : ∀ n, late n = false) {fuel : Nat} {t : Mstid}
    {b br' : Bridge} (hupdt : NoUpdate b)
    (hi : b.bridgeEnabled = true → Handover (fun _ s => s = t) b)
    (h : treeStateMachinesBegin late fuel t b = some br') : Between br' := by
  rw [treeStateMachinesBegin] at h
  split at h
  · rename_i hen
    have hstart : Handover (fun q s => (q, s) ∈ b.ports.map fun p => (p, t)) b := by
      refine (hi hen).weaken fun q hq s _ hs => ?_
      rw [hs]
      exact List.mem_map_of_mem hq
    have hinit := hstart.pismBegins.initTree t
    have hkeep := hupdt.frame (pismBegins_frame (b.ports.map fun p => (p, t)) b)
    have hkeep' := hkeep.frame (prssmToInitTree_frame t _).mono
    have hlast := ptpMachinesBegin_frame (b.ports.map fun p => (p, t)) (prssmToInitTree t
      (forAll (fun o => Mstpd.pismBegin o.1 o.2) (b.ports.map fun p => (p, t)) b))
    exact Between.run hlate (fun _ => hkeep'.frame hlast.mono) (fun _ => hinit.frame hlast) h
  · rename_i hen
    obtain rfl := Option.some.inj h
    exact ⟨hupdt, fun h => absurd h hen, fun h => absurd h hen⟩

/-- Role selection in the BEGIN of one port, before its machines have run. -/
theorem Handover.prssmRuns {br : Bridge} (hi : Handover Mstpd.settled br) (hinfo : NoStaleInfo br)
    (trees : List Mstid) : Handover Mstpd.settled (forAll prssmRun trees br) := by
  have hboth : Handover Mstpd.settled (forAll prssmRun trees br) ∧
      NoStaleInfo (forAll prssmRun trees br) := by
    refine forAll_inv (I := fun b => Handover Mstpd.settled b ∧ NoStaleInfo b)
      (fun t _ b hb => ?_) ⟨hi, hinfo⟩
    rw [prssmRun]
    split
    · exact ⟨hb.1.roleSelection hb.2 t, hb.2.roleSelection t⟩
    · exact hb
  exact hboth.1

theorem NoStaleInfo.pismBegins {br : Bridge} {p : PortRef}
    (hi : ∀ q ∈ br.ports, ∀ s ∈ br.trees, q ≠ p → (br.port q).portEnabled = false →
      (br.ptp q s).infoIs = .disabled) :
    NoStaleInfo (forAll (fun o => Mstpd.pismBegin o.1 o.2) (br.trees.map fun t => (p, t)) br) := by
  have hinfo : ∀ (l : List Mstid) (b : Bridge) (q : PortRef) (s : Mstid),
      ((forAll (fun o => Mstpd.pismBegin o.1 o.2) (l.map fun t => (p, t)) b).ptp q s).infoIs =
        if q = p ∧ s ∈ l then .disabled else (b.ptp q s).infoIs := by
    intro l
    induction l with
    | nil => simp [forAll]
    | cons t l ih =>
      intro b q s
      have hstep : ((Mstpd.pismBegin p t b).ptp q s).infoIs =
          if q = p ∧ s = t then .disabled else (b.ptp q s).infoIs := by
        simp only [Mstpd.pismBegin, pismToDisabled, setPtp]
        split <;> rfl
      have hcons := ih (Mstpd.pismBegin p t b) q s
      rw [hstep] at hcons
      simp only [forAll, List.map_cons, List.foldl_cons] at hcons ⊢
      rw [hcons]
      by_cases hq : q = p
      · by_cases hs : s = t
        · simp [hq, hs]
        · simp [hq, hs]
      · simp [hq]
  have hframe := pismBegins_frame (br.trees.map fun t => (p, t)) br
  have hports :
      (forAll (fun o => Mstpd.pismBegin o.1 o.2) (br.trees.map fun t => (p, t)) br).ports =
    br.ports := hframe.ports_eq
  have htrees :
      (forAll (fun o => Mstpd.pismBegin o.1 o.2) (br.trees.map fun t => (p, t)) br).trees =
    br.trees := hframe.trees_eq
  have henabled : ∀ q, ((forAll (fun o => Mstpd.pismBegin o.1 o.2)
      (br.trees.map fun t => (p, t)) br).port q).portEnabled = (br.port q).portEnabled := fun q =>
    (Frame.forAll (fun (o : PortRef × Mstid) b => pismBegin_information o.1 o.2 b) _ br).port_eq
      Port.portEnabled (fun _ => rfl) q
  intro q hq s hs hdown
  rw [hports] at hq
  rw [htrees] at hs
  rw [hinfo br.trees br q s]
  by_cases hqp : q = p
  · rw [if_pos ⟨hqp, hs⟩]
  · rw [if_neg (fun h => hqp h.1)]
    exact hi q hq s hs hqp (henabled q ▸ hdown)

theorem Between.prtBegin {late : Nat → Bool} (hlate : ∀ n, late n = false) {fuel : Nat}
    {p : PortRef} {b br' : Bridge} (hupdt : NoUpdate b)
    (hi : b.bridgeEnabled = true → Handover (fun q _ => q = p) b)
    (hinfo : b.bridgeEnabled = true → ∀ q ∈ b.ports, ∀ s ∈ b.trees, q ≠ p →
      (b.port q).portEnabled = false → (b.ptp q s).infoIs = .disabled)
    (h : prtStateMachinesBegin late fuel p b = some br') : Between br' := by
  rw [prtStateMachinesBegin] at h
  split at h
  · rename_i hen
    have hstart : Handover (fun q s => (q, s) ∈ b.trees.map fun t => (p, t)) b := by
      refine (hi hen).weaken fun q _ s hs hq => ?_
      rw [hq]
      exact List.mem_map_of_mem hs
    have hports := portMachinesBegin_frame [p] b
    have hasked := (hstart.frame hports).pismBegins
    have hfresh : NoStaleInfo (forAll (fun o => Mstpd.pismBegin o.1 o.2)
        (b.trees.map fun t => (p, t)) (portMachinesBegin [p] b)) := by
      have htrees : (portMachinesBegin [p] b).trees = b.trees := hports.trees_eq
      rw [← htrees]
      refine NoStaleInfo.pismBegins fun q hq s hs hne hdown => ?_
      have hq' : q ∈ b.ports := hports.ports_eq ▸ hq
      rw [hports.ptp_eq PerTreePort.infoIs (fun _ => rfl) q s]
      rw [hports.port_eq Port.portEnabled (fun _ => rfl) q] at hdown
      exact hinfo hen q hq' s (htrees ▸ hs) hne hdown
    have hselect := hasked.prssmRuns hfresh b.trees
    have hlast := ptpMachinesBegin_frame (b.trees.map fun t => (p, t)) (forAll prssmRun b.trees
      (forAll (fun o => Mstpd.pismBegin o.1 o.2) (b.trees.map fun t => (p, t))
        (portMachinesBegin [p] b)))
    refine Between.run hlate (fun hoff => ?_) (fun _ => hselect.frame hlast) h
    rw [hlast.enabled_eq, (Frame.forAll prssmRun_frame b.trees _).enabled_eq,
      (pismBegins_frame _ _).enabled_eq, hports.enabled_eq, hen] at hoff
    cases hoff
  · rename_i hen
    obtain rfl := Option.some.inj h
    exact ⟨hupdt, fun h => absurd h hen, fun h => absurd h hen⟩

/-! ## Operations -/

/-- Management keeps all fields but the requests it makes. -/
theorem Handover.management {E : PortRef → Mstid → Prop} {br b : Bridge} (hi : Handover E br)
    (h : OpFrame br b) : Handover E b := by
  have hports : b.ports = br.ports := h.frame.ports_eq
  have htrees : b.trees = br.trees := h.frame.trees_eq
  have hfields := h.frame.ptp_eq (fun x => (x.infoIs, x.selectedRole, x.updtInfo)) fun _ => rfl
  simp only [Prod.mk.injEq] at hfields
  refine ⟨fun q hq s hs hE => ?_, fun q hq s hs hE => ?_, fun q hq s hs => ?_⟩
  all_goals
    obtain ⟨hinfo, hrole, hupdt⟩ := hfields q s
    rw [hports] at hq
    rw [htrees] at hs
  · rcases h.requests q s with ⟨hsel, hre⟩ | hre
    · rw [hsel, hre]
      exact hi.asks q hq s hs hE
    · exact fun _ => hre
  · rcases h.requests q s with ⟨-, hre⟩ | hre
    · rw [hinfo, hre, hrole]
      exact hi.drops q hq s hs hE
    · intro _ hno
      rw [hre] at hno
      cases hno
  · rw [hupdt, h.frame.port_eq Port.portEnabled (fun _ => rfl) q]
    exact hi.idle q hq s hs

theorem Between.management {br b : Bridge} (hi : Between br) (h : OpFrame br b) : Between b where
  noUpdate := hi.noUpdate.frame h.frame.mono
  handover hen := (hi.handover (h.frame.enabled_eq ▸ hen)).management h
  info hen q hq s hs := by
    have hports : b.ports = br.ports := h.frame.ports_eq
    have htrees : b.trees = br.trees := h.frame.trees_eq
    rw [h.frame.port_eq Port.portEnabled (fun _ => rfl) q,
      h.frame.ptp_eq PerTreePort.infoIs (fun _ => rfl) q s]
    exact hi.info (h.frame.enabled_eq ▸ hen) q (hports ▸ hq) s (htrees ▸ hs)

theorem Between.rerun {late : Nat → Bool} (hlate : ∀ n, late n = false) {fuel : Nat}
    {b br' : Bridge} (hi : Between b) (h : brStateMachinesRun late fuel b = some br') :
    Between br' := Between.run hlate (fun _ => hi.noUpdate) hi.handover h

/-- A run after links have changed. -/
theorem Between.relink {late : Nat → Bool} (hlate : ∀ n, late n = false) {fuel : Nat}
    {br b br' : Bridge} (hi : Between br)
    (hb : Frame apartFromLinks br b)
    (h : brStateMachinesRun late fuel b = some br') : Between br' := by
  refine Between.run hlate (fun _ => hi.noUpdate.frame hb.mono) (fun hen => ?_) h
  exact (hi.handover (hb.enabled_eq ▸ hen)).relink hi.noUpdate hb

theorem Between.ending {env : Env} (hlate : ∀ n, env.late n = false) {b br' : Bridge}
    (hi : Between b) (h : Ending env b br') : Between br' := by
  cases h with
  | stay h => exact h ▸ hi
  | run h => exact hi.rerun hlate h
  | restart h => exact Between.brBegin hlate hi.noUpdate h

/-- Shorter lists. -/
theorem Between.shrink {br br' : Bridge} (hi : Between br) (hptp : br'.ptp = br.ptp)
    (hport : br'.port = br.port) (hen : br'.bridgeEnabled = br.bridgeEnabled)
    (hports : ∀ q ∈ br'.ports, q ∈ br.ports) (htrees : ∀ s ∈ br'.trees, s ∈ br.trees) :
    Between br' where
  noUpdate q hq s hs := by
    rw [hptp]
    exact hi.noUpdate q (hports q hq) s (htrees s hs)
  handover h := by
    have hi' := hi.handover (hen ▸ h)
    refine ⟨fun q hq s hs => ?_, fun q hq s hs => ?_, fun q hq s hs => ?_⟩
    · rw [hptp]
      exact hi'.asks q (hports q hq) s (htrees s hs)
    · rw [hptp]
      exact hi'.drops q (hports q hq) s (htrees s hs)
    · rw [hptp, hport]
      exact hi'.idle q (hports q hq) s (htrees s hs)
  info h q hq s hs := by
    rw [hptp, hport]
    exact hi.info (hen ▸ h) q (hports q hq) s (htrees s hs)

theorem Between.createPort {env : Env} (hlate : ∀ n, env.late n = false) {p : PortRef}
    {portno : UInt16} {name : String} {speed duplex : Int} {br br' : Bridge} (hi : Between br)
    (h : prtStateMachinesBegin env.late env.fuel p (addPort p portno name speed duplex br)
      = some br') : Between br' := by
  have hmem : ∀ q ∈ (addPort p portno name speed duplex br).ports, q ≠ p → q ∈ br.ports := by
    intro q hq hne
    rcases List.mem_append.mp hq with hmem | hnew
    · exact hmem
    · exact absurd (List.mem_singleton.mp hnew) hne
  have hold : ∀ q s, q ≠ p → (addPort p portno name speed duplex br).ptp q s = br.ptp q s ∧
      (addPort p portno name speed duplex br).port q = br.port q := by
    intro q s hne
    simp [addPort, setPortPtps, setPort, hne]
  have hupdt : NoUpdate (addPort p portno name speed duplex br) := by
    intro q hq s hs
    by_cases hne : q = p
    · subst hne
      have hs' : s ∈ br.trees := hs
      simp [addPort, setPortPtps, setPort, hs', createPtp, ptpDefaultInternalVars]
    · rw [(hold q s hne).1]
      exact hi.noUpdate q (hmem q hq hne) s hs
  refine Between.prtBegin hlate hupdt (fun hen => ?_) (fun hen q hq s hs hne => ?_) h
  · have hi' := hi.handover hen
    refine ⟨fun q hq s hs hne => ?_, fun q hq s hs hne => ?_, fun q hq s hs _ => hupdt q hq s hs⟩
    · rw [(hold q s hne).1]
      exact hi'.asks q (hmem q hq hne) s hs id
    · rw [(hold q s hne).1]
      exact hi'.drops q (hmem q hq hne) s hs id
  · rw [(hold q s hne).1, (hold q s hne).2]
    exact hi.info hen q (hmem q hq hne) s hs

theorem Between.createMsti {env : Env} (hlate : ∀ n, env.late n = false) {mstid : UInt16}
    {trees : List Mstid} {br br' : Bridge} (hi : Between br)
    (htrees : ∀ s ∈ trees, s = mstid ∨ s ∈ br.trees)
    (h : treeStateMachinesBegin env.late env.fuel mstid (addTree mstid trees br) = some br') :
    Between br' := by
  have hold : ∀ q s, s ≠ mstid → (addTree mstid trees br).ptp q s = br.ptp q s := by
    intro q s hne
    simp [addTree, setTreePtps, setTree, hne]
  have hupdt : NoUpdate (addTree mstid trees br) := by
    intro q hq s hs
    by_cases hne : s = mstid
    · subst hne
      have hq' : q ∈ br.ports := hq
      simp [addTree, setTreePtps, setTree, hq', createPtp, ptpDefaultInternalVars]
    · rw [hold q s hne]
      exact hi.noUpdate q hq s ((htrees s hs).resolve_left hne)
  refine Between.treeBegin hlate hupdt (fun hen => ?_) h
  have hi' := hi.handover hen
  refine ⟨fun q hq s hs hne => ?_, fun q hq s hs hne => ?_, fun q hq s hs _ => hupdt q hq s hs⟩
  · rw [hold q s hne]
    exact hi'.asks q hq s ((htrees s hs).resolve_left hne) id
  · rw [hold q s hne]
    exact hi'.drops q hq s ((htrees s hs).resolve_left hne) id

theorem Between.deletePort {env : Env} (hlate : ∀ n, env.late n = false) {p : PortRef}
    {br br' : Bridge} (hi : Between br) (h : mstpInDeletePort env p br = some br') :
    Between br' := by
  obtain ⟨b, hb, hrun⟩ := deletePort_cases h
  have hmark : Frame apartFromLinks br (markDeleted p br) :=
    Frame.setPort fun _ => rfl
  have hib : Between b := by
    rcases hb with hb | ⟨hdown, rfl⟩
    · exact hi.relink hlate hmark hb
    · refine ⟨hi.noUpdate.frame hmark.mono, fun hen => ?_, fun hen q hq s hs hq' => ?_⟩
      · exact (hi.handover hen).relink hi.noUpdate hmark
      · refine hi.info hen q hq s hs ?_
        simp only [markDeleted, setPort] at hq'
        split at hq'
        · rename_i hqp
          exact hqp ▸ hdown
        · exact hq'
  have herase : Between { b with ports := b.ports.erase p } :=
    hib.shrink rfl rfl rfl (fun _ hq => List.mem_of_mem_erase hq) fun _ hs => hs
  exact herase.rerun hlate hrun

theorem NoUpdate.resetBridge {br : Bridge} (hi : NoUpdate br) (up : Bool) :
    NoUpdate (resetBridge up br) := by
  have hdefaults : ∀ p s b, NoUpdate b → NoUpdate (b.setPtp p s ptpDefaultInternalVars) := by
    intro p s b hb q hq u hu
    simp only [setPtp]
    split
    · rfl
    · exact hb q hq u hu
  have hup : NoUpdate { br with bridgeEnabled := up, uptime := 0 } := hi
  refine forAll_inv (fun p _ b hb => ?_)
    (forAll_inv (fun s _ b hb => hb.frame (Frame.setTree fun _ => rfl)) hup)
  rw [resetPort]
  refine forAll_inv (fun s _ c hc => hdefaults p s _ ?_) ?_
  · split
    · exact hc.frame (mstpOutSetState_frame p s .disabled c).mono
    · exact hc
  · refine hb.frame (Frame.after (Frame.setPort fun _ => rfl) ?_)
    exact Frame.ite (Frame.emit rfl) (Frame.refl _ _)

theorem Between.allFidsFlushed {env : Env} (hlate : ∀ n, env.late n = false) {p : PortRef}
    {t : Mstid} {br br' : Bridge} (hi : Between br)
    (h : mstpInAllFidsFlushed env p t br = some br') : Between br' := by
  have hflush : Between (br.setPtp p t fun ptp => { ptp with fdbFlush := false }) :=
    hi.frame (Frame.setPtp fun _ => rfl)
  rw [mstpInAllFidsFlushed] at h
  split at h
  · obtain ⟨b, hb, hrun⟩ := Option.bind_eq_some_iff.mp h
    refine Between.rerun hlate (run_inv ?_ hflush hb) hrun
    intro c c' more hc hstep
    obtain ⟨s, -, heq⟩ := Option.map_eq_some_iff.mp hstep
    exact (Prod.mk.inj heq).1 ▸ hc.frame (tcsmTo_frame p t s c).mono
  · exact Option.some.inj h ▸ hflush

theorem Between.step {br br' : Bridge} (hi : Between br) (h : Step untilQuiet br br') :
    Between br' := by
  obtain ⟨env, op, ok, -, hlate, hexec⟩ := h
  cases op with
  | createPort p portno name speed duplex =>
    rcases createPort_cases hexec with rfl | hbegin
    · exact hi
    · exact hi.createPort hlate hbegin
  | deletePort p => exact hi.deletePort hlate (map_true hexec)
  | setBridgeEnable up =>
    rcases setBridgeEnable_cases (map_true hexec) with rfl | ⟨-, hbegin⟩
    · exact hi
    · exact Between.brBegin hlate (hi.noUpdate.resetBridge up) hbegin
  | setPortEnable p up speed duplex =>
    obtain ⟨b, hb, ⟨rfl, hsame⟩ | hend⟩ := setPortEnable_ending (map_true hexec)
    · refine ⟨hi.noUpdate.frame hb.mono, fun hen => ?_, fun hen q hq s hs => ?_⟩
      · exact (hi.handover (hb.enabled_eq ▸ hen)).relink hi.noUpdate hb.mono
      · rw [hsame, hb.ptp_eq PerTreePort.infoIs (fun _ => rfl) q s]
        have hports : br'.ports = br.ports := hb.ports_eq
        have htrees : br'.trees = br.trees := hb.trees_eq
        exact hi.info (hb.enabled_eq ▸ hen) q (hports ▸ hq) s (htrees ▸ hs)
    · exact hi.relink hlate hb.mono hend
  | oneSecond =>
    obtain ⟨b, hb, ⟨rfl, -⟩ | hend⟩ := oneSecond_ending (map_true hexec)
    · exact hi.frame hb.mono
    · exact (hi.frame hb.mono).rerun hlate hend
  | allFidsFlushed p t => exact hi.allFidsFlushed hlate (map_true hexec)
  | rxBpdu p bpdu size =>
    rcases rxBpdu_ending (map_true hexec) with hb | ⟨b, version, mstis, hb, -, -, hend⟩
    · exact hi.frame hb.mono
    · have haccept := (hi.frame hb.mono).frame (acceptBpdu_frame p bpdu version mstis b).mono
      exact haccept.rerun hlate hend
  | createMsti mstid =>
    rcases createMsti_cases hexec with rfl | ⟨trees, -, -, htrees, hbegin⟩
    · exact hi
    · exact hi.createMsti hlate (fun s hs => (insertAfterLast_mem htrees s).mp hs) hbegin
  | deleteMsti mstid =>
    rcases deleteMsti_cases hexec with rfl | ⟨-, hend⟩
    · exact hi
    · have herase : Between { br with trees := br.trees.erase mstid } :=
        hi.shrink rfl rfl rfl (fun _ hq => hq) fun _ hs => List.mem_of_mem_erase hs
      exact herase.rerun hlate hend
  | _ =>
    obtain ⟨b, hb, hend⟩ := exec_management rfl hexec
    exact (hi.management hb).ending hlate hend

theorem between_create (env : Env) (macaddr : BitVec 48) :
    Between (mstpInBridgeCreate env macaddr) where
  noUpdate _ hq := absurd hq List.not_mem_nil
  handover h := by cases h
  info h := by cases h

/-- Quiescence means settled. -/
theorem reachable_quiescent_settled {br : Bridge} (hr : Reachable untilQuiet br)
    (hen : br.bridgeEnabled = true) (hdry : brStateMachinesDry br = false) {p : PortRef}
    (hp : p ∈ br.ports) {t : Mstid} (ht : t ∈ br.trees) :
    (br.ptp p t).selected = true ∧ (br.ptp p t).reselect = false ∧
    (br.ptp p t).updtInfo = false ∧ (br.ptp p t).role = (br.ptp p t).selectedRole ∧
    ((br.port p).portEnabled = false →
      (br.ptp p t).infoIs = .disabled ∧ (br.ptp p t).role = .disabled) := by
  have hi : Between br := hr.inv between_create fun _ _ hi h => hi.step h
  have hsettled := (hi.handover hen).settled (quiet_of_dry hdry) hp ht
  exact ⟨hsettled.selected, hsettled.reselect, hsettled.updtInfo, hsettled.role, hsettled.noLink⟩

/-- Two ports, one of them without a link. -/
def oneLinkOps : List Op :=
  [.createPort 1 1 "sw1p1" 1000 1, .createPort 2 2 "sw1p2" 1000 1, .setBridgeEnable true,
    .setPortEnable 1 true 1000 1]

theorem oneLink_quiescent_settled : ∃ br, Reachable untilQuiet br ∧ br.bridgeEnabled = true ∧
    brStateMachinesDry br = false ∧ 2 ∈ br.ports ∧ 0 ∈ br.trees ∧
    (br.port 2).portEnabled = false ∧ (br.ptp 2 0).role = .disabled := by
  have hrun : (sampleRun oneLinkOps).any (fun br => br.bridgeEnabled && !brStateMachinesDry br &&
      br.ports.contains 2 && br.trees.contains 0 && !(br.port 2).portEnabled) = true := by
    decide +kernel
  obtain ⟨br, hbr, hprop⟩ := (Option.any_eq_true _ _).mp hrun
  simp only [Bool.and_eq_true, Bool.not_eq_true', List.contains_iff_mem] at hprop
  obtain ⟨⟨⟨⟨hen, hdry⟩, hp⟩, ht⟩, hdown⟩ := hprop
  have hr : Reachable untilQuiet br := sampleRun_reachable (fun _ _ _ => rfl) hbr
  have hsettled := reachable_quiescent_settled hr hen hdry hp ht
  exact ⟨br, hr, hen, hdry, hp, ht, hdown, (hsettled.2.2.2.2 hdown).2⟩

end Mstpd
