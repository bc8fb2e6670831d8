import Mstpd.Selection
import Mstpd.Frames

/-!
# Selecting roles again

What `PRSSM_to_ROLE_SELECTION` leaves in each port and tree, and what it reads. A step
that writes nothing role selection reads leaves its outcome as it was.
-/

namespace Mstpd

open Bridge

/-- Everything that role selection does not read. -/
def unreadBySelection : Owned where
  config b := { ports := b.ports }
  ptp x :=
    { infoIs := x.infoIs, portPriority := x.portPriority, portTimes := x.portTimes
      internalPortPathCost := x.internalPortPathCost, portId := x.portId, updtInfo := x.updtInfo
      selectedRole := x.selectedRole }
  port x :=
    { rcvdInternal := x.rcvdInternal, restrictedRole := x.restrictedRole
      externalPortPathCost := x.externalPortPathCost, sendRSTP := x.sendRSTP
      infoInternal := x.infoInternal }
  tree x :=
    { bridgeIdentifier := x.bridgeIdentifier, bridgePriority := x.bridgePriority
      bridgeTimes := x.bridgeTimes }
  out _ := true

/-- Clauses f) to m) on the values they read. -/
def roleFrom (isCist isRoot infoInternal : Bool) (id : BridgeIdentifier) (cist ptp : PerTreePort) :
    Role × Bool :=
  let differs := !samePriorityAndTimers ptp.portPriority ptp.designatedPriority
    ptp.portTimes ptp.designatedTimes isCist
  match ptp.infoIs with
  | .disabled => (.disabled, ptp.updtInfo)
  | origin =>
    if !isCist && cist.infoIs == .received && !infoInternal then
      (if cist.selectedRole = .root then .master else cist.selectedRole, ptp.updtInfo || differs)
    else
      match origin with
      | .disabled => (.disabled, ptp.updtInfo)
      | .aged => (.designated, true)
      | .mine => (.designated, ptp.updtInfo || differs)
      | .received =>
        if isRoot then (.root, false)
        else if betterorsamePriority ptp.portPriority ptp.designatedPriority 0 0 isCist then
          (if ptp.portPriority.designatedBridgeID != id then .alternate else .backup, false)
        else (.designated, true)

theorem selectRole_eq_roleFrom (br : Bridge) (t : Mstid) (root : Option PortRef) (p : PortRef) :
    selectRole br t root p = roleFrom (t == 0) (root == some p) (br.port p).infoInternal
      (br.tree t).bridgeIdentifier (br.cist p) (br.ptp p t) := by
  simp only [selectRole, roleFrom, beq_iff_eq]
  rfl

theorem newRole_eq_roleFrom (br : Bridge) (t : Mstid) {q : PortRef} (hq : q ∈ br.ports) :
    newRole br t q = roleFrom (t == 0) (rootPtpOf br t == some q) (br.port q).infoInternal
      (br.tree t).bridgeIdentifier (br.cist q)
      { br.ptp q t with
        designatedPriority := newDesignatedPriority br t q
        designatedTimes := newDesignatedTimes br t q } := by
  have hid : ((updtDesignated t (selectRoot br t) br).tree t).bridgeIdentifier =
      (br.tree t).bridgeIdentifier := by
    simp [updtDesignated, setTreePtps, setTree]
  rw [newRole, selectRole_eq_roleFrom, updtDesignated_ptp_self br t hq, hid]
  by_cases ht : t = 0
  · subst ht
    rfl
  · have hcist : (updtDesignated t (selectRoot br t) br).ptp q 0 = br.ptp q 0 :=
      updtDesignated_ptp_other br _ fun h => ht h.1.symm
    simp only [cist, hcist]
    rfl

section Reads

variable {br br' : Bridge} (h : Frame unreadBySelection br br')

include h

theorem rootVectorOf_eq (t : Mstid) : rootVectorOf br' t = rootVectorOf br t :=
  h.read_eq (fun b => rootVectorOf b t) fun _ => rfl

theorem rootTimes_eq (t : Mstid) :
    rootTimesOf br' t (rootPtpOf br' t) = rootTimesOf br t (rootPtpOf br t) :=
  h.read_eq (fun b => rootTimesOf b t (rootPtpOf b t)) fun _ => rfl

theorem newDesignatedPriority_eq (t : Mstid) (q : PortRef) :
    newDesignatedPriority br' t q = newDesignatedPriority br t q :=
  h.read_eq (fun b => newDesignatedPriority b t q) fun _ => rfl

theorem newDesignatedTimes_eq (t : Mstid) (q : PortRef) :
    newDesignatedTimes br' t q = newDesignatedTimes br t q :=
  h.read_eq (fun b => newDesignatedTimes b t q) fun _ => rfl

theorem newRole_eq (t : Mstid) {q : PortRef} (hq : q ∈ br.ports) :
    newRole br' t q = newRole br t q := by
  have hports : br'.ports = br.ports := h.config_eq Bridge.ports fun _ => rfl
  rw [newRole_eq_roleFrom br t hq, newRole_eq_roleFrom br' t (hports ▸ hq)]
  exact h.read_eq (fun b => roleFrom (t == 0) (rootPtpOf b t == some q) (b.port q).infoInternal
    (b.tree t).bridgeIdentifier (b.cist q)
    { b.ptp q t with
      designatedPriority := newDesignatedPriority b t q
      designatedTimes := newDesignatedTimes b t q }) fun _ => rfl

end Reads

/-! ## The outcome -/

theorem roleSelection_frame_before (t : Mstid) (br : Bridge) :
    Frame unreadBySelection br (clearReselectTree t <|
      br.setTree t fun tree => { tree with prssmState := .roleSelection }) := by
  rw [clearReselectTree]
  exact Frame.after (Frame.setTreePtps fun _ _ => rfl) (Frame.setTree fun _ => rfl)

/-- The entry of a port in the tree whose roles are selected. -/
theorem roleSelection_self (t : Mstid) {br : Bridge} {q : PortRef} (hq : q ∈ br.ports) :
    (prssmToRoleSelection t br).ptp q t =
      { br.ptp q t with
        reselect := false, selected := true
        designatedPriority := newDesignatedPriority br t q
        designatedTimes := newDesignatedTimes br t q
        selectedRole := (newRole br t q).1, updtInfo := (newRole br t q).2 } := by
  have hbefore := roleSelection_frame_before t br
  rw [prssmToRoleSelection, setSelectedTree]
  generalize hb : clearReselectTree t (br.setTree t _) = b at hbefore ⊢
  have hqb : q ∈ b.ports := hbefore.config_eq Bridge.ports (fun _ => rfl) ▸ hq
  have hptp : b.ptp q t = { br.ptp q t with reselect := false } := by
    rw [← hb, clearReselectTree]
    simp [setTreePtps, setTree, hq]
  have hmem : q ∈ (updtRolesTree t b).ports := (updtRolesTree_frame t b).ports_eq ▸ hqb
  simp only [setTreePtps, hmem, and_self, if_true, updtRolesTree_ptp_self b t hqb,
    newDesignatedPriority_eq hbefore, newDesignatedTimes_eq hbefore, newRole_eq hbefore t hq, hptp]

/-- What role selection for one tree may write in the entries of another. -/
def sharedBySelection (x : PerTreePort) : PerTreePort :=
  { x with reselect := false, agree := false, agreed := false, synced := false, sync := false }

theorem updtRolesTree_other (t : Mstid) (br : Bridge) (q : PortRef) {s : Mstid} (hs : s ≠ t) :
    sharedBySelection ((updtRolesTree t br).ptp q s) = sharedBySelection (br.ptp q s) ∧
      ((br.ptp q s).reselect = true → ((updtRolesTree t br).ptp q s).reselect = true) := by
  have hdesignated : ∀ root, (updtDesignated t root br).ptp q s = br.ptp q s := fun root =>
    updtDesignated_ptp_other br root fun h => hs h.1
  have hsync : ∀ b : Bridge, sharedBySelection ((syncMaster b).ptp q s) =
      sharedBySelection (b.ptp q s) ∧ ((syncMaster b).ptp q s).reselect = (b.ptp q s).reselect := by
    intro b
    simp only [syncMaster]
    split <;> exact ⟨rfl, rfl⟩
  have hroles : ∀ root b, sharedBySelection ((updtSelectedRoles t root b).ptp q s) =
      sharedBySelection (b.ptp q s) ∧
      ((b.ptp q s).reselect = true → ((updtSelectedRoles t root b).ptp q s).reselect = true) := by
    intro root b
    simp only [updtSelectedRoles, hs, if_false]
    split
    · split
      · refine ⟨rfl, fun h => ?_⟩
        simp [h]
      · exact ⟨rfl, id⟩
    · exact ⟨rfl, id⟩
  rw [updtRolesTree]
  split
  · have h₁ := hroles (selectRoot br t).rootPtp (syncMaster (updtDesignated t (selectRoot br t) br))
    have h₂ := hsync (updtDesignated t (selectRoot br t) br)
    rw [hdesignated] at h₂
    exact ⟨h₁.1.trans h₂.1, fun h => h₁.2 (h₂.2 ▸ h)⟩
  · have h₁ := hroles (selectRoot br t).rootPtp (updtDesignated t (selectRoot br t) br)
    rw [hdesignated] at h₁
    exact h₁

theorem roleSelection_other (t : Mstid) (br : Bridge) (q : PortRef) {s : Mstid} (hs : s ≠ t) :
    sharedBySelection ((prssmToRoleSelection t br).ptp q s) = sharedBySelection (br.ptp q s) ∧
      ((br.ptp q s).reselect = true →
        ((prssmToRoleSelection t br).ptp q s).reselect = true) := by
  have hset : ∀ (b : Bridge) f, (b.setTreePtps t f).ptp q s = b.ptp q s := fun b f => by
    simp [setTreePtps, hs]
  rw [prssmToRoleSelection, setSelectedTree, hset]
  have h := updtRolesTree_other t (clearReselectTree t <|
    br.setTree t fun tree => { tree with prssmState := .roleSelection }) q hs
  rw [clearReselectTree, hset] at h
  exact h

theorem roleSelection_other_eq {α : Type} (f : PerTreePort → α)
    (hf : ∀ x, f (sharedBySelection x) = f x) {t s : Mstid} (hs : s ≠ t) (br : Bridge)
    (q : PortRef) : f ((prssmToRoleSelection t br).ptp q s) = f (br.ptp q s) := by
  rw [← hf, (roleSelection_other t br q hs).1, hf]

theorem roleSelection_tree_self (t : Mstid) (br : Bridge) :
    (prssmToRoleSelection t br).tree t =
      { br.tree t with
        prssmState := .roleSelection, rootPriority := (rootVectorOf br t).1
        rootPortId := (rootVectorOf br t).2
        rootTimes := rootTimesOf br t (rootPtpOf br t) } := by
  have hbefore := roleSelection_frame_before t br
  rw [prssmToRoleSelection, setSelectedTree]
  generalize hb : clearReselectTree t (br.setTree t _) = b at hbefore ⊢
  have htree : b.tree t = { br.tree t with prssmState := .roleSelection } := by
    rw [← hb, clearReselectTree]
    simp [setTreePtps, setTree]
  have hself := updtRolesTree_tree_self b t
  rw [htree, rootVectorOf_eq hbefore, rootTimes_eq hbefore] at hself
  exact hself

end Mstpd
