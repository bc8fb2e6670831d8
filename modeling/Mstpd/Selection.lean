import Mstpd.Best
import Mstpd.Roles

/-!
# What role selection computes

The comparison of priority vectors is a total preorder, the loop over the ports
chooses a best root path, and `updtRolesTree` writes what its clauses say: four
fields of each port of its tree, and requests to the other trees.
-/

namespace Mstpd

open Bridge

/-! ## The order of priority vectors -/

theorem ncmp_eq_true {x y : Nat} {f : Bool} :
    ncmp x y f = true ↔ x < y ∨ x = y ∧ f = true := by
  rw [ncmp]
  split
  · simp only [Bool.false_eq_true, false_iff]
    omega
  · split
    · simp only [true_iff]
      omega
    · have hxy : x = y := by omega
      simp [hxy]

theorem ncmp_refl {x : Nat} {f : Bool} (h : f = true) : ncmp x x f = true :=
  ncmp_eq_true.mpr (Or.inr ⟨rfl, h⟩)

theorem ncmp_trans {x y z : Nat} {f g k : Bool} (h : f = true → g = true → k = true)
    (hxy : ncmp x y f = true) (hyz : ncmp y z g = true) : ncmp x z k = true := by
  rw [ncmp_eq_true] at *
  rcases hxy with hlt | ⟨rfl, hf⟩
  · rcases hyz with hlt' | ⟨rfl, -⟩
    · exact Or.inl (Nat.lt_trans hlt hlt')
    · exact Or.inl hlt
  · exact hyz.imp id fun hg => ⟨hg.1, h hf hg.2⟩

theorem ncmp_total {x y : Nat} {f g : Bool} (h : f = true ∨ g = true) :
    ncmp x y f = true ∨ ncmp y x g = true := by
  rw [ncmp_eq_true, ncmp_eq_true]
  rcases Nat.lt_trichotomy x y with hlt | rfl | hlt
  · exact Or.inl (Or.inl hlt)
  · exact h.imp (fun hf => Or.inr ⟨rfl, hf⟩) (fun hg => Or.inr ⟨rfl, hg⟩)
  · exact Or.inr (Or.inl hlt)

/-- A priority vector with the identifier of the port that holds it. -/
abbrev PortVector := PortPriorityVector × UInt16

/-- `betterorsamePriority` as a relation on such pairs. -/
def betterorsame (cist : Bool) (a b : PortVector) : Bool :=
  betterorsamePriority a.1 b.1 a.2 b.2 cist

theorem betterorsame_refl (cist : Bool) (a : PortVector) : betterorsame cist a a = true := by
  simp only [betterorsame, betterorsamePriority]
  have hlast : decide (a.2 ≤ a.2) = true := decide_eq_true (UInt16.le_refl a.2)
  split <;> repeat' first | exact hlast | apply ncmp_refl

theorem betterorsame_trans (cist : Bool) (a b c : PortVector)
    (hab : betterorsame cist a b = true) (hbc : betterorsame cist b c = true) :
    betterorsame cist a c = true := by
  simp only [betterorsame, betterorsamePriority] at *
  have hlast : decide (a.2 ≤ b.2) = true → decide (b.2 ≤ c.2) = true →
      decide (a.2 ≤ c.2) = true := by
    intro h h'
    exact decide_eq_true (UInt16.le_trans (of_decide_eq_true h) (of_decide_eq_true h'))
  have hregional := ncmp_trans (x := a.1.rRootID.u) (y := b.1.rRootID.u) (z := c.1.rRootID.u) <|
    ncmp_trans (x := a.1.intRootPathCost.toNat) (y := b.1.intRootPathCost.toNat)
      (z := c.1.intRootPathCost.toNat) <|
    ncmp_trans (x := a.1.designatedBridgeID.u) (y := b.1.designatedBridgeID.u)
      (z := c.1.designatedBridgeID.u) <|
    ncmp_trans (x := a.1.designatedPortID.toNat) (y := b.1.designatedPortID.toNat)
      (z := c.1.designatedPortID.toNat) hlast
  cases cist with
  | false =>
    simp only [Bool.false_eq_true, if_false] at hab hbc ⊢
    exact hregional hab hbc
  | true =>
    simp only [if_true] at hab hbc ⊢
    exact ncmp_trans (ncmp_trans hregional) hab hbc

theorem betterorsame_total (cist : Bool) (a b : PortVector) :
    betterorsame cist a b = true ∨ betterorsame cist b a = true := by
  simp only [betterorsame, betterorsamePriority]
  have hlast : decide (a.2 ≤ b.2) = true ∨ decide (b.2 ≤ a.2) = true := by
    simpa using UInt16.le_total a.2 b.2
  have hregional := ncmp_total (x := a.1.rRootID.u) (y := b.1.rRootID.u) <|
    ncmp_total (x := a.1.intRootPathCost.toNat) (y := b.1.intRootPathCost.toNat) <|
    ncmp_total (x := a.1.designatedBridgeID.u) (y := b.1.designatedBridgeID.u) <|
    ncmp_total (x := a.1.designatedPortID.toNat) (y := b.1.designatedPortID.toNat) hlast
  cases cist with
  | false =>
    simp only [Bool.false_eq_true, if_false]
    exact hregional
  | true =>
    simp only [if_true]
    exact ncmp_total (ncmp_total hregional)

/-! ## The choice of the root port -/

/-- The root path vector that a port offers, with its own identifier. -/
def rootPathVector (br : Bridge) (t : Mstid) (p : PortRef) : PortVector :=
  (rootPathPriority br t p, (br.ptp p t).portId)

/-- The bridge's own vector, which needs no port. -/
def ownVector (br : Bridge) (t : Mstid) : PortVector := ((br.tree t).bridgePriority, 0)

/-- `root_ptp` as the best of the offered root paths. -/
def rootPtpOf (br : Bridge) (t : Mstid) : Option PortRef :=
  Best.choose (betterorsame (t == 0)) (ownVector br t) (offersRootPath br t)
    (rootPathVector br t) none br.ports

/-- The vector of the choice. -/
def rootVectorOf (br : Bridge) (t : Mstid) : PortVector :=
  Best.value (ownVector br t) (rootPathVector br t) (rootPtpOf br t)

theorem foldl_examinePort (br : Bridge) (t : Mstid) (o : Option PortRef) (l : List PortRef) :
    let value := Best.value (ownVector br t) (rootPathVector br t)
    let choice := Best.choose (betterorsame (t == 0)) (ownVector br t) (offersRootPath br t)
      (rootPathVector br t) o l
    l.foldl (examinePort br t) ⟨(value o).1, (value o).2, o⟩ =
      ⟨(value choice).1, (value choice).2, choice⟩ := by
  induction l generalizing o with
  | nil => rfl
  | cons p l ih =>
    intro value choice
    have hstep : examinePort br t ⟨(value o).1, (value o).2, o⟩ p =
        let o' := Best.pick (betterorsame (t == 0)) (ownVector br t) (offersRootPath br t)
          (rootPathVector br t) o p
        ⟨(value o').1, (value o').2, o'⟩ := by
      by_cases h : (offersRootPath br t p &&
          betterorsame (t == 0) (rootPathVector br t p) (value o)) = true
      · have hpick : Best.pick (betterorsame (t == 0)) (ownVector br t) (offersRootPath br t)
            (rootPathVector br t) o p = some p := if_pos h
        rw [hpick]
        exact if_pos h
      · have hpick : Best.pick (betterorsame (t == 0)) (ownVector br t) (offersRootPath br t)
            (rootPathVector br t) o p = o := if_neg h
        rw [hpick]
        exact if_neg h
    rw [List.foldl_cons, hstep]
    exact ih _

theorem selectRoot_eq (br : Bridge) (t : Mstid) :
    selectRoot br t = ⟨(rootVectorOf br t).1, (rootVectorOf br t).2, rootPtpOf br t⟩ :=
  foldl_examinePort br t none br.ports

theorem rootPtpOf_some {br : Bridge} {t : Mstid} {p : PortRef} (h : rootPtpOf br t = some p) :
    p ∈ br.ports ∧ offersRootPath br t p = true := by
  rcases Best.choose_mem h with h | h
  · cases h
  · exact h

theorem rootVectorOf_le_own (br : Bridge) (t : Mstid) :
    betterorsame (t == 0) (rootVectorOf br t) (ownVector br t) = true :=
  Best.choose_le (betterorsame_refl _) (betterorsame_trans _) none br.ports

theorem rootVectorOf_le_offer {br : Bridge} {t : Mstid} {p : PortRef} (hp : p ∈ br.ports)
    (ho : offersRootPath br t p = true) :
    betterorsame (t == 0) (rootVectorOf br t) (rootPathVector br t p) = true :=
  Best.choose_le_of_mem (betterorsame_refl _) (betterorsame_trans _) (betterorsame_total _) hp ho

/-! ## The outcome of `updtRolesTree` -/

/-- The designated priority vector that clause d) gives a port. -/
def newDesignatedPriority (br : Bridge) (t : Mstid) (p : PortRef) : PortPriorityVector :=
  designatedPriorityOf br t p (rootVectorOf br t).1

/-- The designated times that clause e) gives a port. -/
def newDesignatedTimes (br : Bridge) (t : Mstid) (p : PortRef) : Times :=
  { rootTimesOf br t (rootPtpOf br t) with helloTime := (br.ptp p t).portTimes.helloTime }

/-- Selected role and `updtInfo` of a port, by clauses f) to m). -/
def newRole (br : Bridge) (t : Mstid) (p : PortRef) : Role × Bool :=
  selectRole (updtDesignated t (selectRoot br t) br) t (rootPtpOf br t) p

theorem updtDesignated_ptp_self (br : Bridge) (t : Mstid) {q : PortRef} (hq : q ∈ br.ports) :
    (updtDesignated t (selectRoot br t) br).ptp q t =
      { br.ptp q t with
        designatedPriority := newDesignatedPriority br t q
        designatedTimes := newDesignatedTimes br t q } := by
  simp only [updtDesignated, setTreePtps, setTree, selectRoot_eq, newDesignatedPriority,
    newDesignatedTimes, hq, and_self, if_true]

theorem updtDesignated_ptp_other (br : Bridge) (root : RootChoice) {t s : Mstid} {q : PortRef}
    (h : ¬ (s = t ∧ q ∈ br.ports)) : (updtDesignated t root br).ptp q s = br.ptp q s := by
  simp only [updtDesignated, setTreePtps, setTree, h, if_false]

/-- Role selection for one tree reads nothing that `syncMaster` writes. -/
theorem selectRole_syncMaster (br : Bridge) (root : Option PortRef) (p : PortRef) :
    selectRole (syncMaster br) 0 root p = selectRole br 0 root p := by
  have hptp : ∀ q, (syncMaster br).ptp q 0 = br.ptp q 0 := fun q => by simp [syncMaster]
  simp only [selectRole, cist, hptp]
  rfl

theorem updtRolesTree_tree_self (br : Bridge) (t : Mstid) :
    (updtRolesTree t br).tree t =
      { br.tree t with
        rootPriority := (rootVectorOf br t).1, rootPortId := (rootVectorOf br t).2
        rootTimes := rootTimesOf br t (rootPtpOf br t) } := by
  simp only [updtRolesTree, updtSelectedRoles]
  split <;> simp [syncMaster, updtDesignated, setTreePtps, setTree, selectRoot_eq]

theorem updtRolesTree_ptp_self (br : Bridge) (t : Mstid) {q : PortRef} (hq : q ∈ br.ports) :
    (updtRolesTree t br).ptp q t =
      { br.ptp q t with
        designatedPriority := newDesignatedPriority br t q
        designatedTimes := newDesignatedTimes br t q
        selectedRole := (newRole br t q).1, updtInfo := (newRole br t q).2 } := by
  have hptp := updtDesignated_ptp_self br t hq
  have hroot : (selectRoot br t).rootPtp = rootPtpOf br t := by rw [selectRoot_eq]
  simp only [updtRolesTree, updtSelectedRoles, hroot]
  split
  · rename_i hmoved
    have ht : t = 0 := by simpa using (Bool.and_eq_true_iff.mp (Bool.and_eq_true_iff.mp hmoved).1).1
    subst ht
    have hkeeps : (syncMaster (updtDesignated 0 (selectRoot br 0) br)).ptp q 0 =
        (updtDesignated 0 (selectRoot br 0) br).ptp q 0 := by simp [syncMaster]
    have hports : q ∈ (syncMaster (updtDesignated 0 (selectRoot br 0) br)).ports := hq
    rw [if_pos hports, if_pos trivial, selectRole_syncMaster, hkeeps, hptp]
    rfl
  · have hports : q ∈ (updtDesignated t (selectRoot br t) br).ports := hq
    rw [if_pos hports, if_pos trivial, hptp]
    rfl

/-- In the CIST the role of a port follows from its own information alone, once the
root port and the designated vector are known. -/
theorem newRole_cist (br : Bridge) {p : PortRef} (hp : p ∈ br.ports) :
    (newRole br 0 p).1 =
      match (br.ptp p 0).infoIs with
      | .disabled => .disabled
      | .aged => .designated
      | .mine => .designated
      | .received =>
        if rootPtpOf br 0 = some p then .root
        else if betterorsamePriority (br.ptp p 0).portPriority (newDesignatedPriority br 0 p)
            0 0 true then
          (if (br.ptp p 0).portPriority.designatedBridgeID != (br.tree 0).bridgeIdentifier then
            .alternate else .backup)
        else .designated := by
  have hid : ((updtDesignated 0 (selectRoot br 0) br).tree 0).bridgeIdentifier =
      (br.tree 0).bridgeIdentifier := by
    simp [updtDesignated, setTreePtps, setTree]
  simp only [newRole, selectRole, updtDesignated_ptp_self br 0 hp, hid]
  cases (br.ptp p 0).infoIs with
  | disabled => rfl
  | mine => rfl
  | aged => rfl
  | received =>
    simp only [bne_self_eq_false, Bool.false_and, Bool.false_eq_true, if_false, beq_self_eq_true]
    split
    · rfl
    · split <;> rfl

end Mstpd
