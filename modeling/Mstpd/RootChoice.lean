import Mathlib.Data.List.Lex
import Mathlib.Data.Set.Operations
import Mathlib.Order.Bounds.Defs
import Mstpd.Events
import Mstpd.Selection

/-!
# The choice of the root port

The comparison of priority vectors is the lexicographic order of their components, so
that role selection finds the least of the bridge's own vector and the root path vectors
offered to it. With distinct port identifiers the order of the ports does not matter.
A root path is better than the information it is made from only at the upper end of the
external cost.
-/

namespace Mstpd

open Bridge

/-! ## The lexicographic order -/

/-- The components that count in a tree, the port identifier last. -/
def components (cist : Bool) (v : PortVector) : List Nat :=
  let regional :=
    [v.1.rRootID.u, v.1.intRootPathCost.toNat, v.1.designatedBridgeID.u,
      v.1.designatedPortID.toNat, v.2.toNat]
  if cist then v.1.rootID.u :: v.1.extRootPathCost.toNat :: regional else regional

theorem cons_le_cons {a b : Nat} {l l' : List Nat} : a :: l ≤ b :: l' ↔ a < b ∨ a = b ∧ l ≤ l' := by
  rw [le_iff_lt_or_eq, List.cons_lt_cons_iff, List.cons_eq_cons, le_iff_lt_or_eq]
  constructor
  · rintro ((hlt | ⟨rfl, hlt⟩) | ⟨rfl, rfl⟩)
    · exact Or.inl hlt
    · exact Or.inr ⟨rfl, Or.inl hlt⟩
    · exact Or.inr ⟨rfl, Or.inr rfl⟩
  · rintro (hlt | ⟨rfl, hlt | rfl⟩)
    · exact Or.inl (Or.inl hlt)
    · exact Or.inl (Or.inr ⟨rfl, hlt⟩)
    · exact Or.inr ⟨rfl, rfl⟩

theorem ncmp_cons {x y : Nat} {f : Bool} {l l' : List Nat} (h : f = true ↔ l ≤ l') :
    ncmp x y f = true ↔ x :: l ≤ y :: l' := by
  rw [ncmp_eq_true, cons_le_cons, h]

/-- `betterorsamePriority` compares the components in their order. -/
theorem betterorsame_iff {cist : Bool} {v w : PortVector} :
    betterorsame cist v w = true ↔ components cist v ≤ components cist w := by
  have hlast : decide (v.2 ≤ w.2) = true ↔ [v.2.toNat] ≤ [w.2.toNat] := by
    rw [decide_eq_true_iff, UInt16.le_iff_toNat_le, cons_le_cons]
    simp only [le_refl, and_true]
    omega
  have hregional := ncmp_cons (x := v.1.rRootID.u) (y := w.1.rRootID.u) <|
    ncmp_cons (x := v.1.intRootPathCost.toNat) (y := w.1.intRootPathCost.toNat) <|
    ncmp_cons (x := v.1.designatedBridgeID.u) (y := w.1.designatedBridgeID.u) <|
    ncmp_cons (x := v.1.designatedPortID.toNat) (y := w.1.designatedPortID.toNat) hlast
  simp only [betterorsame, betterorsamePriority, components]
  cases cist with
  | false =>
    simp only [Bool.false_eq_true, if_false]
    exact hregional
  | true =>
    simp only [if_true]
    exact ncmp_cons (ncmp_cons hregional)

/-! ## The least root path -/

/-- Does the port take part in the selection for a tree? -/
def Eligible (br : Bridge) (t : Mstid) (p : PortRef) : Prop :=
  p ∈ br.ports ∧ (br.ptp p t).infoIs = .received ∧ (br.port p).restrictedRole = false ∧
    (br.ptp p t).portPriority.designatedBridgeID ≠ (br.tree t).bridgeIdentifier

theorem eligible_iff {br : Bridge} {t : Mstid} {p : PortRef} :
    Eligible br t p ↔ p ∈ br.ports ∧ offersRootPath br t p = true := by
  simp [Eligible, offersRootPath, and_assoc]

/-- The bridge's own vector and the root paths of the eligible ports. -/
def rootCandidates (br : Bridge) (t : Mstid) : Set PortVector :=
  {v | v = ownVector br t ∨ ∃ p, Eligible br t p ∧ v = rootPathVector br t p}

/-- The root of a tree that `b` has chosen, with the port that leads to it. -/
def chosenRoot (b : Bridge) (t : Mstid) : PortVector :=
  ((b.tree t).rootPriority, (b.tree t).rootPortId)

/-- `b` holds the outcome of role selection in `br`: the least candidate, at most one port
with the selected role Root, and that port attaining the least candidate. -/
structure RootSelected (t : Mstid) (br b : Bridge) : Prop where
  candidate : chosenRoot b t ∈ rootCandidates br t
  least : IsLeast (components (t == 0) '' rootCandidates br t)
    (components (t == 0) (chosenRoot b t))
  attained : ∀ p ∈ br.ports, (b.ptp p t).selectedRole = .root →
    Eligible br t p ∧ chosenRoot b t = rootPathVector br t p
  unique : ∀ p ∈ br.ports, ∀ q ∈ br.ports, (b.ptp p t).selectedRole = .root →
    (b.ptp q t).selectedRole = .root → p = q

section Selected

variable {br : Bridge} {t : Mstid}

theorem rootVectorOf_candidate : rootVectorOf br t ∈ rootCandidates br t := by
  cases hroot : rootPtpOf br t with
  | none =>
    refine Or.inl ?_
    rw [rootVectorOf, hroot]
    rfl
  | some p =>
    refine Or.inr ⟨p, eligible_iff.mpr (rootPtpOf_some hroot), ?_⟩
    rw [rootVectorOf, hroot]
    rfl

theorem rootVectorOf_least {v : PortVector} (hv : v ∈ rootCandidates br t) :
    components (t == 0) (rootVectorOf br t) ≤ components (t == 0) v := by
  rw [← betterorsame_iff]
  rcases hv with rfl | ⟨p, hp, rfl⟩
  · exact rootVectorOf_le_own br t
  · obtain ⟨hmem, hoffers⟩ := eligible_iff.mp hp
    exact rootVectorOf_le_offer hmem hoffers

theorem chosenRoot_updtRolesTree : chosenRoot (updtRolesTree t br) t = rootVectorOf br t := by
  rw [chosenRoot, updtRolesTree_tree_self]

/-- Only the chosen port gets the role; at a boundary port an MSTI has the Master role. -/
theorem newRole_root {p : PortRef} (h : (newRole br t p).1 = .root) : rootPtpOf br t = some p := by
  rw [newRole, selectRole] at h
  split at h
  · cases h
  · split at h
    · split at h
      · cases h
      · rename_i hne
        exact absurd h hne
    · split at h
      · cases h
      · cases h
      · cases h
      · split at h
        · assumption
        · split at h
          · split at h <;> cases h
          · cases h

theorem selectedRole_root {p : PortRef} (hp : p ∈ br.ports)
    (h : ((updtRolesTree t br).ptp p t).selectedRole = .root) : rootPtpOf br t = some p := by
  rw [updtRolesTree_ptp_self br t hp] at h
  exact newRole_root h

theorem updtRolesTree_rootSelected : RootSelected t br (updtRolesTree t br) where
  candidate := chosenRoot_updtRolesTree ▸ rootVectorOf_candidate
  least := by
    rw [chosenRoot_updtRolesTree]
    constructor
    · exact ⟨_, rootVectorOf_candidate, rfl⟩
    · rintro _ ⟨v, hv, rfl⟩
      exact rootVectorOf_least hv
  attained := by
    intro p hp hrole
    have hroot := selectedRole_root hp hrole
    refine ⟨eligible_iff.mpr (rootPtpOf_some hroot), ?_⟩
    rw [chosenRoot_updtRolesTree, rootVectorOf, hroot]
    rfl
  unique := by
    intro p hp q hq hrole hrole'
    exact Option.some.inj ((selectedRole_root hp hrole).symm.trans (selectedRole_root hq hrole'))

end Selected

/-! ## The order of the ports -/

/-- The ports of the tree have different identifiers. -/
def DistinctPortIds (br : Bridge) (t : Mstid) : Prop :=
  ∀ p ∈ br.ports, ∀ q ∈ br.ports, (br.ptp p t).portId = (br.ptp q t).portId → p = q

theorem components_portId {cist : Bool} {v w : PortVector}
    (h : components cist v = components cist w) : v.2 = w.2 := by
  rw [← UInt16.toNat_inj]
  cases cist <;> simp only [components, Bool.false_eq_true, if_false, if_true, List.cons.injEq] at h
  · exact h.2.2.2.2.1
  · exact h.2.2.2.2.2.2.1

section Permuted

variable {br : Bridge} {t : Mstid} {l : List PortRef}

theorem rootPtpOf_perm (hids : DistinctPortIds br t) (hperm : l.Perm br.ports) :
    rootPtpOf { br with ports := l } t = rootPtpOf br t := by
  refine Best.choose_perm (betterorsame_refl _) (betterorsame_trans _) (betterorsame_total _)
    hperm fun p hp q hq _ _ hle hge => ?_
  have hsame := le_antisymm (betterorsame_iff.mp hle) (betterorsame_iff.mp hge)
  exact hids p (hperm.mem_iff.mp hp) q (hperm.mem_iff.mp hq) (components_portId hsame)

theorem selectRoot_perm (hids : DistinctPortIds br t) (hperm : l.Perm br.ports) :
    selectRoot { br with ports := l } t = selectRoot br t := by
  have hroot := rootPtpOf_perm hids hperm
  have hvector : rootVectorOf { br with ports := l } t = rootVectorOf br t := by
    rw [rootVectorOf, hroot]
    rfl
  rw [selectRoot_eq, selectRoot_eq, hvector, hroot]

theorem updtDesignated_perm (root : RootChoice) (hperm : l.Perm br.ports) :
    updtDesignated t root { br with ports := l } =
      { updtDesignated t root br with ports := l } := by
  simp only [updtDesignated, setTreePtps, setTree, hperm.mem_iff]
  rfl

theorem syncMaster_perm {b : Bridge} (hperm : l.Perm b.ports) :
    syncMaster { b with ports := l } = { syncMaster b with ports := l } := by
  simp only [syncMaster, hperm.mem_iff]

theorem updtSelectedRoles_perm {b : Bridge} (root : Option PortRef) (hperm : l.Perm b.ports) :
    updtSelectedRoles t root { b with ports := l } =
      { updtSelectedRoles t root b with ports := l } := by
  simp only [updtSelectedRoles, hperm.mem_iff]
  rfl

/-- Role selection treats the ports of a permuted list alike. -/
theorem updtRolesTree_perm (hids : DistinctPortIds br t) (hperm : l.Perm br.ports) :
    updtRolesTree t { br with ports := l } = { updtRolesTree t br with ports := l } := by
  let b := updtDesignated t (selectRoot br t) br
  have hdesignated := updtDesignated_perm (t := t) (selectRoot br t) hperm
  have hsync := syncMaster_perm (b := b) hperm
  rw [updtRolesTree, updtRolesTree, selectRoot_perm hids hperm, hdesignated]
  split
  · rw [hsync]
    exact updtSelectedRoles_perm (b := syncMaster b) _ hperm
  · exact updtSelectedRoles_perm (b := b) _ hperm

/-- Role selection finds the least candidate, whatever the order of the ports. -/
theorem root_selection_minimal (hids : DistinctPortIds br t) :
    RootSelected t br (updtRolesTree t br) ∧
      ∀ l : List PortRef, l.Perm br.ports →
        updtRolesTree t { br with ports := l } = { updtRolesTree t br with ports := l } :=
  ⟨updtRolesTree_rootSelected, fun _ hperm => updtRolesTree_perm hids hperm⟩

end Permuted

/-- A bridge that has the same vector from two ports, as from parallel links. -/
def parallelLinks : Bridge where
  ports := [1, 2]
  trees := [0]
  tree _ :=
    { bridgeIdentifier := ⟨0x8000, 1⟩, bridgePriority := ownPriority ⟨0x8000, 1⟩ 0 }
  ptp p _ :=
    { infoIs := .received, portId := 0x8000 + p.toUInt16, internalPortPathCost := 20000
      portPriority := ⟨⟨0, 9⟩, 0, ⟨0, 9⟩, 0x8001, ⟨0, 9⟩, 0⟩ }
  port _ := { externalPortPathCost := 20000 }

theorem parallelLinks_selected : DistinctPortIds parallelLinks 0 ∧
    RootSelected 0 parallelLinks (updtRolesTree 0 parallelLinks) ∧
    updtRolesTree 0 { parallelLinks with ports := [2, 1] } =
      { updtRolesTree 0 parallelLinks with ports := [2, 1] } := by
  have hids : DistinctPortIds parallelLinks 0 := by
    intro p hp q hq h
    have hp : p = 1 ∨ p = 2 := by simpa [parallelLinks] using hp
    have hq : q = 1 ∨ q = 2 := by simpa [parallelLinks] using hq
    rcases hp with rfl | rfl <;> rcases hq with rfl | rfl
    · rfl
    · exact absurd h (by decide)
    · exact absurd h (by decide)
    · rfl
  obtain ⟨hselected, hperm⟩ := root_selection_minimal hids
  exact ⟨hids, hselected, hperm [2, 1] (List.Perm.swap 1 2 [])⟩

/-! ## The cost of the path -/

/-- The sum of two costs stops at its largest value. -/
theorem addPathCost_min (cost pathCost : UInt32) :
    (addPathCost cost pathCost).toNat = min (cost.toNat + pathCost.toNat) 0xFFFFFFFF := by
  have hcost := cost.toNat_lt
  have hpath := pathCost.toNat_lt
  have hsub : (0xFFFFFFFF - pathCost).toNat = 0xFFFFFFFF - pathCost.toNat := by
    rw [UInt32.toNat_sub_of_le _ _ (UInt32.le_iff_toNat_le.mpr (by simp; omega))]
    rfl
  rw [addPathCost]
  split
  · rename_i hlarge
    rw [gt_iff_lt, UInt32.lt_iff_toNat_lt, hsub] at hlarge
    have hlast : (0xFFFFFFFF : UInt32).toNat = 0xFFFFFFFF := rfl
    omega
  · rename_i hsmall
    rw [gt_iff_lt, UInt32.lt_iff_toNat_lt, hsub] at hsmall
    rw [UInt32.toNat_add, Nat.mod_eq_of_lt (by omega)]
    omega

section Cost

variable {br : Bridge} {t : Mstid} {p : PortRef}

/-- The path costs that the configuration and the link speed can give a port. -/
structure CostsInRange (br : Bridge) (t : Mstid) (p : PortRef) : Prop where
  external : 1 ≤ (br.port p).externalPortPathCost.toNat ∧
    (br.port p).externalPortPathCost.toNat ≤ maxPathCost.toNat
  internal : 1 ≤ (br.ptp p t).internalPortPathCost.toNat ∧
    (br.ptp p t).internalPortPathCost.toNat ≤ maxPathCost.toNat

/-- The first of the two vectors is not worse than the second. -/
def notWorse (t : Mstid) (v w : PortPriorityVector) : Bool := betterorsamePriority v w 0 0 (t == 0)

theorem notWorse_iff {v w : PortPriorityVector} :
    notWorse t v w = true ↔ components (t == 0) (v, 0) ≤ components (t == 0) (w, 0) :=
  betterorsame_iff (v := (v, 0)) (w := (w, 0))

/-- External information of the CIST whose cost cannot grow, while the regional part that
the bridge puts in is better than the received one. -/
def SaturatedExternal (br : Bridge) (t : Mstid) (p : PortRef) : Prop :=
  let v := (br.ptp p t).portPriority
  t = 0 ∧ (br.port p).rcvdInternal = false ∧ v.extRootPathCost = 0xFFFFFFFF ∧
    ((br.tree t).bridgeIdentifier.u < v.rRootID.u ∨
      (br.tree t).bridgeIdentifier.u = v.rRootID.u ∧ 0 < v.intRootPathCost.toNat)

theorem components_internal {cist : Bool} {v : PortPriorityVector} {cost : UInt32}
    (hle : v.intRootPathCost.toNat ≤ cost.toNat) :
    components cist (v, 0) ≤ components cist ({ v with intRootPathCost := cost }, 0) := by
  obtain ⟨rroot, int, bridge, port, root, ext⟩ := v
  have hle : int.toNat ≤ cost.toNat := hle
  have hregional : rroot.u :: int.toNat :: [bridge.u, port.toNat, 0] ≤
      rroot.u :: cost.toNat :: [bridge.u, port.toNat, 0] := by
    refine cons_le_cons.mpr (Or.inr ⟨rfl, cons_le_cons.mpr ?_⟩)
    rcases Nat.lt_or_eq_of_le hle with hlt | heq
    · exact Or.inl hlt
    · exact Or.inr ⟨heq, le_refl _⟩
  cases cist with
  | false => exact hregional
  | true => exact cons_le_cons.mpr (Or.inr ⟨rfl, cons_le_cons.mpr (Or.inr ⟨rfl, hregional⟩)⟩)

theorem components_external {v : PortPriorityVector} {cost : UInt32} {id : BridgeIdentifier} :
    components true (v, 0) ≤
        components true
          ({ v with extRootPathCost := cost, rRootID := id, intRootPathCost := 0 }, 0) ↔
      v.extRootPathCost.toNat < cost.toNat ∨ v.extRootPathCost.toNat = cost.toNat ∧
        (v.rRootID.u < id.u ∨ v.rRootID.u = id.u ∧ v.intRootPathCost.toNat = 0) := by
  obtain ⟨rroot, int, bridge, port, root, ext⟩ := v
  change root.u :: ext.toNat :: rroot.u :: int.toNat :: [bridge.u, port.toNat, 0] ≤
    root.u :: cost.toNat :: id.u :: 0 :: [bridge.u, port.toNat, 0] ↔ _
  simp only [cons_le_cons, lt_self_iff_false, Nat.not_lt_zero, false_or, true_and, le_refl,
    and_true]

theorem rootPathPriority_notWorse_iff (hcosts : CostsInRange br t p) :
    notWorse t (br.ptp p t).portPriority (rootPathPriority br t p) = true ↔
      ¬ SaturatedExternal br t p := by
  have hext := addPathCost_min (br.ptp p t).portPriority.extRootPathCost
    (br.port p).externalPortPathCost
  have hint := addPathCost_min (br.ptp p t).portPriority.intRootPathCost
    (br.ptp p t).internalPortPathCost
  have hextlt := (br.ptp p t).portPriority.extRootPathCost.toNat_lt
  have hintlt := (br.ptp p t).portPriority.intRootPathCost.toNat_lt
  have hlast : (br.ptp p t).portPriority.extRootPathCost = 0xFFFFFFFF ↔
      (br.ptp p t).portPriority.extRootPathCost.toNat = 0xFFFFFFFF := by
    have hmax : (0xFFFFFFFF : UInt32).toNat = 0xFFFFFFFF := rfl
    rw [← UInt32.toNat_inj, hmax]
  have hext₁ := hcosts.external.1
  rw [notWorse_iff, SaturatedExternal, hlast, rootPathPriority]
  cases hinternal : (br.port p).rcvdInternal with
  | true =>
    -- the internal cost does not shrink, and everything else is as received
    simp only [if_true, Bool.true_eq_false, false_and, and_false, not_false_eq_true, iff_true]
    exact components_internal (by omega)
  | false =>
    by_cases ht : t = 0
    · subst ht
      simp only [Bool.false_eq_true, if_false, if_true, beq_self_eq_true, true_and,
        components_external]
      omega
    · simp [ht]

theorem components_extRootPathCost {v w : PortPriorityVector} (hroot : w.rootID = v.rootID)
    (hlt : v.extRootPathCost.toNat < w.extRootPathCost.toNat) :
    components true (v, 0) ≤ components true (w, 0) := by
  refine cons_le_cons.mpr (Or.inr ⟨?_, cons_le_cons.mpr (Or.inl hlt)⟩)
  exact congrArg BridgeIdentifier.u hroot.symm

theorem components_intRootPathCost {cist : Bool} {v w : PortPriorityVector}
    (hroot : w.rootID = v.rootID) (hext : w.extRootPathCost = v.extRootPathCost)
    (hrroot : w.rRootID = v.rRootID)
    (hlt : v.intRootPathCost.toNat < w.intRootPathCost.toNat) :
    components cist (v, 0) ≤ components cist (w, 0) := by
  have hregional : components false (v, 0) ≤ components false (w, 0) := by
    refine cons_le_cons.mpr (Or.inr ⟨?_, cons_le_cons.mpr (Or.inl hlt)⟩)
    exact congrArg BridgeIdentifier.u hrroot.symm
  cases cist with
  | false => exact hregional
  | true =>
    refine cons_le_cons.mpr (Or.inr ⟨congrArg BridgeIdentifier.u hroot.symm, ?_⟩)
    exact cons_le_cons.mpr (Or.inr ⟨congrArg UInt32.toNat hext.symm, hregional⟩)

/-- The received cost that the path cost is added to can still grow, and the designated
vector keeps the regional root of internal information. -/
def CostGrows (br : Bridge) (t : Mstid) (p : PortRef) : Prop :=
  let v := (br.ptp p t).portPriority
  if (br.port p).rcvdInternal then
    v.intRootPathCost ≠ 0xFFFFFFFF ∧ (t = 0 → (br.port p).sendRSTP = true)
  else t = 0 ∧ v.extRootPathCost ≠ 0xFFFFFFFF

/-- Cost by which a sum is larger, where it can grow. -/
theorem addPathCost_lt {cost pathCost : UInt32} (hne : cost ≠ 0xFFFFFFFF)
    (hpath : 1 ≤ pathCost.toNat) : cost.toNat < (addPathCost cost pathCost).toNat := by
  have hmax : (0xFFFFFFFF : UInt32).toNat = 0xFFFFFFFF := rfl
  have hne : cost.toNat ≠ 0xFFFFFFFF := fun h => hne (UInt32.toNat_inj.mp (h.trans hmax.symm))
  have hlt := cost.toNat_lt
  have hsum := addPathCost_min cost pathCost
  omega

/-- The designated vector of a root port is not better than what the port holds. -/
theorem rootPort_notWorse (hcosts : CostsInRange br t p) (hroot : rootPtpOf br t = some p)
    (hgrows : CostGrows br t p) :
    notWorse t (br.ptp p t).portPriority ((updtRolesTree t br).ptp p t).designatedPriority =
      true := by
  have hvector : (rootVectorOf br t).1 = rootPathPriority br t p := by
    rw [rootVectorOf, hroot]
    rfl
  rw [updtRolesTree_ptp_self br t (rootPtpOf_some hroot).1, newDesignatedPriority, hvector,
    notWorse_iff]
  rw [CostGrows] at hgrows
  cases hinternal : (br.port p).rcvdInternal with
  | true =>
    simp only [hinternal, if_true] at hgrows
    have hlt := addPathCost_lt hgrows.1 hcosts.internal.1
    have hpath : rootPathPriority br t p =
        { (br.ptp p t).portPriority with
          intRootPathCost := addPathCost (br.ptp p t).portPriority.intRootPathCost
            (br.ptp p t).internalPortPathCost } := by
      rw [rootPathPriority, hinternal, if_pos rfl]
    refine components_intRootPathCost ?_ ?_ ?_ ?_
    · rw [designatedPriorityOf, hpath]
    · rw [designatedPriorityOf, hpath]
    · rw [designatedPriorityOf, hpath]
      by_cases ht : t = 0
      · simp [ht, hgrows.2 ht]
      · simp [ht]
    · rw [designatedPriorityOf, hpath]
      exact hlt
  | false =>
    simp only [hinternal, Bool.false_eq_true, if_false] at hgrows
    obtain ⟨rfl, hne⟩ := hgrows
    have hlt := addPathCost_lt hne hcosts.external.1
    have hpath : rootPathPriority br 0 p =
        { (br.ptp p 0).portPriority with
          extRootPathCost := addPathCost (br.ptp p 0).portPriority.extRootPathCost
            (br.port p).externalPortPathCost
          rRootID := (br.tree 0).bridgeIdentifier, intRootPathCost := 0 } := by
      rw [rootPathPriority, hinternal, if_neg Bool.false_ne_true, if_pos rfl]
    refine components_extRootPathCost ?_ ?_
    · rw [designatedPriorityOf, hpath]
    · rw [designatedPriorityOf, hpath]
      exact hlt

/-- Costs are added without wrap; the root path is better than the recorded vector only
for saturated external information; and where the cost can grow, a root port holds nothing
worse than the vector it would announce. -/
theorem path_cost_never_improves (hcosts : CostsInRange br t p) :
    (∀ cost pathCost : UInt32,
      (addPathCost cost pathCost).toNat = min (cost.toNat + pathCost.toNat) 0xFFFFFFFF) ∧
    (notWorse t (br.ptp p t).portPriority (rootPathPriority br t p) = true ↔
      ¬ SaturatedExternal br t p) ∧
    (rootPtpOf br t = some p → CostGrows br t p →
      notWorse t (br.ptp p t).portPriority
        ((updtRolesTree t br).ptp p t).designatedPriority = true) :=
  ⟨addPathCost_min, rootPathPriority_notWorse_iff hcosts, rootPort_notWorse hcosts⟩

end Cost

/-- One port with received information. -/
def onePath (internal sendRSTP : Bool) (v : PortPriorityVector) : Bridge where
  ports := [1]
  trees := [0, 1]
  tree _ := { bridgeIdentifier := ⟨0x8000, 1⟩, bridgePriority := ownPriority ⟨0x8000, 1⟩ 0 }
  ptp _ _ :=
    { infoIs := .received, portId := 0x8001, internalPortPathCost := 20000, portPriority := v }
  port _ :=
    { rcvdInternal := internal, sendRSTP := sendRSTP, externalPortPathCost := 20000 }

/-- External information whose cost is already at its end. -/
def saturatedPath : Bridge :=
  onePath false true ⟨⟨0x9000, 9⟩, 0, ⟨0x9000, 9⟩, 0x8001, ⟨0, 9⟩, 0xFFFFFFFF⟩

/-- Internal information whose cost is already at its end. -/
def saturatedInside : Bridge :=
  onePath true true ⟨⟨0, 9⟩, 0xFFFFFFFF, ⟨0x9000, 9⟩, 0x8001, ⟨0, 9⟩, 0⟩

/-- Internal information on a port that sends STP BPDUs. -/
def stpInside : Bridge :=
  onePath true false ⟨⟨0x9000, 9⟩, 0, ⟨0x9000, 9⟩, 0x8001, ⟨0, 9⟩, 0⟩

/-- MSTI information on a port at the boundary. -/
def mstiOutside : Bridge :=
  onePath false true ⟨⟨0, 9⟩, 0, ⟨0x9000, 9⟩, 0x8001, ⟨0, 9⟩, 0⟩

/-- The bridge's only port is its root port, and its recorded vector is worse than what the
bridge announces on it. -/
def ImprovesAtRoot (t : Mstid) (br : Bridge) : Prop :=
  rootPtpOf br t = some 1 ∧
  notWorse t (br.ptp 1 t).portPriority ((updtRolesTree t br).ptp 1 t).designatedPriority = false

instance (t : Mstid) (br : Bridge) : Decidable (ImprovesAtRoot t br) :=
  inferInstanceAs (Decidable (_ ∧ _))

/-- Four ways in which a root port holds worse information than it announces: the external
and the internal cost at its end, a regional root replaced on a port that sends STP BPDUs,
and an MSTI that adds no cost at all. In the first the root path itself is better. -/
theorem path_improves_at_end :
    (Eligible saturatedPath 0 1 ∧ CostsInRange saturatedPath 0 1 ∧
      notWorse 0 (saturatedPath.ptp 1 0).portPriority (rootPathPriority saturatedPath 0 1)
        = false) ∧
    ImprovesAtRoot 0 saturatedPath ∧ ImprovesAtRoot 0 saturatedInside ∧
    ImprovesAtRoot 0 stpInside ∧ ImprovesAtRoot 1 mstiOutside := by
  refine ⟨⟨eligible_iff.mpr ?_, ⟨?_, ?_⟩, ?_⟩, ?_, ?_, ?_, ?_⟩
  all_goals decide +kernel

/-- The vector of a root bridge seen at a cost that can grow. -/
def growingPath : Bridge :=
  onePath false true ⟨⟨0x9000, 9⟩, 0, ⟨0x9000, 9⟩, 0x8001, ⟨0, 9⟩, 20000⟩

/-- A cost that grows. -/
theorem path_cost_grows :
    CostsInRange growingPath 0 1 ∧
    notWorse 0 (growingPath.ptp 1 0).portPriority (rootPathPriority growingPath 0 1) = true ∧
    notWorse 0 (growingPath.ptp 1 0).portPriority
      ((updtRolesTree 0 growingPath).ptp 1 0).designatedPriority = true := by
  have hcosts : CostsInRange growingPath 0 1 := ⟨by decide, by decide⟩
  obtain ⟨-, hpath, hport⟩ := path_cost_never_improves hcosts
  refine ⟨hcosts, hpath.mpr fun hsat => absurd hsat.2.2.1 (by decide), ?_⟩
  apply hport
  · decide +kernel
  · exact ⟨rfl, by decide⟩

end Mstpd
