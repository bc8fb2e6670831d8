import Mathlib.Data.Fintype.Lattice
import Mstpd.ParentTree
import Mstpd.Selection
import Mstpd.Events

/-!
# Networks of bridges

A network joins ports of bridges by point-to-point links. In a stable state of a
network every bridge has selected its roles from what its ports hold, and what they
hold is what the designated ends of their links announce. The bridges then agree on
the root, and the links between root ports and designated ports span the network.
-/

namespace Mstpd

open Bridge

/-- An end of a link, or a port without one: the bridge and its port. -/
abbrev End (ι : Type) := ι × PortRef

/-- The bridges, and for each end of a link the opposite end. -/
structure Network (ι : Type) where
  bridge : ι → Bridge
  peer : End ι → Option (End ι)
  peer_mem : ∀ e f, peer e = some f → e.2 ∈ (bridge e.1).ports
  peer_symm : ∀ e f, peer e = some f → peer f = some e
  peer_ne : ∀ e f, peer e = some f → e ≠ f

namespace Network

variable {ι : Type}

/-- The CIST entry of an end. -/
def ptp (net : Network ι) (e : End ι) : PerTreePort := (net.bridge e.1).ptp e.2 0

def id (net : Network ι) (i : ι) : BridgeIdentifier := ((net.bridge i).tree 0).bridgeIdentifier

def rootPriority (net : Network ι) (i : ι) : PortPriorityVector :=
  ((net.bridge i).tree 0).rootPriority

/-- Bridges that share a link. -/
def linkGraph (net : Network ι) : SimpleGraph ι :=
  SimpleGraph.fromRel fun i j => ∃ p q, net.peer (i, p) = some (j, q)

/-- A link with a Root end and a Designated end. -/
def TreeLink (net : Network ι) (e f : End ι) : Prop :=
  net.peer e = some f ∧ (net.ptp e).role = .root ∧ (net.ptp f).role = .designated

/-- Bridges that share such a link. -/
def treeGraph (net : Network ι) : SimpleGraph ι :=
  SimpleGraph.fromRel fun i j => ∃ p q, net.TreeLink (i, p) (j, q)

/-- The premises on the network. The last three fields hold of every bridge: its own
priority vector is made from its identifier, and a path cost is never zero. -/
structure Configured (net : Network ι) : Prop where
  distinct : ∀ i j, net.id i = net.id j → i = j
  enabled : ∀ i, ∀ p ∈ (net.bridge i).ports,
    ((net.bridge i).port p).portEnabled = true ∧ (net.ptp (i, p)).infoIs ≠ .disabled
  unrestricted : ∀ i, ∀ p ∈ (net.bridge i).ports, ((net.bridge i).port p).restrictedRole = false
  unsaturated : ∀ i, ∀ p ∈ (net.bridge i).ports, (net.ptp (i, p)).infoIs = .received →
    (net.ptp (i, p)).portPriority.extRootPathCost.toNat +
        ((net.bridge i).port p).externalPortPathCost.toNat < 2 ^ 32 ∧
      (net.ptp (i, p)).portPriority.intRootPathCost.toNat +
        (net.ptp (i, p)).internalPortPathCost.toNat < 2 ^ 32
  own : ∀ i, ((net.bridge i).tree 0).bridgePriority = ownPriority (net.id i) 0
  externalCost : ∀ i, ∀ p ∈ (net.bridge i).ports,
    ((net.bridge i).port p).externalPortPathCost ≠ 0
  internalCost : ∀ i, ∀ p ∈ (net.bridge i).ports, (net.ptp (i, p)).internalPortPathCost ≠ 0

/-- No bridge would select anything else, and every end of a link holds what the
opposite end announces if that is Designated, and nothing received otherwise. A port
without a link has received nothing. -/
structure Stable (net : Network ι) : Prop where
  root : ∀ i, ((updtRolesTree 0 (net.bridge i)).tree 0).rootPriority = net.rootPriority i ∧
    ((updtRolesTree 0 (net.bridge i)).tree 0).rootPortId = ((net.bridge i).tree 0).rootPortId
  selected : ∀ i, ∀ p ∈ (net.bridge i).ports,
    ((updtRolesTree 0 (net.bridge i)).ptp p 0).selectedRole = (net.ptp (i, p)).selectedRole ∧
      ((updtRolesTree 0 (net.bridge i)).ptp p 0).designatedPriority =
        (net.ptp (i, p)).designatedPriority
  settled : ∀ i, ∀ p ∈ (net.bridge i).ports,
    (net.ptp (i, p)).role = (net.ptp (i, p)).selectedRole ∧ (net.ptp (i, p)).updtInfo = false
  received : ∀ e f, net.peer e = some f →
    ((net.ptp e).infoIs = .received ↔ (net.ptp f).role = .designated)
  carried : ∀ e f, net.peer e = some f → (net.ptp e).infoIs = .received →
    (net.ptp e).portPriority = (net.ptp f).designatedPriority
  unlinked : ∀ i, ∀ p ∈ (net.bridge i).ports, net.peer (i, p) = none →
    (net.ptp (i, p)).infoIs ≠ .received

/-! ## One bridge -/

variable {net : Network ι}

/-- The root port of a bridge. -/
def rootPort (net : Network ι) (i : ι) : Option PortRef := rootPtpOf (net.bridge i) 0

/-- Path costs as one number, the external cost first. -/
def rank (net : Network ι) (i : ι) : Nat :=
  (net.rootPriority i).extRootPathCost.toNat * 2 ^ 32 + (net.rootPriority i).intRootPathCost.toNat

theorem rootPriority_eq (hs : net.Stable) (i : ι) :
    net.rootPriority i = (rootVectorOf (net.bridge i) 0).1 := by
  rw [← (hs.root i).1, updtRolesTree_tree_self]

theorem designatedPriority_eq (hs : net.Stable) {i : ι} {p : PortRef}
    (hp : p ∈ (net.bridge i).ports) :
    (net.ptp (i, p)).designatedPriority =
      designatedPriorityOf (net.bridge i) 0 p (net.rootPriority i) := by
  rw [← (hs.selected i p hp).2, updtRolesTree_ptp_self _ _ hp, rootPriority_eq hs]
  rfl

theorem role_eq (hs : net.Stable) {i : ι} {p : PortRef} (hp : p ∈ (net.bridge i).ports) :
    (net.ptp (i, p)).role = (newRole (net.bridge i) 0 p).1 := by
  rw [(hs.settled i p hp).1, ← (hs.selected i p hp).1, updtRolesTree_ptp_self _ _ hp]

theorem rootPort_received {i : ι} {p : PortRef} (h : net.rootPort i = some p) :
    p ∈ (net.bridge i).ports ∧ (net.ptp (i, p)).infoIs = .received ∧
      (net.ptp (i, p)).portPriority.designatedBridgeID ≠ net.id i := by
  obtain ⟨hp, ho⟩ := rootPtpOf_some h
  simp only [offersRootPath, Bool.and_eq_true, beq_iff_eq, bne_iff_ne] at ho
  exact ⟨hp, ho.1.1, ho.2⟩

theorem role_root_iff (hs : net.Stable) {i : ι} {p : PortRef} (hp : p ∈ (net.bridge i).ports) :
    (net.ptp (i, p)).role = .root ↔ net.rootPort i = some p := by
  rw [role_eq hs hp, newRole_cist _ hp]
  constructor
  · intro h
    split at h
    · cases h
    · cases h
    · cases h
    · by_contra hne
      have hne' : ¬ rootPtpOf (net.bridge i) 0 = some p := hne
      rw [if_neg hne'] at h
      split at h
      · split at h <;> cases h
      · cases h
  · intro h
    have hr : ((net.bridge i).ptp p 0).infoIs = .received := (rootPort_received h).2.1
    rw [hr]
    exact if_pos h

theorem role_designated_of_not_received (hc : net.Configured) (hs : net.Stable) {i : ι}
    {p : PortRef} (hp : p ∈ (net.bridge i).ports) (hr : (net.ptp (i, p)).infoIs ≠ .received) :
    (net.ptp (i, p)).role = .designated := by
  have hd := (hc.enabled i p hp).2
  rw [role_eq hs hp, newRole_cist _ hp]
  simp only [ptp] at hr hd
  split
  · contradiction
  · rfl
  · rfl
  · contradiction

/-- Received information that leaves a port Designated is worse than what the port
announces, and otherwise at least as good. -/
theorem role_designated_of_received (hs : net.Stable) {i : ι} {p : PortRef}
    (hp : p ∈ (net.bridge i).ports) (hr : (net.ptp (i, p)).infoIs = .received)
    (hroot : net.rootPort i ≠ some p) :
    (net.ptp (i, p)).role = .designated ↔
      betterorsame true ((net.ptp (i, p)).portPriority, 0)
        ((net.ptp (i, p)).designatedPriority, 0) = false := by
  have hdp : (net.ptp (i, p)).designatedPriority = newDesignatedPriority (net.bridge i) 0 p := by
    rw [designatedPriority_eq hs hp, rootPriority_eq hs]
    rfl
  have hr' : ((net.bridge i).ptp p 0).infoIs = .received := hr
  have hroot' : ¬ rootPtpOf (net.bridge i) 0 = some p := hroot
  rw [role_eq hs hp, newRole_cist _ hp, hr', hdp]
  simp only [betterorsame, ptp]
  rw [if_neg hroot']
  split
  · rename_i h
    rw [h]
    split <;> simp
  · rename_i h
    simpa using h

theorem betterorsame_rootID {a b : PortVector} (h : betterorsame true a b = true) :
    a.1.rootID.u ≤ b.1.rootID.u := by
  simp only [betterorsame, betterorsamePriority, if_true] at h
  rcases ncmp_eq_true.mp h with h | h
  · exact h.le
  · exact h.1.le

theorem rootPriority_of_none (hc : net.Configured) (hs : net.Stable) {i : ι}
    (h : net.rootPort i = none) : net.rootPriority i = ownPriority (net.id i) 0 := by
  have h' : rootPtpOf (net.bridge i) 0 = none := h
  rw [rootPriority_eq hs, rootVectorOf, h', ← hc.own i]
  rfl

theorem rootPriority_of_some (hs : net.Stable) {i : ι} {p : PortRef}
    (h : net.rootPort i = some p) : net.rootPriority i = rootPathPriority (net.bridge i) 0 p := by
  have h' : rootPtpOf (net.bridge i) 0 = some p := h
  rw [rootPriority_eq hs, rootVectorOf, h']
  rfl

/-! ## The root path of a bridge -/

theorem addPathCost_toNat {cost pathCost : UInt32} (h : cost.toNat + pathCost.toNat < 2 ^ 32) :
    (addPathCost cost pathCost).toNat = cost.toNat + pathCost.toNat := by
  have hsub : (0xFFFFFFFF - pathCost).toNat = 0xFFFFFFFF - pathCost.toNat := by
    rw [UInt32.toNat_sub_of_le _ _ (UInt32.le_iff_toNat_le.mpr (by simp; omega))]
    rfl
  have hle : ¬ cost > 0xFFFFFFFF - pathCost := by
    rw [gt_iff_lt, UInt32.lt_iff_toNat_lt, hsub]
    omega
  rw [addPathCost, if_neg hle, UInt32.toNat_add, Nat.mod_eq_of_lt h]

/-- The opposite end of a root port is Designated, and nearer to the root. -/
theorem rootPort_peer (hs : net.Stable) {i : ι} {p : PortRef}
    (h : net.rootPort i = some p) :
    ∃ j q, net.peer (i, p) = some (j, q) ∧ (net.ptp (j, q)).role = .designated ∧ j ≠ i ∧
      (net.ptp (i, p)).portPriority =
        designatedPriorityOf (net.bridge j) 0 q (net.rootPriority j) := by
  obtain ⟨hp, hr, hne⟩ := rootPort_received h
  cases hpeer : net.peer (i, p) with
  | none => exact absurd hr (hs.unlinked i p hp hpeer)
  | some f =>
    obtain ⟨j, q⟩ := f
    have hq := net.peer_mem _ _ (net.peer_symm _ _ hpeer)
    have hcarried := (hs.carried _ _ hpeer hr).trans (designatedPriority_eq hs hq)
    refine ⟨j, q, rfl, (hs.received _ _ hpeer).mp hr, ?_, hcarried⟩
    rintro rfl
    rw [hcarried] at hne
    exact hne rfl

theorem rootPort_rank (hc : net.Configured) (hs : net.Stable) {i j : ι} {p q : PortRef}
    (h : net.rootPort i = some p)
    (hcarried : (net.ptp (i, p)).portPriority =
      designatedPriorityOf (net.bridge j) 0 q (net.rootPriority j)) :
    net.rank j < net.rank i := by
  obtain ⟨hp, hr, -⟩ := rootPort_received h
  obtain ⟨hext, hint⟩ := hc.unsaturated i p hp hr
  have hcarried' : ((net.bridge i).ptp p 0).portPriority =
      designatedPriorityOf (net.bridge j) 0 q (net.rootPriority j) := hcarried
  rw [hcarried] at hext hint
  have hsumExt := addPathCost_toNat hext
  have hsumInt := addPathCost_toNat hint
  have hj := (net.rootPriority j).intRootPathCost.toNat_lt
  simp only [rank, rootPriority_of_some hs h, rootPathPriority]
  rw [hcarried']
  simp only [designatedPriorityOf, ptp] at hsumExt hsumInt ⊢
  split
  · have hpos : ((net.bridge i).ptp p 0).internalPortPathCost.toNat ≠ 0 :=
      fun h0 => hc.internalCost i p hp (UInt32.toNat_inj.mp h0)
    dsimp only
    rw [hsumInt]
    omega
  · have hpos : ((net.bridge i).port p).externalPortPathCost.toNat ≠ 0 :=
      fun h0 => hc.externalCost i p hp (UInt32.toNat_inj.mp h0)
    simp only [if_true]
    rw [hsumExt]
    omega

/-- The identifiers in a root priority vector are those of bridges. -/
theorem rootPriority_known (hc : net.Configured) (hs : net.Stable) (i : ι) :
    (∃ r, (net.rootPriority i).rootID = net.id r) ∧
      (∃ r, (net.rootPriority i).rRootID = net.id r) := by
  induction hn : net.rank i using Nat.strong_induction_on generalizing i with
  | _ n ih =>
    cases h : net.rootPort i with
    | none =>
      rw [rootPriority_of_none hc hs h]
      exact ⟨⟨i, rfl⟩, ⟨i, rfl⟩⟩
    | some p =>
      obtain ⟨j, q, -, -, -, hcarried⟩ := rootPort_peer hs h
      have hlt : net.rank j < n := hn ▸ rootPort_rank hc hs h hcarried
      obtain ⟨⟨r, hroot⟩, ⟨r', hrroot⟩⟩ := ih _ hlt j rfl
      have hcarried' : ((net.bridge i).ptp p 0).portPriority =
        designatedPriorityOf (net.bridge j) 0 q (net.rootPriority j) := hcarried
      rw [rootPriority_of_some hs h, rootPathPriority, hcarried']
      split
      · refine ⟨⟨r, hroot⟩, ?_⟩
        simp only [designatedPriorityOf]
        split
        · exact ⟨j, rfl⟩
        · exact ⟨r', hrroot⟩
      · exact ⟨⟨r, hroot⟩, ⟨i, rfl⟩⟩

/-! ## Agreement on the root -/

section Root

variable {m : ι}

theorem rootID_of_le (hc : net.Configured) (hs : net.Stable) (hm : ∀ i, (net.id m).u ≤ (net.id i).u)
    {i : ι} (h : (net.rootPriority i).rootID.u ≤ (net.id m).u) :
    (net.rootPriority i).rootID = net.id m := by
  obtain ⟨⟨r, hr⟩, -⟩ := rootPriority_known hc hs i
  have hle := hm r
  rw [hr] at h ⊢
  exact BridgeIdentifier.u_inj.mp (by omega)

theorem rootID_best (hc : net.Configured) (hs : net.Stable)
    (hm : ∀ i, (net.id m).u ≤ (net.id i).u) : (net.rootPriority m).rootID = net.id m := by
  refine rootID_of_le hc hs hm ?_
  have h := betterorsame_rootID (rootVectorOf_le_own (net.bridge m) 0)
  rw [← rootPriority_eq hs, ownVector, hc.own m] at h
  exact h

/-- The root travels over a link, in whichever direction information does. -/
theorem rootID_link (hc : net.Configured) (hs : net.Stable)
    (hm : ∀ i, (net.id m).u ≤ (net.id i).u) {i j : ι} {p q : PortRef}
    (hpeer : net.peer (i, p) = some (j, q)) (hi : (net.rootPriority i).rootID = net.id m) :
    (net.rootPriority j).rootID = net.id m := by
  have hp := net.peer_mem _ _ hpeer
  have hpeer' := net.peer_symm _ _ hpeer
  have hq := net.peer_mem _ _ hpeer'
  by_cases hd : (net.ptp (i, p)).role = .designated
  · have hr := (hs.received _ _ hpeer').mpr hd
    have hcarried := (hs.carried _ _ hpeer' hr).trans (designatedPriority_eq hs hp)
    by_cases hij : j = i
    · rw [hij, hi]
    · have hoffers : offersRootPath (net.bridge j) 0 q = true := by
        have hr' : ((net.bridge j).ptp q 0).infoIs = .received := hr
        have hc' : ((net.bridge j).ptp q 0).portPriority =
          designatedPriorityOf (net.bridge i) 0 p (net.rootPriority i) := hcarried
        have hid : net.id i ≠ net.id j := fun h => hij (hc.distinct _ _ h).symm
        simp only [offersRootPath, hr', hc.unrestricted j q hq, hc']
        simpa [designatedPriorityOf, id] using hid
      have hle := betterorsame_rootID (rootVectorOf_le_offer hq hoffers)
      rw [← rootPriority_eq hs] at hle
      refine rootID_of_le hc hs hm (hle.trans ?_)
      have hpath : (rootPathVector (net.bridge j) 0 q).1.rootID =
          (net.ptp (j, q)).portPriority.rootID := by
        simp only [rootPathVector, rootPathPriority]
        split
        · rfl
        · rfl
      rw [hpath, hcarried]
      exact le_of_eq (congrArg BridgeIdentifier.u hi)
  · have hr : (net.ptp (i, p)).infoIs = .received := by
      by_contra h
      exact hd (role_designated_of_not_received hc hs hp h)
    have hcarried := (hs.carried _ _ hpeer hr).trans (designatedPriority_eq hs hq)
    have hcarried' : ((net.bridge i).ptp p 0).portPriority =
      designatedPriorityOf (net.bridge j) 0 q (net.rootPriority j) := hcarried
    by_cases hroot : net.rootPort i = some p
    · rw [rootPriority_of_some hs hroot, rootPathPriority, hcarried'] at hi
      rw [← hi]
      split <;> rfl
    · have hbetter := (role_designated_of_received hs hp hr hroot).not.mp hd
      rw [Bool.not_eq_false] at hbetter
      have hle := betterorsame_rootID hbetter
      rw [hcarried, designatedPriority_eq hs hp] at hle
      exact rootID_of_le hc hs hm (hle.trans (le_of_eq (congrArg BridgeIdentifier.u hi)))

theorem rootID_agrees (hc : net.Configured) (hs : net.Stable) (hcon : net.linkGraph.Connected)
    (hm : ∀ i, (net.id m).u ≤ (net.id i).u) (i : ι) :
    (net.rootPriority i).rootID = net.id m := by
  obtain ⟨walk⟩ := hcon.preconnected m i
  suffices ∀ a b, net.linkGraph.Walk a b → (net.rootPriority a).rootID = net.id m →
      (net.rootPriority b).rootID = net.id m from this m i walk (rootID_best hc hs hm)
  intro a b w
  induction w with
  | nil => exact fun h => h
  | cons hadj _ ih =>
    intro ha
    rcases (SimpleGraph.fromRel_adj _ _ _).mp hadj with ⟨-, ⟨p, q, hl⟩ | ⟨p, q, hl⟩⟩
    · exact ih (rootID_link hc hs hm hl ha)
    · exact ih (rootID_link hc hs hm (net.peer_symm _ _ hl) ha)

/-- Nothing a port of the best bridge holds is as good as the bridge's own vector. -/
theorem rootPort_best (hc : net.Configured) (hs : net.Stable)
    (hm : ∀ i, (net.id m).u ≤ (net.id i).u) : net.rootPort m = none := by
  cases h : net.rootPort m with
  | none => rfl
  | some p =>
    exfalso
    obtain ⟨hp, hr, -⟩ := rootPort_received h
    obtain ⟨hext, hint⟩ := hc.unsaturated m p hp hr
    obtain ⟨r, hrroot⟩ := (rootPriority_known hc hs m).2
    have hbest := rootID_best hc hs hm
    have hle := rootVectorOf_le_own (net.bridge m) 0
    rw [betterorsame, ← rootPriority_eq hs, ownVector, hc.own m] at hle
    simp only [betterorsamePriority, beq_self_eq_true, if_true, ncmp_eq_true, hbest, hrroot,
      ownPriority, lt_irrefl, false_or, true_and] at hle
    have hu := hm r
    have hzero : (0 : PortPriorityVector).extRootPathCost.toNat = 0 ∧
      (0 : PortPriorityVector).intRootPathCost.toNat = 0 := ⟨rfl, rfl⟩
    rw [hzero.1, hzero.2, rootPriority_of_some hs h, rootPathPriority] at hle
    split at hle
    · have hpos : ((net.bridge m).ptp p 0).internalPortPathCost.toNat ≠ 0 :=
        fun h0 => hc.internalCost m p hp (UInt32.toNat_inj.mp h0)
      have hsum := addPathCost_toNat hint
      simp only [ptp] at hsum
      rw [hsum] at hle
      omega
    · have hpos : ((net.bridge m).port p).externalPortPathCost.toNat ≠ 0 :=
        fun h0 => hc.externalCost m p hp (UInt32.toNat_inj.mp h0)
      have hsum := addPathCost_toNat hext
      simp only [ptp] at hsum
      rw [if_pos rfl, hsum] at hle
      omega

theorem rootPort_ne_none (hc : net.Configured) (hs : net.Stable) (hcon : net.linkGraph.Connected)
    (hm : ∀ i, (net.id m).u ≤ (net.id i).u) {i : ι} (hi : i ≠ m) : net.rootPort i ≠ none := by
  intro h
  have hagrees := rootID_agrees hc hs hcon hm i
  rw [rootPriority_of_none hc hs h] at hagrees
  exact hi (hc.distinct i m hagrees)

end Root

/-! ## Roles on a link -/

theorem designated_end (hc : net.Configured) (hs : net.Stable) {e f : End ι}
    (hpeer : net.peer e = some f) :
    (net.ptp e).role = .designated ↔ (net.ptp f).role ≠ .designated := by
  have hpeer' := net.peer_symm _ _ hpeer
  have he := net.peer_mem _ _ hpeer
  have hf := net.peer_mem _ _ hpeer'
  constructor
  · intro hde hdf
    have hre := (hs.received _ _ hpeer).mpr hdf
    have hrf := (hs.received _ _ hpeer').mpr hde
    have hne : ∀ g : End ι, g.2 ∈ (net.bridge g.1).ports → (net.ptp g).role = .designated →
        net.rootPort g.1 ≠ some g.2 := by
      intro g hg hd hroot
      rw [(role_root_iff hs hg).mpr hroot] at hd
      cases hd
    have hworse := (role_designated_of_received hs he hre (hne e he hde)).mp hde
    have hworse' := (role_designated_of_received hs hf hrf (hne f hf hdf)).mp hdf
    rw [hs.carried _ _ hpeer hre] at hworse
    rw [hs.carried _ _ hpeer' hrf] at hworse'
    -- each of the two announcements would be strictly better than the other
    rcases betterorsame_total true ((net.ptp e).designatedPriority, 0)
      ((net.ptp f).designatedPriority, 0) with h | h
    · rw [h] at hworse'
      cases hworse'
    · rw [h] at hworse
      cases hworse
  · intro hdf
    exact role_designated_of_not_received hc hs he fun hr => hdf ((hs.received _ _ hpeer).mp hr)

theorem treeLink_iff (hs : net.Stable) {i j : ι} {p q : PortRef} :
    net.TreeLink (i, p) (j, q) ↔ net.rootPort i = some p ∧ net.peer (i, p) = some (j, q) := by
  constructor
  · rintro ⟨hpeer, hroot, -⟩
    exact ⟨(role_root_iff hs (net.peer_mem _ _ hpeer)).mp hroot, hpeer⟩
  · rintro ⟨hroot, hpeer⟩
    have hr := (rootPort_received hroot).2.1
    exact ⟨hpeer, (role_root_iff hs (net.peer_mem _ _ hpeer)).mpr hroot,
      (hs.received _ _ hpeer).mp hr⟩

/-- The bridge at the other end of the root port. -/
def parent (net : Network ι) (i : ι) : ι :=
  ((net.rootPort i).bind fun p => net.peer (i, p)).elim i Prod.fst

theorem parent_of_treeLink (hs : net.Stable) {i j : ι} {p q : PortRef}
    (h : net.TreeLink (i, p) (j, q)) : net.parent i = j := by
  obtain ⟨hroot, hpeer⟩ := (treeLink_iff hs).mp h
  simp [parent, hroot, hpeer]

theorem exists_treeLink (hs : net.Stable) {i : ι} (h : net.rootPort i ≠ none) :
    ∃ p q, net.TreeLink (i, p) (net.parent i, q) := by
  obtain ⟨p, hp⟩ := Option.ne_none_iff_exists'.mp h
  obtain ⟨j, q, hpeer, -, -, -⟩ := rootPort_peer hs hp
  have hlink : net.TreeLink (i, p) (j, q) := (treeLink_iff hs).mpr ⟨hp, hpeer⟩
  exact ⟨p, q, (parent_of_treeLink hs hlink).symm ▸ hlink⟩

theorem treeLink_rank (hc : net.Configured) (hs : net.Stable) {e f : End ι}
    (h : net.TreeLink e f) : net.rank f.1 < net.rank e.1 := by
  obtain ⟨hroot, hpeer⟩ := (treeLink_iff hs).mp h
  obtain ⟨j, q, hpeer', -, -, hcarried⟩ := rootPort_peer hs hroot
  obtain rfl : f = (j, q) := Option.some.inj (hpeer.symm.trans hpeer')
  exact rootPort_rank hc hs hroot hcarried

theorem treeLink_unique (hc : net.Configured) (hs : net.Stable) {e f e' f' : End ι}
    (h : net.TreeLink e f) (h' : net.TreeLink e' f') (hends : s(e.1, f.1) = s(e'.1, f'.1)) :
    e = e' ∧ f = f' := by
  have hrank := treeLink_rank hc hs h
  have hrank' := treeLink_rank hc hs h'
  rcases Sym2.eq_iff.mp hends with ⟨he, -⟩ | ⟨hef, hfe⟩
  · obtain ⟨hroot, hpeer⟩ := (treeLink_iff hs).mp h
    obtain ⟨hroot', hpeer'⟩ := (treeLink_iff hs).mp h'
    have hp : e.2 = e'.2 := by
      rw [he] at hroot
      exact Option.some.inj (hroot.symm.trans hroot')
    obtain rfl : e = e' := Prod.ext he hp
    exact ⟨rfl, Option.some.inj (hpeer.symm.trans hpeer')⟩
  · rw [hef, hfe] at hrank
    omega

theorem treeGraph_isTree [Finite ι] (hc : net.Configured) (hs : net.Stable)
    (hcon : net.linkGraph.Connected) {m : ι} (hm : ∀ i, (net.id m).u ≤ (net.id i).u) :
    net.treeGraph.IsTree := by
  have hdecreases : ∀ i, i ≠ m → net.rank (net.parent i) < net.rank i := by
    intro i hi
    obtain ⟨p, q, hlink⟩ := exists_treeLink hs (rootPort_ne_none hc hs hcon hm hi)
    have hrank := treeLink_rank hc hs hlink
    exact hrank
  have hgraph : net.treeGraph = ParentTree.graph m net.parent := by
    have hrel : ∀ i j, (∃ p q, net.TreeLink (i, p) (j, q)) ↔ i ≠ m ∧ net.parent i = j := by
      intro i j
      constructor
      · rintro ⟨p, q, hlink⟩
        refine ⟨?_, parent_of_treeLink hs hlink⟩
        rintro rfl
        have hroot := ((treeLink_iff hs).mp hlink).1
        rw [rootPort_best hc hs hm] at hroot
        cases hroot
      · rintro ⟨hi, rfl⟩
        exact exists_treeLink hs (rootPort_ne_none hc hs hcon hm hi)
    simp only [treeGraph, ParentTree.graph, hrel]
  rw [hgraph]
  exact ParentTree.isTree hdecreases

/-- In a stable state all bridges hold the smallest identifier as their root, every
other bridge has one Root port and the root has none, every link has one Designated
end, and the links from Root to Designated ports form a spanning tree: their graph is
a tree on all bridges, and no two of them join the same bridges. -/
theorem stable_spanning_tree [Finite ι] (net : Network ι) (hc : net.Configured)
    (hs : net.Stable) (hcon : net.linkGraph.Connected) :
    ∃ m : ι, (∀ i, (net.id m).u ≤ (net.id i).u) ∧
      (∀ i, (net.rootPriority i).rootID = net.id m) ∧
      (∀ p ∈ (net.bridge m).ports, (net.ptp (m, p)).role ≠ .root) ∧
      (∀ i, i ≠ m → ∃! p, p ∈ (net.bridge i).ports ∧ (net.ptp (i, p)).role = .root) ∧
      (∀ e f, net.peer e = some f →
        ((net.ptp e).role = .designated ↔ (net.ptp f).role ≠ .designated)) ∧
      net.treeGraph.IsTree ∧
      (∀ e f e' f', net.TreeLink e f → net.TreeLink e' f' → s(e.1, f.1) = s(e'.1, f'.1) →
        e = e' ∧ f = f') := by
  have : Nonempty ι := hcon.nonempty
  obtain ⟨m, hm⟩ := Finite.exists_min fun i => (net.id i).u
  refine ⟨m, hm, rootID_agrees hc hs hcon hm, ?_, ?_, fun e f => designated_end hc hs,
    treeGraph_isTree hc hs hcon hm, fun e f e' f' => treeLink_unique hc hs⟩
  · intro p hp hroot
    have h := (role_root_iff hs hp).mp hroot
    rw [rootPort_best hc hs hm] at h
    cases h
  · intro i hi
    obtain ⟨p, hp⟩ := Option.ne_none_iff_exists'.mp (rootPort_ne_none hc hs hcon hm hi)
    have hmem := (rootPort_received hp).1
    refine ⟨p, ⟨hmem, (role_root_iff hs hmem).mpr hp⟩, ?_⟩
    rintro q ⟨hq, hroot⟩
    exact Option.some.inj (((role_root_iff hs hq).mp hroot).symm.trans hp)

/-! ## Two bridges with two links -/

/-- Identifier of the first bridge, the root, and of the second. -/
def pairId (second : Bool) : BridgeIdentifier := ⟨0x8000, if second then 2 else 1⟩

/-- What a bridge announces on its port `p`: its own root, or the first bridge. -/
def pairDesignated (second : Bool) (p : PortRef) : PortPriorityVector where
  rRootID := pairId second
  intRootPathCost := 0
  designatedBridgeID := pairId second
  designatedPortID := 0x8000 + p.toUInt16
  rootID := pairId false
  extRootPathCost := if second then 20000 else 0

/-- The first bridge is Designated on both links; the second has its Root port on the
link between the ports 1 and an Alternate port on the other link. -/
def pairBridge (second : Bool) : Bridge where
  ports := [1, 2]
  trees := [0]
  bridgeEnabled := true
  forceProtocolVersion := .rstp
  tree := fun _ =>
    { bridgeIdentifier := pairId second
      bridgePriority := ownPriority (pairId second) 0
      rootPriority :=
        if second then
          { pairDesignated false 1 with rRootID := pairId true, extRootPathCost := 20000 }
        else ownPriority (pairId false) 0
      rootPortId := if second then 0x8001 else 0 }
  port := fun p =>
    { portNumber := p.toUInt16, portEnabled := true, sendRSTP := true
      externalPortPathCost := 20000 }
  ptp := fun p _ =>
    let role : Role := if !second then .designated else if p = 1 then .root else .alternate
    { infoIs := if second then .received else .mine
      portPriority := pairDesignated false p
      designatedPriority := pairDesignated second p
      portId := 0x8000 + p.toUInt16
      role := role, selectedRole := role, selected := true, internalPortPathCost := 20000 }

def pairNetwork : Network Bool where
  bridge := pairBridge
  peer := fun e => if e.2 = 1 ∨ e.2 = 2 then some (!e.1, e.2) else none
  peer_mem := by
    rintro ⟨i, p⟩ f h
    by_cases hp : p = 1 ∨ p = 2
    · simpa [pairBridge] using hp
    · simp [hp] at h
  peer_symm := by
    rintro ⟨i, p⟩ f h
    by_cases hp : p = 1 ∨ p = 2
    · obtain rfl : (!i, p) = f := by simpa [hp] using h
      simp [hp]
    · simp [hp] at h
  peer_ne := by
    rintro ⟨i, p⟩ f h rfl
    by_cases hp : p = 1 ∨ p = 2
    · simp [hp] at h
    · simp [hp] at h

theorem pairNetwork_configured : pairNetwork.Configured where
  distinct := by decide
  enabled := by decide
  unrestricted := by decide
  unsaturated := by decide
  own := by decide
  externalCost := by decide
  internalCost := by decide

theorem pairNetwork_peer {e f : End Bool} (h : pairNetwork.peer e = some f) :
    (e.2 = 1 ∨ e.2 = 2) ∧ f = (!e.1, e.2) := by
  by_cases hp : e.2 = 1 ∨ e.2 = 2
  · have heq : some (!e.1, e.2) = some f := by simpa [pairNetwork, hp] using h
    exact ⟨hp, (Option.some.inj heq).symm⟩
  · simp [pairNetwork, hp] at h

theorem pairNetwork_stable : pairNetwork.Stable where
  root := by decide
  selected := by decide
  settled := by decide
  received := by
    rintro ⟨i, p⟩ f h
    obtain ⟨hp, rfl⟩ := pairNetwork_peer h
    have hp' : p = 1 ∨ p = 2 := hp
    rcases hp' with rfl | rfl <;> cases i <;> decide
  carried := by
    rintro ⟨i, p⟩ f h
    obtain ⟨hp, rfl⟩ := pairNetwork_peer h
    have hp' : p = 1 ∨ p = 2 := hp
    rcases hp' with rfl | rfl <;> cases i <;> decide
  unlinked := by decide

theorem pairNetwork_connected : pairNetwork.linkGraph.Connected := by
  have hadj : pairNetwork.linkGraph.Adj false true :=
    (SimpleGraph.fromRel_adj _ _ _).mpr ⟨by decide, Or.inl ⟨1, 1, rfl⟩⟩
  refine ⟨?_⟩
  intro i j
  cases i <;> cases j
  · exact .rfl
  · exact hadj.reachable
  · exact hadj.symm.reachable
  · exact .rfl

theorem pairNetwork_spanning_tree :
    pairNetwork.Configured ∧ pairNetwork.Stable ∧ pairNetwork.linkGraph.Connected ∧
      pairNetwork.treeGraph.IsTree := by
  obtain ⟨m, -, -, -, -, -, htree, -⟩ := stable_spanning_tree pairNetwork pairNetwork_configured
    pairNetwork_stable pairNetwork_connected
  exact ⟨pairNetwork_configured, pairNetwork_stable, pairNetwork_connected, htree⟩

end Network

end Mstpd
