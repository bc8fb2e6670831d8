import Mathlib.Combinatorics.SimpleGraph.Acyclic

/-!
# Trees given by parents

Every vertex except one root has a parent of smaller rank. Joining each vertex to
its parent gives a tree.
-/

namespace ParentTree

variable {V : Type*} {root : V} {parent : V → V} {rank : V → Nat}

/-- Each vertex apart from the root is joined to its parent. -/
def graph (root : V) (parent : V → V) : SimpleGraph V :=
  SimpleGraph.fromRel fun v w => v ≠ root ∧ parent v = w

theorem adj_parent (decreases : ∀ v, v ≠ root → rank (parent v) < rank v) {v : V}
    (hv : v ≠ root) : (graph root parent).Adj v (parent v) := by
  refine (SimpleGraph.fromRel_adj _ _ _).mpr ⟨fun h => ?_, Or.inl ⟨hv, rfl⟩⟩
  have hlt := decreases v hv
  rw [← h] at hlt
  exact absurd hlt (lt_irrefl _)

theorem reachable_root (decreases : ∀ v, v ≠ root → rank (parent v) < rank v) (v : V) :
    (graph root parent).Reachable v root := by
  induction hn : rank v using Nat.strong_induction_on generalizing v with
  | _ n ih =>
    by_cases hv : v = root
    · exact hv ▸ .rfl
    · have hlt : rank (parent v) < n := hn ▸ decreases v hv
      exact (adj_parent decreases hv).reachable.trans (ih _ hlt (parent v) rfl)

theorem connected (decreases : ∀ v, v ≠ root → rank (parent v) < rank v) :
    (graph root parent).Connected where
  preconnected v w := (reachable_root decreases v).trans (reachable_root decreases w).symm
  nonempty := ⟨root⟩

/-- The edge of a vertex to its parent. -/
def parentEdge (decreases : ∀ v, v ≠ root → rank (parent v) < rank v) (v : {v // v ≠ root}) :
    (graph root parent).edgeSet :=
  ⟨s(v.1, parent v.1), adj_parent decreases v.2⟩

theorem parentEdge_bijective (decreases : ∀ v, v ≠ root → rank (parent v) < rank v) :
    Function.Bijective (parentEdge decreases) := by
  constructor
  · rintro ⟨v, hv⟩ ⟨w, hw⟩ h
    have hedge : s(v, parent v) = s(w, parent w) := congrArg Subtype.val h
    rcases Sym2.eq_iff.mp hedge with ⟨rfl, -⟩ | ⟨hvw, hwv⟩
    · rfl
    · have h1 := decreases v hv
      have h2 := decreases w hw
      rw [hwv] at h1
      rw [← hvw] at h2
      omega
  · rintro ⟨e, he⟩
    induction e using Sym2.ind with
    | _ v w =>
      have hadj : (graph root parent).Adj v w := he
      rcases (SimpleGraph.fromRel_adj _ _ _).mp hadj with ⟨-, ⟨hv, rfl⟩ | ⟨hw, rfl⟩⟩
      · exact ⟨⟨v, hv⟩, rfl⟩
      · exact ⟨⟨w, hw⟩, Subtype.ext Sym2.eq_swap⟩

theorem isTree [Finite V] (decreases : ∀ v, v ≠ root → rank (parent v) < rank v) :
    (graph root parent).IsTree := by
  classical
  refine SimpleGraph.isTree_iff_connected_and_card.mpr ⟨connected decreases, ?_⟩
  have hedges : Nat.card (graph root parent).edgeSet = Nat.card {v // v ≠ root} :=
    (Nat.card_congr (Equiv.ofBijective _ (parentEdge_bijective decreases))).symm
  rw [hedges, ← Finite.card_option]
  exact Nat.card_congr (Equiv.optionSubtypeNe root)

end ParentTree
