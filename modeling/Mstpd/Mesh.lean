import Mathlib.Data.List.Nodup
import Mstpd.Trace

/-!
# The mesh of ports and trees

Every per-tree port is an anchor in two lists, that of its port and that of its tree.
The model of the bridge addresses per-tree ports by port and MSTID; here the lists are
kept as the source keeps them, with handles for the allocated objects, and the
operations that change them are followed link by link.
-/

namespace Mstpd

/-- A `per_tree_port_t *` or a `tree_t *`. -/
abbrev Handle := Nat

/-- The members `port`, `tree` and `MSTID` of a per-tree port. -/
structure MeshNode where
  port : PortRef
  tree : Handle
  mstid : Mstid
  deriving DecidableEq

structure Mesh where
  trees : List Handle := []
  ports : List PortRef := []
  /-- `tree->MSTID` -/
  mstid : Handle → Mstid := fun _ => 0
  node : Handle → MeshNode := fun _ => ⟨0, 0, 0⟩
  /-- `prt->trees` -/
  portTrees : PortRef → List Handle := fun _ => []
  /-- `tree->ports` -/
  treePorts : Handle → List Handle := fun _ => []
  /-- The address that the next allocation returns. -/
  fresh : Handle := 0

/-! ## Anchors -/

/-- `list_del`: an anchor is in one list at most, and that list loses it. -/
def listDel (n : Handle) (l : List Handle) : List Handle := l.filter (· ≠ n)

/-- `list_add`: the list that holds the anchor `head` gets the new one behind it. -/
def listAdd (new head : Handle) (l : List Handle) : List Handle :=
  l.flatMap fun n => if n = head then [n, new] else [n]

/-- `list_add_tail` -/
def listAddTail (new : Handle) (l : List Handle) : List Handle := l ++ [new]

theorem listAdd_of_notMem {new head : Handle} {l : List Handle} (h : head ∉ l) :
    listAdd new head l = l := by
  induction l with
  | nil => rfl
  | cons a l ih =>
    obtain ⟨hne, hl⟩ : head ≠ a ∧ head ∉ l := by simpa using h
    rw [listAdd, List.flatMap_cons, if_neg (Ne.symm hne)]
    exact congrArg (a :: ·) (ih hl)

theorem mem_listAdd {new head n : Handle} {l : List Handle} (h : n ∈ listAdd new head l) :
    n ∈ l ∨ n = new := by
  obtain ⟨a, ha, hn⟩ := List.mem_flatMap.mp h
  split at hn
  · simp only [List.mem_cons, List.not_mem_nil, or_false] at hn
    rcases hn with rfl | rfl
    · exact Or.inl ha
    · exact Or.inr rfl
  · exact Or.inl (List.mem_singleton.mp hn ▸ ha)

theorem listAdd_append {new head : Handle} {a b : List Handle} (ha : head ∉ a) (hb : head ∉ b) :
    listAdd new head (a ++ head :: b) = a ++ head :: new :: b := by
  have hsplit : listAdd new head (a ++ head :: b) =
      listAdd new head a ++ ([head, new] ++ listAdd new head b) := by
    simp [listAdd, List.flatMap_append]
  rw [hsplit, listAdd_of_notMem ha, listAdd_of_notMem hb]
  rfl

namespace Mesh

/-- Both anchors of a per-tree port taken out of their lists. -/
def unlink (m : Mesh) (n : Handle) : Mesh :=
  { m with
    portTrees := fun q => listDel n (m.portTrees q)
    treePorts := fun t => listDel n (m.treePorts t) }

/-- `list_for_each_entry_safe` with a body that unlinks and frees the entry. -/
def unlinkAll (l : List Handle) (m : Mesh) : Mesh := l.foldl unlink m

theorem unlinkAll_eq (l : List Handle) (m : Mesh) :
    unlinkAll l m =
      { m with
        portTrees := fun q => (m.portTrees q).filter (· ∉ l)
        treePorts := fun t => (m.treePorts t).filter (· ∉ l) } := by
  induction l generalizing m with
  | nil => simp [unlinkAll]
  | cons a l ih =>
    rw [unlinkAll, List.foldl_cons]
    refine (ih (m.unlink a)).trans ?_
    simp only [unlink, listDel, List.filter_filter, Mesh.mk.injEq, true_and, and_true]
    constructor
    · funext q
      refine List.filter_congr fun x _ => ?_
      simp [Bool.and_comm]
    · funext t
      refine List.filter_congr fun x _ => ?_
      simp [Bool.and_comm]

/-! ## The operations -/

/-- The loop of `MSTP_IN_port_create_and_add_tail` over the trees; `i` numbers the
allocations. A failure unlinks what the port's list holds by then. -/
def linkTrees (calloc : Nat → Bool) (p : PortRef) : Nat → List Handle → Mesh → Mesh × Bool
  | _, [], m => (m, true)
  | i, t :: rest, m =>
    if calloc i then
      let n := m.fresh
      linkTrees calloc p (i + 1) rest
        { m with
          fresh := n + 1
          node := fun k => if k = n then ⟨p, t, m.mstid t⟩ else m.node k
          portTrees := fun q => if q = p then listAddTail n (m.portTrees q) else m.portTrees q
          treePorts := fun s => if s = t then listAddTail n (m.treePorts s) else m.treePorts s }
    else (unlinkAll (m.portTrees p) m, false)

/-- `MSTP_IN_bridge_create` -/
def bridgeCreate : Mesh := { trees := listAddTail 0 [], fresh := 1 }

def portCreateAndAddTail (calloc : Nat → Bool) (p : PortRef) (m : Mesh) : Mesh × Bool :=
  let m := { m with portTrees := fun q => if q = p then [] else m.portTrees q }
  match linkTrees calloc p 0 m.trees m with
  | (m, false) => (m, false)
  | (m, true) => ({ m with ports := listAddTail p m.ports }, true)

def deletePort (p : PortRef) (m : Mesh) : Mesh :=
  let m := unlinkAll (m.portTrees p) m
  { m with ports := listDel p m.ports }

/-- `tree_after` and the loop that looks for it. -/
def treeAfter (m : Mesh) (mstid : Mstid) : Option Handle :=
  m.trees.foldl (fun after t => if m.mstid t < mstid then some t else after) none

/-- The loop of `MSTP_IN_create_msti` over the ports of `tree_after`. -/
def linkPorts (calloc : Nat → Bool) (newTree : Handle) :
    Nat → List Handle → Mesh → Mesh × Bool
  | _, [], m => (m, true)
  | i, after :: rest, m =>
    if calloc i then
      let n := m.fresh
      linkPorts calloc newTree (i + 1) rest
        { m with
          fresh := n + 1
          node := fun k =>
            if k = n then ⟨(m.node after).port, newTree, m.mstid newTree⟩ else m.node k
          portTrees := fun q => listAdd n after (m.portTrees q)
          treePorts := fun s =>
            if s = newTree then listAddTail n (m.treePorts s) else m.treePorts s }
    else (unlinkAll (m.treePorts newTree) m, false)

def createMsti (calloc : Nat → Bool) (mstid : Mstid) (m : Mesh) : Mesh × Bool :=
  if mstid.toNat < 1 ∨ maxMstid < mstid.toNat then (m, false)
  else if m.trees.any fun t => m.mstid t == mstid then (m, true)
  else
    match m.treeAfter mstid with
    | none => (m, false)
    | some after =>
      if maxImplementationMstis < m.trees.length then (m, false)
      else if !calloc 0 then (m, false)
      else
        let newTree := m.fresh
        let m :=
          { m with
            fresh := newTree + 1
            mstid := fun t => if t = newTree then mstid else m.mstid t
            treePorts := fun t => if t = newTree then [] else m.treePorts t }
        match linkPorts calloc newTree 1 (m.treePorts after) m with
        | (m, false) => (m, false)
        | (m, true) => ({ m with trees := listAdd newTree after m.trees }, true)

/-- `MSTP_IN_delete_msti`, told whether FIDs are allocated to the MSTID. -/
def deleteMsti (hasFids : Bool) (mstid : Mstid) (m : Mesh) : Mesh × Bool :=
  if mstid.toNat < 1 ∨ maxMstid < mstid.toNat then (m, false)
  else if hasFids then (m, false)
  else
    match m.trees.find? fun t => m.mstid t == mstid with
    | none => (m, true)
    | some tree =>
      let m := { m with trees := listDel tree m.trees }
      (unlinkAll (m.treePorts tree) m, true)

/-! ## Well-formedness -/

/-- The entries of a port's list, as its members describe them. -/
def portView (m : Mesh) (p : PortRef) : List MeshNode := (m.portTrees p).map m.node

def treeView (m : Mesh) (t : Handle) : List MeshNode := (m.treePorts t).map m.node

structure WellFormed (m : Mesh) : Prop where
  cist : (m.trees.map m.mstid).head? = some 0
  sorted : (m.trees.map m.mstid).Pairwise (· < ·)
  count : m.trees.length ≤ maxImplementationMstis + 1
  ports : m.ports.Nodup
  portView : ∀ p ∈ m.ports, m.portView p = m.trees.map fun t => ⟨p, t, m.mstid t⟩
  treeView : ∀ t ∈ m.trees, m.treeView t = m.ports.map fun p => ⟨p, t, m.mstid t⟩
  /-- An entry of a port is the entry that its tree has for the port. -/
  linked : ∀ p ∈ m.ports, ∀ n ∈ m.portTrees p, n ∈ m.treePorts (m.node n).tree
  allocated : (∀ t ∈ m.trees, t < m.fresh) ∧ ∀ t ∈ m.trees, ∀ n ∈ m.treePorts t, n < m.fresh

/-- The lists of both meshes, and what they lead to, are the same. -/
structure SameLists (m m' : Mesh) : Prop where
  trees : m'.trees = m.trees
  ports : m'.ports = m.ports
  mstid : ∀ t ∈ m.trees, m'.mstid t = m.mstid t
  portTrees : ∀ p ∈ m.ports, m'.portTrees p = m.portTrees p
  treePorts : ∀ t ∈ m.trees, m'.treePorts t = m.treePorts t
  node : ∀ t ∈ m.trees, ∀ n ∈ m.treePorts t, m'.node n = m.node n
  fresh : m.fresh ≤ m'.fresh

theorem SameLists.refl (m : Mesh) : SameLists m m :=
  ⟨rfl, rfl, fun _ _ => rfl, fun _ _ => rfl, fun _ _ => rfl, fun _ _ _ _ => rfl, le_refl _⟩

section

variable {m : Mesh} (hm : m.WellFormed)
include hm

theorem WellFormed.trees_nodup : m.trees.Nodup := by
  refine List.Nodup.of_map m.mstid ?_
  exact hm.sorted.imp fun h => UInt16.ne_of_lt h

theorem WellFormed.mstid_inj {s t : Handle} (hs : s ∈ m.trees) (ht : t ∈ m.trees)
    (h : m.mstid s = m.mstid t) : s = t := by
  have hnodup : (m.trees.map m.mstid).Nodup :=
    hm.sorted.imp fun h => UInt16.ne_of_lt h
  exact List.inj_on_of_nodup_map hnodup hs ht h

/-- The members of an entry of a port. -/
theorem WellFormed.node_of_port {p : PortRef} (hp : p ∈ m.ports) {n : Handle}
    (hn : n ∈ m.portTrees p) :
    (m.node n).tree ∈ m.trees ∧ m.node n = ⟨p, (m.node n).tree, m.mstid (m.node n).tree⟩ := by
  have hmem : m.node n ∈ m.portView p := List.mem_map_of_mem hn
  rw [hm.portView p hp] at hmem
  obtain ⟨t, ht, heq⟩ := List.mem_map.mp hmem
  rw [← heq]
  exact ⟨ht, rfl⟩

theorem WellFormed.node_of_tree {t : Handle} (ht : t ∈ m.trees) {n : Handle}
    (hn : n ∈ m.treePorts t) :
    (m.node n).port ∈ m.ports ∧ m.node n = ⟨(m.node n).port, t, m.mstid t⟩ := by
  have hmem : m.node n ∈ m.treeView t := List.mem_map_of_mem hn
  rw [hm.treeView t ht] at hmem
  obtain ⟨p, hp, heq⟩ := List.mem_map.mp hmem
  rw [← heq]
  exact ⟨hp, rfl⟩

/-- The members tell the entries of a tree apart. -/
theorem WellFormed.tree_inj {t : Handle} (ht : t ∈ m.trees) {n k : Handle}
    (hn : n ∈ m.treePorts t) (hk : k ∈ m.treePorts t) (h : (m.node n).port = (m.node k).port) :
    n = k := by
  have hnodup : (m.treeView t).Nodup := by
    rw [hm.treeView t ht]
    exact hm.ports.map fun p q hpq => congrArg MeshNode.port hpq
  refine List.inj_on_of_nodup_map hnodup hn hk ?_
  rw [(hm.node_of_tree ht hn).2, (hm.node_of_tree ht hk).2, h]

theorem WellFormed.port_inj {p : PortRef} (hp : p ∈ m.ports) {n k : Handle}
    (hn : n ∈ m.portTrees p) (hk : k ∈ m.portTrees p) (h : (m.node n).tree = (m.node k).tree) :
    n = k := by
  have hnodup : (m.portView p).Nodup := by
    rw [hm.portView p hp]
    exact hm.trees_nodup.map fun s t hst => congrArg MeshNode.tree hst
  refine List.inj_on_of_nodup_map hnodup hn hk ?_
  rw [(hm.node_of_port hp hn).2, (hm.node_of_port hp hk).2, h]

theorem WellFormed.exists_node {p : PortRef} (hp : p ∈ m.ports) {t : Handle} (ht : t ∈ m.trees) :
    ∃ n ∈ m.portTrees p, m.node n = ⟨p, t, m.mstid t⟩ := by
  have hmem : (⟨p, t, m.mstid t⟩ : MeshNode) ∈ m.portView p := by
    rw [hm.portView p hp]
    exact List.mem_map_of_mem ht
  obtain ⟨n, hn, heq⟩ := List.mem_map.mp hmem
  exact ⟨n, hn, heq⟩

/-- Both lists hold the same entry for a port and a tree. -/
theorem WellFormed.mem_iff {p : PortRef} (hp : p ∈ m.ports) {t : Handle} (ht : t ∈ m.trees)
    {n : Handle} : n ∈ m.portTrees p ∧ (m.node n).tree = t ↔
      n ∈ m.treePorts t ∧ (m.node n).port = p := by
  have hforth : ∀ k, k ∈ m.portTrees p → (m.node k).tree = t →
      k ∈ m.treePorts t ∧ (m.node k).port = p := by
    intro k hk hkt
    refine ⟨hkt ▸ hm.linked p hp k hk, ?_⟩
    rw [(hm.node_of_port hp hk).2]
  refine ⟨fun h => hforth n h.1 h.2, fun h => ?_⟩
  obtain ⟨k, hk, hnode⟩ := hm.exists_node hp ht
  have hkt : (m.node k).tree = t := by rw [hnode]
  have hback := hforth k hk hkt
  obtain rfl : n = k := hm.tree_inj ht h.1 hback.1 (h.2.trans hback.2.symm)
  exact ⟨hk, hkt⟩

theorem WellFormed.port_lt {p : PortRef} (hp : p ∈ m.ports) {n : Handle}
    (hn : n ∈ m.portTrees p) : n < m.fresh :=
  hm.allocated.2 _ (hm.node_of_port hp hn).1 n (hm.linked p hp n hn)

end

theorem WellFormed.of_sameLists {m m' : Mesh} (hm : m.WellFormed) (h : SameLists m m') :
    m'.WellFormed := by
  have hmstid : m'.trees.map m'.mstid = m.trees.map m.mstid := by
    rw [h.trees]
    exact List.map_congr_left h.mstid
  have hnode : ∀ p ∈ m.ports, ∀ n ∈ m.portTrees p, m'.node n = m.node n := fun p hp n hn =>
    h.node _ (hm.node_of_port hp hn).1 n (hm.linked p hp n hn)
  refine ⟨hmstid ▸ hm.cist, hmstid ▸ hm.sorted, h.trees ▸ hm.count, h.ports ▸ hm.ports, ?_, ?_, ?_,
    ?_, ?_⟩
  · intro p hp
    rw [h.ports] at hp
    rw [Mesh.portView, h.portTrees p hp, List.map_congr_left (hnode p hp), h.trees]
    refine (hm.portView p hp).trans (List.map_congr_left fun t ht => ?_)
    rw [h.mstid t ht]
  · intro t ht
    rw [h.trees] at ht
    rw [Mesh.treeView, h.treePorts t ht, List.map_congr_left (h.node t ht), h.ports, h.mstid t ht]
    exact hm.treeView t ht
  · intro p hp n hn
    rw [h.ports] at hp
    rw [h.portTrees p hp] at hn
    rw [hnode p hp n hn, h.treePorts _ (hm.node_of_port hp hn).1]
    exact hm.linked p hp n hn
  · intro t ht
    exact lt_of_lt_of_le (hm.allocated.1 t (h.trees ▸ ht)) h.fresh
  · intro t ht n hn
    rw [h.trees] at ht
    rw [h.treePorts t ht] at hn
    exact lt_of_lt_of_le (hm.allocated.2 t ht n hn) h.fresh

/-! ## A new port -/

/-- The trees `done` have an entry for the port, nothing else has changed. -/
structure PortGrowth (m₀ : Mesh) (p : PortRef) (done : List Handle) (m : Mesh) : Prop where
  trees : m.trees = m₀.trees
  ports : m.ports = m₀.ports
  mstid : m.mstid = m₀.mstid
  fresh : m₀.fresh ≤ m.fresh
  old : ∀ n < m₀.fresh, m.node n = m₀.node n
  others : ∀ q ≠ p, m.portTrees q = m₀.portTrees q
  view : (m.portTrees p).map m.node = done.map fun t => ⟨p, t, m₀.mstid t⟩
  new : ∀ n ∈ m.portTrees p, m₀.fresh ≤ n ∧ n < m.fresh
  treeOld : ∀ t, t ∉ done → m.treePorts t = m₀.treePorts t
  treeNew : ∀ t ∈ done, ∃ n ∈ m.portTrees p, m.node n = ⟨p, t, m₀.mstid t⟩ ∧
    m.treePorts t = m₀.treePorts t ++ [n]

theorem PortGrowth.step {m₀ m : Mesh} {p : PortRef} {done : List Handle} {t : Handle}
    (h : PortGrowth m₀ p done m) (ht : t ∉ done) :
    PortGrowth m₀ p (done ++ [t])
      { m with
        fresh := m.fresh + 1
        node := fun k => if k = m.fresh then ⟨p, t, m.mstid t⟩ else m.node k
        portTrees := fun q =>
          if q = p then listAddTail m.fresh (m.portTrees q) else m.portTrees q
        treePorts := fun s =>
          if s = t then listAddTail m.fresh (m.treePorts s) else m.treePorts s } := by
  have hfresh := h.fresh
  have hkeep : ∀ n ∈ m.portTrees p,
      (if n = m.fresh then (⟨p, t, m.mstid t⟩ : MeshNode) else m.node n) = m.node n := fun n hn =>
    if_neg (Nat.ne_of_lt (h.new n hn).2)
  constructor
  · exact h.trees
  · exact h.ports
  · exact h.mstid
  · exact Nat.le_succ_of_le hfresh
  · intro n hn
    dsimp only
    rw [if_neg (Nat.ne_of_lt (lt_of_lt_of_le hn hfresh))]
    exact h.old n hn
  · intro q hq
    dsimp only
    rw [if_neg hq]
    exact h.others q hq
  · dsimp only
    rw [if_pos rfl, listAddTail, List.map_append, List.map_append, List.map_congr_left hkeep,
      h.view, h.mstid]
    simp
  · intro n hn
    dsimp only at hn ⊢
    rw [if_pos rfl, listAddTail, List.mem_append, List.mem_singleton] at hn
    rcases hn with hn | rfl
    · exact ⟨(h.new n hn).1, Nat.lt_succ_of_lt (h.new n hn).2⟩
    · exact ⟨hfresh, Nat.lt_succ_self _⟩
  · intro s hs
    rw [List.mem_append, List.mem_singleton, not_or] at hs
    dsimp only
    rw [if_neg hs.2]
    exact h.treeOld s hs.1
  · intro s hs
    dsimp only
    rw [if_pos rfl, listAddTail]
    rcases List.mem_append.mp hs with hs | hs
    · have hne : s ≠ t := fun heq => ht (heq ▸ hs)
      obtain ⟨n, hn, hnode, hlist⟩ := h.treeNew s hs
      refine ⟨n, List.mem_append_left _ hn, ?_, ?_⟩
      · rw [hkeep n hn]
        exact hnode
      · rw [if_neg hne]
        exact hlist
    · obtain rfl := List.mem_singleton.mp hs
      refine ⟨m.fresh, List.mem_append_right _ List.mem_cons_self, ?_, ?_⟩
      · rw [if_pos rfl, h.mstid]
      · rw [if_pos rfl, listAddTail, h.treeOld s ht]

/-- The loop ends with all trees linked, or unlinks what it has linked so far. -/
theorem linkTrees_spec (calloc : Nat → Bool) {m₀ : Mesh} {p : PortRef} (i : Nat)
    {done : List Handle} (rest : List Handle) {m : Mesh} (h : PortGrowth m₀ p done m)
    (hnodup : (done ++ rest).Nodup) :
    (∃ m', linkTrees calloc p i rest m = (m', true) ∧ PortGrowth m₀ p (done ++ rest) m' ∧
      (List.range' i rest.length).all calloc = true) ∨
    (∃ d m', linkTrees calloc p i rest m = (unlinkAll (m'.portTrees p) m', false) ∧
      PortGrowth m₀ p d m' ∧ (List.range' i rest.length).all calloc = false) := by
  induction rest generalizing done m i with
  | nil => exact Or.inl ⟨m, rfl, by simpa using h, rfl⟩
  | cons t rest ih =>
    have ht : t ∉ done := by
      intro hmem
      exact (List.nodup_append.mp hnodup).2.2 t hmem t List.mem_cons_self rfl
    have hnodup' : ((done ++ [t]) ++ rest).Nodup := by simpa using hnodup
    have hgrow := h.step ht
    rw [linkTrees]
    split
    · rename_i hcalloc
      rcases ih (i + 1) hgrow hnodup' with ⟨m', heq, hm', hall⟩ | ⟨d, m', heq, hm', hall⟩
      · refine Or.inl ⟨m', heq, by simpa using hm', ?_⟩
        rw [List.length_cons, List.range'_succ, List.all_cons, hcalloc, hall]
        rfl
      · refine Or.inr ⟨d, m', heq, hm', ?_⟩
        rw [List.length_cons, List.range'_succ, List.all_cons, hcalloc, hall]
        rfl
    · rename_i hcalloc
      refine Or.inr ⟨done, m, rfl, h, ?_⟩
      rw [List.length_cons, List.range'_succ, List.all_cons]
      simp [hcalloc]

/-- The mesh before the loop: the list of the new port is empty. -/
theorem PortGrowth.start (m : Mesh) (p : PortRef) :
    PortGrowth m p [] { m with portTrees := fun q => if q = p then [] else m.portTrees q } where
  trees := rfl
  ports := rfl
  mstid := rfl
  fresh := le_refl _
  old _ _ := rfl
  others q hq := if_neg hq
  view := by simp
  new n hn := by simp at hn
  treeOld _ _ := rfl
  treeNew t ht := absurd ht List.not_mem_nil

/-- Unlinking the new entries leaves the lists as they were. -/
theorem PortGrowth.rollback {m₀ m : Mesh} {p : PortRef} {done : List Handle} (hm : m₀.WellFormed)
    (hp : p ∉ m₀.ports) (h : PortGrowth m₀ p done m) :
    SameLists m₀ (unlinkAll (m.portTrees p) m) := by
  have hold : ∀ n < m₀.fresh, n ∉ m.portTrees p := fun n hn hmem =>
    absurd (h.new n hmem).1 (Nat.not_le_of_lt hn)
  rw [unlinkAll_eq]
  refine ⟨h.trees, h.ports, fun t _ => by rw [h.mstid], fun q hq => ?_, fun t ht => ?_,
    fun t ht n hn => h.old n (hm.allocated.2 t ht n hn), h.fresh⟩
  · have hne : q ≠ p := fun heq => hp (heq ▸ hq)
    dsimp only
    rw [h.others q hne]
    refine List.filter_eq_self.mpr fun n hn => ?_
    simpa using hold n (hm.port_lt hq hn)
  · have hkeep : (m₀.treePorts t).filter (· ∉ m.portTrees p) = m₀.treePorts t :=
      List.filter_eq_self.mpr fun n hn => by simpa using hold n (hm.allocated.2 t ht n hn)
    dsimp only
    by_cases hdone : t ∈ done
    · obtain ⟨n, hn, -, hlist⟩ := h.treeNew t hdone
      rw [hlist, List.filter_append, hkeep]
      simp [hn]
    · rw [h.treeOld t hdone, hkeep]

theorem PortGrowth.wellFormed {m₀ m : Mesh} {p : PortRef} (hm : m₀.WellFormed) (hp : p ∉ m₀.ports)
    (h : PortGrowth m₀ p m₀.trees m) : { m with ports := listAddTail p m.ports }.WellFormed := by
  have hold : ∀ q ∈ m₀.ports, m.portTrees q = m₀.portTrees q := fun q hq =>
    h.others q fun heq => hp (heq ▸ hq)
  have hmem : ∀ q ∈ m₀.ports ++ [p], q ∈ m₀.ports ∨ q = p := fun q hq => by simpa using hq
  have hports : listAddTail p m.ports = m₀.ports ++ [p] := by rw [h.ports, listAddTail]
  constructor
  · dsimp only
    rw [h.trees, h.mstid]
    exact hm.cist
  · dsimp only
    rw [h.trees, h.mstid]
    exact hm.sorted
  · dsimp only
    rw [h.trees]
    exact hm.count
  · dsimp only
    rw [hports]
    exact List.nodup_append.mpr ⟨hm.ports, List.nodup_singleton p, fun a ha b hb heq =>
      hp (List.mem_singleton.mp hb ▸ heq ▸ ha)⟩
  · intro q hq
    dsimp only at hq ⊢
    rw [hports] at hq
    rw [Mesh.portView, h.trees, h.mstid]
    rcases hmem q hq with hq | rfl
    · dsimp only
      rw [hold q hq, ← hm.portView q hq, Mesh.portView]
      exact List.map_congr_left fun n hn => h.old n (hm.port_lt hq hn)
    · exact h.view
  · intro t ht
    dsimp only at ht ⊢
    rw [h.trees] at ht
    obtain ⟨n, -, hnode, hlist⟩ := h.treeNew t ht
    have hview : (m₀.treePorts t).map m.node = m₀.ports.map fun q => ⟨q, t, m₀.mstid t⟩ := by
      rw [← hm.treeView t ht, Mesh.treeView]
      exact List.map_congr_left fun k hk => h.old k (hm.allocated.2 t ht k hk)
    rw [Mesh.treeView, hports, h.mstid]
    dsimp only
    rw [hlist, List.map_append, List.map_append, hview]
    simp [hnode]
  · intro q hq n hn
    dsimp only at hq hn ⊢
    rw [hports] at hq
    rcases hmem q hq with hq | rfl
    · rw [hold q hq] at hn
      rw [h.old n (hm.port_lt hq hn)]
      have hlinked := hm.linked q hq n hn
      obtain ⟨k, -, -, hlist⟩ := h.treeNew _ (hm.node_of_port hq hn).1
      rw [hlist]
      exact List.mem_append_left _ hlinked
    · have hnode : m.node n ∈ (m.portTrees q).map m.node := List.mem_map_of_mem hn
      rw [h.view] at hnode
      obtain ⟨t, ht, heq⟩ := List.mem_map.mp hnode
      obtain ⟨k, hk, hknode, hlist⟩ := h.treeNew t ht
      have hinj : ((m.portTrees q).map m.node).Nodup := by
        rw [h.view]
        exact hm.trees_nodup.map fun s u hsu => congrArg MeshNode.tree hsu
      obtain rfl : n = k := List.inj_on_of_nodup_map hinj hn hk (heq.symm.trans hknode.symm)
      rw [hknode]
      dsimp only
      rw [hlist]
      exact List.mem_append_right _ List.mem_cons_self
  · refine ⟨fun t ht => ?_, fun t ht n hn => ?_⟩
    · dsimp only at ht ⊢
      exact lt_of_lt_of_le (hm.allocated.1 t (h.trees ▸ ht)) h.fresh
    · dsimp only at ht hn ⊢
      rw [h.trees] at ht
      obtain ⟨k, hk, -, hlist⟩ := h.treeNew t ht
      rw [hlist, List.mem_append, List.mem_singleton] at hn
      rcases hn with hn | rfl
      · exact lt_of_lt_of_le (hm.allocated.2 t ht n hn) h.fresh
      · exact (h.new n hk).2

/-- The two outcomes of `MSTP_IN_port_create_and_add_tail`. -/
theorem portCreateAndAddTail_spec (calloc : Nat → Bool) {m : Mesh} {p : PortRef}
    (hm : m.WellFormed) (hp : p ∉ m.ports) :
    (∃ m', portCreateAndAddTail calloc p m = (m', true) ∧ m'.WellFormed ∧
      m'.ports = m.ports ++ [p] ∧ m'.trees.map m'.mstid = m.trees.map m.mstid ∧
      (List.range m.trees.length).all calloc = true) ∨
    (∃ m', portCreateAndAddTail calloc p m = (m', false) ∧ SameLists m m' ∧
      (List.range m.trees.length).all calloc = false) := by
  have hspec := linkTrees_spec calloc 0 m.trees (PortGrowth.start m p)
    (by simpa using hm.trees_nodup)
  rw [← List.range_eq_range'] at hspec
  rcases hspec with ⟨m', heq, hgrow, hall⟩ | ⟨d, m', heq, hgrow, hall⟩
  · rw [List.nil_append] at hgrow
    refine Or.inl ⟨{ m' with ports := listAddTail p m'.ports }, ?_, hgrow.wellFormed hm hp, ?_, ?_,
      hall⟩
    · rw [portCreateAndAddTail]
      dsimp only
      rw [heq]
    · dsimp only
      rw [hgrow.ports, listAddTail]
    · dsimp only
      rw [hgrow.trees, hgrow.mstid]
  · refine Or.inr ⟨_, ?_, hgrow.rollback hm hp, hall⟩
    rw [portCreateAndAddTail]
    dsimp only
    rw [heq]

/-! ## Deletion -/

theorem map_filter_of_iff {α β : Type} {f : α → β} {P : α → Bool} {Q : β → Bool} {l : List α}
    (h : ∀ a ∈ l, P a = Q (f a)) : (l.filter P).map f = (l.map f).filter Q := by
  rw [List.filter_map]
  exact congrArg (List.map f) (List.filter_congr h)

theorem deletePort_wellFormed {m : Mesh} {p : PortRef} (hm : m.WellFormed) (hp : p ∈ m.ports) :
    (deletePort p m).WellFormed := by
  have hmem : ∀ q ∈ listDel p m.ports, q ∈ m.ports ∧ q ≠ p := fun q hq => by
    simpa [listDel] using hq
  have hother :
      ∀ q ∈ m.ports, q ≠ p → (m.portTrees q).filter (· ∉ m.portTrees p) = m.portTrees q := by
    intro q hq hne
    refine List.filter_eq_self.mpr fun n hn => ?_
    have hnot : n ∉ m.portTrees p := fun hn' => by
      have h₁ := congrArg MeshNode.port (hm.node_of_port hq hn).2
      have h₂ := congrArg MeshNode.port (hm.node_of_port hp hn').2
      exact hne (h₁.symm.trans h₂)
    simpa using hnot
  have hiff : ∀ t ∈ m.trees, ∀ n ∈ m.treePorts t, n ∈ m.portTrees p ↔ (m.node n).port = p := by
    intro t ht n hn
    have htree : (m.node n).tree = t := congrArg MeshNode.tree (hm.node_of_tree ht hn).2
    have h := hm.mem_iff hp ht (n := n)
    simp only [htree, and_true, hn, true_and] at h
    exact h
  rw [deletePort, unlinkAll_eq]
  refine ⟨hm.cist, hm.sorted, hm.count, hm.ports.filter _, ?_, ?_, ?_, hm.allocated.1, ?_⟩
  · intro q hq
    obtain ⟨hq, hne⟩ := hmem q hq
    rw [Mesh.portView]
    dsimp only
    rw [hother q hq hne]
    exact hm.portView q hq
  · intro t ht
    rw [Mesh.treeView]
    dsimp only
    rw [map_filter_of_iff (Q := fun x => decide (x.port ≠ p))]
    · have hview := hm.treeView t ht
      rw [Mesh.treeView] at hview
      rw [hview, List.filter_map, listDel]
      rfl
    · intro n hn
      simp only [hiff t ht n hn]
  · intro q hq n hn
    obtain ⟨hq, hne⟩ := hmem q hq
    dsimp only at hn ⊢
    rw [hother q hq hne] at hn
    refine List.mem_filter.mpr ⟨hm.linked q hq n hn, ?_⟩
    have hport : (m.node n).port = q := congrArg MeshNode.port (hm.node_of_port hq hn).2
    have hnot := (hiff _ (hm.node_of_port hq hn).1 n (hm.linked q hq n hn)).not
    rw [hport] at hnot
    simpa using hnot.mpr hne
  · intro t ht n hn
    exact hm.allocated.2 t ht n (List.mem_of_mem_filter hn)

/-- `MSTP_IN_delete_msti` for a tree that is not the first. -/
theorem removeTree_wellFormed {m : Mesh} {tree : Handle} (hm : m.WellFormed)
    (htree : tree ∈ m.trees) (hne : m.mstid tree ≠ 0) :
    (unlinkAll (m.treePorts tree) { m with trees := listDel tree m.trees }).WellFormed := by
  have hmem : ∀ t ∈ listDel tree m.trees, t ∈ m.trees ∧ t ≠ tree := fun t ht => by
    simpa [listDel] using ht
  have hother : ∀ t ∈ m.trees, t ≠ tree →
      (m.treePorts t).filter (· ∉ m.treePorts tree) = m.treePorts t := by
    intro t ht hne
    refine List.filter_eq_self.mpr fun n hn => ?_
    have hnot : n ∉ m.treePorts tree := fun hn' => by
      have h₁ := congrArg MeshNode.tree (hm.node_of_tree ht hn).2
      have h₂ := congrArg MeshNode.tree (hm.node_of_tree htree hn').2
      exact hne (h₁.symm.trans h₂)
    simpa using hnot
  have hiff :
      ∀ p ∈ m.ports, ∀ n ∈ m.portTrees p, n ∈ m.treePorts tree ↔ (m.node n).tree = tree := by
    intro p hp n hn
    have hport : (m.node n).port = p := congrArg MeshNode.port (hm.node_of_port hp hn).2
    have h := hm.mem_iff hp htree (n := n)
    simp only [hport, and_true, hn, true_and] at h
    exact h.symm
  rw [unlinkAll_eq]
  refine ⟨?_, ?_, ?_, hm.ports, ?_, ?_, ?_, ?_, ?_⟩
  · have hcist := hm.cist
    dsimp only
    cases htrees : m.trees with
    | nil => rw [htrees] at htree; cases htree
    | cons c rest =>
      rw [htrees] at hcist
      have hc : c ≠ tree := by
        rintro rfl
        exact hne (by simpa using hcist)
      simpa [listDel, hc] using hcist
  · exact hm.sorted.sublist (List.filter_sublist.map m.mstid)
  · exact le_trans (List.length_filter_le _ _) hm.count
  · intro p hp
    rw [Mesh.portView]
    dsimp only
    rw [map_filter_of_iff (Q := fun x => decide (x.tree ≠ tree))]
    · have hview := hm.portView p hp
      rw [Mesh.portView] at hview
      rw [hview, List.filter_map, listDel]
      rfl
    · intro n hn
      simp only [hiff p hp n hn]
  · intro t ht
    obtain ⟨ht, hne'⟩ := hmem t ht
    rw [Mesh.treeView]
    dsimp only
    rw [hother t ht hne']
    exact hm.treeView t ht
  · intro p hp n hn
    dsimp only at hn ⊢
    obtain ⟨hn, hnot⟩ := List.mem_filter.mp hn
    have hne' : (m.node n).tree ≠ tree := by
      have h := (hiff p hp n hn).not
      exact h.mp (by simpa using hnot)
    rw [hother _ (hm.node_of_port hp hn).1 hne']
    exact hm.linked p hp n hn
  · exact fun t ht => hm.allocated.1 t (hmem t ht).1
  · intro t ht n hn
    exact hm.allocated.2 t (hmem t ht).1 n (List.mem_of_mem_filter hn)

theorem deleteMsti_spec (hasFids : Bool) (mstid : Mstid) {m : Mesh} (hm : m.WellFormed) :
    (deleteMsti hasFids mstid m).1.WellFormed ∧
      ((deleteMsti hasFids mstid m).2 = false → (deleteMsti hasFids mstid m).1 = m) := by
  rw [deleteMsti]
  split
  · exact ⟨hm, fun _ => rfl⟩
  · rename_i hrange
    split
    · exact ⟨hm, fun _ => rfl⟩
    · split
      · exact ⟨hm, fun _ => rfl⟩
      · rename_i tree hfind
        have hmstid : m.mstid tree = mstid := by simpa using List.find?_some hfind
        refine ⟨removeTree_wellFormed hm (List.mem_of_find?_eq_some hfind) ?_, fun h => by cases h⟩
        rw [hmstid]
        rintro rfl
        exact hrange (Or.inl (by decide))

/-! ## A new tree -/

/-- The entries `done` of `tree_after` have got a neighbour for the new tree, nothing else has
changed. -/
structure TreeGrowth (m₀ : Mesh) (new : Mstid) (done : List Handle) (m : Mesh) : Prop where
  trees : m.trees = m₀.trees
  ports : m.ports = m₀.ports
  mstid : m.mstid = fun t => if t = m₀.fresh then new else m₀.mstid t
  fresh : m₀.fresh < m.fresh
  old : ∀ n < m₀.fresh, m.node n = m₀.node n
  others : ∀ t, t ≠ m₀.fresh → m.treePorts t = m₀.treePorts t
  view : (m.treePorts m₀.fresh).map m.node =
    done.map fun n => ⟨(m₀.node n).port, m₀.fresh, new⟩
  bounds : ∀ n ∈ m.treePorts m₀.fresh, m₀.fresh < n ∧ n < m.fresh
  portOld : ∀ q ∈ m₀.ports, q ∉ done.map (fun n => (m₀.node n).port) →
    m.portTrees q = m₀.portTrees q
  portNew : ∀ n ∈ done, ∃ k ∈ m.treePorts m₀.fresh,
    m.node k = ⟨(m₀.node n).port, m₀.fresh, new⟩ ∧
    m.portTrees (m₀.node n).port = listAdd k n (m₀.portTrees (m₀.node n).port)

theorem TreeGrowth.step {m₀ m : Mesh} {mstid : Mstid} {after n : Handle} {done : List Handle}
    (hm : m₀.WellFormed) (hafter : after ∈ m₀.trees) (hdone : ∀ k ∈ done, k ∈ m₀.treePorts after)
    (hn : n ∈ m₀.treePorts after) (hnew : n ∉ done) (h : TreeGrowth m₀ mstid done m) :
    TreeGrowth m₀ mstid (done ++ [n])
      { m with
        fresh := m.fresh + 1
        node := fun k =>
          if k = m.fresh then ⟨(m.node n).port, m₀.fresh, m.mstid m₀.fresh⟩ else m.node k
        portTrees := fun q => listAdd m.fresh n (m.portTrees q)
        treePorts := fun s =>
          if s = m₀.fresh then listAddTail m.fresh (m.treePorts s) else m.treePorts s } := by
  have hlt : n < m₀.fresh := hm.allocated.2 after hafter n hn
  have hfresh := h.fresh
  have hkeep : ∀ k ∈ m.treePorts m₀.fresh, (if k = m.fresh then
      (⟨(m.node n).port, m₀.fresh, m.mstid m₀.fresh⟩ : MeshNode) else m.node k) = m.node k :=
    fun k hk => if_neg (Nat.ne_of_lt (h.bounds k hk).2)
  have hmstid : m.mstid m₀.fresh = mstid := by rw [h.mstid]; exact if_pos rfl
  -- only the list of its own port holds `n`
  have hnot : ∀ q ∈ m₀.ports, q ≠ (m₀.node n).port → n ∉ m₀.portTrees q := by
    intro q hq hne hmem
    exact hne (congrArg MeshNode.port (hm.node_of_port hq hmem).2).symm
  have hport : (m₀.node n).port ∈ m₀.ports := (hm.node_of_tree hafter hn).1
  have hdonePort : (m₀.node n).port ∉ done.map fun k => (m₀.node k).port := by
    intro hmem
    obtain ⟨k, hk, heq⟩ := List.mem_map.mp hmem
    exact hnew (hm.tree_inj hafter (hdone k hk) hn heq ▸ hk)
  constructor
  · exact h.trees
  · exact h.ports
  · exact h.mstid
  · exact Nat.lt_succ_of_lt hfresh
  · intro k hk
    dsimp only
    rw [if_neg (Nat.ne_of_lt (lt_trans hk hfresh))]
    exact h.old k hk
  · intro t ht
    dsimp only
    rw [if_neg ht]
    exact h.others t ht
  · dsimp only
    rw [if_pos rfl, listAddTail, List.map_append, List.map_append, List.map_congr_left hkeep,
      h.view, hmstid, h.old n hlt]
    simp
  · intro k hk
    dsimp only at hk ⊢
    rw [if_pos rfl, listAddTail, List.mem_append, List.mem_singleton] at hk
    rcases hk with hk | rfl
    · exact ⟨(h.bounds k hk).1, Nat.lt_succ_of_lt (h.bounds k hk).2⟩
    · exact ⟨hfresh, Nat.lt_succ_self _⟩
  · intro q hq hqdone
    rw [List.map_append, List.mem_append, not_or] at hqdone
    dsimp only
    rw [h.portOld q hq hqdone.1]
    exact listAdd_of_notMem (hnot q hq (by simpa using hqdone.2))
  · intro k hk
    dsimp only
    rw [if_pos rfl, listAddTail]
    rcases List.mem_append.mp hk with hk | hk
    · obtain ⟨j, hj, hnode, hlist⟩ := h.portNew k hk
      have hkport : (m₀.node k).port ∈ m₀.ports := (hm.node_of_tree hafter (hdone k hk)).1
      have hne : (m₀.node k).port ≠ (m₀.node n).port := fun heq =>
        hnew (hm.tree_inj hafter (hdone k hk) hn heq ▸ hk)
      refine ⟨j, List.mem_append_left _ hj, (hkeep j hj).trans hnode, ?_⟩
      rw [hlist]
      refine listAdd_of_notMem fun hmem => ?_
      rcases mem_listAdd hmem with hmem | rfl
      · exact hnot _ hkport hne hmem
      · exact absurd (h.bounds n hj).1 (Nat.not_lt_of_lt hlt)
    · obtain rfl := List.mem_singleton.mp hk
      refine ⟨m.fresh, List.mem_append_right _ List.mem_cons_self, ?_, ?_⟩
      · rw [if_pos rfl, hmstid, h.old k hlt]
      · rw [h.portOld _ hport hdonePort]

theorem linkPorts_spec (calloc : Nat → Bool) {m₀ : Mesh} {mstid : Mstid} {after : Handle}
    (hm : m₀.WellFormed) (hafter : after ∈ m₀.trees) (i : Nat) {done : List Handle}
    (rest : List Handle) {m : Mesh} (h : TreeGrowth m₀ mstid done m)
    (hlist : done ++ rest = m₀.treePorts after) (hnodup : (done ++ rest).Nodup) :
    (∃ m', linkPorts calloc m₀.fresh i rest m = (m', true) ∧
      TreeGrowth m₀ mstid (m₀.treePorts after) m' ∧
      (List.range' i rest.length).all calloc = true) ∨
    (∃ d m', linkPorts calloc m₀.fresh i rest m = (unlinkAll (m'.treePorts m₀.fresh) m', false) ∧
      TreeGrowth m₀ mstid d m' ∧
      (List.range' i rest.length).all calloc = false) := by
  induction rest generalizing done m i with
  | nil =>
    rw [List.append_nil] at hlist
    exact Or.inl ⟨m, rfl, hlist ▸ h, rfl⟩
  | cons n rest ih =>
    have hsub : ∀ k ∈ done, k ∈ m₀.treePorts after := fun k hk =>
      hlist ▸ List.mem_append_left _ hk
    have hn : n ∈ m₀.treePorts after := hlist ▸ List.mem_append_right _ List.mem_cons_self
    have hnew : n ∉ done := fun hmem =>
      (List.nodup_append.mp hnodup).2.2 n hmem n List.mem_cons_self rfl
    have hgrow := h.step hm hafter hsub hn hnew
    rw [linkPorts]
    split
    · rename_i hcalloc
      rcases ih (i + 1) hgrow (by simpa using hlist) (by simpa using hnodup) with
        ⟨m', heq, hm', hall⟩ | ⟨d, m', heq, hm', hall⟩
      · refine Or.inl ⟨m', heq, hm', ?_⟩
        rw [List.length_cons, List.range'_succ, List.all_cons, hcalloc, hall]
        rfl
      · refine Or.inr ⟨d, m', heq, hm', ?_⟩
        rw [List.length_cons, List.range'_succ, List.all_cons, hcalloc, hall]
        rfl
    · rename_i hcalloc
      refine Or.inr ⟨done, m, rfl, h, ?_⟩
      rw [List.length_cons, List.range'_succ, List.all_cons]
      simp [hcalloc]

theorem TreeGrowth.start (m : Mesh) (mstid : Mstid) :
    TreeGrowth m mstid []
      { m with
        fresh := m.fresh + 1
        mstid := fun t => if t = m.fresh then mstid else m.mstid t
        treePorts := fun t => if t = m.fresh then [] else m.treePorts t } where
  trees := rfl
  ports := rfl
  mstid := rfl
  fresh := Nat.lt_succ_self _
  old _ _ := rfl
  others t ht := if_neg ht
  view := by simp
  bounds n hn := by simp at hn
  portOld _ _ _ := rfl
  portNew n hn := absurd hn List.not_mem_nil

theorem filter_listAdd {P : Handle → Bool} {new head : Handle} {l : List Handle}
    (hnew : P new = false) : (listAdd new head l).filter P = l.filter P := by
  induction l with
  | nil => rfl
  | cons a l ih =>
    rw [listAdd, List.flatMap_cons, List.filter_append]
    have hrest : (l.flatMap fun n => if n = head then [n, new] else [n]).filter P = l.filter P := ih
    rw [hrest]
    split <;> simp [List.filter_cons, hnew] <;> split <;> rfl

theorem TreeGrowth.rollback {m₀ m : Mesh} {mstid : Mstid} {done : List Handle}
    (hm : m₀.WellFormed) (h : TreeGrowth m₀ mstid done m) :
    SameLists m₀ (unlinkAll (m.treePorts m₀.fresh) m) := by
  have hold : ∀ n < m₀.fresh, n ∉ m.treePorts m₀.fresh := fun n hn hmem =>
    absurd (h.bounds n hmem).1 (Nat.not_lt_of_lt hn)
  have hne : ∀ t ∈ m₀.trees, t ≠ m₀.fresh := fun t ht => Nat.ne_of_lt (hm.allocated.1 t ht)
  rw [unlinkAll_eq]
  refine ⟨h.trees, h.ports, fun t ht => ?_, fun q hq => ?_, fun t ht => ?_,
    fun t ht n hn => h.old n (hm.allocated.2 t ht n hn), Nat.le_of_lt h.fresh⟩
  · rw [h.mstid]
    exact if_neg (hne t ht)
  · have hkeep : (m₀.portTrees q).filter (· ∉ m.treePorts m₀.fresh) = m₀.portTrees q :=
      List.filter_eq_self.mpr fun n hn => by simpa using hold n (hm.port_lt hq hn)
    dsimp only
    by_cases hqdone : q ∈ done.map fun n => (m₀.node n).port
    · obtain ⟨n, hn, rfl⟩ := List.mem_map.mp hqdone
      obtain ⟨k, hk, -, hlist⟩ := h.portNew n hn
      rw [hlist, filter_listAdd (by simpa using hk), hkeep]
    · rw [h.portOld q hq hqdone, hkeep]
  · dsimp only
    rw [h.others t (hne t ht)]
    exact List.filter_eq_self.mpr fun n hn => by simpa using hold n (hm.allocated.2 t ht n hn)

theorem map_listAdd {β : Type} [DecidableEq β] {f : Handle → β} {new head : Handle}
    {l : List Handle} (h : ∀ n ∈ l, f n = f head → n = head) :
    (listAdd new head l).map f =
      (l.map f).flatMap fun x => if x = f head then [x, f new] else [x] := by
  rw [listAdd, List.map_flatMap, List.flatMap_map]
  refine List.flatMap_congr fun n hn => ?_
  by_cases hhead : n = head
  · simp [hhead]
  · have hne : f n ≠ f head := fun heq => hhead (h n hn heq)
    simp [hhead, hne]

/-- `tree_after` is the last tree with a smaller MSTID. -/
theorem treeAfter_split {m : Mesh} {mstid : Mstid} {after : Handle}
    (h : m.treeAfter mstid = some after) : ∃ a b, m.trees = a ++ after :: b ∧
      m.mstid after < mstid ∧ ∀ t ∈ b, ¬ m.mstid t < mstid := by
  have hloop : ∀ (l : List Handle) (o : Option Handle),
      l.foldl (fun after t => if m.mstid t < mstid then some t else after) o = some after →
      (o = some after ∧ ∀ t ∈ l, ¬ m.mstid t < mstid) ∨ ∃ a b, l = a ++ after :: b ∧
        m.mstid after < mstid ∧ ∀ t ∈ b, ¬ m.mstid t < mstid := by
    intro l
    induction l with
    | nil => exact fun o ho => Or.inl ⟨ho, fun t ht => absurd ht List.not_mem_nil⟩
    | cons t l ih =>
      intro o ho
      rw [List.foldl_cons] at ho
      rcases ih _ ho with ⟨heq, hl⟩ | ⟨a, b, rfl, hafter, hb⟩
      · split at heq
        · rename_i hlt
          obtain rfl := Option.some.inj heq
          exact Or.inr ⟨[], l, rfl, hlt, hl⟩
        · rename_i hlt
          refine Or.inl ⟨heq, fun s hs => ?_⟩
          rcases List.mem_cons.mp hs with rfl | hs
          · exact hlt
          · exact hl s hs
      · exact Or.inr ⟨t :: a, b, rfl, hafter, hb⟩
  rcases hloop m.trees none h with ⟨hnone, -⟩ | hsplit
  · cases hnone
  · exact hsplit

/-- The new MSTID between its neighbours. -/
theorem sorted_insert {a b : List Mstid} {after new : Mstid}
    (h : (a ++ after :: b).Pairwise (· < ·)) (hafter : after < new)
    (hb : ∀ t ∈ b, ¬ t < new) (hnew : new ∉ a ++ after :: b) :
    (a ++ after :: new :: b).Pairwise (· < ·) := by
  obtain ⟨ha, hab, hcross⟩ := List.pairwise_append.mp h
  obtain ⟨hafterb, hbb⟩ := List.pairwise_cons.mp hab
  refine List.pairwise_append.mpr ⟨ha, List.pairwise_cons.mpr ⟨?_, List.pairwise_cons.mpr
    ⟨fun t ht => ?_, hbb⟩⟩, fun s hs t ht => ?_⟩
  · intro t ht
    rcases List.mem_cons.mp ht with rfl | ht
    · exact hafter
    · exact hafterb t ht
  · have hne : t ≠ new := fun heq =>
      hnew (heq ▸ List.mem_append_right _ (List.mem_cons_of_mem _ ht))
    exact UInt16.lt_of_le_of_ne (UInt16.not_lt.mp (hb t ht)) hne.symm
  · have hsafter : s < after := hcross s hs after List.mem_cons_self
    rcases List.mem_cons.mp ht with rfl | ht
    · exact hsafter
    · rcases List.mem_cons.mp ht with rfl | ht
      · exact UInt16.lt_trans hsafter hafter
      · exact hcross s hs t (List.mem_cons_of_mem _ ht)

theorem TreeGrowth.wellFormed {m₀ m : Mesh} {mstid : Mstid} {after : Handle} (hm : m₀.WellFormed)
    (hafter : m₀.treeAfter mstid = some after) (hnew : mstid ∉ m₀.trees.map m₀.mstid)
    (hcount : m₀.trees.length ≤ maxImplementationMstis)
    (h : TreeGrowth m₀ mstid (m₀.treePorts after) m) :
    { m with trees := listAdd m₀.fresh after m.trees }.WellFormed := by
  obtain ⟨a, b, hsplit, hlt, hb⟩ := treeAfter_split hafter
  have hmem : after ∈ m₀.trees := hsplit ▸ List.mem_append_right _ List.mem_cons_self
  have hne : ∀ t ∈ m₀.trees, t ≠ m₀.fresh := fun t ht => Nat.ne_of_lt (hm.allocated.1 t ht)
  have hlist : listAdd m₀.fresh after m.trees = a ++ after :: m₀.fresh :: b := by
    have hnodup := hm.trees_nodup
    rw [hsplit] at hnodup
    rw [h.trees, hsplit]
    exact listAdd_append (fun ha => (List.nodup_append.mp hnodup).2.2 after ha after
      List.mem_cons_self rfl) (List.nodup_cons.mp (List.nodup_append.mp hnodup).2.1).1
  have hmemNew : ∀ t ∈ listAdd m₀.fresh after m.trees, t ∈ m₀.trees ∨ t = m₀.fresh := fun t ht =>
    h.trees ▸ mem_listAdd ht
  have hmstid : ∀ t ∈ m₀.trees, m.mstid t = m₀.mstid t := fun t ht => by
    rw [h.mstid]
    exact if_neg (hne t ht)
  have hmstidNew : m.mstid m₀.fresh = mstid := by
    rw [h.mstid]
    exact if_pos rfl
  have hmap : (a ++ after :: m₀.fresh :: b).map m.mstid =
      a.map m₀.mstid ++ m₀.mstid after :: mstid :: b.map m₀.mstid := by
    rw [List.map_append, List.map_cons, List.map_cons, hmstidNew, hmstid after hmem,
      List.map_congr_left fun t ht => hmstid t (hsplit ▸ List.mem_append_left _ ht),
      List.map_congr_left fun t ht =>
        hmstid t (hsplit ▸ List.mem_append_right _ (List.mem_cons_of_mem _ ht))]
  -- the port of each entry of `tree_after`, and the entry of each port
  have hentry : ∀ q ∈ m₀.ports, ∃ n ∈ m₀.treePorts after, (m₀.node n).port = q ∧
      n ∈ m₀.portTrees q ∧ m₀.node n = ⟨q, after, m₀.mstid after⟩ := by
    intro q hq
    obtain ⟨n, hn, hnode⟩ := hm.exists_node hq hmem
    have hn' := (hm.mem_iff hq hmem).mp ⟨hn, by rw [hnode]⟩
    exact ⟨n, hn'.1, hn'.2, hn, hnode⟩
  constructor
  · dsimp only
    rw [hlist, hmap]
    have hcist := hm.cist
    rw [hsplit, List.map_append, List.map_cons] at hcist
    cases a with
    | nil => exact hcist
    | cons c a => exact hcist
  · dsimp only
    rw [hlist, hmap]
    have hsorted := hm.sorted
    rw [hsplit, List.map_append, List.map_cons] at hsorted hnew
    exact sorted_insert hsorted hlt (fun t ht => by
      obtain ⟨s, hs, rfl⟩ := List.mem_map.mp ht
      exact hb s hs) hnew
  · dsimp only
    rw [hlist]
    rw [hsplit] at hcount
    simp only [List.length_append, List.length_cons] at hcount ⊢
    omega
  · exact h.ports ▸ hm.ports
  · intro q hq
    dsimp only at hq ⊢
    rw [h.ports] at hq
    obtain ⟨n, hn, hport, hnq, hnode⟩ := hentry q hq
    obtain ⟨k, hk, hknode, hklist⟩ := h.portNew n hn
    rw [hport] at hknode hklist
    have hold : ∀ j ∈ m₀.portTrees q, m.node j = m₀.node j := fun j hj => h.old j (hm.port_lt hq hj)
    have hinj : ∀ j ∈ m₀.portTrees q, m.node j = m.node n → j = n := by
      intro j hj heq
      rw [hold j hj, hold n hnq] at heq
      exact hm.port_inj hq hj hnq (congrArg MeshNode.tree heq)
    have hinjTree : ∀ t ∈ m₀.trees, (⟨q, t, m.mstid t⟩ : MeshNode) = ⟨q, after, m.mstid after⟩ →
        t = after := fun t _ heq => congrArg MeshNode.tree heq
    have hview : (m₀.portTrees q).map m.node = m₀.trees.map fun t => ⟨q, t, m.mstid t⟩ := by
      rw [List.map_congr_left hold]
      refine (hm.portView q hq).trans (List.map_congr_left fun t ht => ?_)
      rw [hmstid t ht]
    rw [Mesh.portView]
    dsimp only
    rw [hklist, map_listAdd hinj, hview, h.trees, map_listAdd hinjTree, hold n hnq, hnode, hknode,
      hmstid after hmem, hmstidNew]
  · intro t ht
    dsimp only at ht ⊢
    rw [Mesh.treeView, h.ports]
    dsimp only
    rcases hmemNew t ht with ht | rfl
    · rw [h.others t (hne t ht), hmstid t ht, List.map_congr_left fun n hn =>
        h.old n (hm.allocated.2 t ht n hn)]
      exact hm.treeView t ht
    · rw [h.view, hmstidNew]
      have hports : (m₀.treePorts after).map (fun n => (m₀.node n).port) = m₀.ports := by
        have hview := congrArg (List.map MeshNode.port) (hm.treeView after hmem)
        simpa [Mesh.treeView, Function.comp_def] using hview
      rw [← hports, List.map_map]
      rfl
  · intro q hq n hn
    dsimp only at hq hn ⊢
    rw [h.ports] at hq
    obtain ⟨e, he, hport, heq, -⟩ := hentry q hq
    obtain ⟨k, hk, hknode, hklist⟩ := h.portNew e he
    rw [hport] at hknode hklist
    rw [hklist] at hn
    rcases mem_listAdd hn with hn | rfl
    · rw [h.old n (hm.port_lt hq hn)]
      have htree := (hm.node_of_port hq hn).1
      rw [h.others _ (hne _ htree)]
      exact hm.linked q hq n hn
    · rw [hknode]
      exact hk
  · refine ⟨fun t ht => ?_, fun t ht n hn => ?_⟩
    · rcases hmemNew t ht with ht | rfl
      · exact lt_trans (hm.allocated.1 t ht) h.fresh
      · exact h.fresh
    · dsimp only at hn ⊢
      rcases hmemNew t ht with ht | rfl
      · rw [h.others t (hne t ht)] at hn
        exact lt_trans (hm.allocated.2 t ht n hn) h.fresh
      · exact (h.bounds n hn).2

/-- The outcomes of `MSTP_IN_create_msti`. -/
theorem createMsti_spec (calloc : Nat → Bool) (mstid : Mstid) {m : Mesh} (hm : m.WellFormed) :
    (createMsti calloc mstid m).1.WellFormed ∧
      ((createMsti calloc mstid m).2 = false → SameLists m (createMsti calloc mstid m).1) := by
  have hstay : m.WellFormed ∧ (false = false → SameLists m m) := ⟨hm, fun _ => .refl m⟩
  rw [createMsti]
  split
  · exact hstay
  · split
    · exact ⟨hm, fun _ => .refl m⟩
    · rename_i hfound
      have hnew : mstid ∉ m.trees.map m.mstid := by
        simpa using hfound
      split
      · exact hstay
      · rename_i after hafter
        obtain ⟨a, b, hsplit, -, -⟩ := treeAfter_split hafter
        have hmem : after ∈ m.trees := hsplit ▸ List.mem_append_right _ List.mem_cons_self
        split
        · exact hstay
        · rename_i hcount
          split
          · exact hstay
          · have hpos : (fun t => if t = m.fresh then [] else m.treePorts t) after =
                m.treePorts after := if_neg (Nat.ne_of_lt (hm.allocated.1 after hmem))
            have hnodup : (m.treePorts after).Nodup := by
              refine List.Nodup.of_map m.node ?_
              have hview := hm.treeView after hmem
              rw [Mesh.treeView] at hview
              rw [hview]
              exact hm.ports.map fun p q hpq => congrArg MeshNode.port hpq
            dsimp only
            dsimp only at hpos
            rw [hpos]
            rcases linkPorts_spec calloc hm hmem 1 (m.treePorts after) (TreeGrowth.start m mstid)
              rfl (by simpa using hnodup) with ⟨m', heq, hgrow, -⟩ | ⟨d, m', heq, hgrow, -⟩
            · rw [heq]
              exact ⟨hgrow.wellFormed hm hafter hnew (by omega), fun h => by cases h⟩
            · rw [heq]
              have hsame := hgrow.rollback hm
              exact ⟨hm.of_sameLists hsame, fun _ => hsame⟩

/-! ## Runs -/

/-- A call of an operation that changes the mesh, with its allocations. -/
inductive MeshOp
  | portCreate (calloc : Nat → Bool) (p : PortRef)
  | deletePort (p : PortRef)
  | createMsti (calloc : Nat → Bool) (mstid : Mstid)
  | deleteMsti (hasFids : Bool) (mstid : Mstid)

def exec (m : Mesh) : MeshOp → Mesh × Bool
  | .portCreate calloc p => portCreateAndAddTail calloc p m
  | .deletePort p => (Mesh.deletePort p m, true)
  | .createMsti calloc mstid => Mesh.createMsti calloc mstid m
  | .deleteMsti hasFids mstid => Mesh.deleteMsti hasFids mstid m

/-- A new port is a new object, and a deleted one is a port of the bridge. -/
def MeshOp.Valid (m : Mesh) : MeshOp → Prop
  | .portCreate _ p => p ∉ m.ports
  | .deletePort p => p ∈ m.ports
  | _ => True

/-- The meshes that operations lead to from the creation of a bridge. -/
inductive Reached : Mesh → Prop
  | create : Reached bridgeCreate
  | exec {m : Mesh} (op : MeshOp) (hm : Reached m) (hv : op.Valid m) : Reached (m.exec op).1

theorem bridgeCreate_wellFormed : bridgeCreate.WellFormed where
  cist := rfl
  sorted := List.pairwise_singleton _ _
  count := by decide
  ports := List.nodup_nil
  portView _ hp := absurd hp List.not_mem_nil
  treeView t ht := by
    obtain rfl : t = 0 := by simpa [bridgeCreate, listAddTail] using ht
    rfl
  linked _ hp := absurd hp List.not_mem_nil
  allocated := by
    refine ⟨fun t ht => ?_, fun t _ n hn => absurd hn List.not_mem_nil⟩
    obtain rfl : t = 0 := by simpa [bridgeCreate, listAddTail] using ht
    exact Nat.zero_lt_one

theorem exec_spec {m : Mesh} {op : MeshOp} (hm : m.WellFormed) (hv : op.Valid m) :
    (m.exec op).1.WellFormed ∧ ((m.exec op).2 = false → SameLists m (m.exec op).1) := by
  cases op with
  | portCreate calloc p =>
    rw [exec]
    rcases portCreateAndAddTail_spec calloc hm hv with ⟨m', heq, hwf, -⟩ | ⟨m', heq, hsame, -⟩
    · rw [heq]
      exact ⟨hwf, fun h => by cases h⟩
    · rw [heq]
      exact ⟨hm.of_sameLists hsame, fun _ => hsame⟩
  | deletePort p => exact ⟨deletePort_wellFormed hm hv, fun h => by cases h⟩
  | createMsti calloc mstid => exact createMsti_spec calloc mstid hm
  | deleteMsti hasFids mstid =>
    obtain ⟨hwf, hsame⟩ := deleteMsti_spec hasFids mstid hm
    refine ⟨hwf, fun h => ?_⟩
    have heq : (m.exec (.deleteMsti hasFids mstid)).1 = m := hsame h
    rw [heq]
    exact .refl m

theorem Reached.wellFormed {m : Mesh} (h : Reached m) : m.WellFormed := by
  induction h with
  | create => exact bridgeCreate_wellFormed
  | exec op _ hv ih => exact (exec_spec ih hv).1

/-- Is the per-tree port in some list of the bridge? -/
def Linked (m : Mesh) (n : Handle) : Prop :=
  (∃ p ∈ m.ports, n ∈ m.portTrees p) ∨ ∃ t ∈ m.trees, n ∈ m.treePorts t

theorem WellFormed.linked_unique {m : Mesh} (hm : m.WellFormed) {p : PortRef} (hp : p ∈ m.ports)
    {t : Handle} (ht : t ∈ m.trees) :
    ∃ n, (n ∈ m.portTrees p ∧ n ∈ m.treePorts t ∧ m.node n = ⟨p, t, m.mstid t⟩) ∧
      ∀ k, m.Linked k → (m.node k).port = p → (m.node k).tree = t → k = n := by
  obtain ⟨n, hn, hnode⟩ := hm.exists_node hp ht
  have hn' := (hm.mem_iff hp ht).mp ⟨hn, by rw [hnode]⟩
  refine ⟨n, ⟨hn, hn'.1, hnode⟩, ?_⟩
  rintro k (⟨q, hq, hk⟩ | ⟨s, hs, hk⟩) hkp hkt
  · have hport := congrArg MeshNode.port (hm.node_of_port hq hk).2
    obtain rfl : q = p := hport.symm.trans hkp
    exact hm.port_inj hq hk hn (hkt.trans (by rw [hnode]))
  · have htree := congrArg MeshNode.tree (hm.node_of_tree hs hk).2
    obtain rfl : s = t := htree.symm.trans hkt
    exact hm.tree_inj hs hk hn'.1 (hkp.trans hn'.2.symm)

/-- The mesh of ports and trees after any operations, whatever allocations fail. -/
theorem reached_mesh {m : Mesh} (h : Reached m) :
    (m.trees.map m.mstid).head? = some 0 ∧ (m.trees.map m.mstid).Pairwise (· < ·) ∧
    m.trees.length ≤ 64 ∧
    (∀ p ∈ m.ports, ∀ t ∈ m.trees, ∃ n,
      (n ∈ m.portTrees p ∧ n ∈ m.treePorts t ∧ m.node n = ⟨p, t, m.mstid t⟩) ∧
      ∀ k, m.Linked k → (m.node k).port = p → (m.node k).tree = t → k = n) ∧
    (∀ p ∈ m.ports, (m.portTrees p).map (fun n => (m.node n).tree) = m.trees) ∧
    (∀ t ∈ m.trees, (m.treePorts t).map (fun n => (m.node n).port) = m.ports) ∧
    ∀ op : MeshOp, op.Valid m → (m.exec op).2 = false → SameLists m (m.exec op).1 := by
  have hm := h.wellFormed
  refine ⟨hm.cist, hm.sorted, hm.count, fun p hp t ht => hm.linked_unique hp ht, fun p hp => ?_,
    fun t ht => ?_, fun op hv => (exec_spec hm hv).2⟩
  · have hview := congrArg (List.map MeshNode.tree) (hm.portView p hp)
    simpa [Mesh.portView, Function.comp_def] using hview
  · have hview := congrArg (List.map MeshNode.port) (hm.treeView t ht)
    simpa [Mesh.treeView, Function.comp_def] using hview

/-- Two ports and two MSTIs; the second MSTI is created before the first. -/
def sampleMesh : Mesh :=
  let m := (bridgeCreate.exec (.portCreate (fun _ => true) 7)).1
  let m := (m.exec (.createMsti (fun _ => true) 9)).1
  let m := (m.exec (.portCreate (fun _ => true) 3)).1
  (m.exec (.createMsti (fun _ => true) 5)).1

theorem sampleMesh_reached : Reached sampleMesh := by
  have h₁ := Reached.exec (.portCreate (fun _ => true) 7) .create List.not_mem_nil
  have h₂ := Reached.exec (.createMsti (fun _ => true) 9) h₁ trivial
  have hnew : 3 ∉ ((bridgeCreate.exec (.portCreate (fun _ => true) 7)).1.exec
      (.createMsti (fun _ => true) 9)).1.ports := by decide
  exact Reached.exec (.createMsti (fun _ => true) 5)
    (Reached.exec (.portCreate (fun _ => true) 3) h₂ hnew) trivial

theorem sampleMesh_lists : sampleMesh.ports = [7, 3] ∧
    sampleMesh.trees.map sampleMesh.mstid = [0, 5, 9] ∧
    (∀ p ∈ sampleMesh.ports,
      (sampleMesh.portTrees p).map (fun n => (sampleMesh.node n).tree) = sampleMesh.trees) ∧
    SameLists sampleMesh (sampleMesh.exec (.createMsti (· < 2) 6)).1 := by
  obtain ⟨-, -, -, -, hports, -, hfail⟩ := reached_mesh sampleMesh_reached
  exact ⟨by decide, by decide, hports, hfail (.createMsti (· < 2) 6) trivial (by decide)⟩

end Mesh

/-! ## The mesh behind the bridge

The bridge of the model keeps the handles of its ports and the MSTIDs of its trees. -/

structure Mesh.Represents (m : Mesh) (br : Bridge) : Prop where
  ports : m.ports = br.ports
  trees : m.trees.map m.mstid = br.trees
  range : ∀ s ∈ br.trees, s.toNat ≤ maxMstid

theorem insertAfterLast_eq {P : Mstid → Bool} {x after : Mstid} {a b : List Mstid}
    (hafter : P after = true) (hb : ∀ t ∈ b, P t = false) :
    insertAfterLast P x (a ++ after :: b) = some (a ++ after :: x :: b) := by
  have htail : insertAfterLast P x b = none := by
    induction b with
    | nil => rfl
    | cons c b ih =>
      rw [insertAfterLast, ih fun t ht => hb t (List.mem_cons_of_mem c ht),
        hb c List.mem_cons_self]
      rfl
  induction a with
  | nil =>
    rw [List.nil_append, insertAfterLast, htail, hafter]
    rfl
  | cons c a ih =>
    rw [List.cons_append, insertAfterLast, ih]
    rfl

theorem lists_begin (ports : List PortRef) (trees : List Mstid) :
    BeginInv fun b => b.ports = ports ∧ b.trees = trees where
  prsm _ _ hi _ := hi
  ppmsm _ _ hi _ := hi
  bdsm br p hi _ :=
    ⟨(bdsmTo_frame p _ br).ports_eq.trans hi.1, (bdsmTo_frame p _ br).trees_eq.trans hi.2⟩
  ptsm _ _ hi _ := hi
  pism _ _ _ hi _ _ := hi
  initTree _ _ hi _ := hi
  prtsm _ _ _ hi _ _ := hi
  pstsm br p t hi _ _ :=
    ⟨(pstsmTo_frame p t .discarding br).ports_eq.trans hi.1,
      (pstsmTo_frame p t .discarding br).trees_eq.trans hi.2⟩
  tcsm br p t hi _ _ :=
    ⟨(tcsmTo_frame p t .inactive br).ports_eq.trans hi.1,
      (tcsmTo_frame p t .inactive br).trees_eq.trans hi.2⟩

/-- What an action does to the lists of ports and trees. -/
theorem Act.run_lists (a : Act) (br : Bridge) (hg : a.Guard br) :
    match a with
    | .createPort p _ _ _ _ => (a.run br).ports = br.ports ++ [p] ∧ (a.run br).trees = br.trees
    | .removePort p => (a.run br).ports = br.ports.erase p ∧ (a.run br).trees = br.trees
    | .createMsti _ trees => (a.run br).ports = br.ports ∧ (a.run br).trees = trees
    | .removeMsti t => (a.run br).ports = br.ports ∧ (a.run br).trees = br.trees.erase t
    | _ => (a.run br).ports = br.ports ∧ (a.run br).trees = br.trees := by
  cases a with
  | createPort p portno name speed duplex =>
    refine (lists_begin (br.ports ++ [p]) br.trees).port (fun b t hb _ _ => ?_) ?_ ⟨rfl, rfl⟩
    · exact ⟨(prssmToRoleSelection_frame t b).ports_eq.trans hb.1,
        (prssmToRoleSelection_frame t b).trees_eq.trans hb.2⟩
    · exact List.mem_append_right _ List.mem_cons_self
  | createMsti mstid trees =>
    refine (lists_begin br.ports trees).tree ?_ ⟨rfl, rfl⟩
    exact (insertAfterLast_mem hg.2.2.2.2 mstid).mpr (Or.inl rfl)
  | switchBridge up =>
    refine (lists_begin br.ports br.trees).bridge ?_
    exact ⟨(resetBridge_frame up br).ports_eq, (resetBridge_frame up br).trees_eq⟩
  | bridgeAddress _ | bridgeConfig _ | tables _ _ _ _ | configId _ _ =>
    refine (lists_begin br.ports br.trees).restart (fun b b' hf hb => ?_) rfl ⟨rfl, rfl⟩
    exact ⟨hf.ports_eq.trans hb.1, hf.trees_eq.trans hb.2⟩
  | removePort p => exact ⟨rfl, rfl⟩
  | removeMsti t => exact ⟨rfl, rfl⟩
  | _ =>
    exact ⟨(Act.frame _ br).config_eq Bridge.ports fun _ => rfl,
      (Act.frame _ br).config_eq Bridge.trees fun _ => rfl⟩

/-- The tree behind an MSTID. -/
theorem Mesh.Represents.tree {m : Mesh} {br : Bridge} (h : m.Represents br) {s : Mstid}
    (hs : s ∈ br.trees) : ∃ t ∈ m.trees, m.mstid t = s := by
  rw [← h.trees] at hs
  exact List.mem_map.mp hs

theorem listDel_eq_erase {p : PortRef} {l : List PortRef} (h : l.Nodup) :
    listDel p l = l.erase p := by
  rw [listDel, h.erase_eq_filter]
  refine List.filter_congr fun a _ => ?_
  by_cases ha : a = p <;> simp [ha]

/-- The mesh after the new tree has found its place. -/
theorem Mesh.createMsti_ok {m : Mesh} {mstid : Mstid} {trees : List Mstid} (hm : m.WellFormed)
    (hpos : mstid ≠ 0) (hrange : mstid.toNat ≤ maxMstid) (hnew : mstid ∉ m.trees.map m.mstid)
    (hcount : m.trees.length ≤ maxImplementationMstis)
    (hplace : insertAfterLast (fun s => decide (s < mstid)) mstid (m.trees.map m.mstid)
      = some trees) :
    ∃ m', m.createMsti (fun _ => true) mstid = (m', true) ∧ m'.ports = m.ports ∧
      m'.trees.map m'.mstid = trees := by
  have hcist := hm.cist
  have hfind : ∃ after, m.treeAfter mstid = some after := by
    cases htrees : m.trees with
    | nil => rw [htrees] at hcist; cases hcist
    | cons c rest =>
      rw [htrees] at hcist
      have hc : m.mstid c < mstid := by
        have hzero : m.mstid c = 0 := by simpa using hcist
        rw [hzero]
        exact UInt16.pos_iff_ne_zero.mpr hpos
      have hsome : ∀ (l : List Handle) (o : Handle), ∃ after,
          l.foldl (fun after t => if m.mstid t < mstid then some t else after) (some o)
            = some after := by
        intro l
        induction l with
        | nil => exact fun o => ⟨o, rfl⟩
        | cons t l ih =>
          intro o
          rw [List.foldl_cons]
          split
          · exact ih t
          · exact ih o
      obtain ⟨after, hafter⟩ := hsome rest c
      refine ⟨after, ?_⟩
      rw [treeAfter, htrees, List.foldl_cons, if_pos hc]
      exact hafter
  obtain ⟨after, hafter⟩ := hfind
  obtain ⟨a, b, hsplit, hlt, hb⟩ := treeAfter_split hafter
  have hmem : after ∈ m.trees := hsplit ▸ List.mem_append_right _ List.mem_cons_self
  have hnodup : (m.treePorts after).Nodup := by
    refine List.Nodup.of_map m.node ?_
    have hview := hm.treeView after hmem
    rw [Mesh.treeView] at hview
    rw [hview]
    exact hm.ports.map fun p q hpq => congrArg MeshNode.port hpq
  have hkeep : (if after = m.fresh then [] else m.treePorts after) = m.treePorts after :=
    if_neg (Nat.ne_of_lt (hm.allocated.1 after hmem))
  have hpos' : ¬ (mstid.toNat < 1 ∨ maxMstid < mstid.toNat) := by
    have h := UInt16.pos_iff_ne_zero.mpr hpos
    rw [UInt16.lt_iff_toNat_lt] at h
    have hzero : (0 : UInt16).toNat = 0 := rfl
    omega
  have hany : m.trees.any (fun t => m.mstid t == mstid) = false := by simpa using hnew
  rcases linkPorts_spec (fun _ => true) hm hmem 1 (m.treePorts after) (TreeGrowth.start m mstid)
    rfl (by simpa using hnodup) with ⟨m', heq, hgrow, -⟩ | ⟨d, m', -, -, hall⟩
  · refine ⟨{ m' with trees := listAdd m.fresh after m'.trees }, ?_, hgrow.ports, ?_⟩
    · rw [createMsti, if_neg hpos', hany, hafter]
      simp only [Bool.false_eq_true, if_false, Bool.not_true, Nat.not_lt.mpr hcount, hkeep, heq]
    · dsimp only
      have hmap : ∀ t ∈ m.trees, m'.mstid t = m.mstid t := fun t ht => by
        rw [hgrow.mstid]
        exact if_neg (Nat.ne_of_lt (hm.allocated.1 t ht))
      have hnew' : m'.mstid m.fresh = mstid := by
        rw [hgrow.mstid]
        exact if_pos rfl
      have hinj : ∀ n ∈ m.trees, m'.mstid n = m'.mstid after → n = after := fun n hn h =>
        hm.mstid_inj hn hmem (by rw [← hmap n hn, h, hmap after hmem])
      rw [hsplit, List.map_append, List.map_cons,
        insertAfterLast_eq (by simpa using hlt) fun t ht => by
        obtain ⟨s, hs, rfl⟩ := List.mem_map.mp ht
        simpa using hb s hs] at hplace
      have hnodupTrees := hm.trees_nodup
      rw [hsplit] at hnodupTrees
      rw [hgrow.trees, hsplit, listAdd_append (fun ha => (List.nodup_append.mp hnodupTrees).2.2
        after ha after List.mem_cons_self rfl)
        (List.nodup_cons.mp (List.nodup_append.mp hnodupTrees).2.1).1, List.map_append,
        List.map_cons, List.map_cons, hnew', hmap after hmem,
        List.map_congr_left fun t ht => hmap t (hsplit ▸ List.mem_append_left _ ht),
        List.map_congr_left fun t ht =>
          hmap t (hsplit ▸ List.mem_append_right _ (List.mem_cons_of_mem _ ht))]
      exact Option.some.inj hplace
  · simp at hall

/-- Every action of the bridge is an operation on the mesh, or leaves the mesh alone. -/
theorem Mesh.Represents.step {m : Mesh} {br : Bridge} {a : Act} (hm : m.WellFormed)
    (h : m.Represents br) (hg : a.Guard br) :
    ∃ m', (m' = m ∨ ∃ op : MeshOp, op.Valid m ∧ m.exec op = (m', true)) ∧
      m'.Represents (a.run br) := by
  have hlists := a.run_lists br hg
  cases a with
  | createPort p portno name speed duplex =>
    have hnew : p ∉ m.ports := h.ports ▸ hg.1
    rcases portCreateAndAddTail_spec (fun _ => true) hm hnew with
      ⟨m', heq, -, hports, htrees, -⟩ | ⟨m', -, -, hall⟩
    · refine ⟨m', Or.inr ⟨.portCreate (fun _ => true) p, hnew, heq⟩, ?_, ?_, ?_⟩
      · rw [hports, hlists.1, h.ports]
      · rw [htrees, hlists.2, h.trees]
      · rw [hlists.2]
        exact h.range
    · simp at hall
  | removePort p =>
    have hp : p ∈ m.ports := h.ports ▸ hg.1
    refine ⟨Mesh.deletePort p m, Or.inr ⟨.deletePort p, hp, rfl⟩, ?_, ?_, ?_⟩
    · rw [hlists.1, ← h.ports, ← listDel_eq_erase hm.ports, Mesh.deletePort, unlinkAll_eq]
    · rw [hlists.2, ← h.trees, Mesh.deletePort, unlinkAll_eq]
    · rw [hlists.2]
      exact h.range
  | createMsti mstid trees =>
    obtain ⟨hpos, hrange, hnew, hcount, hplace⟩ := hg
    rw [← h.trees] at hnew hcount hplace
    rw [List.length_map] at hcount
    obtain ⟨m', heq, hports, htrees⟩ := createMsti_ok hm hpos hrange hnew hcount hplace
    refine ⟨m', Or.inr ⟨.createMsti (fun _ => true) mstid, trivial, heq⟩, ?_, ?_, fun s hs => ?_⟩
    · rw [hports, hlists.1, h.ports]
    · rw [htrees, hlists.2]
    · rw [hlists.2] at hs
      rcases (insertAfterLast_mem hplace s).mp hs with rfl | hs
      · exact hrange
      · exact h.range s (h.trees ▸ hs)
  | removeMsti mstid =>
    obtain ⟨hpos, hmem⟩ := hg
    obtain ⟨t, ht, hmstid⟩ := h.tree hmem
    have hfind : m.trees.find? (fun t => m.mstid t == mstid) = some t := by
      obtain ⟨s, hs⟩ : ∃ s, m.trees.find? (fun t => m.mstid t == mstid) = some s := by
        rw [← Option.isSome_iff_exists, List.find?_isSome]
        exact ⟨t, ht, by simpa using hmstid⟩
      have hsmstid : m.mstid s = mstid := by simpa using List.find?_some hs
      rw [hs, hm.mstid_inj (List.mem_of_find?_eq_some hs) ht (hsmstid.trans hmstid.symm)]
    have hrange : ¬ (mstid.toNat < 1 ∨ maxMstid < mstid.toNat) := by
      have hle := h.range mstid hmem
      have hlt := UInt16.pos_iff_ne_zero.mpr hpos
      rw [UInt16.lt_iff_toNat_lt] at hlt
      have hzero : (0 : UInt16).toNat = 0 := rfl
      omega
    have hexec : m.exec (.deleteMsti false mstid) =
        (unlinkAll (m.treePorts t) { m with trees := listDel t m.trees }, true) := by
      rw [Mesh.exec, Mesh.deleteMsti, if_neg hrange, hfind]
      rfl
    refine ⟨_, Or.inr ⟨.deleteMsti false mstid, trivial, hexec⟩, ?_, ?_, fun s hs => ?_⟩
    · rw [hlists.1, unlinkAll_eq]
      exact h.ports
    · rw [hlists.2, unlinkAll_eq]
      dsimp only
      rw [listDel, ← h.trees, List.Nodup.erase_eq_filter, List.filter_map]
      · refine congrArg (List.map m.mstid) (List.filter_congr fun s hs => ?_)
        by_cases hst : s = t
        · simp [hst, hmstid]
        · have hne : m.mstid s ≠ mstid := fun heq =>
            hst (hm.mstid_inj hs ht (heq.trans hmstid.symm))
          simp [hst, hne]
      · exact hm.sorted.imp fun h => UInt16.ne_of_lt h
    · rw [hlists.2] at hs
      exact h.range s (List.mem_of_mem_erase hs)
  | _ =>
    refine ⟨m, Or.inl rfl, ?_, ?_, ?_⟩
    · rw [hlists.1, h.ports]
    · rw [hlists.2, h.trees]
    · rw [hlists.2]
      exact h.range

/-- Behind every state of a run stands a mesh that operations have built. -/
theorem Visited.mesh {C : Act → Bridge → Prop} {br : Bridge} (h : Visited C br) :
    ∃ m : Mesh, Mesh.Reached m ∧ m.Represents br := by
  refine h.inv (I := fun b => ∃ m : Mesh, Mesh.Reached m ∧ m.Represents b) (fun env macaddr => ?_)
    fun a br hi hg _ => ?_
  · refine ⟨Mesh.bridgeCreate, .create, rfl, rfl, fun s hs => ?_⟩
    obtain rfl : s = 0 := List.mem_singleton.mp hs
    exact Nat.zero_le _
  · obtain ⟨m, hm, hrep⟩ := hi
    obtain ⟨m', heq | ⟨op, hv, heq⟩, hrep'⟩ := hrep.step hm.wellFormed hg
    · exact ⟨m', heq ▸ hm, hrep'⟩
    · refine ⟨m', ?_, hrep'⟩
      have hreached := Mesh.Reached.exec op hm hv
      rw [heq] at hreached
      exact hreached

end Mstpd
