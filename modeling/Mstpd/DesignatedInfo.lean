import Mstpd.Deletion
import Mstpd.HelloTimes

/-!
# What a port announces

The designated vector and times of an entry in effect come from the last role selection in its tree:
they carry the root vector of the tree, and they name the bridge, the tree and the port. Whatever
changes the identifiers asks for a new selection.
-/

namespace Mstpd

open Bridge

/-- The designated vector and times of an entry belong to the tree and to the port number. Where the
port sends Configuration BPDUs, the regional root of the CIST is the bridge itself. -/
structure Announces (tree : Tree) (number : UInt16) (t : Mstid) (x : PerTreePort) : Prop where
  rootID : x.designatedPriority.rootID = tree.rootPriority.rootID
  extRootPathCost : x.designatedPriority.extRootPathCost = tree.rootPriority.extRootPathCost
  intRootPathCost : x.designatedPriority.intRootPathCost = tree.rootPriority.intRootPathCost
  rRootID : x.designatedPriority.rRootID = tree.rootPriority.rRootID ∨
    t = 0 ∧ x.designatedPriority.rRootID = tree.bridgeIdentifier
  designatedBridgeID : x.designatedPriority.designatedBridgeID = tree.bridgeIdentifier
  designatedPortID : systemId x.designatedPriority.designatedPortID = number
  times : { x.designatedTimes with helloTime := 0 } = { tree.rootTimes with helloTime := 0 }

/-- In an enabled bridge, every entry in effect announces its tree. -/
def AllAnnounce (br : Bridge) : Prop :=
  br.bridgeEnabled = true → ∀ p ∈ br.ports, ∀ t ∈ br.trees, (br.ptp p t).selected = true →
    Announces (br.tree t) (br.port p).portNumber t (br.ptp p t)

/-- What a tree is announced with. -/
def treeInfo (tree : Tree) : BridgeIdentifier × PortPriorityVector × Times :=
  (tree.bridgeIdentifier, tree.rootPriority, tree.rootTimes)

/-- What an entry announces. -/
def announced (x : PerTreePort) : PortPriorityVector × Times :=
  (x.designatedPriority, x.designatedTimes)

section Announces

variable {tree tree' : Tree} {number : UInt16} {t : Mstid} {x y : PerTreePort}

theorem Announces.congr (h : Announces tree number t x) (htree : treeInfo tree' = treeInfo tree)
    (hx : announced y = announced x) : Announces tree' number t y := by
  simp only [treeInfo, announced, Prod.mk.injEq] at htree hx
  obtain ⟨hid, hroot, htimes⟩ := htree
  constructor
  · rw [hx.1, hroot]
    exact h.rootID
  · rw [hx.1, hroot]
    exact h.extRootPathCost
  · rw [hx.1, hroot]
    exact h.intRootPathCost
  · rw [hx.1, hroot, hid]
    exact h.rRootID
  · rw [hx.1, hid]
    exact h.designatedBridgeID
  · rw [hx.1]
    exact h.designatedPortID
  · rw [hx.2, htimes]
    exact h.times

end Announces

/-- The entries in effect were so before, and nothing they announce is different. -/
structure Fewer (br b : Bridge) : Prop where
  enabled : b.bridgeEnabled = true → br.bridgeEnabled = true
  ports : b.ports = br.ports
  trees : b.trees = br.trees
  entry : ∀ p ∈ br.ports, ∀ t ∈ br.trees, (b.ptp p t).selected = true →
    (br.ptp p t).selected = true ∧ announced (b.ptp p t) = announced (br.ptp p t) ∧
      treeInfo (b.tree t) = treeInfo (br.tree t) ∧ (b.port p).portNumber = (br.port p).portNumber

section Fewer

variable {br b b' : Bridge}

theorem AllAnnounce.fewer (hi : AllAnnounce br) (h : Fewer br b) : AllAnnounce b := by
  intro hen p hp t ht hsel
  rw [h.ports] at hp
  rw [h.trees] at ht
  obtain ⟨hbefore, hsame, htree, hnumber⟩ := h.entry p hp t ht hsel
  rw [hnumber]
  exact (hi (h.enabled hen) p hp t ht hbefore).congr htree hsame

theorem Fewer.refl (br : Bridge) : Fewer br br :=
  ⟨id, rfl, rfl, fun _ _ _ _ hsel => ⟨hsel, rfl, rfl, rfl⟩⟩

theorem Fewer.trans (h : Fewer br b) (h' : Fewer b b') : Fewer br b' where
  enabled hen := h.enabled (h'.enabled hen)
  ports := h'.ports.trans h.ports
  trees := h'.trees.trans h.trees
  entry p hp t ht hsel := by
    obtain ⟨hmid, hsame', htree', hnumber'⟩ :=
      h'.entry p (h.ports.symm ▸ hp) t (h.trees.symm ▸ ht) hsel
    obtain ⟨hbefore, hsame, htree, hnumber⟩ := h.entry p hp t ht hmid
    exact ⟨hbefore, hsame'.trans hsame, htree'.trans htree, hnumber'.trans hnumber⟩

/-- A frame that keeps what is announced and what is selected. -/
theorem Fewer.of_frame {o : Owned} (h : Frame o br b)
    (hconfig : ∀ c : Bridge, ((o.config c.config).bridgeEnabled, (o.config c.config).ports,
      (o.config c.config).trees) = (c.bridgeEnabled, c.ports, c.trees))
    (hptp : ∀ x, (announced (o.ptp x), (o.ptp x).selected) = (announced x, x.selected))
    (htree : ∀ x, treeInfo (o.tree x) = treeInfo x)
    (hport : ∀ x, (o.port x).portNumber = x.portNumber) : Fewer br b := by
  have hc := h.config_eq (fun c => (c.bridgeEnabled, c.ports, c.trees)) hconfig
  simp only [Prod.mk.injEq] at hc
  refine ⟨fun hen => hc.1 ▸ hen, hc.2.1, hc.2.2, fun p _ t _ hsel => ?_⟩
  have hx := h.ptp_eq (fun x => (announced x, x.selected)) hptp p t
  rw [Prod.mk.injEq] at hx
  exact ⟨hx.2 ▸ hsel, hx.1, h.tree_eq treeInfo htree t, h.port_eq Port.portNumber hport p⟩

/-- Everything but what is announced and where. -/
def besideAnnounced : Owned where
  config c := { bridgeEnabled := c.bridgeEnabled, ports := c.ports, trees := c.trees }
  ptp x :=
    { designatedPriority := x.designatedPriority, designatedTimes := x.designatedTimes
      selected := x.selected }
  port x := { portNumber := x.portNumber }
  tree x :=
    { bridgeIdentifier := x.bridgeIdentifier, rootPriority := x.rootPriority
      rootTimes := x.rootTimes }
  out _ := true

theorem Fewer.beside (h : Frame besideAnnounced br b) : Fewer br b :=
  Fewer.of_frame h (fun _ => rfl) (fun _ => rfl) (fun _ => rfl) fun _ => rfl

theorem Fewer.setPtp {p : PortRef} {t : Mstid} {f : PerTreePort → PerTreePort}
    (hf : ∀ x, announced (f x) = announced x ∧ ((f x).selected = true → x.selected = true)) :
    Fewer br (br.setPtp p t f) := by
  refine ⟨id, rfl, rfl, fun q _ u _ hsel => ?_⟩
  have hentry : (br.setPtp p t f).ptp q u = f (br.ptp q u) ∨
      (br.setPtp p t f).ptp q u = br.ptp q u := by
    simp only [Bridge.setPtp]
    split
    · exact Or.inl rfl
    · exact Or.inr rfl
  rcases hentry with h | h
  · rw [h] at hsel ⊢
    exact ⟨(hf _).2 hsel, (hf _).1, rfl, rfl⟩
  · rw [h] at hsel ⊢
    exact ⟨hsel, rfl, rfl, rfl⟩

end Fewer

/-! ## Steps -/

section Steps

variable {br b : Bridge} {t : Mstid}

/-- A machine of the entry writes neither what is announced nor the tree. -/
theorem pismTo_fewer (p : PortRef) (t : Mstid) (s : PismState) (br : Bridge) :
    Fewer br (pismTo p t s br) := by
  have hframe := pismTo_frame p t s br
  refine ⟨fun hen => hframe.enabled_eq ▸ hen, hframe.ports_eq, hframe.trees_eq,
    fun q _ u _ hsel => ⟨?_, ?_, ?_, ?_⟩⟩
  · by_cases hs : s = .update
    · subst hs
      have hkeep : ((pismTo p t .update br).ptp q u).selected = (br.ptp q u).selected := by
        simp only [pismTo, pismToUpdate, setNewInfo, Bridge.setPort, Bridge.setPtp]
        split <;> rfl
      exact hkeep ▸ hsel
    · exact (pismTo_less hs p t br q u).2 hsel
  · exact hframe.ptp_eq announced (fun _ => rfl) q u
  · exact hframe.tree_eq treeInfo (fun _ => rfl) u
  · exact hframe.port_eq Port.portNumber (fun _ => rfl) q

/-- The entries of the tree announce what has just been selected, the others what they did. -/
theorem AllAnnounce.roleSelection (hi : AllAnnounce br)
    (hids : ∀ p ∈ br.ports, systemId (br.ptp p t).portId = (br.port p).portNumber) :
    AllAnnounce (prssmToRoleSelection t br) := by
  have hframe := prssmToRoleSelection_frame t br
  intro hen p hp u hu hsel
  rw [hframe.enabled_eq] at hen
  rw [hframe.ports_eq] at hp
  rw [hframe.trees_eq] at hu
  rw [hframe.port_eq Port.portNumber (fun _ => rfl) p]
  by_cases h : u = t
  · subst h
    rw [roleSelection_self u hp, roleSelection_tree_self]
    constructor
    · rfl
    · rfl
    · rfl
    · simp only [newDesignatedPriority, designatedPriorityOf]
      split
      · rename_i hcist
        simp only [Bool.and_eq_true, beq_iff_eq] at hcist
        exact Or.inr ⟨hcist.1, rfl⟩
      · exact Or.inl rfl
    · rfl
    · exact hids p hp
    · rfl
  · have hother := roleSelection_other_eq (fun x => (announced x, x.selected)) (fun _ => rfl) h br p
    rw [Prod.mk.injEq] at hother
    refine (hi hen p hp u hu (hother.2 ▸ hsel)).congr ?_ hother.1
    rw [roleSelection_tree_other h]

/-- After BEGIN no entry is in effect. -/
theorem allAnnounce_bridgeBegin (br : Bridge) : AllAnnounce (bridgeBegin br) := by
  intro hen p hp t ht hsel
  by_cases hon : br.bridgeEnabled = true
  · have hbegun := bridgeBegin_begun hon
    rw [hbegun.ports] at hp
    rw [hbegun.trees] at ht
    exact absurd hsel (hbegun.waiting (p, t) (mem_ptpRefs.mpr ⟨hp, ht⟩)).not_selected
  · rw [bridgeBegin_disabled (by simpa using hon)] at hen
    exact absurd hen hon

/-- Port information that begins is not in effect. -/
theorem pismBegin_fewer (p : PortRef) (t : Mstid) (br : Bridge) : Fewer br (pismBegin p t br) := by
  have hframe := pismBegin_frame p t br
  refine ⟨fun hen => hframe.enabled_eq ▸ hen, hframe.ports_eq, hframe.trees_eq,
    fun q _ u _ hsel => ⟨(pismBegin_less p t br q u).2 hsel, ?_, ?_, ?_⟩⟩
  · exact hframe.ptp_eq announced (fun _ => rfl) q u
  · exact hframe.tree_eq treeInfo (fun _ => rfl) u
  · exact hframe.port_eq Port.portNumber (fun _ => rfl) q

theorem announce_begin : BeginInv fun b => AllAnnounce b ∧ PortIds b := by
  refine BeginInv.of_pism (fun b b' hf hb => ⟨hb.1.fewer ?_, ?_⟩)
    fun b q t hb _ _ => ⟨hb.1.fewer (pismBegin_fewer q t b), ?_⟩
  · exact Fewer.of_frame hf (fun _ => rfl) (fun _ => rfl) (fun _ => rfl) fun _ => rfl
  · exact hb.2.congr hf.ports_eq hf.trees_eq (hf.ptp_eq PerTreePort.portId fun _ => rfl)
      (hf.port_eq Port.portNumber fun _ => rfl)
  · have hframe := pismBegin_frame q t b
    exact hb.2.congr hframe.ports_eq hframe.trees_eq (hframe.ptp_eq PerTreePort.portId fun _ => rfl)
      (hframe.port_eq Port.portNumber fun _ => rfl)

/-- A new port announces nothing before roles have been selected for it. -/
theorem AllAnnounce.addPort (hi : AllAnnounce br) {p : PortRef} (portno : UInt16) (name : String)
    (speed duplex : Int) : AllAnnounce (addPort p portno name speed duplex br) := by
  intro hen q hq t ht hsel
  have htrees : t ∈ br.trees := ht
  rw [Mstpd.addPort] at hsel ⊢
  simp only [setPortPtps, setPort] at hsel ⊢
  by_cases h : q = p
  · rw [if_pos ⟨h, htrees⟩] at hsel
    cases hsel
  · have hold : q ∈ br.ports := by
      rcases List.mem_append.mp hq with hold | hnew
      · exact hold
      · exact absurd (List.mem_singleton.mp hnew) h
    have hother : ¬ (q = p ∧ t ∈ br.trees) := fun hand => h hand.1
    rw [if_neg hother] at hsel ⊢
    rw [if_neg h]
    exact hi hen q hold t htrees hsel

theorem AllAnnounce.addTree (hi : AllAnnounce br) {mstid : UInt16} {trees : List Mstid}
    (htrees : ∀ s ∈ trees, s = mstid ∨ s ∈ br.trees) : AllAnnounce (addTree mstid trees br) := by
  intro hen q hq s hs hsel
  have hports : q ∈ br.ports := hq
  rw [Mstpd.addTree] at hsel ⊢
  simp only [setTreePtps, setTree] at hsel ⊢
  by_cases h : s = mstid
  · rw [if_pos ⟨h, hports⟩] at hsel
    cases hsel
  · have hother : ¬ (s = mstid ∧ q ∈ br.ports) := fun hand => h hand.1
    rw [if_neg hother] at hsel ⊢
    rw [if_neg h]
    exact hi hen q hports s ((htrees s hs).resolve_left h) hsel

/-- The times of the bridge are written with a request for role selection. -/
theorem propagateBridgeTimes_fewer (br : Bridge) : Fewer br (propagateBridgeTimes br) := by
  rw [propagateBridgeTimes]
  refine forAll_inv (I := fun b => Fewer br b) (fun s _ b hb => ?_) (Fewer.refl br)
  refine hb.trans ⟨id, rfl, rfl, ?_⟩
  intro p hp t ht hsel
  simp only [setTreePtps, setTree] at hsel
  split at hsel
  · cases hsel
  · rename_i hno
    refine ⟨hsel, ?_, ?_, rfl⟩
    · simp only [setTreePtps, setTree, if_neg hno]
    · simp only [setTreePtps, setTree]
      split <;> rfl

theorem setTree_self {f : Tree → Tree} (h : f (br.tree t) = br.tree t) : br.setTree t f = br := by
  have hall : (fun s => if s = t then f (br.tree s) else br.tree s) = br.tree := by
    funext s
    split
    · rename_i hs
      rw [hs, h]
    · rfl
  simp only [setTree, hall]

/-- The address that all trees have already. -/
theorem writeAddress_self {macaddr : BitVec 48}
    (h : ¬ (br.trees.any fun s => (br.tree s).bridgeIdentifier.macAddress != macaddr) = true) :
    writeAddress macaddr br = br := by
  simp only [Bool.not_eq_true, List.any_eq_false, bne_iff_ne, not_not] at h
  rw [writeAddress]
  refine forAll_inv (I := fun b => b = br) (fun s hs b hb => ?_) rfl
  subst hb
  refine setTree_self ?_
  rw [treeAddress, if_pos (h s hs)]

/-! ## Management -/

theorem writePtpConfig_fewer (p : PortRef) (cfg : MstiPortConfig) :
    Fewer br (writePtpConfig p t cfg br) := by
  have hassign : Fewer br (br.setPtp p t (assignPtpConfig (br.port p).speed cfg)) :=
    Fewer.setPtp fun _ => ⟨rfl, id⟩
  rw [writePtpConfig]
  split
  · exact hassign.trans (Fewer.setPtp fun _ => ⟨rfl, fun hsel => Bool.noConfusion hsel⟩)
  · exact hassign

theorem writePortConfig_fewer (p : PortRef) (cfg : CistPortConfig) :
    Fewer br (writePortConfig p cfg br) := by
  have hask : ∀ c : Bool, Fewer br ((br.setPtp p 0 fun ptp =>
      { ptp with selected := ptp.selected && !c, reselect := ptp.reselect || c }).setPort p
        (assignPortConfig cfg)) := by
    intro c
    have hassign : ∀ b : Bridge, Frame besideAnnounced b (b.setPort p (assignPortConfig cfg)) :=
      fun _ => Frame.setPort fun _ => rfl
    have hrequest : Fewer br (br.setPtp p 0 fun ptp =>
        { ptp with selected := ptp.selected && !c, reselect := ptp.reselect || c }) :=
      Fewer.setPtp fun _ => ⟨rfl, fun hsel => (Bool.and_eq_true_iff.mp hsel).1⟩
    exact hrequest.trans (Fewer.beside (hassign _))
  rw [writePortConfig]
  split
  · exact hask _
  · refine (hask _).trans (Fewer.of_frame (bdsmTo_frame p _ _) (fun _ => rfl) (fun _ => rfl)
      (fun _ => rfl) fun _ => rfl)

/-- A new priority of the bridge in a tree puts no entry of the tree into effect. -/
theorem setMstiBridgeConfig_fewer (prio : UInt8) :
    Fewer br (mstpInSetMstiBridgeConfig t prio br).1 := by
  rw [mstpInSetMstiBridgeConfig]
  split
  · exact Fewer.refl br
  · dsimp only
    split
    · exact Fewer.refl br
    · refine ⟨id, rfl, rfl, fun p hp u hu hsel => ?_⟩
      simp only [setTreePtps, setTree] at hsel
      by_cases h : u = t
      · rw [if_pos ⟨h, hp⟩] at hsel
        cases hsel
      · have hother : ¬ (u = t ∧ p ∈ br.ports) := fun hand => h hand.1
        rw [if_neg hother] at hsel
        refine ⟨hsel, ?_, ?_, rfl⟩
        · simp only [setTreePtps, setTree, if_neg hother]
        · simp only [setTreePtps, setTree, if_neg h]

theorem writeBridgeConfig_fewer (cfg : CistBridgeConfig) : Fewer br (writeBridgeConfig cfg br) := by
  have hassign : Fewer br (assignParameters cfg br) :=
    Fewer.beside ⟨rfl, fun _ _ => rfl, fun _ => rfl, fun _ => rfl, rfl⟩
  have hreset : Fewer br (resetTxCounts (assignParameters cfg br)) := by
    have hreset : ∀ p b, Frame besideAnnounced b
        (b.setPort p fun prt => { prt with txCount := 0 }) :=
      fun _ _ => Frame.setPort fun _ => rfl
    refine hassign.trans (Fewer.beside ?_)
    rw [resetTxCounts]
    exact Frame.forAll hreset _ _
  have hboth : Fewer br (if holdCountChanges cfg br then resetTxCounts (assignParameters cfg br)
      else assignParameters cfg br) := by
    split
    · exact hreset
    · exact hassign
  rw [writeBridgeConfig]
  split
  · exact hboth.trans (propagateBridgeTimes_fewer _)
  · exact hboth

end Steps

/-! ## Over runs -/

section Runs

variable {br : Bridge}

/-- The actions that select roles or change a list. -/
def Act.relabels : Act → Bool
  | .prssm _ => true
  | .createPort _ _ _ _ _ => true
  | .createMsti _ _ => true
  | .removePort _ => true
  | .removeMsti _ => true
  | _ => false

/-- All other actions put nothing into effect, or end with BEGIN. -/
theorem Act.fewer_or_begin {a : Act} (ha : a.relabels = false) :
    Fewer br (a.run br) ∨ ∃ b, a.run br = bridgeBegin b := by
  cases a with
  | prssm | createPort | createMsti | removePort | removeMsti => cases ha
  | pism q t s => exact Or.inl (pismTo_fewer q t s br)
  | markDeleted q =>
    have hmark : Frame besideAnnounced br (Mstpd.markDeleted q br) := Frame.setPort fun _ => rfl
    exact Or.inl (Fewer.beside hmark)
  | linkDown q =>
    have hdown : Frame besideAnnounced br
        (br.setPort q fun prt => { prt with portEnabled := false }) := Frame.setPort fun _ => rfl
    exact Or.inl (Fewer.beside hdown)
  | sysdeps q speed duplex =>
    have hnote : Frame besideAnnounced br
        (br.setPort q fun prt => { prt with speed := speed, duplex := duplex }) :=
      Frame.setPort fun _ => rfl
    exact Or.inl (Fewer.beside hnote)
  | switchBridge up => exact Or.inr ⟨_, rfl⟩
  | bridgeAddress macaddr =>
    rw [Act.run]
    split
    · exact Or.inr ⟨_, rfl⟩
    · rename_i hsame
      rw [writeAddress_self hsame]
      exact Or.inl (Fewer.refl br)
  | bridgeConfig cfg =>
    rw [Act.run]
    split
    · exact Or.inr ⟨_, rfl⟩
    · exact Or.inl (writeBridgeConfig_fewer cfg)
  | tables env changed vid2fid fid2mstid =>
    cases changed with
    | true => exact Or.inr ⟨_, rfl⟩
    | false =>
      exact Or.inl (Fewer.beside ⟨rfl, fun _ _ => rfl, fun _ => rfl, fun _ => rfl, rfl⟩)
  | configId revision name => exact Or.inr ⟨_, rfl⟩
  | mstiBridgeConfig t prio => exact Or.inl (setMstiBridgeConfig_fewer prio)
  | mstiPortConfig p t cfg => exact Or.inl (writePtpConfig_fewer p cfg)
  | mcheck p =>
    have hcheck : Frame besideAnnounced br (requestMcheck p br) :=
      Frame.after (Frame.setPtp fun _ => rfl) (Frame.setPort fun _ => rfl)
    exact Or.inl (Fewer.beside hcheck)
  | portConfig p cfg => exact Or.inl (writePortConfig_fewer p cfg)
  | _ =>
    exact Or.inl (Fewer.of_frame (Act.frame _ br) (fun _ => rfl) (fun _ => rfl) (fun _ => rfl)
      fun _ => rfl)

theorem AllAnnounce.act (hi : AllAnnounce br) (hc : Configured br) {a : Act} (hg : a.Guard br)
    (hafter : Configured (a.run br)) : AllAnnounce (a.run br) := by
  have hrest : a.relabels = false → AllAnnounce (a.run br) := by
    intro ha
    have hcases : Fewer br (a.run br) ∨ ∃ b, a.run br = bridgeBegin b := Act.fewer_or_begin ha
    rcases hcases with hfewer | ⟨b, hb⟩
    · exact hi.fewer hfewer
    · rw [hb]
      exact allAnnounce_bridgeBegin b
  cases a with
  | prssm t => exact hi.roleSelection fun p hp => hc.portIds p hp t hg.2.1
  | createPort q portno name speed duplex =>
    have hlisted : q ∈ (Mstpd.addPort q portno name speed duplex br).ports :=
      List.mem_append_right _ List.mem_cons_self
    have hids : PortIds (Mstpd.addPort q portno name speed duplex br) :=
      PortIds.of_machines hafter.portIds (portBegin_machines hlisted)
    exact (announce_begin.port (fun b t hb ht _ =>
      ⟨hb.1.roleSelection fun p hp => hb.2 p hp t ht, hb.2.roleSelection⟩) hlisted
      ⟨hi.addPort portno name speed duplex, hids⟩).1
  | createMsti mstid trees =>
    have hmem := insertAfterLast_mem hg.2.2.2.2
    have hlisted : mstid ∈ (Mstpd.addTree mstid trees br).trees := (hmem mstid).mpr (Or.inl rfl)
    have hids : PortIds (Mstpd.addTree mstid trees br) :=
      PortIds.of_machines hafter.portIds (treeBegin_machines hlisted)
    exact (announce_begin.tree hlisted ⟨hi.addTree fun s hs => (hmem s).mp hs, hids⟩).1
  | removePort q => exact fun hen p hp => hi hen p (List.mem_of_mem_erase hp)
  | removeMsti u => exact fun hen p hp t ht => hi hen p hp t (List.mem_of_mem_erase ht)
  | _ => exact hrest rfl

end Runs

end Mstpd
