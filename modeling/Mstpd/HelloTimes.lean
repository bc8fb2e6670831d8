import Mstpd.MessageAge

/-!
# Hello times

The hello time of a port is that of the bridge in every tree, whatever received BPDUs carry,
and role selection copies it into the times that a later update takes over. As it is never
zero, the calls of the transmit machine end.
-/

namespace Mstpd

open Bridge Machine

/-! ## What management leaves alone -/

/-- The settings of the bridge, its trees and its ports. -/
def settingsOwned : Owned :=
  { quietOwned with
    port := fun x => { quietOwned.port x with bdsmState := x.bdsmState, operEdge := x.operEdge } }

/-- With requests for role selection. -/
def askOwned : Owned :=
  { settingsOwned with
    ptp := fun x => quietOwned.ptp { x with selected := false, reselect := false } }

instance : settingsOwned.KeepsLists := ⟨fun _ => rfl, fun _ => rfl⟩

instance : askOwned.KeepsLists := ⟨fun _ => rfl, fun _ => rfl⟩

instance : settingsOwned.Within askOwned :=
  ⟨fun _ => rfl, fun _ => rfl, fun _ => rfl, fun _ => rfl, fun _ h => absurd h Bool.false_ne_true⟩

section Management

variable (br : Bridge)

theorem setMstiBridgeConfig_asks (t : Mstid) (prio : UInt8) :
    Frame askOwned br (mstpInSetMstiBridgeConfig t prio br).1 := by
  rw [mstpInSetMstiBridgeConfig]
  split
  · exact Frame.refl _ br
  · dsimp only
    split
    · exact Frame.refl _ br
    · dsimp only
      exact Frame.after (Frame.setTreePtps fun _ _ => rfl) (Frame.setTree fun _ => rfl)

theorem writePtpConfig_asks (p : PortRef) (t : Mstid) (cfg : MstiPortConfig) :
    Frame askOwned br (writePtpConfig p t cfg br) := by
  have hassign : Frame askOwned br (br.setPtp p t (assignPtpConfig (br.port p).speed cfg)) :=
    Frame.setPtp fun _ => rfl
  rw [writePtpConfig]
  exact Frame.ite (hassign.trans (Frame.setPtp fun _ => rfl)) hassign

theorem requestMcheck_settings (p : PortRef) : Frame settingsOwned br (requestMcheck p br) := by
  rw [requestMcheck]
  exact Frame.after (Frame.setPtp fun _ => rfl) (Frame.setPort fun _ => rfl)

/-- A port whose `AdminEdge` changes begins bridge detection anew. -/
theorem writePortConfig_asks (p : PortRef) (cfg : CistPortConfig) :
    ∃ b, Frame askOwned br b ∧
      (writePortConfig p cfg br = b ∨ writePortConfig p cfg br = bdsmBegin p b) := by
  have hassign : ∀ c : Bool, Frame askOwned br ((br.setPtp p 0 fun ptp =>
      { ptp with selected := ptp.selected && !c, reselect := ptp.reselect || c }).setPort p
        (assignPortConfig cfg)) := fun c =>
    Frame.after (Frame.setPort fun _ => rfl) (Frame.setPtp fun _ => rfl)
  refine ⟨_, hassign (costChanges p cfg br), ?_⟩
  rw [writePortConfig]
  split
  · exact Or.inl rfl
  · exact Or.inr rfl

theorem writeAddress_settings (macaddr : BitVec 48) :
    Frame settingsOwned br (writeAddress macaddr br) := by
  rw [writeAddress]
  refine Frame.forAll (fun s b => Frame.setTree fun x => ?_) br.trees br
  rw [treeAddress]
  split <;> rfl

theorem writeTables_settings (env : Env) (changed : Bool) (vid2fid fid2mstid : Nat → UInt16) :
    Frame settingsOwned br (writeTables env changed vid2fid fid2mstid br) :=
  Frame.ite ⟨rfl, fun _ _ => rfl, fun _ => rfl, fun _ => rfl, rfl⟩
    ⟨rfl, fun _ _ => rfl, fun _ => rfl, fun _ => rfl, rfl⟩

theorem writeConfigId_settings (revision : UInt16) (name : List UInt8) :
    Frame settingsOwned br (writeConfigId revision name br) :=
  ⟨rfl, fun _ _ => rfl, fun _ => rfl, fun _ => rfl, rfl⟩

/-- Only the change of the bridge times refreshes hello times. -/
theorem writeBridgeConfig_settings (cfg : CistBridgeConfig) :
    ∃ b, Frame settingsOwned br b ∧ b.helloTime = br.helloTime ∧
      (writeBridgeConfig cfg br = b ∨ writeBridgeConfig cfg br = propagateBridgeTimes b) := by
  have hassign : Frame settingsOwned br (assignParameters cfg br) :=
    ⟨rfl, fun _ _ => rfl, fun _ => rfl, fun _ => rfl, rfl⟩
  have hreset : ∀ b, Frame settingsOwned b (resetTxCounts b) := by
    intro b
    have hset : ∀ q c, Frame settingsOwned c (c.setPort q fun prt => { prt with txCount := 0 }) :=
      fun _ _ => Frame.setPort fun _ => rfl
    rw [resetTxCounts]
    exact Frame.forAll hset b.ports b
  have hboth := Frame.ite (c := holdCountChanges cfg br) (hassign.trans (hreset _)) hassign
  refine ⟨_, hboth, hboth.config_eq Bridge.helloTime fun _ => rfl, ?_⟩
  rw [writeBridgeConfig]
  split
  · exact Or.inr rfl
  · exact Or.inl rfl

end Management

/-! ## Hello times -/

/-- The hello time of a port, and the one it will have with its role. -/
def helloTimes (x : PerTreePort) : UInt8 × UInt8 :=
  (x.portTimes.helloTime, x.designatedTimes.helloTime)

/-- The role of the entry has been selected before, or is at the moment. -/
structure HelloEntry (seen : Prop) (x : PerTreePort) : Prop where
  port : x.portTimes.helloTime = 2
  designated : seen ∨ x.selected = true → x.designatedTimes.helloTime = 2

/-- Every listed entry has the hello time of the bridge. -/
def HelloKept (seen : PortRef → Mstid → Prop) (br : Bridge) : Prop :=
  ∀ p ∈ br.ports, ∀ t ∈ br.trees, HelloEntry (seen p t) (br.ptp p t)

/-- Fewer entries are selected, and none has another hello time. -/
def HelloLess (br b : Bridge) : Prop :=
  ∀ p t, helloTimes (b.ptp p t) = helloTimes (br.ptp p t) ∧
    ((b.ptp p t).selected = true → (br.ptp p t).selected = true)

/-- Everything but hello times and what is selected. -/
def besideHello : Owned where
  config b := { ports := b.ports, trees := b.trees }
  ptp x :=
    { portTimes := { (0 : Times) with helloTime := x.portTimes.helloTime }
      designatedTimes := { (0 : Times) with helloTime := x.designatedTimes.helloTime }
      selected := x.selected }
  port _ := {}
  tree _ := {}
  out _ := true

instance : besideHello.KeepsLists := ⟨fun _ => rfl, fun _ => rfl⟩

instance : messageOwned.Within besideHello :=
  ⟨fun _ => rfl, fun _ => rfl, fun _ => rfl, fun _ => rfl, fun _ _ => rfl⟩

section HelloLess

variable {br b b' : Bridge}

theorem HelloLess.trans (h : HelloLess br b) (h' : HelloLess b b') : HelloLess br b' := fun p t =>
  ⟨(h' p t).1.trans (h p t).1, fun hsel => (h p t).2 ((h' p t).2 hsel)⟩

theorem HelloLess.frame {o : Owned} (h : Frame o br b)
    (ho : ∀ x, (helloTimes (o.ptp x), (o.ptp x).selected) = (helloTimes x, x.selected)) :
    HelloLess br b := by
  intro p t
  have hsame := h.ptp_eq (fun x => (helloTimes x, x.selected)) ho p t
  rw [Prod.mk.injEq] at hsame
  exact ⟨hsame.1, fun hsel => hsame.2.symm.trans hsel⟩

theorem HelloLess.setPtp {p : PortRef} {t : Mstid} {f : PerTreePort → PerTreePort}
    (hf : ∀ x, helloTimes (f x) = helloTimes x ∧ ((f x).selected = true → x.selected = true)) :
    HelloLess br (br.setPtp p t f) := by
  intro q s
  simp only [Bridge.setPtp]
  split
  · exact hf _
  · exact ⟨rfl, id⟩

/-- The times of a message are recorded, but for the hello time. -/
theorem superiorDesignated_less (p : PortRef) (t : Mstid) (br : Bridge) :
    HelloLess br (pismToSuperiorDesignated p t br) := by
  have hframe : ∀ b : Bridge, Frame besideHello br b → Frame besideHello br
      (updtRcvdInfoWhile p t (recordTimes p t (recordPriority p t b))) := by
    intro b hb
    refine Frame.after (updtRcvdInfoWhile_frame p t _).mono ?_
    exact Frame.after (Frame.setPtp fun _ => rfl) (Frame.after (Frame.setPtp fun _ => rfl) hb)
  rw [pismToSuperiorDesignated]
  refine HelloLess.trans (HelloLess.frame (hframe _ ?_) fun _ => rfl) (HelloLess.setPtp ?_)
  · refine Frame.after (Frame.setPtp fun _ => rfl) ?_
    refine Frame.after (recordAgreement_frame p t _).mono
      (Frame.after (Frame.setPtp fun _ => rfl) ?_)
    refine Frame.after (setTcFlags_frame p t _).mono
      (Frame.after (recordProposal_frame p t _).mono ?_)
    exact Frame.after (Frame.setPtp fun _ => rfl) (Frame.setPort fun _ => rfl)
  · exact fun x => ⟨rfl, fun hsel => Bool.noConfusion hsel⟩

theorem pismBegin_less (p : PortRef) (t : Mstid) (br : Bridge) :
    HelloLess br (pismBegin p t br) := by
  have hstart : HelloLess br (br.setPtp p t fun ptp => { ptp with startTime := br.uptime }) :=
    HelloLess.setPtp fun _ => ⟨rfl, id⟩
  rw [pismBegin, pismToDisabled]
  exact hstart.trans (HelloLess.setPtp fun x => ⟨rfl, fun hsel => Bool.noConfusion hsel⟩)

theorem pismTo_less {s : PismState} (hs : s ≠ .update) (p : PortRef) (t : Mstid) (br : Bridge) :
    HelloLess br (pismTo p t s br) := by
  cases s with
  | update => exact absurd rfl hs
  | disabled =>
    rw [pismTo, pismToDisabled]
    exact HelloLess.setPtp fun x => ⟨rfl, fun hsel => Bool.noConfusion hsel⟩
  | aged =>
    rw [pismTo, pismToAged]
    exact HelloLess.setPtp fun x => ⟨rfl, fun hsel => Bool.noConfusion hsel⟩
  | superiorDesignated => exact superiorDesignated_less p t br
  | repeatedDesignated =>
    exact HelloLess.frame (pismToRepeatedDesignated_frame p t br) fun _ => rfl
  | inferiorDesignated =>
    exact HelloLess.frame (pismToInferiorDesignated_frame p t br) fun _ => rfl
  | notDesignated => exact HelloLess.frame (pismToNotDesignated_frame p t br) fun _ => rfl
  | other => exact HelloLess.frame (pismToOther_frame p t br) fun _ => rfl
  | current => exact HelloLess.frame (pismToCurrent_frame p t br) fun _ => rfl
  | receive => exact HelloLess.frame (pismToReceive_frame p t br) fun _ => rfl

/-- Role selection in another tree. -/
theorem roleSelection_less {t u : Mstid} (h : u ≠ t) (p : PortRef) (br : Bridge) :
    helloTimes ((prssmToRoleSelection t br).ptp p u) = helloTimes (br.ptp p u) ∧
      ((prssmToRoleSelection t br).ptp p u).selected = (br.ptp p u).selected := by
  have hset : ∀ (b : Bridge) f, (b.setTreePtps t f).ptp p u = b.ptp p u := fun b f => by
    simp only [setTreePtps, h, false_and, if_false]
  have hsync : ∀ (c : Bool) (b : Bridge),
      helloTimes ((if c then syncMaster b else b).ptp p u) = helloTimes (b.ptp p u) ∧
        ((if c then syncMaster b else b).ptp p u).selected = (b.ptp p u).selected := by
    intro c b
    cases c
    · exact ⟨rfl, rfl⟩
    · simp only [if_true, syncMaster]
      split <;> exact ⟨rfl, rfl⟩
  have hroles : ∀ root (b : Bridge),
      helloTimes ((updtSelectedRoles t root b).ptp p u) = helloTimes (b.ptp p u) ∧
        ((updtSelectedRoles t root b).ptp p u).selected = (b.ptp p u).selected := by
    intro root b
    simp only [updtSelectedRoles, h, if_false]
    split
    · split <;> exact ⟨rfl, rfl⟩
    · exact ⟨rfl, rfl⟩
  have hbefore : ∀ f, (clearReselectTree t (br.setTree t f)).ptp p u = br.ptp p u := by
    intro f
    rw [clearReselectTree, hset]
    rfl
  rw [prssmToRoleSelection, setSelectedTree, hset, updtRolesTree]
  generalize hb : clearReselectTree t (br.setTree t _) = b
  have hdesignated := updtDesignated_ptp_other b (selectRoot b t) (q := p) fun hut => h hut.1
  have hptp : b.ptp p u = br.ptp p u := hb ▸ hbefore _
  rw [(hroles _ _).1, (hroles _ _).2, (hsync _ _).1, (hsync _ _).2, hdesignated, hptp]
  exact ⟨rfl, rfl⟩

end HelloLess

section HelloKept

variable {seen : PortRef → Mstid → Prop} {br b : Bridge}

theorem HelloEntry.congr {was : Prop} {x y : PerTreePort} (h : HelloEntry was x)
    (hsame : helloTimes y = helloTimes x) (hsel : y.selected = true → x.selected = true) :
    HelloEntry was y := by
  rw [helloTimes, helloTimes, Prod.mk.injEq] at hsame
  exact ⟨hsame.1.trans h.port, fun hy => hsame.2.trans (h.designated (hy.imp_right hsel))⟩

theorem HelloKept.less (hi : HelloKept seen br) (h : HelloLess br b) (hports : b.ports = br.ports)
    (htrees : b.trees = br.trees) : HelloKept seen b := fun p hp t ht =>
  (hi p (hports ▸ hp) t (htrees ▸ ht)).congr (h p t).1 (h p t).2

theorem HelloKept.frame (hi : HelloKept seen br) {o : Owned} (h : Frame o br b)
    (hports : ∀ c : Bridge, (o.config c.config).ports = c.ports)
    (htrees : ∀ c : Bridge, (o.config c.config).trees = c.trees)
    (ho : ∀ x, (helloTimes (o.ptp x), (o.ptp x).selected) = (helloTimes x, x.selected)) :
    HelloKept seen b :=
  hi.less (HelloLess.frame h ho) (h.config_eq Bridge.ports hports) (h.config_eq Bridge.trees htrees)

/-- What at most asks for selection leaves hello times alone. -/
theorem HelloKept.managed (hi : HelloKept seen br) (hm : Managed br b) (hports : b.ports = br.ports)
    (htrees : b.trees = br.trees)
    (htimes : ∀ p t, helloTimes (b.ptp p t) = helloTimes (br.ptp p t)) : HelloKept seen b := by
  intro p hp t ht
  refine (hi p (hports ▸ hp) t (htrees ▸ ht)).congr (htimes p t) fun hsel => ?_
  rcases hm p hp t ht with hw | ⟨-, -, hagain⟩
  · exact absurd hsel hw.not_selected
  · simp only [AsksAgain, roleFields, Prod.mk.injEq] at hagain
    rcases hagain with hkept | hagain
    · exact hkept.1.symm.trans hsel
    · exact absurd (hagain.1.symm.trans hsel) Bool.false_ne_true

theorem HelloKept.pism (hi : HelloKept seen br) {q : PortRef} {u : Mstid} {s : PismState}
    (hnext : pismNext br q u = some s) : HelloKept seen (pismTo q u s br) := by
  have hlists := pismTo_frame q u s br
  by_cases hs : s = .update
  · -- the role is in effect, so its times are those of the last selection
    subst hs
    have hselected : (br.ptp q u).selected = true := (pismNext_update hnext).1
    intro p hp t ht
    rw [hlists.ports_eq] at hp
    rw [hlists.trees_eq] at ht
    have hentry := hi p hp t ht
    by_cases h : p = q ∧ t = u
    · obtain ⟨rfl, rfl⟩ := h
      have hown : ((pismTo p t .update br).ptp p t).portTimes = (br.ptp p t).designatedTimes ∧
          ((pismTo p t .update br).ptp p t).designatedTimes = (br.ptp p t).designatedTimes := by
        simp [pismTo, pismToUpdate, setNewInfo, setPtp, setPort]
      constructor
      · rw [hown.1]
        exact hentry.designated (Or.inr hselected)
      · intro _
        rw [hown.2]
        exact hentry.designated (Or.inr hselected)
    · have hsame : (pismTo q u .update br).ptp p t = br.ptp p t := by
        simp [pismTo, pismToUpdate, setNewInfo, setPtp, setPort, h]
      rw [hsame]
      exact hentry
  · exact hi.less (pismTo_less hs q u br) hlists.ports_eq hlists.trees_eq

theorem HelloKept.roleSelection (hi : HelloKept seen br) (u : Mstid) :
    HelloKept seen (prssmToRoleSelection u br) := by
  have hlists := prssmToRoleSelection_frame u br
  intro p hp t ht
  rw [hlists.ports_eq] at hp
  rw [hlists.trees_eq] at ht
  by_cases h : t = u
  · subst h
    rw [roleSelection_self t hp]
    exact ⟨(hi p hp t ht).port, fun _ => (hi p hp t ht).port⟩
  · have hless := roleSelection_less h p br
    exact (hi p hp t ht).congr hless.1 fun hsel => hless.2.symm.trans hsel

theorem helloKept_begin : BeginInv (HelloKept seen) :=
  BeginInv.of_pism (fun _ _ hf hi => hi.frame hf (fun _ => rfl) (fun _ => rfl) fun _ => rfl)
    fun b q t hi _ _ => hi.less (pismBegin_less q t b) (pismBegin_frame q t b).ports_eq
      (pismBegin_frame q t b).trees_eq

theorem HelloKept.propagate (hi : HelloKept seen br) (hhello : br.helloTime = 2) :
    HelloKept seen (propagateBridgeTimes br) := by
  rw [propagateBridgeTimes]
  refine forAll_inv (I := HelloKept seen) (fun s _ b hb => ?_) hi
  intro p hp t ht
  have hentry := hb p hp t ht
  simp only [setTreePtps, setTree]
  split
  · refine ⟨hhello, fun hseen => hentry.designated (Or.inl ?_)⟩
    exact hseen.resolve_right fun hsel => Bool.noConfusion hsel
  · exact hentry

theorem HelloKept.addPort (hi : HelloKept seen br) (hc : Configured br) {q : PortRef}
    (hnew : ∀ t, ¬ seen q t) (portno : UInt16) (name : String) (speed duplex : Int) :
    HelloKept seen (addPort q portno name speed duplex br) := by
  intro p hp t ht
  have htrees : t ∈ br.trees := ht
  rw [Mstpd.addPort]
  simp only [setPortPtps, setPort]
  split
  · rename_i h
    have htimes := (hc.trees t htrees).times
    refine ⟨(congrArg Times.helloTime htimes).trans hc.parameters.helloTime, fun hseen => ?_⟩
    rcases hseen with hseen | hsel
    · exact absurd (h.1 ▸ hseen) (hnew t)
    · cases hsel
  · rename_i h
    refine hi p ?_ t htrees
    rcases List.mem_append.mp hp with hold | hnew'
    · exact hold
    · exact absurd ⟨List.mem_singleton.mp hnew', htrees⟩ h

theorem HelloKept.addTree (hi : HelloKept seen br) (hc : Configured br) {mstid : UInt16}
    (hnew : ∀ p, ¬ seen p mstid) {trees : List Mstid}
    (htrees : ∀ t ∈ trees, t = mstid ∨ t ∈ br.trees) : HelloKept seen (addTree mstid trees br) := by
  intro p hp t ht
  rw [Mstpd.addTree]
  simp only [setTreePtps, setTree]
  split
  · rename_i h
    refine ⟨hc.parameters.helloTime, fun hseen => ?_⟩
    rcases hseen with hseen | hsel
    · exact absurd (h.1 ▸ hseen) (hnew p)
    · cases hsel
  · rename_i h
    refine hi p hp t ((htrees t ht).resolve_left fun heq => h ⟨heq, hp⟩)

end HelloKept

/-! ## Over runs -/

/-- The actions that change the list of trees. -/
def Act.listsTrees : Act → Bool
  | .createMsti _ _ => true
  | .removeMsti _ => true
  | _ => false

theorem Act.trees_eq {a : Act} (ha : a.listsTrees = false) {br : Bridge} :
    (a.run br).trees = br.trees := by
  have hbegin := trees_begin br.trees
  cases a with
  | createMsti => cases ha
  | removeMsti => cases ha
  | createPort q portno name speed duplex =>
    exact hbegin.port (fun b u hb _ _ => (prssmToRoleSelection_frame u b).trees_eq.trans hb)
      (List.mem_append_right _ List.mem_cons_self) rfl
  | switchBridge up => exact hbegin.bridge (resetBridge_frame up br).trees_eq
  | bridgeAddress _ | bridgeConfig _ | tables _ _ _ _ | configId _ _ =>
    exact hbegin.restart (fun b b' hf hb => hf.trees_eq.trans hb) rfl rfl
  | _ => exact (Act.frame _ br).config_eq Bridge.trees fun _ => rfl

/-- Only one action takes a tree out of the list. -/
theorem Act.trees_keep {a : Act} {br : Bridge} (hg : a.Guard br) {t : Mstid} (ht : t ∈ br.trees)
    (ha : a ≠ .removeMsti t) : t ∈ (a.run br).trees := by
  cases a with
  | createMsti mstid trees =>
    have hmem := insertAfterLast_mem hg.2.2.2.2
    have hsame : ((Act.createMsti mstid trees).run br).trees = trees :=
      (trees_begin trees).tree ((hmem mstid).mpr (Or.inl rfl)) rfl
    rw [hsame]
    exact (hmem t).mpr (Or.inr ht)
  | removeMsti u =>
    have hne : t ≠ u := fun h => ha (h ▸ rfl)
    exact (List.mem_erase_of_ne hne).mpr ht
  | _ =>
    rw [Act.trees_eq (by rfl)]
    exact ht

/-- Only one action takes a port out of the list. -/
theorem Act.ports_keep {a : Act} {br : Bridge} (hg : a.Guard br) {p : PortRef} (hp : p ∈ br.ports)
    (ha : a ≠ .removePort p) : p ∈ (a.run br).ports := by
  cases a with
  | createPort q portno name speed duplex =>
    rw [createPort_ports]
    exact List.mem_append_left _ hp
  | removePort q =>
    have hne : p ≠ q := fun h => ha (h ▸ rfl)
    exact (List.mem_erase_of_ne hne).mpr hp
  | _ => exact (Act.ports_eq rfl hg).symm ▸ hp

section Runs

variable {seen : PortRef → Mstid → Prop} {br : Bridge}

theorem HelloKept.act (hi : HelloKept seen br) (hc : Configured br)
    (hseen : ∀ p t, seen p t → p ∈ br.ports ∧ t ∈ br.trees) {a : Act} (hg : a.Guard br) :
    HelloKept seen (a.run br) := by
  have htimes : ∀ {c : Bridge}, Frame askOwned br c → ∀ p t,
      helloTimes (c.ptp p t) = helloTimes (br.ptp p t) := fun hf =>
    hf.ptp_eq helloTimes fun _ => rfl
  have hsettings : ∀ {c : Bridge}, Frame settingsOwned br c → HelloKept seen c := fun hf =>
    hi.frame hf (fun _ => rfl) (fun _ => rfl) fun _ => rfl
  cases a with
  | pism q t s => exact hi.pism hg.2.2.2
  | prssm t => exact hi.roleSelection t
  | createPort q portno name speed duplex =>
    refine helloKept_begin.port (fun c t hc _ _ => hc.roleSelection t) ?_ ?_
    · exact List.mem_append_right _ List.mem_cons_self
    · exact hi.addPort hc (fun t h => hg.1 (hseen q t h).1) portno name speed duplex
  | createMsti mstid trees =>
    have hmem := insertAfterLast_mem hg.2.2.2.2
    refine helloKept_begin.tree ?_ (hi.addTree hc (fun p h => hg.2.2.1 (hseen p mstid h).2) ?_)
    · exact (hmem mstid).mpr (Or.inl rfl)
    · exact fun t => (hmem t).mp
  | removePort q => exact fun p hp => hi p (List.mem_of_mem_erase hp)
  | removeMsti u => exact fun p hp t ht => hi p hp t (List.mem_of_mem_erase ht)
  | markDeleted | linkDown | sysdeps => exact hi
  | switchBridge up =>
    exact helloKept_begin.bridge
      (hi.frame (resetBridge_frame up br) (fun _ => rfl) (fun _ => rfl) fun _ => rfl)
  | bridgeAddress macaddr =>
    exact helloKept_begin.ite (hsettings (writeAddress_settings br macaddr))
  | bridgeConfig cfg =>
    obtain ⟨c, hf, hhello, hwrite⟩ := writeBridgeConfig_settings br cfg
    have hown : c.helloTime = 2 := hhello.trans hc.parameters.helloTime
    refine helloKept_begin.ite ?_
    rcases hwrite with hwrite | hwrite
    · exact hwrite ▸ hsettings hf
    · exact hwrite ▸ (hsettings hf).propagate hown
  | tables env changed vid2fid fid2mstid =>
    exact helloKept_begin.ite (hsettings (writeTables_settings br env changed vid2fid fid2mstid))
  | configId revision name =>
    exact helloKept_begin.bridge (hsettings (writeConfigId_settings br revision name))
  | mstiBridgeConfig t prio =>
    have hf := setMstiBridgeConfig_asks br t prio
    exact hi.managed (Act.managed rfl br) hf.ports_eq hf.trees_eq (htimes hf)
  | mstiPortConfig p t cfg =>
    have hf := writePtpConfig_asks br p t cfg
    exact hi.managed (Act.managed rfl br) hf.ports_eq hf.trees_eq (htimes hf)
  | mcheck p => exact hsettings (requestMcheck_settings br p)
  | portConfig p cfg =>
    obtain ⟨c, hf, hwrite⟩ := writePortConfig_asks br p cfg
    have hbegin := bdsmTo_frame p (if (c.port p).adminEdgePort then .edge else .notEdge) c
    have hm : Managed br (writePortConfig p cfg br) := Act.managed (a := .portConfig p cfg) rfl br
    change HelloKept seen (writePortConfig p cfg br)
    rcases hwrite with hwrite | hwrite
    · rw [hwrite] at hm ⊢
      exact hi.managed hm hf.ports_eq hf.trees_eq (htimes hf)
    · rw [hwrite] at hm ⊢
      refine hi.managed hm (hbegin.ports_eq.trans hf.ports_eq)
        (hbegin.trees_eq.trans hf.trees_eq) ?_
      exact fun q u => (hbegin.ptp_eq helloTimes (fun _ => rfl) q u).trans (htimes hf q u)
  | _ => exact hi.frame (Act.frame _ br) (fun _ => rfl) (fun _ => rfl) fun _ => rfl

end Runs

/-- The port and the tree stay. -/
def keepsEntry (p : PortRef) (t : Mstid) (a : Act) (_ : Bridge) : Prop :=
  a ≠ .removePort p ∧ a ≠ .removeMsti t

theorem VisitedAt.helloKept {C : Act → Bridge → Prop} {k : Phase} {br : Bridge}
    (h : VisitedAt C k br) : HelloKept (fun _ _ => False) br := by
  refine h.inv (I := fun _ b => HelloKept (fun _ _ => False) b) ?_ ?_ fun _ _ _ hi _ _ => hi
  · intro env macaddr p hp
    cases hp
  · intro a k b hv hi hg hat hC
    exact hi.act hv.visited.configured (fun _ _ h => h.elim) hg

/-- Once the role of an entry has been selected, both its hello times are that of the bridge. -/
theorem VisitedAt.helloTimes {k k' : Phase} {br br' : Bridge} {p : PortRef} {t : Mstid}
    (h : VisitedAt anyAct k br) (hp : p ∈ br.ports) (ht : t ∈ br.trees)
    (hsel : (br.ptp p t).selected = true)
    (hrun : passActs.Leads (onActs (keepsEntry p t)) (k, br) (k', br')) :
    (br'.ptp p t).portTimes.helloTime = br'.helloTime ∧
      (br'.ptp p t).designatedTimes.helloTime = br'.helloTime ∧ 1 ≤ br'.helloTime := by
  let seen : PortRef → Mstid → Prop := fun q u => q = p ∧ u = t
  have hstart : HelloKept seen br := by
    intro q hq u hu
    have hentry := h.helloKept q hq u hu
    refine ⟨hentry.port, fun hseen => hentry.designated (Or.inr ?_)⟩
    rcases hseen with ⟨rfl, rfl⟩ | hnow
    · exact hsel
    · exact hnow
  have hend : p ∈ br'.ports ∧ t ∈ br'.trees ∧ HelloKept seen br' ∧ br'.helloTime = 2 := by
    refine h.since (I := fun _ b => p ∈ b.ports ∧ t ∈ b.trees ∧ HelloKept seen b ∧ b.helloTime = 2)
      (fun _ _ _ => trivial) ⟨hp, ht, hstart, h.visited.configured.parameters.helloTime⟩ ?_
      (fun _ _ _ hi _ _ => hi) hrun
    intro a k b hv hi hg hat hkeep
    obtain ⟨hpb, htb, hib, -⟩ := hi
    refine ⟨Act.ports_keep hg hpb hkeep.1, Act.trees_keep hg htb hkeep.2, ?_,
      (hv.act hg hat trivial).visited.configured.parameters.helloTime⟩
    refine hib.act hv.visited.configured ?_ hg
    rintro q u ⟨rfl, rfl⟩
    exact ⟨hpb, htb⟩
  obtain ⟨hp', ht', hkept, hown⟩ := hend
  have hentry := hkept p hp' t ht'
  rw [hown]
  exact ⟨hentry.port, hentry.designated (Or.inl ⟨rfl, rfl⟩), by decide⟩

/-! ## The transmit machine comes to rest -/

/-- BPDUs that the limit still leaves. -/
def slotsLeft (br : Bridge) (p : PortRef) : Nat := br.transmitHoldCount - (br.port p).txCount

/-- Transitions of the machine at most, once the hello time is not zero. -/
def ptsmLeft (br : Bridge) (p : PortRef) : Nat :=
  2 * slotsLeft br p +
    match (br.port p).ptsmState with
    | .idle => if (br.port p).helloWhen = 0 then 2 else 0
    | _ => 1

section Transmit

variable {p : PortRef} {br : Bridge}

theorem mstpOutTxBpdu_state (b : Bpdu) (size : Nat) (q : PortRef) :
    ((mstpOutTxBpdu q b size br).port p).ptsmState = (br.port p).ptsmState := by
  simp only [mstpOutTxBpdu, emit, Bridge.setPort]
  split <;> rfl

theorem transmission_state {tx : Bridge → Bridge} (before after : Port → Port)
    (htx : ∀ b, tx b = b ∨ ∃ bpdu size, tx b = mstpOutTxBpdu p bpdu size b)
    (hafter : ∀ x, (after x).ptsmState = x.ptsmState) :
    (((tx (br.setPort p before)).setPort p after).port p).ptsmState =
      (before (br.port p)).ptsmState := by
  have hlast : ∀ b : Bridge, ((b.setPort p after).port p).ptsmState = (b.port p).ptsmState := by
    intro b
    simp [Bridge.setPort, hafter]
  have hset : (br.setPort p before).port p = before (br.port p) := by
    simp [Bridge.setPort]
  rw [hlast]
  rcases htx (br.setPort p before) with hstay | ⟨bpdu, size, hsend⟩
  · rw [hstay, hset]
  · rw [hsend, mstpOutTxBpdu_state, hset]

theorem ptsmTo_state (s : PtsmState) : ((ptsmTo p s br).port p).ptsmState = s := by
  cases s with
  | transmitInit => simp [ptsmTo, ptsmToTransmitInit, Bridge.setPort]
  | transmitPeriodic => simp [ptsmTo, ptsmToTransmitPeriodic, Bridge.setPort]
  | idle => simp [ptsmTo, ptsmToIdle, Bridge.setPort]
  | transmitConfig =>
    exact transmission_state
      (fun prt => { prt with ptsmState := .transmitConfig, newInfo := false })
      (fun prt => { prt with txCount := prt.txCount + 1, tcAck := false })
      (fun _ => txConfig_cases) fun _ => rfl
  | transmitTcn =>
    exact transmission_state (fun prt => { prt with ptsmState := .transmitTcn, newInfo := false })
      (fun prt => { prt with txCount := prt.txCount + 1 }) (fun _ => txTcn_cases) fun _ => rfl
  | transmitRstp =>
    exact transmission_state
      (fun prt => { prt with ptsmState := .transmitRstp, newInfo := false, newInfoMsti := false })
      (fun prt => { prt with txCount := prt.txCount + 1, tcAck := false })
      (fun _ => txMstp_cases) fun _ => rfl

/-- What the machine of an enabled port does next. -/
theorem ptsmNext_cases {s : PtsmState} (hup : (br.port p).portEnabled = true)
    (h : ptsmNext br p = some s) :
    ((br.port p).ptsmState ≠ .idle ∧ s = .idle) ∨
      ((br.port p).ptsmState = .idle ∧
        ((br.port p).helloWhen = 0 ∧ s = .transmitPeriodic ∨
          (br.port p).helloWhen ≠ 0 ∧ s.transmits = true)) := by
  cases hnow : (br.port p).ptsmState with
  | idle =>
    refine Or.inr ⟨rfl, ?_⟩
    simp only [ptsmNext, hup, hnow, Bool.not_true, Bool.false_eq_true, if_false] at h
    split at h
    · cases h
    · by_cases hwhen : (br.port p).helloWhen = 0
      · rw [if_pos (beq_iff_eq.mpr hwhen)] at h
        exact Or.inl ⟨hwhen, (Option.some.inj h).symm⟩
      · rw [if_neg fun hzero => hwhen (beq_iff_eq.mp hzero)] at h
        refine Or.inr ⟨hwhen, ?_⟩
        split_ifs at h <;> exact Option.some.inj h ▸ rfl
  | _ =>
    refine Or.inl ⟨PtsmState.noConfusion, ?_⟩
    simp only [ptsmNext, hup, hnow] at h
    exact (Option.some.inj h).symm

/-- Each transition of an enabled port brings the machine closer to rest. -/
theorem ptsmNext_lowers {s : PtsmState} (hhello : (br.cist p).portTimes.helloTime = 2)
    (hup : (br.port p).portEnabled = true) (h : ptsmNext br p = some s) :
    s ≠ .transmitInit ∧ ptsmLeft (ptsmTo p s br) p < ptsmLeft br p := by
  have hinit : s ≠ .transmitInit := by
    rintro rfl
    rw [ptsmNext_init h] at hup
    cases hup
  refine ⟨hinit, ?_⟩
  have hcount := (@ptsmTo_counts p p br s).1
  have hhold : (ptsmTo p s br).transmitHoldCount = br.transmitHoldCount :=
    (ptsmTo_frame p s br).config_eq Bridge.transmitHoldCount fun _ => rfl
  rw [if_neg hinit] at hcount
  have hslots : slotsLeft (ptsmTo p s br) p =
      br.transmitHoldCount - ((br.port p).txCount + if s.transmits then 1 else 0) := by
    rw [slotsLeft, hhold, hcount]
  rw [ptsmLeft, ptsmLeft, hslots, ptsmTo_state, slotsLeft]
  rcases ptsmNext_cases hup h with ⟨hnow, rfl⟩ | ⟨hnow, ⟨hwhen, rfl⟩ | ⟨hwhen, hsends⟩⟩
  · have hload : ((ptsmTo p .idle br).port p).helloWhen = 2 := by
      simp [ptsmTo, ptsmToIdle, Bridge.setPort, hhello]
    simp only [hload]
    cases hs : (br.port p).ptsmState <;> simp_all [PtsmState.transmits]
  · simp [hnow, hwhen, PtsmState.transmits]
  · have hlimit := ptsmNext_limited h hsends
    simp only [hnow, hwhen, hsends, if_true, if_false]
    cases s <;> simp_all [PtsmState.transmits] <;> omega

/-- What a run of the machine of an enabled port keeps, since the state `br`. -/
structure Transmits (br : Bridge) (p : PortRef) (b : Bridge) : Prop where
  hello : (b.cist p).portTimes.helloTime = 2
  enabled : (b.port p).portEnabled = true
  holdCount : b.transmitHoldCount = br.transmitHoldCount
  sends : sent p b + slotsLeft b p ≤ sent p br + slotsLeft br p

theorem Transmits.step {b b' : Bridge} {again : Bool} (hi : Transmits br p b)
    (h : ptsmStep p b = some (b', again)) :
    again = true ∧ Transmits br p b' ∧ ptsmLeft b' p < ptsmLeft b p := by
  rw [ptsmStep, Option.map_eq_some_iff] at h
  obtain ⟨s, hnext, heq⟩ := h
  obtain ⟨rfl, rfl⟩ := Prod.mk.inj heq
  obtain ⟨hinit, hlower⟩ := ptsmNext_lowers hi.hello hi.enabled hnext
  have hframe := ptsmTo_frame p s b
  have hcounts := @ptsmTo_counts p p b s
  have hhold : (ptsmTo p s b).transmitHoldCount = b.transmitHoldCount :=
    hframe.config_eq Bridge.transmitHoldCount fun _ => rfl
  refine ⟨bne_iff_ne.mpr hinit, ⟨?_, ?_, hhold.trans hi.holdCount, ?_⟩, hlower⟩
  · rw [← hi.hello]
    exact hframe.ptp_eq (fun x => x.portTimes.helloTime) (fun _ => rfl) p 0
  · rw [← hi.enabled]
    exact hframe.port_eq Port.portEnabled (fun _ => rfl) p
  · have hlimit := ptsmNext_limited hnext
    have hbefore := hi.sends
    rw [if_neg hinit] at hcounts
    have hslots : slotsLeft (ptsmTo p s b) p =
        b.transmitHoldCount - ((b.port p).txCount + if s.transmits then 1 else 0) := by
      rw [slotsLeft, hhold, hcounts.1]
    rw [hslots]
    rw [slotsLeft] at hbefore
    have hsent := hcounts.2
    cases hsends : s.transmits with
    | true =>
      simp only [hsends, and_self, if_true] at hsent ⊢
      have := hlimit hsends
      omega
    | false =>
      simp only [hsends, Bool.false_eq_true, false_and, if_false] at hsent ⊢
      omega

theorem ptsm_ends (hhello : (br.cist p).portTimes.helloTime = 2) :
    ∃ b, (∀ fuel, 2 * br.transmitHoldCount + 3 ≤ fuel → run (ptsmStep p) fuel br = some b) ∧
      sent p b ≤ sent p br + br.transmitHoldCount ∧
      ((b.port p).ptsmState = .transmitInit ∨ (b.port p).ptsmState = .idle) := by
  cases hup : (br.port p).portEnabled with
  | false =>
    have hnext : ptsmNext br p = some .transmitInit := by
      simp [ptsmNext, hup]
    have hstep : ptsmStep p br = some (ptsmTo p .transmitInit br, false) := by
      rw [ptsmStep, hnext]
      rfl
    refine ⟨ptsmTo p .transmitInit br, fun fuel hfuel => ?_, ?_,
      Or.inl (ptsmTo_state .transmitInit)⟩
    · obtain ⟨fuel, rfl⟩ : ∃ k, fuel = k + 1 := ⟨fuel - 1, by omega⟩
      rw [run, hstep]
    · exact Nat.le_add_right _ _
  | true =>
    have hstart : Transmits br p br := ⟨hhello, hup, rfl, Nat.le_refl _⟩
    have hbound : ptsmLeft br p < 2 * br.transmitHoldCount + 3 := by
      simp only [ptsmLeft, slotsLeft]
      split
      · split <;> omega
      · omega
    obtain ⟨b, hrun⟩ := run_of_measure (I := Transmits br p) (fun b => ptsmLeft b p)
      (fun c c' again hc h => (hc.step h).2) hstart hbound
    have hend := run_inv (I := Transmits br p) (fun c c' again hc h => (hc.step h).2.1) hstart hrun
    refine ⟨b, fun fuel hfuel => run_mono hfuel hrun, ?_, Or.inr ?_⟩
    · have hsends := hend.sends
      simp only [slotsLeft] at hsends
      omega
    · rcases run_ends (I := Transmits br p) (fun c c' again hc h => (hc.step h).2.1) hstart hrun
        with hrest | ⟨c, hc, hlast⟩
      · rw [ptsmStep, Option.map_eq_none_iff] at hrest
        cases hnow : (b.port p).ptsmState with
        | idle => rfl
        | _ => simp [ptsmNext, hend.enabled, hnow] at hrest
      · exact absurd (hc.step hlast).1 Bool.false_ne_true

end Transmit

/-- At every point of a run, the hello times of an entry that has been selected are those of the
bridge, and the transmit machine of every port comes to rest within the limit. -/
theorem transmission_ends {k : Phase} {br : Bridge} (h : VisitedAt anyAct k br) {p : PortRef}
    (hp : p ∈ br.ports) :
    (∀ t ∈ br.trees, (br.ptp p t).selected = true → ∀ k' br',
      passActs.Leads (onActs (keepsEntry p t)) (k, br) (k', br') →
        (br'.ptp p t).portTimes.helloTime = br'.helloTime ∧
          (br'.ptp p t).designatedTimes.helloTime = br'.helloTime ∧ 1 ≤ br'.helloTime) ∧
      ∃ b, (∀ fuel, 2 * br.transmitHoldCount + 3 ≤ fuel → run (ptsmStep p) fuel br = some b) ∧
        sent p b ≤ sent p br + br.transmitHoldCount ∧
        ((b.port p).ptsmState = .transmitInit ∨ (b.port p).ptsmState = .idle) := by
  constructor
  · exact fun t ht hsel k' br' hrun => h.helloTimes hp ht hsel hrun
  · exact ptsm_ends (h.helloKept p hp 0 h.visited.cist_mem).port

theorem heldPort_transmission_ends : ∃ br, 1 ∈ br.ports ∧ (br.ptp 1 0).selected = true ∧
    ((br.ptp 1 0).portTimes.helloTime = br.helloTime ∧
      (br.ptp 1 0).designatedTimes.helloTime = br.helloTime ∧ 1 ≤ br.helloTime) ∧
    ∃ b, (∀ fuel, 2 * br.transmitHoldCount + 3 ≤ fuel → run (ptsmStep 1) fuel br = some b) ∧
      sent 1 b ≤ sent 1 br + br.transmitHoldCount ∧
      ((b.port 1).ptsmState = .transmitInit ∨ (b.port 1).ptsmState = .idle) := by
  have hrun : (sampleRun heldPortOps).any (fun br => br.ports.contains 1 && (br.ptp 1 0).selected)
      = true := by
    decide +kernel
  obtain ⟨br, hbr, hrun⟩ := (Option.any_eq_true _ _).mp hrun
  obtain ⟨hp, hsel⟩ := Bool.and_eq_true_iff.mp hrun
  rw [List.contains_iff_mem] at hp
  have hv := (sampleRun_reachable (A := anyOp) (fun _ _ => trivial) hbr).visitedAt
  have hboth := transmission_ends hv hp
  exact ⟨br, hp, hsel, hboth.1 0 hv.visited.cist_mem hsel _ br (Labelled.Leads.refl _), hboth.2⟩

end Mstpd
