import Mstpd.DryRun
import Mstpd.Handover
import Mstpd.HoldLimit
import Mstpd.Mesh
import Mstpd.RegionInfo

/-!
# The roles that are sent

The transmit machine runs before role selection and role transitions. What it finds was left
by the pass before: every per-tree port in effect has the role that was selected for it, and
has no role only where its port has no information in any tree. The creation of a port
selects roles outside a pass, and the first pass after it may send roles that are no longer
selected.
-/

namespace Mstpd

open Bridge Machine

/-! ## The states between passes -/

/-- Does the action select roles outside a pass? -/
def Act.selectsRoles (br : Bridge) : Act → Bool
  | .createPort _ _ _ _ _ => br.bridgeEnabled
  | _ => false

/-- The states in which a pass of the machines may start, and whether roles have been selected
outside a pass since the last one. -/
inductive AtPass : Bool → Bridge → Prop
  | create (env : Env) (macaddr : BitVec 48) : AtPass false (mstpInBridgeCreate env macaddr)
  | act {early : Bool} {br : Bridge} (h : AtPass early br) (a : Act)
      (hphase : .idle = a.phase ∨ a.betweenPasses = true) (hg : a.Guard br) :
      AtPass (early || a.selectsRoles br) (a.run br)
  | pass {early : Bool} {br br' : Bridge} {fuel : Nat} (h : AtPass early br)
      (hen : br.bridgeEnabled = true) (hpass : brStateMachinesPass fuel br = some br') :
      AtPass false br'

section AtPass

variable {early : Bool} {br br' : Bridge}

theorem AtPass.visitedAt (h : AtPass early br) : VisitedAt anyAct .idle br := by
  induction h with
  | create env macaddr => exact ⟨env, macaddr, .refl _⟩
  | act _ a hphase hg ih =>
    exact ih.act hg (hphase.imp_right fun h => ⟨rfl, h⟩) trivial
  | pass _ hen hpass ih =>
    obtain ⟨env, macaddr, hlead⟩ := ih
    exact ⟨env, macaddr, hlead.trans (pass_performs hen hpass).1⟩

/-- Operations lead from state to state between passes. -/
theorem passes_compose : Composes (fun _ => True) fun br br' =>
    (∃ early, AtPass early br) → ∃ early, AtPass early br' where
  refl _ h := h
  trans h h' hstart := h' (h hstart)
  act br a hphase hg _ := fun ⟨early, h⟩ => ⟨_, h.act a hphase hg⟩
  run {late fuel br br'} hrun := by
    rintro ⟨early, h⟩
    rw [brStateMachinesRun] at hrun
    split at hrun
    · rename_i hen
      have hboth : (∃ early, AtPass early br') ∧ br'.bridgeEnabled = true := by
        refine loop_inv (I := fun b => (∃ early, AtPass early b) ∧ b.bridgeEnabled = true)
          (fun b b' hb hpass => ?_) ⟨⟨early, h⟩, hen⟩ hrun
        obtain ⟨⟨e, hb⟩, hen'⟩ := hb
        exact ⟨⟨false, hb.pass hen' hpass⟩, (pass_performs hen' hpass).2⟩
      exact hboth.1
    · exact Option.some.inj hrun ▸ ⟨early, h⟩

theorem Reachable.atPass {A : Allowed} (h : Reachable A br) : ∃ early, AtPass early br := by
  refine h.inv (I := fun b => ∃ early, AtPass early b)
    (fun env macaddr => ⟨false, .create env macaddr⟩) fun b b' hb hstep => ?_
  obtain ⟨env, op, ok, hv, -, hexec⟩ := hstep
  exact exec_composes (passes_compose.mono fun _ _ => trivial) hv hexec hb

theorem AtPass.trees_head (h : AtPass early br) : ∃ rest, br.trees = 0 :: rest := by
  obtain ⟨m, hm, hrep⟩ := h.visitedAt.visited.mesh
  have hhead := hm.wellFormed.cist
  rw [hrep.trees] at hhead
  cases htrees : br.trees with
  | nil => simp [htrees] at hhead
  | cons t rest =>
    rw [htrees, List.head?_cons] at hhead
    exact ⟨rest, by rw [Option.some.inj hhead]⟩

end AtPass

/-! ## What an entry is ready for -/

/-- The fields that decide about the role of an entry. -/
def roleFields (x : PerTreePort) : Bool × Bool × InfoOrigin × PismState × Role × Bool × Role :=
  (x.selected, x.reselect, x.infoIs, x.pismState, x.selectedRole, x.updtInfo, x.role)

/-- The roles of ports that look at the information of another bridge. -/
def Role.usesInfo : Role → Bool
  | .root => true
  | .alternate => true
  | .backup => true
  | _ => false

/-- An entry that is not selected asks to be, and one that is selected has a role exactly where
it has information. In the CIST a role that uses information has received it, and only a
Designated port has its own to write. -/
structure ReadyEntry (t : Mstid) (x : PerTreePort) : Prop where
  asks : x.selected = false → x.reselect = true
  origin : x.infoIs = .disabled → x.pismState = .disabled
  role : x.selected = true → (x.selectedRole = .disabled ↔ x.infoIs = .disabled)
  received : t = 0 → x.selected = true → x.selectedRole.usesInfo = true → x.infoIs = .received
  update : t = 0 → x.selected = true → x.updtInfo = true →
    x.selectedRole = .designated ∨ x.infoIs = .disabled

def Ready (br : Bridge) : Prop := ∀ p ∈ br.ports, ∀ t ∈ br.trees, ReadyEntry t (br.ptp p t)

/-- After a pass, each entry in effect has the role selected for it, and all entries of a port
have information or none has. -/
structure Final (br : Bridge) : Prop where
  role : ∀ p ∈ br.ports, ∀ t ∈ br.trees, (br.ptp p t).selected = true →
    (br.ptp p t).updtInfo = false → (br.ptp p t).role = (br.ptp p t).selectedRole
  origin : ∀ p ∈ br.ports, ∀ t ∈ br.trees, (br.ptp p t).selected = true →
    (br.cist p).selected = true → ((br.ptp p t).infoIs = .disabled ↔ (br.cist p).infoIs = .disabled)

/-- Everything but the fields that decide about roles. -/
def besideRoles : Owned where
  config b := { ports := b.ports, trees := b.trees }
  ptp x :=
    { selected := x.selected, reselect := x.reselect, infoIs := x.infoIs, pismState := x.pismState
      selectedRole := x.selectedRole, updtInfo := x.updtInfo, role := x.role }
  port _ := {}
  tree _ := {}
  out _ := true

/-- The same with the role itself. -/
def besideReady : Owned where
  config := besideRoles.config
  ptp x :=
    { selected := x.selected, reselect := x.reselect, infoIs := x.infoIs, pismState := x.pismState
      selectedRole := x.selectedRole, updtInfo := x.updtInfo }
  port _ := {}
  tree _ := {}
  out _ := true

instance : besideRoles.KeepsLists := ⟨fun _ => rfl, fun _ => rfl⟩

instance : besideReady.KeepsLists := ⟨fun _ => rfl, fun _ => rfl⟩

instance : besideRoles.Within besideReady :=
  ⟨fun _ => rfl, fun _ => rfl, fun _ => rfl, fun _ => rfl, fun _ _ => rfl⟩

instance : assuranceOwned.Within besideRoles :=
  ⟨fun _ => rfl, fun _ => rfl, fun _ => rfl, fun _ => rfl, fun _ _ => rfl⟩

instance : prsmOwned.Within besideRoles :=
  ⟨fun _ => rfl, fun _ => rfl, fun _ => rfl, fun _ => rfl, fun _ _ => rfl⟩

instance : ppmsmOwned.Within besideRoles :=
  ⟨fun _ => rfl, fun _ => rfl, fun _ => rfl, fun _ => rfl, fun _ _ => rfl⟩

instance : bdsmOwned.Within besideRoles :=
  ⟨fun _ => rfl, fun _ => rfl, fun _ => rfl, fun _ => rfl, fun _ _ => rfl⟩

instance : discardOwned.Within besideRoles :=
  ⟨fun _ => rfl, fun _ => rfl, fun _ => rfl, fun _ => rfl, fun _ _ => rfl⟩

instance : ptsmOwned.Within besideRoles :=
  ⟨fun _ => rfl, fun _ => rfl, fun _ => rfl, fun _ => rfl, fun _ _ => rfl⟩

instance : pstsmOwned.Within besideRoles :=
  ⟨fun _ => rfl, fun _ => rfl, fun _ => rfl, fun _ => rfl, fun _ _ => rfl⟩

instance : tcsmOwned.Within besideRoles :=
  ⟨fun _ => rfl, fun _ => rfl, fun _ => rfl, fun _ => rfl, fun _ _ => rfl⟩

instance : tickOwned.Within besideRoles :=
  ⟨fun _ => rfl, fun _ => rfl, fun _ => rfl, fun _ => rfl, fun _ _ => rfl⟩

instance : linkOwned.Within besideRoles :=
  ⟨fun _ => rfl, fun _ => rfl, fun _ => rfl, fun _ => rfl, fun _ _ => rfl⟩

instance : rxOwned.Within besideRoles :=
  ⟨fun _ => rfl, fun _ => rfl, fun _ => rfl, fun _ => rfl, fun _ _ => rfl⟩

instance : prtsmOwned.Within besideReady :=
  ⟨fun _ => rfl, fun _ => rfl, fun _ => rfl, fun _ => rfl, fun _ _ => rfl⟩

/-- What a role needs to be ready. -/
def readyFields (x : PerTreePort) : Bool × Bool × InfoOrigin × PismState × Role × Bool :=
  (x.selected, x.reselect, x.infoIs, x.pismState, x.selectedRole, x.updtInfo)

theorem ReadyEntry.congr {t : Mstid} {x y : PerTreePort} (h : ReadyEntry t x)
    (hsame : readyFields y = readyFields x) : ReadyEntry t y := by
  simp only [readyFields, Prod.mk.injEq] at hsame
  obtain ⟨hsel, hre, hinfo, hstate, hrole, hupdt⟩ := hsame
  exact ⟨hsel ▸ hre ▸ h.asks, hinfo ▸ hstate ▸ h.origin, hsel ▸ hinfo ▸ hrole ▸ h.role,
    hsel ▸ hinfo ▸ hrole ▸ h.received, hsel ▸ hinfo ▸ hrole ▸ hupdt ▸ h.update⟩

section Frames

variable {br br' : Bridge}

theorem Ready.frame (hi : Ready br) (h : Frame besideReady br br') : Ready br' := by
  intro p hp t ht
  refine (hi p (h.ports_eq ▸ hp) t (h.trees_eq ▸ ht)).congr ?_
  exact h.ptp_eq readyFields (fun _ => rfl) p t

theorem Ready.keep (hi : Ready br) (h : Frame besideRoles br br') : Ready br' := hi.frame h.mono

theorem Final.frame (hi : Final br) (h : Frame besideRoles br br') : Final br' := by
  have hfields := h.ptp_eq roleFields fun _ => rfl
  simp only [roleFields, Prod.mk.injEq] at hfields
  have hports : br'.ports = br.ports := h.ports_eq
  have htrees : br'.trees = br.trees := h.trees_eq
  refine ⟨fun p hp t ht => ?_, fun p hp t ht => ?_⟩
  all_goals
    obtain ⟨hsel, -, hinfo, -, hrole, hupdt, hcurrent⟩ := hfields p t
    rw [hports] at hp
    rw [htrees] at ht
  · rw [hsel, hupdt, hcurrent, hrole]
    exact hi.role p hp t ht
  · obtain ⟨hcist, -, hcistInfo, -⟩ := hfields p 0
    rw [hsel, hinfo, cist, hcist, hcistInfo]
    exact hi.origin p hp t ht

end Frames

/-! ## Management -/

/-- The entry is as before, or asks to be selected again. -/
def AsksAgain (x y : PerTreePort) : Prop :=
  roleFields y = roleFields x ∨
    roleFields y = roleFields { x with selected := false, reselect := true }

theorem AsksAgain.trans {x y z : PerTreePort} (h : AsksAgain x y) (h' : AsksAgain y z) :
    AsksAgain x z := by
  simp only [AsksAgain, roleFields, Prod.mk.injEq] at *
  grind

/-- The entry has begun anew. -/
def Waiting (x : PerTreePort) : Prop :=
  (x.selected, x.reselect, x.infoIs, x.pismState) = (false, true, .disabled, .disabled)

/-- What operations do to roles: every entry has begun anew, or was there before and asks at
most to be selected again. -/
def Managed (br b : Bridge) : Prop :=
  ∀ q ∈ b.ports, ∀ s ∈ b.trees, Waiting (b.ptp q s) ∨
    q ∈ br.ports ∧ s ∈ br.trees ∧ AsksAgain (br.ptp q s) (b.ptp q s)

section Managed

variable {br b b' : Bridge}

theorem Managed.of_entries (hports : b.ports = br.ports) (htrees : b.trees = br.trees)
    (h : ∀ q s, AsksAgain (br.ptp q s) (b.ptp q s)) : Managed br b := fun q hq s hs =>
  Or.inr ⟨hports ▸ hq, htrees ▸ hs, h q s⟩

theorem Managed.refl (br : Bridge) : Managed br br :=
  Managed.of_entries rfl rfl fun _ _ => Or.inl rfl

theorem Waiting.asksAgain {x y : PerTreePort} (hi : Waiting x) (h : AsksAgain x y) : Waiting y := by
  simp only [Waiting, AsksAgain, roleFields, Prod.mk.injEq] at *
  grind

theorem Managed.trans (h : Managed br b) (h' : Managed b b') : Managed br b' := by
  intro q hq s hs
  rcases h' q hq s hs with hw | ⟨hqb, hsb, hagain⟩
  · exact Or.inl hw
  · rcases h q hqb s hsb with hw | ⟨hqr, hsr, hfirst⟩
    · exact Or.inl (hw.asksAgain hagain)
    · exact Or.inr ⟨hqr, hsr, hfirst.trans hagain⟩

theorem Frame.managed (h : Frame besideRoles br b) : Managed br b :=
  Managed.of_entries h.ports_eq h.trees_eq fun q s =>
    Or.inl (h.ptp_eq roleFields (fun _ => rfl) q s)

theorem Managed.ite {c : Prop} [Decidable c] (h : Managed br b) (h' : Managed br b') :
    Managed br (if c then b else b') := by
  split
  · exact h
  · exact h'

theorem Managed.setPort {p : PortRef} {f : Port → Port} : Managed br (br.setPort p f) :=
  Managed.of_entries rfl rfl fun _ _ => Or.inl rfl

theorem Managed.setTree {t : Mstid} {f : Tree → Tree} : Managed br (br.setTree t f) :=
  Managed.of_entries rfl rfl fun _ _ => Or.inl rfl

theorem Managed.setPtp {p : PortRef} {t : Mstid} {f : PerTreePort → PerTreePort}
    (hf : ∀ x, AsksAgain x (f x)) : Managed br (br.setPtp p t f) := by
  refine Managed.of_entries rfl rfl fun q s => ?_
  simp only [Bridge.setPtp]
  split
  · exact hf _
  · exact Or.inl rfl

theorem Managed.setTreePtps {t : Mstid} {f : PortRef → PerTreePort → PerTreePort}
    (hf : ∀ q x, AsksAgain x (f q x)) : Managed br (br.setTreePtps t f) := by
  refine Managed.of_entries rfl rfl fun q s => ?_
  simp only [Bridge.setTreePtps]
  split
  · exact hf q _
  · exact Or.inl rfl

theorem Managed.forAll {α : Type} {act : α → Bridge → Bridge}
    (hact : ∀ a c, Managed c (act a c)) (l : List α) (br : Bridge) :
    Managed br (forAll act l br) :=
  forAll_inv (I := Managed br) (fun a _ c hc => hc.trans (hact a c)) (Managed.refl br)

theorem ReadyEntry.asksAgain {t : Mstid} {x y : PerTreePort} (hi : ReadyEntry t x)
    (h : AsksAgain x y) : ReadyEntry t y := by
  obtain ⟨hasks, horigin, hrole, hreceived, hupdate⟩ := hi
  simp only [AsksAgain, roleFields, Prod.mk.injEq] at h
  constructor <;> grind

theorem Waiting.not_selected {x : PerTreePort} (h : Waiting x) : x.selected ≠ true := by
  simp only [Waiting, Prod.mk.injEq] at h
  simp [h.1]

theorem ReadyEntry.waiting {t : Mstid} {x : PerTreePort} (h : Waiting x) : ReadyEntry t x := by
  have hno := h.not_selected
  simp only [Waiting, Prod.mk.injEq] at h
  exact ⟨fun _ => h.2.1, fun _ => h.2.2.2, fun hsel => absurd hsel hno,
    fun _ hsel => absurd hsel hno, fun _ hsel => absurd hsel hno⟩

theorem Ready.managed (hi : Ready br) (h : Managed br b) : Ready b := by
  intro p hp t ht
  rcases h p hp t ht with hw | ⟨hpr, htr, hagain⟩
  · exact ReadyEntry.waiting hw
  · exact (hi p hpr t htr).asksAgain hagain

theorem Final.managed (hi : Final br) (h0 : 0 ∈ b.trees) (h : Managed br b) : Final b := by
  refine ⟨fun p hp t ht hsel => ?_, fun p hp t ht hsel hcist => ?_⟩
  all_goals
    rcases h p hp t ht with hw | ⟨hpr, htr, hentry⟩
    · exact absurd hsel hw.not_selected
    simp only [AsksAgain, roleFields, Prod.mk.injEq] at hentry
  · have hrole := hi.role p hpr t htr
    grind
  · rcases h p hp 0 h0 with hw | ⟨-, -, hentry0⟩
    · exact absurd hcist hw.not_selected
    have horigin := hi.origin p hpr t htr
    simp only [AsksAgain, roleFields, Prod.mk.injEq] at hentry0
    simp only [cist] at horigin hcist ⊢
    grind

end Managed

/-- Actions that at most ask for selection. -/
def Act.manages : Act → Bool
  | .markDeleted _ => true
  | .tick => true
  | .idleSecond => true
  | .linkUp _ _ _ => true
  | .linkDown _ => true
  | .flushed _ _ => true
  | .rxBpdu _ _ _ => true
  | .mstiBridgeConfig _ _ => true
  | .portConfig _ _ => true
  | .mstiPortConfig _ _ _ => true
  | .mcheck _ => true
  | .sysdeps _ _ _ => true
  | .tcsm _ _ _ => true
  | _ => false

theorem writeBridgeConfig_managed (cfg : CistBridgeConfig) (br : Bridge) :
    Managed br (writeBridgeConfig cfg br) := by
  have hassign : Managed br (assignParameters cfg br) :=
    Managed.of_entries rfl rfl fun _ _ => Or.inl rfl
  have hreset : ∀ b, Managed b (resetTxCounts b) := by
    intro b
    rw [resetTxCounts]
    exact Managed.forAll (fun _ _ => Managed.setPort) b.ports b
  have htimes : ∀ b, Managed b (propagateBridgeTimes b) := by
    intro b
    rw [propagateBridgeTimes]
    refine Managed.forAll (fun s c => ?_) b.trees b
    exact Managed.trans Managed.setTree (Managed.setTreePtps fun _ _ => Or.inr rfl)
  have hboth : Managed br (if holdCountChanges cfg br then resetTxCounts (assignParameters cfg br)
      else assignParameters cfg br) := Managed.ite (hassign.trans (hreset _)) hassign
  rw [writeBridgeConfig]
  exact Managed.ite (hboth.trans (htimes _)) hboth

theorem bdsmBegin_managed (p : PortRef) (br : Bridge) : Managed br (bdsmBegin p br) := by
  have hframe : Frame besideRoles br (bdsmBegin p br) := (bdsmTo_frame p _ br).mono
  exact hframe.managed

theorem Act.managed {a : Act} (ha : a.manages = true) (br : Bridge) : Managed br (a.run br) := by
  cases a with
  | markDeleted | idleSecond | linkDown | sysdeps =>
    exact Managed.of_entries rfl rfl fun _ _ => Or.inl rfl
  | tick =>
    have hframe : Frame besideRoles br (Act.tick.run br) :=
      (Act.frame .tick br).mono (o := tickOwned)
    exact hframe.managed
  | linkUp p speed duplex =>
    have hframe : Frame besideRoles br (Mstpd.linkUp p speed duplex br) :=
      (linkUp_frame p speed duplex br).mono
    exact hframe.managed
  | rxBpdu p bpdu size =>
    have hframe : Frame besideRoles br (rxAssign p bpdu size br) :=
      (rxAssign_frame p bpdu size br).mono
    exact hframe.managed
  | tcsm p t s =>
    have hframe : Frame besideRoles br (tcsmTo p t s br) := (tcsmTo_frame p t s br).mono
    exact hframe.managed
  | flushed p t =>
    rw [Act.run]
    exact Managed.setPtp fun _ => Or.inl rfl
  | mcheck p =>
    rw [Act.run, requestMcheck]
    exact Managed.trans Managed.setPort (Managed.setPtp fun _ => Or.inl rfl)
  | mstiBridgeConfig t prio =>
    rw [Act.run, mstpInSetMstiBridgeConfig]
    split
    · exact Managed.refl br
    · dsimp only
      split
      · exact Managed.refl br
      · dsimp only
        exact Managed.trans Managed.setTree (Managed.setTreePtps fun _ _ => Or.inr rfl)
  | portConfig p cfg =>
    have hcost : ∀ cost : Bool, Managed br (br.setPtp p 0 fun ptp =>
        { ptp with selected := ptp.selected && !cost, reselect := ptp.reselect || cost }) := by
      intro cost
      refine Managed.setPtp fun x => ?_
      cases cost <;> simp [AsksAgain, roleFields]
    have hport : ∀ b : Bridge, Managed b (b.setPort p (assignPortConfig cfg)) := fun _ =>
      Managed.setPort
    have hassign := (hcost (costChanges p cfg br)).trans (hport _)
    simp only [Act.run, writePortConfig]
    exact Managed.ite hassign (hassign.trans (bdsmBegin_managed p _))
  | mstiPortConfig p t cfg =>
    have hassign : Managed br (br.setPtp p t (assignPtpConfig (br.port p).speed cfg)) :=
      Managed.setPtp fun _ => Or.inl rfl
    simp only [Act.run, writePtpConfig]
    exact Managed.ite (hassign.trans (Managed.setPtp fun _ => Or.inr rfl)) hassign
  | _ => cases ha

/-! ## Port information -/

section Information

variable {br : Bridge} {p q : PortRef} {t u : Mstid} {s : PismState}

theorem pismNext_from_disabled (hstate : (br.ptp p t).pismState = .disabled)
    (h : pismNext br p t = some s) : s = .disabled ∨ s = .aged := by
  rw [pismNext] at h
  split at h
  · exact Or.inl (Option.some.inj h).symm
  · simp only [hstate] at h
    grind

/-- A transition that records nothing keeps an entry ready. -/
theorem ReadyEntry.pism_message (hi : ReadyEntry t (br.ptp p t)) (hnext : pismNext br p t = some s)
    (hs : s ≠ .disabled ∧ s ≠ .aged) (hframe : Frame messageOwned br (pismTo p t s br)) :
    ReadyEntry t ((pismTo p t s br).ptp p t) := by
  have hfields := hframe.ptp_eq
    (fun x => (x.selected, x.reselect, x.infoIs, x.selectedRole, x.updtInfo)) (fun _ => rfl) p t
  simp only [Prod.mk.injEq] at hfields
  obtain ⟨hsel, hre, hinfo, hrole, hupdt⟩ := hfields
  refine ⟨hsel ▸ hre ▸ hi.asks, fun hnone => ?_, hsel ▸ hinfo ▸ hrole ▸ hi.role,
    hsel ▸ hinfo ▸ hrole ▸ hi.received, hsel ▸ hinfo ▸ hrole ▸ hupdt ▸ hi.update⟩
  have hfrom := pismNext_from_disabled (hi.origin (hinfo ▸ hnone)) hnext
  exact (hfrom.elim hs.1 hs.2).elim

/-- Only what is selected is updated, so the entry has information and a role before. -/
theorem pismNext_update (h : pismNext br p t = some .update) :
    (br.ptp p t).selected = true ∧ (br.ptp p t).updtInfo = true ∧
      (br.ptp p t).pismState ≠ .disabled := by
  rw [pismNext] at h
  grind

theorem ReadyEntry.pism (hi : ReadyEntry t (br.ptp p t)) (hnext : pismNext br p t = some s) :
    ReadyEntry t ((pismTo p t s br).ptp p t) := by
  cases s with
  | disabled => constructor <;> simp [pismTo, pismToDisabled]
  | aged => constructor <;> simp [pismTo, pismToAged]
  | superiorDesignated => constructor <;> simp [pismTo, pismToSuperiorDesignated]
  | update =>
    obtain ⟨hsel, hupdt, hstate⟩ := pismNext_update hnext
    have hrole := hi.role hsel
    have hinfo : (br.ptp p t).infoIs ≠ .disabled := fun h => hstate (hi.origin h)
    constructor
    · simp [pismTo, pismToUpdate, setNewInfo, setPort, setPtp, hsel]
    · simp [pismTo, pismToUpdate, setNewInfo, setPort, setPtp]
    · simpa [pismTo, pismToUpdate, setNewInfo, setPort, setPtp, hinfo, hsel] using hrole
    · intro ht
      have hdesignated := (hi.update ht hsel hupdt).resolve_right hinfo
      simp [pismTo, pismToUpdate, setNewInfo, setPort, setPtp, hdesignated, Role.usesInfo]
    · simp [pismTo, pismToUpdate, setNewInfo, setPort, setPtp]
  | repeatedDesignated =>
    exact hi.pism_message hnext (by decide) (pismToRepeatedDesignated_frame p t br)
  | inferiorDesignated =>
    exact hi.pism_message hnext (by decide) (pismToInferiorDesignated_frame p t br)
  | notDesignated => exact hi.pism_message hnext (by decide) (pismToNotDesignated_frame p t br)
  | other => exact hi.pism_message hnext (by decide) (pismToOther_frame p t br)
  | current => exact hi.pism_message hnext (by decide) (pismToCurrent_frame p t br)
  | receive => exact hi.pism_message hnext (by decide) (pismToReceive_frame p t br)

theorem Ready.pism (hi : Ready br) (hnext : pismNext br p t = some s) :
    Ready (pismTo p t s br) := by
  intro q hq u hu
  rw [(pismTo_frame p t s br).ports_eq] at hq
  rw [(pismTo_frame p t s br).trees_eq] at hu
  by_cases h : q = p ∧ u = t
  · obtain ⟨rfl, rfl⟩ := h
    exact (hi q hq u hu).pism hnext
  · exact (hi q hq u hu).congr ((pismTo_local p t s br).eq readyFields (fun _ => rfl) h)

end Information

/-! ## Role selection -/

theorem roleFrom_disabled_iff {isCist isRoot infoInternal : Bool} {id : BridgeIdentifier}
    {cist ptp : PerTreePort}
    (hcist : isCist = false → cist.infoIs = .received → cist.selectedRole ≠ .disabled) :
    (roleFrom isCist isRoot infoInternal id cist ptp).1 = .disabled ↔ ptp.infoIs = .disabled := by
  rw [roleFrom]
  cases h : ptp.infoIs
  case disabled => simp
  all_goals
    simp only [reduceCtorEq, iff_false]
    split
    · rename_i hmaster
      simp only [Bool.and_eq_true, Bool.not_eq_true', beq_iff_eq] at hmaster
      have hrole := hcist hmaster.1.1 hmaster.1.2
      split
      · exact Role.noConfusion
      · exact hrole
    · grind

/-- In the CIST. -/
theorem roleFrom_cist {isRoot infoInternal : Bool} {id : BridgeIdentifier}
    {cist ptp : PerTreePort} :
    ((roleFrom true isRoot infoInternal id cist ptp).1.usesInfo = true → ptp.infoIs = .received) ∧
      ((roleFrom true isRoot infoInternal id cist ptp).2 = true →
        (roleFrom true isRoot infoInternal id cist ptp).1 = .designated ∨
          ptp.infoIs = .disabled) := by
  rw [roleFrom]
  cases h : ptp.infoIs with
  | disabled => exact ⟨fun hno => Bool.noConfusion hno, fun _ => Or.inr rfl⟩
  | aged => exact ⟨fun hno => Bool.noConfusion hno, fun _ => Or.inl rfl⟩
  | mine => exact ⟨fun hno => Bool.noConfusion hno, fun _ => Or.inl rfl⟩
  | received =>
    simp only [Bool.not_true, Bool.false_and, Bool.false_eq_true, if_false]
    refine ⟨fun _ => trivial, fun hupdt => ?_⟩
    split at hupdt
    · cases hupdt
    · rename_i hroot
      rw [if_neg hroot]
      split at hupdt
      · cases hupdt
      · rename_i hbetter
        rw [if_neg hbetter]
        exact Or.inl rfl

section Selection

variable {br : Bridge} {t : Mstid}

/-- The roles of the CIST are selected. -/
def CistSelected (br : Bridge) : Prop := ∀ p ∈ br.ports, (br.cist p).selected = true

/-- Roles are selected for an MSTI after those of the CIST. -/
theorem Ready.roleSelection (hi : Ready br) (h0 : 0 ∈ br.trees)
    (hcist : t ≠ 0 → CistSelected br) : Ready (prssmToRoleSelection t br) := by
  intro p hp u hu
  rw [(prssmToRoleSelection_frame t br).ports_eq] at hp
  rw [(prssmToRoleSelection_frame t br).trees_eq] at hu
  by_cases h : u = t
  · subst h
    rw [roleSelection_self u hp]
    have hrole := newRole_eq_roleFrom br u hp
    refine ⟨fun hno => Bool.noConfusion hno, (hi p hp u hu).origin, fun _ => ?_, fun hu _ => ?_,
      fun hu _ => ?_⟩
    · dsimp only
      rw [hrole, roleFrom_disabled_iff]
      intro hmsti hr hnone
      have hready := hi p hp 0 h0
      have hinfo := (hready.role (hcist (by simpa using hmsti) p hp)).mp hnone
      exact InfoOrigin.noConfusion (hr.symm.trans hinfo)
    · subst hu
      dsimp only
      rw [hrole]
      exact roleFrom_cist.1
    · subst hu
      dsimp only
      rw [hrole]
      exact roleFrom_cist.2
  · have hfields := roleSelection_other_eq
      (fun x => (x.selected, x.infoIs, x.pismState, x.selectedRole, x.updtInfo))
      (fun _ => rfl) h br p
    simp only [Prod.mk.injEq] at hfields
    obtain ⟨hsel, hinfo, hstate, hrole, hupdt⟩ := hfields
    have hold := hi p hp u hu
    exact ⟨fun hno => (roleSelection_other t br p h).2 (hold.asks (hsel ▸ hno)),
      hinfo ▸ hstate ▸ hold.origin, hsel ▸ hinfo ▸ hrole ▸ hold.role,
      hsel ▸ hinfo ▸ hrole ▸ hold.received, hsel ▸ hinfo ▸ hrole ▸ hupdt ▸ hold.update⟩

theorem CistSelected.roleSelection (hi : CistSelected br) (t : Mstid) :
    CistSelected (prssmToRoleSelection t br) := by
  intro p hp
  rw [(prssmToRoleSelection_frame t br).ports_eq] at hp
  by_cases h : t = 0
  · subst h
    rw [cist, roleSelection_self 0 hp]
  · rw [roleSelection_msti h]
    exact hi p hp

/-- The turns of all trees, that of the CIST first. -/
theorem Ready.prssmRuns {rest : List Mstid} (hi : Ready br) (h0 : 0 ∈ br.trees) :
    Ready (forAll prssmRun (0 :: rest) br) := by
  have hfirst :
      Ready (prssmRun 0 br) ∧ CistSelected (prssmRun 0 br) ∧ 0 ∈ (prssmRun 0 br).trees := by
    rw [prssmRun]
    split
    · refine ⟨hi.roleSelection h0 fun h => absurd rfl h, fun p hp => ?_, ?_⟩
      · rw [(prssmToRoleSelection_frame 0 br).ports_eq] at hp
        rw [cist, roleSelection_self 0 hp]
      · rw [(prssmToRoleSelection_frame 0 br).trees_eq]
        exact h0
    · rename_i hdry
      refine ⟨hi, fun p hp => ?_, h0⟩
      by_contra hno
      have hasks := (hi p hp 0 h0).asks (Bool.eq_false_iff.mpr hno)
      rw [prssmDry_reselect (by simpa using hdry) hp] at hasks
      cases hasks
  refine (forAll_inv (I := fun b => Ready b ∧ CistSelected b ∧ 0 ∈ b.trees) (l := rest)
    (fun t _ b hb => ?_) hfirst).1
  rw [prssmRun]
  split
  · refine ⟨hb.1.roleSelection hb.2.2 fun _ => hb.2.1, hb.2.1.roleSelection t, ?_⟩
    rw [(prssmToRoleSelection_frame t b).trees_eq]
    exact hb.2.2
  · exact hb

end Selection

/-! ## A pass -/

/-- The entry has information exactly while its port is enabled. -/
def InfoFollowsLink (br : Bridge) (p : PortRef) (t : Mstid) : Prop :=
  (br.port p).portEnabled = false ↔ (br.ptp p t).infoIs = .disabled

section Stages

variable {fuel : Nat} {br br' : Bridge}

theorem Ready.infoFollowsLink {p : PortRef} {t : Mstid} (hi : Ready br) (hp : p ∈ br.ports)
    (ht : t ∈ br.trees) (h : pismNext br p t = none) : InfoFollowsLink br p t := by
  constructor
  · exact pismNext_none_disabled h
  · intro hinfo
    by_contra hup
    have hstate := (hi p hp t ht).origin hinfo
    rw [pismNext] at h
    simp [hup, hstate] at h

theorem OnLists.pismRun {ports : List PortRef} {trees : List Mstid} {p : PortRef} {t : Mstid}
    (hi : OnLists ports trees Ready br) (h : run (pismStep p t) fuel br = some br') :
    OnLists ports trees Ready br' := by
  refine run_inv ?_ hi h
  intro c c' more hc hstep
  obtain ⟨s, hs, heq⟩ := Option.map_eq_some_iff.mp hstep
  obtain ⟨hto, -⟩ := Prod.mk.inj heq
  rw [← hto]
  exact hc.frame (pismTo_frame p t s c) (hc.1.pism hs)

theorem pismStage_infoFollowsLink {ports : List PortRef} {trees : List Mstid}
    {refs : List (PortRef × Mstid)} (hrefs : ∀ o ∈ refs, o.1 ∈ ports ∧ o.2 ∈ trees)
    (hi : OnLists ports trees Ready br) (h : pismStage fuel refs br = some br') :
    ∀ o ∈ refs, InfoFollowsLink br' o.1 o.2 := by
  refine forEach_settles (I := OnLists ports trees Ready)
    (P := fun o b => InfoFollowsLink b o.1 o.2) (fun _ _ _ _ hb hrun => hb.pismRun hrun) ?_ ?_ hi h
  · intro o ho b b' hb hrun
    have hb' := hb.pismRun hrun
    obtain ⟨hp, ht⟩ := hrefs o ho
    exact hb'.1.infoFollowsLink (hb'.2.1 ▸ hp) (hb'.2.2 ▸ ht) (pismRun_none hrun)
  · intro a ha o _ b b' hi hb hrun
    by_cases hsame : a.1 = o.1 ∧ a.2 = o.2
    · have hb' := hi.pismRun hrun
      obtain ⟨hp, ht⟩ := hrefs a ha
      refine hb'.1.infoFollowsLink (hb'.2.1 ▸ hp) (hb'.2.2 ▸ ht) ?_
      rw [hsame.1, hsame.2]
      exact pismRun_none hrun
    · rw [InfoFollowsLink, pismRun_keeps PerTreePort.infoIs (fun _ => rfl) hsame hrun,
        pismRun_portEnabled hrun]
      exact hb

/-- Role transitions of one entry ask the others at most to synchronize or to reroot. -/
theorem prtsmTo_local (v : PrtsmVars) (p : PortRef) (t : Mstid) (s : PrtsmState) (br : Bridge) :
    Local withoutSync p t br (prtsmTo v p t s br) := by
  have htree : Local withoutSync p t br (prtsmTree t s br) := by
    unfold prtsmTree
    split
    case h_5 => exact Local.refl
    all_goals exact Local.setTreePtps fun _ _ => rfl
  rw [prtsmTo]
  exact Local.after Local.self (Local.after Local.setPort htree)

theorem prtsmRun_keeps {p q : PortRef} {t u : Mstid} (hne : ¬ (q = p ∧ u = t))
    (h : prtsmRun fuel p t br = some br') : roleFields (br'.ptp q u) = roleFields (br.ptp q u) := by
  refine prtsmRun_inv (I := fun b => roleFields (b.ptp q u) = roleFields (br.ptp q u)) ?_ rfl h
  intro b s hb _
  rw [(prtsmTo_local _ p t s b).eq roleFields (fun _ => rfl) hne]
  exact hb

/-- The entry has the role selected for it, if it is in effect. -/
def HasRole (br : Bridge) (p : PortRef) (t : Mstid) : Prop :=
  (br.ptp p t).selected = true → (br.ptp p t).updtInfo = false →
    (br.ptp p t).role = (br.ptp p t).selectedRole

theorem prtsmNext_none_role {p : PortRef} {t : Mstid} {v : PrtsmVars}
    (h : prtsmNext v br p t = none) : HasRole br p t := by
  intro hsel hupdt
  by_contra hne
  rw [prtsmNext, if_pos (by simp [hsel, hupdt, hne])] at h
  cases h

theorem prtsmRun_role {p : PortRef} {t : Mstid} (h : prtsmRun fuel p t br = some br') :
    HasRole br' p t := by
  have hnone : prtsmNext (prtsmVars br p) br' p t = none := by
    simpa [prtsmStep] using (prtsm_rests h).1
  exact prtsmNext_none_role hnone

theorem prtsmStage_role {refs : List (PortRef × Mstid)} (h : prtsmStage fuel refs br = some br') :
    ∀ o ∈ refs, HasRole br' o.1 o.2 := by
  refine forEach_settles (I := fun _ => True) (P := fun o b => HasRole b o.1 o.2)
    (fun _ _ _ _ _ _ => trivial) (fun o _ b b' _ hrun => prtsmRun_role hrun) ?_ trivial h
  intro a _ o _ b b' _ hb hrun
  by_cases hsame : a.1 = o.1 ∧ a.2 = o.2
  · rw [hsame.1, hsame.2]
    exact prtsmRun_role hrun
  · have hfields := prtsmRun_keeps hsame hrun
    simp only [roleFields, Prod.mk.injEq] at hfields
    obtain ⟨hsel, -, -, -, hrole, hupdt, hcurrent⟩ := hfields
    rw [HasRole, hsel, hupdt, hcurrent, hrole]
    exact hb

theorem prssmStage_eq (trees : List Mstid) (br : Bridge) :
    prssmStage trees br = some (forAll prssmRun trees br) := by
  induction trees generalizing br with
  | nil => rfl
  | cons t rest ih => exact ih (prssmRun t br)

theorem InfoFollowsLink.prssmRuns {p : PortRef} {t : Mstid} (hi : InfoFollowsLink br p t)
    (trees : List Mstid) : InfoFollowsLink (forAll prssmRun trees br) p t := by
  refine forAll_inv (I := fun b => InfoFollowsLink b p t) (fun s _ b hb => ?_) hi
  have hframe := prssmRun_frame s b
  rw [InfoFollowsLink, hframe.ptp_eq PerTreePort.infoIs (fun _ => rfl),
    hframe.port_eq Port.portEnabled fun _ => rfl]
  exact hb

end Stages

/-- A pass leaves the roles final. -/
theorem Ready.pass {fuel : Nat} {br br' : Bridge} {rest : List Mstid} (hi : Ready br)
    (htrees : br.trees = 0 :: rest) (h : brStateMachinesPass fuel br = some br') :
    Ready br' ∧ Final br' := by
  obtain ⟨b₁, b₂, b₃, b₄, b₅, b₆, b₇, b₈, b₉, h₁, h₂, h₃, h₄, h₅, h₆, h₇, h₈, h₉, h₁₀⟩ :=
    pass_cases h
  have hrefs : ∀ o ∈ br.ptpRefs, o.1 ∈ br.ports ∧ o.2 ∈ br.trees := fun o ho => mem_ptpRefs.mp ho
  have i₁ : OnLists br.ports br.trees Ready b₁ :=
    assuranceStage_inv (fun p _ b hb =>
      hb.frame (assuranceRun_frame p b) (hb.1.keep (assuranceRun_frame p b).mono))
      ⟨hi, rfl, rfl⟩ h₁
  have i₂ : OnLists br.ports br.trees Ready b₂ :=
    prsmStage_inv (fun p _ b s hb _ =>
      hb.frame (prsmTo_frame p s b) (hb.1.keep (prsmTo_frame p s b).mono)) i₁ h₂
  have i₃ : OnLists br.ports br.trees Ready b₃ :=
    ppmsmStage_inv (fun p _ b s hb _ =>
      hb.frame (ppmsmTo_frame p s b) (hb.1.keep (ppmsmTo_frame p s b).mono)) i₂ h₃
  have i₄ : OnLists br.ports br.trees Ready b₄ :=
    bdsmStage_inv (fun p _ b s hb _ =>
      hb.frame (bdsmTo_frame p s b) (hb.1.keep (bdsmTo_frame p s b).mono)) i₃ h₄
  have i₅ : OnLists br.ports br.trees Ready b₅ :=
    ptsmStage_inv (fun p _ b s hb _ =>
      hb.frame (ptsmTo_frame p s b) (hb.1.keep (ptsmTo_frame p s b).mono)) i₄ h₅
  have i₆ : OnLists br.ports br.trees Ready b₆ :=
    pismStage_inv (fun o _ b s hb hs =>
      hb.frame (pismTo_frame o.1 o.2 s b) (hb.1.pism hs)) i₅ h₆
  have l₆ := pismStage_infoFollowsLink hrefs i₅ h₆
  rw [prssmStage_eq, Option.some.injEq] at h₇
  have hlists : Frame prssmOwned b₆ b₇ := h₇ ▸ Frame.forAll prssmRun_frame br.trees b₆
  have i₇ : OnLists br.ports br.trees Ready b₇ := by
    refine i₆.frame hlists ?_
    rw [← h₇, htrees]
    exact i₆.1.prssmRuns (by simp [i₆.2.2, htrees])
  have l₇ : ∀ o ∈ br.ptpRefs, InfoFollowsLink b₇ o.1 o.2 := fun o ho =>
    h₇ ▸ (l₆ o ho).prssmRuns br.trees
  have i₈ : OnLists br.ports br.trees Ready b₈ :=
    prtsmStage_inv (fun o _ b s hb _ =>
      hb.frame (prtsmTo_frame _ o.1 o.2 s b) (hb.1.frame (prtsmTo_frame _ o.1 o.2 s b).mono)) i₇ h₈
  have hroles : Frame prtsmOwned b₇ b₈ :=
    prtsmStage_inv (fun o _ b s hb _ => Frame.after (prtsmTo_frame _ o.1 o.2 s b) hb)
      (Frame.refl prtsmOwned b₇) h₈
  have f₈ : Final b₈ := by
    refine ⟨fun p hp t ht => ?_, fun p hp t ht _ _ => ?_⟩
    all_goals
      rw [i₈.2.1] at hp
      rw [i₈.2.2] at ht
      have href : (p, t) ∈ br.ptpRefs := mem_ptpRefs.mpr ⟨hp, ht⟩
    · exact prtsmStage_role h₈ (p, t) href
    · have hinfo := hroles.ptp_eq PerTreePort.infoIs (fun _ => rfl) p
      have hcist : (p, 0) ∈ br.ptpRefs := mem_ptpRefs.mpr ⟨hp, by simp [htrees]⟩
      rw [cist, hinfo, hinfo]
      exact (l₇ (p, t) href).symm.trans (l₇ (p, 0) hcist)
  have i₉ : Ready b₉ ∧ Final b₉ :=
    pstsmStage_inv (I := fun b => Ready b ∧ Final b) (fun o _ b s hb _ =>
      ⟨hb.1.keep (pstsmTo_frame o.1 o.2 s b).mono, hb.2.frame (pstsmTo_frame o.1 o.2 s b).mono⟩)
      ⟨i₈.1, f₈⟩ h₉
  exact tcsmStage_inv (I := fun b => Ready b ∧ Final b) (fun o _ b s hb _ =>
    ⟨hb.1.keep (tcsmTo_frame o.1 o.2 s b).mono, hb.2.frame (tcsmTo_frame o.1 o.2 s b).mono⟩) i₉ h₁₀

/-! ## BEGIN -/

section Begin

variable {br b : Bridge} {q : PortRef} {s t : Mstid} {refs : List (PortRef × Mstid)}

theorem Managed.waiting (h : Managed br b) (hq : q ∈ b.ports) (hs : s ∈ b.trees)
    (hw : Waiting (br.ptp q s)) : Waiting (b.ptp q s) := by
  rcases h q hq s hs with hnew | ⟨-, -, hagain⟩
  · exact hnew
  · exact hw.asksAgain hagain

theorem pismBegin_waiting (p : PortRef) (t : Mstid) (br : Bridge) :
    Waiting ((pismBegin p t br).ptp p t) := by
  simp [Waiting, pismBegin, pismToDisabled]

theorem pismBegin_other {p : PortRef} (h : ¬ (q = p ∧ s = t)) (br : Bridge) :
    (pismBegin p t br).ptp q s = br.ptp q s := by
  simp [pismBegin, pismToDisabled, setPtp, h]

theorem pismBegins_waiting (h : (q, s) ∈ refs) (br : Bridge) :
    Waiting ((forAll (fun o => pismBegin o.1 o.2) refs br).ptp q s) := by
  refine forAll_reaches (I := fun b => Waiting (b.ptp q s)) h (fun b => pismBegin_waiting q s b)
    (fun o b hb => ?_) br
  by_cases hsame : q = o.1 ∧ s = o.2
  · rw [hsame.1, hsame.2]
    exact pismBegin_waiting o.1 o.2 b
  · rw [pismBegin_other hsame]
    exact hb

theorem pismBegins_other (h : (q, s) ∉ refs) (br : Bridge) :
    (forAll (fun o => pismBegin o.1 o.2) refs br).ptp q s = br.ptp q s := by
  refine forAll_inv (I := fun b => b.ptp q s = br.ptp q s) (fun o ho b hb => ?_) rfl
  rw [pismBegin_other (fun hsame => h (by rw [hsame.1, hsame.2]; exact ho)), hb]

theorem pismBegins_managed (refs : List (PortRef × Mstid)) (br : Bridge) :
    Managed br (forAll (fun o => pismBegin o.1 o.2) refs br) := by
  have hframe := pismBegins_frame refs br
  intro q hq s hs
  by_cases h : (q, s) ∈ refs
  · exact Or.inl (pismBegins_waiting h br)
  · rw [pismBegins_other h]
    exact Or.inr ⟨hframe.ports_eq ▸ hq, hframe.trees_eq ▸ hs, Or.inl rfl⟩

theorem portMachinesBegin_managed (ports : List PortRef) (br : Bridge) :
    Managed br (portMachinesBegin ports br) := by
  have hframe : Frame besideRoles br (portMachinesBegin ports br) := by
    rw [portMachinesBegin]
    refine Frame.after (Frame.forAll ptsmToTransmitInit_frame ports _).mono ?_
    refine Frame.after (Frame.forAll (fun p b => bdsmTo_frame p _ b) ports _).mono ?_
    refine Frame.after (Frame.forAll ppmsmToCheckingRstp_frame ports _).mono ?_
    exact (Frame.forAll prsmToDiscard_frame ports br).mono
  exact hframe.managed

theorem initTree_ptp (q : PortRef) (s t : Mstid) (br : Bridge) :
    (prssmToInitTree t br).ptp q s = br.ptp q s ∨
      s = t ∧ q ∈ br.ports ∧
        (prssmToInitTree t br).ptp q s = { br.ptp q s with selectedRole := .disabled } := by
  simp only [prssmToInitTree, updtRolesDisabledTree, setTreePtps, setTree]
  split
  · rename_i h
    exact Or.inr ⟨h.1, h.2, rfl⟩
  · exact Or.inl rfl

theorem initTree_managed (hw : ∀ p ∈ br.ports, Waiting (br.ptp p t)) :
    Managed br (prssmToInitTree t br) := by
  intro q hq s hs
  rw [(prssmToInitTree_frame t br).ports_eq] at hq
  rw [(prssmToInitTree_frame t br).trees_eq] at hs
  rcases initTree_ptp q s t br with hsame | ⟨rfl, -, hnew⟩
  · rw [hsame]
    exact Or.inr ⟨hq, hs, Or.inl rfl⟩
  · rw [hnew]
    exact Or.inl (hw q hq)

/-- The machines that begin after the roles have no part in them. -/
theorem stateMachinesBegin_frame (refs : List (PortRef × Mstid)) (br : Bridge) :
    Frame besideRoles br (forAll (fun o => tcsmToInactive o.1 o.2) refs
      (forAll (fun o => pstsmTo o.1 o.2 .discarding) refs br)) := by
  have hstates := Frame.forAll
    (fun (o : PortRef × Mstid) b => pstsmTo_frame o.1 o.2 .discarding b) refs br
  have htc := Frame.forAll (fun (o : PortRef × Mstid) b => tcsmToInactive_frame o.1 o.2 b) refs
    (forAll (fun o => pstsmTo o.1 o.2 .discarding) refs br)
  exact Frame.after htc.mono hstates.mono

theorem ptpMachinesBegin_ready (refs : List (PortRef × Mstid)) (br : Bridge) :
    Frame besideReady br (ptpMachinesBegin refs br) := by
  have hinit :=
    Frame.forAll (fun (o : PortRef × Mstid) b => prtsmToInitPort_frame o.1 o.2 b) refs br
  rw [ptpMachinesBegin]
  exact Frame.after (stateMachinesBegin_frame refs _).mono hinit.mono

theorem ptpMachinesBegin_other (h : (q, s) ∉ refs) (br : Bridge) :
    roleFields ((ptpMachinesBegin refs br).ptp q s) = roleFields (br.ptp q s) := by
  have hinit : (forAll (fun (o : PortRef × Mstid) => prtsmToInitPort o.1 o.2) refs br).ptp q s =
      br.ptp q s := by
    refine forAll_inv (I := fun b => b.ptp q s = br.ptp q s) (fun o ho b hb => ?_) rfl
    have hne : ¬ (q = o.1 ∧ s = o.2) := fun hsame => h (by rw [hsame.1, hsame.2]; exact ho)
    simp only [prtsmToInitPort, setPtp, if_neg hne]
    exact hb
  rw [← hinit, ptpMachinesBegin]
  exact (stateMachinesBegin_frame refs _).ptp_eq roleFields (fun _ => rfl) q s

theorem ptpMachinesBegin_managed (hw : ∀ o ∈ refs, Waiting (br.ptp o.1 o.2)) :
    Managed br (ptpMachinesBegin refs br) := by
  have hframe := ptpMachinesBegin_ready refs br
  intro q hq s hs
  by_cases h : (q, s) ∈ refs
  · refine Or.inl ?_
    rw [Waiting, hframe.ptp_eq (fun x => (x.selected, x.reselect, x.infoIs, x.pismState))
      (fun _ => rfl) q s]
    exact hw (q, s) h
  · exact Or.inr ⟨hframe.ports_eq ▸ hq, hframe.trees_eq ▸ hs,
      Or.inl (ptpMachinesBegin_other h br)⟩

end Begin

/-- The entries of the list have begun anew, the others are as before. -/
structure Begun (refs : List (PortRef × Mstid)) (br b : Bridge) : Prop where
  ports : b.ports = br.ports
  trees : b.trees = br.trees
  managed : Managed br b
  waiting : ∀ o ∈ refs, Waiting (b.ptp o.1 o.2)

section Begun

variable {br b : Bridge} {refs : List (PortRef × Mstid)}

theorem Begun.pismBegins (hports : b.ports = br.ports) (htrees : b.trees = br.trees)
    (h : Managed br b) : Begun refs br (forAll (fun o => pismBegin o.1 o.2) refs b) where
  ports := (pismBegins_frame refs b).ports_eq.trans hports
  trees := (pismBegins_frame refs b).trees_eq.trans htrees
  managed := h.trans (pismBegins_managed refs b)
  waiting _ ho := pismBegins_waiting ho b

theorem Begun.initTree {t : Mstid} (h : Begun refs br b) (ht : ∀ p ∈ br.ports, (p, t) ∈ refs) :
    Begun refs br (prssmToInitTree t b) where
  ports := (prssmToInitTree_frame t b).ports_eq.trans h.ports
  trees := (prssmToInitTree_frame t b).trees_eq.trans h.trees
  managed := h.managed.trans (initTree_managed fun p hp => h.waiting _ (ht p (h.ports ▸ hp)))
  waiting o ho := by
    have hw := h.waiting o ho
    rcases initTree_ptp o.1 o.2 t b with hsame | ⟨-, -, hnew⟩
    · exact hsame ▸ hw
    · rw [hnew]
      exact hw

theorem Begun.ptpMachinesBegin (h : Begun refs br b) :
    Begun refs br (ptpMachinesBegin refs b) where
  ports := (ptpMachinesBegin_ready refs b).ports_eq.trans h.ports
  trees := (ptpMachinesBegin_ready refs b).trees_eq.trans h.trees
  managed := h.managed.trans (ptpMachinesBegin_managed h.waiting)
  waiting o ho := by
    have hkeep := (ptpMachinesBegin_ready refs b).ptp_eq
      (fun x => (x.selected, x.reselect, x.infoIs, x.pismState)) (fun _ => rfl) o.1 o.2
    exact hkeep.trans (h.waiting o ho)

theorem bridgeBegin_begun (hen : br.bridgeEnabled = true) :
    Begun br.ptpRefs br (bridgeBegin br) := by
  rw [bridgeBegin, if_pos hen]
  have hports := portMachinesBegin_frame br.ports br
  refine Begun.ptpMachinesBegin ?_
  refine forAll_inv (fun t ht b hb => hb.initTree fun p hp => mem_ptpRefs.mpr ⟨hp, ht⟩) ?_
  exact Begun.pismBegins hports.ports_eq hports.trees_eq (portMachinesBegin_managed br.ports br)

theorem bridgeBegin_managed (br : Bridge) : Managed br (bridgeBegin br) := by
  by_cases hen : br.bridgeEnabled = true
  · exact (bridgeBegin_begun hen).managed
  · rw [bridgeBegin_disabled (by simpa using hen)]
    exact Managed.refl br

theorem treeBegin_begun (t : Mstid) (hen : br.bridgeEnabled = true) :
    Begun (br.ports.map fun p => (p, t)) br (treeBegin t br) := by
  rw [treeBegin, if_pos hen]
  refine Begun.ptpMachinesBegin (Begun.initTree ?_ fun p hp => List.mem_map_of_mem hp)
  exact Begun.pismBegins rfl rfl (Managed.refl br)

theorem portBeginSelect_begun (p : PortRef) (br : Bridge) :
    Begun (br.trees.map fun t => (p, t)) br (portBeginSelect p br) := by
  have hports := portMachinesBegin_frame [p] br
  rw [portBeginSelect]
  exact Begun.pismBegins hports.ports_eq hports.trees_eq (portMachinesBegin_managed [p] br)

end Begun

/-! ## Roles between passes -/

/-- Every entry has begun anew. -/
def AllWaiting (br : Bridge) : Prop := ∀ p ∈ br.ports, ∀ t ∈ br.trees, Waiting (br.ptp p t)

/-- What the entries of an enabled bridge are ready for between passes. -/
def RolesFit (early : Bool) (br : Bridge) : Prop :=
  br.bridgeEnabled = true → Ready br ∧ (early = false → Final br)

section RolesFit

variable {early : Bool} {br b : Bridge}

theorem RolesFit.managed (hi : RolesFit early br) (hen : b.bridgeEnabled = br.bridgeEnabled)
    (h0 : 0 ∈ b.trees) (h : Managed br b) : RolesFit early b := by
  intro hb
  obtain ⟨hready, hfinal⟩ := hi (hen ▸ hb)
  exact ⟨hready.managed h, fun he => (hfinal he).managed h0 h⟩

/-- A new tree has begun, the others are as they were. -/
theorem createMsti_managed {mstid : UInt16} {trees : List Mstid}
    (htrees : insertAfterLast (fun s => decide (s < mstid)) mstid br.trees = some trees)
    (hen : br.bridgeEnabled = true) : Managed br (treeBegin mstid (addTree mstid trees br)) := by
  have hadd : (addTree mstid trees br).bridgeEnabled = true := hen
  have hbegun := treeBegin_begun mstid hadd
  intro q hq s hs
  by_cases h : s = mstid
  · subst h
    exact Or.inl (hbegun.waiting (q, s) (List.mem_map_of_mem (hbegun.ports ▸ hq)))
  · rcases hbegun.managed q hq s hs with hw | ⟨hqa, hsa, hagain⟩
    · exact Or.inl hw
    · have hsame : (addTree mstid trees br).ptp q s = br.ptp q s := by
        simp [addTree, setTreePtps, setTree, h]
      rw [hsame] at hagain
      exact Or.inr ⟨hqa, ((insertAfterLast_mem htrees s).mp hsa).resolve_left h, hagain⟩

/-- A new port has begun, the others are as they were when their roles are selected. -/
theorem createPort_managed (p : PortRef) (portno : UInt16) (name : String) (speed duplex : Int)
    (br : Bridge) : Managed br (portBeginSelect p (addPort p portno name speed duplex br)) := by
  have hbegun := portBeginSelect_begun p (addPort p portno name speed duplex br)
  intro q hq s hs
  by_cases h : q = p
  · subst h
    exact Or.inl (hbegun.waiting (q, s) (List.mem_map_of_mem (hbegun.trees ▸ hs)))
  · rcases hbegun.managed q hq s hs with hw | ⟨hqa, hsa, hagain⟩
    · exact Or.inl hw
    · have hsame : (addPort p portno name speed duplex br).ptp q s = br.ptp q s := by
        simp [addPort, setPortPtps, setPort, h]
      have hold := (List.mem_append.mp hqa).resolve_right fun hmem => h (List.mem_singleton.mp hmem)
      rw [hsame] at hagain
      exact Or.inr ⟨hold, hsa, hagain⟩

theorem Ready.createPort {p : PortRef} {portno : UInt16} {name : String} {speed duplex : Int}
    {rest : List Mstid} (hi : Ready br) (htrees : br.trees = 0 :: rest)
    (hen : br.bridgeEnabled = true) :
    Ready (portBegin p (addPort p portno name speed duplex br)) := by
  have hadd : (addPort p portno name speed duplex br).bridgeEnabled = true := hen
  have hbegun := portBeginSelect_begun p (addPort p portno name speed duplex br)
  have hselect := hi.managed (createPort_managed p portno name speed duplex br)
  have hlist : (addPort p portno name speed duplex br).trees = 0 :: rest := htrees
  rw [portBegin, if_pos hadd]
  refine Ready.frame ?_ (ptpMachinesBegin_ready _ _)
  rw [hlist]
  exact hselect.prssmRuns (by simp [hbegun.trees, hlist])

theorem RolesFit.bridgeBegin (early : Bool) (br : Bridge) : RolesFit early (bridgeBegin br) := by
  by_cases hen : br.bridgeEnabled = true
  · have hbegun := bridgeBegin_begun hen
    have hall : AllWaiting (Mstpd.bridgeBegin br) := fun p hp t ht =>
      hbegun.waiting (p, t) (mem_ptpRefs.mpr ⟨hbegun.ports ▸ hp, hbegun.trees ▸ ht⟩)
    refine fun _ => ⟨fun p hp t ht => ReadyEntry.waiting (hall p hp t ht), fun _ => ?_⟩
    exact ⟨fun p hp t ht hsel => absurd hsel (hall p hp t ht).not_selected,
      fun p hp t ht hsel => absurd hsel (hall p hp t ht).not_selected⟩
  · rw [bridgeBegin_disabled (by simpa using hen)]
    exact fun h => absurd h hen

theorem writeAddress_managed (macaddr : BitVec 48) (br : Bridge) :
    Managed br (writeAddress macaddr br) := by
  rw [writeAddress]
  exact Managed.forAll (fun _ _ => Managed.setTree) br.trees br

theorem writeTables_managed (env : Env) (changed : Bool) (vid2fid fid2mstid : Nat → UInt16)
    (br : Bridge) : Managed br (writeTables env changed vid2fid fid2mstid br) := by
  rw [writeTables]
  exact Managed.ite (Managed.of_entries rfl rfl fun _ _ => Or.inl rfl)
    (Managed.of_entries rfl rfl fun _ _ => Or.inl rfl)

/-- What the operations assign between passes on an enabled bridge, but for two actions. -/
theorem Act.managed_between {a : Act} (hphase : .idle = a.phase ∨ a.betweenPasses = true)
    (hg : a.Guard br) (hen : br.bridgeEnabled = true) (hup : ∀ up, a ≠ .switchBridge up)
    (hno : a.selectsRoles br = false) : Managed br (a.run br) := by
  have hrestart : ∀ (c : Bool) (b : Bridge), Managed br b →
      Managed br (if c then bridgeBegin b else b) := by
    intro c b h
    cases c
    · exact h
    · exact h.trans (bridgeBegin_managed b)
  cases a with
  | assurance | prsm | ppmsm | bdsm | ptsm | pism | prssm | prtsm | pstsm =>
    simp [Act.phase, Act.betweenPasses] at hphase
  | switchBridge up => exact absurd rfl (hup up)
  | createPort p portno name speed duplex =>
    rw [Act.selectsRoles, hen] at hno
    cases hno
  | bridgeAddress macaddr => exact hrestart _ _ (writeAddress_managed macaddr br)
  | bridgeConfig cfg => exact hrestart _ _ (writeBridgeConfig_managed cfg br)
  | tables env changed vid2fid fid2mstid =>
    exact hrestart changed _ (writeTables_managed env changed vid2fid fid2mstid br)
  | configId revision name =>
    exact hrestart true _
      (Managed.of_entries (b := writeConfigId revision name br) rfl rfl fun _ _ => Or.inl rfl)
  | removePort p => exact fun q hq s hs => Or.inr ⟨List.mem_of_mem_erase hq, hs, Or.inl rfl⟩
  | removeMsti mstid => exact fun q hq s hs => Or.inr ⟨hq, List.mem_of_mem_erase hs, Or.inl rfl⟩
  | createMsti mstid trees => exact createMsti_managed hg.2.2.2.2 hen
  | markDeleted | tick | idleSecond | linkUp | linkDown | flushed | rxBpdu | mstiBridgeConfig
  | portConfig | mstiPortConfig | mcheck | sysdeps | tcsm => exact Act.managed rfl br

/-- An action between passes. Only the creation of a port selects roles. -/
theorem RolesFit.act {a : Act} {rest : List Mstid} (hi : RolesFit early br)
    (htrees : br.trees = 0 :: rest) (h0 : 0 ∈ (a.run br).trees)
    (hphase : .idle = a.phase ∨ a.betweenPasses = true) (hg : a.Guard br) :
    RolesFit (early || a.selectsRoles br) (a.run br) := by
  cases a with
  | switchBridge up => exact RolesFit.bridgeBegin _ (resetBridge up br)
  | createPort p portno name speed duplex =>
    intro hen
    have hold : br.bridgeEnabled = true :=
      (Act.enabled_eq (fun _ => Act.noConfusion) hg).symm.trans hen
    refine ⟨(hi hold).1.createPort htrees hold, fun hno => ?_⟩
    simp [Act.selectsRoles, hold] at hno
  | _ =>
    intro hen
    have hold : br.bridgeEnabled = true :=
      (Act.enabled_eq (fun _ => Act.noConfusion) hg).symm.trans hen
    have hmanaged := Act.managed_between hphase hg hold (fun _ => Act.noConfusion) rfl
    rw [Act.selectsRoles, Bool.or_false]
    · exact hi.managed (Act.enabled_eq (fun _ => Act.noConfusion) hg) h0 hmanaged hen
    all_goals exact fun _ _ _ _ _ => Act.noConfusion

end RolesFit

/-- Between passes, whatever has happened before. -/
theorem AtPass.rolesFit {early : Bool} {br : Bridge} (h : AtPass early br) :
    RolesFit early br := by
  induction h with
  | create env macaddr => exact fun hen => Bool.noConfusion hen
  | act h a hphase hg ih =>
    obtain ⟨rest, htrees⟩ := h.trees_head
    obtain ⟨rest', htrees'⟩ := (h.act a hphase hg).trees_head
    exact ih.act htrees (by simp [htrees']) hphase hg
  | pass h hen hpass ih =>
    obtain ⟨rest, htrees⟩ := h.trees_head
    obtain ⟨hready, hfinal⟩ := (ih hen).1.pass htrees hpass
    exact fun _ => ⟨hready, fun _ => hfinal⟩

/-! ## What is sent -/

/-- The state `c` is reached in the transmit stage of a pass that starts in `br`. -/
def InTransmitStage (br c : Bridge) : Prop :=
  br.bridgeEnabled = true ∧ ∃ fuel b, forEach id ((stages fuel br).take 4) br = some b ∧
    bridgeActs.Leads (fun a _ => a.phase = .ptsm) b c

/-- The port builds a BPDU next: its transmit machine enters a state that transmits, and the
transmit function does not return early. -/
def BuildsBpdu (br : Bridge) (p : PortRef) : Prop :=
  p ∈ br.ports ∧ (ptsmNext br p).any PtsmState.transmits = true ∧ txSuppressed br p = false

/-- Every per-tree port of the port has the role selected for it, and has one. -/
def RolesFinal (br : Bridge) (p : PortRef) : Prop :=
  ∀ t ∈ br.trees, (br.ptp p t).role = (br.ptp p t).selectedRole ∧ (br.ptp p t).role ≠ .disabled

section Transmit

variable {br c : Bridge} {p : PortRef}

/-- The stages before the transmit machine, and that machine itself, leave the roles alone. -/
theorem InTransmitStage.frame (h : InTransmitStage br c) : Frame besideRoles br c := by
  obtain ⟨-, fuel, b, hstages, hsent⟩ := h
  simp only [stages, List.take, forEach, id_eq, Option.bind_eq_some_iff,
    Option.some.injEq] at hstages
  obtain ⟨b₁, h₁, b₂, h₂, b₃, h₃, b₄, h₄, rfl⟩ := hstages
  have i₁ : Frame besideRoles br b₁ :=
    assuranceStage_inv (fun p _ b hb => Frame.after (assuranceRun_frame p b).mono hb)
      (Frame.refl _ br) h₁
  have i₂ : Frame besideRoles br b₂ :=
    prsmStage_inv (fun p _ b s hb _ => Frame.after (prsmTo_frame p s b).mono hb) i₁ h₂
  have i₃ : Frame besideRoles br b₃ :=
    ppmsmStage_inv (fun p _ b s hb _ => Frame.after (ppmsmTo_frame p s b).mono hb) i₂ h₃
  have i₄ : Frame besideRoles br b₄ :=
    bdsmStage_inv (fun p _ b s hb _ => Frame.after (bdsmTo_frame p s b).mono hb) i₃ h₄
  refine hsent.inv (I := fun b => Frame besideRoles br b) (fun a b hb _ ha => ?_) i₄
  cases a with
  | ptsm q s => exact Frame.after (ptsmTo_frame q s b).mono hb
  | _ => cases ha

/-- Before a transmission all trees are in effect. -/
theorem ptsmNext_ready {s : PtsmState} (h : ptsmNext br p = some s) (hs : s.transmits = true) :
    allTransmitReady br p = true := by
  rw [ptsmNext] at h
  split at h
  · rw [← Option.some.inj h] at hs
    cases hs
  · split at h
    · by_contra hno
      rw [Bool.not_eq_true] at hno
      simp only [hno, Bool.not_false, if_true] at h
      cases h
    all_goals
      rw [← Option.some.inj h] at hs
      cases hs

theorem BuildsBpdu.inEffect (h : BuildsBpdu br p) : ∀ t ∈ br.trees,
    (br.ptp p t).selected = true ∧ (br.ptp p t).updtInfo = false := by
  obtain ⟨s, hnext, hs⟩ := (Option.any_eq_true _ _).mp h.2.1
  have hready := ptsmNext_ready hnext hs
  intro t ht
  simpa [allTransmitReady] using List.all_eq_true.mp hready t ht

/-- Unless a port has been created since the last pass, what is sent about a tree is final. -/
theorem transmitted_roles_final (h : AtPass false br) (hstage : InTransmitStage br c)
    (hsend : BuildsBpdu c p) : RolesFinal c p := by
  obtain ⟨hready, hfinal⟩ := h.rolesFit hstage.1
  have hframe := hstage.frame
  have hready' := hready.keep hframe
  have hfinal' := (hfinal rfl).frame hframe
  have h0 : 0 ∈ c.trees := by
    obtain ⟨rest, htrees⟩ := h.trees_head
    rw [hframe.trees_eq, htrees]
    exact List.mem_cons_self
  have heffect := hsend.inEffect
  have hp := hsend.1
  -- the CIST is not without a role, so it has information, and then so have the other trees
  have hcist : (c.cist p).infoIs ≠ .disabled := by
    intro hinfo
    have hnone := ((hready' p hp 0 h0).role (heffect 0 h0).1).mpr hinfo
    have hrole : (c.cist p).role = .disabled :=
      (hfinal'.role p hp 0 h0 (heffect 0 h0).1 (heffect 0 h0).2).trans hnone
    have hsuppressed := hsend.2.2
    simp [txSuppressed, hrole] at hsuppressed
  intro t ht
  have hrole := hfinal'.role p hp t ht (heffect t ht).1 (heffect t ht).2
  refine ⟨hrole, fun hnone => hcist ?_⟩
  rw [hrole, (hready' p hp t ht).role (heffect t ht).1] at hnone
  exact (hfinal'.origin p hp t ht (heffect t ht).1 (heffect 0 h0).1).mp hnone

end Transmit

/-! ## The first pass after the creation of a port -/

/-- The transmit stage of a pass, before any transmission. -/
def transmitStageStart (br : Bridge) : Option Bridge := forEach id ((stages 60 br).take 4) br

theorem transmitStageStart_reached {br c : Bridge} (hen : br.bridgeEnabled = true)
    (h : transmitStageStart br = some c) : InTransmitStage br c := ⟨hen, 60, c, h, .refl c⟩

instance (br : Bridge) (p : PortRef) : Decidable (BuildsBpdu br p) :=
  inferInstanceAs (Decidable (p ∈ br.ports ∧ (ptsmNext br p).any PtsmState.transmits = true ∧
    txSuppressed br p = false))

/-- The port says hello two seconds after its last pass. -/
def helloActs : List Act := [.ptsm 1 .transmitPeriodic, .ptsm 1 .idle]

theorem hello_roles_final : ∃ br c, AtPass false br ∧ InTransmitStage br c ∧ BuildsBpdu c 1 ∧
    RolesFinal c 1 := by
  have hrun : (sampleRun heldPortOps).any (fun br => br.bridgeEnabled &&
      (brStateMachinesPass 60 br).any fun b =>
        b.bridgeEnabled && (Act.tick.run b).bridgeEnabled &&
          (Act.tick.run (Act.tick.run b)).bridgeEnabled &&
          (transmitStageStart (Act.tick.run (Act.tick.run b))).any fun c =>
            (bridgeActs.attempt (fun a _ => a.phase = .ptsm) helloActs c).any fun d =>
              decide (BuildsBpdu d 1)) = true := by
    decide +kernel
  obtain ⟨br, hbr, hrun⟩ := (Option.any_eq_true _ _).mp hrun
  obtain ⟨hen, hrun⟩ := Bool.and_eq_true_iff.mp hrun
  obtain ⟨b, hb, hrun⟩ := (Option.any_eq_true _ _).mp hrun
  simp only [Bool.and_eq_true] at hrun
  obtain ⟨⟨⟨henb, hen₁⟩, hen₂⟩, hrun⟩ := hrun
  obtain ⟨c, hc, hrun⟩ := (Option.any_eq_true _ _).mp hrun
  obtain ⟨d, hd, hsend⟩ := (Option.any_eq_true _ _).mp hrun
  obtain ⟨hfires, rfl⟩ := Labelled.attempt_fires hd
  obtain ⟨early, hat⟩ := (sampleRun_reachable (A := anyOp) (fun _ _ => trivial) hbr).atPass
  have hfirst : AtPass false (Act.tick.run b) := (hat.pass hen hb).act .tick (Or.inl rfl) henb
  have hsecond : AtPass false (Act.tick.run (Act.tick.run b)) :=
    hfirst.act .tick (Or.inl rfl) hen₁
  have hstage : InTransmitStage (Act.tick.run (Act.tick.run b)) (bridgeActs.after helloActs c) :=
    ⟨hen₂, 60, c, hc, helloActs, hfires, rfl⟩
  have hbuilds := of_decide_eq_true hsend
  exact ⟨_, _, hsecond, hstage, hbuilds, transmitted_roles_final hsecond hstage hbuilds⟩

/-- A second port is created. -/
def secondPort : Act := .createPort 2 2 "sw1p2" 1000 1

/-- The port is the root port until it may not be one any more. -/
def restrictedOps : List Op :=
  [.createPort 1 1 "sw1p1" 1000 1, .setCistBridgeConfig { protocolVersion := some 3 },
    .setBridgeEnable true, .setPortEnable 1 true 1000 1, .rxBpdu 1 regionBpdu 102,
    .setCistPortConfig 1 { bpduFilterPort := some true }, .oneSecond, .oneSecond,
    .setCistPortConfig 1 { restrictedRole := some true },
    .setCistPortConfig 1 { bpduFilterPort := some false }]

/-- A better root behind the sample bridge's own port, with a message about tree 5. -/
def ownPortBpdu : Mem := fun o =>
  if o ∈ [5, 17, 93] then 0x80
  else if o ∈ [7, 19, 95] then 2
  else if o ∈ [12, 24, 100] then 1
  else
    match o with
    | 25 => 0x80
    | 26 => 1
    | 37 => 80
    | 102 => 0x0C
    | 103 => 0x80
    | 104 => 5
    | 105 => 2
    | 110 => 1
    | 114 => 100
    | 115 => 0x80
    | 116 => 0x80
    | 117 => 20
    | _ => regionBpdu o

/-- Each run of the machines takes more than a second. -/
def lateEnv : Env := { sampleEnv with late := fun _ => true }

def lateTreeRun : Option Bridge :=
  (sampleRun [.createPort 1 1 "sw1p1" 1000 1, .setCistBridgeConfig { protocolVersion := some 3 },
    .setBridgeEnable true, .setPortEnable 1 true 1000 1]).bind
  (execAll lateEnv [.createMsti 5, .rxBpdu 1 ownPortBpdu 118, .setMstiBridgeConfig 5 9])

/-- The transmit stage in the first pass after the creation of the second port. -/
theorem firstPass_reached (run : Option Bridge) {P : Bridge → Bool}
    (hreach : ∀ br, run = some br → Reachable anyOp br)
    (h : run.any (fun br => decide (secondPort.Guard br) && (secondPort.run br).bridgeEnabled &&
      (transmitStageStart (secondPort.run br)).any fun c =>
        decide (BuildsBpdu c 1) && P c) = true) :
    ∃ br c, Reachable anyOp br ∧ secondPort.Guard br ∧ InTransmitStage (secondPort.run br) c ∧
      BuildsBpdu c 1 ∧ P c = true := by
  obtain ⟨br, hbr, hrun⟩ := (Option.any_eq_true _ _).mp h
  simp only [Bool.and_eq_true] at hrun
  obtain ⟨⟨hg, hen⟩, hrun⟩ := hrun
  obtain ⟨c, hc, hprop⟩ := (Option.any_eq_true _ _).mp hrun
  obtain ⟨hsend, hP⟩ := Bool.and_eq_true_iff.mp hprop
  exact ⟨br, c, hreach br hbr, of_decide_eq_true hg, transmitStageStart_reached hen hc,
    of_decide_eq_true hsend, hP⟩

/-- The creation of a port selects roles, and the pass after it sends before the role transitions
have followed: a port sends a role that is not selected, or an MSTI without a role. -/
theorem createdPort_transmits_stale :
    (∃ br c, Reachable anyOp br ∧ secondPort.Guard br ∧ InTransmitStage (secondPort.run br) c ∧
      BuildsBpdu c 1 ∧ 0 ∈ c.trees ∧ (c.ptp 1 0).role ≠ (c.ptp 1 0).selectedRole) ∧
    ∃ br c, Reachable anyOp br ∧ secondPort.Guard br ∧ InTransmitStage (secondPort.run br) c ∧
      BuildsBpdu c 1 ∧ 5 ∈ c.trees ∧ (c.ptp 1 5).role = .disabled := by
  constructor
  · obtain ⟨br, c, hr, hg, hstage, hsend, hrole⟩ := firstPass_reached (sampleRun restrictedOps)
      (P := fun c => c.trees.contains 0 && (c.ptp 1 0).role != (c.ptp 1 0).selectedRole)
      (fun _ h => sampleRun_reachable (fun _ _ => trivial) h) (by decide +kernel)
    obtain ⟨ht, hne⟩ := Bool.and_eq_true_iff.mp hrole
    exact ⟨br, c, hr, hg, hstage, hsend, List.contains_iff_mem.mp ht, bne_iff_ne.mp hne⟩
  · obtain ⟨br, c, hr, hg, hstage, hsend, hrole⟩ := firstPass_reached lateTreeRun
      (P := fun c => c.trees.contains 5 && (c.ptp 1 5).role == .disabled)
      (fun _ h => by
        obtain ⟨b, hb, hlast⟩ := Option.bind_eq_some_iff.mp h
        exact execAll_reachable (fun _ _ => trivial)
          (sampleRun_reachable (fun _ _ => trivial) hb) hlast) (by decide +kernel)
    obtain ⟨ht, hnone⟩ := Bool.and_eq_true_iff.mp hrole
    exact ⟨br, c, hr, hg, hstage, hsend, List.contains_iff_mem.mp ht, beq_iff_eq.mp hnone⟩

end Mstpd
