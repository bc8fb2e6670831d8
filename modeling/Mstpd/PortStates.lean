import Mstpd.Pass
import Mstpd.OpFrames

/-!
# Port states

Role transitions decide whether a port may learn and forward, port state transitions
follow them, and the kernel follows those. The invariant ties the fields of the three
together, in every state between transitions and, for the kernel, at every port of an
enabled bridge whose BEGIN is over.
-/

namespace Mstpd

open Bridge Machine

/-- The roles in which a port neither learns nor forwards. -/
def Role.blocks : Role → Bool
  | .disabled => true
  | .alternate => true
  | .backup => true
  | _ => false

/-- The roles a port can have in a state of the role transition machine. -/
def PrtsmState.permits : PrtsmState → Role → Bool
  | .initPort, r => r == .disabled
  | .disablePort, r => r == .disabled
  | .disabledPort, r => r == .disabled
  | .masterProposed, r => r == .master
  | .masterAgreed, r => r == .master
  | .masterSynced, r => r == .master
  | .masterRetired, r => r == .master
  | .masterForward, r => r == .master
  | .masterLearn, r => r == .master
  | .masterDiscard, r => r == .master
  | .masterPort, r => r == .master
  | .rootProposed, r => r == .root
  | .rootAgreed, r => r == .root
  | .rootSynced, r => r == .root
  | .reroot, r => r == .root
  | .rootForward, r => r == .root
  | .rootLearn, r => r == .root
  | .rerooted, r => r == .root
  | .rootPort, r => r == .root
  | .designatedPropose, r => r == .designated
  | .designatedAgreed, r => r == .designated
  | .designatedSynced, r => r == .designated
  | .designatedRetired, r => r == .designated
  | .designatedForward, r => r == .designated
  | .designatedLearn, r => r == .designated
  | .designatedDiscard, r => r == .designated
  | .designatedPort, r => r == .designated
  | .blockPort, r => r == .alternate || r == .backup
  | .backupPort, r => r == .alternate || r == .backup
  | .alternateProposed, r => r == .alternate || r == .backup
  | .alternateAgreed, r => r == .alternate || r == .backup
  | .alternatePort, r => r == .alternate || r == .backup

/-- The kernel state that an entry function of the port state machine asks for. -/
def PstsmState.kernel : PstsmState → BrState
  | .discarding => .blocking
  | .learning => .learning
  | .forwarding => .forwarding

/-- The state last passed to `MSTP_OUT_set_state` for a per-tree port. -/
def lastPushed (br : Bridge) (p : PortRef) (t : Mstid) : Option BrState :=
  br.out.findSome? fun
    | .setState q s state => if q = p ∧ s = t then some state else none
    | _ => none

/-- What the role transition machine keeps true of a per-tree port. -/
structure RoleSafe (x : PerTreePort) : Prop where
  state : x.prtsmState.permits x.role = true
  learns : x.forward = true → x.learn = true
  blocks : x.role.blocks = true → x.learn = false ∧ x.forward = false

/-- What the port state machine keeps true of a per-tree port. -/
structure StateSafe (x : PerTreePort) : Prop where
  learning : x.learning = (x.pstsmState != .discarding)
  forwarding : x.forwarding = (x.pstsmState == .forwarding)

theorem RoleSafe.congr {x y : PerTreePort} (h : RoleSafe x)
    (hxy : (y.role, y.learn, y.forward, y.prtsmState) =
      (x.role, x.learn, x.forward, x.prtsmState)) :
    RoleSafe y := by
  simp only [Prod.mk.injEq] at hxy
  obtain ⟨hr, hl, hf, hs⟩ := hxy
  exact ⟨by rw [hs, hr]; exact h.state, by rw [hl, hf]; exact h.learns,
    by rw [hr, hl, hf]; exact h.blocks⟩

theorem StateSafe.congr {x y : PerTreePort} (h : StateSafe x) (hp : y.pstsmState = x.pstsmState)
    (hl : y.learning = x.learning) (hf : y.forwarding = x.forwarding) : StateSafe y :=
  ⟨by rw [hl, hp]; exact h.learning, by rw [hf, hp]; exact h.forwarding⟩

/-- The invariant; a port in `E` awaits its BEGIN. -/
structure PortStates (E : PortRef → Mstid → Prop) (br : Bridge) : Prop where
  role : ∀ q s, RoleSafe (br.ptp q s)
  state : ∀ q s, StateSafe (br.ptp q s)
  pushed : ∀ q s, (br.ptp q s).state = .disabled ∨ lastPushed br q s = some (br.ptp q s).state
  kernel : br.bridgeEnabled = true → ∀ q ∈ br.ports, ∀ s ∈ br.trees, ¬ E q s →
    (br.port q).deleted = false → (br.ptp q s).state = (br.ptp q s).pstsmState.kernel

/-- The fields of the port state machine. -/
def pstsmFields (x : PerTreePort) : BrState × PstsmState × Bool × Bool :=
  (x.state, x.pstsmState, x.learning, x.forwarding)

/-- Everything but the fields of the invariant. -/
def elsewhere : Owned where
  config b := { ports := b.ports, trees := b.trees, bridgeEnabled := b.bridgeEnabled }
  ptp x :=
    { role := x.role, learn := x.learn, forward := x.forward, prtsmState := x.prtsmState
      pstsmState := x.pstsmState, learning := x.learning, forwarding := x.forwarding
      state := x.state }
  port x := { deleted := x.deleted }
  tree _ := {}
  out c := !c.isSetState

instance : elsewhere.KeepsEnabled := ⟨fun _ => rfl⟩

instance : elsewhere.KeepsLists := ⟨fun _ => rfl, fun _ => rfl⟩

instance : assuranceOwned.Within elsewhere :=
  ⟨fun _ => rfl, fun _ => rfl, fun _ => rfl, fun _ => rfl, fun _ h => absurd h Bool.false_ne_true⟩

instance : tickOwned.Within elsewhere :=
  ⟨fun _ => rfl, fun _ => rfl, fun _ => rfl, fun _ => rfl, fun c h => by
    cases c <;> first | rfl | exact absurd h Bool.false_ne_true⟩

instance : tcsmOwned.Within elsewhere :=
  ⟨fun _ => rfl, fun _ => rfl, fun _ => rfl, fun _ => rfl, fun c h => by
    cases c <;> first | rfl | exact absurd h Bool.false_ne_true⟩

instance : rxOwned.Within elsewhere :=
  ⟨fun _ => rfl, fun _ => rfl, fun _ => rfl, fun _ => rfl, fun c h => by
    cases c <;> first | rfl | exact absurd h Bool.false_ne_true⟩

instance : refusedOwned.Within elsewhere :=
  ⟨fun _ => rfl, fun _ => rfl, fun _ => rfl, fun _ => rfl, fun c h => by
    cases c <;> first | rfl | exact absurd h Bool.false_ne_true⟩

instance : ptsmOwned.Within elsewhere :=
  ⟨fun _ => rfl, fun _ => rfl, fun _ => rfl, fun _ => rfl, fun c h => by
    cases c <;> first | rfl | exact absurd h Bool.false_ne_true⟩

instance : prssmOwned.Within elsewhere :=
  ⟨fun _ => rfl, fun _ => rfl, fun _ => rfl, fun _ => rfl, fun _ h => absurd h Bool.false_ne_true⟩

instance : prsmOwned.Within elsewhere :=
  ⟨fun _ => rfl, fun _ => rfl, fun _ => rfl, fun _ => rfl, fun _ h => absurd h Bool.false_ne_true⟩

instance : discardOwned.Within elsewhere :=
  ⟨fun _ => rfl, fun _ => rfl, fun _ => rfl, fun _ => rfl, fun _ h => absurd h Bool.false_ne_true⟩

instance : ppmsmOwned.Within elsewhere :=
  ⟨fun _ => rfl, fun _ => rfl, fun _ => rfl, fun _ => rfl, fun _ h => absurd h Bool.false_ne_true⟩

instance : pismOwned.Within elsewhere :=
  ⟨fun _ => rfl, fun _ => rfl, fun _ => rfl, fun _ => rfl, fun _ h => absurd h Bool.false_ne_true⟩

instance : pismBeginOwned.Within elsewhere :=
  ⟨fun _ => rfl, fun _ => rfl, fun _ => rfl, fun _ => rfl, fun _ h => absurd h Bool.false_ne_true⟩

instance : managementOwned.Within elsewhere :=
  ⟨fun _ => rfl, fun _ => rfl, fun _ => rfl, fun _ => rfl, fun _ h => absurd h Bool.false_ne_true⟩

instance : linkOwned.Within elsewhere :=
  ⟨fun _ => rfl, fun _ => rfl, fun _ => rfl, fun _ => rfl, fun _ h => absurd h Bool.false_ne_true⟩

instance : initTreeOwned.Within elsewhere :=
  ⟨fun _ => rfl, fun _ => rfl, fun _ => rfl, fun _ => rfl, fun _ h => absurd h Bool.false_ne_true⟩

instance : bdsmOwned.Within elsewhere :=
  ⟨fun _ => rfl, fun _ => rfl, fun _ => rfl, fun _ => rfl, fun _ h => absurd h Bool.false_ne_true⟩

theorem findSome?_filter {α β : Type} (f : α → Option β) (P : α → Bool)
    (hP : ∀ a, P a = false → f a = none) (l : List α) :
    (l.filter P).findSome? f = l.findSome? f := by
  induction l with
  | nil => rfl
  | cons a l ih =>
    cases ha : P a with
    | true => simp [ha, List.findSome?_cons, ih]
    | false => simp [ha, ih, hP a ha]

theorem lastPushed_frame {br br' : Bridge} (h : Frame elsewhere br br') (p : PortRef) (t : Mstid) :
    lastPushed br' p t = lastPushed br p t := by
  have hfilter : ∀ b : Bridge, lastPushed b p t =
      (b.out.filter fun c => !elsewhere.out c).findSome? fun
        | .setState q s state => if q = p ∧ s = t then some state else none
        | _ => none := by
    intro b
    rw [findSome?_filter]
    · rfl
    · intro c hc
      cases c <;> first | rfl | simp [elsewhere, MstpOut.isSetState] at hc
  rw [hfilter br', hfilter br, h.out]

theorem PortStates.frame {E : PortRef → Mstid → Prop} {br br' : Bridge} (hi : PortStates E br)
    (h : Frame elsewhere br br') : PortStates E br' := by
  have hstate := h.ptp_eq pstsmFields fun _ => rfl
  simp only [pstsmFields, Prod.mk.injEq] at hstate
  refine ⟨fun q s => ?_, fun q s => ?_, fun q s => ?_, ?_⟩
  · refine (hi.role q s).congr ?_
    exact h.ptp_eq (fun x => (x.role, x.learn, x.forward, x.prtsmState)) (fun _ => rfl) q s
  · obtain ⟨-, hp, hl, hf⟩ := hstate q s
    exact (hi.state q s).congr hp hl hf
  · rw [lastPushed_frame h, (hstate q s).1]
    exact hi.pushed q s
  · intro hen q hq s hs hE hdel
    have hports : br'.ports = br.ports := h.ports_eq
    have htrees : br'.trees = br.trees := h.trees_eq
    have hdel' := h.port_eq Port.deleted (fun _ => rfl) q
    rw [(hstate q s).1, (hstate q s).2.1]
    exact hi.kernel (h.enabled_eq ▸ hen) q (hports ▸ hq) s (htrees ▸ hs) hE (hdel' ▸ hdel)

/-! ## Role transitions -/

/-- The states whose entry function sets `forward`. -/
def PrtsmState.forwards : PrtsmState → Bool
  | .masterForward => true
  | .rootForward => true
  | .designatedForward => true
  | _ => false

/-- A transition inside the states of a role; it forwards only after learning. -/
structure Within (x : PerTreePort) (r : Role) (s : PrtsmState) : Prop where
  permits : s.permits r = true
  learns : s.forwards = true → x.learn = true
  same : s ≠ .blockPort

theorem Within.quiet {x : PerTreePort} {r : Role} {s : PrtsmState} (hp : s.permits r = true)
    (hf : s.forwards = false) (hs : s ≠ .blockPort) : Within x r s :=
  ⟨hp, fun h => absurd h (by simp [hf]), hs⟩

theorem prtsmNextMaster_within {br : Bridge} {p : PortRef} {t : Mstid} {s : PrtsmState}
    (h : prtsmNextMaster br p t = some s) : Within (br.ptp p t) .master s := by
  rw [prtsmNextMaster] at h
  split_ifs at h with _ _ _ _ _ hforward
  all_goals obtain rfl := Option.some.inj h
  all_goals first
    | exact Within.quiet rfl rfl (by decide)
    | refine ⟨rfl, fun _ => ?_, by decide⟩
  simp only [Bool.and_eq_true] at hforward
  exact hforward.1.2

theorem prtsmNextRoot_within {v : PrtsmVars} {br : Bridge} {p : PortRef} {t : Mstid}
    {s : PrtsmState} (h : prtsmNextRoot v br p t = some s) : Within (br.ptp p t) .root s := by
  rw [prtsmNextRoot] at h
  split_ifs at h with _ _ _ _ _ hlearn hforward
  all_goals obtain rfl := Option.some.inj h
  all_goals first
    | exact Within.quiet rfl rfl (by decide)
    | refine ⟨rfl, fun _ => ?_, by decide⟩
  simp only [Bool.and_eq_true] at hlearn hforward
  by_contra hno
  exact hlearn ⟨hforward.1, by simpa using hno⟩

theorem prtsmNextDesignated_within {br : Bridge} {p : PortRef} {t : Mstid} {s : PrtsmState}
    (h : prtsmNextDesignated br p t = some s) : Within (br.ptp p t) .designated s := by
  rw [prtsmNextDesignated] at h
  split_ifs at h with _ _ _ _ _ hlearn hforward
  all_goals obtain rfl := Option.some.inj h
  all_goals first
    | exact Within.quiet rfl rfl (by decide)
    | refine ⟨rfl, fun _ => ?_, by decide⟩
  simp only [Bool.and_eq_true] at hlearn hforward
  by_contra hno
  exact hlearn ⟨hforward.1, by simpa using hno⟩

theorem prtsmNextAlternate_within {v : PrtsmVars} {br : Bridge} {p : PortRef} {t : Mstid}
    {r : Role} {s : PrtsmState} (hr : PrtsmState.alternatePort.permits r = true)
    (h : prtsmNextAlternate v br p t = some s) : Within (br.ptp p t) r s := by
  rw [prtsmNextAlternate] at h
  split_ifs at h
  all_goals obtain rfl := Option.some.inj h
  all_goals exact Within.quiet hr rfl (by decide)

/-- Every transition either follows the selected role or stays within the role. -/
theorem prtsmNext_within {v : PrtsmVars} {br : Bridge} {p : PortRef} {t : Mstid} {s : PrtsmState}
    (hsafe : (br.ptp p t).prtsmState.permits (br.ptp p t).role = true)
    (h : prtsmNext v br p t = some s) :
    s = roleState (br.ptp p t).selectedRole ∨ Within (br.ptp p t) (br.ptp p t).role s := by
  rw [prtsmNext] at h
  split at h
  · exact Or.inl (Option.some.inj h).symm
  · refine Or.inr ?_
    split at h <;> rename_i hstate <;> rw [hstate] at hsafe
    case h_11 =>
      rw [eq_of_beq hsafe]
      exact prtsmNextMaster_within h
    case h_19 =>
      rw [eq_of_beq hsafe]
      exact prtsmNextRoot_within h
    case h_27 =>
      rw [eq_of_beq hsafe]
      exact prtsmNextDesignated_within h
    case h_32 => exact prtsmNextAlternate_within hsafe h
    all_goals try split at h
    all_goals cases h
    all_goals exact Within.quiet hsafe rfl (by decide)

theorem prtsmEnter_within {v : PrtsmVars} {send : Bool} {s : PrtsmState} {x : PerTreePort}
    (hx : RoleSafe x) (h : Within x x.role s) : RoleSafe (prtsmEnter v send s x) := by
  have hpermits := h.permits
  obtain ⟨hstate, hlearns, hblocks⟩ := hx
  cases s <;> simp only [PrtsmState.permits, beq_iff_eq] at hpermits
  case blockPort => exact absurd rfl h.same
  all_goals simp only [hpermits, Role.blocks] at hblocks
  all_goals refine ⟨?_, ?_, ?_⟩
  all_goals simp_all [prtsmEnter, PrtsmState.permits, Role.blocks]
  all_goals exact h.learns rfl

theorem prtsmEnter_roleState {v : PrtsmVars} {send : Bool} {x : PerTreePort} (hx : RoleSafe x) :
    RoleSafe (prtsmEnter v send (roleState x.selectedRole) x) := by
  have hlearns := hx.learns
  cases hrole : x.selectedRole
  all_goals refine ⟨?_, ?_, ?_⟩
  all_goals simp_all [prtsmEnter, roleState, PrtsmState.permits, Role.blocks]

theorem PortStates.setPtp {E : PortRef → Mstid → Prop} {br : Bridge} {p : PortRef} {t : Mstid}
    {f : PerTreePort → PerTreePort} (hi : PortStates E br) (hrole : RoleSafe (f (br.ptp p t)))
    (hf : ∀ x, pstsmFields (f x) = pstsmFields x) : PortStates E (br.setPtp p t f) := by
  have hfields : ∀ q s, pstsmFields ((br.setPtp p t f).ptp q s) = pstsmFields (br.ptp q s) := by
    intro q s
    simp only [Bridge.setPtp]
    split
    · exact hf _
    · rfl
  simp only [pstsmFields, Prod.mk.injEq] at hfields
  refine ⟨fun q s => ?_, fun q s => ?_, fun q s => ?_, ?_⟩
  · by_cases h : q = p ∧ s = t
    · obtain ⟨rfl, rfl⟩ := h
      simpa [Bridge.setPtp] using hrole
    · simpa [Bridge.setPtp, h] using hi.role q s
  · obtain ⟨-, hp, hl, hf⟩ := hfields q s
    exact (hi.state q s).congr hp hl hf
  · rw [(hfields q s).1]
    exact hi.pushed q s
  · intro hen q hq s hs hE hdel
    rw [(hfields q s).1, (hfields q s).2.1]
    exact hi.kernel hen q hq s hs hE hdel

theorem PortStates.prtsmTo {E : PortRef → Mstid → Prop} {br : Bridge} {v : PrtsmVars} {p : PortRef}
    {t : Mstid} {s : PrtsmState} (hi : PortStates E br) (h : prtsmNext v br p t = some s) :
    PortStates E (prtsmTo v p t s br) := by
  rw [Mstpd.prtsmTo]
  generalize hb : (prtsmTree t s br).setPort p _ = b
  have hframe : Frame { prtsmOwned with ptp := fun x => { x with sync := false, reRoot := false } }
      br b := by
    subst hb
    refine Frame.after (Frame.setPort fun _ => rfl) ?_
    unfold prtsmTree
    split
    all_goals first
      | exact Frame.setTreePtps fun _ _ => rfl
      | exact Frame.refl _ _
  have : Owned.Within
      { prtsmOwned with ptp := fun x => { x with sync := false, reRoot := false } } elsewhere :=
    ⟨fun _ => rfl, fun _ => rfl, fun _ => rfl, fun _ => rfl,
      fun _ h => absurd h Bool.false_ne_true⟩
  have hib : PortStates E b := hi.frame hframe.mono
  have heq := hframe.ptp_eq (fun x => (x.role, x.learn, x.selectedRole)) (fun _ => rfl) p t
  simp only [Prod.mk.injEq] at heq
  obtain ⟨hrole, hlearn, hselected⟩ := heq
  refine hib.setPtp ?_ fun x => by cases s <;> rfl
  rcases prtsmNext_within (hi.role p t).state h with hfollow | hwithin
  · rw [hfollow, ← hselected]
    exact prtsmEnter_roleState (hib.role p t)
  · refine prtsmEnter_within (hib.role p t) ⟨?_, ?_, hwithin.same⟩
    · rw [hrole]
      exact hwithin.permits
    · rw [hlearn]
      exact hwithin.learns

/-! ## Port state transitions -/

theorem lastPushed_setState (p q : PortRef) (t s : Mstid) (k : BrState) (br : Bridge) :
    lastPushed (mstpOutSetState p t k br) q s =
      if p = q ∧ t = s then some k else lastPushed br q s := by
  simp only [lastPushed, mstpOutSetState, emit, List.findSome?_cons]
  by_cases h : p = q ∧ t = s
  · simp [h]
  · simp [h, Bridge.setPort, Bridge.setPtp]

theorem mstpOutSetState_state (p q : PortRef) (t s : Mstid) (k : BrState) (br : Bridge) :
    ((mstpOutSetState p t k br).ptp q s).state =
      if p = q ∧ t = s then k else (br.ptp q s).state := by
  by_cases h : p = q ∧ t = s
  · obtain ⟨rfl, rfl⟩ := h
    simp [mstpOutSetState, emit, Bridge.setPort, Bridge.setPtp]
  · have h' : ¬ (q = p ∧ s = t) := fun hh => h ⟨hh.1.symm, hh.2.symm⟩
    simp [mstpOutSetState, emit, Bridge.setPort, Bridge.setPtp, h, h']

theorem pstsmPush_keeps (p q : PortRef) (t s : Mstid) (k : BrState) (br : Bridge) :
    ((pstsmPush p t k br).ptp q s).pstsmState = (br.ptp q s).pstsmState ∧
    ((pstsmPush p t k br).ptp q s).learning = (br.ptp q s).learning ∧
    ((pstsmPush p t k br).ptp q s).forwarding = (br.ptp q s).forwarding := by
  rw [pstsmPush]
  split
  · simp only [mstpOutSetState, emit, Bridge.setPort, Bridge.setPtp]
    split <;> exact ⟨rfl, rfl, rfl⟩
  · exact ⟨rfl, rfl, rfl⟩

/-- The kernel follows at a port that is not deleted. -/
theorem pstsmPush_state {p : PortRef} {t : Mstid} {k : BrState} {br : Bridge}
    (hdel : (br.port p).deleted = false) : ((pstsmPush p t k br).ptp p t).state = k := by
  rw [pstsmPush]
  split
  · simp [mstpOutSetState_state]
  · rename_i h
    simpa [hdel] using h

theorem pstsmPush_other {p q : PortRef} {t s : Mstid} {k : BrState} {br : Bridge}
    (h : ¬ (q = p ∧ s = t)) : ((pstsmPush p t k br).ptp q s).state = (br.ptp q s).state := by
  have h' : ¬ (p = q ∧ t = s) := fun hh => h ⟨hh.1.symm, hh.2.symm⟩
  rw [pstsmPush]
  split
  · simp [mstpOutSetState_state, h']
  · rfl

theorem pstsmPush_pushed {p : PortRef} {t : Mstid} {k : BrState} {br : Bridge}
    (hi : ∀ q s, (br.ptp q s).state = .disabled ∨ lastPushed br q s = some (br.ptp q s).state)
    (q : PortRef) (s : Mstid) : ((pstsmPush p t k br).ptp q s).state = .disabled ∨
      lastPushed (pstsmPush p t k br) q s = some ((pstsmPush p t k br).ptp q s).state := by
  rw [pstsmPush]
  split
  · rw [lastPushed_setState, mstpOutSetState_state]
    split
    · exact Or.inr rfl
    · exact hi q s
  · exact hi q s

/-- The assignments of an entry function to its own per-tree port. -/
def pstsmEnter (s : PstsmState) (x : PerTreePort) : PerTreePort :=
  match s with
  | .discarding => { x with pstsmState := .discarding, learning := false, forwarding := false }
  | .learning => { x with pstsmState := .learning, learning := true }
  | .forwarding => { x with pstsmState := .forwarding, forwarding := true }

theorem pstsmTo_eq (p : PortRef) (t : Mstid) (s : PstsmState) (br : Bridge) :
    pstsmTo p t s br = (pstsmPush p t s.kernel br).setPtp p t (pstsmEnter s) := by
  cases s <;> rfl

theorem pstsmEnter_state (s : PstsmState) (x : PerTreePort) :
    (pstsmEnter s x).state = x.state ∧ (pstsmEnter s x).pstsmState = s := by
  cases s <;> exact ⟨rfl, rfl⟩

/-- Entering a state pushes it to the kernel, also in BEGIN. -/
theorem PortStates.pstsmTo {E : PortRef → Mstid → Prop} {br : Bridge} {p : PortRef} {t : Mstid}
    {s : PstsmState} (hi : PortStates E br) (hs : StateSafe (pstsmEnter s (br.ptp p t))) :
    PortStates (fun q s => E q s ∧ ¬ (q = p ∧ s = t)) (pstsmTo p t s br) := by
  have hframe := pstsmTo_frame p t s br
  have hstate : ∀ q u, ((Mstpd.pstsmTo p t s br).ptp q u).state =
      ((pstsmPush p t s.kernel br).ptp q u).state := by
    intro q u
    rw [pstsmTo_eq]
    simp only [Bridge.setPtp]
    split
    · exact (pstsmEnter_state s _).1
    · rfl
  have hother : ∀ q u, ¬ (q = p ∧ u = t) → (Mstpd.pstsmTo p t s br).ptp q u =
      (pstsmPush p t s.kernel br).ptp q u := by
    intro q u h
    rw [pstsmTo_eq]
    simp [Bridge.setPtp, h]
  refine ⟨fun q u => ?_, fun q u => ?_, fun q u => ?_, ?_⟩
  · refine (hi.role q u).congr ?_
    exact hframe.ptp_eq (fun x => (x.role, x.learn, x.forward, x.prtsmState)) (fun _ => rfl) q u
  · obtain ⟨hp, hl, hf⟩ := pstsmPush_keeps p q t u s.kernel br
    by_cases h : q = p ∧ u = t
    · obtain ⟨rfl, rfl⟩ := h
      rw [pstsmTo_eq]
      simp only [Bridge.setPtp, and_self, if_true]
      refine StateSafe.congr hs ?_ ?_ ?_
      all_goals cases s
      all_goals simp only [pstsmEnter, hl, hf]
    · rw [hother q u h]
      exact (hi.state q u).congr hp hl hf
  · rw [hstate]
    have hlast : lastPushed (Mstpd.pstsmTo p t s br) q u =
        lastPushed (pstsmPush p t s.kernel br) q u := by
      rw [pstsmTo_eq]
      rfl
    rw [hlast]
    exact pstsmPush_pushed hi.pushed q u
  · intro hen q hq u hu hE hdel
    have hen' : br.bridgeEnabled = true := hframe.enabled_eq ▸ hen
    have hq' : q ∈ br.ports := hframe.ports_eq ▸ hq
    have hu' : u ∈ br.trees := hframe.trees_eq ▸ hu
    have hdel' : (br.port q).deleted = false :=
      hframe.port_eq Port.deleted (fun _ => rfl) q ▸ hdel
    by_cases h : q = p ∧ u = t
    · obtain ⟨rfl, rfl⟩ := h
      rw [hstate, pstsmPush_state hdel', pstsmTo_eq]
      simp only [Bridge.setPtp, and_self, if_true, (pstsmEnter_state s _).2]
    · rw [hother q u h, pstsmPush_other h, (pstsmPush_keeps p q t u s.kernel br).1]
      exact hi.kernel hen' q hq' u hu' (fun hEq => hE ⟨hEq, h⟩) hdel'

theorem PortStates.weaken {E E' : PortRef → Mstid → Prop} {br : Bridge} (hi : PortStates E br)
    (h : ∀ q ∈ br.ports, ∀ s ∈ br.trees, E q s → E' q s) : PortStates E' br where
  role := hi.role
  state := hi.state
  pushed := hi.pushed
  kernel hen q hq s hs hE := hi.kernel hen q hq s hs fun hEq => hE (h q hq s hs hEq)

theorem pstsmNext_safe {br : Bridge} {p : PortRef} {t : Mstid} {s : PstsmState}
    (hx : StateSafe (br.ptp p t)) (h : pstsmNext br p t = some s) :
    StateSafe (pstsmEnter s (br.ptp p t)) := by
  obtain ⟨hl, hf⟩ := hx
  rw [pstsmNext] at h
  split at h <;> rename_i hstate <;> rw [hstate] at hl hf
  all_goals split_ifs at h
  all_goals obtain rfl := Option.some.inj h
  all_goals exact ⟨by simp [pstsmEnter, hl] <;> rfl, by simp [pstsmEnter, hf]⟩

theorem portStates_step (E : PortRef → Mstid → Prop) : StepInv (PortStates E) where
  assurance _ p hi _ := hi.frame (assuranceRun_frame p _).mono
  prsm _ p s hi _ _ := hi.frame (prsmTo_frame p s _).mono
  ppmsm _ p s hi _ _ := hi.frame (ppmsmTo_frame p s _).mono
  bdsm _ p s hi _ _ := hi.frame (bdsmTo_frame p s _).mono
  ptsm _ p s hi _ _ := hi.frame (ptsmTo_frame p s _).mono
  pism _ p t s hi _ _ _ := hi.frame (pismTo_frame p t s _).mono
  prssm _ t hi _ _ := hi.frame (prssmToRoleSelection_frame t _).mono
  prtsm _ _ _ _ hi _ _ h := hi.prtsmTo h
  pstsm _ p t _ hi _ _ h :=
    (hi.pstsmTo (pstsmNext_safe (hi.state p t) h)).weaken fun _ _ _ _ hE => hE.1
  tcsm _ p t s hi _ _ _ := hi.frame (tcsmTo_frame p t s _).mono

/-! ## BEGIN -/

theorem PortStates.prtsmToInitPort {E : PortRef → Mstid → Prop} {br : Bridge} (hi : PortStates E br)
    (p : PortRef) (t : Mstid) : PortStates E (prtsmToInitPort p t br) := by
  rw [Mstpd.prtsmToInitPort]
  refine hi.setPtp ⟨rfl, ?_, ?_⟩ fun _ => rfl
  · intro h
    cases h
  · exact fun _ => ⟨rfl, rfl⟩

theorem PortStates.allDiscarding {E : PortRef → Mstid → Prop} {br : Bridge} (hi : PortStates E br)
    (refs : List (PortRef × Mstid)) :
    PortStates (fun q s => E q s ∧ (q, s) ∉ refs)
      (forAll (fun o => Mstpd.pstsmTo o.1 o.2 .discarding) refs br) := by
  induction refs generalizing E br with
  | nil => exact hi.weaken fun _ _ _ _ hE => ⟨hE, List.not_mem_nil⟩
  | cons o refs ih =>
    refine (ih (hi.pstsmTo ⟨rfl, rfl⟩)).weaken fun q _ s _ hE => ⟨hE.1.1, ?_⟩
    rw [List.mem_cons, not_or]
    refine ⟨fun heq => hE.1.2 ?_, hE.2⟩
    exact ⟨congrArg Prod.fst heq, congrArg Prod.snd heq⟩

/-- After the per-tree machines of BEGIN nothing is left to be settled. -/
theorem PortStates.ptpMachinesBegin {br : Bridge} {refs : List (PortRef × Mstid)}
    (hi : PortStates (fun q s => (q, s) ∈ refs) br) :
    PortStates settled (ptpMachinesBegin refs br) := by
  have h₁ : PortStates (fun q s => (q, s) ∈ refs)
      (forAll (fun o => Mstpd.prtsmToInitPort o.1 o.2) refs br) :=
    forAll_inv (fun o _ b hb => hb.prtsmToInitPort o.1 o.2) hi
  have h₂ := (h₁.allDiscarding refs).frame
    (Frame.forAll (fun o b => tcsmToInactive_frame o.1 o.2 b) refs _).mono
  exact h₂.weaken fun q _ s _ hE => hE.2 hE.1

/-- The machines of BEGIN that come before. -/
theorem PortStates.portMachinesBegin {E : PortRef → Mstid → Prop} {br : Bridge}
    (hi : PortStates E br) (ports : List PortRef) : PortStates E (portMachinesBegin ports br) := by
  rw [Mstpd.portMachinesBegin]
  refine forAll_inv (fun p _ b hb => hb.frame (ptsmToTransmitInit_frame p b).mono) ?_
  refine forAll_inv (fun p _ b hb => hb.frame (bdsmTo_frame p _ b).mono) ?_
  refine forAll_inv (fun p _ b hb => hb.frame (ppmsmToCheckingRstp_frame p b).mono) ?_
  exact forAll_inv (fun p _ b hb => hb.frame (prsmToDiscard_frame p b).mono) hi

theorem PortStates.pismBegins {E : PortRef → Mstid → Prop} {br : Bridge} (hi : PortStates E br)
    (refs : List (PortRef × Mstid)) : PortStates E (forAll (fun o => pismBegin o.1 o.2) refs br) :=
  forAll_inv (fun o _ b hb => hb.frame (pismBegin_frame o.1 o.2 b).mono) hi

/-- A disabled bridge has nothing to settle. -/
theorem PortStates.disabled {E E' : PortRef → Mstid → Prop} {br : Bridge} (hi : PortStates E br)
    (hen : ¬ br.bridgeEnabled = true) : PortStates E' br :=
  ⟨hi.role, hi.state, hi.pushed, fun h => absurd h hen⟩

theorem PortStates.treeBegin {late : Nat → Bool} {fuel : Nat} {t : Mstid} {br br' : Bridge}
    (hi : PortStates (fun _ s => s = t) br)
    (h : treeStateMachinesBegin late fuel t br = some br') : PortStates settled br' := by
  rw [treeStateMachinesBegin] at h
  split at h
  · have hrefs : PortStates (fun q s => (q, s) ∈ br.ports.map fun p => (p, t)) br := by
      refine hi.weaken fun q hq s _ hs => ?_
      rw [hs]
      exact List.mem_map_of_mem hq
    have hbegin := hrefs.pismBegins (br.ports.map fun p => (p, t))
    have hinit := hbegin.frame (prssmToInitTree_frame t _).mono
    exact (portStates_step settled).brRun hinit.ptpMachinesBegin h
  · rename_i hen
    exact Option.some.inj h ▸ hi.disabled hen

theorem PortStates.prtBegin {late : Nat → Bool} {fuel : Nat} {p : PortRef} {br br' : Bridge}
    (hi : PortStates (fun q _ => q = p) br)
    (h : prtStateMachinesBegin late fuel p br = some br') : PortStates settled br' := by
  rw [prtStateMachinesBegin] at h
  split at h
  · have hrefs : PortStates (fun q s => (q, s) ∈ br.trees.map fun t => (p, t)) br := by
      refine hi.weaken fun q _ s hs hq => ?_
      rw [hq]
      exact List.mem_map_of_mem hs
    have hbegin := (hrefs.portMachinesBegin [p]).pismBegins (br.trees.map fun t => (p, t))
    have hselect := hbegin.frame (Frame.forAll prssmRun_frame br.trees _).mono
    exact (portStates_step settled).brRun hselect.ptpMachinesBegin h
  · rename_i hen
    exact Option.some.inj h ▸ hi.disabled hen

theorem PortStates.brBegin {E : PortRef → Mstid → Prop} {late : Nat → Bool} {fuel : Nat}
    {br br' : Bridge} (hi : PortStates E br) (h : brStateMachinesBegin late fuel br = some br') :
    PortStates settled br' := by
  rw [brStateMachinesBegin] at h
  split at h
  · have hrefs : PortStates (fun q s => (q, s) ∈ br.ptpRefs) br :=
      hi.weaken fun q hq s hs _ => mem_ptpRefs.mpr ⟨hq, hs⟩
    have hbegin := (hrefs.portMachinesBegin br.ports).pismBegins br.ptpRefs
    have hinit := hbegin.frame (Frame.forAll prssmToInitTree_frame br.trees _).mono
    exact (portStates_step settled).brRun hinit.ptpMachinesBegin h
  · rename_i hen
    exact Option.some.inj h ▸ hi.disabled hen

/-! ## Operations -/

theorem PortStates.ending {env : Env} {b br' : Bridge} (hi : PortStates settled b)
    (h : Ending env b br') : PortStates settled br' := by
  cases h with
  | stay h => exact h ▸ hi
  | run h => exact (portStates_step settled).brRun hi h
  | restart h => exact hi.brBegin h

theorem roleSafe_default (x : PerTreePort)
    (h : (x.role, x.learn, x.forward, x.prtsmState) = (.disabled, false, false, .initPort)) :
    RoleSafe x := by
  simp only [Prod.mk.injEq] at h
  obtain ⟨hr, hl, hf, hs⟩ := h
  exact ⟨by rw [hr, hs]; rfl, by simp [hf], fun _ => ⟨hl, hf⟩⟩

theorem createPtp_roleSafe (tree : Tree) (prt : Port) : RoleSafe (createPtp tree prt) :=
  roleSafe_default _ rfl

theorem createPtp_stateSafe (tree : Tree) (prt : Port) : StateSafe (createPtp tree prt) :=
  ⟨rfl, rfl⟩

/-- Shorter lists and more deleted ports leave less to settle. -/
theorem PortStates.shrink {E : PortRef → Mstid → Prop} {br br' : Bridge} (hi : PortStates E br)
    (hptp : br'.ptp = br.ptp) (hout : br'.out = br.out)
    (hen : br'.bridgeEnabled = br.bridgeEnabled) (hports : ∀ q ∈ br'.ports, q ∈ br.ports)
    (htrees : ∀ s ∈ br'.trees, s ∈ br.trees)
    (hdel : ∀ q, (br'.port q).deleted = false → (br.port q).deleted = false) :
    PortStates E br' where
  role := hptp ▸ hi.role
  state := hptp ▸ hi.state
  pushed q s := by
    have hlast : lastPushed br' q s = lastPushed br q s := by rw [lastPushed, hout, lastPushed]
    rw [hptp, hlast]
    exact hi.pushed q s
  kernel he q hq s hs hE hd := by
    rw [hptp]
    exact hi.kernel (hen ▸ he) q (hports q hq) s (htrees s hs) hE (hdel q hd)

theorem PortStates.addPort {E : PortRef → Mstid → Prop} {br : Bridge} (hi : PortStates E br)
    (p : PortRef) (portno : UInt16) (name : String) (speed duplex : Int) :
    PortStates (fun q s => q = p ∨ E q s) (addPort p portno name speed duplex br) := by
  refine ⟨fun q s => ?_, fun q s => ?_, fun q s => ?_, ?_⟩
  · simp only [Mstpd.addPort, setPortPtps, Bridge.setPort]
    split
    · exact createPtp_roleSafe _ _
    · exact hi.role q s
  · simp only [Mstpd.addPort, setPortPtps, Bridge.setPort]
    split
    · exact createPtp_stateSafe _ _
    · exact hi.state q s
  · simp only [Mstpd.addPort, setPortPtps, Bridge.setPort]
    split
    · exact Or.inl rfl
    · exact hi.pushed q s
  · intro hen q hq s hs hE hdel
    have hne : q ≠ p := fun h => hE (Or.inl h)
    have hq' : q ∈ br.ports := by
      rcases List.mem_append.mp hq with hmem | hnew
      · exact hmem
      · exact absurd (List.mem_singleton.mp hnew) hne
    simp only [Mstpd.addPort, setPortPtps, Bridge.setPort, hne, false_and, if_false] at hdel ⊢
    exact hi.kernel hen q hq' s hs (fun h => hE (Or.inr h)) hdel

theorem PortStates.addTree {E : PortRef → Mstid → Prop} {br : Bridge} (hi : PortStates E br)
    {mstid : UInt16} {trees : List Mstid} (htrees : ∀ s ∈ trees, s = mstid ∨ s ∈ br.trees) :
    PortStates (fun q s => s = mstid ∨ E q s) (addTree mstid trees br) := by
  refine ⟨fun q s => ?_, fun q s => ?_, fun q s => ?_, ?_⟩
  · simp only [Mstpd.addTree, setTreePtps, Bridge.setTree]
    split
    · exact createPtp_roleSafe _ _
    · exact hi.role q s
  · simp only [Mstpd.addTree, setTreePtps, Bridge.setTree]
    split
    · exact createPtp_stateSafe _ _
    · exact hi.state q s
  · simp only [Mstpd.addTree, setTreePtps, Bridge.setTree]
    split
    · exact Or.inl rfl
    · exact hi.pushed q s
  · intro hen q hq s hs hE hdel
    have hne : s ≠ mstid := fun h => hE (Or.inl h)
    have hs' : s ∈ br.trees := (htrees s hs).resolve_left hne
    simp only [Mstpd.addTree, setTreePtps, Bridge.setTree, hne, false_and, if_false] at hdel ⊢
    exact hi.kernel hen q hq s hs' (fun h => hE (Or.inr h)) hdel

theorem PortStates.deletePort {env : Env} {p : PortRef} {br br' : Bridge}
    (hi : PortStates settled br) (h : mstpInDeletePort env p br = some br') :
    PortStates settled br' := by
  obtain ⟨b, hb, hrun⟩ := deletePort_cases h
  have hmark : PortStates settled (markDeleted p br) := by
    refine hi.shrink rfl rfl rfl (fun _ hq => hq) (fun _ hs => hs) fun q hdel => ?_
    simp only [markDeleted, Bridge.setPort] at hdel
    split at hdel
    · cases hdel
    · exact hdel
  have hib : PortStates settled b := by
    rcases hb with hb | ⟨-, rfl⟩
    · exact (portStates_step settled).brRun hmark hb
    · exact hmark
  refine (portStates_step settled).brRun ?_ hrun
  exact hib.shrink rfl rfl rfl (fun _ hq => List.mem_of_mem_erase hq) (fun _ hs => hs)
    fun _ hd => hd

theorem PortStates.allFidsFlushed {env : Env} {p : PortRef} {t : Mstid} {br br' : Bridge}
    (hi : PortStates settled br) (h : mstpInAllFidsFlushed env p t br = some br') :
    PortStates settled br' := by
  have hflush : PortStates settled (br.setPtp p t fun ptp => { ptp with fdbFlush := false }) :=
    hi.frame (Frame.setPtp fun _ => rfl)
  rw [mstpInAllFidsFlushed] at h
  split at h
  · obtain ⟨b, hb, hrun⟩ := Option.bind_eq_some_iff.mp h
    refine (portStates_step settled).brRun (run_inv ?_ hflush hb) hrun
    intro c c' more hc hstep
    obtain ⟨s, -, heq⟩ := Option.map_eq_some_iff.mp hstep
    exact (Prod.mk.inj heq).1 ▸ hc.frame (tcsmTo_frame p t s c).mono
  · exact Option.some.inj h ▸ hflush

/-- `MSTP_OUT_set_state` outside the port state machine, at a port that awaits its BEGIN. -/
theorem PortStates.setState {br : Bridge} (hi : PortStates (fun _ _ => True) br) (p : PortRef)
    (t : Mstid) (k : BrState) : PortStates (fun _ _ => True) (mstpOutSetState p t k br) := by
  have hptp : ∀ q s, (mstpOutSetState p t k br).ptp q s =
      { br.ptp q s with state := if p = q ∧ t = s then k else (br.ptp q s).state } := by
    intro q s
    by_cases h : p = q ∧ t = s
    · obtain ⟨rfl, rfl⟩ := h
      simp [mstpOutSetState, emit, Bridge.setPort, Bridge.setPtp]
    · have h' : ¬ (q = p ∧ s = t) := fun hh => h ⟨hh.1.symm, hh.2.symm⟩
      simp [mstpOutSetState, emit, Bridge.setPort, Bridge.setPtp, h, h']
  refine ⟨fun q s => ?_, fun q s => ?_, fun q s => ?_, fun _ q _ s _ hE => absurd trivial hE⟩
  · exact (hi.role q s).congr (by rw [hptp])
  · exact (hi.state q s).congr (by rw [hptp]) (by rw [hptp]) (by rw [hptp])
  · rw [lastPushed_setState, mstpOutSetState_state]
    split
    · exact Or.inr rfl
    · exact hi.pushed q s

/-- The reset loop leaves every port to be settled by the BEGIN that follows. -/
theorem PortStates.resetPort {br : Bridge} (hi : PortStates (fun _ _ => True) br) (p : PortRef) :
    PortStates (fun _ _ => True) (resetPort p br) := by
  have hdefaults : ∀ s b, PortStates (fun _ _ => True) b →
      PortStates (fun _ _ => True) (b.setPtp p s ptpDefaultInternalVars) := fun s b hb =>
    hb.frame (Frame.setPtp fun _ => rfl)
  rw [Mstpd.resetPort]
  refine forAll_inv (fun s _ b hb => hdefaults s _ ?_) ?_
  · split
    · exact hb.setState p s .disabled
    · exact hb
  · refine hi.frame (Frame.after (Frame.setPort fun _ => rfl) ?_)
    exact Frame.ite (Frame.emit rfl) (Frame.refl _ _)

theorem PortStates.resetBridge {E : PortRef → Mstid → Prop} {br : Bridge} (hi : PortStates E br)
    (up : Bool) :
    PortStates (fun _ _ => True) (resetBridge up br) := by
  have hup : PortStates (fun _ _ => True) { br with bridgeEnabled := up, uptime := 0 } :=
    ⟨hi.role, hi.state, hi.pushed, fun _ q _ s _ hE => absurd trivial hE⟩
  refine forAll_inv (fun p _ b hb => hb.resetPort p) ?_
  exact forAll_inv (fun s _ b hb => hb.frame (Frame.setTree fun _ => rfl)) hup

theorem PortStates.step {br br' : Bridge} (hi : PortStates settled br) (h : Step anyOp br br') :
    PortStates settled br' := by
  obtain ⟨env, op, ok, -, -, hexec⟩ := h
  have hrun : ∀ {b : Bridge}, PortStates settled b →
      brStateMachinesRun env.late env.fuel b = some br' → PortStates settled br' :=
    fun hb h => (portStates_step settled).brRun hb h
  cases op with
  | createPort p portno name speed duplex =>
    rcases createPort_cases hexec with rfl | hbegin
    · exact hi
    · refine PortStates.prtBegin ?_ hbegin
      exact (hi.addPort p portno name speed duplex).weaken fun _ _ _ _ hE => hE.resolve_right id
  | deletePort p => exact hi.deletePort (map_true hexec)
  | setBridgeEnable up =>
    rcases setBridgeEnable_cases (map_true hexec) with rfl | ⟨-, hbegin⟩
    · exact hi
    · exact (hi.resetBridge up).brBegin hbegin
  | setPortEnable p up speed duplex =>
    obtain ⟨b, hb, ⟨rfl, -⟩ | hend⟩ := setPortEnable_ending (map_true hexec)
    · exact hi.frame hb.mono
    · exact hrun (hi.frame hb.mono) hend
  | oneSecond =>
    obtain ⟨b, hb, ⟨rfl, -⟩ | hend⟩ := oneSecond_ending (map_true hexec)
    · exact hi.frame hb.mono
    · exact hrun (hi.frame hb.mono) hend
  | allFidsFlushed p t => exact hi.allFidsFlushed (map_true hexec)
  | rxBpdu p bpdu size =>
    rcases rxBpdu_ending (map_true hexec) with hb | ⟨b, version, mstis, hb, -, -, hend⟩
    · exact hi.frame hb.mono
    · exact hrun ((hi.frame hb.mono).frame (acceptBpdu_frame p bpdu version mstis b).mono) hend
  | createMsti mstid =>
    rcases createMsti_cases hexec with rfl | ⟨trees, -, -, htrees, hbegin⟩
    · exact hi
    · refine PortStates.treeBegin ?_ hbegin
      exact (hi.addTree fun s hs => (insertAfterLast_mem htrees s).mp hs).weaken
        fun _ _ _ _ hE => hE.resolve_right id
  | deleteMsti mstid =>
    rcases deleteMsti_cases hexec with rfl | ⟨-, hend⟩
    · exact hi
    · refine hrun ?_ hend
      exact hi.shrink rfl rfl rfl (fun _ hq => hq) (fun _ hs => List.mem_of_mem_erase hs)
        fun _ hd => hd
  | _ =>
    obtain ⟨b, hb, hend⟩ := exec_management rfl hexec
    exact (hi.frame hb.frame.mono).ending hend

theorem portStates_create (env : Env) (macaddr : BitVec 48) :
    PortStates settled (mstpInBridgeCreate env macaddr) :=
  ⟨fun _ _ => roleSafe_default _ rfl, fun _ _ => ⟨rfl, rfl⟩, fun _ _ => Or.inl rfl,
    fun h => by cases h⟩

theorem reachable_portStates {br : Bridge} (hr : Reachable anyOp br) : PortStates settled br :=
  hr.inv portStates_create fun _ _ hi h => hi.step h

/-- `learning` and `forwarding` in each state of the machine. -/
def PstsmState.flags : PstsmState → Bool × Bool
  | .discarding => (false, false)
  | .learning => (true, false)
  | .forwarding => (true, true)

theorem StateSafe.flags {x : PerTreePort} (h : StateSafe x) :
    (x.learning, x.forwarding) = x.pstsmState.flags := by
  rw [h.learning, h.forwarding]
  cases x.pstsmState <;> rfl

theorem PstsmState.flags_inj {a b : PstsmState} (h : a.flags = b.flags) : a = b := by
  cases a <;> cases b <;> first | rfl | cases h

theorem PstsmState.kernel_inj {a b : PstsmState} (h : a.kernel = b.kernel) : a = b := by
  cases a <;> cases b <;> first | rfl | cases h

/-- With nothing left to do the port state has caught up with the role transitions. -/
theorem pstsmNext_none {br : Bridge} {p : PortRef} {t : Mstid} (hrole : RoleSafe (br.ptp p t))
    (hstate : StateSafe (br.ptp p t)) (h : pstsmNext br p t = none) :
    (br.ptp p t).learning = (br.ptp p t).learn ∧
      (br.ptp p t).forwarding = (br.ptp p t).forward := by
  obtain ⟨hl, hf⟩ := hstate
  have hlearns := hrole.learns
  rw [pstsmNext] at h
  rw [hl, hf]
  cases hs : (br.ptp p t).pstsmState <;> simp only [hs] at h
  case discarding =>
    have hlearn : (br.ptp p t).learn = false := by simpa using h
    have hforward : (br.ptp p t).forward = false := by
      by_contra hne
      rw [hlearns (by simpa using hne)] at hlearn
      cases hlearn
    rw [hlearn, hforward]
    exact ⟨rfl, rfl⟩
  case learning =>
    have hboth : (br.ptp p t).learn = true ∧ (br.ptp p t).forward = false := by
      split_ifs at h with h₁ h₂
      exact ⟨by simpa using h₁, by simpa using h₂⟩
    rw [hboth.1, hboth.2]
    exact ⟨rfl, rfl⟩
  case forwarding =>
    have hforward : (br.ptp p t).forward = true := by simpa using h
    rw [hforward, hlearns hforward]
    exact ⟨rfl, rfl⟩

/-- The port state machine, its flags and the kernel agree; what the role transition
machine asks for is consistent with the role; and in a quiescent state the kernel has
been told so. -/
theorem reachable_port_state_safe {br : Bridge} (hr : Reachable anyOp br)
    (hen : br.bridgeEnabled = true) {p : PortRef} (hp : p ∈ br.ports)
    (hdel : (br.port p).deleted = false) {t : Mstid} (ht : t ∈ br.trees) :
    (∀ s : PstsmState,
      ((br.ptp p t).pstsmState = s ↔
        ((br.ptp p t).learning, (br.ptp p t).forwarding) = s.flags) ∧
      ((br.ptp p t).pstsmState = s ↔ lastPushed br p t = some s.kernel)) ∧
    ((br.ptp p t).forward = true → (br.ptp p t).learn = true) ∧
    ((br.ptp p t).role = .disabled ∨ (br.ptp p t).role = .alternate ∨
      (br.ptp p t).role = .backup → (br.ptp p t).learn = false ∧ (br.ptp p t).forward = false) ∧
    (brStateMachinesDry br = false →
      (br.ptp p t).learning = (br.ptp p t).learn ∧
      (br.ptp p t).forwarding = (br.ptp p t).forward ∧
      ((br.ptp p t).role = .disabled ∨ (br.ptp p t).role = .alternate ∨
        (br.ptp p t).role = .backup → lastPushed br p t = some .blocking)) := by
  have hi := reachable_portStates hr
  have hkernel := hi.kernel hen p hp t ht id hdel
  have hflags := (hi.state p t).flags
  have hpushed : lastPushed br p t = some (br.ptp p t).pstsmState.kernel := by
    rcases hi.pushed p t with hdisabled | hlast
    · rw [hkernel] at hdisabled
      cases hs : (br.ptp p t).pstsmState <;> rw [hs] at hdisabled <;> cases hdisabled
    · rw [hlast, hkernel]
  have hblocks : (br.ptp p t).role = .disabled ∨ (br.ptp p t).role = .alternate ∨
      (br.ptp p t).role = .backup → (br.ptp p t).learn = false ∧ (br.ptp p t).forward = false := by
    intro hrole
    refine (hi.role p t).blocks ?_
    rcases hrole with h | h | h <;> rw [h] <;> rfl
  refine ⟨fun s => ⟨⟨?_, ?_⟩, ⟨?_, ?_⟩⟩, (hi.role p t).learns, hblocks, fun hdry => ?_⟩
  · rintro rfl
    exact hflags
  · intro h
    exact PstsmState.flags_inj (hflags.symm.trans h)
  · rintro rfl
    exact hpushed
  · intro h
    exact PstsmState.kernel_inj (Option.some.inj (hpushed.symm.trans h))
  · have hquiet := pstsmNext_none (hi.role p t) (hi.state p t) ((quiet_of_dry hdry).pstsm p hp t ht)
    refine ⟨hquiet.1, hquiet.2, fun hrole => ?_⟩
    have hdiscarding : (br.ptp p t).pstsmState = .discarding := by
      refine PstsmState.flags_inj (hflags.symm.trans ?_)
      rw [hquiet.1, hquiet.2, (hblocks hrole).1, (hblocks hrole).2]
      rfl
    rw [hpushed, hdiscarding]
    rfl

/-- One port that comes up and is forwarding after three seconds. -/
def onePortOps : List Op :=
  [.createPort 1 1 "sw1p1" 1000 1, .setBridgeEnable true, .setPortEnable 1 true 1000 1,
    .oneSecond, .oneSecond, .oneSecond]

theorem onePort_state_safe : ∃ br, Reachable anyOp br ∧ br.bridgeEnabled = true ∧ 1 ∈ br.ports ∧
    (br.port 1).deleted = false ∧ 0 ∈ br.trees ∧ brStateMachinesDry br = false ∧
    (br.ptp 1 0).pstsmState = .forwarding ∧ lastPushed br 1 0 = some .forwarding := by
  have hrun : (sampleRun onePortOps).any (fun br => br.bridgeEnabled && br.ports.contains 1 &&
      !(br.port 1).deleted && br.trees.contains 0 && !brStateMachinesDry br &&
      (br.ptp 1 0).pstsmState == .forwarding) = true := by decide +kernel
  obtain ⟨br, hbr, hprop⟩ := (Option.any_eq_true _ _).mp hrun
  simp only [Bool.and_eq_true, Bool.not_eq_true', List.contains_iff_mem, beq_iff_eq] at hprop
  obtain ⟨⟨⟨⟨⟨hen, hp⟩, hdel⟩, ht⟩, hdry⟩, hstate⟩ := hprop
  have hr : Reachable anyOp br := sampleRun_reachable (fun _ _ => trivial) hbr
  have hsafe := reachable_port_state_safe hr hen hp hdel ht
  exact ⟨br, hr, hen, hp, hdel, ht, hdry, hstate, (hsafe.1 .forwarding).2.mp hstate⟩

end Mstpd
