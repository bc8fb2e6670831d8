import Mstpd.Propagation

/-!
# Where role transitions end

The machine is run depth first: while it moves, the port states, the timers and the other
ports stand still. In every role but one a measure of what is left to do decreases. A
Master port may learn and forward as soon as the other ports are synchronized, also while
it is asked to be discarding, and then nothing stops it.
-/

namespace Mstpd

open Bridge Machine

/-! ## One transition, seen at its own entry -/

/-- The selected role of the port is in effect. -/
def inEffect (x : PerTreePort) : Bool := x.selected && !x.updtInfo

/-- What the tree-wide procedure of an entry function does to the port itself. -/
def prtsmMark (s : PrtsmState) (x : PerTreePort) : PerTreePort :=
  match s with
  | .masterProposed => { x with sync := true }
  | .rootProposed => { x with sync := true }
  | .alternateProposed => { x with sync := true }
  | .reroot => { x with reRoot := true }
  | _ => x

section Entry

variable (v : PrtsmVars) {p : PortRef} (t : Mstid) (s : PrtsmState) (br : Bridge)

theorem prtsmTo_entry (hp : p ∈ br.ports) : (prtsmTo v p t s br).ptp p t =
    prtsmEnter v (br.port p).sendRSTP s (prtsmMark s (br.ptp p t)) := by
  have htree : (prtsmTree t s br).ptp p t = prtsmMark s (br.ptp p t) := by
    cases s <;> simp [prtsmTree, prtsmMark, setSyncTree, setReRootTree, setTreePtps, hp]
  rw [prtsmTo, setPtp_self, ← htree]
  rfl

/-- The fields of other ports that `allSynced` reads. -/
def syncView (x : PerTreePort) : Bool × Bool × Role × Role × Bool :=
  (x.selected, x.updtInfo, x.role, x.selectedRole, x.synced)

theorem prtsmTo_syncView {q : PortRef} (hq : q ≠ p) :
    syncView ((prtsmTo v p t s br).ptp q t) = syncView (br.ptp q t) := by
  rw [prtsmTo]
  simp only [Bridge.setPtp, hq, false_and, if_false, Bridge.setPort]
  cases s
  case masterProposed | rootProposed | alternateProposed | reroot =>
    simp only [prtsmTree, setSyncTree, setReRootTree, setTreePtps]
    split <;> rfl
  all_goals rfl

theorem prtsmTo_port (p q : PortRef) : (((prtsmTo v p t s br).port q).operEdge,
    ((prtsmTo v p t s br).port q).sendRSTP, ((prtsmTo v p t s br).port q).baInconsistent) =
    ((br.port q).operEdge, (br.port q).sendRSTP, (br.port q).baInconsistent) :=
  (prtsmTo_frame v p t s br).port_eq (fun x => (x.operEdge, x.sendRSTP, x.baInconsistent))
    (fun _ => rfl) q

end Entry

/-- All other ports of the tree are synchronized in the roles selected for them. -/
def othersSynced (br : Bridge) (p : PortRef) (t : Mstid) : Bool :=
  br.ports.all fun q =>
    let x := br.ptp q t
    q == p || (inEffect x && x.role == x.selectedRole && x.synced)

theorem othersSynced_prtsmTo (v : PrtsmVars) (p : PortRef) (t : Mstid) (s : PrtsmState)
    (br : Bridge) : othersSynced (prtsmTo v p t s br) p t = othersSynced br p t := by
  have hports : (prtsmTo v p t s br).ports = br.ports := (prtsmTo_frame v p t s br).ports_eq
  rw [othersSynced, othersSynced, hports]
  congr 1
  funext q
  by_cases hq : q = p
  · simp [hq]
  · have hview := prtsmTo_syncView v t s br hq
    simp only [syncView, Prod.mk.injEq] at hview
    simp only [inEffect, hview]

theorem allSynced_master {br : Bridge} {p : PortRef} {t : Mstid}
    (hrole : (br.ptp p t).role = .master) (hsel : (br.ptp p t).selectedRole = .master)
    (heff : inEffect (br.ptp p t) = true) : allSynced br p t = othersSynced br p t := by
  rw [allSynced, othersSynced]
  congr 1
  funext q
  simp only [inEffect, Bool.and_eq_true, Bool.not_eq_true'] at heff
  by_cases hq : q = p
  · subst hq
    simp [hrole, hsel, heff]
  · have hne : (q == p) = false := by simp [hq]
    simp only [hrole, hne, Bool.false_or, inEffect]
    cases (br.ptp q t).selected <;> cases (br.ptp q t).updtInfo <;> simp

/-! ## What is left to do in a role -/

/-- What `sync` still costs: a port is synchronized, and once more if asked to be. -/
def syncLeft (x : PerTreePort) : Nat := if x.synced then x.sync.toNat else 2

/-- The transitions of a Root port that are still to come. -/
def rootLeft (v : PrtsmVars) (x : PerTreePort) : Nat :=
  2 * x.proposed.toNat + (!x.agree).toNat + (!x.learn).toNat +
    (if x.forward then x.reRoot.toNat else 2 + (!x.reRoot).toNat) + syncLeft x +
    (x.rrWhile != v.fwdDelay).toNat

/-- May a Designated port learn and forward, timers and agreements apart? -/
def designatedOpen (baInconsistent : Bool) (x : PerTreePort) : Bool :=
  (x.rrWhile == 0 || !x.reRoot) && !x.sync && !baInconsistent

/-- The transitions of a Designated port. A port that may not forward is made discarding
once; after that it learns and forwards, with one more turn if it is disputed. -/
def designatedLeft (baInconsistent : Bool) (x : PerTreePort) : Nat :=
  x.reRoot.toNat + syncLeft x + x.proposed.toNat + (!x.agree).toNat + (!x.proposing).toNat +
    if designatedOpen baInconsistent x then
      3 * x.disputed.toNat + (!x.learn).toNat + (!x.forward).toNat
    else 6 + (x.learn || x.forward).toNat

/-- The transitions of an Alternate or Backup port. -/
def alternateLeft (v : PrtsmVars) (x : PerTreePort) : Nat :=
  2 * x.proposed.toNat + (!x.agree).toNat +
    (x.rbWhile != 2 * v.helloTime && x.role == .backup).toNat +
    (x.fdWhile != v.forwardDelay || x.sync || x.reRoot || !x.synced).toNat

section Lowers

variable {v : PrtsmVars} {br : Bridge} {p : PortRef} {t : Mstid} {s : PrtsmState}

theorem prtsmNextRoot_lowers (send : Bool) (h : prtsmNextRoot v br p t = some s) :
    rootLeft v (prtsmEnter v send s (prtsmMark s (br.ptp p t))) < rootLeft v (br.ptp p t) := by
  rw [prtsmNextRoot] at h
  generalize br.ptp p t = x at h ⊢
  split_ifs at h with _ h1 h2 h3 h4 h5 h6 h7 h8
  all_goals obtain rfl := Option.some.inj h
  all_goals simp only [rootLeft, syncLeft, prtsmEnter, prtsmMark]
  all_goals grind

theorem prtsmNextDesignated_lowers (send : Bool) (h : prtsmNextDesignated br p t = some s) :
    designatedLeft (br.port p).baInconsistent (prtsmEnter v send s (prtsmMark s (br.ptp p t))) <
      designatedLeft (br.port p).baInconsistent (br.ptp p t) := by
  rw [prtsmNextDesignated] at h
  generalize br.ptp p t = x at h ⊢
  have hdisputed := Bool.toNat_le x.disputed
  have hlearn := Bool.toNat_le (!x.learn)
  have hforward := Bool.toNat_le (!x.forward)
  split_ifs at h with _ h1 h2 h3 h4 h5 h6 h7
  all_goals obtain rfl := Option.some.inj h
  all_goals simp only [designatedLeft, designatedOpen, syncLeft, prtsmEnter, prtsmMark]
  all_goals grind

theorem prtsmNextAlternate_lowers (send : Bool) (h : prtsmNextAlternate v br p t = some s) :
    alternateLeft v (prtsmEnter v send s (prtsmMark s (br.ptp p t))) <
      alternateLeft v (br.ptp p t) := by
  rw [prtsmNextAlternate] at h
  generalize br.ptp p t = x at h ⊢
  split_ifs at h with _ h1 h2 h3 h4
  all_goals obtain rfl := Option.some.inj h
  all_goals simp only [alternateLeft, prtsmEnter, prtsmMark]
  all_goals grind

end Lowers

/-! ## Master ports -/

/-- The Master port is synchronized before anything else happens to it. -/
def masterSyncs (operEdge : Bool) (x : PerTreePort) : Bool :=
  (!x.learning && !x.forwarding && !x.synced) || (x.agreed && !x.synced) ||
    (operEdge && !x.synced) || (x.sync && x.synced)

/-- The Master port is asked to be discarding. -/
def masterHeld (x : PerTreePort) : Bool := (x.sync && !x.synced) || (x.reRoot && x.rrWhile != 0)

/-- A Master port stays asked to be discarding whatever it does: it is synchronized and its
recent root timer is running, or it is not and will never be, without an agreement of its
own making. -/
def staysHeld (others send : Bool) (x : PerTreePort) : Bool :=
  if x.synced then x.reRoot && x.rrWhile != 0 && (others || !x.proposed || x.agree)
  else
    !send && (x.reRoot && x.rrWhile != 0 ||
      if others then x.sync && x.agree && !x.proposed
      else if x.proposed then !x.agree else x.sync)

/-- The Master port learns, forwards and is made discarding again without end. -/
def masterCycles (v : PrtsmVars) (others operEdge send : Bool) (x : PerTreePort) : Bool :=
  !operEdge && !masterSyncs operEdge x && staysHeld others send x &&
    (others || v.forwardDelay == 0 && (x.learn || x.forward || x.fdWhile == 0))

/-- The assignments of a Master port besides learning and forwarding. -/
def masterTasks (x : PerTreePort) : Nat :=
  2 * x.proposed.toNat + (!x.agree).toNat + syncLeft x + x.reRoot.toNat

/-- The turns between discarding and forwarding that a Master port takes on its own. -/
def masterTurns (v : PrtsmVars) (others operEdge : Bool) (x : PerTreePort) : Nat :=
  if operEdge || !masterHeld x then
    3 * (x.disputed && !operEdge).toNat + (!x.learn).toNat + (!x.forward).toNat
  else if !others && v.forwardDelay != 0 then
    4 * (x.fdWhile == 0).toNat + 2 * (x.learn || x.forward).toNat + (!x.forward).toNat
  else if x.agreed then 0
  else if x.forward then if x.learn then 3 else 4
  else if x.learn then if others || x.fdWhile == 0 then 1 else 3
  else 2

def masterLeft (v : PrtsmVars) (others operEdge : Bool) (x : PerTreePort) : Nat :=
  8 * masterTasks x + masterTurns v others operEdge x

section Master

variable {v : PrtsmVars} {br : Bridge} {p : PortRef} {t : Mstid} {s : PrtsmState}

theorem masterTurns_le (v : PrtsmVars) (others operEdge : Bool) (x : PerTreePort) :
    masterTurns v others operEdge x ≤ 7 := by
  have hdisputed := Bool.toNat_le (x.disputed && !operEdge)
  have hlearn := Bool.toNat_le (!x.learn)
  have hforward := Bool.toNat_le (!x.forward)
  have hzero := Bool.toNat_le (x.fdWhile == 0)
  have heither := Bool.toNat_le (x.learn || x.forward)
  rw [masterTurns]
  split_ifs <;> omega

theorem masterLeft_of_tasks {others operEdge : Bool} {x y : PerTreePort}
    (h : masterTasks y < masterTasks x) :
    masterLeft v others operEdge y < masterLeft v others operEdge x := by
  have hle := masterTurns_le v others operEdge y
  rw [masterLeft, masterLeft]
  omega

theorem prtsmNextMaster_lowers {others send : Bool} (hothers : allSynced br p t = others)
    (hno : masterCycles v others (br.port p).operEdge send (br.ptp p t) = false)
    (h : prtsmNextMaster br p t = some s) :
    masterLeft v others (br.port p).operEdge (prtsmEnter v send s (prtsmMark s (br.ptp p t))) <
      masterLeft v others (br.port p).operEdge (br.ptp p t) := by
  rw [prtsmNextMaster] at h
  generalize br.ptp p t = x at h hno ⊢
  generalize (br.port p).operEdge = operEdge at h hno ⊢
  rw [hothers] at h
  split_ifs at h with _ h1 h2 h3 h4 h5 h6 h7
  all_goals obtain rfl := Option.some.inj h
  all_goals first
    | refine masterLeft_of_tasks ?_
      simp only [masterTasks, syncLeft, prtsmEnter, prtsmMark]
      grind
    | simp only [masterLeft, masterTasks, masterTurns, masterHeld, syncLeft, prtsmEnter, prtsmMark]
      simp only [masterCycles, masterSyncs, staysHeld] at hno
      grind

/-- A transition of a Master port neither starts nor ends its cycle. -/
theorem prtsmNextMaster_cycles {others send : Bool} (hothers : allSynced br p t = others)
    (h : prtsmNextMaster br p t = some s) :
    masterCycles v others (br.port p).operEdge send
      (prtsmEnter v send s (prtsmMark s (br.ptp p t))) =
      masterCycles v others (br.port p).operEdge send (br.ptp p t) := by
  rw [prtsmNextMaster] at h
  generalize br.ptp p t = x at h ⊢
  generalize (br.port p).operEdge = operEdge at h ⊢
  rw [hothers] at h
  split_ifs at h with _ h1 h2 h3 h4 h5 h6 h7
  all_goals obtain rfl := Option.some.inj h
  all_goals simp only [masterCycles, masterSyncs, staysHeld, prtsmEnter, prtsmMark]
  all_goals grind

/-- A Master port in its cycle always has a transition. -/
theorem prtsmNextMaster_of_cycles {others send : Bool} (hothers : allSynced br p t = others)
    (heff : inEffect (br.ptp p t) = true)
    (hcycle : masterCycles v others (br.port p).operEdge send (br.ptp p t) = true) :
    ∃ s, prtsmNextMaster br p t = some s := by
  rw [prtsmNextMaster]
  rw [inEffect] at heff
  simp only [masterCycles, masterSyncs, staysHeld] at hcycle
  generalize br.ptp p t = x at heff hcycle ⊢
  generalize (br.port p).operEdge = operEdge at hcycle ⊢
  rw [hothers]
  split_ifs
  all_goals first
    | exact ⟨_, rfl⟩
    | grind

end Master

/-! ## All roles -/

/-- The transitions that a state leads to by itself. -/
def PrtsmState.pending : PrtsmState → Nat
  | .initPort => 3
  | .disablePort => 2
  | .masterPort => 0
  | .rootPort => 0
  | .designatedPort => 0
  | .alternatePort => 0
  | _ => 1

/-- A Disabled port has yet to take over the values of its state. -/
def disabledLeft (v : PrtsmVars) (x : PerTreePort) : Nat :=
  (x.sync || x.reRoot || !x.synced || x.fdWhile != v.maxAge).toNat

/-- What the machine reads outside the entry of the port and does not change. -/
structure PrtsmSurroundings where
  vars : PrtsmVars
  others : Bool
  operEdge : Bool
  sendRSTP : Bool
  baInconsistent : Bool

def prtsmSurroundings (v : PrtsmVars) (br : Bridge) (p : PortRef) (t : Mstid) :
    PrtsmSurroundings where
  vars := v
  others := othersSynced br p t
  operEdge := (br.port p).operEdge
  sendRSTP := (br.port p).sendRSTP
  baInconsistent := (br.port p).baInconsistent

theorem prtsmSurroundings_prtsmTo (v : PrtsmVars) (p : PortRef) (t : Mstid) (s : PrtsmState)
    (br : Bridge) :
    prtsmSurroundings v (prtsmTo v p t s br) p t = prtsmSurroundings v br p t := by
  have hport := prtsmTo_port v t s br p p
  simp only [Prod.mk.injEq] at hport
  simp only [prtsmSurroundings, othersSynced_prtsmTo, hport]

/-- The transitions still to come in the role of the port. -/
def roleLeft (c : PrtsmSurroundings) (x : PerTreePort) : Nat :=
  match x.role with
  | .disabled => disabledLeft c.vars x
  | .root => rootLeft c.vars x
  | .designated => designatedLeft c.baInconsistent x
  | .master => masterLeft c.vars c.others c.operEdge x
  | .alternate => alternateLeft c.vars x
  | .backup => alternateLeft c.vars x

/-- The transitions still to come at a port. -/
def prtsmLeft (c : PrtsmSurroundings) (x : PerTreePort) : Nat :=
  if !inEffect x then x.prtsmState.pending
  else if x.role != x.selectedRole then 200
  else 2 * roleLeft c x + x.prtsmState.pending

/-- The port is in effect a Master port, or is about to be one, in its cycle. -/
def cycling (c : PrtsmSurroundings) (x : PerTreePort) : Bool :=
  inEffect x && x.selectedRole == .master &&
    masterCycles c.vars c.others c.operEdge c.sendRSTP x

theorem syncLeft_le (x : PerTreePort) : syncLeft x ≤ 2 := by
  have hsync := Bool.toNat_le x.sync
  rw [syncLeft]
  split <;> omega

theorem roleLeft_le (c : PrtsmSurroundings) (x : PerTreePort) : roleLeft c x ≤ 60 := by
  have hsync := syncLeft_le x
  have hturns := masterTurns_le c.vars c.others c.operEdge x
  rw [roleLeft]
  cases x.role
  · grind [disabledLeft, Bool.toNat_le]
  · grind [rootLeft, Bool.toNat_le]
  · grind [designatedLeft, Bool.toNat_le]
  · grind [alternateLeft, Bool.toNat_le]
  · grind [alternateLeft, Bool.toNat_le]
  · grind [masterLeft, masterTasks, Bool.toNat_le]

section Step

variable {c : PrtsmSurroundings} {v : PrtsmVars} {br : Bridge} {p : PortRef} {t : Mstid}
  {s : PrtsmState}

theorem prtsmEnter_effect (v : PrtsmVars) (send : Bool) (s : PrtsmState) (x : PerTreePort) :
    inEffect (prtsmEnter v send s (prtsmMark s x)) = inEffect x ∧
      (prtsmEnter v send s (prtsmMark s x)).selectedRole = x.selectedRole ∧
      (prtsmEnter v send s (prtsmMark s x)).prtsmState = s := by
  cases s <;> exact ⟨rfl, rfl, rfl⟩

theorem prtsmEnter_roleState_role (v : PrtsmVars) (send : Bool) (x : PerTreePort) :
    let s := roleState x.selectedRole
    (prtsmEnter v send s (prtsmMark s x)).role = x.selectedRole := by
  cases h : x.selectedRole <;> simp [roleState, prtsmEnter, prtsmMark, h]

theorem prtsmEnter_within_role {x : PerTreePort} (send : Bool) (h : Within x x.role s) :
    (prtsmEnter v send s (prtsmMark s x)).role = x.role := by
  have hpermits := h.permits
  cases s
  case blockPort => exact absurd rfl h.same
  all_goals simp only [PrtsmState.permits, beq_iff_eq] at hpermits
  all_goals first
    | rfl
    | exact hpermits.symm

/-- The state in which a port waits for something to do in its role. -/
def restState : Role → PrtsmState
  | .disabled => .disabledPort
  | .root => .rootPort
  | .designated => .designatedPort
  | .alternate => .alternatePort
  | .backup => .alternatePort
  | .master => .masterPort

/-- Going back to rest adds nothing to do. -/
theorem roleLeft_rest (c : PrtsmSurroundings) (x : PerTreePort) :
    roleLeft c (prtsmEnter c.vars c.sendRSTP (restState x.role) x) ≤ roleLeft c x := by
  cases h : x.role with
  | disabled => simp [restState, prtsmEnter, roleLeft, h, disabledLeft]
  | root =>
    simp only [restState, prtsmEnter, roleLeft, h, rootLeft, syncLeft, bne_self_eq_false]
    exact Nat.le_add_right _ _
  | designated =>
    simp only [restState, prtsmEnter, roleLeft, h, designatedLeft, designatedOpen, syncLeft]
    exact le_rfl
  | alternate => simp [restState, prtsmEnter, roleLeft, h, alternateLeft]
  | backup => simp [restState, prtsmEnter, roleLeft, h, alternateLeft]
  | master =>
    simp only [restState, prtsmEnter, roleLeft, h, masterLeft, masterTasks, masterTurns,
      masterHeld, syncLeft]
    exact le_rfl

/-- A transition inside a role either does something that was left to do, or goes back to
rest. -/
theorem prtsmNext_role (hfit : RoleSafe (br.ptp p t)) (heff : inEffect (br.ptp p t) = true)
    (hrole : (br.ptp p t).role = (br.ptp p t).selectedRole) (h : prtsmNext v br p t = some s) :
    (br.ptp p t).prtsmState.pending = 0 ∧ (br.ptp p t).prtsmState = restState (br.ptp p t).role ∧
        (br.ptp p t).role ≠ .disabled ∨
      s = restState (br.ptp p t).role ∧ 0 < (br.ptp p t).prtsmState.pending ∧
        ((br.ptp p t).prtsmState = .disabledPort → 0 < disabledLeft v (br.ptp p t)) ∨
      s = .disablePort ∧ (br.ptp p t).prtsmState = .initPort := by
  have hpermits := hfit.state
  rw [inEffect] at heff
  rw [prtsmNext, if_neg (by simp [hrole])] at h
  cases hstate : (br.ptp p t).prtsmState
  all_goals
    simp only [hstate, PrtsmState.permits, beq_iff_eq, Bool.or_eq_true] at h hpermits
  case disabledPort =>
    split at h
    · rename_i hunsettled
      simp only [heff, Bool.true_and] at hunsettled
      refine Or.inr (Or.inl ⟨?_, by decide, fun _ => ?_⟩)
      · rw [hpermits, ← Option.some.inj h, restState]
      · rw [disabledLeft, hunsettled]
        decide
    · cases h
  case disablePort =>
    split at h
    · exact Or.inr (Or.inl ⟨by rw [hpermits, ← Option.some.inj h, restState], by decide,
        fun h => by cases h⟩)
    · cases h
  case initPort => exact Or.inr (Or.inr ⟨(Option.some.inj h).symm, rfl⟩)
  case blockPort =>
    split at h
    · refine Or.inr (Or.inl ⟨?_, by decide, fun h => by cases h⟩)
      rcases hpermits with hr | hr <;> rw [hr, ← Option.some.inj h, restState]
    · cases h
  case masterPort | rootPort | designatedPort =>
    exact Or.inl ⟨rfl, by rw [hpermits]; rfl, by simp [hpermits]⟩
  case alternatePort =>
    refine Or.inl ⟨rfl, ?_, ?_⟩
    · rcases hpermits with hr | hr <;> rw [hr] <;> rfl
    · rcases hpermits with hr | hr <;> simp [hr]
  case backupPort | alternateProposed | alternateAgreed =>
    refine Or.inr (Or.inl ⟨?_, by decide, fun h => by cases h⟩)
    rcases hpermits with hr | hr <;> rw [hr, ← Option.some.inj h, restState]
  all_goals
    refine Or.inr (Or.inl ⟨?_, by decide, fun h => by cases h⟩)
    rw [hpermits, ← Option.some.inj h, restState]

/-- A port at rest in its role does something that was left to do. -/
theorem roleLeft_lowers (hfit : RoleSafe (br.ptp p t)) (heff : inEffect (br.ptp p t) = true)
    (hrole : (br.ptp p t).role = (br.ptp p t).selectedRole)
    (hrest : (br.ptp p t).prtsmState = restState (br.ptp p t).role)
    (hno : cycling (prtsmSurroundings v br p t) (br.ptp p t) = false)
    (hne : (br.ptp p t).role ≠ .disabled) (h : prtsmNext v br p t = some s) :
    roleLeft (prtsmSurroundings v br p t) (prtsmEnter v (br.port p).sendRSTP s
      (prtsmMark s (br.ptp p t))) < roleLeft (prtsmSurroundings v br p t) (br.ptp p t) := by
  have hwithin := prtsmNext_within hfit.state h
  have hkeeps : (prtsmEnter v (br.port p).sendRSTP s (prtsmMark s (br.ptp p t))).role =
      (br.ptp p t).role := by
    rcases hwithin with hs | hs
    · rw [hs, hrole]
      exact prtsmEnter_roleState_role v _ _
    · exact prtsmEnter_within_role _ hs
  rw [prtsmNext, if_neg (by simp [hrole]), hrest] at h
  rw [roleLeft, roleLeft, hkeeps]
  cases hr : (br.ptp p t).role with
  | disabled => exact absurd hr hne
  | root =>
    rw [hr] at h
    exact prtsmNextRoot_lowers _ h
  | designated =>
    rw [hr] at h
    exact prtsmNextDesignated_lowers _ h
  | alternate =>
    rw [hr] at h
    exact prtsmNextAlternate_lowers _ h
  | backup =>
    rw [hr] at h
    exact prtsmNextAlternate_lowers _ h
  | master =>
    rw [hr] at h
    have hsel : (br.ptp p t).selectedRole = .master := hrole ▸ hr
    refine prtsmNextMaster_lowers (allSynced_master hr hsel heff) ?_ h
    simp only [cycling, heff, hsel, beq_self_eq_true, Bool.and_self, Bool.true_and] at hno
    exact hno

theorem Within.pending_le {x : PerTreePort} {r : Role} (h : Within x r s) (hne : r ≠ .disabled) :
    s.pending ≤ 1 := by
  have hpermits := h.permits
  cases s
  case initPort | disablePort => exact absurd (eq_of_beq hpermits) hne
  all_goals decide

/-- A role that is not in effect leaves only the transitions on the way to rest. -/
theorem pending_lowers (hidle : inEffect (br.ptp p t) = false) (h : prtsmNext v br p t = some s) :
    s.pending < (br.ptp p t).prtsmState.pending := by
  have hsettled : ((br.ptp p t).selected && !(br.ptp p t).updtInfo) = false := hidle
  rw [prtsmNext, if_neg (by simp [hsettled])] at h
  cases hs : (br.ptp p t).prtsmState
  all_goals
    simp only [hs, hsettled, prtsmNextMaster, prtsmNextRoot, prtsmNextDesignated,
      prtsmNextAlternate, Bool.false_and, Bool.not_false, if_true, Bool.false_eq_true,
      if_false, reduceCtorEq, Option.some.injEq] at h
  all_goals
    rw [← h]
    decide

theorem prtsmEnter_selectedRole (hfit : RoleSafe (br.ptp p t))
    (hrole : (br.ptp p t).role = (br.ptp p t).selectedRole) (h : prtsmNext v br p t = some s) :
    (prtsmEnter v (br.port p).sendRSTP s (prtsmMark s (br.ptp p t))).role =
      (br.ptp p t).selectedRole := by
  rcases prtsmNext_within hfit.state h with hs | hs
  · rw [hs]
    exact prtsmEnter_roleState_role v _ _
  · rw [prtsmEnter_within_role _ hs, hrole]

theorem prtsmNext_pending_le (hfit : RoleSafe (br.ptp p t))
    (hrole : (br.ptp p t).role = (br.ptp p t).selectedRole) (hne : (br.ptp p t).role ≠ .disabled)
    (h : prtsmNext v br p t = some s) : s.pending ≤ 1 := by
  rcases prtsmNext_within hfit.state h with hs | hs
  · rw [hrole] at hne
    rw [hs]
    cases hsel : (br.ptp p t).selectedRole
    case disabled => exact absurd hsel hne
    all_goals decide
  · exact hs.pending_le hne

/-- Back at rest there is nothing pending, but in the Disabled role. -/
theorem roleLeft_or_pending_rest {x : PerTreePort} (hfit : x.prtsmState.permits x.role = true)
    (hpos : 0 < x.prtsmState.pending)
    (hunsettled : x.prtsmState = .disabledPort → 0 < disabledLeft c.vars x) :
    2 * roleLeft c (prtsmEnter c.vars c.sendRSTP (restState x.role) x) +
      (restState x.role).pending < 2 * roleLeft c x + x.prtsmState.pending := by
  have hle := roleLeft_rest c x
  by_cases hr : x.role = .disabled
  · by_cases hstate : x.prtsmState = .disabledPort
    · have hleft := hunsettled hstate
      have hnone : roleLeft c (prtsmEnter c.vars c.sendRSTP (restState x.role) x) = 0 := by
        simp [hr, restState, prtsmEnter, roleLeft, disabledLeft]
      have hsome : roleLeft c x = disabledLeft c.vars x := by rw [roleLeft, hr]
      rw [hnone, hsome, hstate, hr, restState]
      omega
    · have htwo : 2 ≤ x.prtsmState.pending := by
        rw [hr] at hfit
        cases hs : x.prtsmState
        case disabledPort => exact absurd hs hstate
        all_goals first
          | decide
          | simp [hs, PrtsmState.permits] at hfit
      have hone : (restState x.role).pending = 1 := by rw [hr]; rfl
      omega
  · have hzero : (restState x.role).pending = 0 := by
      cases h : x.role <;> first | rfl | exact absurd h hr
    omega

/-- Within a role either the work of the role gets less, or the way to rest shorter. -/
theorem roleLeft_or_pending (hfit : RoleSafe (br.ptp p t)) (heff : inEffect (br.ptp p t) = true)
    (hrole : (br.ptp p t).role = (br.ptp p t).selectedRole)
    (hno : cycling (prtsmSurroundings v br p t) (br.ptp p t) = false)
    (h : prtsmNext v br p t = some s) :
    2 * roleLeft (prtsmSurroundings v br p t) (prtsmEnter v (br.port p).sendRSTP s
        (prtsmMark s (br.ptp p t))) + s.pending <
      2 * roleLeft (prtsmSurroundings v br p t) (br.ptp p t) +
        (br.ptp p t).prtsmState.pending := by
  rcases prtsmNext_role hfit heff hrole h with ⟨-, hrest, hne⟩ | ⟨hs, hpos, hdisabled⟩ | ⟨hs, hinit⟩
  · have hlt := roleLeft_lowers hfit heff hrole hrest hno hne h
    have hle := prtsmNext_pending_le hfit hrole hne h
    omega
  · have hmark : prtsmMark s (br.ptp p t) = br.ptp p t := by
      rw [hs]
      cases (br.ptp p t).role <;> rfl
    rw [hmark, hs]
    exact roleLeft_or_pending_rest hfit.state hpos hdisabled
  · have hstate := hfit.state
    rw [hinit] at hstate
    have hdis : (br.ptp p t).role = .disabled := eq_of_beq hstate
    have hsame : roleLeft (prtsmSurroundings v br p t) (prtsmEnter v (br.port p).sendRSTP
        .disablePort (prtsmMark .disablePort (br.ptp p t))) =
        roleLeft (prtsmSurroundings v br p t) (br.ptp p t) := by
      rw [roleLeft, roleLeft, hdis]
      rfl
    rw [hs, hsame, hinit]
    exact Nat.add_lt_add_left (by decide) _

theorem PrtsmState.pending_le (s : PrtsmState) : s.pending ≤ 3 := by
  cases s <;> decide

/-- Every transition of a port that is not in the cycle brings it closer to its end. -/
theorem prtsmLeft_lowers (hfit : RoleSafe (br.ptp p t))
    (hno : cycling (prtsmSurroundings v br p t) (br.ptp p t) = false)
    (h : prtsmNext v br p t = some s) :
    prtsmLeft (prtsmSurroundings v br p t) (prtsmEnter v (br.port p).sendRSTP s
      (prtsmMark s (br.ptp p t))) < prtsmLeft (prtsmSurroundings v br p t) (br.ptp p t) := by
  obtain ⟨hkeeps, hselected, hstate⟩ :=
    prtsmEnter_effect v (br.port p).sendRSTP s (br.ptp p t)
  rw [prtsmLeft, prtsmLeft, hkeeps, hselected, hstate]
  cases heff : inEffect (br.ptp p t) with
  | false => exact pending_lowers heff h
  | true =>
    simp only [Bool.not_true, Bool.false_eq_true, if_false]
    by_cases hrole : (br.ptp p t).role = (br.ptp p t).selectedRole
    · rw [prtsmEnter_selectedRole hfit hrole h, hrole]
      simp only [bne_self_eq_false, Bool.false_eq_true, if_false]
      exact roleLeft_or_pending hfit heff hrole hno h
    · have hfollows : s = roleState (br.ptp p t).selectedRole := by
        have heff' : ((br.ptp p t).selected && !(br.ptp p t).updtInfo) = true := heff
        rw [prtsmNext, if_pos (by simp [hrole, heff'])] at h
        exact (Option.some.inj h).symm
      have hle := roleLeft_le (prtsmSurroundings v br p t) (prtsmEnter v (br.port p).sendRSTP s
        (prtsmMark s (br.ptp p t)))
      have hpending := s.pending_le
      have hthere : (prtsmEnter v (br.port p).sendRSTP s (prtsmMark s (br.ptp p t))).role =
          (br.ptp p t).selectedRole := by
        rw [hfollows]
        exact prtsmEnter_roleState_role v _ _
      rw [if_neg (by simp [hthere]), if_pos (by simpa using hrole)]
      omega

/-- A transition neither starts nor ends the cycle. -/
theorem cycling_prtsmEnter (hfit : RoleSafe (br.ptp p t)) (h : prtsmNext v br p t = some s) :
    cycling (prtsmSurroundings v br p t)
        (prtsmEnter v (br.port p).sendRSTP s (prtsmMark s (br.ptp p t))) =
      cycling (prtsmSurroundings v br p t) (br.ptp p t) := by
  obtain ⟨hkeeps, hselected, -⟩ := prtsmEnter_effect v (br.port p).sendRSTP s (br.ptp p t)
  rw [cycling, cycling, hkeeps, hselected]
  cases heff : inEffect (br.ptp p t) with
  | false => rfl
  | true =>
    by_cases hmaster : (br.ptp p t).selectedRole = .master
    · simp only [hmaster, beq_self_eq_true, Bool.and_self, Bool.true_and]
      by_cases hrole : (br.ptp p t).role = (br.ptp p t).selectedRole
      · have hown : (br.ptp p t).role = .master := hrole.trans hmaster
        rcases prtsmNext_role hfit heff hrole h with ⟨-, hrest, -⟩ | ⟨hs, -, -⟩ | ⟨-, hinit⟩
        · rw [prtsmNext, if_neg (by simp [hrole]), hrest, hown] at h
          exact prtsmNextMaster_cycles (allSynced_master hown hmaster heff) h
        · rw [hs, hown]
          rfl
        · have hstate := hfit.state
          simp [hinit, hown, PrtsmState.permits] at hstate
      · have heff' : ((br.ptp p t).selected && !(br.ptp p t).updtInfo) = true := heff
        rw [prtsmNext, if_pos (by simp [hrole, heff']), hmaster] at h
        rw [← Option.some.inj h]
        rfl
    · rw [beq_false_of_ne hmaster]
      rfl

/-- In the cycle there is always a next transition. -/
theorem prtsmNext_of_cycling (hfit : RoleSafe (br.ptp p t))
    (hcycle : cycling (prtsmSurroundings v br p t) (br.ptp p t) = true) :
    ∃ s, prtsmNext v br p t = some s := by
  simp only [cycling, Bool.and_eq_true, beq_iff_eq] at hcycle
  obtain ⟨⟨heff, hmaster⟩, hcycle⟩ := hcycle
  by_cases hrole : (br.ptp p t).role = (br.ptp p t).selectedRole
  · have hown : (br.ptp p t).role = .master := hrole.trans hmaster
    have hstate := hfit.state
    rw [hown] at hstate
    rw [prtsmNext, if_neg (by simp [hrole])]
    cases hs : (br.ptp p t).prtsmState
    case masterPort =>
      exact prtsmNextMaster_of_cycles (allSynced_master hown hmaster heff) heff hcycle
    all_goals first
      | exact ⟨_, rfl⟩
      | simp [hs, PrtsmState.permits] at hstate
  · have heff' : ((br.ptp p t).selected && !(br.ptp p t).updtInfo) = true := heff
    rw [prtsmNext, if_pos (by simp [hrole, heff'])]
    exact ⟨_, rfl⟩

end Step

/-! ## A call of the machine -/

section Call

variable {v : PrtsmVars} {c : PrtsmSurroundings} {br : Bridge} {p : PortRef} {t : Mstid}
  {s : PrtsmState}

theorem RoleSafe.prtsmTo (hfit : RoleSafe (br.ptp p t)) (hp : p ∈ br.ports)
    (h : prtsmNext v br p t = some s) : RoleSafe ((prtsmTo v p t s br).ptp p t) := by
  have hmark : RoleSafe (prtsmMark s (br.ptp p t)) := by
    refine hfit.congr ?_
    cases s <;> rfl
  have hsame : (prtsmMark s (br.ptp p t)).role = (br.ptp p t).role ∧
      (prtsmMark s (br.ptp p t)).selectedRole = (br.ptp p t).selectedRole ∧
      (prtsmMark s (br.ptp p t)).learn = (br.ptp p t).learn := by
    cases s <;> exact ⟨rfl, rfl, rfl⟩
  rw [prtsmTo_entry v t s br hp]
  rcases prtsmNext_within hfit.state h with hs | hs
  · have henter : RoleSafe (prtsmEnter v (br.port p).sendRSTP
        (roleState (prtsmMark s (br.ptp p t)).selectedRole) (prtsmMark s (br.ptp p t))) :=
      prtsmEnter_roleState hmark
    rwa [hsame.2.1, ← hs] at henter
  · exact prtsmEnter_within hmark ⟨hsame.1 ▸ hs.permits, hsame.2.2 ▸ hs.learns, hs.same⟩

/-- A port in the middle of a call, with its surroundings as they were. -/
structure InCall (v : PrtsmVars) (p : PortRef) (t : Mstid) (c : PrtsmSurroundings) (cycles : Bool)
    (br : Bridge) : Prop where
  listed : p ∈ br.ports
  fit : RoleSafe (br.ptp p t)
  around : prtsmSurroundings v br p t = c
  cycles : cycling c (br.ptp p t) = cycles

theorem InCall.step {cycles : Bool} (hi : InCall v p t c cycles br)
    (h : prtsmNext v br p t = some s) : InCall v p t c cycles (prtsmTo v p t s br) where
  listed := by
    have hports : (prtsmTo v p t s br).ports = br.ports := (prtsmTo_frame v p t s br).ports_eq
    exact hports ▸ hi.listed
  fit := hi.fit.prtsmTo hi.listed h
  around := (prtsmSurroundings_prtsmTo v p t s br).trans hi.around
  cycles := by
    have hkept := cycling_prtsmEnter hi.fit h
    rw [hi.around, hi.cycles] at hkept
    rw [prtsmTo_entry v t s br hi.listed]
    exact hkept

theorem InCall.lowers (hi : InCall v p t c false br) (h : prtsmNext v br p t = some s) :
    prtsmLeft c ((prtsmTo v p t s br).ptp p t) < prtsmLeft c (br.ptp p t) := by
  have hno : cycling (prtsmSurroundings v br p t) (br.ptp p t) = false := hi.around ▸ hi.cycles
  have hlt := prtsmLeft_lowers hi.fit hno h
  rw [hi.around] at hlt
  rw [prtsmTo_entry v t s br hi.listed]
  exact hlt

theorem prtsmStep_some {b : Bridge} {again : Bool} (h : prtsmStep v p t br = some (b, again)) :
    ∃ s, prtsmNext v br p t = some s ∧ prtsmTo v p t s br = b := by
  obtain ⟨s, hs, heq⟩ := Option.map_eq_some_iff.mp h
  exact ⟨s, hs, (Prod.mk.inj heq).1⟩

/-- Outside the cycle the machine comes to an end. -/
theorem InCall.ends (hi : InCall v p t c false br) {fuel : Nat}
    (hfuel : prtsmLeft c (br.ptp p t) < fuel) : ∃ r, run (prtsmStep v p t) fuel br = some r := by
  refine run_of_measure (I := InCall v p t c false) (fun b => prtsmLeft c (b.ptp p t))
    (fun b b' again hb hstep => ?_) hi hfuel
  obtain ⟨s, hs, rfl⟩ := prtsmStep_some hstep
  exact ⟨hb.step hs, hb.lowers hs⟩

/-- In the cycle it does not. -/
theorem InCall.diverges (hi : InCall v p t c true br) (fuel : Nat) :
    run (prtsmStep v p t) fuel br = none := by
  refine run_diverges (I := InCall v p t c true) (fun b hb => ?_) hi fuel
  have hcycle : cycling (prtsmSurroundings v b p t) (b.ptp p t) = true := hb.around ▸ hb.cycles
  obtain ⟨s, hs⟩ := prtsmNext_of_cycling hb.fit hcycle
  refine ⟨prtsmTo v p t s b, ?_, hb.step hs⟩
  rw [prtsmStep, hs]
  rfl

end Call

/-- The port is in the cycle when the machine is called for it. -/
def masterCycling (br : Bridge) (p : PortRef) (t : Mstid) : Bool :=
  cycling (prtsmSurroundings (prtsmVars br p) br p t) (br.ptp p t)

theorem Visited.inCall {C : Act → Bridge → Prop} {br : Bridge} (h : Visited C br) {p : PortRef}
    (hp : p ∈ br.ports) (t : Mstid) :
    InCall (prtsmVars br p) p t (prtsmSurroundings (prtsmVars br p) br p t)
      (masterCycling br p t) br :=
  ⟨hp, h.statesFit.role p t, rfl, rfl⟩

/-- The calls of the role transition machine come to an end at all ports but Master ports in
their cycle. -/
theorem prtsm_ends_iff {br : Bridge} (h : Visited anyAct br) {p : PortRef} (hp : p ∈ br.ports)
    (t : Mstid) :
    (∃ fuel, (prtsmRun fuel p t br).isSome = true) ↔ masterCycling br p t = false := by
  have hcall := h.inCall hp t
  constructor
  · rintro ⟨fuel, hsome⟩
    by_contra hcycle
    rw [Bool.eq_true_of_not_eq_false hcycle] at hcall
    rw [prtsmRun, hcall.diverges fuel] at hsome
    cases hsome
  · intro hno
    rw [hno] at hcall
    obtain ⟨r, hr⟩ := hcall.ends (Nat.lt_succ_self _)
    exact ⟨_, Option.isSome_iff_exists.mpr ⟨r, hr⟩⟩

/-! ## A Master port that does not come to rest -/

/-- The octets of a message. -/
def octets (l : List UInt8) : Mem := fun o => l.getD o 0

/-- A message of another bridge of the region: its root is bridge 1 for both trees. The
sender is given by its last octet, which is also its priority. -/
def regionOctets (sender portId : UInt8) : List UInt8 :=
  let root : List UInt8 := [0x10, 0, 0, 0, 0, 0, 0, 1]
  let region : List UInt8 := 0 :: macName 0x020000000001 ++ [0, 0] ++ sampleEnv.hmacMd5 [] []
  let bridge : List UInt8 := [0, 0, 0x4E, 0x20, sender <<< 4, 0, 0, 0, 0, 0, 0, sender, 20]
  let msti : List UInt8 :=
    [0x7C, 0x10, 1, 0, 0, 0, 0, 0, 1, 0, 0, 0x4E, 0x20, sender <<< 4, 0x80, 19]
  [0, 0, 3, 2, 0x3C] ++ root ++ [0, 0, 0, 0] ++ root ++ [0x80, portId] ++
    [0, 0, 20, 0, 2, 0, 15, 0, 0, 0, 80] ++ region ++ bridge ++ msti

/-- A Config message of a better root, from outside the region. -/
def betterOctets : List UInt8 :=
  let root : List UInt8 := [0, 0, 0, 0, 0, 0, 0, 9]
  [0, 0, 0, 0, 0] ++ root ++ [0, 0, 0, 0] ++ root ++ [0x80, 1, 0, 0, 20, 0, 2, 0, 15, 0]

/-- The first port becomes the Master port of the MSTI at a neighbour that sends Config
messages. -/
def masterOps : List Op :=
  [.createPort 1 1 "sw1p1" 1000 1, .createPort 2 2 "sw1p2" 1000 1,
    .setCistBridgeConfig { protocolVersion := some 3 }, .createMsti 1, .setBridgeEnable true,
    .setPortEnable 1 true 1000 1, .setPortEnable 2 true 1000 1,
    .rxBpdu 1 (octets (regionOctets 2 1)) 118, .rxBpdu 2 (octets (regionOctets 3 2)) 118,
    .oneSecond, .oneSecond, .oneSecond, .rxBpdu 1 (octets betterOctets) 35]

/-- Until it is asked to be discarding, the Master port rests. -/
theorem master_port_rests : ∃ br, Visited anyAct br ∧ 1 ∈ br.ports ∧
    (br.ptp 1 1).role = .master ∧ ∃ fuel, (prtsmRun fuel 1 1 br).isSome = true := by
  have hrun : (sampleRun masterOps).any (fun br => br.ports.contains 1 &&
      (br.ptp 1 1).role == .master && !masterCycling br 1 1) = true := by
    decide +kernel
  obtain ⟨br, hbr, hrun⟩ := (Option.any_eq_true _ _).mp hrun
  simp only [Bool.and_eq_true, beq_iff_eq, List.contains_iff_mem, Bool.not_eq_true'] at hrun
  obtain ⟨⟨hp, hmaster⟩, hno⟩ := hrun
  have hr : Reachable anyOp br := sampleRun_reachable (fun _ _ => trivial) hbr
  exact ⟨br, hr.visited, hp, hmaster, (prtsm_ends_iff hr.visited hp 1).mpr hno⟩

/-- A new port priority makes the second port the Root port of the MSTI, which asks the
first one to be discarding. -/
def rerootMoves : List Move :=
  [.act (.mstiPortConfig 2 1 { portPriority := some 4 }), .proceed, .proceed, .proceed, .proceed,
    .proceed, .proceed, .proceed, .act (.prssm 1), .proceed, .act (.prtsm 2 1 .rootPort),
    .act (.prtsm 2 1 .reroot), .act (.prtsm 2 1 .rootPort), .proceed, .proceed, .proceed, .proceed,
    .proceed, .proceed, .proceed, .proceed, .proceed, .act (.pism 1 1 .update),
    .act (.pism 1 1 .current), .proceed, .proceed]

theorem master_port_does_not_rest : ∃ br, VisitedAt anyAct .prtsm br ∧ br.bridgeEnabled = true ∧
    1 ∈ br.ports ∧ 1 ∈ br.trees ∧ ∀ fuel, prtsmRun fuel 1 1 br = none := by
  have hrun : (sampleRun masterOps).any (fun br =>
      (passActs.attempt (onActs anyAct) rerootMoves (.idle, br)).any fun s =>
        s.1 == .prtsm && s.2.bridgeEnabled && s.2.ports.contains 1 && s.2.trees.contains 1 &&
          masterCycling s.2 1 1) = true := by
    decide +kernel
  obtain ⟨br₀, hbr₀, hrun⟩ := (Option.any_eq_true _ _).mp hrun
  obtain ⟨⟨k, br⟩, hbr, hrun⟩ := (Option.any_eq_true _ _).mp hrun
  simp only [Bool.and_eq_true, beq_iff_eq, List.contains_iff_mem] at hrun
  obtain ⟨⟨⟨⟨rfl, hen⟩, hp⟩, ht⟩, hcycle⟩ := hrun
  obtain ⟨env, macaddr, hlead⟩ :=
    (sampleRun_reachable (A := anyOp) (fun _ _ => trivial) hbr₀).visitedAt
  have hv : VisitedAt anyAct .prtsm br := ⟨env, macaddr, hlead.trans (Labelled.attempt_leads hbr)⟩
  have hcall := hv.visited.inCall hp 1
  rw [hcycle] at hcall
  exact ⟨br, hv, hen, hp, ht, hcall.diverges⟩

end Mstpd
