import Mstpd.OnePort
import Mstpd.RegionInfo

/-!
# The topology change flag of a tree

The flag is kept up to date by the six places that write a timer, with a hint about
what they did to it. It agrees with the timers as long as no timer is started at zero,
which the times of a root port may ask for on a port that sends STP BPDUs.
-/

namespace Mstpd

open Bridge Machine

/-- Some port of the tree has a running timer. -/
def someTcWhile (br : Bridge) (t : Mstid) : Bool := br.ports.any fun q => (br.ptp q t).tcWhile != 0

/-- The flag of each tree says whether a timer runs. -/
def FlagsAgree (br : Bridge) : Prop :=
  ∀ t ∈ br.trees, (br.tree t).topologyChange = someTcWhile br t

section Flags

variable {br br' : Bridge} {p : PortRef} {t : Mstid}

theorem someTcWhile_iff : someTcWhile br t = true ↔ ∃ p ∈ br.ports, (br.ptp p t).tcWhile ≠ 0 := by
  simp [someTcWhile, List.any_eq_true, bne_iff_ne]

theorem someTcWhile_false :
    someTcWhile br t = false ↔ ∀ p ∈ br.ports, (br.ptp p t).tcWhile = 0 := by
  simp [someTcWhile, List.any_eq_false, bne_iff_ne]

theorem someTcWhile_congr (hports : br'.ports = br.ports)
    (h : ∀ q ∈ br.ports, (br'.ptp q t).tcWhile = 0 ↔ (br.ptp q t).tcWhile = 0) :
    someTcWhile br' t = someTcWhile br t := by
  rw [Bool.eq_iff_iff, someTcWhile_iff, someTcWhile_iff, hports]
  constructor
  · rintro ⟨q, hq, hrun⟩
    exact ⟨q, hq, fun hzero => hrun ((h q hq).mpr hzero)⟩
  · rintro ⟨q, hq, hrun⟩
    exact ⟨q, hq, fun hzero => hrun ((h q hq).mp hzero)⟩

theorem someTcWhile_setPtp_other (p : PortRef) {s : Mstid} (f : PerTreePort → PerTreePort)
    (hst : s ≠ t) : someTcWhile (br.setPtp p t f) s = someTcWhile br s :=
  someTcWhile_congr rfl fun q _ => by simp only [setPtp, hst, and_false, if_false]

/-- Steps that write neither timers nor flags. -/
theorem FlagsAgree.frame (h : FlagsAgree br) {o : Owned} (hf : Frame o br br')
    (hlists : ∀ b : Bridge, ((o.config b.config).ports, (o.config b.config).trees) =
      (b.ports, b.trees))
    (hptp : ∀ x, (o.ptp x).tcWhile = x.tcWhile)
    (htree : ∀ x, (o.tree x).topologyChange = x.topologyChange) : FlagsAgree br' := by
  have hl := hf.config_eq (fun b => (b.ports, b.trees)) hlists
  simp only [Prod.mk.injEq] at hl
  intro t ht
  rw [hf.tree_eq Tree.topologyChange htree t, h t (hl.2 ▸ ht)]
  refine (someTcWhile_congr hl.1 fun q _ => ?_).symm
  rw [hf.ptp_eq PerTreePort.tcWhile hptp q t]

/-- All fields but the timers and the flags. -/
def apartFromFlags : Owned where
  config b := { ports := b.ports, trees := b.trees }
  ptp x := { tcWhile := x.tcWhile }
  port _ := {}
  tree x := { topologyChange := x.topologyChange }
  out _ := true

instance : apartFromFlags.KeepsLists := ⟨fun _ => rfl, fun _ => rfl⟩

theorem FlagsAgree.apart (h : FlagsAgree br) (hf : Frame apartFromFlags br br') : FlagsAgree br' :=
  h.frame hf (fun _ => rfl) (fun _ => rfl) fun _ => rfl

/-! ## The writes -/

/-- The flag is lowered when no timer runs any more. -/
theorem FlagsAgree.reset (hother : ∀ s ∈ br.trees, s ≠ t →
      (br.tree s).topologyChange = someTcWhile br s)
    (hup : t ∈ br.trees → someTcWhile br t = true → (br.tree t).topologyChange = true) :
    FlagsAgree (resetTopologyChange t br) := by
  intro s hs
  rw [resetTopologyChange]
  by_cases hst : s = t
  · subst hst
    change (if s = s then _ else _ : Tree).topologyChange = someTcWhile br s
    rw [if_pos rfl]
    change ((br.tree s).topologyChange && someTcWhile br s) = someTcWhile br s
    cases hrun : someTcWhile br s with
    | false => exact Bool.and_false _
    | true => exact (congrArg (· && true) (hup hs hrun)).trans rfl
  · change (if s = t then _ else _ : Tree).topologyChange = someTcWhile br s
    rw [if_neg hst]
    exact hother s hs hst

/-- A timer is stopped, and the flag is looked at again. -/
theorem FlagsAgree.stop (h : FlagsAgree br) (p : PortRef) (t : Mstid)
    {f : PerTreePort → PerTreePort} (hzero : ∀ x, (f x).tcWhile = 0) :
    FlagsAgree (resetTopologyChange t (br.setPtp p t f)) := by
  refine FlagsAgree.reset (fun s hs hst => ?_) fun ht hrun => ?_
  · exact (h s hs).trans (someTcWhile_setPtp_other p f hst).symm
  · obtain ⟨q, hq, hq'⟩ := someTcWhile_iff.mp hrun
    refine (h t ht).trans (someTcWhile_iff.mpr ⟨q, hq, ?_⟩)
    simp only [setPtp] at hq'
    split at hq'
    · exact absurd (hzero _) hq'
    · exact hq'

/-- A timer is started, and the flag is raised. -/
theorem FlagsAgree.start (h : FlagsAgree br) (hp : p ∈ br.ports)
    {f : PerTreePort → PerTreePort} (hrun : ∀ x, (f x).tcWhile ≠ 0) :
    FlagsAgree (setTopologyChange t p (br.setPtp p t f)) := by
  intro s hs
  rw [setTopologyChange, setTree]
  by_cases hst : s = t
  · subst hst
    change (if s = s then _ else _ : Tree).topologyChange = someTcWhile (br.setPtp p s f) s
    rw [if_pos rfl]
    have hset : ((br.setPtp p s f).ptp p s).tcWhile ≠ 0 := by
      rw [setPtp_self]
      exact hrun _
    have hsome : someTcWhile (br.setPtp p s f) s = true := someTcWhile_iff.mpr ⟨p, hp, hset⟩
    exact hsome.symm
  · change (if s = t then _ else _ : Tree).topologyChange = someTcWhile (br.setPtp p t f) s
    rw [if_neg hst]
    exact (h s hs).trans (someTcWhile_setPtp_other p f hst).symm

/-- The time `newTcWhile` starts a timer with. -/
def newTime (br : Bridge) (p : PortRef) (t : Mstid) : Nat :=
  if (br.port p).sendRSTP then (br.cist p).portTimes.helloTime.toNat + 1
  else (br.tree t).rootTimes.maxAge.toNat + (br.tree t).rootTimes.forwardDelay.toNat

theorem newTime_ne_zero (h : (br.port p).sendRSTP = false →
      (br.tree t).rootTimes.maxAge.toNat + (br.tree t).rootTimes.forwardDelay.toNat ≠ 0) :
    newTime br p t ≠ 0 := by
  rw [newTime]
  split
  · exact Nat.succ_ne_zero _
  · rename_i hstp
    exact h (Bool.eq_false_iff.mpr hstp)

theorem setNewInfo_apart (p : PortRef) (t : Mstid) (br : Bridge) :
    Frame apartFromFlags br (setNewInfo p t br) := Frame.setPort fun _ => rfl

def withTcWhile (n : Nat) (x : PerTreePort) : PerTreePort := { x with tcWhile := n }

theorem newTcWhile_eq (hzero : (br.ptp p t).tcWhile = 0) :
    newTcWhile p t br =
      (if (br.port p).sendRSTP then setNewInfo p t else id)
        (setTopologyChange t p (br.setPtp p t (withTcWhile (newTime br p t)))) := by
  rw [newTcWhile, if_neg (by simpa using hzero), newTime]
  split <;> rfl

theorem newTcWhile_tcWhile (h : (br.ptp p t).tcWhile = 0 → newTime br p t ≠ 0) :
    ((newTcWhile p t br).ptp p t).tcWhile ≠ 0 := by
  by_cases hzero : (br.ptp p t).tcWhile = 0
  · have hself : ((newTcWhile p t br).ptp p t) = withTcWhile (newTime br p t) (br.ptp p t) := by
      rw [newTcWhile_eq hzero]
      split <;> exact setPtp_self br p t _
    rw [hself]
    exact h hzero
  · rw [newTcWhile, if_pos hzero]
    exact hzero

theorem FlagsAgree.newTcWhile (h : FlagsAgree br) (hp : p ∈ br.ports)
    (hnew : (br.ptp p t).tcWhile = 0 → newTime br p t ≠ 0) :
    FlagsAgree (newTcWhile p t br) := by
  by_cases hzero : (br.ptp p t).tcWhile = 0
  · have hstart := h.start (t := t) hp (f := withTcWhile (newTime br p t)) fun _ => hnew hzero
    rw [newTcWhile_eq hzero]
    split
    · exact hstart.apart (setNewInfo_apart p t _)
    · exact hstart
  · rw [Mstpd.newTcWhile, if_pos hzero]
    exact h

end Flags

/-! ## The machine -/

section Machine

variable {br : Bridge} {p : PortRef} {t : Mstid}

theorem setFdbFlush_apart (p : PortRef) (t : Mstid) (br : Bridge) :
    Frame apartFromFlags br (setFdbFlush p t br) := by
  rw [setFdbFlush]
  refine Frame.ite (Frame.setPtp fun _ => rfl) (Frame.ite ?_ ?_)
  · exact Frame.after (Frame.emit rfl) (Frame.setPtp fun _ => rfl)
  · exact Frame.after (Frame.setPtp fun _ => rfl)
      (Frame.after (Frame.setPort fun _ => rfl) (Frame.emit rfl))

theorem FlagsAgree.inactive (h : FlagsAgree br) (p : PortRef) (t : Mstid) :
    FlagsAgree (tcsmToInactive p t br) := by
  have hstate : Frame apartFromFlags br
      (br.setPtp p t fun ptp => { ptp with tcsmState := .inactive }) := Frame.setPtp fun _ => rfl
  have hflush := h.apart (hstate.trans (setFdbFlush_apart p t _))
  rw [tcsmToInactive]
  exact (hflush.stop p t fun _ => rfl).apart (Frame.setPort fun _ => rfl)

/-- The states whose entry starts a timer. -/
def TcsmState.startsTimer : TcsmState → Bool
  | .detected => true
  | .notifiedTcn => true
  | .propagating => true
  | _ => false

def inTcsmState (s : TcsmState) (x : PerTreePort) : PerTreePort := { x with tcsmState := s }

theorem newTime_inTcsmState (p : PortRef) (t : Mstid) (s : TcsmState) (br : Bridge) :
    newTime (br.setPtp p t (inTcsmState s)) p t = newTime br p t := by
  by_cases ht : t = 0
  · subst ht
    simp only [newTime, cist, setPtp_self]
    rfl
  · have hcist : (br.setPtp p t (inTcsmState s)).cist p = br.cist p := if_neg fun h => ht h.2.symm
    simp only [newTime, hcist]
    rfl

theorem FlagsAgree.startTimer (h : FlagsAgree br) (hp : p ∈ br.ports)
    (hnew : (br.ptp p t).tcWhile = 0 → newTime br p t ≠ 0) (s : TcsmState) :
    FlagsAgree (Mstpd.newTcWhile p t (br.setPtp p t (inTcsmState s))) := by
  have hstate : Frame apartFromFlags br (br.setPtp p t (inTcsmState s)) := Frame.setPtp fun _ => rfl
  refine (h.apart hstate).newTcWhile hp fun hzero => ?_
  rw [setPtp_self] at hzero
  rw [newTime_inTcsmState]
  exact hnew hzero

theorem FlagsAgree.tcsm (h : FlagsAgree br) (hp : p ∈ br.ports) {s : TcsmState}
    (hnew : s.startsTimer = true → (br.ptp p t).tcWhile = 0 → newTime br p t ≠ 0) :
    FlagsAgree (tcsmTo p t s br) := by
  have hprop : ∀ b, Frame apartFromFlags b (setTcPropTree p t b) := fun _ =>
    Frame.setTreePtps fun _ _ => rfl
  cases s with
  | inactive => exact h.inactive p t
  | learning =>
    refine h.apart ?_
    rw [tcsmTo, tcsmToLearning]
    exact Frame.after (Frame.setPtp fun _ => rfl) (Frame.setPort fun _ => rfl)
  | detected =>
    refine (h.startTimer hp (hnew rfl) .detected).apart ?_
    rw [tcsmTo, tcsmToDetected]
    exact (hprop _).trans (setNewInfo_apart p t _)
  | notifiedTcn => exact h.startTimer hp (hnew rfl) .notifiedTcn
  | notifiedTc =>
    refine h.apart ?_
    rw [tcsmTo, tcsmToNotifiedTc]
    exact Frame.after (hprop _) (Frame.after (Frame.setPort fun _ => rfl)
      (Frame.setPtp fun _ => rfl))
  | propagating =>
    refine (h.startTimer hp (hnew rfl) .propagating).apart ?_
    rw [tcsmTo, tcsmToPropagating]
    exact (setFdbFlush_apart p t _).trans (Frame.setPtp fun _ => rfl)
  | acknowledged =>
    rw [tcsmTo, tcsmToAcknowledged]
    exact (h.stop p t fun _ => rfl).apart (Frame.setPort fun _ => rfl)
  | active =>
    refine h.apart ?_
    rw [tcsmTo, tcsmToActive]
    exact Frame.setPtp fun _ => rfl

/-- The states that start a timer leave it running. -/
theorem tcsmTo_tcWhile {s : TcsmState} (hs : s.startsTimer = true)
    (hnew : (br.ptp p t).tcWhile = 0 → newTime br p t ≠ 0) :
    ((tcsmTo p t s br).ptp p t).tcWhile ≠ 0 := by
  have hstart : ((newTcWhile p t (br.setPtp p t (inTcsmState s))).ptp p t).tcWhile ≠ 0 := by
    refine newTcWhile_tcWhile fun hzero => ?_
    rw [setPtp_self] at hzero
    rw [newTime_inTcsmState]
    exact hnew hzero
  have hkeep : ∀ {b b'}, Frame apartFromFlags b b' →
      (b.ptp p t).tcWhile ≠ 0 → (b'.ptp p t).tcWhile ≠ 0 := fun hf hb =>
    ne_of_eq_of_ne (hf.ptp_eq PerTreePort.tcWhile (fun _ => rfl) p t) hb
  cases s with
  | detected =>
    refine hkeep ?_ hstart
    rw [tcsmTo, tcsmToDetected]
    exact Frame.after (setNewInfo_apart p t _) (Frame.setTreePtps fun _ _ => rfl)
  | notifiedTcn => exact hstart
  | propagating =>
    refine hkeep ?_ hstart
    rw [tcsmTo, tcsmToPropagating]
    exact (setFdbFlush_apart p t _).trans (Frame.setPtp fun _ => rfl)
  | _ => cases hs

end Machine

/-! ## Ticks -/

section Ticks

variable {br : Bridge} {p : PortRef} {t : Mstid}

/-- One second for the timers of an entry. -/
def secondLater (x : PerTreePort) : PerTreePort :=
  { x with
    fdWhile := x.fdWhile - 1, rrWhile := x.rrWhile - 1, rbWhile := x.rbWhile - 1
    tcWhile := x.tcWhile - 1, rcvdInfoWhile := x.rcvdInfoWhile - 1 }

theorem FlagsAgree.ptpTick (h : FlagsAgree br) (hp : p ∈ br.ports) (t : Mstid) :
    FlagsAgree (ptpTick p t br) := by
  have hother : ∀ s ∈ br.trees, s ≠ t →
      (br.tree s).topologyChange = someTcWhile (br.setPtp p t secondLater) s := fun s hs hst =>
    (h s hs).trans (someTcWhile_setPtp_other p secondLater hst).symm
  change FlagsAgree (if (br.ptp p t).tcWhile == 1 then
    resetTopologyChange t (br.setPtp p t secondLater) else br.setPtp p t secondLater)
  split
  · rename_i hone
    refine FlagsAgree.reset hother fun ht _ => (h t ht).trans (someTcWhile_iff.mpr ⟨p, hp, ?_⟩)
    rw [beq_iff_eq.mp hone]
    exact Nat.one_ne_zero
  · rename_i hone
    have hne : (br.ptp p t).tcWhile ≠ 1 := by simpa using hone
    intro s hs
    by_cases hst : s = t
    · subst hst
      have hsame : someTcWhile (br.setPtp p s secondLater) s = someTcWhile br s := by
        refine someTcWhile_congr rfl fun q _ => ?_
        by_cases hq : q = p
        · subst hq
          rw [setPtp_self, secondLater]
          dsimp only
          omega
        · simp only [setPtp, hq, false_and, if_false]
      exact (h s hs).trans hsame.symm
    · exact hother s hs hst

theorem FlagsAgree.portTick (h : FlagsAgree br) (hp : p ∈ br.ports) :
    FlagsAgree (portTick p br) := by
  have hports : ∀ b f, Frame apartFromFlags b (b.setPort p f) :=
    fun _ _ => Frame.setPort fun _ => rfl
  have hall : ∀ b, b.ports = br.ports → FlagsAgree b →
      FlagsAgree (forAll (Mstpd.ptpTick p) b.trees b) := fun b hl hb =>
    (forAll_inv (I := fun c => c.ports = br.ports ∧ FlagsAgree c) (fun t _ c hc =>
      ⟨(ptpTick_frame p t c).ports_eq.trans hc.1, hc.2.ptpTick (hc.1.symm ▸ hp) t⟩) ⟨hl, hb⟩).2
  have hageing : ∀ f g,
      FlagsAgree ((forAll (Mstpd.ptpTick p) br.trees (br.setPort p f)).setPort p g) :=
    fun f g => (hall (br.setPort p f) rfl (h.apart (hports br f))).apart (hports _ g)
  rw [Mstpd.portTick]
  split
  · exact (hageing _ _).apart (Frame.emit rfl)
  · exact hageing _ _

theorem FlagsAgree.tick (h : FlagsAgree br) : FlagsAgree (bridgeTick br) := by
  have htree : ∀ s b, Frame apartFromFlags b (b.setTree s treeTick) := fun _ _ =>
    Frame.setTree fun _ => rfl
  have htrees := Frame.forAll htree br.trees br
  rw [bridgeTick]
  refine (forAll_inv (I := fun c => c.ports = br.ports ∧ FlagsAgree c) (fun p hp c hc => ?_)
    ⟨htrees.ports_eq, h.apart htrees⟩).2
  exact ⟨(portTick_frame p c).ports_eq.trans hc.1,
    hc.2.portTick (hc.1.symm ▸ htrees.ports_eq ▸ hp)⟩

theorem ptpTick_tcWhile (p q : PortRef) (t s : Mstid) (br : Bridge) :
    ((ptpTick q s br).ptp p t).tcWhile =
      if p = q ∧ t = s then (br.ptp p t).tcWhile - 1 else (br.ptp p t).tcWhile := by
  have hset : (ptpTick q s br).ptp p t = (br.setPtp q s secondLater).ptp p t := by
    change (if (br.ptp q s).tcWhile == 1 then
      resetTopologyChange s (br.setPtp q s secondLater) else br.setPtp q s secondLater).ptp p t = _
    split <;> rfl
  rw [hset]
  by_cases hself : p = q ∧ t = s
  · obtain ⟨rfl, rfl⟩ := hself
    rw [setPtp_self, if_pos ⟨rfl, rfl⟩]
    rfl
  · rw [if_neg hself]
    exact congrArg PerTreePort.tcWhile (if_neg hself)

theorem ptpTick_most (p q : PortRef) (t s : Mstid) {br : Bridge} {n : Nat}
    (h : (br.ptp p t).tcWhile ≤ n) : ((ptpTick q s br).ptp p t).tcWhile ≤ n := by
  rw [ptpTick_tcWhile]
  split
  · exact (Nat.sub_le _ 1).trans h
  · exact h

theorem portTick_most (p q : PortRef) (t : Mstid) {br : Bridge} {n : Nat}
    (h : (br.ptp p t).tcWhile ≤ n) : ((portTick q br).ptp p t).tcWhile ≤ n := by
  have hall : ∀ b l, (b.ptp p t).tcWhile ≤ n →
      ((forAll (ptpTick q) l b).ptp p t).tcWhile ≤ n := fun b l hb =>
    forAll_inv (I := fun c => (c.ptp p t).tcWhile ≤ n) (l := l) (fun s _ _ hc =>
      ptpTick_most p q t s hc) hb
  rw [portTick]
  split
  · exact hall _ _ h
  · exact hall _ _ h

/-- A tick brings every running timer closer to its end. -/
theorem bridgeTick_tcWhile (br : Bridge) {p : PortRef} {t : Mstid} (hp : p ∈ br.ports)
    (ht : t ∈ br.trees) :
    ((bridgeTick br).ptp p t).tcWhile ≤ (br.ptp p t).tcWhile - 1 := by
  have hset : ∀ s b, Frame apartFromFlags b (b.setTree s treeTick) :=
    fun s b => Frame.setTree fun _ => rfl
  have htrees := Frame.forAll hset br.trees br
  have hsame := htrees.ptp_eq PerTreePort.tcWhile (fun _ => rfl) p t
  rw [bridgeTick]
  refine forAll_reaches_of (I := fun b => (b.ptp p t).tcWhile ≤ (br.ptp p t).tcWhile - 1)
    (J := fun b => b.trees = br.trees ∧ (b.ptp p t).tcWhile ≤ (br.ptp p t).tcWhile)
    (htrees.ports_eq.symm ▸ hp) (fun q b hb => ?_) (fun b hb => ?_) (fun q b hb => ?_)
    ⟨htrees.trees_eq, hsame.le⟩
  · exact ⟨(portTick_frame q b).trees_eq.trans hb.1, portTick_most p q t hb.2⟩
  · have hreach : ∀ b', (b'.ptp p t).tcWhile ≤ (br.ptp p t).tcWhile →
        ((forAll (ptpTick p) b.trees b').ptp p t).tcWhile ≤ (br.ptp p t).tcWhile - 1 := by
      intro b' hb'
      refine forAll_reaches_of (I := fun c => (c.ptp p t).tcWhile ≤ (br.ptp p t).tcWhile - 1)
        (J := fun c => (c.ptp p t).tcWhile ≤ (br.ptp p t).tcWhile) (hb.1.symm ▸ ht)
        (fun s _ hc => ptpTick_most p p t s hc) (fun c hc => ?_)
        (fun s _ hc => ptpTick_most p p t s hc) hb'
      rw [ptpTick_tcWhile, if_pos ⟨rfl, rfl⟩]
      exact Nat.sub_le_sub_right hc 1
    rw [portTick]
    split
    · exact hreach _ hb.2
    · exact hreach _ hb.2
  · exact portTick_most p q t hb

end Ticks

/-! ## BEGIN -/

theorem flagsAgree_begin : BeginInv FlagsAgree where
  prsm br p hi _ := hi.frame (prsmToDiscard_frame p br) (fun _ => rfl) (fun _ => rfl) fun _ => rfl
  ppmsm br p hi _ :=
    hi.frame (ppmsmToCheckingRstp_frame p br) (fun _ => rfl) (fun _ => rfl) fun _ => rfl
  bdsm br p hi _ := hi.frame (bdsmTo_frame p _ br) (fun _ => rfl) (fun _ => rfl) fun _ => rfl
  ptsm br p hi _ :=
    hi.frame (ptsmToTransmitInit_frame p br) (fun _ => rfl) (fun _ => rfl) fun _ => rfl
  pism br p t hi _ _ := hi.frame (pismBegin_frame p t br) (fun _ => rfl) (fun _ => rfl) fun _ => rfl
  initTree br t hi _ :=
    hi.frame (prssmToInitTree_frame t br) (fun _ => rfl) (fun _ => rfl) fun _ => rfl
  prtsm br p t hi _ _ :=
    hi.frame (prtsmToInitPort_frame p t br) (fun _ => rfl) (fun _ => rfl) fun _ => rfl
  pstsm br p t hi _ _ :=
    hi.frame (pstsmTo_frame p t .discarding br) (fun _ => rfl) (fun _ => rfl) fun _ => rfl
  tcsm _ p t hi _ _ := hi.inactive p t

/-- No tree shows a topology change. -/
def FlagsLowered (br : Bridge) : Prop := ∀ t ∈ br.trees, (br.tree t).topologyChange = false

theorem FlagsLowered.frame {br br' : Bridge} (h : FlagsLowered br) {o : Owned} [o.KeepsLists]
    (hf : Frame o br br') (htree : ∀ x, (o.tree x).topologyChange = x.topologyChange) :
    FlagsLowered br' := by
  intro t ht
  rw [hf.tree_eq Tree.topologyChange htree t]
  exact h t (hf.trees_eq ▸ ht)

theorem tcsmToInactive_tcWhile (p q : PortRef) (t s : Mstid) (br : Bridge) :
    ((tcsmToInactive q s br).ptp p t).tcWhile =
      if p = q ∧ t = s then 0 else (br.ptp p t).tcWhile := by
  have hstate : Frame apartFromFlags br
      (br.setPtp q s fun ptp => { ptp with tcsmState := .inactive }) := Frame.setPtp fun _ => rfl
  have hflush := (hstate.trans (setFdbFlush_apart q s _)).ptp_eq PerTreePort.tcWhile
    (fun _ => rfl) p t
  rw [tcsmToInactive, ← hflush]
  simp only [resetTopologyChange, setPort, setTree, setPtp]
  split <;> rfl

theorem FlagsLowered.inactive {br : Bridge} (h : FlagsLowered br) (p : PortRef) (t : Mstid) :
    FlagsLowered (tcsmToInactive p t br) := by
  have hstate : Frame apartFromFlags br
      (br.setPtp p t fun ptp => { ptp with tcsmState := .inactive }) := Frame.setPtp fun _ => rfl
  have hflush := h.frame (hstate.trans (setFdbFlush_apart p t _)) fun _ => rfl
  intro s hs
  rw [tcsmToInactive]
  simp only [resetTopologyChange, setPort, setTree, setPtp]
  split
  · rename_i hst
    subst hst
    exact Bool.and_eq_false_imp.mpr fun hup =>
      absurd ((hflush s hs).symm.trans hup) Bool.false_ne_true
  · exact hflush s hs

theorem flagsLowered_begin : BeginInv FlagsLowered where
  prsm br p hi _ := hi.frame (prsmToDiscard_frame p br) fun _ => rfl
  ppmsm br p hi _ := hi.frame (ppmsmToCheckingRstp_frame p br) fun _ => rfl
  bdsm br p hi _ := hi.frame (bdsmTo_frame p _ br) fun _ => rfl
  ptsm br p hi _ := hi.frame (ptsmToTransmitInit_frame p br) fun _ => rfl
  pism br p t hi _ _ := hi.frame (pismBegin_frame p t br) fun _ => rfl
  initTree br t hi _ := hi.frame (prssmToInitTree_frame t br) fun _ => rfl
  prtsm br p t hi _ _ := hi.frame (prtsmToInitPort_frame p t br) fun _ => rfl
  pstsm br p t hi _ _ := hi.frame (pstsmTo_frame p t .discarding br) fun _ => rfl
  tcsm _ p t hi _ _ := hi.inactive p t

/-- BEGIN stops all timers. -/
theorem FlagsLowered.begin_agree {br : Bridge} (h : FlagsLowered br)
    (hen : br.bridgeEnabled = true) : FlagsAgree (bridgeBegin br) := by
  intro t ht
  have htrees : (bridgeBegin br).trees = br.trees := (trees_begin br.trees).bridge rfl
  have hports : (bridgeBegin br).ports = br.ports := (ports_begin br.ports).bridge rfl
  rw [flagsLowered_begin.bridge h t ht]
  refine (someTcWhile_false.mpr fun p hp => ?_).symm
  have hmem : (p, t) ∈ br.ptpRefs := mem_ptpRefs.mpr ⟨hports ▸ hp, htrees ▸ ht⟩
  rw [bridgeBegin, if_pos hen]
  refine forAll_reaches (I := fun b => (b.ptp p t).tcWhile = 0) hmem (fun b => ?_)
    (fun o b hb => ?_) _
  · rw [tcsmToInactive_tcWhile, if_pos ⟨rfl, rfl⟩]
  · rw [tcsmToInactive_tcWhile]
    split
    · rfl
    · exact hb

theorem resetBridge_lowered (up : Bool) (br : Bridge) : FlagsLowered (resetBridge up br) := by
  intro t ht
  have htrees : (resetBridge up br).trees = br.trees := (resetBridge_frame up br).trees_eq
  rw [resetBridge]
  refine forAll_inv (I := fun b => (b.tree t).topologyChange = false) (fun p _ b hb => ?_)
    (forAll_reaches (I := fun b => (b.tree t).topologyChange = false) (htrees ▸ ht)
      (fun b => ?_) (fun s b hb => ?_) _)
  · rw [resetPort]
    refine forAll_inv (I := fun c => (c.tree t).topologyChange = false) (fun s _ c hc => ?_) ?_
    · rw [setPtp]
      split
      · exact hc
      · exact hc
    · rw [setPort]
      split <;> exact hb
  · simp only [setTree, if_true]
    rfl
  · simp only [setTree]
    split
    · rfl
    · exact hb

theorem addPort_flagsAgree {br : Bridge} (h : FlagsAgree br) {p : PortRef} (hp : p ∉ br.ports)
    (portno : UInt16) (name : String) (speed duplex : Int) :
    FlagsAgree (addPort p portno name speed duplex br) := by
  intro t ht
  have hnew : ((addPort p portno name speed duplex br).ptp p t).tcWhile = 0 := by
    rw [addPort]
    simp only [setPortPtps, setPort]
    split
    · rfl
    · rename_i habsent
      exact absurd ⟨trivial, ht⟩ habsent
  have hold : ∀ q ∈ br.ports, (addPort p portno name speed duplex br).ptp q t = br.ptp q t := by
    intro q hq
    have hne : q ≠ p := fun hqp => hp (hqp ▸ hq)
    simp only [addPort, setPortPtps, setPort, hne, false_and, if_false]
  refine (h t ht).trans ?_
  rw [Bool.eq_iff_iff, someTcWhile_iff, someTcWhile_iff]
  constructor
  · rintro ⟨q, hq, hrun⟩
    exact ⟨q, List.mem_append_left _ hq, by rwa [hold q hq]⟩
  · rintro ⟨q, hq, hrun⟩
    rcases List.mem_append.mp hq with hq | hq
    · exact ⟨q, hq, by rwa [hold q hq] at hrun⟩
    · obtain rfl := List.mem_singleton.mp hq
      exact absurd hnew hrun

theorem addTree_flagsAgree {br : Bridge} (h : FlagsAgree br) {mstid : UInt16} {trees : List Mstid}
    (htrees : ∀ t, t ∈ trees ↔ t = mstid ∨ t ∈ br.trees) :
    FlagsAgree (addTree mstid trees br) := by
  intro t ht
  by_cases hnew : t = mstid
  · subst hnew
    have hflag : ((addTree t trees br).tree t).topologyChange = false := by
      simp only [addTree, setTreePtps, setTree, if_true]
      rfl
    rw [hflag]
    refine (someTcWhile_false.mpr fun q hq => ?_).symm
    have hq' : q ∈ br.ports := hq
    simp only [addTree, setTreePtps, setTree, hq', true_and, if_true]
    rfl
  · have hold : t ∈ br.trees := ((htrees t).mp ht).resolve_left hnew
    have hflag : (addTree mstid trees br).tree t = br.tree t := by
      simp only [addTree, setTreePtps, setTree, hnew, if_false]
    rw [hflag, h t hold]
    have hsame : someTcWhile (addTree mstid trees br) t = someTcWhile br t := by
      refine someTcWhile_congr rfl fun q _ => ?_
      simp only [addTree, setTreePtps, setTree, hnew, false_and, if_false]
    exact hsame.symm

/-! ## Runs -/

/-- The entry whose timer the action starts. -/
def Act.starts : Act → List (PortRef × Mstid)
  | .tcsm p t s => if s.startsTimer then [(p, t)] else []
  | _ => []

/-- The port that the action removes. -/
def Act.removes : Act → List PortRef
  | .removePort p => [p]
  | _ => []

/-- No timer is started at zero, and no port is removed while it has the only running timer
of a tree. -/
def keepsFlags (a : Act) (br : Bridge) : Prop :=
  (∀ e ∈ a.starts, (br.ptp e.1 e.2).tcWhile = 0 → (br.port e.1).sendRSTP = false →
    (br.tree e.2).rootTimes.maxAge.toNat + (br.tree e.2).rootTimes.forwardDelay.toNat ≠ 0) ∧
  ∀ p ∈ a.removes, ∀ t ∈ br.trees, (br.ptp p t).tcWhile ≠ 0 →
    ∃ q ∈ br.ports.erase p, (br.ptp q t).tcWhile ≠ 0

instance (a : Act) (br : Bridge) : Decidable (keepsFlags a br) :=
  inferInstanceAs (Decidable (_ ∧ _))

theorem keepsFlags.starts {p : PortRef} {t : Mstid} {s : TcsmState} {br : Bridge}
    (h : keepsFlags (.tcsm p t s) br) (hs : s.startsTimer = true)
    (hzero : (br.ptp p t).tcWhile = 0) : newTime br p t ≠ 0 := by
  refine newTime_ne_zero fun hstp => h.1 (p, t) ?_ hzero hstp
  rw [Act.starts, if_pos hs]
  exact List.mem_singleton.mpr rfl

theorem FlagsAgree.removePort {br : Bridge} (h : FlagsAgree br) {p : PortRef}
    (hC : keepsFlags (.removePort p) br) : FlagsAgree { br with ports := br.ports.erase p } := by
  intro t ht
  refine (h t ht).trans ?_
  rw [Bool.eq_iff_iff, someTcWhile_iff, someTcWhile_iff]
  constructor
  · rintro ⟨q, hq, hrun⟩
    by_cases hqp : q = p
    · subst hqp
      exact hC.2 q (List.mem_singleton.mpr rfl) t ht hrun
    · exact ⟨q, (List.mem_erase_of_ne hqp).mpr hq, hrun⟩
  · rintro ⟨q, hq, hrun⟩
    exact ⟨q, List.mem_of_mem_erase hq, hrun⟩

theorem Visited.flagsAgree {br : Bridge} (h : Visited keepsFlags br) :
    br.bridgeEnabled = true → FlagsAgree br := by
  refine h.inv (I := fun b => b.bridgeEnabled = true → FlagsAgree b) ?_ ?_
  · exact fun _ _ hen => absurd hen Bool.false_ne_true
  · intro a br hi hg hC hen
    cases a with
    | switchBridge up =>
      have hup : up = true := (switchBridge_enabled up br).symm.trans hen
      exact (resetBridge_lowered up br).begin_agree ((resetBridge_enabled up br).trans hup)
    | createPort p portno name speed duplex =>
      have hbefore := hi (Act.enabled_eq (fun _ => Act.noConfusion) hg ▸ hen)
      refine flagsAgree_begin.port (fun b t hb _ _ => ?_)
        (List.mem_append_right _ List.mem_cons_self)
        (addPort_flagsAgree hbefore hg.1 portno name speed duplex)
      exact hb.frame (prssmToRoleSelection_frame t b) (fun _ => rfl) (fun _ => rfl) fun _ => rfl
    | createMsti mstid trees =>
      have hbefore := hi (Act.enabled_eq (fun _ => Act.noConfusion) hg ▸ hen)
      have hmem := insertAfterLast_mem hg.2.2.2.2
      exact flagsAgree_begin.tree ((hmem mstid).mpr (Or.inl rfl)) (addTree_flagsAgree hbefore hmem)
    | bridgeAddress _ | bridgeConfig _ | tables _ _ _ _ | configId _ _ =>
      have hbefore := hi (Act.enabled_eq (fun _ => Act.noConfusion) hg ▸ hen)
      exact flagsAgree_begin.restart
        (fun b b' hf hb => hb.frame hf (fun _ => rfl) (fun _ => rfl) fun _ => rfl) rfl hbefore
    | removePort p => exact (hi hen).removePort hC
    | removeMsti mstid => exact fun t ht => hi hen t (List.mem_of_mem_erase ht)
    | tcsm p t s =>
      have hbefore := hi (Act.enabled_eq (fun _ => Act.noConfusion) hg ▸ hen)
      exact hbefore.tcsm hg.2.1 hC.starts
    | idleSecond => exact hi hen
    | tick =>
      have hbefore : FlagsAgree { br with uptime := br.uptime + 1 } := hi hg
      exact hbefore.tick
    | _ =>
      have hbefore := hi (Act.enabled_eq (fun _ => Act.noConfusion) hg ▸ hen)
      exact hbefore.frame (Act.frame _ br) (fun _ => rfl) (fun _ => rfl) fun _ => rfl

/-- The flag of a tree says whether a timer of the tree runs; what raises it leaves a running
timer, and every tick brings that timer closer to its end. -/
theorem flags_agree_with_timers {br : Bridge} (hv : Visited keepsFlags br)
    (hen : br.bridgeEnabled = true) :
    (∀ t ∈ br.trees, (br.tree t).topologyChange = true ↔
        ∃ p ∈ br.ports, (br.ptp p t).tcWhile ≠ 0) ∧
      (∀ p t s, s.startsTimer = true → keepsFlags (.tcsm p t s) br →
        (((Act.tcsm p t s).run br).ptp p t).tcWhile ≠ 0) ∧
      ∀ p ∈ br.ports, ∀ t ∈ br.trees, (br.ptp p t).tcWhile ≠ 0 →
        ((Act.tick.run br).ptp p t).tcWhile < (br.ptp p t).tcWhile := by
  refine ⟨fun t ht => ?_, fun p t s hs hC => ?_, fun p hp t ht hrun => ?_⟩
  · rw [hv.flagsAgree hen t ht]
    exact someTcWhile_iff
  · exact tcsmTo_tcWhile hs (hC.starts hs)
  · have htick := bridgeTick_tcWhile { br with uptime := br.uptime + 1 } hp ht
    change ((bridgeTick { br with uptime := br.uptime + 1 }).ptp p t).tcWhile < _
    change _ ≤ (br.ptp p t).tcWhile - 1 at htick
    omega

/-! ## A flag without a timer -/

/-- The message of the region with the times that nothing checks at zero. -/
def hastyBpdu : Mem := fun o => if o = 29 ∨ o = 33 then 0 else regionBpdu o

def hastyOps : List Op :=
  [.createPort 1 1 "sw1p1" 1000 1,
    .setCistBridgeConfig
      { protocolVersion := some 0, bridgeMaxAge := some 6, bridgeForwardDelay := some 4 },
    .setBridgeEnable true, .setPortEnable 1 true 1000 1, .oneSecond, .oneSecond,
    .rxBpdu 1 hastyBpdu 102, .oneSecond, .oneSecond, .oneSecond, .oneSecond]

/-- A root whose Max Age and Forward Delay are zero raises a flag that no timer lowers. -/
theorem flag_without_timer : ¬ ∀ br, Reachable anyOp br → br.bridgeEnabled = true →
    ∀ t ∈ br.trees, (br.tree t).topologyChange = true ↔
      ∃ p ∈ br.ports, (br.ptp p t).tcWhile ≠ 0 := by
  have hrun : (sampleRun hastyOps).any (fun br => br.bridgeEnabled && br.trees.contains 0 &&
      (br.tree 0).topologyChange && !someTcWhile br 0) = true := by
    decide +kernel
  intro hclaim
  obtain ⟨br, hbr, hrun⟩ := (Option.any_eq_true _ _).mp hrun
  simp only [Bool.and_eq_true, List.contains_iff_mem, Bool.not_eq_true'] at hrun
  obtain ⟨⟨⟨hen, ht⟩, hflag⟩, hnone⟩ := hrun
  have hr : Reachable anyOp br := sampleRun_reachable (fun _ _ => trivial) hbr
  have hsome := someTcWhile_iff.mpr ((hclaim br hr hen 0 ht).mp hflag)
  exact Bool.false_ne_true (hnone.symm.trans hsome)

/-- A designated port that starts to forward. -/
def detectingActs : List Act :=
  [.createPort 1 1 "sw1p1" 1000 1,
    .bridgeConfig
      { protocolVersion := some 2, bridgeMaxAge := some 6, bridgeForwardDelay := some 4 },
    .switchBridge true, .linkUp 1 1000 1, .pism 1 0 .aged, .prssm 0, .pism 1 0 .update,
    .pism 1 0 .current, .prtsm 1 0 .designatedPort, .prtsm 1 0 .designatedRetired,
    .prtsm 1 0 .designatedPort, .prtsm 1 0 .designatedSynced, .prtsm 1 0 .designatedPort,
    .prtsm 1 0 .designatedAgreed, .prtsm 1 0 .designatedPort, .prtsm 1 0 .designatedPropose,
    .prtsm 1 0 .designatedPort, .prtsm 1 0 .designatedLearn, .prtsm 1 0 .designatedPort,
    .pstsm 1 0 .learning, .tcsm 1 0 .learning, .tick, .tick, .tick, .tick,
    .prtsm 1 0 .designatedForward, .prtsm 1 0 .designatedPort, .pstsm 1 0 .forwarding,
    .tcsm 1 0 .detected]

/-- The flag of a bridge whose only port has detected a change. -/
theorem detected_flag_agrees : ∃ br, Visited keepsFlags br ∧ br.bridgeEnabled = true ∧
    (br.tree 0).topologyChange = true ∧ (br.ptp 1 0).tcWhile ≠ 0 ∧
    ((Act.tick.run br).ptp 1 0).tcWhile < (br.ptp 1 0).tcWhile := by
  have hrun : (bridgeActs.attempt keepsFlags detectingActs
      (mstpInBridgeCreate sampleEnv 0x020000000001)).any (fun br =>
        br.bridgeEnabled && br.ports.contains 1 && br.trees.contains 0 &&
          (br.ptp 1 0).tcWhile != 0) = true := by
    decide +kernel
  obtain ⟨br, hbr, hrun⟩ := (Option.any_eq_true _ _).mp hrun
  simp only [Bool.and_eq_true, List.contains_iff_mem, bne_iff_ne] at hrun
  obtain ⟨⟨⟨hen, hp⟩, ht⟩, htimer⟩ := hrun
  have hv : Visited keepsFlags br := ⟨_, _, Labelled.attempt_leads hbr⟩
  obtain ⟨hflag, -, htick⟩ := flags_agree_with_timers hv hen
  exact ⟨br, hv, hen, (hflag 0 ht).mpr ⟨1, hp, htimer⟩, htimer, htick 1 hp 0 ht htimer⟩

end Mstpd
