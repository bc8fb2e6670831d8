import Mstpd.PortStates
import Mstpd.DryRun
import Mstpd.Trace

/-!
# The propagation of topology changes

A port that notices a change marks all other ports of the tree. Each of them flushes
its addresses in the same run, unless its topology change machine is about to notice a
change by itself.
-/

namespace Mstpd

open Bridge Machine

/-- Roles and port states fit together at every port; the kernel is left out. -/
abbrev StatesFit (br : Bridge) : Prop := PortStates (fun _ _ => True) br

theorem statesFit_begin : BeginInv StatesFit where
  prsm br p hi _ := hi.frame (prsmToDiscard_frame p br).mono
  ppmsm br p hi _ := hi.frame (ppmsmToCheckingRstp_frame p br).mono
  bdsm br p hi _ := hi.frame (bdsmTo_frame p _ br).mono
  ptsm br p hi _ := hi.frame (ptsmToTransmitInit_frame p br).mono
  pism br p t hi _ _ := hi.frame (pismBegin_frame p t br).mono
  initTree br t hi _ := hi.frame (prssmToInitTree_frame t br).mono
  prtsm _ p t hi _ _ := hi.prtsmToInitPort p t
  pstsm _ _ _ hi _ _ := (hi.pstsmTo ⟨rfl, rfl⟩).weaken fun _ _ _ _ _ => trivial
  tcsm br p t hi _ _ := hi.frame (tcsmToInactive_frame p t br).mono

theorem StatesFit.act {br : Bridge} (hi : StatesFit br) {a : Act} (o : Owned) [o.Within elsewhere]
    (ho : a.owned = o) : StatesFit (a.run br) :=
  hi.frame (Frame.mono (o := o) (ho ▸ Act.frame a br))

theorem Visited.statesFit {C : Act → Bridge → Prop} {br : Bridge} (h : Visited C br) :
    StatesFit br := by
  refine h.inv (fun env macaddr => ?_) fun a br hi hg _ => ?_
  · exact (portStates_create env macaddr).weaken fun _ _ _ _ _ => trivial
  · have hstep := portStates_step fun _ _ => True
    cases a with
    | createPort p portno name speed duplex =>
      refine statesFit_begin.port (fun b t hb _ _ => hstep.prssm b t hb ‹_› ‹_›)
        (List.mem_append_right _ List.mem_cons_self) ?_
      exact (hi.addPort p portno name speed duplex).weaken fun _ _ _ _ _ => trivial
    | createMsti mstid trees =>
      have hmem := insertAfterLast_mem hg.2.2.2.2
      refine statesFit_begin.tree ((hmem mstid).mpr (Or.inl rfl)) ?_
      exact (hi.addTree fun s hs => (hmem s).mp hs).weaken fun _ _ _ _ _ => trivial
    | switchBridge up => exact statesFit_begin.bridge (hi.resetBridge up)
    | bridgeAddress _ | bridgeConfig _ | tables _ _ _ _ | configId _ _ =>
      exact statesFit_begin.restart (fun b b' hf hb => hb.frame hf.mono) rfl hi
    | markDeleted p =>
      refine hi.shrink rfl rfl rfl (fun _ hq => hq) (fun _ hs => hs) fun q hdel => ?_
      simp only [Act.run, markDeleted, Bridge.setPort] at hdel
      split at hdel
      · cases hdel
      · exact hdel
    | removePort p =>
      exact hi.shrink rfl rfl rfl (fun _ hq => List.mem_of_mem_erase hq) (fun _ hs => hs)
        fun _ hd => hd
    | removeMsti t =>
      exact hi.shrink rfl rfl rfl (fun _ hq => hq) (fun _ hs => List.mem_of_mem_erase hs)
        fun _ hd => hd
    | prtsm p t s => exact hstep.prtsm br p t s hi hg.2.1 hg.2.2.1 hg.2.2.2
    | pstsm p t s => exact hstep.pstsm br p t s hi hg.2.1 hg.2.2.1 hg.2.2.2
    | assurance p => exact hstep.assurance br p hi hg.2
    | prsm p s => exact hstep.prsm br p s hi hg.2.1 hg.2.2
    | ppmsm p s => exact hstep.ppmsm br p s hi hg.2.1 hg.2.2
    | bdsm p s => exact hstep.bdsm br p s hi hg.2.1 hg.2.2
    | ptsm p s => exact hstep.ptsm br p s hi hg.2.1 hg.2.2
    | pism p t s => exact hstep.pism br p t s hi hg.2.1 hg.2.2.1 hg.2.2.2
    | prssm t => exact hstep.prssm br t hi hg.2.1 hg.2.2
    | tcsm p t s => exact hstep.tcsm br p t s hi hg.2.1 hg.2.2.1 hg.2.2.2
    | flushed p t =>
      rw [Act.run]
      exact hi.frame (Frame.setPtp fun _ => rfl)
    | tick | idleSecond => exact hi.act tickOwned rfl
    | linkUp _ _ _ | linkDown _ => exact hi.act linkOwned rfl
    | rxBpdu _ _ _ => exact hi.act rxOwned rfl
    | mstiBridgeConfig _ _ | portConfig _ _ | mstiPortConfig _ _ _ | mcheck _ | sysdeps _ _ _ =>
      exact hi.act managementOwned rfl

/-! ## Flushes are over when the call returns -/

structure FlushesDone (br : Bridge) : Prop where
  inCall : br.flushesLater = false
  done : ∀ p t, (br.ptp p t).fdbFlush = false

theorem FlushesDone.frame {br br' : Bridge} (hi : FlushesDone br) {o : Owned} (hf : Frame o br br')
    (hconfig : ∀ b : Bridge, (o.config b.config).flushesLater = b.flushesLater)
    (hptp : ∀ x, (o.ptp x).fdbFlush = x.fdbFlush) : FlushesDone br' where
  inCall := (hf.config_eq Bridge.flushesLater hconfig).trans hi.inCall
  done p t := (hf.ptp_eq PerTreePort.fdbFlush hptp p t).trans (hi.done p t)

theorem FlushesDone.setPtp {br : Bridge} (hi : FlushesDone br) (p : PortRef) (t : Mstid)
    {f : PerTreePort → PerTreePort} (hf : ∀ x, x.fdbFlush = false → (f x).fdbFlush = false) :
    FlushesDone (br.setPtp p t f) := by
  refine ⟨hi.inCall, fun q s => ?_⟩
  simp only [Bridge.setPtp]
  split
  · exact hf _ (hi.done _ _)
  · exact hi.done q s

theorem FlushesDone.setFdbFlush {br : Bridge} (hi : FlushesDone br) (p : PortRef) (t : Mstid) :
    FlushesDone (setFdbFlush p t br) := by
  rw [Mstpd.setFdbFlush]
  split
  · exact hi.setPtp p t fun _ _ => rfl
  · split
    · have hset := hi.setPtp p t (f := fun ptp =>
        { ptp with fdbFlush := br.flushesLater, calledFromFlushRoutine := false })
        fun _ _ => hi.inCall
      exact ⟨hset.inCall, hset.done⟩
    · have hcall : FlushesDone ((br.emit (.setAgeingTime p
          (br.cist p).designatedTimes.forwardDelay.toNat)).setPort p fun prt =>
            { prt with rapidAgeingWhile := (br.cist p).designatedTimes.forwardDelay.toNat }) :=
        ⟨hi.inCall, hi.done⟩
      exact hcall.setPtp p t fun _ _ => rfl

/-- All fields but those that a flush depends on and `fdbFlush` itself. -/
def besideFlushes : Owned where
  config b := { b with uptime := 0 }
  ptp x := { fdbFlush := x.fdbFlush }
  port x := { operEdge := x.operEdge, deleted := x.deleted }
  tree _ := {}
  out _ := false

section Entries

variable (p : PortRef) (t : Mstid) (br : Bridge)

theorem setNewInfo_besideFlushes : Frame besideFlushes br (setNewInfo p t br) :=
  Frame.setPort fun _ => rfl

theorem resetTopologyChange_besideFlushes : Frame besideFlushes br (resetTopologyChange t br) := by
  rw [resetTopologyChange]
  exact Frame.setTree fun _ => rfl

theorem newTcWhile_besideFlushes : Frame besideFlushes br (newTcWhile p t br) := by
  have htree : ∀ b, Frame besideFlushes b (setTopologyChange t p b) := fun _ =>
    Frame.setTree fun _ => rfl
  rw [newTcWhile]
  refine Frame.ite (Frame.refl _ _) (Frame.ite ?_ ?_)
  · exact Frame.after (setNewInfo_besideFlushes p t _)
      (Frame.after (htree _) (Frame.setPtp fun _ => rfl))
  · exact Frame.after (htree _) (Frame.setPtp fun _ => rfl)

theorem setTcPropTree_besideFlushes : Frame besideFlushes br (setTcPropTree p t br) :=
  Frame.setTreePtps fun _ _ => rfl

theorem tcsmTo_quiet {s : TcsmState} (hs : s.flushes = false) :
    Frame besideFlushes br (tcsmTo p t s br) := by
  cases s with
  | inactive => cases hs
  | propagating => cases hs
  | learning =>
    rw [tcsmTo, tcsmToLearning]
    exact Frame.after (Frame.setPtp fun _ => rfl) (Frame.setPort fun _ => rfl)
  | detected =>
    rw [tcsmTo, tcsmToDetected]
    exact Frame.after (setNewInfo_besideFlushes p t _) (Frame.after
      (setTcPropTree_besideFlushes p t _) (Frame.after (newTcWhile_besideFlushes p t _)
        (Frame.setPtp fun _ => rfl)))
  | notifiedTcn =>
    rw [tcsmTo, tcsmToNotifiedTcn]
    exact Frame.after (newTcWhile_besideFlushes p t _) (Frame.setPtp fun _ => rfl)
  | notifiedTc =>
    rw [tcsmTo, tcsmToNotifiedTc]
    exact Frame.after (setTcPropTree_besideFlushes p t _) (Frame.after (Frame.setPort fun _ => rfl)
      (Frame.setPtp fun _ => rfl))
  | acknowledged =>
    rw [tcsmTo, tcsmToAcknowledged]
    exact Frame.after (Frame.setPort fun _ => rfl)
      (Frame.after (resetTopologyChange_besideFlushes t _) (Frame.setPtp fun _ => rfl))
  | active =>
    rw [tcsmTo, tcsmToActive]
    exact Frame.setPtp fun _ => rfl

theorem tcsmTo_flushes {s : TcsmState} (hs : s.flushes = true) :
    ∃ b, Frame besideFlushes br b ∧
      Frame besideFlushes (setFdbFlush p t b) (tcsmTo p t s br) := by
  cases s with
  | inactive =>
    refine ⟨br.setPtp p t fun ptp => { ptp with tcsmState := .inactive },
      Frame.setPtp fun _ => rfl, ?_⟩
    rw [tcsmTo, tcsmToInactive]
    exact Frame.after (Frame.setPort fun _ => rfl) (Frame.after
      (resetTopologyChange_besideFlushes t _) (Frame.setPtp fun _ => rfl))
  | propagating =>
    refine ⟨newTcWhile p t (br.setPtp p t fun ptp => { ptp with tcsmState := .propagating }),
      Frame.after (newTcWhile_besideFlushes p t _) (Frame.setPtp fun _ => rfl), ?_⟩
    rw [tcsmTo, tcsmToPropagating]
    exact Frame.setPtp fun _ => rfl
  | _ => cases hs

theorem FlushesDone.tcsm {br : Bridge} (hi : FlushesDone br) (s : TcsmState) :
    FlushesDone (tcsmTo p t s br) := by
  have hkeep : ∀ {b b'}, Frame besideFlushes b b' → FlushesDone b → FlushesDone b' :=
    fun hf hb => hb.frame hf (fun _ => rfl) fun _ => rfl
  cases hs : s.flushes with
  | false => exact hkeep (tcsmTo_quiet p t br hs) hi
  | true =>
    obtain ⟨b, hbefore, hafter⟩ := tcsmTo_flushes p t br hs
    exact hkeep hafter ((hkeep hbefore hi).setFdbFlush p t)

end Entries

theorem flushesDone_begin : BeginInv FlushesDone where
  prsm br p hi _ := hi.frame (prsmToDiscard_frame p br) (fun _ => rfl) fun _ => rfl
  ppmsm br p hi _ := hi.frame (ppmsmToCheckingRstp_frame p br) (fun _ => rfl) fun _ => rfl
  bdsm br p hi _ := hi.frame (bdsmTo_frame p _ br) (fun _ => rfl) fun _ => rfl
  ptsm br p hi _ := hi.frame (ptsmToTransmitInit_frame p br) (fun _ => rfl) fun _ => rfl
  pism br p t hi _ _ := hi.frame (pismBegin_frame p t br) (fun _ => rfl) fun _ => rfl
  initTree br t hi _ := hi.frame (prssmToInitTree_frame t br) (fun _ => rfl) fun _ => rfl
  prtsm br p t hi _ _ := hi.frame (prtsmToInitPort_frame p t br) (fun _ => rfl) fun _ => rfl
  pstsm br p t hi _ _ := hi.frame (pstsmTo_frame p t .discarding br) (fun _ => rfl) fun _ => rfl
  tcsm _ p t hi _ _ := hi.tcsm p t .inactive

theorem Visited.flushesDone {C : Act → Bridge → Prop} {br : Bridge} (h : Visited C br) :
    FlushesDone br := by
  refine h.inv (fun _ _ => ⟨rfl, fun _ _ => rfl⟩) fun a br hi hg _ => ?_
  cases a with
  | createPort p portno name speed duplex =>
    refine flushesDone_begin.port (fun b t hb _ _ => ?_)
      (List.mem_append_right _ List.mem_cons_self) ⟨hi.inCall, fun q s => ?_⟩
    · exact hb.frame (prssmToRoleSelection_frame t b) (fun _ => rfl) fun _ => rfl
    · simp only [addPort, setPortPtps, Bridge.setPort]
      split
      · rfl
      · exact hi.done q s
  | createMsti mstid trees =>
    have hmem := insertAfterLast_mem hg.2.2.2.2
    refine flushesDone_begin.tree ((hmem mstid).mpr (Or.inl rfl)) ⟨hi.inCall, fun q s => ?_⟩
    simp only [addTree, setTreePtps, Bridge.setTree]
    split
    · rfl
    · exact hi.done q s
  | switchBridge up =>
    exact flushesDone_begin.bridge
      (hi.frame (resetBridge_frame up br) (fun _ => rfl) fun _ => rfl)
  | bridgeAddress _ | bridgeConfig _ | tables _ _ _ _ | configId _ _ =>
    exact flushesDone_begin.restart
      (fun b b' hf hb => hb.frame hf (fun _ => rfl) fun _ => rfl) rfl hi
  | tcsm p t s => exact hi.tcsm p t s
  | flushed p t =>
    rw [Act.run]
    exact hi.setPtp p t fun _ _ => rfl
  | _ => exact hi.frame (Act.frame _ br) (fun _ => rfl) fun _ => rfl

/-! ## Counting the requests to flush -/

/-- A request to flush the addresses of the port in the tree: directly, or by rapid ageing. -/
def MstpOut.flushes (p : PortRef) (t : Mstid) : MstpOut → Bool
  | .flushAllFids q s => q == p && s == t
  | .setAgeingTime q _ => q == p
  | _ => false

/-- How often the bridge has asked for a flush at the port. -/
def flushRequests (br : Bridge) (p : PortRef) (t : Mstid) : Nat :=
  br.out.countP (MstpOut.flushes p t)

theorem flushRequests_frame {br br' : Bridge} {o : Owned} (hf : Frame o br br')
    (hout : ∀ c : MstpOut, c.isFlush = true → o.out c = false) (p : PortRef) (t : Mstid) :
    flushRequests br' p t = flushRequests br p t := by
  have hfilter : ∀ b : Bridge, flushRequests b p t =
      (b.out.filter fun c => !o.out c).countP (MstpOut.flushes p t) := by
    intro b
    rw [flushRequests, List.countP_filter]
    refine List.countP_congr fun c _ => ?_
    cases c with
    | flushAllFids q s => simp [hout (.flushAllFids q s) rfl]
    | setAgeingTime q n => simp [hout (.setAgeingTime q n) rfl]
    | _ => simp [MstpOut.flushes]
  rw [hfilter br', hfilter br, hf.out]

section Requests

variable {p q : PortRef} {t s : Mstid} {br : Bridge}

theorem setFdbFlush_requests : flushRequests br q s ≤ flushRequests (setFdbFlush p t br) q s := by
  have hmore : ∀ c : MstpOut, flushRequests br q s ≤ (c :: br.out).countP (MstpOut.flushes q s) :=
    fun c => (List.sublist_cons_self c br.out).countP_le
  rw [setFdbFlush]
  split
  · exact Nat.le_refl _
  · split
    · exact hmore (.flushAllFids p t)
    · exact hmore (.setAgeingTime p _)

theorem setFdbFlush_asks (hedge : (br.port p).operEdge = false)
    (hdel : (br.port p).deleted = false) :
    flushRequests br p t < flushRequests (setFdbFlush p t br) p t := by
  have hnew : ∀ c : MstpOut, c.flushes p t = true →
      flushRequests br p t < (c :: br.out).countP (MstpOut.flushes p t) := fun c hc => by
    rw [List.countP_cons_of_pos hc, flushRequests]
    exact Nat.lt_succ_self _
  rw [setFdbFlush, hedge, hdel]
  split
  · rename_i h
    cases h
  · split
    · exact hnew (.flushAllFids p t) (by simp [MstpOut.flushes])
    · exact hnew (.setAgeingTime p _) (by simp [MstpOut.flushes])

theorem tcsmTo_requests {k : TcsmState} :
    flushRequests br q s ≤ flushRequests (tcsmTo p t k br) q s := by
  have hkeep : ∀ {b b'}, Frame besideFlushes b b' → flushRequests b' q s = flushRequests b q s :=
    fun hf => flushRequests_frame hf (fun _ _ => rfl) q s
  cases hk : k.flushes with
  | false => exact (hkeep (tcsmTo_quiet p t br hk)).ge
  | true =>
    obtain ⟨b, hbefore, hafter⟩ := tcsmTo_flushes p t br hk
    rw [hkeep hafter, ← hkeep hbefore]
    exact setFdbFlush_requests

theorem tcsmTo_asks {k : TcsmState} (hk : k.flushes = true)
    (hedge : (br.port p).operEdge = false) (hdel : (br.port p).deleted = false) :
    flushRequests br p t < flushRequests (tcsmTo p t k br) p t := by
  have hkeep : ∀ {b b'}, Frame besideFlushes b b' → flushRequests b' p t = flushRequests b p t :=
    fun hf => flushRequests_frame hf (fun _ _ => rfl) p t
  obtain ⟨b, hbefore, hafter⟩ := tcsmTo_flushes p t br hk
  have hport := hbefore.port_eq (fun x => (x.operEdge, x.deleted)) (fun _ => rfl) p
  simp only [Prod.mk.injEq] at hport
  rw [hkeep hafter, ← hkeep hbefore]
  exact setFdbFlush_asks (hport.1.trans hedge) (hport.2.trans hdel)

end Requests

/-! ## Marks -/

/-- What a mark is about: whether it is set, and the state that decides its fate. -/
def marks (x : PerTreePort) : TcsmState × Bool := (x.tcsmState, x.tcProp)

/-- All fields but the marks. -/
def besideMarks : Owned where
  config b := b
  ptp x := { tcsmState := x.tcsmState, tcProp := x.tcProp }
  port x := { deleted := x.deleted }
  tree _ := {}
  out _ := true

/-- The states whose entry takes the mark away. -/
def TcsmState.unmarks : TcsmState → Bool
  | .learning => true
  | .propagating => true
  | _ => false

/-- The states whose entry marks the other ports. -/
def TcsmState.spreads : TcsmState → Bool
  | .detected => true
  | .notifiedTc => true
  | _ => false

section Marks

variable (p q : PortRef) (t s : Mstid) (br : Bridge)

theorem newTcWhile_marks : marks ((newTcWhile p t br).ptp q s) = marks (br.ptp q s) := by
  have htree : ∀ b, Frame besideMarks b (setTopologyChange t p b) := fun _ =>
    Frame.setTree fun _ => rfl
  have hinfo : ∀ b, Frame besideMarks b (setNewInfo p t b) := fun _ => Frame.setPort fun _ => rfl
  have hframe : Frame besideMarks br (newTcWhile p t br) := by
    rw [newTcWhile]
    refine Frame.ite (Frame.refl _ _) (Frame.ite ?_ ?_)
    · exact Frame.after (hinfo _) (Frame.after (htree _) (Frame.setPtp fun _ => rfl))
    · exact Frame.after (htree _) (Frame.setPtp fun _ => rfl)
  exact hframe.ptp_eq marks (fun _ => rfl) q s

theorem setFdbFlush_marks : marks ((setFdbFlush p t br).ptp q s) = marks (br.ptp q s) := by
  have hframe : Frame besideMarks br (setFdbFlush p t br) := by
    rw [setFdbFlush]
    refine Frame.ite (Frame.setPtp fun _ => rfl) (Frame.ite ?_ ?_)
    · exact Frame.after (Frame.emit rfl) (Frame.setPtp fun _ => rfl)
    · exact Frame.after (Frame.setPtp fun _ => rfl)
        (Frame.after (Frame.setPort fun _ => rfl) (Frame.emit rfl))
  exact hframe.ptp_eq marks (fun _ => rfl) q s

theorem setPtp_marks (f : PerTreePort → PerTreePort) :
    marks ((br.setPtp p t f).ptp q s) =
      if q = p ∧ s = t then marks (f (br.ptp q s)) else marks (br.ptp q s) := by
  simp only [setPtp]
  split <;> rfl

/-- The ports that an entry function marks. -/
def reached (k : TcsmState) : Prop :=
  k.spreads = true ∧ (br.port p).restrictedTcn = false ∧ s = t ∧ q ∈ br.ports ∧ q ≠ p

instance (k : TcsmState) : Decidable (reached p q t s br k) := inferInstanceAs (Decidable (_ ∧ _))

theorem setTcPropTree_marks {k : TcsmState} (hk : k.spreads = true) :
    marks ((setTcPropTree p t br).ptp q s) =
      if reached p q t s br k then ((br.ptp q s).tcsmState, true) else marks (br.ptp q s) := by
  simp only [setTcPropTree, setTreePtps, reached, hk, true_and]
  by_cases hmem : s = t ∧ q ∈ br.ports
  · simp only [hmem, if_true, and_self, true_and, marks]
    cases (br.port p).restrictedTcn <;> by_cases hq : q = p <;> simp [hq]
  · rw [if_neg hmem, if_neg fun h => hmem ⟨h.2.1, h.2.2.1⟩]

/-- The marks after an entry function. -/
def marksAfter (k : TcsmState) : TcsmState × Bool :=
  if q = p ∧ s = t then (k, (br.ptp q s).tcProp && !k.unmarks)
  else if reached p q t s br k then ((br.ptp q s).tcsmState, true)
  else marks (br.ptp q s)

/-- An entry that marks no port writes its own marks only. -/
theorem marksAfter_quiet {k : TcsmState} (hk : k.spreads = false) {x : PerTreePort}
    (hx : marks x = if q = p ∧ s = t then (k, (br.ptp q s).tcProp && !k.unmarks)
      else marks (br.ptp q s)) : marks x = marksAfter p q t s br k := by
  have hnone : ¬ reached p q t s br k := fun h => Bool.false_ne_true (hk.symm.trans h.1)
  rw [hx, marksAfter, if_neg hnone]

theorem marksAfter_plain {k : TcsmState} (hk : k.spreads = false) (hu : k.unmarks = false)
    {x : PerTreePort}
    (hx : marks x = if q = p ∧ s = t then (k, (br.ptp q s).tcProp) else marks (br.ptp q s)) :
    marks x = marksAfter p q t s br k := by
  refine marksAfter_quiet p q t s br hk ?_
  rw [hx, hu, Bool.not_false, Bool.and_true]

theorem marksAfter_spread {k : TcsmState} (hk : k.spreads = true) (hu : k.unmarks = false)
    {b : Bridge} (hports : b.ports = br.ports)
    (hres : (b.port p).restrictedTcn = (br.port p).restrictedTcn)
    (hb : marks (b.ptp q s) = if q = p ∧ s = t then (k, (br.ptp q s).tcProp)
      else marks (br.ptp q s)) :
    marks ((setTcPropTree p t b).ptp q s) = marksAfter p q t s br k := by
  have hreached : reached p q t s b k ↔ reached p q t s br k := by
    rw [reached, reached, hports, hres]
  rw [setTcPropTree_marks p q t s b hk, marksAfter, hu, Bool.not_false, Bool.and_true]
  by_cases hself : q = p ∧ s = t
  · rw [if_pos hself, if_neg fun h => h.2.2.2.2 hself.1, hb, if_pos hself]
  · rw [if_neg hself, hb, if_neg hself]
    rw [if_neg hself] at hb
    by_cases hmark : reached p q t s br k
    · rw [if_pos (hreached.mpr hmark), if_pos hmark]
      exact congrArg (·, true) (Prod.mk.inj hb).1
    · rw [if_neg fun h => hmark (hreached.mp h), if_neg hmark]

theorem tcsmTo_marks (k : TcsmState) :
    marks ((tcsmTo p t k br).ptp q s) = marksAfter p q t s br k := by
  have hstart : ∀ f : PerTreePort → PerTreePort, (∀ x, marks (f x) = (k, x.tcProp)) →
      marks ((br.setPtp p t f).ptp q s) =
        if q = p ∧ s = t then (k, (br.ptp q s).tcProp) else marks (br.ptp q s) := fun f hf => by
    rw [setPtp_marks, hf]
  cases k with
  | inactive =>
    have hflush := (setFdbFlush_marks p q t s _).trans
      (hstart (fun ptp => { ptp with tcsmState := .inactive }) fun _ => rfl)
    refine marksAfter_plain p q t s br rfl rfl ?_
    refine (setPtp_marks p q t s _ fun ptp => { ptp with tcWhile := 0 }).trans ?_
    exact (ite_self _).trans hflush
  | learning =>
    refine marksAfter_quiet p q t s br rfl ?_
    rw [tcsmTo, tcsmToLearning, setPtp_marks]
    simp [marks, TcsmState.unmarks, setPort]
  | detected =>
    refine marksAfter_spread p q t s br (b := newTcWhile p t
      (br.setPtp p t fun ptp => { ptp with tcsmState := .detected })) rfl rfl ?_ ?_ ?_
    · exact (newTcWhile_frame p t _).ports_eq
    · exact (newTcWhile_frame p t _).port_eq Port.restrictedTcn (fun _ => rfl) p
    · rw [newTcWhile_marks]
      exact hstart _ fun _ => rfl
  | notifiedTcn =>
    refine marksAfter_plain p q t s br rfl rfl ?_
    rw [tcsmTo, tcsmToNotifiedTcn, newTcWhile_marks]
    exact hstart _ fun _ => rfl
  | notifiedTc =>
    refine marksAfter_spread p q t s br rfl rfl rfl ?_
      (hstart (fun ptp => { ptp with tcsmState := .notifiedTc, rcvdTc := false }) fun _ => rfl)
    simp only [setPort, if_true, setPtp]
  | propagating =>
    have hflush := (setFdbFlush_marks p q t s _).trans ((newTcWhile_marks p q t s _).trans
      (hstart (fun ptp => { ptp with tcsmState := .propagating }) fun _ => rfl))
    refine marksAfter_quiet p q t s br rfl ?_
    rw [tcsmTo, tcsmToPropagating, setPtp_marks]
    by_cases hself : q = p ∧ s = t
    · rw [if_pos hself] at hflush
      rw [if_pos hself, if_pos hself]
      exact Prod.ext (Prod.mk.inj hflush).1 (Bool.and_false _).symm
    · rw [if_neg hself, if_neg hself, hflush, if_neg hself]
  | acknowledged =>
    exact marksAfter_plain p q t s br rfl rfl
      (hstart (fun ptp => { ptp with tcsmState := .acknowledged, tcWhile := 0 }) fun _ => rfl)
  | active =>
    exact marksAfter_plain p q t s br rfl rfl
      (hstart (fun ptp => { ptp with tcsmState := .active }) fun _ => rfl)

end Marks

/-! ## What becomes of a mark -/

/-- The change has reached the port: it is marked, its machine is about to start anew, or it
has asked for a flush since. -/
def Informed (q : PortRef) (t : Mstid) (n : Nat) (br : Bridge) : Prop :=
  (br.ptp q t).tcProp = true ∨ (br.ptp q t).tcsmState = .inactive ∨
    (br.ptp q t).tcsmState = .learning ∨ n < flushRequests br q t

theorem Informed.frame {q : PortRef} {t : Mstid} {n : Nat} {br br' : Bridge}
    (h : Informed q t n br) {o : Owned} (hf : Frame o br br')
    (hptp : ∀ x, marks (o.ptp x) = marks x)
    (hout : ∀ c : MstpOut, c.isFlush = true → o.out c = false) : Informed q t n br' := by
  have hmarks := hf.ptp_eq marks hptp q t
  simp only [marks, Prod.mk.injEq] at hmarks
  rw [Informed, hmarks.1, hmarks.2, flushRequests_frame hf hout]
  exact h

/-- The states reached from those in which a port takes no part. -/
def TcsmState.starts : TcsmState → Bool
  | .inactive => true
  | .learning => true
  | .detected => true
  | _ => false

theorem tcsmNext_starts {br : Bridge} {p : PortRef} {t : Mstid} {k : TcsmState}
    (h : tcsmNext br p t = some k)
    (hidle : (br.ptp p t).tcsmState = .inactive ∨ (br.ptp p t).tcsmState = .learning) :
    k.starts = true := by
  rw [tcsmNext] at h
  rcases hidle with hstate | hstate <;> rw [hstate] at h <;> simp only at h
  all_goals split_ifs at h
  all_goals obtain rfl := Option.some.inj h
  all_goals rfl

theorem tcsmNext_propagating {br : Bridge} {p : PortRef} {t : Mstid}
    (h : tcsmNext br p t = some .propagating) : (br.port p).operEdge = false := by
  rw [tcsmNext] at h
  cases hstate : (br.ptp p t).tcsmState <;> rw [hstate] at h <;> simp only at h
  case active =>
    split at h
    · cases h
    · rename_i hgo
      exact (Bool.or_eq_false_iff.mp (Bool.eq_false_iff.mpr hgo)).2
  all_goals first | cases h | (split_ifs at h <;> cases h)

/-- Only a port that notices a change by itself may lose its mark without a flush. -/
theorem Informed.tcsm {p q : PortRef} {s t : Mstid} {n : Nat} {k : TcsmState} {br : Bridge}
    (h : Informed q t n br) (hn : n ≤ flushRequests br q t) (hnext : tcsmNext br p s = some k)
    (hself : ¬ (p = q ∧ s = t ∧ k = .detected)) (hdel : (br.port q).deleted = false) :
    Informed q t n (tcsmTo p s k br) := by
  have hmarks := tcsmTo_marks p q s t br k
  have hmore : flushRequests br q t ≤ flushRequests (tcsmTo p s k br) q t := tcsmTo_requests
  rw [marksAfter] at hmarks
  by_cases hown : q = p ∧ t = s
  · obtain ⟨rfl, rfl⟩ := hown
    rw [if_pos ⟨rfl, rfl⟩] at hmarks
    obtain ⟨hstate, hprop⟩ := Prod.mk.inj hmarks
    by_cases hstart : k.starts = true
    · cases k with
      | inactive => exact Or.inr (Or.inl hstate)
      | learning => exact Or.inr (Or.inr (Or.inl hstate))
      | detected => exact absurd ⟨rfl, rfl, rfl⟩ hself
      | _ => cases hstart
    · by_cases hflush : k = .propagating
      · subst hflush
        have hasks := tcsmTo_asks (t := t) (k := .propagating) rfl (tcsmNext_propagating hnext) hdel
        exact Or.inr (Or.inr (Or.inr (hn.trans_lt hasks)))
      · have hkeeps : k.unmarks = false := by
          cases k <;> first | rfl | exact absurd rfl hflush | exact absurd rfl hstart
        rcases h with h | h | h | h
        · refine Or.inl (hprop.trans ?_)
          rw [h, hkeeps]
          rfl
        · exact absurd (tcsmNext_starts hnext (Or.inl h)) hstart
        · exact absurd (tcsmNext_starts hnext (Or.inr h)) hstart
        · exact Or.inr (Or.inr (Or.inr (h.trans_le hmore)))
  · rw [if_neg hown] at hmarks
    split at hmarks
    · exact Or.inl (Prod.mk.inj hmarks).2
    · obtain ⟨hstate, hprop⟩ := Prod.mk.inj hmarks
      rw [Informed, hstate, hprop]
      rcases h with h | h | h | h
      · exact Or.inl h
      · exact Or.inr (Or.inl h)
      · exact Or.inr (Or.inr (Or.inl h))
      · exact Or.inr (Or.inr (Or.inr (h.trans_le hmore)))

/-! ## Runs -/

/-- The actions of the machines. -/
def inRun (a : Act) (_ : Bridge) : Prop := a.phase ≠ .idle

instance (a : Act) (br : Bridge) : Decidable (inRun a br) :=
  inferInstanceAs (Decidable (a.phase ≠ .idle))

theorem inRun.lists {a : Act} {br : Bridge} (h : inRun a br) :
    (a.run br).ports = br.ports ∧ (a.run br).trees = br.trees := by
  have hframe := Act.frame a br
  cases a with
  | assurance | prsm | ppmsm | bdsm | ptsm | pism | prssm | prtsm | pstsm | tcsm =>
    exact ⟨hframe.config_eq Bridge.ports fun _ => rfl, hframe.config_eq Bridge.trees fun _ => rfl⟩
  | _ => exact absurd rfl h

theorem inRun.deleted {a : Act} {br : Bridge} (h : inRun a br) (q : PortRef) :
    ((a.run br).port q).deleted = (br.port q).deleted := by
  have hframe := Act.frame a br
  cases a with
  | assurance | prsm | ppmsm | bdsm | ptsm | pism | prssm | prtsm | pstsm | tcsm =>
    exact hframe.port_eq Port.deleted (fun _ => rfl) q
  | _ => exact absurd rfl h

/-- What every action of a run preserves at a port that is not deleted. -/
structure Kept (ports : List PortRef) (q : PortRef) (t : Mstid) (n : Nat) (d : Bool)
    (br : Bridge) : Prop where
  ports_eq : br.ports = ports
  deleted : (br.port q).deleted = d
  asked : n ≤ flushRequests br q t
  informed : d = false → Informed q t n br

theorem Kept.step {ports : List PortRef} {q : PortRef} {t : Mstid} {n : Nat} {d : Bool}
    {br : Bridge} (h : Kept ports q t n d br) {a : Act} (ha : inRun a br) (hg : a.Guard br)
    (hself : a ≠ .tcsm q t .detected) : Kept ports q t n d (a.run br) := by
  have hframe := Act.frame a br
  refine ⟨ha.lists.1.trans h.ports_eq, (ha.deleted q).trans h.deleted, ?_, fun hd => ?_⟩
  · cases a with
    | tcsm p s k => exact h.asked.trans tcsmTo_requests
    | assurance | prsm | ppmsm | bdsm | ptsm | pism | prssm | prtsm | pstsm =>
      rw [flushRequests_frame hframe (fun c hc => by cases c <;> first | rfl | cases hc) q t]
      exact h.asked
    | _ => exact absurd rfl ha
  · cases a with
    | tcsm p s k =>
      refine (h.informed hd).tcsm h.asked hg.2.2.2 ?_ (h.deleted.trans hd)
      rintro ⟨rfl, rfl, rfl⟩
      exact hself rfl
    | assurance | prsm | ppmsm | bdsm | ptsm | pism | prssm | prtsm | pstsm =>
      exact (h.informed hd).frame hframe (fun _ => rfl)
        fun c hc => by cases c <;> first | rfl | cases hc
    | _ => exact absurd rfl ha

/-- The other ports are marked when a port notices a change. -/
theorem tcsmTo_informs {p q : PortRef} {t : Mstid} {k : TcsmState} {br : Bridge}
    (hk : k.spreads = true) (hres : (br.port p).restrictedTcn = false) (hq : q ∈ br.ports)
    (hne : q ≠ p) : ((tcsmTo p t k br).ptp q t).tcProp = true := by
  have hmarks := tcsmTo_marks p q t t br k
  rw [marksAfter, if_neg fun h => hne h.1, if_pos ⟨hk, hres, rfl, hq, hne⟩] at hmarks
  exact (Prod.mk.inj hmarks).2

theorem tcsmNext_of_quiet {br : Bridge} (h : Quiet br) {p : PortRef} {t : Mstid} (hp : p ∈ br.ports)
    (ht : t ∈ br.trees) : tcsmNext br p t = none := by
  have hdry := h.tcsm p hp t ht
  rw [tcsmDry_eq, tcsmStep, Option.isSome_map, Option.isSome_eq_false_iff,
    Option.isNone_iff_eq_none] at hdry
  exact hdry

/-- Where the machine of a forwarding port can rest. -/
theorem tcsm_rests_active {br : Bridge} {p : PortRef} {t : Mstid} (h : tcsmNext br p t = none)
    (hactive : activePort (br.ptp p t) = true) (hlearn : (br.ptp p t).learn = true)
    (hforward : (br.ptp p t).forward = true) (hedge : (br.port p).operEdge = false)
    (hflush : (br.ptp p t).fdbFlush = false) : (br.ptp p t).tcsmState = .active := by
  rw [tcsmNext] at h
  cases hstate : (br.ptp p t).tcsmState with
  | active => rfl
  | _ => simp [hstate, hactive, hlearn, hforward, hedge, hflush] at h

/-- Nothing is pending at a port whose machine rests. -/
theorem tcsm_rests_clean {br : Bridge} {p : PortRef} {t : Mstid} (h : tcsmNext br p t = none)
    (hstate : (br.ptp p t).tcsmState = .learning ∨ (br.ptp p t).tcsmState = .active) :
    (br.ptp p t).tcProp = false ∧ (br.ptp p t).rcvdTc = false := by
  rw [tcsmNext] at h
  rcases hstate with hstate | hstate <;> rw [hstate] at h <;> simp only at h
  all_goals split_ifs at h
  all_goals simp_all

theorem Fires.kept {q : PortRef} {t : Mstid} {l : List Move} {s : Phase × Bridge} {n : Nat}
    {d : Bool} {ports : List PortRef} (h : Kept ports q t n d s.2)
    (hrun : passActs.Fires (onActs inRun) l s)
    (hnone : Move.act (.tcsm q t .detected) ∉ l) : Kept ports q t n d (passActs.after l s).2 := by
  have hother : ∀ m ∈ l, m ≠ Move.act (.tcsm q t .detected) := fun m hm heq => hnone (heq ▸ hm)
  refine (hrun.and_mem hother).inv (I := fun s => Kept ports q t n d s.2) (fun m s hk hg hC => ?_) h
  cases m with
  | act a => exact hk.step hC.1 hg.1 fun heq => hC.2 (heq ▸ rfl)
  | proceed => exact hk

/-- A port that notices a change in a run, or is told of one, has made every other forwarding
port of the tree ask for a flush when the run is over, unless that port noticed a change too;
no mark is left over. -/
theorem change_reaches_ports {k : Phase} {b br : Bridge} {p : PortRef} {t : Mstid} {s : TcsmState}
    {l : List Move} (hv : VisitedAt anyAct k b) (hg : (Act.tcsm p t s).Guard b)
    (hat : (Act.tcsm p t s).At k) (hs : s.spreads = true) (hres : (b.port p).restrictedTcn = false)
    (hrun : passActs.Fires (onActs inRun) l (k, (Act.tcsm p t s).run b))
    (hend : passActs.after l (k, (Act.tcsm p t s).run b) = (.idle, br))
    (hquiet : brStateMachinesDry br = false) :
    (∀ q ∈ br.ports, q ≠ p → (br.ptp q t).forwarding = true → activePort (br.ptp q t) = true →
      (br.port q).operEdge = false → (br.port q).deleted = false →
        flushRequests ((Act.tcsm p t s).run b) q t < flushRequests br q t ∨
          Move.act (.tcsm q t .detected) ∈ l) ∧
      ∀ q ∈ br.ports, (br.ptp q t).tcsmState = .learning ∨ (br.ptp q t).tcsmState = .active →
        (br.ptp q t).tcProp = false ∧ (br.ptp q t).rcvdTc = false := by
  have hvr : Visited anyAct br := by
    have hva := hv.act hg hat trivial
    obtain ⟨env, macaddr, hlead⟩ := hva
    have hmono : passActs.Fires (onActs anyAct) l (k, (Act.tcsm p t s).run b) :=
      hrun.mono fun m _ _ => by cases m <;> trivial
    exact VisitedAt.visited (k := .idle) ⟨env, macaddr, hlead.trans ⟨l, hmono, hend⟩⟩
  have hlists : (br.ports, br.trees) =
      (((Act.tcsm p t s).run b).ports, ((Act.tcsm p t s).run b).trees) := by
    have hinv := hrun.inv (I := fun s' : Phase × Bridge => (s'.2.ports, s'.2.trees) =
      (((Act.tcsm p t s).run b).ports, ((Act.tcsm p t s).run b).trees))
      (fun m s' hi hg' hC => ?_) rfl
    · rwa [hend] at hinv
    · cases m with
      | act a => exact (Prod.ext (inRun.lists hC).1 (inRun.lists hC).2).trans hi
      | proceed => exact hi
  have hstart := (tcsmTo_frame p t s b).ports_eq
  obtain ⟨hports, htrees⟩ := Prod.mk.inj hlists
  have ht : t ∈ br.trees := htrees ▸ (tcsmTo_frame p t s b).trees_eq ▸ hg.2.2.1
  have hq := quiet_of_dry hquiet
  refine ⟨fun q hqp hne hfwd hactive hedge hdel => ?_, fun q hqp hstate => ?_⟩
  · by_cases hown : Move.act (.tcsm q t .detected) ∈ l
    · exact Or.inr hown
    · have hrest := tcsmNext_of_quiet hq hqp ht
      have hsafe := hvr.statesFit
      have hcaught := pstsmNext_none (hsafe.role q t) (hsafe.state q t) (hq.pstsm q hqp t ht)
      have hforward : (br.ptp q t).forward = true := hcaught.2 ▸ hfwd
      have hstate := tcsm_rests_active hrest hactive ((hsafe.role q t).learns hforward) hforward
        hedge (hvr.flushesDone.done q t)
      have hmarked : Informed q t (flushRequests ((Act.tcsm p t s).run b) q t)
          ((Act.tcsm p t s).run b) :=
        Or.inl (tcsmTo_informs hs hres (hstart ▸ hports ▸ hqp) hne)
      have hkept := Fires.kept (s := (k, (Act.tcsm p t s).run b))
        ⟨rfl, rfl, Nat.le_refl _, fun _ => hmarked⟩ hrun hown
      rw [hend] at hkept
      rcases hkept.informed (hkept.deleted ▸ hdel) with h | h | h | h
      · exact absurd (h.symm.trans (tcsm_rests_clean hrest (Or.inr hstate)).1) Bool.noConfusion
      · exact absurd (h.symm.trans hstate) TcsmState.noConfusion
      · exact absurd (h.symm.trans hstate) TcsmState.noConfusion
      · exact Or.inl h
  · exact tcsm_rests_clean (tcsmNext_of_quiet hq hqp ht) hstate

/-- Two ports, of which the first one forwards a second earlier. -/
def twoPortOps : List Op :=
  [.createPort 1 1 "sw1p1" 1000 1, .createPort 2 2 "sw1p2" 1000 1,
    .setCistBridgeConfig
      { protocolVersion := some 2, bridgeMaxAge := some 6, bridgeForwardDelay := some 4 },
    .setCistPortConfig 1 { autoEdgePort := some false },
    .setCistPortConfig 2 { autoEdgePort := some false }, .setBridgeEnable true,
    .setPortEnable 1 true 1000 1, .oneSecond, .setPortEnable 2 true 1000 1, .oneSecond, .oneSecond,
    .oneSecond, .oneSecond, .oneSecond, .oneSecond, .oneSecond]

/-- The second in which the other port follows. -/
def beforeChange : List Move :=
  [.act .tick, .proceed, .proceed, .proceed, .proceed, .proceed, .act (.ptsm 2 .transmitPeriodic),
    .act (.ptsm 2 .idle), .act (.ptsm 2 .transmitRstp), .act (.ptsm 2 .idle), .proceed, .proceed,
    .proceed, .act (.prtsm 2 0 .designatedForward), .act (.prtsm 2 0 .designatedPort), .proceed,
    .act (.pstsm 2 0 .forwarding), .proceed]

def afterChange : List Move :=
  [.act (.tcsm 2 0 .active), .proceed, .proceed, .proceed, .proceed, .proceed, .proceed,
    .act (.ptsm 2 .transmitRstp), .act (.ptsm 2 .idle), .proceed, .proceed, .proceed, .proceed,
    .proceed, .act (.tcsm 1 0 .propagating), .act (.tcsm 1 0 .active), .proceed]

/-- The port that forwards already asks for a flush when the other one starts to forward. -/
theorem sample_change_reaches_port : ∃ b br, VisitedAt anyAct .tcsm b ∧
    (Act.tcsm 2 0 .detected).Guard b ∧
    passActs.Fires (onActs inRun) afterChange (.tcsm, (Act.tcsm 2 0 .detected).run b) ∧
    passActs.after afterChange (.tcsm, (Act.tcsm 2 0 .detected).run b) = (.idle, br) ∧
    (br.ptp 1 0).forwarding = true ∧
    flushRequests ((Act.tcsm 2 0 .detected).run b) 1 0 < flushRequests br 1 0 := by
  have hrun : (sampleRun twoPortOps).any (fun br =>
      (passActs.attempt (onActs anyAct) beforeChange (.idle, br)).any fun s =>
        s.1 == .tcsm && decide ((Act.tcsm 2 0 .detected).Guard s.2) &&
          !(s.2.port 2).restrictedTcn &&
          (passActs.attempt (onActs inRun) afterChange
            (.tcsm, (Act.tcsm 2 0 .detected).run s.2)).any fun s' =>
              s'.1 == .idle && !brStateMachinesDry s'.2 && s'.2.ports.contains 1 &&
                (s'.2.ptp 1 0).forwarding && activePort (s'.2.ptp 1 0) &&
                !(s'.2.port 1).operEdge && !(s'.2.port 1).deleted) = true := by
    decide +kernel
  obtain ⟨br₀, hbr₀, hrun⟩ := (Option.any_eq_true _ _).mp hrun
  obtain ⟨⟨k, b⟩, hb, hrun⟩ := (Option.any_eq_true _ _).mp hrun
  simp only [Bool.and_eq_true, beq_iff_eq, decide_eq_true_eq, Bool.not_eq_true'] at hrun
  obtain ⟨⟨⟨rfl, hg⟩, hres⟩, hrun⟩ := hrun
  obtain ⟨⟨k', br⟩, hbr, hrun⟩ := (Option.any_eq_true _ _).mp hrun
  simp only [Bool.and_eq_true, beq_iff_eq, List.contains_iff_mem, Bool.not_eq_true'] at hrun
  obtain ⟨⟨⟨⟨⟨⟨rfl, hquiet⟩, hq⟩, hfwd⟩, hactive⟩, hedge⟩, hdel⟩ := hrun
  obtain ⟨env, macaddr, hlead⟩ :=
    (sampleRun_reachable (A := anyOp) (fun _ _ => trivial) hbr₀).visitedAt
  have hv : VisitedAt anyAct .tcsm b := ⟨env, macaddr, hlead.trans (Labelled.attempt_leads hb)⟩
  obtain ⟨hfires, hend⟩ := Labelled.attempt_fires hbr
  have hreach := (change_reaches_ports hv hg (Or.inl rfl) rfl hres hfires hend hquiet).1 1 hq
    (by decide) hfwd hactive hedge hdel
  have hnone : Move.act (.tcsm 1 0 .detected) ∉ afterChange := by simp [afterChange]
  exact ⟨b, br, hv, hg, hfires, hend, hfwd, hreach.resolve_right hnone⟩

end Mstpd
