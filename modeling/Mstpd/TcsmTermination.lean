import Mstpd.Propagation

/-!
# The topology change machine comes to rest

From any state of a port, its bridge and its tree, the calls of the topology change machine
end. Each transition uses up a received message or a mark, or it brings the machine closer to
one of the states in which it waits. The end of a flush is signalled inside the call that asks
for it or later; the machine is not entered anew in either case.
-/

namespace Mstpd

open Bridge Machine

/-! ## What the machine reads -/

/-- The fields that decide about the next state of the machine. -/
structure TcsmView where
  state : TcsmState
  activePort : Bool
  forward : Bool
  learn : Bool
  learning : Bool
  operEdge : Bool
  rcvdTc : Bool
  tcProp : Bool
  rcvdTcn : Bool
  rcvdTcAck : Bool

/-- What the port has received counts for the CIST only. -/
def tcsmView (br : Bridge) (p : PortRef) (t : Mstid) : TcsmView where
  state := (br.ptp p t).tcsmState
  activePort := Mstpd.activePort (br.ptp p t)
  forward := (br.ptp p t).forward
  learn := (br.ptp p t).learn
  learning := (br.ptp p t).learning
  operEdge := (br.port p).operEdge
  rcvdTc := (br.ptp p t).rcvdTc
  tcProp := (br.ptp p t).tcProp
  rcvdTcn := t == 0 && (br.port p).rcvdTcn
  rcvdTcAck := t == 0 && (br.port p).rcvdTcAck

/-- The states whose entry clears `rcvdTc` and `rcvdTcn`. -/
def TcsmState.hears : TcsmState → Bool
  | .learning => true
  | .notifiedTc => true
  | _ => false

/-- The states whose entry clears `rcvdTcAck`. -/
def TcsmState.acknowledges : TcsmState → Bool
  | .learning => true
  | .acknowledged => true
  | _ => false

/-- An entry function, as far as the machine reads what it writes. -/
def TcsmView.enter (v : TcsmView) (s : TcsmState) : TcsmView :=
  { v with
    state := s, rcvdTc := v.rcvdTc && !s.hears, tcProp := v.tcProp && !s.unmarks
    rcvdTcn := v.rcvdTcn && !s.hears, rcvdTcAck := v.rcvdTcAck && !s.acknowledges }

/-- All fields but those that hold what a port has received. -/
def besideMessages : Owned where
  config _ := {}
  ptp x := { rcvdTc := x.rcvdTc }
  port x := { rcvdTcn := x.rcvdTcn, rcvdTcAck := x.rcvdTcAck }
  tree _ := {}
  out _ := true

section Messages

variable (p : PortRef) (t : Mstid) (br : Bridge)

theorem newTcWhile_besideMessages : Frame besideMessages br (newTcWhile p t br) := by
  have htree : ∀ b, Frame besideMessages b (setTopologyChange t p b) := fun _ =>
    Frame.setTree fun _ => rfl
  have hinfo : ∀ b, Frame besideMessages b (setNewInfo p t b) := fun _ => Frame.setPort fun _ => rfl
  rw [newTcWhile]
  refine Frame.ite (Frame.refl _ _) (Frame.ite ?_ ?_)
  · exact Frame.after (hinfo _) (Frame.after (htree _) (Frame.setPtp fun _ => rfl))
  · exact Frame.after (htree _) (Frame.setPtp fun _ => rfl)

theorem setFdbFlush_besideMessages : Frame besideMessages br (setFdbFlush p t br) := by
  rw [setFdbFlush]
  refine Frame.ite (Frame.setPtp fun _ => rfl) (Frame.ite ?_ ?_)
  · exact Frame.after (Frame.emit rfl) (Frame.setPtp fun _ => rfl)
  · exact Frame.after (Frame.setPtp fun _ => rfl)
      (Frame.after (Frame.setPort fun _ => rfl) (Frame.emit rfl))

theorem resetTopologyChange_besideMessages :
    Frame besideMessages br (resetTopologyChange t br) := by
  rw [resetTopologyChange]
  exact Frame.setTree fun _ => rfl

/-- The messages of a port and of one of its entries. -/
def messages (b : Bridge) : Bool × Bool × Bool :=
  ((b.ptp p t).rcvdTc, t == 0 && (b.port p).rcvdTcn, t == 0 && (b.port p).rcvdTcAck)

theorem messages_frame {b b' : Bridge} (h : Frame besideMessages b b') :
    messages p t b' = messages p t b := by
  have hport := h.port_eq (fun x => (x.rcvdTcn, x.rcvdTcAck)) (fun _ => rfl) p
  simp only [Prod.mk.injEq] at hport
  rw [messages, messages, h.ptp_eq PerTreePort.rcvdTc (fun _ => rfl) p t, hport.1, hport.2]

theorem tcsmTo_messages (s : TcsmState) :
    messages p t (tcsmTo p t s br) =
      ((br.ptp p t).rcvdTc && !s.hears, (t == 0 && (br.port p).rcvdTcn) && !s.hears,
        (t == 0 && (br.port p).rcvdTcAck) && !s.acknowledges) := by
  have hkeep : s.hears = false → s.acknowledges = false →
      Frame besideMessages br (tcsmTo p t s br) → messages p t (tcsmTo p t s br) =
        ((br.ptp p t).rcvdTc && !s.hears, (t == 0 && (br.port p).rcvdTcn) && !s.hears,
          (t == 0 && (br.port p).rcvdTcAck) && !s.acknowledges) := by
    intro hhears hack hframe
    rw [messages_frame p t hframe, messages, hhears, hack]
    simp
  cases s with
  | inactive =>
    refine hkeep rfl rfl ?_
    rw [tcsmTo, tcsmToInactive]
    refine Frame.after (Frame.setPort fun _ => rfl) ?_
    refine Frame.after (resetTopologyChange_besideMessages t _) ?_
    refine Frame.after (Frame.setPtp fun _ => rfl) ?_
    exact Frame.after (setFdbFlush_besideMessages p t _) (Frame.setPtp fun _ => rfl)
  | learning =>
    simp only [tcsmTo, tcsmToLearning, messages, setPtp, setPort, if_true, and_self]
    by_cases ht : t = 0 <;> simp [ht, TcsmState.hears, TcsmState.acknowledges]
  | detected =>
    refine hkeep rfl rfl ?_
    rw [tcsmTo, tcsmToDetected]
    refine Frame.after (Frame.setPort fun _ => rfl) ?_
    refine Frame.after (Frame.setTreePtps fun _ _ => rfl) ?_
    exact Frame.after (newTcWhile_besideMessages p t _) (Frame.setPtp fun _ => rfl)
  | notifiedTcn =>
    refine hkeep rfl rfl ?_
    rw [tcsmTo, tcsmToNotifiedTcn]
    exact Frame.after (newTcWhile_besideMessages p t _) (Frame.setPtp fun _ => rfl)
  | notifiedTc =>
    rw [tcsmTo, tcsmToNotifiedTc]
    have hspread : ∀ b, Frame besideMessages b (setTcPropTree p t b) := fun _ =>
      Frame.setTreePtps fun _ _ => rfl
    refine (messages_frame p t (hspread _)).trans ?_
    simp only [messages, setPtp, setPort, if_true, and_self]
    by_cases ht : t = 0 <;> simp [ht, TcsmState.hears, TcsmState.acknowledges]
  | propagating =>
    refine hkeep rfl rfl ?_
    rw [tcsmTo, tcsmToPropagating]
    refine Frame.after (Frame.setPtp fun _ => rfl) ?_
    refine Frame.after (setFdbFlush_besideMessages p t _) ?_
    exact Frame.after (newTcWhile_besideMessages p t _) (Frame.setPtp fun _ => rfl)
  | acknowledged =>
    have hbefore : Frame besideMessages br (resetTopologyChange t
        (br.setPtp p t fun ptp => { ptp with tcsmState := .acknowledged, tcWhile := 0 })) :=
      Frame.after (resetTopologyChange_besideMessages t _) (Frame.setPtp fun _ => rfl)
    have hsame := messages_frame p t hbefore
    simp only [messages, Prod.mk.injEq] at hsame
    simp only [tcsmTo, tcsmToAcknowledged, messages, setPort, if_true]
    simp [hsame.1, hsame.2.1, TcsmState.hears, TcsmState.acknowledges]
  | active =>
    refine hkeep rfl rfl ?_
    rw [tcsmTo, tcsmToActive]
    exact Frame.setPtp fun _ => rfl

theorem tcsmTo_view (s : TcsmState) :
    tcsmView (tcsmTo p t s br) p t = (tcsmView br p t).enter s := by
  have hframe := tcsmTo_frame p t s br
  have hedge := hframe.port_eq Port.operEdge (fun _ => rfl) p
  have hentry := hframe.ptp_eq (fun x => (activePort x, x.forward, x.learn, x.learning))
    (fun _ => rfl) p t
  have hmarks := tcsmTo_marks p p t t br s
  have hmessages := tcsmTo_messages p t br s
  rw [marksAfter, if_pos ⟨rfl, rfl⟩] at hmarks
  simp only [marks, messages, Prod.mk.injEq] at hentry hmarks hmessages
  simp only [tcsmView, TcsmView.enter, TcsmView.mk.injEq]
  exact ⟨hmarks.1, hentry.1, hentry.2.1, hentry.2.2.1, hentry.2.2.2, hedge, hmessages.1, hmarks.2,
    hmessages.2.1, hmessages.2.2⟩

end Messages

/-! ## The way to rest -/

/-- `NOTIFIED_TCN` is on its way to clear `rcvdTcn`. -/
def TcsmState.clearing : TcsmState → Bool
  | .notifiedTcn => true
  | _ => false

/-- Messages and marks that wait. -/
def TcsmView.waiting (v : TcsmView) : Nat :=
  v.rcvdTc.toNat + v.tcProp.toNat + v.rcvdTcAck.toNat + (v.rcvdTcn && !v.state.clearing).toNat

/-- Transitions to the next state of rest when nothing waits. -/
def TcsmView.ahead (v : TcsmView) : Nat :=
  match v.state with
  | .inactive => if v.learn then 6 else 0
  | .learning => if v.activePort && v.forward && !v.operEdge then 5 else 1
  | .notifiedTcn => 5
  | .detected => 4
  | .notifiedTc => 4
  | .propagating => 4
  | .acknowledged => 4
  | .active => if !v.activePort || v.operEdge then 3 else 1

def TcsmView.left (v : TcsmView) : Nat := 8 * v.waiting + v.ahead

theorem TcsmView.left_lt (v : TcsmView) : v.left < 39 := by
  have hwaiting : v.waiting ≤ 4 := by
    have hle := fun b : Bool => b.toNat_le
    have h₁ := hle v.rcvdTc
    have h₂ := hle v.tcProp
    have h₃ := hle v.rcvdTcAck
    have h₄ := hle (v.rcvdTcn && !v.state.clearing)
    rw [waiting]
    omega
  have hahead : v.ahead ≤ 6 := by
    rw [ahead]
    split <;> (try split) <;> omega
  rw [left]
  omega

/-- `tcsmNext`, from what it reads. -/
def TcsmView.next (v : TcsmView) (flushing : Bool) : Option TcsmState :=
  match v.state with
  | .inactive => if v.learn && !flushing then some .learning else none
  | .learning =>
    if v.activePort && v.forward && !v.operEdge then some .detected
    else if v.rcvdTc || v.tcProp || (v.rcvdTcn || v.rcvdTcAck) then some .learning
    else if !v.activePort && !(v.learn || v.learning) then some .inactive
    else none
  | .notifiedTcn => some .notifiedTc
  | .detected => some .active
  | .notifiedTc => some .active
  | .propagating => some .active
  | .acknowledged => some .active
  | .active =>
    if !v.activePort || v.operEdge then some .learning
    else if v.rcvdTcn then some .notifiedTcn
    else if v.rcvdTc then some .notifiedTc
    else if v.tcProp then some .propagating
    else if v.rcvdTcAck then some .acknowledged
    else none

theorem tcsmNext_view (br : Bridge) (p : PortRef) (t : Mstid) :
    tcsmNext br p t = (tcsmView br p t).next (br.ptp p t).fdbFlush := by
  simp only [tcsmNext, TcsmView.next, tcsmView, Bool.and_or_distrib_left]
  cases (br.ptp p t).tcsmState <;> rfl

section Lowers

variable {v : TcsmView}

/-- Entering `LEARNING` leaves nothing that waits. -/
theorem TcsmView.left_learning : (v.enter .learning).left = (v.enter .learning).ahead := by
  have hwaiting : (v.enter .learning).waiting = 0 := by
    simp [waiting, enter, TcsmState.hears, TcsmState.acknowledges, TcsmState.unmarks]
  rw [left, hwaiting]
  omega

theorem TcsmView.ahead_learning : (v.enter .learning).ahead ≤ 5 := by
  by_cases hforward : (v.activePort && v.forward && !v.operEdge) = true
  · simp [ahead, enter, hforward]
  · simp [ahead, enter, Bool.not_eq_true _ ▸ hforward]

theorem TcsmView.ahead_active : (v.enter .active).ahead ≤ 3 := by
  by_cases hdown : (!v.activePort || v.operEdge) = true
  · simp [ahead, enter, hdown]
  · simp [ahead, enter, Bool.not_eq_true _ ▸ hdown]

/-- Every state that only passes on to `ACTIVE` keeps what waits. -/
theorem TcsmView.left_active (hclearing : v.state.clearing = false) (hahead : v.ahead = 4) :
    (v.enter .active).left < v.left := by
  have hwaiting : (v.enter .active).waiting = v.waiting := by
    rw [waiting, waiting, hclearing]
    simp [enter, TcsmState.hears, TcsmState.acknowledges, TcsmState.unmarks, TcsmState.clearing]
  have hle : (v.enter .active).ahead ≤ 3 := ahead_active
  rw [left, left, hwaiting, hahead]
  omega

/-- From `LEARNING`. -/
theorem TcsmView.next_lowers_learning {s : TcsmState} {flushing : Bool} (hs : v.state = .learning)
    (h : v.next flushing = some s) : (v.enter s).left < v.left := by
  simp only [next, hs] at h
  split_ifs at h with hforward hmessage hdown
  · obtain rfl := Option.some.inj h
    have hahead : v.ahead = 5 := by
      simp_all [ahead]
    have hdetected : (v.enter .detected).left = 8 * v.waiting + 4 := by
      simp [left, waiting, ahead, enter, hs, TcsmState.hears, TcsmState.acknowledges,
        TcsmState.unmarks, TcsmState.clearing]
    rw [hdetected, left]
    omega
  · obtain rfl := Option.some.inj h
    have hahead : (v.enter .learning).ahead ≤ 5 := ahead_learning
    have hwaiting : 0 < v.waiting := by
      simp only [Bool.or_eq_true] at hmessage
      simp only [waiting, hs, TcsmState.clearing]
      rcases hmessage with (h₁ | h₁) | h₁ | h₁ <;>
        simp only [h₁, Bool.toNat_true, Bool.not_false, Bool.and_true] <;> omega
    rw [left_learning, left]
    omega
  · obtain rfl := Option.some.inj h
    simp only [Bool.or_eq_true, not_or, Bool.not_eq_true] at hmessage
    simp_all [left, waiting, ahead, enter, TcsmState.clearing]

/-- From `ACTIVE`. What waits goes down when one of the messages is taken up. -/
theorem TcsmView.next_lowers_active {s : TcsmState} {flushing : Bool} (hs : v.state = .active)
    (h : v.next flushing = some s) : (v.enter s).left < v.left := by
  have htaken : (v.enter s).waiting + 1 ≤ v.waiting → (v.enter s).ahead ≤ 6 →
      (v.enter s).left < v.left := by
    intro hwaiting hahead
    rw [left, left]
    omega
  simp only [next, hs] at h
  split_ifs at h with hdown htcn htc hprop hack
  · obtain rfl := Option.some.inj h
    have hahead : v.ahead = 3 := by
      simp only [ahead, hs]
      rw [if_pos hdown]
    have hidle : (v.enter .learning).ahead = 1 := by
      simp only [Bool.or_eq_true, Bool.not_eq_true'] at hdown
      rcases hdown with h₁ | h₁ <;> simp [ahead, enter, h₁]
    rw [left_learning, left]
    omega
  · obtain rfl := Option.some.inj h
    refine htaken ?_ ?_
    · simp only [waiting, enter, hs, htcn]
      simp [TcsmState.hears, TcsmState.acknowledges, TcsmState.unmarks, TcsmState.clearing]
    · simp [ahead, enter]
  · obtain rfl := Option.some.inj h
    refine htaken ?_ ?_
    · simp only [waiting, enter, hs, htc, TcsmState.hears, TcsmState.acknowledges,
        TcsmState.unmarks, TcsmState.clearing, Bool.not_true, Bool.not_false, Bool.and_true,
        Bool.and_false, Bool.toNat_true, Bool.toNat_false]
      omega
    · simp [ahead, enter]
  · obtain rfl := Option.some.inj h
    refine htaken ?_ ?_
    · simp only [waiting, enter, hs, hprop, TcsmState.hears, TcsmState.acknowledges,
        TcsmState.unmarks, TcsmState.clearing, Bool.not_true, Bool.not_false, Bool.and_true,
        Bool.and_false, Bool.toNat_true, Bool.toNat_false]
      omega
    · simp [ahead, enter]
  · obtain rfl := Option.some.inj h
    refine htaken ?_ ?_
    · simp only [waiting, enter, hs, hack, TcsmState.hears, TcsmState.acknowledges,
        TcsmState.unmarks, TcsmState.clearing, Bool.not_true, Bool.not_false, Bool.and_true,
        Bool.and_false, Bool.toNat_true, Bool.toNat_false]
      omega
    · simp [ahead, enter]

theorem TcsmView.next_lowers {flushing : Bool} {s : TcsmState}
    (h : v.next flushing = some s) : (v.enter s).left < v.left := by
  cases hs : v.state with
  | inactive =>
    simp only [next, hs] at h
    split_ifs at h with hlearn
    obtain rfl := Option.some.inj h
    have hahead : v.ahead = 6 := by
      simp_all [ahead]
    have hle : (v.enter .learning).ahead ≤ 5 := ahead_learning
    rw [left_learning, left]
    omega
  | learning => exact next_lowers_learning hs h
  | active => exact next_lowers_active hs h
  | notifiedTcn =>
    simp only [next, hs] at h
    obtain rfl := Option.some.inj h
    have hwaiting : (v.enter .notifiedTc).waiting ≤ v.waiting := by
      simp only [waiting, enter, hs]
      simp [TcsmState.hears, TcsmState.acknowledges, TcsmState.unmarks, TcsmState.clearing]
    have hahead : v.ahead = 5 := by
      simp only [ahead, hs]
    have hnext : (v.enter .notifiedTc).ahead = 4 := by
      simp only [ahead, enter]
    rw [left, left]
    omega
  | detected | notifiedTc | propagating | acknowledged =>
    simp only [next, hs] at h
    obtain rfl := Option.some.inj h
    apply left_active
    · rw [hs]
      rfl
    · simp only [ahead, hs]

end Lowers

/-! ## The machine with its driver -/

/-- `MSTP_OUT_flush_all_fids`. A driver that has the addresses flushed at once signals the end
from inside the call. -/
def mstpOutFlushAllFids (env : Env) (p : PortRef) (t : Mstid) (br : Bridge) : Option Bridge :=
  let br := br.emit (.flushAllFids p t)
  if br.flushesLater then some br else mstpInAllFidsFlushed env p t br

/-- `set_fdbFlush` with the call of the driver written out. -/
def setFdbFlushSignalled (env : Env) (p : PortRef) (t : Mstid) (br : Bridge) : Option Bridge :=
  let prt := br.port p
  if prt.operEdge || prt.deleted then
    some (br.setPtp p t fun ptp => { ptp with fdbFlush := false })
  else if br.rstpVersion then
    let br := br.setPtp p t fun ptp => { ptp with fdbFlush := true, calledFromFlushRoutine := true }
    (mstpOutFlushAllFids env p t br).map fun br =>
      br.setPtp p t fun ptp => { ptp with calledFromFlushRoutine := false }
  else
    let fwdDelay := (br.cist p).designatedTimes.forwardDelay.toNat
    let br := br.emit (.setAgeingTime p fwdDelay)
    let br := br.setPort p fun prt => { prt with rapidAgeingWhile := fwdDelay }
    some (br.setPtp p t fun ptp => { ptp with fdbFlush := false })

section Signal

variable (env : Env) (p : PortRef) (t : Mstid) (br : Bridge)

theorem setPtp_setPtp (f g : PerTreePort → PerTreePort) :
    (br.setPtp p t f).setPtp p t g = br.setPtp p t fun x => g (f x) := by
  simp only [setPtp]
  congr 1
  funext q s
  by_cases h : q = p ∧ s = t
  · rw [if_pos h, if_pos h, if_pos h]
  · rw [if_neg h, if_neg h, if_neg h]

theorem emit_setPtp (o : MstpOut) (f : PerTreePort → PerTreePort) :
    (br.emit o).setPtp p t f = (br.setPtp p t f).emit o := rfl

theorem mstpOutFlushAllFids_called (hcalled : (br.ptp p t).calledFromFlushRoutine = true) :
    mstpOutFlushAllFids env p t br = some ((br.setPtp p t fun ptp =>
      { ptp with fdbFlush := br.flushesLater && ptp.fdbFlush }).emit (.flushAllFids p t)) := by
  have hlater : (br.emit (.flushAllFids p t)).flushesLater = br.flushesLater := rfl
  simp only [mstpOutFlushAllFids, hlater]
  cases br.flushesLater with
  | true =>
    rw [if_pos rfl]
    have hsame : br.setPtp p t (fun ptp => { ptp with fdbFlush := true && ptp.fdbFlush }) = br := by
      simp [setPtp]
    rw [hsame]
  | false =>
    rw [if_neg Bool.false_ne_true, mstpInAllFidsFlushed, if_neg]
    · rfl
    · simp [emit, hcalled]

/-- The signal takes no transition of its own: the machine is not entered again. -/
theorem setFdbFlushSignalled_eq :
    setFdbFlushSignalled env p t br = some (setFdbFlush p t br) := by
  rw [setFdbFlushSignalled, setFdbFlush]
  split_ifs with hquiet hrstp
  · rfl
  · dsimp only
    rw [mstpOutFlushAllFids_called, Option.map_some, emit_setPtp, setPtp_setPtp, setPtp_setPtp]
    · simp [setPtp]
    · simp
  · rfl

end Signal

theorem tcsmStep_lowers {p : PortRef} {t : Mstid} {br br' : Bridge} {again : Bool}
    (h : tcsmStep p t br = some (br', again)) :
    again = true ∧ (tcsmView br' p t).left < (tcsmView br p t).left := by
  rw [tcsmStep, Option.map_eq_some_iff] at h
  obtain ⟨s, hnext, heq⟩ := h
  obtain ⟨rfl, rfl⟩ := Prod.mk.inj heq
  refine ⟨rfl, ?_⟩
  rw [tcsmTo_view]
  apply TcsmView.next_lowers
  rw [← tcsmNext_view]
  exact hnext

/-- The calls of `TCSM_run` end in a state in which the machine waits, and the test of
`TCSM_run` for a further transition fails there. No transition is taken inside a flush. -/
theorem tcsm_ends (env : Env) (p : PortRef) (t : Mstid) (br : Bridge) :
    (∀ b, setFdbFlushSignalled env p t b = some (setFdbFlush p t b)) ∧
      ∃ br', (∀ fuel, 39 ≤ fuel → run (tcsmStep p t) fuel br = some br') ∧
        tcsmDry br' p t = false ∧
        ((br'.ptp p t).tcsmState = .inactive ∨ (br'.ptp p t).tcsmState = .learning ∨
          (br'.ptp p t).tcsmState = .active) := by
  refine ⟨setFdbFlushSignalled_eq env p t, ?_⟩
  obtain ⟨br', hrun⟩ := run_of_measure (I := fun _ => True) (fun b => (tcsmView b p t).left)
    (fun b b' again _ h => ⟨trivial, (tcsmStep_lowers h).2⟩) trivial (tcsmView br p t).left_lt
  refine ⟨br', fun fuel hfuel => run_mono hfuel hrun, ?_⟩
  have hnext : tcsmNext br' p t = none := by
    rcases run_stops hrun with h | ⟨b, h⟩
    · rw [tcsmStep, Option.map_eq_none_iff] at h
      exact h
    · exact absurd (tcsmStep_lowers h).1 Bool.false_ne_true
  constructor
  · simp only [tcsmDry, hnext]
  · cases hs : (br'.ptp p t).tcsmState <;> simp_all [tcsmNext]

end Mstpd
