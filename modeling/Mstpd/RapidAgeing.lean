import Mstpd.BridgeConfig
import Mstpd.OnePort
import Mstpd.PortStates

/-!
# Rapid ageing and its end

With STP a topology change makes the kernel age its addresses with the forward delay, and a
counter of the port restores the configured time. Nothing restores it when the counter
starts at zero, or when the last port that counts is deleted.
-/

namespace Mstpd

open Bridge

/-! ## Calls and counters -/

def MstpOut.isAgeing : MstpOut → Bool
  | .setAgeingTime _ _ => true
  | _ => false

/-- The ageing time passed to the kernel last. -/
def lastAgeing (br : Bridge) : Option Nat :=
  br.out.findSome? fun
    | .setAgeingTime _ time => some time
    | _ => none

def ageingCalls (br : Bridge) : Nat := br.out.countP MstpOut.isAgeing

/-- The delay with which `set_fdbFlush` starts rapid ageing at the port. -/
def rapidDelay (br : Bridge) (p : PortRef) : Nat := (br.cist p).designatedTimes.forwardDelay.toNat

/-- `set_fdbFlush` starts rapid ageing at the port, if its `operEdge` is as given. -/
def agesRapidly (br : Bridge) (edge : PortRef → Bool) (p : PortRef) : Bool :=
  !br.rstpVersion && !edge p && !(br.port p).deleted

def operEdges (br : Bridge) (p : PortRef) : Bool := (br.port p).operEdge

def adminEdges (br : Bridge) (p : PortRef) : Bool := (br.port p).adminEdgePort

def ageingCounter (br : Bridge) (p : PortRef) : Nat := (br.port p).rapidAgeingWhile

/-- Some port counts down to a restore when the ports in `rapid` start with their delay and
the others go on with `counter`. -/
def StillCounts (br : Bridge) (rapid : PortRef → Bool) (counter : PortRef → Nat) : Prop :=
  ∃ p ∈ br.ports, (br.port p).deleted = false ∧
    (if rapid p then rapidDelay br p else counter p) ≠ 0

/-- Everything but ageing calls and what decides about a restore. -/
def besideAgeing : Owned where
  config b := { ports := b.ports }
  ptp _ := {}
  port x := { deleted := x.deleted, rapidAgeingWhile := x.rapidAgeingWhile }
  tree _ := {}
  out c := !c.isAgeing

/-! ## Where the time in force comes from -/

inductive AgeingSource
  | untouched
  | configured (time : Nat)
  | rapid
  deriving DecidableEq

/-- The state after the assignments of an action that come before its BEGIN: only these, in
a tick and when the bridge is switched, restore the configured time. -/
def Act.restored (a : Act) (br : Bridge) : Bridge :=
  match a with
  | .tick => a.run br
  | .switchBridge up => resetBridge up br
  | _ => br

/-- The origin of the last call, when the calls between two states come from `later`. -/
def sourceAfter (src later : AgeingSource) (br br' : Bridge) : AgeingSource :=
  if ageingCalls br < ageingCalls br' then later else src

/-- The origin of the last call after an action. -/
def Act.ageingSource (a : Act) (br : Bridge) (src : AgeingSource) : AgeingSource :=
  sourceAfter (sourceAfter src (.configured br.ageingTime) br (a.restored br)) .rapid
    (a.restored br) (a.run br)

/-- The runs of a bridge with the origin of the ageing time in force. -/
def ageingActs : Labelled ((Phase × Bridge) × AgeingSource) Move where
  guard m s := passActs.guard m s.1
  act m s :=
    (passActs.act m s.1,
      match m with
      | .act a => a.ageingSource s.1.2 s.2
      | .proceed => s.2)

/-! ## The condition -/

/-- A BEGIN of all machines: the edge ports are those of the configuration. -/
def BeginCounts (br : Bridge) (counter : PortRef → Nat) : Prop :=
  br.bridgeEnabled = true → (∃ p ∈ br.ports, agesRapidly br (adminEdges br) p = true) →
    StillCounts br (agesRapidly br (adminEdges br)) counter

/-- Rapid ageing starts only where some port counts afterwards, and the last port that
counts is not deleted while a rapid ageing time is in force. -/
def Act.Restores (a : Act) (br : Bridge) (src : AgeingSource) : Prop :=
  match a with
  | .tcsm p _ s => s.flushes = true → agesRapidly br (operEdges br) p = true →
    StillCounts br (· == p) (ageingCounter br)
  | .switchBridge up => BeginCounts { br with bridgeEnabled := up } fun _ => 0
  | .bridgeAddress macaddr =>
    (∃ t ∈ br.trees, (br.tree t).bridgeIdentifier.macAddress ≠ macaddr) →
      BeginCounts br (ageingCounter br)
  | .bridgeConfig cfg =>
    (assignParameters cfg br).forceProtocolVersion ≠ br.forceProtocolVersion →
      BeginCounts (assignParameters cfg br) (ageingCounter br)
  | .tables _ changed _ _ => changed = true → BeginCounts br (ageingCounter br)
  | .configId _ _ => BeginCounts br (ageingCounter br)
  | .createMsti _ _ =>
    br.bridgeEnabled = true → (∃ p ∈ br.ports, agesRapidly br (operEdges br) p = true) →
      StillCounts br (agesRapidly br (operEdges br)) (ageingCounter br)
  | .createPort p portno name speed duplex =>
    let selected := forAll prssmRun br.trees
      (portBeginSelect p (addPort p portno name speed duplex br))
    br.bridgeEnabled = true → br.rstpVersion = false →
      StillCounts selected (· == p) (ageingCounter selected)
  | .markDeleted p =>
    src = .rapid → ∃ q ∈ br.ports, q ≠ p ∧ (br.port q).deleted = false ∧ ageingCounter br q ≠ 0
  | _ => True

def restoresAgeing : Move → (Phase × Bridge) × AgeingSource → Prop
  | .act a, s => a.Restores s.1.2 s.2
  | .proceed, _ => True

/-! ## What flushes do -/

section Calls

variable {br b br' : Bridge}

theorem ageingCalls_emit (c : MstpOut) (br : Bridge) :
    ageingCalls (br.emit c) = ageingCalls br + c.isAgeing.toNat := by
  rw [ageingCalls, ageingCalls, emit, List.countP_cons]
  cases c.isAgeing <;> rfl

theorem besideAgeing_calls (h : Frame besideAgeing br br') : ageingCalls br' = ageingCalls br := by
  have hfilter : ∀ c : Bridge,
      ageingCalls c = (c.out.filter fun x => !besideAgeing.out x).length := by
    intro c
    simp only [ageingCalls, besideAgeing, Bool.not_not, List.countP_eq_length_filter]
  rw [hfilter, hfilter, h.out]

theorem besideAgeing_last (h : Frame besideAgeing br br') : lastAgeing br' = lastAgeing br := by
  have hfilter : ∀ c : Bridge, lastAgeing c =
      (c.out.filter fun x => !besideAgeing.out x).findSome? fun
        | .setAgeingTime _ time => some time
        | _ => none := by
    intro c
    rw [findSome?_filter]
    · rfl
    · intro x hx
      cases x <;> first | rfl | simp [besideAgeing, MstpOut.isAgeing] at hx
  rw [hfilter, hfilter, h.out]

theorem besideAgeing_port (h : Frame besideAgeing br br') (q : PortRef) :
    (br'.port q).deleted = (br.port q).deleted ∧ ageingCounter br' q = ageingCounter br q := by
  have hport := h.port_eq (fun x => (x.deleted, x.rapidAgeingWhile)) (fun _ => rfl) q
  simpa [ageingCounter] using hport

/-- What a flush at `p` does to the ageing time, if it fires, and to the counters. -/
structure Flushed (p : PortRef) (fires : Bool) (br br' : Bridge) : Prop where
  ports : br'.ports = br.ports
  deleted : ∀ q, (br'.port q).deleted = (br.port q).deleted
  counter : ∀ q, ageingCounter br' q =
    if fires && q == p then rapidDelay br p else ageingCounter br q
  calls : ageingCalls br' = ageingCalls br + fires.toNat
  last : fires = false → lastAgeing br' = lastAgeing br

theorem Frame.flushed (h : Frame besideAgeing br br') (p : PortRef) : Flushed p false br br' where
  ports := h.config_eq Bridge.ports fun _ => rfl
  deleted q := (besideAgeing_port h q).1
  counter q := (besideAgeing_port h q).2
  calls := besideAgeing_calls h
  last _ := besideAgeing_last h

theorem Flushed.after {p : PortRef} {fires : Bool} (h : Flushed p fires br b)
    (h' : Frame besideAgeing b br') : Flushed p fires br br' where
  ports := (h'.config_eq Bridge.ports fun _ => rfl).trans h.ports
  deleted q := (besideAgeing_port h' q).1.trans (h.deleted q)
  counter q := (besideAgeing_port h' q).2.trans (h.counter q)
  calls := (besideAgeing_calls h').trans h.calls
  last hno := (besideAgeing_last h').trans (h.last hno)

theorem Flushed.before {p : PortRef} {fires : Bool} (h : Flushed p fires b br')
    (h' : Frame besideAgeing br b) (hdelay : rapidDelay b p = rapidDelay br p) :
    Flushed p fires br br' where
  ports := h.ports.trans (h'.config_eq Bridge.ports fun _ => rfl)
  deleted q := (h.deleted q).trans (besideAgeing_port h' q).1
  counter q := by
    rw [h.counter, hdelay, (besideAgeing_port h' q).2]
  calls := by rw [h.calls, besideAgeing_calls h']
  last hno := (h.last hno).trans (besideAgeing_last h')

theorem setFdbFlush_flushed (p : PortRef) (t : Mstid) (br : Bridge) :
    Flushed p (agesRapidly br (operEdges br) p) br (setFdbFlush p t br) := by
  have hset : ∀ c f, Frame besideAgeing c (c.setPtp p t f) := fun _ _ => Frame.setPtp fun _ => rfl
  rw [setFdbFlush]
  dsimp only
  split
  · rename_i hquiet
    have hno : agesRapidly br (operEdges br) p = false := by
      simp only [agesRapidly, operEdges]
      rcases Bool.or_eq_true_iff.mp hquiet with he | hd
      · simp [he]
      · simp [hd]
    rw [hno]
    exact (hset _ _).flushed p
  · rename_i hloud
    split
    · rename_i hversion
      have hno : agesRapidly br (operEdges br) p = false := by
        simp [agesRapidly, hversion]
      rw [hno]
      exact (Frame.after (Frame.emit rfl) (hset _ _)).flushed p
    · rename_i hversion
      have hyes : agesRapidly br (operEdges br) p = true := by
        simp only [Bool.or_eq_true, not_or, Bool.not_eq_true] at hloud hversion
        simp [agesRapidly, operEdges, hversion, hloud]
      rw [hyes]
      refine Flushed.after ?_ (hset _ _)
      refine ⟨rfl, fun q => ?_, fun q => ?_, ageingCalls_emit _ br, fun h => by cases h⟩
      · simp only [setPort, emit]
        split <;> rfl
      · simp only [ageingCounter, setPort, emit, Bool.true_and, beq_iff_eq, rapidDelay]
        split <;> rfl

theorem newTcWhile_beside (p : PortRef) (t : Mstid) (br : Bridge) :
    Frame besideAgeing br (newTcWhile p t br) := by
  rw [newTcWhile]
  refine Frame.ite (Frame.refl _ _) (Frame.ite ?_ ?_)
  · exact Frame.after (Frame.setPort fun _ => rfl)
      (Frame.after (Frame.setTree fun _ => rfl) (Frame.setPtp fun _ => rfl))
  · exact Frame.after (Frame.setTree fun _ => rfl) (Frame.setPtp fun _ => rfl)

/-- The fields of the topology change machine do not decide about rapid ageing. -/
theorem tcsm_agesRapidly (h : Frame tcsmOwned br b) (p : PortRef) :
    agesRapidly b (operEdges b) p = agesRapidly br (operEdges br) p ∧
      rapidDelay b p = rapidDelay br p := by
  have hversion : b.rstpVersion = br.rstpVersion :=
    h.config_eq Bridge.rstpVersion fun _ => rfl
  have hport := h.port_eq (fun x => (x.operEdge, x.deleted)) (fun _ => rfl) p
  have hdelay := h.ptp_eq PerTreePort.designatedTimes (fun _ => rfl) p 0
  simp only [Prod.mk.injEq] at hport
  simp only [agesRapidly, operEdges, rapidDelay, cist, hversion, hport, hdelay, and_self]

theorem tcsmTo_flushed (p : PortRef) (t : Mstid) (s : TcsmState) (br : Bridge) :
    Flushed p (s.flushes && agesRapidly br (operEdges br) p) br (tcsmTo p t s br) := by
  have hset : ∀ c f, Frame besideAgeing c (c.setPtp p t f) := fun _ _ => Frame.setPtp fun _ => rfl
  have hport : ∀ c f, (∀ x, besideAgeing.port (f x) = besideAgeing.port x) →
      Frame besideAgeing c (c.setPort p f) := fun _ _ hf => Frame.setPort hf
  have hreset : ∀ c, Frame besideAgeing c (resetTopologyChange t c) := fun _ =>
    Frame.setTree fun _ => rfl
  have hprop : ∀ c, Frame besideAgeing c (setTcPropTree p t c) := fun _ =>
    Frame.setTreePtps fun _ _ => rfl
  cases s with
  | inactive =>
    have hpre : Frame tcsmOwned br (br.setPtp p t fun ptp => { ptp with tcsmState := .inactive }) :=
      Frame.setPtp fun _ => rfl
    obtain ⟨hfires, hdelay⟩ := tcsm_agesRapidly hpre p
    have hflush := setFdbFlush_flushed p t
      (br.setPtp p t fun ptp => { ptp with tcsmState := .inactive })
    rw [hfires] at hflush
    rw [tcsmTo, tcsmToInactive]
    refine ((hflush.before (hset _ _) hdelay).after ?_).after (hport _ _ fun _ => rfl)
    exact Frame.after (hreset _) (hset _ _)
  | propagating =>
    have hpre : Frame tcsmOwned br (newTcWhile p t
        (br.setPtp p t fun ptp => { ptp with tcsmState := .propagating })) :=
      Frame.after (newTcWhile_frame p t _) (Frame.setPtp fun _ => rfl)
    obtain ⟨hfires, hdelay⟩ := tcsm_agesRapidly hpre p
    have hflush := setFdbFlush_flushed p t (newTcWhile p t
      (br.setPtp p t fun ptp => { ptp with tcsmState := .propagating }))
    rw [hfires] at hflush
    rw [tcsmTo, tcsmToPropagating]
    exact (hflush.before (Frame.after (newTcWhile_beside p t _) (hset _ _)) hdelay).after (hset _ _)
  | learning =>
    refine Frame.flushed ?_ p
    rw [tcsmTo, tcsmToLearning]
    exact Frame.after (hset _ _) (hport _ _ fun _ => rfl)
  | detected =>
    refine Frame.flushed ?_ p
    rw [tcsmTo, tcsmToDetected]
    refine Frame.after (hport _ _ fun _ => rfl) (Frame.after (hprop _) ?_)
    exact Frame.after (newTcWhile_beside p t _) (hset _ _)
  | notifiedTcn =>
    refine Frame.flushed ?_ p
    rw [tcsmTo, tcsmToNotifiedTcn]
    exact Frame.after (newTcWhile_beside p t _) (hset _ _)
  | notifiedTc =>
    refine Frame.flushed ?_ p
    rw [tcsmTo, tcsmToNotifiedTc]
    exact Frame.after (hprop _) (Frame.after (hport _ _ fun _ => rfl) (hset _ _))
  | acknowledged =>
    refine Frame.flushed ?_ p
    rw [tcsmTo, tcsmToAcknowledged]
    exact Frame.after (hport _ _ fun _ => rfl) (Frame.after (hreset _) (hset _ _))
  | active =>
    refine Frame.flushed ?_ p
    rw [tcsmTo, tcsmToActive]
    exact hset _ _

end Calls

/-! ## What a BEGIN does -/

/-- Everything but what decides where rapid ageing starts, and with which delay. -/
def besideDelay : Owned where
  config b := { ports := b.ports, trees := b.trees, forceProtocolVersion := b.forceProtocolVersion }
  ptp x := { designatedTimes := x.designatedTimes }
  port x :=
    { deleted := x.deleted, rapidAgeingWhile := x.rapidAgeingWhile
      adminEdgePort := x.adminEdgePort }
  tree _ := {}
  out := besideAgeing.out

/-- The same with the edge ports. -/
def besideEdges : Owned where
  config := besideDelay.config
  ptp := besideDelay.ptp
  port x := { besideDelay.port x with operEdge := x.operEdge }
  tree := besideDelay.tree
  out := besideDelay.out

/-- The same with the times that role selection computes. -/
def besideTimes : Owned where
  config := besideDelay.config
  ptp _ := {}
  port := besideEdges.port
  tree := besideDelay.tree
  out := besideDelay.out

instance : besideEdges.Within besideTimes :=
  ⟨fun _ => rfl, fun _ => rfl, fun _ => rfl, fun _ => rfl, fun _ h => h⟩

instance : prssmOwned.Within besideTimes :=
  ⟨fun _ => rfl, fun _ => rfl, fun _ => rfl, fun _ => rfl, fun _ h => absurd h Bool.false_ne_true⟩

instance : besideDelay.Within besideAgeing :=
  ⟨fun _ => rfl, fun _ => rfl, fun _ => rfl, fun _ => rfl, fun _ h => h⟩

instance : besideEdges.Within besideDelay :=
  ⟨fun _ => rfl, fun _ => rfl, fun _ => rfl, fun _ => rfl, fun _ h => h⟩

instance : discardOwned.Within besideEdges :=
  ⟨fun _ => rfl, fun _ => rfl, fun _ => rfl, fun _ => rfl, fun _ h => absurd h Bool.false_ne_true⟩

instance : ppmsmOwned.Within besideEdges :=
  ⟨fun _ => rfl, fun _ => rfl, fun _ => rfl, fun _ => rfl, fun _ h => absurd h Bool.false_ne_true⟩

instance : bdsmOwned.Within besideDelay :=
  ⟨fun _ => rfl, fun _ => rfl, fun _ => rfl, fun _ => rfl, fun _ h => absurd h Bool.false_ne_true⟩

instance : ptsmOwned.Within besideEdges :=
  ⟨fun _ => rfl, fun _ => rfl, fun _ => rfl, fun _ => rfl, fun c h => by
    cases c <;> first | rfl | exact absurd h Bool.false_ne_true⟩

instance : pismBeginOwned.Within besideEdges :=
  ⟨fun _ => rfl, fun _ => rfl, fun _ => rfl, fun _ => rfl, fun _ h => absurd h Bool.false_ne_true⟩

instance : initTreeOwned.Within besideEdges :=
  ⟨fun _ => rfl, fun _ => rfl, fun _ => rfl, fun _ => rfl, fun _ h => absurd h Bool.false_ne_true⟩

instance : prtsmOwned.Within besideEdges :=
  ⟨fun _ => rfl, fun _ => rfl, fun _ => rfl, fun _ => rfl, fun _ h => absurd h Bool.false_ne_true⟩

instance : pstsmOwned.Within besideEdges :=
  ⟨fun _ => rfl, fun _ => rfl, fun _ => rfl, fun _ => rfl, fun c h => by
    cases c <;> first | rfl | exact absurd h Bool.false_ne_true⟩

/-- The machines of BEGIN in front of the topology change machine. -/
def portStatesBegin (refs : List (PortRef × Mstid)) (br : Bridge) : Bridge :=
  forAll (fun o => pstsmTo o.1 o.2 .discarding) refs
    (forAll (fun o => prtsmToInitPort o.1 o.2) refs br)

theorem portStatesBegin_frame (refs : List (PortRef × Mstid)) (br : Bridge) :
    Frame besideEdges br (portStatesBegin refs br) := by
  have hprtsm : ∀ (o : PortRef × Mstid) b, Frame besideEdges b (prtsmToInitPort o.1 o.2 b) :=
    fun o b => (prtsmToInitPort_frame o.1 o.2 b).mono
  have hpstsm : ∀ (o : PortRef × Mstid) b, Frame besideEdges b (pstsmTo o.1 o.2 .discarding b) :=
    fun o b => (pstsmTo_frame o.1 o.2 .discarding b).mono
  exact (Frame.forAll hprtsm refs br).trans (Frame.forAll hpstsm refs _)

section Begin

variable {br b b' : Bridge} {l refs : List (PortRef × Mstid)}

/-- Rapid ageing starts at some port of the list. -/
def someAgesRapidly (br : Bridge) (l : List (PortRef × Mstid)) : Bool :=
  l.any fun o => agesRapidly br (operEdges br) o.1

/-- The topology change machines of the list have begun. -/
structure TcsmBegun (l : List (PortRef × Mstid)) (br br' : Bridge) : Prop where
  ports : br'.ports = br.ports
  deleted : ∀ q, (br'.port q).deleted = (br.port q).deleted
  counter : ∀ q, ageingCounter br' q =
    if l.any (·.1 == q) && agesRapidly br (operEdges br) q then rapidDelay br q
    else ageingCounter br q
  rapid : someAgesRapidly br l = true → ageingCalls br < ageingCalls br'
  quiet : someAgesRapidly br l = false →
    ageingCalls br' = ageingCalls br ∧ lastAgeing br' = lastAgeing br

theorem tcsmBegin_begun (l : List (PortRef × Mstid)) (br : Bridge) :
    TcsmBegun l br (forAll (fun o => tcsmToInactive o.1 o.2) l br) := by
  induction l generalizing br with
  | nil =>
    refine ⟨rfl, fun _ => rfl, fun _ => rfl, fun h => ?_, fun _ => ⟨rfl, rfl⟩⟩
    cases h
  | cons o l ih =>
    have hone : Flushed o.1 (agesRapidly br (operEdges br) o.1) br (tcsmToInactive o.1 o.2 br) :=
      tcsmTo_flushed o.1 o.2 .inactive br
    have hkeep := tcsm_agesRapidly
      (show Frame tcsmOwned br (tcsmToInactive o.1 o.2 br) from tcsmTo_frame o.1 o.2 .inactive br)
    have hrest := ih (tcsmToInactive o.1 o.2 br)
    have hsome : someAgesRapidly (tcsmToInactive o.1 o.2 br) l = someAgesRapidly br l := by
      simp only [someAgesRapidly]
      congr 1
      funext q
      exact (hkeep q.1).1
    have hcons : someAgesRapidly br (o :: l) =
        (agesRapidly br (operEdges br) o.1 || someAgesRapidly br l) := rfl
    have hcalls : ageingCalls (tcsmToInactive o.1 o.2 br) =
        ageingCalls br + (agesRapidly br (operEdges br) o.1).toNat := hone.calls
    refine ⟨hrest.ports.trans hone.ports, fun q => (hrest.deleted q).trans (hone.deleted q),
      fun q => ?_, fun hfires => ?_, fun hquiet => ?_⟩
    · have hq := hrest.counter q
      rw [show forAll (fun o => tcsmToInactive o.1 o.2) (o :: l) br =
        forAll (fun o => tcsmToInactive o.1 o.2) l (tcsmToInactive o.1 o.2 br) from rfl, hq,
        (hkeep q).1, (hkeep q).2, hone.counter q]
      by_cases hqo : o.1 = q
      · subst hqo
        cases agesRapidly br (operEdges br) o.1 <;> simp
      · have hne : ¬q = o.1 := fun h => hqo h.symm
        rw [List.any_cons, show (o.1 == q) = false from beq_eq_false_iff_ne.mpr hqo, Bool.false_or]
        simp [hne]
    · by_cases hhead : agesRapidly br (operEdges br) o.1
      · have hmono : ageingCalls (tcsmToInactive o.1 o.2 br) ≤
            ageingCalls
              (forAll (fun o => tcsmToInactive o.1 o.2) l (tcsmToInactive o.1 o.2 br)) := by
          by_cases htail : someAgesRapidly (tcsmToInactive o.1 o.2 br) l
          · exact (hrest.rapid htail).le
          · exact (hrest.quiet (by simpa using htail)).1.ge
        rw [hhead] at hcalls
        exact lt_of_lt_of_le (by rw [hcalls]; simp) hmono
      · rw [hcons, (Bool.not_eq_true _).mp hhead, Bool.false_or, ← hsome] at hfires
        refine lt_of_le_of_lt ?_ (hrest.rapid hfires)
        rw [hcalls]
        exact Nat.le_add_right _ _
    · rw [hcons, Bool.or_eq_false_iff] at hquiet
      obtain ⟨hhead, htail⟩ := hquiet
      obtain ⟨hcalls', hlast'⟩ := hrest.quiet (hsome.trans htail)
      rw [hhead] at hcalls
      exact ⟨hcalls'.trans hcalls, hlast'.trans (hone.last hhead)⟩

/-- Ports for which `rapid` holds have started rapid ageing. -/
structure Restarted (rapid : PortRef → Bool) (br br' : Bridge) : Prop where
  ports : br'.ports = br.ports
  deleted : ∀ q, (br'.port q).deleted = (br.port q).deleted
  counter : ∀ q ∈ br.ports, ageingCounter br' q =
    if rapid q then rapidDelay br q else ageingCounter br q
  fires : (∃ q ∈ br.ports, rapid q = true) → ageingCalls br < ageingCalls br'
  quiet : (∀ q ∈ br.ports, rapid q = false) →
    ageingCalls br' = ageingCalls br ∧ lastAgeing br' = lastAgeing br

theorem Frame.restarted (h : Frame besideAgeing br br') : Restarted (fun _ => false) br br' where
  ports := h.config_eq Bridge.ports fun _ => rfl
  deleted q := (besideAgeing_port h q).1
  counter q _ := (besideAgeing_port h q).2
  fires h := by
    obtain ⟨_, _, h⟩ := h
    cases h
  quiet _ := ⟨besideAgeing_calls h, besideAgeing_last h⟩

theorem Flushed.restarted {p : PortRef} {fires : Bool} (h : Flushed p fires br br')
    (hp : p ∈ br.ports) : Restarted (fun q => fires && q == p) br br' where
  ports := h.ports
  deleted := h.deleted
  counter q _ := by
    rw [h.counter]
    by_cases hq : q = p
    · rw [hq]
    · simp [hq]
  fires hany := by
    obtain ⟨q, _, hfires⟩ := hany
    have hyes : fires = true := (Bool.and_eq_true_iff.mp hfires).1
    rw [h.calls, hyes]
    exact Nat.lt_succ_self _
  quiet hnone := by
    have hno : fires = false := by simpa using hnone p hp
    refine ⟨?_, h.last hno⟩
    rw [h.calls, hno]
    rfl

/-- The topology change machines of ports for which `rapid` decides. -/
theorem TcsmBegun.restarted {rapid : PortRef → Bool} (h : TcsmBegun refs b br')
    (hpre : Frame besideAgeing br b) (hlisted : ∀ o ∈ refs, o.1 ∈ br.ports)
    (hrapid : ∀ q ∈ br.ports, rapid q = (refs.any (·.1 == q) && agesRapidly b (operEdges b) q))
    (hdelay : ∀ q ∈ br.ports, rapidDelay b q = rapidDelay br q) : Restarted rapid br br' where
  ports := h.ports.trans (hpre.config_eq Bridge.ports fun _ => rfl)
  deleted q := (h.deleted q).trans (besideAgeing_port hpre q).1
  counter q hq := by
    rw [h.counter, ← hrapid q hq, hdelay q hq, (besideAgeing_port hpre q).2]
  fires hany := by
    obtain ⟨q, hq, hfires⟩ := hany
    rw [hrapid q hq, Bool.and_eq_true_iff, List.any_eq_true] at hfires
    obtain ⟨⟨o, ho, hoq⟩, hages⟩ := hfires
    rw [← besideAgeing_calls hpre]
    refine h.rapid (List.any_eq_true.mpr ⟨o, ho, ?_⟩)
    rw [beq_iff_eq.mp hoq]
    exact hages
  quiet hnone := by
    have hno : someAgesRapidly b refs = false := by
      refine List.any_eq_false.mpr fun o ho hages => ?_
      have hlist : refs.any (·.1 == o.1) = true :=
        List.any_eq_true.mpr ⟨o, ho, beq_self_eq_true o.1⟩
      have hfalse := hnone o.1 (hlisted o ho)
      rw [hrapid o.1 (hlisted o ho), hlist, hages] at hfalse
      cases hfalse
    obtain ⟨hcalls, hlast⟩ := h.quiet hno
    exact ⟨hcalls.trans (besideAgeing_calls hpre), hlast.trans (besideAgeing_last hpre)⟩

/-- What `bdsmBegin` leaves behind. -/
theorem bdsmBegins_operEdge (l : List PortRef) (br : Bridge) (q : PortRef) :
    ((forAll bdsmBegin l br).port q).operEdge =
      if q ∈ l then (br.port q).adminEdgePort else (br.port q).operEdge := by
  induction l generalizing br with
  | nil => rfl
  | cons p l ih =>
    have hframe : Frame bdsmOwned br (bdsmBegin p br) := bdsmTo_frame p _ br
    have hadmin := hframe.port_eq Port.adminEdgePort (fun _ => rfl) q
    have hoper : ((bdsmBegin p br).port q).operEdge =
        if q = p then (br.port q).adminEdgePort else (br.port q).operEdge := by
      rw [bdsmBegin]
      by_cases hq : q = p
      · subst hq
        cases hedge : (br.port q).adminEdgePort <;> simp [bdsmTo, setPort]
      · split <;> simp [bdsmTo, setPort, hq]
    rw [show forAll bdsmBegin (p :: l) br = forAll bdsmBegin l (bdsmBegin p br) from rfl, ih,
      hadmin, hoper]
    by_cases hq : q = p <;> simp [hq]

/-- The machines of the ports begin: their edge ports are those of the configuration. -/
theorem portMachinesBegin_edges (ports : List PortRef) (br : Bridge) :
    Frame besideDelay br (portMachinesBegin ports br) ∧
      ∀ q ∈ ports, ((portMachinesBegin ports br).port q).operEdge = (br.port q).adminEdgePort := by
  have hprsm : Frame besideEdges br (forAll prsmToDiscard ports br) :=
    Frame.forAll (fun p b => (prsmToDiscard_frame p b).mono) ports br
  have hppmsm : ∀ b, Frame besideEdges b (forAll ppmsmToCheckingRstp ports b) := fun b =>
    Frame.forAll (fun p c => (ppmsmToCheckingRstp_frame p c).mono) ports b
  have hbdsm : ∀ b, Frame besideDelay b (forAll bdsmBegin ports b) := fun b =>
    Frame.forAll (fun p c => (bdsmTo_frame p _ c).mono) ports b
  have hptsm : ∀ b, Frame besideEdges b (forAll ptsmToTransmitInit ports b) := fun b =>
    Frame.forAll (fun p c => (ptsmToTransmitInit_frame p c).mono) ports b
  have hbefore := hprsm.trans (hppmsm _)
  rw [portMachinesBegin]
  constructor
  · exact (hbefore.mono.trans (hbdsm _)).trans (hptsm _).mono
  · intro q hq
    rw [(hptsm _).port_eq Port.operEdge (fun _ => rfl) q, bdsmBegins_operEdge, if_pos hq,
      hbefore.port_eq Port.adminEdgePort (fun _ => rfl) q]

/-- Frames beside the edge ports keep the decision about rapid ageing. -/
theorem besideEdges_ages (h : Frame besideEdges br b) (q : PortRef) :
    agesRapidly b (operEdges b) q = agesRapidly br (operEdges br) q := by
  have hport := h.port_eq (fun x => (x.operEdge, x.deleted)) (fun _ => rfl) q
  have hversion : b.rstpVersion = br.rstpVersion := h.config_eq Bridge.rstpVersion fun _ => rfl
  simp only [Prod.mk.injEq] at hport
  simp only [agesRapidly, operEdges, hversion, hport]

theorem besideDelay_delay (h : Frame besideDelay br b) (q : PortRef) :
    rapidDelay b q = rapidDelay br q := by
  have htimes := h.ptp_eq PerTreePort.designatedTimes (fun _ => rfl) q 0
  rw [rapidDelay, rapidDelay, cist, cist, htimes]

theorem bridgeBegin_restarted (hcist : 0 ∈ br.trees) (hen : br.bridgeEnabled = true) :
    Restarted (agesRapidly br (adminEdges br)) br (bridgeBegin br) := by
  have hpism : ∀ b, Frame besideEdges b (forAll (fun o => pismBegin o.1 o.2) br.ptpRefs b) :=
    fun b => Frame.forAll (fun (o : PortRef × Mstid) c => (pismBegin_frame o.1 o.2 c).mono) _ b
  have hinit : ∀ b, Frame besideEdges b (forAll prssmToInitTree br.trees b) := fun b =>
    Frame.forAll (fun t c => (prssmToInitTree_frame t c).mono) _ b
  obtain ⟨hports, hedge⟩ := portMachinesBegin_edges br.ports br
  have hlate := ((hpism (portMachinesBegin br.ports br)).trans (hinit _)).trans
    (portStatesBegin_frame br.ptpRefs _)
  have hpre := hports.trans hlate.mono
  rw [bridgeBegin, if_pos hen]
  refine (tcsmBegin_begun br.ptpRefs _).restarted hpre.mono (fun o ho => ?_) (fun q hq => ?_)
    fun q _ => besideDelay_delay hpre q
  · exact (mem_ptpRefs.mp ho).1
  · have hlist : br.ptpRefs.any (·.1 == q) = true :=
      List.any_eq_true.mpr ⟨(q, 0), mem_ptpRefs.mpr ⟨hq, hcist⟩, beq_self_eq_true q⟩
    have hversion : (portMachinesBegin br.ports br).rstpVersion = br.rstpVersion :=
      hports.config_eq Bridge.rstpVersion fun _ => rfl
    have hdeleted := hports.port_eq Port.deleted (fun _ => rfl) q
    have hages := besideEdges_ages hlate q
    rw [portStatesBegin] at hages
    rw [hlist, Bool.true_and]
    refine Eq.trans ?_ hages.symm
    simp only [agesRapidly, operEdges, adminEdges, hversion, hdeleted, hedge q hq]

theorem treeBegin_restarted {t : Mstid} (hen : br.bridgeEnabled = true) :
    Restarted (agesRapidly br (operEdges br)) br (treeBegin t br) := by
  have hpism : ∀ b, Frame besideEdges b
      (forAll (fun o => pismBegin o.1 o.2) (br.ports.map fun p => (p, t)) b) :=
    fun b => Frame.forAll (fun (o : PortRef × Mstid) c => (pismBegin_frame o.1 o.2 c).mono) _ b
  have hpre := ((hpism br).trans (prssmToInitTree_frame t _).mono).trans
    (portStatesBegin_frame (br.ports.map fun p => (p, t)) _)
  rw [treeBegin, if_pos hen]
  refine (tcsmBegin_begun (br.ports.map fun p => (p, t)) _).restarted
    (hpre.mono : Frame besideDelay _ _).mono (fun o ho => ?_) (fun q hq => ?_)
    fun q _ => besideDelay_delay hpre.mono q
  · obtain ⟨p, hp, rfl⟩ := List.mem_map.mp ho
    exact hp
  · have hlist : (br.ports.map fun p => (p, t)).any (·.1 == q) = true :=
      List.any_eq_true.mpr ⟨(q, t), List.mem_map.mpr ⟨q, hq, rfl⟩, beq_self_eq_true q⟩
    have hages := besideEdges_ages hpre q
    rw [portStatesBegin] at hages
    rw [hlist, Bool.true_and]
    exact hages.symm

theorem portBegin_restarted {p : PortRef} (hcist : 0 ∈ br.trees) (hp : p ∈ br.ports)
    (hen : br.bridgeEnabled = true) (hedge : (br.port p).adminEdgePort = false)
    (hlive : (br.port p).deleted = false) :
    Restarted (fun q => !br.rstpVersion && q == p) (forAll prssmRun br.trees (portBeginSelect p br))
      (portBegin p br) := by
  obtain ⟨hports, hedges⟩ := portMachinesBegin_edges [p] br
  have hpism : ∀ b, Frame besideEdges b
      (forAll (fun o => pismBegin o.1 o.2) (br.trees.map fun t => (p, t)) b) :=
    fun b => Frame.forAll (fun (o : PortRef × Mstid) c => (pismBegin_frame o.1 o.2 c).mono) _ b
  have hselect : ∀ b, Frame besideTimes b (forAll prssmRun br.trees b) := fun b =>
    Frame.forAll (fun t c => (prssmRun_frame t c).mono) _ b
  have hlate := portStatesBegin_frame (br.trees.map fun t => (p, t))
    (forAll prssmRun br.trees (portBeginSelect p br))
  have hbefore : Frame besideTimes (portMachinesBegin [p] br)
      (forAll prssmRun br.trees (portBeginSelect p br)) := (hpism _).mono.trans (hselect _)
  have hlists : (forAll prssmRun br.trees (portBeginSelect p br)).ports = br.ports :=
    (hbefore.config_eq Bridge.ports fun _ => rfl).trans (hports.config_eq Bridge.ports fun _ => rfl)
  rw [portBegin, if_pos hen]
  refine (tcsmBegin_begun (br.trees.map fun t => (p, t)) _).restarted
    (hlate.mono : Frame besideDelay _ _).mono (fun o ho => ?_) (fun q hq => ?_)
    fun q _ => besideDelay_delay hlate.mono q
  · obtain ⟨t, -, rfl⟩ := List.mem_map.mp ho
    exact hlists ▸ hp
  · by_cases hqp : q = p
    · subst hqp
      have hlist : (br.trees.map fun t => (q, t)).any (·.1 == q) = true :=
        List.any_eq_true.mpr ⟨(q, 0), List.mem_map.mpr ⟨0, hcist, rfl⟩, beq_self_eq_true q⟩
      have hages := besideEdges_ages hlate q
      have hport := hbefore.port_eq (fun x => (x.operEdge, x.deleted)) (fun _ => rfl) q
      have hdeleted := hports.port_eq Port.deleted (fun _ => rfl) q
      have hversion : (forAll prssmRun br.trees (portBeginSelect q br)).rstpVersion =
          br.rstpVersion :=
        (hbefore.config_eq Bridge.rstpVersion fun _ => rfl).trans
          (hports.config_eq Bridge.rstpVersion fun _ => rfl)
      simp only [Prod.mk.injEq] at hport
      rw [portStatesBegin] at hages
      rw [hlist, Bool.true_and]
      refine Eq.trans ?_ hages.symm
      simp [agesRapidly, operEdges, hversion, hport, hdeleted, hedges q (by simp), hedge, hlive]
    · have hnone : (br.trees.map fun t => (p, t)).any (·.1 == q) = false := by
        refine List.any_eq_false.mpr fun o ho heq => hqp ?_
        obtain ⟨t, -, rfl⟩ := List.mem_map.mp ho
        exact (beq_iff_eq.mp heq).symm
      simp [hnone, hqp]

end Begin

/-! ## A port that counts -/

/-- What is known about the ageing time in force. -/
def Covered (br : Bridge) : AgeingSource → Prop
  | .untouched => lastAgeing br = none
  | .configured time => lastAgeing br = some time
  | .rapid => ∃ q ∈ br.ports, (br.port q).deleted = false ∧ ageingCounter br q ≠ 0

section Covered

variable {br b br' : Bridge} {src later : AgeingSource} {rapid : PortRef → Bool}

theorem sourceAfter_same (h : ageingCalls br' = ageingCalls br) :
    sourceAfter src later br br' = src := by
  rw [sourceAfter, h, if_neg (lt_irrefl _)]

theorem Restarted.covered (h : Restarted rapid br br') (hcov : Covered br src)
    (hcount : (∃ q ∈ br.ports, rapid q = true) → StillCounts br rapid (ageingCounter br)) :
    Covered br' (sourceAfter src .rapid br br') := by
  by_cases hany : ∃ q ∈ br.ports, rapid q = true
  · obtain ⟨q, hq, hlive, hcounts⟩ := hcount hany
    rw [sourceAfter, if_pos (h.fires hany)]
    refine ⟨q, h.ports ▸ hq, (h.deleted q).trans hlive, ?_⟩
    rw [h.counter q hq]
    exact hcounts
  · have hnone : ∀ q ∈ br.ports, rapid q = false := by
      intro q hq
      by_contra hfires
      exact hany ⟨q, hq, by simpa using hfires⟩
    obtain ⟨hcalls, hlast⟩ := h.quiet hnone
    rw [sourceAfter_same hcalls]
    cases src with
    | untouched => exact hlast.trans hcov
    | configured time => exact hlast.trans hcov
    | rapid =>
      obtain ⟨q, hq, hlive, hcounts⟩ := hcov
      refine ⟨q, h.ports ▸ hq, (h.deleted q).trans hlive, ?_⟩
      rw [h.counter q hq, hnone q hq]
      exact hcounts

theorem Covered.frame (hcov : Covered br src) (h : Frame besideAgeing br br') :
    Covered br' src := by
  have hmoved := h.restarted.covered hcov fun hany => by
    obtain ⟨_, _, hfires⟩ := hany
    cases hfires
  rw [sourceAfter_same (besideAgeing_calls h)] at hmoved
  exact hmoved

/-- Only calls with the configured time happen between the two states. -/
structure Restoring (br br' : Bridge) : Prop where
  time : br'.ageingTime = br.ageingTime
  calls : ageingCalls br ≤ ageingCalls br'
  covered : ∀ src, Covered br src →
    Covered br' (sourceAfter src (.configured br.ageingTime) br br')

theorem Restoring.trans (h : Restoring br b) (h' : Restoring b br') : Restoring br br' where
  time := h'.time.trans h.time
  calls := h.calls.trans h'.calls
  covered src hcov := by
    have hboth := h'.covered _ (h.covered src hcov)
    have hcalls := h.calls
    have hcalls' := h'.calls
    rw [h.time] at hboth
    simp only [sourceAfter] at hboth ⊢
    by_cases hlate : ageingCalls b < ageingCalls br'
    · rw [if_pos hlate] at hboth
      rwa [if_pos (by omega)]
    · rw [if_neg hlate] at hboth
      rwa [show ageingCalls br' = ageingCalls b by omega]

theorem Frame.restoring (h : Frame besideAgeing br br') (htime : br'.ageingTime = br.ageingTime) :
    Restoring br br' where
  time := htime
  calls := (besideAgeing_calls h).ge
  covered src hcov := by
    rw [sourceAfter_same (besideAgeing_calls h)]
    exact hcov.frame h

theorem Restoring.forAll {α : Type} (act : α → Bridge → Bridge)
    (hact : ∀ a b, Restoring b (act a b)) (l : List α) (br : Bridge) :
    Restoring br (forAll act l br) := by
  induction l generalizing br with
  | nil => exact (Frame.refl besideAgeing br).restoring rfl
  | cons a l ih => exact (hact a br).trans (ih (act a br))

theorem Restoring.emit (p : PortRef) (br : Bridge) :
    Restoring br (br.emit (.setAgeingTime p br.ageingTime)) where
  time := rfl
  calls := by
    rw [ageingCalls_emit]
    exact Nat.le_add_right _ _
  covered src hcov := by
    have hcalls := ageingCalls_emit (.setAgeingTime p br.ageingTime) br
    rw [sourceAfter, if_pos (by rw [hcalls]; simp [MstpOut.isAgeing])]
    rfl

end Covered

/-! ## What a second and a switch restore -/

instance : assuranceOwned.Within besideAgeing :=
  ⟨fun _ => rfl, fun _ => rfl, fun _ => rfl, fun _ => rfl, fun _ h => absurd h Bool.false_ne_true⟩

instance : prsmOwned.Within besideAgeing :=
  ⟨fun _ => rfl, fun _ => rfl, fun _ => rfl, fun _ => rfl, fun _ h => absurd h Bool.false_ne_true⟩

instance : ppmsmOwned.Within besideAgeing :=
  ⟨fun _ => rfl, fun _ => rfl, fun _ => rfl, fun _ => rfl, fun _ h => absurd h Bool.false_ne_true⟩

instance : bdsmOwned.Within besideAgeing :=
  ⟨fun _ => rfl, fun _ => rfl, fun _ => rfl, fun _ => rfl, fun _ h => absurd h Bool.false_ne_true⟩

instance : pismOwned.Within besideAgeing :=
  ⟨fun _ => rfl, fun _ => rfl, fun _ => rfl, fun _ => rfl, fun _ h => absurd h Bool.false_ne_true⟩

instance : prssmOwned.Within besideAgeing :=
  ⟨fun _ => rfl, fun _ => rfl, fun _ => rfl, fun _ => rfl, fun _ h => absurd h Bool.false_ne_true⟩

instance : prtsmOwned.Within besideAgeing :=
  ⟨fun _ => rfl, fun _ => rfl, fun _ => rfl, fun _ => rfl, fun _ h => absurd h Bool.false_ne_true⟩

instance : linkOwned.Within besideAgeing :=
  ⟨fun _ => rfl, fun _ => rfl, fun _ => rfl, fun _ => rfl, fun _ h => absurd h Bool.false_ne_true⟩

instance : managementOwned.Within besideAgeing :=
  ⟨fun _ => rfl, fun _ => rfl, fun _ => rfl, fun _ => rfl, fun _ h => absurd h Bool.false_ne_true⟩

instance : ptsmOwned.Within besideAgeing :=
  ⟨fun _ => rfl, fun _ => rfl, fun _ => rfl, fun _ => rfl, fun c h => by
    cases c <;> first | rfl | exact absurd h Bool.false_ne_true⟩

instance : pstsmOwned.Within besideAgeing :=
  ⟨fun _ => rfl, fun _ => rfl, fun _ => rfl, fun _ => rfl, fun c h => by
    cases c <;> first | rfl | exact absurd h Bool.false_ne_true⟩

instance : rxOwned.Within besideAgeing :=
  ⟨fun _ => rfl, fun _ => rfl, fun _ => rfl, fun _ => rfl, fun c h => by
    cases c <;> first | rfl | exact absurd h Bool.false_ne_true⟩

section Restore

variable {br b : Bridge}

/-- A new counter of a port, and a call where it comes to zero. -/
theorem restoring_count (p : PortRef) (f : Port → Port) (ends : Bool)
    (hf : ∀ x, (f x).deleted = x.deleted)
    (hends : ends = false → (br.port p).deleted = false → ageingCounter br p ≠ 0 →
      (f (br.port p)).rapidAgeingWhile ≠ 0) :
    Restoring br (if ends then (br.setPort p f).emit (.setAgeingTime p br.ageingTime)
      else br.setPort p f) := by
  have hcalls : ageingCalls (br.setPort p f) = ageingCalls br := rfl
  cases ends with
  | true =>
    refine ⟨rfl, ?_, fun src hcov => ?_⟩
    · rw [if_pos rfl, ageingCalls_emit, hcalls]
      exact Nat.le_add_right _ _
    · rw [if_pos rfl, sourceAfter, ageingCalls_emit, hcalls, if_pos (by simp [MstpOut.isAgeing])]
      rfl
  | false =>
    rw [if_neg Bool.false_ne_true]
    refine ⟨rfl, hcalls.ge, fun src hcov => ?_⟩
    rw [sourceAfter_same hcalls]
    cases src with
    | untouched => exact hcov
    | configured time => exact hcov
    | rapid =>
      obtain ⟨q, hq, hlive, hcounts⟩ := hcov
      refine ⟨q, hq, ?_⟩
      by_cases hqp : q = p
      · subst hqp
        simp only [setPort, ageingCounter, if_true]
        exact ⟨(hf _).trans hlive, hends rfl hlive hcounts⟩
      · simpa [setPort, ageingCounter, hqp] using ⟨hlive, hcounts⟩

theorem ptpTick_beside (p : PortRef) (t : Mstid) (br : Bridge) :
    Frame besideAgeing br (ptpTick p t br) := by
  have hset : Frame besideAgeing br (br.setPtp p t fun ptp =>
      { ptp with
        fdWhile := ptp.fdWhile - 1, rrWhile := ptp.rrWhile - 1, rbWhile := ptp.rbWhile - 1
        tcWhile := ptp.tcWhile - 1, rcvdInfoWhile := ptp.rcvdInfoWhile - 1 }) :=
    Frame.setPtp fun _ => rfl
  have hreset : ∀ b, Frame besideAgeing b (resetTopologyChange t b) := fun _ =>
    Frame.setTree fun _ => rfl
  rw [ptpTick]
  exact Frame.ite (hset.trans (hreset _)) hset

theorem rapidTick_restoring (p : PortRef) (br : Bridge) :
    Restoring br (if (br.port p).rapidAgeingWhile == 1 && !(br.port p).deleted then
      (br.setPort p fun prt => { prt with rapidAgeingWhile := prt.rapidAgeingWhile - 1 }).emit
        (.setAgeingTime p br.ageingTime)
      else br.setPort p fun prt => { prt with rapidAgeingWhile := prt.rapidAgeingWhile - 1 }) := by
  refine restoring_count _ _ _ (fun _ => rfl) fun hends hlive hcounts => ?_
  -- the counter does not come to zero, else the port makes the call
  rw [hlive, Bool.not_false, Bool.and_true, beq_eq_false_iff_ne] at hends
  simp only [ageingCounter] at hcounts
  dsimp only
  omega

theorem portTick_restoring (p : PortRef) (br : Bridge) : Restoring br (portTick p br) := by
  have htimers : Frame besideAgeing br (br.setPort p fun prt =>
      { prt with
        helloWhen := prt.helloWhen - 1, mdelayWhile := prt.mdelayWhile - 1
        edgeDelayWhile := prt.edgeDelayWhile - 1, txCount := prt.txCount - 1
        brAssuRcvdInfoWhile := prt.brAssuRcvdInfoWhile - 1 }) := Frame.setPort fun _ => rfl
  have hptp := fun b => Restoring.forAll (ptpTick p) (fun t c =>
    (ptpTick_beside p t c).restoring
      ((ptpTick_frame p t c).config_eq Bridge.ageingTime fun _ => rfl)) br.trees b
  refine ((htimers.restoring rfl).trans (hptp _)).trans ?_
  exact rapidTick_restoring p _

theorem bridgeTick_restoring (br : Bridge) :
    Restoring br (bridgeTick { br with uptime := br.uptime + 1 }) := by
  have huptime : Frame besideAgeing br { br with uptime := br.uptime + 1 } :=
    ⟨rfl, fun _ _ => rfl, fun _ => rfl, fun _ => rfl, rfl⟩
  have htrees := fun b => Restoring.forAll (fun s b => Bridge.setTree b s treeTick)
    (fun s c => Frame.restoring (Frame.setTree fun _ => rfl) rfl) br.trees b
  rw [bridgeTick]
  refine (huptime.restoring rfl).trans ((htrees _).trans ?_)
  exact Restoring.forAll _ portTick_restoring _ _

theorem resetPort_restoring (p : PortRef) (br : Bridge) : Restoring br (resetPort p br) := by
  have hstate : ∀ s b, Frame besideAgeing b ((if (b.ptp p s).state ≠ .disabled then
      mstpOutSetState p s .disabled b else b).setPtp p s ptpDefaultInternalVars) := by
    intro s b
    refine Frame.after (Frame.setPtp fun _ => rfl) (Frame.ite ?_ (Frame.refl _ _))
    exact (mstpOutSetState_frame p s .disabled b).mono
  have htime : ∀ s b, ((if (b.ptp p s).state ≠ .disabled then
      mstpOutSetState p s .disabled b else b).setPtp p s ptpDefaultInternalVars).ageingTime =
      b.ageingTime := by
    intro s b
    rw [Bridge.setPtp]
    split
    · rfl
    · rfl
  have hstates := fun l b => Restoring.forAll _ (fun s c => (hstate s c).restoring (htime s c)) l b
  rw [resetPort]
  by_cases hcounts : (br.port p).rapidAgeingWhile ≠ 0
  · refine Restoring.trans ?_ (hstates _ _)
    have hcount := @restoring_count br p portDefaultInternalVars true (fun _ => rfl)
      fun h => by cases h
    rw [if_pos hcounts]
    exact hcount
  · refine Restoring.trans ?_ (hstates _ _)
    have hcount := @restoring_count br p portDefaultInternalVars false (fun _ => rfl)
      fun _ _ h => absurd h hcounts
    rw [if_neg hcounts]
    exact hcount

theorem resetBridge_restoring (up : Bool) (br : Bridge) : Restoring br (resetBridge up br) := by
  have hup : Frame besideAgeing br { br with bridgeEnabled := up, uptime := 0 } :=
    ⟨rfl, fun _ _ => rfl, fun _ => rfl, fun _ => rfl, rfl⟩
  have htrees := fun b => Restoring.forAll
    (fun s b => Bridge.setTree b s treeDefaultInternalVars)
    (fun s c => Frame.restoring (Frame.setTree fun _ => rfl) rfl) br.trees b
  rw [resetBridge]
  refine (hup.restoring rfl).trans ((htrees _).trans ?_)
  exact Restoring.forAll _ resetPort_restoring _ _

end Restore

/-! ## Every action -/

section Acts

variable {br b : Bridge} {src : AgeingSource}

/-- The condition on a BEGIN in a state with the same delays and edge ports. -/
theorem BeginCounts.congr {counter counter' : PortRef → Nat} (h : BeginCounts br counter)
    (hconfig : (b.bridgeEnabled, b.ports, b.rstpVersion) =
      (br.bridgeEnabled, br.ports, br.rstpVersion))
    (hport : ∀ q, ((b.port q).deleted, (b.port q).adminEdgePort) =
      ((br.port q).deleted, (br.port q).adminEdgePort))
    (hdelay : ∀ q, rapidDelay b q = rapidDelay br q)
    (hcounter : ∀ q, counter q ≠ 0 → counter' q ≠ 0) : BeginCounts b counter' := by
  simp only [Prod.mk.injEq] at hconfig hport
  obtain ⟨hen, hports, hversion⟩ := hconfig
  have hages : agesRapidly b (adminEdges b) = agesRapidly br (adminEdges br) := by
    funext q
    simp only [agesRapidly, adminEdges, hversion, hport]
  intro hup hany
  rw [hen] at hup
  rw [hports, hages] at hany
  obtain ⟨q, hq, hlive, hcounts⟩ := h hup hany
  refine ⟨q, hports ▸ hq, (hport q).1.trans hlive, ?_⟩
  rw [hages, hdelay]
  split
  · rename_i hrapid
    rwa [if_pos hrapid] at hcounts
  · rename_i hrapid
    rw [if_neg hrapid] at hcounts
    exact hcounter q hcounts

theorem BeginCounts.frame (h : BeginCounts br (ageingCounter br)) (hframe : Frame besideDelay br b)
    (hen : b.bridgeEnabled = br.bridgeEnabled) : BeginCounts b (ageingCounter b) := by
  refine h.congr ?_ (hframe.port_eq (fun x => (x.deleted, x.adminEdgePort)) fun _ => rfl)
    (besideDelay_delay hframe) fun q hcounts => ?_
  · have hports : b.ports = br.ports := hframe.config_eq Bridge.ports fun _ => rfl
    have hversion : b.rstpVersion = br.rstpVersion :=
      hframe.config_eq Bridge.rstpVersion fun _ => rfl
    rw [hen, hports, hversion]
  · rw [(besideAgeing_port hframe.mono q).2]
    exact hcounts

theorem bridgeBegin_covered (hcist : 0 ∈ br.trees) (hcov : Covered br src)
    (hcount : BeginCounts br (ageingCounter br)) :
    Covered (bridgeBegin br) (sourceAfter src .rapid br (bridgeBegin br)) := by
  by_cases hen : br.bridgeEnabled = true
  · exact (bridgeBegin_restarted hcist hen).covered hcov fun hany => hcount hen hany
  · rw [bridgeBegin, if_neg hen, sourceAfter_same rfl]
    exact hcov

/-- A BEGIN that depends on whether a parameter has changed. -/
theorem bridgeBegin_ite_covered {c : Prop} [Decidable c] (hcist : 0 ∈ br.trees)
    (hcov : Covered br src) (hcount : c → BeginCounts br (ageingCounter br)) :
    Covered (if c then bridgeBegin br else br)
      (sourceAfter src .rapid br (if c then bridgeBegin br else br)) := by
  split
  · rename_i hc
    exact bridgeBegin_covered hcist hcov (hcount hc)
  · rw [sourceAfter_same rfl]
    exact hcov

/-- An action without calls of its own before its BEGIN. -/
theorem Act.source_of_same {a : Act} {x : Bridge} (hres : a.restored br = br)
    (hcalls : ageingCalls x = ageingCalls br)
    (h : Covered (a.run br) (sourceAfter src .rapid x (a.run br))) :
    Covered (a.run br) (a.ageingSource br src) := by
  rw [Act.ageingSource, hres, sourceAfter_same rfl]
  rwa [sourceAfter, hcalls, ← sourceAfter] at h

/-- An action that makes no call. -/
theorem Act.source_silent {a : Act} (hcov : Covered br src) (hres : a.restored br = br)
    (h : Frame besideAgeing br (a.run br)) : Covered (a.run br) (a.ageingSource br src) := by
  refine Act.source_of_same hres rfl ?_
  rw [sourceAfter_same (besideAgeing_calls h)]
  exact hcov.frame h

theorem Act.source_owned {a : Act} (hcov : Covered br src) (hres : a.restored br = br) (o : Owned)
    [o.Within besideAgeing] (ho : a.owned = o) : Covered (a.run br) (a.ageingSource br src) :=
  Act.source_silent hcov hres (Frame.mono (o := o) (ho ▸ Act.frame a br))

theorem addPort_covered {p : PortRef} (hnew : p ∉ br.ports) (portno : UInt16) (name : String)
    (speed duplex : Int) (hcov : Covered br src) :
    Covered (addPort p portno name speed duplex br) src := by
  cases src with
  | untouched => exact hcov
  | configured time => exact hcov
  | rapid =>
    obtain ⟨q, hq, hlive, hcounts⟩ := hcov
    have hne : q ≠ p := fun h => hnew (h ▸ hq)
    refine ⟨q, List.mem_append_left _ hq, ?_⟩
    simpa [addPort, setPortPtps, setPort, ageingCounter, hne] using ⟨hlive, hcounts⟩

theorem portBegin_covered {p : PortRef} (hcist : 0 ∈ br.trees) (hp : p ∈ br.ports)
    (hedge : (br.port p).adminEdgePort = false) (hlive : (br.port p).deleted = false)
    (hcov : Covered br src)
    (hcount : br.bridgeEnabled = true → br.rstpVersion = false →
      StillCounts (forAll prssmRun br.trees (portBeginSelect p br)) (· == p)
        (ageingCounter (forAll prssmRun br.trees (portBeginSelect p br)))) :
    Covered (portBegin p br) (sourceAfter src .rapid br (portBegin p br)) := by
  by_cases hen : br.bridgeEnabled = true
  · have hselect : Frame besideAgeing br (forAll prssmRun br.trees (portBeginSelect p br)) := by
      have hpism : ∀ b, Frame besideEdges b
          (forAll (fun o => pismBegin o.1 o.2) (br.trees.map fun t => (p, t)) b) :=
        fun b => Frame.forAll (fun (o : PortRef × Mstid) c => (pismBegin_frame o.1 o.2 c).mono) _ b
      refine ((portMachinesBegin_edges [p] br).1.trans (hpism _).mono).mono.trans ?_
      exact Frame.forAll (fun t c => (prssmRun_frame t c).mono) _ _
    have hbegun := (portBegin_restarted hcist hp hen hedge hlive).covered (hcov.frame hselect) ?_
    · rwa [sourceAfter, besideAgeing_calls hselect, ← sourceAfter] at hbegun
    · intro hany
      obtain ⟨q, -, hfires⟩ := hany
      have hversion : br.rstpVersion = false := by
        simpa using (Bool.and_eq_true_iff.mp hfires).1
      simpa [hversion] using hcount hen hversion
  · rw [portBegin, if_neg hen, sourceAfter_same rfl]
    exact hcov

theorem addTree_beside (mstid : UInt16) (trees : List Mstid) (br : Bridge) :
    Frame besideAgeing br (addTree mstid trees br) := by
  rw [addTree]
  refine Frame.after (Frame.setTreePtps fun _ _ => rfl) ?_
  exact ⟨rfl, fun _ _ => rfl, fun _ => rfl, fun _ => rfl, rfl⟩

theorem treeBegin_covered {mstid : Mstid} {trees : List Mstid} (hzero : mstid ≠ 0)
    (hcov : Covered br src)
    (hcount : br.bridgeEnabled = true → (∃ p ∈ br.ports, agesRapidly br (operEdges br) p = true) →
      StillCounts br (agesRapidly br (operEdges br)) (ageingCounter br)) :
    Covered (treeBegin mstid (addTree mstid trees br))
      (sourceAfter src .rapid br (treeBegin mstid (addTree mstid trees br))) := by
  have hadd := addTree_beside mstid trees br
  have hdelay : ∀ p, rapidDelay (addTree mstid trees br) p = rapidDelay br p := by
    intro p
    simp only [rapidDelay, cist, addTree, setTreePtps, setTree, hzero.symm, false_and, if_false]
  by_cases hen : br.bridgeEnabled = true
  · have hbegun :=
      (@treeBegin_restarted (addTree mstid trees br) mstid hen).covered (hcov.frame hadd) ?_
    · rwa [sourceAfter, besideAgeing_calls hadd, ← sourceAfter] at hbegun
    · intro hany
      obtain ⟨q, hq, hlive, hcounts⟩ := hcount hen hany
      refine ⟨q, hq, hlive, ?_⟩
      rw [hdelay]
      exact hcounts
  · have hoff : ¬(addTree mstid trees br).bridgeEnabled = true := hen
    rw [treeBegin, if_neg hoff, sourceAfter_same (besideAgeing_calls hadd)]
    exact hcov.frame hadd

theorem resetBridge_counts {up : Bool}
    (h : BeginCounts { br with bridgeEnabled := up } fun _ => 0) :
    BeginCounts (resetBridge up br) (ageingCounter (resetBridge up br)) := by
  have hreset := resetBridge_frame up br
  refine h.congr ?_ (hreset.port_eq (fun x => (x.deleted, x.adminEdgePort)) fun _ => rfl)
    (fun q => ?_) fun q hcounts => absurd rfl hcounts
  · have hlist : (resetBridge up br).ports = br.ports := hreset.ports_eq
    have hversion : (resetBridge up br).rstpVersion = br.rstpVersion :=
      hreset.config_eq Bridge.rstpVersion fun _ => rfl
    rw [resetBridge_enabled, hlist, hversion]
    rfl
  · have htimes := hreset.ptp_eq PerTreePort.designatedTimes (fun _ => rfl) q 0
    rw [rapidDelay, rapidDelay, cist, htimes]
    rfl

instance : timesOwned.Within besideDelay :=
  ⟨fun _ => rfl, fun _ => rfl, fun _ => rfl, fun _ => rfl, fun _ h => absurd h Bool.false_ne_true⟩

instance : txCountOwned.Within besideDelay :=
  ⟨fun _ => rfl, fun _ => rfl, fun _ => rfl, fun _ => rfl, fun _ h => absurd h Bool.false_ne_true⟩

theorem writeBridgeConfig_frame (cfg : CistBridgeConfig) (br : Bridge) :
    Frame besideDelay (assignParameters cfg br) (writeBridgeConfig cfg br) ∧
      (writeBridgeConfig cfg br).bridgeEnabled = br.bridgeEnabled := by
  have htx := fun b => resetTxCounts_frame b
  have htimes := fun b => propagateBridgeTimes_frame b
  have hen : ∀ b, (resetTxCounts b).bridgeEnabled = b.bridgeEnabled := fun b =>
    (htx b).config_eq Bridge.bridgeEnabled fun _ => rfl
  have hen' : ∀ b, (propagateBridgeTimes b).bridgeEnabled = b.bridgeEnabled := fun b =>
    (htimes b).config_eq Bridge.bridgeEnabled fun _ => rfl
  have hsame : (assignParameters cfg br).bridgeEnabled = br.bridgeEnabled := rfl
  rw [writeBridgeConfig]
  split <;> split
  · exact ⟨(htx _).mono.trans (htimes _).mono, by rw [hen', hen, hsame]⟩
  · exact ⟨(htimes _).mono, by rw [hen', hsame]⟩
  · exact ⟨(htx _).mono, by rw [hen, hsame]⟩
  · exact ⟨Frame.refl _ _, hsame⟩

theorem writeAddress_delay (macaddr : BitVec 48) (br : Bridge) :
    Frame besideDelay br (writeAddress macaddr br) := by
  have hset : ∀ s b, Frame besideDelay b (Bridge.setTree b s (treeAddress macaddr)) :=
    fun _ _ => Frame.setTree fun _ => rfl
  exact Frame.forAll hset br.trees br

/-- What is known about the ageing time in force stays known through an action that meets
the condition. -/
theorem Act.covered {a : Act} (hcist : 0 ∈ br.trees) (hcov : Covered br src) (hg : a.Guard br)
    (hcond : a.Restores br src) : Covered (a.run br) (a.ageingSource br src) := by
  cases a with
  | tcsm p t s =>
    refine Act.source_of_same rfl rfl ?_
    refine ((tcsmTo_flushed p t s br).restarted hg.2.1).covered hcov fun hany => ?_
    obtain ⟨q, -, hfires⟩ := hany
    obtain ⟨hflush, hages⟩ := Bool.and_eq_true_iff.mp (Bool.and_eq_true_iff.mp hfires).1
    simpa [hflush, hages] using hcond hflush hages
  | createPort p portno name speed duplex =>
    refine Act.source_of_same (x := addPort p portno name speed duplex br) rfl rfl ?_
    refine portBegin_covered hcist (List.mem_append_right _ List.mem_cons_self) ?_ ?_
      (addPort_covered hg.1 portno name speed duplex hcov) hcond
    · simp [addPort, setPortPtps, setPort, portDefaultInternalVars]
    · simp [addPort, setPortPtps, setPort, portDefaultInternalVars]
  | markDeleted p =>
    have hcalls : ageingCalls ((Act.markDeleted p).run br) = ageingCalls br := rfl
    refine Act.source_of_same rfl rfl ?_
    rw [sourceAfter_same hcalls, Act.run]
    cases src with
    | untouched => exact hcov
    | configured time => exact hcov
    | rapid =>
      obtain ⟨q, hq, hne, hlive, hcounts⟩ := hcond rfl
      refine ⟨q, hq, ?_⟩
      simpa [Mstpd.markDeleted, setPort, ageingCounter, hne] using ⟨hlive, hcounts⟩
  | removePort p =>
    have hcalls : ageingCalls ((Act.removePort p).run br) = ageingCalls br := rfl
    refine Act.source_of_same rfl rfl ?_
    rw [sourceAfter_same hcalls]
    cases src with
    | untouched => exact hcov
    | configured time => exact hcov
    | rapid =>
      obtain ⟨q, hq, hlive, hcounts⟩ := hcov
      have hne : q ≠ p := by
        rintro rfl
        rw [hg.2.1] at hlive
        cases hlive
      exact ⟨q, (List.mem_erase_of_ne hne).mpr hq, hlive, hcounts⟩
  | createMsti mstid trees =>
    exact Act.source_of_same rfl rfl (treeBegin_covered hg.1 hcov hcond)
  | removeMsti t =>
    exact Act.source_silent hcov rfl ⟨rfl, fun _ _ => rfl, fun _ => rfl, fun _ => rfl, rfl⟩
  | switchBridge up =>
    have hreset := resetBridge_restoring up br
    have hlists : (resetBridge up br).trees = br.trees := (resetBridge_frame up br).trees_eq
    exact bridgeBegin_covered (hlists ▸ hcist) (hreset.covered src hcov) (resetBridge_counts hcond)
  | tick =>
    have hticks := (bridgeTick_restoring br).covered src hcov
    rw [Act.ageingSource, Act.restored, sourceAfter_same rfl]
    exact hticks
  | bridgeAddress macaddr =>
    have hwrite : Frame managementOwned br (writeAddress macaddr br) :=
      writeAddress_frame macaddr br
    have hlists : (writeAddress macaddr br).trees = br.trees := hwrite.trees_eq
    refine Act.source_of_same rfl (besideAgeing_calls hwrite.mono) ?_
    refine bridgeBegin_ite_covered (hlists ▸ hcist) (hcov.frame hwrite.mono) fun hchanged => ?_
    obtain ⟨t, ht, hne⟩ := List.any_eq_true.mp hchanged
    exact (hcond ⟨t, ht, bne_iff_ne.mp hne⟩).frame (writeAddress_delay macaddr br) hwrite.enabled_eq
  | bridgeConfig cfg =>
    obtain ⟨hframe, hen⟩ := writeBridgeConfig_frame cfg br
    have hassign : Frame besideAgeing br (assignParameters cfg br) :=
      ⟨rfl, fun _ _ => rfl, fun _ => rfl, fun _ => rfl, rfl⟩
    have hwrite := hassign.trans hframe.mono
    have hlists : (writeBridgeConfig cfg br).trees = br.trees :=
      hframe.config_eq Bridge.trees fun _ => rfl
    refine Act.source_of_same rfl (besideAgeing_calls hwrite) ?_
    refine bridgeBegin_ite_covered (hlists ▸ hcist) (hcov.frame hwrite) fun hchanged => ?_
    exact (hcond (bne_iff_ne.mp hchanged)).frame hframe hen
  | tables env changed vid2fid fid2mstid =>
    have hwrite : Frame managementOwned br (writeTables env changed vid2fid fid2mstid br) :=
      writeTables_frame env changed vid2fid fid2mstid br
    have hlists : (writeTables env changed vid2fid fid2mstid br).trees = br.trees :=
      hwrite.trees_eq
    refine Act.source_of_same rfl (besideAgeing_calls hwrite.mono) ?_
    refine bridgeBegin_ite_covered (hlists ▸ hcist) (hcov.frame hwrite.mono) fun hchanged => ?_
    refine (hcond hchanged).frame ?_ hwrite.enabled_eq
    exact Frame.ite ⟨rfl, fun _ _ => rfl, fun _ => rfl, fun _ => rfl, rfl⟩
      ⟨rfl, fun _ _ => rfl, fun _ => rfl, fun _ => rfl, rfl⟩
  | configId revision name =>
    have hwrite : Frame besideDelay br (writeConfigId revision name br) :=
      ⟨rfl, fun _ _ => rfl, fun _ => rfl, fun _ => rfl, rfl⟩
    refine Act.source_of_same rfl (besideAgeing_calls hwrite.mono) ?_
    exact bridgeBegin_covered hcist (hcov.frame hwrite.mono) (hcond.frame hwrite rfl)
  | idleSecond =>
    exact Act.source_silent hcov rfl ⟨rfl, fun _ _ => rfl, fun _ => rfl, fun _ => rfl, rfl⟩
  | flushed p t =>
    refine Act.source_silent hcov rfl ?_
    rw [Act.run]
    exact Frame.setPtp fun _ => rfl
  | assurance => exact Act.source_owned hcov rfl assuranceOwned rfl
  | prsm => exact Act.source_owned hcov rfl prsmOwned rfl
  | ppmsm => exact Act.source_owned hcov rfl ppmsmOwned rfl
  | bdsm => exact Act.source_owned hcov rfl bdsmOwned rfl
  | ptsm => exact Act.source_owned hcov rfl ptsmOwned rfl
  | pism => exact Act.source_owned hcov rfl pismOwned rfl
  | prssm => exact Act.source_owned hcov rfl prssmOwned rfl
  | prtsm => exact Act.source_owned hcov rfl prtsmOwned rfl
  | pstsm => exact Act.source_owned hcov rfl pstsmOwned rfl
  | linkUp | linkDown => exact Act.source_owned hcov rfl linkOwned rfl
  | rxBpdu => exact Act.source_owned hcov rfl rxOwned rfl
  | mstiBridgeConfig | portConfig | mstiPortConfig | mcheck | sysdeps =>
    exact Act.source_owned hcov rfl managementOwned rfl

end Acts

/-! ## The ageing time where no port counts -/

theorem ageingActs_covered {env : Env} {macaddr : BitVec 48} {k : Phase} {br : Bridge}
    {src : AgeingSource}
    (h : ageingActs.Leads restoresAgeing ((.idle, mstpInBridgeCreate env macaddr), .untouched)
      ((k, br), src)) : Covered br src := by
  have hinit : Visited anyAct (mstpInBridgeCreate env macaddr) ∧
      Covered (mstpInBridgeCreate env macaddr) .untouched := ⟨⟨env, macaddr, .refl _⟩, rfl⟩
  have hboth : Visited anyAct br ∧ Covered br src := by
    refine h.inv (I := fun s => Visited anyAct s.1.2 ∧ Covered s.1.2 s.2) ?_ hinit
    intro m s hs hg hC
    obtain ⟨hv, hcov⟩ := hs
    cases m with
    | act a =>
      obtain ⟨env', macaddr', hlead⟩ := hv
      have hcist := Visited.cist_mem ⟨env', macaddr', hlead⟩
      exact ⟨⟨env', macaddr', hlead.trans (.act hg.1 trivial)⟩, a.covered hcist hcov hg.1 hC⟩
    | proceed => exact ⟨hv, hcov⟩
  exact hboth.2

/-- Rapid ageing has been undone in every state of a run in which no port counts, when it
starts only where some port counts then and never loses the last one to a deletion. -/
theorem rapid_ageing_undone {env : Env} {macaddr : BitVec 48} {k : Phase} {br : Bridge}
    {src : AgeingSource}
    (h : ageingActs.Leads restoresAgeing ((.idle, mstpInBridgeCreate env macaddr), .untouched)
      ((k, br), src))
    (hquiet : ∀ p ∈ br.ports, (br.port p).rapidAgeingWhile = 0) :
    src ≠ .rapid ∧ ∀ time, lastAgeing br = some time → src = .configured time := by
  have hcov := ageingActs_covered h
  cases src with
  | untouched =>
    refine ⟨by simp, fun time hlast => ?_⟩
    rw [show lastAgeing br = none from hcov] at hlast
    cases hlast
  | configured time =>
    refine ⟨by simp, fun time' hlast => ?_⟩
    rw [show lastAgeing br = some time from hcov] at hlast
    cases hlast
    rfl
  | rapid =>
    obtain ⟨q, hq, -, hcounts⟩ := hcov
    exact absurd (hquiet q hq) hcounts

instance (br : Bridge) (rapid : PortRef → Bool) (counter : PortRef → Nat) :
    Decidable (StillCounts br rapid counter) :=
  inferInstanceAs (Decidable (∃ p ∈ br.ports, (br.port p).deleted = false ∧
    (if rapid p then rapidDelay br p else counter p) ≠ 0))

instance (br : Bridge) (counter : PortRef → Nat) : Decidable (BeginCounts br counter) :=
  inferInstanceAs (Decidable (br.bridgeEnabled = true →
    (∃ p ∈ br.ports, agesRapidly br (adminEdges br) p = true) →
      StillCounts br (agesRapidly br (adminEdges br)) counter))

instance (br : Bridge) (src : AgeingSource) : (a : Act) → Decidable (a.Restores br src)
  | .tcsm p _ s =>
    inferInstanceAs (Decidable (s.flushes = true → agesRapidly br (operEdges br) p = true →
      StillCounts br (· == p) (ageingCounter br)))
  | .switchBridge up =>
    inferInstanceAs (Decidable (BeginCounts { br with bridgeEnabled := up } fun _ => 0))
  | .bridgeAddress macaddr =>
    inferInstanceAs (Decidable
      ((∃ t ∈ br.trees, (br.tree t).bridgeIdentifier.macAddress ≠ macaddr) →
        BeginCounts br (ageingCounter br)))
  | .bridgeConfig cfg =>
    inferInstanceAs (Decidable
      ((assignParameters cfg br).forceProtocolVersion ≠ br.forceProtocolVersion →
        BeginCounts (assignParameters cfg br) (ageingCounter br)))
  | .tables _ changed _ _ =>
    inferInstanceAs (Decidable (changed = true → BeginCounts br (ageingCounter br)))
  | .configId _ _ => inferInstanceAs (Decidable (BeginCounts br (ageingCounter br)))
  | .createMsti _ _ =>
    inferInstanceAs (Decidable
      (br.bridgeEnabled = true → (∃ p ∈ br.ports, agesRapidly br (operEdges br) p = true) →
        StillCounts br (agesRapidly br (operEdges br)) (ageingCounter br)))
  | .createPort p portno name speed duplex =>
    inferInstanceAs (Decidable (br.bridgeEnabled = true → br.rstpVersion = false →
      StillCounts (forAll prssmRun br.trees
          (portBeginSelect p (addPort p portno name speed duplex br))) (· == p)
        (ageingCounter (forAll prssmRun br.trees
          (portBeginSelect p (addPort p portno name speed duplex br))))))
  | .markDeleted p =>
    inferInstanceAs (Decidable (src = .rapid →
      ∃ q ∈ br.ports, q ≠ p ∧ (br.port q).deleted = false ∧ ageingCounter br q ≠ 0))
  | .assurance _ | .prsm _ _ | .ppmsm _ _ | .bdsm _ _ | .ptsm _ _ | .pism _ _ _ | .prssm _
  | .prtsm _ _ _ | .pstsm _ _ _ | .removePort _ | .removeMsti _ | .tick | .idleSecond
  | .linkUp _ _ _ | .linkDown _ | .flushed _ _ | .rxBpdu _ _ _ | .mstiBridgeConfig _ _
  | .portConfig _ _ | .mstiPortConfig _ _ _ | .mcheck _ | .sysdeps _ _ _ => isTrue trivial

instance : (m : Move) → (s : (Phase × Bridge) × AgeingSource) → Decidable (restoresAgeing m s)
  | .act a, s => inferInstanceAs (Decidable (a.Restores s.1.2 s.2))
  | .proceed, _ => isTrue trivial

instance : (m : Move) → (s : (Phase × Bridge) × AgeingSource) → Decidable (ageingActs.guard m s) :=
  fun m s => inferInstanceAs (Decidable (passActs.guard m s.1))

/-- A bridge whose times are known turns to STP and counts to the end. -/
def ageingMoves : List Move :=
  [.act (.createPort 1 1 "sw1p1" 1000 1), .act (.switchBridge true), .proceed, .proceed, .proceed,
    .proceed, .proceed, .proceed, .proceed, .act (.prssm 0), .proceed, .proceed, .proceed, .proceed,
    .act (.bridgeConfig { protocolVersion := some 0 })] ++ List.replicate 15 (.act .tick)

theorem rapid_ageing_counted : ∃ br src,
    ageingActs.Leads restoresAgeing
      ((.idle, mstpInBridgeCreate sampleEnv 0x020000000001), .untouched) ((.idle, br), src) ∧
    br.bridgeEnabled = true ∧ ageingCalls br = 2 ∧ lastAgeing br = some 300 ∧
    src = .configured 300 := by
  have hrun : (ageingActs.attempt restoresAgeing ageingMoves
      ((.idle, mstpInBridgeCreate sampleEnv 0x020000000001), .untouched)).any (fun s =>
        s.1.1 == .idle && s.1.2.bridgeEnabled && ageingCalls s.1.2 == 2 &&
          lastAgeing s.1.2 == some 300 &&
          s.1.2.ports.all fun p => (s.1.2.port p).rapidAgeingWhile == 0) = true := by
    decide +kernel
  obtain ⟨⟨⟨k, br⟩, src⟩, hlead, hrun⟩ := (Option.any_eq_true _ _).mp hrun
  simp only [Bool.and_eq_true, beq_iff_eq, List.all_eq_true] at hrun
  obtain ⟨⟨⟨⟨rfl, hen⟩, hcalls⟩, hlast⟩, hquiet⟩ := hrun
  have hends := Labelled.attempt_leads hlead
  exact ⟨br, src, hends, hen, hcalls, hlast, (rapid_ageing_undone hends hquiet).2 300 hlast⟩

/-- A bridge that is switched on with STP for the first time: the delay of its ports is
zero, so that the time zero is set and no port counts. -/
theorem rapid_ageing_left : ∃ br, Reachable anyOp br ∧ br.bridgeEnabled = true ∧
    (∀ p ∈ br.ports, (br.port p).rapidAgeingWhile = 0) ∧ lastAgeing br = some 0 ∧
    ∀ b, Visited anyAct b → b.ageingTime ≠ 0 := by
  have hrun : (sampleRun [.createPort 1 1 "sw1p1" 1000 1,
      .setCistBridgeConfig { protocolVersion := some 0 }, .setBridgeEnable true]).any (fun br =>
        br.bridgeEnabled && lastAgeing br == some 0 &&
          br.ports.all fun p => (br.port p).rapidAgeingWhile == 0) = true := by
    decide +kernel
  obtain ⟨br, hbr, hrun⟩ := (Option.any_eq_true _ _).mp hrun
  simp only [Bool.and_eq_true, beq_iff_eq, List.all_eq_true] at hrun
  obtain ⟨⟨hen, hlast⟩, hquiet⟩ := hrun
  refine ⟨br, sampleRun_reachable (fun _ _ => trivial) hbr, hen, hquiet, hlast, fun b hv => ?_⟩
  have htime := hv.configured.parameters.ageingTime
  omega

end Mstpd
