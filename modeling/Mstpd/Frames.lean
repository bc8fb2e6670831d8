import Mstpd.Run

/-!
# What each machine may write

For each machine a mask clears the fields that its entry actions assign, in whatever
port or tree they stand. A step of the machine keeps all masked records, the
configuration of the bridge and the calls of other kinds. What another machine owns
is read off a frame by naming the field.
-/

namespace Mstpd

open Bridge Machine

/-- The bridge without the objects of its trees and ports and without its calls. -/
def Bridge.config (br : Bridge) : Bridge :=
  { br with tree := fun _ => {}, port := fun _ => {}, ptp := fun _ _ => {}, out := [] }

/-- The fields a machine owns, as masks that clear them, and the calls it may make. -/
structure Owned where
  config : Bridge → Bridge := fun b => b
  ptp : PerTreePort → PerTreePort := fun x => x
  port : Port → Port := fun x => x
  tree : Tree → Tree := fun x => x
  out : MstpOut → Bool := fun _ => false

/-- The bridge without what is owned, and without its calls. -/
def Owned.clear (o : Owned) (br : Bridge) : Bridge :=
  { o.config br.config with
    tree := fun s => o.tree (br.tree s), port := fun q => o.port (br.port q)
    ptp := fun q s => o.ptp (br.ptp q s), out := [] }

/-- The lists of ports and trees are not owned. -/
class Owned.KeepsLists (o : Owned) : Prop where
  ports : ∀ b, (o.config b).ports = b.ports
  trees : ∀ b, (o.config b).trees = b.trees

class Owned.KeepsEnabled (o : Owned) : Prop where
  enabled : ∀ b, (o.config b).bridgeEnabled = b.bridgeEnabled

/-- What is owned by `o` is owned by `o'`. -/
class Owned.Within (o o' : Owned) : Prop where
  config : ∀ b, o'.config (o.config b) = o'.config b
  ptp : ∀ x, o'.ptp (o.ptp x) = o'.ptp x
  port : ∀ x, o'.port (o.port x) = o'.port x
  tree : ∀ x, o'.tree (o.tree x) = o'.tree x
  out : ∀ c, o.out c = true → o'.out c = true

/-- `br'` differs from `br` only in what is owned. -/
structure Frame (o : Owned) (br br' : Bridge) : Prop where
  config : o.config br'.config = o.config br.config
  ptp : ∀ q s, o.ptp (br'.ptp q s) = o.ptp (br.ptp q s)
  port : ∀ q, o.port (br'.port q) = o.port (br.port q)
  tree : ∀ s, o.tree (br'.tree s) = o.tree (br.tree s)
  out : br'.out.filter (fun c => !o.out c) = br.out.filter (fun c => !o.out c)

namespace Frame

variable {o : Owned} {br br' br'' : Bridge}

theorem refl (o : Owned) (br : Bridge) : Frame o br br :=
  ⟨rfl, fun _ _ => rfl, fun _ => rfl, fun _ => rfl, rfl⟩

theorem trans (h : Frame o br br') (h' : Frame o br' br'') : Frame o br br'' where
  config := h'.config.trans h.config
  ptp q s := (h'.ptp q s).trans (h.ptp q s)
  port q := (h'.port q).trans (h.port q)
  tree s := (h'.tree s).trans (h.tree s)
  out := h'.out.trans h.out

/-- `trans` with the later step first, so that it fixes the state in between. -/
theorem after (h' : Frame o br' br'') (h : Frame o br br') : Frame o br br'' := h.trans h'

theorem setPtp {p : PortRef} {t : Mstid} {f : PerTreePort → PerTreePort}
    (hf : ∀ x, o.ptp (f x) = o.ptp x) : Frame o br (br.setPtp p t f) where
  config := rfl
  ptp q s := by
    simp only [Bridge.setPtp]
    split
    · exact hf _
    · rfl
  port _ := rfl
  tree _ := rfl
  out := rfl

theorem setTreePtps {t : Mstid} {f : PortRef → PerTreePort → PerTreePort}
    (hf : ∀ q x, o.ptp (f q x) = o.ptp x) :
    Frame o br (br.setTreePtps t f) where
  config := rfl
  ptp q s := by
    simp only [Bridge.setTreePtps]
    split
    · exact hf _ _
    · rfl
  port _ := rfl
  tree _ := rfl
  out := rfl

theorem setPortPtps {p : PortRef} {f : Mstid → PerTreePort → PerTreePort}
    (hf : ∀ s x, o.ptp (f s x) = o.ptp x) :
    Frame o br (br.setPortPtps p f) where
  config := rfl
  ptp q s := by
    simp only [Bridge.setPortPtps]
    split
    · exact hf _ _
    · rfl
  port _ := rfl
  tree _ := rfl
  out := rfl

theorem setMstiPtps {p : PortRef} {f : Mstid → PerTreePort → PerTreePort}
    (hf : ∀ s x, o.ptp (f s x) = o.ptp x) :
    Frame o br (br.setMstiPtps p f) := by
  refine setPortPtps fun s x => ?_
  split
  · rfl
  · exact hf s x

theorem setPort {p : PortRef} {f : Port → Port}
    (hf : ∀ x, o.port (f x) = o.port x) :
    Frame o br (br.setPort p f) where
  config := rfl
  ptp _ _ := rfl
  port q := by
    simp only [Bridge.setPort]
    split
    · exact hf _
    · rfl
  tree _ := rfl
  out := rfl

theorem setTree {t : Mstid} {f : Tree → Tree}
    (hf : ∀ x, o.tree (f x) = o.tree x) :
    Frame o br (br.setTree t f) where
  config := rfl
  ptp _ _ := rfl
  port _ := rfl
  tree s := by
    simp only [Bridge.setTree]
    split
    · exact hf _
    · rfl
  out := rfl

theorem emit {c : MstpOut} (hc : o.out c = true) : Frame o br (br.emit c) where
  config := rfl
  ptp _ _ := rfl
  port _ := rfl
  tree _ := rfl
  out := by simp [Bridge.emit, hc]

theorem ite {c : Prop} [Decidable c] (h : Frame o br br') (h' : Frame o br br'') :
    Frame o br (if c then br' else br'') := by
  split
  · exact h
  · exact h'

/-! What a frame keeps. -/

variable {α : Type}

theorem ptp_eq (h : Frame o br br') (f : PerTreePort → α) (hf : ∀ x, f (o.ptp x) = f x)
    (q : PortRef) (s : Mstid) : f (br'.ptp q s) = f (br.ptp q s) := by
  rw [← hf, h.ptp, hf]

theorem port_eq (h : Frame o br br') (f : Port → α) (hf : ∀ x, f (o.port x) = f x)
    (q : PortRef) : f (br'.port q) = f (br.port q) := by
  rw [← hf, h.port, hf]

theorem tree_eq (h : Frame o br br') (f : Tree → α) (hf : ∀ x, f (o.tree x) = f x)
    (s : Mstid) : f (br'.tree s) = f (br.tree s) := by
  rw [← hf, h.tree, hf]

theorem config_eq (h : Frame o br br') (f : Bridge → α) (hf : ∀ b, f (o.config b.config) = f b) :
    f br' = f br := by
  rw [← hf, h.config, hf]

/-- What reads nothing that is owned is the same after the step. -/
theorem read_eq (h : Frame o br br') (F : Bridge → α) (hF : ∀ b, F (o.clear b) = F b) :
    F br' = F br := by
  have hclear : o.clear br' = o.clear br := by
    simp only [Owned.clear, h.config, h.ptp, h.port, h.tree]
  rw [← hF br', hclear, hF]

theorem ports_eq [o.KeepsLists] (h : Frame o br br') : br'.ports = br.ports :=
  h.config_eq Bridge.ports fun b => Owned.KeepsLists.ports b.config

theorem trees_eq [o.KeepsLists] (h : Frame o br br') : br'.trees = br.trees :=
  h.config_eq Bridge.trees fun b => Owned.KeepsLists.trees b.config

theorem enabled_eq [o.KeepsEnabled] (h : Frame o br br') : br'.bridgeEnabled = br.bridgeEnabled :=
  h.config_eq Bridge.bridgeEnabled fun b => Owned.KeepsEnabled.enabled b.config

/-- A frame that owns less is a frame for everything that owns more. -/
theorem mono {o' : Owned} [hw : o.Within o'] (h : Frame o br br') : Frame o' br br' where
  config := by rw [← hw.config, h.config, hw.config]
  ptp q s := h.ptp_eq o'.ptp hw.ptp q s
  port q := h.port_eq o'.port hw.port q
  tree s := h.tree_eq o'.tree hw.tree s
  out := by
    have hfilter : ∀ l : List MstpOut, l.filter (fun c => !o'.out c) =
        (l.filter (fun c => !o.out c)).filter (fun c => !o'.out c) := by
      intro l
      rw [List.filter_filter]
      refine List.filter_congr fun c _ => ?_
      cases hc : o.out c with
      | false => simp
      | true => simp [hw.out c hc]
    rw [hfilter br'.out, hfilter br.out, h.out]

/-- Without calls of its own a machine leaves the record of calls as it is. -/
theorem out_eq (h : Frame o br br') (hout : ∀ c, o.out c = false) : br'.out = br.out := by
  have h' := h.out
  simpa [hout, List.filter_eq_self.mpr] using h'

end Frame

/-! ## Port Receive -/

def prsmOwned : Owned where
  ptp x := { x with rcvdMsg := false, rcvdMstiConfig := 0 }
  port x :=
    { x with
      prsmState := .discard, rcvdBpdu := false, rcvdRSTP := false, rcvdSTP := false
      edgeDelayWhile := 0, rcvdInternal := false, operEdge := false }

instance : prsmOwned.KeepsLists := ⟨fun _ => rfl, fun _ => rfl⟩

instance : prsmOwned.KeepsEnabled := ⟨fun _ => rfl⟩

theorem updtBPDUVersion_frame (p : PortRef) (br : Bridge) :
    Frame prsmOwned br (updtBPDUVersion p br) := Frame.setPort fun _ => rfl

theorem setRcvdMsgs_frame (p : PortRef) (br : Bridge) :
    Frame prsmOwned br (setRcvdMsgs p br) :=
  Frame.after (Frame.setMstiPtps fun _ _ => rfl) (Frame.setPtp fun _ => rfl)

/-- What the BEGIN of Port Receive writes. -/
def discardOwned : Owned where
  ptp x := { x with rcvdMsg := false }
  port x :=
    { x with
      prsmState := .discard, rcvdBpdu := false, rcvdRSTP := false, rcvdSTP := false
      edgeDelayWhile := 0 }

instance : discardOwned.KeepsLists := ⟨fun _ => rfl, fun _ => rfl⟩

instance : discardOwned.KeepsEnabled := ⟨fun _ => rfl⟩

instance : discardOwned.Within prsmOwned :=
  ⟨fun _ => rfl, fun _ => rfl, fun _ => rfl, fun _ => rfl, fun _ h => absurd h Bool.false_ne_true⟩

theorem prsmToDiscard_frame (p : PortRef) (br : Bridge) :
    Frame discardOwned br (prsmToDiscard p br) := by
  rw [prsmToDiscard, clearAllRcvdMsgs]
  exact Frame.after (Frame.setPortPtps fun _ _ => rfl) (Frame.setPort fun _ => rfl)

theorem prsmToReceive_frame (p : PortRef) (br : Bridge) :
    Frame prsmOwned br (prsmToReceive p br) := by
  rw [prsmToReceive]
  refine Frame.after (Frame.setPort fun _ => rfl) (Frame.after (setRcvdMsgs_frame p _) ?_)
  refine Frame.after (Frame.setPort fun _ => rfl) (Frame.after (updtBPDUVersion_frame p _) ?_)
  exact Frame.setPort fun _ => rfl

theorem prsmTo_frame (p : PortRef) (s : PrsmState) (br : Bridge) :
    Frame prsmOwned br (prsmTo p s br) := by
  cases s with
  | discard => exact (prsmToDiscard_frame p br).mono
  | receive => exact prsmToReceive_frame p br

/-! ## Port Protocol Migration, Bridge Detection and assurance -/

def ppmsmOwned : Owned where
  port x :=
    { x with
      ppmsmState := .sensing, mcheck := false, sendRSTP := false, mdelayWhile := 0
      rcvdRSTP := false, rcvdSTP := false }

instance : ppmsmOwned.KeepsLists := ⟨fun _ => rfl, fun _ => rfl⟩

instance : ppmsmOwned.KeepsEnabled := ⟨fun _ => rfl⟩

theorem ppmsmToCheckingRstp_frame (p : PortRef) (br : Bridge) :
    Frame ppmsmOwned br (ppmsmToCheckingRstp p br) := Frame.setPort fun _ => rfl

theorem ppmsmToSelectingStp_frame (p : PortRef) (br : Bridge) :
    Frame ppmsmOwned br (ppmsmToSelectingStp p br) := Frame.setPort fun _ => rfl

theorem ppmsmToSensing_frame (p : PortRef) (br : Bridge) :
    Frame ppmsmOwned br (ppmsmToSensing p br) := Frame.setPort fun _ => rfl

theorem ppmsmTo_frame (p : PortRef) (s : PpmsmState) (br : Bridge) :
    Frame ppmsmOwned br (ppmsmTo p s br) := by
  cases s with
  | checkingRstp => exact ppmsmToCheckingRstp_frame p br
  | selectingStp => exact ppmsmToSelectingStp_frame p br
  | sensing => exact ppmsmToSensing_frame p br

def bdsmOwned : Owned where
  port x := { x with bdsmState := .edge, operEdge := false }

instance : bdsmOwned.KeepsLists := ⟨fun _ => rfl, fun _ => rfl⟩

instance : bdsmOwned.KeepsEnabled := ⟨fun _ => rfl⟩

theorem bdsmTo_frame (p : PortRef) (s : BdsmState) (br : Bridge) :
    Frame bdsmOwned br (bdsmTo p s br) := by
  cases s with
  | edge =>
    rw [bdsmTo]
    exact Frame.setPort fun _ => rfl
  | notEdge =>
    rw [bdsmTo]
    exact Frame.setPort fun _ => rfl

def assuranceOwned : Owned where
  port x := { x with baInconsistent := false }

instance : assuranceOwned.KeepsLists := ⟨fun _ => rfl, fun _ => rfl⟩

instance : assuranceOwned.KeepsEnabled := ⟨fun _ => rfl⟩

theorem assuranceRun_frame (p : PortRef) (br : Bridge) :
    Frame assuranceOwned br (assuranceRun p br) :=
  Frame.ite (Frame.setPort fun _ => rfl) (Frame.refl _ _)

/-! ## Port Transmit -/

def MstpOut.isTx : MstpOut → Bool
  | .txBpdu .. => true
  | _ => false

def ptsmOwned : Owned where
  port x :=
    { x with
      ptsmState := .idle, newInfo := false, newInfoMsti := false, txCount := 0, tcAck := false
      helloWhen := 0, numTxBpdu := 0, numTxTcn := 0 }
  out := MstpOut.isTx

instance : ptsmOwned.KeepsLists := ⟨fun _ => rfl, fun _ => rfl⟩

instance : ptsmOwned.KeepsEnabled := ⟨fun _ => rfl⟩

theorem mstpOutTxBpdu_frame (p : PortRef) (b : Bpdu) (size : Nat) (br : Bridge) :
    Frame ptsmOwned br (mstpOutTxBpdu p b size br) :=
  Frame.after (Frame.emit rfl) (Frame.setPort fun _ => rfl)

theorem txConfig_frame (p : PortRef) (br : Bridge) : Frame ptsmOwned br (txConfig p br) :=
  Frame.ite (Frame.refl _ _) (mstpOutTxBpdu_frame p _ _ br)

theorem txMstp_frame (p : PortRef) (br : Bridge) : Frame ptsmOwned br (txMstp p br) :=
  Frame.ite (Frame.refl _ _) (mstpOutTxBpdu_frame p _ _ br)

theorem txTcn_frame (p : PortRef) (br : Bridge) : Frame ptsmOwned br (txTcn p br) :=
  Frame.ite (Frame.refl _ _) (mstpOutTxBpdu_frame p _ _ br)

theorem ptsmToTransmitInit_frame (p : PortRef) (br : Bridge) :
    Frame ptsmOwned br (ptsmToTransmitInit p br) := Frame.setPort fun _ => rfl

theorem ptsmToTransmitConfig_frame (p : PortRef) (br : Bridge) :
    Frame ptsmOwned br (ptsmToTransmitConfig p br) := by
  rw [ptsmToTransmitConfig]
  exact Frame.after (Frame.setPort fun _ => rfl)
    (Frame.after (txConfig_frame p _) (Frame.setPort fun _ => rfl))

theorem ptsmToTransmitTcn_frame (p : PortRef) (br : Bridge) :
    Frame ptsmOwned br (ptsmToTransmitTcn p br) := by
  rw [ptsmToTransmitTcn]
  exact Frame.after (Frame.setPort fun _ => rfl)
    (Frame.after (txTcn_frame p _) (Frame.setPort fun _ => rfl))

theorem ptsmToTransmitRstp_frame (p : PortRef) (br : Bridge) :
    Frame ptsmOwned br (ptsmToTransmitRstp p br) := by
  rw [ptsmToTransmitRstp]
  exact Frame.after (Frame.setPort fun _ => rfl)
    (Frame.after (txMstp_frame p _) (Frame.setPort fun _ => rfl))

theorem ptsmToTransmitPeriodic_frame (p : PortRef) (br : Bridge) :
    Frame ptsmOwned br (ptsmToTransmitPeriodic p br) := by
  rw [ptsmToTransmitPeriodic]
  exact Frame.setPort fun _ => rfl

theorem ptsmToIdle_frame (p : PortRef) (br : Bridge) :
    Frame ptsmOwned br (ptsmToIdle p br) := by
  rw [ptsmToIdle]
  exact Frame.setPort fun _ => rfl

theorem ptsmTo_frame (p : PortRef) (s : PtsmState) (br : Bridge) :
    Frame ptsmOwned br (ptsmTo p s br) := by
  cases s with
  | transmitInit => exact ptsmToTransmitInit_frame p br
  | transmitConfig => exact ptsmToTransmitConfig_frame p br
  | transmitTcn => exact ptsmToTransmitTcn_frame p br
  | transmitRstp => exact ptsmToTransmitRstp_frame p br
  | transmitPeriodic => exact ptsmToTransmitPeriodic_frame p br
  | idle => exact ptsmToIdle_frame p br

/-! ## Port Information -/

/-- What the treatment of a message may write that brings no new information. -/
def messageOwned : Owned where
  ptp x :=
    { x with
      pismState := .current, rcvdMsg := false, proposing := false, proposed := false
      agreed := false, rcvdInfoWhile := 0, disputed := false, mastered := false
      rcvdTc := false, rcvdInfo := .otherInfo, msgPriority := 0, msgTimes := 0 }
  port x := { x with infoInternal := false, rcvdTcn := false, rcvdTcAck := false }

instance : messageOwned.KeepsLists := ⟨fun _ => rfl, fun _ => rfl⟩

instance : messageOwned.KeepsEnabled := ⟨fun _ => rfl⟩

/-- With the recording of new information. -/
def informationOwned : Owned where
  ptp x :=
    messageOwned.ptp
      { x with
        agree := false, synced := false, portPriority := 0, portTimes := 0, infoIs := .mine
        reselect := false, selected := false }
  port := messageOwned.port

instance : informationOwned.KeepsLists := ⟨fun _ => rfl, fun _ => rfl⟩

instance : informationOwned.KeepsEnabled := ⟨fun _ => rfl⟩

instance : messageOwned.Within informationOwned :=
  ⟨fun _ => rfl, fun _ => rfl, fun _ => rfl, fun _ => rfl, fun _ h => absurd h Bool.false_ne_true⟩

def pismOwned : Owned where
  ptp x := informationOwned.ptp { x with updtInfo := false }
  port x := informationOwned.port { x with newInfo := false, newInfoMsti := false }

instance : pismOwned.KeepsLists := ⟨fun _ => rfl, fun _ => rfl⟩

instance : pismOwned.KeepsEnabled := ⟨fun _ => rfl⟩

instance : informationOwned.Within pismOwned :=
  ⟨fun _ => rfl, fun _ => rfl, fun _ => rfl, fun _ => rfl, fun _ h => absurd h Bool.false_ne_true⟩

instance : messageOwned.Within pismOwned :=
  ⟨fun _ => rfl, fun _ => rfl, fun _ => rfl, fun _ => rfl, fun _ h => absurd h Bool.false_ne_true⟩

theorem recordAgreement_frame (p : PortRef) (t : Mstid) (br : Bridge) :
    Frame messageOwned br (recordAgreement p t br) := by
  rw [recordAgreement]
  refine Frame.ite ?_ (Frame.setPtp fun _ => rfl)
  exact Frame.after (Frame.setMstiPtps fun _ _ => rfl) (Frame.setPtp fun _ => rfl)

theorem recordDispute_frame (p : PortRef) (t : Mstid) (br : Bridge) :
    Frame messageOwned br (recordDispute p t br) := by
  rw [recordDispute]
  refine Frame.ite ?_ (Frame.setPtp fun _ => rfl)
  exact Frame.after (Frame.setMstiPtps fun _ _ => rfl) (Frame.setPtp fun _ => rfl)

theorem recordMastered_frame (p : PortRef) (t : Mstid) (br : Bridge) :
    Frame messageOwned br (recordMastered p t br) := by
  rw [recordMastered]
  exact Frame.ite (Frame.setMstiPtps fun _ _ => rfl) (Frame.setPtp fun _ => rfl)

theorem recordProposal_frame (p : PortRef) (t : Mstid) (br : Bridge) :
    Frame messageOwned br (recordProposal p t br) := by
  rw [recordProposal]
  refine Frame.ite ?_ (Frame.setPtp fun _ => rfl)
  exact Frame.after (Frame.setMstiPtps fun _ _ => rfl) (Frame.setPtp fun _ => rfl)

theorem setTcFlags_frame (p : PortRef) (t : Mstid) (br : Bridge) :
    Frame messageOwned br (setTcFlags p t br) := by
  rw [setTcFlags]
  refine Frame.ite ?_ (Frame.setPtp fun _ => rfl)
  exact Frame.after (Frame.setMstiPtps fun _ _ => rfl)
    (Frame.after (Frame.setPtp fun _ => rfl) (Frame.setPort fun _ => rfl))

theorem recordPriority_frame (p : PortRef) (t : Mstid) (br : Bridge) :
    Frame informationOwned br (recordPriority p t br) := Frame.setPtp fun _ => rfl

theorem recordTimes_frame (p : PortRef) (t : Mstid) (br : Bridge) :
    Frame informationOwned br (recordTimes p t br) := Frame.setPtp fun _ => rfl

theorem updtRcvdInfoWhile_frame (p : PortRef) (t : Mstid) (br : Bridge) :
    Frame messageOwned br (updtRcvdInfoWhile p t br) := by
  rw [updtRcvdInfoWhile]
  exact Frame.setPtp fun _ => rfl

theorem rcvInfo_frame (p : PortRef) (t : Mstid) (br : Bridge) :
    Frame messageOwned br (rcvInfo p t br).2 := by
  rw [rcvInfo]
  split
  · dsimp only
    exact Frame.after (Frame.setPortPtps fun _ _ => rfl) (Frame.setPort fun _ => rfl)
  · split
    · exact Frame.refl _ _
    · dsimp only
      exact Frame.setPtp fun _ => rfl

theorem setNewInfo_frame {o : Owned} (p : PortRef) (t : Mstid) (br : Bridge)
    (h : ∀ (x : Port) (a b : Bool), o.port { x with newInfo := a, newInfoMsti := b } = o.port x) :
    Frame o br (setNewInfo p t br) := Frame.setPort fun x => h x _ _

theorem pismToDisabled_frame (p : PortRef) (t : Mstid) (br : Bridge) :
    Frame informationOwned br (pismToDisabled p t br) := Frame.setPtp fun _ => rfl

theorem pismToAged_frame (p : PortRef) (t : Mstid) (br : Bridge) :
    Frame informationOwned br (pismToAged p t br) := Frame.setPtp fun _ => rfl

theorem pismToUpdate_frame (p : PortRef) (t : Mstid) (br : Bridge) :
    Frame pismOwned br (pismToUpdate p t br) := by
  rw [pismToUpdate]
  exact Frame.after (setNewInfo_frame p t _ fun _ _ _ => rfl) (Frame.setPtp fun _ => rfl)

theorem pismToSuperiorDesignated_frame (p : PortRef) (t : Mstid) (br : Bridge) :
    Frame informationOwned br (pismToSuperiorDesignated p t br) := by
  rw [pismToSuperiorDesignated]
  refine Frame.after (Frame.setPtp fun _ => rfl)
    (Frame.after (updtRcvdInfoWhile_frame p t _).mono ?_)
  refine Frame.after (recordTimes_frame p t _) (Frame.after (recordPriority_frame p t _) ?_)
  refine Frame.after (Frame.setPtp fun _ => rfl) (Frame.after (recordAgreement_frame p t _).mono ?_)
  refine Frame.after (Frame.setPtp fun _ => rfl) (Frame.after (setTcFlags_frame p t _).mono ?_)
  refine Frame.after (recordProposal_frame p t _).mono ?_
  exact Frame.after (Frame.setPtp fun _ => rfl) (Frame.setPort fun _ => rfl)

theorem pismToRepeatedDesignated_frame (p : PortRef) (t : Mstid) (br : Bridge) :
    Frame messageOwned br (pismToRepeatedDesignated p t br) := by
  rw [pismToRepeatedDesignated]
  refine Frame.after (Frame.setPtp fun _ => rfl) (Frame.after (updtRcvdInfoWhile_frame p t _) ?_)
  refine Frame.after (recordAgreement_frame p t _) (Frame.after (setTcFlags_frame p t _) ?_)
  refine Frame.after (recordProposal_frame p t _) ?_
  exact Frame.after (Frame.setPtp fun _ => rfl) (Frame.setPort fun _ => rfl)

theorem pismToInferiorDesignated_frame (p : PortRef) (t : Mstid) (br : Bridge) :
    Frame messageOwned br (pismToInferiorDesignated p t br) :=
  Frame.after (Frame.setPtp fun _ => rfl) (recordDispute_frame p t br)

theorem pismToNotDesignated_frame (p : PortRef) (t : Mstid) (br : Bridge) :
    Frame messageOwned br (pismToNotDesignated p t br) :=
  Frame.after (Frame.setPtp fun _ => rfl)
    (Frame.after (setTcFlags_frame p t _) (recordAgreement_frame p t br))

theorem pismToOther_frame (p : PortRef) (t : Mstid) (br : Bridge) :
    Frame messageOwned br (pismToOther p t br) := Frame.setPtp fun _ => rfl

theorem pismToCurrent_frame (p : PortRef) (t : Mstid) (br : Bridge) :
    Frame messageOwned br (pismToCurrent p t br) := Frame.setPtp fun _ => rfl

theorem pismToReceive_frame (p : PortRef) (t : Mstid) (br : Bridge) :
    Frame messageOwned br (pismToReceive p t br) := by
  rw [pismToReceive]
  exact Frame.after (recordMastered_frame p t _)
    (Frame.after (Frame.setPtp fun _ => rfl) (rcvInfo_frame p t br))

theorem pismTo_frame (p : PortRef) (t : Mstid) (s : PismState) (br : Bridge) :
    Frame pismOwned br (pismTo p t s br) := by
  cases s with
  | disabled => exact (pismToDisabled_frame p t br).mono
  | aged => exact (pismToAged_frame p t br).mono
  | update => exact pismToUpdate_frame p t br
  | superiorDesignated => exact (pismToSuperiorDesignated_frame p t br).mono
  | repeatedDesignated => exact (pismToRepeatedDesignated_frame p t br).mono
  | inferiorDesignated => exact (pismToInferiorDesignated_frame p t br).mono
  | notDesignated => exact (pismToNotDesignated_frame p t br).mono
  | other => exact (pismToOther_frame p t br).mono
  | current => exact (pismToCurrent_frame p t br).mono
  | receive => exact (pismToReceive_frame p t br).mono

/-- With the start time that BEGIN notes. -/
def pismBeginOwned : Owned where
  ptp x := pismOwned.ptp { x with startTime := 0 }
  port := pismOwned.port

instance : pismBeginOwned.KeepsLists := ⟨fun _ => rfl, fun _ => rfl⟩

instance : pismBeginOwned.KeepsEnabled := ⟨fun _ => rfl⟩

instance : pismOwned.Within pismBeginOwned :=
  ⟨fun _ => rfl, fun _ => rfl, fun _ => rfl, fun _ => rfl, fun _ h => absurd h Bool.false_ne_true⟩

theorem pismBegin_frame (p : PortRef) (t : Mstid) (br : Bridge) :
    Frame pismBeginOwned br (pismBegin p t br) := by
  rw [pismBegin]
  exact Frame.after (pismTo_frame p t .disabled _).mono (Frame.setPtp fun _ => rfl)

/-! ## Port Role Selection -/

def prssmOwned : Owned where
  ptp x :=
    { x with
      reselect := false, selected := false, designatedPriority := 0, designatedTimes := 0
      selectedRole := .disabled, updtInfo := false, agree := false, agreed := false
      synced := false, sync := false }
  tree x :=
    { x with prssmState := .initTree, rootPriority := 0, rootPortId := 0, rootTimes := 0 }

instance : prssmOwned.KeepsLists := ⟨fun _ => rfl, fun _ => rfl⟩

instance : prssmOwned.KeepsEnabled := ⟨fun _ => rfl⟩

theorem updtDesignated_frame (t : Mstid) (root : RootChoice) (br : Bridge) :
    Frame prssmOwned br (updtDesignated t root br) := by
  rw [updtDesignated]
  exact Frame.after (Frame.setTreePtps fun _ _ => rfl) (Frame.setTree fun _ => rfl)

theorem syncMaster_frame (br : Bridge) : Frame prssmOwned br (syncMaster br) where
  config := rfl
  ptp q s := by
    simp only [syncMaster]
    split <;> rfl
  port _ := rfl
  tree _ := rfl
  out := rfl

theorem updtSelectedRoles_frame (t : Mstid) (root : Option PortRef) (br : Bridge) :
    Frame prssmOwned br (updtSelectedRoles t root br) where
  config := rfl
  ptp q s := by
    simp only [updtSelectedRoles]
    split
    · split
      · rfl
      · split <;> rfl
    · rfl
  port _ := rfl
  tree _ := rfl
  out := rfl

theorem updtRolesTree_frame (t : Mstid) (br : Bridge) :
    Frame prssmOwned br (updtRolesTree t br) := by
  rw [updtRolesTree]
  refine Frame.after (updtSelectedRoles_frame t _ _) ?_
  have hdesignated := updtDesignated_frame t (selectRoot br t) br
  exact Frame.ite (Frame.after (syncMaster_frame _) hdesignated) hdesignated

/-- What `INIT_TREE` writes. -/
def initTreeOwned : Owned where
  ptp x := { x with selectedRole := .disabled }
  tree x := { x with prssmState := .initTree }

instance : initTreeOwned.KeepsLists := ⟨fun _ => rfl, fun _ => rfl⟩

instance : initTreeOwned.KeepsEnabled := ⟨fun _ => rfl⟩

theorem prssmToInitTree_frame (t : Mstid) (br : Bridge) :
    Frame initTreeOwned br (prssmToInitTree t br) := by
  rw [prssmToInitTree, updtRolesDisabledTree]
  exact Frame.after (Frame.setTreePtps fun _ _ => rfl) (Frame.setTree fun _ => rfl)

theorem prssmToRoleSelection_frame (t : Mstid) (br : Bridge) :
    Frame prssmOwned br (prssmToRoleSelection t br) := by
  rw [prssmToRoleSelection, setSelectedTree, clearReselectTree]
  refine Frame.after (Frame.setTreePtps fun _ _ => rfl) (Frame.after (updtRolesTree_frame t _) ?_)
  exact Frame.after (Frame.setTreePtps fun _ _ => rfl) (Frame.setTree fun _ => rfl)

theorem prssmRun_frame (t : Mstid) (br : Bridge) : Frame prssmOwned br (prssmRun t br) :=
  Frame.ite (prssmToRoleSelection_frame t br) (Frame.refl _ _)

/-! ## Port Role Transitions -/

def prtsmOwned : Owned where
  ptp x :=
    { x with
      prtsmState := .initPort, role := .disabled, learn := false, forward := false
      synced := false, sync := false, reRoot := false, rrWhile := 0, fdWhile := 0, rbWhile := 0
      proposed := false, agree := false, agreed := false, disputed := false, proposing := false }
  port x := { x with newInfo := false, newInfoMsti := false, edgeDelayWhile := 0 }

instance : prtsmOwned.KeepsLists := ⟨fun _ => rfl, fun _ => rfl⟩

instance : prtsmOwned.KeepsEnabled := ⟨fun _ => rfl⟩

theorem prtsmEnter_owned (v : PrtsmVars) (sendRSTP : Bool) (s : PrtsmState) (x : PerTreePort) :
    prtsmOwned.ptp (prtsmEnter v sendRSTP s x) = prtsmOwned.ptp x := by
  cases s <;> rfl

theorem prtsmTree_frame (t : Mstid) (s : PrtsmState) (br : Bridge) :
    Frame prtsmOwned br (prtsmTree t s br) := by
  have hsync : Frame prtsmOwned br (setSyncTree t br) := Frame.setTreePtps fun _ _ => rfl
  have hreroot : Frame prtsmOwned br (setReRootTree t br) := Frame.setTreePtps fun _ _ => rfl
  unfold prtsmTree
  split
  · exact hsync
  · exact hsync
  · exact hsync
  · exact hreroot
  · exact Frame.refl _ _

theorem prtsmTo_frame (v : PrtsmVars) (p : PortRef) (t : Mstid) (s : PrtsmState) (br : Bridge) :
    Frame prtsmOwned br (prtsmTo v p t s br) := by
  rw [prtsmTo]
  exact Frame.after (Frame.setPtp (prtsmEnter_owned _ _ _))
    (Frame.after (Frame.setPort fun _ => rfl) (prtsmTree_frame t s br))

theorem prtsmToInitPort_frame (p : PortRef) (t : Mstid) (br : Bridge) :
    Frame prtsmOwned br (prtsmToInitPort p t br) := by
  rw [prtsmToInitPort]
  exact Frame.setPtp fun _ => rfl

/-! ## Port State Transition -/

def MstpOut.isSetState : MstpOut → Bool
  | .setState .. => true
  | _ => false

def pstsmOwned : Owned where
  ptp x :=
    { x with pstsmState := .discarding, state := .disabled, learning := false, forwarding := false }
  port x := { x with numTransFwd := 0, numTransBlk := 0 }
  out := MstpOut.isSetState

instance : pstsmOwned.KeepsLists := ⟨fun _ => rfl, fun _ => rfl⟩

instance : pstsmOwned.KeepsEnabled := ⟨fun _ => rfl⟩

theorem mstpOutSetState_frame (p : PortRef) (t : Mstid) (s : BrState) (br : Bridge) :
    Frame pstsmOwned br (mstpOutSetState p t s br) := by
  rw [mstpOutSetState]
  exact Frame.after (Frame.emit rfl)
    (Frame.after (Frame.setPort fun _ => rfl) (Frame.setPtp fun _ => rfl))

theorem pstsmPush_frame (p : PortRef) (t : Mstid) (s : BrState) (br : Bridge) :
    Frame pstsmOwned br (pstsmPush p t s br) :=
  Frame.ite (mstpOutSetState_frame p t s br) (Frame.refl _ _)

theorem pstsmTo_frame (p : PortRef) (t : Mstid) (s : PstsmState) (br : Bridge) :
    Frame pstsmOwned br (pstsmTo p t s br) := by
  cases s with
  | discarding =>
    rw [pstsmTo]
    exact Frame.after (Frame.setPtp fun _ => rfl) (pstsmPush_frame p t _ br)
  | learning =>
    rw [pstsmTo]
    exact Frame.after (Frame.setPtp fun _ => rfl) (pstsmPush_frame p t _ br)
  | forwarding =>
    rw [pstsmTo]
    exact Frame.after (Frame.setPtp fun _ => rfl) (pstsmPush_frame p t _ br)

/-! ## Topology Change -/

def MstpOut.isFlush : MstpOut → Bool
  | .flushAllFids .. => true
  | .setAgeingTime .. => true
  | _ => false

def tcsmOwned : Owned where
  ptp x :=
    { x with
      tcsmState := .inactive, fdbFlush := false, calledFromFlushRoutine := false, tcWhile := 0
      rcvdTc := false, tcProp := false }
  port x :=
    { x with
      tcAck := false, rcvdTcn := false, rcvdTcAck := false, newInfo := false
      newInfoMsti := false, rapidAgeingWhile := 0 }
  tree x :=
    { x with
      topologyChange := false, timeSinceTopologyChange := 0, topologyChangeCount := 0
      topologyChangePort := "", lastTopologyChangePort := "" }
  out := MstpOut.isFlush

instance : tcsmOwned.KeepsLists := ⟨fun _ => rfl, fun _ => rfl⟩

instance : tcsmOwned.KeepsEnabled := ⟨fun _ => rfl⟩

theorem setFdbFlush_frame (p : PortRef) (t : Mstid) (br : Bridge) :
    Frame tcsmOwned br (setFdbFlush p t br) := by
  rw [setFdbFlush]
  refine Frame.ite (Frame.setPtp fun _ => rfl) (Frame.ite ?_ ?_)
  · exact Frame.after (Frame.emit rfl) (Frame.setPtp fun _ => rfl)
  · exact Frame.after (Frame.setPtp fun _ => rfl)
      (Frame.after (Frame.setPort fun _ => rfl) (Frame.emit rfl))

theorem setTopologyChange_frame (t : Mstid) (p : PortRef) (br : Bridge) :
    Frame tcsmOwned br (setTopologyChange t p br) := Frame.setTree fun _ => rfl

theorem resetTopologyChange_frame (t : Mstid) (br : Bridge) :
    Frame tcsmOwned br (resetTopologyChange t br) := by
  rw [resetTopologyChange]
  exact Frame.setTree fun _ => rfl

theorem newTcWhile_frame (p : PortRef) (t : Mstid) (br : Bridge) :
    Frame tcsmOwned br (newTcWhile p t br) := by
  rw [newTcWhile]
  refine Frame.ite (Frame.refl _ _) (Frame.ite ?_ ?_)
  · exact Frame.after (setNewInfo_frame p t _ fun _ _ _ => rfl)
      (Frame.after (setTopologyChange_frame t p _) (Frame.setPtp fun _ => rfl))
  · exact Frame.after (setTopologyChange_frame t p _) (Frame.setPtp fun _ => rfl)

theorem setTcPropTree_frame (p : PortRef) (t : Mstid) (br : Bridge) :
    Frame tcsmOwned br (setTcPropTree p t br) := Frame.setTreePtps fun _ _ => rfl

theorem tcsmToInactive_frame (p : PortRef) (t : Mstid) (br : Bridge) :
    Frame tcsmOwned br (tcsmToInactive p t br) := by
  rw [tcsmToInactive]
  refine Frame.after (Frame.setPort fun _ => rfl) (Frame.after (resetTopologyChange_frame t _) ?_)
  refine Frame.after (Frame.setPtp fun _ => rfl) (Frame.after (setFdbFlush_frame p t _) ?_)
  exact Frame.setPtp fun _ => rfl

theorem tcsmToLearning_frame (p : PortRef) (t : Mstid) (br : Bridge) :
    Frame tcsmOwned br (tcsmToLearning p t br) := by
  rw [tcsmToLearning]
  exact Frame.after (Frame.setPtp fun _ => rfl) (Frame.setPort fun _ => rfl)

theorem tcsmToDetected_frame (p : PortRef) (t : Mstid) (br : Bridge) :
    Frame tcsmOwned br (tcsmToDetected p t br) := by
  rw [tcsmToDetected]
  refine Frame.after (setNewInfo_frame p t _ fun _ _ _ => rfl) ?_
  exact Frame.after (setTcPropTree_frame p t _)
    (Frame.after (newTcWhile_frame p t _) (Frame.setPtp fun _ => rfl))

theorem tcsmToNotifiedTcn_frame (p : PortRef) (t : Mstid) (br : Bridge) :
    Frame tcsmOwned br (tcsmToNotifiedTcn p t br) := by
  rw [tcsmToNotifiedTcn]
  exact Frame.after (newTcWhile_frame p t _) (Frame.setPtp fun _ => rfl)

theorem tcsmToNotifiedTc_frame (p : PortRef) (t : Mstid) (br : Bridge) :
    Frame tcsmOwned br (tcsmToNotifiedTc p t br) := by
  rw [tcsmToNotifiedTc]
  exact Frame.after (setTcPropTree_frame p t _)
    (Frame.after (Frame.setPort fun _ => rfl) (Frame.setPtp fun _ => rfl))

theorem tcsmToPropagating_frame (p : PortRef) (t : Mstid) (br : Bridge) :
    Frame tcsmOwned br (tcsmToPropagating p t br) := by
  rw [tcsmToPropagating]
  refine Frame.after (Frame.setPtp fun _ => rfl) (Frame.after (setFdbFlush_frame p t _) ?_)
  exact Frame.after (newTcWhile_frame p t _) (Frame.setPtp fun _ => rfl)

theorem tcsmToAcknowledged_frame (p : PortRef) (t : Mstid) (br : Bridge) :
    Frame tcsmOwned br (tcsmToAcknowledged p t br) := by
  rw [tcsmToAcknowledged]
  exact Frame.after (Frame.setPort fun _ => rfl)
    (Frame.after (resetTopologyChange_frame t _) (Frame.setPtp fun _ => rfl))

theorem tcsmTo_frame (p : PortRef) (t : Mstid) (s : TcsmState) (br : Bridge) :
    Frame tcsmOwned br (tcsmTo p t s br) := by
  cases s with
  | inactive => exact tcsmToInactive_frame p t br
  | learning => exact tcsmToLearning_frame p t br
  | detected => exact tcsmToDetected_frame p t br
  | notifiedTcn => exact tcsmToNotifiedTcn_frame p t br
  | notifiedTc => exact tcsmToNotifiedTc_frame p t br
  | propagating => exact tcsmToPropagating_frame p t br
  | acknowledged => exact tcsmToAcknowledged_frame p t br
  | active =>
    rw [tcsmTo, tcsmToActive]
    exact Frame.setPtp fun _ => rfl

/-! ## The entries of other ports and trees -/

/-- Entries other than that of `p` in `t` differ only in what the mask clears. -/
def Local (m : PerTreePort → PerTreePort) (p : PortRef) (t : Mstid) (br br' : Bridge) : Prop :=
  ∀ q s, ¬ (q = p ∧ s = t) → m (br'.ptp q s) = m (br.ptp q s)

namespace Local

variable {m : PerTreePort → PerTreePort} {p : PortRef} {t : Mstid} {br br' br'' : Bridge}

theorem refl : Local m p t br br := fun _ _ _ => rfl

theorem after (h' : Local m p t br' br'') (h : Local m p t br br') : Local m p t br br'' :=
  fun q s hne => (h' q s hne).trans (h q s hne)

theorem self {f : PerTreePort → PerTreePort} : Local m p t br (br.setPtp p t f) := by
  intro q s hne
  simp only [Bridge.setPtp, hne, if_false]

theorem setPort {q : PortRef} {f : Port → Port} : Local m p t br (br.setPort q f) :=
  fun _ _ _ => rfl

theorem setTree {s : Mstid} {f : Tree → Tree} : Local m p t br (br.setTree s f) :=
  fun _ _ _ => rfl

theorem emit {c : MstpOut} : Local m p t br (br.emit c) := fun _ _ _ => rfl

theorem setPortPtps {q : PortRef} {f : Mstid → PerTreePort → PerTreePort}
    (hf : ∀ s x, m (f s x) = m x) : Local m p t br (br.setPortPtps q f) := by
  intro q' s _
  simp only [Bridge.setPortPtps]
  split
  · exact hf _ _
  · rfl

theorem setMstiPtps {q : PortRef} {f : Mstid → PerTreePort → PerTreePort}
    (hf : ∀ s x, m (f s x) = m x) : Local m p t br (br.setMstiPtps q f) := by
  refine setPortPtps fun s x => ?_
  split
  · rfl
  · exact hf s x

theorem setTreePtps {s : Mstid} {f : PortRef → PerTreePort → PerTreePort}
    (hf : ∀ q x, m (f q x) = m x) : Local m p t br (br.setTreePtps s f) := by
  intro q s' _
  simp only [Bridge.setTreePtps]
  split
  · exact hf _ _
  · rfl

theorem eq {α : Type} (h : Local m p t br br') (f : PerTreePort → α) (hf : ∀ x, f (m x) = f x)
    {q : PortRef} {s : Mstid} (hne : ¬ (q = p ∧ s = t)) : f (br'.ptp q s) = f (br.ptp q s) := by
  rw [← hf, h q s hne, hf]

end Local

/-- What the treatment of a message may write in the other trees of its port. -/
def sharedByMessage (x : PerTreePort) : PerTreePort :=
  { x with
    rcvdTc := false, agreed := false, proposing := false, disputed := false, mastered := false
    proposed := false }

theorem recordAgreement_local (p : PortRef) (t : Mstid) (br : Bridge) :
    Local sharedByMessage p t br (recordAgreement p t br) := by
  rw [recordAgreement]
  split
  · rename_i ht
    subst ht
    exact Local.after (Local.setMstiPtps fun _ _ => rfl) Local.self
  · exact Local.self

theorem recordDispute_local (p : PortRef) (t : Mstid) (br : Bridge) :
    Local sharedByMessage p t br (recordDispute p t br) := by
  rw [recordDispute]
  split
  · rename_i ht
    subst ht
    exact Local.after (Local.setMstiPtps fun _ _ => rfl) Local.self
  · exact Local.self

theorem recordMastered_local (p : PortRef) (t : Mstid) (br : Bridge) :
    Local sharedByMessage p t br (recordMastered p t br) := by
  rw [recordMastered]
  split
  · exact Local.setMstiPtps fun _ _ => rfl
  · exact Local.self

theorem recordProposal_local (p : PortRef) (t : Mstid) (br : Bridge) :
    Local sharedByMessage p t br (recordProposal p t br) := by
  rw [recordProposal]
  split
  · rename_i ht
    subst ht
    exact Local.after (Local.setMstiPtps fun _ _ => rfl) Local.self
  · exact Local.self

theorem setTcFlags_local (p : PortRef) (t : Mstid) (br : Bridge) :
    Local sharedByMessage p t br (setTcFlags p t br) := by
  rw [setTcFlags]
  split
  · rename_i ht
    subst ht
    exact Local.after (Local.setMstiPtps fun _ _ => rfl) (Local.after Local.self Local.setPort)
  · exact Local.self

theorem rcvInfo_local (p : PortRef) (t : Mstid) (br : Bridge) :
    Local sharedByMessage p t br (rcvInfo p t br).2 := by
  rw [rcvInfo]
  split
  · dsimp only
    exact Local.after (Local.setPortPtps fun _ _ => rfl) Local.setPort
  · split
    · exact Local.refl
    · dsimp only
      exact Local.self

theorem updtRcvdInfoWhile_local (p : PortRef) (t : Mstid) (br : Bridge) :
    Local sharedByMessage p t br (updtRcvdInfoWhile p t br) := by
  rw [updtRcvdInfoWhile]
  exact Local.self

theorem pismToSuperiorDesignated_local (p : PortRef) (t : Mstid) (br : Bridge) :
    Local sharedByMessage p t br (pismToSuperiorDesignated p t br) := by
  rw [pismToSuperiorDesignated]
  refine Local.after Local.self (Local.after (updtRcvdInfoWhile_local p t _) ?_)
  refine Local.after Local.self (Local.after Local.self ?_)
  refine Local.after Local.self (Local.after (recordAgreement_local p t _) ?_)
  refine Local.after Local.self (Local.after (setTcFlags_local p t _) ?_)
  exact Local.after (recordProposal_local p t _) (Local.after Local.self Local.setPort)

theorem pismToRepeatedDesignated_local (p : PortRef) (t : Mstid) (br : Bridge) :
    Local sharedByMessage p t br (pismToRepeatedDesignated p t br) := by
  rw [pismToRepeatedDesignated]
  refine Local.after Local.self (Local.after (updtRcvdInfoWhile_local p t _) ?_)
  refine Local.after (recordAgreement_local p t _) (Local.after (setTcFlags_local p t _) ?_)
  exact Local.after (recordProposal_local p t _) (Local.after Local.self Local.setPort)

theorem pismTo_local (p : PortRef) (t : Mstid) (s : PismState) (br : Bridge) :
    Local sharedByMessage p t br (pismTo p t s br) := by
  cases s with
  | disabled =>
    rw [pismTo, pismToDisabled]
    exact Local.self
  | aged =>
    rw [pismTo, pismToAged]
    exact Local.self
  | update =>
    rw [pismTo, pismToUpdate]
    exact Local.after Local.setPort Local.self
  | superiorDesignated => exact pismToSuperiorDesignated_local p t br
  | repeatedDesignated => exact pismToRepeatedDesignated_local p t br
  | inferiorDesignated =>
    rw [pismTo, pismToInferiorDesignated]
    exact Local.after Local.self (recordDispute_local p t br)
  | notDesignated =>
    rw [pismTo, pismToNotDesignated]
    exact Local.after Local.self
      (Local.after (setTcFlags_local p t _) (recordAgreement_local p t br))
  | other =>
    rw [pismTo, pismToOther]
    exact Local.self
  | current =>
    rw [pismTo, pismToCurrent]
    exact Local.self
  | receive =>
    rw [pismTo, pismToReceive]
    exact Local.after (recordMastered_local p t _)
      (Local.after Local.self (rcvInfo_local p t br))

end Mstpd
