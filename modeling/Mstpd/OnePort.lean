import Mstpd.Reselect
import Mstpd.Trace

/-!
# What an action does to one port

Most actions write only to the record and the per-tree entries of their own port. The
others reach every port of a tree through a procedure that writes one or two flags. For
a property of one port in the CIST the remaining cases are the actions of that port and
the role selection of the CIST.
-/

namespace Mstpd

open Bridge Machine

/-- Nothing of the port is written. -/
def Untouched (p : PortRef) (br br' : Bridge) : Prop :=
  br'.port p = br.port p ∧ ∀ u, br'.ptp p u = br.ptp p u

namespace Untouched

variable {p q : PortRef} {br br' br'' : Bridge}

theorem refl : Untouched p br br := ⟨rfl, fun _ => rfl⟩

/-- The later step comes first, so that it fixes the state in between. -/
theorem after (h' : Untouched p br' br'') (h : Untouched p br br') : Untouched p br br'' :=
  ⟨h'.1.trans h.1, fun u => (h'.2 u).trans (h.2 u)⟩

theorem setPort {f : Port → Port} (hne : p ≠ q) : Untouched p br (br.setPort q f) :=
  ⟨if_neg hne, fun _ => rfl⟩

theorem setPtp {t : Mstid} {f : PerTreePort → PerTreePort} (hne : p ≠ q) :
    Untouched p br (br.setPtp q t f) := ⟨rfl, fun _ => if_neg fun h => hne h.1⟩

theorem setPortPtps {f : Mstid → PerTreePort → PerTreePort} (hne : p ≠ q) :
    Untouched p br (br.setPortPtps q f) := ⟨rfl, fun _ => if_neg fun h => hne h.1⟩

theorem setMstiPtps {f : Mstid → PerTreePort → PerTreePort} (hne : p ≠ q) :
    Untouched p br (br.setMstiPtps q f) := setPortPtps hne

theorem emit {c : MstpOut} : Untouched p br (br.emit c) := refl

theorem ite {c : Prop} [Decidable c] (h : Untouched p br br') (h' : Untouched p br br'') :
    Untouched p br (if c then br' else br'') := by
  split
  · exact h
  · exact h'

end Untouched

section Untouched

variable {p q : PortRef} (hne : p ≠ q) (br : Bridge)

include hne

theorem assuranceRun_untouched : Untouched p br (assuranceRun q br) :=
  .ite (.setPort hne) .refl

theorem prsmTo_untouched (s : PrsmState) : Untouched p br (prsmTo q s br) := by
  cases s with
  | discard =>
    rw [prsmTo, prsmToDiscard, clearAllRcvdMsgs]
    exact .after (.setPortPtps hne) (.setPort hne)
  | receive =>
    rw [prsmTo, prsmToReceive, setRcvdMsgs, updtBPDUVersion]
    refine .after (.setPort hne) (.after (.setMstiPtps hne) (.after (.setPtp hne) ?_))
    exact .after (.setPort hne) (.after (.setPort hne) (.setPort hne))

theorem ppmsmTo_untouched (s : PpmsmState) : Untouched p br (ppmsmTo q s br) := by
  cases s with
  | checkingRstp => exact ⟨if_neg hne, fun _ => rfl⟩
  | selectingStp => exact ⟨if_neg hne, fun _ => rfl⟩
  | sensing => exact ⟨if_neg hne, fun _ => rfl⟩

theorem bdsmTo_untouched (s : BdsmState) : Untouched p br (bdsmTo q s br) := by
  cases s with
  | edge => exact ⟨if_neg hne, fun _ => rfl⟩
  | notEdge => exact ⟨if_neg hne, fun _ => rfl⟩

theorem mstpOutTxBpdu_untouched (b : Bpdu) (size : Nat) :
    Untouched p br (mstpOutTxBpdu q b size br) := .after .emit (.setPort hne)

theorem ptsmTo_untouched (s : PtsmState) : Untouched p br (ptsmTo q s br) := by
  cases s with
  | transmitInit => exact ⟨if_neg hne, fun _ => rfl⟩
  | transmitConfig =>
    rw [ptsmTo, ptsmToTransmitConfig, txConfig]
    exact .after (.setPort hne)
      (.after (.ite .refl (mstpOutTxBpdu_untouched hne _ _ _)) (.setPort hne))
  | transmitTcn =>
    rw [ptsmTo, ptsmToTransmitTcn, txTcn]
    exact .after (.setPort hne)
      (.after (.ite .refl (mstpOutTxBpdu_untouched hne _ _ _)) (.setPort hne))
  | transmitRstp =>
    rw [ptsmTo, ptsmToTransmitRstp, txMstp]
    exact .after (.setPort hne)
      (.after (.ite .refl (mstpOutTxBpdu_untouched hne _ _ _)) (.setPort hne))
  | transmitPeriodic =>
    rw [ptsmTo, ptsmToTransmitPeriodic]
    exact .setPort hne
  | idle => exact ⟨if_neg hne, fun _ => rfl⟩

theorem recordAgreement_untouched (t : Mstid) : Untouched p br (recordAgreement q t br) := by
  rw [recordAgreement]
  exact .ite (.after (.setMstiPtps hne) (.setPtp hne)) (.setPtp hne)

theorem recordDispute_untouched (t : Mstid) : Untouched p br (recordDispute q t br) := by
  rw [recordDispute]
  exact .ite (.after (.setMstiPtps hne) (.setPtp hne)) (.setPtp hne)

theorem recordMastered_untouched (t : Mstid) : Untouched p br (recordMastered q t br) := by
  rw [recordMastered]
  exact .ite (.setMstiPtps hne) (.setPtp hne)

theorem recordProposal_untouched (t : Mstid) : Untouched p br (recordProposal q t br) := by
  rw [recordProposal]
  exact .ite (.after (.setMstiPtps hne) (.setPtp hne)) (.setPtp hne)

theorem setTcFlags_untouched (t : Mstid) : Untouched p br (setTcFlags q t br) := by
  rw [setTcFlags]
  exact .ite (.after (.setMstiPtps hne) (.after (.setPtp hne) (.setPort hne))) (.setPtp hne)

theorem updtRcvdInfoWhile_untouched (t : Mstid) : Untouched p br (updtRcvdInfoWhile q t br) := by
  rw [updtRcvdInfoWhile]
  exact .setPtp hne

theorem rcvInfo_untouched (t : Mstid) : Untouched p br (rcvInfo q t br).2 := by
  rw [rcvInfo]
  split
  · dsimp only
    exact .after (.setPortPtps hne) (.setPort hne)
  · split
    · exact .refl
    · dsimp only
      exact .setPtp hne

theorem pismTo_untouched (t : Mstid) (s : PismState) : Untouched p br (pismTo q t s br) := by
  cases s with
  | disabled => exact ⟨rfl, fun _ => if_neg fun h => hne h.1⟩
  | aged => exact ⟨rfl, fun _ => if_neg fun h => hne h.1⟩
  | update =>
    rw [pismTo, pismToUpdate]
    exact .after (.setPort hne) (.setPtp hne)
  | superiorDesignated =>
    rw [pismTo, pismToSuperiorDesignated, recordPriority, recordTimes]
    refine .after (.setPtp hne) (.after (updtRcvdInfoWhile_untouched hne _ t) ?_)
    refine .after (.setPtp hne) (.after (.setPtp hne) (.after (.setPtp hne) ?_))
    refine .after (recordAgreement_untouched hne _ t) (.after (.setPtp hne) ?_)
    refine .after (setTcFlags_untouched hne _ t) (.after (recordProposal_untouched hne _ t) ?_)
    exact .after (.setPtp hne) (.setPort hne)
  | repeatedDesignated =>
    rw [pismTo, pismToRepeatedDesignated]
    refine .after (.setPtp hne) (.after (updtRcvdInfoWhile_untouched hne _ t) ?_)
    refine .after (recordAgreement_untouched hne _ t) (.after (setTcFlags_untouched hne _ t) ?_)
    exact .after (recordProposal_untouched hne _ t) (.after (.setPtp hne) (.setPort hne))
  | inferiorDesignated =>
    rw [pismTo, pismToInferiorDesignated]
    exact .after (.setPtp hne) (recordDispute_untouched hne br t)
  | notDesignated =>
    rw [pismTo, pismToNotDesignated]
    exact .after (.setPtp hne)
      (.after (setTcFlags_untouched hne _ t) (recordAgreement_untouched hne br t))
  | other => exact ⟨rfl, fun _ => if_neg fun h => hne h.1⟩
  | current => exact ⟨rfl, fun _ => if_neg fun h => hne h.1⟩
  | receive =>
    rw [pismTo, pismToReceive]
    exact .after (recordMastered_untouched hne _ t)
      (.after (.setPtp hne) (rcvInfo_untouched hne br t))

theorem pstsmTo_untouched (t : Mstid) (s : PstsmState) : Untouched p br (pstsmTo q t s br) := by
  have hpush : ∀ s', Untouched p br (pstsmPush q t s' br) := fun s' =>
    .ite (.after .emit (.after (.setPort hne) (.setPtp hne))) .refl
  cases s with
  | discarding =>
    rw [pstsmTo]
    exact .after (.setPtp hne) (hpush .blocking)
  | learning =>
    rw [pstsmTo]
    exact .after (.setPtp hne) (hpush .learning)
  | forwarding =>
    rw [pstsmTo]
    exact .after (.setPtp hne) (hpush .forwarding)

theorem linkUp_untouched (speed duplex : Int) : Untouched p br (linkUp q speed duplex br) := by
  rw [linkUp, portUp, updtbrAssuRcvdInfoWhile, assignLink]
  exact .ite (.after (.setPortPtps hne) (.setPort hne)) (.after (.setPort hne)
    (.after (.setPort hne) (.after (.setPortPtps hne) (.setPort hne))))

theorem rxAssign_untouched (bpdu : Mem) (size : Nat) :
    Untouched p br (rxAssign q bpdu size br) := by
  have hcount : Untouched p br (br.setPort q fun prt =>
      { prt with numRxBpdu := prt.numRxBpdu + 1 }) := .setPort hne
  rw [rxAssign]
  split
  · exact .after .emit (.after (.setPort hne) hcount)
  · exact .after (.setPort hne) hcount
  · exact hcount
  · split
    · exact hcount
    · rw [acceptBpdu, updtbrAssuRcvdInfoWhile]
      exact .after (.setPort hne) (.after (.setPort hne) hcount)

theorem writePortConfig_untouched (cfg : CistPortConfig) :
    Untouched p br (writePortConfig q cfg br) := by
  rw [writePortConfig]
  exact .ite (.after (.setPort hne) (.setPtp hne))
    (.after (bdsmTo_untouched hne _ _) (.after (.setPort hne) (.setPtp hne)))

theorem writePtpConfig_untouched (t : Mstid) (cfg : MstiPortConfig) :
    Untouched p br (writePtpConfig q t cfg br) := by
  rw [writePtpConfig]
  exact .ite (.after (.setPtp hne) (.setPtp hne)) (.setPtp hne)

end Untouched

/-- The port whose objects alone an action writes. -/
def Act.on : Act → Option PortRef
  | .assurance q => some q
  | .prsm q _ => some q
  | .ppmsm q _ => some q
  | .bdsm q _ => some q
  | .ptsm q _ => some q
  | .pism q _ _ => some q
  | .pstsm q _ _ => some q
  | .markDeleted q => some q
  | .linkUp q _ _ => some q
  | .linkDown q => some q
  | .flushed q _ => some q
  | .rxBpdu q _ _ => some q
  | .portConfig q _ => some q
  | .mstiPortConfig q _ _ => some q
  | .mcheck q => some q
  | .sysdeps q _ _ => some q
  | _ => none

theorem Act.untouched {a : Act} {p q : PortRef} (ha : a.on = some q) (hne : p ≠ q) (br : Bridge) :
    Untouched p br (a.run br) := by
  cases a with
  | assurance r => exact Option.some.inj ha ▸ assuranceRun_untouched hne br
  | prsm r s => exact Option.some.inj ha ▸ prsmTo_untouched hne br s
  | ppmsm r s => exact Option.some.inj ha ▸ ppmsmTo_untouched hne br s
  | bdsm r s => exact Option.some.inj ha ▸ bdsmTo_untouched hne br s
  | ptsm r s => exact Option.some.inj ha ▸ ptsmTo_untouched hne br s
  | pism r t s => exact Option.some.inj ha ▸ pismTo_untouched hne br t s
  | pstsm r t s => exact Option.some.inj ha ▸ pstsmTo_untouched hne br t s
  | markDeleted r => exact Option.some.inj ha ▸ ⟨if_neg hne, fun _ => rfl⟩
  | linkUp r speed duplex => exact Option.some.inj ha ▸ linkUp_untouched hne br speed duplex
  | linkDown r => exact Option.some.inj ha ▸ ⟨if_neg hne, fun _ => rfl⟩
  | flushed r t => exact Option.some.inj ha ▸ ⟨rfl, fun _ => if_neg fun h => hne h.1⟩
  | rxBpdu r bpdu size => exact Option.some.inj ha ▸ rxAssign_untouched hne br bpdu size
  | portConfig r cfg => exact Option.some.inj ha ▸ writePortConfig_untouched hne br cfg
  | mstiPortConfig r t cfg => exact Option.some.inj ha ▸ writePtpConfig_untouched hne br t cfg
  | mcheck r =>
    obtain rfl := Option.some.inj ha
    exact ⟨if_neg hne, fun _ => if_neg fun h => hne h.1⟩
  | sysdeps r speed duplex => exact Option.some.inj ha ▸ ⟨if_neg hne, fun _ => rfl⟩
  | _ => cases ha

/-! ## The entry of the CIST -/

def withoutRcvdTc (x : PerTreePort) : PerTreePort := { x with rcvdTc := false }

/-- The machines of the MSTIs write at most `rcvdTc` in the CIST. -/
def KeepsCist (p : PortRef) (br br' : Bridge) : Prop :=
  withoutRcvdTc (br'.cist p) = withoutRcvdTc (br.cist p)

namespace KeepsCist

variable {p q : PortRef} {br br' br'' : Bridge}

theorem refl : KeepsCist p br br := rfl

theorem after (h' : KeepsCist p br' br'') (h : KeepsCist p br br') : KeepsCist p br br'' :=
  h'.trans h

theorem setPort {f : Port → Port} : KeepsCist p br (br.setPort q f) := rfl

theorem setPtp {t : Mstid} {f : PerTreePort → PerTreePort} (ht : t ≠ 0) :
    KeepsCist p br (br.setPtp q t f) :=
  congrArg withoutRcvdTc (if_neg fun h => ht h.2.symm)

theorem eq {α : Type} (h : KeepsCist p br br') (f : PerTreePort → α)
    (hf : ∀ x, f (withoutRcvdTc x) = f x) : f (br'.cist p) = f (br.cist p) := by
  rw [← hf, h, hf]

end KeepsCist

section Msti

variable {q : PortRef} {t : Mstid} (ht : t ≠ 0) (p : PortRef) (br : Bridge)

include ht

theorem rcvInfo_msti : KeepsCist p br (rcvInfo q t br).2 := by
  rw [rcvInfo]
  split
  · simp only [KeepsCist, cist, Bridge.setPortPtps]
    split <;> rfl
  · split
    · exact .refl
    · dsimp only
      exact .setPtp ht

theorem recordAgreement_msti : KeepsCist p br (recordAgreement q t br) := by
  rw [recordAgreement, if_neg ht]
  exact .setPtp ht

theorem recordDispute_msti : KeepsCist p br (recordDispute q t br) := by
  rw [recordDispute, if_neg ht]
  exact .setPtp ht

theorem recordMastered_msti : KeepsCist p br (recordMastered q t br) := by
  rw [recordMastered, if_neg ht]
  exact .setPtp ht

theorem recordProposal_msti : KeepsCist p br (recordProposal q t br) := by
  rw [recordProposal, if_neg ht]
  exact .setPtp ht

theorem setTcFlags_msti : KeepsCist p br (setTcFlags q t br) := by
  rw [setTcFlags, if_neg ht]
  exact .setPtp ht

theorem updtRcvdInfoWhile_msti : KeepsCist p br (updtRcvdInfoWhile q t br) := by
  rw [updtRcvdInfoWhile]
  exact .setPtp ht

theorem pismTo_msti (s : PismState) : KeepsCist p br (pismTo q t s br) := by
  cases s with
  | disabled =>
    rw [pismTo, pismToDisabled]
    exact .setPtp ht
  | aged =>
    rw [pismTo, pismToAged]
    exact .setPtp ht
  | update =>
    rw [pismTo, pismToUpdate]
    exact .after .setPort (.setPtp ht)
  | superiorDesignated =>
    rw [pismTo, pismToSuperiorDesignated, recordPriority, recordTimes]
    refine .after (.setPtp ht) (.after (updtRcvdInfoWhile_msti ht p _) ?_)
    refine .after (.setPtp ht) (.after (.setPtp ht) (.after (.setPtp ht) ?_))
    refine .after (recordAgreement_msti ht p _) (.after (.setPtp ht) ?_)
    refine .after (setTcFlags_msti ht p _) (.after (recordProposal_msti ht p _) ?_)
    exact .after (.setPtp ht) .setPort
  | repeatedDesignated =>
    rw [pismTo, pismToRepeatedDesignated]
    refine .after (.setPtp ht) (.after (updtRcvdInfoWhile_msti ht p _) ?_)
    refine .after (recordAgreement_msti ht p _) (.after (setTcFlags_msti ht p _) ?_)
    exact .after (recordProposal_msti ht p _) (.after (.setPtp ht) .setPort)
  | inferiorDesignated =>
    rw [pismTo, pismToInferiorDesignated]
    exact .after (.setPtp ht) (recordDispute_msti ht p br)
  | notDesignated =>
    rw [pismTo, pismToNotDesignated]
    exact .after (.setPtp ht) (.after (setTcFlags_msti ht p _) (recordAgreement_msti ht p br))
  | other =>
    rw [pismTo, pismToOther]
    exact .setPtp ht
  | current =>
    rw [pismTo, pismToCurrent]
    exact .setPtp ht
  | receive =>
    rw [pismTo, pismToReceive]
    exact .after (recordMastered_msti ht p _) (.after (.setPtp ht) (rcvInfo_msti ht p br))

end Msti

/-- Port information of another port or of an MSTI. -/
theorem pismTo_elsewhere {p q : PortRef} {t : Mstid} (h : ¬ (q = p ∧ t = 0)) (s : PismState)
    (br : Bridge) : KeepsCist p br (pismTo q t s br) := by
  by_cases hp : p = q
  · exact pismTo_msti (fun ht => h ⟨hp.symm, ht⟩) p br s
  · rw [KeepsCist, cist, cist, (pismTo_untouched hp br t s).2 0]

def withoutSync (x : PerTreePort) : PerTreePort := { x with sync := false, reRoot := false }

theorem prtsmTree_cist (p : PortRef) (t : Mstid) (s : PrtsmState) (br : Bridge) :
    withoutSync ((prtsmTree t s br).cist p) = withoutSync (br.cist p) := by
  unfold prtsmTree
  split
  all_goals first
    | rfl
    | simp only [setSyncTree, setReRootTree, cist, Bridge.setTreePtps]
      split <;> rfl

theorem prtsmTo_self (v : PrtsmVars) (p : PortRef) (s : PrtsmState) (br : Bridge) :
    (prtsmTo v p 0 s br).cist p =
      prtsmEnter v (br.port p).sendRSTP s ((prtsmTree 0 s br).cist p) := by
  rw [prtsmTo, cist, setPtp_self]
  rfl

/-- Role transitions elsewhere ask the port at most to synchronize or to reroot. -/
theorem prtsmTo_elsewhere {p q : PortRef} {t : Mstid} (h : ¬ (q = p ∧ t = 0)) (v : PrtsmVars)
    (s : PrtsmState) (br : Bridge) :
    withoutSync ((prtsmTo v q t s br).cist p) = withoutSync (br.cist p) := by
  have hne : ¬ (p = q ∧ (0 : Mstid) = t) := fun h' => h ⟨h'.1.symm, h'.2.symm⟩
  rw [prtsmTo]
  simp only [cist, Bridge.setPtp, if_neg hne, Bridge.setPort]
  exact prtsmTree_cist p t s br

/-- What role selection writes in the entries of its tree. -/
def withoutSelection (x : PerTreePort) : PerTreePort :=
  { x with
    reselect := false, selected := false, designatedPriority := 0, designatedTimes := 0
    selectedRole := .disabled, updtInfo := false }

/-- Role selection for an MSTI leaves the CIST alone. -/
theorem roleSelection_msti {t : Mstid} (ht : t ≠ 0) (p : PortRef) (br : Bridge) :
    (prssmToRoleSelection t br).cist p = br.cist p := by
  have ht' : ¬ (0 : Mstid) = t := fun h => ht h.symm
  have hset : ∀ (b : Bridge) f, (b.setTreePtps t f).ptp p 0 = b.ptp p 0 := fun b f => by
    simp only [setTreePtps, ht', false_and, if_false]
  rw [prssmToRoleSelection, setSelectedTree, cist, hset]
  generalize hb : clearReselectTree t (br.setTree t _) = b
  have hptp : b.ptp p 0 = br.ptp p 0 := by
    rw [← hb, clearReselectTree, hset]
    rfl
  have hroles : ∀ root c, (updtSelectedRoles t root c).ptp p 0 = c.ptp p 0 := by
    intro root c
    have hno : reselectsMstis c t root p = false := by simp [reselectsMstis, ht]
    simp only [updtSelectedRoles, ht', if_false, hno, Bool.or_false]
    split
    · split <;> rfl
    · rfl
  have hmoved : ∀ c : Bool, (t == 0 && c) = false := fun c => by simp [ht]
  rw [updtRolesTree]
  simp only [hmoved, Bool.false_and, Bool.false_eq_true, if_false, hroles]
  rw [updtDesignated_ptp_other b _ fun h => ht' h.1, hptp, cist]

/-- No role selection writes the entries of ports that are not in the list. -/
theorem roleSelection_absent (t : Mstid) {p : PortRef} {br : Bridge} (hp : p ∉ br.ports)
    (u : Mstid) : (prssmToRoleSelection t br).ptp p u = br.ptp p u := by
  have hset : ∀ (b : Bridge) f, p ∉ b.ports → (b.setTreePtps t f).ptp p u = b.ptp p u := by
    intro b f hb
    simp only [setTreePtps, hb, and_false, if_false]
  rw [prssmToRoleSelection, setSelectedTree]
  generalize hb : clearReselectTree t (br.setTree t _) = b
  have hports : p ∉ b.ports := by
    rw [← hb]
    exact hp
  have hptp : b.ptp p u = br.ptp p u := by
    rw [← hb, clearReselectTree]
    exact hset _ _ hp
  have hdes : ∀ root, (updtDesignated t root b).ptp p u = br.ptp p u := fun root => by
    rw [updtDesignated_ptp_other b root fun h => hports h.2, hptp]
  have hpd : ∀ root, p ∉ (updtDesignated t root b).ports := fun root => hports
  rw [hset _ _ ((updtRolesTree_frame t b).ports_eq ▸ hports), updtRolesTree]
  simp only [updtSelectedRoles]
  split
  · simp only [if_false, syncMaster, hpd, false_and, and_false]
    exact hdes _
  · simp only [hpd, if_false]
    exact hdes _

theorem roleSelection_cist (t : Mstid) (p : PortRef) (br : Bridge) :
    withoutSelection ((prssmToRoleSelection t br).cist p) = withoutSelection (br.cist p) := by
  by_cases ht : t = 0
  · subst ht
    by_cases hp : p ∈ br.ports
    · rw [cist, roleSelection_self 0 hp]
      rfl
    · rw [cist, roleSelection_absent 0 hp]
      rfl
  · rw [roleSelection_msti ht]

/-! ## BEGIN -/

/-- What the BEGIN of machines other than port information and role selection writes. -/
def beginOwned : Owned where
  ptp x :=
    tcsmOwned.ptp <| pstsmOwned.ptp <| discardOwned.ptp
      { x with
        selectedRole := .disabled, prtsmState := .initPort, role := .disabled, learn := false
        forward := false, synced := false, sync := false, reRoot := false, rrWhile := 0
        fdWhile := 0, rbWhile := 0 }
  port x :=
    tcsmOwned.port <| pstsmOwned.port <| ptsmOwned.port <| bdsmOwned.port <| ppmsmOwned.port <|
      discardOwned.port x
  tree x := tcsmOwned.tree { x with prssmState := .initTree }
  out _ := true

instance : beginOwned.KeepsLists := ⟨fun _ => rfl, fun _ => rfl⟩

instance : discardOwned.Within beginOwned :=
  ⟨fun _ => rfl, fun _ => rfl, fun _ => rfl, fun _ => rfl, fun _ _ => rfl⟩

instance : ppmsmOwned.Within beginOwned :=
  ⟨fun _ => rfl, fun _ => rfl, fun _ => rfl, fun _ => rfl, fun _ _ => rfl⟩

instance : bdsmOwned.Within beginOwned :=
  ⟨fun _ => rfl, fun _ => rfl, fun _ => rfl, fun _ => rfl, fun _ _ => rfl⟩

instance : ptsmOwned.Within beginOwned :=
  ⟨fun _ => rfl, fun _ => rfl, fun _ => rfl, fun _ => rfl, fun _ _ => rfl⟩

instance : initTreeOwned.Within beginOwned :=
  ⟨fun _ => rfl, fun _ => rfl, fun _ => rfl, fun _ => rfl, fun _ _ => rfl⟩

instance : pstsmOwned.Within beginOwned :=
  ⟨fun _ => rfl, fun _ => rfl, fun _ => rfl, fun _ => rfl, fun _ _ => rfl⟩

instance : tcsmOwned.Within beginOwned :=
  ⟨fun _ => rfl, fun _ => rfl, fun _ => rfl, fun _ => rfl, fun _ _ => rfl⟩

theorem prtsmToInitPort_begin (p : PortRef) (t : Mstid) (br : Bridge) :
    Frame beginOwned br (prtsmToInitPort p t br) := by
  rw [prtsmToInitPort]
  exact Frame.setPtp fun _ => rfl

theorem ptpMachinesBegin_begin (refs : List (PortRef × Mstid)) (br : Bridge) :
    Frame beginOwned br (ptpMachinesBegin refs br) := by
  rw [ptpMachinesBegin]
  refine Frame.after (Frame.forAll (fun o b => tcsmToInactive_frame o.1 o.2 b) refs _).mono ?_
  refine Frame.after (Frame.forAll (fun o b => pstsmTo_frame o.1 o.2 _ b) refs _).mono ?_
  exact Frame.forAll (fun (o : PortRef × Mstid) b => prtsmToInitPort_begin o.1 o.2 b) refs br

/-- A property that BEGIN preserves when the BEGIN of port information does. -/
theorem BeginInv.of_pism {I : Bridge → Prop}
    (hframe : ∀ b b', Frame beginOwned b b' → I b → I b')
    (hpism : ∀ br p t, I br → p ∈ br.ports → t ∈ br.trees → I (pismBegin p t br)) : BeginInv I where
  prsm br p hi _ := hframe _ _ (prsmToDiscard_frame p br).mono hi
  ppmsm br p hi _ := hframe _ _ (ppmsmToCheckingRstp_frame p br).mono hi
  bdsm br p hi _ := hframe _ _ (bdsmTo_frame p _ br).mono hi
  ptsm br p hi _ := hframe _ _ (ptsmToTransmitInit_frame p br).mono hi
  pism := hpism
  initTree br t hi _ := hframe _ _ (prssmToInitTree_frame t br).mono hi
  prtsm br p t hi _ _ := hframe _ _ (prtsmToInitPort_begin p t br) hi
  pstsm br p t hi _ _ := hframe _ _ (pstsmTo_frame p t .discarding br).mono hi
  tcsm br p t hi _ _ := hframe _ _ (tcsmToInactive_frame p t br).mono hi

/-- The entry of a port in the CIST after the BEGIN of port information. -/
theorem pismBegin_cist (p q : PortRef) (t : Mstid) (br : Bridge) :
    (pismBegin q t br).cist p = br.cist p ∨
      (pismBegin q t br).cist p =
        { br.cist p with
          startTime := br.uptime, pismState := .disabled, rcvdMsg := false, proposing := false
          proposed := false, agree := false, agreed := false, rcvdInfoWhile := 0
          infoIs := .disabled, reselect := true, selected := false } := by
  by_cases h : p = q ∧ (0 : Mstid) = t
  · obtain ⟨rfl, rfl⟩ := h
    refine Or.inr ?_
    simp only [pismBegin, pismToDisabled, cist, setPtp_self]
  · refine Or.inl ?_
    simp only [pismBegin, pismToDisabled, cist, Bridge.setPtp, if_neg h]

/-! ## The CIST stays in the list of trees -/

theorem Visited.cist_mem {C : Act → Bridge → Prop} {br : Bridge} (h : Visited C br) :
    0 ∈ br.trees := by
  have hbegin : BeginInv fun b => (0 : Mstid) ∈ b.trees :=
    BeginInv.of_pism (fun _ _ hf hi => hf.config_eq Bridge.trees (fun _ => rfl) ▸ hi)
      fun br q t hi _ _ => (pismBegin_frame q t br).trees_eq ▸ hi
  refine h.inv (I := fun b => (0 : Mstid) ∈ b.trees) (fun _ _ => List.mem_singleton.mpr rfl) ?_
  intro a br hi hg _
  cases a with
  | createPort p portno name speed duplex =>
    refine hbegin.port (fun b t hb _ _ => ?_) (List.mem_append_right _ List.mem_cons_self) hi
    exact (prssmToRoleSelection_frame t b).trees_eq ▸ hb
  | createMsti mstid trees =>
    refine hbegin.tree ((insertAfterLast_mem hg.2.2.2.2 mstid).mpr (Or.inl rfl)) ?_
    exact (insertAfterLast_mem hg.2.2.2.2 0).mpr (Or.inr hi)
  | switchBridge up => exact hbegin.bridge ((resetBridge_frame up br).trees_eq ▸ hi)
  | bridgeAddress _ | bridgeConfig _ | tables _ _ _ _ | configId _ _ =>
    exact hbegin.restart (fun b b' hf hb => hf.trees_eq ▸ hb) rfl hi
  | removeMsti mstid => exact (List.mem_erase_of_ne fun h => hg.1 h.symm).mpr hi
  | _ =>
    rw [(Act.frame _ br).config_eq Bridge.trees fun _ => rfl]
    exact hi

/-! ## The list of ports -/

/-- The action that adds the port to the list. -/
def Act.creates (p : PortRef) : Act → Bool
  | .createPort q _ _ _ _ => decide (q = p)
  | _ => false

theorem ports_begin (ports : List PortRef) : BeginInv fun b => b.ports = ports :=
  BeginInv.of_pism (fun _ _ hf hi => hf.ports_eq.trans hi) fun _ _ _ hi _ _ => hi

theorem trees_begin (trees : List Mstid) : BeginInv fun b => b.trees = trees :=
  BeginInv.of_pism (fun _ _ hf hi => hf.trees_eq.trans hi) fun _ _ _ hi _ _ => hi

/-- The actions that change the list of ports. -/
def Act.lists : Act → Bool
  | .createPort _ _ _ _ _ => true
  | .removePort _ => true
  | _ => false

theorem Act.ports_eq {a : Act} (ha : a.lists = false) {br : Bridge} (hg : a.Guard br) :
    (a.run br).ports = br.ports := by
  have hbegin := ports_begin br.ports
  cases a with
  | createPort => cases ha
  | removePort => cases ha
  | createMsti mstid trees =>
    exact hbegin.tree ((insertAfterLast_mem hg.2.2.2.2 mstid).mpr (Or.inl rfl)) rfl
  | switchBridge up => exact hbegin.bridge (resetBridge_frame up br).ports_eq
  | bridgeAddress _ | bridgeConfig _ | tables _ _ _ _ | configId _ _ =>
    exact hbegin.restart (fun b b' hf hb => hf.ports_eq.trans hb) rfl rfl
  | _ => exact (Act.frame _ br).config_eq Bridge.ports fun _ => rfl

/-- A port is listed since it was created. -/
theorem Act.listed {a : Act} {p : PortRef} (ha : a.creates p = false) {br : Bridge}
    (hg : a.Guard br) (hp : p ∈ (a.run br).ports) : p ∈ br.ports := by
  cases a with
  | createPort q portno name speed duplex =>
    have hports : ((Act.createPort q portno name speed duplex).run br).ports = br.ports ++ [q] :=
      (ports_begin (br.ports ++ [q])).port
        (fun b t hb _ _ => (prssmToRoleSelection_frame t b).ports_eq.trans hb)
        (List.mem_append_right _ List.mem_cons_self) rfl
    rw [hports, List.mem_append, List.mem_singleton] at hp
    exact hp.resolve_right fun hpq => absurd hpq.symm (of_decide_eq_false ha)
  | removePort q => exact List.mem_of_mem_erase hp
  | _ => exact Act.ports_eq rfl hg ▸ hp

/-! ## The bridge stays enabled -/

theorem enabled_begin (up : Bool) : BeginInv fun b => b.bridgeEnabled = up :=
  BeginInv.of_pism (fun _ _ hf hi => (hf.config_eq Bridge.bridgeEnabled fun _ => rfl).trans hi)
    fun _ _ _ hi _ _ => hi

/-- Only one action enables or disables the bridge. -/
theorem Act.enabled_eq {a : Act} (ha : ∀ up, a ≠ .switchBridge up) {br : Bridge}
    (hg : a.Guard br) : (a.run br).bridgeEnabled = br.bridgeEnabled := by
  have hbegin := enabled_begin br.bridgeEnabled
  cases a with
  | createPort p portno name speed duplex =>
    refine hbegin.port (fun b t hb _ _ => ?_) (List.mem_append_right _ List.mem_cons_self) rfl
    exact (prssmToRoleSelection_frame t b).enabled_eq.trans hb
  | createMsti mstid trees =>
    exact hbegin.tree ((insertAfterLast_mem hg.2.2.2.2 mstid).mpr (Or.inl rfl)) rfl
  | switchBridge up => exact absurd rfl (ha up)
  | bridgeAddress _ | bridgeConfig _ | tables _ _ _ _ | configId _ _ =>
    exact hbegin.restart (fun b b' hf hb => hf.enabled_eq.trans hb) rfl rfl
  | _ => exact (Act.frame _ br).config_eq Bridge.bridgeEnabled fun _ => rfl

theorem resetBridge_enabled (up : Bool) (br : Bridge) : (resetBridge up br).bridgeEnabled = up := by
  rw [resetBridge]
  refine forAll_inv (I := fun b => b.bridgeEnabled = up) (fun p _ b hb => ?_)
    (forAll_inv (I := fun b => b.bridgeEnabled = up) ?_ rfl)
  rotate_left
  · exact fun _ _ _ hb => hb
  rw [resetPort]
  refine forAll_inv (I := fun b => b.bridgeEnabled = up) (fun s _ c hc => ?_) ?_
  · rw [setPtp]
    split
    · exact (mstpOutSetState_frame p s .disabled c).enabled_eq.trans hc
    · exact hc
  · rw [setPort]
    split <;> exact hb

theorem switchBridge_enabled (up : Bool) (br : Bridge) :
    ((Act.switchBridge up).run br).bridgeEnabled = up :=
  (enabled_begin up).bridge (resetBridge_enabled up br)

end Mstpd
