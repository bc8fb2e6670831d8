import Mstpd.Agreement
import Mstpd.RoleTermination

/-!
# Topology changes from outside the region

A BPDU from outside the region concerns the MSTIs of the port too. For the TC flag the
loop of `setTcFlags` over the MSTIs writes `proposed` where the CIST gets `rcvdTc`. The
flag reaches a tree and leaves its `proposed` alone only where both were set before.
-/

namespace Mstpd

open Bridge

/-- The message without its TC flag. -/
def clearTc (bpdu : Mem) : Mem := fun o => if o = 4 then bpdu 4 &&& ~~~tcBit else bpdu o

/-- The same bridge, had the port received the message without the TC flag. -/
def withoutTc (br : Bridge) (p : PortRef) : Bridge :=
  br.setPort p fun prt => { prt with rcvdBpduData := clearTc prt.rcvdBpduData }

section Clear

variable (m : Mem)

theorem clearTc_flags : (clearTc m).bpdu.flags = m.bpdu.flags &&& ~~~tcBit := rfl

theorem hasFlag_clearTc (flags : UInt8) : hasFlag (flags &&& ~~~tcBit) tcBit = false ∧
    hasFlag (flags &&& ~~~tcBit) proposalBit = hasFlag flags proposalBit := by
  have hmask : ∀ bit : UInt8, flags &&& ~~~tcBit &&& bit = flags &&& (~~~tcBit &&& bit) :=
    fun bit => UInt8.and_assoc flags (~~~tcBit) bit
  rw [hasFlag, hasFlag, hasFlag, hmask, hmask]
  have htc : ~~~tcBit &&& tcBit = 0 := by decide
  have hproposal : ~~~tcBit &&& proposalBit = proposalBit := by decide
  rw [htc, hproposal, UInt8.and_zero]
  exact ⟨rfl, rfl⟩

end Clear

/-! ## What a recorded message leaves in an MSTI -/

/-- The fields of an MSTI that proposals and topology changes are about. -/
def boundaryFlags (ptp : PerTreePort) : Bool × Bool × Bool × Bool :=
  (ptp.proposed, ptp.sync, ptp.synced, ptp.rcvdTc)

section Msti

variable {br : Bridge} {p : PortRef} {t : Mstid}

theorem ptp_setPort (f : Port → Port) (q : PortRef) (s : Mstid) :
    (br.setPort p f).ptp q s = br.ptp q s := rfl

theorem trees_setPtp (s : Mstid) (f : PerTreePort → PerTreePort) :
    (br.setPtp p s f).trees = br.trees := rfl

theorem setPtp_msti (hne : t ≠ 0) (f : PerTreePort → PerTreePort) :
    (br.setPtp p 0 f).ptp p t = br.ptp p t := by
  simp only [setPtp, hne, and_false, if_false]

theorem setMstiPtps_msti (ht : t ∈ br.trees) (hne : t ≠ 0) (f : Mstid → PerTreePort → PerTreePort) :
    (br.setMstiPtps p f).ptp p t = f t (br.ptp p t) := by
  simp only [setMstiPtps, setPortPtps, ht, hne, and_self, if_true, if_false]

theorem recordProposal_boundary (ht : t ∈ br.trees) (hne : t ≠ 0)
    (hext : (br.port p).rcvdInternal = false) :
    (recordProposal p 0 br).ptp p t =
      { br.ptp p t with
        proposed := (br.cist p).proposed ||
          hasFlag (br.port p).rcvdBpduData.bpdu.flags proposalBit } := by
  rw [recordProposal, if_pos rfl]
  dsimp only
  rw [setMstiPtps_msti (by exact ht) hne, setPtp_msti hne, hext]
  rfl

theorem setTcFlags_boundary (ht : t ∈ br.trees) (hne : t ≠ 0)
    (hext : (br.port p).rcvdInternal = false) :
    (setTcFlags p 0 br).ptp p t =
      { br.ptp p t with
        proposed := (br.ptp p t).proposed ||
          hasFlag (br.port p).rcvdBpduData.bpdu.flags tcBit } := by
  rw [setTcFlags, if_pos rfl]
  dsimp only
  rw [setMstiPtps_msti (by exact ht) hne, setPtp_msti hne, hext, Bool.not_false, Bool.and_true]
  rfl

/-- A recorded message leaves the list of trees and the side of the port as they are. -/
theorem recordProposal_kept : (recordProposal p 0 br).trees = br.trees ∧
    (recordProposal p 0 br).port p = br.port p := by
  rw [recordProposal, if_pos rfl]
  exact ⟨rfl, rfl⟩

theorem mem_proposalAndTc (ht : t ∈ br.trees) :
    t ∈ (setTcFlags p 0 (recordProposal p 0 br)).trees := by
  have htrees : (setTcFlags p 0 (recordProposal p 0 br)).trees = (recordProposal p 0 br).trees := by
    rw [setTcFlags, if_pos rfl]
    rfl
  rw [htrees, recordProposal_kept.1]
  exact ht

theorem recordAgreement_port : (recordAgreement p 0 br).port p = br.port p ∧
    (recordAgreement p 0 br).trees = br.trees := by
  rw [recordAgreement, if_pos rfl]
  exact ⟨rfl, rfl⟩

theorem recordAgreement_boundary (ht : t ∈ br.trees) (hne : t ≠ 0) :
    boundaryFlags ((recordAgreement p 0 br).ptp p t) = boundaryFlags (br.ptp p t) := by
  rw [recordAgreement, if_pos rfl]
  dsimp only
  rw [setMstiPtps_msti (by exact ht) hne, setPtp_msti hne]
  rfl

/-- The two procedures that a superior and a repeated message call first. -/
theorem proposalAndTc_boundary (ht : t ∈ br.trees) (hne : t ≠ 0)
    (hext : (br.port p).rcvdInternal = false) :
    (setTcFlags p 0 (recordProposal p 0 br)).ptp p t =
      { br.ptp p t with
        proposed := ((br.cist p).proposed ||
            hasFlag (br.port p).rcvdBpduData.bpdu.flags proposalBit) ||
          hasFlag (br.port p).rcvdBpduData.bpdu.flags tcBit } := by
  obtain ⟨htrees, hport⟩ : (recordProposal p 0 br).trees = br.trees ∧
      (recordProposal p 0 br).port p = br.port p := recordProposal_kept
  rw [setTcFlags_boundary (by rw [htrees]; exact ht) hne (by rw [hport]; exact hext),
    recordProposal_boundary ht hne hext, hport]

end Msti

/-- Is the MSTI proposed to, whatever the TC flag of the message says? -/
def proposedAnyway (br : Bridge) (p : PortRef) (t : Mstid) : PismState → Bool
  | .notDesignated => (br.ptp p t).proposed
  | _ => (br.cist p).proposed || hasFlag (br.port p).rcvdBpduData.bpdu.flags proposalBit

variable {br : Bridge} {p : PortRef} {t : Mstid} {s : PismState}

/-- An entry that records a message from outside the region gives every MSTI the TC flag
as a proposal, and no `rcvdTc`. -/
theorem pismTo_boundaryFlags (ht : t ∈ br.trees) (hne : t ≠ 0)
    (hext : (br.port p).rcvdInternal = false) (hs : s.recordsAgreement = true) :
    boundaryFlags ((pismTo p 0 s br).ptp p t) =
      (proposedAnyway br p t s || hasFlag (br.port p).rcvdBpduData.bpdu.flags tcBit,
        (br.ptp p t).sync, (br.ptp p t).synced, (br.ptp p t).rcvdTc) := by
  have htail : ∀ b : Bridge, (updtRcvdInfoWhile p 0 b).ptp p t = b.ptp p t :=
    fun b => by rw [updtRcvdInfoWhile, setPtp_msti hne]
  have hrecord : ∀ b : Bridge, (recordTimes p 0 (recordPriority p 0 b)).ptp p t = b.ptp p t :=
    fun b => (setPtp_msti hne _).trans (setPtp_msti hne _)
  cases s with
  | superiorDesignated =>
    rw [pismTo, pismToSuperiorDesignated, setPtp_msti hne, htail, hrecord, setPtp_msti hne]
    rw [recordAgreement_boundary _ hne, setPtp_msti hne, proposalAndTc_boundary _ hne,
      setPtp_msti hne, ptp_setPort]
    · simp [boundaryFlags, proposedAnyway]
    · simpa using hext
    · exact ht
    · rw [trees_setPtp]
      exact mem_proposalAndTc (by exact ht)
  | repeatedDesignated =>
    rw [pismTo, pismToRepeatedDesignated, setPtp_msti hne, htail]
    rw [recordAgreement_boundary _ hne, proposalAndTc_boundary _ hne, setPtp_msti hne, ptp_setPort]
    · simp [boundaryFlags, proposedAnyway]
    · simpa using hext
    · exact ht
    · exact mem_proposalAndTc (by exact ht)
  | notDesignated =>
    obtain ⟨hport, htrees⟩ : (recordAgreement p 0 br).port p = br.port p ∧
        (recordAgreement p 0 br).trees = br.trees := recordAgreement_port
    have hmarks := recordAgreement_boundary (p := p) ht hne
    simp only [boundaryFlags, Prod.mk.injEq] at hmarks
    rw [pismTo, pismToNotDesignated, setPtp_msti hne,
      setTcFlags_boundary (by rw [htrees]; exact ht) hne (by rw [hport]; exact hext)]
    simp [boundaryFlags, proposedAnyway, hmarks, hport]
  | disabled | aged | update | inferiorDesignated | other | current | receive => cases hs

/-- In the CIST the flag is recorded. -/
theorem pismTo_rcvdTc (htc : hasFlag (br.port p).rcvdBpduData.bpdu.flags tcBit = true)
    (hs : s.recordsAgreement = true) : ((pismTo p 0 s br).cist p).rcvdTc = true := by
  cases s with
  | superiorDesignated => simp [pismTo, superiorDesignated_cist, htc]
  | repeatedDesignated => simp [pismTo, repeatedDesignated_cist, htc]
  | notDesignated => simp [pismTo, notDesignated_cist, htc]
  | disabled | aged | update | inferiorDesignated | other | current | receive => cases hs

/-- The topology change is known in every tree of the port. -/
def TcReachesTrees (br : Bridge) (p : PortRef) (s : PismState) : Prop :=
  ∀ t ∈ br.trees, ((pismTo p 0 s br).ptp p t).rcvdTc = true

/-- The proposals of the MSTIs are those that the message without the flag leaves. -/
def TcLeavesProposals (br : Bridge) (p : PortRef) (s : PismState) : Prop :=
  ∀ t ∈ br.trees, t ≠ 0 →
    let ptp := (pismTo p 0 s br).ptp p t
    let ptp' := (pismTo p 0 s (withoutTc br p)).ptp p t
    (ptp.proposed, ptp.sync, ptp.synced) = (ptp'.proposed, ptp'.sync, ptp'.synced)

/-- The flag of a message from outside the region does what it should exactly where each
MSTI of the port knows of a topology change and is proposed to without it. -/
theorem boundaryTc_iff (hext : (br.port p).rcvdInternal = false)
    (htc : hasFlag (br.port p).rcvdBpduData.bpdu.flags tcBit = true)
    (hs : s.recordsAgreement = true) :
    TcReachesTrees br p s ∧ TcLeavesProposals br p s ↔
      ∀ t ∈ br.trees, t ≠ 0 →
        (br.ptp p t).rcvdTc = true ∧ proposedAnyway br p t s = true := by
  have hwith := fun t (ht : t ∈ br.trees) (hne : t ≠ 0) => pismTo_boundaryFlags ht hne hext hs
  have hwithout : ∀ t ∈ br.trees, t ≠ 0 →
      boundaryFlags ((pismTo p 0 s (withoutTc br p)).ptp p t) =
        (proposedAnyway br p t s, (br.ptp p t).sync, (br.ptp p t).synced,
          (br.ptp p t).rcvdTc) := by
    intro t ht hne
    have hdata : ((withoutTc br p).port p).rcvdBpduData = clearTc (br.port p).rcvdBpduData := by
      simp [withoutTc]
    have hflags := hasFlag_clearTc (br.port p).rcvdBpduData.bpdu.flags
    have hanyway : proposedAnyway (withoutTc br p) p t s = proposedAnyway br p t s := by
      cases s <;> simp only [proposedAnyway, hdata, clearTc_flags, hflags] <;> rfl
    have hext' : ((withoutTc br p).port p).rcvdInternal = false := by
      simpa [withoutTc] using hext
    have ht' : t ∈ (withoutTc br p).trees := ht
    rw [pismTo_boundaryFlags ht' hne hext' hs, hanyway, hdata, clearTc_flags, hflags.1,
      Bool.or_false]
    rfl
  simp only [boundaryFlags, htc, Bool.or_true, Prod.mk.injEq] at hwith hwithout
  constructor
  · rintro ⟨hreach, hleave⟩ t ht hne
    have hproposed := (Prod.mk.inj (hleave t ht hne)).1
    rw [(hwith t ht hne).1, (hwithout t ht hne).1] at hproposed
    exact ⟨(hwith t ht hne).2.2.2 ▸ hreach t ht, hproposed.symm⟩
  · intro hset
    constructor
    · intro t ht
      by_cases hne : t = 0
      · subst hne
        exact pismTo_rcvdTc htc hs
      · rw [(hwith t ht hne).2.2.2]
        exact (hset t ht hne).1
    · intro t ht hne
      obtain ⟨hp, hsync, hsynced, -⟩ := hwith t ht hne
      obtain ⟨hp', hsync', hsynced', -⟩ := hwithout t ht hne
      simp only [hp, hsync, hsynced, hp', hsync', hsynced', (hset t ht hne).2]

/-- A Config message of a better root with the TC flag. -/
def changeOctets : Mem := fun o => if o = 4 then tcBit else octets betterOctets o

/-- Such a message is received and classified. -/
def changeMoves : List Move :=
  [.act (.rxBpdu 1 changeOctets 35), .proceed, .proceed, .act (.prsm 1 .receive), .proceed,
    .proceed, .proceed, .proceed, .act (.pism 1 0 .receive)]

/-- A bridge with one MSTI takes the topology change for a proposal to that MSTI. -/
theorem msti_misses_change : ∃ br, VisitedAt anyAct .pism br ∧ br.bridgeEnabled = true ∧
    1 ∈ br.ports ∧ 1 ∈ br.trees ∧ (br.port 1).rcvdInternal = false ∧
    hasFlag (br.port 1).rcvdBpduData.bpdu.flags tcBit = true ∧
    pismNext br 1 0 = some .superiorDesignated ∧
    ¬ TcReachesTrees br 1 .superiorDesignated ∧ ¬ TcLeavesProposals br 1 .superiorDesignated := by
  have hrun : (sampleRun [.createPort 1 1 "sw1p1" 1000 1,
      .setCistBridgeConfig { protocolVersion := some 3 }, .createMsti 1, .setBridgeEnable true,
      .setPortEnable 1 true 1000 1]).any (fun br =>
      (passActs.attempt (onActs anyAct) changeMoves (.idle, br)).any fun s =>
        s.1 == .pism && s.2.bridgeEnabled && s.2.ports.contains 1 && s.2.trees.contains 1 &&
          !(s.2.port 1).rcvdInternal && hasFlag (s.2.port 1).rcvdBpduData.bpdu.flags tcBit &&
          pismNext s.2 1 0 == some .superiorDesignated &&
          !((pismTo 1 0 .superiorDesignated s.2).ptp 1 1).rcvdTc &&
          ((pismTo 1 0 .superiorDesignated s.2).ptp 1 1).proposed &&
          !((pismTo 1 0 .superiorDesignated (withoutTc s.2 1)).ptp 1 1).proposed) = true := by
    decide +kernel
  obtain ⟨br, hbr, hrun⟩ := (Option.any_eq_true _ _).mp hrun
  obtain ⟨⟨k, b⟩, hb, hrun⟩ := (Option.any_eq_true _ _).mp hrun
  simp only [Bool.and_eq_true, beq_iff_eq, Bool.not_eq_true', List.contains_iff_mem] at hrun
  obtain ⟨⟨⟨⟨⟨⟨⟨⟨⟨rfl, hen⟩, hp⟩, ht⟩, hext⟩, htc⟩, hnext⟩, hmiss⟩, hset⟩, hclear⟩ := hrun
  obtain ⟨env, macaddr, hlead⟩ :=
    (sampleRun_reachable (A := anyOp) (fun _ _ => trivial) hbr).visitedAt
  refine ⟨b, ⟨env, macaddr, hlead.trans (Labelled.attempt_leads hb)⟩, hen, hp, ht, hext, htc,
    hnext, fun hreach => ?_, fun hleave => ?_⟩
  · exact Bool.false_ne_true (hmiss.symm.trans (hreach 1 ht))
  · have hproposed := (Prod.mk.inj (hleave 1 ht (by decide))).1
    rw [hset, hclear] at hproposed
    exact Bool.false_ne_true hproposed.symm

/-- The second port, discarding for both trees, has heard of a topology change in the MSTI. -/
def knownChangeOps : List Op :=
  [.createPort 1 1 "sw1p1" 1000 1, .createPort 2 2 "sw1p2" 1000 1,
    .setCistBridgeConfig { protocolVersion := some 3 }, .createMsti 1, .setBridgeEnable true,
    .setPortEnable 1 true 1000 1, .setPortEnable 2 true 1000 1,
    .rxBpdu 1 (octets (regionOctets 2 1)) 118,
    .rxBpdu 2 (fun o => if o = 102 then 0x7D else octets (regionOctets 3 2) o) 118]

/-- There it receives a proposal of a better root with the TC flag. -/
def knownChangeMoves : List Move :=
  [.act (.rxBpdu 2 (fun o => if o = 4 then tcBit ||| proposalBit else octets betterOctets o) 35),
    .proceed, .proceed, .act (.prsm 2 .receive), .proceed, .proceed, .proceed, .proceed,
    .act (.pism 2 0 .receive)]

/-- Where the MSTI knows of a change and is proposed to anyway, nothing is missed. -/
theorem known_change_learned : ∃ br, VisitedAt anyAct .pism br ∧ br.trees = [0, 1] ∧
    pismNext br 2 0 = some .superiorDesignated ∧
    TcReachesTrees br 2 .superiorDesignated ∧ TcLeavesProposals br 2 .superiorDesignated := by
  have hrun : (sampleRun knownChangeOps).any (fun br =>
      (passActs.attempt (onActs anyAct) knownChangeMoves (.idle, br)).any fun s =>
        s.1 == .pism && s.2.trees == [0, 1] && !(s.2.port 2).rcvdInternal &&
          hasFlag (s.2.port 2).rcvdBpduData.bpdu.flags tcBit &&
          pismNext s.2 2 0 == some .superiorDesignated && (s.2.ptp 2 1).rcvdTc &&
          proposedAnyway s.2 2 1 .superiorDesignated) = true := by
    decide +kernel
  obtain ⟨br, hbr, hrun⟩ := (Option.any_eq_true _ _).mp hrun
  obtain ⟨⟨k, b⟩, hb, hrun⟩ := (Option.any_eq_true _ _).mp hrun
  simp only [Bool.and_eq_true, beq_iff_eq, Bool.not_eq_true'] at hrun
  obtain ⟨⟨⟨⟨⟨⟨rfl, htrees⟩, hext⟩, htc⟩, hnext⟩, hknown⟩, hproposed⟩ := hrun
  obtain ⟨env, macaddr, hlead⟩ :=
    (sampleRun_reachable (A := anyOp) (fun _ _ => trivial) hbr).visitedAt
  refine ⟨b, ⟨env, macaddr, hlead.trans (Labelled.attempt_leads hb)⟩, htrees, hnext,
    (boundaryTc_iff hext htc rfl).mpr ?_⟩
  intro t hmem hne
  have ht : t = 1 := by
    rw [htrees] at hmem
    rcases List.mem_cons.mp hmem with h0 | h1
    · exact absurd h0 hne
    · exact List.mem_singleton.mp h1
  subst ht
  exact ⟨hknown, hproposed⟩

end Mstpd
