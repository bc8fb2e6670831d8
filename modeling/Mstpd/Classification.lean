import Mstpd.RegionInfo

/-!
# The classification of a message

13.26.6 tells three kinds of messages from a Designated port apart: those that repeat
what is recorded, those that replace it, and inferior ones. The test for the recorded
bridge and port comes before the test for equality, so that a repeated message is taken
for a superior one. All other messages are classified as the clause says.
-/

namespace Mstpd

open Bridge

/-- The same vector and times, as far as a tree of that kind has them. -/
def SameInfo (cist : Bool) (vec1 vec2 : PortPriorityVector) (time1 time2 : Times) : Prop :=
  if cist then vec1 = vec2 ∧ time1 = time2
  else
    vec1.rRootID = vec2.rRootID ∧ vec1.intRootPathCost = vec2.intRootPathCost ∧
      vec1.designatedBridgeID = vec2.designatedBridgeID ∧
      vec1.designatedPortID = vec2.designatedPortID ∧ time1.remainingHops = time2.remainingHops

theorem samePriorityAndTimers_iff {vec1 vec2 : PortPriorityVector} {time1 time2 : Times}
    {cist : Bool} :
    samePriorityAndTimers vec1 vec2 time1 time2 cist = true ↔
      SameInfo cist vec1 vec2 time1 time2 := by
  obtain ⟨rroot₁, int₁, bridge₁, port₁, root₁, ext₁⟩ := vec1
  obtain ⟨rroot₂, int₂, bridge₂, port₂, root₂, ext₂⟩ := vec2
  obtain ⟨hops₁, delay₁, maxAge₁, age₁, hello₁⟩ := time1
  obtain ⟨hops₂, delay₂, maxAge₂, age₂, hello₂⟩ := time2
  cases cist with
  | false =>
    simp only [samePriorityAndTimers, SameInfo, Bool.not_false, Bool.true_or, Bool.true_and,
      Bool.and_eq_true, beq_iff_eq, Bool.false_eq_true, if_false]
    constructor
    · rintro ⟨⟨⟨⟨hhops, hrroot⟩, hint⟩, hbridge⟩, hport⟩
      exact ⟨hrroot, hint, hbridge, hport, hhops⟩
    · rintro ⟨hrroot, hint, hbridge, hport, hhops⟩
      exact ⟨⟨⟨⟨hhops, hrroot⟩, hint⟩, hbridge⟩, hport⟩
  | true =>
    simp only [samePriorityAndTimers, SameInfo, Bool.not_true, Bool.false_or, Bool.and_eq_true,
      beq_iff_eq, if_true, PortPriorityVector.mk.injEq, Times.mk.injEq]
    constructor
    · rintro ⟨⟨⟨⟨⟨⟨⟨⟨⟨⟨hdelay, hmax⟩, hage⟩, hhello⟩, hroot⟩, hext⟩, hhops⟩, hrroot⟩, hint⟩,
        hbridge⟩, hport⟩
      exact ⟨⟨hrroot, hint, hbridge, hport, hroot, hext⟩, hhops, hdelay, hmax, hage, hhello⟩
    · rintro ⟨⟨hrroot, hint, hbridge, hport, hroot, hext⟩, hhops, hdelay, hmax, hage, hhello⟩
      exact ⟨⟨⟨⟨⟨⟨⟨⟨⟨⟨hdelay, hmax⟩, hage⟩, hhello⟩, hroot⟩, hext⟩, hhops⟩, hrroot⟩, hint⟩,
        hbridge⟩, hport⟩

/-- Equal vectors name the same bridge and port. -/
theorem SameInfo.designated {cist : Bool} {vec1 vec2 : PortPriorityVector} {time1 time2 : Times}
    (h : SameInfo cist vec1 vec2 time1 time2) :
    vec1.designatedBridgeID = vec2.designatedBridgeID ∧
      vec1.designatedPortID = vec2.designatedPortID := by
  cases cist with
  | false => exact ⟨h.2.2.1, h.2.2.2.1⟩
  | true =>
    obtain rfl := h.1
    exact ⟨rfl, rfl⟩

/-- The bridge address and the port number of the two vectors agree. -/
def samePort (vec1 vec2 : PortPriorityVector) : Bool :=
  vec1.designatedBridgeID.macAddress == vec2.designatedBridgeID.macAddress &&
    ((vec1.designatedPortID ^^^ vec2.designatedPortID) &&& (0x0FFF : UInt16)) == 0

theorem SameInfo.samePort {cist : Bool} {vec1 vec2 : PortPriorityVector} {time1 time2 : Times}
    (h : SameInfo cist vec1 vec2 time1 time2) : samePort vec1 vec2 = true := by
  obtain ⟨hbridge, hport⟩ := h.designated
  simp [Mstpd.samePort, hbridge, hport]

/-- The message's vector is better than the recorded one. -/
def betterThanRecord (ptp : PerTreePort) (mPri : PortPriorityVector) (cist : Bool) : Bool :=
  !betterorsamePriority ptp.portPriority mPri 0 0 cist

/-- The three kinds of messages from a Designated port. -/
structure Classified (ptp : PerTreePort) (mPri : PortPriorityVector) (mTimes : Times)
    (cist : Bool) (info : PortInfo) : Prop where
  repeated : info = .repeatedDesignatedInfo ↔
    SameInfo cist mPri ptp.portPriority mTimes ptp.portTimes
  superior : info = .superiorDesignatedInfo ↔
    betterThanRecord ptp mPri cist = true ∨
      samePort mPri ptp.portPriority = true ∧
        ¬ SameInfo cist mPri ptp.portPriority mTimes ptp.portTimes
  inferior : info = .inferiorDesignatedInfo ↔
    ¬ SameInfo cist mPri ptp.portPriority mTimes ptp.portTimes ∧
      ¬ (betterThanRecord ptp mPri cist = true ∨ samePort mPri ptp.portPriority = true)

theorem ncmp_antisymm {x y : Nat} {f g : Bool} (hxy : ncmp x y f = true)
    (hyx : ncmp y x g = true) : x = y ∧ f = true ∧ g = true := by
  rw [ncmp_eq_true] at hxy hyx
  rcases hxy with hlt | ⟨rfl, hf⟩
  · rcases hyx with hlt' | ⟨rfl, -⟩
    · omega
    · omega
  · rcases hyx with hlt' | ⟨-, hg⟩
    · omega
    · exact ⟨rfl, hf, hg⟩

/-- Vectors that are not worse than one another name the same bridge and port. -/
theorem betterorsamePriority_antisymm {vec1 vec2 : PortPriorityVector} {cist : Bool}
    (h : betterorsamePriority vec1 vec2 0 0 cist = true)
    (h' : betterorsamePriority vec2 vec1 0 0 cist = true) : samePort vec1 vec2 = true := by
  have hregional : ∀ {f g : Bool}, ncmp vec1.designatedBridgeID.u vec2.designatedBridgeID.u
        (ncmp vec1.designatedPortID.toNat vec2.designatedPortID.toNat f) = true →
      ncmp vec2.designatedBridgeID.u vec1.designatedBridgeID.u
        (ncmp vec2.designatedPortID.toNat vec1.designatedPortID.toNat g) = true →
      samePort vec1 vec2 = true := by
    intro f g hd hd'
    obtain ⟨hbridge, hp, hp'⟩ := ncmp_antisymm hd hd'
    have hport := UInt16.toNat_inj.mp (ncmp_antisymm hp hp').1
    simp [samePort, BridgeIdentifier.u_inj.mp hbridge, hport]
  cases cist with
  | false =>
    simp only [betterorsamePriority, Bool.false_eq_true, if_false] at h h'
    obtain ⟨-, h, h'⟩ := ncmp_antisymm h h'
    obtain ⟨-, h, h'⟩ := ncmp_antisymm h h'
    exact hregional h h'
  | true =>
    simp only [betterorsamePriority, if_true] at h h'
    obtain ⟨-, h, h'⟩ := ncmp_antisymm h h'
    obtain ⟨-, h, h'⟩ := ncmp_antisymm h h'
    obtain ⟨-, h, h'⟩ := ncmp_antisymm h h'
    obtain ⟨-, h, h'⟩ := ncmp_antisymm h h'
    exact hregional h h'

/-- The first test of the chain decides alone whether a message is superior. -/
theorem classifyInfo_designated (ptp : PerTreePort) (mPri : PortPriorityVector) (mTimes : Times)
    (cist : Bool) : classifyInfo ptp mPri mTimes true cist =
      if betterThanRecord ptp mPri cist || samePort mPri ptp.portPriority then
        .superiorDesignatedInfo
      else .inferiorDesignatedInfo := by
  simp only [classifyInfo, if_true]
  rw [← betterThanRecord, ← samePort]
  split
  · rfl
  · rename_i hfirst
    simp only [Bool.or_eq_true, not_or, Bool.not_eq_true] at hfirst
    obtain ⟨hbetter, hport⟩ := hfirst
    have hsame : samePriorityAndTimers mPri ptp.portPriority mTimes ptp.portTimes cist = false := by
      rw [Bool.eq_false_iff]
      intro hsame
      rw [(samePriorityAndTimers_iff.mp hsame).samePort] at hport
      cases hport
    have hworse : betterorsamePriority mPri ptp.portPriority 0 0 cist = false := by
      rw [Bool.eq_false_iff]
      intro hle
      have hge : betterorsamePriority ptp.portPriority mPri 0 0 cist = true := by
        simpa [betterThanRecord] using hbetter
      rw [betterorsamePriority_antisymm hle hge] at hport
      cases hport
    simp [hsame, hworse]

/-- The classification is the stated one except for a message that repeats the record. -/
theorem classified_iff (ptp : PerTreePort) (mPri : PortPriorityVector) (mTimes : Times)
    (cist : Bool) : Classified ptp mPri mTimes cist (classifyInfo ptp mPri mTimes true cist) ↔
      ¬ SameInfo cist mPri ptp.portPriority mTimes ptp.portTimes := by
  rw [classifyInfo_designated]
  constructor
  · intro h hsame
    have hfirst : (betterThanRecord ptp mPri cist || samePort mPri ptp.portPriority) = true := by
      rw [hsame.samePort, Bool.or_true]
    have hrepeated := h.repeated.mpr hsame
    rw [if_pos hfirst] at hrepeated
    cases hrepeated
  · intro hdiffer
    split
    · rename_i hfirst
      have hsuperior := Bool.or_eq_true_iff.mp hfirst
      constructor
      · simp [hdiffer]
      · simpa [hdiffer] using hsuperior
      · simpa [hdiffer] using fun h => hsuperior.resolve_left (by simp [h])
    · rename_i hfirst
      have hinferior : ¬ (betterThanRecord ptp mPri cist = true ∨
          samePort mPri ptp.portPriority = true) := fun h => hfirst (Bool.or_eq_true_iff.mpr h)
      constructor
      · simp [hdiffer]
      · simpa [hdiffer] using hinferior
      · simpa [hdiffer] using hinferior

/-- The message that a port has stored repeats what the tree has recorded. -/
def repeatsRecord (br : Bridge) (p : PortRef) (t : Mstid) : Prop :=
  SameInfo (t == 0) (msgPriorityOf br p t) (br.ptp p t).portPriority (msgTimesOf br p t)
    (br.ptp p t).portTimes

/-- What 13.26.6 states of the message that a port has stored: its class, and that a
repeated message disturbs neither agreement nor role selection. -/
structure ClassifiedAsStated (br : Bridge) (p : PortRef) (t : Mstid) : Prop where
  classified : Classified (br.ptp p t) (msgPriorityOf br p t) (msgTimesOf br p t) (t == 0)
    (rcvInfo p t br).1
  undisturbed : repeatsRecord br p t →
    ∀ s, pismNext (pismToReceive p t br) p t = some s →
      let ptp := (pismTo p t s (pismToReceive p t br)).ptp p t
      ((br.ptp p t).agreed = true → ptp.agreed = true) ∧
      ((br.ptp p t).synced = true → ptp.synced = true) ∧
      ptp.reselect = (br.ptp p t).reselect ∧ ptp.selected = (br.ptp p t).selected

/-- The message conveys the Designated role. -/
def conveysDesignated (br : Bridge) (p : PortRef) (t : Mstid) : Prop :=
  (br.port p).rcvdBpduData.bpdu.bpduType ≠ bpduTypeTcn ∧ roleIsDesignated br p t = some true

/-- Whatever a port holds, received or its own, a message is classified as stated unless
it repeats the record. -/
theorem rcvInfo_classified_iff {br : Bridge} {p : PortRef} {t : Mstid}
    (hrole : conveysDesignated br p t) :
    ClassifiedAsStated br p t ↔ ¬ repeatsRecord br p t := by
  have hinfo : (rcvInfo p t br).1 =
      classifyInfo (br.ptp p t) (msgPriorityOf br p t) (msgTimesOf br p t) true (t == 0) := by
    rw [rcvInfo, if_neg hrole.1, hrole.2]
  have hiff := classified_iff (br.ptp p t) (msgPriorityOf br p t) (msgTimesOf br p t) (t == 0)
  constructor
  · intro h
    exact hiff.mp (hinfo ▸ h.classified)
  · intro hdiffer
    exact ⟨hinfo ▸ hiff.mpr hdiffer, fun hsame => absurd hsame hdiffer⟩

instance (cist : Bool) (vec1 vec2 : PortPriorityVector) (time1 time2 : Times) :
    Decidable (SameInfo cist vec1 vec2 time1 time2) :=
  decidable_of_iff _ samePriorityAndTimers_iff

instance (br : Bridge) (p : PortRef) (t : Mstid) : Decidable (repeatsRecord br p t) :=
  inferInstanceAs (Decidable (SameInfo _ _ _ _ _))

instance (br : Bridge) (p : PortRef) (t : Mstid) : Decidable (conveysDesignated br p t) :=
  inferInstanceAs (Decidable (_ ∧ _))

/-- A port that has recorded a message of its region. -/
def helloOps : List Op :=
  [.createPort 1 1 "sw1p1" 1000 1, .setCistBridgeConfig { protocolVersion := some 3 },
    .setBridgeEnable true, .setPortEnable 1 true 1000 1, .rxBpdu 1 regionBpdu 102]

/-- The next message is received and examined. -/
def helloMoves (bpdu : Mem) : List Move :=
  [.act (.rxBpdu 1 bpdu 102), .proceed, .proceed, .act (.prsm 1 .receive), .proceed, .proceed,
    .proceed, .proceed]

/-- The hello that follows two seconds later is not classified as repeated, and asks for
role selection. -/
theorem repeated_hello_is_superior : ∃ br, VisitedAt anyAct .pism br ∧ 1 ∈ br.ports ∧
    (br.ptp 1 0).infoIs = .received ∧ (br.ptp 1 0).selected = true ∧
    pismNext br 1 0 = some .receive ∧ conveysDesignated br 1 0 ∧ repeatsRecord br 1 0 ∧
    (rcvInfo 1 0 br).1 = .superiorDesignatedInfo ∧
    (pismNext (pismToReceive 1 0 br) 1 0).any (fun s =>
      ((pismTo 1 0 s (pismToReceive 1 0 br)).ptp 1 0).reselect) = true ∧
    ¬ ClassifiedAsStated br 1 0 := by
  have hrun : (sampleRun helloOps).any (fun br =>
      (passActs.attempt (onActs anyAct) (helloMoves regionBpdu) (.idle, br)).any fun s =>
        s.1 == .pism && s.2.ports.contains 1 && (s.2.ptp 1 0).infoIs == .received &&
          (s.2.ptp 1 0).selected && pismNext s.2 1 0 == some .receive &&
          decide (conveysDesignated s.2 1 0) && decide (repeatsRecord s.2 1 0) &&
          (rcvInfo 1 0 s.2).1 == .superiorDesignatedInfo &&
          (pismNext (pismToReceive 1 0 s.2) 1 0).any fun s' =>
            ((pismTo 1 0 s' (pismToReceive 1 0 s.2)).ptp 1 0).reselect) = true := by
    decide +kernel
  obtain ⟨br, hbr, hrun⟩ := (Option.any_eq_true _ _).mp hrun
  obtain ⟨⟨k, b⟩, hb, hrun⟩ := (Option.any_eq_true _ _).mp hrun
  simp only [Bool.and_eq_true, beq_iff_eq, decide_eq_true_eq, List.contains_iff_mem] at hrun
  obtain ⟨⟨⟨⟨⟨⟨⟨⟨rfl, hp⟩, hr⟩, hsel⟩, hnext⟩, hrole⟩, hsame⟩, hclass⟩, hreselect⟩ := hrun
  obtain ⟨env, macaddr, hlead⟩ :=
    (sampleRun_reachable (A := anyOp) (fun _ _ => trivial) hbr).visitedAt
  refine ⟨b, ⟨env, macaddr, hlead.trans (Labelled.attempt_leads hb)⟩, hp, hr, hsel, hnext, hrole,
    hsame, hclass, hreselect, fun hstated => ?_⟩
  have hrepeated := hstated.classified.repeated.mpr hsame
  rw [hclass] at hrepeated
  cases hrepeated

/-- A message with other times is classified as stated. -/
theorem changed_hello_classified : ∃ br, VisitedAt anyAct .pism br ∧
    (br.ptp 1 0).infoIs = .received ∧ conveysDesignated br 1 0 ∧ ¬ repeatsRecord br 1 0 ∧
    ClassifiedAsStated br 1 0 := by
  have hrun : (sampleRun helloOps).any (fun br =>
      (passActs.attempt (onActs anyAct) (helloMoves fun o => if o = 29 then 25 else regionBpdu o)
        (.idle, br)).any fun s =>
        s.1 == .pism && (s.2.ptp 1 0).infoIs == .received &&
          decide (conveysDesignated s.2 1 0) && !decide (repeatsRecord s.2 1 0)) = true := by
    decide +kernel
  obtain ⟨br, hbr, hrun⟩ := (Option.any_eq_true _ _).mp hrun
  obtain ⟨⟨k, b⟩, hb, hrun⟩ := (Option.any_eq_true _ _).mp hrun
  simp only [Bool.and_eq_true, beq_iff_eq, decide_eq_true_eq, Bool.not_eq_true',
    decide_eq_false_iff_not] at hrun
  obtain ⟨⟨⟨rfl, hr⟩, hrole⟩, hdiffer⟩ := hrun
  obtain ⟨env, macaddr, hlead⟩ :=
    (sampleRun_reachable (A := anyOp) (fun _ _ => trivial) hbr).visitedAt
  exact ⟨b, ⟨env, macaddr, hlead.trans (Labelled.attempt_leads hb)⟩, hr, hrole, hdiffer,
    (rcvInfo_classified_iff hrole).mpr hdiffer⟩

end Mstpd
