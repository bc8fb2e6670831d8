import Mstpd.HelloTimes

/-!
# Bridge assurance

The count of a port is set to three hello times when the port comes up and with each valid
BPDU, and every second takes one off. So a network port has that time to hear from its
neighbour before it is blocked. But the count is zeroed when the bridge is switched on, and
nothing sets it again for a port that is up already.
-/

namespace Mstpd

open Bridge

/-! ## The seconds of grace -/

def Act.switchesOn : Act → Bool
  | .switchBridge up => up
  | _ => false

/-- A valid BPDU is accepted on the port. -/
def Act.hears (p : PortRef) (br : Bridge) : Act → Bool
  | .rxBpdu q bpdu size =>
    decide (q = p) && (rxRefusal br p).isNone && (validateBpdu bpdu size).isSome
  | _ => false

/-- The port comes up. -/
def Act.raises (p : PortRef) (br : Bridge) : Act → Bool
  | .linkUp q _ _ => decide (q = p) && !(br.port p).portEnabled
  | _ => false

/-- The seconds since the bridge or the port came up or the port heard from its neighbour. -/
def graceAfter (p : PortRef) (a : Act) (br : Bridge) (n : Nat) : Nat :=
  if a.switchesOn || a.raises p br || a.hears p br then 0 else n + a.seconds

/-- The actions of a bridge, with the seconds of grace of one port. -/
def assuranceActs (p : PortRef) : Labelled (Nat × Phase × Bridge) Move where
  guard m s := passActs.guard m s.2
  act m s :=
    (match m with
      | .act a => graceAfter p a s.2.2 s.1
      | .proceed => s.1,
      passActs.act m s.2)

/-- The bridge is not switched on while the port is up. -/
def Act.Graceful (p : PortRef) (a : Act) (br : Bridge) : Prop :=
  a.switchesOn = true → p ∈ br.ports → (br.port p).portEnabled = false

def graceful (p : PortRef) : Move → Nat × Phase × Bridge → Prop
  | .act a, s => a.Graceful p s.2.2
  | .proceed, _ => True

/-! ## The count -/

/-- What decides about the grace of a port. -/
def assuranceFields (x : Port) : Nat × Bool := (x.brAssuRcvdInfoWhile, x.portEnabled)

/-- Everything but that. -/
def besideAssurance : Owned where
  config b := { ports := b.ports, trees := b.trees }
  ptp _ := {}
  port x :=
    { brAssuRcvdInfoWhile := x.brAssuRcvdInfoWhile, portEnabled := x.portEnabled }
  tree _ := {}
  out _ := true

instance : besideAssurance.KeepsLists := ⟨fun _ => rfl, fun _ => rfl⟩

section Count

variable {p q : PortRef} {br b : Bridge}

theorem Frame.assurance (h : Frame besideAssurance br b) (p : PortRef) :
    assuranceFields (b.port p) = assuranceFields (br.port p) :=
  h.port_eq assuranceFields (fun _ => rfl) p

theorem assurance_begin (p : PortRef) (v : Nat × Bool) :
    BeginInv fun b => assuranceFields (b.port p) = v :=
  BeginInv.of_pism (fun _ _ hf hi => (hf.port_eq assuranceFields (fun _ => rfl) p).trans hi)
    fun b q t hi _ _ => ((pismBegin_frame q t b).port_eq assuranceFields (fun _ => rfl) p).trans hi

theorem roleSelection_assurance (p : PortRef) (t : Mstid) (b : Bridge) :
    assuranceFields ((prssmToRoleSelection t b).port p) = assuranceFields (b.port p) :=
  (prssmToRoleSelection_frame t b).port_eq assuranceFields (fun _ => rfl) p

theorem ptpTick_besideAssurance (t : Mstid) (b : Bridge) :
    Frame besideAssurance b (ptpTick q t b) := by
  have hreset : ∀ b, Frame besideAssurance b (resetTopologyChange t b) := by
    intro b
    rw [resetTopologyChange]
    exact Frame.setTree fun _ => rfl
  exact Frame.ite (Frame.after (hreset _) (Frame.setPtp fun _ => rfl)) (Frame.setPtp fun _ => rfl)

/-- A second takes one off the count of the port whose turn it is. -/
theorem portTick_assurance :
    assuranceFields ((portTick q br).port p) =
      ((br.port p).brAssuRcvdInfoWhile - if p = q then 1 else 0, (br.port p).portEnabled) := by
  have htimers : ∀ b : Bridge, assuranceFields ((forAll (ptpTick q) b.trees b).port p) =
      assuranceFields (b.port p) := fun b =>
    (Frame.forAll (fun t c => ptpTick_besideAssurance t c) b.trees b).assurance p
  have hageing : ∀ (b : Bridge) (n : Nat),
      assuranceFields ((b.setPort q fun prt =>
        { prt with rapidAgeingWhile := prt.rapidAgeingWhile - n }).port p) =
        assuranceFields (b.port p) := by
    intro b n
    simp only [Bridge.setPort]
    split <;> rfl
  rw [portTick, apply_ite Bridge.port, Bridge.emit, ite_self, hageing, htimers]
  by_cases h : p = q <;> simp [Bridge.setPort, h, assuranceFields]

theorem bridgeTick_assurance :
    assuranceFields ((bridgeTick br).port p) =
      ((br.port p).brAssuRcvdInfoWhile - br.ports.count p, (br.port p).portEnabled) := by
  have hports : ∀ (l : List PortRef) (b : Bridge), assuranceFields ((forAll portTick l b).port p) =
      ((b.port p).brAssuRcvdInfoWhile - l.count p, (b.port p).portEnabled) := by
    intro l
    induction l with
    | nil => exact fun b => rfl
    | cons q l ih =>
      intro b
      have hturn := @portTick_assurance p q b
      rw [assuranceFields, Prod.mk.injEq] at hturn
      rw [forAll, List.foldl_cons, ← forAll, ih, hturn.1, hturn.2, List.count_cons]
      by_cases h : p = q
      · subst h
        simp
        omega
      · simp [h, Ne.symm h]
  have htrees : Frame besideAssurance br (forAll (fun s b => b.setTree s treeTick) br.trees br) :=
    Frame.forAll (fun _ _ => Frame.setTree (f := treeTick) fun _ => rfl) br.trees br
  have hsame := htrees.assurance p
  rw [assuranceFields, assuranceFields, Prod.mk.injEq] at hsame
  rw [bridgeTick, hports, htrees.ports_eq, hsame.1, hsame.2]

end Count

/-! ## What sets the count -/

/-- The actions that neither set nor use up the count of a port, nor bring it up or down. -/
def Act.besideGrace : Act → Bool
  | .createPort _ _ _ _ _ => false
  | .markDeleted _ => false
  | .switchBridge _ => false
  | .tick => false
  | .linkUp _ _ _ => false
  | .linkDown _ => false
  | .rxBpdu _ _ _ => false
  | _ => true

section Actions

variable {p : PortRef} {n : Nat} {br : Bridge} {a : Act}

theorem graceAfter_beside (ha : a.besideGrace = true) : graceAfter p a br n = n := by
  cases a <;> first | rfl | cases ha

theorem Act.assurance_same (ha : a.besideGrace = true) (hg : a.Guard br) :
    assuranceFields ((a.run br).port p) = assuranceFields (br.port p) := by
  have hbegin := assurance_begin p (assuranceFields (br.port p))
  cases a with
  | createPort | markDeleted | switchBridge | tick | linkUp | linkDown | rxBpdu => cases ha
  | createMsti mstid trees =>
    exact hbegin.tree ((insertAfterLast_mem hg.2.2.2.2 mstid).mpr (Or.inl rfl)) rfl
  | bridgeAddress _ | bridgeConfig _ | tables _ _ _ _ | configId _ _ =>
    exact hbegin.restart (fun b b' hf hb => (hf.port_eq assuranceFields (fun _ => rfl) p).trans hb)
      rfl rfl
  | idleSecond => rfl
  | _ => exact (Act.frame _ br).port_eq assuranceFields (fun _ => rfl) p

/-- A new port is down. -/
theorem createPort_assurance (q : PortRef) (portno : UInt16) (name : String) (speed duplex : Int) :
    assuranceFields (((Act.createPort q portno name speed duplex).run br).port p) =
      if p = q then (0, false) else assuranceFields (br.port p) := by
  refine (assurance_begin p _).port (fun b t hb _ _ => (roleSelection_assurance p t b).trans hb)
    (List.mem_append_right _ List.mem_cons_self) ?_
  rw [addPort]
  simp only [setPortPtps, setPort]
  split
  · rfl
  · rfl

/-- Switching the bridge leaves links as they are. -/
theorem switchBridge_portEnabled (up : Bool) :
    (((Act.switchBridge up).run br).port p).portEnabled = (br.port p).portEnabled := by
  have hbegin : BeginInv fun b => (b.port p).portEnabled = (br.port p).portEnabled :=
    BeginInv.of_pism (fun _ _ hf hi => (hf.port_eq Port.portEnabled (fun _ => rfl) p).trans hi)
      fun b q t hi _ _ =>
        ((pismBegin_frame q t b).port_eq Port.portEnabled (fun _ => rfl) p).trans hi
  exact hbegin.bridge ((resetBridge_frame up br).port_eq Port.portEnabled (fun _ => rfl) p)

theorem updtbrAssuRcvdInfoWhile_assurance (b : Bridge) :
    assuranceFields ((updtbrAssuRcvdInfoWhile p b).port p) =
      (3 * (b.cist p).portTimes.helloTime.toNat, (b.port p).portEnabled) := by
  rw [updtbrAssuRcvdInfoWhile]
  simp only [Bridge.setPort, if_true]
  rfl

theorem linkUp_assurance (speed duplex : Int) :
    assuranceFields ((linkUp p speed duplex br).port p) =
      if (br.port p).portEnabled then assuranceFields (br.port p)
      else (3 * (br.cist p).portTimes.helloTime.toNat, true) := by
  have hassign : assuranceFields ((assignLink p speed duplex br).port p) =
      assuranceFields (br.port p) := by
    simp only [assignLink, setPortPtps, Bridge.setPort, if_true]
    rfl
  have htimes : ((assignLink p speed duplex br).cist p).portTimes = (br.cist p).portTimes := by
    simp only [assignLink, setPortPtps, Bridge.setPort, cist]
    split <;> rfl
  rw [linkUp]
  split
  · exact hassign
  · rw [portUp, updtbrAssuRcvdInfoWhile_assurance, ← htimes]
    simp only [Bridge.setPort, if_true]
    rfl

theorem rxAssign_assurance (bpdu : Mem) (size : Nat) :
    assuranceFields ((rxAssign p bpdu size br).port p) =
      if (Act.rxBpdu p bpdu size).hears p br then
        (3 * (br.cist p).portTimes.helloTime.toNat, (br.port p).portEnabled)
      else assuranceFields (br.port p) := by
  have hhears : (Act.rxBpdu p bpdu size).hears p br =
      ((rxRefusal br p).isNone && (validateBpdu bpdu size).isSome) := by
    simp [Act.hears]
  have hcounted : ∀ b : Bridge, ∀ f : Port → Port,
      (∀ x, assuranceFields (f x) = assuranceFields x) →
      assuranceFields ((b.setPort p f).port p) = assuranceFields (b.port p) := by
    intro b f hf
    simp only [Bridge.setPort, if_true]
    exact hf _
  have hrefusal' :
      rxRefusal (br.setPort p fun prt => { prt with numRxBpdu := prt.numRxBpdu + 1 }) p =
      rxRefusal br p := by
    simp only [rxRefusal, port_setPort_self]
    rfl
  rw [hhears]
  cases hrefusal : rxRefusal br p with
  | none =>
    cases hvalid : validateBpdu bpdu size with
    | none =>
      simp only [rxAssign, hrefusal', hrefusal, hvalid]
      exact hcounted br _ fun _ => rfl
    | some accepted =>
      rw [rxAssign_accepted hrefusal hvalid, acceptBpdu, updtbrAssuRcvdInfoWhile_assurance]
      simp only [Bridge.setPort, if_true]
      rfl
  | some refusal =>
    simp only [rxAssign, hrefusal', hrefusal]
    cases refusal <;> simp only [emit, Bridge.setPort, if_true] <;> rfl

end Actions

/-! ## The grace is kept -/

/-- What the count and the seconds of a port make up together. -/
def Graced (p : PortRef) (n : Nat) (br : Bridge) : Prop :=
  br.bridgeEnabled = true → p ∈ br.ports → (br.port p).portEnabled = true →
    6 ≤ (br.port p).brAssuRcvdInfoWhile + n

section Graced

variable {p : PortRef} {n : Nat} {br b : Bridge}

/-- What neither switches the bridge on nor brings the port up keeps the grace. -/
theorem Graced.keep (hi : Graced p n br) {k : Nat}
    (hen : b.bridgeEnabled = true → br.bridgeEnabled = true)
    (hports : p ∈ b.ports → p ∈ br.ports)
    (hup : (b.port p).portEnabled = true → (br.port p).portEnabled = true)
    (hcount : (br.port p).brAssuRcvdInfoWhile ≤ (b.port p).brAssuRcvdInfoWhile + k) :
    Graced p (n + k) b := by
  intro hb hp hpe
  have hbefore := hi (hen hb) (hports hp) (hup hpe)
  omega

theorem Graced.same (hi : Graced p n br) (hen : b.bridgeEnabled = br.bridgeEnabled)
    (hports : p ∈ b.ports → p ∈ br.ports)
    (hfields : assuranceFields (b.port p) = assuranceFields (br.port p)) : Graced p n b := by
  rw [assuranceFields, assuranceFields, Prod.mk.injEq] at hfields
  refine hi.keep (k := 0) (fun h => hen ▸ h) hports (fun h => hfields.2 ▸ h) ?_
  exact hfields.1.ge

/-- The count is set to three hello times. -/
theorem Graced.fresh (hcount : (b.port p).brAssuRcvdInfoWhile = 6) : Graced p 0 b := by
  intro _ _ _
  rw [hcount]

theorem Graced.down (hdown : (b.port p).portEnabled = false) : Graced p n b := by
  intro _ _ hup
  rw [hdown] at hup
  cases hup

theorem Graced.beside (hi : Graced p n br) {a : Act} (ha : a.besideGrace = true)
    (hg : a.Guard br) : Graced p (graceAfter p a br n) (a.run br) := by
  rw [graceAfter_beside ha]
  refine hi.same (Act.enabled_eq ?_ hg) (fun h => Act.listed ?_ hg h) (Act.assurance_same ha hg)
  · rintro up rfl
    cases ha
  · cases a <;> first | rfl | cases ha

theorem Graced.createPort (hi : Graced p n br) {q : PortRef} {portno : UInt16} {name : String}
    {speed duplex : Int} (hg : (Act.createPort q portno name speed duplex).Guard br) :
    Graced p (graceAfter p (.createPort q portno name speed duplex) br n)
      ((Act.createPort q portno name speed duplex).run br) := by
  have hfields := @createPort_assurance p br q portno name speed duplex
  by_cases h : p = q
  · rw [if_pos h, assuranceFields, Prod.mk.injEq] at hfields
    exact Graced.down hfields.2
  · rw [if_neg h] at hfields
    have hcreates : (Act.createPort q portno name speed duplex).creates p = false :=
      decide_eq_false (Ne.symm h)
    exact hi.same (Act.enabled_eq (fun _ => Act.noConfusion) hg) (Act.listed hcreates hg) hfields

/-- The bridge is switched on around a port that is down. -/
theorem Graced.switchBridge {up : Bool} (hg : (Act.switchBridge up).Guard br)
    (hC : (Act.switchBridge up).Graceful p br) :
    Graced p (graceAfter p (.switchBridge up) br n) ((Act.switchBridge up).run br) := by
  cases up with
  | false =>
    intro hen
    have hoff := (switchBridge_enabled false br).symm.trans hen
    cases hoff
  | true =>
    intro _ hp hup
    rw [switchBridge_portEnabled] at hup
    have hports : ((Act.switchBridge true).run br).ports = br.ports := Act.ports_eq rfl hg
    have hdown := hC rfl (hports ▸ hp)
    rw [hup] at hdown
    cases hdown

theorem Graced.tick (hi : Graced p n br) (hnodup : br.ports.Nodup) (hg : Act.tick.Guard br) :
    Graced p (graceAfter p .tick br n) (Act.tick.run br) := by
  have hfields := @bridgeTick_assurance p { br with uptime := br.uptime + 1 }
  rw [assuranceFields, Prod.mk.injEq] at hfields
  have honce : br.ports.count p ≤ 1 := List.nodup_iff_count_le_one.mp hnodup p
  refine hi.keep (k := 1) (fun h => ?_) (fun h => ?_) (fun h => hfields.2.symm.trans h) ?_
  · exact (Act.enabled_eq (fun _ => Act.noConfusion) hg).symm.trans h
  · exact Act.listed rfl hg h
  · have hcount := hfields.1
    simp only [Act.run] at hcount ⊢
    omega

theorem Graced.linkUp (hi : Graced p n br)
    (hhello : p ∈ br.ports → (br.cist p).portTimes.helloTime = 2) {q : PortRef} {speed duplex : Int}
    (hg : (Act.linkUp q speed duplex).Guard br) :
    Graced p (graceAfter p (.linkUp q speed duplex) br n) ((Act.linkUp q speed duplex).run br) := by
  have hen := Act.enabled_eq (a := .linkUp q speed duplex) (fun _ => Act.noConfusion) hg
  have hlisted : p ∈ ((Act.linkUp q speed duplex).run br).ports → p ∈ br.ports := Act.listed rfl hg
  by_cases h : p = q
  · subst h
    have hfields := @linkUp_assurance p br speed duplex
    cases hup : (br.port p).portEnabled with
    | true =>
      have hafter : graceAfter p (.linkUp p speed duplex) br n = n := by
        simp [graceAfter, Act.switchesOn, Act.raises, Act.hears, Act.seconds, hup]
      rw [if_pos hup] at hfields
      rw [hafter]
      exact hi.same hen hlisted hfields
    | false =>
      have hafter : graceAfter p (.linkUp p speed duplex) br n = 0 := by
        simp [graceAfter, Act.switchesOn, Act.raises, hup]
      rw [if_neg (Bool.eq_false_iff.mp hup), hhello hg, assuranceFields, Prod.mk.injEq] at hfields
      rw [hafter]
      exact Graced.fresh hfields.1
  · have hafter : graceAfter p (.linkUp q speed duplex) br n = n := by
      simp [graceAfter, Act.switchesOn, Act.raises, Act.hears, Act.seconds, Ne.symm h]
    rw [hafter]
    refine hi.same hen hlisted ?_
    rw [(Act.untouched (a := .linkUp q speed duplex) rfl h br).1]

theorem Graced.rxBpdu (hi : Graced p n br)
    (hhello : p ∈ br.ports → (br.cist p).portTimes.helloTime = 2) {q : PortRef} {bpdu : Mem}
    {size : Nat} (hg : (Act.rxBpdu q bpdu size).Guard br) :
    Graced p (graceAfter p (.rxBpdu q bpdu size) br n) ((Act.rxBpdu q bpdu size).run br) := by
  have hen := Act.enabled_eq (a := .rxBpdu q bpdu size) (fun _ => Act.noConfusion) hg
  have hlisted : p ∈ ((Act.rxBpdu q bpdu size).run br).ports → p ∈ br.ports := Act.listed rfl hg
  by_cases h : p = q
  · subst h
    have hfields := @rxAssign_assurance p br bpdu size
    cases hhears : (Act.rxBpdu p bpdu size).hears p br with
    | true =>
      have hafter : graceAfter p (.rxBpdu p bpdu size) br n = 0 := by
        simp [graceAfter, Act.switchesOn, hhears]
      rw [if_pos hhears, hhello hg, assuranceFields, Prod.mk.injEq] at hfields
      rw [hafter]
      exact Graced.fresh hfields.1
    | false =>
      have hafter : graceAfter p (.rxBpdu p bpdu size) br n = n := by
        simp [graceAfter, Act.switchesOn, Act.raises, hhears, Act.seconds]
      rw [if_neg (Bool.eq_false_iff.mp hhears)] at hfields
      rw [hafter]
      exact hi.same hen hlisted hfields
  · have hafter : graceAfter p (.rxBpdu q bpdu size) br n = n := by
      simp [graceAfter, Act.switchesOn, Act.raises, Act.hears, Act.seconds, Ne.symm h]
    rw [hafter]
    refine hi.same hen hlisted ?_
    rw [(Act.untouched (a := .rxBpdu q bpdu size) rfl h br).1]

/-- A port that goes down has no grace to lose. -/
theorem Graced.falls (hi : Graced p n br) {q : PortRef} {f : Port → Port}
    (hf : ∀ x, (f x).portEnabled = false) : Graced p n (br.setPort q f) := by
  by_cases h : p = q
  · refine Graced.down ?_
    simp only [Bridge.setPort, h, if_true]
    exact hf _
  · refine hi.same rfl id ?_
    simp only [Bridge.setPort, h, if_false]

theorem Graced.act (hi : Graced p n br) (hnodup : br.ports.Nodup)
    (hhello : p ∈ br.ports → (br.cist p).portTimes.helloTime = 2) {a : Act} (hg : a.Guard br)
    (hC : a.Graceful p br) : Graced p (graceAfter p a br n) (a.run br) := by
  cases a with
  | createPort q portno name speed duplex => exact hi.createPort hg
  | switchBridge up => exact Graced.switchBridge hg hC
  | tick => exact hi.tick hnodup hg
  | linkUp q speed duplex => exact hi.linkUp hhello hg
  | rxBpdu q bpdu size => exact hi.rxBpdu hhello hg
  | markDeleted q => exact hi.falls fun _ => rfl
  | linkDown q => exact hi.falls fun _ => rfl
  | _ => exact hi.beside rfl hg

end Graced

/-- Over a run from the creation of a bridge. -/
theorem graced_run {p : PortRef} {env : Env} {macaddr : BitVec 48} {n : Nat} {k : Phase}
    {br : Bridge} (h : (assuranceActs p).Leads (graceful p)
      (0, .idle, mstpInBridgeCreate env macaddr) (n, k, br)) :
    VisitedAt anyAct k br ∧ Graced p n br := by
  refine Labelled.Leads.inv (I := fun s => VisitedAt anyAct s.2.1 s.2.2 ∧ Graced p s.1 s.2.2) ?_
    ⟨⟨env, macaddr, .refl _⟩, ?_⟩ h
  · intro m s hs hg hC
    obtain ⟨hv, hi⟩ := hs
    have hnext : VisitedAt anyAct (passActs.act m s.2).1 (passActs.act m s.2).2 := by
      obtain ⟨e, mac, hlead⟩ := hv
      refine ⟨e, mac, hlead.trans (.act hg ?_)⟩
      cases m <;> trivial
    refine ⟨hnext, ?_⟩
    cases m with
    | proceed => exact hi
    | act a =>
      refine hi.act hv.visited.ports_nodup (fun hp => ?_) hg.1 hC
      exact (hv.helloKept p hp 0 hv.visited.cist_mem).port
  · intro hen
    cases hen

/-! ## Switching the bridge on around a port -/

/-- A port that only waits for its count, which is zero. -/
def overdueFields (x : Port) : Nat × Bool × Bool × Bool × Bool :=
  (x.brAssuRcvdInfoWhile, x.portEnabled, x.networkPort, x.operPointToPointMAC, x.baInconsistent)

/-- The port is to expire as soon as it sends RSTP. -/
def Overdue (p : PortRef) (br : Bridge) : Prop :=
  overdueFields (br.port p) = (0, true, true, true, false) ∧ br.rstpVersion = true

def OverdueSender (p : PortRef) (br : Bridge) : Prop := Overdue p br ∧ (br.port p).sendRSTP = true

section Overdue

variable {p : PortRef} {br b : Bridge}

theorem Overdue.frame (hi : Overdue p br) {o : Owned} (h : Frame o br b)
    (ho : ∀ x, overdueFields (o.port x) = overdueFields x)
    (hversion : ∀ c : Bridge, (o.config c.config).rstpVersion = c.rstpVersion) : Overdue p b :=
  ⟨(h.port_eq overdueFields ho p).trans hi.1, (h.config_eq rstpVersion hversion).trans hi.2⟩

theorem OverdueSender.frame (hi : OverdueSender p br) {o : Owned} (h : Frame o br b)
    (ho : ∀ x, overdueFields (o.port x) = overdueFields x)
    (hsend : ∀ x, (o.port x).sendRSTP = x.sendRSTP)
    (hversion : ∀ c : Bridge, (o.config c.config).rstpVersion = c.rstpVersion) :
    OverdueSender p b :=
  ⟨hi.1.frame h ho hversion, (h.port_eq Port.sendRSTP hsend p).trans hi.2⟩

/-- The assurance variables of a port as `port_default_internal_vars` leaves them. -/
def zeroed (p : PortRef) (br : Bridge) : Prop :=
  ((br.port p).brAssuRcvdInfoWhile, (br.port p).baInconsistent) = (0, false)

theorem resetBridge_overdue (hp : p ∈ br.ports) (hup : (br.port p).portEnabled = true)
    (hnetwork : (br.port p).networkPort = true) (hp2p : (br.port p).operPointToPointMAC = true)
    (hversion : br.rstpVersion = true) : Overdue p (resetBridge true br) := by
  have hframe := resetBridge_frame true br
  have hstate : ∀ (q : PortRef) (b : Bridge) s, zeroed p b → zeroed p
      ((if (b.ptp q s).state ≠ .disabled then mstpOutSetState q s .disabled b else b).setPtp q s
        ptpDefaultInternalVars) := by
    intro q b s hb
    have hf := Frame.ite (c := (b.ptp q s).state ≠ .disabled)
      (mstpOutSetState_frame q s .disabled b) (Frame.refl _ b)
    have hsame :=
      hf.port_eq (fun x => (x.brAssuRcvdInfoWhile, x.baInconsistent)) (fun _ => rfl) p
    exact hsame.trans hb
  have hset : ∀ b : Bridge, zeroed p (b.setPort p portDefaultInternalVars) := by
    intro b
    simp only [zeroed, Bridge.setPort, if_true]
    rfl
  have hkeep : ∀ (q : PortRef) (b : Bridge), zeroed p b →
      zeroed p (b.setPort q portDefaultInternalVars) := by
    intro q b hb
    simp only [zeroed, Bridge.setPort] at hb ⊢
    split
    · rfl
    · exact hb
  have hemit : ∀ (q : PortRef) (b : Bridge), zeroed p b → zeroed p
      (if (b.port q).rapidAgeingWhile ≠ 0 then b.emit (.setAgeingTime q b.ageingTime) else b) := by
    intro q b hb
    split <;> exact hb
  have hzero : zeroed p (resetBridge true br) := by
    rw [resetBridge]
    refine forAll_reaches hp (fun b => ?_) (fun q b hb => ?_) _
    · rw [resetPort]
      exact forAll_inv (fun s _ c hc => hstate p c s hc) (hset _)
    · rw [resetPort]
      exact forAll_inv (fun s _ c hc => hstate q c s hc) (hkeep q _ (hemit q b hb))
  simp only [zeroed, Prod.mk.injEq] at hzero
  have hkept := hframe.port_eq (fun x => (x.portEnabled, x.networkPort, x.operPointToPointMAC))
    (fun _ => rfl) p
  simp only [Prod.mk.injEq] at hkept
  refine ⟨?_, (hframe.config_eq rstpVersion fun _ => rfl).trans hversion⟩
  rw [overdueFields, hzero.1, hzero.2, hkept.1, hkept.2.1, hkept.2.2, hup, hnetwork, hp2p]

/-- The machines before Port Information begin. -/
theorem portMachinesBegin_sender (hi : Overdue p br) (hp : p ∈ br.ports) :
    OverdueSender p (portMachinesBegin br.ports br) := by
  have hprsm : Overdue p (forAll prsmToDiscard br.ports br) :=
    forAll_inv (I := Overdue p) (fun q _ b hb => hb.frame (prsmTo_frame q .discard b)
      (fun _ => rfl) fun _ => rfl) hi
  have hchecking : ∀ q b, Overdue p b → Overdue p (ppmsmToCheckingRstp q b) := fun q b hb =>
    hb.frame (ppmsmTo_frame q .checkingRstp b) (fun _ => rfl) fun _ => rfl
  have hbdsm : ∀ q b, OverdueSender p b → OverdueSender p (bdsmBegin q b) := fun q b hb =>
    hb.frame (bdsmTo_frame q _ b) (fun _ => rfl) (fun _ => rfl) fun _ => rfl
  have hptsm : ∀ q b, OverdueSender p b → OverdueSender p (ptsmToTransmitInit q b) := fun q b hb =>
    hb.frame (ptsmTo_frame q .transmitInit b) (fun _ => rfl) (fun _ => rfl) fun _ => rfl
  rw [portMachinesBegin]
  refine forAll_inv (fun q _ b hb => hptsm q b hb) (forAll_inv (fun q _ b hb => hbdsm q b hb) ?_)
  refine forAll_reaches_of (J := Overdue p) hp hchecking (fun b hb => ?_) (fun q b hb => ?_) hprsm
  · refine ⟨hchecking p b hb, ?_⟩
    rw [ppmsmToCheckingRstp]
    simp only [Bridge.setPort, if_true]
    exact hb.2
  · refine ⟨hchecking q b hb.1, ?_⟩
    simp only [ppmsmToCheckingRstp, Bridge.setPort]
    split
    · exact hb.1.2
    · exact hb.2

theorem bridgeBegin_expires (hi : Overdue p br) (hp : p ∈ br.ports)
    (hen : br.bridgeEnabled = true) : assuranceExpires (bridgeBegin br) p = true := by
  have hpism : ∀ q t b, OverdueSender p b → OverdueSender p (pismBegin q t b) := fun q t b hb =>
    hb.frame (pismBegin_frame q t b) (fun _ => rfl) (fun _ => rfl) fun _ => rfl
  have htree : ∀ t b, OverdueSender p b → OverdueSender p (prssmToInitTree t b) := fun t b hb =>
    hb.frame (prssmToInitTree_frame t b) (fun _ => rfl) (fun _ => rfl) fun _ => rfl
  have hprtsm : ∀ q t b, OverdueSender p b → OverdueSender p (prtsmToInitPort q t b) :=
    fun q t b hb =>
      hb.frame (prtsmToInitPort_frame q t b) (fun _ => rfl) (fun _ => rfl) fun _ => rfl
  have hpstsm : ∀ q t b, OverdueSender p b → OverdueSender p (pstsmTo q t .discarding b) :=
    fun q t b hb =>
      hb.frame (pstsmTo_frame q t .discarding b) (fun _ => rfl) (fun _ => rfl) fun _ => rfl
  have htcsm : ∀ q t b, OverdueSender p b → OverdueSender p (tcsmToInactive q t b) :=
    fun q t b hb =>
      hb.frame (tcsmTo_frame q t .inactive b) (fun _ => rfl) (fun _ => rfl) fun _ => rfl
  have hend : OverdueSender p (bridgeBegin br) := by
    rw [bridgeBegin, if_pos hen, ptpMachinesBegin]
    refine forAll_inv (I := OverdueSender p)
      (fun (o : PortRef × Mstid) _ b hb => htcsm o.1 o.2 b hb) ?_
    refine forAll_inv (I := OverdueSender p)
      (fun (o : PortRef × Mstid) _ b hb => hpstsm o.1 o.2 b hb) ?_
    refine forAll_inv (I := OverdueSender p)
      (fun (o : PortRef × Mstid) _ b hb => hprtsm o.1 o.2 b hb) ?_
    refine forAll_inv (I := OverdueSender p) (fun t _ b hb => htree t b hb) ?_
    exact forAll_inv (I := OverdueSender p)
      (fun (o : PortRef × Mstid) _ b hb => hpism o.1 o.2 b hb) (portMachinesBegin_sender hi hp)
  obtain ⟨⟨hfields, -⟩, hsend⟩ := hend
  simp only [overdueFields, Prod.mk.injEq] at hfields
  obtain ⟨hcount, hup, hnetwork, hp2p, hba⟩ := hfields
  simp [assuranceExpires, assurancePort, hcount, hup, hnetwork, hp2p, hba, hsend]

end Overdue

/-- In every run in which the bridge is never switched on around a port that is up, the port has
its grace before it is blocked. A point-to-point port that is up and a network port when the
bridge is switched on is blocked at once. -/
theorem assurance_grace (p : PortRef) :
    (∀ env macaddr n k br, (assuranceActs p).Leads (graceful p)
        (0, .idle, mstpInBridgeCreate env macaddr) (n, k, br) →
      (Act.assurance p).Guard br → assuranceExpires br p = true → 3 * br.helloTime.toNat ≤ n) ∧
    ∀ k br, VisitedAt anyAct k br → (Act.switchBridge true).Guard br → p ∈ br.ports →
      (br.port p).portEnabled = true → (br.port p).networkPort = true →
      (br.port p).operPointToPointMAC = true → br.rstpVersion = true →
        assuranceExpires ((Act.switchBridge true).run br) p = true := by
  constructor
  · intro env macaddr n k br h hg hexp
    obtain ⟨hv, hi⟩ := graced_run h
    simp only [assuranceExpires, Bool.and_eq_true, beq_iff_eq] at hexp
    obtain ⟨⟨⟨hup, -⟩, hcount⟩, -⟩ := hexp
    have hgrace := hi hg.1 hg.2 hup
    have hhello : br.helloTime.toNat = 2 :=
      congrArg UInt8.toNat hv.visited.configured.parameters.helloTime
    omega
  · intro k br _ hg hp hup hnetwork hp2p hversion
    have hreset := resetBridge_frame true br
    refine bridgeBegin_expires (resetBridge_overdue hp hup hnetwork hp2p hversion) ?_ ?_
    · exact hreset.ports_eq.symm ▸ hp
    · exact resetBridge_enabled true br

/-- The port is up and a network port before the bridge is switched on. -/
def readyPort : List Move :=
  [.act (.createPort 1 1 "sw1p1" 1000 1), .act (.portConfig 1 { networkPort := some true }),
    .act (.linkUp 1 1000 1)]

instance (p : PortRef) (m : Move) (s : Nat × Phase × Bridge) :
    Decidable ((assuranceActs p).guard m s) := inferInstanceAs (Decidable (passActs.guard m s.2))

instance (p : PortRef) : (m : Move) → (s : Nat × Phase × Bridge) → Decidable (graceful p m s)
  | .act a, s =>
    inferInstanceAs (Decidable (a.switchesOn = true → p ∈ s.2.2.ports →
      (s.2.2.port p).portEnabled = false))
  | .proceed, _ => isTrue trivial

/-- Such a port is blocked without any grace, although it was a network port already. -/
theorem readyPort_no_grace : ¬ ∀ (p : PortRef) env macaddr n k br a,
    (assuranceActs p).Leads (fun _ _ => True)
        (0, .idle, mstpInBridgeCreate env macaddr) (n, k, br) →
      (assuranceActs p).guard (.act a) (n, k, br) → (br.port p).networkPort = true →
      (Act.assurance p).Guard (a.run br) → assuranceExpires (a.run br) p = true →
        3 * (a.run br).helloTime.toNat ≤ graceAfter p a br n := by
  intro h
  have hrun : ((assuranceActs 1).attempt (fun _ _ => True) readyPort
      (0, .idle, mstpInBridgeCreate sampleEnv 0x020000000001)).any (fun s =>
        decide ((assuranceActs 1).guard (.act (.switchBridge true)) s) &&
          (s.2.2.port 1).networkPort &&
          decide ((Act.assurance 1).Guard ((Act.switchBridge true).run s.2.2)) &&
          assuranceExpires ((Act.switchBridge true).run s.2.2) 1 &&
          decide (¬ 3 * ((Act.switchBridge true).run s.2.2).helloTime.toNat ≤
            graceAfter 1 (.switchBridge true) s.2.2 s.1)) = true := by
    decide +kernel
  obtain ⟨⟨n, k, br⟩, hs, hend⟩ := (Option.any_eq_true _ _).mp hrun
  simp only [Bool.and_eq_true, decide_eq_true_eq] at hend
  obtain ⟨⟨⟨⟨hguard, hnetwork⟩, hg⟩, hexp⟩, hfew⟩ := hend
  exact hfew (h 1 _ _ n k br _ (Labelled.attempt_leads hs) hguard hnetwork hg hexp)

/-- A port that comes up after the bridge, and six seconds of silence. -/
def silentNeighbour : List Move :=
  [.act (.createPort 1 1 "sw1p1" 1000 1), .act (.portConfig 1 { networkPort := some true }),
    .act (.switchBridge true), .act (.linkUp 1 1000 1)] ++ List.replicate 6 (.act .tick)

theorem silentNeighbour_grace :
    (∃ br : Bridge, assuranceExpires br 1 = true ∧ 3 * br.helloTime.toNat ≤ 6) ∧
    ∃ br, (br.port 1).portEnabled = true ∧
      assuranceExpires ((Act.switchBridge true).run br) 1 = true := by
  have hsilent : ((assuranceActs 1).attempt (graceful 1) silentNeighbour
      (0, .idle, mstpInBridgeCreate sampleEnv 0x020000000001)).any (fun s =>
        decide ((Act.assurance 1).Guard s.2.2) && assuranceExpires s.2.2 1 && s.1 == 6) = true := by
    decide +kernel
  have hready : (passActs.attempt (onActs anyAct) readyPort
      (.idle, mstpInBridgeCreate sampleEnv 0x020000000001)).any (fun s =>
        decide ((Act.switchBridge true).Guard s.2) && s.2.ports.contains 1 &&
          (s.2.port 1).portEnabled && (s.2.port 1).networkPort &&
          (s.2.port 1).operPointToPointMAC && s.2.rstpVersion) = true := by
    decide +kernel
  constructor
  · obtain ⟨⟨n, k, br⟩, hs, hend⟩ := (Option.any_eq_true _ _).mp hsilent
    simp only [Bool.and_eq_true, decide_eq_true_eq, beq_iff_eq] at hend
    obtain ⟨⟨hg, hexp⟩, rfl⟩ := hend
    exact ⟨br, hexp, (assurance_grace 1).1 _ _ 6 k br (Labelled.attempt_leads hs) hg hexp⟩
  · obtain ⟨⟨k, br⟩, hs, hend⟩ := (Option.any_eq_true _ _).mp hready
    simp only [Bool.and_eq_true, decide_eq_true_eq, List.contains_iff_mem] at hend
    obtain ⟨⟨⟨⟨⟨hg, hp⟩, hup⟩, hnetwork⟩, hp2p⟩, hversion⟩ := hend
    have hv : VisitedAt anyAct k br := ⟨_, _, Labelled.attempt_leads hs⟩
    exact ⟨br, hup, (assurance_grace 1).2 k br hv hg hp hup hnetwork hp2p hversion⟩

end Mstpd
