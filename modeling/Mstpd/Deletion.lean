import Mstpd.FinalRoles
import Mstpd.MessageAge
import Mstpd.RootChoice

/-!
# The deletion of a port

A port that is about to leave goes to Disabled in one run of the machines and is out of the
lists in the next. Whatever the machines do meanwhile, they make no calls for it, and role
selection lets go of it before it leaves.
-/

namespace Mstpd

open Bridge Machine

/-! ## Silence -/

/-- The port that a call is about. -/
def MstpOut.about : MstpOut → PortRef
  | .setState p _ _ => p
  | .flushAllFids p _ => p
  | .setAgeingTime p _ => p
  | .txBpdu p _ _ => p
  | .shutdownPort p => p

/-- Some calls have been made, and none of them about the port. -/
def Silent (p : PortRef) (br br' : Bridge) : Prop :=
  ∃ calls, br'.out = calls ++ br.out ∧ ∀ c ∈ calls, c.about ≠ p

namespace Silent

variable {p : PortRef} {br b br' : Bridge}

theorem of_eq (h : br'.out = br.out) : Silent p br br' :=
  ⟨[], h, fun _ hc => absurd hc List.not_mem_nil⟩

theorem trans (h : Silent p br b) (h' : Silent p b br') : Silent p br br' := by
  obtain ⟨calls, hout, hcalls⟩ := h
  obtain ⟨calls', hout', hcalls'⟩ := h'
  refine ⟨calls' ++ calls, by rw [hout', hout, List.append_assoc], fun c hc => ?_⟩
  rcases List.mem_append.mp hc with hc | hc
  · exact hcalls' c hc
  · exact hcalls c hc

theorem ite {c : Prop} [Decidable c] (h : c → Silent p br b) (h' : ¬ c → Silent p br br') :
    Silent p br (if c then b else br') := by
  split
  · rename_i hc
    exact h hc
  · rename_i hc
    exact h' hc

end Silent

section Machines

variable {p q : PortRef} {t : Mstid} {br : Bridge}

/-- A machine is silent about a port that it does not run for, or that has been deleted. -/
theorem pstsmTo_silent (hq : q = p → (br.port p).deleted = true) (s : PstsmState) :
    Silent p br (pstsmTo q t s br) := by
  have hpush : ∀ x, Silent p br (pstsmPush q t x br) := by
    intro x
    refine Silent.ite (fun hpush => ?_) fun _ => Silent.of_eq rfl
    have hkept : (br.port q).deleted = false := by
      simpa using (Bool.and_eq_true_iff.mp hpush).2
    have hne : q ≠ p := by
      rintro rfl
      rw [hq rfl] at hkept
      cases hkept
    exact ⟨[.setState q t x], rfl, fun c hc => by rw [List.mem_singleton.mp hc]; exact hne⟩
  cases s with
  | discarding => exact (hpush .blocking).trans (Silent.of_eq rfl)
  | learning => exact (hpush .learning).trans (Silent.of_eq rfl)
  | forwarding => exact (hpush .forwarding).trans (Silent.of_eq rfl)

theorem setFdbFlush_silent (hq : q = p → (br.port p).deleted = true) :
    Silent p br (setFdbFlush q t br) := by
  rw [setFdbFlush]
  refine Silent.ite (fun _ => Silent.of_eq rfl) fun hkept => ?_
  have hne : q ≠ p := by
    rintro rfl
    rw [hq rfl, Bool.or_true] at hkept
    exact hkept rfl
  refine Silent.ite (fun _ => ?_) fun _ => ?_
  · exact ⟨[.flushAllFids q t], rfl, fun c hc => by rw [List.mem_singleton.mp hc]; exact hne⟩
  · exact ⟨[.setAgeingTime q _], rfl, fun c hc => by rw [List.mem_singleton.mp hc]; exact hne⟩

/-- Anything may change but the calls. -/
def apartFromCalls : Owned := { everything with out := fun _ => false }

theorem Silent.frame {b : Bridge} (h : Frame apartFromCalls br b) : Silent p br b :=
  Silent.of_eq (h.out_eq fun _ => rfl)

theorem newTcWhile_calls : Frame apartFromCalls br (newTcWhile q t br) := by
  rw [newTcWhile]
  refine Frame.ite (Frame.refl _ _) (Frame.ite ?_ ?_)
  · refine Frame.after (Frame.setPort fun _ => rfl) (Frame.after (Frame.setTree fun _ => rfl) ?_)
    exact Frame.setPtp fun _ => rfl
  · exact Frame.after (Frame.setTree fun _ => rfl) (Frame.setPtp fun _ => rfl)

/-- Of the topology change machine only the flush can be heard. -/
theorem tcsmTo_silent (hq : q = p → (br.port p).deleted = true) (s : TcsmState) :
    Silent p br (tcsmTo q t s br) := by
  have hnew : ∀ b, Silent p b (newTcWhile q t b) := fun b => Silent.frame newTcWhile_calls
  cases s with
  | inactive =>
    have hflush := @setFdbFlush_silent p q t
      (br.setPtp q t fun ptp => { ptp with tcsmState := .inactive }) hq
    exact (Silent.of_eq rfl).trans (hflush.trans (Silent.of_eq rfl))
  | learning => exact Silent.of_eq rfl
  | detected =>
    exact (Silent.of_eq rfl).trans ((hnew (br.setPtp q t fun ptp =>
      { ptp with tcsmState := .detected })).trans (Silent.of_eq rfl))
  | notifiedTcn =>
    exact (Silent.of_eq rfl).trans ((hnew (br.setPtp q t fun ptp =>
      { ptp with tcsmState := .notifiedTcn })).trans (Silent.of_eq rfl))
  | notifiedTc => exact Silent.of_eq rfl
  | propagating =>
    have hstart := hnew (br.setPtp q t fun ptp => { ptp with tcsmState := .propagating })
    have hdeleted : q = p → ((newTcWhile q t (br.setPtp q t fun ptp =>
        { ptp with tcsmState := .propagating })).port p).deleted = true := fun h =>
      ((newTcWhile_frame q t _).port_eq Port.deleted (fun _ => rfl) p).trans (hq h)
    have hflush := setFdbFlush_silent (t := t) hdeleted
    exact (Silent.of_eq rfl).trans (hstart.trans (hflush.trans (Silent.of_eq rfl)))
  | acknowledged => exact Silent.of_eq rfl
  | active => exact Silent.of_eq rfl

theorem transmission_silent {tx : Bridge → Bridge} (before after : Port → Port)
    (hkept : ∀ x, (before x).deleted = x.deleted)
    (hsuppressed : ∀ b : Bridge, (b.port q).deleted = true → tx b = b)
    (htx : ∀ b, tx b = b ∨ ∃ bpdu size, tx b = mstpOutTxBpdu q bpdu size b)
    (hq : q = p → (br.port p).deleted = true) :
    Silent p br ((tx (br.setPort q before)).setPort q after) := by
  have hsend : Silent p (br.setPort q before) (tx (br.setPort q before)) := by
    by_cases hqp : q = p
    · subst hqp
      have hdeleted : ((br.setPort q before).port q).deleted = true := by
        simp [Bridge.setPort, hkept, hq rfl]
      exact Silent.of_eq (congrArg Bridge.out (hsuppressed _ hdeleted))
    · rcases htx (br.setPort q before) with hstay | ⟨bpdu, size, hsend⟩
      · exact Silent.of_eq (congrArg Bridge.out hstay)
      · rw [hsend]
        exact ⟨[.txBpdu q bpdu size], rfl, fun c hc => by rw [List.mem_singleton.mp hc]; exact hqp⟩
  exact (Silent.of_eq rfl).trans (hsend.trans (Silent.of_eq rfl))

theorem ptsmTo_silent (hq : q = p → (br.port p).deleted = true) (s : PtsmState) :
    Silent p br (ptsmTo q s br) := by
  have hsuppressed : ∀ b : Bridge, (b.port q).deleted = true → txSuppressed b q = true := by
    intro b hb
    rw [txSuppressed, hb]
    rfl
  cases s with
  | transmitInit => exact Silent.of_eq rfl
  | transmitConfig =>
    exact transmission_silent
      (fun prt => { prt with ptsmState := .transmitConfig, newInfo := false })
      (fun prt => { prt with txCount := prt.txCount + 1, tcAck := false }) (fun _ => rfl)
      (fun b hb => if_pos (hsuppressed b hb)) (fun _ => txConfig_cases) hq
  | transmitTcn =>
    exact transmission_silent (fun prt => { prt with ptsmState := .transmitTcn, newInfo := false })
      (fun prt => { prt with txCount := prt.txCount + 1 }) (fun _ => rfl)
      (fun b hb => if_pos (hsuppressed b hb)) (fun _ => txTcn_cases) hq
  | transmitRstp =>
    exact transmission_silent
      (fun prt => { prt with ptsmState := .transmitRstp, newInfo := false, newInfoMsti := false })
      (fun prt => { prt with txCount := prt.txCount + 1, tcAck := false }) (fun _ => rfl)
      (fun b hb => if_pos (hsuppressed b hb)) (fun _ => txMstp_cases) hq
  | transmitPeriodic => exact Silent.of_eq rfl
  | idle => exact Silent.of_eq rfl

end Machines

/-- The port has been marked, and since then no call has been about it. -/
def Muted (p : PortRef) (start br : Bridge) : Prop :=
  (br.port p).deleted = true ∧ Silent p start br

section Muted

variable {p : PortRef} {start br br' : Bridge}

theorem Muted.frame {o : Owned} [o.Within machinesOwned] (hi : Muted p start br)
    (hf : Frame o br br') (hs : Silent p br br') : Muted p start br' := by
  have hmachines : Frame machinesOwned br br' := hf.mono
  exact ⟨(hmachines.port_eq Port.deleted (fun _ => rfl) p).trans hi.1, hi.2.trans hs⟩

theorem muted_stepInv : StepInv (Muted p start) where
  assurance b q hi _ :=
    hi.frame (assuranceRun_frame q b) (Silent.of_eq ((assuranceRun_frame q b).out_eq fun _ => rfl))
  prsm b q s hi _ _ :=
    hi.frame (prsmTo_frame q s b) (Silent.of_eq ((prsmTo_frame q s b).out_eq fun _ => rfl))
  ppmsm b q s hi _ _ :=
    hi.frame (ppmsmTo_frame q s b) (Silent.of_eq ((ppmsmTo_frame q s b).out_eq fun _ => rfl))
  bdsm b q s hi _ _ :=
    hi.frame (bdsmTo_frame q s b) (Silent.of_eq ((bdsmTo_frame q s b).out_eq fun _ => rfl))
  ptsm b q s hi _ _ := hi.frame (ptsmTo_frame q s b) (ptsmTo_silent (fun _ => hi.1) s)
  pism b q t s hi _ _ _ :=
    hi.frame (pismTo_frame q t s b) (Silent.of_eq ((pismTo_frame q t s b).out_eq fun _ => rfl))
  prssm b t hi _ _ :=
    hi.frame (prssmToRoleSelection_frame t b)
      (Silent.of_eq ((prssmToRoleSelection_frame t b).out_eq fun _ => rfl))
  prtsm b q t s hi _ _ _ :=
    hi.frame (prtsmTo_frame _ q t s b)
      (Silent.of_eq ((prtsmTo_frame _ q t s b).out_eq fun _ => rfl))
  pstsm b q t s hi _ _ _ := hi.frame (pstsmTo_frame q t s b) (pstsmTo_silent (fun _ => hi.1) s)
  tcsm b q t s hi _ _ _ := hi.frame (tcsmTo_frame q t s b) (tcsmTo_silent (fun _ => hi.1) s)

/-- Both runs of a deletion are silent about the port. -/
theorem deletePort_silent {env : Env} (h : mstpInDeletePort env p br = some br') :
    Silent p br br' := by
  obtain ⟨b, hb, hrun⟩ := deletePort_cases h
  have hmark : Muted p br (markDeleted p br) := by
    refine ⟨?_, Silent.of_eq rfl⟩
    simp [markDeleted, Bridge.setPort]
  have hfirst : Muted p br b := by
    rcases hb with hb | ⟨-, rfl⟩
    · exact muted_stepInv.brRun hmark hb
    · exact hmark
  have herase : Muted p br { b with ports := b.ports.erase p } := hfirst
  exact (muted_stepInv.brRun herase hrun).2

end Muted

/-! ## The root port -/

/-- The root port of the tree, if there is one, is listed and has information. -/
def RootHeld (br : Bridge) (t : Mstid) : Prop :=
  (br.tree t).rootPortId = 0 ∨
    ∃ q ∈ br.ports, (br.ptp q t).infoIs ≠ .disabled ∧
      systemId (br.tree t).rootPortId = (br.port q).portNumber

/-- The identifiers of the per-tree ports hold the port numbers. -/
def PortIds (br : Bridge) : Prop :=
  ∀ p ∈ br.ports, ∀ t ∈ br.trees, systemId (br.ptp p t).portId = (br.port p).portNumber

/-- Root ports are held in each tree whose roles are not about to be selected. -/
structure RootsKnown (br : Bridge) : Prop where
  ids : PortIds br
  roots : ∀ t ∈ br.trees, prssmDry br t = true ∨ RootHeld br t

/-- After a pass: ports without a link have no information, and are not root ports. -/
structure RootsHeld (br : Bridge) : Prop where
  ids : PortIds br
  links : NoStaleInfo br
  roots : ∀ t ∈ br.trees, RootHeld br t

theorem RootsHeld.known {br : Bridge} (hi : RootsHeld br) : RootsKnown br :=
  ⟨hi.ids, fun t ht => Or.inr (hi.roots t ht)⟩

/-- Everything but what holds a root port. -/
def besideRootPorts : Owned where
  config b := { ports := b.ports, trees := b.trees, bridgeEnabled := b.bridgeEnabled }
  ptp x := { infoIs := x.infoIs }
  port x := { portNumber := x.portNumber }
  tree x := { rootPortId := x.rootPortId }
  out _ := true

/-- With the identifiers and the links. -/
def besideRootsHeld : Owned :=
  { besideRootPorts with
    ptp := fun x => { infoIs := x.infoIs, portId := x.portId }
    port := fun x => { portNumber := x.portNumber, portEnabled := x.portEnabled } }

/-- With what asks for a selection. -/
def besideRoots : Owned :=
  { besideRootsHeld with
    ptp := fun x => { infoIs := x.infoIs, portId := x.portId, reselect := x.reselect }
    tree := fun x => { rootPortId := x.rootPortId, prssmState := x.prssmState } }

instance : besideRootPorts.KeepsLists := ⟨fun _ => rfl, fun _ => rfl⟩

instance : besideRootPorts.KeepsEnabled := ⟨fun _ => rfl⟩

instance : besideRootsHeld.KeepsLists := ⟨fun _ => rfl, fun _ => rfl⟩

instance : besideRootsHeld.KeepsEnabled := ⟨fun _ => rfl⟩

instance : besideRoots.KeepsEnabled := ⟨fun _ => rfl⟩

instance : besideRoots.KeepsLists := ⟨fun _ => rfl, fun _ => rfl⟩

instance : assuranceOwned.Within besideRoots :=
  ⟨fun _ => rfl, fun _ => rfl, fun _ => rfl, fun _ => rfl, fun _ _ => rfl⟩

instance : prsmOwned.Within besideRoots :=
  ⟨fun _ => rfl, fun _ => rfl, fun _ => rfl, fun _ => rfl, fun _ _ => rfl⟩

instance : ppmsmOwned.Within besideRoots :=
  ⟨fun _ => rfl, fun _ => rfl, fun _ => rfl, fun _ => rfl, fun _ _ => rfl⟩

instance : bdsmOwned.Within besideRoots :=
  ⟨fun _ => rfl, fun _ => rfl, fun _ => rfl, fun _ => rfl, fun _ _ => rfl⟩

instance : discardOwned.Within besideRoots :=
  ⟨fun _ => rfl, fun _ => rfl, fun _ => rfl, fun _ => rfl, fun _ _ => rfl⟩

instance : ptsmOwned.Within besideRoots :=
  ⟨fun _ => rfl, fun _ => rfl, fun _ => rfl, fun _ => rfl, fun _ _ => rfl⟩

instance : prtsmOwned.Within besideRoots :=
  ⟨fun _ => rfl, fun _ => rfl, fun _ => rfl, fun _ => rfl, fun _ _ => rfl⟩

instance : pstsmOwned.Within besideRoots :=
  ⟨fun _ => rfl, fun _ => rfl, fun _ => rfl, fun _ => rfl, fun _ _ => rfl⟩

instance : tcsmOwned.Within besideRoots :=
  ⟨fun _ => rfl, fun _ => rfl, fun _ => rfl, fun _ => rfl, fun _ _ => rfl⟩

instance : besideRoots.Within besideRootsHeld :=
  ⟨fun _ => rfl, fun _ => rfl, fun _ => rfl, fun _ => rfl, fun _ _ => rfl⟩

instance : prtsmOwned.Within besideRootsHeld :=
  ⟨fun _ => rfl, fun _ => rfl, fun _ => rfl, fun _ => rfl, fun _ _ => rfl⟩

instance : pstsmOwned.Within besideRootsHeld :=
  ⟨fun _ => rfl, fun _ => rfl, fun _ => rfl, fun _ => rfl, fun _ _ => rfl⟩

instance : tcsmOwned.Within besideRootsHeld :=
  ⟨fun _ => rfl, fun _ => rfl, fun _ => rfl, fun _ => rfl, fun _ _ => rfl⟩

instance : tickOwned.Within besideRootsHeld :=
  ⟨fun _ => rfl, fun _ => rfl, fun _ => rfl, fun _ => rfl, fun _ _ => rfl⟩

instance : rxOwned.Within besideRootsHeld :=
  ⟨fun _ => rfl, fun _ => rfl, fun _ => rfl, fun _ => rfl, fun _ _ => rfl⟩

instance : refusedOwned.Within besideRootsHeld :=
  ⟨fun _ => rfl, fun _ => rfl, fun _ => rfl, fun _ => rfl, fun _ _ => rfl⟩

instance : besideRootsHeld.Within besideRootPorts :=
  ⟨fun _ => rfl, fun _ => rfl, fun _ => rfl, fun _ => rfl, fun _ _ => rfl⟩

instance : besideRoots.Within besideRootPorts :=
  ⟨fun _ => rfl, fun _ => rfl, fun _ => rfl, fun _ => rfl, fun _ _ => rfl⟩

instance : managementOwned.Within besideRootPorts :=
  ⟨fun _ => rfl, fun _ => rfl, fun _ => rfl, fun _ => rfl, fun _ _ => rfl⟩

instance : linkOwned.Within besideRootPorts :=
  ⟨fun _ => rfl, fun _ => rfl, fun _ => rfl, fun _ => rfl, fun _ _ => rfl⟩

section Roots

variable {br br' : Bridge} {p : PortRef} {t : Mstid}

/-- What a root port depends on. -/
theorem RootHeld.congr (hi : RootHeld br t)
    (hroot : (br'.tree t).rootPortId = (br.tree t).rootPortId)
    (hport : ∀ q ∈ br.ports, (br.ptp q t).infoIs ≠ .disabled → q ∈ br'.ports ∧
      (br'.ptp q t).infoIs ≠ .disabled ∧ (br'.port q).portNumber = (br.port q).portNumber) :
    RootHeld br' t := by
  rcases hi with hzero | ⟨q, hq, hinfo, hid⟩
  · exact Or.inl (hroot.trans hzero)
  · obtain ⟨hq', hinfo', hnumber⟩ := hport q hq hinfo
    refine Or.inr ⟨q, hq', hinfo', ?_⟩
    rw [hroot, hnumber]
    exact hid

theorem RootHeld.frame (hi : RootHeld br t) (h : Frame besideRootPorts br br') :
    RootHeld br' t := by
  have hports : br'.ports = br.ports := h.ports_eq
  refine hi.congr (h.tree_eq Tree.rootPortId (fun _ => rfl) t) fun q hq hinfo => ⟨?_, ?_, ?_⟩
  · exact hports ▸ hq
  · rw [h.ptp_eq PerTreePort.infoIs (fun _ => rfl) q t]
    exact hinfo
  · exact h.port_eq Port.portNumber (fun _ => rfl) q

theorem PortIds.congr (hi : PortIds br) (hports : br'.ports = br.ports)
    (htrees : br'.trees = br.trees) (hptp : ∀ q s, (br'.ptp q s).portId = (br.ptp q s).portId)
    (hport : ∀ q, (br'.port q).portNumber = (br.port q).portNumber) : PortIds br' := by
  intro p hp t ht
  rw [hptp, hport]
  exact hi p (hports ▸ hp) t (htrees ▸ ht)

theorem PortIds.frame (hi : PortIds br) (h : Frame besideRootsHeld br br') : PortIds br' :=
  hi.congr h.ports_eq h.trees_eq (h.ptp_eq PerTreePort.portId fun _ => rfl)
    (h.port_eq Port.portNumber fun _ => rfl)

/-- What the machines leave was there before. -/
theorem PortIds.of_machines (hi : PortIds br') (h : Frame machinesOwned br br') : PortIds br :=
  hi.congr h.ports_eq.symm h.trees_eq.symm
    (fun q s => (h.ptp_eq PerTreePort.portId (fun _ => rfl) q s).symm)
    (fun q => (h.port_eq Port.portNumber (fun _ => rfl) q).symm)

theorem prssmDry_frame (h : Frame besideRoots br br') : prssmDry br' t = prssmDry br t := by
  have hports : br'.ports = br.ports := h.ports_eq
  have hre : ∀ q, (br'.ptp q t).reselect = (br.ptp q t).reselect := fun q =>
    h.ptp_eq PerTreePort.reselect (fun _ => rfl) q t
  rw [prssmDry, prssmDry, h.tree_eq Tree.prssmState (fun _ => rfl) t, hports]
  simp only [hre]

theorem prssmDry_of_reselect (hp : p ∈ br.ports) (h : (br.ptp p t).reselect = true) :
    prssmDry br t = true := by
  rw [prssmDry]
  split
  · rfl
  · exact List.any_eq_true.mpr ⟨p, hp, h⟩

/-- A selection that is due stays due where no request is taken back. -/
theorem prssmDry_mono (hports : br'.ports = br.ports)
    (hstate : (br'.tree t).prssmState = (br.tree t).prssmState)
    (hre : ∀ q ∈ br.ports, (br.ptp q t).reselect = true → (br'.ptp q t).reselect = true)
    (h : prssmDry br t = true) : prssmDry br' t = true := by
  rw [prssmDry] at h
  split at h
  · rename_i hinit
    rw [prssmDry, hstate, hinit]
  · obtain ⟨q, hq, hasked⟩ := List.any_eq_true.mp h
    exact prssmDry_of_reselect (hports.symm ▸ hq) (hre q hq hasked)

theorem RootsKnown.frame (hi : RootsKnown br) (h : Frame besideRoots br br') : RootsKnown br' := by
  have htrees : br'.trees = br.trees := h.trees_eq
  refine ⟨hi.ids.frame h.mono, fun t ht => ?_⟩
  rw [prssmDry_frame h]
  exact (hi.roots t (htrees ▸ ht)).imp_right fun hheld => hheld.frame h.mono

theorem RootsHeld.frame (hi : RootsHeld br) (h : Frame besideRootsHeld br br') :
    RootsHeld br' where
  ids := hi.ids.frame h
  links p hp t ht hdown := by
    have hports : br'.ports = br.ports := h.ports_eq
    have htrees : br'.trees = br.trees := h.trees_eq
    rw [h.ptp_eq PerTreePort.infoIs (fun _ => rfl) p t]
    rw [h.port_eq Port.portEnabled (fun _ => rfl) p] at hdown
    exact hi.links p (hports ▸ hp) t (htrees ▸ ht) hdown
  roots t ht := by
    have htrees : br'.trees = br.trees := h.trees_eq
    exact (hi.roots t (htrees ▸ ht)).frame h.mono

/-! ### Port information -/

/-- Information is given up only where roles are to be selected again. -/
theorem RootsKnown.pismTo (hi : RootsKnown br) (hp : p ∈ br.ports) (s : PismState) :
    RootsKnown (pismTo p t s br) := by
  have hframe := pismTo_frame p t s br
  have hports : (Mstpd.pismTo p t s br).ports = br.ports := hframe.ports_eq
  have hother : ∀ q u, ¬ (q = p ∧ u = t) →
      ((Mstpd.pismTo p t s br).ptp q u).infoIs = (br.ptp q u).infoIs ∧
        ((Mstpd.pismTo p t s br).ptp q u).reselect = (br.ptp q u).reselect := fun q u h =>
    ⟨(pismTo_local p t s br).eq PerTreePort.infoIs (fun _ => rfl) h,
      (pismTo_local p t s br).eq PerTreePort.reselect (fun _ => rfl) h⟩
  have hroot : ∀ u, ((Mstpd.pismTo p t s br).tree u).rootPortId = (br.tree u).rootPortId :=
    hframe.tree_eq Tree.rootPortId fun _ => rfl
  have hstate : ∀ u, ((Mstpd.pismTo p t s br).tree u).prssmState = (br.tree u).prssmState :=
    hframe.tree_eq Tree.prssmState fun _ => rfl
  obtain ⟨-, -, hpair⟩ := pismTo_handover p t s br
  have hids : PortIds (Mstpd.pismTo p t s br) :=
    hi.ids.congr hports hframe.trees_eq (hframe.ptp_eq PerTreePort.portId fun _ => rfl)
      (hframe.port_eq Port.portNumber fun _ => rfl)
  refine ⟨hids, fun u hu => ?_⟩
  rw [hframe.trees_eq] at hu
  have hasked : ((Mstpd.pismTo p t s br).ptp p t).reselect = true → u = t →
      prssmDry (Mstpd.pismTo p t s br) u = true := by
    rintro hre rfl
    exact prssmDry_of_reselect (hports ▸ hp) hre
  rcases hi.roots u hu with hdry | hheld
  · refine Or.inl (prssmDry_mono hports (hstate u) (fun q hq hre => ?_) hdry)
    by_cases h : q = p ∧ u = t
    · obtain ⟨rfl, rfl⟩ := h
      exact hpair.elim id fun hsame => hsame.2.1.trans hre
    · exact (hother q u h).2.trans hre
  · by_cases hre : ((Mstpd.pismTo p t s br).ptp p t).reselect = true ∧ u = t
    · exact Or.inl (hasked hre.1 hre.2)
    · refine Or.inr (hheld.congr (hroot u) fun q hq hinfo => ?_)
      refine ⟨hports ▸ hq, ?_, hframe.port_eq Port.portNumber (fun _ => rfl) q⟩
      by_cases h : q = p ∧ u = t
      · obtain ⟨rfl, rfl⟩ := h
        rcases hpair with hre' | ⟨-, -, hsame | hmine⟩
        · exact absurd ⟨hre', rfl⟩ hre
        · exact hsame ▸ hinfo
        · rw [hmine]
          exact InfoOrigin.noConfusion
      · exact (hother q u h).1 ▸ hinfo

/-! ### Role selection -/

theorem roleSelection_tree_other {s : Mstid} (h : s ≠ t) (br : Bridge) :
    (prssmToRoleSelection t br).tree s = br.tree s := by
  have hroles : ∀ b : Bridge, (updtRolesTree t b).tree s = b.tree s := by
    intro b
    simp only [updtRolesTree, updtSelectedRoles]
    split <;> simp [syncMaster, updtDesignated, setTreePtps, setTree, h]
  have hbegin := hroles (clearReselectTree t <|
    br.setTree t fun tree => { tree with prssmState := .roleSelection })
  rw [prssmToRoleSelection, setSelectedTree]
  refine hbegin.trans ?_
  simp [clearReselectTree, setTreePtps, setTree, h]

/-- A root port is chosen among the ports with information. -/
theorem roleSelection_held (hids : PortIds br) (ht : t ∈ br.trees) :
    RootHeld (prssmToRoleSelection t br) t := by
  have hframe := prssmToRoleSelection_frame t br
  have hroot : ((prssmToRoleSelection t br).tree t).rootPortId = (rootVectorOf br t).2 := by
    rw [roleSelection_tree_self]
  rcases @rootVectorOf_candidate br t with hown | ⟨q, helig, hpath⟩
  · exact Or.inl (hroot.trans (congrArg Prod.snd hown))
  · have hid : (rootVectorOf br t).2 = (br.ptp q t).portId := congrArg Prod.snd hpath
    refine Or.inr ⟨q, hframe.ports_eq ▸ helig.1, ?_, ?_⟩
    · rw [hframe.ptp_eq PerTreePort.infoIs (fun _ => rfl) q t, helig.2.1]
      exact InfoOrigin.noConfusion
    · rw [hframe.port_eq Port.portNumber (fun _ => rfl) q, hroot, hid]
      exact hids q helig.1 t ht

/-- A root port that is held in another tree. -/
theorem RootHeld.roleSelection {s : Mstid} (hi : RootHeld br s) (h : s ≠ t) :
    RootHeld (prssmToRoleSelection t br) s := by
  have hframe := prssmToRoleSelection_frame t br
  have hports : (prssmToRoleSelection t br).ports = br.ports := hframe.ports_eq
  have hroot := congrArg Tree.rootPortId (roleSelection_tree_other h br)
  refine hi.congr hroot fun q hq hinfo => ⟨hports ▸ hq, ?_, ?_⟩
  · rw [hframe.ptp_eq PerTreePort.infoIs (fun _ => rfl) q s]
    exact hinfo
  · exact hframe.port_eq Port.portNumber (fun _ => rfl) q

/-- Role selection keeps the root ports of the other trees known. -/
theorem roleSelection_known_other {s : Mstid} (h : s ≠ t)
    (hi : prssmDry br s = true ∨ RootHeld br s) :
    prssmDry (prssmToRoleSelection t br) s = true ∨ RootHeld (prssmToRoleSelection t br) s := by
  have hports : (prssmToRoleSelection t br).ports = br.ports :=
    (prssmToRoleSelection_frame t br).ports_eq
  refine hi.imp (fun hdry => ?_) fun hheld => hheld.roleSelection h
  exact prssmDry_mono hports (congrArg Tree.prssmState (roleSelection_tree_other h br))
    (fun q _ => (roleSelection_other t br q h).2) hdry

theorem PortIds.roleSelection (hi : PortIds br) : PortIds (prssmToRoleSelection t br) := by
  have hframe := prssmToRoleSelection_frame t br
  exact hi.congr hframe.ports_eq hframe.trees_eq (hframe.ptp_eq PerTreePort.portId fun _ => rfl)
    (hframe.port_eq Port.portNumber fun _ => rfl)

/-- The turn of a tree chooses its root port where that is due. -/
theorem RootsKnown.prssmRun (hi : RootsKnown br) (ht : t ∈ br.trees) :
    RootsKnown (prssmRun t br) ∧ RootHeld (prssmRun t br) t := by
  rw [Mstpd.prssmRun]
  split
  · have htrees : (prssmToRoleSelection t br).trees = br.trees :=
      (prssmToRoleSelection_frame t br).trees_eq
    refine ⟨⟨hi.ids.roleSelection, fun s hs => ?_⟩, roleSelection_held hi.ids ht⟩
    by_cases h : s = t
    · rw [h]
      exact Or.inr (roleSelection_held hi.ids ht)
    · exact roleSelection_known_other h (hi.roots s (htrees ▸ hs))
  · rename_i hdry
    exact ⟨hi, (hi.roots t ht).resolve_left hdry⟩

theorem RootHeld.prssmRun {s : Mstid} (hi : RootHeld br s) (hknown : RootsKnown br)
    (ht : t ∈ br.trees) : RootHeld (prssmRun t br) s := by
  by_cases h : s = t
  · rw [h]
    exact (hknown.prssmRun ht).2
  · rw [Mstpd.prssmRun]
    split
    · exact hi.roleSelection h
    · exact hi

theorem RootHeld.prssmRuns {s : Mstid} {trees : List Mstid} (hi : RootHeld br s)
    (hknown : RootsKnown br) (htrees : ∀ t ∈ trees, t ∈ br.trees) :
    RootHeld (forAll Mstpd.prssmRun trees br) s := by
  have hboth : RootHeld (forAll Mstpd.prssmRun trees br) s ∧
      RootsKnown (forAll Mstpd.prssmRun trees br) ∧
      (forAll Mstpd.prssmRun trees br).trees = br.trees := by
    refine forAll_inv (I := fun b => RootHeld b s ∧ RootsKnown b ∧ b.trees = br.trees)
      (fun t ht b ⟨hheld, hb, heq⟩ => ?_) ⟨hi, hknown, rfl⟩
    have hlisted : t ∈ b.trees := heq ▸ htrees t ht
    exact ⟨hheld.prssmRun hb hlisted, (hb.prssmRun hlisted).1,
      (prssmRun_frame t b).trees_eq.trans heq⟩
  exact hboth.1

/-- The turns of all trees. -/
theorem RootsKnown.prssmRuns {trees : List Mstid} (hi : RootsKnown br)
    (htrees : ∀ t ∈ trees, t ∈ br.trees) :
    ∀ t ∈ trees, RootHeld (forAll Mstpd.prssmRun trees br) t := by
  induction trees generalizing br with
  | nil => exact fun t ht => absurd ht List.not_mem_nil
  | cons u trees ih =>
    obtain ⟨hknown, hheld⟩ := hi.prssmRun (htrees u List.mem_cons_self)
    have hrest : ∀ t ∈ trees, t ∈ (Mstpd.prssmRun u br).trees := fun t ht =>
      (prssmRun_frame u br).trees_eq ▸ htrees t (List.mem_cons_of_mem u ht)
    intro t ht
    rcases List.mem_cons.mp ht with rfl | hmem
    · exact hheld.prssmRuns hknown hrest
    · exact ih hknown hrest t hmem

theorem PortIds.prssmRuns {trees : List Mstid} (hi : PortIds br) :
    PortIds (forAll Mstpd.prssmRun trees br) := by
  refine forAll_inv (I := PortIds) (fun t _ b hb => ?_) hi
  rw [Mstpd.prssmRun]
  split
  · exact hb.roleSelection
  · exact hb

end Roots

/-! ### Passes and runs -/

section Runs

variable {br br' : Bridge} {fuel : Nat}

theorem prssmRuns_noStaleInfo {trees : List Mstid} (hi : NoStaleInfo br) :
    NoStaleInfo (forAll prssmRun trees br) := by
  refine forAll_inv (I := NoStaleInfo) (fun t _ b hb => ?_) hi
  rw [prssmRun]
  split
  · exact hb.roleSelection t
  · exact hb

/-- A pass chooses the root ports anew where that is due. -/
theorem RootsKnown.pass (hi : RootsKnown br) (h : brStateMachinesPass fuel br = some br') :
    RootsHeld br' := by
  obtain ⟨b₁, b₂, b₃, b₄, b₅, b₆, b₇, b₈, b₉, h₁, h₂, h₃, h₄, h₅, h₆, h₇, h₈, h₉, h₁₀⟩ :=
    pass_cases h
  have i₁ : OnLists br.ports br.trees RootsKnown b₁ :=
    assuranceStage_inv (fun p _ b hb =>
      hb.frame (assuranceRun_frame p b) (hb.1.frame (assuranceRun_frame p b).mono))
      ⟨hi, rfl, rfl⟩ h₁
  have i₂ : OnLists br.ports br.trees RootsKnown b₂ :=
    prsmStage_inv (fun p _ b s hb _ =>
      hb.frame (prsmTo_frame p s b) (hb.1.frame (prsmTo_frame p s b).mono)) i₁ h₂
  have i₃ : OnLists br.ports br.trees RootsKnown b₃ :=
    ppmsmStage_inv (fun p _ b s hb _ =>
      hb.frame (ppmsmTo_frame p s b) (hb.1.frame (ppmsmTo_frame p s b).mono)) i₂ h₃
  have i₄ : OnLists br.ports br.trees RootsKnown b₄ :=
    bdsmStage_inv (fun p _ b s hb _ =>
      hb.frame (bdsmTo_frame p s b) (hb.1.frame (bdsmTo_frame p s b).mono)) i₃ h₄
  have i₅ : OnLists br.ports br.trees RootsKnown b₅ :=
    ptsmStage_inv (fun p _ b s hb _ =>
      hb.frame (ptsmTo_frame p s b) (hb.1.frame (ptsmTo_frame p s b).mono)) i₄ h₅
  have i₆ : OnLists br.ports br.trees RootsKnown b₆ :=
    pismStage_inv (fun o ho b s hb _ => hb.frame (pismTo_frame o.1 o.2 s b)
      (hb.1.pismTo (hb.2.1 ▸ (mem_ptpRefs.mp ho).1) s)) i₅ h₆
  have n₆ : NoStaleInfo b₆ := by
    intro q hq s hs
    have href : (q, s) ∈ br.ptpRefs := mem_ptpRefs.mpr ⟨i₆.2.1 ▸ hq, i₆.2.2 ▸ hs⟩
    exact pismStage_noStaleInfo h₆ (q, s) href
  have i₇ : RootsHeld b₇ := by
    rw [prssmStage_eq] at h₇
    obtain rfl := Option.some.inj h₇
    have htrees : (forAll Mstpd.prssmRun br.trees b₆).trees = b₆.trees :=
      (Frame.forAll prssmRun_frame br.trees b₆).trees_eq
    refine ⟨i₆.1.ids.prssmRuns, prssmRuns_noStaleInfo n₆, fun t ht => ?_⟩
    have ht' : t ∈ br.trees := i₆.2.2 ▸ htrees ▸ ht
    exact i₆.1.prssmRuns (fun u hu => i₆.2.2.symm ▸ hu) t ht'
  have i₈ : RootsHeld b₈ :=
    prtsmStage_inv (fun o _ b s hb _ => hb.frame (prtsmTo_frame _ o.1 o.2 s b).mono) i₇ h₈
  have i₉ : RootsHeld b₉ :=
    pstsmStage_inv (fun o _ b s hb _ => hb.frame (pstsmTo_frame o.1 o.2 s b).mono) i₈ h₉
  exact tcsmStage_inv (fun o _ b s hb _ => hb.frame (tcsmTo_frame o.1 o.2 s b).mono) i₉ h₁₀

/-- A state in which nothing is pending has chosen its root ports. -/
theorem RootsKnown.quiet (hi : RootsKnown br) (hdry : brStateMachinesDry br = false) :
    RootsHeld br := by
  have hquiet := quiet_of_dry hdry
  refine ⟨hi.ids, fun p hp t ht => pismNext_none_disabled (hquiet.pism p hp t ht), fun t ht => ?_⟩
  refine (hi.roots t ht).resolve_left fun hpending => ?_
  rw [hquiet.prssm t ht] at hpending
  cases hpending

theorem RootsKnown.run {late : Nat → Bool} (hi : RootsKnown br) (hen : br.bridgeEnabled = true)
    (h : brStateMachinesRun late fuel br = some br') : RootsHeld br' := by
  rw [brStateMachinesRun, if_pos hen] at h
  refine loop_ends (I := RootsKnown) (fun b hb hdry => hb.quiet hdry) (fun b b' hb hpass => ?_) hi h
  have hheld := hb.pass hpass
  exact ⟨hheld.known, hheld⟩

end Runs

/-! ### BEGIN -/

section Begin

variable {br br' : Bridge} {p : PortRef} {t : Mstid} {refs : List (PortRef × Mstid)}

theorem ptpMachinesBegin_roots (refs : List (PortRef × Mstid)) (br : Bridge) :
    Frame besideRoots br (ptpMachinesBegin refs br) := by
  rw [ptpMachinesBegin]
  refine Frame.after (Frame.forAll (fun o b => tcsmToInactive_frame o.1 o.2 b) refs _).mono ?_
  refine Frame.after (Frame.forAll (fun o b => pstsmTo_frame o.1 o.2 _ b) refs _).mono ?_
  have hinit := Frame.forAll
    (fun (o : PortRef × Mstid) b => prtsmToInitPort_frame o.1 o.2 b) refs br
  exact hinit.mono

theorem portMachinesBegin_roots (ports : List PortRef) (br : Bridge) :
    Frame besideRoots br (portMachinesBegin ports br) := by
  rw [portMachinesBegin]
  refine Frame.after (Frame.forAll ptsmToTransmitInit_frame ports _).mono ?_
  refine Frame.after (Frame.forAll (fun p b => bdsmTo_frame p _ b) ports _).mono ?_
  refine Frame.after (Frame.forAll ppmsmToCheckingRstp_frame ports _).mono ?_
  have hdiscard := Frame.forAll prsmToDiscard_frame ports br
  exact hdiscard.mono

theorem pismBegins_information (refs : List (PortRef × Mstid)) (br : Bridge) :
    Frame beginInformationOwned br (forAll (fun o => pismBegin o.1 o.2) refs br) :=
  Frame.forAll (fun (o : PortRef × Mstid) b => pismBegin_information o.1 o.2 b) refs br

theorem PortIds.pismBegins (hi : PortIds br) :
    PortIds (forAll (fun o => pismBegin o.1 o.2) refs br) := by
  have hframe := pismBegins_information refs br
  exact hi.congr hframe.ports_eq hframe.trees_eq (hframe.ptp_eq PerTreePort.portId fun _ => rfl)
    (hframe.port_eq Port.portNumber fun _ => rfl)

/-- Port information that begins elsewhere. -/
theorem RootHeld.pismBegins (hi : RootHeld br t) (hrefs : ∀ q ∈ br.ports,
    (br.ptp q t).infoIs ≠ .disabled → (q, t) ∉ refs) :
    RootHeld (forAll (fun o => pismBegin o.1 o.2) refs br) t := by
  have hframe := pismBegins_information refs br
  have hports : (forAll (fun o => pismBegin o.1 o.2) refs br).ports = br.ports := hframe.ports_eq
  refine hi.congr (hframe.tree_eq Tree.rootPortId (fun _ => rfl) t) fun q hq hinfo => ?_
  refine ⟨hports ▸ hq, ?_, hframe.port_eq Port.portNumber (fun _ => rfl) q⟩
  rw [pismBegins_other (hrefs q hq hinfo)]
  exact hinfo

theorem initTree_tree (s t : Mstid) (br : Bridge) :
    (prssmToInitTree s br).tree t =
      if t = s then { br.tree t with prssmState := .initTree } else br.tree t := by
  simp only [prssmToInitTree, updtRolesDisabledTree, setTreePtps, setTree]

theorem initTrees_state {trees : List Mstid} (ht : t ∈ trees) (br : Bridge) :
    ((forAll prssmToInitTree trees br).tree t).prssmState = .initTree := by
  refine forAll_reaches (I := fun b => (b.tree t).prssmState = .initTree) ht (fun b => ?_)
    (fun s b hb => ?_) br
  · rw [initTree_tree, if_pos rfl]
  · rw [initTree_tree]
    split
    · rfl
    · exact hb

theorem prssmDry_of_init (h : (br.tree t).prssmState = .initTree) : prssmDry br t = true := by
  rw [prssmDry, h]

/-- When the bridge begins, each tree awaits its selection. -/
theorem bridgeBegin_known (hen : br.bridgeEnabled = true) (hids : PortIds (bridgeBegin br)) :
    RootsKnown (bridgeBegin br) := by
  refine ⟨hids, fun t ht => Or.inl (prssmDry_of_init ?_)⟩
  have hlisted : t ∈ br.trees := (bridgeBegin_machines br).trees_eq ▸ ht
  rw [bridgeBegin, if_pos hen]
  refine ((ptpMachinesBegin_roots _ _).tree_eq Tree.prssmState (fun _ => rfl) t).trans ?_
  exact initTrees_state hlisted _

/-- When a tree begins it awaits its selection. The others are as they were. -/
theorem treeBegin_known (hen : br.bridgeEnabled = true) (hids : PortIds (treeBegin t br))
    (hi : ∀ s ∈ br.trees, s ≠ t → RootHeld br s) (ht : t ∈ br.trees) :
    RootsKnown (treeBegin t br) := by
  refine ⟨hids, fun s hs => ?_⟩
  have hlisted : s ∈ br.trees := (treeBegin_machines ht).trees_eq ▸ hs
  rw [treeBegin, if_pos hen]
  have hframe := ptpMachinesBegin_roots (br.ports.map fun p => (p, t)) (prssmToInitTree t
    (forAll (fun o => pismBegin o.1 o.2) (br.ports.map fun p => (p, t)) br))
  by_cases h : s = t
  · refine Or.inl (prssmDry_of_init ((hframe.tree_eq Tree.prssmState (fun _ => rfl) s).trans ?_))
    rw [initTree_tree, if_pos h]
  · have hbegun : RootHeld
        (forAll (fun o => pismBegin o.1 o.2) (br.ports.map fun p => (p, t)) br) s := by
      refine (hi s hlisted h).pismBegins fun q _ _ hmem => ?_
      obtain ⟨_, _, heq⟩ := List.mem_map.mp hmem
      exact h (congrArg Prod.snd heq).symm
    refine Or.inr (RootHeld.frame ?_ hframe.mono)
    refine hbegun.congr (congrArg Tree.rootPortId ?_) fun q hq hinfo => ⟨hq, ?_, rfl⟩
    · rw [initTree_tree, if_neg h]
    · rcases initTree_ptp q s t (forAll (fun o => pismBegin o.1 o.2)
        (br.ports.map fun p => (p, t)) br) with hsame | ⟨heq, -, -⟩
      · rw [hsame]
        exact hinfo
      · exact absurd heq h

/-- A root port that was held before a port was created. -/
theorem RootHeld.createPort {portno : UInt16} {name : String} {speed duplex : Int}
    (hi : RootHeld br t) (hnew : p ∉ br.ports) :
    RootHeld (portBeginSelect p (addPort p portno name speed duplex br)) t := by
  have hports := portMachinesBegin_roots [p] (addPort p portno name speed duplex br)
  have hbegins := pismBegins_information ((addPort p portno name speed duplex br).trees.map
    fun s => (p, s)) (portMachinesBegin [p] (addPort p portno name speed duplex br))
  have hroot := (hbegins.tree_eq Tree.rootPortId (fun _ => rfl) t).trans
    (hports.tree_eq Tree.rootPortId (fun _ => rfl) t)
  refine hi.congr hroot fun q hq hinfo => ?_
  have hne : q ≠ p := fun h => hnew (h ▸ hq)
  have hother : (q, t) ∉ (addPort p portno name speed duplex br).trees.map fun s => (p, s) := by
    intro hmem
    obtain ⟨_, _, heq⟩ := List.mem_map.mp hmem
    exact hne (congrArg Prod.fst heq).symm
  have hadd : (addPort p portno name speed duplex br).ptp q t = br.ptp q t ∧
      (addPort p portno name speed duplex br).port q = br.port q := by
    simp [addPort, setPortPtps, setPort, hne]
  rw [portBeginSelect]
  refine ⟨?_, ?_, ?_⟩
  · rw [hbegins.ports_eq, hports.ports_eq]
    exact List.mem_append_left _ hq
  · rw [pismBegins_other hother, hports.ptp_eq PerTreePort.infoIs (fun _ => rfl) q t, hadd.1]
    exact hinfo
  · rw [hbegins.port_eq Port.portNumber (fun _ => rfl) q,
      hports.port_eq Port.portNumber (fun _ => rfl) q, hadd.2]

/-- When a port begins, roles are selected in the trees where that is due. -/
theorem portBegin_known (hen : br.bridgeEnabled = true) (hids : PortIds br)
    (hi : ∀ s ∈ br.trees, RootHeld (portBeginSelect p br) s) : RootsKnown (portBegin p br) := by
  have hselect : PortIds (portBeginSelect p br) :=
    (hids.frame (portMachinesBegin_roots [p] br).mono).pismBegins
  have htrees : (portBeginSelect p br).trees = br.trees :=
    (pismBegins_information _ _).trees_eq.trans (portMachinesBegin_roots [p] br).trees_eq
  have hknown : RootsKnown (portBeginSelect p br) :=
    ⟨hselect, fun s hs => Or.inr (hi s (htrees ▸ hs))⟩
  have hruns : (forAll prssmRun br.trees (portBeginSelect p br)).trees = br.trees :=
    (Frame.forAll prssmRun_frame br.trees _).trees_eq.trans htrees
  have hheld := hknown.prssmRuns fun s hs => htrees.symm ▸ hs
  rw [portBegin, if_pos hen]
  refine RootsKnown.frame ⟨hselect.prssmRuns, fun s hs => Or.inr ?_⟩ (ptpMachinesBegin_roots _ _)
  exact hheld s (hruns ▸ hs)

end Begin

/-! ### Operations -/

/-- The invariant of operations. -/
def RootsBetween (br : Bridge) : Prop := br.bridgeEnabled = true → RootsHeld br

section Operations

variable {br b br' : Bridge} {late : Nat → Bool} {fuel : Nat} {env : Env} {p : PortRef}

theorem RootsKnown.between (hi : b.bridgeEnabled = true → RootsKnown b)
    (h : brStateMachinesRun late fuel b = some br') : RootsBetween br' := by
  by_cases hen : b.bridgeEnabled = true
  · exact fun _ => (hi hen).run hen h
  · rw [brStateMachinesRun, if_neg hen] at h
    exact Option.some.inj h ▸ fun h => absurd h hen

theorem RootsBetween.rerun (hi : RootsBetween b) (h : brStateMachinesRun late fuel b = some br') :
    RootsBetween br' := RootsKnown.between (fun hen => (hi hen).known) h

theorem RootsBetween.frame (hi : RootsBetween br) (h : Frame besideRootsHeld br b) :
    RootsBetween b := fun hen => (hi (h.enabled_eq ▸ hen)).frame h

theorem brBegin_roots (hids : PortIds br') (h : brStateMachinesBegin late fuel b = some br') :
    RootsBetween br' := by
  rw [brBegin_eq] at h
  refine RootsKnown.between (fun hen => ?_) h
  rw [(bridgeBegin_machines b).enabled_eq] at hen
  exact bridgeBegin_known hen (hids.of_machines (brRun_machines h))

/-- Management changes neither links nor root ports. -/
theorem RootsBetween.management (hi : RootsBetween br) (h : OpFrame br b) (hids : PortIds b) :
    RootsBetween b := by
  intro hen
  have hports : b.ports = br.ports := h.frame.ports_eq
  have htrees : b.trees = br.trees := h.frame.trees_eq
  have hheld := hi (h.frame.enabled_eq ▸ hen)
  refine ⟨hids, fun q hq s hs => ?_, fun t ht => ?_⟩
  · rw [h.frame.port_eq Port.portEnabled (fun _ => rfl) q,
      h.frame.ptp_eq PerTreePort.infoIs (fun _ => rfl) q s]
    exact hheld.links q (hports ▸ hq) s (htrees ▸ hs)
  · exact (hheld.roots t (htrees ▸ ht)).frame h.frame.mono

theorem RootsBetween.ending (hids : PortIds br') (hi : PortIds b → RootsBetween b)
    (h : Ending env b br') : RootsBetween br' := by
  cases h with
  | stay h =>
    rw [h] at hids ⊢
    exact hi hids
  | run h => exact (hi (hids.of_machines (brRun_machines h))).rerun h
  | restart h => exact brBegin_roots hids h

/-- A run after links have changed. -/
theorem RootsBetween.relink (hi : RootsBetween br) (hb : Frame besideRootPorts br b)
    (hids : PortIds b) (h : brStateMachinesRun late fuel b = some br') : RootsBetween br' := by
  refine RootsKnown.between (fun hen => ⟨hids, fun t ht => Or.inr ?_⟩) h
  have htrees : b.trees = br.trees := hb.trees_eq
  exact ((hi (hb.enabled_eq ▸ hen)).roots t (htrees ▸ ht)).frame hb

/-- A port without a link is no root port, and may leave. -/
theorem RootsHeld.removePort (hi : RootsHeld b) (hdown : (b.port p).portEnabled = false) :
    RootsHeld { b with ports := b.ports.erase p } := by
  have hmem : ∀ q ∈ b.ports.erase p, q ∈ b.ports := fun _ hq => List.mem_of_mem_erase hq
  refine ⟨fun q hq t ht => ?_, fun q hq t ht => ?_, fun t ht => ?_⟩
  · exact hi.ids q (hmem q hq) t ht
  · exact hi.links q (hmem q hq) t ht
  · refine (hi.roots t ht).congr rfl fun q hq hinfo => ⟨?_, hinfo, rfl⟩
    have hne : q ≠ p := by
      rintro rfl
      exact hinfo (hi.links q hq t ht hdown)
    exact (List.mem_erase_of_ne hne).mpr hq

theorem markDeleted_down (p : PortRef) (br : Bridge) :
    ((markDeleted p br).port p).portEnabled = false := by
  simp [markDeleted, setPort]

/-- In the state in which the port leaves the lists, it is no root port. -/
theorem RootsBetween.marked (hi : RootsBetween br) (hids : PortIds br)
    (h : brStateMachinesRun late fuel (markDeleted p br) = some b ∨
      (br.port p).portEnabled = false ∧ b = markDeleted p br) :
    RootsBetween b ∧ (b.port p).portEnabled = false := by
  have hmark : Frame besideRootPorts br (markDeleted p br) := Frame.setPort fun _ => rfl
  have hmarked : PortIds (markDeleted p br) :=
    hids.congr rfl rfl (fun _ _ => rfl) (hmark.port_eq Port.portNumber fun _ => rfl)
  rcases h with h | ⟨hdown, rfl⟩
  · refine ⟨hi.relink hmark hmarked h, ?_⟩
    rw [(brRun_machines h).port_eq Port.portEnabled (fun _ => rfl) p]
    exact markDeleted_down p br
  · refine ⟨fun hen => ⟨hmarked, fun q hq s hs hq' => ?_, fun t ht => ?_⟩, markDeleted_down p br⟩
    · refine (hi hen).links q hq s hs ?_
      simp only [markDeleted, setPort] at hq'
      split at hq'
      · rename_i hqp
        exact hqp ▸ hdown
      · exact hq'
    · exact ((hi hen).roots t ht).frame hmark

theorem RootsBetween.deletePort (hi : RootsBetween br) (hids : PortIds br)
    (h : mstpInDeletePort env p br = some br') : RootsBetween br' := by
  obtain ⟨b, hb, hrun⟩ := deletePort_cases h
  obtain ⟨hheld, hdown⟩ := hi.marked hids hb
  have herase : RootsBetween { b with ports := b.ports.erase p } := fun hen =>
    (hheld hen).removePort hdown
  exact herase.rerun hrun

theorem RootsBetween.createPort {portno : UInt16} {name : String} {speed duplex : Int}
    (hi : RootsBetween br) (hids : PortIds br') (hnew : p ∉ br.ports)
    (h : prtStateMachinesBegin late fuel p (addPort p portno name speed duplex br) = some br') :
    RootsBetween br' := by
  rw [prtBegin_eq] at h
  have hlisted : p ∈ (addPort p portno name speed duplex br).ports :=
    List.mem_append_right _ List.mem_cons_self
  have hframe := (portBegin_machines hlisted).trans (brRun_machines h)
  refine RootsKnown.between (fun hen => ?_) h
  rw [(portBegin_machines hlisted).enabled_eq] at hen
  exact portBegin_known hen (hids.of_machines hframe) fun s hs =>
    ((hi hen).roots s hs).createPort hnew

theorem RootsBetween.createMsti {mstid : UInt16} {trees : List Mstid} (hi : RootsBetween br)
    (hids : PortIds br')
    (htrees : insertAfterLast (fun s => decide (s < mstid)) mstid br.trees = some trees)
    (h : treeStateMachinesBegin late fuel mstid (addTree mstid trees br) = some br') :
    RootsBetween br' := by
  rw [treeBegin_eq] at h
  have hmem := insertAfterLast_mem htrees
  have hlisted : mstid ∈ (addTree mstid trees br).trees := (hmem mstid).mpr (Or.inl rfl)
  refine RootsKnown.between (fun hen => ?_) h
  rw [(treeBegin_machines hlisted).enabled_eq] at hen
  refine treeBegin_known hen (hids.of_machines (brRun_machines h)) (fun s hs hne => ?_) hlisted
  have hold : s ∈ br.trees := ((hmem s).mp hs).resolve_left hne
  refine ((hi hen).roots s hold).congr ?_ fun q hq hinfo => ⟨hq, ?_, rfl⟩
  · simp [addTree, setTreePtps, setTree, hne]
  · simpa [addTree, setTreePtps, setTree, hne] using hinfo

theorem RootsBetween.allFidsFlushed {t : Mstid} (hi : RootsBetween br)
    (h : mstpInAllFidsFlushed env p t br = some br') : RootsBetween br' := by
  have hflush : RootsBetween (br.setPtp p t fun ptp => { ptp with fdbFlush := false }) :=
    hi.frame (Frame.setPtp fun _ => rfl)
  rw [mstpInAllFidsFlushed] at h
  split at h
  · obtain ⟨b, hb, hrun⟩ := Option.bind_eq_some_iff.mp h
    refine RootsBetween.rerun (run_inv ?_ hflush hb) hrun
    intro c c' more hc hstep
    obtain ⟨s, -, heq⟩ := Option.map_eq_some_iff.mp hstep
    exact (Prod.mk.inj heq).1 ▸ hc.frame (tcsmTo_frame p t s c).mono
  · exact Option.some.inj h ▸ hflush

theorem RootsBetween.step {A : Allowed} (hi : RootsBetween br) (hids : PortIds br)
    (hids' : PortIds br') (h : Step A br br') : RootsBetween br' := by
  obtain ⟨env, op, ok, hv, -, hexec⟩ := h
  cases op with
  | createPort p portno name speed duplex =>
    rcases createPort_cases hexec with rfl | hbegin
    · exact hi
    · exact hi.createPort hids' hv.1 hbegin
  | deletePort p => exact hi.deletePort hids (map_true hexec)
  | setBridgeEnable up =>
    rcases setBridgeEnable_cases (map_true hexec) with rfl | ⟨-, hbegin⟩
    · exact hi
    · exact brBegin_roots hids' hbegin
  | setPortEnable p up speed duplex =>
    obtain ⟨b, hb, ⟨rfl, hsame⟩ | hend⟩ := setPortEnable_ending (map_true hexec)
    · refine fun hen => ⟨hids', fun q hq s hs => ?_, fun t ht => ?_⟩
      · have hports : br'.ports = br.ports := hb.ports_eq
        have htrees : br'.trees = br.trees := hb.trees_eq
        rw [hsame, hb.ptp_eq PerTreePort.infoIs (fun _ => rfl) q s]
        exact (hi (hb.enabled_eq ▸ hen)).links q (hports ▸ hq) s (htrees ▸ hs)
      · have htrees : br'.trees = br.trees := hb.trees_eq
        exact ((hi (hb.enabled_eq ▸ hen)).roots t (htrees ▸ ht)).frame hb.mono
    · exact hi.relink hb.mono (hids'.of_machines (brRun_machines hend)) hend
  | oneSecond =>
    obtain ⟨b, hb, ⟨rfl, -⟩ | hend⟩ := oneSecond_ending (map_true hexec)
    · exact hi.frame hb.mono
    · exact (hi.frame hb.mono).rerun hend
  | allFidsFlushed p t => exact hi.allFidsFlushed (map_true hexec)
  | rxBpdu p bpdu size =>
    rcases rxBpdu_ending (map_true hexec) with hb | ⟨b, version, mstis, hb, -, -, hend⟩
    · exact hi.frame hb.mono
    · have haccept := (hi.frame hb.mono).frame (acceptBpdu_frame p bpdu version mstis b).mono
      exact haccept.rerun hend
  | createMsti mstid =>
    rcases createMsti_cases hexec with rfl | ⟨trees, -, -, htrees, hbegin⟩
    · exact hi
    · exact hi.createMsti hids' htrees hbegin
  | deleteMsti mstid =>
    rcases deleteMsti_cases hexec with rfl | ⟨-, hend⟩
    · exact hi
    · have hmem : ∀ s ∈ br.trees.erase mstid, s ∈ br.trees := fun _ hs => List.mem_of_mem_erase hs
      have herase : RootsBetween { br with trees := br.trees.erase mstid } := fun hen =>
        ⟨fun q hq s hs => (hi hen).ids q hq s (hmem s hs),
          fun q hq s hs => (hi hen).links q hq s (hmem s hs),
          fun s hs => (hi hen).roots s (hmem s hs)⟩
      exact herase.rerun hend
  | _ =>
    obtain ⟨b, hb, hend⟩ := exec_management rfl hexec
    exact RootsBetween.ending hids' (hi.management hb) hend

theorem Reachable.rootsBetween {A : Allowed} (h : Reachable A br) : RootsBetween br := by
  have hboth : RootsBetween br ∧ Reachable A br := by
    refine h.inv (I := fun b => RootsBetween b ∧ Reachable A b) (fun env macaddr => ?_)
      fun b b' ⟨hb, hreach⟩ hstep => ?_
    · exact ⟨fun hen => Bool.noConfusion hen, env, macaddr, .refl⟩
    · have hreach' : Reachable A b' := by
        obtain ⟨env, macaddr, hrun⟩ := hreach
        exact ⟨env, macaddr, hrun.tail hstep⟩
      have hids := hreach.visitedAt.visited.configured.portIds
      exact ⟨hb.step hids hreach'.visitedAt.visited.configured.portIds hstep, hreach'⟩
  exact hboth.1

end Operations

/-! ### Port numbers -/

theorem portNumber_begin (q : PortRef) (n : UInt16) : BeginInv fun b => (b.port q).portNumber = n :=
  BeginInv.of_pism (fun _ _ hf hi => (hf.port_eq Port.portNumber (fun _ => rfl) q).trans hi)
    fun b p t hi _ _ =>
      ((pismBegin_information p t b).port_eq Port.portNumber (fun _ => rfl) q).trans hi

theorem createPort_portNumber (p q : PortRef) (portno : UInt16) (name : String)
    (speed duplex : Int) (br : Bridge) :
    (((Act.createPort p portno name speed duplex).run br).port q).portNumber =
      if q = p then portno else (br.port q).portNumber := by
  refine (portNumber_begin q _).port (fun b t hb _ _ => ?_)
    (List.mem_append_right _ List.mem_cons_self) ?_
  · exact ((prssmToRoleSelection_frame t b).port_eq Port.portNumber (fun _ => rfl) q).trans hb
  · simp only [addPort, setPortPtps, setPort]
    split <;> rfl

/-- A port keeps its number. -/
theorem Act.portNumber_eq {a : Act} {q : PortRef} (ha : a.creates q = false) {br : Bridge}
    (hg : a.Guard br) : ((a.run br).port q).portNumber = (br.port q).portNumber := by
  have hbegin := portNumber_begin q (br.port q).portNumber
  cases a with
  | createPort p portno name speed duplex =>
    rw [createPort_portNumber, if_neg fun hqp => of_decide_eq_false ha hqp.symm]
  | createMsti mstid trees =>
    exact hbegin.tree ((insertAfterLast_mem hg.2.2.2.2 mstid).mpr (Or.inl rfl)) rfl
  | switchBridge up =>
    exact hbegin.bridge ((resetBridge_frame up br).port_eq Port.portNumber (fun _ => rfl) q)
  | bridgeAddress _ | bridgeConfig _ | tables _ _ _ _ | configId _ _ =>
    exact hbegin.restart (fun b b' hf hb => (hf.port_eq Port.portNumber (fun _ => rfl) q).trans hb)
      rfl rfl
  | _ => exact (Act.frame _ br).port_eq Port.portNumber (fun _ => rfl) q

theorem Visited.portNumber_ne {C : Act → Bridge → Prop} {br : Bridge} (h : Visited C br) :
    ∀ p ∈ br.ports, (br.port p).portNumber ≠ 0 := by
  refine h.inv (I := fun b => ∀ p ∈ b.ports, (b.port p).portNumber ≠ 0)
    (fun env macaddr p hp => absurd hp List.not_mem_nil) fun a br hi hg _ p hp => ?_
  by_cases ha : a.creates p = false
  · rw [Act.portNumber_eq ha hg]
    exact hi p (Act.listed ha hg hp)
  · cases a with
    | createPort q portno name speed duplex =>
      have hqp : q = p := by simpa [Act.creates] using ha
      rw [createPort_portNumber, if_pos hqp.symm]
      rintro rfl
      exact absurd hg.2.1 (by decide)
    | _ => exact absurd rfl ha

/-! ## The deletion as a whole -/

section Deletion

variable {br br' : Bridge} {p : PortRef} {env : Env}

theorem deletePort_lists (h : mstpInDeletePort env p br = some br') :
    br'.ports = br.ports.erase p ∧ br'.trees = br.trees := by
  obtain ⟨b, hb, hrun⟩ := deletePort_cases h
  have hb' : b.ports = br.ports ∧ b.trees = br.trees := by
    rcases hb with hb | ⟨-, rfl⟩
    · have hframe := brRun_machines hb
      exact ⟨hframe.ports_eq, hframe.trees_eq⟩
    · exact ⟨rfl, rfl⟩
  have hframe := brRun_machines hrun
  rw [hframe.ports_eq, hframe.trees_eq]
  exact ⟨congrArg (List.erase · p) hb'.1, hb'.2⟩

/-- The ports that stay have the numbers that they had. -/
theorem deletePort_portNumber (q : PortRef) (h : mstpInDeletePort env p br = some br') :
    (br'.port q).portNumber = (br.port q).portNumber := by
  obtain ⟨b, hb, hrun⟩ := deletePort_cases h
  have hmark : ((markDeleted p br).port q).portNumber = (br.port q).portNumber := by
    simp only [markDeleted, setPort]
    split <;> rfl
  rw [(brRun_machines hrun).port_eq Port.portNumber (fun _ => rfl) q]
  rcases hb with hb | ⟨-, rfl⟩
  · exact ((brRun_machines hb).port_eq Port.portNumber (fun _ => rfl) q).trans hmark
  · exact hmark

/-- The root port of a tree is a port that is still there. -/
theorem deletePort_root {A : Allowed} (hr : Reachable A br) (hp : p ∈ br.ports)
    (h : mstpInDeletePort env p br = some br')
    (hnumbers : ∀ q ∈ br.ports, (br.port q).portNumber = (br.port p).portNumber → q = p)
    (hen : br'.bridgeEnabled = true) {t : Mstid} (ht : t ∈ br'.trees) :
    (br'.tree t).rootPortId ≠ (br.ptp p t).portId := by
  have hv := hr.visitedAt.visited
  have hids := hv.configured.portIds
  obtain ⟨hports, htrees⟩ := deletePort_lists h
  have hid := hids p hp t (htrees ▸ ht)
  intro hroot
  rcases (hr.rootsBetween.deletePort hids h hen).roots t ht with hzero | ⟨q, hq, -, hnumber⟩
  · rw [← hroot, hzero] at hid
    exact hv.portNumber_ne p hp hid.symm
  · rw [hroot, hid, deletePort_portNumber q h] at hnumber
    rw [hports, hv.ports_nodup.mem_erase_iff] at hq
    exact hq.1 (hnumbers q hq.2 hnumber.symm)

/-- The mesh behind the bridge after the deletion. -/
theorem deletePort_mesh {m : Mesh} (hm : Mesh.Reached m) (hrep : m.Represents br)
    (hp : p ∈ br.ports) (h : mstpInDeletePort env p br = some br') :
    (m.deletePort p).Represents br' ∧ ∀ t ∈ (m.deletePort p).trees,
      ∀ n ∈ (m.deletePort p).treePorts t, ((m.deletePort p).node n).port ≠ p := by
  obtain ⟨hports, htrees⟩ := deletePort_lists h
  have hwf := Mesh.deletePort_wellFormed hm.wellFormed (hrep.ports ▸ hp)
  have hlists : (m.deletePort p).ports = listDel p m.ports ∧
      (m.deletePort p).trees.map (m.deletePort p).mstid = br.trees := by
    rw [Mesh.deletePort, Mesh.unlinkAll_eq]
    exact ⟨rfl, hrep.trees⟩
  refine ⟨⟨?_, hlists.2.trans htrees.symm, htrees ▸ hrep.range⟩, fun t ht n hn heq => ?_⟩
  · rw [hlists.1, hports, listDel_eq_erase hm.wellFormed.ports, hrep.ports]
  · have hmem := (hwf.node_of_tree ht hn).1
    rw [hlists.1, heq] at hmem
    simp [listDel] at hmem

/-- While a port is deleted, nothing is told to the system about it, and afterwards no tree
has a per-tree port of it or has it as its root port. -/
theorem deletion_silent {A : Allowed} (hr : Reachable A br) (hp : p ∈ br.ports)
    (h : mstpInDeletePort env p br = some br') :
    Silent p br br' ∧ p ∉ br'.ports ∧
    (∃ m, Mesh.Reached m ∧ m.Represents br) ∧
    (∀ m, Mesh.Reached m → m.Represents br →
      (Mesh.deletePort p m).Represents br' ∧ ∀ t ∈ (Mesh.deletePort p m).trees,
        ∀ n ∈ (Mesh.deletePort p m).treePorts t, ((Mesh.deletePort p m).node n).port ≠ p) ∧
    ((∀ q ∈ br.ports, (br.port q).portNumber = (br.port p).portNumber → q = p) →
      br'.bridgeEnabled = true →
      ∀ t ∈ br'.trees, (br'.tree t).rootPortId ≠ (br.ptp p t).portId) := by
  have hv := hr.visitedAt.visited
  refine ⟨deletePort_silent h, ?_, hv.mesh, fun m hm hrep => deletePort_mesh hm hrep hp h, ?_⟩
  · rw [(deletePort_lists h).1]
    exact hv.ports_nodup.not_mem_erase
  · exact fun hnumbers hen t ht => deletePort_root hr hp h hnumbers hen ht

end Deletion

/-- The first port has become the root port. -/
def rootPortOps : List Op :=
  [.createPort 1 1 "sw1p1" 1000 1, .createPort 2 2 "sw1p2" 1000 1, .setBridgeEnable true,
    .setPortEnable 1 true 1000 1, .setPortEnable 2 true 1000 1, .rxBpdu 1 (agedBpdu (1, 0)) 36]

/-- When it is deleted, the other port is the only one about which calls are made. -/
theorem rootPort_deleted : ∃ br br', Reachable anyOp br ∧
    (br.tree 0).rootPortId = (br.ptp 1 0).portId ∧ mstpInDeletePort sampleEnv 1 br = some br' ∧
    Silent 1 br br' ∧ br'.out ≠ br.out ∧ (br'.tree 0).rootPortId ≠ (br.ptp 1 0).portId := by
  have hrun : ((sampleRun rootPortOps).any fun br => br.ports.contains 1 &&
      br.ports.all (fun q => decide ((br.port q).portNumber = (br.port 1).portNumber → q = 1)) &&
      decide ((br.tree 0).rootPortId = (br.ptp 1 0).portId) &&
      (mstpInDeletePort sampleEnv 1 br).any fun br' => br'.bridgeEnabled && br'.trees.contains 0 &&
        decide (br'.out.length ≠ br.out.length)) = true := by
    decide +kernel
  obtain ⟨br, hbr, hrun⟩ := (Option.any_eq_true _ _).mp hrun
  simp only [Bool.and_eq_true, List.contains_iff_mem, List.all_eq_true, decide_eq_true_eq] at hrun
  obtain ⟨⟨⟨hp, hnumbers⟩, hroot⟩, hdelete⟩ := hrun
  obtain ⟨br', hdelete, hafter⟩ := (Option.any_eq_true _ _).mp hdelete
  simp only [Bool.and_eq_true, List.contains_iff_mem, decide_eq_true_eq] at hafter
  obtain ⟨⟨hen, ht⟩, hout⟩ := hafter
  have hr : Reachable anyOp br := sampleRun_reachable (fun _ _ => trivial) hbr
  have hsilent := deletion_silent hr hp hdelete
  exact ⟨br, br', hr, hroot, hdelete, hsilent.1, fun h => hout (congrArg List.length h),
    hsilent.2.2.2.2 hnumbers hen 0 ht⟩

end Mstpd
