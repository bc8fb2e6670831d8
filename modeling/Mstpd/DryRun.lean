import Mstpd.Reselect
import Mstpd.Trace

/-!
# Dry run and actual run

The run functions are called with `dry_run` to predict whether they would change
anything. The prediction is compared with the actual run of the same machine.
-/

namespace Mstpd

open Bridge Machine

/-- The dry run predicts a change exactly when the actual run makes one. -/
def Predicts (dry : Bridge → Bool) (act : Bridge → Option Bridge) (br : Bridge) : Prop :=
  ∀ br', act br = some br' → (dry br = true ↔ br' ≠ br)

/-- After the actual run nothing is predicted any more. -/
def Exhausts (dry : Bridge → Bool) (act : Bridge → Option Bridge) (br : Bridge) : Prop :=
  ∀ br', act br = some br' → dry br' = false

/-- A machine that always runs until it offers no transition. -/
theorem predicts_of_rest {next : Next Bridge} {fuel : Nat} {dry : Bridge → Bool} {br : Bridge}
    (hdry : dry br = (next br).isSome)
    (hrest : ∀ br', run next fuel br = some br' → next br' = none) :
    Predicts dry (run next fuel) br := by
  intro br' h
  rw [hdry, Option.isSome_iff_ne_none]
  exact run_changes_iff h (hrest br' h)

theorem setPort_eq_self {br : Bridge} {p : PortRef} {f : Port → Port}
    (h : f (br.port p) = br.port p) : br.setPort p f = br := by
  have hport : (fun q => if q = p then f (br.port q) else br.port q) = br.port := by
    funext q
    split
    · rename_i hq
      rw [hq, h]
    · rfl
  rw [setPort, hport]

theorem setPort_self (br : Bridge) (p : PortRef) (f : Port → Port) :
    (br.setPort p f).port p = f (br.port p) := by
  simp only [setPort, if_true]

/-! ## Assurance, Port Receive and Bridge Detection -/

theorem assurance_predicts (br : Bridge) (p : PortRef) :
    Predicts (assuranceExpires · p) (always assuranceRun p) br := by
  intro br' h
  obtain rfl : assuranceRun p br = br' := Option.some.inj h
  rw [assuranceRun]
  constructor
  · intro hexp heq
    have hflag :
        ((br.setPort p fun prt => { prt with baInconsistent := true }).port p).baInconsistent =
        (br.port p).baInconsistent := by
      rw [if_pos hexp] at heq
      rw [heq]
    rw [setPort_self] at hflag
    simp [assuranceExpires, ← hflag] at hexp
  · intro hne
    by_contra hexp
    exact hne (if_neg hexp)

theorem prsmNext_discard {br : Bridge} {p : PortRef} (h : prsmNext br p = some .discard) :
    (br.port p).portEnabled = false ∧
      ((br.port p).rcvdBpdu = true ∨ (br.port p).edgeDelayWhile ≠ br.migrateTime) := by
  rw [prsmNext] at h
  split at h
  · rename_i hc
    simpa [and_comm] using hc
  · split at h <;> split at h <;> cases h

theorem prsmNext_receive {br : Bridge} {p : PortRef} (h : prsmNext br p = some .receive) :
    (br.port p).portEnabled = true ∧ (br.port p).rcvdBpdu = true := by
  rw [prsmNext] at h
  split at h
  · cases h
  · split at h <;> split at h
    · rename_i hc
      exact ⟨(Bool.and_eq_true_iff.mp hc).2, (Bool.and_eq_true_iff.mp hc).1⟩
    · cases h
    · rename_i hc
      have hc' := Bool.and_eq_true_iff.mp (Bool.and_eq_true_iff.mp hc).1
      exact ⟨hc'.2, hc'.1⟩
    · cases h

theorem prsmDry_eq (br : Bridge) (p : PortRef) : prsmDry br p = (prsmNext br p).isSome := by
  rw [prsmDry]
  cases hn : prsmNext br p with
  | none => rfl
  | some s =>
    cases s with
    | receive => rfl
    | discard =>
      rcases (prsmNext_discard hn).2 with hbpdu | hdelay
      · simp [hbpdu]
      · simp [hdelay]

/-- What `DISCARD` leaves in the port. -/
theorem prsmToDiscard_port (br : Bridge) (p : PortRef) :
    (prsmToDiscard p br).port p =
      { br.port p with
        prsmState := .discard, rcvdBpdu := false, rcvdRSTP := false, rcvdSTP := false
        edgeDelayWhile := br.migrateTime } := by
  simp [prsmToDiscard, clearAllRcvdMsgs, setPortPtps, setPort]

/-- What `RECEIVE` leaves in the port, as far as `PRSM_run` looks at it. -/
theorem prsmToReceive_port (br : Bridge) (p : PortRef) :
    ((prsmToReceive p br).port p).rcvdBpdu = false ∧
      ((prsmToReceive p br).port p).portEnabled = (br.port p).portEnabled := by
  refine ⟨?_, (prsmToReceive_frame p br).port_eq Port.portEnabled (fun _ => rfl) p⟩
  simp only [prsmToReceive, setPort_self]

theorem prsm_rests {br : Bridge} {p : PortRef} : prsmNext (prsmRun p br) p = none := by
  rw [prsmRun]
  split
  · assumption
  · rename_i s hs
    cases s with
    | discard =>
      have hdown := (prsmNext_discard hs).1
      have hmigrate : (prsmToDiscard p br).migrateTime = br.migrateTime := rfl
      simp [prsmTo, prsmNext, prsmToDiscard_port, hmigrate, hdown]
    | receive =>
      obtain ⟨hup, -⟩ := prsmNext_receive hs
      obtain ⟨hbpdu, hup'⟩ := prsmToReceive_port br p
      simp only [prsmTo, prsmNext, hbpdu, hup', hup]
      cases ((prsmToReceive p br).port p).prsmState <;> simp

theorem prsm_predicts (br : Bridge) (p : PortRef) :
    Predicts (prsmDry · p) (always prsmRun p) br := by
  intro br' h
  obtain rfl : prsmRun p br = br' := Option.some.inj h
  beta_reduce
  rw [prsmDry_eq, Option.isSome_iff_ne_none]
  constructor
  · intro hnext heq
    exact hnext (heq ▸ prsm_rests)
  · intro hne hnext
    exact hne (by rw [prsmRun, hnext])

theorem prsm_exhausts (br : Bridge) (p : PortRef) :
    Exhausts (prsmDry · p) (always prsmRun p) br := by
  intro br' h
  obtain rfl : prsmRun p br = br' := Option.some.inj h
  beta_reduce
  rw [prsmDry_eq, prsm_rests]
  rfl

theorem bdsmNext_changes {br : Bridge} {p : PortRef} {s : BdsmState}
    (h : bdsmNext br p = some s) : (br.port p).bdsmState ≠ s := by
  rw [bdsmNext] at h
  split at h <;> split at h
  all_goals cases h
  all_goals
    rename_i hstate _
    rw [hstate]
    decide

theorem bdsm_predicts (br : Bridge) (p : PortRef) :
    Predicts (bdsmDry · p) (always bdsmRun p) br := by
  intro br' h
  obtain rfl : bdsmRun p br = br' := Option.some.inj h
  beta_reduce
  rw [bdsmDry, bdsmRun]
  cases hn : bdsmNext br p with
  | none => simp
  | some s =>
    simp only [Option.isSome_some, true_iff]
    intro heq
    have hstate : ((bdsmTo p s br).port p).bdsmState = s := by
      cases s <;> simp [bdsmTo, setPort_self]
    rw [heq] at hstate
    exact bdsmNext_changes hn hstate

/-! ## Protocol Migration and Transmit -/

theorem ppmsm_rests {fuel : Nat} {p : PortRef} {br br' : Bridge} (hm : br.migrateTime ≠ 0)
    (h : run (ppmsmStep p) fuel br = some br') : ppmsmStep p br' = none := by
  have hkeep : ∀ (s : PpmsmState) (b : Bridge), (ppmsmTo p s b).migrateTime = b.migrateTime :=
    fun s b => (ppmsmTo_frame p s b).config_eq Bridge.migrateTime fun _ => rfl
  have hm' : br'.migrateTime ≠ 0 := by
    refine run_inv (I := fun b => b.migrateTime ≠ 0) ?_ hm h
    intro b c again hb hstep
    obtain ⟨s, -, heq⟩ := Option.map_eq_some_iff.mp hstep
    rw [← (Prod.mk.inj heq).1, hkeep]
    exact hb
  rcases run_stops h with hnone | ⟨b, hb⟩
  · exact hnone
  · -- only CHECKING_RSTP ends the recursion, with a timer that has just been set
    obtain ⟨s, -, heq⟩ := Option.map_eq_some_iff.mp hb
    obtain ⟨hto, hagain⟩ := Prod.mk.inj heq
    obtain rfl : s = .checkingRstp := by
      cases s <;> first | rfl | cases hagain
    subst hto
    rw [hkeep] at hm'
    have hport : (ppmsmTo p .checkingRstp b).port p =
        { b.port p with
          ppmsmState := .checkingRstp, mcheck := false, sendRSTP := b.rstpVersion
          mdelayWhile := b.migrateTime } := by
      simp only [ppmsmTo, ppmsmToCheckingRstp, setPort_self]
    simp [ppmsmStep, ppmsmNext, hport, hkeep, hm']

theorem ptsmNext_enabled {br : Bridge} {p : PortRef} {s : PtsmState}
    (hup : (br.port p).portEnabled = true) (h : ptsmNext br p = some s) : s ≠ .transmitInit := by
  rintro rfl
  simp only [ptsmNext, hup, Bool.not_true, Bool.false_eq_true, if_false] at h
  split at h
  · split_ifs at h <;> cases h
  · cases h

theorem ptsmTo_portEnabled (p : PortRef) (s : PtsmState) (br : Bridge) :
    ((ptsmTo p s br).port p).portEnabled = (br.port p).portEnabled :=
  (ptsmTo_frame p s br).port_eq Port.portEnabled (fun _ => rfl) p

theorem ptsm_rests {fuel : Nat} {p : PortRef} {br br' : Bridge}
    (hup : (br.port p).portEnabled = true) (h : run (ptsmStep p) fuel br = some br') :
    ptsmStep p br' = none := by
  have hends := run_ends (I := fun b => (b.port p).portEnabled = true) ?_ hup h
  · rcases hends with hnone | ⟨b, hb, hlast⟩
    · exact hnone
    · obtain ⟨s, hs, heq⟩ := Option.map_eq_some_iff.mp hlast
      have hinit : s = .transmitInit := by simpa using (Prod.mk.inj heq).2
      exact absurd hinit (ptsmNext_enabled hb hs)
  · intro b c again hb hstep
    obtain ⟨s, -, heq⟩ := Option.map_eq_some_iff.mp hstep
    rw [← (Prod.mk.inj heq).1, ptsmTo_portEnabled]
    exact hb

/-- At a port without a link the run is one entry of `TRANSMIT_INIT`. -/
theorem ptsm_disabled {fuel : Nat} {p : PortRef} {br br' : Bridge}
    (hdown : (br.port p).portEnabled = false) (h : run (ptsmStep p) fuel br = some br') :
    br' = ptsmToTransmitInit p br := by
  have hnext : ptsmStep p br = some (ptsmToTransmitInit p br, false) := by
    simp [ptsmStep, ptsmNext, hdown, ptsmTo]
  obtain ⟨fuel, rfl⟩ : ∃ k, fuel = k + 1 := ⟨fuel - 1, by have := run_fuel_pos h; omega⟩
  rw [run, hnext] at h
  exact (Option.some.inj h).symm

theorem ptsmDry_enabled {br : Bridge} {p : PortRef} (hup : (br.port p).portEnabled = true) :
    ptsmDry br p = (ptsmStep p br).isSome := by
  rw [ptsmDry, ptsmStep]
  cases hn : ptsmNext br p with
  | none => rfl
  | some s =>
    have hs := ptsmNext_enabled hup hn
    cases s <;> first | rfl | exact absurd rfl hs

theorem ptsmDry_disabled {br : Bridge} {p : PortRef} (hdown : (br.port p).portEnabled = false) :
    ptsmDry br p = false ↔ (br.port p).ptsmState = .transmitInit ∧ (br.port p).newInfo = true ∧
      (br.port p).newInfoMsti = true ∧ (br.port p).txCount = 0 := by
  have hnext : ptsmNext br p = some .transmitInit := by simp [ptsmNext, hdown]
  simp [ptsmDry, hnext, and_assoc]

theorem ptsmToTransmitInit_port (br : Bridge) (p : PortRef) :
    (ptsmToTransmitInit p br).port p =
      { br.port p with
        ptsmState := .transmitInit, newInfo := true, newInfoMsti := true, txCount := 0 } := by
  simp only [ptsmToTransmitInit, setPort_self]

theorem ptsm_predicts (fuel : Nat) (br : Bridge) (p : PortRef) :
    Predicts (ptsmDry · p) (run (ptsmStep p) fuel) br := by
  cases hport : (br.port p).portEnabled with
  | true => exact predicts_of_rest (ptsmDry_enabled hport) fun br' h => ptsm_rests hport h
  | false =>
    intro br' h
    beta_reduce
    rw [ptsm_disabled hport h, ← not_iff_not, Bool.not_eq_true, ptsmDry_disabled hport, not_not]
    constructor
    · rintro ⟨hstate, hnew, hmsti, hcount⟩
      refine setPort_eq_self ?_
      generalize br.port p = prt at hstate hnew hmsti hcount
      cases prt
      simp only at hstate hnew hmsti hcount
      subst hstate hnew hmsti hcount
      rfl
    · intro heq
      have hfields := ptsmToTransmitInit_port br p
      rw [heq] at hfields
      rw [hfields]
      exact ⟨rfl, rfl, rfl, rfl⟩

theorem ptsm_exhausts (fuel : Nat) (br : Bridge) (p : PortRef) :
    Exhausts (ptsmDry · p) (run (ptsmStep p) fuel) br := by
  intro br' h
  beta_reduce
  cases hport : (br.port p).portEnabled with
  | true =>
    have hup : (br'.port p).portEnabled = true := by
      refine run_inv (I := fun b => (b.port p).portEnabled = true) ?_ hport h
      intro b c again hb hstep
      obtain ⟨s, -, heq⟩ := Option.map_eq_some_iff.mp hstep
      rw [← (Prod.mk.inj heq).1, ptsmTo_portEnabled]
      exact hb
    rw [ptsmDry_enabled hup, ptsm_rests hport h]
    rfl
  | false =>
    obtain rfl := ptsm_disabled hport h
    have hdown : ((ptsmToTransmitInit p br).port p).portEnabled = false :=
      (ptsmTo_portEnabled p .transmitInit br).trans hport
    rw [ptsmDry_disabled hdown, ptsmToTransmitInit_port]
    exact ⟨rfl, rfl, rfl, rfl⟩

theorem exhausts_of_rest {next : Next Bridge} {fuel : Nat} {dry : Bridge → Bool} {br : Bridge}
    (hdry : ∀ b, dry b = (next b).isSome)
    (hrest : ∀ br', run next fuel br = some br' → next br' = none) :
    Exhausts dry (run next fuel) br := by
  intro br' h
  rw [hdry, hrest br' h]
  rfl

/-- A machine that looks again after each transition. -/
theorem ppmsmDry_eq (br : Bridge) (p : PortRef) : ppmsmDry br p = (ppmsmStep p br).isSome := by
  rw [ppmsmDry, ppmsmStep, Option.isSome_map]

theorem ppmsm_predicts (fuel : Nat) {br : Bridge} (p : PortRef) (hm : br.migrateTime ≠ 0) :
    Predicts (ppmsmDry · p) (run (ppmsmStep p) fuel) br :=
  predicts_of_rest (ppmsmDry_eq br p) fun _ h => ppmsm_rests hm h

theorem ppmsm_exhausts (fuel : Nat) {br : Bridge} (p : PortRef) (hm : br.migrateTime ≠ 0) :
    Exhausts (ppmsmDry · p) (run (ppmsmStep p) fuel) br :=
  exhausts_of_rest (ppmsmDry_eq · p) fun _ h => ppmsm_rests hm h

/-! ## Information, role selection, role transitions -/

theorem pismDry_eq (br : Bridge) (p : PortRef) (t : Mstid) :
    pismDry br p t = (pismStep p t br).isSome := by
  rw [pismDry, pismStep, Option.isSome_map]

/-- After role selection the tree has no request left. -/
theorem prssm_rests (br : Bridge) (t : Mstid) : prssmDry (prssmRun t br) t = false := by
  rw [prssmRun]
  split
  · rw [prssmDry, roleSelection_tree_self]
    refine List.any_eq_false.mpr fun q hq => ?_
    have hmem : q ∈ br.ports := (prssmToRoleSelection_frame t br).ports_eq ▸ hq
    rw [roleSelection_self t hmem]
    exact Bool.false_ne_true
  · rename_i hdry
    simpa using hdry

theorem prssm_predicts (br : Bridge) (t : Mstid) :
    Predicts (prssmDry · t) (fun b => some (prssmRun t b)) br := by
  intro br' h
  obtain rfl : prssmRun t br = br' := Option.some.inj h
  beta_reduce
  constructor
  · intro hdry heq
    have hrest := prssm_rests br t
    rw [heq, hdry] at hrest
    cases hrest
  · intro hne
    by_contra hdry
    exact hne (if_neg hdry)

theorem prssm_exhausts (br : Bridge) (t : Mstid) :
    Exhausts (prssmDry · t) (fun b => some (prssmRun t b)) br := by
  intro br' h
  obtain rfl : prssmRun t br = br' := Option.some.inj h
  exact prssm_rests br t

/-- The variables that `PRTSM_runr` computed at its first call are still right at its last. -/
theorem prtsm_rests {fuel : Nat} {p : PortRef} {t : Mstid} {br br' : Bridge}
    (h : prtsmRun fuel p t br = some br') :
    prtsmStep (prtsmVars br p) p t br' = none ∧ prtsmVars br' p = prtsmVars br p := by
  constructor
  · refine rests_of_again (fun b c hb => ?_) h
    obtain ⟨s, -, heq⟩ := Option.map_eq_some_iff.mp hb
    cases (Prod.mk.inj heq).2
  · refine prtsmRun_inv (I := fun b => prtsmVars b p = prtsmVars br p) (fun b s hb _ => ?_) rfl h
    rw [prtsmVars_prtsmTo, hb]

theorem prtsm_predicts (fuel : Nat) (br : Bridge) (p : PortRef) (t : Mstid) :
    Predicts (prtsmDry · p t) (prtsmRun fuel p t) br := by
  have h : Predicts (prtsmDry · p t) (run (prtsmStep (prtsmVars br p) p t) fuel) br := by
    refine predicts_of_rest ?_ fun _ h => (prtsm_rests h).1
    rw [prtsmDry, prtsmStep, Option.isSome_map]
  exact fun br' hrun => h br' hrun

theorem prtsm_exhausts (fuel : Nat) (br : Bridge) (p : PortRef) (t : Mstid) :
    Exhausts (prtsmDry · p t) (prtsmRun fuel p t) br := by
  intro br' h
  obtain ⟨hnone, hvars⟩ := prtsm_rests h
  rw [← hvars] at hnone
  beta_reduce
  rw [prtsmDry, ← Option.isSome_map (f := fun s => (prtsmTo (prtsmVars br' p) p t s br', true))]
  exact congrArg Option.isSome hnone

/-! ## Port state and topology change -/

theorem pstsmDry_eq (br : Bridge) (p : PortRef) (t : Mstid) :
    pstsmDry br p t = (pstsmStep p t br).isSome := by
  rw [pstsmDry, pstsmStep, Option.isSome_map]

theorem tcsmNext_learning {br : Bridge} {p : PortRef} {t : Mstid}
    (h : tcsmNext br p t = some .learning) : (br.ptp p t).tcsmState ≠ .learning ∨
      ((br.ptp p t).rcvdTc || (br.ptp p t).tcProp ||
        (t == 0 && ((br.port p).rcvdTcn || (br.port p).rcvdTcAck))) = true := by
  by_cases hstate : (br.ptp p t).tcsmState = .learning
  · right
    simp only [tcsmNext, hstate] at h
    split at h
    · cases h
    · split at h
      · assumption
      · split at h <;> cases h
  · exact Or.inl hstate

theorem tcsmDry_eq (br : Bridge) (p : PortRef) (t : Mstid) :
    tcsmDry br p t = (tcsmStep p t br).isSome := by
  rw [tcsmDry, tcsmStep]
  cases hn : tcsmNext br p t with
  | none => rfl
  | some s =>
    cases s with
    | learning =>
      rcases tcsmNext_learning hn with hstate | hflag
      · simp [hstate]
      · simp only [Bool.or_assoc] at hflag ⊢
        simp [hflag]
    | _ => rfl

theorem tcsm_rests {fuel : Nat} {p : PortRef} {t : Mstid} {br br' : Bridge}
    (h : run (tcsmStep p t) fuel br = some br') : tcsmStep p t br' = none := by
  refine rests_of_again (fun b c hb => ?_) h
  obtain ⟨s, -, heq⟩ := Option.map_eq_some_iff.mp hb
  cases (Prod.mk.inj heq).2

/-! ## All machines -/

/-- The ten checks of a pass predict exactly what they change. -/
structure DryRunExact (fuel : Nat) (br : Bridge) : Prop where
  assurance : ∀ p, Predicts (assuranceExpires · p) (always assuranceRun p) br
  prsm : ∀ p, Predicts (prsmDry · p) (always prsmRun p) br
  ppmsm : ∀ p, Predicts (ppmsmDry · p) (run (ppmsmStep p) fuel) br
  bdsm : ∀ p, Predicts (bdsmDry · p) (always bdsmRun p) br
  ptsm : ∀ p, Predicts (ptsmDry · p) (run (ptsmStep p) fuel) br
  pism : ∀ p t, Predicts (pismDry · p t) (run (pismStep p t) fuel) br
  prssm : ∀ t, Predicts (prssmDry · t) (fun b => some (prssmRun t b)) br
  prtsm : ∀ p t, Predicts (prtsmDry · p t) (prtsmRun fuel p t) br
  pstsm : ∀ p t, Predicts (pstsmDry · p t) (run (pstsmStep p t) fuel) br
  tcsm : ∀ p t, Predicts (tcsmDry · p t) (run (tcsmStep p t) fuel) br

/-- The eight machines that are done after one call of their run function. -/
structure RunsToTheEnd (fuel : Nat) (br : Bridge) : Prop where
  prsm : ∀ p, Exhausts (prsmDry · p) (always prsmRun p) br
  ppmsm : ∀ p, Exhausts (ppmsmDry · p) (run (ppmsmStep p) fuel) br
  ptsm : ∀ p, Exhausts (ptsmDry · p) (run (ptsmStep p) fuel) br
  pism : ∀ p t, Exhausts (pismDry · p t) (run (pismStep p t) fuel) br
  prssm : ∀ t, Exhausts (prssmDry · t) (fun b => some (prssmRun t b)) br
  prtsm : ∀ p t, Exhausts (prtsmDry · p t) (prtsmRun fuel p t) br
  pstsm : ∀ p t, Exhausts (pstsmDry · p t) (run (pstsmStep p t) fuel) br
  tcsm : ∀ p t, Exhausts (tcsmDry · p t) (run (tcsmStep p t) fuel) br

theorem dryRunExact (fuel : Nat) {br : Bridge} (hm : br.migrateTime ≠ 0) : DryRunExact fuel br where
  assurance := assurance_predicts br
  prsm := prsm_predicts br
  ppmsm p := ppmsm_predicts fuel p hm
  bdsm := bdsm_predicts br
  ptsm := ptsm_predicts fuel br
  pism p t := predicts_of_rest (pismDry_eq br p t) fun _ h => pism_rests h
  prssm := prssm_predicts br
  prtsm := prtsm_predicts fuel br
  pstsm p t := predicts_of_rest (pstsmDry_eq br p t) fun _ h => pstsm_rests h
  tcsm p t := predicts_of_rest (tcsmDry_eq br p t) fun _ h => tcsm_rests h

theorem runsToTheEnd (fuel : Nat) {br : Bridge} (hm : br.migrateTime ≠ 0) :
    RunsToTheEnd fuel br where
  prsm := prsm_exhausts br
  ppmsm p := ppmsm_exhausts fuel p hm
  ptsm := ptsm_exhausts fuel br
  pism p t := exhausts_of_rest (pismDry_eq · p t) fun _ h => pism_rests h
  prssm := prssm_exhausts br
  prtsm := prtsm_exhausts fuel br
  pstsm p t := exhausts_of_rest (pstsmDry_eq · p t) fun _ h => pstsm_rests h
  tcsm p t := exhausts_of_rest (tcsmDry_eq · p t) fun _ h => tcsm_rests h

theorem forEach_rest {α : Type} {act : α → Bridge → Option Bridge} {l : List α} {br : Bridge}
    (h : ∀ a ∈ l, act a br = some br) : forEach act l br = some br := by
  induction l with
  | nil => rfl
  | cons a rest ih =>
    rw [forEach, h a List.mem_cons_self]
    exact ih fun b hb => h b (List.mem_cons_of_mem a hb)

/-- A check that terminates and predicts nothing returns the state it was given. -/
theorem Predicts.rest {dry : Bridge → Bool} {act : Bridge → Option Bridge} {br br' : Bridge}
    (h : Predicts dry act br) (hdry : dry br = false) (hact : act br = some br') :
    act br = some br := by
  have hsame : br' = br := by
    by_contra hne
    rw [(h br' hact).mpr hne] at hdry
    cases hdry
  rw [hact, hsame]

theorem ptsm_terminates {fuel : Nat} {br : Bridge} {p : PortRef} (hfuel : 0 < fuel)
    (hdry : ptsmDry br p = false) : ∃ br', run (ptsmStep p) fuel br = some br' := by
  cases hport : (br.port p).portEnabled with
  | true =>
    rw [ptsmDry_enabled hport, Option.isSome_eq_false_iff, Option.isNone_iff_eq_none] at hdry
    exact ⟨br, run_rest hfuel hdry⟩
  | false =>
    obtain ⟨fuel, rfl⟩ : ∃ k, fuel = k + 1 := ⟨fuel - 1, by omega⟩
    refine ⟨ptsmToTransmitInit p br, ?_⟩
    simp [run, ptsmStep, ptsmNext, hport, ptsmTo]

/-- When the dry run of all machines predicts nothing, a pass returns the state it was
given. The calls of `MSTP_OUT_` functions are part of that state. -/
theorem pass_rest {fuel : Nat} {br : Bridge} (hm : br.migrateTime ≠ 0) (hfuel : 0 < fuel)
    (hdry : brStateMachinesDry br = false) : brStateMachinesPass fuel br = some br := by
  have hq := quiet_of_dry hdry
  have hexact := dryRunExact fuel hm
  have hrefs : ∀ o ∈ br.ptpRefs, o.1 ∈ br.ports ∧ o.2 ∈ br.trees := fun o ho => mem_ptpRefs.mp ho
  rw [brStateMachinesPass]
  refine forEach_rest fun stage hstage => ?_
  simp only [stages, List.mem_cons, List.not_mem_nil, or_false] at hstage
  rcases hstage with rfl | rfl | rfl | rfl | rfl | rfl | rfl | rfl | rfl | rfl
  · exact forEach_rest fun p hp => (hexact.assurance p).rest (hq.assurance p hp) rfl
  · exact forEach_rest fun p hp => (hexact.prsm p).rest (hq.prsm p hp) rfl
  · exact forEach_rest fun p hp => run_rest hfuel (by rw [ppmsmStep, hq.ppmsm p hp]; rfl)
  · refine forEach_rest fun p hp => (hexact.bdsm p).rest ?_ rfl
    rw [bdsmDry, hq.bdsm p hp]
    rfl
  · refine forEach_rest fun p hp => ?_
    obtain ⟨br', hrun⟩ := ptsm_terminates hfuel (hq.ptsm p hp)
    exact (hexact.ptsm p).rest (hq.ptsm p hp) hrun
  · exact forEach_rest fun o ho => run_rest hfuel (by
      rw [pismStep, hq.pism o.1 (hrefs o ho).1 o.2 (hrefs o ho).2]; rfl)
  · exact forEach_rest fun t ht => (hexact.prssm t).rest (hq.prssm t ht) rfl
  · exact forEach_rest fun o ho => run_rest hfuel (by
      rw [prtsmStep, hq.prtsm o.1 (hrefs o ho).1 o.2 (hrefs o ho).2]; rfl)
  · exact forEach_rest fun o ho => run_rest hfuel (by
      rw [pstsmStep, hq.pstsm o.1 (hrefs o ho).1 o.2 (hrefs o ho).2]; rfl)
  · refine forEach_rest fun o ho => run_rest hfuel ?_
    have htcsm := hq.tcsm o.1 (hrefs o ho).1 o.2 (hrefs o ho).2
    rw [tcsmDry_eq, Option.isSome_eq_false_iff, Option.isNone_iff_eq_none] at htcsm
    exact htcsm

/-- Dry run and actual run agree. `Migrate_Time` is 3 in every bridge, `Visited.migrateTime`;
were it zero, `CHECKING_RSTP` would leave its follow-up run undone. -/
theorem dry_run_agrees (fuel : Nat) (br : Bridge) (hm : br.migrateTime ≠ 0) :
    DryRunExact fuel br ∧ RunsToTheEnd fuel br ∧
      (brStateMachinesDry br = false → 0 < fuel → brStateMachinesPass fuel br = some br) :=
  ⟨dryRunExact fuel hm, runsToTheEnd fuel hm, fun hdry hfuel => pass_rest hm hfuel hdry⟩

/-- Two ports, one with a link. -/
def dryRunOps : List Op :=
  [.createPort 1 1 "sw1p1" 1000 1, .createPort 2 2 "sw1p2" 1000 1, .setBridgeEnable true,
    .setPortEnable 1 true 1000 1, .oneSecond]

theorem sample_dry_run_agrees : ∃ br, Reachable untilQuiet br ∧ br.migrateTime ≠ 0 ∧
    brStateMachinesDry br = false ∧ DryRunExact 60 br ∧ brStateMachinesPass 60 br = some br := by
  have hrun : (sampleRun dryRunOps).any (fun br => !brStateMachinesDry br) = true := by
    decide +kernel
  obtain ⟨br, hbr, hdry⟩ := (Option.any_eq_true _ _).mp hrun
  have hdry' : brStateMachinesDry br = false := by simpa using hdry
  have hr : Reachable untilQuiet br := sampleRun_reachable (fun _ _ _ => rfl) hbr
  have hm : br.migrateTime ≠ 0 := by
    rw [hr.visited.migrateTime]
    decide
  obtain ⟨hexact, -, hpass⟩ := dry_run_agrees 60 br hm
  exact ⟨br, hr, hm, hdry', hexact, hpass hdry' (by decide)⟩

end Mstpd
