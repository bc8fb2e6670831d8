import Mstpd.Frames

/-!
# Invariants of passes and runs

A property that every transition of every machine preserves is preserved by a pass
and by `br_state_machines_run`. Transitions may be assumed to be those that the
machine takes, at a port and a tree of the bridge.
-/

namespace Mstpd

open Bridge Machine

theorem prtsmVars_prtsmTo (v : PrtsmVars) (p q : PortRef) (t : Mstid) (s : PrtsmState)
    (br : Bridge) : prtsmVars (prtsmTo v p t s br) q = prtsmVars br q := by
  have h := prtsmTo_frame v p t s br
  have htimes := h.ptp_eq (fun x => (x.designatedTimes, x.portTimes)) (fun _ => rfl) q 0
  have hsend := h.port_eq Port.sendRSTP (fun _ => rfl) q
  simp only [Prod.mk.injEq] at htimes
  simp only [prtsmVars, cist, htimes, hsend]

/-- Each transition of each machine preserves `I`. -/
structure StepInv (I : Bridge → Prop) : Prop where
  assurance : ∀ br p, I br → p ∈ br.ports → I (assuranceRun p br)
  prsm : ∀ br p s, I br → p ∈ br.ports → prsmNext br p = some s → I (prsmTo p s br)
  ppmsm : ∀ br p s, I br → p ∈ br.ports → ppmsmNext br p = some s → I (ppmsmTo p s br)
  bdsm : ∀ br p s, I br → p ∈ br.ports → bdsmNext br p = some s → I (bdsmTo p s br)
  ptsm : ∀ br p s, I br → p ∈ br.ports → ptsmNext br p = some s → I (ptsmTo p s br)
  pism : ∀ br p t s, I br → p ∈ br.ports → t ∈ br.trees → pismNext br p t = some s →
    I (pismTo p t s br)
  prssm : ∀ br t, I br → t ∈ br.trees → prssmDry br t = true → I (prssmToRoleSelection t br)
  prtsm : ∀ br p t s, I br → p ∈ br.ports → t ∈ br.trees →
    prtsmNext (prtsmVars br p) br p t = some s → I (prtsmTo (prtsmVars br p) p t s br)
  pstsm : ∀ br p t s, I br → p ∈ br.ports → t ∈ br.trees → pstsmNext br p t = some s →
    I (pstsmTo p t s br)
  tcsm : ∀ br p t s, I br → p ∈ br.ports → t ∈ br.trees → tcsmNext br p t = some s →
    I (tcsmTo p t s br)

theorem mem_ptpRefs {br : Bridge} {p : PortRef} {t : Mstid} :
    (p, t) ∈ br.ptpRefs ↔ p ∈ br.ports ∧ t ∈ br.trees := by
  simp [ptpRefs]

/-- Nothing is left to do for any machine. -/
structure Quiet (br : Bridge) : Prop where
  assurance : ∀ p ∈ br.ports, assuranceExpires br p = false
  prsm : ∀ p ∈ br.ports, prsmDry br p = false
  ppmsm : ∀ p ∈ br.ports, ppmsmNext br p = none
  bdsm : ∀ p ∈ br.ports, bdsmNext br p = none
  ptsm : ∀ p ∈ br.ports, ptsmDry br p = false
  pism : ∀ p ∈ br.ports, ∀ t ∈ br.trees, pismNext br p t = none
  prssm : ∀ t ∈ br.trees, prssmDry br t = false
  prtsm : ∀ p ∈ br.ports, ∀ t ∈ br.trees, prtsmNext (prtsmVars br p) br p t = none
  pstsm : ∀ p ∈ br.ports, ∀ t ∈ br.trees, pstsmNext br p t = none
  tcsm : ∀ p ∈ br.ports, ∀ t ∈ br.trees, tcsmDry br p t = false

theorem quiet_of_dry {br : Bridge} (h : brStateMachinesDry br = false) : Quiet br := by
  simp only [brStateMachinesDry, Bool.or_eq_false_iff, List.any_eq_false, Bool.not_eq_true,
    ppmsmDry, bdsmDry, pismDry, prtsmDry, pstsmDry, Option.isSome_eq_false_iff,
    Option.isNone_iff_eq_none] at h
  obtain ⟨⟨⟨⟨⟨⟨⟨⟨⟨h₁, h₂⟩, h₃⟩, h₄⟩, h₅⟩, h₆⟩, h₇⟩, h₈⟩, h₉⟩, h₁₀⟩ := h
  have href : ∀ {p t}, p ∈ br.ports → t ∈ br.trees → (p, t) ∈ br.ptpRefs := fun hp ht =>
    mem_ptpRefs.mpr ⟨hp, ht⟩
  exact ⟨h₁, h₂, h₃, h₄, h₅, fun p hp t ht => h₆ _ (href hp ht), h₇,
    fun p hp t ht => h₈ _ (href hp ht), fun p hp t ht => h₉ _ (href hp ht),
    fun p hp t ht => h₁₀ _ (href hp ht)⟩

/-- No port awaits its BEGIN. -/
def settled : PortRef → Mstid → Prop := fun _ _ => False

theorem forAll_inv {α : Type} {I : Bridge → Prop} {act : α → Bridge → Bridge} {l : List α}
    (step : ∀ a ∈ l, ∀ b, I b → I (act a b)) {br : Bridge} (hi : I br) : I (forAll act l br) := by
  induction l generalizing br with
  | nil => exact hi
  | cons a l ih =>
    exact ih (fun b hb => step b (List.mem_cons_of_mem a hb)) (step a List.mem_cons_self br hi)

/-- What one element of the list establishes where `J` holds, and all others keep. -/
theorem forAll_reaches_of {α : Type} {I J : Bridge → Prop} {act : α → Bridge → Bridge} {l : List α}
    {a : α} (ha : a ∈ l) (before : ∀ c b, J b → J (act c b)) (reach : ∀ b, J b → I (act a b))
    (keep : ∀ c b, I b → I (act c b)) {br : Bridge} (hJ : J br) : I (forAll act l br) := by
  induction l generalizing br with
  | nil => cases ha
  | cons c l ih =>
    rcases List.mem_cons.mp ha with rfl | htail
    · exact forAll_inv (l := l) (fun c _ => keep c) (reach br hJ)
    · exact ih htail (before c br hJ)

/-- What one element of the list establishes and all others keep. -/
theorem forAll_reaches {α : Type} {I : Bridge → Prop} {act : α → Bridge → Bridge} {l : List α}
    {a : α} (ha : a ∈ l) (reach : ∀ b, I (act a b)) (keep : ∀ c b, I b → I (act c b))
    (br : Bridge) : I (forAll act l br) :=
  forAll_reaches_of (J := fun _ => True) ha (fun _ _ _ => trivial) (fun b _ => reach b) keep trivial

/-! ## Stages -/

section Stages

variable {I : Bridge → Prop} {fuel : Nat} {ports : List PortRef} {trees : List Mstid}
  {refs : List (PortRef × Mstid)} {br br' : Bridge}

theorem always_inv {act : PortRef → Bridge → Bridge}
    (step : ∀ p ∈ ports, ∀ b, I b → I (act p b)) (hi : I br)
    (h : forEach (always act) ports br = some br') : I br' := by
  refine forEach_inv (fun p hp b b' hb hact => ?_) hi h
  have hb' : act p b = b' := Option.some.inj hact
  exact hb' ▸ step p hp b hb

/-- A stage of a machine that runs by tail recursion. -/
theorem runs_inv {α τ : Type} {objs : List α} (next : Bridge → α → Option τ)
    (enter : α → τ → Bridge → Bridge) (again : τ → Bool)
    (step : ∀ a ∈ objs, ∀ b s, I b → next b a = some s → I (enter a s b)) (hi : I br)
    (h : forEach (fun a => run (fun b => (next b a).map fun s => (enter a s b, again s)) fuel)
      objs br = some br') : I br' := by
  refine forEach_inv (fun a ha b b' hb hrun => run_inv ?_ hb hrun) hi h
  intro c c' more hc hstep
  obtain ⟨s, hs, heq⟩ := Option.map_eq_some_iff.mp hstep
  have henter : enter a s c = c' := (Prod.mk.inj heq).1
  exact henter ▸ step a ha c s hc hs

theorem assuranceStage_inv (step : ∀ p ∈ ports, ∀ b, I b → I (assuranceRun p b)) (hi : I br)
    (h : assuranceStage ports br = some br') : I br' := always_inv step hi h

theorem prsmStage_inv
    (step : ∀ p ∈ ports, ∀ b s, I b → prsmNext b p = some s → I (prsmTo p s b)) (hi : I br)
    (h : prsmStage ports br = some br') : I br' := by
  refine always_inv (fun p hp b hb => ?_) hi h
  rw [prsmRun]
  split
  · exact hb
  · rename_i s hs
    exact step p hp b s hb hs

theorem ppmsmStage_inv
    (step : ∀ p ∈ ports, ∀ b s, I b → ppmsmNext b p = some s → I (ppmsmTo p s b)) (hi : I br)
    (h : ppmsmStage fuel ports br = some br') : I br' :=
  runs_inv ppmsmNext ppmsmTo (fun s => s != .checkingRstp) step hi h

theorem bdsmStage_inv
    (step : ∀ p ∈ ports, ∀ b s, I b → bdsmNext b p = some s → I (bdsmTo p s b)) (hi : I br)
    (h : bdsmStage ports br = some br') : I br' := by
  refine always_inv (fun p hp b hb => ?_) hi h
  rw [bdsmRun]
  split
  · exact hb
  · rename_i s hs
    exact step p hp b s hb hs

theorem ptsmStage_inv
    (step : ∀ p ∈ ports, ∀ b s, I b → ptsmNext b p = some s → I (ptsmTo p s b)) (hi : I br)
    (h : ptsmStage fuel ports br = some br') : I br' :=
  runs_inv ptsmNext ptsmTo (fun s => s != .transmitInit) step hi h

theorem pismStage_inv
    (step : ∀ o ∈ refs, ∀ b s, I b → pismNext b o.1 o.2 = some s → I (pismTo o.1 o.2 s b))
    (hi : I br) (h : pismStage fuel refs br = some br') : I br' :=
  runs_inv (fun b (o : PortRef × Mstid) => pismNext b o.1 o.2) (fun o => pismTo o.1 o.2)
    (fun _ => true) step hi h

theorem prssmStage_inv
    (step : ∀ t ∈ trees, ∀ b, I b → prssmDry b t = true → I (prssmToRoleSelection t b))
    (hi : I br) (h : prssmStage trees br = some br') : I br' := by
  refine forEach_inv (fun t ht b b' hb hact => ?_) hi h
  have hb' : prssmRun t b = b' := Option.some.inj hact
  rw [← hb', prssmRun]
  split
  · rename_i hdry
    exact step t ht b hb hdry
  · exact hb

/-- The variables computed at the first call stay those of the current state. -/
theorem prtsmRun_inv {p : PortRef} {t : Mstid}
    (step : ∀ b s, I b → prtsmNext (prtsmVars b p) b p t = some s →
      I (prtsmTo (prtsmVars b p) p t s b)) (hi : I br) (h : prtsmRun fuel p t br = some br') :
    I br' := by
  have hboth : I br' ∧ prtsmVars br' p = prtsmVars br p := by
    refine run_inv (I := fun b => I b ∧ prtsmVars b p = prtsmVars br p) ?_ ⟨hi, rfl⟩ h
    intro b b' more hb hstep
    obtain ⟨s, hs, heq⟩ := Option.map_eq_some_iff.mp hstep
    have henter : prtsmTo (prtsmVars br p) p t s b = b' := (Prod.mk.inj heq).1
    rw [← henter, prtsmVars_prtsmTo]
    rw [← hb.2] at hs ⊢
    exact ⟨step b s hb.1 hs, rfl⟩
  exact hboth.1

theorem prtsmStage_inv
    (step : ∀ o ∈ refs, ∀ b s, I b → prtsmNext (prtsmVars b o.1) b o.1 o.2 = some s →
      I (prtsmTo (prtsmVars b o.1) o.1 o.2 s b))
    (hi : I br) (h : prtsmStage fuel refs br = some br') : I br' :=
  forEach_inv (fun o ho _ _ hb hrun => prtsmRun_inv (step o ho) hb hrun) hi h

theorem pstsmStage_inv
    (step : ∀ o ∈ refs, ∀ b s, I b → pstsmNext b o.1 o.2 = some s → I (pstsmTo o.1 o.2 s b))
    (hi : I br) (h : pstsmStage fuel refs br = some br') : I br' :=
  runs_inv (fun b (o : PortRef × Mstid) => pstsmNext b o.1 o.2) (fun o => pstsmTo o.1 o.2)
    (fun s => s != .forwarding) step hi h

theorem tcsmStage_inv
    (step : ∀ o ∈ refs, ∀ b s, I b → tcsmNext b o.1 o.2 = some s → I (tcsmTo o.1 o.2 s b))
    (hi : I br) (h : tcsmStage fuel refs br = some br') : I br' :=
  runs_inv (fun b (o : PortRef × Mstid) => tcsmNext b o.1 o.2) (fun o => tcsmTo o.1 o.2)
    (fun _ => true) step hi h

end Stages

/-! ## Where the runs of single machines end -/

theorem rests_of_again {next : Next Bridge} (hagain : ∀ b c, next b ≠ some (c, false)) {fuel : Nat}
    {br br' : Bridge} (h : run next fuel br = some br') : next br' = none := by
  rcases run_stops h with hnone | ⟨b, hb⟩
  · exact hnone
  · exact absurd hb (hagain b br')

theorem pism_rests {fuel : Nat} {p : PortRef} {t : Mstid} {br br' : Bridge}
    (h : run (pismStep p t) fuel br = some br') : pismStep p t br' = none := by
  refine rests_of_again (fun b c hb => ?_) h
  obtain ⟨s, -, heq⟩ := Option.map_eq_some_iff.mp hb
  cases (Prod.mk.inj heq).2

/-- A run of the port information machine ends where no transition is left. -/
theorem pismRun_none {fuel : Nat} {p : PortRef} {t : Mstid} {br br' : Bridge}
    (h : run (pismStep p t) fuel br = some br') : pismNext br' p t = none := by
  have hnone := pism_rests h
  simpa [pismStep] using hnone

theorem pismRun_keeps {α : Type} {fuel : Nat} {p q : PortRef} {t u : Mstid} {br br' : Bridge}
    (f : PerTreePort → α) (hf : ∀ x, f (sharedByMessage x) = f x) (hne : ¬ (q = p ∧ u = t))
    (h : run (pismStep p t) fuel br = some br') : f (br'.ptp q u) = f (br.ptp q u) := by
  refine run_inv (I := fun b => f (b.ptp q u) = f (br.ptp q u)) ?_ rfl h
  intro b b' more hb hstep
  obtain ⟨s, -, heq⟩ := Option.map_eq_some_iff.mp hstep
  have hto : Mstpd.pismTo p t s b = b' := (Prod.mk.inj heq).1
  rw [← hto, (pismTo_local p t s b).eq f hf hne]
  exact hb

theorem pismRun_portEnabled {fuel : Nat} {p : PortRef} {t : Mstid} {br br' : Bridge}
    (h : run (pismStep p t) fuel br = some br') (q : PortRef) :
    (br'.port q).portEnabled = (br.port q).portEnabled := by
  refine run_inv (I := fun b => (b.port q).portEnabled = (br.port q).portEnabled) ?_ rfl h
  intro b b' more hb hstep
  obtain ⟨s, -, heq⟩ := Option.map_eq_some_iff.mp hstep
  have hto : Mstpd.pismTo p t s b = b' := (Prod.mk.inj heq).1
  rw [← hto, (pismTo_frame p t s b).port_eq Port.portEnabled (fun _ => rfl) q]
  exact hb

theorem pstsmNext_forwarding {br : Bridge} {p : PortRef} {t : Mstid}
    (h : pstsmNext br p t = some .forwarding) : (br.ptp p t).forward = true := by
  rw [pstsmNext] at h
  split at h
  · split at h <;> cases h
  · split at h
    · cases h
    · split at h
      · assumption
      · cases h
  · split at h <;> cases h

/-- `FORWARDING` ends the recursion, and is left only when `forward` is taken back. -/
theorem pstsm_rests {fuel : Nat} {p : PortRef} {t : Mstid} {br br' : Bridge}
    (h : run (pstsmStep p t) fuel br = some br') : pstsmStep p t br' = none := by
  rcases run_stops h with hnone | ⟨b, hb⟩
  · exact hnone
  · obtain ⟨s, hs, heq⟩ := Option.map_eq_some_iff.mp hb
    obtain ⟨hto, hagain⟩ := Prod.mk.inj heq
    obtain rfl : s = .forwarding := by
      cases s <;> first | rfl | cases hagain
    subst hto
    have hforward : ((pstsmTo p t .forwarding b).ptp p t).forward = true :=
      ((pstsmTo_frame p t .forwarding b).ptp_eq PerTreePort.forward (fun _ => rfl) p t).trans
        (pstsmNext_forwarding hs)
    have hstate : ((pstsmTo p t .forwarding b).ptp p t).pstsmState = .forwarding := by
      simp only [pstsmTo, setPtp_self]
    simp [pstsmStep, pstsmNext, hstate, hforward]

/-- The transition that port information takes in the CIST depends on nothing that the
treatment of a message shares between trees. -/
theorem pismNext_cist_congr {br br' : Bridge} {p : PortRef}
    (hport : (br'.port p).portEnabled = (br.port p).portEnabled)
    (hptp : sharedByMessage (br'.ptp p 0) = sharedByMessage (br.ptp p 0)) :
    pismNext br' p 0 = pismNext br p 0 := by
  have hread : ∀ b : Bridge, pismNext b p 0 = pismNext { b with
      port := fun _ => { portEnabled := (b.port p).portEnabled }
      ptp := fun _ _ => sharedByMessage (b.ptp p 0) } p 0 := fun _ => rfl
  rw [hread br', hread br, hport, hptp]
  rfl

/-- After the stage of port information no CIST port has a transition left. -/
theorem pismStage_rests {fuel : Nat} {refs : List (PortRef × Mstid)} {br br' : Bridge}
    (h : pismStage fuel refs br = some br') :
    ∀ o ∈ refs, o.2 = 0 → pismNext br' o.1 o.2 = none := by
  refine forEach_settles (I := fun _ => True)
    (P := fun o b => o.2 = 0 → pismNext b o.1 o.2 = none) (fun _ _ _ _ _ _ => trivial) ?_ ?_
    trivial h
  · intro o _ b b' _ hrun _
    exact pismRun_none hrun
  · intro a _ o _ b b' _ hb hrun hcist
    by_cases hsame : a.1 = o.1 ∧ a.2 = o.2
    · rw [hsame.1, hsame.2]
      exact pismRun_none hrun
    · have hrest := hb hcist
      rw [hcist] at hsame hrest ⊢
      rw [pismNext_cist_congr (pismRun_portEnabled hrun a.1)
        (pismRun_keeps sharedByMessage (fun _ => rfl) hsame hrun)]
      exact hrest

theorem pstsmTo_local (p : PortRef) (t : Mstid) (s : PstsmState) (br : Bridge) :
    Local id p t br (pstsmTo p t s br) := by
  have hpush : ∀ s', Local id p t br (pstsmPush p t s' br) := by
    intro s'
    rw [pstsmPush]
    split
    · exact Local.after Local.emit (Local.after Local.setPort Local.self)
    · exact Local.refl
  cases s with
  | discarding =>
    rw [pstsmTo]
    exact Local.after Local.self (hpush .blocking)
  | learning =>
    rw [pstsmTo]
    exact Local.after Local.self (hpush .learning)
  | forwarding =>
    rw [pstsmTo]
    exact Local.after Local.self (hpush .forwarding)

theorem pstsmRun_keeps {fuel : Nat} {p q : PortRef} {t u : Mstid} {br br' : Bridge}
    (hne : ¬ (q = p ∧ u = t)) (h : run (pstsmStep p t) fuel br = some br') :
    br'.ptp q u = br.ptp q u := by
  refine run_inv (I := fun b => b.ptp q u = br.ptp q u) ?_ rfl h
  intro b b' more hb hstep
  obtain ⟨s, -, heq⟩ := Option.map_eq_some_iff.mp hstep
  have hto : Mstpd.pstsmTo p t s b = b' := (Prod.mk.inj heq).1
  rw [← hto]
  exact (pstsmTo_local p t s b q u hne).trans hb

/-- After the stage of port states every port has the state its flags ask for. -/
theorem pstsmStage_rests {fuel : Nat} {refs : List (PortRef × Mstid)} {br br' : Bridge}
    (h : pstsmStage fuel refs br = some br') : ∀ o ∈ refs, pstsmNext br' o.1 o.2 = none := by
  refine forEach_settles (I := fun _ => True) (P := fun o b => pstsmNext b o.1 o.2 = none)
    (fun _ _ _ _ _ _ => trivial) ?_ ?_ trivial h
  · intro o _ b b' _ hrun
    simpa [pstsmStep] using pstsm_rests hrun
  · intro a _ o _ b b' _ hb hrun
    by_cases hsame : a.1 = o.1 ∧ a.2 = o.2
    · rw [hsame.1, hsame.2]
      simpa [pstsmStep] using pstsm_rests hrun
    · rw [pstsmNext, pstsmRun_keeps hsame hrun, ← pstsmNext]
      exact hb

/-- A pass, stage by stage. -/
theorem pass_cases {fuel : Nat} {br br' : Bridge} (h : brStateMachinesPass fuel br = some br') :
    ∃ b₁ b₂ b₃ b₄ b₅ b₆ b₇ b₈ b₉,
      assuranceStage br.ports br = some b₁ ∧ prsmStage br.ports b₁ = some b₂ ∧
      ppmsmStage fuel br.ports b₂ = some b₃ ∧ bdsmStage br.ports b₃ = some b₄ ∧
      ptsmStage fuel br.ports b₄ = some b₅ ∧ pismStage fuel br.ptpRefs b₅ = some b₆ ∧
      prssmStage br.trees b₆ = some b₇ ∧ prtsmStage fuel br.ptpRefs b₇ = some b₈ ∧
      pstsmStage fuel br.ptpRefs b₈ = some b₉ ∧ tcsmStage fuel br.ptpRefs b₉ = some br' := by
  simp only [brStateMachinesPass, stages, forEach, id_eq, Option.bind_eq_some_iff,
    Option.some.injEq] at h
  obtain ⟨b₁, h₁, b₂, h₂, b₃, h₃, b₄, h₄, b₅, h₅, b₆, h₆, b₇, h₇, b₈, h₈, b₉, h₉, b, h, rfl⟩ := h
  exact ⟨b₁, b₂, b₃, b₄, b₅, b₆, b₇, b₈, b₉, h₁, h₂, h₃, h₄, h₅, h₆, h₇, h₈, h₉, h⟩

/-! ## Passes and runs -/

/-- The lists a pass goes through. -/
def OnLists (ports : List PortRef) (trees : List Mstid) (I : Bridge → Prop) (br : Bridge) : Prop :=
  I br ∧ br.ports = ports ∧ br.trees = trees

theorem OnLists.frame {ports : List PortRef} {trees : List Mstid} {I : Bridge → Prop} {o : Owned}
    [o.KeepsLists] {br br' : Bridge} (h : OnLists ports trees I br) (hf : Frame o br br')
    (hI : I br') : OnLists ports trees I br' :=
  ⟨hI, hf.ports_eq.trans h.2.1, hf.trees_eq.trans h.2.2⟩

theorem StepInv.pass {I : Bridge → Prop} (hI : StepInv I) {fuel : Nat} {br br' : Bridge}
    (hi : I br) (h : brStateMachinesPass fuel br = some br') :
    I br' ∧ br'.ports = br.ports ∧ br'.trees = br.trees := by
  obtain ⟨b₁, b₂, b₃, b₄, b₅, b₆, b₇, b₈, b₉, h₁, h₂, h₃, h₄, h₅, h₆, h₇, h₈, h₉, h₁₀⟩ :=
    pass_cases h
  have hrefs : ∀ o ∈ br.ptpRefs, o.1 ∈ br.ports ∧ o.2 ∈ br.trees := fun o ho => mem_ptpRefs.mp ho
  have i₁ : OnLists br.ports br.trees I b₁ := by
    refine assuranceStage_inv (fun p hp b hb => ?_) ⟨hi, rfl, rfl⟩ h₁
    exact hb.frame (assuranceRun_frame p b) (hI.assurance b p hb.1 (hb.2.1 ▸ hp))
  have i₂ : OnLists br.ports br.trees I b₂ := by
    refine prsmStage_inv (fun p hp b s hb hs => ?_) i₁ h₂
    exact hb.frame (prsmTo_frame p s b) (hI.prsm b p s hb.1 (hb.2.1 ▸ hp) hs)
  have i₃ : OnLists br.ports br.trees I b₃ := by
    refine ppmsmStage_inv (fun p hp b s hb hs => ?_) i₂ h₃
    exact hb.frame (ppmsmTo_frame p s b) (hI.ppmsm b p s hb.1 (hb.2.1 ▸ hp) hs)
  have i₄ : OnLists br.ports br.trees I b₄ := by
    refine bdsmStage_inv (fun p hp b s hb hs => ?_) i₃ h₄
    exact hb.frame (bdsmTo_frame p s b) (hI.bdsm b p s hb.1 (hb.2.1 ▸ hp) hs)
  have i₅ : OnLists br.ports br.trees I b₅ := by
    refine ptsmStage_inv (fun p hp b s hb hs => ?_) i₄ h₅
    exact hb.frame (ptsmTo_frame p s b) (hI.ptsm b p s hb.1 (hb.2.1 ▸ hp) hs)
  have i₆ : OnLists br.ports br.trees I b₆ := by
    refine pismStage_inv (fun o ho b s hb hs => ?_) i₅ h₆
    exact hb.frame (pismTo_frame o.1 o.2 s b)
      (hI.pism b o.1 o.2 s hb.1 (hb.2.1 ▸ (hrefs o ho).1) (hb.2.2 ▸ (hrefs o ho).2) hs)
  have i₇ : OnLists br.ports br.trees I b₇ := by
    refine prssmStage_inv (fun t ht b hb hdry => ?_) i₆ h₇
    exact hb.frame (prssmToRoleSelection_frame t b) (hI.prssm b t hb.1 (hb.2.2 ▸ ht) hdry)
  have i₈ : OnLists br.ports br.trees I b₈ := by
    refine prtsmStage_inv (fun o ho b s hb hs => ?_) i₇ h₈
    exact hb.frame (prtsmTo_frame _ o.1 o.2 s b)
      (hI.prtsm b o.1 o.2 s hb.1 (hb.2.1 ▸ (hrefs o ho).1) (hb.2.2 ▸ (hrefs o ho).2) hs)
  have i₉ : OnLists br.ports br.trees I b₉ := by
    refine pstsmStage_inv (fun o ho b s hb hs => ?_) i₈ h₉
    exact hb.frame (pstsmTo_frame o.1 o.2 s b)
      (hI.pstsm b o.1 o.2 s hb.1 (hb.2.1 ▸ (hrefs o ho).1) (hb.2.2 ▸ (hrefs o ho).2) hs)
  have i₁₀ : OnLists br.ports br.trees I br' := by
    refine tcsmStage_inv (fun o ho b s hb hs => ?_) i₉ h₁₀
    exact hb.frame (tcsmTo_frame o.1 o.2 s b)
      (hI.tcsm b o.1 o.2 s hb.1 (hb.2.1 ▸ (hrefs o ho).1) (hb.2.2 ▸ (hrefs o ho).2) hs)
  exact i₁₀

theorem StepInv.brRun {I : Bridge → Prop} (hI : StepInv I) {late : Nat → Bool} {fuel : Nat}
    {br br' : Bridge} (hi : I br) (h : brStateMachinesRun late fuel br = some br') : I br' := by
  rw [brStateMachinesRun] at h
  split at h
  · exact loop_inv (fun b b' hb hpass => (hI.pass hb hpass).1) hi h
  · exact Option.some.inj h ▸ hi

end Mstpd
