import Mstpd.BridgeTrack
import Mstpd.Harness

/-!
# Cables and carriers

Each function of the harness pulls and plugs cables or changes what is up at a few ports, and
then refreshes the carriers of the ports it has touched. Between two calls no carrier is left
behind.
-/

namespace Mstpd

open Bridge Machine

/-- The port whose link an operation creates, removes or switches. -/
def Op.linkOf : Op → Option PortRef
  | .createPort p .. => some p
  | .deletePort p => some p
  | .setPortEnable p .. => some p
  | _ => none

section Links

variable {env : Env} {br b br' : Bridge}

theorem Ending.up (h : Ending env b br') : Frame besideUp b br' := by
  cases h with
  | stay h => exact h ▸ Frame.refl _ _
  | run h => exact brRun_up h
  | restart h => exact brBegin_up h

theorem createMsti_enabled {mstid : UInt16} {ok : Bool}
    (h : mstpInCreateMsti env mstid br = some (br', ok)) (q : PortRef) :
    (br'.port q).portEnabled = (br.port q).portEnabled := by
  rcases createMsti_cases h with rfl | ⟨trees, -, -, htrees, hbegin⟩
  · rfl
  · rw [treeBegin_eq] at hbegin
    have hmem : mstid ∈ (addTree mstid trees br).trees :=
      (insertAfterLast_mem htrees mstid).mpr (Or.inl rfl)
    have hstart : Frame besideUp (addTree mstid trees br) _ := (treeBegin_machines hmem).mono
    exact (hstart.trans (brRun_up hbegin)).port_eq Port.portEnabled (fun _ => rfl) q

theorem deleteMsti_enabled {mstid : UInt16} {ok : Bool}
    (h : mstpInDeleteMsti env mstid br = some (br', ok)) (q : PortRef) :
    (br'.port q).portEnabled = (br.port q).portEnabled := by
  rcases deleteMsti_cases h with rfl | ⟨-, hrun⟩
  · rfl
  · exact (brRun_up hrun).port_eq Port.portEnabled (fun _ => rfl) q

instance : rxOwned.Within besideUp :=
  ⟨fun _ => rfl, fun _ => rfl, fun _ => rfl, fun _ => rfl, fun _ _ => rfl⟩

instance : refusedOwned.Within besideUp :=
  ⟨fun _ => rfl, fun _ => rfl, fun _ => rfl, fun _ => rfl, fun _ _ => rfl⟩

theorem rxBpdu_up {p : PortRef} {bpdu : Mem} {size : Nat}
    (h : mstpInRxBpdu env p bpdu size br = some br') : Frame besideUp br br' := by
  rcases rxBpdu_ending h with hrefused | ⟨b, version, mstis, hcount, -, -, hrun⟩
  · exact hrefused.mono
  · exact (hcount.mono.trans (acceptBpdu_frame p bpdu version mstis b).mono).trans (brRun_up hrun)

theorem allFidsFlushed_up {p : PortRef} {t : Mstid}
    (h : mstpInAllFidsFlushed env p t br = some br') : Frame besideUp br br' := by
  have hflush : Frame besideUp br (br.setPtp p t fun ptp => { ptp with fdbFlush := false }) :=
    Frame.setPtp fun _ => rfl
  rw [mstpInAllFidsFlushed] at h
  split at h
  · obtain ⟨b, hb, hrun⟩ := Option.bind_eq_some_iff.mp h
    have htcsm : Frame besideUp br b := by
      refine run_inv (fun c c' _ hc hstep => ?_) hflush hb
      obtain ⟨s, -, heq⟩ := Option.map_eq_some_iff.mp hstep
      have hto : tcsmTo p t s c = c' := (Prod.mk.inj heq).1
      have hmachine : Frame machinesOwned c (tcsmTo p t s c) := (tcsmTo_frame p t s c).mono
      exact hto ▸ hc.trans hmachine.mono
    exact htcsm.trans (brRun_up hrun)
  · exact Option.some.inj h ▸ hflush

/-- No other link changes. -/
theorem exec_enabled {op : Op} {ok : Bool} {q : PortRef} (h : exec env br op = some (br', ok))
    (hq : op.linkOf ≠ some q) : (br'.port q).portEnabled = (br.port q).portEnabled := by
  have framed : Frame besideUp br br' → (br'.port q).portEnabled = (br.port q).portEnabled :=
    fun hframe => hframe.port_eq Port.portEnabled (fun _ => rfl) q
  by_cases hop : op.management = true
  · obtain ⟨b, hb, hend⟩ := exec_management hop h
    exact framed (hb.frame.mono.trans hend.up)
  · cases op with
    | createPort p portno name speed duplex =>
      have hne : q ≠ p := fun heq => hq (heq ▸ rfl)
      cases ok with
      | true => exact (createPort_up h).1.others q hne
      | false =>
        rw [exec, mstpInPortCreateAndAddTail] at h
        split at h
        · obtain ⟨b, -, hb⟩ := Option.map_eq_some_iff.mp h
          cases hb
        · cases h
          rfl
    | deletePort p => exact (deletePort_up (map_true h)).1.others q fun heq => hq (heq ▸ rfl)
    | setBridgeEnable up => exact (setBridgeEnable_up (map_true h)).2.2 q
    | setPortEnable p up speed duplex =>
      exact (setPortEnable_up (map_true h)).1.others q fun heq => hq (heq ▸ rfl)
    | oneSecond => exact framed (oneSecond_up (map_true h))
    | allFidsFlushed p t => exact framed (allFidsFlushed_up (map_true h))
    | rxBpdu p bpdu size => exact framed (rxBpdu_up (map_true h))
    | createMsti mstid => exact createMsti_enabled h q
    | deleteMsti mstid => exact deleteMsti_enabled h q
    | _ => exact absurd rfl hop

end Links

namespace Harness

/-! ## What is sent -/

/-- A frame that the ports could send in this state. -/
structure Departs (h : State) (f : QueuedFrame) : Prop where
  src : portHandleOk f.src h = true
  dst : portHandleOk f.dst h = true
  peer : (h.ports f.src).peer = f.dst
  cable : (h.ports f.src).cable = f.cable

/-- Nothing has changed but frames that have been sent. -/
structure Sent (h h' : State) : Prop where
  bridges : h'.bridges = h.bridges
  ports : h'.ports = h.ports
  handed : h'.handed = h.handed
  cables : h'.cables = h.cables
  queue : ∀ f ∈ h'.queue, f ∈ h.queue ∨ Departs h f

section Sending

variable {o : Outside} {h h' h'' : State} {p q brh : Int} {op : Op} {ok : Bool}

theorem Sent.refl (h : State) : Sent h h := ⟨rfl, rfl, rfl, rfl, fun _ => Or.inl⟩

theorem portHandleOk_congr (hports : h'.ports = h.ports) :
    portHandleOk p h' = portHandleOk p h := by
  rw [portHandleOk, portHandleOk, hports]

theorem Departs.congr {f : QueuedFrame} (hports : h'.ports = h.ports) (hf : Departs h f) :
    Departs h' f where
  src := (portHandleOk_congr hports).trans hf.src
  dst := (portHandleOk_congr hports).trans hf.dst
  peer := hports ▸ hf.peer
  cable := hports ▸ hf.cable

theorem Sent.trans (h₁ : Sent h h') (h₂ : Sent h' h'') : Sent h h'' where
  bridges := h₂.bridges.trans h₁.bridges
  ports := h₂.ports.trans h₁.ports
  handed := h₂.handed.trans h₁.handed
  cables := h₂.cables.trans h₁.cables
  queue f hf := by
    rcases h₂.queue f hf with hold | hnew
    · exact h₁.queue f hold
    · exact Or.inr (hnew.congr h₁.ports.symm)

theorem frameEnqueue_sent {src dst : Int} {data : Mem} {len : Nat}
    (hsrc : portHandleOk src h = true) (hdst : portHandleOk dst h = true)
    (hpeer : (h.ports src).peer = dst) : Sent h (frameEnqueue o src dst data len h) := by
  rw [frameEnqueue]
  dsimp only
  split
  · exact ⟨rfl, rfl, rfl, rfl, fun _ => Or.inl⟩
  · refine ⟨rfl, rfl, rfl, rfl, fun f hf => ?_⟩
    rcases List.mem_append.mp hf with hold | hnew
    · exact Or.inl hold
    · rw [List.mem_singleton.mp hnew]
      exact Or.inr ⟨hsrc, hdst, hpeer, rfl⟩

theorem mstpOutTxBpdu_sent (porth : Int) (bpdu : Bpdu) (size : Nat) (h : State) :
    Sent h (mstpOutTxBpdu o porth bpdu size h) := by
  rw [mstpOutTxBpdu]
  split
  · exact Sent.refl h
  · rename_i hsrc
    split
    · exact Sent.refl h
    · dsimp only
      split
      · exact Sent.refl h
      · rename_i hdst
        exact frameEnqueue_sent (by simpa using hsrc) (by simpa using hdst) rfl

theorem mstpOut_sent {call : MstpOut} (hc : mstpOut o call h = some h') : Sent h h' := by
  cases call with
  | txBpdu p bpdu size =>
    obtain rfl := Option.some.inj hc
    exact mstpOutTxBpdu_sent p bpdu size h
  | _ =>
    obtain rfl := Option.some.inj hc
    exact Sent.refl h

/-- The state with the new core of a bridge, before the calls of the core are carried out. -/
def putCore (brh : Int) (b : BridgeSlot) (core : Bridge) (h : State) : State :=
  setBridge brh (some { b with core := { core with out := [] } }) { h with asked := h.asked + 1 }

theorem callCore_cases {out : MstpOut → State → Option State}
    (hc : callCore o out op brh h = some (h', ok)) :
    ∃ b core, h.bridges brh = some b ∧
      exec (o.env h.asked) { b.core with out := [] } op = some (core, ok) ∧
      forEach out core.out.reverse (putCore brh b core h) = some h' := by
  obtain ⟨b, hb, hc⟩ := Option.bind_eq_some_iff.mp hc
  obtain ⟨⟨core, ok'⟩, hcore, hc⟩ := Option.bind_eq_some_iff.mp hc
  obtain ⟨h₁, hout, heq⟩ := Option.map_eq_some_iff.mp hc
  obtain ⟨rfl, rfl⟩ := Prod.mk.inj heq
  exact ⟨b, core, hb, hcore, hout⟩

theorem callCore_sent (hc : callCore o (mstpOut o) op brh h = some (h', ok)) :
    ∃ b core, h.bridges brh = some b ∧
      exec (o.env h.asked) { b.core with out := [] } op = some (core, ok) ∧
      Sent (putCore brh b core h) h' := by
  obtain ⟨b, core, hb, hcore, hout⟩ := callCore_cases hc
  exact ⟨b, core, hb, hcore,
    forEach_inv (fun _ _ _ _ hs hcall => hs.trans (mstpOut_sent hcall)) (Sent.refl _) hout⟩

theorem callCore_ports (hc : callCore o (mstpOut o) op brh h = some (h', ok)) :
    h'.ports = h.ports := by
  obtain ⟨b, core, -, -, hsent⟩ := callCore_sent hc
  exact hsent.ports

end Sending

/-! ## Ports and cores -/

/-- `sysdeps.up` of a port. -/
def upAt (h : State) (p : Int) : Bool := (h.ports p).prt.any PortSysdeps.up

/-- The core of a port agrees about its carrier. -/
def Agrees (h : State) (p : Int) : Prop :=
  ∃ b, h.bridges (h.ports p).brh = some b ∧ (b.core.port (portRef p)).portEnabled = upAt h p

section Cores

variable {o : Outside} {h h' : State} {p q brh : Int} {op : Op} {ok : Bool}

theorem portRef_inj (hp : 0 ≤ p) (hq : 0 ≤ q) (heq : portRef p = portRef q) : p = q := by
  have hnat : p.toNat = q.toNat := heq
  omega

theorem handle_range (hp : portHandleOk p h = true) : 0 ≤ p ∧ p < maxPorts := by
  have hrange := (Bool.and_eq_true_iff.mp hp).1
  exact of_decide_eq_true hrange

theorem agrees_putCore {b : BridgeSlot} {core : Bridge} {ok : Bool} {env : Env}
    (hb : h.bridges brh = some b) (hcore : exec env { b.core with out := [] } op = some (core, ok))
    (hother : (h.ports q).brh = brh → op.linkOf ≠ some (portRef q)) (hq : Agrees h q) :
    Agrees (putCore brh b core h) q := by
  obtain ⟨c, hc, hen⟩ := hq
  by_cases hthis : (h.ports q).brh = brh
  · refine ⟨_, if_pos hthis, ?_⟩
    have hkept := exec_enabled hcore (hother hthis)
    rw [hthis, hb] at hc
    obtain rfl := Option.some.inj hc
    exact hkept.trans hen
  · exact ⟨c, (if_neg hthis).trans hc, hen⟩

theorem Agrees.sent (hs : Sent h h') (hq : Agrees h q) : Agrees h' q := by
  rw [Agrees, upAt, hs.ports, hs.bridges]
  exact hq

/-- A call into the core keeps the agreement of every port that it is not about. -/
theorem callCore_agrees (hc : callCore o (mstpOut o) op brh h = some (h', ok))
    (hother : (h.ports q).brh = brh → op.linkOf ≠ some (portRef q)) (hq : Agrees h q) :
    Agrees h' q := by
  obtain ⟨b, core, hb, hcore, hsent⟩ := callCore_sent hc
  exact (agrees_putCore hb hcore hother hq).sent hsent

end Cores

/-! ## Carriers -/

/-- A slot without what `sync_carrier` writes. -/
def besideUpSlot (s : PortSlot) : PortSlot :=
  { s with prt := s.prt.map fun x => { x with up := false } }

/-- The slots are the same but for the carriers. -/
def SlotsKept (h h' : State) : Prop := ∀ p, besideUpSlot (h'.ports p) = besideUpSlot (h.ports p)

namespace SlotsKept

variable {h h' h'' : State} {p : Int}

theorem of_eq (hports : h'.ports = h.ports) : SlotsKept h h' := fun _ => by rw [hports]

theorem trans (h₁ : SlotsKept h h') (h₂ : SlotsKept h' h'') : SlotsKept h h'' :=
  fun p => (h₂ p).trans (h₁ p)

theorem peer (hs : SlotsKept h h') (p : Int) : (h'.ports p).peer = (h.ports p).peer :=
  (congrArg PortSlot.peer (hs p) :)

theorem adminUp (hs : SlotsKept h h') (p : Int) : (h'.ports p).adminUp = (h.ports p).adminUp :=
  (congrArg PortSlot.adminUp (hs p) :)

theorem brh (hs : SlotsKept h h') (p : Int) : (h'.ports p).brh = (h.ports p).brh :=
  (congrArg PortSlot.brh (hs p) :)

theorem cable (hs : SlotsKept h h') (p : Int) : (h'.ports p).cable = (h.ports p).cable :=
  (congrArg PortSlot.cable (hs p) :)

theorem isSome (hs : SlotsKept h h') (p : Int) :
    (h'.ports p).prt.isSome = (h.ports p).prt.isSome := by
  have hsame := congrArg (fun s => s.prt.isSome) (hs p)
  simpa [besideUpSlot] using hsame

theorem handleOk (hs : SlotsKept h h') (p : Int) : portHandleOk p h' = portHandleOk p h := by
  rw [portHandleOk, portHandleOk, hs.isSome]

theorem carrier (hs : SlotsKept h h') (p : Int) : portCarrier h' p = portCarrier h p := by
  simp only [portCarrier, hs.peer, hs.adminUp, hs.handleOk]

theorem free (hs : SlotsKept h h') (hp : (h.ports p).prt = none) : h'.ports p = h.ports p := by
  have hnone : (h'.ports p).prt = none := by
    have hsome := hs.isSome p
    rw [hp] at hsome
    exact Option.isNone_iff_eq_none.mp (by simpa using hsome)
  have hbeside : ∀ s : PortSlot, s.prt = none → besideUpSlot s = s := by
    rintro ⟨prt, brh, peer, adminUp, mute, cable⟩ (rfl : prt = none)
    rfl
  rw [← hbeside _ hnone, ← hbeside _ hp]
  exact hs p

end SlotsKept

/-- Nothing has changed but the carriers, the cores and the queue. -/
structure Quiet (h h' : State) : Prop where
  slots : SlotsKept h h'
  handed : h'.handed = h.handed
  cables : h'.cables = h.cables
  queue : ∀ f ∈ h'.queue, f ∈ h.queue ∨ Departs h f

namespace Quiet

variable {h h' h'' : State} {f : QueuedFrame}

theorem departs (hq : Quiet h h') (hf : Departs h' f) : Departs h f where
  src := (hq.slots.handleOk _).symm.trans hf.src
  dst := (hq.slots.handleOk _).symm.trans hf.dst
  peer := (hq.slots.peer _).symm.trans hf.peer
  cable := (hq.slots.cable _).symm.trans hf.cable

theorem trans (h₁ : Quiet h h') (h₂ : Quiet h' h'') : Quiet h h'' where
  slots := h₁.slots.trans h₂.slots
  handed := h₂.handed.trans h₁.handed
  cables := h₂.cables.trans h₁.cables
  queue f hf := by
    rcases h₂.queue f hf with hold | hnew
    · exact h₁.queue f hold
    · exact Or.inr (h₁.departs hnew)

theorem refl (h : State) : Quiet h h := ⟨fun _ => rfl, rfl, rfl, fun _ => Or.inl⟩

end Quiet

theorem Sent.quiet {h h' : State} (hs : Sent h h') : Quiet h h' :=
  ⟨SlotsKept.of_eq hs.ports, hs.handed, hs.cables, hs.queue⟩

/-- Cables join two different ports, and a free slot that has been used is not cabled. -/
structure Cabling (h : State) : Prop where
  peers : ∀ p, portHandleOk p h = true → (h.ports p).peer = -1 ∨
    (portHandleOk (h.ports p).peer h = true ∧ (h.ports (h.ports p).peer).peer = p ∧
      (h.ports p).peer ≠ p)
  free : ∀ p, portHandleOk p h = false →
    (h.ports p).adminUp = false ∧ ((h.ports p).peer = -1 ∨ h.ports p = {})

/-- The ports outside `S` have their carrier, and those outside `C` agree with their core. -/
structure Settled (S C : Set Int) (h : State) : Prop extends Cabling h where
  carrier : ∀ p, portHandleOk p h = true → p ∉ S → upAt h p = portCarrier h p
  core : ∀ p, portHandleOk p h = true → p ∉ C → Agrees h p

section Carriers

variable {o : Outside} {h h' : State} {a b p q : Int} {S T C D : Set Int}

theorem minus_one_free (h : State) : portHandleOk (-1) h = false := by
  simp [portHandleOk]

theorem Cabling.kept (hc : Cabling h) (hs : SlotsKept h h')
    (hfree : ∀ p, portHandleOk p h = false → h'.ports p = h.ports p) : Cabling h' where
  peers p hp := by
    rw [hs.handleOk] at hp
    rw [hs.peer, hs.handleOk, hs.peer]
    exact hc.peers p hp
  free p hp := by
    rw [hs.handleOk] at hp
    rw [hfree p hp]
    exact hc.free p hp

theorem Settled.mono (hS : Settled S C h) (hsub : S ⊆ T) (hcore : C ⊆ D) : Settled T D h where
  toCabling := hS.toCabling
  carrier p hp hT := hS.carrier p hp fun hp' => hT (hsub hp')
  core p hp hD := hS.core p hp fun hp' => hD (hcore hp')

/-- The slot of a port with its carrier, and without the frames of a port that loses it. -/
def withCarrier (p : Int) (sysdeps : PortSysdeps) (h : State) : State :=
  let up := portCarrier h p
  let h' := setSlot p (fun s => { s with prt := some { sysdeps with up := up } }) h
  if up != sysdeps.up && !up then framePurgeDst p h' else h'

theorem refreshCarrier_cases (p : Int) (h : State) :
    refreshCarrier p h = (h, false) ∧ portHandleOk p h = false ∨
    ∃ sysdeps, (h.ports p).prt = some sysdeps ∧ portHandleOk p h = true ∧
      refreshCarrier p h = (withCarrier p sysdeps h, portCarrier h p != sysdeps.up) := by
  rw [refreshCarrier]
  split
  · rename_i hnone
    exact Or.inl ⟨rfl, by simp [portHandleOk, hnone]⟩
  · rename_i sysdeps hsome
    split
    · rename_i hbad
      exact Or.inl ⟨rfl, by simpa using hbad⟩
    · rename_i hok
      exact Or.inr ⟨sysdeps, hsome, by simpa using hok, rfl⟩

theorem withCarrier_ports (p : Int) (sysdeps : PortSysdeps) (h : State) :
    (withCarrier p sysdeps h).ports = fun i =>
      if i = p then { h.ports i with prt := some { sysdeps with up := portCarrier h p } }
      else h.ports i := by
  rw [withCarrier]
  dsimp only
  split <;> rfl

theorem withCarrier_quiet {sysdeps : PortSysdeps} (hp : (h.ports p).prt = some sysdeps) :
    Quiet h (withCarrier p sysdeps h) ∧ (withCarrier p sysdeps h).bridges = h.bridges := by
  have hslots : SlotsKept h (withCarrier p sysdeps h) := by
    intro i
    rw [withCarrier_ports]
    dsimp only
    split
    · rename_i hi
      rw [hi, besideUpSlot, besideUpSlot, hp]
      rfl
    · rfl
  rw [withCarrier] at hslots ⊢
  split at hslots
  · rename_i hdown
    rw [if_pos hdown]
    exact ⟨⟨hslots, rfl, rfl, fun f hf => Or.inl (List.mem_filter.mp hf).1⟩, rfl⟩
  · rename_i hkept
    rw [if_neg hkept]
    exact ⟨⟨hslots, rfl, rfl, fun f hf => Or.inl hf⟩, rfl⟩

theorem refreshCarrier_quiet (p : Int) (h : State) :
    Quiet h (refreshCarrier p h).1 ∧ (refreshCarrier p h).1.bridges = h.bridges := by
  rcases refreshCarrier_cases p h with ⟨heq, -⟩ | ⟨sysdeps, hsome, -, heq⟩
  · rw [heq]
    exact ⟨Quiet.refl h, rfl⟩
  · rw [heq]
    exact withCarrier_quiet hsome

/-- A refreshed port has its carrier, and nothing has been written where none has changed. -/
theorem refreshCarrier_up (p : Int) (h : State) :
    (∀ q, q ≠ p ∨ portHandleOk q h = false → (refreshCarrier p h).1.ports q = h.ports q) ∧
    (portHandleOk p h = true → upAt (refreshCarrier p h).1 p = portCarrier h p) ∧
    ((refreshCarrier p h).2 = false → (refreshCarrier p h).1.ports = h.ports) ∧
    ((refreshCarrier p h).2 = true → portHandleOk p h = true) := by
  rcases refreshCarrier_cases p h with ⟨heq, hbad⟩ | ⟨sysdeps, hsome, hok, heq⟩
  · rw [heq]
    refine ⟨fun _ _ => rfl, fun hok => ?_, fun _ => rfl, fun hc => ?_⟩
    · rw [hbad] at hok
      cases hok
    · cases hc
  · rw [heq]
    refine ⟨fun q hq => ?_, fun _ => ?_, fun hsame => ?_, fun _ => hok⟩
    · have hne : q ≠ p := by
        rintro rfl
        rcases hq with hq | hq
        · exact hq rfl
        · rw [hok] at hq
          cases hq
      rw [withCarrier_ports]
      exact if_neg hne
    · rw [upAt, withCarrier_ports]
      simp
    · have hup : portCarrier h p = sysdeps.up := by simpa using hsame
      rw [withCarrier_ports, hup]
      funext i
      split
      · rename_i hi
        rw [hi, ← hsome]
      · rfl

theorem callCore_quiet {op : Op} {brh : Int} {ok : Bool}
    (hc : callCore o (mstpOut o) op brh h = some (h', ok)) : Quiet h h' := by
  obtain ⟨b, core, -, -, hsent⟩ := callCore_sent hc
  refine ⟨SlotsKept.of_eq hsent.ports, hsent.handed, hsent.cables, fun f hf => ?_⟩
  rcases hsent.queue f hf with hold | hnew
  · exact Or.inl hold
  · have hports : h.ports = (putCore brh b core h).ports := rfl
    exact Or.inr (hnew.congr hports)

theorem enablePort_quiet (hc : enablePort o p h = some h') : Quiet h h' := by
  obtain ⟨b, -, hc⟩ := Option.bind_eq_some_iff.mp hc
  obtain ⟨⟨h₁, ok⟩, hcall, rfl⟩ := Option.map_eq_some_iff.mp hc
  exact callCore_quiet hcall

theorem enableIf_quiet {c : Bool} (hc : (if c then enablePort o p h else some h) = some h') :
    Quiet h h' := by
  split at hc
  · exact enablePort_quiet hc
  · exact Option.some.inj hc ▸ Quiet.refl h

/-- `sync_carrier` sends and purges, and leaves the cables alone. -/
theorem syncCarrier_quiet (hc : syncCarrier o a b h = some h') : Quiet h h' := by
  obtain ⟨h₁, hcA, hcB⟩ := Option.bind_eq_some_iff.mp hc
  have hrefreshed := (refreshCarrier_quiet a h).1.trans (refreshCarrier_quiet b _).1
  exact (hrefreshed.trans (enableIf_quiet hcA)).trans (enableIf_quiet hcB)

/-- The core of the port is told, and no other port notices. -/
theorem enablePort_spec (hok : portHandleOk p h = true) (hc : enablePort o p h = some h') :
    h'.ports = h.ports ∧ Agrees h' p ∧
      ∀ q, portHandleOk q h = true → Agrees h q → Agrees h' q := by
  obtain ⟨b, hb, hc⟩ := Option.bind_eq_some_iff.mp hc
  obtain ⟨⟨h₁, ok⟩, hcall, rfl⟩ := Option.map_eq_some_iff.mp hc
  obtain ⟨c, core, hcb, hcore, hsent⟩ := callCore_sent hcall
  have hthis : Agrees h₁ p := by
    refine Agrees.sent (h := putCore (h.ports p).brh c core h) hsent ⟨_, if_pos rfl, ?_⟩
    exact (setPortEnable_up (map_true hcore)).2.2
  refine ⟨hsent.ports, hthis, fun q hq hagree => ?_⟩
  by_cases hqp : q = p
  · exact hqp ▸ hthis
  · refine callCore_agrees hcall (fun _ heq => hqp ?_) hagree
    exact (portRef_inj (handle_range hok).1 (handle_range hq).1 (Option.some.inj heq)).symm

theorem Agrees.of_slot (hslot : h'.ports q = h.ports q) (hbridges : h'.bridges = h.bridges)
    (hq : Agrees h q) : Agrees h' q := by
  rw [Agrees, upAt, hslot, hbridges]
  exact hq

/-- A refreshed port has its carrier; where it has changed, the core has to be told. -/
theorem Settled.refresh (hS : Settled S C h) (p : Int) :
    Settled (S \ {p}) (C ∪ {q | q = p ∧ (refreshCarrier p h).2 = true}) (refreshCarrier p h).1 := by
  obtain ⟨hquiet, hbridges⟩ := refreshCarrier_quiet p h
  obtain ⟨hother, hup, hsame, -⟩ := refreshCarrier_up p h
  refine ⟨hS.kept hquiet.slots fun q hq => hother q (Or.inr hq), fun q hq hout => ?_,
    fun q hq hout => ?_⟩
  · rw [hquiet.slots.handleOk] at hq
    rw [hquiet.slots.carrier]
    by_cases hqp : q = p
    · rw [hqp] at hq ⊢
      exact hup hq
    · rw [upAt, hother q (Or.inl hqp)]
      exact hS.carrier q hq fun hqS => hout ⟨hqS, hqp⟩
  · rw [hquiet.slots.handleOk] at hq
    have hqC : Agrees h q := hS.core q hq fun hin => hout (Or.inl hin)
    by_cases hqp : q = p
    · have hchanged : (refreshCarrier p h).2 = false := by
        by_contra hne
        exact hout (Or.inr ⟨hqp, by simpa using hne⟩)
      exact hqC.of_slot (congrFun (hsame hchanged) q) hbridges
    · exact hqC.of_slot (hother q (Or.inl hqp)) hbridges

/-- One turn of the second loop of `sync_carrier`. -/
theorem Settled.enableIf {c : Bool} (hok : c = true → portHandleOk p h = true)
    (hS : Settled S (C ∪ {q | q = p ∧ c = true}) h)
    (hc : (if c then enablePort o p h else some h) = some h') : Settled S C h' := by
  have hquiet := enableIf_quiet hc
  cases c with
  | false =>
    obtain rfl := Option.some.inj hc
    refine ⟨hS.toCabling, hS.carrier, fun q hq hout => hS.core q hq ?_⟩
    rintro (hin | ⟨-, hfalse⟩)
    · exact hout hin
    · cases hfalse
  | true =>
    obtain ⟨hports, hthis, hothers⟩ := enablePort_spec (hok rfl) hc
    refine ⟨hS.kept hquiet.slots fun q _ => congrFun hports q, fun q hq hout => ?_,
      fun q hq hout => ?_⟩
    · rw [hquiet.slots.handleOk] at hq
      rw [hquiet.slots.carrier, upAt, hports]
      exact hS.carrier q hq hout
    · rw [hquiet.slots.handleOk] at hq
      by_cases hqp : q = p
      · exact hqp ▸ hthis
      · refine hothers q hq (hS.core q hq ?_)
        rintro (hin | ⟨heq, -⟩)
        · exact hout hin
        · exact hqp heq

/-- `sync_carrier` settles its two ports. -/
theorem Settled.syncCarrier (hS : Settled S C h) (hc : syncCarrier o a b h = some h') :
    Settled (S \ {a, b}) C h' := by
  have hfirst := hS.refresh a
  have hquietA := (refreshCarrier_quiet a h).1
  have hliveA := (refreshCarrier_up a h).2.2.2
  rw [Harness.syncCarrier] at hc
  generalize refreshCarrier a h = ra at *
  obtain ⟨h₁, changedA⟩ := ra
  have hsecond := hfirst.refresh b
  have hquietB := (refreshCarrier_quiet b h₁).1
  have hliveB := (refreshCarrier_up b h₁).2.2.2
  dsimp only at hc hsecond
  generalize refreshCarrier b h₁ = rb at *
  obtain ⟨h₂, changedB⟩ := rb
  obtain ⟨h₃, hcA, hcB⟩ := Option.bind_eq_some_iff.mp hc
  have hboth : Settled (S \ {a, b}) (C ∪ {q | q = b ∧ changedB = true} ∪
      {q | q = a ∧ changedA = true}) h₂ := by
    rw [Set.union_right_comm]
    exact hsecond.mono (fun q hq => ⟨hq.1.1, fun hin => hin.elim hq.1.2 hq.2⟩) subset_rfl
  have hokA : changedA = true → portHandleOk a h₂ = true := fun hchanged =>
    (hquietB.slots.handleOk a).trans ((hquietA.slots.handleOk a).trans (hliveA hchanged))
  have hokB : changedB = true → portHandleOk b h₃ = true := fun hchanged =>
    ((enableIf_quiet hcA).slots.handleOk b).trans
      ((hquietB.slots.handleOk b).trans (hliveB hchanged))
  exact Settled.enableIf hokB (Settled.enableIf hokA hboth hcA) hcB

end Carriers

/-! ## Cables -/

section Cables

variable {o : Outside} {h h' h₁ h₂ : State} {a b p q brh : Int} {S T C D : Set Int} {up ok : Bool}
  {f : PortSlot → PortSlot}

@[simp] theorem setSlot_self (p : Int) (f : PortSlot → PortSlot) (h : State) :
    (setSlot p f h).ports p = f (h.ports p) := if_pos rfl

@[simp] theorem setSlot_of_ne (hq : q ≠ p) (f : PortSlot → PortSlot) (h : State) :
    (setSlot p f h).ports q = h.ports q := if_neg hq

theorem setSlot_handleOk (hf : (f (h.ports p)).prt.isSome = (h.ports p).prt.isSome) :
    portHandleOk q (setSlot p f h) = portHandleOk q h := by
  rw [portHandleOk, portHandleOk]
  by_cases hq : q = p
  · rw [hq, setSlot_self, hf]
  · rw [setSlot_of_ne hq]

/-- A live port has no negative handle. -/
theorem ne_minus_one (hp : portHandleOk p h = true) : p ≠ -1 := by
  rintro rfl
  rw [minus_one_free] at hp
  cases hp

theorem ne_of_free (hp : portHandleOk p h = true) (hq : portHandleOk q h = false) : q ≠ p := by
  rintro rfl
  rw [hp] at hq
  cases hq

/-- What the carrier of a port depends on. -/
theorem portCarrier_congr (hadmin : (h'.ports q).adminUp = (h.ports q).adminUp)
    (hpeer : (h'.ports q).peer = (h.ports q).peer)
    (hlive : portHandleOk (h.ports q).peer h' = portHandleOk (h.ports q).peer h)
    (hend : portHandleOk (h.ports q).peer h = true →
      (h'.ports (h.ports q).peer).adminUp = (h.ports (h.ports q).peer).adminUp) :
    portCarrier h' q = portCarrier h q := by
  simp only [portCarrier, hadmin, hpeer, hlive]
  split
  · rfl
  · split
    · rfl
    · rename_i hok
      exact hend (by simpa using hok)

theorem Settled.congr (hS : Settled S C h) (hports : h'.ports = h.ports)
    (hbridges : h'.bridges = h.bridges) : Settled S C h' where
  toCabling := hS.toCabling.kept (SlotsKept.of_eq hports) fun q _ => congrFun hports q
  carrier q hq hout := by
    rw [portHandleOk_congr hports] at hq
    rw [upAt, hports, (SlotsKept.of_eq hports).carrier]
    exact hS.carrier q hq hout
  core q hq hout := by
    rw [portHandleOk_congr hports] at hq
    exact (hS.core q hq hout).of_slot (congrFun hports q) hbridges

theorem Settled.callCore {op : Op} (hS : Settled S C h)
    (hop : ∀ q, portHandleOk q h = true → q ∉ C → (h.ports q).brh = brh →
      op.linkOf ≠ some (portRef q))
    (hc : callCore o (mstpOut o) op brh h = some (h', ok)) : Settled S C h' := by
  have hports := callCore_ports hc
  refine ⟨hS.kept (SlotsKept.of_eq hports) fun q _ => congrFun hports q, fun q hq hout => ?_,
    fun q hq hout => ?_⟩
  · rw [portHandleOk_congr hports] at hq
    rw [upAt, hports, (SlotsKept.of_eq hports).carrier]
    exact hS.carrier q hq hout
  · rw [portHandleOk_congr hports] at hq
    exact callCore_agrees hc (hop q hq hout) (hS.core q hq hout)

/-- The other end of the cable of a live port. -/
theorem Cabling.other (hc : Cabling h) (hp : portHandleOk p h = true)
    (hpeer : portHandleOk (h.ports p).peer h = true) :
    (h.ports (h.ports p).peer).peer = p ∧ (h.ports p).peer ≠ p := by
  rcases hc.peers p hp with hnone | ⟨-, hback, hne⟩
  · exact absurd hnone (ne_minus_one hpeer)
  · exact ⟨hback, hne⟩

/-! ### A port is pulled out -/

/-- The slots of both ends lose the cable, and no others. -/
theorem unplug_ports (p : Int) (h : State) (q : Int) : (unplug p h).1.ports q =
    if q = p ∨ q = (h.ports p).peer ∧ portHandleOk q h = true then clearPeer (h.ports q)
    else h.ports q := by
  have hlive : ∀ r, portHandleOk r (setSlot p clearPeer h) = portHandleOk r h :=
    fun r => setSlot_handleOk rfl
  rw [unplug]
  dsimp only
  rw [hlive]
  by_cases hpeer : portHandleOk (h.ports p).peer h = true
  · rw [if_pos hpeer]
    by_cases hq : q = (h.ports p).peer
    · rw [if_pos (Or.inr ⟨hq, hq ▸ hpeer⟩), ← hq, setSlot_self]
      by_cases hqp : q = p
      · rw [hqp, setSlot_self]
        rfl
      · rw [setSlot_of_ne hqp]
    · rw [setSlot_of_ne hq]
      by_cases hqp : q = p
      · rw [if_pos (Or.inl hqp), hqp, setSlot_self]
      · rw [if_neg (fun hor => hor.elim hqp fun hand => hq hand.1), setSlot_of_ne hqp]
  · rw [if_neg hpeer]
    by_cases hqp : q = p
    · rw [if_pos (Or.inl hqp), hqp, setSlot_self]
    · have hno : ¬ (q = p ∨ q = (h.ports p).peer ∧ portHandleOk q h = true) := by
        rintro (heq | ⟨rfl, hok⟩)
        · exact hqp heq
        · exact hpeer hok
      rw [if_neg hno, setSlot_of_ne hqp]

/-- Only the cable and the muteness of a slot have changed. -/
theorem unplug_slot (p : Int) (h : State) (q : Int) :
    (unplug p h).1.ports q = clearPeer (h.ports q) ∨ (unplug p h).1.ports q = h.ports q := by
  rw [unplug_ports]
  split
  · exact Or.inl rfl
  · exact Or.inr rfl

theorem unplug_rest (p : Int) (h : State) : (unplug p h).1.bridges = h.bridges ∧
    (unplug p h).1.queue = h.queue ∧ (unplug p h).1.handed = h.handed ∧
    (unplug p h).1.cables = h.cables := by
  rw [unplug]
  dsimp only
  split <;> exact ⟨rfl, rfl, rfl, rfl⟩

theorem unplug_handleOk (p : Int) (h : State) (q : Int) :
    portHandleOk q (unplug p h).1 = portHandleOk q h := by
  rw [portHandleOk, portHandleOk]
  rcases unplug_slot p h q with heq | heq <;> simp only [heq, clearPeer]

theorem unplug_adminUp (p : Int) (h : State) (q : Int) :
    ((unplug p h).1.ports q).adminUp = (h.ports q).adminUp := by
  rcases unplug_slot p h q with heq | heq <;> simp only [heq, clearPeer]

theorem Cabling.unplug (hc : Cabling h) (hp : portHandleOk p h = true) :
    Cabling (unplug p h).1 where
  peers q hq := by
    rw [unplug_handleOk] at hq
    by_cases hend : q = p ∨ q = (h.ports p).peer ∧ portHandleOk q h = true
    · rw [unplug_ports, if_pos hend]
      exact Or.inl rfl
    · have hslot : (Harness.unplug p h).1.ports q = h.ports q := by rw [unplug_ports, if_neg hend]
      rw [hslot, unplug_handleOk]
      refine (hc.peers q hq).imp_right fun ⟨hlive, hback, hne⟩ => ⟨hlive, ?_, hne⟩
      have hother : ¬ ((h.ports q).peer = p ∨
          (h.ports q).peer = (h.ports p).peer ∧ portHandleOk (h.ports q).peer h = true) := by
        rintro (heq | ⟨heq, -⟩)
        · rw [heq] at hback
          exact hend (Or.inr ⟨hback.symm, hq⟩)
        · rw [heq] at hback hlive
          exact hend (Or.inl (hback.symm.trans (hc.other hp hlive).1))
      rw [unplug_ports, if_neg hother]
      exact hback
  free q hq := by
    rw [unplug_handleOk] at hq
    have hend : ¬ (q = p ∨ q = (h.ports p).peer ∧ portHandleOk q h = true) := by
      rintro (heq | ⟨-, hok⟩)
      · exact ne_of_free hp hq heq
      · rw [hq] at hok
        cases hok
    rw [unplug_ports, if_neg hend]
    exact hc.free q hq

theorem Settled.unplug (hS : Settled S C h) (hp : portHandleOk p h = true) :
    Settled (S ∪ {p, (h.ports p).peer}) C (unplug p h).1 := by
  refine ⟨hS.toCabling.unplug hp, fun q hq hout => ?_, fun q hq hout => ?_⟩
  · rw [unplug_handleOk] at hq
    have hend : ¬ (q = p ∨ q = (h.ports p).peer ∧ portHandleOk q h = true) := by
      rintro (heq | ⟨heq, -⟩)
      · exact hout (Or.inr (Or.inl heq))
      · exact hout (Or.inr (Or.inr heq))
    have hslot : (Harness.unplug p h).1.ports q = h.ports q := by rw [unplug_ports, if_neg hend]
    rw [upAt, hslot,
      portCarrier_congr (unplug_adminUp p h q) (by rw [hslot]) (unplug_handleOk p h _)
      fun _ => unplug_adminUp p h _]
    exact hS.carrier q hq fun hin => hout (Or.inl hin)
  · rw [unplug_handleOk] at hq
    obtain ⟨c, hbr, hen⟩ := hS.core q hq hout
    refine ⟨c, ?_, ?_⟩
    · rcases unplug_slot p h q with heq | heq <;> rw [heq, (unplug_rest p h).1] <;> exact hbr
    · rw [hen, upAt, upAt]
      rcases unplug_slot p h q with heq | heq <;> simp only [heq, clearPeer]

theorem unplug_peer (p : Int) (h : State) : ((unplug p h).1.ports p).peer = -1 := by
  rw [unplug_ports, if_pos (Or.inl rfl)]
  rfl

/-! ### A port is freed -/

theorem freeSlot_handleOk (p : Int) (h : State) (q : Int) :
    portHandleOk q (setSlot p freeSlot h) = (portHandleOk q h && q != p) := by
  by_cases hq : q = p
  · rw [hq, portHandleOk, setSlot_self]
    simp [freeSlot]
  · rw [portHandleOk, portHandleOk, setSlot_of_ne hq]
    simp [hq]

theorem Settled.freeSlot (hS : Settled S C h) (hp : portHandleOk p h = true)
    (hpeer : (h.ports p).peer = -1) :
    Settled (S \ {p}) (C \ {p}) (setSlot p freeSlot h) := by
  have hlive : ∀ {q}, portHandleOk q (setSlot p Harness.freeSlot h) = true →
      portHandleOk q h = true ∧ q ≠ p := by
    intro q hq
    rw [freeSlot_handleOk] at hq
    simpa using hq
  -- the port that goes was nobody's peer
  have hnot : ∀ {q}, portHandleOk q h = true → (h.ports q).peer ≠ p := by
    intro q hq heq
    obtain ⟨hback, -⟩ := hS.toCabling.other hq (heq ▸ hp)
    rw [heq, hpeer] at hback
    exact ne_minus_one hq hback.symm
  have hsame : ∀ {r}, r ≠ p →
      portHandleOk r (setSlot p Harness.freeSlot h) = portHandleOk r h := by
    intro r hr
    rw [freeSlot_handleOk]
    simp [hr]
  refine ⟨⟨fun q hq => ?_, fun q hq => ?_⟩, fun q hq hout => ?_, fun q hq hout => ?_⟩
  · obtain ⟨hq, hne⟩ := hlive hq
    rw [setSlot_of_ne hne, hsame (hnot hq), setSlot_of_ne (hnot hq)]
    exact hS.peers q hq
  · by_cases hqp : q = p
    · rw [hqp, setSlot_self]
      exact ⟨rfl, Or.inl hpeer⟩
    · rw [hsame hqp] at hq
      rw [setSlot_of_ne hqp]
      exact hS.free q hq
  · obtain ⟨hq, hne⟩ := hlive hq
    have hslot := setSlot_of_ne hne Harness.freeSlot h
    rw [upAt, hslot, portCarrier_congr (by rw [hslot]) (by rw [hslot]) (hsame (hnot hq))
      fun _ => by rw [setSlot_of_ne (hnot hq)]]
    exact hS.carrier q hq fun hin => hout ⟨hin, hne⟩
  · obtain ⟨hq, hne⟩ := hlive hq
    exact (hS.core q hq fun hin => hout ⟨hin, hne⟩).of_slot (setSlot_of_ne hne _ h) rfl

/-- A port that has been unplugged and deleted, with the carrier of its old peer. -/
theorem removed_settled (hS : Settled ∅ ∅ h) (hp : portHandleOk p h = true)
    (hc : callCore o (mstpOut o) (.deletePort (portRef p)) brh (unplug p h).1 = some (h₁, ok))
    (hports : h₂.ports = (setSlot p freeSlot h₁).ports) (hbridges : h₂.bridges = h₁.bridges)
    (hsync : syncCarrier o (h.ports p).peer (-1) h₂ = some h') :
    Settled ∅ ∅ h' := by
  have hunplugged := hS.unplug hp
  have hlive : ∀ q, portHandleOk q h₁ = portHandleOk q h := fun q =>
    (portHandleOk_congr (callCore_ports hc)).trans (unplug_handleOk p h q)
  have hdeleted : Settled (∅ ∪ {p, (h.ports p).peer}) {p} h₁ := by
    refine (hunplugged.mono subset_rfl (Set.empty_subset _)).callCore
      (fun q hq hne _ heq => hne ?_) hc
    rw [unplug_handleOk] at hq
    exact (portRef_inj (handle_range hp).1 (handle_range hq).1 (Option.some.inj heq)).symm
  have hpeer : (h₁.ports p).peer = -1 := by
    rw [callCore_ports hc]
    exact unplug_peer p h
  have hfreed := hdeleted.freeSlot ((hlive p).trans hp) hpeer
  refine ((hfreed.congr hports hbridges).syncCarrier hsync).mono (fun q hq => ?_)
    fun q hq => hq.2 hq.1
  obtain ⟨⟨hq, hne⟩, hout⟩ := hq
  rcases hq with hempty | heq | heq
  · exact hempty
  · exact hne heq
  · exact hout (Or.inl heq)

/-! ### A port is plugged in -/

theorem plug_ports (hab : a ≠ b) (h : State) (q : Int) : (plug a b h).ports q =
    if q = a then { h.ports q with peer := b, cable := h.cables + 1 }
    else if q = b then { h.ports q with peer := a, cable := h.cables + 1 } else h.ports q := by
  rw [plug]
  dsimp only
  by_cases hqb : q = b
  · rw [hqb, setSlot_self, setSlot_of_ne hab.symm, if_neg hab.symm, if_pos rfl]
  · rw [setSlot_of_ne hqb, if_neg hqb]
    by_cases hqa : q = a
    · rw [hqa, setSlot_self, if_pos rfl]
    · rw [setSlot_of_ne hqa, if_neg hqa]

theorem plug_handleOk (hab : a ≠ b) (h : State) (q : Int) :
    portHandleOk q (plug a b h) = portHandleOk q h := by
  rw [portHandleOk, portHandleOk, plug_ports hab]
  split
  · rfl
  · split <;> rfl

theorem plug_adminUp (hab : a ≠ b) (h : State) (q : Int) :
    ((plug a b h).ports q).adminUp = (h.ports q).adminUp := by
  rw [plug_ports hab]
  split
  · rfl
  · split <;> rfl

theorem Settled.plug (hS : Settled S C h) (hab : a ≠ b) (ha : portHandleOk a h = true)
    (hb : portHandleOk b h = true) (hpa : (h.ports a).peer = -1) (hpb : (h.ports b).peer = -1) :
    Settled (S ∪ {a, b}) C (plug a b h) := by
  -- neither end was anybody's peer
  have hnot : ∀ {q}, portHandleOk q h = true → (h.ports q).peer ≠ a ∧ (h.ports q).peer ≠ b := by
    intro q hq
    constructor
    · intro heq
      obtain ⟨hback, -⟩ := hS.toCabling.other hq (heq ▸ ha)
      rw [heq, hpa] at hback
      exact ne_minus_one hq hback.symm
    · intro heq
      obtain ⟨hback, -⟩ := hS.toCabling.other hq (heq ▸ hb)
      rw [heq, hpb] at hback
      exact ne_minus_one hq hback.symm
  have hslot : ∀ {q}, q ≠ a → q ≠ b → (Harness.plug a b h).ports q = h.ports q := by
    intro q hqa hqb
    rw [plug_ports hab, if_neg hqa, if_neg hqb]
  refine ⟨⟨fun q hq => ?_, fun q hq => ?_⟩, fun q hq hout => ?_, fun q hq hout => ?_⟩
  · rw [plug_handleOk hab] at hq
    by_cases hqa : q = a
    · subst hqa
      rw [plug_ports hab, if_pos rfl]
      dsimp only
      rw [plug_handleOk hab, plug_ports hab, if_neg hab.symm, if_pos rfl]
      exact Or.inr ⟨hb, rfl, hab.symm⟩
    · by_cases hqb : q = b
      · subst hqb
        rw [plug_ports hab, if_neg hqa, if_pos rfl]
        dsimp only
        rw [plug_handleOk hab, plug_ports hab, if_pos rfl]
        exact Or.inr ⟨ha, rfl, hab⟩
      · obtain ⟨hna, hnb⟩ := hnot hq
        rw [hslot hqa hqb, plug_handleOk hab, hslot hna hnb]
        exact hS.peers q hq
  · rw [plug_handleOk hab] at hq
    rw [hslot (ne_of_free ha hq) (ne_of_free hb hq)]
    exact hS.free q hq
  · rw [plug_handleOk hab] at hq
    have hqa : q ≠ a := fun heq => hout (Or.inr (Or.inl heq))
    have hqb : q ≠ b := fun heq => hout (Or.inr (Or.inr heq))
    rw [upAt, hslot hqa hqb, portCarrier_congr (plug_adminUp hab h q) (by rw [hslot hqa hqb])
      (plug_handleOk hab h _) fun _ => plug_adminUp hab h _]
    exact hS.carrier q hq fun hin => hout (Or.inl hin)
  · rw [plug_handleOk hab] at hq
    obtain ⟨c, hbr, hen⟩ := hS.core q hq hout
    refine ⟨c, ?_, ?_⟩
    · rw [plug_ports hab]
      split
      · exact hbr
      · split <;> exact hbr
    · rw [hen, upAt, upAt, plug_ports hab]
      split
      · rfl
      · split <;> rfl

/-! ### A port is switched -/

theorem setAdmin_handleOk (p : Int) (up : Bool) (h : State) (q : Int) :
    portHandleOk q (setSlot p (fun s => { s with adminUp := up }) h) = portHandleOk q h :=
  setSlot_handleOk rfl

theorem Settled.setAdmin (hS : Settled S C h) (hp : up = false ∨ portHandleOk p h = true) :
    Settled (S ∪ {p, (h.ports p).peer}) C (setSlot p (fun s => { s with adminUp := up }) h) := by
  have hpeer : ∀ q, ((setSlot p (fun s => { s with adminUp := up }) h).ports q).peer =
      (h.ports q).peer := by
    intro q
    by_cases hqp : q = p
    · rw [hqp, setSlot_self]
    · rw [setSlot_of_ne hqp]
  refine ⟨⟨fun q hq => ?_, fun q hq => ?_⟩, fun q hq hout => ?_, fun q hq hout => ?_⟩
  · rw [setAdmin_handleOk] at hq
    rw [hpeer, setAdmin_handleOk, hpeer]
    exact hS.peers q hq
  · rw [setAdmin_handleOk] at hq
    obtain ⟨hdown, hfree⟩ := hS.free q hq
    by_cases hqp : q = p
    · have hup : up = false := by
        rcases hp with hup | hlive
        · exact hup
        · exact absurd hqp (ne_of_free hlive hq)
      have hslot : ({ h.ports q with adminUp := up } : PortSlot) = h.ports q := by
        rw [hup, ← hdown]
      rw [← hqp, setSlot_self, hslot]
      exact ⟨hdown, hfree⟩
    · rw [setSlot_of_ne hqp]
      exact ⟨hdown, hfree⟩
  · rw [setAdmin_handleOk] at hq
    have hqp : q ≠ p := fun heq => hout (Or.inr (Or.inl heq))
    have hslot := setSlot_of_ne hqp (fun s => { s with adminUp := up }) h
    rw [upAt, hslot, portCarrier_congr (by rw [hslot]) (hpeer q) (setAdmin_handleOk p up h _) ?_]
    · exact hS.carrier q hq fun hin => hout (Or.inl hin)
    · intro hlive
      have hne : (h.ports q).peer ≠ p := by
        rintro rfl
        exact hout (Or.inr (Or.inr (hS.toCabling.other hq hlive).1.symm))
      rw [setSlot_of_ne hne]
  · rw [setAdmin_handleOk] at hq
    obtain ⟨c, hbr, hen⟩ := hS.core q hq hout
    by_cases hqp : q = p
    · refine ⟨c, ?_, ?_⟩
      · rw [hqp, setSlot_self]
        exact hqp ▸ hbr
      · rw [hen, upAt, upAt, hqp, setSlot_self]
    · exact ⟨c, by rw [setSlot_of_ne hqp]; exact hbr, by rw [hen, upAt, upAt, setSlot_of_ne hqp]⟩

end Cables

/-! ## The calls -/

section Calls

variable {o : Outside} {h h' : State} {a b p brh r : Int} {S C : Set Int} {up ok : Bool} {op : Op}

theorem firstFree_spec {taken : Int → Bool} {i j : Int} {n : Nat}
    (hj : firstFree taken i n = some j) : taken j = false ∧ i ≤ j ∧ j < i + n := by
  induction n generalizing i with
  | zero => cases hj
  | succ n ih =>
    rw [firstFree] at hj
    split at hj
    · obtain ⟨hfree, hlow, hhigh⟩ := ih hj
      exact ⟨hfree, by omega, by omega⟩
    · rename_i hfree
      obtain rfl := Option.some.inj hj
      exact ⟨by simpa using hfree, by omega, by omega⟩

/-- Bridges are written, but no port's core. -/
theorem Settled.bridges (hS : Settled S C h) (hports : h'.ports = h.ports)
    (hcore : ∀ q, Agrees h q → Agrees h' q) : Settled S C h' where
  toCabling := hS.toCabling.kept (SlotsKept.of_eq hports) fun q _ => congrFun hports q
  carrier q hq hout := by
    rw [portHandleOk_congr hports] at hq
    rw [upAt, hports, (SlotsKept.of_eq hports).carrier]
    exact hS.carrier q hq hout
  core q hq hout := by
    rw [portHandleOk_congr hports] at hq
    exact hcore q (hS.core q hq hout)

theorem bridgeCreate_settled (name : Option String) (mac : Option (List Char))
    (hS : Settled ∅ ∅ h) : Settled ∅ ∅ (mstpwBridgeCreate o name mac h).1 := by
  rw [mstpwBridgeCreate]
  split
  · exact hS
  · rename_i brh hfree
    dsimp only
    split
    · exact hS.congr rfl rfl
    · refine hS.bridges rfl fun q ⟨c, hc, hen⟩ => ⟨c, ?_, hen⟩
      have hne : (h.ports q).brh ≠ brh := by
        intro heq
        have hnone := (firstFree_spec hfree).1
        rw [← heq, hc] at hnone
        cases hnone
      exact (if_neg hne).trans hc

theorem bridgeSetEnable_settled (hS : Settled ∅ ∅ h)
    (hc : mstpwBridgeSetEnable o brh up h = some (h', r)) : Settled ∅ ∅ h' := by
  rw [mstpwBridgeSetEnable] at hc
  split at hc
  · cases hc
    exact hS
  · obtain ⟨⟨h₁, ok⟩, hcall, heq⟩ := Option.map_eq_some_iff.mp hc
    cases heq
    refine Settled.callCore ?_ (fun _ _ _ _ hlink => ?_) hcall
    · refine hS.bridges rfl fun q ⟨c, hc, hen⟩ => ?_
      by_cases hbr : (h.ports q).brh = brh
      · rw [hbr] at hc
        exact ⟨{ c with up := up, stpEnabled := up }, (if_pos hbr).trans (by rw [hc]; rfl), hen⟩
      · exact ⟨c, (if_neg hbr).trans hc, hen⟩
    · cases hlink

theorem manageBridge_settled (hop : op.linkOf = none) (hS : Settled ∅ ∅ h)
    (hc : manageBridge o brh op h = some (h', r)) : Settled ∅ ∅ h' := by
  rw [manageBridge] at hc
  split at hc
  · cases hc
    exact hS
  · obtain ⟨⟨h₁, ok⟩, hcall, heq⟩ := Option.map_eq_some_iff.mp hc
    cases heq
    refine hS.callCore (fun _ _ _ _ hlink => ?_) hcall
    rw [hop] at hlink
    cases hlink

theorem managePort_settled {op : PortRef → Op} (hop : ∀ q, (op q).linkOf = none)
    (hS : Settled ∅ ∅ h) (hc : managePort o p op h = some (h', r)) : Settled ∅ ∅ h' := by
  rw [managePort] at hc
  split at hc
  · cases hc
    exact hS
  · obtain ⟨⟨h₁, ok⟩, hcall, heq⟩ := Option.map_eq_some_iff.mp hc
    cases heq
    refine hS.callCore (fun _ _ _ _ hlink => ?_) hcall
    rw [hop] at hlink
    cases hlink

theorem portConfig_settled {cfg : CistPortConfig} (hS : Settled ∅ ∅ h)
    (hc : managePort o p (fun q => .setCistPortConfig q cfg) h = some (h', r)) :
    Settled ∅ ∅ h' :=
  managePort_settled (fun _ => rfl) hS hc

theorem oneSecond_settled (hS : Settled ∅ ∅ h) (hc : mstpwOneSecond o h = some h') :
    Settled ∅ ∅ h' := by
  refine forEach_inv (I := Settled ∅ ∅) (fun j _ s s' hs hstep => ?_) hS hc
  rw [tickBridge] at hstep
  split at hstep
  · obtain ⟨⟨h₁, ok⟩, hcall, rfl⟩ := Option.map_eq_some_iff.mp hstep
    exact hs.callCore (fun _ _ _ _ hlink => by cases hlink) hcall
  · cases hstep
    exact hs

/-! ### Frames -/

theorem shutdownPort_settled (hS : Settled ∅ ∅ h) (hc : mstpOutShutdownPort o p h = some h') :
    Settled ∅ ∅ h' := by
  refine ((hS.setAdmin (Or.inl rfl)).syncCarrier hc).mono ?_ subset_rfl
  rintro q ⟨hempty | hends, hout⟩
  · exact hempty
  · exact hout hends

theorem mstpOutOfRx_settled {call : MstpOut} (hS : Settled ∅ ∅ h)
    (hc : mstpOutOfRx o call h = some h') : Settled ∅ ∅ h' := by
  have hsent : mstpOut o call h = some h' → Settled ∅ ∅ h' := fun hcall =>
    hS.congr (mstpOut_sent hcall).ports (mstpOut_sent hcall).bridges
  cases call with
  | shutdownPort q => exact shutdownPort_settled hS hc
  | setState q t s => exact hsent hc
  | flushAllFids q t => exact hsent hc
  | setAgeingTime q ageingTime => exact hsent hc
  | txBpdu q bpdu size => exact hsent hc

theorem deliverFrame_settled {f : QueuedFrame} (hS : Settled ∅ ∅ h)
    (hc : deliverFrame o f h = some (h', ok)) : Settled ∅ ∅ h' := by
  rw [deliverFrame] at hc
  split at hc
  · obtain ⟨⟨h₁, ok⟩, hcall, heq⟩ := Option.map_eq_some_iff.mp hc
    cases heq
    obtain ⟨b, core, hb, hcore, hout⟩ := callCore_cases hcall
    refine forEach_inv (I := Settled ∅ ∅) (fun _ _ _ _ hs hstep => mstpOutOfRx_settled hs hstep) ?_
      hout
    refine hS.bridges rfl fun q hq => agrees_putCore hb hcore (fun _ hlink => ?_) hq
    cases hlink
  · cases hc
    exact hS

theorem nextFrame_settled {all : Bool} {wave rest : List QueuedFrame} {f : QueuedFrame}
    (hS : Settled ∅ ∅ h) (hn : nextFrame all wave h = some (f, rest, h')) : Settled ∅ ∅ h' := by
  rw [nextFrame.eq_def] at hn
  split at hn
  · cases hn
    exact hS
  · split at hn
    · split at hn
      · cases hn
        exact hS.congr rfl rfl
      · cases hn
    · cases hn

theorem deliverLoop_settled {all : Bool} {budget : Nat} {wave : List QueuedFrame} {n : Int}
    (hS : Settled ∅ ∅ h) (hc : deliverLoop o all budget wave n h = some (h', r)) :
    Settled ∅ ∅ h' := by
  induction budget generalizing wave n h with
  | zero =>
    rw [deliverLoop] at hc
    split at hc
    · cases hc
      exact hS
    · rename_i hn
      cases hc
      exact (nextFrame_settled hS hn).congr rfl rfl
  | succ budget ih =>
    rw [deliverLoop] at hc
    split at hc
    · cases hc
      exact hS
    · rename_i f rest h₁ hn
      obtain ⟨⟨h₂, ok⟩, hframe, hrest⟩ := Option.bind_eq_some_iff.mp hc
      exact ih (deliverFrame_settled (nextFrame_settled hS hn) hframe) hrest

theorem deliverBpdus_settled {all : Bool} (hS : Settled ∅ ∅ h)
    (hc : mstpwDeliverBpdus o all h = some (h', r)) : Settled ∅ ∅ h' := by
  have hstart : Settled ∅ ∅ { h with queue := [] } := hS.congr rfl rfl
  exact deliverLoop_settled hstart hc

theorem step_settled {n : Nat} (hS : Settled ∅ ∅ h) (hc : mstpwStep o n h = some h') :
    Settled ∅ ∅ h' := by
  induction n generalizing h with
  | zero => exact Option.some.inj hc ▸ hS
  | succ n ih =>
    obtain ⟨h₁, hsecond, hrest⟩ := Option.bind_eq_some_iff.mp hc
    obtain ⟨⟨h₂, d⟩, hdeliver, hrest⟩ := Option.bind_eq_some_iff.mp hrest
    exact ih (deliverBpdus_settled (oneSecond_settled hS hsecond) hdeliver) hrest

/-! ### Ports and cables -/

theorem portSetEnable_settled {speed duplex : Int} (hS : Settled ∅ ∅ h)
    (hc : mstpwPortSetEnable o p up speed duplex h = some (h', r)) : Settled ∅ ∅ h' := by
  rw [mstpwPortSetEnable] at hc
  split at hc
  · cases hc
    exact hS
  · rename_i hok
    obtain ⟨h₁, hnote, hc⟩ := Option.bind_eq_some_iff.mp hc
    obtain ⟨h₂, hsync, heq⟩ := Option.map_eq_some_iff.mp hc
    cases heq
    have hnoted : Settled ∅ ∅ h₁ ∧ h₁.ports = h.ports := by
      split at hnote
      · obtain ⟨b, hb, hnote⟩ := Option.bind_eq_some_iff.mp hnote
        obtain ⟨⟨h₃, ok⟩, hcall, rfl⟩ := Option.map_eq_some_iff.mp hnote
        exact ⟨hS.callCore (fun _ _ _ _ hlink => by cases hlink) hcall, callCore_ports hcall⟩
      · cases hnote
        exact ⟨hS, rfl⟩
    have hlive : portHandleOk p h₁ = true := by
      rw [portHandleOk_congr hnoted.2]
      simpa using hok
    refine ((hnoted.1.setAdmin (Or.inr hlive)).syncCarrier hsync).mono ?_ subset_rfl
    rintro q ⟨hempty | hends, hout⟩
    · exact hempty
    · exact hout hends

theorem portDelete_settled (hS : Settled ∅ ∅ h) (hc : mstpwPortDelete o p h = some (h', r)) :
    Settled ∅ ∅ h' := by
  rw [mstpwPortDelete] at hc
  split at hc
  · cases hc
    exact hS
  · rename_i hok
    obtain ⟨⟨h₁, ok⟩, hcall, hc⟩ := Option.bind_eq_some_iff.mp hc
    obtain ⟨h₂, hsync, heq⟩ := Option.map_eq_some_iff.mp hc
    cases heq
    exact removed_settled hS (by simpa using hok) hcall rfl rfl hsync

theorem unlink_settled (hS : Settled ∅ ∅ h) (hc : mstpwUnlink o p h = some (h', r)) :
    Settled ∅ ∅ h' := by
  rw [mstpwUnlink] at hc
  split at hc
  · cases hc
    exact hS
  · rename_i hok
    obtain ⟨h₂, hsync, heq⟩ := Option.map_eq_some_iff.mp hc
    cases heq
    refine ((hS.unplug (by simpa using hok)).syncCarrier hsync).mono ?_ subset_rfl
    rintro q ⟨hempty | hends, hout⟩
    · exact hempty
    · exact hout hends

/-- Both ports are pulled out one after the other, and their old peers get their carriers. -/
theorem unplugTwo_settled {c d : Int} (hS : Settled ∅ ∅ h) (ha : portHandleOk a h = true)
    (hb : portHandleOk b h = true)
    (hends : ({(unplug a h).2, (unplug b (unplug a h).1).2} : Set Int) ⊆ {c, d})
    (hc : syncCarrier o c d (unplug b (unplug a h).1).1 = some h') :
    Settled {a, b} ∅ h' ∧ portHandleOk a h' = true ∧ portHandleOk b h' = true ∧
      (h'.ports a).peer = -1 ∧ (h'.ports b).peer = -1 := by
  have hb₁ : portHandleOk b (unplug a h).1 = true := (unplug_handleOk a h b).trans hb
  have hlive : ∀ q, portHandleOk q (unplug b (unplug a h).1).1 = portHandleOk q h := fun q =>
    (unplug_handleOk b _ q).trans (unplug_handleOk a h q)
  have hpeerA : ((unplug b (unplug a h).1).1.ports a).peer = -1 := by
    rcases unplug_slot b (unplug a h).1 a with heq | heq
    · rw [heq]
      rfl
    · rw [heq]
      exact unplug_peer a h
  have hquiet := syncCarrier_quiet hc
  have hsettled := ((hS.unplug ha).unplug hb₁).syncCarrier hc
  refine ⟨hsettled.mono ?_ subset_rfl, (hquiet.slots.handleOk a).trans ((hlive a).trans ha),
    (hquiet.slots.handleOk b).trans ((hlive b).trans hb), (hquiet.slots.peer a).trans hpeerA,
    (hquiet.slots.peer b).trans (unplug_peer b _)⟩
  rintro q ⟨(hempty | heq | heq) | heq | heq, hout⟩
  · exact absurd hempty (Set.notMem_empty q)
  · exact Or.inl heq
  · exact absurd (hends (Or.inl heq)) hout
  · exact Or.inr heq
  · exact absurd (hends (Or.inr heq)) hout

theorem unplugBoth_settled (hS : Settled ∅ ∅ h) (ha : portHandleOk a h = true)
    (hb : portHandleOk b h = true) (hc : unplugBoth o a b h = some h') :
    Settled {a, b} ∅ h' ∧ portHandleOk a h' = true ∧ portHandleOk b h' = true ∧
      (h'.ports a).peer = -1 ∧ (h'.ports b).peer = -1 := by
  have hS' : Settled ∅ ∅ { h with asked := h.asked + 1 } := hS.congr rfl rfl
  rw [unplugBoth] at hc
  dsimp only at hc
  split at hc
  · obtain ⟨hsettled, hb', ha', hpb, hpa⟩ :=
      unplugTwo_settled hS' hb ha (fun q hq => hq.symm) hc
    exact ⟨Set.pair_comm b a ▸ hsettled, ha', hb', hpa, hpb⟩
  · exact unplugTwo_settled hS' ha hb subset_rfl hc

theorem Settled.setMute (hS : Settled S C h) (hp : portHandleOk p h = true) :
    Settled S C (setSlot p (fun s => { s with mute := true }) h) := by
  have hlive : ∀ q, portHandleOk q (setSlot p (fun s => { s with mute := true }) h) =
      portHandleOk q h := fun q => setSlot_handleOk rfl
  have hslot : ∀ q, (setSlot p (fun s => { s with mute := true }) h).ports q = h.ports q ∨
      (setSlot p (fun s => { s with mute := true }) h).ports q =
        { h.ports q with mute := true } := by
    intro q
    by_cases hqp : q = p
    · rw [hqp, setSlot_self]
      exact Or.inr rfl
    · rw [setSlot_of_ne hqp]
      exact Or.inl rfl
  have hpeer : ∀ q, ((setSlot p (fun s => { s with mute := true }) h).ports q).peer =
      (h.ports q).peer := fun q => by rcases hslot q with heq | heq <;> rw [heq]
  have hadmin : ∀ q, ((setSlot p (fun s => { s with mute := true }) h).ports q).adminUp =
      (h.ports q).adminUp := fun q => by rcases hslot q with heq | heq <;> rw [heq]
  refine ⟨⟨fun q hq => ?_, fun q hq => ?_⟩, fun q hq hout => ?_, fun q hq hout => ?_⟩
  · rw [hlive] at hq
    rw [hpeer, hlive, hpeer]
    exact hS.peers q hq
  · rw [hlive] at hq
    rw [setSlot_of_ne (ne_of_free hp hq)]
    exact hS.free q hq
  · rw [hlive] at hq
    rw [portCarrier_congr (hadmin q) (hpeer q) (hlive _) fun _ => hadmin _, ← hS.carrier q hq hout]
    rw [upAt, upAt]
    rcases hslot q with heq | heq <;> rw [heq]
  · rw [hlive] at hq
    obtain ⟨c, hbr, hen⟩ := hS.core q hq hout
    refine ⟨c, ?_, ?_⟩
    · rcases hslot q with heq | heq <;> rw [heq] <;> exact hbr
    · rw [hen, upAt, upAt]
      rcases hslot q with heq | heq <;> rw [heq]

theorem link_settled (hS : Settled ∅ ∅ h) (hc : mstpwLink o a b h = some (h', r)) :
    Settled ∅ ∅ h' := by
  rw [mstpwLink] at hc
  split at hc
  · cases hc
    exact hS
  · rename_i hok
    simp only [Bool.or_eq_true, Bool.not_eq_true', not_or, Bool.not_eq_false, beq_iff_eq] at hok
    obtain ⟨⟨ha, hb⟩, hab⟩ := hok
    obtain ⟨h₁, hpulled, hc⟩ := Option.bind_eq_some_iff.mp hc
    obtain ⟨h₂, hsync, heq⟩ := Option.map_eq_some_iff.mp hc
    cases heq
    obtain ⟨hS₁, ha₁, hb₁, hpa, hpb⟩ := unplugBoth_settled hS ha hb hpulled
    refine ((hS₁.plug hab ha₁ hb₁ hpa hpb).syncCarrier hsync).mono ?_ subset_rfl
    rintro q ⟨hends | hends, hout⟩
    · exact hout hends
    · exact hout hends

theorem linkOneway_settled (hS : Settled ∅ ∅ h) (hc : mstpwLinkOneway o a b h = some (h', r)) :
    Settled ∅ ∅ h' := by
  rw [mstpwLinkOneway] at hc
  split at hc
  · cases hc
    exact hS
  · rename_i hok
    simp only [Bool.or_eq_true, Bool.not_eq_true', not_or, Bool.not_eq_false, beq_iff_eq] at hok
    obtain ⟨⟨ha, hb⟩, hab⟩ := hok
    obtain ⟨h₁, hpulled, hc⟩ := Option.bind_eq_some_iff.mp hc
    obtain ⟨h₂, hsync, heq⟩ := Option.map_eq_some_iff.mp hc
    cases heq
    obtain ⟨hS₁, ha₁, hb₁, hpa, hpb⟩ := unplugBoth_settled hS ha hb hpulled
    have hplugged := hS₁.plug hab ha₁ hb₁ hpa hpb
    have hmuted := hplugged.setMute (p := b) ((plug_handleOk hab h₁ b).trans hb₁)
    refine (hmuted.syncCarrier hsync).mono ?_ subset_rfl
    rintro q ⟨hends | hends, hout⟩
    · exact hout hends
    · exact hout hends

/-! ### Slots come and go -/

theorem dropPort_settled {i : Int} (hi : 0 ≤ i ∧ i < maxPorts) (hS : Settled ∅ ∅ h)
    (hc : dropPort o brh i h = some h') : Settled ∅ ∅ h' ∧
      ((h'.ports i).prt.isSome = true → (h'.ports i).brh ≠ brh) ∧
      ∀ q, (h'.ports q).prt.isSome = true →
        (h.ports q).prt.isSome = true ∧ (h'.ports q).brh = (h.ports q).brh := by
  rw [dropPort] at hc
  split at hc
  · rename_i hthis
    simp only [Bool.and_eq_true, beq_iff_eq] at hthis
    have hlive : portHandleOk i h = true := by
      rw [portHandleOk, hthis.1, Bool.and_true]
      exact decide_eq_true hi
    obtain ⟨⟨h₁, ok⟩, hcall, hsync⟩ := Option.bind_eq_some_iff.mp hc
    have hports : (framePurgeDst i (setSlot i freeSlot h₁)).ports = (setSlot i freeSlot h₁).ports :=
      rfl
    have hquiet := syncCarrier_quiet hsync
    have hsettled := removed_settled hS hlive hcall hports rfl hsync
    have hslots : ∀ q, q ≠ i →
        (framePurgeDst i (setSlot i freeSlot h₁)).ports q = (unplug i h).1.ports q := by
      intro q hq
      have hcore : h₁.ports = (unplug i h).1.ports := callCore_ports hcall
      rw [hports, setSlot_of_ne hq, hcore]
    have hfree : ¬ (h'.ports i).prt.isSome = true := by
      rw [hquiet.slots.isSome]
      simp [framePurgeDst, freeSlot]
    refine ⟨hsettled, fun hsome => absurd hsome hfree, fun q hq => ?_⟩
    have hne : q ≠ i := fun heq => hfree (heq ▸ hq)
    rw [hquiet.slots.isSome] at hq
    rw [hquiet.slots.brh]
    rw [hslots q hne] at hq ⊢
    rcases unplug_slot i h q with heq | heq
    · rw [heq] at hq ⊢
      exact ⟨hq, rfl⟩
    · rw [heq] at hq ⊢
      exact ⟨hq, rfl⟩
  · rename_i hthis
    cases hc
    refine ⟨hS, fun hsome heq => hthis ?_, fun q hq => ⟨hq, rfl⟩⟩
    rw [hsome, heq, beq_self_eq_true, Bool.and_true]

theorem mem_handles {n : Nat} {i : Int} : i ∈ handles n ↔ 0 ≤ i ∧ i < n := by
  rw [handles, List.mem_map]
  constructor
  · rintro ⟨k, hk, rfl⟩
    rw [List.mem_range] at hk
    exact ⟨Int.natCast_nonneg k, Int.ofNat_lt.mpr hk⟩
  · rintro ⟨hlow, hhigh⟩
    exact ⟨i.toNat, List.mem_range.mpr (by omega), Int.toNat_of_nonneg hlow⟩

theorem dropPorts_settled (hS : Settled ∅ ∅ h)
    (hloop : forEach (dropPort o brh) (handles maxPorts) h = some h') :
    Settled ∅ ∅ h' ∧ ∀ q, portHandleOk q h' = true → (h'.ports q).brh ≠ brh := by
  have hkeeps : ∀ i ∈ handles maxPorts, ∀ s s', Settled ∅ ∅ s → dropPort o brh i s = some s' →
      Settled ∅ ∅ s' := fun i hi s s' hs hstep => (dropPort_settled (mem_handles.mp hi) hs hstep).1
  have hgone := forEach_settles (I := Settled ∅ ∅)
    (P := fun i s => (s.ports i).prt.isSome = true → (s.ports i).brh ≠ brh) hkeeps
    (fun i hi s s' hs hstep => (dropPort_settled (mem_handles.mp hi) hs hstep).2.1)
    (fun i _ j hj s s' hs hP hstep hsome => by
      obtain ⟨hbefore, hbr⟩ := (dropPort_settled (mem_handles.mp hj) hs hstep).2.2 i hsome
      exact hbr ▸ hP hbefore) hS hloop
  exact ⟨forEach_inv hkeeps hS hloop, fun q hq =>
    hgone q (mem_handles.mpr (handle_range hq)) (Bool.and_eq_true_iff.mp hq).2⟩

theorem bridgeDelete_settled (hS : Settled ∅ ∅ h)
    (hc : mstpwBridgeDelete o brh h = some (h', r)) : Settled ∅ ∅ h' := by
  rw [mstpwBridgeDelete] at hc
  split at hc
  · cases hc
    exact hS
  · obtain ⟨h₁, hloop, heq⟩ := Option.map_eq_some_iff.mp hc
    cases heq
    obtain ⟨hS₁, hgone⟩ := dropPorts_settled hS hloop
    refine ⟨hS₁.toCabling.kept (fun _ => rfl) fun _ _ => rfl, hS₁.carrier, fun q hq hout => ?_⟩
    obtain ⟨c, hbr, hen⟩ := hS₁.core q hq hout
    exact ⟨c, (if_neg (hgone q hq)).trans hbr, hen⟩

/-- The slot of a new port. -/
def newSlot (x : PortSysdeps) (brh : Int) (s : PortSlot) : PortSlot :=
  { s with prt := some x, brh := brh, peer := -1, adminUp := false, mute := false }

theorem Settled.newSlot {x : PortSysdeps} {b : BridgeSlot} (hS : Settled ∅ ∅ h)
    (hrange : 0 ≤ p ∧ p < maxPorts) (hfree : portHandleOk p h = false) (hx : x.up = false)
    (hb : h.bridges brh = some b) (hdown : (b.core.port (portRef p)).portEnabled = false) :
    Settled ∅ ∅ (setSlot p (newSlot x brh) h) := by
  have hsame : ∀ {q}, q ≠ p →
      portHandleOk q (setSlot p (Harness.newSlot x brh) h) = portHandleOk q h := by
    intro q hq
    rw [portHandleOk, portHandleOk, setSlot_of_ne hq]
  have hnot : ∀ {q}, portHandleOk q h = true → (h.ports q).peer ≠ p := by
    rintro q hq rfl
    rcases hS.peers q hq with hnone | ⟨hlive, -, -⟩
    · rw [hnone] at hrange
      exact absurd hrange.1 (by decide)
    · rw [hlive] at hfree
      cases hfree
  have hlive : portHandleOk p (setSlot p (Harness.newSlot x brh) h) = true := by
    rw [portHandleOk, setSlot_self, decide_eq_true hrange]
    rfl
  refine ⟨⟨fun q hq => ?_, fun q hq => ?_⟩, fun q hq hout => ?_, fun q hq hout => ?_⟩
  · by_cases hqp : q = p
    · rw [hqp, setSlot_self]
      exact Or.inl rfl
    · rw [hsame hqp] at hq
      rw [setSlot_of_ne hqp, hsame (hnot hq), setSlot_of_ne (hnot hq)]
      exact hS.peers q hq
  · have hqp : q ≠ p := ne_of_free hlive hq
    rw [hsame hqp] at hq
    rw [setSlot_of_ne hqp]
    exact hS.free q hq
  · by_cases hqp : q = p
    · rw [hqp, upAt, portCarrier, setSlot_self]
      exact hx
    · rw [hsame hqp] at hq
      have hslot := setSlot_of_ne hqp (Harness.newSlot x brh) h
      rw [upAt, hslot, portCarrier_congr (by rw [hslot]) (by rw [hslot]) (hsame (hnot hq))
        fun _ => by rw [setSlot_of_ne (hnot hq)]]
      exact hS.carrier q hq hout
  · by_cases hqp : q = p
    · refine ⟨b, ?_, ?_⟩
      · rw [hqp, setSlot_self]
        exact hb
      · rw [hqp, hdown, upAt, setSlot_self]
        exact hx.symm
    · rw [hsame hqp] at hq
      exact (hS.core q hq hout).of_slot (setSlot_of_ne hqp _ h) rfl

theorem portCreate_settled {name : Option String} {mac : Option (List Char)}
    {portno speed duplex : Int} (hS : Settled ∅ ∅ h)
    (hc : mstpwPortCreate o brh name mac portno speed duplex h = some (h', r)) :
    Settled ∅ ∅ h' := by
  rw [mstpwPortCreate] at hc
  split at hc
  · cases hc
    exact hS
  · split at hc
    · cases hc
      exact hS
    · split at hc
      · cases hc
        exact hS
      · rename_i porth hporth
        dsimp only at hc
        split at hc
        · cases hc
          exact hS.congr rfl rfl
        · obtain ⟨⟨h₁, ok⟩, hcall, heq⟩ := Option.map_eq_some_iff.mp hc
          obtain ⟨hfree, hlow, hhigh⟩ := firstFree_spec hporth
          have hdead : portHandleOk porth h = false := by rw [portHandleOk, hfree, Bool.and_false]
          have hS' : Settled ∅ ∅ { h with asked := h.asked + 1 } := hS.congr rfl rfl
          have hS₁ : Settled ∅ ∅ h₁ := by
            refine hS'.callCore (fun q hq _ _ hlink => ?_) hcall
            have hsame := portRef_inj hlow (handle_range hq).1 (Option.some.inj hlink)
            exact ne_of_free hq hdead hsame
          cases ok with
          | false =>
            obtain ⟨rfl, -⟩ := Prod.mk.inj heq
            exact hS₁
          | true =>
            obtain ⟨rfl, -⟩ := Prod.mk.inj heq
            obtain ⟨b, core, hb, hcore, hsent⟩ := callCore_sent hcall
            have hdown : (core.port (portRef porth)).portEnabled = false :=
              (createPort_up hcore).2.2
            have hbridge : h₁.bridges brh = some { b with core := { core with out := [] } } := by
              rw [hsent.bridges]
              exact if_pos rfl
            have hdead₁ : portHandleOk porth h₁ = false :=
              (portHandleOk_congr (callCore_ports hcall)).trans hdead
            exact hS₁.newSlot ⟨hlow, by omega⟩ hdead₁ rfl hbridge hdown

/-- Every call leaves all ports settled. -/
theorem mstpw_settled {c : Call} (hS : Settled ∅ ∅ h) (hc : mstpw o c h = some (h', r)) :
    Settled ∅ ∅ h' := by
  cases c with
  | bridgeCreate name mac =>
    have hpair : (mstpwBridgeCreate o name mac h).1 = h' := congrArg Prod.fst (Option.some.inj hc)
    exact hpair ▸ bridgeCreate_settled name mac hS
  | bridgeSetEnable brh up => exact bridgeSetEnable_settled hS hc
  | bridgeDelete brh => exact bridgeDelete_settled hS hc
  | portCreate brh name mac portno speed duplex => exact portCreate_settled hS hc
  | portSetEnable porth up speed duplex => exact portSetEnable_settled hS hc
  | portDelete porth => exact portDelete_settled hS hc
  | link a b => exact link_settled hS hc
  | linkOneway a b => exact linkOneway_settled hS hc
  | unlink porth => exact unlink_settled hS hc
  | oneSecond =>
    obtain ⟨h₁, hloop, heq⟩ := Option.map_eq_some_iff.mp hc
    cases heq
    exact oneSecond_settled hS hloop
  | deliverBpdus all => exact deliverBpdus_settled hS hc
  | step seconds =>
    obtain ⟨h₁, hloop, heq⟩ := Option.map_eq_some_iff.mp hc
    cases heq
    exact step_settled hS hloop
  | setMstConfigId brh revision name => exact manageBridge_settled rfl hS hc
  | setForceProtocolVersion brh version => exact manageBridge_settled rfl hS hc
  | setBridgeTimes => exact manageBridge_settled rfl hS hc
  | createMsti brh mstid => exact manageBridge_settled rfl hS hc
  | deleteMsti brh mstid => exact manageBridge_settled rfl hS hc
  | setVid2fid brh vid fid => exact manageBridge_settled rfl hS hc
  | setFid2mstid brh fid mstid => exact manageBridge_settled rfl hS hc
  | setBridgePriority brh mstid priority =>
    rw [mstpw, mstpwSetBridgePriority] at hc
    split at hc
    · cases hc
      exact hS
    · exact manageBridge_settled rfl hS hc
  | setPortPathCost porth mstid cost =>
    rw [mstpw, mstpwSetPortPathCost] at hc
    split at hc
    · exact portConfig_settled hS hc
    · split at hc
      · cases hc
        exact hS
      · exact managePort_settled (fun _ => rfl) hS hc
  | setPortAdminEdge porth yes => exact portConfig_settled hS hc
  | setPortAutoEdge porth yes => exact portConfig_settled hS hc
  | setPortAdminP2p porth p2p => exact portConfig_settled hS hc
  | setPortBpduGuard porth yes => exact portConfig_settled hS hc
  | setPortRestrictedRole porth yes => exact portConfig_settled hS hc
  | setPortRestrictedTcn porth yes => exact portConfig_settled hS hc
  | setPortNetwork porth yes => exact portConfig_settled hS hc

end Calls

/-! ## Runs -/

/-- The states that the calls reach which the condition allows. -/
inductive Reached (o : Outside) (C : Call → State → Prop) : State → Prop
  | start : Reached o C {}
  | call {c : Call} {h h' : State} {r : Int} (hr : Reached o C h) (hc : C c h)
    (hstep : mstpw o c h = some (h', r)) : Reached o C h'

/-- Every call. -/
def anyCall : Call → State → Prop := fun _ _ => True

theorem Reached.settled {o : Outside} {C : Call → State → Prop} {h : State} (hr : Reached o C h) :
    Settled ∅ ∅ h := by
  have hfree : ∀ p, portHandleOk p ({} : State) = false := fun p => by simp [portHandleOk]
  induction hr with
  | start =>
    refine ⟨⟨fun p hp => ?_, fun p _ => ⟨rfl, Or.inr rfl⟩⟩, fun p hp => ?_, fun p hp => ?_⟩
    all_goals
      rw [hfree p] at hp
      cases hp
  | call _ _ hstep ih => exact mstpw_settled ih hstep

theorem calls_reached {o : Outside} {C : Call → State → Prop} {l : List Call} {h h' : State}
    (hC : ∀ c ∈ l, ∀ s, C c s) (hr : Reached o C h) (hl : calls o l h = some h') :
    Reached o C h' := by
  induction l generalizing h with
  | nil => exact Option.some.inj hl ▸ hr
  | cons c rest ih =>
    obtain ⟨⟨h₁, r⟩, hstep, hrest⟩ := Option.bind_eq_some_iff.mp hl
    exact ih (fun d hd => hC d (List.mem_cons_of_mem c hd))
      (hr.call (hC c List.mem_cons_self h) hstep) hrest

/-- A live port is plugged into another port. -/
def Peers (h : State) (p q : Int) : Prop :=
  portHandleOk p h = true ∧ (h.ports p).peer = q ∧ q ≠ -1

/-- Cables are symmetric and join two different live ports; a free slot is disabled, and once it
has been used it has no peer; every live port is up when its carrier is, and its core knows. -/
theorem cabling_invariant {o : Outside} {h : State} (hr : Reached o anyCall h) :
    (∀ p q, Peers h p q → Peers h q p ∧ p ≠ q ∧ portHandleOk q h = true) ∧
    (∀ p, portHandleOk p h = false →
      (h.ports p).adminUp = false ∧ ((h.ports p).peer = -1 ∨ h.ports p = {})) ∧
    (∀ p, portHandleOk p h = true →
      upAt h p = portCarrier h p ∧
      ∃ b, h.bridges (h.ports p).brh = some b ∧
        (b.core.port (portRef p)).portEnabled = upAt h p) := by
  have hS := hr.settled
  refine ⟨?_, hS.free, fun p hp => ⟨hS.carrier p hp (Set.notMem_empty p),
    hS.core p hp (Set.notMem_empty p)⟩⟩
  rintro p q ⟨hp, rfl, hne⟩
  obtain ⟨hlive, hback, hother⟩ := (hS.peers p hp).resolve_left hne
  exact ⟨⟨hlive, hback, ne_minus_one hp⟩, hother.symm, hlive⟩

/-- A sample outside for short runs. -/
def sampleCables : Outside where
  env _ := sampleEnv

/-- Two bridges, of which one runs STP, with a port each. -/
def samplePorts : List Call :=
  [.bridgeCreate none none, .bridgeCreate none none, .bridgeSetEnable 0 true,
    .portCreate 0 none none 1 1000 1, .portCreate 1 none none 1 1000 1]

/-- Both ports come up, and one sends a BPDU. -/
def sampleUp : List Call := [.portSetEnable 1 true 0 1, .portSetEnable 0 true 0 1]

/-- Two bridges with a cable between them and a BPDU on it. -/
def sampleLink : List Call := samplePorts ++ .link 0 1 :: sampleUp

/-- BPDU guard shuts a port down while its frame is delivered. -/
theorem guarded_link_goes_down : ∃ h,
    calls sampleCables (sampleLink ++ [.setPortBpduGuard 1 true, .deliverBpdus true]) {} = some h ∧
      (upAt h 0 = portCarrier h 0 ∧
        ∃ b, h.bridges (h.ports 0).brh = some b ∧ (b.core.port 0).portEnabled = upAt h 0) ∧
      upAt h 0 = false ∧ upAt h 1 = false := by
  obtain ⟨h, hh⟩ := Option.isSome_iff_exists.mp (show (calls sampleCables
    (sampleLink ++ [.setPortBpduGuard 1 true, .deliverBpdus true]) {}).isSome from by
      decide +kernel)
  have hfacts : ((calls sampleCables
      (sampleLink ++ [.setPortBpduGuard 1 true, .deliverBpdus true]) {}).all fun s =>
        portHandleOk 0 s && !upAt s 0 && !upAt s 1) = true := by decide +kernel
  rw [hh] at hfacts
  simp only [Option.all_some, Bool.and_eq_true, Bool.not_eq_true'] at hfacts
  obtain ⟨⟨hlive, hup₀⟩, hup₁⟩ := hfacts
  have hr : Reached sampleCables anyCall h := calls_reached (fun _ _ _ => trivial) .start hh
  exact ⟨h, hh, (cabling_invariant hr).2.2 0 hlive, hup₀, hup₁⟩

/-- A slot that was never used reads as if it were plugged into port 0. -/
theorem unused_slot_names_a_port : ∃ h, Reached sampleCables anyCall h ∧
    portHandleOk 1 h = false ∧ (h.ports 1).peer = 0 ∧ portHandleOk 0 h = true := by
  obtain ⟨h, hh⟩ := Option.isSome_iff_exists.mp (show (calls sampleCables
    [.bridgeCreate none none, .portCreate 0 none none 1 1000 1] {}).isSome from by decide +kernel)
  have hfacts : ((calls sampleCables
      [.bridgeCreate none none, .portCreate 0 none none 1 1000 1] {}).all fun s =>
        !portHandleOk 1 s && (s.ports 1).peer == 0 && portHandleOk 0 s) = true := by decide +kernel
  rw [hh] at hfacts
  simp only [Option.all_some, Bool.and_eq_true, Bool.not_eq_true', beq_iff_eq] at hfacts
  obtain ⟨⟨hfree, hpeer⟩, hlive⟩ := hfacts
  exact ⟨h, calls_reached (fun _ _ _ => trivial) .start hh, hfree, hpeer, hlive⟩

end Harness

end Mstpd
