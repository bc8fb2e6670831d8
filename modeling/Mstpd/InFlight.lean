import Mstpd.Cabling

/-!
# Frames on their way

A frame is meant for the port that was at the other end of the cable when it was sent. The
queue holds handles, and only a port that loses its carrier and a port that goes with its
bridge take their frames along. Everything else that pulls a cable leaves its frames behind.
-/

namespace Mstpd.Harness

open Machine

/-- Both ends of the frame are still joined by the cable that it was sent on. -/
structure OnCable (h : State) (f : QueuedFrame) : Prop where
  src : portHandleOk f.src h = true
  dst : portHandleOk f.dst h = true
  peer : (h.ports f.src).peer = f.dst
  back : (h.ports f.dst).peer = f.src
  srcCable : (h.ports f.src).cable = f.cable
  dstCable : (h.ports f.dst).cable = f.cable

/-- The frame was handed to the port that its sender's cable has led to all the time. -/
structure RxCall.Joined (c : RxCall) : Prop where
  src : c.sender.prt.isSome = true
  dst : c.receiver.prt.isSome = true
  peer : c.sender.peer = c.frame.dst
  back : c.receiver.peer = c.frame.src
  srcCable : c.sender.cable = c.frame.cable
  dstCable : c.receiver.cable = c.frame.cable

/-! ## What leaves the cables alone -/

/-- Ports and cables are the same. -/
def TiesKept (h h' : State) : Prop := ∀ p, portHandleOk p h' = portHandleOk p h ∧
  (h'.ports p).peer = (h.ports p).peer ∧ (h'.ports p).cable = (h.ports p).cable

/-- Nothing has happened to the cables, and what is new in the queue was sent on one of them. -/
structure Undisturbed (h h' : State) : Prop where
  ties : TiesKept h h'
  handed : h'.handed = h.handed
  queue : ∀ f ∈ h'.queue, f ∈ h.queue ∨ Departs h f

/-- The two ends of a cable name each other and the cable. -/
def Tied (h : State) : Prop :=
  ∀ p, portHandleOk p h = true → portHandleOk (h.ports p).peer h = true →
    (h.ports (h.ports p).peer).peer = p ∧ (h.ports (h.ports p).peer).cable = (h.ports p).cable

/-- All frames are on their cables, other than those of a given kind. -/
structure Tidy (B : QueuedFrame → Prop) (h : State) : Prop where
  tied : Tied h
  queue : ∀ f ∈ h.queue, OnCable h f ∨ B f
  handed : ∀ c ∈ h.handed, c.Joined

/-- No frame. -/
def noFrame : QueuedFrame → Prop := fun _ => False

section Undisturbed

variable {o : Outside} {h h' h'' : State} {a b p brh r : Int} {B B' : QueuedFrame → Prop}
  {f : QueuedFrame}

theorem SlotsKept.ties (hs : SlotsKept h h') : TiesKept h h' :=
  fun p => ⟨hs.handleOk p, hs.peer p, hs.cable p⟩

theorem Quiet.undisturbed (hq : Quiet h h') : Undisturbed h h' :=
  ⟨hq.slots.ties, hq.handed, hq.queue⟩

theorem Departs.ties (ht : TiesKept h h') (hf : Departs h' f) : Departs h f where
  src := (ht _).1.symm.trans hf.src
  dst := (ht _).1.symm.trans hf.dst
  peer := (ht _).2.1.symm.trans hf.peer
  cable := (ht _).2.2.symm.trans hf.cable

theorem TiesKept.trans (h₁ : TiesKept h h') (h₂ : TiesKept h' h'') : TiesKept h h'' := fun p =>
  ⟨(h₂ p).1.trans (h₁ p).1, (h₂ p).2.1.trans (h₁ p).2.1, (h₂ p).2.2.trans (h₁ p).2.2⟩

theorem Undisturbed.trans (h₁ : Undisturbed h h') (h₂ : Undisturbed h' h'') :
    Undisturbed h h'' where
  ties := h₁.ties.trans h₂.ties
  handed := h₂.handed.trans h₁.handed
  queue f hf := by
    rcases h₂.queue f hf with hold | hnew
    · exact h₁.queue f hold
    · exact Or.inr (hnew.ties h₁.ties)

theorem OnCable.ties (ht : TiesKept h h') (hf : OnCable h f) : OnCable h' f where
  src := (ht _).1.trans hf.src
  dst := (ht _).1.trans hf.dst
  peer := (ht _).2.1.trans hf.peer
  back := (ht _).2.1.trans hf.back
  srcCable := (ht _).2.2.trans hf.srcCable
  dstCable := (ht _).2.2.trans hf.dstCable

theorem Tied.ties (ht : TiesKept h h') (htied : Tied h) : Tied h' := by
  intro p hp hpeer
  rw [(ht p).1] at hp
  rw [(ht p).2.1, (ht _).1] at hpeer
  rw [(ht p).2.1, (ht _).2.1, (ht _).2.2, (ht p).2.2]
  exact htied p hp hpeer

theorem Departs.onCable (htied : Tied h) (hf : Departs h f) : OnCable h f := by
  have hpeer : portHandleOk (h.ports f.src).peer h = true := hf.peer.symm ▸ hf.dst
  obtain ⟨hback, hcable⟩ := htied f.src hf.src hpeer
  rw [hf.peer] at hback hcable
  exact ⟨hf.src, hf.dst, hf.peer, hback, hf.cable, hcable.trans hf.cable⟩

theorem Tidy.undisturbed (hT : Tidy B h) (hu : Undisturbed h h') : Tidy B h' where
  tied := hT.tied.ties hu.ties
  queue f hf := by
    rcases hu.queue f hf with hold | hnew
    · exact (hT.queue f hold).imp_left (OnCable.ties hu.ties)
    · exact Or.inl ((hnew.onCable hT.tied).ties hu.ties)
  handed := hu.handed ▸ hT.handed

theorem Tidy.weaken (hT : Tidy B h) (hB : ∀ f ∈ h.queue, B f → OnCable h f ∨ B' f) : Tidy B' h where
  tied := hT.tied
  queue f hf := (hT.queue f hf).elim Or.inl (hB f hf)
  handed := hT.handed

/-- Only the cables, the queue and the record are read. -/
theorem Tidy.congr (hT : Tidy B h) (ht : TiesKept h h') (hqueue : h'.queue = h.queue)
    (hhanded : h'.handed = h.handed) : Tidy B h' :=
  hT.undisturbed ⟨ht, hhanded, fun _ hf => Or.inl (hqueue ▸ hf)⟩

theorem setSlot_ties {f : PortSlot → PortSlot}
    (hf : ∀ s, (f s).prt.isSome = s.prt.isSome ∧ (f s).peer = s.peer ∧ (f s).cable = s.cable) :
    TiesKept h (setSlot p f h) := by
  intro q
  refine ⟨setSlot_handleOk (hf _).1, ?_⟩
  by_cases hq : q = p
  · rw [hq, setSlot_self]
    exact (hf _).2
  · rw [setSlot_of_ne hq]
    exact ⟨rfl, rfl⟩

theorem freePurge_undisturbed (p : Int) (h : State) : Undisturbed h (framePurgeDst p h) :=
  ⟨fun _ => ⟨rfl, rfl, rfl⟩, rfl, fun _ hf => Or.inl (List.mem_filter.mp hf).1⟩

end Undisturbed

/-! ## Cables that are pulled and plugged -/

section Cables

variable {o : Outside} {h h' h₁ : State} {a b p q brh r : Int} {B : QueuedFrame → Prop}
  {f : QueuedFrame}

/-- No frame of the port is on its way. -/
def Clear (h : State) (p : Int) : Prop := ∀ f ∈ h.queue, f.src ≠ p ∧ f.dst ≠ p

/-- A frame of another cable does not notice. -/
theorem OnCable.unplug (htied : Tied h) (hp : portHandleOk p h = true) (hf : OnCable h f)
    (hsrc : f.src ≠ p) (hdst : f.dst ≠ p) : OnCable (unplug p h).1 f := by
  have hslot : ∀ q, q ≠ p → (portHandleOk q h = true → (h.ports q).peer ≠ p) →
      (Harness.unplug p h).1.ports q = h.ports q := by
    intro q hq hpeer
    rw [unplug_ports, if_neg]
    rintro (heq | ⟨heq, hok⟩)
    · exact hq heq
    · rw [heq] at hok
      have hback := (htied p hp hok).1
      rw [← heq] at hback
      exact hpeer (heq ▸ hok) hback
  have hs := hslot f.src hsrc fun _ => hf.peer ▸ hdst
  have hd := hslot f.dst hdst fun _ => hf.back ▸ hsrc
  exact ⟨(unplug_handleOk p h _).trans hf.src, (unplug_handleOk p h _).trans hf.dst,
    hs ▸ hf.peer, hd ▸ hf.back, hs ▸ hf.srcCable, hd ▸ hf.dstCable⟩

theorem Tied.unplug (htied : Tied h) (hp : portHandleOk p h = true) : Tied (unplug p h).1 := by
  intro q hq hpeer
  rw [unplug_handleOk] at hq
  have hends : ¬ (q = p ∨ q = (h.ports p).peer ∧ portHandleOk q h = true) := by
    intro hend
    rw [unplug_ports, if_pos hend] at hpeer
    exact absurd hpeer (by rw [clearPeer, minus_one_free]; decide)
  have hslot : (Harness.unplug p h).1.ports q = h.ports q := by rw [unplug_ports, if_neg hends]
  rw [hslot, unplug_handleOk] at hpeer
  obtain ⟨hback, hcable⟩ := htied q hq hpeer
  have hother : (Harness.unplug p h).1.ports (h.ports q).peer = h.ports (h.ports q).peer := by
    rw [unplug_ports, if_neg]
    rintro (heq | ⟨heq, -⟩)
    · rw [heq] at hback
      exact hends (Or.inr ⟨hback.symm, hq⟩)
    · rw [heq] at hback hpeer
      exact hends (Or.inl (hback.symm.trans (htied p hp hpeer).1))
  rw [hslot, hother]
  exact ⟨hback, hcable⟩

/-- A cable is pulled on which no frame is. -/
theorem Tidy.unplug (hT : Tidy B h) (hp : portHandleOk p h = true) (hclear : Clear h p) :
    Tidy B (unplug p h).1 where
  tied := hT.tied.unplug hp
  queue f hf := by
    rw [(unplug_rest p h).2.1] at hf
    exact (hT.queue f hf).imp_left fun hon =>
      hon.unplug hT.tied hp (hclear f hf).1 (hclear f hf).2
  handed := (unplug_rest p h).2.2.1 ▸ hT.handed

theorem Clear.unplug (hclear : Clear h p) : Clear (unplug q h).1 p := by
  intro f hf
  rw [(unplug_rest q h).2.1] at hf
  exact hclear f hf

theorem OnCable.freeSlot (hpeer : (h.ports p).peer = -1) (hf : OnCable h f) :
    OnCable (setSlot p freeSlot h) f := by
  have hsrc : f.src ≠ p := by
    rintro rfl
    exact ne_minus_one hf.dst (hf.peer.symm.trans hpeer)
  have hdst : f.dst ≠ p := by
    rintro rfl
    exact ne_minus_one hf.src (hf.back.symm.trans hpeer)
  have hlive : ∀ q, q ≠ p → portHandleOk q (setSlot p Harness.freeSlot h) = portHandleOk q h := by
    intro q hq
    rw [freeSlot_handleOk]
    simp [hq]
  refine ⟨(hlive _ hsrc).trans hf.src, (hlive _ hdst).trans hf.dst, ?_, ?_, ?_, ?_⟩
  · rw [setSlot_of_ne hsrc]
    exact hf.peer
  · rw [setSlot_of_ne hdst]
    exact hf.back
  · rw [setSlot_of_ne hsrc]
    exact hf.srcCable
  · rw [setSlot_of_ne hdst]
    exact hf.dstCable

theorem Tied.freeSlot (htied : Tied h) : Tied (setSlot p freeSlot h) := by
  have hlive : ∀ {q}, portHandleOk q (setSlot p Harness.freeSlot h) = true →
      portHandleOk q h = true ∧ q ≠ p := by
    intro q hq
    rw [freeSlot_handleOk] at hq
    simpa using hq
  intro q hq hpeer
  obtain ⟨hq, hne⟩ := hlive hq
  rw [setSlot_of_ne hne] at hpeer ⊢
  obtain ⟨hpeer, hnot⟩ := hlive hpeer
  rw [setSlot_of_ne hnot]
  exact htied q hq hpeer

theorem Tidy.freeSlot (hT : Tidy B h) (hpeer : (h.ports p).peer = -1) :
    Tidy B (setSlot p freeSlot h) where
  tied := hT.tied.freeSlot
  queue f hf := (hT.queue f hf).imp_left (OnCable.freeSlot hpeer)
  handed := hT.handed

theorem Tidy.plug (hT : Tidy B h) (hab : a ≠ b) (hpa : (h.ports a).peer = -1)
    (hpb : (h.ports b).peer = -1) : Tidy B (plug a b h) := by
  have hslot : ∀ {q}, q ≠ a → q ≠ b → (Harness.plug a b h).ports q = h.ports q := by
    intro q hqa hqb
    rw [plug_ports hab, if_neg hqa, if_neg hqb]
  have hcabled : ∀ {q}, portHandleOk (h.ports q).peer h = true → q ≠ a ∧ q ≠ b := by
    intro q hq
    constructor
    · rintro rfl
      exact ne_minus_one hq hpa
    · rintro rfl
      exact ne_minus_one hq hpb
  refine ⟨fun q hq hpeer => ?_, fun f hf => (hT.queue f hf).imp_left fun hon => ?_, hT.handed⟩
  · rw [plug_handleOk hab] at hq
    by_cases hqa : q = a
    · subst hqa
      rw [plug_ports hab h q, if_pos rfl]
      dsimp only
      rw [plug_ports hab, if_neg hab.symm, if_pos rfl]
      exact ⟨rfl, rfl⟩
    · by_cases hqb : q = b
      · subst hqb
        rw [plug_ports hab h q, if_neg hqa, if_pos rfl]
        dsimp only
        rw [plug_ports hab, if_pos rfl]
        exact ⟨rfl, rfl⟩
      · rw [hslot hqa hqb, plug_handleOk hab] at hpeer
        rw [hslot hqa hqb]
        obtain ⟨hback, hcable⟩ := hT.tied q hq hpeer
        obtain ⟨hna, hnb⟩ := hcabled (q := (h.ports q).peer) (hback.symm ▸ hq)
        rw [hslot hna hnb]
        exact ⟨hback, hcable⟩
  · obtain ⟨hsa, hsb⟩ := hcabled (q := f.src) (hon.peer.symm ▸ hon.dst)
    obtain ⟨hda, hdb⟩ := hcabled (q := f.dst) (hon.back.symm ▸ hon.src)
    have hs := hslot hsa hsb
    have hd := hslot hda hdb
    exact ⟨(plug_handleOk hab h _).trans hon.src, (plug_handleOk hab h _).trans hon.dst,
      hs ▸ hon.peer, hd ▸ hon.back, hs ▸ hon.srcCable, hd ▸ hon.dstCable⟩

/-- A slot that was free had no frames. -/
theorem Tidy.newSlot {x : PortSysdeps} (hT : Tidy B h) (hc : Cabling h)
    (hfree : portHandleOk p h = false) :
    Tidy B (setSlot p (newSlot x brh) h) := by
  have hne : ∀ {q}, portHandleOk q h = true → q ≠ p := fun hq heq => ne_of_free hq hfree heq.symm
  have hlive : ∀ {q}, q ≠ p →
      portHandleOk q (setSlot p (Harness.newSlot x brh) h) = portHandleOk q h := by
    intro q hq
    rw [portHandleOk, portHandleOk, setSlot_of_ne hq]
  refine ⟨fun q hq hpeer => ?_, fun f hf => (hT.queue f hf).imp_left fun hon => ?_, hT.handed⟩
  · by_cases hqp : q = p
    · rw [hqp, setSlot_self] at hpeer
      exact absurd hpeer (by rw [Harness.newSlot, minus_one_free]; decide)
    · rw [hlive hqp] at hq
      rw [setSlot_of_ne hqp]
      rcases hc.peers q hq with hnone | ⟨hother, hback, -⟩
      · rw [setSlot_of_ne hqp, hnone, minus_one_free] at hpeer
        cases hpeer
      · rw [setSlot_of_ne (hne hother)]
        exact hT.tied q hq hother
  · have hs := setSlot_of_ne (hne hon.src) (Harness.newSlot x brh) h
    have hd := setSlot_of_ne (hne hon.dst) (Harness.newSlot x brh) h
    exact ⟨(hlive (hne hon.src)).trans hon.src, (hlive (hne hon.dst)).trans hon.dst,
      hs ▸ hon.peer, hd ▸ hon.back, hs ▸ hon.srcCable, hd ▸ hon.dstCable⟩

end Cables

/-! ## The calls -/

/-- When the turn of a port of the bridge comes, no frame of it to another bridge is on its way. -/
def DropsClear (o : Outside) (brh : Int) (h : State) : Prop :=
  ∀ i h', i < maxPorts → forEach (dropPort o brh) (handles i) h = some h' →
    ∀ f ∈ h'.queue, f.src = i → (h'.ports i).brh = brh → (h'.ports f.dst).brh = brh

/-- A call pulls no cable on which a frame is on its way, other than to a port that goes with its
bridge. -/
def PullsClear (o : Outside) : Call → State → Prop
  | .link a b, h | .linkOneway a b, h =>
    portHandleOk a h = true → portHandleOk b h = true → a ≠ b → Clear h a ∧ Clear h b
  | .unlink porth, h | .portDelete porth, h => portHandleOk porth h = true → Clear h porth
  | .bridgeDelete brh, h => brHandleOk brh h = true → DropsClear o brh h
  | _, _ => True

section Calls

variable {o : Outside} {h h' h₁ : State} {a b p q brh r : Int} {B : QueuedFrame → Prop}
  {up ok : Bool} {f : QueuedFrame} {op : Op}

theorem Tidy.callCore (hT : Tidy B h) (hc : callCore o (mstpOut o) op brh h = some (h', ok)) :
    Tidy B h' :=
  hT.undisturbed (callCore_quiet hc).undisturbed

theorem Tidy.syncCarrier (hT : Tidy B h) (hc : syncCarrier o a b h = some h') : Tidy B h' :=
  hT.undisturbed (syncCarrier_quiet hc).undisturbed

theorem bridgeCreate_tidy (name : Option String) (mac : Option (List Char)) (hT : Tidy B h) :
    Tidy B (mstpwBridgeCreate o name mac h).1 := by
  have hsame : ∀ h', h'.ports = h.ports → h'.queue = h.queue → h'.handed = h.handed → Tidy B h' :=
    fun h' hports => hT.congr (SlotsKept.of_eq hports).ties
  rw [mstpwBridgeCreate]
  split
  · exact hT
  · dsimp only
    split <;> exact hsame _ rfl rfl rfl

theorem bridgeSetEnable_tidy (hT : Tidy B h)
    (hc : mstpwBridgeSetEnable o brh up h = some (h', r)) : Tidy B h' := by
  rw [mstpwBridgeSetEnable] at hc
  split at hc
  · cases hc
    exact hT
  · obtain ⟨⟨h₁, ok⟩, hcall, heq⟩ := Option.map_eq_some_iff.mp hc
    cases heq
    refine Tidy.callCore ?_ hcall
    exact hT.congr (fun _ => ⟨rfl, rfl, rfl⟩) rfl rfl

theorem manageBridge_tidy (hT : Tidy B h) (hc : manageBridge o brh op h = some (h', r)) :
    Tidy B h' := by
  rw [manageBridge] at hc
  split at hc
  · cases hc
    exact hT
  · obtain ⟨⟨h₁, ok⟩, hcall, heq⟩ := Option.map_eq_some_iff.mp hc
    cases heq
    exact hT.callCore hcall

theorem managePort_tidy {op : PortRef → Op} (hT : Tidy B h)
    (hc : managePort o p op h = some (h', r)) : Tidy B h' := by
  rw [managePort] at hc
  split at hc
  · cases hc
    exact hT
  · obtain ⟨⟨h₁, ok⟩, hcall, heq⟩ := Option.map_eq_some_iff.mp hc
    cases heq
    exact hT.callCore hcall

theorem portConfig_tidy {cfg : CistPortConfig} (hT : Tidy B h)
    (hc : managePort o p (fun q => .setCistPortConfig q cfg) h = some (h', r)) : Tidy B h' :=
  managePort_tidy hT hc

theorem oneSecond_tidy (hT : Tidy B h) (hc : mstpwOneSecond o h = some h') : Tidy B h' := by
  refine forEach_inv (I := Tidy B) (fun j _ s s' hs hstep => ?_) hT hc
  rw [tickBridge] at hstep
  split at hstep
  · obtain ⟨⟨h₁, ok⟩, hcall, rfl⟩ := Option.map_eq_some_iff.mp hstep
    exact hs.callCore hcall
  · cases hstep
    exact hs

/-! ### Delivery -/

theorem setAdmin_ties (p : Int) (up : Bool) (h : State) :
    TiesKept h (setSlot p (fun s => { s with adminUp := up }) h) :=
  setSlot_ties fun _ => ⟨rfl, rfl, rfl⟩

theorem mstpOutOfRx_undisturbed {call : MstpOut} (hc : mstpOutOfRx o call h = some h') :
    Undisturbed h h' := by
  have hsent : mstpOut o call h = some h' → Undisturbed h h' := fun hcall =>
    (mstpOut_sent hcall).quiet.undisturbed
  cases call with
  | shutdownPort q =>
    have hdown : Undisturbed h (setSlot q (fun s => { s with adminUp := false }) h) :=
      ⟨setAdmin_ties q false h, rfl, fun _ => Or.inl⟩
    exact hdown.trans (syncCarrier_quiet hc).undisturbed
  | setState q t s => exact hsent hc
  | flushAllFids q t => exact hsent hc
  | setAgeingTime q ageingTime => exact hsent hc
  | txBpdu q bpdu size => exact hsent hc

/-- A frame on its cable is handed over to the port at the other end. -/
theorem deliverFrame_tidy (hT : Tidy B h) (hf : OnCable h f)
    (hc : deliverFrame o f h = some (h', ok)) : Tidy B h' ∧ TiesKept h h' := by
  rw [deliverFrame] at hc
  split at hc
  · obtain ⟨⟨h₁, ok⟩, hcall, heq⟩ := Option.map_eq_some_iff.mp hc
    cases heq
    obtain ⟨b, core, -, -, hout⟩ := callCore_cases hcall
    have hjoined : RxCall.Joined ⟨f, h.ports f.dst, h.ports f.src⟩ :=
      ⟨(Bool.and_eq_true_iff.mp hf.src).2, (Bool.and_eq_true_iff.mp hf.dst).2, hf.peer, hf.back,
        hf.srcCable, hf.dstCable⟩
    refine forEach_inv (I := fun s => Tidy B s ∧ TiesKept h s) (fun _ _ s s' hs hstep => ?_) ?_ hout
    · have hu := mstpOutOfRx_undisturbed hstep
      exact ⟨hs.1.undisturbed hu, hs.2.trans hu.ties⟩
    · have hties : TiesKept h h := fun _ => ⟨rfl, rfl, rfl⟩
      refine ⟨⟨hT.tied, fun g hg => (hT.queue g hg).imp_left (OnCable.ties hties), fun c hc => ?_⟩,
        hties⟩
      rcases List.mem_cons.mp hc with rfl | hold
      · exact hjoined
      · exact hT.handed c hold
  · cases hc
    exact ⟨hT, fun _ => ⟨rfl, rfl, rfl⟩⟩

theorem nextFrame_tidy {all : Bool} {wave rest : List QueuedFrame} (hT : Tidy noFrame h)
    (hwave : ∀ g ∈ wave, OnCable h g) (hn : nextFrame all wave h = some (f, rest, h')) :
    Tidy noFrame h' ∧ OnCable h' f ∧ ∀ g ∈ rest, OnCable h' g := by
  rw [nextFrame.eq_def] at hn
  split at hn
  · cases hn
    exact ⟨hT, hwave _ List.mem_cons_self, fun g hg => hwave g (List.mem_cons_of_mem _ hg)⟩
  · split at hn
    · split at hn
      · rename_i g more hqueue
        cases hn
        have hon : ∀ g ∈ f :: rest, OnCable h g := fun g hg =>
          (hT.queue g (hqueue ▸ hg)).resolve_right id
        have hempty : Tidy noFrame { h with queue := [] } :=
          hT.undisturbed ⟨fun _ => ⟨rfl, rfl, rfl⟩, rfl, fun g hg => absurd hg List.not_mem_nil⟩
        have hties : TiesKept h { h with queue := [] } := fun _ => ⟨rfl, rfl, rfl⟩
        exact ⟨hempty, (hon _ List.mem_cons_self).ties hties,
          fun g hg => (hon g (List.mem_cons_of_mem _ hg)).ties hties⟩
      · cases hn
    · cases hn

theorem dropQueue_tidy (hT : Tidy B h) : Tidy B { h with queue := [] } :=
  hT.undisturbed ⟨fun _ => ⟨rfl, rfl, rfl⟩, rfl, fun _ hf => absurd hf List.not_mem_nil⟩

theorem deliverLoop_tidy {all : Bool} {budget : Nat} {wave : List QueuedFrame} {n : Int}
    (hT : Tidy noFrame h) (hwave : ∀ g ∈ wave, OnCable h g)
    (hc : deliverLoop o all budget wave n h = some (h', r)) : Tidy noFrame h' := by
  induction budget generalizing wave n h with
  | zero =>
    rw [deliverLoop] at hc
    split at hc
    · cases hc
      exact hT
    · rename_i hn
      cases hc
      exact dropQueue_tidy (nextFrame_tidy hT hwave hn).1
  | succ budget ih =>
    rw [deliverLoop] at hc
    split at hc
    · cases hc
      exact hT
    · rename_i f rest h₁ hn
      obtain ⟨hT₁, hf, hrest₁⟩ := nextFrame_tidy hT hwave hn
      obtain ⟨⟨h₂, ok⟩, hframe, hrest⟩ := Option.bind_eq_some_iff.mp hc
      obtain ⟨hT₂, hties⟩ := deliverFrame_tidy hT₁ hf hframe
      exact ih hT₂ (fun g hg => (hrest₁ g hg).ties hties) hrest

theorem deliverBpdus_tidy {all : Bool} (hT : Tidy noFrame h)
    (hc : mstpwDeliverBpdus o all h = some (h', r)) : Tidy noFrame h' := by
  refine deliverLoop_tidy (dropQueue_tidy hT) (fun g hg => ?_) hc
  have hties : TiesKept h { h with queue := [] } := fun _ => ⟨rfl, rfl, rfl⟩
  exact ((hT.queue g hg).resolve_right id).ties hties

theorem step_tidy {n : Nat} (hT : Tidy noFrame h) (hc : mstpwStep o n h = some h') :
    Tidy noFrame h' := by
  induction n generalizing h with
  | zero => exact Option.some.inj hc ▸ hT
  | succ n ih =>
    obtain ⟨h₁, hsecond, hrest⟩ := Option.bind_eq_some_iff.mp hc
    obtain ⟨⟨h₂, d⟩, hdeliver, hrest⟩ := Option.bind_eq_some_iff.mp hrest
    exact ih (deliverBpdus_tidy (oneSecond_tidy hT hsecond) hdeliver) hrest

/-! ### Ports and cables -/

theorem portSetEnable_tidy {speed duplex : Int} (hT : Tidy B h)
    (hc : mstpwPortSetEnable o p up speed duplex h = some (h', r)) : Tidy B h' := by
  rw [mstpwPortSetEnable] at hc
  split at hc
  · cases hc
    exact hT
  · obtain ⟨h₁, hnote, hc⟩ := Option.bind_eq_some_iff.mp hc
    obtain ⟨h₂, hsync, heq⟩ := Option.map_eq_some_iff.mp hc
    cases heq
    have hnoted : Tidy B h₁ := by
      split at hnote
      · obtain ⟨b, hb, hnote⟩ := Option.bind_eq_some_iff.mp hnote
        obtain ⟨⟨h₃, ok⟩, hcall, rfl⟩ := Option.map_eq_some_iff.mp hnote
        exact hT.callCore hcall
      · cases hnote
        exact hT
    exact (hnoted.congr (setAdmin_ties p up h₁) rfl rfl).syncCarrier hsync

theorem portCreate_tidy {name : Option String} {mac : Option (List Char)}
    {portno speed duplex : Int} (hS : Settled ∅ ∅ h) (hT : Tidy B h)
    (hc : mstpwPortCreate o brh name mac portno speed duplex h = some (h', r)) : Tidy B h' := by
  rw [mstpwPortCreate] at hc
  split at hc
  · cases hc
    exact hT
  · split at hc
    · cases hc
      exact hT
    · split at hc
      · cases hc
        exact hT
      · rename_i porth hporth
        have hasked : Tidy B { h with asked := h.asked + 1 } :=
          hT.congr (fun _ => ⟨rfl, rfl, rfl⟩) rfl rfl
        dsimp only at hc
        split at hc
        · cases hc
          exact hasked
        · obtain ⟨⟨h₁, ok⟩, hcall, heq⟩ := Option.map_eq_some_iff.mp hc
          have hports : h₁.ports = ({ h with asked := h.asked + 1 } : State).ports :=
            callCore_ports hcall
          have hT₁ := hasked.callCore hcall
          cases ok with
          | false =>
            obtain ⟨rfl, -⟩ := Prod.mk.inj heq
            exact hT₁
          | true =>
            obtain ⟨rfl, -⟩ := Prod.mk.inj heq
            have hcabling : Cabling h₁ :=
              hS.toCabling.kept (SlotsKept.of_eq hports) fun q _ => congrFun hports q
            refine hT₁.newSlot hcabling ?_
            rw [portHandleOk_congr hports, portHandleOk, (firstFree_spec hporth).1, Bool.and_false]

theorem unlink_tidy (hT : Tidy B h) (hclear : portHandleOk p h = true → Clear h p)
    (hc : mstpwUnlink o p h = some (h', r)) : Tidy B h' := by
  rw [mstpwUnlink] at hc
  split at hc
  · cases hc
    exact hT
  · rename_i hok
    have hp : portHandleOk p h = true := by simpa using hok
    obtain ⟨h₂, hsync, heq⟩ := Option.map_eq_some_iff.mp hc
    cases heq
    exact (hT.unplug hp (hclear hp)).syncCarrier hsync

theorem portDelete_tidy (hT : Tidy B h) (hclear : portHandleOk p h = true → Clear h p)
    (hc : mstpwPortDelete o p h = some (h', r)) : Tidy B h' := by
  rw [mstpwPortDelete] at hc
  split at hc
  · cases hc
    exact hT
  · rename_i hok
    have hp : portHandleOk p h = true := by simpa using hok
    obtain ⟨⟨h₁, ok⟩, hcall, hc⟩ := Option.bind_eq_some_iff.mp hc
    obtain ⟨h₂, hsync, heq⟩ := Option.map_eq_some_iff.mp hc
    cases heq
    have hpeer : (h₁.ports p).peer = -1 := by
      rw [callCore_ports hcall]
      exact unplug_peer p h
    exact ((Tidy.callCore (hT.unplug hp (hclear hp)) hcall).freeSlot hpeer).syncCarrier hsync

theorem unplugTwo_tidy {c d : Int} (hT : Tidy B h) (ha : portHandleOk a h = true)
    (hb : portHandleOk b h = true) (hca : Clear h a) (hcb : Clear h b)
    (hc : syncCarrier o c d (unplug b (unplug a h).1).1 = some h') : Tidy B h' :=
  ((hT.unplug ha hca).unplug ((unplug_handleOk a h b).trans hb) hcb.unplug).syncCarrier hc

theorem unplugBoth_tidy (hT : Tidy B h) (ha : portHandleOk a h = true)
    (hb : portHandleOk b h = true) (hca : Clear h a) (hcb : Clear h b)
    (hc : unplugBoth o a b h = some h') : Tidy B h' := by
  have hT' : Tidy B { h with asked := h.asked + 1 } := hT.congr (fun _ => ⟨rfl, rfl, rfl⟩) rfl rfl
  rw [unplugBoth] at hc
  dsimp only at hc
  split at hc
  · exact unplugTwo_tidy hT' hb ha hcb hca hc
  · exact unplugTwo_tidy hT' ha hb hca hcb hc

theorem link_tidy (hS : Settled ∅ ∅ h) (hT : Tidy B h)
    (hclear : portHandleOk a h = true → portHandleOk b h = true → a ≠ b → Clear h a ∧ Clear h b)
    (hc : mstpwLink o a b h = some (h', r)) : Tidy B h' := by
  rw [mstpwLink] at hc
  split at hc
  · cases hc
    exact hT
  · rename_i hok
    simp only [Bool.or_eq_true, Bool.not_eq_true', not_or, Bool.not_eq_false, beq_iff_eq] at hok
    obtain ⟨⟨ha, hb⟩, hab⟩ := hok
    obtain ⟨hca, hcb⟩ := hclear ha hb hab
    obtain ⟨h₁, hpulled, hc⟩ := Option.bind_eq_some_iff.mp hc
    obtain ⟨h₂, hsync, heq⟩ := Option.map_eq_some_iff.mp hc
    cases heq
    obtain ⟨-, -, -, hpa, hpb⟩ := unplugBoth_settled hS ha hb hpulled
    exact ((unplugBoth_tidy hT ha hb hca hcb hpulled).plug hab hpa hpb).syncCarrier hsync

theorem linkOneway_tidy (hS : Settled ∅ ∅ h) (hT : Tidy B h)
    (hclear : portHandleOk a h = true → portHandleOk b h = true → a ≠ b → Clear h a ∧ Clear h b)
    (hc : mstpwLinkOneway o a b h = some (h', r)) : Tidy B h' := by
  rw [mstpwLinkOneway] at hc
  split at hc
  · cases hc
    exact hT
  · rename_i hok
    simp only [Bool.or_eq_true, Bool.not_eq_true', not_or, Bool.not_eq_false, beq_iff_eq] at hok
    obtain ⟨⟨ha, hb⟩, hab⟩ := hok
    obtain ⟨hca, hcb⟩ := hclear ha hb hab
    obtain ⟨h₁, hpulled, hc⟩ := Option.bind_eq_some_iff.mp hc
    obtain ⟨h₂, hsync, heq⟩ := Option.map_eq_some_iff.mp hc
    cases heq
    obtain ⟨-, -, -, hpa, hpb⟩ := unplugBoth_settled hS ha hb hpulled
    have hplugged := (unplugBoth_tidy hT ha hb hca hcb hpulled).plug hab hpa hpb
    have hmuted : Tidy B (setSlot b (fun s => { s with mute := true }) (plug a b h₁)) :=
      hplugged.congr (setSlot_ties fun _ => ⟨rfl, rfl, rfl⟩) rfl rfl
    exact hmuted.syncCarrier hsync

/-- A frame to a port of the bridge that is being deleted. -/
def Doomed (brh : Int) (h : State) (f : QueuedFrame) : Prop :=
  portHandleOk f.dst h = true ∧ (h.ports f.dst).brh = brh

theorem Doomed.kept (hs : SlotsKept h h') (hf : Doomed brh h f) : Doomed brh h' f :=
  ⟨(hs.handleOk _).trans hf.1, (hs.brh _).trans hf.2⟩

/-- The frames to the port are dropped with it, and those from it are doomed. -/
theorem dropPort_tidy {i : Int} (hi : 0 ≤ i ∧ i < maxPorts) (hT : Tidy (Doomed brh h) h)
    (hclear : ∀ f ∈ h.queue, f.src = i → (h.ports i).brh = brh → (h.ports f.dst).brh = brh)
    (hc : dropPort o brh i h = some h') : Tidy (Doomed brh h') h' := by
  rw [dropPort] at hc
  split at hc
  · rename_i hthis
    simp only [Bool.and_eq_true, beq_iff_eq] at hthis
    have hp : portHandleOk i h = true := by
      rw [portHandleOk, hthis.1, Bool.and_true]
      exact decide_eq_true hi
    obtain ⟨⟨h₁, ok⟩, hcall, hsync⟩ := Option.bind_eq_some_iff.mp hc
    have hcall' :
        callCore o (mstpOut o) (.deletePort (portRef i)) brh (unplug i h).1 = some (h₁, ok) :=
      hcall
    have hpeer : (h₁.ports i).peer = -1 := by
      rw [callCore_ports hcall']
      exact unplug_peer i h
    have hpulled : Tidy (fun f => f.dst = i ∨ Doomed brh h f) (unplug i h).1 := by
      refine ⟨hT.tied.unplug hp, fun f hf => ?_, (unplug_rest i h).2.2.1 ▸ hT.handed⟩
      rw [(unplug_rest i h).2.1] at hf
      rcases hT.queue f hf with hon | hdoomed
      · by_cases hdst : f.dst = i
        · exact Or.inr (Or.inl hdst)
        · by_cases hsrc : f.src = i
          · exact Or.inr (Or.inr ⟨hon.dst, hclear f hf hsrc hthis.2⟩)
          · exact Or.inl (hon.unplug hT.tied hp hsrc hdst)
      · exact Or.inr (Or.inr hdoomed)
    have hfreed := ((hpulled.callCore hcall').freeSlot hpeer).undisturbed
      (freePurge_undisturbed i (setSlot i freeSlot h₁))
    have hdoomed : ∀ f ∈ (framePurgeDst i (setSlot i freeSlot h₁)).queue, Doomed brh h f →
        Doomed brh (framePurgeDst i (setSlot i freeSlot h₁)) f := by
      intro f hf hd
      have hne : f.dst ≠ i := by simpa using (List.mem_filter.mp hf).2
      have hslot : (framePurgeDst i (setSlot i freeSlot h₁)).ports f.dst =
          (unplug i h).1.ports f.dst := by
        have hcore : h₁.ports = (unplug i h).1.ports := callCore_ports hcall'
        exact (setSlot_of_ne hne _ _).trans (by rw [hcore])
      refine ⟨?_, ?_⟩
      · rw [portHandleOk, hslot, ← portHandleOk, unplug_handleOk]
        exact hd.1
      · rw [hslot]
        rcases unplug_slot i h f.dst with heq | heq <;> rw [heq] <;> exact hd.2
    have hrest : Tidy (Doomed brh (framePurgeDst i (setSlot i freeSlot h₁)))
        (framePurgeDst i (setSlot i freeSlot h₁)) := by
      refine hfreed.weaken fun f hf hB => Or.inr (hB.elim (fun hdst => ?_) (hdoomed f hf))
      have hne : f.dst ≠ i := by simpa using (List.mem_filter.mp hf).2
      exact absurd hdst hne
    exact (hrest.syncCarrier hsync).weaken fun f _ hd =>
      Or.inr (hd.kept (syncCarrier_quiet hsync).slots)
  · cases hc
    exact hT

theorem forEach_concat {act : Int → State → Option State} {l : List Int} {i : Int}
    (hc : forEach act (l ++ [i]) h = some h') :
    ∃ s, forEach act l h = some s ∧ act i s = some h' := by
  induction l generalizing h with
  | nil =>
    obtain ⟨s, hs, hdone⟩ := Option.bind_eq_some_iff.mp hc
    obtain rfl := Option.some.inj hdone
    exact ⟨h, rfl, hs⟩
  | cons j rest ih =>
    obtain ⟨s, hs, hrest⟩ := Option.bind_eq_some_iff.mp hc
    obtain ⟨s', hs', hlast⟩ := ih hrest
    exact ⟨s', Option.bind_eq_some_iff.mpr ⟨s, hs, hs'⟩, hlast⟩

theorem dropPorts_tidy {n : Nat} (hn : n ≤ maxPorts) (hT : Tidy (Doomed brh h) h)
    (hclear : DropsClear o brh h) (hc : forEach (dropPort o brh) (handles n) h = some h') :
    Tidy (Doomed brh h') h' := by
  induction n generalizing h' with
  | zero => exact Option.some.inj hc ▸ hT
  | succ n ih =>
    have hsucc : handles (n + 1) = handles n ++ [(n : Int)] := by
      simp [handles, List.range_succ]
    rw [hsucc] at hc
    obtain ⟨s, hs, hlast⟩ := forEach_concat hc
    have hrange : (0 : Int) ≤ n ∧ (n : Int) < maxPorts := ⟨by omega, by omega⟩
    exact dropPort_tidy hrange (ih (by omega) hs) (hclear n s (by omega) hs) hlast

theorem bridgeDelete_tidy (hS : Settled ∅ ∅ h) (hT : Tidy noFrame h)
    (hclear : brHandleOk brh h = true → DropsClear o brh h)
    (hc : mstpwBridgeDelete o brh h = some (h', r)) : Tidy noFrame h' := by
  rw [mstpwBridgeDelete] at hc
  split at hc
  · cases hc
    exact hT
  · rename_i hok
    obtain ⟨h₁, hloop, heq⟩ := Option.map_eq_some_iff.mp hc
    cases heq
    have hstart : Tidy (Doomed brh h) h := hT.weaken fun _ _ hno => absurd hno id
    have hT₁ := dropPorts_tidy (Nat.le_refl _) hstart (hclear (by simpa using hok)) hloop
    -- no port of the bridge is left, so no frame to it either
    have hnone : Tidy noFrame h₁ := hT₁.weaken fun f _ hd =>
      absurd hd.2 ((dropPorts_settled hS hloop).2 f.dst hd.1)
    exact hnone.congr (fun _ => ⟨rfl, rfl, rfl⟩) rfl rfl

/-- A call that pulls no cable under a frame leaves all frames on their cables. -/
theorem mstpw_tidy {c : Call} (hS : Settled ∅ ∅ h) (hT : Tidy noFrame h) (hclear : PullsClear o c h)
    (hc : mstpw o c h = some (h', r)) : Tidy noFrame h' := by
  cases c with
  | bridgeCreate name mac =>
    have hpair : (mstpwBridgeCreate o name mac h).1 = h' := congrArg Prod.fst (Option.some.inj hc)
    exact hpair ▸ bridgeCreate_tidy name mac hT
  | bridgeSetEnable brh up => exact bridgeSetEnable_tidy hT hc
  | bridgeDelete brh => exact bridgeDelete_tidy hS hT hclear hc
  | portCreate brh name mac portno speed duplex => exact portCreate_tidy hS hT hc
  | portSetEnable porth up speed duplex => exact portSetEnable_tidy hT hc
  | portDelete porth => exact portDelete_tidy hT hclear hc
  | link a b => exact link_tidy hS hT hclear hc
  | linkOneway a b => exact linkOneway_tidy hS hT hclear hc
  | unlink porth => exact unlink_tidy hT hclear hc
  | oneSecond =>
    obtain ⟨h₁, hloop, heq⟩ := Option.map_eq_some_iff.mp hc
    cases heq
    exact oneSecond_tidy hT hloop
  | deliverBpdus all => exact deliverBpdus_tidy hT hc
  | step seconds =>
    obtain ⟨h₁, hloop, heq⟩ := Option.map_eq_some_iff.mp hc
    cases heq
    exact step_tidy hT hloop
  | setBridgePriority brh mstid priority =>
    rw [mstpw, mstpwSetBridgePriority] at hc
    split at hc
    · cases hc
      exact hT
    · exact manageBridge_tidy hT hc
  | setPortPathCost porth mstid cost =>
    rw [mstpw, mstpwSetPortPathCost] at hc
    split at hc
    · exact portConfig_tidy hT hc
    · split at hc
      · cases hc
        exact hT
      · exact managePort_tidy hT hc
  | setMstConfigId => exact manageBridge_tidy hT hc
  | setForceProtocolVersion => exact manageBridge_tidy hT hc
  | setBridgeTimes => exact manageBridge_tidy hT hc
  | createMsti => exact manageBridge_tidy hT hc
  | deleteMsti => exact manageBridge_tidy hT hc
  | setVid2fid => exact manageBridge_tidy hT hc
  | setFid2mstid => exact manageBridge_tidy hT hc
  | setPortAdminEdge => exact portConfig_tidy hT hc
  | setPortAutoEdge => exact portConfig_tidy hT hc
  | setPortAdminP2p => exact portConfig_tidy hT hc
  | setPortBpduGuard => exact portConfig_tidy hT hc
  | setPortRestrictedRole => exact portConfig_tidy hT hc
  | setPortRestrictedTcn => exact portConfig_tidy hT hc
  | setPortNetwork => exact portConfig_tidy hT hc

end Calls

/-! ## Runs -/

/-- In a run that pulls no cable under a frame, every frame is handed to the port that was the
peer of its sender, over the cable that has joined them ever since. -/
theorem frames_stay_on_cable {o : Outside} {h : State} (hr : Reached o (PullsClear o) h) :
    (∀ c ∈ h.handed, c.Joined) ∧ ∀ f ∈ h.queue, OnCable h f := by
  have hT : Tidy noFrame h := by
    induction hr with
    | start =>
      exact ⟨fun p hp => by simp [portHandleOk] at hp, fun f hf => absurd hf List.not_mem_nil,
        fun c hc => absurd hc List.not_mem_nil⟩
    | call hr hclear hstep ih => exact mstpw_tidy hr.settled ih hclear hstep
  exact ⟨hT.handed, fun f hf => (hT.queue f hf).resolve_right id⟩

/-- A BPDU crosses a cable that nobody pulls. -/
theorem frame_crosses_cable : ∃ h,
    calls sampleCables (sampleLink ++ [.deliverBpdus true]) {} = some h ∧ h.handed ≠ [] ∧
      ∀ c ∈ h.handed, c.Joined := by
  obtain ⟨h, hh⟩ := Option.isSome_iff_exists.mp (show (calls sampleCables
    (sampleLink ++ [.deliverBpdus true]) {}).isSome from by decide +kernel)
  have hhanded : ((calls sampleCables (sampleLink ++ [.deliverBpdus true]) {}).all fun s =>
      !s.handed.isEmpty) = true := by decide +kernel
  have hqueue : ((calls sampleCables samplePorts {}).all fun s => s.queue.isEmpty) = true := by
    decide +kernel
  have hparts := hh
  rw [sampleLink, List.append_assoc, calls_append] at hparts
  obtain ⟨h₁, hports, hrest⟩ := Option.bind_eq_some_iff.mp hparts
  obtain ⟨⟨h₂, r⟩, hlink, hrest⟩ := Option.bind_eq_some_iff.mp hrest
  rw [hh] at hhanded
  rw [hports] at hqueue
  simp only [Option.all_some, Bool.not_eq_true', List.isEmpty_eq_false_iff] at hhanded
  simp only [Option.all_some, List.isEmpty_iff] at hqueue
  have hr₁ : Reached sampleCables (PullsClear sampleCables) h₁ :=
    calls_reached (by simp [samplePorts, PullsClear]) .start hports
  have hclear : PullsClear sampleCables (.link 0 1) h₁ := fun _ _ _ => by simp [Clear, hqueue]
  have hr₂ : Reached sampleCables (PullsClear sampleCables) h₂ := hr₁.call hclear hlink
  have hr : Reached sampleCables (PullsClear sampleCables) h :=
    calls_reached (by simp [sampleUp, PullsClear]) hr₂ hrest
  exact ⟨h, hh, hhanded, (frames_stay_on_cable hr).1⟩

/-- A BPDU arrives over a cable that has been pulled, and at a port that was created after it had
been sent. -/
theorem pulled_cable_delivers :
    (∃ h, calls sampleCables (sampleLink ++ [.unlink 0, .deliverBpdus true]) {} = some h ∧
      ∃ c ∈ h.handed, ¬ c.Joined) ∧
    ∃ h, calls sampleCables (sampleLink ++
        [.portDelete 1, .portCreate 1 none none 2 1000 1, .portSetEnable 1 true 0 1,
          .deliverBpdus true]) {} = some h ∧
      ∃ c ∈ h.handed, ¬ c.Joined := by
  have hcase : ∀ l, ((calls sampleCables l {}).any fun s => s.handed.any fun c =>
      c.receiver.peer != c.frame.src) = true →
      ∃ h, calls sampleCables l {} = some h ∧ ∃ c ∈ h.handed, ¬ c.Joined := by
    intro l hl
    cases hh : calls sampleCables l {} with
    | none =>
      rw [hh] at hl
      cases hl
    | some h =>
      rw [hh] at hl
      obtain ⟨c, hc, hne⟩ := List.any_eq_true.mp hl
      exact ⟨h, rfl, c, hc, fun hjoined => absurd hjoined.back (bne_iff_ne.mp hne)⟩
  exact ⟨hcase _ (by decide +kernel), hcase _ (by decide +kernel)⟩

end Mstpd.Harness
