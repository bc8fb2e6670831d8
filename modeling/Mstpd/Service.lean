import Mstpd.Cabling
import Mstpd.CtlCommands
import Mstpd.Ethernet

/-!
# The daemon at work

The main loop serves link events, packets, datagrams of the control socket and seconds, in
whatever order they come. None of them takes the state machines of a bridge to a state that
operations on the bridge alone would not reach.
-/

namespace Mstpd

open Bridge Table CtlServer
open CtlSocket (Datagram cmdCodeAddBridges cmdCodeDelBridges laterCommand)

/-! ## Events -/

/-- What wakes the main loop. -/
inductive Event
  | link (brIndex ifIndex : Int) (newlink : Bool) (flags : Nat)
  | packet (ifIndex : Int) (stack : Mem) (packet : Option (List UInt8))
  | control (d : Datagram)
  | second

/-- The handler of an event; `env` is how the calls for a packet run. -/
def serve (o : Outside) (env : Int → Env) (s : ServerState) : Event → Option ServerState
  | .link brIndex ifIndex newlink flags =>
    (bridgeNotify o brIndex ifIndex newlink flags s.bridges).map fun r => { s with bridges := r.1 }
  | .packet ifIndex stack packet =>
    (packetRcv env ifIndex stack packet s.bridges).map fun d => { s with bridges := d }
  | .control d => (ctlRcvHandler o s d).map Prod.fst
  | .second => (bridgeOneSecond o s.bridges).map fun d => { s with bridges := d }

/-- The states of the daemon, whatever happens and in whatever order. -/
inductive Served : ServerState → Prop
  | start (logLevel : Int) : Served ⟨[], logLevel⟩
  | step {o : Outside} {env : Int → Env} {s s' : ServerState} {e : Event} (h : Served s)
    (hserve : serve o env s e = some s') : Served s'

/-! ## The state machines of one bridge -/

/-- Operations lead from the core of one bridge to that of the other. -/
def CoreRuns (b b' : TrackedBridge) : Prop :=
  Relation.ReflTransGen (Step anyOp) b.core b'.core

section OneBridge

variable {o : Outside} {b b' : TrackedBridge} {p : PortRef} {ifIndex : Int}

theorem CoreRuns.refl (b : TrackedBridge) : CoreRuns b b := Relation.ReflTransGen.refl

theorem CoreRuns.trans {b'' : TrackedBridge} (h : CoreRuns b b') (h' : CoreRuns b' b'') :
    CoreRuns b b'' := Relation.ReflTransGen.trans h h'

theorem CoreRuns.exec {env : Env} {ok : Bool} (op : Op) (hv : op.Valid b.core)
    (h : exec env b.core op = some (b'.core, ok)) : CoreRuns b b' :=
  Relation.ReflTransGen.single ⟨env, op, ok, hv, trivial, h⟩

theorem refreshAddress_runs {lookup : AddressLookup} {call : CoreCall}
    (h : refreshAddress o lookup call b = some b') : CoreRuns b b' := by
  rw [refreshAddress] at h
  split at h
  · exact Option.some.inj h ▸ CoreRuns.refl b
  · rename_i macaddr _
    obtain ⟨core, hcore, rfl⟩ := Option.map_eq_some_iff.mp h
    exact CoreRuns.exec (.setBridgeAddress macaddr) trivial
      (by rw [Mstpd.exec, hcore]; rfl)

theorem setBridgeEnable_runs {env : Env} {up : Bool} {core : Bridge}
    (h : mstpInSetBridgeEnable env up b.core = some core) (hb : b'.core = core) :
    CoreRuns b b' :=
  CoreRuns.exec (.setBridgeEnable up) trivial (by rw [Mstpd.exec, h, hb]; rfl)

theorem setBrUp_runs {up : Bool} (h : setBrUp o up b = some b') : CoreRuns b b' := by
  obtain ⟨b₁, h₁, h₂⟩ := Option.bind_eq_some_iff.mp h
  have hfirst : CoreRuns { b with up := up } b₁ := refreshAddress_runs h₁
  apply CoreRuns.trans hfirst
  split at h₂
  · obtain ⟨core, hcore, rfl⟩ := Option.map_eq_some_iff.mp h₂
    exact setBridgeEnable_runs hcore rfl
  · exact Option.some.inj h₂ ▸ CoreRuns.refl b₁

theorem refreshIfAddress_runs (h : refreshIfAddress o p b = some b') : CoreRuns b b' := by
  rw [refreshIfAddress] at h
  split at h
  · exact Option.some.inj h ▸ CoreRuns.refl b
  · rename_i macaddr _
    have hset : CoreRuns b (setIf p { b.ifs p with macaddr := macaddr } b) := CoreRuns.refl b
    exact hset.trans (refreshAddress_runs h)

theorem noteLink_runs (hp : p ∈ b.core.ports) (up : Bool) : CoreRuns b (noteLink o p up b).1 := by
  cases up with
  | false => exact CoreRuns.refl b
  | true => exact @CoreRuns.exec _ _ sampleEnv true (.sysdeps p _ _) hp rfl

theorem setPortEnable_runs (hp : p ∈ b.core.ports) (h : setPortEnable o p b = some b') :
    CoreRuns b b' := by
  obtain ⟨core, hcore, rfl⟩ := Option.map_eq_some_iff.mp h
  exact CoreRuns.exec (.setPortEnable p _ _ _) hp (by rw [Mstpd.exec, hcore]; rfl)

theorem setIfUp_runs (hp : p ∈ b.core.ports) {up : Bool} (h : setIfUp o up p b = some b') :
    CoreRuns b b' := by
  obtain ⟨b₁, h₁, h₂⟩ := Option.bind_eq_some_iff.mp h
  have hports : b₁.core.ports = b.core.ports :=
    (refreshIfAddress_links h₁).core.config_eq Bridge.ports fun _ => rfl
  have hp₁ : p ∈ b₁.core.ports := hports ▸ hp
  have hnoted : CoreRuns b₁ (noteLink o p up b₁).1 := noteLink_runs hp₁ up
  apply CoreRuns.trans (refreshIfAddress_runs h₁)
  dsimp only at h₂
  split at h₂
  · have hcore : Frame besideUp b₁.core (noteLink o p up b₁).1.core :=
      (noteLink_links p up b₁).2.2.2.2.2.1
    have hp₂ : p ∈ (noteLink o p up b₁).1.core.ports := by
      rw [hcore.config_eq Bridge.ports fun _ => rfl]
      exact hp₁
    exact hnoted.trans (setPortEnable_runs hp₂ h₂)
  · exact Option.some.inj h₂ ▸ hnoted

/-- A port number that `create_if` takes is one that the state machines take. -/
theorem portno_range {portno : Int}
    (hlow : ¬ (portno < 0 ∨ portno = 0 ∨ (maxPortNumber : Int) < portno)) :
    1 ≤ (UInt16.ofInt portno).toNat ∧ (UInt16.ofInt portno).toNat ≤ maxPortNumber := by
  have hmax : maxPortNumber = 4095 := rfl
  obtain ⟨n, rfl⟩ := Int.eq_ofNat_of_zero_le (by omega : 0 ≤ portno)
  have hn : (UInt16.ofInt (n : Int)).toNat = n := by
    simp only [UInt16.ofInt, UInt16.toNat_ofNat']
    omega
  rw [hn]
  omega

theorem createIf_runs (h : createIf o ifIndex b = some b') : CoreRuns b b' := by
  have hsame : some b = some b' → CoreRuns b b' := fun h => Option.some.inj h ▸ CoreRuns.refl b
  rw [createIf] at h
  split at h
  · exact hsame h
  · split at h
    · exact hsame h
    · split at h
      · exact hsame h
      · rename_i name _ _ macaddr _
        dsimp only at h
        split at h
        · exact hsame h
        · rename_i hportno
          split at h
          · exact hsame h
          · obtain ⟨⟨core, ok⟩, hcore, rfl⟩ := Option.map_eq_some_iff.mp h
            cases ok with
            | false => exact CoreRuns.refl b
            | true =>
              have hvalid : Op.Valid b.core (.createPort (freshPort b.core)
                  (.ofInt (o.getBridgePortno name)) name 0 0) :=
                ⟨freshPort_not_mem b.core, portno_range hportno⟩
              exact CoreRuns.exec _ hvalid hcore

theorem deleteIf_runs (h : deleteIfByindex o ifIndex b = some b') : CoreRuns b b' := by
  rw [deleteIfByindex] at h
  split at h
  · exact Option.some.inj h ▸ CoreRuns.refl b
  · rename_i p hp
    obtain ⟨core, hcore, rfl⟩ := Option.map_eq_some_iff.mp h
    exact CoreRuns.exec (.deletePort p) (findIf_some hp).1 (by rw [Mstpd.exec, hcore]; rfl)

/-- A loop over the ports of a bridge. -/
theorem forEachIf_runs {act : PortRef → TrackedBridge → Option TrackedBridge}
    (hact : ∀ p c c', p ∈ c.core.ports → act p c = some c' →
      CoreRuns c c' ∧ c'.core.ports = c.core.ports)
    (h : forEachIf act b = some b') : CoreRuns b b' := by
  have hloop : CoreRuns b b' ∧ b'.core.ports = b.core.ports := by
    refine Machine.forEach_inv (I := fun c => CoreRuns b c ∧ c.core.ports = b.core.ports)
      ?_ ⟨CoreRuns.refl b, rfl⟩ h
    rintro p hp c c' ⟨hruns, hports⟩ hc
    obtain ⟨hstep, hsame⟩ := hact p c c' (hports ▸ hp) hc
    exact ⟨hruns.trans hstep, hsame.trans hports⟩
  exact hloop.1

theorem addBridge_runs (h : addBridge o b = some b') : CoreRuns b b' := by
  rw [addBridge] at h
  split at h
  · exact Option.some.inj h ▸ CoreRuns.refl b
  · obtain ⟨core, hcore, hloop⟩ := Option.bind_eq_some_iff.mp h
    have hfirst : CoreRuns b { b with stpEnabled := true, core := core } :=
      setBridgeEnable_runs hcore rfl
    refine hfirst.trans (forEachIf_runs (fun p c c' hp hc => ?_) hloop)
    obtain ⟨core', rfl, -, hports, -⟩ := setPortEnable_links hc
    exact ⟨setPortEnable_runs hp hc, hports⟩

theorem delBridge_runs (h : delBridge o b = some b') : CoreRuns b b' := by
  rw [delBridge] at h
  split at h
  · obtain ⟨b₁, hloop, hlast⟩ := Option.bind_eq_some_iff.mp h
    obtain ⟨core, hcore, rfl⟩ := Option.map_eq_some_iff.mp hlast
    refine CoreRuns.trans (forEachIf_runs (fun p c c' hp hc => ?_) hloop)
      (setBridgeEnable_runs hcore rfl)
    obtain ⟨core', hcore', rfl⟩ := Option.map_eq_some_iff.mp hc
    exact ⟨CoreRuns.exec (.setPortEnable p false 0 0) hp (by rw [Mstpd.exec, hcore']; rfl),
      (setPortEnable_up hcore').2.1⟩
  · exact Option.some.inj h ▸ CoreRuns.refl b

theorem oneSecond_runs (h : oneSecond o b = some b') : CoreRuns b b' := by
  rw [Mstpd.oneSecond] at h
  split at h
  · obtain ⟨core, hcore, rfl⟩ := Option.map_eq_some_iff.mp h
    exact CoreRuns.exec .oneSecond trivial (by rw [Mstpd.exec, hcore]; rfl)
  · exact Option.some.inj h ▸ CoreRuns.refl b

theorem bpduForBridge_runs {env : Int → Env} {data : Mem} {len : Int}
    (h : bpduForBridge env ifIndex data len b = some b') : CoreRuns b b' := by
  rw [bpduForBridge] at h
  split at h
  · exact Option.some.inj h ▸ CoreRuns.refl b
  · rename_i p hp
    split at h
    · exact Option.some.inj h ▸ CoreRuns.refl b
    · split at h
      · exact Option.some.inj h ▸ CoreRuns.refl b
      · obtain ⟨core, hcore, rfl⟩ := Option.map_eq_some_iff.mp h
        exact CoreRuns.exec (.rxBpdu p _ _) (findIf_some hp).1
          (by rw [Mstpd.exec, hcore]; rfl)

end OneBridge

/-! ## All bridges -/

/-- The core of every bridge is one that operations reach from its creation. -/
def AllReachable (d : Daemon) : Prop := ∀ b ∈ d, Reachable anyOp b.core

section AllBridges

variable {o : Outside} {d d' : Daemon} {brIndex ifIndex r : Int}
  {f : TrackedBridge → Option TrackedBridge} {q : TrackedBridge → Bool}

theorem CoreRuns.reachable {b b' : TrackedBridge} (h : CoreRuns b b')
    (hb : Reachable anyOp b.core) : Reachable anyOp b'.core := by
  obtain ⟨env, macaddr, hrun⟩ := hb
  exact ⟨env, macaddr, hrun.trans h⟩

theorem AllReachable.update (hd : AllReachable d)
    (hruns : ∀ b b', f b = some b' → CoreRuns b b') (h : updateFirst q f d = some d') :
    AllReachable d' :=
  updateFirst_forall (fun b hb b' _ hf => (hruns b b' hf).reachable (hd b hb)) hd h

theorem AllReachable.monitor (hd : AllReachable d) (h : monitorBr o ifIndex d = some d') :
    AllReachable d' := by
  rw [monitorBr] at h
  split at h
  · exact Option.some.inj h ▸ hd
  · obtain ⟨b, hb, rfl⟩ := Option.map_eq_some_iff.mp h
    have hnew : Reachable anyOp b.core := by
      rw [createBr] at hb
      split at hb
      · cases hb
      · obtain ⟨name, -, hb⟩ := Option.bind_eq_some_iff.mp hb
        obtain ⟨macaddr, -, hb⟩ := Option.bind_eq_some_iff.mp hb
        dsimp only at hb
        split at hb
        · obtain rfl := Option.some.inj hb
          exact ⟨_, macaddr, Relation.ReflTransGen.refl⟩
        · cases hb
    intro c hc
    rcases List.mem_append.mp hc with hold | hone
    · exact hd c hold
    · exact List.mem_singleton.mp hone ▸ hnew

theorem AllReachable.refreshBr (hd : AllReachable d) (h : refreshBr o brIndex d = some d') :
    AllReachable d' := by
  refine hd.update (fun b b' hf => ?_) h
  dsimp only at hf
  split at hf
  · exact setBrUp_runs hf
  · exact Option.some.inj hf ▸ CoreRuns.refl b

theorem AllReachable.comeToBr (hd : AllReachable d) (h : comeToBr o brIndex ifIndex d = some d') :
    AllReachable d' := by
  obtain ⟨d₁, h₁, h₂⟩ := Option.bind_eq_some_iff.mp h
  have hd₁ : AllReachable d₁ := hd.update (fun _ _ => deleteIf_runs) h₁
  exact hd₁.update (fun _ _ => createIf_runs) h₂

theorem AllReachable.notifySlave (hd : AllReachable d) {newlink running : Bool}
    (h : notifySlave o brIndex ifIndex newlink running d = some (d', r)) : AllReachable d' := by
  rw [Mstpd.notifySlave] at h
  split at h
  · exact (Prod.mk.inj (Option.some.inj h)).1 ▸ hd
  · obtain ⟨d₁, h₁, h₂⟩ := Option.bind_eq_some_iff.mp h
    have hd₁ : AllReachable d₁ := by
      split at h₁
      · exact Option.some.inj h₁ ▸ hd
      · exact hd.comeToBr h₁
    split at h₂
    · exact (Prod.mk.inj (Option.some.inj h₂)).1 ▸ hd₁
    · split at h₂
      · obtain ⟨d₂, hdelete, heq⟩ := Option.map_eq_some_iff.mp h₂
        exact (Prod.mk.inj heq).1 ▸ hd₁.update (fun _ _ => deleteIf_runs) hdelete
      · obtain ⟨d₂, hup, heq⟩ := Option.map_eq_some_iff.mp h₂
        refine (Prod.mk.inj heq).1 ▸ hd₁.update (fun b b' hf => ?_) hup
        split at hf
        · exact Option.some.inj hf ▸ CoreRuns.refl b
        · rename_i p hp
          exact setIfUp_runs (findIf_some hp).1 hf

theorem AllReachable.unregister (hd : AllReachable d) (h : unregister o ifIndex d = some d') :
    AllReachable d' := by
  rw [Mstpd.unregister] at h
  split at h
  · obtain rfl := Option.some.inj h
    have hsub : (d.eraseP (isBr ifIndex)).Sublist d := List.eraseP_sublist
    exact fun b hb => hd b (hsub.subset hb)
  · exact hd.update (fun _ _ => deleteIf_runs) h

theorem AllReachable.notify (hd : AllReachable d) {newlink : Bool} {flags : Nat}
    (h : bridgeNotify o brIndex ifIndex newlink flags d = some (d', r)) : AllReachable d' := by
  rw [bridgeNotify] at h
  split at h
  · split at h
    · exact (Prod.mk.inj (Option.some.inj h)).1 ▸ hd
    · rename_i d₁ h₁
      obtain ⟨d₂, h₂, hrest⟩ := Option.bind_eq_some_iff.mp h
      exact ((hd.monitor h₁).refreshBr h₂).notifySlave hrest
  · split at h
    · obtain ⟨d₁, h₁, heq⟩ := Option.map_eq_some_iff.mp h
      exact (Prod.mk.inj heq).1 ▸ hd.unregister h₁
    · split at h
      · split at h
        · exact (Prod.mk.inj (Option.some.inj h)).1 ▸ hd
        · rename_i d₁ h₁
          obtain ⟨d₂, h₂, heq⟩ := Option.map_eq_some_iff.mp h
          exact (Prod.mk.inj heq).1 ▸ (hd.monitor h₁).update (fun _ _ => setBrUp_runs) h₂
      · exact (Prod.mk.inj (Option.some.inj h)).1 ▸ hd

theorem AllReachable.addBridges {brArray : List Int} (hd : AllReachable d)
    (h : ctlAddBridges o brArray d = some (d', r)) : AllReachable d' := by
  induction brArray generalizing d with
  | nil => exact (Prod.mk.inj (Option.some.inj h)).1 ▸ hd
  | cons i rest ih =>
    rw [ctlAddBridges] at h
    split at h
    · exact (Prod.mk.inj (Option.some.inj h)).1 ▸ hd
    · rename_i d₁ h₁
      obtain ⟨d₂, h₂, hrest⟩ := Option.bind_eq_some_iff.mp h
      exact ih ((hd.monitor h₁).update (fun _ _ => addBridge_runs) h₂) hrest

theorem AllReachable.delBridges {brArray : List Int} (hd : AllReachable d)
    (h : ctlDelBridges o brArray d = some (d', r)) : AllReachable d' := by
  induction brArray generalizing d with
  | nil => exact (Prod.mk.inj (Option.some.inj h)).1 ▸ hd
  | cons i rest ih =>
    obtain ⟨d₁, h₁, hrest⟩ := Option.bind_eq_some_iff.mp h
    exact ih (hd.update (fun _ _ => delBridge_runs) h₁) hrest

theorem AllReachable.second (hd : AllReachable d) (h : bridgeOneSecond o d = some d') :
    AllReachable d' := by
  induction d generalizing d' with
  | nil => exact Option.some.inj h ▸ hd
  | cons b d ih =>
    obtain ⟨b', hb', hrest⟩ := Option.bind_eq_some_iff.mp h
    obtain ⟨d₁, hd₁, rfl⟩ := Option.map_eq_some_iff.mp hrest
    intro c hc
    rcases List.mem_cons.mp hc with rfl | hold
    · exact (oneSecond_runs hb').reachable (hd b List.mem_cons_self)
    · exact ih (fun c hc => hd c (List.mem_cons_of_mem b hc)) hd₁ c hold

end AllBridges

/-! ## The state of the daemon -/

/-- No bridge or interface is tracked twice, and each core is in a state of its own. -/
structure Sound (d : Daemon) : Prop where
  tracking : Tracking d
  reachable : AllReachable d

section Sound

variable {o : Outside} {d d' : Daemon} {brIndex ifIndex r : Int}

/-- Calls into the cores of bridges that keep the links. -/
theorem Sound.update {f : TrackedBridge → Option TrackedBridge} {q : TrackedBridge → Bool}
    (hd : Sound d)
    (hf : ∀ b ∈ d, q b = true → ∀ b', f b = some b' → CoreRuns b b' ∧ SameLinks b b')
    (h : updateFirst q f d = some d') : Sound d' where
  tracking :=
    { indices := by
        rw [updateFirst_map (fun b hb b' hq hstep => (hf b hb hq b' hstep).2.index) h]
        exact hd.tracking.indices
      interfaces := by
        refine hd.tracking.interfaces.sublist (updateFirst_sublist (fun b hb b' hq hstep => ?_) h)
        rw [(hf b hb hq b' hstep).2.ifIndexes]
      agrees := updateFirst_forall
        (fun b hb b' hq hstep => (hf b hb hq b' hstep).2.agrees (hd.tracking.agrees b hb))
        hd.tracking.agrees h }
  reachable := updateFirst_forall
    (fun b hb b' hq hstep => (hf b hb hq b' hstep).1.reachable (hd.reachable b hb)) hd.reachable h

theorem Sound.packet {env : Int → Env} {stack : Mem} {packet : Option (List UInt8)}
    (hd : Sound d) (h : packetRcv env ifIndex stack packet d = some d') : Sound d' := by
  cases packet with
  | none => exact Option.some.inj h ▸ hd
  | some octets =>
    simp only [packetRcv] at h
    split at h
    · exact Option.some.inj h ▸ hd
    · refine hd.update (fun b _ _ b' hb => ⟨bpduForBridge_runs hb, ?_⟩) h
      rw [bpduForBridge] at hb
      split at hb
      · exact Option.some.inj hb ▸ SameLinks.refl b
      · rename_i p hp
        split at hb
        · exact Option.some.inj hb ▸ SameLinks.refl b
        · split at hb
          · exact Option.some.inj hb ▸ SameLinks.refl b
          · obtain ⟨core, hcore, rfl⟩ := Option.map_eq_some_iff.mp hb
            exact ⟨rfl, rfl, rfl, fun _ => ⟨rfl, rfl⟩, rxBpdu_up hcore⟩

end Sound

/-! ## Commands -/

/-- The actions of commands. -/
def Act.commands : Act → Bool
  | .bridgeConfig _ => true
  | .mstiBridgeConfig _ _ => true
  | .portConfig _ _ => true
  | .mstiPortConfig _ _ _ => true
  | .mcheck _ => true
  | .createMsti _ _ => true
  | .removeMsti _ => true
  | .tables _ _ _ _ => true
  | .configId _ _ => true
  | _ => false

/-- The operations that commands call. -/
def Op.commands : Op → Bool
  | .setCistBridgeConfig _ => true
  | .setMstiBridgeConfig _ _ => true
  | .setCistPortConfig _ _ => true
  | .setMstiPortConfig _ _ _ => true
  | .portMcheck _ => true
  | .createMsti _ => true
  | .deleteMsti _ => true
  | .setMstConfigId _ _ => true
  | .setVid2fid _ _ => true
  | .setFid2mstid _ _ => true
  | .setAllVids2fids _ => true
  | .setAllFids2mstids _ => true
  | _ => false

section Commands

variable {o : Outside} {s : ServerState} {br br' : Bridge}

theorem Act.commands_up {a : Act} (ha : a.commands = true) (hg : a.Guard br) :
    Frame besideUp br (a.run br) := by
  have hbegin : ∀ {c : Prop} [Decidable c] {b : Bridge}, Frame besideUp br b →
      Frame besideUp br (if c then bridgeBegin b else b) := by
    intro c _ b hb
    exact Frame.ite (hb.trans (bridgeBegin_machines b).mono) hb
  have hmanaged : ∀ {b : Bridge}, Frame managementOwned br b → Frame besideUp br b :=
    fun hframe => hframe.mono
  cases a with
  | bridgeConfig cfg => exact hbegin (writeBridgeConfig_opFrame cfg br).frame.mono
  | tables env changed vid2fid fid2mstid =>
    exact hbegin (Frame.ite ⟨rfl, fun _ _ => rfl, fun _ => rfl, fun _ => rfl, rfl⟩
      ⟨rfl, fun _ _ => rfl, fun _ => rfl, fun _ => rfl, rfl⟩)
  | configId revision name =>
    have hwrite : Frame besideUp br (writeConfigId revision name br) :=
      ⟨rfl, fun _ _ => rfl, fun _ => rfl, fun _ => rfl, rfl⟩
    exact hwrite.trans (bridgeBegin_machines _).mono
  | createMsti mstid trees =>
    have hadd : Frame besideUp br (addTree mstid trees br) :=
      ⟨rfl, fun _ _ => rfl, fun _ => rfl, fun _ => rfl, rfl⟩
    have hmem : mstid ∈ (addTree mstid trees br).trees :=
      (insertAfterLast_mem hg.2.2.2.2 mstid).mpr (Or.inl rfl)
    exact hadd.trans (treeBegin_machines hmem).mono
  | removeMsti mstid => exact ⟨rfl, fun _ _ => rfl, fun _ => rfl, fun _ => rfl, rfl⟩
  | mstiBridgeConfig t prio => exact hmanaged (Act.frame (.mstiBridgeConfig t prio) br)
  | portConfig p cfg => exact hmanaged (Act.frame (.portConfig p cfg) br)
  | mstiPortConfig p t cfg => exact hmanaged (Act.frame (.mstiPortConfig p t cfg) br)
  | mcheck p => exact hmanaged (Act.frame (.mcheck p) br)
  | _ => cases ha

theorem Op.Takes.commands {op : Op} {a : Act} (h : op.Takes a) (hop : op.commands = true) :
    a.commands = true := by
  cases op with
  | setCistBridgeConfig | setMstiBridgeConfig | portMcheck | deleteMsti =>
    cases h
    rfl
  | setCistPortConfig | setMstiPortConfig =>
    obtain ⟨-, rfl⟩ := h
    rfl
  | createMsti | setMstConfigId =>
    obtain ⟨_, rfl⟩ := h
    rfl
  | setVid2fid | setFid2mstid | setAllVids2fids | setAllFids2mstids =>
    obtain ⟨_, _, _, _, rfl⟩ := h
    rfl
  | _ => cases hop

/-- A command leaves the ports of a bridge, and what is enabled, as they are. -/
theorem exec_up {env : Env} {op : Op} {ok : Bool} (hop : op.commands = true) (hv : op.Valid br)
    (h : exec env br op = some (br', ok)) : Frame besideUp br br' := by
  have hcomposes : Composes op.Takes (Frame besideUp) := by
    refine ⟨Frame.refl besideUp, Frame.trans, ?_, brRun_up⟩
    intro b a _ hg htakes
    exact Act.commands_up (htakes.commands hop) hg
  exact exec_composes hcomposes hv h

/-- A command leaves a daemon that is sound. -/
def KeepsSound (h : Handled) : Prop := ∀ r, h = some r → Sound r.1.bridges

theorem answer_sound (hs : Sound s.bridges) (r : Int × Reply) : KeepsSound (some (s, r)) := by
  intro r' h
  obtain rfl := Option.some.inj h
  exact hs

theorem setDebugLevel_sound (hs : Sound s.bridges) (level : Int) :
    KeepsSound (ctlSetDebugLevel s level) := by
  intro r h
  rw [ctlSetDebugLevel] at h
  obtain rfl := Option.some.inj h
  exact hs

theorem checkBridge_sound (hs : Sound s.bridges) {brIndex : Int} {act : TrackedBridge → Handled}
    (hact : ∀ b, findBr brIndex s.bridges = some b → KeepsSound (act b)) :
    KeepsSound (checkBridge s brIndex act) := by
  rw [checkBridge]
  split
  · exact answer_sound hs _
  · rename_i b hb
    exact hact b hb

theorem checkBridgePort_sound (hs : Sound s.bridges) {brIndex portIndex : Int}
    {act : TrackedBridge → PortRef → Handled}
    (hact : ∀ b p, findBr brIndex s.bridges = some b → p ∈ b.core.ports → KeepsSound (act b p)) :
    KeepsSound (checkBridgePort s brIndex portIndex act) := by
  refine checkBridge_sound hs fun b hb => ?_
  split
  · exact answer_sound hs _
  · rename_i p hp
    exact hact b p hb (findIf_some hp).1

theorem checkBridgeTree_sound (hs : Sound s.bridges) {brIndex : Int} {mstid : Mstid}
    {act : TrackedBridge → Handled}
    (hact : ∀ b, findBr brIndex s.bridges = some b → mstid ∈ b.core.trees → KeepsSound (act b)) :
    KeepsSound (checkBridgeTree s brIndex mstid act) := by
  refine checkBridge_sound hs fun b hb => ?_
  split
  · rename_i ht
    exact hact b hb (List.contains_iff_mem.mp ht)
  · exact answer_sound hs _

theorem checkBridgePertreeport_sound (hs : Sound s.bridges) {brIndex portIndex : Int}
    {mstid : Mstid} {act : TrackedBridge → PortRef → Handled}
    (hact : ∀ b p, findBr brIndex s.bridges = some b → p ∈ b.core.ports → mstid ∈ b.core.trees →
      KeepsSound (act b p)) :
    KeepsSound (checkBridgePertreeport s brIndex portIndex mstid act) := by
  refine checkBridgePort_sound hs fun b p hb hp => ?_
  split
  · rename_i ht
    exact hact b p hb hp (List.contains_iff_mem.mp ht)
  · exact answer_sound hs _

/-- The bridge that is written back is the one that was found. -/
theorem callCore_sound (hs : Sound s.bridges) {brIndex : Int} {b : TrackedBridge} {op : Op}
    (hb : findBr brIndex s.bridges = some b) (hop : op.commands = true) (hv : op.Valid b.core) :
    KeepsSound (callCore o s op b) := by
  intro r hr
  obtain ⟨⟨core, ok⟩, hexec, hrest⟩ := Option.bind_eq_some_iff.mp hr
  obtain ⟨d, hd, rfl⟩ := Option.map_eq_some_iff.mp hrest
  refine hs.update (fun c hc hindex c' hwrite => ?_) hd
  have hsame : c = b := by
    have hmem : b ∈ s.bridges := List.mem_of_find?_eq_some hb
    have hthis : isBr b.ifIndex b = true := beq_self_eq_true b.ifIndex
    exact Option.some.inj ((hs.tracking.findBr_of_mem hc hindex).symm.trans
      (hs.tracking.findBr_of_mem hmem hthis))
  obtain rfl := Option.some.inj hwrite
  obtain rfl := hsame
  exact ⟨CoreRuns.exec _ hv hexec, rfl, rfl, rfl, fun _ => ⟨rfl, rfl⟩, exec_up hop hv hexec⟩

/-- The commands of `SERVER_MESSAGE_CASE`. -/
theorem ctlCall_sound (hs : Sound s.bridges) {cmd : Int}
    (hcmd : cmd ∈ CtlSocket.messageCases.map CtlSocket.MessageCase.code) (input : List UInt8) :
    KeepsSound (ctlCall o s cmd input) := by
  have hlist : cmd ∈ ([101, 102, 103, 104, 105, 106, 107, 108, 109, 110, 111, 112, 113, 114, 115,
      116, 117, 118, 119, 120, 121] : List Int) := hcmd
  have hcall : ∀ {brIndex : Int} {op : Op}, op.commands = true → (∀ br, op.Valid br) →
      KeepsSound (checkBridge s brIndex (callCore o s op)) := fun hop hv =>
    checkBridge_sound hs fun b hb => callCore_sound hs hb hop (hv b.core)
  simp only [List.mem_cons, List.not_mem_nil, or_false] at hlist
  rcases hlist with rfl | rfl | rfl | rfl | rfl | rfl | rfl | rfl | rfl | rfl | rfl | rfl | rfl |
    rfl | rfl | rfl | rfl | rfl | rfl | rfl | rfl
  · exact checkBridge_sound hs fun b _ => answer_sound hs _
  · exact checkBridgeTree_sound hs fun b _ _ => answer_sound hs _
  · exact hcall rfl fun _ => trivial
  · exact checkBridgeTree_sound hs fun b hb ht => callCore_sound hs hb rfl ht
  · exact checkBridgePort_sound hs fun b p _ _ => answer_sound hs _
  · exact checkBridgePertreeport_sound hs fun b p _ _ _ => answer_sound hs _
  · exact checkBridgePort_sound hs fun b p hb hp => callCore_sound hs hb rfl hp
  · exact checkBridgePertreeport_sound hs fun b p hb hp ht => callCore_sound hs hb rfl ⟨hp, ht⟩
  · exact checkBridgePort_sound hs fun b p hb hp => callCore_sound hs hb rfl hp
  · exact setDebugLevel_sound hs _
  · exact checkBridge_sound hs fun b _ => answer_sound hs _
  · refine checkBridge_sound hs fun b hb => ?_
    split
    · exact callCore_sound hs hb rfl trivial
    · exact answer_sound hs _
  · refine checkBridge_sound hs fun b hb => ?_
    split
    · exact callCore_sound hs hb rfl trivial
    · exact answer_sound hs _
  · exact checkBridge_sound hs fun b _ => answer_sound hs _
  · exact hcall rfl fun _ => trivial
  · exact checkBridge_sound hs fun b _ => answer_sound hs _
  · exact checkBridge_sound hs fun b _ => answer_sound hs _
  · exact hcall rfl fun _ => trivial
  · exact hcall rfl fun _ => trivial
  · exact hcall rfl fun _ => trivial
  · exact hcall rfl fun _ => trivial

theorem bridgesCommand_sound (hs : Sound s.bridges) {sizeOk : Int → Int → Bool}
    {control : List Int → Daemon → Option (Daemon × Int)}
    (hcontrol : ∀ l d r, control l s.bridges = some (d, r) → Sound d) (inbuf : List UInt8)
    (lin lout : Int) : KeepsSound (bridgesCommand s sizeOk control inbuf lin lout) := by
  rw [bridgesCommand]
  split
  · exact answer_sound hs _
  · intro r hr
    obtain ⟨⟨d, ret⟩, hd, rfl⟩ := Option.map_eq_some_iff.mp hr
    exact hcontrol _ d ret hd

theorem handleMessage_sound (hs : Sound s.bridges) (cmd : Int) (inbuf : List UInt8)
    (lin lout : Int) : KeepsSound (handleMessage o s cmd inbuf lin lout) := by
  rw [handleMessage]
  split
  · split
    · exact answer_sound hs _
    · rename_i c hc _
      have hfound := List.find?_some hc
      have hcode : c.code = cmd := beq_iff_eq.mp hfound
      have hmem : c.code ∈ CtlSocket.messageCases.map CtlSocket.MessageCase.code :=
        List.mem_map_of_mem (List.mem_of_find?_eq_some hc)
      exact ctlCall_sound hs (hcode ▸ hmem) _
  · split
    · exact bridgesCommand_sound hs (fun l d r h =>
        ⟨hs.tracking.addBridges h, hs.reachable.addBridges h⟩) inbuf lin lout
    · split
      · exact bridgesCommand_sound hs (fun l d r h =>
          ⟨hs.tracking.delBridges h, hs.reachable.delBridges h⟩) inbuf lin lout
      · exact answer_sound hs _

/-- A datagram is handled at once or after the response has been sent. -/
theorem ctlRcvHandler_sound (hs : Sound s.bridges) {d : Datagram} {s' : ServerState}
    {response : Option (Int × Reply)} (h : ctlRcvHandler o s d = some (s', response)) :
    Sound s'.bridges := by
  have hfirst : KeepsSound (handleFirst o s d) := by
    rw [handleFirst]
    split
    · split
      · exact answer_sound hs _
      · exact handleMessage_sound hs _ _ _ _
    · exact answer_sound hs _
  rw [ctlRcvHandler] at h
  split at h
  · exact (Prod.mk.inj (Option.some.inj h)).1 ▸ hs
  · obtain ⟨r, hr, h⟩ := Option.bind_eq_some_iff.mp h
    split at h
    · obtain ⟨later, hlater, heq⟩ := Option.map_eq_some_iff.mp h
      exact (Prod.mk.inj heq).1 ▸ handleMessage_sound (hfirst r hr) _ _ _ _ later hlater
    · exact (Prod.mk.inj (Option.some.inj h)).1 ▸ hfirst r hr

end Commands

/-! ## Runs of the daemon -/

theorem Served.sound {s : ServerState} (h : Served s) : Sound s.bridges := by
  induction h with
  | start logLevel =>
    have hnone : Tracking [] :=
      ⟨List.nodup_nil, List.nodup_nil, fun b hb => absurd hb List.not_mem_nil⟩
    exact ⟨hnone, fun b hb => absurd hb List.not_mem_nil⟩
  | @step o env s s' e _ hserve ih =>
    cases e with
    | link brIndex ifIndex newlink flags =>
      obtain ⟨r, hr, rfl⟩ := Option.map_eq_some_iff.mp hserve
      exact ⟨ih.tracking.notify hr, ih.reachable.notify hr⟩
    | packet ifIndex stack packet =>
      obtain ⟨d, hd, rfl⟩ := Option.map_eq_some_iff.mp hserve
      exact ih.packet hd
    | control d =>
      obtain ⟨⟨s₁, response⟩, hr, rfl⟩ := Option.map_eq_some_iff.mp hserve
      exact ctlRcvHandler_sound ih hr
    | second =>
      obtain ⟨d, hd, rfl⟩ := Option.map_eq_some_iff.mp hserve
      exact ⟨ih.tracking.oneSecond hd, ih.reachable.second hd⟩

/-- Events in any order keep the two layers of the daemon in step: no bridge is tracked twice, no
interface is a port of two bridges or twice of one, what is up is enabled where STP is managed,
and the machines of every bridge are in a state that operations on a bridge lead to. -/
theorem daemon_refines {s : ServerState} (h : Served s) :
    (s.bridges.map TrackedBridge.ifIndex).Nodup ∧
    (∀ b ∈ s.bridges, ∀ b' ∈ s.bridges, ∀ i ∈ b.ifIndexes, i ∈ b'.ifIndexes → b = b') ∧
    ∀ b ∈ s.bridges, b.ifIndexes.Nodup ∧ Reachable anyOp b.core ∧
      b.core.bridgeEnabled = (b.stpEnabled && b.up) ∧
      ∀ p ∈ b.core.ports, (b.core.port p).portEnabled = (b.stpEnabled && (b.ifs p).up) := by
  obtain ⟨htracking, hreachable⟩ := h.sound
  refine ⟨htracking.indices, fun b hb b' hb' i hi hi' => ?_, fun b hb => ?_⟩
  · exact owner_unique htracking.interfaces hb hb' hi hi'
  · have hagrees := htracking.agrees b hb
    exact ⟨htracking.ports hb, hreachable b hb, hagrees.enabled, hagrees.ports⟩

/-- A kernel with two bridges, each with a port. -/
def sampleEvents : List Event :=
  [.link 10 3 true 0x41, .link 11 4 true 0x41,
    .control
      { bytes := [122, 0, 1, 0, 12, 0, 0, 0, 0, 0, 0, 0, 0, 0, 0, 0, 0, 0, 0, 0, 2, 0, 0, 0, 10, 0,
          0, 0, 11, 0, 0, 0]
        flags := false
        uid := some 0 },
    .second]

def serveAll : List Event → ServerState → Option ServerState
  | [], s => some s
  | e :: es, s => (serve sampleOutside (fun _ => sampleEnv) s e).bind (serveAll es)

theorem serveAll_served {es : List Event} {s s' : ServerState} (hs : Served s)
    (h : serveAll es s = some s') : Served s' := by
  induction es generalizing s with
  | nil => exact Option.some.inj h ▸ hs
  | cons e es ih =>
    obtain ⟨s₁, hstep, hrest⟩ := Option.bind_eq_some_iff.mp h
    exact ih (hs.step hstep) hrest

theorem sample_daemon_refines : ∃ s b, Served s ∧ b ∈ s.bridges ∧ b.core.ports ≠ [] ∧
    b.core.bridgeEnabled = true ∧ Reachable anyOp b.core := by
  have hrun : (serveAll sampleEvents ⟨[], 2⟩).any (fun s =>
      (findBr 11 s.bridges).any fun b => b.core.bridgeEnabled && !b.core.ports.isEmpty) = true := by
    decide +kernel
  obtain ⟨s, hs, hrun⟩ := (Option.any_eq_true _ _).mp hrun
  obtain ⟨b, hb, hrun⟩ := (Option.any_eq_true _ _).mp hrun
  obtain ⟨hen, hports⟩ := Bool.and_eq_true_iff.mp hrun
  have hserved : Served s := serveAll_served (.start 2) hs
  have hmem : b ∈ s.bridges := List.mem_of_find?_eq_some hb
  obtain ⟨-, -, hall⟩ := daemon_refines hserved
  refine ⟨s, b, hserved, hmem, ?_, hen, (hall b hmem).2.1⟩
  rintro hnil
  rw [hnil] at hports
  cases hports

/-! ## From one daemon to another -/

/-- The bridge that has the interface, and no bridge before it. -/
theorem Tracking.split_at {d : Daemon} {b : TrackedBridge} {p : PortRef} (hd : Tracking d)
    (hb : b ∈ d) (hp : p ∈ b.core.ports) : ∃ before after, d = before ++ b :: after ∧
      (∀ c ∈ before, hasIf (b.ifs p).ifIndex c = false) ∧ findIf (b.ifs p).ifIndex b = some p := by
  have hmem : (b.ifs p).ifIndex ∈ b.ifIndexes := List.mem_map_of_mem hp
  obtain ⟨before, after, rfl⟩ := List.append_of_mem hb
  refine ⟨before, after, rfl, fun c hc => ?_, ?_⟩
  · by_contra hhas
    have hin : (b.ifs p).ifIndex ∈ c.ifIndexes := hasIf_iff.mp (by simpa using hhas)
    have hdisjoint := hd.interfaces
    rw [List.flatMap_append, List.flatMap_cons] at hdisjoint
    obtain ⟨-, -, happart⟩ := List.nodup_append.mp hdisjoint
    exact happart _ (List.mem_flatMap.mpr ⟨c, hc, hin⟩) _ (List.mem_append_left _ hmem) rfl
  · obtain ⟨q, hq⟩ := Option.isSome_iff_exists.mp (hasIf_iff.mpr hmem)
    obtain ⟨hlisted, hindex⟩ := findIf_some hq
    have hsame : q = p := List.inj_on_of_nodup_map (hd.ports hb) hlisted hp hindex
    exact hsame ▸ hq

/-- Whatever a daemon sends on a port, from whatever address the port has then, a daemon that is
sent the frame hands to the port at which it arrives, and to no other: the very octets, however
the frame is padded and whatever the stack holds, and a BPDU of the version that was sent. -/
theorem bpdu_reaches_port {s s' : ServerState} (hs : Served s) (hs' : Served s')
    {b b' : TrackedBridge} (hb : b ∈ s.bridges) (hb' : b' ∈ s'.bridges) {p q : PortRef}
    {bpdu : Bpdu} {size : Nat} (hsent : .txBpdu p bpdu size ∈ b.core.out)
    (hq : q ∈ b'.core.ports) (hup : (b'.ifs q).up = true) (macaddr : BitVec 48)
    (pad : List UInt8) (stack : Mem) (env : Int → Env) :
    ∃ octets m before after,
      stpFilter.deliver (txFrame macaddr bpdu size ++ pad) = some octets ∧
      (∀ o < size, m o = bpdu.mem o) ∧
      (∃ mstis, validateBpdu m size = some (bpdu.protocolVersion, mstis)) ∧
      s'.bridges = before ++ b' :: after ∧
      packetRcv env (b'.ifs q).ifIndex stack (some octets) s'.bridges =
        (mstpInRxBpdu (env (b'.ifs q).ifIndex) q m size b'.core).map fun core =>
          before ++ { b' with core := core } :: after := by
  have hsendable : Sendable bpdu size :=
    (hs.sound.reachable b hb).visited.allSendable p bpdu size hsent
  obtain ⟨hpos, hfits, hvalid⟩ := hsendable
  have hsize : size + llcPduLenU ≤ ethDataLen := by
    simp only [llcPduLenU, ethDataLen]
    omega
  -- the frame is below the snapshot length, and that is below the buffer
  have hverdict : stpFilter.verdict (txFrame macaddr bpdu size) = 0x480 :=
    stpFilter_frame hsize
  have hpass : stpFilter.verdict (txFrame macaddr bpdu size) ≠ 0 := by
    rw [hverdict]
    decide
  have hlength := txFrame_length macaddr bpdu size
  have h17 : sizeofLlcHeader = 17 := rfl
  have h1152 : (0x480 : UInt32).toNat = 1152 := rfl
  obtain ⟨rest, hdeliver⟩ := stpFilter.deliver_append hpass (by rw [hverdict]; omega) pad
  have hshort := stpFilter.deliver_length hdeliver
  rw [stpFilter.verdict_append hpass, hverdict, h1152] at hshort
  generalize hoctets : txFrame macaddr bpdu size ++ rest = octets at hdeliver hshort
  have hlong : sizeofLlcHeader + size ≤ octets.length := by
    rw [← hoctets, List.length_append, hlength]
    omega
  have hdata : (received stack octets).Holds 0 (txFrame macaddr bpdu size) := by
    have hall := received_holds stack octets
    rw [← hoctets] at hall
    exact hoctets ▸ hall.append.1
  have hbehind : bpduBehind (received stack octets) octets.length = some size :=
    bpduBehind_frame hpos hsize hdata (by exact_mod_cast hlong)
  have hagree : ∀ o < size, received stack octets (sizeofLlcHeader + o) = bpdu.mem o :=
    fun o ho => holds_bpdu hdata ho
  obtain ⟨before, after, hsplit, hbefore, hfind⟩ := hs'.sound.tracking.split_at hb' hq
  have hhas : hasIf (b'.ifs q).ifIndex b' = true := by rw [hasIf, hfind, Option.isSome_some]
  refine ⟨octets, fun o => received stack octets (sizeofLlcHeader + o), before, after, hdeliver,
    hagree, hvalid _ hagree, hsplit, ?_⟩
  have htake : octets.take packetBufLen = octets := by
    apply List.take_of_length_le
    have hbuf : packetBufLen = 2048 := rfl
    omega
  simp only [packetRcv, htake]
  rw [if_neg (by omega), bridgeBpduRcv, hsplit, updateFirst_at hbefore hhas]
  simp only [bpduForBridge, hfind, hup, hbehind, Bool.not_true, Bool.false_eq_true, if_false,
    Option.map_map]
  rfl

theorem sample_bpdu_reaches_port : ∃ s b b' p q bpdu size, Served s ∧ b ∈ s.bridges ∧
    b' ∈ s.bridges ∧ .txBpdu p bpdu size ∈ b.core.out ∧
    ∃ octets m before after,
      stpFilter.deliver (txFrame (b.ifs p).macaddr bpdu size ++ List.replicate 30 0) = some octets ∧
      (∀ o < size, m o = bpdu.mem o) ∧ s.bridges = before ++ b' :: after ∧
      packetRcv (fun _ => sampleEnv) (b'.ifs q).ifIndex (fun _ => 0xA5) (some octets) s.bridges =
        (mstpInRxBpdu sampleEnv q m size b'.core).map fun core =>
          before ++ { b' with core := core } :: after := by
  have hrun : (serveAll sampleEvents ⟨[], 2⟩).any (fun s =>
      (findBr 10 s.bridges).any (fun b => b.core.out.any MstpOut.isTx) &&
      (findBr 11 s.bridges).any fun b => b.core.ports.any fun q => (b.ifs q).up) = true := by
    decide +kernel
  obtain ⟨s, hs, hrun⟩ := (Option.any_eq_true _ _).mp hrun
  obtain ⟨hsender, hreceiver⟩ := Bool.and_eq_true_iff.mp hrun
  obtain ⟨b, hb, hsent⟩ := (Option.any_eq_true _ _).mp hsender
  obtain ⟨b', hb', hports⟩ := (Option.any_eq_true _ _).mp hreceiver
  obtain ⟨c, hc, htx⟩ := List.any_eq_true.mp hsent
  obtain ⟨q, hq, hup⟩ := List.any_eq_true.mp hports
  have hserved : Served s := serveAll_served (.start 2) hs
  have hmem : b ∈ s.bridges := List.mem_of_find?_eq_some hb
  have hmem' : b' ∈ s.bridges := List.mem_of_find?_eq_some hb'
  cases c with
  | txBpdu p bpdu size =>
    obtain ⟨octets, m, before, after, hdeliver, hagree, -, hsplit, hrcv⟩ :=
      bpdu_reaches_port hserved hserved hmem hmem' hc hq hup (b.ifs p).macaddr
        (List.replicate 30 0) (fun _ => 0xA5) fun _ => sampleEnv
    exact ⟨s, b, b', p, q, bpdu, size, hserved, hmem, hmem', hc, octets, m, before, after, hdeliver,
      hagree, hsplit, hrcv⟩
  | _ => cases htx

end Mstpd
