import Mstpd.BridgeConfig
import Mstpd.OnePort
import Mstpd.Table

/-!
# The bridges that the daemon tracks

Link events and the control of STP keep two layers of up and down states: what the daemon
has seen of an interface, and what it has told the state machines.
-/

namespace Mstpd

open Bridge Machine Table

/-! ## The tracked bridges -/

/-- `sysdeps` of a port, besides speed and duplex mode. -/
structure IfSysdeps where
  ifIndex : Int
  name : String
  macaddr : BitVec 48
  up : Bool := false

/-- A bridge with its `sysdeps`, and those of its ports. -/
structure TrackedBridge where
  ifIndex : Int
  name : String
  macaddr : BitVec 48
  up : Bool := false
  stpEnabled : Bool := false
  core : Bridge
  ifs : PortRef → IfSysdeps

/-- The list `bridges`. -/
abbrev Daemon := List TrackedBridge

/-- Where an operation looks up an address. -/
inductive AddressLookup
  | createBr | createIf | setBrUp | setIfUp | bridgeOfIf

/-- The calls of an operation into the protocol, which run on their own. -/
inductive CoreCall
  | createBridge | createPort | deletePort | setBridgeAddress | setBridgeAddressOfIf
  | setBridgeEnable | setPortEnable | oneSecond | command

/-- What an operation is told by the kernel, and how its calls run. -/
structure Outside where
  env : CoreCall → Int → Env
  calloc : Int → Bool
  indexToName : Int → Option String
  indexToPortName : Int → Option String
  getHwaddr : AddressLookup → String → Option (BitVec 48)
  getFlags : String → Int
  getBridgePortno : String → Int
  ethtoolSpeedDuplex : String → Option (Int × Int)
  driverCreateBridge : Int → Bool
  driverCreatePort : Int → Bool
  driverCreateMsti : Int → Mstid → Bool := fun _ _ => true
  driverDeleteMsti : Int → Mstid → Bool := fun _ _ => true

def iffUp : Nat := 0x1

def iffRunning : Nat := 0x40

def TrackedBridge.ifIndexes (b : TrackedBridge) : List Int :=
  b.core.ports.map fun p => (b.ifs p).ifIndex

def findIf (ifIndex : Int) (b : TrackedBridge) : Option PortRef :=
  b.core.ports.find? fun p => (b.ifs p).ifIndex == ifIndex

def hasIf (ifIndex : Int) (b : TrackedBridge) : Bool := (findIf ifIndex b).isSome

/-- Is this the bridge that `find_br` finds? -/
def isBr (ifIndex : Int) (b : TrackedBridge) : Bool := b.ifIndex == ifIndex

def findBr (ifIndex : Int) (d : Daemon) : Option TrackedBridge := d.find? (isBr ifIndex)

variable (o : Outside)

/-- `create_br`, without the list. -/
def createBr (ifIndex : Int) : Option TrackedBridge :=
  if !o.calloc ifIndex then none
  else
    (o.indexToName ifIndex).bind fun name =>
      (o.getHwaddr .createBr name).bind fun macaddr =>
        let env := o.env .createBridge ifIndex
        if o.driverCreateBridge ifIndex && env.calloc 0 then
          some
            { ifIndex := ifIndex, name := name, macaddr := macaddr
              core := mstpInBridgeCreate env macaddr, ifs := fun _ => ⟨0, "", 0, false⟩ }
        else none

/-- The list with the bridge, which is monitored from now on. -/
def monitorBr (ifIndex : Int) (d : Daemon) : Option Daemon :=
  if (findBr ifIndex d).isSome then some d else (createBr o ifIndex).map fun b => d ++ [b]

/-- An address that no port of the bridge has. -/
def freshPort (br : Bridge) : PortRef := br.ports.foldr max 0 + 1

/-- A port with its `sysdeps`. -/
def setIf (p : PortRef) (s : IfSysdeps) (b : TrackedBridge) : TrackedBridge :=
  { b with ifs := fun q => if q = p then s else b.ifs q }

/-- `create_if`; the bridge stays as it is where it fails. -/
def createIf (ifIndex : Int) (b : TrackedBridge) : Option TrackedBridge :=
  if !o.calloc ifIndex then some b
  else
    match o.indexToPortName ifIndex with
    | none => some b
    | some name =>
      match o.getHwaddr .createIf name with
      | none => some b
      | some macaddr =>
        let portno := o.getBridgePortno name
        if portno < 0 ∨ portno = 0 ∨ (maxPortNumber : Int) < portno then some b
        else if !o.driverCreatePort ifIndex then some b
        else
          let p := freshPort b.core
          (mstpInPortCreateAndAddTail (o.env .createPort ifIndex) p (.ofInt portno) name 0 0
            b.core).map fun r =>
              if r.2 then { setIf p ⟨ifIndex, name, macaddr, false⟩ b with core := r.1 } else b

/-- `delete_if_byindex`. -/
def deleteIfByindex (ifIndex : Int) (b : TrackedBridge) : Option TrackedBridge :=
  match findIf ifIndex b with
  | none => some b
  | some p =>
    (mstpInDeletePort (o.env .deletePort ifIndex) p b.core).map fun core => { b with core := core }

/-- `check_mac_address`: the new address, if there is one. -/
def checkMacAddress (macaddr : BitVec 48) : Option (BitVec 48) → Option (BitVec 48)
  | none => none
  | some new => if new = macaddr then none else some new

/-- The bridge with the address that it has now. -/
def refreshAddress (lookup : AddressLookup) (call : CoreCall) (b : TrackedBridge) :
    Option TrackedBridge :=
  match checkMacAddress b.macaddr (o.getHwaddr lookup b.name) with
  | none => some b
  | some macaddr =>
    (mstpInSetBridgeAddress (o.env call b.ifIndex) macaddr b.core).map fun core =>
      { b with macaddr := macaddr, core := core }

def setBrUp (up : Bool) (b : TrackedBridge) : Option TrackedBridge :=
  (refreshAddress o .setBrUp .setBridgeAddress { b with up := up }).bind fun b' =>
    if up != b.up && b'.stpEnabled then
      (mstpInSetBridgeEnable (o.env .setBridgeEnable b.ifIndex) up b'.core).map fun core =>
        { b' with core := core }
    else some b'

/-- `ethtool_get_speed_duplex` with the values assumed where it does not know. -/
def speedDuplex (name : String) : Int × Int :=
  match o.ethtoolSpeedDuplex name with
  | none => (10, 0)
  | some (speed, duplex) => (if speed < 0 then 10 else speed, if duplex < 0 then 0 else duplex)

/-- A new address of a port may be that of its bridge. -/
def refreshIfAddress (p : PortRef) (b : TrackedBridge) : Option TrackedBridge :=
  match checkMacAddress (b.ifs p).macaddr (o.getHwaddr .setIfUp (b.ifs p).name) with
  | none => some b
  | some macaddr =>
    refreshAddress o .bridgeOfIf .setBridgeAddressOfIf
      (setIf p { b.ifs p with macaddr := macaddr } b)

/-- The link of a port as it was seen last: is it up, and the speed and the duplex mode. -/
def noteLink (p : PortRef) (up : Bool) (b : TrackedBridge) : TrackedBridge × Bool :=
  let sysdeps := b.ifs p
  let prt := b.core.port p
  if up then
    let (speed, duplex) := speedDuplex o sysdeps.name
    ({ setIf p { sysdeps with up := true } b with
        core := b.core.setPort p fun prt => { prt with speed := speed, duplex := duplex } },
      speed != prt.speed || duplex != prt.duplex || !sysdeps.up)
  else (setIf p { sysdeps with up := false } b, sysdeps.up)

def setPortEnable (p : PortRef) (b : TrackedBridge) : Option TrackedBridge :=
  let prt := b.core.port p
  (mstpInSetPortEnable (o.env .setPortEnable (b.ifs p).ifIndex) p (b.ifs p).up prt.speed prt.duplex
    b.core).map fun core => { b with core := core }

def setIfUp (up : Bool) (p : PortRef) (b : TrackedBridge) : Option TrackedBridge :=
  (refreshIfAddress o p b).bind fun b =>
    let (b, changed) := noteLink o p up b
    if changed && b.stpEnabled then setPortEnable o p b else some b

/-! ## Link events -/

/-- `set_br_up` with the flags that the bridge has now. -/
def refreshBr (brIndex : Int) (d : Daemon) : Option Daemon :=
  updateFirst (isBr brIndex) (fun b =>
    let flags := o.getFlags b.name
    if 0 ≤ flags then setBrUp o (flags.toNat &&& iffUp != 0) b else some b) d

/-- Is the interface a port of the bridge? -/
def slaveOf (brIndex ifIndex : Int) (d : Daemon) : Bool :=
  (findBr brIndex d).any (hasIf ifIndex)

/-- A new port of the bridge, which leaves the other bridge that still has it. -/
def comeToBr (brIndex ifIndex : Int) (d : Daemon) : Option Daemon :=
  (updateFirst (fun b => !isBr brIndex b && hasIf ifIndex b) (deleteIfByindex o ifIndex) d).bind
    (updateFirst (isBr brIndex) (createIf o ifIndex))

/-- A link event of an interface that is a port of the bridge. -/
def notifySlave (brIndex ifIndex : Int) (newlink running : Bool) (d : Daemon) :
    Option (Daemon × Int) :=
  let known := slaveOf brIndex ifIndex d
  if !known && !newlink then some (d, -1)
  else
    (if known then some d else comeToBr o brIndex ifIndex d).bind fun d =>
      if !slaveOf brIndex ifIndex d then some (d, -1)
      else if !newlink then
        (updateFirst (isBr brIndex) (deleteIfByindex o ifIndex) d).map (·, 0)
      else
        (updateFirst (isBr brIndex) (fun b =>
          match findIf ifIndex b with
          | none => some b
          | some p => setIfUp o running p b) d).map (·, 0)

/-- An interface that is no port has gone: it was a bridge, or a port all the same. -/
def unregister (ifIndex : Int) (d : Daemon) : Option Daemon :=
  -- the bridge is disabled before it is taken apart, so that no machine runs
  if (findBr ifIndex d).isSome then some (d.eraseP (isBr ifIndex))
  else updateFirst (hasIf ifIndex) (deleteIfByindex o ifIndex) d

/-- `bridge_notify`; where `br_index` is `if_index`, the interface is a bridge. -/
def bridgeNotify (brIndex ifIndex : Int) (newlink : Bool) (flags : Nat) (d : Daemon) :
    Option (Daemon × Int) :=
  let up := flags &&& iffUp != 0
  let running := up && flags &&& iffRunning != 0
  if 0 ≤ brIndex ∧ brIndex ≠ ifIndex then
    match monitorBr o brIndex d with
    | none => some (d, -2)
    | some d => (refreshBr o brIndex d).bind (notifySlave o brIndex ifIndex newlink running)
  else if !newlink then (unregister o ifIndex d).map (·, 0)
  else if brIndex = ifIndex then
    match monitorBr o brIndex d with
    | none => some (d, -2)
    | some d => (updateFirst (isBr brIndex) (setBrUp o up) d).map (·, 0)
  else some (d, 0)

/-! ## Control of STP -/

/-- All ports of a bridge in turn. -/
def forEachIf (act : PortRef → TrackedBridge → Option TrackedBridge) (b : TrackedBridge) :
    Option TrackedBridge :=
  forEach act b.core.ports b

/-- The turn of one bridge in `CTL_add_bridges`. -/
def addBridge (b : TrackedBridge) : Option TrackedBridge :=
  if b.stpEnabled then some b
  else
    (mstpInSetBridgeEnable (o.env .setBridgeEnable b.ifIndex) b.up b.core).bind fun core =>
      forEachIf (setPortEnable o) { b with stpEnabled := true, core := core }

/-- `CTL_add_bridges` for the indices of the array. -/
def ctlAddBridges : List Int → Daemon → Option (Daemon × Int)
  | [], d => some (d, 0)
  | i :: rest, d =>
    match monitorBr o i d with
    | none => some (d, -1)
    | some d => (updateFirst (isBr i) (addBridge o) d).bind (ctlAddBridges rest)

/-- The turn of one bridge in `CTL_del_bridges`. -/
def delBridge (b : TrackedBridge) : Option TrackedBridge :=
  if b.stpEnabled then
    (forEachIf (fun p b =>
      (mstpInSetPortEnable (o.env .setPortEnable (b.ifs p).ifIndex) p false 0 0 b.core).map
        fun core => { b with core := core }) b).bind fun b =>
      (mstpInSetBridgeEnable (o.env .setBridgeEnable b.ifIndex) false b.core).map fun core =>
        { b with stpEnabled := false, core := core }
  else some b

def ctlDelBridges : List Int → Daemon → Option (Daemon × Int)
  | [], d => some (d, 0)
  | i :: rest, d => (updateFirst (isBr i) (delBridge o) d).bind (ctlDelBridges rest)

def oneSecond (b : TrackedBridge) : Option TrackedBridge :=
  if b.stpEnabled then
    (mstpInOneSecond (o.env .oneSecond b.ifIndex) b.core).map fun core => { b with core := core }
  else some b

def bridgeOneSecond : Daemon → Option Daemon
  | [] => some []
  | b :: d => (oneSecond o b).bind fun b => (bridgeOneSecond d).map (b :: ·)

/-! ## Runs of the daemon -/

inductive TrackOp
  | notify (brIndex ifIndex : Int) (newlink : Bool) (flags : Nat)
  | addBridges (brArray : List Int)
  | delBridges (brArray : List Int)
  | oneSecond

def track : TrackOp → Daemon → Option (Daemon × Int)
  | .notify brIndex ifIndex newlink flags, d => bridgeNotify o brIndex ifIndex newlink flags d
  | .addBridges brArray, d => ctlAddBridges o brArray d
  | .delBridges brArray, d => ctlDelBridges o brArray d
  | .oneSecond, d => (bridgeOneSecond o d).map (·, 0)

/-- The lists that the operations lead to, whatever the kernel reports. -/
inductive TrackReached : Daemon → Prop
  | start : TrackReached []
  | step {o : Outside} {op : TrackOp} {d d' : Daemon} {r : Int} (h : TrackReached d)
    (hstep : track o op d = some (d', r)) : TrackReached d'

/-! ## What the calls do to the links -/

/-- Everything but the ports of a bridge and what is enabled. -/
def besideUp : Owned where
  config b := { ports := b.ports, bridgeEnabled := b.bridgeEnabled }
  ptp _ := {}
  port x := { portEnabled := x.portEnabled }
  tree _ := {}
  out _ := true

instance : machinesOwned.Within besideUp :=
  ⟨fun _ => rfl, fun _ => rfl, fun _ => rfl, fun _ => rfl, fun _ _ => rfl⟩

instance : tickOwned.Within besideUp :=
  ⟨fun _ => rfl, fun _ => rfl, fun _ => rfl, fun _ => rfl, fun _ _ => rfl⟩

instance : managementOwned.Within besideUp :=
  ⟨fun _ => rfl, fun _ => rfl, fun _ => rfl, fun _ => rfl, fun _ _ => rfl⟩

section Calls

variable {env : Env} {late : Nat → Bool} {fuel : Nat} {p : PortRef} {br br' : Bridge}

theorem brRun_up (h : brStateMachinesRun late fuel br = some br') : Frame besideUp br br' :=
  (brRun_machines h).mono

theorem brBegin_up (h : brStateMachinesBegin late fuel br = some br') : Frame besideUp br br' :=
  (brBegin_machines h).mono

/-- What a call leaves as it is. -/
structure LinksKept (p : PortRef) (br br' : Bridge) : Prop where
  enabled : br'.bridgeEnabled = br.bridgeEnabled
  others : ∀ q, q ≠ p → (br'.port q).portEnabled = (br.port q).portEnabled

theorem Frame.linksKept (h : Frame besideUp br br') (p : PortRef) : LinksKept p br br' where
  enabled := h.config_eq Bridge.bridgeEnabled fun _ => rfl
  others q _ := h.port_eq Port.portEnabled (fun _ => rfl) q

theorem LinksKept.trans {b : Bridge} (h : LinksKept p br b) (h' : LinksKept p b br') :
    LinksKept p br br' where
  enabled := h'.enabled.trans h.enabled
  others q hq := (h'.others q hq).trans (h.others q hq)

theorem setPort_linksKept (p : PortRef) (f : Port → Port) (br : Bridge) :
    LinksKept p br (br.setPort p f) where
  enabled := rfl
  others q hq := by simp [setPort, hq]

theorem setBridgeAddress_up {macaddr : BitVec 48}
    (h : mstpInSetBridgeAddress env macaddr br = some br') : Frame besideUp br br' := by
  have hwrite : Frame besideUp br (writeAddress macaddr br) := (writeAddress_frame macaddr br).mono
  rw [mstpInSetBridgeAddress] at h
  split at h
  · exact hwrite.trans (brBegin_up h)
  · exact Option.some.inj h ▸ hwrite

theorem oneSecond_up (h : mstpInOneSecond env br = some br') : Frame besideUp br br' := by
  have huptime : Frame besideUp br { br with uptime := br.uptime + 1 } :=
    ⟨rfl, fun _ _ => rfl, fun _ => rfl, fun _ => rfl, rfl⟩
  rw [mstpInOneSecond] at h
  split at h
  · exact (huptime.trans (bridgeTick_frame _).mono).trans (brRun_up h)
  · exact Option.some.inj h ▸ huptime

theorem setBridgeEnable_up {up : Bool} (h : mstpInSetBridgeEnable env up br = some br') :
    br'.bridgeEnabled = up ∧ br'.ports = br.ports ∧
      ∀ q, (br'.port q).portEnabled = (br.port q).portEnabled := by
  rw [mstpInSetBridgeEnable] at h
  split at h
  · rename_i hsame
    obtain rfl := Option.some.inj h
    exact ⟨hsame, rfl, fun _ => rfl⟩
  · have hbegin := brBegin_up h
    have hreset := resetBridge_frame up br
    refine ⟨?_, ?_, fun q => ?_⟩
    · exact (hbegin.config_eq Bridge.bridgeEnabled fun _ => rfl).trans (resetBridge_enabled up br)
    · exact (hbegin.config_eq Bridge.ports fun _ => rfl).trans hreset.ports_eq
    · exact (hbegin.port_eq Port.portEnabled (fun _ => rfl) q).trans
        (hreset.port_eq Port.portEnabled (fun _ => rfl) q)

/-- The assignments for a port whose link is up. -/
theorem linkUp_up (speed duplex : Int) (br : Bridge) :
    LinksKept p br (linkUp p speed duplex br) ∧
      ((linkUp p speed duplex br).port p).portEnabled = true := by
  have hassign := assignLink_frame p speed duplex br
  have hport := assignLink_portEnabled p
  rw [linkUp]
  split
  · rename_i hup
    exact ⟨⟨hassign.enabled_eq, fun q _ => hport q speed duplex br⟩,
      (hport p speed duplex br).trans hup⟩
  · refine ⟨⟨(portUp_frame p _).enabled_eq.trans hassign.enabled_eq, fun q hq => ?_⟩, ?_⟩
    · rw [← hport q speed duplex br]
      simp [portUp, updtbrAssuRcvdInfoWhile, setPort, hq]
    · simp [portUp, updtbrAssuRcvdInfoWhile, setPort]

theorem setPortEnable_up {up : Bool} {speed duplex : Int}
    (h : mstpInSetPortEnable env p up speed duplex br = some br') :
    LinksKept p br br' ∧ br'.ports = br.ports ∧ (br'.port p).portEnabled = up := by
  have hrun : ∀ {b}, brStateMachinesRun env.late env.fuel b = some br' →
      LinksKept p br b → b.ports = br.ports → (b.port p).portEnabled = up →
      LinksKept p br br' ∧ br'.ports = br.ports ∧ (br'.port p).portEnabled = up := by
    intro b hb hkept hports hup
    have hframe := brRun_up hb
    exact ⟨hkept.trans (hframe.linksKept p),
      (hframe.config_eq Bridge.ports fun _ => rfl).trans hports,
      (hframe.port_eq Port.portEnabled (fun _ => rfl) p).trans hup⟩
  rw [mstpInSetPortEnable] at h
  dsimp only at h
  split at h
  · rename_i hup
    obtain ⟨hkept, henabled⟩ := linkUp_up (p := p) speed duplex br
    have hports : (linkUp p speed duplex br).ports = br.ports :=
      (linkUp_frame p speed duplex br).ports_eq
    split at h
    · exact hrun h hkept hports (henabled.trans hup.symm)
    · obtain rfl := Option.some.inj h
      exact ⟨hkept, hports, henabled.trans hup.symm⟩
  · rename_i hdown
    have hup : up = false := by simpa using hdown
    split at h
    · exact hrun h (setPort_linksKept p _ br) rfl (by simp [setPort, hup])
    · rename_i henabled
      obtain rfl := Option.some.inj h
      exact ⟨(Frame.refl besideUp _).linksKept p, rfl, by simpa [hup] using henabled⟩

theorem deletePort_up (h : mstpInDeletePort env p br = some br') :
    LinksKept p br br' ∧ br'.ports = br.ports.erase p := by
  obtain ⟨b, hb, hrun⟩ := deletePort_cases h
  have hmark : LinksKept p br (markDeleted p br) := setPort_linksKept p _ br
  have hfirst : Frame besideUp (markDeleted p br) b := by
    rcases hb with hb | ⟨-, rfl⟩
    · exact brRun_up hb
    · exact Frame.refl _ _
  have hports : b.ports = br.ports := hfirst.config_eq Bridge.ports fun _ => rfl
  have hlast := brRun_up hrun
  refine ⟨(hmark.trans (hfirst.linksKept p)).trans ⟨?_, fun q hq => ?_⟩, ?_⟩
  · exact hlast.config_eq Bridge.bridgeEnabled fun _ => rfl
  · exact hlast.port_eq Port.portEnabled (fun _ => rfl) q
  · rw [← hports]
    exact hlast.config_eq Bridge.ports fun _ => rfl

theorem createPort_up {portno : UInt16} {name : String} {speed duplex : Int}
    (h : mstpInPortCreateAndAddTail env p portno name speed duplex br = some (br', true)) :
    LinksKept p br br' ∧ br'.ports = br.ports ++ [p] ∧ (br'.port p).portEnabled = false := by
  have hbegin : Frame besideUp (addPort p portno name speed duplex br) br' := by
    rw [mstpInPortCreateAndAddTail] at h
    split at h
    · obtain ⟨b, hb, heq⟩ := Option.map_eq_some_iff.mp h
      obtain rfl := (Prod.mk.inj heq).1
      rw [prtBegin_eq] at hb
      have hp : p ∈ (addPort p portno name speed duplex br).ports :=
        List.mem_append_right _ List.mem_cons_self
      exact (portBegin_machines hp).mono.trans (brRun_up hb)
    · cases h
  have hadd : LinksKept p br (addPort p portno name speed duplex br) :=
    ⟨rfl, fun q hq => by simp [addPort, setPortPtps, setPort, hq]⟩
  refine ⟨hadd.trans (hbegin.linksKept p), hbegin.config_eq Bridge.ports fun _ => rfl, ?_⟩
  rw [hbegin.port_eq Port.portEnabled (fun _ => rfl) p]
  simp [addPort, setPortPtps, setPort, portDefaultInternalVars]

end Calls

/-! ## One bridge -/

/-- The state machines know of a bridge what has been seen of it, while STP is managed. -/
structure TrackedBridge.Agrees (b : TrackedBridge) : Prop where
  enabled : b.core.bridgeEnabled = (b.stpEnabled && b.up)
  ports : ∀ p ∈ b.core.ports, (b.core.port p).portEnabled = (b.stpEnabled && (b.ifs p).up)

/-- Nothing has changed but addresses and the protocol. -/
structure SameLinks (b b' : TrackedBridge) : Prop where
  index : b'.ifIndex = b.ifIndex
  up : b'.up = b.up
  stpEnabled : b'.stpEnabled = b.stpEnabled
  ifs : ∀ p, (b'.ifs p).ifIndex = (b.ifs p).ifIndex ∧ (b'.ifs p).up = (b.ifs p).up
  core : Frame besideUp b.core b'.core

/-- Nothing has changed but the core, and there only what is enabled at the ports. -/
def SameCore (b c : TrackedBridge) : Prop :=
  ∃ core, c = { b with core := core } ∧ core.ports = b.core.ports ∧
    core.bridgeEnabled = b.core.bridgeEnabled

section Bridges

variable {o : Outside} {up : Bool} {p : PortRef} {ifIndex : Int} {b b' b'' : TrackedBridge}

theorem ifIndexes_eq (hports : b'.core.ports = b.core.ports)
    (hifs : ∀ p, (b'.ifs p).ifIndex = (b.ifs p).ifIndex) : b'.ifIndexes = b.ifIndexes := by
  rw [TrackedBridge.ifIndexes, TrackedBridge.ifIndexes, hports]
  exact List.map_congr_left fun p _ => hifs p

theorem SameLinks.refl (b : TrackedBridge) : SameLinks b b :=
  ⟨rfl, rfl, rfl, fun _ => ⟨rfl, rfl⟩, Frame.refl _ _⟩

theorem SameLinks.ifIndexes (h : SameLinks b b') : b'.ifIndexes = b.ifIndexes :=
  ifIndexes_eq (h.core.config_eq Bridge.ports fun _ => rfl) fun p => (h.ifs p).1

theorem SameLinks.agrees (h : SameLinks b b') (hb : b.Agrees) : b'.Agrees where
  enabled := by
    rw [h.stpEnabled, h.up, ← hb.enabled]
    exact h.core.config_eq Bridge.bridgeEnabled fun _ => rfl
  ports p hp := by
    have hports : b'.core.ports = b.core.ports := h.core.config_eq Bridge.ports fun _ => rfl
    rw [h.stpEnabled, (h.ifs p).2, ← hb.ports p (hports ▸ hp)]
    exact h.core.port_eq Port.portEnabled (fun _ => rfl) p

theorem refreshAddress_links {lookup : AddressLookup} {call : CoreCall}
    (h : refreshAddress o lookup call b = some b') : SameLinks b b' := by
  rw [refreshAddress] at h
  split at h
  · exact Option.some.inj h ▸ SameLinks.refl b
  · obtain ⟨core, hcore, rfl⟩ := Option.map_eq_some_iff.mp h
    exact ⟨rfl, rfl, rfl, fun _ => ⟨rfl, rfl⟩, setBridgeAddress_up hcore⟩

theorem refreshIfAddress_links (h : refreshIfAddress o p b = some b') : SameLinks b b' := by
  rw [refreshIfAddress] at h
  split at h
  · exact Option.some.inj h ▸ SameLinks.refl b
  · have hlinks := refreshAddress_links h
    refine ⟨hlinks.index, hlinks.up, hlinks.stpEnabled, fun q => ?_, hlinks.core⟩
    obtain ⟨hindex, hup⟩ := hlinks.ifs q
    rw [hindex, hup, setIf]
    dsimp only
    split
    · rename_i hq
      rw [hq]
      exact ⟨rfl, rfl⟩
    · exact ⟨rfl, rfl⟩

/-- What every operation does to a bridge, besides its ports. -/
structure BridgeKept (b b' : TrackedBridge) : Prop where
  index : b'.ifIndex = b.ifIndex
  agrees : b'.Agrees

theorem setBrUp_kept (hb : b.Agrees) (h : setBrUp o up b = some b') :
    BridgeKept b b' ∧ b'.ifIndexes = b.ifIndexes := by
  obtain ⟨b₁, h₁, h₂⟩ := Option.bind_eq_some_iff.mp h
  have hlinks := refreshAddress_links h₁
  have hports : b₁.core.ports = b.core.ports := hlinks.core.config_eq Bridge.ports fun _ => rfl
  have hport : ∀ q ∈ b.core.ports,
      (b₁.core.port q).portEnabled = (b₁.stpEnabled && (b₁.ifs q).up) := by
    intro q hq
    rw [hlinks.stpEnabled, (hlinks.ifs q).2]
    exact (hlinks.core.port_eq Port.portEnabled (fun _ => rfl) q).trans (hb.ports q hq)
  have henabled : b₁.core.bridgeEnabled = (b₁.stpEnabled && b.up) := by
    rw [hlinks.stpEnabled]
    exact (hlinks.core.config_eq Bridge.bridgeEnabled fun _ => rfl).trans hb.enabled
  have hup : b₁.up = up := hlinks.up
  split at h₂
  · rename_i hchange
    obtain ⟨core, hcore, rfl⟩ := Option.map_eq_some_iff.mp h₂
    obtain ⟨hen, hlist, hsame⟩ := setBridgeEnable_up hcore
    simp only [Bool.and_eq_true] at hchange
    refine ⟨⟨hlinks.index, ?_, fun q hq => ?_⟩, ?_⟩
    · dsimp only
      rw [hen, hchange.2, hup, Bool.true_and]
    · dsimp only at hq ⊢
      rw [hlist, hports] at hq
      rw [hsame q, hport q hq]
    · exact ifIndexes_eq (hlist.trans hports) fun q => (hlinks.ifs q).1
  · rename_i hchange
    obtain rfl := Option.some.inj h₂
    refine ⟨⟨hlinks.index, ?_, fun q hq => hport q (hports ▸ hq)⟩, hlinks.ifIndexes⟩
    -- without a change nothing has to be told, without STP nothing is enabled
    rw [henabled, hup]
    cases hstp : b₁.stpEnabled with
    | false => rfl
    | true =>
      have hsame : up = b.up := by simpa [hstp] using hchange
      rw [hsame]

theorem noteLink_links (p : PortRef) (up : Bool) (b : TrackedBridge) :
    (noteLink o p up b).1.ifIndex = b.ifIndex ∧ (noteLink o p up b).1.up = b.up ∧
    (noteLink o p up b).1.stpEnabled = b.stpEnabled ∧
    (∀ q, ((noteLink o p up b).1.ifs q).ifIndex = (b.ifs q).ifIndex) ∧
    (∀ q, ((noteLink o p up b).1.ifs q).up = if q = p then up else (b.ifs q).up) ∧
    Frame besideUp b.core (noteLink o p up b).1.core ∧
    ((noteLink o p up b).2 = false → (b.ifs p).up = up) := by
  cases up with
  | true =>
    have hcore : Frame besideUp b.core (noteLink o p true b).1.core := by
      simp only [noteLink, if_true]
      exact Frame.setPort fun _ => rfl
    refine ⟨rfl, rfl, rfl, fun q => ?_, fun q => ?_, hcore, fun h => ?_⟩
    · simp only [noteLink, setIf, if_true]
      split
      · rename_i hq
        rw [hq]
      · rfl
    · simp only [noteLink, setIf, if_true]
      split <;> rfl
    · simp only [noteLink, if_true, Bool.or_eq_false_iff, Bool.not_eq_false'] at h
      exact h.2
  | false =>
    refine ⟨rfl, rfl, rfl, fun q => ?_, fun q => ?_, Frame.refl _ _, fun h => h⟩
    · simp only [noteLink, setIf, Bool.false_eq_true, if_false]
      split
      · rename_i hq
        rw [hq]
      · rfl
    · simp only [noteLink, setIf, Bool.false_eq_true, if_false]
      split <;> rfl

/-- The core of a bridge after a call for one of its ports. -/
theorem setPortEnable_links (h : setPortEnable o p b = some b') :
    ∃ core, b' = { b with core := core } ∧ LinksKept p b.core core ∧ core.ports = b.core.ports ∧
      (core.port p).portEnabled = (b.ifs p).up := by
  obtain ⟨core, hcore, rfl⟩ := Option.map_eq_some_iff.mp h
  obtain ⟨hkept, hports, hup⟩ := setPortEnable_up hcore
  exact ⟨core, rfl, hkept, hports, hup⟩

theorem setIfUp_kept (hb : b.Agrees) (h : setIfUp o up p b = some b') :
    BridgeKept b b' ∧ b'.ifIndexes = b.ifIndexes := by
  obtain ⟨b₁, h₁, h₂⟩ := Option.bind_eq_some_iff.mp h
  have hlinks := refreshIfAddress_links h₁
  have hb₁ := hlinks.agrees hb
  obtain ⟨hindex, hbup, hstp, hifs, hups, hcore, hquiet⟩ := noteLink_links (o := o) p up b₁
  have hports : (noteLink o p up b₁).1.core.ports = b₁.core.ports :=
    hcore.config_eq Bridge.ports fun _ => rfl
  have henabled : (noteLink o p up b₁).1.core.bridgeEnabled = (b₁.stpEnabled && b₁.up) :=
    (hcore.config_eq Bridge.bridgeEnabled fun _ => rfl).trans hb₁.enabled
  have hport : ∀ q ∈ b₁.core.ports,
      ((noteLink o p up b₁).1.core.port q).portEnabled = (b₁.stpEnabled && (b₁.ifs q).up) :=
    fun q hq => (hcore.port_eq Port.portEnabled (fun _ => rfl) q).trans (hb₁.ports q hq)
  dsimp only at h₂
  split at h₂
  · rename_i hchange
    simp only [Bool.and_eq_true] at hchange
    obtain ⟨core, rfl, hkept, hlist, hup⟩ := setPortEnable_links h₂
    refine ⟨⟨hindex.trans hlinks.index, ?_, fun q hq => ?_⟩, ?_⟩
    · dsimp only
      rw [hkept.enabled, henabled, hstp, hbup]
    · dsimp only at hq ⊢
      rw [hlist, hports] at hq
      by_cases hqp : q = p
      · rw [hqp, hup, hchange.2, Bool.true_and]
      · rw [hkept.others q hqp, hport q hq, hups, if_neg hqp, hstp]
    · have hindexes : ({ (noteLink o p up b₁).1 with core := core } : TrackedBridge).ifIndexes =
          b₁.ifIndexes := ifIndexes_eq (hlist.trans hports) hifs
      exact hindexes.trans hlinks.ifIndexes
  · rename_i hchange
    obtain rfl := Option.some.inj h₂
    refine ⟨⟨hindex.trans hlinks.index, ?_, fun q hq => ?_⟩, ?_⟩
    · rw [henabled, hstp, hbup]
    · rw [hports] at hq
      rw [hport q hq, hups, hstp]
      split
      · rename_i hqp
        cases hstp₁ : b₁.stpEnabled with
        | false => rfl
        | true =>
          have hsame : (b₁.ifs p).up = up := hquiet (by simpa [hstp, hstp₁] using hchange)
          rw [hqp, hsame]
      · rfl
    · exact (ifIndexes_eq hports hifs).trans hlinks.ifIndexes

/-- A loop over the ports of a bridge that tells the core of each port what is up. -/
theorem forEachIf_links (target : PortRef → Bool)
    {act : PortRef → TrackedBridge → Option TrackedBridge}
    (hact : ∀ p core c, act p { b with core := core } = some c →
      ∃ core', c = { b with core := core' } ∧ LinksKept p core core' ∧ core'.ports = core.ports ∧
        (core'.port p).portEnabled = target p)
    (h : forEachIf act b = some b') :
    ∃ core, b' = { b with core := core } ∧ core.ports = b.core.ports ∧
      core.bridgeEnabled = b.core.bridgeEnabled ∧
      ∀ p ∈ b.core.ports, (core.port p).portEnabled = target p := by
  have keeps : ∀ p ∈ b.core.ports, ∀ c c', SameCore b c → act p c = some c' → SameCore b c' := by
    rintro p - c c' ⟨core, rfl, hports, hen⟩ hc
    obtain ⟨core', rfl, hkept, hlist, -⟩ := hact p core c' hc
    exact ⟨core', rfl, hlist.trans hports, hkept.enabled.trans hen⟩
  have settles : ∀ p ∈ b.core.ports, ∀ c c', SameCore b c → act p c = some c' →
      (c'.core.port p).portEnabled = target p := by
    rintro p - c c' ⟨core, rfl, -, -⟩ hc
    obtain ⟨core', rfl, -, -, hup⟩ := hact p core c' hc
    exact hup
  have hall := forEach_settles (I := SameCore b)
    (P := fun p c => (c.core.port p).portEnabled = target p) keeps settles ?_
    ⟨b.core, rfl, rfl, rfl⟩ h
  · obtain ⟨core, rfl, hports, hen⟩ := forEach_inv (I := SameCore b) keeps ⟨b.core, rfl, rfl, rfl⟩ h
    exact ⟨core, rfl, hports, hen, hall⟩
  · rintro p hp q - c c' ⟨core, rfl, hports, hen⟩ hup hc
    obtain ⟨core', rfl, hkept, -, hq⟩ := hact q core c' hc
    by_cases hpq : p = q
    · rw [hpq]
      exact hq
    · exact (hkept.others p hpq).trans hup

theorem addBridge_kept (hb : b.Agrees) (h : addBridge o b = some b') :
    BridgeKept b b' ∧ b'.ifIndexes = b.ifIndexes := by
  rw [addBridge] at h
  split at h
  · exact Option.some.inj h ▸ ⟨⟨rfl, hb⟩, rfl⟩
  · obtain ⟨core, hcore, hloop⟩ := Option.bind_eq_some_iff.mp h
    obtain ⟨hen, hlist, -⟩ := setBridgeEnable_up hcore
    have htell : ∀ p c c', setPortEnable o p { b with stpEnabled := true, core := c } = some c' →
        ∃ c'', c' = { b with stpEnabled := true, core := c'' } ∧ LinksKept p c c'' ∧
          c''.ports = c.ports ∧ (c''.port p).portEnabled = (b.ifs p).up :=
      fun p c c' hc => setPortEnable_links hc
    obtain ⟨core', rfl, hports, hen', hups⟩ :=
      forEachIf_links _ (b := { b with stpEnabled := true, core := core }) htell hloop
    refine ⟨⟨rfl, hen'.trans hen, fun p hp => ?_⟩, ifIndexes_eq (hports.trans hlist) fun _ => rfl⟩
    rw [hports] at hp
    exact hups p hp

theorem delBridge_kept (hb : b.Agrees) (h : delBridge o b = some b') :
    BridgeKept b b' ∧ b'.ifIndexes = b.ifIndexes := by
  rw [delBridge] at h
  split at h
  · obtain ⟨b₁, hloop, hlast⟩ := Option.bind_eq_some_iff.mp h
    obtain ⟨core, rfl, hports, -, hdown⟩ := forEachIf_links (fun _ => false)
      (fun p c c' hc => by
        obtain ⟨core', hcore, rfl⟩ := Option.map_eq_some_iff.mp hc
        obtain ⟨hkept, hlist, hup⟩ := setPortEnable_up hcore
        exact ⟨core', rfl, hkept, hlist, hup⟩) hloop
    obtain ⟨core', hcore, rfl⟩ := Option.map_eq_some_iff.mp hlast
    obtain ⟨hen, hlist, hsame⟩ := setBridgeEnable_up hcore
    refine ⟨⟨rfl, hen, fun p hp => ?_⟩, ifIndexes_eq (hlist.trans hports) fun _ => rfl⟩
    have hmem : p ∈ b.core.ports := hports ▸ hlist ▸ hp
    exact (hsame p).trans (hdown p hmem)
  · exact Option.some.inj h ▸ ⟨⟨rfl, hb⟩, rfl⟩

theorem oneSecond_kept (hb : b.Agrees) (h : oneSecond o b = some b') :
    BridgeKept b b' ∧ b'.ifIndexes = b.ifIndexes := by
  rw [oneSecond] at h
  split at h
  · obtain ⟨core, hcore, rfl⟩ := Option.map_eq_some_iff.mp h
    have hlinks : SameLinks b { b with core := core } :=
      ⟨rfl, rfl, rfl, fun _ => ⟨rfl, rfl⟩, oneSecond_up hcore⟩
    exact ⟨⟨rfl, hlinks.agrees hb⟩, hlinks.ifIndexes⟩
  · exact Option.some.inj h ▸ ⟨⟨rfl, hb⟩, rfl⟩

theorem freshPort_not_mem (br : Bridge) : freshPort br ∉ br.ports := by
  have hle : ∀ (l : List PortRef), ∀ q ∈ l, q ≤ l.foldr max 0 := by
    intro l
    induction l with
    | nil => simp
    | cons a l ih =>
      intro q hq
      rcases List.mem_cons.mp hq with rfl | hrest
      · exact Nat.le_max_left _ _
      · exact (ih q hrest).trans (Nat.le_max_right _ _)
  intro hmem
  exact absurd (hle br.ports _ hmem) (Nat.not_le_of_gt (Nat.lt_succ_self _))

theorem createIf_kept (hb : b.Agrees) (h : createIf o ifIndex b = some b') :
    BridgeKept b b' ∧ (b'.ifIndexes = b.ifIndexes ∨ b'.ifIndexes = b.ifIndexes ++ [ifIndex]) := by
  have hsame : some b = some b' →
      BridgeKept b b' ∧ (b'.ifIndexes = b.ifIndexes ∨ b'.ifIndexes = b.ifIndexes ++ [ifIndex]) :=
    fun h => Option.some.inj h ▸ ⟨⟨rfl, hb⟩, Or.inl rfl⟩
  rw [createIf] at h
  split at h
  · exact hsame h
  · split at h
    · exact hsame h
    · split at h
      · exact hsame h
      · rename_i macaddr _
        dsimp only at h
        split at h
        · exact hsame h
        · split at h
          · exact hsame h
          · obtain ⟨⟨core, ok⟩, hcore, rfl⟩ := Option.map_eq_some_iff.mp h
            dsimp only
            cases ok with
            | false => exact ⟨⟨rfl, hb⟩, Or.inl rfl⟩
            | true =>
              obtain ⟨hkept, hlist, hdown⟩ := createPort_up hcore
              have hfresh := freshPort_not_mem b.core
              rw [if_pos rfl]
              refine ⟨⟨rfl, hkept.enabled.trans hb.enabled, fun q hq => ?_⟩, Or.inr ?_⟩
              · dsimp only at hq ⊢
                rw [hlist] at hq
                rcases List.mem_append.mp hq with hold | hnew
                · have hne : q ≠ freshPort b.core := fun heq => hfresh (heq ▸ hold)
                  rw [hkept.others q hne, hb.ports q hold]
                  simp [setIf, hne]
                · rw [List.mem_singleton.mp hnew, hdown]
                  simp [setIf]
              · simp only [TrackedBridge.ifIndexes, hlist, List.map_append, List.map_cons,
                  List.map_nil, setIf, if_true]
                congr 1
                refine List.map_congr_left fun q hq => ?_
                rw [if_neg fun heq : q = freshPort b.core => hfresh (heq ▸ hq)]

theorem findIf_some (h : findIf ifIndex b = some p) :
    p ∈ b.core.ports ∧ (b.ifs p).ifIndex = ifIndex := by
  obtain ⟨hindex, before, rest, hsplit, -⟩ := List.find?_eq_some_iff_append.mp h
  refine ⟨?_, beq_iff_eq.mp hindex⟩
  rw [hsplit]
  exact List.mem_append_right _ List.mem_cons_self

theorem hasIf_iff : hasIf ifIndex b = true ↔ ifIndex ∈ b.ifIndexes := by
  rw [hasIf, findIf, List.find?_isSome, TrackedBridge.ifIndexes, List.mem_map]
  simp only [beq_iff_eq]

theorem deleteIf_kept (hb : b.Agrees) (hnodup : b.ifIndexes.Nodup)
    (h : deleteIfByindex o ifIndex b = some b') :
    BridgeKept b b' ∧ b'.ifIndexes.Sublist b.ifIndexes ∧ ifIndex ∉ b'.ifIndexes := by
  rw [deleteIfByindex] at h
  split at h
  · rename_i hnone
    obtain rfl := Option.some.inj h
    refine ⟨⟨rfl, hb⟩, List.Sublist.refl _, fun hmem => ?_⟩
    have hsome := hasIf_iff.mpr hmem
    rw [hasIf, hnone] at hsome
    cases hsome
  · rename_i p hp
    obtain ⟨core, hcore, rfl⟩ := Option.map_eq_some_iff.mp h
    obtain ⟨hkept, hlist⟩ := deletePort_up hcore
    obtain ⟨hmem, hindex⟩ := findIf_some hp
    have hports : b.core.ports.Nodup := hnodup.of_map
    have hrest : ∀ q ∈ core.ports, q ≠ p ∧ q ∈ b.core.ports := by
      intro q hq
      rw [hlist] at hq
      exact (List.Nodup.mem_erase_iff hports).mp hq
    have hsub : core.ports.Sublist b.core.ports := hlist ▸ List.erase_sublist
    refine ⟨⟨rfl, hkept.enabled.trans hb.enabled, fun q hq => ?_⟩, hsub.map _, fun hin => ?_⟩
    · obtain ⟨hne, hold⟩ := hrest q hq
      exact (hkept.others q hne).trans (hb.ports q hold)
    · obtain ⟨q, hq, hqindex⟩ := List.mem_map.mp hin
      obtain ⟨hne, hold⟩ := hrest q hq
      exact hne (List.inj_on_of_nodup_map hnodup hold hmem (hqindex.trans hindex.symm))

end Bridges

/-! ## All bridges -/

/-- No bridge and no interface is tracked twice, and every bridge agrees with its core. -/
structure Tracking (d : Daemon) : Prop where
  indices : (d.map TrackedBridge.ifIndex).Nodup
  interfaces : (d.flatMap TrackedBridge.ifIndexes).Nodup
  agrees : ∀ b ∈ d, b.Agrees

section Daemons

variable {o : Outside} {d d' : Daemon} {b : TrackedBridge} {ifIndex brIndex : Int} {r : Int}
  {p : TrackedBridge → Bool} {f : TrackedBridge → Option TrackedBridge}

theorem Tracking.ports (hd : Tracking d) (hb : b ∈ d) : b.ifIndexes.Nodup :=
  (List.nodup_flatMap.mp hd.interfaces).1 b hb

/-- An update of a bridge that takes no port. -/
theorem Tracking.update (hd : Tracking d)
    (step : ∀ b b', b.Agrees → b.ifIndexes.Nodup → f b = some b' →
      BridgeKept b b' ∧ b'.ifIndexes.Sublist b.ifIndexes)
    (h : updateFirst p f d = some d') : Tracking d' where
  indices := by
    rw [updateFirst_map
      (fun b hb b' _ hf => (step b b' (hd.agrees b hb) (hd.ports hb) hf).1.index) h]
    exact hd.indices
  interfaces := hd.interfaces.sublist
    (updateFirst_sublist (fun b hb b' _ hf => (step b b' (hd.agrees b hb) (hd.ports hb) hf).2) h)
  agrees := updateFirst_forall
    (fun b hb b' _ hf => (step b b' (hd.agrees b hb) (hd.ports hb) hf).1.agrees) hd.agrees h

/-- An update of a bridge that keeps its ports. -/
theorem Tracking.updateSame (hd : Tracking d)
    (step : ∀ b b', b.Agrees → f b = some b' → BridgeKept b b' ∧ b'.ifIndexes = b.ifIndexes)
    (h : updateFirst p f d = some d') : Tracking d' := by
  refine hd.update (fun b b' hb _ hf => ?_) h
  obtain ⟨hkept, hsame⟩ := step b b' hb hf
  exact ⟨hkept, hsame ▸ List.Sublist.refl _⟩

theorem Tracking.deleteIf (hd : Tracking d)
    (h : updateFirst p (deleteIfByindex o ifIndex) d = some d') : Tracking d' :=
  hd.update (fun b b' hb hnodup hf => by
    obtain ⟨hkept, hsub, -⟩ := deleteIf_kept hb hnodup hf
    exact ⟨hkept, hsub⟩) h

theorem Tracking.monitor (hd : Tracking d) (h : monitorBr o ifIndex d = some d') :
    Tracking d' := by
  rw [monitorBr] at h
  split at h
  · exact Option.some.inj h ▸ hd
  · rename_i hunknown
    obtain ⟨b, hb, rfl⟩ := Option.map_eq_some_iff.mp h
    have hnew : b.ifIndex = ifIndex ∧ b.core.ports = [] ∧ b.Agrees := by
      rw [createBr] at hb
      split at hb
      · cases hb
      · obtain ⟨name, -, hb⟩ := Option.bind_eq_some_iff.mp hb
        obtain ⟨macaddr, -, hb⟩ := Option.bind_eq_some_iff.mp hb
        dsimp only at hb
        split at hb
        · obtain rfl := Option.some.inj hb
          exact ⟨rfl, rfl, rfl, fun p hp => absurd hp List.not_mem_nil⟩
        · cases hb
    obtain ⟨hindex, hnone, hagrees⟩ := hnew
    refine ⟨?_, ?_, fun c hc => ?_⟩
    · rw [List.map_append, List.map_cons, List.map_nil, hindex]
      refine List.nodup_append.mpr ⟨hd.indices, List.nodup_singleton _, fun i hi j hj => ?_⟩
      rintro rfl
      obtain ⟨c, hc, hci⟩ := List.mem_map.mp hi
      refine hunknown (List.find?_isSome.mpr ⟨c, hc, ?_⟩)
      rw [isBr, hci, List.mem_singleton.mp hj, beq_self_eq_true]
    · have hempty : b.ifIndexes = [] := by rw [TrackedBridge.ifIndexes, hnone, List.map_nil]
      rw [List.flatMap_append, List.flatMap_singleton, hempty, List.append_nil]
      exact hd.interfaces
    · rcases List.mem_append.mp hc with hold | hone
      · exact hd.agrees c hold
      · rw [List.mem_singleton.mp hone]
        exact hagrees

theorem Tracking.refreshBr (hd : Tracking d) (h : refreshBr o brIndex d = some d') :
    Tracking d' := by
  refine hd.updateSame (fun b b' hb hf => ?_) h
  dsimp only at hf
  split at hf
  · exact setBrUp_kept hb hf
  · exact Option.some.inj hf ▸ ⟨⟨rfl, hb⟩, rfl⟩

theorem Tracking.findBr_of_mem (hd : Tracking d) (hb : b ∈ d) (hthis : isBr brIndex b = true) :
    findBr brIndex d = some b := by
  obtain ⟨c, hc⟩ := Option.isSome_iff_exists.mp (List.find?_isSome.mpr ⟨b, hb, hthis⟩)
  have hfound : isBr brIndex c = true := List.find?_some hc
  have hindex : c.ifIndex = b.ifIndex := (beq_iff_eq.mp hfound).trans (beq_iff_eq.mp hthis).symm
  have hsame := List.inj_on_of_nodup_map hd.indices (List.mem_of_find?_eq_some hc) hb hindex
  exact hsame ▸ hc

/-- An interface that the bridge does not have leaves the bridge that has it. -/
theorem Tracking.comeToBr (hd : Tracking d) (hunknown : slaveOf brIndex ifIndex d = false)
    (h : comeToBr o brIndex ifIndex d = some d') : Tracking d' := by
  obtain ⟨d₁, h₁, h₂⟩ := Option.bind_eq_some_iff.mp h
  have hd₁ : Tracking d₁ := hd.deleteIf h₁
  have hfree : ifIndex ∉ d₁.flatMap TrackedBridge.ifIndexes := by
    refine updateFirst_release hd.interfaces (fun b hb hin => ?_) (fun b hb => ?_)
      (fun b hb b' _ hf => (deleteIf_kept (hd.agrees b hb) (hd.ports hb) hf).2.2) h₁
    · have hhas := hasIf_iff.mpr hin
      have hother : isBr brIndex b = false := by
        by_contra hthis
        rw [slaveOf, hd.findBr_of_mem hb (by simpa using hthis), Option.any_some, hhas] at hunknown
        cases hunknown
      rw [hother, hhas]
      rfl
    · exact hasIf_iff.mp (Bool.and_eq_true_iff.mp hb).2
  refine ⟨?_, updateFirst_take hfree hd₁.interfaces
    (fun b hb b' _ hf => (createIf_kept (hd₁.agrees b hb) hf).2) h₂,
    updateFirst_forall (fun b hb b' _ hf => (createIf_kept (hd₁.agrees b hb) hf).1.agrees)
      hd₁.agrees h₂⟩
  rw [updateFirst_map (fun b hb b' _ hf => (createIf_kept (hd₁.agrees b hb) hf).1.index) h₂]
  exact hd₁.indices

theorem Tracking.notifySlave (hd : Tracking d) {newlink running : Bool}
    (h : notifySlave o brIndex ifIndex newlink running d = some (d', r)) : Tracking d' := by
  rw [Mstpd.notifySlave] at h
  split at h
  · exact (Prod.mk.inj (Option.some.inj h)).1 ▸ hd
  · obtain ⟨d₁, h₁, h₂⟩ := Option.bind_eq_some_iff.mp h
    have hd₁ : Tracking d₁ := by
      split at h₁
      · exact Option.some.inj h₁ ▸ hd
      · rename_i hunknown
        exact hd.comeToBr (by simpa using hunknown) h₁
    split at h₂
    · exact (Prod.mk.inj (Option.some.inj h₂)).1 ▸ hd₁
    · split at h₂
      · obtain ⟨d₂, hdelete, heq⟩ := Option.map_eq_some_iff.mp h₂
        exact (Prod.mk.inj heq).1 ▸ hd₁.deleteIf hdelete
      · obtain ⟨d₂, hup, heq⟩ := Option.map_eq_some_iff.mp h₂
        refine (Prod.mk.inj heq).1 ▸ hd₁.updateSame (fun b b' hb hf => ?_) hup
        split at hf
        · exact Option.some.inj hf ▸ ⟨⟨rfl, hb⟩, rfl⟩
        · exact setIfUp_kept hb hf

theorem Tracking.unregister (hd : Tracking d) (h : unregister o ifIndex d = some d') :
    Tracking d' := by
  rw [Mstpd.unregister] at h
  split at h
  · obtain rfl := Option.some.inj h
    have hsub : (d.eraseP (isBr ifIndex)).Sublist d := List.eraseP_sublist
    exact ⟨hd.indices.sublist (hsub.map _), hd.interfaces.sublist (hsub.flatMap _),
      fun b hb => hd.agrees b (hsub.subset hb)⟩
  · exact hd.deleteIf h

theorem Tracking.notify (hd : Tracking d) {newlink : Bool} {flags : Nat}
    (h : bridgeNotify o brIndex ifIndex newlink flags d = some (d', r)) : Tracking d' := by
  rw [bridgeNotify] at h
  split at h
  · split at h
    · exact (Prod.mk.inj (Option.some.inj h)).1 ▸ hd
    · rename_i d₁ h₁
      obtain ⟨d₂, h₂, hrest⟩ := Option.bind_eq_some_iff.mp h
      exact ((hd.monitor h₁).refreshBr h₂).notifySlave hrest
  · split at h
    · obtain ⟨d₁, h₁, heq⟩ := Option.map_eq_some_iff.mp h
      exact (Prod.mk.inj heq).1 ▸ hd.unregister h₁
    · split at h
      · split at h
        · exact (Prod.mk.inj (Option.some.inj h)).1 ▸ hd
        · rename_i d₁ h₁
          obtain ⟨d₂, h₂, heq⟩ := Option.map_eq_some_iff.mp h
          exact (Prod.mk.inj heq).1 ▸ (hd.monitor h₁).updateSame
            (fun b b' hb hf => setBrUp_kept hb hf) h₂
      · exact (Prod.mk.inj (Option.some.inj h)).1 ▸ hd

theorem Tracking.addBridges {brArray : List Int} (hd : Tracking d)
    (h : ctlAddBridges o brArray d = some (d', r)) : Tracking d' := by
  induction brArray generalizing d with
  | nil => exact (Prod.mk.inj (Option.some.inj h)).1 ▸ hd
  | cons i rest ih =>
    rw [ctlAddBridges] at h
    split at h
    · exact (Prod.mk.inj (Option.some.inj h)).1 ▸ hd
    · rename_i d₁ h₁
      obtain ⟨d₂, h₂, hrest⟩ := Option.bind_eq_some_iff.mp h
      exact ih ((hd.monitor h₁).updateSame (fun b b' hb hf => addBridge_kept hb hf) h₂) hrest

theorem Tracking.delBridges {brArray : List Int} (hd : Tracking d)
    (h : ctlDelBridges o brArray d = some (d', r)) : Tracking d' := by
  induction brArray generalizing d with
  | nil => exact (Prod.mk.inj (Option.some.inj h)).1 ▸ hd
  | cons i rest ih =>
    obtain ⟨d₁, h₁, hrest⟩ := Option.bind_eq_some_iff.mp h
    exact ih (hd.updateSame (fun b b' hb hf => delBridge_kept hb hf) h₁) hrest

theorem bridgeOneSecond_kept (hd : ∀ b ∈ d, b.Agrees) (h : bridgeOneSecond o d = some d') :
    d'.map TrackedBridge.ifIndex = d.map TrackedBridge.ifIndex ∧
      d'.flatMap TrackedBridge.ifIndexes = d.flatMap TrackedBridge.ifIndexes ∧
      ∀ b ∈ d', b.Agrees := by
  induction d generalizing d' with
  | nil =>
    obtain rfl := Option.some.inj h
    exact ⟨rfl, rfl, hd⟩
  | cons b d ih =>
    obtain ⟨b', hb', hrest⟩ := Option.bind_eq_some_iff.mp h
    obtain ⟨d₁, hd₁, rfl⟩ := Option.map_eq_some_iff.mp hrest
    obtain ⟨hkept, hsame⟩ := oneSecond_kept (hd b List.mem_cons_self) hb'
    obtain ⟨hindices, hinterfaces, hagrees⟩ :=
      ih (fun c hc => hd c (List.mem_cons_of_mem b hc)) hd₁
    refine ⟨?_, ?_, fun c hc => ?_⟩
    · rw [List.map_cons, List.map_cons, hkept.index, hindices]
    · rw [List.flatMap_cons, List.flatMap_cons, hsame, hinterfaces]
    · rcases List.mem_cons.mp hc with rfl | hold
      · exact hkept.agrees
      · exact hagrees c hold

theorem Tracking.oneSecond (hd : Tracking d) (h : bridgeOneSecond o d = some d') :
    Tracking d' := by
  obtain ⟨hindices, hinterfaces, hagrees⟩ := bridgeOneSecond_kept hd.agrees h
  exact ⟨hindices ▸ hd.indices, hinterfaces ▸ hd.interfaces, hagrees⟩

theorem Tracking.track (hd : Tracking d) {op : TrackOp} (h : track o op d = some (d', r)) :
    Tracking d' := by
  cases op with
  | notify brIndex ifIndex newlink flags => exact hd.notify h
  | addBridges brArray => exact hd.addBridges h
  | delBridges brArray => exact hd.delBridges h
  | oneSecond =>
    obtain ⟨d₁, h₁, heq⟩ := Option.map_eq_some_iff.mp h
    exact (Prod.mk.inj heq).1 ▸ hd.oneSecond h₁

theorem TrackReached.tracking (h : TrackReached d) : Tracking d := by
  induction h with
  | start => exact ⟨List.nodup_nil, List.nodup_nil, fun b hb => absurd hb List.not_mem_nil⟩
  | step _ hstep ih => exact ih.track hstep

/-- Whatever is reported and asked for, in any order: no bridge is listed twice, no
interface is a port of two bridges or twice of one, and while STP is managed at a bridge
exactly what is up is enabled, otherwise nothing. -/
theorem tracking_invariant (h : TrackReached d) :
    (d.map TrackedBridge.ifIndex).Nodup ∧
    (∀ b ∈ d, b.ifIndexes.Nodup) ∧
    (∀ b ∈ d, ∀ b' ∈ d, ∀ i ∈ b.ifIndexes, i ∈ b'.ifIndexes → b = b') ∧
    (∀ b ∈ d, b.stpEnabled = true → b.core.bridgeEnabled = b.up ∧
      ∀ p ∈ b.core.ports, (b.core.port p).portEnabled = (b.ifs p).up) ∧
    ∀ b ∈ d, b.stpEnabled = false → b.core.bridgeEnabled = false ∧
      ∀ p ∈ b.core.ports, (b.core.port p).portEnabled = false := by
  have hd := h.tracking
  refine ⟨hd.indices, fun b hb => hd.ports hb,
    fun b hb b' hb' i hi hi' => owner_unique hd.interfaces hb hb' hi hi', fun b hb hstp => ?_,
    fun b hb hstp => ?_⟩
  · have hagrees := hd.agrees b hb
    exact ⟨by rw [hagrees.enabled, hstp, Bool.true_and],
      fun p hp => by rw [hagrees.ports p hp, hstp, Bool.true_and]⟩
  · have hagrees := hd.agrees b hb
    exact ⟨by rw [hagrees.enabled, hstp, Bool.false_and],
      fun p hp => by rw [hagrees.ports p hp, hstp, Bool.false_and]⟩

end Daemons

/-! ## A sample -/

/-- A kernel that knows all interfaces, all of which are up. -/
def sampleOutside : Outside where
  env _ _ := sampleEnv
  calloc _ := true
  indexToName _ := some "br"
  indexToPortName _ := some "eth"
  getHwaddr _ _ := some 0x020000000001
  getFlags _ := iffUp
  getBridgePortno _ := 1
  ethtoolSpeedDuplex _ := some (1000, 1)
  driverCreateBridge _ := true
  driverCreatePort _ := true

def trackAll : List TrackOp → Daemon → Option Daemon
  | [], d => some d
  | op :: ops, d => (track sampleOutside op d).bind fun r => trackAll ops r.1

theorem trackAll_reached {ops : List TrackOp} {d d' : Daemon} (hd : TrackReached d)
    (h : trackAll ops d = some d') : TrackReached d' := by
  induction ops generalizing d with
  | nil => exact Option.some.inj h ▸ hd
  | cons op ops ih =>
    obtain ⟨⟨d₁, r⟩, hstep, hrest⟩ := Option.bind_eq_some_iff.mp h
    exact ih (hd.step hstep) hrest

/-- STP on a bridge that is monitored, and a port that moves there unnoticed. -/
theorem sample_tracking : ∃ d b, TrackReached d ∧ b ∈ d ∧ b.stpEnabled = true ∧
    3 ∈ b.ifIndexes ∧ b.core.bridgeEnabled = b.up ∧
    ∀ p ∈ b.core.ports, (b.core.port p).portEnabled = (b.ifs p).up := by
  have hrun : (trackAll [.notify 10 3 true 0x41, .notify 11 4 true 0x41, .addBridges [11],
      .notify 11 3 true 0x41, .oneSecond] []).any (fun d =>
        (findBr 11 d).any fun b => b.stpEnabled && b.ifIndexes.contains 3) = true := by
    decide +kernel
  obtain ⟨d, hd, hrun⟩ := (Option.any_eq_true _ _).mp hrun
  obtain ⟨b, hb, hrun⟩ := (Option.any_eq_true _ _).mp hrun
  simp only [Bool.and_eq_true, List.contains_iff_mem] at hrun
  have hreached := trackAll_reached .start hd
  have hmem : b ∈ d := List.mem_of_find?_eq_some hb
  obtain ⟨-, -, -, hmanaged, -⟩ := tracking_invariant hreached
  obtain ⟨hen, hports⟩ := hmanaged b hmem hrun.1
  exact ⟨d, b, hreached, hmem, hrun.1, hrun.2, hen, hports⟩

end Mstpd
