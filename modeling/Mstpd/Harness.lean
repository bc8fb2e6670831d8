import Mstpd.OpFrames
import Mstpd.Wire

/-!
# The WebAssembly harness

Bridges, ports and cables behind integer handles, with a queue of the frames on their way.
The core runs on its own in each call, and its `MSTP_OUT_` calls are carried out in the
order in which it made them.
-/

namespace Mstpd.Harness

open Machine

/-! ## The registries -/

/-- `sysdeps` of a port, besides speed and duplex mode. -/
structure PortSysdeps where
  name : String
  macaddr : BitVec 48
  up : Bool := false

/-- `port_slot_t`. Static storage starts with zeros, so a new slot names port 0 as its peer. -/
structure PortSlot where
  prt : Option PortSysdeps := none
  brh : Int := 0
  peer : Int := 0
  adminUp : Bool := false
  mute : Bool := false
  /-- Which cable was plugged in last. The source does not count them. -/
  cable : Nat := 0
  deriving Inhabited

/-- A bridge with its `sysdeps`. -/
structure BridgeSlot where
  name : String
  macaddr : BitVec 48
  up : Bool := false
  stpEnabled : Bool := false
  core : Bridge

/-- `frame_t`, with the cable that it was sent on. -/
structure QueuedFrame where
  seq : Nat
  src : Int
  dst : Int
  len : Nat
  data : Mem
  cable : Nat

/-- A call of `MSTP_IN_rx_bpdu`, with both slots as they were then. -/
structure RxCall where
  frame : QueuedFrame
  receiver : PortSlot
  sender : PortSlot

/-- The globals of the harness. The last three fields only record what has happened. -/
structure State where
  bridges : Int → Option BridgeSlot := fun _ => none
  ports : Int → PortSlot := fun _ => {}
  queue : List QueuedFrame := []
  framesDelivered : Nat := 0
  frameSeq : Nat := 0
  /-- Cables plugged in so far. -/
  cables : Nat := 0
  /-- Questions put to `Outside` so far. -/
  asked : Nat := 0
  /-- Frames handed over so far, the latest first. -/
  handed : List RxCall := []
  deriving Inhabited

/-- What is decided elsewhere, question by question. -/
structure Outside where
  env : Nat → Env
  malloc : Nat → Bool := fun _ => true
  /-- Are the arguments of a call evaluated from the right? -/
  fromRight : Nat → Bool := fun _ => false

def maxBridges : Nat := 256

def maxPorts : Nat := 4096

def brHandleOk (brh : Int) (h : State) : Bool :=
  decide (0 ≤ brh ∧ brh < maxBridges) && (h.bridges brh).isSome

def portHandleOk (porth : Int) (h : State) : Bool :=
  decide (0 ≤ porth ∧ porth < maxPorts) && (h.ports porth).prt.isSome

/-- The first of the handles that is not taken. -/
def firstFree (taken : Int → Bool) (i : Int) : Nat → Option Int
  | 0 => none
  | n + 1 => if taken i then firstFree taken (i + 1) n else some i

def allocBrHandle (h : State) : Option Int :=
  firstFree (fun i => (h.bridges i).isSome) 0 maxBridges

def allocPortHandle (h : State) : Option Int :=
  firstFree (fun i => (h.ports i).prt.isSome) 0 maxPorts

/-- The address of a `port_t`: one for each handle. -/
def portRef (porth : Int) : PortRef := porth.toNat

def setSlot (porth : Int) (f : PortSlot → PortSlot) (h : State) : State :=
  { h with ports := fun i => if i = porth then f (h.ports i) else h.ports i }

def setBridge (brh : Int) (b : Option BridgeSlot) (h : State) : State :=
  { h with bridges := fun i => if i = brh then b else h.bridges i }

/-! ## BPDU transport -/

variable (o : Outside)

def frameEnqueue (src dst : Int) (data : Mem) (len : Nat) (h : State) : State :=
  let h' := { h with asked := h.asked + 1 }
  if !o.malloc h.asked then h'
  else
    let f : QueuedFrame := ⟨h.frameSeq + 1, src, dst, len, data, (h.ports src).cable⟩
    { h' with frameSeq := h.frameSeq + 1, queue := h.queue ++ [f] }

def framePurgeDst (dst : Int) (h : State) : State :=
  { h with queue := h.queue.filter fun f => f.dst != dst }

def mstpOutTxBpdu (porth : Int) (bpdu : Bpdu) (size : Nat) (h : State) : State :=
  if !portHandleOk porth h then h
  else if (h.ports porth).mute then h
  else
    let peer := (h.ports porth).peer
    if !portHandleOk peer h then h else frameEnqueue o porth peer bpdu.mem size h

/-- The calls of the core that reach the cables, other than a shutdown. -/
def mstpOut : MstpOut → State → Option State
  | .txBpdu p bpdu size, h => some (mstpOutTxBpdu o p bpdu size h)
  | _, h => some h

/-- One operation of a bridge, then the calls it has made, the oldest first. -/
def callCore (out : MstpOut → State → Option State) (op : Op) (brh : Int) (h : State) :
    Option (State × Bool) :=
  (h.bridges brh).bind fun b =>
    (exec (o.env h.asked) { b.core with out := [] } op).bind fun r =>
      (forEach out r.1.out.reverse
        (setBridge brh (some { b with core := { r.1 with out := [] } })
          { h with asked := h.asked + 1 })).map (·, r.2)

/-! ## Carrier -/

def portCarrier (h : State) (porth : Int) : Bool :=
  let p := h.ports porth
  if !p.adminUp then false
  else if !portHandleOk p.peer h then true
  else (h.ports p.peer).adminUp

/-- The turn of one port in the first loop of `sync_carrier`, and whether it has changed. -/
def refreshCarrier (porth : Int) (h : State) : State × Bool :=
  match (h.ports porth).prt with
  | none => (h, false)
  | some sysdeps =>
    if !portHandleOk porth h then (h, false)
    else
      let up := portCarrier h porth
      let changed := up != sysdeps.up
      let h := setSlot porth (fun s => { s with prt := some { sysdeps with up := up } }) h
      (if changed && !up then framePurgeDst porth h else h, changed)

/-- Tell the core of a port whether it is up. -/
def enablePort (porth : Int) (h : State) : Option State :=
  let slot := h.ports porth
  (h.bridges slot.brh).bind fun b =>
    let prt := b.core.port (portRef porth)
    (callCore o (mstpOut o)
      (.setPortEnable (portRef porth) (slot.prt.any PortSysdeps.up) prt.speed prt.duplex)
      slot.brh h).map (·.1)

/-- `sync_carrier`; the handle -1 stands for no port. -/
def syncCarrier (a b : Int) (h : State) : Option State :=
  let (h, changedA) := refreshCarrier a h
  let (h, changedB) := refreshCarrier b h
  (if changedA then enablePort o a h else some h).bind fun h =>
    if changedB then enablePort o b h else some h

def clearPeer (s : PortSlot) : PortSlot := { s with peer := -1, mute := false }

/-- `unplug`, with the port at the other end. -/
def unplug (porth : Int) (h : State) : State × Int :=
  let peer := (h.ports porth).peer
  let h := setSlot porth clearPeer h
  (if portHandleOk peer h then setSlot peer clearPeer h else h, peer)

/-- Both ends of a new cable. -/
def plug (a b : Int) (h : State) : State :=
  let cable := h.cables + 1
  { setSlot b (fun s => { s with peer := a, cable := cable })
      (setSlot a (fun s => { s with peer := b, cable := cable }) h) with cables := cable }

def mstpOutShutdownPort (porth : Int) (h : State) : Option State :=
  syncCarrier o porth (h.ports porth).peer (setSlot porth (fun s => { s with adminUp := false }) h)

/-- The calls that `MSTP_IN_rx_bpdu` makes; a shutdown is its last. -/
def mstpOutOfRx : MstpOut → State → Option State
  | .shutdownPort p, h => mstpOutShutdownPort o p h
  | call, h => mstpOut o call h

/-! ## The calls of the API -/

/-- The digit of `hexval`. -/
def hexval (c : Char) : Option Nat :=
  if '0' ≤ c ∧ c ≤ '9' then some (c.toNat - '0'.toNat)
  else if 'a' ≤ c ∧ c ≤ 'f' then some (c.toNat - 'a'.toNat + 10)
  else if 'A' ≤ c ∧ c ≤ 'F' then some (c.toNat - 'A'.toNat + 10)
  else none

/-- The loop of `parse_mac` with the number of octets and their value so far. -/
def parseMacLoop : List Char → Nat → Nat → Option (Nat × Nat)
  | [], n, out => some (n, out)
  | c :: rest, n, out =>
    if n = 6 then some (n, out)
    else if c = ':' ∨ c = '-' then parseMacLoop rest n out
    else
      match hexval c, rest with
      | some hi, d :: rest =>
        match hexval d with
        | some lo => parseMacLoop rest (n + 1) (out * 256 + (hi * 16 + lo))
        | none => none
      | _, _ => none

def parseMac (s : Option (List Char)) : Option (BitVec 48) :=
  s.bind fun s =>
    (parseMacLoop s 0 0).bind fun r => if r.1 = 6 then some (BitVec.ofNat 48 r.2) else none

/-- A name or its default, as `snprintf` puts it into `IFNAMSIZ` octets. -/
def ifname (name : Option String) (default : String) : String :=
  String.ofList ((name.getD default).toList.take 15)

/-- What an API function returns for a success or a failure. -/
def code (ok : Bool) : Int := if ok then 0 else -1

def mstpwBridgeCreate (name : Option String) (mac : Option (List Char)) (h : State) : State × Int :=
  match allocBrHandle h with
  | none => (h, -1)
  | some brh =>
    let h' := { h with asked := h.asked + 1 }
    let env := o.env h.asked
    let macaddr := (parseMac mac).getD (BitVec.ofNat 48 (0x020000000000 + brh.toNat))
    if !o.malloc h.asked || !env.calloc 0 then (h', -1)
    else
      (setBridge brh
        (some
          { name := ifname name "br", macaddr := macaddr, core := mstpInBridgeCreate env macaddr })
        h', brh)

def mstpwBridgeSetEnable (brh : Int) (up : Bool) (h : State) : Option (State × Int) :=
  if !brHandleOk brh h then some (h, -1)
  else
    (callCore o (mstpOut o) (.setBridgeEnable up) brh
      (setBridge brh ((h.bridges brh).map fun b => { b with up := up, stpEnabled := up }) h)).map
      fun r => (r.1, 0)

/-- The slot of a port that has been freed. -/
def freeSlot (s : PortSlot) : PortSlot := { s with prt := none, adminUp := false }

/-- The turn of one handle in `mstpw_bridge_delete`. -/
def dropPort (brh : Int) (i : Int) (h : State) : Option State :=
  if (h.ports i).prt.isSome && (h.ports i).brh == brh then
    let (h, peer) := unplug i h
    (callCore o (mstpOut o) (.deletePort (portRef i)) brh h).bind fun r =>
      syncCarrier o peer (-1) (framePurgeDst i (setSlot i freeSlot r.1))
  else some h

def handles (n : Nat) : List Int := (List.range n).map Int.ofNat

/-- `mstpw_bridge_delete`; no port is left when `MSTP_IN_delete_bridge` is called. -/
def mstpwBridgeDelete (brh : Int) (h : State) : Option (State × Int) :=
  if !brHandleOk brh h then some (h, -1)
  else (forEach (dropPort o brh) (handles maxPorts) h).map fun h => (setBridge brh none h, 0)

def mstpwPortCreate (brh : Int) (name : Option String) (mac : Option (List Char))
    (portno speed duplex : Int) (h : State) : Option (State × Int) :=
  if !brHandleOk brh h then some (h, -1)
  else if portno ≤ 0 ∨ (maxPortNumber : Int) < portno then some (h, -1)
  else
    match allocPortHandle h with
    | none => some (h, -1)
    | some porth =>
      let h' := { h with asked := h.asked + 1 }
      if !o.malloc h.asked then some (h', -1)
      else
        let macaddr := (parseMac mac).getD
          (BitVec.ofNat 48 (0x020000000000 + brh.toNat * 0x10000 + porth.toNat))
        let name := ifname name "p"
        let op : Op := .createPort (portRef porth) (.ofInt portno) name
          (if 0 < speed then speed else 1000) (if duplex ≠ 0 then 1 else 0)
        (callCore o (mstpOut o) op brh h').map fun r =>
          if r.2 then
            (setSlot porth (fun s =>
              { s with
                prt := some ⟨name, macaddr, false⟩, brh := brh, peer := -1, adminUp := false
                mute := false }) r.1, porth)
          else (r.1, -1)

/-- The speed and the duplex mode that the caller gives a port, of which zero keeps the speed. -/
def noteSpeed (porth speed duplex : Int) (h : State) : Option State :=
  let brh := (h.ports porth).brh
  (h.bridges brh).bind fun b =>
    let old := (b.core.port (portRef porth)).speed
    let op : Op :=
      .sysdeps (portRef porth) (if 0 < speed then speed else old) (if duplex ≠ 0 then 1 else 0)
    (callCore o (mstpOut o) op brh h).map (·.1)

def mstpwPortSetEnable (porth : Int) (up : Bool) (speed duplex : Int) (h : State) :
    Option (State × Int) :=
  if !portHandleOk porth h then some (h, -1)
  else
    (if up then noteSpeed o porth speed duplex h else some h).bind fun h =>
      (syncCarrier o porth (h.ports porth).peer
        (setSlot porth (fun s => { s with adminUp := up }) h)).map (·, 0)

def mstpwPortDelete (porth : Int) (h : State) : Option (State × Int) :=
  if !portHandleOk porth h then some (h, -1)
  else
    let (h, peer) := unplug porth h
    (callCore o (mstpOut o) (.deletePort (portRef porth)) (h.ports porth).brh h).bind fun r =>
      (syncCarrier o peer (-1) (setSlot porth freeSlot r.1)).map (·, 0)

/-- `sync_carrier(unplug(a), unplug(b))`, whose arguments are evaluated in either order. -/
def unplugBoth (a b : Int) (h : State) : Option State :=
  let h' := { h with asked := h.asked + 1 }
  if o.fromRight h.asked then
    let (h', peerB) := unplug b h'
    let (h', peerA) := unplug a h'
    syncCarrier o peerA peerB h'
  else
    let (h', peerA) := unplug a h'
    let (h', peerB) := unplug b h'
    syncCarrier o peerA peerB h'

def mstpwLink (a b : Int) (h : State) : Option (State × Int) :=
  if !portHandleOk a h || !portHandleOk b h || a == b then some (h, -1)
  else
    (unplugBoth o a b h).bind fun h => (syncCarrier o a b (plug a b h)).map (·, 0)

/-- `mstpw_link_oneway(from, to)`. -/
def mstpwLinkOneway (a b : Int) (h : State) : Option (State × Int) :=
  if !portHandleOk a h || !portHandleOk b h || a == b then some (h, -1)
  else
    (unplugBoth o a b h).bind fun h =>
      (syncCarrier o a b (setSlot b (fun s => { s with mute := true }) (plug a b h))).map (·, 0)

def mstpwUnlink (porth : Int) (h : State) : Option (State × Int) :=
  if !portHandleOk porth h then some (h, -1)
  else
    let (h, peer) := unplug porth h
    (syncCarrier o porth peer h).map (·, 0)

/-- The turn of one bridge in `mstpw_one_second`. -/
def tickBridge (j : Int) (h : State) : Option State :=
  if (h.bridges j).any BridgeSlot.stpEnabled then
    (callCore o (mstpOut o) .oneSecond j h).map (·.1)
  else some h

def mstpwOneSecond (h : State) : Option State := forEach (tickBridge o) (handles maxBridges) h

def mstpwDeliverCap : Nat := 2000000

/-- One frame of the wave, and whether it was delivered. -/
def deliverFrame (f : QueuedFrame) (h : State) : Option (State × Bool) :=
  if portHandleOk f.dst h && (h.ports f.dst).prt.any PortSysdeps.up then
    let h :=
      { h with
        framesDelivered := h.framesDelivered + 1
        handed := ⟨f, h.ports f.dst, h.ports f.src⟩ :: h.handed }
    (callCore o (mstpOutOfRx o) (.rxBpdu (portRef f.dst) f.data f.len) (h.ports f.dst).brh h).map
      fun r => (r.1, true)
  else some (h, false)

/-- The next frame. When the wave is over, `all` detaches the frames queued meanwhile. -/
def nextFrame (all : Bool) (wave : List QueuedFrame) (h : State) :
    Option (QueuedFrame × List QueuedFrame × State) :=
  match wave with
  | f :: wave => some (f, wave, h)
  | [] =>
    if all then
      match h.queue with
      | f :: wave => some (f, wave, { h with queue := [] })
      | [] => none
    else none

/-- The frames that `guard` still lets pass, starting within a wave. -/
def deliverLoop (all : Bool) : Nat → List QueuedFrame → Int → State → Option (State × Int)
  | budget, wave, delivered, h =>
    match nextFrame all wave h with
    | none => some (h, delivered)
    | some (f, wave, h) =>
      match budget with
      | 0 => some ({ h with queue := [] }, delivered)
      | budget + 1 =>
        (deliverFrame o f h).bind fun r =>
          deliverLoop all budget wave (if r.2 then delivered + 1 else delivered) r.1

def mstpwDeliverBpdus (all : Bool) (h : State) : Option (State × Int) :=
  deliverLoop o all mstpwDeliverCap h.queue 0 { h with queue := [] }

/-- `mstpw_step`. -/
def mstpwStep : Nat → State → Option State
  | 0, h => some h
  | n + 1, h =>
    (mstpwOneSecond o h).bind fun h =>
      (mstpwDeliverBpdus o true h).bind fun r => mstpwStep n r.1

/-- A management call for a bridge. -/
def manageBridge (brh : Int) (op : Op) (h : State) : Option (State × Int) :=
  if !brHandleOk brh h then some (h, -1)
  else (callCore o (mstpOut o) op brh h).map fun r => (r.1, code r.2)

/-- A management call for a port. -/
def managePort (porth : Int) (op : PortRef → Op) (h : State) : Option (State × Int) :=
  if !portHandleOk porth h then some (h, -1)
  else
    (callCore o (mstpOut o) (op (portRef porth)) (h.ports porth).brh h).map fun r =>
      (r.1, code r.2)

def mstpwSetMstConfigId (brh revision : Int) (name : Nat → UInt8) : State → Option (State × Int) :=
  manageBridge o brh (.setMstConfigId (.ofInt revision) name)

def mstpwSetForceProtocolVersion (brh version : Int) : State → Option (State × Int) :=
  manageBridge o brh
    (.setCistBridgeConfig { protocolVersion := some (UInt32.ofInt version).toNat })

/-- A value that is only set where it is positive. -/
def ifPositive {α : Type} (f : Int → α) (n : Int) : Option α := if 0 < n then some (f n) else none

def mstpwSetBridgeTimes (brh maxAge forwardDelay helloTime maxHops txHoldCount : Int) :
    State → Option (State × Int) :=
  manageBridge o brh
    (.setCistBridgeConfig
      { bridgeMaxAge := ifPositive .ofInt maxAge
        bridgeForwardDelay := ifPositive .ofInt forwardDelay
        bridgeHelloTime := ifPositive .ofInt helloTime
        maxHops := ifPositive .ofInt maxHops
        txHoldCount := ifPositive Int.toNat txHoldCount })

def mstpwCreateMsti (brh mstid : Int) : State → Option (State × Int) :=
  manageBridge o brh (.createMsti (.ofInt mstid))

def mstpwDeleteMsti (brh mstid : Int) : State → Option (State × Int) :=
  manageBridge o brh (.deleteMsti (.ofInt mstid))

def mstpwSetVid2fid (brh vid fid : Int) : State → Option (State × Int) :=
  manageBridge o brh (.setVid2fid (.ofInt vid) (.ofInt fid))

def mstpwSetFid2mstid (brh fid mstid : Int) : State → Option (State × Int) :=
  manageBridge o brh (.setFid2mstid (.ofInt fid) (.ofInt mstid))

def hasTree (brh mstid : Int) (h : State) : Bool :=
  (h.bridges brh).any fun b => b.core.trees.contains (.ofInt mstid)

def mstpwSetBridgePriority (brh mstid priority : Int) (h : State) : Option (State × Int) :=
  if brHandleOk brh h && !hasTree brh mstid h then some (h, -1)
  else manageBridge o brh (.setMstiBridgeConfig (.ofInt mstid) (.ofInt priority)) h

def mstpwSetPortPathCost (porth mstid cost : Int) (h : State) : Option (State × Int) :=
  if mstid = 0 then
    managePort o porth
      (fun p => .setCistPortConfig p { adminExternalPortPathCost := some (.ofInt cost) }) h
  else if portHandleOk porth h && !hasTree (h.ports porth).brh mstid h then some (h, -1)
  else
    managePort o porth (fun p =>
      .setMstiPortConfig p (.ofInt mstid) { adminInternalPortPathCost := some (.ofInt cost) }) h

def mstpwSetPortAdminEdge (porth : Int) (yes : Bool) : State → Option (State × Int) :=
  managePort o porth fun p => .setCistPortConfig p { adminEdgePort := some yes }

def mstpwSetPortAutoEdge (porth : Int) (yes : Bool) : State → Option (State × Int) :=
  managePort o porth fun p => .setCistPortConfig p { autoEdgePort := some yes }

def mstpwSetPortAdminP2p (porth p2p : Int) : State → Option (State × Int) :=
  managePort o porth fun p => .setCistPortConfig p { adminP2P := some (UInt32.ofInt p2p).toNat }

def mstpwSetPortBpduGuard (porth : Int) (yes : Bool) : State → Option (State × Int) :=
  managePort o porth fun p => .setCistPortConfig p { bpduGuardPort := some yes }

def mstpwSetPortRestrictedRole (porth : Int) (yes : Bool) : State → Option (State × Int) :=
  managePort o porth fun p => .setCistPortConfig p { restrictedRole := some yes }

def mstpwSetPortRestrictedTcn (porth : Int) (yes : Bool) : State → Option (State × Int) :=
  managePort o porth fun p => .setCistPortConfig p { restrictedTcn := some yes }

def mstpwSetPortNetwork (porth : Int) (yes : Bool) : State → Option (State × Int) :=
  managePort o porth fun p => .setCistPortConfig p { networkPort := some yes }

/-- The functions of the API that change something here. -/
inductive Call
  | bridgeCreate (name : Option String) (mac : Option (List Char))
  | bridgeSetEnable (brh : Int) (up : Bool)
  | bridgeDelete (brh : Int)
  | portCreate (brh : Int) (name : Option String) (mac : Option (List Char))
      (portno speed duplex : Int)
  | portSetEnable (porth : Int) (up : Bool) (speed duplex : Int)
  | portDelete (porth : Int)
  | link (a b : Int)
  | linkOneway (a b : Int)
  | unlink (porth : Int)
  | oneSecond
  | deliverBpdus (all : Bool)
  | step (seconds : Int)
  | setMstConfigId (brh revision : Int) (name : Nat → UInt8)
  | setForceProtocolVersion (brh version : Int)
  | setBridgeTimes (brh maxAge forwardDelay helloTime maxHops txHoldCount : Int)
  | createMsti (brh mstid : Int)
  | deleteMsti (brh mstid : Int)
  | setVid2fid (brh vid fid : Int)
  | setFid2mstid (brh fid mstid : Int)
  | setBridgePriority (brh mstid priority : Int)
  | setPortPathCost (porth mstid cost : Int)
  | setPortAdminEdge (porth : Int) (yes : Bool)
  | setPortAutoEdge (porth : Int) (yes : Bool)
  | setPortAdminP2p (porth p2p : Int)
  | setPortBpduGuard (porth : Int) (yes : Bool)
  | setPortRestrictedRole (porth : Int) (yes : Bool)
  | setPortRestrictedTcn (porth : Int) (yes : Bool)
  | setPortNetwork (porth : Int) (yes : Bool)

/-- The state after a call, and what it returns; nothing where the core does not return. -/
def mstpw : Call → State → Option (State × Int)
  | .bridgeCreate name mac, h => some (mstpwBridgeCreate o name mac h)
  | .bridgeSetEnable brh up, h => mstpwBridgeSetEnable o brh up h
  | .bridgeDelete brh, h => mstpwBridgeDelete o brh h
  | .portCreate brh name mac portno speed duplex, h =>
    mstpwPortCreate o brh name mac portno speed duplex h
  | .portSetEnable porth up speed duplex, h => mstpwPortSetEnable o porth up speed duplex h
  | .portDelete porth, h => mstpwPortDelete o porth h
  | .link a b, h => mstpwLink o a b h
  | .linkOneway a b, h => mstpwLinkOneway o a b h
  | .unlink porth, h => mstpwUnlink o porth h
  | .oneSecond, h => (mstpwOneSecond o h).map (·, 0)
  | .deliverBpdus all, h => mstpwDeliverBpdus o all h
  | .step seconds, h => (mstpwStep o seconds.toNat h).map (·, 0)
  | .setMstConfigId brh revision name, h => mstpwSetMstConfigId o brh revision name h
  | .setForceProtocolVersion brh version, h => mstpwSetForceProtocolVersion o brh version h
  | .setBridgeTimes brh maxAge forwardDelay helloTime maxHops txHoldCount, h =>
    mstpwSetBridgeTimes o brh maxAge forwardDelay helloTime maxHops txHoldCount h
  | .createMsti brh mstid, h => mstpwCreateMsti o brh mstid h
  | .deleteMsti brh mstid, h => mstpwDeleteMsti o brh mstid h
  | .setVid2fid brh vid fid, h => mstpwSetVid2fid o brh vid fid h
  | .setFid2mstid brh fid mstid, h => mstpwSetFid2mstid o brh fid mstid h
  | .setBridgePriority brh mstid priority, h => mstpwSetBridgePriority o brh mstid priority h
  | .setPortPathCost porth mstid cost, h => mstpwSetPortPathCost o porth mstid cost h
  | .setPortAdminEdge porth yes, h => mstpwSetPortAdminEdge o porth yes h
  | .setPortAutoEdge porth yes, h => mstpwSetPortAutoEdge o porth yes h
  | .setPortAdminP2p porth p2p, h => mstpwSetPortAdminP2p o porth p2p h
  | .setPortBpduGuard porth yes, h => mstpwSetPortBpduGuard o porth yes h
  | .setPortRestrictedRole porth yes, h => mstpwSetPortRestrictedRole o porth yes h
  | .setPortRestrictedTcn porth yes, h => mstpwSetPortRestrictedTcn o porth yes h
  | .setPortNetwork porth yes, h => mstpwSetPortNetwork o porth yes h

/-- A sequence of calls. -/
def calls : List Call → State → Option State
  | [], h => some h
  | c :: rest, h => (mstpw o c h).bind fun r => calls rest r.1

theorem calls_append (l l' : List Call) (h : State) :
    calls o (l ++ l') h = (calls o l h).bind (calls o l') := by
  induction l generalizing h with
  | nil => rfl
  | cons c l ih =>
    rw [List.cons_append, calls, calls, Option.bind_assoc]
    exact congrArg _ (funext fun r => ih r.1)

end Mstpd.Harness
