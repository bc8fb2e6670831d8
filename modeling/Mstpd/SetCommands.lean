import Mstpd.ParseList
import Mstpd.Batch
import Mstpd.CtlClient

/-!
# Commands that change something

A command of `mstpctl` reads its words, one after the other, and calls one function of the client
when all of them are right. Otherwise it gives up, and the daemon gets no message.
-/

namespace Mstpd.CtlMain

open CText CtlClient

/-! ## Words -/

/-- How a command gives up. -/
inductive Failure
  | exit
  | result (r : Int)

section Commands

variable (ifNametoindex : List Char → Int32) (argv : Words)

/-- `get_index`, with the check that the commands make of what it returns. -/
def getIndex (i : Nat) : Except Failure Int32 :=
  let r := ifNametoindex (argv.getD i [])
  if r = 0 then .error .exit else if r < 0 then .error (.result r.toInt) else .ok r

/-- `get_id` for a tree, with the check that the commands make of what it returns. -/
def getMstid (i : Nat) : Except Failure UInt16 :=
  match getId (argv.getD i []) "mstid" maxMstid with
  | .error e => .error (.result e.code)
  | .ok id => .ok (UInt16.ofNat id)

/-- `INT_MAX`. -/
def intMax : Int := 2 ^ 31 - 1

def getuint (s : List Char) : Except Failure UInt32 :=
  let scanned := strtoul s
  -- the result of `strtoul` is assigned to a signed variable
  let l := Int.bmod scanned.1 (2 ^ 64)
  if s = [] ∨ scanned.2 ≠ [] ∨ intMax < l then .error .exit else .ok (UInt32.ofNat scanned.1)

/-- A number that is cut to 255. -/
def getuint8 (s : List Char) : Except Failure UInt8 :=
  (getuint s).map fun n => UInt8.ofNat (min n.toNat 255)

def getenum {α : Type} (opt : List (List Char × α)) (s : List Char) : Except Failure α :=
  match opt.find? fun o => o.1 == s with
  | some o => .ok o.2
  | none => .error .exit

def getyesno : List Char → Except Failure Bool :=
  getenum [("yes".toList, true), ("no".toList, false)]

/-! ## Commands -/

def cmdSetmstconfid : Except Failure Request := do
  let brIndex ← getIndex ifNametoindex argv 1
  let revision ← getuint (argv.getD 2 [])
  if 0xFFFF < revision.toNat then .error (.result (-1))
  else
    let name (i : Nat) := ((argv.getD 3 []).map fun c => UInt8.ofNat c.toNat).getD i 0
    .ok (.setMstconfid brIndex (UInt16.ofNat revision.toNat) name)

/-- `set_bridge_cfg`. -/
def setBridgeCfg {α : Type} (value : List Char → Except Failure α)
    (cfg : α → CistBridgeConfig) : Except Failure Request := do
  let brIndex ← getIndex ifNametoindex argv 1
  let v ← value (argv.getD 2 [])
  .ok (.setCistBridgeConfig brIndex (cfg v))

def cmdSetbridgemaxage : Except Failure Request :=
  setBridgeCfg ifNametoindex argv getuint8 fun v => { bridgeMaxAge := some v }

def cmdSetbridgehello : Except Failure Request :=
  setBridgeCfg ifNametoindex argv getuint8 fun v => { bridgeHelloTime := some v }

def cmdSetbridgefdelay : Except Failure Request :=
  setBridgeCfg ifNametoindex argv getuint8 fun v => { bridgeForwardDelay := some v }

def cmdSetbridgemaxhops : Except Failure Request :=
  setBridgeCfg ifNametoindex argv getuint8 fun v => { maxHops := some v }

def cmdSetbridgeforcevers : Except Failure Request :=
  setBridgeCfg ifNametoindex argv
    (getenum [("stp".toList, 0), ("rstp".toList, 2), ("mstp".toList, 3)])
    fun v => { protocolVersion := some v }

def cmdSetbridgetxholdcount : Except Failure Request :=
  setBridgeCfg ifNametoindex argv getuint fun v => { txHoldCount := some v.toNat }

def cmdSetbridgeageing : Except Failure Request :=
  setBridgeCfg ifNametoindex argv getuint fun v => { bridgeAgeingTime := some v.toNat }

def cmdSettreeprio : Except Failure Request := do
  let brIndex ← getIndex ifNametoindex argv 1
  let mstid ← getMstid argv 2
  let prio ← getuint8 (argv.getD 3 [])
  .ok (.setMstiBridgeConfig brIndex mstid prio)

/-- `set_port_cfg`. -/
def setPortCfg {α : Type} (value : List Char → Except Failure α)
    (cfg : α → CistPortConfig) : Except Failure Request := do
  let brIndex ← getIndex ifNametoindex argv 1
  let portIndex ← getIndex ifNametoindex argv 2
  let v ← value (argv.getD 3 [])
  .ok (.setCistPortConfig brIndex portIndex (cfg v))

def cmdSetportpathcost : Except Failure Request :=
  setPortCfg ifNametoindex argv getuint fun v => { adminExternalPortPathCost := some v }

def cmdSetportadminedge : Except Failure Request :=
  setPortCfg ifNametoindex argv getyesno fun v => { adminEdgePort := some v }

def cmdSetportautoedge : Except Failure Request :=
  setPortCfg ifNametoindex argv getyesno fun v => { autoEdgePort := some v }

/-- With the values of `admin_p2p_t`. -/
def cmdSetportp2p : Except Failure Request :=
  setPortCfg ifNametoindex argv
    (getenum [("no".toList, 2), ("yes".toList, 1), ("auto".toList, 0)])
    fun v => { adminP2P := some v }

def cmdSetportrestrrole : Except Failure Request :=
  setPortCfg ifNametoindex argv getyesno fun v => { restrictedRole := some v }

def cmdSetportrestrtcn : Except Failure Request :=
  setPortCfg ifNametoindex argv getyesno fun v => { restrictedTcn := some v }

def cmdSetportbpduguard : Except Failure Request :=
  setPortCfg ifNametoindex argv getyesno fun v => { bpduGuardPort := some v }

def cmdSetportbpdufilter : Except Failure Request :=
  setPortCfg ifNametoindex argv getyesno fun v => { bpduFilterPort := some v }

def cmdSetportnetwork : Except Failure Request :=
  setPortCfg ifNametoindex argv getyesno fun v => { networkPort := some v }

def cmdSetportdonttxmt : Except Failure Request :=
  setPortCfg ifNametoindex argv getyesno fun v => { dontTxmt := some v }

/-- `set_tree_port_cfg`. -/
def setTreePortCfg {α : Type} (value : List Char → Except Failure α)
    (cfg : α → MstiPortConfig) : Except Failure Request := do
  let brIndex ← getIndex ifNametoindex argv 1
  let portIndex ← getIndex ifNametoindex argv 2
  let mstid ← getMstid argv 3
  let v ← value (argv.getD 4 [])
  .ok (.setMstiPortConfig brIndex portIndex mstid (cfg v))

def cmdSettreeportprio : Except Failure Request :=
  setTreePortCfg ifNametoindex argv getuint8 fun v => { portPriority := some v }

def cmdSettreeportcost : Except Failure Request :=
  setTreePortCfg ifNametoindex argv getuint fun v => { adminInternalPortPathCost := some v }

def cmdPortmcheck : Except Failure Request := do
  let brIndex ← getIndex ifNametoindex argv 1
  let portIndex ← getIndex ifNametoindex argv 2
  .ok (.portMcheck brIndex portIndex)

def cmdDebuglevel : Except Failure Request := do
  let level ← getuint (argv.getD 1 [])
  .ok (.setDebugLevel (Int32.ofInt level.toNat))

def cmdCreatetree : Except Failure Request := do
  let brIndex ← getIndex ifNametoindex argv 1
  let mstid ← getMstid argv 2
  .ok (.createMsti brIndex mstid)

def cmdDeletetree : Except Failure Request := do
  let brIndex ← getIndex ifNametoindex argv 1
  let mstid ← getMstid argv 2
  .ok (.deleteMsti brIndex mstid)

/-- The lists behind the bridge, entered into a table. -/
def getLists (f : ListFormat) : Except Failure Allocation :=
  match parseLists f (fun _ => 0xFFFF) (argv.drop 2) with
  | (table, none) => .ok table
  | (_, some e) => .error (.result e.code)

def cmdSetvid2fid : Except Failure Request := do
  let brIndex ← getIndex ifNametoindex argv 1
  let vids2fids ← getLists argv vidList
  .ok (.setVids2fids brIndex vids2fids)

def cmdSetfid2mstid : Except Failure Request := do
  let brIndex ← getIndex ifNametoindex argv 1
  let fids2mstids ← getLists argv fidList
  .ok (.setFids2mstids brIndex fids2mstids)

/-- The array of `cmd_addbridge` and `cmd_delbridge`, which do not check the index again. -/
def bridgeArray : Except Failure (List Int32) :=
  argv.tail.mapM fun ifname =>
    if ifNametoindex ifname = 0 then .error .exit else .ok (ifNametoindex ifname)

def cmdAddbridge (mhdr : Octets.Memory) (uid : Nat) : Except Failure CtlSocket.Datagram := do
  let bridges ← bridgeArray ifNametoindex argv
  .ok (bridgesDatagram CtlSocket.cmdCodeAddBridges bridges mhdr uid)

def cmdDelbridge (mhdr : Octets.Memory) (uid : Nat) : Except Failure CtlSocket.Datagram := do
  let bridges ← bridgeArray ifNametoindex argv
  .ok (bridgesDatagram CtlSocket.cmdCodeDelBridges bridges mhdr uid)

end Commands

/-- An entry of `commands` whose function ends in a call that changes something. -/
structure SetCommand where
  nargs : Nat
  optargs : Nat
  name : String
  func : (List Char → Int32) → Words → Except Failure Request

def setCommands : List SetCommand :=
  [ ⟨3, 0, "setmstconfid", cmdSetmstconfid⟩, ⟨2, 32, "setvid2fid", cmdSetvid2fid⟩,
    ⟨2, 32, "setfid2mstid", cmdSetfid2mstid⟩, ⟨2, 0, "setmaxage", cmdSetbridgemaxage⟩,
    ⟨2, 0, "setfdelay", cmdSetbridgefdelay⟩, ⟨2, 0, "setmaxhops", cmdSetbridgemaxhops⟩,
    ⟨2, 0, "sethello", cmdSetbridgehello⟩, ⟨2, 0, "setageing", cmdSetbridgeageing⟩,
    ⟨2, 0, "setforcevers", cmdSetbridgeforcevers⟩,
    ⟨2, 0, "settxholdcount", cmdSetbridgetxholdcount⟩, ⟨2, 0, "createtree", cmdCreatetree⟩,
    ⟨2, 0, "deletetree", cmdDeletetree⟩, ⟨3, 0, "settreeprio", cmdSettreeprio⟩,
    ⟨3, 0, "setportpathcost", cmdSetportpathcost⟩, ⟨3, 0, "setportadminedge", cmdSetportadminedge⟩,
    ⟨3, 0, "setportautoedge", cmdSetportautoedge⟩, ⟨3, 0, "setportp2p", cmdSetportp2p⟩,
    ⟨3, 0, "setportrestrrole", cmdSetportrestrrole⟩, ⟨3, 0, "setportrestrtcn", cmdSetportrestrtcn⟩,
    ⟨2, 0, "portmcheck", cmdPortmcheck⟩, ⟨3, 0, "setbpduguard", cmdSetportbpduguard⟩,
    ⟨4, 0, "settreeportprio", cmdSettreeportprio⟩, ⟨4, 0, "settreeportcost", cmdSettreeportcost⟩,
    ⟨3, 0, "setportnetwork", cmdSetportnetwork⟩, ⟨3, 0, "setportdonttxmt", cmdSetportdonttxmt⟩,
    ⟨3, 0, "setportbpdufilter", cmdSetportbpdufilter⟩,
    ⟨1, 0, "debuglevel", fun _ => cmdDebuglevel⟩ ]

/-- How a command comes by its request: most of them by one of a few functions that they share. -/
inductive Shape : SetCommand → Prop
  | bridgeCfg {name : String} {α : Type} {value : List Char → Except Failure α}
      {cfg : α → CistBridgeConfig}
      (hfit : ∀ w v, value w = .ok v → ∀ i, (Request.setCistBridgeConfig i (cfg v)).Fits) :
      Shape ⟨2, 0, name, fun f argv => setBridgeCfg f argv value cfg⟩
  | portCfg {name : String} {α : Type} {value : List Char → Except Failure α}
      {cfg : α → CistPortConfig}
      (hfit : ∀ w v, value w = .ok v → (cfg v).adminP2P.getD 0 < 2 ^ 32) :
      Shape ⟨3, 0, name, fun f argv => setPortCfg f argv value cfg⟩
  | treePortCfg {name : String} {α : Type} {value : List Char → Except Failure α}
      {cfg : α → MstiPortConfig} :
      Shape ⟨4, 0, name, fun f argv => setTreePortCfg f argv value cfg⟩
  | tree {name : String} {request : Int32 → UInt16 → Request}
      (hsent : ∀ i mstid, (request i mstid).Fits ∧ (request i mstid).reads = false) :
      Shape ⟨2, 0, name, fun f argv => do
        let brIndex ← getIndex f argv 1
        let mstid ← getMstid argv 2
        .ok (request brIndex mstid)⟩
  | lists {name : String} {format : ListFormat} {request : Int32 → Allocation → Request}
      (hsent : ∀ i table, (request i table).Fits ∧ (request i table).reads = false) :
      Shape ⟨2, 32, name, fun f argv => do
        let brIndex ← getIndex f argv 1
        let table ← getLists argv format
        .ok (request brIndex table)⟩
  | setmstconfid : Shape ⟨3, 0, "setmstconfid", cmdSetmstconfid⟩
  | settreeprio : Shape ⟨3, 0, "settreeprio", cmdSettreeprio⟩
  | portmcheck : Shape ⟨2, 0, "portmcheck", cmdPortmcheck⟩
  | debuglevel : Shape ⟨1, 0, "debuglevel", fun _ => cmdDebuglevel⟩

/-- One of the values that the words stand for. -/
theorem getenum_mem {α : Type} {opt : List (List Char × α)} {s : List Char} {v : α}
    (h : getenum opt s = .ok v) : v ∈ opt.map Prod.snd := by
  rw [getenum] at h
  split at h
  · rename_i o hfound
    cases h
    exact List.mem_map_of_mem (List.mem_of_find?_eq_some hfound)
  · cases h

theorem setCommands_shape : ∀ c ∈ setCommands, Shape c := by
  have hzero : (0 : Nat) < 2 ^ 32 := by decide
  have hversions : ∀ v ∈ [0, 2, 3], v < 2 ^ 32 := by decide
  have hmodes : ∀ v ∈ [2, 1, 0], v < 2 ^ 32 := by decide
  simp only [setCommands, List.forall_mem_cons]
  exact ⟨.setmstconfid,
    -- setvid2fid, setfid2mstid
    .lists fun _ _ => ⟨trivial, rfl⟩, .lists fun _ _ => ⟨trivial, rfl⟩,
    -- setmaxage, setfdelay, setmaxhops, sethello
    .bridgeCfg fun _ _ _ _ => ⟨hzero, hzero, hzero⟩,
    .bridgeCfg fun _ _ _ _ => ⟨hzero, hzero, hzero⟩,
    .bridgeCfg fun _ _ _ _ => ⟨hzero, hzero, hzero⟩,
    .bridgeCfg fun _ _ _ _ => ⟨hzero, hzero, hzero⟩,
    -- setageing, setforcevers, settxholdcount
    .bridgeCfg fun _ v _ _ => ⟨hzero, hzero, v.toNat_lt⟩,
    .bridgeCfg fun _ v hv _ => ⟨hversions v (getenum_mem hv), hzero, hzero⟩,
    .bridgeCfg fun _ v _ _ => ⟨hzero, v.toNat_lt, hzero⟩,
    -- createtree, deletetree
    .tree fun _ _ => ⟨trivial, rfl⟩, .tree fun _ _ => ⟨trivial, rfl⟩, .settreeprio,
    -- setportpathcost, setportadminedge, setportautoedge, setportp2p
    .portCfg fun _ _ _ => hzero, .portCfg fun _ _ _ => hzero, .portCfg fun _ _ _ => hzero,
    .portCfg fun _ v hv => hmodes v (getenum_mem hv),
    -- setportrestrrole, setportrestrtcn
    .portCfg fun _ _ _ => hzero, .portCfg fun _ _ _ => hzero, .portmcheck,
    -- setbpduguard
    .portCfg fun _ _ _ => hzero, .treePortCfg, .treePortCfg,
    -- setportnetwork, setportdonttxmt, setportbpdufilter
    .portCfg fun _ _ _ => hzero, .portCfg fun _ _ _ => hzero, .portCfg fun _ _ _ => hzero,
    .debuglevel, nofun⟩

/-! ## The words that are looked at -/

section Look

variable {ifNametoindex : List Char → Int32} {argv argv' : Words} {n : Nat}

/-- The words up to a number agree. -/
def SameWords (argv argv' : Words) (n : Nat) : Prop :=
  ∀ i, i ≤ n → argv.getD i [] = argv'.getD i []

theorem SameWords.getIndex (h : SameWords argv argv' n) {i : Nat} (hi : i ≤ n) :
    getIndex ifNametoindex argv i = getIndex ifNametoindex argv' i := by
  rw [CtlMain.getIndex, CtlMain.getIndex, h i hi]

theorem SameWords.getMstid (h : SameWords argv argv' n) {i : Nat} (hi : i ≤ n) :
    getMstid argv i = getMstid argv' i := by
  rw [CtlMain.getMstid, CtlMain.getMstid, h i hi]

variable {α : Type} {value : List Char → Except Failure α}

theorem SameWords.setBridgeCfg (h : SameWords argv argv' 2) {cfg : α → CistBridgeConfig} :
    setBridgeCfg ifNametoindex argv value cfg = setBridgeCfg ifNametoindex argv' value cfg := by
  rw [CtlMain.setBridgeCfg, CtlMain.setBridgeCfg, h.getIndex (by decide), h 2 (by decide)]

theorem SameWords.setPortCfg (h : SameWords argv argv' 3) {cfg : α → CistPortConfig} :
    setPortCfg ifNametoindex argv value cfg = setPortCfg ifNametoindex argv' value cfg := by
  rw [CtlMain.setPortCfg, CtlMain.setPortCfg, h.getIndex (by decide), h.getIndex (by decide),
    h 3 (by decide)]

theorem SameWords.setTreePortCfg (h : SameWords argv argv' 4) {cfg : α → MstiPortConfig} :
    setTreePortCfg ifNametoindex argv value cfg =
      setTreePortCfg ifNametoindex argv' value cfg := by
  rw [CtlMain.setTreePortCfg, CtlMain.setTreePortCfg, h.getIndex (by decide),
    h.getIndex (by decide), h.getMstid (by decide), h 4 (by decide)]

/-- A command of a fixed number of words looks at no word behind them, so at none that
`command_lookup_and_validate` has not made sure of. -/
theorem setCommands_look : ∀ c ∈ setCommands, c.optargs = 0 →
    ∀ (ifNametoindex : List Char → Int32) (argv argv' : Words), SameWords argv argv' c.nargs →
      c.func ifNametoindex argv = c.func ifNametoindex argv' := by
  intro c hc hopt i argv argv' h
  cases setCommands_shape c hc with
  | bridgeCfg hfit => exact h.setBridgeCfg
  | portCfg hfit => exact h.setPortCfg
  | treePortCfg => exact h.setTreePortCfg
  | tree hsent => simp only [h.getIndex (by decide : 1 ≤ 2), h.getMstid (by decide : 2 ≤ 2)]
  | lists hsent => cases hopt
  | setmstconfid =>
    simp only [cmdSetmstconfid, h.getIndex (by decide : 1 ≤ 3), h 2 (by decide), h 3 (by decide)]
  | settreeprio =>
    simp only [cmdSettreeprio, h.getIndex (by decide : 1 ≤ 3), h.getMstid (by decide : 2 ≤ 3),
      h 3 (by decide)]
  | portmcheck =>
    simp only [cmdPortmcheck, h.getIndex (by decide : 1 ≤ 2), h.getIndex (by decide : 2 ≤ 2)]
  | debuglevel => simp only [cmdDebuglevel, h 1 (by decide)]

end Look

/-! ## What is sent -/

section Sent

variable {ifNametoindex : List Char → Int32} {argv : Words} {r : Request}

/-- Every step of a command that sent something has gone well. -/
theorem ok_of_bind {α β : Type} {b : β} :
    ∀ {x : Except Failure α} {f : α → Except Failure β}, (x >>= f) = .ok b →
      ∃ a, x = .ok a ∧ f a = .ok b
  | .ok a, _, h => ⟨a, rfl, h⟩

theorem mapM_ok {f : List Char → Int32} {ws : Words} {is : List Int32}
    (h : (ws.mapM fun w => if f w = 0 then Except.error Failure.exit else .ok (f w)) = .ok is) :
    is = ws.map f := by
  induction ws generalizing is with
  | nil =>
    cases h
    rfl
  | cons w ws ih =>
    rw [List.mapM_cons] at h
    obtain ⟨i, hi, h⟩ := ok_of_bind h
    obtain ⟨rest, hrest, h⟩ := ok_of_bind h
    cases h
    rw [List.map_cons, ← ih hrest]
    split at hi
    · cases hi
    · cases hi
      rfl

/-- `addbridge` and `delbridge` send the bridges of their words, and with no more words than they
take the array is not too long for the daemon. -/
theorem bridge_commands_send {mhdr : Octets.Memory} {uid : Nat} {d d' : CtlSocket.Datagram}
    (hadd : cmdAddbridge ifNametoindex argv mhdr uid = .ok d)
    (hdel : cmdDelbridge ifNametoindex argv mhdr uid = .ok d') (hn : argv.length ≤ 1 + 32 + 1) :
    ∃ bridges, bridges = argv.tail.map ifNametoindex ∧ bridges.length < 2500 ∧
      d = bridgesDatagram CtlSocket.cmdCodeAddBridges bridges mhdr uid ∧
      d' = bridgesDatagram CtlSocket.cmdCodeDelBridges bridges mhdr uid := by
  obtain ⟨bridges, hbridges, hadd⟩ := ok_of_bind hadd
  obtain ⟨bridges', hbridges', hdel⟩ := ok_of_bind hdel
  have heq := mapM_ok hbridges
  have heq' := mapM_ok hbridges'
  cases hadd
  cases hdel
  refine ⟨bridges, heq, ?_, rfl, ?_⟩
  · rw [heq, List.length_map, List.length_tail]
    omega
  · rw [heq', ← heq]

/-- What becomes of a number. One that is too great for an `int` is refused, but not so if it is
so great, or so far below zero, that it is negative as a `long`. -/
theorem getuint_typed (blanks : List Char) (hblanks : ∀ c ∈ blanks, isSpace c = true)
    (neg : Bool) (n : Nat) :
    let v := if 2 ^ 64 ≤ n then 2 ^ 64 - 1 else if neg then (2 ^ 64 - n) % 2 ^ 64 else n
    getuint (blanks ++ (if neg then '-' :: decimal n else decimal n)) =
      if 2 ^ 31 ≤ v ∧ v < 2 ^ 63 then .error .exit else .ok (UInt32.ofNat v) := by
  intro v
  have hv : v < 2 ^ 64 := by
    change (if _ then _ else if _ then _ else _) < _
    split
    · decide
    · split
      · exact Nat.mod_lt _ (by decide)
      · omega
  have hword : blanks ++ (if neg then '-' :: decimal n else decimal n) ≠ [] := by
    have hdigits := decimal_ne_nil n
    cases neg <;> simp [hdigits]
  have hlong : intMax < Int.bmod v (2 ^ 64) ↔ 2 ^ 31 ≤ v ∧ v < 2 ^ 63 := by
    rw [Int.bmod_def, intMax]
    constructor
    · intro hlt
      split at hlt <;> omega
    · rintro ⟨hlow, hhigh⟩
      split <;> omega
  have hread : strtoul (blanks ++ (if neg then '-' :: decimal n else decimal n)) = (v, []) :=
    strtoul_typed hblanks neg n
  simp only [getuint, hread, hword, hlong, ne_eq, not_true_eq_false, false_or]

theorem getuint_typed_sample :
    getuint [' ', '2', '0'] = .ok 20 ∧ getuint (decimal 2147483648) = .error .exit ∧
      getuint ['-', '1'] = .ok 4294967295 :=
  ⟨getuint_typed [' '] (by simp [isSpace]) false 20,
    by simpa using getuint_typed [] (by simp) false 2147483648,
    getuint_typed [] (by simp) true 1⟩

end Sent

end Mstpd.CtlMain
