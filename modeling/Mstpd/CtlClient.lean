import Mstpd.Octets
import Mstpd.CtlCommands

/-!
# The client of the control socket

`mstpctl` lays the arguments of a command out in memory and sends them; what the daemon does is
what the command would do if it were called with these arguments.
-/

namespace Mstpd.CtlClient

open Octets CtlServer
open CtlSocket (Datagram Server intAt toSizeT wrapInt replyLlog sizeofHdr logStringLen messageCases
  cmdCodeAddBridges cmdCodeDelBridges)

/-! ## Reading members -/

section Reading

variable {m : Memory} {o n flag : Nat}

theorem u8At_toList (h : o < n) : u8At (toList m n) o = m o := by
  rw [u8At, getD_toList h]

/-- Two halves of a number, put together. -/
theorem low_or_high {low high w : Nat} (h : low < 2 ^ w) :
    low ||| high * 2 ^ w = high * 2 ^ w + low := by
  rw [Nat.or_comm, ← Nat.shiftLeft_eq, ← Nat.shiftLeft_add_eq_or_of_lt h]

theorem u16At_toNat {k : Nat} (h : Holds m o (digits k 2)) (hn : o + 2 ≤ n) :
    (u16At (toList m n) o).toNat = k % 2 ^ 16 := by
  obtain ⟨hlow, hrest⟩ := holds_cons.mp h
  have hhigh := (holds_cons.mp hrest).1
  have h8 : (8 : UInt16).toNat % 16 = 8 := rfl
  rw [u16At, u8At_toList (by omega), u8At_toList (by omega), hlow, hhigh]
  simp only [UInt16.toNat_or, UInt16.toNat_shiftLeft, UInt8.toNat_toUInt16, UInt8.toNat_ofNat', h8,
    Nat.shiftLeft_eq]
  rw [Nat.mod_eq_of_lt (by omega : k / 256 % 2 ^ 8 * 2 ^ 8 < 2 ^ 16), low_or_high (by omega)]
  omega

theorem u16At_toList {v : UInt16} (h : Holds m o (digits v.toNat 2)) (hn : o + 2 ≤ n) :
    u16At (toList m n) o = v := by
  apply UInt16.toNat_inj.mp
  rw [u16At_toNat h hn]
  exact Nat.mod_eq_of_lt v.toNat_lt

theorem natAt_toList {k : Nat} (h : Holds m o (digits k 4)) (hk : k < 2 ^ 32) (hn : o + 4 ≤ n) :
    natAt (toList m n) o = k := by
  have hdigits : digits k 4 = digits k 2 ++ digits (k / 256 / 256) 2 := rfl
  rw [hdigits] at h
  obtain ⟨hlow, hhigh⟩ := holds_append.mp h
  rw [length_digits] at hhigh
  have h16 : (16 : UInt32).toNat % 32 = 16 := rfl
  rw [natAt, u32At]
  simp only [UInt32.toNat_or, UInt32.toNat_shiftLeft, UInt16.toNat_toUInt32, h16,
    u16At_toNat hlow (by omega : o + 2 ≤ n), u16At_toNat hhigh (by omega : o + 2 + 2 ≤ n),
    Nat.shiftLeft_eq]
  rw [Nat.mod_eq_of_lt (by omega : k / 256 / 256 % 2 ^ 16 * 2 ^ 16 < 2 ^ 32),
    low_or_high (by omega)]
  omega

theorem u32At_toList {v : UInt32} (h : Holds m o (digits v.toNat 4)) (hn : o + 4 ≤ n) :
    u32At (toList m n) o = v :=
  UInt32.toNat_inj.mp (natAt_toList h v.toNat_lt hn)

theorem intAt_digits {k : Nat} (h : Holds m o (digits k 4)) (hk : k < 2 ^ 32) (hn : o + 4 ≤ n) :
    intAt (toList m n) o = wrapInt k := by
  obtain ⟨h0, h⟩ := holds_cons.mp h
  obtain ⟨h1, h⟩ := holds_cons.mp h
  obtain ⟨h2, h⟩ := holds_cons.mp h
  have h3 := (holds_cons.mp h).1
  have hread : ∀ j, j < 4 → (toList m n).getD (o + j) 0 = m (o + j) := fun j hj =>
    u8At_toList (by omega)
  have hfirst : (toList m n).getD o 0 = m o := hread 0 (by omega)
  have hnumber : ((k % 2 ^ 8 + 2 ^ 8 * (k / 256 % 2 ^ 8) + 2 ^ 16 * (k / 256 / 256 % 2 ^ 8) +
      2 ^ 24 * (k / 256 / 256 / 256 % 2 ^ 8) : Nat) : Int) = k := by
    omega
  rw [intAt]
  simp only [hfirst, hread 1 (by omega), hread 2 (by omega), hread 3 (by omega),
    Nat.add_zero, h0, h1, show m (o + 2) = _ from h2, show m (o + 3) = _ from h3,
    UInt8.toNat_ofNat', hnumber]

theorem intAt_toList {i : Int32} (h : Holds m o (digits i.toBitVec.toNat 4)) (hn : o + 4 ≤ n) :
    intAt (toList m n) o = i.toInt := by
  have hi := i.toBitVec.isLt
  rw [intAt_digits h hi hn, wrapInt, Int32.toInt, BitVec.toInt_eq_toNat_cond]
  split <;> omega

theorem u8At_holds {v : UInt8} (h : Holds m o [v]) (hn : o + 1 ≤ n) : u8At (toList m n) o = v := by
  rw [u8At_toList (by omega)]
  exact (holds_cons.mp h).1

def bit (b : Bool) : List UInt8 := [if b then 1 else 0]

theorem boolAt_holds {b : Bool} (h : Holds m o (bit b)) (hn : o + 1 ≤ n) :
    boolAt (toList m n) o = b := by
  rw [boolAt, u8At_holds h hn]
  cases b <;> rfl

/-- A member that counts just where its flag is set. -/
theorem memberAt_holds {α : Type} {read : List UInt8 → Nat → α} {v : Option α} {d : α}
    (hflag : Holds m flag (bit v.isSome)) (hn : flag + 1 ≤ n)
    (hread : read (toList m n) o = v.getD d) : memberAt read (toList m n) o flag = v := by
  rw [memberAt, boolAt_holds hflag hn, hread]
  cases v <;> rfl

end Reading

/-! ## Requests -/

/-- The arguments of the functions that `CLIENT_SIDE_FUNCTION` defines. -/
inductive Request
  | getCistBridgeStatus (brIndex : Int32)
  | getMstiBridgeStatus (brIndex : Int32) (mstid : UInt16)
  | setCistBridgeConfig (brIndex : Int32) (cfg : CistBridgeConfig)
  | setMstiBridgeConfig (brIndex : Int32) (mstid : UInt16) (bridgePriority : UInt8)
  | getCistPortStatus (brIndex portIndex : Int32)
  | getMstiPortStatus (brIndex portIndex : Int32) (mstid : UInt16)
  | setCistPortConfig (brIndex portIndex : Int32) (cfg : CistPortConfig)
  | setMstiPortConfig (brIndex portIndex : Int32) (mstid : UInt16) (cfg : MstiPortConfig)
  | portMcheck (brIndex portIndex : Int32)
  | setDebugLevel (level : Int32)
  | getMstilist (brIndex : Int32)
  | createMsti (brIndex : Int32) (mstid : UInt16)
  | deleteMsti (brIndex : Int32) (mstid : UInt16)
  | getMstconfid (brIndex : Int32)
  | setMstconfid (brIndex : Int32) (revision : UInt16) (name : Nat → UInt8)
  | getVids2fids (brIndex : Int32)
  | getFids2mstids (brIndex : Int32)
  | setVid2fid (brIndex : Int32) (vid fid : UInt16)
  | setFid2mstid (brIndex : Int32) (fid mstid : UInt16)
  | setVids2fids (brIndex : Int32) (vids2fids : Nat → UInt16)
  | setFids2mstids (brIndex : Int32) (fids2mstids : Nat → UInt16)

def int (i : Int32) : List UInt8 := digits i.toBitVec.toNat 4

def u16 (n : UInt16) : List UInt8 := digits n.toNat 2

/-- An array of `__u16`. -/
def table (n : Nat) (f : Nat → UInt16) : List UInt8 := (List.range n).flatMap fun i => u16 (f i)

/-- `CIST_BridgeConfig` at an offset; what is not set is zero. -/
def cistBridgeConfigMembers (o : Nat) (cfg : CistBridgeConfig) : Members :=
  [ (o, [cfg.bridgeMaxAge.getD 0]), (o + 1, bit cfg.bridgeMaxAge.isSome),
    (o + 2, [cfg.bridgeForwardDelay.getD 0]), (o + 3, bit cfg.bridgeForwardDelay.isSome),
    (o + 4, digits (cfg.protocolVersion.getD 0) 4), (o + 8, bit cfg.protocolVersion.isSome),
    (o + 12, digits (cfg.txHoldCount.getD 0) 4), (o + 16, bit cfg.txHoldCount.isSome),
    (o + 17, [cfg.maxHops.getD 0]), (o + 18, bit cfg.maxHops.isSome),
    (o + 19, [cfg.bridgeHelloTime.getD 0]), (o + 20, bit cfg.bridgeHelloTime.isSome),
    (o + 24, digits (cfg.bridgeAgeingTime.getD 0) 4), (o + 28, bit cfg.bridgeAgeingTime.isSome) ]

/-- `CIST_PortConfig` at an offset. -/
def cistPortConfigMembers (o : Nat) (cfg : CistPortConfig) : Members :=
  [ (o, digits (cfg.adminExternalPortPathCost.getD 0).toNat 4),
    (o + 4, bit cfg.adminExternalPortPathCost.isSome),
    (o + 5, bit (cfg.adminEdgePort.getD false)), (o + 6, bit cfg.adminEdgePort.isSome),
    (o + 7, bit (cfg.autoEdgePort.getD false)), (o + 8, bit cfg.autoEdgePort.isSome),
    (o + 12, digits (cfg.adminP2P.getD 0) 4), (o + 16, bit cfg.adminP2P.isSome),
    (o + 17, bit (cfg.restrictedRole.getD false)), (o + 18, bit cfg.restrictedRole.isSome),
    (o + 19, bit (cfg.restrictedTcn.getD false)), (o + 20, bit cfg.restrictedTcn.isSome),
    (o + 21, bit (cfg.bpduGuardPort.getD false)), (o + 22, bit cfg.bpduGuardPort.isSome),
    (o + 23, bit (cfg.networkPort.getD false)), (o + 24, bit cfg.networkPort.isSome),
    (o + 25, bit (cfg.dontTxmt.getD false)), (o + 26, bit cfg.dontTxmt.isSome),
    (o + 27, bit (cfg.bpduFilterPort.getD false)), (o + 28, bit cfg.bpduFilterPort.isSome) ]

/-- `MSTI_PortConfig` at an offset. -/
def mstiPortConfigMembers (o : Nat) (cfg : MstiPortConfig) : Members :=
  [ (o, digits (cfg.adminInternalPortPathCost.getD 0).toNat 4),
    (o + 4, bit cfg.adminInternalPortPathCost.isSome),
    (o + 5, [cfg.portPriority.getD 0]), (o + 6, bit cfg.portPriority.isSome) ]

namespace Request

/-- `CMD_CODE_name`. -/
def code : Request → Int
  | getCistBridgeStatus .. => 101
  | getMstiBridgeStatus .. => 102
  | setCistBridgeConfig .. => 103
  | setMstiBridgeConfig .. => 104
  | getCistPortStatus .. => 105
  | getMstiPortStatus .. => 106
  | setCistPortConfig .. => 107
  | setMstiPortConfig .. => 108
  | portMcheck .. => 109
  | setDebugLevel .. => 110
  | getMstilist .. => 111
  | createMsti .. => 112
  | deleteMsti .. => 113
  | getMstconfid .. => 114
  | setMstconfid .. => 115
  | getVids2fids .. => 116
  | getFids2mstids .. => 117
  | setVid2fid .. => 118
  | setFid2mstid .. => 119
  | setVids2fids .. => 120
  | setFids2mstids .. => 121

/-- `name_COPY_IN`. -/
def copyIn : Request → Members
  | getCistBridgeStatus i | setDebugLevel i | getMstilist i | getMstconfid i | getVids2fids i
  | getFids2mstids i => [(0, int i)]
  | getMstiBridgeStatus i t | createMsti i t | deleteMsti i t => [(0, int i), (4, u16 t)]
  | setCistBridgeConfig i cfg => (0, int i) :: cistBridgeConfigMembers 4 cfg
  | setMstiBridgeConfig i t priority => [(0, int i), (4, u16 t), (6, [priority])]
  | getCistPortStatus i p | portMcheck i p => [(0, int i), (4, int p)]
  | getMstiPortStatus i p t => [(0, int i), (4, int p), (8, u16 t)]
  | setCistPortConfig i p cfg => (0, int i) :: (4, int p) :: cistPortConfigMembers 8 cfg
  | setMstiPortConfig i p t cfg =>
    (0, int i) :: (4, int p) :: (8, u16 t) :: mstiPortConfigMembers 12 cfg
  | setMstconfid i revision name =>
    -- `strncpy` fills the array with zeros behind the name
    [(0, int i), (4, u16 revision),
      (6, cName name ++ List.replicate (32 - (cName name).length) 0)]
  | setVid2fid i a b | setFid2mstid i a b => [(0, int i), (4, u16 a), (6, u16 b)]
  | setVids2fids i f => [(0, int i), (4, table (maxVid + 1) f)]
  | setFids2mstids i f => [(0, int i), (4, table (maxFid + 1) f)]

/-- What the `CTL_` function of the daemon does with these arguments. -/
def call (o : Outside) (s : ServerState) : Request → Handled
  | getCistBridgeStatus i => ctlGetCistBridgeStatus s i.toInt
  | getMstiBridgeStatus i t => ctlGetMstiBridgeStatus s i.toInt t
  | setCistBridgeConfig i cfg => checkBridge s i.toInt (callCore o s (.setCistBridgeConfig cfg))
  | setMstiBridgeConfig i t priority =>
    checkBridgeTree s i.toInt t (callCore o s (.setMstiBridgeConfig t priority))
  | getCistPortStatus i p => ctlGetCistPortStatus s i.toInt p.toInt
  | getMstiPortStatus i p t => ctlGetMstiPortStatus s i.toInt p.toInt t
  | setCistPortConfig i p cfg =>
    checkBridgePort s i.toInt p.toInt fun b q => callCore o s (.setCistPortConfig q cfg) b
  | setMstiPortConfig i p t cfg =>
    checkBridgePertreeport s i.toInt p.toInt t fun b q =>
      callCore o s (.setMstiPortConfig q t cfg) b
  | portMcheck i p => checkBridgePort s i.toInt p.toInt fun b q => callCore o s (.portMcheck q) b
  | setDebugLevel level => ctlSetDebugLevel s level.toInt
  | getMstilist i => ctlGetMstilist s i.toInt
  | createMsti i t => ctlCreateMsti o s i.toInt t
  | deleteMsti i t => ctlDeleteMsti o s i.toInt t
  | getMstconfid i => ctlGetMstconfid s i.toInt
  | setMstconfid i revision name =>
    checkBridge s i.toInt (callCore o s (.setMstConfigId revision name))
  | getVids2fids i => ctlGetVids2fids s i.toInt
  | getFids2mstids i => ctlGetFids2mstids s i.toInt
  | setVid2fid i vid fid => checkBridge s i.toInt (callCore o s (.setVid2fid vid fid))
  | setFid2mstid i fid t => checkBridge s i.toInt (callCore o s (.setFid2mstid fid t))
  | setVids2fids i f => checkBridge s i.toInt (callCore o s (.setAllVids2fids f))
  | setFids2mstids i f => checkBridge s i.toInt (callCore o s (.setAllFids2mstids f))

/-- The numbers fit the members they are assigned to. -/
def Fits : Request → Prop
  | setCistBridgeConfig _ cfg =>
    cfg.protocolVersion.getD 0 < 2 ^ 32 ∧ cfg.txHoldCount.getD 0 < 2 ^ 32 ∧
      cfg.bridgeAgeingTime.getD 0 < 2 ^ 32
  | setCistPortConfig _ _ cfg => cfg.adminP2P.getD 0 < 2 ^ 32
  | _ => True

end Request

/-- `sizeof(*in)` and `sizeof(*out)` of a command. -/
def messageSizes (code : Int) : Nat × Nat :=
  ((messageCases.find? fun c => c.code == code).map fun c => (c.input.size, c.output.size)).getD
    (0, 0)

/-- The structure `name_IN` as it is sent. -/
def Request.input (r : Request) (stack : Memory) : List UInt8 :=
  toList (assign stack r.copyIn) (messageSizes r.code).1

section Calls

variable {o : Outside} {s : ServerState} {m stack : Memory} {a n i : Nat} {f g : Nat → UInt16}

theorem length_table : (table n f).length = 2 * n := by
  induction n with
  | zero => rfl
  | succ n ih =>
    rw [table, List.range_succ, List.flatMap_append, List.length_append]
    change (table n f).length + _ = _
    rw [ih]
    simp [u16]
    omega

theorem table_holds (h : Holds m a (table n f)) (hi : i < n) :
    Holds m (a + 2 * i) (u16 (f i)) := by
  induction n with
  | zero => exact absurd hi (Nat.not_lt_zero _)
  | succ n ih =>
    have hsplit : table (n + 1) f = table n f ++ u16 (f n) := by
      rw [table, List.range_succ, List.flatMap_append]
      simp [table]
    rw [hsplit] at h
    obtain ⟨hinit, hlast⟩ := holds_append.mp h
    rw [length_table] at hlast
    rcases Nat.lt_succ_iff_lt_or_eq.mp hi with hi | rfl
    · exact ih hinit hi
    · exact hlast

theorem any_range_congr {p q : Nat → Bool} (h : ∀ i < n, p i = q i) :
    (List.range n).any p = (List.range n).any q := by
  induction n with
  | zero => rfl
  | succ n ih =>
    have hinit := ih fun i hi => h i (Nat.lt_succ_of_lt hi)
    rw [List.range_succ, List.any_append, List.any_append, hinit]
    simp [h n (Nat.lt_succ_self n)]

theorem all_range_congr {p q : Nat → Bool} (h : ∀ i < n, p i = q i) :
    (List.range n).all p = (List.range n).all q := by
  rw [List.all_eq_not_any_not, List.all_eq_not_any_not]
  congr 1
  apply any_range_congr
  intro i hi
  rw [h i hi]

/-- Only the entries up to the greatest VID count. -/
theorem setAllVids2fids_congr (h : ∀ vid ≤ maxVid, f vid = g vid) (env : Env) (br : Bridge) :
    exec env br (.setAllVids2fids f) = exec env br (.setAllVids2fids g) := by
  have htable :
      (fun vid => if vid ≤ maxVid then
        if 1 ≤ vid ∧ maxFid < (f vid).toNat then br.vid2fid vid else f vid else br.vid2fid vid) =
      fun vid => if vid ≤ maxVid then
        if 1 ≤ vid ∧ maxFid < (g vid).toNat then br.vid2fid vid else g vid else br.vid2fid vid := by
    funext vid
    by_cases hvid : vid ≤ maxVid
    · rw [if_pos hvid, if_pos hvid, h vid hvid]
    · rw [if_neg hvid, if_neg hvid]
  have hany : ((List.range (maxVid + 1)).any fun vid => decide (1 ≤ vid) &&
        br.fid2mstid (if 1 ≤ vid ∧ maxFid < (f vid).toNat then br.vid2fid vid else f vid).toNat !=
          vid2mstid br vid) =
      (List.range (maxVid + 1)).any fun vid => decide (1 ≤ vid) &&
        br.fid2mstid (if 1 ≤ vid ∧ maxFid < (g vid).toNat then br.vid2fid vid else g vid).toNat !=
          vid2mstid br vid := by
    apply any_range_congr
    intro vid hvid
    rw [h vid (Nat.le_of_lt_succ hvid)]
  rw [exec, exec, mstpInSetAllVids2fids, mstpInSetAllVids2fids]
  dsimp only
  rw [hany, htable]

theorem setAllFids2mstids_congr (h : ∀ fid ≤ maxFid, f fid = g fid) (env : Env) (br : Bridge) :
    exec env br (.setAllFids2mstids f) = exec env br (.setAllFids2mstids g) := by
  have htable :
      (fun fid => if fid ≤ maxFid then
          if maxMstid < (f fid).toNat then br.fid2mstid fid else f fid else br.fid2mstid fid) =
        fun fid => if fid ≤ maxFid then
          if maxMstid < (g fid).toNat then br.fid2mstid fid else g fid else br.fid2mstid fid := by
    funext fid
    by_cases hfid : fid ≤ maxFid
    · rw [if_pos hfid, if_pos hfid, h fid hfid]
    · rw [if_neg hfid, if_neg hfid]
  have hall : (List.range (maxFid + 1)).all (fun fid => br.trees.contains
        (if maxMstid < (f fid).toNat then br.fid2mstid fid else f fid)) =
      (List.range (maxFid + 1)).all fun fid => br.trees.contains
        (if maxMstid < (g fid).toNat then br.fid2mstid fid else g fid) := by
    apply all_range_congr
    intro fid hfid
    rw [h fid (Nat.le_of_lt_succ hfid)]
  rw [exec, exec, mstpInSetAllFids2mstids, mstpInSetAllFids2mstids]
  dsimp only
  rw [hall, htable]

theorem setMstConfigId_congr {revision : UInt16} {name name' : Nat → UInt8}
    (h : cName name = cName name') (env : Env) (br : Bridge) :
    exec env br (.setMstConfigId revision name) = exec env br (.setMstConfigId revision name') := by
  rw [exec, exec, mstpInSetMstConfigId, mstpInSetMstConfigId, h]

theorem callCore_congr {op op' : Op} (h : ∀ env br, exec env br op = exec env br op') :
    callCore o s op = callCore o s op' := by
  funext b
  rw [callCore, callCore, h]

/-- The configuration of a bridge is read as it was assigned. -/
theorem cistBridgeConfigAt_members {cfg : CistBridgeConfig}
    (h : ∀ x ∈ cistBridgeConfigMembers a cfg, Holds m x.1 x.2) (hn : a + 29 ≤ n)
    (hversion : cfg.protocolVersion.getD 0 < 2 ^ 32) (hhold : cfg.txHoldCount.getD 0 < 2 ^ 32)
    (hageing : cfg.bridgeAgeingTime.getD 0 < 2 ^ 32) :
    cistBridgeConfigAt (toList m n) a = cfg := by
  simp only [cistBridgeConfigMembers, List.forall_mem_cons] at h
  obtain ⟨h₁, f₁, h₂, f₂, h₃, f₃, h₄, f₄, h₅, f₅, h₆, f₆, h₇, f₇, -⟩ := h
  rw [cistBridgeConfigAt, memberAt_holds f₁ (by omega) (u8At_holds h₁ (by omega)),
    memberAt_holds f₂ (by omega) (u8At_holds h₂ (by omega)),
    memberAt_holds f₃ (by omega) (natAt_toList h₃ hversion (by omega)),
    memberAt_holds f₄ (by omega) (natAt_toList h₄ hhold (by omega)),
    memberAt_holds f₅ (by omega) (u8At_holds h₅ (by omega)),
    memberAt_holds f₆ (by omega) (u8At_holds h₆ (by omega)),
    memberAt_holds f₇ (by omega) (natAt_toList h₇ hageing (by omega))]

theorem cistPortConfigAt_members {cfg : CistPortConfig}
    (h : ∀ x ∈ cistPortConfigMembers a cfg, Holds m x.1 x.2) (hn : a + 29 ≤ n)
    (hp2p : cfg.adminP2P.getD 0 < 2 ^ 32) : cistPortConfigAt (toList m n) a = cfg := by
  simp only [cistPortConfigMembers, List.forall_mem_cons] at h
  obtain ⟨h₁, f₁, h₂, f₂, h₃, f₃, h₄, f₄, h₅, f₅, h₆, f₆, h₇, f₇, h₈, f₈, h₉, f₉, h₀, f₀, -⟩ := h
  rw [cistPortConfigAt, memberAt_holds f₁ (by omega) (u32At_toList h₁ (by omega)),
    memberAt_holds f₂ (by omega) (boolAt_holds h₂ (by omega)),
    memberAt_holds f₃ (by omega) (boolAt_holds h₃ (by omega)),
    memberAt_holds f₄ (by omega) (natAt_toList h₄ hp2p (by omega)),
    memberAt_holds f₅ (by omega) (boolAt_holds h₅ (by omega)),
    memberAt_holds f₆ (by omega) (boolAt_holds h₆ (by omega)),
    memberAt_holds f₇ (by omega) (boolAt_holds h₇ (by omega)),
    memberAt_holds f₈ (by omega) (boolAt_holds h₈ (by omega)),
    memberAt_holds f₉ (by omega) (boolAt_holds h₉ (by omega)),
    memberAt_holds f₀ (by omega) (boolAt_holds h₀ (by omega))]

theorem mstiPortConfigAt_members {cfg : MstiPortConfig}
    (h : ∀ x ∈ mstiPortConfigMembers a cfg, Holds m x.1 x.2) (hn : a + 7 ≤ n) :
    mstiPortConfigAt (toList m n) a = cfg := by
  simp only [mstiPortConfigMembers, List.forall_mem_cons] at h
  obtain ⟨h₁, f₁, h₂, f₂, -⟩ := h
  rw [mstiPortConfigAt, memberAt_holds f₁ (by omega) (u32At_toList h₁ (by omega)),
    memberAt_holds f₂ (by omega) (u8At_holds h₂ (by omega))]

/-- The members of no structure overlap. -/
theorem copyIn_ordered (r : Request) : Ordered 0 r.copyIn := by
  cases r <;>
    simp [Request.copyIn, Ordered, int, u16, bit, cistBridgeConfigMembers, cistPortConfigMembers,
      mstiPortConfigMembers]

/-- The name that the daemon reads is the one that was given. -/
theorem cName_filled {name : Nat → UInt8}
    (h : Holds m 6 (cName name ++ List.replicate (32 - (cName name).length) 0)) (hn : 38 ≤ n) :
    cName (fun i => u8At (toList m n) (6 + i)) = cName name := by
  have hshort : (cName name).length ≤ 32 := by
    rw [cName]
    exact Nat.le_trans (List.takeWhile_sublist _).length_le (by simp)
  have hnonzero : ∀ b ∈ cName name, (b != 0) = true := by
    intro b hb
    exact List.all_eq_true.mp List.all_takeWhile b hb
  have hread : (List.range 32).map (fun i => u8At (toList m n) (6 + i)) =
      cName name ++ List.replicate (32 - (cName name).length) 0 := by
    apply List.ext_getElem
    · simp [hshort]
    · intro i hi hi'
      have hlt : i < 32 := by simpa using hi
      rw [List.getElem_map, List.getElem_range, u8At_toList (by omega), h i hi',
        List.getD_eq_getElem _ _ hi']
  rw [cName, hread, List.takeWhile_append_of_pos hnonzero]
  simp

/-- The daemon takes the arguments from the input as they were given. -/
theorem ctlCall_input (r : Request) (hr : r.Fits) (stack : Memory) :
    ctlCall o s r.code (r.input stack) = r.call o s := by
  have h : ∀ x ∈ r.copyIn, Holds (assign stack r.copyIn) x.1 x.2 :=
    assign_holds (copyIn_ordered r)
  rw [Request.input]
  generalize assign stack r.copyIn = m at h
  generalize hn : (messageSizes r.code).1 = n
  cases r with
  | getCistBridgeStatus i =>
    replace hn : n = 4 := hn.symm
    simp only [Request.copyIn, List.forall_mem_cons] at h
    change ctlGetCistBridgeStatus s (intAt (toList m n) 0) = _
    rw [intAt_toList h.1 (by omega)]
    rfl
  | getMstiBridgeStatus i t =>
    replace hn : n = 8 := hn.symm
    simp only [Request.copyIn, List.forall_mem_cons] at h
    obtain ⟨hi, ht, -⟩ := h
    change ctlGetMstiBridgeStatus s (intAt (toList m n) 0) (u16At _ 4) = _
    rw [intAt_toList hi (by omega), u16At_toList ht (by omega)]
    rfl
  | setCistBridgeConfig i cfg =>
    replace hn : n = 36 := hn.symm
    obtain ⟨hversion, hhold, hageing⟩ := hr
    simp only [Request.copyIn, List.forall_mem_cons] at h
    obtain ⟨hi, hcfg⟩ := h
    change checkBridge s (intAt (toList m n) 0)
      (callCore o s (.setCistBridgeConfig (cistBridgeConfigAt _ 4))) = _
    rw [intAt_toList hi (by omega),
      cistBridgeConfigAt_members hcfg (by omega) hversion hhold hageing]
    rfl
  | setMstiBridgeConfig i t priority =>
    replace hn : n = 8 := hn.symm
    simp only [Request.copyIn, List.forall_mem_cons] at h
    obtain ⟨hi, ht, hpriority, -⟩ := h
    change checkBridgeTree s (intAt (toList m n) 0) (u16At _ 4)
      (callCore o s (.setMstiBridgeConfig (u16At _ 4) (u8At _ 6))) = _
    rw [intAt_toList hi (by omega), u16At_toList ht (by omega), u8At_holds hpriority (by omega)]
    rfl
  | getCistPortStatus i p =>
    replace hn : n = 8 := hn.symm
    simp only [Request.copyIn, List.forall_mem_cons] at h
    obtain ⟨hi, hp, -⟩ := h
    change ctlGetCistPortStatus s (intAt (toList m n) 0) (intAt _ 4) = _
    rw [intAt_toList hi (by omega), intAt_toList hp (by omega)]
    rfl
  | getMstiPortStatus i p t =>
    replace hn : n = 12 := hn.symm
    simp only [Request.copyIn, List.forall_mem_cons] at h
    obtain ⟨hi, hp, ht, -⟩ := h
    change ctlGetMstiPortStatus s (intAt (toList m n) 0) (intAt _ 4)
      (u16At _ 8) = _
    rw [intAt_toList hi (by omega), intAt_toList hp (by omega), u16At_toList ht (by omega)]
    rfl
  | setCistPortConfig i p cfg =>
    replace hn : n = 40 := hn.symm
    simp only [Request.copyIn, List.forall_mem_cons] at h
    obtain ⟨hi, hp, hcfg⟩ := h
    change checkBridgePort s (intAt (toList m n) 0) (intAt _ 4) (fun b q =>
      callCore o s (.setCistPortConfig q (cistPortConfigAt _ 8)) b) = _
    rw [intAt_toList hi (by omega), intAt_toList hp (by omega),
      cistPortConfigAt_members hcfg (by omega) hr]
    rfl
  | setMstiPortConfig i p t cfg =>
    replace hn : n = 20 := hn.symm
    simp only [Request.copyIn, List.forall_mem_cons] at h
    obtain ⟨hi, hp, ht, hcfg⟩ := h
    change checkBridgePertreeport s (intAt (toList m n) 0) (intAt _ 4)
      (u16At _ 8) (fun b q =>
        callCore o s (.setMstiPortConfig q (u16At _ 8) (mstiPortConfigAt _ 12)) b) = _
    rw [intAt_toList hi (by omega), intAt_toList hp (by omega), u16At_toList ht (by omega),
      mstiPortConfigAt_members hcfg (by omega)]
    rfl
  | portMcheck i p =>
    replace hn : n = 8 := hn.symm
    simp only [Request.copyIn, List.forall_mem_cons] at h
    obtain ⟨hi, hp, -⟩ := h
    change checkBridgePort s (intAt (toList m n) 0) (intAt _ 4) (fun b q =>
      callCore o s (.portMcheck q) b) = _
    rw [intAt_toList hi (by omega), intAt_toList hp (by omega)]
    rfl
  | setDebugLevel i =>
    replace hn : n = 4 := hn.symm
    simp only [Request.copyIn, List.forall_mem_cons] at h
    change ctlSetDebugLevel s (intAt (toList m n) 0) = _
    rw [intAt_toList h.1 (by omega)]
    rfl
  | getMstilist i =>
    replace hn : n = 4 := hn.symm
    simp only [Request.copyIn, List.forall_mem_cons] at h
    change ctlGetMstilist s (intAt (toList m n) 0) = _
    rw [intAt_toList h.1 (by omega)]
    rfl
  | createMsti i t =>
    replace hn : n = 8 := hn.symm
    simp only [Request.copyIn, List.forall_mem_cons] at h
    obtain ⟨hi, ht, -⟩ := h
    change ctlCreateMsti o s (intAt (toList m n) 0) (u16At _ 4) = _
    rw [intAt_toList hi (by omega), u16At_toList ht (by omega)]
    rfl
  | deleteMsti i t =>
    replace hn : n = 8 := hn.symm
    simp only [Request.copyIn, List.forall_mem_cons] at h
    obtain ⟨hi, ht, -⟩ := h
    change ctlDeleteMsti o s (intAt (toList m n) 0) (u16At _ 4) = _
    rw [intAt_toList hi (by omega), u16At_toList ht (by omega)]
    rfl
  | getMstconfid i =>
    replace hn : n = 4 := hn.symm
    simp only [Request.copyIn, List.forall_mem_cons] at h
    change ctlGetMstconfid s (intAt (toList m n) 0) = _
    rw [intAt_toList h.1 (by omega)]
    rfl
  | setMstconfid i revision name =>
    replace hn : n = 40 := hn.symm
    simp only [Request.copyIn, List.forall_mem_cons] at h
    obtain ⟨hi, hrevision, hname, -⟩ := h
    change checkBridge s (intAt (toList m n) 0)
      (callCore o s (.setMstConfigId (u16At _ 4) fun i => u8At _ (6 + i))) = _
    rw [intAt_toList hi (by omega), u16At_toList hrevision (by omega),
      callCore_congr (setMstConfigId_congr (cName_filled hname (by omega)))]
    rfl
  | getVids2fids i =>
    replace hn : n = 4 := hn.symm
    simp only [Request.copyIn, List.forall_mem_cons] at h
    change ctlGetVids2fids s (intAt (toList m n) 0) = _
    rw [intAt_toList h.1 (by omega)]
    rfl
  | getFids2mstids i =>
    replace hn : n = 4 := hn.symm
    simp only [Request.copyIn, List.forall_mem_cons] at h
    change ctlGetFids2mstids s (intAt (toList m n) 0) = _
    rw [intAt_toList h.1 (by omega)]
    rfl
  | setVid2fid i x y =>
    replace hn : n = 8 := hn.symm
    simp only [Request.copyIn, List.forall_mem_cons] at h
    obtain ⟨hi, hx, hy, -⟩ := h
    change checkBridge s (intAt (toList m n) 0)
      (callCore o s (.setVid2fid (u16At _ 4) (u16At _ 6))) = _
    rw [intAt_toList hi (by omega), u16At_toList hx (by omega), u16At_toList hy (by omega)]
    rfl
  | setFid2mstid i x y =>
    replace hn : n = 8 := hn.symm
    simp only [Request.copyIn, List.forall_mem_cons] at h
    obtain ⟨hi, hx, hy, -⟩ := h
    change checkBridge s (intAt (toList m n) 0)
      (callCore o s (.setFid2mstid (u16At _ 4) (u16At _ 6))) = _
    rw [intAt_toList hi (by omega), u16At_toList hx (by omega), u16At_toList hy (by omega)]
    rfl
  | setVids2fids i f =>
    replace hn : n = 8196 := hn.symm
    simp only [Request.copyIn, List.forall_mem_cons] at h
    obtain ⟨hi, htable, -⟩ := h
    have hread : ∀ k ≤ maxVid, u16At (toList m n) (4 + 2 * k) = f k := by
      intro k hk
      have hmax : maxVid = 4094 := rfl
      exact u16At_toList (table_holds htable (Nat.lt_succ_of_le hk)) (by omega)
    change checkBridge s (intAt (toList m n) 0)
      (callCore o s (.setAllVids2fids fun k => u16At _ (4 + 2 * k))) = _
    rw [intAt_toList hi (by omega), callCore_congr (setAllVids2fids_congr hread)]
    rfl
  | setFids2mstids i f =>
    replace hn : n = 8196 := hn.symm
    simp only [Request.copyIn, List.forall_mem_cons] at h
    obtain ⟨hi, htable, -⟩ := h
    have hread : ∀ k ≤ maxFid, u16At (toList m n) (4 + 2 * k) = f k := by
      intro k hk
      have hmax : maxFid = 4095 := rfl
      exact u16At_toList (table_holds htable (Nat.lt_succ_of_le hk)) (by omega)
    change checkBridge s (intAt (toList m n) 0)
      (callCore o s (.setAllFids2mstids fun k => u16At _ (4 + 2 * k))) = _
    rw [intAt_toList hi (by omega), callCore_congr (setAllFids2mstids_congr hread)]
    rfl

end Calls

/-! ## Messages -/

/-- The members of `struct ctl_msg_hdr` that a client assigns. -/
def header (cmd lin lout : Nat) : Members :=
  [ (0, digits cmd 4), (4, digits lin 4), (8, digits lout 4), (12, digits (logStringLen - 1) 4) ]

/-- What `send_ctl_message` sends, with an uninitialised header on the stack of the client. -/
def sendCtlMessage (cmd : Int) (inbuf : List UInt8) (lout : Nat) (mhdr : Memory) (uid : Nat) :
    Datagram where
  bytes := toList (assign mhdr (header cmd.toNat inbuf.length lout)) sizeofHdr ++ inbuf
  flags := false
  uid := some uid

def Request.datagram (r : Request) (mhdr stack : Memory) (uid : Nat) : Datagram :=
  sendCtlMessage r.code (r.input stack) (messageSizes r.code).2 mhdr uid

/-- The commands that only look. -/
def Request.reads : Request → Bool
  | .getCistBridgeStatus _ | .getMstiBridgeStatus .. | .getCistPortStatus ..
  | .getMstiPortStatus .. | .getMstilist _ | .getMstconfid _ | .getVids2fids _
  | .getFids2mstids _ => true
  | _ => false

structure Header where
  cmd : Int
  lin : Int
  lout : Int
  llog : Int
  res : Int

/-- The header that `ctl_rcv_handler` answers with; only the length of the log and the result are
new. -/
def responseHeader (d : Datagram) (log : Server) (res : Int) : Header where
  cmd := d.cmd
  lin := d.lin
  lout := d.lout
  llog := replyLlog log d.llog
  res := res

/-- What `recvmsg` returns for a response; the client has room for what it expects and a log. -/
def received (lout : Int) (h : Header) : Int :=
  min (sizeofHdr + toSizeT h.lout + toSizeT h.llog) (sizeofHdr + toSizeT lout + logStringLen)

/-- The checks of `send_ctl_message` on a response of `l` octets. -/
def responseCode (cmd lout l : Int) (h : Header) : Int :=
  if toSizeT l < sizeofHdr ∨
      toSizeT l ≠ toSizeT (sizeofHdr + toSizeT h.lout + toSizeT h.llog) ∨ h.cmd ≠ cmd then -1
  else if h.lout ≠ lout then -1
  else if (logStringLen : Int) ≤ toSizeT h.llog then -1
  else 0

/-- What a function made by `CLIENT_SIDE_FUNCTION` returns. -/
def clientResult (cmd lout : Int) (h : Header) : Int :=
  let r := responseCode cmd lout (received lout h) h
  if r ≠ 0 then r else h.res

section Messages

variable {o : Outside} {s : ServerState} {mhdr stack : Memory} {uid : Nat} {r : Request}

/-- Each command is served, with structures that fit the buffers. -/
theorem Request.served (r : Request) :
    ∃ c, messageCases.find? (fun c => c.code == r.code) = some c ∧
      messageSizes r.code = (c.input.size, c.output.size) ∧ c.input.size ≤ 8196 ∧
      c.output.size ≤ 8196 ∧ 0 < r.code ∧ r.code < 2 ^ 16 := by
  have hbounds : ∀ c ∈ messageCases, c.input.size ≤ 8196 ∧ c.output.size ≤ 8196 ∧ 0 < c.code ∧
      c.code < 2 ^ 16 := by decide +kernel
  have hmem : r.code ∈ messageCases.map fun c => c.code := by
    cases r <;> simp [Request.code, messageCases]
  obtain ⟨c', hc', heq⟩ := List.mem_map.mp hmem
  have hknown : (messageCases.find? fun c => c.code == r.code).isSome = true := by
    rw [List.find?_isSome]
    exact ⟨c', hc', beq_iff_eq.mpr heq⟩
  obtain ⟨c, hc⟩ := Option.isSome_iff_exists.mp hknown
  obtain ⟨hin, hout, -, -⟩ := hbounds c (List.mem_of_find?_eq_some hc)
  obtain ⟨-, -, hpos, hlt⟩ := hbounds c' hc'
  refine ⟨c, hc, ?_, hin, hout, heq ▸ hpos, heq ▸ hlt⟩
  rw [messageSizes, hc]
  rfl

theorem Request.laterCommand (r : Request) : CtlSocket.laterCommand r.code = false := by
  cases r <;> rfl

theorem Request.accessOk (r : Request) (uid : Nat) :
    CtlSocket.ctlAccessOk uid r.code = (uid == 0 || r.reads) := by
  cases r <;> simp [CtlSocket.ctlAccessOk, Request.code, Request.reads]

theorem intAt_append {l l' : List UInt8} {a : Nat} (h : a + 4 ≤ l.length) :
    intAt (l ++ l') a = intAt l a := by
  have hbyte : ∀ i < 4, (l ++ l').getD (a + i) 0 = l.getD (a + i) 0 := fun i hi =>
    List.getD_append _ _ _ _ (by omega)
  simp only [intAt, hbyte 0 (by omega), hbyte 1 (by omega), hbyte 2 (by omega),
    hbyte 3 (by omega)]

theorem wrapInt_small {k : Nat} (h : k < 2 ^ 31) : wrapInt k = k := by
  rw [wrapInt]
  omega

/-- The daemon reads the header as the client wrote it. -/
theorem header_read {cmd : Int} {inbuf : List UInt8} {lout : Nat} (hcmd : 0 ≤ cmd)
    (hlt : cmd < 2 ^ 31) (hin : inbuf.length < 2 ^ 31) (hout : lout < 2 ^ 31) (mhdr : Memory)
    (uid : Nat) :
    (sendCtlMessage cmd inbuf lout mhdr uid).cmd = cmd ∧
      (sendCtlMessage cmd inbuf lout mhdr uid).lin = (inbuf.length : Int) ∧
      (sendCtlMessage cmd inbuf lout mhdr uid).lout = (lout : Int) ∧
      (sendCtlMessage cmd inbuf lout mhdr uid).llog = 255 := by
  have hordered : Ordered 0 (header cmd.toNat inbuf.length lout) := by simp [header, Ordered]
  have h : ∀ x ∈ header cmd.toNat inbuf.length lout,
      Holds (assign mhdr (header cmd.toNat inbuf.length lout)) x.1 x.2 := assign_holds hordered
  have hread : ∀ {a k : Nat}, (a, digits k 4) ∈ header cmd.toNat inbuf.length lout → k < 2 ^ 31 →
      a + 4 ≤ sizeofHdr → intAt (sendCtlMessage cmd inbuf lout mhdr uid).bytes a = k := by
    intro a k hk hsmall ha
    rw [sendCtlMessage, intAt_append (by rwa [length_toList]), intAt_digits (h _ hk) (by omega) ha,
      wrapInt_small hsmall]
  refine ⟨?_, ?_, ?_, ?_⟩
  · rw [Datagram.cmd, hread (by simp [header]) (by omega : cmd.toNat < 2 ^ 31) (by decide)]
    omega
  · exact hread (by simp [header]) hin (by decide)
  · exact hread (by simp [header]) hout (by decide)
  · exact hread (k := 255) (by simp [header, logStringLen]) (by decide) (by decide)

theorem inbuf_read (cmd : Int) (inbuf : List UInt8) (lout : Nat) (mhdr : Memory) (uid : Nat) :
    (sendCtlMessage cmd inbuf lout mhdr uid).inbuf = inbuf :=
  List.drop_left' length_toList

/-- The checks of `ctl_rcv_handler` let the message through. -/
theorem not_ignored {cmd : Int} {inbuf : List UInt8} {lout : Nat} (hcmd : 0 ≤ cmd)
    (hlt : cmd < 2 ^ 31) (hin : inbuf.length ≤ 10000) (hout : lout ≤ 10000) (mhdr : Memory)
    (uid : Nat) : (sendCtlMessage cmd inbuf lout mhdr uid).ignored = false := by
  obtain ⟨hcmd', hlin, hlout, -⟩ := header_read hcmd hlt (by omega : inbuf.length < 2 ^ 31)
    (by omega : lout < 2 ^ 31) mhdr uid
  have hlength : (sendCtlMessage cmd inbuf lout mhdr uid).bytes.length = 20 + inbuf.length := by
    rw [sendCtlMessage, List.length_append, length_toList]
    rfl
  have hl : (sendCtlMessage cmd inbuf lout mhdr uid).l = 20 + inbuf.length := by
    rw [Datagram.l, hlength]
    exact Nat.min_eq_left (by simp only [sizeofHdr, CtlSocket.msgBufLen]; omega)
  rw [Datagram.ignored, Datagram.truncated, hl, hlength, hcmd', hlin, hlout]
  simp only [sendCtlMessage, sizeofHdr, CtlSocket.msgBufLen, toSizeT, Bool.or_eq_false_iff]
  refine ⟨⟨⟨⟨⟨⟨⟨?_, trivial⟩, ?_⟩, ?_⟩, ?_⟩, ?_⟩, ?_⟩, rfl⟩
  · exact beq_false_of_ne (by omega)
  · exact decide_eq_false (by omega)
  · exact decide_eq_false (by omega)
  · exact decide_eq_false (by omega)
  · exact decide_eq_false (by omega)
  · exact decide_eq_false (by omega)

theorem Request.length_input (r : Request) (stack : Memory) :
    (r.input stack).length = (messageSizes r.code).1 :=
  length_toList

/-- The header of a request, and that it is let through. -/
theorem Request.received (r : Request) (mhdr stack : Memory) (uid : Nat) :
    (r.datagram mhdr stack uid).ignored = false ∧ (r.datagram mhdr stack uid).cmd = r.code ∧
      (r.datagram mhdr stack uid).lin = ((messageSizes r.code).1 : Int) ∧
      (r.datagram mhdr stack uid).lout = ((messageSizes r.code).2 : Int) ∧
      (r.datagram mhdr stack uid).llog = 255 := by
  obtain ⟨c, -, hsizes, hin, hout, hpos, hlt⟩ := r.served
  have hlength := r.length_input stack
  rw [hsizes] at hlength
  have hlout : (messageSizes r.code).2 = c.output.size := by rw [hsizes]
  have hread := @header_read r.code (r.input stack) (messageSizes r.code).2 (by omega) (by omega)
    (by omega) (by omega) mhdr uid
  rw [r.length_input] at hread
  exact ⟨not_ignored (by omega) (by omega) (by omega) (by omega) mhdr uid, hread⟩

/-- The message calls the function of the command. -/
theorem Request.handled (hr : r.Fits) :
    handleMessage o s r.code (r.input stack) (messageSizes r.code).1 (messageSizes r.code).2 =
      r.call o s := by
  obtain ⟨c, hc, hsizes, hin, hout, -, -⟩ := r.served
  have hsame : ¬((c.input.size : Int) ≠ toSizeT c.input.size ∨
      (c.output.size : Int) ≠ toSizeT c.output.size) := by
    simp only [toSizeT]
    omega
  have htake : (r.input stack).take c.input.size = r.input stack := by
    apply List.take_of_length_le
    rw [Request.input, length_toList, hsizes]
  rw [handleMessage, hc, hsizes]
  dsimp only
  rw [if_neg hsame, Int.toNat_natCast, htake]
  exact ctlCall_input r hr stack

/-- The response fits what the client expects. -/
theorem response_accepted (r : Request) (mhdr stack : Memory) (uid : Nat) {log : Server}
    (hlog : log.msgLogOffset < logStringLen) (res : Int) :
    clientResult r.code (messageSizes r.code).2
      (responseHeader (r.datagram mhdr stack uid) log res) = res := by
  obtain ⟨-, hcmd, -, hlout, hllog⟩ := r.received mhdr stack uid
  obtain ⟨c, -, hsizes, -, hout, -⟩ := r.served
  have hmax : logStringLen = 256 := rfl
  have hreply : replyLlog log 255 = log.msgLogOffset := by
    rw [replyLlog, CtlSocket.toUnsigned]
    split <;> omega
  have haccepted : responseCode r.code (messageSizes r.code).2
      (received (messageSizes r.code).2 (responseHeader (r.datagram mhdr stack uid) log res))
      (responseHeader (r.datagram mhdr stack uid) log res) = 0 := by
    simp only [responseCode, received, responseHeader, hcmd, hlout, hllog, hreply, hsizes, toSizeT,
      sizeofHdr, hmax]
    rw [if_neg (by omega), if_neg (by omega), if_neg (by omega)]
  rw [clientResult, haccepted]
  rfl

/-- The daemon carries out the call, or refuses it. -/
theorem Request.carried_out (r : Request) (hr : r.Fits) :
    ctlRcvHandler o s (r.datagram mhdr stack uid) =
      (if uid = 0 ∨ r.reads = true then r.call o s else some (s, -1, .empty)).map
        fun h => (h.1, some h.2) := by
  obtain ⟨hlet, hcmd, hlin, hlout, -⟩ := r.received mhdr stack uid
  have hinbuf : (r.datagram mhdr stack uid).inbuf = r.input stack := inbuf_read _ _ _ _ _
  have hlater := r.laterCommand
  have huid : (r.datagram mhdr stack uid).uid.getD 0 = uid := rfl
  generalize hcalled :
    (if uid = 0 ∨ r.reads = true then r.call o s else some (s, -1, .empty)) = called
  have hfirst : handleFirst o s (r.datagram mhdr stack uid) = called := by
    rw [handleFirst, hcmd, hlin, hlout, hinbuf, huid, hlater, r.accessOk, r.handled hr, ← hcalled]
    by_cases hmay : uid = 0 ∨ r.reads = true
    · have hgranted : (uid == 0 || r.reads) = true := by simpa using hmay
      simp [hmay, hgranted]
    · have hrefused : (uid == 0 || r.reads) = false := by simpa using hmay
      simp [hmay, hrefused]
  rw [ctlRcvHandler, hlet, hcmd, hlater, hfirst]
  cases called with
  | none => rfl
  | some h => simp

/-- A function of the client does what the function of the same name does in the daemon, with
the arguments it was called with, if its user may give the command, and otherwise nothing; no
check on either side stops the message or its response, and the client returns what the call
in the daemon returned. -/
theorem client_calls_daemon (o : Outside) (s : ServerState) (r : Request) (hr : r.Fits)
    (mhdr stack : Memory) (uid : Nat) (log : Server) (hlog : log.msgLogOffset < logStringLen) :
    let called := if uid = 0 ∨ r.reads = true then r.call o s else some (s, -1, .empty)
    ctlRcvHandler o s (r.datagram mhdr stack uid) = called.map (fun h => (h.1, some h.2)) ∧
      ∀ res, clientResult r.code (messageSizes r.code).2
        (responseHeader (r.datagram mhdr stack uid) log res) = res :=
  ⟨r.carried_out hr, response_accepted r mhdr stack uid hlog⟩

/-- Two bridges with a port each. The first of them is under STP. -/
def sampleDaemon : Option Daemon :=
  trackAll [.notify 10 3 true 0x41, .notify 11 4 true 0x41, .addBridges [10], .oneSecond] []

/-- Root configures a bridge; another user asks for the same. -/
theorem client_calls_daemon_sample : ∃ d s' reply, sampleDaemon = some d ∧
    ctlRcvHandler sampleOutside ⟨d, 2⟩ (Request.datagram (.setCistBridgeConfig 10
      { bridgeMaxAge := some 8, txHoldCount := some 3 }) (fun _ => 7) (fun _ => 9) 0) =
      some (s', some (0, reply)) ∧
    (findBr 10 s'.bridges).any (fun b =>
      b.core.maxAge == 8 && b.core.transmitHoldCount == 3) = true ∧
    ctlRcvHandler sampleOutside ⟨d, 2⟩ (Request.datagram (.setCistBridgeConfig 10
      { bridgeMaxAge := some 8, txHoldCount := some 3 }) (fun _ => 7) (fun _ => 9) 1000) =
      some (⟨d, 2⟩, some (-1, .empty)) := by
  have hrun : sampleDaemon.any (fun d => (Request.call sampleOutside ⟨d, 2⟩
      (.setCistBridgeConfig 10 { bridgeMaxAge := some 8, txHoldCount := some 3 })).any
        fun called => called.2.1 == 0 && (findBr 10 called.1.bridges).any fun b =>
          b.core.maxAge == 8 && b.core.transmitHoldCount == 3) = true := by
    decide +kernel
  obtain ⟨d, hd, hrun⟩ := (Option.any_eq_true _ _).mp hrun
  obtain ⟨⟨s', res, reply⟩, hcalled, hrun⟩ := (Option.any_eq_true _ _).mp hrun
  obtain ⟨hres, hset⟩ := Bool.and_eq_true_iff.mp hrun
  obtain rfl := beq_iff_eq.mp hres
  have hfits : (Request.setCistBridgeConfig 10
      { bridgeMaxAge := some 8, txHoldCount := some 3 }).Fits := ⟨by decide, by decide, by decide⟩
  have hroot := (client_calls_daemon sampleOutside ⟨d, 2⟩ _ hfits (fun _ => 7) (fun _ => 9) 0 {}
    (by decide)).1
  have huser := (client_calls_daemon sampleOutside ⟨d, 2⟩ _ hfits (fun _ => 7) (fun _ => 9) 1000
    {} (by decide)).1
  rw [if_pos (Or.inl rfl), hcalled] at hroot
  exact ⟨d, s', reply, hd, hroot, hset, huser⟩

end Messages

/-! ## Arrays of bridges -/

/-- `br_array`: a count, and the indices of as many bridges. -/
def brArray (bridges : List Int32) : List UInt8 :=
  digits bridges.length 4 ++ bridges.flatMap int

/-- What `CTL_add_bridges` and `CTL_del_bridges` of the client send. -/
def bridgesDatagram (cmd : Int) (bridges : List Int32) (mhdr : Memory) (uid : Nat) : Datagram :=
  sendCtlMessage cmd (brArray bridges) 0 mhdr uid

section Bridges

variable {o : Outside} {s : ServerState} {m mhdr : Memory} {uid a i : Nat} {bridges : List Int32}

@[simp] theorem length_int (i : Int32) : (int i).length = 4 := length_digits

theorem length_ints : (bridges.flatMap int).length = 4 * bridges.length := by
  induction bridges with
  | nil => rfl
  | cons b bs ih =>
    rw [List.flatMap_cons, List.length_append, length_int, ih, List.length_cons]
    omega

theorem ints_holds (h : Holds m a (bridges.flatMap int)) (hi : i < bridges.length) :
    Holds m (a + 4 * i) (int bridges[i]) := by
  induction bridges generalizing a i with
  | nil => exact absurd hi (Nat.not_lt_zero _)
  | cons b bs ih =>
    rw [List.flatMap_cons] at h
    obtain ⟨hfirst, hrest⟩ := holds_append.mp h
    cases i with
    | zero => exact hfirst
    | succ i =>
      have hlater := ih hrest (Nat.lt_of_succ_lt_succ hi)
      rw [length_int, Nat.add_assoc, Nat.add_comm 4, ← Nat.mul_succ] at hlater
      exact hlater

theorem length_brArray : (brArray bridges).length = 4 * (bridges.length + 1) := by
  rw [brArray, List.length_append, length_digits, length_ints]
  omega

/-- The daemon takes the bridges from the array as they were put there. -/
theorem brArray_read (hn : bridges.length < 2500) :
    intAt (brArray bridges) 0 = bridges.length ∧
      brArrayAt (brArray bridges) = bridges.map Int32.toInt := by
  have hlength : (brArray bridges).length = 4 * (bridges.length + 1) := length_brArray
  have h := holds_ofList (brArray bridges)
  rw [brArray] at h
  obtain ⟨hcount, hbridges⟩ := holds_append.mp h
  rw [length_digits] at hbridges
  rw [← brArray] at hcount hbridges
  have hfirst : intAt (brArray bridges) 0 = bridges.length := by
    have hread := intAt_digits hcount (by omega) (by omega : 0 + 4 ≤ (brArray bridges).length)
    rw [toList_ofList, wrapInt_small (by omega)] at hread
    exact hread
  refine ⟨hfirst, ?_⟩
  rw [brArrayAt, hfirst]
  apply List.ext_getElem
  · simp
  · intro i hi _
    have hlt : i < bridges.length := by simpa using hi
    have hread := intAt_toList (n := (brArray bridges).length) (ints_holds hbridges hlt) (by omega)
    rw [toList_ofList] at hread
    have hoffset : CtlSocket.sizeofInt * (i + 1) = 0 + 4 + 4 * i := by
      rw [CtlSocket.sizeofInt]
      omega
    rw [List.getElem_map, List.getElem_range, List.getElem_map, hoffset, hread]

/-- The size of the array is the one that its count asks for. -/
theorem brArraySize_brArray (hn : bridges.length < 2500) :
    CtlSocket.brArraySize bridges.length = (brArray bridges).length := by
  rw [length_brArray, CtlSocket.brArraySize, CtlSocket.sizeofInt]
  simp only [wrapInt, toSizeT]
  omega

/-- The daemon answers at once, and then works on the bridges that the client was given, in
their order; but only for root. -/
theorem bridges_served (hn : bridges.length < 2500) {cmd : Int}
    {sizeOk : Int → Int → Bool} {control : List Int → Daemon → Option (Daemon × Int)}
    (hcmd : 0 ≤ cmd) (hlt : cmd < 2 ^ 31) (hlater : CtlSocket.laterCommand cmd = true)
    (haccess : CtlSocket.ctlAccessOk uid cmd = (uid == 0)) (hsize : ∀ n : Int, sizeOk n n = true)
    (hhandle : ∀ inbuf lin lout, handleMessage o s cmd inbuf lin lout =
      bridgesCommand s sizeOk control inbuf lin lout) :
    ctlRcvHandler o s (bridgesDatagram cmd bridges mhdr uid) =
      if uid = 0 then
        (control (bridges.map Int32.toInt) s.bridges).map fun r =>
          ({ s with bridges := r.1 }, some (0, .empty))
      else some (s, some (-1, .empty)) := by
  have hlength : (brArray bridges).length = 4 * (bridges.length + 1) := length_brArray
  obtain ⟨hc, hlin, hlout, -⟩ :=
    @header_read cmd (brArray bridges) 0 hcmd hlt (by omega) (by decide) mhdr uid
  have hlet : (bridgesDatagram cmd bridges mhdr uid).ignored = false :=
    not_ignored hcmd hlt (by omega) (by decide) mhdr uid
  have hinbuf : (bridgesDatagram cmd bridges mhdr uid).inbuf = brArray bridges :=
    inbuf_read _ _ _ _ _
  obtain ⟨hcount, hread⟩ := brArray_read hn
  have huid : (bridgesDatagram cmd bridges mhdr uid).uid.getD 0 = uid := rfl
  have hsizeT : toSizeT (brArray bridges).length = (brArray bridges).length := by
    rw [toSizeT]
    omega
  have hworks : bridgesCommand s sizeOk control (brArray bridges) (brArray bridges).length 0 =
      (control (bridges.map Int32.toInt) s.bridges).map fun r =>
        ({ s with bridges := r.1 }, r.2, .empty) := by
    rw [bridgesCommand, hcount, hread, hsizeT, brArraySize_brArray hn, hsize, if_neg]
    rintro (hne | hshort | hbad)
    · exact hne rfl
    · rw [CtlSocket.sizeofInt] at hshort
      omega
    · exact absurd hbad (by simp)
  have hc' : (bridgesDatagram cmd bridges mhdr uid).cmd = cmd := hc
  have hlin' : (bridgesDatagram cmd bridges mhdr uid).lin = (brArray bridges).length := hlin
  have hlout' : (bridgesDatagram cmd bridges mhdr uid).lout = (0 : Nat) := hlout
  have hlate : handleMessage o s cmd (bridgesDatagram cmd bridges mhdr uid).inbuf
      (bridgesDatagram cmd bridges mhdr uid).lin (bridgesDatagram cmd bridges mhdr uid).lout =
      (control (bridges.map Int32.toInt) s.bridges).map fun r =>
        ({ s with bridges := r.1 }, r.2, .empty) := by
    rw [hhandle, hinbuf, hlin', hlout']
    exact hworks
  rw [ctlRcvHandler, hlet, if_neg Bool.false_ne_true, handleFirst, huid, hc', hlater, haccess]
  by_cases hroot : uid = 0
  · have hgranted : (uid == 0) = true := beq_iff_eq.mpr hroot
    rw [hgranted, if_pos rfl, if_pos rfl, Option.bind_some, if_pos ⟨rfl, rfl⟩, hlate,
      Option.map_map, if_pos hroot]
    rfl
  · have hrefused : (uid == 0) = false := beq_false_of_ne hroot
    simp [hrefused, hroot]

/-- `CTL_add_bridges` and `CTL_del_bridges` of the client have the daemon add and delete just
the bridges of the array, in its order, after an answer that tells nothing of how this goes. -/
theorem client_changes_bridges (o : Outside) (s : ServerState) (bridges : List Int32)
    (hn : bridges.length < 2500) (mhdr : Memory) (uid : Nat) :
    let changed (control : List Int → Daemon → Option (Daemon × Int)) :=
      if uid = 0 then
        (control (bridges.map Int32.toInt) s.bridges).map fun r =>
          ({ s with bridges := r.1 }, some (0, .empty))
      else some (s, some (-1, .empty))
    ctlRcvHandler o s (bridgesDatagram cmdCodeAddBridges bridges mhdr uid) =
        changed (ctlAddBridges o) ∧
      ctlRcvHandler o s (bridgesDatagram cmdCodeDelBridges bridges mhdr uid) =
        changed (ctlDelBridges o) := by
  intro changed
  have hadd : messageCases.find? (fun c => c.code == cmdCodeAddBridges) = none :=
    List.find?_eq_none.mpr (by decide)
  have hdel : messageCases.find? (fun c => c.code == cmdCodeDelBridges) = none :=
    List.find?_eq_none.mpr (by decide)
  have hother : cmdCodeDelBridges ≠ cmdCodeAddBridges := by decide
  constructor
  · have hhandle : ∀ inbuf lin lout, handleMessage o s cmdCodeAddBridges inbuf lin lout =
        bridgesCommand s (fun l n => decide (n ≤ l)) (ctlAddBridges o) inbuf lin lout := by
      intro inbuf lin lout
      rw [handleMessage, hadd]
      exact if_pos rfl
    exact bridges_served hn (by decide) (by decide) (by decide) rfl (by simp) hhandle
  · have hhandle : ∀ inbuf lin lout, handleMessage o s cmdCodeDelBridges inbuf lin lout =
        bridgesCommand s (fun l n => decide (n = l)) (ctlDelBridges o) inbuf lin lout := by
      intro inbuf lin lout
      rw [handleMessage, hdel]
      dsimp only
      rw [if_neg hother, if_pos rfl]
    exact bridges_served hn (by decide) (by decide) (by decide) rfl (by simp) hhandle

/-- The second bridge comes under STP, or the first one no longer is. -/
theorem client_changes_bridges_sample : ∃ d added deleted, sampleDaemon = some d ∧
    ctlRcvHandler sampleOutside ⟨d, 2⟩ (bridgesDatagram cmdCodeAddBridges [11] (fun _ => 7) 0) =
      some (⟨added, 2⟩, some (0, .empty)) ∧
    ctlRcvHandler sampleOutside ⟨d, 2⟩ (bridgesDatagram cmdCodeDelBridges [10] (fun _ => 7) 0) =
      some (⟨deleted, 2⟩, some (0, .empty)) ∧
    d.map TrackedBridge.stpEnabled = [true, false] ∧
    added.map TrackedBridge.stpEnabled = [true, true] ∧
    deleted.map TrackedBridge.stpEnabled = [false, false] := by
  have hrun : sampleDaemon.any (fun d => (ctlAddBridges sampleOutside [11] d).any fun added =>
      (ctlDelBridges sampleOutside [10] d).any fun deleted =>
        d.map TrackedBridge.stpEnabled == [true, false] &&
          added.1.map TrackedBridge.stpEnabled == [true, true] &&
          deleted.1.map TrackedBridge.stpEnabled == [false, false]) = true := by
    decide +kernel
  obtain ⟨d, hd, hrun⟩ := (Option.any_eq_true _ _).mp hrun
  obtain ⟨added, hadded, hrun⟩ := (Option.any_eq_true _ _).mp hrun
  obtain ⟨deleted, hdeleted, hrun⟩ := (Option.any_eq_true _ _).mp hrun
  simp only [Bool.and_eq_true, beq_iff_eq] at hrun
  obtain ⟨⟨hbefore, hafter⟩, hwithout⟩ := hrun
  have hadd := (client_changes_bridges sampleOutside ⟨d, 2⟩ [11] (by decide) (fun _ => 7) 0).1
  have hdel := (client_changes_bridges sampleOutside ⟨d, 2⟩ [10] (by decide) (fun _ => 7) 0).2
  have hsent : [(11 : Int32)].map Int32.toInt = [11] := rfl
  have hsent' : [(10 : Int32)].map Int32.toInt = [10] := rfl
  dsimp only at hadd hdel
  rw [if_pos rfl, hsent, hadded] at hadd
  rw [if_pos rfl, hsent', hdeleted] at hdel
  exact ⟨d, added.1, deleted.1, hd, hadd, hdel, hbefore, hafter, hwithout⟩

end Bridges

end Mstpd.CtlClient
