import Mathlib.Tactic.Common
import Mathlib.Tactic.NormNum

/-!
# The control socket

`ctl_rcv_handler` and what it calls, as far as lengths and indices go: every
access to one of the server's buffers is recorded with its offset and its length.
Integers are `int` unless the C operators convert them to `size_t` or to
`unsigned int`; those conversions are written out.
-/

namespace Mstpd.CtlSocket

/-! ## Layout of the message structures -/

/-- Size and alignment of a type. -/
structure Layout where
  size : Nat
  align : Nat
  deriving DecidableEq

namespace Layout

def scalar (n : Nat) : Layout := ⟨n, n⟩

def array (l : Layout) (n : Nat) : Layout := ⟨l.size * n, l.align⟩

def roundUp (n align : Nat) : Nat := (n + align - 1) / align * align

/-- Members in order, each at the next aligned offset; an empty structure has size zero. -/
def struct (members : List Layout) : Layout :=
  let align := members.foldl (fun a l => max a l.align) 1
  ⟨roundUp (members.foldl (fun o l => roundUp o l.align + l.size) 0) align, align⟩

def u8 : Layout := scalar 1
def bool : Layout := scalar 1
def u16 : Layout := scalar 2
def int : Layout := scalar 4
def ifName : Layout := array u8 16
def bridgeId : Layout := scalar 8

end Layout

open Layout

/-- `CIST_BridgeStatus`. -/
def cistBridgeStatus : Layout :=
  struct [bridgeId, int, int, bool, ifName, ifName, bridgeId, int, u16, u8, u8, u8, u8, int, int,
    bridgeId, int, bool, bool, int, u8, u8]

/-- `MSTI_BridgeStatus`. -/
def mstiBridgeStatus : Layout :=
  struct [bridgeId, int, int, bool, ifName, ifName, bridgeId, int, u16]

/-- `CIST_BridgeConfig`. -/
def cistBridgeConfig : Layout :=
  struct [u8, bool, u8, bool, int, bool, int, bool, u8, bool, u8, bool, int, bool]

/-- `CIST_PortStatus`. -/
def cistPortStatus : Layout :=
  struct ([int, int, u16, int, int, bridgeId, int, bridgeId, u16, bool, u8, bool, bool, bool, bool,
    int, bool, bool, bool, int, bool, bridgeId, int, int, int, bool, bool, bool, bool, bool] ++
    List.replicate 7 int ++ List.replicate 6 bool)

/-- `MSTI_PortStatus`. -/
def mstiPortStatus : Layout :=
  struct [int, int, u16, int, int, bridgeId, int, bridgeId, u16, int, bool]

/-- `CIST_PortConfig`. -/
def cistPortConfig : Layout :=
  struct ([int, bool, bool, bool, bool, bool, int, bool] ++ List.replicate 12 bool)

/-- `MSTI_PortConfig`. -/
def mstiPortConfig : Layout := struct [int, bool, u8, bool]

/-- A command served by `SERVER_MESSAGE_CASE`: its code and the structures
`name_IN` and `name_OUT`. -/
structure MessageCase where
  code : Int
  input : Layout
  output : Layout

/-- The commands from `get_cist_bridge_status` to `set_fids2mstids`, by code. -/
def messageCases : List MessageCase :=
  [ ⟨101, struct [int], struct [cistBridgeStatus, ifName]⟩,
    ⟨102, struct [int, u16], struct [mstiBridgeStatus, ifName]⟩,
    ⟨103, struct [int, cistBridgeConfig], struct []⟩,
    ⟨104, struct [int, u16, u8], struct []⟩,
    ⟨105, struct [int, int], struct [cistPortStatus]⟩,
    ⟨106, struct [int, int, u16], struct [mstiPortStatus]⟩,
    ⟨107, struct [int, int, cistPortConfig], struct []⟩,
    ⟨108, struct [int, int, u16, mstiPortConfig], struct []⟩,
    ⟨109, struct [int, int], struct []⟩,
    ⟨110, struct [int], struct []⟩,
    ⟨111, struct [int], struct [int, array u16 64]⟩,
    ⟨112, struct [int, u16], struct []⟩,
    ⟨113, struct [int, u16], struct []⟩,
    ⟨114, struct [int], struct [array u8 51]⟩,
    ⟨115, struct [int, u16, array u8 32], struct []⟩,
    ⟨116, struct [int], struct [array u16 4095]⟩,
    ⟨117, struct [int], struct [array u16 4096]⟩,
    ⟨118, struct [int, u16, u16], struct []⟩,
    ⟨119, struct [int, u16, u16], struct []⟩,
    ⟨120, struct [int, array u16 4095], struct []⟩,
    ⟨121, struct [int, array u16 4096], struct []⟩ ]

def responseFirstHandleLater : Int := 0x10000
def cmdCodeAddBridges : Int := 122 + responseFirstHandleLater
def cmdCodeDelBridges : Int := 123 + responseFirstHandleLater

/-! ## Buffers and accesses -/

def logStringLen : Nat := 256
def msgBufLen : Nat := 10000
def sizeofInt : Nat := 4
/-- `sizeof(struct ctl_msg_hdr)`. -/
def sizeofHdr : Nat := 20

inductive Buffer
  | mhdr | msgInbuf | msgOutbuf | msgLogbuf
  /-- The local structures of `SERVER_MESSAGE_CASE`. -/
  | message (l : Layout)
  /-- The received part of `msg_inbuf`, read as an array of integers. -/
  | brArray (lin : Int)

def Buffer.len : Buffer → Int
  | mhdr => sizeofHdr
  | msgInbuf => msgBufLen
  | msgOutbuf => msgBufLen
  | msgLogbuf => logStringLen
  | message l => l.size
  | brArray lin => lin

/-- A use of a buffer, with the length that the source passes as a signed value. -/
structure Access where
  buffer : Buffer
  offset : Int
  length : Int

/-- Non-negative and within the buffer. -/
def Access.Safe (a : Access) : Prop :=
  0 ≤ a.offset ∧ 0 ≤ a.length ∧ a.offset + a.length ≤ a.buffer.len

/-- The static variables of the server, and its accesses so far, the latest first. -/
structure Server where
  msgLogOffset : Nat := 0
  ctlInHandler : Bool := false
  accesses : List Access := []

def Server.touch (s : Server) (a : Access) : Server := { s with accesses := a :: s.accesses }

/-! ## Integer conversions -/

/-- An integer converted to `size_t`. -/
def toSizeT (n : Int) : Int := n % 2 ^ 64

/-- An integer converted to `unsigned int`. -/
def toUnsigned (n : Int) : Int := n % 2 ^ 32

/-- The wrapped result of an `int` operation. -/
def wrapInt (n : Int) : Int := (n + 2 ^ 31) % 2 ^ 32 - 2 ^ 31

/-- The `int` at an octet offset. -/
def intAt (bytes : List UInt8) (o : Nat) : Int :=
  let octet (i : Nat) : Nat := (bytes.getD (o + i) 0).toNat
  wrapInt (octet 0 + 2 ^ 8 * octet 1 + 2 ^ 16 * octet 2 + 2 ^ 24 * octet 3 : Nat)

/-! ## The handler -/

/-- What the handler learns from the rest of the daemon. -/
structure Outside where
  /-- The return value of a `CTL_` function, and the errors it logs. -/
  call : Int → List UInt8 → Int × List String
  /-- Does `find_br` or else `create_br` give a bridge for this interface? -/
  bridge : Int → Bool

/-- `_ctl_err_log`, where `vsnprintf` returns `r`. -/
def ctlErrLog (r : Int) (s : Server) : Server :=
  if logStringLen - 1 ≤ s.msgLogOffset then s
  else
    let s := s.touch ⟨.msgLogbuf, s.msgLogOffset, logStringLen - s.msgLogOffset⟩
    let offset := toUnsigned (s.msgLogOffset + r)
    if (logStringLen : Int) ≤ offset then
      { s.touch ⟨.msgLogbuf, logStringLen - 1, 1⟩ with msgLogOffset := logStringLen - 1 }
    else { s with msgLogOffset := offset.toNat }

/-- `ERROR`, with its formatted text. -/
def error (text : String) (s : Server) : Server :=
  if s.ctlInHandler then ctlErrLog (text ++ "\n").utf8ByteSize s else s

/-- `SERVER_MESSAGE_CASE`. -/
def serverMessageCase (out : Outside) (c : MessageCase) (inbuf : List UInt8) (lin lout : Int)
    (s : Server) : Int × Server :=
  if (c.input.size : Int) ≠ toSizeT lin ∨ (c.output.size : Int) ≠ toSizeT lout then (-1, s)
  else
    let s := (s.touch ⟨.msgInbuf, 0, lin⟩).touch ⟨.message c.input, 0, lin⟩
    let s := s.touch ⟨.message c.output, 0, lout⟩
    let r := out.call c.code (inbuf.take lin.toNat)
    let s := r.2.foldl (fun s n => error n s) s
    if r.1 ≠ 0 then (r.1, s)
    else (r.1, (s.touch ⟨.message c.output, 0, lout⟩).touch ⟨.msgOutbuf, 0, lout⟩)

/-- `br_array[i]`. -/
def readBrArray (lin : Int) (i : Nat) (s : Server) : Server :=
  s.touch ⟨.brArray lin, sizeofInt * i, sizeofInt⟩

/-- The loop of `CTL_add_bridges` from index `i`, `n` entries before its end. It
stops at an interface for which no bridge can be made. -/
def ctlAddBridges (out : Outside) (inbuf : List UInt8) (lin : Int) :
    Nat → Nat → Server → Int × Server
  | 0, _, s => (0, s)
  | n + 1, i, s =>
    let s := readBrArray lin i s
    if out.bridge (intAt inbuf (sizeofInt * i)) then ctlAddBridges out inbuf lin n (i + 1) s
    else (-1, s)

/-- The loop of `CTL_del_bridges`. -/
def ctlDelBridges (lin : Int) : Nat → Nat → Server → Int × Server
  | 0, _, s => (0, s)
  | n + 1, i, s => ctlDelBridges lin n (i + 1) (readBrArray lin i s)

/-- `(brcount + 1) * sizeof(int)`, an `int` sum multiplied as `size_t`. -/
def brArraySize (brcount : Int) : Int := toSizeT (toSizeT (wrapInt (brcount + 1)) * sizeofInt)

/-- The two commands on bridges; `sizeOk` is the comparison in which they differ. -/
def bridgesCase (sizeOk : Int → Int → Bool) (loop : Nat → Nat → Server → Int × Server)
    (inbuf : List UInt8) (lin lout : Int) (s : Server) : Int × Server :=
  if lout ≠ 0 then (-1, s)
  else if toSizeT lin < sizeofInt then (-1, s)
  else
    let s := readBrArray lin 0 s
    let brcount := intAt inbuf 0
    if !sizeOk (toSizeT lin) (brArraySize brcount) then (-1, s)
    else loop brcount.toNat 1 (readBrArray lin 0 s)

def handleMessage (out : Outside) (cmd : Int) (inbuf : List UInt8) (lin lout : Int)
    (s : Server) : Int × Server :=
  match messageCases.find? (fun c => c.code == cmd) with
  | some c => serverMessageCase out c inbuf lin lout s
  | none =>
    if cmd = cmdCodeAddBridges then
      bridgesCase (fun l n => decide (n ≤ l)) (ctlAddBridges out inbuf lin) inbuf lin lout s
    else if cmd = cmdCodeDelBridges then
      bridgesCase (fun l n => decide (n = l)) (ctlDelBridges lin) inbuf lin lout s
    else (-1, error ("CTL: Unknown command " ++ toString cmd) s)

/-- The commands that every user may give. -/
def ctlAccessOk (uid : Nat) (cmd : Int) : Bool :=
  if cmd ∈ ([101, 102, 105, 106, 111, 114, 116, 117] : List Int) then true else uid == 0

/-- What `recvmsg` finds: the octets of the datagram, any flag apart from truncation,
and the sender's credentials when they come as expected. -/
structure Datagram where
  bytes : List UInt8
  flags : Bool
  uid : Option Nat

namespace Datagram

/-- The return value of `recvmsg`, which has room for the header and one buffer. -/
def l (d : Datagram) : Nat := min d.bytes.length (sizeofHdr + msgBufLen)

def truncated (d : Datagram) : Bool := decide (sizeofHdr + msgBufLen < d.bytes.length)

def cmd (d : Datagram) : Int := intAt d.bytes 0
def lin (d : Datagram) : Int := intAt d.bytes 4
def lout (d : Datagram) : Int := intAt d.bytes 8
def llog (d : Datagram) : Int := intAt d.bytes 12
def inbuf (d : Datagram) : List UInt8 := d.bytes.drop sizeofHdr

/-- The checks before `ctl_access_ok`. -/
def ignored (d : Datagram) : Bool :=
  d.l == 0 || d.flags || d.truncated || decide (d.l < sizeofHdr) ||
    decide (toSizeT d.l ≠ toSizeT (sizeofHdr + toSizeT d.lin)) ||
    decide ((msgBufLen : Int) < d.lout) || decide (d.cmd < 0) || d.uid.isNone

end Datagram

def laterCommand (cmd : Int) : Bool := decide (cmd / responseFirstHandleLater % 2 ≠ 0)

/-- `ctl_access_ok` and the handling that comes before the response. -/
def ctlHandleFirst (out : Outside) (d : Datagram) (s : Server) : Int × Server :=
  if ctlAccessOk (d.uid.getD 0) d.cmd then
    if laterCommand d.cmd then (0, s) else handleMessage out d.cmd d.inbuf d.lin d.lout s
  else (-1, error "Operation not permitted" s)

/-- The length of the log in the response. -/
def replyLlog (s : Server) (llog : Int) : Int :=
  if (s.msgLogOffset : Int) < toUnsigned llog then s.msgLogOffset else llog

def ctlRcvHandler (out : Outside) (d : Datagram) (s : Server) : Server :=
  if d.ignored then s
  else
    let r := ctlHandleFirst out d { s with msgLogOffset := 0, ctlInHandler := true }
    let s := { r.2 with ctlInHandler := false }
    let s := if r.1 < 0 then s.touch ⟨.msgOutbuf, 0, d.lout⟩ else s
    let llog := replyLlog s d.llog
    let s := ((s.touch ⟨.mhdr, 0, sizeofHdr⟩).touch ⟨.msgOutbuf, 0, d.lout⟩).touch
      ⟨.msgLogbuf, 0, llog⟩
    if r.1 = 0 ∧ laterCommand d.cmd then (handleMessage out d.cmd d.inbuf d.lin d.lout s).2
    else s

/-- The uses of buffers while one datagram is handled. -/
def accessesFor (out : Outside) (d : Datagram) (s : Server) : List Access :=
  (ctlRcvHandler out d { s with accesses := [] }).accesses

/-! ## Safety of the lengths -/

theorem intAt_bounds (bytes : List UInt8) (o : Nat) :
    -2 ^ 31 ≤ intAt bytes o ∧ intAt bytes o < 2 ^ 31 := by
  simp only [intAt, wrapInt]
  omega

/-- The log stays inside its buffer, and so did every access. -/
structure Server.Safe (s : Server) : Prop where
  log : s.msgLogOffset ≤ logStringLen - 1
  accesses : ∀ a ∈ s.accesses, a.Safe

theorem Server.Safe.touch {s : Server} (h : s.Safe) {a : Access} (ha : a.Safe) :
    (s.touch a).Safe where
  log := h.log
  accesses := by
    intro b hb
    rcases List.mem_cons.mp hb with rfl | hb
    · exact ha
    · exact h.accesses b hb

theorem Server.Safe.inHandler {s : Server} (h : s.Safe) (b : Bool) :
    Server.Safe { s with ctlInHandler := b } := ⟨h.log, h.accesses⟩

theorem ctlErrLog_safe {s : Server} (h : s.Safe) (r : Int) : (ctlErrLog r s).Safe := by
  have hlog := h.log
  simp only [ctlErrLog]
  split
  · exact h
  · rename_i hroom
    simp only [logStringLen] at hroom hlog
    have hwrite : Access.Safe ⟨.msgLogbuf, s.msgLogOffset, logStringLen - s.msgLogOffset⟩ := by
      simp only [Access.Safe, Buffer.len, logStringLen]
      omega
    split
    · have hlast := (h.touch hwrite).touch
        (a := ⟨.msgLogbuf, logStringLen - 1, 1⟩) (by simp [Access.Safe, Buffer.len, logStringLen])
      exact ⟨le_rfl, hlast.accesses⟩
    · rename_i hfits
      refine ⟨?_, (h.touch hwrite).accesses⟩
      simp only [Server.touch, logStringLen] at hfits ⊢
      omega

theorem error_safe {s : Server} (h : s.Safe) (text : String) : (error text s).Safe := by
  rw [error]
  split
  · exact ctlErrLog_safe h _
  · exact h

theorem errors_safe (rs : List String) {s : Server} (h : s.Safe) :
    (rs.foldl (fun s n => error n s) s).Safe := by
  induction rs generalizing s with
  | nil => exact h
  | cons r rest ih => exact ih (error_safe h r)

theorem toSizeT_of_nonneg {n : Int} (h : 0 ≤ n) (hle : n < 2 ^ 64) : toSizeT n = n :=
  Int.emod_eq_of_lt h hle

theorem serverMessageCase_safe (out : Outside) (c : MessageCase) (inbuf : List UInt8)
    {lin lout : Int} {s : Server} (h : s.Safe) (hlin : 0 ≤ lin ∧ lin ≤ msgBufLen)
    (hlout : 0 ≤ lout ∧ lout ≤ msgBufLen) :
    (serverMessageCase out c inbuf lin lout s).2.Safe := by
  simp only [msgBufLen] at hlin hlout
  have eqin : toSizeT lin = lin := toSizeT_of_nonneg hlin.1 (by omega)
  have eqout : toSizeT lout = lout := toSizeT_of_nonneg hlout.1 (by omega)
  simp only [serverMessageCase, eqin, eqout]
  split
  · exact h
  · rename_i hsizes
    have hread : Access.Safe ⟨.msgInbuf, 0, lin⟩ := by
      simp only [Access.Safe, Buffer.len, msgBufLen]
      omega
    have hin : Access.Safe ⟨.message c.input, 0, lin⟩ := by
      simp only [Access.Safe, Buffer.len]
      omega
    have hout : Access.Safe ⟨.message c.output, 0, lout⟩ := by
      simp only [Access.Safe, Buffer.len]
      omega
    have hwrite : Access.Safe ⟨.msgOutbuf, 0, lout⟩ := by
      simp only [Access.Safe, Buffer.len, msgBufLen]
      omega
    have hcalled := errors_safe (out.call c.code (inbuf.take lin.toNat)).2
      (((h.touch hread).touch hin).touch hout)
    split
    · exact hcalled
    · exact (hcalled.touch hout).touch hwrite

theorem readBrArray_safe {s : Server} (h : s.Safe) {lin : Int} {i : Nat}
    (hi : (sizeofInt * (i + 1) : Nat) ≤ lin) : (readBrArray lin i s).Safe := by
  refine h.touch ?_
  simp only [Access.Safe, Buffer.len, sizeofInt] at hi ⊢
  omega

theorem ctlAddBridges_safe (out : Outside) (inbuf : List UInt8) {lin : Int} {n i : Nat}
    {s : Server} (h : s.Safe) (hn : (sizeofInt * (i + n) : Nat) ≤ lin) :
    (ctlAddBridges out inbuf lin n i s).2.Safe := by
  induction n generalizing i s with
  | zero => exact h
  | succ n ih =>
    simp only [sizeofInt] at hn ih
    have hread : (readBrArray lin i s).Safe := readBrArray_safe h (by simp only [sizeofInt]; omega)
    rw [ctlAddBridges]
    split
    · exact ih hread (by omega)
    · exact hread

theorem ctlDelBridges_safe {lin : Int} {n i : Nat} {s : Server} (h : s.Safe)
    (hn : (sizeofInt * (i + n) : Nat) ≤ lin) : (ctlDelBridges lin n i s).2.Safe := by
  induction n generalizing i s with
  | zero => exact h
  | succ n ih =>
    simp only [sizeofInt] at hn ih
    rw [ctlDelBridges]
    exact ih (readBrArray_safe h (by simp only [sizeofInt]; omega)) (by omega)

/-- A count that passes the size check is negative, or its entries were received. -/
theorem brArraySize_le {brcount lin : Int} (hc : -2 ^ 31 ≤ brcount ∧ brcount < 2 ^ 31)
    (hlin : 0 ≤ lin ∧ lin ≤ msgBufLen) (h : brArraySize brcount ≤ lin) :
    brcount < 0 ∨ sizeofInt * (1 + brcount) ≤ lin := by
  simp only [brArraySize, wrapInt, toSizeT, sizeofInt, msgBufLen] at *
  omega

theorem bridgesCase_safe {sizeOk : Int → Int → Bool} {loop : Nat → Nat → Server → Int × Server}
    {inbuf : List UInt8} {lin lout : Int} {s : Server} (h : s.Safe)
    (hlin : 0 ≤ lin ∧ lin ≤ msgBufLen)
    (checks : ∀ l n, sizeOk l n = true → n ≤ l)
    (loops : ∀ (n : Nat) (s : Server), s.Safe → (sizeofInt * (1 + n) : Nat) ≤ lin →
      (loop n 1 s).2.Safe) :
    (bridgesCase sizeOk loop inbuf lin lout s).2.Safe := by
  have eqlin : toSizeT lin = lin :=
    toSizeT_of_nonneg hlin.1 (by simp only [msgBufLen] at hlin; omega)
  simp only [bridgesCase, eqlin]
  split
  · exact h
  split
  · exact h
  rename_i hroom
  have hfirst : (sizeofInt * (0 + 1) : Nat) ≤ lin := by
    simp only [sizeofInt] at hroom ⊢
    omega
  have hread := readBrArray_safe h hfirst
  split
  · exact hread
  · rename_i hok
    have hsize := checks lin (brArraySize (intAt inbuf 0)) (by simpa using hok)
    have hcount := brArraySize_le (intAt_bounds inbuf 0) hlin hsize
    refine loops _ _ (readBrArray_safe hread hfirst) ?_
    simp only [sizeofInt] at hcount hfirst ⊢
    omega

theorem handleMessage_safe (out : Outside) (cmd : Int) (inbuf : List UInt8) {lin lout : Int}
    {s : Server} (h : s.Safe) (hlin : 0 ≤ lin ∧ lin ≤ msgBufLen)
    (hlout : 0 ≤ lout ∧ lout ≤ msgBufLen) :
    (handleMessage out cmd inbuf lin lout s).2.Safe := by
  rw [handleMessage]
  split
  · exact serverMessageCase_safe out _ inbuf h hlin hlout
  split
  · refine bridgesCase_safe h hlin (fun l n => by simp) fun n s hs hn => ?_
    exact ctlAddBridges_safe out inbuf hs hn
  split
  · refine bridgesCase_safe h hlin (fun l n hn => by simp at hn; omega) fun n s hs hn => ?_
    exact ctlDelBridges_safe hs hn
  · exact error_safe h _

/-- The check of the total length forces `lin` to be the length of the payload. -/
theorem lin_of_not_ignored {d : Datagram} (h : d.ignored = false) :
    0 ≤ d.lin ∧ d.lin ≤ msgBufLen := by
  have hl : d.l ≤ sizeofHdr + msgBufLen := min_le_right _ _
  have hlin := intAt_bounds d.bytes 4
  simp only [Datagram.ignored, Bool.or_eq_false_iff, decide_eq_false_iff_not] at h
  obtain ⟨⟨⟨⟨-, hshort⟩, hsum⟩, -⟩, -⟩ := h.1
  simp only [toSizeT, not_not, Datagram.lin, sizeofHdr, msgBufLen] at *
  omega

theorem lout_of_not_ignored {d : Datagram} (h : d.ignored = false) : d.lout ≤ msgBufLen := by
  simp only [Datagram.ignored, Bool.or_eq_false_iff, decide_eq_false_iff_not] at h
  exact not_lt.mp h.1.1.2

theorem replyLlog_safe {s : Server} (h : s.Safe) {llog : Int}
    (hb : -2 ^ 31 ≤ llog ∧ llog < 2 ^ 31) : Access.Safe ⟨.msgLogbuf, 0, replyLlog s llog⟩ := by
  have hlog := h.log
  rw [replyLlog]
  split
  all_goals
    simp only [Access.Safe, Buffer.len, toUnsigned, logStringLen] at *
    omega

theorem ctlHandleFirst_safe (out : Outside) {d : Datagram} {s : Server} (h : s.Safe)
    (hlin : 0 ≤ d.lin ∧ d.lin ≤ msgBufLen) (hlout : 0 ≤ d.lout ∧ d.lout ≤ msgBufLen) :
    (ctlHandleFirst out d s).2.Safe := by
  rw [ctlHandleFirst]
  split
  · split
    · exact h
    · exact handleMessage_safe out _ _ h hlin hlout
  · exact error_safe h _

theorem ctlRcvHandler_safe (out : Outside) {d : Datagram} {s : Server}
    (hs : ∀ a ∈ s.accesses, a.Safe) (hlout : 0 ≤ d.lout) (hd : d.ignored = false) :
    (ctlRcvHandler out d s).Safe := by
  have hlin := lin_of_not_ignored hd
  have hlout' : 0 ≤ d.lout ∧ d.lout ≤ msgBufLen := ⟨hlout, lout_of_not_ignored hd⟩
  have hout : Access.Safe ⟨.msgOutbuf, 0, d.lout⟩ := by
    simp only [Access.Safe, Buffer.len]
    omega
  have hhdr : Access.Safe ⟨.mhdr, 0, sizeofHdr⟩ := by
    simp [Access.Safe, Buffer.len, sizeofHdr]
  have hstart : Server.Safe { s with msgLogOffset := 0, ctlInHandler := true } :=
    ⟨Nat.zero_le _, hs⟩
  have hfirst := ctlHandleFirst_safe out hstart hlin hlout'
  rw [ctlRcvHandler, hd]
  simp only [Bool.false_eq_true, if_false]
  generalize ctlHandleFirst out d { s with msgLogOffset := 0, ctlInHandler := true } = r at hfirst ⊢
  have hclosed := hfirst.inHandler false
  have hcleared : Server.Safe (if r.1 < 0 then
      Server.touch { r.2 with ctlInHandler := false } ⟨.msgOutbuf, 0, d.lout⟩
      else { r.2 with ctlInHandler := false }) := by
    split
    · exact hclosed.touch hout
    · exact hclosed
  have hllog : -2 ^ 31 ≤ d.llog ∧ d.llog < 2 ^ 31 := intAt_bounds d.bytes 12
  have hsent := ((hcleared.touch hhdr).touch hout).touch (replyLlog_safe hcleared hllog)
  split
  · exact handleMessage_safe out _ _ hsent hlin hlout'
  · exact hsent

/-! A negative `lout` passes the checks, and becomes the length of the response. -/

theorem error_accesses {a : Access} {s : Server} (text : String) (h : a ∈ s.accesses) :
    a ∈ (error text s).accesses := by
  rw [error]
  split
  · rw [ctlErrLog]
    split
    · exact h
    · dsimp only
      split
      · exact List.mem_cons_of_mem _ (List.mem_cons_of_mem _ h)
      · exact List.mem_cons_of_mem _ h
  · exact h

theorem errors_accesses (rs : List String) {a : Access} {s : Server} (h : a ∈ s.accesses) :
    a ∈ (rs.foldl (fun s n => error n s) s).accesses := by
  induction rs generalizing s with
  | nil => exact h
  | cons r rest ih => exact ih (error_accesses r h)

theorem ctlAddBridges_accesses (out : Outside) (inbuf : List UInt8) {lin : Int} {n i : Nat}
    {a : Access} {s : Server} (h : a ∈ s.accesses) :
    a ∈ (ctlAddBridges out inbuf lin n i s).2.accesses := by
  induction n generalizing i s with
  | zero => exact h
  | succ n ih =>
    have hread : a ∈ (readBrArray lin i s).accesses := List.mem_cons_of_mem _ h
    rw [ctlAddBridges]
    split
    · exact ih hread
    · exact hread

theorem ctlDelBridges_accesses {lin : Int} {n i : Nat} {a : Access} {s : Server}
    (h : a ∈ s.accesses) : a ∈ (ctlDelBridges lin n i s).2.accesses := by
  induction n generalizing i s with
  | zero => exact h
  | succ n ih => exact ih (List.mem_cons_of_mem _ h)

theorem bridgesCase_accesses {sizeOk : Int → Int → Bool}
    {loop : Nat → Nat → Server → Int × Server} {inbuf : List UInt8} {lin lout : Int} {a : Access}
    {s : Server} (h : a ∈ s.accesses)
    (loops : ∀ s n, a ∈ s.accesses → a ∈ (loop n 1 s).2.accesses) :
    a ∈ (bridgesCase sizeOk loop inbuf lin lout s).2.accesses := by
  have hread : a ∈ (readBrArray lin 0 s).accesses := List.mem_cons_of_mem _ h
  rw [bridgesCase]
  split
  · exact h
  split
  · exact h
  dsimp only
  split
  · exact hread
  · exact loops _ _ (List.mem_cons_of_mem _ hread)

theorem handleMessage_accesses (out : Outside) (cmd : Int) (inbuf : List UInt8) (lin lout : Int)
    {a : Access} {s : Server} (h : a ∈ s.accesses) :
    a ∈ (handleMessage out cmd inbuf lin lout s).2.accesses := by
  have keep : ∀ b (s : Server), a ∈ s.accesses → a ∈ (s.touch b).accesses :=
    fun b s hs => List.mem_cons_of_mem _ hs
  rw [handleMessage]
  split
  · rw [serverMessageCase]
    split
    · exact h
    dsimp only
    split
    · exact errors_accesses _ (keep _ _ (keep _ _ (keep _ _ h)))
    · exact keep _ _ (keep _ _ (errors_accesses _ (keep _ _ (keep _ _ (keep _ _ h)))))
  split
  · exact bridgesCase_accesses h fun s n hs => ctlAddBridges_accesses out inbuf hs
  split
  · exact bridgesCase_accesses h fun s n hs => ctlDelBridges_accesses hs
  · exact error_accesses _ h

theorem lout_mem_accessesFor (out : Outside) {d : Datagram} (s : Server)
    (hd : d.ignored = false) : ⟨.msgOutbuf, 0, d.lout⟩ ∈ accessesFor out d s := by
  rw [accessesFor, ctlRcvHandler, hd]
  simp only [Bool.false_eq_true, if_false]
  split
  · refine handleMessage_accesses _ _ _ _ _ ?_
    exact List.mem_cons_of_mem _ List.mem_cons_self
  · exact List.mem_cons_of_mem _ List.mem_cons_self

/-- Every length the server uses for a datagram is non-negative and within its
buffer exactly when the datagram is ignored or announces a non-negative `lout`. -/
theorem ctlRcvHandler_lengths_safe_iff (out : Outside) (d : Datagram) (s : Server) :
    (∀ a ∈ accessesFor out d s, a.Safe) ↔ (d.ignored = true ∨ 0 ≤ d.lout) := by
  by_cases hd : d.ignored = true
  · have hnone : accessesFor out d s = [] := by simp [accessesFor, ctlRcvHandler, hd]
    simp [hnone, hd]
  · have hd' : d.ignored = false := by simpa using hd
    constructor
    · intro h
      exact Or.inr (h _ (lout_mem_accessesFor out s hd')).2.1
    · intro h
      have hlout : 0 ≤ d.lout := by simpa [hd] using h
      have hnone : ∀ a ∈ ({ s with accesses := [] } : Server).accesses, a.Safe := by simp
      exact (ctlRcvHandler_safe out hnone hlout hd').accesses

/-- A header with command 101, no payload and `lout` = -1, from an ordinary user. -/
def negativeLout : Datagram where
  bytes := [101, 0, 0, 0, 0, 0, 0, 0, 255, 255, 255, 255, 0, 0, 0, 0, 0, 0, 0, 0]
  flags := false
  uid := some 1000

/-- The status request fails its size check, and the failed request clears `lout` octets. -/
theorem negativeLout_unsafe :
    negativeLout.ignored = false ∧ negativeLout.lout = -1 ∧
      ¬ ∀ a ∈ accessesFor ⟨fun _ _ => (0, []), fun _ => false⟩ negativeLout {}, a.Safe := by
  refine ⟨by decide, by decide, fun h => ?_⟩
  have hlen := (h _ (lout_mem_accessesFor _ {} (by decide))).2.1
  exact absurd hlen (by decide)

end Mstpd.CtlSocket
