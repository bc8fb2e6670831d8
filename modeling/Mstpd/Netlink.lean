import Mstpd.Records
import Mstpd.Service

/-!
# Link messages of the kernel

`rtnl_listen` reads the datagrams of the monitoring socket and `listen_msg` the messages in them;
`addattr_l` and `parse_rtattr` write and read the attributes of a message.
-/

namespace Mstpd.Netlink

open Octets Records
open CtlSocket (toSizeT toUnsigned wrapInt)

/-! ## Attributes -/

/-- `struct rtattr`: a length and a type of two octets, then the data. -/
def rta : Framing := ⟨2, 4, 4, by decide, by decide, by decide⟩

def rtaLength (len : Nat) : Nat := 4 + len

def rtaAlign (len : Nat) : Nat := rta.roundUp len

/-- `RTA_DATA`. -/
def rtaData (a : Nat) : Nat := a + 4

def rtaType (m : Memory) (a : Nat) : Nat := number m (a + 2) 2

/-- The table `tb` of pointers to attributes, by type. -/
abbrev AttrTable := Nat → Option Nat

/-- One turn of the loop of `parse_rtattr_flags`. -/
def noteAttribute (m : Memory) (max flags a : Nat) (tb : AttrTable) : AttrTable :=
  let type := rtaType m a &&& (0xFFFF ^^^ flags)
  if type ≤ max ∧ tb type = none then fun t => if t = type then some a else tb t else tb

/-- `parse_rtattr_flags`, without the report of a deficit. -/
def parseRtattrFlags (m : Memory) (max a : Nat) (len : Int) (flags : Nat) : AttrTable :=
  (rta.walk m (noteAttribute m max flags) len.toNat a len fun _ => none).1

def parseRtattr (m : Memory) (max a : Nat) (len : Int) : AttrTable :=
  parseRtattrFlags m max a len 0

def nlmsgAlign (n : Nat) : Nat := rta.roundUp n

/-- `addattr_l`, with `n` the address of the message. -/
def addattrL (m : Memory) (n maxlen type : Nat) (data : List UInt8) : Memory × Int :=
  let len := rtaLength data.length
  let tail := nlmsgAlign (number m n 4)
  if maxlen < tail + rtaAlign len then (m, -1)
  else
    let m := store m (n + tail + 2) (digits type 2)
    let m := store m (n + tail) (digits len 2)
    let m := store m (rtaData (n + tail)) data
    (store m n (digits (tail + rtaAlign len) 4), 0)

def addattr8 (m : Memory) (n maxlen type : Nat) (data : UInt8) : Memory × Int :=
  addattrL m n maxlen type [data]

/-! ## Link messages -/

def nlmsgDone : Nat := 3
def rtmNewlink : Nat := 16
def rtmDellink : Nat := 17
def rtmSetlink : Nat := 19
def afUnspec : Nat := 0
def afBridge : Nat := 7
def iflaIfname : Nat := 3
def iflaMaster : Nat := 10
def iflaProtinfo : Nat := 12

/-- `NLMSG_HDRLEN`, the size of `struct nlmsghdr`. -/
def nlmsgHdrlen : Nat := 16

/-- The size of `struct ifinfomsg`. -/
def sizeofIfinfomsg : Nat := 16

/-- `NLMSG_LENGTH(sizeof(struct ifinfomsg))`. -/
def linkHeader : Nat := nlmsgHdrlen + sizeofIfinfomsg

/-- The buffer of `rtnl_listen`. -/
def rtnlBufLen : Nat := 16384

/-- An `int` in memory. -/
def intAt (m : Memory) (o : Nat) : Int := wrapInt (number m o 4)

/-- The string at an address, looked at for so many octets. -/
def cString (m : Memory) (o n : Nat) : List UInt8 :=
  ((List.range n).map fun i => m (o + i)).takeWhile (· ≠ 0)

section Listening

variable {σ : Type} (max : Nat) (isBridge : σ → List UInt8 → Bool)
  (notify : Int → Int → Bool → Nat → σ → σ)

/-- `listen_msg`, with `IFLA_MAX`, `is_bridge` and `bridge_notify` as parameters; what it prints is
left out. -/
def listenMsg (m : Memory) (n : Nat) (s : σ) : σ × Int :=
  let type := number m (n + 4) 2
  if type = nlmsgDone then (s, 0)
  else
    let len := wrapInt (wrapInt (number m n 4) - linkHeader)
    if len < 0 then (s, -1)
    else
      let ifi := n + nlmsgHdrlen
      let family := number m ifi 1
      if family ≠ afBridge ∧ family ≠ afUnspec then (s, 0)
      else if type ≠ rtmNewlink ∧ type ≠ rtmDellink then (s, 0)
      else
        let tb := parseRtattr m max (ifi + sizeofIfinfomsg) len
        if (tb iflaMaster).isSome ∧ family ≠ afBridge then (s, 0)
        else
          match tb iflaIfname with
          | none => (s, -1)
          | some name =>
            let ifIndex := intAt m (ifi + 4)
            let brIndex :=
              match tb iflaMaster with
              | some master => intAt m (rtaData master)
              | none => if isBridge s (cString m (rtaData name) rtnlBufLen) then ifIndex else -1
            (notify brIndex ifIndex (type == rtmNewlink) (number m (ifi + 8) 4) s, 0)

end Listening

/-- How the loop over the messages of a datagram ends: with octets left, or by a return. -/
inductive Ended
  | rest (status : Int)
  | returned (code : Int)
  deriving DecidableEq

/-- What `recvmsg` returns. -/
inductive Received
  | datagram (octets : List UInt8) (truncated addressed : Bool)
  /-- `EINTR` or `ENOBUFS`. -/
  | tryAgain
  | failed

section Messages

variable {σ : Type} (handler : Memory → Nat → σ → σ × Int)

/-- The loop of `rtnl_listen` over the messages of a datagram. The comparison of `status` is one of
unsigned numbers. -/
def messagesLoop (m : Memory) : Nat → Nat → Int → σ → Option (σ × Ended)
  | 0, _, _, _ => none
  | fuel + 1, h, status, s =>
    if toSizeT status < nlmsgHdrlen then some (s, .rest status)
    else
      let len := wrapInt (number m h 4)
      let l := wrapInt (toSizeT len - nlmsgHdrlen)
      if l < 0 ∨ status < len then some (s, .returned (-1))
      else
        let r := handler m h s
        if r.2 < 0 then some (r.1, .returned r.2)
        else
          let step := nlmsgAlign (toUnsigned len).toNat
          messagesLoop m fuel (h + step) (wrapInt (status - step)) r.1

/-- `rtnl_listen` on what the socket has for it; when there is no more, `recvmsg` would block. The
buffer keeps what earlier datagrams left in it. -/
def rtnlListen : List Received → Memory → σ → Option (σ × Int)
  | [], _, s => some (s, 0)
  | .tryAgain :: rest, m, s => rtnlListen rest m s
  | .failed :: _, _, s => some (s, -1)
  | .datagram octets truncated addressed :: rest, m, s =>
    let octets := octets.take rtnlBufLen
    let m := received m octets
    if octets.length = 0 ∨ !addressed then some (s, -1)
    else
      (messagesLoop handler m rtnlBufLen 0 octets.length s).bind fun r =>
        match r.2 with
        | .returned code => some (r.1, code)
        | .rest left => if truncated || left == 0 then rtnlListen rest m r.1 else some (r.1, -1)

end Messages

/-- The request of `br_set_state` before it has an attribute. -/
def setlink (ifIndex : Int) : Memory :=
  let m : Memory := fun _ => 0
  let m := store m 0 (digits linkHeader 4)
  -- `NLM_F_REQUEST | NLM_F_REPLACE`
  let m := store m 6 (digits 0x101 2)
  let m := store m 4 (digits rtmSetlink 2)
  let m := store m 16 (digits afBridge 1)
  store m 20 (digits (toUnsigned ifIndex).toNat 4)

/-- The request of `br_set_state`. -/
def brSetState (ifIndex : Int) (state : UInt8) : Memory :=
  (addattr8 (setlink ifIndex) 0 256 iflaProtinfo state).1

/-! ## Reading attributes -/

structure Attribute where
  type : Nat
  payload : List UInt8

/-- What stands behind the length of an attribute. -/
def Attribute.octets (x : Attribute) : List UInt8 := digits x.type 2 ++ x.payload

section Reading

variable {m : Memory} {max o e t : Nat} {x : Attribute} {xs : List Attribute}

theorem size_octets : rta.size x.octets = rtaLength x.payload.length := by
  rw [Framing.size, Attribute.octets, List.length_append, length_digits, rtaLength]
  change 2 + (2 + _) = _
  omega

theorem record_type (h : rta.Record m o x.octets) (ht : x.type < 2 ^ 16) : rtaType m o = x.type :=
  (holds_append.mp h.body).1.number_eq ht

theorem record_payload (h : rta.Record m o x.octets) : Holds m (rtaData o) x.payload := by
  have hpayload := (holds_append.mp h.body).2
  rw [length_digits, Nat.add_assoc] at hpayload
  exact hpayload

/-- The table after the attributes at some addresses: an entry is kept once it is set. -/
theorem noteAttribute_foldl (l : List (Nat × List UInt8)) (tb : AttrTable) (ht : t ≤ max) :
    l.foldl (fun tb a => noteAttribute m max 0 a.1 tb) tb t =
      (tb t).or ((l.find? fun a => rtaType m a.1 == t).map Prod.fst) := by
  have hmask : ∀ a, rtaType m a &&& (0xFFFF ^^^ 0) = rtaType m a := by
    intro a
    have hlt : rtaType m a < 2 ^ 16 := number_lt
    rw [Nat.xor_zero, show 0xFFFF = 2 ^ 16 - 1 from rfl, Nat.and_two_pow_sub_one_eq_mod,
      Nat.mod_eq_of_lt hlt]
  induction l generalizing tb with
  | nil => simp
  | cons a l ih =>
    rw [List.foldl_cons, ih, noteAttribute, hmask, List.find?_cons]
    by_cases htype : rtaType m a.1 = t
    · subst htype
      rw [beq_self_eq_true]
      cases hold : tb (rtaType m a.1) with
      | none => simp [ht]
      | some b => simp [hold]
    · have hother : (rtaType m a.1 == t) = false := beq_eq_false_iff_ne.mpr htype
      rw [hother]
      split
      · dsimp only
        rw [if_neg (Ne.symm htype)]
      · rfl

theorem parseRtattr_chain (h : rta.Chain m o (xs.map Attribute.octets) e) (ht : t ≤ max) :
    parseRtattr m max o ((e : Int) - o) t =
      ((rta.placed o (xs.map Attribute.octets)).find? fun a => rtaType m a.1 == t).map
        Prod.fst := by
  have hcount := h.length_le
  rw [parseRtattr, parseRtattrFlags, Framing.walk_chain h (by omega) rfl]
  exact noteAttribute_foldl _ _ ht

/-- What the search by type finds among the octets and among the attributes. -/
theorem find_placed (h : rta.Chain m o (xs.map Attribute.octets) e)
    (htypes : ∀ y ∈ xs, y.type < 2 ^ 16) :
    ((rta.placed o (xs.map Attribute.octets)).find? (fun a => rtaType m a.1 == t) = none ∧
      xs.find? (·.type == t) = none) ∨
    ∃ a x, (rta.placed o (xs.map Attribute.octets)).find? (fun a => rtaType m a.1 == t) =
        some (a, x.octets) ∧ xs.find? (·.type == t) = some x ∧ rta.Record m a x.octets := by
  induction xs generalizing o with
  | nil => exact Or.inl ⟨rfl, rfl⟩
  | cons y ys ih =>
    cases h with
    | cons hr rest =>
      have htype := record_type hr (htypes y List.mem_cons_self)
      rw [List.map_cons, Framing.placed, List.find?_cons, List.find?_cons]
      dsimp only
      rw [htype]
      cases (y.type == t) with
      | true => exact Or.inr ⟨o, y, rfl, rfl, hr⟩
      | false => exact ih rest fun z hz => htypes z (List.mem_cons_of_mem _ hz)

/-- The table has the first attribute of each type, where it stands. -/
theorem parseRtattr_found (h : rta.Chain m o (xs.map Attribute.octets) e) (ht : t ≤ max)
    (htypes : ∀ y ∈ xs, y.type < 2 ^ 16) :
    (parseRtattr m max o ((e : Int) - o) t = none ∧ xs.find? (·.type == t) = none) ∨
    ∃ a x, parseRtattr m max o ((e : Int) - o) t = some a ∧ xs.find? (·.type == t) = some x ∧
      rta.Record m a x.octets := by
  rw [parseRtattr_chain h ht]
  rcases find_placed h htypes with ⟨hnone, hno⟩ | ⟨a, x, hfound, hx, hr⟩
  · exact Or.inl ⟨by rw [hnone]; rfl, hno⟩
  · exact Or.inr ⟨a, x, by rw [hfound]; rfl, hx, hr⟩

/-- Every entry of a table points to a whole attribute of its type among some octets. -/
def Inside (m : Memory) (max flags o : Nat) (len : Int) (tb : AttrTable) : Prop :=
  ∀ t a, tb t = some a → o ≤ a ∧ rta.header ≤ rta.lengthAt m a ∧
    (a : Int) + rta.lengthAt m a ≤ o + len ∧ rtaType m a &&& (0xFFFF ^^^ flags) = t ∧ t ≤ max

/-- Whatever the octets are, and however many there are said to be. -/
theorem table_stays_inside (m : Memory) (max o : Nat) (len : Int) (flags : Nat) :
    Inside m max flags o len (parseRtattrFlags m max o len flags) := by
  rw [parseRtattrFlags]
  apply Framing.walk_inv
  · intro a tb hlow hhead hhigh htb t b hb
    rw [noteAttribute] at hb
    split at hb
    · rename_i hnew
      dsimp only at hb
      split at hb
      · rename_i ht
        obtain rfl := Option.some.inj hb
        exact ⟨hlow, hhead, hhigh, ht.symm, ht ▸ hnew.1⟩
      · exact htb t b hb
    · exact htb t b hb
  · intro t a ha
    cases ha

end Reading

/-! ## Listening -/

/-- A link that is new or changed, or one that is gone. -/
structure LinkMessage where
  new : Bool
  family : Nat
  ifIndex : Int
  flags : Nat
  attributes : List Attribute

namespace LinkMessage

/-- The data of the first attribute of a type. -/
def data (x : LinkMessage) (type : Nat) : Option (List UInt8) :=
  (x.attributes.find? (·.type == type)).map Attribute.payload

/-- The message in memory, from one address to another. -/
structure At (x : LinkMessage) (m : Memory) (o e : Nat) : Prop where
  length : number m o 4 = e - o
  type : number m (o + 4) 2 = if x.new then rtmNewlink else rtmDellink
  family : number m (o + 16) 1 = x.family
  ifIndex : intAt m (o + 20) = x.ifIndex
  flags : number m (o + 24) 4 = x.flags
  attributes : rta.Chain m (o + 32) (x.attributes.map Attribute.octets) e

/-- What the kernel promises of its messages: the name is a string, the master an `int`. -/
structure Proper (x : LinkMessage) : Prop where
  types : ∀ a ∈ x.attributes, a.type < 2 ^ 16
  named : ∃ name rest, x.data iflaIfname = some (name ++ 0 :: rest) ∧ (0 : UInt8) ∉ name ∧
    name.length < rtnlBufLen
  master : ∀ d ∈ x.data iflaMaster, d.length = 4

/-- The name of the interface. -/
def name (x : LinkMessage) : List UInt8 := ((x.data iflaIfname).getD []).takeWhile (· ≠ 0)

/-- A message of the bridges, or of an interface without a master. -/
def heard (x : LinkMessage) : Bool :=
  x.family == afBridge || x.family == afUnspec && (x.data iflaMaster).isNone

section Serving

variable {σ : Type} (isBridge : σ → List UInt8 → Bool)
  (notify : Int → Int → Bool → Nat → σ → σ)

/-- The bridge that a message is about. -/
def brIndex (x : LinkMessage) (s : σ) : Int :=
  match x.data iflaMaster with
  | some master => intAt (ofList master) 0
  | none => if isBridge s x.name then x.ifIndex else -1

/-- What is to be done about a message. -/
def serve (s : σ) (x : LinkMessage) : σ :=
  if x.heard then notify (x.brIndex isBridge s) x.ifIndex x.new x.flags s else s

end Serving

end LinkMessage

section Listening

variable {σ : Type} {isBridge : σ → List UInt8 → Bool} {notify : Int → Int → Bool → Nat → σ → σ}
  {m m' : Memory} {max o e : Nat} {x : LinkMessage} {s : σ}

theorem intAt_holds {l : List UInt8} (h : Holds m o l) (hlen : l.length = 4) :
    intAt m o = intAt (ofList l) 0 := by
  rw [intAt, intAt]
  congr 2
  apply number_congr
  intro i hi
  rw [h i (by omega), Nat.zero_add]
  rfl

theorem takeWhile_string {name rest : List UInt8} (hzero : (0 : UInt8) ∉ name) :
    (name ++ 0 :: rest).takeWhile (· ≠ 0) = name := by
  rw [List.takeWhile_append_of_pos]
  · simp
  · intro b hb
    simp only [decide_not, Bool.not_eq_true', decide_eq_false_iff_not]
    rintro rfl
    exact hzero hb

/-- A string that ends among the octets that are looked at. -/
theorem cString_holds {name rest : List UInt8} {n : Nat} (h : Holds m o (name ++ 0 :: rest))
    (hn : name.length < n) (hzero : (0 : UInt8) ∉ name) : cString m o n = name := by
  obtain ⟨k, rfl⟩ : ∃ k, n = name.length + (1 + k) := ⟨n - name.length - 1, by omega⟩
  obtain ⟨hname, hend⟩ := holds_append.mp h
  have hfirst : (List.range name.length).map (fun i => m (o + i)) = name := by
    apply List.ext_getElem
    · simp
    · intro i hi hi'
      rw [List.getElem_map, List.getElem_range, hname i hi', List.getD_eq_getElem _ _ hi']
  have hlast : m (o + name.length) = 0 := (holds_cons.mp hend).1
  rw [cString, List.range_add, List.map_append, hfirst, Nat.add_comm 1 k, List.range_succ_eq_map,
    List.map_cons, List.map_cons, Nat.add_zero, hlast]
  exact takeWhile_string hzero

theorem wrapInt_eq {n : Int} (hlow : -2 ^ 31 ≤ n) (hhigh : n < 2 ^ 31) : wrapInt n = n := by
  rw [wrapInt]
  omega

namespace LinkMessage

theorem At.le (h : x.At m o e) : o + linkHeader ≤ e := h.attributes.le

/-- The table of a message has the data of its attributes. -/
theorem At.table (h : x.At m o e) (hx : x.Proper) {t : Nat} (ht : t ≤ max) :
    (parseRtattr m max (o + 32) ((e : Int) - (o + 32 : Nat)) t = none ∧ x.data t = none) ∨
    ∃ a d, parseRtattr m max (o + 32) ((e : Int) - (o + 32 : Nat)) t = some a ∧
      x.data t = some d ∧ Holds m (rtaData a) d := by
  rcases parseRtattr_found h.attributes ht hx.types with ⟨hnone, hno⟩ | ⟨a, y, hfound, hy, hr⟩
  · exact Or.inl ⟨hnone, by rw [data, hno]; rfl⟩
  · exact Or.inr ⟨a, y.payload, hfound, by rw [data, hy]; rfl, record_payload hr⟩

/-- `listen_msg` on a message of the kernel. -/
theorem At.listenMsg (h : x.At m o e) (hx : x.Proper) (hmax : iflaMaster ≤ max)
    (hsize : e < 2 ^ 31) :
    listenMsg max isBridge notify m o s = (x.serve isBridge notify s, 0) := by
  have hle : o + 32 ≤ e := h.le
  have hlen : wrapInt (wrapInt (number m o 4) - linkHeader) = (e : Int) - (o + 32 : Nat) := by
    have hcast : ((e - o : Nat) : Int) = (e : Int) - o := Int.ofNat_sub (by omega)
    rw [h.length, hcast, wrapInt_eq (n := (e : Int) - o) (by omega) (by omega)]
    change wrapInt ((e : Int) - o - (32 : Nat)) = _
    rw [wrapInt_eq (by omega) (by omega)]
    omega
  have htype : number m (o + 4) 2 ≠ nlmsgDone ∧
      ¬(number m (o + 4) 2 ≠ rtmNewlink ∧ number m (o + 4) 2 ≠ rtmDellink) ∧
      (number m (o + 4) 2 == rtmNewlink) = x.new := by
    rw [h.type]
    cases x.new <;> decide
  obtain ⟨nm, rest, hdata, hzero, hshort⟩ := hx.named
  obtain ⟨name, hname, hstring⟩ : ∃ name,
      parseRtattr m max (o + 32) ((e : Int) - (o + 32 : Nat)) iflaIfname = some name ∧
      cString m (rtaData name) rtnlBufLen = x.name := by
    rcases h.table hx (t := iflaIfname) (Nat.le_trans (by decide) hmax) with
      ⟨-, hno⟩ | ⟨a, d, hfound, hd, hholds⟩
    · rw [hdata] at hno
      cases hno
    · rw [hdata] at hd
      obtain rfl := Option.some.inj hd
      refine ⟨a, hfound, ?_⟩
      rw [cString_holds hholds hshort hzero, LinkMessage.name, hdata, Option.getD_some,
        takeWhile_string hzero]
  have hifi : o + nlmsgHdrlen + sizeofIfinfomsg = o + 32 := rfl
  have hfamily : number m (o + nlmsgHdrlen) 1 = x.family := h.family
  have hindex : intAt m (o + nlmsgHdrlen + 4) = x.ifIndex := h.ifIndex
  have hflags : number m (o + nlmsgHdrlen + 8) 4 = x.flags := h.flags
  rw [Netlink.listenMsg, if_neg htype.1, hlen, if_neg (by omega)]
  simp only [hifi, hfamily, hindex, hflags, htype.2.2, hname, hstring, if_neg htype.2.1]
  rw [serve, heard, brIndex]
  rcases h.table hx hmax with ⟨hnone, hno⟩ | ⟨a, d, hfound, hd, hholds⟩
  · simp only [hnone, hno]
    by_cases hb : x.family = afBridge
    · simp [hb]
    · by_cases hu : x.family = afUnspec
      · simp [hu]
      · simp [hb, hu]
  · have hmaster : intAt m (rtaData a) = intAt (ofList d) 0 :=
      intAt_holds hholds (hx.master d hd)
    simp only [hfound, hd, hmaster]
    by_cases hb : x.family = afBridge
    · simp [hb]
    · by_cases hu : x.family = afUnspec
      · simp [hu, afBridge, afUnspec]
      · simp [hb, hu]

theorem At.congr (h : x.At m o e) (heq : ∀ i, o ≤ i → i < e → m' i = m i) : x.At m' o e := by
  have hle : o + 32 ≤ e := h.le
  have hnumber : ∀ a k, o ≤ a → a + k ≤ o + 32 → number m' a k = number m a k := by
    intro a k hlow hhigh
    apply number_congr
    intro i hi
    exact heq _ (by omega) (by omega)
  constructor
  · rw [hnumber o 4 (by omega) (by omega)]
    exact h.length
  · rw [hnumber (o + 4) 2 (by omega) (by omega)]
    exact h.type
  · rw [hnumber (o + 16) 1 (by omega) (by omega)]
    exact h.family
  · rw [intAt, hnumber (o + 20) 4 (by omega) (by omega)]
    exact h.ifIndex
  · rw [hnumber (o + 24) 4 (by omega) (by omega)]
    exact h.flags
  · apply h.attributes.congr
    intro i hlow hhigh
    exact heq i (by omega) hhigh

/-- A message ends where the next one may start. -/
theorem At.dvd (h : x.At m o e) (ho : 4 ∣ o) : 4 ∣ e :=
  h.attributes.dvd ((Nat.dvd_add_right ho).mpr (by decide))

end LinkMessage

/-- Messages that stand one behind the other. -/
inductive Messages (m : Memory) : Nat → List LinkMessage → Nat → Prop
  | nil {o : Nat} : Messages m o [] o
  | cons {o next e : Nat} {x : LinkMessage} {xs : List LinkMessage} (h : x.At m o next)
    (rest : Messages m next xs e) : Messages m o (x :: xs) e

theorem Messages.le {xs : List LinkMessage} (h : Messages m o xs e) : o ≤ e := by
  induction h with
  | nil => exact Nat.le_refl _
  | @cons o next e x xs h rest ih =>
    have hle : o + 32 ≤ next := h.le
    omega

theorem Messages.congr {xs : List LinkMessage} (h : Messages m o xs e)
    (heq : ∀ i, o ≤ i → i < e → m' i = m i) : Messages m' o xs e := by
  induction h with
  | nil => exact .nil
  | @cons o next e x xs h rest ih =>
    have hle : o + 32 ≤ next := h.le
    have hnext := rest.le
    apply Messages.cons
    · apply h.congr
      intro i hlow hhigh
      exact heq i hlow (by omega)
    · apply ih
      intro i hlow hhigh
      exact heq i (by omega) hhigh

/-- The loop hands every message of a datagram over, in order, and nothing is left. -/
theorem messagesLoop_serves {xs : List LinkMessage} {fuel : Nat} (h : Messages m o xs e)
    (hx : ∀ x ∈ xs, x.Proper) (hmax : iflaMaster ≤ max) (ho : 4 ∣ o) (hsize : e < 2 ^ 31)
    (hfuel : xs.length < fuel) :
    messagesLoop (listenMsg max isBridge notify) m fuel o ((e : Int) - o) s =
      some (xs.foldl (LinkMessage.serve isBridge notify) s, .rest 0) := by
  induction h generalizing s fuel with
  | nil =>
    cases fuel with
    | zero => exact absurd hfuel (Nat.not_lt_zero _)
    | succ fuel => rw [messagesLoop, Int.sub_self, if_pos (by decide), List.foldl_nil]
  | @cons o next e x xs h rest ih =>
    cases fuel with
    | zero => exact absurd hfuel (Nat.not_lt_zero _)
    | succ fuel =>
      have hle : o + 32 ≤ next := h.le
      have hnext := rest.le
      have hcast : ((next - o : Nat) : Int) = (next : Int) - o := Int.ofNat_sub (by omega)
      have hlen : wrapInt (number m o 4) = (next : Int) - o := by
        rw [h.length, hcast]
        exact wrapInt_eq (by omega) (by omega)
      have hstatus : ¬ toSizeT ((e : Int) - o) < nlmsgHdrlen := by
        rw [CtlSocket.toSizeT_of_nonneg (by omega) (by omega), nlmsgHdrlen]
        omega
      have hl : wrapInt (toSizeT ((next : Int) - o) - nlmsgHdrlen) = (next : Int) - o - 16 := by
        rw [CtlSocket.toSizeT_of_nonneg (by omega) (by omega)]
        change wrapInt ((next : Int) - o - 16) = _
        exact wrapInt_eq (by omega) (by omega)
      have hstep : nlmsgAlign (toUnsigned ((next : Int) - o)).toNat = next - o := by
        have hdvd : 4 ∣ next - o := Nat.dvd_sub (h.dvd ho) ho
        have hunsigned : toUnsigned ((next : Int) - o) = ((next - o : Nat) : Int) := by
          rw [toUnsigned, hcast]
          exact Int.emod_eq_of_lt (by omega) (by omega)
        rw [hunsigned, Int.toNat_natCast]
        exact Framing.roundUp_eq hdvd
      rw [messagesLoop, if_neg hstatus, hlen]
      dsimp only
      rw [hl, if_neg (by omega), h.listenMsg (hx x List.mem_cons_self) hmax (by omega)]
      dsimp only
      rw [if_neg (by decide), hstep, hcast, List.foldl_cons, wrapInt_eq (by omega) (by omega),
        show o + (next - o) = next by omega,
        show (e : Int) - o - ((next : Int) - o) = (e : Int) - next by omega]
      apply ih
      · exact fun y hy => hx y (List.mem_cons_of_mem _ hy)
      · exact h.dvd ho
      · exact hsize
      · exact Nat.lt_of_succ_lt_succ hfuel

/-- A datagram of the kernel with its messages. -/
structure Datagram where
  octets : List UInt8
  messages : List LinkMessage
  filled : octets ≠ []
  fits : octets.length ≤ rtnlBufLen
  holds : Messages (ofList octets) 0 messages octets.length
  proper : ∀ x ∈ messages, x.Proper

/-- What `recvmsg` returns: a datagram, or nothing yet. -/
def arrival : Option Datagram → Received
  | some d => .datagram d.octets false true
  | none => .tryAgain

theorem Datagram.received_holds (d : Datagram) (m : Memory) :
    Messages (received m d.octets) 0 d.messages d.octets.length := by
  apply d.holds.congr
  intro i _ hi
  rw [received, ofList, List.getElem?_eq_getElem hi, List.getD_eq_getElem _ _ hi]
  rfl

theorem Messages.length_le {xs : List LinkMessage} (h : Messages m o xs e) :
    32 * xs.length ≤ e - o := by
  induction h with
  | nil => exact Nat.zero_le _
  | @cons o next e x xs h rest ih =>
    have hle : o + 32 ≤ next := h.le
    have hnext := rest.le
    rw [List.length_cons]
    omega

/-- Whatever the kernel has put into the datagrams that wait, and whatever the buffer still holds
of earlier ones, each message of theirs is served once and in order; the loop comes back when the
socket is empty. -/
theorem every_link_message_served (max : Nat) (isBridge : σ → List UInt8 → Bool)
    (notify : Int → Int → Bool → Nat → σ → σ) (hmax : iflaMaster ≤ max)
    (queue : List (Option Datagram)) (m : Memory) (s : σ) :
    rtnlListen (listenMsg max isBridge notify) (queue.map arrival) m s =
      some (((queue.flatMap Option.toList).flatMap Datagram.messages).foldl
        (LinkMessage.serve isBridge notify) s, 0) := by
  induction queue generalizing m s with
  | nil => rfl
  | cons r rest ih =>
    cases r with
    | none => exact ih m s
    | some d =>
      have hfill : ¬(d.octets.length = 0 ∨ (!true) = true) := by
        rintro (hnone | hno)
        · exact d.filled (List.length_eq_zero_iff.mp hnone)
        · cases hno
      have hcount := (d.received_holds m).length_le
      have hfits := d.fits
      have hbuf : rtnlBufLen = 16384 := rfl
      have hloop : messagesLoop (listenMsg max isBridge notify) (received m d.octets)
          rtnlBufLen 0 ((d.octets.length : Int) - (0 : Nat)) s =
            some (d.messages.foldl (LinkMessage.serve isBridge notify) s, .rest 0) := by
        apply messagesLoop_serves (d.received_holds m) d.proper hmax (Nat.dvd_zero 4)
        · omega
        · omega
      rw [Int.natCast_zero, Int.sub_zero] at hloop
      rw [List.map_cons, arrival, rtnlListen, List.take_of_length_le hfits, if_neg hfill, hloop,
        Option.bind_some]
      dsimp only
      rw [if_pos (by decide), ih, List.flatMap_cons, Option.toList_some, List.singleton_append,
        List.flatMap_cons, List.foldl_append]

end Listening

/-- Port 3, `p1`, comes up as a port of bridge 2. -/
def sampleMessage : LinkMessage where
  new := true
  family := afBridge
  ifIndex := 3
  flags := 0x41
  attributes := [⟨iflaIfname, [0x70, 0x31, 0]⟩, ⟨iflaMaster, [2, 0, 0, 0]⟩]

def sampleOctets : List UInt8 :=
  [48, 0, 0, 0, 16, 0, 0, 0, 0, 0, 0, 0, 0, 0, 0, 0,
    7, 0, 1, 0, 3, 0, 0, 0, 0x41, 0, 0, 0, 0, 0, 0, 0,
    7, 0, 3, 0, 0x70, 0x31, 0, 0xFF, 8, 0, 10, 0, 2, 0, 0, 0]

theorem sampleMessage_at : sampleMessage.At (ofList sampleOctets) 0 48 := by
  constructor
  · decide
  · decide
  · decide
  · decide
  · decide
  · apply Framing.Chain.cons
    · exact ⟨by decide, by decide, by unfold Holds; decide⟩
    · apply Framing.Chain.cons
      · exact ⟨by decide, by decide, by unfold Holds; decide⟩
      · exact .nil

theorem sampleMessage_proper : sampleMessage.Proper := by
  constructor
  · decide
  · exact ⟨[0x70, 0x31], [], rfl, by decide, by decide⟩
  · intro d hd
    obtain rfl := Option.some.inj (Option.mem_def.mp hd)
    rfl

def sampleDatagram : Datagram where
  octets := sampleOctets
  messages := [sampleMessage]
  filled := List.cons_ne_nil _ _
  fits := by decide
  holds := .cons sampleMessage_at .nil
  proper := by
    intro x hx
    obtain rfl := List.mem_singleton.mp hx
    exact sampleMessage_proper

/-- The calls of `bridge_notify` for two such datagrams, with an interrupted call between them. -/
theorem sample_link_messages_served :
    rtnlListen
        (listenMsg 64 (fun _ _ => false) fun br i new flags calls => (br, i, new, flags) :: calls)
        ([some sampleDatagram, none, some sampleDatagram].map arrival) (fun _ => 0) [] =
      some ([(2, 3, true, 0x41), (2, 3, true, 0x41)], 0) :=
  (every_link_message_served 64 (fun _ _ => false)
    (fun br i new flags calls => (br, i, new, flags) :: calls) (by decide)
    [some sampleDatagram, none, some sampleDatagram] (fun _ => 0) []).trans (by decide)

/-! ## Writing attributes -/

/-- The calls of `addattr_l` for some attributes, with what they return. -/
def addAttributes (m : Memory) (n maxlen : Nat) : List Attribute → Memory × List Int
  | [] => (m, [])
  | x :: xs =>
    let r := addattrL m n maxlen x.type x.payload
    let rs := addAttributes r.1 n maxlen xs
    (rs.1, r.2 :: rs.2)

/-- Which attributes find room. -/
def fitting (room : Nat) : List Attribute → List Bool
  | [] => []
  | x :: xs =>
    let len := rtaAlign (rtaLength x.payload.length)
    if len ≤ room then true :: fitting (room - len) xs else false :: fitting room xs

/-- The attributes that find room. -/
def taken (room : Nat) (xs : List Attribute) : List Attribute :=
  ((xs.zip (fitting room xs)).filter Prod.snd).map Prod.fst

/-- A request for a link with some attributes, in a buffer with room for `maxlen` octets. -/
structure Request (m : Memory) (n maxlen : Nat) (xs : List Attribute) : Prop where
  fits : number m n 4 ≤ maxlen
  aligned : 4 ∣ number m n 4
  attributes : rta.Chain m (n + linkHeader) (xs.map Attribute.octets) (n + number m n 4)

section Writing

variable {m : Memory} {n maxlen max t : Nat} {x : Attribute} {xs ys : List Attribute}

theorem Request.le (h : Request m n maxlen xs) : linkHeader ≤ number m n 4 :=
  Nat.le_of_add_le_add_left h.attributes.le

/-- The header of an attribute, written to an address. -/
def storeHeader (m : Memory) (o : Nat) (x : Attribute) : Memory :=
  store (store m (o + 2) (digits x.type 2)) o (digits (rtaLength x.payload.length) 2)

/-- What is written to the end of a request is an attribute there. -/
theorem storeHeader_record {o len : Nat} (hlen : rtaLength x.payload.length < 2 ^ 16)
    (hn : n + 4 ≤ o) :
    rta.Record (store (store (storeHeader m o x) (rtaData o) x.payload) n (digits len 4)) o
      x.octets := by
  constructor
  · have hlength : Holds (storeHeader m o x) o (digits (rtaLength x.payload.length) 2) :=
      holds_store
    rw [size_octets]
    refine ((hlength.store ?_).store ?_).number_eq hlen
    · left
      rw [length_digits, rtaData]
      omega
    · right
      rw [length_digits]
      omega
  · rw [size_octets]
    exact Nat.le_add_right _ _
  · apply holds_append.mpr
    constructor
    · have htype : Holds (store m (o + 2) (digits x.type 2)) (o + 2) (digits x.type 2) :=
        holds_store
      refine (((htype.store ?_).store ?_).store ?_)
      · right
        rw [length_digits]
      · left
        rw [length_digits, rtaData]
      · right
        rw [length_digits]
        omega
    · have hdata : Holds (store (storeHeader m o x) (rtaData o) x.payload) (rtaData o) x.payload :=
        holds_store
      rw [length_digits]
      apply hdata.store
      right
      rw [length_digits, rtaData]
      omega

/-- An attribute with room for it comes behind the others, and any other one is refused. -/
theorem Request.addattrL (h : Request m n maxlen xs) (hmax : maxlen < 2 ^ 16) :
    let len := rtaAlign (rtaLength x.payload.length)
    let r := addattrL m n maxlen x.type x.payload
    if len ≤ maxlen - number m n 4 then
      r.2 = 0 ∧ Request r.1 n maxlen (xs ++ [x]) ∧ number r.1 n 4 = number m n 4 + len ∧
        ∀ i, i < n ∨ n + maxlen ≤ i → r.1 i = m i
    else r = (m, -1) := by
  intro len r
  have hfits := h.fits
  have hhead : 32 ≤ number m n 4 := h.le
  have htail : nlmsgAlign (number m n 4) = number m n 4 := Framing.roundUp_eq h.aligned
  have hround : rtaLength x.payload.length ≤ len := Framing.le_roundUp
  split
  · rename_i hroom
    have hr : r = (store (store (storeHeader m (n + number m n 4) x)
        (rtaData (n + number m n 4)) x.payload) n (digits (number m n 4 + len) 4), 0) := by
      change Netlink.addattrL m n maxlen x.type x.payload = _
      rw [Netlink.addattrL, htail, if_neg (by omega)]
      rfl
    have hnumber : number r.1 n 4 = number m n 4 + len := by
      rw [hr]
      exact holds_store.number_eq (Nat.lt_of_le_of_lt (by omega : _ ≤ maxlen) (by omega))
    have hkept : ∀ i, n + 4 ≤ i → i < n + number m n 4 → r.1 i = m i := by
      intro i hlow hhigh
      rw [hr]
      dsimp only
      rw [store_outside (by rw [length_digits]; omega), store_outside (by rw [rtaData]; omega),
        storeHeader, store_outside (by omega), store_outside (by omega)]
    refine ⟨by rw [hr], ⟨?_, ?_, ?_⟩, hnumber, ?_⟩
    · rw [hnumber]
      omega
    · rw [hnumber]
      exact (Nat.dvd_add_right h.aligned).mpr Framing.roundUp_dvd
    · have hrecord : rta.Record r.1 (n + number m n 4) x.octets := by
        rw [hr]
        exact storeHeader_record (by omega) (by omega)
      rw [hnumber, List.map_append, List.map_singleton, ← Nat.add_assoc]
      have hchain :
          rta.Chain r.1 (n + linkHeader) (xs.map Attribute.octets) (n + number m n 4) := by
        apply h.attributes.congr
        intro i hlow hhigh
        apply hkept i _ hhigh
        exact Nat.le_trans (Nat.add_le_add_left (by decide) n) hlow
      have hsnoc := hchain.snoc hrecord
      rw [size_octets] at hsnoc
      exact hsnoc
    · intro i hi
      rw [hr]
      dsimp only
      have hlen : rtaLength x.payload.length = 4 + x.payload.length := rfl
      rw [store_outside (by rw [length_digits]; omega), store_outside (by rw [rtaData]; omega),
        storeHeader, store_outside (by rw [length_digits]; omega),
        store_outside (by rw [length_digits]; omega)]
  · rename_i hroom
    change Netlink.addattrL m n maxlen x.type x.payload = _
    rw [Netlink.addattrL, htail, if_pos (by omega)]

theorem taken_cons (room : Nat) (x : Attribute) (xs : List Attribute) :
    taken room (x :: xs) =
      if rtaAlign (rtaLength x.payload.length) ≤ room then
        x :: taken (room - rtaAlign (rtaLength x.payload.length)) xs
      else taken room xs := by
  rw [taken, fitting]
  split
  · rfl
  · rfl

/-- A call that is refused writes nothing. -/
theorem addattrL_refused {type : Nat} {data : List UInt8}
    (h : (addattrL m n maxlen type data).2 = -1) : (addattrL m n maxlen type data).1 = m := by
  rw [addattrL] at h ⊢
  split at h
  · rename_i hroom
    rw [if_pos hroom]
  · cases h

theorem addAttributes_found (h : Request m n maxlen xs) (hxs : ∀ x ∈ xs, x.type < 2 ^ 16)
    (hys : ∀ y ∈ ys, y.type < 2 ^ 16) (hmax : maxlen < 2 ^ 16) :
    let r := addAttributes m n maxlen ys
    let all := xs ++ taken (maxlen - number m n 4) ys
    r.2 = (fitting (maxlen - number m n 4) ys).map (fun fits => if fits then 0 else -1) ∧
      Request r.1 n maxlen all ∧ (∀ i, i < n ∨ n + maxlen ≤ i → r.1 i = m i) ∧
      ∀ max t, t ≤ max →
        match all.find? (·.type == t) with
        | none => parseRtattr r.1 max (n + linkHeader) (number r.1 n 4 - linkHeader : Int) t = none
        | some x => ∃ a,
            parseRtattr r.1 max (n + linkHeader) (number r.1 n 4 - linkHeader : Int) t = some a ∧
              Holds r.1 (rtaData a) x.payload := by
  induction ys generalizing m xs with
  | nil =>
    intro r all
    have hall : all = xs := List.append_nil xs
    refine ⟨rfl, hall ▸ h, fun _ _ => rfl, fun max t ht => ?_⟩
    have hle := h.le
    have hleft : (number m n 4 - linkHeader : Int) =
        ((n + number m n 4 : Nat) : Int) - (n + linkHeader : Nat) := by
      push_cast
      omega
    change match all.find? (·.type == t) with
      | none => parseRtattr m max (n + linkHeader) (number m n 4 - linkHeader : Int) t = none
      | some x => ∃ a, parseRtattr m max (n + linkHeader) (number m n 4 - linkHeader : Int) t =
          some a ∧ Holds m (rtaData a) x.payload
    rw [hall, hleft]
    rcases parseRtattr_found h.attributes ht hxs with ⟨hnone, hno⟩ | ⟨a, x, hfound, hx, hr⟩
    · rw [hno]
      exact hnone
    · rw [hx]
      exact ⟨a, hfound, record_payload hr⟩
  | cons y ys ih =>
    have hstep := h.addattrL (x := y) hmax
    have hrest : ∀ z ∈ ys, z.type < 2 ^ 16 := fun z hz => hys z (List.mem_cons_of_mem _ hz)
    rw [addAttributes, fitting, taken_cons]
    dsimp only at hstep ⊢
    split at hstep
    · rename_i hroom
      obtain ⟨hcode, hrequest, hnumber, houtside⟩ := hstep
      have hxs' : ∀ x ∈ xs ++ [y], x.type < 2 ^ 16 := by
        intro x hx
        rcases List.mem_append.mp hx with hx | hx
        · exact hxs x hx
        · obtain rfl := List.mem_singleton.mp hx
          exact hys x List.mem_cons_self
      obtain ⟨hcodes, hall, hkept, hfound⟩ := ih hrequest hxs' hrest
      rw [hnumber, Nat.sub_add_eq] at hcodes hall hfound
      rw [if_pos hroom, if_pos hroom, List.append_cons]
      refine ⟨by rw [hcodes, hcode]; rfl, hall, fun i hi => ?_, hfound⟩
      exact (hkept i hi).trans (houtside i hi)
    · rename_i hroom
      obtain ⟨hcodes, hall, hkept, hfound⟩ := ih h hxs hrest
      rw [if_neg hroom, if_neg hroom, hstep]
      exact ⟨by rw [hcodes]; rfl, hall, hkept, hfound⟩

/-- Whatever attributes are added, and in whatever order: a call succeeds just where its attribute
has room and writes nothing otherwise, the request stays in its buffer, and for each type
`parse_rtattr` finds the first attribute that the request had or was given. -/
theorem attributes_found_as_added (h : Request m n maxlen xs) (hxs : ∀ x ∈ xs, x.type < 2 ^ 16)
    (hys : ∀ y ∈ ys, y.type < 2 ^ 16) (hmax : maxlen < 2 ^ 16) :
    let r := addAttributes m n maxlen ys
    let all := xs ++ taken (maxlen - number m n 4) ys
    r.2 = (fitting (maxlen - number m n 4) ys).map (fun fits => if fits then 0 else -1) ∧
      (∀ before y after, ys = before ++ y :: after →
        let earlier := (addAttributes m n maxlen before).1
        (addattrL earlier n maxlen y.type y.payload).2 = -1 →
          (addattrL earlier n maxlen y.type y.payload).1 = earlier) ∧
      Request r.1 n maxlen all ∧ (∀ i, i < n ∨ n + maxlen ≤ i → r.1 i = m i) ∧
      ∀ max t, t ≤ max →
        match all.find? (·.type == t) with
        | none => parseRtattr r.1 max (n + linkHeader) (number r.1 n 4 - linkHeader : Int) t = none
        | some x => ∃ a,
            parseRtattr r.1 max (n + linkHeader) (number r.1 n 4 - linkHeader : Int) t = some a ∧
              Holds r.1 (rtaData a) x.payload := by
  intro r all
  obtain ⟨hcodes, hrequest, houtside, hfound⟩ := addAttributes_found h hxs hys hmax
  refine ⟨hcodes, ?_, hrequest, houtside, hfound⟩
  intro before y after _ earlier hrefused
  exact addattrL_refused hrefused

theorem setlink_length (ifIndex : Int) : number (setlink ifIndex) 0 4 = linkHeader := by
  have hlength : Holds (store (fun _ => 0) 0 (digits linkHeader 4)) 0 (digits linkHeader 4) :=
    holds_store
  refine ((((hlength.store ?_).store ?_).store ?_).store ?_).number_eq (by decide)
  · exact Or.inl (by decide)
  · exact Or.inl (by decide)
  · exact Or.inl (by decide)
  · exact Or.inl (Nat.le_of_ble_eq_true rfl)

theorem setlink_request (ifIndex : Int) (h : linkHeader ≤ maxlen) :
    Request (setlink ifIndex) 0 maxlen [] := by
  constructor
  · rw [setlink_length]
    exact h
  · rw [setlink_length]
    decide
  · rw [setlink_length]
    exact .nil

/-- The request for a port has its state where the kernel looks for it. -/
theorem brSetState_found (ifIndex : Int) (state : UInt8) (hmax : iflaProtinfo ≤ max) :
    ∃ a, parseRtattr (brSetState ifIndex state) max linkHeader
        (number (brSetState ifIndex state) 0 4 - linkHeader : Int) iflaProtinfo = some a ∧
      brSetState ifIndex state (rtaData a) = state := by
  have hempty : Request (setlink ifIndex) 0 256 [] := setlink_request ifIndex (by decide)
  have hsize : rtaAlign (rtaLength [state].length) = 8 := by
    rw [List.length_singleton]
    decide
  have hroom : rtaAlign (rtaLength [state].length) ≤ 256 - number (setlink ifIndex) 0 4 := by
    rw [hsize, setlink_length]
    decide
  have hstep := hempty.addattrL (x := ⟨iflaProtinfo, [state]⟩) (by decide)
  dsimp only at hstep
  rw [if_pos hroom, hsize, setlink_length] at hstep
  obtain ⟨-, hrequest, hlength, -⟩ := hstep
  have hchain := hrequest.attributes
  rw [hlength, Nat.zero_add, Nat.zero_add] at hchain
  have htypes : ∀ x ∈ [] ++ [(⟨iflaProtinfo, [state]⟩ : Attribute)], x.type < 2 ^ 16 := by
    intro x hx
    obtain rfl := List.mem_singleton.mp hx
    exact (by decide : iflaProtinfo < 2 ^ 16)
  rw [brSetState, addattr8, hlength]
  rcases parseRtattr_found hchain hmax htypes with ⟨-, hno⟩ | ⟨a, x, hfound, hx, hr⟩
  · cases hno
  · obtain rfl := Option.some.inj hx
    exact ⟨a, hfound, (holds_cons.mp (record_payload hr)).1⟩

end Writing

/-- Two attributes, of which the second has no room. -/
theorem sample_attributes_found :
    (addAttributes (setlink 3) 0 44
      [⟨iflaProtinfo, [3]⟩, ⟨iflaMaster, [2, 0, 0, 0]⟩]).2 = [0, -1] :=
  (attributes_found_as_added (setlink_request 3 (by decide)) (by simp) (by decide)
    (by decide)).1.trans (by decide)

end Mstpd.Netlink
