import Mstpd.BlockHash
import Mstpd.ConfigId

/-!
# The digest function

`hmac_md5.c`: the MD5 context takes a text in pieces, and `hmac_md5` is called with the allocation
table and the key of 13.7. The pieces make no difference, and bridges of one region have one table
unless the transform collides.
-/

namespace Mstpd.Md5

open BlockHash

/-! ## The transform -/

/-- `UINT4 state[4]`. -/
structure Words where
  a : UInt32
  b : UInt32
  c : UInt32
  d : UInt32
deriving DecidableEq, Repr

def s11 : UInt32 := 7
def s12 : UInt32 := 12
def s13 : UInt32 := 17
def s14 : UInt32 := 22
def s21 : UInt32 := 5
def s22 : UInt32 := 9
def s23 : UInt32 := 14
def s24 : UInt32 := 20
def s31 : UInt32 := 4
def s32 : UInt32 := 11
def s33 : UInt32 := 16
def s34 : UInt32 := 23
def s41 : UInt32 := 6
def s42 : UInt32 := 10
def s43 : UInt32 := 15
def s44 : UInt32 := 21

def F (x y z : UInt32) : UInt32 := (x &&& y) ||| (~~~x &&& z)

def G (x y z : UInt32) : UInt32 := (x &&& z) ||| (y &&& ~~~z)

def H (x y z : UInt32) : UInt32 := x ^^^ y ^^^ z

def I (x y z : UInt32) : UInt32 := y ^^^ (x ||| ~~~z)

def rotateLeft (x n : UInt32) : UInt32 := (x <<< n) ||| (x >>> (32 - n))

/-- The new value of `a` in the macros of the four rounds, which differ in `op`. -/
def mix (op : UInt32 → UInt32 → UInt32 → UInt32) (a b c d x s ac : UInt32) : UInt32 :=
  rotateLeft (a + (op b c d + x + ac)) s + b

def FF := mix F
def GG := mix G
def HH := mix H
def II := mix I

/-- One line of a round: the index into `x`, the shift and the constant. -/
abbrev Line := Nat × UInt32 × UInt32

def round1 : List Line :=
  [(0, s11, 0xd76aa478), (1, s12, 0xe8c7b756), (2, s13, 0x242070db), (3, s14, 0xc1bdceee),
   (4, s11, 0xf57c0faf), (5, s12, 0x4787c62a), (6, s13, 0xa8304613), (7, s14, 0xfd469501),
   (8, s11, 0x698098d8), (9, s12, 0x8b44f7af), (10, s13, 0xffff5bb1), (11, s14, 0x895cd7be),
   (12, s11, 0x6b901122), (13, s12, 0xfd987193), (14, s13, 0xa679438e), (15, s14, 0x49b40821)]

def round2 : List Line :=
  [(1, s21, 0xf61e2562), (6, s22, 0xc040b340), (11, s23, 0x265e5a51), (0, s24, 0xe9b6c7aa),
   (5, s21, 0xd62f105d), (10, s22, 0x2441453), (15, s23, 0xd8a1e681), (4, s24, 0xe7d3fbc8),
   (9, s21, 0x21e1cde6), (14, s22, 0xc33707d6), (3, s23, 0xf4d50d87), (8, s24, 0x455a14ed),
   (13, s21, 0xa9e3e905), (2, s22, 0xfcefa3f8), (7, s23, 0x676f02d9), (12, s24, 0x8d2a4c8a)]

def round3 : List Line :=
  [(5, s31, 0xfffa3942), (8, s32, 0x8771f681), (11, s33, 0x6d9d6122), (14, s34, 0xfde5380c),
   (1, s31, 0xa4beea44), (4, s32, 0x4bdecfa9), (7, s33, 0xf6bb4b60), (10, s34, 0xbebfbc70),
   (13, s31, 0x289b7ec6), (0, s32, 0xeaa127fa), (3, s33, 0xd4ef3085), (6, s34, 0x4881d05),
   (9, s31, 0xd9d4d039), (12, s32, 0xe6db99e5), (15, s33, 0x1fa27cf8), (2, s34, 0xc4ac5665)]

def round4 : List Line :=
  [(0, s41, 0xf4292244), (7, s42, 0x432aff97), (14, s43, 0xab9423a7), (5, s44, 0xfc93a039),
   (12, s41, 0x655b59c3), (3, s42, 0x8f0ccc92), (10, s43, 0xffeff47d), (1, s44, 0x85845dd1),
   (8, s41, 0x6fa87e4f), (15, s42, 0xfe2ce6e0), (6, s43, 0xa3014314), (13, s44, 0x4e0811a1),
   (4, s41, 0xf7537e82), (11, s42, 0xbd3af235), (2, s43, 0x2ad7d2bb), (9, s44, 0xeb86d391)]

/-- The registers change places from line to line: after `FF(a, b, c, d, ..)` comes
`FF(d, a, b, c, ..)`, and after four lines they are back. -/
def runLines (op : UInt32 → UInt32 → UInt32 → UInt32 → UInt32 → UInt32 → UInt32 → UInt32)
    (x : List UInt32) (lines : List Line) (w : Words) : Words :=
  lines.foldl (fun w line =>
    ⟨w.d, op w.a w.b w.c w.d (x.getD line.1 0) line.2.1 line.2.2, w.b, w.c⟩) w

/-- `Encode`. -/
def encode (input : List UInt32) : List UInt8 :=
  input.flatMap fun (w : UInt32) =>
    [w.toUInt8, (w >>> 8).toUInt8, (w >>> 16).toUInt8, (w >>> 24).toUInt8]

/-- `Decode`. -/
def decode : List UInt8 → List UInt32
  | b₀ :: b₁ :: b₂ :: b₃ :: input =>
    (b₀.toUInt32 ||| (b₁.toUInt32 <<< 8) ||| (b₂.toUInt32 <<< 16) ||| (b₃.toUInt32 <<< 24)) ::
      decode input
  | _ => []

/-- `MD5Transform`. -/
def md5Transform (state : Words) (block : List UInt8) : Words :=
  let x := decode block
  let w := runLines II x round4 (runLines HH x round3 (runLines GG x round2
    (runLines FF x round1 state)))
  ⟨state.a + w.a, state.b + w.b, state.c + w.c, state.d + w.d⟩

/-! ## The context -/

structure Ctx where
  state : Words
  /-- number of bits, modulo 2^64 (lsb first) -/
  count : UInt32 × UInt32
  buffer : List UInt8
deriving DecidableEq, Repr

def initialState : Words := ⟨0x67452301, 0xefcdab89, 0x98badcfe, 0x10325476⟩

/-- `MD5Init`, which leaves the buffer as it is. -/
def md5Init (context : Ctx) : Ctx := { context with count := (0, 0), state := initialState }

def memcpy (output : List UInt8) (at_ : Nat) (input : List UInt8) : List UInt8 :=
  output.take at_ ++ input ++ output.drop (at_ + input.length)

/-- The loop of `MD5Update`: the transforms of the full blocks of the input from `i` on. -/
def transformFrom (input : List UInt8) (inputLen : UInt32) : Nat → UInt32 → Words → UInt32 × Words
  | 0, i, state => (i, state)
  | fuel + 1, i, state =>
    if i + 63 < inputLen then
      transformFrom input inputLen fuel (i + 64)
        (md5Transform state ((input.drop i.toNat).take 64))
    else (i, state)

/-- Number of bytes mod 64. -/
def index (count : UInt32 × UInt32) : Nat := ((count.1 >>> 3) &&& 0x3F).toNat

/-- The new number of bits in `MD5Update`. -/
def addCount (count : UInt32 × UInt32) (inputLen : UInt32) : UInt32 × UInt32 :=
  let low := count.1 + (inputLen <<< 3)
  let carry := if low < inputLen <<< 3 then count.2 + 1 else count.2
  (low, carry + (inputLen >>> 29))

/-- `MD5Update`. -/
def md5Update (context : Ctx) (input : List UInt8) : Ctx :=
  let inputLen := UInt32.ofNat input.length
  let index := index context.count
  let count := addCount context.count inputLen
  let partLen := 64 - index
  if partLen ≤ inputLen.toNat then
    let buffer := memcpy context.buffer index (input.take partLen)
    let (i, state) := transformFrom input inputLen inputLen.toNat (UInt32.ofNat partLen)
      (md5Transform context.state buffer)
    { state := state, count := count, buffer := memcpy buffer 0 (input.drop i.toNat) }
  else
    { state := context.state, count := count, buffer := memcpy context.buffer index input }

/-- `PADDING`. -/
def padding : List UInt8 := 0x80 :: List.replicate 63 0

/-- `MD5Final`. -/
def md5Final (context : Ctx) : List UInt8 :=
  let bits := encode [context.count.1, context.count.2]
  let index := index context.count
  let padLen := if index < 56 then 56 - index else 120 - index
  let context := md5Update context (padding.take padLen)
  let context := md5Update context bits
  encode [context.state.a, context.state.b, context.state.c, context.state.d]

/-- `hmac_md5`. The contexts are the uninitialised ones on the stack. -/
def hmacMd5 (tctx context : Ctx) (text key : List UInt8) : List UInt8 :=
  let key := if 64 < key.length then md5Final (md5Update (md5Init tctx) key) else key
  let pad := memcpy (List.replicate 65 0) 0 key
  let kIpad := (pad.take 64).map (· ^^^ 0x36) ++ pad.drop 64
  let kOpad := (pad.take 64).map (· ^^^ 0x5c) ++ pad.drop 64
  let inner := md5Update (md5Update (md5Init context) (kIpad.take 64)) text
  let digest := md5Final inner
  md5Final (md5Update (md5Update (md5Init inner) (kOpad.take 64)) digest)

/-! ## Pieces of a text -/

/-- The number in `count`. -/
def bitCount (count : UInt32 × UInt32) : Nat := count.1.toNat + 2 ^ 32 * count.2.toNat

/-- What a context holds after `text`. -/
structure Absorbed (text : List UInt8) (context : Ctx) : Prop where
  state : context.state = (blocks 64 text).foldl md5Transform initialState
  count : bitCount context.count = 8 * text.length % 2 ^ 64
  size : context.buffer.length = 64
  pending : context.buffer.take (text.length % 64) = rest 64 text

theorem index_eq {count : UInt32 × UInt32} {len : Nat}
    (h : bitCount count = 8 * len % 2 ^ 64) : index count = len % 64 := by
  have hlow : count.1.toNat = 8 * len % 2 ^ 32 := by
    have hlt := count.1.toNat_lt
    rw [bitCount] at h
    omega
  have hmask : index count = count.1.toNat / 8 % 64 := by
    rw [index, UInt32.toNat_and, UInt32.toNat_shiftRight]
    have hand := Nat.and_two_pow_sub_one_eq_mod (count.1.toNat / 8) 6
    simpa [Nat.shiftRight_eq_div_pow] using hand
  rw [hmask, hlow]
  omega

theorem bitCount_addCount (count : UInt32 × UInt32) (inputLen : UInt32) :
    bitCount (addCount count inputLen) = (bitCount count + 8 * inputLen.toNat) % 2 ^ 64 := by
  have hshift : (inputLen <<< 3).toNat = 8 * inputLen.toNat % 2 ^ 32 := by
    rw [UInt32.toNat_shiftLeft]
    simp [Nat.shiftLeft_eq, Nat.mul_comm]
  have hlow : (count.1 + (inputLen <<< 3)).toNat =
      (count.1.toNat + 8 * inputLen.toNat % 2 ^ 32) % 2 ^ 32 := by rw [UInt32.toNat_add, hshift]
  have hhigh : ∀ carry : UInt32,
      (carry + (inputLen >>> 29)).toNat = (carry.toNat + inputLen.toNat / 2 ^ 29) % 2 ^ 32 := by
    intro carry
    rw [UInt32.toNat_add, UInt32.toNat_shiftRight]
    simp [Nat.shiftRight_eq_div_pow]
  have hone : (count.2 + 1).toNat = (count.2.toNat + 1) % 2 ^ 32 := UInt32.toNat_add _ _
  have h₁ := count.1.toNat_lt
  have h₂ := count.2.toNat_lt
  have h₃ := inputLen.toNat_lt
  simp only [bitCount, addCount, hhigh]
  rw [hlow]
  split
  · rename_i hcarry
    rw [UInt32.lt_iff_toNat_lt, hlow, hshift] at hcarry
    rw [hone]
    omega
  · rename_i hcarry
    rw [UInt32.lt_iff_toNat_lt, hlow, hshift] at hcarry
    omega

section Memcpy

variable {output input : List UInt8} {start : Nat}

theorem length_memcpy (h : start + input.length ≤ output.length) :
    (memcpy output start input).length = output.length := by
  simp only [memcpy, List.length_append, List.length_take, List.length_drop]
  omega

theorem take_memcpy (h : start ≤ output.length) :
    (memcpy output start input).take (start + input.length) = output.take start ++ input := by
  have hstart : (output.take start ++ input).length = start + input.length := by
    rw [List.length_append, List.length_take, Nat.min_eq_left h]
  rw [memcpy, List.take_left' hstart]

/-- A copy up to the end of the buffer. -/
theorem memcpy_end (h : start + input.length = output.length) :
    memcpy output start input = output.take start ++ input := by
  rw [memcpy, List.drop_eq_nil_of_le (by omega), List.append_nil]

end Memcpy

/-- The loop has passed the full blocks, and its counter is where the rest begins. -/
theorem transformFrom_spec {input : List UInt8} {inputLen : UInt32}
    (hlength : inputLen.toNat = input.length) (hbound : input.length < 2 ^ 31) {fuel : Nat}
    {i : UInt32} {state : Words} (hi : i.toNat ≤ input.length)
    (hfuel : input.length ≤ i.toNat + fuel) :
    (transformFrom input inputLen fuel i state).2 =
        (blocks 64 (input.drop i.toNat)).foldl md5Transform state ∧
      input.drop (transformFrom input inputLen fuel i state).1.toNat =
        rest 64 (input.drop i.toNat) := by
  induction fuel generalizing i state with
  | zero =>
    have hnil : input.drop i.toNat = [] := List.drop_eq_nil_of_le (by omega)
    rw [transformFrom, hnil]
    exact ⟨rfl, rfl⟩
  | succ fuel ih =>
    have hend : (i + 63).toNat = i.toNat + 63 := by
      rw [UInt32.toNat_add, Nat.mod_eq_of_lt]
      · rfl
      · have hone : (63 : UInt32).toNat = 63 := rfl
        omega
    have hnext : (i + 64).toNat = i.toNat + 64 := by
      rw [UInt32.toNat_add, Nat.mod_eq_of_lt]
      · rfl
      · have hone : (64 : UInt32).toNat = 64 := rfl
        omega
    rw [transformFrom]
    split
    · rename_i hfull
      rw [UInt32.lt_iff_toNat_lt, hend, hlength] at hfull
      have hblock : ((input.drop i.toNat).take 64).length = 64 := by
        rw [List.length_take, List.length_drop]
        omega
      have hsplit : input.drop i.toNat =
          (input.drop i.toNat).take 64 ++ input.drop (i + 64).toNat := by
        rw [hnext, ← List.drop_drop, List.take_append_drop]
      obtain ⟨hstate, hrest⟩ := @ih (i + 64)
        (md5Transform state ((input.drop i.toNat).take 64)) (by omega) (by omega)
      rw [hstate, hrest]
      constructor
      · conv_rhs => rw [hsplit, blocks_block_append (by decide) hblock, List.foldl_cons]
      · conv_rhs => rw [hsplit, rest_block_append (by decide) hblock]
    · rename_i hshort
      rw [UInt32.lt_iff_toNat_lt, hend, hlength] at hshort
      have hlt : (input.drop i.toNat).length < 64 := by
        rw [List.length_drop]
        omega
      rw [blocks_of_lt hlt, rest_of_lt hlt]
      exact ⟨rfl, rfl⟩

theorem absorbed_init {context : Ctx} (hsize : context.buffer.length = 64) :
    Absorbed [] (md5Init context) := by
  refine ⟨rfl, rfl, hsize, ?_⟩
  rw [List.length_nil, Nat.zero_mod, List.take_zero]
  rfl

/-- The piece either completes the block in the buffer and leaves its own rest there, or it is put
behind what the buffer holds. -/
theorem Absorbed.update {text input : List UInt8} {context : Ctx} (h : Absorbed text context)
    (hbound : input.length < 2 ^ 31) : Absorbed (text ++ input) (md5Update context input) := by
  have hindex : index context.count = text.length % 64 := index_eq h.count
  have hinputLen : (UInt32.ofNat input.length).toNat = input.length := by
    rw [UInt32.toNat_ofNat']
    exact Nat.mod_eq_of_lt (by omega)
  have hcount : bitCount (addCount context.count (UInt32.ofNat input.length)) =
      8 * (text ++ input).length % 2 ^ 64 := by
    rw [bitCount_addCount, h.count, hinputLen, List.length_append]
    omega
  have hsize := h.size
  have hpending := h.pending
  have hlength : (rest 64 text).length = text.length % 64 := length_rest
  simp only [md5Update, hindex, hinputLen]
  split
  · rename_i hfull
    have hpart : (UInt32.ofNat (64 - text.length % 64)).toNat = 64 - text.length % 64 := by
      rw [UInt32.toNat_ofNat']
      exact Nat.mod_eq_of_lt (by omega)
    have htaken : (input.take (64 - text.length % 64)).length = 64 - text.length % 64 := by
      rw [List.length_take, Nat.min_eq_left hfull]
    have hbuffer : memcpy context.buffer (text.length % 64)
        (input.take (64 - text.length % 64)) =
          rest 64 text ++ input.take (64 - text.length % 64) := by
      rw [memcpy_end (by omega), hpending]
    have hblock : (rest 64 text ++ input.take (64 - text.length % 64)).length = 64 := by
      rw [List.length_append, hlength, htaken]
      omega
    have hsplit : rest 64 text ++ input = (rest 64 text ++ input.take (64 - text.length % 64)) ++
        input.drop (64 - text.length % 64) := by
      rw [List.append_assoc, List.take_append_drop]
    have hrun := @transformFrom_spec input _ hinputLen hbound input.length
      (UInt32.ofNat (64 - text.length % 64))
      (md5Transform context.state (rest 64 text ++ input.take (64 - text.length % 64)))
      (by omega) (by omega)
    rw [hpart] at hrun
    have hblocks : (blocks 64 (text ++ input)).foldl md5Transform initialState =
        (blocks 64 (input.drop (64 - text.length % 64))).foldl md5Transform
          (md5Transform context.state (rest 64 text ++ input.take (64 - text.length % 64))) := by
      rw [blocks_append (by decide), List.foldl_append, ← h.state, hsplit,
        blocks_block_append (by decide) hblock, List.foldl_cons]
    have hleft : rest 64 (text ++ input) = rest 64 (input.drop (64 - text.length % 64)) := by
      rw [rest_append (by decide), hsplit, rest_block_append (by decide) hblock]
    have hkeep : (rest 64 (input.drop (64 - text.length % 64))).length < 64 := by
      rw [length_rest]
      exact Nat.mod_lt _ (by decide)
    constructor
    · rw [hbuffer, hrun.1, hblocks]
    · exact hcount
    · rw [hbuffer, hrun.2, length_memcpy (by omega)]
      exact hblock
    · have hcopied := @take_memcpy (rest 64 text ++ input.take (64 - text.length % 64))
        (rest 64 (input.drop (64 - text.length % 64))) 0 (Nat.zero_le _)
      have hplace : (text ++ input).length % 64 =
          0 + (rest 64 (input.drop (64 - text.length % 64))).length := by
        rw [← length_rest, hleft, Nat.zero_add]
      rw [hbuffer, hrun.2, hplace, hcopied, hleft, List.take_zero, List.nil_append]
  · rename_i hshort
    have hlt : (rest 64 text ++ input).length < 64 := by
      rw [List.length_append]
      omega
    have hplace : (text ++ input).length % 64 = text.length % 64 + input.length := by
      rw [List.length_append]
      omega
    constructor
    · rw [blocks_append (by decide), blocks_of_lt hlt, List.append_nil]
      exact h.state
    · exact hcount
    · rw [length_memcpy (by omega)]
      exact hsize
    · rw [hplace, take_memcpy (by omega), hpending, rest_append (by decide), rest_of_lt hlt]

/-! ## The digest of a text -/

/-- A one, zeros up to 56 mod 64, and the length in bits, least significant octet first. -/
def pad (len : Nat) : List UInt8 :=
  0x80 :: List.replicate ((119 - len % 64) % 64) 0 ++
    (List.range 8).map fun i => UInt8.ofNat (8 * len / 256 ^ i)

/-- The MD5 digest as a function of the whole text. -/
def md5 (text : List UInt8) : List UInt8 :=
  let state := (blocks 64 (text ++ pad text.length)).foldl md5Transform initialState
  encode [state.a, state.b, state.c, state.d]

theorem toUInt8_shiftRight (w : UInt32) {k : UInt32} (hk : k.toNat < 32) {m : Nat}
    (h : w.toNat / 2 ^ k.toNat % 256 = m % 256) : (w >>> k).toUInt8 = UInt8.ofNat m := by
  apply UInt8.toNat_inj.mp
  rw [UInt32.toNat_toUInt8, UInt32.toNat_shiftRight, UInt8.toNat_ofNat', Nat.mod_eq_of_lt hk,
    Nat.shiftRight_eq_div_pow]
  exact h

/-- What `MD5Final` appends is the number of bits. -/
theorem encode_count {count : UInt32 × UInt32} {len : Nat} (h : bitCount count = 8 * len % 2 ^ 64) :
    encode [count.1, count.2] = (List.range 8).map fun i => UInt8.ofNat (8 * len / 256 ^ i) := by
  have h₁ := count.1.toNat_lt
  have h₂ := count.2.toNat_lt
  rw [bitCount] at h
  have hoctets : (List.range 8).map (fun i => UInt8.ofNat (8 * len / 256 ^ i)) =
      [UInt8.ofNat (8 * len), UInt8.ofNat (8 * len / 2 ^ 8), UInt8.ofNat (8 * len / 2 ^ 16),
        UInt8.ofNat (8 * len / 2 ^ 24), UInt8.ofNat (8 * len / 2 ^ 32),
        UInt8.ofNat (8 * len / 2 ^ 40), UInt8.ofNat (8 * len / 2 ^ 48),
        UInt8.ofNat (8 * len / 2 ^ 56)] := by
    simp [List.range_succ]
  have hlow : count.1.toUInt8 = UInt8.ofNat (8 * len) := by
    apply UInt8.toNat_inj.mp
    rw [UInt32.toNat_toUInt8, UInt8.toNat_ofNat']
    omega
  have hhigh : count.2.toUInt8 = UInt8.ofNat (8 * len / 2 ^ 32) := by
    apply UInt8.toNat_inj.mp
    rw [UInt32.toNat_toUInt8, UInt8.toNat_ofNat']
    omega
  rw [hoctets, encode, List.flatMap_cons, List.flatMap_cons, List.flatMap_nil, hlow, hhigh,
    toUInt8_shiftRight count.1 (by decide) (m := 8 * len / 2 ^ 8) (by simp; omega),
    toUInt8_shiftRight count.1 (by decide) (m := 8 * len / 2 ^ 16) (by simp; omega),
    toUInt8_shiftRight count.1 (by decide) (m := 8 * len / 2 ^ 24) (by simp; omega),
    toUInt8_shiftRight count.2 (by decide) (m := 8 * len / 2 ^ 40) (by simp; omega),
    toUInt8_shiftRight count.2 (by decide) (m := 8 * len / 2 ^ 48) (by simp; omega),
    toUInt8_shiftRight count.2 (by decide) (m := 8 * len / 2 ^ 56) (by simp; omega)]
  rfl

theorem padding_take {len : Nat} :
    padding.take (if len % 64 < 56 then 56 - len % 64 else 120 - len % 64) =
      0x80 :: List.replicate ((119 - len % 64) % 64) 0 := by
  have hcount : (if len % 64 < 56 then 56 - len % 64 else 120 - len % 64) =
      (119 - len % 64) % 64 + 1 := by split <;> omega
  rw [hcount, padding, List.take_succ_cons, List.take_replicate, Nat.min_eq_left (by omega)]

theorem Absorbed.final {text : List UInt8} {context : Ctx} (h : Absorbed text context) :
    md5Final context = md5 text := by
  have hindex : index context.count = text.length % 64 := index_eq h.count
  have hpad : (padding.take (if text.length % 64 < 56 then 56 - text.length % 64
      else 120 - text.length % 64)).length < 2 ^ 31 := by
    rw [List.length_take, padding, List.length_cons, List.length_replicate]
    omega
  have hbits : (encode [context.count.1, context.count.2]).length < 2 ^ 31 := by
    change 8 < 2 ^ 31
    decide
  have hstate := ((h.update hpad).update hbits).state
  rw [padding_take, encode_count h.count, List.append_assoc] at hstate
  simp only [md5Final, hindex, md5, pad]
  rw [padding_take, encode_count h.count, hstate]

/-- The keyed digest of RFC-2104. -/
def hmac (text key : List UInt8) : List UInt8 :=
  let key := if 64 < key.length then md5 key else key
  let padded := key ++ List.replicate (64 - key.length) 0
  md5 (padded.map (· ^^^ 0x5c) ++ md5 (padded.map (· ^^^ 0x36) ++ text))

theorem length_md5 (text : List UInt8) : (md5 text).length = 16 := rfl

theorem absorbed_pieces {text : List UInt8} {pieces : List (List UInt8)} {context : Ctx}
    (h : Absorbed text context) (hbound : ∀ piece ∈ pieces, piece.length < 2 ^ 31) :
    Absorbed (text ++ pieces.flatten) (pieces.foldl md5Update context) := by
  induction pieces generalizing text context with
  | nil => simpa using h
  | cons piece pieces ih =>
    have hnext := ih (h.update (hbound piece List.mem_cons_self)) fun piece hpiece =>
      hbound piece (List.mem_cons_of_mem _ hpiece)
    rwa [List.append_assoc] at hnext

/-- A key of at most 64 octets in the pads, whose last octet is not used. -/
theorem pad_take {key : List UInt8} (h : key.length ≤ 64) (c : UInt8) :
    (((memcpy (List.replicate 65 0) 0 key).take 64).map (· ^^^ c) ++
        (memcpy (List.replicate 65 0) 0 key).drop 64).take 64 =
      (key ++ List.replicate (64 - key.length) 0).map (· ^^^ c) := by
  have hfilled : (memcpy (List.replicate 65 0) 0 key).take 64 =
      key ++ List.replicate (64 - key.length) 0 := by
    rw [memcpy, List.take_zero, List.nil_append, List.drop_replicate, Nat.zero_add,
      List.take_append, List.take_of_length_le h, List.take_replicate, Nat.min_eq_left (by omega)]
  rw [hfilled]
  apply List.take_left'
  simp
  omega

theorem hmacMd5_eq {tctx context : Ctx} (htctx : tctx.buffer.length = 64)
    (hcontext : context.buffer.length = 64) {text key : List UInt8} (htext : text.length < 2 ^ 31)
    (hkey : key.length < 2 ^ 31) : hmacMd5 tctx context text key = hmac text key := by
  have hreset : (if 64 < key.length then md5Final (md5Update (md5Init tctx) key) else key) =
      if 64 < key.length then md5 key else key := by
    rw [((absorbed_init htctx).update hkey).final, List.nil_append]
  have hshort : (if 64 < key.length then md5 key else key).length ≤ 64 := by
    split
    · rw [length_md5]
      decide
    · omega
  simp only [hmacMd5, hmac, hreset]
  generalize (if 64 < key.length then md5 key else key) = k at hshort ⊢
  rw [pad_take hshort, pad_take hshort]
  have hpad : ∀ c : UInt8,
      ((k ++ List.replicate (64 - k.length) 0).map (· ^^^ c)).length < 2 ^ 31 := by
    intro c
    simp
    omega
  have hinner := ((absorbed_init hcontext).update (hpad 0x36)).update htext
  have houter := (absorbed_init hinner.size).update (hpad 0x5c)
  rw [hinner.final, List.nil_append, (houter.update (by rw [length_md5]; decide)).final,
    List.nil_append]

/-- A text may be given in pieces, and what the contexts hold before makes no difference. -/
theorem digests_of_whole_texts {tctx context : Ctx} (htctx : tctx.buffer.length = 64)
    (hcontext : context.buffer.length = 64) :
    (∀ pieces : List (List UInt8), (∀ piece ∈ pieces, piece.length < 2 ^ 31) →
      md5Final (pieces.foldl md5Update (md5Init context)) = md5 pieces.flatten) ∧
    ∀ text key : List UInt8, text.length < 2 ^ 31 → key.length < 2 ^ 31 →
      hmacMd5 tctx context text key = hmac text key := by
  constructor
  · intro pieces hbound
    have hall := absorbed_pieces (absorbed_init hcontext) hbound
    rw [hall.final, List.nil_append]
  · intro text key htext hkey
    exact hmacMd5_eq htctx hcontext htext hkey

/-- A context as it may lie on the stack. -/
def stackContext : Ctx := ⟨⟨0, 0, 0, 0⟩, (0, 0), List.replicate 64 0⟩

theorem digests_of_sample_texts :
    md5Final ([[109, 115], [], [116, 112]].foldl md5Update (md5Init stackContext)) =
        md5 [109, 115, 116, 112] ∧
      hmacMd5 stackContext stackContext [109, 115, 116, 112] hmacKey =
        hmac [109, 115, 116, 112] hmacKey := by
  have hsize : stackContext.buffer.length = 64 := rfl
  have hboth := digests_of_whole_texts hsize hsize
  exact ⟨hboth.1 [[109, 115], [], [116, 112]] (by decide),
    hboth.2 [109, 115, 116, 112] hmacKey (by decide) (by decide)⟩

/-- The first test of RFC-2104 in `MD5TestSuite`. -/
example : hmacMd5 stackContext stackContext [72, 105, 32, 84, 104, 101, 114, 101]
    (List.replicate 16 0x0B) = [0x92, 0x94, 0x72, 0x7a, 0x36, 0x38, 0xbb, 0x1c,
      0x13, 0xf4, 0x8e, 0xf8, 0x15, 0x8b, 0xfc, 0x9d] := by decide +kernel

/-! ## Equal digests -/

/-- What the transforms of a digest are applied to. -/
def transforms (text : List UInt8) : List (Words × List UInt8) :=
  inputs md5Transform initialState (blocks 64 (text ++ pad text.length))

/-- What the transforms of a keyed digest are applied to. -/
def hmacTransforms (text key : List UInt8) : List (Words × List UInt8) :=
  let key := if 64 < key.length then md5 key else key
  let padded := key ++ List.replicate (64 - key.length) 0
  transforms (padded.map (· ^^^ 0x36) ++ text) ++
    transforms (padded.map (· ^^^ 0x5c) ++ md5 (padded.map (· ^^^ 0x36) ++ text))

theorem word_eq {w w' : UInt32} (h₀ : w.toUInt8 = w'.toUInt8)
    (h₁ : (w >>> 8).toUInt8 = (w' >>> 8).toUInt8) (h₂ : (w >>> 16).toUInt8 = (w' >>> 16).toUInt8)
    (h₃ : (w >>> 24).toUInt8 = (w' >>> 24).toUInt8) : w = w' := by
  have hw := w.toNat_lt
  have hw' := w'.toNat_lt
  have octet : ∀ k : UInt32, (w >>> k).toUInt8 = (w' >>> k).toUInt8 →
      w.toNat / 2 ^ (k.toNat % 32) % 256 = w'.toNat / 2 ^ (k.toNat % 32) % 256 := by
    intro k h
    simpa [Nat.shiftRight_eq_div_pow] using congrArg UInt8.toNat h
  have g₀ : w.toNat % 256 = w'.toNat % 256 := by simpa using congrArg UInt8.toNat h₀
  have g₁ : w.toNat / 256 % 256 = w'.toNat / 256 % 256 := octet 8 h₁
  have g₂ : w.toNat / 65536 % 256 = w'.toNat / 65536 % 256 := octet 16 h₂
  have g₃ : w.toNat / 16777216 % 256 = w'.toNat / 16777216 % 256 := octet 24 h₃
  apply UInt32.toNat_inj.mp
  omega

theorem encode_injective {l l' : List UInt32} (h : encode l = encode l') : l = l' := by
  induction l generalizing l' with
  | nil =>
    cases l' with
    | nil => rfl
    | cons w' l' => cases h
  | cons w l ih =>
    cases l' with
    | nil => cases h
    | cons w' l' =>
      have hall : [w.toUInt8, (w >>> 8).toUInt8, (w >>> 16).toUInt8, (w >>> 24).toUInt8] ++
          encode l = [w'.toUInt8, (w' >>> 8).toUInt8, (w' >>> 16).toUInt8, (w' >>> 24).toUInt8] ++
            encode l' := h
      obtain ⟨hword, hrest⟩ := List.append_inj hall rfl
      simp only [List.cons.injEq, and_true] at hword
      rw [word_eq hword.1 hword.2.1 hword.2.2.1 hword.2.2.2, ih hrest]

theorem length_padded (text : List UInt8) : (text ++ pad text.length).length % 64 = 0 := by
  simp only [pad, List.length_append, List.length_cons, List.length_replicate, List.length_map,
    List.length_range]
  omega

/-- The last block ends with the length. -/
theorem last_block (text : List UInt8) : ∃ bs b, blocks 64 (text ++ pad text.length) = bs ++ [b] ∧
    b.drop 56 = (List.range 8).map fun i => UInt8.ofNat (8 * text.length / 256 ^ i) := by
  have hwhole := flatten_blocks (length_padded text)
  rcases List.eq_nil_or_concat (blocks 64 (text ++ pad text.length)) with hnil | ⟨bs, b, hlast⟩
  · rw [hnil] at hwhole
    simp [pad] at hwhole
  · rw [List.concat_eq_append] at hlast
    have hmem : b ∈ blocks 64 (text ++ pad text.length) := by
      rw [hlast]
      exact List.mem_append_right _ List.mem_cons_self
    have hb : b.length = 64 := length_of_mem_blocks hmem
    refine ⟨bs, b, hlast, ?_⟩
    have hends : (bs.flatten ++ b.take 56) ++ b.drop 56 =
        (text ++ (0x80 :: List.replicate ((119 - text.length % 64) % 64) 0)) ++
          (List.range 8).map fun i => UInt8.ofNat (8 * text.length / 256 ^ i) := by
      rw [hlast, List.flatten_append, List.flatten_singleton, pad] at hwhole
      rw [List.append_assoc, List.take_append_drop, List.append_assoc]
      exact hwhole
    have hlengths : (b.drop 56).length =
        ((List.range 8).map fun i => UInt8.ofNat (8 * text.length / 256 ^ i)).length := by
      rw [List.length_drop, List.length_map, List.length_range, hb]
    exact (List.append_inj' hends hlengths).2

/-- By induction on the number of octets, from the least significant one. -/
theorem mod_eq_of_octets {n n' k : Nat} (h : ∀ i < k, n / 256 ^ i % 256 = n' / 256 ^ i % 256) :
    n % 256 ^ k = n' % 256 ^ k := by
  induction k with
  | zero => rw [Nat.pow_zero, Nat.mod_one, Nat.mod_one]
  | succ k ih =>
    rw [Nat.mod_pow_succ, Nat.mod_pow_succ, ih fun i hi => h i (Nat.lt_succ_of_lt hi),
      h k (Nat.lt_succ_self k)]

theorem length_eq {len len' : Nat} (hbound : len < 2 ^ 61) (hbound' : len' < 2 ^ 61)
    (h : ((List.range 8).map fun i => UInt8.ofNat (8 * len / 256 ^ i)) =
      (List.range 8).map fun i => UInt8.ofNat (8 * len' / 256 ^ i)) : len = len' := by
  have octet : ∀ i < 8, 8 * len / 256 ^ i % 256 = 8 * len' / 256 ^ i % 256 := by
    intro i hi
    have hentry := List.map_inj_left.mp h i (List.mem_range.mpr hi)
    simpa using congrArg UInt8.toNat hentry
  have hall := mod_eq_of_octets octet
  rw [Nat.mod_eq_of_lt (by omega), Nat.mod_eq_of_lt (by omega)] at hall
  omega

/-- Texts of one length have one padding; different lengths show in the last block. -/
theorem md5_eq_or_collide {text text' : List UInt8} (hbound : text.length < 2 ^ 61)
    (hbound' : text'.length < 2 ^ 61) (h : md5 text = md5 text') :
    text = text' ∨ Collide md5Transform (transforms text) (transforms text') := by
  have hstate : (blocks 64 (text ++ pad text.length)).foldl md5Transform initialState =
      (blocks 64 (text' ++ pad text'.length)).foldl md5Transform initialState := by
    have hwords := encode_injective h
    simp only [List.cons.injEq, and_true] at hwords
    generalize (blocks 64 (text ++ pad text.length)).foldl md5Transform initialState = w at hwords ⊢
    generalize (blocks 64 (text' ++ pad text'.length)).foldl md5Transform initialState = w'
      at hwords ⊢
    cases w
    cases w'
    simpa using hwords
  have hwhole := flatten_blocks (length_padded text)
  have hwhole' := flatten_blocks (length_padded text')
  by_cases hlength : text.length = text'.length
  · have hcount : (blocks 64 (text ++ pad text.length)).length =
        (blocks 64 (text' ++ pad text'.length)).length := by
      rw [length_blocks, length_blocks, List.length_append, List.length_append, hlength]
    rcases eq_or_collide hcount hstate with ⟨-, hblocks⟩ | hcollide
    · rw [hblocks, hwhole'] at hwhole
      exact Or.inl (List.append_inj hwhole hlength.symm).1.symm
    · exact Or.inr hcollide
  · obtain ⟨bs, b, hblocks, hb⟩ := last_block text
    obtain ⟨bs', b', hblocks', hb'⟩ := last_block text'
    have hne : b ≠ b' := by
      rintro rfl
      exact hlength (length_eq hbound hbound' (hb.symm.trans hb'))
    rw [transforms, transforms]
    rw [hblocks, hblocks'] at hstate ⊢
    exact Or.inr (collide_concat hne hstate)

/-- Equal keyed digests collide in the outer digest, or in the inner one. -/
theorem hmac_eq_or_collide {text text' key : List UInt8} (hbound : text.length < 2 ^ 60)
    (hbound' : text'.length < 2 ^ 60) (h : hmac text key = hmac text' key) :
    text = text' ∨ Collide md5Transform (hmacTransforms text key) (hmacTransforms text' key) := by
  have hshort : (if 64 < key.length then md5 key else key).length ≤ 64 := by
    split
    · rw [length_md5]
      decide
    · omega
  simp only [hmac, hmacTransforms] at h ⊢
  generalize (if 64 < key.length then md5 key else key) = k at h hshort ⊢
  have hpad : ∀ c : UInt8, ((k ++ List.replicate (64 - k.length) 0).map (· ^^^ c)).length = 64 := by
    intro c
    simp
    omega
  generalize ho : (k ++ List.replicate (64 - k.length) 0).map (· ^^^ 0x5c) = outer at h ⊢
  generalize hi : (k ++ List.replicate (64 - k.length) 0).map (· ^^^ 0x36) = inner at h ⊢
  have houter : outer.length = 64 := ho ▸ hpad 0x5c
  have hinner : inner.length = 64 := hi ▸ hpad 0x36
  have hdigest : ∀ t, (outer ++ md5 t).length < 2 ^ 61 := by
    intro t
    rw [List.length_append, houter, length_md5]
    decide
  rcases md5_eq_or_collide (hdigest _) (hdigest _) h with hsame | hcollide
  · have hfirst : md5 (inner ++ text) = md5 (inner ++ text') := List.append_cancel_left hsame
    rcases md5_eq_or_collide (by simp [hinner]; omega) (by simp [hinner]; omega) hfirst with
      htext | hcollide
    · exact Or.inl (List.append_cancel_left htext)
    · exact Or.inr (hcollide.mono (List.subset_append_left _ _) (List.subset_append_left _ _))
  · exact Or.inr (hcollide.mono (List.subset_append_right _ _) (List.subset_append_right _ _))

/-! ## Regions -/

theorem be16_injective {n n' : UInt16} (h : be16 n = be16 n') : n = n' := by
  simp only [be16, List.cons.injEq, and_true] at h
  have hn := n.toNat_lt
  have hn' := n'.toNat_lt
  have hhigh : n.toNat / 256 % 256 = n'.toNat / 256 % 256 := by
    simpa [Nat.shiftRight_eq_div_pow] using congrArg UInt8.toNat h.1
  have hlow : n.toNat % 256 = n'.toNat % 256 := by simpa using congrArg UInt8.toNat h.2
  apply UInt16.toNat_inj.mp
  omega

/-- Entries of one size can be told apart in a table. -/
theorem entry_eq_of_flatMap_eq {α β : Type} {f g : α → List β} {n : Nat}
    (hf : ∀ x, (f x).length = n) (hg : ∀ x, (g x).length = n) {l : List α}
    (h : l.flatMap f = l.flatMap g) {x : α} (hx : x ∈ l) : f x = g x := by
  induction l with
  | nil => cases hx
  | cons y l ih =>
    rw [List.flatMap_cons, List.flatMap_cons] at h
    obtain ⟨hfirst, hrest⟩ := List.append_inj h (by rw [hf, hg])
    rcases List.mem_cons.mp hx with rfl | hx
    · exact hfirst
    · exact ih hrest hx

theorem mstConfigTable_injective {f g : Nat → UInt16} (h : mstConfigTable f = mstConfigTable g)
    {vid : Nat} (hone : 1 ≤ vid) (hmax : vid ≤ maxVid) : f vid = g vid := by
  have hin : 1 ≤ vid ∧ vid ≤ 4094 := ⟨hone, hmax⟩
  have hmem : vid ∈ List.range 4096 := List.mem_range.mpr (by omega)
  rw [mstConfigTable, mstConfigTable] at h
  have hentry := entry_eq_of_flatMap_eq (n := 2) (fun _ => rfl) (fun _ => rfl) h hmem
  rw [if_pos hin, if_pos hin] at hentry
  exact be16_injective hentry

theorem length_mstConfigTable (f : Nat → UInt16) : (mstConfigTable f).length = 8192 := by
  have htwo : ∀ vid, (be16 (if 1 ≤ vid ∧ vid ≤ 4094 then f vid else 0)).length = 2 :=
    fun _ => rfl
  have hall : ∀ n, ((List.range n).flatMap fun vid =>
      be16 (if 1 ≤ vid ∧ vid ≤ 4094 then f vid else 0)).length = 2 * n := by
    intro n
    induction n with
    | zero => rfl
    | succ n ih =>
      rw [List.range_succ, List.flatMap_append, List.length_append, ih,
        List.flatMap_singleton, htwo]
      omega
  exact hall 4096

theorem length_configuredName (macaddr : BitVec 48) (ops : List Op) :
    (configuredName macaddr ops).length = 32 := by
  induction ops with
  | nil => rfl
  | cons op ops ih =>
    cases op with
    | setMstConfigId revision name =>
      have hcut : (cName name).length ≤ 32 := by
        rw [cName]
        apply Nat.le_trans (List.takeWhile_sublist _).length_le
        rw [List.length_map, List.length_range]
      rw [configuredName, paddedName, List.length_append, List.length_replicate]
      omega
    | _ => exact ih

/-- Bridges with one MST Configuration Identifier have one name, one revision and one allocation of
VIDs to MSTIs, or their two digests exhibit a collision of the transform. -/
theorem region_shares_allocation {tctx context : Ctx} (htctx : tctx.buffer.length = 64)
    (hcontext : context.buffer.length = 64) {macaddr macaddr' : BitVec 48} {ops ops' : List Op}
    {br br' : Bridge} (h : Ran (hmacMd5 tctx context) macaddr ops br)
    (h' : Ran (hmacMd5 tctx context) macaddr' ops' br')
    (hid : br.mstConfigId.a = br'.mstConfigId.a) :
    configuredName macaddr ops = configuredName macaddr' ops' ∧
      configuredRevision ops = configuredRevision ops' ∧
      ((∀ vid, 1 ≤ vid → vid ≤ maxVid → vid2mstid br vid = vid2mstid br' vid) ∨
        Collide md5Transform (hmacTransforms (mstConfigTable (vid2mstid br)) hmacKey)
          (hmacTransforms (mstConfigTable (vid2mstid br')) hmacKey)) := by
  obtain ⟨hfit, hname⟩ := h.identifier
  obtain ⟨hfit', hname'⟩ := h'.identifier
  simp only [nameAndRevision, Prod.mk.injEq] at hname hname'
  rw [MstConfigurationIdentifier.a, MstConfigurationIdentifier.a, hname.1, hname.2.1, hname.2.2,
    hname'.1, hname'.2.1, hname'.2.2, hfit.digest, hfit'.digest] at hid
  have hparts := (List.cons.inj hid).2
  rw [List.append_assoc, List.append_assoc] at hparts
  obtain ⟨hnames, hlast⟩ := List.append_inj hparts
    (by rw [length_configuredName, length_configuredName])
  obtain ⟨hrevisions, hdigests⟩ := List.append_inj hlast rfl
  have htable : ∀ f, (mstConfigTable f).length < 2 ^ 31 := by
    intro f
    rw [length_mstConfigTable]
    decide
  have hkey : hmacKey.length < 2 ^ 31 := by decide
  rw [hmacMd5_eq htctx hcontext (htable _) hkey,
    hmacMd5_eq htctx hcontext (htable _) hkey] at hdigests
  refine ⟨hnames, be16_injective hrevisions, ?_⟩
  rcases hmac_eq_or_collide (by rw [length_mstConfigTable]; decide)
    (by rw [length_mstConfigTable]; decide) hdigests with htables | hcollide
  · exact Or.inl fun vid hone hmax => mstConfigTable_injective htables hone hmax
  · exact Or.inr hcollide

/-- The environment of the sample runs with the digest function of the source. -/
def digestEnv : Env := { sampleEnv with hmacMd5 := hmacMd5 stackContext stackContext }

theorem sample_regions_share_allocation : ∃ br br',
    Ran digestEnv.hmacMd5 0x020000000001 nameFirst.reverse br ∧
    Ran digestEnv.hmacMd5 0x020000000002 nameLast.reverse br' ∧ vid2mstid br 5 = 1 ∧
    ((∀ vid, 1 ≤ vid → vid ≤ maxVid → vid2mstid br vid = vid2mstid br' vid) ∨
      Collide md5Transform (hmacTransforms (mstConfigTable (vid2mstid br)) hmacKey)
        (hmacTransforms (mstConfigTable (vid2mstid br')) hmacKey)) := by
  have hrun : (execAll digestEnv nameFirst (mstpInBridgeCreate digestEnv 0x020000000001)).any
      (fun br => (execAll digestEnv nameLast (mstpInBridgeCreate digestEnv 0x020000000002)).any
        fun br' => vid2mstid br 5 == 1 &&
          (List.range 4095).all fun vid => vid2mstid br vid == vid2mstid br' vid) = true := by
    decide +kernel
  obtain ⟨br, hbr, hrun⟩ := (Option.any_eq_true _ _).mp hrun
  obtain ⟨br', hbr', hrun⟩ := (Option.any_eq_true _ _).mp hrun
  simp only [Bool.and_eq_true, beq_iff_eq, List.all_eq_true, List.mem_range] at hrun
  have h : Ran digestEnv.hmacMd5 0x020000000001 nameFirst.reverse br := by
    simpa using (Ran.create rfl).execAll rfl hbr
  have h' : Ran digestEnv.hmacMd5 0x020000000002 nameLast.reverse br' := by
    simpa using (Ran.create rfl).execAll rfl hbr'
  obtain ⟨hfit, hname⟩ := h.identifier
  obtain ⟨hfit', hname'⟩ := h'.identifier
  simp only [nameAndRevision, Prod.mk.injEq] at hname hname'
  have htable : mstConfigTable (vid2mstid br) = mstConfigTable (vid2mstid br') :=
    mstConfigTable_congr fun vid _ hle => hrun.2 vid (Nat.lt_succ_of_le hle)
  have hid : br.mstConfigId.a = br'.mstConfigId.a := by
    rw [MstConfigurationIdentifier.a, MstConfigurationIdentifier.a, hname.1, hname.2.1, hname.2.2,
      hname'.1, hname'.2.1, hname'.2.2, hfit.digest, hfit'.digest, htable]
    rfl
  exact ⟨br, br', h, h', hrun.1, (region_shares_allocation rfl rfl h h' hid).2.2⟩

end Mstpd.Md5
