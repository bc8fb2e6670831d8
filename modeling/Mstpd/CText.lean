import Mathlib.Algebra.Ring.Int.Defs
import Mathlib.Algebra.Ring.Nat
import Mathlib.Data.List.TakeWhile
import Mathlib.Tactic.Common

/-!
# Numbers in C texts

`strtol` and the `%d` of `sscanf` read an optional sign and decimal digits after blanks. What
`%u` prints they read back. `strtoul` finds out the base for itself.
-/

namespace CText

/-- `isspace` in the C locale. -/
def isSpace (c : Char) : Bool :=
  c == ' ' || c == '\t' || c == '\n' || c == '\x0b' || c == '\x0c' || c == '\r'

/-- Is the number negative, and what follows the sign? -/
def sign : List Char → Bool × List Char
  | '-' :: s => (true, s)
  | '+' :: s => (false, s)
  | s => (false, s)

/-- A `long`, saturated as `strtol` does, converted to an `int`. -/
def toInt (n : Int) : Int := Int.bmod (max (-2 ^ 63) (min n (2 ^ 63 - 1))) (2 ^ 32)

/-- The number at the start of a text and the rest of it. -/
def scanInt (s : List Char) : Option (Int × List Char) :=
  let signed := sign (s.dropWhile isSpace)
  let digits := signed.2.takeWhile Char.isDigit
  let n : Int := Nat.ofDigitChars 10 digits 0
  if digits = [] then none
  else some (toInt (if signed.1 then -n else n), signed.2.dropWhile Char.isDigit)

/-- `strtol` without an end pointer, assigned to an `int`. -/
def strtol (s : List Char) : Int := (scanInt s).elim 0 Prod.fst

/-- `%u`. -/
def decimal (n : Nat) : List Char := Nat.toDigits 10 n

theorem decimal_isDigit {n : Nat} {c : Char} (hc : c ∈ decimal n) : c.isDigit = true :=
  Nat.isDigit_of_mem_toDigits (by decide) (by decide) hc

theorem decimal_ne_nil (n : Nat) : decimal n ≠ [] := Nat.toDigits_ne_nil

theorem decimal_zero : decimal 0 = ['0'] := Nat.toDigits_zero 10

section Scan

variable {n : Nat} {rest : List Char}

theorem takeWhile_decimal (hrest : rest.head?.all (fun c => !c.isDigit) = true) :
    (decimal n ++ rest).takeWhile Char.isDigit = decimal n := by
  rw [List.takeWhile_append_of_pos fun c hc => decimal_isDigit hc]
  cases rest with
  | nil => simp
  | cons c rest =>
    have hc : c.isDigit = false := by simpa using hrest
    rw [List.takeWhile_cons_of_neg (by simp [hc]), List.append_nil]

theorem dropWhile_decimal (hrest : rest.head?.all (fun c => !c.isDigit) = true) :
    (decimal n ++ rest).dropWhile Char.isDigit = rest := by
  rw [List.dropWhile_append_of_pos fun c hc => decimal_isDigit hc]
  cases rest with
  | nil => rfl
  | cons c rest =>
    have hc : c.isDigit = false := by simpa using hrest
    rw [List.dropWhile_cons_of_neg (by simp [hc])]

theorem isDigit_plain {c : Char} (hc : c.isDigit = true) :
    isSpace c = false ∧ c ≠ '-' ∧ c ≠ '+' := by
  refine ⟨?_, ?_, ?_⟩
  · rw [Bool.eq_false_iff]
    intro hspace
    simp only [isSpace, Bool.or_eq_true, beq_iff_eq] at hspace
    rcases hspace with ((((rfl | rfl) | rfl) | rfl) | rfl) | rfl <;> cases hc
  · rintro rfl
    cases hc
  · rintro rfl
    cases hc

/-- What starts with a digit is read as it is. -/
theorem sign_digit {c : Char} (hc : c.isDigit = true) :
    sign ((c :: rest).dropWhile isSpace) = (false, c :: rest) := by
  obtain ⟨hspace, hminus, hplus⟩ := isDigit_plain hc
  rw [List.dropWhile_cons_of_neg (by simp [hspace])]
  rw [sign]
  · exact fun s h => hminus (List.cons.inj h).1
  · exact fun s h => hplus (List.cons.inj h).1

theorem toInt_eq (hn : n < 2 ^ 31) : toInt n = n := by
  rw [toInt]
  have hsaturated : max (-2 ^ 63) (min (n : Int) (2 ^ 63 - 1)) = n := by omega
  rw [hsaturated, Int.bmod_eq_of_le] <;> omega

/-- What `%u` prints is read back, up to where no digit follows. -/
theorem scanInt_decimal (hn : n < 2 ^ 31)
    (hrest : rest.head?.all (fun c => !c.isDigit) = true) :
    scanInt (decimal n ++ rest) = some ((n : Int), rest) := by
  have hvalue : Nat.ofDigitChars 10 (decimal n) 0 = n := Nat.ofDigitChars_ten_toDigits
  have hsign : sign ((decimal n ++ rest).dropWhile isSpace) = (false, decimal n ++ rest) := by
    cases hd : decimal n with
    | nil => exact absurd hd (decimal_ne_nil n)
    | cons c digits =>
      rw [List.cons_append, sign_digit]
      exact decimal_isDigit (n := n) (hd ▸ List.mem_cons_self)
  simp only [scanInt, hsign, takeWhile_decimal hrest, dropWhile_decimal hrest, hvalue]
  rw [if_neg (decimal_ne_nil n), if_neg Bool.false_ne_true, toInt_eq hn]

theorem scanInt_space {s : List Char} : scanInt (' ' :: s) = scanInt s := by
  have hspace : isSpace ' ' = true := by decide
  simp only [scanInt, List.dropWhile_cons_of_pos hspace]

end Scan

/-! ## Numbers in any base -/

/-- A digit, or a letter for a digit from ten on; other characters are no digit of any base. -/
def digitValue (c : Char) : Nat :=
  if c.isDigit then c.toNat - '0'.toNat
  else if c.isLower then c.toNat - 'a'.toNat + 10
  else if c.isUpper then c.toNat - 'A'.toNat + 10
  else 36

/-- The base that a text is written in, and its digits with what follows them. -/
def basePrefix : List Char → Nat × List Char
  | '0' :: x :: c :: s =>
    if (x = 'x' ∨ x = 'X') ∧ digitValue c < 16 then (16, c :: s) else (8, '0' :: x :: c :: s)
  | '0' :: s => (8, '0' :: s)
  | s => (10, s)

/-- `strtoul` with base zero: an `unsigned long`, and where the number ends. -/
def strtoul (s : List Char) : Nat × List Char :=
  let signed := sign (s.dropWhile isSpace)
  let based := basePrefix signed.2
  let isDigit (c : Char) : Bool := decide (digitValue c < based.1)
  let digits := based.2.takeWhile isDigit
  let n := digits.foldl (fun n c => based.1 * n + digitValue c) 0
  if digits = [] then (0, s)
  else
    -- a number that is too great saturates even behind a minus sign
    (if 2 ^ 64 ≤ n then 2 ^ 64 - 1 else if signed.1 then (2 ^ 64 - n) % 2 ^ 64 else n,
      based.2.dropWhile isDigit)

section Typed

variable {n : Nat} {s : List Char}

theorem digitValue_digit {c : Char} (hc : c.isDigit = true) : digitValue c = c.toNat - '0'.toNat :=
  if_pos hc

theorem digitValue_lt_ten {c : Char} (hc : c.isDigit = true) : digitValue c < 10 := by
  rw [digitValue_digit hc]
  obtain ⟨-, hle⟩ := Char.isDigit_iff_toNat.mp hc
  have hnine : c.toNat ≤ 57 := hle
  have hzero : '0'.toNat = 48 := rfl
  omega

/-- No number but zero starts with a zero. -/
theorem decimal_head (hn : 0 < n) : (decimal n).head? ≠ some '0' := by
  induction n using Nat.strongRecOn with
  | ind n ih =>
    by_cases hsmall : n < 10
    · rw [decimal, Nat.toDigits_of_lt_base hsmall]
      intro hhead
      have hzero : n = 0 := Nat.digitChar_eq_zero.mp (Option.some.inj hhead)
      omega
    · have hsplit : decimal n = decimal (n / 10) ++ decimal (n % 10) := by
        have hparts := Nat.toDigits_append_toDigits (b := 10) (by decide) (by omega : 0 < n / 10)
          (Nat.mod_lt n (by decide))
        rw [decimal, decimal, decimal, hparts]
        congr 1
        omega
      rw [hsplit]
      cases hd : decimal (n / 10) with
      | nil => exact absurd hd (decimal_ne_nil _)
      | cons c digits =>
        have hhead := ih (n / 10) (by omega) (by omega)
        rw [hd] at hhead
        exact hhead

theorem foldl_digitValue (hs : ∀ c ∈ s, c.isDigit = true) (a : Nat) :
    s.foldl (fun n c => 10 * n + digitValue c) a = Nat.ofDigitChars 10 s a := by
  induction s generalizing a with
  | nil => rfl
  | cons c s ih =>
    rw [List.foldl_cons, Nat.ofDigitChars_cons, digitValue_digit (hs c List.mem_cons_self)]
    exact ih (fun d hd => hs d (List.mem_cons_of_mem _ hd)) _

theorem basePrefix_decimal (hn : 0 < n) : basePrefix (decimal n) = (10, decimal n) := by
  have hhead := decimal_head hn
  cases hd : decimal n with
  | nil => rfl
  | cons c digits =>
    rw [hd] at hhead
    have hc : c ≠ '0' := fun h => hhead (by rw [h]; rfl)
    rw [basePrefix]
    · rintro x y s heq
      exact hc (List.cons.inj heq).1
    · rintro s heq
      exact hc (List.cons.inj heq).1

/-- The digits of a number are digits of the base that it is read in, and stand for it. -/
theorem basePrefix_number (n : Nat) :
    ∃ base, basePrefix (decimal n) = (base, decimal n) ∧
      (∀ c ∈ decimal n, decide (digitValue c < base) = true) ∧
      (decimal n).foldl (fun n c => base * n + digitValue c) 0 = n := by
  rcases Nat.eq_zero_or_pos n with rfl | hn
  · rw [decimal_zero]
    refine ⟨8, rfl, ?_, rfl⟩
    intro c hc
    rw [List.mem_singleton.mp hc]
    rfl
  · refine ⟨10, basePrefix_decimal hn, ?_, ?_⟩
    · intro c hc
      exact decide_eq_true (digitValue_lt_ten (decimal_isDigit hc))
    · rw [foldl_digitValue fun c hc => decimal_isDigit hc]
      exact Nat.ofDigitChars_ten_toDigits

theorem sign_typed {blanks : List Char} (hblanks : ∀ c ∈ blanks, isSpace c = true) (neg : Bool)
    (n : Nat) :
    sign ((blanks ++ (if neg then '-' :: decimal n else decimal n)).dropWhile isSpace) =
      (neg, decimal n) := by
  rw [List.dropWhile_append_of_pos hblanks]
  cases neg with
  | true => rfl
  | false =>
    cases hd : decimal n with
    | nil => exact absurd hd (decimal_ne_nil n)
    | cons c digits =>
      have hc : c.isDigit = true := decimal_isDigit (n := n) (hd ▸ List.mem_cons_self)
      exact sign_digit hc

/-- A number as people write it is read as a decimal one, up to the end of the text. -/
theorem strtoul_typed {blanks : List Char} (hblanks : ∀ c ∈ blanks, isSpace c = true)
    (neg : Bool) (n : Nat) :
    strtoul (blanks ++ (if neg then '-' :: decimal n else decimal n)) =
      (if 2 ^ 64 ≤ n then 2 ^ 64 - 1 else if neg then (2 ^ 64 - n) % 2 ^ 64 else n, []) := by
  obtain ⟨base, hbase, hdigits, hvalue⟩ := basePrefix_number n
  have htake : (decimal n).takeWhile (fun c => decide (digitValue c < base)) = decimal n :=
    List.takeWhile_eq_self_iff.mpr hdigits
  have hdrop : (decimal n).dropWhile (fun c => decide (digitValue c < base)) = [] :=
    List.dropWhile_eq_nil_iff.mpr hdigits
  simp only [strtoul, sign_typed hblanks, hbase, htake, hdrop, hvalue]
  rw [if_neg (decimal_ne_nil n)]

end Typed

end CText
