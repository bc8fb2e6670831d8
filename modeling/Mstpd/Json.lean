import Mathlib.Tactic.Common

/-!
# The syntax of JSON texts

The grammar of values, and a scan that counts the square brackets outside of strings. In a JSON
text they are balanced.
-/

namespace Json

def IsWs (s : List Char) : Prop := ∀ c ∈ s, c ∈ [' ', '\t', '\n', '\r']

def isHex (c : Char) : Bool :=
  c.isDigit || decide ('a' ≤ c ∧ c ≤ 'f') || decide ('A' ≤ c ∧ c ≤ 'F')

/-- What may stand between the quotes of a string. -/
inductive IsChars : List Char → Prop
  | nil : IsChars []
  | plain {c : Char} {s : List Char} :
    c ≠ '"' → c ≠ '\\' → ' ' ≤ c → IsChars s → IsChars (c :: s)
  | escape {c : Char} {s : List Char} :
    c ∈ ['"', '\\', '/', 'b', 'f', 'n', 'r', 't'] → IsChars s → IsChars ('\\' :: c :: s)
  | unicode {a b c d : Char} {s : List Char} :
    isHex a = true → isHex b = true → isHex c = true → isHex d = true → IsChars s →
      IsChars ('\\' :: 'u' :: a :: b :: c :: d :: s)

def IsString (s : List Char) : Prop := ∃ chars, IsChars chars ∧ s = '"' :: chars ++ ['"']

def IsDigits (s : List Char) : Prop := s ≠ [] ∧ ∀ c ∈ s, c.isDigit = true

def IsInt (s : List Char) : Prop := s = ['0'] ∨ IsDigits s ∧ s.head? ≠ some '0'

def IsFraction (s : List Char) : Prop := s = [] ∨ ∃ digits, IsDigits digits ∧ s = '.' :: digits

def IsExponent (s : List Char) : Prop :=
  s = [] ∨ ∃ e sign digits, e ∈ ['e', 'E'] ∧ sign ∈ [[], ['+'], ['-']] ∧ IsDigits digits ∧
    s = e :: sign ++ digits

def IsNumber (s : List Char) : Prop :=
  ∃ minus int fraction exponent, minus ∈ [[], ['-']] ∧ IsInt int ∧ IsFraction fraction ∧
    IsExponent exponent ∧ s = minus ++ int ++ fraction ++ exponent

def IsWord (s : List Char) : Prop :=
  s = "null".toList ∨ s = "true".toList ∨ s = "false".toList

inductive Phrase
  | value | elements | members

/-- The grammar of values, and of what stands between brackets and between braces. -/
inductive Derives : Phrase → List Char → Prop
  | word {s : List Char} : IsWord s → Derives .value s
  | number {s : List Char} : IsNumber s → Derives .value s
  | string {s : List Char} : IsString s → Derives .value s
  | emptyArray {w : List Char} : IsWs w → Derives .value ('[' :: w ++ [']'])
  | array {s : List Char} : Derives .elements s → Derives .value ('[' :: s ++ [']'])
  | emptyObject {w : List Char} : IsWs w → Derives .value ('\x7b' :: w ++ ['\x7d'])
  | object {s : List Char} : Derives .members s → Derives .value ('\x7b' :: s ++ ['\x7d'])
  | element {w s w' : List Char} :
    IsWs w → Derives .value s → IsWs w' → Derives .elements (w ++ s ++ w')
  | elements {w s w' rest : List Char} :
    IsWs w → Derives .value s → IsWs w' → Derives .elements rest →
      Derives .elements (w ++ s ++ w' ++ ',' :: rest)
  | member {w key w' v s v' : List Char} :
    IsWs w → IsString key → IsWs w' → IsWs v → Derives .value s → IsWs v' →
      Derives .members (w ++ key ++ w' ++ ':' :: v ++ s ++ v')
  | members {w key w' v s v' rest : List Char} :
    IsWs w → IsString key → IsWs w' → IsWs v → Derives .value s → IsWs v' →
      Derives .members rest →
      Derives .members (w ++ key ++ w' ++ ':' :: v ++ s ++ v' ++ ',' :: rest)

/-- A whole text. -/
def IsText (s : List Char) : Prop :=
  ∃ w value w', IsWs w ∧ Derives .value value ∧ IsWs w' ∧ s = w ++ value ++ w'

/-! ## Balanced brackets -/

inductive Mode
  | outside | inside | escaped
  deriving DecidableEq

/-- Where the scan is, and how many brackets are open. -/
structure Scanner where
  mode : Mode
  opened : Int
  deriving DecidableEq

def Scanner.next (s : Scanner) (c : Char) : Scanner :=
  match s.mode with
  | .outside =>
    if c = '"' then { s with mode := .inside }
    else if c = '[' then { s with opened := s.opened + 1 }
    else if c = ']' then { s with opened := s.opened - 1 }
    else s
  | .inside =>
    if c = '"' then { s with mode := .outside }
    else if c = '\\' then { s with mode := .escaped }
    else s
  | .escaped => { s with mode := .inside }

def Scanner.run (s : Scanner) (text : List Char) : Scanner := text.foldl Scanner.next s

section Scan

variable {n : Int} {s : List Char}

@[simp] theorem run_nil (σ : Scanner) : σ.run [] = σ := rfl

theorem run_cons {σ : Scanner} {c : Char} {s : List Char} : σ.run (c :: s) = (σ.next c).run s := rfl

theorem run_append (σ : Scanner) (s t : List Char) : σ.run (s ++ t) = (σ.run s).run t :=
  List.foldl_append

/-- Outside of strings only quotes and brackets count. -/
theorem run_outside (h : ∀ c ∈ s, c ≠ '"' ∧ c ≠ '[' ∧ c ≠ ']') :
    Scanner.run ⟨.outside, n⟩ s = ⟨.outside, n⟩ := by
  induction s with
  | nil => rfl
  | cons c s ih =>
    obtain ⟨hquote, hopen, hclose⟩ := h c List.mem_cons_self
    have hnext : Scanner.next ⟨.outside, n⟩ c = ⟨.outside, n⟩ := by
      simp only [Scanner.next, if_neg hquote, if_neg hopen, if_neg hclose]
    rw [run_cons, hnext]
    exact ih fun c' hc' => h c' (List.mem_cons_of_mem c hc')

/-- In a string only quotes and backslashes count. -/
theorem run_inside (h : ∀ c ∈ s, c ≠ '"' ∧ c ≠ '\\') :
    Scanner.run ⟨.inside, n⟩ s = ⟨.inside, n⟩ := by
  induction s with
  | nil => rfl
  | cons c s ih =>
    obtain ⟨hquote, hescape⟩ := h c List.mem_cons_self
    have hnext : Scanner.next ⟨.inside, n⟩ c = ⟨.inside, n⟩ := by
      simp only [Scanner.next, if_neg hquote, if_neg hescape]
    rw [run_cons, hnext]
    exact ih fun c' hc' => h c' (List.mem_cons_of_mem c hc')

theorem run_chars (h : IsChars s) : Scanner.run ⟨.inside, n⟩ s = ⟨.inside, n⟩ := by
  induction h with
  | nil => rfl
  | @plain c s hquote hescape _ _ ih =>
    have hnext : Scanner.next ⟨.inside, n⟩ c = ⟨.inside, n⟩ := by
      simp only [Scanner.next, if_neg hquote, if_neg hescape]
    rw [run_cons, hnext, ih]
  | escape _ _ ih => exact ih
  | @unicode a b c d s ha hb hc hd _ ih =>
    have hplain : ∀ c : Char, isHex c = true → c ≠ '"' ∧ c ≠ '\\' := by
      intro c hc
      constructor
      · rintro rfl
        exact absurd hc (by decide)
      · rintro rfl
        exact absurd hc (by decide)
    have hhex : ∀ e ∈ [a, b, c, d], e ≠ '"' ∧ e ≠ '\\' := by
      simp only [List.mem_cons, List.not_mem_nil, or_false]
      rintro e (rfl | rfl | rfl | rfl)
      · exact hplain e ha
      · exact hplain e hb
      · exact hplain e hc
      · exact hplain e hd
    have hstart : Scanner.run ⟨.inside, n⟩ ('\\' :: 'u' :: a :: b :: c :: d :: s) =
        (Scanner.run ⟨.inside, n⟩ [a, b, c, d]).run s := rfl
    rw [hstart, run_inside hhex, ih]

theorem run_string (h : IsString s) : Scanner.run ⟨.outside, n⟩ s = ⟨.outside, n⟩ := by
  obtain ⟨chars, hchars, rfl⟩ := h
  have hopen : Scanner.next ⟨.outside, n⟩ '"' = ⟨.inside, n⟩ := rfl
  rw [List.cons_append, run_cons, hopen, run_append, run_chars hchars]
  rfl

theorem run_ws (h : IsWs s) : Scanner.run ⟨.outside, n⟩ s = ⟨.outside, n⟩ := by
  apply run_outside
  intro c hc
  have hmem := h c hc
  simp only [List.mem_cons, List.not_mem_nil, or_false] at hmem
  rcases hmem with rfl | rfl | rfl | rfl <;> decide

theorem run_digits (h : IsDigits s) : Scanner.run ⟨.outside, n⟩ s = ⟨.outside, n⟩ := by
  apply run_outside
  intro c hc
  have hdigit := h.2 c hc
  refine ⟨?_, ?_, ?_⟩
  all_goals
    rintro rfl
    exact absurd hdigit (by decide)

theorem run_number (h : IsNumber s) : Scanner.run ⟨.outside, n⟩ s = ⟨.outside, n⟩ := by
  obtain ⟨minus, int, fraction, exponent, hminus, hint, hfraction, hexponent, rfl⟩ := h
  have hm : Scanner.run ⟨.outside, n⟩ minus = ⟨.outside, n⟩ := by
    simp only [List.mem_cons, List.not_mem_nil, or_false] at hminus
    rcases hminus with rfl | rfl <;> rfl
  have hi : Scanner.run ⟨.outside, n⟩ int = ⟨.outside, n⟩ := by
    rcases hint with rfl | hint
    · rfl
    · exact run_digits hint.1
  have hf : Scanner.run ⟨.outside, n⟩ fraction = ⟨.outside, n⟩ := by
    rcases hfraction with rfl | ⟨digits, hdigits, rfl⟩
    · rfl
    · have hdigits := run_digits (n := n) hdigits
      exact hdigits
  have he : Scanner.run ⟨.outside, n⟩ exponent = ⟨.outside, n⟩ := by
    rcases hexponent with rfl | ⟨e, sign, digits, hletter, hsign, hdigits, rfl⟩
    · rfl
    · simp only [List.mem_cons, List.not_mem_nil, or_false] at hletter hsign
      have hstart : Scanner.run ⟨.outside, n⟩ (e :: sign) = ⟨.outside, n⟩ := by
        rcases hletter with rfl | rfl <;> rcases hsign with rfl | rfl | rfl <;> rfl
      rw [run_append, hstart, run_digits hdigits]
  rw [run_append, run_append, run_append, hm, hi, hf, he]

theorem run_word (h : IsWord s) : Scanner.run ⟨.outside, n⟩ s = ⟨.outside, n⟩ := by
  apply run_outside
  rcases h with rfl | rfl | rfl <;> simp

theorem run_bracketed {open' close : Char} {k : Int}
    (hopen : Scanner.next ⟨.outside, n⟩ open' = ⟨.outside, k⟩)
    (hs : Scanner.run ⟨.outside, k⟩ s = ⟨.outside, k⟩)
    (hclose : Scanner.next ⟨.outside, k⟩ close = ⟨.outside, n⟩) :
    Scanner.run ⟨.outside, n⟩ (open' :: s ++ [close]) = ⟨.outside, n⟩ := by
  rw [List.cons_append, run_cons, hopen, run_append, hs, run_cons, hclose, run_nil]

theorem run_derives {p : Phrase} (h : Derives p s) :
    ∀ n, Scanner.run ⟨.outside, n⟩ s = ⟨.outside, n⟩ := by
  have hclose : ∀ n : Int, Scanner.next ⟨.outside, n + 1⟩ ']' = ⟨.outside, n⟩ := by
    intro n
    have hone : n + 1 - 1 = n := by omega
    simp [Scanner.next, hone]
  induction h with
  | word h => exact fun n => run_word h
  | number h => exact fun n => run_number h
  | string h => exact fun n => run_string h
  | emptyArray hw => exact fun n => run_bracketed rfl (run_ws hw) (hclose n)
  | array _ ih => exact fun n => run_bracketed rfl (ih (n + 1)) (hclose n)
  | emptyObject hw => exact fun n => run_bracketed rfl (run_ws hw) rfl
  | object _ ih => exact fun n => run_bracketed rfl (ih n) rfl
  | element hw _ hw' ih =>
    intro n
    rw [run_append, run_append, run_ws hw, ih, run_ws hw']
  | elements hw _ hw' _ ih ih' =>
    intro n
    have hcomma : Scanner.next ⟨.outside, n⟩ ',' = ⟨.outside, n⟩ := rfl
    rw [run_append, run_append, run_append, run_ws hw, ih, run_ws hw', run_cons, hcomma, ih']
  | member hw hkey hw' hv _ hv' ih =>
    intro n
    have hcolon : Scanner.next ⟨.outside, n⟩ ':' = ⟨.outside, n⟩ := rfl
    rw [run_append, run_append, run_append, run_append, run_append, run_ws hw, run_string hkey,
      run_ws hw', run_cons, hcolon, run_ws hv, ih, run_ws hv']
  | members hw hkey hw' hv _ hv' _ ih ih' =>
    intro n
    have hcolon : Scanner.next ⟨.outside, n⟩ ':' = ⟨.outside, n⟩ := rfl
    have hcomma : Scanner.next ⟨.outside, n⟩ ',' = ⟨.outside, n⟩ := rfl
    rw [run_append, run_append, run_append, run_append, run_append, run_append, run_ws hw,
      run_string hkey, run_ws hw', run_cons (c := ':'), hcolon, run_ws hv, ih, run_ws hv', run_cons,
      hcomma, ih']

/-- The brackets of a JSON text are balanced. -/
theorem run_text (h : IsText s) : Scanner.run ⟨.outside, n⟩ s = ⟨.outside, n⟩ := by
  obtain ⟨w, value, w', hw, hvalue, hw', rfl⟩ := h
  rw [run_append, run_append, run_ws hw, run_derives hvalue, run_ws hw']

end Scan

example : IsText "[ ]".toList :=
  ⟨[], _, [], nofun, .emptyArray (w := [' ']) (by simp [IsWs]), nofun, rfl⟩

end Json
