import Mstpd.CText
import Mstpd.Intervals
import Mstpd.Types

/-!
# Allocation tables in the control program

`do_showvid2fid_fmt` and `do_showfid2mstid_fmt` print a table value by value. Each turn looks for
the least value left, prints the intervals of its indices and removes them, so the table is used
up. A sentinel behind the last index closes the last interval.
-/

namespace Mstpd.CtlMain

open Intervals CText

inductive OutputFormat
  | plain | json
  deriving DecidableEq

/-- A C array of `__u16`. -/
abbrev Allocation := Nat → UInt16

def Allocation.assign (table : Allocation) (i : Nat) (v : UInt16) : Allocation := fun j =>
  if j = i then v else table j

/-- What the two tables differ in. -/
structure TableLayout where
  title : String
  key : String
  valueLabel : String
  valueKey : String
  indexKey : String
  low : Nat
  high : Nat
  maxValue : Nat
  low_le : low ≤ 1
  le_high : 1 ≤ high
  maxValue_lt : maxValue < 65535

def vidLayout : TableLayout where
  title := " VID-to-FID allocation table:\n"
  key := "vid2fid"
  valueLabel := "FID"
  valueKey := "fid"
  indexKey := "vid"
  low := 1
  high := maxVid
  maxValue := maxFid
  low_le := by decide
  le_high := by decide
  maxValue_lt := by decide

def fidLayout : TableLayout where
  title := " FID-to-MSTID allocation table:\n"
  key := "fid2mstid"
  valueLabel := "MSTID"
  valueKey := "mstid"
  indexKey := "fid"
  low := 0
  high := maxFid
  maxValue := maxMstid
  low_le := by decide
  le_high := by decide
  maxValue_lt := by decide

/-! ## The printer -/

/-- The state of the loop over the indices. -/
structure Scan where
  table : Allocation
  intervalCount : Nat
  firstChar : Char
  out : List Char

/-- The interval of `count` indices that ends before `i`. -/
def showInterval (fmt : OutputFormat) (i count : Nat) : List Char :=
  let last := if 1 < count then '-' :: decimal (i - 1) else []
  match fmt with
  | .plain => decimal (i - count) ++ last
  | .json => '"' :: decimal (i - count) ++ last ++ ['"']

def scanTurn (fmt : OutputFormat) (cur : Nat) (s : Scan) (i : Nat) : Scan :=
  if cur ≠ (s.table i).toNat then
    if s.intervalCount ≠ 0 then
      { s with
        out := s.out ++ s.firstChar :: showInterval fmt i s.intervalCount
        firstChar := ',', intervalCount := 0 }
    else s
  else
    { s with table := s.table.assign i 0xFFFF, intervalCount := s.intervalCount + 1 }

def scanValue (l : TableLayout) (fmt : OutputFormat) (cur : Nat) (table : Allocation) : Scan :=
  (List.range' l.low (l.high + 2 - l.low)).foldl (scanTurn fmt cur) ⟨table, 0, ' ', []⟩

/-- The least value that is left. -/
def leastValue (l : TableLayout) (table : Allocation) : Nat :=
  (List.range' 1 l.high).foldl
    (fun cur i => if (table i).toNat < cur then (table i).toNat else cur) (table l.low).toNat

def lineStart (l : TableLayout) (fmt : OutputFormat) (outCount cur : Nat) : List Char :=
  match fmt with
  | .plain => "  ".toList ++ l.valueLabel.toList ++ ' ' :: decimal cur ++ [':']
  | .json =>
    (if 0 < outCount then [','] else []) ++ "\x7b\"".toList ++ l.valueKey.toList ++
      "\":\"".toList ++ decimal cur ++ "\",\"".toList ++ l.indexKey.toList ++ "\":[".toList

def lineEnd : OutputFormat → List Char
  | .plain => ['\n']
  | .json => "]\x7d".toList

/-- The outer loop, which breaks off when no value is left. -/
def showLoop (l : TableLayout) (fmt : OutputFormat) : Nat → Nat → Allocation → Option (List Char)
  | 0, _, _ => none
  | fuel + 1, outCount, table =>
    let cur := leastValue l table
    if l.maxValue < cur then some []
    else
      let s := scanValue l fmt cur table
      (showLoop l fmt fuel (outCount + 1) s.table).map fun rest =>
        lineStart l fmt outCount cur ++ s.out ++ lineEnd fmt ++ rest

def tableStart (l : TableLayout) (fmt : OutputFormat) (name : List Char) : List Char :=
  match fmt with
  | .plain => name ++ l.title.toList
  | .json => "\x7b\"bridge\":\"".toList ++ name ++ "\",\"".toList ++ l.key.toList ++ "\":[".toList

def tableEnd : OutputFormat → List Char
  | .plain => []
  | .json => ['\x7d']

/-- What both functions do. -/
def showTable (l : TableLayout) (fmt : OutputFormat) (fuel : Nat) (table : Allocation)
    (name : List Char) : Option (List Char) :=
  (showLoop l fmt fuel 0 (table.assign (l.high + 1) 0xFFFF)).map fun lines =>
    tableStart l fmt name ++ lines ++ tableEnd fmt

def doShowvid2fidFmt : OutputFormat → Nat → Allocation → List Char → Option (List Char) :=
  showTable vidLayout

def doShowfid2mstidFmt : OutputFormat → Nat → Allocation → List Char → Option (List Char) :=
  showTable fidLayout

/-! ## What is printed -/

def intervalText (fmt : OutputFormat) (v : Interval) : List Char :=
  let last := if v.first < v.last then '-' :: decimal v.last else []
  match fmt with
  | .plain => decimal v.first ++ last
  | .json => '"' :: decimal v.first ++ last ++ ['"']

/-- The intervals, the first one after `c` and the others after commas. -/
def intervalTexts (fmt : OutputFormat) : Char → List Interval → List Char
  | _, [] => []
  | c, v :: rest => c :: intervalText fmt v ++ intervalTexts fmt ',' rest

/-- Where a table has a value. -/
def valueAt (table : Allocation) (v : Nat) (i : Nat) : Bool := decide ((table i).toNat = v)

def intervalsOf (l : TableLayout) (table : Allocation) (v : Nat) : List Interval :=
  runs (valueAt table v) (l.high + 1 - l.low) l.low 0

def lineTexts (l : TableLayout) (fmt : OutputFormat) (table : Allocation) :
    Nat → List Nat → List Char
  | _, [] => []
  | outCount, v :: rest =>
    lineStart l fmt outCount v ++ intervalTexts fmt ' ' (intervalsOf l table v) ++ lineEnd fmt ++
      lineTexts l fmt table (outCount + 1) rest

/-- Is the value in the table? -/
def used (l : TableLayout) (table : Allocation) (v : Nat) : Bool :=
  (List.range' l.low (l.high + 1 - l.low)).any (valueAt table v)

def usedValues (l : TableLayout) (table : Allocation) : List Nat :=
  (List.range (l.maxValue + 1)).filter (used l table)

/-- No entry is out of range. -/
def InRange (l : TableLayout) (table : Allocation) : Prop :=
  ∀ i, l.low ≤ i → i ≤ l.high → (table i).toNat ≤ l.maxValue

section Scanning

variable {l : TableLayout} {fmt : OutputFormat} {table : Allocation}

theorem showInterval_eq {i count : Nat} (hcount : count ≠ 0) (hle : count ≤ i) :
    showInterval fmt i count = intervalText fmt ⟨i - count, i - 1, by omega⟩ := by
  have hlast : 1 < count ↔ i - count < i - 1 := by omega
  simp only [showInterval, intervalText, hlast]

theorem intervalTexts_closed {i count : Nat} {c : Char} {rest : List Interval} (hle : count ≤ i) :
    intervalTexts fmt c (closed i count ++ rest) =
      if count = 0 then intervalTexts fmt c rest
      else c :: showInterval fmt i count ++ intervalTexts fmt ',' rest := by
  rw [closed]
  split
  · rfl
  · rename_i hcount
    rw [showInterval_eq hcount hle]
    rfl

theorem scanTurn_take {cur i : Nat} {s : Scan} (h : (s.table i).toNat = cur) :
    scanTurn fmt cur s i =
      { s with table := s.table.assign i 0xFFFF, intervalCount := s.intervalCount + 1 } := by
  rw [scanTurn, if_neg (not_not_intro h.symm)]

theorem scanTurn_skip {cur i : Nat} {s : Scan} (h : (s.table i).toNat ≠ cur) :
    scanTurn fmt cur s i =
      { s with
        out := s.out ++
          if s.intervalCount = 0 then [] else s.firstChar :: showInterval fmt i s.intervalCount
        firstChar := if s.intervalCount = 0 then s.firstChar else ','
        intervalCount := 0 } := by
  rw [scanTurn, if_pos (Ne.symm h)]
  by_cases hcount : s.intervalCount = 0
  · rw [if_neg (not_not_intro hcount), if_pos hcount, if_pos hcount, List.append_nil, ← hcount]
  · rw [if_pos hcount, if_neg hcount, if_neg hcount]

/-- The entries with the value are removed. -/
theorem foldl_scanTurn_table {cur : Nat} (n : Nat) : ∀ (i : Nat) (s : Scan) (j : Nat),
    ((List.range' i n).foldl (scanTurn fmt cur) s).table j =
      if i ≤ j ∧ j < i + n ∧ (s.table j).toNat = cur then 0xFFFF else s.table j := by
  induction n with
  | zero =>
    intro i s j
    rw [if_neg (by omega)]
    rfl
  | succ n ih =>
    intro i s j
    have hturn : (scanTurn fmt cur s i).table j =
        if j = i ∧ (s.table j).toNat = cur then 0xFFFF else s.table j := by
      by_cases h : (s.table i).toNat = cur
      · rw [scanTurn_take h]
        by_cases hj : j = i
        · subst hj
          rw [if_pos ⟨rfl, h⟩]
          exact if_pos rfl
        · rw [if_neg fun h' => hj h'.1]
          exact if_neg hj
      · have hskip : ¬ (j = i ∧ (s.table j).toNat = cur) := by
          rintro ⟨rfl, h'⟩
          exact h h'
        rw [scanTurn_skip h, if_neg hskip]
    rw [List.range'_succ, List.foldl_cons, ih, hturn]
    by_cases hj : j = i
    · subst hj
      rw [if_neg (by omega)]
      by_cases h : (s.table j).toNat = cur
      · rw [if_pos ⟨rfl, h⟩, if_pos ⟨Nat.le_refl j, by omega, h⟩]
      · rw [if_neg fun h' => h h'.2, if_neg fun h' => h h'.2.2]
    · have hrange : (i + 1 ≤ j ∧ j < i + 1 + n) ↔ (i ≤ j ∧ j < i + (n + 1)) := by omega
      have hother : ¬ (j = i ∧ (s.table j).toNat = cur) := fun h => hj h.1
      simp only [if_neg hother, ← and_assoc, hrange]

/-- The intervals are printed, up to an index with another value. -/
theorem foldl_scanTurn_out {cur : Nat} (n : Nat) : ∀ (i : Nat) (s : Scan),
    s.intervalCount ≤ i → (n = 0 → s.intervalCount = 0) →
      (∀ j, j + 1 = i + n → i ≤ j → (s.table j).toNat ≠ cur) →
      ((List.range' i n).foldl (scanTurn fmt cur) s).out = s.out ++
        intervalTexts fmt s.firstChar (runs (valueAt s.table cur) n i s.intervalCount) := by
  induction n with
  | zero =>
    intro i s hle hopen _
    simp [runs, closed, hopen rfl, intervalTexts]
  | succ n ih =>
    intro i s hle _ hlast
    rw [List.range'_succ, List.foldl_cons, runs]
    by_cases hi : (s.table i).toNat = cur
    · have hn : n ≠ 0 := by
        rintro rfl
        exact hlast i rfl (Nat.le_refl i) hi
      have hsame : ∀ j, i + 1 ≤ j → s.table.assign i 0xFFFF j = s.table j :=
        fun j hj => if_neg (by omega)
      have hruns := @runs_congr (valueAt (s.table.assign i 0xFFFF) cur) (valueAt s.table cur) n
        (i + 1) (s.intervalCount + 1) fun j hj _ => by rw [valueAt, valueAt, hsame j hj]
      rw [scanTurn_take hi, ih (i + 1) _ (by dsimp only; omega) (fun h => absurd h hn), hruns]
      · have htake : valueAt s.table cur i = true := decide_eq_true hi
        rw [if_pos htake]
      · intro j hj hle'
        dsimp only
        rw [hsame j hle']
        exact hlast j (by omega) (by omega)
    · have hskip : ¬ valueAt s.table cur i = true := fun h => hi (of_decide_eq_true h)
      rw [scanTurn_skip hi, ih (i + 1) _ (Nat.zero_le _) (fun _ => rfl), if_neg hskip,
        intervalTexts_closed hle]
      · by_cases hcount : s.intervalCount = 0
        · simp [hcount]
        · simp [hcount]
      · exact fun j hj hle' => hlast j (by omega) (by omega)

end Scanning

/-! ## Each turn of the outer loop -/

section Lines

variable {l : TableLayout} {fmt : OutputFormat} {table : Allocation}

/-- What is left of a table when the values below `m` are printed. -/
structure Left (l : TableLayout) (table : Allocation) (m : Nat) (left : Allocation) : Prop where
  sentinel : left (l.high + 1) = 0xFFFF
  entry : ∀ i, l.low ≤ i → i ≤ l.high →
    left i = if (table i).toNat < m then 0xFFFF else table i

theorem mem_used {v : Nat} :
    used l table v = true ↔ ∃ i, l.low ≤ i ∧ i ≤ l.high ∧ (table i).toNat = v := by
  rw [used, List.any_eq_true]
  constructor
  · rintro ⟨i, hi, hv⟩
    rw [List.mem_range'_1] at hi
    exact ⟨i, hi.1, by omega, of_decide_eq_true hv⟩
  · rintro ⟨i, hlow, hhigh, hv⟩
    refine ⟨i, ?_, decide_eq_true hv⟩
    rw [List.mem_range'_1]
    omega

theorem foldl_least (f : Nat → Nat) (is : List Nat) : ∀ cur,
    let least := is.foldl (fun cur i => if f i < cur then f i else cur) cur
    (least = cur ∨ ∃ i ∈ is, least = f i) ∧ least ≤ cur ∧ ∀ i ∈ is, least ≤ f i := by
  induction is with
  | nil =>
    intro cur
    exact ⟨Or.inl rfl, Nat.le_refl _, by simp⟩
  | cons i is ih =>
    intro cur
    obtain ⟨hmem, hle, hall⟩ := ih (if f i < cur then f i else cur)
    have hnext : (if f i < cur then f i else cur) ≤ cur ∧
        (if f i < cur then f i else cur) ≤ f i := by
      constructor <;> split <;> omega
    refine ⟨?_, Nat.le_trans hle hnext.1, ?_⟩
    · rcases hmem with hmem | ⟨j, hj, hmem⟩
      · by_cases hi : f i < cur
        · exact Or.inr ⟨i, List.mem_cons_self, by rw [List.foldl_cons, hmem, if_pos hi]⟩
        · exact Or.inl (by rw [List.foldl_cons, hmem, if_neg hi])
      · exact Or.inr ⟨j, List.mem_cons_of_mem i hj, hmem⟩
    · intro j hj
      rcases List.mem_cons.mp hj with rfl | hj
      · exact Nat.le_trans hle hnext.2
      · exact hall j hj

theorem leastValue_mem : ∃ i, l.low ≤ i ∧ i ≤ l.high ∧ leastValue l table = (table i).toNat := by
  have hlow := l.low_le
  have hhigh := l.le_high
  obtain ⟨hmem | ⟨i, hi, hmem⟩, -, -⟩ :=
    foldl_least (fun i => (table i).toNat) (List.range' 1 l.high) (table l.low).toNat
  · exact ⟨l.low, Nat.le_refl _, by omega, hmem⟩
  · rw [List.mem_range'_1] at hi
    exact ⟨i, by omega, by omega, hmem⟩

theorem leastValue_le {i : Nat} (hlow : l.low ≤ i) (hhigh : i ≤ l.high) :
    leastValue l table ≤ (table i).toNat := by
  have hle := l.low_le
  obtain ⟨-, hfirst, hall⟩ :=
    foldl_least (fun i => (table i).toNat) (List.range' 1 l.high) (table l.low).toNat
  by_cases hi : i = l.low
  · exact hi ▸ hfirst
  · apply hall i
    rw [List.mem_range'_1]
    omega

variable {m : Nat} {left : Allocation}

/-- A value that no entry has needs no turn. -/
theorem Left.skip (hleft : Left l table m left) (hm : ¬ used l table m = true) :
    Left l table (m + 1) left where
  sentinel := hleft.sentinel
  entry i hlow hhigh := by
    have hne : (table i).toNat ≠ m := fun h => hm (mem_used.mpr ⟨i, hlow, hhigh, h⟩)
    have hiff : (table i).toNat < m + 1 ↔ (table i).toNat < m := by omega
    simp only [hiff]
    exact hleft.entry i hlow hhigh

theorem Left.le_entry (hleft : Left l table m left) (hm : m ≤ l.maxValue) {i : Nat}
    (hlow : l.low ≤ i) (hhigh : i ≤ l.high) : m ≤ (left i).toNat := by
  have hmax := l.maxValue_lt
  rw [hleft.entry i hlow hhigh]
  split
  · have hlast : (0xFFFF : UInt16).toNat = 65535 := rfl
    omega
  · omega

theorem Left.leastValue (hleft : Left l table m left) (hm : m ≤ l.maxValue)
    (hused : used l table m = true) : leastValue l left = m := by
  obtain ⟨i, hlow, hhigh, hv⟩ := mem_used.mp hused
  obtain ⟨j, hlow', hhigh', hj⟩ := @leastValue_mem l left
  have hle := @leastValue_le l left _ hlow hhigh
  have hge := hleft.le_entry hm hlow' hhigh'
  rw [hleft.entry i hlow hhigh, if_neg (by omega)] at hle
  omega

/-- Nothing is left at the end. -/
theorem Left.leastValue_end (hleft : Left l table m left) (hm : l.maxValue < m)
    (hrange : InRange l table) : l.maxValue < CtlMain.leastValue l left := by
  have hmax := l.maxValue_lt
  obtain ⟨j, hlow, hhigh, hj⟩ := @leastValue_mem l left
  have hlast : (0xFFFF : UInt16).toNat = 65535 := rfl
  have hentry := hrange j hlow hhigh
  rw [hj, hleft.entry j hlow hhigh, if_pos (by omega)]
  omega

theorem Left.valueAt_eq (hleft : Left l table m left) (hm : m ≤ l.maxValue) {i : Nat}
    (hlow : l.low ≤ i) (hhigh : i ≤ l.high) : valueAt left m i = valueAt table m i := by
  have hmax := l.maxValue_lt
  have hlast : (0xFFFF : UInt16).toNat = 65535 := rfl
  rw [valueAt, valueAt, hleft.entry i hlow hhigh, decide_eq_decide]
  split
  · omega
  · exact Iff.rfl

theorem Left.sentinel_ne (hleft : Left l table m left) (hm : m ≤ l.maxValue) :
    (left (l.high + 1)).toNat ≠ m := by
  have hmax := l.maxValue_lt
  have hlast : (0xFFFF : UInt16).toNat = 65535 := rfl
  rw [hleft.sentinel]
  omega

/-- The sentinel closes the last interval. -/
theorem Left.scanValue_out (hleft : Left l table m left) (hm : m ≤ l.maxValue) :
    (scanValue l fmt m left).out = intervalTexts fmt ' ' (intervalsOf l table m) := by
  have hle := l.low_le
  have hge := l.le_high
  have hlength : l.high + 2 - l.low = l.high + 1 - l.low + 1 := by omega
  rw [scanValue, foldl_scanTurn_out (l.high + 2 - l.low) l.low ⟨left, 0, ' ', []⟩
    (Nat.zero_le _) (fun _ => rfl), List.nil_append, hlength, runs_last, intervalsOf]
  · congr 1
    exact runs_congr fun j hlow hhigh => hleft.valueAt_eq hm hlow (by omega)
  · have hlast : l.low + (l.high + 1 - l.low) = l.high + 1 := by omega
    rw [hlast]
    exact decide_eq_false (hleft.sentinel_ne hm)
  · intro j hj _
    have hlast : j = l.high + 1 := by omega
    subst hlast
    exact hleft.sentinel_ne hm

theorem scanValue_table {cur : Nat} (t : Allocation) (j : Nat) :
    (scanValue l fmt cur t).table j =
      if l.low ≤ j ∧ j < l.low + (l.high + 2 - l.low) ∧ (t j).toNat = cur then 0xFFFF else t j :=
  foldl_scanTurn_table (l.high + 2 - l.low) l.low ⟨t, 0, ' ', []⟩ j

theorem Left.scanValue_left (hleft : Left l table m left) :
    Left l table (m + 1) (scanValue l fmt m left).table where
  sentinel := by
    rw [scanValue_table, hleft.sentinel]
    exact ite_self _
  entry i hlow hhigh := by
    have hmax := l.maxValue_lt
    rw [scanValue_table, hleft.entry i hlow hhigh]
    have hlast : (0xFFFF : UInt16).toNat = 65535 := rfl
    by_cases hlt : (table i).toNat < m
    · rw [if_pos hlt, if_pos (show (table i).toNat < m + 1 by omega)]
      exact ite_self _
    · rw [if_neg hlt]
      have hiff : (l.low ≤ i ∧ i < l.low + (l.high + 2 - l.low) ∧ (table i).toNat = m) ↔
          (table i).toNat < m + 1 := by omega
      simp only [hiff]

/-- The loop prints a line for each value from `m` on that is used. -/
theorem showLoop_eq (hrange : InRange l table) (k : Nat) :
    ∀ m fuel outCount left, m + k = l.maxValue + 1 → k < fuel → Left l table m left →
      showLoop l fmt fuel outCount left =
        some (lineTexts l fmt table outCount ((List.range' m k).filter (used l table))) := by
  induction k with
  | zero =>
    intro m fuel outCount left hm hfuel hleft
    obtain ⟨fuel, rfl⟩ := Nat.exists_eq_succ_of_ne_zero (Nat.ne_of_gt hfuel)
    rw [showLoop, if_pos (hleft.leastValue_end (by omega) hrange)]
    rfl
  | succ k ih =>
    intro m fuel outCount left hm hfuel hleft
    rw [List.range'_succ]
    by_cases hused : used l table m = true
    · obtain ⟨fuel, rfl⟩ := Nat.exists_eq_succ_of_ne_zero (Nat.ne_of_gt (Nat.zero_lt_of_lt hfuel))
      have hle : m ≤ l.maxValue := by omega
      have hnext := ih (m + 1) fuel (outCount + 1) _ (by omega) (by omega)
        (@Left.scanValue_left l fmt _ _ _ hleft)
      rw [showLoop, hleft.leastValue hle hused, if_neg (by omega)]
      dsimp only
      rw [hnext, List.filter_cons_of_pos hused, hleft.scanValue_out hle]
      rfl
    · rw [List.filter_cons_of_neg hused]
      exact ih (m + 1) fuel outCount left (by omega) (by omega) (hleft.skip hused)

/-- Every table is printed, in as many turns as there are values. -/
theorem showTable_eq (hrange : InRange l table) {fuel : Nat} (hfuel : l.maxValue + 2 ≤ fuel)
    (name : List Char) :
    showTable l fmt fuel table name = some (tableStart l fmt name ++
      lineTexts l fmt table 0 (usedValues l table) ++ tableEnd fmt) := by
  have hleft : Left l table 0 (table.assign (l.high + 1) 0xFFFF) := by
    constructor
    · exact if_pos rfl
    · intro i _ hhigh
      rw [if_neg (Nat.not_lt_zero _)]
      exact if_neg (by omega)
  rw [showTable, showLoop_eq hrange (l.maxValue + 1) 0 fuel 0 _ (Nat.zero_add _) (by omega) hleft,
    ← List.range_eq_range']
  rfl

end Lines

/-- Three values in turn, each in many intervals. -/
def stripedTable : Allocation := fun i =>
  if i / 10 % 3 = 0 then 5 else if i / 10 % 3 = 1 then 7 else 4000

theorem stripedTable_inRange {l : TableLayout} (hmax : 4000 ≤ l.maxValue) :
    InRange l stripedTable := by
  intro i _ _
  have hle : (stripedTable i).toNat ≤ 4000 := by
    rw [stripedTable]
    split
    · decide
    · split <;> decide
  exact Nat.le_trans hle hmax

end Mstpd.CtlMain
