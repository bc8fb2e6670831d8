import Mstpd.AllocationTables

/-!
# Lists of indices in commands

`setvid2fid` and `setfid2mstid` take arguments such as `5:1,3-4`. `ParseList` enters the value at
every index of the list, and reads back what the commands that show the tables print.
-/

namespace Mstpd.CtlMain

open Intervals CText

/-- What `ParseList` is told about the indices and the values. -/
structure ListFormat where
  maxIndex : Nat
  indexDoc : String
  maxValue : Nat
  valueDoc : String
  noZeroIndex : Bool

/-- As `cmd_setvid2fid` calls it. -/
def vidList : ListFormat := ⟨maxVid, "VID", maxFid, "FID", true⟩

/-- As `cmd_setfid2mstid` calls it. -/
def fidList : ListFormat := ⟨maxFid, "FID", maxMstid, "mstid", false⟩

/-- The reasons to refuse an argument. -/
inductive ListError
  | outOfMemory
  | badFormat (str : List Char)
  | badId (doc : String) (str : List Char)
  | badIndex (doc : String) (index : Int) (str : List Char)

/-- `ENOMEM` is 12. -/
def ListError.code : ListError → Int
  | .outOfMemory => -12
  | _ => -1

/-- What is printed to `stderr`. -/
def ListError.message : ListError → List Char
  | .outOfMemory => "Out of memory'\n".toList
  | .badFormat str => "Bad format in argument: '".toList ++ str ++ "'\n".toList
  | .badId doc str => "Bad ".toList ++ doc.toList ++ ' ' :: str ++ ['\n']
  | .badIndex doc index str =>
    "Bad ".toList ++ doc.toList ++ ' ' :: (toString index).toList ++ " in argument: '".toList ++
      str ++ "'\n".toList

def getId (str : List Char) (doc : String) (maxId : Nat) : Except ListError Nat :=
  let id := strtol str
  if id < 0 ∨ (maxId : Int) < id ∨ (id = 0 ∧ str.head? ≠ some '0') then .error (.badId doc str)
  else .ok id.toNat

/-- A number that is not negative, and the text behind it. -/
def scanIndex (list : List Char) : Option (Int × List Char) :=
  (scanInt list).filter fun scanned => decide (0 ≤ scanned.1)

def ListFormat.bad (f : ListFormat) (index : Int) : Bool :=
  decide ((f.maxIndex : Int) < index) || f.noZeroIndex && decide (index = 0)

/-- `*` stands for every index that has no value yet. -/
def fillRest (f : ListFormat) (value : UInt16) (array : Allocation) : Allocation :=
  let first := if f.noZeroIndex then 1 else 0
  (List.range' first (f.maxIndex + 1 - first)).foldl
    (fun array i => if f.maxValue < (array i).toNat then array.assign i value else array) array

def assignRange (value : UInt16) (first last : Nat) (array : Allocation) : Allocation :=
  (List.range' first (last + 1 - first)).foldl (fun array i => array.assign i value) array

/-- A piece between commas. What is entered before an error stays. -/
def parsePiece (f : ListFormat) (str : List Char) (value : UInt16) (array : Allocation)
    (list : List Char) : Allocation × Option ListError :=
  match scanIndex list with
  | none =>
    if (list.dropWhile fun c => c == ' ' || c == '\t').head? = some '*' then
      (fillRest f value array, none)
    else (array, some (.badFormat str))
  | some (first, rest) =>
    if f.bad first then (array, some (.badIndex f.indexDoc first str))
    else
      match rest.dropWhile fun c => !c.isDigit with
      | [] => (assignRange value first.toNat first.toNat array, none)
      | digits =>
        match scanIndex digits with
        | none => (array, some (.badFormat str))
        | some (last, _) =>
          if f.bad last then (array, some (.badIndex f.indexDoc last str))
          else (assignRange value (min first last).toNat (max first last).toNat array, none)

def parsePieces (f : ListFormat) (str : List Char) (value : UInt16) :
    Allocation → List (List Char) → Allocation × Option ListError
  | array, [] => (array, none)
  | array, list :: rest =>
    match parsePiece f str value array list with
    | (array, none) => parsePieces f str value array rest
    | failed => failed

/-- `copied` tells whether there was memory for a copy of the argument. -/
def parseList (f : ListFormat) (copied : Bool) (str : List Char) (array : Allocation) :
    Allocation × Option ListError :=
  if copied then
    match str.dropWhile (· ≠ ':') with
    | [] => (array, some (.badFormat str))
    | _ :: list =>
      match getId (str.takeWhile (· ≠ ':')) f.valueDoc f.maxValue with
      | .error e => (array, some e)
      | .ok value => parsePieces f str (UInt16.ofNat value) array (list.splitOn ',')
  else (array, some .outOfMemory)

/-- The loop over the arguments of `cmd_setvid2fid` and `cmd_setfid2mstid`. -/
def parseLists (f : ListFormat) : Allocation → List (List Char) → Allocation × Option ListError
  | array, [] => (array, none)
  | array, str :: rest =>
    match parseList f true str array with
    | (array, none) => parseLists f array rest
    | failed => failed

/-! ## What is printed is read back -/

/-- What follows the label in a printed line, to be given to `ParseList`. -/
def entryText (line : Nat × List Interval) : List Char :=
  decimal line.1 ++ ':' :: intervalTexts .plain ' ' line.2

section Reading

variable {f : ListFormat} {value : UInt16} {array : Allocation}

theorem assignRange_apply {first last j : Nat} :
    assignRange value first last array j =
      if first ≤ j ∧ j ≤ last then value else array j := by
  have hfold : ∀ (n i : Nat) (array : Allocation),
      (List.range' i n).foldl (fun array i => array.assign i value) array j =
        if i ≤ j ∧ j < i + n then value else array j := by
    intro n
    induction n with
    | zero =>
      intro i array
      rw [if_neg (by omega)]
      rfl
    | succ n ih =>
      intro i array
      rw [List.range'_succ, List.foldl_cons, ih, Allocation.assign]
      by_cases hj : j = i
      · have hmem : i ≤ j ∧ j < i + (n + 1) := by omega
        rw [if_pos hj, if_pos hmem, ite_self]
      · have hrange : (i + 1 ≤ j ∧ j < i + 1 + n) ↔ (i ≤ j ∧ j < i + (n + 1)) := by omega
        simp only [if_neg hj, hrange]
  have hrange : (first ≤ j ∧ j < first + (last + 1 - first)) ↔ (first ≤ j ∧ j ≤ last) := by omega
  rw [assignRange, hfold]
  simp only [hrange]

/-- The interval lies between the indices that the list may have. -/
def Inside (f : ListFormat) (v : Interval) : Prop :=
  v.last ≤ f.maxIndex ∧ (f.noZeroIndex = true → 1 ≤ v.first)

theorem bad_eq_false {v : Interval} (hv : Inside f v) {n : Nat} (hn : v.Covers n) :
    f.bad n = false := by
  obtain ⟨hmax, hzero⟩ := hv
  obtain ⟨hfirst, hlast⟩ := hn
  rw [ListFormat.bad, Bool.or_eq_false_iff, Bool.and_eq_false_iff]
  refine ⟨decide_eq_false (by omega), ?_⟩
  cases hbool : f.noZeroIndex with
  | false => exact Or.inl rfl
  | true =>
    have hone := hzero hbool
    exact Or.inr (decide_eq_false (by omega))

theorem scanIndex_decimal {n : Nat} {rest : List Char} (hn : n < 2 ^ 31)
    (hrest : rest.head?.all (fun c => !c.isDigit) = true) :
    scanIndex (decimal n ++ rest) = some ((n : Int), rest) := by
  rw [scanIndex, scanInt_decimal hn hrest, Option.filter_some]
  exact if_pos (decide_eq_true (Int.natCast_nonneg n))

theorem parsePiece_interval {str : List Char} {v : Interval} (hindex : f.maxIndex < 2 ^ 31)
    (hv : Inside f v) :
    parsePiece f str value array (intervalText .plain v) =
      (fun j => if v.Covers j then value else array j, none) := by
  have hle := v.le
  have hmax := hv.1
  have hfirst : f.bad v.first = false := bad_eq_false hv ⟨Nat.le_refl _, hle⟩
  have hlast : f.bad v.last = false := bad_eq_false hv ⟨hle, Nat.le_refl _⟩
  by_cases hlt : v.first < v.last
  · have htext : intervalText .plain v = decimal v.first ++ '-' :: decimal v.last := by
      simp only [intervalText, if_pos hlt]
    have hdash : ('-' :: decimal v.last).dropWhile (fun c => !c.isDigit) = decimal v.last := by
      rw [List.dropWhile_cons_of_pos (by decide)]
      cases hd : decimal v.last with
      | nil => rfl
      | cons c digits =>
        have hc : c.isDigit = true := decimal_isDigit (n := v.last) (hd ▸ List.mem_cons_self)
        rw [List.dropWhile_cons_of_neg (by simp [hc])]
    obtain ⟨c, digits, hd⟩ := List.exists_cons_of_ne_nil (decimal_ne_nil v.last)
    have hscan : scanIndex (c :: digits) = some ((v.last : Int), []) := by
      rw [← hd, ← List.append_nil (decimal v.last)]
      exact scanIndex_decimal (by omega) rfl
    rw [parsePiece, htext, scanIndex_decimal (by omega) (by rfl)]
    dsimp only
    rw [hdash, hfirst, hd]
    simp only [Bool.false_eq_true, if_false, hscan, hlast]
    refine Prod.ext (funext fun j => ?_) rfl
    have hmin : (min (v.first : Int) v.last).toNat = v.first := by omega
    have hmax' : (max (v.first : Int) v.last).toNat = v.last := by omega
    dsimp only
    rw [hmin, hmax', assignRange_apply]
    rfl
  · have htext : intervalText .plain v = decimal v.first ++ [] := by
      simp only [intervalText, if_neg hlt]
    rw [parsePiece, htext, scanIndex_decimal (by omega) (by rfl)]
    dsimp only
    rw [hfirst]
    simp only [Bool.false_eq_true, if_false, List.dropWhile_nil]
    refine Prod.ext (funext fun j => ?_) rfl
    have hsame : v.last = v.first := by omega
    dsimp only
    rw [Int.toNat_natCast, assignRange_apply]
    simp only [Interval.Covers, hsame]

theorem parsePiece_space {str list : List Char} :
    parsePiece f str value array (' ' :: list) = parsePiece f str value array list := by
  have hdrop : (' ' :: list).dropWhile (fun c => c == ' ' || c == '\t') =
      list.dropWhile (fun c => c == ' ' || c == '\t') :=
    List.dropWhile_cons_of_pos (by decide)
  simp only [parsePiece, scanIndex, scanInt_space, hdrop]

theorem parsePieces_intervals {str : List Char} (hindex : f.maxIndex < 2 ^ 31)
    (vs : List Interval) (hvs : ∀ v ∈ vs, Inside f v) : ∀ array,
    parsePieces f str value array (vs.map (intervalText .plain)) =
      (fun j => if Covered vs j then value else array j, none) := by
  induction vs with
  | nil =>
    intro array
    have hnone : (fun j => if Covered [] j then value else array j) = array :=
      funext fun j => if_neg covered_nil
    rw [hnone]
    rfl
  | cons v vs ih =>
    intro array
    have hrest := ih (fun w hw => hvs w (List.mem_cons_of_mem v hw))
    rw [List.map_cons, parsePieces, parsePiece_interval hindex (hvs v List.mem_cons_self)]
    dsimp only
    rw [hrest]
    refine Prod.ext (funext fun j => ?_) rfl
    simp only [covered_cons]
    by_cases hj : Covered vs j
    · rw [if_pos hj, if_pos (Or.inr hj)]
    · simp only [if_neg hj, or_iff_left hj]

theorem not_mem_decimal {n : Nat} {c : Char} (hc : c.isDigit = false) : c ∉ decimal n := by
  intro hmem
  rw [decimal_isDigit hmem] at hc
  cases hc

theorem comma_not_mem (v : Interval) : ',' ∉ intervalText .plain v := by
  have hcomma : ∀ n, ',' ∉ decimal n := fun n => not_mem_decimal (by decide)
  rw [intervalText]
  split
  · simp [hcomma]
  · simp [hcomma]

theorem intervalTexts_eq (v : Interval) (vs : List Interval) : ∀ c,
    intervalTexts .plain c (v :: vs) =
      [','].intercalate ((c :: intervalText .plain v) :: vs.map (intervalText .plain)) := by
  induction vs generalizing v with
  | nil =>
    intro c
    simp [intervalTexts]
  | cons w vs ih =>
    intro c
    have hcons : ∀ ts : List (List Char), [','].intercalate ((',' :: intervalText .plain w) :: ts) =
        ',' :: [','].intercalate (intervalText .plain w :: ts) := by
      intro ts
      cases ts <;> simp [List.intercalate]
    rw [intervalTexts, ih w, hcons, List.map_cons]
    simp [List.intercalate]

theorem getId_decimal {n maxId : Nat} {doc : String} (hn : n ≤ maxId) (hmax : maxId < 2 ^ 31) :
    getId (decimal n) doc maxId = .ok n := by
  have hstrtol : strtol (decimal n) = n := by
    rw [strtol, ← List.append_nil (decimal n), scanInt_decimal (by omega) rfl]
    rfl
  have hok : ¬ ((n : Int) < 0 ∨ (maxId : Int) < n ∨
      ((n : Int) = 0 ∧ (decimal n).head? ≠ some '0')) := by
    rintro (h | h | ⟨hzero, hhead⟩)
    · omega
    · omega
    · have hn : n = 0 := by omega
      subst hn
      exact hhead (by rw [decimal_zero]; rfl)
  simp only [getId, hstrtol, if_neg hok, Int.toNat_natCast]

/-- An entry that was printed is accepted, and its value is entered in its intervals. -/
theorem parseList_entry {n : Nat} {vs : List Interval} (hindex : f.maxIndex < 2 ^ 31)
    (hvalue : f.maxValue < 2 ^ 16) (hn : n ≤ f.maxValue) (hvs : ∀ v ∈ vs, Inside f v)
    (hne : vs ≠ []) (array : Allocation) :
    parseList f true (entryText (n, vs)) array =
      (fun j => if Covered vs j then UInt16.ofNat n else array j, none) := by
  have hid := @getId_decimal _ _ f.valueDoc hn (Nat.lt_trans hvalue (by decide))
  have hcolon : ∀ c ∈ decimal n, decide (c ≠ ':') = true := by
    intro c hc
    refine decide_eq_true ?_
    rintro rfl
    exact not_mem_decimal (by decide) hc
  obtain ⟨v, rest, rfl⟩ := List.exists_cons_of_ne_nil hne
  have hsplit : (intervalTexts .plain ' ' (v :: rest)).splitOn ',' =
      (' ' :: intervalText .plain v) :: rest.map (intervalText .plain) := by
    rw [intervalTexts_eq]
    apply List.splitOn_intercalate
    · intro text htext
      rcases List.mem_cons.mp htext with rfl | htext
      · have hcomma := comma_not_mem v
        simpa using hcomma
      · obtain ⟨w, -, rfl⟩ := List.mem_map.mp htext
        exact comma_not_mem w
    · exact List.cons_ne_nil _ _
  have htake : (entryText (n, v :: rest)).takeWhile (· ≠ ':') = decimal n := by
    rw [entryText, List.takeWhile_append_of_pos hcolon, List.takeWhile_cons_of_neg (by decide),
      List.append_nil]
  have hdrop : (entryText (n, v :: rest)).dropWhile (· ≠ ':') =
      ':' :: intervalTexts .plain ' ' (v :: rest) := by
    rw [entryText, List.dropWhile_append_of_pos hcolon, List.dropWhile_cons_of_neg (by decide)]
  have hpieces := @parsePieces_intervals f (UInt16.ofNat n)
    (entryText (n, v :: rest)) hindex (v :: rest) hvs array
  rw [List.map_cons, parsePieces] at hpieces
  rw [parseList, if_pos rfl, htake, hdrop, hid]
  dsimp only
  rw [hsplit, parsePieces, parsePiece_space, hpieces]

end Reading

/-! ## Tables survive being shown and set -/

/-- The lines are those of the values that are used, with the intervals of their indices. -/
structure LinesOf (l : TableLayout) (table : Allocation) (lines : List (Nat × List Interval)) :
    Prop where
  ascending : (lines.map Prod.fst).Pairwise (· < ·)
  used : ∀ v, v ∈ lines.map Prod.fst ↔ ∃ i, l.low ≤ i ∧ i ≤ l.high ∧ (table i).toNat = v
  maximal : ∀ line ∈ lines, Maximal (valueAt table line.1) l.low (l.high + 1) line.2

def plainText (l : TableLayout) (name : List Char) (lines : List (Nat × List Interval)) :
    List Char :=
  name ++ l.title.toList ++ lines.flatMap fun line =>
    "  ".toList ++ l.valueLabel.toList ++ ' ' :: entryText line ++ ['\n']

/-- The table is printed and its lines, given to `ParseList`, yield it again. -/
def Survives (l : TableLayout) (f : ListFormat)
    (shown : Nat → Allocation → List Char → Option (List Char)) (table : Allocation)
    (name : List Char) : Prop :=
  ∃ lines, LinesOf l table lines ∧
    (∀ fuel, l.maxValue + 2 ≤ fuel → shown fuel table name = some (plainText l name lines)) ∧
    ∃ array, parseLists f (fun _ => 0xFFFF) (lines.map entryText) = (array, none) ∧
      ∀ i, array i = if l.low ≤ i ∧ i ≤ l.high then table i else 0xFFFF

/-- The list has the indices and values of the table. -/
structure Fits (l : TableLayout) (f : ListFormat) : Prop where
  index : f.maxIndex = l.high
  value : f.maxValue = l.maxValue
  zero : f.noZeroIndex = true → 1 ≤ l.low
  index_lt : f.maxIndex < 2 ^ 31

section Survival

variable {l : TableLayout} {f : ListFormat} {table : Allocation}

theorem mem_usedValues {v : Nat} (hrange : InRange l table) :
    v ∈ usedValues l table ↔ ∃ i, l.low ≤ i ∧ i ≤ l.high ∧ (table i).toNat = v := by
  rw [usedValues, List.mem_filter, List.mem_range, mem_used]
  constructor
  · exact fun h => h.2
  · rintro ⟨i, hlow, hhigh, hv⟩
    have hle := hrange i hlow hhigh
    exact ⟨by omega, i, hlow, hhigh, hv⟩

theorem maximal_intervalsOf (v : Nat) :
    Maximal (valueAt table v) l.low (l.high + 1) (intervalsOf l table v) := by
  have hle := l.low_le
  have hge := l.le_high
  have hstop : l.low + (l.high + 1 - l.low) = l.high + 1 := by omega
  have hmaximal := maximal_runs (valueAt table v) l.low (l.high + 1 - l.low)
  rw [hstop] at hmaximal
  exact hmaximal

theorem covered_intervalsOf {v i : Nat} :
    Covered (intervalsOf l table v) i ↔ l.low ≤ i ∧ i ≤ l.high ∧ (table i).toNat = v := by
  rw [(maximal_intervalsOf v).covered i, Nat.lt_succ_iff, valueAt, decide_eq_true_iff]

theorem inside_intervalsOf (hfits : Fits l f) {v : Nat} {w : Interval}
    (hw : w ∈ intervalsOf l table v) : Inside f w := by
  have hle := w.le
  have hfirst := (covered_intervalsOf.mp ⟨w, hw, Nat.le_refl _, hle⟩).1
  have hlast := (covered_intervalsOf.mp ⟨w, hw, hle, Nat.le_refl _⟩).2.1
  have hindex := hfits.index
  refine ⟨by omega, fun hzero => ?_⟩
  have hone := hfits.zero hzero
  omega

theorem lineTexts_plain (vs : List Nat) : ∀ outCount,
    lineTexts l .plain table outCount vs = (vs.map fun v => (v, intervalsOf l table v)).flatMap
      fun line => "  ".toList ++ l.valueLabel.toList ++ ' ' :: entryText line ++ ['\n'] := by
  induction vs with
  | nil =>
    intro outCount
    rfl
  | cons v vs ih =>
    intro outCount
    rw [lineTexts, ih, List.map_cons, List.flatMap_cons]
    simp [lineStart, lineEnd, entryText]

/-- Each entry fills in the indices of its value. -/
theorem parseLists_entries (hfits : Fits l f) (hrange : InRange l table) (vs : List Nat)
    (hvs : ∀ v ∈ vs, ∃ i, l.low ≤ i ∧ i ≤ l.high ∧ (table i).toNat = v) : ∀ array,
    parseLists f array (vs.map fun v => entryText (v, intervalsOf l table v)) =
      (fun j => if l.low ≤ j ∧ j ≤ l.high ∧ (table j).toNat ∈ vs then table j else array j,
        none) := by
  induction vs with
  | nil =>
    intro array
    have hnone : (fun j => if l.low ≤ j ∧ j ≤ l.high ∧ (table j).toNat ∈ ([] : List Nat) then
        table j else array j) = array :=
      funext fun j => if_neg fun h => List.not_mem_nil h.2.2
    rw [hnone]
    rfl
  | cons v vs ih =>
    intro array
    obtain ⟨i, hlow, hhigh, hi⟩ := hvs v List.mem_cons_self
    have hle := hrange i hlow hhigh
    have hindex := hfits.index_lt
    have hvalue := hfits.value
    have hmax := l.maxValue_lt
    have hne : intervalsOf l table v ≠ [] := by
      intro hnil
      have hcovered := covered_intervalsOf.mpr ⟨hlow, hhigh, hi⟩
      rw [hnil] at hcovered
      exact covered_nil hcovered
    have hentry := parseList_entry hindex (by omega) (by omega : v ≤ f.maxValue)
      (fun w hw => inside_intervalsOf hfits hw) hne array
    rw [List.map_cons, parseLists, hentry]
    dsimp only
    rw [ih fun w hw => hvs w (List.mem_cons_of_mem v hw)]
    refine Prod.ext (funext fun j => ?_) rfl
    dsimp only
    simp only [covered_intervalsOf, List.mem_cons]
    by_cases hj : l.low ≤ j ∧ j ≤ l.high ∧ (table j).toNat ∈ vs
    · rw [if_pos hj, if_pos ⟨hj.1, hj.2.1, Or.inr hj.2.2⟩]
    · rw [if_neg hj]
      by_cases hv : l.low ≤ j ∧ j ≤ l.high ∧ (table j).toNat = v
      · rw [if_pos hv, if_pos ⟨hv.1, hv.2.1, Or.inl hv.2.2⟩, ← hv.2.2, UInt16.ofNat_toNat]
      · rw [if_neg hv, if_neg]
        rintro ⟨hlow', hhigh', heq | hmem⟩
        · exact hv ⟨hlow', hhigh', heq⟩
        · exact hj ⟨hlow', hhigh', hmem⟩

theorem parseLists_usedValues (hfits : Fits l f) (hrange : InRange l table) :
    parseLists f (fun _ => 0xFFFF)
        (((usedValues l table).map fun v => (v, intervalsOf l table v)).map entryText) =
      (fun i => if l.low ≤ i ∧ i ≤ l.high then table i else 0xFFFF, none) := by
  have htexts : ((usedValues l table).map fun v => (v, intervalsOf l table v)).map entryText =
      (usedValues l table).map fun v => entryText (v, intervalsOf l table v) := by
    rw [List.map_map]
    rfl
  rw [htexts, parseLists_entries hfits hrange (usedValues l table)
    (fun v hv => (mem_usedValues hrange).mp hv) fun _ => 0xFFFF]
  refine Prod.ext (funext fun i => ?_) rfl
  by_cases hi : l.low ≤ i ∧ i ≤ l.high
  · have hmem := (mem_usedValues hrange).mpr ⟨i, hi.1, hi.2, rfl⟩
    exact (if_pos ⟨hi.1, hi.2, hmem⟩).trans (if_pos hi).symm
  · exact (if_neg fun h => hi ⟨h.1, h.2.1⟩).trans (if_neg hi).symm

theorem survives_of_fits (hfits : Fits l f) (hrange : InRange l table) (name : List Char) :
    Survives l f (showTable l .plain) table name := by
  have hfst : ((usedValues l table).map fun v => (v, intervalsOf l table v)).map Prod.fst =
      usedValues l table := by
    rw [List.map_map]
    exact List.map_id _
  refine ⟨(usedValues l table).map fun v => (v, intervalsOf l table v), ⟨?_, ?_, ?_⟩, ?_, ?_⟩
  · rw [hfst]
    exact List.pairwise_lt_range.filter _
  · intro v
    rw [hfst]
    exact mem_usedValues hrange
  · intro line hline
    obtain ⟨v, -, rfl⟩ := List.mem_map.mp hline
    exact maximal_intervalsOf v
  · intro fuel hfuel
    rw [showTable_eq hrange hfuel, lineTexts_plain, tableEnd, List.append_nil]
    rfl
  · exact ⟨_, parseLists_usedValues hfits hrange, fun i => rfl⟩

end Survival

theorem vid_fits : Fits vidLayout vidList := by
  constructor <;> decide

theorem fid_fits : Fits fidLayout fidList := by
  constructor <;> decide

/-- Both tables are printed and read back. -/
theorem tables_survive (table : Allocation) (name : List Char) :
    (InRange vidLayout table → Survives vidLayout vidList (doShowvid2fidFmt .plain) table name) ∧
      (InRange fidLayout table →
        Survives fidLayout fidList (doShowfid2mstidFmt .plain) table name) :=
  ⟨fun hrange => survives_of_fits vid_fits hrange name,
    fun hrange => survives_of_fits fid_fits hrange name⟩

theorem stripedTables_survive :
    Survives vidLayout vidList (doShowvid2fidFmt .plain) stripedTable "br0".toList ∧
      Survives fidLayout fidList (doShowfid2mstidFmt .plain) stripedTable "br0".toList :=
  ⟨(tables_survive stripedTable "br0".toList).1 (stripedTable_inRange (by decide)),
    (tables_survive stripedTable "br0".toList).2 (stripedTable_inRange (by decide))⟩

end Mstpd.CtlMain
