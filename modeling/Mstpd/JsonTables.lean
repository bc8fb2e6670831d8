import Mstpd.AllocationTables
import Mstpd.Json

/-!
# Allocation tables as JSON

The objects of the values are printed into an array that nothing closes, so what is printed is no
JSON text for any table.
-/

namespace Mstpd.CtlMain

open Intervals CText Json

/-- Characters that stand for themselves in a JSON string. -/
def NeedsNoEscape (name : List Char) : Prop := ∀ c ∈ name, c ≠ '"' ∧ c ≠ '\\' ∧ ' ' ≤ c

section Brackets

variable {l : TableLayout} {n : Int}

theorem run_decimal {mode : Mode} (hmode : mode ≠ .escaped) (v : Nat) :
    Scanner.run ⟨mode, n⟩ (decimal v) = ⟨mode, n⟩ := by
  have hplain : ∀ c ∈ decimal v, ∀ d : Char, d.isDigit = false → c ≠ d := by
    rintro c hc d hd rfl
    rw [decimal_isDigit hc] at hd
    cases hd
  cases mode with
  | outside =>
    apply run_outside
    exact fun c hc => ⟨hplain c hc _ rfl, hplain c hc _ rfl, hplain c hc _ rfl⟩
  | inside =>
    apply run_inside
    exact fun c hc => ⟨hplain c hc _ rfl, hplain c hc _ rfl⟩
  | escaped => exact absurd rfl hmode

theorem run_intervalText (v : Interval) :
    Scanner.run ⟨.outside, n⟩ (intervalText .json v) = ⟨.outside, n⟩ := by
  have hopen : Scanner.next ⟨.outside, n⟩ '"' = ⟨.inside, n⟩ := rfl
  have hdash : Scanner.next ⟨.inside, n⟩ '-' = ⟨.inside, n⟩ := rfl
  have hclose : Scanner.run ⟨.inside, n⟩ ['"'] = ⟨.outside, n⟩ := rfl
  have hlast : Scanner.run ⟨.inside, n⟩
      (if v.first < v.last then '-' :: decimal v.last else []) = ⟨.inside, n⟩ := by
    split
    · rw [run_cons, hdash, run_decimal (by decide)]
    · rfl
  rw [intervalText]
  rw [List.cons_append, List.cons_append, run_cons, hopen, run_append, run_append,
    run_decimal (by decide), hlast, hclose]

theorem run_intervalTexts (vs : List Interval) : ∀ c, (c = ' ' ∨ c = ',') →
    Scanner.run ⟨.outside, n⟩ (intervalTexts .json c vs) = ⟨.outside, n⟩ := by
  induction vs with
  | nil =>
    intro c _
    rfl
  | cons v vs ih =>
    intro c hc
    have hnext : Scanner.next ⟨.outside, n⟩ c = ⟨.outside, n⟩ := by
      rcases hc with rfl | rfl <;> rfl
    rw [intervalTexts, List.cons_append, run_cons, hnext, run_append, run_intervalText,
      ih ',' (Or.inr rfl)]

/-- The keys that are printed have no quotes in them. -/
structure PlainKeys (l : TableLayout) : Prop where
  key : ∀ c ∈ l.key.toList, c ≠ '"' ∧ c ≠ '\\'
  valueKey : ∀ c ∈ l.valueKey.toList, c ≠ '"' ∧ c ≠ '\\'
  indexKey : ∀ c ∈ l.indexKey.toList, c ≠ '"' ∧ c ≠ '\\'

theorem run_lineStart (hkeys : PlainKeys l) (outCount cur : Nat) :
    Scanner.run ⟨.outside, n⟩ (lineStart l .json outCount cur) = ⟨.outside, n + 1⟩ := by
  have hcomma : Scanner.run ⟨.outside, n⟩ (if 0 < outCount then [','] else []) = ⟨.outside, n⟩ := by
    split <;> rfl
  have hfirst : Scanner.run ⟨.outside, n⟩ "\x7b\"".toList = ⟨.inside, n⟩ := rfl
  have hsecond : Scanner.run ⟨.inside, n⟩ "\":\"".toList = ⟨.inside, n⟩ := rfl
  have hthird : Scanner.run ⟨.inside, n⟩ "\",\"".toList = ⟨.inside, n⟩ := rfl
  have hlast : Scanner.run ⟨.inside, n⟩ "\":[".toList = ⟨.outside, n + 1⟩ := rfl
  rw [lineStart]
  rw [run_append, run_append, run_append, run_append, run_append, run_append, run_append, hcomma,
    hfirst, run_inside hkeys.valueKey, hsecond, run_decimal (by decide), hthird,
    run_inside hkeys.indexKey, hlast]

/-- An object closes its own bracket. -/
theorem run_lineTexts (hkeys : PlainKeys l) {table : Allocation} (vs : List Nat) : ∀ outCount,
    Scanner.run ⟨.outside, n⟩ (lineTexts l .json table outCount vs) = ⟨.outside, n⟩ := by
  have hend : Scanner.run ⟨.outside, n + 1⟩ (lineEnd .json) = ⟨.outside, n⟩ := by
    have hone : n + 1 - 1 = n := by omega
    have hclose : Scanner.run ⟨.outside, n + 1⟩ (lineEnd .json) = ⟨.outside, n + 1 - 1⟩ := rfl
    rw [hclose, hone]
  induction vs with
  | nil =>
    intro outCount
    rfl
  | cons v vs ih =>
    intro outCount
    rw [lineTexts, run_append, run_append, run_append, run_lineStart hkeys,
      run_intervalTexts _ ' ' (Or.inl rfl), hend, ih]

theorem run_tableStart (hkeys : PlainKeys l) {name : List Char} (hname : NeedsNoEscape name) :
    Scanner.run ⟨.outside, n⟩ (tableStart l .json name) = ⟨.outside, n + 1⟩ := by
  have hfirst : Scanner.run ⟨.outside, n⟩ "\x7b\"bridge\":\"".toList = ⟨.inside, n⟩ := rfl
  have hsecond : Scanner.run ⟨.inside, n⟩ "\",\"".toList = ⟨.inside, n⟩ := rfl
  have hlast : Scanner.run ⟨.inside, n⟩ "\":[".toList = ⟨.outside, n + 1⟩ := rfl
  have htext : tableStart l .json name = "\x7b\"bridge\":\"".toList ++ name ++ "\",\"".toList ++
      l.key.toList ++ "\":[".toList := rfl
  rw [htext, run_append, run_append, run_append, run_append, hfirst,
    run_inside fun c hc => ⟨(hname c hc).1, (hname c hc).2.1⟩, hsecond, run_inside hkeys.key,
    hlast]

/-- The bracket that the first line opens stays open. -/
theorem table_open (hkeys : PlainKeys l) {table : Allocation} (hrange : InRange l table)
    {name : List Char} (hname : NeedsNoEscape name) :
    ∃ text, (∀ fuel, l.maxValue + 2 ≤ fuel → showTable l .json fuel table name = some text) ∧
      ¬ IsText text := by
  refine ⟨_, fun fuel hfuel => showTable_eq hrange hfuel name, fun htext => ?_⟩
  have hbalanced := run_text (n := 0) htext
  have hend : Scanner.run ⟨.outside, 0 + 1⟩ (tableEnd .json) = ⟨.outside, 1⟩ := rfl
  rw [run_append, run_append, run_tableStart hkeys hname, run_lineTexts hkeys, hend] at hbalanced
  exact absurd (congrArg Scanner.opened hbalanced) (by decide)

end Brackets

theorem vid_plainKeys : PlainKeys vidLayout := by
  constructor <;> simp [vidLayout]

theorem fid_plainKeys : PlainKeys fidLayout := by
  constructor <;> simp [fidLayout]

/-- Neither table is ever printed as JSON. -/
theorem jsonTables_open (table : Allocation) (name : List Char) (hname : NeedsNoEscape name) :
    (InRange vidLayout table → ∃ text,
        (∀ fuel, maxFid + 2 ≤ fuel → doShowvid2fidFmt .json fuel table name = some text) ∧
          ¬ IsText text) ∧
      (InRange fidLayout table → ∃ text,
        (∀ fuel, maxMstid + 2 ≤ fuel → doShowfid2mstidFmt .json fuel table name = some text) ∧
          ¬ IsText text) :=
  ⟨fun hrange => table_open vid_plainKeys hrange hname,
    fun hrange => table_open fid_plainKeys hrange hname⟩

theorem stripedTables_open :
    (∃ text, (∀ fuel, maxFid + 2 ≤ fuel →
        doShowvid2fidFmt .json fuel stripedTable "br0".toList = some text) ∧ ¬ IsText text) ∧
      ∃ text, (∀ fuel, maxMstid + 2 ≤ fuel →
        doShowfid2mstidFmt .json fuel stripedTable "br0".toList = some text) ∧ ¬ IsText text := by
  have hname : NeedsNoEscape "br0".toList := by simp [NeedsNoEscape]
  have hopen := jsonTables_open stripedTable "br0".toList hname
  exact ⟨hopen.1 (stripedTable_inRange (by decide)), hopen.2 (stripedTable_inRange (by decide))⟩

theorem sevenTable_open :
    ¬ ∃ text, (∀ fuel, maxFid + 2 ≤ fuel →
      doShowvid2fidFmt .json fuel (fun _ => 7) "br0".toList = some text) ∧ IsText text := by
  rintro ⟨text, hshown, htext⟩
  have hname : NeedsNoEscape "br0".toList := by simp [NeedsNoEscape]
  have hseven : (7 : UInt16).toNat ≤ vidLayout.maxValue := by decide
  have hrange : InRange vidLayout fun _ => 7 := fun _ _ _ => hseven
  obtain ⟨text', hshown', htext'⟩ := table_open vid_plainKeys hrange hname
  have hsame := (hshown _ (Nat.le_refl _)).symm.trans (hshown' _ (Nat.le_refl _))
  exact htext' (Option.some.inj hsame ▸ htext)

end Mstpd.CtlMain
