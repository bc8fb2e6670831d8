import Mstpd.CText
import Mstpd.TextLines

/-!
# Batch files

`__process_batch_cmds` reads a batch file into a buffer of 64 characters and takes every piece for
a line. A long line is cut, and what is behind the cut is read as a command of its own.
-/

namespace Mstpd.CtlMain

open TextLines CText

abbrev Words := List (List Char)

/-- An entry of the table of commands. `func` works on whatever the commands change, and has no
result where it ends the program with `exit`. -/
structure Command (S : Type*) where
  nargs : Nat
  optargs : Nat
  name : List Char
  func : S → Words → S × Option Int
  format : List Char
  help : List Char

/-- What was done for the line of a given number. -/
inductive Call
  | tooMany (line : Nat)
  | looked (line : Nat) (argv : Words)
  | ran (line : Nat) (argv : Words)
  deriving DecidableEq

def Call.line : Call → Nat
  | .tooMany line | .looked line _ | .ran line _ => line

/-- What is left when a batch is processed. `calls` is not in the program. -/
structure Batch (S : Type*) where
  system : S
  cmds : Nat
  lineNum : Nat
  stderr : List Char
  calls : List Call

/-- What comes after a turn of the loop. -/
inductive Next
  | goesOn
  | returns
  | exits
  deriving DecidableEq

/-- What a line that failed leads to. -/
def Next.failed (ignore : Bool) : Next := if ignore then .goesOn else .returns

/-- `sizeof(line)`, less the final NUL. -/
def lineSize : Nat := 63

def argvSize : Nat := 8

def isDelim (c : Char) : Bool := c == ' ' || c == '\n'

section Processing

variable {S : Type*}

/-- Called with a line number, so without the help text. -/
def commandLookupAndValidate (commands : List (Command S)) (argv : Words) (lineNum : Nat) :
    Except (List Char) (Command S) :=
  let error := "Error on line ".toList ++ decimal lineNum ++ ":\n".toList
  match commands.find? (fun cmd => cmd.name == argv.headD []) with
  | none => .error (error ++ "Unknown command [".toList ++ argv.headD [] ++ "]\n".toList)
  | some cmd =>
    if argv.length < cmd.nargs + 1 ∨ cmd.nargs + cmd.optargs + 1 < argv.length then
      .error (error ++ "Incorrect number of arguments for command '".toList ++ cmd.name ++
        "'\nUsage: mstpctl ".toList ++ cmd.name ++ ' ' :: cmd.format ++ "\n  ".toList ++ cmd.help ++
        ['\n'])
    else .ok cmd

/-- The loop of `split_line_into_parts`, which gives up when `argv` is full. -/
def partsLoop : Nat → Option (List Char × List Char) → Option Words
  | _, none => some []
  | 0, some _ => none
  | room + 1, some (word, rest) =>
    if room = 0 then none else (partsLoop room (strtok isDelim rest)).map (word :: ·)

def splitLineIntoParts (line : List Char) (size : Nat) : Option Words :=
  partsLoop size (strtok isDelim line)

def skipLine (line : List Char) : Bool :=
  line.isEmpty || line.head? == some '\n' || line.head? == some '#'

/-- One turn of the loop, for a piece from a given line. -/
def batchTurn (commands : List (Command S)) (run ignore : Bool) (b : Batch S)
    (piece : List Char × Nat) : Batch S × Next :=
  let b := { b with lineNum := b.lineNum + 1 }
  if skipLine piece.1 then (b, .goesOn)
  else
    match splitLineIntoParts piece.1 argvSize with
    | none =>
      ({ b with
        stderr := b.stderr ++ "Too many elements on line '".toList ++ decimal b.lineNum ++
          "'\n".toList
        calls := b.calls ++ [.tooMany piece.2] }, .returns)
    | some [] => (b, .goesOn)
    | some argv =>
      let b := { b with calls := b.calls ++ [Call.looked piece.2 argv] }
      match commandLookupAndValidate commands argv b.lineNum with
      | .error message => ({ b with stderr := b.stderr ++ message }, .failed ignore)
      | .ok cmd =>
        if run then
          let result := cmd.func b.system argv
          let b := { b with system := result.1, calls := b.calls ++ [Call.ran piece.2 argv] }
          match result.2 with
          -- `--ignore` is of no use against `exit`
          | none => (b, .exits)
          | some rc =>
            if rc ≠ 0 then (b, .failed ignore) else ({ b with cmds := b.cmds + 1 }, .goesOn)
        else ({ b with cmds := b.cmds + 1 }, .goesOn)

/-- There is no result where a command has ended the program. -/
def batchLoop (commands : List (Command S)) (run ignore : Bool) :
    Batch S → List (List Char × Nat) → Batch S × Option Int
  | b, [] => (b, some b.cmds)
  | b, piece :: rest =>
    match batchTurn commands run ignore b piece with
    | (b, .goesOn) => batchLoop commands run ignore b rest
    | (b, .returns) => (b, some (-1))
    | (b, .exits) => (b, none)

/-- The pieces are read until nothing is left, each with the line that it is from. -/
def processBatchCmds (commands : List (Command S)) (run ignore : Bool) (system : S)
    (text : List Char) : Batch S × Option Int :=
  batchLoop commands run ignore ⟨system, 0, 0, [], []⟩ (numbered 1 (pieces lineSize text))

/-! ## Line by line -/

/-- What a line asks for. -/
def lineWords (line : List Char) : Words :=
  if line.head? = some '#' then [] else words isDelim line

/-- What is done for a line, and what the system is then if the next line is to be read. -/
def lineTurn (commands : List (Command S)) (run ignore : Bool) (system : S) (line : Nat)
    (argv : Words) : List Call × Option S :=
  if argv = [] then ([], some system)
  else if argvSize ≤ argv.length then ([.tooMany line], none)
  else
    match commandLookupAndValidate commands argv line with
    | .error _ => ([.looked line argv], if ignore then some system else none)
    | .ok cmd =>
      if run then
        let result := cmd.func system argv
        ([.looked line argv, .ran line argv],
          if result.2 = some 0 ∨ (result.2.isSome && ignore) = true then some result.1 else none)
      else ([.looked line argv], some system)

def lineCalls (commands : List (Command S)) (run ignore : Bool) :
    S → List (List Char × Nat) → List Call × Option S
  | system, [] => ([], some system)
  | system, line :: rest =>
    match lineTurn commands run ignore system line.2 (lineWords line.1) with
    | (calls, none) => (calls, none)
    | (calls, some system) =>
      let later := lineCalls commands run ignore system rest
      (calls ++ later.1, later.2)

/-! ## Lines that the buffer does not break up -/

def Blank (s : List Char) : Prop := ∀ c ∈ s, isDelim c = true

instance (s : List Char) : Decidable (Blank s) :=
  inferInstanceAs (Decidable (∀ c ∈ s, isDelim c = true))

/-- Every piece behind the first of a comment is blank or looks like a comment. Of another line
only one piece is not blank, and none looks like a comment, unless the first piece that is read
for a command has too many words already. -/
def Whole (line : List Char) : Prop :=
  if line.head? = some '#' then
    ∀ piece ∈ pieces lineSize line, piece.head? = some '#' ∨ Blank piece
  else
    ((∀ piece ∈ pieces lineSize line, piece.head? ≠ some '#') ∧
        ((pieces lineSize line).filter fun piece => !decide (Blank piece)).length ≤ 1) ∨
      ∃ piece, (pieces lineSize line).find? (fun piece =>
          !decide (piece.head? = some '#' ∨ Blank piece)) = some piece ∧
        argvSize ≤ (words isDelim piece).length

/-- The lines are whole, up to one at which reading stops. -/
def WholeLines (commands : List (Command S)) (run ignore : Bool) :
    S → List (List Char × Nat) → Prop
  | _, [] => True
  | system, line :: rest =>
    Whole line.1 ∧ ∀ system',
      (lineTurn commands run ignore system line.2 (lineWords line.1)).2 = some system' →
        WholeLines commands run ignore system' rest

end Processing

section Pieces

variable {s : List Char}

theorem partsLoop_eq (room : Nat) : ∀ s : List Char, room ≠ 0 →
    partsLoop room (strtok isDelim s) =
      if (words isDelim s).length < room then some (words isDelim s) else none := by
  induction room with
  | zero => exact fun s h => absurd rfl h
  | succ room ih =>
    intro s _
    have hwords := words_strtok (P := isDelim) s
    cases hcut : strtok isDelim s with
    | none =>
      rw [hcut] at hwords
      have hnil : words isDelim s = [] := hwords
      rw [hnil]
      exact (if_pos (Nat.zero_lt_succ room)).symm
    | some cut =>
      rw [hcut] at hwords
      have hcons : words isDelim s = cut.1 :: words isDelim cut.2 := hwords
      rw [hcons, partsLoop, List.length_cons]
      by_cases hroom : room = 0
      · rw [if_pos hroom, if_neg (by omega)]
      · rw [if_neg hroom, ih cut.2 hroom]
        by_cases hlength : (words isDelim cut.2).length < room
        · rw [if_pos hlength, if_pos (by omega)]
          rfl
        · rw [if_neg hlength, if_neg (by omega)]
          rfl

theorem splitLineIntoParts_eq : splitLineIntoParts s argvSize =
    if (words isDelim s).length < argvSize then some (words isDelim s) else none :=
  partsLoop_eq argvSize s (by decide)

theorem lineWords_eq_nil : lineWords s = [] ↔ s.head? = some '#' ∨ Blank s := by
  rw [lineWords]
  by_cases hs : s.head? = some '#'
  · simp [hs]
  · rw [if_neg hs, words_eq_nil, or_iff_right hs]
    rfl

theorem lineWords_ne_nil (h : lineWords s ≠ []) : lineWords s = words isDelim s := by
  rw [lineWords, if_neg]
  intro hs
  exact h (lineWords_eq_nil.mpr (Or.inl hs))

/-- A comment has a character that is not blank. -/
theorem Blank.head (h : Blank s) : s.head? ≠ some '#' := by
  intro hs
  cases s with
  | nil => cases hs
  | cons c s =>
    have hc := h c List.mem_cons_self
    rw [Option.some.inj hs] at hc
    cases hc

theorem skipLine_words (hne : s ≠ []) (hline : s.head? = some '\n' → s = ['\n']) :
    skipLine s = true → lineWords s = [] := by
  intro hskip
  obtain ⟨c, s, rfl⟩ := List.exists_cons_of_ne_nil hne
  have hc : c = '\n' ∨ c = '#' := by simpa [skipLine] using hskip
  rcases hc with rfl | rfl
  · rw [hline rfl]
    decide
  · exact if_pos rfl

theorem lineWords_of_not_skip (hskip : ¬ skipLine s = true) : lineWords s = words isDelim s := by
  rw [lineWords, if_neg]
  intro hs
  apply hskip
  simp [skipLine, hs]

/-- Blank text around a piece has no words. -/
theorem words_surrounded {before piece after : List Char} (hbefore : Blank before)
    (hafter : Blank after) :
    words isDelim (before ++ (piece ++ after)) = words isDelim piece := by
  rw [words_append_left hbefore, words_append_right hafter]

theorem blank_flatten {ps : List (List Char)} (h : ∀ p ∈ ps, Blank p) : Blank ps.flatten := by
  intro c hc
  obtain ⟨p, hp, hc⟩ := List.mem_flatten.mp hc
  exact h p hp c hc

end Pieces

section Turns

variable {S : Type*} {commands : List (Command S)} {run ignore : Bool} {system : S}

theorem commandLookupAndValidate_lineNum (argv : Words) (m n : Nat) :
    (commandLookupAndValidate commands argv m).toOption =
      (commandLookupAndValidate commands argv n).toOption := by
  rw [commandLookupAndValidate, commandLookupAndValidate]
  split
  · rfl
  · split <;> rfl

theorem lineTurn_nil {k : Nat} :
    lineTurn commands run ignore system k [] = ([], some system) := rfl

/-- What is done for a line starts with the words of the line, or with their number. -/
theorem lineTurn_first {k : Nat} {argv : Words} (h : argv ≠ []) :
    ∃ later, (lineTurn commands run ignore system k argv).1 =
      (if argvSize ≤ argv.length then .tooMany k else .looked k argv) :: later := by
  rw [lineTurn, if_neg h]
  by_cases hmany : argvSize ≤ argv.length
  · rw [if_pos hmany, if_pos hmany]
    exact ⟨[], rfl⟩
  · rw [if_neg hmany, if_neg hmany]
    split
    · exact ⟨[], rfl⟩
    · split
      · exact ⟨[_], rfl⟩
      · exact ⟨[], rfl⟩

theorem lineTurn_line {k : Nat} {argv : Words} {c : Call}
    (hc : c ∈ (lineTurn commands run ignore system k argv).1) : c.line = k := by
  rw [lineTurn] at hc
  split at hc
  · cases hc
  · split at hc
    · rw [List.mem_singleton.mp hc]
      rfl
    · split at hc
      · rw [List.mem_singleton.mp hc]
        rfl
      · split at hc
        · simp only [List.mem_cons, List.not_mem_nil, or_false] at hc
          rcases hc with rfl | rfl <;> rfl
        · rw [List.mem_singleton.mp hc]
          rfl

theorem lineCalls_line (ls : List (List Char × Nat)) : ∀ system, ∀ c ∈
    (lineCalls commands run ignore system ls).1, ∃ l ∈ ls, c.line = l.2 := by
  induction ls with
  | nil =>
    intro system c hc
    cases hc
  | cons l ls ih =>
    intro system c hc
    have hturn := @lineTurn_line S commands run ignore system l.2 (lineWords l.1) c
    rw [lineCalls] at hc
    rcases hstep : lineTurn commands run ignore system l.2 (lineWords l.1) with ⟨calls, next⟩
    rw [hstep] at hc hturn
    cases next with
    | none => exact ⟨l, List.mem_cons_self, hturn hc⟩
    | some system' =>
      rcases List.mem_append.mp hc with hc | hc
      · exact ⟨l, List.mem_cons_self, hturn hc⟩
      · obtain ⟨l', hl', hline⟩ := ih system' c hc
        exact ⟨l', List.mem_cons_of_mem l hl', hline⟩

theorem lineCalls_append (ls ls' : List (List Char × Nat)) : ∀ system,
    lineCalls commands run ignore system (ls ++ ls') =
      match lineCalls commands run ignore system ls with
      | (calls, none) => (calls, none)
      | (calls, some system) =>
        (calls ++ (lineCalls commands run ignore system ls').1,
          (lineCalls commands run ignore system ls').2) := by
  induction ls with
  | nil =>
    intro system
    rfl
  | cons l ls ih =>
    intro system
    rw [List.cons_append, lineCalls, lineCalls]
    rcases lineTurn commands run ignore system l.2 (lineWords l.1) with ⟨calls, next⟩
    cases next with
    | none => rfl
    | some system' =>
      dsimp only
      rw [ih system']
      rcases lineCalls commands run ignore system' ls with ⟨calls', next⟩
      cases next with
      | none => rfl
      | some system'' => simp

/-- Pieces that ask for nothing change nothing. -/
theorem lineCalls_idle (ls : List (List Char × Nat)) (h : ∀ l ∈ ls, lineWords l.1 = []) :
    lineCalls commands run ignore system ls = ([], some system) := by
  induction ls with
  | nil => rfl
  | cons l ls ih =>
    rw [lineCalls, h l List.mem_cons_self, lineTurn_nil]
    dsimp only
    rw [ih fun l' hl' => h l' (List.mem_cons_of_mem l hl')]
    rfl

/-- What a turn does is what is to be done for the words of the piece. -/
theorem batchTurn_eq {b : Batch S} {piece : List Char × Nat} (hne : piece.1 ≠ [])
    (hline : piece.1.head? = some '\n' → piece.1 = ['\n']) :
    ∃ b' next, batchTurn commands run ignore b piece = (b', next) ∧
      b'.calls = b.calls ++
        (lineTurn commands run ignore b.system piece.2 (lineWords piece.1)).1 ∧
      (lineTurn commands run ignore b.system piece.2 (lineWords piece.1)).2 =
        if next = .goesOn then some b'.system else none := by
  rw [batchTurn]
  dsimp only
  by_cases hskip : skipLine piece.1 = true
  · rw [if_pos hskip, skipLine_words hne hline hskip, lineTurn_nil]
    exact ⟨_, _, rfl, (List.append_nil _).symm, rfl⟩
  rw [if_neg hskip, splitLineIntoParts_eq, lineWords_of_not_skip hskip]
  by_cases hmany : argvSize ≤ (words isDelim piece.1).length
  · have hne : words isDelim piece.1 ≠ [] := by
      intro hnil
      rw [hnil] at hmany
      exact absurd hmany (by decide)
    rw [if_neg (by omega), lineTurn, if_neg hne, if_pos hmany]
    exact ⟨_, _, rfl, rfl, rfl⟩
  rw [if_pos (by omega)]
  cases hwords : words isDelim piece.1 with
  | nil => exact ⟨_, _, rfl, (List.append_nil _).symm, rfl⟩
  | cons word rest =>
    rw [hwords] at hmany
    dsimp only
    rw [lineTurn, if_neg (List.cons_ne_nil _ _), if_neg hmany]
    have hlookup := @commandLookupAndValidate_lineNum S commands (word :: rest) (b.lineNum + 1)
      piece.2
    cases hfound : commandLookupAndValidate commands (word :: rest) piece.2 with
    | error message =>
      rw [hfound] at hlookup
      cases hfound' : commandLookupAndValidate commands (word :: rest) (b.lineNum + 1) with
      | error message' =>
        refine ⟨_, _, rfl, rfl, ?_⟩
        cases ignore <;> rfl
      | ok cmd =>
        rw [hfound'] at hlookup
        cases hlookup
    | ok cmd =>
      rw [hfound] at hlookup
      cases hfound' : commandLookupAndValidate commands (word :: rest) (b.lineNum + 1) with
      | error message' =>
        rw [hfound'] at hlookup
        cases hlookup
      | ok cmd' =>
        rw [hfound'] at hlookup
        obtain rfl : cmd' = cmd := Option.some.inj hlookup
        dsimp only
        cases run with
        | false => exact ⟨_, _, rfl, rfl, rfl⟩
        | true =>
          rw [if_pos rfl, if_pos rfl]
          cases hresult : (cmd'.func b.system (word :: rest)).2 with
          | none =>
            refine ⟨_, _, rfl, by simp, ?_⟩
            rw [if_neg (by simp), if_neg (by decide)]
          | some rc =>
            dsimp only
            by_cases hzero : rc = 0
            · rw [if_neg (not_not_intro hzero), if_pos (Or.inl (congrArg some hzero))]
              exact ⟨_, _, rfl, by simp, rfl⟩
            · rw [if_pos hzero]
              refine ⟨_, _, rfl, by simp, ?_⟩
              cases ignore <;> simp [Next.failed, hzero]

theorem batchLoop_calls (ps : List (List Char × Nat))
    (hps : ∀ p ∈ ps, p.1 ≠ [] ∧ (p.1.head? = some '\n' → p.1 = ['\n'])) : ∀ b : Batch S,
    (batchLoop commands run ignore b ps).1.calls =
      b.calls ++ (lineCalls commands run ignore b.system ps).1 := by
  induction ps with
  | nil => exact fun b => (List.append_nil _).symm
  | cons p ps ih =>
    intro b
    obtain ⟨hne, hline⟩ := hps p List.mem_cons_self
    obtain ⟨b', after, hturn, hcalls, hnext⟩ := @batchTurn_eq S commands run ignore b p hne hline
    rw [batchLoop, hturn, lineCalls]
    rcases hstep : lineTurn commands run ignore b.system p.2 (lineWords p.1) with ⟨calls, next⟩
    rw [hstep] at hcalls hnext
    dsimp only at hcalls hnext
    subst hnext
    cases after with
    | returns => exact hcalls
    | exits => exact hcalls
    | goesOn =>
      dsimp only [if_true]
      rw [ih (fun q hq => hps q (List.mem_cons_of_mem p hq)) b', hcalls, List.append_assoc]
      rfl

end Turns

/-! ## What the pieces of a line ask for -/

section Whole

variable {S : Type*} {commands : List (Command S)} {run ignore : Bool} {system : S}
  {line : List Char}

theorem pieces_flatten (line : List Char) : (pieces lineSize line).flatten = line :=
  flatten_pieces (by decide) line.length line (Nat.le_refl _)

/-- The first piece that asks for something, with the idle ones before it. -/
theorem find_piece (ps : List (List Char)) : (∀ p ∈ ps, lineWords p = []) ∨
    ∃ before p after, ps = before ++ p :: after ∧ (∀ q ∈ before, lineWords q = []) ∧
      lineWords p ≠ [] := by
  induction ps with
  | nil => exact Or.inl nofun
  | cons p ps ih =>
    by_cases hp : lineWords p = []
    · rcases ih with hall | ⟨before, q, after, rfl, hbefore, hq⟩
      · refine Or.inl fun q hq => ?_
        rcases List.mem_cons.mp hq with rfl | hq
        · exact hp
        · exact hall q hq
      · refine Or.inr ⟨p :: before, q, after, rfl, fun r hr => ?_, hq⟩
        rcases List.mem_cons.mp hr with rfl | hr
        · exact hp
        · exact hbefore r hr
    · exact Or.inr ⟨[], p, ps, rfl, nofun, hp⟩

/-- What is done for the pieces of a line. -/
def pieceCalls (commands : List (Command S)) (run ignore : Bool) (system : S) (k : Nat)
    (line : List Char) : List Call × Option S :=
  lineCalls commands run ignore system ((pieces lineSize line).map fun p => (p, k))

theorem pieceCalls_idle {k : Nat} (h : ∀ p ∈ pieces lineSize line, lineWords p = []) :
    pieceCalls commands run ignore system k line = ([], some system) := by
  apply lineCalls_idle
  intro l hl
  obtain ⟨p, hp, rfl⟩ := List.mem_map.mp hl
  exact h p hp

/-- The idle pieces before the first other one do not count. -/
theorem pieceCalls_first {k : Nat} {before after : List (List Char)} {p : List Char}
    (hpieces : pieces lineSize line = before ++ p :: after)
    (hbefore : ∀ q ∈ before, lineWords q = []) :
    pieceCalls commands run ignore system k line =
      lineCalls commands run ignore system ((p :: after).map fun q => (q, k)) := by
  have hidle := @lineCalls_idle S commands run ignore system (before.map fun q => (q, k)) (by
      intro l hl
      obtain ⟨q, hq, rfl⟩ := List.mem_map.mp hl
      exact hbefore q hq)
  rw [pieceCalls, hpieces, List.map_append, lineCalls_append, hidle]
  rfl

theorem find_read {before after : List (List Char)} {p : List Char}
    (hbefore : ∀ q ∈ before, lineWords q = []) (hp : lineWords p ≠ []) :
    (before ++ p :: after).find? (fun piece =>
      !decide (piece.head? = some '#' ∨ Blank piece)) = some p := by
  rw [List.find?_append, List.find?_eq_none.mpr, Option.none_or, List.find?_cons_of_pos]
  · simpa [lineWords_eq_nil] using hp
  · intro q hq
    have hidle := lineWords_eq_nil.mp (hbefore q hq)
    rw [decide_eq_true hidle]
    decide

theorem filter_blank {ps : List (List Char)} (h : ∀ p ∈ ps, Blank p) :
    (ps.filter fun p => !decide (Blank p)) = [] := by
  apply List.filter_eq_nil_iff.mpr
  intro p hp
  simp [h p hp]

theorem lineTurn_many {k : Nat} {argv : Words} (h : argvSize ≤ argv.length) :
    lineTurn commands run ignore system k argv = ([.tooMany k], none) := by
  have hne : argv ≠ [] := by
    rintro rfl
    exact absurd h (by decide)
  rw [lineTurn, if_neg hne, if_pos h]

/-- A piece followed by idle ones. -/
theorem lineCalls_single {k : Nat} {p : List Char} {after : List (List Char)}
    (hafter : ∀ q ∈ after, lineWords q = []) :
    lineCalls commands run ignore system ((p :: after).map fun q => (q, k)) =
      lineTurn commands run ignore system k (lineWords p) := by
  rw [List.map_cons, lineCalls]
  rcases lineTurn commands run ignore system k (lineWords p) with ⟨calls, next⟩
  cases next with
  | none => rfl
  | some system' =>
    dsimp only
    rw [lineCalls_idle]
    · exact Prod.ext (List.append_nil calls) rfl
    · intro l hl
      obtain ⟨q, hq, rfl⟩ := List.mem_map.mp hl
      exact hafter q hq

/-- A line that is whole is read as one. -/
theorem Whole.calls (hwhole : Whole line) (k : Nat) :
    pieceCalls commands run ignore system k line =
      lineTurn commands run ignore system k (lineWords line) := by
  have hflatten := pieces_flatten line
  rw [Whole] at hwhole
  rcases find_piece (pieces lineSize line) with hall | ⟨before, p, after, hpieces, hbefore, hp⟩
  · rw [pieceCalls_idle hall]
    suffices hidle : lineWords line = [] by rw [hidle, lineTurn_nil]
    by_cases hcomment : line.head? = some '#'
    · exact if_pos hcomment
    rw [if_neg hcomment] at hwhole
    rcases hwhole with ⟨hplain, -⟩ | ⟨p, hfind, -⟩
    · refine lineWords_eq_nil.mpr (Or.inr ?_)
      rw [← hflatten]
      apply blank_flatten
      intro p hp
      exact (lineWords_eq_nil.mp (hall p hp)).resolve_left (hplain p hp)
    · have hread := List.find?_some hfind
      have hidle := lineWords_eq_nil.mp (hall p (List.mem_of_find?_eq_some hfind))
      rw [decide_eq_true hidle] at hread
      cases hread
  · rw [pieceCalls_first hpieces hbefore]
    have hmem : p ∈ pieces lineSize line := by simp [hpieces]
    by_cases hcomment : line.head? = some '#'
    · rw [if_pos hcomment] at hwhole
      exact absurd (lineWords_eq_nil.mpr (hwhole p hmem)) hp
    rw [if_neg hcomment] at hwhole
    have hline : lineWords line = words isDelim line := if_neg hcomment
    rw [hpieces, List.flatten_append, List.flatten_cons] at hflatten
    rw [hpieces] at hwhole
    rcases hwhole with ⟨hplain, hlength⟩ | ⟨q, hfind, hmany⟩
    · have hblank : ∀ q ∈ before, Blank q := by
        intro q hq
        exact (lineWords_eq_nil.mp (hbefore q hq)).resolve_left
          (hplain q (List.mem_append_left _ hq))
      have hread : ¬ Blank p := fun h => hp (lineWords_eq_nil.mpr (Or.inr h))
      rw [List.filter_append, filter_blank hblank, List.nil_append,
        List.filter_cons_of_pos (by simp [hread]), List.length_cons] at hlength
      have hnone : (after.filter fun q => !decide (Blank q)) = [] :=
        List.length_eq_zero_iff.mp (by omega)
      have hafter : ∀ q ∈ after, Blank q := by
        intro q hq
        simpa using List.filter_eq_nil_iff.mp hnone q hq
      rw [lineCalls_single fun q hq => lineWords_eq_nil.mpr (Or.inr (hafter q hq)), hline,
        ← hflatten, words_surrounded (blank_flatten hblank) (blank_flatten hafter),
        lineWords_ne_nil hp]
    · rw [find_read hbefore hp] at hfind
      obtain rfl := Option.some.inj hfind
      have hmore : argvSize ≤ (words isDelim line).length := by
        rw [← hflatten]
        exact Nat.le_trans hmany
          (Nat.le_trans length_words_append_right length_words_append_left)
      rw [List.map_cons, lineCalls, lineWords_ne_nil hp, lineTurn_many hmany, hline,
        lineTurn_many hmore]

/-- Of a line that is not whole something else is asked for. -/
theorem whole_of_calls {k : Nat} (hcalls : (pieceCalls commands run ignore system k line).1 =
    (lineTurn commands run ignore system k (lineWords line)).1) : Whole line := by
  have hflatten := pieces_flatten line
  have hidle : (lineTurn commands run ignore system k (lineWords line)).1 = [] →
      lineWords line = [] := by
    intro hnil
    by_contra hne
    obtain ⟨later, hfirst⟩ := @lineTurn_first S commands run ignore system k _ hne
    rw [hfirst] at hnil
    cases hnil
  rw [Whole]
  rcases find_piece (pieces lineSize line) with hall | ⟨before, p, after, hpieces, hbefore, hp⟩
  · by_cases hcomment : line.head? = some '#'
    · rw [if_pos hcomment]
      exact fun p hp => lineWords_eq_nil.mp (hall p hp)
    rw [if_neg hcomment]
    rw [pieceCalls_idle hall] at hcalls
    have hblank := (lineWords_eq_nil.mp (hidle hcalls.symm)).resolve_left hcomment
    rw [← hflatten] at hblank
    have hpieces : ∀ p ∈ pieces lineSize line, Blank p :=
      fun p hp c hc => hblank c (List.mem_flatten.mpr ⟨p, hp, hc⟩)
    refine Or.inl ⟨fun p hp => (hpieces p hp).head, ?_⟩
    rw [filter_blank hpieces]
    exact Nat.zero_le 1
  · obtain ⟨later, hfirst⟩ := @lineTurn_first S commands run ignore system k _ hp
    have hstart : ∃ later, (pieceCalls commands run ignore system k line).1 =
        (if argvSize ≤ (lineWords p).length then .tooMany k else .looked k (lineWords p)) ::
          later := by
      rw [pieceCalls_first hpieces hbefore, List.map_cons, lineCalls]
      rcases hturn : lineTurn commands run ignore system k (lineWords p) with ⟨calls, next⟩
      rw [hturn] at hfirst
      dsimp only at hfirst
      subst hfirst
      cases next with
      | none => exact ⟨later, rfl⟩
      | some system' => exact ⟨_, rfl⟩
    obtain ⟨later', hstart⟩ := hstart
    by_cases hcomment : line.head? = some '#'
    · have hnone : lineWords line = [] := if_pos hcomment
      rw [hstart, hnone] at hcalls
      cases hcalls
    rw [if_neg hcomment]
    have hline : lineWords line = words isDelim line := if_neg hcomment
    have hne : lineWords line ≠ [] := by
      intro hnil
      rw [hstart, hnil] at hcalls
      cases hcalls
    obtain ⟨later'', hfirst'⟩ := @lineTurn_first S commands run ignore system k _ hne
    rw [hstart, hfirst'] at hcalls
    have hhead := (List.cons.inj hcalls).1
    rw [lineWords_ne_nil hp, hline] at hhead
    by_cases hmany : argvSize ≤ (words isDelim p).length
    · refine Or.inr ⟨p, ?_, hmany⟩
      rw [hpieces]
      exact find_read hbefore hp
    rw [if_neg hmany] at hhead
    have hwords : words isDelim p = words isDelim line := by
      split at hhead
      · cases hhead
      · exact (Call.looked.inj hhead).2
    have hread : ¬ Blank p := fun h => hp (lineWords_eq_nil.mpr (Or.inr h))
    rw [hpieces, List.flatten_append, List.flatten_cons] at hflatten
    have hletters := congrArg List.flatten hwords
    rw [flatten_words, flatten_words, ← hflatten, List.filter_append,
      List.filter_append] at hletters
    have hlength := congrArg List.length hletters
    rw [List.length_append, List.length_append] at hlength
    have hbefore' : ∀ q ∈ before, Blank q := by
      have hnil : before.flatten.filter (fun c => !isDelim c) = [] :=
        List.length_eq_zero_iff.mp (by omega)
      intro q hq c hc
      simpa using List.filter_eq_nil_iff.mp hnil c (List.mem_flatten.mpr ⟨q, hq, hc⟩)
    have hafter : ∀ q ∈ after, Blank q := by
      have hnil : after.flatten.filter (fun c => !isDelim c) = [] :=
        List.length_eq_zero_iff.mp (by omega)
      intro q hq c hc
      simpa using List.filter_eq_nil_iff.mp hnil c (List.mem_flatten.mpr ⟨q, hq, hc⟩)
    rw [hpieces]
    refine Or.inl ⟨fun q hq => ?_, ?_⟩
    · rcases List.mem_append.mp hq with hq | hq
      · exact (hbefore' q hq).head
      · rcases List.mem_cons.mp hq with rfl | hq
        · exact fun h => hp (lineWords_eq_nil.mpr (Or.inl h))
        · exact (hafter q hq).head
    · rw [List.filter_append, filter_blank hbefore', List.nil_append,
        List.filter_cons_of_pos (by simp [hread]), filter_blank hafter]
      exact Nat.le_refl 1

end Whole

/-! ## Whole texts -/

section Texts

variable {S : Type*} {commands : List (Command S)} {run ignore : Bool}

/-- Calls for different lines keep apart. -/
theorem calls_apart {calls later calls' later' : List Call} {k : Nat}
    (h : calls ++ later = calls' ++ later') (hcalls : ∀ c ∈ calls, c.line = k)
    (hcalls' : ∀ c ∈ calls', c.line = k) (hlater : ∀ c ∈ later, c.line ≠ k)
    (hlater' : ∀ c ∈ later', c.line ≠ k) : calls = calls' := by
  have hpart : ∀ calls later : List Call, (∀ c ∈ calls, c.line = k) → (∀ c ∈ later, c.line ≠ k) →
      (calls ++ later).filter (fun c => decide (c.line = k)) = calls := by
    intro calls later hcalls hlater
    rw [List.filter_append, List.filter_eq_self.mpr fun c hc => decide_eq_true (hcalls c hc),
      List.filter_eq_nil_iff.mpr fun c hc => by simp [hlater c hc], List.append_nil]
  rw [← hpart calls later hcalls hlater, h, hpart calls' later' hcalls' hlater']

theorem lineCalls_append_fst {system : S} (ls ls' : List (List Char × Nat)) :
    (lineCalls commands run ignore system (ls ++ ls')).1 =
      (lineCalls commands run ignore system ls).1 ++
        (lineCalls commands run ignore system ls).2.elim []
          fun system' => (lineCalls commands run ignore system' ls').1 := by
  rw [lineCalls_append]
  rcases lineCalls commands run ignore system ls with ⟨calls, next⟩
  cases next with
  | none => exact (List.append_nil calls).symm
  | some system' => rfl

theorem lineCalls_cons_fst {system : S} (l : List Char × Nat) (ls : List (List Char × Nat)) :
    (lineCalls commands run ignore system (l :: ls)).1 =
      (lineTurn commands run ignore system l.2 (lineWords l.1)).1 ++
        (lineTurn commands run ignore system l.2 (lineWords l.1)).2.elim []
          fun system' => (lineCalls commands run ignore system' ls).1 := by
  rw [lineCalls]
  rcases lineTurn commands run ignore system l.2 (lineWords l.1) with ⟨calls, next⟩
  cases next with
  | none => exact (List.append_nil calls).symm
  | some system' => rfl

/-- What is done later is done for later lines. -/
theorem later_line {k : Nat} {ls : List (List Char × Nat)} (hls : ∀ l ∈ ls, k < l.2)
    (next : Option S) :
    ∀ c ∈ next.elim [] fun system' => (lineCalls commands run ignore system' ls).1,
      c.line ≠ k := by
  intro c hc
  cases next with
  | none => cases hc
  | some system' =>
    obtain ⟨l, hl, hline⟩ := lineCalls_line ls system' c hc
    have hlt := hls l hl
    omega

/-- The lines of a text, read in pieces. -/
def readInPieces (ls : List (List Char × Nat)) : List (List Char × Nat) :=
  ls.flatMap fun line => (pieces lineSize line.1).map fun p => (p, line.2)

theorem readInPieces_calls (lines : List (List Char)) : ∀ (k : Nat) (system : S),
    (lineCalls commands run ignore system (readInPieces (lines.zipIdx k))).1 =
      (lineCalls commands run ignore system (lines.zipIdx k)).1 ↔
    WholeLines commands run ignore system (lines.zipIdx k) := by
  induction lines with
  | nil =>
    intro k system
    exact ⟨fun _ => trivial, fun _ => rfl⟩
  | cons line lines ih =>
    intro k system
    have hlater : ∀ l ∈ lines.zipIdx (k + 1), k < l.2 :=
      fun l hl => (List.mem_zipIdx (x := l.1) (i := l.2) hl).1
    have hlater' : ∀ l ∈ readInPieces (lines.zipIdx (k + 1)), k < l.2 := by
      intro l hl
      obtain ⟨l', hl', hl⟩ := List.mem_flatMap.mp hl
      obtain ⟨p, -, rfl⟩ := List.mem_map.mp hl
      exact hlater l' hl'
    have hcons : readInPieces ((line, k) :: lines.zipIdx (k + 1)) =
        (pieces lineSize line).map (fun p => (p, k)) ++ readInPieces (lines.zipIdx (k + 1)) := rfl
    have hpieces : lineCalls commands run ignore system
        ((pieces lineSize line).map fun p => (p, k)) =
        pieceCalls commands run ignore system k line := rfl
    rw [List.zipIdx_cons, hcons, lineCalls_append_fst, hpieces, lineCalls_cons_fst, WholeLines]
    dsimp only
    constructor
    · intro hcalls
      have hwhole : Whole line := by
        apply @whole_of_calls S commands run ignore system line k
        apply calls_apart hcalls
        · intro c hc
          obtain ⟨l, hl, hline⟩ := lineCalls_line _ system c hc
          obtain ⟨p, -, rfl⟩ := List.mem_map.mp hl
          exact hline
        · exact fun c hc => lineTurn_line hc
        · exact later_line hlater' _
        · exact later_line hlater _
      rw [hwhole.calls, List.append_cancel_left_eq] at hcalls
      refine ⟨hwhole, fun system' hnext => (ih (k + 1) system').mp ?_⟩
      rw [hnext] at hcalls
      exact hcalls
    · rintro ⟨hwhole, hrest⟩
      rw [hwhole.calls, List.append_cancel_left_eq]
      cases hnext : (lineTurn commands run ignore system k (lineWords line)).2 with
      | none => rfl
      | some system' => exact (ih (k + 1) system').mpr (hrest system' hnext)

end Texts

/-- What is looked up and run is what the lines ask for, line by line, just when the buffer breaks
up none of the lines that are reached. -/
theorem batch_lines {S : Type*} (commands : List (Command S)) (run ignore : Bool) (system : S)
    (text : List Char) :
    (processBatchCmds commands run ignore system text).1.calls =
        (lineCalls commands run ignore system ((lines text).zipIdx 1)).1 ↔
      WholeLines commands run ignore system ((lines text).zipIdx 1) := by
  have hpieces := numbered_pieces (n := lineSize) (by decide) text.length text 1 (Nat.le_refl _)
  have hmem : ∀ p ∈ numbered 1 (pieces lineSize text),
      p.1 ≠ [] ∧ (p.1.head? = some '\n' → p.1 = ['\n']) := by
    intro p hp
    rw [hpieces] at hp
    obtain ⟨l, -, hp⟩ := List.mem_flatMap.mp hp
    obtain ⟨q, hq, rfl⟩ := List.mem_map.mp hp
    exact mem_pieces (by decide) l.1.length l.1 (Nat.le_refl _) q hq
  rw [processBatchCmds, batchLoop_calls _ hmem, hpieces]
  exact readInPieces_calls (lines text) 1 system

/-- A command with a list that is longer than the buffer. -/
def longLine : List Char :=
  "setvid2fid br0 1:1-100,200-300,400-500,600-700,800-900,1000-1100,1200-1300\n".toList

/-- As it stands in the table, but for what it does. -/
def setvid2fid : Command Unit where
  nargs := 2
  optargs := 32
  name := "setvid2fid".toList
  func system _ := (system, some 0)
  format := []
  help := []

def Call.argv : Call → Words
  | .tooMany _ => []
  | .looked _ argv | .ran _ argv => argv

theorem longLine_cut :
    (processBatchCmds [setvid2fid] true false () longLine).1.calls.map Call.argv =
        [["setvid2fid".toList, "br0".toList,
            "1:1-100,200-300,400-500,600-700,800-900,1000-110".toList],
          ["setvid2fid".toList, "br0".toList,
            "1:1-100,200-300,400-500,600-700,800-900,1000-110".toList],
          ["0,1200-1300".toList]] ∧
      (processBatchCmds [setvid2fid] true false () longLine).1.calls.map Call.argv ≠
        (lineCalls [setvid2fid] true false () ((lines longLine).zipIdx 1)).1.map Call.argv := by
  decide +kernel

end Mstpd.CtlMain
