import Mathlib.Data.List.TakeWhile
import Mathlib.Tactic.Common

/-!
# Lines and words

The lines of a text and the words of a line, beside what `fgets` reads into a buffer and what
`strtok` cuts off. A buffer that is shorter than a line cuts it into pieces.
-/

namespace TextLines

/-! ## Words -/

/-- The words between characters that meet `P`. -/
def words (P : Char → Bool) (s : List Char) : List (List Char) :=
  (s.splitOnP P).filter fun t => !t.isEmpty

/-- The first word, and what stands after the character that ends it. -/
def strtok (P : Char → Bool) (s : List Char) : Option (List Char × List Char) :=
  match s.dropWhile P with
  | [] => none
  | c :: s' => some ((c :: s').takeWhile (fun c => !P c), ((c :: s').dropWhile fun c => !P c).tail)

section Words

variable {P : Char → Bool} {c : Char} {s t : List Char}

@[simp] theorem words_nil : words P [] = [] := rfl

theorem words_delim (hc : P c = true) : words P (c :: s) = words P s := by
  rw [words, List.splitOnP_cons_eq_if_modifyHead, if_pos hc]
  rfl

theorem splitOnP_append (ht : ∀ c ∈ t, P c = false) :
    (t ++ s).splitOnP P = (s.splitOnP P).modifyHead (t ++ ·) := by
  induction t with
  | nil =>
    cases hsplit : s.splitOnP P with
    | nil => exact absurd hsplit (List.splitOnP_ne_nil P s)
    | cons a l => rw [List.nil_append, hsplit]; rfl
  | cons c t ih =>
    have hc : ¬ P c = true := by simp [ht c List.mem_cons_self]
    rw [List.cons_append, List.splitOnP_cons_eq_if_modifyHead, if_neg hc,
      ih fun d hd => ht d (List.mem_cons_of_mem c hd), List.modifyHead_modifyHead]
    rfl

/-- A word and the rest of the text. -/
theorem words_word (ht : ∀ c ∈ t, P c = false) (hne : t ≠ []) (hs : s.head?.all P = true) :
    words P (t ++ s) = t :: words P s := by
  have hkeep : (!t.isEmpty) = true := by simpa using hne
  rw [words, splitOnP_append ht]
  cases s with
  | nil =>
    rw [List.splitOnP_nil]
    simp [hne, words]
  | cons d s =>
    have hd : P d = true := by simpa using hs
    rw [List.splitOnP_cons_eq_if_modifyHead, if_pos hd, List.modifyHead_cons, List.append_nil,
      words_delim hd]
    exact List.filter_cons_of_pos hkeep

theorem head_dropWhile {Q : Char → Bool} (s : List Char) :
    (s.dropWhile Q).head?.all (fun c => !Q c) = true := by
  cases hdrop : s.dropWhile Q with
  | nil => rfl
  | cons c r =>
    have hc := List.head?_dropWhile_not Q s
    simp only [hdrop, List.head?_cons] at hc
    simp [hc]

theorem words_dropWhile (s : List Char) : words P (s.dropWhile P) = words P s := by
  induction s with
  | nil => rfl
  | cons c s ih =>
    by_cases hc : P c = true
    · rw [List.dropWhile_cons_of_pos hc, ih, words_delim hc]
    · rw [List.dropWhile_cons_of_neg hc]

/-- `strtok` cuts off the first word. -/
theorem words_strtok (s : List Char) :
    words P s = (strtok P s).elim [] fun cut => cut.1 :: words P cut.2 := by
  rw [← words_dropWhile s, strtok]
  have hhead := head_dropWhile (Q := P) s
  cases hdrop : s.dropWhile P with
  | nil => rfl
  | cons c r =>
    rw [hdrop] at hhead
    have hc : P c = false := by simpa using hhead
    have hword : ∀ d ∈ (c :: r).takeWhile (fun c => !P c), P d = false := by
      intro d hd
      have hmem := List.mem_takeWhile_imp hd
      simpa using hmem
    have hne : (c :: r).takeWhile (fun c => !P c) ≠ [] := by
      rw [List.takeWhile_cons_of_pos (by simp [hc])]
      exact List.cons_ne_nil _ _
    have hrest := head_dropWhile (Q := fun c => !P c) (c :: r)
    simp only [Bool.not_not] at hrest
    have hsplit := words_word hword hne hrest
    rw [List.takeWhile_append_dropWhile] at hsplit
    rw [hsplit]
    dsimp only [Option.elim]
    cases hdrop' : (c :: r).dropWhile (fun c => !P c) with
    | nil => rfl
    | cons d r' =>
      rw [hdrop'] at hrest
      rw [words_delim (by simpa using hrest), List.tail_cons]

theorem words_cons (hc : P c = false) :
    words P (c :: s) = if s.head?.any (fun d => !P d) then (words P s).modifyHead (c :: ·)
      else [c] :: words P s := by
  have hone : ∀ d ∈ [c], P d = false := fun d hd => List.mem_singleton.mp hd ▸ hc
  cases s with
  | nil => exact words_word hone (List.cons_ne_nil c []) rfl
  | cons d s =>
    cases hd : P d with
    | true =>
      have hsplit := words_word (s := d :: s) hone (List.cons_ne_nil c []) (by simpa using hd)
      simpa [hd] using hsplit
    | false =>
      have hword : ∀ e ∈ (d :: s).takeWhile (fun c => !P c), P e = false := by
        intro e he
        have hmem := List.mem_takeWhile_imp he
        simpa using hmem
      have hne : (d :: s).takeWhile (fun c => !P c) ≠ [] := by
        rw [List.takeWhile_cons_of_pos (by simp [hd])]
        exact List.cons_ne_nil _ _
      have hrest := head_dropWhile (Q := fun c => !P c) (d :: s)
      simp only [Bool.not_not] at hrest
      have hshort := words_word hword hne hrest
      have hlong := words_word (t := c :: (d :: s).takeWhile (fun c => !P c))
        (fun e he => by
          rcases List.mem_cons.mp he with rfl | he
          · exact hc
          · exact hword e he) (List.cons_ne_nil _ _) hrest
      rw [List.cons_append, List.takeWhile_append_dropWhile] at hlong
      rw [List.takeWhile_append_dropWhile] at hshort
      rw [hlong, hshort]
      simp [hd]

theorem flatten_words (s : List Char) : (words P s).flatten = s.filter fun c => !P c := by
  induction s with
  | nil => rfl
  | cons c s ih =>
    cases hc : P c with
    | true =>
      rw [words_delim hc, ih, List.filter_cons_of_neg (by simp [hc])]
    | false =>
      rw [words_cons hc, List.filter_cons_of_pos (by simp [hc]), ← ih]
      split
      · rename_i hhead
        cases hwords : words P s with
        | nil =>
          rw [hwords] at ih
          obtain ⟨d, s', rfl⟩ : ∃ d s', s = d :: s' := by
            cases s with
            | nil => cases hhead
            | cons d s' => exact ⟨d, s', rfl⟩
          rw [List.filter_cons_of_pos (by simpa using hhead)] at ih
          cases ih
        | cons t ts => rfl
      · rfl

theorem words_eq_nil : words P s = [] ↔ ∀ c ∈ s, P c = true := by
  have hflatten := flatten_words (P := P) s
  constructor
  · intro hnil
    rw [hnil] at hflatten
    have hfilter := List.filter_eq_nil_iff.mp hflatten.symm
    intro c hc
    simpa using hfilter c hc
  · intro hall
    cases s with
    | nil => rfl
    | cons c s =>
      have hdrop : (c :: s).dropWhile P = [] := List.dropWhile_eq_nil_iff.mpr hall
      rw [← words_dropWhile, hdrop]
      rfl

theorem words_append_left (hs : ∀ c ∈ s, P c = true) : words P (s ++ t) = words P t := by
  induction s with
  | nil => rfl
  | cons c s ih =>
    rw [List.cons_append, words_delim (hs c List.mem_cons_self)]
    exact ih fun d hd => hs d (List.mem_cons_of_mem c hd)

theorem words_append_right (ht : ∀ c ∈ t, P c = true) : words P (s ++ t) = words P s := by
  induction s with
  | nil => exact words_eq_nil.mpr ht
  | cons c s ih =>
    cases hc : P c with
    | true => rw [List.cons_append, words_delim hc, words_delim hc, ih]
    | false =>
      rw [List.cons_append, words_cons hc, words_cons hc, ih]
      cases s with
      | nil =>
        cases t with
        | nil => rfl
        | cons d t => simp [ht d List.mem_cons_self]
      | cons d s => rfl

theorem length_words_cons : (words P (c :: s)).length = (words P s).length +
    if P c = false ∧ s.head?.any (fun d => !P d) = false then 1 else 0 := by
  cases hc : P c with
  | true => simp [words_delim hc]
  | false =>
    rw [words_cons hc]
    cases s.head?.any (fun d => !P d) <;> simp

theorem length_words_append_left : (words P t).length ≤ (words P (s ++ t)).length := by
  induction s with
  | nil => exact Nat.le_refl _
  | cons c s ih =>
    rw [List.cons_append, length_words_cons]
    omega

/-- Text behind a text takes no word away. -/
theorem length_words_append_right : (words P s).length ≤ (words P (s ++ t)).length := by
  induction s with
  | nil => exact Nat.zero_le _
  | cons c s ih =>
    cases s with
    | cons d s =>
      rw [length_words_cons, List.cons_append, length_words_cons (s := d :: s ++ t)]
      exact Nat.add_le_add_right ih _
    | nil =>
      cases hc : P c with
      | true => simp [words_delim hc]
      | false =>
        have hne : words P ([c] ++ t) ≠ [] := by
          intro hnil
          have hdelim := words_eq_nil.mp hnil c List.mem_cons_self
          rw [hc] at hdelim
          cases hdelim
        rw [words_cons hc]
        exact List.length_pos_iff.mpr hne

end Words

/-! ## Lines -/

/-- The lines of a text, each with the newline that ends it. -/
def lines : List Char → List (List Char)
  | [] => []
  | c :: s =>
    if c = '\n' then ['\n'] :: lines s
    else
      match lines s with
      | [] => [[c]]
      | l :: ls => (c :: l) :: ls

/-- What `fgets` reads at most `n` characters of, and what is left. -/
def fgets : Nat → List Char → List Char × List Char
  | 0, s => ([], s)
  | _ + 1, [] => ([], [])
  | n + 1, c :: s =>
    if c = '\n' then (['\n'], s)
    else
      let read := fgets n s
      (c :: read.1, read.2)

/-- What is read until nothing is left, `n` characters at most at a time. -/
def reads (n : Nat) : Nat → List Char → List (List Char)
  | 0, _ => []
  | fuel + 1, s =>
    match fgets n s with
    | ([], _) => []
    | (c :: line, rest) => (c :: line) :: reads n fuel rest

/-- The pieces that a line is read in. -/
def pieces (n : Nat) (s : List Char) : List (List Char) := reads n s.length s

/-- Does the text end with its only newline? -/
def complete : List Char → Bool
  | [] => false
  | c :: s => if c = '\n' then s.isEmpty else complete s

/-- The pieces with the number of the line that each is from. -/
def numbered (k : Nat) : List (List Char) → List (List Char × Nat)
  | [] => []
  | p :: ps => (p, k) :: numbered (if '\n' ∈ p then k + 1 else k) ps

section Lines

variable {n : Nat} {s l : List Char}

theorem fgets_append (n : Nat) (s : List Char) : (fgets n s).1 ++ (fgets n s).2 = s := by
  fun_induction fgets n s with
  | case1 => rfl
  | case2 => rfl
  | case3 => rfl
  | case4 n c s _ read ih => exact congrArg (c :: ·) ih

theorem fgets_ne_nil (hn : n ≠ 0) {c : Char} : (fgets n (c :: s)).1 ≠ [] := by
  obtain ⟨n, rfl⟩ := Nat.exists_eq_succ_of_ne_zero hn
  rw [fgets]
  split <;> exact List.cons_ne_nil _ _

theorem fgets_complete {n : Nat} {l s : List Char} (hl : complete l = true) :
    fgets n (l ++ s) = ((fgets n l).1, (fgets n l).2 ++ s) := by
  induction n generalizing l with
  | zero => rfl
  | succ n ih =>
    cases l with
    | nil => cases hl
    | cons c l =>
      rw [complete] at hl
      rw [List.cons_append, fgets, fgets]
      by_cases hc : c = '\n'
      · rw [if_pos hc] at hl
        rw [if_pos hc, if_pos hc, List.isEmpty_iff.mp hl]
      · rw [if_neg hc] at hl
        rw [if_neg hc, if_neg hc, ih hl]

/-- What is read of a line has its newline, or leaves a line. -/
theorem fgets_rest {n : Nat} {l : List Char} (hl : complete l = true) :
    ('\n' ∈ (fgets n l).1 ∧ (fgets n l).2 = []) ∨
      ('\n' ∉ (fgets n l).1 ∧ complete (fgets n l).2 = true) := by
  induction n generalizing l with
  | zero => exact Or.inr ⟨List.not_mem_nil, hl⟩
  | succ n ih =>
    cases l with
    | nil => cases hl
    | cons c l =>
      rw [complete] at hl
      rw [fgets]
      by_cases hc : c = '\n'
      · rw [if_pos hc] at hl
        rw [if_pos hc]
        exact Or.inl ⟨List.mem_singleton_self _, List.isEmpty_iff.mp hl⟩
      · rw [if_neg hc] at hl
        rw [if_neg hc]
        have hhead : ∀ t : List Char, '\n' ∈ c :: t ↔ '\n' ∈ t := by
          intro t
          rw [List.mem_cons, or_iff_right (Ne.symm hc)]
        rw [hhead]
        exact ih hl

theorem fgets_length (hn : n ≠ 0) {c : Char} : (fgets n (c :: s)).2.length ≤ s.length := by
  have happend := congrArg List.length (fgets_append n (c :: s))
  have hpos := List.length_pos_iff.mpr (fgets_ne_nil (s := s) (c := c) hn)
  rw [List.length_append, List.length_cons] at happend
  omega

theorem reads_cons (hn : n ≠ 0) (fuel : Nat) {c : Char} :
    reads n (fuel + 1) (c :: s) = (fgets n (c :: s)).1 :: reads n fuel (fgets n (c :: s)).2 := by
  obtain ⟨d, line, hline⟩ := List.exists_cons_of_ne_nil (fgets_ne_nil (s := s) (c := c) hn)
  rcases hread : fgets n (c :: s) with ⟨line', rest⟩
  rw [hread] at hline
  dsimp only at hline
  subst hline
  simp only [reads, hread]

/-- Each read takes something, so a text of that length needs no more of them. -/
theorem reads_fuel (hn : n ≠ 0) (fuel : Nat) : ∀ s : List Char, s.length ≤ fuel →
    reads n fuel s = pieces n s := by
  have hnil : ∀ fuel, reads n fuel [] = [] := by
    intro fuel
    obtain ⟨n, rfl⟩ := Nat.exists_eq_succ_of_ne_zero hn
    cases fuel <;> rfl
  induction fuel using Nat.strong_induction_on with
  | _ fuel ih =>
    intro s hs
    cases s with
    | nil => exact (hnil fuel).trans (hnil 0).symm
    | cons c s =>
      obtain ⟨fuel, rfl⟩ := Nat.exists_eq_succ_of_ne_zero
        (Nat.ne_of_gt (Nat.lt_of_lt_of_le (Nat.zero_lt_succ s.length) hs))
      have hlength := fgets_length (s := s) (c := c) hn
      rw [List.length_cons] at hs
      rw [pieces, List.length_cons, reads_cons hn, reads_cons hn,
        ih fuel (by omega) _ (by omega)]
      congr 1
      by_cases hfuel : s.length < fuel + 1
      · exact (ih s.length hfuel _ hlength).symm
      · omega

theorem pieces_nil (hn : n ≠ 0) : pieces n [] = [] := by
  obtain ⟨n, rfl⟩ := Nat.exists_eq_succ_of_ne_zero hn
  rfl

theorem pieces_cons (hn : n ≠ 0) {c : Char} :
    pieces n (c :: s) = (fgets n (c :: s)).1 :: pieces n (fgets n (c :: s)).2 := by
  rw [pieces, List.length_cons, reads_cons hn, reads_fuel hn _ _ (fgets_length hn)]

theorem mem_pieces (hn : n ≠ 0) (m : Nat) : ∀ s : List Char, s.length ≤ m →
    ∀ p ∈ pieces n s, p ≠ [] ∧ (p.head? = some '\n' → p = ['\n']) := by
  induction m with
  | zero =>
    intro s hm p hp
    obtain rfl := List.length_eq_zero_iff.mp (Nat.le_zero.mp hm)
    rw [pieces_nil hn] at hp
    cases hp
  | succ m ih =>
    intro s hm p hp
    cases s with
    | nil => rw [pieces_nil hn] at hp; cases hp
    | cons c s =>
      have hlength := fgets_length (s := s) (c := c) hn
      rw [List.length_cons] at hm
      rw [pieces_cons hn] at hp
      rcases List.mem_cons.mp hp with rfl | hp
      · refine ⟨fgets_ne_nil hn, fun hhead => ?_⟩
        obtain ⟨n, rfl⟩ := Nat.exists_eq_succ_of_ne_zero hn
        rw [fgets] at hhead ⊢
        split
        · rfl
        · rename_i hc
          rw [if_neg hc] at hhead
          exact absurd (Option.some.inj hhead) hc
      · exact ih _ (by omega) p hp

/-- No piece has parts of two lines. -/
theorem pieces_complete (hn : n ≠ 0) (m : Nat) : ∀ l : List Char, l.length ≤ m →
    complete l = true → ∀ s, pieces n (l ++ s) = pieces n l ++ pieces n s := by
  induction m with
  | zero =>
    intro l hm hl
    obtain rfl := List.length_eq_zero_iff.mp (Nat.le_zero.mp hm)
    cases hl
  | succ m ih =>
    intro l hm hl s
    cases l with
    | nil => cases hl
    | cons c l =>
      have hlength := fgets_length (s := l) (c := c) hn
      have hread := fgets_complete (n := n) (s := s) hl
      rw [List.cons_append] at hread
      rw [List.length_cons] at hm
      rw [List.cons_append, pieces_cons hn, pieces_cons hn, hread, List.cons_append]
      dsimp only
      rcases fgets_rest (n := n) hl with ⟨-, hrest⟩ | ⟨-, hrest⟩
      · rw [hrest, pieces_nil hn]
        rfl
      · rw [ih _ (by omega) hrest s]

theorem numbered_complete (hn : n ≠ 0) (m : Nat) : ∀ l : List Char, l.length ≤ m →
    complete l = true → ∀ k ps, numbered k (pieces n l ++ ps) =
      (pieces n l).map (fun p => (p, k)) ++ numbered (k + 1) ps := by
  induction m with
  | zero =>
    intro l hm hl
    obtain rfl := List.length_eq_zero_iff.mp (Nat.le_zero.mp hm)
    cases hl
  | succ m ih =>
    intro l hm hl k ps
    cases l with
    | nil => cases hl
    | cons c l =>
      have hlength := fgets_length (s := l) (c := c) hn
      rw [List.length_cons] at hm
      rw [pieces_cons hn, List.cons_append, numbered, List.map_cons, List.cons_append]
      rcases fgets_rest (n := n) hl with ⟨hmem, hrest⟩ | ⟨hmem, hrest⟩
      · rw [if_pos hmem, hrest, pieces_nil hn]
        rfl
      · rw [if_neg hmem, ih _ (by omega) hrest]

theorem flatten_pieces (hn : n ≠ 0) (m : Nat) : ∀ s : List Char, s.length ≤ m →
    (pieces n s).flatten = s := by
  induction m with
  | zero =>
    intro s hm
    obtain rfl := List.length_eq_zero_iff.mp (Nat.le_zero.mp hm)
    rw [pieces_nil hn]
    rfl
  | succ m ih =>
    intro s hm
    cases s with
    | nil => rw [pieces_nil hn]; rfl
    | cons c s =>
      have hlength := fgets_length (s := s) (c := c) hn
      rw [List.length_cons] at hm
      rw [pieces_cons hn, List.flatten_cons, ih _ (by omega), fgets_append]

/-- What has no newline is all of one line. -/
theorem numbered_plain (k : Nat) (ps : List (List Char)) (hps : '\n' ∉ ps.flatten) :
    numbered k ps = ps.map fun p => (p, k) := by
  induction ps with
  | nil => rfl
  | cons p ps ih =>
    rw [List.flatten_cons, List.mem_append, not_or] at hps
    rw [numbered, if_neg hps.1, ih hps.2, List.map_cons]

/-- The first line of a text. -/
theorem lines_cons {c : Char} (s : List Char) : ∃ l s', c :: s = l ++ s' ∧
    lines (c :: s) = l :: lines s' ∧ l ≠ [] ∧ (complete l = true ∨ (s' = [] ∧ '\n' ∉ l)) := by
  induction s generalizing c with
  | nil =>
    by_cases hc : c = '\n'
    · refine ⟨['\n'], [], by rw [hc]; rfl, ?_, List.cons_ne_nil _ _, Or.inl rfl⟩
      simp [lines, hc]
    · refine ⟨[c], [], rfl, ?_, List.cons_ne_nil _ _, Or.inr ⟨rfl, ?_⟩⟩
      · simp [lines, hc]
      · simpa using Ne.symm hc
  | cons d s ih =>
    by_cases hc : c = '\n'
    · refine ⟨['\n'], d :: s, by rw [hc]; rfl, ?_, List.cons_ne_nil _ _, Or.inl rfl⟩
      rw [lines, if_pos hc]
    · obtain ⟨l, s', happend, hlines, hne, hend⟩ := ih (c := d)
      refine ⟨c :: l, s', by rw [happend]; rfl, ?_, List.cons_ne_nil _ _, ?_⟩
      · rw [lines, if_neg hc, hlines]
      · rcases hend with hend | ⟨hs', hmem⟩
        · rw [complete, if_neg hc]
          exact Or.inl hend
        · refine Or.inr ⟨hs', ?_⟩
          rw [List.mem_cons, not_or]
          exact ⟨Ne.symm hc, hmem⟩

/-- The pieces of a text are those of its lines. -/
theorem numbered_pieces (hn : n ≠ 0) (m : Nat) : ∀ (s : List Char) (k : Nat), s.length ≤ m →
    numbered k (pieces n s) =
      ((lines s).zipIdx k).flatMap fun line => (pieces n line.1).map fun p => (p, line.2) := by
  induction m with
  | zero =>
    intro s k hm
    obtain rfl := List.length_eq_zero_iff.mp (Nat.le_zero.mp hm)
    rw [pieces_nil hn]
    rfl
  | succ m ih =>
    intro s k hm
    cases s with
    | nil => rw [pieces_nil hn]; rfl
    | cons c s =>
      obtain ⟨l, s', happend, hlines, hne, hend⟩ := lines_cons (c := c) s
      have hpos := List.length_pos_iff.mpr hne
      have hlength := congrArg List.length happend
      rw [List.length_append] at hlength
      rw [hlines, List.zipIdx_cons, List.flatMap_cons, ← ih s' (k + 1) (by omega), happend]
      rcases hend with hend | ⟨rfl, hmem⟩
      · rw [pieces_complete hn l.length l (Nat.le_refl _) hend,
          numbered_complete hn l.length l (Nat.le_refl _) hend]
      · have hflatten := flatten_pieces (n := n) hn l.length l (Nat.le_refl _)
        rw [List.append_nil, numbered_plain k _ (by rw [hflatten]; exact hmem), pieces_nil hn]
        exact (List.append_nil _).symm

end Lines

end TextLines
