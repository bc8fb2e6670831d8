import Mstpd.ConfigId

/-!
# Setting the allocation tables at once and one by one

What a call writes is a function of the tables alone. Whether BEGIN follows is decided by
four separate comparisons, which all amount to one question: is some VID now in another
tree? Calls for single entries therefore lead to the same digest as one call for them all,
since an entry that has its last value is not changed again.
-/

namespace Mstpd

open Bridge

/-- The two allocation tables. -/
structure Tables where
  vid2fid : Nat → UInt16
  fid2mstid : Nat → UInt16

namespace Tables

/-- The tree of a VID. -/
def tree (T : Tables) (vid : Nat) : UInt16 := T.fid2mstid (T.vid2fid vid).toNat

theorem tree_mk (vid2fid fid2mstid : Nat → UInt16) (vid : Nat) :
    (Tables.mk vid2fid fid2mstid).tree vid = fid2mstid (vid2fid vid).toNat := rfl

/-- Some VID in use is in another tree. -/
def Moves (T T' : Tables) : Prop := ∃ vid, 1 ≤ vid ∧ vid ≤ maxVid ∧ T'.tree vid ≠ T.tree vid

theorem not_moves {T T' : Tables} :
    ¬ Moves T T' ↔ ∀ vid, 1 ≤ vid → vid ≤ maxVid → T'.tree vid = T.tree vid := by
  constructor
  · intro h vid hv hle
    by_contra hne
    exact h ⟨vid, hv, hle, hne⟩
  · rintro h ⟨vid, hv, hle, hne⟩
    exact hne (h vid hv hle)

/-- A comparison of all VIDs. -/
theorem any_vid_iff {T T' : Tables} {f : Nat → Bool}
    (hf : ∀ vid, 1 ≤ vid → vid ≤ maxVid → (f vid = true ↔ T'.tree vid ≠ T.tree vid)) :
    ((List.range (maxVid + 1)).any fun vid => decide (1 ≤ vid) && f vid) = true ↔
      Moves T T' := by
  rw [List.any_eq_true]
  constructor
  · rintro ⟨vid, hmem, hvid⟩
    have hle : vid ≤ maxVid := Nat.lt_succ_iff.mp (List.mem_range.mp hmem)
    rw [Bool.and_eq_true, decide_eq_true_eq] at hvid
    exact ⟨vid, hvid.1, hle, (hf vid hvid.1 hle).mp hvid.2⟩
  · rintro ⟨vid, hv, hle, hne⟩
    refine ⟨vid, List.mem_range.mpr (Nat.lt_succ_of_le hle), ?_⟩
    rw [Bool.and_eq_true, decide_eq_true_eq]
    exact ⟨hv, (hf vid hv hle).mpr hne⟩

end Tables

namespace Bridge

def tables (br : Bridge) : Tables := ⟨br.vid2fid, br.fid2mstid⟩

def withTables (br : Bridge) (T : Tables) : Bridge :=
  { br with vid2fid := T.vid2fid, fid2mstid := T.fid2mstid }

end Bridge

/-- The four calls that write the tables. -/
inductive TableCall
  | vid2fid (vid fid : UInt16)
  | allVids2fids (vids2fids : Nat → UInt16)
  | fid2mstid (fid mstid : UInt16)
  | allFids2mstids (fids2mstids : Nat → UInt16)

namespace TableCall

def exec (env : Env) : TableCall → Bridge → Option (Bridge × Bool)
  | .vid2fid vid fid => mstpInSetVid2fid env vid fid
  | .allVids2fids vids2fids => mstpInSetAllVids2fids env vids2fids
  | .fid2mstid fid mstid => mstpInSetFid2mstid env fid mstid
  | .allFids2mstids fids2mstids => mstpInSetAllFids2mstids env fids2mstids

/-- All FIDs are allocated to one of the trees. -/
def allPresent (trees : List Mstid) (fid2mstid : Nat → UInt16) : Bool :=
  (List.range (maxFid + 1)).all fun fid => trees.contains (fid2mstid fid)

/-- The tables after a call, given the trees of the bridge. A value that is out of range
leaves its entry as it is, and so does a tree that does not exist; the call for all FIDs
then writes nothing. -/
def write (trees : List Mstid) : TableCall → Tables → Tables
  | .vid2fid vid fid, T =>
    { T with vid2fid := fun v =>
        if v = vid.toNat ∧ 1 ≤ v ∧ v ≤ maxVid ∧ fid.toNat ≤ maxFid then fid else T.vid2fid v }
  | .allVids2fids f, T =>
    { T with vid2fid := fun v =>
        if v ≤ maxVid ∧ ((f v).toNat ≤ maxFid ∨ v = 0) then f v else T.vid2fid v }
  | .fid2mstid fid mstid, T =>
    { T with fid2mstid := fun g =>
        if g = fid.toNat ∧ g ≤ maxFid ∧ mstid ∈ trees then mstid else T.fid2mstid g }
  | .allFids2mstids f, T =>
    let new := fun g =>
      if g ≤ maxFid ∧ (f g).toNat ≤ maxMstid then f g else T.fid2mstid g
    if allPresent trees new then { T with fid2mstid := new } else T

theorem write_vid2fid (trees : List Mstid) (vid fid : UInt16) (T : Tables) (v : Nat) :
    ((vid2fid vid fid).write trees T).vid2fid v =
      if v = vid.toNat ∧ 1 ≤ v ∧ v ≤ maxVid ∧ fid.toNat ≤ maxFid then fid else T.vid2fid v := rfl

theorem write_fid2mstid (trees : List Mstid) (fid mstid : UInt16) (T : Tables) (g : Nat) :
    ((fid2mstid fid mstid).write trees T).fid2mstid g =
      if g = fid.toNat ∧ g ≤ maxFid ∧ mstid ∈ trees then mstid else T.fid2mstid g := rfl

/-- How a call ends once the tables are written: with BEGIN after a new digest, or at
once. -/
inductive Ends (env : Env) (br : Bridge) : Bool → Option (Bridge × Bool) → Prop
  | begins : Ends env br true
      ((brStateMachinesBegin env.late env.fuel (recalcConfigDigest env br)).map (·, true))
  | stays (ok : Bool) : Ends env br false (some (br, ok))

theorem ends_tablesWritten (env : Env) (changed : Bool) (br : Bridge) :
    Ends env br changed (tablesWritten env changed br) := by
  cases changed with
  | true => exact .begins
  | false => exact .stays true

section Call

variable {env : Env} {br : Bridge}

/-- A call that is refused, or that finds what it would write. -/
theorem stays_ends {T : Tables} (ok : Bool) (h : T = br.tables) :
    ∃ begins, Ends env (br.withTables T) begins (some (br, ok)) ∧
      (begins = true ↔ Tables.Moves br.tables T) := by
  subst h
  refine ⟨false, .stays ok, ?_⟩
  simp [Tables.Moves]

theorem vid2fid_ends (vid fid : UInt16) :
    ∃ begins, Ends env (br.withTables ((vid2fid vid fid).write br.trees br.tables)) begins
      (mstpInSetVid2fid env vid fid br) ∧
      (begins = true ↔ Tables.Moves br.tables ((vid2fid vid fid).write br.trees br.tables)) := by
  rw [mstpInSetVid2fid]
  split
  · rename_i hrange
    apply stays_ends
    rw [write, tables]
    congr 1
    funext v
    rw [if_neg (by omega)]
  · rename_i hrange
    have hwrite : (vid2fid vid fid).write br.trees br.tables =
        ⟨fun v => if v = vid.toNat then fid else br.vid2fid v, br.fid2mstid⟩ := by
      rw [write, tables]
      congr 1
      funext v
      by_cases hv : v = vid.toNat
      · rw [if_pos hv, if_pos (by omega)]
      · rw [if_neg hv, if_neg (by omega)]
    rw [hwrite]
    refine ⟨_, ends_tablesWritten env _ _, ?_⟩
    rw [bne_iff_ne]
    constructor
    · intro hne
      refine ⟨vid.toNat, by omega, by omega, ?_⟩
      simp only [Tables.tree_mk, if_true]
      exact hne
    · rintro ⟨v, -, -, hne⟩
      by_cases hv : v = vid.toNat
      · subst hv
        simp only [Tables.tree_mk, if_true] at hne
        exact hne
      · simp only [Tables.tree_mk, if_neg hv] at hne
        exact absurd rfl hne

theorem allVids2fids_ends (f : Nat → UInt16) :
    ∃ begins, Ends env (br.withTables ((allVids2fids f).write br.trees br.tables)) begins
      (mstpInSetAllVids2fids env f br) ∧
      (begins = true ↔ Tables.Moves br.tables ((allVids2fids f).write br.trees br.tables)) := by
  have hwrite : (allVids2fids f).write br.trees br.tables =
      ⟨fun v => if v ≤ maxVid then
        (if 1 ≤ v ∧ maxFid < (f v).toNat then br.vid2fid v else f v) else br.vid2fid v,
        br.fid2mstid⟩ := by
    rw [write, tables]
    congr 1
    funext v
    by_cases hle : v ≤ maxVid
    · by_cases hlarge : 1 ≤ v ∧ maxFid < (f v).toNat
      · rw [if_pos hle, if_pos hlarge, if_neg (by omega)]
      · rw [if_pos hle, if_neg hlarge, if_pos (by omega)]
    · rw [if_neg hle, if_neg (by omega)]
  rw [hwrite, mstpInSetAllVids2fids]
  refine ⟨_, ends_tablesWritten env _ _, Tables.any_vid_iff fun vid hv hle => ?_⟩
  rw [bne_iff_ne, Tables.tree_mk]
  simp only [if_pos hle]
  rfl

theorem fid2mstid_ends (fid mstid : UInt16) :
    ∃ begins, Ends env (br.withTables ((fid2mstid fid mstid).write br.trees br.tables)) begins
      (mstpInSetFid2mstid env fid mstid br) ∧
      (begins = true ↔
        Tables.Moves br.tables ((fid2mstid fid mstid).write br.trees br.tables)) := by
  have hsame : (∀ g, g = fid.toNat ∧ g ≤ maxFid ∧ mstid ∈ br.trees → mstid = br.fid2mstid g) →
      (fid2mstid fid mstid).write br.trees br.tables = br.tables := by
    intro h
    rw [write, tables]
    congr 1
    funext g
    split
    · rename_i hg
      exact h g hg
    · rfl
  rw [mstpInSetFid2mstid]
  split
  · exact stays_ends _ (hsame fun g hg => by omega)
  · rename_i hfid
    split
    · rename_i hmem
      refine stays_ends _ (hsame fun g hg => ?_)
      simp [hg.2.2] at hmem
    · rename_i hmem
      have hmem : mstid ∈ br.trees := by simpa using hmem
      split
      · rename_i heq
        exact stays_ends _ (hsame fun g hg => hg.1 ▸ heq.symm)
      · rename_i hne
        have hwrite : (fid2mstid fid mstid).write br.trees br.tables =
            ⟨br.vid2fid, fun g => if g = fid.toNat then mstid else br.fid2mstid g⟩ := by
          rw [write, tables]
          congr 1
          funext g
          by_cases hg : g = fid.toNat
          · rw [if_pos hg, if_pos ⟨hg, by omega, hmem⟩]
          · rw [if_neg hg, if_neg fun h => hg h.1]
        rw [hwrite]
        refine ⟨_, ends_tablesWritten env _ _, Tables.any_vid_iff fun vid _ _ => ?_⟩
        -- a VID moves if and only if it uses the FID
        rw [beq_iff_eq, ← UInt16.toNat_inj]
        by_cases huse : (br.vid2fid vid).toNat = fid.toNat
        · simp only [huse, true_iff, Tables.tree, tables, if_true]
          exact Ne.symm hne
        · simp [huse, Tables.tree, tables]

theorem newTree_eq (f : Nat → UInt16) {g : Nat} (hg : g ≤ maxFid) :
    (if g ≤ maxFid ∧ (f g).toNat ≤ maxMstid then f g else br.fid2mstid g) =
      if maxMstid < (f g).toNat then br.fid2mstid g else f g := by
  by_cases hlarge : maxMstid < (f g).toNat
  · rw [if_pos hlarge, if_neg (by omega)]
  · rw [if_neg hlarge, if_pos (by omega)]

/-- The test for missing trees. -/
theorem present_eq (f : Nat → UInt16) :
    ((List.range (maxFid + 1)).all fun fid => br.trees.contains
        (if maxMstid < (f fid).toNat then br.fid2mstid fid else f fid)) =
      allPresent br.trees fun g =>
        if g ≤ maxFid ∧ (f g).toNat ≤ maxMstid then f g else br.fid2mstid g := by
  rw [allPresent, Bool.eq_iff_iff, List.all_eq_true, List.all_eq_true]
  refine forall₂_congr fun g hg => ?_
  rw [newTree_eq f (Nat.lt_succ_iff.mp (List.mem_range.mp hg))]

theorem allFids2mstids_ends (f : Nat → UInt16) :
    ∃ begins, Ends env (br.withTables ((allFids2mstids f).write br.trees br.tables)) begins
      (mstpInSetAllFids2mstids env f br) ∧
      (begins = true ↔ Tables.Moves br.tables ((allFids2mstids f).write br.trees br.tables)) := by
  rw [mstpInSetAllFids2mstids]
  split
  · rename_i hbad
    rw [Bool.not_eq_true', present_eq] at hbad
    apply stays_ends
    rw [write, tables]
    refine if_neg ?_
    rw [hbad]
    exact Bool.false_ne_true
  · rename_i hgood
    rw [Bool.not_eq_true', Bool.not_eq_false, present_eq] at hgood
    have hwrite : (allFids2mstids f).write br.trees br.tables =
        ⟨br.vid2fid, fun g => if g ≤ maxFid then
          (if maxMstid < (f g).toNat then br.fid2mstid g else f g) else br.fid2mstid g⟩ := by
      rw [write, tables]
      refine (if_pos hgood).trans (congrArg (Tables.mk br.vid2fid) (funext fun g => ?_))
      by_cases hg : g ≤ maxFid
      · rw [if_pos hg, newTree_eq f hg]
      · rw [if_neg hg, if_neg fun h => hg h.1]
    rw [hwrite]
    refine ⟨_, ends_tablesWritten env _ _, Tables.any_vid_iff fun vid _ _ => ?_⟩
    rw [bne_iff_ne]
    rfl

/-- The call for all FIDs that succeeds leaves trees that exist. -/
theorem allFids2mstids_true {f : Nat → UInt16} {br' : Bridge}
    (h : mstpInSetAllFids2mstids env f br = some (br', true)) :
    allPresent br.trees
      (fun g => if g ≤ maxFid ∧ (f g).toNat ≤ maxMstid then f g else br.fid2mstid g) = true := by
  rw [mstpInSetAllFids2mstids] at h
  split at h
  · cases h
  · rename_i hgood
    rw [Bool.not_eq_true', Bool.not_eq_false, present_eq] at hgood
    exact hgood

/-- BEGIN follows a call if and only if some VID is then in another tree. -/
theorem exec_ends (call : TableCall) :
    ∃ begins, Ends env (br.withTables (call.write br.trees br.tables)) begins
      (call.exec env br) ∧
      (begins = true ↔ Tables.Moves br.tables (call.write br.trees br.tables)) := by
  cases call with
  | vid2fid vid fid => exact vid2fid_ends vid fid
  | allVids2fids f => exact allVids2fids_ends f
  | fid2mstid fid mstid => exact fid2mstid_ends fid mstid
  | allFids2mstids f => exact allFids2mstids_ends f

end Call

/-! ## What a call leaves behind -/

/-- The digest is computed anew if a VID moves, and stays otherwise. -/
structure DigestFollows (hmac : List UInt8 → List UInt8 → List UInt8) (br br' : Bridge) :
    Prop where
  moved : Tables.Moves br.tables br'.tables → br'.mstConfigId.configurationDigest =
    hmac (mstConfigTable br'.tables.tree) hmacKey
  kept : ¬ Tables.Moves br.tables br'.tables →
    br'.mstConfigId.configurationDigest = br.mstConfigId.configurationDigest

theorem exec_returns {env : Env} {call : TableCall} {br br' : Bridge} {ok : Bool}
    (h : call.exec env br = some (br', ok)) :
    br'.tables = call.write br.trees br.tables ∧ br'.trees = br.trees ∧
      DigestFollows env.hmacMd5 br br' := by
  have hends := @exec_ends env br call
  rw [h] at hends
  obtain ⟨begins, hends, hmoves⟩ := hends
  cases begins with
  | true =>
    generalize hr : some (br', ok) = r at hends
    cases hends
    have hbegin := map_true hr.symm
    have hframe := brBegin_tables (Frame.refl _ _) hbegin
    have htables : br'.tables = call.write br.trees br.tables :=
      hframe.config_eq Bridge.tables fun _ => rfl
    refine ⟨htables, hframe.config_eq Bridge.trees fun _ => rfl, fun _ => ?_, fun hno => ?_⟩
    · rw [htables, hframe.config_eq Bridge.mstConfigId fun _ => rfl]
      rfl
    · rw [htables] at hno
      exact absurd (hmoves.mp rfl) hno
  | false =>
    cases hends
    refine ⟨rfl, rfl, fun hmove => ?_, fun _ => rfl⟩
    exact absurd (hmoves.mpr hmove) Bool.false_ne_true

/-- Calls with one key each, in the given order; what they return is ignored. -/
def oneByOne (call : UInt16 → TableCall) : List (Env × UInt16) → Bridge → Option Bridge
  | [], br => some br
  | (env, k) :: l, br => ((call k).exec env br).bind fun r => oneByOne call l r.1

section OneByOne

variable {hmac : List UInt8 → List UInt8 → List UInt8} {call : UInt16 → TableCall}
  {br b : Bridge} {goal : Tables}

/-- The first call, and the calls after it. -/
theorem oneByOne_cons {env : Env} {k : UInt16} {l : List (Env × UInt16)}
    (h : oneByOne call ((env, k) :: l) br = some b) :
    ∃ c ok, (call k).exec env br = some (c, ok) ∧ oneByOne call l c = some b := by
  obtain ⟨⟨c, ok⟩, hc, hl⟩ := Option.bind_eq_some_iff.mp h
  exact ⟨c, ok, hc, hl⟩

/-- What every call keeps in the tables holds after them all. -/
theorem oneByOne_inv {K : UInt16 → Prop} {I : Tables → Prop}
    (step : ∀ k, K k → ∀ T, I T → I ((call k).write br.trees T)) {l : List (Env × UInt16)}
    (hK : ∀ e ∈ l, K e.2) {c : Bridge} (htrees : c.trees = br.trees) (hI : I c.tables)
    (h : oneByOne call l c = some b) : I b.tables := by
  induction l generalizing c with
  | nil => exact Option.some.inj h ▸ hI
  | cons first l ih =>
    obtain ⟨env, k⟩ := first
    obtain ⟨d, ok, hd, hl⟩ := oneByOne_cons h
    obtain ⟨htables, hsame, -⟩ := exec_returns hd
    refine ih (fun e he => hK e (List.mem_cons_of_mem _ he)) (hsame.trans htrees) ?_ hl
    rw [htables, htrees]
    exact step k (hK _ List.mem_cons_self) _ hI

/-- What one of the calls establishes and every call keeps. -/
theorem oneByOne_reaches {K : UInt16 → Prop} {I J : Tables → Prop}
    (step : ∀ k, K k → ∀ T, I T → I ((call k).write br.trees T))
    (keep : ∀ k, K k → ∀ T, J T → J ((call k).write br.trees T)) {k : UInt16}
    (make : ∀ T, I T → J ((call k).write br.trees T)) {l : List (Env × UInt16)}
    (hk : ∃ e ∈ l, e.2 = k) (hK : ∀ e ∈ l, K e.2) {c : Bridge} (htrees : c.trees = br.trees)
    (hI : I c.tables) (h : oneByOne call l c = some b) : J b.tables := by
  induction l generalizing c with
  | nil =>
    obtain ⟨e, he, -⟩ := hk
    cases he
  | cons first l ih =>
    obtain ⟨env, k'⟩ := first
    obtain ⟨d, ok, hd, hl⟩ := oneByOne_cons h
    obtain ⟨htables, hsame, -⟩ := exec_returns hd
    have hrest : ∀ e ∈ l, K e.2 := fun e he => hK e (List.mem_cons_of_mem _ he)
    have hdtables : d.tables = (call k').write br.trees c.tables := by rw [htables, htrees]
    obtain ⟨e, he, rfl⟩ := hk
    rcases List.mem_cons.mp he with rfl | he
    · have hJ : J d.tables := hdtables ▸ make _ hI
      exact oneByOne_inv keep hrest (hsame.trans htrees) hJ hl
    · have hI : I d.tables := hdtables ▸ step k' (hK _ List.mem_cons_self) _ hI
      exact ih ⟨e, he, rfl⟩ hrest (hsame.trans htrees) hI hl

/-- On the way to the goal the digest is the old one while no VID has moved, and the one of
the present tables after that. -/
structure OnTheWay (hmac : List UInt8 → List UInt8 → List UInt8) (br : Bridge) (goal : Tables)
    (b : Bridge) : Prop where
  tree : ∀ vid, 1 ≤ vid → vid ≤ maxVid →
    b.tables.tree vid = br.tables.tree vid ∨ b.tables.tree vid = goal.tree vid
  digest :
    ¬ Tables.Moves br.tables b.tables ∧
      b.mstConfigId.configurationDigest = br.mstConfigId.configurationDigest ∨
    Tables.Moves br.tables goal ∧
      b.mstConfigId.configurationDigest = hmac (mstConfigTable b.tables.tree) hmacKey

theorem OnTheWay.step {c : Bridge} (hi : OnTheWay hmac br goal b)
    (hfollows : DigestFollows hmac b c)
    (htree : ∀ vid, 1 ≤ vid → vid ≤ maxVid →
      c.tables.tree vid = br.tables.tree vid ∨ c.tables.tree vid = goal.tree vid) :
    OnTheWay hmac br goal c := by
  refine ⟨htree, ?_⟩
  by_cases hmoves : Tables.Moves b.tables c.tables
  · -- the VID that moves now has its first tree or its last one before and after
    obtain ⟨vid, hv, hle, hne⟩ := hmoves
    have hgoal : goal.tree vid ≠ br.tables.tree vid := by
      intro heq
      have hb := (hi.tree vid hv hle).elim id fun h => h.trans heq
      have hc := (htree vid hv hle).elim id fun h => h.trans heq
      exact hne (hc.trans hb.symm)
    exact Or.inr ⟨⟨vid, hv, hle, hgoal⟩, hfollows.moved ⟨vid, hv, hle, hne⟩⟩
  · have hsame := Tables.not_moves.mp hmoves
    rcases hi.digest with ⟨hstill, hdigest⟩ | ⟨hgoal, hdigest⟩
    · refine Or.inl ⟨Tables.not_moves.mpr fun vid hv hle => ?_, ?_⟩
      · exact (hsame vid hv hle).trans (Tables.not_moves.mp hstill vid hv hle)
      · exact (hfollows.kept hmoves).trans hdigest
    · refine Or.inr ⟨hgoal, (hfollows.kept hmoves).trans (hdigest.trans ?_)⟩
      exact congrArg (fun table => hmac table hmacKey)
        (mstConfigTable_congr fun vid hv hle => (hsame vid hv hle).symm)

theorem oneByOne_onTheWay {K : UInt16 → Prop} {I : Tables → Prop}
    (step : ∀ k, K k → ∀ T, I T → I ((call k).write br.trees T))
    (htree : ∀ T, I T → ∀ vid, 1 ≤ vid → vid ≤ maxVid →
      T.tree vid = br.tables.tree vid ∨ T.tree vid = goal.tree vid)
    {l : List (Env × UInt16)} (hK : ∀ e ∈ l, K e.2) (henv : ∀ e ∈ l, e.1.hmacMd5 = hmac)
    {c : Bridge} (htrees : c.trees = br.trees) (hI : I c.tables) (hi : OnTheWay hmac br goal c)
    (h : oneByOne call l c = some b) : OnTheWay hmac br goal b := by
  induction l generalizing c with
  | nil => exact Option.some.inj h ▸ hi
  | cons first l ih =>
    obtain ⟨env, k⟩ := first
    obtain ⟨d, ok, hd, hl⟩ := oneByOne_cons h
    obtain ⟨htables, hsame, hfollows⟩ := exec_returns hd
    have hI' : I d.tables := by
      rw [htables, htrees]
      exact step k (hK _ List.mem_cons_self) _ hI
    rw [henv _ List.mem_cons_self] at hfollows
    refine ih (fun e he => hK e (List.mem_cons_of_mem _ he))
      (fun e he => henv e (List.mem_cons_of_mem _ he)) (hsame.trans htrees) hI' ?_ hl
    exact hi.step hfollows (htree _ hI')

/-- Two ways to the same trees lead to the same digest. -/
theorem OnTheWay.digest_eq {c : Bridge} (hi : OnTheWay hmac br c.tables b)
    (hfollows : DigestFollows hmac br c)
    (hsame : ∀ vid, 1 ≤ vid → vid ≤ maxVid → b.tables.tree vid = c.tables.tree vid) :
    b.mstConfigId.configurationDigest = c.mstConfigId.configurationDigest := by
  rcases hi.digest with ⟨hstill, hdigest⟩ | ⟨hgoal, hdigest⟩
  · have hstill : ¬ Tables.Moves br.tables c.tables := Tables.not_moves.mpr fun vid hv hle =>
      (hsame vid hv hle).symm.trans (Tables.not_moves.mp hstill vid hv hle)
    exact hdigest.trans (hfollows.kept hstill).symm
  · rw [hdigest, hfollows.moved hgoal]
    exact congrArg (fun table => hmac table hmacKey) (mstConfigTable_congr hsame)

/-! ## The two families -/

/-- Only entries of `vid2fid` are written, each with its value in the goal. -/
structure VidsOnTheWay (T goal T' : Tables) : Prop where
  fids : T'.fid2mstid = T.fid2mstid
  vids : ∀ vid, T'.vid2fid vid = T.vid2fid vid ∨ T'.vid2fid vid = goal.vid2fid vid

/-- Only entries of `fid2mstid` are written, each with its value in the goal. -/
structure FidsOnTheWay (T goal T' : Tables) : Prop where
  vids : T'.vid2fid = T.vid2fid
  fids : ∀ fid, T'.fid2mstid fid = T.fid2mstid fid ∨ T'.fid2mstid fid = goal.fid2mstid fid

theorem VidsOnTheWay.tree {T T' : Tables} (h : VidsOnTheWay T goal T')
    (hgoal : goal.fid2mstid = T.fid2mstid) (vid : Nat) :
    T'.tree vid = T.tree vid ∨ T'.tree vid = goal.tree vid := by
  rw [Tables.tree, Tables.tree, Tables.tree, h.fids, hgoal]
  rcases h.vids vid with hvid | hvid
  · exact Or.inl (by rw [hvid])
  · exact Or.inr (by rw [hvid])

theorem FidsOnTheWay.tree {T T' : Tables} (h : FidsOnTheWay T goal T')
    (hgoal : goal.vid2fid = T.vid2fid) (vid : Nat) :
    T'.tree vid = T.tree vid ∨ T'.tree vid = goal.tree vid := by
  rw [Tables.tree, Tables.tree, Tables.tree, h.vids, hgoal]
  exact h.fids _

/-- One VID at a time, in any order, with the values that the call for all of them gets. -/
theorem vids_oneByOne {v : Nat → UInt16} {env : Env} {c : Bridge} {ok : Bool}
    {l : List (Env × UInt16)} (henv : env.hmacMd5 = hmac) (hl : ∀ e ∈ l, e.1.hmacMd5 = hmac)
    (hvids : ∀ vid : UInt16, 1 ≤ vid.toNat → vid.toNat ≤ maxVid → ∃ e ∈ l, e.2 = vid)
    (hall : mstpInSetAllVids2fids env v br = some (c, ok))
    (hone : oneByOne (fun vid => .vid2fid vid (v vid.toNat)) l br = some b) :
    (∀ vid, 1 ≤ vid → vid ≤ maxVid → b.vid2fid vid = c.vid2fid vid) ∧
      b.mstConfigId.configurationDigest = c.mstConfigId.configurationDigest := by
  have hcall : (allVids2fids v).exec env br = some (c, ok) := by rw [exec, hall]
  obtain ⟨hgoal, -, hfollows⟩ := exec_returns hcall
  have hfids : c.fid2mstid = br.fid2mstid := congrArg Tables.fid2mstid hgoal
  have hentry : ∀ vid, c.tables.vid2fid vid =
      if vid ≤ maxVid ∧ ((v vid).toNat ≤ maxFid ∨ vid = 0) then v vid else br.vid2fid vid :=
    fun vid => congrFun (congrArg Tables.vid2fid hgoal) vid
  have hwritten : ∀ (k : UInt16) (T : Tables) (vid : Nat),
      ((vid2fid k (v k.toNat)).write br.trees T).vid2fid vid = T.vid2fid vid ∨
        ((vid2fid k (v k.toNat)).write br.trees T).vid2fid vid = c.tables.vid2fid vid := by
    intro k T vid
    rw [write_vid2fid]
    split
    · rename_i h
      obtain ⟨rfl, -, hle, hfid⟩ := h
      rw [hentry, if_pos ⟨hle, Or.inl hfid⟩]
      exact Or.inr rfl
    · exact Or.inl rfl
  have step : ∀ k : UInt16, True → ∀ T, VidsOnTheWay br.tables c.tables T →
      VidsOnTheWay br.tables c.tables ((vid2fid k (v k.toNat)).write br.trees T) := by
    rintro k - T hT
    refine ⟨hT.fids, fun vid => ?_⟩
    rcases hwritten k T vid with hsame | hnew
    · rw [hsame]
      exact hT.vids vid
    · exact Or.inr hnew
  have hstart : VidsOnTheWay br.tables c.tables br.tables := ⟨rfl, fun _ => Or.inl rfl⟩
  have hreach : ∀ vid, 1 ≤ vid → vid ≤ maxVid → b.vid2fid vid = c.vid2fid vid := by
    intro vid hv hle
    have hsize : vid < 2 ^ 16 := Nat.lt_of_le_of_lt hle (by decide)
    have hvid : (UInt16.ofNat vid).toNat = vid := UInt16.toNat_ofNat_of_lt' hsize
    refine oneByOne_reaches (k := .ofNat vid) (K := fun _ => True)
      (J := fun T => T.vid2fid vid = c.tables.vid2fid vid) step ?_ ?_
      (hvids _ (by omega) (by omega)) (fun _ _ => trivial) rfl hstart hone
    · rintro k - T hT
      exact (hwritten k T vid).elim (fun h => h.trans hT) id
    · intro T hT
      rw [write_vid2fid, hentry, hvid]
      by_cases hfid : (v vid).toNat ≤ maxFid
      · rw [if_pos ⟨rfl, hv, hle, hfid⟩, if_pos ⟨hle, Or.inl hfid⟩]
      · -- a refused value: neither call writes the entry
        have hold : c.tables.vid2fid vid = br.vid2fid vid := by
          rw [hentry, if_neg (by omega)]
        rw [if_neg (by omega), if_neg (by omega)]
        exact (hT.vids vid).elim id fun h => h.trans hold
  refine ⟨hreach, ?_⟩
  have hb := oneByOne_inv step (fun _ _ => trivial) rfl hstart hone
  have hfirst : OnTheWay hmac br c.tables br :=
    ⟨fun _ _ _ => Or.inl rfl, Or.inl ⟨Tables.not_moves.mpr fun _ _ _ => rfl, rfl⟩⟩
  have hway := oneByOne_onTheWay step (fun T hT vid _ _ => hT.tree hfids vid)
    (fun _ _ => trivial) hl rfl hstart hfirst hone
  apply hway.digest_eq (henv ▸ hfollows)
  intro vid hv hle
  rw [Tables.tree, Tables.tree, hb.fids]
  change br.fid2mstid (b.vid2fid vid).toNat = c.fid2mstid (c.vid2fid vid).toNat
  rw [hreach vid hv hle, hfids]

/-- One FID at a time, in any order, without the values that are too large. -/
theorem fids_oneByOne {m : Nat → UInt16} {env : Env} {c : Bridge}
    {l : List (Env × UInt16)} (henv : env.hmacMd5 = hmac) (hl : ∀ e ∈ l, e.1.hmacMd5 = hmac)
    (hfids : ∀ fid : UInt16, (∃ e ∈ l, e.2 = fid) ↔
      fid.toNat ≤ maxFid ∧ (m fid.toNat).toNat ≤ maxMstid)
    (hall : mstpInSetAllFids2mstids env m br = some (c, true))
    (hone : oneByOne (fun fid => .fid2mstid fid (m fid.toNat)) l br = some b) :
    (∀ fid ≤ maxFid, b.fid2mstid fid = c.fid2mstid fid) ∧
      b.mstConfigId.configurationDigest = c.mstConfigId.configurationDigest := by
  have hcall : (allFids2mstids m).exec env br = some (c, true) := by rw [exec, hall]
  obtain ⟨hgoal, -, hfollows⟩ := exec_returns hcall
  have hexist := allFids2mstids_true hall
  have hwrite : c.tables = ⟨br.vid2fid, fun g =>
      if g ≤ maxFid ∧ (m g).toNat ≤ maxMstid then m g else br.fid2mstid g⟩ :=
    hgoal.trans (by
      rw [write]
      exact if_pos hexist)
  have hvids : c.vid2fid = br.vid2fid := congrArg Tables.vid2fid hwrite
  have hentry : ∀ g, c.tables.fid2mstid g =
      if g ≤ maxFid ∧ (m g).toNat ≤ maxMstid then m g else br.fid2mstid g :=
    fun g => congrFun (congrArg Tables.fid2mstid hwrite) g
  have hmem : ∀ g ≤ maxFid, (m g).toNat ≤ maxMstid → m g ∈ br.trees := by
    intro g hg hm
    have h := List.all_eq_true.mp hexist g (List.mem_range.mpr (Nat.lt_succ_of_le hg))
    simpa only [if_pos (And.intro hg hm), List.contains_iff_mem] using h
  let K : UInt16 → Prop := fun fid => fid.toNat ≤ maxFid ∧ (m fid.toNat).toNat ≤ maxMstid
  have hK : ∀ e ∈ l, K e.2 := fun e he => (hfids e.2).mp ⟨e, he, rfl⟩
  have hwritten : ∀ k : UInt16, K k → ∀ (T : Tables) (g : Nat),
      ((fid2mstid k (m k.toNat)).write br.trees T).fid2mstid g = T.fid2mstid g ∨
        ((fid2mstid k (m k.toNat)).write br.trees T).fid2mstid g = c.tables.fid2mstid g := by
    intro k hk T g
    rw [write_fid2mstid]
    split
    · rename_i h
      obtain ⟨rfl, hg, -⟩ := h
      rw [hentry, if_pos ⟨hg, hk.2⟩]
      exact Or.inr rfl
    · exact Or.inl rfl
  have step : ∀ k, K k → ∀ T, FidsOnTheWay br.tables c.tables T →
      FidsOnTheWay br.tables c.tables ((fid2mstid k (m k.toNat)).write br.trees T) := by
    intro k hk T hT
    refine ⟨hT.vids, fun g => ?_⟩
    rcases hwritten k hk T g with hsame | hnew
    · rw [hsame]
      exact hT.fids g
    · exact Or.inr hnew
  have hstart : FidsOnTheWay br.tables c.tables br.tables := ⟨rfl, fun _ => Or.inl rfl⟩
  have hb := oneByOne_inv step hK rfl hstart hone
  have hreach : ∀ g, b.fid2mstid g = c.fid2mstid g := by
    intro g
    by_cases hg : g ≤ maxFid ∧ (m g).toNat ≤ maxMstid
    · have hsize : g < 2 ^ 16 := Nat.lt_of_le_of_lt hg.1 (by decide)
      have hfid : (UInt16.ofNat g).toNat = g := UInt16.toNat_ofNat_of_lt' hsize
      refine oneByOne_reaches (k := .ofNat g) (K := K)
        (J := fun T => T.fid2mstid g = c.tables.fid2mstid g) step ?_ ?_
        ((hfids _).mpr (by rwa [hfid])) hK rfl hstart hone
      · intro k hk T hT
        exact (hwritten k hk T g).elim (fun h => h.trans hT) id
      · intro T hT
        have hwrites : g = g ∧ g ≤ maxFid ∧ m g ∈ br.trees := ⟨rfl, hg.1, hmem g hg.1 hg.2⟩
        rw [write_fid2mstid, hentry, hfid, if_pos hg, if_pos hwrites]
    · have hold : c.tables.fid2mstid g = br.fid2mstid g := by rw [hentry, if_neg hg]
      exact (hb.fids g).elim (fun h => h.trans hold.symm) id
  refine ⟨fun g _ => hreach g, ?_⟩
  have hfirst : OnTheWay hmac br c.tables br :=
    ⟨fun _ _ _ => Or.inl rfl, Or.inl ⟨Tables.not_moves.mpr fun _ _ _ => rfl, rfl⟩⟩
  have hway := oneByOne_onTheWay step (fun T hT vid _ _ => hT.tree hvids vid)
    hK hl rfl hstart hfirst hone
  apply hway.digest_eq (henv ▸ hfollows)
  intro vid _ _
  rw [Tables.tree, Tables.tree, hb.vids]
  change b.fid2mstid (br.vid2fid vid).toNat = c.fid2mstid (c.vid2fid vid).toNat
  rw [hreach, hvids]

end OneByOne

/-! ## All four setters -/

/-- One call for all entries and calls for single entries, each in its own environment and
in any order, leave the same tables and the same digest; and each of the four setters
invokes BEGIN if and only if it moves some VID to another tree. -/
theorem table_setters_agree (hmac : List UInt8 → List UInt8 → List UInt8) :
    (∀ (br b c : Bridge) (v : Nat → UInt16) (env : Env) (ok : Bool) (l : List (Env × UInt16)),
      env.hmacMd5 = hmac → (∀ e ∈ l, e.1.hmacMd5 = hmac) →
      (∀ vid : UInt16, 1 ≤ vid.toNat → vid.toNat ≤ maxVid → ∃ e ∈ l, e.2 = vid) →
      mstpInSetAllVids2fids env v br = some (c, ok) →
      oneByOne (fun vid => .vid2fid vid (v vid.toNat)) l br = some b →
      (∀ vid, 1 ≤ vid → vid ≤ maxVid → b.vid2fid vid = c.vid2fid vid) ∧
        b.mstConfigId.configurationDigest = c.mstConfigId.configurationDigest) ∧
    (∀ (br b c : Bridge) (m : Nat → UInt16) (env : Env) (l : List (Env × UInt16)),
      env.hmacMd5 = hmac → (∀ e ∈ l, e.1.hmacMd5 = hmac) →
      (∀ fid : UInt16, (∃ e ∈ l, e.2 = fid) ↔
        fid.toNat ≤ maxFid ∧ (m fid.toNat).toNat ≤ maxMstid) →
      mstpInSetAllFids2mstids env m br = some (c, true) →
      oneByOne (fun fid => .fid2mstid fid (m fid.toNat)) l br = some b →
      (∀ fid ≤ maxFid, b.fid2mstid fid = c.fid2mstid fid) ∧
        b.mstConfigId.configurationDigest = c.mstConfigId.configurationDigest) ∧
    ∀ (env : Env) (call : TableCall) (br : Bridge), ∃ T begins,
      Ends env (br.withTables T) begins (call.exec env br) ∧
      (begins = true ↔ Tables.Moves br.tables T) ∧
      ∀ br' ok, call.exec env br = some (br', ok) → br'.tables = T := by
  refine ⟨?_, ?_, ?_⟩
  · intro br b c v env ok l henv hl hvids hall hone
    exact vids_oneByOne henv hl hvids hall hone
  · intro br b c m env l henv hl hfids hall hone
    exact fids_oneByOne henv hl hfids hall hone
  · intro env call br
    obtain ⟨begins, hends, hmoves⟩ := @exec_ends env br call
    exact ⟨_, begins, hends, hmoves, fun br' ok h => (exec_returns h).1⟩

theorem brBegin_disabled {late : Nat → Bool} {fuel : Nat} {br : Bridge}
    (hdisabled : br.bridgeEnabled = false) : brStateMachinesBegin late fuel br = some br := by
  rw [brStateMachinesBegin, hdisabled]
  rfl

/-- Calls on a bridge that is not enabled return. -/
theorem exec_disabled (env : Env) (call : TableCall) {br : Bridge}
    (hdisabled : br.bridgeEnabled = false) :
    ∃ br' ok, call.exec env br = some (br', ok) ∧ br'.bridgeEnabled = false := by
  obtain ⟨begins, hends, -⟩ := @exec_ends env br call
  generalize call.exec env br = r at hends
  cases hends with
  | begins =>
    have hdigest : (recalcConfigDigest env
        (br.withTables (call.write br.trees br.tables))).bridgeEnabled = false := hdisabled
    rw [brBegin_disabled hdigest]
    exact ⟨_, true, rfl, hdisabled⟩
  | stays ok => exact ⟨_, ok, rfl, hdisabled⟩

theorem oneByOne_disabled (call : UInt16 → TableCall) (l : List (Env × UInt16)) {br : Bridge}
    (hdisabled : br.bridgeEnabled = false) : ∃ b, oneByOne call l br = some b := by
  induction l generalizing br with
  | nil => exact ⟨br, rfl⟩
  | cons first l ih =>
    obtain ⟨br', ok, hexec, hdisabled⟩ := exec_disabled first.1 (call first.2) hdisabled
    obtain ⟨b, hb⟩ := ih hdisabled
    refine ⟨b, ?_⟩
    rw [oneByOne, hexec]
    exact hb

/-- A bridge whose VIDs are in MSTI 1. -/
def twoTrees : Bridge where
  trees := [0, 1]
  vid2fid _ := 7
  fid2mstid fid := if fid = 7 then 1 else 0

theorem twoTrees_disabled : twoTrees.bridgeEnabled = false := rfl

/-- The numbers below 4096, which serve as VIDs and as FIDs. -/
def allKeys : List (Env × UInt16) := (List.range 4096).map fun n => (sampleEnv, .ofNat n)

theorem mem_allKeys {k : UInt16} : (∃ e ∈ allKeys, e.2 = k) ↔ k.toNat ≤ maxFid := by
  constructor
  · rintro ⟨e, he, rfl⟩
    obtain ⟨n, hn, rfl⟩ := List.mem_map.mp he
    have hn := List.mem_range.mp hn
    have hsize : n < 2 ^ 16 := Nat.lt_trans hn (by decide)
    have htoNat : (UInt16.ofNat n).toNat = n := UInt16.toNat_ofNat_of_lt' hsize
    rw [htoNat]
    exact Nat.le_of_lt_succ hn
  · intro hk
    have hmem : k.toNat ∈ List.range 4096 := List.mem_range.mpr (Nat.lt_succ_of_le hk)
    exact ⟨_, List.mem_map.mpr ⟨_, hmem, rfl⟩, UInt16.ofNat_toNat⟩

theorem allKeys_env : ∀ e ∈ allKeys, e.1.hmacMd5 = sampleEnv.hmacMd5 := by
  intro e he
  obtain ⟨n, -, rfl⟩ := List.mem_map.mp he
  rfl

/-- All VIDs move to FID 3, or all FIDs to the CIST. -/
theorem twoTrees_agree : ∃ b c b' c',
    mstpInSetAllVids2fids sampleEnv (fun _ => 3) twoTrees = some (c, true) ∧
    oneByOne (fun vid => .vid2fid vid 3) allKeys twoTrees = some b ∧
    (∀ vid, 1 ≤ vid → vid ≤ maxVid → b.vid2fid vid = c.vid2fid vid) ∧
    b.mstConfigId.configurationDigest = c.mstConfigId.configurationDigest ∧
    mstpInSetAllFids2mstids sampleEnv (fun _ => 0) twoTrees = some (c', true) ∧
    oneByOne (fun fid => .fid2mstid fid 0) allKeys twoTrees = some b' ∧
    (∀ fid ≤ maxFid, b'.fid2mstid fid = c'.fid2mstid fid) ∧
    b'.mstConfigId.configurationDigest = c'.mstConfigId.configurationDigest := by
  obtain ⟨hvids, hfids, -⟩ := table_setters_agree sampleEnv.hmacMd5
  obtain ⟨c, ok, hc, -⟩ := exec_disabled sampleEnv (.allVids2fids fun _ => 3) twoTrees_disabled
  obtain ⟨c', ok', hc', -⟩ :=
    exec_disabled sampleEnv (.allFids2mstids fun _ => 0) twoTrees_disabled
  obtain ⟨b, hb⟩ := oneByOne_disabled (fun vid => .vid2fid vid 3) allKeys twoTrees_disabled
  obtain ⟨b', hb'⟩ := oneByOne_disabled (fun fid => .fid2mstid fid 0) allKeys twoTrees_disabled
  simp only [exec] at hc hc'
  obtain rfl : ok = true := by
    rw [mstpInSetAllVids2fids] at hc
    exact tablesWritten_ok hc
  obtain rfl : ok' = true := by
    rw [mstpInSetAllFids2mstids, if_neg] at hc'
    · exact tablesWritten_ok hc'
    · rw [Bool.not_eq_true', Bool.not_eq_false, List.all_eq_true]
      intro fid _
      rfl
  have hv := hvids twoTrees b c (fun _ => 3) sampleEnv true allKeys rfl allKeys_env
    (fun vid _ hle => mem_allKeys.mpr (Nat.le_succ_of_le hle)) hc hb
  have hf := hfids twoTrees b' c' (fun _ => 0) sampleEnv allKeys rfl allKeys_env
    (fun fid => mem_allKeys.trans ⟨fun h => ⟨h, Nat.zero_le _⟩, And.left⟩) hc' hb'
  exact ⟨b, c, b', c', hc, hb, hv.1, hv.2, hc', hb', hf.1, hf.2⟩

end TableCall

end Mstpd
