import Mstpd.BridgeConfig

/-!
# The MST Configuration Identifier

The digest of the allocation tables is computed when an operation changes the allocation of
a VID. What the identifier says is therefore determined by the tables, and by the name and
the revision that were configured last, whatever operations led there.
-/

namespace Mstpd

open Bridge

/-! ## Operations that leave the tables alone -/

/-- Everything but the identifier, the tables and the list of trees. -/
def besideTables : Owned where
  config b :=
    { trees := b.trees, mstConfigId := b.mstConfigId, vid2fid := b.vid2fid
      fid2mstid := b.fid2mstid }
  ptp _ := {}
  port _ := {}
  tree _ := {}
  out _ := true

instance : besideSettings.Within besideTables :=
  ⟨fun _ => rfl, fun _ => rfl, fun _ => rfl, fun _ => rfl, fun _ _ => rfl⟩

instance : timesOwned.Within besideTables :=
  ⟨fun _ => rfl, fun _ => rfl, fun _ => rfl, fun _ => rfl, fun _ _ => rfl⟩

instance : txCountOwned.Within besideTables :=
  ⟨fun _ => rfl, fun _ => rfl, fun _ => rfl, fun _ => rfl, fun _ _ => rfl⟩

/-- The operations on trees, tables and the identifier. -/
def Op.writesTables : Op → Bool
  | .setVid2fid .. => true
  | .setAllVids2fids .. => true
  | .setFid2mstid .. => true
  | .setAllFids2mstids .. => true
  | .createMsti .. => true
  | .deleteMsti .. => true
  | .setMstConfigId .. => true
  | _ => false

section Beside

variable {env : Env} {br b br' : Bridge}

theorem Frame.settings (h : Frame besideTables br b) (h' : Frame besideSettings b br') :
    Frame besideTables br br' := h.trans h'.mono

theorem brRun_tables (h : Frame besideTables br b) {late : Nat → Bool} {fuel : Nat}
    (h' : brStateMachinesRun late fuel b = some br') : Frame besideTables br br' :=
  h.settings (brRun_settings h')

theorem brBegin_tables (h : Frame besideTables br b) {late : Nat → Bool} {fuel : Nat}
    (h' : brStateMachinesBegin late fuel b = some br') : Frame besideTables br br' :=
  h.settings (brBegin_settings h')

theorem setBridgeAddress_tables {macaddr : BitVec 48}
    (h : mstpInSetBridgeAddress env macaddr br = some br') : Frame besideTables br br' := by
  have hset : ∀ s b, Frame besideTables b (b.setTree s (treeAddress macaddr)) :=
    fun _ _ => Frame.setTree fun _ => rfl
  have hwrite := Frame.forAll hset br.trees br
  rw [mstpInSetBridgeAddress] at h
  split at h
  · exact brBegin_tables hwrite h
  · exact Option.some.inj h ▸ hwrite

theorem setCistBridgeConfig_tables {cfg : CistBridgeConfig} {ok : Bool}
    (h : mstpInSetCistBridgeConfig env cfg br = some (br', ok)) : Frame besideTables br br' := by
  have hwrite : Frame besideTables br (writeBridgeConfig cfg br) := by
    have hassign : Frame besideTables br (assignParameters cfg br) :=
      ⟨rfl, fun _ _ => rfl, fun _ => rfl, fun _ => rfl, rfl⟩
    have hreset := Frame.ite (c := holdCountChanges cfg br)
      (hassign.trans (resetTxCounts_frame _).mono) hassign
    exact Frame.ite (hreset.trans (propagateBridgeTimes_frame _).mono) hreset
  rw [mstpInSetCistBridgeConfig] at h
  split at h
  · exact (Prod.mk.inj (Option.some.inj h)).1 ▸ Frame.refl _ _
  · split at h
    · split at h
      · exact brBegin_tables hwrite (map_true h)
      · split at h
        · exact brRun_tables hwrite (map_true h)
        · exact (Prod.mk.inj (Option.some.inj h)).1 ▸ hwrite
    · exact (Prod.mk.inj (Option.some.inj h)).1 ▸ hwrite

theorem setMstiBridgeConfig_tables (t : Mstid) (prio : UInt8) (br : Bridge) :
    Frame besideTables br (mstpInSetMstiBridgeConfig t prio br).1 := by
  rw [mstpInSetMstiBridgeConfig]
  split
  · exact Frame.refl _ _
  · dsimp only
    split
    · exact Frame.refl _ _
    · dsimp only
      exact Frame.after (Frame.setTreePtps fun _ _ => rfl) (Frame.setTree fun _ => rfl)

theorem setCistPortConfig_tables {p : PortRef} {cfg : CistPortConfig} {ok : Bool}
    (h : mstpInSetCistPortConfig env p cfg br = some (br', ok)) : Frame besideTables br br' := by
  have hassign : Frame besideTables br ((br.setPtp p 0 fun ptp =>
      { ptp with
        selected := ptp.selected && !costChanges p cfg br
        reselect := ptp.reselect || costChanges p cfg br }).setPort p (assignPortConfig cfg)) :=
    Frame.after (Frame.setPort fun _ => rfl) (Frame.setPtp fun _ => rfl)
  have hbegin : ∀ b, Frame besideSettings b (bdsmBegin p b) := fun b => (bdsmTo_frame p _ b).mono
  have hwrite : Frame besideTables br (writePortConfig p cfg br) :=
    Frame.ite hassign (hassign.settings (hbegin _))
  rw [mstpInSetCistPortConfig] at h
  split at h
  · exact (Prod.mk.inj (Option.some.inj h)).1 ▸ Frame.refl _ _
  · split at h
    · exact brRun_tables hwrite (map_true h)
    · exact (Prod.mk.inj (Option.some.inj h)).1 ▸ hwrite

theorem setMstiPortConfig_tables {p : PortRef} {t : Mstid} {cfg : MstiPortConfig} {ok : Bool}
    (h : mstpInSetMstiPortConfig env p t cfg br = some (br', ok)) : Frame besideTables br br' := by
  have hset : ∀ b f, Frame besideTables b (b.setPtp p t f) := fun _ _ => Frame.setPtp fun _ => rfl
  have hassign := hset br (assignPtpConfig (br.port p).speed cfg)
  rw [mstpInSetMstiPortConfig] at h
  split at h
  · exact (Prod.mk.inj (Option.some.inj h)).1 ▸ Frame.refl _ _
  · dsimp only at h
    split at h
    · exact brRun_tables (hassign.trans (hset _ _)) (map_true h)
    · exact (Prod.mk.inj (Option.some.inj h)).1 ▸ hassign

theorem allFidsFlushed_tables {p : PortRef} {t : Mstid}
    (h : mstpInAllFidsFlushed env p t br = some br') : Frame besideTables br br' := by
  have hset : Frame besideTables br
      (br.setPtp p t fun ptp => { ptp with fdbFlush := false }) := Frame.setPtp fun _ => rfl
  rw [mstpInAllFidsFlushed] at h
  split at h
  · obtain ⟨b, hb, hrun⟩ := Option.bind_eq_some_iff.mp h
    have htcsm : Frame besideTables br b := by
      refine Machine.run_inv (fun c c' again hc hstep => ?_) hset hb
      obtain ⟨s, -, heq⟩ := Option.map_eq_some_iff.mp hstep
      have hto : tcsmTo p t s c = c' := (Prod.mk.inj heq).1
      have hone : Frame besideSettings c (tcsmTo p t s c) := (tcsmTo_frame p t s c).mono
      exact hto ▸ hc.settings hone
    exact brRun_tables htcsm hrun
  · exact Option.some.inj h ▸ hset

theorem setPortEnable_tables {p : PortRef} {up : Bool} {speed duplex : Int}
    (h : mstpInSetPortEnable env p up speed duplex br = some br') : Frame besideTables br br' := by
  obtain ⟨b, hlink, hend⟩ := setPortEnable_ending h
  have hb : Frame besideSettings br b := hlink.mono
  rcases hend with ⟨rfl, -⟩ | hrun
  · exact hb.mono
  · exact brRun_tables hb.mono hrun

theorem oneSecond_tables (h : mstpInOneSecond env br = some br') : Frame besideTables br br' := by
  obtain ⟨b, htick, hend⟩ := oneSecond_ending h
  have hb : Frame besideSettings br b := htick.mono
  rcases hend with ⟨rfl, -⟩ | hrun
  · exact hb.mono
  · exact brRun_tables hb.mono hrun

theorem rxBpdu_tables {p : PortRef} {bpdu : Mem} {size : Nat}
    (h : mstpInRxBpdu env p bpdu size br = some br') : Frame besideTables br br' := by
  have hrefused : refusedOwned.Within besideTables :=
    ⟨fun _ => rfl, fun _ => rfl, fun _ => rfl, fun _ => rfl, fun _ _ => rfl⟩
  rcases rxBpdu_ending h with hf | ⟨b, version, mstis, hf, -, -, hrun⟩
  · exact hf.mono
  · have haccept : Frame besideSettings b (acceptBpdu p bpdu version mstis b) :=
      (acceptBpdu_frame p bpdu version mstis b).mono
    exact brRun_tables (Frame.settings hf.mono haccept) hrun

theorem deletePort_tables {p : PortRef} (h : mstpInDeletePort env p br = some br') :
    Frame besideTables br br' := by
  have hmark : Frame besideTables br (markDeleted p br) := Frame.setPort fun _ => rfl
  obtain ⟨b, hb, hrun⟩ := deletePort_cases h
  have hfirst : Frame besideTables br b := by
    rcases hb with hb | ⟨-, rfl⟩
    · exact brRun_tables hmark hb
    · exact hmark
  have herase : Frame besideTables b { b with ports := b.ports.erase p } :=
    ⟨rfl, fun _ _ => rfl, fun _ => rfl, fun _ => rfl, rfl⟩
  exact brRun_tables (hfirst.trans herase) hrun

theorem createPort_tables {p : PortRef} {portno : UInt16} {name : String} {speed duplex : Int}
    {ok : Bool}
    (h : mstpInPortCreateAndAddTail env p portno name speed duplex br = some (br', ok)) :
    Frame besideTables br br' := by
  have hadd : Frame besideTables br (addPort p portno name speed duplex br) :=
    ⟨rfl, fun _ _ => rfl, fun _ => rfl, fun _ => rfl, rfl⟩
  rcases createPort_cases h with rfl | hbegin
  · exact Frame.refl _ _
  · exact hadd.settings (prtBegin_settings (List.mem_append_right _ List.mem_cons_self) hbegin)

/-- Only the operations on trees, tables and the identifier write these. -/
theorem exec_tables {op : Op} {ok : Bool} (hop : op.writesTables = false)
    (h : exec env br op = some (br', ok)) : Frame besideTables br br' := by
  cases op with
  | createPort p portno name speed duplex => exact createPort_tables h
  | deletePort p => exact deletePort_tables (map_true h)
  | setBridgeAddress macaddr => exact setBridgeAddress_tables (map_true h)
  | setBridgeEnable up =>
    rcases setBridgeEnable_cases (map_true h) with rfl | ⟨-, hbegin⟩
    · exact Frame.refl _ _
    · have hreset : Frame besideSettings br (resetBridge up br) := (resetBridge_frame up br).mono
      exact brBegin_tables hreset.mono hbegin
  | setPortEnable p up speed duplex => exact setPortEnable_tables (map_true h)
  | oneSecond => exact oneSecond_tables (map_true h)
  | allFidsFlushed p t => exact allFidsFlushed_tables (map_true h)
  | rxBpdu p bpdu size => exact rxBpdu_tables (map_true h)
  | setCistBridgeConfig cfg => exact setCistBridgeConfig_tables h
  | setMstiBridgeConfig t prio =>
    have hpair : mstpInSetMstiBridgeConfig t prio br = (br', ok) := Option.some.inj h
    have hwrite := setMstiBridgeConfig_tables t prio br
    rwa [hpair] at hwrite
  | setCistPortConfig p cfg => exact setCistPortConfig_tables h
  | setMstiPortConfig p t cfg => exact setMstiPortConfig_tables h
  | portMcheck p =>
    have hwrite : Frame besideTables br (requestMcheck p br) :=
      Frame.after (Frame.setPtp fun _ => rfl) (Frame.setPort fun _ => rfl)
    have hcheck := map_true h
    rw [mstpInPortMcheck] at hcheck
    split at hcheck
    · exact brRun_tables hwrite hcheck
    · exact Option.some.inj hcheck ▸ Frame.refl _ _
  | sysdeps p speed duplex =>
    have hwrite : Frame besideTables br (br.setPort p fun prt =>
        { prt with speed := speed, duplex := duplex }) := Frame.setPort fun _ => rfl
    exact (Prod.mk.inj (Option.some.inj h)).1 ▸ hwrite
  | _ => cases hop

end Beside

/-! ## The tables and their digest -/

/-- The table of 13.7: the MSTIDs of all VIDs, in the order of their octets. -/
def mstConfigTable (mstid : Nat → UInt16) : List UInt8 :=
  (List.range 4096).flatMap fun vid => be16 (if 1 ≤ vid ∧ vid ≤ 4094 then mstid vid else 0)

theorem mstConfigTable_congr {f g : Nat → UInt16}
    (h : ∀ vid, 1 ≤ vid → vid ≤ maxVid → f vid = g vid) :
    mstConfigTable f = mstConfigTable g := by
  have hentry : ∀ vid, be16 (if 1 ≤ vid ∧ vid ≤ 4094 then f vid else 0) =
      be16 (if 1 ≤ vid ∧ vid ≤ 4094 then g vid else 0) := by
    intro vid
    by_cases hv : 1 ≤ vid ∧ vid ≤ 4094
    · rw [if_pos hv, if_pos hv, h vid hv.1 hv.2]
    · rw [if_neg hv, if_neg hv]
  simp only [mstConfigTable, hentry]

/-- The tables are well formed, and the digest is theirs. -/
structure TablesFit (hmac : List UInt8 → List UInt8 → List UInt8) (br : Bridge) : Prop where
  digest : br.mstConfigId.configurationDigest = hmac (mstConfigTable (vid2mstid br)) hmacKey
  fids : ∀ fid ≤ maxFid, br.fid2mstid fid ∈ br.trees
  vids : ∀ vid, 1 ≤ vid → vid ≤ maxVid → (br.vid2fid vid).toNat ≤ maxFid

/-- The parts of the identifier that are configured. -/
def nameAndRevision (br : Bridge) : UInt8 × List UInt8 × UInt16 :=
  (br.mstConfigId.selector, br.mstConfigId.configurationName, br.mstConfigId.revisionLevel)

section Tables

variable {hmac : List UInt8 → List UInt8 → List UInt8} {env : Env} {br b br' : Bridge} {ok : Bool}

theorem TablesFit.frame (hi : TablesFit hmac br) (h : Frame besideTables br br') :
    TablesFit hmac br' ∧ nameAndRevision br' = nameAndRevision br := by
  have hid : br'.mstConfigId = br.mstConfigId := h.config_eq Bridge.mstConfigId fun _ => rfl
  have hvids : br'.vid2fid = br.vid2fid := h.config_eq Bridge.vid2fid fun _ => rfl
  have hfids : br'.fid2mstid = br.fid2mstid := h.config_eq Bridge.fid2mstid fun _ => rfl
  have htrees : br'.trees = br.trees := h.config_eq Bridge.trees fun _ => rfl
  have hmap : vid2mstid br' = vid2mstid br := by
    funext vid
    rw [vid2mstid, vid2mstid, hvids, hfids]
  refine ⟨⟨?_, ?_, ?_⟩, ?_⟩
  · rw [hid, hmap]
    exact hi.digest
  · rw [hfids, htrees]
    exact hi.fids
  · rw [hvids]
    exact hi.vids
  · rw [nameAndRevision, nameAndRevision, hid]

/-- Tables are written with a new digest, or leave the allocation of every VID as it was. -/
theorem TablesFit.written (hi : TablesFit hmac br) (henv : env.hmacMd5 = hmac)
    {vid2fid fid2mstid : Nat → UInt16} {changed : Bool}
    (hfids : ∀ fid ≤ maxFid, fid2mstid fid ∈ br.trees)
    (hvids : ∀ vid, 1 ≤ vid → vid ≤ maxVid → (vid2fid vid).toNat ≤ maxFid)
    (hsame : changed = false → ∀ vid, 1 ≤ vid → vid ≤ maxVid →
      fid2mstid (vid2fid vid).toNat = vid2mstid br vid)
    (h : tablesWritten env changed { br with vid2fid := vid2fid, fid2mstid := fid2mstid } =
      some (br', ok)) :
    TablesFit hmac br' ∧ nameAndRevision br' = nameAndRevision br := by
  rw [tablesWritten] at h
  cases changed with
  | true =>
    have hbegin := map_true h
    have hfit : TablesFit hmac
        (recalcConfigDigest env { br with vid2fid := vid2fid, fid2mstid := fid2mstid }) :=
      ⟨by rw [← henv]; rfl, hfids, hvids⟩
    exact hfit.frame (brBegin_settings hbegin).mono
  | false =>
    obtain rfl := (Prod.mk.inj (Option.some.inj h)).1
    have htable := mstConfigTable_congr (hsame rfl)
    refine ⟨⟨?_, hfids, hvids⟩, rfl⟩
    exact hi.digest.trans (congrArg (fun table => hmac table hmacKey) htable.symm)

theorem TablesFit.setVid2fid (hi : TablesFit hmac br) (henv : env.hmacMd5 = hmac) {vid fid : UInt16}
    (h : mstpInSetVid2fid env vid fid br = some (br', ok)) :
    TablesFit hmac br' ∧ nameAndRevision br' = nameAndRevision br := by
  rw [mstpInSetVid2fid] at h
  split at h
  · obtain rfl := (Prod.mk.inj (Option.some.inj h)).1
    exact ⟨hi, rfl⟩
  · rename_i hrange
    refine hi.written henv hi.fids (fun v hv hle => ?_) (fun hno v hv hle => ?_) h
    · split
      · omega
      · exact hi.vids v hv hle
    · by_cases hone : v = vid.toNat
      · simp only [hone, if_true]
        simpa using hno
      · rw [if_neg hone]
        rfl

theorem TablesFit.setAllVids2fids (hi : TablesFit hmac br) (henv : env.hmacMd5 = hmac)
    {f : Nat → UInt16} (h : mstpInSetAllVids2fids env f br = some (br', ok)) :
    TablesFit hmac br' ∧ nameAndRevision br' = nameAndRevision br := by
  rw [mstpInSetAllVids2fids] at h
  refine hi.written henv hi.fids (fun v hv hle => ?_) (fun hno v hv hle => ?_) h
  · rw [if_pos hle]
    beta_reduce
    split
    · exact hi.vids v hv hle
    · omega
  · rw [if_pos hle]
    rw [List.any_eq_false] at hno
    simpa [hv] using hno v (List.mem_range.mpr (by omega))

theorem TablesFit.setFid2mstid (hi : TablesFit hmac br) (henv : env.hmacMd5 = hmac)
    {fid mstid : UInt16} (h : mstpInSetFid2mstid env fid mstid br = some (br', ok)) :
    TablesFit hmac br' ∧ nameAndRevision br' = nameAndRevision br := by
  rw [mstpInSetFid2mstid] at h
  split at h
  · obtain rfl := (Prod.mk.inj (Option.some.inj h)).1
    exact ⟨hi, rfl⟩
  · split at h
    · obtain rfl := (Prod.mk.inj (Option.some.inj h)).1
      exact ⟨hi, rfl⟩
    · rename_i hmem
      split at h
      · obtain rfl := (Prod.mk.inj (Option.some.inj h)).1
        exact ⟨hi, rfl⟩
      · refine hi.written henv (fun g hg => ?_) hi.vids (fun hno v hv hle => ?_) h
        · split
          · simpa using hmem
          · exact hi.fids g hg
        · rw [List.any_eq_false] at hno
          have hunused := hno v (List.mem_range.mpr (by omega))
          simp only [hv, decide_true, Bool.true_and, beq_iff_eq] at hunused
          have hother : (br.vid2fid v).toNat ≠ fid.toNat := fun heq =>
            hunused (UInt16.toNat_inj.mp heq)
          rw [if_neg hother]
          rfl

theorem TablesFit.setAllFids2mstids (hi : TablesFit hmac br) (henv : env.hmacMd5 = hmac)
    {f : Nat → UInt16} (h : mstpInSetAllFids2mstids env f br = some (br', ok)) :
    TablesFit hmac br' ∧ nameAndRevision br' = nameAndRevision br := by
  rw [mstpInSetAllFids2mstids] at h
  split at h
  · obtain rfl := (Prod.mk.inj (Option.some.inj h)).1
    exact ⟨hi, rfl⟩
  · rename_i hall
    refine hi.written henv (fun g hg => ?_) hi.vids (fun hno v hv hle => ?_) h
    · simp only [Bool.not_eq_true', Bool.not_eq_false, List.all_eq_true] at hall
      rw [if_pos hg]
      simpa using hall g (List.mem_range.mpr (by omega))
    · rw [List.any_eq_false] at hno
      have hsame := hno v (List.mem_range.mpr (by omega))
      simp only [hv, decide_true, Bool.true_and, bne_iff_ne, ne_eq, not_not] at hsame
      exact hsame

theorem TablesFit.createMsti (hi : TablesFit hmac br) {mstid : UInt16}
    (h : mstpInCreateMsti env mstid br = some (br', ok)) :
    TablesFit hmac br' ∧ nameAndRevision br' = nameAndRevision br := by
  rcases createMsti_cases h with rfl | ⟨trees, -, -, hins, hbegin⟩
  · exact ⟨hi, rfl⟩
  · have hmem := insertAfterLast_mem hins
    have hfit : TablesFit hmac (addTree mstid trees br) :=
      ⟨hi.digest, fun fid hfid => (hmem _).mpr (Or.inr (hi.fids fid hfid)), hi.vids⟩
    exact hfit.frame (treeBegin_settings ((hmem mstid).mpr (Or.inl rfl)) hbegin).mono

/-- A tree is removed only when no FID is allocated to it. -/
theorem TablesFit.deleteMsti (hi : TablesFit hmac br) {mstid : UInt16}
    (h : mstpInDeleteMsti env mstid br = some (br', ok)) :
    TablesFit hmac br' ∧ nameAndRevision br' = nameAndRevision br := by
  have hstay : ∀ {c : Bool}, some (br, c) = some (br', ok) →
      TablesFit hmac br' ∧ nameAndRevision br' = nameAndRevision br := by
    intro c hc
    obtain rfl := (Prod.mk.inj (Option.some.inj hc)).1
    exact ⟨hi, rfl⟩
  rw [mstpInDeleteMsti] at h
  split at h
  · exact hstay h
  · split at h
    · exact hstay h
    · rename_i hunused
      split at h
      · exact hstay h
      · have hfit : TablesFit hmac { br with trees := br.trees.erase mstid } := by
          refine ⟨hi.digest, fun fid hfid => ?_, hi.vids⟩
          simp only [Bool.not_eq_true, List.any_eq_false, beq_iff_eq] at hunused
          have hne := hunused fid (List.mem_range.mpr (by omega))
          exact (List.mem_erase_of_ne hne).mpr (hi.fids fid hfid)
        exact hfit.frame (brRun_settings (map_true h)).mono

end Tables

/-! ## The configured name -/

/-- A name in the 32 octets of the identifier. -/
def paddedName (name : List UInt8) : List UInt8 := name ++ List.replicate (32 - name.length) 0

theorem takeWhile_zeros {name : List UInt8} (h : ∀ c ∈ name, c ≠ 0) (n : Nat) :
    (name ++ List.replicate n 0).takeWhile (· != 0) = name := by
  have hall : ∀ c ∈ name, (c != 0) = true := by simpa using h
  rw [List.takeWhile_append_of_pos hall]
  cases n <;> simp [List.replicate_succ]

theorem cName_ne_zero (name : Nat → UInt8) : ∀ c ∈ cName name, c ≠ 0 := by
  intro c hc
  simpa using List.all_eq_true.mp List.all_takeWhile c hc

/-- The address in hexadecimal digits, without the zeros behind them. -/
def macDigits (macaddr : BitVec 48) : List UInt8 :=
  (List.range 12).map fun i => hexDigit (macaddr.toNat >>> (4 * (11 - i)) % 16)

theorem hexDigit_ne_zero {n : Nat} (h : n < 16) : hexDigit n ≠ 0 := by
  have hall : ∀ k : Fin 16, hexDigit k.val ≠ 0 := by decide
  exact hall ⟨n, h⟩

theorem macName_eq (macaddr : BitVec 48) : macName macaddr = paddedName (macDigits macaddr) := by
  simp [macName, paddedName, macDigits]

/-- The name configured last; before that it is the address of the bridge. -/
def configuredName (macaddr : BitVec 48) : List Op → List UInt8
  | [] => macName macaddr
  | .setMstConfigId _ name :: _ => paddedName (cName name)
  | _ :: ops => configuredName macaddr ops

def configuredRevision : List Op → UInt16
  | [] => 0
  | .setMstConfigId revision _ :: _ => revision
  | _ :: ops => configuredRevision ops

/-- A name is determined by what `strncmp` sees of it. -/
theorem configuredName_padded (macaddr : BitVec 48) (ops : List Op) :
    ∃ name, (∀ c ∈ name, c ≠ 0) ∧ configuredName macaddr ops = paddedName name := by
  induction ops with
  | nil =>
    refine ⟨macDigits macaddr, fun c hc => ?_, macName_eq macaddr⟩
    obtain ⟨i, -, rfl⟩ := List.mem_map.mp hc
    exact hexDigit_ne_zero (Nat.mod_lt _ (by decide))
  | cons op ops ih =>
    cases op with
    | setMstConfigId revision name => exact ⟨cName name, cName_ne_zero name, rfl⟩
    | _ => exact ih

/-! ## Runs -/

/-- A run of operations with one digest function; the operations are listed latest first. -/
inductive Ran (hmac : List UInt8 → List UInt8 → List UInt8) (macaddr : BitVec 48) :
    List Op → Bridge → Prop
  | create {env : Env} (henv : env.hmacMd5 = hmac) :
    Ran hmac macaddr [] (mstpInBridgeCreate env macaddr)
  | op {env : Env} {op : Op} {ops : List Op} {br br' : Bridge} {ok : Bool}
    (hran : Ran hmac macaddr ops br) (hvalid : op.Valid br) (henv : env.hmacMd5 = hmac)
    (h : exec env br op = some (br', ok)) : Ran hmac macaddr (op :: ops) br'

section Runs

variable {hmac : List UInt8 → List UInt8 → List UInt8} {macaddr : BitVec 48} {ops : List Op}
  {br br' : Bridge}

theorem tablesFit_create {env : Env} (henv : env.hmacMd5 = hmac) (macaddr : BitVec 48) :
    TablesFit hmac (mstpInBridgeCreate env macaddr) where
  digest := by
    rw [← henv]
    rfl
  fids _ _ := List.mem_singleton_self 0
  vids _ _ _ := Nat.zero_le _

/-- The identifier is compared with what is configured before it is written. -/
theorem setMstConfigId_name {env : Env} {revision : UInt16} {name : Nat → UInt8}
    (hi : TablesFit hmac br)
    (hname : nameAndRevision br = (0, configuredName macaddr ops, configuredRevision ops))
    (h : mstpInSetMstConfigId env revision name br = some br') :
    TablesFit hmac br' ∧ nameAndRevision br' = (0, paddedName (cName name), revision) := by
  simp only [nameAndRevision, Prod.mk.injEq] at hname
  obtain ⟨hselector, hold, hrevision⟩ := hname
  rw [mstpInSetMstConfigId] at h
  dsimp only at h
  split at h
  · have hfit : TablesFit hmac { br with mstConfigId := { br.mstConfigId with
        revisionLevel := revision, configurationName := paddedName (cName name) } } :=
      ⟨hi.digest, hi.fids, hi.vids⟩
    obtain ⟨hfit', hsame⟩ := hfit.frame (brBegin_settings h).mono
    refine ⟨hfit', hsame.trans ?_⟩
    simp only [nameAndRevision, hselector]
  · rename_i hsame
    obtain rfl := Option.some.inj h
    simp only [Bool.or_eq_true, not_or, Bool.not_eq_true, bne_eq_false_iff_eq] at hsame
    obtain ⟨padded, hnonzero, hpadded⟩ := configuredName_padded macaddr ops
    have hseen : cName name = padded := by
      rw [hsame.1, hold, hpadded, paddedName, takeWhile_zeros hnonzero]
    refine ⟨hi, ?_⟩
    rw [nameAndRevision, hselector, hold, hpadded, hseen, hsame.2]

/-- The identifier of a bridge is what its tables and the latest configuration say. -/
theorem Ran.identifier (h : Ran hmac macaddr ops br) : TablesFit hmac br ∧
    nameAndRevision br = (0, configuredName macaddr ops, configuredRevision ops) := by
  induction h with
  | create henv => exact ⟨tablesFit_create henv macaddr, rfl⟩
  | @op env op ops br br' ok _ _ henv hop ih =>
    obtain ⟨hfit, hname⟩ := ih
    have hkeeps : ∀ {c : Bridge}, TablesFit hmac c ∧ nameAndRevision c = nameAndRevision br →
        TablesFit hmac c ∧ nameAndRevision c = (0, configuredName macaddr ops,
          configuredRevision ops) := fun hc => ⟨hc.1, hc.2.trans hname⟩
    cases op with
    | setVid2fid vid fid => exact hkeeps (hfit.setVid2fid henv hop)
    | setAllVids2fids f => exact hkeeps (hfit.setAllVids2fids henv hop)
    | setFid2mstid fid mstid => exact hkeeps (hfit.setFid2mstid henv hop)
    | setAllFids2mstids f =>
      rw [exec] at hop
      exact hkeeps (hfit.setAllFids2mstids henv hop)
    | createMsti mstid => exact hkeeps (hfit.createMsti hop)
    | deleteMsti mstid => exact hkeeps (hfit.deleteMsti hop)
    | setMstConfigId revision name => exact setMstConfigId_name hfit hname (map_true hop)
    | _ => exact hkeeps (hfit.frame (exec_tables rfl hop))

theorem Ran.execAll {env : Env} (henv : env.hmacMd5 = hmac) {past : List Op}
    (hran : Ran hmac macaddr past br) (h : execAll env ops br = some br') :
    Ran hmac macaddr (ops.reverse ++ past) br' := by
  induction ops generalizing br past with
  | nil => exact Option.some.inj h ▸ hran
  | cons op ops ih =>
    rw [Mstpd.execAll] at h
    split at h
    · rename_i hvalid
      obtain ⟨⟨b, ok⟩, hb, hrest⟩ := Option.bind_eq_some_iff.mp h
      have hnext := ih (.op hran hvalid henv hb) hrest
      rwa [List.reverse_cons, List.append_assoc]
    · cases h

end Runs

/-- The identifier depends on the tables, the name and the revision only, not on the operations
that led to them; bridges that agree on these are in one region. -/
theorem config_id_history_independent (hmac : List UInt8 → List UInt8 → List UInt8) :
    (∀ macaddr ops br, Ran hmac macaddr ops br →
      br.mstConfigId.a = 0 :: (configuredName macaddr ops ++ be16 (configuredRevision ops) ++
        hmac (mstConfigTable (vid2mstid br)) hmacKey) ∧
      (∀ fid ≤ maxFid, br.fid2mstid fid ∈ br.trees) ∧
      (∀ vid, 1 ≤ vid → vid ≤ maxVid → (br.vid2fid vid).toNat ≤ maxFid) ∧
      ∀ env op br', exec env br op = some (br', false) → br'.vid2fid = br.vid2fid ∧
        br'.fid2mstid = br.fid2mstid ∧ br'.mstConfigId = br.mstConfigId) ∧
    ∀ macaddr₁ macaddr₂ ops₁ ops₂ br₁ br₂, Ran hmac macaddr₁ ops₁ br₁ → Ran hmac macaddr₂ ops₂ br₂ →
      configuredName macaddr₁ ops₁ = configuredName macaddr₂ ops₂ →
      configuredRevision ops₁ = configuredRevision ops₂ →
      (∀ vid, 1 ≤ vid → vid ≤ maxVid → vid2mstid br₁ vid = vid2mstid br₂ vid) →
      br₁.mstConfigId.a = br₂.mstConfigId.a ∧
      ∀ p q, br₁.forceProtocolVersion = .mstp →
        (br₂.port q).rcvdBpduData.bpdu.protocolVersion = (txMstpBpdu br₁ p).1.protocolVersion →
        (br₂.port q).rcvdBpduData.bpdu.mstConfigurationIdentifier =
          (txMstpBpdu br₁ p).1.mstConfigurationIdentifier →
        fromSameRegion br₂ q = true := by
  have hid : ∀ macaddr ops br, Ran hmac macaddr ops br →
      br.mstConfigId.a = 0 :: (configuredName macaddr ops ++ be16 (configuredRevision ops) ++
        hmac (mstConfigTable (vid2mstid br)) hmacKey) := by
    intro macaddr ops br hran
    obtain ⟨hfit, hname⟩ := hran.identifier
    simp only [nameAndRevision, Prod.mk.injEq] at hname
    rw [MstConfigurationIdentifier.a, hname.1, hname.2.1, hname.2.2, hfit.digest]
  refine ⟨fun macaddr ops br hran => ⟨hid _ _ _ hran, hran.identifier.1.fids,
    hran.identifier.1.vids, fun env op br' hop => ?_⟩, ?_⟩
  · obtain rfl := exec_rejected hop
    exact ⟨rfl, rfl, rfl⟩
  · intro macaddr₁ macaddr₂ ops₁ ops₂ br₁ br₂ h₁ h₂ hname hrevision hmap
    have hsame : br₁.mstConfigId.a = br₂.mstConfigId.a := by
      rw [hid _ _ _ h₁, hid _ _ _ h₂, hname, hrevision, mstConfigTable_congr hmap]
    refine ⟨hsame, fun p q hversion hproto hident => ?_⟩
    rw [txMstpBpdu, if_pos hversion] at hproto hident
    rw [fromSameRegion, hproto, hident, ← hsame]
    simp

/-- The name of a sample region. -/
def regionName : Nat → UInt8 := fun i => if i < 6 then 82 else 0

/-- VID 5 is allocated to the MSTI through FID 3, and the name is configured first. -/
def nameFirst : List Op :=
  [.setMstConfigId 1 regionName, .createMsti 1, .setVid2fid 5 3, .setFid2mstid 3 1]

/-- VID 5 is allocated to the MSTI through FID 7, and the name is configured last. -/
def nameLast : List Op :=
  [.createMsti 2, .createMsti 1, .setFid2mstid 7 1, .setVid2fid 5 7, .deleteMsti 2,
    .setMstConfigId 1 regionName]

theorem sample_regions_agree : ∃ br₁ br₂,
    Ran sampleEnv.hmacMd5 0x020000000001 nameFirst.reverse br₁ ∧
    Ran sampleEnv.hmacMd5 0x020000000002 nameLast.reverse br₂ ∧
    vid2mstid br₁ 5 = 1 ∧ br₁.mstConfigId.a = br₂.mstConfigId.a := by
  have hrun : (execAll sampleEnv nameFirst (mstpInBridgeCreate sampleEnv 0x020000000001)).any
      (fun br₁ => (execAll sampleEnv nameLast (mstpInBridgeCreate sampleEnv 0x020000000002)).any
        fun br₂ => vid2mstid br₁ 5 == 1 &&
          (List.range 4095).all fun vid => vid2mstid br₁ vid == vid2mstid br₂ vid) = true := by
    decide +kernel
  obtain ⟨br₁, hbr₁, hrun⟩ := (Option.any_eq_true _ _).mp hrun
  obtain ⟨br₂, hbr₂, hrun⟩ := (Option.any_eq_true _ _).mp hrun
  simp only [Bool.and_eq_true, beq_iff_eq, List.all_eq_true, List.mem_range] at hrun
  have h₁ : Ran sampleEnv.hmacMd5 0x020000000001 nameFirst.reverse br₁ := by
    simpa using (Ran.create rfl).execAll rfl hbr₁
  have h₂ : Ran sampleEnv.hmacMd5 0x020000000002 nameLast.reverse br₂ := by
    simpa using (Ran.create rfl).execAll rfl hbr₂
  have hsame := (config_id_history_independent sampleEnv.hmacMd5).2 _ _ _ _ _ _ h₁ h₂ rfl rfl
    fun vid _ hle => hrun.2 vid (Nat.lt_succ_of_le hle)
  exact ⟨br₁, br₂, h₁, h₂, hrun.1, hsame.1⟩

end Mstpd
