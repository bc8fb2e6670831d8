import Mathlib.Logic.Relation
import Mstpd.Events

/-!
# Runs of a bridge

The operations that the daemon performs on a bridge, with the conditions its callers
keep: handles are those of existing ports and trees, and a new port gets a handle that
is not in use. A run performs any operations in any order.
-/

namespace Mstpd

/-- One call of an `MSTP_IN_` function, or the daemon noting speed and duplex mode
of a port in its `sysdeps`. -/
inductive Op
  | createPort (p : PortRef) (portno : UInt16) (name : String) (speed duplex : Int)
  | deletePort (p : PortRef)
  | setBridgeAddress (macaddr : BitVec 48)
  | setBridgeEnable (up : Bool)
  | setPortEnable (p : PortRef) (up : Bool) (speed duplex : Int)
  | oneSecond
  | allFidsFlushed (p : PortRef) (t : Mstid)
  | rxBpdu (p : PortRef) (bpdu : Mem) (size : Nat)
  | setCistBridgeConfig (cfg : CistBridgeConfig)
  | setMstiBridgeConfig (t : Mstid) (bridgePriority : UInt8)
  | setCistPortConfig (p : PortRef) (cfg : CistPortConfig)
  | setMstiPortConfig (p : PortRef) (t : Mstid) (cfg : MstiPortConfig)
  | portMcheck (p : PortRef)
  | setVid2fid (vid fid : UInt16)
  | setAllVids2fids (vids2fids : Nat → UInt16)
  | setFid2mstid (fid mstid : UInt16)
  | setAllFids2mstids (fids2mstids : Nat → UInt16)
  | createMsti (mstid : UInt16)
  | deleteMsti (mstid : UInt16)
  | setMstConfigId (revision : UInt16) (name : Nat → UInt8)
  | sysdeps (p : PortRef) (speed duplex : Int)

/-- What the callers of the `MSTP_IN_` functions see to. -/
def Op.Valid (br : Bridge) : Op → Prop
  | .createPort p portno _ _ _ => p ∉ br.ports ∧ 1 ≤ portno.toNat ∧ portno.toNat ≤ maxPortNumber
  | .deletePort p => p ∈ br.ports
  | .setPortEnable p _ _ _ => p ∈ br.ports
  | .allFidsFlushed p t => p ∈ br.ports ∧ t ∈ br.trees
  | .rxBpdu p _ _ => p ∈ br.ports
  | .setMstiBridgeConfig t _ => t ∈ br.trees
  | .setCistPortConfig p _ => p ∈ br.ports
  | .setMstiPortConfig p t _ => p ∈ br.ports ∧ t ∈ br.trees
  | .portMcheck p => p ∈ br.ports
  | .sysdeps p _ _ => p ∈ br.ports
  | _ => True

/-- The bridge after the operation, and its success where the function reports it. -/
def exec (env : Env) (br : Bridge) : Op → Option (Bridge × Bool)
  | .createPort p portno name speed duplex =>
    mstpInPortCreateAndAddTail env p portno name speed duplex br
  | .deletePort p => (mstpInDeletePort env p br).map (·, true)
  | .setBridgeAddress macaddr => (mstpInSetBridgeAddress env macaddr br).map (·, true)
  | .setBridgeEnable up => (mstpInSetBridgeEnable env up br).map (·, true)
  | .setPortEnable p up speed duplex => (mstpInSetPortEnable env p up speed duplex br).map (·, true)
  | .oneSecond => (mstpInOneSecond env br).map (·, true)
  | .allFidsFlushed p t => (mstpInAllFidsFlushed env p t br).map (·, true)
  | .rxBpdu p bpdu size => (mstpInRxBpdu env p bpdu size br).map (·, true)
  | .setCistBridgeConfig cfg => mstpInSetCistBridgeConfig env cfg br
  | .setMstiBridgeConfig t prio => some (mstpInSetMstiBridgeConfig t prio br)
  | .setCistPortConfig p cfg => mstpInSetCistPortConfig env p cfg br
  | .setMstiPortConfig p t cfg => mstpInSetMstiPortConfig env p t cfg br
  | .portMcheck p => (mstpInPortMcheck env p br).map (·, true)
  | .setVid2fid vid fid => mstpInSetVid2fid env vid fid br
  | .setAllVids2fids f => mstpInSetAllVids2fids env f br
  | .setFid2mstid fid mstid => mstpInSetFid2mstid env fid mstid br
  | .setAllFids2mstids f => mstpInSetAllFids2mstids env f br
  | .createMsti mstid => mstpInCreateMsti env mstid br
  | .deleteMsti mstid => mstpInDeleteMsti env mstid br
  | .setMstConfigId revision name => (mstpInSetMstConfigId env revision name br).map (·, true)
  | .sysdeps p speed duplex =>
    some (br.setPort p fun prt => { prt with speed := speed, duplex := duplex }, true)

/-- A condition on the operations of a run. -/
abbrev Allowed := Env → Op → Bridge → Prop

/-- One operation that the condition allows. -/
def Step (A : Allowed) (br br' : Bridge) : Prop :=
  ∃ env op ok, op.Valid br ∧ A env op br ∧ exec env br op = some (br', ok)

/-- The states that allowed operations reach from the creation of a bridge. -/
def Reachable (A : Allowed) (br : Bridge) : Prop :=
  ∃ env macaddr, Relation.ReflTransGen (Step A) (mstpInBridgeCreate env macaddr) br

/-- Every operation, with any clock. -/
def anyOp : Allowed := fun _ _ _ => True

/-- Every operation runs the machines until the dry run predicts no change. -/
def untilQuiet : Allowed := fun env _ _ => ∀ n, env.late n = false

theorem Reachable.inv {A : Allowed} {I : Bridge → Prop}
    (init : ∀ env macaddr, I (mstpInBridgeCreate env macaddr))
    (step : ∀ br br', I br → Step A br br' → I br') {br : Bridge} (h : Reachable A br) : I br := by
  obtain ⟨env, macaddr, hrun⟩ := h
  induction hrun with
  | refl => exact init env macaddr
  | tail _ hstep ih => exact step _ _ ih hstep

instance (br : Bridge) : (op : Op) → Decidable (op.Valid br)
  | .createPort p portno _ _ _ =>
    inferInstanceAs (Decidable (p ∉ br.ports ∧ 1 ≤ portno.toNat ∧ portno.toNat ≤ maxPortNumber))
  | .deletePort p => inferInstanceAs (Decidable (p ∈ br.ports))
  | .setPortEnable p _ _ _ => inferInstanceAs (Decidable (p ∈ br.ports))
  | .allFidsFlushed p t => inferInstanceAs (Decidable (p ∈ br.ports ∧ t ∈ br.trees))
  | .rxBpdu p _ _ => inferInstanceAs (Decidable (p ∈ br.ports))
  | .setMstiBridgeConfig t _ => inferInstanceAs (Decidable (t ∈ br.trees))
  | .setCistPortConfig p _ => inferInstanceAs (Decidable (p ∈ br.ports))
  | .setMstiPortConfig p t _ => inferInstanceAs (Decidable (p ∈ br.ports ∧ t ∈ br.trees))
  | .portMcheck p => inferInstanceAs (Decidable (p ∈ br.ports))
  | .sysdeps p _ _ => inferInstanceAs (Decidable (p ∈ br.ports))
  | .setBridgeAddress _ => isTrue trivial
  | .setBridgeEnable _ => isTrue trivial
  | .oneSecond => isTrue trivial
  | .setCistBridgeConfig _ => isTrue trivial
  | .setVid2fid _ _ => isTrue trivial
  | .setAllVids2fids _ => isTrue trivial
  | .setFid2mstid _ _ => isTrue trivial
  | .setAllFids2mstids _ => isTrue trivial
  | .createMsti _ => isTrue trivial
  | .deleteMsti _ => isTrue trivial
  | .setMstConfigId _ _ => isTrue trivial

/-- A sequence of operations in one environment, as long as its handles are valid. -/
def execAll (env : Env) : List Op → Bridge → Option Bridge
  | [], br => some br
  | op :: ops, br =>
    if op.Valid br then (exec env br op).bind fun r => execAll env ops r.1 else none

theorem execAll_reachable {A : Allowed} {env : Env} (hA : ∀ op br, A env op br) {ops : List Op}
    {br br' : Bridge} (hr : Reachable A br) (h : execAll env ops br = some br') :
    Reachable A br' := by
  induction ops generalizing br with
  | nil => exact Option.some.inj h ▸ hr
  | cons op ops ih =>
    rw [execAll] at h
    split at h
    · rename_i hvalid
      obtain ⟨⟨b, ok⟩, hb, hrest⟩ := Option.bind_eq_some_iff.mp h
      obtain ⟨env₀, macaddr, hrun⟩ := hr
      exact ih ⟨env₀, macaddr, hrun.tail ⟨env, op, ok, hvalid, hA op br, hb⟩⟩ hrest
    · cases h

theorem create_reachable (A : Allowed) (env : Env) (macaddr : BitVec 48) :
    Reachable A (mstpInBridgeCreate env macaddr) := ⟨env, macaddr, .refl⟩

/-- An environment for sample runs. Its digest is that of the table without MSTIs. -/
def sampleEnv : Env where
  fuel := 60
  hmacMd5 := fun _ _ =>
    [0xAC, 0x36, 0x17, 0x7F, 0x50, 0x28, 0x3C, 0xD4, 0xB8, 0x38, 0x21, 0xD8, 0xAB, 0x26, 0xDE, 0x62]

/-- A sample run from the creation of a bridge. -/
def sampleRun (ops : List Op) : Option Bridge :=
  execAll sampleEnv ops (mstpInBridgeCreate sampleEnv 0x020000000001)

theorem sampleRun_reachable {A : Allowed} (hA : ∀ op br, A sampleEnv op br) {ops : List Op}
    {br : Bridge} (h : sampleRun ops = some br) : Reachable A br :=
  execAll_reachable hA (create_reachable A sampleEnv _) h

end Mstpd
