import UblkAzblob.Construction.ClusterLease

namespace UblkAzblob
open Storage

/-- The durations of a coordinator are microseconds. -/
structure CoordinationConfig where
  holderIdentity : String
  leaseDuration : Nat
  recoveryTimeout : Nat
  renewInterval : Nat

/-- The blob lease lasts 15 to 60 seconds, and is renewed three times in that span. -/
def CoordinationConfig.new (holderIdentity : String) (leaseDuration recoveryTimeout : Nat) : CoordinationConfig :=
  let secs := min (max (leaseDuration / 1000000) 15) 60
  let leaseDuration := secs * 1000000
  ⟨holderIdentity, leaseDuration, recoveryTimeout, max (leaseDuration / 3) 5000000⟩

def CoordinationConfig.lease (config : CoordinationConfig) (name holder : String) : K8sClusterLease :=
  ⟨name, holder, config.leaseDuration, config.recoveryTimeout⟩

/-- The holder has renewed both leases at this time, and the blob lease runs until its expiry. -/
structure Tenure where
  renewedAt : Int
  blobExpiry : Int

/-- One holder with its renewal loop, and the attempts of other identities on the same clock. -/
structure RenewSys where
  clock : Int
  server : LeaseServer
  attempts : List LeaseJob
  tenure : Option Tenure
  /-- A change of another identity was accepted while the holder had the lease. -/
  taken : Bool

inductive RenewEvent where
  | tick (elapsed : Nat)
  | acquire
  | renew
  | release
  | attempt (node : Nat)
  | get (attempt : Nat) (failure : Option Error)
  | commit (attempt : Nat) (delivery : Delivery)

namespace RenewSys

def begin (clock : Int) (server : LeaseServer) : RenewSys := ⟨clock, server, [], none, false⟩

/-- An operation of the holder gets the lease and commits its change at once. -/
def atOnce (config : CoordinationConfig) (name : String) (sys : RenewSys) (op : LeaseOp) : Option LeaseServer :=
  LeasePhase.submit (op.plan (config.lease name config.holderIdentity) sys.clock sys.server.object) sys.server

def tenureAt (config : CoordinationConfig) (clock : Int) : Tenure := ⟨clock, clock + config.leaseDuration⟩

/-- The loop sleeps for one interval between two renewals, and time does not pass a renewal that is due. -/
def step (config : CoordinationConfig) (name : String) (others : Nat → String) (sys : RenewSys) :
    RenewEvent → Option RenewSys
  | .tick elapsed => match sys.tenure with
    | none => some { sys with clock := sys.clock + elapsed }
    | some tenure =>
        if sys.clock + elapsed ≤ tenure.renewedAt + config.renewInterval then
          some { sys with clock := sys.clock + elapsed }
        else none
  | .acquire => match sys.tenure with
    | some _ => none
    | none => (sys.atOnce config name .tryAcquire).map fun server =>
        { sys with server, tenure := some (tenureAt config sys.clock) }
  | .renew => match sys.tenure with
    | none => none
    | some tenure =>
        if sys.clock = tenure.renewedAt + config.renewInterval then
          (sys.atOnce config name .renew).map fun server =>
            { sys with server, tenure := some (tenureAt config sys.clock) }
        else none
  | .release => match sys.tenure with
    | none => none
    | some _ => some { sys with server := (sys.atOnce config name .release).getD sys.server, tenure := none }
  | .attempt node => some { sys with attempts := sys.attempts ++ [⟨node, .tryAcquire, .getting⟩] }
  | .get id failure => match sys.attempts[id]? with
    | some ⟨node, op, .getting⟩ => some { sys with
        attempts := sys.attempts.set id
          ⟨node, op, .get (config.lease name (others node)) op sys.clock failure sys.server.object⟩ }
    | _ => none
  | .commit id delivery => match sys.attempts[id]? with
    | some ⟨node, op, .committing _ found plan⟩ =>
        let done := LeasePhase.commit op found plan delivery sys.server
        some { sys with
          server := done.2.getD sys.server
          attempts := sys.attempts.set id ⟨node, op, done.1⟩
          taken := sys.taken || (done.2.isSome && sys.tenure.isSome) }
    | _ => none

end RenewSys
end UblkAzblob
