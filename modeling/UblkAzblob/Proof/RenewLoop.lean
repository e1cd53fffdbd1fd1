import UblkAzblob.Construction.RenewLoop
import UblkAzblob.Proof.ClusterLease

namespace UblkAzblob
open Storage

namespace RenewSys

variable {config : CoordinationConfig} {name : String} {others : Nat → String} {sys next : RenewSys}

/-- The holder keeps both leases: no other identity has taken one, and the blob lease has not expired. -/
def Safe (sys : RenewSys) : Prop :=
  sys.taken = false ∧ ∀ tenure, sys.tenure = some tenure → sys.clock < tenure.blobExpiry

/-- The recorded lease is the last renewal of the holder, and no attempt has planned to replace it. -/
structure Kept (config : CoordinationConfig) (sys : RenewSys) (tenure : Tenure) : Prop where
  stored : ∃ current spec, sys.server.object = some current ∧ current.spec = some spec ∧
    spec.holderIdentity = some config.holderIdentity ∧ spec.renewTime = some tenure.renewedAt
  begun : tenure.renewedAt ≤ sys.clock
  due : sys.clock ≤ tenure.renewedAt + config.renewInterval
  expiry : tenure.blobExpiry = tenure.renewedAt + config.leaseDuration
  outdated : ∀ attempt ∈ sys.attempts, ∀ now found plan, attempt.phase = .committing now found plan →
    found ≠ sys.server.object

structure Invariant (config : CoordinationConfig) (name : String) (others : Nat → String) (sys : RenewSys) :
    Prop where
  attempts : ∀ attempt ∈ sys.attempts, attempt.op = .tryAcquire
  planned : ∀ attempt ∈ sys.attempts, ∀ now found plan, attempt.phase = .committing now found plan →
    Planned (config.lease name (others attempt.node)) .tryAcquire sys.server now found plan
  taken : sys.taken = false
  kept : ∀ tenure, sys.tenure = some tenure → Kept config sys tenure

theorem begin_invariant (clock : Int) (server : LeaseServer) : Invariant config name others (begin clock server) where
  attempts attempt member := by cases member
  planned attempt member := by cases member
  taken := rfl
  kept tenure held := by cases held

/-- An operation of the holder that is accepted stores its plan as the next version. -/
theorem atOnce_put {op : LeaseOp} {server : LeaseServer} (accepted : sys.atOnce config name op = some server) :
    ∃ spec, server = sys.server.put spec ∧
      (op ≠ .release → spec = (config.lease name config.holderIdentity).ownedSpec sys.clock) := by
  set lease := config.lease name config.holderIdentity
  have submitted : LeasePhase.submit (op.plan lease sys.clock sys.server.object) sys.server = some server := accepted
  have planned : Planned lease op sys.server sys.clock sys.server.object
      (op.plan lease sys.clock sys.server.object) :=
    ⟨rfl, sys.server.fresh, fun seen current found stored _ => Option.some.inj (stored.symm.trans found)⟩
  obtain ⟨spec, rfl, _, _, _, writes⟩ := planned.accepted submitted
  refine ⟨spec, rfl, fun renews => ?_⟩
  rcases writes with ⟨_, owned⟩ | ⟨releases, _⟩
  · exact owned
  · exact absurd releases renews

/-- A new version of the lease outdates every plan. -/
theorem outdated_put (planned : ∀ attempt ∈ sys.attempts, ∀ now found plan,
      attempt.phase = .committing now found plan →
      Planned (config.lease name (others attempt.node)) .tryAcquire sys.server now found plan)
    (spec : LeaseSpec) : ∀ attempt ∈ sys.attempts, ∀ now found plan,
      attempt.phase = .committing now found plan → found ≠ (sys.server.put spec).object := by
  intro attempt member now found plan phase same
  have older := (planned attempt member now found plan phase).stamped _ same
  exact absurd older (Nat.lt_irrefl _)

/-- The holder renews both leases at the current time. -/
theorem Invariant.renewed {op : LeaseOp} {server : LeaseServer} (inv : Invariant config name others sys)
    (renews : op ≠ .release) (accepted : sys.atOnce config name op = some server) :
    Invariant config name others { sys with server, tenure := some (tenureAt config sys.clock) } := by
  obtain ⟨spec, rfl, owned⟩ := atOnce_put accepted
  obtain rfl := owned renews
  refine ⟨inv.attempts, fun attempt member now found plan phase =>
    (inv.planned attempt member now found plan phase).put _, inv.taken, fun tenure held => ?_⟩
  obtain rfl := Option.some.inj held
  refine ⟨⟨_, _, rfl, rfl, rfl, rfl⟩, Int.le_refl _, ?_, rfl, outdated_put inv.planned _⟩
  change sys.clock ≤ sys.clock + config.renewInterval
  omega

theorem Invariant.released (inv : Invariant config name others sys) :
    Invariant config name others { sys with
      server := (sys.atOnce config name .release).getD sys.server, tenure := none } := by
  cases accepted : sys.atOnce config name .release with
  | none => exact ⟨inv.attempts, inv.planned, inv.taken, fun _ held => by cases held⟩
  | some server =>
      obtain ⟨spec, rfl, _⟩ := atOnce_put accepted
      exact ⟨inv.attempts, fun attempt member now found plan phase =>
        (inv.planned attempt member now found plan phase).put _, inv.taken, fun _ held => by cases held⟩

theorem Invariant.tick {elapsed : Nat} (inv : Invariant config name others sys)
    (onTime : ∀ tenure, sys.tenure = some tenure → sys.clock + elapsed ≤ tenure.renewedAt + config.renewInterval) :
    Invariant config name others { sys with clock := sys.clock + elapsed } := by
  refine ⟨inv.attempts, inv.planned, inv.taken, fun tenure held => ?_⟩
  have kept := inv.kept tenure held
  have begun := kept.begun
  refine ⟨kept.stored, ?_, onTime tenure held, kept.expiry, kept.outdated⟩
  change tenure.renewedAt ≤ sys.clock + elapsed
  omega

/-- An attempt that moves on is either old, or the one that was set. -/
theorem set_attempt {id : Nat} {moved attempt : LeaseJob} {attempts : List LeaseJob}
    (member : attempt ∈ attempts.set id moved) : attempt ∈ attempts ∨ attempt = moved :=
  List.mem_or_eq_of_mem_set member

variable (config name others) in
/-- The get of an attempt finds the holder alive, or plans from the current version. -/
theorem Invariant.get (inv : Invariant config name others sys) (foreign : ∀ node, others node ≠ config.holderIdentity)
    (owned : config.holderIdentity ≠ "") (patient : config.renewInterval < config.recoveryTimeout)
    {id node : Nat} (failure : Option Error) :
    Invariant config name others { sys with attempts := sys.attempts.set id ⟨node, .tryAcquire,
      .get (config.lease name (others node)) .tryAcquire sys.clock failure sys.server.object⟩ } := by
  refine ⟨?_, ?_, inv.taken, fun tenure held => ?_⟩
  · intro attempt member
    rcases set_attempt member with old | rfl
    · exact inv.attempts attempt old
    · rfl
  · intro attempt member now found plan phase
    rcases set_attempt member with old | rfl
    · exact inv.planned attempt old now found plan phase
    · obtain ⟨rfl, rfl, planned⟩ := Planned.of_get phase
      exact planned
  · have kept := inv.kept tenure held
    refine ⟨kept.stored, kept.begun, kept.due, kept.expiry, ?_⟩
    intro attempt member now found plan phase
    rcases set_attempt member with old | rfl
    · exact kept.outdated attempt old now found plan phase
    · obtain ⟨current, spec, stored, shown, holder, renewed⟩ := kept.stored
      have begun := kept.begun
      have due := kept.due
      have alive := tryAcquire_other (config.lease name (others node)) sys.clock tenure.renewedAt current spec _
        shown holder owned (Ne.symm (foreign node)) renewed
      have recent : ¬ (config.lease name (others node)).recoveryTimeout ≤ (sys.clock - tenure.renewedAt).toNat := by
        change ¬ config.recoveryTimeout ≤ _
        omega
      rw [if_neg (by omega), if_neg recent] at alive
      cases failure with
      | some error => cases phase
      | none =>
          simp only [LeasePhase.get, stored, alive] at phase
          cases phase

/-- A commit is refused while the holder has the lease. -/
theorem Invariant.commit {id node : Nat} {op : LeaseOp} {now : Int} {found : Option Lease} {plan : LeasePlan}
    {delivery : Delivery} (inv : Invariant config name others sys)
    (running : sys.attempts[id]? = some ⟨node, op, .committing now found plan⟩) :
    let done := LeasePhase.commit op found plan delivery sys.server
    Invariant config name others { sys with
      server := done.2.getD sys.server
      attempts := sys.attempts.set id ⟨node, op, done.1⟩
      taken := sys.taken || (done.2.isSome && sys.tenure.isSome) } := by
  intro done
  have member := List.mem_of_getElem? running
  obtain rfl : op = .tryAcquire := inv.attempts _ member
  have planned := inv.planned _ member now found plan rfl
  have attempts (attempt : LeaseJob) (moved : attempt ∈ sys.attempts.set id ⟨node, .tryAcquire, done.1⟩) :
      attempt.op = .tryAcquire := by
    rcases set_attempt moved with old | rfl
    · exact inv.attempts attempt old
    · rfl
  rcases commit_cases .tryAcquire found plan delivery sys.server with
    ⟨error, refused⟩ | ⟨outcome, server, submitted, accepted⟩
  · have same : done = (.returned found (.error error), none) := refused
    rw [same]
    rw [same] at attempts
    refine ⟨attempts, ?_, by simp [inv.taken], fun tenure held => ?_⟩
    · intro attempt moved now found plan phase
      rcases set_attempt moved with old | rfl
      · exact inv.planned attempt old now found plan phase
      · cases phase
    · have kept := inv.kept tenure held
      refine ⟨kept.stored, kept.begun, kept.due, kept.expiry, ?_⟩
      intro attempt moved now found plan phase
      rcases set_attempt moved with old | rfl
      · exact kept.outdated attempt old now found plan phase
      · cases phase
  · have same : done = (.returned found outcome, some server) := accepted
    obtain ⟨spec, rfl, current, _⟩ := planned.accepted submitted
    have free : sys.tenure = none := by
      cases held : sys.tenure with
      | none => rfl
      | some tenure => exact absurd current ((inv.kept tenure held).outdated _ member now found plan rfl)
    rw [same]
    rw [same] at attempts
    refine ⟨attempts, ?_, by simp [inv.taken, free], fun tenure held => ?_⟩
    · intro attempt moved now found plan phase
      rcases set_attempt moved with old | rfl
      · exact (inv.planned attempt old now found plan phase).put _
      · cases phase
    · cases free.symm.trans held

/-- Every step keeps the lease with a holder whose renewals are shorter apart than the recovery timeout. -/
theorem step_invariant (foreign : ∀ node, others node ≠ config.holderIdentity) (owned : config.holderIdentity ≠ "")
    (patient : config.renewInterval < config.recoveryTimeout) {event : RenewEvent}
    (inv : Invariant config name others sys) (taken : step config name others sys event = some next) :
    Invariant config name others next := by
  cases event with
  | tick elapsed =>
      simp only [step] at taken
      split at taken
      · rename_i free
        obtain rfl := Option.some.inj taken
        exact inv.tick fun tenure held => by cases free.symm.trans held
      · rename_i tenure running
        split at taken
        · rename_i onTime
          obtain rfl := Option.some.inj taken
          refine inv.tick fun other held => ?_
          obtain rfl := Option.some.inj (running.symm.trans held)
          exact onTime
        · cases taken
  | acquire =>
      simp only [step] at taken
      split at taken
      · cases taken
      · obtain ⟨server, accepted, rfl⟩ := Option.map_eq_some_iff.mp taken
        exact inv.renewed (by decide) accepted
  | renew =>
      simp only [step] at taken
      split at taken
      · cases taken
      · split at taken
        · obtain ⟨server, accepted, rfl⟩ := Option.map_eq_some_iff.mp taken
          exact inv.renewed (by decide) accepted
        · cases taken
  | release =>
      simp only [step] at taken
      split at taken
      · cases taken
      · obtain rfl := Option.some.inj taken
        exact inv.released
  | attempt node =>
      obtain rfl := Option.some.inj taken
      have fresh {attempt : LeaseJob} (member : attempt ∈ sys.attempts ++ [⟨node, .tryAcquire, .getting⟩]) :
          attempt ∈ sys.attempts ∨ attempt = ⟨node, .tryAcquire, .getting⟩ := by simpa using member
      refine ⟨?_, ?_, inv.taken, fun tenure held => ?_⟩
      · intro attempt member
        rcases fresh member with old | rfl
        · exact inv.attempts attempt old
        · rfl
      · intro attempt member now found plan phase
        rcases fresh member with old | rfl
        · exact inv.planned attempt old now found plan phase
        · cases phase
      · have kept := inv.kept tenure held
        refine ⟨kept.stored, kept.begun, kept.due, kept.expiry, ?_⟩
        intro attempt member now found plan phase
        rcases fresh member with old | rfl
        · exact kept.outdated attempt old now found plan phase
        · cases phase
  | get id failure =>
      simp only [step] at taken
      split at taken
      · rename_i node op running
        obtain rfl : op = .tryAcquire := inv.attempts _ (List.mem_of_getElem? running)
        obtain rfl := Option.some.inj taken
        exact inv.get config name others foreign owned patient failure
      · cases taken
  | commit id delivery =>
      simp only [step] at taken
      split at taken
      · rename_i running
        obtain rfl := Option.some.inj taken
        exact inv.commit running
      · cases taken

/-- The blob lease outlasts the interval between two renewals. -/
theorem renewInterval_lt (identity : String) (leaseDuration recoveryTimeout : Nat) :
    (CoordinationConfig.new identity leaseDuration recoveryTimeout).renewInterval <
      (CoordinationConfig.new identity leaseDuration recoveryTimeout).leaseDuration := by
  simp only [CoordinationConfig.new]
  omega

theorem Invariant.safe (inv : Invariant config name others sys) (outlasts : config.renewInterval < config.leaseDuration) :
    Safe sys := by
  refine ⟨inv.taken, fun tenure held => ?_⟩
  have kept := inv.kept tenure held
  have due := kept.due
  rw [kept.expiry]
  omega

/-- Another identity attempts the lease as soon as its renewal is as old as the recovery timeout. -/
def earlyTakeover (recoveryTimeout : Nat) : List RenewEvent :=
  [.acquire, .tick recoveryTimeout, .attempt 0, .get 0 none, .commit 0 (.answered [])]

/-- A recovery timeout within the renewal interval lets another identity take the lease between two renewals. -/
theorem earlyTakeover_takes {rival : String} (owned : config.holderIdentity ≠ "")
    (foreign : rival ≠ config.holderIdentity) (hasty : config.recoveryTimeout ≤ config.renewInterval) :
    ∃ sys, execute (step config name fun _ => rival) (begin 0 ⟨none, 0, fun _ held => by cases held⟩)
      (earlyTakeover config.recoveryTimeout) = some sys ∧ sys.taken = true := by
  set lease := config.lease name config.holderIdentity with leaseEq
  set first : Lease := ⟨0, some (lease.ownedSpec 0)⟩ with firstEq
  have stale := tryAcquire_other (config.lease name rival) config.recoveryTimeout 0 first (lease.ownedSpec 0)
    config.holderIdentity rfl rfl owned (Ne.symm foreign) rfl
  have old : (config.lease name rival).recoveryTimeout ≤ ((config.recoveryTimeout : Int) - 0).toNat := by
    change config.recoveryTimeout ≤ _
    omega
  rw [if_neg (by omega), if_pos old] at stale
  have onTime : (0 : Int) + (config.recoveryTimeout : Int) ≤ 0 + (config.renewInterval : Int) := by omega
  set held : RenewSys := ⟨0, LeaseServer.put ⟨none, 0, fun _ held => by cases held⟩ (lease.ownedSpec 0), [],
    some (tenureAt config 0), false⟩
  set waited : RenewSys := { held with clock := 0 + (config.recoveryTimeout : Int) }
  have found : LeasePhase.get (config.lease name rival) .tryAcquire waited.clock none waited.server.object =
      .committing config.recoveryTimeout (some first)
        (.replace first ((config.lease name rival).ownedSpec config.recoveryTimeout)) := by
    simp only [LeasePhase.get, waited, held, LeaseServer.put, Int.zero_add]
    rw [← firstEq, stale]
  set planned : RenewSys := { waited with attempts := [⟨0, .tryAcquire, .committing config.recoveryTimeout (some first)
    (.replace first ((config.lease name rival).ownedSpec config.recoveryTimeout))⟩] }
  have acquiring : step config name (fun _ => rival) (begin 0 ⟨none, 0, fun _ held => by cases held⟩) .acquire =
      some held := rfl
  have waiting : step config name (fun _ => rival) held (.tick config.recoveryTimeout) = some waited := if_pos onTime
  have attempting : step config name (fun _ => rival) waited (.attempt 0) =
      some { waited with attempts := [⟨0, .tryAcquire, .getting⟩] } := rfl
  have getting : step config name (fun _ => rival) { waited with attempts := [⟨0, .tryAcquire, .getting⟩] }
      (.get 0 none) = some planned := by
    change some { waited with attempts := [⟨0, .tryAcquire, LeasePhase.get (config.lease name rival) .tryAcquire
      waited.clock none waited.server.object⟩] } = _
    rw [found]
  have committing : (step config name (fun _ => rival) planned (.commit 0 (.answered []))).map RenewSys.taken =
      some true := by
    rfl
  obtain ⟨sys, accepted, took⟩ := Option.map_eq_some_iff.mp committing
  refine ⟨sys, ?_, took⟩
  rw [earlyTakeover, execute, acquiring, Option.bind_some, execute, waiting, Option.bind_some, execute, attempting,
    Option.bind_some, execute, getting, Option.bind_some, execute, accepted]
  rfl

/-- A holder that renews on schedule keeps both leases in every run exactly when the recovery timeout is longer
    than the renewal interval. -/
theorem renewing_holder_keeps_leases_iff (identity : String) (owned : identity ≠ "")
    (leaseDuration recoveryTimeout : Nat) :
    (∀ name others, (∀ node, others node ≠ identity) → ∀ clock server events sys,
      execute (step (CoordinationConfig.new identity leaseDuration recoveryTimeout) name others)
        (begin clock server) events = some sys → Safe sys) ↔
      (CoordinationConfig.new identity leaseDuration recoveryTimeout).renewInterval < recoveryTimeout := by
  set config := CoordinationConfig.new identity leaseDuration recoveryTimeout with configEq
  have outlasts : config.renewInterval < config.leaseDuration := renewInterval_lt identity leaseDuration recoveryTimeout
  constructor
  · intro safe
    apply Classical.byContradiction
    intro hasty
    have foreign : identity ++ "-" ≠ identity := by
      intro same
      have lengths := congrArg String.length same
      simp at lengths
    obtain ⟨sys, run, took⟩ := @earlyTakeover_takes config "lease" (identity ++ "-") owned foreign
      (Nat.le_of_not_lt hasty)
    have untaken := (safe "lease" (fun _ => identity ++ "-") (fun _ => foreign) 0 _ _ sys run).1
    cases took.symm.trans untaken
  · intro patient name others foreign clock server events sys run
    have inv : Invariant config name others sys := execute_preserves (fun _ _ _ held taken =>
      step_invariant foreign owned patient held taken) (begin_invariant clock server) run
    exact inv.safe outlasts

/-- A recovery timeout of one second lets a rival replace the lease one second after the holder acquired it. -/
theorem hasty_recovery_takes_renewing_holder :
    ∃ sys, execute (step (CoordinationConfig.new "holder" 60000000 1000000) "lease" fun _ => "rival")
      (begin 0 ⟨none, 0, fun _ held => by cases held⟩) (earlyTakeover 1000000) = some sys ∧ ¬ Safe sys := by
  obtain ⟨sys, run, took⟩ := @earlyTakeover_takes (CoordinationConfig.new "holder" 60000000 1000000) "lease" "rival"
    (by decide) (by decide) (by decide)
  refine ⟨sys, run, fun safe => ?_⟩
  cases took.symm.trans safe.1

theorem renewing_holder_keeps_leases_iff_default :
    "holder" ≠ "" ∧ ∀ name others, (∀ node, others node ≠ "holder") → ∀ clock server events sys,
      execute (step (CoordinationConfig.new "holder" 60000000 120000000) name others) (begin clock server) events =
        some sys → Safe sys :=
  ⟨by decide, (renewing_holder_keeps_leases_iff "holder" (by decide) 60000000 120000000).mpr (by decide)⟩

end RenewSys
end UblkAzblob
