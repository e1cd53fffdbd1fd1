import UblkAzblob.Construction.ClusterLease

namespace UblkAzblob
open Storage

/-- The holder that a version of the lease records. -/
def Lease.holderIdentity (lease : Lease) : Option String := (lease.spec.getD .blank).holderIdentity

def Lease.renewTime (lease : Lease) : Option Int := (lease.spec.getD .blank).renewTime

/-- An absent or empty holder leaves the lease unowned. -/
def Lease.Unowned (lease : Lease) : Prop := lease.holderIdentity.getD "" = ""

def Lease.HeldBy (lease : Lease) (me : String) : Prop := lease.holderIdentity = some me

instance (lease : Lease) : Decidable lease.Unowned := inferInstanceAs (Decidable (_ = _))

instance (lease : Lease) (me : String) : Decidable (lease.HeldBy me) := inferInstanceAs (Decidable (_ = _))

namespace K8sClusterLease

/-- A renewal is takeable when it has no age, or one past the recovery timeout. -/
def Takeable (lease : K8sClusterLease) (now : Int) (renewTime : Option Int) : Prop :=
  ∀ age, ageOf now renewTime = some age → lease.recoveryTimeout ≤ age

theorem heldBy_iff (spec : LeaseSpec) (me : String) : heldBy spec me = true ↔ spec.holderIdentity = some me := by
  unfold heldBy
  split <;> simp_all

/-- An operation may change a lease that we hold, and an acquisition also one that is free. -/
def Permits (lease : K8sClusterLease) (op : LeaseOp) (now : Int) (current : Lease) : Prop :=
  current.HeldBy lease.holder ∨
    op = .tryAcquire ∧ (current.Unowned ∨ lease.Takeable now current.renewTime)

/-- A release clears the holder, every other change records us. -/
def Writes (lease : K8sClusterLease) (op : LeaseOp) (now : Int) (spec : LeaseSpec) : Prop :=
  op ≠ .release ∧ spec = lease.ownedSpec now ∨
    op = .release ∧ spec.holderIdentity = none ∧ spec.renewTime = none

/-- An operation creates an absent lease, replaces the version it found where that permits it, or answers
without a claim to the lease. -/
theorem plan_cases (lease : K8sClusterLease) (op : LeaseOp) (now : Int) (found : Option Lease) :
    (found = none ∧ op ≠ .release ∧ op.plan lease now found = .create (lease.ownedSpec now)) ∨
      (∃ current spec, found = some current ∧ lease.Permits op now current ∧ lease.Writes op now spec ∧
        op.plan lease now found = .replace current spec) ∨
      ∃ outcome, outcome ≠ .ok (some .acquired) ∧ op.plan lease now found = .answer outcome := by
  cases op with
  | tryAcquire =>
      cases found with
      | none => exact .inl ⟨rfl, by decide, rfl⟩
      | some current =>
          simp only [LeaseOp.plan, tryAcquire]
          split
          · rename_i free
            refine .inr (.inl ⟨current, _, rfl, ?_, .inl ⟨by decide, rfl⟩, rfl⟩)
            rw [Bool.or_eq_true, heldBy_iff] at free
            rcases free with own | unowned
            · exact .inl own
            · exact .inr ⟨rfl, .inl (String.isEmpty_iff.mp unowned)⟩
          · split
            · rename_i age aged
              split
              · rename_i stale
                refine .inr (.inl ⟨current, _, rfl, .inr ⟨rfl, .inr fun other same => ?_⟩,
                  .inl ⟨by decide, rfl⟩, rfl⟩)
                obtain rfl := Option.some.inj (aged.symm.trans same)
                exact stale
              · exact .inr (.inr ⟨_, by simp, rfl⟩)
            · rename_i ageless
              refine .inr (.inl ⟨current, _, rfl, .inr ⟨rfl, .inr fun other same => ?_⟩,
                .inl ⟨by decide, rfl⟩, rfl⟩)
              cases ageless.symm.trans same
  | renew =>
      cases found with
      | none => exact .inl ⟨rfl, by decide, rfl⟩
      | some current =>
          simp only [LeaseOp.plan, renew]
          split
          · rename_i own
            exact .inr (.inl ⟨current, _, rfl, .inl ((heldBy_iff _ _).mp own), .inl ⟨by decide, rfl⟩, rfl⟩)
          · exact .inr (.inr ⟨_, by simp, rfl⟩)
  | release =>
      cases found with
      | none => exact .inr (.inr ⟨_, by simp, rfl⟩)
      | some current =>
          simp only [LeaseOp.plan, release]
          split
          · rename_i own
            exact .inr (.inl ⟨current, _, rfl, .inl ((heldBy_iff _ _).mp own), .inr ⟨rfl, rfl, rfl⟩, rfl⟩)
          · exact .inr (.inr ⟨_, by simp, rfl⟩)

end K8sClusterLease

/-- The server accepts a create of an absent object and a replace of the current version. -/
theorem submit_cases {plan : LeasePlan} {server accepted : LeaseServer}
    (submitted : LeasePhase.submit plan server = some accepted) :
    (∃ spec, plan = .create spec ∧ server.object = none ∧ accepted = server.put spec) ∨
      ∃ current spec lease, plan = .replace current spec ∧ server.object = some lease ∧
        lease.resourceVersion = current.resourceVersion ∧ accepted = server.put spec := by
  cases plan with
  | create spec =>
      simp only [LeasePhase.submit, LeaseServer.create] at submitted
      split at submitted
      · rename_i absent
        exact .inl ⟨spec, rfl, absent, (Option.some.inj submitted).symm⟩
      · cases submitted
  | replace current spec =>
      simp only [LeasePhase.submit, LeaseServer.replace] at submitted
      split at submitted
      · cases submitted
      · rename_i lease stored
        split at submitted
        · rename_i same
          exact .inr ⟨current, spec, lease, rfl, stored, same, (Option.some.inj submitted).symm⟩
        · cases submitted
  | answer outcome => cases submitted

namespace LeaseCommit

/-- A commit replaces a version that permits it by one that says whose it is. -/
structure Lawful (nodes : Nat → K8sClusterLease) (commit : LeaseCommit) : Prop where
  created : commit.before = none → commit.op ≠ .release
  permitted : ∀ lease, commit.before = some lease →
    (nodes commit.node).Permits commit.op commit.now lease
  later : ∀ lease, commit.before = some lease → lease.resourceVersion < commit.after.resourceVersion
  written : ∃ spec, commit.after.spec = some spec ∧
    (nodes commit.node).Writes commit.op commit.now spec

/-- Each commit replaces what the one before it left. -/
def Chained : Option Lease → List LeaseCommit → Option Lease → Prop
  | first, [], last => first = last
  | first, commit :: rest, last => commit.before = first ∧ Chained (some commit.after) rest last

variable {nodes : Nat → K8sClusterLease} {first last : Option Lease}

theorem Chained.snoc {commits : List LeaseCommit} {commit : LeaseCommit}
    (chained : Chained first commits commit.before) :
    Chained first (commits ++ [commit]) (some commit.after) := by
  induction commits generalizing first with
  | nil => exact ⟨Eq.symm chained, rfl⟩
  | cons head rest ih => exact ⟨chained.1, ih chained.2⟩

theorem Chained.split {early late : List LeaseCommit} (chained : Chained first (early ++ late) last) :
    ∃ middle, Chained first early middle ∧ Chained middle late last := by
  induction early generalizing first with
  | nil => exact ⟨first, rfl, chained⟩
  | cons head rest ih =>
      obtain ⟨middle, left, right⟩ := ih chained.2
      exact ⟨middle, ⟨chained.1, left⟩, right⟩

/-- No commit replaces the same version, or an absent lease, after another one. -/
theorem Chained.later_version {commit : LeaseCommit} {rest : List LeaseCommit}
    (lawful : ∀ other ∈ commit :: rest, Lawful nodes other)
    (chained : Chained (some commit.after) rest last) {other : LeaseCommit} (member : other ∈ rest) :
    ∃ lease, other.before = some lease ∧ commit.after.resourceVersion ≤ lease.resourceVersion := by
  induction rest generalizing commit with
  | nil => cases member
  | cons head rest ih =>
      obtain ⟨start, tail⟩ := chained
      rcases List.mem_cons.mp member with rfl | inRest
      · exact ⟨commit.after, start, Nat.le_refl _⟩
      · obtain ⟨lease, before, past⟩ := ih (fun each inside => lawful each (List.mem_cons_of_mem _ inside))
          tail inRest
        have grows := (lawful head (by simp)).later commit.after start
        exact ⟨lease, before, by omega⟩

/-- Two commits that replace the same version are one. -/
theorem Chained.unique {commits : List LeaseCommit} (lawful : ∀ commit ∈ commits, Lawful nodes commit)
    (chained : Chained first commits last) {one other : LeaseCommit} (left : one ∈ commits)
    (right : other ∈ commits)
    (same : one.before.map Lease.resourceVersion = other.before.map Lease.resourceVersion) :
    one = other := by
  induction commits generalizing first with
  | nil => cases left
  | cons head rest ih =>
      have apart (each : LeaseCommit) (inRest : each ∈ rest) :
          head.before.map Lease.resourceVersion ≠ each.before.map Lease.resourceVersion := by
        obtain ⟨lease, before, past⟩ := Chained.later_version lawful chained.2 inRest
        intro equal
        rw [before] at equal
        cases start : head.before with
        | none =>
            rw [start] at equal
            cases equal
        | some older =>
            have grows := (lawful head (by simp)).later older start
            rw [start] at equal
            have : older.resourceVersion = lease.resourceVersion := Option.some.inj equal
            omega
      rcases List.mem_cons.mp left with rfl | inLeft
      · rcases List.mem_cons.mp right with rfl | inRight
        · rfl
        · exact absurd same (apart other inRight)
      · rcases List.mem_cons.mp right with rfl | inRight
        · exact absurd same.symm (apart one inLeft)
        · exact ih (fun each inside => lawful each (List.mem_cons_of_mem _ inside)) chained.2 inLeft inRight

/-- A committed change names its node as the holder, or nobody. -/
theorem Lawful.holder {commit : LeaseCommit} (lawful : Lawful nodes commit) :
    commit.after.holderIdentity = some (nodes commit.node).holder ∨ commit.after.holderIdentity = none := by
  obtain ⟨spec, stored, writes⟩ := lawful.written
  rw [Lease.holderIdentity, stored, Option.getD_some]
  rcases writes with ⟨_, rfl⟩ | ⟨_, cleared, _⟩
  · exact .inl rfl
  · exact .inr cleared

/-- A lease that a node lost stays lost until that node acquires it. -/
theorem Chained.lost (distinct : Function.Injective fun node => (nodes node).holder) {node : Nat}
    {commits : List LeaseCommit} (lawful : ∀ commit ∈ commits, Lawful nodes commit) {lease : Lease}
    (foreign : ¬ lease.HeldBy (nodes node).holder) (chained : Chained (some lease) commits last)
    (idle : ∀ commit ∈ commits, commit.node = node → commit.op ≠ .tryAcquire) :
    (∀ commit ∈ commits, commit.node ≠ node) ∧
      ∃ final, last = some final ∧ ¬ final.HeldBy (nodes node).holder := by
  induction commits generalizing lease with
  | nil => exact ⟨by simp, lease, Eq.symm chained, foreign⟩
  | cons head rest ih =>
      obtain ⟨start, tail⟩ := chained
      have headLawful := lawful head (by simp)
      have other : head.node ≠ node := by
        intro same
        rcases headLawful.permitted lease start with own | ⟨acquires, _⟩
        · rw [same] at own
          exact foreign own
        · exact idle head (by simp) same acquires
      have still : ¬ head.after.HeldBy (nodes node).holder := by
        intro held
        rcases headLawful.holder with owner | nobody
        · exact other (distinct (Option.some.inj (owner.symm.trans held)))
        · cases nobody.symm.trans held
      obtain ⟨others, final⟩ := ih (fun each inside => lawful each (List.mem_cons_of_mem _ inside))
        still tail fun each inside => idle each (List.mem_cons_of_mem _ inside)
      refine ⟨fun commit member => ?_, final⟩
      rcases List.mem_cons.mp member with rfl | inRest
      · exact other
      · exact others commit inRest

end LeaseCommit

/-- An operation that is about to commit has planned it from a version that the server stamped. -/
structure Planned (lease : K8sClusterLease) (op : LeaseOp) (server : LeaseServer) (now : Int)
    (found : Option Lease) (plan : LeasePlan) : Prop where
  planned : plan = op.plan lease now found
  stamped : ∀ seen, found = some seen → seen.resourceVersion < server.revision
  same : ∀ seen current, found = some seen → server.object = some current →
    current.resourceVersion = seen.resourceVersion → current = seen

namespace Planned

variable {lease : K8sClusterLease} {op : LeaseOp} {server : LeaseServer} {now : Int}
  {found : Option Lease} {plan : LeasePlan}

/-- An accepted change leaves the other plans as they are. -/
theorem put (planned : Planned lease op server now found plan) (spec : LeaseSpec) :
    Planned lease op (server.put spec) now found plan where
  planned := planned.planned
  stamped seen member := Nat.lt_succ_of_lt (planned.stamped seen member)
  same seen current member stored version := by
    have older := planned.stamped seen member
    obtain rfl := Option.some.inj stored
    change server.revision = seen.resourceVersion at version
    omega

/-- An accepted change was planned from the object that it replaces. -/
theorem accepted {next : LeaseServer} (planned : Planned lease op server now found plan)
    (submitted : LeasePhase.submit plan server = some next) :
    ∃ spec, next = server.put spec ∧ found = server.object ∧
      (server.object = none → op ≠ .release) ∧
      (∀ current, server.object = some current → lease.Permits op now current) ∧
      lease.Writes op now spec := by
  have shape := planned.planned
  rcases submit_cases submitted with ⟨spec, rfl, absent, rfl⟩ | ⟨current, spec, stored, rfl, holds, version, rfl⟩
  · rcases lease.plan_cases op now found with ⟨rfl, claims, plan⟩ | ⟨_, _, _, _, _, plan⟩ | ⟨_, _, plan⟩
    · obtain rfl := LeasePlan.create.inj (shape.trans plan)
      refine ⟨_, rfl, absent.symm, fun _ => claims, ?_, .inl ⟨claims, rfl⟩⟩
      intro current present
      cases absent.symm.trans present
    · cases shape.trans plan
    · cases shape.trans plan
  · rcases lease.plan_cases op now found with ⟨_, _, plan⟩ | ⟨_, _, rfl, permits, writes, plan⟩ | ⟨_, _, plan⟩
    · cases shape.trans plan
    · obtain ⟨rfl, rfl⟩ := LeasePlan.replace.inj (shape.trans plan)
      obtain rfl := planned.same current stored rfl holds version
      refine ⟨spec, rfl, holds.symm, ?_, ?_, writes⟩
      · intro absent
        cases holds.symm.trans absent
      · intro other present
        obtain rfl := Option.some.inj (holds.symm.trans present)
        exact permits
    · cases shape.trans plan

/-- A get plans from the object that the server holds. -/
theorem of_get {moment : Int} {failure : Option Error}
    (planned : LeasePhase.get lease op now failure server.object = .committing moment found plan) :
    moment = now ∧ found = server.object ∧ Planned lease op server now server.object plan := by
  cases failure with
  | some error => cases planned
  | none =>
      simp only [LeasePhase.get] at planned
      split at planned
      · cases planned
      · obtain ⟨rfl, rfl, rfl⟩ := LeasePhase.committing.inj planned
        refine ⟨rfl, rfl, rfl, server.fresh, fun seen current member stored _ => ?_⟩
        exact Option.some.inj (stored.symm.trans member)

end Planned

/-- A get never answers that the lease was acquired. -/
theorem get_not_acquired (lease : K8sClusterLease) (op : LeaseOp) (now : Int) (failure : Option Error)
    (object found : Option Lease) :
    LeasePhase.get lease op now failure object ≠ .returned found (.ok (some .acquired)) := by
  intro answered
  cases failure with
  | some error => cases answered
  | none =>
      simp only [LeasePhase.get] at answered
      rcases lease.plan_cases op now object with ⟨_, _, plan⟩ | ⟨_, _, _, _, _, plan⟩ | ⟨outcome, idle, plan⟩
      · rw [plan] at answered
        cases answered
      · rw [plan] at answered
        cases answered
      · rw [plan] at answered
        exact idle (LeasePhase.returned.inj answered).2

/-- A commit succeeds only when the server accepted it. -/
theorem commit_cases (op : LeaseOp) (found : Option Lease) (plan : LeasePlan) (delivery : Delivery)
    (server : LeaseServer) :
    (∃ error, LeasePhase.commit op found plan delivery server = (.returned found (.error error), none)) ∨
      ∃ outcome accepted, LeasePhase.submit plan server = some accepted ∧
        LeasePhase.commit op found plan delivery server = (.returned found outcome, some accepted) := by
  cases delivery with
  | lost error => exact .inl ⟨_, rfl⟩
  | unanswered error =>
      simp only [LeasePhase.commit]
      cases submitted : LeasePhase.submit plan server with
      | none => exact .inl ⟨_, rfl⟩
      | some accepted => exact .inr ⟨_, accepted, rfl, rfl⟩
  | answered rejection =>
      simp only [LeasePhase.commit]
      cases submitted : LeasePhase.submit plan server with
      | none => exact .inl ⟨_, rfl⟩
      | some accepted => exact .inr ⟨_, accepted, rfl, rfl⟩

namespace LeaseSys

variable {nodes : Nat → K8sClusterLease}

/-- The commits form a lawful chain, and every operation in flight has a plan that fits it. -/
structure Safe (nodes : Nat → K8sClusterLease) (first : Option Lease) (sys : LeaseSys) : Prop where
  chained : LeaseCommit.Chained first sys.commits sys.server.object
  lawful : ∀ commit ∈ sys.commits, commit.Lawful nodes
  planned : ∀ (id : Nat) job now found plan, sys.jobs[id]? = some job →
    job.phase = .committing now found plan → Planned (nodes job.node) job.op sys.server now found plan
  acquired : ∀ (id : Nat) job found, sys.jobs[id]? = some job →
    job.phase = .returned found (.ok (some .acquired)) →
    ∃ commit ∈ sys.commits, commit.job = id ∧
      commit.before.map Lease.resourceVersion = found.map Lease.resourceVersion

theorem start_safe (server : LeaseServer) : Safe nodes server.object (start server) where
  chained := rfl
  lawful commit member := by cases member
  planned id job now found plan member := by simp [start] at member
  acquired id job found member := by simp [start] at member

/-- The jobs after a step of one of them are the others and the moved one. -/
theorem set_cases {jobs : List LeaseJob} {id other : Nat} {moved found : LeaseJob}
    (member : (jobs.set id moved)[other]? = some found) :
    other = id ∧ found = moved ∨ jobs[other]? = some found := by
  rw [List.getElem?_set] at member
  split at member
  · rename_i same
    split at member
    · exact .inl ⟨same.symm, (Option.some.inj member).symm⟩
    · cases member
  · exact .inr member

/-- A call starts with its get. -/
theorem Safe.call {first : Option Lease} {sys : LeaseSys} (safe : Safe nodes first sys) (node : Nat)
    (op : LeaseOp) : Safe nodes first { sys with jobs := sys.jobs ++ [⟨node, op, .getting⟩] } := by
  have known (id : Nat) (job : LeaseJob) (member : (sys.jobs ++ [⟨node, op, .getting⟩])[id]? = some job) :
      sys.jobs[id]? = some job ∨ job.phase = .getting := by
    rw [List.getElem?_append] at member
    split at member
    · exact .inl member
    · right
      rw [List.getElem?_singleton] at member
      split at member
      · rw [← Option.some.inj member]
      · cases member
  refine ⟨safe.chained, safe.lawful, ?_, ?_⟩
  · intro id job now found plan member phase
    rcases known id job member with old | fresh
    · exact safe.planned id job now found plan old phase
    · cases fresh.symm.trans phase
  · intro id job found member phase
    rcases known id job member with old | fresh
    · exact safe.acquired id job found old phase
    · cases fresh.symm.trans phase

theorem Safe.get {first : Option Lease} {sys : LeaseSys} (safe : Safe nodes first sys) (id node : Nat)
    (op : LeaseOp) (now : Int) (failure : Option Error) :
    Safe nodes first { sys with
      jobs := sys.jobs.set id ⟨node, op, .get (nodes node) op now failure sys.server.object⟩ } := by
  refine ⟨safe.chained, safe.lawful, ?_, ?_⟩
  · intro other job moment found plan member phase
    rcases set_cases member with ⟨rfl, rfl⟩ | old
    · obtain ⟨rfl, rfl, planned⟩ := Planned.of_get phase
      exact planned
    · exact safe.planned other job moment found plan old phase
  · intro other job found member phase
    rcases set_cases member with ⟨rfl, rfl⟩ | old
    · exact absurd phase (get_not_acquired _ _ _ _ _ _)
    · exact safe.acquired other job found old phase

/-- A commit that the server did not accept changes only the operation's own phase. -/
theorem Safe.refused {first : Option Lease} {sys : LeaseSys} (safe : Safe nodes first sys) (id node : Nat)
    (op : LeaseOp) (found : Option Lease) (error : Error) :
    Safe nodes first { sys with jobs := sys.jobs.set id ⟨node, op, .returned found (.error error)⟩ } := by
  refine ⟨safe.chained, safe.lawful, ?_, ?_⟩
  · intro other job moment seen plan member phase
    rcases set_cases member with ⟨rfl, rfl⟩ | old
    · cases phase
    · exact safe.planned other job moment seen plan old phase
  · intro other job seen member phase
    rcases set_cases member with ⟨rfl, rfl⟩ | old
    · cases phase
    · exact safe.acquired other job seen old phase

/-- An accepted commit extends the chain. -/
theorem Safe.accepted {first : Option Lease} {sys : LeaseSys} (safe : Safe nodes first sys) {id node : Nat}
    {op : LeaseOp} {now : Int} {found : Option Lease} {plan : LeasePlan} {accepted : LeaseServer}
    (running : sys.jobs[id]? = some ⟨node, op, .committing now found plan⟩)
    (submitted : LeasePhase.submit plan sys.server = some accepted)
    (outcome : Except Error (Option ClusterAcquire)) :
    Safe nodes first ⟨(sys.record id ⟨node, op, .returned found outcome⟩ now (some accepted)).1,
      sys.jobs.set id ⟨node, op, .returned found outcome⟩,
      (sys.record id ⟨node, op, .returned found outcome⟩ now (some accepted)).2⟩ := by
  have planned := safe.planned id _ now found plan running rfl
  obtain ⟨spec, rfl, seen, created, permitted, written⟩ := planned.accepted submitted
  have lawful : LeaseCommit.Lawful nodes
      ⟨id, node, op, now, sys.server.object, ⟨sys.server.revision, some spec⟩⟩ :=
    ⟨created, permitted, sys.server.fresh, spec, rfl, written⟩
  refine ⟨safe.chained.snoc, ?_, ?_, ?_⟩
  · intro commit member
    rcases List.mem_append.mp member with old | new
    · exact safe.lawful commit old
    · obtain rfl := List.mem_singleton.mp new
      exact lawful
  · intro other job moment before next member phase
    rcases set_cases member with ⟨rfl, rfl⟩ | old
    · cases phase
    · exact (safe.planned other job moment before next old phase).put spec
  · intro other job before member phase
    rcases set_cases member with ⟨rfl, rfl⟩ | old
    · obtain ⟨rfl, _⟩ := LeasePhase.returned.inj phase
      refine ⟨_, List.mem_append_right _ (List.mem_singleton_self _), rfl, ?_⟩
      rw [seen]
    · obtain ⟨commit, inside, same⟩ := safe.acquired other job before old phase
      exact ⟨commit, List.mem_append_left _ inside, same⟩

/-- Every step keeps the commits a lawful chain. -/
theorem step_safe {first : Option Lease} (sys : LeaseSys) (event : LeaseEvent) (next : LeaseSys)
    (safe : Safe nodes first sys) (stepped : step nodes sys event = some next) : Safe nodes first next := by
  cases event with
  | call node op =>
      obtain rfl := Option.some.inj stepped
      exact safe.call node op
  | get id now failure =>
      simp only [step] at stepped
      split at stepped
      · rename_i node op running
        obtain rfl := Option.some.inj stepped
        exact safe.get id node op now failure
      · cases stepped
  | commit id delivery =>
      simp only [step] at stepped
      split at stepped
      · rename_i node op now found plan running
        obtain rfl := Option.some.inj stepped
        rcases commit_cases op found plan delivery sys.server with ⟨error, done⟩ | ⟨outcome, accepted, submitted, done⟩
        · rw [done]
          exact safe.refused id node op found error
        · rw [done]
          exact safe.accepted running submitted outcome
      · cases stepped

/-- Every change is made to a lease that is absent, unowned, ours, or takeable by its own renewal; one
version is won once, a release clears only our own hold, and a lost lease is not touched again before it
is won back. -/
theorem lease_commits_safe (nodes : Nat → K8sClusterLease)
    (distinct : Function.Injective fun node => (nodes node).holder) (server : LeaseServer)
    (events : List LeaseEvent) (sys : LeaseSys) (run : execute (step nodes) (start server) events = some sys) :
    (∀ commit ∈ sys.commits, commit.before = none ∨ ∃ lease, commit.before = some lease ∧
      (lease.Unowned ∨ lease.HeldBy (nodes commit.node).holder ∨
        commit.op = .tryAcquire ∧ (nodes commit.node).Takeable commit.now lease.renewTime)) ∧
      (∀ (one other : Nat) left right seen found, one ≠ other → sys.jobs[one]? = some left →
        sys.jobs[other]? = some right → left.phase = .returned seen (.ok (some .acquired)) →
        right.phase = .returned found (.ok (some .acquired)) →
        seen.map Lease.resourceVersion ≠ found.map Lease.resourceVersion) ∧
      (∀ commit ∈ sys.commits, commit.op = .release → ∃ lease, commit.before = some lease ∧
        lease.HeldBy (nodes commit.node).holder) ∧
      (∀ early takeover middle change late node,
        sys.commits = early ++ takeover :: (middle ++ change :: late) →
        takeover.node ≠ node → takeover.op = .tryAcquire →
        (∀ commit ∈ middle, commit.node = node → commit.op ≠ .tryAcquire) →
        change.node = node → change.op = .tryAcquire) := by
  have safe : Safe nodes server.object sys := execute_preserves
    (fun sys event next safe stepped => step_safe sys event next safe stepped) (start_safe server) run
  refine ⟨fun commit member => ?_, ?_, fun commit member releases => ?_, ?_⟩
  · cases before : commit.before with
    | none => exact .inl rfl
    | some lease =>
        refine .inr ⟨lease, rfl, ?_⟩
        rcases (safe.lawful commit member).permitted lease before with own | ⟨acquires, unowned | stale⟩
        · exact .inr (.inl own)
        · exact .inl unowned
        · exact .inr (.inr ⟨acquires, stale⟩)
  · intro one other left right seen found different first second won wonToo same
    obtain ⟨mine, inside, rfl, saw⟩ := safe.acquired one left seen first won
    obtain ⟨theirs, insideToo, rfl, sawToo⟩ := safe.acquired other right found second wonToo
    have equal := safe.chained.unique safe.lawful inside insideToo (saw.trans (same.trans sawToo.symm))
    exact different (congrArg LeaseCommit.job equal)
  · cases before : commit.before with
    | none => exact absurd releases ((safe.lawful commit member).created before)
    | some lease =>
        refine ⟨lease, rfl, ?_⟩
        rcases (safe.lawful commit member).permitted lease before with own | ⟨acquires, _⟩
        · exact own
        · cases releases.symm.trans acquires
  · intro early takeover middle change late node split other acquires idle mine
    have lawful := safe.lawful
    have chained := safe.chained
    rw [split] at lawful chained
    obtain ⟨_, _, _, tail⟩ := chained.split
    obtain ⟨_, before, start, _⟩ := tail.split
    have foreign : ¬ takeover.after.HeldBy (nodes node).holder := by
      intro held
      obtain ⟨spec, stored, writes⟩ := (lawful takeover (by simp)).written
      rcases writes with ⟨_, rfl⟩ | ⟨releases, _⟩
      · rw [Lease.HeldBy, Lease.holderIdentity, stored] at held
        exact other (distinct (Option.some.inj held))
      · cases acquires.symm.trans releases
    obtain ⟨_, lease, rfl, still⟩ := LeaseCommit.Chained.lost distinct
      (fun commit member => lawful commit (by simp [member])) foreign before idle
    rcases (lawful change (by simp)).permitted lease start with own | ⟨wins, _⟩
    · rw [mine] at own
      exact absurd own still
    · exact wins

/-- Every node has a name of its own. -/
def tallyNodes (node : Nat) : K8sClusterLease :=
  ⟨"volume", String.ofList (List.replicate (node + 1) 'n'), 60000000, 120000000⟩

theorem tallyNodes_distinct : Function.Injective fun node => (tallyNodes node).holder := by
  intro one other same
  have lengths := congrArg List.length (String.ofList_injective same)
  simpa using lengths

/-- Two nodes race for an absent lease, and the loser takes it over once its holder is stale. -/
def takeoverRace : List LeaseEvent :=
  [.call 0 .tryAcquire, .call 1 .tryAcquire, .get 0 0 none, .get 1 1 none, .commit 1 (.answered []),
    .commit 0 (.answered ["exists"]), .call 0 .tryAcquire, .get 2 120000001 none, .commit 2 (.answered [])]

theorem lease_commits_safe_takeover :
    ∃ sys, execute (step tallyNodes) (start ⟨none, 0, fun _ held => by cases held⟩) takeoverRace = some sys ∧
      sys.commits.map (fun commit => (commit.job, commit.node)) = [(1, 1), (2, 0)] ∧
      ∀ commit ∈ sys.commits, commit.before = none ∨ ∃ lease, commit.before = some lease ∧
        (lease.Unowned ∨ lease.HeldBy (tallyNodes commit.node).holder ∨
          commit.op = .tryAcquire ∧ (tallyNodes commit.node).Takeable commit.now lease.renewTime) := by
  obtain ⟨sys, run, committed⟩ : ∃ sys,
      execute (step tallyNodes) (start ⟨none, 0, fun _ held => by cases held⟩) takeoverRace = some sys ∧
        sys.commits.map (fun commit => (commit.job, commit.node)) = [(1, 1), (2, 0)] :=
    ⟨_, rfl, by decide +kernel⟩
  exact ⟨sys, run, committed, (lease_commits_safe tallyNodes tallyNodes_distinct _ _ sys run).1⟩

end LeaseSys

section LiveHolder

variable (lease : K8sClusterLease) (now time : Int) (current : Lease) (spec : LeaseSpec) (holder : String)

/-- An attempt on a lease of another holder asks only for the age of its renewal. -/
theorem tryAcquire_other (stored : current.spec = some spec) (held : spec.holderIdentity = some holder)
    (owned : holder ≠ "") (other : holder ≠ lease.holder) (renewed : spec.renewTime = some time) :
    LeaseOp.plan .tryAcquire lease now (some current) =
      if now < time then .replace current (lease.ownedSpec now)
      else if lease.recoveryTimeout ≤ (now - time).toNat then .replace current (lease.ownedSpec now)
      else .answer (.ok (some (.heldByLiveHolder holder (now - time).toNat))) := by
  have foreign : K8sClusterLease.heldBy spec lease.holder = false := by
    simp [K8sClusterLease.heldBy, held, other]
  have named : holder.isEmpty = false := by
    rw [Bool.eq_false_iff]
    exact fun empty => owned (String.isEmpty_iff.mp empty)
  simp only [LeaseOp.plan, K8sClusterLease.tryAcquire, stored, Option.getD_some, held, foreign, named,
    Bool.or_self, Bool.false_eq_true, if_false, renewed, K8sClusterLease.ageOf]
  by_cases future : now < time
  · rw [if_pos future, if_pos future]
  · rw [if_neg future, if_neg future]

/-- A holder that renewed within the recovery timeout is left alone exactly when the renewal is not in the future. -/
theorem live_holder_respected_iff (stored : current.spec = some spec) (held : spec.holderIdentity = some holder)
    (owned : holder ≠ "") (other : holder ≠ lease.holder) (renewed : spec.renewTime = some time)
    (recent : now - time < lease.recoveryTimeout) :
    (∃ age, LeasePhase.get lease .tryAcquire now none (some current) =
      .returned (some current) (.ok (some (.heldByLiveHolder holder age)))) ↔ time ≤ now := by
  have plan := tryAcquire_other lease now time current spec holder stored held owned other renewed
  constructor
  · intro ⟨age, answered⟩
    by_contra future
    rw [if_pos (by omega)] at plan
    simp only [LeasePhase.get, plan] at answered
    cases answered
  · intro past
    rw [if_neg (by omega), if_neg (by omega)] at plan
    exact ⟨(now - time).toNat, by simp only [LeasePhase.get, plan]⟩

end LiveHolder

/-- The lease of a node whose clock is one second ahead. -/
def aheadLease : Lease := ⟨0, some ⟨some "ahead", some 60, some 1000000, some 1000000⟩⟩

/-- A renewal in the observer's future is replaced. -/
theorem future_renewal_taken_over :
    (0 : Int) - 1000000 < (LeaseSys.tallyNodes 0).recoveryTimeout ∧
      ∃ plan, LeasePhase.get (LeaseSys.tallyNodes 0) .tryAcquire 0 none (some aheadLease) =
        .committing 0 (some aheadLease) plan ∧
      plan = .replace aheadLease ((LeaseSys.tallyNodes 0).ownedSpec 0) := by
  refine ⟨by decide, _, rfl, ?_⟩
  rw [tryAcquire_other (LeaseSys.tallyNodes 0) 0 1000000 aheadLease _ "ahead" rfl rfl (by decide) (by decide) rfl,
    if_pos (by decide)]

theorem live_holder_respected_iff_past :
    ∃ age, LeasePhase.get (LeaseSys.tallyNodes 0) .tryAcquire 2000000 none (some aheadLease) =
      .returned (some aheadLease) (.ok (some (.heldByLiveHolder "ahead" age))) :=
  (live_holder_respected_iff (LeaseSys.tallyNodes 0) 2000000 1000000 aheadLease _ "ahead" rfl rfl (by decide)
    (by decide) rfl (by decide)).mpr (by decide)

end UblkAzblob
