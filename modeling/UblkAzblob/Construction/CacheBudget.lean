import UblkAzblob.Construction.Backend

namespace UblkAzblob
open Storage

/-- One line of the shared state file records the resident bytes of one owner. -/
structure Entry where
  owner : String
  pid : Nat
  bytes : Nat
  deriving DecidableEq, Repr

/-- A shared byte budget belongs to one owner in one process. -/
structure CacheBudget where
  maxBytes : Nat
  owner : String
  pid : Nat

namespace CacheBudget

def total (entries : List Entry) : Nat :=
  entries.foldl (fun acc entry => satAdd acc entry.bytes) 0

/-- The owner's entry is updated in place, or appended with a fresh balance. -/
def upsert (entries : List Entry) (owner : String) (pid : Nat) (update : Nat → Nat) : List Entry :=
  match entries with
  | [] => [⟨owner, pid, update 0⟩]
  | entry :: rest =>
      if entry.owner = owner ∧ entry.pid = pid then { entry with bytes := update entry.bytes } :: rest
      else entry :: upsert rest owner pid update

/-- Entries of dead processes are dropped, but never our own. -/
def pruneDead (entries : List Entry) (selfPid : Nat) (alive : Nat → Bool) : List Entry :=
  entries.filter fun entry => entry.pid = selfPid ∨ alive entry.pid

/-- The balance changes and the answer is the number of bytes over the limit. -/
def setBalance (budget : CacheBudget) (update : Nat → Nat) (entries : List Entry) :
    Nat × List Entry :=
  let entries := upsert entries budget.owner budget.pid update
  (total entries - budget.maxBytes, entries)

def reset (budget : CacheBudget) (bytes : Nat) : List Entry → Nat × List Entry :=
  budget.setBalance fun _ => bytes

def admitBytes (budget : CacheBudget) (bytes : Nat) : List Entry → Nat × List Entry :=
  budget.setBalance fun balance => satAdd balance bytes

def release (budget : CacheBudget) (bytes : Nat) : List Entry → Nat × List Entry :=
  budget.setBalance fun balance => balance - bytes

end CacheBudget
end UblkAzblob
