import UblkAzblob.Construction.FileCacheOpen
import UblkAzblob.Foundation.TextTable

namespace UblkAzblob
open Storage

namespace CacheBudget

/-- A line of the state file is parsed after its surrounding white space is dropped. -/
def parseEntry (line : List Char) : Option Entry :=
  match fields '\t' (trimBoth FileCacheBackend.isWhitespace line) with
  | owner :: pid :: bytes :: _ => match parseUnsigned (2 ^ 32) pid, parseUnsigned (2 ^ 64) bytes with
    | some pid, some bytes => some ⟨String.ofList owner, pid, bytes⟩
    | _, _ => none
  | _ => none

/-- Malformed lines are ignored. -/
def readEntries (text : List Char) : List Entry := (lines text).filterMap parseEntry

def printEntry (entry : Entry) : List Char :=
  entry.owner.toList ++ '\t' :: (decimal entry.pid ++ '\t' :: decimal entry.bytes)

/-- The state file is overwritten with one line for each entry. -/
def writeEntries (entries : List Entry) : List Char :=
  entries.flatMap fun entry => printEntry entry ++ ['\n']

/-- A clean shutdown removes the owner's entry. -/
def drop (budget : CacheBudget) (entries : List Entry) : Nat × List Entry :=
  (0, entries.filter fun entry => ¬ (entry.owner = budget.owner ∧ entry.pid = budget.pid))

end CacheBudget

/-- An open budget of a live process, with the balance that its own calls add up to. -/
structure BudgetHandle where
  budget : CacheBudget
  balance : Nat

/-- The processes of one node and the state file that they share. -/
structure BudgetSys where
  file : List Char
  live : List Nat
  /-- Processes that have ended and whose parents have not waited for them. -/
  zombies : List Nat
  handles : List BudgetHandle
  /-- What the last locked update returned. -/
  excess : Nat

inductive BudgetEvent where
  | spawn (pid : UInt32)
  | exit (pid : UInt32)
  | reap (pid : UInt32)
  | openBudget (pid : UInt32) (owner : String) (maxBytes : UInt64)
  | reset (owner : String) (bytes : UInt64)
  | admitBytes (owner : String) (bytes : UInt64)
  | release (owner : String) (bytes : UInt64)
  | drop (owner : String)
  deriving DecidableEq

namespace BudgetSys

def start : BudgetSys := ⟨[], [], [], [], 0⟩

/-- A process counts as alive when its id answers a signal, which a zombie still does; the id 0 never does. -/
def pidAlive (sys : BudgetSys) (pid : Nat) : Bool := pid ≠ 0 ∧ (pid ∈ sys.live ∨ pid ∈ sys.zombies)

/-- The file is read, pruned, updated and rewritten under its lock. -/
def withLocked (sys : BudgetSys) (pid : Nat) (update : List Entry → Nat × List Entry) : BudgetSys :=
  let entries := CacheBudget.pruneDead (CacheBudget.readEntries sys.file) pid sys.pidAlive
  { sys with
    excess := (update entries).1
    file := CacheBudget.writeEntries (update entries).2 }

def handle? (sys : BudgetSys) (owner : String) : Option BudgetHandle :=
  sys.handles.find? fun handle => handle.budget.owner = owner

/-- The balance that an owner's calls add up to. -/
def credit (sys : BudgetSys) (owner : String) (update : Nat → Nat) : List BudgetHandle :=
  sys.handles.map fun handle =>
    if handle.budget.owner = owner then { handle with balance := update handle.balance } else handle

/-- A call on an open budget updates the file and the owner's balance. -/
def call (sys : BudgetSys) (owner : String) (update : Nat → Nat) : Option BudgetSys :=
  (sys.handle? owner).map fun handle =>
    { sys.withLocked handle.budget.pid (handle.budget.setBalance update) with
      handles := sys.credit owner update }

/-- One locked update, or the birth or end of a process, where it is enabled; owners are distinct. A process that has
ended keeps its id until its parent waits for it. -/
def step (sys : BudgetSys) : BudgetEvent → Option BudgetSys
  | .spawn pid =>
      if pid = 0 ∨ pid.toNat ∈ sys.live ∨ pid.toNat ∈ sys.zombies then none
      else some { sys with live := sys.live ++ [pid.toNat] }
  | .exit pid =>
      if pid.toNat ∉ sys.live then none
      else some { sys with
        live := sys.live.filter (· ≠ pid.toNat)
        zombies := sys.zombies ++ [pid.toNat]
        handles := sys.handles.filter fun handle => handle.budget.pid ≠ pid.toNat }
  | .reap pid => some { sys with zombies := sys.zombies.filter (· ≠ pid.toNat) }
  | .openBudget pid owner maxBytes =>
      if pid.toNat ∉ sys.live ∨ (sys.handle? owner).isSome then none
      else if maxBytes = 0 ∨ owner.toList.contains '\t' ∨ owner.toList.contains '\n' then some sys
      else
        let budget : CacheBudget := ⟨maxBytes.toNat, owner, pid.toNat⟩
        some { sys.withLocked pid.toNat (budget.reset 0) with handles := sys.handles ++ [⟨budget, 0⟩] }
  | .reset owner bytes => sys.call owner fun _ => bytes.toNat
  | .admitBytes owner bytes => sys.call owner fun balance => satAdd balance bytes.toNat
  | .release owner bytes => sys.call owner fun balance => balance - bytes.toNat
  | .drop owner => (sys.handle? owner).map fun handle =>
      { sys.withLocked handle.budget.pid handle.budget.drop with
        handles := sys.handles.filter fun handle => handle.budget.owner ≠ owner }

end BudgetSys
end UblkAzblob
