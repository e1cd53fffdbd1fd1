import UblkAzblob.Construction.FileCacheState

namespace UblkAzblob
open Storage

/-- The ledger separates what the two files hold for sure from the calls that a power loss may undo. -/
structure Ledger where
  data : Journal
  metadata : Journal
  stamp : Nat

/-- The outage decides which sectors of the data file and which metadata bytes of each call survive. -/
structure Outage where
  sectors : Nat → Nat → Bool
  bytes : Nat → Nat → Bool
  /-- The token file is never synced, so any contents may be left. -/
  token : Option String

variable {Inner : Type}

namespace Ledger

def start (disk : Disk Inner) : Ledger := ⟨⟨disk.data, []⟩, ⟨disk.metadata, []⟩, 0⟩

/-- Every call is stamped with its place in the log. -/
def note (ledger : Ledger) (call : Call Inner) : Ledger :=
  match call.effect with
  | .data op => ⟨ledger.data.record ledger.stamp op, ledger.metadata, ledger.stamp + 1⟩
  | .metadata op => ⟨ledger.data, ledger.metadata.record ledger.stamp op, ledger.stamp + 1⟩
  | .etag _ => { ledger with stamp := ledger.stamp + 1 }
  | .inner _ => { ledger with stamp := ledger.stamp + 1 }

def noteAll (ledger : Ledger) (calls : List (Call Inner)) : Ledger := calls.foldl note ledger

def crashData (ledger : Ledger) (outage : Outage) : File := ledger.data.crash 512 outage.sectors

/-- A byte of the metadata file is never torn. -/
def crashMeta (ledger : Ledger) (outage : Outage) : File := ledger.metadata.crash 1 outage.bytes

end Ledger

/-- A power loss leaves the blob as it is, and of the files whatever the outage let through. -/
def powerLoss (outage : Outage) (calls : List (Call Inner)) (disk : Disk Inner) : Disk Inner :=
  let ledger := (Ledger.start disk).noteAll calls
  ⟨ledger.crashData outage, ledger.crashMeta outage, outage.token, (replay calls disk).inner⟩

end UblkAzblob
