import UblkAzblob.Foundation.Bytes

namespace Storage

/-- A file has a length and reads as zero past its end. -/
structure File where
  len : Nat
  bytes : Store

def File.empty : File := ⟨0, fun _ => 0⟩

/-- These calls change a file or order its changes. -/
inductive FileOp where
  | write (offset : Nat) (bytes : List UInt8)
  | punch (offset len : Nat)
  | setLen (len : Nat)
  | sync
  deriving DecidableEq, Repr

/-- The call takes effect in the page cache at once. -/
def FileOp.apply : FileOp → File → File
  | .write offset bytes, file =>
      ⟨max file.len (offset + bytes.length), splice file.bytes offset bytes⟩
  | .punch offset len, file => { file with bytes := zeroed file.bytes offset len }
  | .setLen len, file => ⟨len, fun x => if x < len then file.bytes x else 0⟩
  | .sync, file => file

/-- A read past the end of the file fails. -/
def File.readExactAt (file : File) (offset len : Nat) : Except (List String) (List UInt8) :=
  if offset + len ≤ file.len then .ok (slice file.bytes offset len)
  else .error ["failed to fill whole buffer"]

/-- A lost write leaves some of its units unchanged, but a new length always survives. -/
def FileOp.applyKept (unit : Nat) (keep : Nat → Bool) (op : FileOp) (file : File) : File :=
  match op with
  | .setLen len => FileOp.apply (.setLen len) file
  | op => ⟨(op.apply file).len,
      fun x => if keep (x / unit) then (op.apply file).bytes x else file.bytes x⟩

/-- A journal separates the durable contents from the stamped calls not yet made durable. -/
structure Journal where
  durable : File
  pending : List (Nat × FileOp)

namespace Journal

/-- The volatile contents include every call. -/
def volatile (journal : Journal) : File :=
  journal.pending.foldl (fun file entry => entry.2.apply file) journal.durable

/-- A sync makes the volatile contents durable. -/
def record (journal : Journal) (stamp : Nat) : FileOp → Journal
  | .sync => ⟨journal.volatile, []⟩
  | op => ⟨journal.durable, journal.pending ++ [(stamp, op)]⟩

/-- The crash keeps the selected units of each pending call. -/
def crash (unit : Nat) (keep : Nat → Nat → Bool) (journal : Journal) : File :=
  journal.pending.foldl (fun file entry => entry.2.applyKept unit (keep entry.1) file) journal.durable

variable {unit : Nat} {keep : Nat → Nat → Bool}

theorem volatile_record (journal : Journal) (stamp : Nat) (op : FileOp) :
    (journal.record stamp op).volatile = op.apply journal.volatile := by
  cases op <;> simp [record, volatile, FileOp.apply]

/-- A recorded call survives unit by unit. -/
theorem crash_record (journal : Journal) (stamp : Nat) {op : FileOp} (unsynced : op ≠ .sync) :
    (journal.record stamp op).crash unit keep =
      op.applyKept unit (keep stamp) (journal.crash unit keep) := by
  cases op with
  | sync => exact absurd rfl unsynced
  | write offset bytes => simp [record, crash]
  | punch offset len => simp [record, crash]
  | setLen len => simp [record, crash]

/-- After a sync only the volatile contents survive. -/
@[simp] theorem crash_sync (journal : Journal) (stamp : Nat) :
    (journal.record stamp .sync).crash unit keep = journal.volatile := rfl

end Journal

/-- A call touches the bytes of its range; a new length may touch every byte. -/
def FileOp.touches : FileOp → Nat → Bool
  | .write offset bytes, x => offset ≤ x ∧ x < offset + bytes.length
  | .punch offset len, x => offset ≤ x ∧ x < offset + len
  | .setLen _, _ => true
  | .sync, _ => false

theorem FileOp.apply_untouched {op : FileOp} {x : Nat} (untouched : op.touches x = false) (file : File) :
    (op.apply file).bytes x = file.bytes x := by
  cases op with
  | write offset bytes =>
      simp only [touches, decide_eq_false_iff_not] at untouched
      exact if_neg untouched
  | punch offset len =>
      simp only [touches, decide_eq_false_iff_not] at untouched
      exact if_neg untouched
  | setLen len => cases untouched
  | sync => rfl

/-- A byte that a call does not touch is as it was, whatever survives. -/
theorem FileOp.applyKept_untouched {op : FileOp} {x : Nat} (untouched : op.touches x = false)
    (unit : Nat) (keep : Nat → Bool) (file : File) :
    (op.applyKept unit keep file).bytes x = file.bytes x := by
  cases op with
  | setLen len => cases untouched
  | write offset bytes => simp only [applyKept, apply_untouched untouched, ite_self]
  | punch offset len => simp only [applyKept, apply_untouched untouched, ite_self]
  | sync => simp only [applyKept, apply_untouched untouched, ite_self]

end Storage
