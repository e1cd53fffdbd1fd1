import UblkAzblob.Construction.BudgetFile
import UblkAzblob.Construction.CacheIndex

namespace UblkAzblob
open Storage

/-- A shared state file as an open handle sees it: its text, and where the next access starts. -/
structure StateFile where
  text : List Char
  cursor : Nat

namespace StateFile

/-- A longer file is filled with zeros. -/
def setLen (file : StateFile) (len : Nat) : StateFile :=
  { file with text := (file.text ++ List.replicate (len - file.text.length) '\x00').take len }

def seek (file : StateFile) (start : Nat) : StateFile := { file with cursor := start }

/-- What follows the cursor is read to the end. -/
def readToString (file : StateFile) : List Char × StateFile :=
  (file.text.drop file.cursor, { file with cursor := max file.cursor file.text.length })

/-- The bytes at the cursor are overwritten, and the rest stays. -/
def writeAll (file : StateFile) (out : List Char) : StateFile where
  text := (file.text ++ List.replicate (file.cursor - file.text.length) '\x00').take file.cursor ++ out ++
    file.text.drop (file.cursor + out.length)
  cursor := file.cursor + out.length

/-- The file is truncated and written from its start. -/
def overwrite (file : StateFile) (out : List Char) : StateFile := ((file.setLen 0).seek 0).writeAll out

end StateFile

namespace CacheBudget

def readEntriesFrom (file : StateFile) : List Entry × StateFile :=
  let read := (file.seek 0).readToString
  (readEntries read.1, read.2)

def writeEntriesTo (file : StateFile) (entries : List Entry) : StateFile := file.overwrite (writeEntries entries)

end CacheBudget

namespace CacheIndex

/-- A line of the index is parsed without the line ends at its end. -/
def parseEntry (line : List Char) : Option IndexEntry :=
  match fields '\t' (trimEnd (fun char => char = '\r' ∨ char = '\n') line) with
  | blob :: page :: owner :: pid :: len :: _ =>
      match parseUnsigned (2 ^ 64) page, parseUnsigned (2 ^ 32) pid, parseUnsigned (2 ^ 64) len with
      | some page, some pid, some len => some ⟨String.ofList blob, page, String.ofList owner, pid, len⟩
      | _, _, _ => none
  | _ => none

/-- Malformed lines are ignored. -/
def readEntries (text : List Char) : List IndexEntry := (lines text).filterMap parseEntry

def printEntry (entry : IndexEntry) : List Char :=
  entry.blobIdentity.toList ++ '\t' :: (decimal entry.pageIdx ++ '\t' :: (entry.owner.toList ++
    '\t' :: (decimal entry.pid ++ '\t' :: decimal entry.len)))

def writeEntries (entries : List IndexEntry) : List Char :=
  entries.flatMap fun entry => printEntry entry ++ ['\n']

def readEntriesFrom (file : StateFile) : List IndexEntry × StateFile :=
  let read := (file.seek 0).readToString
  (readEntries read.1, read.2)

def writeEntriesTo (file : StateFile) (entries : List IndexEntry) : StateFile := file.overwrite (writeEntries entries)

end CacheIndex
end UblkAzblob
