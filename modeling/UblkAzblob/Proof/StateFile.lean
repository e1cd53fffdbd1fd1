import UblkAzblob.Construction.StateFile
import UblkAzblob.Proof.BudgetFile

namespace UblkAzblob
open Storage

namespace StateFile

/-- What was written is all that the file holds, whatever it held before. -/
@[simp] theorem overwrite_text (file : StateFile) (out : List Char) : (file.overwrite out).text = out := by
  simp [overwrite, setLen, seek, writeAll]

theorem readToString_start (file : StateFile) : ((file.seek 0).readToString).1 = file.text := by
  simp [seek, readToString]

end StateFile

namespace CacheBudget

/-- The names and numbers of an entry that an open budget can have. -/
structure Accepted (entry : Entry) : Prop where
  tabless : '\t' ∉ entry.owner.toList
  unbroken : '\n' ∉ entry.owner.toList
  pid : entry.pid < 2 ^ 32
  bytes : entry.bytes < 2 ^ 64

/-- An entry that was read can be printed, because its line was trimmed. -/
theorem printable_of_parseEntry {line : List Char} {entry : Entry} (unbroken : '\n' ∉ line)
    (parsed : parseEntry line = some entry) : Printable entry := by
  unfold parseEntry at parsed
  split at parsed
  · rename_i owner pid bytes more split
    split at parsed
    · rename_i pidValue bytesValue pidParsed bytesParsed
      rw [← Option.some.inj parsed]
      have member : owner ∈ fields '\t' (trimBoth FileCacheBackend.isWhitespace line) := by
        rw [split]
        exact List.mem_cons_self
      refine ⟨?_, ?_, ?_, parseUnsigned_lt pidParsed, parseUnsigned_lt bytesParsed⟩
      · intro inside
        rw [String.toList_ofList] at inside
        exact (char_of_mem_fields member inside).2 rfl
      · intro inside
        rw [String.toList_ofList] at inside
        exact unbroken (mem_of_mem_trimBoth (char_of_mem_fields member inside).1)
      · cases left : trimBoth FileCacheBackend.isWhitespace line with
        | nil =>
            rw [left] at split
            cases split
        | cons char rest =>
            have plain := trimBoth_head left
            rw [left] at split
            have different : char ≠ '\t' := by
              rintro rfl
              exact absurd plain (by decide)
            obtain ⟨tail, rfl⟩ := fields_first split different
            simp [nameable, plain]
    · cases parsed
  · cases parsed

theorem printable_of_mem_readEntries {text : List Char} {entry : Entry} (member : entry ∈ readEntries text) :
    Printable entry := by
  obtain ⟨line, listed, parsed⟩ := List.mem_filterMap.mp member
  exact printable_of_parseEntry (unbroken_of_mem_lines listed) parsed

/-- What was read is read again after it was written. -/
theorem readEntries_stable (text : List Char) : readEntries (writeEntries (readEntries text)) = readEntries text :=
  readEntries_writeEntries fun _ => printable_of_mem_readEntries

/-- The entries survive exactly when no name loses characters to the trimming of its line. -/
theorem readEntries_writeEntries_iff {entries : List Entry} (accepted : ∀ entry ∈ entries, Accepted entry) :
    readEntries (writeEntries entries) = entries ↔ ∀ entry ∈ entries, nameable entry.owner = true := by
  constructor
  · intro same entry member
    rw [← same] at member
    exact (printable_of_mem_readEntries member).named
  · intro named
    refine readEntries_writeEntries ?_
    intro entry member
    obtain ⟨tabless, unbroken, pid, bytes⟩ := accepted entry member
    exact ⟨tabless, unbroken, named entry member, pid, bytes⟩

end CacheBudget

namespace CacheIndex

/-- The names and numbers of an entry that an open index can have. -/
structure Accepted (entry : IndexEntry) : Prop where
  tabless : '\t' ∉ entry.blobIdentity.toList ∧ '\t' ∉ entry.owner.toList
  unbroken : '\n' ∉ entry.blobIdentity.toList ∧ '\n' ∉ entry.owner.toList
  pageIdx : entry.pageIdx < 2 ^ 64
  pid : entry.pid < 2 ^ 32
  len : entry.len < 2 ^ 64

theorem printEntry_getLast {entry : IndexEntry} {char : Char} (last : (printEntry entry).getLast? = some char) :
    char.isDigit = true := by
  have shape : printEntry entry = (entry.blobIdentity.toList ++ '\t' :: (decimal entry.pageIdx ++
      '\t' :: (entry.owner.toList ++ '\t' :: decimal entry.pid)) ++ ['\t']) ++ decimal entry.len := by
    simp [printEntry]
  rw [shape, List.getLast?_append_of_ne_nil _ (decimal_ne_nil _)] at last
  exact isDigit_of_mem_decimal (List.mem_of_getLast? last)

/-- A printed entry is parsed back. -/
theorem parseEntry_printEntry {entry : IndexEntry} (accepted : Accepted entry) :
    parseEntry (printEntry entry) = some entry := by
  have whole : trimEnd (fun char => char = '\r' ∨ char = '\n') (printEntry entry) = printEntry entry := by
    apply trimEnd_eq
    intro char last
    have digit := printEntry_getLast last
    rw [decide_eq_false_iff_not]
    rintro (rfl | rfl) <;> exact absurd digit (by decide)
  have tabless (value : Nat) : '\t' ∉ decimal value := not_mem_decimal (by decide)
  rw [parseEntry, whole, printEntry, fields_append _ accepted.tabless.1, fields_append _ (tabless _),
    fields_append _ accepted.tabless.2, fields_append _ (tabless _), fields_plain (tabless _)]
  dsimp only
  rw [parseUnsigned_decimal accepted.pageIdx, parseUnsigned_decimal accepted.pid, parseUnsigned_decimal accepted.len]
  simp [String.ofList_toList]

/-- What was written is read back. -/
theorem readEntries_writeEntries {entries : List IndexEntry} (accepted : ∀ entry ∈ entries, Accepted entry) :
    readEntries (writeEntries entries) = entries := by
  refine filterMap_lines ?_ ?_ fun entry member => parseEntry_printEntry (accepted entry member)
  · intro entry member
    have plain (value : Nat) : '\n' ∉ decimal value := not_mem_decimal (by decide)
    simp [printEntry, (accepted entry member).unbroken, plain]
  · intro entry member last
    have digit := printEntry_getLast last
    simp at digit

theorem accepted_of_parseEntry {line : List Char} {entry : IndexEntry} (unbroken : '\n' ∉ line)
    (parsed : parseEntry line = some entry) : Accepted entry := by
  unfold parseEntry at parsed
  split at parsed
  · rename_i blob page owner pid len more split
    split at parsed
    · rename_i pageValue pidValue lenValue pageParsed pidParsed lenParsed
      rw [← Option.some.inj parsed]
      have inField (part : List Char) (listed : part ∈ [blob, page, owner, pid, len] ++ more) (char : Char)
          (inside : char ∈ part) : char ∈ line ∧ char ≠ '\t' := by
        have member : part ∈ fields '\t' (trimEnd (fun char => char = '\r' ∨ char = '\n') line) := by
          rw [split]
          exact listed
        obtain ⟨kept, different⟩ := char_of_mem_fields member inside
        exact ⟨mem_of_mem_trimEnd kept, different⟩
      refine ⟨?_, ?_, parseUnsigned_lt pageParsed, parseUnsigned_lt pidParsed, parseUnsigned_lt lenParsed⟩
      · simp only [String.toList_ofList]
        exact ⟨fun inside => (inField blob (by simp) _ inside).2 rfl,
          fun inside => (inField owner (by simp) _ inside).2 rfl⟩
      · simp only [String.toList_ofList]
        exact ⟨fun inside => unbroken (inField blob (by simp) _ inside).1,
          fun inside => unbroken (inField owner (by simp) _ inside).1⟩
    · cases parsed
  · cases parsed

/-- What was read is read again after it was written. -/
theorem readEntries_stable (text : List Char) : readEntries (writeEntries (readEntries text)) = readEntries text := by
  apply readEntries_writeEntries
  intro entry member
  obtain ⟨line, listed, parsed⟩ := List.mem_filterMap.mp member
  exact accepted_of_parseEntry (unbroken_of_mem_lines listed) parsed

end CacheIndex

/-- Both files give back the lists that were written to them, and rewriting what was read changes nothing. -/
structure StateFilesDecode (file : StateFile) (budgetEntries : List Entry) (indexEntries : List IndexEntry)
    (text : List Char) : Prop where
  budget : (CacheBudget.readEntriesFrom (CacheBudget.writeEntriesTo file budgetEntries)).1 = budgetEntries
  index : (CacheIndex.readEntriesFrom (CacheIndex.writeEntriesTo file indexEntries)).1 = indexEntries
  budgetStable :
    let decoded := (CacheBudget.readEntriesFrom { file with text }).1
    (CacheBudget.readEntriesFrom (CacheBudget.writeEntriesTo { file with text } decoded)).1 = decoded
  indexStable :
    let decoded := (CacheIndex.readEntriesFrom { file with text }).1
    (CacheIndex.readEntriesFrom (CacheIndex.writeEntriesTo { file with text } decoded)).1 = decoded

@[simp] theorem CacheBudget.readEntriesFrom_text (file : StateFile) :
    (CacheBudget.readEntriesFrom file).1 = CacheBudget.readEntries file.text := by
  rw [readEntriesFrom, StateFile.readToString_start]

@[simp] theorem CacheIndex.readEntriesFrom_text (file : StateFile) :
    (CacheIndex.readEntriesFrom file).1 = CacheIndex.readEntries file.text := by
  rw [readEntriesFrom, StateFile.readToString_start]

/-- The state files decode what was encoded exactly when every owner of the budget file has a name that
starts with a character that is not white space. -/
theorem stateFilesDecode_iff (file : StateFile) (budgetEntries : List Entry) (indexEntries : List IndexEntry)
    (text : List Char) (budgetAccepted : ∀ entry ∈ budgetEntries, CacheBudget.Accepted entry)
    (indexAccepted : ∀ entry ∈ indexEntries, CacheIndex.Accepted entry) :
    StateFilesDecode file budgetEntries indexEntries text ↔
      ∀ entry ∈ budgetEntries, CacheBudget.nameable entry.owner = true := by
  rw [← CacheBudget.readEntries_writeEntries_iff budgetAccepted]
  constructor
  · intro decode
    have budget := decode.budget
    rwa [CacheBudget.readEntriesFrom_text, CacheBudget.writeEntriesTo, StateFile.overwrite_text] at budget
  · intro budget
    refine ⟨?_, ?_, ?_, ?_⟩
    · rwa [CacheBudget.readEntriesFrom_text, CacheBudget.writeEntriesTo, StateFile.overwrite_text]
    · rw [CacheIndex.readEntriesFrom_text, CacheIndex.writeEntriesTo, StateFile.overwrite_text,
        CacheIndex.readEntries_writeEntries indexAccepted]
    · intro decoded
      rw [CacheBudget.readEntriesFrom_text, CacheBudget.writeEntriesTo, StateFile.overwrite_text]
      simp only [decoded, CacheBudget.readEntriesFrom_text, CacheBudget.readEntries_stable]
    · intro decoded
      rw [CacheIndex.readEntriesFrom_text, CacheIndex.writeEntriesTo, StateFile.overwrite_text]
      simp only [decoded, CacheIndex.readEntriesFrom_text, CacheIndex.readEntries_stable]

theorem stateFilesDecode_iff_named :
    StateFilesDecode ⟨"old\t1\t2\n".toList, 3⟩ [⟨"cache", 7, 4096⟩] [⟨" blob", 3, "cache", 7, 4096⟩]
      "x\t+5\t6\textra\n\n y\t7".toList :=
  (stateFilesDecode_iff _ _ _ _ (by
    rintro _ (_ | ⟨_, ⟨⟩⟩)
    exact ⟨by decide, by decide, by decide, by decide⟩) (by
    rintro _ (_ | ⟨_, ⟨⟩⟩)
    exact ⟨by decide, by decide, by decide, by decide, by decide⟩)).mpr (by decide)

/-- An owner whose name starts with a blank is read back under another name. -/
theorem stateFilesDecode_blank :
    CacheBudget.Accepted ⟨" cache", 7, 4096⟩ ∧
      (CacheBudget.readEntriesFrom (CacheBudget.writeEntriesTo ⟨[], 0⟩ [⟨" cache", 7, 4096⟩])).1 ≠
        [⟨" cache", 7, 4096⟩] :=
  ⟨⟨by decide, by decide, by decide, by decide⟩, by decide +kernel⟩

end UblkAzblob
