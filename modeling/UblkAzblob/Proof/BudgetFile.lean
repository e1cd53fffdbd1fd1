import UblkAzblob.Construction.BudgetFile
import Mathlib.Algebra.BigOperators.Group.List.Basic
import Mathlib.Data.List.Nodup

namespace UblkAzblob
open Storage

namespace CacheBudget

/-- The name survives the trimming of its line when it starts with a character that is not white space. -/
def nameable (owner : String) : Bool :=
  match owner.toList with
  | char :: _ => !FileCacheBackend.isWhitespace char
  | [] => false

/-- An entry that the text of the state file can carry. -/
structure Printable (entry : Entry) : Prop where
  tabless : '\t' ∉ entry.owner.toList
  unbroken : '\n' ∉ entry.owner.toList
  named : nameable entry.owner = true
  pid : entry.pid < 2 ^ 32
  bytes : entry.bytes < 2 ^ 64

theorem printEntry_getLast {entry : Entry} {char : Char} (last : (printEntry entry).getLast? = some char) :
    char.isDigit = true := by
  have shape : printEntry entry =
      (entry.owner.toList ++ '\t' :: decimal entry.pid ++ ['\t']) ++ decimal entry.bytes := by
    simp [printEntry]
  rw [shape, List.getLast?_append_of_ne_nil _ (decimal_ne_nil _)] at last
  exact isDigit_of_mem_decimal (List.mem_of_getLast? last)

theorem isWhitespace_of_isDigit {char : Char} (digit : char.isDigit = true) :
    FileCacheBackend.isWhitespace char = false := by
  rw [Char.isDigit, Bool.and_eq_true, decide_eq_true_eq, decide_eq_true_eq] at digit
  have low : 48 ≤ char.toNat := digit.1
  have high : char.toNat ≤ 57 := digit.2
  simp only [FileCacheBackend.isWhitespace, decide_eq_false_iff_not]
  omega

/-- A printed entry is parsed back. -/
theorem parseEntry_printEntry {entry : Entry} (printable : Printable entry) :
    parseEntry (printEntry entry) = some entry := by
  have trimmed : trimBoth FileCacheBackend.isWhitespace (printEntry entry) = printEntry entry := by
    refine trimBoth_eq ?_ fun char last => isWhitespace_of_isDigit (printEntry_getLast last)
    intro char first
    have named := printable.named
    rw [nameable] at named
    split at named
    · rename_i start rest text
      rw [printEntry, text, List.cons_append, List.head?_cons] at first
      rw [← Option.some.inj first]
      simpa using named
    · cases named
  have tabless (value : Nat) : '\t' ∉ decimal value := not_mem_decimal (by decide)
  rw [parseEntry, trimmed, printEntry, fields_append _ printable.tabless, fields_append _ (tabless _),
    fields_plain (tabless _)]
  dsimp only
  rw [parseUnsigned_decimal printable.pid, parseUnsigned_decimal printable.bytes]
  simp [String.ofList_toList]

/-- What was written is read back. -/
theorem readEntries_writeEntries {entries : List Entry} (printable : ∀ entry ∈ entries, Printable entry) :
    readEntries (writeEntries entries) = entries := by
  refine filterMap_lines ?_ ?_ fun entry member => parseEntry_printEntry (printable entry member)
  · intro entry member
    have plain (value : Nat) : '\n' ∉ decimal value := not_mem_decimal (by decide)
    simp [printEntry, (printable entry member).unbroken, plain]
  · intro entry member last
    have digit := printEntry_getLast last
    simp at digit

theorem total_eq (entries : List Entry) :
    total entries = min (entries.map Entry.bytes).sum (2 ^ 64 - 1) := by
  suffices general : ∀ acc, acc ≤ 2 ^ 64 - 1 →
      entries.foldl (fun acc entry => satAdd acc entry.bytes) acc =
        min (acc + (entries.map Entry.bytes).sum) (2 ^ 64 - 1) by
    rw [total, general 0 (by omega), Nat.zero_add]
  induction entries with
  | nil =>
      intro acc small
      simp only [List.foldl_nil, List.map_nil, List.sum_nil]
      omega
  | cons entry rest ih =>
      intro acc small
      rw [List.foldl_cons, ih _ (by rw [satAdd]; omega), List.map_cons, List.sum_cons, satAdd]
      omega

/-- An entry that is in the list once is updated in place. -/
theorem upsert_eq_map {entries : List Entry} {owner : String} {pid : Nat} (update : Nat → Nat)
    (distinct : (entries.map fun entry => (entry.owner, entry.pid)).Nodup)
    (present : (owner, pid) ∈ entries.map fun entry => (entry.owner, entry.pid)) :
    upsert entries owner pid update = entries.map fun entry =>
      if entry.owner = owner ∧ entry.pid = pid then { entry with bytes := update entry.bytes } else entry := by
  induction entries with
  | nil => cases present
  | cons head rest ih =>
      rw [List.map_cons, List.nodup_cons] at distinct
      rw [upsert, List.map_cons]
      split
      · rename_i own
        congr 1
        conv_lhs => rw [← List.map_id rest]
        apply List.map_congr_left
        intro entry member
        rw [if_neg, id]
        rintro ⟨sameOwner, samePid⟩
        apply distinct.1
        rw [own.1, own.2]
        exact List.mem_map.mpr ⟨entry, member, by rw [sameOwner, samePid]⟩
      · rename_i other
        congr 1
        refine ih distinct.2 ?_
        rcases List.mem_cons.mp present with own | later
        · obtain ⟨rfl, rfl⟩ := Prod.mk.inj own
          exact absurd ⟨rfl, rfl⟩ other
        · exact later

/-- An entry that is not in the list is appended. -/
theorem upsert_eq_append {entries : List Entry} {owner : String} {pid : Nat} (update : Nat → Nat)
    (absent : ∀ entry ∈ entries, ¬ (entry.owner = owner ∧ entry.pid = pid)) :
    upsert entries owner pid update = entries ++ [⟨owner, pid, update 0⟩] := by
  induction entries with
  | nil => rfl
  | cons head rest ih =>
      rw [upsert, if_neg (absent head (by simp)), ih fun entry member => absent entry (by simp [member])]
      rfl

end CacheBudget

/-- The line of the state file that belongs to an open budget. -/
def BudgetHandle.entry (handle : BudgetHandle) : Entry :=
  ⟨handle.budget.owner, handle.budget.pid, handle.balance⟩

namespace BudgetSys

variable {sys next : BudgetSys}

/-- These events lock the state file; the others leave it alone. -/
def locks : BudgetEvent → Bool
  | .spawn _ => false
  | .exit _ => false
  | .reap _ => false
  | .openBudget _ owner maxBytes =>
      !(maxBytes = 0 || owner.toList.contains '\t' || owner.toList.contains '\n')
  | _ => true

/-- Every process that has ended with an entry in the file has been waited for. -/
def reaped (sys : BudgetSys) : Bool :=
  (CacheBudget.readEntries sys.file).all fun entry => entry.pid ∉ sys.zombies

/-- No process is born under an id that is still in the file, the file is locked only when the ended processes that it
lists have been waited for, and every owner has a name that survives the trimming of its line. -/
def unclaimed (sys : BudgetSys) (event : BudgetEvent) : Bool :=
  (!locks event || reaped sys) && match event with
    | .spawn pid => (CacheBudget.readEntries sys.file).all fun entry => entry.pid ≠ pid.toNat
    | .openBudget _ owner _ => !locks event || CacheBudget.nameable owner
    | _ => true

/-- The entries of live processes are those of the open budgets. -/
structure Books (sys : BudgetSys) (entries : List Entry) : Prop where
  printed : sys.file = CacheBudget.writeEntries entries
  printable : ∀ entry ∈ entries, CacheBudget.Printable entry
  exact : (entries.filter fun entry => entry.pid ∈ sys.live).Perm (sys.handles.map BudgetHandle.entry)
  owners : (sys.handles.map fun handle => handle.budget.owner).Nodup
  running : ∀ handle ∈ sys.handles, handle.budget.pid ∈ sys.live
  pids : ∀ pid ∈ sys.live, pid ≠ 0 ∧ pid < 2 ^ 32

theorem Books.read {entries : List Entry} (books : Books sys entries) :
    CacheBudget.readEntries sys.file = entries := by
  rw [books.printed, CacheBudget.readEntries_writeEntries books.printable]

/-- A live process prunes exactly the entries of dead ones, once these have been waited for. -/
theorem Books.pruned {entries : List Entry} (books : Books sys entries) {pid : Nat} (self : pid ∈ sys.live)
    (settled : reaped sys = true) :
    CacheBudget.pruneDead (CacheBudget.readEntries sys.file) pid sys.pidAlive =
      entries.filter fun entry => entry.pid ∈ sys.live := by
  rw [reaped, books.read] at settled
  rw [books.read, CacheBudget.pruneDead]
  apply List.filter_congr
  intro entry member
  have ended : entry.pid ∉ sys.zombies := of_decide_eq_true (List.all_eq_true.mp settled entry member)
  rw [decide_eq_decide]
  constructor
  · rintro (rfl | alive)
    · exact self
    · simp only [pidAlive, decide_eq_true_eq] at alive
      exact alive.2.resolve_right ended
  · intro live
    right
    simp only [pidAlive, decide_eq_true_eq]
    exact ⟨(books.pids _ live).1, .inl live⟩

/-- The open budgets have different owners, so their entries have different keys. -/
theorem Books.keys {entries : List Entry} (books : Books sys entries) :
    ((entries.filter fun entry => entry.pid ∈ sys.live).map fun entry => (entry.owner, entry.pid)).Nodup := by
  rw [(books.exact.map _).nodup_iff]
  refine List.Nodup.of_map Prod.fst ?_
  rw [List.map_map, List.map_map]
  exact books.owners

/-- A locked update whose result belongs to the open budgets leaves the books exact. -/
theorem Books.locked {entries updated : List Entry} {handles : List BudgetHandle} {excess pid : Nat}
    (update : List Entry → Nat × List Entry) (books : Books sys entries) (self : pid ∈ sys.live)
    (settled : reaped sys = true)
    (result : update (entries.filter fun entry => entry.pid ∈ sys.live) = (excess, updated))
    (printable : ∀ entry ∈ updated, CacheBudget.Printable entry)
    (exact : updated.Perm (handles.map BudgetHandle.entry))
    (owners : (handles.map fun handle => handle.budget.owner).Nodup)
    (running : ∀ handle ∈ handles, handle.budget.pid ∈ sys.live) :
    Books { sys.withLocked pid update with handles } updated ∧
      (sys.withLocked pid update).excess = excess := by
  have live (entry : Entry) (member : entry ∈ updated) : entry.pid ∈ sys.live := by
    obtain ⟨handle, inside, rfl⟩ := List.mem_map.mp (exact.mem_iff.mp member)
    exact running handle inside
  simp only [withLocked, books.pruned self settled, result]
  refine ⟨⟨rfl, printable, ?_, owners, running, books.pids⟩, trivial⟩
  rw [List.filter_eq_self.mpr fun entry member => by simpa using live entry member]
  exact exact

theorem handle?_some {owner : String} {handle : BudgetHandle} (found : sys.handle? owner = some handle) :
    handle ∈ sys.handles ∧ handle.budget.owner = owner := by
  refine ⟨List.mem_of_find?_eq_some found, ?_⟩
  simpa using List.find?_some found

/-- The owner's own handle is the only one with its name. -/
theorem Books.same_handle {entries : List Entry} (books : Books sys entries) {one other : BudgetHandle}
    (left : one ∈ sys.handles) (right : other ∈ sys.handles)
    (same : one.budget.owner = other.budget.owner) : one = other :=
  List.inj_on_of_nodup_map books.owners left right same

/-- A call on an open budget changes its balance in the file as in its own history. -/
theorem Books.call {entries : List Entry} (books : Books sys entries) (settled : reaped sys = true) {owner : String}
    {update : Nat → Nat} (small : ∀ balance, balance < 2 ^ 64 → update balance < 2 ^ 64)
    (called : sys.call owner update = some next) :
    ∃ updated handle, Books next updated ∧ updated.Perm (next.handles.map BudgetHandle.entry) ∧
      handle ∈ next.handles ∧ handle.budget.owner = owner ∧
      next.excess = CacheBudget.total updated - handle.budget.maxBytes := by
  obtain ⟨handle, found, rfl⟩ := Option.map_eq_some_iff.mp called
  obtain ⟨inside, rfl⟩ := handle?_some found
  have self := books.running handle inside
  set current := entries.filter fun entry => entry.pid ∈ sys.live with currentEq
  have present : (handle.budget.owner, handle.budget.pid) ∈
      current.map fun entry => (entry.owner, entry.pid) := by
    rw [(books.exact.map _).mem_iff]
    exact List.mem_map.mpr ⟨handle.entry, List.mem_map.mpr ⟨handle, inside, rfl⟩, rfl⟩
  set updated := CacheBudget.upsert current handle.budget.owner handle.budget.pid update with updatedEq
  have mapped := CacheBudget.upsert_eq_map update books.keys present
  have exact : updated.Perm ((sys.credit handle.budget.owner update).map BudgetHandle.entry) := by
    rw [updatedEq, mapped]
    refine (books.exact.map _).trans (List.Perm.of_eq ?_)
    rw [credit, List.map_map, List.map_map]
    apply List.map_congr_left
    intro other member
    by_cases own : other.budget.owner = handle.budget.owner
    · obtain rfl := books.same_handle member inside own
      simp [BudgetHandle.entry]
    · simp [BudgetHandle.entry, own]
  have printable (entry : Entry) (member : entry ∈ updated) : CacheBudget.Printable entry := by
    rw [updatedEq, mapped] at member
    obtain ⟨old, before, rfl⟩ := List.mem_map.mp member
    have known := books.printable old (List.mem_of_mem_filter before)
    split
    · exact { known with bytes := small _ known.bytes }
    · exact known
  have kept (other : BudgetHandle) (member : other ∈ sys.credit handle.budget.owner update) :
      ∃ old ∈ sys.handles, old.budget = other.budget := by
    obtain ⟨old, before, rfl⟩ := List.mem_map.mp member
    exact ⟨old, before, by split <;> rfl⟩
  have owners : ((sys.credit handle.budget.owner update).map fun other => other.budget.owner).Nodup := by
    have same : (sys.credit handle.budget.owner update).map (fun other => other.budget.owner) =
        sys.handles.map fun other => other.budget.owner := by
      rw [credit, List.map_map]
      apply List.map_congr_left
      intro other _
      simp only [Function.comp]
      split <;> rfl
    rw [same]
    exact books.owners
  obtain ⟨after, excess⟩ := books.locked (handle.budget.setBalance update) self settled rfl printable exact
    owners fun other member => by
      obtain ⟨old, before, same⟩ := kept other member
      rw [← same]
      exact books.running old before
  refine ⟨updated, _, after, exact, List.mem_map.mpr ⟨handle, inside, rfl⟩, ?_, ?_⟩
  · split <;> rfl
  · rw [if_pos rfl]
    exact excess

/-- A new budget starts with an empty balance. -/
theorem Books.opened {entries : List Entry} (books : Books sys entries) (settled : reaped sys = true)
    (budget : CacheBudget) (self : budget.pid ∈ sys.live) (fresh : sys.handle? budget.owner = none)
    (tabless : '\t' ∉ budget.owner.toList) (unbroken : '\n' ∉ budget.owner.toList)
    (named : CacheBudget.nameable budget.owner = true) :
    ∃ updated, Books { sys.withLocked budget.pid (budget.reset 0) with
        handles := sys.handles ++ [⟨budget, 0⟩] } updated ∧
      updated.Perm ((sys.handles ++ [(⟨budget, 0⟩ : BudgetHandle)]).map BudgetHandle.entry) := by
  have others (handle : BudgetHandle) (member : handle ∈ sys.handles) :
      handle.budget.owner ≠ budget.owner := by
    intro same
    have none := List.find?_eq_none.mp fresh handle member
    simp [same] at none
  set current := entries.filter fun entry => entry.pid ∈ sys.live with currentEq
  have absent : ∀ entry ∈ current, ¬ (entry.owner = budget.owner ∧ entry.pid = budget.pid) := by
    rintro entry member ⟨same, _⟩
    obtain ⟨handle, inside, rfl⟩ := List.mem_map.mp (books.exact.mem_iff.mp member)
    exact others handle inside same
  have appended := CacheBudget.upsert_eq_append (fun _ => 0) absent
  have exact : (CacheBudget.upsert current budget.owner budget.pid fun _ => 0).Perm
      ((sys.handles ++ [(⟨budget, 0⟩ : BudgetHandle)]).map BudgetHandle.entry) := by
    rw [appended, List.map_append]
    exact books.exact.append_right _
  refine ⟨_, (books.locked (budget.reset 0) self settled rfl ?_ exact ?_ ?_).1, exact⟩
  · intro entry member
    rw [appended] at member
    rcases List.mem_append.mp member with old | new
    · exact books.printable entry (List.mem_of_mem_filter old)
    · obtain rfl := List.mem_singleton.mp new
      exact ⟨tabless, unbroken, named, (books.pids _ self).2, Nat.two_pow_pos 64⟩
  · rw [List.map_append, List.nodup_append]
    refine ⟨books.owners, by simp, ?_⟩
    intro name member other same
    obtain ⟨handle, inside, rfl⟩ := List.mem_map.mp member
    rw [List.mem_singleton.mp same]
    exact others handle inside
  · intro handle member
    rcases List.mem_append.mp member with old | new
    · exact books.running handle old
    · obtain rfl := List.mem_singleton.mp new
      exact self

/-- A dropped budget takes its entry with it. -/
theorem Books.dropped {entries : List Entry} (books : Books sys entries) (settled : reaped sys = true)
    {handle : BudgetHandle} (inside : handle ∈ sys.handles) :
    ∃ updated, Books { sys.withLocked handle.budget.pid handle.budget.drop with
        handles := sys.handles.filter fun other => other.budget.owner ≠ handle.budget.owner } updated ∧
      updated.Perm ((sys.handles.filter fun other =>
        other.budget.owner ≠ handle.budget.owner).map BudgetHandle.entry) := by
  set current := entries.filter fun entry => entry.pid ∈ sys.live with currentEq
  have exact : (current.filter fun entry =>
      ¬ (entry.owner = handle.budget.owner ∧ entry.pid = handle.budget.pid)).Perm
      ((sys.handles.filter fun other =>
        other.budget.owner ≠ handle.budget.owner).map BudgetHandle.entry) := by
    refine (books.exact.filter _).trans (List.Perm.of_eq ?_)
    rw [List.filter_map]
    congr 1
    apply List.filter_congr
    intro other member
    by_cases own : other.budget.owner = handle.budget.owner
    · obtain rfl := books.same_handle member inside own
      simp [BudgetHandle.entry]
    · simp [BudgetHandle.entry, own]
  refine ⟨_, (books.locked handle.budget.drop (books.running handle inside) settled rfl ?_ exact ?_ ?_).1,
    exact⟩
  · intro entry member
    exact books.printable entry (List.mem_of_mem_filter (List.mem_of_mem_filter member))
  · exact books.owners.sublist (List.filter_sublist.map _)
  · intro other member
    exact books.running other (List.mem_of_mem_filter member)

/-- Birth under an id that the file does not know leaves the books as they are. -/
theorem Books.spawned {entries : List Entry} (books : Books sys entries) {pid : UInt32} (positive : pid ≠ 0)
    (unknown : ∀ entry ∈ entries, entry.pid ≠ pid.toNat) :
    Books { sys with live := sys.live ++ [pid.toNat] } entries where
  printed := books.printed
  printable := books.printable
  exact := by
    have same : (entries.filter fun entry => entry.pid ∈ sys.live ++ [pid.toNat]) =
        entries.filter fun entry => entry.pid ∈ sys.live := by
      apply List.filter_congr
      intro entry member
      simp [unknown entry member]
    dsimp only
    rw [same]
    exact books.exact
  owners := books.owners
  running handle member := List.mem_append_left _ (books.running handle member)
  pids other member := by
    rcases List.mem_append.mp member with old | new
    · exact books.pids other old
    · rw [List.mem_singleton.mp new]
      refine ⟨fun zero => positive ?_, pid.toNat_lt⟩
      exact UInt32.toNat_inj.mp zero

/-- The entries of a process that ends are no longer those of a live one. -/
theorem Books.exited {entries : List Entry} (books : Books sys entries) (pid : Nat) :
    Books { sys with
      live := sys.live.filter (· ≠ pid)
      zombies := sys.zombies ++ [pid]
      handles := sys.handles.filter fun handle => handle.budget.pid ≠ pid } entries where
  printed := books.printed
  printable := books.printable
  exact := by
    have split : (entries.filter fun entry => entry.pid ∈ sys.live.filter (· ≠ pid)) =
        (entries.filter fun entry => entry.pid ∈ sys.live).filter fun entry => entry.pid ≠ pid := by
      rw [List.filter_filter]
      apply List.filter_congr
      intro entry _
      simp [List.mem_filter, and_comm]
    dsimp only
    rw [split]
    refine (books.exact.filter _).trans (List.Perm.of_eq ?_)
    rw [List.filter_map]
    rfl
  owners := books.owners.sublist (List.filter_sublist.map _)
  running handle member := by
    obtain ⟨inside, other⟩ := List.mem_filter.mp member
    exact List.mem_filter.mpr ⟨books.running handle inside, other⟩
  pids other member := books.pids other (List.mem_of_mem_filter member)

/-- The file lists exactly the open budgets after a locked update, and an admission learns by how much
they exceed the limit. -/
structure Exact (event : BudgetEvent) (next : BudgetSys) : Prop where
  entries : (CacheBudget.readEntries next.file).Perm (next.handles.map BudgetHandle.entry)
  owners : (next.handles.map fun handle => handle.budget.owner).Nodup
  excess : ∀ owner bytes, event = .admitBytes owner bytes →
    (next.handles.map BudgetHandle.balance).sum < 2 ^ 64 →
    ∃ handle ∈ next.handles, handle.budget.owner = owner ∧
      next.excess = (next.handles.map BudgetHandle.balance).sum - handle.budget.maxBytes

theorem Books.calledExact {entries : List Entry} (books : Books sys entries) (settled : reaped sys = true)
    {owner : String} {update : Nat → Nat} (small : ∀ balance, balance < 2 ^ 64 → update balance < 2 ^ 64)
    (called : sys.call owner update = some next) (event : BudgetEvent)
    (named : ∀ name bytes, event = .admitBytes name bytes → name = owner) :
    (∃ updated, Books next updated) ∧ Exact event next := by
  obtain ⟨updated, handle, after, exact, inside, rfl, excess⟩ := books.call settled small called
  refine ⟨⟨updated, after⟩, by rw [after.read]; exact exact, after.owners, fun name bytes same below => ?_⟩
  have sum : (updated.map Entry.bytes).sum = (next.handles.map BudgetHandle.balance).sum := by
    rw [(exact.map Entry.bytes).sum_eq, List.map_map]
    rfl
  refine ⟨handle, inside, (named name bytes same).symm, ?_⟩
  rw [excess, CacheBudget.total_eq, sum]
  omega

theorem satAdd_lt (first second : Nat) : satAdd first second < 2 ^ 64 := by
  rw [satAdd]
  omega

theorem step_exact {entries : List Entry} (books : Books sys entries) {event : BudgetEvent}
    (condition : unclaimed sys event = true) (stepped : step sys event = some next) :
    (∃ updated, Books next updated) ∧ (locks event = true → Exact event next) := by
  obtain ⟨waited, condition⟩ := Bool.and_eq_true_iff.mp condition
  have settled (locked : locks event = true) : reaped sys = true := by
    rw [locked] at waited
    exact waited
  cases event with
  | spawn pid =>
      simp only [step] at stepped
      split at stepped
      · cases stepped
      · rename_i free
        obtain rfl := Option.some.inj stepped
        rw [not_or] at free
        rw [books.read] at condition
        refine ⟨⟨entries, books.spawned free.1 ?_⟩, by simp [locks]⟩
        simpa using condition
  | exit pid =>
      simp only [step] at stepped
      split at stepped
      · cases stepped
      · obtain rfl := Option.some.inj stepped
        exact ⟨⟨entries, books.exited pid.toNat⟩, by simp [locks]⟩
  | reap pid =>
      obtain rfl := Option.some.inj stepped
      exact ⟨⟨entries, { books with }⟩, by simp [locks]⟩
  | openBudget pid owner maxBytes =>
      simp only [step] at stepped
      split at stepped
      · cases stepped
      · rename_i free
        split at stepped
        · rename_i skipped
          obtain rfl := Option.some.inj stepped
          refine ⟨⟨entries, books⟩, fun locked => ?_⟩
          simp only [locks, Bool.not_eq_true', Bool.or_eq_false_iff, decide_eq_false_iff_not] at locked
          rcases skipped with unlimited | tab | line
          · exact absurd unlimited locked.1.1
          · rw [tab] at locked
            cases locked.1.2
          · rw [line] at locked
            cases locked.2
        · rename_i valid
          obtain rfl := Option.some.inj stepped
          simp only [not_or, not_not, Option.not_isSome_iff_eq_none] at free
          simp only [not_or, List.contains_eq_mem, decide_eq_true_eq] at valid
          have locked : locks (.openBudget pid owner maxBytes) = true := by
            simp [locks, valid.1, valid.2.1, valid.2.2]
          have named : CacheBudget.nameable owner = true := by
            simpa [locked] using condition
          obtain ⟨updated, after, exact⟩ := books.opened (settled locked) ⟨maxBytes.toNat, owner, pid.toNat⟩
            free.1 free.2 valid.2.1 valid.2.2 named
          refine ⟨⟨updated, after⟩, fun _ => ⟨by rw [after.read]; exact exact, after.owners, ?_⟩⟩
          intro name bytes same
          cases same
  | reset owner bytes =>
      obtain ⟨after, exact⟩ := books.calledExact (settled rfl) (fun _ _ => bytes.toNat_lt) stepped (.reset owner bytes)
        (by simp)
      exact ⟨after, fun _ => exact⟩
  | admitBytes owner bytes =>
      obtain ⟨after, exact⟩ := books.calledExact (settled rfl) (fun _ _ => satAdd_lt _ _) stepped (.admitBytes owner bytes)
        (by simp_all)
      exact ⟨after, fun _ => exact⟩
  | release owner bytes =>
      obtain ⟨after, exact⟩ := books.calledExact (settled rfl) (fun balance small => by omega) stepped
        (.release owner bytes) (by simp)
      exact ⟨after, fun _ => exact⟩
  | drop owner =>
      obtain ⟨handle, found, rfl⟩ := Option.map_eq_some_iff.mp stepped
      obtain ⟨inside, rfl⟩ := handle?_some found
      obtain ⟨updated, after, exact⟩ := books.dropped (settled rfl) inside
      refine ⟨⟨updated, after⟩, fun _ => ⟨by rw [after.read]; exact exact, after.owners, ?_⟩⟩
      intro name bytes same
      cases same

theorem start_books : Books start [] where
  printed := rfl
  printable entry member := by cases member
  exact := List.Perm.refl _
  owners := List.nodup_nil
  running handle member := by cases member
  pids pid member := by cases member

/-- After every locked update the file lists each open budget of a live process once, with the balance of
its own calls, as long as no process is born under an id that the file still lists and the ended processes that it
lists have been waited for. -/
theorem budget_exact (events : List BudgetEvent) (sys next : BudgetSys) (event : BudgetEvent)
    (condition : along step unclaimed start events = true)
    (run : execute step start events = some sys) (allowed : unclaimed sys event = true)
    (stepped : step sys event = some next) (locked : locks event = true) : Exact event next := by
  have kept (state : BudgetSys) (each : BudgetEvent) (after : BudgetSys)
      (known : ∃ entries, Books state entries) (permitted : unclaimed state each = true)
      (taken : step state each = some after) : ∃ entries, Books after entries := by
    obtain ⟨entries, books⟩ := known
    exact (step_exact books permitted taken).1
  obtain ⟨entries, books⟩ := execute_invariant kept ⟨[], start_books⟩ condition run
  exact (step_exact books allowed stepped).2 locked

/-- A process crashes with a balance, its parent waits for it, and a second one opens a budget of its own. -/
def crashAndReopen (pid : UInt32) : List BudgetEvent :=
  [.spawn 7, .openBudget 7 "a" 4096, .admitBytes "a" 4096, .exit 7, .reap 7, .spawn pid, .openBudget pid "b" 4096]

/-- The entry of a crashed process stays in the file when its id is used again. -/
theorem reused_pid_leaks_balance :
    ∃ sys next, execute step start (crashAndReopen 7) = some sys ∧
      step sys (.admitBytes "b" 512) = some next ∧
      next.handles.map BudgetHandle.entry = [⟨"b", 7, 512⟩] ∧
      CacheBudget.readEntries next.file = [⟨"a", 7, 4096⟩, ⟨"b", 7, 512⟩] ∧ next.excess = 512 := by
  refine ⟨_, _, rfl, rfl, ?_⟩
  decide +kernel

theorem budget_exact_after_crash :
    ∃ sys next, execute step start (crashAndReopen 8) = some sys ∧
      step sys (.admitBytes "b" 512) = some next ∧ Exact (.admitBytes "b" 512) next := by
  obtain ⟨sys, next, run, stepped, condition, allowed⟩ : ∃ sys next,
      execute step start (crashAndReopen 8) = some sys ∧ step sys (.admitBytes "b" 512) = some next ∧
      along step unclaimed start (crashAndReopen 8) = true ∧ unclaimed sys (.admitBytes "b" 512) = true := by
    refine ⟨_, _, rfl, rfl, ?_⟩
    decide +kernel
  exact ⟨sys, next, run, stepped, budget_exact _ sys next _ condition run allowed stepped rfl⟩

end BudgetSys
end UblkAzblob
