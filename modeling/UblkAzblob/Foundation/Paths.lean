import Mathlib.Algebra.GroupWithZero.Nat
import UblkAzblob.Foundation.TextTable
import Mathlib.Data.List.Infix

namespace Storage

/-- Empty segments and single dots do not name a component of a path. -/
def skippedSegment (segment : List Char) : Bool := segment = [] || segment = ['.']

/-- The path without its last component; the parent of the root is the root. -/
def parentOf (path : List Char) : List Char :=
  let front := (((fields '/' path).reverse.dropWhile skippedSegment).drop 1).dropWhile skippedSegment
  if front = [] then (if path = [] ∨ path.head? = some '/' then ['/'] else [])
  else ['/'].intercalate front.reverse

/-- The directory part of a joined path, up to its last slash. -/
def slashed (base : List Char) : List Char :=
  if base = [] ∨ base.getLast? = some '/' then base else base ++ ['/']

/-- A relative name is appended to a path. -/
def joinPath (base name : List Char) : List Char := slashed base ++ name

theorem slash_not_mem_fields {path segment : List Char} (member : segment ∈ fields '/' path) : '/' ∉ segment := by
  induction path generalizing segment with
  | nil =>
      obtain rfl : segment = [] := by simpa [fields] using member
      simp
  | cons char rest ih =>
      rw [fields] at member
      split at member
      · rcases List.mem_cons.mp member with rfl | later
        · simp
        · exact ih later
      · rename_i other
        split at member
        · rename_i empty
          exact absurd empty (fields_ne_nil _ _)
        · rename_i first more split
          rcases List.mem_cons.mp member with rfl | later
          · have plain := @ih first (by simp [split])
            rw [List.mem_cons, not_or]
            exact ⟨Ne.symm other, plain⟩
          · exact ih (by simp [split, later])

theorem getLast?_intercalate {separator : Char} {parts : List (List Char)} {last : List Char}
    (final : parts.getLast? = some last) (filled : last ≠ []) :
    ([separator].intercalate parts).getLast? = last.getLast? := by
  induction parts with
  | nil => cases final
  | cons part rest ih =>
      cases rest with
      | nil =>
          obtain rfl : part = last := by simpa using final
          simp
      | cons next more =>
          have tail := ih (by simpa using final)
          have nonempty : [separator].intercalate (next :: more) ≠ [] := by
            intro empty
            rw [empty] at tail
            exact filled (List.getLast?_eq_none_iff.mp tail.symm)
          rw [List.intercalate_cons_cons, List.append_assoc, List.singleton_append,
            List.getLast?_append_of_ne_nil _ (by simp), List.getLast?_cons_of_ne_nil nonempty, tail]

/-- A parent is the root, or empty below a relative path, or ends with a component. -/
theorem parentOf_cases (path : List Char) :
    parentOf path = ['/'] ∨ (parentOf path = [] ∧ path.head? ≠ some '/') ∨
      ∃ segment, (parentOf path).getLast? = segment.getLast? ∧ segment ≠ [] ∧ '/' ∉ segment := by
  unfold parentOf
  set front := (((fields '/' path).reverse.dropWhile skippedSegment).drop 1).dropWhile skippedSegment with frontEq
  cases front' : front with
  | nil =>
      rw [if_pos rfl]
      by_cases root : path = [] ∨ path.head? = some '/'
      · exact .inl (if_pos root)
      · rw [not_or] at root
        exact .inr (.inl ⟨if_neg (by simp [root]), root.2⟩)
  | cons segment rest =>
      have kept := List.head?_dropWhile_not skippedSegment
        (((fields '/' path).reverse.dropWhile skippedSegment).drop 1)
      rw [← frontEq, front'] at kept
      have filled : segment ≠ [] := by
        rintro rfl
        simp [skippedSegment] at kept
      have inside : segment ∈ front := by simp [front']
      have before := List.mem_of_mem_drop ((List.dropWhile_sublist skippedSegment).mem inside)
      have member := List.mem_reverse.mp ((List.dropWhile_sublist skippedSegment).mem before)
      refine .inr (.inr ⟨segment, ?_, filled, slash_not_mem_fields member⟩)
      rw [if_neg (by simp)]
      exact getLast?_intercalate (by simp) filled

/-- A parent does not end in a slash, unless it is the root. -/
theorem parentOf_slash {path : List Char} (ends : (parentOf path).getLast? = some '/') : parentOf path = ['/'] := by
  rcases parentOf_cases path with root | ⟨empty, _⟩ | ⟨segment, last, _, plain⟩
  · exact root
  · rw [empty] at ends
    cases ends
  · exact absurd (List.mem_of_getLast? (last.symm.trans ends)) plain

theorem parentOf_ne_nil {path : List Char} (absolute : path.head? = some '/') : parentOf path ≠ [] := by
  rcases parentOf_cases path with root | ⟨_, relative⟩ | ⟨segment, last, filled, _⟩
  · simp [root]
  · exact absurd absolute relative
  · intro empty
    rw [empty] at last
    exact filled (List.getLast?_eq_none_iff.mp last.symm)

/-- The part of a joined path after its last slash is the name. -/
theorem span_joinPath {base name : List Char} (plain : '/' ∉ name) :
    (joinPath base name).reverse.span (· ≠ '/') = (name.reverse, (slashed base).reverse) := by
  have stops : (slashed base).reverse = [] ∨ ∃ rest, (slashed base).reverse = '/' :: rest := by
    unfold slashed
    split
    · rename_i ends
      rcases ends with rfl | ends
      · exact .inl rfl
      · obtain ⟨front, rfl⟩ := List.getLast?_eq_some_iff.mp ends
        exact .inr ⟨front.reverse, by simp⟩
    · exact .inr ⟨base.reverse, by simp⟩
  have letters : ∀ char ∈ name.reverse, (fun char => decide (char ≠ '/')) char = true := by
    intro char member
    have other : char ≠ '/' := fun same => plain (same ▸ List.mem_reverse.mp member)
    simpa using other
  rw [joinPath, List.reverse_append, List.span_eq_takeWhile_dropWhile, List.takeWhile_append_of_pos letters,
    List.dropWhile_append_of_pos letters]
  rcases stops with empty | ⟨rest, slash⟩
  · simp [empty]
  · simp [slash]

/-- A joined path determines its directory and its name. -/
theorem joinPath_inj {first second name other : List Char} (plain : '/' ∉ name) (plainOther : '/' ∉ other)
    (firstEnd : first.getLast? = some '/' → first = ['/']) (secondEnd : second.getLast? = some '/' → second = ['/'])
    (same : joinPath first name = joinPath second other) : first = second ∧ name = other := by
  have spans := congrArg (fun path => path.reverse.span (· ≠ '/')) same
  simp only [span_joinPath plain, span_joinPath plainOther, Prod.mk.injEq, List.reverse_inj] at spans
  refine ⟨?_, spans.1⟩
  have dirs := spans.2
  unfold slashed at dirs
  by_cases firstRoot : first = [] ∨ first.getLast? = some '/'
  · rw [if_pos firstRoot] at dirs
    by_cases secondRoot : second = [] ∨ second.getLast? = some '/'
    · rwa [if_pos secondRoot] at dirs
    · rw [if_neg secondRoot] at dirs
      have root := firstEnd (by rw [dirs]; simp)
      have empty : second = [] := by
        have lengths := congrArg List.length (root.symm.trans dirs)
        exact List.length_eq_zero_iff.mp (by simpa using lengths.symm)
      exact absurd (.inl empty) secondRoot
  · rw [if_neg firstRoot] at dirs
    by_cases secondRoot : second = [] ∨ second.getLast? = some '/'
    · rw [if_pos secondRoot] at dirs
      have root := secondEnd (by rw [← dirs]; simp)
      have empty : first = [] := by
        have lengths := congrArg List.length (dirs.trans root)
        exact List.length_eq_zero_iff.mp (by simpa using lengths)
      exact absurd (.inl empty) firstRoot
    · rw [if_neg secondRoot] at dirs
      exact List.append_cancel_right dirs

theorem joinPath_suffix {base : List Char} (name : List Char) (filled : base ≠ []) :
    '/' :: name <:+ joinPath base name := by
  unfold joinPath slashed
  split
  · rename_i ends
    rcases ends with empty | ends
    · exact absurd empty filled
    · obtain ⟨front, rfl⟩ := List.getLast?_eq_some_iff.mp ends
      exact ⟨front, by simp⟩
  · exact ⟨base, by simp⟩

end Storage
