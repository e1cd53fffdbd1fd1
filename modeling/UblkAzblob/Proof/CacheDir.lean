import UblkAzblob.Construction.CacheDir
import UblkAzblob.Proof.Mounts

namespace UblkAzblob
open Storage

/-- The sanitized name keeps this character and gives it to no other. -/
def plainCacheChar (char : Char) : Bool := char.isAlphanum || char = '-'

/-- Two characters have one image exactly when they are equal or neither is a letter, a digit or a hyphen. -/
theorem sanitizeCacheChar_eq_iff (first second : Char) :
    sanitizeCacheChar first = sanitizeCacheChar second ↔
      first = second ∨ plainCacheChar first = false ∧ plainCacheChar second = false := by
  have underscore (char : Char) (same : char = '_') : char.isAlphanum = false ∧ char ≠ '-' := by
    subst same
    decide
  have := underscore first
  have := underscore second
  unfold sanitizeCacheChar plainCacheChar
  grind

/-- Two texts differ in length, or at a position where one of them has a letter, a digit or a hyphen. -/
def DifferPlainly (first second : List Char) : Prop :=
  first.length ≠ second.length ∨ ∃ (index : Nat) (left right : Char), first[index]? = some left ∧ second[index]? = some right ∧
    left ≠ right ∧ (plainCacheChar left = true ∨ plainCacheChar right = true)

theorem map_sanitizeCacheChar_ne_iff (first second : List Char) :
    first.map sanitizeCacheChar ≠ second.map sanitizeCacheChar ↔ DifferPlainly first second := by
  constructor
  · intro differ
    by_cases lengths : first.length = second.length
    · right
      obtain ⟨index, unequal⟩ : ∃ index, (first.map sanitizeCacheChar)[index]? ≠
          (second.map sanitizeCacheChar)[index]? := by
        by_contra same
        push Not at same
        exact differ (List.ext_getElem? same)
      rw [List.getElem?_map, List.getElem?_map] at unequal
      by_cases inside : index < first.length
      · have within : index < second.length := lengths ▸ inside
        rw [List.getElem?_eq_getElem inside, List.getElem?_eq_getElem within] at unequal
        have images : ¬ sanitizeCacheChar first[index] = sanitizeCacheChar second[index] := by simpa using unequal
        rw [sanitizeCacheChar_eq_iff] at images
        refine ⟨index, first[index], second[index], List.getElem?_eq_getElem inside,
          List.getElem?_eq_getElem within, ?_⟩
        grind
      · rw [List.getElem?_eq_none (by omega), List.getElem?_eq_none (by omega)] at unequal
        exact absurd rfl unequal
    · exact .inl lengths
  · intro differ same
    rcases differ with lengths | ⟨index, left, right, leftAt, rightAt, unequal, plain⟩
    · exact lengths (by simpa using congrArg List.length same)
    · have images := congrArg (·[index]?) same
      simp only [List.getElem?_map, leftAt, rightAt, Option.map_some, Option.some.injEq,
        sanitizeCacheChar_eq_iff] at images
      grind

namespace Location

/-- The text that is sanitized into the default cache name. -/
def cacheText (location : Location) : List Char := s!"{location.container}-{location.blob}".toList

theorem defaultCacheName_ne_iff (first second : Location) :
    first.defaultCacheName ≠ second.defaultCacheName ↔ DifferPlainly first.cacheText second.cacheText := by
  rw [← map_sanitizeCacheChar_ne_iff]
  unfold defaultCacheName cacheFileName sanitizeCacheComponent cacheText
  rw [Ne, Ne, String.ofList_inj]

end Location

namespace CacheDir

/-- Whatever a mount of the first location leaves behind, a mount of the second recovers, answers and stores the
    same. -/
def Isolated (first second : Location) : Prop :=
  ∀ (Inner : Type) [BlobBackend Inner] (dir : CacheDir Inner) (files : CacheFiles) (blob : Inner)
    (options : RunOptions) (requests : List Request),
    (run options second requests (dir.leave first.defaultCacheName first files blob)).1 =
        (run options second requests dir).1 ∧
      (run options second requests (dir.leave first.defaultCacheName first files blob)).2.blobs second =
        (run options second requests dir).2.blobs second

@[simp] theorem leave_blobs {Inner : Type} (dir : CacheDir Inner) (name : String) (location : Location)
    (files : CacheFiles) (blob : Inner) : (dir.leave name location files blob).blobs location = blob :=
  Function.update_self _ _ _

/-- A run depends only on the files of its name and the blob of its location. -/
theorem isolated_of_names {first second : Location} (different : first ≠ second)
    (names : first.defaultCacheName ≠ second.defaultCacheName) : Isolated first second := by
  intro Inner _ dir files blob options requests
  have kept : (dir.leave first.defaultCacheName first files blob).files second.defaultCacheName =
      dir.files second.defaultCacheName := Function.update_of_ne (Ne.symm names) _ _
  have same : (dir.leave first.defaultCacheName first files blob).blobs second = dir.blobs second :=
    Function.update_of_ne (Ne.symm different) _ _
  simp only [run, kept, same, leave_blobs, and_self]

/-- Two locations have caches of their own exactly when their container and blob names differ plainly. -/
theorem default_cache_separate_iff (first second : Location) (different : first ≠ second) :
    (first.defaultCacheName ≠ second.defaultCacheName ∧ Isolated first second) ↔
      DifferPlainly first.cacheText second.cacheText := by
  rw [← Location.defaultCacheName_ne_iff]
  constructor
  · intro separate
    exact separate.1
  · intro names
    exact ⟨names, isolated_of_names different names⟩

def dottedDisk : Location := ⟨"account", "disks", "vm.1", none⟩

def scoredDisk : Location := ⟨"account", "disks", "vm_1", none⟩

def smallPages : RunOptions := ⟨512, 0, FileCacheBackend.calmHost, [], 0⟩

/-- Both disks are zero and the cache directory is empty. -/
def blankDisks : CacheDir MemBackend := ⟨fun _ => .empty, fun _ => ⟨512, fun _ => 0⟩⟩

/-- A page written to one disk and not flushed is uploaded to the other disk by its next mount. -/
theorem dirty_page_uploaded_to_other_disk :
    dottedDisk ≠ scoredDisk ∧ dottedDisk.defaultCacheName = scoredDisk.defaultCacheName ∧
      let left := (run smallPages dottedDisk [.write 0 (List.replicate 512 7)] blankDisks).2
      let mounted := run smallPages scoredDisk [] left
      mounted.1 = .ok (1, []) ∧ (mounted.2.blobs scoredDisk).data 0 = 7 ∧ (mounted.2.blobs dottedDisk).data 0 = 0 := by
  refine ⟨by decide, by decide +kernel, ?_⟩
  decide +kernel

theorem default_cache_separate_iff_plain :
    dottedDisk ≠ { dottedDisk with blob := "vm-2" } ∧
      Isolated dottedDisk { dottedDisk with blob := "vm-2" } :=
  ⟨by decide, ((default_cache_separate_iff dottedDisk { dottedDisk with blob := "vm-2" } (by decide)).mpr
    (.inr ⟨8, '.', '-', by decide +kernel, by decide +kernel, by decide, by decide⟩)).2⟩

end CacheDir
end UblkAzblob
