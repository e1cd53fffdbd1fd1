import Mathlib.Algebra.GroupWithZero.Nat
import UblkAzblob.Foundation.OrderedMap
import Mathlib.Data.Nat.Basic

namespace UblkAzblob
open Storage

/-- The recency clock stamps every present page; clean pages are also kept in stamp order. -/
structure Lru where
  seq : Nat
  byPage : OrderedMap Nat Nat
  evictable : OrderedMap Nat Nat

namespace Lru

def empty : Lru := ⟨0, .empty, .empty⟩

def contains (lru : Lru) (page : Nat) : Bool := lru.byPage.contains page

/-- The old stamp of a page leaves the evictable order. -/
def unstamp (lru : Lru) (page : Nat) : OrderedMap Nat Nat :=
  match lru.byPage.find? page with
  | some old => lru.evictable.erase old
  | none => lru.evictable

/-- An access gives the page a new stamp and makes it evictable exactly when it is clean. -/
def touch (lru : Lru) (page : Nat) (clean : Bool) : Lru :=
  let evictable := lru.unstamp page
  let stamp := lru.seq + 1
  { seq := stamp
    byPage := lru.byPage.insert page stamp
    evictable := if clean then evictable.insert stamp page else evictable }

/-- Creating or deleting the device starts the order again. -/
def clear (lru : Lru) : Lru := { lru with seq := 0, byPage := .empty, evictable := .empty }

/-- The victim is the evictable page with the oldest stamp, except the protected one. -/
def popLru (lru : Lru) (protect : Option Nat) : Option Nat × Lru :=
  match lru.evictable.entries.find? fun entry => some entry.2 ≠ protect with
  | none => (none, lru)
  | some (key, page) =>
      (some page, { lru with
        evictable := lru.evictable.erase key
        byPage := lru.byPage.erase page })

end Lru
end UblkAzblob
