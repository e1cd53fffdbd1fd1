import Mathlib.Algebra.GroupWithZero.Nat
import Mathlib.Tactic.Common

namespace Storage

/-- A chunk is the part of a request that lies in one page. -/
structure Chunk where
  page : Nat
  pageOffset : Nat
  pos : Nat
  len : Nat
  deriving DecidableEq, Repr

/-- The scan cuts the rest of a request at the next page boundary. -/
def chunksFrom (pageSize offset len : Nat) : Nat → Nat → List Chunk
  | 0, _ => []
  | fuel + 1, pos =>
      if pos < len then
        let absOffset := offset + pos
        let pageOffset := absOffset % pageSize
        let chunkLen := min (pageSize - pageOffset) (len - pos)
        ⟨absOffset / pageSize, pageOffset, pos, chunkLen⟩ ::
          chunksFrom pageSize offset len fuel (pos + chunkLen)
      else []

/-- The chunks split a request along page boundaries. -/
def chunks (pageSize offset len : Nat) : List Chunk :=
  chunksFrom pageSize offset len len 0

/-- A tiling covers the rest of a request, one page at a time. -/
inductive Tiles (pageSize offset len : Nat) : Nat → List Chunk → Prop where
  | done : Tiles pageSize offset len len []
  | next (chunk : Chunk) (rest : List Chunk)
      (start : chunk.page * pageSize + chunk.pageOffset = offset + chunk.pos)
      (within : chunk.pageOffset + chunk.len ≤ pageSize)
      (positive : 0 < chunk.len) (bounded : chunk.pos + chunk.len ≤ len)
      (cut : chunk.pageOffset + chunk.len = pageSize ∨ chunk.pos + chunk.len = len)
      (tail : Tiles pageSize offset len (chunk.pos + chunk.len) rest) :
      Tiles pageSize offset len chunk.pos (chunk :: rest)

theorem chunksFrom_tiles (pageSize offset len : Nat) (positive : 0 < pageSize) (fuel pos : Nat)
    (inside : pos ≤ len) (enough : len ≤ pos + fuel) :
    Tiles pageSize offset len pos (chunksFrom pageSize offset len fuel pos) := by
  induction fuel generalizing pos with
  | zero =>
      obtain rfl : pos = len := by omega
      exact .done
  | succ fuel ih =>
      rw [chunksFrom]
      split
      · rename_i more
        have room := Nat.mod_lt (offset + pos) positive
        have split := Nat.div_add_mod' (offset + pos) pageSize
        have chunkPositive : 0 < min (pageSize - (offset + pos) % pageSize) (len - pos) := by omega
        exact .next ⟨_, _, pos, _⟩ _ split (by dsimp only; omega) chunkPositive
          (by dsimp only; omega) (by dsimp only; omega) (ih _ (by dsimp only; omega) (by dsimp only; omega))
      · obtain rfl : pos = len := by omega
        exact .done

/-- The chunks of a request tile it from its first byte. -/
theorem chunks_tiles (pageSize offset len : Nat) (positive : 0 < pageSize) :
    Tiles pageSize offset len 0 (chunks pageSize offset len) :=
  chunksFrom_tiles pageSize offset len positive len 0 (Nat.zero_le _) (by omega)

/-- Every chunk of a tiling is a non-empty part of one page and of the request. -/
theorem Tiles.bounds {pageSize offset len pos : Nat} {pieces : List Chunk} {chunk : Chunk}
    (tiles : Tiles pageSize offset len pos pieces) (member : chunk ∈ pieces) :
    chunk.page * pageSize + chunk.pageOffset = offset + chunk.pos ∧
      chunk.pageOffset + chunk.len ≤ pageSize ∧ 0 < chunk.len ∧ chunk.pos + chunk.len ≤ len := by
  induction tiles with
  | done => cases member
  | next first rest start within positive bounded cut tail ih =>
      cases member with
      | head => exact ⟨start, within, positive, bounded⟩
      | tail _ later => exact ih later

/-- An offset inside a page is split back into the page and the rest. -/
theorem page_split {pageSize rest : Nat} (page : Nat) (inside : rest < pageSize) :
    (page * pageSize + rest) / pageSize = page ∧ (page * pageSize + rest) % pageSize = rest := by
  rw [Nat.mul_comm, Nat.mul_add_div (by omega), Nat.div_eq_of_lt inside, Nat.mul_add_mod,
    Nat.mod_eq_of_lt inside]
  exact ⟨rfl, rfl⟩

example : chunks 1024 512 2048 =
    [⟨0, 512, 0, 512⟩, ⟨1, 0, 512, 1024⟩, ⟨2, 0, 1536, 512⟩] := by decide

end Storage
