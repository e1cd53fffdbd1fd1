import Mathlib.Data.List.Nodup
import UblkAzblob.Proof.BufferBounds
import UblkAzblob.Proof.BufferLedger

namespace UblkAzblob
namespace BufferedBackend
open Storage

section Reads

variable {Inner : Type} [BlobBackend Inner] [SectorStore Inner] {buffer : BufferedBackend} {device : Nat}
variable {ledger : BufferLedger Inner}

theorem start_kept (buffer : BufferedBackend) {inner : Inner} (valid : SectorStore.valid inner) (clock : Nat) :
    Steady buffer (SectorStore.size inner) (.start inner clock (SectorStore.content inner)) where
  tidy := (start_refines buffer inner clock valid).tidy
  shelved := BufferState.empty_shelved _
  current _ _ _ := rfl
  uploads := ⟨fun page found present => (by cases present), fun page seq offset bytes member => (by cases member),
    fun page seq member => (by cases member), fun page seq offset bytes older member => (by cases member), List.nodup_nil⟩
  calls index call there := by cases there

/-- A flush in flight is the only one. -/
theorem flushing_unique {calls : List BufferCall} (few : calls.countP BufferCall.isFlushing ≤ 1) {first second : Nat}
    {one other : BufferCall} (thereFirst : calls[first]? = some one) (thereSecond : calls[second]? = some other)
    (flushesFirst : one.isFlushing = true) (flushesSecond : other.isFlushing = true) : first = second := by
  induction calls generalizing first second with
  | nil => cases thereFirst
  | cons call rest ih =>
      have alone (position : Nat) (flush : BufferCall) (head : call.isFlushing = true)
          (there : rest[position]? = some flush) (flushes : flush.isFlushing = true) : False := by
        have more : 0 < rest.countP BufferCall.isFlushing :=
          List.countP_pos_iff.mpr ⟨flush, List.mem_of_getElem? there, flushes⟩
        rw [List.countP_cons, if_pos head] at few
        omega
      cases first with
      | zero =>
          cases second with
          | zero => rfl
          | succ second =>
              obtain rfl := Option.some.inj thereFirst
              exact (alone second other flushesFirst thereSecond flushesSecond).elim
      | succ first =>
          cases second with
          | zero =>
              obtain rfl := Option.some.inj thereSecond
              exact (alone first one flushesSecond thereFirst flushesFirst).elim
          | succ second =>
              rw [List.countP_cons] at few
              exact congrArg Nat.succ (ih ((Nat.le_add_right _ _).trans few) thereFirst thereSecond)

/-- While one flush runs, no page has two uploads. -/
theorem snapshotAlone_of_oneFlush {turn : BufferTurn} (kept : Steady buffer device ledger)
    (single : oneFlush ledger turn = true) : buffer.snapshotAlone ledger turn = true := by
  unfold snapshotAlone
  split
  · rename_i index slot
    split
    · rename_i page own
      refine Bool.or_eq_true_iff.mpr (.inr (List.all_eq_true.mpr fun upload member => ?_))
      by_contra clash
      obtain ⟨here, writing⟩ : upload.1 = page ∧ upload.2.isWriting = true := by simpa using clash
      obtain ⟨call, found, there⟩ := Option.bind_eq_some_iff.mp own
      obtain ⟨other, listed, among⟩ := List.mem_flatMap.mp member
      obtain ⟨position, elsewhere⟩ := List.mem_iff_getElem?.mp listed
      have flushes (call : BufferCall) (upload : Nat × WritePhase) (inside : upload ∈ call.uploads) :
          call.isFlushing = true := by
        unfold BufferCall.uploads at inside
        unfold BufferCall.isFlushing
        split at inside
        · rfl
        · cases inside
      obtain rfl := flushing_unique (of_decide_eq_true single) found elsewhere
        (flushes _ _ (List.mem_of_getElem? there)) (flushes _ _ among)
      obtain rfl := Option.some.inj (found.symm.trans elsewhere)
      have same := List.inj_on_of_nodup_map (kept.calls _ _ found).distinct (List.mem_of_getElem? there) among here.symm
      rw [← same] at writing
      cases writing
    · rfl
  · rfl

/-- While at most one flush is in flight and every inserted page is fresh, a resident page shows the writes and clears
that were applied so far, and so does every chunk that is copied out of it. -/
theorem copies_current (buffer : BufferedBackend) (inner : Inner) (valid : SectorStore.valid inner) (clock : Nat)
    {turns : List BufferTurn} (allowed : along buffer.record (fun ledger turn => oneFlush ledger turn &&
      freshInsert ledger turn && countsOn ledger turn) (.start inner clock (SectorStore.content inner)) turns = true)
    (run : execute buffer.record (.start inner clock (SectorStore.content inner)) turns = some ledger) :
    (∀ page found, ledger.sys.world.state.pages.find? page = some found →
      Shows buffer (SectorStore.size inner) page found.data (ledger.version ledger.applied)) ∧
    ∀ (index : Nat) (call : BufferCall) (chunk : Chunk) (bytes : List UInt8) (state : BufferState),
      ledger.sys.calls[index]? = some call → chunk ∈ call.pieces →
      ledger.sys.world.state.copyOut buffer.config chunk.page chunk.pageOffset chunk.len = some (bytes, state) →
        bytes = slice (ledger.version ledger.applied) (chunk.page * buffer.config.pageSize + chunk.pageOffset) chunk.len := by
  have kept : Steady buffer (SectorStore.size inner) ledger := by
    refine execute_invariant (fun ledger turn next kept condition taken => ?_) (start_kept buffer valid clock) allowed run
    obtain ⟨calm, counts⟩ := Bool.and_eq_true_iff.mp condition
    obtain ⟨single, fresh⟩ := Bool.and_eq_true_iff.mp calm
    exact (record_kept kept (snapshotAlone_of_oneFlush kept single) fresh counts taken).1
  refine ⟨fun page found present x inside own => ?_, fun index call chunk bytes state found member copied => ?_⟩
  · have shown : buffer.contents ledger.sys.world x = byteAt found.data (x % buffer.config.pageSize) := by
      simp only [BufferedBackend.contents, own, present]
    rw [← shown]
    exact kept.current x (Nat.zero_le _) inside
  · obtain ⟨_, _, offset, len, _, fits, bounded, inside⟩ := (kept.calls index call found).chunks chunk member
    cases present : ledger.sys.world.state.pages.find? chunk.page with
    | none =>
        rw [BufferState.copyOut, present] at copied
        cases copied
    | some resident =>
        obtain ⟨other, same, _⟩ := copyOut_spec kept.tidy present fits.within
        obtain ⟨rfl, _⟩ := Prod.mk.inj (Option.some.inj (copied.symm.trans same))
        refine slice_congr (kept.current.mono (Nat.zero_le _) ?_)
        rw [fits.start]
        omega

/-- A page is written and then read. -/
def writeThenRead : List BufferTurn :=
  [.issue (.write 512 (List.replicate 512 7))] ++ List.replicate 7 (.call 0) ++ [.issue (.read 512 512), .call 1, .call 1]

theorem copies_current_write_then_read :
    ∃ ledger, execute narrowBuffer.record (.start (⟨1024, fun _ => 0⟩ : MemBackend) 0 fun _ => 0) writeThenRead =
        some ledger ∧
      ∀ page found, ledger.sys.world.state.pages.find? page = some found →
        Shows narrowBuffer 1024 page found.data (ledger.version ledger.applied) := by
  obtain ⟨ledger, run⟩ := Option.isSome_iff_exists.mp (show (execute narrowBuffer.record
    (.start (⟨1024, fun _ => 0⟩ : MemBackend) 0 fun _ => 0) writeThenRead).isSome = true by decide +kernel)
  have valid : SectorStore.valid (⟨1024, fun _ => 0⟩ : MemBackend) := ⟨rfl, (by decide : 1024 < 2 ^ 64)⟩
  exact ⟨ledger, run, (copies_current narrowBuffer (⟨1024, fun _ => 0⟩ : MemBackend) valid 0
    (show along narrowBuffer.record (fun ledger turn => oneFlush ledger turn && freshInsert ledger turn &&
        countsOn ledger turn) (.start (⟨1024, fun _ => 0⟩ : MemBackend) 0 fun _ => 0) writeThenRead = true by
      decide +kernel) run).1⟩

/-- One call reads a page and is left behind; the page is written, flushed and evicted before the call inserts it. -/
def staleInsert : List BufferTurn :=
  [.issue (.read 0 512)] ++ List.replicate 4 (.call 0) ++
    [.issue (.write 0 (List.replicate 512 7))] ++ List.replicate 6 (.call 1) ++
    [.issue .flush, .call 2, .call 2] ++ List.replicate 3 (.upload 2 0) ++ [.call 2, .call 2] ++
    [.issue (.read 512 512)] ++ List.replicate 4 (.call 3) ++ [.call 0]

/-- The first call is about to copy its chunk out of a clean page, and the bytes are not those that were written. -/
def copiesStale (ledger : BufferLedger MemBackend) : Bool :=
  match ledger.sys.calls[0]?, ledger.sys.world.state.pages.find? 0,
      ledger.sys.world.state.copyOut narrowBuffer.config 0 0 512 with
  | some call, some found, some (bytes, _) => call.pieces = [⟨0, 0, 0, 512⟩] && !found.dirty &&
      byteAt found.data 0 = 0 && ledger.version ledger.applied 0 = 7 && byteAt bytes 0 = 0
  | _, _, _ => false

theorem copies_current_evicted :
    ∃ ledger found call bytes state,
      execute narrowBuffer.record (.start (⟨1024, fun _ => 0⟩ : MemBackend) 0 fun _ => 0) staleInsert = some ledger ∧
      along narrowBuffer.record oneFlush (.start (⟨1024, fun _ => 0⟩ : MemBackend) 0 fun _ => 0) staleInsert = true ∧
      ledger.sys.world.state.pages.find? 0 = some found ∧ found.dirty = false ∧
      ¬ Shows narrowBuffer 1024 0 found.data (ledger.version ledger.applied) ∧
      ledger.sys.calls[0]? = some call ∧ (⟨0, 0, 0, 512⟩ : Chunk) ∈ call.pieces ∧
      ledger.sys.world.state.copyOut narrowBuffer.config 0 0 512 = some (bytes, state) ∧
      bytes ≠ slice (ledger.version ledger.applied) 0 512 := by
  have stale : (execute narrowBuffer.record (.start (⟨1024, fun _ => 0⟩ : MemBackend) 0 fun _ => 0) staleInsert).any
    copiesStale = true := by decide +kernel
  obtain ⟨ledger, run, shown⟩ := (Option.any_eq_true _ _).mp stale
  unfold copiesStale at shown
  split at shown
  · rename_i call found bytes state there present copied
    simp only [Bool.and_eq_true, decide_eq_true_eq, Bool.not_eq_true'] at shown
    obtain ⟨⟨⟨⟨pieces, clean⟩, old⟩, written⟩, taken⟩ := shown
    refine ⟨ledger, found, call, bytes, state, run, by decide +kernel, present, clean, fun shows => ?_, there,
      by rw [pieces]; exact List.mem_cons_self, copied, fun same => ?_⟩
    · have first := shows 0 (by decide) rfl
      rw [written] at first
      exact absurd (old.symm.trans first) (by decide)
    · rw [same, byteAt_slice, if_pos (by decide), written] at taken
      exact absurd taken (by decide)
  · cases shown

end Reads

end BufferedBackend
end UblkAzblob
