import UblkAzblob.Construction.TemplateCopy
import UblkAzblob.Foundation.Interleaving
import UblkAzblob.Proof.PageBlob

namespace UblkAzblob
open Storage

section Map

/-- A map of the source lists its data in order, without overlaps, and leaves out only zeros. -/
def MapCovers (ranges : Option (List (Nat × Nat))) (source : Store) (total : Nat) : Prop :=
  ∀ listed, ranges = some listed →
    (listed.Pairwise fun first second => first.1 + first.2 ≤ second.1) ∧ (∀ range ∈ listed, 0 < range.2) ∧
      ∀ x, x < total → source x ≠ 0 → ∃ range ∈ listed, range.1 ≤ x ∧ x < range.1 + range.2

/-- A range that meets the request is found, because the last one before the end of the request ends after it. -/
theorem rangeIntersects_of_mem {ranges : List (Nat × Nat)} {offset len x : Nat} {range : Nat × Nat}
    (sorted : ranges.Pairwise fun first second => first.1 + first.2 ≤ second.1) (member : range ∈ ranges)
    (start : range.1 ≤ x) (stop : x < range.1 + range.2) (low : offset ≤ x) (high : x < offset + len) :
    rangeIntersects ranges offset len = true := by
  set before := ranges.takeWhile fun range => range.1 < offset + len with beforeEq
  obtain ⟨early, late, split⟩ := List.append_of_mem member
  rw [split] at sorted
  have front : early ++ [range] <+: before := by
    rw [beforeEq, split]
    have all : ∀ other ∈ early ++ [range], (fun range : Nat × Nat => decide (range.1 < offset + len)) other = true := by
      intro other inside
      rcases List.mem_append.mp inside with earlier | same
      · have ordered := (List.pairwise_append.mp sorted).2.2 other earlier range List.mem_cons_self
        exact decide_eq_true (by omega)
      · rw [List.mem_singleton.mp same]
        exact decide_eq_true (by omega)
    have whole : early ++ range :: late = (early ++ [range]) ++ late := by simp
    rw [whole, List.takeWhile_append_of_pos all]
    exact List.prefix_append _ _
  obtain ⟨rest, joined⟩ := front
  have counted : before.length = early.length + 1 + rest.length := by
    rw [← joined, List.length_append, List.length_append, List.length_singleton]
  have listed : ranges[before.length - 1]? = before[before.length - 1]? := by
    obtain ⟨tail, whole⟩ : before <+: ranges := List.takeWhile_prefix _
    rw [← whole, List.getElem?_append_left (by omega)]
  have last : ∃ final, before[before.length - 1]? = some final ∧ range.1 + range.2 ≤ final.1 + final.2 := by
    cases rest with
    | nil =>
        refine ⟨range, ?_, Nat.le_refl _⟩
        rw [counted, ← joined]
        simp
    | cons next more =>
        have final : before.getLast? = (next :: more).getLast? := by
          rw [← joined, List.getLast?_append_of_ne_nil _ (by simp)]
        obtain ⟨last, found⟩ := Option.isSome_iff_exists.mp (List.getLast?_isSome.mpr (List.cons_ne_nil next more))
        have inside : last ∈ next :: more := List.mem_of_getLast? found
        have later : last ∈ late := by
          have initial : before <+: ranges := List.takeWhile_prefix _
          rw [split, ← joined] at initial
          obtain ⟨tail, whole⟩ := initial
          have same : next :: more ++ tail = late := by simpa using whole
          rw [← same]
          exact List.mem_append_left _ inside
        have ordered := (List.pairwise_cons.mp (List.pairwise_append.mp sorted).2.1).1 last later
        refine ⟨last, ?_, by omega⟩
        rw [← List.getLast?_eq_getElem?, final, found]
  obtain ⟨final, at', ends⟩ := last
  unfold rangeIntersects
  rw [if_neg (by omega)]
  simp only [← beforeEq]
  rw [if_neg (by omega), listed, at']
  simp only [decide_eq_true_eq]
  omega

/-- A chunk that the map leaves out is zero in the source. -/
theorem chunk_zero {ranges : Option (List (Nat × Nat))} {source : Store} {total offset len : Nat}
    (covers : MapCovers ranges source total) (gap : chunkIsData ranges offset len = false)
    (inside : offset + len ≤ total) {x : Nat} (low : offset ≤ x) (high : x < offset + len) : source x = 0 := by
  unfold chunkIsData at gap
  cases ranges with
  | none => cases gap
  | some listed =>
      obtain ⟨sorted, _, covered⟩ := covers listed rfl
      by_contra nonzero
      obtain ⟨range, member, start, stop⟩ := covered x (by omega) nonzero
      exact absurd (rangeIntersects_of_mem sorted member start stop low high) (by simp [gap])

end Map

section Chunks

variable {env : CopyEnv} {source : Store} {total : Nat} {ranges : Option (List (Nat × Nat))}

theorem copyChunkBytes_pos (env : CopyEnv) : 0 < copyChunkBytes env := by
  unfold copyChunkBytes maxPageRequestBytes
  split <;> omega

/-- A clear of a range that is zero in the source copies it. -/
theorem zeroed_eq_copy {store source : Store} {offset len : Nat}
    (zero : ∀ x, offset ≤ x → x < offset + len → source x = 0) :
    zeroed store offset len = splice store offset (slice source offset len) := by
  funext x
  rw [splice_slice, zeroed]
  split
  · rename_i inside
    exact (zero x inside.1 inside.2).symm
  · rfl

/-- Every chunk copies its range of the source, whether it is copied or cleared. -/
theorem perform_copies (covers : MapCovers ranges source total) {index : Nat} (dest : PageBlob) :
    (copyChunk env total ranges index).perform source dest =
      dest.put (copyChunk env total ranges index).offset
        (slice source (copyChunk env total ranges index).offset (copyChunk env total ranges index).len) := by
  unfold CopyChunk.perform
  cases data : (copyChunk env total ranges index).isData with
  | true => rfl
  | false =>
      rw [if_neg (by decide), PageBlob.clear, PageBlob.put, zeroed_eq_copy]
      intro x low high
      have gap : chunkIsData ranges (copyChunk env total ranges index).offset
          (copyChunk env total ranges index).len = false := data
      refine chunk_zero covers gap ?_ low high
      simp only [copyChunk] at high low ⊢
      omega

/-- Every byte is in one of the chunks. -/
theorem chunk_of_byte (env : CopyEnv) (ranges : Option (List (Nat × Nat))) {total x : Nat} (inside : x < total) :
    ∃ index, index < PageCopy.chunkCount env total ∧ (copyChunk env total ranges index).offset ≤ x ∧
      x < (copyChunk env total ranges index).offset + (copyChunk env total ranges index).len := by
  have positive := copyChunkBytes_pos env
  refine ⟨x / copyChunkBytes env, ?_, Nat.div_mul_le_self _ _, ?_⟩
  · unfold PageCopy.chunkCount
    rw [Nat.div_lt_iff_lt_mul positive]
    have rounded : total ≤ (total + copyChunkBytes env - 1) / copyChunkBytes env * copyChunkBytes env := by
      have whole := Nat.div_add_mod (total + copyChunkBytes env - 1) (copyChunkBytes env)
      have small := Nat.mod_lt (total + copyChunkBytes env - 1) positive
      rw [Nat.mul_comm] at whole
      omega
    omega
  · have upper : x < x / copyChunkBytes env * copyChunkBytes env + copyChunkBytes env := Nat.lt_div_mul_add positive
    simp only [copyChunk]
    omega

end Chunks

section ServerSide

variable {env : CopyEnv} {source : Store} {total : Nat} {ranges : Option (List (Nat × Nat))} {base : PageBlob}
  {copy next : PageCopy}

/-- The chunks that were performed are copied, nothing else is changed, and what was sent is performed or in flight. -/
structure Copying (env : CopyEnv) (source : Store) (total : Nat) (ranges : Option (List (Nat × Nat)))
    (base : PageBlob) (copy : PageCopy) : Prop where
  size : copy.dest.size = base.size
  beyond : ∀ x, total ≤ x → copy.dest.data x = base.data x
  copied : ∀ index ∈ copy.performed, ∀ x, (copyChunk env total ranges index).offset ≤ x →
    x < (copyChunk env total ranges index).offset + (copyChunk env total ranges index).len →
      copy.dest.data x = source x
  tracked : ∀ index, index < copy.sent →
    index ∈ copy.performed ∨ ∃ batch, copy.batch = some batch ∧ index ∈ batch.inFlight
  finished : copy.outcome = some (.ok ()) → ∀ index, index < PageCopy.chunkCount env total → index ∈ copy.performed

namespace Copying

theorem begin (env : CopyEnv) (source : Store) (total : Nat) (ranges : Option (List (Nat × Nat))) (base : PageBlob) :
    Copying env source total ranges base (PageCopy.begin total base) where
  size := rfl
  beyond _ _ := rfl
  copied _ member := by cases member
  tracked index early := absurd early (Nat.not_lt_zero index)
  finished ok := by
    unfold PageCopy.begin at ok
    dsimp only at ok
    split at ok
    · cases ok
    · cases ok

/-- With no batch under way, every chunk that was sent is performed. -/
theorem settled (copying : Copying env source total ranges base copy) (idle : copy.batch = none) {index : Nat}
    (early : index < copy.batchStart) : index ∈ copy.performed := by
  have counted : index < copy.sent := by
    rw [PageCopy.sent, idle]
    exact early
  rcases copying.tracked index counted with done | ⟨batch, active, _⟩
  · exact done
  · cases idle.symm.trans active

theorem mint {token : Except Error Unit} (copying : Copying env source total ranges base copy)
    (taken : copy.step env source total ranges (.mint token) = some next) :
    Copying env source total ranges base next := by
  simp only [PageCopy.step] at taken
  split at taken
  · rename_i running idle
    split at taken
    · obtain rfl := Option.some.inj taken
      refine ⟨copying.size, copying.beyond, copying.copied, fun index early => ?_, fun ok => ?_⟩
      · exact .inl (copying.settled idle early)
      · cases running.symm.trans ok
    · cases taken
  · split at taken
    · obtain rfl := Option.some.inj taken
      exact ⟨copying.size, copying.beyond, copying.copied, copying.tracked, fun ok => by cases ok⟩
    · cases taken
  · cases taken

theorem send (copying : Copying env source total ranges base copy)
    (taken : copy.step env source total ranges .send = some next) : Copying env source total ranges base next := by
  rw [PageCopy.step] at taken
  split at taken
  · rename_i batch running active
    split at taken
    · obtain rfl := Option.some.inj taken
      refine ⟨copying.size, copying.beyond, copying.copied, fun index early => ?_, fun ok => ?_⟩
      · by_cases newest : index = batch.next
        · exact .inr ⟨_, rfl, by simp [newest]⟩
        · have counted : index < copy.sent := by
            rw [PageCopy.sent, active]
            have bound : index < batch.next + 1 := early
            dsimp only
            omega
          rcases copying.tracked index counted with done | ⟨other, same, flying⟩
          · exact .inl done
          · obtain rfl := Option.some.inj (active.symm.trans same)
            exact .inr ⟨_, rfl, List.mem_append_left _ flying⟩
      · cases running.symm.trans ok
    · cases taken
  · cases taken

theorem perform {index : Nat} (covers : MapCovers ranges source total)
    (copying : Copying env source total ranges base copy)
    (taken : copy.step env source total ranges (.perform index) = some next) :
    Copying env source total ranges base next := by
  rw [PageCopy.step] at taken
  split at taken
  · obtain rfl := Option.some.inj taken
    have within {x : Nat} (low : (copyChunk env total ranges index).offset ≤ x)
        (high : x < (copyChunk env total ranges index).offset + (copyChunk env total ranges index).len) :
        x < total := by
      simp only [copyChunk] at low high
      omega
    refine ⟨?_, fun x outside => ?_, fun other member x low high => ?_, fun other early => ?_, fun ok other early => ?_⟩
    · rw [perform_copies covers]
      exact copying.size
    · rw [perform_copies covers, PageBlob.put]
      dsimp only
      rw [splice_slice, if_neg]
      · exact copying.beyond x outside
      · rintro ⟨low, high⟩
        exact absurd (within low high) (by omega)
    · rw [perform_copies covers, PageBlob.put]
      dsimp only
      rw [splice_slice]
      split
      · rfl
      · rename_i outside
        rcases List.mem_append.mp member with earlier | same
        · exact copying.copied other earlier x low high
        · rw [List.mem_singleton.mp same] at low high
          exact absurd ⟨low, high⟩ outside
    · rcases copying.tracked other early with done | flying
      · exact .inl (List.mem_append_left _ done)
      · exact .inr flying
    · exact List.mem_append_left _ (copying.finished ok other early)
  · cases taken

theorem answer {index : Nat} (copying : Copying env source total ranges base copy)
    (taken : copy.step env source total ranges (.answer index) = some next) :
    Copying env source total ranges base next := by
  rw [PageCopy.step] at taken
  split at taken
  · rename_i batch running active
    split at taken
    · rename_i answered
      obtain rfl := Option.some.inj taken
      refine ⟨copying.size, copying.beyond, copying.copied, fun other early => ?_, fun ok => ?_⟩
      · have counted : other < copy.sent := by
          rw [PageCopy.sent, active]
          exact early
        rcases copying.tracked other counted with done | ⟨found, same, flying⟩
        · exact .inl done
        · obtain rfl := Option.some.inj (active.symm.trans same)
          by_cases this : other = index
          · rw [this]
            exact .inl answered.2
          · exact .inr ⟨_, rfl, (List.mem_erase_of_ne this).mpr flying⟩
      · cases running.symm.trans ok
    · cases taken
  · cases taken

theorem refuse {index : Nat} {error : Error} (copying : Copying env source total ranges base copy)
    (taken : copy.step env source total ranges (.refuse index error) = some next) :
    Copying env source total ranges base next := by
  rw [PageCopy.step] at taken
  split at taken
  · dsimp only at taken
    split at taken
    · obtain rfl := Option.some.inj taken
      exact ⟨copying.size, copying.beyond, copying.copied, copying.tracked, fun ok => by cases ok⟩
    · cases taken
  · cases taken

theorem finishBatch (copying : Copying env source total ranges base copy)
    (taken : copy.step env source total ranges .finishBatch = some next) :
    Copying env source total ranges base next := by
  rw [PageCopy.step] at taken
  split at taken
  · rename_i batch running active
    split at taken
    · rename_i drained
      obtain rfl := Option.some.inj taken
      refine ⟨copying.size, copying.beyond, copying.copied, fun index early => ?_, fun ok => ?_⟩
      · have counted : index < copy.sent := by
          rw [PageCopy.sent, active]
          have bound : index < batch.limit := early
          dsimp only
          omega
        rcases copying.tracked index counted with done | ⟨found, same, flying⟩
        · exact .inl done
        · obtain rfl := Option.some.inj (active.symm.trans same)
          rw [drained.2] at flying
          cases flying
      · cases running.symm.trans ok
    · cases taken
  · cases taken

theorem finish (copying : Copying env source total ranges base copy)
    (taken : copy.step env source total ranges .finish = some next) : Copying env source total ranges base next := by
  rw [PageCopy.step] at taken
  split at taken
  · rename_i running idle
    split at taken
    · rename_i counted
      obtain rfl := Option.some.inj taken
      exact ⟨copying.size, copying.beyond, copying.copied, copying.tracked,
        fun _ index early => copying.settled idle (by omega)⟩
    · cases taken
  · cases taken

/-- Every event keeps the account of the copy. -/
theorem step (covers : MapCovers ranges source total) (copy : PageCopy) (event : CopyEvent) (next : PageCopy)
    (copying : Copying env source total ranges base copy)
    (taken : copy.step env source total ranges event = some next) : Copying env source total ranges base next := by
  cases event with
  | mint token => exact copying.mint taken
  | send => exact copying.send taken
  | perform index => exact copying.perform covers taken
  | answer index => exact copying.answer taken
  | refuse index error => exact copying.refuse taken
  | finishBatch => exact copying.finishBatch taken
  | finish => exact copying.finish taken

/-- A copy that returned is exact. -/
theorem exact_of_ok (copying : Copying env source total ranges base copy) (ok : copy.outcome = some (.ok ())) :
    copy.dest = base.put 0 (slice source 0 total) := by
  have data : copy.dest.data = splice base.data 0 (slice source 0 total) := by
    funext x
    rw [splice_slice]
    split
    · rename_i inside
      obtain ⟨index, counted, low, high⟩ := chunk_of_byte env ranges (show x < total by omega)
      exact copying.copied index (copying.finished ok index counted) x low high
    · rename_i outside
      exact copying.beyond x (by omega)
  rw [PageBlob.put, ← data, ← copying.size]

end Copying
end ServerSide

section Streamed

variable {source : Store} {total chunk : Nat} {ranges : Option (List (Nat × Nat))} {base : PageBlob}

/-- The destination after the bytes before an offset have been copied. -/
def copiedTo (source : Store) (base : PageBlob) (offset : Nat) : PageBlob := base.put 0 (slice source 0 offset)

theorem copiedTo_append (source : Store) (base : PageBlob) (offset len : Nat) :
    (copiedTo source base offset).put offset (slice source offset len) = copiedTo source base (offset + len) := by
  have joined := splice_append base.data 0 (slice source 0 offset) (slice source offset len)
  have whole := slice_append source 0 offset len
  rw [Nat.zero_add] at whole
  rw [length_slice, Nat.zero_add, whole] at joined
  simp only [copiedTo, PageBlob.put, joined]

/-- A chunk that is streamed is copied. -/
theorem copyStreamedChunk_ok {before after : PageBlobBackend × PageBlobBackend} {size offset len : Nat}
    (covers : MapCovers ranges source total) (inside : offset + len ≤ total)
    (reads : before.1.blob = some ⟨size, source⟩) (writes : before.2.blob = some (copiedTo source base offset))
    (done : copyStreamedChunk ranges offset len before = (.ok (), after)) :
    after.1.blob = some ⟨size, source⟩ ∧ after.2.blob = some (copiedTo source base (offset + len)) := by
  unfold copyStreamedChunk at done
  cases data : chunkIsData ranges offset len with
  | true =>
      rw [data, if_pos rfl] at done
      obtain ⟨bytes, between, fetched, stored⟩ := Action.bind_inv done
      have fetched := Action.withContext_ok fetched
      have stored := Action.withContext_ok stored
      simp only [onSource, Prod.mk.injEq] at fetched
      obtain ⟨answer, rfl⟩ := fetched
      obtain ⟨rfl, kept⟩ := PageBlobBackend.read_ok reads (Prod.ext answer rfl)
      simp only [onDest, Prod.mk.injEq] at stored
      obtain ⟨answer, rfl⟩ := stored
      refine ⟨kept, ?_⟩
      rw [← copiedTo_append]
      exact PageBlobBackend.write_ok writes (Prod.ext answer rfl)
  | false =>
      rw [data, if_neg (by decide)] at done
      have done := Action.withContext_ok done
      simp only [onDest, Prod.mk.injEq] at done
      obtain ⟨answer, rfl⟩ := done
      refine ⟨reads, ?_⟩
      have cleared := PageBlobBackend.clear_ok writes (Prod.ext answer rfl)
      rw [← copiedTo_append, PageBlob.put, ← zeroed_eq_copy fun x low high => chunk_zero covers data inside low high]
      exact cleared

/-- The rest of a streamed copy copies the rest of the source. -/
theorem copyStreamedFrom_ok (covers : MapCovers ranges source total) (positive : 0 < chunk) {size : Nat}
    {rounds offset : Nat} {before after : PageBlobBackend × PageBlobBackend} (enough : total ≤ offset + rounds)
    (bound : offset ≤ total) (reads : before.1.blob = some ⟨size, source⟩)
    (writes : before.2.blob = some (copiedTo source base offset))
    (done : copyStreamedFrom chunk total ranges rounds offset before = (.ok (), after)) :
    after.1.blob = some ⟨size, source⟩ ∧ after.2.blob = some (copiedTo source base total) := by
  induction rounds generalizing offset before with
  | zero =>
      obtain rfl := (Prod.mk.inj done).2
      obtain rfl : offset = total := by omega
      exact ⟨reads, writes⟩
  | succ rounds ih =>
      rw [copyStreamedFrom] at done
      split at done
      · rename_i more
        obtain ⟨_, between, first, rest⟩ := Action.bind_inv done
        obtain ⟨read, written⟩ := copyStreamedChunk_ok covers (by omega) reads writes first
        exact ih (by omega) (by omega) read written rest
      · obtain rfl := (Prod.mk.inj done).2
        obtain rfl : offset = total := by omega
        exact ⟨reads, writes⟩

end Streamed

/-- A copy by the service that succeeds copies the source over the start of the blob. -/
theorem pageCopy_exact {env : CopyEnv} {source : Store} {total : Nat} {ranges : Option (List (Nat × Nat))}
    {base : PageBlob} (covers : MapCovers ranges source total) {events : List CopyEvent} {final : PageCopy}
    (run : execute (PageCopy.step env source total ranges) (PageCopy.begin total base) events = some final)
    (ok : final.outcome = some (.ok ())) : final.dest = base.put 0 (slice source 0 total) := by
  have copying := execute_preserves (fun copy event next => Copying.step covers copy event next)
    (Copying.begin env source total ranges base) run
  exact copying.exact_of_ok ok

/-- A copy by the driver that succeeds does the same. -/
theorem copyBlobStreamed_exact {env : CopyEnv} {source : Store} {total : Nat} {ranges : Option (List (Nat × Nat))}
    {base : PageBlob} (covers : MapCovers ranges source total) {reader writer : PageBlobBackend}
    (reads : reader.blob = some ⟨total, source⟩) (writes : writer.blob = some base)
    {after : PageBlobBackend × PageBlobBackend}
    (done : copyBlobStreamed env total ranges (reader, writer) = (.ok (), after)) :
    after.2.blob = some (base.put 0 (slice source 0 total)) ∧ after.1.blob = some ⟨total, source⟩ := by
  obtain ⟨_, between, copied, flushed⟩ := Action.bind_inv done
  have start : writer.blob = some (copiedTo source base 0) := by
    rw [writes, copiedTo, PageBlob.put]
    simp [slice]
  obtain ⟨read, written⟩ := copyStreamedFrom_ok covers (copyChunkBytes_pos env) (by omega) (by omega) reads start copied
  have flushed := Action.withContext_ok flushed
  obtain rfl := (Prod.mk.inj flushed).2
  exact ⟨written, read⟩

/-- What a copy leaves at each place. -/
theorem put_slice_data (source : Store) (total : Nat) (base : PageBlob) (x : Nat) :
    (base.put 0 (slice source 0 total)).data x = if x < total then source x else base.data x := by
  rw [PageBlob.put]
  dsimp only
  rw [splice_slice]
  simp

/-- Both ways to copy a template copy it exactly, in whatever order the requests of the first are performed and
answered. -/
theorem template_copy_exact (env : CopyEnv) (source : Store) (total : Nat) (ranges : Option (List (Nat × Nat)))
    (base : PageBlob) (covers : MapCovers ranges source total) :
    (∀ events final, execute (PageCopy.step env source total ranges) (PageCopy.begin total base) events = some final →
      final.outcome = some (.ok ()) → final.dest = base.put 0 (slice source 0 total)) ∧
    (∀ reader writer : PageBlobBackend, reader.blob = some ⟨total, source⟩ → writer.blob = some base →
      ∀ after, copyBlobStreamed env total ranges (reader, writer) = (.ok (), after) →
        after.2.blob = some (base.put 0 (slice source 0 total)) ∧ after.1.blob = some ⟨total, source⟩) ∧
    ∀ x, (base.put 0 (slice source 0 total)).data x = if x < total then source x else base.data x :=
  ⟨fun _ _ run ok => pageCopy_exact covers run ok,
    fun _ _ reads writes _ done => copyBlobStreamed_exact covers reads writes done, put_slice_data source total base⟩

section Samples

def sectorEnv : CopyEnv := ⟨some "512", some "2", 8⟩

/-- One sector of sevens and one of zeros. -/
def halfSource : Store := fun x => if x < 512 then 7 else 0

def staleBlob : PageBlob := ⟨1536, fun _ => 9⟩

def halfMap : Option (List (Nat × Nat)) := some [(0, 512)]

theorem halfMap_covers : MapCovers halfMap halfSource 1024 := by
  intro listed same
  obtain rfl := Option.some.inj same
  refine ⟨List.pairwise_singleton _ _, by simp, fun x _ nonzero => ⟨(0, 512), by simp, Nat.zero_le _, ?_⟩⟩
  by_contra outside
  exact nonzero (if_neg (by simpa using outside))

/-- The second chunk is cleared and answered before the first is copied. -/
def reversedEvents : List CopyEvent :=
  [.mint (.ok ()), .send, .send, .perform 1, .answer 1, .perform 0, .answer 0, .finishBatch, .finish]

def idleBackend (blob : PageBlob) : PageBlobBackend := ⟨⟨20, ["408", "429", "5*"]⟩, "disk", some blob, none, [], [], [], []⟩

theorem template_copy_exact_reversed :
    (∃ final, execute (PageCopy.step sectorEnv halfSource 1024 halfMap) (PageCopy.begin 1024 staleBlob) reversedEvents =
      some final ∧ final.dest = staleBlob.put 0 (slice halfSource 0 1024)) ∧
    ∃ after, copyBlobStreamed sectorEnv 1024 halfMap (idleBackend ⟨1024, halfSource⟩, idleBackend staleBlob) =
      (.ok (), after) ∧ after.2.blob = some (staleBlob.put 0 (slice halfSource 0 1024)) := by
  have copies := template_copy_exact sectorEnv halfSource 1024 halfMap staleBlob halfMap_covers
  have streamed : (copyBlobStreamed sectorEnv 1024 halfMap
      (idleBackend ⟨1024, halfSource⟩, idleBackend staleBlob)).1.isOk = true := by decide +kernel
  refine ⟨⟨_, rfl, copies.1 reversedEvents _ rfl rfl⟩, ?_⟩
  cases outcome : copyBlobStreamed sectorEnv 1024 halfMap (idleBackend ⟨1024, halfSource⟩, idleBackend staleBlob) with
  | mk result after =>
      rw [outcome] at streamed
      cases result with
      | error error => cases streamed
      | ok done => exact ⟨after, rfl, (copies.2.1 _ _ rfl rfl _ outcome).1⟩

end Samples
end UblkAzblob
