import UblkAzblob.Proof.PageProtocol
import UblkAzblob.Proof.SectorStore
namespace UblkAzblob
namespace MemBackend
open Storage

/-- The three checks of every data call reject a request or let it through. -/
theorem checks_cases {Value : Type} (op lenName : String) (offset len : Nat)
    (body : Action MemBackend Value) (mem : MemBackend) :
    ((offset % 512 = 0 ∧ len % 512 = 0 ∧ offset + len ≤ mem.size) ∧ (do
        checkAlignment offset 512 "offset"
        checkAlignment len 512 lenName
        checkEnd op offset len
        body : Action MemBackend Value) mem = body mem) ∨
      (¬ (offset % 512 = 0 ∧ len % 512 = 0 ∧ offset + len ≤ mem.size) ∧ ∃ error, (do
        checkAlignment offset 512 "offset"
        checkAlignment len 512 lenName
        checkEnd op offset len
        body : Action MemBackend Value) mem = (.error error, mem)) := by
  simp only [Action.bind_apply, checkAlignment, checkEnd, Action.ensure_apply]
  by_cases offsetAligned : offset % 512 = 0
  · by_cases lenAligned : len % 512 = 0
    · by_cases inside : offset + len ≤ mem.size
      · simp [offsetAligned, lenAligned, inside]
      · simp [offsetAligned, lenAligned, inside]
    · simp [offsetAligned, lenAligned]
  · simp [offsetAligned]

instance : FlatStore MemBackend where
  content := data
  size := size
  read_keeps inner offset len := by
    rcases checks_cases "read" "len" offset len (.get fun mem => slice mem.data offset len) inner with
      ⟨_, accepted⟩ | ⟨_, error, rejected⟩
    · rw [show BlobBackend.read offset len inner = _ from accepted]
      exact ⟨rfl, rfl⟩
    · rw [show BlobBackend.read offset len inner = _ from rejected]
      exact ⟨rfl, rfl⟩
  read_exact inner offset len bytes offsetAligned lenAligned device success := by
    rcases checks_cases "read" "len" offset len (.get fun mem => slice mem.data offset len) inner with
      ⟨_, accepted⟩ | ⟨refused, _⟩
    · rw [show BlobBackend.read offset len inner = _ from accepted] at success
      exact (Except.ok.inj success).symm
    · exact absurd ⟨offsetAligned, lenAligned, device⟩ refused
  write_size inner offset bytes := by
    rcases checks_cases "write" "data.len()" offset bytes.length
      (.modify fun mem => { mem with data := splice mem.data offset bytes }) inner with
      ⟨_, accepted⟩ | ⟨_, error, rejected⟩
    · rw [show BlobBackend.write offset bytes inner = _ from accepted]
      rfl
    · rw [show BlobBackend.write offset bytes inner = _ from rejected]
  write_ok inner offset bytes success := by
    rcases checks_cases "write" "data.len()" offset bytes.length
      (.modify fun mem => { mem with data := splice mem.data offset bytes }) inner with
      ⟨_, accepted⟩ | ⟨_, error, rejected⟩
    · rw [show BlobBackend.write offset bytes inner = _ from accepted]
      rfl
    · rw [show BlobBackend.write offset bytes inner = _ from rejected] at success
      cases success
  write_error inner offset bytes error failure := by
    rcases checks_cases "write" "data.len()" offset bytes.length
      (.modify fun mem => { mem with data := splice mem.data offset bytes }) inner with
      ⟨_, accepted⟩ | ⟨_, reason, rejected⟩
    · rw [show BlobBackend.write offset bytes inner = _ from accepted] at failure
      cases failure
    · rw [show BlobBackend.write offset bytes inner = _ from rejected]
      exact .inl rfl
  flush_keeps inner := ⟨rfl, rfl⟩
  etag_keeps inner := ⟨rfl, rfl⟩
  ranges_keep inner := ⟨rfl, rfl⟩

instance : ReliableStore MemBackend where
  read_total inner offset len offsetAligned lenAligned device := by
    rcases checks_cases "read" "len" offset len (.get fun mem => slice mem.data offset len) inner with
      ⟨_, accepted⟩ | ⟨refused, _⟩
    · exact ⟨_, congrArg Prod.fst accepted⟩
    · exact absurd ⟨offsetAligned, lenAligned, device⟩ refused
  write_total inner offset bytes offsetAligned lenAligned device := by
    rcases checks_cases "write" "data.len()" offset bytes.length
      (.modify fun mem => { mem with data := splice mem.data offset bytes }) inner with
      ⟨_, accepted⟩ | ⟨refused, _⟩
    · exact congrArg Prod.fst accepted
    · exact absurd ⟨offsetAligned, lenAligned, device⟩ refused
  flush_total inner := rfl

instance : CreatableStore MemBackend where
  create_ok inner bytes success := by
    simp only [BlobBackend.create, create, Action.bind_apply, checkAlignment, Action.ensure_apply] at success ⊢
    by_cases aligned : bytes % 512 = 0
    · by_cases positive : bytes ≠ 0
      · simp only [if_pos aligned, if_pos positive]
        exact ⟨rfl, rfl⟩
      · simp [aligned, positive] at success
    · simp [aligned] at success
  create_error inner bytes error failure := by
    simp only [BlobBackend.create, create, Action.bind_apply, checkAlignment, Action.ensure_apply] at failure ⊢
    by_cases aligned : bytes % 512 = 0
    · by_cases positive : bytes ≠ 0
      · simp [aligned, positive] at failure
      · simp [aligned, positive]
    · simp [aligned]

instance : SectorStore MemBackend where
  valid mem := mem.size % 512 = 0 ∧ mem.size < 2 ^ 64
  content := data
  size := size
  aligned _ valid := valid
  size_keeps _ valid := ⟨valid, rfl, rfl⟩
  size_exact _ _ _ answer := (Except.ok.inj answer).symm
  read_keeps inner offset len valid := by
    have size : (BlobBackend.read offset len inner).2.size = inner.size :=
      (FlatStore.read_keeps inner offset len).2
    exact ⟨by rw [size]; exact valid, (FlatStore.read_keeps inner offset len).1, size⟩
  read_exact inner offset len bytes _ := FlatStore.read_exact inner offset len bytes
  write_keeps inner offset bytes valid _ _ _ := by
    have size : (BlobBackend.write offset bytes inner).2.size = inner.size :=
      FlatStore.write_size inner offset bytes
    exact ⟨by rw [size]; exact valid, size⟩
  write_ok inner offset bytes _ _ _ _ := FlatStore.write_ok inner offset bytes
  write_torn inner offset bytes _ offsetAligned lenAligned inside := by
    have success := ReliableStore.write_total inner offset bytes offsetAligned lenAligned inside
    exact ⟨fun _ => true, by rw [torn_all]; exact FlatStore.write_ok inner offset bytes success⟩
  abandon_torn inner progress offset bytes valid offsetAligned lenAligned inside := by
    have success := ReliableStore.write_total inner offset bytes offsetAligned lenAligned inside
    have content := FlatStore.write_ok inner offset bytes success
    have size : (write offset bytes inner).2.size = inner.size :=
      FlatStore.write_size inner offset bytes
    by_cases early : progress = 0
    · simp only [BlobBackend.abandonWrite, if_pos early]
      exact ⟨valid, trivial, fun _ => false, by rw [torn_none]⟩
    · simp only [BlobBackend.abandonWrite, if_neg early]
      exact ⟨by rw [size]; exact valid, size, fun _ => true, by rw [torn_all]; exact content⟩
  flush_keeps _ valid := ⟨valid, rfl, rfl⟩

end MemBackend
end UblkAzblob
