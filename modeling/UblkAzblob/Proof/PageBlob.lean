import UblkAzblob.Construction.PageBlob

namespace UblkAzblob
open Storage

namespace PageBlobBackend

section Requests

variable {Value : Type} {accepted : PageBlob → Bool} {effect : PageBlob → Value × PageBlob}

/-- The blob is as it was, or as a request that it takes has left it. -/
def Within (accepted : PageBlob → Bool) (effect : PageBlob → Value × PageBlob) (blob : PageBlob)
    (backend : PageBlobBackend) : Prop :=
  backend.blob = some blob ∨ accepted blob = true ∧ backend.blob = some (effect blob).2

/-- A request that is performed twice leaves what it has left the first time, and has the same answer. -/
structure Repeatable (accepted : PageBlob → Bool) (effect : PageBlob → Value × PageBlob) (blob : PageBlob) : Prop where
  accepted : accepted (effect blob).2 = accepted blob
  effect : effect (effect blob).2 = effect blob

/-- One request performs its effect or none, and an answer tells that it was performed. -/
theorem submit_cases {backend : PageBlobBackend} {blob : PageBlob} (present : backend.blob = some blob) :
    ((submit accepted effect backend).2.blob = some blob ∨
      accepted blob = true ∧ (submit accepted effect backend).2.blob = some (effect blob).2) ∧
    ∀ value, (submit accepted effect backend).1 = .ok value →
      accepted blob = true ∧ value = (effect blob).1 ∧
        (submit accepted effect backend).2.blob = some (effect blob).2 := by
  unfold submit
  rw [present]
  cases backend.answers.head?.getD .served with
  | served =>
      dsimp only
      by_cases taken : accepted blob = true
      · rw [if_pos taken]
        refine ⟨.inr ⟨taken, rfl⟩, fun value answer => ?_⟩
        exact ⟨taken, (Except.ok.inj answer).symm, rfl⟩
      · rw [if_neg taken]
        exact ⟨.inl rfl, fun value answer => by cases answer⟩
  | failed performed error =>
      cases performed with
      | false => exact ⟨.inl rfl, fun value answer => by cases answer⟩
      | true =>
          dsimp only
          by_cases taken : accepted blob = true
          · rw [if_pos taken]
            exact ⟨.inr ⟨taken, rfl⟩, fun value answer => by cases answer⟩
          · rw [if_neg taken]
            exact ⟨.inl rfl, fun value answer => by cases answer⟩

theorem submit_within {backend : PageBlobBackend} {blob : PageBlob} (again : Repeatable accepted effect blob)
    (inside : Within accepted effect blob backend) :
    Within accepted effect blob (submit accepted effect backend).2 ∧
      ∀ value, (submit accepted effect backend).1 = .ok value →
        accepted blob = true ∧ value = (effect blob).1 ∧
          (submit accepted effect backend).2.blob = some (effect blob).2 := by
  rcases inside with fresh | ⟨taken, done⟩
  · exact submit_cases fresh
  · obtain ⟨left, answer⟩ := @submit_cases _ accepted effect _ _ done
    simp only [again.accepted, again.effect] at left answer
    refine ⟨.inr ⟨taken, ?_⟩, answer⟩
    rcases left with left | ⟨_, left⟩
    · exact left
    · exact left

/-- A call that succeeds has performed its request, however often it was repeated. -/
theorem withRetry_within {attempt : PageBlobBackend → Except ServiceError Value × PageBlobBackend} {blob : PageBlob}
    (config : RetryConfig) (once : ∀ backend, Within accepted effect blob backend →
      Within accepted effect blob (attempt backend).2 ∧ ∀ value, (attempt backend).1 = .ok value →
        accepted blob = true ∧ value = (effect blob).1 ∧ (attempt backend).2.blob = some (effect blob).2)
    (left : Nat) {backend : PageBlobBackend} (inside : Within accepted effect blob backend) :
    Within accepted effect blob (withRetry config attempt left backend).2 ∧
      ∀ value, (withRetry config attempt left backend).1 = .ok value →
        accepted blob = true ∧ value = (effect blob).1 ∧
          (withRetry config attempt left backend).2.blob = some (effect blob).2 := by
  induction left generalizing backend with
  | zero => exact once backend inside
  | succ left ih =>
      have first := once backend inside
      rw [withRetry]
      cases outcome : attempt backend with
      | mk result after =>
          rw [outcome] at first
          cases result with
          | ok value => exact first
          | error error =>
              dsimp only
              split
              · exact ih first.1
              · exact ⟨first.1, fun value answer => by cases answer⟩

/-- What a call leaves of the blob, and what its success says. -/
theorem call_within {op range : String} {attempt : PageBlobBackend → Except ServiceError Value × PageBlobBackend}
    {blob : PageBlob} (once : ∀ backend, Within accepted effect blob backend →
      Within accepted effect blob (attempt backend).2 ∧ ∀ value, (attempt backend).1 = .ok value →
        accepted blob = true ∧ value = (effect blob).1 ∧ (attempt backend).2.blob = some (effect blob).2)
    {backend : PageBlobBackend} (present : backend.blob = some blob) :
    Within accepted effect blob (call op range attempt backend).2 ∧
      ∀ value, (call op range attempt backend).1 = .ok value →
        accepted blob = true ∧ value = (effect blob).1 ∧
          (call op range attempt backend).2.blob = some (effect blob).2 := by
  have whole := withRetry_within backend.retry once (backend.retry.attempts - 1) (.inl present)
  unfold call
  dsimp only
  cases outcome : withRetry backend.retry attempt (backend.retry.attempts - 1) backend with
  | mk result after =>
      rw [outcome] at whole
      cases result with
      | error error => exact ⟨whole.1, fun value answer => by cases answer⟩
      | ok value =>
          refine ⟨whole.1, fun other answer => ?_⟩
          obtain rfl := Except.ok.inj answer
          exact whole.2 value rfl

end Requests

section Calls

variable {backend after : PageBlobBackend} {blob : PageBlob} {offset len : Nat} {payload bytes : List UInt8}

theorem splice_again (store : Store) (offset : Nat) (payload : List UInt8) :
    splice (splice store offset payload) offset payload = splice store offset payload := by
  funext x
  unfold splice
  split <;> rfl

theorem zeroed_again (store : Store) (offset len : Nat) :
    zeroed (zeroed store offset len) offset len = zeroed store offset len := by
  funext x
  unfold zeroed
  split <;> rfl

theorem uploadPages_once (blob : PageBlob) (offset : Nat) (payload : List UInt8) (backend : PageBlobBackend)
    (inside : Within (fun blob => blob.takes offset payload.length) (fun blob => ((), blob.put offset payload)) blob
      backend) :
    Within (fun blob => blob.takes offset payload.length) (fun blob => ((), blob.put offset payload)) blob
      (uploadPages offset payload backend).2 ∧
    ∀ value, (uploadPages offset payload backend).1 = .ok value →
      blob.takes offset payload.length = true ∧ value = () ∧
        (uploadPages offset payload backend).2.blob = some (blob.put offset payload) := by
  have again : Repeatable (fun blob => blob.takes offset payload.length)
      (fun blob => ((), blob.put offset payload)) blob :=
    ⟨rfl, by simp only [PageBlob.put, splice_again]⟩
  exact submit_within again inside

theorem clearPages_once (blob : PageBlob) (offset len : Nat) (backend : PageBlobBackend)
    (inside : Within (fun blob => blob.holds offset len) (fun blob => ((), blob.clear offset len)) blob backend) :
    Within (fun blob => blob.holds offset len) (fun blob => ((), blob.clear offset len)) blob
      (clearPages offset len backend).2 ∧
    ∀ value, (clearPages offset len backend).1 = .ok value →
      blob.holds offset len = true ∧ value = () ∧
        (clearPages offset len backend).2.blob = some (blob.clear offset len) := by
  have again : Repeatable (fun blob => blob.holds offset len) (fun blob => ((), blob.clear offset len)) blob :=
    ⟨rfl, by simp only [PageBlob.clear, zeroed_again]⟩
  exact submit_within again inside

/-- A write that succeeds has written its pages. -/
theorem write_ok (present : backend.blob = some blob) (done : write offset payload backend = (.ok (), after)) :
    after.blob = some (blob.put offset payload) := by
  obtain ⟨_, _, writable, checks⟩ := Action.bind_inv done
  obtain ⟨_, rfl⟩ := Action.ensure_ok writable
  obtain ⟨_, _, aligned, last⟩ := Action.bind_inv checks
  obtain ⟨_, rfl⟩ := Action.ensure_ok aligned
  obtain ⟨_, _, whole, called⟩ := Action.bind_inv last
  obtain ⟨_, rfl⟩ := Action.ensure_ok whole
  have inside := @call_within _ _ _ "upload_pages blob" s!"offset={offset} len={payload.length}" _ _
    (uploadPages_once blob offset payload) _ present
  rw [called] at inside
  exact (inside.2 () rfl).2.2

/-- A clear that succeeds has cleared its pages. -/
theorem clear_ok (present : backend.blob = some blob) (done : clear offset len backend = (.ok (), after)) :
    after.blob = some (blob.clear offset len) := by
  obtain ⟨_, _, writable, checks⟩ := Action.bind_inv done
  obtain ⟨_, rfl⟩ := Action.ensure_ok writable
  obtain ⟨_, _, aligned, last⟩ := Action.bind_inv checks
  obtain ⟨_, rfl⟩ := Action.ensure_ok aligned
  obtain ⟨_, _, whole, called⟩ := Action.bind_inv last
  obtain ⟨_, rfl⟩ := Action.ensure_ok whole
  have inside := @call_within _ _ _ "clear_pages blob" s!"offset={offset} len={len}" _ _
    (clearPages_once blob offset len) _ present
  rw [called] at inside
  exact (inside.2 () rfl).2.2

/-- A read that succeeds returns the bytes of the blob. -/
theorem read_ok (present : backend.blob = some blob) (done : read offset len backend = (.ok bytes, after)) :
    bytes = slice blob.data offset len ∧ after.blob = some blob := by
  have again : Repeatable (fun blob => blob.holds offset len) (fun blob => (slice blob.data offset len, blob)) blob :=
    ⟨rfl, rfl⟩
  obtain ⟨_, _, aligned, last⟩ := Action.bind_inv done
  obtain ⟨_, rfl⟩ := Action.ensure_ok aligned
  obtain ⟨_, _, whole, called⟩ := Action.bind_inv last
  obtain ⟨_, rfl⟩ := Action.ensure_ok whole
  have inside := @call_within _ _ _ "download blob" s!"offset={offset} len={len}" (download offset len) _
    (fun _ => submit_within again) _ present
  rw [called] at inside
  obtain ⟨_, answer, left⟩ := inside.2 bytes rfl
  exact ⟨answer, left⟩

/-- A size that is read is the size of the blob. -/
theorem getProperties_ok {bytes : Nat} (done : getProperties backend = (.ok bytes, after)) :
    ∃ blob, backend.blob = some blob ∧ after.blob = some blob ∧ blob.size = bytes := by
  cases there : backend.blob with
  | none =>
      unfold getProperties submit at done
      rw [there] at done
      cases next : backend.answers.head?.getD .served with
      | served =>
          rw [next] at done
          cases (Prod.mk.inj done).1
      | failed performed error =>
          rw [next] at done
          cases performed <;> cases (Prod.mk.inj done).1
  | some blob =>
      have answer := (@submit_cases _ (fun _ => true) (fun blob => (blob.size, blob)) _ _ there).2
      unfold getProperties at done
      rw [done] at answer
      obtain ⟨_, same, kept⟩ := answer bytes rfl
      exact ⟨blob, rfl, kept, same.symm⟩

theorem size_ok {bytes : Nat} (done : (PageBlobBackend.size backend).1 = .ok bytes) :
    ∃ blob, backend.blob = some blob ∧ blob.size = bytes := by
  unfold PageBlobBackend.size at done
  dsimp only at done
  cases properties : getProperties backend with
  | mk result left =>
      rw [properties] at done
      cases result with
      | error error => cases done
      | ok found =>
          obtain rfl := Except.ok.inj done
          obtain ⟨blob, there, _, sized⟩ := getProperties_ok properties
          exact ⟨blob, there, sized⟩

/-- The blob is there with this size. -/
def Sized (size : Nat) (backend : PageBlobBackend) : Prop := ∃ blob, backend.blob = some blob ∧ blob.size = size

/-- A call whose request keeps the size keeps it, even when it fails. -/
theorem keeps_call {op range : String} {attempt : PageBlobBackend → Except ServiceError Unit × PageBlobBackend}
    {accepted : PageBlob → Bool} {effect : PageBlob → Unit × PageBlob} {size : Nat}
    (sized : ∀ blob, (effect blob).2.size = blob.size)
    (once : ∀ blob backend, Within accepted effect blob backend →
      Within accepted effect blob (attempt backend).2 ∧ ∀ value, (attempt backend).1 = .ok value →
        accepted blob = true ∧ value = (effect blob).1 ∧ (attempt backend).2.blob = some (effect blob).2) :
    Action.Keeps (Sized size) (call op range attempt) := by
  rintro backend ⟨blob, present, fits⟩
  rcases (@call_within _ _ _ op range attempt blob (once blob) backend present).1 with kept | ⟨_, changed⟩
  · exact ⟨blob, kept, fits⟩
  · exact ⟨_, changed, (sized blob).trans fits⟩

theorem keeps_write (offset : Nat) (payload : List UInt8) {size : Nat} :
    Action.Keeps (Sized size) (write offset payload) := by
  have writable : Action.Keeps (Sized size) (checkWritable "write") := by
    intro state inv
    unfold checkWritable
    exact Action.keeps_ensure _ _ state inv
  refine Action.keeps_bind writable fun _ _ _ first _ => ?_
  refine Action.keeps_bind (Action.keeps_ensure _ _) (fun _ _ _ second _ => ?_) _ first
  refine Action.keeps_bind (Action.keeps_ensure _ _) (fun _ _ _ third _ => ?_) _ second
  exact keeps_call (fun _ => rfl) (fun blob => uploadPages_once blob offset payload) _ third

theorem keeps_clear (offset len : Nat) {size : Nat} : Action.Keeps (Sized size) (clear offset len) := by
  have writable : Action.Keeps (Sized size) (checkWritable "clear") := by
    intro state inv
    unfold checkWritable
    exact Action.keeps_ensure _ _ state inv
  refine Action.keeps_bind writable fun _ _ _ first _ => ?_
  refine Action.keeps_bind (Action.keeps_ensure _ _) (fun _ _ _ second _ => ?_) _ first
  refine Action.keeps_bind (Action.keeps_ensure _ _) (fun _ _ _ third _ => ?_) _ second
  exact keeps_call (fun _ => rfl) (fun blob => clearPages_once blob offset len) _ third

end Calls
end PageBlobBackend
end UblkAzblob
