import UblkAzblob.Proof.FileCacheRefinement
import UblkAzblob.Proof.BufferedRefinement
import UblkAzblob.Proof.LayerCalls
import UblkAzblob.Proof.NbdTarget

namespace UblkAzblob
open Storage

section Opening

variable {Inner : Type} {Inv : Inner → Prop} {allowed : Nat → Prop} {device : Nat}

namespace FileCacheBackend

/-- An open leaves the inner backend alone. -/
theorem openCache_over {cfg : FileCacheConfig} {host : Host} {currentEtag : Option String} {disk : Disk Inner}
    {budgetFile : List Entry} {clock : Nat} {cache : FileCacheBackend} {world : World Inner} {recovered : Nat}
    (opened : openCache cfg host device currentEtag disk budgetFile clock = .ok (cache, world, recovered))
    (inv : Inv disk.inner) : cache.pageSize = cfg.pageSize ∧ cache.Over Inv device world := by
  obtain ⟨quiet, samePage⟩ := openCache_quiet opened
  obtain ⟨devSize, numPages, inner⟩ := validatedWorld_shape cfg.pageSize device currentEtag disk budgetFile clock
  refine ⟨samePage, ?_, quiet.devSize.trans devSize, ?_⟩
  · rw [quiet.disk, inner]
    exact inv
  · rw [Shaped, quiet.numPages, quiet.devSize, samePage, numPages, devSize]

end FileCacheBackend

/-- The dirty pages that a start recovers are uploaded like any other. -/
theorem CachedDevice.bringUp_over [BlobBackend Inner] (inner : Upholds Inner Inv allowed device) {cfg : FileCacheConfig}
    (fits : ∀ len, 0 < len → len ≤ min cfg.pageSize device → allowed len) {host : Host} {disk : Disk Inner}
    {budgetFile : List Entry} {clock : Nat} {cached : CachedDevice Inner} (inv : Inv disk.inner)
    (up : bringUp cfg host device disk budgetFile clock = .ok cached) : Over Inv cfg.pageSize device cached := by
  have asked : Inv (currentEtag disk).2.inner := by
    have kept := inner.etag disk.inner inv
    rw [currentEtag]
    cases answer : BlobBackend.etag disk.inner with
    | mk outcome after =>
        rw [answer] at kept
        cases outcome <;> exact kept
  rw [bringUp] at up
  cases answer : FileCacheBackend.openCache cfg host device (currentEtag disk).1 (currentEtag disk).2 budgetFile clock with
  | error error =>
      rw [answer] at up
      cases up
  | ok parts =>
      obtain ⟨cache, world, recovered⟩ := parts
      obtain ⟨page, opened⟩ := FileCacheBackend.openCache_over answer asked
      rw [answer] at up
      dsimp only at up
      split at up
      · cases up
        exact ⟨page, opened⟩
      · have flushed := FileCacheBackend.flush_over inner (page ▸ fits) world opened
        cases result : cache.flush world with
        | mk outcome after =>
            rw [result] at up flushed
            cases outcome with
            | error error => cases up
            | ok value =>
                cases up
                exact ⟨page, flushed⟩

end Opening

section Serving

theorem Upholds.mono {Backend : Type} [BlobBackend Backend] {Inv : Backend → Prop} {allowed fewer : Nat → Prop}
    {device : Nat} (upholds : Upholds Backend Inv allowed device) (fits : ∀ len, fewer len → allowed len) :
    Upholds Backend Inv fewer device :=
  { upholds with
    write := fun offset data few => upholds.write offset data (fits _ few)
    abandoned := fun progress offset data backend few => upholds.abandoned progress offset data backend (fits _ few) }

namespace NbdTarget

variable {Backend : Type} {Inv : Backend → Prop} {allowed : Nat → Prop} {device : Nat}

theorem callBackend_keeps {Value : Type} (call : BackendCall) {action : Action Backend Value}
    (kept : Action.Keeps Inv action) : Action.Keeps (fun conn => Inv conn.backend) (callBackend call action) :=
  fun conn inv => kept conn.backend inv

theorem simpleReply_keeps (error handle : Nat) (data : List UInt8) :
    Action.Keeps (fun conn : Conn Backend => Inv conn.backend) (simpleReply error handle data) := by
  intro conn inv
  rw [simpleReply_apply]
  exact inv

theorem replied_keeps (error handle : Nat) (data : List UInt8) :
    Action.Keeps (fun conn : Conn Backend => Inv conn.backend) (do
      simpleReply error handle data
      pure (none : Option Unit)) :=
  Action.keeps_bind (simpleReply_keeps error handle data) fun _ _ _ inv _ => inv

theorem changeDevice_keeps {devSize offset length : Nat} {readOnly : Bool} (handle : Nat) (call : BackendCall)
    {action : Action Backend Unit}
    (kept : readOnly = false → boundsError offset length devSize = none → Action.Keeps Inv action) :
    Action.Keeps (fun conn => Inv conn.backend) (changeDevice devSize readOnly handle offset length call action) := by
  unfold changeDevice
  split
  · exact replied_keeps _ _ _
  · rename_i writable
    split
    · exact replied_keeps _ _ _
    · rename_i passes
      refine Action.keeps_bind (callBackend_keeps call (kept (by simpa using writable) passes)) fun _ outcome _ inv _ => ?_
      split
      · exact replied_keeps _ _ _ _ inv
      · exact replied_keeps _ _ _ _ inv

variable [BlobBackend Backend]

/-- Only an accepted write request hands its payload to the backend. -/
theorem dispatch_keeps (upholds : Upholds Backend Inv allowed device) {devSize cmd offset length : Nat} {readOnly : Bool}
    (handle : Nat) (written : cmd = nbdCmdWrite → readOnly = false → boundsError offset length devSize = none →
      allowed length) :
    Action.Keeps (fun conn => Inv conn.backend) (dispatch devSize readOnly cmd handle offset length) := by
  unfold dispatch
  split
  · exact Action.keeps_bind (callBackend_keeps .flush upholds.flush) fun _ _ _ inv _ => inv
  · split
    · split
      · exact replied_keeps _ _ _
      · refine Action.keeps_bind (callBackend_keeps _ (upholds.read offset length)) fun _ outcome _ inv _ => ?_
        split
        · split
          · exact replied_keeps _ _ _ _ inv
          · exact replied_keeps _ _ _ _ inv
        · exact replied_keeps _ _ _ _ inv
    · split
      · rename_i writes
        refine Action.keeps_bind (fun conn inv => ?_) fun before buf conn inv got => ?_
        · unfold readExact
          split
          · exact inv
          · exact inv
        · have exact' : buf.length = length := by
            unfold readExact at got
            split at got
            · rename_i enough
              rw [← Except.ok.inj (Prod.mk.inj got).1, List.length_take, Nat.min_eq_left enough]
            · cases got
          refine changeDevice_keeps handle _ (fun writable passes => upholds.write offset buf ?_) conn inv
          rw [exact']
          exact written writes writable passes
      · split
        · refine Action.keeps_bind (callBackend_keeps .flush upholds.flush) fun _ outcome _ inv _ => ?_
          split
          · exact replied_keeps _ _ _ _ inv
          · exact replied_keeps _ _ _ _ inv
        · split
          · exact changeDevice_keeps handle _ fun _ _ => upholds.clear offset length
          · exact replied_keeps _ _ _

end NbdTarget
end Serving

section Stack

namespace StackOptions

/-- The size of the pages that are uploaded to the blob, if a layer with pages is put on it. -/
def lowestPage (options : StackOptions) (readOnly : Bool) : Option Nat :=
  match options.cache with
  | some cfg => some cfg.pageSize
  | none => if readOnly || options.buffer.pageSize = 0 then none else some options.buffer.pageSize

/-- A snapshot is never written; the pages of the lowest layer are short, or the written ranges where there is none. -/
structure WithinLimit (options : StackOptions) (readOnly : Bool) (device : Nat) (events : List DeviceEvent) : Prop where
  pages : readOnly = true ∨ ∀ pageSize, options.lowestPage readOnly = some pageSize →
    min pageSize device ≤ maxPageRequestBytes
  writes : readOnly = true ∨ options.lowestPage readOnly ≠ none ∨ ∀ request, .request request ∈ events →
    request.cmd = NbdTarget.nbdCmdWrite → NbdTarget.boundsError request.offset request.length device = none →
      0 < request.length ∧ request.length ≤ maxPageRequestBytes

end StackOptions

namespace DeviceStack

variable {options : StackOptions} {readOnly : Bool} {device : Nat}

/-- The backend of the blob is frugal below the layers that the options choose. -/
def Frugal (options : StackOptions) (readOnly : Bool) (device : Nat) : DeviceStack → Prop
  | blob backend => options.lowestPage readOnly = none ∧ PageBlobBackend.Frugal readOnly device backend
  | cached top => ∃ pageSize, options.lowestPage readOnly = some pageSize ∧
      CachedDevice.Over (PageBlobBackend.Frugal readOnly device) pageSize device top
  | buffered top => ∃ pageSize, options.lowestPage readOnly = some pageSize ∧
      BufferedDevice.Over (PageBlobBackend.Frugal readOnly device) pageSize device top
  | bufferedCache top => ∃ pageSize, options.lowestPage readOnly = some pageSize ∧
      BufferedDevice.Over (CachedDevice.Over (PageBlobBackend.Frugal readOnly device) pageSize device)
        options.buffer.pageSize device top

/-- Without a layer that has pages, the service gets the ranges that the clients write. -/
def Direct (options : StackOptions) (readOnly : Bool) (len : Nat) : Prop :=
  options.lowestPage readOnly = none → readOnly = true ∨ (0 < len ∧ len ≤ maxPageRequestBytes)

theorem Frugal.puts {stack : DeviceStack} (frugal : Frugal options readOnly device stack) :
    ∀ put ∈ stack.base.puts, AcceptedLength put.2 := by
  cases stack with
  | blob backend => exact frugal.2.puts
  | cached top =>
      obtain ⟨_, _, held⟩ := frugal
      exact held.world.inner.puts
  | buffered top =>
      obtain ⟨_, _, held⟩ := frugal
      exact held.world.inner.puts
  | bufferedCache top =>
      obtain ⟨_, _, held⟩ := frugal
      exact held.world.inner.world.inner.puts

/-- The pages of the lowest layer are short enough for the service, unless nothing is ever written. -/
theorem page_fits (short : readOnly = true ∨ ∀ pageSize, options.lowestPage readOnly = some pageSize →
      min pageSize device ≤ maxPageRequestBytes) {pageSize : Nat} (lowest : options.lowestPage readOnly = some pageSize) :
    ∀ len, 0 < len → len ≤ min pageSize device → readOnly = true ∨ (0 < len ∧ len ≤ maxPageRequestBytes) := by
  intro len positive within
  rcases short with snapshot | short
  · exact .inl snapshot
  · exact .inr ⟨positive, within.trans (short pageSize lowest)⟩

/-- What the uppermost layer upholds, whichever it is, the stack upholds. -/
theorem upheld (short : readOnly = true ∨ ∀ pageSize, options.lowestPage readOnly = some pageSize →
      min pageSize device ≤ maxPageRequestBytes) {Value : Type}
    (action : (Backend : Type) → [BlobBackend Backend] → Backend → Value × Backend)
    (kept : ∀ (Backend : Type) [BlobBackend Backend] (Inv : Backend → Prop),
      Upholds Backend Inv (Direct options readOnly) device → ∀ backend, Inv backend → Inv (action Backend backend).2)
    (stack : DeviceStack) (frugal : Frugal options readOnly device stack) :
    Frugal options readOnly device (match stack with
      | blob backend => blob (action PageBlobBackend backend).2
      | cached top => cached (action (CachedDevice PageBlobBackend) top).2
      | buffered top => buffered (action (BufferedDevice PageBlobBackend) top).2
      | bufferedCache top => bufferedCache (action (BufferedDevice (CachedDevice PageBlobBackend)) top).2) := by
  cases stack with
  | blob backend =>
      obtain ⟨lowest, held⟩ := frugal
      exact ⟨lowest, kept _ _ ((PageBlobBackend.upholds readOnly device).mono fun len direct => direct lowest) _ held⟩
  | cached top =>
      obtain ⟨pageSize, lowest, held⟩ := frugal
      have layer := CachedDevice.upholds (PageBlobBackend.upholds readOnly device) (page_fits short lowest)
      exact ⟨pageSize, lowest, kept _ _ (layer.mono fun _ _ => trivial) _ held⟩
  | buffered top =>
      obtain ⟨pageSize, lowest, held⟩ := frugal
      have layer := BufferedDevice.upholds (PageBlobBackend.upholds readOnly device) (page_fits short lowest)
      exact ⟨pageSize, lowest, kept _ _ (layer.mono fun _ _ => trivial) _ held⟩
  | bufferedCache top =>
      obtain ⟨pageSize, lowest, held⟩ := frugal
      have below := CachedDevice.upholds (PageBlobBackend.upholds readOnly device) (page_fits short lowest)
      have layer := @BufferedDevice.upholds _ _ _ _ _ options.buffer.pageSize below fun _ _ _ => trivial
      exact ⟨pageSize, lowest, kept _ _ (layer.mono fun _ _ => trivial) _ held⟩

theorem onTop_keeps (short : readOnly = true ∨ ∀ pageSize, options.lowestPage readOnly = some pageSize →
      min pageSize device ≤ maxPageRequestBytes) {Value : Type}
    {action : (Backend : Type) → [BlobBackend Backend] → Action Backend Value}
    (kept : ∀ (Backend : Type) [BlobBackend Backend] (Inv : Backend → Prop),
      Upholds Backend Inv (Direct options readOnly) device → Action.Keeps Inv (action Backend)) :
    Action.Keeps (Frugal options readOnly device) (onTop action) := by
  intro stack frugal
  have held := upheld short (fun Backend _ => action Backend)
    (fun Backend _ Inv upholds backend inv => kept Backend Inv upholds backend inv) stack frugal
  cases stack <;> exact held

theorem upholds (short : readOnly = true ∨ ∀ pageSize, options.lowestPage readOnly = some pageSize →
      min pageSize device ≤ maxPageRequestBytes) :
    Upholds DeviceStack (Frugal options readOnly device) (Direct options readOnly) device where
  read offset len := onTop_keeps short fun _ _ _ layer => layer.read offset len
  write offset data direct := onTop_keeps short fun _ _ _ layer => layer.write offset data direct
  clear offset len := onTop_keeps short fun _ _ _ layer => layer.clear offset len
  dataRanges := onTop_keeps short fun _ _ _ layer => layer.dataRanges
  flush := onTop_keeps short fun _ _ _ layer => layer.flush
  size := onTop_keeps short fun _ _ _ layer => layer.size
  etag := onTop_keeps short fun _ _ _ layer => layer.etag
  sized stack bytes frugal answer := by
    cases stack with
    | blob backend => exact (PageBlobBackend.upholds readOnly device).sized backend bytes frugal.2 answer
    | cached top =>
        obtain ⟨_, lowest, held⟩ := frugal
        have layer := CachedDevice.upholds (PageBlobBackend.upholds readOnly device) (page_fits short lowest)
        exact layer.sized top bytes held answer
    | buffered top =>
        obtain ⟨_, lowest, held⟩ := frugal
        have layer := BufferedDevice.upholds (PageBlobBackend.upholds readOnly device) (page_fits short lowest)
        exact layer.sized top bytes held answer
    | bufferedCache top =>
        obtain ⟨_, lowest, held⟩ := frugal
        have below := CachedDevice.upholds (PageBlobBackend.upholds readOnly device) (page_fits short lowest)
        have layer := @BufferedDevice.upholds _ _ _ _ _ options.buffer.pageSize below fun _ _ _ => trivial
        exact layer.sized top bytes held answer
  abandoned progress offset data stack direct frugal := by
    have held := upheld short (fun Backend _ backend => ((), BlobBackend.abandonWrite progress offset data backend))
      (fun Backend _ Inv upholds backend inv => upholds.abandoned progress offset data backend direct inv) stack frugal
    cases stack <;> exact held

theorem handle_frugal (events : List DeviceEvent) (within : options.WithinLimit readOnly device events)
    {event : DeviceEvent} (member : event ∈ events) {stack : DeviceStack}
    (frugal : Frugal options readOnly device stack) :
    Frugal options readOnly device (stack.handle device readOnly event) := by
  cases event with
  | timedFlush =>
      cases stack with
      | blob backend => exact frugal
      | cached top => exact frugal
      | buffered top => exact (upholds within.pages).flush (.buffered top) frugal
      | bufferedCache top => exact (upholds within.pages).flush (.bufferedCache top) frugal
  | request request =>
      refine NbdTarget.dispatch_keeps (upholds within.pages) 0 (fun writes writable passes direct => ?_)
        ⟨request.payload, [], stack, []⟩ frugal
      rcases within.writes with snapshot | paged | short
      · exact .inl snapshot
      · exact absurd direct paged
      · exact .inr (short request member writes passes)

theorem serve_frugal (events : List DeviceEvent) (within : options.WithinLimit readOnly device events)
    {stack : DeviceStack} (frugal : Frugal options readOnly device stack) :
    Frugal options readOnly device (stack.serve device readOnly events) := by
  have prefixes (served : List DeviceEvent) (known : ∀ event ∈ served, event ∈ events) (stack : DeviceStack)
      (frugal : Frugal options readOnly device stack) :
      Frugal options readOnly device (stack.serve device readOnly served) := by
    induction served generalizing stack with
    | nil => exact frugal
    | cons event rest ih =>
        exact ih (fun other member => known other (List.mem_cons_of_mem _ member)) _
          (handle_frugal events within (known event List.mem_cons_self) frugal)
  exact prefixes events (fun _ member => member) stack frugal

/-- An empty buffer on a backend that keeps the property. -/
theorem start_over {Inner : Type} {Inv : Inner → Prop} {inner : Inner} {config : BufferedConfig} {executor : Executor}
    {buffer : BufferedBackend} (clock : Nat) (made : BufferedBackend.new config executor = .ok buffer) (inv : Inv inner) :
    BufferedDevice.Over Inv config.pageSize device ⟨buffer, BufferedBackend.start inner clock⟩ :=
  ⟨congrArg BufferedConfig.pageSize (BufferedBackend.new_config made),
    ⟨inv, .inl rfl, BufferState.empty_shelved _, fun page present => (by cases present)⟩⟩

/-- The layers are frugal from the start, also when the start has to upload pages that it recovers. -/
theorem assemble_frugal {host : Host} {executor : Executor} {files : CacheFiles} {budgetFile : List Entry} {clock : Nat}
    {backend : PageBlobBackend} {stack : DeviceStack} (fresh : backend.puts = [])
    (assembled : options.assemble host executor files budgetFile clock backend = .ok (device, stack))
    (short : backend.snapshot.isSome = true ∨ ∀ pageSize, options.lowestPage backend.snapshot.isSome = some pageSize →
      min pageSize device ≤ maxPageRequestBytes) : Frugal options backend.snapshot.isSome device stack := by
  unfold StackOptions.assemble at assembled
  dsimp only at assembled
  cases asked : BlobBackend.size backend with
  | mk answer sized =>
      rw [asked] at assembled
      cases answer with
      | error error => cases assembled
      | ok bytes =>
          dsimp only at assembled
          have base (device : Nat) (same : bytes = device) :
              PageBlobBackend.Frugal backend.snapshot.isSome device sized := by
            subst same
            obtain ⟨blob, present, size⟩ := PageBlobBackend.size_ok (congrArg Prod.fst asked)
            have start : PageBlobBackend.Frugal backend.snapshot.isSome bytes backend :=
              ⟨⟨blob, present, size⟩, fun put member => (by rw [fresh] at member; cases member), fun taken plain => by
                rw [plain] at taken
                cases taken⟩
            have kept := (PageBlobBackend.upholds backend.snapshot.isSome bytes).size backend start
            rw [asked] at kept
            exact kept
          cases chosen : options.cache with
          | none =>
              rw [chosen] at assembled
              dsimp only at assembled
              unfold StackOptions.withBuffer at assembled
              split at assembled
              · rename_i direct
                obtain ⟨rfl, rfl⟩ := Prod.mk.inj (Except.ok.inj assembled)
                exact ⟨by rw [StackOptions.lowestPage, chosen]; exact if_pos direct, base _ rfl⟩
              · rename_i buffers
                cases made : BufferedBackend.new options.buffer executor with
                | error error =>
                    rw [made] at assembled
                    cases assembled
                | ok buffer =>
                    rw [made] at assembled
                    obtain ⟨rfl, rfl⟩ := Prod.mk.inj (Except.ok.inj assembled)
                    exact ⟨options.buffer.pageSize, by rw [StackOptions.lowestPage, chosen]; exact if_neg buffers,
                      start_over clock made (base _ rfl)⟩
          | some cfg =>
              rw [chosen] at assembled
              dsimp only at assembled
              have lowest : options.lowestPage backend.snapshot.isSome = some cfg.pageSize := by
                rw [StackOptions.lowestPage, chosen]
              cases up : CachedDevice.bringUp cfg host bytes ⟨files.data, files.metadata, files.etag, sized⟩ budgetFile
                  clock with
              | error error =>
                  rw [up] at assembled
                  cases assembled
              | ok top =>
                  rw [up] at assembled
                  dsimp only at assembled
                  unfold StackOptions.withBuffer at assembled
                  split at assembled
                  · obtain ⟨rfl, rfl⟩ := Prod.mk.inj (Except.ok.inj assembled)
                    exact ⟨cfg.pageSize, lowest, CachedDevice.bringUp_over (PageBlobBackend.upholds _ _)
                      (page_fits short lowest) (base _ rfl) up⟩
                  · cases made : BufferedBackend.new options.buffer executor with
                    | error error =>
                        rw [made] at assembled
                        cases assembled
                    | ok buffer =>
                        rw [made] at assembled
                        obtain ⟨rfl, rfl⟩ := Prod.mk.inj (Except.ok.inj assembled)
                        exact ⟨cfg.pageSize, lowest, start_over clock made (CachedDevice.bringUp_over
                          (PageBlobBackend.upholds _ _) (page_fits short lowest) (base _ rfl) up)⟩

/-- Every upload to the blob has an accepted length as long as the pages and the written ranges do. -/
theorem uploads_within_limit {host : Host} {executor : Executor} {files : CacheFiles} {budgetFile : List Entry}
    {clock : Nat} {backend : PageBlobBackend} {stack : DeviceStack} (fresh : backend.puts = [])
    (assembled : options.assemble host executor files budgetFile clock backend = .ok (device, stack))
    (events : List DeviceEvent) (within : options.WithinLimit backend.snapshot.isSome device events) :
    ∀ put ∈ (stack.serve device backend.snapshot.isSome events).base.puts, AcceptedLength put.2 :=
  (serve_frugal events within (assemble_frugal fresh assembled within.pages)).puts

/-- Pages of four mebibytes suit the service, whatever the clients write. -/
theorem uploads_within_limit_buffered : ∃ stack,
    StackOptions.assemble ⟨none, ⟨4194304, 64, 256, 0⟩⟩ FileCacheBackend.calmHost BufferedBackend.steadyExecutor .empty [] 0
        ⟨⟨1, []⟩, "disk", some ⟨8388608, fun _ => 0⟩, none, [], [], [], []⟩ = .ok (8388608, stack) ∧
      ∀ put ∈ (stack.serve 8388608 false [.request ⟨NbdTarget.nbdCmdWrite, 0, 512, List.replicate 512 7⟩,
        .request ⟨NbdTarget.nbdCmdFlush, 0, 0, []⟩]).base.puts, AcceptedLength put.2 := by
  obtain ⟨stack, assembled⟩ : ∃ stack, StackOptions.assemble ⟨none, ⟨4194304, 64, 256, 0⟩⟩ FileCacheBackend.calmHost
      BufferedBackend.steadyExecutor .empty [] 0
      ⟨⟨1, []⟩, "disk", some ⟨8388608, fun _ => 0⟩, none, [], [], [], []⟩ = .ok (8388608, stack) := ⟨_, rfl⟩
  refine ⟨stack, assembled, uploads_within_limit rfl assembled _ ⟨.inr ?_, .inr (.inl (by decide))⟩⟩
  intro pageSize lowest
  obtain rfl := Option.some.inj lowest
  decide

end DeviceStack

section Direct

namespace PageBlobBackend

variable {backend : PageBlobBackend} {offset : Nat} {payload : List UInt8}

theorem uploadPages_puts (offset : Nat) (payload : List UInt8) (backend : PageBlobBackend) :
    (uploadPages offset payload backend).2.puts = backend.puts ++ [(offset, payload.length)] := by
  unfold uploadPages submit
  dsimp only
  split
  · split
    · rfl
    · rfl
  · rfl
  · rfl
  · split
    · rfl
    · rfl

/-- The first attempt of a write issues its request. -/
theorem withRetry_uploads (config : RetryConfig) (left : Nat) (backend : PageBlobBackend) :
    (offset, payload.length) ∈ (withRetry config (uploadPages offset payload) left backend).2.puts := by
  have first (backend : PageBlobBackend) : (offset, payload.length) ∈ (uploadPages offset payload backend).2.puts := by
    rw [uploadPages_puts]
    exact List.mem_append_right _ (List.mem_singleton.mpr rfl)
  induction left generalizing backend with
  | zero => exact first backend
  | succ left ih =>
      have issued := first backend
      rw [withRetry]
      cases outcome : uploadPages offset payload backend with
      | mk result after =>
          rw [outcome] at issued
          cases result with
          | ok value => exact issued
          | error error =>
              dsimp only
              split
              · exact ih after
              · exact issued

theorem write_uploads (plain : backend.snapshot = none) (start : offset % 512 = 0) (whole : payload.length % 512 = 0) :
    (offset, payload.length) ∈ (write offset payload backend).2.puts := by
  have writable : checkWritable "write" backend = (.ok (), backend) := by
    rw [checkWritable, Action.ensure_apply, if_pos plain]
  have offsetPasses : checkAligned "offset" offset backend = (.ok (), backend) := by
    rw [checkAligned, Action.ensure_apply, if_pos start]
  have lengthPasses : checkAligned "data length" payload.length backend = (.ok (), backend) := by
    rw [checkAligned, Action.ensure_apply, if_pos whole]
  have issued := @withRetry_uploads offset payload backend.retry (backend.retry.attempts - 1) backend
  unfold write
  rw [Action.bind_ok writable, Action.bind_ok offsetPasses, Action.bind_ok lengthPasses]
  unfold call
  dsimp only
  cases outcome : withRetry backend.retry (uploadPages offset payload) (backend.retry.attempts - 1) backend with
  | mk result after =>
      rw [outcome] at issued
      cases result <;> exact issued

end PageBlobBackend

/-- Without a layer that has pages, an accepted write request is one upload of its whole range. -/
theorem DeviceStack.direct_uploads {device : Nat} {request : NbdRequest} {backend : PageBlobBackend}
    (writes : request.cmd = NbdTarget.nbdCmdWrite)
    (passes : NbdTarget.boundsError request.offset request.length device = none)
    (carried : request.payload.length = request.length) (plain : backend.snapshot = none) :
    (request.offset, request.length) ∈ ((DeviceStack.blob backend).handle device false (.request request)).base.puts := by
  obtain ⟨cmd, offset, length, payload⟩ := request
  dsimp only at writes passes carried
  subst writes carried
  have aligned : offset % 512 = 0 ∧ payload.length % 512 = 0 := by
    unfold NbdTarget.boundsError at passes
    split at passes
    · cases passes
    · rename_i aligned
      exact ⟨not_not.mp fun skew => aligned (.inl skew), not_not.mp fun skew => aligned (.inr skew)⟩
  have issued := PageBlobBackend.write_uploads plain aligned.1 aligned.2
  have got : NbdTarget.readExact "read write payload" payload.length
      (⟨payload, [], DeviceStack.blob backend, []⟩ : NbdTarget.Conn DeviceStack) =
        (.ok payload, ⟨[], [], DeviceStack.blob backend, []⟩) := by
    rw [NbdTarget.readExact, if_pos le_rfl, List.take_length, List.drop_length]
  unfold DeviceStack.handle NbdTarget.dispatch
  dsimp only
  rw [if_neg (by decide), if_neg (by decide), if_pos rfl, Action.bind_ok got, NbdTarget.changeDevice,
    if_neg Bool.false_ne_true, passes]
  dsimp only
  have replied := @NbdTarget.replied_keeps DeviceStack fun stack => (offset, payload.length) ∈ stack.base.puts
  rw [Action.bind_ok (show NbdTarget.callBackend _ _ _ = (.ok _, _) from rfl)]
  dsimp only
  cases (BlobBackend.write offset payload (DeviceStack.blob backend)).1 with
  | error error => exact replied NbdTarget.nbdEio 0 [] _ issued
  | ok value => exact replied 0 0 [] _ issued

/-- A write request of eight mebibytes is one upload when nothing splits it. -/
theorem uploads_beyond_limit :
    ¬ ∀ (options : StackOptions) (host : Host) (executor : Executor) (files : CacheFiles) (budgetFile : List Entry)
      (clock : Nat) (backend : PageBlobBackend) (device : Nat) (stack : DeviceStack) (events : List DeviceEvent),
      backend.puts = [] → options.assemble host executor files budgetFile clock backend = .ok (device, stack) →
      (∀ request, .request request ∈ events → request.length ≤ maxAdvertisedBytes) →
      ∀ put ∈ (stack.serve device backend.snapshot.isSome events).base.puts, AcceptedLength put.2 := by
  intro holds
  have limited := holds ⟨none, ⟨0, 64, 256, 0⟩⟩ FileCacheBackend.calmHost BufferedBackend.steadyExecutor .empty [] 0
    ⟨⟨1, []⟩, "disk", some ⟨8388608, fun _ => 0⟩, none, [], [], [], []⟩ 8388608
    (.blob ⟨⟨1, []⟩, "disk", some ⟨8388608, fun _ => 0⟩, none, [], [], [], []⟩)
    [.request ⟨NbdTarget.nbdCmdWrite, 0, 8388608, List.replicate 8388608 7⟩] rfl rfl (by
      intro request member
      obtain rfl := DeviceEvent.request.inj (List.mem_singleton.mp member)
      exact (by decide : 8388608 ≤ maxAdvertisedBytes))
  have issued := @DeviceStack.direct_uploads 8388608 ⟨NbdTarget.nbdCmdWrite, 0, 8388608, List.replicate 8388608 7⟩
    ⟨⟨1, []⟩, "disk", some ⟨8388608, fun _ => 0⟩, none, [], [], [], []⟩ rfl (by decide) List.length_replicate rfl
  rw [DeviceStack.serve, List.foldl_cons, List.foldl_nil] at limited
  exact absurd (limited _ issued).2.2 (by decide)

end Direct
end Stack
end UblkAzblob
