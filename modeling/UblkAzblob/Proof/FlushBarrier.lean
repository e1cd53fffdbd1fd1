import UblkAzblob.Proof.BufferReads

namespace UblkAzblob
namespace BufferedBackend
open Storage

section Since

variable {Inner : Type} [BlobBackend Inner] [SectorStore Inner]

/-- A sector of the store holds what it held after some number of applied chunks, and that number is late enough. -/
def Since (ledger : BufferLedger Inner) (first sector : Nat) (store : Store) : Prop :=
  ∃ count, first ≤ count ∧ count ≤ ledger.applied ∧
    AgreeOn (512 * sector) (512 * sector + 512) store (ledger.version count)

/-- The bytes of a page, read as a store. -/
def paged (buffer : BufferedBackend) (bytes : List UInt8) : Store := fun x => byteAt bytes (x % buffer.config.pageSize)

/-- Every sector of a page is late enough in the inner store, and so are the uploads of the page that are running. -/
structure Secure (buffer : BufferedBackend) (device : Nat) (ledger : BufferLedger Inner) (first page : Nat) : Prop where
  inner : ∀ sector, 512 * sector < device → 512 * sector / buffer.config.pageSize = page →
    Since ledger first sector (SectorStore.content ledger.sys.world.inner)
  uploads : ∀ seq offset bytes, (page, .writing seq offset bytes) ∈ ledger.sys.pending → ∀ sector, 512 * sector < device →
    512 * sector / buffer.config.pageSize = page → Since ledger first sector (buffer.paged bytes)

variable {buffer : BufferedBackend} {device first page : Nat} {ledger next : BufferLedger Inner}

theorem Since.evolved {sector : Nat} {store : Store} (since : Since ledger first sector store)
    (evolved : Evolved buffer device ledger next) : Since next first sector store := by
  obtain ⟨count, late, bound, agree⟩ := since
  refine ⟨count, late, bound.trans evolved.versions.1, ?_⟩
  rw [evolved.versions.2 count bound]
  exact agree

/-- The present contents are late enough. -/
theorem since_of_shows {bytes : List UInt8} {sector : Nat} (kept : Steady buffer device ledger) (late : first ≤ ledger.applied)
    (inside : 512 * sector < device) (own : 512 * sector / buffer.config.pageSize = page)
    (shows : Shows buffer device page bytes (buffer.contents ledger.sys.world)) :
    Since ledger first sector (buffer.paged bytes) := by
  have aligned := kept.tidy.deviceAligned
  refine ⟨ledger.applied, late, le_rfl, fun x low high => ?_⟩
  exact (shows x (by omega) ((sector_page buffer low high).trans own)).trans (kept.current x (Nat.zero_le _) (by omega))

/-- A secure page stays secure in every turn. -/
theorem Secure.evolved (secure : Secure buffer device ledger first page) (kept : Steady buffer device ledger)
    (late : first ≤ ledger.applied) (evolved : Evolved buffer device ledger next) :
    Secure buffer device next first page := by
  constructor
  · intro sector inside own
    rcases evolved.ashore sector inside with same | ⟨seq, offset, bytes, member, taken⟩
    · obtain ⟨count, after, bound, agree⟩ := (secure.inner sector inside own).evolved evolved
      exact ⟨count, after, bound, same.trans agree⟩
    · rw [own] at member
      obtain ⟨count, after, bound, agree⟩ := (secure.uploads seq offset bytes member sector inside own).evolved evolved
      exact ⟨count, after, bound, fun x low high => (taken x low high).trans (agree x low high)⟩
  · intro seq offset bytes member sector inside own
    rcases evolved.copied page seq offset bytes member with old | ⟨_, shows⟩
    · exact (secure.uploads seq offset bytes old sector inside own).evolved evolved
    · exact (since_of_shows kept late inside own shows).evolved evolved

/-- A page that is not dirty is secure. -/
theorem secure_of_clean (kept : Steady buffer device ledger) (late : first ≤ ledger.applied)
    (clean : ∀ found, ledger.sys.world.state.pages.find? page = some found → found.dirty = false) :
    Secure buffer device ledger first page := by
  have aligned := kept.tidy.deviceAligned
  constructor
  · intro sector inside own
    refine ⟨ledger.applied, late, le_rfl, fun x low high => ?_⟩
    have here := (sector_page buffer low high).trans own
    rw [← kept.current x (Nat.zero_le _) (by omega), BufferedBackend.contents, here]
    cases present : ledger.sys.world.state.pages.find? page with
    | none => rfl
    | some found => exact (kept.tidy.clean page found present (clean found present) x (by omega) here).symm
  · intro seq offset bytes member sector inside own
    rcases (kept.uploads.running page seq offset bytes member).current with ⟨found, present, dirty⟩ | shows
    · exact absurd ((clean found present).symm.trans dirty) Bool.false_ne_true
    · exact since_of_shows kept late inside own shows

end Since

section Barrier

variable {Inner : Type} [BlobBackend Inner] [SectorStore Inner]

/-- An upload of a flush is still to come, or carries bytes that are late enough. -/
def Underway (buffer : BufferedBackend) (device : Nat) (ledger : BufferLedger Inner) (first page : Nat) :
    WritePhase → Prop
  | .waiting => True
  | .writing _ _ bytes => ∀ sector, 512 * sector < device → 512 * sector / buffer.config.pageSize = page →
      Since ledger first sector (buffer.paged bytes)
  | .written _ => False
  | .done (.error _) => True
  | .done (.ok ()) => False

/-- What a flush has reached: every page of the device is secure or has an upload underway. -/
def Reached (buffer : BufferedBackend) (device : Nat) (ledger : BufferLedger Inner) (first : Nat) (call : BufferCall) : Prop :=
  match call.phase with
  | .entering => True
  | .collecting => True
  | .flushing uploads => ∀ page, Secure buffer device ledger first page ∨
      ∃ phase, (page, phase) ∈ uploads ∧ Underway buffer device ledger first page phase
  | .syncing => ∀ page, Secure buffer device ledger first page
  | .returned (.ok _) => ∀ page, Secure buffer device ledger first page
  | .returned (.error _) => True
  | _ => False

/-- Every flush has reached what it must, counted from the chunks that were applied when it was issued. -/
structure Barrier (buffer : BufferedBackend) (device : Nat) (ledger : BufferLedger Inner) : Prop where
  began : ∀ index call, ledger.sys.calls[index]? = some call → ledger.began index ≤ ledger.applied
  reached : ∀ index call, ledger.sys.calls[index]? = some call → call.request = .flush →
    Reached buffer device ledger (ledger.began index) call

variable {buffer : BufferedBackend} {device first page : Nat} {ledger next : BufferLedger Inner} {call : BufferCall}

theorem Underway.evolved {phase : WritePhase} (underway : Underway buffer device ledger first page phase)
    (evolved : Evolved buffer device ledger next) : Underway buffer device next first page phase := by
  cases phase with
  | waiting => trivial
  | writing seq offset bytes => exact fun sector inside own => (underway sector inside own).evolved evolved
  | written seq => exact underway
  | done result =>
      cases result with
      | error error => trivial
      | ok value => exact underway

theorem Reached.evolved (reached : Reached buffer device ledger first call) (kept : Steady buffer device ledger)
    (late : first ≤ ledger.applied) (evolved : Evolved buffer device ledger next) :
    Reached buffer device next first call := by
  unfold Reached at reached ⊢
  split at reached
  · trivial
  · trivial
  · rename_i uploads flushing
    intro page
    refine (reached page).imp (fun secure => secure.evolved kept late evolved) ?_
    rintro ⟨phase, member, underway⟩
    exact ⟨phase, member, underway.evolved evolved⟩
  · exact fun page => (reached page).evolved kept late evolved
  · exact fun page => (reached page).evolved kept late evolved
  · trivial
  · exact reached.elim

/-- A step of a flush reaches what the flush must have reached. -/
theorem advance_reached {index : Nat} (kept : Steady buffer device ledger) (found : ledger.sys.calls[index]? = some call)
    (flush : call.request = .flush) (late : first ≤ ledger.applied) (evolved : Evolved buffer device ledger next)
    (reached : Reached buffer device ledger first call) :
    Reached buffer device next first (buffer.advance call ledger.sys.world).1 := by
  have still := reached.evolved kept late evolved
  obtain ⟨request, devSize, pieces, output, phase⟩ := call
  obtain rfl : request = .flush := flush
  cases phase with
  | entering => trivial
  | collecting =>
      have clean (page : Nat) (absent : page ∉ ledger.sys.world.state.dirtyIndices) :
          Secure buffer device next first page := by
        refine (secure_of_clean kept late fun found present => ?_).evolved kept late evolved
        by_contra dirty
        exact absent (BufferState.mem_dirty.mpr ⟨found, present, by simpa using dirty⟩)
      unfold advance
      dsimp only
      by_cases none : ledger.sys.world.state.dirtyIndices = []
      · rw [if_pos none]
        exact fun page => clean page (by rw [none]; exact List.not_mem_nil)
      · rw [if_neg none]
        intro page
        by_cases dirty : page ∈ ledger.sys.world.state.dirtyIndices
        · exact .inr ⟨.waiting, List.mem_map.mpr ⟨page, dirty, rfl⟩, trivial⟩
        · exact .inl (clean page dirty)
  | flushing uploads =>
      unfold advance settle
      dsimp only
      cases failed : uploads.findSome? fun upload => upload.2.error? with
      | some error => trivial
      | none =>
          dsimp only
          split
          · rename_i finished
            intro page
            refine (still page).resolve_right ?_
            rintro ⟨phase, member, underway⟩
            have done := List.all_eq_true.mp finished _ member
            have fine := List.findSome?_eq_none_iff.mp failed _ member
            cases phase with
            | waiting => cases done
            | writing seq offset bytes => cases done
            | written seq => cases done
            | done result =>
                cases result with
                | error error => cases fine
                | ok value => exact underway
          · exact still
  | syncing =>
      unfold advance
      dsimp only
      split
      · trivial
      · exact still
  | returned result => exact still
  | sized size => exact reached.elim
  | checking => exact reached.elim
  | loading => exact reached.elim
  | loaded bytes => exact reached.elim
  | applying => exact reached.elim
  | limiting => exact reached.elim

/-- A step of an upload of a flush reaches what the flush must have reached. -/
theorem upload_reached {index slot : Nat} {phase : WritePhase} {request : BlobRequest} {devSize : Nat} {pieces : List Chunk}
    {output : List UInt8} {uploads : List (Nat × WritePhase)} {landings seen began : Nat → Nat} (kept : Steady buffer device ledger)
    (found : ledger.sys.calls[index]? = some ⟨request, devSize, pieces, output, .flushing uploads⟩)
    (there : uploads[slot]? = some (page, phase))
    (alone : phase = .waiting → ledger.sys.world.state.snapshot buffer.config page = none ∨
      page ∉ writings ledger.sys.pending) (late : first ≤ ledger.applied)
    (evolved : Evolved buffer device ledger ⟨⟨(buffer.flushIndex page phase ledger.sys.world).2,
      ledger.sys.calls.set index ⟨request, devSize, pieces, output, .flushing
        (uploads.set slot (page, (buffer.flushIndex page phase ledger.sys.world).1))⟩⟩,
      ledger.applied, ledger.version, landings, seen, began⟩)
    (reached : Reached buffer device ledger first ⟨request, devSize, pieces, output, .flushing uploads⟩) :
    Reached buffer device ⟨⟨(buffer.flushIndex page phase ledger.sys.world).2,
        ledger.sys.calls.set index ⟨request, devSize, pieces, output, .flushing
          (uploads.set slot (page, (buffer.flushIndex page phase ledger.sys.world).1))⟩⟩,
        ledger.applied, ledger.version, landings, seen, began⟩ first
      ⟨request, devSize, pieces, output, .flushing
        (uploads.set slot (page, (buffer.flushIndex page phase ledger.sys.world).1))⟩ := by
  obtain ⟨inside, here⟩ := List.getElem?_eq_some_iff.mp there
  obtain ⟨front, back, replaced, moved⟩ := upload_uploaded kept found there alone
  set after : BufferLedger Inner := ⟨⟨(buffer.flushIndex page phase ledger.sys.world).2,
    ledger.sys.calls.set index ⟨request, devSize, pieces, output, .flushing
      (uploads.set slot (page, (buffer.flushIndex page phase ledger.sys.world).1))⟩⟩,
    ledger.applied, ledger.version, landings, seen, began⟩ with afterEq
  have placed : (page, (buffer.flushIndex page phase ledger.sys.world).1) ∈
      uploads.set slot (page, (buffer.flushIndex page phase ledger.sys.world).1) := List.mem_set inside _
  intro other
  rcases reached other with secure | ⟨phase', member, underway⟩
  · exact .inl (secure.evolved kept late evolved)
  · obtain ⟨position, elsewhere⟩ := List.mem_iff_getElem?.mp member
    by_cases same : position = slot
    · subst same
      obtain ⟨rfl, rfl⟩ := Prod.mk.inj (Option.some.inj (elsewhere.symm.trans there))
      cases phase' with
      | waiting =>
          rcases moved.spared rfl with running | ⟨_, _, nothing⟩
          · refine .inr ⟨_, placed, ?_⟩
            cases copy : (buffer.flushIndex other .waiting ledger.sys.world).1 with
            | writing seq offset bytes =>
                exact fun sector inside own => (since_of_shows kept late inside own (moved.copied _ _ _ copy).2).evolved evolved
            | waiting => trivial
            | written seq =>
                rw [copy] at running
                cases running
            | done result =>
                rw [copy] at running
                cases running
          · refine .inl ((secure_of_clean kept late fun found present => ?_).evolved kept late evolved)
            by_contra dirty
            obtain ⟨_, _, taken⟩ := BufferState.snapshot_dirty buffer.config present (by simpa using dirty)
            rw [nothing] at taken
            cases taken
      | writing seq offset bytes =>
          cases ended : (buffer.flushIndex other (.writing seq offset bytes) ledger.sys.world).1.error? with
          | some error =>
              refine .inr ⟨_, placed, ?_⟩
              cases last : (buffer.flushIndex other (.writing seq offset bytes) ledger.sys.world).1 with
              | done result =>
                  cases result with
                  | error error => trivial
                  | ok value =>
                      rw [last] at ended
                      cases ended
              | waiting => trivial
              | writing seq offset bytes =>
                  rw [last] at ended
                  cases ended
              | written seq =>
                  rw [last] at ended
                  cases ended
          | none =>
              have shows := moved.carried seq offset bytes rfl ended
              refine .inl ⟨fun sector inside own => ?_, fun seq' offset' bytes' still => ?_⟩
              · obtain ⟨count, enough, bound, agree⟩ := (underway.evolved evolved) sector inside own
                have aligned := kept.tidy.deviceAligned
                refine ⟨count, enough, bound, fun x low high => ?_⟩
                rw [← agree x low high]
                exact (shows x (by omega) ((sector_page buffer low high).trans own)).symm
              · refine absurd (mem_writings.mpr ⟨seq', offset', bytes', ?_⟩) (moved.ended rfl)
                rw [← replaced]
                exact still
      | written seq => exact underway.elim
      | done result =>
          cases result with
          | error error => exact .inr ⟨_, placed, trivial⟩
          | ok value => exact underway.elim
    · refine .inr ⟨phase', ?_, underway.evolved evolved⟩
      exact List.mem_of_getElem? ((List.getElem?_set_ne (Ne.symm same)).trans elsewhere)

omit [SectorStore Inner] in
/-- A call stays the request that it was issued for. -/
theorem advance_request (buffer : BufferedBackend) (call : BufferCall) (world : BufferWorld Inner) :
    (buffer.advance call world).1.request = call.request := by
  have opened (op : String) (offset len devSize : Nat) (world : BufferWorld Inner) :
      (buffer.openRange call op offset len devSize world).1.request = call.request := by
    unfold openRange
    split
    · rfl
    · rfl
  unfold advance
  split
  · unfold enter
    split
    · rfl
    · split
      · rfl
      · split
        · rfl
        · split
          · exact opened _ _ _ _ _
          · split
            · rfl
            · rfl
  · unfold learnSize
    dsimp only
    split
    · rfl
    · exact opened _ _ _ _ _
  · rfl
  · unfold settle
    split
    · rfl
    · split
      · split
        · rfl
        · rfl
      · rfl
  · split
    · rfl
    · rfl
  · rfl
  · split
    · rfl
    · unfold chunkTurn
      split
      · rfl
      · split
        · rfl
        · rfl
      · rfl
      · unfold applyChunk
        split
        · split
          · rfl
          · rfl
        · split
          · rfl
          · rfl
      · dsimp only
        split
        · rfl
        · rfl
      · rfl

omit [BlobBackend Inner] [SectorStore Inner] in
theorem witness_began (buffer : BufferedBackend) (index : Nat) (call : BufferCall) (ledger : BufferLedger Inner) :
    (buffer.witness index call ledger).began = ledger.began := by
  unfold witness
  split
  · rfl
  · split
    · rfl
    · dsimp only
      split
      · rfl
      · rfl
  · split
    · rfl
    · rfl
  · rfl

/-- One call moves, and the flushes among the others keep what they have reached. -/
theorem Barrier.moved {index : Nat} {other : BufferCall} (barrier : Barrier buffer device ledger)
    (kept : Steady buffer device ledger) (evolved : Evolved buffer device ledger next)
    (found : ledger.sys.calls[index]? = some call) (calls : next.sys.calls = ledger.sys.calls.set index other)
    (began : next.began = ledger.began)
    (own : other.request = .flush → Reached buffer device next (ledger.began index) other) : Barrier buffer device next := by
  have inside : index < ledger.sys.calls.length := (List.getElem?_eq_some_iff.mp found).1
  constructor
  · intro position moved there
    rw [calls] at there
    rw [began]
    refine Nat.le_trans ?_ evolved.versions.1
    by_cases same : position = index
    · exact same ▸ barrier.began index call found
    · rw [List.getElem?_set_ne (Ne.symm same)] at there
      exact barrier.began position moved there
  · intro position moved there flush
    rw [calls] at there
    rw [began]
    by_cases same : position = index
    · subst same
      rw [List.getElem?_set_self inside] at there
      obtain rfl := Option.some.inj there
      exact own flush
    · rw [List.getElem?_set_ne (Ne.symm same)] at there
      exact (barrier.reached position moved there flush).evolved kept (barrier.began position moved there) evolved

/-- Every turn keeps the barrier. -/
theorem record_barrier {turn : BufferTurn} (kept : Steady buffer device ledger) (barrier : Barrier buffer device ledger)
    (alone : buffer.snapshotAlone ledger turn = true) (fresh : freshInsert ledger turn = true)
    (counts : countsOn ledger turn = true) (taken : buffer.record ledger turn = some next) :
    Barrier buffer device next := by
  have evolved := (record_kept kept alone fresh counts taken).2
  obtain ⟨sys, stepped, rfl⟩ := Option.map_eq_some_iff.mp taken
  cases turn with
  | issue request =>
      obtain rfl := Option.some.inj stepped
      have noted (position : Nat) : BufferLedger.note ledger.began ledger.sys.calls.length ledger.applied position =
          if position = ledger.sys.calls.length then ledger.applied else ledger.began position := rfl
      constructor
      · intro position call there
        change BufferLedger.note ledger.began ledger.sys.calls.length ledger.applied position ≤ ledger.applied
        rw [noted]
        split
        · exact le_rfl
        · rename_i old
          have bound := (List.getElem?_eq_some_iff.mp there).1
          rw [List.length_append, List.length_singleton] at bound
          rw [List.getElem?_append_left (by omega)] at there
          exact barrier.began position call there
      · intro position call there flush
        change Reached buffer device _ (BufferLedger.note ledger.began ledger.sys.calls.length ledger.applied position) call
        rw [noted]
        by_cases old : position < ledger.sys.calls.length
        · rw [List.getElem?_append_left old] at there
          rw [if_neg (by omega)]
          exact (barrier.reached position call there flush).evolved kept (barrier.began position call there) evolved
        · rw [List.getElem?_append_right (by omega)] at there
          obtain rfl := List.mem_singleton.mp (List.mem_of_getElem? there)
          trivial
  | call index =>
      unfold step at stepped
      unfold annotate at evolved ⊢
      dsimp only at stepped evolved ⊢
      cases found : ledger.sys.calls[index]? with
      | none =>
          rw [found] at stepped
          cases stepped
      | some call =>
          rw [found] at stepped evolved
          obtain rfl := Option.some.inj stepped
          refine barrier.moved kept evolved found rfl (witness_began buffer index call ledger) fun flush => ?_
          have own : call.request = .flush := (advance_request buffer call ledger.sys.world).symm.trans flush
          exact advance_reached kept found own (barrier.began index call found) evolved (barrier.reached index call found own)
  | upload index slot =>
      unfold step at stepped
      unfold annotate at evolved ⊢
      dsimp only at stepped evolved ⊢
      split at stepped
      · rename_i request devSize pieces output uploads found
        cases there : uploads[slot]? with
        | none =>
            rw [there] at stepped
            cases stepped
        | some upload =>
            obtain ⟨page, phase⟩ := upload
            rw [there] at stepped
            obtain rfl := Option.some.inj stepped
            have own : ledger.sys.upload? index slot = some (page, phase) := by
              rw [BufferSystem.upload?, found]
              exact there
            exact barrier.moved kept evolved found rfl rfl fun flush => upload_reached kept found there
              (alone_of_snapshotAlone own alone) (barrier.began index _ found) evolved (barrier.reached index _ found flush)
      · cases stepped
  | expire index =>
      unfold step at stepped
      unfold annotate at evolved ⊢
      dsimp only at stepped evolved ⊢
      split at stepped
      · rename_i request devSize pieces output uploads found
        split at stepped
        · cases stepped
        · obtain rfl := Option.some.inj stepped
          rw [found] at evolved ⊢
          exact barrier.moved kept evolved found rfl rfl fun _ => trivial
      · cases stepped

end Barrier

section Unlimited

variable {Inner : Type} [BlobBackend Inner] [SectorStore Inner] {buffer : BufferedBackend} {device : Nat}
variable {ledger next : BufferLedger Inner}

/-- Without a limit a page that was ever uploaded is resident. -/
structure Lasting (ledger : BufferLedger Inner) : Prop where
  landed : ∀ page, ledger.landings page ≠ 0 → ledger.sys.world.state.pages.contains page = true
  running : ∀ page ∈ writings ledger.sys.pending, ledger.sys.world.state.pages.contains page = true

theorem Lasting.evolved (lasting : Lasting ledger) (unlimited : buffer.config.maxCachedPages = 0)
    (evolved : Evolved buffer device ledger next) : Lasting next := by
  constructor
  · intro page landed
    refine evolved.stays unlimited page ?_
    rcases evolved.tolled page with same | running
    · exact lasting.landed page (same ▸ landed)
    · exact lasting.running page running
  · intro page running
    obtain ⟨seq, offset, bytes, member⟩ := mem_writings.mp running
    refine evolved.stays unlimited page ?_
    rcases evolved.copied page seq offset bytes member with old | ⟨resident, _⟩
    · exact lasting.running page (mem_writings.mpr ⟨seq, offset, bytes, old⟩)
    · exact resident

/-- So every page that is inserted is fresh. -/
theorem freshInsert_of_lasting (kept : Steady buffer device ledger) (lasting : Lasting ledger) (turn : BufferTurn) :
    freshInsert ledger turn = true := by
  unfold freshInsert
  split
  · rename_i index
    split
    · rename_i request devSize chunk rest output bytes found
      by_cases resident : ledger.sys.world.state.pages.contains chunk.page = true
      · rw [resident]
        rfl
      · have never : ledger.landings chunk.page = 0 := by
          by_contra landed
          exact resident (lasting.landed chunk.page landed)
        have bound := ((kept.calls index _ found).fresh bytes chunk rest rfl rfl).2.1
        refine Bool.or_eq_true_iff.mpr (.inr (decide_eq_true ?_))
        omega
    · rfl
  · rfl

/-- Without a limit on the resident pages, while every page is copied for an upload only when no other upload of it is
running, a clean page repeats the inner store; and what was applied before a successful flush was issued is in the inner
store ever after, where only later contents replace it. -/
theorem flush_barrier (buffer : BufferedBackend) (unlimited : buffer.config.maxCachedPages = 0) (inner : Inner)
    (valid : SectorStore.valid inner) (clock : Nat) {turns : List BufferTurn}
    (alone : along buffer.record (fun ledger turn => buffer.snapshotAlone ledger turn && countsOn ledger turn)
      (.start inner clock (SectorStore.content inner)) turns = true)
    (run : execute buffer.record (.start inner clock (SectorStore.content inner)) turns = some ledger) :
    (∀ page found, ledger.sys.world.state.pages.find? page = some found → found.dirty = false →
      Shows buffer (SectorStore.size inner) page found.data (SectorStore.content ledger.sys.world.inner)) ∧
    ∀ (index : Nat) (call : BufferCall) (bytes : List UInt8), ledger.sys.calls[index]? = some call →
      call.request = .flush → call.phase = .returned (.ok bytes) → ∀ sector, 512 * sector < SectorStore.size inner →
        Since ledger (ledger.began index) sector (SectorStore.content ledger.sys.world.inner) := by
  have holds : Steady buffer (SectorStore.size inner) ledger ∧ Barrier buffer (SectorStore.size inner) ledger ∧
      Lasting ledger := by
    refine @execute_invariant _ _ _ _ (fun ledger => Steady buffer (SectorStore.size inner) ledger ∧
        Barrier buffer (SectorStore.size inner) ledger ∧ Lasting ledger) (fun ledger turn next inv condition taken => ?_) _ _ _
      ⟨start_kept buffer valid clock, ⟨fun index call there => (by cases there), fun index call there => (by cases there)⟩,
        ⟨fun page landed => absurd rfl landed, fun page running => (by cases running)⟩⟩ alone run
    obtain ⟨kept, barrier, lasting⟩ := inv
    have fresh := freshInsert_of_lasting kept lasting turn
    obtain ⟨single, counts⟩ := Bool.and_eq_true_iff.mp condition
    obtain ⟨after, evolved⟩ := record_kept kept single fresh counts taken
    exact ⟨after, record_barrier kept barrier single fresh counts taken, lasting.evolved unlimited evolved⟩
  obtain ⟨kept, barrier, _⟩ := holds
  refine ⟨fun page found present clean x inside own => kept.tidy.clean page found present clean x inside own, ?_⟩
  intro index call bytes found flush returned sector inside
  have reached := barrier.reached index call found flush
  unfold Reached at reached
  rw [returned] at reached
  exact (reached _).inner sector inside rfl

/-- A buffer that keeps every page. -/
def keepingBuffer : BufferedBackend :=
  ⟨⟨512, 1, 0, 0⟩, by decide, by decide, by decide, by decide, ⟨fun _ => [], fun _ => none, fun _ _ => 0⟩⟩

theorem flush_barrier_write_then_flush :
    ∃ ledger, execute keepingBuffer.record (.start (⟨1024, fun _ => 0⟩ : MemBackend) 0 fun _ => 0) writeThenFlush =
        some ledger ∧
      ∀ (index : Nat) (call : BufferCall) (bytes : List UInt8), ledger.sys.calls[index]? = some call →
        call.request = .flush → call.phase = .returned (.ok bytes) → ∀ sector, 512 * sector < 1024 →
          Since ledger (ledger.began index) sector ledger.sys.world.inner.data := by
  obtain ⟨ledger, run⟩ := Option.isSome_iff_exists.mp (show (execute keepingBuffer.record
    (.start (⟨1024, fun _ => 0⟩ : MemBackend) 0 fun _ => 0) writeThenFlush).isSome = true by decide +kernel)
  have valid : SectorStore.valid (⟨1024, fun _ => 0⟩ : MemBackend) := ⟨rfl, (by decide : 1024 < 2 ^ 64)⟩
  exact ⟨ledger, run, (flush_barrier keepingBuffer rfl (⟨1024, fun _ => 0⟩ : MemBackend) valid 0
    (show along keepingBuffer.record (fun ledger turn => keepingBuffer.snapshotAlone ledger turn && countsOn ledger turn)
      (.start (⟨1024, fun _ => 0⟩ : MemBackend) 0 fun _ => 0) writeThenFlush = true by decide +kernel) run).2⟩

/-- A flush copies a page, the page is written again and flushed by a second flush, and the first upload lands last. -/
def crossedFlushes : List BufferTurn :=
  [.issue (.write 0 (List.replicate 512 1))] ++ List.replicate 7 (.call 0) ++
    [.issue .flush, .call 1, .call 1, .upload 1 0] ++
    [.issue (.write 0 (List.replicate 512 2))] ++ List.replicate 4 (.call 2) ++
    [.issue .flush, .call 3, .call 3, .upload 3 0, .upload 3 0] ++
    [.upload 1 0, .upload 3 0, .call 3, .call 3, .upload 1 0, .call 1, .call 1]

/-- The second flush has succeeded, the page is clean and nothing is in flight, but the store holds the older bytes. -/
def showsOlder (ledger : BufferLedger MemBackend) : Bool :=
  match ledger.sys.world.state.pages.find? 0, (ledger.sys.calls[3]? : Option BufferCall) with
  | some found, some ⟨.flush, _, _, _, .returned (.ok _)⟩ => !found.dirty && byteAt found.data 0 = 2 &&
      ledger.sys.world.inner.data 0 = 1 && ledger.sys.pending.isEmpty && ledger.began 3 = 2 && ledger.applied = 2 &&
      ledger.version 2 0 = 2
  | _, _ => false

theorem flush_barrier_crossed :
    ∃ ledger found call bytes,
      execute keepingBuffer.record (.start (⟨1024, fun _ => 0⟩ : MemBackend) 0 fun _ => 0) crossedFlushes = some ledger ∧
      ledger.sys.world.state.pages.find? 0 = some found ∧ found.dirty = false ∧ ledger.sys.pending = [] ∧
      ¬ Shows keepingBuffer 1024 0 found.data ledger.sys.world.inner.data ∧
      ledger.sys.calls[3]? = some call ∧ call.request = .flush ∧ call.phase = .returned (.ok bytes) ∧
      ¬ Since ledger (ledger.began 3) 0 ledger.sys.world.inner.data := by
  have older : (execute keepingBuffer.record (.start (⟨1024, fun _ => 0⟩ : MemBackend) 0 fun _ => 0) crossedFlushes).any
    showsOlder = true := by decide +kernel
  obtain ⟨ledger, run, shown⟩ := (Option.any_eq_true _ _).mp older
  unfold showsOlder at shown
  split at shown
  · rename_i found devSize pieces output bytes present there
    simp only [Bool.and_eq_true, decide_eq_true_eq, Bool.not_eq_true', List.isEmpty_iff] at shown
    obtain ⟨⟨⟨⟨⟨⟨clean, written⟩, old⟩, idle⟩, began⟩, applied⟩, version⟩ := shown
    refine ⟨ledger, found, _, bytes, run, present, clean, idle, fun shows => ?_, there, rfl, rfl, ?_⟩
    · exact absurd ((written.symm.trans (shows 0 (by decide) rfl)).trans old) (by decide)
    · rintro ⟨count, late, bound, agree⟩
      obtain rfl : count = 2 := by omega
      exact absurd ((old.symm.trans (agree 0 (by decide) (by decide))).trans version) (by decide)
  · cases shown

end Unlimited

end BufferedBackend
end UblkAzblob
