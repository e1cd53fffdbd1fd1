import UblkAzblob.Proof.FileCacheOps

namespace UblkAzblob
namespace FileCacheBackend
open Storage

variable {Inner : Type} [BlobBackend Inner] [FlatStore Inner]
variable {cache : FileCacheBackend} {geometry : Geometry} {world : World Inner}

/-- The files and the inner store agree on one page. -/
def PageSynced (geometry : Geometry) (view : View) (page : Nat) : Prop :=
  ∀ x, x < geometry.devSize → x / geometry.pageSize = page → view.data x = view.inner x

/-- A flush task holds the current bytes of a dirty page, or has already stored them. -/
def FlushReady (geometry : Geometry) (view : View) (page : Nat) : FlushPhase → Prop
  | .waiting => True
  | .uploading offset generation bytes => page < geometry.numPages ∧
      offset = page * geometry.pageSize ∧ generation = view.generation page ∧
      view.dirty page = true ∧ bytes = slice view.data offset (geometry.pageLen page)
  | .uploaded generation => page < geometry.numPages ∧ generation = view.generation page ∧
      view.dirty page = true ∧ PageSynced geometry view page
  | .done (.ok ()) => view.dirty page = false
  | .done (.error _) => True

/-- A pushed cache stays sound, and stays tidy when it was. -/
structure Pushed (cache : FileCacheBackend) (geometry : Geometry) (before after : World Inner) :
    Prop where
  sound : Sound cache geometry after
  tidy : Tidy cache geometry before → Tidy cache geometry after
  traces : Traces (Pushes geometry) before after

theorem Pushed.refl (sound : Sound cache geometry world) : Pushed cache geometry world world :=
  ⟨sound, id, .refl _ _⟩

theorem Pushed.trans {first middle last : World Inner} (head : Pushed cache geometry first middle)
    (tail : Pushed cache geometry middle last) : Pushed cache geometry first last :=
  ⟨tail.sound, fun tidy => tail.tidy (head.tidy tidy), head.traces.trans tail.traces⟩

theorem Pushed.settled {after : World Inner} (pushed : Pushed cache geometry world after)
    (tidy : Tidy cache geometry world) : Settled cache geometry world after :=
  ⟨pushed.tidy tidy, Traces.mono pushed.traces fun _ _ _ => .pushes⟩

theorem Pushed.from {after : World Inner} (pushed : Pushed cache geometry world after) :
    world.view.PushedFrom geometry after.view := by
  obtain ⟨_, _, trail⟩ := pushed.traces
  refine trail.invariant _ (fun _ _ _ held step => step.pushedFrom held) ⟨rfl, rfl, rfl, fun _ => id, ?_⟩
  intro x _ clean
  rw [if_neg (by simp [clean])]

/-- A query of the inner backend is a push that shows nothing. -/
theorem query_pushed {Value : Type} (site : Site) {action : Action Inner Value}
    (sound : Sound cache geometry world)
    (keeps : FlatStore.content (action world.disk.inner).2 = FlatStore.content world.disk.inner ∧
      FlatStore.size (action world.disk.inner).2 = FlatStore.size world.disk.inner) :
    Pushed cache geometry world (World.callInner site action world).2 := by
  have sameView : (World.callInner site action world).2.view = world.view := by
    simp only [World.callInner, World.issue, World.view, World.generation, Effect.apply, keeps.1]
  refine ⟨{ sound with innerSize := keeps.2.trans sound.innerSize },
    fun tidy => { tidy with innerSize := keeps.2.trans tidy.innerSize }, _, issue_issues _ _ _, ?_⟩
  rw [sameView]
  exact Trail.single (.query world.view site _ keeps.1 (keeps.2.trans sound.innerSize))

/-- An upload of the current bytes changes only its own page of the inner store. -/
theorem upload_pushed {page : Nat} (sound : Sound cache geometry world)
    (inside : page < geometry.numPages) (dirty : world.view.dirty page = true) :
    Pushed cache geometry world (World.callInner (.upload page) (BlobBackend.write
      (page * geometry.pageSize)
      (slice world.view.data (page * geometry.pageSize) (geometry.pageLen page))) world).2 := by
  set bytes := slice world.view.data (page * geometry.pageSize) (geometry.pageLen page) with bytesEq
  have size := FlatStore.write_size world.disk.inner (page * geometry.pageSize) bytes
  refine ⟨{ sound with innerSize := size.trans sound.innerSize },
    fun tidy => { tidy with innerSize := size.trans tidy.innerSize }, _, issue_issues _ _ _, ?_⟩
  refine Trail.single (.upload world.view page _ inside dirty ?_ (size.trans sound.innerSize))
  cases answer : (BlobBackend.write (page * geometry.pageSize) bytes world.disk.inner).1 with
  | error error => exact FlatStore.write_error _ _ _ error answer
  | ok done => exact .inr (FlatStore.write_ok _ _ _ answer)

/-- A page whose bytes are in the inner store is marked clean. -/
theorem cleaned_pushed {page : Nat} (sound : Sound cache geometry world)
    (inside : page < geometry.numPages)
    (synced : world.view.dirty page = true → PageSynced geometry world.view page) :
    Pushed cache geometry world (if cache.budget.isSome
        then (persistMetaBit page (world.setDirty page false)).touch page true
        else persistMetaBit page (world.setDirty page false)) ∧
      (if cache.budget.isSome
        then (persistMetaBit page (world.setDirty page false)).touch page true
        else persistMetaBit page (world.setDirty page false)).view = world.view.cleaned page := by
  have byteInside : page / 8 < world.state.dirty.length := by
    rw [sound.dirtyLen]
    exact geometry.byte_lt_bitmapLen inside
  have marks : Marks page world (world.setDirty page false) :=
    ⟨rfl, rfl, rfl, rfl, rfl, localChange_refl _ _, localChange_bitSet false byteInside⟩
  have persisted := persistMetaBit_sound sound inside marks
  set marked := persistMetaBit page (world.setDirty page false) with markedEq
  have markedView : marked.view = world.view.cleaned page :=
    View.ext rfl rfl rfl (bitGet_bitSet_update _ _ _ byteInside) rfl
  have ownClean : bitGet marked.state.dirty page = false := by
    change marked.view.dirty page = false
    rw [markedView]
    simp [View.cleaned]
  have traces : Traces (Pushes geometry) world marked := by
    have step : Cleans geometry page _ (_ : List (Call Inner)) _ := .uploaded world.view
      (byteAt world.state.present (page / 8)) (byteAt marked.state.dirty (page / 8)) inside synced
      (encodes_byteAt _ _) (by rw [← markedView]; exact encodes_byteAt _ _)
    rw [← markedView] at step
    have unmarked : Issues world [] (world.setDirty page false) := ⟨by simp [World.setDirty], rfl⟩
    exact ⟨_, unmarked.trans (persistMetaBit_issues page (world.setDirty page false) sound.numPages),
      Trail.single (.cleans step)⟩
  have markedTidy (tidy : Tidy cache geometry world) : Tidy cache geometry marked := by
    refine ⟨persisted, ?_, ?_⟩
    · intro other budgeted evictable
      obtain ⟨otherInside, clean⟩ := tidy.evictable other budgeted evictable
      refine ⟨otherInside, ?_⟩
      by_cases own : other = page
      · rw [own]
        exact ownClean
      · exact (marks.dirty.bits other own).trans clean
    · intro other dirty
      have different : other ≠ page := by
        rintro rfl
        exact Bool.false_ne_true (ownClean.symm.trans dirty)
      exact tidy.resident other ((marks.dirty.bits other different).symm.trans dirty)
  split
  · have quiet := touch_quiet marked page true
    refine ⟨⟨quiet.sound persisted (Lru.touch_valid _ persisted.lru page true), ?_,
      traces.trans (quiet.traces _)⟩, markedView⟩
    intro tidy
    exact touch_tidy persisted inside (fun _ => ownClean)
      (fun other _ => (markedTidy tidy).evictable other) (markedTidy tidy).resident
  · exact ⟨⟨persisted, markedTidy, traces⟩, markedView⟩

/-- Two views look alike on one page. -/
structure SamePage (geometry : Geometry) (page : Nat) (before after : View) : Prop where
  data : after.data = before.data
  generation : after.generation = before.generation
  dirty : after.dirty page = before.dirty page
  inner : ∀ x, x < geometry.devSize → x / geometry.pageSize = page → after.inner x = before.inner x

theorem SamePage.refl (page : Nat) (view : View) : SamePage geometry page view view :=
  ⟨rfl, rfl, rfl, fun _ _ _ => rfl⟩

theorem FlushReady.frame {before after : View} {page : Nat} {phase : FlushPhase}
    (same : SamePage geometry page before after) (ready : FlushReady geometry before page phase) :
    FlushReady geometry after page phase := by
  cases phase with
  | waiting => trivial
  | uploading offset generation bytes =>
      simp only [FlushReady, same.data, same.generation, same.dirty]
      exact ready
  | uploaded generation =>
      obtain ⟨inside, current, dirty, synced⟩ := ready
      refine ⟨inside, by rw [same.generation, current], same.dirty.trans dirty, ?_⟩
      intro x device own
      rw [same.data, same.inner x device own]
      exact synced x device own
  | done result =>
      cases result with
      | error error => trivial
      | ok value => exact same.dirty.trans ready

/-- An upload is over when its write returned, and then the page is in the inner store. -/
theorem upload_synced (geometry : Geometry) (world : World Inner) (page : Nat)
    (success : (World.callInner (.upload page) (BlobBackend.write (page * geometry.pageSize)
      (slice world.view.data (page * geometry.pageSize) (geometry.pageLen page))) world).1 = .ok ()) :
    PageSynced geometry (World.callInner (.upload page) (BlobBackend.write (page * geometry.pageSize)
      (slice world.view.data (page * geometry.pageSize) (geometry.pageLen page))) world).2.view page := by
  intro x device own
  have range := (geometry.mem_page page x).mpr ⟨own, device⟩
  change world.view.data x = FlatStore.content (BlobBackend.write _ _ world.disk.inner).2 x
  rw [FlatStore.write_ok _ _ _ success, splice_slice, if_pos range]

theorem upload_samePage (geometry : Geometry) (world : World Inner) {page other : Nat} (different : other ≠ page) :
    SamePage geometry other world.view (World.callInner (.upload page) (BlobBackend.write
      (page * geometry.pageSize)
      (slice world.view.data (page * geometry.pageSize) (geometry.pageLen page))) world).2.view := by
  refine ⟨rfl, rfl, rfl, ?_⟩
  intro x device own
  have outside := (geometry.mem_page page x).not.mpr (by rw [own]; simp [different])
  change FlatStore.content (BlobBackend.write _ _ world.disk.inner).2 x =
    FlatStore.content world.disk.inner x
  cases answer : (BlobBackend.write (page * geometry.pageSize) (slice world.view.data
      (page * geometry.pageSize) (geometry.pageLen page)) world.disk.inner).1 with
  | error error =>
      rcases FlatStore.write_error _ _ _ error answer with same | moved
      · rw [same]
      · rw [moved, splice_slice, if_neg outside]
  | ok done => rw [FlatStore.write_ok _ _ _ answer, splice_slice, if_neg outside]

/-- One step of a flush task pushes its own page and leaves every other page alone. -/
theorem flushPage_spec {page : Nat} {phase : FlushPhase} (sound : Sound cache geometry world)
    (ready : FlushReady geometry world.view page phase) :
    Pushed cache geometry world (cache.flushPage page phase world).2 ∧
      FlushReady geometry (cache.flushPage page phase world).2.view page
        (cache.flushPage page phase world).1 ∧
      ∀ other, other ≠ page →
        SamePage geometry other world.view (cache.flushPage page phase world).2.view := by
  have unchanged (phase : FlushPhase) (ready : FlushReady geometry world.view page phase) :
      Pushed cache geometry world world ∧ FlushReady geometry world.view page phase ∧
        ∀ other, other ≠ page → SamePage geometry other world.view world.view :=
    ⟨.refl sound, ready, fun other _ => .refl other _⟩
  cases phase with
  | waiting =>
      have len : min cache.pageSize (world.state.devSize - page * cache.pageSize) =
          geometry.pageLen page := pageLen_eq sound page
      simp only [flushPage, len]
      by_cases clean : bitGet world.state.dirty page = false
      · rw [if_pos (by simp [clean])]
        exact unchanged _ clean
      rw [if_neg (by simpa using clean)]
      have dirty : bitGet world.state.dirty page = true := by simpa using clean
      have inside := sound.dirtyInside page dirty
      have device := geometry.page_end_le inside
      rw [if_neg (geometry.pageLen_pos inside).ne', File.readExactAt,
        if_pos (by rw [sound.dataLen, sound.pageSize]; exact device), sound.pageSize]
      exact unchanged _ ⟨inside, rfl, rfl, dirty, rfl⟩
  | uploading offset generation bytes =>
      obtain ⟨inside, rfl, current, dirty, rfl⟩ := ready
      have pushed := upload_pushed sound inside dirty
      have synced := upload_synced geometry world page
      have same (other : Nat) (different : other ≠ page) :=
        upload_samePage geometry world different
      simp only [flushPage, Action.withContext]
      cases answer : World.callInner (.upload page) (BlobBackend.write (page * geometry.pageSize)
          (slice world.view.data (page * geometry.pageSize) (geometry.pageLen page))) world with
      | mk outcome after =>
          have dirtyAfter : after.view.dirty page = true := by
            have sameState : after.state = world.state := by
              rw [← show _ = after from congrArg Prod.snd answer]
              rfl
            change bitGet after.state.dirty page = true
            rw [sameState]
            exact dirty
          have generationAfter : after.view.generation page = world.view.generation page := by
            rw [← show _ = after from congrArg Prod.snd answer]
            rfl
          rw [answer] at pushed synced same
          cases outcome with
          | error error => exact ⟨pushed, trivial, same⟩
          | ok value =>
              exact ⟨pushed, ⟨inside, by rw [generationAfter, current], dirtyAfter, synced rfl⟩, same⟩
  | uploaded generation =>
      obtain ⟨inside, rfl, dirty, synced⟩ := ready
      obtain ⟨pushed, view⟩ := cleaned_pushed sound inside fun _ => synced
      simp only [flushPage]
      rw [if_neg (by simp [World.view])]
      dsimp only
      refine ⟨pushed, ?_, ?_⟩
      · rw [view]
        exact Function.update_self _ _ _
      · intro other different
        rw [view]
        exact ⟨rfl, rfl, Function.update_of_ne different _ _, fun _ _ _ => rfl⟩
  | done result => exact unchanged _ ready

/-- Every step brings a flush task closer to its end. -/
def flushRank : FlushPhase → Nat
  | .waiting => 3
  | .uploading _ _ _ => 2
  | .uploaded _ => 1
  | .done _ => 0

omit [FlatStore Inner] in
theorem flushPage_closer (page : Nat) (phase : FlushPhase) (world : World Inner) :
    flushRank (cache.flushPage page phase world).1 ≤ flushRank phase - 1 := by
  cases phase with
  | waiting =>
      simp only [flushPage]
      split
      · simp [flushRank]
      split
      · simp [flushRank]
      split <;> simp [flushRank]
  | uploading offset generation bytes =>
      simp only [flushPage]
      split <;> simp [flushRank]
  | uploaded generation =>
      simp only [flushPage]
      split <;> simp [flushRank]
  | done result => simp [flushPage, flushRank]

/-- A collected task is ready, and its error has not been forgotten. -/
def CollectReady (geometry : Geometry) (progress : World Inner × Option Error) (page : Nat)
    (phase : FlushPhase) : Prop :=
  FlushReady geometry progress.1.view page phase ∧ (progress.2 = none → phase.error? = none)

theorem flushCollect_spec {start : World Inner} (page : Nat) (phase : FlushPhase)
    (progress : World Inner × Option Error) (pushed : Pushed cache geometry start progress.1)
    (ready : CollectReady geometry progress page phase) :
    Pushed cache geometry start (cache.flushCollect page phase progress).2.1 ∧
      CollectReady geometry (cache.flushCollect page phase progress).2 page
        (cache.flushCollect page phase progress).1 ∧
      ∀ other idle, other ≠ page → CollectReady geometry progress other idle →
        CollectReady geometry (cache.flushCollect page phase progress).2 other idle := by
  obtain ⟨step, moved, others⟩ := flushPage_spec pushed.sound ready.1
  refine ⟨pushed.trans step, ⟨moved, fun none => (Option.or_eq_none_iff.mp none).2⟩, ?_⟩
  intro other idle different held
  exact ⟨held.1.frame (others other different), fun none => held.2 (Option.or_eq_none_iff.mp none).1⟩

theorem query_view {Value : Type} (site : Site) {action : Action Inner Value}
    (keeps : FlatStore.content (action world.disk.inner).2 = FlatStore.content world.disk.inner) :
    (World.callInner site action world).2.view = world.view := by
  simp only [World.callInner, World.issue, World.view, World.generation, Effect.apply, keeps]

/-- The recorded token is invisible in the view. -/
theorem recordEtag_view (world : World Inner) : (recordEtag world).2.view = world.view := by
  have asked := query_view .innerEtag (FlatStore.etag_keeps world.disk.inner).1
  simp only [recordEtag]
  cases answer : World.callInner .innerEtag BlobBackend.etag world with
  | mk outcome after =>
      rw [answer] at asked
      cases outcome with
      | error error => exact asked
      | ok found => cases found <;> exact asked

theorem recordEtag_pushed (sound : Sound cache geometry world) :
    Pushed cache geometry world (recordEtag world).2 := by
  have asked := query_pushed .innerEtag sound (FlatStore.etag_keeps world.disk.inner)
  simp only [recordEtag]
  cases answer : World.callInner .innerEtag BlobBackend.etag world with
  | mk outcome after =>
      rw [answer] at asked
      cases outcome with
      | error error => exact asked
      | ok found =>
          cases found with
          | none => exact asked
          | some etag =>
              have blank : Pushed cache geometry after (after.issue .persistEtag (.etag (some ""))) :=
                ⟨{ asked.sound with }, fun tidy => { tidy with }, _, issue_issues _ _ _,
                  Trail.single (.token after.view _)⟩
              have stored : Pushed cache geometry (after.issue .persistEtag (.etag (some "")))
                  (persistEtag etag after) :=
                ⟨{ blank.sound with }, fun tidy => { tidy with }, _, issue_issues _ _ _,
                  Trail.single (.token after.view _)⟩
              exact asked.trans (blank.trans stored)

theorem mem_dirtyPages (sound : Sound cache geometry world) (page : Nat) :
    page ∈ dirtyPages world.state ↔ world.view.dirty page = true := by
  rw [dirtyPages, List.mem_filter, List.mem_range, sound.numPages]
  exact ⟨fun member => member.2, fun dirty => ⟨sound.dirtyInside page dirty, dirty⟩⟩

omit [FlatStore Inner] in
theorem flushCollect_closer (page : Nat) (phase : FlushPhase) (progress : World Inner × Option Error) :
    flushRank (cache.flushCollect page phase progress).1 ≤ flushRank phase - 1 :=
  flushPage_closer page phase progress.1

/-- The uploads of a flush push pages, and each task ends ready. -/
theorem uploads_spec (sound : Sound cache geometry world) (schedule : List Nat) :
    let ended := interleave cache.flushCollect (fun _ => false) schedule
      ((dirtyPages world.state).map fun page => (page, .waiting)) (world, none)
    Pushed cache geometry world ended.2.1 ∧ ended.1.map Prod.fst = dirtyPages world.state ∧
      ∀ page phase, (page, phase) ∈ ended.1 → CollectReady geometry ended.2 page phase := by
  have ended := interleave_tasks cache.flushCollect (fun _ => false)
    (fun progress => Pushed cache geometry world progress.1)
    (CollectReady geometry) flushCollect_spec schedule
    ((dirtyPages world.state).map fun page => (page, .waiting)) (world, none)
    (by rw [map_fst_tagged]; exact List.nodup_range.filter _) (.refl sound) (by
      intro page phase member
      obtain ⟨_, rfl⟩ := mem_tagged member
      exact ⟨trivial, fun _ => rfl⟩)
  rw [map_fst_tagged] at ended
  exact ended

omit [FlatStore Inner] in
/-- Every task is over once each of them had three turns. -/
theorem uploads_finished (schedule : List Nat) (progress : World Inner × Option Error) {pages : List Nat}
    (distinct : pages.Nodup) {page : Nat} {phase : FlushPhase}
    (member : (page, phase) ∈ (interleave cache.flushCollect (fun _ => false)
      (schedule ++ pages.flatMap (List.replicate 3))
      (pages.map fun page => (page, .waiting)) progress).1) :
    flushRank phase = 0 := by
  have finishes := @interleave_finishes _ _ _ _ cache.flushCollect flushRank flushCollect_closer (fun _ => false)
    (schedule ++ pages.flatMap (List.replicate 3)) (pages.map fun page => (page, .waiting)) progress
    (by rw [map_fst_tagged]; exact distinct) (by
      intro page phase member
      obtain ⟨dirty, rfl⟩ := mem_tagged member
      rw [List.count_append]
      exact (le_count_turns 3 dirty).trans (Nat.le_add_left _ _))
  exact finishes.resolve_left Bool.false_ne_true page phase member

/-- A flush pushes pages to the inner store; after a successful one no page is dirty. -/
theorem flush_spec (sound : Sound cache geometry world) :
    Pushed cache geometry world (cache.flush world).2 ∧
      ((cache.flush world).1 = .ok () → ∀ page, (cache.flush world).2.view.dirty page = false) := by
  set scheduled := { world with clock := world.clock + 1 } with scheduledEq
  have quiet : Quiet world scheduled := ⟨rfl, rfl, rfl, rfl, rfl, rfl, rfl⟩
  have scheduledSound : Sound cache geometry scheduled := quiet.sound sound sound.lru
  have start : Pushed cache geometry world scheduled :=
    ⟨scheduledSound, fun tidy => tidy_of_quiet tidy quiet rfl, quiet.traces _⟩
  rw [flush]
  rw [← scheduledEq, show dirtyPages world.state = dirtyPages scheduled.state from rfl]
  set result := interleave cache.flushCollect (fun _ => false)
    (cache.host.schedule world.clock ++ (dirtyPages scheduled.state).flatMap (List.replicate 3))
    ((dirtyPages scheduled.state).map fun page => (page, .waiting)) (scheduled, none)
  obtain ⟨flushed, keys, ready⟩ := uploads_spec scheduledSound
    (cache.host.schedule world.clock ++ (dirtyPages scheduled.state).flatMap (List.replicate 3))
  have uploaded := start.trans flushed
  cases failed : result.2.2 with
  | some error => exact ⟨uploaded, by simp⟩
  | none =>
      have clean : ∀ page, result.2.1.view.dirty page = false := by
        intro page
        by_contra dirty
        rw [Bool.not_eq_false] at dirty
        have covered := (mem_dirtyPages scheduledSound page).mpr (flushed.from.dirty page dirty)
        rw [← keys] at covered
        obtain ⟨⟨key, phase⟩, member, same⟩ := List.mem_map.mp covered
        obtain rfl : key = page := same
        obtain ⟨ready, noError⟩ := ready key phase member
        have ended := uploads_finished (cache.host.schedule world.clock) (scheduled, none)
          (List.nodup_range.filter _) member
        have noError := noError failed
        cases phase with
        | waiting => simp [flushRank] at ended
        | uploading offset generation bytes => simp [flushRank] at ended
        | uploaded generation => simp [flushRank] at ended
        | done outcome =>
            cases outcome with
            | error error => simp [FlushPhase.error?] at noError
            | ok value => exact Bool.false_ne_true (ready.symm.trans dirty)
      have queried := query_pushed .innerFlush uploaded.sound
        (FlatStore.flush_keeps result.2.1.disk.inner)
      simp only [Action.bind_apply]
      cases answer : World.callInner .innerFlush BlobBackend.flush result.2.1 with
      | mk outcome after =>
          rw [answer] at queried
          cases outcome with
          | error error => exact ⟨uploaded.trans queried, by simp⟩
          | ok value =>
              have dirtyAfter (final : World Inner) (pushed : Pushed cache geometry after final)
                  (page : Nat) : final.view.dirty page = false := by
                by_contra dirty
                rw [Bool.not_eq_false] at dirty
                exact Bool.false_ne_true ((clean page).symm.trans
                  ((queried.trans pushed).from.dirty page dirty))
              dsimp only
              split
              · have recorded := recordEtag_pushed queried.sound
                exact ⟨uploaded.trans (queried.trans recorded), fun _ => dirtyAfter _ recorded⟩
              · exact ⟨uploaded.trans queried, fun _ => dirtyAfter _ (.refl queried.sound)⟩

end FileCacheBackend
end UblkAzblob
