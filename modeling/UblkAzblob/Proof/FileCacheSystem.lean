import UblkAzblob.Proof.FileCacheSteps

namespace UblkAzblob
open Storage

namespace FileCacheBackend

variable {Inner : Type} [BlobBackend Inner] [FlatStore Inner]
variable {cache : FileCacheBackend} {geometry : Geometry} {landed reached : Nat → Nat}
variable {sys next : Sys Inner} {id : Nat}

section Steps

/-- A call in flight takes its next turn. -/
theorem Running.turn (running : Running cache geometry landed sys) {page : Nat} {before : Job}
    (found : sys.jobs[id]? = some before) (ordered : inOrder sys (.turn id page) = true)
    (fresh : freshStore sys (.turn id page) = true) (counts : countsOn sys (.turn id page) = true)
    (taken : cache.step sys (.turn id page) = some next) :
    ∃ job reached, Turn cache geometry landed id sys next before job reached := by
  obtain ⟨request, phase⟩ := before
  have consistent := running.consistent
  have ready := running.ready id _ found
  simp only [step, found] at taken
  cases phase with
  | waiting => exact beginCall_turn consistent found taken
  | updating rest fetched =>
      cases rest with
      | nil =>
          obtain rfl := Option.some.inj taken
          exact ⟨_, landed, updated_turn consistent found ready⟩
      | cons chunk rest =>
          obtain rfl := Option.some.inj taken
          have room : sys.world.generation chunk.page + 1 < 2 ^ 64 := by simpa [countsOn, found] using counts
          obtain ⟨job, turn⟩ := updateTurn_turn consistent found ready room
          exact ⟨job, landed, turn⟩
  | reading rest result =>
      cases rest with
      | nil =>
          obtain rfl := Option.some.inj taken
          exact ⟨_, landed, read_turn consistent found ready⟩
      | cons chunk rest =>
          obtain ⟨_, offset, len, _, rfl, _, _⟩ := running.ready id _ found
          obtain rfl := Option.some.inj taken
          obtain ⟨job, turn⟩ := readTurn_turn consistent found ready
          exact ⟨job, landed, turn⟩
  | prefetching rest fetched =>
      cases rest with
      | nil =>
          obtain rfl := Option.some.inj taken
          exact ⟨_, landed, prefetched_turn consistent found ready⟩
      | cons first rest =>
          obtain ⟨job, turn⟩ := prefetchTurn_turn consistent found ready taken
          exact ⟨job, landed, turn⟩
  | flushing tasks failed =>
      refine flushTurn_turn consistent found ready taken fun offset generation bytes there => ?_
      simpa [inOrder, found, there] using ordered
  | syncing flushedAny =>
      obtain rfl := Option.some.inj taken
      obtain ⟨job, turn⟩ := syncTurn_turn consistent found ready
      exact ⟨job, landed, turn⟩
  | tagging =>
      obtain rfl := Option.some.inj taken
      exact ⟨_, landed, tagging_turn consistent found ready⟩
  | warming tasks =>
      obtain ⟨_, job, turn⟩ := warmTurn_turn consistent found ready taken fun offset len data seen there => by
        simpa [freshStore, found, there] using fresh
      exact ⟨job, landed, turn⟩
  | returned result => cases taken

omit [FlatStore Inner] in
/-- A call arrives, or a call in flight takes a turn. -/
theorem step_cases {event : Event} (taken : cache.step sys event = some next) :
    (∃ request, event = .call request ∧ next = { sys with jobs := sys.jobs ++ [⟨request, .waiting⟩] }) ∨
      ∃ id page before, event = .turn id page ∧ sys.jobs[id]? = some before := by
  cases event with
  | call request => exact .inl ⟨request, rfl, (Option.some.inj taken).symm⟩
  | turn id page =>
      cases found : sys.jobs[id]? with
      | none => simp [step, found] at taken
      | some before => exact .inr ⟨id, page, before, rfl, found⟩

/-- A call that arrives finds the running system as it is. -/
theorem Running.called (running : Running cache geometry landed sys) (request : Request) :
    Running cache geometry landed { sys with jobs := sys.jobs ++ [⟨request, .waiting⟩] } := by
  refine ⟨running.consistent.relabel rfl rfl rfl, fun id job found => ?_⟩
  rw [List.getElem?_append] at found
  split at found
  · rename_i inside
    have moves : Moves geometry sys.jobs.length landed landed sys
        { sys with jobs := sys.jobs ++ [⟨request, .waiting⟩] } :=
      (Moves.refl _ sys).relabel rfl rfl rfl fun _ _ held => held
    exact (running.ready id job found).frame moves (Nat.ne_of_lt inside)
  · rw [List.getElem?_singleton] at found
    split at found
    · obtain rfl := Option.some.inj found
      trivial
    · cases found

theorem Turn.running {before job : Job} (turn : Turn cache geometry landed id sys next before job reached)
    (running : Running cache geometry landed sys) : Running cache geometry reached next :=
  running.turned turn.consistent turn.moves turn.jobs turn.ready

end Steps

section Told

variable {content : Store} {count : Nat} {floor : Nat → Nat}

/-- The cache shows what the updates so far have left. -/
def Telling (geometry : Geometry) (content : Store) (sys : Sys Inner) : Prop :=
  ∀ x, After content (chronicle sys) x (showing geometry sys x)

/-- From some generation on, every version of a page has at least the first updates. -/
structure Since (geometry : Geometry) (content : Store) (count : Nat) (floor : Nat → Nat) (sys : Sys Inner) :
    Prop where
  early : count ≤ sys.history.length
  reached : ∀ page, floor page ≤ sys.world.generation page
  recent : ∀ x generation, floor (x / geometry.pageSize) ≤ generation →
    generation ≤ sys.world.generation (x / geometry.pageSize) →
    Recent content (chronicle sys) count x (sys.versions (x / geometry.pageSize) generation x)

/-- A written chunk shows in the newest versions. -/
theorem showing_wrote {offset page : Nat} {data : List UInt8}
    (inPage : ∀ x, offset ≤ x → x < offset + data.length → x / geometry.pageSize = page)
    (versions : next.versions = Function.update sys.versions page (Function.update (sys.versions page)
      (sys.world.generation page + 1) (splice (sys.versions page (sys.world.generation page)) offset data)))
    (generation : next.world.generation =
      Function.update sys.world.generation page (sys.world.generation page + 1)) :
    showing geometry next = splice (showing geometry sys) offset data := by
  funext x
  change next.versions _ (next.world.generation _) x = _
  rw [versions, generation]
  by_cases own : x / geometry.pageSize = page
  · rw [own, Function.update_self, Function.update_self, Function.update_self]
    by_cases inside : offset ≤ x ∧ x < offset + data.length
    · rw [splice_inside inside.1 inside.2, splice_inside inside.1 inside.2]
    · rw [splice_outside (by omega), splice_outside (by omega), showing, own]
      rfl
  · rw [Function.update_of_ne own, Function.update_of_ne own, splice_outside]
    · rfl
    · by_contra inside
      exact own (inPage x (by omega) (by omega))

/-- A turn without a new version shows what was shown. -/
theorem showing_same (versions : next.versions = sys.versions) (generation : next.world.generation = sys.world.generation) :
    showing geometry next = showing geometry sys := by
  funext x
  change next.versions _ (next.world.generation _) x = _
  rw [versions, generation]
  rfl

theorem Telling.told (telling : Telling geometry content sys) (tale : Tale geometry sys next) :
    Telling geometry content next := by
  intro x
  have before := telling x
  cases tale with
  | calm versions generation told =>
      rw [told, showing_same versions generation]
      exact before
  | began offset versions generation told =>
      rw [told, showing_same versions generation, after_append_empty]
      exact before
  | wrote log offset done data page len sameLog fits inPage versions generation old told =>
      have length : ((data.drop done).take len).length = len := by
        rw [List.length_take, List.length_drop]
        omega
      rw [told, showing_wrote (by rw [length]; exact inPage) versions generation]
      rw [old] at before
      exact before.carryOn fits
  | gaveUp log offset done data sameLog versions generation old told =>
      rw [told, showing_same versions generation]
      rw [old] at before
      exact before.giveUp

/-- Versions from the floor on keep the first updates in every turn. -/
theorem Since.told (since : Since geometry content count floor sys) (telling : Telling geometry content next)
    (tale : Tale geometry sys next) (grows : sys.history.length ≤ next.history.length) :
    Since geometry content count floor next := by
  have late := since.early.trans grows
  cases tale with
  | calm versions generation told =>
      refine ⟨late, fun page => ?_, fun x version above below => ?_⟩
      · rw [generation]
        exact since.reached page
      · rw [generation] at below
        rw [told, versions]
        exact since.recent x version above below
  | began offset versions generation told =>
      refine ⟨late, fun page => ?_, fun x version above below => ?_⟩
      · rw [generation]
        exact since.reached page
      · rw [generation] at below
        rw [told, versions]
        exact (since.recent x version above below).append _
  | wrote log offset done data page len sameLog fits inPage versions generation old told =>
      have bumped (other : Nat) : sys.world.generation other ≤ next.world.generation other ∧
          (next.world.generation other ≤ sys.world.generation other ∨
            other = page ∧ next.world.generation other = sys.world.generation page + 1) := by
        rw [generation, Function.update_apply]
        split
        · rename_i own
          rw [own]
          exact ⟨Nat.le_succ _, .inr ⟨rfl, rfl⟩⟩
        · exact ⟨le_rfl, .inl le_rfl⟩
      refine ⟨late, fun other => (since.reached other).trans (bumped other).1, fun x version above below => ?_⟩
      by_cases new : version ≤ sys.world.generation (x / geometry.pageSize)
      · have kept : next.versions (x / geometry.pageSize) version x = sys.versions (x / geometry.pageSize) version x := by
          rw [versions]
          by_cases own : x / geometry.pageSize = page
          · rw [own] at new ⊢
            rw [Function.update_self, Function.update_of_ne (by omega)]
          · rw [Function.update_of_ne own]
        have before := since.recent x version above new
        rw [old] at before
        rw [told, kept]
        exact before.carryOn (by rw [sameLog]; exact since.early) (Nat.le_add_right done len)
      · obtain ⟨own, top⟩ := (bumped (x / geometry.pageSize)).2.resolve_left (by omega)
        obtain rfl : version = next.world.generation (x / geometry.pageSize) := by
          rw [own] at new below top ⊢
          omega
        refine Recent.of_after (telling x) ?_
        rw [told, sameLog, List.length_append]
        exact since.early.trans (Nat.le_add_right _ _)
  | gaveUp log offset done data sameLog versions generation old told =>
      refine ⟨late, fun page => ?_, fun x version above below => ?_⟩
      · rw [generation]
        exact since.reached page
      · rw [generation] at below
        have before := since.recent x version above below
        rw [old] at before
        rw [told, versions]
        exact before.giveUp (by rw [sameLog]; exact since.early)

/-- The newest versions have every update that has returned. -/
theorem since_now (telling : Telling geometry content sys) (early : count ≤ sys.history.length) :
    Since geometry content count sys.world.generation sys := by
  refine ⟨early, fun _ => le_rfl, fun x version above below => ?_⟩
  obtain rfl : version = sys.world.generation (x / geometry.pageSize) := le_antisymm below above
  refine Recent.of_after (telling x) ?_
  rw [chronicle, List.length_append]
  exact early.trans (Nat.le_add_right _ _)

/-- Once every page has landed past its floor, the inner store has the first updates. -/
theorem Since.inner (since : Since geometry content count floor sys)
    (consistent : Consistent cache geometry landed sys) (past : AllPast geometry landed floor) {x : Nat}
    (device : x < geometry.devSize) :
    Recent content (chronicle sys) count x (FlatStore.content sys.world.disk.inner x) := by
  have inside := geometry.page_lt device
  have reached := past _ inside
  obtain ⟨version, number⟩ := Nat.exists_eq_succ_of_ne_zero (Nat.ne_of_gt (Nat.zero_lt_of_lt reached))
  have performed := consistent.performed (x / geometry.pageSize)
  have bounded := consistent.bounded (x / geometry.pageSize)
  have same := consistent.stored _ version number x device rfl
  change Recent content (chronicle sys) count x (sys.world.view.inner x)
  rw [same]
  refine since.recent x version (by omega) ?_
  change _ ≤ sys.world.view.generation _
  omega

theorem JobCovers.mono {job : Job} (covers : JobCovers geometry landed floor job)
    (further : ∀ page, landed page ≤ reached page) : JobCovers geometry reached floor job := by
  have past (all : AllPast geometry landed floor) : AllPast geometry reached floor :=
    fun page inside => lt_of_lt_of_le (all page inside) (further page)
  obtain ⟨request, phase⟩ := job
  cases request with
  | flush =>
      cases phase with
      | flushing tasks failed =>
          obtain ⟨tasksCover, others, clean⟩ := covers
          exact ⟨fun page task member => (tasksCover page task member).mono further,
            fun page inside absent => lt_of_lt_of_le (others page inside absent) (further page), clean⟩
      | syncing flushedAny => exact past covers
      | tagging => exact past covers
      | returned result =>
          cases result with
          | ok bytes => exact past covers
          | error error => trivial
      | _ => trivial
  | _ => trivial

end Told

end FileCacheBackend
end UblkAzblob
