import UblkAzblob.Construction.AzureEtag

namespace UblkAzblob
open Storage

namespace AzurePageBlobBackend

/-- The request that the service applied last. -/
def lastApplied (events : List AzureEvent) : Option Nat :=
  events.foldl (fun last event => match event with
    | .apply request => some request
    | _ => last) none

/-- The request whose response was recorded last. -/
def lastReceived (events : List AzureEvent) : Option Nat :=
  events.foldl (fun last event => match event with
    | .receive request => some request
    | _ => last) none

theorem lastApplied_snoc (events : List AzureEvent) (event : AzureEvent) :
    lastApplied (events ++ [event]) = match event with
      | .apply request => some request
      | _ => lastApplied events := by
  rw [lastApplied, List.foldl_append]
  rfl

theorem lastReceived_snoc (events : List AzureEvent) (event : AzureEvent) :
    lastReceived (events ++ [event]) = match event with
      | .receive request => some request
      | _ => lastReceived events := by
  rw [lastReceived, List.foldl_append]
  rfl

/-- The service numbers the requests it applies, and the cached token is that of the last response. -/
structure Tracked (token : Nat → String) (events : List AzureEvent) (backend : AzurePageBlobBackend) :
    Prop where
  numbered : ∀ (request : Nat) call number, backend.requests[request]? = some ⟨call, some number⟩ →
    number ≤ backend.serial
  distinct : ∀ (one other : Nat) left right number, backend.requests[one]? = some ⟨left, some number⟩ →
    backend.requests[other]? = some ⟨right, some number⟩ → one = other
  applied : ∀ request, lastApplied events = some request →
    ∃ call, backend.requests[request]? = some ⟨call, some backend.serial⟩
  unapplied : lastApplied events = none → ∀ (request : Nat) call number,
    backend.requests[request]? ≠ some ⟨call, some number⟩
  received : ∀ request, lastReceived events = some request →
    ∃ call number, backend.requests[request]? = some ⟨call, some number⟩ ∧
      backend.lastEtag = some (token number)
  silent : lastReceived events = none → backend.lastEtag = none ∧ MutationPhase.done ∉ backend.calls
  called : backend.requests ≠ [] → backend.calls ≠ []

variable {token : Nat → String} {events : List AzureEvent} {backend next : AzurePageBlobBackend}

theorem connect_tracked (serial : Nat) : Tracked token [] (connect serial) where
  numbered request call number member := by simp [connect] at member
  distinct one other left right number member := by simp [connect] at member
  applied request last := by cases last
  unapplied _ request call number := by simp [connect]
  received request last := by cases last
  silent _ := ⟨rfl, by simp [connect]⟩
  called nonempty := absurd rfl nonempty

/-- A new request is not applied yet, and the others keep their numbers. -/
theorem sent_cases {requests : List PageRequest} {call request other number : Nat}
    (member : (requests ++ [⟨call, none⟩])[request]? = some ⟨other, some number⟩) :
    requests[request]? = some ⟨other, some number⟩ := by
  rw [List.getElem?_append] at member
  split at member
  · exact member
  · rw [List.getElem?_singleton] at member
    split at member <;> cases member

theorem sent_keeps {requests : List PageRequest} {request : Nat} {found : PageRequest} (call : Nat)
    (member : requests[request]? = some found) : (requests ++ [⟨call, none⟩])[request]? = some found := by
  rw [List.getElem?_append_left (List.getElem?_eq_some_iff.mp member).1]
  exact member

/-- Sending a request changes no number. -/
theorem Tracked.sent (tracked : Tracked token events backend) (call : Nat) (calls : List MutationPhase)
    (event : AzureEvent) (quietApply : lastApplied (events ++ [event]) = lastApplied events)
    (quietReceive : lastReceived (events ++ [event]) = lastReceived events)
    (pending : MutationPhase.done ∈ calls → MutationPhase.done ∈ backend.calls) (nonempty : calls ≠ []) :
    Tracked token (events ++ [event])
      { backend with requests := backend.requests ++ [⟨call, none⟩], calls } where
  numbered request other number member := tracked.numbered request other number (sent_cases member)
  distinct one other left right number first second :=
    tracked.distinct one other left right number (sent_cases first) (sent_cases second)
  applied request last := by
    obtain ⟨other, member⟩ := tracked.applied request (quietApply.symm.trans last)
    exact ⟨other, sent_keeps call member⟩
  unapplied none request other number member :=
    tracked.unapplied (quietApply.symm.trans none) request other number (sent_cases member)
  received request last := by
    obtain ⟨other, number, member, cached⟩ := tracked.received request (quietReceive.symm.trans last)
    exact ⟨other, number, sent_keeps call member, cached⟩
  silent none := by
    obtain ⟨uncached, undone⟩ := tracked.silent (quietReceive.symm.trans none)
    exact ⟨uncached, fun done => undone (pending done)⟩
  called _ := nonempty

/-- An applied request gets the newest number. -/
theorem Tracked.apply (tracked : Tracked token events backend) {request call : Nat}
    (waiting : backend.requests[request]? = some ⟨call, none⟩) :
    Tracked token (events ++ [.apply request]) { backend with
      serial := backend.serial + 1
      requests := backend.requests.set request ⟨call, some (backend.serial + 1)⟩ } := by
  have inside := (List.getElem?_eq_some_iff.mp waiting).1
  have own : (backend.requests.set request ⟨call, some (backend.serial + 1)⟩)[request]? =
      some ⟨call, some (backend.serial + 1)⟩ := List.getElem?_set_self inside
  have others (other : Nat) (different : other ≠ request) :
      (backend.requests.set request ⟨call, some (backend.serial + 1)⟩)[other]? = backend.requests[other]? :=
    List.getElem?_set_ne (Ne.symm different)
  refine ⟨?_, ?_, ?_, ?_, ?_, ?_, ?_⟩
  · intro other caller number member
    by_cases same : other = request
    · subst same
      obtain ⟨rfl, rfl⟩ := by simpa using own.symm.trans member
      exact Nat.le_refl _
    · rw [others other same] at member
      exact Nat.le_succ_of_le (tracked.numbered other caller number member)
  · intro one other left right number first second
    by_cases mine : one = request
    · subst mine
      obtain ⟨rfl, rfl⟩ := by simpa using own.symm.trans first
      by_cases theirs : other = one
      · exact theirs.symm
      · rw [others other theirs] at second
        have := tracked.numbered other right _ second
        omega
    · rw [others one mine] at first
      by_cases theirs : other = request
      · subst theirs
        obtain ⟨rfl, rfl⟩ := by simpa using own.symm.trans second
        have := tracked.numbered one left _ first
        omega
      · rw [others other theirs] at second
        exact tracked.distinct one other left right number first second
  · intro other last
    rw [lastApplied_snoc] at last
    obtain rfl := Option.some.inj last
    exact ⟨call, own⟩
  · intro none
    rw [lastApplied_snoc] at none
    cases none
  · intro other last
    rw [lastReceived_snoc] at last
    obtain ⟨caller, number, member, cached⟩ := tracked.received other last
    have different : other ≠ request := by
      rintro rfl
      cases waiting.symm.trans member
    exact ⟨caller, number, (others other different).trans member, cached⟩
  · intro none
    rw [lastReceived_snoc] at none
    exact tracked.silent none
  · intro nonempty
    refine tracked.called fun empty => ?_
    rw [empty] at inside
    exact absurd inside (Nat.not_lt_zero _)

/-- A call that changes its phase without a response changes no number and no token. -/
theorem Tracked.moved (tracked : Tracked token events backend) (call : Nat) (phase : MutationPhase)
    (pending : phase ≠ .done) (event : AzureEvent)
    (quietApply : lastApplied (events ++ [event]) = lastApplied events)
    (quietReceive : lastReceived (events ++ [event]) = lastReceived events) :
    Tracked token (events ++ [event]) { backend with calls := backend.calls.set call phase } where
  numbered := tracked.numbered
  distinct := tracked.distinct
  applied request last := tracked.applied request (quietApply.symm.trans last)
  unapplied none := tracked.unapplied (quietApply.symm.trans none)
  received request last := tracked.received request (quietReceive.symm.trans last)
  silent none := by
    obtain ⟨uncached, undone⟩ := tracked.silent (quietReceive.symm.trans none)
    refine ⟨uncached, fun done => ?_⟩
    rcases List.mem_or_eq_of_mem_set done with old | new
    · exact undone old
    · exact pending new.symm
  called nonempty := by
    simpa using tracked.called nonempty

/-- A received response is cached, whichever mutation it belongs to. -/
theorem Tracked.receive (tracked : Tracked token events backend) {request call number : Nat}
    (answered : backend.requests[request]? = some ⟨call, some number⟩) :
    Tracked token (events ++ [.receive request])
      ({ backend with calls := backend.calls.set call .done }.recordEtag (some (token number))) where
  numbered := tracked.numbered
  distinct := tracked.distinct
  applied other last := by
    rw [lastApplied_snoc] at last
    exact tracked.applied other last
  unapplied none := by
    rw [lastApplied_snoc] at none
    exact tracked.unapplied none
  received other last := by
    rw [lastReceived_snoc] at last
    obtain rfl := Option.some.inj last
    exact ⟨call, number, answered, rfl⟩
  silent none := by
    rw [lastReceived_snoc] at none
    cases none
  called nonempty := by
    simpa [recordEtag] using tracked.called nonempty

theorem step_tracked (history : List AzureEvent) (backend : AzurePageBlobBackend) (event : AzureEvent)
    (next : AzurePageBlobBackend) (tracked : Tracked token history backend)
    (stepped : step token backend event = some next) : Tracked token (history ++ [event]) next := by
  cases event with
  | call =>
      obtain rfl := Option.some.inj stepped
      exact tracked.sent _ _ .call (lastApplied_snoc _ _) (lastReceived_snoc _ _) (by simp) (by simp)
  | apply request =>
      simp only [step] at stepped
      split at stepped
      · rename_i call waiting
        obtain rfl := Option.some.inj stepped
        exact tracked.apply waiting
      · cases stepped
  | retry call =>
      simp only [step] at stepped
      split at stepped
      · rename_i request waiting
        obtain rfl := Option.some.inj stepped
        refine tracked.sent call _ (.retry call) (lastApplied_snoc _ _) (lastReceived_snoc _ _) ?_ ?_
        · intro done
          rcases List.mem_or_eq_of_mem_set done with old | new
          · exact old
          · cases new
        · intro empty
          rw [List.set_eq_nil_iff] at empty
          rw [empty] at waiting
          cases waiting
      · cases stepped
  | receive request =>
      simp only [step] at stepped
      split at stepped
      · rename_i call number answered
        split at stepped
        · obtain rfl := Option.some.inj stepped
          exact tracked.receive answered
        · cases stepped
      · cases stepped
  | fail call =>
      simp only [step] at stepped
      split at stepped
      · obtain rfl := Option.some.inj stepped
        exact tracked.moved call .failed (by decide) (.fail call) (lastApplied_snoc _ _) (lastReceived_snoc _ _)
      · cases stepped

/-- Once every call has returned, the cached token is the blob's own exactly when the response that was
recorded last belongs to the mutation that was applied last. -/
theorem etag_live_iff (token : Nat → String) (fresh : Function.Injective token) (serial : Nat)
    (events : List AzureEvent) (backend : AzurePageBlobBackend)
    (run : execute (step token) (connect serial) events = some backend)
    (finished : ∀ phase ∈ backend.calls, phase = .done) :
    backend.etag token = .ok (some (backend.live token)) ↔ lastReceived events = lastApplied events := by
  have tracked : Tracked token ([] ++ events) backend :=
    execute_history (fun history state event next tracked stepped =>
      step_tracked history state event next tracked stepped) (connect_tracked serial) run
  rw [List.nil_append] at tracked
  cases received : lastReceived events with
  | none =>
      obtain ⟨uncached, undone⟩ := tracked.silent received
      have idle : backend.calls = [] := by
        cases calls : backend.calls with
        | nil => rfl
        | cons phase rest =>
            rw [calls] at undone finished
            rw [finished phase (by simp)] at undone
            simp at undone
      have unapplied : lastApplied events = none := by
        cases applied : lastApplied events with
        | none => rfl
        | some request =>
            obtain ⟨call, member⟩ := tracked.applied request applied
            refine absurd idle (tracked.called fun empty => ?_)
            rw [empty] at member
            cases member
      simp [etag, uncached, unapplied]
  | some request =>
      obtain ⟨call, number, member, cached⟩ := tracked.received request received
      simp only [etag, cached, live, Except.ok.injEq, Option.some.injEq]
      constructor
      · intro same
        obtain rfl := fresh same
        cases applied : lastApplied events with
        | none => exact absurd member (tracked.unapplied applied request call _)
        | some newest =>
            obtain ⟨other, last⟩ := tracked.applied newest applied
            rw [tracked.distinct request newest call other _ member last]
      · intro last
        obtain ⟨other, newest⟩ := tracked.applied request last.symm
        obtain ⟨rfl, rfl⟩ := by simpa using newest.symm.trans member
        rfl

/-- The token of a blob spells out how often it was changed. -/
def tallyToken (number : Nat) : String := String.ofList (List.replicate number 'v')

theorem tallyToken_injective : Function.Injective tallyToken := by
  intro one other same
  have lengths := congrArg List.length (String.ofList_injective same)
  simpa using lengths

/-- Two uploads are applied in one order and their responses arrive in the other. -/
theorem crossed_responses_leave_old_token :
    ∃ backend, execute (step tallyToken) (connect 1)
        [.call, .call, .apply 0, .apply 1, .receive 1, .receive 0] = some backend ∧
      backend.calls = [.done, .done] ∧ backend.etag tallyToken = .ok (some "vv") ∧
      backend.live tallyToken = "vvv" :=
  ⟨_, rfl, rfl, rfl, rfl⟩

/-- A retried upload whose first attempt was applied late still leaves the live token. -/
theorem etag_live_iff_retried :
    ∃ backend, execute (step tallyToken) (connect 1)
        [.call, .call, .apply 1, .retry 0, .receive 1, .apply 0, .apply 2, .receive 2] = some backend ∧
      backend.etag tallyToken = .ok (some (backend.live tallyToken)) := by
  obtain ⟨backend, run, finished⟩ : ∃ backend, execute (step tallyToken) (connect 1)
        [.call, .call, .apply 1, .retry 0, .receive 1, .apply 0, .apply 2, .receive 2] = some backend ∧
      ∀ phase ∈ backend.calls, phase = .done := ⟨_, rfl, by decide⟩
  exact ⟨backend, run, (etag_live_iff tallyToken tallyToken_injective 1 _ backend run finished).mpr rfl⟩

end AzurePageBlobBackend
end UblkAzblob
