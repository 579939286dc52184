import ServiceBroker.Proofs.Step

/-!
# What a poll makes of the replies

A poll looks at two replies at most: the one to its question, and the one that
shows the binding if the creation of one is reported to have succeeded. Its
result depends on nothing else, and `Driver.Verdict` says which replies lead to
which result, in terms of statuses and bodies.

Gone is looked at once for each reply, and means three things: a deletion that
reached its goal, a creation that failed, and a binding that was created and has
disappeared since. Whatever is neither an answer nor gone is passed on as the
error of its round trip. Every poll has exactly one verdict (`Driver.verdict_poll`
and `Driver.Verdict.result_eq`), so each result can be read both ways.
-/

namespace ServiceBroker

/-- The only operations that create a binding are those that bind. -/
theorem TrackedOperation.creates?_eq_some_iff (tracked : TrackedOperation) (bindingId : String) :
    tracked.creates? = some bindingId ↔ tracked.kind = .bind bindingId := by
  unfold creates?
  cases tracked.kind <;> simp

namespace Driver

variable {σ : Type}

/-- **What a poll makes of the replies**: of the first, to its question, and of the
second, which shows a binding. -/
inductive Verdict (tracked : TrackedOperation) (first : Reply) (second : String → Reply) :
    Result → Prop where
  /-- It is still in progress. -/
  | inFlight {description : Option String}
      (answers : first.Answers LastOperation.ofBody { state := .inProgress, description }) :
      Verdict tracked first second (.ok (.inFlight tracked description))
  /-- The broker reports that it failed. -/
  | failed {description : Option String}
      (answers : first.Answers LastOperation.ofBody { state := .failed, description }) :
      Verdict tracked first second (.ok (.failed (.broker description)))
  /-- What was to be deleted is gone. -/
  | deleted (gone : first.HasStatus 410) (deletes : tracked.kind.isDelete = true) :
      Verdict tracked first second (.ok (.succeeded none))
  /-- What was to be created is gone. -/
  | lost (gone : first.HasStatus 410) (creates : tracked.kind.isDelete = false) :
      Verdict tracked first second (.ok (.failed .gone))
  /-- It succeeded, and created no binding. -/
  | succeeded (success : first.ReportsSuccess) (creates : tracked.creates? = none) :
      Verdict tracked first second (.ok (.succeeded none))
  /-- The binding that was created is shown. -/
  | shown {bindingId : String} {binding : Binding} (success : first.ReportsSuccess)
      (creates : tracked.creates? = some bindingId)
      (answers : (second bindingId).Answers Binding.ofBody binding) :
      Verdict tracked first second (.ok (.succeeded (some binding)))
  /-- The binding that was created has disappeared. -/
  | disappeared {bindingId : String} (success : first.ReportsSuccess)
      (creates : tracked.creates? = some bindingId) (gone : (second bindingId).HasStatus 410) :
      Verdict tracked first second (.ok (.failed .gone))
  /-- The question was not answered. -/
  | unanswered {error : CallError}
      (fails : first.FailsWith tracked.question LastOperation.ofBody error) :
      Verdict tracked first second (.error error)
  /-- The binding that was created is not shown. -/
  | hidden {bindingId : String} {error : CallError} (success : first.ReportsSuccess)
      (creates : tracked.creates? = some bindingId)
      (fails : (second bindingId).FailsWith .getBinding Binding.ofBody error) :
      Verdict tracked first second (.error error)

section Poll

variable (world : Dialogue.World σ) (driver : Driver) (tracked : TrackedOperation) (state : σ)

/-- **Every poll has a verdict**, and it is the result. -/
theorem verdict_poll :
    Verdict tracked (driver.asked world tracked state).1
      (fun bindingId => (driver.shown world tracked state bindingId).1)
      ((driver.poll tracked).run world state).result := by
  obtain gone | ⟨error, fails⟩ | ⟨description, answers⟩ | ⟨description, answers⟩ | success :=
    driver.asked_sorted world tracked state
  · rw [run_poll_of_gone gone]
    cases deletes : tracked.kind.isDelete with
    | true => exact .deleted gone deletes
    | false => exact .lost gone deletes
  · rw [run_poll_of_failure fails]
    exact .unanswered fails
  · rw [run_poll_of_inProgress answers]
    exact .inFlight answers
  · rw [run_poll_of_failed answers]
    exact .failed answers
  · cases creates : tracked.creates? with
    | none =>
      rw [run_poll_of_success success creates]
      exact .succeeded success creates
    | some bindingId =>
      rw [run_poll_of_success_fetch success creates]
      obtain gone | ⟨error, fails⟩ | ⟨binding, answers⟩ :=
        Reply.sorted .getBinding Binding.ofBody (driver.shown world tracked state bindingId).1
      · rw [fetched_of_gone gone]
        exact .disappeared success creates gone
      · rw [fetched_of_failure fails]
        exact .hidden success creates fails
      · rw [fetched_of_answer answers]
        exact .shown success creates answers

variable {world driver tracked state}

/-- **A verdict is the result.** -/
theorem Verdict.result_eq {result : Result}
    (verdict : Verdict tracked (driver.asked world tracked state).1
      (fun bindingId => (driver.shown world tracked state bindingId).1) result) :
    ((driver.poll tracked).run world state).result = result := by
  cases verdict with
  | inFlight answers => rw [run_poll_of_inProgress answers]
  | failed answers => rw [run_poll_of_failed answers]
  | deleted gone deletes => rw [run_poll_of_gone gone, if_pos deletes]
  | lost gone creates => rw [run_poll_of_gone gone, if_neg (by simp [creates])]
  | succeeded success creates => rw [run_poll_of_success success creates]
  | shown success creates answers =>
    rw [run_poll_of_success_fetch success creates, fetched_of_answer answers]
  | disappeared success creates gone =>
    rw [run_poll_of_success_fetch success creates, fetched_of_gone gone]
  | unanswered fails => rw [run_poll_of_failure fails]
  | hidden success creates fails =>
    rw [run_poll_of_success_fetch success creates, fetched_of_failure fails]

/-- What a poll leaves in flight is reported to be in progress. -/
theorem answers_of_inFlight {description : Option String}
    (h : ((driver.poll tracked).run world state).result = .ok (.inFlight tracked description)) :
    (driver.asked world tracked state).1.Answers LastOperation.ofBody
      { state := .inProgress, description } := by
  have verdict := driver.verdict_poll world tracked state
  rw [h] at verdict
  cases verdict with
  | inFlight answers => exact answers

/-- A poll hands out no operation but the one it asked after. -/
theorem poll_eq_inFlight {other : TrackedOperation} {description : Option String}
    (h : ((driver.poll tracked).run world state).result = .ok (.inFlight other description)) :
    other = tracked := by
  have verdict := driver.verdict_poll world tracked state
  rw [h] at verdict
  cases verdict with
  | inFlight answers => rfl

end Poll

/-- **The result of a poll, read from the replies.** It is in flight if an answer says
that it is in progress, and failed if one says so or if what was created is gone;
it succeeded if an answer says so and the binding, if one was created, is shown,
or if what was to be deleted is gone. In all other cases it is the error of the
round trip that failed, and never anything else. -/
theorem result_poll_iff (world : Dialogue.World σ) (driver : Driver)
    (tracked : TrackedOperation) (state : σ) :
    let first := (driver.asked world tracked state).1
    let second := fun bindingId => (driver.shown world tracked state bindingId).1
    let result := ((driver.poll tracked).run world state).result
    (∀ other description, result = .ok (.inFlight other description) ↔
      other = tracked ∧
        first.Answers LastOperation.ofBody { state := .inProgress, description }) ∧
    (∀ description, result = .ok (.failed (.broker description)) ↔
      first.Answers LastOperation.ofBody { state := .failed, description }) ∧
    (result = .ok (.failed .gone) ↔
      tracked.kind.isDelete = false ∧ first.HasStatus 410 ∨
      ∃ bindingId, tracked.kind = .bind bindingId ∧ first.ReportsSuccess ∧
        (second bindingId).HasStatus 410) ∧
    (∀ binding?, result = .ok (.succeeded binding?) ↔
      tracked.kind.isDelete = true ∧ first.HasStatus 410 ∧ binding? = none ∨
      (∀ bindingId, tracked.kind ≠ .bind bindingId) ∧ first.ReportsSuccess ∧ binding? = none ∨
      ∃ bindingId binding, tracked.kind = .bind bindingId ∧ first.ReportsSuccess ∧
        (second bindingId).Answers Binding.ofBody binding ∧ binding? = some binding) ∧
    (∀ error, result = .error error ↔
      first.FailsWith tracked.question LastOperation.ofBody error ∨
      ∃ bindingId, tracked.kind = .bind bindingId ∧ first.ReportsSuccess ∧
        (second bindingId).FailsWith .getBinding Binding.ofBody error) ∧
    (∀ binding?, result ≠ .ok (.complete binding?)) := by
  intro first second result
  have verdict : Verdict tracked first second result := driver.verdict_poll world tracked state
  have result_eq {r : Result} (h : Verdict tracked first second r) : result = r := h.result_eq
  have kind_of_creates {bindingId : String} (h : tracked.creates? = some bindingId) :
      tracked.kind = .bind bindingId := (tracked.creates?_eq_some_iff bindingId).mp h
  have creates_of_kind {bindingId : String} (h : tracked.kind = .bind bindingId) :
      tracked.creates? = some bindingId := (tracked.creates?_eq_some_iff bindingId).mpr h
  -- From left to right the result picks the verdict, from right to left the verdict is built.
  refine ⟨fun other description => ⟨fun h => ?_, ?_⟩, fun description => ⟨fun h => ?_, ?_⟩,
    ⟨fun h => ?_, ?_⟩, fun binding? => ⟨fun h => ?_, ?_⟩, fun error => ⟨fun h => ?_, ?_⟩,
    fun binding? h => ?_⟩
  · rw [h] at verdict
    cases verdict with
    | inFlight answers => exact ⟨rfl, answers⟩
  · rintro ⟨rfl, answers⟩
    exact result_eq (.inFlight answers)
  · rw [h] at verdict
    cases verdict with
    | failed answers => exact answers
  · exact fun answers => result_eq (.failed answers)
  · rw [h] at verdict
    cases verdict with
    | lost gone creates => exact .inl ⟨creates, gone⟩
    | disappeared success creates gone =>
      exact .inr ⟨_, kind_of_creates creates, success, gone⟩
  · rintro (⟨creates, gone⟩ | ⟨bindingId, kind, success, gone⟩)
    · exact result_eq (.lost gone creates)
    · exact result_eq (.disappeared success (creates_of_kind kind) gone)
  · rw [h] at verdict
    cases verdict with
    | deleted gone deletes => exact .inl ⟨deletes, gone, rfl⟩
    | succeeded success creates =>
      refine .inr (.inl ⟨fun bindingId kind => ?_, success, rfl⟩)
      rw [creates_of_kind kind] at creates
      exact nomatch creates
    | shown success creates answers =>
      exact .inr (.inr ⟨_, _, kind_of_creates creates, success, answers, rfl⟩)
  · rintro (⟨deletes, gone, rfl⟩ | ⟨kind, success, rfl⟩
      | ⟨bindingId, binding, kind, success, answers, rfl⟩)
    · exact result_eq (.deleted gone deletes)
    · refine result_eq (.succeeded success ?_)
      cases creates : tracked.creates? with
      | none => rfl
      | some bindingId => exact absurd (kind_of_creates creates) (kind bindingId)
    · exact result_eq (.shown success (creates_of_kind kind) answers)
  · rw [h] at verdict
    cases verdict with
    | unanswered fails => exact .inl fails
    | hidden success creates fails =>
      exact .inr ⟨_, kind_of_creates creates, success, fails⟩
  · rintro (fails | ⟨bindingId, kind, success, fails⟩)
    · exact result_eq (.unanswered fails)
    · exact result_eq (.hidden success (creates_of_kind kind) fails)
  · rw [h] at verdict
    cases verdict

end Driver

end ServiceBroker
