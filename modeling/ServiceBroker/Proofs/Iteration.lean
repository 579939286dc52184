import ServiceBroker.Proofs.Resumption

/-!
# Polling until the end is polling again and again

`Driver.pollUntilTerminal` is a loop around `Driver.poll`, and it races with the token: the token
may be cancelled before the loop is entered, during a poll, and during a wait. This module says
what the loop does without a loop. `Driver.pollAt` is the poll with a given index, when every
poll is followed by a wait, and `Driver.StopsAt` says that the polling stops with it: it has left
nothing in flight, or the token is cancelled when the wait behind it is over.

The loop makes exactly the polls up to the first one with which it stops, and its result is that
of the last one as it is (`Driver.pollUntilTerminal_eq_pollAt`). So an operation that has ended
wins over a token that is cancelled meanwhile, and an operation in flight is handed out with the
latest description.

Every poll that leaves the operation in flight takes a reply. Hence the loop ends on every finite
script, whatever becomes of the token, and sends one request more than there are replies at
most.
-/

namespace ServiceBroker

namespace Driver

section Iteration

variable {σ : Type} (world : Dialogue.World σ) (driver : Driver) (tracked : TrackedOperation)
  (interval : Duration)

/-! ## Poll after poll -/

/-- **The poll with an index**, from 0 on, when a wait follows every poll. -/
def pollAt (state : σ) : Nat → Dialogue.Run σ Result
  | 0 => (driver.poll tracked).run world state
  | index + 1 =>
    (driver.poll tracked).run world (world.wait (pollAt state index).state interval).2

/-- **Polling stops with a poll** that leaves nothing in flight, and with one behind which the
token is cancelled when the wait is over. -/
def StopsAt (state : σ) (index : Nat) : Prop :=
  let polled := driver.pollAt world tracked interval state index
  (∀ other description, polled.result ≠ .ok (.inFlight other description)) ∨
    (world.wait polled.state interval).1 = true

/-- The polls after the first are those from the wait behind it on. -/
theorem pollAt_succ (state : σ) (index : Nat) :
    driver.pollAt world tracked interval state (index + 1)
      = driver.pollAt world tracked interval
          (world.wait ((driver.poll tracked).run world state).state interval).2 index := by
  induction index with
  | zero => rfl
  | succ index ih =>
    rw [pollAt, ih]
    rfl

theorem stopsAt_succ_iff (state : σ) (index : Nat) :
    driver.StopsAt world tracked interval state (index + 1)
      ↔ driver.StopsAt world tracked interval
          (world.wait ((driver.poll tracked).run world state).state interval).2 index := by
  unfold StopsAt
  rw [pollAt_succ]

/-- **The requests of the polls** up to an index. -/
def requestsUpTo (state : σ) (index : Nat) : List Http.Request :=
  (List.range (index + 1)).flatMap fun earlier =>
    (driver.pollAt world tracked interval state earlier).requests

theorem requestsUpTo_zero (state : σ) :
    driver.requestsUpTo world tracked interval state 0
      = ((driver.poll tracked).run world state).requests := List.append_nil _

/-- The requests of the first poll come first. -/
theorem requestsUpTo_succ (state : σ) (index : Nat) :
    driver.requestsUpTo world tracked interval state (index + 1)
      = ((driver.poll tracked).run world state).requests
        ++ driver.requestsUpTo world tracked interval
          (world.wait ((driver.poll tracked).run world state).state interval).2 index := by
  unfold requestsUpTo
  rw [List.range_succ_eq_map, List.flatMap_cons, List.flatMap_map]
  simp only [pollAt_succ]
  rfl

variable {world driver tracked interval} {state : σ}

theorem inFlight_pollAt {index : Nat} {other : TrackedOperation} {description : Option String}
    (inFlight : (driver.pollAt world tracked interval state index).result
      = .ok (.inFlight other description)) : other = tracked := by
  cases index <;> exact poll_eq_inFlight inFlight

/-- **A poll with which polling does not stop** leaves its operation in flight, and the wait
behind it ends without the token being cancelled. -/
theorem inFlight_of_not_stopsAt (goesOn : ¬driver.StopsAt world tracked interval state 0) :
    (∃ description, ((driver.poll tracked).run world state).result
      = .ok (.inFlight tracked description)) ∧
    (world.wait ((driver.poll tracked).run world state).state interval).1 = false := by
  obtain ⟨notEnded, running⟩ := not_or.mp goesOn
  refine ⟨?_, Bool.eq_false_iff.mpr running⟩
  obtain ⟨other, description, polled⟩ | ended :=
    inFlight_or_ended ((driver.poll tracked).run world state).result
  · obtain rfl := poll_eq_inFlight polled
    exact ⟨description, polled⟩
  · exact absurd ended notEnded

/-! ## The loop -/

/-- A loop that is told of a cancelled token ends with what is in flight. -/
theorem run_goOn_cancelled (driver : Driver) (rounds : Nat) (description : Option String)
    (cancelled : (world.wait state interval).1 = true) :
    (driver.goOn interval rounds (.ok (.inFlight tracked description))).run world state
      = { result := some (.ok (.inFlight tracked description))
          state := (world.wait state interval).2
          requests := [] } := by
  cases rounds with
  | zero =>
    rw [goOn, Dialogue.run]
    generalize world.wait state interval = after at cancelled ⊢
    obtain ⟨told, after⟩ := after
    obtain rfl : told = true := cancelled
    rfl
  | succ rounds => rw [run_goOn_inFlight, if_pos cancelled]

/-- **The loop makes the polls up to the first one with which polling stops**, by induction on
its index. -/
theorem run_polls {index rounds : Nat} (within : index ≤ rounds)
    (stops : driver.StopsAt world tracked interval state index)
    (first : ∀ earlier < index, ¬driver.StopsAt world tracked interval state earlier) :
    let run := ((driver.poll tracked).bind (driver.goOn interval rounds)).run world state
    let last := driver.pollAt world tracked interval state index
    run.result = some last.result ∧
      run.requests = driver.requestsUpTo world tracked interval state index ∧
      ∀ description, last.result = .ok (.inFlight tracked description) →
        (world.wait last.state interval).1 = true ∧
          run.state = (world.wait last.state interval).2 := by
  induction index generalizing state rounds with
  | zero =>
    rw [Dialogue.run_bind, requestsUpTo_zero]
    unfold pollAt
    dsimp only
    by_cases inFlight : ∃ description, ((driver.poll tracked).run world state).result
        = .ok (.inFlight tracked description)
    · obtain ⟨description, inFlight⟩ := inFlight
      have cancelled : (world.wait ((driver.poll tracked).run world state).state interval).1
          = true := stops.resolve_left fun ended => ended tracked description inFlight
      rw [inFlight, run_goOn_cancelled driver rounds description cancelled]
      exact ⟨rfl, List.append_nil _, fun _ _ => ⟨cancelled, rfl⟩⟩
    · have ended (description : Option String) : ((driver.poll tracked).run world state).result
          ≠ .ok (.inFlight tracked description) := fun h => inFlight ⟨description, h⟩
      rw [run_goOn_ended interval rounds ended]
      exact ⟨rfl, List.append_nil _, fun description h => absurd h (ended description)⟩
  | succ index ih =>
    -- The first poll does not stop, so the others are those of the loop behind the wait.
    obtain ⟨rounds, rfl⟩ : ∃ fewer, rounds = fewer + 1 := ⟨rounds - 1, by omega⟩
    obtain ⟨⟨description, inFlight⟩, running⟩ :=
      inFlight_of_not_stopsAt (first 0 (Nat.succ_pos index))
    have later := ih (Nat.le_of_succ_le_succ within) ((stopsAt_succ_iff ..).mp stops)
      fun earlier before => mt (stopsAt_succ_iff ..).mpr
        (first (earlier + 1) (Nat.succ_lt_succ before))
    obtain ⟨result, requests, ends⟩ := later
    rw [Dialogue.run_bind, requestsUpTo_succ, pollAt_succ]
    dsimp only
    rw [inFlight, run_goOn_inFlight, running, if_neg Bool.false_ne_true]
    exact ⟨result, congrArg _ requests, ends⟩

/-! ## The end -/

variable {left : σ → List Reply}

/-- **A poll sends one request more** than there are replies at most. -/
theorem length_requests_poll (plays : world.Plays left) (state : σ) :
    ((driver.poll tracked).run world state).requests.length ≤ (left state).length + 1 := by
  obtain gone | ⟨error, fails⟩ | ⟨description, answers⟩ | ⟨description, answers⟩ | success :=
    driver.asked_sorted world tracked state
  · rw [run_poll_of_gone gone]
    exact Nat.le_add_left 1 _
  · rw [run_poll_of_failure fails]
    exact Nat.le_add_left 1 _
  · rw [run_poll_of_inProgress answers]
    exact Nat.le_add_left 1 _
  · rw [run_poll_of_failed answers]
    exact Nat.le_add_left 1 _
  · cases creates : tracked.creates? with
    | none =>
      rw [run_poll_of_success success creates]
      exact Nat.le_add_left 1 _
    | some bindingId =>
      rw [run_poll_of_success_fetch success creates]
      obtain ⟨last, ⟨response, replied, -⟩, -⟩ := success
      have taken := plays.length_left replied
      show 2 ≤ _
      omega

/-- **Polling stops on every finite script**, with a poll that has no more polls before it than
there were replies. Up to there it sends one request more than that at most. -/
theorem exists_stop (plays : world.Plays left) (driver : Driver) (tracked : TrackedOperation)
    (interval : Duration) (state : σ) :
    ∃ index ≤ (left state).length, driver.StopsAt world tracked interval state index ∧
      (∀ earlier < index, ¬driver.StopsAt world tracked interval state earlier) ∧
      (driver.requestsUpTo world tracked interval state index).length
        ≤ (left state).length + 1 := by
  -- By induction on the replies that are left: a poll with which polling does not stop takes one.
  induction count : (left state).length using Nat.strongRecOn generalizing state with
  | _ count ih =>
    by_cases stops : driver.StopsAt world tracked interval state 0
    · have sent := @length_requests_poll σ world driver tracked left plays state
      rw [count] at sent
      rw [← requestsUpTo_zero world driver tracked interval state] at sent
      exact ⟨0, Nat.zero_le _, stops, fun _ before => absurd before (Nat.not_lt_zero _), sent⟩
    · obtain ⟨⟨description, inFlight⟩, running⟩ := inFlight_of_not_stopsAt stops
      have taken := driver.length_left_poll tracked plays inFlight
      rw [← plays.waits _ interval, count] at taken
      obtain ⟨index, within, stops', first, sent⟩ :=
        ih _ (Nat.lt_of_succ_le (Nat.le_of_eq taken)) _ rfl
      refine ⟨index + 1, by omega, (stopsAt_succ_iff ..).mpr stops', fun earlier before => ?_, ?_⟩
      · cases earlier with
        | zero => exact stops
        | succ earlier =>
          exact mt (stopsAt_succ_iff ..).mp (first earlier (Nat.lt_of_succ_lt_succ before))
      · have one : ((driver.poll tracked).run world state).requests.length = 1 := by
          rw [run_poll_of_inProgress (answers_of_inFlight inFlight)]
          rfl
        rw [requestsUpTo_succ, List.length_append, one]
        omega

end Iteration

/-- **Polling until the end is polling again and again**, and it ends. Let a world play a finite
script, and cancel the token whenever it likes. If the token is cancelled beforehand, nothing is
sent and nothing is learned. Otherwise there is a first poll that leaves nothing in flight or
behind which the token is cancelled when the wait is over; the requests are those of the polls up to
it, and the result is that of this poll as it is. An operation is left in flight only if the token
is cancelled. In every case there is a result, as long as the rounds are no fewer than the
replies, and one request more than there are replies is sent at most. -/
theorem pollUntilTerminal_eq_pollAt {σ : Type} (world : Dialogue.World σ) (left : σ → List Reply)
    (plays : world.Plays left) (driver : Driver) (tracked : TrackedOperation)
    (interval : Duration) (rounds : Nat) (state : σ) (enough : (left state).length ≤ rounds) :
    let run := (driver.pollUntilTerminal rounds interval tracked).run world state
    (world.cancelled state = true →
      run = { result := some (.ok (.inFlight tracked none)), state := state, requests := [] }) ∧
    (world.cancelled state = false →
      ∃ index, driver.StopsAt world tracked interval state index ∧
        (∀ earlier < index, ¬driver.StopsAt world tracked interval state earlier) ∧
        run.result = some (driver.pollAt world tracked interval state index).result ∧
        run.requests = (List.range (index + 1)).flatMap fun earlier =>
          (driver.pollAt world tracked interval state earlier).requests) ∧
    (∀ other description, run.result = some (.ok (.inFlight other description)) →
      world.cancelled run.state = true) ∧
    (∃ result, run.result = some result) ∧ run.requests.length ≤ (left state).length + 1 := by
  intro run
  have loop : run = _ := run_pollUntilTerminal world driver tracked interval rounds state
  cases entry : world.cancelled state with
  | true =>
    rw [entry, if_pos rfl] at loop
    rw [loop]
    exact ⟨fun _ => rfl, nofun, fun _ _ _ => entry, ⟨_, rfl⟩, Nat.zero_le _⟩
  | false =>
    rw [entry, if_neg Bool.false_ne_true] at loop
    obtain ⟨index, within, stops, first, sent⟩ :=
      exists_stop plays driver tracked interval state
    obtain ⟨result, requests, ends⟩ := run_polls (Nat.le_trans within enough) stops first
    rw [← loop] at result requests ends
    refine ⟨nofun, fun _ => ⟨index, stops, first, result, requests⟩, ?_, ⟨_, result⟩,
      requests ▸ sent⟩
    intro other description inFlight
    -- Only the operation itself is left in flight, and then the wait was cut short.
    have last := Option.some.inj (result.symm.trans inFlight)
    obtain rfl := inFlight_pollAt last
    obtain ⟨cancelled, after⟩ := ends description last
    rw [after, ← plays.tells]
    exact cancelled

/-- A deletion is in progress twice, and the token is cancelled during the second poll: the
polling stops there. -/
theorem pollUntilTerminal_eq_pollAt_cancelled :
    let inProgress : LastOperation := { state := .inProgress }
    let script : Script :=
      { entries := [{ reply := .ok { status := 200, body := inProgress.toJson.text } },
          { reply := .ok { status := 200, body := inProgress.toJson.text }, cancels := true },
          { reply := .ok { status := 410, body := "" } }] }
    let driver : Driver := { broker := Broker.make "http://broker" "admin" "secret" }
    let tracked : TrackedOperation :=
      { kind := .deprovision, instanceId := "i", serviceId := "s", planId := "p" }
    let interval := Duration.ofMilliseconds 1
    let run := (driver.pollUntilTerminal 3 interval tracked).run Script.world script
    script.replies.length ≤ 3 ∧ Script.world.cancelled script = false ∧
      ∃ index, driver.StopsAt Script.world tracked interval script index ∧
        (∀ earlier < index, ¬driver.StopsAt Script.world tracked interval script earlier) ∧
        run.result = some (driver.pollAt Script.world tracked interval script index).result ∧
        run.requests = (List.range (index + 1)).flatMap fun earlier =>
          (driver.pollAt Script.world tracked interval script earlier).requests := by
  intro inProgress script driver tracked interval run
  have running : Script.world.cancelled script = false := rfl
  obtain ⟨-, stops, -⟩ := pollUntilTerminal_eq_pollAt Script.world Script.replies Script.plays
    driver tracked interval 3 script (Nat.le_refl 3)
  exact ⟨Nat.le_refl 3, running, stops running⟩

end Driver

end ServiceBroker
