import Mathlib.Data.Fintype.Card
import ServiceBroker.Proofs.Acceptance
import ServiceBroker.Proofs.Countdown
import ServiceBroker.Proofs.Crowd
import ServiceBroker.Proofs.Isolation

/-!
# Many pollers of one operation

Once a change has been accepted, whoever has the tracked operation can poll it: the driver
that started the change, the same driver after a restart, or others that were handed the
operation. They all count the operation down, and after its end they all ask about something
that is not in flight any more. Still, they agree. In the order of their questions the first
polls report progress, as many as the broker was told, and all others report success
(`Driver.pollers_agree`).

The argument is an invariant of the crowd of polls (`Driver.Agreement`). As long as a question
is to find progress, the operation is in flight with as many polls to come as are left of the
promise; after that nothing is in flight on the target, and the target is there exactly if it
was to be created (`Change.Stage`). Nobody else gets in between, since requests about other
instances leave this part of the store alone. A poll of a binding has a second request to
send, but only at a stage that does not change any more.
-/

namespace ServiceBroker

/-! ## How far a change has come -/

namespace Change

theorem Asks.aim_eq {change : Change} {action : Mock.Action} (asks : change.Asks action) :
    action.aim = .change change.target change.kind := by
  cases asks <;> rfl

theorem instanceId_track (change : Change) (token : Option String) :
    (change.track token).instanceId = change.target.instanceId := by
  cases change <;> rfl

theorem kind_fits (change : Change) :
    change.kind = change.target.creation ∨ change.kind = change.target.deletion := by
  cases change with
  | provision | bind => exact .inl rfl
  | deprovision | unbind => exact .inr rfl

/-- **How far an accepted change has come** after a number of questions. -/
inductive Stage (change : Change) (token : Option String) (polls asked : Nat)
    (store : Mock.Store) : Prop where
  /-- Its operation is in flight, and has as many polls to come as are left. -/
  | counting {name : String} {remaining : Nat} (left : asked + remaining = polls)
      (right : token = none ∨ token = some name)
      (busy : store.operations.get? change.target
        = some { kind := change.kind, token := name, remaining })
      (held : store.holds change.target = true)
  /-- Its operation has finished, and the target is there if it was to be created. -/
  | ended (past : polls < asked) (free : store.operations.get? change.target = none)
      (held : store.holds change.target = decide (change.kind = change.target.creation))

variable {change : Change} {token : Option String} {polls asked : Nat} {store : Mock.Store}

/-- **A change has come as far in every store with the same part** that belongs to its
instance. -/
theorem Stage.of_restrict_eq {other : Mock.Store} {ids : Set String} [DecidablePred (· ∈ ids)]
    (stage : change.Stage token polls asked store) (own : change.target.instanceId ∈ ids)
    (alike : other.restrict ids = store.restrict ids) :
    change.Stage token polls asked other := by
  have operations : other.operations.get? change.target
      = store.operations.get? change.target := by
    rw [← Mock.Store.get?_operations_restrict own, alike, Mock.Store.get?_operations_restrict own]
  have holds : other.holds change.target = store.holds change.target := by
    rw [← Mock.Store.holds_restrict _ own, alike, Mock.Store.holds_restrict _ own]
  cases stage with
  | counting left right busy held =>
    exact .counting left right (operations.trans busy) (holds.trans held)
  | ended past free held => exact .ended past (operations.trans free) (holds.trans held)

/-- **What a question finds, and the stage after it.** It finds progress as long as the promise
says so, and success after that; what was to be deleted may be gone instead. -/
theorem Stage.poll (stage : change.Stage token polls asked store) :
    ∃ answer after, store.poll change.target token = (answer, after) ∧
      change.Stage token polls (asked + 1) after ∧
      (asked < polls → answer = .inProgress change.kind) ∧
      (polls ≤ asked → answer = .succeeded ∨
        answer = .gone ∧ change.kind ≠ change.target.creation) := by
  cases stage with
  | @counting name remaining left right busy held =>
    cases remaining with
    | succ remaining =>
      have left : asked + 1 + remaining = polls := by omega
      have next := Mock.Store.get?_operations_begin store change.target change.target change.kind
        name remaining
      rw [if_pos rfl] at next
      refine ⟨_, _, Mock.Store.poll_of_succ busy right rfl, .counting left right next ?_,
        fun _ => rfl, fun late => by omega⟩
      rw [Mock.Store.holds_begin, held]
    | zero =>
      have free := Mock.Store.get?_operations_finish store change.target change.target change.kind
      rw [if_pos rfl] at free
      refine ⟨_, _, Mock.Store.poll_of_zero busy right rfl, .ended (by omega) free ?_,
        fun early => by omega, fun _ => .inl rfl⟩
      rw [Mock.Store.holds_finish, Mock.Store.holds_conclude change.kind_fits, held,
        Bool.true_and, ← decide_not]
      refine decide_eq_decide.mpr ?_
      obtain creates | deletes := change.kind_fits
      · exact iff_of_true
          (fun both => change.target.deletion_ne_creation (both.1.symm.trans creates)) creates
      · exact iff_of_false (fun stays => stays ⟨deletes, .inl rfl⟩)
          fun creates => change.target.deletion_ne_creation (deletes.symm.trans creates)
  | ended past free held =>
    refine ⟨_, _, Mock.Store.poll_of_free free token, .ended (by omega) free held,
      fun early => by omega, fun _ => ?_⟩
    rw [held]
    by_cases creates : change.kind = change.target.creation
    · exact .inl (if_pos (decide_eq_true creates))
    · exact .inr ⟨if_neg (mt of_decide_eq_true creates), creates⟩

theorem Stage.of_past (stage : change.Stage token polls asked store) (past : polls < asked) :
    store.operations.get? change.target = none ∧
      store.holds change.target = decide (change.kind = change.target.creation) := by
  cases stage with
  | counting left => omega
  | ended _ free held => exact ⟨free, held⟩

end Change

/-! ## The start -/

namespace Driver

section Start

variable {starter : Driver} {settings : Mock.Settings} {random : Nat → String} {change : Change}
  {state : Loopback.State} {polls : Nat}

/-- **What a broker has done that accepted a change**: it has let the client in, and the
operation is in flight with all polls to come. -/
theorem stage_of_accepts (async : settings.mode = .async polls)
    (plain : change.endpoint.IsPlain) {token : Option String}
    (accepts : (starter.answered (starter.broker.connection settings random).world change
      state).1.Accepts token) :
    settings.Admits starter.broker ∧ token ≠ some "" ∧
      change.Stage token polls 0 (starter.answered
        (starter.broker.connection settings random).world change state).2.store := by
  obtain ⟨hasBody, headers⟩ := change.exists_headers_request starter.broker
  have path := change.path_request starter.broker
  have notHead : (change.endpoint.arrival (change.request starter.broker)).method ≠ "HEAD" :=
    Mock.name_ne_head (change.request starter.broker).method
  unfold answered at accepts ⊢
  -- An acceptance leaves one way through: the request was sent, let in and understood.
  cases sent : change.endpoint.path.toList.all Loopback.isUrlChar
      && Loopback.isSendable starter.broker with
  | false =>
    rw [Broker.reply_of_not_sent path headers sent] at accepts
    obtain ⟨_, isError, -⟩ := accepts
    exact nomatch isError
  | true =>
    rw [Broker.reply_of_sent path headers sent] at accepts ⊢
    obtain ⟨response, served, status, shown⟩ := accepts
    obtain rfl := Except.ok.inj served
    have understands := Mock.understand_arrival settings headers plain
    by_cases admits : settings.Admits starter.broker
    · rw [if_pos admits] at understands
      obtain ⟨refusal, refused⟩ | ⟨action, understood, asks⟩ :=
        Mock.actionAt_change plain starter.broker
      · rw [refused] at understands
        rw [Mock.serve_of_refused _ _ notHead understands] at status
        exact absurd status refusal.status_ne
      · rw [understood] at understands
        rw [Mock.serve_of_understood _ _ notHead understands] at status shown ⊢
        have effect := Mock.effect_perform settings (random state.served) state.store action
        rw [asks.aim_eq] at effect
        obtain ⟨promised, begun, later, begins, answer, after⟩ := effect.of_accepted status
        obtain rfl := Mock.Mode.async.inj (later.symm.trans async)
        have nonempty : change.kind.name ++ "-" ++ random state.served ≠ "" := by simp
        rw [answer, Mock.tokenOf_accepted settings nonempty] at shown
        obtain rfl := Except.ok.inj shown
        have right := settings.shownToken_eq (change.kind.name ++ "-" ++ random state.served)
        refine ⟨admits, ?_, ?_⟩
        · obtain none | name := right
          · rw [none]
            exact nofun
          · rw [name]
            exact fun empty => nonempty (Option.some.inj empty)
        · have busy := Mock.Store.get?_operations_begin begun change.target change.target
            change.kind (change.kind.name ++ "-" ++ random state.served) promised
          rw [if_pos rfl, ← after] at busy
          refine .counting (Nat.zero_add promised) right busy ?_
          rw [after, Mock.Store.holds_begin, begins.holds_eq, decide_eq_true rfl, Bool.true_or]
    · rw [if_neg admits] at understands
      rw [Mock.serve_of_refused _ _ notHead understands] at status
      exact absurd status (Mock.Refusal.status_ne .badCredentials)

end Start

/-! ## One question of a poll -/

/-- **A driver joins another** that is at the same broker: it has the same URL and the same
credentials, and its headers can be sent. -/
structure Joins (driver starter : Driver) : Prop where
  url : driver.broker.baseUrl = starter.broker.baseUrl
  authorization : driver.broker.authorization = starter.broker.authorization
  sent : Loopback.isSendable driver.broker = true

namespace Joins

variable {driver starter : Driver} {settings : Mock.Settings} {random : Nat → String}

theorem isKnown (joins : driver.Joins starter) (admits : settings.Admits starter.broker) :
    driver.broker.IsKnown settings :=
  ⟨joins.sent, joins.authorization.trans admits⟩

theorem connection_eq (joins : driver.Joins starter) :
    driver.broker.connection settings random = starter.broker.connection settings random := by
  unfold Broker.connection
  rw [joins.url]

end Joins

section Question

variable {driver : Driver} {settings : Mock.Settings} {random : Nat → String} {change : Change}
  {token : Option String} {polls asked : Nat} {state : Loopback.State}

theorem isDelete_track {change : Change} (deletes : change.kind ≠ change.target.creation)
    (token : Option String) : (change.track token).kind.isDelete = true := by
  cases change with
  | provision | bind => exact absurd rfl deletes
  | deprovision | unbind => rfl

/-- A deletion that is gone has succeeded. -/
theorem succeeded_of_deletes {change : Change} (deletes : change.kind ≠ change.target.creation)
    (driver : Driver) (token : Option String) :
    driver.succeeded (change.track token) = .done (.ok (.succeeded none)) := by
  cases change with
  | provision | bind => exact absurd rfl deletes
  | deprovision | unbind => rfl

/-- **What a poll goes on with after its question**, and the stage then. It reports progress as
long as the promise says so, and goes on as after a success from then on. -/
theorem step_poll (known : driver.broker.IsKnown settings) (plain : change.endpoint.IsPlain)
    (named : token ≠ some "") (stage : change.Stage token polls asked state.store) :
    let next := (driver.poll (change.track token)).step
      (driver.broker.connection settings random).world state
    next.1 = (if asked < polls then
        .done (.ok (.inFlight (change.track token) (some (change.kind.name ++ " in progress"))))
      else driver.succeeded (change.track token)) ∧
    change.Stage token polls (asked + 1) next.2.store := by
  obtain ⟨answer, after, polled, next, early, late⟩ := stage.poll
  have replies := @asked_connection driver settings random change token known plain named state
  rw [polled] at replies
  have settles : (driver.poll (change.track token)).step
      (driver.broker.connection settings random).world state
      = (driver.settle (change.track token)
          (readAnswer (change.track token).question LastOperation.ofBody (.ok answer.toResponse)),
        { state with store := after, served := state.served + 1 }) := by
    unfold Driver.asked at replies
    rw [poll_eq, Dialogue.step_send, replies]
  intro goesOn
  dsimp only [goesOn]
  rw [settles]
  refine ⟨?_, next⟩
  by_cases soon : asked < polls
  · rw [if_pos soon, early soon, (readAnswer_eq_ok_iff _ _ _ _).mpr
      ⟨_, rfl, rfl, Mock.ofBody_inProgress change.kind⟩]
    rfl
  · rw [if_neg soon]
    obtain rfl | ⟨rfl, deletes⟩ := late (Nat.le_of_not_lt soon)
    · rw [(readAnswer_eq_ok_iff _ _ _ _).mpr ⟨_, rfl, rfl, Mock.ofBody_succeeded⟩]
      rfl
    · have gone : Reply.HasStatus (.ok Mock.Answer.gone.toResponse) 410 := ⟨_, rfl, rfl⟩
      rw [gone.readAnswer_eq, succeeded_of_deletes deletes]
      show Dialogue.done (if (change.track token).kind.isDelete then _ else _) = _
      rw [isDelete_track deletes, if_pos rfl]

/-- What creates no binding ends with its success. -/
theorem succeeded_of_creates_nothing {change : Change} {token : Option String}
    (creates : (change.track token).creates? = none) (driver : Driver) :
    driver.succeeded (change.track token) = .done (.ok (.succeeded change.granted?)) := by
  rw [succeeded_eq, creates]
  cases change with
  | bind request => exact nomatch creates
  | provision | deprovision | unbind => rfl

/-- The fetch of a binding is not taken for a question. -/
theorem fetchRequest_ne_pollRequest (driver : Driver) {change : Change}
    (plain : change.endpoint.IsPlain) {token : Option String} {bindingId : String}
    (creates : (change.track token).creates? = some bindingId) :
    driver.fetchRequest (change.track token) bindingId
      ≠ driver.pollRequest (change.track token) := by
  cases change with
  | provision | deprovision | unbind => exact nomatch creates
  | bind request =>
    obtain rfl := Option.some.inj creates
    intro same
    have paths := congrArg String.toList (congrArg Http.Request.path same)
    dsimp only [fetchRequest, pollRequest] at paths
    rw [String.toList_append, String.toList_append] at paths
    have differ := Mock.path_ne plain (Change.isPlain_track plain token) nofun
    exact differ (String.toList_inj.mp (List.append_cancel_left paths))

/-- **What a poll ends with after its second request**: once the operation has finished, the
binding is there to be fetched, and the fetch changes nothing. -/
theorem step_succeeded (known : driver.broker.IsKnown settings) (plain : change.endpoint.IsPlain)
    (stage : change.Stage token polls asked state.store) (past : polls < asked)
    {bindingId : String} (creates : (change.track token).creates? = some bindingId) :
    let next := (driver.succeeded (change.track token)).step
      (driver.broker.connection settings random).world state
    next.1 = .done (.ok (.succeeded change.granted?)) ∧ next.2.store = state.store := by
  cases change with
  | provision | deprovision | unbind => exact nomatch creates
  | bind request =>
    obtain rfl := Option.some.inj creates
    obtain ⟨free, held⟩ := stage.of_past past
    have replies := @fetch_connection driver settings random known
      ((Change.bind request).track token) request.bindingId plain state
      (Mock.Store.inFlight_of_free free _) held
    have granted := fetched_of_answer
      ⟨_, rfl, rfl, Mock.ofBody_credentials 200 request.instanceId request.bindingId⟩
    rw [succeeded_eq, creates]
    dsimp only
    rw [Dialogue.step_send, replies]
    exact ⟨congrArg Dialogue.done granted, rfl⟩

end Question

/-! ## A crowd of polls -/

section Crowd

variable {ι : Type} [DecidableEq ι]

/-- **Many polls of one operation**, each by a driver of its own, and none of them begun. -/
def pollers (drivers : ι → Driver) (tracked : TrackedOperation) (state : Loopback.State) :
    Crowd ι Result where
  dialogue who := (drivers who).poll tracked
  state := state

/-- **Who has asked after an operation**, in the order of the questions. -/
def askers (drivers : ι → Driver) (tracked : TrackedOperation) (crowd : Crowd ι Result) : List ι :=
  crowd.sent.filterMap fun (who, request) =>
    if request = (drivers who).pollRequest tracked then some who else none

/-- **What a poll reports**, by its place in the order of the questions. -/
def report (change : Change) (token : Option String) (polls place : Nat) : Progress :=
  if place < polls then
    .inFlight (change.track token) (some (change.kind.name ++ " in progress"))
  else .succeeded change.granted?

/-- **Where a poll stands**, by the number of its moves and by its place among those who have
asked. -/
inductive Standing (driver : Driver) (change : Change) (token : Option String) (polls : Nat)
    (order : List ι) (who : ι) (moves : Nat) : Dialogue Result → Prop where
  /-- It has not asked yet. -/
  | waiting (unmoved : moves = 0) (silent : who ∉ order) :
      Standing driver change token polls order who moves (driver.poll (change.track token))
  /-- It has learned of the success and is about to fetch the binding. -/
  | fetching {bindingId : String} (moved : moves = 1) (asked : who ∈ order)
      (late : polls ≤ order.idxOf who)
      (creates : (change.track token).creates? = some bindingId) :
      Standing driver change token polls order who moves (driver.succeeded (change.track token))
  /-- It has reported. -/
  | done (asked : who ∈ order) :
      Standing driver change token polls order who moves
        (.done (.ok (report change token polls (order.idxOf who))))

/-- **The agreement of a crowd of polls**, after some moves. -/
structure Agreement (drivers : ι → Driver) (change : Change) (token : Option String) (polls : Nat)
    (before : List (Move ι)) (crowd : Crowd ι Result) : Prop where
  /-- The change has come as far as there have been questions. -/
  stage : change.Stage token polls (askers drivers (change.track token) crowd).length
    crowd.state.store
  /-- Nobody has asked twice. -/
  nodup : (askers drivers (change.track token) crowd).Nodup
  standing : ∀ who, Standing (drivers who) change token polls
    (askers drivers (change.track token) crowd) who (before.count (.call who))
    (crowd.dialogue who)

section Move

variable {drivers : ι → Driver} {loopback : Loopback} {settings : Mock.Settings}
  {random : Nat → String} {change : Change} {token : Option String} {polls : Nat}
  {before : List (Move ι)} {crowd : Crowd ι Result} {who : ι}

/-- Those who ask later do not change where others stand. -/
theorem Standing.append {driver : Driver} {order later : List ι} {moves : Nat}
    {dialogue : Dialogue Result}
    (stands : Standing driver change token polls order who moves dialogue)
    (absent : who ∉ later) :
    Standing driver change token polls (order ++ later) who moves dialogue := by
  cases stands with
  | waiting unmoved silent =>
    exact .waiting unmoved fun mem => (List.mem_append.mp mem).elim silent absent
  | fetching moved asked late creates =>
    refine .fetching moved (List.mem_append_left _ asked) ?_ creates
    rwa [List.idxOf_append_of_mem asked]
  | done asked =>
    have place : (order ++ later).idxOf who = order.idxOf who := List.idxOf_append_of_mem asked
    rw [← place]
    exact .done (List.mem_append_left _ asked)

theorem idxOf_append_self {order : List ι} (first : who ∉ order) :
    (order ++ [who]).idxOf who = order.length := by
  rw [List.idxOf_append_of_notMem first, List.idxOf_cons_self, Nat.add_zero]

/-- A move of a call adds it to those who have asked if its request is the question. -/
theorem askers_move (tracked : TrackedOperation) :
    askers drivers tracked (crowd.move loopback (.call who))
      = askers drivers tracked crowd
        ++ if (crowd.dialogue who).request? = some ((drivers who).pollRequest tracked) then [who]
          else [] := by
  unfold askers Crowd.move
  dsimp only
  rw [List.filterMap_append]
  congr 1
  cases (crowd.dialogue who).request? with
  | none => rfl
  | some request =>
    by_cases same : request = (drivers who).pollRequest tracked
    · simp [same]
    · simp [same]

/-- **A move of a call keeps the agreement** if, with those who have asked then, the change has
come as far and the call stands right. The other calls stand where they stood. -/
theorem Agreement.move_call (agreement : Agreement drivers change token polls before crowd)
    {asking : List ι} (only : ∀ other ∈ asking, other = who)
    (asks : askers drivers (change.track token) (crowd.move loopback (.call who))
      = askers drivers (change.track token) crowd ++ asking)
    (nodup : (askers drivers (change.track token) crowd ++ asking).Nodup)
    (stage : change.Stage token polls (askers drivers (change.track token) crowd ++ asking).length
      ((crowd.dialogue who).step loopback.world crowd.state).2.store)
    (stands : Standing (drivers who) change token polls
      (askers drivers (change.track token) crowd ++ asking) who (before.count (.call who) + 1)
      ((crowd.dialogue who).step loopback.world crowd.state).1) :
    Agreement drivers change token polls (before ++ [.call who])
      (crowd.move loopback (.call who)) where
  stage := by
    rw [asks]
    exact stage
  nodup := by rwa [asks]
  standing other := by
    rw [asks, List.count_append]
    by_cases same : other = who
    · subst same
      rw [List.count_singleton_self]
      show Standing _ _ _ _ _ _ _ (Function.update crowd.dialogue other _ other)
      rw [Function.update_self]
      exact stands
    · have noMove : [Move.call who].count (.call other) = 0 :=
        List.count_eq_zero.mpr fun mem => same (Move.call.inj (List.mem_singleton.mp mem))
      rw [noMove]
      show Standing _ _ _ _ _ _ _ (Function.update crowd.dialogue who _ other)
      rw [Function.update_of_ne same]
      exact (agreement.standing other).append fun mem => same (only other mem)

/-- A move that is no question keeps the agreement if it leaves the store alone. -/
theorem Agreement.move_silent (agreement : Agreement drivers change token polls before crowd)
    (silent : (crowd.dialogue who).request?
      ≠ some ((drivers who).pollRequest (change.track token)))
    (store : ((crowd.dialogue who).step loopback.world crowd.state).2.store = crowd.state.store)
    (stands : Standing (drivers who) change token polls
      (askers drivers (change.track token) crowd) who (before.count (.call who) + 1)
      ((crowd.dialogue who).step loopback.world crowd.state).1) :
    Agreement drivers change token polls (before ++ [.call who])
      (crowd.move loopback (.call who)) := by
  have asks := @askers_move ι _ drivers loopback crowd who (change.track token)
  rw [if_neg silent] at asks
  refine agreement.move_call (fun _ mem => absurd mem List.not_mem_nil) asks ?_ ?_ ?_
  · rw [List.append_nil]
    exact agreement.nodup
  · rw [List.append_nil, store]
    exact agreement.stage
  · rwa [List.append_nil]

/-- **The question of a call keeps the agreement.** -/
theorem Agreement.move_waiting (agreement : Agreement drivers change token polls before crowd)
    (known : (drivers who).broker.IsKnown settings)
    (connected : (drivers who).broker.connection settings random = loopback)
    (plain : change.endpoint.IsPlain) (named : token ≠ some "")
    (waits : crowd.dialogue who = (drivers who).poll (change.track token))
    (unmoved : before.count (.call who) = 0)
    (first : who ∉ askers drivers (change.track token) crowd) :
    Agreement drivers change token polls (before ++ [.call who])
      (crowd.move loopback (.call who)) := by
  have sends : (crowd.dialogue who).request?
      = some ((drivers who).pollRequest (change.track token)) := by
    rw [waits, poll_eq]
    rfl
  have asks := @askers_move ι _ drivers loopback crowd who (change.track token)
  rw [if_pos sends] at asks
  obtain ⟨next, stage⟩ := @step_poll (drivers who) settings random change token polls _
    crowd.state known plain named agreement.stage
  rw [connected] at next stage
  rw [← waits] at next stage
  refine agreement.move_call (fun other mem => List.mem_singleton.mp mem) asks ?_ ?_ ?_
  · refine List.nodup_append.mpr ⟨agreement.nodup, List.nodup_singleton who, ?_⟩
    exact fun other mem last isLast same => first (List.mem_singleton.mp isLast ▸ same ▸ mem)
  · rw [List.length_append]
    exact stage
  · rw [next]
    have asked : who ∈ askers drivers (change.track token) crowd ++ [who] :=
      List.mem_append_right _ (.head _)
    have reports := @Standing.done ι _ (drivers who) change token polls _ who
      (before.count (.call who) + 1) asked
    -- As many have asked before this call as its place says, and that decides what it is told.
    have place := idxOf_append_self first
    rw [place] at reports
    unfold report at reports
    by_cases soon : (askers drivers (change.track token) crowd).length < polls
    · rw [if_pos soon] at reports ⊢
      exact reports
    · rw [if_neg soon] at reports ⊢
      cases creates : (change.track token).creates? with
      | none =>
        rw [succeeded_of_creates_nothing creates]
        exact reports
      | some bindingId =>
        refine .fetching ?_ asked ?_ creates
        · rw [unmoved]
        · rw [place]
          exact Nat.le_of_not_lt soon

/-- **The fetch of a call keeps the agreement.** -/
theorem Agreement.move_fetching (agreement : Agreement drivers change token polls before crowd)
    (known : (drivers who).broker.IsKnown settings)
    (connected : (drivers who).broker.connection settings random = loopback)
    (plain : change.endpoint.IsPlain)
    (fetches : crowd.dialogue who = (drivers who).succeeded (change.track token))
    (asked : who ∈ askers drivers (change.track token) crowd)
    (late : polls ≤ (askers drivers (change.track token) crowd).idxOf who)
    {bindingId : String} (creates : (change.track token).creates? = some bindingId) :
    Agreement drivers change token polls (before ++ [.call who])
      (crowd.move loopback (.call who)) := by
  have past : polls < (askers drivers (change.track token) crowd).length :=
    Nat.lt_of_le_of_lt late (List.idxOf_lt_length_of_mem asked)
  obtain ⟨next, store⟩ := @step_succeeded (drivers who) settings random change token polls _
    crowd.state known plain agreement.stage past bindingId creates
  rw [connected, ← fetches] at next store
  refine agreement.move_silent ?_ store ?_
  · rw [fetches, succeeded_eq, creates]
    exact fun same => fetchRequest_ne_pollRequest _ plain creates (Option.some.inj same)
  · have reports := @Standing.done ι _ (drivers who) change token polls _ who
      (before.count (.call who) + 1) asked
    unfold report at reports
    rw [if_neg (Nat.not_lt_of_le late)] at reports
    rw [next]
    exact reports

/-- **A move of a call keeps the agreement.** -/
theorem Agreement.call (agreement : Agreement drivers change token polls before crowd)
    (known : ∀ who, (drivers who).broker.IsKnown settings)
    (connected : ∀ who, (drivers who).broker.connection settings random = loopback)
    (plain : change.endpoint.IsPlain) (named : token ≠ some "") (who : ι) :
    Agreement drivers change token polls (before ++ [.call who])
      (crowd.move loopback (.call who)) := by
  have stands := agreement.standing who
  generalize left : crowd.dialogue who = dialogue at stands
  cases stands with
  | waiting unmoved silent =>
    exact agreement.move_waiting (known who) (connected who) plain named left unmoved silent
  | fetching moved asked late creates =>
    exact agreement.move_fetching (known who) (connected who) plain left asked late creates
  | done asked =>
    refine agreement.move_silent ?_ ?_ ?_
    · rw [left]
      exact nofun
    · rw [left]
      rfl
    · rw [left]
      exact .done asked

/-- **A request about another instance keeps the agreement.** -/
theorem Agreement.other (agreement : Agreement drivers change token polls before crowd)
    {request : Mock.Request} (elsewhere : request.instanceId? ≠ some change.target.instanceId) :
    Agreement drivers change token polls (before ++ [.other request])
      (crowd.move loopback (.other request)) where
  stage := by
    have own : change.target.instanceId ∈ {i | i = change.target.instanceId} := rfl
    have untouched : (loopback.receive crowd.state request).store.restrict
        {i | i = change.target.instanceId}
        = crowd.state.store.restrict {i | i = change.target.instanceId} :=
      loopback.settings.restrict_next fun i about same => elsewhere (same ▸ about)
    exact agreement.stage.of_restrict_eq own untouched
  nodup := agreement.nodup
  standing who := by
    have noMove : [Move.other request].count (.call who) = 0 :=
      List.count_eq_zero.mpr fun mem => nomatch List.mem_singleton.mp mem
    rw [List.count_append, noMove]
    exact agreement.standing who

end Move

/-- **All polls of one operation agree.** A driver has started a change at a broker that accepts
changes first, and has been told that it is in flight. Then any number of polls of the tracked
operation are made by drivers at the same broker, in any interleaving of their requests with one
another and with requests about other instances. Nobody asks twice, and every poll that has made
its moves has a result: of all polls, in the order of their questions, the first ones report
that the operation is in flight, as many as the broker was told, and all others that it has
succeeded, with the binding that the broker grants if one was to be created. -/
theorem pollers_agree (starter : Driver) (drivers : ι → Driver) (settings : Mock.Settings)
    (polls : Nat) (async : settings.mode = .async polls) (random : Nat → String)
    (change : Change) (plain : change.endpoint.IsPlain) (state : Loopback.State)
    (tracked : TrackedOperation) (description : Option String)
    (started : ((starter.start change).run (starter.broker.connection settings random).world
      state).result = .ok (.inFlight tracked description))
    (joins : ∀ who, (drivers who).Joins starter) (schedule : List (Move ι))
    (elsewhere : ∀ request, .other request ∈ schedule →
      request.instanceId? ≠ some tracked.instanceId) :
    let loopback := starter.broker.connection settings random
    let accepted := ((starter.start change).run loopback.world state).state
    let crowd := (pollers drivers tracked accepted).after loopback schedule
    let order := askers drivers tracked crowd
    order.Nodup ∧
      (∀ who, 2 ≤ schedule.count (.call who) → ∃ result, crowd.dialogue who = .done result) ∧
      ∀ who result, crowd.dialogue who = .done result → who ∈ order ∧
        result = .ok (if order.idxOf who < polls then
            .inFlight tracked (some (change.kind.name ++ " in progress"))
          else .succeeded change.granted?) := by
  intro loopback accepted crowd order
  obtain ⟨token, accepts, rfl, moved⟩ := accepts_of_inFlight started
  obtain ⟨admits, named, stage⟩ := stage_of_accepts async plain accepts
  rw [← moved] at stage
  have known (who : ι) := (joins who).isKnown admits
  have connected (who : ι) : (drivers who).broker.connection settings random = loopback :=
    (joins who).connection_eq
  have unbegun : Agreement drivers change token polls []
      (pollers drivers (change.track token) accepted) :=
    ⟨stage, .nil, fun who => .waiting rfl nofun⟩
  -- A call moves at most twice, so the number of its moves tells how far it is.
  have agreement : Agreement drivers change token polls ([] ++ schedule) crowd := by
    refine Crowd.after_induction (fun before crowd move mem agreement => ?_) unbegun
    cases move with
    | call who => exact agreement.call known connected plain named who
    | other request => exact agreement.other (change.instanceId_track token ▸ elsewhere request mem)
  refine ⟨agreement.nodup, fun who enough => ?_, fun who result ended => ?_⟩
  · have stands := agreement.standing who
    rw [List.nil_append] at stands
    generalize crowd.dialogue who = dialogue at stands
    cases stands with
    | waiting unmoved => omega
    | fetching moved => omega
    | done => exact ⟨_, rfl⟩
  · have stands := agreement.standing who
    generalize crowd.dialogue who = dialogue at stands ended
    cases stands with
    | waiting =>
      rw [poll_eq] at ended
      exact nomatch ended
    | fetching _ _ _ creates =>
      rw [succeeded_eq, creates] at ended
      exact nomatch ended
    | done asked => exact ⟨asked, (Dialogue.done.inj ended).symm⟩

/-- Two drivers poll the creation of a binding, which is in progress for one poll. Their requests
are mixed with each other and with the creation of another instance; one of them learns of the
progress, and the other gets the binding. -/
theorem pollers_agree_pair :
    let starter : Driver := { broker := Broker.make "http://broker" "admin" "secret" }
    let drivers (who : Bool) : Driver :=
      if who then starter else { broker := { starter.broker with apiVersion := "2.14" } }
    let settings : Mock.Settings := { mode := .async 1 }
    let random : Nat → String := fun _ => "1"
    let change : Change :=
      .bind { instanceId := "i", bindingId := "b", serviceId := "s", planId := "p" }
    let state : Loopback.State :=
      { store := { instances := { entries := [("i", ⟨"s", "p", none, none, none, none⟩)] } } }
    let tracked := change.track (some "bind-1")
    let schedule : List (Move Bool) :=
      [.call false, .call true, .other (Mock.Turn.put "2" "j").request, .call true, .call false]
    let loopback := starter.broker.connection settings random
    let accepted := ((starter.start change).run loopback.world state).state
    let crowd := (pollers drivers tracked accepted).after loopback schedule
    ∃ who, crowd.dialogue who
        = .done (.ok (.inFlight tracked (some (change.kind.name ++ " in progress")))) ∧
      crowd.dialogue (!who) = .done (.ok (.succeeded (some (Mock.grantedBinding "i" "b")))) := by
  intro starter drivers settings random change state tracked schedule
  have accepts : (answered (starter.broker.connection settings random).world starter change
      state).1.Accepts (some "bind-1") := by
    have replies : (answered (starter.broker.connection settings random).world starter change
        state).1.toOption = some (Mock.Answer.accepted settings "bind-1").toResponse := by
      decide +kernel
    cases reply : (answered (starter.broker.connection settings random).world starter change
        state).1 with
    | error fault =>
      rw [reply] at replies
      exact nomatch replies
    | ok response =>
      rw [reply] at replies
      obtain rfl := Option.some.inj replies
      exact ⟨_, rfl, rfl, Mock.tokenOf_accepted _ (by decide)⟩
  have started := result_start_inFlight accepts fun assumed => nomatch assumed.1
  have plain : change.endpoint.IsPlain := by
    have ids : ∀ id ∈ ["i", "b"], IsPlainId id := by decide
    exact ids
  have joins (who : Bool) : (drivers who).Joins starter := by
    cases who with
    | true => exact ⟨rfl, rfl, by decide +kernel⟩
    | false => exact ⟨rfl, rfl, by decide +kernel⟩
  have elsewhere : ∀ request, .other request ∈ schedule →
      request.instanceId? ≠ some tracked.instanceId := by
    have another : (Mock.Turn.put "2" "j").request.instanceId? ≠ some "i" := by decide +kernel
    intro request mem
    simp only [schedule, List.mem_cons, reduceCtorEq, Move.other.injEq, List.not_mem_nil, or_false,
      false_or] at mem
    exact mem ▸ another
  have agree := pollers_agree starter drivers settings 1 rfl random change plain state tracked none
    started joins schedule elsewhere
  dsimp only at agree ⊢
  generalize (pollers drivers tracked _).after _ schedule = crowd at agree ⊢
  generalize askers drivers tracked crowd = order at agree
  obtain ⟨nodup, ends, reports⟩ := agree
  obtain ⟨_, ended⟩ := ends false (by decide)
  obtain ⟨_, ended'⟩ := ends true (by decide)
  obtain ⟨asked, rfl⟩ := reports false _ ended
  obtain ⟨asked', rfl⟩ := reports true _ ended'
  -- Both have asked and there is nobody else, so one was the first and the other was not.
  have few := nodup.length_le_card
  rw [Fintype.card_bool] at few
  have place := List.idxOf_lt_length_of_mem asked
  have place' := List.idxOf_lt_length_of_mem asked'
  have differ : order.idxOf false ≠ order.idxOf true :=
    fun same => nomatch (List.idxOf_inj asked).mp same
  by_cases first : order.idxOf false < 1
  · have second : ¬order.idxOf true < 1 := by omega
    rw [if_pos first] at ended
    rw [if_neg second] at ended'
    refine ⟨false, ended, ?_⟩
    rw [Bool.not_false]
    exact ended'
  · have second : order.idxOf true < 1 := by omega
    rw [if_neg first] at ended
    rw [if_pos second] at ended'
    refine ⟨true, ended', ?_⟩
    rw [Bool.not_true]
    exact ended

end Crowd

end Driver

end ServiceBroker
