import ServiceBroker.Client.Script
import ServiceBroker.Proofs.Outcome
import ServiceBroker.Proofs.Tracked

/-!
# Cancelling and resuming

Polling can be cancelled at any moment. What is in flight is then kept as JSON,
and later polled further with a fresh token on what the broker answers from then
on. This module shows that nothing is lost or repeated by that: however often the
polling is cancelled, it ends with the same result as if it never had been, and
the requests of its pieces are the requests of the whole.

Between two looks at the token a poll sees nothing but replies, so it runs alike
whether the token is cancelled or not (`Dialogue.Blind`). `Driver.Ends` says how
the polls of an operation end on what is left of a script, without any mention of
the token or of a bound on the rounds. Both the polling that is never cancelled
and the pieces of one that is are measured against it.
-/

namespace ServiceBroker

/-! ## Scripts -/

namespace Script

/-- The replies that are left of a script. -/
def replies (script : Script) : List Reply := script.entries.map (·.reply)

end Script

/-- **A world that plays a finite script**: every request takes the next reply that is left, or
fails if there is none, and no wait takes any. The token may be cancelled at any moment, and who
waits is told what has become of it by then. -/
structure Dialogue.World.Plays {σ : Type} (world : Dialogue.World σ) (left : σ → List Reply) :
    Prop where
  gives : ∀ state request,
    (world.reply state request).1 = (left state).headD (.error Script.exhausted)
  takes : ∀ state request, left (world.reply state request).2 = (left state).tail
  waits : ∀ state interval, left (world.wait state interval).2 = left state
  tells : ∀ state interval,
    (world.wait state interval).1 = world.cancelled (world.wait state interval).2

/-- A response is one of the replies that were left. -/
theorem Dialogue.World.Plays.length_left {σ : Type} {world : Dialogue.World σ}
    {left : σ → List Reply} (plays : world.Plays left) {state : σ} {request : Http.Request}
    {response : Http.Response} (given : (world.reply state request).1 = .ok response) :
    (left (world.reply state request).2).length + 1 = (left state).length := by
  rw [plays.gives] at given
  rw [plays.takes]
  cases taken : left state with
  | nil =>
    rw [taken] at given
    exact nomatch given
  | cons reply rest => rfl

namespace Script

/-- **A script is played** by its world. -/
theorem plays : world.Plays replies where
  gives := fun script request => by
    obtain ⟨entries, cancelled⟩ := script
    cases entries <;> rfl
  takes := fun script request => by
    obtain ⟨entries, cancelled⟩ := script
    cases entries <;> rfl
  waits := fun _ _ => rfl
  tells := fun _ _ => rfl

/-- Scripts with the same replies give out the same reply, and have the same replies
left. -/
theorem reply_congr {script other : Script} (same : script.replies = other.replies)
    (request : Http.Request) :
    (script.reply request).1 = (other.reply request).1 ∧
      (script.reply request).2.replies = (other.reply request).2.replies := by
  have gives := plays.gives script request
  have takes := plays.takes script request
  rw [same] at gives takes
  exact ⟨gives.trans (plays.gives other request).symm,
    takes.trans (plays.takes other request).symm⟩

/-- **A script that never cancels the token.** -/
def Calm (script : Script) : Prop :=
  script.cancelled = false ∧ ∀ entry ∈ script.entries, entry.cancels = false

/-- What is left of such a script does not cancel the token either. -/
theorem Calm.reply {script : Script} (calm : script.Calm) (request : Http.Request) :
    (script.reply request).2.Calm := by
  obtain ⟨entries, cancelled⟩ := script
  cases entries with
  | nil => exact calm
  | cons entry entries =>
    obtain ⟨notYet, never⟩ := calm
    refine ⟨?_, fun other mem => never other (List.mem_cons_of_mem _ mem)⟩
    show (cancelled || entry.cancels) = false
    rw [show cancelled = false from notYet, never entry List.mem_cons_self]
    rfl

/-- Nothing that is done on such a script cancels the token. -/
theorem Calm.run {script : Script} (calm : script.Calm) {α : Type} (dialogue : Dialogue α) :
    (dialogue.run world script).state.Calm := by
  induction dialogue generalizing script with
  | done a => exact calm
  | send request next ih => exact ih _ (calm.reply request)
  | look next ih => exact ih _ calm
  | wait interval next ih => exact ih _ calm

end Script

namespace Dialogue

variable {α : Type}

/-- **A dialogue that never looks at the token**: it sends requests and goes on with
their replies. -/
inductive Blind : Dialogue α → Prop where
  | done (a : α) : Blind (.done a)
  | send (request : Http.Request) {next : Reply → Dialogue α} (h : ∀ reply, Blind (next reply)) :
      Blind (.send request next)

/-- **Such a dialogue runs alike on scripts with the same replies.** -/
theorem Blind.run_congr {dialogue : Dialogue α} (blind : dialogue.Blind) {script other : Script}
    (same : script.replies = other.replies) :
    (dialogue.run Script.world script).result = (dialogue.run Script.world other).result ∧
      (dialogue.run Script.world script).state.replies
        = (dialogue.run Script.world other).state.replies ∧
      (dialogue.run Script.world script).requests
        = (dialogue.run Script.world other).requests := by
  induction blind generalizing script other with
  | done a => exact ⟨rfl, same, rfl⟩
  | @send request next _ ih =>
    obtain ⟨reply, left⟩ := Script.reply_congr same request
    have run_eq (script : Script) :
        (Dialogue.send request next).run Script.world script =
          let rest := (next (script.reply request).1).run Script.world (script.reply request).2
          { rest with requests := request :: rest.requests } := rfl
    obtain ⟨result, replies, requests⟩ := ih (other.reply request).1 left
    rw [run_eq, run_eq, reply]
    exact ⟨result, replies, congrArg (request :: ·) requests⟩

end Dialogue

namespace Driver

variable (driver : Driver) (tracked : TrackedOperation)

/-! ## How polls end -/

/-- The end of an operation that succeeded does not look at the token. -/
theorem blind_succeeded : (driver.succeeded tracked).Blind := by
  rw [succeeded_eq]
  cases tracked.creates? with
  | none => exact .done _
  | some bindingId => exact .send _ fun reply => .done _

/-- **A poll does not look at the token.** -/
theorem blind_poll : (driver.poll tracked).Blind := by
  rw [poll_eq]
  refine .send _ fun reply => ?_
  unfold settle
  split
  · exact .done _
  · exact .done _
  · split
    · exact .done _
    · exact driver.blind_succeeded tracked
    · exact .done _

/-- **A poll that leaves its operation in flight** has taken one reply. -/
theorem length_left_poll {σ : Type} {world : Dialogue.World σ} {left : σ → List Reply}
    (plays : world.Plays left) {state : σ} {description : Option String}
    (inFlight : ((driver.poll tracked).run world state).result
      = .ok (.inFlight tracked description)) :
    (left ((driver.poll tracked).run world state).state).length + 1 = (left state).length := by
  have answers := answers_of_inFlight inFlight
  rw [run_poll_of_inProgress answers]
  obtain ⟨response, replied, -⟩ := answers
  exact plays.length_left replied

/-- **A poll takes a reply**, or ends because there is none. -/
theorem length_entries_poll (script : Script)
    (inFlight : ∃ description, ((driver.poll tracked).run Script.world script).result
      = .ok (.inFlight tracked description)) :
    ((driver.poll tracked).run Script.world script).state.entries.length
      < script.entries.length := by
  obtain ⟨description, inFlight⟩ := inFlight
  have taken := driver.length_left_poll tracked Script.plays inFlight
  unfold Script.replies at taken
  rw [List.length_map, List.length_map] at taken
  exact Nat.lt_of_succ_le (Nat.le_of_eq taken)

/-- **How the polls of an operation end** on the replies of a script, and the
requests until then. -/
inductive Ends : Script → Result → List Http.Request → Prop where
  /-- With the next poll. -/
  | now {script : Script}
      (ended : ∀ description, ((driver.poll tracked).run Script.world script).result
        ≠ .ok (.inFlight tracked description)) :
      Ends script ((driver.poll tracked).run Script.world script).result
        ((driver.poll tracked).run Script.world script).requests
  /-- Later than that. -/
  | later {script : Script} {description : Option String} {result : Result}
      {requests : List Http.Request}
      (inFlight : ((driver.poll tracked).run Script.world script).result
        = .ok (.inFlight tracked description))
      (rest : Ends ((driver.poll tracked).run Script.world script).state result requests) :
      Ends script result (((driver.poll tracked).run Script.world script).requests ++ requests)

variable {driver tracked}

/-- **Only the replies matter** for how the polls end. -/
theorem Ends.congr {script other : Script} {result : Result} {requests : List Http.Request}
    (ends : driver.Ends tracked script result requests)
    (same : script.replies = other.replies) : driver.Ends tracked other result requests := by
  induction ends generalizing other with
  | @now script ended =>
    obtain ⟨result, _, requests⟩ := (driver.blind_poll tracked).run_congr same
    rw [result] at ended ⊢
    rw [requests]
    exact .now ended
  | @later script description result requests inFlight rest ih =>
    obtain ⟨polled, left, sent⟩ := (driver.blind_poll tracked).run_congr same
    rw [sent]
    exact .later (polled ▸ inFlight) (ih left)

/-- What ended is not in flight. -/
theorem Ends.not_inFlight {script : Script} {result : Result} {requests : List Http.Request}
    (ends : driver.Ends tracked script result requests) (other : TrackedOperation)
    (description : Option String) : result ≠ .ok (.inFlight other description) := by
  induction ends with
  | now ended =>
    intro inFlight
    obtain rfl := poll_eq_inFlight inFlight
    exact ended description inFlight
  | later inFlight rest ih => exact ih

/-- The polls end in one way only. -/
theorem Ends.unique {script : Script} {result other : Result}
    {requests others : List Http.Request} (first : driver.Ends tracked script result requests)
    (second : driver.Ends tracked script other others) : result = other ∧ requests = others := by
  induction first generalizing other others with
  | now ended =>
    cases second with
    | now _ => exact ⟨rfl, rfl⟩
    | later inFlight _ => exact absurd inFlight (ended _)
  | later inFlight rest ih =>
    cases second with
    | now ended => exact absurd inFlight (ended _)
    | later _ rest =>
      obtain ⟨rfl, rfl⟩ := ih rest
      exact ⟨rfl, rfl⟩

/-- **The polls end** on every script: each takes a reply, and the one that finds none
fails. -/
theorem exists_ends (driver : Driver) (tracked : TrackedOperation) (script : Script) :
    ∃ result requests, driver.Ends tracked script result requests := by
  induction hlength : script.entries.length using Nat.strongRecOn generalizing script with
  | _ length ih =>
    by_cases inFlight : ∃ description, ((driver.poll tracked).run Script.world script).result
        = .ok (.inFlight tracked description)
    · have shorter := driver.length_entries_poll tracked script inFlight
      obtain ⟨description, inFlight⟩ := inFlight
      obtain ⟨result, requests, ends⟩ := ih _ (hlength ▸ shorter) _ rfl
      exact ⟨result, _, .later inFlight ends⟩
    · exact ⟨_, _, .now fun description h => inFlight ⟨description, h⟩⟩

/-! ## The polling that is never cancelled -/

/-- A poll that leaves nothing in flight is the last. -/
theorem run_goOn_ended {σ : Type} {world : Dialogue.World σ} (interval : Duration) (rounds : Nat)
    {before : σ} (ended : ∀ description, ((driver.poll tracked).run world before).result
      ≠ .ok (.inFlight tracked description)) (state : σ) :
    (driver.goOn interval rounds ((driver.poll tracked).run world before).result).run world state
      = { result := some ((driver.poll tracked).run world before).result, state := state
          requests := [] } := by
  rw [goOn_eq_done]
  · rfl
  · intro other description inFlight
    obtain rfl := poll_eq_inFlight inFlight
    exact ended description inFlight

/-- **Polling that is never cancelled ends as the polls end**, if there are rounds
enough for all replies. -/
theorem Ends.run_uncancelled {script : Script} {result : Result} {requests : List Http.Request}
    (ends : driver.Ends tracked script result requests) (calm : script.Calm)
    (interval : Duration) {rounds : Nat} (enough : script.entries.length ≤ rounds) :
    let run := ((driver.poll tracked).bind (driver.goOn interval rounds)).run Script.world script
    run.result = some result ∧ run.requests = requests := by
  induction ends generalizing rounds with
  | now ended =>
    rw [Dialogue.run_bind]
    dsimp only
    rw [run_goOn_ended interval rounds ended]
    exact ⟨rfl, List.append_nil _⟩
  | @later script description result requests inFlight rest ih =>
    have shorter := driver.length_entries_poll tracked script ⟨description, inFlight⟩
    obtain ⟨rounds, rfl⟩ : ∃ fewer, rounds = fewer + 1 := ⟨rounds - 1, by omega⟩
    have still := calm.run (driver.poll tracked)
    have running : (Script.world.wait ((driver.poll tracked).run Script.world script).state
        interval).1 = false := still.1
    rw [Dialogue.run_bind]
    dsimp only
    rw [inFlight, run_goOn_inFlight, running, if_neg Bool.false_ne_true]
    have fewer : ((driver.poll tracked).run Script.world script).state.entries.length ≤ rounds := by
      omega
    obtain ⟨ended, sent⟩ := ih still fewer
    exact ⟨ended, congrArg _ sent⟩

/-! ## Pieces of a polling -/

/-- **What one call of the polling amounts to**, whenever the token is cancelled: the
polls have ended, or they are cut and go on with the replies that are left. At least
some number of replies has been taken before a cut. -/
inductive Piece (driver : Driver) (tracked : TrackedOperation) (least : Nat) (script : Script)
    (run : Dialogue.Run Script (Option Result)) : Prop where
  | ended {result : Result} (h : run.result = some result)
      (ends : driver.Ends tracked script result run.requests)
  | cut {description : Option String}
      (h : run.result = some (.ok (.inFlight tracked description)))
      (taken : run.state.entries.length + least ≤ script.entries.length)
      (rest : ∀ result requests, driver.Ends tracked run.state result requests →
        driver.Ends tracked script result (run.requests ++ requests))

/-- A poll that leaves nothing in flight is a piece that has ended. -/
theorem piece_of_ended (driver : Driver) (tracked : TrackedOperation) (interval : Duration)
    (rounds : Nat) {script : Script}
    (ended : ∀ description, ((driver.poll tracked).run Script.world script).result
      ≠ .ok (.inFlight tracked description)) :
    driver.Piece tracked 1 script
      (((driver.poll tracked).bind (driver.goOn interval rounds)).run Script.world script) := by
  rw [Dialogue.run_bind]
  dsimp only
  rw [run_goOn_ended interval rounds ended]
  refine .ended rfl ?_
  rw [List.append_nil]
  exact .now ended

/-- **A poll and what follows it** are a piece that takes a reply at least. -/
theorem piece_poll (driver : Driver) (tracked : TrackedOperation) (interval : Duration)
    {rounds : Nat} (script : Script) (enough : script.entries.length ≤ rounds) :
    driver.Piece tracked 1 script
      (((driver.poll tracked).bind (driver.goOn interval rounds)).run Script.world script) := by
  -- By induction on the rounds: every poll that leaves the operation in flight takes a reply,
  -- so without rounds there are no replies, and a poll without a reply leaves nothing.
  induction rounds generalizing script with
  | zero =>
    refine driver.piece_of_ended tracked interval 0 fun description inFlight => ?_
    have shorter := driver.length_entries_poll tracked script ⟨description, inFlight⟩
    exact absurd (Nat.lt_of_lt_of_le shorter enough) (Nat.not_lt_zero _)
  | succ rounds ih =>
    by_cases inFlight : ∃ description, ((driver.poll tracked).run Script.world script).result
        = .ok (.inFlight tracked description)
    · have shorter := driver.length_entries_poll tracked script inFlight
      obtain ⟨description, inFlight⟩ := inFlight
      rw [Dialogue.run_bind]
      dsimp only
      rw [inFlight, run_goOn_inFlight]
      split
      · refine .cut rfl shorter fun result requests ends => ?_
        rw [List.append_nil]
        exact .later inFlight ends
      · cases ih ((driver.poll tracked).run Script.world script).state (by omega) with
        | ended h ends => exact .ended h (.later inFlight ends)
        | cut h taken rest =>
          refine .cut h (Nat.le_trans taken (Nat.le_of_lt shorter)) fun result requests ends => ?_
          rw [List.append_assoc]
          exact .later inFlight (rest result requests ends)
    · exact driver.piece_of_ended tracked interval (rounds + 1) fun description h =>
        inFlight ⟨description, h⟩

/-- **A call of the polling is a piece.** If the token is cancelled before, nothing is
taken. -/
theorem piece_pollUntilTerminal (driver : Driver) (tracked : TrackedOperation)
    (interval : Duration) {rounds : Nat} (script : Script)
    (enough : script.entries.length ≤ rounds) :
    driver.Piece tracked (if script.cancelled then 0 else 1) script
      ((driver.pollUntilTerminal rounds interval tracked).run Script.world script) := by
  rw [run_pollUntilTerminal]
  show Piece driver tracked _ script (if script.cancelled then _ else _)
  split
  · exact .cut rfl (Nat.le_refl _) fun result requests ends => ends
  · exact driver.piece_poll tracked interval script enough

/-! ## Cancelling, keeping and resuming -/

/-- **Polling in pieces.** Each call has a fresh token, which may be cancelled before the
call already. What a call leaves in flight is written to JSON and read back, and the next
call goes on with that on the replies that are left. There is no outcome while the last
call leaves the operation in flight. -/
def relay (driver : Driver) (rounds : Nat) (interval : Duration) :
    List Bool → TrackedOperation → List Script.Entry → Option (Result × List Http.Request)
  | [], _, _ => none
  | cancelled :: tokens, tracked, entries =>
    let run := (driver.pollUntilTerminal rounds interval tracked).run Script.world
      { entries, cancelled }
    match run.result with
    | none => none
    | some (.ok (.inFlight kept _)) =>
      match Json.decode TrackedOperation.reader kept.toJson.text with
      | .error _ => none
      | .ok pickedUp =>
        (relay driver rounds interval tokens pickedUp run.state.entries).map
          fun (result, requests) => (result, run.requests ++ requests)
    | some result => some (result, run.requests)

/-- A piece that ended is the outcome. -/
theorem relay_of_ended {rounds : Nat} {interval : Duration} {cancelled : Bool}
    {tokens : List Bool} {entries : List Script.Entry} {result : Result}
    (h : ((driver.pollUntilTerminal rounds interval tracked).run Script.world
      { entries, cancelled }).result = some result)
    (ended : ∀ other description, result ≠ .ok (.inFlight other description)) :
    driver.relay rounds interval (cancelled :: tokens) tracked entries
      = some (result, ((driver.pollUntilTerminal rounds interval tracked).run Script.world
          { entries, cancelled }).requests) := by
  unfold relay
  dsimp only
  rw [h]
  cases result with
  | error error => rfl
  | ok progress =>
    cases progress with
    | inFlight other description => exact absurd rfl (ended other description)
    | complete binding => rfl
    | succeeded binding => rfl
    | failed failure => rfl

/-- A piece that was cut is followed by those of the same operation. -/
theorem relay_of_cut {rounds : Nat} {interval : Duration} {cancelled : Bool}
    {tokens : List Bool} {entries : List Script.Entry} {description : Option String}
    (h : ((driver.pollUntilTerminal rounds interval tracked).run Script.world
      { entries, cancelled }).result = some (.ok (.inFlight tracked description))) :
    driver.relay rounds interval (cancelled :: tokens) tracked entries
      = (driver.relay rounds interval tokens tracked
          ((driver.pollUntilTerminal rounds interval tracked).run Script.world
            { entries, cancelled }).state.entries).map fun (result, requests) =>
          (result, ((driver.pollUntilTerminal rounds interval tracked).run Script.world
            { entries, cancelled }).requests ++ requests) := by
  conv => lhs; unfold relay
  dsimp only
  rw [h]
  dsimp only
  rw [tracked.decode_text]

/-- **The pieces end as the polls end**, if they end. -/
theorem relay_ends {rounds : Nat} {interval : Duration} {tokens : List Bool}
    {entries : List Script.Entry} {result : Result} {requests : List Http.Request}
    (enough : entries.length ≤ rounds)
    (h : driver.relay rounds interval tokens tracked entries = some (result, requests)) :
    driver.Ends tracked { entries } result requests := by
  induction tokens generalizing entries result requests with
  | nil => exact nomatch h
  | cons cancelled tokens ih =>
    cases driver.piece_pollUntilTerminal tracked interval { entries, cancelled } enough with
    | ended run ends =>
      rw [relay_of_ended run ends.not_inFlight] at h
      obtain ⟨rfl, rfl⟩ := Prod.mk.inj (Option.some.inj h)
      exact ends.congr rfl
    | cut run taken rest =>
      rw [relay_of_cut run] at h
      obtain ⟨⟨later, others⟩, hlater, heq⟩ := Option.map_eq_some_iff.mp h
      obtain ⟨rfl, rfl⟩ := Prod.mk.inj heq
      have ends := ih (Nat.le_trans (Nat.le_of_add_right_le taken) enough) hlater
      exact (rest _ _ (ends.congr rfl)).congr rfl

/-- **The pieces end** once there are more tokens that are not cancelled beforehand than
replies. -/
theorem exists_relay (driver : Driver) (tracked : TrackedOperation) {rounds : Nat}
    (interval : Duration) {tokens : List Bool}
    {entries : List Script.Entry} (enough : entries.length ≤ rounds)
    (fresh : entries.length < tokens.count false) :
    ∃ outcome, driver.relay rounds interval tokens tracked entries = some outcome := by
  induction tokens generalizing entries with
  | nil => exact absurd fresh (Nat.not_lt_zero _)
  | cons cancelled tokens ih =>
    cases driver.piece_pollUntilTerminal tracked interval { entries, cancelled } enough with
    | ended run ends => exact ⟨_, relay_of_ended run ends.not_inFlight⟩
    | cut run taken rest =>
      have left : ((driver.pollUntilTerminal rounds interval tracked).run Script.world
          { entries, cancelled }).state.entries.length < tokens.count false := by
        cases cancelled with
        | false =>
          rw [List.count_cons_self] at fresh
          have : _ + 1 ≤ entries.length := taken
          omega
        | true =>
          rw [List.count_cons_of_ne (by decide)] at fresh
          exact Nat.lt_of_le_of_lt taken fresh
      obtain ⟨outcome, h⟩ := ih (Nat.le_trans (Nat.le_of_add_right_le taken) enough) left
      rw [relay_of_cut run, h]
      exact ⟨_, rfl⟩

/-- **Polling that is cancelled, kept and resumed is polling that was never cancelled.**
The token may be cancelled during any request and before any call. What a call leaves in
flight is the operation that it was given. If the calls come to an outcome, that is the
result and the requests of the one call that nothing cancels, and that call does end; the
calls come to an outcome once more of them than there are replies begin with a token that
is not cancelled. -/
theorem relay_eq_uncancelled (driver : Driver) (rounds : Nat) (interval : Duration)
    (tracked : TrackedOperation) (entries : List Script.Entry)
    (enough : entries.length ≤ rounds) :
    let uncancelled := (driver.pollUntilTerminal rounds interval tracked).run Script.world
      { entries := entries.map fun entry => { entry with cancels := false } }
    (∀ cancelled kept description,
      ((driver.pollUntilTerminal rounds interval tracked).run Script.world
        { entries, cancelled }).result = some (.ok (.inFlight kept description)) →
      kept = tracked) ∧
    ∃ result, uncancelled.result = some result ∧
      (∀ other description, result ≠ .ok (.inFlight other description)) ∧
      (∀ tokens outcome, driver.relay rounds interval tokens tracked entries = some outcome →
        outcome = (result, uncancelled.requests)) ∧
      ∀ tokens : List Bool, entries.length < tokens.count false →
        driver.relay rounds interval tokens tracked entries
          = some (result, uncancelled.requests) := by
  intro uncancelled
  obtain ⟨result, requests, ends⟩ := driver.exists_ends tracked { entries }
  have calm : Script.Calm
      { entries := entries.map fun entry => { entry with cancels := false } } := by
    refine ⟨rfl, fun entry mem => ?_⟩
    obtain ⟨original, _, rfl⟩ := List.mem_map.mp mem
    rfl
  have same : Script.replies { entries }
      = Script.replies { entries := entries.map fun entry => { entry with cancels := false } } := by
    unfold Script.replies
    rw [List.map_map]
    rfl
  have whole : uncancelled.result = some result ∧ uncancelled.requests = requests :=
    (ends.congr same).run_uncancelled calm interval
      (Nat.le_trans (Nat.le_of_eq (List.length_map _)) enough)
  -- Both ways of polling are measured by how the polls end, which only depends on the replies.
  have outcome_eq {tokens : List Bool} {outcome : Result × List Http.Request}
      (h : driver.relay rounds interval tokens tracked entries = some outcome) :
      outcome = (result, uncancelled.requests) := by
    obtain ⟨rfl, rfl⟩ := (relay_ends enough h).unique ends
    rw [whole.2]
  refine ⟨fun cancelled kept description inFlight => ?_, result, whole.1, ends.not_inFlight,
    fun tokens outcome h => outcome_eq h, fun tokens fresh => ?_⟩
  · cases driver.piece_pollUntilTerminal tracked interval { entries, cancelled } enough with
    | ended run ends =>
      rw [run] at inFlight
      exact absurd (Option.some.inj inFlight) (ends.not_inFlight kept description)
    | cut run taken rest =>
      rw [run] at inFlight
      exact (Progress.inFlight.inj (Except.ok.inj (Option.some.inj inFlight))).1.symm
  · obtain ⟨outcome, h⟩ := driver.exists_relay tracked interval enough fresh
    rw [h, outcome_eq h]

/-- A deletion that is polled twice, the token being cancelled during the first poll: with
three calls it comes to the outcome of the call that is not cancelled. -/
theorem relay_cancelled_once :
    let driver : Driver := { broker := Broker.make "http://broker" "admin" "secret" }
    let tracked : TrackedOperation :=
      { kind := .deprovision, instanceId := "i", serviceId := "s", planId := "p" }
    let inProgress : LastOperation := { state := .inProgress }
    let entries : List Script.Entry :=
      [{ reply := .ok { status := 200, body := inProgress.toJson.text }, cancels := true },
        { reply := .ok { status := 410, body := "" } }]
    let uncancelled :=
      (driver.pollUntilTerminal 2 (Duration.ofMilliseconds 1) tracked).run Script.world
      { entries := entries.map fun entry => { entry with cancels := false } }
    ∃ result, uncancelled.result = some result ∧
      driver.relay 2 (Duration.ofMilliseconds 1) [false, false, false] tracked entries
        = some (result, uncancelled.requests) := by
  intro driver tracked inProgress entries uncancelled
  obtain ⟨_, result, ended, _, _, outcome⟩ :=
    relay_eq_uncancelled driver 2 (Duration.ofMilliseconds 1) tracked entries (Nat.le_refl 2)
  exact ⟨result, ended, outcome [false, false, false] (Nat.lt_succ_self 2)⟩

end Driver

end ServiceBroker
