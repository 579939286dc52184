import ServiceBroker.Proofs.Crowd
import ServiceBroker.Proofs.Refinement
import ServiceBroker.Proofs.Understood

/-!
# The calls of clients

A client calls an operation of a broker, or lets a driver start a change or poll it. What a
call is going to send is known before it is made: only what its arguments ask for
(`ClientCall.asks`), whatever the broker replies. And a call makes up no misunderstanding of its
own: if every reply is understood, then so is its result (`Driver.keepsTo_make`).

Many clients call one broker at the same time. `Crowd.play` has their calls take steps in any
order, each with its token cancelled or not, and records every request with its reply.
-/

namespace ServiceBroker

/-! ## What is asked for -/

/-- **An operation with what it is given.** -/
structure Ask where
  operation : Operation
  input : operation.Input

namespace Ask

/-- The request that asks for it. -/
def request (ask : Ask) (broker : Broker) : Http.Request := broker.request ask.operation ask.input

/-- **What can be asked for**: the identifiers need no escape, and the free-form objects hold no
double. -/
structure IsProper (ask : Ask) : Prop where
  plain : (ask.operation.endpoint ask.input).IsPlain
  exact : ∀ members ∈ ask.operation.freeForm ask.input, (Json.object members).IsExact

end Ask

/-- What a change asks for. -/
def Change.toAsk : Change → Ask
  | .provision request => ⟨.provision, request⟩
  | .deprovision request => ⟨.deprovision, request⟩
  | .bind request => ⟨.bind, request⟩
  | .unbind request => ⟨.unbind, request⟩

namespace TrackedOperation

/-- What a poll asks for: the last operation. -/
def toAsk (tracked : TrackedOperation) : Ask :=
  match tracked.kind.bindingId? with
  | none =>
    ⟨.instanceLastOperation,
      { instanceId := tracked.instanceId, serviceId := some tracked.serviceId,
        planId := some tracked.planId, operation := tracked.operation }⟩
  | some bindingId =>
    ⟨.bindingLastOperation,
      { instanceId := tracked.instanceId, bindingId, serviceId := some tracked.serviceId,
        planId := some tracked.planId, operation := tracked.operation }⟩

/-- What is asked for when the operation has succeeded: the binding, if one was created. -/
def fetches (tracked : TrackedOperation) : List Ask :=
  match tracked.kind with
  | .bind bindingId =>
    [⟨.getBinding,
      { instanceId := tracked.instanceId, bindingId, serviceId := tracked.serviceId,
        planId := tracked.planId }⟩]
  | .provision | .deprovision | .unbind _ => []

/-- A poll and a fetch are questions. -/
theorem harmless_of_mem {tracked : TrackedOperation} {asked : Ask}
    (mem : asked ∈ tracked.toAsk :: tracked.fetches) :
    asked.operation.acceptsIncomplete = false := by
  obtain rfl | fetched := List.mem_cons.mp mem
  · unfold toAsk
    cases tracked.kind.bindingId? <;> rfl
  · unfold fetches at fetched
    split at fetched
    · rw [List.mem_singleton.mp fetched]
      rfl
    all_goals exact nomatch fetched

end TrackedOperation

/-- The token makes no difference to what is fetched. -/
theorem Change.fetches_track (change : Change) (token : Option String) :
    (change.track token).fetches = (change.track none).fetches := by
  cases change <;> rfl

/-- **A call of a client**: it asks for an operation, or is one on a driver. -/
inductive ClientCall where
  | ask (asked : Ask)
  | driver (call : Driver.Call)

namespace ClientCall

/-- **All that a call may ask for.** -/
def asks : ClientCall → List Ask
  | .ask asked => [asked]
  | .driver (.start change) => change.toAsk :: (change.track none).fetches
  | .driver (.poll tracked) => tracked.toAsk :: tracked.fetches
  | .driver (.pollUntilTerminal _ _ tracked) => tracked.toAsk :: tracked.fetches

/-- **The instance that a call is to create**, if it is to create one. -/
def provision? : ClientCall → Option ProvisionRequest
  | .ask ⟨.provision, request⟩ => some request
  | .driver (.start (.provision request)) => some request
  | _ => none

/-- **A call can be made** if all that it may ask for can be asked for. -/
def IsProper (call : ClientCall) : Prop := ∀ asked ∈ call.asks, asked.IsProper

/-- A call that is to create an instance asks for nothing else. -/
theorem asks_of_provision? {call : ClientCall} {request : ProvisionRequest}
    (provisions : call.provision? = some request) : call.asks = [⟨.provision, request⟩] := by
  unfold provision? at provisions
  split at provisions
  · obtain rfl := Option.some.inj provisions
    rfl
  · obtain rfl := Option.some.inj provisions
    rfl
  · exact nomatch provisions

/-- Only such a call asks for the creation of an instance. -/
theorem provision?_of_asks {call : ClientCall} {request : ProvisionRequest}
    (asks : ⟨.provision, request⟩ ∈ call.asks) : call.provision? = some request := by
  cases call with
  | ask asked =>
    rw [← List.mem_singleton.mp asks]
    rfl
  | driver call =>
    cases call with
    | start change =>
      obtain same | fetched := List.mem_cons.mp asks
      · cases change with
        | provision other =>
          injection same with _ same
          rw [same]
          rfl
        | deprovision | bind | unbind => exact nomatch same
      · exact nomatch TrackedOperation.harmless_of_mem (.tail _ fetched)
    | poll tracked => exact nomatch TrackedOperation.harmless_of_mem asks
    | pollUntilTerminal rounds interval tracked =>
      exact nomatch TrackedOperation.harmless_of_mem asks

end ClientCall

/-- Making a call. -/
def Driver.make (driver : Driver) : ClientCall → Dialogue Report
  | .ask asked => driver.ask asked.operation asked.input
  | .driver call => (driver.dialogue call).bind fun result => .done (.progress result)

theorem Driver.make_ask (driver : Driver) (asked : Ask) :
    driver.make (.ask asked) = .send (asked.request driver.broker) fun reply =>
      .done (.answer asked.operation (asked.operation.read reply)) := by
  show (driver.broker.call asked.operation asked.input).bind _ = _
  rw [Broker.call_eq]
  rfl

/-- **Whether a call ended with a body that could not be read.** -/
def Report.isMalformed : Report → Bool
  | .progress (some (.error error)) => error.isMalformed
  | .progress _ => false
  | .answer _ (.error error) => error.isMalformed
  | .answer _ (.ok _) => false

/-! ## What is sent -/

/-- **A dialogue keeps to what is asked for**: it sends nothing else, and if it understands all
replies, then it ends as it should. -/
def Dialogue.KeepsTo {α : Type} (broker : Broker) (asks : List Ask) (ends : α → Prop) :
    Dialogue α → Prop
  | .done a => ends a
  | .send request next =>
    ∃ ask ∈ asks, request = ask.request broker ∧
      ∀ reply, Understood (ask.operation.read reply) → (next reply).KeepsTo broker asks ends
  | .look next => ∀ cancelled, (next cancelled).KeepsTo broker asks ends
  | .wait _ next => ∀ cancelled, (next cancelled).KeepsTo broker asks ends

/-- **A dialogue goes on without a request.** -/
inductive Dialogue.GoesOn {α : Type} : Dialogue α → Dialogue α → Prop where
  | done (a : α) : GoesOn (.done a) (.done a)
  | look (next : Bool → Dialogue α) (cancelled : Bool) : GoesOn (.look next) (next cancelled)
  | wait (interval : Duration) (next : Bool → Dialogue α) (cancelled : Bool) :
      GoesOn (.wait interval next) (next cancelled)

section KeepsTo

variable {α β : Type} {broker : Broker} {asks : List Ask}

/-- What goes on after a dialogue keeps to what is asked for, too. -/
theorem Dialogue.KeepsTo.bind {ends : α → Prop} {last : β → Prop} {dialogue : Dialogue α}
    {f : α → Dialogue β} (keeps : dialogue.KeepsTo broker asks ends)
    (goesOn : ∀ a, ends a → (f a).KeepsTo broker asks last) :
    (dialogue.bind f).KeepsTo broker asks last := by
  induction dialogue with
  | done a => exact goesOn a keeps
  | send request next ih =>
    obtain ⟨ask, mem, same, rest⟩ := keeps
    exact ⟨ask, mem, same, fun reply understood => ih reply (rest reply understood)⟩
  | look next ih => exact fun cancelled => ih cancelled (keeps cancelled)
  | wait interval next ih => exact fun cancelled => ih cancelled (keeps cancelled)

/-- A dialogue that goes on keeps to what is asked for. -/
theorem Dialogue.KeepsTo.goesOn {ends : α → Prop} {dialogue next : Dialogue α}
    (keeps : dialogue.KeepsTo broker asks ends) (goes : dialogue.GoesOn next) :
    next.KeepsTo broker asks ends := by
  cases goes with
  | done a => exact keeps
  | look next cancelled => exact keeps cancelled
  | wait interval next cancelled => exact keeps cancelled

/-- A dialogue may be said to end in a weaker way. -/
theorem Dialogue.KeepsTo.mono {ends weaker : α → Prop} {dialogue : Dialogue α}
    (keeps : dialogue.KeepsTo broker asks ends) (implies : ∀ a, ends a → weaker a) :
    dialogue.KeepsTo broker asks weaker := by
  induction dialogue with
  | done a => exact implies a keeps
  | send request next ih =>
    obtain ⟨ask, mem, same, rest⟩ := keeps
    exact ⟨ask, mem, same, fun reply understood => ih reply (rest reply understood)⟩
  | look next ih => exact fun cancelled => ih cancelled (keeps cancelled)
  | wait interval next ih => exact fun cancelled => ih cancelled (keeps cancelled)

/-- An operation that is asked for keeps to it. -/
theorem Broker.keepsTo_call {ask : Ask} (mem : ask ∈ asks) :
    (broker.call ask.operation ask.input).KeepsTo broker asks Understood := by
  rw [Broker.call_eq]
  exact ⟨ask, mem, rfl, fun reply understood => understood⟩

end KeepsTo

namespace Driver

/-- **A result that polls of an operation may have**: it is understood, and what is in flight is
that operation. -/
structure Follows (tracked : TrackedOperation) (result : Result) : Prop where
  understood : Understood result
  same : ∀ other description, result = .ok (.inFlight other description) → other = tracked

/-- A result that is not in flight follows any operation. -/
theorem follows_of_ended {tracked : TrackedOperation} {result : Result}
    (understood : Understood result)
    (ended : ∀ other description, result ≠ .ok (.inFlight other description)) :
    Follows tracked result :=
  ⟨understood, fun other description same => absurd same (ended other description)⟩

variable (driver : Driver) {asks : List Ask} {tracked : TrackedOperation}

/-- The result of an operation that succeeded is what was fetched. -/
theorem keepsTo_succeeded (sub : tracked.fetches ⊆ asks) :
    (driver.succeeded tracked).KeepsTo driver.broker asks (Follows tracked) := by
  unfold succeeded
  unfold TrackedOperation.fetches at sub
  cases kind : tracked.kind with
  | provision | deprovision | unbind => exact follows_of_ended (understood_ok _) nofun
  | bind bindingId =>
    rw [kind] at sub
    refine (Broker.keepsTo_call (sub (.head _))).bind fun fetched understood => ?_
    cases fetched with
    | ok binding => exact follows_of_ended (understood_ok _) nofun
    | error error =>
      have known := understood error rfl
      cases error with
      | gone => exact follows_of_ended (understood_ok _) nofun
      | transport | conflict | failed | malformed =>
        exact follows_of_ended (understood_error known) nofun

/-- The last operation is what a poll asks for. -/
theorem keepsTo_lastOperation (mem : tracked.toAsk ∈ asks) :
    (driver.lastOperation tracked).KeepsTo driver.broker asks Understood := by
  unfold TrackedOperation.toAsk at mem
  unfold lastOperation
  cases target : tracked.kind.bindingId? with
  | none =>
    rw [target] at mem
    exact Broker.keepsTo_call mem
  | some bindingId =>
    rw [target] at mem
    exact Broker.keepsTo_call mem

/-- A poll keeps to its questions. -/
theorem keepsTo_poll (sub : tracked.toAsk :: tracked.fetches ⊆ asks) :
    (driver.poll tracked).KeepsTo driver.broker asks (Follows tracked) := by
  obtain ⟨mem, fetches⟩ := List.cons_subset.mp sub
  refine (driver.keepsTo_lastOperation mem).bind fun answer understood => ?_
  cases answer with
  | ok last =>
    obtain ⟨state, description⟩ := last
    cases state with
    | inProgress =>
      refine ⟨understood_ok _, fun other description same => ?_⟩
      injection same with same
      injection same with same
      exact same.symm
    | succeeded => exact driver.keepsTo_succeeded fetches
    | failed => exact follows_of_ended (understood_ok _) nofun
  | error error =>
    have known := understood error rfl
    cases error with
    | gone =>
      dsimp only
      split <;> exact follows_of_ended (understood_ok _) nofun
    | transport | conflict | failed | malformed =>
      exact follows_of_ended (understood_error known) nofun

/-- What is learned in the end, unless the rounds run out, is understood. -/
def Learned (last : Option Result) : Prop := ∀ result, last = some result → Understood result

theorem learned_some {result : Result} (understood : Understood result) :
    Learned (some result) := fun _ same => Option.some.inj same ▸ understood

/-- A loop ends with what is not in flight. -/
theorem keepsTo_goOn_of_follows {interval : Duration} {rounds : Nat} {result : Result}
    (goesOn : ∀ description,
      (driver.goOn interval rounds (.ok (.inFlight tracked description))).KeepsTo driver.broker
        asks Learned)
    (follows : Follows tracked result) :
    (driver.goOn interval rounds result).KeepsTo driver.broker asks Learned := by
  by_cases inFlight : ∃ other description, result = .ok (.inFlight other description)
  · obtain ⟨other, description, same⟩ := inFlight
    rw [same, follows.same other description same]
    exact goesOn description
  · rw [driver.goOn_eq_done interval rounds fun other description same =>
      inFlight ⟨other, description, same⟩]
    exact learned_some follows.understood

/-- A loop goes on with polls of the same operation. -/
theorem keepsTo_goOn (interval : Duration) (rounds : Nat)
    (sub : tracked.toAsk :: tracked.fetches ⊆ asks) (description : Option String) :
    (driver.goOn interval rounds (.ok (.inFlight tracked description))).KeepsTo driver.broker asks
      Learned := by
  induction rounds generalizing description with
  | zero =>
    intro cancelled
    cases cancelled with
    | true => exact learned_some (understood_ok _)
    | false => exact fun _ ranOut => nomatch ranOut
  | succ rounds ih =>
    intro cancelled
    cases cancelled with
    | true => exact learned_some (understood_ok _)
    | false =>
      exact (driver.keepsTo_poll sub).bind fun result follows =>
        driver.keepsTo_goOn_of_follows ih follows

/-- Polling to the end keeps to the questions of a poll. -/
theorem keepsTo_pollUntilTerminal (rounds : Nat) (interval : Duration)
    (sub : tracked.toAsk :: tracked.fetches ⊆ asks) :
    (driver.pollUntilTerminal rounds interval tracked).KeepsTo driver.broker asks Learned := by
  intro cancelled
  cases cancelled with
  | true => exact learned_some (understood_ok _)
  | false =>
    exact (driver.keepsTo_poll sub).bind fun result follows =>
      driver.keepsTo_goOn_of_follows (driver.keepsTo_goOn interval rounds sub) follows

/-- The outcome of a change is that of its operation. -/
theorem keepsTo_ask {broker : Broker} {change : Change} (mem : change.toAsk ∈ asks) :
    (change.ask broker).KeepsTo broker asks Understood := by
  have map {α β : Type} (f : α → β) {read : Except CallError α} (understood : Understood read) :
      Understood (read.map f) := by
    cases read with
    | ok a => exact understood_ok _
    | error error => exact understood_error (understood error rfl)
  cases change with
  | provision | deprovision | bind | unbind =>
    exact (Broker.keepsTo_call mem).bind fun read understood => map _ understood

/-- A change is asked for, and its binding may be fetched. -/
theorem keepsTo_start (change : Change)
    (sub : change.toAsk :: (change.track none).fetches ⊆ asks) :
    (driver.start change).KeepsTo driver.broker asks Understood := by
  obtain ⟨mem, fetches⟩ := List.cons_subset.mp sub
  refine (keepsTo_ask mem).bind fun outcome understood => ?_
  cases outcome with
  | error error => exact understood_error (understood error rfl)
  | ok outcome =>
    cases outcome with
    | complete binding => exact understood_ok _
    | accepted token =>
      rw [← change.fetches_track token] at fetches
      show (driver.accepted (change.track token)).KeepsTo driver.broker asks Understood
      unfold accepted
      split
      · exact (driver.keepsTo_succeeded fetches).mono fun result follows => follows.understood
      · exact understood_ok _

/-- **A call keeps to what it asks for**, and is understood if the replies are. -/
theorem keepsTo_make (call : ClientCall) :
    (driver.make call).KeepsTo driver.broker call.asks (·.isMalformed = false) := by
  -- What a call of the driver reports is malformed only if what it has learned is.
  have progress (last : Option Result) (learned : Learned last) :
      (Report.progress last).isMalformed = false := by
    obtain _ | error | progress := last
    · rfl
    · exact learned _ rfl error rfl
    · rfl
  cases call with
  | ask asked =>
    refine (Broker.keepsTo_call (.head _)).bind fun answer understood => ?_
    cases answer with
    | ok answer => rfl
    | error error => exact understood error rfl
  | driver call =>
    cases call with
    | start change =>
      have started : (driver.dialogue (.start change)).KeepsTo driver.broker _ Learned :=
        (driver.keepsTo_start change (List.Subset.refl _)).bind fun result understood =>
          learned_some understood
      exact started.bind progress
    | poll tracked =>
      have polled : (driver.dialogue (.poll tracked)).KeepsTo driver.broker _ Learned :=
        (driver.keepsTo_poll (List.Subset.refl _)).bind fun result follows =>
          learned_some follows.understood
      exact polled.bind progress
    | pollUntilTerminal rounds interval tracked =>
      exact (driver.keepsTo_pollUntilTerminal rounds interval (List.Subset.refl _)).bind progress

end Driver

/-! ## Many calls -/

/-- **A request and the reply to it**, of one of many calls. -/
structure Exchange (ι : Type) where
  who : ι
  request : Http.Request
  reply : Reply

namespace Crowd

variable {ι α : Type} [DecidableEq ι] (loopback : Loopback)

/-- The calls are told whether they are cancelled. -/
def told (crowd : Crowd ι α) (cancelled : Bool) : Crowd ι α :=
  { crowd with state := { crowd.state with cancelled } }

/-- The request that a call sends by its next step, if it sends one, and the reply. -/
def exchange? (crowd : Crowd ι α) (who : ι) : Option (Exchange ι) :=
  (crowd.dialogue who).request?.map fun request =>
    { who, request, reply := (loopback.reply crowd.state request).1 }

/-- **What the step of a call can do**: it goes on without a request, or there is an exchange. -/
inductive Moved (crowd : Crowd ι α) (who : ι) : List (Exchange ι) → Crowd ι α → Prop where
  | silent {next : Dialogue α} {after : Crowd ι α} (goes : (crowd.dialogue who).GoesOn next)
      (dialogue : after.dialogue = Function.update crowd.dialogue who next)
      (state : after.state = crowd.state) : Moved crowd who [] after
  | exchange {request : Http.Request} {next : Reply → Dialogue α} {after : Crowd ι α}
      (sends : crowd.dialogue who = .send request next)
      (dialogue : after.dialogue = Function.update crowd.dialogue who
        (next (loopback.reply crowd.state request).1))
      (state : after.state = (loopback.reply crowd.state request).2) :
      Moved crowd who [⟨who, request, (loopback.reply crowd.state request).1⟩] after

/-- **Every step does one of the two.** -/
theorem moved (crowd : Crowd ι α) (who : ι) :
    crowd.Moved loopback who (crowd.exchange? loopback who).toList
      (crowd.move loopback (.call who)) := by
  have goes {dialogue next : Dialogue α} (same : crowd.dialogue who = dialogue)
      (goes : dialogue.GoesOn next) : (crowd.dialogue who).GoesOn next := same ▸ goes
  unfold exchange? move
  dsimp only
  cases same : crowd.dialogue who with
  | done a => exact .silent (goes same (.done a)) rfl rfl
  | look next => exact .silent (goes same (.look next _)) rfl rfl
  | wait interval next => exact .silent (goes same (.wait interval next _)) rfl rfl
  | send request next => exact .exchange same rfl rfl

/-- **The calls take steps in some order**, each cancelled or not: the requests and replies, and
where the calls stand then. -/
def play (crowd : Crowd ι α) : List (ι × Bool) → List (Exchange ι) × Crowd ι α
  | [] => ([], crowd)
  | (who, cancelled) :: rest =>
    let crowd := crowd.told cancelled
    let later := (crowd.move loopback (.call who)).play rest
    ((crowd.exchange? loopback who).toList ++ later.1, later.2)

variable {loopback}

/-- The calls go on after an exchange. -/
theorem play_send {crowd : Crowd ι α} {who : ι} {cancelled : Bool} {request : Http.Request}
    {next : Reply → Dialogue α} {reply : Reply} {after : Loopback.State}
    (sends : crowd.dialogue who = .send request next)
    (replies : loopback.reply { crowd.state with cancelled } request = (reply, after))
    (rest : List (ι × Bool)) :
    crowd.play loopback ((who, cancelled) :: rest)
      = let later := Crowd.play loopback
          { dialogue := Function.update crowd.dialogue who (next reply), state := after
            sent := crowd.sent ++ [(who, request)] } rest
        (⟨who, request, reply⟩ :: later.1, later.2) := by
  have sends' : (crowd.told cancelled).dialogue who = .send request next := sends
  have replies' : loopback.reply (crowd.told cancelled).state request = (reply, after) := replies
  have exchanged : (crowd.told cancelled).exchange? loopback who = some ⟨who, request, reply⟩ := by
    unfold exchange?
    rw [sends']
    show some (Exchange.mk who request (loopback.reply (crowd.told cancelled).state request).1) = _
    rw [replies']
  have moved : (crowd.told cancelled).move loopback (.call who)
      = { dialogue := Function.update crowd.dialogue who (next reply), state := after
          sent := crowd.sent ++ [(who, request)] } := by
    unfold move
    dsimp only
    rw [sends', Dialogue.step_send, Loopback.world_reply, replies']
    rfl
  show (((crowd.told cancelled).exchange? loopback who).toList
    ++ (((crowd.told cancelled).move loopback (.call who)).play loopback rest).1,
    (((crowd.told cancelled).move loopback (.call who)).play loopback rest).2) = _
  rw [exchanged, moved]
  rfl

/-- **What every step keeps holds in the end.** What is kept may depend on the requests and
replies so far. -/
theorem play_induction {P : List (Exchange ι) → Crowd ι α → Prop}
    (told : ∀ log crowd cancelled, P log crowd → P log (crowd.told cancelled))
    (step : ∀ log crowd who, P log crowd →
      P (log ++ (crowd.exchange? loopback who).toList) (crowd.move loopback (.call who)))
    {log : List (Exchange ι)} {crowd : Crowd ι α} (start : P log crowd)
    (schedule : List (ι × Bool)) :
    P (log ++ (crowd.play loopback schedule).1) (crowd.play loopback schedule).2 := by
  induction schedule generalizing log crowd with
  | nil => exact (List.append_nil log).symm ▸ start
  | cons turn rest ih =>
    obtain ⟨who, cancelled⟩ := turn
    have moved := step log _ who (told log crowd cancelled start)
    have rested := ih moved
    rwa [List.append_assoc] at rested

end Crowd

end ServiceBroker
