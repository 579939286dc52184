import ServiceBroker.Proofs.Arrivals

/-!
# Clients and the mock broker understand each other

Any number of clients make any calls to one mock broker, at the same time. What they ask for is
kept as they asked for it, what they are answered can be read, and what they are shown of an
instance is what it was created with. The calls are given beforehand, but they may be any calls: a
client that makes its next call depend on what it has learned makes one of them in the end.

The first two hold each other up. What a client cannot have asked for, such as parameters that
are no object, would be shown in a body that no client can read; and a client that could not read
a body might ask for anything. Both are part of one invariant (`Faithful`), which every step of a
call keeps (`Faithful.move`): all calls keep to what they ask for, every instance in the store has
the body of its latest creation, and every response so far can be read. From it follow the two
results, that no call ends in a misunderstanding (`calls_are_understood`) and that an instance is
shown as it was created (`instances_are_shown_as_created`).
-/

namespace ServiceBroker

variable {ι : Type} {calls : ι → ClientCall}

/-! ## Creations -/

/-- **An exchange that creates an instance**: its call asks for it, and the reply says that it
was created, at once or for later. -/
structure Exchange.Creates (calls : ι → ClientCall) (exchange : Exchange ι)
    (request : ProvisionRequest) : Prop where
  asked : (calls exchange.who).provision? = some request
  created : exchange.reply.Creates

/-- **The latest creation of an instance** in a log asked for it by a request. -/
def LastCreated (calls : ι → ClientCall) (log : List (Exchange ι)) (i : String)
    (request : ProvisionRequest) : Prop :=
  ∃ earlier creation later, log = earlier ++ creation :: later ∧
    creation.Creates calls request ∧ request.instanceId = i ∧
    ∀ exchange ∈ later, ∀ other, exchange.Creates calls other → other.instanceId ≠ i

section LastCreated

variable {log : List (Exchange ι)} {exchange : Exchange ι} {i : String}
  {request : ProvisionRequest}

theorem Exchange.Creates.lastCreated (creates : exchange.Creates calls request) :
    LastCreated calls (log ++ [exchange]) request.instanceId request :=
  ⟨log, exchange, [], rfl, creates, rfl, nofun⟩

theorem LastCreated.append (last : LastCreated calls log i request)
    (other : ∀ other, exchange.Creates calls other → other.instanceId ≠ i) :
    LastCreated calls (log ++ [exchange]) i request := by
  obtain ⟨earlier, creation, later, rfl, creates, same, since⟩ := last
  refine ⟨earlier, creation, later ++ [exchange], by simp, creates, same, fun next mem => ?_⟩
  obtain mem | mem := List.mem_append.mp mem
  · exact since next mem
  · rw [List.mem_singleton.mp mem]
    exact other

end LastCreated

/-! ## The invariant -/

/-- Many calls, none of which has begun, and a broker that holds nothing. -/
def Crowd.calling (drivers : ι → Driver) (calls : ι → ClientCall) : Crowd ι Report where
  dialogue who := (drivers who).make (calls who)
  state := {}

/-- **A broker that is faithful to its clients.** -/
structure Faithful (drivers : ι → Driver) (calls : ι → ClientCall) (log : List (Exchange ι))
    (crowd : Crowd ι Report) : Prop where
  /-- Every call keeps to what it asks for. -/
  keeps : ∀ who, (crowd.dialogue who).KeepsTo (drivers who).broker (calls who).asks
    (·.isMalformed = false)
  /-- Every instance is stored as it was asked for when it was created last. -/
  stored : ∀ {i body}, crowd.state.store.instances.get? i = some body →
    ∃ request : ProvisionRequest, request.IsStorable ∧ body = request.stored ∧
      LastCreated calls log i request
  /-- Every response can be read. -/
  readable : ∀ exchange ∈ log, ∃ asked ∈ (calls exchange.who).asks,
    exchange.request = asked.request (drivers exchange.who).broker ∧
    ∀ response, exchange.reply = .ok response → asked.operation.IsReadable response

namespace Faithful

variable {drivers : ι → Driver} {log : List (Exchange ι)} {crowd : Crowd ι Report}

/-- The instances are those that clients asked for. -/
theorem isAskedFor (faithful : Faithful drivers calls log crowd) :
    crowd.state.store.IsAskedFor := by
  intro i body found
  obtain ⟨request, storable, same, -⟩ := faithful.stored found
  exact ⟨request, storable, same⟩

theorem calling : Faithful drivers calls [] (Crowd.calling drivers calls) where
  keeps who := (drivers who).keepsTo_make (calls who)
  stored := nofun
  readable := nofun

theorem told (faithful : Faithful drivers calls log crowd) (cancelled : Bool) :
    Faithful drivers calls log (crowd.told cancelled) :=
  ⟨faithful.keeps, faithful.stored, faithful.readable⟩

variable {loopback : Loopback} (proper : ∀ who, (calls who).IsProper)

include proper

/-- **What was asked for is stored after an exchange.** -/
theorem stored_exchange (faithful : Faithful drivers calls log crowd) {who : ι} {asked : Ask}
    (mem : asked ∈ (calls who).asks) {reply : Reply} {after : Loopback.State}
    (replied : loopback.Replied crowd.state asked reply after) {i : String}
    {body : Mock.ProvisionBody} (found : after.store.instances.get? i = some body) :
    ∃ request : ProvisionRequest, request.IsStorable ∧ body = request.stored ∧
      LastCreated calls (log ++ [⟨who, asked.request (drivers who).broker, reply⟩]) i request := by
  obtain ⟨request, rfl, rfl, storable, same, creates⟩ | ⟨found, uncreated⟩ :=
    replied.instances (proper who asked mem) found
  · exact ⟨request, storable, same,
      Exchange.Creates.lastCreated ⟨ClientCall.provision?_of_asks mem, creates⟩⟩
  · obtain ⟨request, storable, same, last⟩ := faithful.stored found
    refine ⟨request, storable, same, last.append fun other creates ofInstance => ?_⟩
    rw [ClientCall.asks_of_provision? creates.asked] at mem
    exact uncreated other (List.mem_singleton.mp mem) ofInstance creates.created

variable [DecidableEq ι] (origin : ∀ who, (drivers who).broker.baseUrl = loopback.origin)

include origin

/-- **Every step of a call keeps a broker faithful.** -/
theorem move (faithful : Faithful drivers calls log crowd) (who : ι) :
    Faithful drivers calls (log ++ (crowd.exchange? loopback who).toList)
      (crowd.move loopback (.call who)) := by
  have here := faithful.keeps who
  have keeps {next : Dialogue Report} (kept : next.KeepsTo (drivers who).broker (calls who).asks
      (·.isMalformed = false)) :
      ∀ other, (Function.update crowd.dialogue who next other).KeepsTo (drivers other).broker
        (calls other).asks (·.isMalformed = false) :=
    (Function.forall_update_iff crowd.dialogue fun other dialogue =>
      dialogue.KeepsTo (drivers other).broker (calls other).asks (·.isMalformed = false)).mpr
      ⟨kept, fun other _ => faithful.keeps other⟩
  have moved := crowd.moved loopback who
  generalize (crowd.exchange? loopback who).toList = sent at moved ⊢
  generalize crowd.move loopback (.call who) = after at moved ⊢
  cases moved with
  | silent goes dialogue state =>
    rw [List.append_nil]
    exact ⟨dialogue ▸ keeps (here.goesOn goes), state ▸ faithful.stored, faithful.readable⟩
  | exchange sends dialogue state =>
    rw [sends] at here
    -- The dialogue keeps to what its call asks for, so the request is for one of these things.
    obtain ⟨asked, mem, rfl, rest⟩ := here
    have replied := loopback.replied crowd.state (origin who) (proper who asked mem)
    rw [← state] at replied
    refine ⟨dialogue ▸ keeps (rest _ (replied.understood faithful.isAskedFor)),
      faithful.stored_exchange proper mem replied, fun exchange sent => ?_⟩
    obtain sent | sent := List.mem_append.mp sent
    · exact faithful.readable exchange sent
    · obtain rfl := List.mem_singleton.mp sent
      exact ⟨asked, mem, rfl, fun response answered =>
        replied.isReadable faithful.isAskedFor answered⟩

end Faithful

/-! ## Showing an instance -/

/-- **Where a call to read an instance stands**: it has yet to ask, or it has asked, and was shown
the instance as it was created last. -/
inductive Reading (broker : Broker) (calls : ι → ClientCall) (log : List (Exchange ι)) (who : ι)
    (i : String) : Dialogue Report → Prop where
  | asking :
      Reading broker calls log who i (.send (broker.request .getInstance i) fun reply =>
        .done (.answer .getInstance (Operation.read .getInstance reply)))
  | answered {earlier later : List (Exchange ι)} {asked : Exchange ι}
      (split : log = earlier ++ asked :: later) (own : asked.who = who)
      (shown : ∀ details, Operation.read .getInstance asked.reply = .ok details →
        ∃ request, LastCreated calls earlier i request ∧ details = request.shown i) :
      Reading broker calls log who i
        (.done (.answer .getInstance (Operation.read .getInstance asked.reply)))

namespace Reading

variable {drivers : ι → Driver} {log : List (Exchange ι)} {crowd : Crowd ι Report} {who : ι}
  {i : String}

/-- Where it stands, it stands when there is more in the log. -/
theorem append {broker : Broker} {dialogue : Dialogue Report}
    (reading : Reading broker calls log who i dialogue) (more : List (Exchange ι)) :
    Reading broker calls (log ++ more) who i dialogue := by
  cases reading with
  | asking => exact .asking
  | @answered earlier later asked split own shown =>
    exact .answered (by rw [split, List.append_assoc, List.cons_append]) own shown

variable [DecidableEq ι] {loopback : Loopback}
  (origin : ∀ who, (drivers who).broker.baseUrl = loopback.origin)

include origin

/-- **Every step of a call leaves the reading of an instance where it stands**, or takes it to its
end. -/
theorem move (reading : Reading (drivers who).broker calls log who i (crowd.dialogue who))
    (faithful : Faithful drivers calls log crowd) (proper : Ask.IsProper ⟨.getInstance, i⟩)
    (mover : ι) :
    Reading (drivers who).broker calls (log ++ (crowd.exchange? loopback mover).toList) who i
      ((crowd.move loopback (.call mover)).dialogue who) := by
  have moved := crowd.moved loopback mover
  generalize (crowd.exchange? loopback mover).toList = sent at moved ⊢
  generalize crowd.move loopback (.call mover) = after at moved ⊢
  by_cases own : mover = who
  · subst own
    generalize standing : crowd.dialogue mover = dialogue at reading
    cases moved with
    | silent goes moved =>
      rw [standing] at goes
      rw [moved, Function.update_self, List.append_nil]
      cases reading with
      | asking => exact nomatch goes
      | answered split own shown =>
        cases goes
        exact .answered split own shown
    | exchange sends moved =>
      rw [sends] at standing
      rw [moved, Function.update_self]
      cases reading with
      | answered => exact nomatch standing
      | asking =>
        obtain ⟨rfl, rfl⟩ := Dialogue.send.inj standing
        have replied := @Loopback.replied loopback crowd.state _ (origin mover) _ proper
        refine @answered _ _ calls _ mover i log [] _ rfl rfl fun details read => ?_
        obtain ⟨body, stored, shown⟩ := replied.shown read
        obtain ⟨request, storable, same, last⟩ := faithful.stored stored
        exact ⟨request, last, shown request storable same⟩
  -- A step of another call leaves the dialogue alone and makes the log longer.
  · have stays : after.dialogue who = crowd.dialogue who := by
      cases moved with
      | silent goes moved => rw [moved, Function.update_of_ne (Ne.symm own)]
      | exchange sends moved => rw [moved, Function.update_of_ne (Ne.symm own)]
    rw [stays]
    exact reading.append sent

end Reading

/-! ## The results -/

/-- **No call ends in a misunderstanding.** Let any number of clients make any calls to a mock
broker, of operations and on drivers, whose identifiers need no escape and whose free-form objects
hold no double. They take their steps in any order, each cancelled or not. Then no call that is
done ends with a body that could not be read. Every request is one that its call asks for, and
the response, if its status is one of success, has a body of the operation's own type. -/
theorem calls_are_understood [DecidableEq ι] (loopback : Loopback) (drivers : ι → Driver)
    (calls : ι → ClientCall) (origin : ∀ who, (drivers who).broker.baseUrl = loopback.origin)
    (proper : ∀ who, (calls who).IsProper) (schedule : List (ι × Bool)) :
    let play := (Crowd.calling drivers calls).play loopback schedule
    (∀ who report, play.2.dialogue who = .done report → report.isMalformed = false) ∧
    ∀ exchange ∈ play.1, ∃ asked ∈ (calls exchange.who).asks,
      exchange.request = asked.request (drivers exchange.who).broker ∧
      ∀ response, exchange.reply = .ok response → asked.operation.IsReadable response := by
  have faithful := Crowd.play_induction (P := Faithful drivers calls)
    (fun log crowd cancelled faithful => faithful.told cancelled)
    (fun log crowd who faithful => faithful.move proper origin who) Faithful.calling schedule
  rw [List.nil_append] at faithful
  refine ⟨fun who report done => ?_, faithful.readable⟩
  have ends := faithful.keeps who
  rw [done] at ends
  exact ends

/-- An instance is created with parameters by a driver, polled by another one, and read, all at
the same time. -/
theorem calls_are_understood_polled :
    let loopback : Loopback :=
      { origin := "http://broker", settings := { mode := .async 1 }, random := toString }
    let driver : Driver := { broker := Broker.make "http://broker/" "admin" "secret" }
    let request : ProvisionRequest :=
      { instanceId := "i", serviceId := "s", planId := "p", organizationGuid := "o"
        spaceGuid := "g", parameters := some [("a", .object [])] }
    let tracked := (Change.provision request).track (some "provision-0")
    let calls (who : Option Bool) : ClientCall :=
      who.elim (.driver (.start (.provision request))) fun polls =>
        if polls then .driver (.pollUntilTerminal 2 ⟨1⟩ tracked) else .ask ⟨.getInstance, "i"⟩
    let play := (Crowd.calling (fun _ => driver) calls).play loopback
      [(none, false), (some true, false), (some false, false), (some true, false),
        (some true, false), (some false, false)]
    (∀ who report, play.2.dialogue who = .done report → report.isMalformed = false) ∧
    ∀ exchange ∈ play.1, ∃ asked ∈ (calls exchange.who).asks,
      exchange.request = asked.request driver.broker ∧
      ∀ response, exchange.reply = .ok response → asked.operation.IsReadable response := by
  intro loopback driver request tracked calls
  have plain : ∀ id ∈ ["i"], IsPlainId id := by decide
  have proper (who : Option Bool) : (calls who).IsProper := by
    obtain _ | _ | _ := who <;> intro asked mem <;> obtain rfl := List.mem_singleton.mp mem
    · refine ⟨plain, fun members mem => ?_⟩
      obtain rfl := List.mem_singleton.mp mem
      exact .object_singleton Json.isExact_empty
    · exact ⟨plain, nofun⟩
    · exact ⟨plain, nofun⟩
  exact calls_are_understood loopback (fun _ => driver) calls (fun _ => by decide +kernel) proper _

/-- **Instances are shown as they were created.** Let the same clients make the same calls. If a
call to read an instance succeeds, then the instance was created before, and the service, the plan
and the parameters that are shown are those of the request that created it last, whatever else was
asked for since. -/
theorem instances_are_shown_as_created [DecidableEq ι] (loopback : Loopback) (drivers : ι → Driver)
    (calls : ι → ClientCall) (origin : ∀ who, (drivers who).broker.baseUrl = loopback.origin)
    (proper : ∀ who, (calls who).IsProper) (schedule : List (ι × Bool))
    {who : ι} {i : String} {details : InstanceDetails} (asks : calls who = .ask ⟨.getInstance, i⟩)
    (succeeds : ((Crowd.calling drivers calls).play loopback schedule).2.dialogue who
      = .done (.answer .getInstance (.ok details))) :
    ∃ earlier creation between asked later request,
      ((Crowd.calling drivers calls).play loopback schedule).1
        = earlier ++ creation :: between ++ asked :: later ∧
      asked.who = who ∧ Operation.read .getInstance asked.reply = .ok details ∧
      creation.Creates calls request ∧ request.instanceId = i ∧
      (∀ exchange ∈ between, ∀ other, exchange.Creates calls other → other.instanceId ≠ i) ∧
      details.serviceId = some request.serviceId ∧ details.planId = some request.planId ∧
      details.parameters = request.parameters := by
  have properAsk : Ask.IsProper ⟨.getInstance, i⟩ := by
    refine proper who _ ?_
    rw [asks]
    exact .head _
  have start : Reading (drivers who).broker calls [] who i
      ((Crowd.calling drivers calls).dialogue who) := by
    have begins : (drivers who).make (calls who) = .send
        ((drivers who).broker.request .getInstance i)
        fun reply => .done (.answer .getInstance (Operation.read .getInstance reply)) := by
      rw [asks]
      exact (drivers who).make_ask ⟨.getInstance, i⟩
    show Reading _ _ _ _ _ ((drivers who).make (calls who))
    rw [begins]
    exact .asking
  -- The two invariants go together: a reading ends well because the broker is faithful then.
  obtain ⟨-, reading⟩ : Faithful drivers calls _ _ ∧ Reading (drivers who).broker calls
      ([] ++ ((Crowd.calling drivers calls).play loopback schedule).1) who i _ :=
    Crowd.play_induction
      (P := fun log crowd => Faithful drivers calls log crowd ∧
        Reading (drivers who).broker calls log who i (crowd.dialogue who))
      (fun log crowd cancelled both => ⟨both.1.told cancelled, both.2⟩)
      (fun log crowd mover both =>
        ⟨both.1.move proper origin mover, both.2.move origin both.1 properAsk mover⟩)
      ⟨.calling, start⟩ schedule
  rw [succeeds, List.nil_append] at reading
  generalize ended : Dialogue.done (Report.answer .getInstance (.ok details)) = dialogue at reading
  cases reading with
  | asking => exact nomatch ended
  | answered split own shown =>
    injection ended with ended
    injection ended with _ ended
    obtain ⟨request, ⟨earlier, creation, between, rfl, creates, same, since⟩, rfl⟩ :=
      shown details ended.symm
    exact ⟨earlier, creation, between, _, _, request, split, own, ended.symm, creates, same, since,
      rfl, rfl, rfl⟩

/-- An instance is created, another client tries to create it with another plan, and a third one
reads it: the parameters are those of the first request. -/
theorem instances_are_shown_as_created_conflict :
    let driver : Driver := { broker := Broker.make "http://broker/" "admin" "secret" }
    let loopback : Loopback := driver.broker.connection {} toString
    let request : ProvisionRequest :=
      { instanceId := "i", serviceId := "s", planId := "p", organizationGuid := "o"
        spaceGuid := "g", parameters := some [("a", .object [])] }
    let calls (who : Option Bool) : ClientCall :=
      who.elim (.ask ⟨.provision, request⟩) fun creates =>
        if creates then .ask ⟨.provision, { request with planId := "q" }⟩
        else .ask ⟨.getInstance, "i"⟩
    let play := (Crowd.calling (fun _ => driver) calls).play loopback
      [(none, false), (some true, false), (some false, true)]
    play.2.dialogue (some false) = .done (.answer .getInstance (.ok (request.shown "i"))) ∧
    ∃ creation ∈ play.1, ∃ created, creation.Creates calls created ∧ created.instanceId = "i" ∧
      created.planId = "p" ∧ created.parameters = some [("a", .object [])] := by
  intro driver loopback request calls
  have plain : ∀ id ∈ ["i"], IsPlainId id := by decide
  have exact : ∀ members ∈ request.freeForm, (Json.object members).IsExact := by
    intro members mem
    obtain rfl := List.mem_singleton.mp mem
    exact .object_singleton Json.isExact_empty
  have depth : Json.Fit request.freeForm := by
    intro members mem
    obtain rfl := List.mem_singleton.mp mem
    decide
  have size : ∀ plan ∈ ["p", "q"],
      { request with planId := plan }.body.text.utf8ByteSize ≤ Mock.bodyLimit := by decide +kernel
  have fit {plan : String} (mem : plan ∈ ["p", "q"]) :
      Operation.Fits .provision { request with planId := plan } :=
    ⟨fun _ sent => Option.some.inj sent ▸ size plan mem, depth⟩
  have proper (who : Option Bool) : (calls who).IsProper := by
    obtain _ | _ | _ := who <;> intro asked mem <;> obtain rfl := List.mem_singleton.mp mem
    · exact ⟨plain, exact⟩
    · exact ⟨plain, nofun⟩
    · exact ⟨plain, exact⟩
  have known : driver.broker.IsKnown {} := ⟨by decide +kernel, rfl⟩
  -- What the driver is made of plays no part from here on, and is not to be looked at.
  clear_value driver
  set store : Mock.Store := { instances := Table.insert {} "i" request.stored } with hstore
  have created : Ask.performed ⟨.provision, request⟩ {} (toString 0) {} = (_, store) := rfl
  have refused : Ask.performed ⟨.provision, { request with planId := "q" }⟩ {} (toString 1) store
      = (_, store) := rfl
  have shown : Operation.parse .getInstance (Mock.getInstance "i" store).toResponse
      = .ok (request.shown "i") := by
    have stored : store.instances.get? "i" = some request.stored := rfl
    obtain rejected | shown := Mock.parse_getInstance "i" ⟨exact, depth⟩ stored
    · exact absurd rejected (by decide)
    · exact shown
  have done : ((Crowd.calling (fun _ => driver) calls).play loopback
      [(none, false), (some true, false), (some false, true)]).2.dialogue (some false)
      = .done (.answer .getInstance (.ok (request.shown "i"))) := by
    rw [Crowd.play_ask known rfl (proper none _ (.head _)) (fit (.head _)) created,
      Crowd.play_ask known rfl (proper (some true) _ (.head _)) (fit (.tail _ (.head _))) refused,
      Crowd.play_ask known rfl (proper (some false) _ (.head _)) ⟨nofun, nofun⟩ rfl]
    show Dialogue.done (Report.answer .getInstance
      (Operation.parse .getInstance (Mock.getInstance "i" store).toResponse)) = _
    rw [shown]
  obtain ⟨earlier, creation, between, asked, later, request', split, -, -, creates, ofInstance, -,
    -, plan, parameters⟩ := instances_are_shown_as_created loopback (fun _ => driver) calls
      (fun _ => rfl) proper _ rfl done
  refine ⟨done, creation, ?_, request', creates, ofInstance, (Option.some.inj plan).symm,
    parameters.symm⟩
  rw [split]
  simp

end ServiceBroker
