import ServiceBroker.Proofs.Calls

/-!
# What becomes of what is asked for

Something that can be asked for is lost on the way, refused at the gates, or performed as it was
meant (`Loopback.Replied`), and only the last may change the store. An instance gets into the
store when its creation is answered by 201 or 202, and then with exactly the body that was asked
for; nothing else puts one there or changes one that is there (`Loopback.Replied.instances`).
-/

namespace ServiceBroker

/-- **The reply to a creation says that something was created**, at once or for later. -/
def Reply.Creates (reply : Reply) : Prop := reply.HasStatus 201 ∨ reply.HasStatus 202

theorem creates_ok_iff (response : Http.Response) :
    Reply.Creates (.ok response) ↔ response.status = 201 ∨ response.status = 202 := by
  simp [Reply.Creates, Reply.HasStatus]

/-! ## The store -/

namespace Mock

section Instances

variable {settings : Settings} {random : String} {store after : Store} {i : String}
  {body : ProvisionBody}

/-- No change that is made puts an instance into the store. -/
theorem Store.get?_instances_of_conclude {target : Target} {kind : ChangeKind}
    (found : (store.conclude target kind).instances.get? i = some body) :
    store.instances.get? i = some body := by
  cases kind with
  | provision | bind => exact found
  | unbind => cases target <;> exact found
  | deprovision =>
    have kept : (store.instances.erase target.instanceId).get? i = some body := by
      cases target <;> exact found
    rw [Table.get?_erase] at kept
    split at kept
    · exact absurd kept.symm (Option.some_ne_none body)
    · exact kept

/-- **Only the creation of an instance puts one into the store.** -/
theorem Effect.get?_instances {aim : Aim} {answer : Answer}
    (effect : Effect settings random store aim answer after)
    (other : ∀ j, aim ≠ .change (.serviceInstance j) .provision)
    (found : after.instances.get? i = some body) : store.instances.get? i = some body := by
  have begun {target : Target} {kind : ChangeKind} {begun : Store}
      (begins : store.CanBegin target kind begun)
      (other : ∀ j, Aim.change target kind ≠ .change (.serviceInstance j) .provision)
      (found : begun.instances.get? i = some body) : store.instances.get? i = some body := by
    cases begins with
    | provision => exact absurd rfl (other _)
    | deprovision | bind | unbind => exact found
  cases effect with
  | catalog | read | declined | repeated | idle | mismatched => exact found
  | made atOnce begins => exact begun begins other (Store.get?_instances_of_conclude found)
  | accepted later begins => exact begun begins other found
  | counted => exact found
  | finished =>
    rw [Store.finish_eq] at found
    exact Store.get?_instances_of_conclude found

/-- **The creation of an instance** stores the body that it is given and says so, or it does
neither. -/
theorem provision_cases (settings : Settings) (random j : String) (query : Query)
    (given : ProvisionBody) (store : Store) :
    let performed := provision settings random j query given store
    let reply : Reply := .ok performed.1.toResponse
    performed.2.instances = store.instances.insert j given ∧ reply.Creates ∨
      performed.2 = store ∧ ¬reply.Creates := by
  have uncreated {answer : Answer} (status : answer.status ≠ 201 ∧ answer.status ≠ 202) :
      ¬Reply.Creates (.ok answer.toResponse) := fun creates =>
    ((creates_ok_iff _).mp creates).elim status.1 status.2
  unfold provision
  cases store.instances.get? j with
  | some existing =>
    refine .inr ⟨rfl, ?_⟩
    dsimp only
    cases existing.same given with
    | true => exact uncreated (by decide)
    | false => exact uncreated ⟨(by decide : 409 ≠ 201), (by decide : 409 ≠ 202)⟩
  | none =>
    cases settings.mode with
    | sync => exact .inl ⟨rfl, (creates_ok_iff _).mpr (.inl rfl)⟩
    | async polls =>
      cases query.acceptsIncomplete with
      | true => exact .inl ⟨rfl, (creates_ok_iff _).mpr (.inr rfl)⟩
      | false => exact .inr ⟨rfl, @uncreated .asyncRequired (by decide)⟩

end Instances

end Mock

/-! ## The reply -/

/-- What is done about something that is asked for. -/
def Ask.performed (ask : Ask) (settings : Mock.Settings) (random : String) (store : Mock.Store) :
    Mock.Answer × Mock.Store :=
  (ask.operation.meant ask.input (ask.operation.query ask.input)).perform settings random store

namespace Loopback

/-- **The reply to something that is asked for**, and the state then. -/
inductive Replied (loopback : Loopback) (state : State) (ask : Ask) : Reply → State → Prop where
  /-- It does not arrive. -/
  | lost (fault : TransportFault) : Replied loopback state ask (.error fault) state
  /-- It arrives, but is not understood. -/
  | refused {response : Http.Response} {after : State} (rejected : 400 ≤ response.status)
      (same : after.store = state.store) : Replied loopback state ask (.ok response) after
  /-- It is performed. -/
  | performed {after : State} (fit : ask.operation.Fits ask.input)
      (store : after.store = (ask.performed loopback.settings (loopback.random state.served)
        state.store).2) :
      Replied loopback state ask (.ok (ask.performed loopback.settings
        (loopback.random state.served) state.store).1.toResponse) after

end Loopback

/-- What does not fit into a body is refused. -/
theorem Mock.exists_actionAt_refused {broker : Broker} {ask : Ask} (proper : ask.IsProper)
    (unfit : ¬ask.operation.Fits ask.input) :
    ∃ refusal, actionAt (ask.operation.endpoint ask.input) (ask.operation.query ask.input)
      ((ask.operation.endpoint ask.input).arrival (ask.request broker)) = .error refusal := by
  obtain ⟨operation, input⟩ := ask
  have plain : (operation.endpoint input).IsPlain := proper.plain
  have exact : ∀ members ∈ operation.freeForm input, (Json.object members).IsExact := proper.exact
  by_cases size : ∀ body ∈ operation.body input, body.text.utf8ByteSize ≤ bodyLimit
  · have deep : ¬Json.Fit (operation.freeForm input) := fun depth => unfit ⟨size, depth⟩
    cases operation with
    | provision =>
      obtain ⟨error, refused⟩ := input.exists_decode_body_error exact deep
      refine ⟨.badBody error, (actionAt_provision (plain _ (.head _)) rfl).trans ?_⟩
      rw [@bodyAs_eq broker _ _ _ input.body rfl rfl, if_pos (size _ rfl), refused]
      rfl
    | bind =>
      obtain ⟨error, refused⟩ := input.exists_decode_body_error exact deep
      refine ⟨.badBody error,
        (actionAt_bind (plain _ (.head _)) (plain _ (.tail _ (.head _))) rfl).trans ?_⟩
      rw [@bodyAs_eq broker _ _ _ input.body rfl rfl, if_pos (size _ rfl), refused]
      rfl
    | catalog | deprovision | getInstance | instanceLastOperation | unbind | getBinding
    | bindingLastOperation => exact absurd nofun deep
  · push Not at size
    obtain ⟨body, sent, long⟩ := size
    exact ⟨.oversizedBody, actionAt_of_long plain sent long⟩

/-- **Whatever is asked for is lost, refused or performed.** -/
theorem Loopback.replied (loopback : Loopback) (state : State) {broker : Broker}
    (origin : broker.baseUrl = loopback.origin) {ask : Ask} (proper : ask.IsProper) :
    loopback.Replied state ask (loopback.reply state (ask.request broker)).1
      (loopback.reply state (ask.request broker)).2 := by
  have path : (ask.request broker).path
      = loopback.origin ++ (ask.operation.endpoint ask.input).path := origin ▸ rfl
  have headers : (ask.request broker).headers
      = broker.headers (ask.operation.body ask.input).isSome := rfl
  have notHead := Mock.name_ne_head (ask.request broker).method
  have understood := Mock.understand_arrival loopback.settings headers proper.plain
  have arrives := loopback.arrival?_eq path headers
  have refused := @Mock.exists_actionAt_refused broker ask proper
  have meant := @Mock.actionAt_meant broker _ _ proper.plain proper.exact
  set arrival := (ask.operation.endpoint ask.input).arrival (ask.request broker)
  have unserved {refusal : Mock.Refusal}
      (refused : Mock.understand loopback.settings arrival = .error refusal) :
      loopback.Replied state ask
        (.ok (Mock.serve loopback.settings (loopback.random state.served) arrival state.store).1)
        { state with
          store := (Mock.serve loopback.settings (loopback.random state.served) arrival
            state.store).2
          served := state.served + 1 } := by
    rw [Mock.serve_of_refused _ _ notHead refused]
    exact .refused refusal.rejected rfl
  unfold reply
  cases loopback.listening with
  | false => exact .lost _
  | true =>
    rw [if_pos rfl]
    split at arrives
    · rw [arrives]
      dsimp only
      split at understood
      · by_cases fit : ask.operation.Fits ask.input
        · rw [Mock.serve_of_understood _ _ notHead (understood.trans (meant fit))]
          exact .performed fit rfl
        · obtain ⟨refusal, unfit⟩ := refused fit
          exact unserved (understood.trans unfit)
      · exact unserved understood
    · rw [arrives]
      exact .lost _

/-- **What a known client asks for is performed**, if it fits. -/
theorem Broker.IsKnown.reply_ask {broker : Broker} {settings : Mock.Settings}
    (known : broker.IsKnown settings) (random : Nat → String) (state : Loopback.State) {ask : Ask}
    (proper : ask.IsProper) (fit : ask.operation.Fits ask.input) :
    (broker.connection settings random).reply state (ask.request broker)
      = (.ok (ask.performed settings (random state.served) state.store).1.toResponse,
          { state with
            store := (ask.performed settings (random state.served) state.store).2
            served := state.served + 1 }) := by
  have path : (ask.request broker).path
      = broker.baseUrl ++ (ask.operation.endpoint ask.input).path := rfl
  have headers : (ask.request broker).headers
      = broker.headers (ask.operation.body ask.input).isSome := rfl
  have asks : Mock.actionAt (ask.operation.endpoint ask.input) (ask.request broker).query
      ((ask.operation.endpoint ask.input).arrival (ask.request broker))
      = .ok (ask.operation.meant ask.input (ask.operation.query ask.input)) :=
    Mock.actionAt_meant proper.plain proper.exact fit
  rw [← Loopback.world_reply, known.reply_eq proper.plain path headers asks]
  rfl

/-- **A call of a known client that asks for one thing** is answered by its next step. -/
theorem Crowd.play_ask {ι : Type} [DecidableEq ι] {driver : Driver} {settings : Mock.Settings}
    (known : driver.broker.IsKnown settings) {random : Nat → String} {crowd : Crowd ι Report}
    {who : ι} {asked : Ask} (asks : crowd.dialogue who = driver.make (.ask asked))
    (proper : asked.IsProper) (fit : asked.operation.Fits asked.input)
    {answer : Mock.Answer} {store : Mock.Store}
    (performs : asked.performed settings (random crowd.state.served) crowd.state.store
      = (answer, store))
    (cancelled : Bool) (rest : List (ι × Bool)) :
    crowd.play (driver.broker.connection settings random) ((who, cancelled) :: rest)
      = let later := Crowd.play (driver.broker.connection settings random)
          { dialogue := Function.update crowd.dialogue who
              (.done (.answer asked.operation (asked.operation.parse answer.toResponse)))
            state := { store, served := crowd.state.served + 1, cancelled }
            sent := crowd.sent ++ [(who, asked.request driver.broker)] } rest
        (⟨who, asked.request driver.broker, .ok answer.toResponse⟩ :: later.1, later.2) := by
  have replies := known.reply_ask random { crowd.state with cancelled } proper fit
  dsimp only at replies
  rw [performs] at replies
  exact play_send (asks.trans (driver.make_ask asked)) replies rest

namespace Loopback.Replied

variable {loopback : Loopback} {state after : State} {ask : Ask} {reply : Reply}

/-- **Every response can be read**, as long as the instances are those that clients asked for. -/
theorem isReadable (replied : loopback.Replied state ask reply after)
    (asked : state.store.IsAskedFor) {response : Http.Response} (answered : reply = .ok response) :
    ask.operation.IsReadable response := by
  cases replied with
  | lost => exact nomatch answered
  | refused rejected =>
    obtain rfl := Except.ok.inj answered
    exact ask.operation.isReadable_of_rejected rejected
  | performed =>
    obtain rfl := Except.ok.inj answered
    exact Mock.isReadable_meant ask.operation ask.input _ _ _ asked

/-- **Every reply is understood.** -/
theorem understood (replied : loopback.Replied state ask reply after)
    (asked : state.store.IsAskedFor) : Understood (ask.operation.read reply) := by
  cases reply with
  | error fault => exact understood_error rfl
  | ok response => exact (replied.isReadable asked rfl).understood

/-- **What is stored of an instance** was stored before, or has just been asked for. -/
theorem instances (replied : loopback.Replied state ask reply after) (proper : ask.IsProper)
    {i : String} {body : Mock.ProvisionBody}
    (found : after.store.instances.get? i = some body) :
    (∃ request : ProvisionRequest, ask = ⟨.provision, request⟩ ∧ request.instanceId = i ∧
        request.IsStorable ∧ body = request.stored ∧ reply.Creates) ∨
      state.store.instances.get? i = some body ∧
        ∀ request : ProvisionRequest, ask = ⟨.provision, request⟩ → request.instanceId = i →
          ¬reply.Creates := by
  cases replied with
  | lost fault =>
    refine .inr ⟨found, fun _ _ _ creates => ?_⟩
    obtain ⟨_, answered, _⟩ | ⟨_, answered, _⟩ := creates <;> exact nomatch answered
  | refused rejected same =>
    rw [same] at found
    refine .inr ⟨found, fun _ _ _ creates => ?_⟩
    obtain created | accepted := (creates_ok_iff _).mp creates <;> omega
  | performed fit store =>
    rw [store] at found
    obtain ⟨operation, input⟩ := ask
    by_cases creation : operation = .provision
    · subst creation
      obtain ⟨inserted, creates⟩ | ⟨unchanged, uncreated⟩ := Mock.provision_cases
        loopback.settings (loopback.random state.served) input.instanceId
        (Operation.query .provision input) input.stored state.store
      · have found := inserted ▸ found
        rw [Table.get?_insert] at found
        split at found
        · rename_i same
          exact .inl ⟨input, rfl, same.symm, ⟨proper.exact, fit.depth⟩,
            (Option.some.inj found).symm, creates⟩
        · rename_i differs
          refine .inr ⟨found, fun request same ofInstance => absurd ofInstance.symm ?_⟩
          injection same with _ same
          exact same ▸ differs
      · exact .inr ⟨unchanged ▸ found, fun _ _ _ => uncreated⟩
    · refine .inr ⟨?_, fun request same => absurd (congrArg Ask.operation same) creation⟩
      refine (Mock.effect_perform _ _ _ _).get?_instances ?_ found
      cases operation with
      | provision => exact absurd rfl creation
      | catalog | deprovision | getInstance | instanceLastOperation | bind | unbind | getBinding
      | bindingLastOperation =>
        intro j same
        cases same

/-- **An instance is shown as it was asked for**, if it is shown at all. -/
theorem shown {i : String} (replied : loopback.Replied state ⟨.getInstance, i⟩ reply after)
    {details : InstanceDetails} (read : Operation.read .getInstance reply = .ok details) :
    ∃ body, state.store.instances.get? i = some body ∧
      ∀ request : ProvisionRequest, request.IsStorable → body = request.stored →
        details = request.shown i := by
  have unread {response : Http.Response} (rejected : 400 ≤ response.status) :
      Operation.parse .getInstance response ≠ .ok details := by
    obtain ⟨error, sorted, -⟩ :=
      classify_of_unsuccessful (Operation.succeeds_of_rejected .getInstance rejected)
    have failed : Operation.parse .getInstance response = .error error := reading_of_error _ sorted
    rw [failed]
    exact nofun
  cases replied with
  | lost => exact nomatch read
  | refused rejected => exact absurd read (unread rejected)
  | performed =>
    have answered : Operation.parse .getInstance (Mock.getInstance i state.store).toResponse
        = .ok details := read
    cases stored : state.store.instances.get? i with
    | none =>
      unfold Mock.getInstance at answered
      rw [stored] at answered
      exact absurd answered (unread (Nat.le_of_ble_eq_true rfl))
    | some body =>
      refine ⟨body, rfl, fun request storable same => ?_⟩
      rw [same] at stored
      obtain rejected | shown := Mock.parse_getInstance i storable stored
      · exact absurd answered (unread rejected)
      · rw [answered] at shown
        exact Except.ok.inj shown

end Loopback.Replied

end ServiceBroker
