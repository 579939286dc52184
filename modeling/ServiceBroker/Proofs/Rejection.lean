import ServiceBroker.Proofs.Consistency

/-!
# Requests that are turned away

A request can be turned away at many places: at the gates, by a part of it that cannot be
read, by every handler, and by a question with the wrong token. Its answer has a status of
400 or above then, and nothing else has come of it: the store is what it was, and no random
part of a token has been drawn.

To say that nothing was drawn, the random parts are given as an endless supply, from which a
broker at work (`Mock.Running`) takes the next one when it accepts a change. This is not a
choice: an action either does the same whatever the random part is, or accepts a change under
it (`Mock.Draw`), so the requests that draw are just those whose serving depends on what is
drawn (`Mock.Settings.attend_drawn_iff`).

A request that was turned away might as well not have been sent. Of any requests, those that
were turned away can be left out, and the others are answered as before
(`Mock.rejections_leave_no_trace`).
-/

namespace ServiceBroker.Mock

/-! ## The store -/

/-- **An effect that is answered with a rejection** leaves the store as it is. -/
theorem Effect.eq_of_rejected {settings : Settings} {random : String} {store after : Store}
    {aim : Aim} {answer : Answer} (effect : Effect settings random store aim answer after)
    (rejected : 400 ≤ answer.status) : after = store := by
  cases effect with
  | catalog | read | declined | repeated | idle | mismatched => rfl
  | made atOnce begins complete =>
    rw [complete] at rejected
    split at rejected <;> omega
  | accepted => exact absurd (show 400 ≤ 202 from rejected) (by decide)
  | counted | finished => exact absurd (show 400 ≤ 200 from rejected) (by decide)

/-! ## The random part -/

/-- **What is made of a random part**: nothing, or a change is accepted under it. -/
inductive Draw (settings : Settings) : (String → Answer × Store) → Prop where
  /-- The random part makes no difference, and nothing is accepted. -/
  | unused {answer : Answer} (after : Store) (notAccepted : answer.status ≠ 202) :
      Draw settings fun _ => (answer, after)
  /-- A change is accepted under the random part. -/
  | used (polls : Nat) (target : Target) (kind : ChangeKind) (begun : Store) :
      Draw settings fun random => accept settings random polls target kind begun

section Draw

variable (settings : Settings) (i b : String) (query : Query) (store : Store)

theorem draw_provision (body : ProvisionBody) :
    Draw settings fun random => provision settings random i query body store := by
  unfold provision
  cases store.instances.get? i with
  | some existing =>
    refine .unused store ?_
    split <;> exact nofun
  | none =>
    cases settings.mode with
    | sync => exact .unused _ nofun
    | async polls =>
      cases query.acceptsIncomplete with
      | false => exact .unused _ nofun
      | true => exact .used ..

theorem draw_deprovision :
    Draw settings fun random => deprovision settings random i query store := by
  unfold deprovision
  cases query.hasCorrelation with
  | false => exact .unused _ nofun
  | true =>
    cases store.instances.contains i with
    | false => exact .unused _ nofun
    | true =>
      cases settings.mode with
      | sync => exact .unused _ nofun
      | async polls =>
        cases query.acceptsIncomplete with
        | false => exact .unused _ nofun
        | true => exact .used ..

theorem draw_bind (body : BindBody) :
    Draw settings fun random => bind settings random i b query body store := by
  unfold bind
  cases store.instances.contains i with
  | false => exact .unused _ nofun
  | true =>
    cases store.bindings.get? (i, b) with
    | some existing =>
      refine .unused store ?_
      split <;> exact nofun
    | none =>
      cases settings.mode with
      | sync => exact .unused _ nofun
      | async polls =>
        cases query.acceptsIncomplete with
        | false => exact .unused _ nofun
        | true => exact .used ..

theorem draw_unbind : Draw settings fun random => unbind settings random i b query store := by
  unfold unbind
  cases query.hasCorrelation with
  | false => exact .unused _ nofun
  | true =>
    cases store.bindings.contains (i, b) with
    | false => exact .unused _ nofun
    | true =>
      cases settings.mode with
      | sync => exact .unused _ nofun
      | async polls =>
        cases query.acceptsIncomplete with
        | false => exact .unused _ nofun
        | true => exact .used ..

/-- No question is answered with an acceptance. -/
theorem status_poll_ne (target : Target) (token : Option String) :
    (store.poll target token).1.status ≠ 202 := by
  have effect := effect_poll ({} : Settings) "" store target token
  generalize (store.poll target token).1 = answer at effect
  generalize (store.poll target token).2 = after at effect
  cases effect with
  | idle => split <;> exact nofun
  | mismatched | counted | finished => exact nofun

/-- **Every action either accepts a change under the random part or has no use for it.** -/
theorem draw_perform (action : Action) :
    Draw settings fun random => action.perform settings random store := by
  cases action with
  | catalog => exact .unused store nofun
  | provision i query body => exact draw_provision settings i query store body
  | getInstance i =>
    refine .unused store fun accepted => ?_
    obtain found | notFound := status_getInstance i store <;> omega
  | deprovision i query => exact draw_deprovision settings i query store
  | bind i b query body => exact draw_bind settings i b query store body
  | getBinding i b =>
    refine .unused store fun accepted => ?_
    obtain found | notFound := status_getBinding i b store <;> omega
  | unbind i b query => exact draw_unbind settings i b query store
  | lastOperation target token => exact .unused _ (status_poll_ne store target token)

variable {settings}

/-- **The random part of an acceptance** is kept in the store. -/
theorem random_eq_of_accept {polls : Nat} {target : Target} {kind : ChangeKind} {begun : Store}
    {random other : String} (same : (accept settings other polls target kind begun).2
      = (accept settings random polls target kind begun).2) : other = random := by
  have found := congrArg (·.operations.get? target) same
  unfold accept at found
  dsimp only at found
  rw [Store.get?_operations_begin, Store.get?_operations_begin, if_pos rfl, if_pos rfl] at found
  have tokens : kind.name ++ "-" ++ other = kind.name ++ "-" ++ random :=
    congrArg Pending.token (Option.some.inj found)
  exact (String.append_right_inj _).mp tokens

theorem Draw.eq_of_not_accepted {performs : String → Answer × Store} (draw : Draw settings performs)
    {random : String} (notAccepted : (performs random).1.status ≠ 202) (other : String) :
    performs other = performs random := by
  cases draw with
  | unused => rfl
  | used => exact absurd rfl notAccepted

/-- What is accepted leaves another store under another random part. -/
theorem Draw.store_ne_of_accepted {performs : String → Answer × Store}
    (draw : Draw settings performs) {random other : String}
    (accepted : (performs random).1.status = 202) (different : other ≠ random) :
    (performs other).2 ≠ (performs random).2 := by
  cases draw with
  | unused _ notAccepted => exact absurd accepted notAccepted
  | used => exact mt random_eq_of_accept different

theorem append_mark_ne (text : String) : text ++ "!" ≠ text := fun same => by
  have lengths := congrArg String.length same
  rw [String.length_append] at lengths
  exact absurd lengths (Nat.succ_ne_self _)

variable (settings)

/-- **A request is accepted if and only if its serving depends on the random part.** -/
theorem serve_accepted_iff (random : String) (request : Request) :
    (serve settings random request store).1.status = 202 ↔
      ¬ ∀ other, serve settings other request store = serve settings random request store := by
  cases understood : understand settings request with
  | error refusal =>
    unfold serve
    rw [understood]
    refine iff_of_false ?_ fun depends => depends fun _ => rfl
    dsimp only
    split <;> exact refusal.status_ne
  | ok action =>
    have draw := draw_perform settings store action
    -- Leaving out the body changes neither the status nor the store.
    have status : (serve settings random request store).1.status
        = (action.perform settings random store).1.status := by
      unfold serve
      rw [understood]
      dsimp only
      split <;> rfl
    have stored (other : String) : (serve settings other request store).2
        = (action.perform settings other store).2 := by
      unfold serve
      rw [understood]
    rw [status]
    refine ⟨fun accepted same => ?_, fun depends => ?_⟩
    · have kept := congrArg Prod.snd (same (random ++ "!"))
      rw [stored, stored] at kept
      exact draw.store_ne_of_accepted accepted (append_mark_ne random) kept
    · refine Classical.not_not.mp fun notAccepted => depends fun other => ?_
      have performed : action.perform settings other store = action.perform settings random store :=
        draw.eq_of_not_accepted notAccepted other
      unfold serve
      rw [understood]
      dsimp only
      rw [performed]

end Draw

/-! ## A broker at work -/

/-- **A broker at work**: its store, and how many random parts it has drawn. -/
structure Running where
  store : Store := {}
  drawn : Nat := 0

namespace Settings

variable (settings : Settings) (supply : Nat → String)

/-- **Serving the next request** with random parts from a supply. The next one is drawn when a
change is accepted. -/
def attend (request : Request) (state : Running) : Http.Response × Running :=
  let (response, store) := serve settings (supply state.drawn) request state.store
  (response, { store, drawn := if response.status = 202 then state.drawn + 1 else state.drawn })

/-- **Serving requests one after another**: what is answered to each, and the broker in the
end. -/
def transcript : List Request → Running → List (Request × Http.Response) × Running
  | [], state => ([], state)
  | request :: rest, state =>
    let (response, next) := settings.attend supply request state
    let (later, final) := transcript rest next
    ((request, response) :: later, final)

variable {settings supply} {request : Request} {state : Running}

/-- **A random part is drawn where it makes a difference**, and nowhere else. -/
theorem attend_drawn_iff :
    (settings.attend supply request state).2.drawn = state.drawn ↔
      ∀ random, serve settings random request state.store
        = serve settings (supply state.drawn) request state.store := by
  have accepted_iff := serve_accepted_iff settings state.store (supply state.drawn) request
  unfold attend
  dsimp only
  split
  · rename_i accepted
    exact iff_of_false (by omega) (accepted_iff.mp accepted)
  · rename_i notAccepted
    exact iff_of_true rfl (Classical.not_not.mp (mt accepted_iff.mpr notAccepted))

/-- **A request that is turned away** leaves a broker as it is. -/
theorem attend_of_rejected (rejected : 400 ≤ (settings.attend supply request state).1.status) :
    (settings.attend supply request state).2 = state := by
  have status : 400 ≤ settings.status { random := supply state.drawn, request } state.store :=
    rejected
  have store : settings.next { random := supply state.drawn, request } state.store
      = state.store := by
    obtain ⟨deed, -, -, answered, effect⟩ | ⟨-, -, same⟩ :=
      settings.turn_cases { random := supply state.drawn, request } state.store
    · exact effect.eq_of_rejected (answered ▸ status)
    · exact same
  have notAccepted : settings.status { random := supply state.drawn, request } state.store
      ≠ 202 := by omega
  show Running.mk (settings.next { random := supply state.drawn, request } state.store)
    (if settings.status { random := supply state.drawn, request } state.store = 202 then _ else _)
    = state
  rw [store, if_neg notAccepted]

/-- **A request that is turned away** is answered in one way, whatever the random part is. -/
theorem serve_of_rejected (rejected : 400 ≤ (settings.attend supply request state).1.status)
    (random : String) : serve settings random request state.store
      = ((settings.attend supply request state).1, state.store) := by
  have kept := attend_of_rejected rejected
  have drawn : (settings.attend supply request state).2.drawn = state.drawn :=
    congrArg Running.drawn kept
  rw [attend_drawn_iff.mp drawn random]
  exact Prod.ext rfl (congrArg Running.store kept)

/-- **What is answered if the requests that are turned away are left out**: the same. -/
theorem transcript_of_accepted (requests : List Request) (state : Running) :
    settings.transcript supply (((settings.transcript supply requests state).1.filter
        (·.2.status < 400)).map Prod.fst) state
      = ((settings.transcript supply requests state).1.filter (·.2.status < 400),
        (settings.transcript supply requests state).2) := by
  induction requests generalizing state with
  | nil => rfl
  | cons request rest ih =>
    simp only [transcript]
    by_cases rejected : 400 ≤ (settings.attend supply request state).1.status
    · rw [List.filter_cons_of_neg (by simpa using rejected), attend_of_rejected rejected]
      exact ih state
    · rw [List.filter_cons_of_pos (by simpa using rejected)]
      simp only [List.map_cons, transcript]
      rw [ih]

end Settings

/-! ## The result -/

/-- **Requests that are turned away leave no trace.** If a request is answered with a status of
400 or above, the broker is left as it is: nothing is stored and nothing is drawn, so that the
request would have got the same answer under any random part. Hence of any requests those
that are turned away can be left out: the others get the answers that they got, and the
broker ends as it did. -/
theorem rejections_leave_no_trace (settings : Settings) (supply : Nat → String) :
    (∀ request state, 400 ≤ (settings.attend supply request state).1.status →
      (settings.attend supply request state).2 = state ∧
      ∀ random, serve settings random request state.store
        = ((settings.attend supply request state).1, state.store)) ∧
    ∀ requests state,
      let run := settings.transcript supply requests state
      let remaining := run.1.filter (·.2.status < 400)
      settings.transcript supply (remaining.map Prod.fst) state = (remaining, run.2) :=
  ⟨fun _ _ rejected =>
      ⟨Settings.attend_of_rejected rejected, Settings.serve_of_rejected rejected⟩,
    Settings.transcript_of_accepted⟩

/-- A binding without an instance cannot be created, and an instance that is not there cannot
be deleted. What is left is one creation, answered as before. -/
theorem rejections_leave_no_trace_tried :
    let settings : Settings := { mode := .async 1 }
    let supply := fun n => toString n
    let bind := (Turn.put "" "i/service_bindings/b").request
    let requests := [bind, (Turn.delete "" "j").request, (Turn.put "" "i").request]
    let run := settings.transcript supply requests {}
    let remaining := run.1.filter (·.2.status < 400)
    400 ≤ (settings.attend supply bind {}).1.status ∧ (settings.attend supply bind {}).2 = {} ∧
      run.1.map (·.2.status) = [404, 410, 202] ∧
      settings.transcript supply (remaining.map Prod.fst) {} = (remaining, run.2) := by
  intro settings supply bind requests run remaining
  have rejected : 400 ≤ (settings.attend supply bind {}).1.status := by decide +kernel
  have result := rejections_leave_no_trace settings supply
  exact ⟨rejected, (result.1 bind {} rejected).1, by decide +kernel, result.2 requests {}⟩

end ServiceBroker.Mock
