import ServiceBroker.Mock.Request
import ServiceBroker.Proofs.Effect

/-!
# Requests served one after another

A mock broker serves whatever arrives, from any number of clients, one request at a time.
A `Turn` is a request together with the random part that a token would get, and a history is
a list of turns. What comes of a turn is a `Deed`, what was asked for and what was answered;
a request that is refused leaves no deed and no trace in the store.

So every step of a history is an effect or nothing (`Mock.Settings.turn_cases`), and what
holds of the empty store and is kept by every effect holds of every store that a broker can
reach. The first such property is `Mock.Store.IsSound`: what is in flight on a target
creates it or deletes it, and a broker that makes changes at once has nothing in flight.
-/

namespace ServiceBroker.Mock

/-! ## Deeds -/

/-- **What was asked for and what was answered.** -/
structure Deed where
  aim : Aim
  answer : Answer

/-- The text of a member of an answer's body. -/
def Answer.text? (answer : Answer) (name : String) : Option String :=
  match answer.body with
  | .object members =>
    match members.lookup name with
    | some (.string text) => some text
    | _ => none
  | _ => none

namespace Deed

/-- **The token that a deed hands out** for a target, in an acceptance. -/
def token? (deed : Deed) (target : Target) : Option String :=
  match deed.aim with
  | .change other _ =>
    if other = target ∧ deed.answer.status = 202 then deed.answer.text? "operation" else none
  | .catalog | .read _ | .question _ _ => none

/-- **The state that a deed reports** of the last operation on a target. -/
def state? (deed : Deed) (target : Target) : Option String :=
  match deed.aim with
  | .question other _ => if other = target then deed.answer.text? "state" else none
  | .catalog | .read _ | .change _ _ => none

/-- **Whether a deed creates a target**, at once or by an acceptance. -/
def Creates (deed : Deed) (target : Target) : Prop :=
  deed.aim = .change target target.creation ∧
    (deed.answer.status = 201 ∨ deed.answer.status = 202)

instance (deed : Deed) (target : Target) : Decidable (deed.Creates target) :=
  inferInstanceAs (Decidable (_ ∧ _))

end Deed

/-! ## Turns -/

/-- **A request in its turn**, with the random part of the token that it may get. -/
structure Turn where
  random : String
  request : Request

namespace Turn

/-- The request of a client with the default credentials, for a path below that of all
instances. -/
def ofClient (random method path : String) (body : Option String) : Turn where
  random := random
  request :=
    { method, target := "/v2/service_instances/" ++ path, body
      headers := [("Authorization", "Basic YWRtaW46c2VjcmV0"), ("X-Broker-Api-Version", "2.17"),
        ("Content-Type", "application/json")] }

/-- **Asking for a creation.** -/
def put (random path : String) : Turn :=
  .ofClient random "PUT" (path ++ "?accepts_incomplete=true")
    (some "\x7b\"service_id\":\"s\",\"plan_id\":\"p\"\x7d")

/-- **Asking for a deletion.** -/
def delete (random path : String) : Turn :=
  .ofClient random "DELETE" (path ++ "?accepts_incomplete=true&service_id=s&plan_id=p") none

/-- **Reading, or asking after an operation.** -/
def get (path : String) : Turn := .ofClient "" "GET" path none

end Turn

namespace Settings

variable (settings : Settings) (turn : Turn) (store : Store)

/-- **What is asked for**, if the request is understood. -/
def asked? : Option Aim := (understand settings turn.request).toOption.map Action.aim

/-- **The status of the response.** -/
def status : Nat := (serve settings turn.random turn.request store).1.status

/-- **The store after a turn.** -/
def next : Store := (serve settings turn.random turn.request store).2

/-- **What comes of a turn.** -/
def deed? : Option Deed :=
  (understand settings turn.request).toOption.map fun action =>
    { aim := action.aim, answer := (action.perform settings turn.random store).1 }

/-- **The store after a history.** -/
def after : List Turn → Store → Store
  | [], store => store
  | turn :: rest, store => after rest (settings.next turn store)

/-- **What comes of a history.** -/
def deeds : List Turn → Store → List Deed
  | [], _ => []
  | turn :: rest, store =>
    (settings.deed? turn store).toList ++ deeds rest (settings.next turn store)

theorem after_append (earlier later : List Turn) :
    settings.after (earlier ++ later) store
      = settings.after later (settings.after earlier store) := by
  induction earlier generalizing store with
  | nil => rfl
  | cons turn rest ih => exact ih _

/-- **A turn has an effect or does nothing.** What comes of it is what was asked for, with
the status of the response. -/
theorem turn_cases :
    (∃ deed, settings.deed? turn store = some deed ∧ settings.asked? turn = some deed.aim ∧
      settings.status turn store = deed.answer.status ∧
      Effect settings turn.random store deed.aim deed.answer (settings.next turn store)) ∨
    (settings.deed? turn store = none ∧ settings.asked? turn = none ∧
      settings.next turn store = store) := by
  unfold deed? asked? status next serve
  cases understand settings turn.request with
  | error refusal => exact .inr ⟨rfl, rfl, rfl⟩
  | ok action =>
    refine .inl ⟨_, rfl, rfl, ?_, effect_perform settings turn.random store action⟩
    dsimp only
    split <;> rfl

variable {settings turn store} {aim : Aim} {deed : Deed}

/-- **What is asked for is done**, and answered with the status of the response. -/
theorem exists_effect (asked : settings.asked? turn = some aim) (store : Store) :
    ∃ answer, settings.deed? turn store = some { aim, answer } ∧
      settings.status turn store = answer.status ∧
      Effect settings turn.random store aim answer (settings.next turn store) := by
  obtain ⟨⟨aim', answer⟩, done, asked', status, effect⟩ | ⟨-, refused, -⟩ :=
    settings.turn_cases turn store
  · obtain rfl := Option.some.inj (asked.symm.trans asked')
    exact ⟨answer, done, status, effect⟩
  · exact nomatch asked.symm.trans refused

/-- **What comes of a turn is an effect.** -/
theorem effect_of_deed (done : settings.deed? turn store = some deed) :
    Effect settings turn.random store deed.aim deed.answer (settings.next turn store) := by
  obtain ⟨deed', done', -, -, effect⟩ | ⟨nothing, -, -⟩ := settings.turn_cases turn store
  · obtain rfl := Option.some.inj (done.symm.trans done')
    exact effect
  · exact nomatch done.symm.trans nothing

/-- What comes of a turn comes of a history that begins with it. -/
theorem mem_deeds_cons (done : settings.deed? turn store = some deed) (rest : List Turn) :
    deed ∈ settings.deeds (turn :: rest) store := by
  refine List.mem_append_left _ ?_
  rw [done]
  exact List.mem_singleton_self deed

end Settings

/-! ## Every store that can be reached -/

namespace Store

/-- **The operations in flight are in order.** -/
structure IsSound (settings : Settings) (store : Store) : Prop where
  /-- What is in flight on a target creates it or deletes it. -/
  fits : ∀ {target pending}, store.operations.get? target = some pending →
    pending.kind = target.creation ∨ pending.kind = target.deletion
  /-- Nothing is in flight if changes are made at once. -/
  idle : settings.mode = .sync → ∀ target, store.operations.get? target = none

end Store

variable {settings : Settings} {random : String} {store after : Store} {aim : Aim}
  {answer : Answer}

/-- Every effect keeps the operations in order. -/
theorem Effect.isSound (effect : Effect settings random store aim answer after)
    (sound : store.IsSound settings) : after.IsSound settings where
  fits := fun busy => by
    obtain same | ⟨kind, polls, -, fits, rfl⟩ | before := effect.pending_cases busy
    · exact sound.fits same
    · exact fits
    · have fits := sound.fits before
      exact fits
  idle := fun mode target => Option.eq_none_iff_forall_ne_some.mpr fun pending busy => by
    obtain same | ⟨_, polls, async, _⟩ | before := effect.pending_cases busy
    · exact nomatch (sound.idle mode target).symm.trans same
    · exact nomatch mode.symm.trans async
    · exact nomatch (sound.idle mode target).symm.trans before

namespace Settings

variable (settings)

/-- **What every turn keeps holds after a history.** -/
theorem after_induction {P : Store → Prop}
    (step : ∀ turn store, P store → P (settings.next turn store)) (history : List Turn)
    (start : P store) : P (settings.after history store) := by
  induction history generalizing store with
  | nil => exact start
  | cons turn rest ih => exact ih (step turn store start)

theorem isSound_next (turn : Turn) (store : Store) (sound : store.IsSound settings) :
    (settings.next turn store).IsSound settings := by
  obtain ⟨deed, -, -, -, effect⟩ | ⟨-, -, same⟩ := settings.turn_cases turn store
  · exact effect.isSound sound
  · rwa [same]

/-- **The operations are in order in every store that a broker can reach.** -/
theorem isSound_after (history : List Turn) : (settings.after history {}).IsSound settings :=
  settings.after_induction settings.isSound_next history ⟨nofun, fun _ _ => rfl⟩

end Settings

end ServiceBroker.Mock
