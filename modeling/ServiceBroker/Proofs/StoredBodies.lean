import ServiceBroker.Proofs.Arrivals
import ServiceBroker.Proofs.Comparison

/-!
# Where stored bodies come from

The body of an instance or a binding gets into the store with the request that creates it, and
nothing changes it there. So every body that is stored was read from some text
(`Mock.Settings.isRead_after`), and can be compared with what is read next.

A request for a creation is understood if its gates are passed and its body is read; with another
body that is read it is understood as well, if that one is no longer or keeps to the limit
(`Mock.understand_provision`, `Mock.understand_bind`).
-/

namespace ServiceBroker.Mock

open Json (decode)

/-! ## Requests for creations -/

/-- **The request with another body.** -/
def Request.withBody (request : Request) (text : String) : Request :=
  { request with body := some text }

section Understanding

variable {settings : Settings} {endpoint : Endpoint} {query asked : Query} {request : Request}
  {i b text : String}

/-- **A body is read** if it is declared as JSON and keeps to the limit. -/
theorem bodyAs_eq_ok_iff {α : Type} {record : Json.Record α} {a : α} :
    bodyAs record request = .ok a ↔
      (∃ mediaType, request.header? "Content-Type" = some mediaType ∧
        MediaType.isJson mediaType = true) ∧
      request.text.utf8ByteSize ≤ bodyLimit ∧ decode record.read request.text = .ok a := by
  unfold bodyAs
  cases request.header? "Content-Type" with
  | none => exact iff_of_false nofun fun ⟨⟨_, declared, _⟩, _⟩ => nomatch declared
  | some mediaType =>
    dsimp only
    cases isJson : MediaType.isJson mediaType with
    | false =>
      refine iff_of_false nofun ?_
      rintro ⟨⟨_, declared, isJson'⟩, -⟩
      obtain rfl := Option.some.inj declared
      exact nomatch isJson.symm.trans isJson'
    | true =>
      have declared : ∃ type, some mediaType = some type ∧ MediaType.isJson type = true :=
        ⟨mediaType, rfl, isJson⟩
      rw [if_pos rfl, and_iff_right declared]
      split
      · rename_i size
        rw [and_iff_right size]
        cases decode record.read request.text with
        | error fault => exact iff_of_false nofun nofun
        | ok body =>
          dsimp only
          rw [Except.ok.injEq, Except.ok.injEq]
      · rename_i long
        exact iff_of_false nofun fun ⟨size, _⟩ => long size

/-- Another body is read in the same way, if it is no longer or keeps to the limit. -/
theorem bodyAs_withBody {α : Type} {record : Json.Record α} {a a' : α}
    (read : bodyAs record request = .ok a)
    (size : text.utf8ByteSize ≤ request.text.utf8ByteSize ∨ text.utf8ByteSize ≤ bodyLimit)
    (other : decode record.read text = .ok a') :
    bodyAs record (request.withBody text) = .ok a' := by
  obtain ⟨declared, limited, -⟩ := bodyAs_eq_ok_iff.mp read
  exact bodyAs_eq_ok_iff.mpr ⟨declared, size.elim (·.trans limited) id, other⟩

/-- **A request is understood** if its headers pass and its path leads to an endpoint where it
is. -/
theorem understand_eq_ok_iff {action : Action} :
    understand settings request = .ok action ↔ checkHeaders settings request = none ∧
      ∃ endpoint, endpointOf? (splitTarget request.target).1 = some endpoint ∧
        actionAt endpoint (Text.formPairs (splitTarget request.target).2) request = .ok action := by
  unfold understand
  cases checkHeaders settings request with
  | some refusal => exact iff_of_false nofun nofun
  | none =>
    dsimp only
    rw [and_iff_right rfl]
    cases endpointOf? (splitTarget request.target).1 with
    | none => exact iff_of_false nofun fun ⟨_, leads, _⟩ => nomatch leads
    | some endpoint => simp

/-- Only PUT is taken for PUT. -/
theorem eq_put {method : String} (taken : (if method = "HEAD" then "GET" else method) = "PUT") :
    method = "PUT" := by
  split at taken
  · exact absurd taken (by decide)
  · exact taken

/-- **Where an instance is created.** -/
theorem actionAt_eq_provision_iff {body : ProvisionBody} :
    actionAt endpoint query request = .ok (.provision i asked body) ↔
      ∃ raw, endpoint = .serviceInstance raw ∧ request.method = "PUT" ∧ asked = query ∧
        instanceIdOf raw = .ok i ∧ bodyAs ProvisionBody.record request = .ok body := by
  constructor
  · intro understood
    unfold actionAt at understood
    split at understood
    -- Of the ten lines of the table, the third alone leads to this action.
    case h_3 raw put =>
      obtain ⟨j, named, understood⟩ := exists_of_bind_eq_ok understood
      obtain ⟨given, read, understood⟩ := exists_of_bind_eq_ok understood
      obtain ⟨rfl, rfl, rfl⟩ := Action.provision.inj (Except.ok.inj understood)
      exact ⟨raw, rfl, eq_put put, rfl, named, read⟩
    case h_1 | h_10 => exact nomatch understood
    case h_2 | h_4 | h_5 =>
      obtain ⟨_, -, understood⟩ := exists_of_bind_eq_ok understood
      exact nomatch understood
    case h_6 | h_8 | h_9 =>
      obtain ⟨_, -, understood⟩ := exists_of_bind_eq_ok understood
      obtain ⟨_, -, understood⟩ := exists_of_bind_eq_ok understood
      exact nomatch understood
    case h_7 =>
      obtain ⟨_, -, understood⟩ := exists_of_bind_eq_ok understood
      obtain ⟨_, -, understood⟩ := exists_of_bind_eq_ok understood
      obtain ⟨_, -, understood⟩ := exists_of_bind_eq_ok understood
      exact nomatch understood
  · rintro ⟨raw, rfl, put, rfl, named, read⟩
    unfold actionAt
    rw [put, if_neg (by decide)]
    show (instanceIdOf raw).bind (fun i => (bodyAs ProvisionBody.record request).bind fun body =>
      .ok (Action.provision i asked body)) = _
    rw [named, read]
    rfl

/-- **Where a binding is created.** -/
theorem actionAt_eq_bind_iff {body : BindBody} :
    actionAt endpoint query request = .ok (.bind i b asked body) ↔
      ∃ raw raw', endpoint = .serviceBinding raw raw' ∧ request.method = "PUT" ∧ asked = query ∧
        instanceIdOf raw = .ok i ∧ bindingIdOf raw' = .ok b ∧
        bodyAs BindBody.record request = .ok body := by
  constructor
  · intro understood
    unfold actionAt at understood
    split at understood
    case h_7 raw raw' put =>
      obtain ⟨j, named, understood⟩ := exists_of_bind_eq_ok understood
      obtain ⟨c, named', understood⟩ := exists_of_bind_eq_ok understood
      obtain ⟨given, read, understood⟩ := exists_of_bind_eq_ok understood
      obtain ⟨rfl, rfl, rfl, rfl⟩ := Action.bind.inj (Except.ok.inj understood)
      exact ⟨raw, raw', rfl, eq_put put, rfl, named, named', read⟩
    case h_1 | h_10 => exact nomatch understood
    case h_2 | h_4 | h_5 =>
      obtain ⟨_, -, understood⟩ := exists_of_bind_eq_ok understood
      exact nomatch understood
    case h_3 | h_6 | h_8 | h_9 =>
      obtain ⟨_, -, understood⟩ := exists_of_bind_eq_ok understood
      obtain ⟨_, -, understood⟩ := exists_of_bind_eq_ok understood
      exact nomatch understood
  · rintro ⟨raw, raw', rfl, put, rfl, named, named', read⟩
    unfold actionAt
    rw [put, if_neg (by decide)]
    show (instanceIdOf raw).bind (fun i => (bindingIdOf raw').bind fun b =>
      (bodyAs BindBody.record request).bind fun body => .ok (Action.bind i b asked body)) = _
    rw [named, named', read]
    rfl

/-- **A provision that is understood** comes by PUT, with a body that is read, and another body
that is read would be understood as well. -/
theorem understand_provision {body : ProvisionBody}
    (understood : understand settings request = .ok (.provision i asked body)) :
    request.method = "PUT" ∧ decode ProvisionBody.record.read request.text = .ok body ∧
      ∀ {text : String} {other : ProvisionBody},
        text.utf8ByteSize ≤ request.text.utf8ByteSize ∨ text.utf8ByteSize ≤ bodyLimit →
        decode ProvisionBody.record.read text = .ok other →
          understand settings (request.withBody text) = .ok (.provision i asked other) := by
  obtain ⟨admitted, endpoint, leads, understood⟩ := understand_eq_ok_iff.mp understood
  obtain ⟨raw, rfl, put, rfl, named, read⟩ := actionAt_eq_provision_iff.mp understood
  refine ⟨put, (bodyAs_eq_ok_iff.mp read).2.2, fun size other => ?_⟩
  exact understand_eq_ok_iff.mpr ⟨admitted, _, leads,
    actionAt_eq_provision_iff.mpr ⟨raw, rfl, put, rfl, named, bodyAs_withBody read size other⟩⟩

/-- **And so does a bind.** -/
theorem understand_bind {body : BindBody}
    (understood : understand settings request = .ok (.bind i b asked body)) :
    request.method = "PUT" ∧ decode BindBody.record.read request.text = .ok body ∧
      ∀ {text : String} {other : BindBody},
        text.utf8ByteSize ≤ request.text.utf8ByteSize ∨ text.utf8ByteSize ≤ bodyLimit →
        decode BindBody.record.read text = .ok other →
          understand settings (request.withBody text) = .ok (.bind i b asked other) := by
  obtain ⟨admitted, endpoint, leads, understood⟩ := understand_eq_ok_iff.mp understood
  obtain ⟨raw, raw', rfl, put, rfl, named, named', read⟩ := actionAt_eq_bind_iff.mp understood
  refine ⟨put, (bodyAs_eq_ok_iff.mp read).2.2, fun size other => ?_⟩
  exact understand_eq_ok_iff.mpr ⟨admitted, _, leads,
    actionAt_eq_bind_iff.mpr ⟨raw, raw', rfl, put, rfl, named, named', bodyAs_withBody read size other⟩⟩

end Understanding

section Asking

variable {settings : Settings} {turn : Turn} {i b : String}

/-- What is asked for is the aim of the action that is understood. -/
theorem Settings.exists_understood {aim : Aim} (asked : settings.asked? turn = some aim) :
    ∃ action, understand settings turn.request = .ok action ∧ action.aim = aim := by
  obtain ⟨action, found, aimed⟩ := Option.map_eq_some_iff.mp asked
  exact ⟨action, Json.eq_ok_of_toOption found, aimed⟩

/-- Who asks for an instance is understood as provisioning it. -/
theorem Settings.exists_provision
    (asked : settings.asked? turn = some (.change (.serviceInstance i) .provision)) :
    ∃ query body, understand settings turn.request = .ok (.provision i query body) := by
  obtain ⟨action, understood, aimed⟩ := exists_understood asked
  cases action with
  | provision j query body =>
    cases aimed
    exact ⟨query, body, understood⟩
  | _ => exact nomatch aimed

/-- Who asks for a binding is understood as binding it. -/
theorem Settings.exists_bind
    (asked : settings.asked? turn = some (.change (.serviceBinding i b) .bind)) :
    ∃ query body, understand settings turn.request = .ok (.bind i b query body) := by
  obtain ⟨action, understood, aimed⟩ := exists_understood asked
  cases action with
  | bind j c query body =>
    cases aimed
    exact ⟨query, body, understood⟩
  | _ => exact nomatch aimed

end Asking

/-! ## What is stored -/

section Storing

variable {settings : Settings} {random : String} {store after : Store} {key : String × String}
  {stored : BindBody}

/-- No change that is made puts a binding into the store. -/
theorem Store.get?_bindings_of_conclude {target : Target} {kind : ChangeKind}
    (found : (store.conclude target kind).bindings.get? key = some stored) :
    store.bindings.get? key = some stored := by
  cases kind with
  | provision | bind => exact found
  | deprovision =>
    have kept : (store.bindings.keep (·.1 ≠ target.instanceId)).get? key = some stored := by
      cases target <;> exact found
    rw [Table.get?_keep] at kept
    split at kept
    · exact kept
    · cases kept
  | unbind =>
    cases target with
    | serviceInstance i => exact found
    | serviceBinding i b =>
      have kept : (store.bindings.erase (i, b)).get? key = some stored := found
      rw [Table.get?_erase] at kept
      split at kept
      · cases kept
      · exact kept

/-- **Only the creation of a binding puts one into the store.** -/
theorem Effect.get?_bindings {aim : Aim} {answer : Answer}
    (effect : Effect settings random store aim answer after)
    (other : ∀ i b, aim ≠ .change (.serviceBinding i b) .bind)
    (found : after.bindings.get? key = some stored) : store.bindings.get? key = some stored := by
  have begun {target : Target} {kind : ChangeKind} {begun : Store}
      (begins : store.CanBegin target kind begun)
      (other : ∀ i b, Aim.change target kind ≠ .change (.serviceBinding i b) .bind)
      (found : begun.bindings.get? key = some stored) : store.bindings.get? key = some stored := by
    cases begins with
    | bind => exact absurd rfl (other _ _)
    | provision | deprovision | unbind => exact found
  cases effect with
  | catalog | read | declined | repeated | idle | mismatched => exact found
  | made atOnce begins => exact begun begins other (Store.get?_bindings_of_conclude found)
  | accepted later begins => exact begun begins other found
  | counted => exact found
  | finished =>
    rw [Store.finish_eq] at found
    exact Store.get?_bindings_of_conclude found

/-- **The creation of a binding** stores the body that it is given, or nothing. -/
theorem bindings_bind (settings : Settings) (random i b : String) (query : Query)
    (body : BindBody) (store : Store) :
    (bind settings random i b query body store).2.bindings
        = store.bindings.insert (i, b) body ∨
      (bind settings random i b query body store).2 = store := by
  unfold bind
  cases store.instances.contains i with
  | false => exact .inr rfl
  | true =>
    cases store.bindings.get? (i, b) with
    | some existing => exact .inr rfl
    | none =>
      cases settings.mode with
      | sync => exact .inl rfl
      | async polls =>
        cases query.acceptsIncomplete with
        | true => exact .inl rfl
        | false => exact .inr rfl

/-- **A store whose bodies were all read.** -/
structure Store.IsRead (store : Store) : Prop where
  instances {i : String} {stored : ProvisionBody} : store.instances.get? i = some stored →
    ∃ text, decode ProvisionBody.record.read text = .ok stored
  bindings {key : String × String} {stored : BindBody} : store.bindings.get? key = some stored →
    ∃ text, decode BindBody.record.read text = .ok stored

/-- What is stored after an action was stored before, unless the action creates it. -/
theorem Store.IsRead.perform (read : store.IsRead) {action : Action}
    (provides : ∀ {i query body}, action = .provision i query body →
      ∃ text, decode ProvisionBody.record.read text = .ok body)
    (binds : ∀ {i b query body}, action = .bind i b query body →
      ∃ text, decode BindBody.record.read text = .ok body) :
    (action.perform settings random store).2.IsRead where
  instances {j stored} found := by
    by_cases creates : ∃ i query body, action = .provision i query body
    · obtain ⟨i, query, body, rfl⟩ := creates
      obtain ⟨inserted, -⟩ | ⟨same, -⟩ := provision_cases settings random i query body store
      · have found : (store.instances.insert i body).get? j = some stored := inserted ▸ found
        rw [Table.get?_insert] at found
        split at found
        · obtain rfl := Option.some.inj found
          exact provides rfl
        · exact read.instances found
      · exact read.instances (same ▸ found)
    · refine read.instances ((effect_perform settings random store action).get?_instances ?_ found)
      rintro i aimed
      cases action with
      | provision i query body => exact creates ⟨i, query, body, rfl⟩
      | _ => cases aimed
  bindings {key stored} found := by
    by_cases creates : ∃ i b query body, action = .bind i b query body
    · obtain ⟨i, b, query, body, rfl⟩ := creates
      obtain inserted | same := bindings_bind settings random i b query body store
      · have found : (store.bindings.insert (i, b) body).get? key = some stored := inserted ▸ found
        rw [Table.get?_insert] at found
        split at found
        · obtain rfl := Option.some.inj found
          exact binds rfl
        · exact read.bindings found
      · exact read.bindings (same ▸ found)
    · refine read.bindings ((effect_perform settings random store action).get?_bindings ?_ found)
      rintro i b aimed
      cases action with
      | bind i b query body => exact creates ⟨i, b, query, body, rfl⟩
      | _ => cases aimed

end Storing

namespace Settings

variable (settings : Settings)

/-- A turn stores what it has read. -/
theorem isRead_next (turn : Turn) (store : Store) (read : store.IsRead) :
    (settings.next turn store).IsRead := by
  unfold next serve
  cases understood : understand settings turn.request with
  | error refusal => exact read
  | ok action =>
    refine read.perform ?_ ?_
    · rintro i query body rfl
      exact ⟨_, (understand_provision understood).2.1⟩
    · rintro i b query body rfl
      exact ⟨_, (understand_bind understood).2.1⟩

/-- **Every body in a store that a broker can reach was read.** -/
theorem isRead_after (history : List Turn) : (settings.after history {}).IsRead :=
  settings.after_induction settings.isRead_next history ⟨nofun, nofun⟩

end Settings

end ServiceBroker.Mock
