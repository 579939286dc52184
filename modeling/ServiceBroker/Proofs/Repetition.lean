import ServiceBroker.Proofs.Consistency
import ServiceBroker.Proofs.Isolation
import ServiceBroker.Proofs.StoredBodies
import ServiceBroker.Proofs.Written

/-!
# Asking again for what is there

The creation of something that is stored looks neither at the mode nor at what is in flight. It
compares the body with the one that is stored, answers 200 or 409, and leaves the store alone
(`Mock.Settings.Decides`).

A creation that was answered as done or accepted has left a body in the store that agrees with
its own. So the same request right after it is answered 200, and it need not be the same to the
letter: its members may come in any other order. All this is
`Mock.creations_are_idempotent`, for every store that a broker can reach.
-/

namespace ServiceBroker.Mock

open Json (decode AlikeOption Rearranges Tree)

/-! ## What the handlers do -/

section Handlers

variable (settings : Settings) (random i b : String) (query : Query) {store : Store}

/-- **The creation of an instance that is there** compares the bodies. -/
theorem provision_of_stored {stored : ProvisionBody} (body : ProvisionBody)
    (there : store.instances.get? i = some stored) :
    provision settings random i query body store
      = (if stored.same body then .bare 200
          else .error 409 "Conflict" "instance exists with different attributes", store) := by
  unfold provision
  rw [there]

/-- **The creation of a binding that is there** compares the bodies. -/
theorem bind_of_stored {stored : BindBody} (body : BindBody)
    (backed : store.holds (.serviceInstance i) = true)
    (there : store.bindings.get? (i, b) = some stored) :
    bind settings random i b query body store
      = (if stored.same body then .credentials 200 i b
          else .error 409 "Conflict" "binding exists with different attributes", store) := by
  have backed : store.instances.contains i = true := backed
  unfold bind
  rw [backed, there]
  rfl

/-- **What is stored after the creation of an instance** is the body that was given, or one that
was found to be the same. -/
theorem exists_stored_of_provision (body : ProvisionBody)
    (success : (provision settings random i query body store).1.status < 300) :
    ∃ stored, (provision settings random i query body store).2.instances.get? i = some stored ∧
      (stored = body ∨ store.instances.get? i = some stored ∧ stored.same body = true) := by
  cases there : store.instances.get? i with
  | some stored =>
    rw [provision_of_stored settings random i query body there] at success ⊢
    cases same : stored.same body with
    | true => exact ⟨stored, there, .inr ⟨rfl, same⟩⟩
    | false =>
      rw [same] at success
      exact absurd (show 409 < 300 from success) (by decide)
  | none =>
    unfold provision at success ⊢
    rw [there] at success ⊢
    dsimp only at success ⊢
    cases mode : settings.mode with
    | sync => exact ⟨body, by simp, .inl rfl⟩
    | async polls =>
      rw [mode] at success
      cases accepts : query.acceptsIncomplete with
      | true => exact ⟨body, by simp [accept, Store.begin], .inl rfl⟩
      | false =>
        rw [accepts] at success
        exact absurd (show 422 < 300 from success) (by decide)

/-- **What is stored after the creation of a binding** is the body that was given, or one that
was found to be the same. -/
theorem exists_stored_of_bind (body : BindBody)
    (success : (bind settings random i b query body store).1.status < 300) :
    ∃ stored, (bind settings random i b query body store).2.bindings.get? (i, b) = some stored ∧
      (stored = body ∨ store.bindings.get? (i, b) = some stored ∧ stored.same body = true) := by
  cases backed : store.instances.contains i with
  | false =>
    unfold bind at success
    rw [backed] at success
    exact absurd (show 404 < 300 from success) (by decide)
  | true =>
    cases there : store.bindings.get? (i, b) with
    | some stored =>
      rw [bind_of_stored settings random i b query body backed there] at success ⊢
      cases same : stored.same body with
      | true => exact ⟨stored, there, .inr ⟨rfl, same⟩⟩
      | false =>
        rw [same] at success
        exact absurd (show 409 < 300 from success) (by decide)
    | none =>
      unfold bind at success ⊢
      rw [backed, there] at success ⊢
      dsimp only at success ⊢
      cases mode : settings.mode with
      | sync => exact ⟨body, by simp, .inl rfl⟩
      | async polls =>
        rw [mode] at success
        cases accepts : query.acceptsIncomplete with
        | true => exact ⟨body, by simp [accept, Store.begin], .inl rfl⟩
        | false =>
          rw [accepts] at success
          exact absurd (show 422 < 300 from success) (by decide)

/-- A binding is shown with its credentials, if it is shown. -/
theorem getBinding_of_found (found : (getBinding i b store).status = 200) :
    getBinding i b store = .credentials 200 i b := by
  unfold getBinding at found ⊢
  dsimp only at found ⊢
  split at found
  · exact absurd found (by decide)
  · rename_i visible
    exact if_neg visible

end Handlers

/-! ## Turns -/

namespace Settings

/-- **A turn that finds out whether something is so**: it answers 200 if it is and 409 if it is
not, and it does nothing else. -/
structure Decides (settings : Settings) (turn : Turn) (store : Store) (so : Prop) : Prop where
  unchanged : settings.next turn store = store
  repeated : settings.status turn store = 200 ↔ so
  conflict : settings.status turn store = 409 ↔ ¬so

variable {settings : Settings} {turn again : Turn} {store : Store} {i b text : String}

/-- A turn decides what its answer says. -/
theorem decides_of_serve {so : Prop} {same : Bool} {yes no : Answer}
    (served : serve settings turn.random turn.request store
      = ((if same then yes else no).toResponse, store))
    (complete : yes.status = 200) (declined : no.status = 409) (same_iff : same = true ↔ so) :
    settings.Decides turn store so := by
  have status : settings.status turn store = (if same then yes else no).status := by
    unfold Settings.status
    rw [served]
    rfl
  refine ⟨by unfold next; rw [served], ?_, ?_⟩
  · rw [status, ← same_iff]
    cases same with
    | true => exact iff_of_true complete rfl
    | false => exact iff_of_false (by rw [if_neg Bool.false_ne_true, declined]; decide) nofun
  · rw [status, ← same_iff]
    cases same with
    | true => exact iff_of_false (by rw [if_pos rfl, complete]; decide) (· rfl)
    | false => exact iff_of_true declined nofun

theorem ne_head (put : turn.request.method = "PUT") : turn.request.method ≠ "HEAD" := by
  rw [put]
  decide

/-- **Asking for an instance that is there** decides whether the bodies agree. -/
theorem decides_provision (read : store.IsRead) {stored body : ProvisionBody}
    (asked : settings.asked? turn = some (.change (.serviceInstance i) .provision))
    (there : store.instances.get? i = some stored)
    (decoded : decode ProvisionBody.record.read turn.request.text = .ok body) :
    settings.Decides turn store (stored.Agrees body) := by
  obtain ⟨query, given, understood⟩ := exists_provision asked
  obtain ⟨put, decoded', -⟩ := understand_provision understood
  obtain rfl := Except.ok.inj (decoded.symm.trans decoded')
  obtain ⟨text, origin⟩ := read.instances there
  have served := serve_of_understood turn.random store (ne_head put) understood
  rw [Action.perform, provision_of_stored settings _ i query body there] at served
  exact decides_of_serve served rfl rfl (ProvisionBody.compares.same_iff origin decoded)

/-- **Asking for a binding that is there** decides whether the bodies agree, … -/
theorem decides_bind (read : store.IsRead) (rooted : store.IsRooted) {stored body : BindBody}
    (asked : settings.asked? turn = some (.change (.serviceBinding i b) .bind))
    (there : store.bindings.get? (i, b) = some stored)
    (decoded : decode BindBody.record.read turn.request.text = .ok body) :
    settings.Decides turn store (stored.Agrees body) ∧
      (stored.Agrees body → settings.response turn store
        = (Answer.credentials 200 i b).toResponse) := by
  obtain ⟨query, given, understood⟩ := exists_bind asked
  obtain ⟨put, decoded', -⟩ := understand_bind understood
  obtain rfl := Except.ok.inj (decoded.symm.trans decoded')
  obtain ⟨text, origin⟩ := read.bindings there
  have backed := rooted i b (congrArg Option.isSome there)
  have same_iff := BindBody.compares.same_iff origin decoded
  have served := serve_of_understood turn.random store (ne_head put) understood
  rw [Action.perform, bind_of_stored settings _ i b query body backed there] at served
  refine ⟨decides_of_serve served rfl rfl same_iff, fun agrees => ?_⟩
  unfold response
  rw [served, same_iff.mpr agrees, if_pos rfl]

/-- **An instance that was just asked for is there**, and asking again decides nothing new. -/
theorem repeats_provision (read : store.IsRead)
    (asked : settings.asked? turn = some (.change (.serviceInstance i) .provision))
    (success : settings.status turn store < 300)
    (sent : again.request = turn.request.withBody text)
    (size : text.utf8ByteSize ≤ turn.request.text.utf8ByteSize ∨ text.utf8ByteSize ≤ bodyLimit)
    (like : text = turn.request.text ∨ Rearranges turn.request.text text) :
    settings.Decides again (settings.next turn store) True := by
  obtain ⟨query, body, understood⟩ := exists_provision asked
  obtain ⟨put, decoded, others⟩ := understand_provision understood
  obtain ⟨other, decoded', agrees⟩ := ProvisionBody.compares.exists_agreeing decoded like
  have asked' : settings.asked? again = some (.change (.serviceInstance i) .provision) := by
    unfold asked?
    rw [sent, others size decoded']
    rfl
  have served := serve_of_understood turn.random store (ne_head put) understood
  have success : (provision settings turn.random i query body store).1.status < 300 := by
    unfold status at success
    rwa [served] at success
  obtain ⟨stored, there, origin⟩ := exists_stored_of_provision settings _ i query body success
  -- What is stored is the body itself, or one that it was compared with.
  have agreed : stored.Agrees body := by
    obtain rfl | ⟨before, same⟩ := origin
    · exact ProvisionBody.compares.equivalence.refl stored
    · obtain ⟨text, origin⟩ := read.instances before
      exact (ProvisionBody.compares.same_iff origin decoded).mp same
  have there : (settings.next turn store).instances.get? i = some stored := by
    unfold next
    rw [served]
    exact there
  have decides := decides_provision (settings.isRead_next turn store read) asked' there
    (by rw [sent]; exact decoded')
  rwa [eq_true (ProvisionBody.compares.equivalence.trans agreed agrees)] at decides

/-- **A binding that was just asked for is there**, and asking again shows its credentials. -/
theorem repeats_bind (read : store.IsRead) (consistent : store.IsConsistent settings)
    (asked : settings.asked? turn = some (.change (.serviceBinding i b) .bind))
    (success : settings.status turn store < 300)
    (sent : again.request = turn.request.withBody text)
    (size : text.utf8ByteSize ≤ turn.request.text.utf8ByteSize ∨ text.utf8ByteSize ≤ bodyLimit)
    (like : text = turn.request.text ∨ Rearranges turn.request.text text) :
    settings.Decides again (settings.next turn store) True ∧
      settings.response again (settings.next turn store)
        = (Answer.credentials 200 i b).toResponse := by
  obtain ⟨query, body, understood⟩ := exists_bind asked
  obtain ⟨put, decoded, others⟩ := understand_bind understood
  obtain ⟨other, decoded', agrees⟩ := BindBody.compares.exists_agreeing decoded like
  have asked' : settings.asked? again = some (.change (.serviceBinding i b) .bind) := by
    unfold asked?
    rw [sent, others size decoded']
    rfl
  have served := serve_of_understood turn.random store (ne_head put) understood
  have success : (bind settings turn.random i b query body store).1.status < 300 := by
    unfold status at success
    rwa [served] at success
  obtain ⟨stored, there, origin⟩ := exists_stored_of_bind settings _ i b query body success
  have agreed : stored.Agrees body := by
    obtain rfl | ⟨before, same⟩ := origin
    · exact BindBody.compares.equivalence.refl stored
    · obtain ⟨text, origin⟩ := read.bindings before
      exact (BindBody.compares.same_iff origin decoded).mp same
  have there : (settings.next turn store).bindings.get? (i, b) = some stored := by
    unfold next
    rw [served]
    exact there
  have agreed := BindBody.compares.equivalence.trans agreed agrees
  obtain ⟨decides, shows⟩ := decides_bind (settings.isRead_next turn store read)
    (settings.isConsistent_next turn store consistent).rooted asked' there
    (by rw [sent]; exact decoded')
  refine ⟨?_, shows agreed⟩
  rwa [eq_true agreed] at decides

/-- **A binding that is shown** is shown with its credentials. -/
theorem response_of_read (asked : settings.asked? turn = some (.read (.serviceBinding i b)))
    (notHead : turn.request.method ≠ "HEAD") (found : settings.status turn store = 200) :
    settings.response turn store = (Answer.credentials 200 i b).toResponse := by
  obtain ⟨action, understood, aimed⟩ := exists_understood asked
  have served := serve_of_understood turn.random store notHead understood
  cases action with
  | getBinding j c =>
    cases aimed
    have found : (getBinding i b store).status = 200 := by
      unfold status at found
      rwa [served] at found
    unfold response
    rw [served]
    exact congrArg Answer.toResponse (getBinding_of_found i b found)
  | _ => exact nomatch aimed

end Settings

/-! ## Every store that can be reached -/

/-- **Creations are idempotent, and conflict exactly where they differ.** In a store that a broker
can reach, an instance or a binding that is there is asked for again. The store stays as it is,
and the answer is 200 if the fields that are read agree with those that are stored, and 409 if
they do not.

So a creation that was answered as done or accepted can be sent again right away, with the same
body or with one whose members are rearranged, if that one is no longer or keeps to the limit of a
body: it is answered 200 and changes nothing. For a binding the response holds the credentials,
and it is the one that shows the binding whenever it is found later.

Fields that agree are equal texts, or free-form values that are alike. The fields of an object are
what its parts say, `null` being the same as nothing. A free-form object holds under each key what
the last member says, such objects are alike as finite maps, and an integer is never like a
double. -/
theorem creations_are_idempotent (settings : Settings) (history : List Turn) :
    let store := settings.after history {}
    (∀ turn i stored body, settings.asked? turn = some (.change (.serviceInstance i) .provision) →
      store.instances.get? i = some stored →
      decode ProvisionBody.record.read turn.request.text = .ok body →
      settings.Decides turn store (stored.Agrees body)) ∧
    (∀ turn i b stored body, settings.asked? turn = some (.change (.serviceBinding i b) .bind) →
      store.bindings.get? (i, b) = some stored →
      decode BindBody.record.read turn.request.text = .ok body →
      settings.Decides turn store (stored.Agrees body)) ∧
    (∀ turn again target text, settings.asked? turn = some (.change target target.creation) →
      200 ≤ settings.status turn store → settings.status turn store < 300 →
      again.request = turn.request.withBody text →
      text.utf8ByteSize ≤ turn.request.text.utf8ByteSize ∨ text.utf8ByteSize ≤ bodyLimit →
      text = turn.request.text ∨ Rearranges turn.request.text text →
      settings.Decides again (settings.next turn store) True ∧
      ∀ i b, target = .serviceBinding i b →
        settings.response again (settings.next turn store)
          = (Answer.credentials 200 i b).toResponse ∧
        ∀ later get, settings.asked? get = some (.read target) → get.request.method ≠ "HEAD" →
          settings.status get (settings.after later (settings.next turn store)) = 200 →
          settings.response get (settings.after later (settings.next turn store))
            = (Answer.credentials 200 i b).toResponse) ∧
    (ProvisionBody.record.ReadsParts ProvisionBody.IsToldBy ∧
      BindBody.record.ReadsParts BindBody.IsToldBy ∧
      ∀ depth members v, (Tree.object members).value (depth + 1) = some v →
        ∃ object, v = .object object ∧ ∀ key, object.lookup key
          = (members.reverse.lookup (.text key)).bind (Tree.value depth)) ∧
    (∀ xs ys, (Json.object xs).Alike (.object ys) ↔
      ∀ key, AlikeOption (xs.lookup key) (ys.lookup key)) ∧
    ∀ n x, ¬(Json.number (.whole n)).Alike (.number (.double x)) := by
  intro store
  have read : store.IsRead := settings.isRead_after history
  have consistent : store.IsConsistent settings := settings.isConsistent_after history
  refine ⟨fun turn i stored body asked there decoded =>
      Settings.decides_provision read asked there decoded,
    fun turn i b stored body asked there decoded =>
      (Settings.decides_bind read consistent.rooted asked there decoded).1,
    fun turn again target text asked _ success sent size like => ?_,
    ⟨ProvisionBody.readsParts, BindBody.readsParts, fun _ _ _ => Json.exists_object_of_value⟩,
    fun _ _ => Json.alike_object_iff, Json.not_alike_whole_double⟩
  cases target with
  | serviceInstance i => exact ⟨Settings.repeats_provision read asked success sent size like, nofun⟩
  | serviceBinding i b =>
    obtain ⟨decides, shows⟩ :=
      Settings.repeats_bind read consistent asked success sent size like
    refine ⟨decides, fun j c same => ?_⟩
    cases same
    exact ⟨shows, fun later get reads notHead found =>
      Settings.response_of_read reads notHead found⟩

/-! ## A creation in flight -/

/-- The body of a bind with two parameters. -/
def bindBody : Json :=
  .object [("service_id", .string "s"), ("plan_id", .string "p"),
    ("parameters", .object [("x", .bool true), ("y", .array [])])]

/-- The same members in another order, outside and inside. -/
def bindBodyTurned : Json :=
  .object [("parameters", .object [("y", .array []), ("x", .bool true)]),
    ("plan_id", .string "p"), ("service_id", .string "s")]

/-- One is written as the other rearranged. -/
theorem bindBody_rearranges : Rearranges bindBody.text bindBodyTurned.text := by
  have parameter : ∀ value ∈ [Json.bool true, .array []], value.IsExact := by
    simp [Json.IsExact.bool, Json.IsExact.array]
  refine Json.IsExact.rearranges_of_same (.object (by decide) ?_) (.object (by decide) ?_)
    (by decide)
  · have nested : (Json.object [("x", .bool true), ("y", .array [])]).IsExact :=
      .object (by decide) (by simpa using parameter)
    simp [Json.IsExact.string, nested]
  · have nested : (Json.object [("y", .array []), ("x", .bool true)]).IsExact :=
      .object (by decide) (by simpa [and_comm] using parameter)
    simp [Json.IsExact.string, nested]

/-- A binding is asked for, and while it is still being created the request comes again, with the
members of its body and of its parameters in another order. Later the binding is found with the
credentials of that answer. A body that names another service conflicts, for the instance as for
the binding. -/
theorem creations_are_idempotent_in_flight :
    let settings : Settings := { mode := .async 1 }
    let put (path : String) (text : String) : Turn :=
      .ofClient "1" "PUT" (path ++ "?accepts_incomplete=true") (some text)
    let other : String := "\x7b\"service_id\":\"t\",\"plan_id\":\"p\"\x7d"
    let binding : String := "i/service_bindings/b"
    let bind : Turn := put binding bindBody.text
    let again : Turn := { random := "2", request := bind.request.withBody bindBodyTurned.text }
    let poll : Turn := .get (binding ++ "/last_operation")
    let store := settings.after [.put "0" "i"] {}
    let after := settings.next bind store
    settings.status bind store = 202 ∧
      settings.status again after = 200 ∧ settings.next again after = after ∧
      settings.response (.get binding) (settings.after [poll, poll] after)
        = settings.response again after ∧
      settings.status (put "i" other) after = 409 ∧
      settings.status (put binding other) after = 409 := by
  intro settings put other binding bind again poll store after
  obtain ⟨-, -, repeats, -⟩ := creations_are_idempotent settings [.put "0" "i"]
  obtain ⟨decides, shows⟩ := repeats bind again (.serviceBinding "i" "b") bindBodyTurned.text
    (by decide +kernel) (by decide +kernel) (by decide +kernel) rfl (.inl (by decide +kernel))
    (.inr bindBody_rearranges)
  obtain ⟨credentials, shown⟩ := shows "i" "b" rfl
  obtain ⟨provisions, binds, -⟩ := creations_are_idempotent settings [.put "0" "i", bind]
  refine ⟨by decide +kernel, decides.repeated.mpr trivial, decides.unchanged, ?_, ?_, ?_⟩
  · rw [credentials]
    exact shown [poll, poll] (.get binding) (by decide +kernel) (by decide +kernel)
      (by decide +kernel)
  · obtain ⟨stored, there, service⟩ := Option.map_eq_some_iff.mp
      (show (after.instances.get? "i").map (·.serviceId) = some "s" by decide +kernel)
    obtain ⟨body, read, named⟩ := Option.map_eq_some_iff.mp
      (show (decode ProvisionBody.record.read other).toOption.map (·.serviceId) = some "t" by
        decide +kernel)
    refine (provisions (put "i" other) "i" stored body (by decide +kernel) there
      (Json.eq_ok_of_toOption read)).conflict.mpr fun agrees => ?_
    exact absurd (service.symm.trans (agrees.serviceId.trans named)) (by decide)
  · obtain ⟨stored, there, service⟩ := Option.map_eq_some_iff.mp
      (show (after.bindings.get? ("i", "b")).map (·.serviceId) = some "s" by decide +kernel)
    obtain ⟨body, read, named⟩ := Option.map_eq_some_iff.mp
      (show (decode BindBody.record.read other).toOption.map (·.serviceId) = some "t" by
        decide +kernel)
    refine (binds (put binding other) "i" "b" stored body (by decide +kernel) there
      (Json.eq_ok_of_toOption read)).conflict.mpr fun agrees => ?_
    exact absurd (service.symm.trans (agrees.serviceId.trans named)) (by decide)

end ServiceBroker.Mock
