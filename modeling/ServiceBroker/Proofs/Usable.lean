import ServiceBroker.Proofs.History

/-!
# Whether what was created is there

A client that asks for an instance or a binding and is answered 200 or 201 takes the
creation for complete and never polls. What it asked for should then be there when it asks
for it.

It is, if the creation was made at once. A broker that accepts changes first answers 200 to
a creation that repeats an earlier one, and it does not look at whether the earlier one is
still in flight. Reading does look, so the two answers agree exactly if no creation is in
flight (`Mock.created_found_iff`), and they disagree on an instance that is asked for twice
in a row (`Mock.created_not_found`).
-/

namespace ServiceBroker.Mock

section Effects

variable {settings : Settings} {random : String} {store after : Store} {answer : Answer}
  {target : Target}

/-- **A creation that is answered as complete** leaves its target held and everything in
flight as it was. It is new only if changes are made at once. -/
theorem Effect.held
    (effect : Effect settings random store (.change target target.creation) answer after)
    (answered : answer.status = 200 ∨ answer.status = 201) :
    after.holds target = true ∧ after.operations = store.operations ∧
      (answer.status = 201 → settings.mode = .sync) := by
  -- The kind of the creation is named, so that the cases need not compute it.
  generalize creates : target.creation = kind at effect
  cases effect with
  | declined refused => omega
  | repeated there complete =>
    refine ⟨there, rfl, fun created => ?_⟩
    rw [complete] at created
    exact nomatch created
  | made atOnce begins =>
    obtain rfl := creates
    rw [Store.conclude_creation]
    refine ⟨?_, begins.operations_eq, fun _ => atOnce⟩
    rw [begins.holds_eq, decide_eq_true rfl, Bool.true_or]
  | accepted => obtain accepted | accepted := answered <;> exact nomatch accepted

/-- **A target is found** if it is held and not just being created. -/
theorem Effect.found_iff (effect : Effect settings random store (.read target) answer after) :
    answer.status = 200 ↔
      store.holds target = true ∧ store.inFlight target target.creation = false := by
  cases effect with
  | read found => exact found

end Effects

theorem Store.inFlight_congr {store other : Store} (same : store.operations = other.operations)
    (target : Target) (kind : ChangeKind) :
    store.inFlight target kind = other.inFlight target kind := by
  unfold inFlight
  rw [same]

/-- **Whether what was created is there.** In any store that a broker can reach, an instance
or a binding is asked for and the creation is answered as complete; then it is read. It is
found exactly if its creation was not in flight when it was asked for. That is always so if
the creation was new, and if changes are made at once. -/
theorem created_found_iff (settings : Settings) (history : List Turn) (put get : Turn)
    (target : Target) (creates : settings.asked? put = some (.change target target.creation))
    (reads : settings.asked? get = some (.read target))
    (answered : settings.status put (settings.after history {}) = 200 ∨
      settings.status put (settings.after history {}) = 201) :
    let store := settings.after history {}
    let found := settings.status get (settings.next put store) = 200
    (found ↔ store.inFlight target target.creation = false) ∧
      (settings.status put store = 201 → found) ∧ (settings.mode = .sync → found) := by
  intro store found
  obtain ⟨answer, -, status, effect⟩ := Settings.exists_effect creates store
  obtain ⟨shown, -, statusShown, reading⟩ :=
    Settings.exists_effect reads (settings.next put store)
  obtain ⟨held, untouched, atOnce⟩ := effect.held (status ▸ answered)
  have foundIff : found ↔ store.inFlight target target.creation = false := by
    show settings.status get (settings.next put store) = 200 ↔ _
    rw [statusShown, reading.found_iff, Store.inFlight_congr untouched]
    exact and_iff_right held
  have foundAtOnce : settings.mode = .sync → found := fun mode => foundIff.mpr <| by
    unfold Store.inFlight
    rw [(settings.isSound_after history).idle mode]
  exact ⟨foundIff, fun new => foundAtOnce (atOnce (status ▸ new)), foundAtOnce⟩

/-- An instance whose creation has finished is asked for again, and found. -/
theorem created_found_after_poll :
    let settings : Settings := { mode := .async 0 }
    let store := settings.after [.put "0" "i", .get "i/last_operation"] {}
    settings.status (.put "1" "i") store = 200 ∧
      settings.status (.get "i") (settings.next (.put "1" "i") store) = 200 := by
  intro settings store
  have answered : settings.status (.put "1" "i") store = 200 := by decide +kernel
  refine ⟨answered, ?_⟩
  have found := created_found_iff settings [.put "0" "i", .get "i/last_operation"]
    (.put "1" "i") (.get "i") (.serviceInstance "i") (by decide +kernel)
    (by decide +kernel) (.inl answered)
  exact found.1.mpr (by decide +kernel)

/-- **An instance that was created and is not found.** It is asked for twice in a row; the
repetition is answered as complete, and the instance is still being created. -/
theorem created_not_found :
    let settings : Settings := { mode := .async 1 }
    let store := settings.after [.put "0" "i"] {}
    settings.asked? (.put "1" "i") = some (.change (.serviceInstance "i") .provision) ∧
      settings.asked? (.get "i") = some (.read (.serviceInstance "i")) ∧
      settings.status (.put "1" "i") store = 200 ∧
      settings.status (.get "i") (settings.next (.put "1" "i") store) = 404 := by
  decide +kernel

end ServiceBroker.Mock
