import ServiceBroker.Proofs.Backing

/-!
# What is in order in every store

The three tables of a store depend on one another. A binding is stored with its instance, an
operation is in flight on an instance only while the instance is stored, and what is in
flight on a target creates or deletes it, under a token of its own kind and with no more polls
to come than were promised. `Mock.Store.IsConsistent` collects these conditions. None of them
is kept without the others: a deletion that finishes has to find its instance, and has to take
the bindings with it, for the next creation to start without any.

Every effect keeps a store consistent (`Mock.Effect.isConsistent`), so every store that a broker
can reach is (`Mock.consistent_after`). It follows that a new instance has no bindings, that a
deletion which is reported to have succeeded has taken its target away, and that a broker which
makes changes at once never answers with an acceptance or with progress.
-/

namespace ServiceBroker.Mock

/-! ## Bindings and their instances -/

namespace Store

/-- **A binding is stored with its instance.** -/
def IsRooted (store : Store) : Prop :=
  ∀ i b, store.holds (.serviceBinding i b) = true → store.holds (.serviceInstance i) = true

variable {store begun : Store} {target : Target} {kind : ChangeKind}

/-- A binding begins with its instance there. -/
theorem CanBegin.isRooted (begins : store.CanBegin target kind begun)
    (rooted : store.IsRooted) : begun.IsRooted := by
  intro i b held
  rw [begins.holds_eq, Bool.or_eq_true] at held ⊢
  refine .inr ?_
  obtain same | held := held
  · obtain rfl := of_decide_eq_true same
    cases begins with
    | bind body there => exact there
    | unbind there => exact rooted i b there
  · exact rooted i b held

/-- **A change keeps bindings with their instances**: whatever takes an instance away takes
its bindings, too. -/
theorem IsRooted.conclude (rooted : store.IsRooted)
    (fits : kind = target.creation ∨ kind = target.deletion) :
    (store.conclude target kind).IsRooted := by
  intro i b held
  rw [holds_conclude fits, Bool.and_eq_true, Bool.not_eq_true', decide_eq_false_iff_not]
    at held ⊢
  obtain ⟨held, stays⟩ := held
  refine ⟨rooted i b held, fun ⟨deletes, goes⟩ => stays ⟨deletes, .inr ?_⟩⟩
  obtain rfl | rfl := goes <;> rfl

end Store

/-! ## Consistent stores -/

/-- **A store whose tables agree with one another**, for a broker with these settings. -/
structure Store.IsConsistent (settings : Settings) (store : Store) : Prop
    extends store.IsSound settings where
  rooted : store.IsRooted
  /-- What is in flight on an instance is in flight on one that is stored. -/
  backed : ∀ {i}, store.isBusy (.serviceInstance i) = true →
    store.holds (.serviceInstance i) = true
  /-- A token is the name of its kind, a hyphen, and a random part. -/
  named : ∀ {target pending}, store.operations.get? target = some pending →
    ∃ random, pending.token = pending.kind.name ++ "-" ++ random
  /-- No more polls are to come than were promised. -/
  bounded : ∀ {target pending polls}, store.operations.get? target = some pending →
    settings.mode = .async polls → pending.remaining ≤ polls

section Effects

variable {settings : Settings} {random : String} {store after : Store} {aim : Aim}
  {answer : Answer} {target : Target}

/-- Every effect keeps bindings with their instances. -/
theorem Effect.isRooted (effect : Effect settings random store aim answer after)
    (sound : store.IsSound settings) (rooted : store.IsRooted) : after.IsRooted := by
  cases effect with
  | catalog | read | declined | repeated | idle | mismatched => exact rooted
  | made atOnce begins => exact (begins.isRooted rooted).conclude begins.fits
  | accepted later begins => exact begins.isRooted rooted
  | counted => exact rooted
  | finished busy =>
    intro i b held
    rw [Store.holds_finish] at held ⊢
    exact rooted.conclude (sound.fits busy) i b held

/-- **Every effect keeps a store consistent.** -/
theorem Effect.isConsistent (effect : Effect settings random store aim answer after)
    (consistent : store.IsConsistent settings) : after.IsConsistent settings where
  toIsSound := effect.isSound consistent.toIsSound
  rooted := effect.isRooted consistent.toIsSound consistent.rooted
  -- Only an operation on a binding can be stranded.
  backed := effect.isBacked_target consistent.toIsSound consistent.backed nofun
  named := fun busy => by
    obtain same | ⟨kind, polls, -, -, rfl⟩ | before := effect.pending_cases busy
    · exact consistent.named same
    · exact ⟨random, rfl⟩
    · have named := consistent.named before
      exact named
  bounded := fun busy async => by
    obtain same | ⟨kind, polls, promised, -, rfl⟩ | before := effect.pending_cases busy
    · exact consistent.bounded same async
    · exact Nat.le_of_eq (Mode.async.inj (promised.symm.trans async))
    · exact Nat.le_of_succ_le (consistent.bounded before async)

/-! ## What follows from it -/

/-- **A created instance has no bindings**, since there were none without it. -/
theorem Effect.holds_binding_of_creates
    (effect : Effect settings random store aim answer after) (rooted : store.IsRooted)
    {i : String} (creates : Deed.Creates { aim, answer } (.serviceInstance i)) (b : String) :
    after.holds (.serviceBinding i b) = false := by
  obtain ⟨rfl, status⟩ := creates
  dsimp only at status
  have noBinding {begun : Store}
      (begins : store.CanBegin (.serviceInstance i) .provision begun) :
      begun.holds (.serviceBinding i b) = false := by
    rw [begins.holds_eq, decide_eq_false nofun, Bool.false_or]
    cases begins with
    | provision body absent =>
      exact Bool.eq_false_iff.mpr fun held => nomatch absent.symm.trans (rooted i b held)
  cases effect with
  | declined refused => omega
  | repeated there complete => omega
  | made atOnce begins => exact noBinding begins
  | accepted later begins =>
    rw [Store.holds_begin]
    exact noBinding begins

/-- **A deletion that is reported to have succeeded** has taken its target away. -/
theorem Effect.holds_of_deleted (effect : Effect settings random store aim answer after)
    (deleting : store.inFlight target target.deletion = true)
    (reports : Deed.state? { aim, answer } target = some "succeeded") :
    after.holds target = false := by
  obtain ⟨token, rfl, succeeded⟩ := Deed.exists_question reports
  unfold Store.inFlight at deleting
  cases effect with
  | mismatched => exact nomatch succeeded
  | counted =>
    have inProgress : "in progress" = "succeeded" := Option.some.inj succeeded
    exact absurd inProgress (by decide)
  | idle free =>
    rw [free] at deleting
    exact nomatch deleting
  | finished busy =>
    rw [busy] at deleting
    rw [Store.holds_finish, eq_of_beq deleting, Store.holds_conclude_deletion,
      decide_eq_true (.inl rfl), Bool.not_true, Bool.and_false]

/-- **Who asks after a target with nothing in flight** is told of no progress. -/
theorem Effect.no_progress {token : Option String}
    (effect : Effect settings random store (.question target token) answer after)
    (free : store.operations.get? target = none) :
    answer.text? "state" ≠ some "in progress" := by
  cases effect with
  | idle =>
    split
    · exact fun same => absurd (Option.some.inj same) (by decide)
    · exact nofun
  | mismatched busy | counted busy | finished busy => exact nomatch free.symm.trans busy

/-- What deletes a target is its own kind of deletion. -/
theorem Store.IsSound.eq_deletion {kind : ChangeKind} (sound : store.IsSound settings)
    (deleting : store.inFlight target kind = true)
    (deletes : kind = .deprovision ∨ kind = .unbind) : kind = target.deletion := by
  unfold Store.inFlight at deleting
  split at deleting
  · rename_i pending busy
    obtain rfl := eq_of_beq deleting
    obtain creates | deletion := sound.fits busy
    · exfalso
      cases target <;> obtain same | same := deletes <;> exact nomatch creates.symm.trans same
    · exact deletion
  · exact nomatch deleting

end Effects

/-! ## Answers -/

section Answers

variable {settings : Settings} {random : String} {store : Store} {action : Action}

/-- An instance is found or not found. -/
theorem status_getInstance (i : String) (store : Store) :
    (getInstance i store).status = 200 ∨ (getInstance i store).status = 404 := by
  unfold getInstance
  split
  · exact .inr rfl
  · split
    · exact .inr rfl
    · exact .inl rfl

/-- A binding is found or not found. -/
theorem status_getBinding (i b : String) (store : Store) :
    (getBinding i b store).status = 200 ∨ (getBinding i b store).status = 404 := by
  unfold getBinding
  dsimp only
  split
  · exact .inr rfl
  · exact .inl rfl

/-- **Only a broker that makes changes later accepts them.** -/
theorem Action.mode_of_accepted
    (accepted : (action.perform settings random store).1.status = 202) :
    settings.mode ≠ .sync := by
  intro atOnce
  have effect := effect_perform settings random store action
  generalize (action.perform settings random store).2 = after at effect
  generalize performed : (action.perform settings random store).1 = answer at effect accepted
  generalize aimed : action.aim = aim at effect
  cases effect with
  | catalog | mismatched | counted | finished => exact nomatch accepted
  | declined refused => omega
  | repeated there complete => omega
  | made _ begins complete =>
    rw [complete] at accepted
    split at accepted <;> exact nomatch accepted
  | accepted later => exact nomatch later.symm.trans atOnce
  | idle => split at accepted <;> exact nomatch accepted
  | read =>
    -- The effect leaves open how a reading fails, so the two readings are looked at.
    cases action with
    | getInstance i =>
      obtain found | notFound : answer.status = 200 ∨ answer.status = 404 :=
        performed ▸ status_getInstance i store
      · omega
      · omega
    | getBinding i b =>
      obtain found | notFound : answer.status = 200 ∨ answer.status = 404 :=
        performed ▸ status_getBinding i b store
      · omega
      · omega
    | catalog | provision | deprovision | bind | unbind | lastOperation => exact nomatch aimed

/-- **Only a question is answered with a state.** -/
theorem Action.exists_question {state : String}
    (reports : (action.perform settings random store).1.text? "state" = some state) :
    ∃ target token, action.aim = .question target token := by
  -- The handlers of everything else are gone through: no body that they write has a state.
  suffices silent : (action.perform settings random store).1.text? "state" = none ∨
      ∃ target token, action.aim = .question target token by
    exact silent.resolve_left fun none => Option.some_ne_none state (reports.symm.trans none)
  cases action with
  | lastOperation target token => exact .inr ⟨target, token, rfl⟩
  | catalog => exact .inl rfl
  | getInstance i =>
    refine .inl ?_
    show (Mock.getInstance i store).text? "state" = none
    unfold Mock.getInstance
    repeat' split
    all_goals rfl
  | getBinding i b =>
    refine .inl ?_
    show (Mock.getBinding i b store).text? "state" = none
    unfold Mock.getBinding
    dsimp only
    split <;> rfl
  | provision i query body =>
    refine .inl ?_
    show (Mock.provision settings random i query body store).1.text? "state" = none
    unfold Mock.provision accept Answer.accepted
    repeat' split
    all_goals rfl
  | deprovision i query =>
    refine .inl ?_
    show (Mock.deprovision settings random i query store).1.text? "state" = none
    unfold Mock.deprovision accept Answer.accepted
    repeat' split
    all_goals rfl
  | bind i b query body =>
    refine .inl ?_
    show (Mock.bind settings random i b query body store).1.text? "state" = none
    unfold Mock.bind accept Answer.accepted
    repeat' split
    all_goals rfl
  | unbind i b query =>
    refine .inl ?_
    show (Mock.unbind settings random i b query store).1.text? "state" = none
    unfold Mock.unbind accept Answer.accepted
    repeat' split
    all_goals rfl

end Answers

/-! ## Every store that can be reached -/

namespace Settings

variable (settings : Settings)

theorem isConsistent_next (turn : Turn) (store : Store)
    (consistent : store.IsConsistent settings) :
    (settings.next turn store).IsConsistent settings := by
  obtain ⟨deed, -, -, -, effect⟩ | ⟨-, -, same⟩ := settings.turn_cases turn store
  · exact effect.isConsistent consistent
  · rwa [same]

/-- The empty store is consistent. -/
theorem isConsistent_empty : ({} : Store).IsConsistent settings where
  toIsSound := settings.isSound_after []
  rooted := nofun
  backed := nofun
  named := nofun
  bounded := nofun

/-- **Every store that a broker can reach is consistent.** -/
theorem isConsistent_after (history : List Turn) :
    (settings.after history {}).IsConsistent settings :=
  settings.after_induction settings.isConsistent_next history settings.isConsistent_empty

/-- **A broker that makes changes at once** never answers with an acceptance or with the
state of an operation in progress. -/
theorem no_progress_of_sync {store : Store} (sound : store.IsSound settings)
    (atOnce : settings.mode = .sync) (turn : Turn) :
    settings.status turn store ≠ 202 ∧ ∀ deed, settings.deed? turn store = some deed →
      deed.answer.text? "state" ≠ some "in progress" := by
  unfold status deed? serve
  cases understand settings turn.request with
  | error refusal =>
    refine ⟨?_, nofun⟩
    dsimp only
    split <;> exact refusal.status_ne
  | ok action =>
    refine ⟨?_, fun deed done reports => ?_⟩
    · have notAccepted : (action.perform settings turn.random store).1.status ≠ 202 :=
        fun accepted => action.mode_of_accepted accepted atOnce
      dsimp only
      split <;> exact notAccepted
    · obtain rfl := Option.some.inj done
      obtain ⟨target, token, asks⟩ := action.exists_question reports
      have effect := effect_perform settings turn.random store action
      rw [asks] at effect
      exact effect.no_progress (sound.idle atOnce target) reports

end Settings

/-- **What is in order in every store that a broker can reach.** The store is consistent: its
bindings have their instances, and what is in flight is in order. So an instance that is created
has no bindings yet, and a deletion of either kind that is reported to have succeeded has
taken its target away. If changes are made at once, nothing is ever in flight, and no
answer is an acceptance or reports progress. -/
theorem consistent_after (settings : Settings) (history : List Turn) :
    let store := settings.after history {}
    store.IsConsistent settings ∧
      (∀ turn deed i b, settings.deed? turn store = some deed →
        deed.Creates (.serviceInstance i) →
        (settings.next turn store).holds (.serviceBinding i b) = false) ∧
      (∀ turn deed target kind, settings.deed? turn store = some deed →
        kind = .deprovision ∨ kind = .unbind → store.inFlight target kind = true →
        deed.state? target = some "succeeded" → (settings.next turn store).holds target = false) ∧
      (settings.mode = .sync → ∀ turn, settings.status turn store ≠ 202 ∧
        ∀ deed, settings.deed? turn store = some deed →
          deed.answer.text? "state" ≠ some "in progress") := by
  intro store
  have consistent : store.IsConsistent settings := settings.isConsistent_after history
  refine ⟨consistent, fun turn deed i b done creates => ?_,
    fun turn deed target kind done deletes deleting reports => ?_,
    fun atOnce turn => settings.no_progress_of_sync consistent.toIsSound atOnce turn⟩
  · exact (Settings.effect_of_deed done).holds_binding_of_creates consistent.rooted creates b
  · obtain rfl := consistent.toIsSound.eq_deletion deleting deletes
    exact (Settings.effect_of_deed done).holds_of_deleted deleting reports

end ServiceBroker.Mock
