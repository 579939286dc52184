import ServiceBroker.Mock.Action

/-!
# What an action does to the store

What an action does depends little on its details. It reads, asks for a change, or asks
after the last operation on a target; this is its `Mock.Aim`, and for each aim this module
says once what may be answered and what store is left (`Mock.Effect`). Performing an action
has one of these effects (`Mock.effect_perform`). What is kept or lost over a sequence of
requests is then a question about the effects, and the handlers are not looked at again.

A change that is not declined begins in a store that holds its target
(`Mock.Store.CanBegin`): a creation has stored it, and a deletion has not removed it yet.
The change is made there at once, or accepted there. Only a deletion takes anything away,
and with an instance go all its bindings (`Mock.Store.holds_conclude`).
-/

namespace ServiceBroker.Mock

/-! ## What an action is about -/

namespace Target

/-- The instance that a target is, or belongs to. -/
def instanceId : Target → String
  | .serviceInstance i | .serviceBinding i _ => i

/-- The kind of change that creates a target. -/
def creation : Target → ChangeKind
  | .serviceInstance _ => .provision
  | .serviceBinding _ _ => .bind

/-- The kind of change that deletes a target. -/
def deletion : Target → ChangeKind
  | .serviceInstance _ => .deprovision
  | .serviceBinding _ _ => .unbind

theorem deletion_ne_creation (target : Target) : target.deletion ≠ target.creation := by
  cases target <;> exact nofun

/-- **Whether a target goes with another** when that one is deleted: it is the same, or a
binding of the instance. -/
def GoesWith (target deleted : Target) : Prop :=
  target = deleted ∨ deleted = .serviceInstance target.instanceId

instance (target deleted : Target) : Decidable (target.GoesWith deleted) :=
  inferInstanceAs (Decidable (_ ∨ _))

/-- What goes with another target is one of its bindings. -/
theorem GoesWith.exists_binding {target deleted : Target} (goes : target.GoesWith deleted)
    (differs : target ≠ deleted) :
    ∃ i b, target = .serviceBinding i b ∧ deleted = .serviceInstance i := by
  obtain same | rfl := goes
  · exact absurd same differs
  · cases target with
    | serviceInstance i => exact absurd rfl differs
    | serviceBinding i b => exact ⟨i, b, rfl, rfl⟩

end Target

/-- **What an action is about.** -/
inductive Aim where
  | catalog
  /-- To read a target. -/
  | read (target : Target)
  /-- To have a change made on a target. -/
  | change (target : Target) (kind : ChangeKind)
  /-- To ask after the last operation on a target, with a token if one is named. -/
  | question (target : Target) (token : Option String)
deriving DecidableEq, Repr

/-- **The aim of an action.** -/
def Action.aim : Action → Aim
  | .catalog => .catalog
  | .provision i _ _ => .change (.serviceInstance i) .provision
  | .getInstance i => .read (.serviceInstance i)
  | .deprovision i _ => .change (.serviceInstance i) .deprovision
  | .bind i b _ _ => .change (.serviceBinding i b) .bind
  | .getBinding i b => .read (.serviceBinding i b)
  | .unbind i b _ => .change (.serviceBinding i b) .unbind
  | .lastOperation target token => .question target token

/-! ## Stores -/

namespace Store

/-- **Whether an operation is in flight on a target.** -/
def isBusy (store : Store) (target : Target) : Bool := store.operations.contains target

@[simp] theorem holds_operations (store : Store) (operations : Table Target Pending)
    (target : Target) : { store with operations }.holds target = store.holds target := by
  cases target <;> rfl

/-- The store in which a change has been made, whatever is in flight. -/
def conclude (store : Store) (target : Target) (kind : ChangeKind) : Store :=
  { store.finish target kind with operations := store.operations }

theorem finish_eq (store : Store) (target : Target) (kind : ChangeKind) :
    store.finish target kind
      = { store.conclude target kind with operations := store.operations.erase target } := by
  cases kind <;> cases target <;> rfl

section Operation

variable (store : Store) (target other : Target) (kind : ChangeKind) (token : String)
  (polls : Nat)

@[simp] theorem get?_operations_begin :
    (store.begin target kind token polls).operations.get? other
      = if other = target then some { kind, token, remaining := polls }
        else store.operations.get? other :=
  Table.get?_insert ..

@[simp] theorem get?_operations_finish :
    (store.finish target kind).operations.get? other
      = if other = target then none else store.operations.get? other := by
  rw [finish_eq]
  exact Table.get?_erase ..

theorem isBusy_begin : (store.begin target kind token polls).isBusy other
    = (decide (other = target) || store.isBusy other) :=
  Table.contains_insert ..

theorem isBusy_finish : (store.finish target kind).isBusy other
    = (!decide (other = target) && store.isBusy other) := by
  rw [finish_eq]
  exact Table.contains_erase ..

@[simp] theorem holds_begin :
    (store.begin target kind token polls).holds other = store.holds other :=
  store.holds_operations _ other

theorem holds_finish :
    (store.finish target kind).holds other = (store.conclude target kind).holds other := by
  rw [finish_eq, holds_operations]

end Operation

theorem conclude_creation (store : Store) (target : Target) :
    store.conclude target target.creation = store := by
  cases target <;> rfl

/-- **What a deletion leaves** is all that does not go with its target. -/
theorem holds_conclude_deletion (store : Store) (deleted target : Target) :
    (store.conclude deleted deleted.deletion).holds target
      = (store.holds target && !decide (target.GoesWith deleted)) := by
  rw [Bool.and_comm]
  cases deleted with
  | serviceInstance i =>
    cases target with
    | serviceInstance j =>
      show (store.instances.erase i).contains j = (_ && store.instances.contains j)
      simp [Target.GoesWith, Target.instanceId, eq_comm]
    | serviceBinding j b =>
      show (store.bindings.keep (·.1 ≠ i)).contains (j, b)
        = (_ && store.bindings.contains (j, b))
      simp [Target.GoesWith, Target.instanceId, eq_comm]
  | serviceBinding i b =>
    cases target with
    | serviceInstance j =>
      show store.instances.contains j = (_ && store.instances.contains j)
      simp [Target.GoesWith]
    | serviceBinding j c =>
      show (store.bindings.erase (i, b)).contains (j, c)
        = (_ && store.bindings.contains (j, c))
      simp [Target.GoesWith]

/-- **A change takes away what goes with the target of a deletion**, and nothing else. -/
theorem holds_conclude {store : Store} {target : Target} {kind : ChangeKind}
    (fits : kind = target.creation ∨ kind = target.deletion) (other : Target) :
    (store.conclude target kind).holds other
      = (store.holds other && !decide (kind = target.deletion ∧ other.GoesWith target)) := by
  obtain rfl | rfl := fits
  · have noDeletion : ¬(target.creation = target.deletion ∧ other.GoesWith target) :=
      fun both => target.deletion_ne_creation both.1.symm
    rw [conclude_creation, decide_eq_false noDeletion, Bool.not_false, Bool.and_true]
  · rw [holds_conclude_deletion]
    simp only [true_and]

/-- **A store in which a change can begin**: a creation needs a target that is not there,
which it stores, and a deletion one that is. A binding needs its instance, too. -/
inductive CanBegin (store : Store) : Target → ChangeKind → Store → Prop where
  /-- An instance is stored. -/
  | provision {i : String} (body : ProvisionBody)
      (absent : store.holds (.serviceInstance i) = false) :
      CanBegin store (.serviceInstance i) .provision
        { store with instances := store.instances.insert i body }
  /-- An instance is there to be deleted. -/
  | deprovision {i : String} (there : store.holds (.serviceInstance i) = true) :
      CanBegin store (.serviceInstance i) .deprovision store
  /-- A binding is stored. -/
  | bind {i b : String} (body : BindBody) (there : store.holds (.serviceInstance i) = true)
      (absent : store.holds (.serviceBinding i b) = false) :
      CanBegin store (.serviceBinding i b) .bind
        { store with bindings := store.bindings.insert (i, b) body }
  /-- A binding is there to be deleted. -/
  | unbind {i b : String} (there : store.holds (.serviceBinding i b) = true) :
      CanBegin store (.serviceBinding i b) .unbind store

namespace CanBegin

variable {store begun : Store} {target : Target} {kind : ChangeKind}

theorem fits (begins : store.CanBegin target kind begun) :
    kind = target.creation ∨ kind = target.deletion := by
  cases begins with
  | provision | bind => exact .inl rfl
  | deprovision | unbind => exact .inr rfl

theorem operations_eq (begins : store.CanBegin target kind begun) :
    begun.operations = store.operations := by
  cases begins <;> rfl

/-- **The target is held when the change begins**, and everything else is held as before. -/
theorem holds_eq (begins : store.CanBegin target kind begun) (other : Target) :
    begun.holds other = (decide (other = target) || store.holds other) := by
  cases begins with
  | @provision i body absent =>
    cases other with
    | serviceInstance j =>
      show (store.instances.insert i body).contains j = (_ || store.instances.contains j)
      simp
    | serviceBinding j b => rfl
  | @bind i b body there absent =>
    cases other with
    | serviceInstance j => rfl
    | serviceBinding j c =>
      show (store.bindings.insert (i, b) body).contains (j, c)
        = (_ || store.bindings.contains (j, c))
      simp
  | deprovision there | unbind there =>
    cases same : decide (other = _) with
    | false => exact (Bool.false_or _).symm
    | true => rw [of_decide_eq_true same, there, Bool.true_or]

/-- **A deletion begins where it is asked for**, on a target that is there. -/
theorem of_deletion (begins : store.CanBegin target target.deletion begun) :
    begun = store ∧ store.holds target = true := by
  generalize deleted : target.deletion = kind at begins
  cases begins with
  | provision | bind => exact nomatch deleted
  | deprovision there | unbind there => exact ⟨rfl, there⟩

end CanBegin

end Store

/-! ## Effects -/

/-- **What an action with an aim may answer, and what store it leaves.** -/
inductive Effect (settings : Settings) (random : String) (store : Store) :
    Aim → Answer → Store → Prop where
  /-- The catalog is always the same. -/
  | catalog : Effect settings random store .catalog { status := 200, body := catalogJson } store
  /-- A target is found if it is held and not just being created. -/
  | read {target : Target} {answer : Answer}
      (found : answer.status = 200 ↔
        store.holds target = true ∧ store.inFlight target target.creation = false) :
      Effect settings random store (.read target) answer store
  /-- There is something to be said against a change, or nothing to delete. -/
  | declined {target : Target} {kind : ChangeKind} {answer : Answer}
      (refused : 400 ≤ answer.status) :
      Effect settings random store (.change target kind) answer store
  /-- What is to be created is there already. -/
  | repeated {target : Target} {answer : Answer} (there : store.holds target = true)
      (complete : answer.status = 200) :
      Effect settings random store (.change target target.creation) answer store
  /-- A change is made at once. -/
  | made {target : Target} {kind : ChangeKind} {answer : Answer} {begun : Store}
      (atOnce : settings.mode = .sync) (begins : store.CanBegin target kind begun)
      (complete : answer.status = if kind = target.creation then 201 else 200) :
      Effect settings random store (.change target kind) answer (begun.conclude target kind)
  /-- A change is accepted, and its operation begins. -/
  | accepted {target : Target} {kind : ChangeKind} {begun : Store} {polls : Nat}
      (later : settings.mode = .async polls) (begins : store.CanBegin target kind begun) :
      Effect settings random store (.change target kind)
        (.accepted settings (kind.name ++ "-" ++ random))
        (begun.begin target kind (kind.name ++ "-" ++ random) polls)
  /-- A question finds nothing in flight. -/
  | idle {target : Target} {token : Option String}
      (free : store.operations.get? target = none) :
      Effect settings random store (.question target token)
        (if store.holds target then .succeeded else .gone) store
  /-- A question names a token that is not the one of the operation in flight. -/
  | mismatched {target : Target} {token : String} {pending : Pending}
      (busy : store.operations.get? target = some pending) (wrong : token ≠ pending.token) :
      Effect settings random store (.question target (some token))
        (.error 400 "UnknownOperation" "operation token does not match") store
  /-- A question finds an operation in progress, and counts it down. -/
  | counted {target : Target} {token : Option String} {pending : Pending} {remaining : Nat}
      (busy : store.operations.get? target = some pending)
      (right : token = none ∨ token = some pending.token)
      (remains : pending.remaining = remaining + 1) :
      Effect settings random store (.question target token) (.inProgress pending.kind)
        (store.begin target pending.kind pending.token remaining)
  /-- A question finds that an operation has run its course, and finishes it. -/
  | finished {target : Target} {token : Option String} {pending : Pending}
      (busy : store.operations.get? target = some pending)
      (right : token = none ∨ token = some pending.token) (done : pending.remaining = 0) :
      Effect settings random store (.question target token) .succeeded
        (store.finish target pending.kind)

section Perform

variable (settings : Settings) (random i b : String) (query : Query) (store : Store)

theorem effect_provision (body : ProvisionBody) :
    Effect settings random store (.change (.serviceInstance i) .provision)
      (provision settings random i query body store).1
      (provision settings random i query body store).2 := by
  unfold provision
  cases exists? : store.instances.get? i with
  | some existing =>
    dsimp only
    cases existing.same body with
    | true => exact .repeated (congrArg Option.isSome exists?) rfl
    | false => exact .declined (show 400 ≤ 409 by decide)
  | none =>
    have absent : store.holds (.serviceInstance i) = false := congrArg Option.isSome exists?
    cases mode : settings.mode with
    | sync => exact .made mode (.provision body absent) rfl
    | async polls =>
      cases query.acceptsIncomplete with
      | false => exact .declined (show 400 ≤ 422 by decide)
      | true => exact .accepted mode (.provision body absent)

theorem effect_getInstance :
    Effect settings random store (.read (.serviceInstance i)) (getInstance i store) store := by
  refine .read ?_
  show _ ↔ (store.instances.get? i).isSome = true ∧
    store.inFlight (.serviceInstance i) .provision = false
  unfold getInstance
  cases exists? : store.instances.get? i with
  | none => exact iff_of_false nofun nofun
  | some body =>
    cases store.inFlight (.serviceInstance i) .provision with
    | true => exact iff_of_false nofun nofun
    | false => exact iff_of_true rfl ⟨rfl, rfl⟩

theorem effect_deprovision :
    Effect settings random store (.change (.serviceInstance i) .deprovision)
      (deprovision settings random i query store).1
      (deprovision settings random i query store).2 := by
  unfold deprovision
  cases query.hasCorrelation with
  | false => exact .declined (show 400 ≤ 400 by decide)
  | true =>
    cases there : store.instances.contains i with
    | false => exact .declined (show 400 ≤ 410 by decide)
    | true =>
      cases mode : settings.mode with
      | sync => exact .made mode (.deprovision there) rfl
      | async polls =>
        cases query.acceptsIncomplete with
        | false => exact .declined (show 400 ≤ 422 by decide)
        | true => exact .accepted mode (.deprovision there)

theorem effect_bind (body : BindBody) :
    Effect settings random store (.change (.serviceBinding i b) .bind)
      (bind settings random i b query body store).1
      (bind settings random i b query body store).2 := by
  unfold bind
  cases there : store.instances.contains i with
  | false => exact .declined (show 400 ≤ 404 by decide)
  | true =>
    cases exists? : store.bindings.get? (i, b) with
    | some existing =>
      dsimp only
      cases existing.same body with
      | true => exact .repeated (congrArg Option.isSome exists?) rfl
      | false => exact .declined (show 400 ≤ 409 by decide)
    | none =>
      have absent : store.holds (.serviceBinding i b) = false := congrArg Option.isSome exists?
      cases mode : settings.mode with
      | sync => exact .made mode (.bind body there absent) rfl
      | async polls =>
        cases query.acceptsIncomplete with
        | false => exact .declined (show 400 ≤ 422 by decide)
        | true => exact .accepted mode (.bind body there absent)

theorem effect_getBinding :
    Effect settings random store (.read (.serviceBinding i b)) (getBinding i b store) store := by
  refine .read ?_
  show _ ↔ store.holds (.serviceBinding i b) = true ∧
    store.inFlight (.serviceBinding i b) .bind = false
  unfold getBinding
  dsimp only
  cases store.holds (.serviceBinding i b) with
  | false => exact iff_of_false nofun nofun
  | true =>
    cases store.inFlight (.serviceBinding i b) .bind with
    | true => exact iff_of_false nofun nofun
    | false => exact iff_of_true rfl ⟨rfl, rfl⟩

theorem effect_unbind :
    Effect settings random store (.change (.serviceBinding i b) .unbind)
      (unbind settings random i b query store).1
      (unbind settings random i b query store).2 := by
  unfold unbind
  cases query.hasCorrelation with
  | false => exact .declined (show 400 ≤ 400 by decide)
  | true =>
    cases there : store.bindings.contains (i, b) with
    | false => exact .declined (show 400 ≤ 410 by decide)
    | true =>
      cases mode : settings.mode with
      | sync => exact .made mode (.unbind there) rfl
      | async polls =>
        cases query.acceptsIncomplete with
        | false => exact .declined (show 400 ≤ 422 by decide)
        | true => exact .accepted mode (.unbind there)

theorem effect_poll (target : Target) (token : Option String) :
    Effect settings random store (.question target token)
      (store.poll target token).1 (store.poll target token).2 := by
  unfold Store.poll
  cases busy : store.operations.get? target with
  | none => exact .idle busy
  | some pending =>
    dsimp only
    split
    · rename_i wrong
      obtain ⟨token, rfl⟩ := Option.isSome_iff_exists.mp wrong.1
      exact .mismatched busy fun same => wrong.2 (congrArg some same)
    · rename_i notWrong
      have right : token = none ∨ token = some pending.token := by
        cases token with
        | none => exact .inl rfl
        | some token => exact .inr (Decidable.not_not.mp fun wrong => notWrong ⟨rfl, wrong⟩)
      cases remains : pending.remaining with
      | succ remaining => exact .counted busy right remains
      | zero => exact .finished busy right remains

/-- **Performing an action has one of the effects.** -/
theorem effect_perform (action : Action) :
    Effect settings random store action.aim (action.perform settings random store).1
      (action.perform settings random store).2 := by
  cases action with
  | catalog => exact .catalog
  | provision i query body => exact effect_provision settings random i query store body
  | getInstance i => exact effect_getInstance settings random i store
  | deprovision i query => exact effect_deprovision settings random i query store
  | bind i b query body => exact effect_bind settings random i b query store body
  | getBinding i b => exact effect_getBinding settings random i b store
  | unbind i b query => exact effect_unbind settings random i b query store
  | lastOperation target token => exact effect_poll settings random store target token

end Perform

/-! ## What follows from an effect -/

/-- **An acceptance is answered where the operation begins**, and nowhere else. -/
theorem Effect.of_accepted {settings : Settings} {random : String} {store after : Store}
    {target : Target} {kind : ChangeKind} {answer : Answer}
    (effect : Effect settings random store (.change target kind) answer after)
    (accepted : answer.status = 202) :
    ∃ polls begun, settings.mode = .async polls ∧ store.CanBegin target kind begun ∧
      answer = .accepted settings (kind.name ++ "-" ++ random) ∧
      after = begun.begin target kind (kind.name ++ "-" ++ random) polls := by
  cases effect with
  | declined refused => omega
  | repeated there complete => omega
  | made atOnce begins complete => split at complete <;> omega
  | accepted later begins => exact ⟨_, _, later, begins, rfl, rfl⟩

/-- **Whatever is in flight after an effect** was in flight before, has just begun, or has
been counted down by one. -/
theorem Effect.pending_cases {settings : Settings} {random : String} {store after : Store}
    {aim : Aim} {answer : Answer} (effect : Effect settings random store aim answer after)
    {target : Target} {pending : Pending} (busy : after.operations.get? target = some pending) :
    store.operations.get? target = some pending ∨
      (∃ kind polls, settings.mode = .async polls ∧
        (kind = target.creation ∨ kind = target.deletion) ∧
        pending = { kind, token := kind.name ++ "-" ++ random, remaining := polls }) ∨
      store.operations.get? target
        = some { pending with remaining := pending.remaining + 1 } := by
  cases effect with
  | catalog | read | declined | repeated | idle | mismatched => exact .inl busy
  | made atOnce begins => exact .inl (begins.operations_eq ▸ busy)
  | accepted later begins =>
    rw [Store.get?_operations_begin] at busy
    split at busy
    · rename_i same
      exact .inr (.inl ⟨_, _, later, same ▸ begins.fits, (Option.some.inj busy).symm⟩)
    · exact .inl (begins.operations_eq ▸ busy)
  | counted found right remains =>
    rw [Store.get?_operations_begin] at busy
    split at busy
    · rename_i same
      obtain rfl := Option.some.inj busy
      refine .inr (.inr ?_)
      rw [same, found]
      dsimp only
      rw [← remains]
    · exact .inl busy
  | finished =>
    rw [Store.get?_operations_finish] at busy
    split at busy
    · cases busy
    · exact .inl busy

end ServiceBroker.Mock
