import Mathlib.Data.Set.Basic
import ServiceBroker.Proofs.History

/-!
# Clients of different instances

All clients of a broker share its three tables. A client should not notice that there are
others, as long as each keeps to instances of its own: what it is answered, and what becomes
of its instances, should depend on its own requests and on nothing else.

A request is about the instance that its path names (`Mock.Request.instanceId?`), or about
none. The part of a store that belongs to some instances is `Mock.Store.restrict`. Two
facts about a single request make clients independent. A request about one of the instances
sees nothing but this part of the store, and works on it as on the whole
(`Mock.serve_restrict`). A request about another instance leaves this part alone
(`Mock.Effect.restrict_eq`). Over a history that many clients share, the part of each client
then goes the way it goes without the others (`Mock.disjoint_clients_independent`).
-/

namespace ServiceBroker

/-! ## The instance that a request is about -/

/-- The instance of an endpoint, still encoded. -/
def Endpoint.instanceId? : Endpoint → Option String
  | .catalog => none
  | .serviceInstance i | .instanceLastOperation i | .serviceBinding i _
  | .bindingLastOperation i _ => some i

namespace Mock

/-- What an action is about, unless it is the catalog. -/
def Aim.target? : Aim → Option Target
  | .catalog => none
  | .read target | .change target _ | .question target _ => some target

/-- The instance that an action is about. -/
def Action.instanceId? (action : Action) : Option String :=
  action.aim.target?.map Target.instanceId

/-- **The instance that a request is about**, if its path names one. -/
def Request.instanceId? (request : Request) : Option String :=
  (endpointOf? (splitTarget request.target).1).bind fun endpoint =>
    endpoint.instanceId?.bind fun raw => (instanceIdOf raw).toOption

/-- The action of a request on an endpoint is about the instance of the endpoint. -/
theorem instanceId?_of_actionAt {endpoint : Endpoint} {query : Query} {request : Request}
    {action : Action} (understood : actionAt endpoint query request = .ok action) :
    action.instanceId? = endpoint.instanceId?.bind fun raw => (instanceIdOf raw).toOption := by
  unfold actionAt at understood
  split at understood
  case h_1 =>
    obtain rfl := Except.ok.inj understood
    rfl
  case h_2 | h_4 | h_5 =>
    obtain ⟨i, read, understood⟩ := exists_of_bind_eq_ok understood
    obtain rfl := Except.ok.inj understood
    exact (congrArg Except.toOption read).symm
  case h_6 | h_8 | h_9 =>
    obtain ⟨i, read, understood⟩ := exists_of_bind_eq_ok understood
    obtain ⟨b, -, understood⟩ := exists_of_bind_eq_ok understood
    obtain rfl := Except.ok.inj understood
    exact (congrArg Except.toOption read).symm
  case h_3 =>
    obtain ⟨i, read, understood⟩ := exists_of_bind_eq_ok understood
    obtain ⟨body, -, understood⟩ := exists_of_bind_eq_ok understood
    obtain rfl := Except.ok.inj understood
    exact (congrArg Except.toOption read).symm
  case h_7 =>
    obtain ⟨i, read, understood⟩ := exists_of_bind_eq_ok understood
    obtain ⟨b, -, understood⟩ := exists_of_bind_eq_ok understood
    obtain ⟨body, -, understood⟩ := exists_of_bind_eq_ok understood
    obtain rfl := Except.ok.inj understood
    exact (congrArg Except.toOption read).symm
  case h_10 => exact nomatch understood

/-- **An understood request is about what its action is about.** -/
theorem instanceId?_of_understand {settings : Settings} {request : Request} {action : Action}
    (understood : understand settings request = .ok action) :
    action.instanceId? = request.instanceId? := by
  unfold understand at understood
  split at understood
  · exact nomatch understood
  · dsimp only at understood
    split at understood
    · exact nomatch understood
    · rename_i leads
      rw [instanceId?_of_actionAt understood, Request.instanceId?, leads, Option.bind_some]

/-! ## The part of a store -/

namespace Store

variable (store : Store) (ids : Set String) [DecidablePred (· ∈ ids)]

/-- **The part of a store that belongs to some instances.** -/
def restrict : Store where
  instances := store.instances.keep (· ∈ ids)
  bindings := store.bindings.keep (·.1 ∈ ids)
  operations := store.operations.keep (·.instanceId ∈ ids)

section Removing

variable (i b : String)

theorem restrict_removeInstance :
    (store.removeInstance i).restrict ids = (store.restrict ids).removeInstance i := by
  unfold removeInstance restrict Table.erase
  dsimp only
  rw [store.instances.keep_comm, store.bindings.keep_comm]

theorem restrict_removeBinding :
    (store.removeBinding i b).restrict ids = (store.restrict ids).removeBinding i b := by
  unfold removeBinding restrict Table.erase
  dsimp only
  rw [store.bindings.keep_comm]

end Removing

/-- An operation finishes in a part of the store as in all of it. -/
theorem restrict_finish (target : Target) (kind : ChangeKind) :
    (store.finish target kind).restrict ids = (store.restrict ids).finish target kind := by
  have erased : ({ store with operations := store.operations.erase target } : Store).restrict ids
      = { store.restrict ids with
          operations := (store.restrict ids).operations.erase target } := by
    unfold restrict Table.erase
    dsimp only
    rw [store.operations.keep_comm]
  unfold finish
  dsimp only
  rw [← erased]
  cases kind with
  | provision | bind => rfl
  | deprovision => cases target <;> exact restrict_removeInstance ..
  | unbind =>
    cases target with
    | serviceInstance i => rfl
    | serviceBinding i b => exact restrict_removeBinding ..

section Own

variable {store ids} {i : String} {target : Target}

theorem get?_instances_restrict (own : i ∈ ids) :
    (store.restrict ids).instances.get? i = store.instances.get? i :=
  (Table.get?_keep ..).trans (if_pos (decide_eq_true own))

theorem get?_bindings_restrict (own : i ∈ ids) (b : String) :
    (store.restrict ids).bindings.get? (i, b) = store.bindings.get? (i, b) :=
  (Table.get?_keep ..).trans (if_pos (decide_eq_true own))

theorem get?_operations_restrict (own : target.instanceId ∈ ids) :
    (store.restrict ids).operations.get? target = store.operations.get? target :=
  (Table.get?_keep ..).trans (if_pos (decide_eq_true own))

theorem holds_restrict (target : Target) (own : target.instanceId ∈ ids) :
    (store.restrict ids).holds target = store.holds target := by
  cases target with
  | serviceInstance i => exact congrArg Option.isSome (get?_instances_restrict own)
  | serviceBinding i b => exact congrArg Option.isSome (get?_bindings_restrict own b)

theorem inFlight_restrict (target : Target) (own : target.instanceId ∈ ids) (kind : ChangeKind) :
    (store.restrict ids).inFlight target kind = store.inFlight target kind := by
  unfold inFlight
  rw [get?_operations_restrict own]

/-- An own instance is stored in the part. -/
theorem restrict_insert_instance (own : i ∈ ids) (body : ProvisionBody) :
    ({ store with instances := store.instances.insert i body } : Store).restrict ids
      = { store.restrict ids with
          instances := (store.restrict ids).instances.insert i body } := by
  unfold restrict
  dsimp only
  rw [store.instances.keep_insert]
  exact decide_eq_true own

/-- A binding of an own instance is stored in the part. -/
theorem restrict_insert_binding (own : i ∈ ids) (b : String) (body : BindBody) :
    ({ store with bindings := store.bindings.insert (i, b) body } : Store).restrict ids
      = { store.restrict ids with
          bindings := (store.restrict ids).bindings.insert (i, b) body } := by
  unfold restrict
  dsimp only
  rw [store.bindings.keep_insert]
  exact decide_eq_true own

/-- An operation on an own target begins in the part. -/
theorem restrict_begin (own : target.instanceId ∈ ids) (kind : ChangeKind) (token : String)
    (polls : Nat) :
    (store.begin target kind token polls).restrict ids
      = (store.restrict ids).begin target kind token polls := by
  unfold begin restrict
  dsimp only
  rw [store.operations.keep_insert]
  exact decide_eq_true own

end Own

section Foreign

variable {store begun : Store} {ids} {target : Target} {kind : ChangeKind}

/-- A change on another instance is not made in the part. -/
theorem restrict_conclude_of_not (foreign : target.instanceId ∉ ids) :
    (store.conclude target kind).restrict ids = store.restrict ids := by
  have removed : (store.removeInstance target.instanceId).restrict ids = store.restrict ids := by
    unfold removeInstance restrict Table.erase
    dsimp only
    rw [Table.keep_keep_of_imp, Table.keep_keep_of_imp]
    · exact fun key own => decide_eq_true (ne_of_mem_of_not_mem (of_decide_eq_true own) foreign)
    · exact fun i own => decide_eq_true (ne_of_mem_of_not_mem (of_decide_eq_true own) foreign)
  cases kind with
  | provision | bind => rfl
  | deprovision => cases target <;> exact removed
  | unbind =>
    cases target with
    | serviceInstance i => rfl
    | serviceBinding i b =>
      show (store.removeBinding i b).restrict ids = store.restrict ids
      unfold removeBinding restrict Table.erase
      dsimp only
      rw [Table.keep_keep_of_imp]
      exact fun key own => decide_eq_true fun same =>
        ne_of_mem_of_not_mem (of_decide_eq_true own) foreign (congrArg Prod.fst same)

/-- An operation on another instance does not finish in the part. -/
theorem restrict_finish_of_not (foreign : target.instanceId ∉ ids) :
    (store.finish target kind).restrict ids = store.restrict ids := by
  have erased : (store.operations.erase target).keep (·.instanceId ∈ ids)
      = store.operations.keep (·.instanceId ∈ ids) :=
    Table.keep_keep_of_imp _ fun other own => decide_eq_true fun same =>
      ne_of_mem_of_not_mem (of_decide_eq_true own) foreign (congrArg Target.instanceId same)
  rw [finish_eq]
  calc ({ store.conclude target kind with operations := store.operations.erase target } :
        Store).restrict ids
      = { (store.conclude target kind).restrict ids with
          operations := (store.operations.erase target).keep (·.instanceId ∈ ids) } := rfl
    _ = store.restrict ids := by
      rw [restrict_conclude_of_not foreign, erased]
      rfl

/-- An operation on another instance does not begin in the part. -/
theorem restrict_begin_of_not (foreign : target.instanceId ∉ ids) (token : String)
    (polls : Nat) :
    (store.begin target kind token polls).restrict ids = store.restrict ids := by
  unfold begin restrict
  dsimp only
  rw [store.operations.keep_insert_of_not]
  exact decide_eq_false foreign

/-- A change on another instance begins without storing anything in the part. -/
theorem CanBegin.restrict_eq (begins : store.CanBegin target kind begun)
    (foreign : target.instanceId ∉ ids) : begun.restrict ids = store.restrict ids := by
  cases begins with
  | deprovision | unbind => rfl
  | provision body absent =>
    unfold restrict
    dsimp only
    rw [store.instances.keep_insert_of_not]
    exact decide_eq_false foreign
  | bind body there absent =>
    unfold restrict
    dsimp only
    rw [store.bindings.keep_insert_of_not]
    exact decide_eq_false foreign

end Foreign

end Store

/-! ## One request -/

section Request

variable {settings : Settings} {ids : Set String} [DecidablePred (· ∈ ids)]

/-- **What is done about another instance leaves the part alone.** -/
theorem Effect.restrict_eq {random : String} {store after : Store} {aim : Aim} {answer : Answer}
    (effect : Effect settings random store aim answer after)
    (foreign : ∀ target, aim.target? = some target → target.instanceId ∉ ids) :
    after.restrict ids = store.restrict ids := by
  cases effect with
  | catalog | read | declined | repeated | idle | mismatched => rfl
  | made atOnce begins =>
    rw [Store.restrict_conclude_of_not (foreign _ rfl), begins.restrict_eq (foreign _ rfl)]
  | accepted later begins =>
    rw [Store.restrict_begin_of_not (foreign _ rfl), begins.restrict_eq (foreign _ rfl)]
  | counted => exact Store.restrict_begin_of_not (foreign _ rfl) ..
  | finished => exact Store.restrict_finish_of_not (foreign _ rfl)

section Own

variable (settings) (random : String) {i : String} (b : String) (query : Query) (store : Store)

theorem accept_restrict (target : Target) (own : target.instanceId ∈ ids) (polls : Nat)
    (kind : ChangeKind) :
    accept settings random polls target kind (store.restrict ids)
      = Prod.map id (·.restrict ids) (accept settings random polls target kind store) :=
  congrArg (Prod.mk _) (Store.restrict_begin own ..).symm

theorem provision_restrict (own : i ∈ ids)
    (body : ProvisionBody) :
    provision settings random i query body (store.restrict ids)
      = Prod.map id (·.restrict ids) (provision settings random i query body store) := by
  unfold provision
  rw [Store.get?_instances_restrict own]
  cases store.instances.get? i with
  | some existing => rfl
  | none =>
    dsimp only
    rw [← Store.restrict_insert_instance own]
    cases settings.mode with
    | sync => rfl
    | async polls =>
      cases query.acceptsIncomplete with
      | false => rfl
      | true => exact accept_restrict _ _ _ (.serviceInstance i) own ..

theorem getInstance_restrict (own : i ∈ ids) :
    getInstance i (store.restrict ids) = getInstance i store := by
  unfold getInstance
  rw [Store.get?_instances_restrict own, Store.inFlight_restrict (.serviceInstance i) own]

theorem deprovision_restrict (own : i ∈ ids) :
    deprovision settings random i query (store.restrict ids)
      = Prod.map id (·.restrict ids) (deprovision settings random i query store) := by
  have seen : (store.restrict ids).instances.contains i = store.instances.contains i :=
    Store.holds_restrict (.serviceInstance i) own
  unfold deprovision
  rw [seen]
  cases query.hasCorrelation with
  | false => rfl
  | true =>
    cases store.instances.contains i with
    | false => rfl
    | true =>
      cases settings.mode with
      | sync => exact congrArg (Prod.mk _) (store.restrict_removeInstance ..).symm
      | async polls =>
        cases query.acceptsIncomplete with
        | false => rfl
        | true => exact accept_restrict _ _ _ (.serviceInstance i) own ..

variable {b}

theorem bind_restrict (own : i ∈ ids) (body : BindBody) :
    bind settings random i b query body (store.restrict ids)
      = Prod.map id (·.restrict ids) (bind settings random i b query body store) := by
  have seen : (store.restrict ids).instances.contains i = store.instances.contains i :=
    Store.holds_restrict (.serviceInstance i) own
  unfold bind
  rw [seen, Store.get?_bindings_restrict own]
  cases store.instances.contains i with
  | false => rfl
  | true =>
    cases store.bindings.get? (i, b) with
    | some existing => rfl
    | none =>
      dsimp only
      rw [← Store.restrict_insert_binding own]
      cases settings.mode with
      | sync => rfl
      | async polls =>
        cases query.acceptsIncomplete with
        | false => rfl
        | true => exact accept_restrict _ _ _ (.serviceBinding i b) own ..

theorem getBinding_restrict (own : i ∈ ids) :
    getBinding i b (store.restrict ids) = getBinding i b store := by
  unfold getBinding
  dsimp only
  rw [Store.holds_restrict _ own, Store.inFlight_restrict _ own]

theorem unbind_restrict (own : i ∈ ids) :
    unbind settings random i b query (store.restrict ids)
      = Prod.map id (·.restrict ids) (unbind settings random i b query store) := by
  have seen : (store.restrict ids).bindings.contains (i, b) = store.bindings.contains (i, b) :=
    Store.holds_restrict (.serviceBinding i b) own
  unfold unbind
  rw [seen]
  cases query.hasCorrelation with
  | false => rfl
  | true =>
    cases store.bindings.contains (i, b) with
    | false => rfl
    | true =>
      cases settings.mode with
      | sync => exact congrArg (Prod.mk _) (store.restrict_removeBinding ..).symm
      | async polls =>
        cases query.acceptsIncomplete with
        | false => rfl
        | true => exact accept_restrict _ _ _ (.serviceBinding i b) own ..

theorem poll_restrict {target : Target} (own : target.instanceId ∈ ids) (token : Option String) :
    (store.restrict ids).poll target token
      = Prod.map id (·.restrict ids) (store.poll target token) := by
  unfold Store.poll
  rw [Store.get?_operations_restrict own, Store.holds_restrict _ own]
  cases store.operations.get? target with
  | none => rfl
  | some pending =>
    dsimp only
    split
    · rfl
    · cases pending.remaining with
      | zero => exact congrArg (Prod.mk _) (store.restrict_finish ..).symm
      | succ remaining => exact congrArg (Prod.mk _) (Store.restrict_begin own ..).symm

/-- **An action on an own instance is performed on the part as on the whole.** -/
theorem perform_restrict {action : Action} (own : ∀ i, action.instanceId? = some i → i ∈ ids) :
    action.perform settings random (store.restrict ids)
      = Prod.map id (·.restrict ids) (action.perform settings random store) := by
  cases action with
  | catalog => rfl
  | provision i query body => exact provision_restrict _ _ _ _ (own i rfl) _
  | getInstance i => exact congrArg (·, store.restrict ids) (getInstance_restrict _ (own i rfl))
  | deprovision i query => exact deprovision_restrict _ _ _ _ (own i rfl)
  | bind i b query body => exact bind_restrict _ _ _ _ (own i rfl) _
  | getBinding i b => exact congrArg (·, store.restrict ids) (getBinding_restrict _ (own i rfl))
  | unbind i b query => exact unbind_restrict _ _ _ _ (own i rfl)
  | lastOperation target token => exact poll_restrict _ (own _ rfl) _

/-- **A request about an own instance is served on the part as on the whole.** -/
theorem serve_restrict {request : Request}
    (own : ∀ i, request.instanceId? = some i → i ∈ ids) :
    serve settings random request (store.restrict ids)
      = Prod.map id (·.restrict ids) (serve settings random request store) := by
  unfold serve
  cases understood : understand settings request with
  | error refusal =>
    dsimp only
    split <;> rfl
  | ok action =>
    dsimp only
    rw [perform_restrict _ _ _ (instanceId?_of_understand understood ▸ own)]
    split <;> rfl

end Own

end Request

/-! ## Histories -/

namespace Settings

variable (settings : Settings)

/-- **The response to a turn.** -/
def response (turn : Turn) (store : Store) : Http.Response :=
  (serve settings turn.random turn.request store).1

/-- **The responses over a shared history**, each with the client that gets it. -/
def replies {ι : Type} : List (ι × Turn) → Store → List (ι × Http.Response)
  | [], _ => []
  | (client, turn) :: rest, store =>
    (client, settings.response turn store) :: replies rest (settings.next turn store)

variable {ids : Set String} [DecidablePred (· ∈ ids)] {turn : Turn} {store other : Store}

/-- **A turn about another instance leaves the part alone.** -/
theorem restrict_next (foreign : ∀ i, turn.request.instanceId? = some i → i ∉ ids) :
    (settings.next turn store).restrict ids = store.restrict ids := by
  unfold next serve
  cases understood : understand settings turn.request with
  | error refusal => rfl
  | ok action =>
    refine (effect_perform settings turn.random store action).restrict_eq fun target about => ?_
    refine foreign _ ((instanceId?_of_understand understood).symm.trans ?_)
    exact congrArg (Option.map Target.instanceId) about

/-- **A turn about an own instance depends on the part alone**, and so does what becomes of
the part. -/
theorem turn_of_restrict_eq (own : ∀ i, turn.request.instanceId? = some i → i ∈ ids)
    (alike : store.restrict ids = other.restrict ids) :
    settings.response turn store = settings.response turn other ∧
      (settings.next turn store).restrict ids = (settings.next turn other).restrict ids := by
  have served := serve_restrict settings turn.random store own
  rw [alike, serve_restrict settings turn.random other own] at served
  exact ⟨(congrArg Prod.fst served).symm, (congrArg Prod.snd served).symm⟩

/-- **A client is not disturbed by others** that keep away from its instances. By induction on
the shared history, from any two stores with the same part: the client's own turn is the next
one of its own history, and any other turn is not in that history and leaves the part alone. -/
theorem undisturbed {ι : Type} [DecidableEq ι] {client : ι} {shared : List (ι × Turn)}
    (mine : ∀ entry ∈ shared, entry.1 = client →
      ∀ i, entry.2.request.instanceId? = some i → i ∈ ids)
    (foreign : ∀ entry ∈ shared, entry.1 ≠ client →
      ∀ i, entry.2.request.instanceId? = some i → i ∉ ids)
    (alike : store.restrict ids = other.restrict ids) :
    (settings.replies shared store).filter (·.1 = client)
        = settings.replies (shared.filter (·.1 = client)) other ∧
      (settings.after (shared.map Prod.snd) store).restrict ids
        = (settings.after ((shared.filter (·.1 = client)).map Prod.snd) other).restrict ids := by
  induction shared generalizing store other with
  | nil => exact ⟨rfl, alike⟩
  | cons entry rest ih =>
    obtain ⟨mine, mineRest⟩ := List.forall_mem_cons.mp mine
    obtain ⟨foreign, foreignRest⟩ := List.forall_mem_cons.mp foreign
    obtain ⟨who, turn⟩ := entry
    show ((who, settings.response turn store) ::
      settings.replies rest (settings.next turn store)).filter (·.1 = client) = _ ∧ _
    rw [List.filter_cons, List.filter_cons]
    by_cases same : who = client
    · have stays : decide (who = client) = true := decide_eq_true same
      obtain ⟨response, next⟩ := settings.turn_of_restrict_eq (mine same) alike
      obtain ⟨replies, part⟩ := ih mineRest foreignRest next
      rw [if_pos stays, if_pos stays, response, replies]
      exact ⟨rfl, part⟩
    · have leaves : ¬decide (who = client) = true := mt of_decide_eq_true same
      rw [if_neg leaves, if_neg leaves]
      exact ih mineRest foreignRest ((settings.restrict_next (foreign same)).trans alike)

end Settings

/-- **Clients of different instances do not notice one another.** Of a history that they share,
each client gets the responses that it gets to its own requests alone, and what becomes of its
instances, their bindings, and what is in flight on them is what becomes of them without the
others. The random parts of tokens come with the turns. -/
theorem disjoint_clients_independent {ι : Type} [DecidableEq ι] (settings : Settings)
    (ids : ι → Set String) [∀ client, DecidablePred (· ∈ ids client)]
    (disjoint : ∀ i one other, i ∈ ids one → i ∈ ids other → one = other)
    (shared : List (ι × Turn))
    (keeps : ∀ entry ∈ shared, ∀ i, entry.2.request.instanceId? = some i → i ∈ ids entry.1)
    (store : Store) (client : ι) :
    let own := shared.filter (·.1 = client)
    (settings.replies shared store).filter (·.1 = client) = settings.replies own store ∧
      (settings.after (shared.map Prod.snd) store).restrict (ids client)
        = (settings.after (own.map Prod.snd) store).restrict (ids client) := by
  refine settings.undisturbed (fun entry mem same i about => ?_)
    (fun entry mem differs i about => ?_) rfl
  · exact same ▸ keeps entry mem i about
  · exact fun mine => differs (disjoint i _ _ (keeps entry mem i about) mine)

/-- One client creates an instance while another creates and deletes its own; the deletion
finishes before the first client asks again. -/
theorem disjoint_clients_independent_pair :
    let settings : Settings := { mode := .async 0 }
    let shared : List (String × Turn) :=
      [("i", .put "1" "i"), ("j", .put "2" "j"), ("j", .delete "3" "j"),
        ("j", .get "j/last_operation"), ("i", .get "i/last_operation"), ("i", .get "i")]
    let own : List (String × Turn) :=
      [("i", .put "1" "i"), ("i", .get "i/last_operation"), ("i", .get "i")]
    (settings.replies shared {}).filter (·.1 = "i") = settings.replies own {} ∧
      (settings.after (shared.map Prod.snd) {}).restrict {i | i = "i"}
        = (settings.after (own.map Prod.snd) {}).restrict {i | i = "i"} := by
  intro settings shared own
  have disjoint : ∀ i one other : String, i ∈ {i | i = one} → i ∈ {i | i = other} → one = other :=
    fun i one other isOne isOther => isOne.symm.trans isOther
  have keeps : ∀ entry ∈ shared, entry.2.request.instanceId? = some entry.1 := by decide +kernel
  exact disjoint_clients_independent settings (fun client => {i | i = client}) disjoint shared
    (fun entry mem i about => Option.some.inj (about.symm.trans (keeps entry mem))) {} "i"

end Mock

end ServiceBroker
