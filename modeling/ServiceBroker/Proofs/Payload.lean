import ServiceBroker.Proofs.Comparison
import ServiceBroker.Proofs.SentBodies
import ServiceBroker.Proofs.Written

/-!
# What a body carries

A creation is sent with a body. What the caller gave is a list of fields, some of which are left
open (`ProvisionRequest.fields`, `BindRequest.fields`), and the body is the object of those that
are given, in their order: no key besides, and no `null` in place of an open field
(`Json.Shows`). Read as JSON it is this object again, and read by the broker it is what the broker
is to store.

So the broker can tell two requests apart by their bodies exactly if the caller gave something
else (`ProvisionRequest.Agrees`, `BindRequest.Agrees`). Only the order of the members in free-form
objects makes no difference to it, and the identifiers are in the path and in no body.
-/

namespace ServiceBroker

namespace Json

/-! ## Fields that are given -/

/-- **Fields of which some are open.** -/
abbrev OpenFields := List (String × Option Json)

/-- **The members that show the fields**: those that are given, in their order. -/
def present (fields : OpenFields) : Members :=
  fields.filterMap fun (name, value) => value.map fun v => (name, v)

/-- **An object of just the fields that are given.** -/
structure Shows (members : Members) (fields : OpenFields) : Prop where
  /-- Its keys are the names of the fields that are given. -/
  keys : members.map Prod.fst = (fields.filter (·.2.isSome)).map Prod.fst
  /-- Under every name is what was given, and nothing if it was left open. -/
  values : ∀ field ∈ fields, members.lookup field.1 = field.2
  /-- An open field is not written as `null`. -/
  notNull : ∀ member ∈ members, member.2 ≠ .null

/-- **A value that can be sent in a field**: a text shows it exactly, it fits into a body, and it
is not taken for an open field. -/
structure IsFieldValue (v : Json) : Prop where
  exact : v.IsExact
  within : v.nesting < maxDepth
  notNull : v ≠ .null

theorem IsFieldValue.string (s : String) : (Json.string s).IsFieldValue where
  exact := .string s
  within := Nat.zero_lt_succ _
  notNull := nofun

theorem IsFieldValue.of_some {v : Json} (sendable : v.IsFieldValue) :
    ∀ w ∈ some v, w.IsFieldValue := by
  rintro w ⟨⟩
  exact sendable

/-- A field that may be open can be sent if what is given can. -/
theorem IsFieldValue.of_map {α : Type} {toJson : α → Json} {value : Option α}
    (sendable : ∀ a ∈ value, (toJson a).IsFieldValue) :
    ∀ w ∈ value.map toJson, w.IsFieldValue := by
  intro w mem
  obtain ⟨a, given, rfl⟩ := Option.map_eq_some_iff.mp mem
  exact sendable a given

section Present

variable {name : String} {given : Option Json} {fields : OpenFields}

theorem present_cons :
    present ((name, given) :: fields) = member? name given ++ present fields := by
  cases given <;> rfl

/-- A member is a field that is given. -/
theorem mem_present {member : String × Json} :
    member ∈ present fields ↔ (member.1, some member.2) ∈ fields := by
  obtain ⟨key, v⟩ := member
  unfold present
  rw [List.mem_filterMap]
  constructor
  · rintro ⟨⟨name, given⟩, mem, shown⟩
    obtain ⟨w, rfl, same⟩ := Option.map_eq_some_iff.mp shown
    obtain ⟨rfl, rfl⟩ := Prod.mk.inj same
    exact mem
  · exact fun mem => ⟨_, mem, rfl⟩

/-- The keys are the names of the fields that are given. -/
theorem map_fst_present (fields : OpenFields) :
    (present fields).map Prod.fst = (fields.filter (·.2.isSome)).map Prod.fst := by
  induction fields with
  | nil => rfl
  | cons field fields ih =>
    obtain ⟨name, given⟩ := field
    rw [present_cons, List.map_append, ih]
    cases given <;> rfl

section Distinct

variable (distinct : (fields.map Prod.fst).Nodup)

include distinct

theorem nodup_present : ((present fields).map Prod.fst).Nodup := by
  rw [map_fst_present]
  exact (List.filter_sublist.map Prod.fst).nodup distinct

/-- **Under every name is what was given.** -/
theorem lookup_present (mem : (name, given) ∈ fields) : (present fields).lookup name = given := by
  refine Option.ext fun v => ?_
  rw [lookup_eq_some_iff_mem (nodup_present distinct), mem_present]
  constructor
  · intro there
    have found := (lookup_eq_some_iff_mem distinct).mpr there
    rw [(lookup_eq_some_iff_mem distinct).mpr mem] at found
    exact Option.some.inj found
  · rintro rfl
    exact mem

theorem shows_present (notNull : ∀ field ∈ fields, field.2 ≠ some .null) :
    Shows (present fields) fields where
  keys := map_fst_present fields
  values := fun _ mem => lookup_present distinct mem
  notNull := fun _ mem null => notNull _ (mem_present.mp mem) (congrArg some null)

/-- **An object of fields can be read**, and is of just the fields that are given. -/
theorem exists_shows (sendable : ∀ field ∈ fields, ∀ v ∈ field.2, v.IsFieldValue) :
    ∃ members, decode value (Json.object (present fields)).text = .ok (.object members) ∧
      Shows members fields := by
  have each {member : String × Json} (mem : member ∈ present fields) : member.2.IsFieldValue :=
    sendable _ (mem_present.mp mem) member.2 rfl
  have exact : (Json.object (present fields)).IsExact :=
    .object (nodup_present distinct) fun _ mem => (each mem).exact
  have within : (Json.object (present fields)).nesting ≤ maxDepth :=
    nesting_object_le_iff.mpr fun _ mem => Nat.le_of_lt_succ (each mem).within
  exact ⟨present fields, decode_text (reads_value exact within),
    shows_present distinct fun field mem null => (sendable field mem .null null).notNull rfl⟩

end Distinct

end Present

/-! ## Fields that agree -/

/-- **Optional values agree as what they are made of**, if each of them does. -/
theorem alikeOption_map_iff {α : Type} {toJson : α → Json}
    (faithful : ∀ a b, (toJson a).Alike (toJson b) ↔ a = b) (x y : Option α) :
    AlikeOption (x.map toJson) (y.map toJson) ↔ x = y := by
  cases x with
  | none =>
    cases y with
    | none => exact iff_of_true .none rfl
    | some b => exact iff_of_false nofun nofun
  | some a =>
    cases y with
    | none => exact iff_of_false nofun nofun
    | some b =>
      rw [Option.some_inj, ← faithful a b]
      exact ⟨fun alike => by cases alike; assumption, .some⟩

theorem alike_string_iff (s t : String) : (Json.string s).Alike (.string t) ↔ s = t :=
  ⟨fun alike => by cases alike; rfl, fun same => same ▸ .string s⟩

end Json

open Json (AlikeOption IsFieldValue OpenFields Shows alikeOption_map_iff alike_string_iff present)

/-! ## Creating an instance -/

namespace ProvisionRequest

/-- **What the caller gives** of an instance, besides its identifier. -/
def fields (request : ProvisionRequest) : OpenFields :=
  [("service_id", some (.string request.serviceId)),
    ("plan_id", some (.string request.planId)),
    ("organization_guid", some (.string request.organizationGuid)),
    ("space_guid", some (.string request.spaceGuid)),
    ("parameters", request.parameters.map .object),
    ("context", request.context.map .object)]

/-- **Requests with the same data**, but for the identifiers and the order of members. -/
structure Agrees (request other : ProvisionRequest) : Prop where
  serviceId : request.serviceId = other.serviceId
  planId : request.planId = other.planId
  organizationGuid : request.organizationGuid = other.organizationGuid
  spaceGuid : request.spaceGuid = other.spaceGuid
  parameters : AlikeOption (request.parameters.map .object) (other.parameters.map .object)
  context : AlikeOption (request.context.map .object) (other.context.map .object)

/-- The body is an object of the fields. -/
theorem body_eq_present (request : ProvisionRequest) :
    request.body = .object (present request.fields) := by
  rw [body_eq]
  unfold fields
  simp only [Json.present_cons]
  rw [show present [] = [] from rfl, List.append_nil]
  rfl

theorem nodup_fields (request : ProvisionRequest) : (request.fields.map Prod.fst).Nodup :=
  (by decide :
    ["service_id", "plan_id", "organization_guid", "space_guid", "parameters", "context"].Nodup)

theorem agrees_stored_iff {request other : ProvisionRequest} :
    request.stored.Agrees other.stored ↔ request.Agrees other :=
  ⟨fun ⟨service, plan, organization, space, parameters, context⟩ =>
      ⟨service, plan, Option.some.inj organization, Option.some.inj space, parameters, context⟩,
    fun ⟨service, plan, organization, space, parameters, context⟩ =>
      ⟨service, plan, congrArg some organization, congrArg some space, parameters, context⟩⟩

section Sent

variable {request other : ProvisionRequest}
  (sendable : ∀ members ∈ request.freeForm, (Json.object members).IsFieldValue)

include sendable

/-- **The body shows the fields.** -/
theorem exists_shows_body : ∃ members,
    Json.decode Json.value request.body.text = .ok (.object members) ∧
      Shows members request.fields := by
  rw [body_eq_present]
  refine Json.exists_shows request.nodup_fields ?_
  have text (s : String) := (IsFieldValue.string s).of_some
  unfold fields
  simp only [List.forall_mem_cons]
  exact ⟨text _, text _, text _, text _,
    .of_map fun _ mem => sendable _ (List.mem_append_left _ (Option.mem_toList.mpr mem)),
    .of_map fun _ mem => sendable _ (List.mem_append_right _ (Option.mem_toList.mpr mem)),
    nofun⟩

/-- **The broker reads what it is to store.** -/
theorem decode_stored :
    Json.decode Mock.ProvisionBody.record.read request.body.text = .ok request.stored :=
  decode_body (fun members mem => (sendable members mem).exact) fun members mem =>
    (sendable members mem).within

/-- **The broker tells bodies apart** that do not agree. -/
theorem same_stored_iff
    (sendable' : ∀ members ∈ other.freeForm, (Json.object members).IsFieldValue) :
    request.stored.same other.stored = true ↔ request.Agrees other :=
  (Mock.ProvisionBody.compares.same_iff (decode_stored sendable) (decode_stored sendable')).trans
    agrees_stored_iff

end Sent

end ProvisionRequest

/-! ## Creating a binding -/

namespace BindResource

/-- **What the caller gives** of the resource that a binding is for. -/
def fields (resource : BindResource) : OpenFields :=
  [("app_guid", resource.appGuid.map .string), ("route", resource.route.map .string)]

theorem toJson_eq_present (resource : BindResource) :
    resource.toJson = .object (present resource.fields) := by
  unfold toJson fields
  simp only [Json.present_cons]
  rw [show present [] = [] from rfl, List.append_nil]

theorem nodup_fields (resource : BindResource) : (resource.fields.map Prod.fst).Nodup :=
  (by decide : ["app_guid", "route"].Nodup)

/-- The fields of a resource hold texts. -/
theorem exists_string_of_mem {resource : BindResource} {name : String} {v : Json}
    (mem : (name, some v) ∈ resource.fields) : ∃ s, v = .string s := by
  have text {value : Option String} (given : some v = value.map Json.string) :
      ∃ s, v = .string s := by
    obtain ⟨s, -, rfl⟩ := Option.map_eq_some_iff.mp given.symm
    exact ⟨s, rfl⟩
  unfold fields at mem
  simp only [List.mem_cons, Prod.mk.injEq, List.not_mem_nil, or_false] at mem
  obtain ⟨-, given⟩ | ⟨-, given⟩ := mem
  · exact text given
  · exact text given

/-- **A resource shows its fields.** -/
theorem exists_toJson_eq (resource : BindResource) :
    ∃ members, resource.toJson = .object members ∧ Shows members resource.fields := by
  refine ⟨_, resource.toJson_eq_present, Json.shows_present resource.nodup_fields ?_⟩
  rintro ⟨name, _⟩ mem rfl
  obtain ⟨s, null⟩ := exists_string_of_mem mem
  exact nomatch null

/-- A resource can be sent. -/
theorem isFieldValue_toJson (resource : BindResource) : resource.toJson.IsFieldValue := by
  have text {member : String × Json} (mem : member ∈ present resource.fields) :
      ∃ s, member.2 = .string s := exists_string_of_mem (Json.mem_present.mp mem)
  rw [toJson_eq_present]
  refine ⟨.object (Json.nodup_present resource.nodup_fields) fun _ mem => ?_, ?_, nofun⟩
  · obtain ⟨s, eq⟩ := text mem
    rw [eq]
    exact .string s
  · have flat : (Json.object (present resource.fields)).nesting ≤ 1 :=
      Json.nesting_object_le_iff.mpr fun _ mem => by
        obtain ⟨s, eq⟩ := text mem
        rw [eq]
        exact Nat.le_refl 0
    exact Nat.lt_of_le_of_lt flat (by decide)

/-- **A resource is like no other.** -/
theorem alike_toJson_iff (resource other : BindResource) :
    resource.toJson.Alike other.toJson ↔ resource = other := by
  refine ⟨fun alike => ?_, fun same => same ▸ .refl _⟩
  rw [toJson_eq_present, toJson_eq_present, Json.alike_object_iff] at alike
  have app := alike "app_guid"
  have route := alike "route"
  rw [Json.lookup_present resource.nodup_fields (.head _),
    Json.lookup_present other.nodup_fields (.head _), alikeOption_map_iff alike_string_iff] at app
  rw [Json.lookup_present resource.nodup_fields (.tail _ (.head _)),
    Json.lookup_present other.nodup_fields (.tail _ (.head _)),
    alikeOption_map_iff alike_string_iff] at route
  obtain ⟨_, _⟩ := resource
  obtain ⟨_, _⟩ := other
  exact congr (congrArg BindResource.mk app) route

end BindResource

namespace BindRequest

/-- **What the caller gives** of a binding, besides the two identifiers. -/
def fields (request : BindRequest) : OpenFields :=
  [("service_id", some (.string request.serviceId)),
    ("plan_id", some (.string request.planId)),
    ("app_guid", request.appGuid.map .string),
    ("bind_resource", request.bindResource.map BindResource.toJson),
    ("parameters", request.parameters.map .object),
    ("context", request.context.map .object)]

/-- **Requests with the same data**, but for the identifiers and the order of members. -/
structure Agrees (request other : BindRequest) : Prop where
  serviceId : request.serviceId = other.serviceId
  planId : request.planId = other.planId
  appGuid : request.appGuid = other.appGuid
  bindResource : request.bindResource = other.bindResource
  parameters : AlikeOption (request.parameters.map .object) (other.parameters.map .object)
  context : AlikeOption (request.context.map .object) (other.context.map .object)

theorem body_eq_present (request : BindRequest) :
    request.body = .object (present request.fields) := by
  rw [body_eq]
  unfold fields
  simp only [Json.present_cons]
  rw [show present [] = [] from rfl, List.append_nil]
  rfl

theorem nodup_fields (request : BindRequest) : (request.fields.map Prod.fst).Nodup :=
  (by decide :
    ["service_id", "plan_id", "app_guid", "bind_resource", "parameters", "context"].Nodup)

/-- What is stored agrees as the requests do. -/
theorem agrees_stored_iff {request other : BindRequest} :
    request.stored.Agrees other.stored ↔ request.Agrees other := by
  have resource := alikeOption_map_iff BindResource.alike_toJson_iff request.bindResource
    other.bindResource
  exact ⟨fun ⟨service, plan, app, alike, parameters, context⟩ =>
      ⟨service, plan, app, resource.mp alike, parameters, context⟩,
    fun ⟨service, plan, app, same, parameters, context⟩ =>
      ⟨service, plan, app, resource.mpr same, parameters, context⟩⟩

section Sent

variable {request other : BindRequest}
  (sendable : ∀ members ∈ request.freeForm, (Json.object members).IsFieldValue)

include sendable

/-- **The body shows the fields.** -/
theorem exists_shows_body : ∃ members,
    Json.decode Json.value request.body.text = .ok (.object members) ∧
      Shows members request.fields := by
  rw [body_eq_present]
  refine Json.exists_shows request.nodup_fields ?_
  have text (s : String) := (IsFieldValue.string s).of_some
  unfold fields
  simp only [List.forall_mem_cons]
  exact ⟨text _, text _, .of_map fun s _ => .string s,
    .of_map fun resource _ => resource.isFieldValue_toJson,
    .of_map fun _ mem => sendable _ (List.mem_append_left _ (Option.mem_toList.mpr mem)),
    .of_map fun _ mem => sendable _ (List.mem_append_right _ (Option.mem_toList.mpr mem)),
    nofun⟩

/-- **The broker reads what it is to store.** -/
theorem decode_stored :
    Json.decode Mock.BindBody.record.read request.body.text = .ok request.stored :=
  decode_body (fun members mem => (sendable members mem).exact) fun members mem =>
    (sendable members mem).within

/-- **The broker tells bodies apart** that do not agree. -/
theorem same_stored_iff
    (sendable' : ∀ members ∈ other.freeForm, (Json.object members).IsFieldValue) :
    request.stored.same other.stored = true ↔ request.Agrees other :=
  (Mock.BindBody.compares.same_iff (decode_stored sendable) (decode_stored sendable')).trans
    agrees_stored_iff

end Sent

end BindRequest

/-! ## The result -/

/-- **Bodies carry the data of the caller, and nothing else.** Let the free-form objects of a
request hold no double, no key twice, and no more containers than fit into a body. Then the
request to create an instance or a binding has a body, and this can be read in two ways. As JSON
it is an object whose keys are the names of the fields that the caller gave, with the very values
that were given, free-form objects down to the order of their members. No open field is there as
`null`, neither in the body nor in the resource that a binding is for. And the broker reads from
it what it is to store, each field as it was given and each open one open.

So the broker finds two bodies to be the same if the requests differ in the identifiers and in the
order of members of free-form objects at most, and only then. -/
theorem bodies_carry_the_data (broker : Broker) :
    (∀ request : ProvisionRequest,
      (∀ members ∈ request.freeForm, (Json.object members).IsFieldValue) →
      ∃ text members, (broker.request .provision request).body = some text ∧
        Json.decode Json.value text = .ok (.object members) ∧ Shows members request.fields ∧
        Json.decode Mock.ProvisionBody.record.read text = .ok request.stored) ∧
    (∀ request : BindRequest,
      (∀ members ∈ request.freeForm, (Json.object members).IsFieldValue) →
      ∃ text members, (broker.request .bind request).body = some text ∧
        Json.decode Json.value text = .ok (.object members) ∧ Shows members request.fields ∧
        Json.decode Mock.BindBody.record.read text = .ok request.stored) ∧
    (∀ resource : BindResource,
      ∃ members, resource.toJson = .object members ∧ Shows members resource.fields) ∧
    (∀ request other : ProvisionRequest,
      (∀ members ∈ request.freeForm ++ other.freeForm, (Json.object members).IsFieldValue) →
      (request.stored.same other.stored = true ↔ request.Agrees other)) ∧
    (∀ request other : BindRequest,
      (∀ members ∈ request.freeForm ++ other.freeForm, (Json.object members).IsFieldValue) →
      (request.stored.same other.stored = true ↔ request.Agrees other)) := by
  refine ⟨fun request sendable => ?_, fun request sendable => ?_, BindResource.exists_toJson_eq,
    fun request other sendable => ?_, fun request other sendable => ?_⟩
  · obtain ⟨members, read, shows⟩ := ProvisionRequest.exists_shows_body sendable
    exact ⟨request.body.text, members, rfl, read, shows, ProvisionRequest.decode_stored sendable⟩
  · obtain ⟨members, read, shows⟩ := BindRequest.exists_shows_body sendable
    exact ⟨request.body.text, members, rfl, read, shows, BindRequest.decode_stored sendable⟩
  · obtain ⟨left, right⟩ := List.forall_mem_append.mp sendable
    exact ProvisionRequest.same_stored_iff left right
  · obtain ⟨left, right⟩ := List.forall_mem_append.mp sendable
    exact BindRequest.same_stored_iff left right

/-- A binding is asked for with two parameters, one of them nested, and for a resource of which
nothing is said. Under other identifiers and with its parameters turned around, the body is the
same to the broker. Without the resource it is another. -/
theorem bodies_carry_the_data_turned :
    let nested : Json :=
      .array [.object [("z", .null)], .number (.whole ⟨-1, by decide, by decide⟩)]
    let request : BindRequest :=
      { instanceId := "i", bindingId := "b", serviceId := "\"s\n", planId := "",
        bindResource := some {}, parameters := some [("x", nested), ("y", .bool true)] }
    let turned : BindRequest :=
      { request with
        instanceId := "j", bindingId := "c", parameters := some [("y", .bool true), ("x", nested)] }
    let bare : BindRequest := { request with bindResource := none }
    (∃ text members, (Broker.request (.make "http://b/" "u" "p") .bind request).body = some text ∧
        Json.decode Json.value text = .ok (.object members) ∧ Shows members request.fields ∧
        Json.decode Mock.BindBody.record.read text = .ok request.stored) ∧
      request.stored.same turned.stored = true ∧ request.stored.same bare.stored = false := by
  intro nested request turned bare
  obtain ⟨-, carries, -, -, apart⟩ := bodies_carry_the_data (.make "http://b/" "u" "p")
  have exactNested : nested.IsExact := .array <| List.forall_mem_cons.mpr
    ⟨.object_singleton .null, List.forall_mem_singleton.mpr (.whole _)⟩
  have sendable : (Json.object [("x", nested), ("y", .bool true)]).IsFieldValue :=
    ⟨.object (by decide) (List.forall_mem_cons.mpr
      ⟨exactNested, List.forall_mem_singleton.mpr (.bool true)⟩), by decide, nofun⟩
  have sendable' : (Json.object [("y", .bool true), ("x", nested)]).IsFieldValue :=
    ⟨.object (by decide) (List.forall_mem_cons.mpr
      ⟨.bool true, List.forall_mem_singleton.mpr exactNested⟩), by decide, nofun⟩
  have alike : (Json.object [("x", nested), ("y", .bool true)]).Alike
      (.object [("y", .bool true), ("x", nested)]) :=
    (Json.same_iff_alike sendable.exact.distinct sendable'.exact.distinct).mp (by decide)
  refine ⟨carries request (List.forall_mem_singleton.mpr sendable),
    (apart request turned ?_).mpr ⟨rfl, rfl, rfl, rfl, .some alike, .none⟩,
    Bool.eq_false_iff.mpr fun same => ?_⟩
  · exact List.forall_mem_cons.mpr ⟨sendable, List.forall_mem_singleton.mpr sendable'⟩
  · have agrees := (apart request bare (List.forall_mem_cons.mpr
      ⟨sendable, List.forall_mem_singleton.mpr sendable⟩)).mp same
    exact nomatch agrees.bindResource

end ServiceBroker
