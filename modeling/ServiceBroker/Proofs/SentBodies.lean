import Mathlib.Data.String.Basic
import ServiceBroker.Call.Request
import ServiceBroker.Mock.Body
import ServiceBroker.Proofs.ValueReadBack

/-!
# The bodies that a client sends

A client sends a body with a creation, and the mock broker stores what it reads in it. The two
describe a body by records of their own: where the client has an object, the broker takes any
value, and a member that the client always writes may be missing for the broker. This module
says what is stored of a request (`ProvisionRequest.stored`, `BindRequest.stored`).

Only the free-form objects of a request can stand in the way. They are read as they are if they
hold no double, and the body is refused if one of them is nested as deep as a text allows, for
the body is one container more.

Nothing bounds a body, for a name in it may be of any length
(`ProvisionRequest.length_serviceId_lt`).
-/

namespace ServiceBroker

/-! ## Sizes -/

namespace Json

theorem one_le_length_escapeChar (c : Char) : 1 ≤ (escapeChar c).length := by
  unfold escapeChar
  split_ifs <;> exact Nat.succ_pos _

/-- A string is not shorter for being written. -/
theorem length_le_length_writeString (text : List Char) :
    text.length ≤ (writeString text).length := by
  have escaped : text.length ≤ (text.flatMap escapeChar).length := by
    induction text with
    | nil => exact Nat.le_refl 0
    | cons c text ih =>
      have first := one_le_length_escapeChar c
      rw [List.flatMap_cons, List.length_append, List.length_cons]
      omega
  unfold writeString
  rw [List.length_append, List.length_cons]
  omega

/-- Every character has a byte. -/
theorem length_le_utf8ByteSize_text (value : Json) :
    value.write.length ≤ value.text.utf8ByteSize := by
  unfold text
  rw [String.utf8ByteSize_ofList]
  induction value.write with
  | nil => exact Nat.le_refl 0
  | cons c rest ih =>
    have positive := c.utf8Size_pos
    rw [List.length_cons, String.utf8Len_cons]
    omega

end Json

/-! ## Optional members -/

namespace Json

namespace Fields

variable {τ δ : Type} {name : String} {tail : Fields τ δ} {depth : Nat} {t : τ} {members : Members}

/-- A member that may be missing is written if there is a value. -/
theorem Written.optional {α β : Type} {read : Reader α} {toJson : β → Json} {f : β → α}
    {value : Option β}
    (reads : ∀ b ∈ value, Reads (optionReader read depth) (toJson b).write (some (f b)))
    (rest : tail.Written depth t members) :
    (Fields.cons (.optional name read) tail).Written depth (value.map f, t)
      (member? name (value.map toJson) ++ members) := by
  cases value with
  | none => exact .absent rfl rest
  | some b => exact .present (reads b rfl) rest

theorem Written.optional_last {α β : Type} {read : Reader α} {toJson : β → Json} {f : β → α}
    {value : Option β}
    (reads : ∀ b ∈ value, Reads (optionReader read depth) (toJson b).write (some (f b))) :
    (Fields.cons (.optional name read) .nil).Written depth (value.map f, ())
      (member? name (value.map toJson)) := by
  have written : (Fields.cons (.optional name read) .nil).Written depth _ _ :=
    .optional reads (.nil depth)
  rwa [List.append_nil] at written

/-- If it is read as the value itself, nothing stands between the two. -/
theorem Written.member? {α : Type} {read : Reader α} {toJson : α → Json} {value : Option α}
    (reads : ∀ a ∈ value, Reads (optionReader read depth) (toJson a).write (some a))
    (rest : tail.Written depth t members) :
    (Fields.cons (.optional name read) tail).Written depth (value, t)
      (Json.member? name (value.map toJson) ++ members) := by
  have written : (Fields.cons (.optional name read) tail).Written depth (value.map id, t) _ :=
    .optional reads rest
  rwa [Option.map_id] at written

theorem Written.member?_last {α : Type} {read : Reader α} {toJson : α → Json} {value : Option α}
    (reads : ∀ a ∈ value, Reads (optionReader read depth) (toJson a).write (some a)) :
    (Fields.cons (.optional name read) .nil).Written depth (value, ())
      (Json.member? name (value.map toJson)) := by
  have written : (Fields.cons (.optional name read) .nil).Written depth (value, ()) _ :=
    .member? reads (.nil depth)
  rwa [List.append_nil] at written

/-- A record is broken by a later member than one that may be missing. -/
theorem Broken.optional {α β : Type} {read : Reader α} {toJson : β → Json} {f : β → α}
    {value : Option β}
    (reads : ∀ b ∈ value, Reads (optionReader read depth) (toJson b).write (some (f b)))
    (rest : tail.Broken depth members) :
    (Fields.cons (.optional name read) tail).Broken depth
      (member? name (value.map toJson) ++ members) := by
  cases value with
  | none => exact .absent rest
  | some b => exact .present (reads b rfl) rest

end Fields

/-- **A free-form object is read back** where it may be `null`. -/
theorem IsExact.reads_optional_object {members : Members} (exact : (Json.object members).IsExact)
    {depth : Nat} (within : (Json.object members).nesting ≤ depth) :
    Reads (optionReader value depth) (Json.object members).write (some (.object members)) :=
  (reads_value exact within).optionReader_object

/-- **A free-form object that is nested too deep** is not read there either. -/
theorem IsExact.fails_optional_object {members : Members} (exact : (Json.object members).IsExact)
    {depth : Nat} (deep : depth < (Json.object members).nesting) :
    Fails (optionReader value depth) (Json.object members).write := by
  have fails := fails_value exact deep
  rw [write_object] at fails ⊢
  exact fails.optionReader rfl (by decide)

/-! ## Free-form objects -/

/-- **Whether free-form objects can be a part of a body**: each fits into one container more. -/
def Fit (objects : List Members) : Prop :=
  ∀ members ∈ objects, (Json.object members).nesting < maxDepth

/-- Two free-form objects at the end of a record are written as they are read. -/
theorem Fields.Written.freeForm {α : Type} {read : Reader α} {f : Members → α} {depth : Nat}
    {parameters context : Option Members}
    (reads : ∀ members ∈ parameters.toList ++ context.toList,
      Reads (optionReader read depth) (Json.object members).write (some (f members))) :
    (Fields.cons (.optional "parameters" read)
        (Fields.cons (.optional "context" read) .nil)).Written depth
      (parameters.map f, context.map f, ())
      (Json.member? "parameters" (parameters.map .object)
        ++ Json.member? "context" (context.map .object)) :=
  .optional (fun members mem =>
      reads members (List.mem_append_left _ (Option.mem_toList.mpr mem))) <|
    .optional_last fun members mem =>
      reads members (List.mem_append_right _ (Option.mem_toList.mpr mem))

/-- Those at the end of a body are read if they fit. -/
theorem written_freeForm {parameters context : Option Members}
    (exact : ∀ members ∈ parameters.toList ++ context.toList, (Json.object members).IsExact)
    (fit : Fit (parameters.toList ++ context.toList)) :
    (Fields.cons (.optional "parameters" value)
        (Fields.cons (.optional "context" value) .nil)).Written 126
      (parameters.map .object, context.map .object, ())
      (member? "parameters" (parameters.map .object)
        ++ member? "context" (context.map .object)) :=
  .freeForm fun members mem =>
    (exact members mem).reads_optional_object (Nat.le_of_lt_succ (fit members mem))

/-- The body cannot be read if they do not fit. -/
theorem broken_freeForm {parameters context : Option Members}
    (exact : ∀ members ∈ parameters.toList ++ context.toList, (Json.object members).IsExact)
    (deep : ¬ Fit (parameters.toList ++ context.toList)) :
    (Fields.cons (.optional "parameters" value)
        (Fields.cons (.optional "context" value) .nil)).Broken 126
      (member? "parameters" (parameters.map .object)
        ++ member? "context" (context.map .object)) := by
  by_cases fits : Fit parameters.toList
  · obtain ⟨members, mem, deeper⟩ : ∃ members ∈ context, 126 < (Json.object members).nesting := by
      refine Classical.byContradiction fun shallow => deep fun members mem => ?_
      obtain mem | mem := List.mem_append.mp mem
      · exact fits members mem
      · exact Nat.lt_succ_of_le (Nat.le_of_not_lt fun deeper =>
          shallow ⟨members, Option.mem_toList.mp mem, deeper⟩)
    obtain rfl : context = some members := mem
    exact .optional (fun other h =>
        (exact other (List.mem_append_left _ (Option.mem_toList.mpr h))).reads_optional_object
          (Nat.le_of_lt_succ (fits other (Option.mem_toList.mpr h)))) <|
      .here ((exact members
        (List.mem_append_right _ List.mem_cons_self)).fails_optional_object deeper)
  · cases parameters with
    | none => exact absurd nofun fits
    | some members =>
      refine .here ((exact members List.mem_cons_self).fails_optional_object
        (Nat.lt_of_not_le fun shallow => fits fun other h => ?_))
      obtain rfl := List.mem_singleton.mp h
      exact Nat.lt_succ_of_le shallow

end Json

open Json (Reads optionReader)

/-! ## Creating an instance -/

namespace ProvisionRequest

/-- The free-form objects of the request. -/
def freeForm (request : ProvisionRequest) : List Members :=
  request.parameters.toList ++ request.context.toList

/-- **What a broker stores of the request.** -/
def stored (request : ProvisionRequest) : Mock.ProvisionBody where
  serviceId := request.serviceId
  planId := request.planId
  organizationGuid := some request.organizationGuid
  spaceGuid := some request.spaceGuid
  parameters := request.parameters.map .object
  context := request.context.map .object

/-- The members of the body, the first ones always there. -/
theorem body_eq (request : ProvisionRequest) : request.body = .object (
    ("service_id", .string request.serviceId) :: ("plan_id", .string request.planId) ::
    ("organization_guid", .string request.organizationGuid) ::
    ("space_guid", .string request.spaceGuid) ::
    (Json.member? "parameters" (request.parameters.map .object)
      ++ Json.member? "context" (request.context.map .object))) := by
  unfold body
  simp only [Json.member, List.cons_append, List.nil_append]

/-- **A body has more bytes than the name of its service has characters**, so none is the
longest. -/
theorem length_serviceId_lt (request : ProvisionRequest) :
    request.serviceId.length < request.body.text.utf8ByteSize := by
  have written := Json.length_le_length_writeString request.serviceId.toList
  rw [String.length_toList] at written
  refine Nat.lt_of_lt_of_le ?_ (Json.length_le_utf8ByteSize_text request.body)
  rw [body_eq, Json.write_object, Json.entries, Json.write]
  simp only [List.length_cons, List.length_append]
  omega

variable {request : ProvisionRequest}
  (exact : ∀ members ∈ request.freeForm, (Json.object members).IsExact)

include exact

/-- **The body is read** as what is to be stored. -/
theorem decode_body (fit : Json.Fit request.freeForm) :
    Json.decode Mock.ProvisionBody.record.read request.body.text = .ok request.stored := by
  rw [body_eq]
  exact Mock.ProvisionBody.record.decode_written
    (request.serviceId, request.planId, some request.organizationGuid, some request.spaceGuid,
      request.parameters.map .object, request.context.map .object, ())
    (by decide) <|
    .present (Json.reads_stringReader 126 _) <| .present (Json.reads_stringReader 126 _) <|
    .present (Json.reads_optional_string 126 _) <| .present (Json.reads_optional_string 126 _) <|
    Json.written_freeForm exact fit

/-- **The body is refused** if a free-form object is nested too deep. -/
theorem exists_decode_body_error (deep : ¬ Json.Fit request.freeForm) :
    ∃ error, Json.decode Mock.ProvisionBody.record.read request.body.text = .error error := by
  rw [body_eq]
  exact Json.Record.exists_decode_error Mock.ProvisionBody.record (by decide) <|
    .present (Json.reads_stringReader 126 _) <| .present (Json.reads_stringReader 126 _) <|
    .present (Json.reads_optional_string 126 _) <| .present (Json.reads_optional_string 126 _) <|
    Json.broken_freeForm exact deep

end ProvisionRequest

/-! ## Creating a binding -/

namespace BindResource

theorem reads_toJson (resource : BindResource) :
    Reads (optionReader Json.value 126) resource.toJson.write (some resource.toJson) := by
  refine Json.IsExact.reads_optional_object (.object ?_ ?_) ?_ <;>
    obtain ⟨_ | appGuid, _ | route⟩ := resource <;>
    simp [Json.member?, Json.IsExact.string, Json.nesting, Json.nesting.nestingMembers]

end BindResource

namespace BindRequest

/-- The free-form objects of the request. -/
def freeForm (request : BindRequest) : List Members :=
  request.parameters.toList ++ request.context.toList

/-- **What a broker stores of the request.** -/
def stored (request : BindRequest) : Mock.BindBody where
  serviceId := request.serviceId
  planId := request.planId
  appGuid := request.appGuid
  bindResource := request.bindResource.map BindResource.toJson
  parameters := request.parameters.map .object
  context := request.context.map .object

theorem body_eq (request : BindRequest) : request.body = .object (
    ("service_id", .string request.serviceId) :: ("plan_id", .string request.planId) ::
    (Json.member? "app_guid" (request.appGuid.map .string) ++
      (Json.member? "bind_resource" (request.bindResource.map BindResource.toJson) ++
        (Json.member? "parameters" (request.parameters.map .object)
          ++ Json.member? "context" (request.context.map .object))))) := by
  unfold body
  simp only [Json.member, List.append_assoc, List.cons_append, List.nil_append]

variable {request : BindRequest}
  (exact : ∀ members ∈ request.freeForm, (Json.object members).IsExact)

include exact

/-- **The body is read** as what is to be stored. -/
theorem decode_body (fit : Json.Fit request.freeForm) :
    Json.decode Mock.BindBody.record.read request.body.text = .ok request.stored := by
  rw [body_eq]
  exact Mock.BindBody.record.decode_written
    (request.serviceId, request.planId, request.appGuid,
      request.bindResource.map BindResource.toJson, request.parameters.map .object,
      request.context.map .object, ())
    (by decide) <|
    .present (Json.reads_stringReader 126 _) <| .present (Json.reads_stringReader 126 _) <|
    .member? (fun guid _ => Json.reads_optional_string 126 guid) <|
    .optional (f := BindResource.toJson) (fun resource _ => resource.reads_toJson) <|
    Json.written_freeForm exact fit

/-- **The body is refused** if a free-form object is nested too deep. -/
theorem exists_decode_body_error (deep : ¬ Json.Fit request.freeForm) :
    ∃ error, Json.decode Mock.BindBody.record.read request.body.text = .error error := by
  rw [body_eq]
  exact Json.Record.exists_decode_error Mock.BindBody.record (by decide) <|
    .present (Json.reads_stringReader 126 _) <| .present (Json.reads_stringReader 126 _) <|
    .optional (f := id) (fun guid _ => Json.reads_optional_string 126 guid) <|
    .optional (f := BindResource.toJson) (fun resource _ => resource.reads_toJson) <|
    Json.broken_freeForm exact deep

end BindRequest

end ServiceBroker
