import ServiceBroker.Message.Catalog
import ServiceBroker.Message.Response
import ServiceBroker.Proofs.SentBodies
import ServiceBroker.Proofs.Tracked

/-!
# Decoding undoes encoding

What goes between a client and a broker, and what a client keeps, is JSON. A `WireType` names
one of the types that are written and read in this way. `WireType.decode_text` says that a value
is found again in its own text: nothing is lost whether a member is written, left out or written
as `null`, and a free-form object comes back with its members in their order.

The types differ in how many containers they put around each other, and a reader opens only so
many. So each type has a lemma of its own (`reads_written`) for any number of containers that
may be opened, which is what the types that contain it need. Only the free-form objects of a
value can stand in the way, and those lemmas take it as given that these are read.

A text need not be the one that a value is written as: it may have white space, members in
another order or of no field, or an array in place of an object. Decoding and encoding turns it
into that text, and leaves it alone from then on (`WireType.decoding_undoes_encoding`).
-/

namespace ServiceBroker

open Json (Reads reads_boolReader reads_ofOption reads_optional_bool reads_optional_string
  reads_stringReader)

/-! ## The catalog -/

/-- **A plan is read back.** -/
theorem Plan.reads_written (plan : Plan) (depth : Nat) :
    Reads (record.read (depth + 1)) plan.toJson.write plan := by
  obtain ⟨id, name, description, free, bindable⟩ := plan
  unfold toJson
  simp only [List.append_assoc]
  exact @Json.Record.reads_read Plan record depth (id, name, description, free, bindable, ()) _
    (by decide) <|
    .present (reads_stringReader depth id) <| .present (reads_stringReader depth name) <|
    .present (reads_stringReader depth description) <|
    .member? (fun b _ => reads_optional_bool depth b) <|
    .member?_last fun b _ => reads_optional_bool depth b

/-- **A service is read back**, with its tags and plans. -/
theorem Service.reads_written (service : Service) (depth : Nat) :
    Reads (record.read (depth + 3)) service.toJson.write service := by
  obtain ⟨id, name, description, bindable, tags, planUpdateable, bindingsRetrievable, plans⟩ :=
    service
  have tagsRead : Reads (Json.listReader Json.stringReader (depth + 2))
      (Json.array (tags.map .string)).write tags :=
    Json.reads_listReader fun tag _ =>
      ⟨Json.begins_string tag, reads_stringReader (depth + 1) tag⟩
  have plansRead : Reads (Json.listReader Plan.record.read (depth + 2))
      (Json.array (plans.map Plan.toJson)).write plans :=
    Json.reads_listReader fun plan _ => ⟨Json.begins_object _, plan.reads_written depth⟩
  exact @Json.Record.reads_read Service record (depth + 2)
    (id, name, description, bindable, tags, planUpdateable, bindingsRetrievable, plans, ()) _
    (by decide) <|
    .present (reads_stringReader (depth + 2) id) <|
    .present (reads_stringReader (depth + 2) name) <|
    .present (reads_stringReader (depth + 2) description) <|
    .present (reads_boolReader (depth + 2) bindable) <|
    .present tagsRead <|
    .present (reads_boolReader (depth + 2) planUpdateable) <|
    .present (reads_boolReader (depth + 2) bindingsRetrievable) <|
    .present plansRead (.nil _)

/-- **A catalog is read back**, with its services. -/
theorem Catalog.reads_written (catalog : Catalog) (depth : Nat) :
    Reads (record.read (depth + 5)) catalog.toJson.write catalog := by
  obtain ⟨services⟩ := catalog
  have servicesRead : Reads (Json.listReader Service.record.read (depth + 4))
      (Json.array (services.map Service.toJson)).write services :=
    Json.reads_listReader fun service _ => ⟨Json.begins_object _, service.reads_written depth⟩
  exact @Json.Record.reads_read Catalog record (depth + 4) (services, ()) _ (by decide) <|
    .present servicesRead (.nil _)

/-! ## Requests -/

namespace Json

/-- **Free-form objects that are read back** where so many containers may be opened. -/
def AllRead (depth : Nat) (objects : List Members) : Prop :=
  ∀ members ∈ objects, Reads (objectReader depth) (Json.object members).write members

theorem Fit.allRead {objects : List Members} (fit : Fit objects)
    (exact : ∀ members ∈ objects, (Json.object members).IsExact) : AllRead 126 objects :=
  fun members mem => (exact members mem).reads_objectReader (Nat.le_of_lt_succ (fit members mem))

/-- The two free-form objects at the end of a request are read. -/
theorem AllRead.written {depth : Nat} {parameters context : Option Members}
    (all : AllRead depth (parameters.toList ++ context.toList)) :
    (Fields.cons (.optional "parameters" objectReader)
        (Fields.cons (.optional "context" objectReader) .nil)).Written depth
      (parameters, context, ())
      (member? "parameters" (parameters.map .object)
        ++ member? "context" (context.map .object)) := by
  have written := Fields.Written.freeForm (f := id) fun members mem =>
    (all members mem).optionReader_object
  rwa [Option.map_id] at written

end Json

open Json (AllRead)

/-- **A request to create an instance is read back.** -/
theorem ProvisionRequest.reads_written (request : ProvisionRequest) {depth : Nat}
    (all : AllRead depth request.freeForm) :
    Reads (record.read (depth + 1)) request.toJson.write request := by
  obtain ⟨instanceId, serviceId, planId, organizationGuid, spaceGuid, parameters, context⟩ :=
    request
  unfold toJson
  simp only [List.append_assoc]
  exact @Json.Record.reads_read ProvisionRequest record depth
    (instanceId, serviceId, planId, organizationGuid, spaceGuid, parameters, context, ()) _
    (by decide) <|
    .present (reads_stringReader depth instanceId) <|
    .present (reads_stringReader depth serviceId) <|
    .present (reads_stringReader depth planId) <|
    .present (reads_stringReader depth organizationGuid) <|
    .present (reads_stringReader depth spaceGuid) all.written

/-- **A request to delete an instance is read back.** -/
theorem DeprovisionRequest.reads_written (request : DeprovisionRequest) (depth : Nat) :
    Reads (record.read (depth + 1)) request.toJson.write request := by
  obtain ⟨instanceId, serviceId, planId⟩ := request
  exact @Json.Record.reads_read DeprovisionRequest record depth
    (instanceId, serviceId, planId, ()) _ (by decide) <|
    .present (reads_stringReader depth instanceId) <|
    .present (reads_stringReader depth serviceId) <|
    .present (reads_stringReader depth planId) (.nil _)

/-- **What a binding is for is read back.** -/
theorem BindResource.reads_written (resource : BindResource) (depth : Nat) :
    Reads (record.read (depth + 1)) resource.toJson.write resource := by
  obtain ⟨appGuid, route⟩ := resource
  exact @Json.Record.reads_read BindResource record depth (appGuid, route, ()) _ (by decide) <|
    .member? (fun guid _ => reads_optional_string depth guid) <|
    .member?_last fun route _ => reads_optional_string depth route

/-- **A request to create a binding is read back.** -/
theorem BindRequest.reads_written (request : BindRequest) {depth : Nat}
    (all : AllRead (depth + 1) request.freeForm) :
    Reads (record.read (depth + 2)) request.toJson.write request := by
  obtain ⟨instanceId, bindingId, serviceId, planId, appGuid, bindResource, parameters, context⟩ :=
    request
  unfold toJson
  simp only [List.append_assoc]
  exact @Json.Record.reads_read BindRequest record (depth + 1)
    (instanceId, bindingId, serviceId, planId, appGuid, bindResource, parameters, context, ()) _
    (by decide) <|
    .present (reads_stringReader (depth + 1) instanceId) <|
    .present (reads_stringReader (depth + 1) bindingId) <|
    .present (reads_stringReader (depth + 1) serviceId) <|
    .present (reads_stringReader (depth + 1) planId) <|
    .member? (fun guid _ => reads_optional_string (depth + 1) guid) <|
    .member? (fun resource _ => (resource.reads_written depth).optionReader_object) all.written

/-- **A request to delete a binding is read back.** -/
theorem UnbindRequest.reads_written (request : UnbindRequest) (depth : Nat) :
    Reads (record.read (depth + 1)) request.toJson.write request := by
  obtain ⟨instanceId, bindingId, serviceId, planId⟩ := request
  exact @Json.Record.reads_read UnbindRequest record depth
    (instanceId, bindingId, serviceId, planId, ()) _ (by decide) <|
    .present (reads_stringReader depth instanceId) <|
    .present (reads_stringReader depth bindingId) <|
    .present (reads_stringReader depth serviceId) <|
    .present (reads_stringReader depth planId) (.nil _)

/-- **A request for a binding is read back.** -/
theorem GetBindingRequest.reads_written (request : GetBindingRequest) (depth : Nat) :
    Reads (record.read (depth + 1)) request.toJson.write request := by
  obtain ⟨instanceId, bindingId, serviceId, planId⟩ := request
  exact @Json.Record.reads_read GetBindingRequest record depth
    (instanceId, bindingId, serviceId, planId, ()) _ (by decide) <|
    .present (reads_stringReader depth instanceId) <|
    .present (reads_stringReader depth bindingId) <|
    .present (reads_stringReader depth serviceId) <|
    .present (reads_stringReader depth planId) (.nil _)

/-- **A poll of an instance is read back**, its open fields from `null`. -/
theorem InstanceLastOperationRequest.reads_written (request : InstanceLastOperationRequest)
    (depth : Nat) : Reads (record.read (depth + 1)) request.toJson.write request := by
  obtain ⟨instanceId, serviceId, planId, operation⟩ := request
  exact @Json.Record.reads_read InstanceLastOperationRequest record depth
    (instanceId, serviceId, planId, operation, ()) _ (by decide) <|
    .present (reads_stringReader depth instanceId) <|
    .present (reads_ofOption depth serviceId) <| .present (reads_ofOption depth planId) <|
    .present (reads_ofOption depth operation) (.nil _)

/-- **A poll of a binding is read back**, its open fields from `null`. -/
theorem BindingLastOperationRequest.reads_written (request : BindingLastOperationRequest)
    (depth : Nat) : Reads (record.read (depth + 1)) request.toJson.write request := by
  obtain ⟨instanceId, bindingId, serviceId, planId, operation⟩ := request
  exact @Json.Record.reads_read BindingLastOperationRequest record depth
    (instanceId, bindingId, serviceId, planId, operation, ()) _ (by decide) <|
    .present (reads_stringReader depth instanceId) <|
    .present (reads_stringReader depth bindingId) <|
    .present (reads_ofOption depth serviceId) <| .present (reads_ofOption depth planId) <|
    .present (reads_ofOption depth operation) (.nil _)

/-! ## Answers -/

/-- **The result of a provision is read back.** -/
theorem Provisioned.reads_written (result : Provisioned) (depth : Nat) :
    Reads (record.read (depth + 1)) result.toJson.write result := by
  obtain ⟨dashboardUrl⟩ := result
  exact @Json.Record.reads_read Provisioned record depth (dashboardUrl, ()) _ (by decide) <|
    .member?_last fun url _ => reads_optional_string depth url

/-- **A binding is read back**, its credentials also when there are none. -/
theorem Binding.reads_written (binding : Binding) {depth : Nat}
    (all : AllRead depth [binding.credentials]) :
    Reads (record.read (depth + 1)) binding.toJson.write binding := by
  obtain ⟨credentials, syslogDrainUrl, routeServiceUrl⟩ := binding
  unfold toJson
  simp only [List.append_assoc]
  exact @Json.Record.reads_read Binding record depth
    (credentials, syslogDrainUrl, routeServiceUrl, ()) _ (by decide) <|
    .present (all credentials List.mem_cons_self) <|
    .member? (fun url _ => reads_optional_string depth url) <|
    .member?_last fun url _ => reads_optional_string depth url

/-- **What a broker tells about an instance is read back.** -/
theorem InstanceDetails.reads_written (details : InstanceDetails) {depth : Nat}
    (all : AllRead depth details.parameters.toList) :
    Reads (record.read (depth + 1)) details.toJson.write details := by
  obtain ⟨serviceId, planId, dashboardUrl, parameters⟩ := details
  unfold toJson
  simp only [List.append_assoc]
  exact @Json.Record.reads_read InstanceDetails record depth
    (serviceId, planId, dashboardUrl, parameters, ()) _ (by decide) <|
    .member? (fun id _ => reads_optional_string depth id) <|
    .member? (fun id _ => reads_optional_string depth id) <|
    .member? (fun url _ => reads_optional_string depth url) <|
    .member?_last fun members mem =>
      (all members (Option.mem_toList.mpr mem)).optionReader_object

/-- **The state of an operation is read back**: of its spellings the first is written. -/
theorem LastOperationState.reads_written (state : LastOperationState) (depth : Nat) :
    Reads (reader depth) state.toJson.write state := by
  cases state <;> exact Json.reads_variantReader rfl depth

/-- **The answer to a poll is read back.** -/
theorem LastOperation.reads_written (last : LastOperation) (depth : Nat) :
    Reads (record.read (depth + 1)) last.toJson.write last := by
  obtain ⟨state, description⟩ := last
  exact @Json.Record.reads_read LastOperation record depth (state, description, ()) _
    (by decide) <|
    .present (state.reads_written depth) <|
    .member?_last fun text _ => reads_optional_string depth text

/-! ## Every type -/

/-- **How the values of a type are written and read**, and which free-form objects they hold. -/
structure Codec (α : Type) where
  reader : Json.Reader α
  toJson : α → Json
  freeForm : α → List Members := fun _ => []

namespace Codec

variable {α : Type} (codec : Codec α)

/-- **A text as it is written again** once it has been read. -/
def retold (text : String) : Except Json.ReadError String :=
  (Json.decode codec.reader text).map fun value => (codec.toJson value).text

theorem retold_eq {text : String} {value : α}
    (found : Json.decode codec.reader text = .ok value) :
    codec.retold text = .ok (codec.toJson value).text := by
  unfold retold
  rw [found]
  rfl

end Codec

/-- **The types that are written and read as JSON.** -/
inductive WireType where
  | catalog
  | service
  | plan
  | provisionRequest
  | deprovisionRequest
  | bindResource
  | bindRequest
  | unbindRequest
  | getBindingRequest
  | instanceLastOperationRequest
  | bindingLastOperationRequest
  | provisioned
  | binding
  | instanceDetails
  | lastOperationState
  | lastOperation
  | operationKind
  | trackedOperation
deriving DecidableEq, Repr

namespace WireType

/-- The values of a type. -/
def Value : WireType → Type
  | .catalog => Catalog
  | .service => Service
  | .plan => Plan
  | .provisionRequest => ProvisionRequest
  | .deprovisionRequest => DeprovisionRequest
  | .bindResource => BindResource
  | .bindRequest => BindRequest
  | .unbindRequest => UnbindRequest
  | .getBindingRequest => GetBindingRequest
  | .instanceLastOperationRequest => InstanceLastOperationRequest
  | .bindingLastOperationRequest => BindingLastOperationRequest
  | .provisioned => Provisioned
  | .binding => Binding
  | .instanceDetails => InstanceDetails
  | .lastOperationState => LastOperationState
  | .lastOperation => LastOperation
  | .operationKind => OperationKind
  | .trackedOperation => TrackedOperation

/-- How the values of a type are written and read. -/
def codec : (type : WireType) → Codec type.Value
  | .catalog => { reader := Catalog.record.read, toJson := Catalog.toJson }
  | .service => { reader := Service.record.read, toJson := Service.toJson }
  | .plan => { reader := Plan.record.read, toJson := Plan.toJson }
  | .provisionRequest =>
    { reader := ProvisionRequest.record.read,
      toJson := ProvisionRequest.toJson,
      freeForm := ProvisionRequest.freeForm }
  | .deprovisionRequest =>
    { reader := DeprovisionRequest.record.read, toJson := DeprovisionRequest.toJson }
  | .bindResource => { reader := BindResource.record.read, toJson := BindResource.toJson }
  | .bindRequest =>
    { reader := BindRequest.record.read,
      toJson := BindRequest.toJson,
      freeForm := BindRequest.freeForm }
  | .unbindRequest => { reader := UnbindRequest.record.read, toJson := UnbindRequest.toJson }
  | .getBindingRequest =>
    { reader := GetBindingRequest.record.read, toJson := GetBindingRequest.toJson }
  | .instanceLastOperationRequest =>
    { reader := InstanceLastOperationRequest.record.read,
      toJson := InstanceLastOperationRequest.toJson }
  | .bindingLastOperationRequest =>
    { reader := BindingLastOperationRequest.record.read,
      toJson := BindingLastOperationRequest.toJson }
  | .provisioned => { reader := Provisioned.record.read, toJson := Provisioned.toJson }
  | .binding =>
    { reader := Binding.record.read,
      toJson := Binding.toJson,
      freeForm := fun binding => [binding.credentials] }
  | .instanceDetails =>
    { reader := InstanceDetails.record.read,
      toJson := InstanceDetails.toJson,
      freeForm := fun details => details.parameters.toList }
  | .lastOperationState =>
    { reader := LastOperationState.reader, toJson := LastOperationState.toJson }
  | .lastOperation => { reader := LastOperation.record.read, toJson := LastOperation.toJson }
  | .operationKind => { reader := OperationKind.reader, toJson := OperationKind.toJson }
  | .trackedOperation => { reader := TrackedOperation.reader, toJson := TrackedOperation.toJson }

variable (type : WireType) (value : type.Value)
  (exact : ∀ members ∈ type.codec.freeForm value, (Json.object members).IsExact)
  (fit : Json.Fit (type.codec.freeForm value))

include exact fit

/-- **A value is read from its text.** -/
theorem decode_text :
    Json.decode type.codec.reader (type.codec.toJson value).text = .ok value := by
  have all := fit.allRead exact
  cases type with
  | catalog => exact Json.decode_text (Catalog.reads_written value 122)
  | service => exact Json.decode_text (Service.reads_written value 124)
  | plan => exact Json.decode_text (Plan.reads_written value 126)
  | provisionRequest => exact Json.decode_text (ProvisionRequest.reads_written value all)
  | deprovisionRequest => exact Json.decode_text (DeprovisionRequest.reads_written value 126)
  | bindResource => exact Json.decode_text (BindResource.reads_written value 126)
  | bindRequest => exact Json.decode_text (BindRequest.reads_written value all)
  | unbindRequest => exact Json.decode_text (UnbindRequest.reads_written value 126)
  | getBindingRequest => exact Json.decode_text (GetBindingRequest.reads_written value 126)
  | instanceLastOperationRequest =>
    exact Json.decode_text (InstanceLastOperationRequest.reads_written value 126)
  | bindingLastOperationRequest =>
    exact Json.decode_text (BindingLastOperationRequest.reads_written value 126)
  | provisioned => exact Json.decode_text (Provisioned.reads_written value 126)
  | binding => exact Json.decode_text (Binding.reads_written value all)
  | instanceDetails => exact Json.decode_text (InstanceDetails.reads_written value all)
  | lastOperationState => exact Json.decode_text (LastOperationState.reads_written value 127)
  | lastOperation => exact Json.decode_text (LastOperation.reads_written value 126)
  | operationKind => exact Json.decode_text (OperationKind.reads_written value 126)
  | trackedOperation => exact TrackedOperation.decode_text value

/-- **Decoding undoes encoding.** A value of every type is read from its own text, down to the
order of the members in its free-form objects, if these hold no double and none is nested so
deep that it does not fit into the value's text. And every text that is read as the value is
told in one form: reading and writing it a second time changes nothing. -/
theorem decoding_undoes_encoding :
    Json.decode type.codec.reader (type.codec.toJson value).text = .ok value ∧
      ∀ text, Json.decode type.codec.reader text = .ok value →
        ∃ once, type.codec.retold text = .ok once ∧ type.codec.retold once = .ok once := by
  have found := type.decode_text value exact fit
  exact ⟨found, fun _ read => ⟨_, type.codec.retold_eq read, type.codec.retold_eq found⟩⟩

end WireType

/-- A binding whose credentials hold other containers, and their keys in no order. -/
def Binding.nested : Binding where
  credentials :=
    [("z", .array [.number (.whole ⟨18446744073709551615, by decide, by decide⟩),
      .object [("é", .string "\"\n")]]), ("a", .object [])]
  routeServiceUrl := some "r"

/-- Such a binding is read from its text, and its text is told in one form. -/
theorem WireType.decoding_undoes_encoding_nested :
    Binding.nested.toJson.text
        = "\x7b\"credentials\":\x7b\"z\":[18446744073709551615,\x7b\"é\":\"\\\"\\n\"\x7d],"
          ++ "\"a\":\x7b\x7d\x7d,\"route_service_url\":\"r\"\x7d" ∧
      Json.decode Binding.record.read Binding.nested.toJson.text = .ok .nested ∧
      ∀ text, Json.decode Binding.record.read text = .ok .nested →
        ∃ once, binding.codec.retold text = .ok once ∧ binding.codec.retold once = .ok once := by
  refine ⟨by decide, decoding_undoes_encoding .binding .nested (fun members mem => ?_) ?_⟩
  · obtain rfl := List.mem_singleton.mp mem
    have listed : (Json.array [.number (.whole ⟨18446744073709551615, by decide, by decide⟩),
        .object [("é", .string "\"\n")]]).IsExact :=
      .array <| List.forall_mem_cons.mpr ⟨.whole _,
        List.forall_mem_singleton.mpr (.object_singleton (.string _))⟩
    exact .object (by decide) <| List.forall_mem_cons.mpr ⟨listed,
      List.forall_mem_singleton.mpr Json.isExact_empty⟩
  · unfold Json.Fit
    decide

end ServiceBroker
