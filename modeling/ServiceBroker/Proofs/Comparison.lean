import ServiceBroker.Mock.Body
import ServiceBroker.Proofs.DistinctKeys
import ServiceBroker.Proofs.Records

/-!
# Comparing bodies

What a broker stores of an instance or a binding is a body that it has read, and it compares this
with the next body that it reads. A body of an object says what the last of the trees under its
keys say, `null` being the same as nothing (`Mock.ProvisionBody.IsToldBy`). Two bodies are the
same if their fields agree: texts are equal, and free-form values are alike
(`Mock.ProvisionBody.Agrees`).

Of a record that is compared four things are asked (`Json.Record.Compares`): agreeing is an
equivalence, the comparison decides it on whatever was read, what was read has a tree, and a
rearranged text is read, too, as something that agrees. Both bodies are such records.
-/

namespace ServiceBroker

namespace Json

/-- **A record that is compared.** -/
structure Record.Compares {α : Type} (record : Record α) (same : α → α → Bool)
    (agrees : α → α → Prop) : Prop where
  equivalence : Equivalence agrees
  /-- What is read is the same exactly if it agrees. -/
  same_iff {text text' : String} {a b : α} : decode record.read text = .ok a →
    decode record.read text' = .ok b → (same a b = true ↔ agrees a b)
  /-- What is read has a tree. -/
  written {text : String} {a : α} : decode record.read text = .ok a →
    ∃ tree : Tree, tree.Writes text
  /-- The order of members does not count. -/
  rearranged {text text' : String} {a : α} : decode record.read text = .ok a →
    Rearranges text text' → ∃ b, decode record.read text' = .ok b ∧ agrees a b

/-- **A text that is the same or rearranged** is read as something that agrees. -/
theorem Record.Compares.exists_agreeing {α : Type} {record : Record α} {same : α → α → Bool}
    {agrees : α → α → Prop} (compares : record.Compares same agrees) {text text' : String} {a : α}
    (read : decode record.read text = .ok a) (like : text' = text ∨ Rearranges text text') :
    ∃ b, decode record.read text' = .ok b ∧ agrees a b := by
  obtain rfl | rearranged := like
  · exact ⟨a, read, compares.equivalence.refl a⟩
  · exact compares.rearranged read rearranged

/-- **A record is compared** if its fields see nothing but the trees, agree as it does, and are
compared rightly wherever they come from. -/
theorem Record.Compares.of_fields {α : Type} {record : Record α} {same : α → α → Bool}
    {agrees : α → α → Prop} (equivalence : Equivalence agrees)
    (distinct : record.fields.names.Nodup) {agree : record.τ → record.τ → Prop}
    (respects : record.fields.Respects agree)
    (build : ∀ t u, agree t u → agrees (record.build t) (record.build u))
    (same_iff : ∀ t u, record.fields.Sourced t → record.fields.Sourced u →
      (same (record.build t) (record.build u) = true ↔ agrees (record.build t) (record.build u))) :
    record.Compares same agrees where
  equivalence := equivalence
  same_iff left right := by
    obtain ⟨t, rfl, sourced⟩ := Record.sourced respects distinct left
    obtain ⟨u, rfl, sourced'⟩ := Record.sourced respects distinct right
    exact same_iff t u sourced sourced'
  written read := Record.exists_writes respects read
  rearranged read := by
    rintro ⟨tree, tree', permuted, writes, writes'⟩
    obtain ⟨t, u, rfl, read', agree⟩ :=
      Record.decode_permuted respects distinct permuted writes writes' read
    exact ⟨_, read', build t u agree⟩

/-! ## Fields -/

section Fields

variable {α τ δ : Type} {read : Reader α} {agree : α → α → Prop} {tail : Fields τ δ}
  {agrees : τ → τ → Prop}

theorem Fields.Respects.required (name : String) (reads : read.Respects agree)
    (rest : tail.Respects agrees) : Fields.Respects (.cons (.required name read) tail)
      fun t u => agree t.1 u.1 ∧ agrees t.2 u.2 := .cons reads nofun nofun rest

/-- A field that may be missing agrees as its value does, if it is there. -/
theorem Fields.Respects.optional (name : String) (reads : read.Respects agree)
    (rest : tail.Respects agrees) : Fields.Respects (.cons (.optional name read) tail)
      fun t u => Option.Rel agree t.1 u.1 ∧ agrees t.2 u.2 := by
  have nothing (x : Option α) (missing : some none = some x) : Option.Rel agree x x := by
    obtain rfl := Option.some.inj missing
    exact .none
  exact .cons (respects_option reads) nothing nothing rest

theorem eq_of_optionRel {x y : Option α} (agrees : Option.Rel Eq x y) : x = y := by
  cases agrees with
  | none => rfl
  | some equal => rw [equal]

/-- A free-form field has distinct keys, wherever it comes from. -/
theorem distinct_of_sourced {name : String} {x : Option Json}
    (sourced : (Field.optional name Json.value).Sourced x) : ∀ v ∈ x, v.Distinct := by
  cases sourced with
  | read read => exact distinct_of_option read
  | absent missing | short missing =>
    obtain rfl := Option.some.inj missing
    exact nofun

/-- **Free-form fields are compared rightly**, wherever they come from. -/
theorem sameOption_iff_sourced {name : String} {x y : Option Json}
    (left : (Field.optional name Json.value).Sourced x)
    (right : (Field.optional name Json.value).Sourced y) :
    sameOption x y = true ↔ AlikeOption x y :=
  sameOption_iff_alike (distinct_of_sourced left) (distinct_of_sourced right)

/-! ## What the parts say -/

/-- **What a part of a record says**: nothing if it is missing or `null`. -/
def partValue (part : Option Tree) : Option Json :=
  match part with
  | some (.scalar (some .null)) => none
  | some tree => tree.value 126
  | none => none

/-- **A record that is what its parts say**, and of which every text has a tree. -/
def Record.ReadsParts {α : Type} (record : Record α)
    (isToldBy : α → (String → Option Json) → Prop) : Prop :=
  ∀ text a, decode record.read text = .ok a → (∃ tree : Tree, tree.Writes text) ∧
    ∀ members, (Tree.object members).Writes text →
      isToldBy a fun name => partValue (partsOf members name)

/-- What is not `null` says its value. -/
theorem partValue_of_ne {tree : Tree} (notNull : tree ≠ .scalar (some .null)) :
    partValue (some tree) = tree.value 126 := by
  unfold partValue
  split
  · rename_i eq
    exact absurd (Option.some.inj eq) notNull
  · rename_i eq
    rw [Option.some.inj eq]
  · rename_i eq
    exact nomatch eq

theorem value_of_tells_string {depth : Nat} {tree : Tree} {x : String}
    (told : Reader.Tells stringReader depth tree x) : tree.value depth = some (.string x) := by
  obtain ⟨s, rest, spans, read⟩ := told
  obtain ⟨-, rfl⟩ := (spans.yields_string depth x rest).mp read
  rw [Tree.value]

theorem value_of_tells_value {depth : Nat} {tree : Tree} {v : Json}
    (told : Reader.Tells Json.value depth tree v) : tree.value depth = some v := by
  obtain ⟨s, rest, spans, read⟩ := told
  exact ((spans.yields_value depth v rest).mp read).2

/-- **A part that has to be there** says its text. -/
theorem partValue_of_required {name : String} {part : Option Tree} {x : String}
    (told : (Field.required name stringReader).Told 126 part x) :
    partValue part = some (.string x) := by
  cases part with
  | none => exact nomatch told
  | some tree =>
    have valued : tree.value 126 = some (.string x) := value_of_tells_string told
    rw [partValue_of_ne, valued]
    rintro rfl
    rw [Tree.value] at valued
    cases valued

/-- **A part that may be missing** says its value, if it has one. -/
theorem partValue_of_optional {name : String} {part : Option Tree} {x : Option α}
    (respects : read.Respects agree) (toJson : α → Json)
    (valued : ∀ {tree : Tree} {a : α}, read.Tells 126 tree a → tree.value 126 = some (toJson a))
    (told : (Field.optional name read).Told 126 part x) :
    partValue part = x.map toJson := by
  cases part with
  | none =>
    obtain rfl := Option.some.inj told
    rfl
  | some tree =>
    obtain ⟨s, rest, spans, found⟩ := told
    obtain ⟨-, ⟨rfl, rfl⟩ | ⟨notNull, a, told, rfl⟩⟩ :=
      (spans.yields_option respects.yields x rest).mp found
    · rfl
    · rw [partValue_of_ne notNull]
      exact valued told

theorem partValue_of_text {name : String} {part : Option Tree} {x : Option String}
    (told : (Field.optional name stringReader).Told 126 part x) :
    partValue part = x.map .string :=
  partValue_of_optional respects_string _ value_of_tells_string told

theorem partValue_of_value {name : String} {part : Option Tree} {x : Option Json}
    (told : (Field.optional name Json.value).Told 126 part x) :
    partValue part = x :=
  (partValue_of_optional respects_value id value_of_tells_value told).trans
    (congrFun Option.map_id x)

end Fields

end Json

namespace Mock

open Json

/-! ## The body of a provision -/

namespace ProvisionBody

/-- **Bodies whose fields agree.** -/
structure Agrees (a b : ProvisionBody) : Prop where
  serviceId : a.serviceId = b.serviceId
  planId : a.planId = b.planId
  organizationGuid : a.organizationGuid = b.organizationGuid
  spaceGuid : a.spaceGuid = b.spaceGuid
  parameters : AlikeOption a.parameters b.parameters
  context : AlikeOption a.context b.context

/-- **A body that is what the parts of an object say.** -/
structure IsToldBy (body : ProvisionBody) (part : String → Option Json) : Prop where
  serviceId : part "service_id" = some (.string body.serviceId)
  planId : part "plan_id" = some (.string body.planId)
  organizationGuid : part "organization_guid" = body.organizationGuid.map .string
  spaceGuid : part "space_guid" = body.spaceGuid.map .string
  parameters : part "parameters" = body.parameters
  context : part "context" = body.context

/-- Agreeing is an equivalence. -/
theorem agrees_equivalence : Equivalence Agrees where
  refl _ := ⟨rfl, rfl, rfl, rfl, .refl _, .refl _⟩
  symm agrees := ⟨agrees.serviceId.symm, agrees.planId.symm, agrees.organizationGuid.symm,
    agrees.spaceGuid.symm, agrees.parameters.symm, agrees.context.symm⟩
  trans first second := ⟨first.serviceId.trans second.serviceId, first.planId.trans second.planId,
    first.organizationGuid.trans second.organizationGuid, first.spaceGuid.trans second.spaceGuid,
    first.parameters.trans second.parameters, first.context.trans second.context⟩

theorem nodup_names : record.fields.names.Nodup := by decide

/-- The fields see nothing but the trees of the members. -/
theorem exists_respects : ∃ agree, record.fields.Respects agree ∧
    ∀ t u, agree t u → (record.build t).Agrees (record.build u) :=
  ⟨_, .required _ respects_string <| .required _ respects_string <|
      .optional _ respects_string <| .optional _ respects_string <|
      .optional _ respects_value <| .optional _ respects_value .nil,
    fun _ _ ⟨s, p, o, r, v, w, _⟩ => ⟨s, p, eq_of_optionRel o, eq_of_optionRel r, v, w⟩⟩

/-- **Bodies of provisions are compared.** -/
theorem compares : record.Compares same Agrees := by
  obtain ⟨agree, respects, build⟩ := exists_respects
  refine .of_fields agrees_equivalence nodup_names respects build fun t u left right => ?_
  obtain ⟨-, -, -, -, v, w, -⟩ := left
  obtain ⟨-, -, -, -, v', w', -⟩ := right
  unfold same
  simp only [Bool.and_eq_true, beq_iff_eq]
  have parameters := sameOption_iff_sourced v v'
  have context := sameOption_iff_sourced w w'
  exact ⟨fun ⟨⟨⟨⟨⟨s, p⟩, o⟩, r⟩, v⟩, w⟩ => ⟨s, p, o, r, parameters.mp v, context.mp w⟩,
    fun ⟨s, p, o, r, v, w⟩ => ⟨⟨⟨⟨⟨s, p⟩, o⟩, r⟩, parameters.mpr v⟩, context.mpr w⟩⟩

/-- **A body is what its parts say.** -/
theorem readsParts : record.ReadsParts IsToldBy := by
  intro text a read
  refine ⟨compares.written read, fun members writes => ?_⟩
  obtain ⟨agree, respects, -⟩ := exists_respects
  obtain ⟨t, rfl, s, p, o, r, v, w, -⟩ := Record.told respects nodup_names writes read
  exact
    { serviceId := partValue_of_required s
      planId := partValue_of_required p
      organizationGuid := partValue_of_text o
      spaceGuid := partValue_of_text r
      parameters := partValue_of_value v
      context := partValue_of_value w }

end ProvisionBody

/-! ## The body of a bind -/

namespace BindBody

/-- **Bodies whose fields agree.** -/
structure Agrees (a b : BindBody) : Prop where
  serviceId : a.serviceId = b.serviceId
  planId : a.planId = b.planId
  appGuid : a.appGuid = b.appGuid
  bindResource : AlikeOption a.bindResource b.bindResource
  parameters : AlikeOption a.parameters b.parameters
  context : AlikeOption a.context b.context

/-- **A body that is what the parts of an object say.** -/
structure IsToldBy (body : BindBody) (part : String → Option Json) : Prop where
  serviceId : part "service_id" = some (.string body.serviceId)
  planId : part "plan_id" = some (.string body.planId)
  appGuid : part "app_guid" = body.appGuid.map .string
  bindResource : part "bind_resource" = body.bindResource
  parameters : part "parameters" = body.parameters
  context : part "context" = body.context

theorem agrees_equivalence : Equivalence Agrees where
  refl _ := ⟨rfl, rfl, rfl, .refl _, .refl _, .refl _⟩
  symm agrees := ⟨agrees.serviceId.symm, agrees.planId.symm, agrees.appGuid.symm,
    agrees.bindResource.symm, agrees.parameters.symm, agrees.context.symm⟩
  trans first second := ⟨first.serviceId.trans second.serviceId, first.planId.trans second.planId,
    first.appGuid.trans second.appGuid, first.bindResource.trans second.bindResource,
    first.parameters.trans second.parameters, first.context.trans second.context⟩

theorem nodup_names : record.fields.names.Nodup := by decide

theorem exists_respects : ∃ agree, record.fields.Respects agree ∧
    ∀ t u, agree t u → (record.build t).Agrees (record.build u) :=
  ⟨_, .required _ respects_string <| .required _ respects_string <|
      .optional _ respects_string <| .optional _ respects_value <|
      .optional _ respects_value <| .optional _ respects_value .nil,
    fun _ _ ⟨s, p, o, r, v, w, _⟩ => ⟨s, p, eq_of_optionRel o, r, v, w⟩⟩

/-- **Bodies of binds are compared.** -/
theorem compares : record.Compares same Agrees := by
  obtain ⟨agree, respects, build⟩ := exists_respects
  refine .of_fields agrees_equivalence nodup_names respects build fun t u left right => ?_
  obtain ⟨-, -, -, r, v, w, -⟩ := left
  obtain ⟨-, -, -, r', v', w', -⟩ := right
  unfold same
  simp only [Bool.and_eq_true, beq_iff_eq]
  have resource := sameOption_iff_sourced r r'
  have parameters := sameOption_iff_sourced v v'
  have context := sameOption_iff_sourced w w'
  exact ⟨fun ⟨⟨⟨⟨⟨s, p⟩, o⟩, r⟩, v⟩, w⟩ =>
      ⟨s, p, o, resource.mp r, parameters.mp v, context.mp w⟩,
    fun ⟨s, p, o, r, v, w⟩ =>
      ⟨⟨⟨⟨⟨s, p⟩, o⟩, resource.mpr r⟩, parameters.mpr v⟩, context.mpr w⟩⟩

/-- **A body is what its parts say.** -/
theorem readsParts : record.ReadsParts IsToldBy := by
  intro text a read
  refine ⟨compares.written read, fun members writes => ?_⟩
  obtain ⟨agree, respects, -⟩ := exists_respects
  obtain ⟨t, rfl, s, p, o, r, v, w, -⟩ := Record.told respects nodup_names writes read
  exact
    { serviceId := partValue_of_required s
      planId := partValue_of_required p
      appGuid := partValue_of_text o
      bindResource := partValue_of_value r
      parameters := partValue_of_value v
      context := partValue_of_value w }

end BindBody

end Mock

end ServiceBroker
