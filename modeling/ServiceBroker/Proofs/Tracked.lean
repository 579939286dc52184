import ServiceBroker.Client.Tracked
import ServiceBroker.Proofs.RecordReadBack

/-!
# Keeping an operation in flight

A tracked operation is kept as JSON and picked up later, perhaps by another
process. What is picked up is what was kept: `TrackedOperation.decode_text` says
so for every kind of change, with a token or without, whatever the identifiers
are.

The kind is written into the same object as the operation's own members. They
come first, are set aside while the object is read, and the kind is found among
them once the object has been closed. A kind that is kept without its operation
is read from an object of its own, and is the same kind again
(`OperationKind.reads_written`).
-/

namespace ServiceBroker

open Json (Read Reads Takes)

namespace OperationKind

/-- **A kind is found among the members that it was written as.** -/
theorem ofAside_members (kind : OperationKind) : ofAside kind.members = .ok kind := by
  cases kind <;> rfl

/-! ## A kind on its own -/

/-- **What a member does** to the tag and the members beside it. -/
def taking (depth : Nat) : Option ChangeKind × Members → String →
    Read (Option ChangeKind × Members) := fun (tag, others) key =>
  if key = "kind" then
    match tag with
    | some _ => fun s => .error (.unsettled (.duplicateField key) s)
    | none =>
      Read.map (fun tag => (some tag, others))
        (Json.memberValue key (Json.variantName ChangeKind.names depth))
  else
    Read.map (fun v => (tag, others ++ [(key, v)])) (Json.memberValue key (Json.value depth))

theorem objectBody_eq (depth : Nat) (s : List Char) :
    objectBody depth s =
      match Json.members (taking depth) (none, []) s with
      | .error fault => .error fault
      | .ok ((some tag, others), rest) => .ok ((tag, .members others), rest)
      | .ok ((none, _), rest) => .error (.unsettled (.missingField "kind") rest) := rfl

/-- The members of a kind lead to its tag and to what is told with the tag. -/
theorem exists_takes_members (kind : OperationKind) (depth : Nat) :
    ∃ tag others, Takes (taking depth) (none, []) kind.members (some tag, others) ∧
      ofMembers tag others = .ok kind := by
  have tagged {name : String} {tag : ChangeKind} (known : ChangeKind.names.lookup name = some tag) :
      Takes (taking depth) (none, []) [("kind", .string name)] (some tag, []) :=
    .cons (((Json.reads_variantName known depth).memberValue "kind").map _) (.nil _)
  have beside (tag : ChangeKind) (bindingId : String) :
      Takes (taking depth) (some tag, []) [("binding_id", .string bindingId)]
        (some tag, [("binding_id", .string bindingId)]) :=
    .cons (((Json.reads_value_string depth bindingId).memberValue "binding_id").map _) (.nil _)
  cases kind with
  | provision => exact ⟨.provision, [], tagged rfl, rfl⟩
  | deprovision => exact ⟨.deprovision, [], tagged rfl, rfl⟩
  | bind bindingId => exact ⟨.bind, _, (tagged rfl).append (beside .bind bindingId), rfl⟩
  | unbind bindingId => exact ⟨.unbind, _, (tagged rfl).append (beside .unbind bindingId), rfl⟩

/-- **A kind is read back** from the object that it is written as. -/
theorem reads_written (kind : OperationKind) (depth : Nat) :
    Reads (reader (depth + 1)) kind.toJson.write kind := fun rest ends => by
  obtain ⟨tag, others, takes, found⟩ := kind.exists_takes_members depth
  have opens : Reads (Json.opened .brace objectBody (depth + 1)) kind.toJson.write
      (tag, .members others) :=
    Json.reads_opened objectBody fun rest => by
      rw [objectBody_eq, Json.members_entries takes rest]
  have opened := opens rest ends
  have written : kind.toJson.write = '{' :: Json.entries kind.members := Json.write_object _
  rw [written, List.cons_append] at opened ⊢
  have skipped (s : List Char) : Json.skipSpace ('{' :: s) = '{' :: s := rfl
  unfold reader
  rw [skipped]
  dsimp only
  rw [if_pos rfl, opened]
  dsimp only
  rw [found]

end OperationKind

/-! ## The whole operation -/

namespace TrackedOperation

/-- The members of the operation's own, as they are written. -/
def ownMembers (tracked : TrackedOperation) : Members :=
  Json.member "instance_id" (.string tracked.instanceId) ++
    Json.member "service_id" (.string tracked.serviceId) ++
    Json.member "plan_id" (.string tracked.planId) ++
    Json.member? "operation" (tracked.operation.map .string)

/-- The members of the operation's own are written as its fields. -/
theorem written_ownMembers (tracked : TrackedOperation) (depth : Nat) :
    fields.Written depth
      (tracked.instanceId, tracked.serviceId, tracked.planId, tracked.operation, ())
      tracked.ownMembers := by
  obtain ⟨kind, instanceId, serviceId, planId, operation⟩ := tracked
  refine .present (Json.reads_stringReader depth instanceId) <|
    .present (Json.reads_stringReader depth serviceId) <|
    .present (Json.reads_stringReader depth planId) ?_
  cases operation with
  | none => exact .absent rfl (.nil depth)
  | some token => exact .present (Json.reads_optional_string depth token) (.nil depth)

/-- The members of a kind are set aside, one after the other. -/
theorem takes_kind (kind : OperationKind) (depth : Nat) :
    Json.Takes (fields.taking setAside depth) (fields.blank, []) kind.members
      (fields.blank, kind.members) := by
  have aside (before : Members) {key : String} (unknown : key ∉ fields.names) (s : String) :
      Json.Takes (fields.taking setAside depth) (fields.blank, before) [(key, .string s)]
        (fields.blank, before ++ [(key, .string s)]) :=
    Json.Fields.takes_other unknown
      (((Json.reads_value_string depth s).memberValue key).map fun v => before ++ [(key, v)])
  cases kind with
  | provision => exact aside [] (by decide) "provision"
  | deprovision => exact aside [] (by decide) "deprovision"
  | bind bindingId =>
    exact (aside [] (by decide) "bind").append (aside _ (by decide) bindingId)
  | unbind bindingId =>
    exact (aside [] (by decide) "unbind").append (aside _ (by decide) bindingId)

/-- **A tracked operation is read back**: the one that was written is found in its
text. -/
theorem decode_text (tracked : TrackedOperation) :
    Json.decode reader tracked.toJson.text = .ok tracked := by
  obtain ⟨draft, fills, finished⟩ :=
    (tracked.written_ownMembers 126).fills (by decide)
  have takes := (takes_kind tracked.kind 126).append (fills.takes tracked.kind.members)
  have inside (rest : List Char) :
      objectBody 126 (Json.entries (tracked.kind.members ++ tracked.ownMembers) ++ rest)
        = .ok (tracked, '}' :: rest) := by
    unfold objectBody
    rw [Json.Fields.object_entries takes finished rest]
    dsimp only
    rw [OperationKind.ofAside_members]
  have opens := Json.reads_opened objectBody inside
  have shape : tracked.toJson = .object (tracked.kind.members ++ tracked.ownMembers) := by
    unfold toJson ownMembers
    simp only [List.append_assoc]
  rw [shape]
  refine Json.decode_text ?_
  rw [Json.write_object] at opens ⊢
  exact opens

end TrackedOperation

end ServiceBroker
