import Mathlib.Tactic.SplitIfs
import ServiceBroker.Proofs.Reply

/-!
# How the answers to the operations are sorted

What a status means depends on the operation, and what a body means depends on both. The
definitions sort in the order of the tests: gone first, then a conflict, then an acceptance,
then completion. Here the same is said without an order. `Operation.success?` is the table of
the statuses that count as a success and of what is read in each; every other answer is an error
(`Operation.errorOf`). The two say all there is to say of an answer (`Operation.parse_eq`).

From this each class of results can be told from the status and the body alone: an answer is
read, malformed, gone, in conflict, or a failure that keeps the status and the body. A blank body
is never malformed and reads like the empty object, except in the answer to a poll, which has no
empty form. `Operation.answers_are_sorted` puts them together.
-/

namespace ServiceBroker

/-- **A body as a value**, a blank one being the empty form. -/
def Json.decodeOr {α : Type} (empty : α) (reader : Json.Reader α) (body : String) :
    Except Json.ReadError α :=
  if Text.isBlank body then .ok empty else Json.decode reader body

/-- **What an operation reads in a success**: the answer, or the fault of the body. A status
that is none of success has nothing to be read. -/
def Operation.success? : (operation : Operation) → Http.Response →
    Option (Except Json.ReadError operation.Answer)
  | .catalog, response =>
    if response.status = 200 then some (Json.decodeOr {} Catalog.record.read response.body)
    else none
  | .provision, response =>
    if response.status = 200 ∨ response.status = 201 then
      some ((Json.decodeOr {} Provisioned.record.read response.body).map .complete)
    else if response.status = 202 then
      some ((AcceptedBody.tokenOf response.body).map .accepted)
    else none
  | .deprovision, response | .unbind, response =>
    if response.status = 200 ∨ response.status = 410 then some (.ok (.complete ()))
    else if response.status = 202 then
      some ((AcceptedBody.tokenOf response.body).map .accepted)
    else none
  | .getInstance, response =>
    if response.status = 200 then
      some (Json.decodeOr {} InstanceDetails.record.read response.body)
    else none
  | .bind, response =>
    if response.status = 200 ∨ response.status = 201 then
      some ((Binding.ofBody response.body).map .complete)
    else if response.status = 202 then
      some ((AcceptedBody.tokenOf response.body).map .accepted)
    else none
  | .getBinding, response =>
    if response.status = 200 then some (Binding.ofBody response.body) else none
  | .instanceLastOperation, response | .bindingLastOperation, response =>
    if response.status = 200 then some (LastOperation.ofBody response.body) else none

/-- **The error of an answer that is no success.** -/
def Operation.errorOf (operation : Operation) (response : Http.Response) : CallError :=
  if response.status = 410 ∧ operation.targetsResource then .gone operation
  else if response.status = 409 ∧ operation = .bind then .conflict operation response.body
  else failure operation response.status response.body

theorem readBody_eq {α : Type} (operation : Operation) (reader : Json.Reader α) (body : String) :
    readBody operation reader body
      = (Json.decode reader body).mapError (.malformed operation) := by
  unfold readBody
  cases Json.decode reader body <;> rfl

/-- A body that may be blank is read in the same way. -/
theorem readBodyOr_eq {α : Type} (empty : α) (operation : Operation) (reader : Json.Reader α)
    (body : String) :
    readBodyOr empty operation reader body
      = (Json.decodeOr empty reader body).mapError (.malformed operation) := by
  unfold readBodyOr Json.decodeOr
  split
  · rfl
  · exact readBody_eq operation reader body

/-- What is read of an acceptance is its token. -/
theorem acceptance_eq (operation : Operation) (body : String) :
    acceptance operation body
      = ((AcceptedBody.tokenOf body).map .accepted).mapError (.malformed operation) := by
  unfold acceptance AcceptedBody.tokenOf
  rw [readBodyOr_eq]
  unfold Json.decodeOr
  cases Text.isBlank body with
  | true => rfl
  | false => cases Json.decode AcceptedBody.record.read body <;> rfl

/-- **The order of the tests does not matter**: acceptance, completion and error exclude each
other. -/
theorem classify_eq (operation : Operation) (response : Http.Response) :
    classify operation response
      = if response.status = 202 ∧ operation.acceptsIncomplete then
          ((AcceptedBody.tokenOf response.body).map .accepted).mapError (.malformed operation)
        else if completes operation response.status then .ok (.complete ())
        else .error (operation.errorOf response) := by
  by_cases complete : completes operation response.status = true
  · have notAccepted : ¬(response.status = 202 ∧ operation.acceptsIncomplete = true) := by
      rintro ⟨status, -⟩
      rw [status] at complete
      cases operation <;> exact nomatch complete
    rw [classify_of_completes complete, if_neg notAccepted, if_pos complete]
  · unfold classify Operation.errorOf
    rw [acceptance_eq, if_neg complete, if_neg complete]
    by_cases accepted : response.status = 202 ∧ operation.acceptsIncomplete = true
    · rw [if_neg (by omega), if_neg (by omega), if_pos accepted, if_pos accepted]
    · rw [if_neg accepted, if_neg accepted]
      split
      · rfl
      · split <;> rfl

section Shapes

variable {α : Type} (empty : α) (operation : Operation) (reader : Json.Reader α)
  (response : Http.Response)

/-- An operation that changes nothing is complete with a 200 alone. -/
theorem classify_eq_of_asks (asks : operation.acceptsIncomplete = false) :
    classify operation response
      = if response.status = 200 then .ok (.complete ())
        else .error (operation.errorOf response) := by
  have completes_eq : completes operation response.status = (response.status == 200) := by
    cases operation <;> first | rfl | exact nomatch asks
  rw [classify_eq, if_neg (by simp [asks]), completes_eq]
  simp only [beq_iff_eq]

theorem reading_eq (asks : operation.acceptsIncomplete = false) :
    reading empty operation reader response
      = if response.status = 200 then
          (Json.decodeOr empty reader response.body).mapError (.malformed operation)
        else .error (operation.errorOf response) := by
  unfold reading
  rw [classify_eq_of_asks operation response asks]
  by_cases ok : response.status = 200
  · rw [if_pos ok, if_pos ok]
    exact readBodyOr_eq ..
  · rw [if_neg ok, if_neg ok]

theorem polled_eq (asks : operation.acceptsIncomplete = false) :
    polled operation response
      = if response.status = 200 then
          (LastOperation.ofBody response.body).mapError (.malformed operation)
        else .error (operation.errorOf response) := by
  unfold polled
  rw [classify_eq_of_asks operation response asks]
  by_cases ok : response.status = 200
  · rw [if_pos ok, if_pos ok]
    exact readBody_eq ..
  · rw [if_neg ok, if_neg ok]

theorem creation_eq (creates : operation = .provision ∨ operation = .bind) :
    creation empty operation reader response
      = if response.status = 200 ∨ response.status = 201 then
          ((Json.decodeOr empty reader response.body).map .complete).mapError
            (.malformed operation)
        else if response.status = 202 then
          ((AcceptedBody.tokenOf response.body).map .accepted).mapError (.malformed operation)
        else .error (operation.errorOf response) := by
  have accepts : operation.acceptsIncomplete = true := by
    obtain rfl | rfl := creates <;> rfl
  have completes_iff :
      completes operation response.status = true ↔ response.status = 200 ∨ response.status = 201 := by
    obtain rfl | rfl := creates <;> simp [completes]
  unfold creation
  rw [classify_eq]
  by_cases accepted : response.status = 202
  · rw [if_pos ⟨accepted, accepts⟩, if_neg (by omega), if_pos accepted]
    cases AcceptedBody.tokenOf response.body <;> rfl
  · rw [if_neg fun both => accepted both.1, if_neg accepted]
    by_cases complete : completes operation response.status = true
    · rw [if_pos complete, if_pos (completes_iff.mp complete), readBodyOr_eq]
      cases Json.decodeOr empty reader response.body <;> rfl
    · rw [if_neg complete, if_neg (mt completes_iff.mpr complete)]

theorem deletion_eq (deletes : operation = .deprovision ∨ operation = .unbind) :
    deletion operation response
      = if response.status = 200 ∨ response.status = 410 then .ok (.complete ())
        else if response.status = 202 then
          ((AcceptedBody.tokenOf response.body).map .accepted).mapError (.malformed operation)
        else .error (operation.errorOf response) := by
  have accepts : operation.acceptsIncomplete = true := by
    obtain rfl | rfl := deletes <;> rfl
  have completes_iff : completes operation response.status = true ↔ response.status = 200 := by
    obtain rfl | rfl := deletes <;> simp [completes]
  have targets : operation.targetsResource = true := by
    obtain rfl | rfl := deletes <;> rfl
  have noBind : operation ≠ .bind := by
    obtain rfl | rfl := deletes <;> decide
  unfold deletion
  rw [classify_eq]
  by_cases accepted : response.status = 202
  · rw [if_pos ⟨accepted, accepts⟩, if_neg (by omega), if_pos accepted]
    cases AcceptedBody.tokenOf response.body <;> rfl
  · rw [if_neg fun both => accepted both.1, if_neg accepted]
    by_cases ok : response.status = 200
    · rw [if_pos (completes_iff.mpr ok), if_pos (.inl ok)]
    · rw [if_neg (mt completes_iff.mp ok)]
      unfold Operation.errorOf
      by_cases gone : response.status = 410
      · rw [if_pos ⟨gone, targets⟩, if_pos (.inr gone)]
      · obtain ⟨code, description, failed⟩ := failure_eq operation response.status response.body
        rw [if_neg fun both => gone both.1, if_neg fun both => noBind both.2,
          if_neg (by omega), failed]

end Shapes

/-- **What an operation reads in an answer**: what a success holds, or the error of any other
answer. -/
theorem Operation.parse_eq (operation : Operation) (response : Http.Response) :
    operation.parse response
      = match operation.success? response with
        | some read => read.mapError (.malformed operation)
        | none => .error (operation.errorOf response) := by
  cases operation with
  | catalog | getInstance | getBinding =>
    refine (reading_eq _ _ _ response rfl).trans ?_
    unfold success?
    dsimp only
    split_ifs <;> rfl
  | instanceLastOperation | bindingLastOperation =>
    refine (polled_eq _ response rfl).trans ?_
    unfold success?
    dsimp only
    split_ifs <;> rfl
  | provision | bind =>
    refine (creation_eq _ _ _ response (by decide)).trans ?_
    unfold success?
    dsimp only
    split_ifs <;> rfl
  | deprovision | unbind =>
    refine (deletion_eq _ response (by decide)).trans ?_
    unfold success?
    dsimp only
    split_ifs <;> rfl

/-! ## Answers that are no success -/

theorem errorOf_of_gone {operation : Operation} {response : Http.Response}
    (gone : response.status = 410) (resource : operation ≠ .catalog) :
    operation.errorOf response = .gone operation := by
  have targets : operation.targetsResource = true := by
    cases operation <;> first | rfl | exact absurd rfl resource
  exact if_pos ⟨gone, targets⟩

theorem errorOf_of_conflict {response : Http.Response} (conflict : response.status = 409) :
    Operation.errorOf .bind response = .conflict .bind response.body := by
  unfold Operation.errorOf
  rw [if_neg (by omega), if_pos ⟨conflict, rfl⟩]

theorem errorOf_of_failed {operation : Operation} {response : Http.Response}
    (notGone : response.status = 410 → operation = .catalog)
    (noConflict : response.status = 409 → operation ≠ .bind) :
    ∃ code description, operation.errorOf response
      = .failed operation response.status response.body code description := by
  have noTarget : ¬(response.status = 410 ∧ operation.targetsResource = true) := by
    rintro ⟨gone, targets⟩
    rw [notGone gone] at targets
    exact nomatch targets
  unfold Operation.errorOf
  rw [if_neg noTarget, if_neg fun both => noConflict both.1 both.2]
  exact failure_eq ..

/-- **An error says that something is gone, that something is in the way, or neither.** -/
theorem errorOf_cases (operation : Operation) (response : Http.Response) :
    (response.status = 410 ∧ operation ≠ .catalog ∧
      operation.errorOf response = .gone operation) ∨
    (response.status = 409 ∧ operation = .bind ∧
      operation.errorOf response = .conflict operation response.body) ∨
    ((response.status = 410 → operation = .catalog) ∧ (response.status = 409 → operation ≠ .bind) ∧
      ∃ code description, operation.errorOf response
        = .failed operation response.status response.body code description) := by
  by_cases gone : response.status = 410 ∧ operation ≠ .catalog
  · exact .inl ⟨gone.1, gone.2, errorOf_of_gone gone.1 gone.2⟩
  have notGone : response.status = 410 → operation = .catalog := fun status =>
    Decidable.not_not.mp fun resource => gone ⟨status, resource⟩
  by_cases conflict : response.status = 409 ∧ operation = .bind
  · obtain ⟨status, rfl⟩ := conflict
    exact .inr (.inl ⟨status, rfl, errorOf_of_conflict status⟩)
  have noConflict : response.status = 409 → operation ≠ .bind := fun status same =>
    conflict ⟨status, same⟩
  exact .inr (.inr ⟨notGone, noConflict, errorOf_of_failed notGone noConflict⟩)

theorem success?_of_gone {operation : Operation} {response : Http.Response}
    (gone : response.status = 410) (notDeprovision : operation ≠ .deprovision)
    (notUnbind : operation ≠ .unbind) : operation.success? response = none := by
  cases operation <;> simp_all [Operation.success?]

theorem exists_success?_of_gone {operation : Operation} {response : Http.Response}
    (gone : response.status = 410) (deletes : operation = .deprovision ∨ operation = .unbind) :
    ∃ answer, operation.success? response = some (.ok answer) := by
  obtain rfl | rfl := deletes
  · exact ⟨.complete (), if_pos (.inr gone)⟩
  · exact ⟨.complete (), if_pos (.inr gone)⟩

theorem success?_of_conflict {response : Http.Response} (conflict : response.status = 409) :
    Operation.success? .bind response = none := by
  simp [Operation.success?, conflict]

/-! ## Blank bodies -/

/-- There is no last operation in a blank body: nothing in it opens a record. -/
theorem exists_ofBody_error_of_blank {body : String} (blank : Text.isBlank body = true) :
    ∃ source, LastOperation.ofBody body = .error source := by
  have begins : ∃ fault, LastOperation.record.read Json.maxDepth body.toList = .error fault := by
    unfold Json.Record.read
    cases skipped : Json.skipSpace body.toList with
    | nil => exact ⟨_, rfl⟩
    | cons c rest =>
      have mem : c ∈ body.toList :=
        (List.dropWhile_suffix _).subset (skipped ▸ List.mem_cons_self)
      have blankChar : Text.isBlankChar c = true := List.all_eq_true.mp blank c mem
      have notBrace : c ≠ '{' := by
        rintro rfl
        exact nomatch blankChar
      have notBracket : c ≠ '[' := by
        rintro rfl
        exact nomatch blankChar
      dsimp only
      rw [if_neg notBrace, if_neg notBracket]
      exact ⟨_, rfl⟩
  obtain ⟨fault, failed⟩ := begins
  unfold LastOperation.ofBody Json.decode
  rw [failed]
  exact ⟨_, rfl⟩

theorem decodeOr_of_blank {α : Type} (empty : α) (reader : Json.Reader α) {body : String}
    (blank : Text.isBlank body = true) : Json.decodeOr empty reader body = .ok empty :=
  if_pos blank

theorem tokenOf_of_blank {body : String} (blank : Text.isBlank body = true) :
    AcceptedBody.tokenOf body = .ok none :=
  if_pos blank

theorem ofBody_of_blank {body : String} (blank : Text.isBlank body = true) :
    Binding.ofBody body = .ok {} :=
  if_pos blank

/-- The two operations that ask after the last one. -/
def Operation.isPoll : Operation → Bool
  | .instanceLastOperation | .bindingLastOperation => true
  | _ => false

/-- **A blank body reads like the empty object**, and never badly, except in a poll. -/
theorem success?_of_blank {operation : Operation} {response : Http.Response}
    (blank : Text.isBlank response.body = true) (notPoll : operation.isPoll = false) :
    operation.success? response = operation.success? { response with body := "\x7b\x7d" } ∧
      ∀ source, operation.success? response ≠ some (.error source) := by
  have token : AcceptedBody.tokenOf "\x7b\x7d" = .ok none := rfl
  have catalog : Json.decodeOr {} Catalog.record.read "\x7b\x7d" = .ok {} := rfl
  have provisioned : Json.decodeOr {} Provisioned.record.read "\x7b\x7d" = .ok {} := rfl
  have details : Json.decodeOr {} InstanceDetails.record.read "\x7b\x7d" = .ok {} := rfl
  have binding : Binding.ofBody "\x7b\x7d" = .ok {} := rfl
  cases operation with
  | instanceLastOperation | bindingLastOperation => exact nomatch notPoll
  | _ =>
    simp only [Operation.success?, decodeOr_of_blank _ _ blank, tokenOf_of_blank blank,
      ofBody_of_blank blank, token, catalog, provisioned, details, binding, true_and]
    intro source
    split_ifs <;> simp [Except.map]

/-! ## Every answer -/

section Parse

variable {operation : Operation} {response : Http.Response}

/-- **An answer is a success that is read, a success that cannot be read, or an error.** -/
theorem parse_cases (operation : Operation) (response : Http.Response) :
    (∃ answer, operation.success? response = some (.ok answer) ∧
      operation.parse response = .ok answer) ∨
    (∃ source, operation.success? response = some (.error source) ∧
      operation.parse response = .error (.malformed operation source)) ∨
    (operation.success? response = none ∧
      operation.parse response = .error (operation.errorOf response)) := by
  rw [operation.parse_eq response]
  cases operation.success? response with
  | none => exact .inr (.inr ⟨rfl, rfl⟩)
  | some read =>
    cases read with
    | ok answer => exact .inl ⟨answer, rfl, rfl⟩
    | error source => exact .inr (.inl ⟨source, rfl, rfl⟩)

/-- The error of an answer that is no success is not that of a body that cannot be read. -/
theorem errorOf_ne_malformed (operation failed : Operation) (response : Http.Response)
    (source : Json.ReadError) : operation.errorOf response ≠ .malformed failed source := by
  obtain ⟨-, -, eq⟩ | ⟨-, -, eq⟩ | ⟨-, -, code, description, eq⟩ :=
    errorOf_cases operation response
  all_goals
    rw [eq]
    exact nofun

/-- **An answer is read** where a success can be. -/
theorem parse_eq_ok_iff (answer : operation.Answer) :
    operation.parse response = .ok answer ↔ operation.success? response = some (.ok answer) := by
  obtain ⟨other, success, parsed⟩ | ⟨source, success, parsed⟩ | ⟨success, parsed⟩ :=
    parse_cases operation response
  · rw [parsed, success, Except.ok.injEq, Option.some_inj, Except.ok.injEq]
  · rw [parsed, success]
    exact iff_of_false nofun nofun
  · rw [parsed, success]
    exact iff_of_false nofun nofun

/-- **An answer is malformed** where a success cannot be read. -/
theorem parse_eq_malformed_iff (failed : Operation) (source : Json.ReadError) :
    operation.parse response = .error (.malformed failed source) ↔
      failed = operation ∧ operation.success? response = some (.error source) := by
  obtain ⟨other, success, parsed⟩ | ⟨other, success, parsed⟩ | ⟨success, parsed⟩ :=
    parse_cases operation response
  · rw [parsed, success]
    exact iff_of_false nofun nofun
  · rw [parsed, success]
    constructor
    · intro same
      obtain ⟨rfl, rfl⟩ := CallError.malformed.inj (Except.error.inj same)
      exact ⟨rfl, rfl⟩
    · rintro ⟨rfl, same⟩
      obtain rfl := Except.error.inj (Option.some.inj same)
      rfl
  · rw [parsed, success]
    exact iff_of_false (fun same => errorOf_ne_malformed _ _ _ _ (Except.error.inj same)) nofun

/-- **An answer says that something is gone** with a 410, unless it is the catalog that was asked
for or a deletion. -/
theorem exists_isGone_parse_iff :
    (∃ error, operation.parse response = .error error ∧ error.isGone = true) ↔
      response.status = 410 ∧ operation ≠ .catalog ∧ operation ≠ .deprovision ∧
        operation ≠ .unbind := by
  constructor
  · rintro ⟨error, same, isGone⟩
    obtain ⟨answer, -, parsed⟩ | ⟨source, -, parsed⟩ | ⟨refused, parsed⟩ :=
      parse_cases operation response
    · exact nomatch parsed.symm.trans same
    · obtain rfl := Except.error.inj (parsed.symm.trans same)
      exact nomatch isGone
    · obtain rfl := Except.error.inj (parsed.symm.trans same)
      obtain ⟨gone, resource, -⟩ | ⟨-, -, eq⟩ | ⟨-, -, code, description, eq⟩ :=
        errorOf_cases operation response
      · have keeps : ¬(operation = .deprovision ∨ operation = .unbind) := fun deletes => by
          obtain ⟨answer, success⟩ := exists_success?_of_gone gone deletes
          exact nomatch refused.symm.trans success
        exact ⟨gone, resource, not_or.mp keeps⟩
      · rw [eq] at isGone
        exact nomatch isGone
      · rw [eq] at isGone
        exact nomatch isGone
  · rintro ⟨gone, resource, notDeprovision, notUnbind⟩
    refine ⟨.gone operation, ?_, rfl⟩
    rw [operation.parse_eq, success?_of_gone gone notDeprovision notUnbind]
    exact congrArg Except.error (errorOf_of_gone gone resource)

/-- **An answer is a conflict** with a 409 to the creation of a binding, and the body is kept. -/
theorem isConflict_parse_iff (error : CallError) :
    operation.parse response = .error error ∧ error.isConflict = true ↔
      operation = .bind ∧ response.status = 409 ∧ error = .conflict .bind response.body := by
  constructor
  · rintro ⟨same, isConflict⟩
    obtain ⟨answer, -, parsed⟩ | ⟨source, -, parsed⟩ | ⟨-, parsed⟩ :=
      parse_cases operation response
    · exact nomatch parsed.symm.trans same
    · obtain rfl := Except.error.inj (parsed.symm.trans same)
      exact nomatch isConflict
    · obtain rfl := Except.error.inj (parsed.symm.trans same)
      obtain ⟨-, -, eq⟩ | ⟨conflict, rfl, eq⟩ | ⟨-, -, code, description, eq⟩ :=
        errorOf_cases operation response
      · rw [eq] at isConflict
        exact nomatch isConflict
      · exact ⟨rfl, conflict, eq⟩
      · rw [eq] at isConflict
        exact nomatch isConflict
  · rintro ⟨rfl, conflict, rfl⟩
    refine ⟨?_, rfl⟩
    rw [Operation.parse_eq, success?_of_conflict conflict]
    exact congrArg Except.error (errorOf_of_conflict conflict)

/-- **Any other answer is a failure** that keeps the operation, the status and the body. -/
theorem exists_failed_parse_iff :
    (∃ code description, operation.parse response
        = .error (.failed operation response.status response.body code description)) ↔
      operation.success? response = none ∧ (response.status = 410 → operation = .catalog) ∧
        (response.status = 409 → operation ≠ .bind) := by
  constructor
  · rintro ⟨code, description, same⟩
    obtain ⟨answer, -, parsed⟩ | ⟨source, -, parsed⟩ | ⟨refused, parsed⟩ :=
      parse_cases operation response
    · exact nomatch parsed.symm.trans same
    · exact nomatch parsed.symm.trans same
    · obtain ⟨-, -, eq⟩ | ⟨-, -, eq⟩ | ⟨notGone, noConflict, -⟩ :=
        errorOf_cases operation response
      · rw [eq] at parsed
        exact nomatch parsed.symm.trans same
      · rw [eq] at parsed
        exact nomatch parsed.symm.trans same
      · exact ⟨refused, notGone, noConflict⟩
  · rintro ⟨refused, notGone, noConflict⟩
    obtain ⟨code, description, eq⟩ := errorOf_of_failed notGone noConflict
    refine ⟨code, description, ?_⟩
    rw [operation.parse_eq, refused]
    exact congrArg Except.error eq

/-- An acceptance of what changes nothing is a failure. -/
theorem exists_failed_parse_of_accepted (accepted : response.status = 202)
    (asks : operation.acceptsIncomplete = false) :
    ∃ code description, operation.parse response
      = .error (.failed operation 202 response.body code description) := by
  have noSuccess : operation.success? response = none := by
    cases operation <;> simp_all [Operation.success?, Operation.acceptsIncomplete]
  have failed := exists_failed_parse_iff.mpr
    ⟨noSuccess, fun gone => by omega, fun conflict => by omega⟩
  rwa [accepted] at failed

/-- **The status of an error** is that of the answer, unless its body could not be read. -/
theorem status?_of_parse {error : CallError} (failed : operation.parse response = .error error) :
    error.status? = some response.status ∨
      error.status? = none ∧ ∃ source, error = .malformed operation source := by
  obtain ⟨answer, -, parsed⟩ | ⟨source, -, parsed⟩ | ⟨-, parsed⟩ := parse_cases operation response
  · exact nomatch parsed.symm.trans failed
  · obtain rfl := Except.error.inj (parsed.symm.trans failed)
    exact .inr ⟨rfl, source, rfl⟩
  · obtain rfl := Except.error.inj (parsed.symm.trans failed)
    refine .inl ?_
    obtain ⟨gone, -, eq⟩ | ⟨conflict, -, eq⟩ | ⟨-, -, code, description, eq⟩ :=
      errorOf_cases operation response
    · rw [eq, gone]
      rfl
    · rw [eq, conflict]
      rfl
    · rw [eq]
      rfl

/-- **A blank body is the empty object**, in a success that is no poll. -/
theorem parse_of_blank (blank : Text.isBlank response.body = true)
    (noPoll : operation.isPoll = false)
    (succeeds : (operation.success? response).isSome = true) :
    ∃ answer, operation.parse response = .ok answer ∧
      operation.parse { response with body := "\x7b\x7d" } = .ok answer := by
  obtain ⟨same, readable⟩ := success?_of_blank blank noPoll
  obtain ⟨read, success⟩ := Option.isSome_iff_exists.mp succeeds
  cases read with
  | error source => exact absurd success (readable source)
  | ok answer =>
    exact ⟨answer, (parse_eq_ok_iff answer).mpr success,
      (parse_eq_ok_iff answer).mpr (same ▸ success)⟩

/-- **A blank body says nothing of the last operation**, and is malformed. -/
theorem parse_poll_of_blank (blank : Text.isBlank response.body = true)
    (poll : operation.isPoll = true) (ok : response.status = 200) :
    ∃ source, operation.parse response = .error (.malformed operation source) := by
  obtain ⟨source, unreadable⟩ := exists_ofBody_error_of_blank blank
  refine ⟨source, (parse_eq_malformed_iff operation source).mpr ⟨rfl, ?_⟩⟩
  cases operation with
  | instanceLastOperation | bindingLastOperation =>
    unfold Operation.success?
    dsimp only
    rw [if_pos ok, unreadable]
  | _ => exact nomatch poll

end Parse

/-- **Every answer falls into exactly one class**, told by its status and its body: gone, a
conflict that keeps the body, malformed, read, or a failure that keeps operation, status and body.
An error has the status of the answer unless the body could not be read, an acceptance of what
changes nothing is a failure, and a blank body counts as the empty object except in a poll. -/
theorem Operation.answers_are_sorted (operation : Operation) (response : Http.Response) :
    let result := operation.parse response
    ((∃ error, result = .error error ∧ error.isGone = true) ↔
      response.status = 410 ∧ operation ≠ .catalog ∧ operation ≠ .deprovision ∧
        operation ≠ .unbind) ∧
    (∀ error, result = .error error ∧ error.isConflict = true ↔
      operation = .bind ∧ response.status = 409 ∧ error = .conflict .bind response.body) ∧
    (∀ failed source, result = .error (.malformed failed source) ↔
      failed = operation ∧ operation.success? response = some (.error source)) ∧
    (∀ answer, result = .ok answer ↔ operation.success? response = some (.ok answer)) ∧
    ((∃ code description, result
        = .error (.failed operation response.status response.body code description)) ↔
      operation.success? response = none ∧ (response.status = 410 → operation = .catalog) ∧
        (response.status = 409 → operation ≠ .bind)) ∧
    (∀ error, result = .error error → error.status? = some response.status ∨
      error.status? = none ∧ ∃ source, error = .malformed operation source) ∧
    (response.status = 202 → operation.acceptsIncomplete = false → ∃ code description,
      result = .error (.failed operation 202 response.body code description)) ∧
    (Text.isBlank response.body = true →
      if operation.isPoll then
        response.status = 200 → ∃ source, result = .error (.malformed operation source)
      else (operation.success? response).isSome = true → ∃ answer, result = .ok answer ∧
        operation.parse { response with body := "\x7b\x7d" } = .ok answer) := by
  intro result
  refine ⟨exists_isGone_parse_iff, isConflict_parse_iff, parse_eq_malformed_iff, parse_eq_ok_iff,
    exists_failed_parse_iff, fun error => status?_of_parse, exists_failed_parse_of_accepted,
    fun blank => ?_⟩
  split
  · rename_i poll
    exact parse_poll_of_blank blank poll
  · rename_i noPoll
    exact parse_of_blank blank (Bool.eq_false_iff.mpr noPoll)

end ServiceBroker
