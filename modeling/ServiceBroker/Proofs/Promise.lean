import ServiceBroker.Proofs.Tokens

/-!
# How long an operation stays in progress

A broker that accepts a change promises a number of answers that report progress, and one after
them that reports success. What counts towards the promise are the questions after the target
that name the operation's token, or none, and nothing else: whatever else is asked for, on this
target or on others, leaves what remains as it is, unless another change of the target is
accepted and takes the place.

`Mock.Pending.left` says what is left of an operation after a number of such questions; past the
one that finishes it, nothing is. Every effect takes from it what it should
(`Mock.Effect.countsDown`), and so does every history (`Mock.Settings.get?_operations_after`). So
the number of questions is all that the next answer depends on (`Mock.answers_are_counted`).

A question that comes as a HEAD is answered like a GET, but without the body. It counts all the
same, although the answer that was promised is not seen (`Mock.head_is_counted`).
-/

namespace ServiceBroker.Mock

/-! ## Questions that count -/

/-- **Whether a deed asks after an operation** on a target: with its token, or with none. -/
def Deed.AsksAfter (deed : Deed) (target : Target) (token : String) : Prop :=
  deed.aim = .question target none ∨ deed.aim = .question target (some token)

instance (deed : Deed) (target : Target) (token : String) :
    Decidable (deed.AsksAfter target token) :=
  inferInstanceAs (Decidable (_ ∨ _))

/-- **Whether a deed is the acceptance** of a change of a target. -/
def Deed.accepts (deed : Deed) (target : Target) : Bool :=
  match deed.aim with
  | .change other _ => other == target && deed.answer.status == 202
  | .catalog | .read _ | .question _ _ => false

/-- How often an operation is asked after. -/
def Deed.questions (target : Target) (token : String) (deeds : List Deed) : Nat :=
  deeds.countP (·.AsksAfter target token)

namespace Deed

variable {target : Target} {token : String} {deed : Deed}

theorem questions_append (deeds others : List Deed) :
    questions target token (deeds ++ others)
      = questions target token deeds + questions target token others :=
  List.countP_append

theorem questions_of_asksAfter (asks : deed.AsksAfter target token) :
    questions target token [deed] = 1 := by
  unfold questions
  rw [List.countP_singleton, if_pos (decide_eq_true asks)]

theorem questions_of_not (asks : ¬deed.AsksAfter target token) :
    questions target token [deed] = 0 := by
  unfold questions
  rw [List.countP_singleton, if_neg (by simpa using asks)]

/-- Only a question after the target counts. -/
theorem AsksAfter.exists_question (asks : deed.AsksAfter target token) :
    ∃ asked, deed.aim = .question target asked := by
  obtain none | named := asks
  · exact ⟨_, none⟩
  · exact ⟨_, named⟩

theorem asksAfter_of_right {asked : Option String} {answer : Answer}
    (right : asked = none ∨ asked = some token) :
    AsksAfter { aim := .question target asked, answer } target token := by
  obtain rfl | rfl := right
  · exact .inl rfl
  · exact .inr rfl

theorem not_asksAfter_of_ne {other : Target} {asked : Option String} {answer : Answer}
    (differs : other ≠ target) :
    ¬AsksAfter { aim := .question other asked, answer } target token := fun asks => by
  obtain ⟨_, same⟩ := asks.exists_question
  exact differs (Aim.question.inj same).1

end Deed

/-- **What is left of an operation** after some questions that count: they take from what
remains, and the one that finds nothing to take finishes the operation. -/
def Pending.left (pending : Pending) (questions : Nat) : Option Pending :=
  if questions ≤ pending.remaining then
    some { pending with remaining := pending.remaining - questions }
  else none

namespace Pending

variable {pending found : Pending} {questions : Nat}

/-- An operation that is left is the one that began. -/
theorem eq_of_left (left : pending.left questions = some found) :
    found = { pending with remaining := pending.remaining - questions } ∧
      questions ≤ pending.remaining := by
  unfold Pending.left at left
  split at left
  · rename_i enough
    exact ⟨(Option.some.inj left).symm, enough⟩
  · exact nomatch left

theorem token_of_left (left : pending.left questions = some found) :
    found.token = pending.token := by
  rw [(eq_of_left left).1]

theorem left_succ_of_none (left : pending.left questions = none) :
    pending.left (questions + 1) = none := by
  unfold Pending.left at left ⊢
  split at left
  · exact nomatch left
  · exact if_neg (by omega)

/-- A question that finds something takes one. -/
theorem left_succ_of_pos {remaining : Nat} (left : pending.left questions = some found)
    (remains : found.remaining = remaining + 1) :
    pending.left (questions + 1) = some { found with remaining } := by
  obtain ⟨rfl, enough⟩ := eq_of_left left
  dsimp only at remains ⊢
  unfold Pending.left
  rw [if_pos (by omega)]
  have less : pending.remaining - (questions + 1) = remaining := by omega
  rw [less]

theorem left_succ_of_zero (left : pending.left questions = some found)
    (done : found.remaining = 0) : pending.left (questions + 1) = none := by
  obtain ⟨rfl, enough⟩ := eq_of_left left
  dsimp only at done
  exact if_neg (by omega)

end Pending

/-! ## One effect -/

section Effects

variable {settings : Settings} {polls : Nat} {random : String} {store after : Store} {aim : Aim}
  {answer : Answer} {target : Target} {pending : Pending} {questions : Nat}

/-- **An effect takes from what is left of an operation** one for a question that counts, and
nothing for anything else, unless it is another acceptance for the same target. -/
theorem Effect.countsDown (effect : Effect settings random store aim answer after)
    (async : settings.mode = .async polls)
    (quiet : Deed.accepts { aim, answer } target = false)
    (slot : store.operations.get? target = pending.left questions) :
    after.operations.get? target
      = pending.left (questions + Deed.questions target pending.token [{ aim, answer }]) := by
  -- What is no question after the target leaves its place as it is, and does not count.
  have kept (unasked : ¬Deed.AsksAfter { aim, answer } target pending.token)
      (same : after.operations.get? target = store.operations.get? target) :
      after.operations.get? target
        = pending.left (questions + Deed.questions target pending.token [{ aim, answer }]) := by
    rw [same, slot, Deed.questions_of_not unasked, Nat.add_zero]
  cases effect with
  | catalog | read | declined | repeated =>
    exact kept (fun asks => nomatch asks.exists_question.choose_spec) rfl
  | made atOnce => exact nomatch atOnce.symm.trans async
  | @accepted other kind begun polls later begins =>
    refine kept (fun asks => nomatch asks.exists_question.choose_spec) ?_
    rw [Store.get?_operations_begin, begins.operations_eq]
    refine if_neg ?_
    rintro rfl
    have accepts : (target == target && true) = false := quiet
    exact nomatch (beq_self_eq_true target).symm.trans ((Bool.and_true _).symm.trans accepts)
  | @idle other asked free =>
    by_cases same : other = target
    · obtain rfl := same
      rw [free] at slot
      rw [free]
      by_cases asks : Deed.AsksAfter
          { aim := .question other asked, answer := if store.holds other then .succeeded else .gone }
          other pending.token
      · rw [Deed.questions_of_asksAfter asks, Pending.left_succ_of_none slot.symm]
      · rw [Deed.questions_of_not asks, Nat.add_zero, slot]
    · exact kept (Deed.not_asksAfter_of_ne same) rfl
  | @mismatched other named found busy wrong =>
    refine kept ?_ rfl
    rintro (none | same)
    · exact nomatch none
    · obtain ⟨rfl, named⟩ := Aim.question.inj same
      exact wrong ((Option.some.inj named).trans
        (Pending.token_of_left (slot.symm.trans busy)).symm)
  | @counted other asked found remaining busy right remains =>
    by_cases same : other = target
    · obtain rfl := same
      have left : pending.left questions = some found := slot.symm.trans busy
      rw [Pending.token_of_left left] at right
      rw [Store.get?_operations_begin, if_pos rfl,
        Deed.questions_of_asksAfter (Deed.asksAfter_of_right right),
        Pending.left_succ_of_pos left remains]
    · refine kept (Deed.not_asksAfter_of_ne same) ?_
      rw [Store.get?_operations_begin, if_neg (Ne.symm same)]
  | @finished other asked found busy right done =>
    by_cases same : other = target
    · obtain rfl := same
      have left : pending.left questions = some found := slot.symm.trans busy
      rw [Pending.token_of_left left] at right
      rw [Store.get?_operations_finish, if_pos rfl,
        Deed.questions_of_asksAfter (Deed.asksAfter_of_right right),
        Pending.left_succ_of_zero left done]
    · refine kept (Deed.not_asksAfter_of_ne same) ?_
      rw [Store.get?_operations_finish, if_neg (Ne.symm same)]

/-- **The answer to a question depends on what is left** of the operation. A token that is not the
operation's is refused as long as anything is. -/
theorem Effect.answer_of_left {asked : Option String}
    (effect : Effect settings random store (.question target asked) answer after)
    (slot : store.operations.get? target = pending.left questions) :
    let right := asked = none ∨ asked = some pending.token
    (pending.remaining < questions →
      answer = (if store.holds target then .succeeded else .gone) ∧ after = store) ∧
    (questions ≤ pending.remaining → ¬right →
      answer = .error 400 "UnknownOperation" "operation token does not match" ∧ after = store) ∧
    (questions < pending.remaining → right → answer = .inProgress pending.kind ∧
      after.instances = store.instances ∧ after.bindings = store.bindings) ∧
    (questions = pending.remaining → right →
      answer = .succeeded ∧ after = store.finish target pending.kind) := by
  intro right
  have left_iff : pending.left questions = none ↔ pending.remaining < questions := by
    unfold Pending.left
    split
    · exact iff_of_false nofun (by omega)
    · exact iff_of_true rfl (by omega)
  -- Every effect of a question fixes what was left before it, which leaves one of the four cases.
  cases effect with
  | idle free =>
    have past := left_iff.mp (slot.symm.trans free)
    exact ⟨fun _ => ⟨rfl, rfl⟩, fun _ => by omega, fun _ => by omega, fun _ => by omega⟩
  | mismatched busy wrong =>
    obtain ⟨rfl, enough⟩ := Pending.eq_of_left (slot.symm.trans busy)
    have notRight : ¬right := by
      rintro (none | same)
      · exact nomatch none
      · exact wrong (Option.some.inj same)
    exact ⟨fun _ => by omega, fun _ _ => ⟨rfl, rfl⟩, fun _ isRight => absurd isRight notRight,
      fun _ isRight => absurd isRight notRight⟩
  | counted busy isRight remains =>
    obtain ⟨rfl, enough⟩ := Pending.eq_of_left (slot.symm.trans busy)
    dsimp only at remains
    exact ⟨fun _ => by omega, fun _ notRight => absurd isRight notRight,
      fun _ _ => ⟨rfl, rfl, rfl⟩, fun _ => by omega⟩
  | finished busy isRight done =>
    obtain ⟨rfl, enough⟩ := Pending.eq_of_left (slot.symm.trans busy)
    dsimp only at done
    exact ⟨fun _ => by omega, fun _ notRight => absurd isRight notRight, fun _ => by omega,
      fun _ _ => ⟨rfl, rfl⟩⟩

end Effects

/-! ## Histories -/

/-- **A history takes from what is left of an operation** as many as there are questions in it
that count, unless another change of the target is accepted. -/
theorem Settings.get?_operations_after {settings : Settings} {polls : Nat} {target : Target}
    {pending : Pending} (async : settings.mode = .async polls) (history : List Turn)
    {store : Store} {questions : Nat}
    (quiet : ∀ deed ∈ settings.deeds history store, deed.accepts target = false)
    (slot : store.operations.get? target = pending.left questions) :
    (settings.after history store).operations.get? target
      = pending.left
          (questions + Deed.questions target pending.token (settings.deeds history store)) := by
  induction history generalizing store questions with
  | nil => exact slot
  | cons turn rest ih =>
    have restQuiet := fun deed mem => quiet deed (List.mem_append_right _ mem)
    show _ = pending.left (questions
      + Deed.questions target pending.token ((settings.deed? turn store).toList ++ _))
    rw [Deed.questions_append, ← Nat.add_assoc]
    obtain ⟨deed, done, -, -, effect⟩ | ⟨nothing, -, same⟩ := settings.turn_cases turn store
    · rw [done]
      exact ih restQuiet
        (effect.countsDown async (quiet deed (mem_deeds_cons done rest)) slot)
    · rw [nothing]
      exact ih restQuiet (by rwa [same])

/-- **A promise is kept to the letter.** A broker accepts a change of a target. Other requests
follow, of any clients, none of them accepted as a change of the same target. Then the answer to
a question after the target depends on how many of them have asked after the operation, with its
token or with none: fewer than promised, and it is progress; as many, and it is success, upon
which a deletion takes away what it should and a creation nothing. A question with another token
is refused until then. After that, every question is told whether the target is there. -/
theorem answers_are_counted (settings : Settings) (polls : Nat)
    (async : settings.mode = .async polls) (store : Store) (start question : Turn)
    (later : List Turn) (target : Target) (kind : ChangeKind) (asked : Option String)
    (asks : settings.asked? start = some (.change target kind))
    (accepted : settings.status start store = 202)
    (quiet : ∀ deed ∈ settings.deeds later (settings.next start store),
      deed.accepts target = false)
    (questioned : settings.asked? question = some (.question target asked)) :
    let token := kind.name ++ "-" ++ start.random
    let count := Deed.questions target token (settings.deeds later (settings.next start store))
    let now := settings.after later (settings.next start store)
    let next := settings.next question now
    let right := asked = none ∨ asked = some token
    ((settings.deed? start store).bind (·.token? target)
      = if settings.omitToken then none else some token) ∧
    ∃ answer, settings.deed? question now = some { aim := .question target asked, answer } ∧
      settings.status question now = answer.status ∧
      (polls < count → answer = (if now.holds target then .succeeded else .gone) ∧ next = now) ∧
      (count ≤ polls → ¬right →
        answer = .error 400 "UnknownOperation" "operation token does not match" ∧ next = now) ∧
      (count < polls → right → answer = .inProgress kind ∧
        next.instances = now.instances ∧ next.bindings = now.bindings) ∧
      (count = polls → right → answer = .succeeded ∧
        (kind = target.creation →
          next.instances = now.instances ∧ next.bindings = now.bindings) ∧
        (kind = target.deletion → ∀ other,
          next.holds other = (now.holds other && !decide (other.GoesWith target)))) := by
  intro token count now next right
  obtain ⟨first, done, status, effect⟩ := Settings.exists_effect asks store
  obtain ⟨_, begun, promised, begins, rfl, begunStore⟩ := effect.of_accepted (status ▸ accepted)
  obtain rfl := Mode.async.inj (async.symm.trans promised)
  -- What is in flight is the whole promise at first, and what is left of it in the end.
  have slot : (settings.next start store).operations.get? target
      = Pending.left { kind, token, remaining := polls } 0 := by
    rw [begunStore, Store.get?_operations_begin, if_pos rfl]
    rfl
  have slotNow := Settings.get?_operations_after async later quiet slot
  rw [Nat.zero_add] at slotNow
  obtain ⟨answer, answered, answeredStatus, asksEffect⟩ := Settings.exists_effect questioned now
  obtain ⟨past, wrong, progress, success⟩ := asksEffect.answer_of_left slotNow
  refine ⟨?_, answer, answered, answeredStatus, past, wrong, progress, fun last isRight => ?_⟩
  · rw [done]
    exact (if_pos ⟨rfl, rfl⟩).trans (text?_accepted settings token)
  · obtain ⟨succeeded, finished⟩ := success last isRight
    refine ⟨succeeded, ?_, ?_⟩
    · rintro rfl
      show (settings.next question now).instances = _ ∧ (settings.next question now).bindings = _
      rw [finished, Store.finish_eq, Store.conclude_creation]
      exact ⟨rfl, rfl⟩
    · rintro rfl other
      show (settings.next question now).holds other = _
      rw [finished, Store.holds_finish, Store.holds_conclude_deletion]

/-- A binding is deleted, and its instance with it. While the instance goes, someone asks after
the binding with a token that nobody was given. One question later the binding's deletion has
come to its end. -/
theorem answers_are_counted_across_a_deletion :
    let settings : Settings := { mode := .async 1 }
    let store : Store :=
      { instances := { entries := [("i", ⟨"s", "p", none, none, none, none⟩)] }
        bindings := { entries := [(("i", "b"), ⟨"s", "p", none, none, none, none⟩)] } }
    let start : Turn := .delete "2" "i/service_bindings/b"
    let later : List Turn :=
      [.delete "3" "i", .get "i/last_operation", .get "i/last_operation",
        .get "i/service_bindings/b/last_operation?operation=unbind-3",
        .get "i/service_bindings/b/last_operation"]
    let question : Turn := .get "i/service_bindings/b/last_operation?operation=unbind-2"
    let now := settings.after later (settings.next start store)
    now.holds (.serviceInstance "i") = false ∧ settings.status question now = 200 ∧
      (settings.deed? question now).bind (·.state? (.serviceBinding "i" "b"))
        = some "succeeded" := by
  intro settings store start later question now
  obtain ⟨-, answer, done, status, -, -, -, success⟩ :=
    answers_are_counted settings 1 rfl store start question later (.serviceBinding "i" "b") .unbind
      (some "unbind-2") (by decide +kernel) (by decide +kernel) (by decide +kernel)
      (by decide +kernel)
  obtain ⟨rfl, -⟩ := success (by decide +kernel) (by decide +kernel)
  refine ⟨by decide +kernel, status, ?_⟩
  rw [done]
  decide +kernel

/-- **A HEAD counts as well.** An instance is accepted with one answer that reports progress. If
a HEAD comes first, the first GET is told of success, and not of progress as it is without. -/
theorem head_is_counted :
    let settings : Settings := { mode := .async 1 }
    let start : Turn := .put "0" "i"
    let head : Turn := .ofClient "" "HEAD" "i/last_operation" none
    let question : Turn := .get "i/last_operation"
    let begun := settings.next start {}
    settings.asked? start = some (.change (.serviceInstance "i") .provision) ∧
      settings.status start {} = 202 ∧
      (∀ deed ∈ settings.deeds [head] begun, deed.accepts (.serviceInstance "i") = false) ∧
      (settings.deed? question begun).bind (·.state? (.serviceInstance "i"))
        = some "in progress" ∧
      (settings.deed? question (settings.next head begun)).bind (·.state? (.serviceInstance "i"))
        = some "succeeded" := by
  decide +kernel

end ServiceBroker.Mock
