import ServiceBroker.Proofs.History

/-!
# What becomes of a token

A broker that accepts a change hands out a token, and the client asks after the operation
with it until it has ended. For this the token should be good, and what remains of the
operation should go down by one with each answer that reports progress.

There is one place per target for what is in flight, and an operation that begins takes it
whatever is there. So a token is good as long as it is the last one that was handed out for
its target, and if it is the only one, the countdown is kept (`Mock.status_of_token`). The
place is taken by a deletion that overtakes a creation, and also by a deletion that is asked
for again: the first client's token is refused from then on
(`Mock.repeated_deletion_forgets_token`).
-/

namespace ServiceBroker.Mock

/-! ## What deeds say of a target -/

namespace Deed

/-- The tokens that are handed out for a target, in order. -/
def tokens (target : Target) (deeds : List Deed) : List String :=
  deeds.filterMap (·.token? target)

/-- How often progress is reported of a target. -/
def progress (target : Target) (deeds : List Deed) : Nat :=
  deeds.countP (·.state? target == some "in progress")

variable {target : Target} {deed : Deed}

theorem tokens_append (target : Target) (deeds others : List Deed) :
    tokens target (deeds ++ others) = tokens target deeds ++ tokens target others :=
  List.filterMap_append

theorem progress_append (target : Target) (deeds others : List Deed) :
    progress target (deeds ++ others) = progress target deeds + progress target others :=
  List.countP_append

theorem tokens_singleton (target : Target) (deed : Deed) :
    tokens target [deed] = (deed.token? target).toList := by
  unfold tokens
  rw [List.filterMap_cons]
  cases deed.token? target <;> rfl

theorem progress_of_reports (reports : deed.state? target = some "in progress") :
    progress target [deed] = 1 := by
  unfold progress
  rw [List.countP_singleton, reports, if_pos (beq_self_eq_true _)]

theorem progress_of_not (reports : deed.state? target ≠ some "in progress") :
    progress target [deed] = 0 := by
  unfold progress
  rw [List.countP_singleton, if_neg (by simpa using reports)]

theorem token?_eq_none (notAccepted : deed.answer.status ≠ 202) (target : Target) :
    deed.token? target = none := by
  obtain ⟨aim, answer⟩ := deed
  cases aim with
  | change => exact if_neg fun both => notAccepted both.2
  | catalog | read | question => rfl

end Deed

/-- **How what is in flight on a target follows the deeds**: its token is the last one handed
out, and as long as none is handed out, every report of progress takes one from what
remains. -/
structure Pending.Follows (before : Pending) (target : Target) (deeds : List Deed)
    (now : Pending) : Prop where
  token : now.token = (Deed.tokens target deeds).getLastD before.token
  remaining : Deed.tokens target deeds = [] →
    now.remaining + Deed.progress target deeds = before.remaining

namespace Pending.Follows

variable {before between now : Pending} {target : Target} {deed : Deed}

protected theorem refl (pending : Pending) (target : Target) :
    pending.Follows target [] pending where
  token := rfl
  remaining := fun _ => rfl

protected theorem trans {deeds others : List Deed} (first : before.Follows target deeds between)
    (second : between.Follows target others now) :
    before.Follows target (deeds ++ others) now where
  token := by
    rw [second.token, first.token, Deed.tokens_append]
    simp only [List.getLastD_eq_getLast?, List.getLast?_append]
    cases (Deed.tokens target others).getLast? <;> rfl
  remaining := fun noTokens => by
    rw [Deed.tokens_append, List.append_eq_nil_iff] at noTokens
    have := first.remaining noTokens.1
    have := second.remaining noTokens.2
    rw [Deed.progress_append]
    omega

/-- A deed that hands out no token and reports no progress. -/
theorem quiet (noToken : deed.token? target = none)
    (noProgress : deed.state? target ≠ some "in progress") :
    before.Follows target [deed] before where
  token := by
    rw [Deed.tokens_singleton, noToken]
    rfl
  remaining := fun _ => by rw [Deed.progress_of_not noProgress, Nat.add_zero]

theorem elsewhere {other : Target} {token : Option String} {answer : Answer}
    (differs : other ≠ target) :
    before.Follows target [{ aim := .question other token, answer }] before :=
  .quiet rfl fun progress => nomatch (if_neg differs).symm.trans progress

/-- A deed that reports progress. -/
theorem counted {remaining : Nat} (noToken : deed.token? target = none)
    (progress : deed.state? target = some "in progress")
    (remains : before.remaining = remaining + 1) :
    before.Follows target [deed] { before with remaining } where
  token := by
    rw [Deed.tokens_singleton, noToken]
    rfl
  remaining := fun _ => by rw [Deed.progress_of_reports progress, remains]

/-- A deed that hands out a token. -/
theorem handedOut (hands : deed.token? target = some now.token) :
    before.Follows target [deed] now where
  token := by
    rw [Deed.tokens_singleton, hands]
    rfl
  remaining := fun noTokens => by
    rw [Deed.tokens_singleton, hands] at noTokens
    exact nomatch noTokens

end Pending.Follows

/-! ## One effect -/

theorem text?_accepted (settings : Settings) (token : String) :
    (Answer.accepted settings token).text? "operation"
      = if settings.omitToken then none else some token := by
  unfold Answer.accepted
  cases settings.omitToken <;> rfl

section Effects

variable {settings : Settings} {polls : Nat} {random : String} {store after : Store} {aim : Aim}
  {answer : Answer} {target : Target} {pending : Pending}

/-- **What hands out a token begins an operation.** -/
theorem Effect.begins (effect : Effect settings random store aim answer after)
    (async : settings.mode = .async polls) {token : String}
    (hands : Deed.token? { aim, answer } target = some token) :
    settings.omitToken = false ∧
      ∃ kind, after.operations.get? target = some { kind, token, remaining := polls } := by
  have status : answer.status = 202 := Decidable.byContradiction fun notAccepted =>
    nomatch (Deed.token?_eq_none notAccepted target).symm.trans hands
  -- A token is handed out with a 202, and only what is accepted is answered so.
  cases effect with
  | catalog | read | idle | mismatched | counted | finished => exact nomatch hands
  | declined refused => omega
  | repeated there complete => omega
  | made atOnce => exact nomatch atOnce.symm.trans async
  | @accepted other kind _ _ later =>
    obtain rfl := Mode.async.inj (later.symm.trans async)
    dsimp only [Deed.token?] at hands
    split at hands
    · rename_i same
      obtain ⟨rfl, -⟩ := same
      rw [text?_accepted] at hands
      cases shown : settings.omitToken with
      | true =>
        rw [shown] at hands
        exact nomatch hands
      | false =>
        rw [shown] at hands
        obtain rfl := Option.some.inj hands
        refine ⟨rfl, kind, ?_⟩
        rw [Store.get?_operations_begin, if_pos rfl]
    · exact nomatch hands

/-- **What is in flight on a target follows every effect** but the report that it has
succeeded. -/
theorem Effect.follows (effect : Effect settings random store aim answer after)
    (async : settings.mode = .async polls) (shows : settings.omitToken = false)
    (busy : store.operations.get? target = some pending)
    (unfinished : Deed.state? { aim, answer } target ≠ some "succeeded") :
    ∃ now, after.operations.get? target = some now ∧
      pending.Follows target [{ aim, answer }] now := by
  cases effect with
  | catalog | read => exact ⟨pending, busy, .quiet rfl nofun⟩
  | declined refused =>
    have notAccepted : answer.status ≠ 202 := by omega
    exact ⟨pending, busy, .quiet (Deed.token?_eq_none notAccepted target) nofun⟩
  | repeated there complete =>
    have notAccepted : answer.status ≠ 202 := by omega
    exact ⟨pending, busy, .quiet (Deed.token?_eq_none notAccepted target) nofun⟩
  | made atOnce => exact nomatch atOnce.symm.trans async
  | @accepted other kind begun polls later begins =>
    rw [Store.get?_operations_begin]
    by_cases same : target = other
    · obtain rfl := same
      rw [if_pos rfl]
      refine ⟨_, rfl, .handedOut ?_⟩
      dsimp only [Deed.token?]
      rw [if_pos ⟨rfl, rfl⟩, text?_accepted, shows]
      rfl
    · rw [if_neg same, begins.operations_eq]
      exact ⟨pending, busy, .quiet (if_neg fun both => same both.1.symm) nofun⟩
  | @idle other _ free =>
    -- Something is in flight on the target, so this question was after another.
    have differs : other ≠ target := by
      rintro rfl
      exact nomatch free.symm.trans busy
    exact ⟨pending, busy, .elsewhere differs⟩
  | mismatched =>
    refine ⟨pending, busy, .quiet rfl ?_⟩
    dsimp only [Deed.state?]
    split <;> exact nofun
  | @counted other _ found _ otherBusy _ remains =>
    rw [Store.get?_operations_begin]
    by_cases same : target = other
    · obtain rfl := same
      obtain rfl := Option.some.inj (otherBusy.symm.trans busy)
      rw [if_pos rfl]
      exact ⟨_, rfl, .counted rfl (if_pos rfl) remains⟩
    · rw [if_neg same]
      exact ⟨pending, busy, .elsewhere (Ne.symm same)⟩
  | @finished other =>
    rw [Store.get?_operations_finish]
    by_cases same : target = other
    · obtain rfl := same
      exact absurd (if_pos rfl) unfinished
    · rw [if_neg same]
      exact ⟨pending, busy, .elsewhere (Ne.symm same)⟩

/-- **What a question with a token is told** while an operation is in flight: the token is
refused unless it is the operation's own, and the answer is progress as long as anything
remains. -/
theorem Effect.answers {token : String}
    (effect : Effect settings random store (.question target (some token)) answer after)
    (busy : store.operations.get? target = some pending) :
    answer.status = (if pending.token = token then 200 else 400) ∧
      (pending.token = token →
        answer.text? "state"
          = some (if 0 < pending.remaining then "in progress" else "succeeded")) := by
  cases effect with
  | idle free => exact nomatch free.symm.trans busy
  | mismatched busy' wrong =>
    obtain rfl := Option.some.inj (busy'.symm.trans busy)
    rw [if_neg (Ne.symm wrong)]
    exact ⟨rfl, fun same => absurd same.symm wrong⟩
  | counted busy' right remains =>
    obtain rfl := Option.some.inj (busy'.symm.trans busy)
    obtain nothing | right := right
    · exact nomatch nothing
    · rw [if_pos (Option.some.inj right).symm, remains, if_pos (Nat.succ_pos _)]
      exact ⟨rfl, fun _ => rfl⟩
  | finished busy' right done =>
    obtain rfl := Option.some.inj (busy'.symm.trans busy)
    obtain nothing | right := right
    · exact nomatch nothing
    · rw [if_pos (Option.some.inj right).symm, done, if_neg (Nat.lt_irrefl 0)]
      exact ⟨rfl, fun _ => rfl⟩

end Effects

/-! ## Histories -/

/-- **What is in flight on a target follows a history** in which it is not reported to have
succeeded. -/
theorem Settings.exists_follows {settings : Settings} {polls : Nat} {target : Target}
    (async : settings.mode = .async polls) (shows : settings.omitToken = false)
    (history : List Turn) {store : Store} {pending : Pending}
    (busy : store.operations.get? target = some pending)
    (unfinished : ∀ deed ∈ settings.deeds history store, deed.state? target ≠ some "succeeded") :
    ∃ now, (settings.after history store).operations.get? target = some now ∧
      pending.Follows target (settings.deeds history store) now := by
  induction history generalizing store pending with
  | nil => exact ⟨pending, busy, .refl pending target⟩
  | cons turn rest ih =>
    have restUnfinished := fun deed mem => unfinished deed (List.mem_append_right _ mem)
    show ∃ now, _ ∧ pending.Follows target ((settings.deed? turn store).toList ++ _) now
    obtain ⟨deed, done, -, -, effect⟩ | ⟨nothing, -, same⟩ := settings.turn_cases turn store
    · have notYet := unfinished deed (mem_deeds_cons done rest)
      obtain ⟨between, busy, first⟩ := effect.follows async shows busy notYet
      obtain ⟨now, busy, second⟩ := ih busy restUnfinished
      rw [done]
      exact ⟨now, busy, first.trans second⟩
    · rw [nothing]
      exact ih (by rwa [same]) restUnfinished

/-- **What becomes of a token.** A broker that accepts changes first hands out a token for a
target. Other requests follow, of any clients, and none of them is told that the last
operation on the target has succeeded; then someone asks after it with the token. The token
is accepted exactly if it is the last one that was handed out for the target. If none was
handed out in between, the answer is progress until as many answers as were promised have
reported it. -/
theorem status_of_token (settings : Settings) (polls : Nat)
    (async : settings.mode = .async polls) (store : Store) (start question : Turn)
    (later : List Turn) (target : Target) (token : String)
    (handedOut : (settings.deed? start store).bind (·.token? target) = some token)
    (unfinished : ∀ deed ∈ settings.deeds later (settings.next start store),
      deed.state? target ≠ some "succeeded")
    (asks : settings.asked? question = some (.question target (some token))) :
    let since := settings.deeds later (settings.next start store)
    let last := settings.after later (settings.next start store)
    settings.status question last
        = (if (Deed.tokens target since).getLastD token = token then 200 else 400) ∧
      (Deed.tokens target since = [] →
        (settings.deed? question last).bind (·.state? target)
          = some (if Deed.progress target since < polls then "in progress" else "succeeded")) := by
  intro since last
  obtain ⟨deed, done, hands⟩ := Option.bind_eq_some_iff.mp handedOut
  obtain ⟨shows, kind, busy⟩ := (Settings.effect_of_deed done).begins async hands
  obtain ⟨now, busy, follows⟩ := Settings.exists_follows async shows later busy unfinished
  obtain ⟨answer, done, status, effect⟩ := Settings.exists_effect asks last
  obtain ⟨answered, state⟩ := effect.answers busy
  refine ⟨by rw [status, answered, follows.token], fun noTokens => ?_⟩
  have same : now.token = token := by rw [follows.token, noTokens]; rfl
  have remains : now.remaining + Deed.progress target since = polls := follows.remaining noTokens
  have more : 0 < now.remaining ↔ Deed.progress target since < polls := by omega
  simp only [more] at state
  rw [done, ← state same]
  exact if_pos rfl

/-- An instance is deleted and asked after twice; the second question, with the token, finds the
deletion in progress. -/
theorem status_of_token_in_progress :
    let settings : Settings := { mode := .async 2 }
    let body : ProvisionBody := ⟨"s", "p", none, none, none, none⟩
    let store : Store := { instances := { entries := [("i", body)] } }
    let last := settings.after [.delete "1" "i", .get "i/last_operation"] store
    let question : Turn := .get "i/last_operation?operation=deprovision-1"
    settings.status question last = 200 ∧
      (settings.deed? question last).bind (·.state? (.serviceInstance "i"))
        = some "in progress" := by
  intro settings body store last question
  obtain ⟨accepted, counted⟩ := status_of_token settings 2 rfl store (.delete "1" "i") question
    [.get "i/last_operation"] (.serviceInstance "i") "deprovision-1" (by decide +kernel)
    (by decide +kernel) (by decide +kernel)
  exact ⟨accepted.trans (by decide +kernel),
    (counted (by decide +kernel)).trans (by decide +kernel)⟩

/-- **A repeated deletion makes the first token worthless.** An instance is deleted twice
while the first deletion is in flight; the question with the first token is refused. -/
theorem repeated_deletion_forgets_token :
    let settings : Settings := { mode := .async 1 }
    let store := settings.after [.put "0" "i"] {}
    let deleting := settings.next (.delete "1" "i") store
    let question : Turn := .get "i/last_operation?operation=deprovision-1"
    (settings.deed? (.delete "1" "i") store).bind (·.token? (.serviceInstance "i"))
        = some "deprovision-1" ∧
      (settings.deed? (.delete "2" "i") deleting).bind (·.token? (.serviceInstance "i"))
        = some "deprovision-2" ∧
      settings.asked? question = some (.question (.serviceInstance "i") (some "deprovision-1")) ∧
      settings.status question (settings.next (.delete "2" "i") deleting) = 400 := by
  decide +kernel

end ServiceBroker.Mock
