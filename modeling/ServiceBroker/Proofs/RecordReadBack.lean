import ServiceBroker.Json.Record
import ServiceBroker.Proofs.ReadBack

/-!
# Reading back records

A record is written as an object with its fields in order, those without a value
left out. `Json.Fields.Written` says that members are this form of a record, and
from it follows that the record is read back (`Json.Record.reads_read`): every
member fills the slot of its field, whatever the other slots hold, and the fields
that were left out are those that may be missing.

The one condition on the fields is that their names differ. Members that are no
field's may stand between them; what becomes of these is the caller's affair, as
it is when an object is read.
-/

namespace ServiceBroker.Json

/-! ## Fields without a value -/

/-- A value is read back where it may be `null`, if it is written with a quote, a
bracket or a brace. -/
theorem Reads.optionReader {α : Type} {read : Reader α} {depth : Nat} {c : Char}
    {text : List Char} {a : α} (reads : Reads (read depth) (c :: text) a)
    (notSpace : isSpace c = false) (notNull : c ≠ 'n') :
    Reads (optionReader read depth) (c :: text) (some a) := fun rest ends => by
  have skipped : skipSpace (c :: (text ++ rest)) = c :: (text ++ rest) :=
    List.dropWhile_cons_of_neg (by simp [notSpace])
  have found : read depth (c :: (text ++ rest)) = .ok (a, rest) := reads rest ends
  show Json.optionReader read depth (c :: (text ++ rest)) = _
  unfold Json.optionReader
  rw [skipped]
  dsimp only
  rw [if_neg notNull]
  unfold Read.map
  rw [found]

/-- **A string is read back** where it may be `null`. -/
theorem reads_optional_string (depth : Nat) (s : String) :
    Reads (optionReader stringReader depth) (Json.string s).write (some s) :=
  Reads.optionReader (reads_stringReader depth s) rfl (by decide)

/-- **A truth value is read back** there. -/
theorem reads_optional_bool (depth : Nat) (b : Bool) :
    Reads (optionReader boolReader depth) (Json.bool b).write (some b) := by
  cases b with
  | false => exact (reads_boolReader depth false).optionReader rfl (by decide)
  | true => exact (reads_boolReader depth true).optionReader rfl (by decide)

/-- **What is written as an object is read back** there. -/
theorem Reads.optionReader_object {α : Type} {read : Reader α} {depth : Nat} {members : Members}
    {a : α} (reads : Reads (read depth) (Json.object members).write a) :
    Reads (Json.optionReader read depth) (Json.object members).write (some a) := by
  rw [write_object] at reads ⊢
  exact reads.optionReader rfl (by decide)

/-- **A string or `null` is read back** as what it was written for. -/
theorem reads_ofOption (depth : Nat) (value : Option String) :
    Reads (optionReader stringReader depth) (ofOption value).write value := by
  cases value with
  | none => exact fun rest _ => rfl
  | some s => exact reads_optional_string depth s

/-! ## Filling a draft -/

namespace Fields

variable {τ δ : Type}

/-- **The draft that members fill**, one after the other. -/
inductive Fills {τ δ : Type} (fields : Fields τ δ) (depth : Nat) : δ → Members → δ → Prop where
  | nil (draft : δ) : Fills fields depth draft [] draft
  | cons {draft next last : δ} {key : String} {value : Json} {members : Members}
      {read : Read δ} (known : fields.fill depth draft key = some read)
      (head : Reads read (':' :: value.write) next)
      (tail : Fills fields depth next members last) :
      Fills fields depth draft ((key, value) :: members) last

/-- A name that no field has fills nothing. -/
theorem fill_eq_none {fields : Fields τ δ} {key : String} (unknown : key ∉ fields.names)
    (depth : Nat) (draft : δ) : fields.fill depth draft key = none := by
  induction fields with
  | nil => rfl
  | cons head tail ih =>
    obtain ⟨slot, slots⟩ := draft
    obtain ⟨other, unknown⟩ := List.ne_and_not_mem_of_not_mem_cons unknown
    unfold fill
    rw [if_neg other, ih unknown slots]
    rfl

/-- Members of later fields leave the first slot as it is. -/
theorem Fills.later {α : Type} {head : Field α} {tail : Fields τ δ} {depth : Nat}
    {draft last : δ} {members : Members} (fills : tail.Fills depth draft members last)
    (other : head.name ∉ members.map Prod.fst) (slot : Option α) :
    (Fields.cons head tail).Fills depth (slot, draft) members (slot, last) := by
  induction fills with
  | nil draft => exact .nil _
  | @cons draft next last key value members read known found rest ih =>
    obtain ⟨notKey, other⟩ := List.ne_and_not_mem_of_not_mem_cons other
    refine .cons ?_ (found.map (slot, ·)) (ih other)
    unfold fill
    rw [if_neg (Ne.symm notKey), known]
    rfl

/-- **The members that a record is written as**: those of its fields in order, the
ones without a value left out. -/
inductive Written : {τ δ : Type} → Fields τ δ → Nat → τ → Members → Prop where
  | nil (depth : Nat) : Written .nil depth () []
  | present {α τ δ : Type} {head : Field α} {tail : Fields τ δ} {depth : Nat} {a : α} {t : τ}
      {value : Json} {members : Members} (reads : Reads (head.read depth) value.write a)
      (rest : Written tail depth t members) :
      Written (.cons head tail) depth (a, t) ((head.name, value) :: members)
  | absent {α τ δ : Type} {head : Field α} {tail : Fields τ δ} {depth : Nat} {a : α} {t : τ}
      {members : Members} (missing : head.absent = some a)
      (rest : Written tail depth t members) :
      Written (.cons head tail) depth (a, t) members

theorem Written.names_subset {fields : Fields τ δ} {depth : Nat} {t : τ} {members : Members}
    (written : fields.Written depth t members) : members.map Prod.fst ⊆ fields.names := by
  induction written with
  | nil depth => exact List.Subset.refl []
  | present reads rest ih => exact List.cons_subset_cons _ ih
  | absent missing rest ih => exact List.Subset.trans ih (List.subset_cons_self _ _)

/-- **The members of a record fill a draft of it.** -/
theorem Written.fills {fields : Fields τ δ} {depth : Nat} {t : τ} {members : Members}
    (written : fields.Written depth t members) (distinct : fields.names.Nodup) :
    ∃ draft, fields.Fills depth fields.blank members draft ∧ fields.finish draft = .ok t := by
  induction written with
  | nil depth => exact ⟨(), .nil (), rfl⟩
  | @present α τ δ head tail depth a t value members reads rest ih =>
    obtain ⟨fresh, distinct⟩ := List.nodup_cons.mp distinct
    obtain ⟨draft, fills, finished⟩ := ih distinct
    refine ⟨(some a, draft), .cons (if_pos rfl) ?_
      (fills.later (fun mem => fresh (rest.names_subset mem)) (some a)), ?_⟩
    · exact (reads.memberValue head.name).map (some ·, tail.blank)
    · unfold finish
      rw [finished]
      rfl
  | @absent α τ δ head tail depth a t members missing rest ih =>
    obtain ⟨fresh, distinct⟩ := List.nodup_cons.mp distinct
    obtain ⟨draft, fills, finished⟩ := ih distinct
    refine ⟨(none, draft), fills.later (fun mem => fresh (rest.names_subset mem)) none, ?_⟩
    unfold finish
    rw [missing, finished]
    rfl

/-! ## Objects of a record -/

section Object

variable {σ : Type} (fields : Fields τ δ) (other : Nat → σ → String → Read σ) (depth : Nat)

/-- **What a member does to a draft** and to the state of those that are no
field's. -/
def taking : δ × σ → String → Read (δ × σ) := fun (draft, state) key =>
  match fields.fill depth draft key with
  | some read => Read.map (·, state) read
  | none => Read.map (draft, ·) (other depth state key)

/-- The members of a record are taken one by one, and then the draft is finished. -/
theorem object_eq (state : σ) (s : List Char) :
    fields.object other state depth s =
      match members (fields.taking other depth) (fields.blank, state) s with
      | .error fault => .error fault
      | .ok ((draft, state), rest) =>
        match fields.finish draft with
        | .error cause => .error (.unsettled cause rest)
        | .ok record => .ok ((record, state), rest) := rfl

variable {fields other depth}

/-- Members that fill a draft leave the state as it is. -/
theorem Fills.takes {draft last : δ} {members : Members}
    (fills : fields.Fills depth draft members last) (state : σ) :
    Takes (fields.taking other depth) (draft, state) members (last, state) := by
  induction fills with
  | nil draft => exact .nil _
  | @cons draft next last key value members read known found rest ih =>
    refine .cons ?_ ih
    unfold taking
    dsimp only
    rw [known]
    exact found.map (·, state)

/-- A member that is no field's leaves the draft as it is. -/
theorem takes_other {draft : δ} {state next : σ} {key : String} {value : Json}
    (unknown : key ∉ fields.names)
    (found : Reads (other depth state key) (':' :: value.write) next) :
    Takes (fields.taking other depth) (draft, state) [(key, value)] (draft, next) := by
  refine .cons ?_ (.nil _)
  unfold taking
  dsimp only
  rw [fill_eq_none unknown]
  exact found.map (draft, ·)

/-- **The members of a record are read** once the draft that they lead to can be
finished. -/
theorem object_entries {draft : δ} {state last : σ} {members : Members} {t : τ}
    (takes : Takes (fields.taking other depth) (fields.blank, state) members (draft, last))
    (finished : fields.finish draft = .ok t) (rest : List Char) :
    fields.object other state depth (entries members ++ rest)
      = .ok ((t, last), '}' :: rest) := by
  rw [object_eq, members_entries takes rest]
  dsimp only
  rw [finished]

end Object

end Fields

/-- **A record is read back** from the members that it is written as. -/
theorem Record.reads_read {α : Type} {record : Record α} {depth : Nat} {t : record.τ}
    {members : Members} (distinct : record.fields.names.Nodup)
    (written : record.fields.Written depth t members) :
    Reads (record.read (depth + 1)) (Json.object members).write (record.build t) := by
  obtain ⟨draft, fills, finished⟩ := written.fills distinct
  have opens : Reads (opened .brace (fun depth => Read.map (fun found => record.build found.1)
      (record.fields.object skipMember () depth)) (depth + 1)) (Json.object members).write
      (record.build t) :=
    reads_opened _ fun rest => by
      unfold Read.map
      rw [Fields.object_entries (fills.takes ()) finished rest]
  rw [write_object] at opens ⊢
  exact opens

/-- **A whole text is read** as the value in it. -/
theorem decode_text {α : Type} {read : Reader α} {value : Json} {a : α}
    (reads : Reads (read maxDepth) value.write a) : decode read value.text = .ok a := by
  unfold decode text
  rw [String.toList_ofList]
  have whole := reads [] ends_nil
  rw [List.append_nil] at whole
  rw [whole]
  rfl

/-- **A record is read back from its text.** -/
theorem Record.decode_written {α : Type} (record : Record α) (t : record.τ) {members : Members}
    (distinct : record.fields.names.Nodup) (written : record.fields.Written 126 t members) :
    decode record.read (Json.object members).text = .ok (record.build t) :=
  decode_text (reads_read distinct written)

end ServiceBroker.Json
