import ServiceBroker.Proofs.Meaning
import ServiceBroker.Proofs.Trees

/-!
# What is read has distinct keys

A text may repeat the keys of an object, but a value does not: adding a member under a key that
is there already takes the place of the older one. So every value that is read has distinct keys
at every depth (`Json.distinct_of_value`), and the comparison of two of them decides whether they
are alike.
-/

namespace ServiceBroker.Json

variable {entries : Members} {value : Tree → Option Json}

/-- **Keys are collected once each.** -/
theorem nodup_collect (entries : Members) : ((collect entries).map Prod.fst).Nodup := by
  have added (object : Members) (distinct : (object.map Prod.fst).Nodup) :
      ((entries.foldl (fun object entry => put entry.1 entry.2 object) object).map
        Prod.fst).Nodup := by
    induction entries generalizing object with
    | nil => exact distinct
    | cons entry entries ih => exact ih _ (nodup_put distinct entry.1 entry.2)
  exact added [] List.nodup_nil

theorem mem_of_mem_collect {member : String × Json} (mem : member ∈ collect entries) :
    member ∈ entries := by
  have found : (collect entries).lookup member.1 = some member.2 :=
    (lookup_eq_some_iff_mem (nodup_collect entries)).mpr mem
  rw [lookup_collect] at found
  exact List.mem_reverse.mp (mem_of_lookup found)

/-- **The value of a tree that some text has** has distinct keys. -/
theorem Tree.IsText.distinct {tree : Tree} (text : tree.IsText) {depth : Nat} {v : Json}
    (valued : tree.value depth = some v) : v.Distinct := by
  obtain ⟨s, rest, spans⟩ := text
  induction tree using Tree.induction generalizing s rest depth v with
  | scalar value? =>
    obtain ⟨-, rfl⟩ := spans
    rw [Tree.value] at valued
    obtain ⟨⟨w, left⟩, found, rfl⟩ := Option.map_eq_some_iff.mp valued
    -- A scalar has no members, whatever it is.
    have scalar := value_zero_eq_ok_iff.mp (eq_ok_of_toOption found)
    generalize skipSpace s = t at scalar
    cases scalar with
    | string => exact .string _
    | word named => cases named <;> constructor
    | number => exact .number _
  | array items each =>
    obtain ⟨inside, -, spans⟩ := spans
    cases depth with
    | zero => cases valued
    | succ depth =>
      obtain ⟨vs, found, rfl⟩ := Option.map_eq_some_iff.mp valued
      refine .array fun item mem => ?_
      obtain ⟨tree, there, valued⟩ := exists_of_mem_of_mapM found mem
      obtain ⟨s', rest', spans⟩ := isText_of_spansItems spans tree there
      exact each tree there valued s' rest' spans
  | object members each =>
    obtain ⟨inside, -, spans⟩ := spans
    cases depth with
    | zero => cases valued
    | succ depth =>
      obtain ⟨entries, found, rfl⟩ := Option.map_eq_some_iff.mp valued
      refine .object (nodup_collect entries) fun member mem => ?_
      obtain ⟨⟨key, tree⟩, there, entry⟩ := exists_of_mem_of_mapM found (mem_of_mem_collect mem)
      obtain ⟨s', rest', spans⟩ := isText_of_spansMembers spans (key, tree) there
      exact each (key, tree) there (entry_eq_some_iff.mp entry).2 s' rest' spans

section Reading

variable {depth : Nat} {s rest : List Char}

/-- **A value that is read has distinct keys.** -/
theorem distinct_of_value {v : Json} (read : Json.value depth s = .ok (v, rest)) : v.Distinct := by
  obtain ⟨tree, spans⟩ := exists_spans_of_value read
  exact Tree.IsText.distinct ⟨s, rest, spans⟩ ((spans.yields_value depth v rest).mp read).2

/-- What is read as an optional value has distinct keys, if it is there. -/
theorem distinct_of_option {x : Option Json}
    (read : optionReader Json.value depth s = .ok (x, rest)) :
    ∀ v ∈ x, v.Distinct := by
  unfold optionReader at read
  rintro v rfl
  have nested {t : List Char} (read : Read.map some (Json.value depth) t = .ok (some v, rest)) :
      v.Distinct := by
    obtain ⟨w, found, eq⟩ := Read.map_eq_ok_iff.mp read
    obtain rfl := Option.some.inj eq
    exact distinct_of_value found
  split at read
  · exact nested read
  · split at read
    · obtain ⟨_, -, eq⟩ := exists_of_map read
      exact nomatch (Prod.mk.inj eq).1
    · exact nested read

end Reading

end ServiceBroker.Json
