import ServiceBroker.Proofs.Rearranged
import ServiceBroker.Proofs.ValueReadBack

/-!
# The tree of a written value

The text that a value is written as has a tree that is known, member by member
(`Json.IsExact.writes`). Values that are alike have permuted trees, so one is written as the other
rearranged (`Json.Alike.rearranges`): whoever builds a value anew, and adds its members in another
order, sends a rearranged text.
-/

namespace ServiceBroker.Json

/-- **The tree of a value** as it is written. -/
def tree : Json → Tree
  | .array items => .array (treeItems items)
  | .object members => .object (treeMembers members)
  | v => .scalar (some v)
where
  /-- The trees of the items of an array. -/
  treeItems : List Json → List Tree
    | [] => []
    | item :: items => item.tree :: treeItems items
  /-- The trees of the members of an object. -/
  treeMembers : Members → List (Key × Tree)
    | [] => []
    | (key, value) :: members => (.text key, value.tree) :: treeMembers members

/-! ## Its text -/

section Written

variable {rest : List Char}

/-- A key is written with its quotes, in front of a colon. -/
theorem Key.spans_writeString (key : String) (rest : List Char) :
    (Key.text key).Spans (writeString key.toList ++ ':' :: rest) rest := by
  rw [writeString_append]
  have read := stringBody_escaped key.toList (':' :: rest)
  refine ⟨_, ':' :: rest, rfl, skipString_of_stringBody read, ?_, rfl⟩
  unfold Key.of
  rw [read]
  exact congrArg Key.text String.ofList_toList.symm

theorem spans_scalar {v : Json} (exact : v.IsExact) (flat : v.nesting = 0) (ends : Ends rest) :
    (Tree.scalar (some v)).Spans (v.write ++ rest) rest := by
  have read := reads_value exact (Nat.le_of_eq flat) rest ends
  refine ⟨skipHead_of_value_zero read, ?_⟩
  rw [read]
  rfl

/-- The items after the first are written behind commas. -/
theorem spans_writeItems {items : List Json}
    (each : ∀ item ∈ items, ∀ {rest}, Ends rest → item.tree.Spans (item.write ++ rest) rest)
    (rest : List Char) : Tree.Spans.spansItems false (tree.treeItems items)
      (write.writeItems items ++ rest) rest := by
  induction items with
  | nil => rfl
  | cons item items ih =>
    rw [writeItems_cons_append]
    exact ⟨_, _, .later rfl, each item List.mem_cons_self (ends_writeItems items rest),
      ih fun other mem => each other (List.mem_cons_of_mem _ mem)⟩

/-- The members after the first are written behind commas. -/
theorem spans_writeMembers {members : Members}
    (each : ∀ member ∈ members, ∀ {rest}, Ends rest →
      member.2.tree.Spans (member.2.write ++ rest) rest)
    (rest : List Char) : Tree.Spans.spansMembers false (tree.treeMembers members)
      (write.writeMembers members ++ rest) rest := by
  induction members with
  | nil => rfl
  | cons member members ih =>
    obtain ⟨key, value⟩ := member
    have written : write.writeMembers ((key, value) :: members) ++ rest
        = ',' :: (writeString key.toList ++
            ':' :: (value.write ++ (write.writeMembers members ++ rest))) := by
      rw [write.writeMembers]
      simp only [List.cons_append, List.append_assoc]
    rw [written]
    exact ⟨_, _, _, .later rfl, Key.spans_writeString key _,
      each (key, value) List.mem_cons_self (ends_writeMembers members rest),
      ih fun other mem => each other (List.mem_cons_of_mem _ mem)⟩

/-- **A value has its tree where it is written**, whatever ends it. -/
theorem IsExact.spans {v : Json} (exact : v.IsExact) (ends : Ends rest) :
    v.tree.Spans (v.write ++ rest) rest := by
  induction exact generalizing rest with
  | null => exact spans_scalar .null rfl ends
  | bool b => exact spans_scalar (.bool b) rfl ends
  | whole n => exact spans_scalar (.whole n) rfl ends
  | string s => exact spans_scalar (.string s) rfl ends
  | @array items each ih =>
    rw [write_array]
    refine ⟨listed items ++ rest, rfl, ?_⟩
    cases items with
    | nil => rfl
    | cons item items =>
      rw [listed_cons_append]
      exact ⟨_, _, .first _, ih item List.mem_cons_self (ends_writeItems items rest),
        spans_writeItems (fun other mem => ih other (List.mem_cons_of_mem _ mem)) rest⟩
  | @object members distinct each ih =>
    rw [write_object]
    refine ⟨entries members ++ rest, rfl, ?_⟩
    cases members with
    | nil => rfl
    | cons member members =>
      obtain ⟨key, value⟩ := member
      have written : entries ((key, value) :: members) ++ rest
          = writeString key.toList ++
              ':' :: (value.write ++ (write.writeMembers members ++ rest)) := by
        unfold entries
        simp only [List.cons_append, List.append_assoc]
      rw [written]
      exact ⟨_, _, _, .first _, Key.spans_writeString key _,
        ih (key, value) List.mem_cons_self (ends_writeMembers members rest),
        spans_writeMembers (fun other mem => ih other (List.mem_cons_of_mem _ mem)) rest⟩

/-- **The text of a value has its tree.** -/
theorem IsExact.writes {v : Json} (exact : v.IsExact) : v.tree.Writes v.text := by
  refine ⟨[], ?_, rfl⟩
  have spans := exact.spans ends_nil
  rw [List.append_nil] at spans
  unfold text
  rwa [String.toList_ofList]

end Written

/-! ## Rearranged values -/

theorem treeItems_eq (items : List Json) : tree.treeItems items = items.map tree := by
  induction items with
  | nil => rfl
  | cons item items ih => rw [tree.treeItems, ih, List.map_cons]

theorem map_fst_treeMembers (members : Members) :
    (tree.treeMembers members).map Prod.fst = (members.map Prod.fst).map Key.text := by
  induction members with
  | nil => rfl
  | cons member members ih =>
    rw [tree.treeMembers, List.map_cons, List.map_cons, List.map_cons, ih]

/-- Under a key of the tree is the tree of what is under the key. -/
theorem lookup_treeMembers {members : Members} {key : Key} {t : Tree}
    (found : (tree.treeMembers members).lookup key = some t) :
    ∃ name v, key = .text name ∧ members.lookup name = some v ∧ t = v.tree := by
  induction members with
  | nil => exact nomatch found
  | cons member members ih =>
    obtain ⟨k, v⟩ := member
    rw [tree.treeMembers, List.lookup_cons] at found
    by_cases here : key = .text k
    · rw [here, beq_self_eq_true] at found
      exact ⟨k, v, here, List.lookup_cons_self, (Option.some.inj found).symm⟩
    · rw [beq_false_of_ne here] at found
      obtain ⟨name, w, rfl, there, eq⟩ := ih found
      have differs : name ≠ k := fun same => here (congrArg Key.text same)
      exact ⟨name, w, rfl, by rw [List.lookup_cons, beq_false_of_ne differs]; exact there, eq⟩

/-- **Values that are alike have permuted trees.** -/
theorem Alike.permuted {v w : Json} (alike : v.Alike w) (left : v.IsExact) (right : w.IsExact) :
    v.tree.Permuted w.tree := by
  induction alike with
  | null => exact .scalar _
  | bool b => exact .scalar _
  | @number m n equal =>
    cases left with
    | whole m =>
      cases right with
      | whole n =>
        -- There is no double, and integers are like each other only if they are equal.
        obtain rfl := eq_of_beq (show (m == n) = true from equal)
        exact .scalar _
  | string s => exact .scalar _
  | @array xs ys length items ih =>
    cases left with
    | array left =>
      cases right with
      | array right =>
        rw [tree, tree, treeItems_eq, treeItems_eq]
        refine .array (by simpa using length) fun i t u there there' => ?_
        obtain ⟨x, atX, rfl⟩ := by simpa using there
        obtain ⟨y, atY, rfl⟩ := by simpa using there'
        exact ih i x y atX atY (left x (List.mem_of_getElem? atX))
          (right y (List.mem_of_getElem? atY))
  | @object xs ys keys values ih =>
    cases left with
    | object distinct left =>
      cases right with
      | object distinct' right =>
        have perm := perm_of_isSome_lookup_eq distinct distinct' keys
        rw [tree, tree]
        refine .object ?_ ?_ fun key t u there there' => ?_
        · rw [map_fst_treeMembers]
          exact distinct.map fun _ _ => Key.text.inj
        · rw [map_fst_treeMembers, map_fst_treeMembers]
          exact perm.map _
        · obtain ⟨name, x, rfl, atX, rfl⟩ := lookup_treeMembers there
          obtain ⟨name', y, same, atY, rfl⟩ := lookup_treeMembers there'
          obtain rfl := Key.text.inj same
          exact ih name x y atX atY (left _ (mem_of_lookup atX)) (right _ (mem_of_lookup atY))

/-- **What is alike is written rearranged.** -/
theorem Alike.rearranges {v w : Json} (alike : v.Alike w) (left : v.IsExact) (right : w.IsExact) :
    Rearranges v.text w.text :=
  ⟨v.tree, w.tree, alike.permuted left right, left.writes, right.writes⟩

/-- A value that a text shows exactly has distinct keys. -/
theorem IsExact.distinct {v : Json} (exact : v.IsExact) : v.Distinct := by
  induction exact with
  | null => exact .null
  | bool b => exact .bool b
  | whole n => exact .number _
  | string s => exact .string s
  | array each ih => exact .array ih
  | object distinct each ih => exact .object distinct ih

/-- **So is what the comparison finds to be the same.** -/
theorem IsExact.rearranges_of_same {v w : Json} (left : v.IsExact) (right : w.IsExact)
    (same : v.same w = true) : Rearranges v.text w.text :=
  ((same_iff_alike left.distinct right.distinct).mp same).rearranges left right

end ServiceBroker.Json
