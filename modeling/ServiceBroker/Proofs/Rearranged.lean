import ServiceBroker.Proofs.Meaning

/-!
# Texts with their members rearranged

The keys of a JSON object may come in any order. `Json.Tree.Permuted` says that of two trees: in
each object the keys are distinct, and the other has the same ones in some order, at every depth.
The spaces and the spelling of strings and numbers do not show in a tree, so of the texts nothing
is asked but that they have these trees.

Permuted trees have values that are alike, if one has a value at all (`Json.Tree.Permuted.value`).
-/

namespace ServiceBroker.Json

/-! ## Permuted trees -/

/-- **Trees that differ in the order of members**, their objects having distinct keys. -/
inductive Tree.Permuted : Tree → Tree → Prop where
  | scalar (value? : Option Json) : Permuted (.scalar value?) (.scalar value?)
  | array {xs ys : List Tree} (length : xs.length = ys.length)
      (items : ∀ (i : Nat) (x y : Tree), xs[i]? = some x → ys[i]? = some y → Permuted x y) :
      Permuted (.array xs) (.array ys)
  | object {xs ys : List (Key × Tree)} (distinct : (xs.map Prod.fst).Nodup)
      (keys : (xs.map Prod.fst).Perm (ys.map Prod.fst))
      (values : ∀ (key : Key) (x y : Tree),
        xs.lookup key = some x → ys.lookup key = some y → Permuted x y) :
      Permuted (.object xs) (.object ys)

/-- **A text with its members rearranged**: the two have trees that are permuted. -/
def Rearranges (text text' : String) : Prop :=
  ∃ tree tree' : Tree, tree.Permuted tree' ∧ tree.Writes text ∧ tree'.Writes text'

variable {xs ys : List (Key × Tree)}

/-- Under a key there is something in both objects or in none. -/
theorem isSome_lookup_eq_of_perm (keys : (xs.map Prod.fst).Perm (ys.map Prod.fst)) (key : Key) :
    (xs.lookup key).isSome = (ys.lookup key).isSome := by
  rw [Bool.eq_iff_iff, isSome_lookup_iff, isSome_lookup_iff]
  exact keys.mem_iff

/-- Of members with distinct keys, the last of a key is the only one. -/
theorem lookup_reverse_eq (distinct : (xs.map Prod.fst).Nodup) (key : Key) :
    xs.reverse.lookup key = xs.lookup key :=
  lookup_eq_of_perm distinct (List.reverse_perm xs).symm

section Values

variable {value : Tree → Option Json}

/-- The items of one array have values if those of the other have. -/
theorem alike_array {xs ys : List Tree} {vs : List Json} (length : xs.length = ys.length)
    (each : ∀ (i : Nat) (x y : Tree), xs[i]? = some x → ys[i]? = some y → ∀ {v}, value x = some v →
      ∃ w, value y = some w ∧ v.Alike w)
    (found : xs.mapM value = some vs) :
    ∃ ws, ys.mapM value = some ws ∧ (Json.array vs).Alike (.array ws) := by
  have lengths {zs : List Tree} {us : List Json} (found : zs.mapM value = some us) :
      zs.length = us.length := (mapM_eq_some_iff.mp found).length_eq
  have valued (i : Nat) (x : Tree) (there : xs[i]? = some x) :
      ∃ v, vs[i]? = some v ∧ value x = some v := by
    obtain ⟨within, -⟩ := List.getElem?_eq_some_iff.mp there
    obtain ⟨v, here⟩ : ∃ v, vs[i]? = some v :=
      ⟨_, List.getElem?_eq_getElem (lengths found ▸ within)⟩
    have result := getElem?_of_mapM found i
    rw [there] at result
    exact ⟨v, here, result.symm.trans here⟩
  -- First the other items have values at all, by their places; then these are alike.
  obtain ⟨ws, others⟩ : ∃ ws, ys.mapM value = some ws := by
    refine exists_mapM_eq_some fun y mem => ?_
    obtain ⟨i, there⟩ := List.mem_iff_getElem?.mp mem
    obtain ⟨within, -⟩ := List.getElem?_eq_some_iff.mp there
    obtain ⟨x, here⟩ : ∃ x, xs[i]? = some x := ⟨_, List.getElem?_eq_getElem (length ▸ within)⟩
    obtain ⟨v, -, valued⟩ := valued i x here
    obtain ⟨w, valued', -⟩ := each i x y here there valued
    exact ⟨w, valued'⟩
  refine ⟨ws, others, .array ((lengths found).symm.trans (length.trans (lengths others))) ?_⟩
  intro i v w left right
  rw [getElem?_of_mapM found] at left
  rw [getElem?_of_mapM others] at right
  obtain ⟨x, there, left⟩ := Option.bind_eq_some_iff.mp left
  obtain ⟨y, there', right⟩ := Option.bind_eq_some_iff.mp right
  obtain ⟨w', right', alike⟩ := each i x y there there' left
  obtain rfl := Option.some.inj (right.symm.trans right')
  exact alike

/-- The members of one object have values if those of the other have. -/
theorem alike_object {entries : Members} (distinct : (xs.map Prod.fst).Nodup)
    (keys : (xs.map Prod.fst).Perm (ys.map Prod.fst))
    (each : ∀ (key : Key) (x y : Tree), xs.lookup key = some x → ys.lookup key = some y →
      ∀ {v}, value x = some v → ∃ w, value y = some w ∧ v.Alike w)
    (found : xs.mapM (entry value) = some entries) :
    ∃ others, ys.mapM (entry value) = some others ∧
      (Json.object (collect entries)).Alike (.object (collect others)) := by
  have distinct' : (ys.map Prod.fst).Nodup := keys.nodup distinct
  -- what stands under a key of the one object, and so of the other
  have valued (key : Key) (x : Tree) (there : xs.lookup key = some x) :
      ∃ k v, key = .text k ∧ value x = some v := by
    obtain ⟨e, found⟩ := exists_of_mapM_eq_some found (mem_of_lookup there)
    exact ⟨e.1, e.2, entry_eq_some_iff.mp found⟩
  obtain ⟨others, found'⟩ : ∃ others, ys.mapM (entry value) = some others := by
    refine exists_mapM_eq_some fun (key, y) mem => ?_
    have there' : ys.lookup key = some y := (lookup_eq_some_iff_mem distinct').mpr mem
    obtain ⟨x, there⟩ : ∃ x, xs.lookup key = some x := by
      rw [← Option.isSome_iff_exists, isSome_lookup_eq_of_perm keys, there']
      rfl
    obtain ⟨k, v, rfl, valued⟩ := valued key x there
    obtain ⟨w, valued', -⟩ := each _ x y there there' valued
    exact ⟨(k, w), entry_eq_some_iff.mpr ⟨rfl, valued'⟩⟩
  have same (key : Key) :
      AlikeOption ((xs.lookup key).bind value) ((ys.lookup key).bind value) := by
    have both := isSome_lookup_eq_of_perm keys key
    cases there : xs.lookup key with
    | none =>
      rw [there] at both
      rw [Option.isNone_iff_eq_none.mp (Option.isSome_eq_false_iff.mp both.symm)]
      exact .none
    | some x =>
      rw [there] at both
      obtain ⟨y, there'⟩ := Option.isSome_iff_exists.mp both.symm
      obtain ⟨k, v, -, valued⟩ := valued _ x there
      obtain ⟨w, valued', alike⟩ := each _ x y there there' valued
      rw [there', Option.bind_some, Option.bind_some, valued, valued']
      exact .some alike
  refine ⟨others, found', alike_object_iff.mpr fun key => ?_⟩
  rw [lookup_collect_of_mapM_entry found, lookup_collect_of_mapM_entry found',
    lookup_reverse_eq distinct, lookup_reverse_eq distinct']
  exact same (.text key)

end Values

/-- **Permuted trees have values that are alike**, if one has a value at all. -/
theorem Tree.Permuted.value {tree tree' : Tree} (permuted : tree.Permuted tree') {depth : Nat}
    {v : Json} (valued : tree.value depth = some v) :
    ∃ w, tree'.value depth = some w ∧ v.Alike w := by
  induction permuted generalizing depth v with
  | scalar value? => exact ⟨v, valued, .refl v⟩
  | @array xs ys length items ih =>
    cases depth with
    | zero => exact nomatch valued
    | succ depth =>
      obtain ⟨vs, found, rfl⟩ := Option.map_eq_some_iff.mp valued
      obtain ⟨ws, others, alike⟩ := alike_array length
        (fun i x y there there' {v} => ih i x y there there') found
      exact ⟨_, congrArg (Option.map Json.array) others, alike⟩
  | @object xs ys distinct keys values ih =>
    cases depth with
    | zero => exact nomatch valued
    | succ depth =>
      obtain ⟨entries, found, rfl⟩ := Option.map_eq_some_iff.mp valued
      obtain ⟨others, found', alike⟩ := alike_object distinct keys
        (fun key x y there there' {v} => ih key x y there there') found
      exact ⟨_, congrArg (Option.map fun entries => Json.object (collect entries)) found', alike⟩

end ServiceBroker.Json
