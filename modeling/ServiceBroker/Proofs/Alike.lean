import Mathlib.Data.List.Nodup
import Mathlib.Data.List.Perm.Subperm
import ServiceBroker.Json.Basic

/-!
# Values that are alike

Two JSON values are alike if they differ in nothing but the order of the members of their
objects. As a relation this is stated without an algorithm (`Json.Alike`): an object counts as a
finite map from keys, an array as its items in order, and an integer is never like a double.

The comparison of the model walks through the members of one object and looks them up in the
other. It decides the relation on values whose objects have distinct keys (`Json.same_iff_alike`),
and a value that was read is one of these. There the relation is an equivalence.
-/

namespace ServiceBroker.Json

/-! ## Looking up members -/

section Lookup

variable {κ α : Type} [BEq κ] [LawfulBEq κ] {entries others : List (κ × α)} {key : κ} {a : α}

theorem mem_of_lookup (found : entries.lookup key = some a) : (key, a) ∈ entries := by
  obtain ⟨before, after, rfl, -⟩ := List.lookup_eq_some_iff.mp found
  simp

/-- Of entries with distinct keys, each is found. -/
theorem lookup_eq_some_iff_mem (distinct : (entries.map Prod.fst).Nodup) :
    entries.lookup key = some a ↔ (key, a) ∈ entries := by
  refine ⟨mem_of_lookup, fun mem => ?_⟩
  induction entries with
  | nil => exact absurd mem List.not_mem_nil
  | cons head rest ih =>
    obtain ⟨k, b⟩ := head
    obtain ⟨fresh, distinct⟩ := List.nodup_cons.mp distinct
    obtain same | later := List.mem_cons.mp mem
    · obtain ⟨rfl, rfl⟩ := Prod.mk.inj same
      exact List.lookup_cons_self
    · have other : key ≠ k := by
        rintro rfl
        exact fresh (List.mem_map.mpr ⟨_, later, rfl⟩)
      rw [List.lookup_cons, beq_false_of_ne other]
      exact ih distinct later

/-- Something is found exactly for the keys that there are. -/
theorem isSome_lookup_iff : (entries.lookup key).isSome = true ↔ key ∈ entries.map Prod.fst := by
  constructor
  · intro found
    obtain ⟨a, found⟩ := Option.isSome_iff_exists.mp found
    exact List.mem_map_of_mem (mem_of_lookup found)
  · intro mem
    refine Option.isSome_iff_ne_none.mpr fun nothing => ?_
    obtain ⟨entry, there, rfl⟩ := List.mem_map.mp mem
    exact absurd (List.lookup_eq_none_iff.mp nothing entry there) (by simp)

/-- The order of entries with distinct keys does not matter. -/
theorem lookup_eq_of_perm (distinct : (entries.map Prod.fst).Nodup) (perm : entries.Perm others) :
    others.lookup key = entries.lookup key := by
  have distinct' : (others.map Prod.fst).Nodup := (perm.map Prod.fst).nodup distinct
  refine Option.ext fun a => ?_
  rw [lookup_eq_some_iff_mem distinct, lookup_eq_some_iff_mem distinct', perm.mem_iff]

/-- **Entries for the same keys**, each distinct, have the keys in some order. -/
theorem perm_of_isSome_lookup_eq (distinct : (entries.map Prod.fst).Nodup)
    (distinct' : (others.map Prod.fst).Nodup)
    (same : ∀ key, (entries.lookup key).isSome = (others.lookup key).isSome) :
    (entries.map Prod.fst).Perm (others.map Prod.fst) :=
  (List.perm_ext_iff_of_nodup distinct distinct').mpr fun key => by
    rw [← isSome_lookup_iff, ← isSome_lookup_iff, same]

end Lookup

/-! ## The relation -/

/-- **Values that are equal up to the order of members**, at any depth. -/
inductive Alike : Json → Json → Prop where
  | null : Alike .null .null
  | bool (b : Bool) : Alike (.bool b) (.bool b)
  /-- Integers are like integers and doubles like doubles. -/
  | number {m n : Number} (equal : m.same n = true) : Alike (.number m) (.number n)
  | string (s : String) : Alike (.string s) (.string s)
  /-- As many items, and in each place items that are alike. -/
  | array {xs ys : List Json} (length : xs.length = ys.length)
      (items : ∀ (i : Nat) (x y : Json), xs[i]? = some x → ys[i]? = some y → Alike x y) :
      Alike (.array xs) (.array ys)
  /-- The same keys, and under each values that are alike. -/
  | object {xs ys : Members} (keys : ∀ key, (xs.lookup key).isSome = (ys.lookup key).isSome)
      (values : ∀ (key : String) (x y : Json),
        xs.lookup key = some x → ys.lookup key = some y → Alike x y) :
      Alike (.object xs) (.object ys)

/-- Optional values that are both absent, or alike. -/
abbrev AlikeOption : Option Json → Option Json → Prop := Option.Rel Alike

/-- **A value whose objects have distinct keys**, at any depth. -/
inductive Distinct : Json → Prop where
  | null : Distinct .null
  | bool (b : Bool) : Distinct (.bool b)
  | number (n : Number) : Distinct (.number n)
  | string (s : String) : Distinct (.string s)
  | array {items : List Json} (each : ∀ item ∈ items, item.Distinct) : Distinct (.array items)
  | object {members : Members} (keys : (members.map Prod.fst).Nodup)
      (each : ∀ member ∈ members, member.2.Distinct) : Distinct (.object members)

/-- The comparison of arrays goes item by item. -/
theorem sameItems_iff (xs ys : List Json) :
    same.sameItems xs ys = true ↔ xs.length = ys.length ∧
      ∀ (i : Nat) (x y : Json), xs[i]? = some x → ys[i]? = some y → x.same y = true := by
  induction xs generalizing ys with
  | nil => cases ys <;> simp [same.sameItems]
  | cons x xs ih =>
    cases ys with
    | nil => simp [same.sameItems]
    | cons y ys =>
      simp only [same.sameItems, Bool.and_eq_true, ih, List.length_cons, Nat.add_right_cancel_iff]
      refine ⟨fun ⟨first, length, later⟩ => ⟨length, fun i a b left right => ?_⟩,
        fun ⟨length, each⟩ => ⟨each 0 x y rfl rfl, length, fun i a b left right =>
          each (i + 1) a b left right⟩⟩
      cases i with
      | zero =>
        obtain rfl := Option.some.inj left
        obtain rfl := Option.some.inj right
        exact first
      | succ i => exact later i a b left right

/-- The comparison of members looks each of them up. -/
theorem sameMembers_iff (xs ys : Members) :
    same.sameMembers xs ys = true ↔
      ∀ member ∈ xs, ∃ y, ys.lookup member.1 = some y ∧ member.2.same y = true := by
  induction xs with
  | nil => simp [same.sameMembers]
  | cons member xs ih =>
    obtain ⟨key, x⟩ := member
    simp only [same.sameMembers, Bool.and_eq_true, ih, List.forall_mem_cons]
    refine and_congr_left fun _ => ?_
    cases ys.lookup key <;> simp

/-- An object that has all the keys of another, and no more entries, has the same keys. -/
theorem isSome_lookup_eq {xs ys : Members} (distinct : (xs.map Prod.fst).Nodup)
    (length : xs.length = ys.length)
    (found : ∀ member ∈ xs, (ys.lookup member.1).isSome = true) (key : String) :
    (xs.lookup key).isSome = (ys.lookup key).isSome := by
  have subset : xs.map Prod.fst ⊆ ys.map Prod.fst := fun key mem => by
    obtain ⟨member, there, rfl⟩ := List.mem_map.mp mem
    exact isSome_lookup_iff.mp (found member there)
  have perm : (xs.map Prod.fst).Perm (ys.map Prod.fst) :=
    (List.subperm_of_subset distinct subset).perm_of_length_le (by simp [length])
  rw [Bool.eq_iff_iff, isSome_lookup_iff, isSome_lookup_iff]
  exact perm.mem_iff

/-- Arrays are compared as their items are. -/
theorem same_array_iff {xs ys : List Json}
    (each : ∀ x ∈ xs, ∀ y ∈ ys, x.same y = true ↔ x.Alike y) :
    (Json.array xs).same (.array ys) = true ↔ (Json.array xs).Alike (.array ys) := by
  refine (sameItems_iff xs ys).trans ⟨fun ⟨length, equal⟩ => ?_, fun alike => ?_⟩
  · refine .array length fun i x y left right => ?_
    exact (each x (List.mem_of_getElem? left) y (List.mem_of_getElem? right)).mp
      (equal i x y left right)
  · cases alike with
    | array length alike =>
      refine ⟨length, fun i x y left right => ?_⟩
      exact (each x (List.mem_of_getElem? left) y (List.mem_of_getElem? right)).mpr
        (alike i x y left right)

/-- Objects with distinct keys are compared as their members are. -/
theorem same_object_iff {xs ys : Members} (keys : (xs.map Prod.fst).Nodup)
    (keys' : (ys.map Prod.fst).Nodup)
    (each : ∀ x ∈ xs, ∀ y ∈ ys, x.2.same y.2 = true ↔ x.2.Alike y.2) :
    (Json.object xs).same (.object ys) = true ↔ (Json.object xs).Alike (.object ys) := by
  have compared : (Json.object xs).same (.object ys) = true ↔
      xs.length = ys.length ∧ same.sameMembers xs ys = true := by
    simp [same]
  rw [compared, sameMembers_iff]
  refine ⟨fun ⟨length, equal⟩ => ?_, fun alike => ?_⟩
  -- Only the left members were looked up. With as many on the right, no key of those is left over.
  · refine .object (isSome_lookup_eq keys length fun member mem => ?_) ?_
    · obtain ⟨y, found, -⟩ := equal member mem
      rw [found]
      rfl
    · intro key x y foundLeft foundRight
      have mem : (key, x) ∈ xs := mem_of_lookup foundLeft
      obtain ⟨z, found, equal⟩ := equal _ mem
      obtain rfl := Option.some.inj (foundRight.symm.trans found)
      exact (each _ mem _ (mem_of_lookup foundRight)).mp equal
  · cases alike with
    | object sameKeys alike =>
      have perm := perm_of_isSome_lookup_eq keys keys' sameKeys
      refine ⟨by simpa using perm.length_eq, fun member mem => ?_⟩
      have foundLeft : xs.lookup member.1 = some member.2 :=
        (lookup_eq_some_iff_mem keys).mpr mem
      have there : (ys.lookup member.1).isSome = true := by
        rw [← sameKeys, foundLeft]
        rfl
      obtain ⟨y, foundRight⟩ := Option.isSome_iff_exists.mp there
      exact ⟨y, foundRight, (each _ mem _ (mem_of_lookup foundRight)).mpr
        (alike _ _ _ foundLeft foundRight)⟩

/-- **The comparison decides whether values are alike**, if their objects have distinct keys. -/
theorem same_iff_alike {x y : Json} (left : x.Distinct) (right : y.Distinct) :
    x.same y = true ↔ x.Alike y := by
  induction left generalizing y with
  | null =>
    cases y with
    | null => exact iff_of_true rfl .null
    | _ => exact iff_of_false nofun nofun
  | bool b =>
    cases y with
    | bool c =>
      refine ⟨fun equal => ?_, fun alike => ?_⟩
      · obtain rfl : b = c := eq_of_beq equal
        exact .bool b
      · cases alike
        exact beq_self_eq_true b
    | _ => exact iff_of_false nofun nofun
  | number m =>
    cases y with
    | number n =>
      refine ⟨.number, fun alike => ?_⟩
      cases alike
      assumption
    | _ => exact iff_of_false nofun nofun
  | string s =>
    cases y with
    | string t =>
      refine ⟨fun equal => ?_, fun alike => ?_⟩
      · obtain rfl : s = t := eq_of_beq equal
        exact .string s
      · cases alike
        exact beq_self_eq_true s
    | _ => exact iff_of_false nofun nofun
  | array each ih =>
    cases right with
    | array others => exact same_array_iff fun x mem y there => ih x mem (others y there)
    | _ => exact iff_of_false nofun nofun
  | object keys each ih =>
    cases right with
    | object keys' others =>
      exact same_object_iff keys keys' fun x mem y there => ih x mem (others y there)
    | _ => exact iff_of_false nofun nofun

/-- **Objects are alike as finite maps**: under every key are optional values that are. -/
theorem alike_object_iff {xs ys : Members} : (Json.object xs).Alike (.object ys) ↔
    ∀ key, AlikeOption (xs.lookup key) (ys.lookup key) := by
  constructor
  · intro alike key
    cases alike with
    | object keys values =>
      have same := keys key
      cases left : xs.lookup key with
      | none =>
        rw [left] at same
        rw [Option.isNone_iff_eq_none.mp (Option.isSome_eq_false_iff.mp same.symm)]
        exact .none
      | some x =>
        rw [left] at same
        obtain ⟨y, right⟩ := Option.isSome_iff_exists.mp same.symm
        rw [right]
        exact .some (values key x y left right)
  · intro each
    refine .object (fun key => ?_) fun key x y left right => ?_
    · have alike := each key
      generalize xs.lookup key = x, ys.lookup key = y at alike ⊢
      cases alike <;> rfl
    · have alike := each key
      rw [left, right] at alike
      cases alike
      assumption

/-- **An integer is never like a double.** -/
theorem not_alike_whole_double (n : Whole) (x : Double) :
    ¬(Json.number (.whole n)).Alike (.number (.double x)) := by
  intro alike
  cases alike with
  | number equal => exact nomatch equal

/-! ## Laws -/

theorem same_number_refl (n : Number) : n.same n = true := by
  cases n with
  | whole n => exact beq_self_eq_true n
  | double x => exact x.same_refl

/-- Every value is like itself. -/
theorem Alike.refl (x : Json) : x.Alike x :=
  match x with
  | .null => .null
  | .bool b => .bool b
  | .number n => .number (same_number_refl n)
  | .string s => .string s
  | .array items => .array rfl fun i x y left right => by
    obtain rfl := Option.some.inj (left.symm.trans right)
    have := List.sizeOf_lt_of_mem (List.mem_of_getElem? left)
    exact Alike.refl x
  | .object members => .object (fun _ => rfl) fun key x y left right => by
    obtain rfl := Option.some.inj (left.symm.trans right)
    have := List.sizeOf_lt_of_mem (mem_of_lookup left)
    have : sizeOf x < sizeOf (key, x) := by
      rw [Prod.mk.sizeOf_spec]
      omega
    exact Alike.refl x

/-- Being alike goes both ways. -/
theorem Alike.symm {x y : Json} (alike : x.Alike y) : y.Alike x := by
  induction alike with
  | null => exact .null
  | bool b => exact .bool b
  | @number m n equal =>
    refine .number ?_
    cases m with
    | whole m =>
      cases n with
      | whole n => exact beq_iff_eq.mpr (eq_of_beq equal).symm
      | double y => exact nomatch equal
    | double x =>
      cases n with
      | whole n => exact nomatch equal
      | double y => exact (y.same_comm x).trans equal
  | string s => exact .string s
  | array length items ih =>
    exact .array length.symm fun i x y left right => ih i y x right left
  | object keys values ih =>
    exact .object (fun key => (keys key).symm) fun key x y left right => ih key y x right left

/-- Numeric equality of doubles is transitive. -/
theorem same_double_trans {x y z : Double} (first : x.same y = true) (second : y.same z = true) :
    x.same z = true := by
  simp only [Double.same, Bool.and_eq_true, Bool.or_eq_true, beq_iff_eq] at first second ⊢
  obtain ⟨rank, sign⟩ := first
  obtain ⟨rank', sign'⟩ := second
  refine ⟨rank.trans rank', ?_⟩
  obtain sign | zero := sign
  · exact sign'.imp sign.trans rank.trans
  · exact .inr zero

/-- What is like the same is alike. -/
theorem Alike.trans {x y z : Json} (first : x.Alike y) (second : y.Alike z) : x.Alike z := by
  induction first generalizing z with
  | null | bool | string => exact second
  | @number m n equal =>
    cases second with
    | @number _ k equal' =>
      refine .number ?_
      -- An integer equals no double, so the middle number is of the kind of the first.
      cases m with
      | whole m =>
        cases n with
        | whole n =>
          obtain rfl := eq_of_beq equal
          exact equal'
        | double y => exact nomatch equal
      | double x =>
        cases n with
        | whole n => exact nomatch equal
        | double y =>
          cases k with
          | whole k => exact nomatch equal'
          | double z => exact same_double_trans equal equal'
  | @array xs ys length items ih =>
    cases second with
    | @array _ zs length' items' =>
      refine .array (length.trans length') fun i x z left right => ?_
      obtain ⟨within, -⟩ := List.getElem?_eq_some_iff.mp left
      have found : ys[i]? = some ys[i] := List.getElem?_eq_getElem (by omega)
      exact ih i x _ left found (items' i _ z found right)
  | object keys values ih =>
    cases second with
    | object keys' values' =>
      refine .object (fun key => (keys key).trans (keys' key)) fun key x z left right => ?_
      have there : _ = true := (keys key).symm.trans (congrArg Option.isSome left)
      obtain ⟨y, found⟩ := Option.isSome_iff_exists.mp there
      exact ih key x y left found (values' key y z found right)

/-- **The comparison of optional values decides whether they are alike**, too. -/
theorem sameOption_iff_alike {x y : Option Json} (left : ∀ a ∈ x, a.Distinct)
    (right : ∀ b ∈ y, b.Distinct) : sameOption x y = true ↔ AlikeOption x y := by
  cases x with
  | none =>
    cases y with
    | none => exact iff_of_true rfl .none
    | some b => exact iff_of_false nofun nofun
  | some a =>
    cases y with
    | none => exact iff_of_false nofun nofun
    | some b =>
      refine (same_iff_alike (left a rfl) (right b rfl)).trans ⟨.some, fun alike => ?_⟩
      cases alike
      assumption

theorem AlikeOption.refl (x : Option Json) : AlikeOption x x := by
  cases x with
  | none => exact .none
  | some x => exact .some (.refl x)

theorem AlikeOption.symm {x y : Option Json} (alike : AlikeOption x y) : AlikeOption y x := by
  cases alike with
  | none => exact .none
  | some alike => exact .some alike.symm

/-- What is like the same optional value is alike. -/
theorem AlikeOption.trans {x y z : Option Json} (first : AlikeOption x y)
    (second : AlikeOption y z) : AlikeOption x z := by
  cases first with
  | none => exact second
  | some alike =>
    cases second with
    | some alike' => exact .some (alike.trans alike')

end ServiceBroker.Json
