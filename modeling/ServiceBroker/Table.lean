/-!
# Finite tables

A table gives a value to finitely many keys. What matters of it is
`Table.get?`; every operation has one equation that says what it does to that
view, and after these equations the list of entries is not looked at again.
-/

namespace ServiceBroker

/-- **A finite table.** -/
structure Table (κ ν : Type) where
  /-- Keys and values; of two entries of one key the first counts. -/
  entries : List (κ × ν) := []
deriving Repr

namespace Table

variable {κ ν : Type} [DecidableEq κ]

/-- **The value of a key**, if it has one. -/
def get? (table : Table κ ν) (key : κ) : Option ν := table.entries.lookup key

/-- Whether a key has a value. -/
def contains (table : Table κ ν) (key : κ) : Bool := (table.get? key).isSome

/-- **Keeping the keys that pass**, and their values. -/
def keep (table : Table κ ν) (passes : κ → Bool) : Table κ ν :=
  { entries := table.entries.filter (passes ·.1) }

/-- **Giving a key a value**, instead of the one it has. -/
def insert (table : Table κ ν) (key : κ) (value : ν) : Table κ ν :=
  { entries := (key, value) :: table.entries.filter (·.1 ≠ key) }

/-- **Taking a key's value away.** -/
def erase (table : Table κ ν) (key : κ) : Table κ ν := table.keep (· ≠ key)

@[simp] theorem get?_empty (key : κ) : ({} : Table κ ν).get? key = none := rfl

@[simp] theorem get?_keep (table : Table κ ν) (passes : κ → Bool) (key : κ) :
    (table.keep passes).get? key = if passes key then table.get? key else none := by
  obtain ⟨entries⟩ := table
  simp only [get?, keep]
  induction entries with
  | nil => simp
  | cons head rest ih =>
    obtain ⟨k, v⟩ := head
    by_cases hk : key = k
    · subst hk
      by_cases hp : passes key
      · simp [hp]
      · rw [List.filter_cons, if_neg hp, ih, if_neg hp, if_neg hp]
    · have hk' : (key == k) = false := by simp [hk]
      by_cases hp : passes k
      · simp [hp, List.lookup_cons, hk', ih]
      · simp [hp, List.lookup_cons, hk', ih]

@[simp] theorem get?_erase (table : Table κ ν) (key other : κ) :
    (table.erase key).get? other = if other = key then none else table.get? other := by
  by_cases h : other = key <;> simp [erase, h]

@[simp] theorem get?_insert (table : Table κ ν) (key other : κ) (value : ν) :
    (table.insert key value).get? other = if other = key then some value else table.get? other := by
  by_cases h : other = key
  · subst h
    simp [insert, get?]
  · have h' : (other == key) = false := by simp [h]
    have := get?_erase table key other
    simp only [erase, keep, get?, h, if_false] at this ⊢
    simpa [insert, List.lookup_cons, h'] using this

@[simp] theorem contains_keep (table : Table κ ν) (passes : κ → Bool) (key : κ) :
    (table.keep passes).contains key = (passes key && table.contains key) := by
  unfold contains
  rw [get?_keep]
  cases passes key <;> rfl

@[simp] theorem contains_erase (table : Table κ ν) (key other : κ) :
    (table.erase key).contains other = (!decide (other = key) && table.contains other) := by
  unfold contains
  rw [get?_erase]
  by_cases same : other = key <;> simp [same]

@[simp] theorem contains_insert (table : Table κ ν) (key other : κ) (value : ν) :
    (table.insert key value).contains other = (decide (other = key) || table.contains other) := by
  unfold contains
  rw [get?_insert]
  by_cases same : other = key <;> simp [same]

@[simp] theorem insert_insert (table : Table κ ν) (key : κ) (value other : ν) :
    (table.insert key value).insert key other = table.insert key other := by
  simp [insert]

@[simp] theorem erase_insert (table : Table κ ν) (key : κ) (value : ν) :
    (table.insert key value).erase key = table.erase key := by
  simp [insert, erase, keep]

omit [DecidableEq κ] in
theorem keep_comm (table : Table κ ν) (passes other : κ → Bool) :
    (table.keep passes).keep other = (table.keep other).keep passes := by
  simp [keep, Bool.and_comm]

omit [DecidableEq κ] in
/-- Keeping fewer keys of those that were kept. -/
theorem keep_keep_of_imp (table : Table κ ν) {passes other : κ → Bool}
    (implies : ∀ key, other key = true → passes key = true) :
    (table.keep passes).keep other = table.keep other := by
  unfold keep
  dsimp only
  rw [List.filter_filter]
  congr 1
  refine List.filter_congr fun entry _ => ?_
  cases passed : other entry.1 with
  | false => rfl
  | true => rw [implies _ passed, Bool.and_true]

theorem keep_insert (table : Table κ ν) {passes : κ → Bool} {key : κ}
    (kept : passes key = true) (value : ν) :
    (table.insert key value).keep passes = (table.keep passes).insert key value := by
  simp [insert, keep, kept, Bool.and_comm]

/-- An inserted key is lost if it does not pass. -/
theorem keep_insert_of_not (table : Table κ ν) {passes : κ → Bool} {key : κ}
    (lost : passes key = false) (value : ν) :
    (table.insert key value).keep passes = table.keep passes := by
  have implies : ∀ other, passes other = true → decide (other ≠ key) = true :=
    fun other passed => decide_eq_true fun same =>
      absurd (same ▸ passed) (Bool.eq_false_iff.mp lost)
  have erased := table.keep_keep_of_imp implies
  unfold keep at erased
  unfold insert keep
  dsimp only at erased ⊢
  rw [List.filter_cons_of_neg (by simp [lost])]
  exact erased

end Table

end ServiceBroker
