import ServiceBroker.Proofs.ReadBack

/-!
# Reading back integers

An integer is written in decimal digits, after a minus sign if it is below zero, and zero is
written as itself only. A reader gathers the digits one by one onto a significand below `2^64`.
The digits of an integer of that size all fit, so the significand in the end is the integer
without its sign (`Json.gather_toDigits`), and nothing that ends a value can be taken for a
fraction or an exponent.

Doubles are another matter and are left out: which double is read depends on rounding.
-/

namespace ServiceBroker.Json

/-! ## Digits -/

theorem isDigit_digitChar {d : Nat} (h : d < 10) : isDigit d.digitChar = true :=
  (by decide : ∀ d : Fin 10, isDigit d.val.digitChar = true) ⟨d, h⟩

theorem digitValue_digitChar {d : Nat} (h : d < 10) : digitValue d.digitChar = d :=
  (by decide : ∀ d : Fin 10, digitValue d.val.digitChar = d.val) ⟨d, h⟩

/-- Only zero has the character of zero. -/
theorem eq_zero_of_digitChar {d : Nat} (h : d < 10) (zero : d.digitChar = '0') : d = 0 :=
  (by decide : ∀ d : Fin 10, d.val.digitChar = '0' → d.val = 0) ⟨d, h⟩ zero

theorem gather_digitChar {significand d : Nat} (h : d < 10)
    (fits : significand * 10 + d < 0x10000000000000000) (count : Nat) (rest : List Char) :
    gather significand count (d.digitChar :: rest)
      = gather (significand * 10 + d) (count + 1) rest := by
  conv => lhs; unfold gather
  rw [digitValue_digitChar h, if_pos ⟨isDigit_digitChar h, fits⟩]

/-- **The digits of a number are gathered** into the number itself. -/
theorem gather_toDigits {n : Nat} (fits : n < 0x10000000000000000) (rest : List Char) :
    gather 0 0 (Nat.toDigits 10 n ++ rest) = gather n (Nat.toDigits 10 n).length rest := by
  induction n using Nat.strongRecOn generalizing rest with
  | ind n ih =>
    obtain small | large := Nat.lt_or_ge n 10
    · rw [Nat.toDigits_of_lt_base small]
      exact (gather_digitChar small (by omega) 0 rest).trans (by simp)
    · -- The last digit comes after those of the tenth part.
      rw [Nat.toDigits_of_base_le (by decide) large, List.append_assoc,
        ih (n / 10) (by omega) (by omega), List.length_append]
      refine (gather_digitChar (Nat.mod_lt n (by decide)) (by omega) _ rest).trans ?_
      rw [Nat.div_add_mod' n 10]
      rfl

/-- **The first digit of a number** is zero for zero only. -/
theorem exists_toDigits_eq (n : Nat) : ∃ d digits, Nat.toDigits 10 n = d.digitChar :: digits ∧
    d < 10 ∧ (d = 0 → n = 0) := by
  induction n using Nat.strongRecOn with
  | ind n ih =>
    obtain small | large := Nat.lt_or_ge n 10
    · exact ⟨n, [], Nat.toDigits_of_lt_base small, small, id⟩
    · obtain ⟨d, digits, eq, small, zero⟩ := ih (n / 10) (by omega)
      refine ⟨d, digits ++ [(n % 10).digitChar], ?_, small, fun h => ?_⟩
      · rw [Nat.toDigits_of_base_le (by decide) large, eq]
        rfl
      · have tenth := zero h
        omega

/-! ## The end of a number -/

section Ends

variable {rest : List Char} (ends : Ends rest)

include ends

theorem Ends.startsWithDigit_eq : startsWithDigit rest = false := by
  cases rest with
  | nil => rfl
  | cons c rest =>
    obtain rfl | rfl | rfl := ends c rfl <;> rfl

/-- No more digits are gathered. -/
theorem Ends.gather_eq (significand count : Nat) :
    gather significand count rest = (significand, count, rest) := by
  cases rest with
  | nil => rfl
  | cons c rest =>
    have notDigit : isDigit c = false := ends.startsWithDigit_eq
    unfold gather
    rw [if_neg (by simp [notDigit])]

theorem Ends.afterInteger_eq (negative : Bool) (significand : Nat) :
    afterInteger negative significand rest = integerOf negative significand rest := by
  cases rest with
  | nil => rfl
  | cons c rest =>
    obtain rfl | rfl | rfl := ends c rfl <;> rfl

/-- **The digits of a number are read** as an integer. -/
theorem Ends.unsignedNumber_eq {n : Nat} (fits : n < 0x10000000000000000) (negative : Bool) :
    unsignedNumber negative (Nat.toDigits 10 n ++ rest) = integerOf negative n rest := by
  obtain ⟨d, digits, eq, small, zero⟩ := exists_toDigits_eq n
  by_cases h : d = 0
  · obtain rfl := zero h
    show unsignedNumber negative ('0' :: rest) = _
    unfold unsignedNumber
    dsimp only
    rw [if_pos rfl, ends.startsWithDigit_eq, if_neg Bool.false_ne_true, ends.afterInteger_eq]
  · have gathered := gather_toDigits fits rest
    rw [ends.gather_eq, eq, List.cons_append, gather_digitChar small (by omega), Nat.zero_mul,
      Nat.zero_add] at gathered
    rw [eq, List.cons_append]
    unfold unsignedNumber
    dsimp only
    rw [if_neg (mt (eq_zero_of_digitChar small) h), if_pos (isDigit_digitChar small),
      digitValue_digitChar small, gathered]
    dsimp only
    rw [ends.startsWithDigit_eq, if_neg Bool.false_ne_true, ends.afterInteger_eq]

end Ends

/-! ## Integers -/

/-- An integer is written with a sign or a digit first. -/
theorem exists_writeInt_eq (n : Int) :
    ∃ c text, writeInt n = c :: text ∧ startsNumber c = true := by
  unfold writeInt
  split
  · exact ⟨'-', _, rfl, rfl⟩
  · obtain ⟨d, digits, eq, small, -⟩ := exists_toDigits_eq n.natAbs
    refine ⟨_, digits, eq, ?_⟩
    unfold startsNumber
    rw [isDigit_digitChar small, Bool.or_true]

/-- **An integer is read back.** -/
theorem reads_readNumber (n : Whole) : Reads readNumber (writeInt n.val) (.whole n) :=
    fun rest ends => by
  obtain ⟨n, lower, upper⟩ := n
  have fits : n.natAbs < 0x10000000000000000 := by omega
  unfold writeInt
  dsimp only
  split
  · rename_i negative
    show unsignedNumber true (Nat.toDigits 10 n.natAbs ++ rest) = _
    rw [ends.unsignedNumber_eq fits]
    unfold integerOf
    rw [if_pos rfl, dif_pos (by omega)]
    have same : -(n.natAbs : Int) = n := by omega
    simp only [same]
  · rename_i natural
    obtain ⟨d, digits, eq, small, -⟩ := exists_toDigits_eq n.natAbs
    -- A sign would be looked for in the place of the first digit.
    have notSign : d.digitChar ≠ '-' := fun sign => by
      have digit := isDigit_digitChar small
      rw [sign] at digit
      exact nomatch digit
    have unsigned : readNumber (Nat.toDigits 10 n.natAbs ++ rest)
        = unsignedNumber false (Nat.toDigits 10 n.natAbs ++ rest) := by
      rw [eq, List.cons_append]
      exact if_neg notSign
    rw [unsigned, ends.unsignedNumber_eq fits]
    unfold integerOf
    rw [if_neg Bool.false_ne_true, dif_pos fits]
    have same : (n.natAbs : Int) = n := by omega
    simp only [same]

/-- What begins a number begins no other value, and is not passed over. -/
theorem value_eq_readNumber {c : Char} (begins : startsNumber c = true) (depth : Nat)
    (rest : List Char) :
    value depth (c :: rest) = Read.map .number readNumber (c :: rest) := by
  have differs {d : Char} (h : startsNumber d = false) : c ≠ d := by
    rintro rfl
    rw [h] at begins
    exact nomatch begins
  have notSpace : isSpace c = false := by
    simp [isSpace, differs (d := ' ') rfl, differs (d := '\n') rfl, differs (d := '\t') rfl,
      differs (d := '\r') rfl]
  have skipped : skipSpace (c :: rest) = c :: rest :=
    List.dropWhile_cons_of_neg (by simp [notSpace])
  unfold value
  rw [skipped]
  dsimp only
  rw [if_neg (differs rfl), if_neg (differs rfl), if_neg (differs rfl), if_neg (differs rfl),
    if_neg (differs rfl), if_neg (differs rfl), if_pos begins]

/-- **An integer is read back as a value.** -/
theorem reads_value_whole (depth : Nat) (n : Whole) :
    Reads (value depth) (Json.number (.whole n)).write (.number (.whole n)) := fun rest ends => by
  obtain ⟨c, text, eq, begins⟩ := exists_writeInt_eq n.val
  have found := (reads_readNumber n).map Json.number rest ends
  show value depth (writeInt n.val ++ rest) = _
  rw [eq, List.cons_append] at found ⊢
  rw [value_eq_readNumber begins, found]

end ServiceBroker.Json
