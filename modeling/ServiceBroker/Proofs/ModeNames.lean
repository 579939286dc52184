import Mathlib.Data.List.Induction
import ServiceBroker.Mock.Settings
import ServiceBroker.Proofs.Form
import ServiceBroker.Text.Blank

/-!
# The names of the modes

Which texts name a mode is said here by a grammar: `sync`, `async`, and `async:` before a numeral
(`Mode.Names`). A numeral is one decimal digit or more behind a plus sign or nothing (`Numeral`).
Zeros may stand in front, so a number has numerals of any length.

The reader of the mode holds no more than 32 bits and looks at every step for what does not fit.
The grammar knows nothing of steps: it asks once whether the value of all the digits is below
`2^32`. The two agree because digits have no smaller value than those they begin with: what fits
in the end has fitted all along (`unsigned32?_eq_some_iff`), and what does not fit in the end is
never mistaken for something that does (`Mode.parse?_numeral`).

With that a mode is read from its names and from nothing else (`Mode.parse?_eq_some_iff`), and
what is no name is told from the grammar alone: a second colon, white space, signs without digits.
`Mode.modes_are_read_by_name` puts all of it together.
-/

namespace ServiceBroker.Mock

/-! ## Digits -/

/-- **Digits of a number**: one at least, and zeros may stand in front. -/
structure Digits (n : Nat) (digits : List Char) : Prop where
  nonempty : digits ≠ []
  isDigit : ∀ c ∈ digits, c.isDigit = true
  value : decimalValue digits = n

theorem decimalValue_append_singleton (digits : List Char) (c : Char) :
    decimalValue (digits ++ [c]) = decimalValue digits * 10 + (c.toNat - 0x30) :=
  List.foldl_append

theorem Digits.ne_plus {n : Nat} {digits rest : List Char} (of : Digits n digits) :
    digits ≠ '+' :: rest := by
  rintro rfl
  exact absurd (of.isDigit '+' List.mem_cons_self) (by decide)

/-- **A number has the digits that it is written in.** -/
theorem digits_toDigits (n : Nat) : Digits n (Nat.toDigits 10 n) where
  nonempty := Nat.toDigits_ne_nil
  isDigit _ mem := Nat.isDigit_of_mem_toDigits (by decide) (by decide) mem
  value := by
    have same (digits : List Char) : decimalValue digits = Nat.ofDigitChars 10 digits 0 := by
      unfold decimalValue Nat.ofDigitChars
      simp only [Nat.mul_comm 10]
      rfl
    rw [same, Nat.ofDigitChars_ten_toDigits]

/-! ## Words of 32 bits -/

/-- A number that fits has one word. -/
theorem word?_eq_some_iff {n : Nat} {w : UInt32} : word? n = some w ↔ w.toNat = n := by
  unfold word?
  split
  · rename_i fits
    rw [Option.some_inj, ← UInt32.toNat_inj, UInt32.toNat_ofNatLT]
    exact eq_comm
  · rename_i large
    refine iff_of_false nofun fun same => large ?_
    rw [← same]
    exact w.toNat_lt_size

/-- **A digit goes onto a word** if the sum fits. -/
theorem pushDigit?_eq_some_iff {n w : UInt32} {c : Char} :
    pushDigit? n c = some w ↔ c.isDigit = true ∧ w.toNat = n.toNat * 10 + (c.toNat - 0x30) := by
  unfold pushDigit?
  split
  · rename_i digit
    rw [Option.bind_eq_some_iff, and_iff_right digit]
    constructor
    · rintro ⟨tenfold, ten, sum⟩
      rw [word?_eq_some_iff.mp sum, word?_eq_some_iff.mp ten]
    · intro sum
      -- The tenfold is no greater than the sum, so it passes its own test.
      have fits : n.toNat * 10 < UInt32.size := by
        have bound := w.toNat_lt_size
        omega
      refine ⟨.ofNatLT _ fits, word?_eq_some_iff.mpr UInt32.toNat_ofNatLT,
        word?_eq_some_iff.mpr ?_⟩
      rw [sum, UInt32.toNat_ofNatLT]
  · rename_i other
    exact iff_of_false nofun fun pushed => other pushed.1

/-- **All digits go onto a word** if their value fits. -/
theorem foldlM_pushDigit?_eq_some_iff {digits : List Char} {w : UInt32} :
    digits.foldlM pushDigit? 0 = some w
      ↔ (∀ c ∈ digits, c.isDigit = true) ∧ decimalValue digits = w.toNat := by
  -- From the end: the word before the last digit is that of the digits before it.
  induction digits using List.reverseRecOn generalizing w with
  | nil =>
    refine Option.some_inj.trans ?_
    rw [← UInt32.toNat_inj, and_iff_right nofun]
    rfl
  | append_singleton digits c ih =>
    rw [List.foldlM_append, decimalValue_append_singleton]
    simp only [List.foldlM_cons, List.foldlM_nil, bind_pure]
    rw [Option.bind_eq_bind, Option.bind_eq_some_iff]
    constructor
    · rintro ⟨before, read, pushed⟩
      obtain ⟨isDigit, value⟩ := ih.mp read
      obtain ⟨last, sum⟩ := pushDigit?_eq_some_iff.mp pushed
      refine ⟨fun d mem => ?_, by rw [value, sum]⟩
      obtain mem | mem := List.mem_append.mp mem
      · exact isDigit d mem
      · exact List.mem_singleton.mp mem ▸ last
    · rintro ⟨isDigit, sum⟩
      have fits : decimalValue digits < UInt32.size := by
        have bound := w.toNat_lt_size
        omega
      refine ⟨.ofNatLT _ fits, ih.mpr ⟨fun d mem => isDigit d (List.mem_append_left _ mem),
        UInt32.toNat_ofNatLT.symm⟩, pushDigit?_eq_some_iff.mpr ⟨?_, ?_⟩⟩
      · exact isDigit c (List.mem_append_right _ List.mem_cons_self)
      · rw [← sum, UInt32.toNat_ofNatLT]

/-- **A word is read from its digits**, and from nothing else. -/
theorem unsigned32?_eq_some_iff {digits : List Char} {w : UInt32} :
    unsigned32? digits = some w ↔ Digits w.toNat digits := by
  unfold unsigned32?
  split
  · rename_i empty
    exact iff_of_false nofun fun of => of.nonempty empty
  · rename_i nonempty
    rw [foldlM_pushDigit?_eq_some_iff]
    exact ⟨fun ⟨isDigit, value⟩ => ⟨nonempty, isDigit, value⟩, fun of => ⟨of.isDigit, of.value⟩⟩

/-! ## Numerals -/

/-- **A numeral of a number**: its digits, behind one plus sign or nothing. -/
inductive Numeral (n : Nat) : List Char → Prop
  | plain {digits : List Char} (of : Digits n digits) : Numeral n digits
  | signed {digits : List Char} (of : Digits n digits) : Numeral n ('+' :: digits)

/-- **A word is read from its numerals**, and from nothing else. -/
theorem polls?_eq_some_iff {numeral : List Char} {w : UInt32} :
    polls? numeral = some w ↔ Numeral w.toNat numeral := by
  unfold polls?
  split
  · rw [unsigned32?_eq_some_iff]
    refine ⟨.signed, fun of => ?_⟩
    cases of with
    | plain of => exact absurd rfl of.ne_plus
    | signed of => exact of
  · rename_i unsigned
    rw [unsigned32?_eq_some_iff]
    refine ⟨.plain, fun of => ?_⟩
    cases of with
    | plain of => exact of
    | signed => exact absurd rfl (unsigned _)

namespace Numeral

variable {n m : Nat} {numeral : List Char}

/-- A numeral is that of one number. -/
theorem unique (of : Numeral n numeral) (other : Numeral m numeral) : n = m := by
  cases of with
  | plain of =>
    cases other with
    | plain other => rw [← of.value, other.value]
    | signed => exact absurd rfl of.ne_plus
  | signed of =>
    cases other with
    | plain other => exact absurd rfl other.ne_plus
    | signed other => rw [← of.value, other.value]

/-- A numeral is made of digits and the sign. -/
theorem isDigit_or_eq (of : Numeral n numeral) {c : Char} (mem : c ∈ numeral) :
    c.isDigit = true ∨ c = '+' := by
  cases of with
  | plain of => exact .inl (of.isDigit c mem)
  | signed of =>
    obtain rfl | mem := List.mem_cons.mp mem
    · exact .inr rfl
    · exact .inl (of.isDigit c mem)

/-- There is a digit in a numeral. -/
theorem exists_isDigit (of : Numeral n numeral) : ∃ c ∈ numeral, c.isDigit = true := by
  have first {digits : List Char} (of : Digits n digits) : ∃ c ∈ digits, c.isDigit = true := by
    obtain ⟨c, mem⟩ := List.exists_mem_of_ne_nil digits of.nonempty
    exact ⟨c, mem, of.isDigit c mem⟩
  cases of with
  | plain of => exact first of
  | signed of =>
    obtain ⟨c, mem, digit⟩ := first of
    exact ⟨c, List.mem_cons_of_mem _ mem, digit⟩

/-- **The number of a numeral is read** if it fits, and else none is. -/
theorem polls?_eq (of : Numeral n numeral) :
    (polls? numeral).map UInt32.toNat = if n < UInt32.size then some n else none := by
  split
  · rename_i fits
    have same : (UInt32.ofNatLT n fits).toNat = n := UInt32.toNat_ofNatLT
    rw [polls?_eq_some_iff.mpr (same.symm ▸ of), Option.map_some, same]
  · rename_i large
    rw [Option.map_eq_none_iff, Option.eq_none_iff_forall_ne_some]
    intro w read
    refine large ?_
    rw [of.unique (polls?_eq_some_iff.mp read)]
    exact w.toNat_lt_size

end Numeral

/-! ## Names -/

namespace Mode

/-- **What names a mode.** -/
inductive Names : String → Mode → Prop
  | sync : Names "sync" .sync
  | async : Names "async" (.async 1)
  | asyncPolls {n : Nat} {numeral : List Char} (of : Numeral n numeral) (fits : n < UInt32.size) :
      Names ("async:" ++ String.ofList numeral) (.async n)

section Names

variable {text : String}

theorem names_sync_iff : Names text .sync ↔ text = "sync" := by
  constructor
  · intro names
    cases names
    rfl
  · rintro rfl
    exact .sync

theorem names_async_iff {n : Nat} : Names text (.async n) ↔
    (text = "async" ∧ n = 1) ∨
      ∃ numeral, text = "async:" ++ String.ofList numeral ∧ Numeral n numeral ∧
        n < UInt32.size := by
  constructor
  · intro names
    cases names with
    | async => exact .inl ⟨rfl, rfl⟩
    | asyncPolls of fits => exact .inr ⟨_, rfl, of, fits⟩
  · rintro (⟨rfl, rfl⟩ | ⟨numeral, rfl, of, fits⟩)
    · exact .async
    · exact .asyncPolls of fits

/-- **A text without a name** is neither word, and no number that fits stands in it. -/
theorem forall_not_names_iff : (∀ mode, ¬ Names text mode) ↔
    text ≠ "sync" ∧ text ≠ "async" ∧
      ∀ n numeral, text = "async:" ++ String.ofList numeral → Numeral n numeral →
        UInt32.size ≤ n := by
  refine ⟨fun unnamed => ⟨?_, ?_, ?_⟩, ?_⟩
  · rintro rfl
    exact unnamed _ .sync
  · rintro rfl
    exact unnamed _ .async
  · rintro n numeral rfl of
    exact Nat.le_of_not_lt fun fits => unnamed _ (.asyncPolls of fits)
  · rintro ⟨notSync, notAsync, large⟩ mode names
    cases names with
    | sync => exact notSync rfl
    | async => exact notAsync rfl
    | asyncPolls of fits => exact Nat.not_lt_of_le (large _ _ rfl of) fits

variable {mode : Mode}

/-- **A name has one colon at most.** -/
theorem Names.count_colon_le (names : Names text mode) : text.toList.count ':' ≤ 1 := by
  cases names with
  | sync => decide
  | async => decide
  | @asyncPolls n numeral of fits =>
    have plain : ':' ∉ numeral := fun mem => by
      obtain digit | sign := of.isDigit_or_eq mem
      · exact absurd digit (by decide)
      · exact absurd sign (by decide)
    rw [String.toList_append, @String.toList_ofList numeral, List.count_append,
      List.count_eq_zero.mpr plain]
    decide

/-- **A name has no white space.** -/
theorem Names.any_isBlankChar_eq_false (names : Names text mode) :
    text.toList.any Text.isBlankChar = false := by
  cases names with
  | sync => decide
  | async => decide
  | @asyncPolls n numeral of fits =>
    have plain : numeral.any Text.isBlankChar = false := List.any_eq_false.mpr fun c mem => by
      obtain digit | rfl := of.isDigit_or_eq mem
      · exact ne_true_of_eq_false (Text.isBlankChar_eq_false_of_isDigit digit)
      · decide
    rw [String.toList_append, @String.toList_ofList numeral, List.any_append, plain]
    decide

end Names

/-! ## Reading names -/

/-- A text behind `async` and a colon, character by character. -/
theorem toList_async_append (rest : List Char) :
    ("async:" ++ String.ofList rest).toList = "async".toList ++ ':' :: rest := by
  rw [String.toList_append, @String.toList_ofList rest]
  rfl

/-- What stands behind the colon is read as a number of polls. -/
theorem parse?_append (rest : List Char) :
    parse? ("async:" ++ String.ofList rest) = ((polls? rest).map UInt32.toNat).map .async := by
  have colon : ':' ∈ "async".toList ++ ':' :: rest := by simp
  have notWord {word : String} (plain : ':' ∉ word.toList) :
      "async:" ++ String.ofList rest ≠ word := by
    rintro rfl
    rw [toList_async_append] at plain
    exact plain colon
  unfold parse?
  rw [if_neg (notWord (by decide)), if_neg (notWord (by decide)), toList_async_append,
    Text.cutAtFirst_append (by decide)]
  dsimp only
  rw [if_pos ⟨colon, rfl⟩, Option.map_map]
  rfl

/-- **The number behind the colon** is the number of polls if it fits, and never another one. -/
theorem parse?_numeral {n : Nat} {numeral : List Char} (of : Numeral n numeral) :
    parse? ("async:" ++ String.ofList numeral)
      = if n < UInt32.size then some (.async n) else none := by
  rw [parse?_append, of.polls?_eq]
  split <;> rfl

/-- Signs alone are no number. -/
theorem parse?_signs {signs : List Char} (alone : ∀ c ∈ signs, c = '+' ∨ c = '-') :
    parse? ("async:" ++ String.ofList signs) = none := by
  rw [parse?_append, Option.map_map, Option.map_eq_none_iff, Option.eq_none_iff_forall_ne_some]
  intro w read
  obtain ⟨c, mem, digit⟩ := (polls?_eq_some_iff.mp read).exists_isDigit
  obtain rfl | rfl := alone c mem <;> exact absurd digit (by decide)

/-- **A mode is read from its names**, and from nothing else. -/
theorem parse?_eq_some_iff {text : String} {mode : Mode} :
    parse? text = some mode ↔ Names text mode := by
  constructor
  · intro read
    unfold parse? at read
    split at read
    · rename_i isSync
      cases read
      exact isSync ▸ .sync
    · split at read
      · rename_i isAsync
        cases read
        exact isAsync ▸ .async
      · dsimp only at read
        split at read
        · rename_i head
          obtain ⟨colon, isAsync⟩ := head
          obtain ⟨w, polls, rfl⟩ := Option.map_eq_some_iff.mp read
          -- The two pieces are known. What is named is the text that they were cut from.
          have whole : text = "async:" ++ String.ofList (Text.cutAtFirst ':' text.toList).2 := by
            apply String.toList_injective
            rw [toList_async_append, ← isAsync, Text.append_cutAtFirst colon]
          rw [whole]
          exact .asyncPolls (polls?_eq_some_iff.mp polls) w.toNat_lt_size
        · cases read
  · intro names
    cases names with
    | sync => rfl
    | async => rfl
    | asyncPolls of fits => rw [parse?_numeral of, if_pos fits]

theorem parse?_eq_none_iff {text : String} : parse? text = none ↔ ∀ mode, ¬ Names text mode := by
  rw [Option.eq_none_iff_forall_ne_some]
  exact forall_congr' fun mode => not_congr parse?_eq_some_iff

/-! ## The result -/

/-- **Modes are read by their names.** A text is read as the synchronous mode exactly if it is
`sync`; as the asynchronous one with `n` polls exactly if it is `async` and `n` is one, or if it is
`async:` before a numeral of `n` and `n` is below `2^32`; and as none exactly if it is neither word
and any number whose numeral stands behind `async:` is `2^32` or more. So no text is read that has
a second colon, white space, or signs alone behind its colon. A numeral of any length is read as
its number or, if that does not fit, not at all, and every number that fits is read as it is
written. -/
theorem modes_are_read_by_name (text : String) :
    (parse? text = some .sync ↔ text = "sync") ∧
    (∀ n, parse? text = some (.async n) ↔
      (text = "async" ∧ n = 1) ∨
        ∃ numeral, text = "async:" ++ String.ofList numeral ∧ Numeral n numeral ∧
          n < UInt32.size) ∧
    (parse? text = none ↔
      text ≠ "sync" ∧ text ≠ "async" ∧
        ∀ n numeral, text = "async:" ++ String.ofList numeral → Numeral n numeral →
          UInt32.size ≤ n) ∧
    (1 < text.toList.count ':' → parse? text = none) ∧
    (text.toList.any Text.isBlankChar = true → parse? text = none) ∧
    (∀ signs : List Char, (∀ c ∈ signs, c = '+' ∨ c = '-') →
      parse? ("async:" ++ String.ofList signs) = none) ∧
    (∀ n numeral, Numeral n numeral →
      parse? ("async:" ++ String.ofList numeral)
        = if n < UInt32.size then some (.async n) else none) ∧
    ∀ n < UInt32.size, parse? ("async:" ++ toString n) = some (.async n) := by
  refine ⟨parse?_eq_some_iff.trans names_sync_iff,
    fun _ => parse?_eq_some_iff.trans names_async_iff,
    parse?_eq_none_iff.trans forall_not_names_iff, fun colons => ?_, fun blank => ?_,
    fun _ alone => parse?_signs alone, fun _ _ of => parse?_numeral of, fun n fits => ?_⟩
  · exact parse?_eq_none_iff.mpr fun _ names => Nat.not_lt_of_le names.count_colon_le colons
  · refine parse?_eq_none_iff.mpr fun _ names => ?_
    rw [names.any_isBlankChar_eq_false] at blank
    cases blank
  · rw [Nat.toString_eq_ofList_toDigits, parse?_numeral (.plain (digits_toDigits n)), if_pos fits]

/-- The greatest number of polls, behind a sign and zeros and as it is written, and the number
after it; a second colon, a space, and two signs. -/
theorem modes_are_read_by_name_bounds :
    (Numeral 4294967295 "+004294967295".toList ∧
      parse? "async:+004294967295" = some (.async 4294967295)) ∧
    (Numeral 4294967296 "4294967296".toList ∧ parse? "async:4294967296" = none) ∧
    (1 < "async:1:2".toList.count ':' ∧ parse? "async:1:2" = none) ∧
    ("async: 3".toList.any Text.isBlankChar = true ∧ parse? "async: 3" = none) ∧
    parse? "async:+-" = none ∧
    4294967295 < UInt32.size ∧
      parse? ("async:" ++ toString 4294967295) = some (.async 4294967295) := by
  have greatest : Numeral 4294967295 "+004294967295".toList :=
    .signed ⟨by decide, List.all_eq_true.mp (by decide), by decide⟩
  have next : Numeral 4294967296 "4294967296".toList :=
    .plain ⟨by decide, List.all_eq_true.mp (by decide), by decide⟩
  obtain ⟨-, -, -, colons, -⟩ := modes_are_read_by_name "async:1:2"
  obtain ⟨-, -, -, -, blank, signs, numerals, written⟩ := modes_are_read_by_name "async: 3"
  exact ⟨⟨greatest, numerals _ _ greatest⟩, ⟨next, numerals _ _ next⟩,
    ⟨by decide, colons (by decide)⟩, ⟨by decide, blank (by decide)⟩,
    signs ['+', '-'] (by simp), by decide, written _ (by decide)⟩

end Mode
end ServiceBroker.Mock
