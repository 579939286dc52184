import Mathlib.Data.List.DropRight
import ServiceBroker.Json.Reader

/-!
# Skipping keeps pace with reading

Skipping is a reader of its own: it looks at less than reading does. Where both succeed they
have to leave the same input, or the members behind a skipped one would not be found. That they
do is proved here for everything that holds no other value: strings, numbers and words
(`Json.skipHead_of_value_zero`). What is skipped has a character at least.

What the two find behind the spaces is said once, for reading by `Json.Scalar` and for skipping
by `Json.Head`.
-/

namespace ServiceBroker.Json

variable {s rest : List Char}

/-! ## Strings -/

/-- What was read before a character was put in front of it. -/
theorem exists_of_prepend {c : Char} {read : Except Fault (List Char × List Char)}
    {text : List Char} (ok : prepend c read = .ok (text, rest)) :
    ∃ later, read = .ok (later, rest) := by
  cases read with
  | error fault => exact nomatch ok
  | ok result =>
    obtain ⟨rfl, rfl⟩ := Prod.mk.inj (Except.ok.inj ok)
    exact ⟨_, rfl⟩

theorem skipString_short {e : Char} (short : (shortEscape? e).isSome = true) :
    skipString ('\\' :: e :: s) = skipString s := by
  rw [skipString.eq_def]
  dsimp only
  rw [if_neg (by decide), if_pos rfl, if_pos short]

theorem skipString_unit {h₁ h₂ h₃ h₄ : Char} {unit : Nat} (digits : unit? h₁ h₂ h₃ h₄ = some unit) :
    skipString ('\\' :: 'u' :: h₁ :: h₂ :: h₃ :: h₄ :: s) = skipString s := by
  rw [skipString.eq_def]
  dsimp only
  rw [if_neg (by decide), if_pos rfl, if_neg (by decide), if_pos rfl, digits]

theorem skipString_plain {c : Char} (notQuote : c ≠ '"') (notEscape : c ≠ '\\')
    (notControl : ¬ c.toNat < 0x20) : skipString (c :: s) = skipString s := by
  rw [skipString.eq_def]
  dsimp only
  rw [if_neg notQuote, if_neg notEscape, if_neg notControl]

/-- **A string that is read is skipped.** -/
theorem skipString_of_stringBody {text : List Char} (read : stringBody s = .ok (text, rest)) :
    skipString s = .ok rest := by
  fun_induction stringBody s generalizing text with
  | case2 after =>
    obtain ⟨-, rfl⟩ := Prod.mk.inj (Except.ok.inj read)
    rw [skipString.eq_def]
    exact if_pos rfl
  | case4 e after c short _ ih =>
    obtain ⟨_, read⟩ := exists_of_prepend read
    rw [skipString_short (by rw [short]; rfl)]
    exact ih read
  | case8 h₁ h₂ h₃ h₄ leading found _ _ b u h₅ h₆ h₇ h₈ after escape trailing found' _ _ _ ih =>
    -- a pair of surrogates is one character, and two escapes to the skipper
    obtain ⟨rfl, rfl⟩ := escape
    obtain ⟨_, read⟩ := exists_of_prepend read
    rw [skipString_unit found, skipString_unit found']
    exact ih read
  | case12 h₁ h₂ h₃ h₄ after unit found _ _ _ _ ih =>
    obtain ⟨_, read⟩ := exists_of_prepend read
    rw [skipString_unit found]
    exact ih read
  | case16 c after notQuote notEscape notControl ih =>
    obtain ⟨_, read⟩ := exists_of_prepend read
    rw [skipString_plain notQuote notEscape notControl]
    exact ih read
  | _ => exact nomatch read

/-- A string that is skipped has its closing quote at least. -/
theorem length_lt_of_skipString (skipped : skipString s = .ok rest) : rest.length < s.length := by
  fun_induction skipString s with
  | case2 after =>
    obtain rfl := Except.ok.inj skipped
    exact Nat.lt_succ_self _
  | case4 e after _ _ ih =>
    have := ih skipped
    simp only [List.length_cons]
    omega
  | case6 h₁ h₂ h₃ h₄ after unit _ _ _ ih =>
    have := ih skipped
    simp only [List.length_cons]
    omega
  | case10 c after _ _ _ ih => exact Nat.lt_succ_of_lt (ih skipped)
  | _ => exact nomatch skipped

/-- The rest of a word is skipped letter by letter. -/
theorem length_le_of_word {letters : List Char} (skipped : word letters s = .ok rest) :
    rest.length ≤ s.length := by
  fun_induction word letters s with
  | case1 s =>
    obtain rfl := Except.ok.inj skipped
    exact Nat.le_refl _
  | case3 letter letters s ih => exact Nat.le_succ_of_le (ih skipped)
  | _ => exact nomatch skipped

/-! ## Numbers -/

/-- Digits that are gathered are those that are skipped. -/
theorem dropWhile_gather (significand count : Nat) (s : List Char) :
    (gather significand count s).2.2.dropWhile isDigit = s.dropWhile isDigit := by
  fun_induction gather significand count s with
  | case1 => rfl
  | case2 significand count c rest taken ih =>
    rw [ih, List.dropWhile_cons_of_pos taken.1]
  | case3 => rfl

theorem dropWhile_of_not_startsWithDigit (none : startsWithDigit s = false) :
    s.dropWhile isDigit = s := by
  cases s with
  | nil => rfl
  | cons c s => exact List.dropWhile_cons_of_neg (by simpa [startsWithDigit] using none)

/-- Where gathering takes nothing, a digit may be only what it could not take. -/
theorem startsWithDigit_of_gather {significand : Nat}
    (some : startsWithDigit (gather significand 0 s).2.2 = true ∨
      (gather significand 0 s).2.1 ≠ 0) :
    startsWithDigit s = true := by
  cases s with
  | nil => simp [gather, startsWithDigit] at some
  | cons c s =>
    cases digit : isDigit c with
    | true => exact digit
    | false =>
      have stuck : gather significand 0 (c :: s) = (significand, 0, c :: s) := by
        rw [gather, if_neg (by simp [digit])]
      rw [stuck] at some
      exact some.elim id fun differs => absurd rfl differs

/-- Digits of an exponent that are gathered are those that are skipped. -/
theorem dropWhile_gatherExponent (exponent : Nat) (s : List Char) :
    (if (gatherExponent exponent s).2.1 then (gatherExponent exponent s).2.2.dropWhile isDigit
      else (gatherExponent exponent s).2.2) = s.dropWhile isDigit := by
  fun_induction gatherExponent exponent s with
  | case1 => rfl
  | case2 exponent c rest digit fits ih => rw [ih, List.dropWhile_cons_of_pos digit]
  | case3 exponent c rest digit _ => rw [if_pos rfl, List.dropWhile_cons_of_pos digit]
  | case4 exponent c rest none => rw [if_neg Bool.false_ne_true, List.dropWhile_cons_of_neg none]

variable {negative : Bool} {significand : Nat} {scale : Int} {n : Number}

/-- Scaling takes no input. -/
theorem eq_of_doubleOf (read : doubleOf negative significand scale s = .ok (n, rest)) :
    s = rest := by
  unfold doubleOf at read
  cases scaled : Double.scaled? negative significand scale with
  | none =>
    rw [scaled] at read
    exact nomatch read
  | some x =>
    rw [scaled] at read
    exact (Prod.mk.inj (Except.ok.inj read)).2

/-- **A number from the digits of its exponent on**, the sign of the exponent being known. -/
def exponentDigits (negative : Bool) (significand : Nat) (scale : Int) (down : Bool) : Read Number
  | [] => .error (.here .endInValue [])
  | c :: rest =>
    if isDigit c then
      let (exponent, overflow, rest) := gatherExponent (digitValue c) rest
      if overflow then
        if significand ≠ 0 ∧ down = false then .error (.here .numberOutOfRange rest)
        else .ok (.double { Double.zero with negative := negative }, rest.dropWhile isDigit)
      else
        doubleOf negative significand (if down then scale - exponent else scale + exponent) rest
    else .error (.past .invalidNumber (c :: rest))

/-- An exponent is a sign, perhaps, and digits. -/
theorem exponentPart_cons (c : Char) (s : List Char) :
    exponentPart negative significand scale (c :: s) =
      if c = '-' then exponentDigits negative significand scale true s
      else if c = '+' then exponentDigits negative significand scale false s
      else exponentDigits negative significand scale false (c :: s) := by
  unfold exponentPart
  dsimp only
  by_cases minus : c = '-'
  · rw [if_pos minus, if_pos minus]
    rfl
  · rw [if_neg minus, if_neg minus]
    by_cases plus : c = '+'
    · rw [if_pos plus, if_pos plus]
      rfl
    · rw [if_neg plus, if_neg plus]
      rfl

/-- The digits of an exponent that is read are skipped. -/
theorem skip_of_exponentDigits {down : Bool}
    (read : exponentDigits negative significand scale down s = .ok (n, rest)) :
    startsWithDigit s = true ∧ s.dropWhile isDigit = rest := by
  unfold exponentDigits at read
  cases s with
  | nil => exact nomatch read
  | cons c s =>
    dsimp only at read
    split at read
    · next digit =>
      refine ⟨digit, ?_⟩
      rw [List.dropWhile_cons_of_pos digit, ← dropWhile_gatherExponent (digitValue c) s]
      split at read
      · next overflow =>
        rw [if_pos overflow]
        split at read
        · exact nomatch read
        · exact (Prod.mk.inj (Except.ok.inj read)).2
      · next overflow =>
        rw [if_neg overflow]
        exact eq_of_doubleOf read
    · exact nomatch read

/-- An exponent that is read is skipped. -/
theorem skipExponent_of_exponentPart
    (read : exponentPart negative significand scale s = .ok (n, rest)) :
    skipExponent s = .ok rest := by
  cases s with
  | nil => exact nomatch read
  | cons c s =>
    rw [exponentPart_cons] at read
    unfold skipExponent
    dsimp only
    split at read
    · next minus =>
      obtain ⟨starts, ends⟩ := skip_of_exponentDigits read
      have signed : c = '+' ∨ c = '-' := .inr minus
      rw [if_pos signed, if_pos starts, ends]
    · next notMinus =>
      split at read
      · next plus =>
        obtain ⟨starts, ends⟩ := skip_of_exponentDigits read
        have signed : c = '+' ∨ c = '-' := .inl plus
        rw [if_pos signed, if_pos starts, ends]
      · next notPlus =>
        obtain ⟨starts, ends⟩ := skip_of_exponentDigits read
        have unsigned : ¬(c = '+' ∨ c = '-') := not_or.mpr ⟨notPlus, notMinus⟩
        rw [if_neg unsigned, if_pos starts, ends]

/-- What may be an exponent is skipped if it is read. -/
theorem skipMaybeExponent_of_maybeExponent
    (read : maybeExponent negative significand scale s = .ok (n, rest)) :
    skipMaybeExponent s = .ok rest := by
  unfold maybeExponent at read
  unfold skipMaybeExponent
  cases s with
  | nil => exact congrArg Except.ok (eq_of_doubleOf read)
  | cons c s =>
    dsimp only at read ⊢
    split at read
    · next letter => rw [if_pos letter, skipExponent_of_exponentPart read]
    · next letter => rw [if_neg letter, eq_of_doubleOf read]

/-- A fraction that is read is skipped. -/
theorem skip_of_fractionPart (read : fractionPart negative significand scale s = .ok (n, rest)) :
    startsWithDigit s = true ∧ skipMaybeExponent (s.dropWhile isDigit) = .ok rest := by
  unfold fractionPart at read
  rw [← dropWhile_gather significand 0 s]
  dsimp only at read
  split at read
  · next more =>
    exact ⟨startsWithDigit_of_gather (.inl more), skipMaybeExponent_of_maybeExponent read⟩
  · next noMore =>
    rw [dropWhile_of_not_startsWithDigit (Bool.not_eq_true _ ▸ noMore)]
    split at read
    · exact nomatch read
    · next taken =>
      exact ⟨startsWithDigit_of_gather (.inr taken), skipMaybeExponent_of_maybeExponent read⟩

/-- What may be a fraction or an exponent is skipped if it is read. -/
theorem skipMaybeFraction_of_maybeFraction
    (read : maybeFraction negative significand scale s = .ok (n, rest)) :
    skipMaybeFraction s = .ok rest := by
  unfold maybeFraction at read
  unfold skipMaybeFraction
  cases s with
  | nil => exact congrArg Except.ok (eq_of_doubleOf read)
  | cons c s =>
    dsimp only at read ⊢
    split at read
    · next point =>
      obtain ⟨starts, skipped⟩ := skip_of_fractionPart read
      rw [if_pos point, if_pos starts, skipped]
    · next point => rw [if_neg point, skipMaybeExponent_of_maybeExponent read]

theorem eq_of_integerOf (read : integerOf negative significand s = .ok (n, rest)) : s = rest := by
  unfold integerOf at read
  split at read <;> split at read <;>
    first
      | exact (Prod.mk.inj (Except.ok.inj read)).2
      | exact eq_of_doubleOf read

/-- What follows the digits of an integer is skipped if it is read. -/
theorem skipMaybeFraction_of_afterInteger
    (read : afterInteger negative significand s = .ok (n, rest)) :
    skipMaybeFraction s = .ok rest := by
  unfold afterInteger at read
  cases s with
  | nil => exact congrArg Except.ok (eq_of_integerOf read)
  | cons c s =>
    dsimp only at read
    split at read
    · exact skipMaybeFraction_of_maybeFraction read
    · next letter =>
      obtain ⟨notPoint, notLetter⟩ := not_or.mp letter
      unfold skipMaybeFraction skipMaybeExponent
      dsimp only
      rw [if_neg notPoint, if_neg notLetter, eq_of_integerOf read]

/-- **A number that is read is skipped.** -/
theorem skipNumber_of_unsignedNumber (read : unsignedNumber negative s = .ok (n, rest)) :
    skipNumber s = .ok rest := by
  unfold unsignedNumber at read
  unfold skipNumber
  cases s with
  | nil => exact nomatch read
  | cons c s =>
    dsimp only at read ⊢
    split at read
    · next zero =>
      rw [if_pos zero]
      split at read
      · exact nomatch read
      · next starts =>
        rw [if_neg starts]
        exact skipMaybeFraction_of_afterInteger read
    · next notZero =>
      rw [if_neg notZero]
      split at read
      · next digit =>
        rw [if_pos digit, ← dropWhile_gather (digitValue c) 1 s]
        split at read
        · exact skipMaybeFraction_of_maybeFraction read
        · next noMore =>
          rw [dropWhile_of_not_startsWithDigit (Bool.not_eq_true _ ▸ noMore)]
          exact skipMaybeFraction_of_afterInteger read
      · exact nomatch read

/-- Skipping an exponent takes no input back. -/
theorem length_le_of_skipExponent (skipped : skipExponent s = .ok rest) :
    rest.length ≤ s.length := by
  have digits {s : List Char} (skipped : (if startsWithDigit s then .ok (s.dropWhile isDigit)
      else .error (.past .invalidNumber s) : Except Fault (List Char)) = .ok rest) :
      rest.length ≤ s.length := by
    split at skipped
    · obtain rfl := Except.ok.inj skipped
      exact List.length_dropWhile_le _ _
    · exact nomatch skipped
  unfold skipExponent at skipped
  refine Nat.le_trans (digits skipped) ?_
  cases s with
  | nil => exact Nat.le_refl _
  | cons c s =>
    dsimp only
    split
    · exact Nat.le_succ _
    · exact Nat.le_refl _

/-- Nor does skipping what may be one. -/
theorem length_le_of_skipMaybeExponent (skipped : skipMaybeExponent s = .ok rest) :
    rest.length ≤ s.length := by
  unfold skipMaybeExponent at skipped
  cases s with
  | nil =>
    obtain rfl := Except.ok.inj skipped
    exact Nat.le_refl _
  | cons c s =>
    dsimp only at skipped
    split at skipped
    · exact Nat.le_succ_of_le (length_le_of_skipExponent skipped)
    · obtain rfl := Except.ok.inj skipped
      exact Nat.le_refl _

/-- Nor does skipping a fraction. -/
theorem length_le_of_skipMaybeFraction (skipped : skipMaybeFraction s = .ok rest) :
    rest.length ≤ s.length := by
  unfold skipMaybeFraction at skipped
  cases s with
  | nil =>
    obtain rfl := Except.ok.inj skipped
    exact Nat.le_refl _
  | cons c s =>
    dsimp only at skipped
    split at skipped
    · split at skipped
      · exact Nat.le_succ_of_le
          (Nat.le_trans (length_le_of_skipMaybeExponent skipped) (List.length_dropWhile_le _ _))
      · exact nomatch skipped
    · exact length_le_of_skipMaybeExponent skipped

/-- A number that is skipped has a digit at least. -/
theorem length_lt_of_skipNumber (skipped : skipNumber s = .ok rest) : rest.length < s.length := by
  unfold skipNumber at skipped
  cases s with
  | nil => exact nomatch skipped
  | cons c s =>
    dsimp only at skipped
    split at skipped
    · split at skipped
      · exact nomatch skipped
      · exact Nat.lt_succ_of_le (length_le_of_skipMaybeFraction skipped)
    · split at skipped
      · exact Nat.lt_succ_of_le
          (Nat.le_trans (length_le_of_skipMaybeFraction skipped) (List.length_dropWhile_le _ _))
      · exact nomatch skipped

/-! ## Values that hold no other -/

/-- What was read before it was seen through a function, and the other way round. -/
theorem Read.map_eq_ok_iff {α β : Type} {f : α → β} {read : Read α} {b : β} :
    Read.map f read s = .ok (b, rest) ↔ ∃ a, read s = .ok (a, rest) ∧ f a = b := by
  unfold Read.map
  cases read s with
  | error fault => simp
  | ok result =>
    obtain ⟨a, rest'⟩ := result
    simp only [Except.ok.injEq, Prod.mk.injEq]
    constructor
    · rintro ⟨rfl, rfl⟩
      exact ⟨a, ⟨rfl, rfl⟩, rfl⟩
    · rintro ⟨_, ⟨rfl, rfl⟩, rfl⟩
      exact ⟨rfl, rfl⟩

theorem eq_ok_of_toOption {ε α : Type} {result : Except ε α} {a : α}
    (found : result.toOption = some a) : result = .ok a := by
  cases result with
  | error e => exact nomatch found
  | ok b => rw [Option.some.inj found]

theorem exists_of_map {α β : Type} {f : α → β} {skipped : Except Fault α} {b : β}
    (ok : skipped.map f = .ok b) : ∃ a, skipped = .ok a ∧ f a = b := by
  cases skipped with
  | error fault => exact nomatch ok
  | ok a => exact ⟨a, rfl, Except.ok.inj ok⟩

@[simp] theorem skipSpace_skipSpace (s : List Char) : skipSpace (skipSpace s) = skipSpace s :=
  List.dropWhile_idempotent _ s

@[simp] theorem skipHead_skipSpace (s : List Char) : skipHead (skipSpace s) = skipHead s := by
  unfold skipHead
  rw [skipSpace_skipSpace]

/-- **The words**, each with its first letter and the rest of it. -/
inductive Word : Char → List Char → Json → Prop where
  | null : Word 'n' ['u', 'l', 'l'] .null
  | true : Word 't' ['r', 'u', 'e'] (.bool Bool.true)
  | false : Word 'f' ['a', 'l', 's', 'e'] (.bool Bool.false)

/-- **What is read without opening a container**, after the spaces. -/
inductive Scalar : List Char → Json → List Char → Prop where
  | string {written text rest : List Char} (read : stringBody written = .ok (text, rest)) :
      Scalar ('"' :: written) (.string (String.ofList text)) rest
  | word {c : Char} {letters t rest : List Char} {v : Json} (named : Word c letters v)
      (read : Json.word letters t = .ok rest) : Scalar (c :: t) v rest
  | number {c : Char} {t rest : List Char} {n : Number} (starts : startsNumber c = true)
      (read : readNumber (c :: t) = .ok (n, rest)) : Scalar (c :: t) (.number n) rest

theorem ne_of_startsNumber {c d : Char} (starts : startsNumber c = true)
    (other : startsNumber d = false) : c ≠ d := by
  rintro rfl
  exact Bool.noConfusion (starts.symm.trans other)

/-- **Where no container may be opened** a value is a string, a word or a number. -/
theorem value_zero_eq_ok_iff {v : Json} :
    value 0 s = .ok (v, rest) ↔ Scalar (skipSpace s) v rest := by
  unfold value
  generalize skipSpace s = t
  constructor
  · intro read
    cases t with
    | nil => cases read
    | cons c t =>
      have of_word {letters : List Char} {w : Json} (named : Word c letters w)
          (read : (Json.word letters t).map (w, ·) = .ok (v, rest)) : Scalar (c :: t) v rest := by
        obtain ⟨_, found, eq⟩ := exists_of_map read
        obtain ⟨rfl, rfl⟩ := Prod.mk.inj eq
        exact .word named found
      dsimp only at read
      split_ifs at read with quote square brace isN isT isF starts
      · subst quote
        obtain ⟨text, found, rfl⟩ := Read.map_eq_ok_iff.mp read
        exact .string found
      · exact of_word (by rw [isN]; exact .null) read
      · exact of_word (by rw [isT]; exact .true) read
      · exact of_word (by rw [isF]; exact .false) read
      · obtain ⟨n, found, rfl⟩ := Read.map_eq_ok_iff.mp read
        exact .number starts found
  · intro scalar
    cases scalar with
    | string read => simp [Read.map, read]
    | word named read => cases named <;> simp [read, Except.map]
    | number starts read =>
      -- A number starts with a character that starts nothing else.
      have other {d : Char} (no : startsNumber d = false) := ne_of_startsNumber starts no
      simp only [if_neg (other (d := '"') rfl), if_neg (other (d := '[') rfl),
        if_neg (other (d := '{') rfl), if_neg (other (d := 'n') rfl),
        if_neg (other (d := 't') rfl), if_neg (other (d := 'f') rfl), if_pos starts, Read.map, read]

/-- **What the skipper takes in one step**, after the spaces: a bracket, or all of what opens
none. -/
inductive Head : List Char → Option Bracket → List Char → Prop where
  | square (inside : List Char) : Head ('[' :: inside) (some .square) inside
  | brace (inside : List Char) : Head ('{' :: inside) (some .brace) inside
  | string {written rest : List Char} (skipped : skipString written = .ok rest) :
      Head ('"' :: written) none rest
  | word {c : Char} {letters t rest : List Char} {v : Json} (named : Word c letters v)
      (skipped : Json.word letters t = .ok rest) : Head (c :: t) none rest
  | minus {t rest : List Char} (skipped : skipNumber t = .ok rest) : Head ('-' :: t) none rest
  | number {c : Char} {t rest : List Char} (digit : isDigit c = true)
      (skipped : skipNumber (c :: t) = .ok rest) : Head (c :: t) none rest

/-- **The skipper's step**, by the character that it finds. -/
theorem skipHead_eq_ok_iff {opened : Option Bracket} :
    skipHead s = .ok (opened, rest) ↔ Head (skipSpace s) opened rest := by
  unfold skipHead
  generalize skipSpace s = t
  constructor
  · intro skipped
    cases t with
    | nil => cases skipped
    | cons c t =>
      have of_none {taken : Except Fault (List Char)}
          (skipped : taken.map ((none : Option Bracket), ·) = .ok (opened, rest))
          (head : taken = .ok rest → Head (c :: t) none rest) : Head (c :: t) opened rest := by
        obtain ⟨_, found, eq⟩ := exists_of_map skipped
        obtain ⟨rfl, rfl⟩ := Prod.mk.inj eq
        exact head found
      dsimp only at skipped
      split_ifs at skipped with square brace quote isN isT isF minus digit
      · subst square
        cases skipped
        exact .square _
      · subst brace
        cases skipped
        exact .brace _
      · subst quote
        exact of_none skipped .string
      · exact of_none skipped (.word (by rw [isN]; exact .null))
      · exact of_none skipped (.word (by rw [isT]; exact .true))
      · exact of_none skipped (.word (by rw [isF]; exact .false))
      · subst minus
        exact of_none skipped .minus
      · exact of_none skipped (.number digit)
  · intro head
    cases head with
    | square | brace => rfl
    | string skipped | minus skipped => simp [skipped, Except.map]
    | word named skipped => cases named <;> simp [skipped, Except.map]
    | @number c _ _ digit skipped =>
      have other {d : Char} (no : isDigit d = false) : c ≠ d := by
        rintro rfl
        exact Bool.noConfusion (digit.symm.trans no)
      simp only [if_neg (other (d := '[') rfl), if_neg (other (d := '{') rfl),
        if_neg (other (d := '"') rfl), if_neg (other (d := 'n') rfl),
        if_neg (other (d := 't') rfl), if_neg (other (d := 'f') rfl),
        if_neg (other (d := '-') rfl), if_pos digit, skipped, Except.map]

/-- What is skipped up to its end, or up to the inside of its bracket, has a character at least. -/
theorem length_lt_of_skipHead {opened : Option Bracket}
    (skipped : skipHead s = .ok (opened, rest)) : rest.length < s.length := by
  have head := skipHead_eq_ok_iff.mp skipped
  have spaces : (skipSpace s).length ≤ s.length := List.length_dropWhile_le _ s
  generalize skipSpace s = t at head spaces
  refine Nat.lt_of_lt_of_le ?_ spaces
  cases head with
  | square | brace => exact Nat.lt_succ_self _
  | string skipped => exact Nat.lt_succ_of_lt (length_lt_of_skipString skipped)
  | word named skipped => exact Nat.lt_succ_of_le (length_le_of_word skipped)
  | minus skipped => exact Nat.lt_succ_of_lt (length_lt_of_skipNumber skipped)
  | number digit skipped => exact length_lt_of_skipNumber skipped

/-- What is skipped in one step, up to its end, begins with no bracket. -/
theorem exists_cons_of_skipHead (skipped : skipHead s = .ok (none, rest)) :
    ∃ c t, skipSpace s = c :: t ∧ c ∉ ['[', '{', ']', '}'] := by
  have head := skipHead_eq_ok_iff.mp skipped
  generalize skipSpace s = t at head
  cases head with
  | string | minus => exact ⟨_, _, rfl, by decide⟩
  | word named => exact ⟨_, _, rfl, by cases named <;> decide⟩
  | number digit =>
    refine ⟨_, _, rfl, fun bracket => ?_⟩
    simp only [List.mem_cons, List.not_mem_nil, or_false] at bracket
    obtain rfl | rfl | rfl | rfl := bracket <;> exact absurd digit (by decide)

/-- **What holds no other value is skipped if it is read.** -/
theorem skipHead_of_value_zero {v : Json} (read : value 0 s = .ok (v, rest)) :
    skipHead s = .ok (none, rest) := by
  rw [skipHead_eq_ok_iff]
  have scalar := value_zero_eq_ok_iff.mp read
  generalize skipSpace s = t at scalar
  cases scalar with
  | string read => exact .string (skipString_of_stringBody read)
  | word named read => exact .word named read
  | @number c _ _ _ starts read =>
    unfold readNumber at read
    by_cases minus : c = '-'
    · subst minus
      exact .minus (skipNumber_of_unsignedNumber read)
    · have digit : isDigit c = true := by simpa [startsNumber, minus] using starts
      dsimp only at read
      rw [if_neg minus] at read
      exact .number digit (skipNumber_of_unsignedNumber read)

/-- How deep containers may be nested does not matter to what is none, … -/
theorem value_eq_value_zero_of_head {c : Char} {t : List Char} (starts : skipSpace s = c :: t)
    (notSquare : c ≠ '[') (notBrace : c ≠ '{') (depth : Nat) : value depth s = value 0 s := by
  unfold value
  rw [starts]
  simp only [if_neg notSquare, if_neg notBrace]

/-- … which is what is skipped in one step. -/
theorem value_eq_value_zero (skipped : skipHead s = .ok (none, rest)) (depth : Nat) :
    value depth s = value 0 s := by
  obtain ⟨c, t, starts, notBracket⟩ := exists_cons_of_skipHead skipped
  exact value_eq_value_zero_of_head starts (fun eq => notBracket (by simp [eq]))
    (fun eq => notBracket (by simp [eq])) depth

end ServiceBroker.Json
