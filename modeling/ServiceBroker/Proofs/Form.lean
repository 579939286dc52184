import ServiceBroker.Proofs.Utf8
import ServiceBroker.Text.Percent

/-!
# Form pairs read back

The query of a request is a list of pairs, percent-encoded and joined. A server
cuts it at the ampersands and at the first equals sign of each piece, and decodes
both sides; `formPairs_formQuery` says that it has the pairs again, whatever the
names and values are.

All of this rests on the characters that an encoded text is made of: unreserved
ones, percent signs and hexadecimal digits. None of them separates, and none is a
plus sign, which would be read as a space.
-/

namespace ServiceBroker.Text

/-! ## Percent-encoding -/

theorem percentDecode_cons {c : Char} (plain : c ≠ '%') (rest : List Char) :
    percentDecode (c :: rest) = String.utf8EncodeChar c ++ percentDecode rest := by
  conv => lhs; unfold percentDecode
  exact if_neg plain

/-- **A text without percent signs is decoded as its bytes.** -/
theorem percentDecode_plain {text : List Char} (plain : ∀ c ∈ text, c ≠ '%') :
    percentDecode text = Utf8.encode text := by
  unfold Utf8.encode
  induction text with
  | nil => rfl
  | cons c text ih =>
    rw [percentDecode_cons (plain c List.mem_cons_self), List.flatMap_cons,
      ih fun d mem => plain d (List.mem_cons_of_mem c mem)]

/-- **A byte that was spelled out is decoded.** -/
theorem percentDecode_percentByte (b : UInt8) (rest : List Char) :
    percentDecode (percentByte b ++ rest) = b :: percentDecode rest := by
  have size : b.toNat < 256 := b.toNat_lt
  show percentDecode ('%' :: upperHexDigit (b.toNat / 16) :: upperHexDigit (b.toNat % 16) :: rest)
    = _
  conv => lhs; unfold percentDecode
  rw [if_pos rfl]
  dsimp only
  rw [hexValue?_upperHexDigit (by omega), hexValue?_upperHexDigit (by omega)]
  refine congrArg (· :: percentDecode rest) ?_
  rw [show b.toNat / 16 * 16 + b.toNat % 16 = b.toNat by omega]
  exact UInt8.ofNat_toNat

/-- Bytes that were spelled out are decoded. -/
theorem percentDecode_flatMap_percentByte (bytes : List UInt8) (rest : List Char) :
    percentDecode (bytes.flatMap percentByte ++ rest) = bytes ++ percentDecode rest := by
  induction bytes with
  | nil => rfl
  | cons b bytes ih =>
    rw [List.flatMap_cons, List.append_assoc, percentDecode_percentByte, ih]
    rfl

theorem ne_percent_of_isUnreserved {c : Char} (h : isUnreserved c = true) : c ≠ '%' := by
  rintro rfl
  exact nomatch (show false = true from h)

/-- **An encoded text is decoded as its bytes.** -/
theorem percentDecode_percentEncode (text : List Char) :
    percentDecode (percentEncode text) = Utf8.encode text := by
  unfold percentEncode Utf8.encode
  induction text with
  | nil => rfl
  | cons c text ih =>
    rw [List.flatMap_cons, List.flatMap_cons]
    split
    · next h =>
      rw [List.singleton_append, percentDecode_cons (ne_percent_of_isUnreserved h), ih]
    · rw [percentDecode_flatMap_percentByte, ih]

/-! ## The characters of an encoded text -/

/-- **The characters of an encoded text.** -/
def isEncoded (c : Char) : Bool := isUnreserved c || c == '%'

theorem isUnreserved_upperHexDigit {n : Nat} (h : n < 16) :
    isUnreserved (upperHexDigit n) = true := by
  have digits : ∀ m : Fin 16, isUnreserved (upperHexDigit m.val) = true := by decide
  exact digits ⟨n, h⟩

/-- **An encoded text has no other characters.** -/
theorem isEncoded_of_mem {text : List Char} {c : Char} (mem : c ∈ percentEncode text) :
    isEncoded c = true := by
  unfold isEncoded
  rw [Bool.or_eq_true, beq_iff_eq]
  obtain ⟨original, _, mem⟩ := List.mem_flatMap.mp mem
  split at mem
  · next h =>
    rw [List.mem_singleton.mp mem]
    exact .inl h
  · obtain ⟨b, _, mem⟩ := List.mem_flatMap.mp mem
    have size : b.toNat < 256 := b.toNat_lt
    unfold percentByte at mem
    simp only [List.mem_cons, List.not_mem_nil, or_false] at mem
    obtain rfl | rfl | rfl := mem
    · exact .inr rfl
    · exact .inl (isUnreserved_upperHexDigit (by omega))
    · exact .inl (isUnreserved_upperHexDigit (by omega))

theorem not_mem_percentEncode {c : Char} (h : isEncoded c = false) (text : List Char) :
    c ∉ percentEncode text := by
  intro mem
  rw [isEncoded_of_mem mem] at h
  exact nomatch h

/-- **One side of a pair is read back.** -/
theorem formText_percentEncode (text : String) : formText (percentEncode text.toList) = text := by
  unfold formText
  have noPlus : (percentEncode text.toList).map (fun c => if c = '+' then ' ' else c)
      = percentEncode text.toList := by
    refine Eq.trans (List.map_congr_left fun c mem => ?_) (List.map_id _)
    refine if_neg fun plus => ?_
    subst plus
    exact not_mem_percentEncode rfl _ mem
  rw [noPlus, percentDecode_percentEncode, Utf8.lossy_encode, String.ofList_toList]

/-! ## Cutting a query -/

/-- A text without the separator is one piece. -/
theorem splitAtEach_of_not_mem {separator : Char} {text : List Char} (h : separator ∉ text) :
    splitAtEach separator text = [text] := by
  induction text with
  | nil => rfl
  | cons c text ih =>
    obtain ⟨other, later⟩ := List.ne_and_not_mem_of_not_mem_cons h
    unfold splitAtEach
    rw [if_neg (Ne.symm other), ih later]

/-- There is a piece, whatever is cut. -/
theorem exists_splitAtEach_eq (separator : Char) (text : List Char) :
    ∃ piece pieces, splitAtEach separator text = piece :: pieces := by
  cases text with
  | nil => exact ⟨_, _, rfl⟩
  | cons c text =>
    unfold splitAtEach
    split
    · exact ⟨_, _, rfl⟩
    · split <;> exact ⟨_, _, rfl⟩

theorem splitAtEach_self (separator : Char) (text : List Char) :
    splitAtEach separator (separator :: text) = [] :: splitAtEach separator text := if_pos rfl

theorem splitAtEach_cons {separator c : Char} (other : c ≠ separator) {text piece : List Char}
    {pieces : List (List Char)} (cut : splitAtEach separator text = piece :: pieces) :
    splitAtEach separator (c :: text) = (c :: piece) :: pieces := by
  unfold splitAtEach
  rw [if_neg other, cut]

/-- **The texts on both sides of a separator** are cut on their own. -/
theorem splitAtEach_append_cons (separator : Char) (text rest : List Char) :
    splitAtEach separator (text ++ separator :: rest)
      = splitAtEach separator text ++ splitAtEach separator rest := by
  induction text with
  | nil => exact splitAtEach_self separator rest
  | cons c text ih =>
    rw [List.cons_append]
    by_cases same : c = separator
    · rw [same, splitAtEach_self, splitAtEach_self, ih, List.cons_append]
    · obtain ⟨piece, pieces, cut⟩ := exists_splitAtEach_eq separator text
      rw [cut, List.cons_append] at ih
      rw [splitAtEach_cons same cut, splitAtEach_cons same ih, List.cons_append]

theorem splitAtEach_append {separator : Char} {text : List Char} (h : separator ∉ text)
    (rest : List Char) :
    splitAtEach separator (text ++ separator :: rest) = text :: splitAtEach separator rest := by
  rw [splitAtEach_append_cons, splitAtEach_of_not_mem h, List.singleton_append]

/-- **Pieces that were joined are cut apart again.** -/
theorem splitAtEach_intercalate {separator : Char} {piece : List Char}
    {pieces : List (List Char)} (h : ∀ text ∈ piece :: pieces, separator ∉ text) :
    splitAtEach separator ([separator].intercalate (piece :: pieces)) = piece :: pieces := by
  induction pieces generalizing piece with
  | nil =>
    rw [List.intercalate_singleton]
    exact splitAtEach_of_not_mem (h piece List.mem_cons_self)
  | cons next pieces ih =>
    rw [List.intercalate_cons_cons, List.append_assoc, List.singleton_append,
      splitAtEach_append (h piece List.mem_cons_self),
      ih fun text mem => h text (List.mem_cons_of_mem piece mem)]

/-- **A text is cut at its first separator.** -/
theorem cutAtFirst_append {separator : Char} {text : List Char} (h : separator ∉ text)
    (rest : List Char) : cutAtFirst separator (text ++ separator :: rest) = (text, rest) := by
  have passes : ∀ c ∈ text, decide (c ≠ separator) = true := fun c mem =>
    decide_eq_true fun same => h (same ▸ mem)
  unfold cutAtFirst
  rw [List.takeWhile_append_of_pos passes, List.dropWhile_append_of_pos passes,
    List.takeWhile_cons_of_neg (by simp), List.dropWhile_cons_of_neg (by simp), List.append_nil]
  rfl

/-- **The two parts of a text** that was cut make it again. -/
theorem append_cutAtFirst {separator : Char} {text : List Char} (h : separator ∈ text) :
    (cutAtFirst separator text).1 ++ separator :: (cutAtFirst separator text).2 = text := by
  obtain ⟨before, rest, rfl, first⟩ := List.eq_append_cons_of_mem h
  rw [cutAtFirst_append first]

/-- A text without a character is all before it. -/
theorem takeWhile_of_not_mem {separator : Char} {text : List Char} (h : separator ∉ text) :
    text.takeWhile (· ≠ separator) = text := by
  have passes : ∀ c ∈ text, decide (c ≠ separator) = true := fun c mem =>
    decide_eq_true fun same => h (same ▸ mem)
  have kept := @List.takeWhile_append_of_pos _ _ text [] passes
  rw [List.append_nil] at kept
  exact kept.trans (List.append_nil text)

/-- A text without the separator is not cut. -/
theorem cutAtFirst_of_not_mem {separator : Char} {text : List Char} (h : separator ∉ text) :
    cutAtFirst separator text = (text, []) := by
  have passes : ∀ c ∈ text, decide (c ≠ separator) = true := fun c mem =>
    decide_eq_true fun same => h (same ▸ mem)
  have dropped := @List.dropWhile_append_of_pos _ _ text [] passes
  rw [List.append_nil] at dropped
  unfold cutAtFirst
  rw [takeWhile_of_not_mem h, dropped]
  rfl

/-! ## Pairs -/

/-- A pair as it is written. -/
def formPair (pair : String × String) : List Char :=
  percentEncode pair.1.toList ++ '=' :: percentEncode pair.2.toList

/-- A query is its pairs, joined. -/
theorem formQuery_eq (pairs : List (String × String)) :
    formQuery pairs = ['&'].intercalate (pairs.map formPair) := rfl

/-- A written pair has no ampersand. -/
theorem not_mem_formPair {c : Char} (h : isEncoded c = false) (notEquals : c ≠ '=')
    (pair : String × String) : c ∉ formPair pair := by
  unfold formPair
  rw [List.mem_append, List.mem_cons]
  rintro (mem | rfl | mem)
  · exact not_mem_percentEncode h _ mem
  · exact notEquals rfl
  · exact not_mem_percentEncode h _ mem

/-- Nor has a written query other characters than those of its pairs. -/
theorem not_mem_formQuery {c : Char} (h : isEncoded c = false) (notEquals : c ≠ '=')
    (notAmpersand : c ≠ '&') (pairs : List (String × String)) : c ∉ formQuery pairs := by
  rw [formQuery_eq]
  induction pairs with
  | nil => exact List.not_mem_nil
  | cons pair pairs ih =>
    cases pairs with
    | nil =>
      rw [List.map_singleton, List.intercalate_singleton]
      exact not_mem_formPair h notEquals pair
    | cons next pairs =>
      rw [List.map_cons, List.map_cons, List.intercalate_cons_cons, ← List.map_cons,
        List.append_assoc, List.singleton_append, List.mem_append, List.mem_cons]
      rintro (mem | same | mem)
      · exact not_mem_formPair h notEquals pair mem
      · exact notAmpersand same
      · exact ih mem

/-- **The pairs of a query are read back**, in their order. -/
theorem formPairs_formQuery (pairs : List (String × String)) :
    formPairs (formQuery pairs) = pairs := by
  cases pairs with
  | nil => rfl
  | cons pair pairs =>
    have pieces : splitAtEach '&' (formQuery (pair :: pairs)) = (pair :: pairs).map formPair := by
      rw [formQuery_eq, List.map_cons]
      refine splitAtEach_intercalate fun text mem => ?_
      rw [← List.map_cons] at mem
      obtain ⟨original, _, rfl⟩ := List.mem_map.mp mem
      exact not_mem_formPair rfl (by decide) original
    unfold formPairs
    rw [pieces]
    -- Empty pieces are dropped, but a pair has its equals sign even when both texts are empty.
    have nonempty : ((pair :: pairs).map formPair).filter (· ≠ [])
        = (pair :: pairs).map formPair := by
      refine List.filter_eq_self.mpr fun text mem => ?_
      obtain ⟨original, _, rfl⟩ := List.mem_map.mp mem
      simp [formPair]
    rw [nonempty, List.map_map]
    refine Eq.trans (List.map_congr_left fun original _ => ?_) (List.map_id _)
    show (formText (cutAtFirst '=' (formPair original)).1,
      formText (cutAtFirst '=' (formPair original)).2) = original
    unfold formPair
    rw [cutAtFirst_append (not_mem_percentEncode rfl _), formText_percentEncode,
      formText_percentEncode]

end ServiceBroker.Text
