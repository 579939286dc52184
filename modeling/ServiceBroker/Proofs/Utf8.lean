import ServiceBroker.Text.Utf8

/-!
# UTF-8 reads back

Whatever text is encoded, decoding its bytes finds the characters of the text and
no fault, also when other bytes follow. Both readings that are taken from
decoding, the strict one and the lossy one, then give the text back.

A character has one to four bytes, and the cases are those of its number. In each
the first byte says how many tail bytes follow, and the bounds on the second byte
are exactly what keeps overlong forms, surrogates and numbers past U+10FFFF out.
-/

namespace ServiceBroker.Text.Utf8

/-! ## The four forms -/

section Forms

variable {a b c d : UInt8} (rest : List UInt8)

theorem decode_one (lead : a < 0x80) :
    decode (a :: rest) = some (Char.ofNat a.toNat) :: decode rest := by
  conv => lhs; unfold decode
  exact if_pos lead

/-- A character of two bytes. -/
theorem decode_two (least : 0xC2 ≤ a) (most : a ≤ 0xDF) (tail : isTail b = true) :
    decode (a :: b :: rest) = some (assemble (a.toNat - 0xC0) [b]) :: decode rest := by
  have notOne : ¬ a < 0x80 := by
    rw [UInt8.lt_iff_toNat_lt]
    have := UInt8.le_iff_toNat_le.mp least
    simp at this ⊢
    omega
  conv => lhs; unfold decode
  rw [if_neg notOne, if_pos (by simp [least, most])]
  exact if_pos tail

/-- A character of three bytes. -/
theorem decode_three (least : 0xE0 ≤ a) (most : a ≤ 0xEF) (second : isSecondOfThree a b = true)
    (tail : isTail c = true) :
    decode (a :: b :: c :: rest) = some (assemble (a.toNat - 0xE0) [b, c]) :: decode rest := by
  have lower := UInt8.le_iff_toNat_le.mp least
  have notOne : ¬ a < 0x80 := by
    rw [UInt8.lt_iff_toNat_lt]
    simp at lower ⊢
    omega
  have notTwo : ¬ (0xC2 ≤ a && a ≤ 0xDF) = true := by
    simp [UInt8.le_iff_toNat_le] at lower ⊢
    omega
  conv => lhs; unfold decode
  rw [if_neg notOne, if_neg notTwo, if_pos (by simp [least, most])]
  exact (if_pos second).trans (if_pos tail)

/-- A character of four bytes. -/
theorem decode_four (least : 0xF0 ≤ a) (most : a ≤ 0xF4) (second : isSecondOfFour a b = true)
    (third : isTail c = true) (tail : isTail d = true) :
    decode (a :: b :: c :: d :: rest)
      = some (assemble (a.toNat - 0xF0) [b, c, d]) :: decode rest := by
  have lower := UInt8.le_iff_toNat_le.mp least
  have notOne : ¬ a < 0x80 := by
    rw [UInt8.lt_iff_toNat_lt]
    simp at lower ⊢
    omega
  have notTwo : ¬ (0xC2 ≤ a && a ≤ 0xDF) = true := by
    simp [UInt8.le_iff_toNat_le] at lower ⊢
    omega
  have notThree : ¬ (0xE0 ≤ a && a ≤ 0xEF) = true := by
    simp [UInt8.le_iff_toNat_le] at lower ⊢
    omega
  conv => lhs; unfold decode
  rw [if_neg notOne, if_neg notTwo, if_neg notThree, if_pos (by simp [least, most])]
  exact (if_pos second).trans ((if_pos third).trans (if_pos tail))

end Forms

/-! ## One character -/

theorem toNat_byte {n : Nat} (h : n < 256) : (UInt8.ofNat n).toNat = n := by
  rw [UInt8.toNat_ofNat', Nat.mod_eq_of_lt h]

theorem byte_inj {m n : Nat} (hm : m < 256) (hn : n < 256) (h : UInt8.ofNat m = UInt8.ofNat n) :
    m = n := by
  have numbers := congrArg UInt8.toNat h
  rwa [toNat_byte hm, toNat_byte hn] at numbers

theorem byte_le_byte {m n : Nat} (h : m ≤ n) (hn : n < 256) :
    UInt8.ofNat m ≤ UInt8.ofNat n := by
  rw [UInt8.le_iff_toNat_le, toNat_byte (Nat.lt_of_le_of_lt h hn), toNat_byte hn]
  exact h

theorem byte_between {low n high : Nat} (hlow : low ≤ n) (hhigh : n ≤ high) (h : high < 256) :
    (UInt8.ofNat low ≤ UInt8.ofNat n && UInt8.ofNat n ≤ UInt8.ofNat high) = true := by
  rw [Bool.and_eq_true, decide_eq_true_eq, decide_eq_true_eq]
  exact ⟨byte_le_byte hlow (Nat.lt_of_le_of_lt hhigh h), byte_le_byte hhigh h⟩

theorem isTail_byte (n : Nat) : isTail (UInt8.ofNat (n % 0x40 + 0x80)) = true :=
  @byte_between 0x80 _ 0xBF (by omega) (by omega) (by decide)

/-- The second byte of three, by the number of the character. -/
theorem isSecondOfThree_byte {v : Nat} (least : 0x7FF < v) (most : v ≤ 0xFFFF)
    (notSurrogate : v < 0xD800 ∨ 0xDFFF < v) :
    isSecondOfThree (UInt8.ofNat (v / 4096 % 0x10 + 0xE0)) (UInt8.ofNat (v / 64 % 0x40 + 0x80))
      = true := by
  unfold isSecondOfThree
  split
  · next first =>
    have lead : v / 4096 % 0x10 + 0xE0 = 0xE0 := byte_inj (by omega) (by decide) first
    exact @byte_between 0xA0 _ 0xBF (by omega) (by omega) (by decide)
  · split
    · next first =>
      have lead : v / 4096 % 0x10 + 0xE0 = 0xED := byte_inj (by omega) (by decide) first
      exact @byte_between 0x80 _ 0x9F (by omega) (by omega) (by decide)
    · exact isTail_byte (v / 64)

/-- The second byte of four, by the number of the character. -/
theorem isSecondOfFour_byte {v : Nat} (least : 0xFFFF < v) (most : v < 0x110000) :
    isSecondOfFour (UInt8.ofNat (v / 262144 % 0x8 + 0xF0))
      (UInt8.ofNat (v / 4096 % 0x40 + 0x80)) = true := by
  unfold isSecondOfFour
  split
  · next first =>
    have lead : v / 262144 % 0x8 + 0xF0 = 0xF0 := byte_inj (by omega) (by decide) first
    exact @byte_between 0x90 _ 0xBF (by omega) (by omega) (by decide)
  · split
    · next first =>
      have lead : v / 262144 % 0x8 + 0xF0 = 0xF4 := byte_inj (by omega) (by decide) first
      exact @byte_between 0x80 _ 0x8F (by omega) (by omega) (by decide)
    · exact isTail_byte (v / 4096)

/-- **A character that was encoded is decoded**, whatever follows it. -/
theorem decode_utf8EncodeChar (c : Char) (rest : List UInt8) :
    decode (String.utf8EncodeChar c ++ rest) = some c :: decode rest := by
  have valid : c.toNat < 0xD800 ∨ 0xDFFF < c.toNat ∧ c.toNat < 0x110000 := c.valid
  have itself {n : Nat} (h : n = c.toNat) : Char.ofNat n = c := by
    rw [h, Char.ofNat_toNat]
  -- One case for each number of bytes; the bounds of a case are what its decoder checks.
  unfold String.utf8EncodeChar
  show decode ((if c.toNat ≤ 0x7F then _ else _) ++ rest) = _
  by_cases one : c.toNat ≤ 0x7F
  · rw [if_pos one]
    show decode (UInt8.ofNat c.toNat :: rest) = _
    have number := toNat_byte (n := c.toNat) (by omega)
    have lead : UInt8.ofNat c.toNat < 0x80 := by
      rw [UInt8.lt_iff_toNat_lt, number]
      exact Nat.lt_succ_of_le one
    rw [decode_one rest lead, itself number]
  rw [if_neg one]
  show decode ((if c.toNat ≤ 0x7FF then _ else _) ++ rest) = _
  by_cases two : c.toNat ≤ 0x7FF
  · rw [if_pos two]
    show decode (UInt8.ofNat (c.toNat / 64 % 0x20 + 0xC0)
      :: UInt8.ofNat (c.toNat % 0x40 + 0x80) :: rest) = _
    have first := toNat_byte (n := c.toNat / 64 % 0x20 + 0xC0) (by omega)
    have second := toNat_byte (n := c.toNat % 0x40 + 0x80) (by omega)
    rw [decode_two rest (@byte_le_byte 0xC2 _ (by omega) (by omega))
      (@byte_le_byte _ 0xDF (by omega) (by omega)) (isTail_byte _), first]
    refine congrArg (fun c => some c :: decode rest) (itself ?_)
    show (c.toNat / 64 % 0x20 + 0xC0 - 0xC0) * 64 + ((UInt8.ofNat _).toNat - 0x80) = _
    rw [second]
    omega
  rw [if_neg two]
  show decode ((if c.toNat ≤ 0xFFFF then _ else _) ++ rest) = _
  by_cases three : c.toNat ≤ 0xFFFF
  · rw [if_pos three]
    show decode (UInt8.ofNat (c.toNat / 4096 % 0x10 + 0xE0)
      :: UInt8.ofNat (c.toNat / 64 % 0x40 + 0x80)
      :: UInt8.ofNat (c.toNat % 0x40 + 0x80) :: rest) = _
    have first := toNat_byte (n := c.toNat / 4096 % 0x10 + 0xE0) (by omega)
    have second := toNat_byte (n := c.toNat / 64 % 0x40 + 0x80) (by omega)
    have third := toNat_byte (n := c.toNat % 0x40 + 0x80) (by omega)
    rw [decode_three rest (@byte_le_byte 0xE0 _ (by omega) (by omega))
      (@byte_le_byte _ 0xEF (by omega) (by omega))
      (isSecondOfThree_byte (by omega) three (by omega)) (isTail_byte _), first]
    refine congrArg (fun c => some c :: decode rest) (itself ?_)
    show ((c.toNat / 4096 % 0x10 + 0xE0 - 0xE0) * 64 + ((UInt8.ofNat _).toNat - 0x80)) * 64
      + ((UInt8.ofNat _).toNat - 0x80) = _
    rw [second, third]
    omega
  rw [if_neg three]
  show decode (UInt8.ofNat (c.toNat / 262144 % 0x8 + 0xF0)
    :: UInt8.ofNat (c.toNat / 4096 % 0x40 + 0x80)
    :: UInt8.ofNat (c.toNat / 64 % 0x40 + 0x80)
    :: UInt8.ofNat (c.toNat % 0x40 + 0x80) :: rest) = _
  have first := toNat_byte (n := c.toNat / 262144 % 0x8 + 0xF0) (by omega)
  have second := toNat_byte (n := c.toNat / 4096 % 0x40 + 0x80) (by omega)
  have third := toNat_byte (n := c.toNat / 64 % 0x40 + 0x80) (by omega)
  have fourth := toNat_byte (n := c.toNat % 0x40 + 0x80) (by omega)
  rw [decode_four rest (@byte_le_byte 0xF0 _ (by omega) (by omega))
    (@byte_le_byte _ 0xF4 (by omega) (by omega))
    (isSecondOfFour_byte (by omega) (by omega)) (isTail_byte _) (isTail_byte _), first]
  refine congrArg (fun c => some c :: decode rest) (itself ?_)
  show (((c.toNat / 262144 % 0x8 + 0xF0 - 0xF0) * 64 + ((UInt8.ofNat _).toNat - 0x80)) * 64
    + ((UInt8.ofNat _).toNat - 0x80)) * 64 + ((UInt8.ofNat _).toNat - 0x80) = _
  rw [second, third, fourth]
  omega

/-! ## Whole texts -/

/-- **The bytes of a text are decoded as its characters**, without a fault. -/
theorem decode_encode (text : List Char) : decode (encode text) = text.map some := by
  unfold encode
  induction text with
  | nil => rfl
  | cons c text ih => rw [List.flatMap_cons, decode_utf8EncodeChar, ih, List.map_cons]

/-- **The strict reading gives a text back.** -/
theorem strict?_encode (text : List Char) : strict? (encode text) = some text := by
  unfold strict?
  rw [decode_encode]
  induction text with
  | nil => rfl
  | cons c text ih =>
    rw [List.map_cons, List.mapM_cons, ih]
    rfl

/-- **The lossy reading gives a text back.** -/
theorem lossy_encode (text : List Char) : lossy (encode text) = text := by
  unfold lossy
  rw [decode_encode, List.map_map]
  exact List.map_id text

end ServiceBroker.Text.Utf8
