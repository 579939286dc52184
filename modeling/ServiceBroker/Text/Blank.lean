/-!
# Blank text

A body counts as blank when nothing but white space stands in it. White
space is Unicode's property `White_Space`, which is wider than the four
characters that may stand between the tokens of a JSON text and wider than
the ASCII class of `Char.isWhitespace`: the no-break space and the line
separator belong to it, the zero-width space and the byte order mark do not.
-/

namespace ServiceBroker.Text

/-- **The characters with the property `White_Space`**, twenty-five in all. -/
def isBlankChar (c : Char) : Bool :=
  (0x09 ≤ c.toNat && c.toNat ≤ 0x0D) || c.toNat == 0x20 || c.toNat == 0x85 ||
  c.toNat == 0xA0 || c.toNat == 0x1680 || (0x2000 ≤ c.toNat && c.toNat ≤ 0x200A) ||
  c.toNat == 0x2028 || c.toNat == 0x2029 || c.toNat == 0x202F || c.toNat == 0x205F ||
  c.toNat == 0x3000

/-- **A blank text** holds white space only; the empty text is blank. -/
def isBlank (text : String) : Bool := text.toList.all isBlankChar

/-- No digit is white space. -/
theorem isBlankChar_eq_false_of_isDigit {c : Char} (h : c.isDigit = true) :
    isBlankChar c = false := by
  obtain ⟨lower, upper⟩ := Char.isDigit_iff_toNat.mp h
  have lower : 0x30 ≤ c.toNat := lower
  have upper : c.toNat ≤ 0x39 := upper
  simp only [isBlankChar, Bool.or_eq_false_iff, Bool.and_eq_false_iff, decide_eq_false_iff_not,
    beq_eq_false_iff_ne]
  omega

@[simp] theorem isBlank_empty : isBlank "" = true := by decide

end ServiceBroker.Text
