import PromiseHttp.Http.Head
import PromiseHttp.Http.Headers

namespace PromiseHttp

/-!
# Numerals are read back

The numeral of a count consists of digits, so nothing is trimmed from it and no sign is taken from
it, and its value is the count.  On a connection its digits are octets of the same numbers.  The
numeral of a status code has three digits, as many as a status line has room for.
-/

namespace Octets

/-- A text enters a connection character by character. -/
theorem encode_ofList (chars : List Char) :
    encode (String.ofList chars) = chars.flatMap String.utf8EncodeChar := by
  simp [encode, List.utf8Encode]

theorem encode_toList (text : String) :
    encode text = text.toList.flatMap String.utf8EncodeChar := by
  rw [← encode_ofList, String.ofList_toList]

end Octets

namespace Text

theorem toList_numeral (value : Nat) : (numeral value).toList = Nat.toDigits 10 value :=
  Nat.toList_repr

theorem isDigit_of_mem_numeral {value : Nat} {c : Char} (member : c ∈ (numeral value).toList) :
    c.isDigit = true := by
  rw [toList_numeral] at member
  exact Nat.isDigit_of_mem_toDigits (by omega) (by omega) member

theorem isDigit_iff {c : Char} : c.isDigit = true ↔ 48 ≤ c.toNat ∧ c.toNat ≤ 57 := by
  simp only [Char.isDigit, Bool.and_eq_true, decide_eq_true_eq, ge_iff_le, UInt32.le_iff_toNat_le]
  exact Iff.rfl

theorem isBlank_of_isDigit {c : Char} (digit : c.isDigit = true) : isBlank c = false := by
  rcases isDigit_iff.mp digit with ⟨least, most⟩
  simp only [isBlank, Bool.or_eq_false_iff, Bool.and_eq_false_iff, decide_eq_false_iff_not,
    beq_eq_false_iff_ne]
  omega

/-- Characters that are not blank are not trimmed. -/
theorem trimChars_of_solid {chars : List Char} (solid : ∀ c ∈ chars, isBlank c = false) :
    trimChars chars = chars := by
  have kept : ∀ chars : List Char, (∀ c ∈ chars, isBlank c = false) →
      chars.dropWhile isBlank = chars := by
    intro chars solid
    cases chars with
    | nil => rfl
    | cons c rest =>
        rw [List.dropWhile_cons_of_neg]
        rw [solid c List.mem_cons_self]
        exact Bool.false_ne_true
  unfold trimChars
  rw [kept chars solid, kept chars.reverse, List.reverse_reverse]
  intro c member
  exact solid c (List.mem_reverse.mp member)

@[simp]
theorem trim_numeral (value : Nat) : trim (numeral value) = numeral value := by
  unfold trim
  rw [trimChars_of_solid, String.ofList_toList]
  intro c member
  exact isBlank_of_isDigit (isDigit_of_mem_numeral member)

/-- No sign stands in front of a numeral. -/
theorem unsigned_numeral (value : Nat) :
    unsigned (numeral value).toList = (numeral value).toList := by
  unfold unsigned
  split
  · rename_i rest signed
    have digit := isDigit_of_mem_numeral (signed ▸ List.mem_cons_self : '+' ∈ (numeral value).toList)
    exact absurd digit (by decide)
  · rfl

/-- A numeral is read as the count that it was made of, or not at all. -/
theorem readNumeral_numeral_eq (bound value : Nat) :
    readNumeral bound (numeral value) = if value < bound then some value else none := by
  have digits : digitsValue? (numeral value).toList = some value := by
    unfold digitsValue?
    have some_digit : (numeral value).toList ≠ [] := by
      rw [toList_numeral]
      exact Nat.toDigits_ne_nil
    have all_digits : (numeral value).toList.all Char.isDigit = true :=
      List.all_eq_true.mpr fun c member => isDigit_of_mem_numeral member
    rw [if_neg, toList_numeral, Nat.ofDigitChars_ten_toDigits]
    simp only [all_digits, Bool.not_true, Bool.or_false, List.isEmpty_iff]
    exact some_digit
  unfold readNumeral
  rw [unsigned_numeral, digits]

/-- A numeral is read as the count that it was made of, if the count is below the bound. -/
theorem readNumeral_numeral {bound value : Nat} (below : value < bound) :
    readNumeral bound (numeral value) = some value := by
  rw [readNumeral_numeral_eq, if_pos below]

/-! ## Digits as octets -/

/-- The octet of a digit. -/
def digitOctet (digit : Nat) : UInt8 := UInt8.ofNat (48 + digit)

theorem encode_digit {c : Char} (digit : c.isDigit = true) :
    String.utf8EncodeChar c = [UInt8.ofNat c.toNat] := by
  rcases isDigit_iff.mp digit with ⟨_, most⟩
  unfold String.utf8EncodeChar
  rw [if_pos]
  · rfl
  · exact Nat.le_trans most (by omega)

theorem encode_digitChar {digit : Nat} (below : digit < 10) :
    String.utf8EncodeChar digit.digitChar = [digitOctet digit] := by
  rw [encode_digit, Nat.toNat_digitChar_of_lt_ten below]
  · rfl
  · rw [Nat.isDigit_digitChar, decide_eq_true below]

/-- Every octet of a numeral is a digit. -/
theorem octets_numeral {value : Nat} {octet : UInt8}
    (member : octet ∈ Octets.encode (numeral value)) : Head.isDigitOctet octet = true := by
  rw [Octets.encode_toList, List.mem_flatMap] at member
  rcases member with ⟨c, among, member⟩
  have digit := isDigit_of_mem_numeral among
  rcases isDigit_iff.mp digit with ⟨least, most⟩
  rw [encode_digit digit, List.mem_singleton] at member
  subst member
  have value : (UInt8.ofNat c.toNat).toNat = c.toNat := by
    rw [UInt8.toNat_ofNat']
    omega
  simp only [Head.isDigitOctet, Bool.and_eq_true, decide_eq_true_eq, UInt8.le_iff_toNat_le, value]
  exact ⟨least, most⟩

/-- A status code is written with three digits. -/
theorem encode_code {code : Nat} (least : 100 ≤ code) (most : code ≤ 999) :
    Octets.encode (numeral code) =
      [digitOctet (code / 100), digitOctet (code / 10 % 10), digitOctet (code % 10)] := by
  have hundreds : Nat.toDigits 10 (code / 10 / 10) = [(code / 10 / 10).digitChar] :=
    Nat.toDigits_of_lt_base (by omega)
  have digits : Nat.toDigits 10 code =
      [(code / 10 / 10).digitChar, (code / 10 % 10).digitChar, (code % 10).digitChar] := by
    rw [Nat.toDigits_of_base_le (by omega) (by omega : 10 ≤ code),
      Nat.toDigits_of_base_le (by omega) (by omega : 10 ≤ code / 10), hundreds]
    rfl
  rw [Octets.encode_toList, toList_numeral, digits]
  rw [show code / 10 / 10 = code / 100 by omega]
  simp only [List.flatMap_cons, List.flatMap_nil, List.append_nil, List.cons_append,
    List.nil_append, encode_digitChar (by omega : code / 100 < 10),
    encode_digitChar (by omega : code / 10 % 10 < 10), encode_digitChar (by omega : code % 10 < 10)]

end Text
end PromiseHttp
