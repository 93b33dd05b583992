namespace PromiseHttp
namespace Text

/-!
# Decimal numerals

A numeral is a non-empty run of ASCII digits, and reading lets one plus sign stand before it.
Reading is bounded: a value at or above the bound is refused, so that what is read always fits
the counter it is meant for.  No minus sign is accepted, not even before a zero.
-/

/-- One more than the largest 64-bit count. -/
def countBound : Nat := UInt64.size

/-- One more than the largest port number. -/
def portBound : Nat := UInt16.size

/-- The value of a non-empty run of ASCII digits. -/
def digitsValue? (chars : List Char) : Option Nat :=
  if chars.isEmpty || !chars.all Char.isDigit then none else some (Nat.ofDigitChars 10 chars 0)

/-- The value of a numeral without its optional plus sign. -/
def unsigned (chars : List Char) : List Char :=
  match chars with
  | '+' :: rest => rest
  | _ => chars

/-- The value of a numeral below the bound. -/
def readNumeral (bound : Nat) (text : String) : Option Nat :=
  match digitsValue? (unsigned text.toList) with
  | some value => if value < bound then some value else none
  | none => none

/-- The numeral of a count, without leading zeros. -/
def numeral (value : Nat) : String :=
  Nat.repr value

/-- Reading finds the value of the digits behind the sign, if it is below the bound. -/
theorem readNumeral_eq_some {bound value : Nat} {text : String} :
    readNumeral bound text = some value ↔
      digitsValue? (unsigned text.toList) = some value ∧ value < bound := by
  rw [readNumeral]
  constructor
  · intro read
    split at read
    · rename_i value found
      split at read
      · rename_i below
        cases read
        exact ⟨found, below⟩
      · cases read
    · cases read
  · rintro ⟨found, below⟩
    simp only [found, if_pos below]

end Text
end PromiseHttp
