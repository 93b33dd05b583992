import PromiseHttp.Proofs.Text.Numerals

namespace PromiseHttp
namespace Text

/-!
# Which texts are counts

A text is read as a count if it is a run of digits, with one plus sign before it at most and with
nothing but blanks around it.  `Denotes` says this without reading, and a text denotes at most one
count.  Reading trimmed text finds the count that is denoted, if it is below the bound, and nothing
otherwise.
-/

/-- The text is a run of digits, perhaps with a plus sign before it and blanks around it, and the
digits have this value. -/
def Denotes (text : String) (count : Nat) : Prop :=
  ∃ before sign digits behind : List Char,
    text.toList = before ++ (sign ++ digits) ++ behind ∧
    (∀ c ∈ before, isBlank c = true) ∧ (∀ c ∈ behind, isBlank c = true) ∧
    (sign = [] ∨ sign = ['+']) ∧
    digits ≠ [] ∧ (∀ c ∈ digits, c.isDigit = true) ∧ Nat.ofDigitChars 10 digits 0 = count

/-! ## Trimming -/

/-- Trimming takes off blanks only. -/
theorem exists_blanks_trimChars (chars : List Char) :
    ∃ before behind, chars = before ++ trimChars chars ++ behind ∧
      (∀ c ∈ before, isBlank c = true) ∧ ∀ c ∈ behind, isBlank c = true := by
  have blanks : ∀ chars : List Char, ∀ c ∈ chars.takeWhile isBlank, isBlank c = true :=
    fun chars => List.all_eq_true.mp List.all_takeWhile
  refine ⟨chars.takeWhile isBlank, ((chars.dropWhile isBlank).reverse.takeWhile isBlank).reverse,
    ?_, blanks chars, ?_⟩
  · rw [trimChars, List.append_assoc, ← List.reverse_append, List.takeWhile_append_dropWhile,
      List.reverse_reverse, List.takeWhile_append_dropWhile]
  · intro c member
    exact blanks _ c (List.mem_reverse.mp member)

/-- Blanks are dropped up to the first character that is none. -/
theorem dropWhile_blanks {before chars : List Char} (blank : ∀ c ∈ before, isBlank c = true)
    (solid : ∀ c ∈ chars.head?, isBlank c = false) :
    (before ++ chars).dropWhile isBlank = chars := by
  rw [List.dropWhile_append_of_pos blank]
  cases chars with
  | nil => rfl
  | cons c rest =>
      rw [List.dropWhile_cons_of_neg]
      rw [solid c rfl]
      exact Bool.false_ne_true

/-- What stands between blanks, and does not begin or end with one, is what trimming leaves. -/
theorem trimChars_blanks {before chars behind : List Char}
    (blankBefore : ∀ c ∈ before, isBlank c = true) (blankBehind : ∀ c ∈ behind, isBlank c = true)
    (nonempty : chars ≠ []) (first : ∀ c ∈ chars.head?, isBlank c = false)
    (last : ∀ c ∈ chars.getLast?, isBlank c = false) :
    trimChars (before ++ chars ++ behind) = chars := by
  have front : (before ++ (chars ++ behind)).dropWhile isBlank = chars ++ behind := by
    apply dropWhile_blanks blankBefore
    cases chars with
    | nil => exact absurd rfl nonempty
    | cons c rest => exact first
  have back : (behind.reverse ++ chars.reverse).dropWhile isBlank = chars.reverse := by
    apply dropWhile_blanks
    · exact fun c member => blankBehind c (List.mem_reverse.mp member)
    · rw [List.head?_reverse]
      exact last
  rw [trimChars, List.append_assoc, front, List.reverse_append, back, List.reverse_reverse]

/-! ## Reading -/

theorem digitsValue?_eq_some {chars : List Char} {value : Nat} :
    digitsValue? chars = some value ↔
      chars ≠ [] ∧ (∀ c ∈ chars, c.isDigit = true) ∧ Nat.ofDigitChars 10 chars 0 = value := by
  unfold digitsValue?
  constructor
  · intro read
    split at read
    · cases read
    · rename_i plain
      simp only [Bool.or_eq_true, Bool.not_eq_true', not_or, List.isEmpty_iff,
        Bool.not_eq_false] at plain
      exact ⟨plain.1, List.all_eq_true.mp plain.2, Option.some.inj read⟩
  · rintro ⟨nonempty, digits, value⟩
    have all : chars.all Char.isDigit = true := List.all_eq_true.mpr digits
    have full : chars.isEmpty = false := by
      rw [← Bool.not_eq_true, List.isEmpty_iff]
      exact nonempty
    simp only [all, full, Bool.not_true, Bool.or_false, Bool.false_eq_true, if_false, value]

/-- Taking the sign off leaves what may have stood behind a sign. -/
theorem exists_sign_unsigned (chars : List Char) :
    ∃ sign, chars = sign ++ unsigned chars ∧ (sign = [] ∨ sign = ['+']) := by
  unfold unsigned
  split
  · exact ⟨['+'], rfl, Or.inr rfl⟩
  · exact ⟨[], rfl, Or.inl rfl⟩

theorem unsigned_signed {sign digits : List Char} (signed : sign = [] ∨ sign = ['+'])
    (plain : ∀ c ∈ digits, c.isDigit = true) : unsigned (sign ++ digits) = digits := by
  rcases signed with rfl | rfl
  · rw [List.nil_append]
    unfold unsigned
    split
    · have digit := plain '+' List.mem_cons_self
      cases digit
    · rfl
  · rfl

/-- A text denotes the value that is read from it without its blanks and its sign. -/
theorem denotes_iff {text : String} {count : Nat} :
    Denotes text count ↔ digitsValue? (unsigned (trim text).toList) = some count := by
  rw [trim, String.toList_ofList, digitsValue?_eq_some]
  constructor
  · rintro ⟨before, sign, digits, behind, whole, blankBefore, blankBehind, signed, nonempty, plain,
      value⟩
    have solid : ∀ c ∈ sign ++ digits, isBlank c = false := by
      intro c member
      rcases List.mem_append.mp member with among | among
      · rcases signed with rfl | rfl
        · cases among
        · rw [List.mem_singleton.mp among]
          decide
      · exact isBlank_of_isDigit (plain c among)
    have trimmed : trimChars text.toList = sign ++ digits := by
      rw [whole]
      apply trimChars_blanks blankBefore blankBehind
      · exact List.append_ne_nil_of_right_ne_nil sign nonempty
      · exact fun c member => solid c (List.mem_of_mem_head? member)
      · exact fun c member => solid c (List.mem_of_mem_getLast? member)
    rw [trimmed, unsigned_signed signed plain]
    exact ⟨nonempty, plain, value⟩
  · rintro ⟨nonempty, plain, value⟩
    rcases exists_blanks_trimChars text.toList with ⟨before, behind, whole, blankBefore, blankBehind⟩
    rcases exists_sign_unsigned (trimChars text.toList) with ⟨sign, parts, signed⟩
    refine ⟨before, sign, _, behind, ?_, blankBefore, blankBehind, signed, nonempty, plain, value⟩
    rw [← parts]
    exact whole

/-- A text denotes at most one count. -/
theorem Denotes.unique {text : String} {count other : Nat} (denotes : Denotes text count)
    (denotes' : Denotes text other) : count = other :=
  Option.some.inj ((denotes_iff.mp denotes).symm.trans (denotes_iff.mp denotes'))

/-- Reading trimmed text finds the count that it denotes, if it is below the bound. -/
theorem readNumeral_trim_eq_some {bound count : Nat} {text : String} :
    readNumeral bound (trim text) = some count ↔ Denotes text count ∧ count < bound := by
  rw [denotes_iff, readNumeral_eq_some]

end Text
end PromiseHttp
