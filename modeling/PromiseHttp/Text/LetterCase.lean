namespace PromiseHttp
namespace Text

/-!
# Letter case

Field names, connection options and file extensions are compared without regard to the case of
the ASCII letters.  No other character is folded.
-/

/-- The characters of a text, ASCII letters in lower case. -/
def fold (text : String) : List Char :=
  text.toList.map Char.toLower

/-- Equality up to the case of the ASCII letters. -/
def sameLetters (first second : String) : Bool :=
  fold first == fold second

theorem sameLetters_iff {first second : String} :
    sameLetters first second = true ↔ fold first = fold second := by
  simp [sameLetters]

@[simp]
theorem sameLetters_refl (text : String) : sameLetters text text = true := by
  simp [sameLetters]

/-- The text in lower case, ASCII letters only. -/
def lower (text : String) : String :=
  String.ofList (fold text)

/-- Whether one list of characters occurs inside another without a gap. -/
def occursIn (part : List Char) : List Char → Bool
  | [] => part.isEmpty
  | c :: rest => part.isPrefixOf (c :: rest) || occursIn part rest

theorem occursIn_iff {part whole : List Char} : occursIn part whole = true ↔ part <:+: whole := by
  induction whole with
  | nil => rw [occursIn, List.isEmpty_iff, List.infix_nil]
  | cons c rest inductionHypothesis =>
      rw [occursIn, Bool.or_eq_true, List.isPrefixOf_iff_prefix, inductionHypothesis,
        List.infix_cons_iff]

end Text
end PromiseHttp
