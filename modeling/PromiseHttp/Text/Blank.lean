namespace PromiseHttp
namespace Text

/-!
# Blanks

The white space of the Unicode property of that name.  It is wider than the spaces and tabs that
separate a field's name from its value, and it excludes the zero-width characters.
-/

/-- White space in the sense of the Unicode property. -/
def isBlank (c : Char) : Bool :=
  let n := c.toNat
  (0x09 ≤ n && n ≤ 0x0D) || n == 0x20 || n == 0x85 || n == 0xA0 || n == 0x1680 ||
    (0x2000 ≤ n && n ≤ 0x200A) || n == 0x2028 || n == 0x2029 || n == 0x202F || n == 0x205F ||
    n == 0x3000

/-- A list of characters without the blanks at either end. -/
def trimChars (chars : List Char) : List Char :=
  ((chars.dropWhile isBlank).reverse.dropWhile isBlank).reverse

/-- A text without the blanks at either end. -/
def trim (text : String) : String :=
  String.ofList (trimChars text.toList)

end Text
end PromiseHttp
