namespace PromiseHttp

/-!
# Octets and their text

Everything on a connection is a list of octets.  Names, targets and field values are texts, and
a text enters or leaves a connection through its UTF-8 form.  `decode?` is strict: it answers
exactly the octet lists that `encode` produces.  `decodeLossy` is total: it replaces every
maximal malformed part by one replacement character, and is used only to show a body as text.
-/

/-- A list of octets, first one first. -/
abbrev Octets := List UInt8

namespace Octets

/-- The UTF-8 form of a text. -/
def encode (text : String) : Octets :=
  text.toByteArray.data.toList

/-- The text whose UTF-8 form is given, if there is one. -/
def decode? (octets : Octets) : Option String :=
  String.fromUTF8? ⟨octets.toArray⟩

@[simp]
theorem decode?_encode (text : String) : decode? (encode text) = some text := by
  simp [decode?, encode, String.fromUTF8?, text.isValidUTF8, String.fromUTF8]

@[simp]
theorem encode_append (first second : String) :
    encode (first ++ second) = encode first ++ encode second := by
  simp [encode, String.toByteArray_append]

/-- A strictly decoded text is spelled by exactly the octets it was read from. -/
theorem encode_of_decode? {octets : Octets} {text : String}
    (decoded : decode? octets = some text) : encode text = octets := by
  unfold decode? String.fromUTF8? at decoded
  split at decoded
  · injection decoded with same
    subst same
    simp [encode, String.fromUTF8]
  · simp at decoded

/-! ## Lossy reading -/

/-- The character shown in place of a malformed part. -/
def replacement : Char := '\uFFFD'

/-- Membership in a closed interval of octets. -/
def within (low high octet : UInt8) : Bool :=
  low ≤ octet && octet ≤ high

/-- The six bits that a continuation octet carries. -/
def payload (octet : UInt8) : Nat :=
  octet.toNat % 64

/-- The range of the octet that may follow a lead octet of three. -/
def secondOfThree (lead : UInt8) : UInt8 × UInt8 :=
  if lead == 0xE0 then (0xA0, 0xBF) else if lead == 0xED then (0x80, 0x9F) else (0x80, 0xBF)

/-- The range of the octet that may follow a lead octet of four. -/
def secondOfFour (lead : UInt8) : UInt8 × UInt8 :=
  if lead == 0xF0 then (0x90, 0xBF) else if lead == 0xF4 then (0x80, 0x8F) else (0x80, 0xBF)

/-- Reads the characters in front of those already collected, latest first.  A malformed part
ends before the first octet that cannot continue it, and that octet is read afresh. -/
def decodeLossyOnto (shown : List Char) : Octets → List Char
  | [] => shown
  | lead :: rest =>
    if lead < 0x80 then
      decodeLossyOnto (Char.ofNat lead.toNat :: shown) rest
    else if within 0xC2 0xDF lead then
      match rest with
      | [] => replacement :: shown
      | second :: rest₁ =>
        if within 0x80 0xBF second then
          decodeLossyOnto (Char.ofNat (lead.toNat % 32 * 64 + payload second) :: shown) rest₁
        else decodeLossyOnto (replacement :: shown) (second :: rest₁)
    else if within 0xE0 0xEF lead then
      match rest with
      | [] => replacement :: shown
      | second :: rest₁ =>
        if within (secondOfThree lead).1 (secondOfThree lead).2 second then
          match rest₁ with
          | [] => replacement :: shown
          | third :: rest₂ =>
            if within 0x80 0xBF third then
              decodeLossyOnto
                (Char.ofNat (lead.toNat % 16 * 4096 + payload second * 64 + payload third)
                  :: shown) rest₂
            else decodeLossyOnto (replacement :: shown) (third :: rest₂)
        else decodeLossyOnto (replacement :: shown) (second :: rest₁)
    else if within 0xF0 0xF4 lead then
      match rest with
      | [] => replacement :: shown
      | second :: rest₁ =>
        if within (secondOfFour lead).1 (secondOfFour lead).2 second then
          match rest₁ with
          | [] => replacement :: shown
          | third :: rest₂ =>
            if within 0x80 0xBF third then
              match rest₂ with
              | [] => replacement :: shown
              | fourth :: rest₃ =>
                if within 0x80 0xBF fourth then
                  decodeLossyOnto
                    (Char.ofNat (lead.toNat % 8 * 262144 + payload second * 4096
                      + payload third * 64 + payload fourth) :: shown) rest₃
                else decodeLossyOnto (replacement :: shown) (fourth :: rest₃)
            else decodeLossyOnto (replacement :: shown) (third :: rest₂)
        else decodeLossyOnto (replacement :: shown) (second :: rest₁)
    else decodeLossyOnto (replacement :: shown) rest

/-- The octets as text, each maximal malformed part shown as one replacement character. -/
def decodeLossy (octets : Octets) : String :=
  String.ofList (decodeLossyOnto [] octets).reverse

end Octets

end PromiseHttp
