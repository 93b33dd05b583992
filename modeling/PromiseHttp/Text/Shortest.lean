namespace PromiseHttp
namespace Text

/-!
# Shortest decimals of binary fractions

A double is a fraction `m * 2 ^ q`.  Its text has the fewest digits that still lie in the interval
of values rounding to it, and of two candidates with equally many digits the nearer one.  The
search compares exact fractions of natural numbers, so no rounding happens on the way.
-/

/-- A positive fraction. -/
structure Fraction where
  num : Nat
  den : Nat

namespace Fraction

/-- The fraction `m * b ^ e`. -/
def scaled (m b : Nat) : Int → Fraction
  | .ofNat e => ⟨m * Nat.pow b e, 1⟩
  | .negSucc e => ⟨m, Nat.pow b (e + 1)⟩

def le (x y : Fraction) : Bool := x.num * y.den ≤ y.num * x.den

def lt (x y : Fraction) : Bool := x.num * y.den < y.num * x.den

/-- The distance between two fractions. -/
def distance (x y : Fraction) : Fraction :=
  ⟨(x.num * y.den - y.num * x.den) + (y.num * x.den - x.num * y.den), x.den * y.den⟩

end Fraction

/-- A positive finite double: the fraction `m * 2 ^ q`, and whether the spacing below it is half
the spacing above it. -/
structure Binary where
  m : Nat
  q : Int
  narrowBelow : Bool

namespace Binary

/-- The magnitude stored in the lower sixty-three bits of a double. -/
def ofBits (bits : Nat) : Binary :=
  let fraction : Nat := bits % Nat.pow 2 52
  let exponent : Nat := bits / Nat.pow 2 52 % Nat.pow 2 11
  if exponent = 0 then ⟨fraction, -1074, false⟩
  else ⟨Nat.pow 2 52 + fraction, (exponent : Int) - 1075, fraction = 0 && 1 < exponent⟩

def value (x : Binary) : Fraction := .scaled x.m 2 x.q

/-- Whether a fraction rounds to the double; the ends of the interval do so for an even `m`. -/
def roundsHere (x : Binary) (y : Fraction) : Bool :=
  let low := if x.narrowBelow then Fraction.scaled (4 * x.m - 1) 2 (x.q - 2)
    else Fraction.scaled (2 * x.m - 1) 2 (x.q - 1)
  let high := Fraction.scaled (2 * x.m + 1) 2 (x.q - 1)
  if x.m % 2 = 0 then low.le y && y.le high else low.lt y && y.lt high

/-- The exponent of the leading decimal digit, searched downwards from a start. -/
def leading (x : Binary) : Nat → Int → Int
  | 0, e => e
  | fuel + 1, e => if (Fraction.scaled 1 10 e).le x.value then e else leading x fuel (e - 1)

/-- The better of the two decimals next to the double on the grid of `10 ^ k`, if either of them
rounds to it. -/
def onGrid? (x : Binary) (k : Int) : Option Nat :=
  let v := x.value
  let unit := Fraction.scaled 1 10 k
  let below := v.num * unit.den / (v.den * unit.num)
  let grid (c : Nat) : Fraction := .scaled c 10 k
  match x.roundsHere (grid below), x.roundsHere (grid (below + 1)) with
  | true, true =>
    let d₁ := (grid below).distance v
    let d₂ := (grid (below + 1)).distance v
    if d₁.lt d₂ then some below
    else if d₂.lt d₁ then some (below + 1)
    else if below % 2 = 0 then some below else some (below + 1)
  | true, false => some below
  | false, true => some (below + 1)
  | false, false => none

/-- The first grid, from coarse to fine, that holds a decimal of the double. -/
def search (x : Binary) : Nat → Int → Nat × Int
  | 0, k => (x.m, k)
  | fuel + 1, k =>
    match x.onGrid? k with
    | some c => (c, k)
    | none => search x fuel (k - 1)

/-- A count without its trailing zeros, and how many there were. -/
def stripZeros : Nat → Nat → Int → Nat × Int
  | 0, c, k => (c, k)
  | fuel + 1, c, k => if c % 10 = 0 && c != 0 then stripZeros fuel (c / 10) (k + 1) else (c, k)

/-- Digits and exponent of the shortest decimal. -/
def shortest (x : Binary) : Nat × Int :=
  let (c, k) := x.search 17 (x.leading 700 309)
  stripZeros 20 c k

end Binary

/-- How a decimal is laid out: positionally with at least one place behind the point when the
point falls among the first sixteen digits or at most four zeros follow it, and otherwise with an
exponent that always bears its sign. -/
def layOut (digits : Nat) (k : Int) : String :=
  let ds := Nat.toDigits 10 digits
  let n := ds.length
  let point : Int := n + k
  let zeros (count : Int) : List Char := List.replicate count.toNat '0'
  if 0 ≤ k && point ≤ 16 then String.ofList (ds ++ zeros k ++ ['.', '0'])
  else if 0 < point && point ≤ 16 then
    String.ofList (ds.take point.toNat ++ ['.'] ++ ds.drop point.toNat)
  else if -5 < point && point ≤ 0 then String.ofList (['0', '.'] ++ zeros (-point) ++ ds)
  else
    let e := point - 1
    let mantissa := if n = 1 then ds else ds.take 1 ++ ['.'] ++ ds.drop 1
    String.ofList (mantissa ++ ['e', if e < 0 then '-' else '+'] ++ Nat.toDigits 10 e.natAbs)

/-- The shortest text of a finite double. -/
def shortestDouble (x : Float) : String :=
  let bits := x.toBits.toNat
  let magnitude := bits % Nat.pow 2 63
  let sign := if bits / Nat.pow 2 63 = 1 then "-" else ""
  if magnitude = 0 then sign ++ "0.0"
  else
    let (digits, k) := (Binary.ofBits magnitude).shortest
    sign ++ layOut digits k

end Text
end PromiseHttp
