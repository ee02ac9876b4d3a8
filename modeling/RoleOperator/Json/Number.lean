/-!
# Numbers of JSON values

A number is an integer that fits in 64 bits, signed or unsigned, or a binary64 value, kept as its
bits. The text of a binary64 value has the fewest digits that read back as the same value.
-/
namespace RoleOperator

inductive Json.Number where
  | int (value : Int)
  | float (bits : UInt64)
  deriving DecidableEq, Repr

namespace Binary64

/-- A finite positive value is `significand * 2 ^ exponent`. -/
structure Parts where
  significand : Nat
  exponent : Int
  deriving DecidableEq, Repr

def isNegative (bits : UInt64) : Bool := bits >>> 63 == 1

/-- Significand and exponent of the magnitude. -/
def parts (bits : UInt64) : Parts :=
  let biased := ((bits >>> 52) &&& 0x7FF).toNat
  let fraction := (bits &&& 0xFFFFFFFFFFFFF).toNat
  if biased = 0 then ⟨fraction, -1074⟩ else ⟨fraction + Nat.pow 2 52, (biased : Int) - 1075⟩

/-- `num / den` is a value twice `significand` wide of the mark; `lo` and `hi` bound the reals that
round to it, all over one denominator. -/
structure Interval where
  lo : Nat
  value : Nat
  hi : Nat
  den : Nat
  closed : Bool
  deriving Repr

/-- The reals that round to the value: half way to each neighbour, ends included for an even
significand. -/
def interval (p : Parts) : Interval :=
  let m := p.significand
  let narrow := m = Nat.pow 2 52 ∧ p.exponent ≠ -1074
  let lo := if narrow then 4 * m - 1 else 4 * m - 2
  let up := Nat.pow 2 p.exponent.toNat
  let den := Nat.pow 2 (-p.exponent).toNat * 4
  ⟨lo * up, 4 * m * up, (4 * m + 2) * up, den, m % 2 = 0⟩

def Interval.contains (i : Interval) (num den : Nat) : Bool :=
  if i.closed then i.lo * den ≤ num * i.den && num * i.den ≤ i.hi * den
  else i.lo * den < num * i.den && num * i.den < i.hi * den

/-- Decimal digits and the power of ten they are multiplied by. -/
structure Decimal where
  digits : Nat
  exponent : Int
  deriving DecidableEq, Repr

/-- The multiple of `10 ^ e` nearest to the value among its two neighbours that lie in the
interval. -/
def Interval.onGrid? (i : Interval) (e : Int) : Option Nat :=
  let up := Nat.pow 10 e.toNat
  let down := Nat.pow 10 (-e).toNat
  let q := i.value * down / (i.den * up)
  let inside := fun n => i.contains (n * up) down
  let below := i.value * down - q * (i.den * up)
  let above := (q + 1) * (i.den * up) - i.value * down
  match inside q && q ≠ 0, inside (q + 1) with
  | true, true => some (if below < above || (below = above && q % 2 = 0) then q else q + 1)
  | true, false => some q
  | false, true => some (q + 1)
  | false, false => none

/-- From the coarse grid `10 ^ e` to finer ones, the first that meets the interval. -/
def Interval.coarsest (i : Interval) : Nat → Int → Decimal
  | 0, e => ⟨0, e⟩
  | fuel + 1, e =>
    match i.onGrid? e with
    | some n => ⟨n, e⟩
    | none => i.coarsest fuel (e - 1)

/-- The shortest decimal that rounds to the magnitude; zero has no digits. -/
def shortest (bits : UInt64) : Decimal :=
  let p := parts bits
  if p.significand = 0 then ⟨0, 0⟩
  else
    let i := interval p
    let size := (Nat.toDigits 10 (i.value / i.den)).length
    i.coarsest 1100 size

end Binary64

/-- Digits with a point among, before or behind them; a whole number has none. -/
def Binary64.Decimal.positional (d : Binary64.Decimal) : List Char :=
  let ds := Nat.toDigits 10 d.digits
  let point : Int := ds.length + d.exponent
  if 0 ≤ d.exponent then ds ++ List.replicate d.exponent.toNat '0'
  else if 0 < point then ds.take point.toNat ++ ['.'] ++ ds.drop point.toNat
  else ['0', '.'] ++ List.replicate (-point).toNat '0' ++ ds

/-- One digit before the point, the others behind it, and the power of ten with its sign. -/
def Binary64.Decimal.scientific (d : Binary64.Decimal) : List Char :=
  let ds := Nat.toDigits 10 d.digits
  let rest := ds.drop 1
  let power : Int := ds.length + d.exponent - 1
  ds.take 1 ++ (if rest.isEmpty then [] else '.' :: rest)
    ++ ['e', if power < 0 then '-' else '+'] ++ Nat.toDigits 10 power.natAbs

/-- Positional up to sixteen digits before the point and five places after it, else with an
exponent; a whole number keeps one place. -/
def Json.Number.floatText (bits : UInt64) : String :=
  let sign := if Binary64.isNegative bits then "-" else ""
  let d := Binary64.shortest bits
  let point : Int := (Nat.toDigits 10 d.digits).length + d.exponent
  let body :=
    if d.digits = 0 then ['0', '.', '0']
    else if point ≤ -5 ∨ 16 < point then d.scientific
    else if 0 ≤ d.exponent then d.positional ++ ['.', '0']
    else d.positional
  sign ++ String.ofList body

def Json.Number.text : Json.Number → String
  | .int n => toString n
  | .float bits => Json.Number.floatText bits

end RoleOperator
