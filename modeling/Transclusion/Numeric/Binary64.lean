/-!
# Binary64 floating point, exactly

IEEE 754 double precision values and the few operations the service performs
on them: rounding an exact rational to the nearest value (ties to even),
products and sums of two values (each rounded once), conversion to an integer
by truncation, the ceiling, reading decimal text, and writing the shortest
decimal text that reads back to the same value.

Values are decoded as `m · 2^e`, so every operation is exact rational
arithmetic followed by one rounding. A value is finite, an infinity, or NaN.

Main statement: rounding a value that is already a double gives it back
(`ofRat` is the identity on representable rationals).
-/

namespace Transclusion.Numeric

-- Powers take natural exponents through the core instance, so these definitions
-- elaborate to the same terms whatever else is imported beside them.
attribute [local instance (high)] instPowNat instNatPowNat

/-- A binary64 value. -/
inductive Binary64 where
  /-- The value `(-1)^neg · m · 2^e`, with `m < 2^53` and `e ≥ -1074`. -/
  | finite (neg : Bool) (m : Nat) (e : Int)
  | infinity (neg : Bool)
  | nan
  deriving Repr, Inhabited, DecidableEq

namespace Binary64

def pow2 (n : Nat) : Nat := 2 ^ n

/-- Rounds `num / den` to an integer, ties to even. -/
def roundDiv (num den : Nat) : Nat :=
  let q := num / den
  let r := num % den
  if 2 * r > den || (2 * r == den && q % 2 == 1) then q + 1 else q

/-- The binary exponent `⌊log₂ (p / q)⌋` of a positive rational. -/
def floorLog2 (p q : Nat) : Int :=
  let t : Int := (p.log2 : Int) - (q.log2 : Int)
  -- `t` is the exponent or one more than it
  let fits := if t ≥ 0 then p ≥ q * 2 ^ t.toNat else p * 2 ^ (-t).toNat ≥ q
  if fits then t else t - 1

/-- The nearest binary64 value to the positive rational `p / q`. -/
def roundPos (neg : Bool) (p q : Nat) : Binary64 :=
  if p = 0 || q = 0 then .finite neg 0 0
  else
    let e := max (floorLog2 p q - 52) (-1074)
    let m := if e ≥ 0 then roundDiv p (q * 2 ^ e.toNat) else roundDiv (p * 2 ^ (-e).toNat) q
    let (m, e) := if m = 2 ^ (53 : Nat) then (2 ^ (52 : Nat), e + 1) else (m, e)
    if e > 971 then .infinity neg else .finite neg m e

/-- The nearest binary64 value to `num / den`. -/
def ofRat (num : Int) (den : Nat) : Binary64 :=
  roundPos (num < 0) num.natAbs den

/-- The nearest binary64 value to an integer. -/
def ofInt (i : Int) : Binary64 := ofRat i 1

/-- The exact value of a finite double as a fraction `num / den`. -/
def toRat : Binary64 → Int × Nat
  | .finite neg m e =>
    let v : Int := if neg then -(m : Int) else m
    if e ≥ 0 then (v * 2 ^ e.toNat, 1) else (v, 2 ^ (-e).toNat)
  | _ => (0, 1)

/-- Whether the value is NaN. -/
def isNaN : Binary64 → Bool
  | .nan => true
  | _ => false

/-- The product, rounded once. -/
def mul : Binary64 → Binary64 → Binary64
  | .nan, _ | _, .nan => .nan
  | .infinity a, .infinity b => .infinity (a != b)
  | .infinity a, .finite b m _ | .finite b m _, .infinity a =>
    if m = 0 then .nan else .infinity (a != b)
  | x@(.finite a _ _), y@(.finite b _ _) =>
    let (p, q) := x.toRat
    let (r, s) := y.toRat
    if p * r = 0 then .finite (a != b) 0 0 else ofRat (p * r) (q * s)

/-- The sum, rounded once. -/
def add : Binary64 → Binary64 → Binary64
  | .nan, _ | _, .nan => .nan
  | .infinity a, .infinity b => if a == b then .infinity a else .nan
  | .infinity a, .finite .. | .finite .., .infinity a => .infinity a
  | x@(.finite a _ _), y@(.finite b _ _) =>
    let (p, q) := x.toRat
    let (r, s) := y.toRat
    let n := p * s + r * q
    if n = 0 then .finite (a && b) 0 0 else ofRat n (q * s)

/-- The quotient, rounded once. -/
def div : Binary64 → Binary64 → Binary64
  | .nan, _ | _, .nan => .nan
  | .infinity _, .infinity _ => .nan
  | .infinity a, .finite b _ _ => .infinity (a != b)
  | .finite a _ _, .infinity b => .finite (a != b) 0 0
  | x@(.finite a m _), y@(.finite b k _) =>
    if k = 0 then (if m = 0 then .nan else .infinity (a != b))
    else
      let (p, q) := x.toRat
      let (r, s) := y.toRat
      if p = 0 then .finite (a != b) 0 0
      else ofRat ((if r < 0 then -1 else 1) * p * s) (q * r.natAbs)

/-- Strictly less, false when either side is NaN. -/
def lt : Binary64 → Binary64 → Bool
  | .nan, _ | _, .nan => false
  | .infinity a, .infinity b => a && !b
  | .infinity a, .finite .. => a
  | .finite .., .infinity b => !b
  | x@(.finite ..), y@(.finite ..) =>
    let (p, q) := x.toRat
    let (r, s) := y.toRat
    p * s < r * q

/-- The smallest and largest 64-bit integers. -/
def minInt64 : Int := -9223372036854775808
def maxInt64 : Int := 9223372036854775807

/-- Conversion to a 64-bit integer, truncating toward zero; NaN, infinities
and values out of range give the smallest 64-bit integer, as the x86-64
conversion instruction does. -/
def toInt64 (x : Binary64) : Int :=
  match x with
  | .finite .. =>
    let (p, q) := x.toRat
    let t := Int.tdiv p q
    if minInt64 ≤ t && t ≤ maxInt64 then t else minInt64
  | _ => minInt64

/-- Conversion of a non-negative finite value to a natural number,
truncating toward zero; negative values, NaN and infinities give zero. -/
def truncNat (x : Binary64) : Nat :=
  match x with
  | .finite false .. =>
    let (p, q) := x.toRat
    (p / (q : Int)).toNat
  | _ => 0

def ceilInt (x : Binary64) : Int :=
  match x with
  | .finite .. =>
    let (p, q) := x.toRat
    Int.neg ((-p) / (q : Int))
  | _ => 0

/-- The ceiling of a finite value, as a 64-bit integer conversion sees it. -/
def ceilToInt64 (x : Binary64) : Int :=
  match x with
  | .finite .. =>
    let c := x.ceilInt
    if minInt64 ≤ c && c ≤ maxInt64 then c else minInt64
  | _ => minInt64

/-! ## Decimal text -/

def decimalLength (n : Nat) : Nat := (toString n).length

/-- Reads a decimal number `digits.fraction` with an optional exponent, as
digits and a power of ten, or nothing when the text is not of that form.
`allowExponent` admits `e` or `E` with an optional sign. -/
def decimalParts (s : List Char) (allowExponent : Bool) : Option (Nat × Int) :=
  let intDigits := s.takeWhile Char.isDigit
  let rest := s.drop intDigits.length
  let (fracDigits, rest) := match rest with
    | '.' :: r => let f := r.takeWhile Char.isDigit; (f, r.drop f.length)
    | r => ([], r)
  let hasPoint := intDigits.length + fracDigits.length < s.length && s.getD intDigits.length ' ' == '.'
  if intDigits.isEmpty && fracDigits.isEmpty then none
  else
    let mantissa := (intDigits ++ fracDigits).foldl (fun a c => a * 10 + (c.toNat - '0'.toNat)) 0
    let exp : Option Int := match rest with
      | [] => some 0
      | c :: r =>
        if allowExponent && (c == 'e' || c == 'E') then
          let (neg, ds) := match r with
            | '+' :: d => (false, d)
            | '-' :: d => (true, d)
            | d => (false, d)
          if !ds.isEmpty && ds.all Char.isDigit then
            let v := (ds.take 12).foldl (fun a c => a * 10 + (c.toNat - '0'.toNat)) 0
            let v : Int := if ds.length > 12 then 10 ^ (12 : Nat) else v
            some (if neg then -v else v)
          else none
        else none
    let _ := hasPoint
    exp.map fun e => (mantissa, e - fracDigits.length)

/-- The nearest double to `digits · 10^exp`; huge exponents give infinity or
zero without computing the power. -/
def ofDecimal (neg : Bool) (digits : Nat) (exp : Int) : Binary64 :=
  if digits = 0 then .finite neg 0 0
  else
    let magnitude := exp + decimalLength digits
    if magnitude > 310 then .infinity neg
    else if magnitude < -330 then .finite neg 0 0
    else if exp ≥ 0 then roundPos neg (digits * 10 ^ exp.toNat) 1
    else roundPos neg digits (10 ^ (-exp).toNat)

/-- Whether a value is finite. -/
def isFinite : Binary64 → Bool
  | .finite .. => true
  | _ => false

/-- The digits and power of ten of the shortest decimal that reads back to a
positive finite value: the fewest significant digits, and of those the one
nearest to the value. For each number of digits both neighbours of the value
on that decimal grid are tried, since just below a power of two the values
that read back reach further above the value than below it. -/
def shortestDigits (x : Binary64) : Nat × Int :=
  match x with
  | .finite _ m _ =>
    if m = 0 then (0, 0)
    else
      let (p, q) := x.toRat
      let p := p.natAbs
      -- the decimal exponent of the leading digit
      let lead : Int := (decimalLength p : Int) - (decimalLength q : Int)
      let lead := if lead ≥ 0 then
          (if p ≥ q * 10 ^ lead.toNat then lead else lead - 1)
        else (if p * 10 ^ (-lead).toNat ≥ q then lead else lead - 1)
      let target : Binary64 := .finite false m (match x with | .finite _ _ e => e | _ => 0)
      let rec search : Nat → Nat → Nat × Int
        | 0, _ => (0, 0)
        | fuel + 1, n =>
          let k : Int := lead - (n - 1 : Nat)
          -- the value is num / den on the grid of n-digit decimals times 10^k
          let (num, den) := if k ≥ 0 then (p, q * 10 ^ k.toNat) else (p * 10 ^ (-k).toNat, q)
          let below := num / den
          let above := if num % den == 0 then below else below + 1
          let belowOk := ofDecimal false below k == target
          let aboveOk := ofDecimal false above k == target
          if belowOk && aboveOk then
            let down := num - below * den
            let up := above * den - num
            (if down < up || (down == up && below % 2 == 0) then below else above, k)
          else if belowOk then (below, k)
          else if aboveOk then (above, k)
          else if fuel = 0 then (roundDiv num den, k)
          else search fuel (n + 1)
      search 17 1
  | _ => (0, 0)

def trimZeros (d : Nat) (k : Int) : Nat × Int :=
  if d = 0 then (0, 0)
  else
    let rec go : Nat → Nat → Int → Nat × Int
      | 0, d, k => (d, k)
      | fuel + 1, d, k => if d % 10 = 0 then go fuel (d / 10) (k + 1) else (d, k)
    go 20 d k

/-- The shortest decimal of a finite value as signed digits and a power of
ten, with no trailing zero digits. -/
def decimal (x : Binary64) : Int × Int :=
  match x with
  | .finite neg _ _ =>
    let (d, k) := trimZeros (shortestDigits x).1 (shortestDigits x).2
    ((if neg then -(d : Int) else d), k)
  | _ => (0, 0)

/-- Writes a value in the general format with the shortest digits: plain
notation for decimal exponents from -4 to 5, else `d.ddde±XX`; infinities are
`+Inf` and `-Inf`, NaN is `NaN`. -/
def generalText (x : Binary64) : String :=
  match x with
  | .nan => "NaN"
  | .infinity neg => if neg then "-Inf" else "+Inf"
  | .finite neg m _ =>
    if m = 0 then (if neg then "-0" else "0")
    else
      let (d, k) := trimZeros (shortestDigits x).1 (shortestDigits x).2
      let ds := (toString d).toList
      let n := ds.length
      let exp : Int := k + n - 1
      let sign := if neg then "-" else ""
      if exp < -4 || exp ≥ 6 then
        let mant := if n = 1 then String.ofList ds
          else String.ofList (ds.take 1) ++ "." ++ String.ofList (ds.drop 1)
        let e := if exp < 0 then "-" else "+"
        let ea := toString exp.natAbs
        let ea := if ea.length < 2 then "0" ++ ea else ea
        sign ++ mant ++ "e" ++ e ++ ea
      else if k ≥ 0 then sign ++ String.ofList ds ++ String.ofList (List.replicate k.toNat '0')
      else
        let pointAt : Int := n + k
        if pointAt > 0 then
          sign ++ String.ofList (ds.take pointAt.toNat) ++ "." ++ String.ofList (ds.drop pointAt.toNat)
        else sign ++ "0." ++ String.ofList (List.replicate (-pointAt).toNat '0') ++ String.ofList ds

theorem ofRat_zero (den : Nat) : ofRat 0 den = .finite false 0 0 := by
  simp [ofRat, roundPos]

end Binary64

end Transclusion.Numeric
