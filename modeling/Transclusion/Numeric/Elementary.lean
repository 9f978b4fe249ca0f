import Transclusion.Numeric.Binary64

/-!
# Elementary functions on doubles

The natural logarithm as the classic argument-reduction algorithm computes
it (reduce to a mantissa near one and a power of two, evaluate a minimax
polynomial in `s = f / (2 + f)`, recombine with a split `ln 2`), with every
operation rounded as the hardware rounds it, so results agree to the last
bit. Also the floor, the mantissa-exponent split, values from their bit
patterns, and fixed-precision decimal text with correct rounding.
-/

namespace Transclusion.Numeric.Binary64

-- Powers take natural exponents through the core instance, so these definitions
-- elaborate to the same terms whatever else is imported beside them.
attribute [local instance (high)] instPowNat instNatPowNat

/-- The double with the given IEEE 754 bit pattern. -/
def ofBits (bits : Nat) : Binary64 :=
  let neg := bits / 2 ^ (63 : Nat) % 2 == 1
  let expField : Nat := bits / 2 ^ (52 : Nat) % 2048
  let frac : Nat := bits % 2 ^ (52 : Nat)
  if expField == 2047 then (if frac == 0 then .infinity neg else .nan)
  else if expField == 0 then .finite neg frac (-1074)
  else .finite neg (frac + 2 ^ (52 : Nat)) ((expField : Int) - 1075)

/-- Splits a finite nonzero value into a mantissa in [1/2, 1) and a power of
two. -/
def frexp (x : Binary64) : Binary64 × Int :=
  match x with
  | .finite neg m e =>
    if m = 0 then (x, 0)
    else
      let len := m.log2 + 1
      (.finite neg m (-(len : Int)), e + len)
  | _ => (x, 0)

/-- The largest integer not above a value, as a double. -/
def floor (x : Binary64) : Binary64 :=
  match x with
  | .finite neg m _ =>
    if m = 0 then x
    else
      let (p, q) := x.toRat
      let f := p / (q : Int)
      if f = 0 then .finite neg 0 0 else ofInt f
  | _ => x

def halfSqrt2 : Binary64 := ofBits 0x3FE6A09E667F3BCD

/-- The constants of the logarithm: `ln 2` split into a high part with
trailing zero bits and a low part, and the polynomial coefficients. -/
def ln2Hi : Binary64 := ofBits 0x3FE62E42FEE00000
def ln2Lo : Binary64 := ofBits 0x3DEA39EF35793C76
def lg1 : Binary64 := ofBits 0x3FE5555555555593
def lg2 : Binary64 := ofBits 0x3FD999999997FA04
def lg3 : Binary64 := ofBits 0x3FD2492494229359
def lg4 : Binary64 := ofBits 0x3FCC71C51D8E78AF
def lg5 : Binary64 := ofBits 0x3FC7466496CB03DE
def lg6 : Binary64 := ofBits 0x3FC39A09D078C69F
def lg7 : Binary64 := ofBits 0x3FC2F112DF3E5244

/-- Subtraction, rounded once. -/
def sub (x y : Binary64) : Binary64 :=
  x.add (match y with
    | .finite neg m e => .finite (!neg) m e
    | .infinity neg => .infinity (!neg)
    | .nan => .nan)

def log (x : Binary64) : Binary64 :=
  match x with
  | .nan => .nan
  | .infinity false => x
  | .infinity true => .nan
  | .finite neg m _ =>
    if m = 0 then .infinity true
    else if neg then .nan
    else
      let (f1, ki) := frexp x
      let (f1, ki) := if f1.lt halfSqrt2 then (f1.mul (ofInt 2), ki - 1) else (f1, ki)
      let f := sub f1 (ofInt 1)
      let k := ofInt ki
      let s := f.div ((ofInt 2).add f)
      let s2 := s.mul s
      let s4 := s2.mul s2
      let t1 := s2.mul (lg1.add (s4.mul (lg3.add (s4.mul (lg5.add (s4.mul lg7))))))
      let t2 := s4.mul (lg2.add (s4.mul (lg4.add (s4.mul lg6))))
      let r := t1.add t2
      let hfsq := ((ofRat 1 2).mul f).mul f
      sub (k.mul ln2Hi) (sub (sub hfsq ((s.mul (hfsq.add r)).add (k.mul ln2Lo))) f)

/-- Fixed-point text with `prec` digits after the point, rounding the exact
value half to even. -/
def fixedText (x : Binary64) (prec : Nat) : String :=
  match x with
  | .nan => "NaN"
  | .infinity neg => if neg then "-Inf" else "+Inf"
  | .finite neg _ _ =>
    let (p, q) := x.toRat
    let n := roundDiv (p.natAbs * 10 ^ prec) q
    let ds := (toString n).toList
    let ds := List.replicate (prec + 1 - ds.length) '0' ++ ds
    let whole := ds.take (ds.length - prec)
    let frac := ds.drop (ds.length - prec)
    let body := if prec = 0 then String.ofList whole else String.ofList whole ++ "." ++ String.ofList frac
    if neg then "-" ++ body else body

end Transclusion.Numeric.Binary64
