import ApiSite.Text.Basic

/-!
Real numbers of double precision, exactly: a sign, a whole mantissa and a power of two. Quotients
of whole numbers are rounded to the nearest such number, and a number is written with the fewest
digits that read back as it. All arithmetic is on whole numbers.
-/

set_option autoImplicit false

namespace ApiSite

/-- A number of double precision. -/
inductive Binary64 where
  /-- The mantissa times two to the exponent. -/
  | finite (negative : Bool) (mantissa : Nat) (exponent : Int)
  | infinite (negative : Bool)
  | nan
  deriving DecidableEq, Repr, Inhabited

namespace Binary64

/-- Bits of a mantissa. -/
abbrev precision : Nat := 53

/-- The least exponent. -/
abbrev minExponent : Int := -1074

/-- The greatest exponent. -/
abbrev maxExponent : Int := 971

/-- A quotient rounded to the nearest whole number, a half to the even one. -/
def roundDiv (num den : Nat) : Nat :=
  let q := num / den
  let twice := 2 * (num % den)
  if twice < den then q else if den < twice then q + 1 else q + q % 2

/-- A quotient divided by two to the given power, as a quotient. -/
def shiftDown (num den : Nat) (e : Int) : Nat × Nat :=
  match e with
  | .ofNat k => (num, den * Nat.pow 2 k)
  | .negSucc k => (num * Nat.pow 2 (k + 1), den)

/-- The exponent at which a quotient has a mantissa of full length, or the least one. -/
def exponentOf (num den : Nat) : Int :=
  let e : Int := (num.log2 : Int) - (den.log2 : Int) - (precision : Int)
  let fits (e : Int) : Bool :=
    let (n, d) := shiftDown num den e
    n / d < Nat.pow 2 precision
  max minExponent (if fits e then e else if fits (e + 1) then e + 1 else e + 2)

/-- The number nearest to a quotient. -/
def ofRatio (negative : Bool) (num den : Nat) : Binary64 :=
  if num = 0 then .finite negative 0 minExponent
  else
    let e := exponentOf num den
    let (n, d) := shiftDown num den e
    let m := roundDiv n d
    let (m, e) := if m = Nat.pow 2 precision then (Nat.pow 2 (precision - 1), e + 1) else (m, e)
    if maxExponent < e then .infinite negative else .finite negative m e

/-- The number nearest to a decimal, given its digits as a whole number and a power of ten. -/
def ofDecimal (negative : Bool) (digits : Nat) (power : Int) : Binary64 :=
  match power with
  | .ofNat k => if 400 < k ∧ 0 < digits then .infinite negative
    else ofRatio negative (digits * Nat.pow 10 k) 1
  | .negSucc k => ofRatio negative digits (Nat.pow 10 (k + 1))

/-- The number nearest to an integer. -/
def ofInt (i : Int) : Binary64 := ofRatio (i < 0) i.natAbs 1

/-- The exact value of a finite number: numerator and denominator. -/
def ratio? : Binary64 → Option (Int × Nat)
  | finite negative m e =>
    let (n, d) := shiftDown m 1 (-e)
    some (if negative then -(n : Int) else n, d)
  | _ => none

/-- The number nearest to a quotient of an integer. -/
def ofSignedRatio (num : Int) (den : Nat) : Binary64 := ofRatio (num < 0) num.natAbs den

/-- The nearest number to a sum. -/
def add (x y : Binary64) : Binary64 :=
  match ratio? x, ratio? y with
  | some (a, b), some (c, d) => ofSignedRatio (a * d + c * b) (b * d)
  | some _, none => y
  | _, _ => x

/-- The nearest number to a product with an integer. -/
def scale (x : Binary64) (k : Int) : Binary64 :=
  match ratio? x with
  | some (a, b) => ofSignedRatio (a * k) b
  | none => x

/-- The number with the opposite sign. -/
def neg : Binary64 → Binary64
  | finite s m e => .finite (!s) m e
  | infinite s => .infinite (!s)
  | nan => .nan

/-- Whether a number is zero. -/
def isZero : Binary64 → Bool
  | finite _ 0 _ => true
  | _ => false

/-- The number rounded to some decimal places, a half to the even digit. -/
def roundTo (places : Nat) (x : Binary64) : Binary64 :=
  match x with
  | finite negative m e =>
    let (n, d) := shiftDown m 1 (-e)
    ofRatio negative (roundDiv (n * Nat.pow 10 places) d) (Nat.pow 10 places)
  | x => x

/-- A number with a fixed number of decimal places, at least one, a half to the even digit. -/
def toFixed (places : Nat) (x : Binary64) : Text :=
  match x with
  | finite negative m e =>
    let (n, d) := shiftDown m 1 (-e)
    let scaled := roundDiv (n * Nat.pow 10 places) d
    let fraction := Text.ofNat (scaled % Nat.pow 10 places)
    let text := Text.ofNat (scaled / Nat.pow 10 places) ++
      '.' :: List.replicate (places - fraction.length) '0' ++ fraction
    if negative then '-' :: text else text
  | infinite negative => if negative then "-inf" else "inf"
  | nan => "nan"

/-- The decimal digits of the shortest decimal between two bounds (numerators over `den`, included
if `closed`) that is nearest to `value`, among decimals with a digit at the power `p` of ten and
none behind it. -/
def decimalAt? (low value high den : Nat) (closed : Bool) (p : Int) : Option Nat :=
  let (low, value, high, den) := match p with
    | .ofNat k => (low, value, high, den * Nat.pow 10 k)
    | .negSucc k =>
      let scale := Nat.pow 10 (k + 1)
      (low * scale, value * scale, high * scale, den)
  let inside (n : Nat) : Bool :=
    if closed then low ≤ n * den && n * den ≤ high else low < n * den && n * den < high
  let below := value / den
  let nearest := roundDiv value den
  if inside nearest then some nearest
  else if inside below then some below
  else if inside (below + 1) then some (below + 1)
  else none

/-- Tries powers of ten from `p` downwards; `fuel` bounds their number. -/
def shortestFrom (low value high den : Nat) (closed : Bool) : Nat → Int → Nat × Int
  | 0, p => (value / den, p)
  | fuel + 1, p =>
    match decimalAt? low value high den closed p with
    | some n => (n, p)
    | none => shortestFrom low value high den closed fuel (p - 1)

/-- The power of ten of the first digit of a positive quotient. -/
def leadingPower (num den : Nat) : Int :=
  if den ≤ num then ((Nat.repr (num / den)).length : Int) - 1
  else
    let count := (Nat.repr (den / num)).length
    if Nat.pow 10 (count - 1) * num = den then 1 - (count : Int) else -(count : Int)

/-- The digits and the power of ten of the shortest decimal that reads back as a positive number. -/
def shortest (m : Nat) (e : Int) : Nat × Int :=
  -- four times the value, so that the bounds are whole numbers of the same unit
  let gap := if m = Nat.pow 2 (precision - 1) ∧ minExponent < e then 1 else 2
  let (value, den) := shiftDown (4 * m) 4 (-e)
  let (low, _) := shiftDown (4 * m - gap) 4 (-e)
  let (high, _) := shiftDown (4 * m + 2) 4 (-e)
  shortestFrom low value high den (m % 2 == 0) 20 (leadingPower value den + 1)

/-- Removes zeros at the end of the digits of a number. -/
def trimZeros : Nat → Nat → Int → Nat × Int
  | 0, n, p => (n, p)
  | fuel + 1, n, p => if n % 10 = 0 ∧ 0 < n then trimZeros fuel (n / 10) (p + 1) else (n, p)

/-- A positive number in digits: positional from a ten-thousandth to below ten to the sixteenth, and
else with an exponent of at least two digits. -/
def magnitudeText (m : Nat) (e : Int) : Text :=
  let (n, p) := shortest m e
  let (n, p) := trimZeros 20 n p
  let digits := Text.ofNat n
  let point : Int := (digits.length : Int) + p
  if -4 < point ∧ point ≤ 16 then
    if point ≤ 0 then "0." ++ List.replicate (-point).toNat '0' ++ digits
    else if (digits.length : Int) ≤ point then
      digits ++ List.replicate (point.toNat - digits.length) '0' ++ ".0"
    else digits.take point.toNat ++ '.' :: digits.drop point.toNat
  else
    let power := point - 1
    let size := Text.ofNat power.natAbs
    let fraction := if digits.length = 1 then [] else '.' :: digits.drop 1
    digits.take 1 ++ fraction ++ ['e', if power < 0 then '-' else '+'] ++
      List.replicate (2 - size.length) '0' ++ size

/-- The shortest text of a number. -/
def toText : Binary64 → Text
  | finite negative m e =>
    let magnitude : Text := if m = 0 then "0.0" else magnitudeText m e
    if negative then '-' :: magnitude else magnitude
  | infinite negative => if negative then "-inf" else "inf"
  | nan => "nan"

/-- Reads digits with an optional point and exponent; underscores are passed over. -/
def ofText? (t : Text) : Option Binary64 :=
  let t := t.filter (· != '_')
  let (negative, t) := match t with
    | '-' :: t => (true, t)
    | '+' :: t => (false, t)
    | t => (false, t)
  let whole := t.takeWhile Char.isDigit
  let t := t.drop whole.length
  let (fraction, t) := match t with
    | '.' :: t => (t.takeWhile Char.isDigit, t.dropWhile Char.isDigit)
    | t => ([], t)
  let power? : Option Int := match t with
    | [] => some 0
    | e :: t =>
      if e == 'e' || e == 'E' then
        match t with
        | '-' :: d => (Text.toNat? d).map fun n => -(n : Int)
        | '+' :: d => (Text.toNat? d).map fun n => (n : Int)
        | d => (Text.toNat? d).map fun n => (n : Int)
      else none
  if whole.isEmpty && fraction.isEmpty then none
  else
    match power?, Text.toNat? (whole ++ fraction) with
    | some power, some n => some (ofDecimal negative n (power - fraction.length))
    | _, _ => none

end Binary64

end ApiSite
