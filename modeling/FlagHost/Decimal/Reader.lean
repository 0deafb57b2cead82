import FlagHost.Text.Digit

/-!
# Reading doubles

The value of a number flag is read from a decimal: a sign, digits with at most one point among
them, and an exponent, of which all but one digit may be missing. The words for infinity and for a
value that is not a number count too. The result is the double nearest to the decimal.
-/

namespace FlagHost.Decimal

/-- The double nearest to `n · 10 ^ e`. Exponents that put it out of the range of doubles are cut
off first. -/
def nearest (n : Nat) (e : Int) : Float :=
  if n = 0 then 0.0
  else
    let top := e + (Nat.toDigits 10 n).length
    if 400 < top then 1.0 / 0.0
    else if top < -400 then 0.0
    else Float.ofScientific n (e < 0) e.natAbs

/-- The text in small letters, for the words among the numbers. -/
def smallLetters (cs : List Char) : String := String.ofList (cs.map Char.toLower)

/-- The exponent behind a mantissa: nothing, or a letter `e`, a sign that may be missing, and
digits. -/
def exponent? : List Char → Option Int
  | [] => some 0
  | c :: cs =>
    if c = 'e' ∨ c = 'E' then
      let (negative, ds) := match cs with
        | '-' :: ds => (true, ds)
        | '+' :: ds => (false, ds)
        | ds => (false, ds)
      if ds = [] ∨ !ds.all Char.isDigit then none
      else
        let n : Int := Digit.decimal ds
        some (if negative then -n else n)
    else none

def unsigned? (cs : List Char) : Option Float :=
  let whole := cs.takeWhile Char.isDigit
  let rest := cs.dropWhile Char.isDigit
  let (fraction, rest) := match rest with
    | '.' :: more => (more.takeWhile Char.isDigit, more.dropWhile Char.isDigit)
    | _ => ([], rest)
  if whole = [] ∧ fraction = [] then
    match smallLetters cs with
    | "inf" => some (1.0 / 0.0)
    | "infinity" => some (1.0 / 0.0)
    | "nan" => some (0.0 / 0.0)
    | _ => none
  else (exponent? rest).map fun e =>
    nearest (Digit.decimal (whole ++ fraction)) (e - fraction.length)

def float? (text : String) : Option Float :=
  match text.toList with
  | '-' :: cs => (unsigned? cs).map (- ·)
  | '+' :: cs => unsigned? cs
  | cs => unsigned? cs

end FlagHost.Decimal
