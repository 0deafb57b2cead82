import FlagHost.Decimal.Shortest

/-!
# Texts of doubles

A finite double is written with the digits of its shortest decimal. A style says which orders of
magnitude are written positionally and what marks a whole number; other numbers are written with
one digit, a point, the other digits and a signed exponent.
-/

namespace FlagHost.Decimal

structure Style where
  /-- The orders of magnitude written positionally: of numbers from `10 ^ p` up to, but without,
  `10 ^ (p + 1)` the order is `p`. -/
  positional : Int → Bool
  /-- What follows a whole number in positional form. -/
  wholeMark : String
  /-- Which shortest decimal is taken if two are equally near. -/
  tie : Tie

/-- Values of number flags are always positional, and whole ones have no point. -/
def Style.flagValue : Style := ⟨fun _ => true, "", .up⟩

/-- Numbers in documents are positional from `10 ^ (-5)` to below `10 ^ 16`, and whole ones keep a
zero behind the point. -/
def Style.document : Style := ⟨fun p => -5 ≤ p && p < 16, ".0", .even⟩

def zeros (n : Nat) : String := String.ofList (List.replicate n '0')

/-- The digits `ds`, of which the last stands for `10 ^ e`, in positional form. -/
def positional (style : Style) (ds : List Char) (e : Int) : String :=
  if 0 ≤ e then String.ofList ds ++ zeros e.toNat ++ style.wholeMark
  else
    let places := (-e).toNat
    if places < ds.length then
      String.ofList (ds.take (ds.length - places)) ++ "." ++
        String.ofList (ds.drop (ds.length - places))
    else "0." ++ zeros (places - ds.length) ++ String.ofList ds

/-- One digit, the others behind a point, and the exponent with its sign. -/
def scientific (ds : List Char) (p : Int) : String :=
  let mantissa := match ds with
    | [] => ""
    | [d] => String.ofList [d]
    | d :: rest => String.ofList (d :: '.' :: rest)
  mantissa ++ "e" ++ (if p < 0 then "-" else "+") ++ toString p.natAbs

def Scaled.text (style : Style) (s : Scaled) : String :=
  let ds := Nat.toDigits 10 s.digits
  let p := s.exponent + (ds.length : Int) - 1
  if s.digits = 0 || style.positional p then positional style ds s.exponent else scientific ds p

def floatText (style : Style) (x : Float) : String :=
  let bits := x.toBits.toNat
  let sign := if bits < 0x8000000000000000 then "" else "-"
  if x.isNaN then "NaN"
  else if x.isInf then sign ++ "inf"
  else
    let (m, q) := magnitude bits
    sign ++ (shortest style.tie m q).text style

end FlagHost.Decimal
