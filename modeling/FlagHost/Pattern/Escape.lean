import FlagHost.Pattern.Options
import FlagHost.Pattern.Regex
import FlagHost.Text.Digit
import FlagHost.Text.Utf8
import FlagHost.Unicode.Lookup

/-!
# Escapes

What a backslash starts: a character, a set of characters or a look. Every reading function takes
the characters in front of it and gives what it read and the characters behind it.
-/

namespace FlagHost.Pattern

open Unicode

/-- A character of a pattern. Written with exactly two hexadecimal digits it is a byte where
characters are bytes. -/
structure Literal where
  char : Char
  asByte : Bool := false

inductive Primitive where
  | literal (literal : Literal)
  | set (set : CodeSet)
  | look (look : Look)

/-- The set of a character. Bytes above ASCII are no text. -/
def Literal.set? (options : Options) (literal : Literal) : Option CodeSet :=
  if !options.unicode && literal.asByte && 0x7F < literal.char.toNat then none
  else some (CodeSet.single literal.char.toNat)

/-- The code point of a character in a set. Without Unicode only ASCII characters may stand
there. -/
def Literal.point? (options : Options) (literal : Literal) : Option Nat :=
  if !options.unicode && 0x7F < literal.char.toNat then none else some literal.char.toNat

/-- The characters with a meaning of their own, which a backslash takes from them. -/
def isMeta (c : Char) : Bool :=
  "\\.+*?()|[]\x7b\x7d^$#&-~".toList.contains c

/-- Whether a backslash in front leaves the character as it is: ASCII letters, digits and angle
brackets are kept for escapes. -/
def isPlainEscaped (c : Char) : Bool :=
  isMeta c || (c.toNat < 128 && !c.isAlphanum && c ≠ '<' && c ≠ '>')

/-- Reads `n` characters, each with the blanks behind it. -/
def takeSpaced (options : Options) : Nat → List Char → Option (List Char × List Char)
  | 0, cs => some ([], cs)
  | _ + 1, [] => none
  | n + 1, c :: cs => do
    let (more, rest) ← takeSpaced options n (options.skip cs)
    pure (c :: more, rest)

def takeBraced (options : Options) (cs : List Char) : Option (List Char × List Char) :=
  match h : options.skip cs with
  | [] => none
  | c :: rest =>
    if c = '\x7d' then some ([], rest)
    else do
      have : rest.length < cs.length := by
        have := options.skip_length cs
        simp only [h, List.length_cons] at this
        omega
      let (more, rest) ← takeBraced options rest
      pure (c :: more, rest)
termination_by cs.length

/-- Reads the character with a hexadecimal code point, behind the letter that asks for `digits` of
them or for a number in braces. -/
def readHex (options : Options) (digits : Nat) (cs : List Char) :
    Option (Literal × List Char) := do
  let (written, rest, braced) ← match options.skip cs with
    | '\x7b' :: cs => (takeBraced options cs).map fun (ds, rest) => (ds, rest, true)
    | cs => (takeSpaced options digits cs).map fun (ds, rest) => (ds, rest, false)
  if written.isEmpty then none
  else
    let c ← (Digit.number? 16 written).bind Utf8.char?
    pure (⟨c, digits = 2 && !braced⟩, rest)

def splitAt? (separator : List Char) : List Char → Option (List Char × List Char)
  | [] => none
  | c :: cs =>
    if separator.isPrefixOf (c :: cs) then some ([], (c :: cs).drop separator.length)
    else (splitAt? separator cs).map fun (before, after) => (c :: before, after)

/-- The set that is named between the braces, and whether it is its complement that is meant. -/
def namedSet? (name : List Char) : Option (CodeSet × Bool) :=
  let valued negated : List Char × List Char → Option (CodeSet × Bool) := fun (property, value) =>
    (CodeSet.valued? (String.ofList property) (String.ofList value)).map (·, negated)
  match splitAt? ['!', '='] name with
  | some parts => valued true parts
  | none =>
    match (splitAt? [':'] name).or (splitAt? ['='] name) with
    | some parts => valued false parts
    | none => (CodeSet.named? (String.ofList name)).map (·, false)

/-- Reads the name of a set: one letter, or anything in braces. -/
def readNamedSet (options : Options) (negated : Bool) (cs : List Char) :
    Option (CodeSet × List Char) := do
  let (name, rest) ← match options.skip cs with
    | [] => none
    | '\x7b' :: cs => takeBraced options cs
    | c :: cs => if c = '\\' then none else some ([c], cs)
  if !options.unicode then none
  else
    let (set, other) ← namedSet? name
    let set ← options.settle (negated != other) (options.fold set)
    pure (set, rest)

/-- The set of a letter: digits, white space, or characters of words; a capital stands for the
complement. -/
def letterSet? (options : Options) (letter : Char) : Option CodeSet :=
  let set := match letter.toLower with
    | 'd' => if options.unicode then decimalDigits else CodeSet.range 0x30 0x39
    | 's' =>
      if options.unicode then Property.whiteSpace
      else CodeSet.range 0x9 0xD ∪ CodeSet.single 0x20
    | _ => if options.unicode then wordChars else asciiWordChars
  options.settle (letter.isUpper) set

/-- Reads the kind of a word look in braces behind `\b`: an opening brace that no letter or hyphen
follows starts a repetition instead. -/
def readWordLook (options : Options) (cs : List Char) : Option (WordSide × List Char) :=
  match cs with
  | '\x7b' :: rest =>
    match options.skip rest with
    | [] => none
    | c :: _ =>
      if !(c.isAlpha || c = '-') then some (.edge, cs)
      else do
        let (name, rest) ← takeBraced options rest
        let side ← match String.ofList name with
          | "start" => some WordSide.start
          | "end" => some .stop
          | "start-half" => some .startHalf
          | "end-half" => some .stopHalf
          | _ => none
        pure (side, rest)
  | _ => some (.edge, cs)

def readEscape (options : Options) : List Char → Option (Primitive × List Char)
  | [] => none
  | c :: rest =>
    let char (n : Nat) : Option (Primitive × List Char) :=
      some (.literal ⟨Char.ofNat n, false⟩, rest)
    let look (l : Look) : Option (Primitive × List Char) := some (.look l, rest)
    let ascii := !options.unicode
    match c with
    | 'x' => (readHex options 2 rest).map fun (l, rest) => (.literal l, rest)
    | 'u' => (readHex options 4 rest).map fun (l, rest) => (.literal l, rest)
    | 'U' => (readHex options 8 rest).map fun (l, rest) => (.literal l, rest)
    | 'p' | 'P' => (readNamedSet options (c = 'P') rest).map fun (s, rest) => (.set s, rest)
    | 'd' | 'D' | 's' | 'S' | 'w' | 'W' => (letterSet? options c).map fun s => (.set s, rest)
    | 'a' => char 0x7
    | 'f' => char 0xC
    | 't' => char 0x9
    | 'n' => char 0xA
    | 'r' => char 0xD
    | 'v' => char 0xB
    | 'A' => look .textStart
    | 'z' => look .textEnd
    | 'b' => (readWordLook options rest).map fun (side, rest) => (.look (.word side ascii), rest)
    | 'B' => look (.word .inside ascii)
    | '<' => look (.word .start ascii)
    | '>' => look (.word .stop ascii)
    | c => if isPlainEscaped c then some (.literal ⟨c, false⟩, rest) else none

end FlagHost.Pattern
