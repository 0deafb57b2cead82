import FlagHost.Url.Host

/-!
# Addresses

An address has a scheme, most have a host, and all have a path and may have a query. The text of an
address is read leniently: blanks around it and line ends in it do not count, and in addresses of
the web a backslash is a slash. What is read is the address of a request; who the user is and what
fragment is meant are checked and forgotten.
-/

namespace FlagHost

/-- The path of an address: segments, or a text without structure. -/
inductive Url.Path where
  | segments (segments : List (List Char))
  | opaque_ (text : List Char)
deriving DecidableEq, Repr

structure Url where
  scheme : String
  /-- The host, in the form in which it is written. -/
  host : Option (List Char)
  port : Option Nat := none
  path : Url.Path
  /-- The query, without the question mark. -/
  query : Option (List Char) := none
deriving DecidableEq, Repr

namespace Url

def webPorts : List (String × Option Nat) :=
  [("http", some 80), ("https", some 443), ("ws", some 80), ("wss", some 443), ("ftp", some 21),
   ("file", none)]

def isSpecial (scheme : String) : Bool := (webPorts.lookup scheme).isSome

/-- Passes over blanks and controls at both ends, and over tabs and line ends everywhere. -/
def clean (cs : List Char) : List Char :=
  let blank (c : Char) : Bool := c.toNat ≤ 0x20
  let inner := ((cs.dropWhile blank).reverse.dropWhile blank).reverse
  inner.filter fun c => c ≠ '\t' && c ≠ '\n' && c ≠ '\r'

def scheme? (cs : List Char) : Option (String × List Char) :=
  let name := cs.takeWhile (· ≠ ':')
  match name, cs.drop name.length with
  | c :: more, _ :: rest =>
    if c.isAlpha && more.all fun c => c.isAlphanum || c = '+' || c = '-' || c = '.' then
      some (String.ofList (name.map Char.toLower), rest)
    else none
  | _, _ => none

def endsAuthority (special : Bool) (c : Char) : Bool :=
  c = '/' || c = '?' || c = '#' || (special && c = '\\')

def isDoubleDot (segment : List Char) : Bool :=
  ["..", "%2e.", ".%2e", "%2e%2e"].contains (String.ofList (segment.map Char.toLower))

def isSingleDot (segment : List Char) : Bool :=
  [".", "%2e"].contains (String.ofList (segment.map Char.toLower))

/-- Puts segments behind those that are there, the last first, and follows the dots. -/
def walk (before : List (List Char)) : List (List Char) → List (List Char)
  | [] => before.reverse
  | segment :: rest =>
    let isLast := rest.isEmpty
    if isDoubleDot segment then
      walk (if isLast then [] :: before.drop 1 else before.drop 1) rest
    else if isSingleDot segment then walk (if isLast then [] :: before else before) rest
    else walk (percentEncode escapedInPath segment :: before) rest

def segmentsOf (special : Bool) (cs : List Char) : List (List Char) :=
  walk [] (pieces '/' (if special then cs.map fun c => if c = '\\' then '/' else c else cs))

def pathOf (special : Bool) (cs : List Char) : Path :=
  .segments <|
    match cs with
    | [] => if special then [[]] else []
    | c :: rest =>
      segmentsOf special (if c = '/' || (special && c = '\\') then rest else c :: rest)

def splitOn? (p : Char → Bool) (cs : List Char) : List Char × Option (List Char) :=
  let before := cs.takeWhile (!p ·)
  (before, (cs.drop before.length).tail?)

/-- Reads a port; the port of the scheme is left out. -/
def port? (scheme : String) (cs : List Char) : Option (Option Nat) :=
  if cs.isEmpty then some none
  else do
    let n ← Digit.number? 10 cs
    if 65535 < n then none
    else some (if webPorts.lookup scheme = some (some n) then none else some n)

/-- Splits a host from its port; a colon in brackets is part of the host. -/
def splitPort (inBrackets : Bool) : List Char → List Char × List Char
  | [] => ([], [])
  | c :: cs =>
    if c = ':' && !inBrackets then ([], cs)
    else
      let (host, port) := splitPort (c = '[' || (inBrackets && c ≠ ']')) cs
      (c :: host, port)

/-- What stands behind the last sign of a user, and whether there is a user. -/
def withoutUser (cs : List Char) : List Char × Bool :=
  let host := (cs.reverse.takeWhile (· ≠ '@')).reverse
  (host, host.length < cs.length)

def authority? (scheme : String) (cs : List Char) : Option (List Char × Option Nat) := do
  let (hostAndPort, hasUser) := withoutUser cs
  let (host, port) := splitPort false hostAndPort
  let special := isSpecial scheme
  let hasPort := host.length < hostAndPort.length
  if host.isEmpty && (special || hasUser || hasPort) then none
  else
    let host ← if special then webHost? host else opaqueHost? host
    let port ← port? scheme port
    pure (host, port)

def isDrive : List Char → Bool
  | [letter, mark] => letter.isAlpha && (mark = ':' || mark = '|')
  | _ => false

/-- Reads the host of the address of a file; this machine needs no name. -/
def fileHost? (cs : List Char) : Option (List Char) := do
  let host ← webHost? cs
  if host = "localhost".toList then some [] else some host

def hierarchy? (scheme : String) (cs : List Char) :
    Option (Option (List Char) × Option Nat × Path) :=
  let special := isSpecial scheme
  let slashed (cs : List Char) : List Char :=
    cs.map fun c => if special && c = '\\' then '/' else c
  if scheme = "file" then
    match slashed cs with
    | '/' :: '/' :: rest =>
      let name := rest.takeWhile (!endsAuthority special ·)
      if name.isEmpty || isDrive name then some (some [], none, pathOf special rest)
      else
        (fileHost? name).map fun host =>
          (some host, none, pathOf special (rest.drop name.length))
    | rest => some (some [], none, pathOf special rest)
  else if special then do
    let rest := (slashed cs).dropWhile (· = '/')
    let name := rest.takeWhile (!endsAuthority special ·)
    let (host, port) ← authority? scheme name
    pure (some host, port, pathOf special (rest.drop name.length))
  else
    match cs with
    | '/' :: '/' :: rest => do
      let name := rest.takeWhile (!endsAuthority special ·)
      let (host, port) ← authority? scheme name
      pure (some host, port, pathOf special (rest.drop name.length))
    | '/' :: rest => some (none, none, .segments (segmentsOf special rest))
    | cs => some (none, none, .opaque_ (percentEncode isControl cs))

def parse? (text : String) : Option Url := do
  let (scheme, rest) ← scheme? (clean text.toList)
  let (rest, _) := splitOn? (· = '#') rest
  let (rest, query) := splitOn? (· = '?') rest
  let (host, port, path) ← hierarchy? scheme rest
  pure {
    scheme, host, port, path
    query := query.map (percentEncode (escapedInQuery (isSpecial scheme))) }

def withPairs (url : Url) (pairs : List (String × String)) : Url :=
  if pairs.isEmpty then url else { url with query := some (appendPairs (url.query.getD []) pairs) }

def Path.toList : Path → List Char
  | .segments parts => parts.flatMap ('/' :: ·)
  | .opaque_ text => text

def target (url : Url) : String :=
  String.ofList (url.path.toList ++ (url.query.map ('?' :: ·)).getD [])

def isWeb (url : Url) : Bool := (url.scheme = "http" || url.scheme = "https") && url.host.isSome

end Url

end FlagHost
