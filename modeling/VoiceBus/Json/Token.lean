import VoiceBus.Json.Number

/-! # The tokens of a JSON text

A text in quotes may name its characters by code units. Where those do not pair up the token
still stands, but it has no text.
-/

namespace VoiceBus.Json

/-- Text between quotes; `none` when it names half of a surrogate pair without the other. -/
abbrev Text := Option String

inductive Token
  | null
  | bool (value : Bool)
  | number (value : Number)
  | text (value : Text)
  | comma
  | colon
  | openArray
  | closeArray
  | openObject
  | closeObject
  deriving DecidableEq, Repr

/-- The four characters that may stand between tokens. -/
def isBlank (c : Char) : Bool := c == ' ' || c == '\t' || c == '\n' || c == '\r'

/-! ## Text -/

/-- One element between quotes. -/
inductive TextUnit
  /-- A character that stands for itself or is named by a letter. -/
  | char (c : Char)
  /-- A character or half of one, by its sixteen-bit code unit. -/
  | code (unit : Nat)
  deriving DecidableEq, Repr

/-- The character named by a letter after a backslash. -/
def namedChar? : Char → Option Char
  | '"' => some '"'
  | '\\' => some '\\'
  | '/' => some '/'
  | 'b' => some '\x08'
  | 'f' => some '\x0c'
  | 'n' => some '\n'
  | 'r' => some '\r'
  | 't' => some '\t'
  | _ => none

/-- The value of a hexadecimal digit of either case. -/
def hexValue? (c : Char) : Option Nat :=
  if '0' ≤ c && c ≤ '9' then some (c.toNat - '0'.toNat)
  else if 'a' ≤ c && c ≤ 'f' then some (c.toNat - 'a'.toNat + 10)
  else if 'A' ≤ c && c ≤ 'F' then some (c.toNat - 'A'.toNat + 10)
  else none

/-- The code unit that four hexadecimal digits spell. -/
def codeUnit? (a b c d : Char) : Option Nat := do
  let high := (← hexValue? a) * 16 + (← hexValue? b)
  let low := (← hexValue? c) * 16 + (← hexValue? d)
  return high * 256 + low

/-- Reads up to the closing quote. `units` holds what was read, the last unit first. -/
def readUnits (units : List TextUnit) : List Char → Option (List TextUnit × List Char)
  | [] => none
  | '"' :: rest => some (units.reverse, rest)
  | '\\' :: 'u' :: a :: b :: c :: d :: rest =>
    match codeUnit? a b c d with
    | some unit => readUnits (.code unit :: units) rest
    | none => none
  | '\\' :: letter :: rest =>
    match namedChar? letter with
    | some c => readUnits (.char c :: units) rest
    | none => none
  | c :: rest =>
    if c = '\\' || c.toNat < 0x20 then none else readUnits (.char c :: units) rest

def isHighSurrogate (unit : Nat) : Bool := 0xD800 ≤ unit && unit ≤ 0xDBFF

def isLowSurrogate (unit : Nat) : Bool := 0xDC00 ≤ unit && unit ≤ 0xDFFF

/-- The character of a surrogate pair. -/
def pairChar (high low : Nat) : Char :=
  Char.ofNat (0x10000 + (high - 0xD800) * 0x400 + (low - 0xDC00))

/-- Characters joined so far, the last one first, and a high surrogate that waits for its low
one. -/
structure Joined where
  chars : List Char := []
  waiting : Option Nat := none
  deriving DecidableEq, Repr

/-- Takes one unit. It fails when a surrogate has no partner. -/
def Joined.take (joined : Joined) (unit : TextUnit) : Option Joined :=
  match joined.waiting, unit with
  | none, .char c => some { joined with chars := c :: joined.chars }
  | none, .code n =>
    if isHighSurrogate n then some { joined with waiting := some n }
    else if isLowSurrogate n then none
    else some { joined with chars := Char.ofNat n :: joined.chars }
  | some high, .code n =>
    if isLowSurrogate n then some ⟨pairChar high n :: joined.chars, none⟩ else none
  | some _, .char _ => none

def joinUnits (units : List TextUnit) : Text :=
  match units.foldlM Joined.take {} with
  | some ⟨chars, none⟩ => some (String.ofList chars.reverse)
  | _ => none

/-! ## Numbers -/

/-- Reads the digits at the start, at least one. -/
def readDigits (s : List Char) : Option (List Char × List Char) :=
  let digits := s.takeWhile Char.isDigit
  if digits.isEmpty then none else some (digits, s.dropWhile Char.isDigit)

/-- Reads the digits before the point: a zero alone, or digits that do not start with zero. -/
def readWhole : List Char → Option (List Char × List Char)
  | '0' :: rest => some (['0'], rest)
  | s => readDigits s

/-- Reads a point and the digits after it, if there is a point. -/
def readFraction : List Char → Option (List Char × List Char)
  | '.' :: rest => readDigits rest
  | s => some ([], s)

/-- Reads the sign and the digits of an exponent. -/
def readPower (s : List Char) : Option (Int × List Char) :=
  match s with
  | '-' :: rest => (readDigits rest).map fun (digits, rest) => (-(digitsValue digits : Int), rest)
  | '+' :: rest => (readDigits rest).map fun (digits, rest) => ((digitsValue digits : Int), rest)
  | s => (readDigits s).map fun (digits, rest) => ((digitsValue digits : Int), rest)

/-- Reads an exponent, if there is one. -/
def readExponent (s : List Char) : Option (Option Int × List Char) :=
  match s with
  | 'e' :: rest | 'E' :: rest => (readPower rest).map fun (power, rest) => (some power, rest)
  | s => some (none, s)

/-- Reads a number after its sign. -/
def readMagnitude (negative : Bool) (s : List Char) : Option (Number × List Char) := do
  let (whole, s) ← readWhole s
  let (fraction, s) ← readFraction s
  let (exponent, s) ← readExponent s
  return (⟨negative, whole, fraction, exponent⟩, s)

/-! ## Tokens -/

/-- Reads the token that a text without leading blanks starts with. -/
def readToken : List Char → Option (Token × List Char)
  | ',' :: rest => some (.comma, rest)
  | ':' :: rest => some (.colon, rest)
  | '[' :: rest => some (.openArray, rest)
  | ']' :: rest => some (.closeArray, rest)
  | '\x7b' :: rest => some (.openObject, rest)
  | '\x7d' :: rest => some (.closeObject, rest)
  | 'n' :: 'u' :: 'l' :: 'l' :: rest => some (.null, rest)
  | 't' :: 'r' :: 'u' :: 'e' :: rest => some (.bool true, rest)
  | 'f' :: 'a' :: 'l' :: 's' :: 'e' :: rest => some (.bool false, rest)
  | '"' :: rest => (readUnits [] rest).map fun (units, rest) => (.text (joinUnits units), rest)
  | '-' :: rest => (readMagnitude true rest).map fun (number, rest) => (.number number, rest)
  | s => (readMagnitude false s).map fun (number, rest) => (.number number, rest)

/-- Reads every token, at most `count` of them. `tokens` holds what was read, the last one
first. -/
def readTokens (tokens : List Token) : Nat → List Char → Option (List Token)
  | count, s =>
    match count, s.dropWhile isBlank with
    | _, [] => some tokens.reverse
    | 0, _ => none
    | count + 1, s =>
      match readToken s with
      | some (token, rest) => readTokens (token :: tokens) count rest
      | none => none

/-- The tokens of a text. A token takes a character at least, so there are no more tokens than
characters. -/
def tokens? (s : List Char) : Option (List Token) := readTokens [] s.length s

/-! ## Writing text

Quotes, backslashes and control characters are escaped, and nothing else is.
-/

/-- How one character is written between quotes. -/
def escapeChar (c : Char) : List Char :=
  match c with
  | '"' => ['\\', '"']
  | '\\' => ['\\', '\\']
  | '\x08' => ['\\', 'b']
  | '\x0c' => ['\\', 'f']
  | '\n' => ['\\', 'n']
  | '\r' => ['\\', 'r']
  | '\t' => ['\\', 't']
  | c =>
    if c.toNat < 0x20 then
      ['\\', 'u', '0', '0', Nat.digitChar (c.toNat / 16), Nat.digitChar (c.toNat % 16)]
    else [c]

def writeText (text : String) : List Char := ['"'] ++ text.toList.flatMap escapeChar ++ ['"']

end VoiceBus.Json
