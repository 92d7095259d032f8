import VoiceBus.Text.Classes

/-! # Text in quotes

The form in which messages show text that came from outside: between double quotes, with every
character that cannot be seen on its own written as its code point.
-/

namespace VoiceBus.Text

/-- The lower-case hexadecimal digits of a number. -/
def hexDigits (n : Nat) : List Char := Nat.toDigits 16 n

/-- A character by its code point, between braces. -/
def escapeCode (c : Char) : List Char := ['\\', 'u', '\x7b'] ++ hexDigits c.toNat ++ ['\x7d']

/-- The halfwidth voicing marks of katakana. They extend the kana before them, yet each is a letter
with a cell of its own. -/
def isHalfwidthVoicing (c : Char) : Bool := c == '\uFF9E' || c == '\uFF9F'

/-- Whether a character can be seen on its own: it has a printed form, is not drawn as nothing and
does not join the character before it. -/
def standsAlone (c : Char) : Bool :=
  !isUnprintable c && !isDefaultIgnorable c && (!isGraphemeExtend c || isHalfwidthVoicing c)

/-- How one character is written between quotes. -/
def quoteChar (c : Char) : List Char :=
  match c with
  | '\x00' => ['\\', '0']
  | '\t' => ['\\', 't']
  | '\r' => ['\\', 'r']
  | '\n' => ['\\', 'n']
  | '\\' => ['\\', '\\']
  | '"' => ['\\', '"']
  | c => if standsAlone c then [c] else escapeCode c

def quote (text : String) : String :=
  String.ofList (['"'] ++ text.toList.flatMap quoteChar ++ ['"'])

end VoiceBus.Text
