import Sramp.Text.Hidden

/-!
# Double-quoted text with escapes

The form in which messages and plan text show a string exactly: between double
quotes, with a backslash escape for the double quote, the backslash, the usual
control characters, and every character without a printed form of its own.
-/

namespace Sramp.Text

/-- Lower-case hexadecimal digits, without leading zeros. -/
def hexDigits (code : Nat) : List Char :=
  Nat.toDigits 16 code

/-- How one character is shown inside double quotes. -/
def escapedChar (c : Char) : List Char :=
  match c.toNat with
  | 0x00 => ['\\', '0']
  | 0x09 => ['\\', 't']
  | 0x0A => ['\\', 'n']
  | 0x0D => ['\\', 'r']
  | 0x22 => ['\\', '\x22']
  | 0x5C => ['\\', '\\']
  | code =>
      if isHidden c then ['\\', 'u', '\x7b'] ++ hexDigits code ++ ['\x7d'] else [c]

/-- A text between double quotes, with escapes. -/
def escaped (text : String) : String :=
  "\x22" ++ String.ofList (text.toList.flatMap escapedChar) ++ "\x22"

end Sramp.Text
