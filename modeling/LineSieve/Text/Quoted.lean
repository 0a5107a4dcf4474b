import LineSieve.Unicode.Property

/-!
# Quoted text

A text in double quotes, on one line and printable. The quote, the backslash, tab, line feed,
carriage return and NUL have escapes of one letter; other characters without a visible form, and
characters that would attach to the one before them, are written by number. A single quote stands
for itself.
-/

namespace LineSieve.Text

/-- Lower-case hexadecimal digits, without leading zeros. -/
def hexDigits (n : Nat) : List Char := Nat.toDigits 16 n

/-- The character is written by number. -/
def isHidden (c : Char) : Bool :=
  if c.toNat < 128 then c.toNat < 32 || c.toNat = 127
  else Unicode.unprintable.contains c || Unicode.graphemeExtend.contains c

def quoteChar (c : Char) : List Char :=
  match c with
  | '"' => ['\\', '"']
  | '\\' => ['\\', '\\']
  | '\n' => ['\\', 'n']
  | '\r' => ['\\', 'r']
  | '\t' => ['\\', 't']
  | '\x00' => ['\\', '0']
  | c => if isHidden c then ['\\', 'u', '\x7b'] ++ hexDigits c.toNat ++ ['\x7d'] else [c]

def quote (s : String) : String :=
  String.ofList ('"' :: (s.toList.flatMap quoteChar ++ ['"']))

end LineSieve.Text
