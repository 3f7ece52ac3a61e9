import AgentSync.Text.Hex
import AgentSync.Text.Utf8

namespace AgentSync.Percent

/-- Upper-case hexadecimal digits. -/
def hexDigit (n : Nat) : Char := if n < 10 then Char.ofNat (48 + n) else Char.ofNat (55 + n)

/-- A byte as a percent sign and two digits. -/
def escape (byte : UInt8) : List Char :=
  ['%', hexDigit (byte.toNat / 16), hexDigit (byte.toNat % 16)]

def escapeChar (c : Char) : List Char := (String.utf8EncodeChar c).flatMap escape

/-- Escapes every character that is not ASCII or not kept. -/
def encode (keep : Char → Bool) (cs : List Char) : List Char :=
  cs.flatMap fun c => if c.toNat < 0x80 && keep c then [c] else escapeChar c

/-- Printable ASCII characters without those of a list. -/
def printableBut (excluded : String) (c : Char) : Bool :=
  0x20 ≤ c.toNat && c.toNat < 0x7F && !excluded.toList.contains c

/-- What is kept in a path. -/
def keepsInPath : Char → Bool := printableBut " \"<>`#?\x7b\x7d"

/-- What is kept in one segment of a path. -/
def keepsInSegment : Char → Bool := printableBut " \"<>`#?\x7b\x7d/%\\"

/-- What is kept in a query. -/
def keepsInQuery : Char → Bool := printableBut " \"#<>'"

/-- The bytes that an escaped text stands for. A percent sign without two digits stands for
itself. -/
def decodeBytes : List Char → List UInt8
  | [] => []
  | '%' :: high :: low :: rest =>
    match Text.hexValue? high, Text.hexValue? low with
    | some h, some l => UInt8.ofNat (h * 16 + l) :: decodeBytes rest
    | _, _ => String.utf8EncodeChar '%' ++ decodeBytes (high :: low :: rest)
  | c :: rest => String.utf8EncodeChar c ++ decodeBytes rest

/-- The text that an escaped text stands for, if its bytes form characters. -/
def decode? (cs : List Char) : Option (List Char) := Utf8.decode? (decodeBytes cs)

end AgentSync.Percent
