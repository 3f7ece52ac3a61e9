import AgentSync.Json.Basic

namespace AgentSync

namespace Writer

def hexDigit (n : Nat) : Char := (Nat.digitChar n)

/-- The written form of one character of a text. -/
def escape (c : Char) : List Char :=
  if c = '"' then ['\\', '"']
  else if c = '\\' then ['\\', '\\']
  else if c = '\x08' then ['\\', 'b']
  else if c = '\x0c' then ['\\', 'f']
  else if c = '\n' then ['\\', 'n']
  else if c = '\r' then ['\\', 'r']
  else if c = '\t' then ['\\', 't']
  else if c.toNat < 0x20 then
    ['\\', 'u', '0', '0', hexDigit (c.toNat / 16), hexDigit (c.toNat % 16)]
  else [c]

def quoted (text : String) : List Char := '"' :: text.toList.flatMap escape ++ ['"']

def number : Number → List Char
  | .int n => (toString n).toList
  | .real x => x.text.toList

mutual

def value : Json → List Char
  | .null => "null".toList
  | .bool true => "true".toList
  | .bool false => "false".toList
  | .num n => number n
  | .str s => quoted s
  | .arr [] => ['[', ']']
  | .arr (item :: rest) => '[' :: value item ++ moreItems rest
  | .obj [] => ['{', '}']
  | .obj ((key, item) :: rest) => '{' :: quoted key ++ ':' :: value item ++ moreEntries rest

/-- The items after the first one, and the closing bracket. -/
def moreItems : List Json → List Char
  | [] => [']']
  | item :: rest => ',' :: value item ++ moreItems rest

/-- The entries after the first one, and the closing brace. -/
def moreEntries : List (String × Json) → List Char
  | [] => ['}']
  | (key, item) :: rest => ',' :: quoted key ++ ':' :: value item ++ moreEntries rest

end

end Writer

/-- Compact text of a value: no blanks, entries in the order of the value, and only quotes,
backslashes and control characters escaped. -/
def Json.text (value : Json) : String := String.ofList (Writer.value value)

end AgentSync
