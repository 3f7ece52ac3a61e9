import AgentSync.Json.Literal
import AgentSync.Json.Source
import AgentSync.Text.Hex

namespace AgentSync

namespace Reader

def isBlank (c : Char) : Bool := c == ' ' || c == '\t' || c == '\n' || c == '\r'

def skipBlank : List Char → List Char
  | [] => []
  | c :: rest => if isBlank c then skipBlank rest else c :: rest

/-- A piece of a text: a character, or one half of a pair of surrogate escapes. -/
inductive Piece where
  | char (c : Char)
  | half (code : Nat)

def Piece.ofCode (code : Nat) : Piece :=
  if 0xD800 ≤ code ∧ code < 0xE000 then .half code else .char (Char.ofNat code)

/-- The character after a backslash, other than `u`. -/
def simpleEscape? : Char → Option Char
  | '"' => some '"'
  | '\\' => some '\\'
  | '/' => some '/'
  | 'b' => some '\x08'
  | 'f' => some '\x0c'
  | 'n' => some '\n'
  | 'r' => some '\r'
  | 't' => some '\t'
  | _ => none

/-- Reads a text after its opening quote. Control characters must be escaped. -/
def readPieces : List Char → Option (List Piece × List Char)
  | [] => none
  | '"' :: rest => some ([], rest)
  | '\\' :: 'u' :: a :: b :: c :: d :: rest => do
    let code ← Text.hexNumber? [a, b, c, d]
    let (pieces, left) ← readPieces rest
    return (.ofCode code :: pieces, left)
  | '\\' :: c :: rest => do
    let escaped ← simpleEscape? c
    let (pieces, left) ← readPieces rest
    return (.char escaped :: pieces, left)
  | c :: rest =>
    if c.toNat < 0x20 ∨ c = '\\' then none
    else (readPieces rest).map fun (pieces, left) => (.char c :: pieces, left)

/-- Joins surrogate halves. A half without its other half denotes nothing. -/
def joinHalves? : List Piece → Option (List Char)
  | [] => some []
  | .char c :: rest => (joinHalves? rest).map (c :: ·)
  | .half high :: .half low :: rest =>
    if high < 0xDC00 ∧ 0xDC00 ≤ low then
      let code := 0x10000 + (high - 0xD800) * 0x400 + (low - 0xDC00)
      (joinHalves? rest).map (Char.ofNat code :: ·)
    else none
  | .half _ :: _ => none

def readText (input : List Char) : Option (Option String × List Char) :=
  (readPieces input).map fun (pieces, left) => ((joinHalves? pieces).map String.ofList, left)

def digitValue (c : Char) : Nat := c.toNat - '0'.toNat

/-- The digits at the front, as values, and what follows them. -/
def readDigits : List Char → List Nat × List Char
  | [] => ([], [])
  | c :: rest =>
    if '0' ≤ c ∧ c ≤ '9' then
      let (digits, left) := readDigits rest
      (digitValue c :: digits, left)
    else ([], c :: rest)

/-- The whole part of a number: a zero, or digits that start with no zero. -/
def readWhole? : List Char → Option (List Nat × List Char)
  | '0' :: rest => some ([0], rest)
  | input =>
    match readDigits input with
    | ([], _) => none
    | (digits, rest) => some (digits, rest)

/-- A fraction, if a point follows. -/
def readFraction? : List Char → Option (Option (List Nat) × List Char)
  | '.' :: rest =>
    match readDigits rest with
    | ([], _) => none
    | (digits, left) => some (some digits, left)
  | input => some (none, input)

def readSign : List Char → Bool × List Char
  | '-' :: rest => (true, rest)
  | '+' :: rest => (false, rest)
  | input => (false, input)

/-- An exponent, if its mark follows. -/
def readExponent? : List Char → Option (Option (Bool × List Nat) × List Char)
  | [] => some (none, [])
  | c :: rest =>
    if c = 'e' ∨ c = 'E' then
      let (down, rest) := readSign rest
      match readDigits rest with
      | ([], _) => none
      | (digits, left) => some (some (down, digits), left)
    else some (none, c :: rest)

def readLiteral? (input : List Char) : Option (Literal × List Char) := do
  let (negative, rest) := match input with
    | '-' :: rest => (true, rest)
    | _ => (false, input)
  let (whole, rest) ← readWhole? rest
  let (fraction, rest) ← readFraction? rest
  let (exponent, rest) ← readExponent? rest
  return ({ negative, whole, fraction, exponent }, rest)

mutual

/-- Reads one value from the front of the input. -/
def readValue : Nat → List Char → Option (Source × List Char)
  | 0, _ => none
  | fuel + 1, input =>
    match skipBlank input with
    | 'n' :: 'u' :: 'l' :: 'l' :: rest => some (.null, rest)
    | 't' :: 'r' :: 'u' :: 'e' :: rest => some (.bool true, rest)
    | 'f' :: 'a' :: 'l' :: 's' :: 'e' :: rest => some (.bool false, rest)
    | '"' :: rest => (readText rest).map fun (text, left) => (.str text, left)
    | '[' :: rest =>
      match skipBlank rest with
      | ']' :: left => some (.arr [], left)
      | inside => (readItems fuel inside).map fun (items, left) => (.arr items, left)
    | '{' :: rest =>
      match skipBlank rest with
      | '}' :: left => some (.obj [], left)
      | inside => (readEntries fuel inside).map fun (entries, left) => (.obj entries, left)
    | rest => (readLiteral? rest).map fun (literal, left) => (.num literal.number?, left)

/-- Reads the items of an array that is not empty, up to its closing bracket. -/
def readItems : Nat → List Char → Option (List Source × List Char)
  | 0, _ => none
  | fuel + 1, input => do
    let (item, rest) ← readValue fuel input
    match skipBlank rest with
    | ',' :: rest =>
      let (items, left) ← readItems fuel rest
      return (item :: items, left)
    | ']' :: left => return ([item], left)
    | _ => none

/-- Reads the entries of an object that is not empty, up to its closing brace. -/
def readEntries : Nat → List Char → Option (List (Option String × Source) × List Char)
  | 0, _ => none
  | fuel + 1, input =>
    match skipBlank input with
    | '"' :: rest => do
      let (key, rest) ← readText rest
      match skipBlank rest with
      | ':' :: rest =>
        let (value, rest) ← readValue fuel rest
        match skipBlank rest with
        | ',' :: rest =>
          let (entries, left) ← readEntries fuel rest
          return ((key, value) :: entries, left)
        | '}' :: left => return ([(key, value)], left)
        | _ => none
      | _ => none
    | _ => none

end

/-- Enough turns for any text of this length: two for each character that opens or separates. -/
def turns (input : List Char) : Nat := 2 * input.length + 2

end Reader

/-- The content of a text that holds one value and blanks around it. -/
def Source.ofText? (text : String) : Option Source := do
  let input := text.toList
  let (source, rest) ← Reader.readValue (Reader.turns input) input
  if (Reader.skipBlank rest).isEmpty then some source else none

/-- The value a text denotes, if texts are embedded in one another less than `depth` deep. -/
def Json.ofTextWithin? : Nat → String → Option Json
  | 0, _ => none
  | depth + 1, text => do (← Source.ofText? text).toJsonWith? (Json.ofTextWithin? depth) Room.ofText

/-- The value a text denotes. An embedded text is shorter than the one it is in. -/
def Json.ofText? (text : String) : Option Json := Json.ofTextWithin? (text.length + 1) text

/-- The value that the content of a text denotes. -/
def Source.toJson? (room : Room) (source : Source) : Option Json :=
  source.toJsonWith? Json.ofText? room

end AgentSync
