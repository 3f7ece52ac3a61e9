namespace AgentSync.Utf8

/-- Text as UTF-8 bytes. -/
def encode (cs : List Char) : List UInt8 := cs.flatMap String.utf8EncodeChar

/-- What may follow a first byte: the bounds of each further byte, and the first bits of the
character. -/
def sequence? (first : Nat) : Option (List (Nat × Nat) × Nat) :=
  let tail : Nat × Nat := (0x80, 0xBF)
  if first < 0x80 then some ([], first)
  else if first < 0xC2 then none
  else if first < 0xE0 then some ([tail], first - 0xC0)
  else if first = 0xE0 then some ([(0xA0, 0xBF), tail], 0)
  else if first = 0xED then some ([(0x80, 0x9F), tail], 0xD)
  else if first < 0xF0 then some ([tail, tail], first - 0xE0)
  else if first = 0xF0 then some ([(0x90, 0xBF), tail, tail], 0)
  else if first < 0xF4 then some ([tail, tail, tail], first - 0xF0)
  else if first = 0xF4 then some ([(0x80, 0x8F), tail, tail], 4)
  else none

/-- Reads the further bytes of a character as far as they fit. -/
def follow : List (Nat × Nat) → Nat → List UInt8 → Option Nat × List UInt8
  | [], value, bytes => (some value, bytes)
  | _ :: _, _, [] => (none, [])
  | (low, high) :: bounds, value, byte :: rest =>
    if low ≤ byte.toNat ∧ byte.toNat ≤ high then
      follow bounds (value * 64 + (byte.toNat - 0x80)) rest
    else (none, byte :: rest)

/-- The first character of some bytes, if they form one, and the bytes after it. -/
def next (first : UInt8) (rest : List UInt8) : Option Char × List UInt8 :=
  match sequence? first.toNat with
  | none => (none, rest)
  | some (bounds, value) =>
    match follow bounds value rest with
    | (some code, rest) => (some (Char.ofNat code), rest)
    | (none, rest) => (none, rest)

/-- The characters of some bytes, with nothing for bytes that form none. At most `count` are
read. -/
def pieces : Nat → List UInt8 → List (Option Char)
  | 0, _ => []
  | _ + 1, [] => []
  | count + 1, first :: rest =>
    let (c, rest) := next first rest
    c :: pieces count rest

/-- The characters of some bytes, if all of them form characters. -/
def decode? (bytes : List UInt8) : Option (List Char) := (pieces bytes.length bytes).mapM id

def replacement : Char := '\ufffd'

/-- The characters of some bytes. Bytes that form none are read as replacement characters, one for
each longest start of a character. -/
def decodeLossy (bytes : List UInt8) : List Char :=
  (pieces bytes.length bytes).map (·.getD replacement)

end AgentSync.Utf8
