import AgentSync.Domain.Mapping
import AgentSync.Domain.Punycode
import AgentSync.Text.Bidi
import AgentSync.Text.Composition
import AgentSync.Text.Joining

namespace AgentSync.Domain

open Text

/-- A label of a domain name, which stands between two of its dots. -/
structure Label where
  /-- The characters that it stands for. -/
  text : List Char
  /-- Its form in ASCII. -/
  ascii : List Char

namespace Label

/-- ASCII characters that no domain has. -/
def isForbidden (c : Char) : Bool :=
  c.toNat ≤ 0x20 || c.toNat == 0x7F || "#%/:<>?@[\\]^|".toList.contains c

/-- The lead of a label that is written in Punycode. -/
def lead : List Char := "xn--".toList

/-- The zero width non-joiner, which keeps letters from connecting. -/
def nonJoiner : Char := '\u200c'

/-- The zero width joiner, which makes letters connect. -/
def joiner : Char := '\u200d'

/-- Whether the next letter connects in one of some ways. -/
def connects (types : List JoiningType) (cs : List Char) : Bool :=
  ((cs.map joiningType).dropWhile (· = .transparent)).head?.any types.contains

/-- Whether a joiner may stand between two texts, of which the one before it is read backwards. It
may follow a virama; a non-joiner may also part two letters that would connect. -/
def joinerFits (c : Char) (before after : List Char) : Bool :=
  before.head?.any isVirama ||
    (c == nonJoiner && connects [.left, .dual] before && connects [.right, .dual] after)

/-- Whether every joiner of a text may stand where it does, after what is read backwards. -/
def joinersFit (before : List Char) : List Char → Bool
  | [] => true
  | c :: rest =>
    (!(c == nonJoiner || c == joiner) || joinerFits c before rest) && joinersFit (c :: before) rest

/-- Whether a text reads in one direction from its first letter to its last. -/
def readsOneWay : List Char → Bool
  | [] => true
  | first :: rest =>
    let neutral : List BidiClass := [.en, .es, .cs, .et, .on, .bn, .nsm]
    let leftward : List BidiClass := [.r, .al, .an]
    match bidiClass first, (rest.map bidiClass).reverse.dropWhile (· = .nsm) with
    | .l, [] | .r, [] | .al, [] => true
    | .l, last :: middle => [.l, .en].contains last && middle.all (.l :: neutral).contains
    | .r, last :: middle | .al, last :: middle =>
      (.en :: leftward).contains last && middle.all (leftward ++ neutral).contains &&
        !((last :: middle).contains .en && (last :: middle).contains .an)
    | _, _ => false

/-- Whether a text that has been mapped is a label. -/
def isValid (text : List Char) : Bool :=
  !text.any isForbidden && !text.head?.any isMark && joinersFit [] text

/-- The text that stands in Punycode after the lead of a label. It has no dots and needs no
mapping. -/
def decode? (code : List Char) : Option (List Char) := do
  if code.length ≤ 2000 ∧ code.getLast?.any (· ≠ '-') ∧ code.all Punycode.isAscii then
    let text ← Punycode.decode? code
    if text.all isStable && !text.contains '.' && compose text == text then some text else none
  else none

/-- Reads a label that has been mapped. -/
def ofMapped? (text : List Char) : Option Label := do
  if text.take 4 = lead then
    let decoded ← decode? (text.drop 4)
    if isValid decoded then some ⟨decoded, text⟩ else none
  else if !isValid text then none
  else if text.all Punycode.isAscii then some ⟨text, text⟩
  else if text.length ≤ 1000 then some ⟨text, lead ++ Punycode.encode text⟩
  else none

end Label

end AgentSync.Domain
