import AgentSync.Http.Form
import AgentSync.Http.Host

namespace AgentSync

/-- What follows the authority of a URL up to its query. -/
inductive UrlPath where
  /-- Text that cannot be extended. -/
  | opaqueText (text : List Char)
  /-- Segments, each written after a slash. -/
  | segments (segments : List (List Char))
  deriving DecidableEq, Repr, Inhabited

/-- A URL; the authority is the host with what may stand around it. -/
structure Url where
  scheme : List Char
  authority : Option (List Char)
  path : UrlPath
  query : Option (List Char)
  deriving DecidableEq, Repr, Inhabited

namespace Url

/-- The schemes whose URLs always have a host. -/
def webSchemes : List String := ["http", "https", "ws", "wss", "ftp"]

/-- The kinds of schemes, which differ in how their URLs are read. -/
inductive Kind where
  | web
  | file
  | other
  deriving DecidableEq, Repr

def kindOf (scheme : List Char) : Kind :=
  if (webSchemes.map String.toList).contains scheme then .web
  else if scheme = "file".toList then .file
  else .other

/-- Whether a character separates the segments of a path. -/
def isSlash (kind : Kind) (c : Char) : Bool := c == '/' || (c == '\\' && kind != .other)

def isSchemeChar (c : Char) : Bool := c.isAlphanum || c == '+' || c == '-' || c == '.'

/-- The scheme of a URL in lower case, and what follows its colon. -/
def scheme? (cs : List Char) : Option (List Char × List Char) :=
  match cs with
  | [] => none
  | c :: _ =>
    if !c.isAlpha then none
    else
      match cs.dropWhile isSchemeChar with
      | ':' :: rest => some ((cs.takeWhile isSchemeChar).map Char.toLower, rest)
      | _ => none

/-- Removes blanks and control characters around a text, and tabs and line ends inside it. -/
def clean (cs : List Char) : List Char :=
  let isEdge (c : Char) : Bool := c.toNat ≤ 0x20
  let trimmed := ((cs.dropWhile isEdge).reverse.dropWhile isEdge).reverse
  trimmed.filter fun c => !(c == '\t' || c == '\n' || c == '\r')

/-- Whether a segment stands for the segment it is in. -/
def isDot (segment : List Char) : Bool :=
  [".", "%2e"].contains (String.ofList (segment.map Char.toLower))

/-- Whether a segment stands for the one above. -/
def isDoubleDot (segment : List Char) : Bool :=
  ["..", ".%2e", "%2e.", "%2e%2e"].contains (String.ofList (segment.map Char.toLower))

/-- Adds the last segment of a path, or what it stands for. -/
def addLast (segments : List (List Char)) (segment : List Char) : List (List Char) :=
  if isDoubleDot segment then segments.dropLast ++ [[]]
  else if isDot segment then segments ++ [[]]
  else segments ++ [segment]

/-- Adds a segment that a slash follows. -/
def addInner (segments : List (List Char)) (segment : List Char) : List (List Char) :=
  if isDoubleDot segment then segments.dropLast
  else if isDot segment then segments
  else segments ++ [segment]

/-- The segments of a path, without the slash it begins with. -/
def splitPath (kind : Kind) (cs : List Char) : List (List Char) :=
  let pieces := Text.splitOn '/' (cs.map fun c => if isSlash kind c then '/' else c)
  let escaped := pieces.map (Percent.encode Percent.keepsInPath)
  addLast (escaped.dropLast.foldl addInner []) (escaped.getLast?.getD [])

/-- The path and the query of a URL; what follows `#` is left out. -/
def ofTail (kind : Kind) (scheme : List Char) (authority : Option (List Char)) (cs : List Char) :
    Url :=
  let body := cs.takeWhile (· ≠ '#')
  let pathText := body.takeWhile (· ≠ '?')
  let query :=
    match body.dropWhile (· ≠ '?') with
    | [] => none
    | _ :: rest => some (Percent.encode Percent.keepsInQuery rest)
  let segments :=
    match pathText with
    | [] => if kind = .other then [] else [[]]
    | c :: rest => splitPath kind (if isSlash kind c then rest else c :: rest)
  { scheme, authority, path := .segments segments, query }

/-- The characters of a host: up to a colon outside brackets. -/
def hostText : Bool → List Char → List Char
  | _, [] => []
  | inside, c :: rest =>
    if c = ':' ∧ !inside then []
    else if c = '[' then c :: hostText true rest
    else if c = ']' then c :: hostText false rest
    else c :: hostText inside rest

/-- Reads the number after a host, of which there may be no digit. -/
def endpoint? (digits : List Char) : Except UrlError (Option Nat) :=
  if digits.isEmpty then .ok none
  else
    match Host.numeral? 10 digits with
    | some n => if n < 65536 then .ok (some n) else .error .invalidEndpoint
    | none => .error .invalidEndpoint

/-- What stands before the last `@` of an authority, if there is one, and after it. -/
def splitCredentials (cs : List Char) : Option (List Char) × List Char :=
  if cs.contains '@' then
    let after := (cs.reverse.takeWhile (· ≠ '@')).length
    (some (cs.take (cs.length - after - 1)), cs.drop (cs.length - after))
  else (none, cs)

/-- Reads the authority of a URL: credentials, a host and a number. Answers the host with its
number, and the text after them; a backslash ends the number too. A host may be empty where there
is no number and the credentials name nobody: they are empty, and end the URL, or are a lone
colon. -/
def authority? (kind : Kind) (cs : List Char) : Except UrlError (List Char × List Char) := do
  let isEnd (c : Char) : Bool := isSlash kind c || c == '?' || c == '#'
  let text := cs.takeWhile (!isEnd ·)
  let tail := cs.drop text.length
  let (credentials, place) := splitCredentials text
  if credentials = some [] ∧ place.isEmpty ∧ !tail.isEmpty then throw .emptyHost
  let host := hostText false place
  let number := place.drop host.length
  if kind = .web ∧ host.isEmpty then throw .emptyHost
  let name ← if kind = .other then Host.ofOpaque? host else Host.ofDomain? host
  let named := !(credentials.getD []).isEmpty && credentials != some [':']
  if name.isEmpty ∧ (!number.isEmpty ∨ named) then throw .emptyHost
  let digits := (number.drop 1).takeWhile (· ≠ '\\')
  let endpoint ← endpoint? digits
  return (
    name ++ (endpoint.map fun n => ':' :: (toString n).toList).getD [],
    number.drop (digits.length + 1) ++ tail)

/-- Whether a text names a drive: a letter and a colon or a bar. -/
def isDrive : List Char → Bool
  | [letter, mark] => letter.isAlpha && (mark == ':' || mark == '|')
  | _ => false

/-- Reads the host of a file, and what follows it. A drive is no host but the first segment of the
path, and the local host is none. -/
def fileHost? (cs : List Char) : Except UrlError (List Char × List Char) := do
  let isEnd (c : Char) : Bool := isSlash .file c || c == '?' || c == '#'
  let text := cs.takeWhile (!isEnd ·)
  if text.isEmpty || isDrive text then return ([], cs)
  let name ← Host.ofDomain? text
  return (if name = "localhost".toList then [] else name, cs.drop text.length)

/-- Reads a URL from what follows the two slashes before its authority. -/
def ofAuthority? (kind : Kind) (scheme cs : List Char) : Except UrlError Url := do
  let (authority, tail) ← if kind = .file then fileHost? cs else authority? kind cs
  return ofTail kind scheme (some authority) tail

/-- Reads a URL. -/
def ofText? (text : String) : Except UrlError Url :=
  match scheme? (clean text.toList) with
  | none => .error .relative
  | some (scheme, rest) =>
    match kindOf scheme with
    | .web => ofAuthority? .web scheme (rest.dropWhile (isSlash .web))
    | .file =>
      let slashes := (rest.takeWhile (isSlash .file)).length
      if 2 ≤ slashes then ofAuthority? .file scheme (rest.drop 2)
      else .ok (ofTail .file scheme none rest)
    | .other =>
      match rest with
      | '/' :: '/' :: rest => ofAuthority? .other scheme rest
      | '/' :: _ => .ok (ofTail .other scheme none rest)
      | _ =>
        let body := rest.takeWhile (· ≠ '#')
        let query := (body.dropWhile (· ≠ '?')).drop 1
        .ok {
          scheme
          authority := none
          path := .opaqueText (body.takeWhile (· ≠ '?'))
          query := if body.contains '?' then some query else none }

/-- Whether the path is text that cannot be extended. -/
def isOpaque (url : Url) : Bool :=
  match url.path with
  | .opaqueText _ => true
  | .segments _ => false

/-- A segment as it is appended to a path: escaped, without tabs and line ends. -/
def escapeSegment (segment : List Char) : List Char :=
  Percent.encode Percent.keepsInSegment
    (segment.filter fun c => !(c == '\t' || c == '\n' || c == '\r'))

/-- Appends one segment. Dots are passed over; what becomes dots only when it is escaped stands
for the segment above or for none. -/
def appendSegment (segments : List (List Char)) (segment : List Char) : List (List Char) :=
  if segment = ['.'] ∨ segment = ['.', '.'] then segments
  else addLast segments (escapeSegment segment)

/-- Appends segments to a path; an empty last segment gives way to the first of them. -/
def append (url : Url) (segments : List String) : Url :=
  match url.path with
  | .opaqueText _ => url
  | .segments there =>
    let kept := if there.getLast? = some [] then there.dropLast else there
    { url with path := .segments ((segments.map String.toList).foldl appendSegment kept) }

/-- Appends fields to the query. -/
def withFields (url : Url) (fields : List (String × String)) : Url :=
  let text := (Form.encode fields).toList
  { url with query :=
      match url.query with
      | none | some [] => some text
      | some query => some (query ++ '&' :: text) }

/-- The path as it is sent. -/
def pathText (url : Url) : String :=
  match url.path with
  | .opaqueText text => String.ofList text
  | .segments segments => String.ofList (segments.flatMap ('/' :: ·))

/-- The query as it is sent. -/
def queryText (url : Url) : Option String := url.query.map String.ofList

end Url

end AgentSync
