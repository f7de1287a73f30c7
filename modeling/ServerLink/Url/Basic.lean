import ServerLink.Url.Host

namespace ServerLink

structure Url.Authority where
  /-- The user and the password, with the sign behind them. -/
  userinfo : List Char
  host : List Char
  port : Option Nat
  deriving DecidableEq, Repr

structure Url where
  scheme : List Char
  authority : Option Url.Authority
  path : List Char
  query : Option (List Char)
  fragment : Option (List Char)
  deriving DecidableEq, Repr

namespace Url

def Authority.write (a : Authority) : List Char :=
  '/' :: '/' :: a.userinfo ++ a.host ++
    match a.port with
    | none => []
    | some p => ':' :: Decimal.digits p

def writePart (sign : Char) : Option (List Char) → List Char
  | none => []
  | some s => sign :: s

/-- The written form of a URL. A path that starts with two slashes is set off where no authority stands
before it. -/
def write (u : Url) : List Char :=
  let front := match u.authority with
    | some a => a.write
    | none => if ['/', '/'].isPrefixOf u.path then ['/', '.'] else []
  u.scheme ++ ':' :: front ++ u.path ++ writePart '?' u.query ++ writePart '#' u.fragment

def text (u : Url) : String :=
  String.ofList u.write

/-- The ports of the special schemes; the scheme of files has none. -/
def defaultPort? (scheme : String) : Option (Option Nat) :=
  if scheme = "file" then some none
  else if scheme = "http" ∨ scheme = "ws" then some (some 80)
  else if scheme = "https" ∨ scheme = "wss" then some (some 443)
  else if scheme = "ftp" then some (some 21)
  else none

inductive Kind where
  | file
  | special (port : Option Nat)
  | other
  deriving DecidableEq, Repr

def Kind.ofScheme (scheme : List Char) : Kind :=
  match defaultPort? (String.ofList scheme) with
  | some none => .file
  | some p => .special p
  | none => .other

/-- Whether a backslash counts as a slash. -/
def Kind.isSpecial : Kind → Bool
  | .other => false
  | _ => true

def Kind.isSlash (k : Kind) (c : Char) : Bool :=
  c == '/' || (k.isSpecial && c == '\\')

def isDriveLetter : List Char → Bool
  | [a, b] => a.isAlpha && (b == ':' || b == '|')
  | _ => false

/-- Whether a segment is or holds a drive letter at its start, from which no step leads upward. -/
def isDriveRoot (s : List Char) : Bool :=
  isDriveLetter (s.take 2) && (s.length == 2 || s[2]? == some '\\')

def unescapeDots : List Char → List Char
  | '%' :: '2' :: 'e' :: s | '%' :: '2' :: 'E' :: s => '.' :: unescapeDots s
  | c :: s => c :: unescapeDots s
  | [] => []

/-- Adds a segment to the reversed segments before it. An upward step removes the segment before it,
unless that is the root of a drive, and a step in place adds nothing; either leaves an empty segment
where it is the last one. A drive letter that no segment stands before is written with a colon. -/
def addSegment (k : Kind) (last : Bool) (before : List (List Char)) (s : List Char) :
    List (List Char) :=
  let close := fun segments => if last then [] :: segments else segments
  if unescapeDots s = ['.', '.'] then
    close (match before with
      | [] => []
      | p :: rest => if isDriveRoot p then p :: rest else rest)
  else if unescapeDots s = ['.'] then close before
  else if k = .file && before.isEmpty && isDriveLetter s then [s.take 1 ++ [':']]
  else encodeText pathSet s :: before

def addSegments (k : Kind) : List (List Char) → List (List Char) → List (List Char)
  | before, [] => before
  | before, [s] => addSegment k true before s
  | before, s :: t :: rest => addSegments k (addSegment k false before s) (t :: rest)

def splitSlashes (k : Kind) (s : List Char) : List (List Char) :=
  Text.splitOn '/' (s.map fun c => if k.isSlash c then '/' else c)

/-- Segments without the empty ones at their start, apart from the last. -/
def dropEmptySegments : List (List Char) → List (List Char)
  | [] :: s :: rest => dropEmptySegments (s :: rest)
  | segments => segments

def segments (k : Kind) (s : List Char) : List (List Char) :=
  (addSegments k [] (splitSlashes k s)).reverse

def dropSlash (k : Kind) : List Char → List Char
  | [] => []
  | c :: s => if k.isSlash c then s else c :: s

def writeSegments (segments : List (List Char)) : List Char :=
  segments.flatMap ('/' :: ·)

def breakAt (stop : Char → Bool) (s : List Char) : List Char × List Char :=
  (s.takeWhile (!stop ·), s.dropWhile (!stop ·))

def tail (k : Kind) (s : List Char) : Option (List Char) × Option (List Char) :=
  let fragment := fun s : List Char => some (encodeText fragmentSet s)
  match s with
  | '#' :: s => (none, fragment s)
  | '?' :: s =>
      let (query, rest) := breakAt (· == '#') s
      let set := if k.isSpecial then specialQuerySet else querySet
      (some (encodeText set query),
        match rest with
        | _ :: s => fragment s
        | [] => none)
  | _ => (none, none)

def isTailStart (c : Char) : Bool :=
  c == '?' || c == '#'

/-- Cuts a text behind the last sign between a user and a host. -/
def splitUser (s : List Char) : Option (List Char × List Char) :=
  (Text.splitOnce '@' s.reverse).map fun p => (p.2.reverse, p.1.reverse)

/-- The written form of a user and a password. A password is set off by a colon unless it is empty. -/
def writeUser (s : List Char) : List Char :=
  let enc := encodeText userinfoSet
  match Text.splitOnce ':' s with
  | none => if s.isEmpty then [] else enc s ++ ['@']
  | some (user, password) =>
      if password.isEmpty then (if user.isEmpty then [] else enc user ++ ['@'])
      else enc user ++ ':' :: enc password ++ ['@']

/-- Cuts an authority without user at the colon before its port; colons in brackets do not count. -/
def splitPort (inside : Bool) : List Char → List Char × Option (List Char)
  | [] => ([], none)
  | c :: s =>
      if c = ':' ∧ !inside then ([], some s)
      else
        let inside := if c = '[' then true else if c = ']' then false else inside
        let (host, port) := splitPort inside s
        (c :: host, port)

/-- The port that digits denote. The default port of the scheme does not count, nor do no digits. -/
def readPort (k : Kind) (s : List Char) : Except UrlError (Option Nat) :=
  if s.all Char.isDigit && Decimal.value s < Nat.pow 2 16 then
    if s.isEmpty || k = .special (some (Decimal.value s)) then .ok none
    else .ok (some (Decimal.value s))
  else .error .malformedPort

/-- The authority that a text denotes, which may be the end of the URL, and what stands behind it: a
backslash ends a port, also where it is no slash. -/
def readAuthority (k : Kind) (atEnd : Bool) (s : List Char) :
    Except UrlError (Authority × List Char) := do
  let (user, rest) := (splitUser s).getD ([], s)
  let named := (splitUser s).isSome
  if named ∧ user.isEmpty ∧ rest.isEmpty ∧ !atEnd then throw .emptyHost
  let (hostText, portText) := splitPort false rest
  if k.isSpecial ∧ hostText.isEmpty then throw .emptyHost
  let host ← if k.isSpecial then specialHost hostText else opaqueHost hostText
  if host.isEmpty ∧ portText.isSome then throw .emptyHost
  let (digits, behind) := breakAt (· == '\\') (portText.getD [])
  let port ← readPort k digits
  if host.isEmpty ∧ !(writeUser user).isEmpty then throw .emptyHost
  return (⟨writeUser user, host, port⟩, behind)

def ofAuthority (k : Kind) (scheme s : List Char) : Except UrlError Url := do
  let (authorityText, rest) := breakAt (fun c => k.isSlash c || isTailStart c) s
  let (pathText, tailText) := breakAt isTailStart rest
  let (a, behind) ← readAuthority k rest.isEmpty authorityText
  let pathText := behind ++ pathText
  let path :=
    if pathText.isEmpty && !k.isSpecial then [] else writeSegments (segments k (dropSlash k pathText))
  let (query, fragment) := tail k tailText
  return ⟨scheme, some a, path, query, fragment⟩

/-- The URL of a file, from what stands behind the colon. The host of this machine is left out, and a
drive letter at the start of the path leaves out any host. Where two slashes stand before no host, the
path keeps the slash at its start, behind which a drive letter is not the first segment. -/
def ofFile (s : List Char) : Except UrlError Url := do
  let (body, tailText) := breakAt isTailStart s
  let (query, fragment) := tail .file tailText
  let make := fun (host path : List Char) =>
    let found := segments .file path
    let host := if found.head?.any isDriveLetter then [] else host
    let path := writeSegments (dropEmptySegments found)
    (⟨"file".toList, some ⟨[], host, none⟩, path, query, fragment⟩ : Url)
  match body with
  | a :: b :: r =>
      if Kind.file.isSlash a && Kind.file.isSlash b then
        let (hostText, path) := breakAt (Kind.file.isSlash ·) r
        if isDriveLetter hostText then return make [] r
        else if hostText.isEmpty then return make [] path
        else
          let host ← specialHost hostText
          if host = "localhost".toList then return make [] path
          else return make host (dropSlash .file path)
      else return make [] (dropSlash .file body)
  | _ => return make [] (dropSlash .file body)

def ofOther (scheme s : List Char) : Except UrlError Url :=
  match s with
  | '/' :: '/' :: r => ofAuthority .other scheme r
  | _ =>
      let (body, tailText) := breakAt isTailStart s
      let (query, fragment) := tail .other tailText
      let path := match body with
        | '/' :: path => writeSegments (segments .other path)
        | _ => encodeText controls body
      .ok ⟨scheme, none, path, query, fragment⟩

def splitScheme? (s : List Char) : Option (List Char × List Char) := do
  let (scheme, rest) ← Text.splitOnce ':' s
  let first ← scheme.head?
  if first.isAlpha && scheme.all fun c => c.isAlphanum || c == '+' || c == '-' || c == '.' then
    some (scheme.map Char.toLower, rest)
  else none

/-- A text without controls and spaces at its ends, and without tabs and line ends. -/
def clean (s : List Char) : List Char :=
  let outer : Char → Bool := (·.toNat ≤ 0x20)
  (((s.dropWhile outer).reverse.dropWhile outer).reverse).filter fun c =>
    c != '\t' && c != '\n' && c != '\r'

def parse (s : String) : Except UrlError Url :=
  match splitScheme? (clean s.toList) with
  | none => .error .noScheme
  | some (scheme, rest) =>
      match Kind.ofScheme scheme with
      | .file => ofFile rest
      | .other => ofOther scheme rest
      | k => ofAuthority k scheme (rest.dropWhile k.isSlash)

end Url

end ServerLink
