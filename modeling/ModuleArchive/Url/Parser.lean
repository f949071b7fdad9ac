import ModuleArchive.Url.Host
import ModuleArchive.Text.Classes

/-!
# Reading URLs

A URL is read on its own or relative to a base. Spaces and controls around it and line
breaks and tabs inside it do not count. Schemes with rules of their own also take a
backslash for a slash, need a host, and resolve the dots of a path; each part is escaped as
far as it has to be.
-/
namespace ModuleArchive.Url

/-! ### Characters that are escaped -/

def escapeFragment (c : Char) : Bool :=
  Percent.isControl c || c == ' ' || c == '"' || c == '<' || c == '>' || c == '`'

def escapeQuery (special : Bool) (c : Char) : Bool :=
  Percent.isControl c || c == ' ' || c == '"' || c == '#' || c == '<' || c == '>' ||
    (special && c == '\'')

def escapePath (c : Char) : Bool :=
  escapeFragment c || c == '#' || c == '?' || c == '\x7b' || c == '\x7d'

/-- Escaped in a path segment that is given by itself. -/
def escapeSegment (special : Bool) (c : Char) : Bool :=
  escapePath c || c == '/' || c == '%' || (special && c == '\\')

/-- Escaped in user names and passwords. -/
def escapeUserinfo (c : Char) : Bool :=
  escapePath c || c == '/' || c == ':' || c == ';' || c == '=' || c == '@' || c == '[' ||
    c == '\\' || c == ']' || c == '^' || c == '|'

/-! ### Paths -/

/-- Whether a segment means the place it is in. -/
def isSingleDot (segment : List Char) : Bool :=
  let lower := segment.map Char.toLower
  lower == ".".toList || lower == "%2e".toList

/-- Whether a segment means the place above. -/
def isDoubleDot (segment : List Char) : Bool :=
  let lower := segment.map Char.toLower
  lower == "..".toList || lower == ".%2e".toList || lower == "%2e.".toList ||
    lower == "%2e%2e".toList

/-- Whether a text is a letter with a colon or a bar. -/
def isDriveLetter : List Char → Bool
  | [c, d] => c.isAlpha && (d == ':' || d == '|')
  | _ => false

/-- Whether a text is a letter with a colon. -/
def isNormalDriveLetter : List Char → Bool
  | [c, ':'] => c.isAlpha
  | _ => false

/-- Whether a text starts with a drive letter that is a segment by itself. -/
def startsWithDriveLetter : List Char → Bool
  | [c, d] => isDriveLetter [c, d]
  | c :: d :: e :: _ => isDriveLetter [c, d] && (e == '/' || e == '\\' || e == '?' || e == '#')
  | _ => false

/-- A path without its last segment. The drive letter of a local file stays. -/
def shorten (scheme : List Char) (path : List (List Char)) : List (List Char) :=
  match path with
  | [only] => if scheme = fileScheme && isNormalDriveLetter only then path else []
  | _ => path.dropLast

/-- The path after one more raw segment, which may be the last one of the text. -/
def pushSegment (scheme : List Char) (path : List (List Char)) (raw : List Char)
    (isLast : Bool) : List (List Char) :=
  let segment := Percent.encode escapePath raw
  if isDoubleDot segment then
    let path := shorten scheme path
    if isLast then path ++ [[]] else path
  else if isSingleDot segment then
    if isLast then path ++ [[]] else path
  else if scheme = fileScheme && path.isEmpty && isDriveLetter segment then
    path ++ [[segment.headD 'C', ':']]
  else path ++ [segment]

/-- The path after some raw segments. -/
def pushSegments (scheme : List Char) : List (List Char) → List (List Char) → List (List Char)
  | path, [] => path
  | path, [raw] => pushSegment scheme path raw true
  | path, raw :: rest => pushSegments scheme (pushSegment scheme path raw false) rest

/-- A slash, or what a scheme takes for one. -/
def isSlash (special : Bool) (c : Char) : Bool := c == '/' || (special && c == '\\')

def rawSegments (special : Bool) (text : List Char) : List (List Char) :=
  Text.splitOn '/' (text.map fun c => if isSlash special c then '/' else c)

def endsPath (c : Char) : Bool := c == '?' || c == '#'

/-- Add the query and the fragment that `rest` starts with. -/
def withQueryAndFragment (u : Url) (rest : List Char) : Url :=
  let fragment (rest : List Char) := match rest with
    | '#' :: text => some (Percent.encode escapeFragment text)
    | _ => none
  match rest with
  | '?' :: text =>
    let query := Percent.encode (escapeQuery u.isSpecial) (text.takeWhile (· != '#'))
    { u with query := some query, fragment := fragment (text.dropWhile (· != '#')) }
  | _ => { u with query := none, fragment := fragment rest }

/-- Add the path, the query and the fragment of `rest`, the path continuing `start`. -/
def withPath (u : Url) (start : List (List Char)) (rest : List Char) : Url :=
  let path := rest.takeWhile (!endsPath ·)
  let u := { u with
    path := .segments (pushSegments u.scheme start (rawSegments u.isSpecial path)) }
  withQueryAndFragment u (rest.dropWhile (!endsPath ·))

/-- Add the path, the query and the fragment behind an authority. -/
def withPathStart (u : Url) (rest : List Char) : Url :=
  match rest with
  | [] => if u.isSpecial then withPath u [] [] else withQueryAndFragment u []
  | c :: tail =>
    if isSlash u.isSpecial c then withPath u [] tail
    else if u.isSpecial then withPath u [] rest
    else if endsPath c then withQueryAndFragment u rest
    else withPath u [] rest

/-! ### Authorities -/

/-- The text before and after the last `@`. -/
def splitLastAt? (text : List Char) : Option (List Char × List Char) :=
  let tail := text.reverse.takeWhile (· != '@')
  match text.reverse.dropWhile (· != '@') with
  | [] => none
  | _ :: before => some (before.reverse, tail.reverse)

/-- The host and the port of an authority: the port is behind the first colon that is not in
brackets. -/
def splitPort (inBrackets : Bool) : List Char → List Char × Option (List Char)
  | [] => ([], none)
  | c :: rest =>
    if c = ':' && !inBrackets then ([], some rest)
    else
      let inside := if c = '[' then true else if c = ']' then false else inBrackets
      let (host, port) := splitPort inside rest
      (c :: host, port)

/-- The port of a text, if it is not the one that the scheme implies. -/
def readPort? (scheme : List Char) : Option (List Char) → Option (Option Nat)
  | none | some [] => some none
  | some digits =>
    match Decimal.read? digits with
    | none => none
    | some n =>
      if 65535 < n then none
      else if defaultPort? scheme = some n then some none
      else some (some n)

/-- Read an authority and all that follows it. -/
def withAuthority? (u : Url) (rest : List Char) : Option Url := do
  let ends (c : Char) := isSlash u.isSpecial c || endsPath c
  let authority := rest.takeWhile (!ends ·)
  let rest := rest.dropWhile (!ends ·)
  let (credentials, address) := match splitLastAt? authority with
    | none => (none, authority)
    | some (before, after) => (some before, after)
  let (hostText, portText) := splitPort false address
  if hostText.isEmpty && (u.isSpecial || credentials.isSome || portText.isSome) then none
  else
    let host ← if hostText.isEmpty then some (Host.domain []) else readHost? u.isSpecial hostText
    let port ← readPort? u.scheme portText
    let (name, password) := match Text.splitFirst? ':' (credentials.getD []) with
      | none => (credentials.getD [], [])
      | some (name, password) => (name, password)
    some (withPathStart
      { u with
        username := Percent.encode escapeUserinfo name
        password := Percent.encode escapeUserinfo password
        host := some host, port }
      rest)

/-! ### Local files -/

/-- Read the host of a local file and all that follows it. -/
def withFileHost? (u : Url) (rest : List Char) : Option Url :=
  let ends (c : Char) := isSlash true c || endsPath c
  let text := rest.takeWhile (!ends ·)
  let tail := rest.dropWhile (!ends ·)
  if isDriveLetter text then some (withPath { u with host := some (.domain []) } [] rest)
  else if text.isEmpty then some (withPathStart { u with host := some (.domain []) } tail)
  else
    match readHost? true text with
    | none => none
    | some h =>
      let h := if h = .domain "localhost".toList then .domain [] else h
      some (withPathStart { u with host := some h } tail)

def baseSegments (base : Url) : List (List Char) :=
  match base.path with
  | .segments names => names
  | .opaqueText _ => []

/-- Read the URL of a local file behind its scheme. -/
def withFile? (u : Url) (base : Option Url) (rest : List Char) : Option Url :=
  let u := { u with host := some (.domain []) }
  let base := base.filter (·.scheme = fileScheme)
  match rest with
  | c :: d :: tail =>
    if isSlash true c then
      if isSlash true d then withFileHost? u tail
      else withFileSlash u base (d :: tail)
    else withFileRelative u base rest
  | [c] => if isSlash true c then withFileSlash u base [] else withFileRelative u base rest
  | [] => withFileRelative u base rest
where
  /-- Read what follows a single slash. -/
  withFileSlash (u : Url) (base : Option Url) (rest : List Char) : Option Url :=
    match base with
    | none => some (withPath u [] rest)
    | some b =>
      let start := match baseSegments b with
        | first :: _ =>
          if isNormalDriveLetter first && !startsWithDriveLetter rest then [first] else []
        | [] => []
      some (withPath { u with host := b.host } start rest)
  /-- Read what starts without a slash. -/
  withFileRelative (u : Url) (base : Option Url) (rest : List Char) : Option Url :=
    match base with
    | none => some (withPath u [] rest)
    | some b =>
      let u := { u with host := b.host }
      match rest with
      | [] => some { u with path := b.path, query := b.query }
      | c :: _ =>
        if c = '?' then some (withQueryAndFragment { u with path := b.path } rest)
        else if c = '#' then
          some { withQueryAndFragment { u with path := b.path } rest with query := b.query }
        else if startsWithDriveLetter rest then some (withPath u [] rest)
        else some (withPath u (shorten u.scheme (baseSegments b)) rest)

/-! ### Whole URLs -/

/-- Read what is relative to a base with the same scheme. -/
def withBase? (base : Url) (rest : List Char) : Option Url :=
  let u : Url := { scheme := base.scheme }
  let inherited : Url :=
    { u with
      username := base.username, password := base.password, host := base.host, port := base.port }
  match rest with
  | [] => some { inherited with path := base.path, query := base.query }
  | c :: tail =>
    if isSlash true c then
      match tail with
      | d :: after =>
        if c = '/' ∧ d = '/' then withAuthority? u after
        else if isSlash true d then withAuthority? u (after.dropWhile (isSlash true))
        else some (withPath inherited [] tail)
      | [] => some (withPath inherited [] tail)
    else if c = '?' then some (withQueryAndFragment { inherited with path := base.path } rest)
    else if c = '#' then
      let url := withQueryAndFragment { inherited with path := base.path } rest
      some { url with query := base.query }
    else some (withPath inherited (shorten u.scheme (baseSegments base)) rest)

/-- The scheme of a text, in lower case, and what follows it. -/
def splitScheme? (text : List Char) : Option (List Char × List Char) :=
  match Text.splitFirst? ':' text with
  | some (c :: name, rest) =>
    if c.isAlpha && name.all (fun c => c.isAlphanum || c == '+' || c == '-' || c == '.') then
      some ((c :: name).map Char.toLower, rest)
    else none
  | _ => none

/-- Read a URL whose scheme is known. -/
def withScheme? (scheme : List Char) (base : Option Url) (rest : List Char) : Option Url :=
  let u : Url := { scheme }
  if scheme = fileScheme then withFile? u base rest
  else if u.isSpecial then
    match base.filter (·.scheme = scheme), rest with
    | some _, '/' :: '/' :: tail => withAuthority? u (tail.dropWhile (isSlash true))
    | some b, _ => withBase? b rest
    | none, _ => withAuthority? u (rest.dropWhile (isSlash true))
  else
    match rest with
    | '/' :: '/' :: tail => withAuthority? u tail
    | '/' :: tail => some (withPath u [] tail)
    | _ =>
      let path := Percent.encode Percent.isControl (rest.takeWhile (!endsPath ·))
      some (withQueryAndFragment { u with path := .opaqueText path }
        (rest.dropWhile (!endsPath ·)))

def isControlOrSpace (c : Char) : Bool := c.toNat ≤ 0x20

/-- A text without what does not count in a URL. -/
def clean (text : List Char) : List Char :=
  (Text.trimRight isControlOrSpace (Text.trimLeft isControlOrSpace text)).filter
    fun c => c != '\t' && c != '\n' && c != '\r'

/-- Read a URL, relative to a base if there is one. -/
def read? (base : Option Url) (text : List Char) : Option Url :=
  let text := clean text
  match splitScheme? text, base with
  | some (scheme, rest), _ => withScheme? scheme base rest
  | none, none => none
  | none, some b =>
    if b.isOpaque then
      match text with
      | '#' :: _ => some { withQueryAndFragment b text with query := b.query }
      | _ => none
    else if b.scheme = fileScheme then withFile? { scheme := fileScheme } base text
    else withBase? b text

/-- Read a URL on its own. -/
def parse? (text : String) : Option Url := read? none text.toList

def join? (base : Url) (text : String) : Option Url := read? (some base) text.toList

/-! ### Changed paths -/

/-- The path with a name added as a segment of its own. The names `.` and `..` are left out.
Tabs and line breaks in a name do not count. -/
def addName (u : Url) (names : List (List Char)) (name : List Char) : List (List Char) :=
  if name = ['.'] ∨ name = ['.', '.'] then names
  else
    let start := if names = [[]] then [] else names
    let name := name.filter fun c => c != '\t' && c != '\n' && c != '\r'
    let segment := Percent.encode (escapeSegment u.isSpecial) name
    if isDoubleDot segment then shorten u.scheme start ++ [[]]
    else if isSingleDot segment then start ++ [[]]
    else start ++ [segment]

/-- The URL with a path of these names. A URL with an opaque path stays as it is. -/
def withNames (u : Url) (names : List (List Char)) : Url :=
  match u.path with
  | .opaqueText _ => u
  | .segments old =>
    let start := if old.isEmpty then [] else [[]]
    { u with path := .segments (names.foldl (addName u) start) }

end ModuleArchive.Url
