import ModuleArchive.Location
import ModuleArchive.Text.Split
import ModuleArchive.Text.Decimal
import ModuleArchive.Text.Percent

/-!
# Identifiers

The written form of a location is `scheme:/Category/Letter/Group/file?id=42`: segments are
percent-encoded and the number of the group is a query parameter. Reading also accepts the
query directly behind the group segment, empty segments, and any case of the scheme.
-/
namespace ModuleArchive.Location

/-- What keeps an identifier from naming a location, or a location from being written. -/
inductive Fault where
  | unexpectedScheme
  | relativePath
  | notUtf8
  | tooManySegments
  | unknownCategory
  | invalidBucket
  | invalidGroupId
  | emptySegment
deriving Repr, DecidableEq

/-- The wording of a fault in `subject`: the identifier that was read, or the scheme under
which a location was to be written. -/
def Fault.message (subject : String) : Fault → String
  | unexpectedScheme => "unexpected scheme: " ++ subject
  | relativePath => "expected an absolute path: " ++ subject
  | notUtf8 => "segment is not UTF-8: " ++ subject
  | tooManySegments => "too many segments: " ++ subject
  | unknownCategory => "unknown category: " ++ subject
  | invalidBucket => "invalid bucket: " ++ subject
  | invalidGroupId => "missing or invalid group id: " ++ subject
  | emptySegment => "empty path segment under " ++ subject ++ ":"

/-- The ASCII characters that are escaped in a segment. -/
def isReserved (c : Char) : Bool :=
  Percent.isControl c || c == ' ' || c == '"' || c == '#' || c == '%' || c == '/' || c == '<' ||
    c == '>' || c == '?' || c == '`' || c == '\x7b' || c == '\x7d'

def writeSegment (name : String) : List Char := '/' :: Percent.encode isReserved name.toList

def writePath : List String → List Char
  | [] => ['/']
  | names => names.flatMap writeSegment

/-- The query that gives the number of a group. -/
def writeQuery : Option GroupRef → List Char
  | none => []
  | some r => "?id=".toList ++ Decimal.digits r.id.toNat

/-- The identifier of a location. A location with an empty name has none. -/
def encode (scheme : String) (l : Location) : Except Fault String :=
  if l.segments.any (·.isEmpty) then .error .emptySegment
  else
    .ok (String.ofList (scheme.toList ++ ':' :: (writePath l.segments ++ writeQuery l.groupRef?)))

/-- Whether two texts differ at most in the case of ASCII letters. -/
def sameIgnoringCase (a b : List Char) : Bool := a.map Char.toLower == b.map Char.toLower

/-- What follows the scheme of an identifier, if the scheme is the given one. -/
def dropScheme? (scheme identifier : List Char) : Option (List Char) :=
  match Text.splitFirst? ':' identifier with
  | some (found, rest) => if sameIgnoringCase found scheme then some rest else none
  | none => none

/-- The path and the query of an identifier. The query ends at the next slash; what follows
is path again. -/
def splitQuery (rest : List Char) : List Char × Option (List Char) :=
  match Text.splitFirst? '?' rest with
  | none => (rest, none)
  | some (path, after) =>
    match Text.splitFirst? '/' after with
    | some (query, tail) => (path ++ '/' :: tail, some query)
    | none => (path, some after)

/-- The value of the first `id` parameter of a query. -/
def idParameter? (query : List Char) : Option (List Char) :=
  (((Text.splitOn '&' query).filterMap (Text.splitFirst? '=')).find? (·.1 == ['i', 'd'])).map (·.2)

/-- A group number in its canonical decimal form. -/
def readGroupId? (text : List Char) : Option UInt32 :=
  if Decimal.isCanonical text && Decimal.value 0 text < UInt32.size then
    some (UInt32.ofNat (Decimal.value 0 text))
  else none

/-- The group number that a query gives. -/
def queryId? (query : Option (List Char)) : Option UInt32 :=
  query.bind idParameter? |>.bind readGroupId?

/-- The name that a raw segment stands for. -/
def readSegment? (raw : List Char) : Option String :=
  (Utf8.decode? (Percent.decodeText raw)).map String.ofList

/-- The names that the non-empty segments of a path stand for. -/
def readSegments? (path : List Char) : Option (List String) :=
  ((Text.splitOn '/' path).filter (!·.isEmpty)).mapM readSegment?

/-- The location with these names on its path and this query. -/
def ofSegments (query : Option (List Char)) : List String → Except Fault Location
  | [] => .ok root
  | head :: names =>
    match Grouping.ofPath? head with
    | none => .error .unknownCategory
    | some g =>
      match names with
      | [] => .ok (.category g)
      | letter :: names =>
        match Bucket.ofText? letter.toList with
        | none => .error .invalidBucket
        | some b =>
          match names with
          | [] => .ok (.bucket g b)
          | name :: names =>
            match queryId? query with
            | none => .error .invalidGroupId
            | some id =>
              match names with
              | [] => .ok (.group g b ⟨id, name⟩)
              | filename :: _ => .ok (.track g b ⟨id, name⟩ filename)

/-- How many segments a path may have. -/
def maxDepth : Nat := 4

/-- The location that an identifier names. -/
def decode (scheme identifier : String) : Except Fault Location :=
  match dropScheme? scheme.toList identifier.toList with
  | none => .error .unexpectedScheme
  | some rest =>
    if rest.head? ≠ some '/' then .error .relativePath
    else
      let (path, query) := splitQuery rest
      match readSegments? path with
      | none => .error .notUtf8
      | some names =>
        if maxDepth < names.length then .error .tooManySegments else ofSegments query names

end ModuleArchive.Location
