import ModuleArchive.Text.Percent
import ModuleArchive.Text.Split
import ModuleArchive.Text.Decimal

/-!
# URLs

The parts of a URL and its printed form. All parts are kept percent-encoded. The path is a
list of segments, or an opaque text for schemes such as `mailto`; a URL with an opaque path
cannot be the base of another one.
-/
namespace ModuleArchive

namespace Url

/-- What a URL addresses a server by. -/
inductive Host where
  /-- A domain name in ASCII; empty for local files. -/
  | domain (name : List Char)
  | ipv4 (address : Nat)
  /-- Eight pieces of 16 bits. -/
  | ipv6 (pieces : List Nat)
  /-- A name of a scheme without rules for hosts. -/
  | opaqueName (name : List Char)
deriving Repr, DecidableEq

inductive Path where
  | opaqueText (text : List Char)
  | segments (names : List (List Char))
deriving Repr, DecidableEq

end Url

structure Url where
  scheme : List Char
  username : List Char := []
  password : List Char := []
  host : Option Url.Host := none
  port : Option Nat := none
  path : Url.Path := .segments []
  query : Option (List Char) := none
  fragment : Option (List Char) := none
deriving Repr, DecidableEq

namespace Url

/-- The port that a scheme implies, for the schemes with rules of their own. -/
def defaultPort? (scheme : List Char) : Option Nat :=
  if scheme = "http".toList ∨ scheme = "ws".toList then some 80
  else if scheme = "https".toList ∨ scheme = "wss".toList then some 443
  else if scheme = "ftp".toList then some 21
  else none

/-- The scheme of local files. -/
def fileScheme : List Char := "file".toList

/-- Whether a scheme has rules of its own for hosts, slashes and ports. -/
def isSpecialScheme (scheme : List Char) : Bool :=
  (defaultPort? scheme).isSome || scheme == fileScheme

def isSpecial (u : Url) : Bool := isSpecialScheme u.scheme

def isWeb (u : Url) : Bool := u.scheme == "http".toList || u.scheme == "https".toList

/-- Whether nothing can be relative to the URL. -/
def isOpaque (u : Url) : Bool :=
  match u.path with
  | .opaqueText _ => true
  | .segments _ => false

/-! ### Printed form -/

/-- A number in dotted form. -/
def ipv4Text (address : Nat) : List Char :=
  Text.joinWith '.' ([address / 0x1000000, address / 0x10000 % 256, address / 0x100 % 256,
    address % 256].map Decimal.digits)

/-- The length of the run of zeros at the start. -/
def zeroRun (pieces : List Nat) : Nat := (pieces.takeWhile (· == 0)).length

/-- Where the first longest run of at least two zeros starts, and its length. -/
def longestZeroRun (pieces : List Nat) : Option (Nat × Nat) :=
  (List.range pieces.length).foldl (fun best i =>
    let run := zeroRun (pieces.drop i)
    let longest := match best with
      | some (_, n) => n
      | none => 1
    if longest < run then some (i, run) else best) none

/-- Pieces in hexadecimal with colons between them. -/
def hexPieces (pieces : List Nat) : List Char := Text.joinWith ':' (pieces.map (Nat.toDigits 16))

/-- An address of eight pieces, with the longest run of zeros left out. -/
def ipv6Text (pieces : List Nat) : List Char :=
  match longestZeroRun pieces with
  | none => hexPieces pieces
  | some (start, n) =>
    hexPieces (pieces.take start) ++ [':', ':'] ++ hexPieces (pieces.drop (start + n))

/-- The printed form of a host. -/
def Host.text : Host → List Char
  | domain name => name
  | ipv4 address => ipv4Text address
  | ipv6 pieces => '[' :: (ipv6Text pieces ++ [']'])
  | opaqueName name => name

def hostText? (u : Url) : Option (List Char) :=
  match u.host with
  | none => none
  | some h => if h.text.isEmpty then none else some h.text

def pathText (u : Url) : List Char :=
  match u.path with
  | .opaqueText text => text
  | .segments names => names.flatMap ('/' :: ·)

/-- The printed form of what stands between the scheme and the path. -/
def authorityText (u : Url) : List Char :=
  match u.host with
  | none =>
    match u.path with
    | .segments ([] :: _ :: _) => ['/', '.']
    | _ => []
  | some h =>
    let password := if u.password.isEmpty then [] else ':' :: u.password
    let credentials :=
      if u.username.isEmpty && u.password.isEmpty then [] else u.username ++ password ++ ['@']
    let port := match u.port with
      | none => []
      | some n => ':' :: Decimal.digits n
    ['/', '/'] ++ credentials ++ h.text ++ port

/-- A part with the character that introduces it, if there is one. -/
def optionalPart (mark : Char) : Option (List Char) → List Char
  | none => []
  | some part => mark :: part

/-- The printed form of a URL. -/
def text (u : Url) : List Char :=
  u.scheme ++ ':' :: (u.authorityText ++ u.pathText ++ optionalPart '?' u.query ++
    optionalPart '#' u.fragment)

def print (u : Url) : String := String.ofList u.text

end Url

end ModuleArchive
