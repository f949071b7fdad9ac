import ModuleArchive.Config.Toml.Scalar
import ModuleArchive.Config.Toml.Tables

/-!
# TOML

Reading a document in TOML: lines that assign values to keys, and headers that say which
table the keys belong to.
-/
namespace ModuleArchive.Config.Toml

/-- How deep lists and tables between braces may be nested. -/
def maxDepth : Nat := 79

/-- What follows blanks and a comment. -/
def dropComment? (text : List Char) : Option (List Char) :=
  match text.dropWhile isBlank with
  | '#' :: rest =>
    match rest.dropWhile isPlain with
    | [] => some []
    | rest => if (dropBreak? rest).isSome then some rest else none
  | rest => some rest

/-- What follows blanks, comments and line breaks; `fuel` is more than the length of the
text. -/
def dropFiller? : Nat → List Char → Option (List Char)
  | 0, _ => none
  | fuel + 1, text =>
    match dropComment? text with
    | none => none
    | some rest =>
      match dropBreak? rest with
      | some rest => dropFiller? fuel rest
      | none => some rest

mutual

/-- Read a value; `fuel` is more than twice the length of the text. -/
def readValue? : Nat → Nat → List Char → Option (Value × List Char)
  | 0, _, _ => none
  | fuel + 1, depth, text =>
    match text with
    | '"' :: rest => (readText? '"' rest).map fun (s, rest) => (.text s, rest)
    | '\'' :: rest => (readText? '\'' rest).map fun (s, rest) => (.text s, rest)
    | '[' :: rest =>
      if depth = 0 then none
      else (readItems? fuel (depth - 1) [] rest).map fun (v, rest) => (.list v, rest)
    | '\x7b' :: rest =>
      if depth = 0 then none
      else
        match rest.dropWhile isBlank with
        | '\x7d' :: rest => some (.table [], rest)
        | rest =>
          (readPairs? fuel (depth - 1) [] rest).map fun (v, rest) =>
            (.table (entriesValues v), rest)
    | _ => readBare? text

/-- Read the items of a list up to its end. A comma may stand behind the last one. -/
def readItems? : Nat → Nat → List Value → List Char → Option (List Value × List Char)
  | 0, _, _, _ => none
  | fuel + 1, depth, done, text =>
    match dropFiller? (text.length + 1) text with
    | none => none
    | some (']' :: rest) => some (done.reverse, rest)
    | some text =>
      match readValue? fuel depth text with
      | none => none
      | some (v, rest) =>
        match dropFiller? (rest.length + 1) rest with
        | some (',' :: rest) => readItems? fuel depth (v :: done) rest
        | some (']' :: rest) => some ((v :: done).reverse, rest)
        | _ => none

/-- Read the pairs of a table between braces up to its end. -/
def readPairs? : Nat → Nat → Entries → List Char → Option (Entries × List Char)
  | 0, _, _, _ => none
  | fuel + 1, depth, done, text =>
    match readKey? (text.length + 1) text with
    | some (path, name, '=' :: rest) =>
      match readValue? fuel depth (rest.dropWhile isBlank) with
      | none => none
      | some (v, rest) =>
        match done.addValue path name v, rest.dropWhile isBlank with
        | some done, ',' :: rest => readPairs? fuel depth done rest
        | some done, '\x7d' :: rest => some (done, rest)
        | _, _ => none
    | _ => none

end

/-- A document as far as it has been read: its tables, and the header that is in force. -/
structure Document where
  entries : Entries := []
  header : List String := []

namespace Document

/-- Read a header behind its first bracket. -/
def readHeader? (d : Document) (text : List Char) : Option (Document × List Char) :=
  match text with
  | '[' :: text =>
    match readKey? (text.length + 1) text with
    | some (path, name, ']' :: ']' :: rest) =>
      (d.entries.defineNext path name).map fun entries => (⟨entries, path ++ [name]⟩, rest)
    | _ => none
  | _ =>
    match readKey? (text.length + 1) text with
    | some (path, name, ']' :: rest) =>
      (d.entries.define path name).map fun entries => (⟨entries, path ++ [name]⟩, rest)
    | _ => none

def readAssignment? (d : Document) (text : List Char) : Option (Document × List Char) :=
  match readKey? (text.length + 1) text with
  | some (path, name, '=' :: rest) =>
    match readValue? (2 * rest.length + 2) maxDepth (rest.dropWhile isBlank) with
    | none => none
    | some (v, rest) =>
      let changed := d.entries.change .path (fun _ => Entries.addValue path name v) d.header .header
      changed.map fun entries => ({ d with entries }, rest)
  | _ => none

/-- Read the rest of a document, line by line; `fuel` is more than its length. -/
def readRest? : Nat → Document → List Char → Option Document
  | 0, _, _ => none
  | fuel + 1, d, text =>
    match dropFiller? (text.length + 1) text with
    | none => none
    | some [] => some d
    | some ('[' :: rest) => (readHeader? d rest).bind fun (d, rest) => endLine fuel d rest
    | some text => (readAssignment? d text).bind fun (d, rest) => endLine fuel d rest
where
  /-- Go on behind the end of a line. -/
  endLine (fuel : Nat) (d : Document) (rest : List Char) : Option Document :=
    match dropComment? rest with
    | none => none
    | some [] => some d
    | some rest => (dropBreak? rest).bind fun rest => readRest? fuel d rest

end Document

/-- Read a document. A byte order mark at its start does not count. -/
def read? (text : List Char) : Option Value :=
  let text := match text with
    | '\uFEFF' :: rest => rest
    | _ => text
  (Document.readRest? (text.length + 1) {} text).map fun d => .table (entriesValues d.entries)

end ModuleArchive.Config.Toml
