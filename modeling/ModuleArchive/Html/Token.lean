/-!
# Tokens

What the text of a page consists of.
-/
namespace ModuleArchive.Html

/-- The names and values of the attributes of a tag. -/
abbrev Attributes := List (String × List Char)

/-- A start or end tag. -/
structure Tag where
  name : String
  attributes : Attributes := []
  selfClosing : Bool := false
deriving Repr, DecidableEq

/-- The declaration of the document type. -/
structure Doctype where
  name : Option (List Char) := none
  publicId : Option (List Char) := none
  systemId : Option (List Char) := none
  /-- Whether the declaration is broken. -/
  isBroken : Bool := false
deriving Repr, DecidableEq

/-- A token of a page. -/
inductive Token where
  | doctype (d : Doctype)
  | startTag (tag : Tag)
  | endTag (name : String)
  | comment (text : List Char)
  | char (c : Char)
  | endOfFile
deriving Repr, DecidableEq

/-- How the text behind a start tag is to be read. -/
inductive TextMode where
  /-- Text with tags. -/
  | data
  /-- Text with character references, up to the end tag of the element. -/
  | rcdata
  /-- Plain text up to the end tag of the element. -/
  | rawtext
  /-- The text of a script, in which comments may hide end tags. -/
  | script
  /-- Plain text up to the end of the page. -/
  | plaintext
deriving Repr, DecidableEq

end ModuleArchive.Html
