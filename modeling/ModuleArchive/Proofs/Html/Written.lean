import ModuleArchive.Html.Document

/-!
# Pages as they are written

A tree is written element by element, each with a start and an end tag. The characters that mean
something in markup are written as references, in text and in the values of attributes alike.
-/
namespace ModuleArchive.Html

def writeChar : Char → List Char
  | '&' => "&amp;".toList
  | '<' => "&lt;".toList
  | '>' => "&gt;".toList
  | '"' => "&quot;".toList
  | c => [c]

def writeText (text : List Char) : List Char := text.flatMap writeChar

def writeAttribute (a : String × List Char) : List Char :=
  ' ' :: a.1.toList ++ "=\"".toList ++ writeText a.2 ++ ['"']

def writeStart (name : String) (attributes : Attributes) : List Char :=
  '<' :: name.toList ++ attributes.flatMap writeAttribute ++ ['>']

def writeEnd (name : String) : List Char := "</".toList ++ name.toList ++ ['>']

namespace Node

mutual

/-- A tree as it is written. -/
def write : Node → List Char
  | text chars => writeText chars
  | comment chars => "<!--".toList ++ chars ++ "-->".toList
  | element _ name attributes children =>
    writeStart name attributes ++ writeAll children ++ writeEnd name

def writeAll : List Node → List Char
  | [] => []
  | node :: rest => write node ++ writeAll rest

end

abbrev html (name : String) (attributes : Attributes) (children : List Node) : Node :=
  .element .html name attributes children

/-- The node that a text is in, if there is any. -/
def texts (chars : List Char) : List Node := if chars.isEmpty then [] else [.text chars]

end Node

end ModuleArchive.Html
