import ModuleArchive.Text.NormalForm
import ModuleArchive.Text.Split
import ModuleArchive.Url.Domain.Direction
import ModuleArchive.Url.Domain.Joining
import ModuleArchive.Url.Domain.Mapping
import ModuleArchive.Url.Domain.Punycode

/-!
# Domain names

A domain name consists of labels. Its characters are replaced by the forms that count, and
labels with characters that are not of ASCII are written in ASCII with a mark before them.
Labels that have that mark already have to be the ASCII form of a label that needs one.
-/
namespace ModuleArchive.Url.Domain

/-- The mark before labels in ASCII form. -/
def marker : List Char := "xn--".toList

/-- Whether a label without a mark before it is in its normal form, and its characters may stand
where they do. -/
def isProper (label : List Char) : Bool :=
  label.all Mapping.isValid && !marker.isPrefixOf label && Joining.check label &&
    Text.NormalForm.compose label == label

/-- The label that a label stands for, once its characters have been replaced. -/
def readLabel? (label : List Char) : Option (List Char) :=
  if marker.isPrefixOf label then
    match Punycode.decode? (label.drop marker.length) with
    | none => none
    | some decoded =>
      if decoded.all Text.isAscii || !isProper decoded then none else some decoded
  else if isProper label then some label
  else none

/-- The ASCII form of a label. -/
def writeLabel (label : List Char) : List Char :=
  if label.all Text.isAscii then label else marker ++ Punycode.encode label

/-- Whether a name needs nothing but lower case: it is of ASCII, and no label has a mark. -/
def isSimple (name : List Char) : Bool :=
  name.all Text.isAscii &&
    (Text.splitOn '.' (name.map Char.toLower)).all fun label => !marker.isPrefixOf label

def toAscii? (name : List Char) : Option (List Char) :=
  if isSimple name then some (name.map Char.toLower)
  else do
    let mapped ← Mapping.map? name
    let labels ← (Text.splitOn '.' (Text.NormalForm.compose mapped)).mapM readLabel?
    if Direction.check labels then some (Text.joinWith '.' (labels.map writeLabel)) else none

end ModuleArchive.Url.Domain
