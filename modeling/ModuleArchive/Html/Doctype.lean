import ModuleArchive.Html.Token
import ModuleArchive.Text.Split

/-!
# Old document types

A page without a document type, or with one that old pages use, is laid out by old rules; as
far as the tree is concerned, a table then does not end a paragraph.
-/
namespace ModuleArchive.Html

/-- The names in the path of the system identifier of an old document type. -/
def oldSystemNames : List (List Char) :=
  ["http:".toList, [], "www.ibm.com".toList, "data".toList, "dtd".toList, "v11".toList,
    "ibmxhtml1-transitional.dtd".toList]

/-- Public identifiers of old document types, up to their last part. -/
def oldPublicPrefixes : List String :=
  ["-//advasoft ltd//dtd html 3.0 aswedit + extensions//",
    "-//as//dtd html 3.0 aswedit + extensions//", "-//ietf//dtd html 2.0 level 1//",
    "-//ietf//dtd html 2.0 level 2//", "-//ietf//dtd html 2.0 strict level 1//",
    "-//ietf//dtd html 2.0 strict level 2//", "-//ietf//dtd html 2.0 strict//",
    "-//ietf//dtd html 2.0//", "-//ietf//dtd html 2.1e//", "-//ietf//dtd html 3.0//",
    "-//ietf//dtd html 3.2 final//", "-//ietf//dtd html 3.2//", "-//ietf//dtd html 3//",
    "-//ietf//dtd html level 0//", "-//ietf//dtd html level 1//", "-//ietf//dtd html level 2//",
    "-//ietf//dtd html level 3//", "-//ietf//dtd html strict level 0//",
    "-//ietf//dtd html strict level 1//", "-//ietf//dtd html strict level 2//",
    "-//ietf//dtd html strict level 3//", "-//ietf//dtd html strict//", "-//ietf//dtd html//",
    "-//metrius//dtd metrius presentational//",
    "-//microsoft//dtd internet explorer 2.0 html strict//",
    "-//microsoft//dtd internet explorer 2.0 html//",
    "-//microsoft//dtd internet explorer 2.0 tables//",
    "-//microsoft//dtd internet explorer 3.0 html strict//",
    "-//microsoft//dtd internet explorer 3.0 html//",
    "-//microsoft//dtd internet explorer 3.0 tables//", "-//netscape comm. corp.//dtd html//",
    "-//netscape comm. corp.//dtd strict html//", "-//o'reilly and associates//dtd html 2.0//",
    "-//o'reilly and associates//dtd html extended 1.0//",
    "-//o'reilly and associates//dtd html extended relaxed 1.0//",
    "-//softquad software//dtd hotmetal pro 6.0::19990601::extensions to html 4.0//",
    "-//softquad//dtd hotmetal pro 4.0::19971010::extensions to html 4.0//",
    "-//spyglass//dtd html 2.0 extended//", "-//sq//dtd html 2.0 hotmetal + extensions//",
    "-//sun microsystems corp.//dtd hotjava html//",
    "-//sun microsystems corp.//dtd hotjava strict html//", "-//w3c//dtd html 3 1995-03-24//",
    "-//w3c//dtd html 3.2 draft//", "-//w3c//dtd html 3.2 final//", "-//w3c//dtd html 3.2//",
    "-//w3c//dtd html 3.2s draft//", "-//w3c//dtd html 4.0 frameset//",
    "-//w3c//dtd html 4.0 transitional//", "-//w3c//dtd html experimental 19960712//",
    "-//w3c//dtd html experimental 970421//", "-//w3c//dtd w3 html//", "-//w3o//dtd w3 html 3.0//",
    "-//webtechs//dtd mozilla html 2.0//", "-//webtechs//dtd mozilla html//"]

/-- Whether a page with this document type is laid out by the old rules. -/
def Doctype.isOld (d : Doctype) : Bool :=
  let lower (text : Option (List Char)) := text.map (·.map Char.toLower)
  let publicId := lower d.publicId
  let startsWith (p : String) := match publicId with
    | some text => p.toList.isPrefixOf text
    | none => false
  d.isBroken || d.name != some "html".toList ||
    publicId == some "-//w3o//dtd w3 html strict 3.0//en//".toList ||
    publicId == some "-/w3c/dtd html 4.0 transitional/en".toList ||
    publicId == some "html".toList ||
    (lower d.systemId).map (Text.splitOn '/') == some oldSystemNames ||
    oldPublicPrefixes.any startsWith ||
    (d.systemId.isNone &&
      (startsWith "-//w3c//dtd html 4.01 frameset//" ||
        startsWith "-//w3c//dtd html 4.01 transitional//"))

end ModuleArchive.Html
