import ModuleArchive.Config.Inline

/-!
# Settings from the environment

Environment variables whose name starts with a given one set values. The rest of the name is
a path of keys with two underscores or a point between them; neither the start nor the keys
depend on case. A variable with an empty key in its path does not count.
-/
namespace ModuleArchive.Config.Environment

/-- What the names of the variables start with. -/
def namePrefix : String := "MODVFS_"

/-- A text without a start in any case of letters. -/
def dropStart? (start text : List Char) : Option (List Char) :=
  if (text.take start.length).map Char.toLower = start.map Char.toLower then
    some (text.drop start.length)
  else none

/-- A name with a point for every two underscores. -/
def withPoints : List Char → List Char
  | '_' :: '_' :: rest => '.' :: withPoints rest
  | c :: rest => c :: withPoints rest
  | [] => []

/-- The path of keys that a variable sets, if it sets any. -/
def path? (name : String) : Option (List String) :=
  match dropStart? namePrefix.toList name.toList with
  | none => none
  | some rest =>
    let keys := Text.splitOn '.' (withPoints (rest.map Char.toLower))
    if keys.any (·.isEmpty) then none else some (keys.map String.ofList)

/-- The table that the variables set; a later variable overrides an earlier one. -/
def read (settings : List (String × String)) : Value :=
  settings.foldl (fun done (name, text) =>
    match path? name with
    | some path => done.overlay (Value.nested path (Inline.read text))
    | none => done) (.table [])

end ModuleArchive.Config.Environment
