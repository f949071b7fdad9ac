import ModuleArchive.Config.Basic

/-!
# Directories of the platform

Where the platform wants configuration files and cached files to be: a variable of the
environment tells if its value is an absolute path, otherwise they are in the home directory.
-/
namespace ModuleArchive.Config.Platform

/-- What the directories of the program are called. -/
def programName : String := "modvfs"

/-- The directory that a variable names, or the one in the home directory that stands for it. -/
def directory? (settings : List (String × String)) (name standard : String) :
    Option String :=
  match (settings.lookup name).map String.toList with
  | some ('/' :: rest) => some (joinPath (String.ofList ('/' :: rest)) programName)
  | _ =>
    match settings.lookup "HOME" with
    | none | some "" => none
    | some home => some (joinPath (joinPath home standard) programName)

def configuration? (settings : List (String × String)) : Option String :=
  directory? settings "XDG_CONFIG_HOME" ".config"

/-- The directory of the cached files. -/
def cache? (settings : List (String × String)) : Option String :=
  directory? settings "XDG_CACHE_HOME" ".cache"

end ModuleArchive.Config.Platform
