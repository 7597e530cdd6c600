import KeywordDocs.Action
import KeywordDocs.Settings.Configuration

/-!
# Finding the configuration file

Where no file is named, the nearest `libdoc-cache.toml` counts, from the working directory upwards;
and where there is none, the one in the home directory.
-/

namespace KeywordDocs

/-- The name of a configuration file in a project. -/
def configFileName : String := "libdoc-cache.toml"

/-- The place of the user's configuration file in the home directory. -/
def homeConfig : String := ".config/libdoc-cache/config.toml"

/-- The places of configuration files, the ones that go before others first. -/
def configCandidates (home : Option Path) (start : Path) : List Path :=
  start.ancestors.map (·.join (.ofString configFileName)) ++
    (home.map (·.join (.ofString homeConfig))).toList

/-- The configuration file that counts in a directory. -/
def discoverConfig? (fs : FileSystem) (home : Option Path) (start : Path) : Option Path :=
  (configCandidates home start).find? fs.isFile

/-- Loads the configuration: from the file that is named, or from the one that is found. -/
def loadConfiguration {σ : Type} (home named : Option Path) :
    Action σ (Except Failure (Option Configuration)) := do
  let fs ← Action.files
  match named with
  | some path => return (Configuration.ofFile fs path).map some
  | none =>
    match discoverConfig? fs home fs.currentPath with
    | none => return .ok none
    | some path =>
      Action.log ⟨.debug, .configuration, "using discovered config",
        [("config", .plain path.display)]⟩
      return (Configuration.ofFile fs path).map some

/-- The settings of a run. -/
structure Settings where
  python : String
  searchPaths : List Path
  deriving DecidableEq, Repr

/-- Settings of the command line before those of the file; search paths of the file before those of
the command line. -/
def Settings.merge (python : Option String) (searchPaths : List String)
    (file : Option Configuration) : Settings :=
  let file := file.getD .default
  ⟨python.getD file.python, (file.searchPaths ++ searchPaths).map Path.ofString⟩

end KeywordDocs
