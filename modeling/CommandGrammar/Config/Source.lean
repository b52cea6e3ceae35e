import CommandGrammar.Config.Files
import CommandGrammar.Config.Layers

/-!
# Where a configuration comes from

Either one named file, or two layers: a global file, and over it the one in the working
directory. A layer whose file is missing is left out; a named file must be there.
-/

set_option autoImplicit false

namespace CommandGrammar

inductive Source where
  | layered (global : Option String)
  | file (path : String)
  deriving DecidableEq, Repr

namespace Source

def projectNames : List String :=
  ["cmdmatch.yml", "cmdmatch.yaml"]

def globalPath (home : String) : String :=
  joinPath home ".config/cmdmatch/cmdmatch.yml"

def ofHome (home : Option String) : Source :=
  layered ((home.filter (· ≠ "")).map globalPath)

/-- The files to read, the lowest layer first. -/
def paths (files : Files) (directory : String) : Source → List String
  | file path => [joinPath directory path]
  | layered global =>
    let exists? := fun path => (files path).isPresent
    global.toList.filter exists? ++
      ((projectNames.map (joinPath directory)).find? exists?).toList

end Source

namespace Config

def readLayer (parse : ConfigReader) (files : Files) (path : String) :
    Except ConfigFault Config := do
  let text ← (files path).text.mapError .io
  (parse text).mapError .yaml

def load (parse : ConfigReader) (files : Files) (directory : String) (source : Source) :
    Except ConfigFault Config := do
  let config ← (source.paths files directory).foldlM
    (fun config path => return config.merge (← readLayer parse files path)) empty
  config.validate
  return config

end Config

end CommandGrammar
