import Leaderboard.Settings.Decode
import Leaderboard.Settings.Environment
import Leaderboard.Settings.FileFormat
import Leaderboard.Settings.Validity
import Leaderboard.Web
import Leaderboard.Yaml.Writer

set_option autoImplicit false

namespace Leaderboard

structure Surroundings where
  files : Files
  environment : Settings.Environment
  configDirectory : Option String
  web : Web

namespace Settings

def usualFiles (around : Surroundings) : List String :=
  "./board.yaml" ::
    (around.configDirectory.map (fun directory => directory ++ "/board/config.yaml")).toList

def unusable (detail : String) : Failure := ⟨.config, detail⟩

def FileFault.failure (path : String) : FileFault → Failure
  | missing => unusable ("configuration file \"" ++ path ++ "\" not found")
  | unknownFormat =>
    unusable ("configuration file \"" ++ path ++ "\" is not of a registered file format")
  | unreadable => unusable ("cannot read " ++ path)
  | malformed => unusable ("cannot make sense of " ++ path)

def orFileFault {α : Type} (path : String) : Except FileFault α → Except Failure α
  | .ok value => .ok value
  | .error fault => .error (fault.failure path)

def namedFile? (around : Surroundings) (path : Option String) : Option String :=
  path.orElse (fun _ => around.environment.lookup fileVariable)

def consultedPaths (around : Surroundings) (path : Option String) : List String :=
  let paths := match namedFile? around path with
    | some named => [named]
    | none => []
  (paths ++ usualFiles around).flatMap (fun path => path :: (withExtensions path).map (·.1))

def fileLayers (around : Surroundings) (path : Option String) : Except Failure (List Layer) :=
  match namedFile? around path with
  | some named => (orFileFault named (requiredLayer around.files named)).map (fun layer => [layer])
  | none =>
    (usualFiles around).mapM (fun usual => orFileFault usual (optionalLayer around.files usual))

def ofLayers (layers : List Layer) : Except Failure Settings :=
  match ofLayer? (stack layers) with
  | some settings => .ok settings
  | none => .error (unusable "a value does not fit its setting")

def loadUnchecked (around : Surroundings) (path : Option String) : Except Failure Settings := do
  let endpoint := endpointOverride around.environment
  let stderr ← stderrOverride around.environment
  let files ← fileLayers around path
  ofLayers (default.toLayer :: files ++ [environmentLayer around.environment, endpoint, stderr])

def checked (s : Settings) : Except Failure Settings :=
  match s.check with
  | .ok () => .ok s
  | .error fault => .error fault.failure

def load (around : Surroundings) (path : Option String) : Except Failure Settings := do
  (← loadUnchecked around path).checked

def loadFile (files : Files) (path : String) : Except Failure Settings := do
  let layer ← orFileFault path (requiredLayer files path)
  (← ofLayers [default.toLayer, layer]).checked

def fileContent (s : Settings) : String := Yaml.document s.toJson

def save (s : Settings) (path : String) (files : Files) : Files :=
  files.write path (Text.encode s.fileContent)

def ofFileContent? (text : String) : Option Settings :=
  match FileFormat.yaml.layer? text with
  | some layer => ofLayer? (stack [default.toLayer, layer])
  | none => none

end Settings

end Leaderboard
