import Leaderboard.Program
import Leaderboard.Watch.Run

set_option autoImplicit false

namespace Leaderboard

open Program Report

def readError : IO.Error → ReadError
  | .inappropriateType _ code _ => if code == 20 then .notDirectory else .isDirectory
  | .permissionDenied _ _ _ => .denied
  | _ => .missing

def readPath (path : String) : IO (String × Except ReadError (List UInt8)) := do
  try
    return (path, .ok (← IO.FS.readBinFile path).toList)
  catch e =>
    return (path, .error (readError e))

def readEnvironment : IO Settings.Environment := do
  let (_, content) ← readPath "/proc/self/environ"
  match content with
  | .error _ => return []
  | .ok bytes =>
    let entries := Text.splitAll (Char.ofNat 0) (Text.decodeLenient bytes)
    return entries.filterMap (fun entry =>
      (Text.splitOnce? '=' entry).map (fun (name, value) =>
        (String.ofList name, String.ofList value)))

def configDirectoryOf (env : Settings.Environment) : Option String :=
  let home := (env.lookup "HOME").filter (fun path => !path.isEmpty)
  match env.lookup "XDG_CONFIG_HOME" with
  | some path => if path.startsWith "/" then some path else home.map (· ++ "/.config")
  | none => home.map (· ++ "/.config")

def readSurroundings (words : List String) : IO Surroundings := do
  let env ← readEnvironment
  let bare : Surroundings := ⟨.none, env, configDirectoryOf env, .offline⟩
  let paths := match CommandLine.Invocation.parse words with
    | .ok i => i.file.toList ++ Settings.consultedPaths bare i.settingsPath
    | .error _ => []
  let reads ← paths.mapM readPath
  return { bare with files := .ofReads reads }

def write (output : Output) : IO Unit := do
  let out ← IO.getStdout
  let err ← IO.getStderr
  out.putStr output.out
  out.flush
  err.putStr output.err
  err.flush

def fetchNow (source : Source) : IO Refresh.Fetched := do
  match source with
  | .file path => return source.fetch (.ofReads [← readPath path]) .offline
  | .endpoint _ _ => return source.fetch .none .offline

def pollMs : Nat := 50

def withoutBreak (line : String) : String :=
  match line.toList.reverse with
  | '\n' :: '\r' :: rest => String.ofList rest.reverse
  | '\n' :: rest => String.ofList rest.reverse
  | _ => line

partial def collectLines (typed : IO.Ref (List String)) : IO Unit := do
  let line ← (← IO.getStdin).getLine
  if line.isEmpty then return
  let text := withoutBreak line
  typed.modify (· ++ [text])
  match Watch.Input.ofLine text with
  | .quit => return
  | _ => collectLines typed

def hearAll (run : Watch.Run) (lines : List String) : Option Watch.Run :=
  lines.foldlM Watch.Run.hear run

partial def keepWatching (source : Source) (typed : IO.Ref (List String)) (run : Watch.Run) :
    IO Unit := do
  let before ← IO.monoMsNow
  IO.sleep pollMs.toUInt32
  let lines ← typed.modifyGet (fun lines => (lines, []))
  match hearAll run lines with
  | none => return
  | some run =>
    let passed := (← IO.monoMsNow) - before
    let fetched : Refresh.Fetched ←
      if run.isDue passed then fetchNow source else pure (.error ⟨.fetch, ""⟩)
    let (run, output) := run.advance fetched passed
    write output
    keepWatching source typed run

def watch (plan : Command.Watching) : IO Unit := do
  let (run, first) := Watch.Run.start plan
  write first
  let (run, output) := run.advance (← fetchNow plan.source) 0
  write output
  let typed ← IO.mkRef []
  let _ ← IO.asTask (collectLines typed)
  keepWatching plan.source typed run

end Leaderboard

open Leaderboard Program in
def main (words : List String) : IO UInt32 := do
  let around ← readSurroundings words
  let colored := wantsColor around.environment (← (← IO.getStdout).isTty)
  match start around colored words with
  | .ended ending => do
    write ending.output
    return ending.code.toUInt32
  | .watching plan => do
    watch plan
    return 0
  | .serving plan => do
    let trouble := Command.bindTrouble plan.address.text "Operation not supported (os error 95)"
    let ending := ofTrouble .empty trouble
    write ending.output
    return ending.code.toUInt32
