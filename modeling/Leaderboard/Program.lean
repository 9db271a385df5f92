import Leaderboard.Command.Fetching
import Leaderboard.Command.Inspecting
import Leaderboard.Command.Running

set_option autoImplicit false

namespace Leaderboard.Program

open Command CommandLine Report

structure Ending where
  code : Nat
  output : Output
deriving Repr, DecidableEq

inductive Start
  | ended (ending : Ending)
  | watching (plan : Watching)
  | serving (plan : Serving)

-- The settings are checked before and after the options, unless the command is about them.
def settingsFor (around : Surroundings) (i : Invocation) : Except Trouble Settings := do
  let load := if i.inspectsSettings then Settings.loadUnchecked else Settings.load
  let loaded ← (load around i.settingsPath).mapError (fun e =>
    (Trouble.ofFailure e).during "Failed to load configuration")
  let settings := i.override loaded
  if !i.inspectsSettings then
    settings.check.mapError (fun e =>
      (Trouble.ofFailure e.failure).during "Invalid configuration")
  return settings

def ofTrouble (output : Output) (trouble : Trouble) : Ending :=
  ⟨1, output ++ .errorLine trouble.report⟩

def ofOutcome (outcome : Outcome) : Ending :=
  match outcome.result with
  | .ok allWell => ⟨if allWell then 0 else 1, outcome.output⟩
  | .error trouble => ofTrouble outcome.output trouble

def ofPrepared {α : Type} (prepared : Except Trouble α) (start : α → Start) : Start :=
  match prepared with
  | .ok plan => start plan
  | .error trouble => .ended (ofTrouble .empty trouble)

def perform (c : Context) (around : Surroundings) (i : Invocation) : Start :=
  match i.command with
  | .rows request => .ended (ofOutcome (rows c around request))
  | .describe node => .ended (ofOutcome (describe c around node))
  | .watch request intervalMs => ofPrepared (prepareWatching c request intervalMs) .watching
  | .serve bind intervalMs theme => ofPrepared (prepareServing c bind intervalMs theme) .serving
  | .bootstrap request =>
    ofPrepared (Bootstrap.print c.settings.database c.format request)
      (fun output => .ended ⟨0, output⟩)
  | .settings action => .ended (ofOutcome (inspect c around i.settingsPath action))

def optionText (option : OptionRule) : String :=
  let letter := match option.letter with
    | some c => String.ofList ['-', c] ++ ", "
    | none => "    "
  let value := match option.effect with
    | .takes _ => " <" ++ option.name.toUpper ++ ">"
    | _ => ""
  "  " ++ letter ++ "--" ++ option.name ++ value

def helpText (rule : CommandRule) : List String :=
  ["Usage: " ++ rule.name ++ " [OPTIONS] <COMMAND>", "", "Commands:"] ++
    rule.commands.map (fun command => "  " ++ command.name) ++ ["", "Options:"] ++
    rule.options.map optionText

def ofUsage : UsageError → Ending
  | .helpWanted => ⟨0, .lines (helpText programRule)⟩
  | .versionWanted => ⟨0, .line (programName ++ " " ++ programVersion)⟩
  | .nothingGiven => ⟨2, .errorVerbatim (Output.lines (helpText programRule)).out⟩
  | e => ⟨2, .errorLine ("error: " ++ e.message)⟩

def switchedOn? (env : Settings.Environment) (name : String) : Option Bool :=
  (env.lookup name).map (· != "0")

def wantsColor (env : Settings.Environment) (onTerminal : Bool) : Bool :=
  if switchedOn? env "CLICOLOR_FORCE" == some true then true
  else if (switchedOn? env "NO_COLOR").isSome then false
  else onTerminal && (switchedOn? env "CLICOLOR").getD true

def start (around : Surroundings) (colored : Bool) (words : List String) : Start :=
  match Invocation.parse words with
  | .error e => .ended (ofUsage e)
  | .ok i =>
    match settingsFor around i with
    | .error trouble => .ended (ofTrouble .empty trouble)
    | .ok settings => perform ⟨settings, i.file, i.format, colored⟩ around i

end Leaderboard.Program
