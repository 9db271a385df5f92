import Leaderboard.Bootstrap.Assembly
import Leaderboard.CommandLine.Reading
import Leaderboard.Report.Printer

set_option autoImplicit false

namespace Leaderboard.CommandLine

open Report (Format)

inductive SettingsAction
  | «show»
  | validate
  | paths
deriving Repr, DecidableEq

structure RowsRequest where
  filter : String
  sort : Option String
  ascending : Bool
deriving Repr, DecidableEq

inductive Command
  | rows (request : RowsRequest)
  | describe (node : String)
  | watch (request : RowsRequest) (intervalMs : Option UInt64)
  | serve (bind : Option String) (intervalMs : Option UInt64) (theme : Theme)
  | bootstrap (request : Bootstrap.Request)
  | settings (action : SettingsAction)
deriving Repr, DecidableEq

structure Invocation where
  settingsPath : Option String
  endpoint : Option String
  file : Option String
  format : Format
  verbose : Bool
  timeoutSecs : Option UInt64
  stderr : Bool
  command : Command
deriving Repr, DecidableEq

def helpOption : OptionRule := ⟨"help", some 'h', .help⟩

def filterOption : OptionRule := ⟨"filter", some 'f', .takes .text⟩

def sortOption : OptionRule := ⟨"sort", some 's', .takes .text⟩

def ascendingOption : OptionRule := ⟨"asc", none, .switch⟩

def intervalOption : OptionRule := ⟨"interval", some 'i', .takes .natural⟩

def simpleRule (name : String) (options : List OptionRule) (argument : Option String) :
    CommandRule :=
  ⟨name, helpOption :: options, argument, [], none⟩

def rowsRule : CommandRule :=
  simpleRule "rows" [filterOption, sortOption, ascendingOption] none

def describeRule : CommandRule := simpleRule "describe" [] (some "NODE")

def watchRule : CommandRule :=
  simpleRule "watch" [filterOption, sortOption, ascendingOption, intervalOption] none

def serveRule : CommandRule :=
  simpleRule "serve"
    [⟨"bind", some 'b', .takes .text⟩, intervalOption, ⟨"theme", none, .takes .theme⟩] none

def bootstrapRule : CommandRule :=
  simpleRule "bootstrap"
    [⟨"database", some 'd', .takes .text⟩, ⟨"no-replica-set", none, .switch⟩,
      ⟨"no-user", none, .switch⟩, ⟨"plan", none, .switch⟩] none

def settingsRule : CommandRule :=
  ⟨"config", [helpOption], none,
    [simpleRule "show" [] none, simpleRule "validate" [] none, simpleRule "paths" [] none], none⟩

def formats : List (String × Format) :=
  [("table", .table), ("json", .json), ("yaml", .yaml), ("text", .text)]

def programName : String := "board"

def programVersion : String := "0.1.0"

def programRule : CommandRule where
  name := programName
  options := [
    helpOption,
    ⟨"version", some 'V', .version⟩,
    ⟨"config", some 'c', .takes .path⟩,
    ⟨"endpoint", some 'e', .takes .text⟩,
    ⟨"file", none, .takes .path⟩,
    ⟨"output", some 'o', .takes (.oneOf (formats.map (·.1)))⟩,
    ⟨"verbose", some 'v', .switch⟩,
    ⟨"json", none, .switch⟩,
    ⟨"timeout", none, .takes .natural⟩,
    ⟨"stderr", none, .switch⟩]
  argument := none
  commands := [rowsRule, describeRule, watchRule, serveRule, bootstrapRule, settingsRule]
  conflict := some ("file", "endpoint")

def rowsRequest (g : Given) : RowsRequest :=
  ⟨(g.text? "filter").getD "", g.text? "sort", g.isOn "asc"⟩

def themeOf (g : Given) : Theme :=
  match (g.text? "theme").map Theme.ofName with
  | some (.ok theme) => theme
  | _ => .light

def commandOf? : List Given → Option Command
  | [g] =>
    match g.command with
    | "rows" => some (.rows (rowsRequest g))
    | "describe" => some (.describe (g.argument.getD ""))
    | "watch" => some (.watch (rowsRequest g) (g.natural? "interval"))
    | "serve" => some (.serve (g.text? "bind") (g.natural? "interval") (themeOf g))
    | "bootstrap" => some (.bootstrap
        ⟨g.text? "database", g.isOn "no-replica-set", g.isOn "no-user", g.isOn "plan"⟩)
    | _ => none
  | [_, inner] =>
    match inner.command with
    | "show" => some (.settings .show)
    | "validate" => some (.settings .validate)
    | "paths" => some (.settings .paths)
    | _ => none
  | _ => none

def formatOf (g : Given) : Format :=
  if g.isOn "json" then .json
  else ((g.text? "output").bind (fun name => formats.lookup name)).getD .table

namespace Invocation

def ofGiven (g : Given) (command : Command) : Invocation where
  settingsPath := g.text? "config"
  endpoint := g.text? "endpoint"
  file := g.text? "file"
  format := formatOf g
  verbose := g.isOn "verbose"
  timeoutSecs := g.natural? "timeout"
  stderr := g.isOn "stderr"
  command := command

def parse (words : List String) : Except UsageError Invocation := do
  match ← read programRule words with
  | outer :: inner =>
    match commandOf? inner with
    | some command => return ofGiven outer command
    | none => throw .missingCommand
  | [] => throw .missingCommand

def override (i : Invocation) (s : Settings) : Settings :=
  { s with
    source := ⟨i.endpoint.getD s.source.endpointUrl, i.timeoutSecs.getD s.source.requestTimeoutSecs⟩
    display := { s.display with showStderr := i.stderr || s.display.showStderr }
    observability :=
      { s.observability with logLevel := if i.verbose then "debug" else s.observability.logLevel } }

def inspectsSettings (i : Invocation) : Bool :=
  match i.command with
  | .settings _ => true
  | _ => false

end Invocation

end Leaderboard.CommandLine
