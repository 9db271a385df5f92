import Leaderboard.Command.Context
import Leaderboard.CommandLine.Invocation

set_option autoImplicit false

namespace Leaderboard.Command

open CommandLine (SettingsAction)
open Report

def showSettings (c : Context) : Outcome :=
  .done (match c.format with
    | .json => .line c.settings.toJson.pretty
    | _ => .verbatim c.settings.fileContent)

-- The settings are printed without standard errors, whatever they say.
def plainPrinter (c : Context) : Printer := ⟨c.format, false, c.colored⟩

def validate (c : Context) (path : Option String) : Outcome :=
  match c.settings.check with
  | .ok () =>
    let origin := path.getD "defaults, files and environment"
    .done ((plainPrinter c).status .success ("Configuration is valid (" ++ origin ++ ")"))
  | .error fault =>
    ⟨(plainPrinter c).status .error fault.failure.message, .ok false⟩

def paths (c : Context) (around : Surroundings) : Outcome :=
  .done ((Settings.usualFiles around).foldl (fun output path =>
    let mark := if around.files.isPresent path then "found" else "missing"
    output ++ (plainPrinter c).status .info (path ++ " (" ++ mark ++ ")")) .empty)

def inspect (c : Context) (around : Surroundings) (path : Option String) :
    SettingsAction → Outcome
  | .show => showSettings c
  | .validate => validate c path
  | .paths => paths c around

end Leaderboard.Command
