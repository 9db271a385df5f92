import Leaderboard.Decimal.Reading
import Leaderboard.Failure
import Leaderboard.Settings.Layer
import Leaderboard.Text.Blank

set_option autoImplicit false

namespace Leaderboard.Settings

abbrev Environment := List (String × String)

def fileVariable : String := "BOARD_CONFIG"

def endpointVariable : String := "API_ENDPOINT_URL"

def stderrVariable : String := "BOARD_SHOW_STDERR"

def variableLead : List Char := "board__".toList

def pointed : List Char → List Char
  | '_' :: '_' :: rest => '.' :: pointed rest
  | c :: rest => c :: pointed rest
  | [] => []

def settingName? (entry : String) : Option String :=
  let name := (Text.fold entry).toList
  if variableLead.isPrefixOf name then
    some (String.ofList (pointed (name.drop variableLead.length)))
  else none

def variableValue (text : String) : Json :=
  let word := Text.fold text
  if word == "true" then .boolean true
  else if word == "false" then .boolean false
  else
    match Decimal.integer64? text.toList with
    | some n => .integer n
    | none =>
      match Decimal.number? text with
      | some x => .real x
      | none => .text text

def environmentLayer (env : Environment) : Layer :=
  env.filterMap (fun (entry, text) =>
    (settingName? entry).map (fun name => (name, variableValue text)))

def endpointOverride (env : Environment) : Layer :=
  match env.lookup endpointVariable with
  | some text =>
    if Text.allBlank text then [] else [("source.endpoint_url", .text (Text.trim text))]
  | none => []

def switch? (word : String) : Option Bool :=
  if ["1", "true", "yes", "on"].contains word then some true
  else if ["", "0", "false", "no", "off"].contains word then some false
  else none

def stderrOverride (env : Environment) : Except Failure Layer :=
  match env.lookup stderrVariable with
  | none => .ok []
  | some text =>
    let word := Text.lowerAscii (Text.trim text)
    match switch? word with
    | some on => .ok [("display.show_stderr", .boolean on)]
    | none =>
      .error ⟨.configuration, stderrVariable ++ " must be a boolean, got '" ++ word ++ "'"⟩

end Leaderboard.Settings
