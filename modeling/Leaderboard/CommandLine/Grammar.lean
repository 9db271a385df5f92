import Leaderboard.CommandLine.Usage
import Leaderboard.Decimal.Reading
import Leaderboard.Theme.Basic

set_option autoImplicit false

namespace Leaderboard.CommandLine

inductive ValueForm
  | text
  | path
  | natural
  | theme
  | oneOf (words : List String)
deriving Repr, DecidableEq

def ValueForm.check (form : ValueForm) (option value : String) : Except UsageError Unit :=
  match form with
  | text => .ok ()
  | path => if value.isEmpty then .error (.missingValue option) else .ok ()
  | natural =>
    if (Decimal.natural64? value.toList).isSome then .ok () else .error (.badValue option value)
  | theme =>
    match Theme.ofName value with
    | .ok _ => .ok ()
    | .error _ => .error (.badValue option value)
  | oneOf words =>
    if words.contains value then .ok () else .error (.notAllowed option value)

inductive Effect
  | switch
  | takes (form : ValueForm)
  | help
  | version
deriving Repr, DecidableEq

structure OptionRule where
  name : String
  letter : Option Char
  effect : Effect
deriving Repr, DecidableEq

-- If there are commands inside, one of them has to be given.
structure CommandRule where
  name : String
  options : List OptionRule
  argument : Option String
  commands : List CommandRule
  conflict : Option (String × String)

namespace CommandRule

def option? (rule : CommandRule) (name : String) : Option OptionRule :=
  rule.options.find? (fun option => option.name == name)

def optionOfLetter? (rule : CommandRule) (letter : Char) : Option OptionRule :=
  rule.options.find? (fun option => option.letter == some letter)

def command? (rule : CommandRule) (name : String) : Option CommandRule :=
  rule.commands.find? (fun command => command.name == name)

end CommandRule

inductive Word
  | dashes
  | long (name : String) (value : Option String)
  | short (letters : List Char)
  | plain

def Word.ofText (text : String) : Word :=
  match text.toList with
  | ['-', '-'] => .dashes
  | '-' :: '-' :: rest =>
    .long (String.ofList (rest.takeWhile (· != '=')))
      (match rest.dropWhile (· != '=') with
        | _ :: value => some (String.ofList value)
        | [] => none)
  | '-' :: c :: rest => .short (c :: rest)
  | _ => .plain

end Leaderboard.CommandLine
