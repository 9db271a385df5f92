import Leaderboard.CommandLine.Grammar

set_option autoImplicit false

namespace Leaderboard.CommandLine

-- A switch has an empty value.
structure Given where
  command : String
  options : List (String × String)
  argument : Option String
deriving Repr, DecidableEq

namespace Given

def text? (g : Given) (name : String) : Option String := g.options.lookup name

def isOn (g : Given) (name : String) : Bool := (g.text? name).isSome

def natural? (g : Given) (name : String) : Option UInt64 :=
  (g.text? name).bind (fun text => Decimal.natural64? text.toList)

end Given

structure Progress where
  options : List (String × String)
  argument : Option String
  pending : Option (OptionRule × ValueForm × Option String)

namespace Progress

def start : Progress := ⟨[], none, none⟩

def awaits (p : Progress) : Bool := p.pending.any (fun (_, _, value) => value.isNone)

def add (p : Progress) (option : OptionRule) (form : ValueForm) (value : String) :
    Except UsageError Progress :=
  if (p.options.lookup option.name).isSome then .error (.conflict option.name option.name)
  else do
    form.check option.name value
    return { p with options := p.options ++ [(option.name, value)] }

def settle (p : Progress) : Except UsageError Progress :=
  match p.pending with
  | none => .ok p
  | some (option, _, none) => .error (.missingValue option.name)
  | some (option, form, some value) => { p with pending := none }.add option form value

def begin (p : Progress) (option : OptionRule) : Except UsageError Progress := do
  let settled ← p.settle
  match option.effect with
  | .switch => settled.add option .text ""
  | .takes form => return { settled with pending := some (option, form, none) }
  | .help => throw .helpWanted
  | .version => throw .versionWanted

def attach (p : Progress) (option : OptionRule) (value : String) : Except UsageError Progress :=
  match option.effect with
  | .takes form => do (← p.settle).add option form value
  | _ => .error (.unneededValue option.name)

-- The first option that takes a value takes the rest of the word.
def letters (rule : CommandRule) (p : Progress) : List Char → Except UsageError Progress
  | [] => .ok p
  | c :: rest =>
    match rule.optionOfLetter? c with
    | none => .error (.unknownArgument (String.ofList ['-', c]))
    | some option =>
      match option.effect, rest with
      | .takes _, [] => p.begin option
      | .takes _, '=' :: value => p.attach option (String.ofList value)
      | .takes _, value => p.attach option (String.ofList value)
      | _, _ => do letters rule (← p.begin option) rest

def long (rule : CommandRule) (p : Progress) (name : String) (value : Option String) :
    Except UsageError Progress :=
  match rule.option? name, value with
  | none, _ => .error (.unknownArgument ("--" ++ name))
  | some option, none => p.begin option
  | some option, some text => p.attach option text

def word (rule : CommandRule) (p : Progress) (afterDashes : Bool) (text : String) :
    Except UsageError Progress :=
  if rule.argument.isSome && p.argument.isNone then do
    return { (← p.settle) with argument := some text }
  else if rule.commands.isEmpty || (afterDashes && (rule.command? text).isSome) then
    .error (.unknownArgument text)
  else .error (.unknownCommand text)

def finish (rule : CommandRule) (p : Progress) (inner : List Given) :
    Except UsageError (List Given) := do
  let settled ← p.settle
  if !rule.commands.isEmpty && inner.isEmpty then
    if settled.options.isEmpty then throw .nothingGiven else throw .missingCommand
  match rule.conflict with
  | some (one, other) =>
    if (settled.options.lookup one).isSome && (settled.options.lookup other).isSome then
      throw (.conflict one other)
  | none => pure ()
  match rule.argument, settled.argument with
  | some name, none => throw (.missingArgument name)
  | _, _ => return ⟨rule.name, settled.options, settled.argument⟩ :: inner

end Progress

def helpFor (rule : CommandRule) : List String → UsageError
  | [] => .helpWanted
  | "help" :: rest => if rest.isEmpty then .helpWanted else .unknownCommand (rest.headD "")
  | word :: rest =>
    match rule.command? word with
    | some inner => helpFor inner rest
    | none => .unknownCommand word

def readWords (rule : CommandRule) (p : Progress) (afterDashes : Bool) :
    List String → Except UsageError (List Given)
  | [] => p.finish rule []
  | text :: rest =>
    let more (next : Except UsageError Progress) (afterDashes : Bool) := do
      readWords rule (← next) afterDashes rest
    if afterDashes then more (p.word rule true text) true
    else
      let inner := if p.awaits then none else rule.command? text
      match inner, Word.ofText text, p.pending with
      | some command, _, _ => do
        let given ← readWords command .start false rest
        p.finish rule given
      | none, .dashes, _ => more (.ok p) true
      | none, .long name value, _ => more (p.long rule name value) false
      | none, .short letters, _ => more (p.letters rule letters) false
      | none, .plain, some (option, form, none) =>
        more (.ok { p with pending := some (option, form, some text) }) false
      | none, .plain, _ =>
        if text == "help" && !rule.commands.isEmpty then .error (helpFor rule rest)
        else more (p.word rule false text) false

def read (rule : CommandRule) (words : List String) : Except UsageError (List Given) :=
  readWords rule .start false words

end Leaderboard.CommandLine
