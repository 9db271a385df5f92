set_option autoImplicit false

namespace Leaderboard.CommandLine

inductive UsageError
  | badValue (option value : String)
  | notAllowed (option value : String)
  | missingValue (option : String)
  | unneededValue (option : String)
  | conflict (option other : String)
  | unknownArgument (text : String)
  | unknownCommand (text : String)
  | missingCommand
  | missingArgument (name : String)
  | nothingGiven
  | helpWanted
  | versionWanted
deriving Repr, DecidableEq

namespace UsageError

def message : UsageError → String
  | badValue option value => "invalid value '" ++ value ++ "' for '" ++ option ++ "'"
  | notAllowed option value => "invalid value '" ++ value ++ "' for '" ++ option ++ "'"
  | missingValue option => "a value is required for '" ++ option ++ "' but none was supplied"
  | unneededValue option => "unexpected value for '" ++ option ++ "'"
  | conflict option other =>
    if option == other then "the argument '" ++ option ++ "' cannot be used multiple times"
    else "the argument '" ++ option ++ "' cannot be used with '" ++ other ++ "'"
  | unknownArgument text => "unexpected argument '" ++ text ++ "' found"
  | unknownCommand text => "unrecognized subcommand '" ++ text ++ "'"
  | missingCommand => "a subcommand is required but none was given"
  | missingArgument name => "the argument <" ++ name ++ "> was not given"
  | nothingGiven => "nothing was asked for"
  | helpWanted => "help"
  | versionWanted => "version"

end UsageError

end Leaderboard.CommandLine
