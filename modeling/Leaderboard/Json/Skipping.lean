import Leaderboard.Json.Reader

set_option autoImplicit false

namespace Leaderboard.Json

def skipText : List Char → Option (List Char)
  | [] => none
  | '"' :: rest => some rest
  | '\\' :: 'u' :: a :: b :: c :: d :: rest =>
    if (hexUnit? a b c d).isSome then skipText rest else none
  | '\\' :: c :: rest => if (simpleEscape? c).isSome then skipText rest else none
  | c :: rest => if c.toNat < 0x20 || c == '\\' then none else skipText rest

def skipNumber (cs : List Char) : Option (List Char) := do
  let unsigned := match cs with
    | '-' :: rest => rest
    | other => other
  let (_, afterWhole) ← readWhole unsigned
  let (_, afterPlaces) ← readPlaces afterWhole
  let (_, rest) ← readExponent afterPlaces
  return rest

def skipScalar : List Char → Option (List Char)
  | 'n' :: rest => readWord "ull" rest
  | 't' :: rest => readWord "rue" rest
  | 'f' :: rest => readWord "alse" rest
  | cs => skipNumber cs

def skipName (cs : List Char) : Option (List Char) :=
  match skipSpace cs with
  | '"' :: rest =>
    match (skipText rest).map skipSpace with
    | some (':' :: value) => some value
    | _ => none
  | _ => none

mutual

def skipValueWith : Nat → List Char → Option (List Char)
  | 0, _ => none
  | fuel + 1, cs =>
    match skipSpace cs with
    | '"' :: rest => skipText rest
    | '[' :: rest =>
      match skipSpace rest with
      | ']' :: more => some more
      | items => skipItems fuel items
    | '\x7b' :: rest =>
      match skipSpace rest with
      | '\x7d' :: more => some more
      | members => skipMembers fuel members
    | scalar => skipScalar scalar

def skipItems : Nat → List Char → Option (List Char)
  | 0, _ => none
  | fuel + 1, cs =>
    match (skipValueWith fuel cs).map skipSpace with
    | some (',' :: rest) => skipItems fuel rest
    | some (']' :: rest) => some rest
    | _ => none

def skipMembers : Nat → List Char → Option (List Char)
  | 0, _ => none
  | fuel + 1, cs =>
    match (skipName cs).bind (fun value => (skipValueWith fuel value).map skipSpace) with
    | some (',' :: rest) => skipMembers fuel rest
    | some ('\x7d' :: rest) => some rest
    | _ => none

end

def skipValue (cs : List Char) : Option (List Char) := skipValueWith (fuelFor cs) cs

end Leaderboard.Json
