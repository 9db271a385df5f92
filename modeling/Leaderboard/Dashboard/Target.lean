import Leaderboard.Text.Split

set_option autoImplicit false

namespace Leaderboard.Dashboard

structure Target where
  path : String
  query : String
deriving Repr, DecidableEq

namespace Target

def maxLength : Nat := 65534

def isPathChar (c : Char) : Bool :=
  let n := c.toNat
  n == 0x21 || n == 0x22 || (0x24 ≤ n && n ≤ 0x3B) || n == 0x3D || (0x40 ≤ n && n ≤ 0x5F) ||
    (0x61 ≤ n && n ≤ 0x7E) || 0x7F ≤ n

def isQueryChar (c : Char) : Bool :=
  let n := c.toNat
  n == 0x21 || (0x24 ≤ n && n ≤ 0x3B) || n == 0x3D || 0x3F ≤ n

-- What follows a number sign is dropped unread.
def ofPath? (cs : List Char) : Option Target :=
  let isEnd (c : Char) : Bool := c == '?' || c == '#'
  let path := cs.takeWhile (fun c => !isEnd c)
  let query := match cs.dropWhile (fun c => !isEnd c) with
    | '?' :: rest => rest.takeWhile (fun c => c != '#')
    | _ => []
  if path.all isPathChar && query.all isQueryChar then
    some ⟨if path.isEmpty then "/" else String.ofList path, String.ofList query⟩
  else none

def isSchemeChar (c : Char) : Bool := c.isAlphanum || c == '+' || c == '-' || c == '.'

def afterScheme? (cs : List Char) : Option (List Char × List Char) :=
  let scheme := cs.takeWhile isSchemeChar
  match cs.dropWhile isSchemeChar with
  | ':' :: '/' :: '/' :: rest => some (scheme, rest)
  | _ => none

def isAuthorityChar (c : Char) : Bool :=
  c.isAlphanum || "!$&'()*+,-.;=_~:@[]%".toList.contains c

structure AuthorityScan where
  colons : Nat
  opened : Bool
  closed : Bool
  percent : Bool
  endsInAt : Bool

-- Colons and percent signs count anew after an at sign and after a closing bracket.
def AuthorityScan.step (s : AuthorityScan) (c : Char) : Option AuthorityScan :=
  let s := { s with endsInAt := c == '@' }
  if c == ':' then
    if 8 ≤ s.colons then none else some { s with colons := s.colons + 1 }
  else if c == '[' then
    if s.percent || s.opened then none else some { s with opened := true }
  else if c == ']' then
    if !s.opened || s.closed then none
    else some { s with closed := true, colons := 0, percent := false }
  else if c == '@' then some { s with colons := 0, percent := false }
  else if c == '%' then some { s with percent := true }
  else some s

def isAuthority (cs : List Char) : Bool :=
  cs.all isAuthorityChar &&
    match cs.foldlM AuthorityScan.step ⟨0, false, false, false, false⟩ with
    | some s => s.opened == s.closed && s.colons ≤ 1 && !s.endsInAt && !s.percent
    | none => false

def pathless : Target := ⟨"", ""⟩

def ofChars? (cs : List Char) : Option Target :=
  match cs with
  | [] => none
  | ['*'] => some ⟨"*", ""⟩
  | '/' :: _ => ofPath? cs
  | _ =>
    match afterScheme? cs with
    | some (scheme, rest) =>
      let isEnd (c : Char) : Bool := c == '/' || c == '?' || c == '#'
      let authority := rest.takeWhile (fun c => !isEnd c)
      if scheme.isEmpty || 64 < scheme.length || authority.isEmpty || !isAuthority authority then none
      else ofPath? (rest.dropWhile (fun c => !isEnd c))
    | none => if isAuthority cs then some pathless else none

def ofText? (text : String) : Option Target :=
  if text.utf8ByteSize ≤ maxLength then ofChars? text.toList else none

end Target

end Leaderboard.Dashboard
