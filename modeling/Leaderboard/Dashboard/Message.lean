import Leaderboard.Dashboard.Target
import Leaderboard.Json.Writer

set_option autoImplicit false

namespace Leaderboard.Dashboard

structure Request where
  method : String
  target : Target
  headers : List (String × String)
  body : String
deriving Repr, DecidableEq

namespace Request

def isTokenChar (c : Char) : Bool := c.isAlphanum || "!#$%&'*+-.^_`|~".toList.contains c

def isToken (text : String) : Bool := !text.isEmpty && text.toList.all isTokenChar

def isHeaderValue (text : String) : Bool :=
  text.toList.all (fun c => c == '\t' || (32 ≤ c.toNat && c.toNat != 127))

def make? (method target : String) (headers : List (String × String)) (body : String) :
    Option Request :=
  match Target.ofText? target with
  | some t =>
    if isToken method && headers.all (fun h => isToken h.1 && isHeaderValue h.2) then
      some ⟨method, t, headers, body⟩
    else none
  | none => none

def isVisible (value : String) : Bool :=
  value.toList.all (fun c => c == '\t' || (32 ≤ c.toNat && c.toNat < 127))

def header (r : Request) (name : String) : List String :=
  (r.headers.filter (fun h => h.1.toLower == name)).map (·.2)

end Request

structure Response where
  status : Nat
  contentType : Option String
  setCookie : Option String
  body : String
deriving Repr, DecidableEq

namespace Response

def bare (status : Nat) : Response := ⟨status, none, none, ""⟩

def json (status : Nat) (document : Json) : Response :=
  ⟨status, some "application/json", none, document.compact⟩

def html (status : Nat) (page : String) : Response :=
  ⟨status, some "text/html; charset=utf-8", none, page⟩

def plain (status : Nat) (text : String) : Response :=
  ⟨status, some "text/plain; charset=utf-8", none, text⟩

def withoutBody (r : Response) : Response := { r with body := "" }

end Response

end Leaderboard.Dashboard
