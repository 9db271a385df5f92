import Leaderboard.Url.Basic

set_option autoImplicit false

namespace Leaderboard

namespace Web

structure Status where
  code : Nat
  -- the phrase registered for the code
  reason : Option String
deriving Repr, DecidableEq

namespace Status

def isSuccess (s : Status) : Bool := 200 ≤ s.code && s.code ≤ 299

def text (s : Status) : String :=
  toString s.code ++ " " ++ s.reason.getD "<unknown status code>"

end Status

structure Request where
  url : Url
  accept : String
  timeoutSecs : UInt64

-- Redirects have been followed. The content type is left out, as it is only logged.
inductive Answer
  | unsent (reason : String)
  | answered (status : Status) (body : Except String (List UInt8))

end Web

structure Web where
  answer : Web.Request → Web.Answer

namespace Web

-- No connection is made. The address is shown without its user.
def offline : Web :=
  ⟨fun request =>
    .unsent ("error sending request for url (" ++ request.url.withoutUser.text ++ ")")⟩

end Web

end Leaderboard
