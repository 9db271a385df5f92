set_option autoImplicit false

namespace Leaderboard.Dashboard.Html

def escapeChar (c : Char) : List Char :=
  if c == '&' then "&amp;".toList
  else if c == '<' then "&lt;".toList
  else if c == '>' then "&gt;".toList
  else if c == '"' then "&quot;".toList
  else if c == '\'' then "&#39;".toList
  else [c]

def escape (cs : List Char) : List Char := cs.flatMap escapeChar

-- An ampersand that begins none of the five entities stands for itself.
def unescape : List Char → List Char
  | '&' :: 'a' :: 'm' :: 'p' :: ';' :: rest => '&' :: unescape rest
  | '&' :: 'l' :: 't' :: ';' :: rest => '<' :: unescape rest
  | '&' :: 'g' :: 't' :: ';' :: rest => '>' :: unescape rest
  | '&' :: 'q' :: 'u' :: 'o' :: 't' :: ';' :: rest => '"' :: unescape rest
  | '&' :: '#' :: '3' :: '9' :: ';' :: rest => '\'' :: unescape rest
  | c :: rest => c :: unescape rest
  | [] => []

def isMarkup (c : Char) : Bool := c == '<' || c == '>' || c == '"' || c == '\''

inductive Piece
  | markup (source : String)
  | text (content : String)
deriving Repr, DecidableEq

def Piece.chars : Piece → List Char
  | markup source => source.toList
  | text content => escape content.toList

def render (pieces : List Piece) : String := String.ofList (pieces.flatMap Piece.chars)

end Leaderboard.Dashboard.Html
