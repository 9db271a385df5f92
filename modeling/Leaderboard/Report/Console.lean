import Leaderboard.Text.Case

set_option autoImplicit false

namespace Leaderboard.Report

structure Output where
  out : String
  err : String
deriving Repr, DecidableEq

namespace Output

def empty : Output := ⟨"", ""⟩

instance : Append Output := ⟨fun a b => ⟨a.out ++ b.out, a.err ++ b.err⟩⟩

def line (text : String) : Output := ⟨text ++ "\n", ""⟩

def lines (texts : List String) : Output := ⟨String.join (texts.map (· ++ "\n")), ""⟩

def verbatim (text : String) : Output := ⟨text, ""⟩

def errorLine (text : String) : Output := ⟨"", text ++ "\n"⟩

def errorVerbatim (text : String) : Output := ⟨"", text⟩

end Output

inductive Style
  | bold
  | dimmed
  | red
  | green
  | yellow
  | blue
  | cyan
deriving Repr, DecidableEq

def Style.code : Style → Nat
  | bold => 1
  | dimmed => 2
  | red => 31
  | green => 32
  | yellow => 33
  | blue => 34
  | cyan => 36

def resetSequence : List Char := [Char.ofNat 27, '[', '0', 'm']

def startSequence (styles : List Style) : List Char :=
  Char.ofNat 27 :: '[' ::
    (";".intercalate (styles.map (fun s => toString s.code))).toList ++ ['m']

-- The styles start again after every place where the text ends them.
def resume (start : List Char) : List Char → List Char
  | a :: b :: c :: d :: rest =>
    if [a, b, c, d] == resetSequence then a :: b :: c :: d :: start ++ resume start rest
    else a :: resume start (b :: c :: d :: rest)
  | few => few

def paint (colored : Bool) (styles : List Style) (text : String) : String :=
  if colored then
    let start := startSequence styles
    String.ofList (start ++ resume start text.toList ++ resetSequence)
  else text

def statusStyle (word : String) : Style :=
  let folded := Text.fold word
  if ["ok", "idle", "succeeded", "online"].contains folded then .green
  else if ["failed", "error", "offline"].contains folded then .red
  else if ["fetching", "loading", "stale"].contains folded then .yellow
  else .dimmed

def statusText (colored : Bool) (word : String) : String :=
  paint colored [statusStyle word] word

end Leaderboard.Report
