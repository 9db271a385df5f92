import Leaderboard.Dataset.Basic
import Leaderboard.Text.Blank
import Leaderboard.Text.Split

set_option autoImplicit false

namespace Leaderboard

inductive NodeFilter
  | all
  | only (nodes : SortedMap NodeId Unit)
deriving DecidableEq

namespace NodeFilter

def nodeSet (nodes : List NodeId) : SortedMap NodeId Unit :=
  SortedMap.ofList (nodes.map (fun node => (node, ())))

def ofNodes (nodes : List NodeId) : NodeFilter := .only (nodeSet nodes)

def segments (cs : List Char) : List NodeId :=
  ((Text.splitAll ',' cs).filter (fun part => !part.isEmpty)).map String.ofList

-- A text of commas alone lets no node pass.
def parse (text : String) : NodeFilter :=
  match Text.strip text.toList with
  | [] => .all
  | cs => ofNodes (segments cs)

def accepts (f : NodeFilter) (node : NodeId) : Bool :=
  match f with
  | .all => true
  | .only nodes => nodes.contains node

end NodeFilter

end Leaderboard
