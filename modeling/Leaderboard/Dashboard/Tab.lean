import Leaderboard.Name
import Leaderboard.Text.Blank
import Leaderboard.Text.Case

set_option autoImplicit false

namespace Leaderboard.Dashboard

inductive Tab
  | benchmark
  | about
  | api
deriving Repr, DecidableEq

namespace Tab

def all : List Tab := [benchmark, about, api]

def name : Tab → String
  | benchmark => "benchmark"
  | about => "about"
  | api => "api"

def label : Tab → String
  | benchmark => "LLM Benchmark"
  | about => "About"
  | api => "API"

def ofName (word : String) : Except UnknownName Tab :=
  match all.find? (fun t => t.name == Text.lowerAscii (Text.trim word)) with
  | some t => .ok t
  | none => .error ⟨.tab, word⟩

def ofQuery (word : Option String) : Tab :=
  match word.map ofName with
  | some (.ok t) => t
  | _ => benchmark

end Tab

end Leaderboard.Dashboard
