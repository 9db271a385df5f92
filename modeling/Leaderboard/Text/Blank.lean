import Leaderboard.Text.Ranges

set_option autoImplicit false

namespace Leaderboard.Text

-- The twenty-five code points with the white space property.
def blankRanges : List (Nat × Nat) := [
  (0x9, 0xD), (0x20, 0x20), (0x85, 0x85), (0xA0, 0xA0), (0x1680, 0x1680), (0x2000, 0x200A),
  (0x2028, 0x2029), (0x202F, 0x202F), (0x205F, 0x205F), (0x3000, 0x3000)]

def isBlank (c : Char) : Bool := inRanges blankRanges c

def strip (cs : List Char) : List Char := cs.filter (fun c => !isBlank c)

def trimLeft (cs : List Char) : List Char := cs.dropWhile isBlank

def trimRight (cs : List Char) : List Char := (trimLeft cs.reverse).reverse

def trimList (cs : List Char) : List Char := trimRight (trimLeft cs)

def trim (text : String) : String := String.ofList (trimList text.toList)

def allBlank (text : String) : Bool := text.toList.all isBlank

@[simp] theorem strip_eq_nil_iff (cs : List Char) : strip cs = [] ↔ cs.all isBlank = true := by
  simp [strip]

end Leaderboard.Text
