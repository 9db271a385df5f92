set_option autoImplicit false

namespace Leaderboard.Text

def splitAll (sep : Char) : List Char → List (List Char)
  | [] => [[]]
  | c :: rest =>
    if c == sep then [] :: splitAll sep rest
    else
      match splitAll sep rest with
      | [] => [[c]]
      | part :: parts => (c :: part) :: parts

def splitOnce? (sep : Char) : List Char → Option (List Char × List Char)
  | [] => none
  | c :: rest =>
    if c == sep then some ([], rest)
    else (splitOnce? sep rest).map (fun (before, after) => (c :: before, after))

def joinWith (sep : Char) : List (List Char) → List Char
  | [] => []
  | [part] => part
  | part :: next :: parts => part ++ sep :: joinWith sep (next :: parts)

theorem splitAll_ne_nil (sep : Char) (cs : List Char) : splitAll sep cs ≠ [] := by
  cases cs with
  | nil => simp [splitAll]
  | cons c rest =>
    unfold splitAll
    split
    · simp
    · split <;> simp

@[simp] theorem joinWith_splitAll (sep : Char) (cs : List Char) :
    joinWith sep (splitAll sep cs) = cs := by
  induction cs with
  | nil => rfl
  | cons c rest ih =>
    unfold splitAll
    split
    next isSep =>
      have same : c = sep := by simpa using isSep
      match parts : splitAll sep rest with
      | [] => exact absurd parts (splitAll_ne_nil sep rest)
      | part :: more => simp [joinWith, ← parts, ih, same]
    next =>
      match parts : splitAll sep rest with
      | [] => exact absurd parts (splitAll_ne_nil sep rest)
      | [part] =>
        rw [parts] at ih
        simpa [joinWith] using ih
      | part :: next :: more =>
        rw [parts] at ih
        simpa [joinWith] using ih

end Leaderboard.Text
