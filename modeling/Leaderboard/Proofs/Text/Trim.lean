import Mathlib.Data.List.TakeWhile
import Leaderboard.Text.Blank

set_option autoImplicit false

namespace Leaderboard.Text

structure Unpadded (isPad : Char → Bool) (cs : List Char) : Prop where
  first : ∀ c, cs.head? = some c → isPad c = false
  last : ∀ c, cs.getLast? = some c → isPad c = false

def dropEnds (isPad : Char → Bool) (cs : List Char) : List Char :=
  ((cs.dropWhile isPad).reverse.dropWhile isPad).reverse

section Padding

variable {isPad : Char → Bool}

theorem dropWhile_padded {before rest : List Char} (padding : ∀ c ∈ before, isPad c = true)
    (visible : ∀ c, rest.head? = some c → isPad c = false) :
    (before ++ rest).dropWhile isPad = rest := by
  rw [List.dropWhile_append_of_pos padding]
  cases rest with
  | nil => rfl
  | cons c rest => simp [visible c rfl]

theorem dropEnds_padded {before word after : List Char} (front : ∀ c ∈ before, isPad c = true)
    (unpadded : Unpadded isPad word) (back : ∀ c ∈ after, isPad c = true) :
    dropEnds isPad (before ++ (word ++ after)) = word := by
  cases word with
  | nil =>
    have nothing : (before ++ after).dropWhile isPad = [] := by
      rw [List.dropWhile_append_of_pos front]
      exact List.dropWhile_eq_nil_iff.2 back
    rw [List.nil_append, dropEnds, nothing]
    rfl
  | cons c word =>
    have left : (before ++ (c :: word ++ after)).dropWhile isPad = c :: word ++ after :=
      dropWhile_padded front unpadded.first
    have backwards : ∀ c ∈ after.reverse, isPad c = true := fun c inside =>
      back c (List.mem_reverse.1 inside)
    rw [dropEnds, left, List.reverse_append, dropWhile_padded backwards, List.reverse_reverse]
    intro c last
    exact unpadded.last c (List.head?_reverse ▸ last)

theorem unpadded_first {cs : List Char} {c : Char} (first : (cs.dropWhile isPad).head? = some c) :
    isPad c = false := by
  have all := List.head?_dropWhile_not isPad cs
  rw [first] at all
  simpa using all

theorem unpadded_dropEnds (isPad : Char → Bool) (cs : List Char) :
    Unpadded isPad (dropEnds isPad cs) := by
  constructor
  case first =>
    intro c first
    rw [dropEnds, List.head?_reverse] at first
    -- What is taken off the end leaves the beginning as it was.
    have kept := (List.singleton_suffix_iff_getLast?_eq_some.2 first).trans
      (List.dropWhile_suffix isPad)
    rw [List.singleton_suffix_iff_getLast?_eq_some, List.getLast?_reverse] at kept
    exact unpadded_first kept
  case last =>
    intro c last
    rw [dropEnds, List.getLast?_reverse] at last
    exact unpadded_first last

theorem dropEnds_sublist (isPad : Char → Bool) (cs : List Char) :
    (dropEnds isPad cs).Sublist cs := by
  rw [← List.reverse_sublist, dropEnds, List.reverse_reverse]
  exact (List.dropWhile_sublist isPad).trans (List.reverse_sublist.2 (List.dropWhile_sublist isPad))

theorem dropEnds_eq_self_iff (cs : List Char) : dropEnds isPad cs = cs ↔ Unpadded isPad cs := by
  constructor
  · intro same
    rw [← same]
    exact unpadded_dropEnds isPad cs
  · intro unpadded
    have whole : dropEnds isPad ([] ++ (cs ++ [])) = cs := dropEnds_padded nofun unpadded nofun
    rwa [List.nil_append, List.append_nil] at whole

end Padding

def Blanks (cs : List Char) : Prop := ∀ c ∈ cs, isBlank c = true

instance (cs : List Char) : Decidable (Blanks cs) :=
  decidable_of_iff (cs.all isBlank = true) List.all_eq_true

theorem trimList_eq (cs : List Char) : trimList cs = dropEnds isBlank cs := rfl

theorem trim_eq_self_iff (text : String) : trim text = text ↔ Unpadded isBlank text.toList := by
  rw [← dropEnds_eq_self_iff, trim, trimList_eq, ← String.toList_inj, String.toList_ofList]

end Leaderboard.Text
