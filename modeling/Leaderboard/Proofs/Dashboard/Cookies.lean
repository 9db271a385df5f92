import Leaderboard.Dashboard.Cookie
import Leaderboard.Dashboard.Message
import Leaderboard.Proofs.Text.Split
import Leaderboard.Proofs.Text.Trim

set_option autoImplicit false

namespace Leaderboard.Dashboard

open Text (Blanks Unpadded isBlank)

namespace Cookie

def Foreign (cookie : List Char) : Prop :=
  ∀ name value, cookie = name ++ '=' :: value → '=' ∉ name →
    Text.trimList name ≠ themeName.toList

inductive Holds (value : String) : List Char → Prop
  | intro {a b c d : List Char} (before : Blanks a) (behind : Blanks b) (within : Blanks c)
      (after : Blanks d) :
      Holds value ((a ++ (themeName.toList ++ b)) ++ '=' :: (c ++ (value.toList ++ d)))

def pair? (cookie : List Char) : Option (String × String) :=
  (Text.splitOnce? '=' cookie).map (fun (name, value) =>
    (String.ofList (Text.trimList name), String.ofList (Text.trimList value)))

theorem pairs_joined {cookies : List (List Char)} (whole : ∀ cookie ∈ cookies, ';' ∉ cookie) :
    pairs (String.ofList (Text.joinWith ';' cookies)) = cookies.filterMap pair? := by
  have read : pairs (String.ofList (Text.joinWith ';' cookies)) =
      (Text.splitAll ';' (Text.joinWith ';' cookies)).filterMap pair? := by
    rw [pairs, String.toList_ofList]
    rfl
  rw [read]
  cases cookies with
  | nil => rfl
  | cons first rest => rw [Text.splitAll_joinWith (List.cons_ne_nil first rest) whole]

theorem foreign_iff {cookie : List Char} :
    Foreign cookie ↔ (pair? cookie).map Prod.fst ≠ some themeName := by
  constructor
  · intro foreign named
    obtain ⟨_, read, same⟩ := Option.map_eq_some_iff.1 named
    obtain ⟨⟨front, back⟩, cut, rfl⟩ := Option.map_eq_some_iff.1 read
    obtain ⟨joined, whole⟩ := Text.splitOnce?_eq_some_iff.1 cut
    apply foreign front back joined whole
    rw [← same, String.toList_ofList]
  · intro other name value joined whole named
    apply other
    rw [pair?, Text.splitOnce?_eq_some_iff.2 ⟨joined, whole⟩]
    simp [named]

instance : DecidablePred Foreign := fun _ => decidable_of_iff _ foreign_iff.symm

theorem not_mem_blanks {space : List Char} (blanks : Blanks space) {c : Char}
    (visible : isBlank c = false) : c ∉ space := by
  intro inside
  rw [blanks c inside] at visible
  cases visible

theorem Holds.pair?_eq {value : String} {cookie : List Char} (holds : Holds value cookie)
    (unpadded : Unpadded isBlank value.toList) : pair? cookie = some (themeName, value) := by
  cases holds with
  | @intro a b c d before behind within after =>
    have name : Unpadded isBlank themeName.toList := (Text.trim_eq_self_iff themeName).1 (by decide)
    have whole : '=' ∉ a ++ (themeName.toList ++ b) := by
      simp only [List.mem_append, not_or]
      exact ⟨not_mem_blanks before (by decide), by decide, not_mem_blanks behind (by decide)⟩
    simp only [pair?, Text.splitOnce?_append whole, Option.map_some,
      Text.trimList_eq, Text.dropEnds_padded before name behind,
      Text.dropEnds_padded within unpadded after,
      String.ofList_toList]

theorem find?_foreign {cookies : List (List Char)} (others : ∀ cookie ∈ cookies, Foreign cookie) :
    (cookies.filterMap pair?).find? (fun pair => pair.1 == themeName) = none := by
  rw [List.find?_eq_none]
  rintro ⟨name, value⟩ inside named
  obtain ⟨cookie, listed, read⟩ := List.mem_filterMap.1 inside
  apply foreign_iff.1 (others cookie listed)
  rw [read, Option.map_some, beq_iff_eq.1 named]

end Cookie

structure Request.ListsCookies (r : Request) (headers : List (List (List Char))) : Prop where
  sent : r.header "cookie" =
    headers.map (fun cookies => String.ofList (Text.joinWith ';' cookies))
  visible : ∀ header ∈ r.header "cookie", isVisible header = true
  whole : ∀ cookies ∈ headers, ∀ cookie ∈ cookies, ';' ∉ cookie

inductive Request.Carries (r : Request) : Option String → Prop
  | without {headers : List (List (List Char))} (lists : r.ListsCookies headers)
      (others : ∀ cookie ∈ headers.flatten, Cookie.Foreign cookie) : Carries r none
  | among {headers : List (List (List Char))} {before after : List (List Char)}
      {own : List Char} {value : String} (lists : r.ListsCookies headers)
      (place : headers.flatten = before ++ own :: after) (holds : Cookie.Holds value own)
      (others : ∀ cookie ∈ before ++ after, Cookie.Foreign cookie) : Carries r (some value)

theorem Request.ListsCookies.pairs_eq {r : Request} {headers : List (List (List Char))}
    (lists : r.ListsCookies headers) :
    ((r.header "cookie").filter isVisible).flatMap Cookie.pairs =
      headers.flatten.filterMap Cookie.pair? := by
  rw [List.filter_eq_self.2 lists.visible, lists.sent]
  have whole := lists.whole
  clear lists
  induction headers with
  | nil => rfl
  | cons cookies rest ih =>
    rw [List.forall_mem_cons] at whole
    rw [List.map_cons, List.flatMap_cons, Cookie.pairs_joined whole.1, ih whole.2,
      List.flatten_cons, List.filterMap_append]

theorem Cookie.theme?_without {r : Request} (carries : r.Carries none) :
    Cookie.theme? ((r.header "cookie").filter Request.isVisible) = none := by
  cases carries with
  | without lists others => rw [Cookie.theme?, lists.pairs_eq, Cookie.find?_foreign others]

theorem Cookie.theme?_among {r : Request} {t : Theme} (carries : r.Carries (some t.name)) :
    Cookie.theme? ((r.header "cookie").filter Request.isVisible) = some t := by
  cases carries with
  | among lists place holds others =>
    have unpadded : Unpadded isBlank t.name.toList :=
      (Text.trim_eq_self_iff t.name).1 (by cases t <;> decide)
    have front := Cookie.find?_foreign fun cookie inside =>
      others cookie (List.mem_append_left _ inside)
    rw [Cookie.theme?, lists.pairs_eq, place, List.filterMap_append, List.filterMap_cons,
      holds.pair?_eq unpadded, List.find?_append, front, List.find?_cons_of_pos (by simp),
      Option.none_or]
    cases t <;> decide

end Leaderboard.Dashboard
