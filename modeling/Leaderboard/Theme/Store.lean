import Leaderboard.Theme.Cell

set_option autoImplicit false

namespace Leaderboard

structure ThemeStore where
  cells : Nat → ThemeCell
  used : Nat
  states : List Nat
  subscribers : List (Nat × ThemeSubscriber)
  owned : ∀ place ∈ states, place < used
  watched : ∀ s ∈ subscribers, s.1 < used

namespace ThemeStore

def empty : ThemeStore := ⟨fun _ => .new .light, 0, [], [], nofun, nofun⟩

def update (w : ThemeStore) (place : Nat) (cell : ThemeCell) : ThemeStore :=
  { w with cells := fun other => if other = place then cell else w.cells other }

def create (w : ThemeStore) (initial : Theme) : ThemeStore where
  cells := (w.update w.used (.new initial)).cells
  used := w.used + 1
  states := w.states ++ [w.used]
  subscribers := w.subscribers
  owned := by
    intro place listed
    rcases List.mem_append.1 listed with old | new
    · exact Nat.lt_succ_of_lt (w.owned place old)
    · exact List.mem_singleton.1 new ▸ Nat.lt_succ_self w.used
  watched s listed := Nat.lt_succ_of_lt (w.watched s listed)

def clone (w : ThemeStore) (state : Nat) : ThemeStore :=
  { w with
    states := w.states ++ (w.states[state]?).toList
    owned := by
      intro place listed
      rcases List.mem_append.1 listed with old | new
      · exact w.owned place old
      · exact w.owned place (List.mem_of_getElem? (Option.mem_toList.1 new)) }

def current? (w : ThemeStore) (state : Nat) : Option Theme :=
  (w.states[state]?).map (fun place => (w.cells place).current)

def set (w : ThemeStore) (state : Nat) (theme : Theme) : ThemeStore :=
  match w.states[state]? with
  | none => w
  | some place => w.update place ((w.cells place).set theme)

def toggle (w : ThemeStore) (state : Nat) : Option Theme × ThemeStore :=
  match w.states[state]? with
  | none => (none, w)
  | some place =>
    let (theme, cell) := (w.cells place).toggle
    (some theme, w.update place cell)

def subscribe (w : ThemeStore) (state : Nat) : ThemeStore :=
  { w with
    subscribers := w.subscribers ++
      ((w.states[state]?).map (fun place => (place, .subscribe (w.cells place)))).toList
    watched := by
      intro s listed
      rcases List.mem_append.1 listed with old | new
      · exact w.watched s old
      · obtain ⟨place, found, rfl⟩ := Option.map_eq_some_iff.1 (Option.mem_toList.1 new)
        exact w.owned place (List.mem_of_getElem? found) }

def seen? (w : ThemeStore) (subscriber : Nat) : Option Theme :=
  (w.subscribers[subscriber]?).map (fun (place, s) => (s.read (w.cells place)).1)

def read (w : ThemeStore) (subscriber : Nat) : ThemeStore :=
  { w with
    subscribers := w.subscribers.modify subscriber
      (fun (place, s) => (place, (s.read (w.cells place)).2))
    watched := by
      intro other listed
      obtain ⟨i, found⟩ := List.mem_iff_getElem?.1 listed
      rw [List.getElem?_modify] at found
      obtain ⟨s, old, rfl⟩ := Option.map_eq_some_iff.1 found
      have known := w.watched s (List.mem_of_getElem? old)
      split <;> exact known }

def hasChanged? (w : ThemeStore) (subscriber : Nat) : Option Bool :=
  (w.subscribers[subscriber]?).map (fun (place, s) => s.hasChanged (w.cells place))

end ThemeStore

end Leaderboard
