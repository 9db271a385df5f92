import Mathlib.Data.List.Basic
import Leaderboard.Theme.Store

set_option autoImplicit false

namespace Leaderboard

namespace ThemeCell

variable (c : ThemeCell) (theme : Theme)

@[simp] theorem current_set : (c.set theme).current = theme := by
  unfold set
  split
  next same => exact same
  next => rfl

@[simp] theorem set_current : c.set c.current = c := by
  simp [set]

theorem changes_set :
    (c.set theme).changes = c.changes + if c.current = theme then 0 else 1 := by
  unfold set
  split <;> rfl

end ThemeCell

inductive ThemeCall
  | create (initial : Theme)
  | clone (state : Nat)
  | set (state : Nat) (theme : Theme)
  | toggle (state : Nat)
  | subscribe (state : Nat)
  | read (subscriber : Nat)
deriving DecidableEq

namespace ThemeStore

def act (w : ThemeStore) : ThemeCall → ThemeStore
  | .create initial => w.create initial
  | .clone state => w.clone state
  | .set state theme => w.set state theme
  | .toggle state => (w.toggle state).2
  | .subscribe state => w.subscribe state
  | .read subscriber => w.read subscriber

def after (w : ThemeStore) (calls : List ThemeCall) : ThemeStore := calls.foldl act w

def Changes (state : Nat) : ThemeStore → List ThemeCall → Prop
  | _, [] => False
  | w, call :: rest =>
    (w.act call).current? state ≠ w.current? state ∨ Changes state (w.act call) rest

instance decidableChanges (state : Nat) :
    (w : ThemeStore) → (calls : List ThemeCall) → Decidable (Changes state w calls)
  | _, [] => inferInstanceAs (Decidable False)
  | w, call :: rest =>
    have : Decidable (Changes state (w.act call) rest) := decidableChanges state (w.act call) rest
    inferInstanceAs (Decidable (_ ∨ Changes state (w.act call) rest))

inductive Clone (w : ThemeStore) (first : Nat) : List ThemeCall → Nat → Prop
  | self (calls : List ThemeCall) : Clone w first calls first
  | clone {before : List ThemeCall} {state : Nat} (earlier : Clone w first before state)
    (later : List ThemeCall) :
    Clone w first (before ++ .clone state :: later) (w.after before).states.length

theorem after_append (w : ThemeStore) (before later : List ThemeCall) :
    w.after (before ++ later) = (w.after before).after later :=
  List.foldl_append

variable {w : ThemeStore} {state place subscriber : Nat}

theorem current_of_place (there : w.states[state]? = some place) :
    w.current? state = some (w.cells place).current := by
  rw [current?, there, Option.map_some]

theorem clone_of_place (there : w.states[state]? = some place) :
    (w.clone state).states = w.states ++ [place] := by
  simp only [clone, there, Option.toList_some]

theorem set_of_place (there : w.states[state]? = some place) (theme : Theme) :
    w.set state theme = w.update place ((w.cells place).set theme) := by
  simp only [set, there]

theorem subscribe_of_place (there : w.states[state]? = some place) :
    (w.subscribe state).subscribers =
      w.subscribers ++ [(place, .subscribe (w.cells place))] := by
  simp only [subscribe, there, Option.map_some, Option.toList_some]

theorem toggle_eq_set (w : ThemeStore) (state : Nat) :
    ∃ theme, (w.toggle state).2 = w.set state theme := by
  cases there : w.states[state]? with
  | none => exact ⟨.light, by simp only [toggle, set, there]⟩
  | some place =>
    exact ⟨(w.cells place).current.toggle, by simp only [toggle, set, there, ThemeCell.toggle]⟩

theorem toggle_of_current {theme : Theme} (shown : w.current? state = some theme) :
    w.toggle state = (some theme.toggle, w.set state theme.toggle) := by
  obtain ⟨place, there, rfl⟩ := Option.map_eq_some_iff.1 shown
  simp only [toggle, set, there, ThemeCell.toggle]

section set

variable (w) (state) (theme : Theme)

theorem states_set : (w.set state theme).states = w.states := by
  unfold set
  split <;> rfl

theorem subscribers_set : (w.set state theme).subscribers = w.subscribers := by
  unfold set
  split <;> rfl

theorem cells_set (place : Nat) :
    ∃ t, (w.set state theme).cells place = (w.cells place).set t := by
  have kept : ∃ t, w.cells place = (w.cells place).set t :=
    ⟨_, (w.cells place).set_current.symm⟩
  cases there : w.states[state]? with
  | none => simpa only [set, there] using kept
  | some other =>
    rw [set_of_place there]
    by_cases here : place = other
    · exact ⟨theme, by simp [update, here]⟩
    · simpa only [update, here, if_false] using kept

end set

section act

variable (w) (call : ThemeCall)

theorem states_act : w.states <+: (w.act call).states := by
  cases call with
  | create | clone => exact List.prefix_append _ _
  | subscribe | read => exact List.prefix_rfl
  | set state theme => exact (w.states_set state theme).symm ▸ List.prefix_rfl
  | toggle state =>
    obtain ⟨theme, same⟩ := w.toggle_eq_set state
    rw [act, same]
    exact (w.states_set state theme).symm ▸ List.prefix_rfl

theorem cells_act (inUse : place < w.used) :
    ∃ theme, (w.act call).cells place = (w.cells place).set theme := by
  have kept : ∃ theme, w.cells place = (w.cells place).set theme :=
    ⟨_, (w.cells place).set_current.symm⟩
  cases call with
  | create =>
    -- The new cell is put at a place that was not in use.
    simpa only [act, create, update, Nat.ne_of_lt inUse, if_false] using kept
  | clone | subscribe | read => exact kept
  | set state theme => exact w.cells_set state theme place
  | toggle state =>
    obtain ⟨theme, same⟩ := w.toggle_eq_set state
    rw [act, same]
    exact w.cells_set state theme place

theorem subscriber_act {s : Nat × ThemeSubscriber} (known : w.subscribers[subscriber]? = some s)
    (unread : call ≠ .read subscriber) : (w.act call).subscribers[subscriber]? = some s := by
  cases call with
  | create | clone => exact known
  | subscribe =>
    have old := (List.getElem?_eq_some_iff.1 known).1
    exact (List.getElem?_append_left old).trans known
  | read other =>
    have apart : other ≠ subscriber := fun same => unread (congrArg _ same)
    simp only [act, read, List.getElem?_modify, apart, if_false, known]
    rfl
  | set state theme => rwa [act, subscribers_set]
  | toggle state =>
    obtain ⟨theme, same⟩ := w.toggle_eq_set state
    rwa [act, same, subscribers_set]

end act

theorem subscriber_read {s : ThemeSubscriber}
    (known : w.subscribers[subscriber]? = some (place, s)) :
    (w.read subscriber).subscribers[subscriber]? =
      some (place, .subscribe (w.cells place)) := by
  simp only [read, List.getElem?_modify, known, if_true]
  rfl

theorem place_act (there : w.states[state]? = some place) (call : ThemeCall) :
    (w.act call).states[state]? = some place := by
  obtain ⟨more, grown⟩ := w.states_act call
  have old := (List.getElem?_eq_some_iff.1 there).1
  rw [← grown, List.getElem?_append_left old, there]

theorem changes_act (there : w.states[state]? = some place) (call : ThemeCall) :
    (w.cells place).changes ≤ ((w.act call).cells place).changes ∧
      ((w.cells place).changes = ((w.act call).cells place).changes ↔
        (w.act call).current? state = w.current? state) := by
  obtain ⟨theme, now⟩ := w.cells_act call (w.owned place (List.mem_of_getElem? there))
  rw [current_of_place there, current_of_place (place_act there call), now,
    ThemeCell.changes_set, ThemeCell.current_set, Option.some_inj]
  split
  next same => simp [same]
  next other => simp [Ne.symm other]

theorem changes_after (there : w.states[state]? = some place) (calls : List ThemeCall) :
    (w.cells place).changes ≤ ((w.after calls).cells place).changes ∧
      ((w.cells place).changes ≠ ((w.after calls).cells place).changes ↔
        Changes state w calls) := by
  induction calls generalizing w with
  | nil => simp [after, Changes]
  | cons call rest ih =>
    -- The count never falls, so it ends where it began only if no call has raised it, also if the
    -- theme ends as it began.
    obtain ⟨first, firstIff⟩ := changes_act there call
    obtain ⟨later, laterIff⟩ := ih (place_act there call)
    change _ ≤ (((w.act call).after rest).cells place).changes ∧
      (_ ≠ (((w.act call).after rest).cells place).changes ↔ _)
    rw [Changes, ← laterIff]
    simp only [ne_eq, ← firstIff]
    omega

theorem place_after (there : w.states[state]? = some place) (calls : List ThemeCall) :
    (w.after calls).states[state]? = some place := by
  induction calls generalizing w with
  | nil => exact there
  | cons call rest ih => exact ih (place_act there call)

theorem place_of_clone {first : Nat} {calls : List ThemeCall}
    (there : w.states[first]? = some place) (cloned : Clone w first calls state) :
    (w.after calls).states[state]? = some place := by
  induction cloned with
  | self calls => exact place_after there calls
  | @clone before origin earlier later ih =>
    have made : ((w.after before).clone origin).states[(w.after before).states.length]? =
        some place := by
      rw [clone_of_place ih, List.getElem?_concat_length]
    rw [after_append]
    exact place_after made later

theorem set_of_current {theme : Theme} (shown : w.current? state = some theme) :
    w.set state theme = w := by
  obtain ⟨place, there, rfl⟩ := Option.map_eq_some_iff.1 shown
  have same (other : Nat) : (if other = place then w.cells place else w.cells other) =
      w.cells other := by
    split
    next here => rw [here]
    next => rfl
  simp only [set, there, ThemeCell.set_current, update, same]

theorem current_of_set {other : Nat} (there : w.states[state]? = some place)
    (alike : w.states[other]? = some place) (theme : Theme) :
    (w.set state theme).current? other = some theme := by
  have kept : (w.set state theme).states[other]? = some place := by rwa [states_set]
  rw [current_of_place kept, set_of_place there]
  simp [update]

theorem subscriber_after {s : Nat × ThemeSubscriber} (known : w.subscribers[subscriber]? = some s)
    {calls : List ThemeCall} (unread : .read subscriber ∉ calls) :
    (w.after calls).subscribers[subscriber]? = some s := by
  induction calls generalizing w with
  | nil => exact known
  | cons call rest ih =>
    rw [List.mem_cons, not_or] at unread
    exact ih (subscriber_act w call known (Ne.symm unread.1)) unread.2

theorem watching_after {s : ThemeSubscriber} (known : w.subscribers[subscriber]? = some (place, s))
    (calls : List ThemeCall) :
    ∃ s, (w.after calls).subscribers[subscriber]? = some (place, s) := by
  induction calls generalizing w s with
  | nil => exact ⟨s, known⟩
  | cons call rest ih =>
    by_cases looks : call = .read subscriber
    · rw [looks]
      exact ih (subscriber_read known)
    · exact ih (subscriber_act w call known looks)

theorem told_iff (there : w.states[state]? = some place)
    (informed : w.subscribers[subscriber]? = some (place, .subscribe (w.cells place)))
    {calls : List ThemeCall} (unread : .read subscriber ∉ calls) :
    ∃ told, (w.after calls).hasChanged? subscriber = some told ∧
      (told = true ↔ Changes state w calls) := by
  have known := subscriber_after informed unread
  refine ⟨_, by rw [hasChanged?, known, Option.map_some], ?_⟩
  rw [← (changes_after there calls).2]
  simp [ThemeSubscriber.hasChanged, ThemeSubscriber.subscribe]

theorem informed_after (there : w.states[state]? = some place) {past : List ThemeCall}
    (looked : past = [] ∨ ∃ front, past = front ++ [.read w.subscribers.length]) :
    let start := (w.subscribe state).after past
    start.subscribers[w.subscribers.length]? = some (place, .subscribe (start.cells place)) := by
  have begun : (w.subscribe state).subscribers[w.subscribers.length]? =
      some (place, .subscribe ((w.subscribe state).cells place)) := by
    rw [subscribe_of_place there, List.getElem?_concat_length]
    rfl
  rcases looked with rfl | ⟨front, rfl⟩
  · exact begun
  · obtain ⟨s, known⟩ := watching_after begun front
    simp only [after_append]
    exact subscriber_read known

theorem clones_share_theme {first : Nat} (present : first < w.states.length)
    (calls : List ThemeCall) :
    let now := w.after calls
    let i := now.subscribers.length
    ∃ theme, (∀ o, Clone w first calls o → now.current? o = some theme) ∧
      ∀ o, Clone w first calls o →
        (∀ other, Clone w first calls other → ∀ t, (now.set o t).current? other = some t) ∧
        (now.toggle o).1 = some theme.toggle ∧
        (∀ other, Clone w first calls other →
          (now.toggle o).2.current? other = some theme.toggle) ∧
        now.set o theme = now ∧
        ∀ past since, (past = [] ∨ ∃ front, past = front ++ [.read i]) → .read i ∉ since →
          let looked := (now.subscribe o).after past
          ∃ told, (looked.after since).hasChanged? i = some told ∧
            (told = true ↔ Changes first looked since) := by
  intro now i
  obtain ⟨place, there⟩ : ∃ place, w.states[first]? = some place :=
    ⟨_, List.getElem?_eq_getElem present⟩
  have placed (o : Nat) (cloned : Clone w first calls o) : now.states[o]? = some place :=
    place_of_clone there cloned
  have shown (o : Nat) (cloned : Clone w first calls o) :
      now.current? o = some (now.cells place).current := current_of_place (placed o cloned)
  refine ⟨(now.cells place).current, shown, fun o cloned => ?_⟩
  have toggled := toggle_of_current (shown o cloned)
  refine ⟨?set, ?returned, ?seen, set_of_current (shown o cloned), ?told⟩
  case set => exact fun other alike => current_of_set (placed o cloned) (placed other alike)
  case returned => rw [toggled]
  case seen =>
    intro other alike
    rw [toggled]
    exact current_of_set (placed o cloned) (placed other alike) _
  case told =>
    intro past since looked unread
    have kept : (now.subscribe o).states[first]? = some place := placed first (.self calls)
    exact told_iff (place_after kept past) (informed_after (placed o cloned) looked) unread

-- The third state is a clone of a clone. The theme is turned, turned back and set once more.
theorem clones_share_theme_turned_back :
    let w := ThemeStore.empty.create .light
    let calls := [.clone 0, .clone 1, .set 2 .dark]
    let now := w.after calls
    0 < w.states.length ∧ Clone w 0 calls 2 ∧ now.current? 0 = some .dark ∧
      (now.toggle 2).1 = some .light ∧ (now.toggle 2).2.current? 0 = some .light ∧
      ((now.subscribe 2).after [.toggle 0, .toggle 1]).hasChanged? 0 = some true ∧
      ((now.subscribe 2).after [.toggle 0, .toggle 1, .read 0, .set 1 .dark]).hasChanged? 0 =
        some false := by
  intro w calls now
  have child : Clone w 0 [.clone 0] 1 := .clone (.self []) []
  have grandchild : Clone w 0 calls 2 := .clone child [.set 2 .dark]
  have present : 0 < w.states.length := by decide
  obtain ⟨theme, shown, shared⟩ := clones_share_theme present calls
  have dark : some theme = some .dark := (shown 0 (.self calls)).symm.trans rfl
  cases dark
  obtain ⟨-, returned, seen, -, told⟩ := shared 2 grandchild
  obtain ⟨turned, first, news⟩ := told [] [.toggle 0, .toggle 1] (.inl rfl) (by decide)
  obtain ⟨again, second, nothing⟩ := told [.toggle 0, .toggle 1, .read 0] [.set 1 .dark]
    (.inr ⟨[.toggle 0, .toggle 1], rfl⟩) (by decide)
  have told_turned : turned = true := news.2 (by decide)
  have told_again : again = false := by
    rw [← Bool.not_eq_true, nothing]
    decide
  rw [told_turned] at first
  rw [told_again, ← after_append] at second
  exact ⟨present, grandchild, rfl, returned, seen 0 (.self calls), first, second⟩

end ThemeStore

end Leaderboard
