import Leaderboard.Proofs.Settings.Cells

set_option autoImplicit false

namespace Leaderboard

open Settings

namespace Settings

theorem lookup_entry (name other : String) (value : Json) (rest : Layer) :
    List.lookup other ((name, value) :: rest) =
      if other = name then some value else rest.lookup other := by
  by_cases same : other = name
  · simp [same]
  · simp [List.lookup_cons, same, beq_eq_false_iff_ne.2 same]

theorem lookup_put (name other : String) (value : Json) (below : Layer) :
    (put name value below).lookup other =
      if other = name then some value else below.lookup other := by
  induction below with
  | nil => exact lookup_entry name other value []
  | cons entry rest ih =>
    obtain ⟨first, old⟩ := entry
    unfold put
    by_cases here : first = name
    next =>
      subst here
      simp only [beq_self_eq_true, if_true, lookup_entry]
      split <;> rfl
    next =>
      simp only [beq_eq_false_iff_ne.2 here, Bool.false_eq_true, if_false, lookup_entry, ih]
      by_cases same : other = first
      · simp [same, here]
      · simp [same]

def IsScalar : Json → Prop
  | .list _ | .object _ => False
  | _ => True

theorem isScalar_variableValue (text : String) : IsScalar (variableValue text) := by
  unfold variableValue
  dsimp only
  repeat' split
  all_goals trivial

def cover (key : String) (cell : Option Json) (entry : String × Json) : Option Json :=
  if Text.fold entry.1 = key then some (overlay cell entry.2) else cell

theorem lookup_overlayMembers (key : String) (below above : Layer) :
    (overlayMembers below above).lookup key = above.foldl (cover key) (below.lookup key) := by
  induction above generalizing below with
  | nil => rfl
  | cons entry rest ih =>
    rw [overlayMembers, ih, lookup_put, List.foldl_cons, cover]
    by_cases same : Text.fold entry.1 = key
    · simp [same]
    · simp [same, Ne.symm same]

theorem membersOf_overlay_object (below : Option Json) (members : Layer) :
    membersOf (some (overlay below (.object members))) =
      overlayMembers (membersOf below) members := by
  cases members with
  | nil => cases below <;> rfl
  | cons member rest => rfl

end Settings

namespace Setting

theorem Kind.isScalar_encode (kind : Kind) (value : kind.Value) :
    IsScalar (kind.encode value) := by
  cases kind
  case optionalText => cases value <;> trivial
  all_goals trivial

variable (x : Setting) {below : Layer} {cell : Option Json} {value : Json}

def cover (cell : Option Json) (entry : String × Json) : Option Json :=
  if Text.fold entry.1 = x.part then
    match entry.2 with
    | .object members => members.foldl (Settings.cover x.key) cell
    | _ => none
  else cell

theorem cell?_put_overlay (entry : String × Json) :
    x.cell? (put (Text.fold entry.1)
      (overlay (below.lookup (Text.fold entry.1)) entry.2) below) =
      x.cover (x.cell? below) entry := by
  unfold cell? cover
  rw [lookup_put]
  by_cases same : Text.fold entry.1 = x.part
  next =>
    rw [if_pos same.symm, if_pos same, same]
    obtain ⟨name, value⟩ := entry
    cases value with
    | object members => rw [membersOf_overlay_object, lookup_overlayMembers]
    | _ => rfl
  next => rw [if_neg (Ne.symm same), if_neg same]

theorem cell?_overlayMembers (above : Layer) :
    x.cell? (overlayMembers below above) = above.foldl x.cover (x.cell? below) := by
  induction above generalizing below with
  | nil => rfl
  | cons entry rest ih => rw [overlayMembers, ih, cell?_put_overlay, List.foldl_cons]

def valueAt? (member : String × Json) : Option Json :=
  if Text.fold member.1 = x.key then
    match member.2 with
    | .object [] => none
    | value => some value
  else none

-- What is no section takes away all settings of the section.
def valuesIn (entry : String × Json) : List Json :=
  if Text.fold entry.1 = x.part then
    match entry.2 with
    | .object members => members.filterMap x.valueAt?
    | _ => [.null]
  else []

def valueIn? (layer : Layer) : Option Json := ((layer.map expand).flatMap x.valuesIn).getLast?

theorem expand_section (value : Json) : expand (x.part, value) = (x.part, value) := by
  unfold expand
  rw [pathOf_part]
  rfl

theorem expand_own (value : Json) :
    expand (x.name, value) = (x.part, .object [(x.key, value)]) := by
  unfold expand
  rw [pathOf_name]
  rfl

theorem valuesIn_section (y : Setting) (members : Layer) :
    x.valuesIn (y.part, .object members) =
      if y.part = x.part then members.filterMap x.valueAt? else [] := by
  unfold valuesIn
  rw [fold_part]

theorem valueAt?_scalar (name : String) (scalar : IsScalar value) :
    x.valueAt? (name, value) = if Text.fold name = x.key then some value else none := by
  unfold valueAt?
  cases value with
  | list items => exact False.elim scalar
  | object members => exact False.elim scalar
  | _ => rfl

theorem valueAt?_own (y : Setting) (scalar : IsScalar value) :
    x.valueAt? (y.key, value) = if y.key = x.key then some value else none := by
  rw [valueAt?_scalar x y.key scalar, fold_key]

theorem valueAt?_other {x y : Setting} (different : x ≠ y) (value : Json) :
    x.valueAt? (y.key, value) = none := by
  have otherKey : y.key ≠ x.key := fun sameKey => different (eq_of_key sameKey.symm)
  unfold valueAt?
  rw [fold_key, if_neg otherKey]

theorem valueIn?_own (y : Setting) (scalar : IsScalar value) :
    x.valueIn? [(y.name, value)] = if x = y then some value else none := by
  simp only [valueIn?, List.map_cons, List.map_nil, List.flatMap_cons, List.flatMap_nil,
    List.append_nil, expand_own, valuesIn_section, List.filterMap_cons, List.filterMap_nil]
  by_cases same : x = y
  next =>
    subst same
    simp [valueAt?_own x x scalar]
  next => simp [same, valueAt?_other same]

def leaders : List Setting :=
  [endpointUrl, intervalMs, showStderr, bindAddr, logLevel, databaseName]

def followers (leader : Setting) : List Setting := all.filter (·.part == leader.part)

theorem toLayer_eq (s : Settings) :
    s.toLayer = leaders.map fun leader =>
      (leader.part, .object (leader.followers.map fun y => (y.key, y.kind.encode (y.get s)))) := rfl

theorem valueIn?_toLayer (s : Settings) :
    x.valueIn? s.toLayer = some (x.kind.encode (x.get s)) := by
  unfold valueIn?
  rw [toLayer_eq, List.map_map, List.flatMap_map]
  simp only [Function.comp_def, expand_section, valuesIn_section, List.filterMap_map,
    valueAt?_own x _ (Kind.isScalar_encode _ _)]
  cases x <;> simp [leaders, followers, all, part, key, List.filter]

def Flat (layer : Layer) : Prop :=
  ∀ entry ∈ layer.map expand, Text.fold entry.1 = x.part →
    ∃ members, entry.2 = .object members ∧ ∀ member ∈ members, IsScalar member.2

theorem flat_toLayer (s : Settings) : x.Flat s.toLayer := by
  rw [toLayer_eq]
  intro expanded inside _
  obtain ⟨entry, given, rfl⟩ := List.mem_map.1 inside
  obtain ⟨leader, -, rfl⟩ := List.mem_map.1 given
  rw [expand_section]
  refine ⟨_, rfl, fun member listed => ?_⟩
  obtain ⟨y, -, rfl⟩ := List.mem_map.1 listed
  exact Kind.isScalar_encode _ _

theorem flat_own (y : Setting) (scalar : IsScalar value) : x.Flat [(y.name, value)] := by
  intro expanded inside _
  obtain ⟨entry, given, rfl⟩ := List.mem_map.1 inside
  cases List.mem_singleton.1 given
  rw [expand_own]
  refine ⟨_, rfl, fun member listed => ?_⟩
  cases List.mem_singleton.1 listed
  exact scalar

theorem coverMember_of_scalar (member : String × Json) (scalar : IsScalar member.2) :
    Settings.cover x.key cell member = (x.valueAt? member).or cell := by
  obtain ⟨name, value⟩ := member
  rw [valueAt?_scalar x name scalar, Settings.cover]
  by_cases same : Text.fold name = x.key
  next =>
    rw [if_pos same, if_pos same]
    cases value with
    | list items => exact False.elim scalar
    | object members => exact False.elim scalar
    | _ => rfl
  next => rw [if_neg same, if_neg same, Option.none_or]

theorem getLast?_cons_or {α : Type} (first : α) (rest : List α) :
    (first :: rest).getLast? = rest.getLast?.or (some first) := by
  rw [List.getLast?_cons]
  cases rest.getLast? <;> rfl

theorem coverMembers_of_scalars (members : Layer)
    (scalars : ∀ member ∈ members, IsScalar member.2) :
    members.foldl (Settings.cover x.key) cell =
      ((members.filterMap x.valueAt?).getLast?).or cell := by
  induction members generalizing cell with
  | nil => rfl
  | cons member rest ih =>
    have scalar := scalars member List.mem_cons_self
    rw [List.foldl_cons, ih fun other inside => scalars other (List.mem_cons_of_mem _ inside),
      coverMember_of_scalar x member scalar, List.filterMap_cons]
    cases x.valueAt? member with
    | none => rw [Option.none_or]
    | some value => rw [getLast?_cons_or, Option.or_assoc]

theorem cell?_lay {layer : Layer} (flat : x.Flat layer) :
    x.cell? (lay below layer) = (x.valueIn? layer).or (x.cell? below) := by
  unfold Flat at flat
  rw [lay, cell?_overlayMembers, valueIn?]
  generalize x.cell? below = cell
  generalize layer.map expand = entries at flat
  induction entries generalizing cell with
  | nil => rfl
  | cons entry rest ih =>
    have covered : x.cover cell entry = ((x.valuesIn entry).getLast?).or cell := by
      unfold cover valuesIn
      by_cases leads : Text.fold entry.1 = x.part
      next =>
        obtain ⟨members, same, scalars⟩ := flat entry List.mem_cons_self leads
        simp only [leads, if_true, same]
        exact x.coverMembers_of_scalars members scalars
      next => simp [leads]
    rw [List.foldl_cons, ih _ fun other inside => flat other (List.mem_cons_of_mem _ inside),
      covered, List.flatMap_cons, List.getLast?_append, Option.or_assoc]

-- A cell with a section in it fits no setting.
def Shows (cell : Option Json) (value : Json) : Prop :=
  cell.getD .null = value ∨ ∃ members, cell = some (.object members)

theorem Shows.decode? {x : Setting} {result : x.kind.Value} (shows : Shows cell value)
    (held : x.ofCell? cell = some result) : x.kind.decode? value = some result := by
  rcases shows with same | ⟨members, rfl⟩
  next =>
    subst same
    cases cell with
    | some value => exact held
    | none => cases x <;> exact held
  next => cases x <;> contradiction

theorem Shows.coverMember (shows : Shows cell value) (member : String × Json) :
    Shows (Settings.cover x.key cell member) ((x.valueAt? member).getD value) := by
  unfold Settings.cover valueAt?
  obtain ⟨name, above⟩ := member
  by_cases same : Text.fold name = x.key
  next =>
    simp only [same, if_true]
    match above with
    | .object [] =>
      -- a section with nothing in it leaves what is there, and stands where nothing is
      cases cell with
      | none => exact .inr ⟨_, rfl⟩
      | some below => exact shows
    | .object (member :: rest) => exact .inr ⟨_, rfl⟩
    | .null | .boolean _ | .integer _ | .real _ | .text _ | .list _ => exact .inl rfl
  next => simpa [same] using shows

theorem Shows.coverMembers (shows : Shows cell value) (members : Layer) :
    Shows (members.foldl (Settings.cover x.key) cell)
      (((members.filterMap x.valueAt?).getLast?).getD value) := by
  induction members generalizing cell value with
  | nil => exact shows
  | cons member rest ih =>
    have next := ih (shows.coverMember x member)
    rw [List.foldl_cons, List.filterMap_cons]
    cases given : x.valueAt? member with
    | none => rwa [given] at next
    | some above =>
      rwa [List.getLast?_cons, Option.getD_some, ← Option.getD_some (a := above), ← given]

theorem Shows.cover (shows : Shows cell value) (entry : String × Json) :
    Shows (x.cover cell entry) (((x.valuesIn entry).getLast?).getD value) := by
  unfold Setting.cover valuesIn
  obtain ⟨name, above⟩ := entry
  by_cases same : Text.fold name = x.part
  next =>
    simp only [same, if_true]
    cases above with
    | object members => exact shows.coverMembers x members
    | _ => exact .inl rfl
  next => simpa [same] using shows

theorem Shows.lay (shows : Shows (x.cell? below) value) (layer : Layer) :
    Shows (x.cell? (lay below layer)) ((x.valueIn? layer).getD value) := by
  unfold Settings.lay valueIn?
  rw [cell?_overlayMembers]
  generalize x.cell? below = cell at shows
  induction layer.map expand generalizing cell value with
  | nil => exact shows
  | cons entry rest ih =>
    have next := ih _ (shows.cover x entry)
    rwa [List.foldl_cons, List.flatMap_cons, List.getLast?_append, Option.getD_or]

theorem Shows.layAll (shows : Shows (x.cell? below) value) (layers : List Layer) :
    Shows (x.cell? (layers.foldl Settings.lay below))
      ((layers.reverse.findSome? x.valueIn?).getD value) := by
  induction layers generalizing below value with
  | nil => exact shows
  | cons layer rest ih =>
    have next := ih (shows.lay x layer)
    rw [List.foldl_cons, List.reverse_cons, List.findSome?_append]
    simpa [Option.getD_or] using next

theorem shows_stack (layers : List Layer) :
    Shows (x.cell? (stack layers)) ((layers.reverse.findSome? x.valueIn?).getD .null) :=
  Shows.layAll x (.inl rfl) layers

end Setting

namespace Settings

def isList : Json → Bool
  | .list _ => true
  | _ => false

-- A section that is given as a list has no names in it.
def ByName (layer : Layer) : Prop :=
  ∀ entry ∈ layer.map expand, ∀ x ∈ Setting.all, Text.fold entry.1 = x.part →
    isList entry.2 = false

instance (layer : Layer) : Decidable (ByName layer) :=
  inferInstanceAs (Decidable (∀ entry ∈ layer.map expand, ∀ x ∈ Setting.all,
    Text.fold entry.1 = x.part → isList entry.2 = false))

theorem ByName.ne_list {layer : Layer} {entry : String × Json} {x : Setting}
    (byName : ByName layer) (inside : entry ∈ layer.map expand) (leads : Text.fold entry.1 = x.part)
    (items : List Json) : entry.2 ≠ .list items := by
  intro same
  have notList := byName entry inside x x.mem_all leads
  rw [same] at notList
  cases notList

theorem overlay_ne_list {below : Option Json} {above : Json}
    (belowNamed : ∀ items, below ≠ some (.list items)) (aboveNamed : ∀ items, above ≠ .list items)
    (items : List Json) : overlay below above ≠ .list items := by
  match above with
  | .object [] =>
    cases below with
    | none => exact nofun
    | some value => exact fun same => belowNamed items (congrArg some same)
  | .list others => exact absurd rfl (aboveNamed others)
  | .object (member :: rest) => exact nofun
  | .null | .boolean _ | .integer _ | .real _ | .text _ => exact nofun

theorem noList_lay {below layer : Layer} (x : Setting)
    (noList : ∀ items, below.lookup x.part ≠ some (.list items)) (byName : ByName layer) :
    ∀ items, (lay below layer).lookup x.part ≠ some (.list items) := by
  rw [lay, lookup_overlayMembers]
  have named : ∀ entry ∈ layer.map expand, Text.fold entry.1 = x.part →
      ∀ items, entry.2 ≠ .list items := fun _ inside leads => byName.ne_list inside leads
  clear byName
  generalize below.lookup x.part = there at noList
  generalize layer.map expand = entries at named
  induction entries generalizing there with
  | nil => exact noList
  | cons entry rest ih =>
    have later := fun e inside => named e (List.mem_cons_of_mem entry inside)
    rw [List.foldl_cons]
    refine ih _ (fun items same => ?_) later
    unfold cover at same
    split at same
    next leads =>
      have given := named entry List.mem_cons_self leads
      exact overlay_ne_list noList given items (Option.some.inj same)
    next => exact noList items same

theorem noList_stack {layers : List Layer} (byName : ∀ layer ∈ layers, ByName layer)
    (x : Setting) : ∀ items, (stack layers).lookup x.part ≠ some (.list items) := by
  unfold stack
  have start : ∀ items, List.lookup x.part [] ≠ some (Json.list items) := by simp
  generalize ([] : Layer) = below at start
  induction layers generalizing below with
  | nil => exact start
  | cons layer rest ih =>
    have later := fun l inside => byName l (List.mem_cons_of_mem layer inside)
    exact ih later _ (noList_lay x start (byName layer List.mem_cons_self))

theorem decode?_of_ofLayers {layers : List Layer} {s : Settings}
    (loaded : ofLayer? (stack layers) = some s) (byName : ∀ layer ∈ layers, ByName layer)
    (x : Setting) :
    x.kind.decode? ((layers.reverse.findSome? x.valueIn?).getD .null) = some (x.get s) := by
  have sectioned := sectioned_of_ofLayer? loaded (noList_stack byName)
  exact (x.shows_stack layers).decode? ((ofLayer?_eq_some_iff sectioned).1 loaded x)

end Settings

end Leaderboard
