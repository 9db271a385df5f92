set_option autoImplicit false

namespace Leaderboard

structure SortedMap (κ α : Type) [Ord κ] where
  entries : List (κ × α)
  ascending : entries.Pairwise (fun a b => compare a.1 b.1 = .lt)

namespace SortedMap

variable {κ α β : Type} [Ord κ]

instance [DecidableEq κ] [DecidableEq α] : DecidableEq (SortedMap κ α) := fun a b =>
  if same : a.entries = b.entries then
    .isTrue (by cases a; cases b; simpa using same)
  else
    .isFalse (fun equal => same (equal ▸ rfl))

theorem ext {a b : SortedMap κ α} (same : a.entries = b.entries) : a = b := by
  cases a; cases b; simpa using same

def empty : SortedMap κ α := ⟨[], .nil⟩

instance : Inhabited (SortedMap κ α) := ⟨empty⟩

def size (m : SortedMap κ α) : Nat := m.entries.length

def isEmpty (m : SortedMap κ α) : Bool := m.entries.isEmpty

def keys (m : SortedMap κ α) : List κ := m.entries.map (·.1)

def findEntry (k : κ) : List (κ × α) → Option α
  | [] => none
  | e :: rest => if compare k e.1 = .eq then some e.2 else findEntry k rest

def find? (m : SortedMap κ α) (k : κ) : Option α := findEntry k m.entries

def contains (m : SortedMap κ α) (k : κ) : Bool := (m.find? k).isSome

def insertEntry (k : κ) (v : α) : List (κ × α) → List (κ × α)
  | [] => [(k, v)]
  | e :: rest =>
    match compare k e.1 with
    | .lt => (k, v) :: e :: rest
    | .eq => (k, v) :: rest
    | .gt => e :: insertEntry k v rest

theorem mem_insertEntry {k : κ} {v : α} {x : κ × α} {es : List (κ × α)}
    (inside : x ∈ insertEntry k v es) : x = (k, v) ∨ x ∈ es := by
  induction es with
  | nil => simpa [insertEntry] using inside
  | cons e rest ih =>
    unfold insertEntry at inside
    split at inside
    · simpa using inside
    · rcases List.mem_cons.1 inside with same | later
      · exact .inl same
      · exact .inr (List.mem_cons_of_mem _ later)
    · rcases List.mem_cons.1 inside with same | later
      · exact .inr (same ▸ List.mem_cons_self)
      · rcases ih later with same | old
        · exact .inl same
        · exact .inr (List.mem_cons_of_mem _ old)

theorem ascending_insertEntry [Std.TransOrd κ] (k : κ) (v : α) {es : List (κ × α)}
    (sorted : es.Pairwise (fun a b => compare a.1 b.1 = .lt)) :
    (insertEntry k v es).Pairwise (fun a b => compare a.1 b.1 = .lt) := by
  induction es with
  | nil => simp [insertEntry]
  | cons e rest ih =>
    have later := List.pairwise_cons.1 sorted
    unfold insertEntry
    split
    next below =>
      refine List.pairwise_cons.2 ⟨fun x inside => ?_, sorted⟩
      rcases List.mem_cons.1 inside with same | old
      · exact same ▸ below
      · exact Std.TransCmp.lt_trans below (later.1 x old)
    next equal =>
      exact List.pairwise_cons.2
        ⟨fun x inside => Std.TransCmp.lt_of_eq_of_lt equal (later.1 x inside), later.2⟩
    next above =>
      refine List.pairwise_cons.2 ⟨fun x inside => ?_, ih later.2⟩
      rcases mem_insertEntry inside with same | old
      · exact same ▸ Std.OrientedCmp.lt_of_gt above
      · exact later.1 x old

def insert [Std.TransOrd κ] (m : SortedMap κ α) (k : κ) (v : α) : SortedMap κ α :=
  ⟨insertEntry k v m.entries, ascending_insertEntry k v m.ascending⟩

def ofList [Std.TransOrd κ] (es : List (κ × α)) : SortedMap κ α :=
  es.foldl (fun m e => m.insert e.1 e.2) empty

def mapValues (f : κ → α → β) (m : SortedMap κ α) : SortedMap κ β where
  entries := m.entries.map (fun e => (e.1, f e.1 e.2))
  ascending := List.pairwise_map.2 m.ascending

def filter (keep : κ → α → Bool) (m : SortedMap κ α) : SortedMap κ α where
  entries := m.entries.filter (fun e => keep e.1 e.2)
  ascending := m.ascending.filter _

def erase (m : SortedMap κ α) (k : κ) : SortedMap κ α :=
  m.filter (fun other _ => compare k other != .eq)

@[simp] theorem find?_empty (k : κ) : (empty : SortedMap κ α).find? k = none := rfl

theorem findEntry_insertEntry [Std.TransOrd κ] [Std.LawfulEqOrd κ] (k j : κ) (v : α)
    (es : List (κ × α)) :
    findEntry j (insertEntry k v es) = if compare j k = .eq then some v else findEntry j es := by
  induction es with
  | nil => simp [insertEntry, findEntry]
  | cons e rest ih =>
    unfold insertEntry
    split
    next => simp [findEntry]
    next equal =>
      have same : k = e.1 := Std.LawfulEqCmp.eq_of_compare equal
      by_cases hit : compare j k = .eq
      · simp [findEntry, hit]
      · simp [findEntry, hit, ← same]
    next above =>
      simp only [findEntry, ih]
      by_cases hit : compare j e.1 = .eq
      · have same : j = e.1 := Std.LawfulEqCmp.eq_of_compare hit
        have apart : compare j k ≠ .eq := by
          intro equal
          have back : j = k := Std.LawfulEqCmp.eq_of_compare equal
          have same_key : compare k k = .eq := Std.ReflCmp.compare_self
          rw [← same, back, same_key] at above
          cases above
        simp [hit, apart]
      · simp [hit]

theorem find?_insert [Std.TransOrd κ] [Std.LawfulEqOrd κ] (m : SortedMap κ α) (k j : κ) (v : α) :
    (m.insert k v).find? j = if compare j k = .eq then some v else m.find? j :=
  findEntry_insertEntry k j v m.entries

end SortedMap

end Leaderboard
