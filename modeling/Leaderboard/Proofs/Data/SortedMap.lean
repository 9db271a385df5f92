import Mathlib.Data.List.Nodup
import Leaderboard.Data.SortedMap

set_option autoImplicit false

namespace Leaderboard.SortedMap

variable {κ α : Type} [Ord κ]

theorem findEntry_append (k : κ) (first second : List (κ × α)) :
    findEntry k (first ++ second) = (findEntry k first).or (findEntry k second) := by
  induction first with
  | nil => rfl
  | cons e rest ih =>
    by_cases hit : compare k e.1 = .eq <;> simp [findEntry, hit, ih]

variable [Std.LawfulEqOrd κ]

theorem mem_of_findEntry {k : κ} {v : α} {es : List (κ × α)} (found : findEntry k es = some v) :
    (k, v) ∈ es := by
  induction es with
  | nil => cases found
  | cons e rest ih =>
    rw [findEntry] at found
    split at found
    next hit =>
      have same : k = e.1 := Std.LawfulEqCmp.eq_of_compare hit
      cases found
      rw [same]
      exact List.mem_cons_self
    next => exact List.mem_cons_of_mem _ (ih found)

theorem findEntry_eq_none_iff (k : κ) (es : List (κ × α)) :
    findEntry k es = none ↔ ∀ e ∈ es, e.1 ≠ k := by
  induction es with
  | nil => simp [findEntry]
  | cons e rest ih =>
    rw [findEntry, List.forall_mem_cons, ← ih]
    by_cases same : k = e.1
    · simp [same, Std.ReflCmp.compare_self]
    · have apart : compare k e.1 ≠ .eq := fun equal => same (Std.LawfulEqCmp.eq_of_compare equal)
      simp [apart, Ne.symm same]

theorem findEntry_eq_some_iff (k : κ) (v : α) (es : List (κ × α)) :
    findEntry k es = some v ↔
      ∃ before after, es = before ++ (k, v) :: after ∧ ∀ e ∈ before, e.1 ≠ k := by
  constructor
  · intro found
    induction es with
    | nil => cases found
    | cons e rest ih =>
      rw [findEntry] at found
      split at found
      next hit =>
        have same : k = e.1 := Std.LawfulEqCmp.eq_of_compare hit
        cases found
        exact ⟨[], rest, by rw [same]; rfl, by simp⟩
      next miss =>
        obtain ⟨before, after, rfl, earlier⟩ := ih found
        refine ⟨e :: before, after, rfl, List.forall_mem_cons.2 ⟨?_, earlier⟩⟩
        rintro rfl
        exact miss Std.ReflCmp.compare_self
  · rintro ⟨before, after, rfl, earlier⟩
    rw [findEntry_append, (findEntry_eq_none_iff k before).2 earlier]
    simp [findEntry, Std.ReflCmp.compare_self]

variable [Std.TransOrd κ]

omit [Std.LawfulEqOrd κ] in
theorem ne_of_below {j k : κ} (below : compare j k = .lt) : j ≠ k := by
  intro same
  have equal : compare j j = .eq := Std.ReflCmp.compare_self
  rw [← same, equal] at below
  cases below

theorem findEntry_of_mem {k : κ} {v : α} {es : List (κ × α)}
    (ascending : es.Pairwise (fun a b => compare a.1 b.1 = .lt)) (inside : (k, v) ∈ es) :
    findEntry k es = some v := by
  obtain ⟨before, after, rfl⟩ := List.append_of_mem inside
  have earlier := (List.pairwise_append.1 ascending).2.2
  have unseen : findEntry k before = none := by
    rw [findEntry_eq_none_iff]
    intro e early
    exact ne_of_below (earlier e early (k, v) List.mem_cons_self)
  rw [findEntry_append, unseen]
  simp [findEntry, Std.ReflCmp.compare_self]

theorem mem_entries_iff (m : SortedMap κ α) (k : κ) (v : α) :
    (k, v) ∈ m.entries ↔ m.find? k = some v :=
  ⟨findEntry_of_mem m.ascending, mem_of_findEntry⟩

omit [Std.LawfulEqOrd κ] in
theorem eq_of_ascending {β : Type} (key : β → κ) {xs ys : List β}
    (first : xs.Pairwise (fun a b => compare (key a) (key b) = .lt))
    (second : ys.Pairwise (fun a b => compare (key a) (key b) = .lt))
    (members : ∀ x, x ∈ xs ↔ x ∈ ys) : xs = ys := by
  have nodup {zs : List β} (ascending : zs.Pairwise (fun a b => compare (key a) (key b) = .lt)) :
      zs.Nodup :=
    ascending.imp fun below equal => ne_of_below below (congrArg key equal)
  have perm := (List.perm_ext_iff_of_nodup (nodup first) (nodup second)).2 members
  refine perm.eq_of_pairwise (fun x y _ _ below above => ?_) first second
  rw [Std.OrientedCmp.gt_of_lt below] at above
  cases above

theorem ext_find? {a b : SortedMap κ α} (same : ∀ k, a.find? k = b.find? k) : a = b := by
  refine ext (eq_of_ascending Prod.fst a.ascending b.ascending ?_)
  rintro ⟨k, v⟩
  rw [mem_entries_iff, mem_entries_iff, same]

theorem entries_eq_filterMap {m : SortedMap κ α} {ks : List κ}
    (ascending : ks.Pairwise (fun a b => compare a b = .lt)) (covers : ∀ k ∈ m.keys, k ∈ ks) :
    m.entries = ks.filterMap (fun k => (m.find? k).map (fun v => (k, v))) := by
  refine eq_of_ascending Prod.fst m.ascending ?_ ?_
  · refine ascending.filterMap _ (fun j k below a first b second => ?_)
    obtain ⟨v, -, rfl⟩ := Option.map_eq_some_iff.1 first
    obtain ⟨w, -, rfl⟩ := Option.map_eq_some_iff.1 second
    exact below
  · rintro ⟨k, v⟩
    simp only [mem_entries_iff, List.mem_filterMap, Option.map_eq_some_iff, Prod.mk.injEq]
    constructor
    · intro found
      have inside : (k, v) ∈ m.entries := (mem_entries_iff m k v).2 found
      exact ⟨k, covers k (List.mem_map.2 ⟨(k, v), inside, rfl⟩), v, found, rfl, rfl⟩
    · rintro ⟨j, -, w, found, rfl, rfl⟩
      exact found

theorem keys_eq_filter {m : SortedMap κ α} {ks : List κ}
    (ascending : ks.Pairwise (fun a b => compare a b = .lt)) (covers : ∀ k ∈ m.keys, k ∈ ks) :
    m.keys = ks.filter (fun k => (m.find? k).isSome) := by
  have asked (k : κ) : ((m.find? k).map (fun v => (k, v))).map Prod.fst =
      Option.guard (fun k => (m.find? k).isSome) k := by
    cases found : m.find? k <;> simp [Option.guard, found]
  rw [keys, entries_eq_filterMap ascending covers, List.map_filterMap]
  simp only [asked, List.filterMap_eq_filter]

theorem findEntry_foldl_insert (es : List (κ × α)) (m : SortedMap κ α) (k : κ) :
    (es.foldl (fun m e => m.insert e.1 e.2) m).find? k =
      (findEntry k es.reverse).or (m.find? k) := by
  induction es generalizing m with
  | nil => rfl
  | cons e rest ih =>
    rw [List.foldl_cons, ih, List.reverse_cons, findEntry_append, find?_insert]
    by_cases hit : compare k e.1 = .eq <;> simp [findEntry, hit]

theorem find?_ofList (es : List (κ × α)) (k : κ) :
    (ofList es).find? k = findEntry k es.reverse := by
  rw [ofList, findEntry_foldl_insert, find?_empty, Option.or_none]

theorem find?_ofList_eq_some_iff (es : List (κ × α)) (k : κ) (v : α) :
    (ofList es).find? k = some v ↔
      ∃ before after, es = before ++ (k, v) :: after ∧ ∀ e ∈ after, e.1 ≠ k := by
  rw [find?_ofList, findEntry_eq_some_iff]
  constructor
  · rintro ⟨after, before, same, later⟩
    refine ⟨before.reverse, after.reverse, ?_, fun e inside => later e (List.mem_reverse.1 inside)⟩
    rw [← List.reverse_reverse es, same]
    simp
  · rintro ⟨before, after, rfl, later⟩
    refine ⟨after.reverse, before.reverse, by simp, fun e inside => ?_⟩
    exact later e (List.mem_reverse.1 inside)

theorem findEntry_reverse_of_mem {k : κ} {v : α} {es : List (κ × α)}
    (ascending : es.Pairwise (fun a b => compare a.1 b.1 = .lt)) (inside : (k, v) ∈ es) :
    findEntry k es.reverse = some v := by
  cases found : findEntry k es.reverse with
  | none =>
    rw [findEntry_eq_none_iff] at found
    exact absurd rfl (found _ (List.mem_reverse.2 inside))
  | some w =>
    have other := List.mem_reverse.1 (mem_of_findEntry found)
    rw [← findEntry_of_mem ascending inside, ← findEntry_of_mem ascending other]

theorem ofList_entries (m : SortedMap κ α) : ofList m.entries = m := by
  apply ext_find?
  intro k
  rw [find?_ofList]
  cases found : m.find? k with
  | none =>
    rw [find?, findEntry_eq_none_iff] at found
    rw [findEntry_eq_none_iff]
    intro e inside
    exact found e (List.mem_reverse.1 inside)
  | some v => exact findEntry_reverse_of_mem m.ascending ((mem_entries_iff m k v).2 found)

theorem find?_mapValues {β : Type} (f : κ → α → β) (m : SortedMap κ α) (k : κ) :
    (m.mapValues f).find? k = (m.find? k).map (f k) := by
  apply Option.ext
  intro v
  rw [← mem_entries_iff, Option.map_eq_some_iff]
  simp only [mapValues, List.mem_map, Prod.mk.injEq, ← mem_entries_iff, Prod.exists]
  constructor
  · rintro ⟨k, w, inside, rfl, rfl⟩
    exact ⟨w, inside, rfl⟩
  · rintro ⟨w, inside, rfl⟩
    exact ⟨k, w, inside, rfl, rfl⟩

theorem contains_iff (m : SortedMap κ α) (k : κ) : m.contains k = true ↔ k ∈ m.keys := by
  simp only [contains, Option.isSome_iff_exists, ← mem_entries_iff, keys, List.mem_map, Prod.exists,
    exists_and_right, exists_eq_right]

theorem eq_of_keys {a b : SortedMap κ Unit} (same : ∀ k, k ∈ a.keys ↔ k ∈ b.keys) : a = b := by
  refine ext_find? fun k => ?_
  have here := same k
  rw [← contains_iff, ← contains_iff, contains, contains] at here
  cases first : a.find? k <;> cases second : b.find? k <;> simp [first, second] at here
  case none.none => rfl
  case some.some => rfl

theorem find?_filter (keep : κ → α → Bool) (m : SortedMap κ α) (k : κ) :
    (m.filter keep).find? k = (m.find? k).filter (keep k) := by
  apply Option.ext
  intro v
  rw [← mem_entries_iff, Option.filter_eq_some_iff, ← mem_entries_iff]
  exact List.mem_filter

end Leaderboard.SortedMap
