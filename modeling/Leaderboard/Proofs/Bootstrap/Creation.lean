import Leaderboard.Proofs.Bootstrap.Faults
import Leaderboard.Proofs.Bootstrap.Lexing
import Leaderboard.Proofs.Json.Writing

set_option autoImplicit false

namespace Leaderboard.Bootstrap

section blocks

variable {α β : Type} {sep : β}

-- A mark that two lists do not hold, but that begins all that comes after them.
theorem append_inj_of_mark {front other rest more : List β} (free : sep ∉ front)
    (free' : sep ∉ other) (marked : ∀ b ∈ rest.head?, b = sep) (marked' : ∀ b ∈ more.head?, b = sep)
    (same : front ++ rest = other ++ more) : front = other ∧ rest = more := by
  induction front generalizing other with
  | nil =>
    cases other with
    | nil => exact ⟨rfl, same⟩
    | cons b _ =>
      rw [List.nil_append] at same
      obtain rfl := marked b (by rw [same]; rfl)
      exact absurd List.mem_cons_self free'
  | cons b front ih =>
    cases other with
    | nil =>
      rw [List.nil_append] at same
      obtain rfl := marked' b (by rw [← same]; rfl)
      exact absurd List.mem_cons_self free
    | cons d other =>
      obtain ⟨rfl, tails⟩ := List.cons.inj same
      obtain ⟨rfl, rest⟩ := ih (fun inside => free (List.mem_cons_of_mem b inside))
        (fun inside => free' (List.mem_cons_of_mem b inside)) tails
      exact ⟨rfl, rest⟩

theorem map_eq_of_flatMap_mark {f : α → List β} (free : ∀ x, sep ∉ f x) {xs ys : List α}
    (same : xs.flatMap (fun x => sep :: f x) = ys.flatMap fun y => sep :: f y) :
    xs.map f = ys.map f := by
  have marked (zs : List α) : ∀ b ∈ (zs.flatMap fun z => sep :: f z).head?, b = sep := by
    cases zs <;> simp
  induction xs generalizing ys with
  | nil =>
    cases ys with
    | nil => rfl
    | cons y ys => cases same
  | cons x xs ih =>
    cases ys with
    | nil => cases same
    | cons y ys =>
      rw [List.flatMap_cons, List.flatMap_cons, List.cons_append, List.cons_append] at same
      obtain ⟨first, others⟩ := append_inj_of_mark (free x) (free y) (marked xs) (marked ys)
        (List.cons.inj same).2
      rw [List.map_cons, List.map_cons, first, ih others]

theorem eq_of_map_eq {f : α → β} {P : α → Prop} (inj : ∀ x y, P x → P y → f x = f y → x = y)
    {xs ys : List α} (fit : ∀ x ∈ xs, P x) (fit' : ∀ y ∈ ys, P y) (same : xs.map f = ys.map f) :
    xs = ys := by
  induction xs generalizing ys with
  | nil => exact (List.map_eq_nil_iff.1 same.symm).symm
  | cons x xs ih =>
    cases ys with
    | nil => cases same
    | cons y ys =>
      rw [List.forall_mem_cons] at fit fit'
      obtain ⟨first, others⟩ := List.cons.inj same
      rw [inj x y fit.1 fit'.1 first, ih fit.2 fit'.2 others]

end blocks

def literal (name : String) : List Char := (Json.textLiteral name).toList

def keyText (k : IndexKey) : List Char :=
  literal k.field ++ (": ".toList ++ (toString k.direction).toList)

def keysText (keys : List IndexKey) : List Char := ", ".toList.intercalate (keys.map keyText)

def ensureLine (name : String) : List Char :=
  "ensureCollection(".toList ++ literal name ++ ");".toList

def optionsText (unique : Bool) : List Char :=
  if unique then ", \x7bunique: true\x7d".toList else []

def createLine (collection : String) (i : Index) : List Char :=
  "db.getCollection(".toList ++ literal collection ++ ").createIndex(\x7b".toList ++
    keysText i.keys ++ '\x7d' :: (optionsText i.unique ++ ");".toList)

def creationLines (c : Collection) : List (List Char) :=
  [] :: ensureLine c.name :: c.indexes.map (createLine c.name)

def Creates (line : List Char) : Prop :=
  ∃ name, line = ensureLine name ∨ ∃ i, line = createLine name i

section literals

theorem exists_body (name : String) : ∃ body, literal name = '"' :: body ∧
    ∀ rest, Json.readText (body ++ rest) = some (name, rest) := by
  refine ⟨_, ?_, Json.readText_append (Json.textBody_escaped name)⟩
  rw [literal, Json.textLiteral, String.toList_ofList, Json.writeText, List.cons_append]

theorem literal_append_inj {name other : String} {rest more : List Char}
    (same : literal name ++ rest = literal other ++ more) : name = other ∧ rest = more := by
  obtain ⟨body, written, read⟩ := exists_body name
  obtain ⟨body', written', read'⟩ := exists_body other
  rw [written, written', List.cons_append, List.cons_append] at same
  have both := read rest
  rw [(List.cons.inj same).2, read', Option.some.injEq, Prod.mk.injEq] at both
  exact ⟨both.1.symm, both.2.symm⟩

theorem read?_literal (name : String) : Json.read? (literal name) = some (.text name) := by
  have plain : Json.Plain Json.maxDepth (.text name) := .text name
  rw [literal, Json.textLiteral, String.toList_ofList]
  exact Json.read?_write_iff.2 plain

theorem keyText_append_inj {k l : IndexKey} {rest more : List Char} (sound : k.Sound)
    (sound' : l.Sound) (same : keyText k ++ rest = keyText l ++ more) : k = l ∧ rest = more := by
  obtain ⟨field, direction⟩ := k
  obtain ⟨field', direction'⟩ := l
  simp only [keyText, List.append_assoc] at same
  obtain ⟨rfl, behind⟩ := literal_append_inj same
  have digits : (toString direction).toList ++ rest = (toString direction').toList ++ more :=
    List.append_cancel_left behind
  rcases sound.direction with rfl | rfl <;> rcases sound'.direction with rfl | rfl
  next => exact ⟨rfl, List.append_cancel_left digits⟩
  next => cases digits
  next => cases digits
  next => exact ⟨rfl, List.append_cancel_left digits⟩

theorem keysText_cons (k : IndexKey) (keys : List IndexKey) :
    keysText (k :: keys) = keyText k ++ keys.flatMap fun l => ',' :: ' ' :: keyText l := by
  have separator : ", ".toList = [',', ' '] := rfl
  induction keys generalizing k with
  | nil =>
    rw [keysText, List.map_singleton, List.intercalate_singleton, List.flatMap_nil,
      List.append_nil]
  | cons next keys ih =>
    rw [keysText, List.map_cons, List.map_cons, List.intercalate_cons_cons, ← List.map_cons,
      ← keysText, ih, separator, List.append_assoc, List.flatMap_cons]
    simp only [List.cons_append, List.nil_append]

-- What comes behind a key tells whether there are more of them.
theorem moreKeys_append_inj {keys others : List IndexKey} {rest more : List Char}
    (sound : ∀ k ∈ keys, k.Sound) (sound' : ∀ k ∈ others, k.Sound)
    (same : (keys.flatMap fun k => ',' :: ' ' :: keyText k) ++ '\x7d' :: rest =
      (others.flatMap fun k => ',' :: ' ' :: keyText k) ++ '\x7d' :: more) :
    keys = others ∧ rest = more := by
  induction keys generalizing others with
  | nil =>
    cases others with
    | nil => exact ⟨rfl, (List.cons.inj same).2⟩
    | cons l others => exact absurd (List.cons.inj same).1 (by decide)
  | cons k keys ih =>
    cases others with
    | nil => exact absurd (List.cons.inj same).1 (by decide)
    | cons l others =>
      rw [List.forall_mem_cons] at sound sound'
      simp only [List.flatMap_cons, List.cons_append, List.append_assoc, List.cons.injEq,
        true_and] at same
      obtain ⟨rfl, behind⟩ := keyText_append_inj sound.1 sound'.1 same
      obtain ⟨rfl, ends⟩ := ih sound.2 sound'.2 behind
      exact ⟨rfl, ends⟩

theorem keysText_append_inj {keys others : List IndexKey} {rest more : List Char}
    (some : keys ≠ []) (some' : others ≠ []) (sound : ∀ k ∈ keys, k.Sound)
    (sound' : ∀ k ∈ others, k.Sound)
    (same : keysText keys ++ '\x7d' :: rest = keysText others ++ '\x7d' :: more) :
    keys = others ∧ rest = more := by
  obtain ⟨k, keys, rfl⟩ := List.exists_cons_of_ne_nil some
  obtain ⟨l, others, rfl⟩ := List.exists_cons_of_ne_nil some'
  rw [List.forall_mem_cons] at sound sound'
  rw [keysText_cons, keysText_cons, List.append_assoc, List.append_assoc] at same
  obtain ⟨rfl, behind⟩ := keyText_append_inj sound.1 sound'.1 same
  obtain ⟨rfl, ends⟩ := moreKeys_append_inj sound.2 sound'.2 behind
  exact ⟨rfl, ends⟩

theorem optionsText_append_inj {unique unique' : Bool}
    (same : optionsText unique ++ ");".toList = optionsText unique' ++ ");".toList) :
    unique = unique' := by
  revert unique unique'
  decide

theorem ensureLine_inj {name other : String} (same : ensureLine name = ensureLine other) :
    name = other := by
  have front (name : String) : ensureLine name =
      "ensureCollection(".toList ++ (literal name ++ ");".toList) := List.append_assoc _ _ _
  rw [front, front] at same
  exact (literal_append_inj (List.append_cancel_left same)).1

theorem exists_createLine_eq (collection : String) : ∃ front, ∀ i, createLine collection i =
    front ++ (keysText i.keys ++ '\x7d' :: (optionsText i.unique ++ ");".toList)) :=
  ⟨_, fun _ => List.append_assoc _ _ _⟩

theorem createLine_inj {collection : String} {i j : Index} (sound : i.Sound) (sound' : j.Sound)
    (same : createLine collection i = createLine collection j) : i = j := by
  obtain ⟨front, written⟩ := exists_createLine_eq collection
  rw [written, written] at same
  obtain ⟨keys, options⟩ := keysText_append_inj sound.nonempty sound'.nonempty sound.keys
    sound'.keys (List.append_cancel_left same)
  cases i
  cases j
  exact congrArg₂ Index.mk keys (optionsText_append_inj options)

theorem creationLines_inj {c d : Collection} (sound : c.Sound) (sound' : d.Sound)
    (same : creationLines c = creationLines d) : c = d := by
  obtain ⟨name, indexes⟩ := c
  obtain ⟨name', indexes'⟩ := d
  simp only [creationLines, List.cons.injEq, true_and] at same
  obtain rfl := ensureLine_inj same.1
  obtain rfl : indexes = indexes' :=
    eq_of_map_eq (fun _ _ => createLine_inj) sound.indexes sound'.indexes same.2
  rfl

theorem exists_keyText_eq {k : IndexKey} (sound : k.Sound) :
    ∃ front, keyText k = front ++ ['1'] := by
  obtain ⟨sign, digits⟩ : ∃ sign, (toString k.direction).toList = sign ++ ['1'] := by
    rcases sound.direction with one | one
    next => exact ⟨[], by rw [one]; decide⟩
    next => exact ⟨['-'], by rw [one]; decide⟩
  refine ⟨literal k.field ++ (": ".toList ++ sign), ?_⟩
  rw [keyText, digits, List.append_assoc (literal k.field), List.append_assoc ": ".toList]

theorem exists_keysText_eq {keys : List IndexKey} (some : keys ≠ [])
    (sound : ∀ k ∈ keys, k.Sound) : ∃ front, keysText keys = front ++ ['1'] := by
  obtain ⟨k, keys, rfl⟩ := List.exists_cons_of_ne_nil some
  rw [keysText_cons]
  rcases List.eq_nil_or_concat keys with rfl | ⟨between, last, rfl⟩
  next =>
    rw [List.flatMap_nil, List.append_nil]
    exact exists_keyText_eq (sound k List.mem_cons_self)
  next =>
    obtain ⟨front, ends⟩ := exists_keyText_eq (sound last (by simp))
    refine ⟨keyText k ++ between.flatMap (fun l => ',' :: ' ' :: keyText l) ++
      ',' :: ' ' :: front, ?_⟩
    rw [List.concat_eq_append, List.flatMap_append, List.flatMap_singleton, ends]
    simp

theorem suffix_createLine_iff {collection : String} {i : Index} (sound : i.Sound) :
    ", \x7bunique: true\x7d);".toList <:+ createLine collection i ↔ i.unique = true := by
  obtain ⟨keys, unique⟩ := i
  obtain ⟨before, written⟩ := exists_createLine_eq collection
  obtain ⟨front, ends⟩ := exists_keysText_eq sound.nonempty sound.keys
  have line : '1' :: '\x7d' :: (optionsText unique ++ ");".toList) <:+
      createLine collection ⟨keys, unique⟩ := by
    rw [written, ends]
    exact ⟨before ++ front, by simp⟩
  cases unique with
  | true => exact iff_of_true (List.IsSuffix.trans (by decide) line) rfl
  | false =>
    refine iff_of_false (fun options => ?_) Bool.false_ne_true
    exact absurd (List.suffix_or_suffix_of_suffix options line) (by decide)

theorem lineEnd_not_mem_keyText {k : IndexKey} (sound : k.Sound) : '\n' ∉ keyText k := by
  have digits : '\n' ∉ (toString k.direction).toList := by
    rcases sound.direction with one | one <;> rw [one] <;> decide
  exact List.not_mem_append (lineEnd_not_mem_textLiteral k.field)
    (List.not_mem_append (by decide) digits)

theorem lineEnd_not_mem_createLine {collection : String} {i : Index} (sound : i.Sound) :
    '\n' ∉ createLine collection i := by
  have keys : '\n' ∉ keysText i.keys := by
    obtain ⟨k, more, all⟩ := List.exists_cons_of_ne_nil sound.nonempty
    have clean := fun k inside => lineEnd_not_mem_keyText (sound.keys k inside)
    rw [all, List.forall_mem_cons] at clean
    rw [all, keysText_cons, List.mem_append, List.mem_flatMap, not_or]
    refine ⟨clean.1, ?_⟩
    rintro ⟨l, inside, within⟩
    simp only [List.mem_cons, (by decide : '\n' ≠ ','), (by decide : '\n' ≠ ' '), false_or]
      at within
    exact clean.2 l inside within
  have ends : '\n' ∉ '\x7d' :: (optionsText i.unique ++ ");".toList) := by
    cases i.unique <;> decide +kernel
  have front : '\n' ∉ "db.getCollection(".toList ++ literal collection ++
      ").createIndex(\x7b".toList :=
    List.not_mem_append (List.not_mem_append (by decide +kernel)
      (lineEnd_not_mem_textLiteral collection)) (by decide +kernel)
  exact List.not_mem_append (List.not_mem_append front keys) ends

theorem lineEnd_not_mem_creationLines {c : Collection} (sound : c.Sound) :
    ∀ line ∈ creationLines c, '\n' ∉ line := by
  rw [creationLines, List.forall_mem_cons, List.forall_mem_cons, List.forall_mem_map]
  refine ⟨List.not_mem_nil, ?_, fun i inside => lineEnd_not_mem_createLine (sound.indexes i inside)⟩
  exact List.not_mem_append (List.not_mem_append (by decide +kernel)
    (lineEnd_not_mem_textLiteral c.name)) (by decide +kernel)

theorem quote_mem_literal (name : String) : '"' ∈ literal name := by
  obtain ⟨body, written, -⟩ := exists_body name
  rw [written]
  exact List.mem_cons_self

theorem quote_mem_of_creates {line : List Char} (creates : Creates line) : '"' ∈ line := by
  obtain ⟨name, rfl | ⟨i, rfl⟩⟩ := creates
  next =>
    exact List.mem_append_left _ (List.mem_append_right _ (quote_mem_literal name))
  next =>
    exact List.mem_append_left _ (List.mem_append_left _ (List.mem_append_left _
      (List.mem_append_right _ (quote_mem_literal name))))

theorem prefix_of_creates {line : List Char} (creates : Creates line) :
    "ensureCollection(".toList <+: line ∨ "db.getCollection(".toList <+: line := by
  obtain ⟨name, rfl | ⟨i, rfl⟩⟩ := creates
  next => exact .inl ((List.prefix_append _ _).trans (List.prefix_append _ _))
  next =>
    exact .inr (((List.prefix_append _ _).trans (List.prefix_append _ _)).trans
      ((List.prefix_append _ _).trans (List.prefix_append _ _)))

theorem collections_eq_of_flatMap {collections others : List Collection}
    (sound : ∀ c ∈ collections, c.Sound) (sound' : ∀ c ∈ others, c.Sound)
    (same : collections.flatMap creationLines = others.flatMap creationLines) :
    collections = others := by
  have filled (c : Collection) :
      [] ∉ ensureLine c.name :: c.indexes.map (createLine c.name) := by
    intro empty
    have creates : Creates [] := by
      rcases List.mem_cons.1 empty with ensure | create
      next => exact ⟨c.name, .inl ensure⟩
      next =>
        obtain ⟨i, -, create⟩ := List.mem_map.1 create
        exact ⟨c.name, .inr ⟨i, create.symm⟩⟩
    exact List.not_mem_nil (quote_mem_of_creates creates)
  have blocks := map_eq_of_flatMap_mark filled same
  refine eq_of_map_eq (fun c d fit fit' alike => creationLines_inj fit fit' ?_) sound sound' blocks
  rw [creationLines, creationLines, alike]

end literals

end Leaderboard.Bootstrap
