import Leaderboard.Proofs.Yaml.Lines
import Leaderboard.Yaml.Writer

set_option autoImplicit false

namespace Leaderboard.Yaml

structure PlainKey (name : String) : Prop extends IsKey name where
  plain : textScalar 0 name = name

instance : DecidablePred PlainKey := fun name =>
  decidable_of_iff (StandsPlain name ∧ name.toList.head?.any Char.isAlpha = true ∧
    textScalar 0 name = name) <| by
  have letter : name.toList.head?.any Char.isAlpha = true ↔
      ∃ c rest, name.toList = c :: rest ∧ c.isAlpha = true := by
    cases name.toList <;> simp
  rw [letter]
  exact ⟨fun ⟨stands, letter, plain⟩ => ⟨⟨stands, letter⟩, plain⟩,
    fun ⟨⟨stands, letter⟩, plain⟩ => ⟨stands, letter, plain⟩⟩

structure ReadsBack (need indent : Nat) (value : Json) : Prop where
  ended : (memberValue indent value).toList.getLast? = some '\n'
  goesOn : '\x00' ∉ (memberValue indent value).toList
  reads : ∃ first rest, linesOf (memberValue indent value).toList = first :: rest ∧
    atGap first = true ∧ ∀ fuel ≥ need, ∀ below, KeysBefore (indent + 1) below →
      readEntryValue fuel indent ⟨first, rest ++ below⟩ = some (value, below)

theorem readsBack_of_line {indent : Nat} {value : Json} {c : Char} {line : Line}
    (written : (memberValue indent value).toList = ' ' :: c :: line ++ ['\n'])
    (unbroken : Unbroken (c :: line)) (goesOn : '\x00' ∉ c :: line) (gap : isGap c = false)
    (comment : c ≠ '#') (inline : ∀ fuel below, KeysBefore (indent + 1) below →
      readInline fuel (indent + 1) ⟨c :: line, below⟩ = some (value, below)) :
    ReadsBack 1 indent value := by
  constructor
  case ended => rw [written, List.getLast?_concat]
  case goesOn =>
    rw [written]
    simpa using goesOn
  case reads =>
    have whole : Unbroken (' ' :: c :: line) := List.forall_mem_cons.2 ⟨by decide, unbroken⟩
    have bare : linesOf ['\n'] = [[]] := rfl
    refine ⟨' ' :: c :: line, [], ?_, rfl, fun fuel enough below ends => ?_⟩
    · rw [written, linesOf_unbroken_append whole bare, List.append_nil]
    · obtain ⟨fuel, rfl⟩ : ∃ less, fuel = less + 1 := Nat.exists_eq_add_of_le' enough
      have skipped : skipGap (' ' :: c :: line) = c :: line := skipGap_spaces 1 gap line
      have busy : isIdle (' ' :: c :: line) = false := by
        rw [isIdle, skipped]
        exact beq_false_of_ne comment
      simp [readEntryValue, busy, skipped, inline fuel below ends]

def memberLines (indent : Nat) (member : String × Json) : List Line :=
  linesOf (List.replicate indent ' ' ++ member.1.toList ++
    ':' :: (memberValue indent member.2).toList)

variable {need indent : Nat}

theorem toList_blockMembers (members : List (String × Json))
    (keys : ∀ member ∈ members, PlainKey member.1) :
    (blockMembers indent members).toList = members.flatMap fun member =>
      List.replicate indent ' ' ++ member.1.toList ++
        ':' :: (memberValue indent member.2).toList := by
  induction members with
  | nil => rfl
  | cons member rest ih =>
    obtain ⟨name, value⟩ := member
    have plain := (keys (name, value) List.mem_cons_self).plain
    rw [List.flatMap_cons, ← ih fun other inside => keys other (List.mem_cons_of_mem _ inside)]
    simp [blockMembers, plain, spaces]

theorem ended_blockMembers {members : List (String × Json)} (held : members ≠ [])
    (keys : ∀ member ∈ members, PlainKey member.1)
    (each : ∀ member ∈ members, ReadsBack need indent member.2) :
    (blockMembers indent members).toList.getLast? = some '\n' := by
  rw [toList_blockMembers members keys]
  clear keys
  induction members with
  | nil => exact absurd rfl held
  | cons member rest ih =>
    have ended := (each member List.mem_cons_self).ended
    by_cases last : rest = []
    · simp [last, List.getLast?_append, List.getLast?_cons, ended]
    · have later := ih last fun other inside => each other (List.mem_cons_of_mem _ inside)
      rw [List.flatMap_cons, List.getLast?_append, later, Option.some_or]

theorem goesOn_blockMembers {members : List (String × Json)}
    (keys : ∀ member ∈ members, PlainKey member.1)
    (each : ∀ member ∈ members, ReadsBack need indent member.2) :
    '\x00' ∉ (blockMembers indent members).toList := by
  rw [toList_blockMembers members keys, List.mem_flatMap]
  rintro ⟨member, inside, null⟩
  have name := (keys member inside).stands.goesOn
  have value := (each member inside).goesOn
  simp [name, value] at null

theorem linesOf_blockMembers {members : List (String × Json)}
    (keys : ∀ member ∈ members, PlainKey member.1)
    (each : ∀ member ∈ members, ReadsBack need indent member.2) :
    linesOf (blockMembers indent members).toList = members.flatMap (memberLines indent) := by
  rw [toList_blockMembers members keys]
  clear keys
  induction members with
  | nil => rfl
  | cons member rest ih =>
    have ended := (each member List.mem_cons_self).ended
    rw [List.flatMap_cons, List.flatMap_cons, linesOf_append,
      ih fun other inside => each other (List.mem_cons_of_mem _ inside)]
    · rfl
    · simp [List.getLast?_append, List.getLast?_cons, ended]

theorem memberLines_eq {name : String} (key : IsKey name) {value : Json} {first : Line}
    {rest : List Line} (lines : linesOf (memberValue indent value).toList = first :: rest) :
    memberLines indent (name, value) =
      (List.replicate indent ' ' ++ (name.toList ++ ':' :: first)) :: rest := by
  have unbroken : Unbroken (List.replicate indent ' ' ++ name.toList ++ [':']) := by
    intro c inside
    simp only [List.mem_append, List.mem_replicate, List.mem_singleton] at inside
    rcases inside with (⟨-, rfl⟩ | named) | rfl
    · decide
    · exact key.stands.unbroken c named
    · decide
  have joined := linesOf_unbroken_append unbroken lines
  simpa [memberLines] using joined

theorem exists_memberLines {member : String × Json} (key : PlainKey member.1)
    (back : ReadsBack need indent member.2) :
    ∃ line rest, memberLines indent member = line :: rest ∧ KeyLine indent line ∧
      hasKey (line.drop indent) = true ∧
      ∃ after, readKey? (line.drop indent) = some (member.1, after) ∧
        ∀ fuel ≥ need, ∀ below, KeysBefore (indent + 1) below →
          readEntryValue fuel indent ⟨after, rest ++ below⟩ = some (member.2, below) := by
  obtain ⟨first, rest, lines, gap, reads⟩ := back.reads
  obtain ⟨c, tail, named, letter⟩ := key.letter
  have dropped : (List.replicate indent ' ' ++ (member.1.toList ++ ':' :: first)).drop indent =
      member.1.toList ++ ':' :: first := by
    simp
  have read := key.stands.readKey?_mark gap
  refine ⟨_, rest, memberLines_eq key.toIsKey lines, ⟨c, tail ++ ':' :: first, by simp [named],
    letter⟩, ?_, first, ?_, reads⟩
  · rw [dropped, hasKey, read]
    rfl
  · rw [dropped, read]

theorem readEntries_written {members : List (String × Json)} (held : members ≠ [])
    (keys : ∀ member ∈ members, PlainKey member.1)
    (each : ∀ member ∈ members, ReadsBack need indent member.2) :
    ∃ line rest, members.flatMap (memberLines indent) = line :: rest ∧ KeyLine indent line ∧
      hasKey (line.drop indent) = true ∧
      ∀ fuel ≥ need + members.length, ∀ below, KeysBefore indent below →
        readEntries fuel indent ⟨line.drop indent, rest ++ below⟩ = some (members, below) := by
  induction members with
  | nil => exact absurd rfl held
  | cons member others ih =>
    rw [List.forall_mem_cons] at keys each
    obtain ⟨line, rest, lines, keyed, holds, after, key, value⟩ := exists_memberLines keys.1 each.1
    refine ⟨line, rest ++ others.flatMap (memberLines indent), by simp [lines], keyed, holds, ?_⟩
    intro fuel enough below ends
    obtain ⟨fuel, rfl⟩ : ∃ less, fuel = less + 1 :=
      Nat.exists_eq_add_of_le' (by simp at enough; omega)
    by_cases last : others = []
    next =>
      subst last
      have read := value fuel (by simpa using enough) below (ends.mono (Nat.le_succ _))
      simp only [List.flatMap_nil, List.append_nil, readEntries, key, read]
      cases ends with
      | nil => rfl
      | cons within other more => simp [other.nextLine?_eq, within]
    next =>
      obtain ⟨next, tail, later, nextKeyed, -, goesOn⟩ := ih last keys.2 each.2
      have read := value fuel (by simp at enough; omega) (next :: (tail ++ below))
        (.cons (Nat.lt_succ_self _) nextKeyed _)
      have entries := goesOn fuel (by simp at enough; omega) below ends
      rw [later, List.append_assoc, List.cons_append]
      simp [readEntries, key, read, nextKeyed.nextLine?_eq, entries]

theorem objectOf?_of_nodup {members : List (String × Json)}
    (distinct : (members.map (·.1)).Nodup) : objectOf? members = some (.object members) := by
  have repeated {names : List String} (distinct : names.Nodup) : hasRepeated names = false := by
    induction names with
    | nil => rfl
    | cons name rest ih =>
      rw [List.nodup_cons] at distinct
      simp [hasRepeated, distinct.1, ih distinct.2]
  rw [objectOf?, repeated distinct]
  rfl

theorem KeyLine.readNode_eq {column : Nat} {line : Line} (keyed : KeyLine column line)
    (holds : hasKey (line.drop column) = true) (fuel least : Nat) (below : List Line) :
    readNode (fuel + 1) column least ⟨line.drop column, below⟩ =
      match readEntries fuel column ⟨line.drop column, below⟩ with
      | some (members, below) => (objectOf? members).map (fun value => (value, below))
      | none => none := by
  obtain ⟨c, rest, rfl, letter⟩ := keyed
  have dropped : (List.replicate column ' ' ++ c :: rest).drop column = c :: rest := by simp
  rw [dropped] at holds ⊢
  exact readNode_of_letter letter holds

theorem ReadsBack.object {members : List (String × Json)} (held : members ≠ [])
    (keys : ∀ member ∈ members, PlainKey member.1) (distinct : (members.map (·.1)).Nodup)
    (each : ∀ member ∈ members, ReadsBack need (indent + 2) member.2) :
    ReadsBack (need + members.length + 3) indent (.object members) := by
  obtain ⟨line, rest, lines, keyed, holds, reads⟩ := readEntries_written held keys each
  have written : (memberValue indent (.object members)).toList =
      '\n' :: (blockMembers (indent + 2) members).toList := by
    cases members with
    | nil => exact absurd rfl held
    | cons member others => simp [memberValue]
  constructor
  case ended =>
    rw [written, List.getLast?_cons, ended_blockMembers held keys each, Option.getD_some]
  case goesOn =>
    rw [written, List.mem_cons, not_or]
    exact ⟨by decide, goesOn_blockMembers keys each⟩
  case reads =>
    refine ⟨[], line :: rest, ?_, rfl, fun fuel enough below ends => ?_⟩
    · have bare : linesOf ['\n'] = [[]] := rfl
      rw [written, ← lines, ← linesOf_blockMembers keys each, ← List.singleton_append,
        linesOf_append rfl, bare, List.singleton_append]
    · obtain ⟨fuel, rfl⟩ : ∃ less, fuel = less + 3 := Nat.exists_eq_add_of_le' (by omega)
      have entries := reads fuel (by omega) below (ends.mono (by omega))
      have deeper : indent < indent + 2 := by omega
      simp [readEntryValue, isIdle, skipGap, readBelow, keyed.nextLine?_eq, deeper,
        keyed.readNode_eq holds, entries, objectOf?_of_nodup distinct]

theorem ReadsBack.mono {less : Nat} {value : Json} (back : ReadsBack less indent value)
    (bound : less ≤ need) : ReadsBack need indent value := by
  obtain ⟨ended, goesOn, first, rest, lines, gap, reads⟩ := back
  exact ⟨ended, goesOn, first, rest, lines, gap, fun fuel enough => reads fuel (bound.trans enough)⟩

theorem length_le_fuelFor (lines : List Line) : 3 * lines.length + 8 ≤ fuelFor lines := by
  have total (lines : List Line) (n : Nat) :
      n + lines.length ≤ lines.foldl (fun n line => n + line.length + 1) n := by
    induction lines generalizing n with
    | nil => exact Nat.le_refl n
    | cons line rest ih =>
      have later := ih (n + line.length + 1)
      rw [List.foldl_cons, List.length_cons]
      omega
  have bound := total lines 0
  unfold fuelFor
  omega

theorem length_le_memberLines {members : List (String × Json)}
    (keys : ∀ member ∈ members, PlainKey member.1)
    (each : ∀ member ∈ members, ReadsBack need indent member.2) :
    members.length ≤ (members.flatMap (memberLines indent)).length := by
  induction members with
  | nil => exact Nat.zero_le _
  | cons member others ih =>
    rw [List.forall_mem_cons] at keys each
    obtain ⟨line, rest, lines, -⟩ := exists_memberLines keys.1 each.1
    have later := ih keys.2 each.2
    rw [List.flatMap_cons, List.length_append, lines, List.length_cons, List.length_cons]
    omega

theorem read?_document {members : List (String × Json)} (held : members ≠ [])
    (keys : ∀ member ∈ members, PlainKey member.1) (distinct : (members.map (·.1)).Nodup)
    (each : ∀ member ∈ members, ReadsBack need 0 member.2)
    (enough : need ≤ 2 * members.length + 7) :
    read? (document (.object members)) = some (some (.object members)) := by
  obtain ⟨line, rest, lines, keyed, holds, reads⟩ := readEntries_written held keys each
  have whole : document (.object members) = blockMembers 0 members := by
    cases members with
    | nil => exact absurd rfl held
    | cons member others => rfl
  have content : linesOf (contentOf (document (.object members))) = line :: rest := by
    have through := takeWhile_goesOn (goesOn_blockMembers keys each) []
    rw [List.append_nil, List.takeWhile_nil, List.append_nil] at through
    rw [contentOf, whole, through, linesOf_blockMembers keys each, lines]
  obtain ⟨fuel, same⟩ : ∃ less, fuelFor (line :: rest) = need + members.length + less + 1 := by
    have bound := length_le_fuelFor (line :: rest)
    have many := length_le_memberLines keys each
    rw [lines] at many
    exact ⟨fuelFor (line :: rest) - (need + members.length + 1), by omega⟩
  have entries := reads (need + members.length + fuel) (by omega) [] .nil
  rw [List.append_nil] at entries
  have root : readRoot (line :: rest) = some (.object members, []) := by
    simp only [readRoot, keyed.contentStart_eq, List.isEmpty_nil, if_true, keyed.nextLine?_eq, same,
      keyed.readNode_eq holds, entries, objectOf?_of_nodup distinct, Option.map_some]
  have some : holdsNone (line :: rest) = false := by
    rw [holdsNone, keyed.contentStart_eq]
    rfl
  simp only [read?, content, some, root]
  rfl

end Leaderboard.Yaml
