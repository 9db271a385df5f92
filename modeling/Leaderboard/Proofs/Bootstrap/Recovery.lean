import Leaderboard.Proofs.Bootstrap.Creation
import Leaderboard.Proofs.Bootstrap.Tame
import Leaderboard.Proofs.Text.Split

set_option autoImplicit false

namespace Leaderboard.Bootstrap

-- A line that holds line breaks counts as several.
def brokenLines (ls : List Line) : List (List Char) :=
  ls.flatMap fun l => Text.splitAll '\n' l.text.toList

def openingLines (database : String) (replicaSet : Option ReplicaSet) : List (List Char) :=
  brokenLines (Script.headLines database ++ (replicaSet.map Script.replicaSetLines).getD [] ++
    Script.databaseLines database)

def closingLines (user : Option AppUser) : List (List Char) :=
  brokenLines ((user.map Script.userLines).getD []) ++ [[]]

section lines

theorem toList_text_append (l k : Line) :
    (Line.text (l ++ k)).toList = l.text.toList ++ k.text.toList := by
  rw [Line.text, List.map_append, String.toList_join, List.flatMap_append, Line.text, Line.text,
    String.toList_join, String.toList_join]

theorem toList_text_cons (s : Segment) (l : Line) :
    (Line.text (s :: l)).toList = s.text.toList ++ l.text.toList := by
  rw [Line.text, List.map_cons, String.toList_join, List.flatMap_cons, Line.text,
    String.toList_join]

theorem toList_text_code (source : String) :
    (Line.text [.code source]).toList = source.toList := by
  rw [toList_text_cons]
  exact List.append_nil _

theorem toList_text_separated (separator : String) (ls : List Line) :
    (Line.text (Script.separated separator ls)).toList =
      separator.toList.intercalate (ls.map fun l => l.text.toList) := by
  induction ls using Script.separated.induct with
  | case1 => rfl
  | case2 entry => rw [Script.separated, List.map_singleton, List.intercalate_singleton]
  | case3 entry next rest ih =>
    rw [Script.separated, toList_text_append, toList_text_cons, ih, List.map_cons, List.map_cons,
      List.map_cons, List.intercalate_cons_cons, List.append_assoc]
    rfl

theorem toList_text_keySegments (k : IndexKey) :
    (Line.text (Script.keySegments k)).toList = keyText k := by
  rw [Script.keySegments, toList_text_cons, toList_text_code, Segment.text, String.toList_append]
  rfl

theorem toList_text_indexLine (collection : String) (i : Index) :
    (Script.indexLine collection i).text.toList = createLine collection i := by
  have keys : (Line.text (Script.separated ", " (i.keys.map Script.keySegments))).toList =
      keysText i.keys := by
    rw [toList_text_separated, List.map_map, keysText]
    exact congrArg _ (List.map_congr_left fun k _ => toList_text_keySegments k)
  have ends : (Line.text [.code (if i.unique then "\x7d, \x7bunique: true\x7d);" else
      "\x7d);")]).toList = '\x7d' :: (optionsText i.unique ++ ");".toList) := by
    rw [toList_text_code]
    cases i.unique <;> decide +kernel
  have front : (Line.text [.code "db.getCollection(", .literal collection,
      .code ").createIndex(\x7b"]).toList =
      "db.getCollection(".toList ++ literal collection ++ ").createIndex(\x7b".toList := by
    rw [toList_text_cons, toList_text_cons, toList_text_code]
    exact (List.append_assoc _ _ _).symm
  refine (toList_text_append _ _).trans (congrArg₂ (· ++ ·) ?_ ends)
  exact (toList_text_append _ _).trans (congrArg₂ (· ++ ·) front keys)

theorem toList_text_collectionLines (c : Collection) :
    (Script.collectionLines c).map (fun l => l.text.toList) = creationLines c := by
  have ensure : (Line.text [.code "ensureCollection(", .literal c.name, .code ");"]).toList =
      ensureLine c.name := by
    rw [toList_text_cons, toList_text_cons, toList_text_code]
    exact (List.append_assoc _ _ _).symm
  have indexes : (c.indexes.map (Script.indexLine c.name)).map (fun l => l.text.toList) =
      c.indexes.map (createLine c.name) := by
    rw [List.map_map]
    exact List.map_congr_left fun i _ => toList_text_indexLine c.name i
  rw [Script.collectionLines, List.map_cons, List.map_cons, ensure, indexes]
  rfl

theorem brokenLines_append (ls ks : List Line) :
    brokenLines (ls ++ ks) = brokenLines ls ++ brokenLines ks := List.flatMap_append

theorem brokenLines_collections {collections : List Collection}
    (sound : ∀ c ∈ collections, c.Sound) :
    brokenLines (collections.flatMap Script.collectionLines) =
      collections.flatMap creationLines := by
  rw [brokenLines, List.flatMap_assoc]
  refine List.flatMap_congr fun c inside => ?_
  rw [← List.flatMap_map (f := fun l : Line => l.text.toList), toList_text_collectionLines]
  exact Text.flatMap_splitAll_of_not_mem (lineEnd_not_mem_creationLines (sound c inside))

theorem toList_textOf_eq (ls : List Line) :
    (Script.textOf ls).toList = (ls.map fun l => l.text.toList).flatMap (· ++ ['\n']) := by
  rw [Script.textOf, String.toList_join, List.flatMap_map, List.flatMap_map]
  simp only [String.toList_append]
  rfl

theorem splitAll_textOf (ls : List Line) :
    Text.splitAll '\n' (Script.textOf ls).toList = brokenLines ls ++ [[]] := by
  rw [toList_textOf_eq, ← List.append_nil (List.flatMap _ _), Text.splitAll_flatMap_append,
    List.flatMap_map]
  rfl

theorem splitAll_script {p : Plan} (sound : p.Sound) :
    Text.splitAll '\n' (Script.textOf (Script.lines p)).toList =
      openingLines p.database p.replicaSet ++ p.collections.flatMap creationLines ++
        closingLines p.appUser := by
  rw [splitAll_textOf, Script.lines, brokenLines_append, brokenLines_append,
    brokenLines_collections sound.collections, openingLines, closingLines, List.append_assoc]

theorem toList_text_verbatim (source content : String) :
    (Line.text [.code source, .verbatim content]).toList = source.toList ++ content.toList := by
  rw [toList_text_cons, toList_text_cons]
  exact congrArg _ (List.append_nil _)

theorem not_creates_of_unquoted {l : Line} (clean : '"' ∉ l.text.toList) :
    ∀ line ∈ Text.splitAll '\n' l.text.toList, ¬ Creates line := fun _ part creates =>
  clean (Text.subset_of_mem_splitAll part (quote_mem_of_creates creates))

theorem not_creates_of_indented {source : String} {l : Line}
    (indented : source.toList.head? = some ' ')
    (whole : '\n' ∉ (Line.text (.code source :: l)).toList) :
    ∀ line ∈ Text.splitAll '\n' (Line.text (.code source :: l)).toList, ¬ Creates line := by
  have first : (Line.text (.code source :: l)).toList.head? = some ' ' := by
    rw [toList_text_cons, List.head?_append, Segment.text, indented, Option.some_or]
  intro line part creates
  rw [Text.splitAll_of_not_mem whole, List.mem_singleton] at part
  subst part
  rcases prefix_of_creates creates with ⟨rest, same⟩ | ⟨rest, same⟩
  all_goals
    rw [← same] at first
    exact absurd (Option.some.inj first) (by decide)

-- No name of a database brings in a line that looks like one for a collection.
theorem not_creates_of_opening {database : String} (named : DatabaseName database) :
    ∀ line ∈ openingLines database none, ¬ Creates line := by
  have fixed : ∀ l ∈ (Script.headLines "").tail ++ (Script.databaseLines "").tail,
      '"' ∉ l.text.toList := by decide +kernel
  intro line inside
  obtain ⟨l, listed, part⟩ := List.mem_flatMap.1 inside
  rcases List.mem_append.1 listed with head | body
  next =>
    rw [Option.map_none, Option.getD_none, List.append_nil] at head
    rcases List.mem_cons.1 head with rfl | head
    next =>
      refine not_creates_of_unquoted ?_ line part
      rw [toList_text_verbatim]
      exact List.not_mem_append (by decide +kernel) (named.2 '"' (by decide))
    next => exact not_creates_of_unquoted (fixed l (List.mem_append_left _ head)) line part
  next =>
    rcases List.mem_cons.1 body with rfl | body
    next =>
      have text : (Line.text [.code "db = db.getSiblingDB(", .literal database,
          .code ");"]).toList =
          "db = db.getSiblingDB(".toList ++ (literal database ++ ");".toList) := by
        rw [toList_text_cons, toList_text_cons, toList_text_code]
        rfl
      have whole : '\n' ∉ "db = db.getSiblingDB(".toList ++ (literal database ++ ");".toList) :=
        List.not_mem_append (by decide +kernel)
          (List.not_mem_append (lineEnd_not_mem_textLiteral database) (by decide +kernel))
      rw [text, Text.splitAll_of_not_mem whole, List.mem_singleton] at part
      intro creates
      rcases part ▸ prefix_of_creates creates with start | start
      all_goals
        exact absurd (List.prefix_or_prefix_of_prefix start (List.prefix_append _ _))
          (by decide +kernel)
    next => exact not_creates_of_unquoted (fixed l (List.mem_append_right _ body)) line part

theorem lineEnd_not_mem_text {l : Line} (each : ∀ s ∈ l, '\n' ∉ s.text.toList) :
    '\n' ∉ l.text.toList := by
  rw [Line.text, String.toList_join, List.flatMap_map, List.mem_flatMap]
  rintro ⟨s, inside, held⟩
  exact each s inside held

theorem mem_separated {separator : String} {ls : List Line} {s : Segment}
    (inside : s ∈ Script.separated separator ls) : s = .code separator ∨ ∃ l ∈ ls, s ∈ l := by
  induction ls using Script.separated.induct with
  | case1 => cases inside
  | case2 entry => exact .inr ⟨entry, List.mem_cons_self, inside⟩
  | case3 entry next rest ih =>
    rw [Script.separated, List.mem_append, List.mem_cons] at inside
    rcases inside with first | between | later
    · exact .inr ⟨entry, List.mem_cons_self, first⟩
    · exact .inl between
    · rcases ih later with between | ⟨l, listed, held⟩
      · exact .inl between
      · exact .inr ⟨l, List.mem_cons_of_mem entry listed, held⟩

theorem lineEnd_not_mem_memberSegments (member : String × Nat) :
    ∀ s ∈ Script.memberSegments member, '\n' ∉ s.text.toList := by
  have digits : '\n' ∉ (toString member.2).toList := by
    rw [Json.toList_toString]
    exact fun inside => absurd ((Json.digits_toDigits member.2).digits '\n' inside) (by decide)
  simp only [Script.memberSegments, List.forall_mem_cons, Segment.text, String.toList_append]
  exact ⟨List.not_mem_append (List.not_mem_append (by decide) digits) (by decide),
    lineEnd_not_mem_textLiteral member.1, by decide, List.forall_mem_nil _⟩

theorem not_creates_of_replicaSet {r : ReplicaSet} (quotable : Quotable r.id) :
    ∀ line ∈ brokenLines (Script.replicaSetLines r), ¬ Creates line := by
  have message : '\n' ∉ (Line.text [.code "    print('initiating replica set ", .verbatim r.id,
      .code "');"]).toList := by
    apply lineEnd_not_mem_text
    simp only [List.forall_mem_cons, Segment.text]
    exact ⟨by decide, fun inside => (quotable '\n' inside).2.2.1 rfl, by decide,
      List.forall_mem_nil _⟩
  have initiation : '\n' ∉ (Line.text ([.code "    rs.initiate(\x7b_id: ", .literal r.id,
      .code ", version: 1, members: ["] ++
        Script.separated ", " (r.members.zipIdx.map Script.memberSegments) ++
      [.code "]\x7d);"])).toList := by
    apply lineEnd_not_mem_text
    simp only [List.forall_mem_append, List.forall_mem_cons, Segment.text]
    refine ⟨⟨⟨by decide, lineEnd_not_mem_textLiteral r.id, by decide, List.forall_mem_nil _⟩, ?_⟩,
      by decide, List.forall_mem_nil _⟩
    intro s inside
    rcases mem_separated inside with rfl | ⟨l, listed, held⟩
    · decide
    · obtain ⟨member, -, rfl⟩ := List.mem_map.1 listed
      exact lineEnd_not_mem_memberSegments member s held
  rw [brokenLines, List.forall_mem_flatMap]
  simp only [Script.replicaSetLines, List.forall_mem_cons]
  refine ⟨?_, ?_, ?_, not_creates_of_indented (by decide) message,
    not_creates_of_indented (by decide) initiation, ?_, ?_, ?_, ?_, ?_, List.forall_mem_nil _⟩
  all_goals exact not_creates_of_unquoted (by decide +kernel)

theorem quote_not_mem_of_isName {name : List Char} (named : IsName name) : '"' ∉ name :=
  fun inside => not_mem_of_isNamePart (named.2.2 '"' inside) (by decide)

theorem not_creates_of_user {u : AppUser} (named : u.Named) :
    ∀ line ∈ brokenLines (Script.userLines u), ¬ Creates line := by
  obtain ⟨user, password, database⟩ := named
  have own {front : String} (clean : '"' ∉ front.toList) {name : String}
      (named : IsName name.toList) :
      ∀ line ∈ Text.splitAll '\n' (Line.text [.code front, .verbatim name, .code ";"]).toList,
        ¬ Creates line := by
    apply not_creates_of_unquoted
    rw [toList_text_cons, toList_text_cons, toList_text_code]
    exact List.not_mem_append clean
      (List.not_mem_append (quote_not_mem_of_isName named) (by decide))
  have message : ∀ line ∈ Text.splitAll '\n' (Line.text [.code "    print('",
      .verbatim u.usernameEnv, .code ", ", .verbatim u.passwordEnv, .code " and ",
      .verbatim u.databaseEnv, .code " must be set');"]).toList, ¬ Creates line := by
    apply not_creates_of_unquoted
    simp only [toList_text_cons, Segment.text, List.mem_append, not_or]
    exact ⟨by decide, quote_not_mem_of_isName user, by decide, quote_not_mem_of_isName password,
      by decide, quote_not_mem_of_isName database, by decide, by decide⟩
  have creation : '\n' ∉ (Line.text [
      .code "    authDb.createUser(\x7buser: userName, pwd: password, roles: [\x7brole: ",
      .literal u.role, .code ", db: userDb\x7d]\x7d);"]).toList := by
    apply lineEnd_not_mem_text
    simp only [List.forall_mem_cons, Segment.text]
    exact ⟨by decide, lineEnd_not_mem_textLiteral u.role, by decide, List.forall_mem_nil _⟩
  rw [brokenLines, List.forall_mem_flatMap]
  simp only [Script.userLines, List.forall_mem_cons]
  refine ⟨?_, own (by decide) user, own (by decide) password, own (by decide) database, ?_,
    message, ?_, ?_, ?_, ?_, not_creates_of_indented (by decide) creation, ?_,
    List.forall_mem_nil _⟩
  all_goals exact not_creates_of_unquoted (by decide +kernel)

theorem not_creates_of_tame {p : Plan} (sound : p.Sound) (tame : p.Tame) :
    ∀ line ∈ openingLines p.database p.replicaSet ++ closingLines p.appUser, ¬ Creates line := by
  have opening := not_creates_of_opening sound.database
  simp only [openingLines, brokenLines_append, List.forall_mem_append] at opening
  simp only [openingLines, closingLines, brokenLines_append, List.forall_mem_append]
  refine ⟨⟨⟨opening.1.1, ?replicaSet⟩, opening.2⟩, ?user, ?last⟩
  case replicaSet =>
    cases known : p.replicaSet with
    | none => nofun
    | some r => exact not_creates_of_replicaSet (tame.replicaSet r known)
  case user =>
    cases known : p.appUser with
    | none => nofun
    | some u => exact not_creates_of_user (tame.appUser u known)
  case last =>
    intro line last creates
    rw [List.mem_singleton.1 last] at creates
    cases quote_mem_of_creates creates

end lines

-- The head of a script ends with the second comment, and no name of a database has a slash.
theorem database_eq_of_textOf {p q : Plan} (named : DatabaseName p.database)
    (named' : DatabaseName q.database)
    (same : Script.textOf (Script.lines p) = Script.textOf (Script.lines q)) :
    p.database = q.database := by
  have front (p : Plan) : ∃ rest, (Script.textOf (Script.lines p)).toList =
      "// Database bootstrap for ".toList ++ ((p.database.toList ++ ['\n']) ++ '/' :: rest) := by
    obtain ⟨more, lines⟩ : ∃ more, Script.lines p =
        [.code "// Database bootstrap for ", .verbatim p.database] ::
          Line.fixed "// Safe to run repeatedly." :: more := ⟨_, rfl⟩
    obtain ⟨comment, second⟩ : ∃ comment,
        (Line.text (.fixed "// Safe to run repeatedly.")).toList = '/' :: comment :=
      ⟨"/ Safe to run repeatedly.".toList, by decide +kernel⟩
    rw [toList_textOf_eq, lines, List.map_cons, List.map_cons, List.flatMap_cons,
      List.flatMap_cons, toList_text_verbatim, second]
    generalize "// Database bootstrap for ".toList = head
    exact ⟨comment ++ ['\n'] ++ (more.map fun l : Line => l.text.toList).flatMap (· ++ ['\n']),
      by simp⟩
  have free {database : String} (named : DatabaseName database) :
      '/' ∉ database.toList ++ ['\n'] :=
    List.not_mem_append (named.2 '/' (by decide)) (by decide)
  obtain ⟨rest, text⟩ := front p
  obtain ⟨rest', text'⟩ := front q
  rw [same, text'] at text
  have ends := append_inj_of_mark (free named') (free named) (by simp) (by simp)
    (List.append_cancel_left text)
  exact (String.toList_inj.1 (List.append_cancel_right ends.1)).symm

theorem script_determines_collections :
    (∀ p q : Plan, p.check = .ok () → q.check = .ok () → p.appUser = q.appUser →
      p.replicaSet = q.replicaSet → p.script = q.script →
      p.database = q.database ∧ p.collections = q.collections) ∧
    (∀ p : Plan, p.check = .ok () → ∃ text, p.script = .ok text ∧
      Text.splitAll '\n' text.toList = openingLines p.database p.replicaSet ++
        p.collections.flatMap creationLines ++ closingLines p.appUser ∧
      (∀ line ∈ openingLines p.database none, ¬ Creates line) ∧
      (p.Tame → ∀ line ∈ openingLines p.database p.replicaSet ++ closingLines p.appUser,
        ¬ Creates line) ∧
      ∀ c ∈ p.collections, ∀ i ∈ c.indexes,
        ", \x7bunique: true\x7d);".toList <:+ createLine c.name i ↔ i.unique = true) ∧
    ∀ name, Json.read? (Json.textLiteral name).toList = some (.text name) := by
  refine ⟨?_, ?_, read?_literal⟩
  next =>
    intro p q checked checked' user replicaSet same
    have sound := Plan.check_eq_ok_iff.1 checked
    have sound' := Plan.check_eq_ok_iff.1 checked'
    rw [script_of_check checked, script_of_check checked', Except.ok.injEq] at same
    have database := database_eq_of_textOf sound.database sound'.database same
    -- with the same database before and the same user behind, the rest are the collections
    have lines := congrArg (fun text => Text.splitAll '\n' text.toList) same
    simp only [splitAll_script sound, splitAll_script sound', database, replicaSet, user] at lines
    have collections := collections_eq_of_flatMap sound.collections sound'.collections
      (List.append_cancel_left (List.append_cancel_right lines))
    exact ⟨database, collections⟩
  next =>
    intro p checked
    have sound := Plan.check_eq_ok_iff.1 checked
    exact ⟨_, script_of_check checked, splitAll_script sound, not_creates_of_opening sound.database,
      not_creates_of_tame sound, fun c inside i within =>
        suffix_createLine_iff ((sound.collections c inside).indexes i within)⟩

-- One field whose name reads like two keys, in a collection whose name reads like two lines.
def quotedPlan : Plan :=
  ⟨"bench", [⟨"tasks\n\\", [⟨[⟨"a\": 1, \"b", 1⟩], true⟩]⟩], none, none⟩

def twoFieldsPlan : Plan :=
  ⟨"bench", [⟨"tasks\n\\", [Index.ascendingUnique ["a", "b"]]⟩], none, none⟩

def replicatedPlan : Plan :=
  ⟨"bench", [⟨"tasks", [Index.ascendingUnique ["task"]]⟩], some .default,
    some (.single "rs0" "mongodb:27017")⟩

theorem quoted_field_told_apart :
    quotedPlan.check = .ok () ∧ twoFieldsPlan.check = .ok () ∧
    quotedPlan.script ≠ twoFieldsPlan.script ∧
    { quotedPlan with appUser := some .default }.withoutAppUser.collections =
      quotedPlan.collections ∧
    ∃ text, quotedPlan.script = .ok text ∧
      Text.splitAll '\n' text.toList = openingLines "bench" none ++
        quotedPlan.collections.flatMap creationLines ++ closingLines none ∧
    replicatedPlan.check = .ok () ∧ replicatedPlan.Tame ∧
    ∀ line ∈ openingLines "bench" (some (.single "rs0" "mongodb:27017")) ++
      closingLines (some .default), ¬ Creates line := by
  have quoted : quotedPlan.check = .ok () := by decide +kernel
  have twoFields : twoFieldsPlan.check = .ok () := by decide +kernel
  have replicated : replicatedPlan.check = .ok () := by decide +kernel
  have tame : replicatedPlan.Tame := by
    simp [replicatedPlan, Plan.tame_iff, OneLine, Quotable, AppUser.Named, isLineEnd,
      ReplicaSet.single, AppUser.default, IsName, isNamePart]
  refine ⟨quoted, twoFields, fun same => ?_, ?_, ?_⟩
  next =>
    have collections :=
      (script_determines_collections.1 quotedPlan twoFieldsPlan quoted twoFields rfl rfl same).2
    exact absurd collections (by decide)
  next => exact (script_determines_collections.1 _ quotedPlan quoted quoted rfl rfl rfl).2
  next =>
    obtain ⟨text, script, lines, -⟩ := script_determines_collections.2.1 quotedPlan quoted
    obtain ⟨-, -, -, -, bare, -⟩ := script_determines_collections.2.1 replicatedPlan replicated
    exact ⟨text, script, lines, replicated, tame, bare tame⟩

end Leaderboard.Bootstrap
