import Leaderboard.Proofs.Bootstrap.Containment
import Leaderboard.Proofs.Bootstrap.Faults
import Leaderboard.Proofs.Json.NumberWriting

set_option autoImplicit false

namespace Leaderboard.Bootstrap

open Script

def OneLine (text : String) : Prop := ∀ c ∈ text.toList, isLineEnd c = false

def Quotable (text : String) : Prop :=
  ∀ c ∈ text.toList, c ≠ '\'' ∧ c ≠ '\\' ∧ c ≠ '\n' ∧ c ≠ '\r'

def AppUser.Named (u : AppUser) : Prop :=
  IsName u.usernameEnv.toList ∧ IsName u.passwordEnv.toList ∧ IsName u.databaseEnv.toList

structure Plan.Tame (p : Plan) : Prop where
  database : OneLine p.database
  replicaSet : ∀ r ∈ p.replicaSet, Quotable r.id
  appUser : ∀ u ∈ p.appUser, u.Named

theorem Plan.tame_iff {p : Plan} : p.Tame ↔
    OneLine p.database ∧ (∀ r ∈ p.replicaSet, Quotable r.id) ∧ ∀ u ∈ p.appUser, u.Named :=
  ⟨fun tame => ⟨tame.database, tame.replicaSet, tame.appUser⟩,
    fun ⟨database, replicaSet, appUser⟩ => ⟨database, replicaSet, appUser⟩⟩

-- Segments that fit under the condition and then lead to the second mode.
structure Leads (m : Mode) (ss : List Segment) (condition : Prop) (after : Mode) : Prop where
  fits : Fitting m ss ↔ condition
  reads : condition → m.read (ss.flatMap Segment.chars) = after

namespace Leads

variable {m via after : Mode} {ss ts : List Segment} {left right : Prop}

theorem congr (leads : Leads m ss left after) (same : left ↔ right) : Leads m ss right after where
  fits := leads.fits.trans same
  reads := fun holds => leads.reads (same.2 holds)

theorem nil : Leads m [] True m where
  fits := by simp [fitting_nil]
  reads := fun _ => rfl

theorem append (first : Leads m ss left via) (second : Leads via ts right after) :
    Leads m (ss ++ ts) (left ∧ right) after where
  fits := by
    rw [fitting_append, first.fits]
    refine and_congr_right fun holds => ?_
    rw [first.reads holds, second.fits]
  reads := fun holds => by
    rw [List.flatMap_append, Mode.read_append, first.reads holds.1, second.reads holds.2]

theorem code {source : String} (via : Mode) (reads : m.read source.toList = via)
    (rest : Leads via ss left after) : Leads m (.code source :: ss) left after where
  fits := by rw [fitting_code, reads, rest.fits]
  reads := fun holds => by
    have first : m.read (Segment.code source).chars = via := reads
    rw [List.flatMap_cons, Mode.read_append, first, rest.reads holds]

theorem literal {content : String} (rest : Leads .code ss left after) :
    Leads .code (.literal content :: ss) left after where
  fits := by rw [fitting_literal, rest.fits]
  reads := fun holds => by
    have first : Mode.code.read (Segment.literal content).chars = .code :=
      (quotation_textLiteral content).read
    rw [List.flatMap_cons, Mode.read_append, first, rest.reads holds]

theorem verbatim {content : String} (rest : Leads m ss left after) :
    Leads m (.verbatim content :: ss) ((Segment.verbatim content).Fits m ∧ left) after where
  fits := by rw [fitting_verbatim, rest.fits]
  reads := fun ⟨fits, holds⟩ => by
    have first : m.read (Segment.verbatim content).chars = m := fits.keeps.read
    rw [List.flatMap_cons, Mode.read_append, first, rest.reads holds]

theorem between {before content after : String} (via : Mode)
    (opens : Mode.code.read before.toList = via) (closes : via.read after.toList = .code) :
    Leads .code [.code before, .verbatim content, .code after]
      ((Segment.verbatim content).Fits via) .code :=
  congr (.code via opens (.verbatim (.code .code closes .nil))) (and_iff_left trivial)

-- A line that is over at its end.
theorem line {l : Line} (text : Leads .code l left m) (ends : m.next '\n' = .code) :
    Leads .code (l ++ [.code "\n"]) left .code := by
  have lineEnd : Leads m [.code "\n"] True .code := .code .code ends .nil
  exact (text.append lineEnd).congr (by simp)

theorem lines_cons {l : Line} {ls : List Line} (first : Leads .code (l ++ [.code "\n"]) left .code)
    (rest : Leads .code (ls.flatMap (· ++ [.code "\n"])) right .code) :
    Leads .code ((l :: ls).flatMap (· ++ [.code "\n"])) (left ∧ right) .code := by
  rw [List.flatMap_cons]
  exact first.append rest

end Leads

-- Segments that fit whatever they say.
def Free (ss : List Segment) : Prop := Leads .code ss True .code

namespace Free

theorem append {ss ts : List Segment} (first : Free ss) (second : Free ts) : Free (ss ++ ts) :=
  (Leads.append first second).congr (and_self_iff)

theorem line {l : Line} (text : Free l) : Free (l ++ [.code "\n"]) := Leads.line text rfl

theorem fixed {source : String} (reads : Mode.code.read source.toList = .code) :
    Free (Line.fixed source ++ [.code "\n"]) := line (.code .code reads .nil)

theorem between {before content after : String} (opens : Mode.code.read before.toList = .code)
    (closes : Mode.code.read after.toList = .code) :
    Free [.code before, .literal content, .code after] :=
  .code .code opens (.literal (.code .code closes .nil))

theorem flatMap {α : Type} {xs : List α} {f : α → List Segment} (each : ∀ x ∈ xs, Free (f x)) :
    Free (xs.flatMap f) := by
  induction xs with
  | nil => exact .nil
  | cons x xs ih =>
    rw [List.flatMap_cons]
    exact (each x List.mem_cons_self).append
      (ih fun y member => each y (List.mem_cons_of_mem x member))

theorem separated {separator : String} (reads : Mode.code.read separator.toList = .code)
    {ls : List Line} (each : ∀ l ∈ ls, Free l) : Free (Script.separated separator ls) := by
  induction ls using Script.separated.induct with
  | case1 => exact .nil
  | case2 entry => exact each entry List.mem_cons_self
  | case3 entry next rest ih =>
    rw [Script.separated]
    exact (each entry List.mem_cons_self).append
      (.code .code reads (ih fun l member => each l (List.mem_cons_of_mem entry member)))

end Free

theorem keeps_code_toString (n : Int) : Mode.code.Keeps (toString n).toList := by
  have digits (k : Nat) : ∀ c ∈ Nat.toDigits 10 k, isQuote c = false ∧ c ≠ '/' := by
    intro c member
    have digit : c.isDigit = true := (Json.digits_toDigits k).digits c member
    exact calm_of_isNamePart (by simp [isNamePart, Char.isAlphanum, digit])
  apply Mode.keeps_code_of
  cases n with
  | ofNat k =>
    have same : (toString (Int.ofNat k)).toList = Nat.toDigits 10 k := Json.toList_toString k
    rw [same]
    exact digits k
  | negSucc k =>
    rw [Json.toList_toString_negSucc]
    exact List.forall_mem_cons.2 ⟨by simp [isQuote], digits (k + 1)⟩

theorem leads_headLines (database : String) :
    Leads .code ((headLines database).flatMap (· ++ [.code "\n"])) (OneLine database) .code := by
  have about : Leads .code [.code "// Database bootstrap for ", .verbatim database]
      ((Segment.verbatim database).Fits .comment ∧ True) .comment :=
    .code .comment (by decide +kernel) (.verbatim .nil)
  have again : Leads .code (Line.fixed "// Safe to run repeatedly.") True .comment :=
    .code .comment (by decide +kernel) .nil
  -- both comments are over where their lines are, and only the first has to fit
  refine Leads.congr (.lines_cons (about.line rfl) (.lines_cons (again.line rfl)
    (.lines_cons (Free.fixed rfl) .nil))) ?_
  simp only [and_true, Segment.Fits, Mode.keeps_comment_iff, OneLine]

theorem free_memberSegments (e : String × Nat) : Free (memberSegments e) := by
  apply Free.between
  · have front : Mode.code.read "\x7b_id: ".toList = .code := by decide +kernel
    have digits : Mode.code.Keeps (toString e.2).toList := keeps_code_toString e.2
    rw [String.toList_append, String.toList_append, Mode.read_append, Mode.read_append, front,
      digits.read]
    decide +kernel
  · decide +kernel

theorem leads_replicaSetLines (r : ReplicaSet) :
    Leads .code ((replicaSetLines r).flatMap (· ++ [.code "\n"])) (Quotable r.id) .code := by
  have message : Leads .code
      [.code "    print('initiating replica set ", .verbatim r.id, .code "');"]
      ((Segment.verbatim r.id).Fits (.quoted '\'')) .code :=
    .between (.quoted '\'') (by decide +kernel) (by decide +kernel)
  have members : Free (separated ", " (r.members.zipIdx.map memberSegments)) :=
    .separated (by decide +kernel) (List.forall_mem_map.2 fun e _ => free_memberSegments e)
  have initiation : Free ([.code "    rs.initiate(\x7b_id: ", .literal r.id,
      .code ", version: 1, members: ["] ++
        separated ", " (r.members.zipIdx.map memberSegments) ++ [.code "]\x7d);"]) :=
    .append (.append (.between (by decide +kernel) (by decide +kernel)) members)
      (.code .code (by decide +kernel) .nil)
  refine Leads.congr (.lines_cons (Free.fixed (by decide +kernel)) <|
    .lines_cons (Free.fixed (by decide +kernel)) <| .lines_cons (Free.fixed (by decide +kernel)) <|
    .lines_cons (message.line rfl) <| .lines_cons initiation.line <| Free.flatMap ?_) ?_
  · simp only [List.forall_mem_cons]
    refine ⟨?_, ?_, ?_, ?_, ?_, nofun⟩ <;> exact Free.fixed (by decide +kernel)
  · simp [Segment.Fits, Mode.keeps_message_iff, Quotable]

theorem free_databaseLines (database : String) :
    Free ((databaseLines database).flatMap (· ++ [.code "\n"])) := by
  have choice : Free [.code "db = db.getSiblingDB(", .literal database, .code ");"] :=
    .between (by decide +kernel) (by decide +kernel)
  apply Free.flatMap
  simp only [databaseLines, List.forall_mem_cons]
  refine ⟨choice.line, ?_, ?_, ?_, ?_, ?_, ?_, ?_, ?_, nofun⟩ <;> exact Free.fixed (by decide +kernel)

theorem free_keySegments (k : IndexKey) : Free (keySegments k) := by
  have direction : Mode.code.read (": " ++ toString k.direction).toList = .code := by
    have front : Mode.code.read ": ".toList = .code := by decide +kernel
    rw [String.toList_append, Mode.read_append, front, (keeps_code_toString k.direction).read]
  exact .literal (.code .code direction .nil)

theorem free_indexLine (collection : String) (i : Index) : Free (indexLine collection i) := by
  have keys : Free (separated ", " (i.keys.map keySegments)) :=
    .separated (by decide +kernel) (List.forall_mem_map.2 fun k _ => free_keySegments k)
  have back : Free [.code (if i.unique then "\x7d, \x7bunique: true\x7d);" else "\x7d);")] := by
    split <;> exact .code .code (by decide +kernel) .nil
  exact .append (.append (.between (by decide +kernel) (by decide +kernel)) keys) back

theorem free_collectionLines (c : Collection) :
    Free ((collectionLines c).flatMap (· ++ [.code "\n"])) := by
  have creation : Free [.code "ensureCollection(", .literal c.name, .code ");"] :=
    .between (by decide +kernel) (by decide +kernel)
  apply Free.flatMap
  simp only [collectionLines, List.forall_mem_cons, List.forall_mem_map]
  exact ⟨Free.fixed rfl, creation.line, fun i _ => (free_indexLine c.name i).line⟩

theorem leads_userLines (u : AppUser) :
    Leads .code ((userLines u).flatMap (· ++ [.code "\n"])) u.Named .code := by
  have user : Leads .code
      [.code "const userName = process.env.", .verbatim u.usernameEnv, .code ";"]
      ((Segment.verbatim u.usernameEnv).Fits .code) .code :=
    .between .code (by decide +kernel) (by decide +kernel)
  have password : Leads .code
      [.code "const password = process.env.", .verbatim u.passwordEnv, .code ";"]
      ((Segment.verbatim u.passwordEnv).Fits .code) .code :=
    .between .code (by decide +kernel) (by decide +kernel)
  have database : Leads .code
      [.code "const userDb = process.env.", .verbatim u.databaseEnv, .code ";"]
      ((Segment.verbatim u.databaseEnv).Fits .code) .code :=
    .between .code (by decide +kernel) (by decide +kernel)
  have message : Leads .code
      [.code "    print('", .verbatim u.usernameEnv, .code ", ", .verbatim u.passwordEnv,
        .code " and ", .verbatim u.databaseEnv, .code " must be set');"]
      ((Segment.verbatim u.usernameEnv).Fits (.quoted '\'') ∧
        (Segment.verbatim u.passwordEnv).Fits (.quoted '\'') ∧
        (Segment.verbatim u.databaseEnv).Fits (.quoted '\'') ∧ True) .code :=
    .code (.quoted '\'') (by decide +kernel) <| .verbatim <|
    .code (.quoted '\'') (by decide +kernel) <| .verbatim <|
    .code (.quoted '\'') (by decide +kernel) <| .verbatim <| .code .code (by decide +kernel) .nil
  have creation : Free [
      .code "    authDb.createUser(\x7buser: userName, pwd: password, roles: [\x7brole: ",
      .literal u.role, .code ", db: userDb\x7d]\x7d);"] :=
    .between (by decide +kernel) (by decide +kernel)
  refine Leads.congr (.lines_cons (Free.fixed rfl) <| .lines_cons (user.line rfl) <|
    .lines_cons (password.line rfl) <| .lines_cons (database.line rfl) <|
    .lines_cons (Free.fixed (by decide +kernel)) <| .lines_cons (message.line rfl) <|
    Free.flatMap ?_) ?_
  · simp only [List.forall_mem_cons]
    refine ⟨?_, ?_, ?_, ?_, creation.line, ?_, nofun⟩ <;> exact Free.fixed (by decide +kernel)
  · -- a name fits into the message as it is, so the message asks for nothing more
    simp only [Segment.Fits, true_and, and_true, ne_eq, Char.reduceEq, not_false_eq_true]
    constructor
    · rintro ⟨user, password, database, -⟩
      exact ⟨user, password, database⟩
    · rintro ⟨user, password, database⟩
      exact ⟨user, password, database,
        user.keeps_message, password.keeps_message, database.keeps_message⟩

theorem leads_segments (p : Plan) : Leads .code (segments p) p.Tame .code := by
  have replicaSet : Leads .code
      (((p.replicaSet.map replicaSetLines).getD []).flatMap (· ++ [.code "\n"]))
      (∀ r ∈ p.replicaSet, Quotable r.id) .code := by
    cases p.replicaSet with
    | none => simpa using Leads.nil
    | some r => simpa using leads_replicaSetLines r
  have appUser : Leads .code
      (((p.appUser.map userLines).getD []).flatMap (· ++ [.code "\n"]))
      (∀ u ∈ p.appUser, u.Named) .code := by
    cases p.appUser with
    | none => simpa using Leads.nil
    | some u => simpa using leads_userLines u
  have collections : Free
      ((p.collections.flatMap collectionLines).flatMap (· ++ [.code "\n"])) := by
    rw [List.flatMap_assoc]
    exact .flatMap fun c _ => free_collectionLines c
  have all := (((leads_headLines p.database).append replicaSet).append
    ((free_databaseLines p.database).append collections)).append appUser
  simp only [← List.flatMap_append, ← List.append_assoc] at all
  refine all.congr ?_
  rw [and_true, and_assoc, ← Plan.tame_iff]

-- The segments without the texts of the plan, each with the mode that it begins in.
def contexts (p : Plan) : List (Segment × Mode) :=
  (placed .code (segments p)).map fun e => (e.1.erase, e.2)

-- The texts stay in the literals, comments, messages and names that they begin in just if the
-- plan is tame.
theorem script_fixed_by_shape {p q : Plan} (same : p.shape = q.shape)
    (soundP : p.check = .ok ()) (soundQ : q.check = .ok ()) :
    ∃ s t, p.script = .ok s ∧ q.script = .ok t ∧
      s.toList = (segments p).flatMap Segment.chars ∧
      t.toList = (segments q).flatMap Segment.chars ∧
      (segments p).map Segment.erase = (segments q).map Segment.erase ∧
      ((∀ e ∈ placed .code (segments p), e.1.Fits e.2) ↔ p.Tame) ∧
      (p.Tame → q.Tame → s.toList.count '\n' = t.toList.count '\n' ∧
        contexts p = contexts q ∧ Mode.code.read s.toList = .code) := by
  have erased : (segments p).map Segment.erase = (segments q).map Segment.erase := by
    rw [erase_segments, erase_segments, same]
  have chars (r : Plan) : (textOf (lines r)).toList = (segments r).flatMap Segment.chars :=
    toList_textOf (lines r)
  refine ⟨_, _, script_of_check soundP, script_of_check soundQ, chars p, chars q, erased,
    (leads_segments p).fits, fun tameP tameQ => ?_⟩
  have fittingP : Fitting .code (segments p) := (leads_segments p).fits.2 tameP
  have fittingQ : Fitting .code (segments q) := (leads_segments q).fits.2 tameQ
  refine ⟨?_, ?_, ?_⟩
  · rw [chars, chars, fittingP.count_lineEnd, fittingQ.count_lineEnd, erased]
  · rw [contexts, contexts, fittingP.placed_erase, fittingQ.placed_erase, erased]
  · rw [chars]
    exact (leads_segments p).reads tameP

theorem script_fixed_by_shape_of_literals :
    let p : Plan := ⟨"bench", [⟨"tasks", [⟨[⟨"done", 1⟩], true⟩]⟩], some .default,
      some (.single "rs0" "mongodb:27017")⟩
    let q : Plan := ⟨"bench's", [⟨"ta\"); quit(); (\"", [⟨[⟨"do\nne", 1⟩], true⟩]⟩],
      some ⟨"USER", "PASSWORD", "DATABASE", "\\"⟩, some (.single "rs1" "\"")⟩
    p.shape = q.shape ∧ p.check = .ok () ∧ q.check = .ok () ∧ p.Tame ∧ q.Tame ∧
      ∃ s t, p.script = .ok s ∧ q.script = .ok t ∧ s.toList.count '\n' = t.toList.count '\n' ∧
        contexts p = contexts q := by
  intro p q
  have same : p.shape = q.shape := rfl
  have soundP : p.check = .ok () := by decide +kernel
  have soundQ : q.check = .ok () := by decide +kernel
  have tameP : p.Tame := by
    simp [p, Plan.tame_iff, OneLine, Quotable, AppUser.Named, isLineEnd, ReplicaSet.single,
      AppUser.default, IsName, isNamePart]
  have tameQ : q.Tame := by
    simp [q, Plan.tame_iff, OneLine, Quotable, AppUser.Named, isLineEnd, ReplicaSet.single, IsName,
      isNamePart]
  obtain ⟨s, t, writtenP, writtenQ, -, -, -, -, fixed⟩ := script_fixed_by_shape same soundP soundQ
  obtain ⟨lineEnds, contexts, -⟩ := fixed tameP tameQ
  exact ⟨same, soundP, soundQ, tameP, tameQ, s, t, writtenP, writtenQ, lineEnds, contexts⟩

-- The name of a database may end the comment that it stands in, and what follows is a statement.
theorem script_changed_by_database :
    let p : Plan := ⟨"bench", [], none, none⟩
    let q : Plan := ⟨"bench\nquit()", [], none, none⟩
    p.shape = q.shape ∧ p.check = .ok () ∧ q.check = .ok () ∧
      ∃ s t, p.script = .ok s ∧ q.script = .ok t ∧
        s.toList.count '\n' = 12 ∧ t.toList.count '\n' = 13 := by
  intro p q
  have soundP : p.check = .ok () := by decide +kernel
  have soundQ : q.check = .ok () := by decide +kernel
  refine ⟨rfl, soundP, soundQ, _, _, script_of_check soundP, script_of_check soundQ, ?_, ?_⟩ <;>
    rw [toList_textOf] <;> decide +kernel

end Leaderboard.Bootstrap
