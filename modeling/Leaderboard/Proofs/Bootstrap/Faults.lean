import Leaderboard.Bootstrap.Script
import Leaderboard.Proofs.Data.Outcome
import Mathlib.Data.List.Nodup

set_option autoImplicit false

namespace Leaderboard.Bootstrap

def HasInk (text : String) : Prop := ∃ c ∈ text.toList, Text.isBlank c = false

theorem hasInk_iff {text : String} : HasInk text ↔ Text.allBlank text = false := by
  simp [HasInk, Text.allBlank, List.all_eq_false]

instance (text : String) : Decidable (HasInk text) := decidable_of_iff _ hasInk_iff.symm

def unwanted : List Char := ['/', '\\', '.', ' ', '"', '$']

theorem isForbidden_iff {c : Char} : isForbidden c = true ↔ c ∈ unwanted := by
  simp [isForbidden, unwanted, or_assoc]

def Reserved (name : String) : Prop := "system.".toList <+: name.toList

instance (name : String) : Decidable (Reserved name) :=
  inferInstanceAs (Decidable ("system.".toList <+: name.toList))

theorem isReserved_iff {name : String} : isReserved name = true ↔ Reserved name := by
  rw [isReserved, beq_iff_eq, Reserved, List.prefix_iff_eq_take, eq_comm]
  rfl

structure IndexKey.Sound (k : IndexKey) : Prop where
  field : HasInk k.field
  direction : k.direction = 1 ∨ k.direction = -1

structure Index.Sound (i : Index) : Prop where
  nonempty : i.keys ≠ []
  keys : ∀ k ∈ i.keys, k.Sound
  distinct : (i.keys.map IndexKey.field).Nodup

structure Collection.Sound (c : Collection) : Prop where
  named : HasInk c.name
  free : ¬ Reserved c.name
  indexes : ∀ i ∈ c.indexes, i.Sound

structure AppUser.Sound (u : AppUser) : Prop where
  username : u.usernameEnv ≠ ""
  password : u.passwordEnv ≠ ""
  database : u.databaseEnv ≠ ""
  role : u.role ≠ ""

structure ReplicaSet.Sound (r : ReplicaSet) : Prop where
  named : HasInk r.id
  members : r.members ≠ []

def DatabaseName (name : String) : Prop := HasInk name ∧ ∀ c ∈ unwanted, c ∉ name.toList

structure Plan.Sound (p : Plan) : Prop where
  database : DatabaseName p.database
  collections : ∀ c ∈ p.collections, c.Sound
  distinct : (p.collections.map Collection.name).Nodup
  appUser : ∀ u ∈ p.appUser, u.Sound
  replicaSet : ∀ r ∈ p.replicaSet, r.Sound

def preceded {α : Type} : List α → List (List α × α)
  | [] => []
  | x :: xs => ([], x) :: (preceded xs).map fun e => (x :: e.1, e.2)

section preceded

variable {α β : Type}

theorem map_snd_preceded (xs : List α) : (preceded xs).map Prod.snd = xs := by
  induction xs with
  | nil => rfl
  | cons x xs ih => simp [preceded, Function.comp_def, ih]

theorem forall_preceded_iff (p : α → Prop) {xs : List α} :
    (∀ e ∈ preceded xs, p e.2) ↔ ∀ x ∈ xs, p x := by
  rw [← List.forall_mem_map (f := Prod.snd) (P := p), map_snd_preceded]

theorem nodup_iff_preceded {f : α → β} {xs : List α} :
    (xs.map f).Nodup ↔ ∀ e ∈ preceded xs, f e.2 ∉ e.1.map f := by
  induction xs with
  | nil => simp [preceded]
  | cons x xs ih =>
    have apart : (∀ e ∈ preceded xs, f e.2 ≠ f x) ↔ f x ∉ xs.map f := by
      rw [forall_preceded_iff (fun y => f y ≠ f x), List.mem_map]
      simp only [not_exists, not_and, ne_eq]
    rw [List.map_cons, List.nodup_cons, ih, ← apart, preceded, List.forall_mem_cons,
      List.forall_mem_map, ← forall₂_and]
    simp

end preceded

def faultIf (broken : Prop) [Decidable broken] (fault : PlanFault) : List PlanFault :=
  if broken then [fault] else []

def databaseFaults (name : String) : List PlanFault :=
  faultIf (¬ HasInk name) .blankDatabase ++
  (name.toList.filter (· ∈ unwanted)).map (.databaseCharacter name)

def keyFaults (collection : String) (before : List IndexKey) (k : IndexKey) : List PlanFault :=
  faultIf (¬ HasInk k.field) (.blankField collection) ++
  faultIf (¬ (k.direction = 1 ∨ k.direction = -1)) (.wrongDirection k.field collection k.direction) ++
  faultIf (k.field ∈ before.map IndexKey.field) (.repeatedField collection k.field)

def indexFaults (collection : String) (i : Index) : List PlanFault :=
  faultIf (i.keys = []) (.noKeys collection) ++
  (preceded i.keys).flatMap fun e => keyFaults collection e.1 e.2

def collectionFaults (before : List Collection) (c : Collection) : List PlanFault :=
  faultIf (¬ HasInk c.name) .blankCollection ++
  faultIf (Reserved c.name) (.reservedCollection c.name) ++
  faultIf (c.name ∈ before.map Collection.name) (.duplicateCollection c.name) ++
  c.indexes.flatMap (indexFaults c.name)

def userFaults (u : AppUser) : List PlanFault :=
  faultIf (u.usernameEnv = "" ∨ u.passwordEnv = "" ∨ u.databaseEnv = "") .noVariable ++
  faultIf (u.role = "") .noRole

def replicaSetFaults (r : ReplicaSet) : List PlanFault :=
  faultIf (¬ HasInk r.id) .blankReplicaSet ++ faultIf (r.members = []) (.noMembers r.id)

def Plan.faults (p : Plan) : List PlanFault :=
  databaseFaults p.database ++
  (preceded p.collections).flatMap (fun e => collectionFaults e.1 e.2) ++
  p.appUser.toList.flatMap userFaults ++
  p.replicaSet.toList.flatMap replicaSetFaults

section sound

theorem faultIf_eq_nil_iff {broken : Prop} [Decidable broken] {fault : PlanFault} :
    faultIf broken fault = [] ↔ ¬ broken := by
  by_cases holds : broken <;> simp [faultIf, holds]

theorem databaseFaults_eq_nil_iff {name : String} :
    databaseFaults name = [] ↔ DatabaseName name := by
  simp only [databaseFaults, List.append_eq_nil_iff, faultIf_eq_nil_iff, not_not,
    List.map_eq_nil_iff, List.filter_eq_nil_iff, decide_eq_true_eq, DatabaseName]
  exact and_congr_right fun _ => ⟨fun clean c bad inside => clean c inside bad,
    fun clean c inside bad => clean c bad inside⟩

theorem indexFaults_eq_nil_iff {collection : String} {i : Index} :
    indexFaults collection i = [] ↔ i.Sound := by
  have keys : (∀ e ∈ preceded i.keys, HasInk e.2.field ∧
      (e.2.direction = 1 ∨ e.2.direction = -1)) ↔ ∀ k ∈ i.keys, k.Sound := by
    rw [forall_preceded_iff fun k : IndexKey =>
      HasInk k.field ∧ (k.direction = 1 ∨ k.direction = -1)]
    exact forall₂_congr fun k _ => ⟨fun ⟨field, direction⟩ => ⟨field, direction⟩,
      fun sound => ⟨sound.field, sound.direction⟩⟩
  simp only [indexFaults, keyFaults, List.append_eq_nil_iff, faultIf_eq_nil_iff, not_not,
    List.flatMap_eq_nil_iff, forall₂_and, ← nodup_iff_preceded] at keys ⊢
  rw [keys]
  exact ⟨fun ⟨nonempty, keys, distinct⟩ => ⟨nonempty, keys, distinct⟩,
    fun sound => ⟨sound.nonempty, sound.keys, sound.distinct⟩⟩

theorem userFaults_eq_nil_iff {u : AppUser} : userFaults u = [] ↔ u.Sound := by
  simp only [userFaults, List.append_eq_nil_iff, faultIf_eq_nil_iff, not_or]
  exact ⟨fun ⟨⟨username, password, database⟩, role⟩ => ⟨username, password, database, role⟩,
    fun sound => ⟨⟨sound.username, sound.password, sound.database⟩, sound.role⟩⟩

theorem replicaSetFaults_eq_nil_iff {r : ReplicaSet} : replicaSetFaults r = [] ↔ r.Sound := by
  simp only [replicaSetFaults, List.append_eq_nil_iff, faultIf_eq_nil_iff, not_not]
  exact ⟨fun ⟨named, members⟩ => ⟨named, members⟩, fun sound => ⟨sound.named, sound.members⟩⟩

theorem collectionFaults_eq_nil_iff {before : List Collection} {c : Collection} :
    collectionFaults before c = [] ↔ c.Sound ∧ c.name ∉ before.map Collection.name := by
  simp only [collectionFaults, List.append_eq_nil_iff, faultIf_eq_nil_iff, not_not,
    List.flatMap_eq_nil_iff, indexFaults_eq_nil_iff]
  exact ⟨fun ⟨⟨⟨named, free⟩, new⟩, indexes⟩ => ⟨⟨named, free, indexes⟩, new⟩,
    fun ⟨sound, new⟩ => ⟨⟨⟨sound.named, sound.free⟩, new⟩, sound.indexes⟩⟩

theorem Plan.faults_eq_nil_iff {p : Plan} : p.faults = [] ↔ p.Sound := by
  simp only [Plan.faults, List.append_eq_nil_iff, databaseFaults_eq_nil_iff,
    List.flatMap_eq_nil_iff, collectionFaults_eq_nil_iff, userFaults_eq_nil_iff,
    replicaSetFaults_eq_nil_iff, forall₂_and, ← nodup_iff_preceded,
    forall_preceded_iff Collection.Sound, Option.mem_toList]
  constructor
  next =>
    intro ⟨⟨⟨database, collections, distinct⟩, appUser⟩, replicaSet⟩
    exact ⟨database, collections, distinct, appUser, replicaSet⟩
  next =>
    intro sound
    exact ⟨⟨⟨sound.database, sound.collections, sound.distinct⟩, sound.appUser⟩, sound.replicaSet⟩

end sound

def firstOf : List PlanFault → Except PlanFault Unit
  | [] => .ok ()
  | fault :: _ => .error fault

section first

theorem firstOf_append (fs gs : List PlanFault) :
    firstOf (fs ++ gs) = firstOf fs >>= fun _ => firstOf gs := by
  cases fs <;> rfl

theorem firstOf_faultIf (broken : Prop) [Decidable broken] (fault : PlanFault) :
    firstOf (faultIf broken fault) = if broken then .error fault else .ok () := by
  by_cases holds : broken <;> simp [faultIf, holds, firstOf]

theorem firstOf_faultIf_append (broken : Prop) [Decidable broken] (fault : PlanFault)
    (gs : List PlanFault) :
    firstOf (faultIf broken fault ++ gs) = if broken then .error fault else firstOf gs := by
  by_cases holds : broken <;> simp [faultIf, holds, firstOf]

theorem checkDatabase_eq (name : String) : checkDatabase name = firstOf (databaseFaults name) := by
  have same : (fun c => decide (c ∈ unwanted)) = isForbidden := by
    funext c
    simp only [← isForbidden_iff, Bool.decide_eq_true]
  simp only [databaseFaults, firstOf_faultIf_append, hasInk_iff, same, checkDatabase,
    Bool.not_eq_false]
  refine if_congr Iff.rfl rfl ?_
  rw [← List.head?_filter]
  cases name.toList.filter isForbidden <;> rfl

-- A check that remembers what it has seen judges every entry against all those before it.
theorem check_eq_of_cons {α : Type} {f : α → String}
    {check : List String → List α → Except PlanFault Unit}
    {faults : List α → α → List PlanFault} (done : ∀ seen, check seen [] = .ok ())
    (step : ∀ seen before x rest, (∀ name, name ∈ seen ↔ name ∈ before.map f) →
      check seen (x :: rest) = firstOf (faults before x) >>= fun _ => check (f x :: seen) rest)
    (xs : List α) :
    check [] xs = firstOf ((preceded xs).flatMap fun e => faults e.1 e.2) := by
  suffices general : ∀ (before : List α) (seen : List String),
      (∀ name, name ∈ seen ↔ name ∈ before.map f) →
      check seen xs = firstOf ((preceded xs).flatMap fun e => faults (before ++ e.1) e.2) by
    simpa using general [] [] (by simp)
  induction xs with
  | nil => exact fun before seen _ => done seen
  | cons x rest ih =>
    intro before seen same
    have next (name : String) : name ∈ f x :: seen ↔ name ∈ (before ++ [x]).map f := by
      rw [List.mem_cons, same, List.map_append, List.mem_append, List.map_singleton,
        List.mem_singleton, or_comm]
    rw [step seen before x rest same, ih _ _ next, ← firstOf_append, preceded, List.flatMap_cons,
      List.flatMap_map, List.append_nil]
    simp only [List.append_assoc, List.singleton_append]

theorem checkKeys_eq (collection : String) (keys : List IndexKey) :
    checkKeys collection [] keys =
      firstOf ((preceded keys).flatMap fun e => keyFaults collection e.1 e.2) := by
  refine check_eq_of_cons (f := IndexKey.field) (fun _ => rfl) ?_ keys
  intro seen before k rest same
  simp only [checkKeys, keyFaults, List.append_assoc, firstOf_faultIf_append, firstOf_faultIf,
    hasInk_iff, ← same, List.contains_iff_mem, Bool.not_eq_false, Bool.and_eq_true, bne_iff_ne,
    not_or, ne_eq]
  split_ifs <;> rfl

theorem checkIndexes_eq (collection : String) (indexes : List Index) :
    checkIndexes collection indexes = firstOf (indexes.flatMap (indexFaults collection)) := by
  have one (i : Index) : checkIndex collection i = firstOf (indexFaults collection i) := by
    simp only [indexFaults, firstOf_faultIf_append, checkIndex, checkKeys_eq, List.isEmpty_iff]
  induction indexes with
  | nil => rfl
  | cons i rest ih =>
    rw [checkIndexes, one, ih, List.flatMap_cons, firstOf_append]
    cases firstOf (indexFaults collection i) <;> rfl

theorem checkCollections_eq (collections : List Collection) :
    checkCollections [] collections =
      firstOf ((preceded collections).flatMap fun e => collectionFaults e.1 e.2) := by
  refine check_eq_of_cons (f := Collection.name) (fun _ => rfl) ?_ collections
  intro seen before c rest same
  have name : checkName seen c.name =
      firstOf (faultIf (¬ HasInk c.name) .blankCollection ++
        faultIf (Reserved c.name) (.reservedCollection c.name) ++
        faultIf (c.name ∈ before.map Collection.name) (.duplicateCollection c.name)) := by
    simp only [checkName, List.append_assoc, firstOf_faultIf_append, firstOf_faultIf, hasInk_iff,
      ← same, List.contains_iff_mem, Bool.not_eq_false, isReserved_iff]
  rw [checkCollections, name, checkIndexes_eq, collectionFaults,
    firstOf_append _ (c.indexes.flatMap (indexFaults c.name))]
  generalize firstOf (_ ++ _) = outcome
  cases outcome with
  | error fault => rfl
  | ok _ => cases firstOf (c.indexes.flatMap (indexFaults c.name)) <;> rfl

theorem checkUser_eq (user : Option AppUser) :
    checkUser user = firstOf (user.toList.flatMap userFaults) := by
  cases user with
  | none => rfl
  | some u =>
    simp only [Option.toList_some, List.flatMap_singleton, userFaults, firstOf_faultIf_append,
      firstOf_faultIf, checkUser, Bool.or_eq_true, String.isEmpty_iff, or_assoc]

theorem checkReplicaSet_eq (replicaSet : Option ReplicaSet) :
    checkReplicaSet replicaSet = firstOf (replicaSet.toList.flatMap replicaSetFaults) := by
  cases replicaSet with
  | none => rfl
  | some r =>
    simp only [Option.toList_some, List.flatMap_singleton, replicaSetFaults,
      firstOf_faultIf_append, firstOf_faultIf, checkReplicaSet, hasInk_iff, Bool.not_eq_false,
      List.isEmpty_iff]

theorem Plan.check_eq (p : Plan) : p.check = firstOf p.faults := by
  rw [Plan.faults, firstOf_append, firstOf_append, firstOf_append, Plan.check, checkDatabase_eq,
    checkCollections_eq, checkUser_eq, checkReplicaSet_eq]
  simp only [bind_assoc]

theorem firstOf_eq_ok_iff {faults : List PlanFault} : firstOf faults = .ok () ↔ faults = [] := by
  cases faults <;> simp [firstOf]

theorem firstOf_eq_error_iff {faults : List PlanFault} {fault : PlanFault} :
    firstOf faults = .error fault ↔ faults.head? = some fault := by
  cases faults <;> simp [firstOf]

end first

theorem script_of_check {p : Plan} (sound : p.check = .ok ()) :
    p.script = .ok (Script.textOf (Script.lines p)) := by
  rw [Plan.script, sound]
  rfl

namespace Plan

variable {p : Plan}

theorem check_eq_ok_iff : p.check = .ok () ↔ p.Sound := by
  rw [check_eq, firstOf_eq_ok_iff, faults_eq_nil_iff]

theorem check_eq_error_iff {fault : PlanFault} :
    p.check = .error fault ↔ p.faults.head? = some fault := by
  rw [check_eq, firstOf_eq_error_iff]

theorem script_eq_error_iff {fault : PlanFault} :
    p.script = .error fault ↔ p.check = .error fault := by
  rw [script, bind_eq_error_iff]
  exact or_iff_left fun ⟨_, _, failed⟩ => nomatch failed

theorem script_eq_ok_iff {text : String} :
    p.script = .ok text ↔ p.check = .ok () ∧ Script.textOf (Script.lines p) = text := by
  rw [script, bind_eq_ok_iff]
  exact ⟨fun ⟨_, sound, same⟩ => ⟨sound, Except.ok.inj same⟩,
    fun ⟨sound, same⟩ => ⟨(), sound, congrArg Except.ok same⟩⟩

theorem check_reports_first (p : Plan) :
    (p.check = .ok () ↔ p.Sound) ∧ ((∃ text, p.script = .ok text) ↔ p.Sound) ∧
    ∀ fault, (p.check = .error fault ↔ p.faults.head? = some fault) ∧
      (p.script = .error fault ↔ p.faults.head? = some fault) ∧
      fault.failure.kind = .schema := by
  refine ⟨check_eq_ok_iff, ?written, fun fault => ⟨check_eq_error_iff, ?refused, rfl⟩⟩
  case written =>
    simp only [script_eq_ok_iff, exists_and_left, exists_eq', and_true, check_eq_ok_iff]
  case refused => rw [script_eq_error_iff, check_eq_error_iff]

-- The second collection repeats a name, but stands below the key.
example : (Plan.mk "bench" [⟨"a", [⟨[⟨"f", 2⟩], false⟩]⟩, ⟨"a", []⟩] none none).check =
    .error (.wrongDirection "f" "a" 2) := by
  decide

end Plan

end Leaderboard.Bootstrap
