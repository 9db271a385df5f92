import Leaderboard.Bootstrap.Assembly
import Leaderboard.Proofs.Bootstrap.Faults
import Leaderboard.Proofs.Settings.Validity

set_option autoImplicit false

namespace Leaderboard

open Bootstrap (HasInk)

theorem DatabaseSettings.check_eq_ok_iff (db : DatabaseSettings) :
    db.check = .ok () ↔ HasInk db.name ∧ ∀ _ ∈ db.replicaSet, HasInk db.replicaHost := by
  simp only [Bootstrap.hasInk_iff, check]
  cases Text.allBlank db.name <;> cases db.replicaSet <;>
    cases Text.allBlank db.replicaHost <;> simp

namespace Bootstrap

open Report (Format)

structure Plannable (db : DatabaseSettings) (r : Request) : Prop where
  database : ∀ c ∈ unwanted, c ∉ db.name.toList
  replicaSet : r.noReplicaSet = false → ∀ id ∈ db.replicaSet, HasInk id

def refusal (name : String) : PlanFault :=
  match name.toList.find? (· ∈ unwanted) with
  | some c => .databaseCharacter name c
  | none => .blankReplicaSet

section assembled

variable {db : DatabaseSettings} {r : Request}

theorem assemble_eq (db : DatabaseSettings) (r : Request) :
    assemble db r =
      { Plan.testbench (r.database.getD db.name) with
        appUser := if r.noUser then none else some .default
        replicaSet :=
          if r.noReplicaSet then none
          else db.replicaSet.map fun id => .single id db.replicaHost } := by
  unfold assemble withConfiguredReplicaSet
  cases db.replicaSet <;> cases r.noReplicaSet <;> cases r.noUser <;> rfl

theorem faults_assemble (own : r.database = none) :
    (assemble db r).faults =
      databaseFaults db.name ++
        if r.noReplicaSet then []
        else db.replicaSet.toList.flatMap fun id => faultIf (¬ HasInk id) .blankReplicaSet := by
  have collections : (preceded Plan.pipelineCollections).flatMap
      (fun e => collectionFaults e.1 e.2) = [] := by decide +kernel
  have user : (if r.noUser then none else some AppUser.default).toList.flatMap userFaults = [] := by
    split <;> decide
  have single (id : String) :
      replicaSetFaults (.single id db.replicaHost) = faultIf (¬ HasInk id) .blankReplicaSet := by
    have member : faultIf ((ReplicaSet.single id db.replicaHost).members = []) (.noMembers id) = [] :=
      faultIf_eq_nil_iff.2 (List.cons_ne_nil db.replicaHost [])
    exact (congrArg (_ ++ ·) member).trans (List.append_nil _)
  rw [assemble_eq]
  simp only [Plan.faults, Plan.testbench, own, Option.getD_none, collections, user, List.append_nil]
  cases r.noReplicaSet <;> cases db.replicaSet <;> simp [single]

theorem databaseFaults_of_hasInk {name : String} (ink : HasInk name) :
    databaseFaults name = (name.toList.filter (· ∈ unwanted)).map (.databaseCharacter name) := by
  simp [databaseFaults, faultIf, ink]

theorem assemble_check_iff (own : r.database = none) :
    (assemble db r).check = .ok () ↔ HasInk db.name ∧ Plannable db r := by
  have replicaSet : (if r.noReplicaSet then [] else
      db.replicaSet.toList.flatMap fun id => faultIf (¬ HasInk id) .blankReplicaSet) = [] ↔
        (r.noReplicaSet = false → ∀ id ∈ db.replicaSet, HasInk id) := by
    cases r.noReplicaSet <;> simp [faultIf_eq_nil_iff]
  rw [Plan.check_eq, firstOf_eq_ok_iff, faults_assemble own, List.append_eq_nil_iff,
    databaseFaults_eq_nil_iff, replicaSet, DatabaseName, and_assoc]
  exact and_congr_right fun _ => ⟨fun both => ⟨both.1, both.2⟩,
    fun plannable => ⟨plannable.database, plannable.replicaSet⟩⟩

theorem assemble_refused (own : r.database = none) (ink : HasInk db.name)
    (unplannable : ¬ Plannable db r) : (assemble db r).check = .error (refusal db.name) := by
  rw [Plan.check_eq_error_iff, faults_assemble own, databaseFaults_of_hasInk ink, refusal,
    ← List.head?_filter]
  cases bad : db.name.toList.filter (· ∈ unwanted) with
  | cons c rest => rfl
  | nil =>
    have clean : ∀ c ∈ unwanted, c ∉ db.name.toList := fun c wanted inside =>
      List.not_mem_nil (bad ▸ List.mem_filter.2 ⟨inside, decide_eq_true wanted⟩)
    have nameless : ¬ (r.noReplicaSet = false → ∀ id ∈ db.replicaSet, HasInk id) :=
      fun named => unplannable ⟨clean, named⟩
    simp only [not_forall] at nameless
    obtain ⟨wanted, id, given, blank⟩ := nameless
    simp [wanted, Option.mem_def.1 given, faultIf, blank]

end assembled

theorem print_of_check {db : DatabaseSettings} {r : Request}
    (sound : (assemble db r).check = .ok ()) (format : Format) :
    ∃ out, print db format r = .ok out := by
  obtain ⟨out, written⟩ : ∃ out, output format r.showPlan (assemble db r) = .ok out := by
    unfold output
    rw [script_of_check sound]
    split <;> exact ⟨_, rfl⟩
  exact ⟨out, by simp only [print, sound, written]⟩

theorem print_of_fault {db : DatabaseSettings} {format : Format} {r : Request} {fault : PlanFault}
    (refused : (assemble db r).check = .error fault) :
    print db format r =
      .error ((Trouble.ofFailure fault.failure).during "Invalid bootstrap plan") := by
  unfold print
  simp only [refused]

theorem print_of_checked_settings {s : Settings} (sound : s.check = .ok ()) (format : Format)
    {r : Request} (own : r.database = none) :
    (∀ db : DatabaseSettings,
      (db.check = .ok () ↔ HasInk db.name ∧ ∀ _ ∈ db.replicaSet, HasInk db.replicaHost) ∧
      ((assemble db r).check = .ok () ↔ HasInk db.name ∧ Plannable db r)) ∧
    ((∃ out, print s.database format r = .ok out) ↔ Plannable s.database r) ∧
    (¬ Plannable s.database r → print s.database format r =
      .error ((Trouble.ofFailure (refusal s.database.name).failure).during
        "Invalid bootstrap plan")) := by
  have ink : HasInk s.database.name :=
    (s.database.check_eq_ok_iff.1 (s.check_eq_ok_iff.1 sound).2.2.2.2.2).1
  refine ⟨fun db => ⟨db.check_eq_ok_iff, assemble_check_iff own⟩, ⟨?printed, ?plannable⟩, ?refused⟩
  case printed =>
    rintro ⟨out, printed⟩
    by_contra unplannable
    rw [print_of_fault (assemble_refused own ink unplannable)] at printed
    cases printed
  case plannable =>
    exact fun plannable => print_of_check ((assemble_check_iff own).2 ⟨ink, plannable⟩) format
  case refused => exact fun unplannable => print_of_fault (assemble_refused own ink unplannable)

theorem print_of_default_settings :
    let r : Request := ⟨none, false, false, false⟩
    Settings.default.check = .ok () ∧ Plannable Settings.default.database r ∧
      ∃ out, print Settings.default.database .table r = .ok out := by
  intro r
  have sound : Settings.default.check = .ok () := by decide +kernel
  have plannable : Plannable Settings.default.database r := by
    have plain : Settings.default.database.name.toList.find? isForbidden = none := by
      decide +kernel
    refine ⟨fun c bad inside => List.find?_eq_none.1 plain c inside (isForbidden_iff.2 bad),
      fun _ id given => ?_⟩
    cases given
    decide +kernel
  obtain ⟨-, printed, -⟩ := print_of_checked_settings sound .table (r := r) rfl
  exact ⟨sound, plannable, printed.2 plannable⟩

theorem print_refuses_checked_settings :
    let dotted := { Settings.default with database := ⟨"my.db", none, "mongodb:27017"⟩ }
    let nameless := { Settings.default with database := ⟨"bench", some " ", "mongodb:27017"⟩ }
    let r : Request := ⟨none, false, false, false⟩
    dotted.check = .ok () ∧
      print dotted.database .table r = .error ((Trouble.ofFailure
        (PlanFault.databaseCharacter "my.db" '.').failure).during "Invalid bootstrap plan") ∧
      nameless.check = .ok () ∧
      print nameless.database .table r = .error ((Trouble.ofFailure
        PlanFault.blankReplicaSet.failure).during "Invalid bootstrap plan") := by
  intro dotted nameless r
  have character : (assemble dotted.database r).check =
      .error (.databaseCharacter "my.db" '.') := by decide +kernel
  have blank : (assemble nameless.database r).check = .error .blankReplicaSet := by decide +kernel
  exact ⟨by decide +kernel, print_of_fault character, by decide +kernel, print_of_fault blank⟩

end Bootstrap

end Leaderboard
