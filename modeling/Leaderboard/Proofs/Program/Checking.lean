import Leaderboard.Program
import Leaderboard.Proofs.Settings.Validity

set_option autoImplicit false

namespace Leaderboard

namespace Settings

variable (s : Settings) (around : Surroundings) (path : Option String)

theorem check_of_source {fault : SettingsFault} (unsound : s.source.check = .error fault) :
    s.check = .error fault := by
  unfold check
  rw [unsound]
  rfl

theorem checked_eq_ok_iff (sound : Settings) :
    s.checked = .ok sound ↔ s = sound ∧ s.check = .ok () := by
  unfold checked
  cases s.check <;> simp

theorem load_eq_ok_iff :
    load around path = .ok s ↔ loadUnchecked around path = .ok s ∧ s.check = .ok () := by
  simp only [load, bind_eq_ok_iff, checked_eq_ok_iff]
  constructor
  next =>
    intro ⟨loaded, unchecked, same, sound⟩
    subst same
    exact ⟨unchecked, sound⟩
  next =>
    intro ⟨unchecked, sound⟩
    exact ⟨s, unchecked, rfl, sound⟩

end Settings

namespace CommandLine.Invocation

variable (i : Invocation) (s : Settings)

theorem override_check_iff (sound : (i.override s).check = .ok ()) :
    s.check = .ok () ↔ s.source.check = .ok () := by
  have rest := ((i.override s).check_eq_ok_iff.1 sound).2
  exact ⟨fun all => (s.check_eq_ok_iff.1 all).1, fun source => s.check_eq_ok_iff.2 ⟨source, rest⟩⟩

theorem override_source (endpoint : i.endpoint = none) (timeout : i.timeoutSecs = none) :
    (i.override s).source = s.source := by
  simp [override, endpoint, timeout]

theorem load_override_iff (around : Surroundings) (path : Option String) :
    (∃ loaded, Settings.load around path = .ok loaded ∧ (i.override loaded).check = .ok ()) ↔
      (∃ loaded, Settings.loadUnchecked around path = .ok loaded ∧
        (i.override loaded).check = .ok ()) ∧
      ∀ loaded, Settings.loadUnchecked around path = .ok loaded → loaded.source.check = .ok () := by
  simp only [Settings.load_eq_ok_iff]
  constructor
  next =>
    intro ⟨loaded, ⟨unchecked, before⟩, sound⟩
    refine ⟨⟨loaded, unchecked, sound⟩, fun other same => ?_⟩
    cases unchecked.symm.trans same
    exact (loaded.check_eq_ok_iff.1 before).1
  next =>
    intro ⟨⟨loaded, unchecked, sound⟩, source⟩
    have before := (i.override_check_iff loaded sound).2 (source loaded unchecked)
    exact ⟨loaded, ⟨unchecked, before⟩, sound⟩

structure SameSettings (i j : Invocation) : Prop where
  path : i.settingsPath = j.settingsPath
  endpoint : i.endpoint = j.endpoint
  timeout : i.timeoutSecs = j.timeoutSecs
  stderr : i.stderr = j.stderr
  verbose : i.verbose = j.verbose

theorem SameSettings.override {i j : Invocation} (same : i.SameSettings j) :
    i.override s = j.override s := by
  simp [Invocation.override, same.endpoint, same.timeout, same.stderr, same.verbose]

end CommandLine.Invocation

namespace Program

open CommandLine Command Report

variable {around : Surroundings} {colored : Bool} {words : List String} {i : Invocation}
  {s : Settings}

theorem settingsFor_eq_ok_iff_of_inspects (inspects : i.inspectsSettings = true) :
    settingsFor around i = .ok s ↔
      ∃ loaded, Settings.loadUnchecked around i.settingsPath = .ok loaded ∧
        i.override loaded = s := by
  simp only [settingsFor, inspects, bind_eq_ok_iff, mapError_eq_ok_iff]
  simp [pure, Except.pure]

theorem settingsFor_eq_ok_iff_of_works (works : i.inspectsSettings = false) :
    settingsFor around i = .ok s ↔
      ∃ loaded, Settings.load around i.settingsPath = .ok loaded ∧
        (i.override loaded).check = .ok () ∧ i.override loaded = s := by
  simp only [settingsFor, works, bind_eq_ok_iff, mapError_eq_ok_iff]
  simp [pure, Except.pure, bind_eq_ok_iff, mapError_eq_ok_iff, exists_eq_ok_iff]

def checkReport (colored : Bool) (i : Invocation) : Except SettingsFault Unit → Ending
  | .ok () =>
    let origin := i.settingsPath.getD "defaults, files and environment"
    ⟨0, (Printer.mk i.format false colored).status .success
      ("Configuration is valid (" ++ origin ++ ")")⟩
  | .error fault => ⟨1, (Printer.mk i.format false colored).status .error fault.failure.message⟩

theorem start_of_check (parsed : Invocation.parse words = .ok i)
    (checks : i.command = .settings .validate) (got : settingsFor around i = .ok s) :
    start around colored words = .ended (checkReport colored i s.check) := by
  unfold start perform
  simp only [parsed, got, checks, inspect, validate, plainPrinter]
  cases s.check <;> rfl

def ReportsSound (around : Surroundings) (colored : Bool) (words : List String) : Prop :=
  ∃ i, Invocation.parse words = .ok i ∧
    start around colored words = .ended (checkReport colored i (.ok ()))

theorem reportsSound_iff (parsed : Invocation.parse words = .ok i)
    (checks : i.command = .settings .validate) :
    ReportsSound around colored words ↔
      ∃ loaded, Settings.loadUnchecked around i.settingsPath = .ok loaded ∧
        (i.override loaded).check = .ok () := by
  have inspects : i.inspectsSettings = true := by simp [Invocation.inspectsSettings, checks]
  constructor
  next =>
    intro ⟨j, parsed', reported⟩
    cases parsed.symm.trans parsed'
    cases got : settingsFor around i with
    | error trouble =>
      simp only [start, parsed, got] at reported
      cases reported
    | ok s =>
      obtain ⟨loaded, load, same⟩ := (settingsFor_eq_ok_iff_of_inspects inspects).1 got
      refine ⟨loaded, load, ?_⟩
      rw [start_of_check parsed checks got] at reported
      rw [same]
      cases verdict : s.check with
      | ok _ => rfl
      | error fault =>
        rw [verdict] at reported
        cases congrArg Ending.code (Start.ended.inj reported)
  next =>
    intro ⟨loaded, load, sound⟩
    have got := (settingsFor_eq_ok_iff_of_inspects inspects).2 ⟨loaded, load, rfl⟩
    exact ⟨i, parsed, by rw [start_of_check parsed checks got, sound]⟩

def GetsSettings (around : Surroundings) (colored : Bool) (words : List String) : Prop :=
  ∃ i s, Invocation.parse words = .ok i ∧ settingsFor around i = .ok s ∧
    start around colored words = perform ⟨s, i.file, i.format, colored⟩ around i

theorem getsSettings_iff (parsed : Invocation.parse words = .ok i)
    (works : i.inspectsSettings = false) :
    GetsSettings around colored words ↔
      ∃ loaded, Settings.load around i.settingsPath = .ok loaded ∧
        (i.override loaded).check = .ok () := by
  constructor
  next =>
    intro ⟨j, s, parsed', got, _⟩
    cases parsed.symm.trans parsed'
    obtain ⟨loaded, load, sound, _⟩ := (settingsFor_eq_ok_iff_of_works works).1 got
    exact ⟨loaded, load, sound⟩
  next =>
    intro ⟨loaded, load, sound⟩
    have got := (settingsFor_eq_ok_iff_of_works works).2 ⟨loaded, load, sound, rfl⟩
    exact ⟨i, _, parsed, got, by simp only [start, parsed, got]⟩

theorem start_of_unsound_source {loaded : Settings} {fault : SettingsFault}
    (parsed : Invocation.parse words = .ok i) (works : i.inspectsSettings = false)
    (unchecked : Settings.loadUnchecked around i.settingsPath = .ok loaded)
    (unsound : loaded.source.check = .error fault) :
    start around colored words = .ended (ofTrouble .empty
      ((Trouble.ofFailure fault.failure).during "Failed to load configuration")) := by
  have load : Settings.load around i.settingsPath = .error fault.failure := by
    unfold Settings.load
    rw [unchecked]
    change loaded.checked = _
    unfold Settings.checked
    rw [loaded.check_of_source unsound]
  have refused : settingsFor around i = .error
      ((Trouble.ofFailure fault.failure).during "Failed to load configuration") := by
    simp only [settingsFor, works, Bool.false_eq_true, if_false, load]
    rfl
  simp only [start, parsed, refused]

theorem getsSettings_iff_reportsSound (around : Surroundings) (colored : Bool)
    {checkWords workWords : List String} {checking working : Invocation}
    (parsedCheck : Invocation.parse checkWords = .ok checking)
    (checks : checking.command = .settings .validate)
    (parsedWork : Invocation.parse workWords = .ok working)
    (works : working.inspectsSettings = false) (same : checking.SameSettings working) :
    (GetsSettings around colored workWords ↔
      ReportsSound around colored checkWords ∧
        ∀ loaded, Settings.loadUnchecked around working.settingsPath = .ok loaded →
          loaded.source.check = .ok ()) ∧
    (∀ loaded fault, Settings.loadUnchecked around working.settingsPath = .ok loaded →
      loaded.source.check = .error fault →
        start around colored workWords = .ended (ofTrouble .empty
          ((Trouble.ofFailure fault.failure).during "Failed to load configuration"))) ∧
    (working.endpoint = none → working.timeoutSecs = none →
      (GetsSettings around colored workWords ↔ ReportsSound around colored checkWords)) := by
  have exactly : GetsSettings around colored workWords ↔
      ReportsSound around colored checkWords ∧
        ∀ loaded, Settings.loadUnchecked around working.settingsPath = .ok loaded →
          loaded.source.check = .ok () := by
    rw [getsSettings_iff parsedWork works, reportsSound_iff parsedCheck checks, same.path]
    simp only [same.override]
    exact working.load_override_iff around working.settingsPath
  refine ⟨exactly, fun loaded fault => start_of_unsound_source parsedWork works, ?_⟩
  intro endpoint timeout
  refine ⟨fun gets => (exactly.1 gets).1, fun reports => exactly.2 ⟨reports, ?_⟩⟩
  intro loaded unchecked
  obtain ⟨other, unchecked', sound⟩ := (reportsSound_iff parsedCheck checks).1 reports
  rw [same.path] at unchecked'
  cases unchecked.symm.trans unchecked'
  rw [same.override] at sound
  rw [← working.override_source loaded endpoint timeout]
  exact ((working.override loaded).check_eq_ok_iff.1 sound).1

def plainInvocation (format : Format) (timeoutSecs : Option UInt64)
    (command : CommandLine.Command) : Invocation :=
  ⟨none, none, none, format, false, timeoutSecs, false, command⟩

theorem getsSettings_iff_reportsSound_on_defaults :
    let around : Surroundings := ⟨.none, [], none, .offline⟩
    let checking := plainInvocation .table none (.settings .validate)
    let working := plainInvocation .json none (.rows ⟨"", none, false⟩)
    Invocation.parse ["config", "validate"] = .ok checking ∧
      Invocation.parse ["--json", "rows"] = .ok working ∧ checking.SameSettings working ∧
      ReportsSound around false ["config", "validate"] ∧
      GetsSettings around false ["--json", "rows"] := by
  intro around checking working
  have parsedCheck : Invocation.parse ["config", "validate"] = .ok checking :=
    eq_ok_of_toOption (by decide +kernel)
  have parsedWork : Invocation.parse ["--json", "rows"] = .ok working :=
    eq_ok_of_toOption (by decide +kernel)
  have same : checking.SameSettings working := ⟨rfl, rfl, rfl, rfl, rfl⟩
  have loaded : Settings.loadUnchecked around none = .ok .default :=
    eq_ok_of_toOption (by decide +kernel)
  have reports : ReportsSound around false ["config", "validate"] :=
    (reportsSound_iff parsedCheck rfl).2 ⟨_, loaded, eq_ok_of_toOption (by decide +kernel)⟩
  have agree := getsSettings_iff_reportsSound around false parsedCheck rfl parsedWork rfl same
  exact ⟨parsedCheck, parsedWork, same, reports, (agree.2.2 rfl rfl).2 reports⟩

-- A variable that sets no time at all is mended by an option for the check alone.
theorem reportsSound_without_settings :
    let around : Surroundings := ⟨.none,
      [("BOARD__SOURCE__REQUEST_TIMEOUT_SECS", "0")], none, .offline⟩
    let checking := plainInvocation .table (some 5) (.settings .validate)
    let working := plainInvocation .table (some 5) (.rows ⟨"", none, false⟩)
    Invocation.parse ["--timeout", "5", "config", "validate"] = .ok checking ∧
      Invocation.parse ["--timeout", "5", "rows"] = .ok working ∧ checking.SameSettings working ∧
      ReportsSound around false ["--timeout", "5", "config", "validate"] ∧
      ¬ GetsSettings around false ["--timeout", "5", "rows"] := by
  intro around checking working
  have parsedCheck : Invocation.parse ["--timeout", "5", "config", "validate"] = .ok checking :=
    eq_ok_of_toOption (by decide +kernel)
  have parsedWork : Invocation.parse ["--timeout", "5", "rows"] = .ok working :=
    eq_ok_of_toOption (by decide +kernel)
  have loaded : Settings.loadUnchecked around none = .ok
      { Settings.default with source := ⟨SourceSettings.default.endpointUrl, 0⟩ } :=
    eq_ok_of_toOption (by decide +kernel)
  refine ⟨parsedCheck, parsedWork, ⟨rfl, rfl, rfl, rfl, rfl⟩, ?reports, ?lacks⟩
  case reports =>
    exact (reportsSound_iff parsedCheck rfl).2 ⟨_, loaded, eq_ok_of_toOption (by decide +kernel)⟩
  case lacks =>
    intro gets
    obtain ⟨other, load, _⟩ := (getsSettings_iff parsedWork rfl).1 gets
    obtain ⟨unchecked, sound⟩ := (other.load_eq_ok_iff around none).1 load
    cases loaded.symm.trans unchecked
    exact absurd (congrArg Except.toOption sound) (by decide +kernel)

end Program

end Leaderboard
