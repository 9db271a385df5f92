import Leaderboard.Proofs.Program.Checking
import Leaderboard.Proofs.Settings.Layering

set_option autoImplicit false

namespace Leaderboard

open Settings CommandLine

namespace Settings

variable {env : Environment}

def leadsThrough (name : String) : List String := (pathOf name).map Text.fold

theorem isList_expand {entry : String × Json} (scalar : IsScalar entry.2) :
    isList (expand entry).2 = false := by
  have notList : isList entry.2 = false := by
    cases value : entry.2 with
    | list items => exact False.elim (by rwa [value] at scalar)
    | _ => rfl
  unfold expand
  split
  next => exact notList
  next first rest _ =>
    cases rest with
    | nil => exact notList
    | cons second more => rfl

theorem byName_of_scalars {layer : Layer} (scalars : ∀ entry ∈ layer, IsScalar entry.2) :
    ByName layer := by
  intro expanded inside x _ _
  obtain ⟨entry, given, rfl⟩ := List.mem_map.1 inside
  exact isList_expand (scalars entry given)

theorem byName_toLayer (s : Settings) : ByName s.toLayer := by
  rw [Setting.toLayer_eq]
  intro expanded inside x _ _
  obtain ⟨entry, given, rfl⟩ := List.mem_map.1 inside
  obtain ⟨leader, -, rfl⟩ := List.mem_map.1 given
  rw [Setting.expand_section]
  rfl

theorem byName_environmentLayer (env : Environment) : ByName (environmentLayer env) := by
  refine byName_of_scalars fun entry inside => ?_
  obtain ⟨⟨name, text⟩, -, named⟩ := List.mem_filterMap.1 inside
  obtain ⟨setting, -, rfl⟩ := Option.map_eq_some_iff.1 named
  exact isScalar_variableValue text

theorem byName_endpointOverride (env : Environment) : ByName (endpointOverride env) := by
  unfold endpointOverride
  repeat' split
  all_goals exact byName_of_scalars (by simp [IsScalar])

def switchOf? (text : String) : Option Bool := switch? (Text.lowerAscii (Text.trim text))

theorem stderrOverride_eq_ok_iff {layer : Layer} :
    stderrOverride env = .ok layer ↔
      env.lookup stderrVariable = none ∧ layer = [] ∨
        ∃ text on, env.lookup stderrVariable = some text ∧ switchOf? text = some on ∧
          layer = [("display.show_stderr", .boolean on)] := by
  unfold stderrOverride switchOf?
  cases env.lookup stderrVariable with
  | none => simp [eq_comm]
  | some text =>
    constructor
    next =>
      intro read
      dsimp only at read
      split at read
      next on means =>
        cases read
        exact .inr ⟨text, on, rfl, means, rfl⟩
      next => cases read
    next =>
      rintro (⟨absent, -⟩ | ⟨other, on, same, means, rfl⟩)
      · cases absent
      · cases same
        dsimp only
        rw [means]

theorem byName_stderrOverride {stderr : Layer} (read : stderrOverride env = .ok stderr) :
    ByName stderr := by
  rcases stderrOverride_eq_ok_iff.1 read with ⟨-, rfl⟩ | ⟨text, on, -, -, rfl⟩
  all_goals exact byName_of_scalars (by simp [IsScalar])

end Settings

namespace Setting

variable (x : Setting) (env : Environment)

def option? (i : Invocation) : (x : Setting) → Option x.kind.Value
  | endpointUrl => i.endpoint
  | requestTimeoutSecs => i.timeoutSecs
  | showStderr => if i.stderr then some true else none
  | logLevel => if i.verbose then some "debug" else none
  | _ => none

theorem get_override (i : Invocation) (s : Settings) :
    x.get (i.override s) = (x.option? i).getD (x.get s) := by
  cases x
  case showStderr =>
    change (i.stderr || s.display.showStderr) = (if i.stderr then some true else none).getD _
    cases i.stderr <;> rfl
  case logLevel =>
    change (if i.verbose then "debug" else s.observability.logLevel) =
      (if i.verbose then some "debug" else none).getD _
    cases i.verbose <;> rfl
  all_goals rfl

def older? : Setting → Option Json
  | endpointUrl =>
    (env.lookup endpointVariable).bind fun text =>
      if Text.allBlank text then none else some (.text (Text.trim text))
  | showStderr =>
    (env.lookup stderrVariable).bind fun text => (switchOf? text).map .boolean
  | _ => none

def standard : Json := x.kind.encode (x.get .default)

def chosen (files : List Layer) : Json :=
  (((older? env x).or (x.valueIn? (environmentLayer env))).or
    (files.reverse.findSome? x.valueIn?)).getD x.standard

theorem valueIn?_older {stderr : Layer} (read : stderrOverride env = .ok stderr) :
    (x.valueIn? stderr).or (x.valueIn? (endpointOverride env)) = older? env x := by
  have endpoint : x.valueIn? (endpointOverride env) =
      if x = endpointUrl then older? env endpointUrl else none := by
    unfold endpointOverride older?
    cases env.lookup endpointVariable with
    | none => simp [valueIn?]
    | some text =>
      have own : x.valueIn? [("source.endpoint_url", .text (Text.trim text))] =
          if x = endpointUrl then some (.text (Text.trim text)) else none :=
        x.valueIn?_own endpointUrl trivial
      cases blank : Text.allBlank text
      · simpa [blank] using own
      · simp [blank, valueIn?]
  have switch : x.valueIn? stderr = if x = showStderr then older? env showStderr else none := by
    unfold older?
    rcases stderrOverride_eq_ok_iff.1 read with ⟨absent, rfl⟩ | ⟨text, on, given, means, rfl⟩
    · simp [absent, valueIn?]
    · have own : x.valueIn? [("display.show_stderr", .boolean on)] =
          if x = showStderr then some (.boolean on) else none := x.valueIn?_own showStderr trivial
      simpa [given, means] using own
  rw [endpoint, switch]
  cases x <;> simp [older?]

def ownVariable? : Option Json :=
  (env.filterMap fun (name, text) =>
    if (settingName? name).map leadsThrough = some [x.part, x.key] then some (variableValue text)
    else none).getLast?

-- No variable is named after the whole section, or after something inside of the setting.
def Alone : Prop :=
  ∀ entry ∈ env, ∀ name, settingName? entry.1 = some name →
    leadsThrough name ≠ [x.part] ∧
      ∀ inner rest, leadsThrough name ≠ x.part :: x.key :: inner :: rest

theorem pathOf_ne_nil (name : String) : pathOf name ≠ [] := by
  unfold pathOf
  dsimp only
  split
  · simpa using Text.splitAll_ne_nil '.' name.toList
  · exact nofun

theorem valuesIn_expand {name : String} {value : Json} (scalar : IsScalar value)
    (whole : leadsThrough name ≠ [x.part])
    (inside : ∀ inner rest, leadsThrough name ≠ x.part :: x.key :: inner :: rest) :
    x.valuesIn (expand (name, value)) =
      if leadsThrough name = [x.part, x.key] then [value] else [] := by
  unfold leadsThrough at *
  unfold expand valuesIn
  cases path : pathOf name with
  | nil => exact absurd path (pathOf_ne_nil name)
  | cons first rest =>
    rw [path] at whole inside
    cases rest with
    | nil =>
      have apart : Text.fold first ≠ x.part := fun same => whole (by rw [List.map, same]; rfl)
      simp [apart]
    | cons second rest =>
      cases rest with
      | nil =>
        simp only [nest, List.filterMap_cons, List.filterMap_nil, valueAt?_scalar x second scalar]
        by_cases here : Text.fold first = x.part <;> by_cases named : Text.fold second = x.key <;>
          simp [here, named]
      | cons third more =>
        have apart : Text.fold first = x.part → Text.fold second ≠ x.key := fun here named =>
          inside (Text.fold third) (more.map Text.fold) (by simp [here, named])
        by_cases here : Text.fold first = x.part
        · simp [here, nest, valueAt?, apart here]
        · simp [here]

theorem valueIn?_environmentLayer (alone : x.Alone env) :
    x.valueIn? (environmentLayer env) = x.ownVariable? env := by
  unfold valueIn? ownVariable? environmentLayer
  congr 1
  induction env with
  | nil => rfl
  | cons entry rest ih =>
    have ihRest := ih fun other inside => alone other (List.mem_cons_of_mem entry inside)
    obtain ⟨variable', text⟩ := entry
    cases named : settingName? variable' with
    | none => simpa [named] using ihRest
    | some name =>
      obtain ⟨whole, inside⟩ := alone (variable', text) List.mem_cons_self name named
      have given := x.valuesIn_expand (isScalar_variableValue text) whole inside
      by_cases own : leadsThrough name = [x.part, x.key]
      · simpa [named, own, given] using ihRest
      · simpa [named, own, given] using ihRest

theorem valueIn?_insert_own {x y : Setting} (different : x ≠ y) (before after : Layer)
    (value : Json) :
    x.valueIn? (before ++ (y.name, value) :: after) = x.valueIn? (before ++ after) := by
  have apart : x.valuesIn (expand (y.name, value)) = [] := by
    rw [expand_own, valuesIn_section]
    split
    next => simp [valueAt?_other different]
    next => rfl
  simp [valueIn?, apart]

theorem valueIn?_insert_member {x y : Setting} (different : x ≠ y) (before after front back : Layer)
    (value : Json) :
    x.valueIn? (before ++ (y.part, .object (front ++ (y.key, value) :: back)) :: after) =
      x.valueIn? (before ++ (y.part, .object (front ++ back)) :: after) := by
  have apart : x.valuesIn (y.part, .object (front ++ (y.key, value) :: back)) =
      x.valuesIn (y.part, .object (front ++ back)) := by
    rw [valuesIn_section, valuesIn_section]
    split
    next => simp [valueAt?_other different]
    next => rfl
  simp [valueIn?, expand_section, apart]

end Setting

namespace Settings

theorem findSome?_cons_eq_or {α β : Type} (f : α → Option β) (first : α) (rest : List α) :
    (first :: rest).findSome? f = (f first).or (rest.findSome? f) := by
  cases given : f first <;> simp [List.findSome?, given]

theorem decode?_chosen {around : Surroundings} {path : Option String} {s : Settings}
    (loaded : loadUnchecked around path = .ok s) :
    ∃ files, fileLayers around path = .ok files ∧
      (∀ text, around.environment.lookup stderrVariable = some text → (switchOf? text).isSome) ∧
      ((∀ file ∈ files, ByName file) →
        ∀ x : Setting, x.kind.decode? (x.chosen around.environment files) = some (x.get s)) := by
  unfold loadUnchecked at loaded
  obtain ⟨stderr, read, loaded⟩ := (bind_eq_ok_iff _ _ _).1 loaded
  obtain ⟨files, found, loaded⟩ := (bind_eq_ok_iff _ _ _).1 loaded
  refine ⟨files, found, ?_, fun byName x => ?_⟩
  next =>
    intro text given
    rcases stderrOverride_eq_ok_iff.1 read with ⟨absent, -⟩ | ⟨other, on, same, means, -⟩
    · cases absent.symm.trans given
    · cases same.symm.trans given
      exact means ▸ rfl
  next =>
    have settings : ofLayer? (stack (default.toLayer :: files ++
        [environmentLayer around.environment, endpointOverride around.environment, stderr])) =
        some s := by
      unfold ofLayers at loaded
      split at loaded
      next same => exact same.trans (congrArg some (Except.ok.inj loaded))
      next => cases loaded
    have named : ∀ layer ∈ default.toLayer :: files ++ [environmentLayer around.environment,
        endpointOverride around.environment, stderr], ByName layer := by
      intro layer inside
      simp only [List.cons_append, List.mem_cons, List.mem_append, List.not_mem_nil, or_false]
        at inside
      rcases inside with rfl | inside | rfl | rfl | rfl
      · exact byName_toLayer default
      · exact byName layer inside
      · exact byName_environmentLayer _
      · exact byName_endpointOverride _
      · exact byName_stderrOverride read
    have taken := decode?_of_ofLayers settings named x
    rw [← taken, Setting.chosen, Setting.standard, ← x.valueIn?_older _ read]
    simp only [List.cons_append, List.reverse_cons, List.reverse_append, List.reverse_nil,
      List.nil_append, List.findSome?_append, List.findSome?_nil, findSome?_cons_eq_or,
      Setting.valueIn?_toLayer, Option.getD_or, Option.getD_some]

theorem fileLayers_of_named {around : Surroundings} {path : Option String} {named : String}
    {files : List Layer} (names : namedFile? around path = some named)
    (found : fileLayers around path = .ok files) :
    ∃ file, requiredLayer around.files named = .ok file ∧ files = [file] := by
  unfold fileLayers at found
  rw [names] at found
  obtain ⟨file, read, rfl⟩ := (map_eq_ok_iff _ _ _).1 found
  refine ⟨file, ?_, rfl⟩
  unfold orFileFault at read
  split at read
  next layer same => exact same.trans (congrArg Except.ok (Except.ok.inj read))
  next => cases read

end Settings

namespace Program

theorem loadUnchecked_of_settingsFor {around : Surroundings} {i : Invocation} {s : Settings}
    (got : settingsFor around i = .ok s) :
    ∃ loaded, loadUnchecked around i.settingsPath = .ok loaded ∧ i.override loaded = s := by
  cases inspects : i.inspectsSettings with
  | true => exact (settingsFor_eq_ok_iff_of_inspects inspects).1 got
  | false =>
    obtain ⟨loaded, load, -, same⟩ := (settingsFor_eq_ok_iff_of_works inspects).1 got
    exact ⟨loaded, ((loaded.load_eq_ok_iff _ _).1 load).1, same⟩

-- What is given to one setting never counts for another.
theorem setting_from_highest_place {around : Surroundings} {i : Invocation} {s : Settings}
    (got : settingsFor around i = .ok s) :
    ∃ files, fileLayers around i.settingsPath = .ok files ∧
      (∀ path, i.settingsPath.or (around.environment.lookup "BOARD_CONFIG") = some path →
        ∃ file, requiredLayer around.files path = .ok file ∧ files = [file]) ∧
      (∀ text, around.environment.lookup "BOARD_SHOW_STDERR" = some text →
        (switchOf? text).isSome) ∧
      (∀ (x : Setting) value, x.option? i = some value → x.get s = value) ∧
      ((∀ file ∈ files, ByName file) →
        (∀ x : Setting, x.option? i = none →
          x.kind.decode? (x.chosen around.environment files) = some (x.get s)) ∧
        ∀ file, files = [file] → Setting.replicaSet.valueIn? file = some .null →
          Setting.replicaSet.valueIn? (environmentLayer around.environment) = none →
            s.database.replicaSet = none) ∧
      (∀ x : Setting, settingName? x.variableName = some x.name ∧
        (x.Alone around.environment →
          x.valueIn? (environmentLayer around.environment) =
            x.ownVariable? around.environment)) ∧
      ∀ x y : Setting, x ≠ y → ∀ before after front back value,
        x.valueIn? (before ++ (y.name, value) :: after) = x.valueIn? (before ++ after) ∧
        x.valueIn? (before ++ (y.part, .object (front ++ (y.key, value) :: back)) :: after) =
          x.valueIn? (before ++ (y.part, .object (front ++ back)) :: after) := by
  obtain ⟨loaded, unchecked, rfl⟩ := loadUnchecked_of_settingsFor got
  obtain ⟨files, found, switched, decoded⟩ := decode?_chosen unchecked
  have taken (byName : ∀ file ∈ files, ByName file) (x : Setting) (free : x.option? i = none) :
      x.kind.decode? (x.chosen around.environment files) = some (x.get (i.override loaded)) := by
    rw [x.get_override, free]
    exact decoded byName x
  refine ⟨files, found, ?named, switched, ?options, fun byName => ⟨taken byName, ?null⟩,
    fun x => ⟨x.settingName?_variableName, x.valueIn?_environmentLayer _⟩, ?apart⟩
  case named =>
    intro path names
    refine fileLayers_of_named ?_ found
    rw [← names, namedFile?]
    cases i.settingsPath <;> rfl
  case options =>
    intro x value given
    rw [x.get_override, given]
    rfl
  case null =>
    intro file alone null unset
    have decodedNull := taken byName .replicaSet rfl
    rw [alone, Setting.chosen, unset] at decodedNull
    simp only [Setting.older?, List.reverse_singleton, findSome?_cons_eq_or, null] at decodedNull
    exact (Option.some.inj decodedNull).symm
  case apart =>
    intro x y different before after front back value
    exact ⟨Setting.valueIn?_insert_own different before after value,
      Setting.valueIn?_insert_member different before after front back value⟩

theorem setting_from_highest_place_over_a_file :
    let content := "database:\n  name: evals\n  replica_set: null\ndisplay:\n  sort_by: name\n"
    let around : Surroundings := ⟨.ofReads [("evals.yaml", .ok (Text.encode content))],
      [("BOARD_CONFIG", "evals.yaml"), ("BOARD__DISPLAY__SORT_BY", "uptime"),
        ("BOARD__SOURCE__REQUEST_TIMEOUT_SECS", "7"), ("API_ENDPOINT_URL", " http://other/ "),
        ("BOARD_SHOW_STDERR", "yes")], none, .offline⟩
    let i := plainInvocation .table (some 5) (.settings .show)
    let s : Settings := ⟨⟨"http://other/", 5⟩, .default, ⟨true, "uptime", true⟩, .default, .default,
      ⟨"evals", none, DatabaseSettings.default.replicaHost⟩⟩
    settingsFor around i = .ok s ∧
      ∃ files, fileLayers around i.settingsPath = .ok files ∧ (∀ file ∈ files, ByName file) ∧
        ∀ x : Setting, x.option? i = none →
          x.kind.decode? (x.chosen around.environment files) = some (x.get s) := by
  intro content around i s
  have got : settingsFor around i = .ok s := eq_ok_of_toOption (by decide +kernel)
  obtain ⟨files, found, -, -, -, taken, -⟩ := setting_from_highest_place got
  have named : ((fileLayers around i.settingsPath).toOption.all fun files =>
      files.all fun file => ByName file) = true := by decide +kernel
  have byName : ∀ file ∈ files, ByName file := by
    rw [found] at named
    exact fun file inside => of_decide_eq_true (List.all_eq_true.1 named file inside)
  exact ⟨got, files, found, byName, (taken byName).1⟩

end Program

end Leaderboard
