import Mathlib.Logic.Function.Basic
import Leaderboard.Proofs.Data.Outcome
import Leaderboard.Proofs.Settings.Layering

set_option autoImplicit false

namespace Leaderboard

open Settings

namespace Settings

def respelled (text : String) : String :=
  if Text.fold text = "true" then "true"
  else if Text.fold text = "false" then "false"
  else
    match Decimal.integer64? text.toList, Decimal.number? text with
    | some n, _ => toString n
    | none, some x => Decimal.plainText x
    | none, none => text

structure PrintedForm (text : String) : Prop where
  yes : Text.fold text = "true" → text = "true"
  no : Text.fold text = "false" → text = "false"
  integer : ∀ n, Decimal.integer64? text.toList = some n → text = toString n
  real : Decimal.integer64? text.toList = none →
    ∀ x, Decimal.number? text = some x → text = Decimal.plainText x

theorem respelled_eq_self_iff (text : String) : respelled text = text ↔ PrintedForm text := by
  unfold respelled
  constructor
  next =>
    intro kept
    by_cases yes : Text.fold text = "true"
    next =>
      rw [if_pos yes] at kept
      subst kept
      exact ⟨fun _ => rfl, by decide, by decide, by decide⟩
    by_cases no : Text.fold text = "false"
    next =>
      rw [if_neg yes, if_pos no] at kept
      subst kept
      exact ⟨by decide, fun _ => rfl, by decide, by decide⟩
    rw [if_neg yes, if_neg no] at kept
    refine ⟨fun same => absurd same yes, fun same => absurd same no, fun n read => ?_,
      fun unread x read => ?_⟩
    · rw [read] at kept
      exact kept.symm
    · rw [unread, read] at kept
      exact kept.symm
  next =>
    intro printed
    split
    next yes => exact (printed.yes yes).symm
    split
    next no => exact (printed.no no).symm
    split
    next n read => exact (printed.integer n read).symm
    next x unread read => exact (printed.real unread x read).symm
    next => rfl

theorem integer64?_lt {cs : List Char} {n : Int} (read : Decimal.integer64? cs = some n) :
    n < exactLimit := by
  obtain ⟨m, -, fits⟩ := Option.bind_eq_some_iff.1 read
  unfold Decimal.fit64? at fits
  split at fits
  next inside =>
    cases fits
    exact of_decide_eq_true (Bool.and_eq_true_iff.1 inside).2
  next => cases fits

theorem text?_variableValue (text : String) :
    text? (variableValue text) = some (respelled text) := by
  unfold variableValue respelled
  simp only [beq_iff_eq]
  split
  next => rfl
  split
  next => rfl
  cases read : Decimal.integer64? text.toList with
  | some n => simp [text?, integer64?_lt read]
  | none => cases Decimal.number? text <;> rfl

theorem optionalText?_of_text? {value : Json} {text : String} (read : text? value = some text) :
    optionalText? value = some (some text) := by
  cases value <;> first | exact congrArg (Option.map some) read | cases read

theorem foldl_lay_empty {layers : List Layer} (empty : ∀ layer ∈ layers, layer = [])
    (below : Layer) : layers.foldl lay below = below := by
  induction layers with
  | nil => rfl
  | cons layer rest ih =>
    rw [empty layer List.mem_cons_self]
    exact ih fun other inside => empty other (List.mem_cons_of_mem layer inside)

end Settings

namespace Setting

def Kind.TakesText (kind : Kind) : Prop := kind = .text ∨ kind = .optionalText

theorem Kind.exists_respelled {kind : Kind} (takes : kind.TakesText) (text : String) :
    ∃ value, kind.decode? (variableValue text) = some value ∧
      kind.textOf? value = some (respelled text) := by
  have read := text?_variableValue text
  rcases takes with rfl | rfl
  next => exact ⟨_, read, rfl⟩
  next => exact ⟨some (respelled text), optionalText?_of_text? read, rfl⟩

theorem cell?_of_own {x : Setting} {value : Json} (scalar : IsScalar value) {files : List Layer}
    (unset : ∀ file ∈ files, file = []) (y : Setting) :
    y.cell? (stack (Settings.default.toLayer :: files ++ [[(x.name, value)], [], []])) =
      some (if y = x then value else y.kind.encode (y.get .default)) := by
  have start : y.cell? (lay [] Settings.default.toLayer) =
      some (y.kind.encode (y.get .default)) := by
    rw [y.cell?_lay (y.flat_toLayer _), valueIn?_toLayer, Option.some_or]
  rw [stack, List.cons_append, List.foldl_cons]
  generalize lay [] Settings.default.toLayer = below at start
  have stacked : (files ++ [[(x.name, value)], [], []]).foldl lay below =
      lay below [(x.name, value)] := by
    rw [List.foldl_append, foldl_lay_empty unset]
    rfl
  rw [stacked, y.cell?_lay (y.flat_own x scalar), y.valueIn?_own x scalar, start]
  split <;> rfl

end Setting

namespace Settings

theorem exists_unset_fileLayers {around : Surroundings} (unnamed : namedFile? around none = none)
    (unset : ∀ usual ∈ usualFiles around, optionalLayer around.files usual = .ok []) :
    ∃ files, fileLayers around none = .ok files ∧ ∀ file ∈ files, file = [] := by
  unfold fileLayers
  rw [unnamed]
  dsimp only
  generalize usualFiles around = paths at unset
  induction paths with
  | nil => exact ⟨[], rfl, nofun⟩
  | cons usual rest ih =>
    obtain ⟨files, read, empty⟩ := ih fun other inside =>
      unset other (List.mem_cons_of_mem usual inside)
    refine ⟨[] :: files, ?_, fun file inside => ?_⟩
    · rw [List.mapM_cons, read, unset usual List.mem_cons_self]
      rfl
    · rcases List.mem_cons.1 inside with first | later
      · exact first
      · exact empty file later

theorem loadUnchecked_of_own {around : Surroundings} {x : Setting} {text : String}
    (alone : around.environment = [(x.variableName, text)])
    (unset : ∀ usual ∈ usualFiles around, optionalLayer around.files usual = .ok []) :
    ∃ files, (∀ file ∈ files, file = []) ∧
      loadUnchecked around none =
        ofLayers (default.toLayer :: files ++ [[(x.name, variableValue text)], [], []]) := by
  have absent {other : String} (unrelated : settingName? other = none) :
      around.environment.lookup other = none := by
    have differs : (other == x.variableName) = false :=
      beq_eq_false_iff_ne.2 (x.variableName_ne unrelated).symm
    simp [alone, List.lookup_cons, differs]
  have layer : environmentLayer around.environment = [(x.name, variableValue text)] := by
    simp [alone, environmentLayer, x.settingName?_variableName]
  obtain ⟨files, read, empty⟩ := exists_unset_fileLayers (absent (by decide)) unset
  refine ⟨files, empty, ?_⟩
  have noEndpoint : endpointOverride around.environment = [] := by
    rw [endpointOverride, absent (by decide)]
  have noSwitch : stderrOverride around.environment = .ok [] := by
    rw [stderrOverride, absent (by decide)]
  rw [loadUnchecked, read, layer, noEndpoint, noSwitch]
  rfl

theorem optionalLayer_none (path : String) : optionalLayer .none path = .ok [] := by
  have missing : fileText .none path = .error .missing := by
    simp [fileText, findFile, Files.isFile, Files.none, List.find?_eq_none.2]
    rfl
  rw [optionalLayer, missing]

theorem own_text_kept_iff {x : Setting} (takes : x.kind.TakesText) (text : String)
    {around : Surroundings} (alone : around.environment = [(x.variableName, text)])
    (unset : ∀ usual ∈ usualFiles around, optionalLayer around.files usual = .ok []) :
    ∃ s, loadUnchecked around none = .ok s ∧
      x.kind.textOf? (x.get s) = some (respelled text) ∧
      (x.kind.textOf? (x.get s) = some text ↔ PrintedForm text) ∧
      ∀ y ≠ x, y.get s = y.get .default := by
  obtain ⟨value, fits, spelled⟩ := Setting.Kind.exists_respelled takes text
  let s := Setting.assemble (Function.update (fun y => y.get .default) x value)
  have own : x.get s = value := by simp [s]
  have others : ∀ y ≠ x, y.get s = y.get .default := fun y other => by simp [s, other]
  obtain ⟨files, empty, load⟩ := loadUnchecked_of_own alone unset
  have held := Setting.cell?_of_own (x := x) (isScalar_variableValue text) empty
  have all : ∀ y : Setting, y.kind.decode? (if y = x then variableValue text
      else y.kind.encode (y.get .default)) = some (y.get s) := by
    intro y
    by_cases same : y = x
    next =>
      subst same
      rw [if_pos rfl, own]
      exact fits
    next =>
      rw [if_neg same, others y same]
      exact Setting.Kind.decode?_encode y.exact_default
  refine ⟨s, ?loads, own ▸ spelled, ?kept, others⟩
  case loads => rw [load, ofLayers, ofLayer?_of_cells held all]
  case kept => rw [own, spelled, Option.some.injEq, respelled_eq_self_iff]

theorem own_text_kept_iff_of_word :
    let around : Surroundings := ⟨.none, [("BOARD__DISPLAY__SORT_BY", "gsm8k")], none, .offline⟩
    Setting.sortBy.kind.TakesText ∧ around.environment = [(Setting.sortBy.variableName, "gsm8k")] ∧
      (∀ usual ∈ usualFiles around, optionalLayer around.files usual = .ok []) ∧
      ∃ s, loadUnchecked around none = .ok s ∧ s.display.sortBy = "gsm8k" := by
  intro around
  have takes : Setting.sortBy.kind.TakesText := .inl rfl
  have alone : around.environment = [(Setting.sortBy.variableName, "gsm8k")] := by decide +kernel
  have unset : ∀ usual ∈ usualFiles around, optionalLayer around.files usual = .ok [] :=
    fun usual _ => optionalLayer_none usual
  obtain ⟨s, loads, spelled, -⟩ := own_text_kept_iff takes "gsm8k" alone unset
  have plain : respelled "gsm8k" = "gsm8k" := by rfl
  exact ⟨takes, alone, unset, s, loads, Option.some.inj (spelled.trans (congrArg some plain))⟩

-- A name of digits loses the zeros before it.
theorem own_text_respelled :
    loadUnchecked ⟨.none, [("BOARD__DATABASE__NAME", "007")], none, .offline⟩ none =
        .ok { default with database := { DatabaseSettings.default with name := "7" } } ∧
      "7" ≠ "007" :=
  ⟨eq_ok_of_toOption (by decide +kernel), by decide⟩

end Settings

end Leaderboard
