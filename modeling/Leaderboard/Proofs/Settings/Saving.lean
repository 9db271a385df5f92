import Leaderboard.Proofs.Program.Checking
import Leaderboard.Proofs.Settings.Layering
import Leaderboard.Proofs.Text.Utf8
import Leaderboard.Proofs.Yaml.KeptText

set_option autoImplicit false

namespace Leaderboard

open Settings

namespace Yaml

def Agrees (text : String) : Prop := ReadsBack 1 2 (.text text)

theorem Kept.agrees {text : String} (kept : Kept text) : Agrees text := kept.readsBack 2

end Yaml

namespace Setting

theorem Kind.readsBack {kind : Kind} {value : kind.Value} (exact : kind.Exact value)
    (agrees : ∀ text, kind.textOf? value = some text → Yaml.Agrees text) :
    Yaml.ReadsBack 1 2 (kind.encode value) := by
  cases kind with
  | text => exact agrees value rfl
  | natural => exact Yaml.readsBack_nat 2 exact
  | flag => exact Yaml.readsBack_boolean 2 value
  | optionalText =>
    cases value with
    | none => exact Yaml.readsBack_null 2
    | some text => exact agrees text rfl

theorem plainKey_part (x : Setting) : Yaml.PlainKey x.part := by
  cases x <;> decide +kernel

theorem plainKey_key (x : Setting) : Yaml.PlainKey x.key := by
  cases x <;> decide +kernel

theorem followers_distinct (leader : Setting) :
    (leader.followers.map key).Nodup ∧ leader.followers ≠ [] ∧ leader.followers.length ≤ 3 := by
  cases leader <;> decide +kernel

end Setting

namespace Settings

def texts (s : Settings) : List String := Setting.all.filterMap fun x => x.kind.textOf? (x.get s)

variable {s : Settings}

theorem ofLayer?_toLayer (exact : ∀ x : Setting, x.kind.Exact (x.get s)) (below : List Layer) :
    ofLayer? (stack (below ++ [s.toLayer])) = some s := by
  -- The last layer fills every cell, an absent replica set with null.
  have held (x : Setting) : x.cell? (stack (below ++ [s.toLayer])) =
      some (x.kind.encode (x.get s)) := by
    rw [stack, List.foldl_append, List.foldl_cons, List.foldl_nil, x.cell?_lay (x.flat_toLayer s),
      x.valueIn?_toLayer s, Option.some_or]
  exact ofLayer?_of_cells held fun x => Setting.Kind.decode?_encode (exact x)

theorem dropByteOrderMark_fileContent (s : Settings) :
    dropByteOrderMark s.fileContent = s.fileContent := by
  have key : Yaml.textScalar 0 "source" = "source" := (Setting.plainKey_part .endpointUrl).plain
  obtain ⟨rest, written⟩ : ∃ rest, s.fileContent.toList = 's' :: rest := by
    simp [fileContent, toJson, Yaml.document, Yaml.blockMembers, key, Yaml.spaces]
  rw [dropByteOrderMark, written]
  rfl

theorem fileText_save {path : String}
    (format : FileFormat.ofExtension? (extensionOf path) = some .yaml) (files : Files) :
    fileText (s.save path files) path = .ok (s.fileContent, .yaml) := by
  have read : (s.save path files).read path = .ok (Text.encode s.fileContent) := by
    simp [save, Files.write]
  have found : findFile (s.save path files) path = .ok (path, .yaml) := by
    simp [findFile, Files.isFile, read, format]
  rw [fileText, bind_eq_ok_iff]
  refine ⟨(path, .yaml), found, ?_⟩
  simp only [read, Text.decode?_encode, dropByteOrderMark_fileContent]
  rfl

section Reading

variable (exact : ∀ x : Setting, x.kind.Exact (x.get s))
  (agrees : ∀ text ∈ s.texts, Yaml.Agrees text)
include exact agrees

theorem readsBack_encode (x : Setting) :
    Yaml.ReadsBack 1 2 (x.kind.encode (x.get s)) :=
  Setting.Kind.readsBack (exact x) fun text given =>
    agrees text (List.mem_filterMap.2 ⟨x, x.mem_all, given⟩)

theorem readsBack_section :
    ∀ entry ∈ s.toLayer, Yaml.ReadsBack 7 0 entry.2 := by
  rw [Setting.toLayer_eq, List.forall_mem_map]
  intro leader _
  obtain ⟨distinct, held, few⟩ := leader.followers_distinct
  have each : ∀ member ∈ leader.followers.map fun y => (y.key, y.kind.encode (y.get s)),
      Yaml.ReadsBack 1 2 member.2 :=
    List.forall_mem_map.2 fun y _ => readsBack_encode exact agrees y
  refine (Yaml.ReadsBack.object (by simpa using held) ?_ ?_ each).mono ?_
  · exact List.forall_mem_map.2 fun y _ => y.plainKey_key
  · simpa [Function.comp_def] using distinct
  · rw [List.length_map]
    omega

theorem read?_fileContent :
    Yaml.read? s.fileContent = some (some (.object s.toLayer)) := by
  have names : s.toLayer.map (·.1) = Setting.leaders.map Setting.part := by
    rw [Setting.toLayer_eq, List.map_map]
    rfl
  have many : s.toLayer.length = 6 := rfl
  have whole : s.toJson = .object s.toLayer := rfl
  rw [fileContent, whole]
  refine Yaml.read?_document (List.ne_nil_of_length_pos (by omega)) ?_ ?_
    (readsBack_section exact agrees) (by omega)
  · rw [Setting.toLayer_eq]
    exact List.forall_mem_map.2 fun leader _ => leader.plainKey_part
  · rw [names]
    decide

theorem requiredLayer_save {path : String}
    (format : FileFormat.ofExtension? (extensionOf path) = some .yaml) (files : Files) :
    requiredLayer (s.save path files) path = .ok s.toLayer := by
  have layer : FileFormat.yaml.layer? s.fileContent = some s.toLayer := by
    simp [FileFormat.layer?, FileFormat.document?, read?_fileContent exact agrees]
  rw [requiredLayer, bind_eq_ok_iff]
  refine ⟨_, fileText_save format files, ?_⟩
  simp only [layer]
  rfl

end Reading

theorem loadFile_save (valid : s.check = .ok ()) (exact : ∀ x : Setting, x.kind.Exact (x.get s))
    (agrees : ∀ text ∈ s.texts, Yaml.Agrees text) {path : String}
    (format : FileFormat.ofExtension? (extensionOf path) = some .yaml) (files : Files) :
    loadFile (s.save path files) path = .ok s := by
  have layer := requiredLayer_save exact agrees format files
  have whole : ofLayers [default.toLayer, s.toLayer] = .ok s := by
    rw [ofLayers, ← List.singleton_append, ofLayer?_toLayer exact]
  simp only [loadFile, bind_eq_ok_iff, checked_eq_ok_iff]
  exact ⟨s.toLayer, by rw [layer]; rfl, s, whole, rfl, valid⟩

theorem loadFile_save_without_replica_set :
    let s : Settings := { Settings.default with database := ⟨"007", none, "two\n  lines: #\n\n"⟩ }
    s.check = .ok () ∧ loadFile (s.save "kept/board.yaml" .none) "kept/board.yaml" = .ok s := by
  intro s
  have valid : s.check = .ok () := by decide +kernel
  have kept : ∀ text ∈ s.texts, Yaml.Kept text := by decide +kernel
  have exact (x : Setting) : x.kind.Exact (x.get s) := by
    cases x
    case requestTimeoutSecs => exact Setting.exact_default .requestTimeoutSecs
    case intervalMs => exact Setting.exact_default .intervalMs
    all_goals trivial
  exact ⟨valid, loadFile_save valid exact (fun text inside => (kept text inside).agrees)
    (by decide +kernel) .none⟩

end Settings

end Leaderboard
