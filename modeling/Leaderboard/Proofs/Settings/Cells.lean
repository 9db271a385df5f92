import Leaderboard.Settings.Loading

set_option autoImplicit false

namespace Leaderboard

open Settings

inductive Setting
  | endpointUrl
  | requestTimeoutSecs
  | intervalMs
  | refetchOnReconnect
  | showStderr
  | sortBy
  | descending
  | bindAddr
  | logLevel
  | logFormat
  | databaseName
  | replicaSet
  | replicaHost
deriving Repr, DecidableEq

namespace Setting

def all : List Setting :=
  [endpointUrl, requestTimeoutSecs, intervalMs, refetchOnReconnect, showStderr, sortBy, descending,
    bindAddr, logLevel, logFormat, databaseName, replicaSet, replicaHost]

theorem mem_all (x : Setting) : x ∈ all := by cases x <;> decide

inductive Kind
  | text
  | natural
  | flag
  | optionalText
deriving Repr, DecidableEq

namespace Kind

abbrev Value : Kind → Type
  | text => String
  | natural => UInt64
  | flag => Bool
  | optionalText => Option String

def decode? : (kind : Kind) → Json → Option kind.Value
  | text => text?
  | natural => natural?
  | flag => flag?
  | optionalText => optionalText?

def encode : (kind : Kind) → kind.Value → Json
  | text => .text
  | natural => fun n => .nat n.toNat
  | flag => .boolean
  | optionalText => .optionalText

def absent? : (kind : Kind) → Option kind.Value
  | optionalText => some none
  | _ => none

def textOf? : (kind : Kind) → kind.Value → Option String
  | .text, written => some written
  | .optionalText, written => written
  | _, _ => none

def Exact : (kind : Kind) → kind.Value → Prop
  | natural => fun n => n.toNat < Decimal.twoTo 63
  | _ => fun _ => True

theorem decode?_encode {kind : Kind} {value : kind.Value} (exact : kind.Exact value) :
    kind.decode? (kind.encode value) = some value := by
  cases kind
  case natural =>
    have small : ((value.toNat : Nat) : Int) < exactLimit := Int.ofNat_lt.2 exact
    have nonneg : ¬ ((value.toNat : Nat) : Int) < 0 := by omega
    simp [decode?, encode, Json.nat, natural?, small]
  case optionalText => cases value <;> rfl
  all_goals rfl

end Kind

theorem forall_iff {P : Setting → Prop} :
    (∀ x, P x) ↔
      (P .endpointUrl ∧ P .requestTimeoutSecs) ∧ (P .intervalMs ∧ P .refetchOnReconnect) ∧
        (P .showStderr ∧ P .sortBy ∧ P .descending) ∧ P .bindAddr ∧ (P .logLevel ∧ P .logFormat) ∧
        P .databaseName ∧ P .replicaSet ∧ P .replicaHost := by
  constructor
  next =>
    intro all
    simp only [all, and_self]
  next =>
    rintro ⟨⟨_, _⟩, ⟨_, _⟩, ⟨_, _, _⟩, _, ⟨_, _⟩, _, _, _⟩ x
    cases x <;> assumption

def part : Setting → String
  | endpointUrl | requestTimeoutSecs => "source"
  | intervalMs | refetchOnReconnect => "refresh"
  | showStderr | sortBy | descending => "display"
  | bindAddr => "server"
  | logLevel | logFormat => "observability"
  | databaseName | replicaSet | replicaHost => "database"

def key : Setting → String
  | endpointUrl => "endpoint_url"
  | requestTimeoutSecs => "request_timeout_secs"
  | intervalMs => "interval_ms"
  | refetchOnReconnect => "refetch_on_reconnect"
  | showStderr => "show_stderr"
  | sortBy => "sort_by"
  | descending => "descending"
  | bindAddr => "bind_addr"
  | logLevel => "log_level"
  | logFormat => "log_format"
  | databaseName => "name"
  | replicaSet => "replica_set"
  | replicaHost => "replica_host"

def kind : Setting → Kind
  | endpointUrl | sortBy | bindAddr | logLevel | logFormat | databaseName | replicaHost => .text
  | requestTimeoutSecs | intervalMs => .natural
  | refetchOnReconnect | showStderr | descending => .flag
  | replicaSet => .optionalText

def get : (x : Setting) → Settings → x.kind.Value
  | endpointUrl => fun s => s.source.endpointUrl
  | requestTimeoutSecs => fun s => s.source.requestTimeoutSecs
  | intervalMs => fun s => s.refresh.intervalMs
  | refetchOnReconnect => fun s => s.refresh.refetchOnReconnect
  | showStderr => fun s => s.display.showStderr
  | sortBy => fun s => s.display.sortBy
  | descending => fun s => s.display.descending
  | bindAddr => fun s => s.server.bindAddr
  | logLevel => fun s => s.observability.logLevel
  | logFormat => fun s => s.observability.logFormat
  | databaseName => fun s => s.database.name
  | replicaSet => fun s => s.database.replicaSet
  | replicaHost => fun s => s.database.replicaHost

def assemble (values : (x : Setting) → x.kind.Value) : Settings :=
  ⟨⟨values endpointUrl, values requestTimeoutSecs⟩, ⟨values intervalMs, values refetchOnReconnect⟩,
    ⟨values showStderr, values sortBy, values descending⟩, ⟨values bindAddr⟩,
    ⟨values logLevel, values logFormat⟩,
    ⟨values databaseName, values replicaSet, values replicaHost⟩⟩

@[simp] theorem get_assemble (values : (x : Setting) → x.kind.Value) (x : Setting) :
    x.get (assemble values) = values x := by
  cases x <;> rfl

theorem exact_default (x : Setting) : x.kind.Exact (x.get .default) := by
  cases x
  case requestTimeoutSecs => exact (by decide : (30 : UInt64).toNat < Decimal.twoTo 63)
  case intervalMs => exact (by decide : (60000 : UInt64).toNat < Decimal.twoTo 63)
  all_goals trivial

def name (x : Setting) : String := x.part ++ "." ++ x.key

def variableName (x : Setting) : String := "BOARD__" ++ x.part.toUpper ++ "__" ++ x.key.toUpper

theorem eq_of_key {x y : Setting} (same : x.key = y.key) : x = y := by
  cases x <;> cases y <;> first | rfl | exact absurd same (by decide)

@[simp] theorem fold_part (x : Setting) : Text.fold x.part = x.part := by cases x <;> rfl

@[simp] theorem fold_key (x : Setting) : Text.fold x.key = x.key := by cases x <;> rfl

theorem settingName?_variableName (x : Setting) : settingName? x.variableName = some x.name := by
  cases x <;> decide +kernel

theorem variableName_ne (x : Setting) {other : String} (unrelated : settingName? other = none) :
    x.variableName ≠ other := by
  rintro rfl
  cases x.settingName?_variableName.symm.trans unrelated

@[simp] theorem pathOf_name (x : Setting) : pathOf x.name = [x.part, x.key] := by cases x <;> rfl

@[simp] theorem pathOf_part (x : Setting) : pathOf x.part = [x.part] := by cases x <;> rfl

def cell? (x : Setting) (below : Layer) : Option Json :=
  (membersOf (below.lookup x.part)).lookup x.key

def ofCell? (x : Setting) : Option Json → Option x.kind.Value
  | some value => x.kind.decode? value
  | none => x.kind.absent?

def Sectioned (x : Setting) (below : Layer) : Prop :=
  ∃ members, below.lookup x.part = some (.object members)

theorem ofCell?_eq_bind {x : Setting} (needed : x.kind.absent? = none) (cell : Option Json) :
    x.ofCell? cell = cell.bind x.kind.decode? := by
  cases cell with
  | some value => rfl
  | none => exact needed

theorem held_iff {x : Setting} {below members : Layer} {value : x.kind.Value}
    (needed : x.kind.absent? = none) (found : below.lookup x.part = some (.object members)) :
    x.ofCell? (x.cell? below) = some value ↔
      (members.lookup x.key).bind x.kind.decode? = some value := by
  rw [ofCell?_eq_bind needed, cell?, found, membersOf]

theorem held_replicaSet_iff {below members : Layer} {s : Settings}
    (found : below.lookup "database" = some (.object members)) :
    replicaSet.ofCell? (replicaSet.cell? below) = some (replicaSet.get s) ↔
      (members.lookup "replica_set").elim (some none) optionalText? =
        some s.database.replicaSet := by
  rw [cell?, part, found, membersOf, key]
  cases members.lookup "replica_set" <;> exact Iff.rfl

end Setting

namespace Settings

variable {members : Layer}

theorem readSource_eq_some_iff (s : SourceSettings) :
    readSource (.object members) = some s ↔
      (members.lookup "endpoint_url").bind text? = some s.endpointUrl ∧
        (members.lookup "request_timeout_secs").bind natural? = some s.requestTimeoutSecs := by
  cases s
  simp [readSource, field?, Option.bind_eq_some_iff]

theorem readRefresh_eq_some_iff (s : RefreshSettings) :
    readRefresh (.object members) = some s ↔
      (members.lookup "interval_ms").bind natural? = some s.intervalMs ∧
        (members.lookup "refetch_on_reconnect").bind flag? = some s.refetchOnReconnect := by
  cases s
  simp [readRefresh, field?, Option.bind_eq_some_iff]

theorem readDisplay_eq_some_iff (s : DisplaySettings) :
    readDisplay (.object members) = some s ↔
      (members.lookup "show_stderr").bind flag? = some s.showStderr ∧
        (members.lookup "sort_by").bind text? = some s.sortBy ∧
        (members.lookup "descending").bind flag? = some s.descending := by
  obtain ⟨showStderr, sortBy, descending⟩ := s
  unfold readDisplay field?
  cases (members.lookup "show_stderr").bind flag? <;>
    cases (members.lookup "sort_by").bind text? <;>
    cases (members.lookup "descending").bind flag? <;> simp

theorem readServer_eq_some_iff (s : ServerSettings) :
    readServer (.object members) = some s ↔
      (members.lookup "bind_addr").bind text? = some s.bindAddr := by
  cases s
  simp [readServer, field?, Option.bind_eq_some_iff]

theorem readObservability_eq_some_iff (s : ObservabilitySettings) :
    readObservability (.object members) = some s ↔
      (members.lookup "log_level").bind text? = some s.logLevel ∧
        (members.lookup "log_format").bind text? = some s.logFormat := by
  cases s
  simp [readObservability, field?, Option.bind_eq_some_iff]

theorem readReplicaSet_object :
    readReplicaSet (.object members) =
      (members.lookup "replica_set").elim (some none) optionalText? := by
  cases found : members.lookup "replica_set" <;> simp [readReplicaSet, field?, found]

theorem readDatabase_eq_some_iff (s : DatabaseSettings) :
    readDatabase (.object members) = some s ↔
      (members.lookup "name").bind text? = some s.name ∧
        (members.lookup "replica_set").elim (some none) optionalText? = some s.replicaSet ∧
        (members.lookup "replica_host").bind text? = some s.replicaHost := by
  obtain ⟨name, replicaSet, replicaHost⟩ := s
  unfold readDatabase
  rw [readReplicaSet_object]
  unfold field?
  cases (members.lookup "name").bind text? <;>
    cases (members.lookup "replica_set").elim (some none) optionalText? <;>
    cases (members.lookup "replica_host").bind text? <;> simp

theorem ofLayer?_eq_some_iff_sections {below : Layer} {s : Settings} :
    ofLayer? below = some s ↔
      (below.lookup "source").bind readSource = some s.source ∧
        (below.lookup "refresh").bind readRefresh = some s.refresh ∧
        (below.lookup "display").bind readDisplay = some s.display ∧
        (below.lookup "server").bind readServer = some s.server ∧
        (below.lookup "observability").bind readObservability = some s.observability ∧
        (below.lookup "database").bind readDatabase = some s.database := by
  obtain ⟨source, refresh, display, server, observability, database⟩ := s
  unfold ofLayer?
  cases (below.lookup "source").bind readSource <;>
    cases (below.lookup "refresh").bind readRefresh <;>
    cases (below.lookup "display").bind readDisplay <;>
    cases (below.lookup "server").bind readServer <;>
    cases (below.lookup "observability").bind readObservability <;>
    cases (below.lookup "database").bind readDatabase <;> simp

theorem ofLayer?_eq_some_iff {below : Layer} {s : Settings}
    (sectioned : ∀ x : Setting, x.Sectioned below) :
    ofLayer? below = some s ↔ ∀ x : Setting, x.ofCell? (x.cell? below) = some (x.get s) := by
  obtain ⟨source, foundSource⟩ := sectioned .endpointUrl
  obtain ⟨refresh, foundRefresh⟩ := sectioned .intervalMs
  obtain ⟨display, foundDisplay⟩ := sectioned .showStderr
  obtain ⟨server, foundServer⟩ := sectioned .bindAddr
  obtain ⟨observability, foundObservability⟩ := sectioned .logLevel
  obtain ⟨database, foundDatabase⟩ := sectioned .databaseName
  simp only [Setting.part] at *
  rw [ofLayer?_eq_some_iff_sections, foundSource, foundRefresh, foundDisplay, foundServer,
    foundObservability, foundDatabase]
  simp only [Option.bind_some, readSource_eq_some_iff, readRefresh_eq_some_iff,
    readDisplay_eq_some_iff, readServer_eq_some_iff, readObservability_eq_some_iff,
    readDatabase_eq_some_iff]
  rw [Setting.forall_iff, Setting.held_iff (x := .endpointUrl) rfl foundSource,
    Setting.held_iff (x := .requestTimeoutSecs) rfl foundSource,
    Setting.held_iff (x := .intervalMs) rfl foundRefresh,
    Setting.held_iff (x := .refetchOnReconnect) rfl foundRefresh,
    Setting.held_iff (x := .showStderr) rfl foundDisplay,
    Setting.held_iff (x := .sortBy) rfl foundDisplay,
    Setting.held_iff (x := .descending) rfl foundDisplay,
    Setting.held_iff (x := .bindAddr) rfl foundServer,
    Setting.held_iff (x := .logLevel) rfl foundObservability,
    Setting.held_iff (x := .logFormat) rfl foundObservability,
    Setting.held_iff (x := .databaseName) rfl foundDatabase,
    Setting.held_replicaSet_iff foundDatabase,
    Setting.held_iff (x := .replicaHost) rfl foundDatabase]
  exact Iff.rfl

-- A section that something is read from has names in it, unless it is a list.
theorem sectioned_of_read {α : Type} {read : Json → Option α} {below : Layer} {x : Setting}
    {result : α} (got : (below.lookup x.part).bind read = some result)
    (unread : ∀ part, read part = none ∨ (∃ members, part = .object members) ∨
      ∃ items, part = .list items)
    (noList : ∀ items, below.lookup x.part ≠ some (.list items)) : x.Sectioned below := by
  obtain ⟨part, found, readPart⟩ := Option.bind_eq_some_iff.1 got
  rcases unread part with nothing | ⟨members, rfl⟩ | ⟨items, rfl⟩
  · rw [nothing] at readPart
    cases readPart
  · exact ⟨members, found⟩
  · exact absurd found (noList items)

theorem sectioned_of_ofLayer? {below : Layer} {s : Settings} (loaded : ofLayer? below = some s)
    (noList : ∀ (x : Setting) items, below.lookup x.part ≠ some (.list items)) (x : Setting) :
    x.Sectioned below := by
  obtain ⟨source, refresh, display, server, observability, database⟩ :=
    ofLayer?_eq_some_iff_sections.1 loaded
  cases x
  case endpointUrl | requestTimeoutSecs =>
    exact sectioned_of_read source (fun part => by
      cases part <;> simp [readSource, field?]) (noList _)
  case intervalMs | refetchOnReconnect =>
    exact sectioned_of_read refresh (fun part => by
      cases part <;> simp [readRefresh, field?]) (noList _)
  case showStderr | sortBy | descending =>
    exact sectioned_of_read display (fun part => by
      cases part <;> simp [readDisplay, field?]) (noList _)
  case bindAddr =>
    exact sectioned_of_read server (fun part => by
      cases part <;> simp [readServer, field?]) (noList _)
  case logLevel | logFormat =>
    exact sectioned_of_read observability (fun part => by
      cases part <;> simp [readObservability, field?]) (noList _)
  case databaseName | replicaSet | replicaHost =>
    exact sectioned_of_read database (fun part => by
      cases part <;> simp [readDatabase, field?]) (noList _)

theorem sectioned_of_cell? {below : Layer} {x : Setting} {value : Json}
    (held : x.cell? below = some value) : x.Sectioned below := by
  unfold Setting.cell? at held
  unfold Setting.Sectioned
  cases found : below.lookup x.part with
  | none =>
    rw [found] at held
    cases held
  | some part =>
    rw [found] at held
    cases part with
    | object members => exact ⟨members, rfl⟩
    | _ => cases held

theorem ofLayer?_of_cells {below : Layer} {s : Settings} {values : Setting → Json}
    (held : ∀ x, x.cell? below = some (values x))
    (fits : ∀ x : Setting, x.kind.decode? (values x) = some (x.get s)) :
    ofLayer? below = some s := by
  refine (ofLayer?_eq_some_iff fun x => sectioned_of_cell? (held x)).2 fun x => ?_
  rw [held]
  exact fits x

end Settings

end Leaderboard
