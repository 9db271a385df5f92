import Leaderboard.Proofs.Bootstrap.Assembly
import Leaderboard.Proofs.Dashboard.Links
import Leaderboard.Proofs.Program.Checking

set_option autoImplicit false

namespace Leaderboard

open CommandLine (Invocation RowsRequest)
open Dashboard (RowsQuery)
open Refresh (Snapshot)

namespace CommandLine

def Command.KeepsSettings : Command → Prop
  | .rows request => request.sort = none
  | .watch request intervalMs => request.sort = none ∧ intervalMs = none
  | .serve bind intervalMs _ => bind = none ∧ intervalMs = none
  | .describe _ | .bootstrap _ | .settings _ => True

structure Invocation.KeepsSettings (i : Invocation) : Prop where
  endpoint : i.endpoint = none
  timeout : i.timeoutSecs = none
  command : i.command.KeepsSettings

theorem Invocation.check_override {i : Invocation} (keeps : i.KeepsSettings) {s : Settings}
    (sound : s.check = .ok ()) : (i.override s).check = .ok () := by
  rw [Settings.check_eq_ok_iff, i.override_source s keeps.endpoint keeps.timeout]
  exact s.check_eq_ok_iff.1 sound

end CommandLine

namespace Command

theorem period_none {c : Context} : c.period none = c.settings.refresh.interval := rfl

theorem checkedPeriod_of_check {c : Context} {asked : Option UInt64}
    (sensible : Refresh.checkPeriod (c.period asked) = .ok ()) :
    c.checkedPeriod asked = .ok (c.period asked) := by
  unfold Context.checkedPeriod
  generalize c.period asked = period at sensible
  simp only [sensible]

section ready

variable {c : Context} (sound : c.settings.check = .ok ())

include sound

theorem exists_source : ∃ source, c.source = .ok source := by
  unfold Context.source
  cases c.file with
  | some path => exact ⟨_, rfl⟩
  | none =>
    obtain ⟨source, -⟩ := c.settings.check_eq_ok_iff.1 sound
    obtain ⟨⟨url, made⟩, -⟩ := c.settings.source.check_eq_ok_iff.1 source
    rw [made]
    exact ⟨_, rfl⟩

theorem exists_sorting (ascending : Bool) :
    ∃ key, SortKey.ofName c.settings.display.sortBy = .ok key ∧ c.sorting none ascending =
      .ok (key, if ascending then .ascending else c.settings.display.sortOrder) := by
  obtain ⟨-, -, display, -⟩ := c.settings.check_eq_ok_iff.1 sound
  obtain ⟨key, named⟩ := c.settings.display.check_eq_ok_iff.1 display
  refine ⟨key, named, ?_⟩
  simp only [Context.sorting, Context.sortKey, DisplaySettings.sortKey, named]
  rfl

theorem exists_address : ∃ address, listenAddress c none = .ok address := by
  obtain ⟨-, -, -, server, -⟩ := c.settings.check_eq_ok_iff.1 sound
  obtain ⟨address, read⟩ := c.settings.server.check_eq_ok_iff.1 server
  refine ⟨address, ?_⟩
  simp only [listenAddress, ServerSettings.address, read]
  rfl

theorem checkedPeriod_none : c.checkedPeriod none = .ok c.settings.refresh.interval := by
  obtain ⟨-, refresh, -⟩ := c.settings.check_eq_ok_iff.1 sound
  have sensible := c.settings.refresh.check_eq_ok_iff.1 refresh
  rw [← period_none] at sensible ⊢
  exact checkedPeriod_of_check sensible

theorem exists_watching {request : RowsRequest} (unsorted : request.sort = none) :
    ∃ plan, prepareWatching c request none = .ok plan := by
  obtain ⟨key, -, sorting⟩ := exists_sorting sound request.ascending
  obtain ⟨source, made⟩ := exists_source sound
  simp only [prepareWatching, unsorted, sorting, made, checkedPeriod_none sound]
  exact ⟨_, rfl⟩

theorem exists_serving (theme : Theme) :
    ∃ plan, prepareServing c none none theme = .ok plan ∧ plan.display = c.settings.display := by
  obtain ⟨address, read⟩ := exists_address sound
  obtain ⟨source, made⟩ := exists_source sound
  simp only [prepareServing, read, made, checkedPeriod_none sound]
  exact ⟨_, rfl, rfl⟩

end ready

end Command

namespace Source

-- Where a dataset is found: behind an endpoint that answers with success, or in a file.
inductive Yields (around : Surroundings) : Source → Dataset → Prop
  | endpoint {url : Url} {timeoutSecs : UInt64} {status : Web.Status} {bytes : List UInt8}
    {data : Dataset}
    (answered : around.web.answer ⟨url, "application/json", timeoutSecs⟩ =
      .answered status (.ok bytes))
    (success : 200 ≤ status.code ∧ status.code < 300) (parsed : Dataset.parse bytes = .ok data) :
    Yields around (.endpoint url timeoutSecs) data
  | file {path : String} {bytes : List UInt8} {data : Dataset}
    (read : around.files.read path = .ok bytes) (parsed : Dataset.parse bytes = .ok data) :
    Yields around (.file path) data

variable {around : Surroundings} {source : Source}

theorem isSuccess_iff (status : Web.Status) :
    status.isSuccess = true ↔ 200 ≤ status.code ∧ status.code < 300 := by
  simp only [Web.Status.isSuccess, Bool.and_eq_true, decide_eq_true_eq]
  omega

theorem fetch_eq_ok_iff (data : Dataset) :
    source.fetch around.files around.web = .ok data ↔ source.Yields around data := by
  constructor
  next =>
    intro fetched
    cases source with
    | endpoint url timeoutSecs =>
      simp only [fetch] at fetched
      cases answered : around.web.answer ⟨url, "application/json", timeoutSecs⟩ with
      | unsent reason => simp [ofAnswer, answered] at fetched
      | answered status body =>
        by_cases success : status.isSuccess = true
        next =>
          cases body with
          | error reason => simp [ofAnswer, answered, success] at fetched
          | ok bytes =>
            simp only [ofAnswer, answered, success, if_true] at fetched
            exact .endpoint answered ((isSuccess_iff status).1 success) fetched
        next => simp [ofAnswer, answered, success] at fetched
    | file path =>
      simp only [fetch] at fetched
      cases read : around.files.read path with
      | error e => simp [read] at fetched
      | ok bytes =>
        rw [read] at fetched
        exact .file read fetched
  next =>
    intro yields
    cases yields with
    | endpoint answered success parsed =>
      simp only [fetch, ofAnswer, answered, (isSuccess_iff _).2 success, if_true, parsed]
    | file read parsed => simp only [fetch, read, parsed]

theorem fromSource_of_parse {bytes : List UInt8} {f : Failure}
    (failed : Dataset.parse bytes = .error f) : f.kind.fromSource = true := by
  unfold Dataset.parse at failed
  split at failed <;> cases failed
  rfl

theorem fromSource_of_fetch {files : Files} {web : Web} {f : Failure}
    (failed : source.fetch files web = .error f) : f.kind.fromSource = true := by
  cases source with
  | endpoint url timeoutSecs =>
    simp only [fetch, ofAnswer] at failed
    split at failed
    next =>
      cases failed
      rfl
    next =>
      split at failed
      next =>
        split at failed
        next => exact fromSource_of_parse failed
        next =>
          cases failed
          rfl
      next =>
        cases failed
        rfl
  | file path =>
    simp only [fetch] at failed
    split at failed
    next =>
      cases failed
      rfl
    next => exact fromSource_of_parse failed

theorem yields_nothing {f : Failure}
    (failed : source.fetch around.files around.web = .error f) (data : Dataset) :
    ¬ source.Yields around data := by
  rw [← fetch_eq_ok_iff, failed]
  nofun

end Source

namespace Program

open Command

inductive Unhindered (c : Context) (around : Surroundings) : CommandLine.Command → Start → Prop
  | watching {request : RowsRequest} {intervalMs : Option UInt64} (plan : Watching) :
    Unhindered c around (.watch request intervalMs) (.watching plan)
  | serving {bind : Option String} {intervalMs : Option UInt64} {theme : Theme} (plan : Serving) :
    Unhindered c around (.serve bind intervalMs theme) (.serving plan)
  | done {command : CommandLine.Command} (output : Report.Output) :
    Unhindered c around command (.ended ⟨0, output⟩)
  | source {command : CommandLine.Command} (output : Report.Output) {source : Source} {f : Failure}
    (made : c.source = .ok source) (nothing : ∀ data, ¬ source.Yields around data)
    (kind : f.kind.fromSource = true) :
    Unhindered c around command (.ended (ofTrouble output (.ofFailure f)))
  | node {text : String} (output : Report.Output) {source : Source} {data : Dataset} {f : Failure}
    (made : c.source = .ok source) (yields : source.Yields around data)
    (missing : Report.NodeDetail.find data text = .error f) (kind : f.kind = .notFound) :
    Unhindered c around (.describe text) (.ended (ofTrouble output (.ofFailure f)))
  | plan {request : Bootstrap.Request} {fault : Bootstrap.PlanFault}
    (checked : (Bootstrap.assemble c.settings.database request).check = .error fault) :
    Unhindered c around (.bootstrap request) (.ended (ofTrouble .empty
      ((Trouble.ofFailure fault.failure).during "Invalid bootstrap plan")))

theorem notFound_of_find {data : Dataset} {text : String} {f : Failure}
    (failed : Report.NodeDetail.find data text = .error f) : f.kind = .notFound := by
  simp only [Report.NodeDetail.find] at failed
  split at failed
  next =>
    cases failed
    rfl
  next =>
    split at failed <;> cases failed
    rfl

section unhindered

variable {c : Context} (sound : c.settings.check = .ok ()) (around : Surroundings)

include sound

theorem unhindered_rows {request : RowsRequest} (unsorted : request.sort = none) :
    Unhindered c around (.rows request) (.ended (ofOutcome (rows c around request))) := by
  obtain ⟨key, -, sorting⟩ := exists_sorting sound request.ascending
  obtain ⟨source, made⟩ := exists_source sound
  simp only [rows, rowsFrom, unsorted, sorting, made, Outcome.orStop]
  cases fetched : source.fetch around.files around.web with
  | ok data => exact .done _
  | error f =>
    exact .source _ made (Source.yields_nothing fetched) (Source.fromSource_of_fetch fetched)

theorem unhindered_describe (node : String) :
    Unhindered c around (.describe node) (.ended (ofOutcome (describe c around node))) := by
  obtain ⟨source, made⟩ := exists_source sound
  simp only [describe, made, Outcome.orStop]
  cases fetched : source.fetch around.files around.web with
  | error f =>
    exact .source _ made (Source.yields_nothing fetched) (Source.fromSource_of_fetch fetched)
  | ok data =>
    simp only
    cases found : Report.NodeDetail.find data node with
    | ok detail => exact .done _
    | error f =>
      exact .node _ made ((Source.fetch_eq_ok_iff data).1 fetched) found (notFound_of_find found)

omit sound in
theorem unhindered_bootstrap (request : Bootstrap.Request) :
    Unhindered c around (.bootstrap request)
      (ofPrepared (Bootstrap.print c.settings.database c.format request)
        fun output => .ended ⟨0, output⟩) := by
  cases checked : (Bootstrap.assemble c.settings.database request).check with
  | ok _ =>
    obtain ⟨out, printed⟩ := Bootstrap.print_of_check checked c.format
    rw [printed]
    exact .done out
  | error fault =>
    rw [Bootstrap.print_of_fault checked]
    exact .plan checked

theorem unhindered_inspect (path : Option String) (action : CommandLine.SettingsAction) :
    Unhindered c around (.settings action)
      (.ended (ofOutcome (inspect c around path action))) := by
  cases action with
  | «show» => exact .done _
  | paths => exact .done _
  | validate =>
    simp only [inspect, validate, sound]
    exact .done _

theorem unhindered_perform {i : Invocation} (keeps : i.command.KeepsSettings) :
    Unhindered c around i.command (perform c around i) := by
  unfold perform
  cases command : i.command with
  | rows request =>
    rw [command] at keeps
    exact unhindered_rows sound around keeps
  | describe node => exact unhindered_describe sound around node
  | watch request intervalMs =>
    rw [command] at keeps
    obtain ⟨unsorted, rfl⟩ := keeps
    obtain ⟨plan, prepared⟩ := exists_watching sound unsorted
    simp only [prepared]
    exact .watching plan
  | serve bind intervalMs theme =>
    rw [command] at keeps
    obtain ⟨rfl, rfl⟩ := keeps
    obtain ⟨plan, prepared, -⟩ := exists_serving sound theme
    simp only [prepared]
    exact .serving plan
  | bootstrap request => exact unhindered_bootstrap around request
  | settings action => exact unhindered_inspect sound around i.settingsPath action

end unhindered

section started

variable {around : Surroundings} {words : List String} {i : Invocation} {s : Settings}
  (keeps : i.KeepsSettings) (loaded : Settings.loadUnchecked around i.settingsPath = .ok s)
  (sound : s.check = .ok ())

include keeps loaded sound

theorem settingsFor_of_keeps : settingsFor around i = .ok (i.override s) := by
  cases inspects : i.inspectsSettings with
  | true => exact (settingsFor_eq_ok_iff_of_inspects inspects).2 ⟨s, loaded, rfl⟩
  | false =>
    have load := (s.load_eq_ok_iff around i.settingsPath).2 ⟨loaded, sound⟩
    exact (settingsFor_eq_ok_iff_of_works inspects).2 ⟨s, load, i.check_override keeps sound, rfl⟩

theorem start_of_keeps (parsed : Invocation.parse words = .ok i) (colored : Bool) :
    start around colored words = perform ⟨i.override s, i.file, i.format, colored⟩ around i := by
  simp only [start, parsed, settingsFor_of_keeps keeps loaded sound]

theorem unhindered_start (parsed : Invocation.parse words = .ok i) (colored : Bool) :
    Unhindered ⟨i.override s, i.file, i.format, colored⟩ around i.command
      (start around colored words) := by
  have ready : (Context.mk (i.override s) i.file i.format colored).settings.check = .ok () :=
    i.check_override keeps sound
  rw [start_of_keeps keeps loaded sound parsed colored]
  exact unhindered_perform ready around keeps.command

end started

end Program

namespace Dashboard

theorem RowsQuery.sortsBy_settings {q : RowsQuery} {display : DisplaySettings} {key : SortKey}
    (named : SortKey.ofName display.sortBy = .ok key) (sort : q.sort = none)
    (order : q.order = none) : q.SortsBy display key (.ofDescending display.descending) where
  key := by rw [sort, Option.getD_none, named, known]
  order := by simp only [orderFor, order]

theorem Context.status_of_resolved {c : Context} {r : Request} {q : RowsQuery} {view : RowsView}
    (path : r.target.path = "/" ∨ r.target.path = "/api/rows")
    (query : RowsQuery.ofText? r.target.query = some q)
    (resolved : q.resolve c.snapshot c.display = .ok view) :
    (c.respond r).1.status = if r.method = "GET" ∨ r.method = "HEAD" then 200 else 405 := by
  have page : (c.page r).status = 200 := by
    rw [c.page_resolved query resolved]
    rfl
  have rows : (c.rows r).status = 200 := by
    simp only [Context.rows, query, resolved]
    rfl
  obtain ⟨endpoint, named, reads, writes⟩ : ∃ endpoint,
      Endpoint.ofPath? r.target.path = some endpoint ∧ (c.read r endpoint).status = 200 ∧
        (c.write r endpoint).1.status = 405 := by
    rcases path with path | path
    next => exact ⟨.page, by rw [path]; rfl, page, rfl⟩
    next => exact ⟨.rows, by rw [path]; rfl, rows, rfl⟩
  simp only [respond, named, beq_iff_eq]
  by_cases get : r.method = "GET"
  next => simp [get, reads]
  by_cases head : r.method = "HEAD"
  next => simp [head, Response.withoutBody, reads]
  by_cases post : r.method = "POST"
  next => simp [post, writes]
  next => simp [get, head, post, Response.bare]

end Dashboard

theorem sound_settings_suffice {s : Settings} (sound : s.check = .ok ()) :
    (∀ c : Command.Context, c.settings = s →
      (∃ source, c.source = .ok source) ∧
      (∀ ascending, ∃ key, SortKey.ofName s.display.sortBy = .ok key ∧ c.sorting none ascending =
        .ok (key, if ascending then .ascending else s.display.sortOrder)) ∧
      (∃ address, Command.listenAddress c none = .ok address) ∧
      c.checkedPeriod none = .ok s.refresh.interval ∧
      ∀ theme, ∃ plan, Command.prepareServing c none none theme = .ok plan ∧
        plan.display = s.display) ∧
    (∀ (around : Surroundings) (colored : Bool) (words : List String) (i : Invocation),
      Invocation.parse words = .ok i → i.KeepsSettings →
      Settings.loadUnchecked around i.settingsPath = .ok s →
      let c : Command.Context := ⟨i.override s, i.file, i.format, colored⟩
      Program.start around colored words = Program.perform c around i ∧
        Program.Unhindered c around i.command (Program.start around colored words)) ∧
    (∀ (q : RowsQuery) (snapshot : Snapshot), q.sort = none → q.order = none →
      ∃ view, q.resolve snapshot s.display = .ok view) ∧
    ∀ (c : Dashboard.Context) (r : Dashboard.Request) (q : RowsQuery), c.display = s.display →
      r.target.path = "/" ∨ r.target.path = "/api/rows" →
      RowsQuery.ofText? r.target.query = some q → q.sort = none → q.order = none →
      (c.respond r).1.status = if r.method = "GET" ∨ r.method = "HEAD" then 200 else 405 := by
  have resolves (q : RowsQuery) (snapshot : Snapshot) (sort : q.sort = none)
      (order : q.order = none) : ∃ view, q.resolve snapshot s.display = .ok view := by
    obtain ⟨-, -, display, -⟩ := s.check_eq_ok_iff.1 sound
    obtain ⟨key, named⟩ := s.display.check_eq_ok_iff.1 display
    exact ⟨_, RowsQuery.resolve_of_sortsBy (RowsQuery.sortsBy_settings named sort order) snapshot⟩
  refine ⟨?made, ?runs, resolves, ?answered⟩
  case made =>
    rintro c rfl
    exact ⟨Command.exists_source sound, Command.exists_sorting sound, Command.exists_address sound,
      Command.checkedPeriod_none sound, Command.exists_serving sound⟩
  case runs =>
    intro around colored words i parsed keeps loaded
    exact ⟨Program.start_of_keeps keeps loaded sound parsed colored,
      Program.unhindered_start keeps loaded sound parsed colored⟩
  case answered =>
    intro c r q same path query sort order
    obtain ⟨view, resolved⟩ := resolves q c.snapshot sort order
    rw [← same] at resolved
    exact Dashboard.Context.status_of_resolved path query resolved

-- A dataset without nodes is fetched from an endpoint; no more than that is asked of the page.
theorem sound_settings_suffice_from_variables :
    let web : Web := ⟨fun _ => .answered ⟨200, some "OK"⟩ (.ok [0x7B, 0x7D])⟩
    let around : Surroundings := ⟨.none,
      [("BOARD__DISPLAY__SORT_BY", "LATENCY"), ("BOARD__SERVER__BIND_ADDR", "[::1]:9")], none, web⟩
    let s : Settings := { Settings.default with
      display := ⟨false, "LATENCY", true⟩
      server := ⟨"[::1]:9"⟩ }
    let i := Program.plainInvocation .table none (.rows ⟨"node1", none, true⟩)
    let words := ["rows", "--filter", "node1", "--asc"]
    let loaded : Command.Context := ⟨s, none, .table, false⟩
    let c : Dashboard.Context := ⟨(Refresh.State.start ⟨0⟩ none "").snapshot, .light, s.display,
      s.refresh.interval, true⟩
    let r : Dashboard.Request := ⟨"GET", ⟨"/api/rows", "filter=node1"⟩, [], ""⟩
    let q : RowsQuery := ⟨some "node1", none, none, none⟩
    s.check = .ok () ∧ Invocation.parse words = .ok i ∧ i.KeepsSettings ∧
      Settings.loadUnchecked around none = .ok s ∧
      (∃ source, loaded.source = .ok source ∧ source.Yields around SortedMap.empty) ∧
      Program.Unhindered loaded around i.command (Program.start around false words) ∧
      RowsQuery.ofText? r.target.query = some q ∧
      (∃ view, q.resolve c.snapshot s.display = .ok view) ∧
      (c.respond r).1.status = 200 := by
  intro web around s i words loaded c r q
  have sound : s.check = .ok () := by decide +kernel
  have parsed : Invocation.parse words = .ok i := eq_ok_of_toOption (by decide +kernel)
  have keeps : i.KeepsSettings := ⟨rfl, rfl, rfl⟩
  have load : Settings.loadUnchecked around none = .ok s := eq_ok_of_toOption (by decide +kernel)
  have query : RowsQuery.ofText? r.target.query = some q := by decide +kernel
  obtain ⟨made, runs, resolves, answered⟩ := sound_settings_suffice sound
  refine ⟨sound, parsed, keeps, load, ?fetched,
    (runs around false words i parsed keeps load).2, query, resolves q c.snapshot rfl rfl,
    answered c r q rfl (.inr rfl) query rfl rfl⟩
  case fetched =>
    obtain ⟨source, named⟩ := (made loaded rfl).1
    have fetched : (loaded.source.toOption.bind fun source =>
        (source.fetch around.files around.web).toOption) = some SortedMap.empty := by
      decide +kernel
    rw [named] at fetched
    exact ⟨source, named, (Source.fetch_eq_ok_iff SortedMap.empty).1 (eq_ok_of_toOption fetched)⟩

end Leaderboard
