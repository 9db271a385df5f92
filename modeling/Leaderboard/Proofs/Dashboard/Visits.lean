import Leaderboard.Dashboard.Site

set_option autoImplicit false

namespace Leaderboard.Dashboard

open Refresh (Actor Command Event Moment Span)

section Kept

variable {σ δ β : Type} (step? : σ → δ → Option (β × σ))

def answers? : σ → List δ → Option (List β × σ)
  | s, [] => some ([], s)
  | s, d :: rest => do
    let (answer, next) ← step? s d
    let (others, last) ← answers? next rest
    return (answer :: others, last)

def kept {α : Type} (marked : List (α × Bool)) : List α :=
  (marked.filter Prod.snd).map Prod.fst

@[simp] theorem kept_cons {α : Type} (a : α) (stays : Bool) (rest : List (α × Bool)) :
    kept ((a, stays) :: rest) = if stays then a :: kept rest else kept rest := by
  cases stays <;> rfl

variable {step?}

-- What changes nothing can be left out; the other answers stay as they were.
theorem answers?_kept {marked : List (δ × Bool)}
    (still : ∀ entry ∈ marked, entry.2 = false → ∀ s, ∃ answer, step? s entry.1 = some (answer, s))
    {s last : σ} {answers : List β}
    (whole : answers? step? s (marked.map Prod.fst) = some (answers, last)) :
    answers? step? s (kept marked) = some (kept (answers.zip (marked.map Prod.snd)), last) := by
  induction marked generalizing s answers with
  | nil =>
    cases whole
    rfl
  | cons first rest ih =>
    obtain ⟨d, stays⟩ := first
    obtain ⟨⟨answer, next⟩, taken, whole⟩ := Option.bind_eq_some_iff.1 whole
    obtain ⟨⟨others, _⟩, whole, same⟩ := Option.bind_eq_some_iff.1 whole
    cases same
    have later := ih (fun entry member => still entry (List.mem_cons_of_mem _ member)) whole
    cases stays with
    | true => simp [answers?, taken, later]
    | false =>
      obtain ⟨_, idle⟩ := still _ List.mem_cons_self rfl s
      cases taken.symm.trans idle
      simpa using later

theorem answers?_total (total : ∀ s d, ∃ outcome, step? s d = some outcome) (s : σ) (ds : List δ) :
    ∃ answers last, answers? step? s ds = some (answers, last) := by
  induction ds generalizing s with
  | nil => exact ⟨[], s, rfl⟩
  | cons d rest ih =>
    obtain ⟨⟨answer, next⟩, taken⟩ := total s d
    obtain ⟨others, last, later⟩ := ih next
    exact ⟨answer :: others, last, by simp [answers?, taken, later]⟩

end Kept

namespace Endpoint

theorem ofPath?_retry_iff (path : String) : ofPath? path = some retry ↔ path = "/api/retry" := by
  unfold ofPath?
  split <;> simp_all

theorem ofPath?_filter_iff (path : String) : ofPath? path = some filter ↔ path = "/api/filter" := by
  unfold ofPath?
  split <;> simp_all

end Endpoint

namespace Request

def asksLoop (r : Request) : Bool :=
  r.method == "POST" && (r.target.path == "/api/retry" || r.target.path == "/api/filter")

inductive Asks (r : Request) : Command → Prop
  | retry (post : r.method = "POST") (path : r.target.path = "/api/retry") : Asks r .retry
  | filter {text : String} (post : r.method = "POST") (path : r.target.path = "/api/filter")
      (named : Context.bodyOf Body.filter r = .ok text) : Asks r (.setFilter text)

theorem Asks.asksLoop {r : Request} {command : Command} (asked : r.Asks command) :
    r.asksLoop = true := by
  cases asked with
  | retry post path => simp [Request.asksLoop, post, path]
  | filter post path named => simp [Request.asksLoop, post, path]

end Request

namespace Context

variable (c : Context) {r : Request} {command : Command}

theorem write_asks {endpoint : Endpoint} (post : r.method = "POST")
    (path : Endpoint.ofPath? r.target.path = some endpoint)
    (asked : (c.write r endpoint).2 = some command) : r.Asks command := by
  cases endpoint with
  | retry =>
    cases asked
    exact .retry post ((Endpoint.ofPath?_retry_iff _).1 path)
  | filter =>
    cases body : bodyOf Body.filter r with
    | error refusal => simp [write, body] at asked
    | ok text =>
      have named : command = .setFilter text := by simpa [write, body, eq_comm] using asked
      subst named
      exact .filter post ((Endpoint.ofPath?_filter_iff _).1 path) body
  | page | rows | raw | status | theme | health => cases asked

theorem respond_asks (asked : (c.respond r).2 = some command) : r.Asks command := by
  unfold respond at asked
  split at asked
  · cases asked
  next endpoint path =>
    split at asked
    · cases asked
    split at asked
    · cases asked
    split at asked
    next post => exact c.write_asks (beq_iff_eq.1 post) path asked
    next => cases asked

theorem respond_of_reads (reads : r.asksLoop = false) : (c.respond r).2 = none := by
  cases asked : (c.respond r).2 with
  | none => rfl
  | some command => exact absurd ((c.respond_asks asked).asksLoop.symm.trans reads) (by decide)

end Context

inductive Turn (α : Type)
  | request (r : Request)
  | setTheme (t : Theme)
  | loop (push : α)

def OnlyReadersGo {α : Type} (marked : List (Turn α × Bool)) : Prop :=
  ∀ entry ∈ marked, entry.2 = false → ∃ r, entry.1 = .request r ∧ r.asksLoop = false

inductive Push
  | advance (ms : Nat)
  | command (c : Command)

namespace Site

def after? (s : Site) : Turn Push → Option (Option Response × Site)
  | .request r => some ((s.request r).map some id)
  | .setTheme t => some (none, s.setTheme t)
  | .loop (.advance ms) => some (none, s.advance ms)
  | .loop (.command c) => some (none, s.command c)

theorem after?_total (s : Site) (t : Turn Push) : ∃ outcome, s.after? t = some outcome := by
  cases t with
  | request r => exact ⟨_, rfl⟩
  | setTheme t => exact ⟨_, rfl⟩
  | loop push => cases push <;> exact ⟨_, rfl⟩

theorem after?_of_reads (s : Site) {r : Request} (reads : r.asksLoop = false) :
    ∃ answer, s.after? (.request r) = some (answer, s) := by
  have quiet := s.context.respond_of_reads reads
  have same : s.request r = ((s.context.respond r).1, s) := by
    unfold request
    split
    next outcome => rw [outcome]
    next outcome => cases quiet.symm.trans (congrArg Prod.snd outcome)
  exact ⟨some (s.context.respond r).1, by simp [after?, same]⟩

end Site

structure Server where
  actor : Actor
  theme : ThemeCell
  display : DisplaySettings

namespace Server

def context (s : Server) : Context where
  snapshot := s.actor.published
  theme := s.theme.current
  display := s.display
  period := Span.ofMilliseconds s.actor.plan.period
  refetchOnReconnect := s.actor.plan.refetchOnReconnect

-- What a request asks of the loop waits in its queue; events come at any time and in any order.
def after? (s : Server) : Turn (Moment × Event) → Option (Option Response × Server)
  | .request r =>
    let answer := s.context.respond r
    some (some answer.1, { s with actor := answer.2.elim s.actor s.actor.send })
  | .setTheme t => some (none, { s with theme := s.theme.set t })
  | .loop (now, event) =>
    (s.actor.step? now event).map (fun step => (none, { s with actor := step.actor }))

theorem after?_of_reads (s : Server) {r : Request} (reads : r.asksLoop = false) :
    ∃ answer, s.after? (.request r) = some (answer, s) :=
  ⟨some (s.context.respond r).1, by simp [after?, s.context.respond_of_reads reads]⟩

theorem after?_request {s next : Server} {r : Request} {answer : Option Response}
    (answered : s.after? (.request r) = some (answer, next)) :
    next = s ∨ ∃ command, r.Asks command ∧ next = { s with actor := s.actor.send command } := by
  have same := congrArg Prod.snd (Option.some.inj answered)
  subst same
  cases asked : (s.context.respond r).2 with
  | none => exact .inl rfl
  | some command => exact .inr ⟨command, s.context.respond_asks asked, rfl⟩

end Server

theorem answers?_without_readers {σ α β : Type} {step? : σ → Turn α → Option (β × σ)}
    (idle : ∀ s r, Request.asksLoop r = false → ∃ answer, step? s (.request r) = some (answer, s))
    {marked : List (Turn α × Bool)} (readers : OnlyReadersGo marked) {s last : σ} {answers : List β}
    (whole : answers? step? s (marked.map Prod.fst) = some (answers, last)) :
    answers? step? s (kept marked) = some (kept (answers.zip (marked.map Prod.snd)), last) := by
  apply answers?_kept _ whole
  intro entry member goes s
  obtain ⟨r, asked, reads⟩ := readers entry member goes
  exact asked ▸ idle s r reads

theorem readers_leave_no_trace :
    (∀ (s : Site) (marked : List (Turn Push × Bool)), OnlyReadersGo marked →
      ∃ answers last,
        answers? Site.after? s (marked.map Prod.fst) = some (answers, last) ∧
          answers? Site.after? s (kept marked) =
            some (kept (answers.zip (marked.map Prod.snd)), last)) ∧
    (∀ (s last : Server) (marked : List (Turn (Moment × Event) × Bool))
        (answers : List (Option Response)), OnlyReadersGo marked →
      answers? Server.after? s (marked.map Prod.fst) = some (answers, last) →
        answers? Server.after? s (kept marked) =
          some (kept (answers.zip (marked.map Prod.snd)), last)) ∧
    (∀ (s next : Server) (r : Request) (answer : Option Response),
      s.after? (.request r) = some (answer, next) →
        next = s ∨
          ∃ command, r.Asks command ∧ next = { s with actor := s.actor.send command }) := by
  refine ⟨?site, ?server, fun s next r answer => Server.after?_request⟩
  case site =>
    intro s marked readers
    obtain ⟨answers, last, whole⟩ := answers?_total Site.after?_total s (marked.map Prod.fst)
    exact ⟨answers, last, whole,
      answers?_without_readers (fun s _ => s.after?_of_reads) readers whole⟩
  case server =>
    intro s last marked answers readers whole
    exact answers?_without_readers (fun s _ => s.after?_of_reads) readers whole

-- A reader with a filter of its own, a visitor who sets that of the loop, and a browser that
-- turns dark.
def visits {α : Type} (push : α) : List (Turn α × Bool) :=
  [(.request ⟨"GET", ⟨"/", "filter=node1"⟩, [], ""⟩, false),
    (.request ⟨"POST", ⟨"/api/filter", ""⟩, [("content-type", "application/json")],
      "\x7b\"filter\":\"node2\"\x7d"⟩, true),
    (.request ⟨"POST", ⟨"/api/theme", ""⟩, [("content-type", "application/json"),
      ("cookie", "theme=light")], "\x7b\x7d"⟩, false),
    (.loop push, true),
    (.request ⟨"GET", ⟨"/api/theme", ""⟩, [], ""⟩, true)]

def freshSite : Site := ⟨Refresh.Session.spawn ⟨1000, true⟩ none "" [], .new .light, .default⟩

def freshServer : Server := ⟨freshSite.session.actor, freshSite.theme, freshSite.display⟩

theorem visits_readers {α : Type} (push : α) : OnlyReadersGo (visits push) := by
  intro entry member goes
  simp only [visits, List.mem_cons, List.not_mem_nil, or_false] at member
  obtain rfl | rfl | rfl | rfl | rfl := member
  · exact ⟨_, rfl, by decide⟩
  · cases goes
  · exact ⟨_, rfl, by decide⟩
  · cases goes
  · cases goes

theorem readers_leave_no_trace_beside_filter :
    let told : List (Turn (Moment × Event) × Bool) := visits (⟨0, ⟨0⟩⟩, .handle)
    let pushed : List (Turn Push × Bool) := visits (.advance 1000)
    OnlyReadersGo told ∧ OnlyReadersGo pushed ∧
      (∃ answers last,
        answers? Site.after? freshSite (pushed.map Prod.fst) = some (answers, last) ∧
          answers? Site.after? freshSite (kept pushed) =
            some (kept (answers.zip (pushed.map Prod.snd)), last)) ∧
      ∃ answers last,
        answers? Server.after? freshServer (told.map Prod.fst) = some (answers, last) ∧
          answers? Server.after? freshServer (kept told) =
            some (kept (answers.zip (told.map Prod.snd)), last) ∧
          last.actor.published.filter = "node2" := by
  intro told pushed
  obtain ⟨site, server, _⟩ := readers_leave_no_trace
  have reached : (answers? Server.after? freshServer (told.map Prod.fst)).map
      (fun outcome => outcome.2.actor.published.filter) = some "node2" := by decide +kernel
  obtain ⟨⟨answers, last⟩, whole, filter⟩ := Option.map_eq_some_iff.1 reached
  have without := server freshServer last told answers (visits_readers _) whole
  exact ⟨visits_readers _, visits_readers _, site freshSite pushed (visits_readers _), answers,
    last, whole, without, filter⟩

end Leaderboard.Dashboard
