import Leaderboard.Proofs.Dashboard.Cookies
import Leaderboard.Proofs.Dashboard.Links
import Leaderboard.Proofs.Dashboard.Visits

set_option autoImplicit false

namespace Leaderboard.Dashboard

open Json (Blank NameText TextBody ValueText)
open Refresh (Event Moment)
open Text (Blanks)

namespace Body

def wish : Option Theme → Json
  | none => .object []
  | some t => .object [("theme", .text t.name)]

theorem themeOf_name (t : Theme) : themeOf t.name = .ok t := by
  cases t <;> rfl

theorem readTheme_name {space body : List Char} {t : Theme} (blank : Blank space)
    (text : TextBody body t.name) (more : List Char) :
    readTheme (space ++ '"' :: (body ++ more)) = .ok (some t, more) := by
  simp [readTheme, Json.skipSpace_blank_cons blank, Json.isSpace, Json.readText_append text,
    orMalformed, themeOf_name, bind, Except.bind, pure, Except.pure]

theorem readMembers_closing {α : Type} {name : String} {read : List Char → Read α} {fuel : Nat}
    {first : Bool} {found : Option α} {space : List Char} (blank : Blank space) (more : List Char) :
    readMembers name read (fuel + 1) first found (space ++ '\x7d' :: more) = .ok found := by
  simp [readMembers, Json.skipSpace_blank_cons blank, Json.isSpace]

theorem readMembers_named {α : Type} {name : String} {read : List Char → Read α} {fuel : Nat}
    {front rest more : List Char} {value : α} (named : NameText front name)
    (reads : read rest = .ok (value, more)) :
    readMembers name read (fuel + 1) true none (front ++ rest) =
      readMembers name read fuel false (some value) more := by
  cases named with
  | @name space body inner _ before text after =>
    simp [readMembers, Json.skipSpace_blank_cons before, Json.skipSpace_blank_cons after,
      Json.skipSpace_cons, Json.isSpace, Json.readText_append text, orMalformed, expect, reads,
      bind, Except.bind]

theorem theme_of_members {text : String} {space rest : List Char} {found : Option (Option Theme)}
    (same : text.toList = space ++ '\x7b' :: rest) (blank : Blank space)
    (read : readMembers "theme" readTheme (rest.length + 1) true none rest = .ok found) :
    theme text = .ok found.join := by
  simp [theme, readField, same, Json.skipSpace_blank_cons blank, Json.isSpace, read, bind,
    Except.bind, pure, Except.pure]

theorem theme_of_wish {text : String} {front trailing : List Char} {asked : Option Theme}
    {depth : Nat} (same : text.toList = front ++ trailing)
    (written : ValueText depth front (wish asked)) : theme text = .ok asked := by
  have noNumber {digits : List Char} {members : List (String × Json)}
      (number : Json.NumberText digits (.object members)) : False := by
    rcases number.isNumber with ⟨_, other⟩ | ⟨_, other⟩ <;> cases other
  cases asked with
  | none =>
    cases written with
    | @emptyObject _ _ inner blank hollow =>
      rw [List.append_assoc, List.cons_append, List.append_assoc, List.singleton_append] at same
      exact theme_of_members same blank (readMembers_closing hollow trailing)
    | object _ inside => cases inside
    | number _ number => exact (noNumber number).elim
  | some t =>
    cases written with
    | object blank inside =>
      cases inside with
      | @last _ name _ space _ _ named first closing =>
        cases first with
        | @text _ within body _ hollow text =>
          simp only [List.append_assoc, List.cons_append, List.nil_append] at same
          have inner : (some (some t) : Option (Option Theme)).join = some t := rfl
          rw [← inner]
          refine theme_of_members same blank ?_
          rw [readMembers_named named (readTheme_name hollow text _)]
          -- Of the text behind the name at least the closing brace is left to read.
          simp only [List.length_append, List.length_cons, ← Nat.add_assoc]
          exact readMembers_closing closing trailing
        | number _ number => rcases number.isNumber with ⟨_, other⟩ | ⟨_, other⟩ <;> cases other
      | cons _ _ _ rest => cases rest
    | number _ number => exact (noNumber number).elim

end Body

theorem Endpoint.ofPath?_theme_iff (path : String) :
    ofPath? path = some theme ↔ path = "/api/theme" := by
  unfold ofPath?
  split <;> simp_all

-- The theme asked for, or else the other one than before.
structure Request.Chooses (r : Request) (asked : Option Theme) : Prop where
  post : r.method = "POST"
  path : r.target.path = "/api/theme"
  body : Context.bodyOf Body.theme r = .ok asked

structure Request.Posts (r : Request) (asked : Option Theme) : Prop where
  post : r.method = "POST"
  path : r.target.path = "/api/theme"
  json : Context.hasJsonBody r = true
  fits : r.body.utf8ByteSize ≤ Body.limit
  body : ∃ front trailing depth, r.body.toList = front ++ trailing ∧
    ValueText depth front (Body.wish asked)

theorem Request.Chooses.of_json {r : Request} {asked : Option Theme} (post : r.method = "POST")
    (path : r.target.path = "/api/theme") (json : Context.hasJsonBody r = true)
    (fits : r.body.utf8ByteSize ≤ Body.limit) (read : Body.theme r.body = .ok asked) :
    r.Chooses asked :=
  ⟨post, path, by simp [Context.bodyOf, json, not_lt.2 fits, read]⟩

theorem Request.Posts.chooses {r : Request} {asked : Option Theme} (posts : r.Posts asked) :
    r.Chooses asked := by
  obtain ⟨front, trailing, depth, same, written⟩ := posts.body
  exact .of_json posts.post posts.path posts.json posts.fits (Body.theme_of_wish same written)

namespace Cookie

def stored? (given : String) : Option String :=
  match pair? ((Text.splitAll ';' given.toList).headD []) with
  | some (name, value) => if name = themeName then some value else none
  | none => none

theorem stored?_setTheme (t : Theme) : stored? (setTheme t) = some t.name := by
  cases t <;> decide +kernel

end Cookie

def Response.themeTold (t : Theme) : Response where
  status := 200
  contentType := some "application/json"
  setCookie := none
  body := "\x7b\"theme\":\"" ++ t.name ++ "\"\x7d"

def Response.themeSet (t : Theme) : Response :=
  { Response.themeTold t with
    setCookie := some ("theme=" ++ t.name ++ "; Path=/; Max-Age=31536000; SameSite=Lax") }

theorem Response.json_themeJson (t : Theme) : json 200 (Context.themeJson t) = .themeTold t := by
  have text : (Context.themeJson t).compact = "\x7b\"theme\":\"" ++ t.name ++ "\"\x7d" := by
    cases t <;> decide +kernel
  rw [json, text, themeTold]

def storedAfter (stored : Option String) (answer : Response) : Option String :=
  (answer.setCookie.bind Cookie.stored?).or stored

theorem storedAfter_themeSet (stored : Option String) (t : Theme) :
    storedAfter stored (.themeSet t) = some t.name := by
  have given : (Response.themeSet t).setCookie = some (Cookie.setTheme t) := by
    cases t <;> rfl
  simp [storedAfter, given, Cookie.stored?_setTheme]

def chosen (first : Theme) (asked : List (Option Theme)) : Theme :=
  asked.foldl (fun t wish => wish.getD t.toggle) first

theorem chosen_append (first : Theme) (asked : List (Option Theme)) (wish : Option Theme) :
    chosen first (asked ++ [wish]) = wish.getD (chosen first asked).toggle := by
  simp [chosen]

namespace Context

variable (c : Context) {r : Request}

theorem themeFor_without (carries : r.Carries none) : c.themeFor r = c.theme := by
  rw [themeFor, Cookie.theme?_without carries, Option.getD_none]

theorem themeFor_among {t : Theme} (carries : r.Carries (some t.name)) : c.themeFor r = t := by
  rw [themeFor, Cookie.theme?_among carries, Option.getD_some]

theorem respond_of_chooses {asked : Option Theme} (chooses : r.Chooses asked) :
    (c.respond r).1 = .themeSet (asked.getD (c.themeFor r).toggle) := by
  have answer : (c.respond r).1 = c.chooseTheme r := by
    simp [respond, chooses.path, chooses.post, Endpoint.ofPath?, write]
  rw [answer, chooseTheme, chooses.body]
  simp only [Response.json_themeJson]
  cases asked.getD (c.themeFor r).toggle <;> rfl

theorem setCookie_read (endpoint : Endpoint) : (c.read r endpoint).setCookie = none := by
  cases endpoint with
  | page =>
    simp only [read, page]
    split
    · rfl
    · split <;> rfl
  | rows =>
    simp only [read, rows]
    split
    · rfl
    · split <;> rfl
  | raw =>
    simp only [read, raw]
    split <;> rfl
  | status | retry | filter | theme | health => rfl

theorem setCookie_of_refused {α : Type} {read : String → Except BodyError α} {refusal : Response}
    (refused : bodyOf read r = .error refusal) : refusal.setCookie = none := by
  unfold bodyOf at refused
  split at refused
  · cases refused
    rfl
  split at refused
  · cases refused
    rfl
  · split at refused <;> cases refused <;> rfl

theorem setCookie_write {endpoint : Endpoint} (post : r.method = "POST")
    (path : Endpoint.ofPath? r.target.path = some endpoint) (other : ∀ asked, ¬ r.Chooses asked) :
    (c.write r endpoint).1.setCookie = none := by
  cases endpoint with
  | theme =>
    have place := (Endpoint.ofPath?_theme_iff _).1 path
    cases body : bodyOf Body.theme r with
    | error refusal =>
      have refused : (c.write r .theme).1 = refusal := by simp only [write, chooseTheme, body]
      rw [refused]
      exact setCookie_of_refused body
    | ok asked => exact absurd ⟨post, place, body⟩ (other asked)
  | filter =>
    simp only [write]
    split
    next refused => exact setCookie_of_refused refused
    next => rfl
  | page | rows | raw | status | retry | health => rfl

theorem setCookie_respond (other : ∀ asked, ¬ r.Chooses asked) :
    (c.respond r).1.setCookie = none := by
  unfold respond
  split
  · rfl
  next endpoint path =>
    split
    · exact c.setCookie_read endpoint
    split
    · exact c.setCookie_read endpoint
    split
    next post => exact c.setCookie_write (beq_iff_eq.1 post) path other
    next => rfl

theorem respond_theme (get : r.method = "GET") (path : r.target.path = "/api/theme") :
    (c.respond r).1 = .themeTold (c.themeFor r) := by
  simp [respond, get, path, Endpoint.ofPath?, read, Response.json_themeJson]

theorem exists_page (get : r.method = "GET") (path : r.target.path = "/")
    (shown : (c.respond r).1.status = 200) :
    ∃ p : Page, p.theme = c.themeFor r ∧ (c.respond r).1 = .html 200 p.render := by
  have answer : (c.respond r).1 = c.page r := by
    simp [respond, get, path, Endpoint.ofPath?, read]
  rw [answer] at shown ⊢
  cases parsed : RowsQuery.ofText? r.target.query with
  | none => simp [page, parsed, unreadableQuery, Response.plain] at shown
  | some query =>
    cases resolved : query.resolve c.snapshot c.display with
    | error f => simp [page, parsed, resolved, Response.html] at shown
    | ok view => exact ⟨_, by rfl, page_resolved parsed resolved⟩

end Context

theorem Html.render_append (front back : List Html.Piece) :
    Html.render (front ++ back) = Html.render front ++ Html.render back := by
  rw [Html.render, List.flatMap_append, String.ofList_append, Html.render, Html.render]

theorem render_class (t : Theme) :
    Html.render [.markup "</style>\n</head>\n<body class=\"", .text t.name,
      .markup "\">\n<h1>LLM Leaderboard</h1>\n"] =
    "</style>\n</head>\n" ++ ("<body class=\"" ++ t.name ++ "\">") ++
      "\n<h1>LLM Leaderboard</h1>\n" := by
  cases t <;> decide +kernel

theorem Page.exists_class (p : Page) :
    ∃ before after, p.render = before ++ ("<body class=\"" ++ p.theme.name ++ "\">") ++ after := by
  obtain ⟨front, head⟩ : [.markup "</style>\n</head>\n<body class=\"", .text p.theme.name,
      .markup "\">\n<h1>LLM Leaderboard</h1>\n"] <:+ p.headPieces :=
    List.IsSuffix.trans ⟨[_, _], rfl⟩ (List.suffix_append (_ ++ p.reloadPieces) _)
  have same : p.pieces = front ++ [.markup "</style>\n</head>\n<body class=\"",
      .text p.theme.name, .markup "\">\n<h1>LLM Leaderboard</h1>\n"] ++
      (p.navigationPieces ++ p.bodyPieces ++ p.scriptPieces) := by
    rw [pieces, head]
    simp only [List.append_assoc]
  refine ⟨Html.render front ++ "</style>\n</head>\n", "\n<h1>LLM Leaderboard</h1>\n" ++
    Html.render (p.navigationPieces ++ p.bodyPieces ++ p.scriptPieces), ?_⟩
  rw [render, same, Html.render_append, Html.render_append, render_class]
  simp only [String.append_assoc]

namespace Server

theorem after?_of_chooses (s : Server) {r : Request} {asked : Option Theme}
    (chooses : r.Chooses asked) : s.after? (.request r) =
      some (some (.themeSet (asked.getD (s.context.themeFor r).toggle)), s) := by
  have quiet : (s.context.respond r).2 = none := by
    apply s.context.respond_of_reads
    simp [Request.asksLoop, chooses.path]
  simp only [after?, s.context.respond_of_chooses chooses, quiet, Option.elim_none]

theorem theme_after? {s next : Server} {turn : Turn (Moment × Event)} {answer : Option Response}
    (other : ∀ t, turn ≠ .setTheme t) (taken : s.after? turn = some (answer, next)) :
    next.theme = s.theme := by
  cases turn with
  | request r =>
    cases taken
    rfl
  | setTheme t => exact absurd rfl (other t)
  | loop push =>
    obtain ⟨step, -, same⟩ := Option.map_eq_some_iff.1 taken
    cases same
    rfl

end Server

inductive Journey (start : Server) :
    Server → Option String → List (Option Theme × Response) → Prop
  | arrive : Journey start start none []
  | choose {s next : Server} {stored : Option String} {told : List (Option Theme × Response)}
      {r : Request} {asked : Option Theme} {answer : Response}
      (before : Journey start s stored told) (carries : r.Carries stored)
      (chooses : r.Chooses asked)
      (answered : s.after? (.request r) = some (some answer, next)) :
      Journey start next (storedAfter stored answer) (told ++ [(asked, answer)])
  | look {s next : Server} {stored : Option String} {told : List (Option Theme × Response)}
      {r : Request} {answer : Response} (before : Journey start s stored told)
      (carries : r.Carries stored) (other : ∀ asked, ¬ r.Chooses asked)
      (answered : s.after? (.request r) = some (some answer, next)) :
      Journey start next (storedAfter stored answer) told
  | elsewhere {s next : Server} {stored : Option String} {told : List (Option Theme × Response)}
      {turn : Turn (Moment × Event)} {answer : Option Response}
      (before : Journey start s stored told) (other : ∀ t, turn ≠ .setTheme t)
      (taken : s.after? turn = some (answer, next)) : Journey start next stored told

structure Agrees (start s : Server) (stored : Option String)
    (told : List (Option Theme × Response)) : Prop where
  theme : s.theme = start.theme
  stored : stored =
    if told = [] then none else some (chosen start.theme.current (told.map Prod.fst)).name
  answers : ∀ before asked answer after, told = before ++ (asked, answer) :: after →
    answer = .themeSet (chosen start.theme.current (before.map Prod.fst ++ [asked]))

namespace Agrees

variable {start s next : Server} {stored : Option String} {told : List (Option Theme × Response)}
  {r : Request}

theorem themeFor (agrees : Agrees start s stored told) (carries : r.Carries stored) :
    s.context.themeFor r = chosen start.theme.current (told.map Prod.fst) := by
  rw [agrees.stored] at carries
  split at carries
  next first =>
    rw [s.context.themeFor_without carries, first]
    exact congrArg ThemeCell.current agrees.theme
  next => exact s.context.themeFor_among carries

theorem choose {asked : Option Theme} {answer : Response} (agrees : Agrees start s stored told)
    (carries : r.Carries stored) (chooses : r.Chooses asked)
    (answered : s.after? (.request r) = some (some answer, next)) :
    Agrees start next (storedAfter stored answer) (told ++ [(asked, answer)]) := by
  have told_now : answer =
      .themeSet (chosen start.theme.current (told.map Prod.fst ++ [asked])) := by
    rw [s.after?_of_chooses chooses, agrees.themeFor carries, ← chosen_append] at answered
    cases answered
    rfl
  constructor
  case theme => exact (Server.theme_after? (by simp) answered).trans agrees.theme
  case stored => simp [told_now, storedAfter_themeSet]
  case answers =>
    intro before wish response after split
    -- Either it is the answer given now, or one of those before.
    rcases List.eq_nil_or_concat' after with rfl | ⟨later, last, rfl⟩
    · obtain ⟨rfl, same⟩ := List.append_inj' split rfl
      cases same
      exact told_now
    · rw [← List.cons_append, ← List.append_assoc] at split
      exact agrees.answers before wish response later (List.append_inj' split rfl).1

theorem look {answer : Response} (agrees : Agrees start s stored told)
    (other : ∀ asked, ¬ r.Chooses asked)
    (answered : s.after? (.request r) = some (some answer, next)) :
    Agrees start next (storedAfter stored answer) told := by
  have nothing : answer.setCookie = none := by
    cases answered
    exact s.context.setCookie_respond other
  have kept : storedAfter stored answer = stored := by
    rw [storedAfter, nothing, Option.bind_none, Option.none_or]
  exact ⟨(Server.theme_after? (by simp) answered).trans agrees.theme, kept.trans agrees.stored,
    agrees.answers⟩

end Agrees

theorem Journey.agrees {start s : Server} {stored : Option String}
    {told : List (Option Theme × Response)} (journey : Journey start s stored told) :
    Agrees start s stored told := by
  induction journey with
  | arrive => exact ⟨rfl, rfl, by simp⟩
  | choose _ carries chooses answered agrees => exact agrees.choose carries chooses answered
  | look _ carries other answered agrees => exact agrees.look other answered
  | elsewhere _ other taken agrees =>
    exact ⟨(Server.theme_after? other taken).trans agrees.theme, agrees.stored, agrees.answers⟩

theorem Journey.theme_is_chosen {start s : Server} {stored : Option String}
    {told : List (Option Theme × Response)} (journey : Journey start s stored told) :
    (∀ before asked answer after, told = before ++ (asked, answer) :: after →
      answer = .themeSet (chosen start.theme.current (before.map Prod.fst ++ [asked]))) ∧
    ∀ r : Request, r.Carries stored →
      (∀ asked, r.Posts asked → r.Chooses asked ∧ ∃ next, s.after? (.request r) =
        some (some (.themeSet
          (chosen start.theme.current (told.map Prod.fst ++ [asked]))), next)) ∧
      (r.method = "GET" → r.target.path = "/api/theme" → ∃ next, s.after? (.request r) =
        some (some (.themeTold (chosen start.theme.current (told.map Prod.fst))), next)) ∧
      (r.method = "GET" → r.target.path = "/" → ∃ answer next,
        s.after? (.request r) = some (some answer, next) ∧ (answer.status = 200 →
          ∃ p : Page, p.theme = chosen start.theme.current (told.map Prod.fst) ∧
            answer = .html 200 p.render ∧ ∃ before after,
              p.render = before ++ ("<body class=\"" ++ p.theme.name ++ "\">") ++ after)) := by
  have agrees := journey.agrees
  refine ⟨agrees.answers, fun r carries => ⟨?post, ?lookup, ?page⟩⟩
  case post =>
    intro asked posts
    have answered := s.after?_of_chooses posts.chooses
    rw [agrees.themeFor carries, ← chosen_append] at answered
    exact ⟨posts.chooses, s, answered⟩
  case lookup =>
    intro get path
    have answered := s.context.respond_theme get path
    rw [agrees.themeFor carries] at answered
    exact ⟨_, by rw [Server.after?, answered]⟩
  case page =>
    intro get path
    refine ⟨_, _, rfl, fun shown => ?_⟩
    obtain ⟨p, theme, answer⟩ := s.context.exists_page get path shown
    exact ⟨p, theme.trans (agrees.themeFor carries), answer, p.exists_class⟩

-- Between the two choices somebody else turns to the dark theme.
theorem Journey.theme_is_chosen_among_others :
    let named : Request := ⟨"POST", ⟨"/api/theme", ""⟩,
      [("content-type", "application/json"), ("cookie", "lang=theme")],
      "\x7b\"theme\": \"light\"\x7d"⟩
    let other : Request := ⟨"POST", ⟨"/api/theme", ""⟩,
      [("content-type", "application/json"), ("cookie", "lang=theme; theme = light ")],
      "\x7b\x7d"⟩
    let look : Request := ⟨"GET", ⟨"/api/theme", ""⟩, [("cookie", "theme=dark;lang=theme")], ""⟩
    named.Carries none ∧ other.Carries (some "light") ∧ other.Posts none ∧
      look.Carries (some "dark") ∧
      (∃ told next, Journey freshServer freshServer (some "light") told ∧
        told.map Prod.fst = [some .light] ∧
        freshServer.after? (.request other) = some (some (.themeSet .dark), next)) ∧
      ∃ told next, Journey freshServer freshServer (some "dark") told ∧
        told.map Prod.fst = [some .light, none] ∧
        freshServer.after? (.request look) = some (some (.themeTold .dark), next) ∧
        (Response.themeTold .dark).body = "\x7b\"theme\":\"dark\"\x7d" := by
  intro named other look
  have someone : Request.Chooses ⟨"POST", ⟨"/api/theme", ""⟩,
      [("content-type", "application/json"), ("cookie", "theme=light")], "\x7b\x7d"⟩ none :=
    .of_json rfl rfl (by decide +kernel) (by decide +kernel) (by decide +kernel)
  have first : named.Chooses (some .light) :=
    .of_json rfl rfl (by decide +kernel) (by decide +kernel) (by decide +kernel)
  have second : other.Posts none :=
    ⟨rfl, rfl, by decide +kernel, by decide +kernel, ['\x7b', '\x7d'], [], 1, by decide,
      .emptyObject Json.blank_nil Json.blank_nil⟩
  have nothing : Blanks [] := by decide
  have blank : Blanks [' '] := by decide
  have named_lists : named.ListsCookies [["lang=theme".toList]] :=
    ⟨by decide +kernel, by decide +kernel, by decide⟩
  have other_lists : other.ListsCookies [["lang=theme".toList, " theme = light ".toList]] :=
    ⟨by decide +kernel, by decide +kernel, by decide⟩
  have look_lists : look.ListsCookies [["theme=dark".toList, "lang=theme".toList]] :=
    ⟨by decide +kernel, by decide +kernel, by decide⟩
  have without : named.Carries none := .without named_lists (by decide)
  have behind : other.Carries (some Theme.light.name) :=
    @Request.Carries.among other _ ["lang=theme".toList] [] _ Theme.light.name other_lists rfl
      (.intro blank blank blank blank) (by decide)
  have before : look.Carries (some Theme.dark.name) :=
    @Request.Carries.among look _ [] ["lang=theme".toList] _ Theme.dark.name look_lists rfl
      (.intro nothing nothing nothing nothing) (by decide)
  have named_once := Journey.choose .arrive without first (freshServer.after?_of_chooses first)
  have beside := Journey.elsewhere named_once (by simp) (freshServer.after?_of_chooses someone)
  rw [storedAfter_themeSet] at beside
  have turned := Journey.choose beside behind second.chooses
    (freshServer.after?_of_chooses second.chooses)
  rw [storedAfter_themeSet, freshServer.context.themeFor_among behind] at turned
  obtain ⟨-, next, answered⟩ := (beside.theme_is_chosen.2 other behind).1 none second
  obtain ⟨last, looked⟩ := (turned.theme_is_chosen.2 look before).2.1 rfl rfl
  exact ⟨without, behind, second, before, ⟨_, next, beside, rfl, answered⟩, _, last, turned, rfl,
    looked, by decide +kernel⟩

end Leaderboard.Dashboard
