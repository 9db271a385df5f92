import Mathlib.Data.List.Chain
import Leaderboard.Proofs.Refresh.Journal
import Leaderboard.Watch.Reported

set_option autoImplicit false

namespace Leaderboard.Watch

open Refresh (Actor Fetched Happening History Moment Operation Outcome Phase Plan Run Snapshot State
  Timestamp)

def looks {α : Type} : List α → List Nat → List α
  | item :: rest, n :: counts => List.replicate n item ++ looks rest counts
  | _, _ => []

def failure? : Snapshot × Update → Option (Nat × String)
  | (s, .failed message) => some (s.attempts, message)
  | (_, .rows) => none

def listing? : Snapshot × Update → Option (Nat × Option String)
  | (s, .rows) => some (s.generation, some s.filter)
  | (_, .failed _) => none

def failedResult? : Nat × Fetched → Option (Nat × String)
  | (n, .error failure) => some (n, failure.message)
  | (_, .ok _) => none

theorem fst_of_failedResult? {entry : Nat × Fetched} {failure : Nat × String}
    (failed : failedResult? entry = some failure) : entry.1 = failure.1 := by
  obtain ⟨n, result⟩ := entry
  cases result with
  | ok data => cases failed
  | error => exact congrArg Prod.fst (Option.some.inj failed)

namespace Reported

variable (r : Reported) (s : Snapshot)

def afterAll (seen : List Snapshot) : Reported := seen.foldl (fun r s => (r.next s).2) r

def look : List (Snapshot × Update) := (r.next s).1.toList.map (s, ·)

def news : Reported → List Snapshot → List (Snapshot × Update)
  | _, [] => []
  | r, s :: rest => r.look s ++ news (r.next s).2 rest

def listed : Nat × Option String := (r.generation, r.filter)

-- The failure that a look reports.
def untold : List (Nat × String) :=
  if s.phase = .idle ∧ r.isNewFailure s then [(s.attempts, s.error.getD "refresh failed")] else []

theorem news_append (first second : List Snapshot) :
    r.news (first ++ second) = r.news first ++ (r.afterAll first).news second := by
  induction first generalizing r with
  | nil => rfl
  | cons s rest ih =>
    simp only [List.cons_append, news, ih, List.append_assoc]
    rfl

theorem next_fetching (fetching : s.phase = .fetching) : r.next s = (none, r) := by
  simp [next, fetching]

theorem next_failed (idle : s.phase = .idle) (failed : r.isNewFailure s = true) :
    r.next s =
      (some (.failed (s.error.getD "refresh failed")), { r with failedAttempt := s.attempts }) := by
  simp [next, idle, failed]

theorem next_rows (idle : s.phase = .idle) (failed : r.isNewFailure s = false)
    (rows : r.hasNewRows s = true) :
    r.next s = (some .rows, { r with generation := s.generation, filter := some s.filter }) := by
  simp [next, idle, failed, rows]

theorem next_old (idle : s.phase = .idle) (failed : r.isNewFailure s = false)
    (rows : r.hasNewRows s = false) : r.next s = (none, r) := by
  simp [next, idle, failed, rows]

theorem next_cases {motive : Option Update × Reported → Prop}
    (fetching : s.phase = .fetching → motive (none, r))
    (failed : s.phase = .idle → r.isNewFailure s = true →
      motive (some (.failed (s.error.getD "refresh failed")), { r with failedAttempt := s.attempts }))
    (rows : s.phase = .idle → r.isNewFailure s = false → r.hasNewRows s = true →
      motive (some .rows, { r with generation := s.generation, filter := some s.filter }))
    (old : s.phase = .idle → r.isNewFailure s = false → r.hasNewRows s = false →
      motive (none, r)) : motive (r.next s) := by
  cases phase : s.phase with
  | fetching => exact r.next_fetching s phase ▸ fetching phase
  | idle =>
    cases new : r.isNewFailure s with
    | true => exact r.next_failed s phase new ▸ failed phase new
    | false =>
      cases fresh : r.hasNewRows s with
      | true => exact r.next_rows s phase new fresh ▸ rows phase new fresh
      | false => exact r.next_old s phase new fresh ▸ old phase new fresh

theorem untold_fetching (fetching : s.phase = .fetching) : r.untold s = [] := by
  simp [untold, fetching]

theorem failures_look : (r.look s).filterMap failure? = r.untold s := by
  unfold look untold
  apply r.next_cases s (motive := fun n => (n.1.toList.map (s, ·)).filterMap failure? = _)
  case fetching => simp +contextual
  case failed => simp +contextual [failure?]
  case rows => simp +contextual [failure?]
  case old => simp +contextual

theorem untold_next : (r.next s).2.untold s = [] := by
  apply r.next_cases s (motive := fun n => n.2.untold s = [])
  case fetching => exact fun fetching => r.untold_fetching s fetching
  case failed => simp [untold, isNewFailure]
  case rows =>
    intro idle told _
    simpa [untold, idle, isNewFailure] using told
  case old => simp +contextual [untold]

-- A reader knows of no attempt to come, nor of one that has not ended.
structure Behind (r : Reported) (s : Snapshot) : Prop where
  attempt : r.failedAttempt ≤ s.attempts
  fetching : s.phase = .fetching → r.failedAttempt < s.attempts

theorem Behind.next {r : Reported} {s : Snapshot} (behind : r.Behind s) : (r.next s).2.Behind s := by
  apply r.next_cases s (motive := fun n => n.2.Behind s)
  case fetching => exact fun _ => behind
  case failed => exact fun idle _ => ⟨Nat.le_refl _, by simp [idle]⟩
  case rows => exact fun _ _ _ => ⟨behind.attempt, behind.fetching⟩
  case old => exact fun _ _ _ => behind

theorem Behind.after {r : Reported} {s : State} (behind : r.Behind s.snapshot) (now : Timestamp)
    (op : Operation) : r.Behind (s.after now op).snapshot := by
  cases op with
  | beginFetch =>
    rw [State.after_beginFetch]
    split
    · exact behind
    · exact ⟨Nat.le_succ_of_le behind.attempt, fun _ => Nat.lt_succ_of_le behind.attempt⟩
  | completeFetch result => cases result <;> exact ⟨behind.attempt, nofun⟩
  | setFilter text =>
    rw [State.after_setFilter]
    split <;> exact ⟨behind.attempt, behind.fetching⟩
  | setOnline online => exact ⟨behind.attempt, behind.fetching⟩

-- An operation on fetches leaves its own failure to be told, any other what was there.
theorem untold_after {r : Reported} {s : State} (behind : r.Behind s.snapshot) (now : Timestamp)
    {op : Operation} (changes : s.Changes op) :
    r.untold (s.after now op).snapshot =
      if op.isFetch then (op.result?.toList.map (s.snapshot.attempts, ·)).filterMap failedResult?
      else r.untold s.snapshot := by
  cases op with
  | beginFetch =>
    have idle : ¬ s.isFetching = true := by simpa [State.Changes] using changes
    rw [State.after_beginFetch, if_neg idle]
    exact r.untold_fetching _ rfl
  | completeFetch result =>
    have earlier := behind.fetching ((State.isFetching_iff s).1 changes)
    cases result with
    | ok data => simp [untold, isNewFailure, State.after, State.completeFetch, Operation.isFetch,
        Operation.result?, failedResult?]
    | error failure =>
      have new : s.snapshot.attempts ≠ r.failedAttempt := Nat.ne_of_gt earlier
      simp [untold, isNewFailure, State.after, State.completeFetch, Operation.isFetch,
        Operation.result?, failedResult?, new]
  | setFilter text =>
    rw [State.after_setFilter, if_neg changes]
    rfl
  | setOnline online => rfl

theorem failures_again (n : Nat) (s : Snapshot) (r : Reported) (behind : r.Behind s) :
    (r.news (List.replicate n s)).filterMap failure? = (if n = 0 then [] else r.untold s) ∧
      (r.afterAll (List.replicate n s)).untold s = (if n = 0 then r.untold s else []) ∧
      (r.afterAll (List.replicate n s)).Behind s := by
  -- the reader changes with every look, and after the first there is nothing left to tell
  induction n generalizing r with
  | zero => exact ⟨rfl, rfl, behind⟩
  | succ n ih =>
    obtain ⟨told, left, known⟩ := ih (r.next s).2 behind.next
    rw [untold_next, ite_self] at told left
    refine ⟨?_, left, known⟩
    rw [List.replicate_succ, news, List.filterMap_append, failures_look, told]
    simp

-- What was told is part of what happened, and all of it if nothing was left out.
structure Heard (whole : Prop) (told happened : List (Nat × String)) : Prop where
  part : told.Sublist happened
  whole : whole → told = happened

theorem Heard.of_eq {whole : Prop} {a b : List (Nat × String)} (eq : a = b) : Heard whole a b :=
  ⟨eq ▸ List.Sublist.refl _, fun _ => eq⟩

theorem Heard.append {whole first second : Prop} {a b c d : List (Nat × String)}
    (one : Heard first a b) (two : Heard second c d) (both : whole → first ∧ second) :
    Heard whole (a ++ c) (b ++ d) :=
  ⟨one.part.append two.part, fun all => by rw [one.whole (both all).1, two.whole (both all).2]⟩

theorem Heard.trans {whole : Prop} {a b c : List (Nat × String)} (one : Heard whole a b)
    (two : Heard whole b c) : Heard whole a c :=
  ⟨one.part.trans two.part, fun all => (one.whole all).trans (two.whole all)⟩

-- Between two snapshots the reader looks at the first one, and then something is done.
theorem heard_step {r : Reported} {s : State} (behind : r.Behind s.snapshot) (n : Nat)
    (now : Timestamp) {op : Operation} (changes : s.Changes op) :
    Heard (0 < n)
      ((r.news (List.replicate n s.snapshot)).filterMap failure? ++
        (r.afterAll (List.replicate n s.snapshot)).untold (s.after now op).snapshot)
      (r.untold s.snapshot ++
        (op.result?.toList.map (s.snapshot.attempts, ·)).filterMap failedResult?) := by
  obtain ⟨told, left, known⟩ := failures_again n s.snapshot r behind
  rw [told, untold_after known now changes, left]
  cases n with
  | zero =>
    -- without a look, the failure of a fetch hides the one before it
    refine ⟨?_, nofun⟩
    cases op with
    | beginFetch | completeFetch => exact List.sublist_append_right _ _
    | setFilter | setOnline => exact List.sublist_append_left _ _
  | succ n =>
    apply Heard.of_eq
    cases op <;> rfl

theorem heard_looks (told : History) (s : State) (effective : s.Effective told) (counts : List Nat)
    (r : Reported) (behind : r.Behind s.snapshot) :
    Heard (told.length < counts.length ∧ ∀ n ∈ counts, 0 < n)
      ((r.news (looks ((s :: s.course told).map State.snapshot) counts)).filterMap failure?)
      (r.untold s.snapshot ++ (s.numbered told).filterMap failedResult?) := by
  induction told generalizing s r counts with
  | nil =>
    cases counts with
    | nil => exact ⟨List.nil_sublist _, fun all => absurd all.1 (Nat.lt_irrefl _)⟩
    | cons n counts =>
      obtain ⟨told, -, -⟩ := failures_again n s.snapshot r behind
      simp only [State.course, List.map_cons, List.map_nil, looks, List.append_nil, told,
        State.numbered, List.filterMap_nil]
      refine ⟨?_, fun all => if_neg (Nat.ne_of_gt (all.2 n List.mem_cons_self))⟩
      split
      · exact List.nil_sublist _
      · exact List.Sublist.refl _
  | cons entry rest ih =>
    obtain ⟨now, op⟩ := entry
    obtain ⟨changes, effective⟩ := effective
    cases counts with
    | nil => exact ⟨List.nil_sublist _, fun all => absurd all.1 (Nat.not_lt_zero _)⟩
    | cons n counts =>
      -- The looks at the first snapshot, and then those at the rest by a reader who knows more.
      have first := heard_step behind n now changes
      have known := (failures_again n s.snapshot r behind).2.2.after now op
      have later := ih (s.after now op) effective counts _ known
      have looked :
          (r.news (looks ((s :: s.course ((now, op) :: rest)).map State.snapshot)
            (n :: counts))).filterMap failure? =
          (r.news (List.replicate n s.snapshot)).filterMap failure? ++
            ((r.afterAll (List.replicate n s.snapshot)).news
              (looks ((s.after now op :: (s.after now op).course rest).map State.snapshot)
                counts)).filterMap failure? := by
        simp only [State.course, List.map_cons, looks, news_append, List.filterMap_append]
      rw [looked, State.numbered, List.filterMap_append, ← List.append_assoc]
      refine .trans (.append (@Heard.of_eq True _ _ rfl) later ?_) ?_
      · intro all
        exact ⟨trivial, Nat.lt_of_succ_lt_succ all.1, fun m member =>
          all.2 m (List.mem_cons_of_mem n member)⟩
      · rw [← List.append_assoc]
        exact first.append (@Heard.of_eq True _ _ rfl) fun all => ⟨all.2 n List.mem_cons_self, trivial⟩

theorem listings_differ (seen : List Snapshot) :
    (r.listed :: (r.news seen).filterMap listing?).IsChain (· ≠ ·) := by
  induction seen generalizing r with
  | nil => exact List.isChain_singleton _
  | cons s rest ih =>
    rw [news, look]
    apply r.next_cases s (motive := fun n =>
      (r.listed :: (n.1.toList.map (s, ·) ++ n.2.news rest).filterMap listing?).IsChain (· ≠ ·))
    case fetching => exact fun _ => ih r
    case failed => exact fun _ _ => ih { r with failedAttempt := s.attempts }
    case rows =>
      -- rows are told because they differ from those on record, which were told last
      intro _ _ fresh
      refine .cons_cons ?_ (ih { r with generation := s.generation, filter := some s.filter })
      intro same
      simp [hasNewRows, ← (Prod.mk.inj same).1, ← (Prod.mk.inj same).2] at fresh
    case old => exact fun _ _ _ => ih r

theorem of_mem_news {seen : List Snapshot} {told : Snapshot × Update} (member : told ∈ r.news seen) :
    told.1.phase = .idle ∧ (told.2 = .rows → told.1.isLoaded) := by
  induction seen generalizing r with
  | nil => cases member
  | cons s rest ih =>
    rcases List.mem_append.1 member with now | later
    · exact r.next_cases s (motive := fun n => told ∈ n.1.toList.map (s, ·) → _) (by simp)
        (by simp +contextual) (by simp +contextual [hasNewRows]) (by simp) now
    · exact ih _ later

end Reported

variable {plan : Plan} {now : Moment} {initial : Option Dataset} {filter : String}
  {past : List Happening} {a : Actor}

theorem news_told_once (run : Run (Actor.spawn plan now initial filter) past a)
    (counts : List Nat) :
    let shown := Run.shown (Actor.spawn plan now initial filter) past
    let news := Reported.nothing.news (looks shown counts)
    let happened := (past.flatMap Happening.applied).filterMap failedResult?
    (news.filterMap failure?).Sublist happened ∧
      (news.filterMap failure?).Pairwise (fun a b => a.1 < b.1) ∧
      (news.filterMap listing?).IsChain (· ≠ ·) ∧
      (∀ told ∈ news, told.1.phase = .idle ∧ (told.2 = .rows → told.1.isLoaded)) ∧
      (∀ (r : Reported) (s : Snapshot), s.phase = .fetching → r.next s = (none, r)) ∧
      (shown.length ≤ counts.length → (∀ n ∈ counts, 0 < n) → news.filterMap failure? = happened) := by
  intro shown news happened
  obtain ⟨told, effective, -, shown_eq, applied⟩ := run.journal
  have behind : Reported.nothing.Behind (State.start now.date initial filter).snapshot :=
    ⟨Nat.le_refl _, nofun⟩
  -- At the start no fetch has failed, so all failures are those of the journal.
  have untold : Reported.nothing.untold (State.start now.date initial filter).snapshot = [] := rfl
  have heard := Reported.heard_looks told _ effective counts Reported.nothing behind
  rw [untold, List.nil_append, ← shown_eq, ← applied] at heard
  have ascending : happened.Pairwise (fun a b => a.1 < b.1) := by
    refine .filterMap failedResult? ?_ (applied ▸ State.numbered_ascending _ effective)
    intro a b less x failed y later
    rw [← fst_of_failedResult? failed, ← fst_of_failedResult? later]
    exact less
  refine ⟨heard.part, ascending.sublist heard.part, ?_, fun told => Reported.of_mem_news _,
    Reported.next_fetching, ?_⟩
  · exact (Reported.listings_differ _ _).tail
  · intro enough each
    refine heard.whole ⟨?_, each⟩
    have length : shown.length = told.length + 1 := by
      simp [shown, shown_eq, State.length_course]
    omega

-- The reader looks twice at the start and three times at the end.
theorem news_told_once_after_failure :
    let first := Actor.spawn ⟨10, true⟩ ⟨0, ⟨0⟩⟩ (some .empty) ""
    let events : List (Moment × Refresh.Event) :=
      [(⟨10, ⟨10⟩⟩, .tick), (⟨11, ⟨11⟩⟩, .finish 1 (.error ⟨.fetch, "down"⟩)),
        (⟨12, ⟨12⟩⟩, .deliver), (⟨13, ⟨13⟩⟩, .send (.setFilter "node1")), (⟨14, ⟨14⟩⟩, .handle)]
    ∃ past a, first.play? events = some (past, a) ∧
      let news := Reported.nothing.news (looks (Run.shown first past) [2, 1, 1, 3])
      let happened := (past.flatMap Happening.applied).filterMap failedResult?
      news.map Prod.snd = [.rows, .failed "Fetch error: down", .rows] ∧
        happened = [(1, "Fetch error: down")] ∧
        (news.filterMap failure?).Pairwise (fun a b => a.1 < b.1) ∧
        (news.filterMap listing?).IsChain (· ≠ ·) ∧
        (∀ told ∈ news, told.1.phase = .idle ∧ (told.2 = .rows → told.1.isLoaded)) ∧
        news.filterMap failure? = happened := by
  intro first events
  have played : first.play? events = some _ := rfl
  have run := Run.start.play played
  obtain ⟨-, ascending, differ, loaded, -, whole⟩ := news_told_once run [2, 1, 1, 3]
  exact ⟨_, _, played, rfl, rfl, ascending, differ, loaded, whole (by decide) (by decide)⟩

end Leaderboard.Watch
