set_option autoImplicit false

namespace Leaderboard

variable {ε α β : Type}

theorem bind_eq_ok_iff (first : Except ε α) (next : α → Except ε β) (result : β) :
    (first >>= next) = .ok result ↔ ∃ a, first = .ok a ∧ next a = .ok result := by
  cases first with
  | ok a => exact ⟨fun later => ⟨a, rfl, later⟩, fun ⟨_, same, later⟩ => Except.ok.inj same ▸ later⟩
  | error error => exact ⟨nofun, fun ⟨_, same, _⟩ => nomatch same⟩

theorem exists_eq_ok_iff (check : Except ε Unit) : (∃ u, check = .ok u) ↔ check = .ok () :=
  ⟨fun ⟨_, done⟩ => done, fun done => ⟨(), done⟩⟩

theorem checks_eq_ok_iff (first next : Except ε Unit) :
    (first >>= fun _ => next) = .ok () ↔ first = .ok () ∧ next = .ok () := by
  rw [bind_eq_ok_iff]
  exact ⟨fun ⟨_, done⟩ => done, fun done => ⟨(), done⟩⟩

theorem map_eq_ok_iff (f : α → β) (first : Except ε α) (result : β) :
    first.map f = .ok result ↔ ∃ a, first = .ok a ∧ f a = result := by
  cases first <;> simp [Except.map]

theorem mapError_eq_ok_iff {ε' : Type} (f : ε → ε') (first : Except ε α) (result : α) :
    first.mapError f = .ok result ↔ first = .ok result := by
  cases first with
  | ok a =>
    constructor
    · exact fun done => congrArg Except.ok (Except.ok.inj done)
    · exact fun done => congrArg Except.ok (Except.ok.inj done)
  | error e => exact ⟨nofun, nofun⟩

theorem bind_eq_error_iff (first : Except ε α) (next : α → Except ε β) (error : ε) :
    (first >>= next) = .error error ↔
      first = .error error ∨ ∃ a, first = .ok a ∧ next a = .error error := by
  cases first with
  | ok a =>
    constructor
    · exact fun later => .inr ⟨a, rfl, later⟩
    · rintro (failed | ⟨_, same, later⟩)
      · cases failed
      · cases same
        exact later
  | error other =>
    constructor
    · intro failed
      cases failed
      exact .inl rfl
    · rintro (failed | ⟨_, same, _⟩)
      · cases failed
        rfl
      · cases same

theorem eq_ok_of_toOption {outcome : Except ε α} {a : α} (given : outcome.toOption = some a) :
    outcome = .ok a := by
  cases outcome with
  | ok b => exact congrArg Except.ok (Option.some.inj given)
  | error e => cases given

end Leaderboard
