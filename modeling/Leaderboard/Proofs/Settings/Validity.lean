import Leaderboard.Proofs.Data.Outcome
import Leaderboard.Settings.Validity
import Leaderboard.Source

set_option autoImplicit false

namespace Leaderboard

theorem Settings.check_eq_ok_iff (s : Settings) :
    s.check = .ok () ↔
      s.source.check = .ok () ∧ s.refresh.check = .ok () ∧ s.display.check = .ok () ∧
        s.server.check = .ok () ∧ s.observability.check = .ok () ∧ s.database.check = .ok () := by
  unfold check
  simp only [checks_eq_ok_iff]

theorem SourceSettings.check_eq_ok_iff (s : SourceSettings) :
    s.check = .ok () ↔
      (∃ url, Source.ofEndpoint s.endpointUrl s.requestTimeoutSecs =
        .ok (.endpoint url s.requestTimeoutSecs)) ∧ s.requestTimeoutSecs ≠ 0 := by
  unfold check Source.ofEndpoint
  cases Url.parse s.endpointUrl with
  | error reason => simp
  | ok url => cases web : url.isWeb <;> simp [web]

theorem RefreshSettings.check_eq_ok_iff (s : RefreshSettings) :
    s.check = .ok () ↔ Refresh.checkPeriod s.interval = .ok () := mapError_eq_ok_iff _ _ _

theorem DisplaySettings.check_eq_ok_iff (s : DisplaySettings) :
    s.check = .ok () ↔ ∃ key, SortKey.ofName s.sortBy = .ok key := by
  simp only [check, sortKey, map_eq_ok_iff, mapError_eq_ok_iff, and_true]

theorem ServerSettings.check_eq_ok_iff (s : ServerSettings) :
    s.check = .ok () ↔ ∃ address, Net.SocketAddress.parse? s.bindAddr = some address := by
  simp only [check, map_eq_ok_iff, and_true, address]
  cases Net.SocketAddress.parse? s.bindAddr <;> simp

end Leaderboard
