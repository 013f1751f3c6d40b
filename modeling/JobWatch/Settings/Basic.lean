import JobWatch.Session.Basic

/-!
# Settings

What can be configured: where the backend is, how time is spent, and how the program reports on
itself. Times are seconds.
-/

namespace JobWatch

/-- Where the backend is and how it is asked. -/
structure ApiSettings where
  baseUrl : String
  token : Option String
  requestTimeout : Nat
deriving DecidableEq, Repr

/-- How time is spent, and how often things are tried. -/
structure TimingSettings where
  pollInterval : Nat
  failureThreshold : Nat
  loadTimeout : Nat
  countdownTick : Nat
  expiryWarning : Int
  resumeBackoff : Nat
  resumeMaxAttempts : Nat
  backfillLimit : Nat
deriving DecidableEq, Repr

/-- How the program reports on itself. -/
structure LoggingSettings where
  level : String
  json : Bool
  file : Option String
deriving DecidableEq, Repr

/-- Everything that can be configured. -/
structure Settings where
  api : ApiSettings
  timing : TimingSettings
  logging : LoggingSettings
deriving DecidableEq, Repr

/-- What counts where nothing is said of the backend. -/
def ApiSettings.standard : ApiSettings := ⟨"http://localhost:8080", none, 30⟩

/-- What counts where nothing is said of time. -/
def TimingSettings.standard : TimingSettings := ⟨5, 3, 30, 30, 300, 5, 2, 100⟩

/-- What counts where nothing is said of reports. -/
def LoggingSettings.standard : LoggingSettings := ⟨"info", false, none⟩

/-- The timing of a session. An interval is at least one second. -/
def TimingSettings.session (t : TimingSettings) : SessionTiming where
  poll := ⟨max t.pollInterval 1 * 1000, t.failureThreshold⟩
  preview := {
    loadTimeout := t.loadTimeout * 1000
    countdownTick := max t.countdownTick 1 * 1000
    expiryWarning := t.expiryWarning
    resumeBackoff := t.resumeBackoff * 1000
    resumeMaxAttempts := t.resumeMaxAttempts }
  backfillLimit := t.backfillLimit

namespace Settings

/-- What counts where nothing is said. -/
def standard : Settings := ⟨.standard, .standard, .standard⟩

/-- The settings with the token hidden. -/
def redacted (s : Settings) : Settings :=
  { s with api := { s.api with token := s.api.token.map fun _ => "********" } }

end Settings

end JobWatch
