import Mathlib.Data.List.Basic

/-!
# Interfaces and configuration

`IUser` is the session descriptor the backend returns for `users/me`, with the fourteen
fields of `interfaces.ts`.  `Config` holds the settings of `config.ts` that the screens
read, and `config` the values the application is built with.  `AlertStatus` is the
snackbar state each screen keeps; `AlertStatus.raise` is the alert a handler shows and
`AlertStatus.closed` the one `handleSnackbarClose` leaves.
-/

namespace CyoloLogin

/-- The session descriptor of `interfaces.ts`.  A JSON number is modelled by an integer:
`authLevel` is a trust tier, and the screens only compare it with `1`. -/
structure IUser where
  id : String
  kind : String
  name : String
  system : Bool
  enabled : Bool
  phoneNumber : String
  ctime : String
  mtime : String
  supervisor : String
  authLevel : Int
  personalDesktop : String
  enrolled : Bool
  totpEnabled : Bool
  totpEnrolled : Bool
  deriving DecidableEq, Repr

/-- The settings of `config.ts` that the modelled code reads. -/
structure Config where
  pollingInteval : Nat
  allowAnonymousPageAccess : Bool
  mock : Bool
  deriving DecidableEq, Repr

/-- The values `config.ts` exports. -/
def config : Config where
  pollingInteval := 2000
  allowAnonymousPageAccess := true
  mock := false

/-- The severities the screens give an alert. -/
inductive Severity where
  | info
  | success
  | error
  deriving DecidableEq, Repr

/-- The snackbar state `{ show, severity, description }`; the severity is `undefined`
once the snackbar has been closed. -/
structure AlertStatus where
  «show» : Bool
  severity : Option Severity
  description : String
  deriving DecidableEq, Repr

/-- The state every screen's snackbar starts in. -/
def AlertStatus.initial : AlertStatus := ⟨false, some .info, ""⟩

/-- The alert a handler shows. -/
def AlertStatus.raise (severity : Severity) (description : String) : AlertStatus :=
  ⟨true, some severity, description⟩

/-- The state `handleSnackbarClose` leaves. -/
def AlertStatus.closed : AlertStatus := ⟨false, none, ""⟩

end CyoloLogin
