import CyoloLogin.Interfaces
import CyoloLogin.Schemes

/-!
# The backend requests

`Request` names each function of `AuthAPI.ts` that issues a request, with the arguments
it is called with; a screen issues a request by calling the function, and the request
is outstanding until its promise settles with an `Outcome`.  `issuedAt p log` is the list
of times, in order, at which the requests of a log that satisfy `p` were issued.

Three functions are modelled with what they read of a response.  `getUserData` gets
`users/me` through `axios`, whose default `validateStatus` rejects every status outside
`2xx`, validates the body with `UserDataScheme` and returns the body itself.
`performLogin` and `initiateSmsMessage` share one `catch` clause, `rethrow`, which builds
an `Error` from the `error` member of the response body, with a default message of each
function's own.  `initiateSmsMessage` posts the number with its spaces replaced by
`phoneNumber.replace(' ','')`.
-/

namespace CyoloLogin

/-- The requests of `AuthAPI.ts`, one constructor per function, with its arguments. -/
inductive Request where
  | getUserData
  | updateComputerName (computerName : String)
  | saveUserToDB
  | performLogin (username password : String)
  | performTotpConfirmation (totpCode : String)
  | initiateMfaSmsMessage
  | initiateSmsMessage (phoneNumber : String)
  | getQrCodeUri
  | performEnrollWithTOTP (totpCode : String)
  | performEnrollWithSMS (smsCode : String)
  deriving DecidableEq, Repr

/-- How a request's promise settles: it resolves, or it rejects with an `Error` whose
message is given. -/
inductive Outcome where
  | resolved
  | rejected (message : String)
  deriving DecidableEq, Repr

/-- Whether a request is a call of `initiateSmsMessage`. -/
def Request.isInitiateSmsMessage : Request → Bool
  | .initiateSmsMessage _ => true
  | _ => false

/-- Whether a request is a call of `performEnrollWithSMS` or `performEnrollWithTOTP`. -/
def Request.isEnrollment : Request → Bool
  | .performEnrollWithSMS _ | .performEnrollWithTOTP _ => true
  | _ => false

/-- The times, in order, at which the requests of `log` that satisfy `p` were issued. -/
def issuedAt (p : Request → Bool) (log : List (Nat × Request)) : List Nat :=
  (log.filter fun x => p x.2).map Prod.fst

@[simp]
theorem issuedAt_nil (p : Request → Bool) :
  issuedAt p [] = []
  := rfl

@[simp]
theorem issuedAt_append (p : Request → Bool) (log log' : List (Nat × Request)) :
  issuedAt p (log ++ log') = issuedAt p log ++ issuedAt p log'
  := by
  simp [issuedAt]

@[simp]
theorem issuedAt_singleton (p : Request → Bool) (t : Nat) (r : Request) :
  issuedAt p [(t, r)] = if p r then [t] else []
  := by
  by_cases h : p r <;> simp [issuedAt, h]

/-! ### Reading a response -/

/-- A response `axios` receives: its status, and its body as `JSON.parse` returns it. -/
structure Response where
  status : Nat
  data : Json

/-- The default `validateStatus` of `axios`: a status outside `2xx` rejects the request. -/
def validateStatus (status : Nat) : Bool := 200 ≤ status && status < 300

/-- `Axios.get(...)` answered by a response: the response, or the `AxiosError` it rejects
with. -/
def axiosGet (response : Response) : Except JsError Response :=
  if validateStatus response.status then .ok response
  else .error (.error ("Request failed with status code " ++ toString response.status))

/-- `getUserData()` answered by a response to `GET users/me`. -/
def getUserData (rt : JoiRuntime) (response : Response) : Except JsError (Option Json) := do
  let ⟨status, data⟩ ← axiosGet response
  if status = 403 then return none
  if !UserDataScheme.accepts rt data then return none
  return some data

/-- `getUserData` by the status: outside `2xx` it rejects with the `AxiosError`; otherwise
it resolves to the body when the status is not `403` and the schema accepts the body, and
to `undefined` else. -/
theorem getUserData_eq (rt : JoiRuntime) (response : Response) :
  getUserData rt response =
    if validateStatus response.status then
      .ok (if response.status ≠ 403 ∧ UserDataScheme.accepts rt response.data then some response.data
        else none)
    else .error (.error ("Request failed with status code " ++ toString response.status))
  := by
  unfold getUserData axiosGet
  split
  · by_cases h403 : response.status = 403 <;>
      cases ha : UserDataScheme.accepts rt response.data <;>
      simp [h403, ha, bind, Except.bind, pure, Except.pure]
  · rfl

/-- How a request of `axios` fails: with no response, or with a response whose body
`error.response.data` is given. -/
inductive RequestFailure where
  | noResponse
  | response (data : Json)

/-- The `catch` clause of `performLogin` and of `initiateSmsMessage`:
`const { error = fallback } = response.data; throw Error(error)` when there is a
response, and `throw Error(fallback)` when there is none. -/
def rethrow (fallback : String) (numberToString : Float → String) : RequestFailure → JsError
  | .noResponse => .error fallback
  | .response data =>
    match destructure "error" (.string fallback) data with
    | .ok error => newError numberToString error
    | .error e => e

/-- `performLogin(username, password)` once its `POST` has settled: it resolves with the
response's data, or rejects with what its `catch` clause throws. -/
def performLogin (numberToString : Float → String) : Except RequestFailure Json → Except JsError Json
  | .ok data => .ok data
  | .error failure => .error (rethrow "user login failed" numberToString failure)

/-- `phoneNumberWithNoSpaces` of `initiateSmsMessage(phoneNumber)`. -/
def phoneNumberWithNoSpaces (phoneNumber : String) : String := replace phoneNumber " " ""

/-- The body `initiateSmsMessage(phoneNumber)` posts to `users/me/initiate-sms`. -/
def initiateSmsMessageBody (phoneNumber : String) : Json :=
  .object [("phone_number", .string (phoneNumberWithNoSpaces phoneNumber))]

/-- `initiateSmsMessage(phoneNumber)` once its `POST` has settled: it resolves, or rejects
with what its `catch` clause throws. -/
def initiateSmsMessage (numberToString : Float → String) : Except RequestFailure Json → Except JsError Unit
  | .ok _ => .ok ()
  | .error failure => .error (rethrow "failed to send sms message" numberToString failure)

end CyoloLogin
