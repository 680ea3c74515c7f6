import CyoloLogin.Services.AuthAPI

/-!
# What the services return, throw and post

The functions of `AuthAPI.ts`, for every response the backend can give.

* `getUserData_eq_some`: `getUserData` resolves to a value only for a `2xx` status other
  than `403`, and the value is the body itself, as the schema accepted it; `axios`
  rejects every status outside `2xx`, so a `403` never reaches the code's own test.
* `getUserData_untyped`: a body without `phone_number` passes the schema and is returned
  as it is, although it does not inhabit `IUser`.
* `rejects_with_error_member`: `performLogin` and `initiateSmsMessage` reject with
  `Error(error)` of the body's `error` member, or with their fixed message when there is
  none, whenever the body is not `null`.
* `empty_error_member`: an empty `error` member is the message, not the fixed one.
* `no_space_posted_iff`: `initiateSmsMessage` posts the typed number without its first
  space, so the posted number has no space only when the typed one has at most one.
* `placeholder_number_keeps_spaces`: a number typed in the placeholder's format is posted
  with two of its spaces.
-/

namespace CyoloLogin

/-! ### `getUserData` -/

/-- `getUserData` resolves to a value only for a `2xx` status other than `403`, and that
value is the body itself, as `UserDataScheme` accepted it. -/
theorem getUserData_eq_some {rt : JoiRuntime} {response : Response} {data : Json}
    (h : getUserData rt response = .ok (some data)) :
  validateStatus response.status = true ∧ response.status ≠ 403 ∧ data = response.data ∧
    UserDataScheme.accepts rt data = true
  := by
  rw [getUserData_eq] at h
  split at h
  · rename_i hv
    split at h
    · rename_i hok
      cases h
      exact ⟨hv, hok.1, rfl, hok.2⟩
    · cases h
  · cases h

/-- A value that inhabits `IUser` as `interfaces.ts` declares it: an object with the
fourteen keys, with strings, booleans and a number where the interface has them. -/
def inhabitsIUser (data : Json) : Bool :=
  (["id", "kind", "name", "phone_number", "ctime", "mtime", "supervisor", "personal_desktop"].all
      fun k => match data.property k with | some (.string _) => true | _ => false) &&
  (["system", "enabled", "enrolled", "totp_enabled", "totp_enrolled"].all
      fun k => match data.property k with | some (.bool _) => true | _ => false) &&
  match data.property "auth_level" with | some (.number _) => true | _ => false

/-- A body with the ten keys the schema requires and none of the four it leaves optional
passes the schema, and `getUserData` resolves to it, although it lacks `phone_number`,
`supervisor`, `auth_level` and `personal_desktop`. -/
theorem getUserData_untyped :
  ¬ ∀ (rt : JoiRuntime) (response : Response),
      ((response.status = 403 ∨ UserDataScheme.accepts rt response.data = false) →
        getUserData rt response = .ok none) ∧
      (response.status ≠ 403 → UserDataScheme.accepts rt response.data = true →
        ∃ data, getUserData rt response = .ok (some data) ∧ inhabitsIUser data = true)
  := by
  intro h
  obtain ⟨data, hdata, hiuser⟩ := (h ⟨fun _ => true, fun _ => none⟩ ⟨200, .object
    [("id", .string "1"), ("kind", .string "user"), ("name", .string "alice"),
     ("system", .bool false), ("enabled", .bool true), ("ctime", .string "2020"),
     ("mtime", .string "2020"), ("enrolled", .bool false), ("totp_enabled", .bool false),
     ("totp_enrolled", .bool false)]⟩).2 (by decide) rfl
  obtain ⟨-, -, rfl, -⟩ := getUserData_eq_some hdata
  exact absurd hiuser (by decide)

/-! ### The `catch` clause of `performLogin` and `initiateSmsMessage` -/

/-- The `error` member of a failure's body, if it has one. -/
def RequestFailure.errorMember : RequestFailure → Option Json
  | .noResponse => none
  | .response data => data.property "error"

/-- Unless the body is `null`, the `catch` clause throws `Error(error)` of the body's
`error` member, or `Error(fallback)` when there is none. -/
theorem rethrow_eq (fallback : String) (numberToString : Float → String) {failure : RequestFailure}
    (hnull : failure ≠ .response .null) :
  rethrow fallback numberToString failure =
    (failure.errorMember.map (newError numberToString)).getD (.error fallback)
  := by
  cases failure with
  | noResponse => rfl
  | response data =>
    cases data
    case null => exact absurd rfl hnull
    all_goals
      simp only [rethrow, destructure, RequestFailure.errorMember]
      cases Json.property _ _ <;> rfl

/-- `performLogin` and `initiateSmsMessage` reject with `Error(error)` of the body's `error`
member, or with their fixed message when there is no response or no such member,
whenever the body is not `null`. -/
theorem rejects_with_error_member (numberToString : Float → String) (failure : RequestFailure)
    (hnull : failure ≠ .response .null) :
  performLogin numberToString (.error failure) =
      .error ((failure.errorMember.map (newError numberToString)).getD (.error "user login failed")) ∧
  initiateSmsMessage numberToString (.error failure) =
      .error ((failure.errorMember.map (newError numberToString)).getD
        (.error "failed to send sms message"))
  := ⟨congrArg Except.error (rethrow_eq _ _ hnull), congrArg Except.error (rethrow_eq _ _ hnull)⟩

/-- A login rejected with a message in its body. -/
theorem rejects_with_error_member_of_message :
  RequestFailure.response (.object [("error", .string "bad credentials")]) ≠ .response .null ∧
    performLogin (fun _ => "") (.error (.response (.object [("error", .string "bad credentials")]))) =
      .error (.error "bad credentials")
  := by
  have hne : RequestFailure.response (.object [("error", .string "bad credentials")]) ≠ .response .null :=
    fun h => by cases h
  exact ⟨hne, (rejects_with_error_member (fun _ => "") _ hne).1⟩

/-- The message of a normalised failure: the body's `error` member when it is a non-empty
string, the fixed message otherwise. -/
def normalisedMessage (fallback : String) (failure : RequestFailure) : String :=
  match failure.errorMember with
  | some (.string s) => if s = "" then fallback else s
  | _ => fallback

/-- A body `{"error": ""}` makes `performLogin` reject with an empty message. -/
theorem empty_error_member :
  ¬ ∀ (numberToString : Float → String) (failure : RequestFailure),
      performLogin numberToString (.error failure) =
          .error (.error (normalisedMessage "user login failed" failure)) ∧
        initiateSmsMessage numberToString (.error failure) =
          .error (.error (normalisedMessage "failed to send sms message" failure))
  := by
  intro h
  have hlogin := (h (fun _ => "") (.response (.object [("error", .string "")]))).1
  exact absurd (Except.error.inj hlogin) (by decide)

/-! ### What `initiateSmsMessage` posts -/

/-- The posted number is the typed one without its first space. -/
theorem phoneNumberWithNoSpaces_toList (phoneNumber : String) :
  (phoneNumberWithNoSpaces phoneNumber).toList = phoneNumber.toList.erase ' '
  := replace_char_empty phoneNumber ' '

/-- The posted number has no space exactly when the typed one has at most one. -/
theorem no_space_posted_iff (phoneNumber : String) :
  ' ' ∉ (phoneNumberWithNoSpaces phoneNumber).toList ↔ phoneNumber.toList.count ' ' ≤ 1
  := by
  rw [phoneNumberWithNoSpaces_toList, ← List.count_eq_zero, List.count_erase_self]
  omega

/-- A number typed in the placeholder's format, `+972 XXX XXX XXX`, is posted with two of
its three spaces. -/
theorem placeholder_number_keeps_spaces :
  initiateSmsMessageBody "+972 501 234 567" = .object [("phone_number", .string "+972501 234 567")] ∧
    (⟨"+972 501 234 567".toList.filter (· ≠ ' ')⟩ : String) = "+972501234567"
  := ⟨rfl, by decide⟩

end CyoloLogin
