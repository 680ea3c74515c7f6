import CyoloLogin.JavaScript

/-!
# The schema of the session descriptor

`UserDataScheme` of `schemes.ts` is a `Joi.object` with one rule per key, and
`getUserData` validates a body with it under Joi's defaults: a value is converted where
its rule allows it (`Joi.bool()` takes the strings `true` and `false` in any case), a
member whose key is not in the schema is an error, and a key may be absent unless its
rule says `required()`.  What Joi decides by itself, and what changed between its
versions, is a `JoiRuntime`: which values `Joi.number()` accepts (numbers, and strings
it converts to one), and how `Joi.object()` reads a string.  Up to version 15 it parses
the string with `JSON.parse` first; from version 16 a string is not an object.
`JoiRuntime.parse` covers both: `JSON.parse` for the first, and a parse that never
succeeds for the second.  The repository does not pin the version.

`UserDataScheme.accepts rt data` holds when `validate(data)` returns no `error`.  The
schema is laxer than `IUser`: `phone_number`, `supervisor`, `auth_level` and
`personal_desktop` may be absent, `supervisor` may be any value, and the booleans may
arrive as strings.
-/

namespace CyoloLogin

/-- What `Joi` decides by itself: whether `Joi.number()` accepts a value, and how
`Joi.object()` parses a string (`JSON.parse` up to Joi 15, never from Joi 16). -/
structure JoiRuntime where
  number : Json → Bool
  parse : String → Option Json

namespace Joi

/-- `Joi.string().required()`: a string, not empty. -/
def stringRequired : Option Json → Bool
  | some (.string s) => s != ""
  | _ => false

/-- `Joi.string().allow('')`: absent, or a string. -/
def stringAllowEmpty : Option Json → Bool
  | none | some (.string _) => true
  | _ => false

/-- `Joi.bool().required()`: a boolean, or a string that lowercases to `true` or `false`.
Only ASCII letters lowercase to these letters, so `String.toLower` decides it as
`toLowerCase` does. -/
def boolRequired : Option Json → Bool
  | some (.bool _) => true
  | some (.string s) => s.toLower == "true" || s.toLower == "false"
  | _ => false

/-- `Joi.number()`: absent, or a value `Joi.number()` accepts. -/
def number (rt : JoiRuntime) : Option Json → Bool
  | none => true
  | some v => rt.number v

/-- `Joi.any()`. -/
def any : Option Json → Bool := fun _ => true

/-- `Joi.object(keys)` on the members of an object: each key's rule holds of the property
of that key, and every member's key is in `keys`. -/
def objectMembers (keys : List (String × (Option Json → Bool))) (members : List (String × Json)) :
    Bool :=
  keys.all (fun k => k.2 ((Json.object members).property k.1)) &&
    members.all fun m => keys.any (·.1 == m.1)

/-- `Joi.object(keys).validate(value)` has no `error`: an object whose members pass, or a
string that the runtime's `parse` makes such an object. -/
def object (rt : JoiRuntime) (keys : List (String × (Option Json → Bool))) : Json → Bool
  | .object members => objectMembers keys members
  | .string s =>
    match rt.parse s with
    | some (.object members) => objectMembers keys members
    | _ => false
  | _ => false

end Joi

/-- `UserDataScheme`: the keys of its `Joi.object` and their rules. -/
def UserDataScheme (rt : JoiRuntime) : List (String × (Option Json → Bool)) :=
  [("id", Joi.stringRequired), ("kind", Joi.stringRequired), ("name", Joi.stringRequired),
   ("system", Joi.boolRequired), ("enabled", Joi.boolRequired),
   ("phone_number", Joi.stringAllowEmpty), ("ctime", Joi.stringRequired),
   ("mtime", Joi.stringRequired), ("supervisor", Joi.any), ("auth_level", Joi.number rt),
   ("personal_desktop", Joi.stringAllowEmpty), ("enrolled", Joi.boolRequired),
   ("totp_enabled", Joi.boolRequired), ("totp_enrolled", Joi.boolRequired)]

/-- `UserDataScheme.validate(data)` returns no `error`. -/
def UserDataScheme.accepts (rt : JoiRuntime) (data : Json) : Bool :=
  Joi.object rt (UserDataScheme rt) data

end CyoloLogin
