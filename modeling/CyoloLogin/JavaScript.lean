import Mathlib.Data.List.Basic

/-!
# The JavaScript the services rely on

`AuthAPI.ts` reads response bodies, which `axios` has parsed with `JSON.parse`, and builds
its exceptions from them.  `Json` is a value `JSON.parse` returns: an object keeps its
members in order, and of two members with one key the last is the property.  A number
is a `Float`, JavaScript's number; its conversion to a string, which only the engine
defines, is the parameter `numberToString`.

* `destructure key default value` is `const { key = default } = value`: it throws a
  `TypeError` on `null`.
* `jsString` is `String(value)`: it throws a `TypeError` on an object with a `toString`
  member, whose value `JSON.parse` cannot make callable.
* `newError` is `Error(value)`, whose message is `String(value)`.
* `jsLength s` is `s.length`, which counts UTF-16 code units: a character outside the
  Basic Multilingual Plane counts two.
* `replace s pattern replacement` is `s.replace(pattern, replacement)` with a string
  pattern: only the first occurrence is replaced, and with a one-character pattern and an
  empty replacement it is `List.erase` (`replace_char_empty`).
-/

namespace CyoloLogin

/-- A value `JSON.parse` returns. -/
inductive Json where
  | null
  | bool (b : Bool)
  | number (n : Float)
  | string (s : String)
  | array (items : List Json)
  | object (members : List (String × Json))
  deriving Repr, Inhabited

/-- A JavaScript exception: an `Error` with its message, or a `TypeError` of the engine. -/
inductive JsError where
  | error (message : String)
  | typeError
  deriving DecidableEq, Repr

namespace Json

/-- The property `key` of a value, for a key that no built-in prototype defines, such as
`error`: an object's member of that key, the last one as `JSON.parse` keeps it; no other
value has one. -/
def property (key : String) : Json → Option Json
  | .object members => members.reverse.lookup key
  | _ => none

end Json

/-- `const { key = default } = value`: `null` cannot be destructured; any other value
gives its property `key`, or `default` when that is `undefined`. -/
def destructure (key : String) (default : Json) : Json → Except JsError Json
  | .null => .error .typeError
  | value => .ok ((value.property key).getD default)

mutual

/-- `String(value)`.  An array is joined with commas, `null` members giving the empty
string; an object is `[object Object]` unless it has a `toString` member, which is not
callable, so that `valueOf` is tried next and returns the object itself: no primitive is
found and a `TypeError` is thrown. -/
def jsString (numberToString : Float → String) : Json → Except JsError String
  | .null => .ok "null"
  | .bool b => .ok (if b then "true" else "false")
  | .number n => .ok (numberToString n)
  | .string s => .ok s
  | .array items => joinItems numberToString items
  | .object members =>
    if members.any (·.1 == "toString") then .error .typeError else .ok "[object Object]"
termination_by structural value => value

/-- `items.join(",")`: a `null` member gives the empty string. -/
def joinItems (numberToString : Float → String) : List Json → Except JsError String
  | [] => .ok ""
  | item :: items => do
    let first ← if let .null := item then pure "" else jsString numberToString item
    let rest ← joinItems numberToString items
    pure (if items.isEmpty then first else first ++ "," ++ rest)
termination_by structural items => items

end

/-- `Error(value)`: an `Error` whose message is `String(value)`, unless that throws. -/
def newError (numberToString : Float → String) (value : Json) : JsError :=
  match jsString numberToString value with
  | .ok message => .error message
  | .error e => e

/-- `s.length`: the number of UTF-16 code units of the string, one for a character of the
Basic Multilingual Plane and two, a surrogate pair, for any other. -/
def jsLength (s : String) : Nat :=
  s.toList.foldr (fun c n => (if c.val ≤ 0xFFFF then 1 else 2) + n) 0

/-- `String.prototype.replace` with a string pattern, on characters: the first occurrence
of `pattern` is replaced by `replacement`. -/
def replaceFirst (pattern replacement : List Char) : List Char → List Char
  | [] => if pattern.isPrefixOf [] then replacement else []
  | c :: cs =>
    if pattern.isPrefixOf (c :: cs) then replacement ++ (c :: cs).drop pattern.length
    else c :: replaceFirst pattern replacement cs

/-- `s.replace(pattern, replacement)` with a string pattern.  The replacement is inserted
as it is: its `$` patterns are not modelled, and the one the code passes, `''`, has none.
A pattern of one character of the Basic Multilingual Plane is found at the same place in
the characters as in the UTF-16 code units JavaScript counts. -/
def replace (s pattern replacement : String) : String :=
  ⟨replaceFirst pattern.toList replacement.toList s.toList⟩

/-- Replacing a one-character pattern by nothing removes its first occurrence. -/
theorem replaceFirst_char_nil (c : Char) (s : List Char) :
  replaceFirst [c] [] s = s.erase c
  := by
  induction s with
  | nil => rfl
  | cons d ds ih =>
    by_cases h : d = c
    · subst h
      simp [replaceFirst]
    · simp [replaceFirst, Ne.symm h, ih, List.erase_cons, h]

theorem replace_char_empty (s : String) (c : Char) :
  (replace s ⟨[c]⟩ "").toList = s.toList.erase c
  := replaceFirst_char_nil c s.toList

end CyoloLogin
