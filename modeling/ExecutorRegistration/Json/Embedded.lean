import ExecutorRegistration.Json.Reader

/-!
# Embedded values

A JSON value may hold another one as the text under `embeddedKey`. Resolving it puts the values in
the place of their texts.
-/

namespace ExecutorRegistration.Json

/-- The value that the members of an object embed, if the first of them does. -/
def embeddedValue? : List (String × Json) → Option (Option Json)
  | (key, value) :: rest =>
    if key = embeddedKey then
      match value, rest with
      | string text, [] => some (parse text).toOption
      | _, _ => some none
    else none
  | [] => none

mutual

/-- The value with all embedded values in place, or none if one of them cannot be read. -/
def resolveEmbedded? : Json → Option Json
  | array items => (resolveItems? items).map array
  | object members =>
    match embeddedValue? members with
    | some value => value
    | none => (resolveMembers? members).map object
  | scalar => some scalar

/-- Resolves each value of a list. -/
def resolveItems? : List Json → Option (List Json)
  | [] => some []
  | item :: rest => do
    let item ← item.resolveEmbedded?
    let rest ← resolveItems? rest
    some (item :: rest)

/-- Resolves the value of each member. -/
def resolveMembers? : List (String × Json) → Option (List (String × Json))
  | [] => some []
  | (key, value) :: rest => do
    let value ← value.resolveEmbedded?
    let rest ← resolveMembers? rest
    some ((key, value) :: rest)

end

end ExecutorRegistration.Json
