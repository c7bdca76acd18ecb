import ExecutorRegistration.Binary64.Basic

/-!
# JSON values

Numbers are integers from `-2 ^ 63` below `2 ^ 64`, or binary floating-point numbers. An object is
a list of members; the objects that are read, and those of `sorted`, have their keys in ascending
order of code points, which is also the order of their UTF-8 octets, and each key once.
-/

namespace ExecutorRegistration

/-- A JSON value. -/
inductive Json where
  /-- The value `null`. -/
  | null
  /-- A truth value. -/
  | bool (value : Bool)
  /-- A number written without fraction and exponent. -/
  | integer (value : Int)
  /-- Any other number. -/
  | real (value : Binary64)
  /-- A text. -/
  | string (value : String)
  /-- A list of values. -/
  | array (items : List Json)
  /-- Values under keys, in the order in which they are written. -/
  | object (members : List (String × Json))
deriving Repr, Inhabited

namespace Json

/-- Sets the value of a key among members with ascending keys. -/
def setMember (key : String) (value : Json) : List (String × Json) → List (String × Json)
  | [] => [(key, value)]
  | (otherKey, otherValue) :: rest =>
    if key = otherKey then (key, value) :: rest
    else if key < otherKey then (key, value) :: (otherKey, otherValue) :: rest
    else (otherKey, otherValue) :: setMember key value rest

/-- The members with ascending keys; of members with one key the last counts. -/
def sortMembers (members : List (String × Json)) : List (String × Json) :=
  members.foldl (fun sorted (key, value) => setMember key value sorted) []

/-- The value of a key among members. -/
def member? (key : String) : List (String × Json) → Option Json
  | [] => none
  | (otherKey, value) :: rest => if otherKey = key then some value else member? key rest

/-- The value of a key of an object. -/
def field? (key : String) : Json → Option Json
  | object members => member? key members
  | _ => none

mutual

/-- The same value with the keys of all its objects ascending. -/
def sorted : Json → Json
  | null => null
  | bool value => bool value
  | integer value => integer value
  | real value => real value
  | string value => string value
  | array items => array (sortedItems items)
  | object members => object (sortMembers (sortedMembers members))

/-- Sorts each value of a list. -/
def sortedItems : List Json → List Json
  | [] => []
  | item :: rest => item.sorted :: sortedItems rest

/-- Sorts the value of each member. -/
def sortedMembers : List (String × Json) → List (String × Json)
  | [] => []
  | (key, value) :: rest => (key, value.sorted) :: sortedMembers rest

end

mutual

/-- How many brackets stand open at most within the written value. -/
def depth : Json → Nat
  | null => 0
  | bool _ => 0
  | integer _ => 0
  | real _ => 0
  | string _ => 0
  | array items => depthOfItems items + 1
  | object members => depthOfMembers members + 1

/-- The greatest depth in a list. -/
def depthOfItems : List Json → Nat
  | [] => 0
  | item :: rest => max item.depth (depthOfItems rest)

/-- The greatest depth among members. -/
def depthOfMembers : List (String × Json) → Nat
  | [] => 0
  | (_, value) :: rest => max value.depth (depthOfMembers rest)

end

/-- A number of 64 bits as a value. -/
def ofUInt64 (value : UInt64) : Json := integer value.toNat

/-- A list of texts as a value. -/
def ofStrings (texts : List String) : Json := array (texts.map string)

/-- A text as a value, and `null` for none. -/
def ofOption : Option String → Json
  | some text => string text
  | none => null

end Json

end ExecutorRegistration
