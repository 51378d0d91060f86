import ChangeFeed.Dictionary

/-!
# JSON values

A number is either an integer or a double, and the two are never equal. The members of an object
form a dictionary, so that their order is fixed and no key occurs twice.
-/

namespace ChangeFeed

/-- A JSON value. -/
inductive Json where
  | null
  | bool (b : Bool)
  | int (n : Int)
  | float (x : Float)
  | str (s : String)
  | arr (items : List Json)
  | obj (members : List (String × Json))

/-- The members of an object. -/
abbrev JsonMap := Dictionary String Json

namespace Json

/-- An arbitrary value is null. -/
instance : Inhabited Json := ⟨.null⟩

mutual
/-- Whether two values are the same; doubles are compared as numbers. -/
def same : Json → Json → Bool
  | .null, .null => true
  | .bool a, .bool b => a == b
  | .int a, .int b => a == b
  | .float a, .float b => a == b
  | .str a, .str b => a == b
  | .arr a, .arr b => sameItems a b
  | .obj a, .obj b => sameMembers a b
  | _, _ => false

/-- Whether two lists hold the same values in the same order. -/
def sameItems : List Json → List Json → Bool
  | [], [] => true
  | a :: as, b :: bs => same a b && sameItems as bs
  | _, _ => false

/-- Whether two objects have the same members. -/
def sameMembers : List (String × Json) → List (String × Json) → Bool
  | [], [] => true
  | (k, a) :: as, (l, b) :: bs => k == l && same a b && sameMembers as bs
  | _, _ => false
end

mutual
/-- Whether no number in the value is a double. -/
def integral : Json → Bool
  | .float _ => false
  | .arr items => integralItems items
  | .obj members => integralMembers members
  | _ => true

/-- Whether no number in the values is a double. -/
def integralItems : List Json → Bool
  | [] => true
  | v :: rest => integral v && integralItems rest

/-- Whether no number in the members is a double. -/
def integralMembers : List (String × Json) → Bool
  | [] => true
  | (_, v) :: rest => integral v && integralMembers rest
end

mutual
/-- How many arrays and objects lie around the innermost value, itself included. -/
def depth : Json → Nat
  | .arr items => depthItems items + 1
  | .obj members => depthMembers members + 1
  | _ => 0

/-- The greatest depth of the values. -/
def depthItems : List Json → Nat
  | [] => 0
  | v :: rest => max (depth v) (depthItems rest)

/-- The greatest depth of the members. -/
def depthMembers : List (String × Json) → Nat
  | [] => 0
  | (_, v) :: rest => max (depth v) (depthMembers rest)
end

end Json

end ChangeFeed
