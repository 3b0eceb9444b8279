-- SUMMARY: The values of documents: JSON values whose objects keep the order of their members.
import DocStore.Assoc
import DocStore.Json.Number

/-!
# Values

Documents are JSON values. An object is an association list, so its members keep the order in which
they came; a well-formed value has no object with a repeated name, no integer beyond the exact
range and no double that is not finite. Readers produce well-formed values only.
-/

namespace DocStore

/-- A JSON value. -/
inductive Json where
  | null
  | bool (b : Bool)
  | number (n : Number)
  | string (s : String)
  | array (items : List Json)
  | object (members : List (String × Json))
deriving Repr, Inhabited

/-- The members of an object, in order. -/
abbrev Object := List (String × Json)

/-- Whether a number is within the range of its kind. -/
def Number.WellFormed : Number → Prop
  | .int i => -(minIntMagnitude : Int) ≤ i ∧ i ≤ maxInt
  | .float f => f.isFinite = true

mutual
/-- Whether a value has finite numbers in range and no repeated names. -/
def Json.WellFormed : Json → Prop
  | .number n => n.WellFormed
  | .array items => itemsWellFormed items
  | .object members => (Assoc.keys members).Nodup ∧ membersWellFormed members
  | _ => True

def itemsWellFormed : List Json → Prop
  | [] => True
  | item :: items => item.WellFormed ∧ itemsWellFormed items

def membersWellFormed : List (String × Json) → Prop
  | [] => True
  | (_, value) :: members => value.WellFormed ∧ membersWellFormed members
end

mutual
/-- The greatest number of arrays and objects that are open at once in a value. -/
def Json.depth : Json → Nat
  | .array items => itemsDepth items + 1
  | .object members => membersDepth members + 1
  | _ => 0

def itemsDepth : List Json → Nat
  | [] => 0
  | item :: items => max item.depth (itemsDepth items)

def membersDepth : List (String × Json) → Nat
  | [] => 0
  | (_, value) :: members => max value.depth (membersDepth members)
end

/-! ## Equality of values -/

mutual
/-- Whether two values are the same, up to the order of members. An integer is never the same as
a double. -/
def Json.same : Json → Json → Bool
  | .null, .null => true
  | .bool a, .bool b => a == b
  | .number a, .number b => a.same b
  | .string a, .string b => a == b
  | .array a, .array b => itemsSame a b
  | .object a, .object b => a.length == b.length && membersSame a b
  | _, _ => false

def itemsSame : List Json → List Json → Bool
  | [], [] => true
  | a :: as, b :: bs => a.same b && itemsSame as bs
  | _, _ => false

/-- Whether each member has one of the same name and value among `others`. -/
def membersSame : List (String × Json) → Object → Bool
  | [], _ => true
  | (name, value) :: members, others =>
    (match Assoc.get? name others with
      | some other => value.same other
      | none => false) && membersSame members others
end

mutual
/-- Whether two values are equal without conversion between kinds: numbers by value, arrays item by
item, objects by name whatever the order of their members. -/
def Json.strictEq : Json → Json → Bool
  | .null, .null => true
  | .bool a, .bool b => a == b
  | .number a, .number b => a.strictEq b
  | .string a, .string b => a == b
  | .array a, .array b => itemsStrictEq a b
  | .object a, .object b => a.length == b.length && membersStrictEq a b
  | _, _ => false

/-- Whether two lists of items are strictly equal, one by one. -/
def itemsStrictEq : List Json → List Json → Bool
  | [], [] => true
  | a :: as, b :: bs => a.strictEq b && itemsStrictEq as bs
  | _, _ => false

/-- Whether each member has one of the same name and a strictly equal value among `others`. -/
def membersStrictEq : List (String × Json) → Object → Bool
  | [], _ => true
  | (name, value) :: members, others =>
    (match Assoc.get? name others with
      | some other => value.strictEq other
      | none => false) && membersStrictEq members others
end

end DocStore
