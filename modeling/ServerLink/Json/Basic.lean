import ServerLink.Assoc
import ServerLink.Decimal.Binary64

namespace ServerLink

inductive Json.Number where
  /-- An integer from `-2 ^ 63` to `2 ^ 64 - 1`. -/
  | integer (n : Int)
  | float (x : Binary64)
  deriving DecidableEq, Repr, Inhabited

inductive Json where
  | null
  | bool (b : Bool)
  | number (n : Json.Number)
  | string (s : String)
  | array (items : List Json)
  | object (fields : List (String × Json))
  deriving Repr, Inhabited

namespace Json

def int (n : Int) : Json :=
  .number (.integer n)

def nat (n : Nat) : Json :=
  .int n

/-- An object with the given members; of several with one key the last stays. -/
def ofFields (fields : List (String × Json)) : Json :=
  .object (Assoc.ofList fields)

def ofOption (j : Option Json) : Json :=
  j.getD .null

def get? (key : String) : Json → Option Json
  | .object fields => Assoc.find? key fields
  | _ => none

theorem get?_ofFields (key : String) (fields : List (String × Json)) :
    (ofFields fields).get? key = Assoc.find? key fields.reverse :=
  Assoc.find?_ofList key fields

def fields? : Json → Option (List (String × Json))
  | .object fields => some fields
  | _ => none

def items? : Json → Option (List Json)
  | .array items => some items
  | _ => none

def string? : Json → Option String
  | .string s => some s
  | _ => none

def bool? : Json → Option Bool
  | .bool b => some b
  | _ => none

/-- The value of an integer that is not negative. -/
def nat? : Json → Option Nat
  | .number (.integer n) => if 0 ≤ n then some n.toNat else none
  | _ => none

def int? : Json → Option Int
  | .number (.integer n) => some n
  | _ => none

def isNull : Json → Bool
  | .null => true
  | _ => false

def natBelow? (bound : Nat) (j : Json) : Option Nat :=
  j.nat?.filter (· < bound)

/-- The values of the named members of a record, each absent or present. A record is an object,
whose other members do not count, or an array of the first of the named members in order. With
`surplus`, the array may hold more than the members. -/
def record? (surplus : Bool) (names : List String) : Json → Option (List (Option Json))
  | .object fields => some (names.map (Assoc.find? · fields))
  | .array items =>
      if surplus || items.length ≤ names.length then
        some ((items.take names.length).map some ++
          List.replicate (names.length - items.length) none)
      else none
  | _ => none

theorem length_record? {surplus : Bool} {names : List String} {j : Json}
    {values : List (Option Json)} (h : record? surplus names j = some values) :
    values.length = names.length := by
  unfold record? at h
  split at h
  · simp only [Option.some.injEq] at h
    simp [← h]
  · split at h
    · simp only [Option.some.injEq] at h
      rw [← h]
      simp only [List.length_append, List.length_map, List.length_take, List.length_replicate]
      omega
    · simp at h
  · simp at h

end Json

end ServerLink
