/-!
# JSON values

The values of RFC 8259. A number without fraction and exponent that fits 64 bits is an integer;
every other number is a decimal and keeps its exact value. An object keeps its members as they
were written, and of two members with one key the later one counts.
-/

namespace FederatedCatalog

/-- A number as a JSON text writes it. -/
inductive Json.Number where
  /-- An integer from -2^63 to 2^64 - 1, written without fraction and exponent. -/
  | integer (value : Int)
  /-- Any other number: `significand * 10 ^ exponent`, negated if `negative`. -/
  | decimal (negative : Bool) (significand : Nat) (exponent : Int)
  deriving Repr, DecidableEq, Inhabited

/-- A JSON value. -/
inductive Json where
  | null
  | bool (value : Bool)
  | number (value : Json.Number)
  | string (value : String)
  | array (items : List Json)
  | object (members : List (String × Json))
  deriving Repr, Inhabited

namespace Json

/-- The value of the last member with this key; nothing on values other than objects. -/
def get? (key : String) : Json → Option Json
  | object members => members.reverse.lookup key
  | _ => none

/-- The text of a string value. -/
def string? : Json → Option String
  | string s => some s
  | _ => none

/-- The items of an array. -/
def array? : Json → Option (List Json)
  | array items => some items
  | _ => none

/-- The value of an integer that fits 64 bits without a sign. -/
def natural? : Json → Option UInt64
  | number (.integer n) => if 0 ≤ n ∧ n < UInt64.size then some (UInt64.ofNat n.toNat) else none
  | _ => none

/-- Whether the value is an object. -/
def isObject : Json → Bool
  | object _ => true
  | _ => false

/-- The natural number `n` as a JSON integer. -/
def ofNat (n : Nat) : Json := number (.integer n)

end Json

end FederatedCatalog
