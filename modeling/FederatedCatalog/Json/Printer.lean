import FederatedCatalog.Json.Basic

/-!
# Writing JSON

The compact text of a value: no spaces, members in the order of the object, and in strings only
the quote, the backslash and the characters below U+0020 escaped.
-/

namespace FederatedCatalog.Json

/-- A hexadecimal digit in lower case. -/
def hexChar (n : Nat) : Char := if n < 10 then Char.ofNat (48 + n) else Char.ofNat (87 + n)

/-- A character inside a string. -/
def escape (c : Char) : List Char :=
  if c = '"' then ['\\', '"']
  else if c = '\\' then ['\\', '\\']
  else if c = '\x08' then ['\\', 'b']
  else if c = '\t' then ['\\', 't']
  else if c = '\n' then ['\\', 'n']
  else if c = '\x0c' then ['\\', 'f']
  else if c = '\r' then ['\\', 'r']
  else if c.toNat < 0x20 then ['\\', 'u', '0', '0', hexChar (c.toNat / 16), hexChar (c.toNat % 16)]
  else [c]

/-- A string between quotes. -/
def quote (s : String) : List Char := '"' :: (s.toList.flatMap escape ++ ['"'])

/-- The digits of a natural number. -/
def natChars (n : Nat) : List Char := Nat.toDigits 10 n

/-- An integer, with a minus sign when it is negative. -/
def intChars : Int → List Char
  | .ofNat n => natChars n
  | .negSucc n => '-' :: natChars (n + 1)

/-- A number. -/
def Number.chars : Number → List Char
  | .integer n => intChars n
  | .decimal negative significand exponent =>
    (if negative then ['-'] else []) ++ natChars significand ++ 'e' :: intChars exponent

mutual

/-- The characters of a value. -/
def chars : Json → List Char
  | null => ['n', 'u', 'l', 'l']
  | bool true => ['t', 'r', 'u', 'e']
  | bool false => ['f', 'a', 'l', 's', 'e']
  | number n => n.chars
  | string s => quote s
  | array [] => ['[', ']']
  | array (v :: vs) => '[' :: (chars v ++ itemChars vs ++ [']'])
  | object [] => ['\x7b', '\x7d']
  | object ((k, v) :: ms) => '\x7b' :: (quote k ++ ':' :: chars v ++ memberChars ms ++ ['\x7d'])

/-- The items after the first, each behind a comma. -/
def itemChars : List Json → List Char
  | [] => []
  | v :: vs => ',' :: (chars v ++ itemChars vs)

/-- The members after the first, each behind a comma. -/
def memberChars : List (String × Json) → List Char
  | [] => []
  | (k, v) :: ms => ',' :: (quote k ++ ':' :: chars v ++ memberChars ms)

end

/-- The compact text of a value. -/
def render (v : Json) : String := String.ofList (chars v)

end FederatedCatalog.Json
