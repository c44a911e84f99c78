import SupplierGateway.Decimal.Shortest

/-!
# JSON values and their text

A number keeps the form in which it can be represented exactly: a natural number or a negative
integer of one machine word, and a double otherwise.  An object keeps its members in the order in
which they are listed, so that a value can be written in whatever order its author chose.

The compact text has no blanks at all; the spread text puts every item and member on a line of its
own, indented by two blanks a level.  Both escape only what the grammar forbids inside a string.
-/

namespace SupplierGateway
namespace Json

/-- A JSON number. -/
inductive Number where
  | natural (n : UInt64)
  | negative (magnitude : UInt64)
  | fraction (x : Float)
deriving DecidableEq, Repr

/-- A JSON value. -/
inductive Value where
  | null
  | bool (b : Bool)
  | number (n : Number)
  | string (s : String)
  | array (items : List Value)
  | object (members : List (String × Value))
deriving Repr

instance : Inhabited Value := ⟨.null⟩

/-- The text of a number. -/
def Number.text : Number → String
  | .natural n => toString n.toNat
  | .negative m => "-" ++ toString m.toNat
  | .fraction x => Decimal.Layout.interchange.text x

/-- The lower-case hexadecimal digit of a number below sixteen. -/
def hexDigit (n : Nat) : Char :=
  if n < 10 then Char.ofNat (48 + n) else Char.ofNat (87 + n)

/-- One character as it stands inside a JSON string. -/
def escapedChar (c : Char) : List Char :=
  if c = '"' then ['\\', '"']
  else if c = '\\' then ['\\', '\\']
  else if c.toNat < 0x20 then
    if c = '\n' then ['\\', 'n']
    else if c = '\r' then ['\\', 'r']
    else if c = '\t' then ['\\', 't']
    else if c = '\x08' then ['\\', 'b']
    else if c = '\x0c' then ['\\', 'f']
    else ['\\', 'u', '0', '0', hexDigit (c.toNat / 16), hexDigit (c.toNat % 16)]
  else [c]

/-- The characters of a string between its quotes. -/
def stringChars (s : String) : List Char :=
  '"' :: s.toList.flatMap escapedChar ++ ['"']

mutual

/-- The compact text of a value, as characters. -/
def Value.compactChars : Value → List Char
  | .null => ['n', 'u', 'l', 'l']
  | .bool true => ['t', 'r', 'u', 'e']
  | .bool false => ['f', 'a', 'l', 's', 'e']
  | .number n => n.text.toList
  | .string s => stringChars s
  | .array items => '[' :: Value.compactItems items ++ [']']
  | .object members => '\x7b' :: Value.compactMembers members ++ ['\x7d']

/-- The items of an array, separated by commas. -/
def Value.compactItems : List Value → List Char
  | [] => []
  | [v] => v.compactChars
  | v :: w :: rest => v.compactChars ++ ',' :: Value.compactItems (w :: rest)

/-- The members of an object, separated by commas. -/
def Value.compactMembers : List (String × Value) → List Char
  | [] => []
  | [(k, v)] => stringChars k ++ ':' :: v.compactChars
  | (k, v) :: m :: rest =>
      stringChars k ++ ':' :: v.compactChars ++ ',' :: Value.compactMembers (m :: rest)

end

/-- The compact text of a value. -/
def Value.compact (v : Value) : String :=
  String.ofList v.compactChars

/-- A line break followed by the blanks of a nesting level. -/
def lineBreak (level : Nat) : List Char :=
  '\n' :: List.replicate (2 * level) ' '

mutual

/-- The spread text of a value that stands at a nesting level, as characters. -/
def Value.spreadChars (level : Nat) : Value → List Char
  | .array (v :: rest) =>
      '[' :: lineBreak (level + 1) ++ v.spreadChars (level + 1) ++
        Value.spreadItems level rest ++ lineBreak level ++ [']']
  | .object ((k, v) :: rest) =>
      '\x7b' :: lineBreak (level + 1) ++ stringChars k ++ ':' :: ' ' ::
        v.spreadChars (level + 1) ++ Value.spreadMembers level rest ++ lineBreak level ++ ['\x7d']
  | .null => Value.compactChars .null
  | .bool b => Value.compactChars (.bool b)
  | .number n => Value.compactChars (.number n)
  | .string s => Value.compactChars (.string s)
  | .array [] => ['[', ']']
  | .object [] => ['\x7b', '\x7d']

/-- The items of an array after its first, each on its own line. -/
def Value.spreadItems (level : Nat) : List Value → List Char
  | [] => []
  | v :: rest =>
      ',' :: lineBreak (level + 1) ++ v.spreadChars (level + 1) ++ Value.spreadItems level rest

/-- The members of an object after its first, each on its own line. -/
def Value.spreadMembers (level : Nat) : List (String × Value) → List Char
  | [] => []
  | (k, v) :: rest =>
      ',' :: lineBreak (level + 1) ++ stringChars k ++ ':' :: ' ' ::
        v.spreadChars (level + 1) ++ Value.spreadMembers level rest

end

/-- The spread text of a value. -/
def Value.spread (v : Value) : String :=
  String.ofList (v.spreadChars 0)

/-- The value of the last member with a name, when the value is an object that has one. -/
def Value.get? (name : String) : Value → Option Value
  | .object members => (members.reverse.find? fun member => member.1 == name).map (·.2)
  | _ => none

/-- The text of a value that is a string. -/
def Value.string? : Value → Option String
  | .string s => some s
  | _ => none

/-- An object member that is left out when there is nothing to write. -/
def member? (name : String) (v : Option Value) : List (String × Value) :=
  match v with
  | some v => [(name, v)]
  | none => []

/-- A natural number of one machine word as a value. -/
def Value.word (n : UInt64) : Value := .number (.natural n)

end Json
end SupplierGateway
