import SupplierGateway.Json.Number

/-!
# Reading JSON text

A text is read into a document by a machine that consumes one character a step.  The machine keeps
a stack of the containers that are still open and the mode in which the next character is read.

A document is faithful to the text: members stay in order and may repeat a name.  Two leaves record
what went wrong.  A *meaningless* leaf is well formed but denotes nothing, such as a number beyond
the range of doubles or a lone surrogate; it does no harm where it is skipped.  A *broken* leaf
marks the place where the text stopped being JSON; nothing is read after it.
-/

namespace SupplierGateway
namespace Json

/-- The document that a text spells, up to the place where it stops being JSON. -/
inductive Doc where
  | null
  | bool (b : Bool)
  | number (n : Number)
  | string (s : String)
  | array (items : List Doc)
  /-- A name is absent when it denotes no text. -/
  | object (members : List (Option String × Doc))
  | meaningless
  | broken
deriving Repr

instance : Inhabited Doc := ⟨.broken⟩

/-- A text read to its end: its document, and whether anything but blanks follows it. -/
structure Document where
  root : Doc
  trailing : Bool
deriving Repr

/-! ## The state of the reader -/

/-- Where the reader stands inside an escape sequence. -/
inductive Escape where
  | outside
  | begun
  | codeUnit (digits : Nat) (value : Nat)
deriving DecidableEq, Repr

/-- A string that is being read.  The characters are in reverse order. -/
structure PartialString where
  chars : List Char
  /-- The first half of a surrogate pair whose second half is still due. -/
  high : Option Nat
  sound : Bool
  escape : Escape
deriving DecidableEq, Repr

/-- Where the reader stands inside a number. -/
inductive NumberPart where
  | sign | zero | whole | point | fraction | mark | markSign | exponent
deriving DecidableEq, Repr

/-- A number that is being read.  All digits are in reverse order. -/
structure PartialNumber where
  part : NumberPart
  negative : Bool
  whole : List Nat
  fraction : List Nat
  down : Bool
  exponent : List Nat
deriving DecidableEq, Repr

/-- A container that is still open.  Contents are in reverse order. -/
inductive Frame where
  | array (items : List Doc)
  | object (members : List (Option String × Doc))
  /-- An object whose next member has its name but not yet its value. -/
  | member (members : List (Option String × Doc)) (name : Option String)
deriving Repr

/-- The modes in which the next character is read. -/
inductive Mode where
  /-- A value is due; the array just opened may also close. -/
  | value (closable : Bool)
  /-- A name is due; the object just opened may also close. -/
  | name (closable : Bool)
  | colon
  /-- A value is complete inside a container. -/
  | after
  | string (isName : Bool) (partialString : PartialString)
  | number (partialNumber : PartialNumber)
  | word (rest : List Char) (doc : Doc)
  /-- The outermost value is complete, or the text is broken. -/
  | closed (doc : Doc) (trailing : Bool)
deriving Repr

/-- The state of the reader. -/
structure Reader where
  stack : List Frame
  mode : Mode
deriving Repr

namespace Reader

/-- The reader before the first character. -/
def start : Reader := { stack := [], mode := .value false }

/-- Closes all open containers around a leaf. -/
def collapse : List Frame → Doc → Doc
  | [], doc => doc
  | .array items :: rest, doc => collapse rest (.array (doc :: items).reverse)
  | .object members :: rest, doc => collapse rest (.object ((none, doc) :: members).reverse)
  | .member members name :: rest, doc => collapse rest (.object ((name, doc) :: members).reverse)

/-- The text is broken here. -/
def fail (stack : List Frame) : Reader :=
  { stack := [], mode := .closed (collapse stack .broken) false }

/-- A value is complete. -/
def complete (stack : List Frame) (doc : Doc) : Reader :=
  match stack with
  | [] => { stack := [], mode := .closed doc false }
  | .array items :: rest => { stack := .array (doc :: items) :: rest, mode := .after }
  | .member members name :: rest =>
      { stack := .object ((name, doc) :: members) :: rest, mode := .after }
  | .object _ :: _ => fail stack

/-- The blanks of JSON. -/
def isSpace (c : Char) : Bool :=
  c == ' ' || c == '\n' || c == '\t' || c == '\r'

/-- The value of a decimal digit. -/
def digit? (c : Char) : Option Nat :=
  if c.isDigit then some (c.toNat - 48) else none

/-- The value of a hexadecimal digit of either case. -/
def hexDigit? (c : Char) : Option Nat :=
  let n := c.toNat
  if 48 ≤ n ∧ n ≤ 57 then some (n - 48)
  else if 65 ≤ n ∧ n ≤ 70 then some (n - 55)
  else if 97 ≤ n ∧ n ≤ 102 then some (n - 87)
  else none

/-! ## Numbers -/

/-- A number of which nothing but its first character has been read. -/
def beginNumber (part : NumberPart) (negative : Bool) (whole : List Nat) : PartialNumber :=
  { part, negative, whole, fraction := [], down := false, exponent := [] }

/-- The number after one more character, when that character continues it. -/
def extendNumber (p : PartialNumber) (c : Char) : Option PartialNumber :=
  match p.part with
  | .sign =>
      match digit? c with
      | some 0 => some { p with part := .zero, whole := [0] }
      | some d => some { p with part := .whole, whole := [d] }
      | none => none
  | .zero =>
      if c = '.' then some { p with part := .point }
      else if c = 'e' ∨ c = 'E' then some { p with part := .mark }
      else none
  | .whole =>
      match digit? c with
      | some d => some { p with whole := d :: p.whole }
      | none =>
          if c = '.' then some { p with part := .point }
          else if c = 'e' ∨ c = 'E' then some { p with part := .mark }
          else none
  | .point =>
      (digit? c).map fun d => { p with part := .fraction, fraction := [d] }
  | .fraction =>
      match digit? c with
      | some d => some { p with fraction := d :: p.fraction }
      | none => if c = 'e' ∨ c = 'E' then some { p with part := .mark } else none
  | .mark =>
      match digit? c with
      | some d => some { p with part := .exponent, exponent := [d] }
      | none =>
          if c = '+' then some { p with part := .markSign }
          else if c = '-' then some { p with part := .markSign, down := true }
          else none
  | .markSign =>
      (digit? c).map fun d => { p with part := .exponent, exponent := [d] }
  | .exponent =>
      (digit? c).map fun d => { p with exponent := d :: p.exponent }

/-- A number may end here. -/
def numberMayEnd (p : PartialNumber) : Bool :=
  match p.part with
  | .zero | .whole | .fraction | .exponent => true
  | .sign | .point | .mark | .markSign => false

/-- A leading zero is not followed by another digit. -/
def numberBreaks (p : PartialNumber) (c : Char) : Bool :=
  !numberMayEnd p || (p.part == .zero && (digit? c).isSome)

/-- The leaf of a finished number. -/
def numberDoc (p : PartialNumber) : Doc :=
  let literal : Literal :=
    { negative := p.negative
      whole := p.whole.reverse
      fraction := p.fraction.reverse
      exponent := if p.exponent.isEmpty then none else some (p.down, p.exponent.reverse) }
  match literal.number? with
  | some n => .number n
  | none => .meaningless

/-! ## Strings -/

/-- A string of which only the opening quote has been read. -/
def beginString : PartialString :=
  { chars := [], high := none, sound := true, escape := .outside }

/-- Adds a character.  A first half of a surrogate pair before it has no second half. -/
def pushChar (p : PartialString) (c : Char) : PartialString :=
  { chars := c :: p.chars, high := none, sound := p.sound && p.high.isNone, escape := .outside }

/-- Adds a code unit that was written as four hexadecimal digits. -/
def pushUnit (p : PartialString) (n : Nat) : PartialString :=
  let isHigh := 0xD800 ≤ n && n < 0xDC00
  let isLow := 0xDC00 ≤ n && n < 0xE000
  match p.high with
  | some h =>
      if isLow then
        { p with
          chars := Char.ofNat (0x10000 + (h - 0xD800) * 0x400 + (n - 0xDC00)) :: p.chars
          high := none
          escape := .outside }
      else { p with high := none, sound := false, escape := .outside }
  | none =>
      if isHigh then { p with high := some n, escape := .outside }
      else if isLow then { p with sound := false, escape := .outside }
      else { p with chars := Char.ofNat n :: p.chars, escape := .outside }

/-- The result of reading one more character of a string. -/
inductive StringStep where
  | more (p : PartialString)
  | finished (s : Option String)
  | broken

/-- The character that a one-letter escape stands for. -/
def shortEscape? (c : Char) : Option Char :=
  if c = '"' ∨ c = '\\' ∨ c = '/' then some c
  else if c = 'b' then some '\x08'
  else if c = 'f' then some '\x0c'
  else if c = 'n' then some '\n'
  else if c = 'r' then some '\r'
  else if c = 't' then some '\t'
  else none

/-- Reads one character of a string. -/
def extendString (p : PartialString) (c : Char) : StringStep :=
  match p.escape with
  | .outside =>
      if c = '"' then
        .finished (if p.sound && p.high.isNone then some (String.ofList p.chars.reverse) else none)
      else if c = '\\' then .more { p with escape := .begun }
      else if c.toNat < 0x20 then .broken
      else .more (pushChar p c)
  | .begun =>
      if c = 'u' then .more { p with escape := .codeUnit 0 0 }
      else
        match shortEscape? c with
        | some d => .more (pushChar p d)
        | none => .broken
  | .codeUnit digits value =>
      match hexDigit? c with
      | none => .broken
      | some d =>
          let next := 16 * value + d
          if digits = 3 then .more (pushUnit p next)
          else .more { p with escape := .codeUnit (digits + 1) next }

/-! ## One step -/

/-- Reads the first character of a value. -/
def beginValue (stack : List Frame) (c : Char) : Reader :=
  if c = '"' then { stack, mode := .string false beginString }
  else if c = '[' then { stack := .array [] :: stack, mode := .value true }
  else if c = '\x7b' then { stack := .object [] :: stack, mode := .name true }
  else if c = 't' then { stack, mode := .word ['r', 'u', 'e'] (.bool true) }
  else if c = 'f' then { stack, mode := .word ['a', 'l', 's', 'e'] (.bool false) }
  else if c = 'n' then { stack, mode := .word ['u', 'l', 'l'] .null }
  else if c = '-' then { stack, mode := .number (beginNumber .sign true []) }
  else
    match digit? c with
    | some 0 => { stack, mode := .number (beginNumber .zero false [0]) }
    | some d => { stack, mode := .number (beginNumber .whole false [d]) }
    | none => fail stack

/-- Reads a character after a complete value. -/
def afterValue (reader : Reader) (c : Char) : Reader :=
  match reader.mode with
  | .closed doc trailing => { stack := [], mode := .closed doc (trailing || !isSpace c) }
  | _ =>
      if isSpace c then reader
      else
        match reader.stack with
        | .array items :: rest =>
            if c = ',' then { reader with mode := .value false }
            else if c = ']' then complete rest (.array items.reverse)
            else fail reader.stack
        | .object members :: rest =>
            if c = ',' then { reader with mode := .name false }
            else if c = '\x7d' then complete rest (.object members.reverse)
            else fail reader.stack
        | stack => fail stack

/-- Reads one character. -/
def step (reader : Reader) (c : Char) : Reader :=
  match reader.mode with
  | .closed .. => afterValue reader c
  | .after => afterValue reader c
  | .value closable =>
      if isSpace c then reader
      else if closable && c = ']' then
        match reader.stack with
        | .array items :: rest => complete rest (.array items.reverse)
        | stack => fail stack
      else beginValue reader.stack c
  | .name closable =>
      if isSpace c then reader
      else if c = '"' then { reader with mode := .string true beginString }
      else if closable && c = '\x7d' then
        match reader.stack with
        | .object members :: rest => complete rest (.object members.reverse)
        | stack => fail stack
      else fail reader.stack
  | .colon =>
      if isSpace c then reader
      else if c = ':' then { reader with mode := .value false }
      else fail reader.stack
  | .word [] _ => fail reader.stack
  | .word (d :: rest) doc =>
      if c = d then
        match rest with
        | [] => complete reader.stack doc
        | _ :: _ => { reader with mode := .word rest doc }
      else fail reader.stack
  | .number p =>
      match extendNumber p c with
      | some next => { reader with mode := .number next }
      | none =>
          if numberBreaks p c then fail reader.stack
          else afterValue (complete reader.stack (numberDoc p)) c
  | .string isName p =>
      match extendString p c with
      | .more next => { reader with mode := .string isName next }
      | .broken => fail reader.stack
      | .finished s =>
          if isName then
            match reader.stack with
            | .object members :: rest =>
                { stack := .member members s :: rest, mode := .colon }
            | stack => fail stack
          else complete reader.stack (s.elim .meaningless .string)

/-- The document that has been read when the text ends. -/
def finish (reader : Reader) : Document :=
  let last :=
    match reader.mode with
    | .number p =>
        if numberMayEnd p then complete reader.stack (numberDoc p) else fail reader.stack
    | _ => reader
  match last.mode with
  | .closed root trailing => { root, trailing }
  | _ => { root := collapse last.stack .broken, trailing := false }

end Reader

/-- Reads a text. -/
def Document.read (s : String) : Document :=
  (s.toList.foldl Reader.step Reader.start).finish

/-! ## From documents to values -/

mutual

/-- Nothing inside a document is broken. -/
def Doc.intact : Doc → Bool
  | .broken => false
  | .array items => Doc.itemsIntact items
  | .object members => Doc.membersIntact members
  | .null | .bool _ | .number _ | .string _ | .meaningless => true

/-- Nothing inside the items is broken. -/
def Doc.itemsIntact : List Doc → Bool
  | [] => true
  | d :: rest => d.intact && Doc.itemsIntact rest

/-- Nothing inside the members is broken. -/
def Doc.membersIntact : List (Option String × Doc) → Bool
  | [] => true
  | (_, d) :: rest => d.intact && Doc.membersIntact rest

end

/-- Puts a member into a list of members that ascends by name, in place of any of that name. -/
def insertMember (name : String) (v : Value) : List (String × Value) → List (String × Value)
  | [] => [(name, v)]
  | (k, w) :: rest =>
      if name < k then (name, v) :: (k, w) :: rest
      else if name = k then (name, v) :: rest
      else (k, w) :: insertMember name v rest

/-- Members by ascending name, the last of each name. -/
def sortMembers (members : List (String × Value)) : List (String × Value) :=
  members.foldl (fun sorted member => insertMember member.1 member.2 sorted) []

mutual

/-- A value with the members of all its objects sorted. -/
def Value.sorted : Value → Value
  | .array items => .array (Value.sortedItems items)
  | .object members => .object (sortMembers (Value.sortedMembers members))
  | v => v

/-- The items of an array with their members sorted. -/
def Value.sortedItems : List Value → List Value
  | [] => []
  | v :: rest => v.sorted :: Value.sortedItems rest

/-- The members of an object, with the members of their values sorted. -/
def Value.sortedMembers : List (String × Value) → List (String × Value)
  | [] => []
  | (k, v) :: rest => (k, v.sorted) :: Value.sortedMembers rest

end

/-- The deepest nesting of containers that is read. -/
def nestingLimit : Nat := 127

mutual

/-- The value that a document denotes, when it is nested at most `room` deep.  Members are sorted
by name, and of members with one name the last counts. -/
def Doc.value? : Nat → Doc → Option Value
  | _, .null => some .null
  | _, .bool b => some (.bool b)
  | _, .number n => some (.number n)
  | _, .string s => some (.string s)
  | 0, .array _ => none
  | room + 1, .array items => (Doc.itemValues? room items).map .array
  | 0, .object _ => none
  | room + 1, .object members => (Doc.memberValues? room members).map (.object ∘ sortMembers)
  | _, .meaningless => none
  | _, .broken => none

/-- The values of the items. -/
def Doc.itemValues? (room : Nat) : List Doc → Option (List Value)
  | [] => some []
  | d :: rest =>
      match d.value? room, Doc.itemValues? room rest with
      | some v, some values => some (v :: values)
      | _, _ => none

/-- The names and values of the members, in order. -/
def Doc.memberValues? (room : Nat) :
    List (Option String × Doc) → Option (List (String × Value))
  | [] => some []
  | (name, d) :: rest =>
      match name, d.value? room, Doc.memberValues? room rest with
      | some k, some v, some values => some ((k, v) :: values)
      | _, _, _ => none

end

mutual

/-- A value as a document that denotes it. -/
def Value.doc : Value → Doc
  | .null => .null
  | .bool b => .bool b
  | .number n => .number n
  | .string s => .string s
  | .array items => .array (Value.itemDocs items)
  | .object members => .object (Value.memberDocs members)

/-- The items of an array as documents. -/
def Value.itemDocs : List Value → List Doc
  | [] => []
  | v :: rest => v.doc :: Value.itemDocs rest

/-- The members of an object as documents. -/
def Value.memberDocs : List (String × Value) → List (Option String × Doc)
  | [] => []
  | (k, v) :: rest => (some k, v.doc) :: Value.memberDocs rest

end

/-- The value that a text denotes, if it is JSON. -/
def Value.parse? (s : String) : Option Value :=
  let document := Document.read s
  if document.trailing then none else document.root.value? nestingLimit

end Json
end SupplierGateway
