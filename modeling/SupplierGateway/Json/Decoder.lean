import SupplierGateway.Json.Document
import SupplierGateway.Text.Quoted

/-!
# Typed reading of JSON documents

A decoder turns a document into a value of some type or names the first fault in the order of the
document.  A record is declared field by field; the declaration serves both for objects, whose
members may come in any order, and for arrays, which list the fields in order of declaration.

Documents are met in three forms.  In the *text* form a document is read as it stands, members may
repeat and syntax faults are still to be found.  In the *tree* form it stands for a value that was
read completely before, so each name occurs once, in ascending order.  In the *buffered* form the
contents of a tagged record were read completely before its tag decided their type.
-/

namespace SupplierGateway
namespace Json

/-- The reasons for which a document is not of the expected type. -/
inductive Fault where
  /-- The text is not JSON, or it denotes nothing. -/
  | malformed
  | missingField (name : String)
  | duplicateField (name : String)
  | unknownField (name : String) (known : List String)
  | wrongType (found : String) (expected : String)
  | outOfRange (found : String) (expected : String)
  | unknownVariant (name : String) (known : List String)
  | wrongLength (length : Nat) (expected : String)
  | rejected (reason : String)
  /-- Reading crashes with a text, instead of reporting a fault. -/
  | abandoned (reason : String)
deriving DecidableEq, Repr

/-- A name between backquotes. -/
def backquoted (name : String) : String := "`" ++ name ++ "`"

/-- The text of a fault.  A syntax fault does not say where it was found. -/
def Fault.message : Fault → String
  | .malformed => "<syntax>"
  | .missingField name => "missing field " ++ backquoted name
  | .duplicateField name => "duplicate field " ++ backquoted name
  | .unknownField name known =>
      "unknown field " ++ backquoted name ++ ", expected " ++
        String.intercalate " or " (known.map backquoted)
  | .wrongType found expected => "invalid type: " ++ found ++ ", expected " ++ expected
  | .outOfRange found expected => "invalid value: " ++ found ++ ", expected " ++ expected
  | .unknownVariant name known =>
      "unknown variant " ++ backquoted name ++ ", expected one of " ++
        String.intercalate ", " (known.map backquoted)
  | .wrongLength length expected =>
      "invalid length " ++ toString length ++ ", expected " ++ expected
  | .rejected reason => reason
  | .abandoned reason => reason

/-- The form in which a document is met. -/
inductive Form where
  | text | tree | buffered
deriving DecidableEq, Repr

/-- The circumstances of a reading: the form of the document, and how many containers may still
be entered on the way down. -/
structure Reading where
  form : Form
  room : Nat
deriving DecidableEq, Repr

/-- Reads a document as a value of type `α`. -/
def Decoder (α : Type) : Type := Reading → Doc → Except Fault α

/-- The description of a document in faults. -/
def Doc.describe : Doc → String
  | .null => "null"
  | .bool b => "boolean " ++ backquoted (if b then "true" else "false")
  | .number (.fraction x) => "floating point " ++ backquoted (Number.text (.fraction x))
  | .number n => "integer " ++ backquoted n.text
  | .string s => "string " ++ Text.quoted s
  | .array _ => "sequence"
  | .object _ => "map"
  | .meaningless => "nothing"
  | .broken => "nothing"

/-- The fault of a document of another type than expected. -/
def mismatch (doc : Doc) (expected : String) : Fault :=
  match doc with
  | .meaningless | .broken => .malformed
  | d => .wrongType d.describe expected

/-- The reading of the contents of a container. -/
def Reading.enter (r : Reading) : Except Fault Reading :=
  match r.room with
  | 0 => .error .malformed
  | room + 1 => .ok { r with room }

namespace Decoder

/-- Reads a JSON text. -/
def ofText {α : Type} (d : Decoder α) (s : String) : Except Fault α := do
  let document := Document.read s
  let a ← d { form := .text, room := nestingLimit } document.root
  if document.trailing then .error .malformed else .ok a

/-- Reads a value that has been read before. -/
def ofValue {α : Type} (d : Decoder α) (v : Value) : Except Fault α :=
  d { form := .tree, room := nestingLimit } v.doc

/-- Reads with one decoder and continues with a function that may still reject. -/
def refine {α β : Type} (d : Decoder α) (f : α → Except Fault β) : Decoder β :=
  fun r doc => (d r doc).bind f

/-- Applies a function to the value that is read. -/
def map {α β : Type} (f : α → β) (d : Decoder α) : Decoder β :=
  fun r doc => (d r doc).map f

/-! ## Scalars -/

/-- Any value at all. -/
def value : Decoder Value := fun r doc =>
  match doc.value? r.room with
  | some v => .ok v
  | none => .error .malformed

/-- A string. -/
def string : Decoder String := fun _ doc =>
  match doc with
  | .string s => .ok s
  | d => .error (mismatch d "a string")

@[simp] theorem string_doc (r : Reading) (s : String) : string r (Value.string s).doc = .ok s := by
  simp [string, Value.doc]

/-- A truth value. -/
def bool : Decoder Bool := fun _ doc =>
  match doc with
  | .bool b => .ok b
  | d => .error (mismatch d "a boolean")

@[simp] theorem bool_doc (r : Reading) (b : Bool) : bool r (Value.bool b).doc = .ok b := by
  simp [bool, Value.doc]

/-- A double, which may be written as an integer. -/
def double : Decoder Float := fun _ doc =>
  match doc with
  | .number (.fraction x) => .ok x
  | .number (.natural n) => .ok n.toFloat
  | .number (.negative m) => .ok (-m.toFloat)
  | d => .error (mismatch d "f64")

/-- A natural number below a limit, named for its type in faults. -/
def naturalBelow (limit : Nat) (typeName : String) : Decoder Nat := fun _ doc =>
  match doc with
  | .number (.natural n) =>
      if n.toNat < limit then .ok n.toNat
      else .error (.outOfRange doc.describe typeName)
  | .number (.negative _) => .error (.outOfRange doc.describe typeName)
  | d => .error (mismatch d typeName)

/-- A natural number of 64 bits. -/
def word64 : Decoder UInt64 := map UInt64.ofNat (naturalBelow UInt64.size "u64")

/-- A count, which has 64 bits. -/
def count : Decoder UInt64 := map UInt64.ofNat (naturalBelow UInt64.size "usize")

/-- A natural number of 32 bits. -/
def word32 : Decoder UInt32 := map UInt32.ofNat (naturalBelow UInt32.size "u32")

/-- A natural number of 8 bits. -/
def word8 : Decoder UInt8 := map UInt8.ofNat (naturalBelow UInt8.size "u8")

/-- A number below the limit is read as its image under the function of the decoder. -/
theorem map_naturalBelow_doc {α : Type} (f : Nat → α) (typeName : String) (r : Reading)
    {limit : Nat} {n : UInt64} (hlt : n.toNat < limit) :
    map f (naturalBelow limit typeName) r (Value.word n).doc = .ok (f n.toNat) := by
  simp [map, naturalBelow, Value.word, Value.doc, hlt, Except.map]

@[simp] theorem word64_doc (r : Reading) (n : UInt64) : word64 r (Value.word n).doc = .ok n := by
  rw [word64, map_naturalBelow_doc _ _ _ n.toNat_lt, UInt64.ofNat_toNat]

@[simp] theorem count_doc (r : Reading) (n : UInt64) : count r (Value.word n).doc = .ok n := by
  rw [count, map_naturalBelow_doc _ _ _ n.toNat_lt, UInt64.ofNat_toNat]

@[simp] theorem word32_doc (r : Reading) (n : UInt32) :
    word32 r (Value.word n.toUInt64).doc = .ok n := by
  rw [word32, map_naturalBelow_doc _ _ _ n.toNat_lt, UInt32.toNat_toUInt64, UInt32.ofNat_toNat]

@[simp] theorem word8_doc (r : Reading) (n : UInt8) :
    word8 r (Value.word n.toUInt64).doc = .ok n := by
  rw [word8, map_naturalBelow_doc _ _ _ n.toNat_lt, UInt8.toNat_toUInt64, UInt8.ofNat_toNat]

/-- The null value. -/
def unit : Decoder Unit := fun _ doc =>
  match doc with
  | .null => .ok ()
  | d => .error (mismatch d "unit")

/-! ## Containers -/

/-- Null, or a document that another decoder reads. -/
def nullable {α : Type} (d : Decoder α) : Decoder (Option α) := fun r doc =>
  match doc with
  | .null => .ok none
  | doc => (d r doc).map some

/-- A decoder that admits null reads a number as the decoder without null does. -/
theorem nullable_doc {α : Type} {d : Decoder α} {r : Reading} {n : UInt64} {a : α}
    (hread : d r (Value.word n).doc = .ok a) : d.nullable r (Value.word n).doc = .ok (some a) :=
  congrArg (Except.map some) hread

/-- An array of items of one type. -/
def list {α : Type} (d : Decoder α) : Decoder (List α) := fun r doc =>
  match doc with
  | .array items => do
      let inner ← r.enter
      items.mapM (d inner)
  | doc => .error (mismatch doc "a sequence")

/-- The names and values of an object, in order. -/
def readEntries {κ α : Type} (key : String → Except Fault κ) (d : Decoder α) (r : Reading) :
    List (Option String × Doc) → Except Fault (List (κ × α))
  | [] => .ok []
  | (none, _) :: _ => .error .malformed
  | (some name, doc) :: rest => do
      let k ← key name
      let v ← d r doc
      let entries ← readEntries key d r rest
      .ok ((k, v) :: entries)

/-- An object as a list of entries, in the order in which they are met. -/
def entries {κ α : Type} (key : String → Except Fault κ) (d : Decoder α) :
    Decoder (List (κ × α)) := fun r doc =>
  match doc with
  | .object members => do
      let inner ← r.enter
      readEntries key d inner members
  | doc => .error (mismatch doc "a map")

/-! ## Variants -/

/-- The variant of a name, when `other` does not take the names that are not listed. -/
def variantOf {α : Type} (variants : List (String × α)) (other : Option α) (name : String) :
    Except Fault α :=
  match variants.lookup name, other with
  | some a, _ => .ok a
  | none, some a => .ok a
  | none, none => .error (.unknownVariant name (variants.map (·.1)))

/-- One of a list of named variants, given by its name or by an object whose only member has that
name and is null. -/
def variant {α : Type} (variants : List (String × α)) (other : Option α) : Decoder α :=
  fun r doc =>
    match doc with
    | .string s => variantOf variants other s
    | .object members =>
        match r.form, members with
        | .tree, [(some name, d)] => do
            let a ← variantOf variants other name
            let _ ← unit r d
            .ok a
        | .tree, _ => .error (.outOfRange doc.describe "map with a single key")
        | _, (some name, d) :: rest => do
            let inner ← r.enter
            let a ← variantOf variants other name
            let _ ← unit inner d
            if rest.isEmpty then .ok a else .error .malformed
        | _, _ => .error .malformed
    | doc =>
        match r.form with
        | .tree => .error (mismatch doc "string or map")
        | _ => .error .malformed

end Decoder

/-! ## Records -/

/-- A declared field: its name, and the check of its document. -/
structure Rule where
  name : String
  check : Reading → Doc → Except Fault Unit

/-- The declaration of the fields of a record.  The fields are checked in the order in which they
are met, and the record is built from them afterwards. -/
structure Fields (α : Type) where
  rules : List Rule
  /-- Builds the record, given the fault of a field that is missing and the documents of the
  others. -/
  build : Reading → (String → Fault) → (String → Option Doc) → Except Fault α

namespace Fields

instance : Applicative Fields where
  pure a := { rules := [], build := fun _ _ _ => .ok a }
  seq f x :=
    { rules := f.rules ++ (x ()).rules
      build := fun r missing find => do
        let g ← f.build r missing find
        let a ← (x ()).build r missing find
        .ok (g a) }

/-- A field that may be missing if there is a value to take in its place. -/
def field {α : Type} (name : String) (d : Decoder α) (default : Option α) : Fields α :=
  { rules := [{ name, check := fun r doc => (d r doc).map fun _ => () }]
    build := fun r missing find =>
      match find name, default with
      | some doc, _ => d r doc
      | none, some a => .ok a
      | none, none => .error (missing name) }

/-- A field that must be present. -/
def required {α : Type} (name : String) (d : Decoder α) : Fields α := field name d none

/-- A field that has a value of its own when it is missing. -/
def defaulting {α : Type} (name : String) (d : Decoder α) (a : α) : Fields α :=
  field name d (some a)

/-- A field that may be missing or null. -/
def optional {α : Type} (name : String) (d : Decoder α) : Fields (Option α) :=
  field name d.nullable (some none)

end Fields

/-- The name of a record in faults, and whether it tolerates names that it does not declare. -/
structure RecordName where
  expected : String
  expectedLength : String
  tolerant : Bool

/-- Checks the members of an object in order. -/
def checkMembers (rules : List Rule) (tolerant : Bool) (r : Reading) :
    List String → List (Option String × Doc) → Except Fault Unit
  | _, [] => .ok ()
  | _, (none, _) :: _ => .error .malformed
  | seen, (some name, doc) :: rest =>
      match rules.find? fun rule => rule.name == name with
      | some rule =>
          if seen.contains name then .error (.duplicateField name)
          else do
            rule.check r doc
            checkMembers rules tolerant r (name :: seen) rest
      | none =>
          if !tolerant then .error (.unknownField name (rules.map (·.name)))
          else if doc.intact then checkMembers rules tolerant r seen rest
          else .error .malformed

/-- Checks the items of an array against the fields in order, and gives the items that are left
over. -/
def checkItems (r : Reading) : List Rule → List Doc → Except Fault (List Doc)
  | [], extra => .ok extra
  | _, [] => .ok []
  | rule :: rules, doc :: rest => do
      rule.check r doc
      checkItems r rules rest

/-- A count of elements in words. -/
def elements (n : Nat) : String :=
  if n = 1 then "1 element" else toString n ++ " elements"

/-- The fault of an array that lists more items than there are fields. -/
def tooManyItems (form : Form) (fields items : Nat) : Fault :=
  match form with
  | .text => .malformed
  | .tree => .wrongLength items "fewer elements in array"
  | .buffered => .wrongLength items (elements fields ++ " in sequence")

/-- Reads a record as its fields declare. -/
def Fields.decoder {α : Type} (f : Fields α) (name : RecordName) : Decoder α := fun r doc =>
  match doc with
  | .object members => do
      let inner ← r.enter
      checkMembers f.rules name.tolerant inner [] members
      f.build inner .missingField fun field =>
        (members.find? fun member => member.1 == some field).map (·.2)
  | .array items => do
      let inner ← r.enter
      let extra ← checkItems inner f.rules items
      let names := f.rules.map (·.name)
      let missing := fun field => Fault.wrongLength (names.idxOf field) name.expectedLength
      let a ← f.build inner missing fun field => (names.zip items).lookup field
      if extra.isEmpty then .ok a
      else .error (tooManyItems r.form f.rules.length items.length)
  | doc => .error (mismatch doc name.expected)

/-- A record that ignores the members it does not declare. -/
def Fields.record {α : Type} (f : Fields α) (name : String) : Decoder α :=
  let expected := "struct " ++ name
  f.decoder
    { expected
      expectedLength := expected ++ " with " ++ elements f.rules.length
      tolerant := true }

end Json
end SupplierGateway
