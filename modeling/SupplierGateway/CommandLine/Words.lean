import SupplierGateway.Config.Load

/-!
# Words of a command line

The words of a command line are options, operands and the name of a command, which has words of its
own.  An option is written `--name value` or `--name=value`, a flag `--name`, and after `--` all
words are operands.  An option may be given once.

A value is checked only when the next option or operand is met or the words end, so that of two
faults the later word may be reported first.  The answer to `--help` takes precedence over every
fault of a value that has not been checked until then.
-/

namespace SupplierGateway
namespace CommandLine

/-- The reasons for which no command is carried out. -/
inductive Halt where
  | usage
  | help
  | version
deriving DecidableEq, Repr

/-- The forms that values of options must have. -/
inductive Shape where
  | text
  /-- A text that is not empty. -/
  | path
  | milliseconds
  | age
deriving DecidableEq, Repr

/-- Reads a number of milliseconds. -/
def readMilliseconds (text : String) : Option UInt64 :=
  match Config.readNumeral UInt64.size text with
  | .ok n => some (UInt64.ofNat n)
  | .error _ => none

/-- Reads an age: a natural number below 256, or zero with a minus sign. -/
def readAge (text : String) : Option UInt8 :=
  match text.toList with
  | '-' :: c :: rest =>
      match Config.readDigits 1 0 (c :: rest) with
      | .ok _ => some 0
      | .error _ => none
  | _ =>
      match Config.readNumeral 256 text with
      | .ok n => some (UInt8.ofNat n)
      | .error _ => none

/-- A text is of a shape. -/
def Shape.admits (text : String) : Shape → Bool
  | Shape.text => true
  | path => !text.isEmpty
  | milliseconds => (readMilliseconds text).isSome
  | age => (readAge text).isSome

/-- The words that may be given. -/
structure Grammar where
  /-- The options by name with the shapes of their values; a flag has none. -/
  options : List (String × Option Shape)
  /-- The number of operands that are admitted. -/
  operands : Nat := 0
  commands : List String := []
  /-- The option for the version is admitted. -/
  version : Bool := false
deriving Repr

/-- The options and operands that were found. -/
structure Found where
  /-- The options that were given with their values; the value of a flag is empty. -/
  options : List (String × String) := []
  operands : List String := []
deriving DecidableEq, Repr

namespace Found

/-- The value of an option. -/
def value? (f : Found) (name : String) : Option String := f.options.lookup name

/-- The value of an option that is required. -/
def require (f : Found) (name : String) : Except Halt String :=
  match f.value? name with
  | some value => .ok value
  | none => .error .usage

end Found

/-- An option whose value has not been checked. -/
inductive Unsettled where
  | nothing
  /-- An option whose value is still to come. -/
  | awaiting (name : String)
  | given (name value : String)
deriving DecidableEq, Repr

/-- The state of reading words. -/
structure Scan where
  found : Found := {}
  unsettled : Unsettled := .nothing
  /-- All words that follow are operands. -/
  literal : Bool := false
deriving DecidableEq, Repr

/-- The kinds of words. -/
inductive Word where
  | separator
  | long (name : String) (value : Option String)
  /-- A hyphen with something else after it. -/
  | short (first : Char)
  | plain
deriving DecidableEq, Repr

/-- The kind of a word. -/
def Word.of (text : String) : Word :=
  match text.toList with
  | ['-', '-'] => .separator
  | '-' :: '-' :: rest =>
      let name := String.ofList (rest.takeWhile (· != '='))
      match rest.dropWhile (· != '=') with
      | [] => .long name none
      | _ :: value => .long name (some (String.ofList value))
  | '-' :: c :: _ => .short c
  | _ => .plain

namespace Scan

/-- Takes an option with its value. -/
def take (g : Grammar) (s : Scan) (name value : String) : Except Halt Scan :=
  match g.options.lookup name with
  | some shape =>
      if (s.found.value? name).isSome || !(shape.all (Shape.admits value)) then .error .usage
      else .ok { s with found := { s.found with options := s.found.options ++ [(name, value)] } }
  | none => .error .usage

/-- Checks the option whose value has not been checked. -/
def settle (g : Grammar) (s : Scan) : Except Halt Scan :=
  match s.unsettled with
  | .nothing => .ok s
  | .awaiting _ => .error .usage
  | .given name value => { s with unsettled := .nothing }.take g name value

/-- Ends the reading by a request for help or for the version, once the pending value is checked. -/
def demand (g : Grammar) (s : Scan) (h : Halt) : Except Halt Scan := do
  let _ ← s.settle g
  .error h

/-- Reads a long option. -/
def long (g : Grammar) (s : Scan) (name : String) (value : Option String) : Except Halt Scan :=
  match g.options.lookup name, value with
  | some none, none => do (← s.settle g).take g name ""
  | some (some _), none => do .ok { ← s.settle g with unsettled := .awaiting name }
  | some (some _), some value => do (← s.settle g).take g name value
  | some none, some _ => .error .usage
  | none, none =>
      if name = "help" then s.demand g .help
      else if name = "version" && g.version then s.demand g .version
      else .error .usage
  | none, some _ => .error .usage

/-- Reads short options, of which the first decides. -/
def short (g : Grammar) (s : Scan) (first : Char) : Except Halt Scan :=
  if first = 'h' then s.demand g .help
  else if first = 'V' && g.version then s.demand g .version
  else .error .usage

/-- Reads an operand. -/
def operand (g : Grammar) (s : Scan) (text : String) : Except Halt Scan := do
  let settled ← s.settle g
  if settled.found.operands.length < g.operands then
    .ok
      { settled with
        found := { settled.found with operands := settled.found.operands ++ [text] } }
  else .error .usage

/-- Reads a word that is not the name of a command. -/
def word (g : Grammar) (s : Scan) (text : String) : Except Halt Scan :=
  if s.literal then s.operand g text
  else
    match Word.of text, s.unsettled with
    | .separator, _ => .ok { s with literal := true }
    | .long name value, _ => s.long g name value
    | .short c, _ => s.short g c
    | .plain, .awaiting name => .ok { s with unsettled := .given name text }
    | .plain, _ => s.operand g text

/-- A word is the name of a command. -/
def isCommand (g : Grammar) (s : Scan) (text : String) : Bool :=
  !s.literal && g.commands.contains text &&
    match s.unsettled with
    | .awaiting _ => false
    | .nothing | .given .. => true

/-- Reads words to their end, or up to the name of a command, which is given with the words that
follow it. -/
def words (g : Grammar) : Scan → List String → Except Halt (Scan × Option (String × List String))
  | s, [] => .ok (s, none)
  | s, text :: rest =>
      if s.isCommand g text then .ok (s, some (text, rest))
      else
        match s.word g text with
        | .ok next => words g next rest
        | .error h => .error h

end Scan
end CommandLine
end SupplierGateway
