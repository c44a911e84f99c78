import SupplierGateway.Failure

/-!
# Results and attempts

A result is a value or an error; equality of results is decided by that of values and errors.  An
attempt succeeds with a value, fails with a failure that can be reported, or crashes.  A crash ends
the task in which it occurs and is known by its text only.  Its payload need not be a text, and then
a fixed phrase stands for it.
-/

namespace SupplierGateway

instance instDecidableEqResult {ε α : Type} [DecidableEq ε] [DecidableEq α] :
    DecidableEq (Except ε α)
  | .ok a, .ok b =>
      if h : a = b then .isTrue (h ▸ rfl) else .isFalse fun heq => h (Except.ok.inj heq)
  | .error e, .error f =>
      if h : e = f then .isTrue (h ▸ rfl) else .isFalse fun heq => h (Except.error.inj heq)
  | .ok _, .error _ => .isFalse nofun
  | .error _, .ok _ => .isFalse nofun

/-- The payload of a crash: a text or something else. -/
inductive Thrown where
  | text (s : String)
  | other
deriving DecidableEq, Repr

/-- The text of a crash, a fixed phrase if the payload is not a text. -/
def Thrown.message : Thrown → String
  | .text s => s
  | .other => "non-string panic payload"

/-- The result of an attempt: a value, a failure that is reported, or a crash with its text. -/
inductive Attempt (α : Type) where
  | success (a : α)
  | failure (f : Failure)
  | crash (text : String)
deriving DecidableEq, Repr

namespace Attempt

variable {α β : Type}

/-- The attempt of a result, which is not a crash. -/
def ofExcept : Except Failure α → Attempt α
  | .ok a => success a
  | .error f => failure f

/-- The crash with a given payload. -/
def ofThrown (x : Thrown) : Attempt α := crash x.message

/-- Continues after a success. -/
def bind : Attempt α → (α → Attempt β) → Attempt β
  | success a, f => f a
  | failure e, _ => failure e
  | crash text, _ => crash text

/-- Applies a function to the value of a success. -/
def map (f : α → β) (x : Attempt α) : Attempt β :=
  x.bind fun a => success (f a)

@[simp] theorem bind_success (a : α) (f : α → Attempt β) : (success a).bind f = f a := rfl

@[simp] theorem bind_failure (e : Failure) (f : α → Attempt β) :
    (failure e).bind f = failure e := rfl

@[simp] theorem bind_crash (text : String) (f : α → Attempt β) :
    (crash text).bind f = crash text := rfl

/-- The attempt of a result is not a crash. -/
@[simp] theorem ofExcept_ne_crash (r : Except Failure α) (text : String) :
    ofExcept r ≠ crash text := by
  cases r <;> simp [ofExcept]

end Attempt
end SupplierGateway
