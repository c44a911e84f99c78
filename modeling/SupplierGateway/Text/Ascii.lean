/-!
# Letter case and search within ASCII

Names of headers, phases and flags are compared without regard to the case of ASCII letters.
Letters outside ASCII keep their case, so the Kelvin sign is not the letter it resembles.
-/

namespace SupplierGateway
namespace Text

/-- Replaces the letters `A` to `Z` by `a` to `z` and does not change other characters. -/
def lower (s : String) : String :=
  String.ofList (s.toList.map Char.toLower)

/-- Two texts that differ at most in the case of ASCII letters. -/
def sameIgnoringCase (s t : String) : Bool :=
  lower s == lower t

/-- Whether the first list occurs as a contiguous block of the second. -/
def occursInChars (needle : List Char) : List Char → Bool
  | [] => needle.isEmpty
  | c :: rest => needle.isPrefixOf (c :: rest) || occursInChars needle rest

/-- Whether the first text occurs inside the second. -/
def occursIn (needle haystack : String) : Bool :=
  occursInChars needle.toList haystack.toList

/-- A list is found in another exactly when it is a contiguous block of it. -/
theorem occursInChars_iff {needle cs : List Char} :
    occursInChars needle cs = true ↔ needle <:+: cs := by
  induction cs with
  | nil => simp [occursInChars]
  | cons c rest ih =>
      rw [occursInChars, Bool.or_eq_true, ih, List.isPrefixOf_iff_prefix, List.infix_cons_iff]

/-- A text occurs inside another exactly when its characters are a contiguous block of the other's. -/
theorem occursIn_iff {needle haystack : String} :
    occursIn needle haystack = true ↔ needle.toList <:+: haystack.toList :=
  occursInChars_iff

/-- Whether the second text begins with the first. -/
def startsWith (start s : String) : Bool :=
  start.toList.isPrefixOf s.toList

/-- Lower-casing a letter a second time changes nothing. -/
@[simp] theorem toLower_toLower (c : Char) : c.toLower.toLower = c.toLower := by
  by_cases hascii : c.toNat < 128
  · have hall : ∀ n : Nat, n < 128 →
        (Char.ofNat n).toLower.toLower = (Char.ofNat n).toLower := by decide
    have hc := hall c.toNat hascii
    rwa [Char.ofNat_toNat] at hc
  · have hsame : c.toLower = c := by
      have hval : c.val.toNat = c.toNat := rfl
      unfold Char.toLower
      split
      · next hupper =>
          have hlast := UInt32.le_iff_toNat_le.1 hupper.2
          simp at hlast
          omega
      · rfl
    rw [hsame, hsame]

/-- Lower-casing a second time changes nothing. -/
@[simp] theorem lower_lower (s : String) : lower (lower s) = lower s := by
  simp [lower, Function.comp_def]

end Text
end SupplierGateway
