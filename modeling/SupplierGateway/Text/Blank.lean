/-!
# Blank characters and trimming

The blank characters are the twenty-five characters with the Unicode property `White_Space`.
Trimming removes them from both ends of a text and nowhere else, and a text is blank when
nothing is left.  Characters that merely look empty, such as the zero-width space or the byte
order mark, are not blank.
-/

namespace SupplierGateway
namespace Text

/-- The characters with the property `White_Space`. -/
def isBlank (c : Char) : Bool :=
  let n := c.toNat
  (9 ≤ n && n ≤ 13) || n == 0x20 || n == 0x85 || n == 0xA0 || n == 0x1680 ||
    (0x2000 ≤ n && n ≤ 0x200A) || n == 0x2028 || n == 0x2029 || n == 0x202F ||
    n == 0x205F || n == 0x3000

/-- Drops the longest run of characters satisfying `p` at the end of a list. -/
def dropTrailing (p : Char → Bool) : List Char → List Char
  | [] => []
  | c :: rest =>
      match dropTrailing p rest with
      | [] => if p c then [] else [c]
      | kept => c :: kept

/-- Removes blank characters from both ends of a list of characters. -/
def trimChars (cs : List Char) : List Char :=
  dropTrailing isBlank (cs.dropWhile isBlank)

/-- Removes blank characters from both ends of a text. -/
def trim (s : String) : String :=
  String.ofList (trimChars s.toList)

/-- A text is blank when every character of it is. -/
def blank (s : String) : Bool :=
  s.toList.all isBlank

/-- Every character that the core library calls white space is blank. -/
theorem isBlank_of_isWhitespace {c : Char} (hc : c.isWhitespace = true) :
    isBlank c = true := by
  simp only [Char.isWhitespace, Bool.or_eq_true, decide_eq_true_eq] at hc
  rcases hc with ((rfl | rfl) | rfl) | rfl <;> decide

@[simp] theorem dropTrailing_nil (p : Char → Bool) : dropTrailing p [] = [] := rfl

/-- Nothing remains exactly when every character may be dropped. -/
theorem dropTrailing_eq_nil_iff {p : Char → Bool} {cs : List Char} :
    dropTrailing p cs = [] ↔ ∀ c ∈ cs, p c = true := by
  induction cs with
  | nil => simp
  | cons c rest ih =>
      cases hkept : dropTrailing p rest with
      | nil =>
          have hall := ih.1 hkept
          by_cases hc : p c = true
          · simpa [dropTrailing, hkept, hc] using hall
          · simp [dropTrailing, hkept, hc]
      | cons d kept =>
          have hnot : ¬ ∀ x ∈ rest, p x = true := fun h => by simp [ih.2 h] at hkept
          simp only [dropTrailing, hkept, List.cons_ne_nil, false_iff]
          intro h
          exact hnot fun x hx => h x (List.mem_cons_of_mem c hx)

/-- A list is its kept part followed by a run of droppable characters. -/
theorem dropTrailing_append (p : Char → Bool) (cs : List Char) :
    ∃ tail, cs = dropTrailing p cs ++ tail ∧ ∀ c ∈ tail, p c = true := by
  induction cs with
  | nil => exact ⟨[], by simp⟩
  | cons c rest ih =>
      obtain ⟨tail, hrest, htail⟩ := ih
      cases hkept : dropTrailing p rest with
      | nil =>
          rw [hkept, List.nil_append] at hrest
          by_cases hc : p c = true
          · refine ⟨c :: rest, by simp [dropTrailing, hkept, hc], ?_⟩
            intro x hx
            rcases List.mem_cons.1 hx with rfl | hx
            · exact hc
            · exact htail x (hrest ▸ hx)
          · exact ⟨rest, by simp [dropTrailing, hkept, hc], hrest ▸ htail⟩
      | cons d kept =>
          refine ⟨tail, ?_, htail⟩
          simp only [dropTrailing, hkept]
          rw [hkept] at hrest
          simp [hrest]

/-- A run of droppable characters at the end does not change the result. -/
theorem dropTrailing_append_of_all {p : Char → Bool} {tail : List Char}
    (htail : ∀ c ∈ tail, p c = true) (cs : List Char) :
    dropTrailing p (cs ++ tail) = dropTrailing p cs := by
  induction cs with
  | nil => simpa [dropTrailing_eq_nil_iff] using htail
  | cons c rest ih => simp only [List.cons_append, dropTrailing, ih]

/-- Nothing is dropped before a last character that is kept. -/
theorem dropTrailing_concat {p : Char → Bool} {last : Char} (hlast : p last = false)
    (cs : List Char) : dropTrailing p (cs ++ [last]) = cs ++ [last] := by
  induction cs with
  | nil => simp [dropTrailing, hlast]
  | cons c rest ih =>
      rw [List.cons_append, dropTrailing, ih]
      cases rest <;> rfl

/-- A text with blanks around it is trimmed to the same text. -/
theorem trimChars_append {before after : List Char} (hbefore : ∀ c ∈ before, isBlank c = true)
    (hafter : ∀ c ∈ after, isBlank c = true) (cs : List Char) :
    trimChars (before ++ cs ++ after) = trimChars cs := by
  have hskip : ∀ rest, (before ++ rest).dropWhile isBlank = rest.dropWhile isBlank :=
    fun rest => List.dropWhile_append_of_pos hbefore
  rw [trimChars, List.append_assoc, hskip, List.dropWhile_append]
  by_cases hnone : (cs.dropWhile isBlank).isEmpty = true
  · have hrest : dropTrailing isBlank (after.dropWhile isBlank) = [] :=
      dropTrailing_eq_nil_iff.mpr fun c hc => hafter c ((List.dropWhile_sublist _).subset hc)
    rw [if_pos hnone, hrest, trimChars, List.isEmpty_iff.mp hnone, dropTrailing_nil]
  · rw [if_neg hnone, dropTrailing_append_of_all hafter, trimChars]

/-- A text that neither begins nor ends with a blank is trimmed already. -/
theorem trimChars_of_ends {first last : Char} (hfirst : isBlank first = false)
    (hlast : isBlank last = false) (cs : List Char) :
    trimChars (first :: (cs ++ [last])) = first :: (cs ++ [last]) := by
  rw [trimChars, List.dropWhile_cons_of_neg (Bool.not_eq_true _ ▸ hfirst), ← List.cons_append,
    dropTrailing_concat hlast]

/-- A text is blank exactly when trimming leaves nothing. -/
theorem blank_iff_trimChars (s : String) : blank s = true ↔ trimChars s.toList = [] := by
  have hdrop : ∀ cs : List Char,
      (∀ c ∈ cs.dropWhile isBlank, isBlank c = true) ↔ ∀ c ∈ cs, isBlank c = true := by
    intro cs
    induction cs with
    | nil => simp
    | cons c rest ih =>
        by_cases hc : isBlank c = true
        · simp [List.dropWhile, hc, ih]
        · simp [List.dropWhile, hc]
  simp [blank, trimChars, dropTrailing_eq_nil_iff, hdrop]

end Text
end SupplierGateway
