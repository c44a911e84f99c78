import SupplierGateway.Json.Document

/-!
# The compact text is read back

The compact text of a value without fractions is read as the document of that value, without a
broken or meaningless leaf and without trailing characters.

* `Value.Exact` — values without fractions;
* `Reader.Reads` — a reader at the end of a value, which is complete or a number that the next
  character ends;
* `reads_number` and `foldl_escapedChar` — numbers and strings, character by character;
* `Value.Exact.reads` — a value of any kind, inside any open containers;
* `Document.read_compact` — the whole text.

Fractions are excluded, since doubles are rounded when they are read.
-/

namespace SupplierGateway
namespace Json

/-- A number that is an integer of one machine word. -/
inductive Number.Exact : Number → Prop
  | natural (n : UInt64) : Exact (.natural n)
  | negative (m : UInt64) (hpos : 0 < m.toNat) (hle : m.toNat ≤ UInt64.size / 2) :
      Exact (.negative m)

/-- A value without fractions. -/
inductive Value.Exact : Value → Prop
  | null : Exact .null
  | bool (b : Bool) : Exact (.bool b)
  | number (n : Number) (hexact : n.Exact) : Exact (.number n)
  | string (s : String) : Exact (.string s)
  | array (items : List Value) (hitems : ∀ v ∈ items, v.Exact) : Exact (.array items)
  | object (members : List (String × Value)) (hmembers : ∀ m ∈ members, m.2.Exact) :
      Exact (.object members)

theorem Value.exact_word (n : UInt64) : (Value.word n).Exact :=
  .number _ (.natural n)

namespace Reader

/-- A reader at the end of a value, inside open containers.  A number ends only with the character
that follows it. -/
structure Reads (stack : List Frame) (doc : Doc) (reader : Reader) : Prop where
  step : ∀ c, c = ',' ∨ c = ']' ∨ c = '\x7d' ∨ c = '\n' →
    reader.step c = afterValue (complete stack doc) c
  finish : stack = [] → reader.finish = { root := doc, trailing := false }

/-- A reader of a complete value is at its end. -/
theorem reads_complete (stack : List Frame) (doc : Doc) : Reads stack doc (complete stack doc) where
  step c _ := by
    unfold complete
    split <;> rfl
  finish hstack := by
    subst hstack
    rfl

/-! ## Numbers -/

/-- The digits of a number in reverse order. -/
def digitsBack (digits : List Char) : List Nat := (digits.map fun c => c.toNat - 48).reverse

theorem digit?_of_isDigit {c : Char} (hdigit : c.isDigit = true) :
    digit? c = some (c.toNat - 48) := by
  rw [digit?, if_pos hdigit]

/-- Digits continue a number that has begun with a digit other than zero. -/
theorem foldl_digits (stack : List Frame) (negative : Bool) (whole : List Nat) {digits : List Char}
    (hdigits : ∀ c ∈ digits, c.isDigit = true) :
    digits.foldl step { stack, mode := .number (beginNumber .whole negative whole) } =
      { stack, mode := .number (beginNumber .whole negative (digitsBack digits ++ whole)) } := by
  induction digits generalizing whole with
  | nil => rfl
  | cons c digits ih =>
      obtain ⟨hc, hrest⟩ := List.forall_mem_cons.mp hdigits
      have hstep : step { stack, mode := .number (beginNumber .whole negative whole) } c =
          { stack
            mode := .number (beginNumber .whole negative ((c.toNat - 48) :: whole)) } := by
        simp [step, extendNumber, beginNumber, digit?_of_isDigit hc]
      rw [List.foldl_cons, hstep, ih _ hrest]
      simp [digitsBack]

/-- The text of a positive number does not begin with a zero. -/
theorem toDigits_eq_cons {n : Nat} (hpos : 0 < n) :
    ∃ c rest, Nat.toDigits 10 n = c :: rest ∧ c.toNat - 48 ≠ 0 := by
  induction n using Nat.strongRecOn with
  | ind n ih =>
      by_cases hlt : n < 10
      · refine ⟨n.digitChar, [], Nat.toDigits_of_lt_base hlt, ?_⟩
        rw [Nat.toNat_digitChar_sub_48_of_lt_ten hlt]
        omega
      · have htens : 0 < n / 10 := by omega
        obtain ⟨c, rest, hdigits, hc⟩ := ih (n / 10) (by omega) htens
        refine ⟨c, rest ++ [(n % 10).digitChar], ?_, hc⟩
        rw [Nat.toDigits_of_base_le (by decide) (by omega), hdigits]
        rfl

/-- The digits of a number denote it. -/
theorem digitsValue_toDigits (n : Nat) :
    digitsValue (digitsBack (Nat.toDigits 10 n)).reverse = n := by
  rw [digitsBack, List.reverse_reverse, digitsValue, List.foldl_map]
  exact Nat.ofDigitChars_eq_foldl.symm.trans Nat.ofDigitChars_ten_toDigits

/-- A reader that has read all digits of a number is at its end. -/
theorem reads_whole {stack : List Frame} {negative : Bool} {digits : List Nat} {n : Number}
    {part : NumberPart} (hpart : part = .zero ∨ part = .whole)
    (hnumber : Literal.number?
      { negative, whole := digits.reverse, fraction := [], exponent := none } = some n) :
    Reads stack (.number n)
      { stack, mode := .number (beginNumber part negative digits) } := by
  have hdoc : numberDoc (beginNumber part negative digits) = .number n := by
    simp only [numberDoc, beginNumber, List.reverse_nil, List.isEmpty_nil, if_true, hnumber]
  refine ⟨fun c hc => ?_, fun hstack => ?_⟩
  · rcases hpart with rfl | rfl <;> rcases hc with rfl | rfl | rfl | rfl <;>
      exact congrArg (fun doc => afterValue (complete stack doc) _) hdoc
  · subst hstack
    have hends : numberMayEnd (beginNumber part negative digits) = true := by
      rcases hpart with rfl | rfl <;> rfl
    simp only [finish, hends, if_true, hdoc]
    rfl

/-- The digits of a positive number after the first are read up to its end. -/
theorem reads_digits (stack : List Frame) (negative : Bool) {digit : Char} {rest : List Char}
    {m : Nat} {n : Number} (hdigits : Nat.toDigits 10 m = digit :: rest)
    (hnumber : ∀ whole, digitsValue whole = m →
      Literal.number? { negative, whole, fraction := [], exponent := none } = some n) :
    Reads stack (.number n)
      (rest.foldl step
        { stack, mode := .number (beginNumber .whole negative [digit.toNat - 48]) }) := by
  have hrest : ∀ c ∈ rest, c.isDigit = true := fun c hc =>
    Nat.isDigit_of_mem_toDigits (n := m) (b := 10) (by decide) (by decide)
      (hdigits ▸ List.mem_cons_of_mem _ hc)
  rw [foldl_digits stack negative _ hrest]
  refine reads_whole (.inr rfl) (hnumber _ ?_)
  have hback : digitsBack rest ++ [digit.toNat - 48] = digitsBack (digit :: rest) := by
    simp [digitsBack]
  rw [hback, ← hdigits]
  exact digitsValue_toDigits m

/-- A digit that begins a number is no blank, and no other value begins with it. -/
theorem step_digit {stack : List Frame} {closable : Bool} {digit : Char}
    (hdigit : digit.isDigit = true) (hnonzero : digit.toNat - 48 ≠ 0) :
    step { stack, mode := .value closable } digit =
      { stack, mode := .number (beginNumber .whole false [digit.toNat - 48]) } := by
  obtain ⟨d, hsucc⟩ := Nat.exists_eq_succ_of_ne_zero hnonzero
  have hd : digit? digit = some (d + 1) := (digit?_of_isDigit hdigit).trans (congrArg some hsucc)
  have hother : ∀ c : Char, c.isDigit = false → digit ≠ c := by
    rintro c hc rfl
    exact Bool.false_ne_true (hc.symm.trans hdigit)
  simp [step, isSpace, beginValue, hd, hsucc, hother ' ' rfl, hother '\n' rfl, hother '\t' rfl,
    hother '\r' rfl, hother ']' rfl, hother '"' rfl, hother '[' rfl, hother '\x7b' rfl,
    hother 't' rfl, hother 'f' rfl, hother 'n' rfl, hother '-' rfl]

/-- A digit other than zero begins a number after a sign. -/
theorem step_sign {stack : List Frame} {digit : Char} (hdigit : digit.isDigit = true)
    (hnonzero : digit.toNat - 48 ≠ 0) :
    step { stack, mode := .number (beginNumber .sign true []) } digit =
      { stack, mode := .number (beginNumber .whole true [digit.toNat - 48]) } := by
  obtain ⟨d, hsucc⟩ := Nat.exists_eq_succ_of_ne_zero hnonzero
  have hd : digit? digit = some (d + 1) := (digit?_of_isDigit hdigit).trans (congrArg some hsucc)
  simp [step, extendNumber, beginNumber, hd, hsucc]

/-- The text of an integer is read as the integer. -/
theorem reads_number (stack : List Frame) (closable : Bool) {n : Number} (hexact : n.Exact) :
    Reads stack (.number n) (n.text.toList.foldl step { stack, mode := .value closable }) := by
  have hdigit : ∀ {m : Nat} {digit : Char} {rest : List Char},
      Nat.toDigits 10 m = digit :: rest → digit.isDigit = true := fun {m digit rest} hdigits =>
    Nat.isDigit_of_mem_toDigits (n := m) (b := 10) (by decide) (by decide)
      (hdigits ▸ List.mem_cons_self)
  cases hexact with
  | natural n =>
      have hnumber : ∀ whole, digitsValue whole = n.toNat →
          Literal.number? { negative := false, whole, fraction := [], exponent := none } =
            some (.natural n) := by
        intro whole hwhole
        simp [Literal.number?, hwhole, n.toNat_lt]
      rw [Number.text, Nat.toString_eq_ofList_toDigits, String.toList_ofList]
      rcases Nat.eq_zero_or_pos n.toNat with hzero | hpos
      · have hbegun : step { stack, mode := .value closable } '0' =
            { stack, mode := .number (beginNumber .zero false [0]) } := by
          cases closable <;> rfl
        rw [hzero, Nat.toDigits_zero, List.foldl_cons, hbegun]
        exact reads_whole (.inl rfl) (hnumber [0] hzero.symm)
      · obtain ⟨digit, rest, hdigits, hnonzero⟩ := toDigits_eq_cons hpos
        rw [hdigits, List.foldl_cons, step_digit (hdigit hdigits) hnonzero]
        exact reads_digits stack false hdigits hnumber
  | negative m hpos hle =>
      have hnumber : ∀ whole, digitsValue whole = m.toNat →
          Literal.number? { negative := true, whole, fraction := [], exponent := none } =
            some (.negative m) := by
        intro whole hwhole
        simp [Literal.number?, hwhole, hpos, hle]
      obtain ⟨digit, rest, hdigits, hnonzero⟩ := toDigits_eq_cons hpos
      have hminus : step { stack, mode := .value closable } '-' =
          { stack, mode := .number (beginNumber .sign true []) } := by
        cases closable <;> rfl
      have htext : (Number.negative m).text.toList = '-' :: digit :: rest := by
        simp [Number.text, hdigits]
      rw [htext, List.foldl_cons, hminus, List.foldl_cons,
        step_sign (hdigit hdigits) hnonzero]
      exact reads_digits stack true hdigits hnumber

/-! ## Strings -/

/-- A string of which some characters have been read, in reverse order. -/
def soFar (chars : List Char) : PartialString :=
  { chars, high := none, sound := true, escape := .outside }

theorem hexDigit?_hexDigit : ∀ n < 16, hexDigit? (hexDigit n) = some n := by decide

/-- A character that is written as the number of its code is read back. -/
theorem foldl_codeUnit (stack : List Frame) (isName : Bool) (chars : List Char) {c : Char}
    (hcontrol : c.toNat < 0x20) :
    ['\\', 'u', '0', '0', hexDigit (c.toNat / 16), hexDigit (c.toNat % 16)].foldl step
        { stack, mode := .string isName (soFar chars) } =
      { stack, mode := .string isName (soFar (c :: chars)) } := by
  have hhigh := hexDigit?_hexDigit (c.toNat / 16) (by omega)
  have hlow := hexDigit?_hexDigit (c.toNat % 16) (by omega)
  have hzero : hexDigit? '0' = some 0 := by decide
  have hvalue : 16 * (c.toNat / 16) + c.toNat % 16 = c.toNat := Nat.div_add_mod _ _
  -- Such a number is not half of a surrogate pair.
  have hnotHigh : ¬ 0xD800 ≤ c.toNat := by omega
  have hnotLow : ¬ 0xDC00 ≤ c.toNat := by omega
  simp [step, extendString, soFar, hzero, hhigh, hlow, hvalue, pushUnit, hnotHigh, hnotLow]

/-- A character of a string is read back, escaped or not. -/
theorem foldl_escapedChar (stack : List Frame) (isName : Bool) (chars : List Char) (c : Char) :
    (escapedChar c).foldl step { stack, mode := .string isName (soFar chars) } =
      { stack, mode := .string isName (soFar (c :: chars)) } := by
  unfold escapedChar
  split
  · next hquote => subst hquote; rfl
  split
  · next hslash => subst hslash; rfl
  split
  · next hcontrol =>
    split
    · next hc => subst hc; rfl
    split
    · next hc => subst hc; rfl
    split
    · next hc => subst hc; rfl
    split
    · next hc => subst hc; rfl
    split
    · next hc => subst hc; rfl
    exact foldl_codeUnit stack isName chars hcontrol
  · next hquote hslash hplain =>
    simp [step, extendString, soFar, pushChar, hquote, hslash, hplain]

/-- The characters of a string are read back. -/
theorem foldl_escaped (stack : List Frame) (isName : Bool) (before chars : List Char) :
    (chars.flatMap escapedChar).foldl step { stack, mode := .string isName (soFar before) } =
      { stack, mode := .string isName (soFar (chars.reverse ++ before)) } := by
  induction chars generalizing before with
  | nil => rfl
  | cons c chars ih =>
      rw [List.flatMap_cons, List.foldl_append, foldl_escapedChar, ih]
      simp

/-- A string is read back as a value. -/
theorem foldl_string (stack : List Frame) (closable : Bool) (s : String) :
    (stringChars s).foldl step { stack, mode := .value closable } = complete stack (.string s) := by
  have hopen : step { stack, mode := .value closable } '"' =
      { stack, mode := .string false (soFar []) } := by
    cases closable <;> rfl
  rw [stringChars, List.cons_append, List.foldl_cons, hopen, List.foldl_append, foldl_escaped]
  simp [step, extendString, soFar]

/-- A string is read back as a name. -/
theorem foldl_name (rest : List Frame) (members : List (Option String × Doc)) (closable : Bool)
    (name : String) :
    (stringChars name).foldl step { stack := .object members :: rest, mode := .name closable } =
      { stack := .member members (some name) :: rest, mode := .colon } := by
  have hopen : step { stack := .object members :: rest, mode := .name closable } '"' =
      { stack := .object members :: rest, mode := .string true (soFar []) } := by
    cases closable <;> rfl
  rw [stringChars, List.cons_append, List.foldl_cons, hopen, List.foldl_append, foldl_escaped]
  simp [step, extendString, soFar]

/-! ## Containers -/

/-- The items of an array that is open are read one after another. -/
theorem reads_items (stack : List Frame) {items : List Value} (hitems : ∀ v ∈ items,
      ∀ stack closable, Reads stack v.doc
        (v.compactChars.foldl step { stack, mode := .value closable }))
    (hsome : items ≠ []) (before : List Doc) (closable : Bool) :
    ((Value.compactItems items ++ [']']).foldl step
        { stack := .array before :: stack, mode := .value closable }) =
      complete stack (.array (before.reverse ++ Value.itemDocs items)) := by
  induction items generalizing before closable with
  | nil => exact absurd rfl hsome
  | cons v rest ih =>
      obtain ⟨hv, hrest⟩ := List.forall_mem_cons.mp hitems
      have hreads := hv (.array before :: stack) closable
      cases rest with
      | nil =>
          rw [Value.compactItems, List.foldl_append, List.foldl_cons, List.foldl_nil,
            hreads.step ']' (.inr (.inl rfl))]
          simp [complete, afterValue, isSpace, Value.itemDocs]
      | cons w rest =>
          have hcomma : afterValue (complete (.array before :: stack) v.doc) ',' =
              { stack := .array (v.doc :: before) :: stack, mode := .value false } := rfl
          rw [Value.compactItems, List.append_assoc, List.foldl_append, List.cons_append,
            List.foldl_cons, hreads.step ',' (.inl rfl), hcomma,
            ih hrest (List.cons_ne_nil _ _)]
          simp [Value.itemDocs]

/-- The members of an object that is open are read one after another. -/
theorem reads_members (stack : List Frame) {members : List (String × Value)}
    (hmembers : ∀ m ∈ members, ∀ stack closable, Reads stack m.2.doc
      (m.2.compactChars.foldl step { stack, mode := .value closable }))
    (hsome : members ≠ []) (before : List (Option String × Doc)) (closable : Bool) :
    ((Value.compactMembers members ++ ['\x7d']).foldl step
        { stack := .object before :: stack, mode := .name closable }) =
      complete stack (.object (before.reverse ++ Value.memberDocs members)) := by
  induction members generalizing before closable with
  | nil => exact absurd rfl hsome
  | cons m rest ih =>
      obtain ⟨hm, hrest⟩ := List.forall_mem_cons.mp hmembers
      obtain ⟨name, v⟩ := m
      have hreads := hm (.member before (some name) :: stack) false
      have hcolon : step { stack := .member before (some name) :: stack, mode := .colon } ':' =
          { stack := .member before (some name) :: stack, mode := .value false } := rfl
      cases rest with
      | nil =>
          rw [Value.compactMembers, List.append_assoc, List.foldl_append, foldl_name,
            List.cons_append, List.foldl_cons, hcolon, List.foldl_append, List.foldl_cons,
            List.foldl_nil, hreads.step '\x7d' (.inr (.inr (.inl rfl)))]
          simp [complete, afterValue, isSpace, Value.memberDocs]
      | cons w rest =>
          have hcomma : afterValue (complete (.member before (some name) :: stack) v.doc) ',' =
              { stack := .object ((some name, v.doc) :: before) :: stack, mode := .name false } :=
            rfl
          rw [Value.compactMembers, List.append_assoc, List.append_assoc, List.foldl_append,
            foldl_name, List.cons_append, List.foldl_cons, hcolon, List.foldl_append,
            List.cons_append, List.foldl_cons, hreads.step ',' (.inl rfl), hcomma,
            ih hrest (List.cons_ne_nil _ _)]
          simp [Value.memberDocs]

end Reader

/-! ## Values -/

/-- A value without fractions is read back as its document, inside any open containers. -/
theorem Value.Exact.reads {v : Value} (hexact : v.Exact) (stack : List Frame) (closable : Bool) :
    Reader.Reads stack v.doc
      (v.compactChars.foldl Reader.step { stack, mode := .value closable }) := by
  induction hexact generalizing stack closable with
  | null => cases closable <;> exact Reader.reads_complete stack _
  | bool b => cases b <;> cases closable <;> exact Reader.reads_complete stack _
  | number n hn => exact Reader.reads_number stack closable hn
  | string s =>
      rw [Value.compactChars, Reader.foldl_string]
      exact Reader.reads_complete stack _
  | array items _ ih =>
      have hopen : Reader.step { stack, mode := .value closable } '[' =
          { stack := .array [] :: stack, mode := .value true } := by
        cases closable <;> rfl
      rw [Value.compactChars, List.cons_append, List.foldl_cons, hopen]
      by_cases hnone : items = []
      · subst hnone
        exact Reader.reads_complete stack _
      · rw [Reader.reads_items stack ih hnone]
        exact Reader.reads_complete stack _
  | object members _ ih =>
      have hopen : Reader.step { stack, mode := .value closable } '\x7b' =
          { stack := .object [] :: stack, mode := .name true } := by
        cases closable <;> rfl
      rw [Value.compactChars, List.cons_append, List.foldl_cons, hopen]
      by_cases hnone : members = []
      · subst hnone
        exact Reader.reads_complete stack _
      · rw [Reader.reads_members stack ih hnone]
        exact Reader.reads_complete stack _

/-- The compact text of a value without fractions is read as that value. -/
theorem Document.read_compact {v : Value} (hexact : v.Exact) :
    Document.read v.compact = { root := v.doc, trailing := false } := by
  rw [Document.read, Value.compact, String.toList_ofList]
  exact (hexact.reads [] false).finish rfl

end Json
end SupplierGateway
