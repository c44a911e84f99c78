import SupplierGateway.Proofs.Json.RoundTrip

/-!
# The spread text is read back

The spread text of a value differs from the compact one by blanks, which stand only where the reader
skips them: before a value, before a name, after a colon and before a container closes.  So a value
without fractions is read back from its spread text as well.

* `Reader.foldl_lineBreak` and `Reader.Reads.foldl_lineBreak` — blanks before and after a value;
* `Value.Exact.reads_spread` — a value at any level, inside any open containers;
* `Document.read_spread` — the whole text.
-/

namespace SupplierGateway
namespace Json
namespace Reader

/-! ## Blanks -/

/-- A line break is skipped by a reader that skips blanks. -/
theorem foldl_lineBreak {reader : Reader} (hskip : ∀ c, isSpace c = true → reader.step c = reader)
    (level : Nat) : (lineBreak level).foldl step reader = reader := by
  rw [lineBreak, List.foldl_cons, hskip '\n' rfl]
  induction 2 * level with
  | zero => rfl
  | succ n ih => rw [List.replicate_succ, List.foldl_cons, hskip ' ' rfl, ih]

/-- Blanks before a value are skipped. -/
theorem step_value_space (stack : List Frame) (closable : Bool) (c : Char)
    (hspace : isSpace c = true) :
    step { stack, mode := .value closable } c = { stack, mode := .value closable } := by
  simp [step, hspace]

/-- Blanks before a name are skipped. -/
theorem step_name_space (stack : List Frame) (closable : Bool) (c : Char)
    (hspace : isSpace c = true) :
    step { stack, mode := .name closable } c = { stack, mode := .name closable } := by
  simp [step, hspace]

/-- Blanks between a value and the end of its container are skipped. -/
theorem step_after_space (stack : List Frame) (c : Char) (hspace : isSpace c = true) :
    step { stack, mode := .after } c = { stack, mode := .after } := by
  simp [step, afterValue, hspace]

/-- A line break after a value in a container completes the value, if it has not been complete. -/
theorem Reads.foldl_lineBreak {stack next : List Frame} {doc : Doc} {reader : Reader}
    (hreads : Reads stack doc reader)
    (hcomplete : complete stack doc = { stack := next, mode := .after }) (level : Nat) :
    (lineBreak level).foldl Reader.step reader = { stack := next, mode := .after } := by
  have hbreak : reader.step '\n' = { stack := next, mode := .after } := by
    rw [hreads.step '\n' (.inr (.inr (.inr rfl))), hcomplete]
    exact step_after_space next '\n' rfl
  have hskipped := Reader.foldl_lineBreak (step_after_space next) level
  rw [lineBreak, List.foldl_cons, step_after_space next '\n' rfl] at hskipped
  rw [lineBreak, List.foldl_cons, hbreak, hskipped]

/-! ## Containers -/

/-- The items of an array after one that has been read, up to the end of the array. -/
theorem reads_spreadItems (stack : List Frame) (level : Nat) {items : List Value}
    (hitems : ∀ v ∈ items, ∀ stack closable, Reads stack v.doc
      ((v.spreadChars (level + 1)).foldl step { stack, mode := .value closable }))
    (before : List Doc) {doc : Doc} {reader : Reader}
    (hreads : Reads (.array before :: stack) doc reader) :
    (Value.spreadItems level items ++ lineBreak level ++ [']']).foldl step reader =
      complete stack (.array (before.reverse ++ doc :: Value.itemDocs items)) := by
  induction items generalizing before doc reader with
  | nil =>
      have hcomplete : complete (.array before :: stack) doc =
          { stack := .array (doc :: before) :: stack, mode := .after } := rfl
      rw [Value.spreadItems, List.nil_append, List.foldl_append,
        hreads.foldl_lineBreak hcomplete]
      simp [step, afterValue, isSpace, Value.itemDocs]
  | cons v items ih =>
      obtain ⟨hv, hrest⟩ := List.forall_mem_cons.mp hitems
      have hcomma : reader.step ',' =
          { stack := .array (doc :: before) :: stack, mode := .value false } :=
        hreads.step ',' (.inl rfl)
      have htext : Value.spreadItems level (v :: items) ++ lineBreak level ++ [']'] =
          ',' :: (lineBreak (level + 1) ++ (v.spreadChars (level + 1) ++
            (Value.spreadItems level items ++ lineBreak level ++ [']']))) := by
        simp [Value.spreadItems]
      rw [htext, List.foldl_cons, hcomma, List.foldl_append,
        foldl_lineBreak (step_value_space _ _), List.foldl_append,
        ih hrest (doc :: before) (hv _ _)]
      simp [Value.itemDocs]

/-- The name of a member on a line of its own, up to its value. -/
theorem foldl_spreadName (stack : List Frame) (members : List (Option String × Doc))
    (closable : Bool) (level : Nat) (name : String) (rest : List Char) :
    (lineBreak level ++ stringChars name ++ ':' :: ' ' :: rest).foldl step
        { stack := .object members :: stack, mode := .name closable } =
      rest.foldl step { stack := .member members (some name) :: stack, mode := .value false } := by
  rw [List.append_assoc, List.foldl_append, foldl_lineBreak (step_name_space _ _),
    List.foldl_append, foldl_name]
  rfl

/-- The members of an object after one that has been read, up to the end of the object. -/
theorem reads_spreadMembers (stack : List Frame) (level : Nat) {members : List (String × Value)}
    (hmembers : ∀ m ∈ members, ∀ stack closable, Reads stack m.2.doc
      ((m.2.spreadChars (level + 1)).foldl step { stack, mode := .value closable }))
    (before : List (Option String × Doc)) {name : Option String} {doc : Doc} {reader : Reader}
    (hreads : Reads (.member before name :: stack) doc reader) :
    (Value.spreadMembers level members ++ lineBreak level ++ ['\x7d']).foldl step reader =
      complete stack
        (.object (before.reverse ++ (name, doc) :: Value.memberDocs members)) := by
  induction members generalizing before name doc reader with
  | nil =>
      have hcomplete : complete (.member before name :: stack) doc =
          { stack := .object ((name, doc) :: before) :: stack, mode := .after } := rfl
      rw [Value.spreadMembers, List.nil_append, List.foldl_append,
        hreads.foldl_lineBreak hcomplete]
      simp [step, afterValue, isSpace, Value.memberDocs]
  | cons m members ih =>
      obtain ⟨hm, hrest⟩ := List.forall_mem_cons.mp hmembers
      obtain ⟨k, v⟩ := m
      have hcomma : reader.step ',' =
          { stack := .object ((name, doc) :: before) :: stack, mode := .name false } :=
        hreads.step ',' (.inl rfl)
      have htext : Value.spreadMembers level ((k, v) :: members) ++ lineBreak level ++ ['\x7d'] =
          ',' :: (lineBreak (level + 1) ++ stringChars k ++ ':' :: ' ' ::
            (v.spreadChars (level + 1) ++
              (Value.spreadMembers level members ++ lineBreak level ++ ['\x7d']))) := by
        simp [Value.spreadMembers]
      rw [htext, List.foldl_cons, hcomma, foldl_spreadName, List.foldl_append,
        ih hrest ((name, doc) :: before) (hm _ _)]
      simp [Value.memberDocs]

end Reader

/-! ## Values -/

/-- A value without fractions is read back from its spread text, inside any open containers. -/
theorem Value.Exact.reads_spread {v : Value} (hexact : v.Exact) (level : Nat)
    (stack : List Frame) (closable : Bool) :
    Reader.Reads stack v.doc
      ((v.spreadChars level).foldl Reader.step { stack, mode := .value closable }) := by
  induction hexact generalizing level stack closable with
  | null => exact Value.Exact.null.reads stack closable
  | bool b => exact (Value.Exact.bool b).reads stack closable
  | number n hn => exact (Value.Exact.number n hn).reads stack closable
  | string s => exact (Value.Exact.string s).reads stack closable
  | array items hitems ih =>
      cases items with
      | nil => exact (Value.Exact.array [] hitems).reads stack closable
      | cons v items =>
          obtain ⟨hv, hrest⟩ := List.forall_mem_cons.mp ih
          have hopen : Reader.step { stack, mode := .value closable } '[' =
              { stack := .array [] :: stack, mode := .value true } := by
            cases closable <;> rfl
          have htext : (Value.array (v :: items)).spreadChars level =
              '[' :: (lineBreak (level + 1) ++ (v.spreadChars (level + 1) ++
                (Value.spreadItems level items ++ lineBreak level ++ [']']))) := by
            simp [Value.spreadChars]
          rw [htext, List.foldl_cons, hopen, List.foldl_append,
            Reader.foldl_lineBreak (Reader.step_value_space _ _), List.foldl_append,
            Reader.reads_spreadItems stack level (fun w hw => hrest w hw (level + 1)) []
              (hv (level + 1) _ _)]
          exact Reader.reads_complete stack _
  | object members hmembers ih =>
      cases members with
      | nil => exact (Value.Exact.object [] hmembers).reads stack closable
      | cons m members =>
          obtain ⟨hm, hrest⟩ := List.forall_mem_cons.mp ih
          obtain ⟨k, v⟩ := m
          have hopen : Reader.step { stack, mode := .value closable } '\x7b' =
              { stack := .object [] :: stack, mode := .name true } := by
            cases closable <;> rfl
          have htext : (Value.object ((k, v) :: members)).spreadChars level =
              '\x7b' :: (lineBreak (level + 1) ++ stringChars k ++ ':' :: ' ' ::
                (v.spreadChars (level + 1) ++
                  (Value.spreadMembers level members ++ lineBreak level ++ ['\x7d']))) := by
            simp [Value.spreadChars]
          rw [htext, List.foldl_cons, hopen, Reader.foldl_spreadName, List.foldl_append,
            Reader.reads_spreadMembers stack level (fun w hw => hrest w hw (level + 1)) []
              (hm (level + 1) _ _)]
          exact Reader.reads_complete stack _

/-- The spread text of a value without fractions is read as that value. -/
theorem Document.read_spread {v : Value} (hexact : v.Exact) :
    Document.read v.spread = { root := v.doc, trailing := false } := by
  rw [Document.read, Value.spread, String.toList_ofList]
  exact (hexact.reads_spread 0 [] false).finish rfl

end Json
end SupplierGateway
