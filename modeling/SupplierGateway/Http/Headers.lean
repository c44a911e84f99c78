import SupplierGateway.Json.Value
import SupplierGateway.Text.Ascii

/-!
# Header maps

A header map holds one value for each name and lists its entries by ascending name.  Since the
order is part of the type, two maps with the same entries are equal.
-/

namespace SupplierGateway
namespace Http

/-- Entries whose names ascend strictly. -/
def Ascending (entries : List (String × String)) : Prop :=
  entries.Pairwise fun a b => a.1 < b.1

/-- Puts an entry at its place, instead of the entry of that name if there is one. -/
def insertEntry (name value : String) : List (String × String) → List (String × String)
  | [] => [(name, value)]
  | (k, v) :: rest =>
      if name < k then (name, value) :: (k, v) :: rest
      else if name = k then (name, value) :: rest
      else (k, v) :: insertEntry name value rest

/-- An inserted entry is the new one or an old one. -/
theorem mem_insertEntry {name value : String} {entries : List (String × String)}
    {e : String × String} (he : e ∈ insertEntry name value entries) :
    e = (name, value) ∨ e ∈ entries := by
  induction entries with
  | nil => simpa [insertEntry] using he
  | cons head rest ih =>
      obtain ⟨k, v⟩ := head
      unfold insertEntry at he
      split at he
      · simpa using he
      · split at he
        · rcases List.mem_cons.1 he with h | h
          · exact .inl h
          · exact .inr (List.mem_cons_of_mem _ h)
        · rcases List.mem_cons.1 he with h | h
          · exact .inr (h ▸ List.mem_cons_self)
          · rcases ih h with h | h
            · exact .inl h
            · exact .inr (List.mem_cons_of_mem _ h)

/-- Insertion keeps the order. -/
theorem ascending_insertEntry {name value : String} {entries : List (String × String)}
    (hsorted : Ascending entries) : Ascending (insertEntry name value entries) := by
  induction entries with
  | nil => simp [Ascending, insertEntry]
  | cons head rest ih =>
      obtain ⟨k, v⟩ := head
      obtain ⟨hhead, hrest⟩ := List.pairwise_cons.1 hsorted
      unfold insertEntry
      split
      · next hlt =>
          refine List.pairwise_cons.2 ⟨fun e he => ?_, hsorted⟩
          rcases List.mem_cons.1 he with rfl | he
          · exact hlt
          · exact String.lt_trans hlt (hhead e he)
      · next hnlt =>
          split
          · next heq => exact List.pairwise_cons.2 ⟨heq ▸ hhead, hrest⟩
          · next hne =>
              have hlt : k < name := by
                rcases Decidable.em (k < name) with h | h
                · exact h
                · exact absurd (String.le_antisymm (String.not_lt.1 h) (String.not_lt.1 hnlt)) hne
              refine List.pairwise_cons.2 ⟨fun e he => ?_, ih hrest⟩
              rcases mem_insertEntry he with rfl | he
              · exact hlt
              · exact hhead e he

/-- A header map. -/
structure Headers where
  entries : List (String × String)
  ascending : Ascending entries

namespace Headers

instance : DecidableEq Headers := fun a b =>
  if h : a.entries = b.entries then
    .isTrue (by cases a; cases b; simpa using h)
  else .isFalse fun heq => h (heq ▸ rfl)

instance : Repr Headers := ⟨fun h n => reprPrec h.entries n⟩

/-- The map without entries. -/
def empty : Headers := { entries := [], ascending := List.Pairwise.nil }

instance : Inhabited Headers := ⟨empty⟩
instance : EmptyCollection Headers := ⟨empty⟩

/-- Sets the value of a name exactly as the name is given. -/
def insert (h : Headers) (name value : String) : Headers :=
  { entries := insertEntry name value h.entries
    ascending := ascending_insertEntry h.ascending }

/-- Sets the value of a name, lower-casing its ASCII letters. -/
def set (h : Headers) (name value : String) : Headers :=
  h.insert (Text.lower name) value

/-- The value of a name. -/
def get? (h : Headers) (name : String) : Option String :=
  h.entries.lookup name

/-- Changes each value in a way that may depend on its name. -/
def mapValues (f : String → String → String) (h : Headers) : Headers where
  entries := h.entries.map fun entry => (entry.1, f entry.1 entry.2)
  ascending := by
    unfold Ascending
    exact List.pairwise_map.2 h.ascending

/-- A header map in JSON. -/
def json (h : Headers) : Json.Value :=
  .object (h.entries.map fun entry => (entry.1, .string entry.2))

end Headers
end Http
end SupplierGateway
