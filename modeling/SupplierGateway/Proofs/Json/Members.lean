import Mathlib.Data.List.Induction
import SupplierGateway.Proofs.Json.RoundTrip

/-!
# Members of values that are read back

A value that is written compactly and read again is the same value, except that the members of its
objects come in the order of their names, and of members with one name only the last is left.  The
member of a name is the same before and after.

* `lookup_insertMember` and `ascending_insertMember` — insertion of a member in order;
* `get?_sortMembers` — sorting members does not change the value of a name;
* `Value.Within` and `Value.Within.value?_doc` — values that are not nested too deep denote themselves,
  sorted;
* `Value.parse?_compact` and `get?_sorted` — the whole text, and the values of names in it.
-/

namespace SupplierGateway
namespace Json

/-! ## Sorted members -/

/-- Members whose names ascend strictly. -/
def Ascending (members : List (String × Value)) : Prop :=
  members.Pairwise fun a b => a.1 < b.1

/-- A member after an insertion is the new one or one of the others. -/
theorem mem_insertMember {name : String} {v : Value} {members : List (String × Value)}
    {m : String × Value} (hm : m ∈ insertMember name v members) : m = (name, v) ∨ m ∈ members := by
  induction members with
  | nil => exact .inl (List.mem_singleton.mp hm)
  | cons head rest ih =>
      obtain ⟨k, w⟩ := head
      unfold insertMember at hm
      split at hm
      · exact List.mem_cons.mp hm
      split at hm
      · exact (List.mem_cons.mp hm).imp_right (List.mem_cons_of_mem _)
      · rcases List.mem_cons.mp hm with rfl | hm
        · exact .inr List.mem_cons_self
        · exact (ih hm).imp_right (List.mem_cons_of_mem _)

/-- Insertion of a member keeps the order. -/
theorem ascending_insertMember {name : String} {v : Value} {members : List (String × Value)}
    (hsorted : Ascending members) : Ascending (insertMember name v members) := by
  induction members with
  | nil => exact List.pairwise_singleton _ _
  | cons head rest ih =>
      obtain ⟨k, w⟩ := head
      obtain ⟨hhead, hrest⟩ := List.pairwise_cons.mp hsorted
      unfold insertMember
      split
      · next hlt =>
        refine List.pairwise_cons.mpr ⟨fun m hm => ?_, hsorted⟩
        rcases List.mem_cons.mp hm with rfl | hm
        · exact hlt
        · exact String.lt_trans hlt (hhead m hm)
      split
      · next hsame => exact List.pairwise_cons.mpr ⟨hsame ▸ hhead, hrest⟩
      · next hnlt hne =>
        have hlt : k < name := by
          by_contra hle
          exact hne (String.le_antisymm (String.not_lt.mp hle) (String.not_lt.mp hnlt))
        refine List.pairwise_cons.mpr ⟨fun m hm => ?_, ih hrest⟩
        rcases mem_insertMember hm with rfl | hm
        · exact hlt
        · exact hhead m hm

/-- A lookup after an insertion gives the new member under its name, and the others as before. -/
theorem lookup_insertMember (name other : String) (v : Value) (members : List (String × Value)) :
    (insertMember name v members).lookup other =
      if other = name then some v else members.lookup other := by
  by_cases hother : other = name
  · subst hother
    rw [if_pos rfl]
    induction members with
    | nil => simp [insertMember]
    | cons head rest ih =>
        obtain ⟨k, w⟩ := head
        unfold insertMember
        split
        · simp
        split
        · simp
        · next hne => rw [List.lookup_cons, beq_eq_false_iff_ne.mpr hne, ih]
  · have hbeq : (other == name) = false := beq_eq_false_iff_ne.mpr hother
    rw [if_neg hother]
    induction members with
    | nil => simp [insertMember, List.lookup_cons, hbeq]
    | cons head rest ih =>
        obtain ⟨k, w⟩ := head
        unfold insertMember
        split
        · simp [List.lookup_cons, hbeq]
        split
        · next hsame =>
          subst hsame
          simp [List.lookup_cons, hbeq]
        · rw [List.lookup_cons, List.lookup_cons, ih]

theorem ascending_sortMembers (members : List (String × Value)) :
    Ascending (sortMembers members) := by
  unfold sortMembers
  induction members using List.reverseRecOn with
  | nil => exact List.Pairwise.nil
  | append_singleton members m ih =>
      rw [List.foldl_append]
      exact ascending_insertMember ih

/-- The last of several members with one name counts. -/
theorem get?_concat (name : String) (members : List (String × Value)) (m : String × Value) :
    (Value.object (members ++ [m])).get? name =
      if name = m.1 then some m.2 else (Value.object members).get? name := by
  by_cases hname : name = m.1
  · simp [Value.get?, hname]
  · have hbeq : (m.1 == name) = false := beq_eq_false_iff_ne.mpr (Ne.symm hname)
    simp [Value.get?, hname, hbeq]

/-- Among ascending members the last member of a name is the first. -/
theorem get?_of_ascending {members : List (String × Value)} (hsorted : Ascending members)
    (name : String) : (Value.object members).get? name = members.lookup name := by
  induction members using List.reverseRecOn with
  | nil => rfl
  | append_singleton members m ih =>
      obtain ⟨k, v⟩ := m
      obtain ⟨hbefore, -, hlast⟩ := List.pairwise_append.mp hsorted
      rw [get?_concat, ih hbefore, List.lookup_append]
      by_cases hname : name = k
      · subst hname
        -- The names before the last one are all smaller.
        have hnone : members.lookup name = none := by
          rw [List.lookup_eq_none_iff]
          intro other hother
          have hlt : other.1 < name := hlast other hother (name, v) (List.mem_singleton_self _)
          rw [bne_iff_ne]
          rintro rfl
          exact String.lt_irrefl _ hlt
        simp [hnone]
      · have hbeq : (name == k) = false := beq_eq_false_iff_ne.mpr hname
        simp [List.lookup_cons, hname, hbeq]

/-- Sorting members does not change the value of a name. -/
theorem get?_sortMembers (members : List (String × Value)) (name : String) :
    (Value.object (sortMembers members)).get? name = (Value.object members).get? name := by
  rw [get?_of_ascending (ascending_sortMembers members)]
  induction members using List.reverseRecOn with
  | nil => rfl
  | append_singleton members m ih =>
      have hsort : sortMembers (members ++ [m]) = insertMember m.1 m.2 (sortMembers members) := by
        unfold sortMembers
        rw [List.foldl_append]
        rfl
      rw [hsort, lookup_insertMember, get?_concat, ih]

/-! ## Values that are read -/

/-- A value whose containers are nested at most to a given depth. -/
inductive Value.Within : Nat → Value → Prop
  | null (room : Nat) : Within room .null
  | bool (room : Nat) (b : Bool) : Within room (.bool b)
  | number (room : Nat) (n : Number) : Within room (.number n)
  | string (room : Nat) (s : String) : Within room (.string s)
  | array (room : Nat) (items : List Value) (hitems : ∀ v ∈ items, v.Within room) :
      Within (room + 1) (.array items)
  | object (room : Nat) (members : List (String × Value)) (hmembers : ∀ m ∈ members, m.2.Within room) :
      Within (room + 1) (.object members)

/-- The items of an array denote themselves when each of them does. -/
theorem itemValues?_itemDocs {room : Nat} {items : List Value}
    (hitems : ∀ v ∈ items, v.doc.value? room = some v.sorted) :
    Doc.itemValues? room (Value.itemDocs items) = some (Value.sortedItems items) := by
  induction items with
  | nil => rfl
  | cons v rest ih =>
      obtain ⟨hv, hrest⟩ := List.forall_mem_cons.mp hitems
      simp [Value.itemDocs, Doc.itemValues?, Value.sortedItems, hv, ih hrest]

/-- The members of an object denote themselves when the value of each of them does. -/
theorem memberValues?_memberDocs {room : Nat} {members : List (String × Value)}
    (hmembers : ∀ m ∈ members, m.2.doc.value? room = some m.2.sorted) :
    Doc.memberValues? room (Value.memberDocs members) = some (Value.sortedMembers members) := by
  induction members with
  | nil => rfl
  | cons m rest ih =>
      obtain ⟨k, v⟩ := m
      obtain ⟨hv, hrest⟩ := List.forall_mem_cons.mp hmembers
      simp [Value.memberDocs, Doc.memberValues?, Value.sortedMembers, hv, ih hrest]

/-- The document of a value that is not nested too deep denotes the value, sorted. -/
theorem Value.Within.value?_doc {room : Nat} {v : Value} (hwithin : v.Within room) :
    v.doc.value? room = some v.sorted := by
  induction hwithin with
  | null room => simp [Value.doc, Doc.value?, Value.sorted]
  | bool room b => simp [Value.doc, Doc.value?, Value.sorted]
  | number room n => simp [Value.doc, Doc.value?, Value.sorted]
  | string room s => simp [Value.doc, Doc.value?, Value.sorted]
  | array room items _ ih =>
      simp [Value.doc, Doc.value?, Value.sorted, itemValues?_itemDocs ih]
  | object room members _ ih =>
      simp [Value.doc, Doc.value?, Value.sorted, memberValues?_memberDocs ih]

/-- A value that is written compactly is read back, sorted. -/
theorem Value.parse?_compact {v : Value} (hexact : v.Exact) (hwithin : v.Within nestingLimit) :
    Value.parse? v.compact = some v.sorted := by
  rw [Value.parse?, Document.read_compact hexact]
  exact hwithin.value?_doc

/-- The value of a name in a value that was read back is the sorted one that was written. -/
theorem get?_sorted (v : Value) (name : String) :
    v.sorted.get? name = (v.get? name).map Value.sorted := by
  cases v with
  | object members =>
      rw [Value.sorted, get?_sortMembers]
      induction members using List.reverseRecOn with
      | nil => rfl
      | append_singleton members m ih =>
          have hsorted : Value.sortedMembers (members ++ [m]) =
              Value.sortedMembers members ++ [(m.1, m.2.sorted)] := by
            clear ih
            induction members with
            | nil => rfl
            | cons other members ih => simp [Value.sortedMembers, ih]
          rw [hsorted, get?_concat, get?_concat, ih]
          split <;> rfl
  | _ => rfl

end Json
end SupplierGateway
