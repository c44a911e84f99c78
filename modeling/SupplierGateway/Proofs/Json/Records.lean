import Mathlib.Data.List.Sort
import SupplierGateway.Json.Decoder
import SupplierGateway.Proofs.Json.Members
import SupplierGateway.Proofs.Lists

/-!
# Records and their declared members

A text that is an object lists members, in any order and with names that may repeat.  It is read
into a value whose members ascend by name, the last of each name, and a record is read from that
value.  Members that the record does not declare are ignored, so that the result is determined by
the values under the declared names.  This includes the fault that is reported, since the members
are checked in the order of their names.

* `Lists` and `exists_lists` — the members that a text lists, as every text does that is read as an
  object;
* `lists_plain` — the compact text of an object without containers in it lists its members;
* `Ascending.eq_of_lookup` — ascending members are determined by the values of names;
* `Spells` — a text that has exactly these members, each under a name of its own;
* `checkMembers_memberDocs` — the check does not depend on members that are not declared;
* `Fields.Local` — a record is built from its declared fields only;
* `Fields.Local.heeds` — a decoder of records depends on the declared names only.
-/

namespace SupplierGateway
namespace Json

/-! ## Texts that are objects -/

/-- A text is an object that lists these members, in this order.  A name may occur more than once.
A text from which no value is read lists no members: one that is nested too deep, or has a number or
a string in it that denotes nothing. -/
def Lists (text : String) (members : List (String × Value)) : Prop :=
  ∃ docs, Document.read text = { root := .object docs, trailing := false } ∧
    Doc.memberValues? (nestingLimit - 1) docs = some members

/-- An object is read with its members in order. -/
theorem Lists.parse? {text : String} {members : List (String × Value)} (hlists : Lists text members) :
    Value.parse? text = some (.object (sortMembers members)) := by
  obtain ⟨docs, hread, hmembers⟩ := hlists
  rw [Value.parse?, hread]
  change Doc.value? (nestingLimit - 1 + 1) (.object docs) = _
  rw [Doc.value?, hmembers]
  rfl

/-- A text that is read as an object lists members. -/
theorem exists_lists {text : String} {members : List (String × Value)}
    (hparse : Value.parse? text = some (.object members)) :
    ∃ listed, Lists text listed ∧ members = sortMembers listed := by
  simp only [Value.parse?, Option.ite_none_left_eq_some, Bool.not_eq_true] at hparse
  obtain ⟨htrailing, hparse⟩ := hparse
  cases hroot : (Document.read text).root with
  | object docs =>
      rw [hroot] at hparse
      change Doc.value? (nestingLimit - 1 + 1) (.object docs) = _ at hparse
      rw [Doc.value?] at hparse
      obtain ⟨listed, hlisted, hobject⟩ := Option.map_eq_some_iff.mp hparse
      refine ⟨listed, ⟨docs, ?_, hlisted⟩, (Value.object.inj hobject).symm⟩
      rw [← hroot, ← htrailing]
  | array items =>
      rw [hroot] at hparse
      change Doc.value? (nestingLimit - 1 + 1) (.array items) = _ at hparse
      rw [Doc.value?] at hparse
      simp at hparse
  | _ => simp [hroot, Doc.value?] at hparse

/-- The compact text of an object lists its members, with the members of their values sorted. -/
theorem lists_compact {members : List (String × Value)} (hexact : (Value.object members).Exact)
    (hwithin : (Value.object members).Within nestingLimit) :
    Lists (Value.object members).compact (Value.sortedMembers members) := by
  refine ⟨Value.memberDocs members, Document.read_compact hexact, memberValues?_memberDocs ?_⟩
  cases hwithin with
  | object _ _ hmembers => exact fun m hm => (hmembers m hm).value?_doc

/-- A value that is neither a container nor a fraction. -/
inductive Value.Plain : Value → Prop
  | null : Plain .null
  | bool (b : Bool) : Plain (.bool b)
  | word (n : UInt64) : Plain (.word n)
  | string (s : String) : Plain (.string s)

theorem Value.Plain.exact {v : Value} (hplain : v.Plain) : v.Exact := by
  cases hplain with
  | null => exact .null
  | bool b => exact .bool b
  | word n => exact .number _ (.natural n)
  | string s => exact .string s

theorem Value.Plain.within {v : Value} (hplain : v.Plain) (room : Nat) : v.Within room := by
  cases hplain with
  | null => exact .null room
  | bool b => exact .bool room b
  | word n => exact .number room _
  | string s => exact .string room s

theorem Value.Plain.sorted {v : Value} (hplain : v.Plain) : v.sorted = v := by
  cases hplain <;> rfl

/-- The compact text of an object without containers in it lists its members as they are. -/
theorem lists_plain (members : List (String × Value)) (hplain : ∀ m ∈ members, m.2.Plain) :
    Lists (Value.object members).compact members := by
  have hlists := lists_compact (.object members fun m hm => (hplain m hm).exact)
    (.object _ members fun m hm => (hplain m hm).within _)
  have hsorted : Value.sortedMembers members = members := by
    clear hlists
    induction members with
    | nil => rfl
    | cons m rest ih =>
        obtain ⟨hm, hrest⟩ := List.forall_mem_cons.mp hplain
        rw [Value.sortedMembers, hm.sorted, ih hrest]
  rwa [hsorted] at hlists

/-! ## Members in order -/

variable {members members' : List (String × Value)}

/-- Ascending members are found under their names. -/
theorem Ascending.mem_iff_lookup (hsorted : Ascending members) {name : String} {v : Value} :
    (name, v) ∈ members ↔ members.lookup name = some v := by
  induction members with
  | nil => simp
  | cons head rest ih =>
      obtain ⟨k, w⟩ := head
      obtain ⟨hhead, hrest⟩ := List.pairwise_cons.mp hsorted
      rw [List.mem_cons, ih hrest, lookup_cons_iff, Prod.mk.injEq]
      constructor
      · rintro (hhere | hfound)
        · exact .inl hhere
        · refine .inr ⟨?_, hfound⟩
          rintro rfl
          exact String.lt_irrefl _ (hhead (name, v) ((ih hrest).mpr hfound))
      · rintro (hhere | ⟨-, hfound⟩)
        · exact .inl hhere
        · exact .inr hfound

/-- Ascending members are equal when the values of all names are. -/
theorem Ascending.eq_of_lookup (hsorted : Ascending members) (hsorted' : Ascending members')
    (hsame : ∀ name, members.lookup name = members'.lookup name) : members = members' := by
  have hirrefl : Std.Irrefl fun a b : String × Value => a.1 < b.1 :=
    ⟨fun a => String.lt_irrefl a.1⟩
  have hantisymm : Std.Antisymm fun a b : String × Value => a.1 < b.1 :=
    ⟨fun a b hlt hgt => absurd hgt (String.lt_asymm hlt)⟩
  refine hsorted.eq_of_mem_iff hsorted' fun ⟨name, v⟩ => ?_
  rw [hsorted.mem_iff_lookup, hsorted'.mem_iff_lookup, hsame]

/-- Filtered ascending members are equal when the values of all names that are kept are. -/
theorem Ascending.filter_eq (hsorted : Ascending members) (hsorted' : Ascending members')
    {keep : String → Bool}
    (hsame : ∀ name, keep name = true → members.lookup name = members'.lookup name) :
    (members.filter fun m => keep m.1) = members'.filter fun m => keep m.1 := by
  have hfound : ∀ {listed : List (String × Value)}, Ascending listed → ∀ name v,
      (listed.filter fun m => keep m.1).lookup name = some v ↔
        keep name = true ∧ listed.lookup name = some v := by
    intro listed hlisted name v
    have hfilter : Ascending (listed.filter fun m => keep m.1) := hlisted.filter _
    rw [← hfilter.mem_iff_lookup, List.mem_filter, hlisted.mem_iff_lookup, and_comm]
  refine Ascending.eq_of_lookup (hsorted.filter _) (hsorted'.filter _) fun name => ?_
  ext v
  rw [hfound hsorted, hfound hsorted']
  exact and_congr_right fun hkept => by rw [hsame name hkept]

/-- Removing a name does not change the values of the others. -/
theorem get?_filter_of_ne (members : List (String × Value)) {name other : String}
    (hother : other ≠ name) :
    (Value.object (members.filter fun m => m.1 != name)).get? other =
      (Value.object members).get? other := by
  induction members using List.reverseRecOn with
  | nil => rfl
  | append_singleton members m ih =>
      rw [List.filter_append, get?_concat]
      by_cases hm : m.1 = name
      · have hne : other ≠ m.1 := hm ▸ hother
        simp [hm, hother, ih]
      · have hkept : [m].filter (fun m => m.1 != name) = [m] := by simp [hm]
        rw [hkept, get?_concat, ih]

/-- A name that was removed has no value. -/
theorem get?_filter_self (members : List (String × Value)) (name : String) :
    (Value.object (members.filter fun m => m.1 != name)).get? name = none := by
  simp [Value.get?, ← List.filter_reverse]

/-- Members with distinct names are found under their names. -/
theorem mem_iff_get? (hdistinct : (members.map (·.1)).Nodup) {name : String} {v : Value} :
    (name, v) ∈ members ↔ (Value.object members).get? name = some v := by
  induction members using List.reverseRecOn with
  | nil => simp [Value.get?]
  | append_singleton members m ih =>
      obtain ⟨k, w⟩ := m
      rw [List.map_append, List.nodup_append] at hdistinct
      obtain ⟨hbefore, -, hnew⟩ := hdistinct
      rw [List.mem_append, ih hbefore, List.mem_singleton, get?_concat, Prod.mk.injEq]
      by_cases hname : name = k
      · have hnotBefore : (Value.object members).get? name ≠ some v := by
          intro hfound
          have hmem : name ∈ members.map (·.1) := List.mem_map_of_mem ((ih hbefore).mpr hfound)
          exact hnew name hmem k (List.mem_singleton_self k) hname
        simp [hname, hname ▸ hnotBefore, eq_comm]
      · simp [hname]

/-- Sorting members with distinct names is a permutation. -/
theorem sortMembers_perm (hdistinct : (members.map (·.1)).Nodup) :
    (sortMembers members).Perm members := by
  have hsorted := ascending_sortMembers members
  have hnodup : (sortMembers members).Nodup :=
    List.Pairwise.imp (fun hlt => by rintro rfl; exact String.lt_irrefl _ hlt) hsorted
  refine (List.perm_ext_iff_of_nodup hnodup hdistinct.of_map).mpr fun ⟨name, v⟩ => ?_
  rw [hsorted.mem_iff_lookup, ← get?_of_ascending hsorted, get?_sortMembers, mem_iff_get? hdistinct]

/-- A text is an object with exactly these members, whose names are distinct, so that all of them
are read. -/
structure Spells (text : String) (members : List (String × Value)) : Prop where
  lists : Lists text members
  distinct : (members.map (·.1)).Nodup
  read : ∃ parsed, Value.parse? text = some (.object parsed) ∧ parsed.Perm members

/-- The compact text of an object without containers in it spells its members. -/
theorem spells_plain (hplain : ∀ m ∈ members, m.2.Plain) (hdistinct : (members.map (·.1)).Nodup) :
    Spells (Value.object members).compact members where
  lists := lists_plain members hplain
  distinct := hdistinct
  read := ⟨_, (lists_plain members hplain).parse?, sortMembers_perm hdistinct⟩

/-! ## Records -/

mutual

/-- Nothing is broken in the document of a value. -/
theorem Value.intact_doc : ∀ v : Value, v.doc.intact = true
  | .null => rfl
  | .bool _ => rfl
  | .number _ => rfl
  | .string _ => rfl
  | .array items => Value.itemsIntact_itemDocs items
  | .object members => Value.membersIntact_memberDocs members

/-- Nothing is broken in the documents of items. -/
theorem Value.itemsIntact_itemDocs :
    ∀ items : List Value, Doc.itemsIntact (Value.itemDocs items) = true
  | [] => rfl
  | v :: rest => by
      rw [Value.itemDocs, Doc.itemsIntact, v.intact_doc, Value.itemsIntact_itemDocs rest]
      rfl

/-- Nothing is broken in the documents of members. -/
theorem Value.membersIntact_memberDocs :
    ∀ members : List (String × Value), Doc.membersIntact (Value.memberDocs members) = true
  | [] => rfl
  | (_, v) :: rest => by
      rw [Value.memberDocs, Doc.membersIntact, v.intact_doc, Value.membersIntact_memberDocs rest]
      rfl

end

/-- The document of a member is found under its name. -/
theorem find?_memberDocs (members : List (String × Value)) (name : String) :
    ((Value.memberDocs members).find? fun member => member.1 == some name).map (·.2) =
      (members.lookup name).map Value.doc := by
  induction members with
  | nil => rfl
  | cons m rest ih =>
      obtain ⟨k, v⟩ := m
      rw [Value.memberDocs]
      by_cases hname : name = k
      · simp [hname]
      · have hbeq : (name == k) = false := beq_eq_false_iff_ne.mpr hname
        simp [List.lookup_cons, hbeq, Ne.symm hname, ih]

/-- The check of a record that tolerates undeclared members does not depend on them. -/
theorem checkMembers_memberDocs (rules : List Rule) (r : Reading) (seen : List String)
    (members : List (String × Value)) :
    checkMembers rules true r seen (Value.memberDocs members) =
      checkMembers rules true r seen
        (Value.memberDocs (members.filter fun m => (rules.map (·.name)).contains m.1)) := by
  induction members generalizing seen with
  | nil => rfl
  | cons m rest ih =>
      obtain ⟨k, v⟩ := m
      cases hrule : rules.find? fun rule => rule.name == k with
      | some rule =>
          have hdeclared : (rules.map (·.name)).contains k = true := by
            rw [List.contains_iff_mem]
            have hname : rule.name = k := by simpa using List.find?_some hrule
            exact hname ▸ List.mem_map_of_mem (List.mem_of_find?_eq_some hrule)
          rw [List.filter_cons, if_pos hdeclared]
          simp only [Value.memberDocs, checkMembers, hrule, ih]
      | none =>
          have hundeclared : ¬ (rules.map (·.name)).contains k = true := by
            rw [List.contains_iff_mem, List.mem_map]
            rintro ⟨rule, hmem, hname⟩
            exact List.find?_eq_none.mp hrule rule hmem (beq_iff_eq.mpr hname)
          rw [List.filter_cons, if_neg hundeclared]
          simp only [Value.memberDocs, checkMembers, hrule, Value.intact_doc, Bool.not_true,
            Bool.false_eq_true, if_false, if_true, ih]

namespace Fields

variable {α β : Type}

/-- A record is built from the documents under its declared names only. -/
def Local (f : Fields α) : Prop :=
  ∀ (r : Reading) (missing : String → Fault) (find find' : String → Option Doc),
    (∀ name ∈ f.rules.map (·.name), find name = find' name) →
      f.build r missing find = f.build r missing find'

theorem local_field (name : String) (d : Decoder α) (default : Option α) :
    (field name d default).Local := by
  intro r missing find find' hsame
  simp only [field, hsame name (List.mem_singleton_self name)]

theorem local_pure (a : α) : (pure a : Fields α).Local := fun _ _ _ _ _ => rfl

theorem Local.seq {f : Fields (α → β)} {g : Fields α} (hf : f.Local) (hg : g.Local) :
    (f <*> g).Local := by
  intro r missing find find' hsame
  have hnames : (f <*> g).rules.map (·.name) = f.rules.map (·.name) ++ g.rules.map (·.name) :=
    List.map_append
  rw [hnames, List.forall_mem_append] at hsame
  change (do let h ← f.build r missing find; let a ← g.build r missing find; .ok (h a)) =
    (do let h ← f.build r missing find'; let a ← g.build r missing find'; .ok (h a))
  rw [hf r missing find find' hsame.1, hg r missing find find' hsame.2]

theorem Local.map {g : Fields α} (hg : g.Local) (h : α → β) : (h <$> g).Local :=
  (local_pure h).seq hg

end Fields

/-- A decoder has the same result on any two objects that agree under these names. -/
def Decoder.Heeds {α : Type} (d : Decoder α) (names : List String) : Prop :=
  ∀ members members' : List (String × Value),
    (∀ name ∈ names, (Value.object members).get? name = (Value.object members').get? name) →
      d.ofValue (.object (sortMembers members)) = d.ofValue (.object (sortMembers members'))

/-- A decoder of records depends on the declared names only. -/
theorem Fields.Local.heeds {α : Type} {f : Fields α} (hlocal : f.Local) (name : String) :
    (f.record name).Heeds (f.rules.map (·.name)) := by
  intro members members' hsame
  have hlookup : ∀ field ∈ f.rules.map (·.name),
      (sortMembers members).lookup field = (sortMembers members').lookup field := by
    intro field hfield
    rw [← get?_of_ascending (ascending_sortMembers _), ← get?_of_ascending (ascending_sortMembers _),
      get?_sortMembers, get?_sortMembers, hsame field hfield]
  have hchecked : ∀ r, checkMembers f.rules true r [] (Value.memberDocs (sortMembers members)) =
      checkMembers f.rules true r [] (Value.memberDocs (sortMembers members')) := by
    intro r
    rw [checkMembers_memberDocs, checkMembers_memberDocs _ _ _ (sortMembers members'),
      (ascending_sortMembers members).filter_eq (ascending_sortMembers members')]
    exact fun field hfield => hlookup field (List.contains_iff_mem.mp hfield)
  have hbuilt : ∀ r, f.build r .missingField (fun field =>
        ((Value.memberDocs (sortMembers members)).find? fun m => m.1 == some field).map (·.2)) =
      f.build r .missingField fun field =>
        ((Value.memberDocs (sortMembers members')).find? fun m => m.1 == some field).map (·.2) := by
    intro r
    refine hlocal r _ _ _ fun field hfield => ?_
    rw [find?_memberDocs, find?_memberDocs, hlookup field hfield]
  simp only [Decoder.ofValue, Value.doc, record, decoder, hchecked, hbuilt]

end Json
end SupplierGateway
