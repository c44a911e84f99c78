import Mathlib.Algebra.Ring.Nat
import Mathlib.Data.List.Forall2
import Mathlib.Data.List.Perm.Basic
import Mathlib.Logic.Relator

/-!
# Lists of members and tables

Each member of a list may have a number: a runner its unit, a caller the lock to which it refers.
When one member is replaced, counts and sums change by the difference of the old and the new member.
A table is a list of keys and values, and removing a key from it does not change the other keys; two
tables may correspond to each other, entry by entry.  Two lists that are joined by a separator are
determined by the whole if the first one is free of it.
-/

namespace SupplierGateway

/-- Replacing a member changes a count by those of the old and the new member. -/
theorem count_filterMap_set {β : Type} (f : β → Option Nat) {l : List β} {i : Nat} {x : β}
    (hget : l[i]? = some x) (y : β) (a : Nat) :
    ((l.set i y).filterMap f).count a + (f x).toList.count a =
      (l.filterMap f).count a + (f y).toList.count a := by
  obtain ⟨hi, rfl⟩ := List.getElem?_eq_some_iff.mp hget
  have hcons : ∀ (z : β) (others : List β),
      ((z :: others).filterMap f).count a =
        (f z).toList.count a + (others.filterMap f).count a := by
    intro z others
    cases hz : f z with
    | none => simp [hz]
    | some b => simp [hz, List.count_cons, Nat.add_comm]
  have hafter := ((List.set_perm_cons_eraseIdx hi y).filterMap f).count_eq a
  have hbefore := ((List.getElem_cons_eraseIdx_perm hi).filterMap f).count_eq a
  rw [hcons] at hafter hbefore
  omega

/-- Replacing a member changes a sum by the weights of the old and the new member. -/
theorem sum_map_set {β : Type} (f : β → Nat) {l : List β} {i : Nat} {x : β}
    (hget : l[i]? = some x) (y : β) :
    ((l.set i y).map f).sum + f x = (l.map f).sum + f y := by
  obtain ⟨hi, rfl⟩ := List.getElem?_eq_some_iff.mp hget
  have hafter := ((List.set_perm_cons_eraseIdx hi y).map f).sum_nat
  have hbefore := ((List.getElem_cons_eraseIdx_perm hi).map f).sum_nat
  rw [List.map_cons, List.sum_cons] at hafter hbefore
  omega

/-- A member of a list in which one was replaced is the new one or one of the others. -/
theorem getElem?_set_cases {β : Type} {l : List β} {i j : Nat} {x y : β}
    (hget : (l.set i x)[j]? = some y) : (j = i ∧ y = x) ∨ (j ≠ i ∧ l[j]? = some y) := by
  rw [List.getElem?_set] at hget
  split at hget
  · next hij =>
    split at hget
    · exact .inl ⟨hij.symm, (Option.some.inj hget).symm⟩
    · exact nomatch hget
  · next hij => exact .inr ⟨fun h => hij h.symm, hget⟩

/-- The parts before and after the first separator are determined by the whole. -/
theorem append_cons_inj {β : Type} {a : β} {before before' : List β} (hbefore : a ∉ before)
    (hbefore' : a ∉ before') {after after' : List β} :
    before ++ a :: after = before' ++ a :: after' ↔ before = before' ∧ after = after' := by
  induction before generalizing before' with
  | nil =>
      cases before' with
      | nil => simp
      | cons b rest =>
          have hne : a ≠ b := fun hab => hbefore' (hab ▸ List.mem_cons_self)
          simp [hne]
  | cons b rest ih =>
      cases before' with
      | nil =>
          have hne : b ≠ a := fun hba => hbefore (hba ▸ List.mem_cons_self)
          simp [hne]
      | cons b' rest' =>
          have hrest : a ∉ rest := fun hin => hbefore (List.mem_cons_of_mem b hin)
          have hrest' : a ∉ rest' := fun hin => hbefore' (List.mem_cons_of_mem b' hin)
          simp [ih hrest hrest', and_assoc]

/-- Equality is one to one. -/
theorem biUnique_eq {β : Type} : Relator.BiUnique (fun b b' : β => b = b') :=
  ⟨fun _ _ _ h h' => h.trans h'.symm, fun _ _ _ h h' => h.symm.trans h'⟩

section Tables

variable {κ β : Type} [BEq κ] [LawfulBEq κ]

/-- The newest entry of a table is found first. -/
theorem lookup_cons_iff {table : List (κ × β)} {key other : κ} {value value' : β} :
    ((key, value) :: table).lookup other = some value' ↔
      (other = key ∧ value' = value) ∨ (other ≠ key ∧ table.lookup other = some value') := by
  rcases eq_or_ne other key with hother | hother
  · subst hother
    simp [eq_comm]
  · have hbeq : (other == key) = false := by simpa using hother
    simp [List.lookup_cons, hbeq, hother]

/-- A key that was removed from a table is no longer in it. -/
theorem lookup_filter_self (table : List (κ × β)) (key : κ) :
    (table.filter fun entry => entry.1 != key).lookup key = none := by
  rw [List.lookup_eq_none_iff]
  intro entry hentry
  have hne : entry.1 ≠ key := by simpa using (List.mem_filter.mp hentry).2
  exact bne_iff_ne.mpr hne.symm

/-- Removing a key from a table does not change the other keys. -/
theorem lookup_filter_of_ne (table : List (κ × β)) {key other : κ}
    (hother : other ≠ key) :
    (table.filter fun entry => entry.1 != key).lookup other = table.lookup other := by
  induction table with
  | nil => rfl
  | cons entry table ih =>
      obtain ⟨k, value⟩ := entry
      rcases eq_or_ne k key with hk | hk
      · subst hk
        have hne : (other == k) = false := by simpa using hother
        simp [List.lookup_cons, hne, ih]
      · simp [hk, List.lookup_cons, ih]

/-- An entry of a table after a key was removed belongs to another key. -/
theorem lookup_of_lookup_filter {table : List (κ × β)} {key other : κ} {value : β}
    (hget : (table.filter fun entry => entry.1 != key).lookup other = some value) :
    other ≠ key ∧ table.lookup other = some value := by
  have hother : other ≠ key := by
    rintro rfl
    exact nomatch (lookup_filter_self table other).symm.trans hget
  exact ⟨hother, (lookup_filter_of_ne table hother).symm.trans hget⟩

variable {K : κ → κ → Prop} {R : β → β → Prop} {table table' : List (κ × β)} {key key' : κ}

/-- Of two tables whose keys correspond one to one, both have an entry of a key or neither has. -/
theorem lookup_rel (hunique : Relator.BiUnique K)
    (htables : List.Forall₂ (fun e e' => K e.1 e'.1 ∧ R e.2 e'.2) table table')
    (hkey : K key key') : Option.Rel R (table.lookup key) (table'.lookup key') := by
  induction htables with
  | nil => exact .none
  | @cons entry entry' _ _ hentry _ ih =>
      have hiff : key = entry.1 ↔ key' = entry'.1 := Relator.rel_eq hunique hkey hentry.1
      rw [List.lookup_cons, List.lookup_cons]
      by_cases hsame : key = entry.1
      · rw [beq_iff_eq.mpr hsame, beq_iff_eq.mpr (hiff.mp hsame)]
        exact .some hentry.2
      · rw [beq_eq_false_iff_ne.mpr hsame, beq_eq_false_iff_ne.mpr fun h => hsame (hiff.mpr h)]
        exact ih

/-- Two tables whose keys correspond one to one still do after a key was removed from both. -/
theorem filter_rel (hunique : Relator.BiUnique K)
    (htables : List.Forall₂ (fun e e' => K e.1 e'.1 ∧ R e.2 e'.2) table table')
    (hkey : K key key') :
    List.Forall₂ (fun e e' => K e.1 e'.1 ∧ R e.2 e'.2) (table.filter fun e => e.1 != key)
      (table'.filter fun e => e.1 != key') := by
  refine List.rel_filter (fun e e' hentry => ?_) htables
  have hiff : e.1 = key ↔ e'.1 = key' := Relator.rel_eq hunique hentry.1 hkey
  simpa using not_congr hiff

end Tables

end SupplierGateway
