import SupplierGateway.Proofs.Operation.SpreadUnits

/-!
# Calls that are made at once and not abandoned

When no call was abandoned, calls that are made at once have the outcomes of calls that are made one
after another: each request is sent once, and the outcomes are those of the exchanges, in the order
of the requests.

* `length_valuesOf_add_failuresOf` — every outcome is a value or a failure;
* `UnitEnd.settled_of` — a call that was not abandoned has one exchange;
* `SpreadEnd.settled` — the exchanges of all calls in the order of their requests;
* `map_comesTo_of_no_failures` — without a failure the outcomes are the values of the exchanges.
-/

namespace SupplierGateway
namespace Operation

open Audit (CallRecord)
open Call (Exchange Pipeline)
open FanOut (unitOutcome)
open Http (Request)

variable {α : Type} {p : Pipeline} {decode : String → Attempt α} {failFast : Bool}

/-- Every outcome is a value or a failure. -/
theorem length_valuesOf_add_failuresOf (outcomes : List (Except Failure α)) :
    (valuesOf outcomes).length + (failuresOf outcomes).length = outcomes.length := by
  induction outcomes with
  | nil => rfl
  | cons o outcomes ih =>
      cases o with
      | ok a =>
          show (valuesOf outcomes).length + 1 + (failuresOf outcomes).length = _
          rw [List.length_cons]
          omega
      | error f =>
          show (valuesOf outcomes).length + ((failuresOf outcomes).length + 1) = _
          rw [List.length_cons]
          omega

/-- No calls that are made at once. -/
theorem SpreadEnd.nil : SpreadEnd p decode failFast [] [] [] [] where
  length_eq := rfl
  exchange_lt _ hx := absurd hx List.not_mem_nil
  record_lt _ hr := absurd hr List.not_mem_nil
  unit _ _ _ hget := by cases hget

/-- A call among several that was not abandoned has one exchange, which determines its outcome. -/
theorem UnitEnd.settled_of {unit : Nat} {q : Request} {xs : List Exchange} {rs : List CallRecord}
    {o : Except Failure α} (hend : UnitEnd p decode failFast unit (.success q) xs rs o)
    (hkept : failFast = false ∨ ∃ a, o = .ok a) :
    ∃ x, xs = [x] ∧ x.request = p.outgoing q ∧ o = unitOutcome unit (x.comesTo decode) := by
  cases hend with
  | settled _ _ a hcall =>
      cases hcall.undertaken with
      | sent _ x record hrequest hrecord => exact ⟨x, rfl, hrequest, rfl⟩
  | cancelled hfast _ _ hrecorded hrequests =>
      rcases hkept with hslow | ⟨a, ha⟩
      · exact nomatch hslow.symm.trans hfast
      · exact nomatch ha

/-- The concatenation of lists of one entry each. -/
theorem getElem?_flatMap_range {γ : Type} {f : Nat → List γ} {P : Nat → γ → Prop} (n : Nat)
    (hsingle : ∀ i < n, ∃ x, f i = [x] ∧ P i x) :
    ((List.range n).flatMap f).length = n ∧
      ∀ (i : Nat) x, ((List.range n).flatMap f)[i]? = some x → P i x := by
  induction n with
  | zero => exact ⟨rfl, fun i x hx => nomatch hx⟩
  | succ n ih =>
      obtain ⟨hlength, hget⟩ := ih fun i hi => hsingle i (Nat.lt_succ_of_lt hi)
      obtain ⟨last, hlast, hholds⟩ := hsingle n (Nat.lt_succ_self n)
      rw [List.range_succ, List.flatMap_append, List.flatMap_singleton, hlast]
      refine ⟨by simp [hlength], fun i x hx => ?_⟩
      by_cases hi : i < n
      · rw [List.getElem?_append_left (by omega)] at hx
        exact hget i x hx
      · rw [List.getElem?_append_right (by omega), hlength] at hx
        have hzero : i - n = 0 := by
          have hlt := (List.getElem?_eq_some_iff.mp hx).1
          simp only [List.length_singleton] at hlt
          omega
        have hin : i = n := by omega
        rw [hzero] at hx
        obtain rfl := Option.some.inj hx
        exact hin ▸ hholds

/-- When no call was abandoned, each of them sent its request once. -/
theorem SpreadEnd.settled {requests : List Request} {xs : List (Nat × Exchange)}
    {rs : List (Nat × CallRecord)} {outcomes : List (Except Failure α)}
    (hspread : SpreadEnd p decode failFast (requests.map .success) xs rs outcomes)
    (hkept : failFast = false ∨ failuresOf outcomes = []) :
    ∃ sent : List Exchange, (xs.map Prod.snd).Perm sent ∧
      sent.map Exchange.request = requests.map p.outgoing ∧
      outcomes = sent.mapIdx fun unit x => unitOutcome unit (x.comesTo decode) := by
  have hlength : outcomes.length = requests.length := by
    rw [hspread.length_eq, List.length_map]
  -- Each unit has one exchange, which is the one of its request.
  have hsingle : ∀ unit < requests.length, ∃ x, ofUnit unit xs = [x] ∧
      ∃ q, requests[unit]? = some q ∧ x.request = p.outgoing q ∧
        outcomes[unit]? = some (unitOutcome unit (x.comesTo decode)) := by
    intro unit hunit
    have hrequest : (requests.map Attempt.success)[unit]? = some (.success requests[unit]) := by
      simp [hunit]
    have houtcome : outcomes[unit]? = some outcomes[unit] := by simp [hlength, hunit]
    have hok : failFast = false ∨ ∃ a, outcomes[unit] = .ok a := by
      refine hkept.imp_right fun hnone => ?_
      cases ho : outcomes[unit] with
      | ok a => exact ⟨a, rfl⟩
      | error f =>
          have hmem : f ∈ failuresOf outcomes :=
            List.mem_filterMap.mpr ⟨.error f, ho ▸ List.getElem_mem _, rfl⟩
          rw [hnone] at hmem
          exact absurd hmem List.not_mem_nil
    obtain ⟨x, hx, hsent, ho⟩ :=
      (hspread.unit unit _ _ hrequest houtcome).settled_of hok
    exact ⟨x, hx, _, by simp [hunit], hsent, houtcome.trans (congrArg some ho)⟩
  obtain ⟨hsent, hget⟩ := getElem?_flatMap_range requests.length hsingle
  have hperm := flatMap_ofUnit_perm requests.length xs fun x hx => by
    have hlt := hspread.exchange_lt x hx
    rwa [List.length_map] at hlt
  -- Put together unit by unit, the exchanges stand in the order of the requests.
  generalize (List.range requests.length).flatMap (fun unit => ofUnit unit xs) = sent
    at hsent hget hperm
  refine ⟨sent, hperm, ?_, ?_⟩
  · refine List.ext_getElem? fun unit => ?_
    rw [List.getElem?_map, List.getElem?_map]
    cases hx : sent[unit]? with
    | none =>
        have hnone : requests[unit]? = none := by
          rw [List.getElem?_eq_none_iff] at hx ⊢
          omega
        rw [hnone]
        rfl
    | some x =>
        obtain ⟨q, hq, hrequest, -⟩ := hget unit x hx
        rw [hq]
        exact congrArg some hrequest
  · refine List.ext_getElem? fun unit => ?_
    rw [List.getElem?_mapIdx]
    cases hx : sent[unit]? with
    | none =>
        have hnone : outcomes[unit]? = none := by
          rw [List.getElem?_eq_none_iff] at hx ⊢
          omega
        rw [hnone]
        rfl
    | some x =>
        obtain ⟨-, -, -, ho⟩ := hget unit x hx
        exact ho

/-- Without a failure the values are the results of the exchanges, one for each. -/
theorem map_comesTo_of_no_failures (sent : List Exchange) (number : Nat → Nat)
    (hnone : failuresOf (sent.mapIdx fun i x => unitOutcome (number i) (x.comesTo decode)) = []) :
    sent.map (Exchange.comesTo decode) =
      (valuesOf (sent.mapIdx fun i x => unitOutcome (number i) (x.comesTo decode))).map
        .success := by
  induction sent generalizing number with
  | nil => rfl
  | cons x sent ih =>
      rw [List.mapIdx_cons] at hnone ⊢
      cases hx : x.comesTo decode with
      | success a =>
          rw [hx] at hnone
          have hrest := ih (fun i => number (i + 1)) hnone
          rw [List.map_cons, hx, hrest]
          rfl
      | failure f =>
          rw [hx] at hnone
          exact absurd hnone (List.cons_ne_nil _ _)
      | crash text =>
          rw [hx] at hnone
          exact absurd hnone (List.cons_ne_nil _ _)

end Operation
end SupplierGateway
