import SupplierGateway.Proofs.Json.Records
import SupplierGateway.Supplier.Replies

/-!
# Replies are read from their declared fields

A reader of replies looks first for an error that the supplier reports.  When the last `error` of a
body is a text that is not blank, that text is the result, even if the rest of the body cannot be
read.  Otherwise the result is determined by the values under the names that the reader declares,
the last of each name; any other `error` is ignored like every name that is not declared.

A booking that is made and a booking that is asked for are read by the same reader.

* `Declares` — the names that each reader declares;
* `Reports` — a body reports an error of the supplier's own;
* `readBody_reported` and `readBody_unreported` — a body that lists members, read with any decoder;
* `HeedsErrors` — the property of a reader, which is kept by a check of the value that was read;
* `error_first_then_declared_fields` — the statement, for every reader and every body;
* `sold_out_and_repeated_reference` — an error over fields that cannot be read, and two bodies that
  agree in their declared fields.
-/

namespace SupplierGateway
namespace Supplier

open Json (Decoder Fields Lists Value sortMembers)

variable {α β : Type}

/-- The names that a reader of replies declares. -/
inductive Declares : ∀ {α : Type}, (String → Except Failure α) → List String → Prop
  | token : Declares readToken ["access_token", "expires_in"]
  | locations : Declares readLocations ["total_pages", "locations"]
  | availability : Declares readAvailability ["vehicles"]
  | quote : Declares readQuote ["vehicle_class", "total", "rate_reference"]
  | booking : Declares readBooking ["reference", "status"]
  | cancellation : Declares readCancellation ["reference", "cancelled"]

/-- The last error among the members of a body is a text that is not blank. -/
def Reports (members : List (String × Value)) (text : String) : Prop :=
  (Value.object members).get? "error" = some (.string text) ∧ Text.blank text = false

/-! ## Reported errors -/

/-- A text is an error of the supplier's own when it is not blank. -/
theorem ofDomain_some (text : String) :
    Failure.ofDomain (some text) =
      if Text.blank text then none else some (.supplier (Text.trim text)) := by
  have hempty : (Text.trim text).isEmpty = Text.blank text := by
    rw [Bool.eq_iff_iff, String.isEmpty_iff, Text.trim, String.ofList_eq_empty_iff,
      Text.blank_iff_trimChars]
  rw [← hempty]
  rfl

/-- An error that is reported is the text without the blanks around it. -/
theorem Reports.reportedError {members : List (String × Value)} {text : String}
    (hreports : Reports members text) :
    reportedError (.object members) = some (.supplier (Text.trim text)) := by
  rw [Supplier.reportedError, hreports.1]
  change Failure.ofDomain (some text) = _
  rw [ofDomain_some, hreports.2]
  rfl

/-- There is no reported error if the body reports none. -/
theorem reportedError_eq_none {members : List (String × Value)}
    (hnone : ∀ text, ¬ Reports members text) : reportedError (.object members) = none := by
  rw [reportedError]
  cases herror : (Value.object members).get? "error" with
  | none => rfl
  | some v =>
      cases v with
      | string text =>
          change Failure.ofDomain (some text) = none
          have hblank : Text.blank text = true := by
            simpa using fun hnotBlank => hnone text ⟨herror, hnotBlank⟩
          rw [ofDomain_some, if_pos hblank]
      | _ => rfl

/-- Sorting members does not change the reported error. -/
theorem reportedError_sortMembers (members : List (String × Value)) :
    reportedError (.object (sortMembers members)) = reportedError (.object members) := by
  rw [reportedError, Json.get?_sortMembers, reportedError]

/-! ## Bodies -/

variable {body other : String} {members members' : List (String × Value)} {names : List String}

/-- An error that is reported is the result, for any other members of the body. -/
theorem readBody_reported (d : Decoder α) (hlists : Lists body members) {text : String}
    (hreports : Reports members text) :
    readBody d body = .error (.supplier (Text.trim text)) := by
  rw [readBody, hlists.parse?]
  simp only [reportedError_sortMembers, hreports.reportedError]

/-- A body that reports no error is read with the decoder. -/
theorem readBody_unreported (d : Decoder α) (hlists : Lists body members)
    (hnone : ∀ text, ¬ Reports members text) :
    readBody d body =
      match d.ofValue (.object (sortMembers members)) with
      | .ok a => .ok a
      | .error fault => .error (malformed fault) := by
  have hreported := reportedError_sortMembers members
  rw [reportedError_eq_none hnone] at hreported
  cases hvalue : d.ofValue (.object (sortMembers members)) <;>
    simp only [readBody, hlists.parse?, hreported, hvalue]

/-! ## Readers -/

/-- A reader gives an error that is reported first, and otherwise depends on these names only. -/
structure HeedsErrors (read : String → Except Failure α) (names : List String) : Prop where
  reported : ∀ body members, Lists body members → ∀ text, Reports members text →
    read body = .error (.supplier (Text.trim text))
  unreported : ∀ body members, Lists body members → (∀ text, ¬ Reports members text) →
    ∀ other members', Lists other members' → (∀ text, ¬ Reports members' text) →
      (∀ name ∈ names, (Value.object members).get? name = (Value.object members').get? name) →
        read body = read other

/-- Reading with a decoder that depends on these names only has the property. -/
theorem heedsErrors_readBody {d : Decoder α} (hheeds : d.Heeds names) :
    HeedsErrors (readBody d) names where
  reported _ _ hbody _ hreports := readBody_reported d hbody hreports
  unreported _ _ hbody hnone _ _ hother hnone' hsame := by
    rw [readBody_unreported d hbody hnone, readBody_unreported d hother hnone', hheeds _ _ hsame]

/-- A check of the value that was read keeps the property. -/
theorem HeedsErrors.bind {read : String → Except Failure α} (hread : HeedsErrors read names)
    (further : α → Except Failure β) : HeedsErrors (fun body => read body >>= further) names where
  reported body members hbody text hreports := by
    rw [hread.reported body members hbody text hreports]
    rfl
  unreported body members hbody hnone other members' hother hnone' hsame := by
    rw [hread.unreported body members hbody hnone other members' hother hnone' hsame]

/-- Every reader of replies has the property, with the names that it declares. -/
theorem Declares.heedsErrors {read : String → Except Failure α} (hdeclares : Declares read names) :
    HeedsErrors read names := by
  cases hdeclares with
  | token =>
      have hlocal := ((Fields.local_field "access_token" Decoder.string none).map IssuedToken.mk).seq
        (Fields.local_field "expires_in" Decoder.word64 (some 0))
      exact (heedsErrors_readBody (hlocal.heeds "TokenPayload")).bind _
  | locations =>
      have hlocal := ((Fields.local_field "total_pages" Decoder.word32 (some 1)).map
        fun pages locations => ({ locations, totalPages := pages } : Rental.LocationPage)).seq
        (Fields.local_field "locations" (Decoder.list Rental.Location.decoder) (some []))
      exact (heedsErrors_readBody (hlocal.heeds "LocationsPagePayload")).bind _
  | availability =>
      have hlocal := Fields.local_field "vehicles" (Decoder.list Rental.VehicleCandidate.decoder)
        (some [])
      exact heedsErrors_readBody (hlocal.heeds "AvailabilityPayload")
  | quote =>
      have hlocal := (((Fields.local_field "vehicle_class" Decoder.string none).map
        fun vehicleClass total rateReference => Rental.VehicleRate.mk vehicleClass total.1 total.2
          rateReference).seq
        (Fields.local_field "total" moneyPayload none)).seq
        (Fields.local_field "rate_reference" Decoder.string none)
      exact (heedsErrors_readBody (hlocal.heeds "QuotePayload")).bind _
  | booking =>
      have hlocal := ((Fields.local_field "reference" Decoder.string none).map
        Rental.BookingConfirmation.mk).seq
        (Fields.local_field "status" Rental.BookingState.decoder none)
      exact heedsErrors_readBody (hlocal.heeds "BookingPayload")
  | cancellation =>
      have hlocal := ((Fields.local_field "reference" Decoder.string none).map
        Rental.Cancellation.mk).seq (Fields.local_field "cancelled" Decoder.bool (some false))
      exact heedsErrors_readBody (hlocal.heeds "CancellationPayload")

/-- No reader declares the name under which errors are reported. -/
theorem Declares.ne_error {read : String → Except Failure α} (hdeclares : Declares read names)
    {name : String} (hname : name ∈ names) : name ≠ "error" := by
  rintro rfl
  cases hdeclares <;> exact absurd hname (by decide)

/-- A body in which the last error is a text that is not blank is read as that error, without the
blanks around it and for any other members.  Any other body is read as if it had no error in it, and
two such bodies have the same result when they have the same values under the names that the reader
declares, the last of each name. -/
theorem error_first_then_declared_fields {read : String → Except Failure α}
    (hdeclares : Declares read names) (hbody : Lists body members) :
    (∀ text, Reports members text → read body = .error (.supplier (Text.trim text))) ∧
      ((∀ text, ¬ Reports members text) →
        (∀ other, Lists other (members.filter fun m => m.1 != "error") → read body = read other) ∧
        ∀ other members', Lists other members' → (∀ text, ¬ Reports members' text) →
          (∀ name ∈ names,
            (Value.object members).get? name = (Value.object members').get? name) →
          read body = read other) := by
  have hheeds := hdeclares.heedsErrors
  refine ⟨hheeds.reported body members hbody, fun hnone => ⟨fun other hother => ?_, ?_⟩⟩
  · refine hheeds.unreported body members hbody hnone other _ hother ?_ fun name hname => ?_
    · rintro text ⟨hreported, -⟩
      rw [Json.get?_filter_self] at hreported
      cases hreported
    · exact (Json.get?_filter_of_ne members (hdeclares.ne_error hname)).symm
  · exact hheeds.unreported body members hbody hnone

/-- An error is reported although the reference is a number and the state is missing.  Of a
reference that is repeated the last counts, and an error that is null is ignored, as is a name that
is not declared. -/
theorem sold_out_and_repeated_reference :
    readBooking (Value.object
        [("error", .null), ("reference", .word 7), ("error", .string " sold out\n")]).compact =
      .error (.supplier "sold out") ∧
    readBooking (Value.object
        [("reference", .string "R-1"), ("error", .null), ("status", .string "pending"),
          ("seats", .word 4), ("reference", .string "R-2")]).compact =
      readBooking (Value.object
        [("reference", .string "R-2"), ("status", .string "pending")]).compact := by
  have hsoldOut := Json.lists_plain
    [("error", .null), ("reference", .word 7), ("error", .string " sold out\n")]
    (by simp [Value.Plain.null, Value.Plain.word, Value.Plain.string])
  have hrepeated := Json.lists_plain
    [("reference", .string "R-1"), ("error", .null), ("status", .string "pending"),
      ("seats", .word 4), ("reference", .string "R-2")]
    (by simp [Value.Plain.null, Value.Plain.word, Value.Plain.string])
  have hplain := Json.lists_plain [("reference", .string "R-2"), ("status", .string "pending")]
    (by simp [Value.Plain.string])
  refine ⟨?_, ?_⟩
  · exact (error_first_then_declared_fields .booking hsoldOut).1 " sold out\n" ⟨rfl, by decide⟩
  · refine ((error_first_then_declared_fields .booking hrepeated).2 ?_).2 _ _ hplain ?_ ?_
    · rintro text ⟨hreported, -⟩
      cases hreported
    · rintro text ⟨hreported, -⟩
      cases hreported
    · simp [Value.get?]

end Supplier
end SupplierGateway
