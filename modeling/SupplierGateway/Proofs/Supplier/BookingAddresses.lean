import SupplierGateway.Proofs.Endpoint.Canonical
import SupplierGateway.Proofs.Http.Paths
import SupplierGateway.Proofs.Text.Bytes
import SupplierGateway.Supplier.Requests

/-!
# Addresses of bookings

A booking is addressed by its reference, trimmed and percent-encoded, as the last segment of a path.
Different references have different addresses, and no character of a reference ends the segment.
The two references that are dot segments are not changed by the encoding, and are removed from the
path with the other dot segments.

* `Addresses` — the properties of the address of a booking, given its reference;
* `booking_urls_faithful` — the map from references to addresses is injective, with an inverse;
* `LeadsTo` — the path of an address without dot segments;
* `reference_leads_to_its_booking` — a reference leads to its own booking, unless it is a dot segment;
* `dots_lead_elsewhere` — the dot segments lead to the list of all bookings and to the root.
-/

namespace SupplierGateway
namespace Supplier

open Http (Method Request)
open Http.Address (IsDot inPath parts parts_append removeDots resolve segments segments_append)
open Text (isBlank trim)
open Text.Percent (Written decode encode)

variable {e : Endpoint} {reference : String} {q : Request}

/-! ## Addresses and references -/

/-- The properties of the address of a booking, given its reference. -/
inductive Addresses (e : Endpoint) (method : Method) (reference : String) : Build → Prop
  /-- A blank reference addresses nothing. -/
  | blank (hblank : ∀ c ∈ reference.toList, isBlank c = true) :
      Addresses e method reference (.error (.supplier "booking reference cannot be empty"))
  | booking (segment : String) (q : Request) (hreference : trim reference ≠ "")
      (hmethod : q.method = method) (hurl : q.url = e.url ("/bookings/" ++ segment))
      (hwritten : Written segment.toList) (hascii : ∀ c ∈ segment.toList, c.toNat < 128)
      (hdecoded : decode segment = some (trim reference)) :
      Addresses e method reference (.ok q)

theorem addresses_aboutBooking (method : Method) (e : Endpoint) (reference : String) :
    Addresses e method reference (aboutBooking method e reference) := by
  rcases aboutBooking_cases method e reference with
    ⟨hblank, hrefused⟩ | ⟨hreference, q, hbuilt, hmethod, hurl⟩
  · rw [hrefused]
    exact .blank hblank
  · have hwritten := Text.Percent.written_encode (trim reference)
    rw [hbuilt]
    refine .booking (encode (trim reference)) q hreference hmethod hurl hwritten (fun c hc => ?_)
      (Text.Percent.decode_encode _)
    rcases hwritten.unreserved_or c hc with hplain | rfl
    · exact Text.Percent.unreserved_lt hplain
    · decide

/-- A request about a booking, of either kind, has the address that is made of its reference. -/
theorem url_of_built (hbuilt : bookingStatus e reference = .ok q ∨ cancel e reference = .ok q) :
    trim reference ≠ "" ∧ q.url = e.url ("/bookings/" ++ encode (trim reference)) := by
  rcases hbuilt with hbuilt | hbuilt
  · obtain ⟨hreference, -, hurl⟩ := aboutBooking_ok hbuilt
    exact ⟨hreference, hurl⟩
  · obtain ⟨hreference, -, hurl⟩ := aboutBooking_ok hbuilt
    exact ⟨hreference, hurl⟩

/-- The address of a booking ends with its reference, trimmed and percent-encoded, and the reference
can be decoded from it; a blank reference has no address.  Two references have the same address if
and only if they are equal when trimmed. -/
theorem booking_urls_faithful (e : Endpoint) :
    (∀ reference, Addresses e .get reference (bookingStatus e reference) ∧
      Addresses e .delete reference (cancel e reference)) ∧
    ∀ reference other q q', (bookingStatus e reference = .ok q ∨ cancel e reference = .ok q) →
      (bookingStatus e other = .ok q' ∨ cancel e other = .ok q') →
        (q.url = q'.url ↔ trim reference = trim other) := by
  constructor
  · intro reference
    exact ⟨addresses_aboutBooking .get e reference, addresses_aboutBooking .delete e reference⟩
  · intro reference other q q' hbuilt hbuilt'
    rw [(url_of_built hbuilt).2, (url_of_built hbuilt').2, Endpoint.url, Endpoint.url,
      String.append_right_inj, String.append_right_inj, Text.Percent.encode_inj]

/-- Blanks around a reference do not change its address, those inside it do. -/
theorem two_references_addressed :
    let e : Endpoint := { base := "https://api.example" }
    ∃ q q' q'', bookingStatus e "AB 12/3" = .ok q ∧ cancel e "  AB 12/3\t" = .ok q' ∧
      bookingStatus e "AB12/3" = .ok q'' ∧ q.url = q'.url ∧ q.url ≠ q''.url := by
  intro e
  obtain ⟨-, hsame⟩ := booking_urls_faithful e
  refine ⟨_, _, _, rfl, rfl, rfl, ?_, ?_⟩
  · exact (hsame "AB 12/3" "  AB 12/3\t" _ _ (.inl rfl) (.inr rfl)).mpr (by decide)
  · exact fun hurl =>
      absurd ((hsame "AB 12/3" "AB12/3" _ _ (.inl rfl) (.inl rfl)).mp hurl) (by decide)

/-! ## Paths of references -/

/-- The path of the address of a booking without dot segments. -/
inductive LeadsTo (e : Endpoint) (reference url : String) : Prop
  /-- Below a base without query and fragment, the path of the address is that of the base, and two
  more segments.  The second of them is the reference.  When dot segments are removed both segments
  are still there, unless the reference is a dot segment, and exactly then not. -/
  | booking (segment : String) (hbase : (parts e.base.toList).suffix = [])
      (hparts : parts url.toList =
        { parts e.base.toList with
          path := (parts e.base.toList).path ++ "/bookings/".toList ++ segment.toList })
      (hsegments : segments (parts url.toList).path =
        segments (parts e.base.toList).path ++ ["bookings".toList, segment.toList])
      (hnonempty : segment ≠ "") (hdecoded : decode segment = some (trim reference))
      (hstays : removeDots (segments (parts url.toList).path) =
        resolve (segments (parts e.base.toList).path) ++ ["bookings".toList, segment.toList] ↔
          trim reference ≠ "." ∧ trim reference ≠ "..")
      (hplain : (∀ s ∈ segments (parts e.base.toList).path, ¬ IsDot s) →
        resolve (segments (parts e.base.toList).path) = segments (parts e.base.toList).path) :
      LeadsTo e reference url
  /-- Below a base with a query or a fragment, the address is that of the base for all references. -/
  | swallowed (hbase : (parts e.base.toList).suffix ≠ [])
      (horigin : (parts url.toList).origin = (parts e.base.toList).origin)
      (hpath : (parts url.toList).path = (parts e.base.toList).path) : LeadsTo e reference url

/-- An encoded text is a dot segment if and only if the text is. -/
theorem isDot_encode (s : String) : IsDot (encode s).toList ↔ s = "." ∨ s = ".." := by
  have hdot : encode "." = "." := by decide
  have hdots : encode ".." = ".." := by decide
  have hone : (encode s).toList = ['.'] ↔ s = "." := by
    rw [← Text.Percent.encode_inj, hdot, ← String.toList_inj]
    rfl
  have htwo : (encode s).toList = ['.', '.'] ↔ s = ".." := by
    rw [← Text.Percent.encode_inj, hdots, ← String.toList_inj]
    rfl
  exact or_congr hone htwo

/-- The characters of a written form end neither a segment nor a path. -/
theorem inSegment_of_written {cs : List Char} (hwritten : Written cs) :
    '/' ∉ cs ∧ ∀ c ∈ cs, inPath c = true := by
  have hall : ∀ c ∈ cs, c ≠ '/' ∧ inPath c = true := by
    intro c hc
    rcases hwritten.unreserved_or c hc with hplain | rfl
    · simp only [inPath, Bool.and_eq_true, bne_iff_ne]
      refine ⟨?_, ?_, ?_⟩ <;> · rintro rfl; exact absurd hplain (by decide)
    · decide
  exact ⟨fun hslash => (hall _ hslash).1 rfl, fun c hc => (hall c hc).2⟩

/-- A reference leads to its own booking and nowhere else when dot segments are removed, unless it is
a dot segment itself. -/
theorem reference_leads_to_its_booking {text : String} (hparse : Endpoint.parse text = .ok e)
    (hbuilt : bookingStatus e reference = .ok q ∨ cancel e reference = .ok q) :
    LeadsTo e reference q.url := by
  obtain ⟨hreference, hurl⟩ := url_of_built hbuilt
  obtain ⟨name, rest, hscheme, hbase⟩ :=
    Endpoint.scheme_of_web (Endpoint.parse_eq_ok_iff.mp hparse).2
  obtain ⟨hslash, hinPath⟩ := inSegment_of_written (Text.Percent.written_encode (trim reference))
  have hnonempty : encode (trim reference) ≠ "" := by
    have hempty : encode "" = "" := by decide
    rw [← hempty, ne_eq, Text.Percent.encode_inj]
    exact hreference
  have hmore : ∀ c ∈ "bookings/".toList ++ (encode (trim reference)).toList, inPath c = true :=
    List.forall_mem_append.mpr ⟨List.all_eq_true.mp (by decide), hinPath⟩
  have hparts := parts_append hbase hscheme hmore
  have hchars : q.url.toList =
      e.base.toList ++ '/' :: ("bookings/".toList ++ (encode (trim reference)).toList) := by
    rw [hurl, Endpoint.url, String.toList_append, String.toList_append]
    rfl
  rw [← hchars] at hparts
  by_cases hplain : (parts e.base.toList).suffix = []
  · rw [if_pos hplain] at hparts
    have hsegments : segments (parts q.url.toList).path =
        segments (parts e.base.toList).path ++
          ["bookings".toList, (encode (trim reference)).toList] := by
      have hpath : (parts q.url.toList).path =
          (parts e.base.toList).path ++ '/' :: "bookings".toList ++
            '/' :: (encode (trim reference)).toList := by
        rw [hparts, List.append_assoc]
        rfl
      rw [hpath, segments_append hslash, segments_append (by decide), List.append_assoc]
      rfl
    refine .booking (encode (trim reference)) hplain ?_ hsegments hnonempty
      (Text.Percent.decode_encode _) ?_ Http.Address.resolve_of_plain
    · rw [hparts, List.append_assoc]
      rfl
    · have hlist : (encode (trim reference)).toList ≠ [] :=
        fun hnil => hnonempty (String.toList_eq_nil_iff.mp hnil)
      rw [hsegments, Http.Address.removeDots_keeps_iff (by decide) hlist, isDot_encode, not_or]
  · rw [if_neg hplain] at hparts
    exact .swallowed hplain (by rw [hparts]) (by rw [hparts])

/-- A reference with a slash, a question mark and dots in it leads to its own booking below a base
with a path. -/
theorem reference_with_slash_leads :
    ∃ e q, Endpoint.parse " https://api.example/v1/ " = .ok e ∧ cancel e " ../12?x " = .ok q ∧
      LeadsTo e " ../12?x " q.url ∧ removeDots (segments (parts q.url.toList).path) =
        ["v1".toList, "bookings".toList, "..%2F12%3Fx".toList] := by
  have hparse : Endpoint.parse " https://api.example/v1/ " =
      .ok { base := "https://api.example/v1" } := by
    decide
  exact ⟨_, _, hparse, rfl, reference_leads_to_its_booking hparse (.inr rfl), by decide⟩

/-- Below a base without a path, the reference of two dots leads to the root, and the reference of one
dot to the list of all bookings. -/
theorem dots_lead_elsewhere :
    let e : Endpoint := { base := "https://supplier.test" }
    Endpoint.parse "https://supplier.test" = .ok e ∧
      (∃ q, cancel e ".." = .ok q ∧ removeDots (segments (parts q.url.toList).path) = [[]]) ∧
      ∃ q, cancel e "." = .ok q ∧
        removeDots (segments (parts q.url.toList).path) = ["bookings".toList, []] :=
  ⟨by decide, ⟨_, rfl, by decide⟩, _, rfl, by decide⟩

end Supplier
end SupplierGateway
