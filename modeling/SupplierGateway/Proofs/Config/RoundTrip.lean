import SupplierGateway.Config.Load
import SupplierGateway.Proofs.Json.SpreadText
import SupplierGateway.Proofs.Text.Bytes

/-!
# Configurations are read back from their JSON

A configuration that is written as JSON and read again is the same configuration: every string of
it, with any characters, every timeout of a phase under the name of the phase, the number of workers
or its absence, and credentials under the tag of their kind.  This holds also of configurations that
are not valid; validity is needed because loading a file validates the configuration.

* `Credential.decoder_doc`, `Timeouts.decoder_doc`, `Config.decoder_doc` — each part is read back from
  its document, in any form;
* `Timeouts.ofList_overridesOf` — timeouts are determined by the list of those that phases have;
* `Config.read_of_mem_texts` and `Config.ofFile_of_mem_texts` — the compact and the spread text of a
  configuration are read as the configuration;
* `Config.ofFile_written` — valid configurations, and those loaded from environments, are loaded
  unchanged.
-/

namespace SupplierGateway

open Json (Form Value)

namespace Json
namespace Decoder

/-- A count or null is read back. -/
@[simp] theorem nullable_count_doc (r : Reading) (n : Option UInt64) :
    count.nullable r ((n.map Value.word).getD .null).doc = .ok n := by
  cases n with
  | none => rfl
  | some n => exact nullable_doc (count_doc r n)

end Decoder
end Json

namespace Phase

/-- A phase is found by its name. -/
@[simp] theorem variantOf_name (phase : Phase) :
    Json.Decoder.variantOf named none phase.name = .ok phase := by
  cases phase <;> rfl

end Phase

namespace Credential

theorem exact_json (c : Credential) : c.json.Exact := by
  cases c <;> refine .object _ fun m hm => ?_ <;>
    simp only [List.mem_cons, List.not_mem_nil, or_false] at hm
  case none =>
    subst hm
    exact .string _
  all_goals
    rcases hm with rfl | rfl | rfl <;> exact .string _

/-- Two strings under their names are read back, in either order of declaration. -/
theorem pairOf_doc (make : String → String → Credential) {first second : String}
    (hne : first ≠ second) (variantName a b : String) (form : Form) (room : Nat) :
    pairOf make first second variantName { form, room := room + 1 }
        (.object [(some first, .string a), (some second, .string b)]) = .ok (make a b) := by
  simp [pairOf, Json.Fields.decoder, Json.Reading.enter, Json.checkMembers, Json.Fields.required,
    Json.Fields.field, Seq.seq, Functor.map, Json.Decoder.string, bind, Except.bind, Except.map,
    hne, hne.symm]

/-- Members that are strings under names of their own, as documents. -/
def textDocs (members : List (String × String)) : List (Option String × Json.Doc) :=
  members.map fun m => (some m.1, .string m.2)

/-- Once the tag has been met, strings under other names are kept whole. -/
theorem splitMembers_texts (r : Json.Reading) (kind : Kind) {members : List (String × String)}
    (hnames : ∀ m ∈ members, m.1 ≠ "type") (others : List (Option String × Json.Doc)) :
    splitMembers r (some kind) others (textDocs members) =
      .ok (some kind, (textDocs members).reverse ++ others) := by
  induction members generalizing others with
  | nil => rfl
  | cons m members ih =>
      obtain ⟨hname, hrest⟩ := List.forall_mem_cons.mp hnames
      have hdemand : demandValue r (.string m.2) = .ok () := rfl
      simp only [textDocs, List.map_cons] at ih ⊢
      rw [splitMembers, if_neg hname, hdemand]
      simp [bind, Except.bind, ih hrest]

/-- Credentials with their tag in front are read by the decoder of the kind. -/
theorem decoder_tagged (tag : String) {kind : Kind}
    (htag : Json.Decoder.variantOf kinds Option.none tag = .ok kind)
    (members : List (String × String)) (hnames : ∀ m ∈ members, m.1 ≠ "type") (form : Form)
    (room : Nat) :
    decoder { form, room := room + 1 }
        (.object ((some "type", .string tag) :: textDocs members)) =
      ofKind { form, room := room + 1 } (.object (textDocs members)) kind := by
  simp [decoder, Json.Reading.enter, splitMembers, readKind, htag, splitMembers_texts _ _ hnames,
    bind, Except.bind]

/-- Credentials of every kind are read back. -/
theorem decoder_doc (c : Credential) (form : Form) (room : Nat) :
    decoder { form, room := room + 1 } c.json.doc = .ok c := by
  cases c with
  | none => exact decoder_tagged "none" rfl [] (by simp) form room
  | apiKey header value =>
      exact (decoder_tagged "api_key" rfl [("header", header), ("value", value)] (by simp) form
        room).trans (pairOf_doc apiKey (by decide) "ApiKey" header value _ room)
  | client id secret =>
      exact (decoder_tagged "client_credentials" rfl
        [("client_id", id), ("client_secret", secret)] (by simp) form room).trans
        (pairOf_doc client (by decide) "ClientCredentials" id secret _ room)

end Credential

namespace Timeouts

open Json.Decoder (readEntries)

/-- The timeouts of some phases, in their order. -/
def overridesOf (t : Timeouts) (phases : List Phase) : List (Phase × UInt64) :=
  phases.filterMap fun phase => (t.override phase).map fun ms => (phase, ms)

theorem exact_json (t : Timeouts) : t.json.Exact := by
  refine .object _ fun m hm => ?_
  rcases List.mem_cons.mp hm with rfl | hm
  · exact Value.exact_word _
  · obtain rfl := List.mem_singleton.mp hm
    refine .object _ fun m hm => ?_
    obtain ⟨phase, -, hphase⟩ := List.mem_filterMap.mp hm
    obtain ⟨ms, -, rfl⟩ := Option.map_eq_some_iff.mp hphase
    exact Value.exact_word _

/-- Members that are named for phases are read back as the timeouts of these phases. -/
theorem readEntries_members (t : Timeouts) (r : Json.Reading) (phases : List Phase) :
    readEntries (Json.Decoder.variantOf Phase.named none) Json.Decoder.word64 r
        (Value.memberDocs (phases.filterMap fun phase =>
          (t.override phase).map fun ms => (phase.name, .word ms))) =
      .ok (t.overridesOf phases) := by
  induction phases with
  | nil => rfl
  | cons phase phases ih =>
      cases hphase : t.override phase with
      | none => simpa [overridesOf, hphase] using ih
      | some ms =>
          simp only [overridesOf] at ih
          simp [overridesOf, hphase, Value.memberDocs, readEntries, ih, bind, Except.bind]

/-- Timeouts that are set one after another: every phase of the list has the timeout it is listed
with, if any, and the others keep theirs. -/
theorem override_foldl (t base : Timeouts) (phases : List Phase) (p : Phase) :
    ((t.overridesOf phases).foldl (fun t entry => t.withPhase entry.1 entry.2) base).override p =
      if p ∈ phases then (t.override p).or (base.override p) else base.override p := by
  induction phases generalizing base with
  | nil => rfl
  | cons phase phases ih =>
      have hrest := ih base
      cases hphase : t.override phase with
      | none =>
          have hnone : t.overridesOf (phase :: phases) = t.overridesOf phases := by
            simp [overridesOf, hphase]
          rw [hnone, ih]
          by_cases hp : p = phase
          · subst hp
            simp [hphase]
          · simp [hp]
      | some ms =>
          have hsome : t.overridesOf (phase :: phases) = (phase, ms) :: t.overridesOf phases := by
            simp [overridesOf, hphase]
          rw [hsome, List.foldl_cons, ih]
          by_cases hp : p = phase
          · subst hp
            simp [withPhase, hphase]
          · simp [withPhase, hp]

/-- Timeouts are the default and the timeouts of all phases that have one. -/
theorem ofList_overridesOf (t : Timeouts) : ofList t.default (t.overridesOf Phase.all) = t := by
  have hdefault : ∀ (overrides : List (Phase × UInt64)) (base : Timeouts),
      (overrides.foldl (fun t entry => t.withPhase entry.1 entry.2) base).default =
        base.default := by
    intro overrides base
    induction overrides generalizing base with
    | nil => rfl
    | cons entry overrides ih => exact ih _
  refine ext_iff_all.mpr ⟨hdefault _ _, fun phase hphase => ?_⟩
  rw [ofList, override_foldl, if_pos hphase, Option.or_none]

/-- Timeouts are read back. -/
theorem decoder_doc (t : Timeouts) (form : Form) (room : Nat) :
    decoder { form, room := room + 2 } t.json.doc = .ok t := by
  have hentries := t.readEntries_members { form, room } Phase.all
  rw [← overrideMembers] at hentries
  simp [decoder, Json.Fields.record, Json.Fields.decoder, json, Value.doc, Value.memberDocs,
    Json.Reading.enter, Json.checkMembers, Json.Fields.defaulting, Json.Fields.field, Seq.seq,
    Functor.map, bind, Except.bind, Except.map, Json.Decoder.entries, hentries,
    ofList_overridesOf]

end Timeouts

namespace Config

/-- The settings of the cache are read back. -/
theorem cacheDecoder_doc (singleFlight : Bool) (form : Form) (room : Nat) :
    cacheDecoder { form, room := room + 1 }
        (.object [(some "single_flight", .bool singleFlight)]) = .ok singleFlight := by
  simp [cacheDecoder, Json.Fields.record, Json.Fields.decoder, Json.Reading.enter,
    Json.checkMembers, Json.Fields.defaulting, Json.Fields.field, bind, Except.bind, Except.map,
    Json.Decoder.bool]

/-- The settings of a fan-out are read back. -/
theorem fanOutDecoder_doc (c : Config) (form : Form) (room : Nat) :
    fanOutDecoder { form, room := room + 1 } c.fanOutJson.doc =
      .ok (c.maxWorkers, c.failFast, c.maxPages) := by
  simp [fanOutDecoder, Json.Fields.record, Json.Fields.decoder, fanOutJson, Value.doc,
    Value.memberDocs, Json.Reading.enter, Json.checkMembers, Json.Fields.defaulting,
    Json.Fields.optional, Json.Fields.field, Seq.seq, Functor.map, bind, Except.bind, Except.map,
    Json.Decoder.bool]

/-- A configuration is read back, whether it is valid or not. -/
theorem decoder_doc (c : Config) (form : Form) (room : Nat) :
    decoder { form, room := room + 3 } c.json.doc = .ok c := by
  have hcredential := c.credential.decoder_doc form (room + 1)
  have htimeouts := c.timeouts.decoder_doc form room
  have hcache := cacheDecoder_doc c.singleFlight form (room + 1)
  have hfanOut := c.fanOutDecoder_doc form (room + 1)
  simp [decoder, Json.Fields.record, Json.Fields.decoder, json, Value.doc,
    Value.memberDocs, Json.Reading.enter, Json.checkMembers, Json.Fields.defaulting,
    Json.Fields.field, Seq.seq, Functor.map, bind, Except.bind, Except.map,
    Json.Decoder.string, hcredential, htimeouts, hcache, hfanOut]

theorem exact_json (c : Config) : c.json.Exact := by
  refine .object _ fun m hm => ?_
  simp only [List.mem_cons, List.not_mem_nil, or_false] at hm
  rcases hm with rfl | rfl | rfl | rfl | rfl
  · exact .string _
  · exact c.credential.exact_json
  · exact c.timeouts.exact_json
  · refine .object _ fun m hm => ?_
    obtain rfl := List.mem_singleton.mp hm
    exact .bool _
  · refine .object _ fun m hm => ?_
    simp only [List.mem_cons, List.not_mem_nil, or_false] at hm
    rcases hm with rfl | rfl | rfl
    · cases c.maxWorkers with
      | none => exact .null
      | some workers => exact Value.exact_word workers
    · exact .bool _
    · exact Value.exact_word _

/-- The texts that a configuration is written as, on one line or on many. -/
def texts (c : Config) : List String := [c.json.compact, c.json.spread]

/-- Either text of a configuration is read as its document. -/
theorem read_of_mem_texts {c : Config} {text : String} (htext : text ∈ c.texts) :
    Json.Document.read text = { root := c.json.doc, trailing := false } := by
  simp only [texts, List.mem_cons, List.not_mem_nil, or_false] at htext
  rcases htext with rfl | rfl
  · exact Json.Document.read_compact c.exact_json
  · exact Json.Document.read_spread c.exact_json

/-- A validated configuration is valid and unchanged. -/
theorem validated_eq_ok {c found : Config} :
    c.validated = .ok found ↔ found = c ∧ c.validate = .ok () := by
  unfold validated
  cases hvalid : c.validate with
  | ok _ => simp [eq_comm]
  | error e => simp

/-- A file with either text of a valid configuration is loaded as that configuration. -/
theorem ofFile_of_mem_texts {c : Config} (hvalid : c.validate = .ok ()) {text : String}
    (htext : text ∈ c.texts) : ofFile (.bytes text.toUTF8) = .ok c := by
  have hbytes : String.fromUTF8? text.toUTF8 = some text := Text.fromUTF8?_bytes text
  have hread : Json.Decoder.ofText decoder text = .ok c := by
    have hdoc := c.decoder_doc .text 124
    simp only [Json.Decoder.ofText, read_of_mem_texts htext, bind, Except.bind, Json.nestingLimit]
    rw [hdoc]
    rfl
  have hvalidated : c.validated = .ok c := validated_eq_ok.mpr ⟨rfl, hvalid⟩
  simp only [ofFile, hbytes, ofText, hread, hvalidated]

/-- The result of two steps in a row is that of the second on the result of the first. -/
theorem exists_of_bind_eq_ok {ε α β : Type} {x : Except ε α} {f : α → Except ε β} {b : β}
    (hbind : (x >>= f) = .ok b) : ∃ a, f a = .ok b := by
  cases x with
  | ok a => exact ⟨a, hbind⟩
  | error e => cases hbind

/-- A configuration that is loaded from an environment is valid. -/
theorem validate_of_ofEnvironment {env : Environment} {c : Config}
    (hloaded : ofEnvironment env = .ok c) : c.validate = .ok () := by
  unfold ofEnvironment at hloaded
  obtain ⟨credential, hloaded⟩ := exists_of_bind_eq_ok hloaded
  obtain ⟨defaultMs, hloaded⟩ := exists_of_bind_eq_ok hloaded
  obtain ⟨authMs, hloaded⟩ := exists_of_bind_eq_ok hloaded
  obtain ⟨bookingMs, hloaded⟩ := exists_of_bind_eq_ok hloaded
  obtain ⟨workers, hloaded⟩ := exists_of_bind_eq_ok hloaded
  obtain ⟨pages, hloaded⟩ := exists_of_bind_eq_ok hloaded
  obtain ⟨failFast, hloaded⟩ := exists_of_bind_eq_ok hloaded
  obtain ⟨singleFlight, hloaded⟩ := exists_of_bind_eq_ok hloaded
  obtain ⟨rfl, hvalid⟩ := validated_eq_ok.mp hloaded
  exact hvalid

/-- A valid configuration that is written to a file, compact or spread, is loaded from it unchanged,
and so is every configuration that is loaded from an environment. -/
theorem ofFile_written :
    (∀ c : Config, c.validate = .ok () → ∀ text ∈ c.texts,
        ofFile (.bytes text.toUTF8) = .ok c) ∧
      ∀ (env : Environment) (c : Config), ofEnvironment env = .ok c → ∀ text ∈ c.texts,
        ofFile (.bytes text.toUTF8) = .ok c :=
  ⟨fun _ hvalid _ htext => ofFile_of_mem_texts hvalid htext,
    fun _ _ hloaded _ htext => ofFile_of_mem_texts (validate_of_ofEnvironment hloaded) htext⟩

/-- A configuration with characters to be escaped and characters beyond the first plane, blanks
around the base url, the largest numbers, and a timeout of one phase. -/
def unusual : Config where
  baseUrl := "\thttps://supplier.example/café?\"\\ "
  credential := .client "id\x00\n\"" "\\\x7f🚗"
  timeouts := Timeouts.withPhase { default := 18446744073709551615 } .bookingStatus 1
  singleFlight := true
  maxWorkers := some 18446744073709551615
  maxPages := 4294967295

/-- An environment with a key, a timeout of one phase and a flag. -/
def sparse : Environment := fun name =>
  [("RENTGATE_SUPPLIER_URL", "https://supplier.example"), ("RENTGATE_API_KEY", "\"\\\n"),
    ("RENTGATE_AUTH_TIMEOUT_MS", "250"), ("RENTGATE_FAIL_FAST", " yEs")].lookup name

/-- The unusual configuration is loaded unchanged, and so is the one of the sparse environment. -/
theorem ofFile_written_unusual :
    unusual.validate = .ok () ∧
      ofFile (.bytes unusual.json.spread.toUTF8) = .ok unusual ∧
      ∃ c, ofEnvironment sparse = .ok c ∧ c.timeouts.resolve .auth = 250 ∧
        ofFile (.bytes c.json.compact.toUTF8) = .ok c := by
  have hvalid : unusual.validate = .ok () := rfl
  obtain ⟨hvalids, henvironments⟩ := ofFile_written
  refine ⟨hvalid, ?_, _, rfl, rfl, ?_⟩
  · exact hvalids unusual hvalid _ (List.mem_cons_of_mem _ List.mem_cons_self)
  · exact henvironments sparse _ rfl _ List.mem_cons_self

end Config
end SupplierGateway
