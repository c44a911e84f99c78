import Mathlib.Data.List.DropRight
import SupplierGateway.Cache.Credential

/-!
# Endpoints and their spellings

The base of an endpoint neither begins with a blank nor ends with a slash.  Blanks are removed from
a text before the slashes at its end, and not again after that.  A blank before these slashes is
therefore left at the end of the base, and then the base is not read as itself.  All other spellings
of one base are read as the same endpoint.

* `dropTrailing_eq_rdropWhile` — dropping from the end as `List.rdropWhile`;
* `SlashAfterBlank` and `Surrounds` — blanks and slashes around a text;
* `parse_eq_ok_iff` and `scheme_of_web` — the texts that are read, and their bases;
* `slashAfterBlank_iff` — when the base ends with a blank;
* `Canonical` and `canonical_unless_slash_after_blank` — the properties of an endpoint that was
  read;
* `blank_left_at_end` — with a blank before the slashes the base is read as another one, or as none.
-/

namespace SupplierGateway

namespace Text

/-! ## Ends of texts -/

/-- Dropping from the end is `List.rdropWhile`. -/
theorem dropTrailing_eq_rdropWhile (p : Char → Bool) (cs : List Char) :
    dropTrailing p cs = cs.rdropWhile p := by
  induction cs using List.reverseRecOn with
  | nil => rfl
  | append_singleton cs c ih =>
      by_cases hc : p c = true
      · have hall : ∀ d ∈ [c], p d = true := by simpa using hc
        rw [dropTrailing_append_of_all hall, List.rdropWhile_concat_pos p cs c hc, ih]
      · rw [dropTrailing_concat (Bool.not_eq_true _ ▸ hc), List.rdropWhile_concat_neg p cs c hc]

/-- The last character that is kept does not satisfy the predicate. -/
theorem getLast?_dropTrailing {p : Char → Bool} {cs : List Char} {c : Char}
    (hc : c ∈ (dropTrailing p cs).getLast?) : p c = false := by
  rw [dropTrailing_eq_rdropWhile] at hc
  have hne : cs.rdropWhile p ≠ [] := by
    intro hnil
    rw [hnil] at hc
    exact nomatch hc
  rw [List.getLast?_eq_getLast_of_ne_nil hne] at hc
  obtain rfl := Option.some.inj hc
  exact Bool.not_eq_true _ ▸ List.rdropWhile_last_not p cs hne

/-- A list whose last character does not satisfy the predicate is unchanged. -/
theorem dropTrailing_eq_self {p : Char → Bool} {cs : List Char}
    (hlast : ∀ c ∈ cs.getLast?, p c = false) : dropTrailing p cs = cs := by
  rw [dropTrailing_eq_rdropWhile, List.rdropWhile_eq_self_iff]
  intro hne
  rw [hlast _ (List.getLast?_eq_getLast_of_ne_nil hne)]
  exact Bool.false_ne_true

end Text

namespace Endpoint

open Text (dropTrailing isBlank trimChars)

/-! ## Spellings -/

/-- A text has slashes at its end, perhaps with blanks after them, and a blank before them. -/
def SlashAfterBlank (text : String) : Prop :=
  ∃ before blank slashes after, isBlank blank = true ∧ slashes ≠ [] ∧ (∀ c ∈ slashes, c = '/') ∧
    (∀ c ∈ after, isBlank c = true) ∧ text.toList = before ++ blank :: (slashes ++ after)

/-- A text is a core with blanks before it, and with blanks and slashes after it. -/
def Surrounds (core : List Char) (text : String) : Prop :=
  ∃ before after, (∀ c ∈ before, isBlank c = true) ∧ (∀ c ∈ after, isBlank c = true ∨ c = '/') ∧
    text.toList = before ++ core ++ after

/-- The text without the blanks around it, and then without the slashes at its end. -/
def remainder (text : String) : List Char := dropTrailing (· == '/') (trimChars text.toList)

/-- The text without blanks at its beginning and without blanks and slashes at its end. -/
def bare (cs : List Char) : List Char :=
  dropTrailing (fun c => isBlank c || c == '/') (cs.dropWhile isBlank)

/-! ## Reading -/

/-- A text consists of blanks, its remainder, slashes and blanks. -/
theorem exists_parts (text : String) :
    ∃ slashes after, (∀ c ∈ slashes, c = '/') ∧ (∀ c ∈ after, isBlank c = true) ∧
      trimChars text.toList = remainder text ++ slashes ∧
      text.toList.dropWhile isBlank = remainder text ++ slashes ++ after := by
  obtain ⟨slashes, htrimmed, hslashes⟩ :=
    Text.dropTrailing_append (· == '/') (trimChars text.toList)
  obtain ⟨after, hskipped, hafter⟩ :=
    Text.dropTrailing_append isBlank (text.toList.dropWhile isBlank)
  refine ⟨slashes, after, fun c hc => beq_iff_eq.mp (hslashes c hc), hafter, htrimmed, ?_⟩
  calc text.toList.dropWhile isBlank
      = trimChars text.toList ++ after := hskipped
    _ = remainder text ++ slashes ++ after := congrArg (· ++ after) htrimmed

/-- A text is read as an endpoint iff its remainder begins with `http://` or `https://`. -/
theorem parse_eq_ok_iff {text : String} {e : Endpoint} :
    parse text = .ok e ↔ e.base.toList = remainder text ∧
      (Text.startsWith "http://" e.base = true ∨ Text.startsWith "https://" e.base = true) := by
  have hparse : parse text =
      if (String.ofList (remainder text)).isEmpty then .error .emptyBaseUrl
      else if Text.startsWith "http://" (String.ofList (remainder text)) ||
          Text.startsWith "https://" (String.ofList (remainder text)) then
        .ok { base := String.ofList (remainder text) }
      else .error (.baseUrl text) := rfl
  constructor
  · intro hok
    rw [hparse] at hok
    split at hok
    · exact nomatch hok
    split at hok
    · next hweb =>
      obtain rfl := Except.ok.inj hok
      exact ⟨String.toList_ofList, Bool.or_eq_true_iff.mp hweb⟩
    · exact nomatch hok
  · rintro ⟨hbase, hweb⟩
    have hsame : String.ofList (remainder text) = e.base := by
      rw [← hbase, String.ofList_toList]
    have hne : e.base.isEmpty = false := by
      rw [String.isEmpty_eq_false_iff]
      rintro hnone
      rw [hnone] at hweb
      exact absurd hweb (by decide)
    rw [hparse, hsame, hne, if_neg Bool.false_ne_true, if_pos (Bool.or_eq_true_iff.mpr hweb)]

/-- The remainder does not end with a slash. -/
theorem ne_slash_of_remainder {text : String} {c : Char} (hc : c ∈ (remainder text).getLast?) :
    c ≠ '/' := by
  have hkept := Text.getLast?_dropTrailing hc
  rintro rfl
  exact absurd hkept (by decide)

/-- The base begins with its scheme and two slashes. -/
theorem scheme_of_web {base : String}
    (hweb : Text.startsWith "http://" base = true ∨ Text.startsWith "https://" base = true) :
    ∃ name rest, '/' ∉ 'h' :: name ∧ base.toList = 'h' :: name ++ '/' :: '/' :: rest := by
  rcases hweb with hweb | hweb
  · obtain ⟨rest, hrest⟩ := List.isPrefixOf_iff_prefix.mp hweb
    exact ⟨['t', 't', 'p', ':'], rest, by decide, hrest.symm⟩
  · obtain ⟨rest, hrest⟩ := List.isPrefixOf_iff_prefix.mp hweb
    exact ⟨['t', 't', 'p', 's', ':'], rest, by decide, hrest.symm⟩

/-! ## Blanks before slashes -/

/-- Trimming a text that ends with slashes removes no blanks before them. -/
theorem trimChars_append_slashes {slashes : List Char} (hne : slashes ≠ [])
    (hslashes : ∀ c ∈ slashes, c = '/') (cs : List Char) :
    trimChars (cs ++ slashes) = cs.dropWhile isBlank ++ slashes := by
  have hslash : isBlank '/' = false := by decide
  have hkept : slashes.dropWhile isBlank = slashes := by
    cases slashes with
    | nil => rfl
    | cons c rest =>
        rw [hslashes c List.mem_cons_self, List.dropWhile_cons_of_neg (by simp [hslash])]
  have hskip : (cs ++ slashes).dropWhile isBlank = cs.dropWhile isBlank ++ slashes := by
    rw [List.dropWhile_append, hkept]
    split
    · next hnone => rw [List.isEmpty_iff.mp hnone, List.nil_append]
    · rfl
  rw [trimChars, hskip]
  refine Text.dropTrailing_eq_self fun c hc => ?_
  rw [List.getLast?_append_of_ne_nil _ hne] at hc
  rw [hslashes c (List.mem_of_getLast? hc), hslash]

/-- A blank at the end of the remainder stands before slashes in the text. -/
theorem slashAfterBlank_of_remainder {text : String} {c : Char}
    (hc : c ∈ (remainder text).getLast?) (hblank : isBlank c = true) : SlashAfterBlank text := by
  obtain ⟨slashes, after, hslashes, hafter, htrimmed, hskipped⟩ := exists_parts text
  obtain ⟨kept, hkept⟩ := List.getLast?_eq_some_iff.mp hc
  refine ⟨text.toList.takeWhile isBlank ++ kept, c, slashes, after, hblank, ?_, hslashes, hafter, ?_⟩
  · -- Without slashes the blank would have been trimmed.
    rintro rfl
    rw [List.append_nil] at htrimmed
    rw [← htrimmed, trimChars] at hc
    exact absurd (Text.getLast?_dropTrailing hc) (by simp [hblank])
  · calc text.toList
        = text.toList.takeWhile isBlank ++ text.toList.dropWhile isBlank :=
          List.takeWhile_append_dropWhile.symm
      _ = _ := by rw [hskipped, hkept]; simp

/-- A blank before the slashes at the end of a text is at the end of its remainder, if the remainder
is not empty. -/
theorem exists_blank_of_slashAfterBlank {text : String} (hspelled : SlashAfterBlank text)
    (hleft : remainder text ≠ []) : ∃ c ∈ (remainder text).getLast?, isBlank c = true := by
  obtain ⟨before, blank, slashes, after, hblank, hne, hslashes, hafter, htext⟩ := hspelled
  have htrimmed : trimChars text.toList = (before ++ [blank]).dropWhile isBlank ++ slashes := by
    have hsplit : text.toList = [] ++ (before ++ [blank] ++ slashes) ++ after := by
      rw [htext]
      simp
    rw [hsplit, Text.trimChars_append (List.forall_mem_nil _) hafter,
      trimChars_append_slashes hne hslashes]
  have hremainder : remainder text =
      dropTrailing (· == '/') ((before ++ [blank]).dropWhile isBlank) := by
    rw [remainder, htrimmed]
    exact Text.dropTrailing_append_of_all (fun c hc => beq_iff_eq.mpr (hslashes c hc)) _
  have hslash : (blank == '/') = false := by
    refine beq_eq_false_iff_ne.mpr ?_
    rintro rfl
    exact absurd hblank (by decide)
  rw [List.dropWhile_append] at hremainder
  split at hremainder
  · -- Nothing but blanks stands before the slashes.
    rw [List.dropWhile_cons_of_pos hblank] at hremainder
    exact absurd hremainder hleft
  · rw [Text.dropTrailing_concat (p := (· == '/')) hslash] at hremainder
    exact ⟨blank, hremainder ▸ List.getLast?_concat, hblank⟩

/-- The base of an endpoint ends with a blank iff the text has one before the slashes at its end. -/
theorem slashAfterBlank_iff {text : String} {e : Endpoint} (hparse : parse text = .ok e) :
    SlashAfterBlank text ↔ ∃ c ∈ e.base.toList.getLast?, isBlank c = true := by
  obtain ⟨hbase, hweb⟩ := parse_eq_ok_iff.mp hparse
  obtain ⟨name, rest, -, hhead⟩ := scheme_of_web hweb
  rw [hbase] at hhead ⊢
  constructor
  · intro hspelled
    exact exists_blank_of_slashAfterBlank hspelled (by rw [hhead]; exact List.cons_ne_nil _ _)
  · rintro ⟨c, hc, hblank⟩
    exact slashAfterBlank_of_remainder hc hblank

/-! ## Cores -/

/-- Without a blank before the slashes at the end, the remainder of a text is the text without the
blanks and slashes around it. -/
theorem remainder_eq_bare {text : String} (hspelled : ¬ SlashAfterBlank text) :
    remainder text = bare text.toList := by
  obtain ⟨slashes, after, hslashes, hafter, -, hskipped⟩ := exists_parts text
  have hdropped : ∀ c ∈ slashes ++ after, (isBlank c || c == '/') = true := by
    intro c hc
    rcases List.mem_append.mp hc with hc | hc
    · simp [hslashes c hc]
    · simp [hafter c hc]
  have hkept : ∀ c ∈ (remainder text).getLast?, (isBlank c || c == '/') = false := by
    intro c hc
    have hsolid : isBlank c = false :=
      Bool.not_eq_true _ ▸ fun hblank => hspelled (slashAfterBlank_of_remainder hc hblank)
    simp [hsolid, ne_slash_of_remainder hc]
  rw [bare, hskipped, List.append_assoc, Text.dropTrailing_append_of_all hdropped,
    Text.dropTrailing_eq_self hkept]

/-- Two texts that surround one core are equal without the blanks and slashes around them. -/
theorem bare_of_surrounds {core : List Char} {text : String} (hcore : Surrounds core text) :
    bare text.toList = bare core := by
  obtain ⟨before, after, hbefore, hafter, htext⟩ := hcore
  have hdropped : ∀ c ∈ after, (isBlank c || c == '/') = true := by
    intro c hc
    rcases hafter c hc with hblank | rfl
    · simp [hblank]
    · simp
  rw [htext, List.append_assoc, bare, List.dropWhile_append_of_pos hbefore, List.dropWhile_append]
  split
  · next hnone =>
    have hrest : ∀ c ∈ after.dropWhile isBlank, (isBlank c || c == '/') = true :=
      fun c hc => hdropped c ((List.dropWhile_sublist _).subset hc)
    rw [bare, List.isEmpty_iff.mp hnone, Text.dropTrailing_eq_nil_iff.mpr hrest,
      Text.dropTrailing_nil]
  · rw [Text.dropTrailing_append_of_all hdropped, bare]

/-! ## Endpoints -/

/-- The properties of the endpoint as which a text was read. -/
structure Canonical (text : String) (e : Endpoint) : Prop where
  no_leading_blank : ∀ c ∈ e.base.toList.head?, isBlank c = false
  no_trailing_slash : ∀ c ∈ e.base.toList.getLast?, c ≠ '/'
  /-- The base ends with a blank iff the text has one before the slashes at its end. -/
  no_trailing_blank : (∀ c ∈ e.base.toList.getLast?, isBlank c = false) ↔ ¬ SlashAfterBlank text
  /-- The base is read as the same endpoint, with the same exception. -/
  read_again : parse e.base = .ok e ↔ ¬ SlashAfterBlank text
  /-- Another spelling is read as an endpoint with the same addresses and the same keys, with the
  same exception. -/
  other_spelling : ¬ SlashAfterBlank text → ∀ core other, Surrounds core text →
    Surrounds core other →
      ((∃ e', parse other = .ok e' ∧ (∀ path, e'.url path = e.url path) ∧
        ∀ c, Cache.key e' c = Cache.key e c) ↔ ¬ SlashAfterBlank other)

/-- A base is read as itself if and only if it does not end with a blank. -/
theorem read_again_iff {e : Endpoint}
    (hweb : Text.startsWith "http://" e.base = true ∨ Text.startsWith "https://" e.base = true)
    (hslash : ∀ c ∈ e.base.toList.getLast?, c ≠ '/') :
    parse e.base = .ok e ↔ ∀ c ∈ e.base.toList.getLast?, isBlank c = false := by
  have hskipped : e.base.toList.dropWhile isBlank = e.base.toList := by
    obtain ⟨name, rest, -, hbase⟩ := scheme_of_web hweb
    rw [hbase]
    exact List.dropWhile_cons_of_neg (by decide)
  rw [parse_eq_ok_iff, and_iff_left hweb]
  constructor
  · intro hself c hc
    obtain ⟨slashes, after, -, -, htrimmed, hparts⟩ := exists_parts e.base
    -- Nothing of the base was taken away, in particular no blank.
    rw [hskipped, ← hself, List.append_assoc, List.self_eq_append_right,
      List.append_eq_nil_iff] at hparts
    rw [hparts.1, List.append_nil, ← hself] at htrimmed
    rw [← htrimmed, trimChars] at hc
    exact Text.getLast?_dropTrailing hc
  · intro hlast
    rw [remainder, trimChars, hskipped, Text.dropTrailing_eq_self hlast]
    exact (Text.dropTrailing_eq_self fun c hc => beq_eq_false_iff_ne.mpr (hslash c hc)).symm

/-- Two spellings of one core without a blank before the slashes at their ends are read alike. -/
theorem parse_of_surrounds {core : List Char} {text other : String} {e : Endpoint}
    (hparse : parse text = .ok e) (htext : Surrounds core text) (hother : Surrounds core other)
    (hspelled : ¬ SlashAfterBlank text) (hspelled' : ¬ SlashAfterBlank other) :
    parse other = .ok e := by
  obtain ⟨hbase, hweb⟩ := parse_eq_ok_iff.mp hparse
  refine parse_eq_ok_iff.mpr ⟨?_, hweb⟩
  calc e.base.toList
      = remainder text := hbase
    _ = bare text.toList := remainder_eq_bare hspelled
    _ = bare core := bare_of_surrounds htext
    _ = bare other.toList := (bare_of_surrounds hother).symm
    _ = remainder other := (remainder_eq_bare hspelled').symm

/-- Endpoints with the same addresses are the same. -/
theorem eq_of_url_eq {e e' : Endpoint} (hurl : ∀ path, e'.url path = e.url path) : e' = e := by
  have hbase := hurl ""
  rw [url, url, String.append_empty, String.append_empty] at hbase
  cases e
  cases e'
  exact congrArg _ hbase

/-- The base of an endpoint has neither blanks around it nor slashes at its end, it is read as the
same endpoint, and all spellings of it are — unless a blank stands before the slashes at the end of
a text, and exactly then not. -/
theorem canonical_unless_slash_after_blank {text : String} {e : Endpoint}
    (hparse : parse text = .ok e) : Canonical text e := by
  obtain ⟨hbase, hweb⟩ := parse_eq_ok_iff.mp hparse
  have hslash : ∀ c ∈ e.base.toList.getLast?, c ≠ '/' :=
    fun c hc => ne_slash_of_remainder (hbase ▸ hc)
  have hblank : (∀ c ∈ e.base.toList.getLast?, isBlank c = false) ↔ ¬ SlashAfterBlank text := by
    rw [slashAfterBlank_iff hparse]
    simp
  refine ⟨?_, hslash, hblank, (read_again_iff hweb hslash).trans hblank, ?_⟩
  · obtain ⟨name, rest, -, hhead⟩ := scheme_of_web hweb
    intro c hc
    rw [hhead] at hc
    obtain rfl := Option.some.inj hc
    decide
  · intro hspelled core other htext hother
    constructor
    · rintro ⟨e', hparse', hurl, -⟩ hspelled'
      obtain rfl := eq_of_url_eq hurl
      obtain ⟨c, hc, hends⟩ := (slashAfterBlank_iff hparse').mp hspelled'
      exact absurd (hblank.mpr hspelled c hc) (by simp [hends])
    · intro hspelled'
      exact ⟨e, parse_of_surrounds hparse htext hother hspelled hspelled', fun _ => rfl,
        fun _ => rfl⟩

/-- With blanks around it and slashes at its end, a base is read as the same endpoint. -/
theorem spelled_with_and_without_slashes :
    ∃ e e', parse " https://api.example// " = .ok e ∧ parse "https://api.example" = .ok e' ∧
      ∀ path, e'.url path = e.url path := by
  have hparse : parse " https://api.example// " = .ok { base := "https://api.example" } := by decide
  have hplain : parse "https://api.example" = .ok { base := "https://api.example" } := by decide
  have hcanonical := canonical_unless_slash_after_blank hparse
  have hspelled := hcanonical.read_again.mp hplain
  have hspelled' := (canonical_unless_slash_after_blank hplain).read_again.mp hplain
  have hbefore : ∀ c ∈ [' '], isBlank c = true := List.forall_mem_singleton.mpr (by decide)
  have hafter : ∀ c ∈ ['/', '/', ' '], isBlank c = true ∨ c = '/' :=
    List.forall_mem_cons.mpr ⟨.inr rfl, List.forall_mem_cons.mpr
      ⟨.inr rfl, List.forall_mem_singleton.mpr (.inl (by decide))⟩⟩
  obtain ⟨e', hparse', hurl, -⟩ :=
    (hcanonical.other_spelling hspelled "https://api.example".toList "https://api.example"
      ⟨[' '], ['/', '/', ' '], hbefore, hafter, by decide⟩
      ⟨[], [], List.forall_mem_nil _, List.forall_mem_nil _, by decide⟩).mpr hspelled'
  exact ⟨_, e', hparse, hparse', hurl⟩

/-- With a blank between two slashes the base ends with the blank, and is read as another one; and a
base that consists of `http://` and a blank is not read as an endpoint. -/
theorem blank_left_at_end :
    parse "https://x/ /" = .ok { base := "https://x/ " } ∧
      parse "https://x/ " = .ok { base := "https://x" } ∧
      parse "http:// /" = .ok { base := "http:// " } ∧
      parse "http:// " = .error (.baseUrl "http:// ") := by
  decide

end Endpoint
end SupplierGateway
