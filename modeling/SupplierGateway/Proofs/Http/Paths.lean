import Mathlib.Data.List.Induction
import Mathlib.Data.List.TakeWhile

/-!
# Paths of addresses

An address begins with its origin, which is the scheme and the host.  A path follows, and after it
optionally a query and a fragment.  The path is a sequence of segments, each after a slash.  Before
a request is sent the dot segments are removed: `.` is dropped, and `..` together with the segment
before it.

* `Address.parts` — the parts of an address;
* `Address.segments`, `Address.resolve` and `Address.removeDots` — segments, and the removal of dot
  segments;
* `Address.parts_append` — a text that is appended to an address belongs to its path, unless there
  is a query or a fragment;
* `Address.segments_append` — a segment that is appended to a path;
* `Address.resolve_of_plain` — a path without dot segments is unchanged;
* `Address.removeDots_concat` and `Address.removeDots_keeps_iff` — paths with more segments at their
  end.
-/

namespace SupplierGateway
namespace Http
namespace Address

/-- The parts of an address. -/
structure Parts where
  origin : List Char
  path : List Char
  /-- The query and the fragment, with the characters that begin them. -/
  suffix : List Char
deriving DecidableEq, Repr

/-- The character does not begin a query or a fragment. -/
def inPath (c : Char) : Bool := c != '?' && c != '#'

/-- The character does not end the host. -/
def inHost (c : Char) : Bool := c != '/' && inPath c

/-- The parts of an address, in which two slashes stand before the host. -/
def parts (text : List Char) : Parts :=
  let scheme := text.takeWhile (· != '/')
  let marked := text.dropWhile (· != '/')
  let rest := marked.drop 2
  { origin := scheme ++ marked.take 2 ++ rest.takeWhile inHost
    path := (rest.dropWhile inHost).takeWhile inPath
    suffix := (rest.dropWhile inHost).dropWhile inPath }

/-- The segments of a path, each of which stands after a slash. -/
def segments (path : List Char) : List (List Char) := (path.splitOn '/').tail

/-- The segment is `.` or `..`. -/
def IsDot (segment : List Char) : Prop := segment = ['.'] ∨ segment = ['.', '.']

instance (segment : List Char) : Decidable (IsDot segment) := by
  unfold IsDot
  infer_instance

/-- Appends a segment to the resolved segments before it. -/
def follow (reached : List (List Char)) (segment : List Char) : List (List Char) :=
  if segment = ['.'] then reached
  else if segment = ['.', '.'] then reached.dropLast
  else reached ++ [segment]

/-- The segments that remain when dot segments are resolved. -/
def resolve (ss : List (List Char)) : List (List Char) := ss.foldl follow []

/-- The segments with dot segments removed.  A dot segment at the end leaves its slash behind. -/
def removeDots (ss : List (List Char)) : List (List Char) :=
  match ss.getLast? with
  | none => []
  | some last => if IsDot last then resolve ss ++ [[]] else resolve ss

/-! ## Appending to an address -/

/-- `takeWhile` is not changed by appending a list that begins with an element on which the
predicate fails. -/
theorem takeWhile_append_cons {p : Char → Bool} {c : Char} (hc : p c = false) (cs rest : List Char) :
    (cs ++ c :: rest).takeWhile p = cs.takeWhile p := by
  rw [List.takeWhile_append, List.takeWhile_cons_of_neg (by simp [hc]), List.append_nil]
  split
  · next hall => exact ((List.takeWhile_prefix p).eq_of_length hall).symm
  · rfl

theorem dropWhile_append_cons {p : Char → Bool} {c : Char} (hc : p c = false) (cs rest : List Char) :
    (cs ++ c :: rest).dropWhile p = cs.dropWhile p ++ c :: rest := by
  rw [List.dropWhile_append, List.dropWhile_cons_of_neg (by simp [hc])]
  split
  · next hnone => rw [List.isEmpty_iff.mp hnone, List.nil_append]
  · rfl

/-- The parts of an address, when its scheme is known. -/
theorem parts_eq {scheme : List Char} (hscheme : '/' ∉ scheme) (rest : List Char) :
    parts (scheme ++ '/' :: '/' :: rest) =
      { origin := scheme ++ ['/', '/'] ++ rest.takeWhile inHost
        path := (rest.dropWhile inHost).takeWhile inPath
        suffix := (rest.dropWhile inHost).dropWhile inPath } := by
  have hall : ∀ c ∈ scheme, (c != '/') = true := by
    intro c hc
    refine bne_iff_ne.mpr ?_
    rintro rfl
    exact hscheme hc
  have htaken : (scheme ++ '/' :: '/' :: rest).takeWhile (· != '/') = scheme := by
    rw [takeWhile_append_cons (by decide)]
    exact List.takeWhile_eq_self_iff.mpr hall
  have hdropped : (scheme ++ '/' :: '/' :: rest).dropWhile (· != '/') = '/' :: '/' :: rest := by
    rw [dropWhile_append_cons (by decide), List.dropWhile_eq_nil_iff.mpr hall, List.nil_append]
  rw [parts, htaken, hdropped]
  rfl

/-- A text that is appended to an address after a slash does not change its origin.  It belongs to
the path if there is neither a query nor a fragment, and to these otherwise. -/
theorem parts_append {base scheme rest more : List Char}
    (hbase : base = scheme ++ '/' :: '/' :: rest) (hscheme : '/' ∉ scheme)
    (hmore : ∀ c ∈ more, inPath c = true) :
    parts (base ++ '/' :: more) =
      if (parts base).suffix = [] then
        { parts base with path := (parts base).path ++ '/' :: more }
      else { parts base with suffix := (parts base).suffix ++ '/' :: more } := by
  have happended : base ++ '/' :: more = scheme ++ '/' :: '/' :: (rest ++ '/' :: more) := by
    simp [hbase]
  rw [happended, hbase, parts_eq hscheme, parts_eq hscheme, takeWhile_append_cons (by decide),
    dropWhile_append_cons (by decide)]
  generalize rest.dropWhile inHost = tail
  by_cases hplain : tail.dropWhile inPath = []
  · have hall := List.dropWhile_eq_nil_iff.mp hplain
    have hmore' : ∀ c ∈ '/' :: more, inPath c = true :=
      List.forall_mem_cons.mpr ⟨by decide, hmore⟩
    rw [if_pos hplain, List.takeWhile_append_of_pos hall, List.takeWhile_eq_self_iff.mpr hmore',
      List.takeWhile_eq_self_iff.mpr hall, List.dropWhile_append_of_pos hall, hplain,
      List.dropWhile_eq_nil_iff.mpr hmore']
  · -- The query or the fragment has begun before.
    have hlength : (tail.takeWhile inPath).length ≠ tail.length := by
      intro hlength
      have hall := (List.takeWhile_prefix inPath).eq_of_length hlength
      exact hplain (List.dropWhile_eq_nil_iff.mpr (List.takeWhile_eq_self_iff.mp hall))
    have hrest : ¬ (tail.dropWhile inPath).isEmpty = true :=
      fun hnone => hplain (List.isEmpty_iff.mp hnone)
    rw [if_neg hplain, List.takeWhile_append, if_neg hlength, List.dropWhile_append, if_neg hrest]

/-- A segment that is appended to a path is its last one. -/
theorem segments_append {segment : List Char} (hsegment : '/' ∉ segment) (path : List Char) :
    segments (path ++ '/' :: segment) = segments path ++ [segment] := by
  rw [segments, List.splitOn_append_cons_self, List.splitOn_eq_singleton hsegment, segments,
    List.tail_append_of_ne_nil (List.splitOn_ne_nil _ _)]

/-! ## Following segments -/

/-- A last segment is resolved after the segments before it. -/
theorem resolve_concat (ss : List (List Char)) (s : List Char) :
    resolve (ss ++ [s]) = follow (resolve ss) s := by
  rw [resolve, List.foldl_append, List.foldl_cons, List.foldl_nil, resolve]

/-- A segment that is no dot segment is appended. -/
theorem follow_of_plain {s : List Char} (hplain : ¬ IsDot s) (reached : List (List Char)) :
    follow reached s = reached ++ [s] := by
  rw [follow, if_neg fun h => hplain (.inl h), if_neg fun h => hplain (.inr h)]

/-- Segments without dot segments are resolved to themselves. -/
theorem resolve_of_plain {ss : List (List Char)} (hplain : ∀ s ∈ ss, ¬ IsDot s) :
    resolve ss = ss := by
  induction ss using List.reverseRecOn with
  | nil => rfl
  | append_singleton ss s ih =>
      obtain ⟨hfirst, hlast⟩ := List.forall_mem_append.mp hplain
      rw [resolve_concat, ih hfirst, follow_of_plain (hlast s (List.mem_singleton_self s))]

theorem removeDots_concat (ss : List (List Char)) (s : List Char) :
    removeDots (ss ++ [s]) =
      if IsDot s then follow (resolve ss) s ++ [[]] else resolve ss ++ [s] := by
  simp only [removeDots, List.getLast?_concat, resolve_concat]
  by_cases hdot : IsDot s
  · rw [if_pos hdot, if_pos hdot]
  · rw [if_neg hdot, if_neg hdot, follow_of_plain hdot]

/-- A last segment that is not empty, and the one before it, remain when dot segments are removed if
and only if it is not a dot segment. -/
theorem removeDots_keeps_iff {s t : List Char} (hs : ¬ IsDot s) (ht : t ≠ [])
    (ss : List (List Char)) : removeDots (ss ++ [s, t]) = resolve ss ++ [s, t] ↔ ¬ IsDot t := by
  have hsplit : ∀ before : List (List Char), before ++ [s, t] = before ++ [s] ++ [t] := by
    intro before
    rw [List.append_assoc, List.singleton_append]
  rw [hsplit, hsplit, removeDots_concat, resolve_concat, follow_of_plain hs]
  by_cases hdot : IsDot t
  · rw [if_pos hdot]
    -- Only the slash of the dot segment is left.
    refine iff_of_false (fun hsame => ht ?_) (fun h => h hdot)
    exact (List.singleton_inj.mp (List.append_inj' hsame rfl).2).symm
  · rw [if_neg hdot]
    exact iff_of_true rfl hdot

end Address
end Http
end SupplierGateway
