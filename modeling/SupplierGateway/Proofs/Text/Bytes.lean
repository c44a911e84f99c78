import SupplierGateway.Text.Percent

/-!
# Texts and their bytes

A text is stored and sent as the bytes of its UTF-8 form.  Inside an address these bytes are
percent-encoded, so that no character of the text has a syntactic meaning there.  Both forms are
read back as the text.

* `fromUTF8?_bytes` — the bytes of a text are read as the text;
* `Percent.Written` — the texts that percent-encoding may write, as a grammar;
* `Percent.written_encode` — every encoded text is of that form;
* `Percent.decode_encode` and `Percent.encode_inj` — an encoded text is decoded again, and encoding
  is injective.
-/

namespace SupplierGateway
namespace Text

/-- The bytes of a text are read back as the text. -/
theorem fromUTF8?_bytes (text : String) :
    String.fromUTF8? ⟨text.toUTF8.data.toList.toArray⟩ = some text := by
  rw [Array.toArray_toList, String.toUTF8_eq_toByteArray, String.fromUTF8?,
    dif_pos text.isValidUTF8]
  rfl

namespace Percent

/-! ## Characters -/

/-- Unreserved characters are ASCII characters. -/
theorem unreserved_lt {c : Char} (hc : unreserved c = true) : c.toNat < 128 := by
  have hval : c.val.toNat = c.toNat := rfl
  delta unreserved Char.isAlphanum Char.isAlpha Char.isUpper Char.isLower Char.isDigit at hc
  simp [UInt32.le_iff_toNat_le, hval, ← Char.toNat_inj] at hc
  omega

/-- Hexadecimal digits are unreserved. -/
theorem unreserved_of_hexValue {c : Char} (hc : (hexValue c).isSome = true) :
    unreserved c = true := by
  have hbound : c.toNat < 128 := by
    refine Nat.lt_of_not_le fun hlarge => ?_
    rw [hexValue, if_neg (by omega), if_neg (by omega), if_neg (by omega)] at hc
    exact nomatch hc
  have hall : ∀ n < 128, (hexValue (Char.ofNat n)).isSome = true →
      unreserved (Char.ofNat n) = true := by decide
  have hdigit := hall c.toNat hbound
  rw [Char.ofNat_toNat] at hdigit
  exact hdigit hc

/-- A hexadecimal digit stands for the number for which it was written. -/
theorem hexValue_hexDigit {n : Nat} (hn : n < 16) : hexValue (hexDigit n) = some n := by
  have hall : ∀ n < 16, hexValue (hexDigit n) = some n := by decide
  exact hall n hn

/-! ## Written forms -/

/-- Texts of unreserved characters, and of bytes that are written as `%` and two hexadecimal
digits. -/
inductive Written : List Char → Prop
  | nil : Written []
  | plain (c : Char) (rest : List Char) (hplain : unreserved c = true) (hrest : Written rest) :
      Written (c :: rest)
  | byte (high low : Char) (rest : List Char) (hhigh : (hexValue high).isSome = true)
      (hlow : (hexValue low).isSome = true) (hrest : Written rest) :
      Written ('%' :: high :: low :: rest)

theorem written_encodeByte (b : UInt8) {rest : List Char} (hrest : Written rest) :
    Written (encodeByte b ++ rest) := by
  have hb := b.toNat_lt
  by_cases hplain : unreserved (Char.ofNat b.toNat) = true
  · rw [encodeByte, if_pos hplain]
    exact .plain _ rest hplain hrest
  · rw [encodeByte, if_neg hplain]
    refine .byte _ _ rest ?_ ?_ hrest
    · rw [hexValue_hexDigit (by omega)]
      rfl
    · rw [hexValue_hexDigit (by omega)]
      rfl

/-- An encoded text has the written form. -/
theorem written_encode (s : String) : Written (encode s).toList := by
  rw [encode, String.toList_ofList]
  induction s.toByteArray.data.toList with
  | nil => exact .nil
  | cons b rest ih =>
      rw [List.flatMap_cons]
      exact written_encodeByte b ih

/-- A written form has no other characters than unreserved ones and `%`. -/
theorem Written.unreserved_or {cs : List Char} (hwritten : Written cs) :
    ∀ c ∈ cs, unreserved c = true ∨ c = '%' := by
  induction hwritten with
  | nil => exact List.forall_mem_nil _
  | plain c rest hplain _ ih => exact List.forall_mem_cons.mpr ⟨.inl hplain, ih⟩
  | byte high low rest hhigh hlow _ ih =>
      exact List.forall_mem_cons.mpr ⟨.inr rfl, List.forall_mem_cons.mpr
        ⟨.inl (unreserved_of_hexValue hhigh), List.forall_mem_cons.mpr
          ⟨.inl (unreserved_of_hexValue hlow), ih⟩⟩⟩

/-! ## Decoding -/

/-- An unreserved character stands for itself. -/
theorem decodeBytes_cons {c : Char} (hc : unreserved c = true) (rest : List Char) :
    decodeBytes (c :: rest) = (decodeBytes rest).map (UInt8.ofNat c.toNat :: ·) := by
  have hmark : c ≠ '%' := by
    rintro rfl
    exact absurd hc (by decide)
  rw [decodeBytes.eq_3 c rest (fun _ _ _ h _ => hmark h), if_pos hc]

/-- A byte that was encoded is decoded again, before any text. -/
theorem decodeBytes_encodeByte (b : UInt8) (rest : List Char) :
    decodeBytes (encodeByte b ++ rest) = (decodeBytes rest).map (b :: ·) := by
  have hb := b.toNat_lt
  by_cases hplain : unreserved (Char.ofNat b.toNat) = true
  · have hall : ∀ n < 256, (Char.ofNat n).toNat = n := by decide +kernel
    rw [encodeByte, if_pos hplain, List.singleton_append, decodeBytes_cons hplain, hall _ hb,
      UInt8.ofNat_toNat]
  · have hbyte : UInt8.ofNat (16 * (b.toNat / 16) + b.toNat % 16) = b := by
      rw [Nat.div_add_mod, UInt8.ofNat_toNat]
    rw [encodeByte, if_neg hplain]
    simp only [List.cons_append, List.nil_append, decodeBytes]
    rw [hexValue_hexDigit (by omega), hexValue_hexDigit (by omega)]
    cases decodeBytes rest with
    | none => rfl
    | some bytes => exact congrArg (fun byte => some (byte :: bytes)) hbyte

theorem decodeBytes_flatMap (bytes : List UInt8) :
    decodeBytes (bytes.flatMap encodeByte) = some bytes := by
  induction bytes with
  | nil => rfl
  | cons b rest ih => rw [List.flatMap_cons, decodeBytes_encodeByte, ih, Option.map_some]

/-- A text that was encoded is decoded again. -/
theorem decode_encode (s : String) : decode (encode s) = some s := by
  rw [decode, encode, String.toList_ofList, decodeBytes_flatMap]
  exact fromUTF8?_bytes s

/-- Encoding is injective. -/
theorem encode_inj {s t : String} : encode s = encode t ↔ s = t := by
  constructor
  · intro hsame
    have hdecoded := congrArg decode hsame
    rw [decode_encode, decode_encode] at hdecoded
    exact Option.some.inj hdecoded
  · exact congrArg encode

end Percent
end Text
end SupplierGateway
