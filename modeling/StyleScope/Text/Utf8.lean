/-
  StyleScope.Text.Utf8

  Text as bytes.

  Decoding is strict: it accepts exactly what encoding produces (`decode?_eq_some_iff`), so
  surrogates, overlong forms and cut sequences are refused. A byte order mark is a character
  like any other. Bytes that need not be text are shown by `decodeLossy`, with one replacement
  character for each sequence that is no character, as far as it could have been one.
-/
import StyleScope.Text.Basic

namespace StyleScope.Text

/-! ## Text and its bytes -/

/-- The UTF-8 bytes of a text. -/
def encode (t : Text) : ByteArray := (String.ofList t).toUTF8

/-- The text that has these UTF-8 bytes, if there is one. -/
def decode? (b : ByteArray) : Option Text := (String.fromUTF8? b).map String.toList

/-- The number of UTF-8 bytes of a text. -/
def byteLength (t : Text) : Nat := (encode t).size

/-- Decoding undoes encoding. -/
theorem decode?_encode (t : Text) : decode? (encode t) = some t := by
  have h : (encode t).IsValidUTF8 := (String.ofList t).isValidUTF8
  simp only [decode?, String.fromUTF8?, h, dite_true, Option.map_some, Option.some.injEq]
  exact String.toList_ofList

/-- Decoding accepts what encoding produces and nothing else. -/
theorem decode?_eq_some_iff {b : ByteArray} {t : Text} : decode? b = some t ↔ b = encode t := by
  refine ⟨fun h => ?_, fun h => h ▸ decode?_encode t⟩
  obtain ⟨s, hs, rfl⟩ := Option.map_eq_some_iff.1 h
  simp only [String.fromUTF8?] at hs
  split at hs
  · obtain rfl := Option.some.inj hs
    simp [encode, String.fromUTF8, String.ofList_toList]
  · simp at hs

/-! ## Bytes that need not be text -/

/-- The bounds of the bytes that belong behind a leading byte, in order; none if the byte stands
    alone. The first of them keep out overlong forms, surrogates, and numbers beyond the last code
    point. -/
def followers (lead : UInt8) : List (UInt8 × UInt8) :=
  if lead < 0xC2 then []
  else if lead < 0xE0 then [(0x80, 0xBF)]
  else if lead < 0xF0 then
    [(if lead = 0xE0 then 0xA0 else 0x80, if lead = 0xED then 0x9F else 0xBF), (0x80, 0xBF)]
  else if lead < 0xF5 then
    [(if lead = 0xF0 then 0x90 else 0x80, if lead = 0xF4 then 0x8F else 0xBF), (0x80, 0xBF),
      (0x80, 0xBF)]
  else []

/-- How many bytes lie within bounds, one after the other. -/
def countWithin : List (UInt8 × UInt8) → List UInt8 → Nat
  | (low, high) :: bounds, b :: rest => if low ≤ b ∧ b ≤ high then countWithin bounds rest + 1 else 0
  | _, _ => 0

/-- The text of bytes, with the replacement character for what is no text in them. -/
def decodeLossy : List UInt8 → Text
  | [] => []
  | lead :: rest =>
    -- A sequence that breaks off is replaced as far as it goes; a byte that leads none, alone.
    let n := countWithin (followers lead) rest
    (decode? (lead :: rest.take n).toByteArray).getD ['\uFFFD'] ++ decodeLossy (rest.drop n)
termination_by bytes => bytes.length

example : decodeLossy [0x61, 0xE2, 0x82, 0x62, 0xC3, 0xA9] = ['a', '\uFFFD', 'b', 'é'] := by cbv

end StyleScope.Text
