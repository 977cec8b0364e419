import CertGate.Proofs.HeaderFields
import CertGate.Proofs.Utf8RoundTrip

/-!
# Elements of field values

The value of a field may be a list: commas part its elements, and spaces and tabs around them do not
count. A value may hold any bytes, so the elements are read off the bytes. Where all of a value can be
seen, reading them off its text comes to the same.

## Key results

- `elements_append_comma`: at a comma the elements of both sides part
- `encode_of_visible?`: a text that was read from a value is written with the bytes of the value
- `lists_iff`: what a value of `Connection` lists, in terms of its elements
-/

namespace CertGate.Http

/-! ## Elements -/

/-- The byte of a space or a tab, `0x20` or `0x09`. -/
def isBlankByte (b : UInt8) : Bool :=
  b == 0x20 || b == 0x09

/-- The character that `FieldValue.visible?` shows for a byte. -/
def shownByte (b : UInt8) : Char :=
  Char.ofNat b.toNat

namespace FieldValue

/-- The elements of a value: what its commas part, without the blanks of `isBlankByte` around it. -/
def elements (v : FieldValue) : List FieldValue :=
  (Text.pieces 0x2C v).map (Text.trim isBlankByte)

/-- At a comma the `elements` of both sides part. -/
theorem elements_append_comma (v w : FieldValue) :
    elements (v ++ 0x2C :: w) = elements v ++ elements w := by
  rw [elements, Text.pieces_append, List.map_append]
  rfl

/-- A value without a comma is one of its `elements`, and the only one. -/
theorem elements_of_not_mem (v : FieldValue) (h : 0x2C ∉ v) :
    elements v = [Text.trim isBlankByte v] := by
  rw [elements, Text.pieces_of_not_mem v h]
  rfl

end FieldValue

/-! ## Values that can be seen -/

/-- All bytes of the value are visible ASCII characters, spaces or tabs, by `IsVisibleByte`. -/
def IsVisible (v : FieldValue) : Prop :=
  ∀ b ∈ v, IsVisibleByte b

/-- `IsVisible` values are those that `visible?` reads as a text. -/
theorem isVisible_iff (v : FieldValue) : IsVisible v ↔ v.visible?.isSome = true := by
  rw [Option.isSome_iff_exists]
  exact ⟨fun h => ⟨_, (v.visible?_eq_some_iff _).2 ⟨h, rfl⟩⟩,
    fun ⟨text, h⟩ => ((v.visible?_eq_some_iff text).1 h).1⟩

/-- `IsVisibleByte` holds of bytes of ASCII only. -/
theorem IsVisibleByte.toNat_lt {b : UInt8} (h : IsVisibleByte b) : b.toNat < 0x80 := by
  obtain rfl | ⟨-, hlt⟩ := h
  · decide
  · rw [UInt8.lt_iff_toNat_lt] at hlt
    exact Nat.lt_trans hlt (by decide)

/-- `shownByte` shows different bytes differently. -/
theorem shownByte_injective {b b' : UInt8} (h : shownByte b = shownByte b') : b = b' := by
  have hvalue : ∀ b : UInt8, (shownByte b).val.toNat = b.toNat := fun b =>
    Text.Utf8.toNat_val_ofNat b.toNat (Or.inl (Nat.lt_trans b.toNat_lt (by decide)))
  rw [← UInt8.toNat_inj, ← hvalue b, ← hvalue b', h]

/-- Among visible bytes, `Text.isBlank` of the character is `isBlankByte` of the byte. -/
theorem isBlank_shownByte {b : UInt8} (h : IsVisibleByte b) :
    Text.isBlank (shownByte b) = isBlankByte b := by
  -- the visible bytes are tried one by one
  have hall : ∀ n : Fin 128, IsVisibleByte (UInt8.ofNat n) →
      Text.isBlank (shownByte (UInt8.ofNat n)) = isBlankByte (UInt8.ofNat n) := by
    unfold IsVisibleByte
    decide +kernel
  have hbyte := hall ⟨b.toNat, h.toNat_lt⟩
  rw [UInt8.ofNat_toNat] at hbyte
  exact hbyte h

/-- `Text.Utf8.encode` undoes `visible?`. -/
theorem encode_of_visible? (v : FieldValue) (text : List Char) (h : v.visible? = some text) :
    Text.Utf8.encode text = v := by
  obtain ⟨hvisible, rfl⟩ := (v.visible?_eq_some_iff text).1 h
  clear h
  induction v with
  | nil => rfl
  | cons b v ih =>
    have hrest : ∀ b' ∈ v, IsVisibleByte b' := fun b' hb' => hvisible b' (List.mem_cons_of_mem b hb')
    have hone := Text.Utf8.utf8EncodeChar_one b (hvisible b List.mem_cons_self).toNat_lt
    have hv := ih hrest
    rw [List.map_cons, Text.Utf8.encode, List.flatMap_cons, hone, ← Text.Utf8.encode, hv]
    rfl

namespace Headers

/-! ## Lists of names -/

/-- One of the `elements` of `v` is `name`, letters in either case. -/
def Announces (v : FieldValue) (name : String) : Prop :=
  ∃ e ∈ v.elements, fieldName? (e.map shownByte) = some name

/-- A visible `piece` is trimmed alike as bytes and as a text. -/
theorem trim_map_shownByte (piece : FieldValue) (h : IsVisible piece) :
    Text.trim Text.isBlank (piece.map shownByte) = (Text.trim isBlankByte piece).map shownByte := by
  have hblank : ∀ b ∈ piece, (Text.isBlank ∘ shownByte) b = isBlankByte b := fun b hb =>
    isBlank_shownByte (h b hb)
  rw [Text.trim_map, Text.trim_congr hblank]

/-- A visible value `Lists` the names that its `elements` announce, and no other value lists any. -/
theorem lists_iff (v : FieldValue) (name : String) :
    Lists v name ↔ IsVisible v ∧ Announces v name := by
  have hpieces : Text.pieces ',' (v.map fun b => Char.ofNat b.toNat) =
      (Text.pieces 0x2C v).map (·.map shownByte) :=
    -- the commas of the text are those of the bytes
    Text.pieces_map shownByte (fun b (h : shownByte b = shownByte 0x2C) => shownByte_injective h) v
  refine and_congr_right fun hvisible => ?_
  -- and so are the blanks
  have htrim : ∀ piece ∈ Text.pieces 0x2C v, Text.trim Text.isBlank (piece.map shownByte) =
      (Text.trim isBlankByte piece).map shownByte := fun piece hpiece =>
    trim_map_shownByte piece fun b hb =>
      hvisible b (Text.exists_mem_pieces_iff.1 ⟨piece, hpiece, hb⟩).1
  simp only [hpieces, Announces, FieldValue.elements, ← fieldName?_eq_some_iff, List.mem_map]
  constructor
  · rintro ⟨_, ⟨piece, hpiece, rfl⟩, hname⟩
    exact ⟨_, ⟨piece, hpiece, rfl⟩, htrim piece hpiece ▸ hname⟩
  · rintro ⟨_, ⟨piece, hpiece, rfl⟩, hname⟩
    exact ⟨_, ⟨piece, hpiece, rfl⟩, (htrim piece hpiece).symm ▸ hname⟩

end Headers

end CertGate.Http
