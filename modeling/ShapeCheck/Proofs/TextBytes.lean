import Mathlib.Data.String.Basic
import ShapeCheck.Text.Basic

/-!
# Characters and bytes of a text

A text is a list of characters, and the bytes of these one after the other.

* `IsBoundary`: a number of bytes that ends between two characters, or before or after all;
* `slice?`: the characters between two boundaries;
* `isBoundary_iff`, `slice?_of_toList`: the characters before a boundary take its number of bytes;
* `getElem?_toByteArray_eq_iff`, `any_isDigitByte`: at a boundary, the byte of an ASCII character
  stands for that character.
-/

namespace ShapeCheck.Text

theorem byteLength_toList (s : String) : byteLength s.toList = s.utf8ByteSize := by
  have h (cs : List Char) : byteLength cs = String.utf8Len cs := by
    induction cs with
    | nil => rfl
    | cons c cs ih => rw [byteLength_cons, ih, String.utf8Len_cons, Nat.add_comm]
  rw [h, ← String.utf8ByteSize_ofList, String.ofList_toList]

theorem byteLength_pos {cs : List Char} (h : cs ≠ []) : 0 < byteLength cs := by
  cases cs with
  | nil => exact absurd rfl h
  | cons c cs =>
    have hc := c.utf8Size_pos
    rw [byteLength_cons]
    omega

/-! ### Boundaries -/

/-- So many bytes of the text end between two characters, or before or after all. -/
def IsBoundary (text : String) (n : Nat) : Prop := (⟨n⟩ : String.Pos.Raw).IsValid text

instance (text : String) (n : Nat) : Decidable (IsBoundary text n) :=
  inferInstanceAs (Decidable (String.Pos.Raw.IsValid _ _))

theorem IsBoundary.le {text : String} {n : Nat} (h : IsBoundary text n) :
    n ≤ text.utf8ByteSize := h.le_utf8ByteSize

theorem isBoundary_iff {text : String} {n : Nat} :
    IsBoundary text n ↔
      ∃ before after, text.toList = before ++ after ∧ byteLength before = n := by
  rw [IsBoundary, String.Pos.Raw.isValid_iff_exists_append]
  constructor
  · rintro ⟨before, after, rfl, hn⟩
    refine ⟨before.toList, after.toList, String.toList_append, ?_⟩
    rw [byteLength_toList, ← String.byteIdx_rawEndPos, ← hn]
  · rintro ⟨before, after, hs, rfl⟩
    refine ⟨String.ofList before, String.ofList after, ?_, ?_⟩
    · rw [← String.ofList_append, ← hs, String.ofList_toList]
    · rw [String.Pos.Raw.ext_iff, String.byteIdx_rawEndPos, ← byteLength_toList,
        String.toList_ofList]

/-- The characters from one boundary to another, if the numbers are boundaries in this order. -/
def slice? (text : String) (first last : Nat) : Option (List Char) :=
  if h : IsBoundary text first ∧ IsBoundary text last ∧ first ≤ last then
    some (String.extract (text.pos ⟨first⟩ h.1) (text.pos ⟨last⟩ h.2.1)).toList
  else none

theorem isBoundary_of_slice? {text : String} {first last : Nat} {cs : List Char}
    (h : slice? text first last = some cs) :
    IsBoundary text first ∧ IsBoundary text last ∧ first ≤ last := by
  rw [slice?] at h
  split at h
  · assumption
  · cases h

theorem rawEndPos_ofList (cs : List Char) : (String.ofList cs).rawEndPos = ⟨byteLength cs⟩ := by
  rw [String.Pos.Raw.ext_iff, String.byteIdx_rawEndPos, ← byteLength_toList, String.toList_ofList]

theorem slice?_of_toList {text : String} {before cs after : List Char}
    (h : text.toList = before ++ cs ++ after) :
    slice? text (byteLength before) (byteLength (before ++ cs)) = some cs := by
  have hfirst : IsBoundary text (byteLength before) :=
    isBoundary_iff.2 ⟨before, cs ++ after, by rw [h, List.append_assoc], rfl⟩
  have hlast : IsBoundary text (byteLength (before ++ cs)) := isBoundary_iff.2 ⟨_, after, h, rfl⟩
  have hle : byteLength before ≤ byteLength (before ++ cs) := by
    rw [byteLength_append]
    omega
  have htext : text = String.ofList before ++ (String.ofList cs ++ String.ofList after) := by
    rw [← String.ofList_append, ← String.ofList_append, ← List.append_assoc, ← h,
      String.ofList_toList]
  have hcs : ∃ hpos, (text.slice (text.pos ⟨byteLength before⟩ hfirst)
      (text.pos ⟨byteLength (before ++ cs)⟩ hlast) hpos).copy = String.ofList cs := by
    refine String.copy_slice_eq_iff_splits.2 ⟨String.ofList before, String.ofList after,
      ⟨htext, (rawEndPos_ofList before).symm⟩, ⟨?_, ?_⟩⟩
    · rw [htext, String.append_assoc]
    · rw [← String.ofList_append, rawEndPos_ofList]
      rfl
  obtain ⟨hpos, hcopy⟩ := hcs
  rw [slice?, dif_pos ⟨hfirst, hlast, hle⟩, String.extract_eq_copy_slice _ _ hpos, hcopy,
    String.toList_ofList]

/-! ### Single bytes -/

/-- The byte that a character starts with. -/
def firstByte (c : Char) : UInt8 := (String.utf8EncodeChar c).headD 0

theorem head?_utf8EncodeChar (c : Char) :
    (String.utf8EncodeChar c).head? = some (firstByte c) := by
  have hlen : 0 < (String.utf8EncodeChar c).length := by
    rw [String.length_utf8EncodeChar]
    exact c.utf8Size_pos
  rw [firstByte, List.headD_eq_head?_getD]
  cases h : (String.utf8EncodeChar c).head? with
  | none => simp [List.head?_eq_none_iff.1 h] at hlen
  | some b => rfl

theorem length_flatMap_utf8EncodeChar (cs : List Char) :
    (cs.flatMap String.utf8EncodeChar).length = byteLength cs := by
  induction cs with
  | nil => rfl
  | cons c cs ih =>
    rw [List.flatMap_cons, List.length_append, ih, String.length_utf8EncodeChar, byteLength_cons]

theorem getElem?_toByteArray (bs : List UInt8) (n : Nat) : bs.toByteArray[n]? = bs[n]? := by
  by_cases h : n < bs.length
  · rw [getElem?_pos bs.toByteArray n (List.size_toByteArray ▸ h), List.getElem_toByteArray,
      List.getElem?_eq_getElem h]
  · rw [getElem?_neg bs.toByteArray n (by rwa [List.size_toByteArray]),
      List.getElem?_eq_none (Nat.le_of_not_lt h)]

theorem getElem?_toByteArray_of_toList {text : String} {before after : List Char}
    (h : text.toList = before ++ after) :
    text.toByteArray[byteLength before]? = after.head?.map firstByte := by
  have hbytes : text.toByteArray = (text.toList.flatMap String.utf8EncodeChar).toByteArray := by
    rw [← List.utf8Encode, ← String.toByteArray_ofList, String.ofList_toList]
  rw [hbytes, getElem?_toByteArray, h, List.flatMap_append, ← length_flatMap_utf8EncodeChar,
    List.getElem?_append_right (Nat.le_refl _), Nat.sub_self, ← List.head?_eq_getElem?]
  cases after with
  | nil => rfl
  | cons c after =>
    rw [List.flatMap_cons, List.head?_append, head?_utf8EncodeChar]
    rfl

theorem firstByte_of_lt {c : Char} (h : c.toNat < 128) : firstByte c = c.toUInt8 := by
  have hone : c.utf8Size = 1 := Char.utf8Size_eq_one_iff.2 (Nat.le_of_lt_succ h)
  rw [firstByte, String.utf8EncodeChar_eq_singleton hone]
  rfl

theorem le_toNat_firstByte {c : Char} (h : 128 ≤ c.toNat) : 128 ≤ (firstByte c).toNat := by
  have hv : ¬ c.val.toNat ≤ 127 := Nat.not_le.2 h
  simp only [firstByte, String.utf8EncodeChar, if_neg hv]
  -- two, three or four bytes
  split
  · simp only [List.headD_cons, UInt8.toNat_ofNat']
    omega
  split
  · simp only [List.headD_cons, UInt8.toNat_ofNat']
    omega
  · simp only [List.headD_cons, UInt8.toNat_ofNat']
    omega

theorem toNat_toUInt8_of_lt {c : Char} (h : c.toNat < 128) : c.toUInt8.toNat = c.toNat := by
  rw [Char.toUInt8, UInt32.toNat_toUInt8]
  exact Nat.mod_eq_of_lt (Nat.lt_trans h (by decide))

/-- Where an ASCII character may stand, no other character starts with its byte. -/
theorem firstByte_eq_iff {a c : Char} (ha : a.toNat < 128) : firstByte c = a.toUInt8 ↔ c = a := by
  by_cases hc : c.toNat < 128
  · rw [firstByte_of_lt hc, ← UInt8.toNat_inj, toNat_toUInt8_of_lt hc, toNat_toUInt8_of_lt ha,
      Char.toNat_inj]
  · have hb := le_toNat_firstByte (Nat.le_of_not_lt hc)
    refine iff_of_false (fun h => ?_) (fun h => hc (h ▸ ha))
    rw [h, toNat_toUInt8_of_lt ha] at hb
    omega

/-- The byte is that of a decimal digit. -/
def isDigitByte (b : UInt8) : Bool := '0'.toUInt8 ≤ b && b ≤ '9'.toUInt8

theorem isDigitByte_firstByte (c : Char) : isDigitByte (firstByte c) = c.isDigit := by
  have hdigit : isDigitByte (firstByte c) = true ↔
      48 ≤ (firstByte c).toNat ∧ (firstByte c).toNat ≤ 57 := by
    simp only [isDigitByte, Bool.and_eq_true, decide_eq_true_eq, UInt8.le_iff_toNat_le]
    rfl
  rw [Bool.eq_iff_iff, hdigit, Char.isDigit_iff_toNat, show '0'.toNat = 48 from rfl,
    show '9'.toNat = 57 from rfl]
  by_cases hc : c.toNat < 128
  · rw [firstByte_of_lt hc, toNat_toUInt8_of_lt hc]
  · have hb := le_toNat_firstByte (Nat.le_of_not_lt hc)
    omega

/-! ### Bytes at a boundary -/

section Boundary

variable {text : String} {before after : List Char} (h : text.toList = before ++ after)

include h

theorem size_le_iff : text.utf8ByteSize ≤ byteLength before ↔ after = [] := by
  rw [← byteLength_toList, h, byteLength_append]
  refine ⟨fun hle => ?_, fun ha => by simp [ha]⟩
  by_contra ha
  have hpos := byteLength_pos ha
  omega

theorem getElem?_toByteArray_eq_iff {a : Char} (ha : a.toNat < 128) :
    text.toByteArray[byteLength before]? = some a.toUInt8 ↔ after.head? = some a := by
  rw [getElem?_toByteArray_of_toList h]
  cases after with
  | nil => simp
  | cons c after => simp [firstByte_eq_iff ha]

theorem any_isDigitByte :
    text.toByteArray[byteLength before]?.any isDigitByte = after.head?.any Char.isDigit := by
  rw [getElem?_toByteArray_of_toList h]
  cases after with
  | nil => rfl
  | cons c after => exact isDigitByte_firstByte c

end Boundary

end ShapeCheck.Text
