import LoxTokens.Scan.InPlace
import LoxTokens.Text.Utf8

/-!
# Byte offsets

A byte offset lies between two characters of a source if and only if it is the size of some first
part of the source. Looking at such an offset gives the character that the rest begins with, and the
slice between two of them is the text between the two parts. So the machine's looks at the source can
be followed on texts, without counting bytes.
-/

namespace LoxTokens

namespace Utf8

@[simp]
theorem size_nil : size [] = 0 := rfl

@[simp]
theorem size_append (s t : Text) : size (s ++ t) = size s + size t := by
  simp [size, encode]

theorem utf8ByteSize_ofList (s : Text) : (String.ofList s).utf8ByteSize = size s := by
  induction s with
  | nil => rfl
  | cons c s ih => rw [String.ofList_cons, String.utf8ByteSize_append, ih]; simp

theorem utf8ByteSize_eq (source : String) : source.utf8ByteSize = size source.toList := by
  rw [← utf8ByteSize_ofList, String.ofList_toList]

theorem size_pos {s : Text} (hs : s ≠ []) : 0 < size s := by
  cases s with
  | nil => exact absurd rfl hs
  | cons c s =>
      have hc := c.utf8Size_pos
      rw [size_cons]
      omega

end Utf8

namespace InPlace

variable {source : String} {u v w : Text}

/-! ### Positions in a source that is cut in two -/

theorem eq_append_of_toList (hsource : source.toList = u ++ w) :
    source = String.ofList u ++ String.ofList w := by
  rw [← String.ofList_append, ← hsource, String.ofList_toList]

theorem pos?_offset (p : source.Pos) : source.pos? p.offset = some p := by
  have hvalid : p.offset.isValidForSlice source.toSlice :=
    String.Pos.Raw.isValidForSlice_eq_true_iff.mpr p.toSlice.isValidForSlice
  rw [String.pos?, String.Slice.pos?, dif_pos hvalid]
  rfl

theorem offset_of_pos? {offset : String.Pos.Raw} {p : source.Pos}
    (hp : source.pos? offset = some p) : p.offset = offset := by
  unfold String.pos? String.Slice.pos? at hp
  split at hp <;> cases hp
  rfl

theorem exists_pos?_splits (hsource : source.toList = u ++ w) :
    ∃ p : source.Pos, source.pos? ⟨Utf8.size u⟩ = some p ∧
      p.Splits (String.ofList u) (String.ofList w) := by
  have hsplits := String.Pos.splits_ofEqAppend (eq_append_of_toList hsource)
  refine ⟨_, ?_, hsplits⟩
  have hoffset : (⟨Utf8.size u⟩ : String.Pos.Raw) =
      (String.Pos.ofEqAppend (eq_append_of_toList hsource)).offset := by
    rw [hsplits.offset_eq_rawEndPos, ← Utf8.utf8ByteSize_ofList]
    rfl
  rw [hoffset]
  exact pos?_offset _

theorem get?_of_splits {p : source.Pos} (hsplits : p.Splits (String.ofList u) (String.ofList w)) :
    p.get? = w.head? := by
  cases w with
  | nil =>
      rw [List.head?_nil, String.Pos.get?_eq_none_iff, hsplits.eq_endPos_iff, String.ofList_nil]
  | cons c rest =>
      rw [String.ofList_cons] at hsplits
      have hne := hsplits.ne_endPos_of_singleton
      obtain ⟨after, hafter⟩ := hsplits.exists_eq_singleton_append hne
      have hc := congrArg (·.toList.head?) hafter
      rw [String.Pos.get?_eq_some_get hne]
      simpa using hc.symm

theorem toList_extract_of_splits {p q : source.Pos}
    (hp : p.Splits (String.ofList u) (String.ofList (v ++ w)))
    (hq : q.Splits (String.ofList (u ++ v)) (String.ofList w)) :
    (source.extract p q).toList = v := by
  have hbytes : source.toByteArray = (String.ofList u).toByteArray ++
      ((String.ofList v).toByteArray ++ (String.ofList w).toByteArray) := by
    rw [hp.eq_append, String.toByteArray_append, String.ofList_append, String.toByteArray_append]
  have hstart : p.offset.byteIdx = (String.ofList u).toByteArray.size := by
    rw [hp.offset_eq_rawEndPos]
    rfl
  have hstop : q.offset.byteIdx =
      (String.ofList u).toByteArray.size + (String.ofList v).toByteArray.size := by
    rw [hq.offset_eq_rawEndPos, String.ofList_append, ← ByteArray.size_append,
      ← String.toByteArray_append]
    rfl
  have hextract : source.extract p q = String.ofList v := by
    apply String.toByteArray_inj.mp
    rw [String.toByteArray_extract, hstart, hstop, hbytes, ← Nat.add_zero (ByteArray.size _),
      Nat.add_assoc, ByteArray.extract_append_size_add, Nat.zero_add,
      ByteArray.extract_append_eq_left rfl]
  rw [hextract, String.toList_ofList]

/-! ### Looks at the source -/

/-- A look behind a first part shows what the rest begins with. -/
theorem peek_size (hsource : source.toList = u ++ w) :
    peek source (Utf8.size u) = .ok w.head? := by
  obtain ⟨p, hp, hsplits⟩ := exists_pos?_splits hsource
  rw [peek, hp]
  exact congrArg Except.ok (get?_of_splits hsplits)

theorem slice_size (hsource : source.toList = u ++ v ++ w) :
    slice source (Utf8.size u) (Utf8.size (u ++ v)) = .ok v := by
  obtain ⟨p, hp, hpsplits⟩ := exists_pos?_splits (hsource.trans (List.append_assoc u v w))
  obtain ⟨q, hq, hqsplits⟩ := exists_pos?_splits hsource
  have hle : p ≤ q := by
    refine (hpsplits.le_iff_exists_eq_append hqsplits).mpr ⟨String.ofList v, ?_, ?_⟩
    · exact String.ofList_append
    · exact String.ofList_append
  rw [slice, hp, hq]
  simp only [if_pos hle, toList_extract_of_splits hpsplits hqsplits]

theorem isValid_iff {offset : Nat} : (⟨offset⟩ : String.Pos.Raw).IsValid source ↔
    ∃ u w, source.toList = u ++ w ∧ offset = Utf8.size u := by
  rw [String.Pos.Raw.isValid_iff_exists_append]
  constructor
  · rintro ⟨u, w, rfl, hoffset⟩
    refine ⟨u.toList, w.toList, String.toList_append, ?_⟩
    rw [← Utf8.utf8ByteSize_eq]
    exact congrArg String.Pos.Raw.byteIdx hoffset
  · rintro ⟨u, w, hsource, rfl⟩
    refine ⟨String.ofList u, String.ofList w, eq_append_of_toList hsource, ?_⟩
    rw [← Utf8.utf8ByteSize_ofList]
    rfl

/-! ### When a look fails -/

theorem isValid_of_pos? {offset : Nat} {p : source.Pos} (hp : source.pos? ⟨offset⟩ = some p) :
    (⟨offset⟩ : String.Pos.Raw).IsValid source := by
  rw [← offset_of_pos? hp]
  exact p.isValid

/-- A look succeeds between characters and at the end, and nowhere else. -/
theorem exists_peek_iff {offset : Nat} :
    (∃ next, peek source offset = .ok next) ↔ (⟨offset⟩ : String.Pos.Raw).IsValid source := by
  constructor
  · rintro ⟨next, hpeek⟩
    unfold peek at hpeek
    split at hpeek
    · next p hp => exact isValid_of_pos? hp
    · cases hpeek
  · intro hvalid
    obtain ⟨u, w, hsource, rfl⟩ := isValid_iff.mp hvalid
    exact ⟨w.head?, peek_size hsource⟩

/-- A slice succeeds between two such offsets that are in order. -/
theorem exists_slice_iff {start stop : Nat} :
    (∃ s, slice source start stop = .ok s) ↔
      start ≤ stop ∧ (⟨start⟩ : String.Pos.Raw).IsValid source ∧
        (⟨stop⟩ : String.Pos.Raw).IsValid source := by
  constructor
  · rintro ⟨s, hslice⟩
    unfold slice at hslice
    split at hslice
    · next p q hp hq =>
        split at hslice
        · next hle =>
            have hoffsets : p.offset ≤ q.offset := hle
            rw [offset_of_pos? hp, offset_of_pos? hq] at hoffsets
            exact ⟨hoffsets, isValid_of_pos? hp, isValid_of_pos? hq⟩
        · cases hslice
    · cases hslice
  · rintro ⟨hle, hstart, hstop⟩
    have hp := pos?_offset (source.pos ⟨start⟩ hstart)
    have hq := pos?_offset (source.pos ⟨stop⟩ hstop)
    rw [String.offset_pos] at hp hq
    have hpq : source.pos ⟨start⟩ hstart ≤ source.pos ⟨stop⟩ hstop := hle
    refine ⟨(source.extract (source.pos ⟨start⟩ hstart) (source.pos ⟨stop⟩ hstop)).toList, ?_⟩
    simp only [slice, hp, hq, if_pos hpq]

end InPlace

end LoxTokens
