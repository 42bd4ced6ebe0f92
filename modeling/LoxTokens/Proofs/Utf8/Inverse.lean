import LoxTokens.Proofs.Utf8
import Mathlib.Data.List.Forall2
import Mathlib.Tactic.SplitIfs

/-!
# Bytes that are read as a text

Only the bytes of a text are read as that text. A leading byte and whatever lies in the ranges that
it announces are the bytes of one character: the first range is narrow enough for the bits to be a
scalar value that needs as many bytes as there are. So a sequence that is begun spells a character
as soon as it is complete, and this is kept from byte to byte.
-/

namespace LoxTokens.Utf8

variable {n bits count : Nat} {lead b x y z : UInt8} {range : Range} {ranges : List Range}
  {taken more bytes : Bytes} {pending : Pending} {c : Char} {s : Text}

/-! ### Characters, by the number of their bytes -/

theorem toNat_ofNat_of_scalar (hscalar : n < 0xD800 ∨ 0xE000 ≤ n ∧ n < 0x110000) :
    (Char.ofNat n).val.toNat = n := by
  have hvalid : n.isValidChar := by
    rcases hscalar with hlt | ⟨hge, hlt⟩
    · exact Or.inl hlt
    · exact Or.inr ⟨hge, hlt⟩
  rw [Char.ofNat, dif_pos hvalid]
  rfl

theorem eq_ofNat_of_toNat_eq (hb : b.toNat = n) : b = .ofNat n := by
  rw [← hb, UInt8.ofNat_toNat]

theorem utf8EncodeChar_one (hlead : lead.toNat < 0x80) :
    String.utf8EncodeChar (Char.ofNat lead.toNat) = [lead] := by
  have hval := toNat_ofNat_of_scalar (n := lead.toNat) (by omega)
  simp only [String.utf8EncodeChar, hval]
  rw [if_pos (by omega), UInt8.ofNat_toNat]

theorem utf8EncodeChar_two (hbits : bits = lead.toNat % 32)
    (hlead : 0xC2 ≤ lead.toNat ∧ lead.toNat < 0xE0) (hx : 0x80 ≤ x.toNat ∧ x.toNat ≤ 0xBF) :
    String.utf8EncodeChar (Char.ofNat (bits * 64 + x.toNat % 64)) = [lead, x] := by
  have hval := toNat_ofNat_of_scalar (n := bits * 64 + x.toNat % 64) (by omega)
  simp only [String.utf8EncodeChar, hval]
  rw [if_neg (by omega), if_pos (by omega), ← eq_ofNat_of_toNat_eq (b := lead) (by omega),
    ← eq_ofNat_of_toNat_eq (b := x) (by omega)]

theorem utf8EncodeChar_three (hbits : bits = lead.toNat % 16)
    (hlead : 0xE0 ≤ lead.toNat ∧ lead.toNat < 0xF0) (hx : 0x80 ≤ x.toNat ∧ x.toNat ≤ 0xBF)
    (hshort : lead.toNat = 0xE0 → 0xA0 ≤ x.toNat)
    (hsurrogate : lead.toNat = 0xED → x.toNat ≤ 0x9F) (hy : 0x80 ≤ y.toNat ∧ y.toNat ≤ 0xBF) :
    String.utf8EncodeChar (Char.ofNat ((bits * 64 + x.toNat % 64) * 64 + y.toNat % 64)) =
      [lead, x, y] := by
  have hval := toNat_ofNat_of_scalar
    (n := (bits * 64 + x.toNat % 64) * 64 + y.toNat % 64) (by omega)
  simp only [String.utf8EncodeChar, hval]
  rw [if_neg (by omega), if_neg (by omega), if_pos (by omega),
    ← eq_ofNat_of_toNat_eq (b := lead) (by omega), ← eq_ofNat_of_toNat_eq (b := x) (by omega),
    ← eq_ofNat_of_toNat_eq (b := y) (by omega)]

theorem utf8EncodeChar_four (hbits : bits = lead.toNat % 8)
    (hlead : 0xF0 ≤ lead.toNat ∧ lead.toNat ≤ 0xF4) (hx : 0x80 ≤ x.toNat ∧ x.toNat ≤ 0xBF)
    (hshort : lead.toNat = 0xF0 → 0x90 ≤ x.toNat) (hlast : lead.toNat = 0xF4 → x.toNat ≤ 0x8F)
    (hy : 0x80 ≤ y.toNat ∧ y.toNat ≤ 0xBF) (hz : 0x80 ≤ z.toNat ∧ z.toNat ≤ 0xBF) :
    String.utf8EncodeChar
        (Char.ofNat (((bits * 64 + x.toNat % 64) * 64 + y.toNat % 64) * 64 + z.toNat % 64)) =
      [lead, x, y, z] := by
  have hval := toNat_ofNat_of_scalar
    (n := ((bits * 64 + x.toNat % 64) * 64 + y.toNat % 64) * 64 + z.toNat % 64) (by omega)
  simp only [String.utf8EncodeChar, hval]
  rw [if_neg (by omega), if_neg (by omega), if_neg (by omega),
    ← eq_ofNat_of_toNat_eq (b := lead) (by omega), ← eq_ofNat_of_toNat_eq (b := x) (by omega),
    ← eq_ofNat_of_toNat_eq (b := y) (by omega), ← eq_ofNat_of_toNat_eq (b := z) (by omega)]

/-! ### What a sequence comes to -/

/-- The bytes lie in the ranges, one in each. -/
def Within (ranges : List Range) (bytes : Bytes) : Prop :=
  List.Forall₂ (fun range b => range.contains b = true) ranges bytes

/-- The bits of a sequence after more of its bytes. -/
def bitsAfter (bits : Nat) (bytes : Bytes) : Nat :=
  bytes.foldl (fun bits b => bits * 64 + b.toNat % 64) bits

/-- Whatever lies in the ranges spells a character together with the bytes taken before it. -/
def Spells (taken : Bytes) (bits : Nat) (ranges : List Range) : Prop :=
  ∀ more, Within ranges more →
    String.utf8EncodeChar (Char.ofNat (bitsAfter bits more)) = taken ++ more

theorem contains_iff :
    range.contains b = true ↔ range.low.toNat ≤ b.toNat ∧ b.toNat ≤ range.high.toNat := by
  rw [Range.contains, Bool.and_eq_true, decide_eq_true_iff, decide_eq_true_iff,
    UInt8.le_iff_toNat_le, UInt8.le_iff_toNat_le]

theorem within_nil_iff : Within [] more ↔ more = [] :=
  List.forall₂_nil_left_iff

theorem within_cons_iff :
    Within (range :: ranges) more ↔
      ∃ b rest, range.contains b = true ∧ Within ranges rest ∧ more = b :: rest :=
  List.forall₂_cons_left_iff

theorem spells_begin? (hbegin : begin? lead = some (bits, ranges)) :
    Spells [lead] bits ranges := by
  intro more hmore
  unfold begin? at hbegin
  simp only [UInt8.lt_iff_toNat_lt, ← UInt8.toNat_inj, UInt8.toNat_ofNat] at hbegin
  split_ifs at hbegin <;> cases hbegin <;>
    simp only [within_cons_iff, within_nil_iff, contains_iff, Range.tail, UInt8.toNat_ofNat]
      at hmore
  · subst hmore
    exact utf8EncodeChar_one (by omega)
  · obtain ⟨x, _, hx, rfl, rfl⟩ := hmore
    exact utf8EncodeChar_two rfl (by omega) hx
  -- Three bytes: the least leading byte, that of the surrogates, and the others.
  iterate 3
    obtain ⟨x, _, hx, ⟨y, _, hy, rfl, rfl⟩, rfl⟩ := hmore
    exact utf8EncodeChar_three (by omega) (by omega) (by omega) (by omega) (by omega) hy
  all_goals
    obtain ⟨x, _, hx, ⟨y, _, hy, ⟨z, _, hz, rfl, rfl⟩, rfl⟩, rfl⟩ := hmore
    exact utf8EncodeChar_four (by omega) (by omega) (by omega) (by omega) (by omega) hy hz

theorem Spells.push (hspells : Spells taken bits (range :: ranges)) (hb : range.contains b = true) :
    Spells (taken ++ [b]) (bits * 64 + b.toNat % 64) ranges := by
  intro more hmore
  rw [List.append_assoc]
  exact hspells (b :: more) (List.Forall₂.cons hb hmore)

/-! ### Reading -/

/-- What `taken` has been read towards: a character that it begins, or nothing if it is empty. -/
def Owes (taken : Bytes) : Option Pending → Prop
  | none => taken = []
  | some pending => Spells taken pending.bits (pending.range :: pending.later)

theorem Spells.of_settle_inl (hspells : Spells taken bits ranges)
    (hsettle : settle bits count ranges = .inl c) : String.utf8EncodeChar c = taken := by
  cases ranges with
  | nil =>
      cases hsettle
      have hchar := hspells [] .nil
      rwa [List.append_nil] at hchar
  | cons range later => cases hsettle

theorem Spells.of_settle_inr (hspells : Spells taken bits ranges)
    (hsettle : settle bits count ranges = .inr pending) : Owes taken (some pending) := by
  cases ranges with
  | nil => cases hsettle
  | cons range later =>
      cases hsettle
      exact hspells

theorem Owes.push? (howes : Owes taken (some pending)) {next : Char ⊕ Pending}
    (hpush : pending.push? b = some next) :
    Spells (taken ++ [b]) (pending.bits * 64 + b.toNat % 64) pending.later ∧
      settle (pending.bits * 64 + b.toNat % 64) (pending.taken + 1) pending.later = next := by
  unfold Pending.push? at hpush
  split at hpush
  · next hb => exact ⟨Spells.push howes hb, Option.some.inj hpush⟩
  · cases hpush

theorem exists_of_map_cons_eq_ok {result : Except Malformed Text}
    (hmap : result.map (c :: ·) = .ok s) : ∃ rest, result = .ok rest ∧ s = c :: rest := by
  cases result with
  | error fault => cases hmap
  | ok rest =>
      cases hmap
      exact ⟨rest, rfl, rfl⟩

theorem append_eq_encode_of_decodeFrom {validUpTo : Nat} {pending? : Option Pending}
    (howes : Owes taken pending?) (hread : decodeFrom validUpTo pending? bytes = .ok s) :
    taken ++ bytes = encode s := by
  fun_induction decodeFrom validUpTo pending? bytes generalizing taken s with
  | case1 =>
      cases hread
      rw [howes]
      rfl
  | case2 => cases hread
  | case3 => cases hread
  | case4 validUpTo b rest bits ranges hbegin c hsettle ih =>
      obtain ⟨s, hrest, rfl⟩ := exists_of_map_cons_eq_ok hread
      rw [howes, encode_cons, (spells_begin? hbegin).of_settle_inl hsettle, ← ih rfl hrest]
      rfl
  | case5 validUpTo b rest bits ranges hbegin pending hsettle ih =>
      rw [howes]
      exact ih ((spells_begin? hbegin).of_settle_inr hsettle) hread
  | case6 => cases hread
  | case7 validUpTo b rest pending c hpush ih =>
      obtain ⟨hspells, hsettle⟩ := howes.push? hpush
      obtain ⟨s, hrest, rfl⟩ := exists_of_map_cons_eq_ok hread
      rw [encode_cons, hspells.of_settle_inl hsettle, ← ih rfl hrest, List.append_assoc]
      rfl
  | case8 validUpTo b rest pending next hpush ih =>
      obtain ⟨hspells, hsettle⟩ := howes.push? hpush
      have hrest := ih (hspells.of_settle_inr hsettle) hread
      rwa [List.append_assoc] at hrest

/-- Bytes are read as a text if and only if they are its encoding. -/
theorem decode_eq_ok_iff : decode bytes = .ok s ↔ bytes = encode s := by
  constructor
  · intro hread
    have howes : Owes [] none := rfl
    exact append_eq_encode_of_decodeFrom howes hread
  · rintro rfl
    exact decode_encode s

end LoxTokens.Utf8
