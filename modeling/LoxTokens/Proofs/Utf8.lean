import LoxTokens.Text.Utf8
import Mathlib.Tactic.IntervalCases

/-!
# Bytes that stand for a text

The bytes of a text are read back as the text. What has to be shown of a character is that its leading
byte announces as many bytes as follow it, that each of those lies in the range it is expected in, and
that the bits of all of them put together are its number. The narrower second ranges ask for the
number to be a scalar value that has no shorter form.
-/

namespace LoxTokens.Utf8

variable {n bits taken : Nat} {b : UInt8} {range next : Range} {later : List Range} {rest : Bytes}

/-! ### Leading bytes and the ranges they announce -/

theorem contains_ofNat (hn : n < UInt8.size) (hlow : range.low.toNat ≤ n)
    (hhigh : n ≤ range.high.toNat) : range.contains (.ofNat n) = true := by
  have hnat : (UInt8.ofNat n).toNat = n := UInt8.toNat_ofNat_of_lt' hn
  rw [Range.contains, Bool.and_eq_true, decide_eq_true_iff, decide_eq_true_iff,
    UInt8.le_iff_toNat_le, UInt8.le_iff_toNat_le, hnat]
  exact ⟨hlow, hhigh⟩

theorem toNat_ofNat_mod_add (n : Nat) : (UInt8.ofNat (n % 64 + 0x80)).toNat = n % 64 + 0x80 := by
  apply UInt8.toNat_ofNat_of_lt'
  change n % 64 + 128 < 256
  omega

theorem tail_contains (n : Nat) : Range.tail.contains (.ofNat (n % 64 + 0x80)) = true := by
  apply contains_ofNat
  · change n % 64 + 128 < 256
    omega
  · change 128 ≤ n % 64 + 128
    omega
  · change n % 64 + 128 ≤ 191
    omega

theorem begin?_one (hn : n < 128) : begin? (.ofNat n) = some (n, []) := by
  have hnat : (UInt8.ofNat n).toNat = n := UInt8.toNat_ofNat_of_lt' (by change n < 256; omega)
  have hlt : UInt8.ofNat n < 0x80 := by
    rw [UInt8.lt_iff_toNat_lt, hnat]
    exact hn
  rw [begin?, if_pos hlt, hnat]

theorem begin?_two (hlow : 2 ≤ n) (hhigh : n < 32) :
    begin? (.ofNat (n + 0xC0)) = some (n, [.tail]) := by
  interval_cases n <;> rfl

/-- With `n` for what the first two bytes hold: neither short enough for two bytes nor a surrogate. -/
theorem begin?_three (hlow : 32 ≤ n) (hhigh : n < 1024) (hscalar : n < 864 ∨ 896 ≤ n) :
    ∃ range, begin? (.ofNat (n / 64 + 0xE0)) = some (n / 64, [range, .tail]) ∧
      range.contains (.ofNat (n % 64 + 0x80)) = true := by
  have hlead : n / 64 < 16 := by omega
  have hsplit := Nat.div_add_mod n 64
  have hmod := Nat.mod_lt n (by decide : 0 < 64)
  generalize n / 64 = lead at hlead hsplit ⊢
  by_cases hzero : lead = 0
  · subst hzero
    exact ⟨_, rfl, contains_ofNat (by change _ < 256; omega) (by change 160 ≤ _; omega)
      (by change _ ≤ 191; omega)⟩
  by_cases hsurrogates : lead = 13
  · subst hsurrogates
    exact ⟨_, rfl, contains_ofNat (by change _ < 256; omega) (by change 128 ≤ _; omega)
      (by change _ ≤ 159; omega)⟩
  · refine ⟨.tail, ?_, tail_contains n⟩
    interval_cases lead <;> first | rfl | contradiction

/-- Likewise: not short enough for three bytes, and not beyond the last scalar value. -/
theorem begin?_four (hlow : 16 ≤ n) (hhigh : n < 272) :
    ∃ range, begin? (.ofNat (n / 64 + 0xF0)) = some (n / 64, [range, .tail, .tail]) ∧
      range.contains (.ofNat (n % 64 + 0x80)) = true := by
  have hlead : n / 64 < 5 := by omega
  have hsplit := Nat.div_add_mod n 64
  have hmod := Nat.mod_lt n (by decide : 0 < 64)
  generalize n / 64 = lead at hlead hsplit ⊢
  by_cases hzero : lead = 0
  · subst hzero
    exact ⟨_, rfl, contains_ofNat (by change _ < 256; omega) (by change 144 ≤ _; omega)
      (by change _ ≤ 191; omega)⟩
  by_cases hlast : lead = 4
  · subst hlast
    exact ⟨_, rfl, contains_ofNat (by change _ < 256; omega) (by change 128 ≤ _; omega)
      (by change _ ≤ 143; omega)⟩
  · refine ⟨.tail, ?_, tail_contains n⟩
    interval_cases lead <;> first | rfl | contradiction

/-! ### One byte after another -/

theorem decodeFrom_begin (validUpTo : Nat) (hbegin : begin? b = some (bits, range :: later)) :
    decodeFrom validUpTo none (b :: rest) =
      decodeFrom validUpTo (some ⟨bits, 1, range, later⟩) rest := by
  rw [decodeFrom, hbegin]
  rfl

theorem decodeFrom_push (validUpTo : Nat) (hb : range.contains b = true) :
    decodeFrom validUpTo (some ⟨bits, taken, range, next :: later⟩) (b :: rest) =
      decodeFrom validUpTo (some ⟨bits * 64 + b.toNat % 64, taken + 1, next, later⟩) rest := by
  simp only [decodeFrom, Pending.push?, if_pos hb, settle]

theorem decodeFrom_settle (validUpTo : Nat) (hb : range.contains b = true) :
    decodeFrom validUpTo (some ⟨bits, taken, range, []⟩) (b :: rest) =
      (decodeFrom (validUpTo + taken + 1) none rest).map
        (Char.ofNat (bits * 64 + b.toNat % 64) :: ·) := by
  simp only [decodeFrom, Pending.push?, if_pos hb, settle]

/-! ### Characters, by the number of their bytes -/

section Characters

variable (validUpTo : Nat) (rest : Bytes)

theorem decodeFrom_one (hn : n ≤ 0x7F) :
    decodeFrom validUpTo none (.ofNat n :: rest) =
      (decodeFrom (validUpTo + 1) none rest).map (Char.ofNat n :: ·) := by
  rw [decodeFrom, begin?_one (by omega)]
  rfl

theorem decodeFrom_two (hlow : 0x7F < n) (hhigh : n ≤ 0x7FF) :
    decodeFrom validUpTo none
        (.ofNat (n / 64 % 0x20 + 0xC0) :: .ofNat (n % 64 + 0x80) :: rest) =
      (decodeFrom (validUpTo + 2) none rest).map (Char.ofNat n :: ·) := by
  have hlead : n / 64 % 0x20 = n / 64 := by omega
  have hbits : n / 64 * 64 + (n % 64 + 0x80) % 64 = n := by omega
  rw [hlead, decodeFrom_begin _ (begin?_two (by omega) (by omega)),
    decodeFrom_settle _ (tail_contains n), toNat_ofNat_mod_add, hbits]

theorem decodeFrom_three (hlow : 0x7FF < n) (hhigh : n ≤ 0xFFFF)
    (hscalar : n < 0xD800 ∨ 0xE000 ≤ n) :
    decodeFrom validUpTo none
        (.ofNat (n / 4096 % 0x10 + 0xE0) :: .ofNat (n / 64 % 64 + 0x80) ::
          .ofNat (n % 64 + 0x80) :: rest) =
      (decodeFrom (validUpTo + 3) none rest).map (Char.ofNat n :: ·) := by
  have hlead : n / 4096 % 0x10 = n / 64 / 64 := by omega
  have hbits : (n / 64 / 64 * 64 + (n / 64 % 64 + 0x80) % 64) * 64 + (n % 64 + 0x80) % 64 = n := by
    omega
  obtain ⟨range, hbegin, hsecond⟩ :=
    begin?_three (n := n / 64) (by omega) (by omega) (by omega)
  rw [hlead, decodeFrom_begin _ hbegin, decodeFrom_push _ hsecond,
    decodeFrom_settle _ (tail_contains n), toNat_ofNat_mod_add, toNat_ofNat_mod_add, hbits]

theorem decodeFrom_four (hlow : 0xFFFF < n) (hhigh : n < 0x110000) :
    decodeFrom validUpTo none
        (.ofNat (n / 262144 % 0x08 + 0xF0) :: .ofNat (n / 4096 % 64 + 0x80) ::
          .ofNat (n / 64 % 64 + 0x80) :: .ofNat (n % 64 + 0x80) :: rest) =
      (decodeFrom (validUpTo + 4) none rest).map (Char.ofNat n :: ·) := by
  have hlead : n / 262144 % 0x08 = n / 4096 / 64 := by omega
  have hbits : ((n / 4096 / 64 * 64 + (n / 4096 % 64 + 0x80) % 64) * 64 +
      (n / 64 % 64 + 0x80) % 64) * 64 + (n % 64 + 0x80) % 64 = n := by omega
  obtain ⟨range, hbegin, hsecond⟩ := begin?_four (n := n / 4096) (by omega) (by omega)
  rw [hlead, decodeFrom_begin _ hbegin, decodeFrom_push _ hsecond,
    decodeFrom_push _ (tail_contains (n / 64)), decodeFrom_settle _ (tail_contains n),
    toNat_ofNat_mod_add, toNat_ofNat_mod_add, toNat_ofNat_mod_add, hbits]

end Characters

/-! ### Texts -/

theorem toNat_scalar (c : Char) : c.toNat < 0xD800 ∨ 0xE000 ≤ c.toNat ∧ c.toNat < 0x110000 := by
  rcases c.valid with hlt | ⟨hgt, hlt⟩
  · exact Or.inl hlt
  · exact Or.inr ⟨hgt, hlt⟩

/-- The bytes of a character are read as the character, whatever comes behind them. -/
theorem decodeFrom_utf8EncodeChar (validUpTo : Nat) (c : Char) (rest : Bytes) :
    decodeFrom validUpTo none (String.utf8EncodeChar c ++ rest) =
      (decodeFrom (validUpTo + c.utf8Size) none rest).map (c :: ·) := by
  have hscalar := toNat_scalar c
  have hchar : Char.ofNat c.val.toNat = c := Char.ofNat_toNat c
  unfold Char.toNat at hscalar
  rw [← String.length_utf8EncodeChar]
  fun_cases String.utf8EncodeChar c with
  | case1 n hone =>
      have hread := decodeFrom_one validUpTo rest hone
      rwa [hchar] at hread
  | case2 n hone htwo =>
      have hread := decodeFrom_two validUpTo rest (Nat.lt_of_not_le hone) htwo
      rwa [hchar] at hread
  | case3 n hone htwo hthree =>
      have hread := decodeFrom_three validUpTo rest (Nat.lt_of_not_le htwo) hthree (by omega)
      rwa [hchar] at hread
  | case4 n hone htwo hthree =>
      have hread := decodeFrom_four validUpTo rest (Nat.lt_of_not_le hthree) (by omega)
      rwa [hchar] at hread

theorem encode_cons (c : Char) (s : Text) : encode (c :: s) = String.utf8EncodeChar c ++ encode s :=
  List.flatMap_cons

theorem decodeFrom_encode_append (validUpTo : Nat) (s : Text) (rest : Bytes) :
    decodeFrom validUpTo none (encode s ++ rest) =
      (decodeFrom (validUpTo + size s) none rest).map (s ++ ·) := by
  induction s generalizing validUpTo with
  | nil =>
      change decodeFrom validUpTo none rest = (decodeFrom validUpTo none rest).map _
      cases decodeFrom validUpTo none rest <;> rfl
  | cons c s ih =>
      rw [encode_cons, List.append_assoc, decodeFrom_utf8EncodeChar, ih, size_cons, Nat.add_assoc]
      cases decodeFrom (validUpTo + (c.utf8Size + size s)) none rest <;> rfl

/-- The bytes of a text are read back as the text. -/
theorem decode_encode (s : Text) : decode (encode s) = .ok s := by
  rw [decode, ← List.append_nil (encode s), decodeFrom_encode_append, decodeFrom]
  change Except.ok (s ++ []) = _
  rw [List.append_nil]

theorem encode_injective : Function.Injective encode := by
  intro s t hbytes
  have hread := congrArg decode hbytes
  rw [decode_encode, decode_encode] at hread
  exact Except.ok.inj hread

end LoxTokens.Utf8
