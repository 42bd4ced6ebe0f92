import LoxTokens.Proofs.Utf8.Inverse
import Mathlib.Order.Bounds.Basic

/-!
# Bytes that are refused

Bytes that are not a text are a text and something behind it that no character begins with. Since no
character's bytes begin with those of another, that text is the longest one in front. What is behind
it is either too short, and then some character begins with all of it, or it has a byte that nothing
can follow up: whatever is added to it, it stays refused.
-/

namespace LoxTokens.Utf8

variable {bits count validUpTo : Nat} {b : UInt8} {ranges : List Range} {taken bytes rest : Bytes}
  {pending : Pending} {pending? : Option Pending} {fault : Malformed} {c d : Char} {s t : Text}

/-! ### What is read, and what is added behind it -/

theorem exists_of_map_eq_error {f : Text → Text} {result : Except Malformed Text}
    (hmap : result.map f = .error fault) : result = .error fault := by
  cases result with
  | error other =>
      cases hmap
      rfl
  | ok s => cases hmap

theorem validUpTo_le_of_decodeFrom (hread : decodeFrom validUpTo pending? bytes = .error fault) :
    validUpTo ≤ fault.validUpTo := by
  fun_induction decodeFrom validUpTo pending? bytes with
  | case1 => cases hread
  | case2 | case3 | case6 =>
      cases hread
      apply Nat.le_refl
  | case4 validUpTo b rest bits ranges hbegin c hsettle ih =>
      have hrest := ih (exists_of_map_eq_error hread)
      omega
  | case7 validUpTo b rest pending c hpush ih =>
      have hrest := ih (exists_of_map_eq_error hread)
      omega
  | case5 _ _ _ _ _ _ _ _ ih | case8 _ _ _ _ _ _ ih => exact ih hread

/-- Nothing that is added makes up for a byte that does not belong where it is. -/
theorem decodeFrom_append_of_badLength {length : Nat} (hlength : fault.badLength = some length)
    (hread : decodeFrom validUpTo pending? bytes = .error fault) (more : Bytes) :
    decodeFrom validUpTo pending? (bytes ++ more) = .error fault := by
  fun_induction decodeFrom validUpTo pending? bytes with
  | case1 => cases hread
  | case2 =>
      cases hread
      cases hlength
  | case3 validUpTo b rest hbegin =>
      rw [List.cons_append, decodeFrom, hbegin]
      exact hread
  | case4 validUpTo b rest bits ranges hbegin c hsettle ih =>
      rw [List.cons_append, decodeFrom, hbegin]
      simp only [hsettle]
      rw [ih (exists_of_map_eq_error hread)]
      rfl
  | case5 validUpTo b rest bits ranges hbegin pending hsettle ih =>
      rw [List.cons_append, decodeFrom, hbegin]
      simp only [hsettle]
      exact ih hread
  | case6 validUpTo b rest pending hpush =>
      rw [List.cons_append, decodeFrom, hpush]
      exact hread
  | case7 validUpTo b rest pending c hpush ih =>
      rw [List.cons_append, decodeFrom, hpush]
      dsimp only
      rw [ih (exists_of_map_eq_error hread)]
      rfl
  | case8 validUpTo b rest pending next hpush ih =>
      rw [List.cons_append, decodeFrom, hpush]
      exact ih hread

/-! ### Sequences that were begun -/

/-- The sequence knows how many bytes were taken for it, and each of its ranges has a byte in it. -/
structure Pending.Tells (pending : Pending) (taken : Bytes) : Prop where
  taken_eq : pending.taken = taken.length
  low_le : ∀ range ∈ pending.range :: pending.later, range.low ≤ range.high

theorem low_le_of_begin? (hbegin : begin? b = some (bits, ranges)) :
    ∀ range ∈ ranges, range.low ≤ range.high := by
  unfold begin? at hbegin
  split_ifs at hbegin <;> cases hbegin <;> simp [Range.tail]

theorem Pending.tells_of_settle (hlow : ∀ range ∈ ranges, range.low ≤ range.high)
    (hsettle : settle bits taken.length ranges = .inr pending) : pending.Tells taken := by
  cases ranges with
  | nil => cases hsettle
  | cons range later =>
      cases hsettle
      exact ⟨rfl, hlow⟩

/-- A sequence is completed by the least byte of every range that it still owes. -/
theorem Spells.completed (hspells : Spells taken bits ranges)
    (hlow : ∀ range ∈ ranges, range.low ≤ range.high) :
    ∃ c, String.utf8EncodeChar c = taken ++ ranges.map Range.low := by
  refine ⟨_, hspells (ranges.map Range.low) ?_⟩
  apply List.forall₂_map_right_iff.mpr
  apply List.forall₂_same.mpr
  intro range hrange
  simp [Range.contains, hlow range hrange]

/-- The bytes are a text up to the place that the fault names, counted from `validUpTo` on. If they
end too early there, what is left is the beginning of a character. -/
def Stops (validUpTo : Nat) (bytes : Bytes) (fault : Malformed) : Prop :=
  ∃ s rest, bytes = encode s ++ rest ∧ fault.validUpTo = validUpTo + size s ∧
    (fault.badLength = none →
      ∃ c, rest <+: String.utf8EncodeChar c ∧ rest ≠ String.utf8EncodeChar c)

theorem Stops.cons (hstops : Stops (validUpTo + c.utf8Size) bytes fault) :
    Stops validUpTo (String.utf8EncodeChar c ++ bytes) fault := by
  obtain ⟨s, rest, rfl, hplace, hshort⟩ := hstops
  refine ⟨c :: s, rest, ?_, ?_, hshort⟩
  · rw [encode_cons, List.append_assoc]
  · rw [hplace, size_cons, Nat.add_assoc]

theorem stops_of_decodeFrom (howes : Owes taken pending?)
    (htells : ∀ pending ∈ pending?, pending.Tells taken)
    (hread : decodeFrom validUpTo pending? bytes = .error fault) :
    Stops validUpTo (taken ++ bytes) fault := by
  -- The bytes that were taken belong to the character under way; between two there are none.
  fun_induction decodeFrom validUpTo pending? bytes generalizing taken with
  | case1 => cases hread
  | case2 validUpTo pending =>
      cases hread
      obtain ⟨c, hc⟩ := Spells.completed howes (htells pending rfl).low_le
      refine ⟨[], taken, by simp [encode], rfl, fun _ => ⟨c, ?_, ?_⟩⟩
      · rw [hc]
        apply List.prefix_append
      · simp [hc]
  | case3 | case6 =>
      cases hread
      exact ⟨[], _, rfl, rfl, by simp⟩
  | case4 validUpTo b rest bits ranges hbegin c hsettle ih =>
      have hc := (spells_begin? hbegin).of_settle_inl hsettle
      have hsize : c.utf8Size = 1 := by
        rw [← String.length_utf8EncodeChar, hc, List.length_singleton]
      have hrest := ih rfl (by simp) (exists_of_map_eq_error hread)
      rw [← hsize] at hrest
      rw [howes, List.nil_append, ← List.singleton_append, ← hc]
      exact hrest.cons
  | case5 validUpTo b rest bits ranges hbegin pending hsettle ih =>
      rw [howes]
      refine ih ((spells_begin? hbegin).of_settle_inr hsettle) ?_ hread
      rintro _ ⟨⟩
      exact Pending.tells_of_settle (low_le_of_begin? hbegin) hsettle
  | case7 validUpTo b rest pending c hpush ih =>
      obtain ⟨hspells, hsettle⟩ := howes.push? hpush
      have hc := hspells.of_settle_inl hsettle
      have hsize : c.utf8Size = pending.taken + 1 := by
        rw [← String.length_utf8EncodeChar, hc, (htells pending rfl).taken_eq, List.length_append,
          List.length_singleton]
      have hrest := ih rfl (by simp) (exists_of_map_eq_error hread)
      rw [Nat.add_assoc, ← hsize] at hrest
      rw [List.append_cons, ← hc]
      exact hrest.cons
  | case8 validUpTo b rest pending next hpush ih =>
      obtain ⟨hspells, hsettle⟩ := howes.push? hpush
      have hcount : pending.taken + 1 = (taken ++ [b]).length := by
        rw [(htells pending rfl).taken_eq, List.length_append, List.length_singleton]
      rw [hcount] at hsettle
      have hlater : ∀ range ∈ pending.later, range.low ≤ range.high := fun range hrange =>
        (htells pending rfl).low_le range (List.mem_cons_of_mem _ hrange)
      rw [List.append_cons]
      refine ih (hspells.of_settle_inr hsettle) ?_ hread
      rintro _ ⟨⟩
      exact Pending.tells_of_settle hlater hsettle

/-! ### The longest text in front -/

/-- No character's bytes begin with those of another. -/
theorem eq_of_utf8EncodeChar_isPrefix
    (hbegins : String.utf8EncodeChar c <+: String.utf8EncodeChar d) : c = d := by
  obtain ⟨more, hd⟩ := hbegins
  have hread : decode (encode [d]) = .ok [d] := decode_encode [d]
  rw [encode_cons, ← hd, List.append_assoc, decode, decodeFrom_utf8EncodeChar] at hread
  obtain ⟨rest, -, hrest⟩ := exists_of_map_cons_eq_ok hread
  exact (List.cons.inj hrest).1.symm

theorem eq_of_utf8EncodeChar_isPrefix_append
    (hbegins : String.utf8EncodeChar c <+: String.utf8EncodeChar d ++ rest) : c = d := by
  rcases List.prefix_or_prefix_of_prefix hbegins (List.prefix_append _ rest) with hc | hd
  · exact eq_of_utf8EncodeChar_isPrefix hc
  · exact (eq_of_utf8EncodeChar_isPrefix hd).symm

theorem size_le_of_isPrefix (hrest : ∀ c, ¬String.utf8EncodeChar c <+: rest)
    (hbegins : encode t <+: encode s ++ rest) : size t ≤ size s := by
  induction t generalizing s with
  | nil => apply Nat.zero_le
  | cons c t ih =>
      rw [encode_cons] at hbegins
      have hc := (List.prefix_append _ (encode t)).trans hbegins
      cases s with
      | nil => exact absurd hc (hrest c)
      | cons d s =>
          rw [encode_cons, List.append_assoc] at hc hbegins
          obtain rfl := eq_of_utf8EncodeChar_isPrefix_append hc
          have hle := ih ((List.prefix_append_right_inj _).mp hbegins)
          simp only [size_cons]
          omega

/-- The place at which bytes are refused is the end of the longest text in front. The input ended
too early if and only if some character begins with all that is left. -/
theorem malformed_of_decode (hread : decode bytes = .error fault) :
    IsGreatest {n | n ≤ bytes.length ∧ ∃ s, bytes.take n = encode s} fault.validUpTo ∧
      (fault.badLength = none ↔ ∃ c, bytes.drop fault.validUpTo <+: String.utf8EncodeChar c ∧
        bytes.drop fault.validUpTo ≠ String.utf8EncodeChar c) := by
  have howes : Owes [] none := rfl
  obtain ⟨s, rest, hbytes, hplace, hshort⟩ := stops_of_decodeFrom howes (by simp) hread
  rw [List.nil_append] at hbytes
  rw [Nat.zero_add] at hplace
  have htake : bytes.take fault.validUpTo = encode s := by
    rw [hbytes, hplace]
    exact List.take_left
  have hdrop : bytes.drop fault.validUpTo = rest := by
    rw [hbytes, hplace]
    exact List.drop_left
  have hrefused : decodeFrom (size s) none rest = .error fault := by
    rw [decode, hbytes, decodeFrom_encode_append, Nat.zero_add] at hread
    exact exists_of_map_eq_error hread
  have hnone : ∀ c, ¬String.utf8EncodeChar c <+: rest := by
    rintro c ⟨more, rfl⟩
    rw [decodeFrom_utf8EncodeChar] at hrefused
    have hle := validUpTo_le_of_decodeFrom (exists_of_map_eq_error hrefused)
    have hpos := c.utf8Size_pos
    omega
  refine ⟨⟨⟨?_, s, htake⟩, ?_⟩, ?_⟩
  · rw [hbytes, hplace, List.length_append]
    apply Nat.le_add_right
  · rintro n ⟨hn, t, ht⟩
    have hbegins : encode t <+: encode s ++ rest := by
      rw [← ht, ← hbytes]
      apply List.take_prefix
    have hlength : n = size t := by rw [size, ← ht, List.length_take_of_le hn]
    rw [hlength, hplace]
    exact size_le_of_isPrefix hnone hbegins
  · rw [hdrop]
    constructor
    · exact hshort
    · rintro ⟨c, ⟨more, hc⟩, -⟩
      -- With a byte that does not belong there, what is left would be refused in the character too.
      by_contra hlong
      obtain ⟨length, hlength⟩ := Option.ne_none_iff_exists'.mp hlong
      have hstill := decodeFrom_append_of_badLength hlength hrefused more
      rw [hc, ← List.append_nil (String.utf8EncodeChar c), decodeFrom_utf8EncodeChar] at hstill
      cases hstill

end LoxTokens.Utf8
