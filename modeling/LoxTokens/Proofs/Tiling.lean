import LoxTokens.Piece

/-!
# Tilings

What it means to cut a source text into pieces, said without a reader: which pieces there are, and
what may follow each. A piece asks for no more than the next character, or for the end of the text
if it is a string that nobody closes. That is enough to settle the whole cut: every text has a
tiling, it has only one, and it is the one that the reader finds. Since a piece looks no further,
two texts can be cut apart wherever the last piece of the first is content with what the second
begins with.
-/

namespace LoxTokens.Piece

/-- The piece may stand in front of a text. -/
inductive Fits : Piece → Text → Prop where
  | punctuation {m : Mark} {after : Text}
      (hm : m ∈ [.leftParen, .rightParen, .leftBrace, .rightBrace, .comma, .dot, .minus, .plus,
        .semicolon, .star]) : Fits (.mark m) after
  | longOperator {m : Mark} {after : Text}
      (hm : m ∈ [.bangEqual, .equalEqual, .lessEqual, .greaterEqual]) : Fits (.mark m) after
  /-- An operator that could grow stays short only if no equals sign follows. -/
  | shortOperator {m : Mark} {after : Text} (hm : m ∈ [.bang, .equal, .less, .greater])
      (hafter : after.head? ≠ some '=') : Fits (.mark m) after
  /-- A comment goes up to a line feed, or to the end. -/
  | comment {body after : Text} (hbody : '\n' ∉ body)
      (hafter : after = [] ∨ after.head? = some '\n') : Fits (.comment body) after
  | slash {after : Text} (hafter : after.head? ≠ some '/') : Fits (.mark .slash) after
  | blank {c : Char} {after : Text} (hc : c ∈ [' ', '\r', '\t', '\n']) : Fits (.blank c) after
  | string {value after : Text} (hvalue : '"' ∉ value) : Fits (.string value) after
  | unclosed {tail : Text} (htail : '"' ∉ tail) : Fits (.unclosed tail) []
  /-- A stray character is one that none of the other pieces can begin with. -/
  | stray {c : Char} {after : Text}
      (hc : c ∉ ['(', ')', '\x7b', '\x7d', ',', '.', '-', '+', ';', '*', '!', '=', '<', '>', '/',
        ' ', '\r', '\t', '\n', '"']) : Fits (.stray c) after

/-- The pieces, one after another, make up the text, and each of them fits what follows it. -/
inductive Tiles : List Piece → Text → Prop where
  | nil : Tiles [] []
  | cons {piece : Piece} {pieces : List Piece} {rest : Text} (hfits : Fits piece rest)
      (hrest : Tiles pieces rest) : Tiles (piece :: pieces) (piece.text ++ rest)

/-! ### Marks by their first character

The reader classifies a mark by its first character and then asks whether it can grow; a tiling
lists the marks of each sort. -/

section Marks

variable {c : Char} {m longer : Mark} {after : Text}

theorem fits_mark_of_withEqual?_eq_none (hmark : Mark.ofChar? c = some m) (hslash : m ≠ .slash)
    (hgrow : m.withEqual? = none) : Fits (.mark m) after := by
  unfold Mark.ofChar? at hmark
  split at hmark <;> cases hmark
  all_goals first
    | exact .punctuation (by decide)
    | exact absurd rfl hslash
    | exact absurd hgrow (by decide)

theorem fits_longer (hgrow : m.withEqual? = some longer) : Fits (.mark longer) after := by
  cases m <;> cases hgrow <;> exact .longOperator (by decide)

theorem fits_mark_of_head?_ne (hgrow : m.withEqual? = some longer)
    (hafter : after.head? ≠ some '=') : Fits (.mark m) after := by
  cases m <;> cases hgrow <;> exact .shortOperator (by decide) hafter

theorem isBlank_iff : isBlank c = true ↔ c ∈ [' ', '\r', '\t', '\n'] := by
  simp [isBlank, or_assoc]

theorem next_of_ofChar? (hmark : Mark.ofChar? c = some m) (rest : Text) :
    next c rest = afterMark m rest := by
  have hquote : c ≠ '"' := by
    rintro rfl
    cases hmark
  have hblank : isBlank c = false := by
    rw [Bool.eq_false_iff, ne_eq, isBlank_iff]
    intro hc
    simp only [List.mem_cons, List.not_mem_nil, or_false] at hc
    rcases hc with rfl | rfl | rfl | rfl <;> cases hmark
  rw [next, if_neg hquote, hblank, hmark]
  rfl

theorem afterMark_of_withEqual?_eq_none (hslash : m ≠ .slash) (hgrow : m.withEqual? = none)
    (rest : Text) : afterMark m rest = (.mark m, rest) := by
  unfold afterMark
  split
  · rw [if_neg hslash]
  · rw [hgrow]
  · rfl

theorem afterMark_of_head?_ne (hgrow : m.withEqual? = some longer)
    (hafter : after.head? ≠ some '=') : afterMark m after = (.mark m, after) := by
  have hslash : m ≠ .slash := by
    rintro rfl
    cases hgrow
  unfold afterMark
  split
  · rw [if_neg hslash]
  · exact absurd rfl hafter
  · rfl

theorem afterMark_longer (hgrow : m.withEqual? = some longer) (rest : Text) :
    afterMark m ('=' :: rest) = (.mark longer, rest) := by
  simp only [afterMark, hgrow]

theorem afterMark_slash_of_head?_ne (hafter : after.head? ≠ some '/') :
    afterMark .slash after = (.mark .slash, after) := by
  unfold afterMark
  split
  · exact absurd rfl hafter
  · rfl
  · rfl

end Marks

/-! ### Runs of characters up to a certain one -/

theorem not_mem_takeWhile (stop : Char) (s : Text) : stop ∉ s.takeWhile (· != stop) := by
  intro hmem
  have hne := List.all_takeWhile (p := (· != stop)) (l := s)
  simpa using List.all_eq_true.mp hne stop hmem

theorem head?_dropWhile_ne (stop : Char) (s : Text) :
    s.dropWhile (· != stop) = [] ∨ (s.dropWhile (· != stop)).head? = some stop := by
  have hhead := List.head?_dropWhile_not (p := (· != stop)) s
  cases hdrop : s.dropWhile (· != stop) with
  | nil => exact Or.inl rfl
  | cons c after =>
      rw [hdrop] at hhead
      exact Or.inr (by simpa using hhead)

theorem takeWhile_dropWhile_of_not_mem {stop : Char} {run : Text} (after : Text)
    (hrun : stop ∉ run) (hafter : after = [] ∨ after.head? = some stop) :
    (run ++ after).takeWhile (· != stop) = run ∧ (run ++ after).dropWhile (· != stop) = after := by
  have hne : ∀ c ∈ run, (c != stop) = true := by
    intro c hc
    simpa using fun heq : c = stop => hrun (heq ▸ hc)
  rw [List.takeWhile_append_of_pos hne, List.dropWhile_append_of_pos hne]
  rcases hafter with rfl | hhead
  · simp
  · obtain ⟨rest, rfl⟩ := List.head?_eq_some_iff.mp hhead
    simp

/-! ### The reader finds what fits, and all that fits -/

theorem afterQuote_fits (rest : Text) : Fits (afterQuote rest).1 (afterQuote rest).2 := by
  have hrun := not_mem_takeWhile '"' rest
  unfold afterQuote
  split
  · next hdrop =>
      have hwhole := List.takeWhile_append_dropWhile (p := (· != '"')) (l := rest)
      rw [hdrop, List.append_nil] at hwhole
      exact .unclosed (hwhole ▸ hrun)
  · exact .string hrun

theorem afterMark_fits {c : Char} {m : Mark} (hmark : Mark.ofChar? c = some m) (rest : Text) :
    Fits (afterMark m rest).1 (afterMark m rest).2 := by
  by_cases hslash : m = .slash
  · subst hslash
    by_cases hrest : rest.head? = some '/'
    · obtain ⟨body, rfl⟩ := List.head?_eq_some_iff.mp hrest
      exact .comment (not_mem_takeWhile '\n' body) (head?_dropWhile_ne '\n' body)
    · rw [afterMark_slash_of_head?_ne hrest]
      exact .slash hrest
  · cases hgrow : m.withEqual? with
    | none =>
        rw [afterMark_of_withEqual?_eq_none hslash hgrow]
        exact fits_mark_of_withEqual?_eq_none hmark hslash hgrow
    | some longer =>
        by_cases hrest : rest.head? = some '='
        · obtain ⟨after, rfl⟩ := List.head?_eq_some_iff.mp hrest
          rw [afterMark_longer hgrow]
          exact fits_longer hgrow
        · rw [afterMark_of_head?_ne hgrow hrest]
          exact fits_mark_of_head?_ne hgrow hrest

theorem next_fits (c : Char) (rest : Text) : Fits (next c rest).1 (next c rest).2 := by
  unfold next
  split
  · exact afterQuote_fits rest
  · next hquote =>
      split
      · next hblank => exact .blank (isBlank_iff.mp hblank)
      · next hblank =>
          split
          · next m hmark => exact afterMark_fits hmark rest
          · next hmark =>
              refine .stray fun hc => ?_
              simp only [List.mem_cons, List.not_mem_nil, or_false] at hc
              rcases hc with rfl | rfl | rfl | rfl | rfl | rfl | rfl | rfl | rfl | rfl | rfl | rfl |
                rfl | rfl | rfl | rfl | rfl | rfl | rfl | rfl
              all_goals first
                | exact absurd hmark (by decide)
                | exact hblank (by decide)
                | exact hquote rfl

theorem afterQuote_closed {value : Text} (hvalue : '"' ∉ value) (after : Text) :
    afterQuote (value ++ '"' :: after) = (.string value, after) := by
  obtain ⟨htake, hdrop⟩ := takeWhile_dropWhile_of_not_mem ('"' :: after) hvalue (Or.inr rfl)
  rw [afterQuote, htake, hdrop]

theorem afterQuote_unclosed {tail : Text} (htail : '"' ∉ tail) :
    afterQuote tail = (.unclosed tail, []) := by
  obtain ⟨-, hdrop⟩ := takeWhile_dropWhile_of_not_mem [] htail (Or.inl rfl)
  rw [List.append_nil] at hdrop
  rw [afterQuote, hdrop]

theorem next_stray {c : Char}
    (hc : c ∉ ['(', ')', '\x7b', '\x7d', ',', '.', '-', '+', ';', '*', '!', '=', '<', '>', '/',
      ' ', '\r', '\t', '\n', '"']) (rest : Text) : next c rest = (.stray c, rest) := by
  have hquote : c ≠ '"' := by
    rintro rfl
    exact hc (by decide)
  have hblank : isBlank c = false := by
    rw [Bool.eq_false_iff, ne_eq, isBlank_iff]
    intro hmem
    simp only [List.mem_cons, List.not_mem_nil, or_false] at hmem
    rcases hmem with rfl | rfl | rfl | rfl <;> exact hc (by decide)
  have hmark : Mark.ofChar? c = none := by
    unfold Mark.ofChar?
    split
    case h_16 => rfl
    all_goals exact absurd (by decide) hc
  rw [next, if_neg hquote, hblank, hmark]
  rfl

theorem exists_next_of_fits {p : Piece} {after : Text} (hfits : Fits p after) :
    ∃ c rest, p.text ++ after = c :: rest ∧ next c rest = (p, after) := by
  cases hfits with
  | punctuation hm =>
      simp only [List.mem_cons, List.not_mem_nil, or_false] at hm
      rcases hm with rfl | rfl | rfl | rfl | rfl | rfl | rfl | rfl | rfl | rfl
      all_goals
        refine ⟨_, after, rfl, ?_⟩
        rw [next_of_ofChar? rfl, afterMark_of_withEqual?_eq_none (by decide) rfl]
  | longOperator hm =>
      simp only [List.mem_cons, List.not_mem_nil, or_false] at hm
      rcases hm with rfl | rfl | rfl | rfl
      all_goals
        refine ⟨_, '=' :: after, rfl, ?_⟩
        rw [next_of_ofChar? rfl, afterMark_longer rfl]
  | shortOperator hm hafter =>
      simp only [List.mem_cons, List.not_mem_nil, or_false] at hm
      rcases hm with rfl | rfl | rfl | rfl
      all_goals
        refine ⟨_, after, rfl, ?_⟩
        rw [next_of_ofChar? rfl, afterMark_of_head?_ne rfl hafter]
  | @comment body _ hbody hafter =>
      obtain ⟨htake, hdrop⟩ := takeWhile_dropWhile_of_not_mem _ hbody hafter
      refine ⟨'/', '/' :: (body ++ after), rfl, ?_⟩
      rw [next_of_ofChar? rfl, afterMark, if_pos rfl, htake, hdrop]
  | slash hafter =>
      refine ⟨'/', after, rfl, ?_⟩
      rw [next_of_ofChar? rfl, afterMark_slash_of_head?_ne hafter]
  | @blank c _ hc =>
      refine ⟨c, after, rfl, ?_⟩
      simp only [List.mem_cons, List.not_mem_nil, or_false] at hc
      rcases hc with rfl | rfl | rfl | rfl <;> rfl
  | @string value _ hvalue =>
      refine ⟨'"', value ++ '"' :: after, by simp [text], ?_⟩
      rw [next, if_pos rfl, afterQuote_closed hvalue]
  | @unclosed tail htail =>
      refine ⟨'"', tail, by simp [text], ?_⟩
      rw [next, if_pos rfl, afterQuote_unclosed htail]
  | @stray c _ hc => exact ⟨c, after, rfl, next_stray hc after⟩

/-! ### The one tiling -/

@[simp]
theorem cut_nil : cut [] = [] := by
  unfold cut
  rfl

theorem cut_cons (c : Char) (rest : Text) :
    cut (c :: rest) = (next c rest).1 :: cut (next c rest).2 := by
  rw [cut]

/-- The cut takes off whatever fits. -/
theorem cut_text_append {p : Piece} {after : Text} (hfits : Fits p after) :
    cut (p.text ++ after) = p :: cut after := by
  obtain ⟨c, rest, htext, hnext⟩ := exists_next_of_fits hfits
  rw [htext, cut_cons, hnext]

theorem tiles_cut (source : Text) : Tiles (cut source) source := by
  fun_induction cut source with
  | case1 => exact .nil
  | case2 c rest ih =>
      have htiles := Tiles.cons (next_fits c rest) ih
      rwa [next_text] at htiles

theorem eq_cut_of_tiles {pieces : List Piece} {source : Text} (htiles : Tiles pieces source) :
    pieces = cut source := by
  induction htiles with
  | nil => exact cut_nil.symm
  | cons hfits _ ih => rw [cut_text_append hfits, ih]

/-- A text has one tiling, its cut. -/
theorem tiles_iff_eq_cut {pieces : List Piece} {source : Text} :
    Tiles pieces source ↔ pieces = cut source := by
  constructor
  · exact eq_cut_of_tiles
  · rintro rfl
    exact tiles_cut source

end LoxTokens.Piece
