import LoxTokens.Proofs.Seam
import Mathlib.Data.List.Chain

/-!
# Tokens written out and read back

Tokens that are written one after another, with blanks between them or without, are read back as they
were unless two neighbours with nothing between them make up another piece. That two such neighbours
are never read back is clear for an operator, which the longer one stands in place of. Two slashes are
worse: they begin a comment that may swallow any number of tokens, and what is left of a string may be
read as something else. But no slash of a comment is ever part of a token again, so the tokens that
are read have fewer slashes than those that were written.
-/

namespace LoxTokens

/-- Every mark has one spelling and no literal, and a string is its value between quotes. -/
def Token.WellFormed (t : Token) : Prop :=
  (∃ m : Mark, t.kind = .mark m ∧ t.lexeme = m.spelling ∧ t.literal = none) ∨
    ∃ value, '"' ∉ value ∧ t.kind = .string ∧ t.lexeme = '"' :: (value ++ ['"']) ∧
      t.literal = some value

/-- With nothing between them the two are read as something else. -/
def Token.Fuses (t u : Token) : Prop :=
  t.kind ∈ [.mark .bang, .mark .equal, .mark .less, .mark .greater] ∧
      u.kind ∈ [.mark .equal, .mark .equalEqual] ∨
    t.kind = .mark .slash ∧ u.kind = .mark .slash

instance (t u : Token) : Decidable (t.Fuses u) :=
  inferInstanceAs (Decidable (_ ∨ _))

/-- A token and what is put behind it. -/
structure Written where
  token : Token
  gap : Text

namespace Written

def text (laid : List Written) : Text :=
  laid.flatMap fun w => w.token.lexeme ++ w.gap

def Apart (w next : Written) : Prop :=
  w.gap = [] → ¬w.token.Fuses next.token

instance : DecidableRel Apart := fun w next =>
  inferInstanceAs (Decidable (w.gap = [] → ¬w.token.Fuses next.token))

end Written

namespace Piece

variable {p : Piece} {pieces : List Piece} {t u : Token} {after gap : Text}

/-! ### Well-formed tokens are what pieces are read as -/

theorem fits_mark_nil (m : Mark) : Fits (.mark m) [] := by
  cases m
  case slash => exact .slash (by decide)
  all_goals first
    | exact .punctuation (by decide)
    | exact .longOperator (by decide)
    | exact .shortOperator (by decide) (by decide)

theorem complaint?_of_content? {content : Kind × Text × Option Text}
    (hcontent : p.content? = some content) : p.complaint? = none := by
  rcases content?_eq_some hcontent with ⟨m, rfl, -⟩ | ⟨value, rfl, -⟩ <;> rfl

theorem wellFormed_of_fits (hfits : p.Fits after) (hcontent : p.content? = some t.content) :
    t.WellFormed := by
  obtain ⟨kind, lexeme, literal, line⟩ := t
  rcases content?_eq_some hcontent with ⟨m, rfl, heq⟩ | ⟨value, rfl, heq⟩
  · cases heq
    exact Or.inl ⟨m, rfl, rfl, rfl⟩
  · cases heq
    cases hfits with
    | string hvalue => exact Or.inr ⟨value, hvalue, rfl, rfl, rfl⟩

theorem exists_fits_of_wellFormed (ht : t.WellFormed) :
    ∃ p : Piece, p.content? = some t.content ∧ p.text = t.lexeme ∧ p.Fits [] := by
  obtain ⟨kind, lexeme, literal, line⟩ := t
  rcases ht with ⟨m, rfl, rfl, rfl⟩ | ⟨value, hvalue, rfl, rfl, rfl⟩
  · exact ⟨.mark m, rfl, rfl, fits_mark_nil m⟩
  · exact ⟨.string value, rfl, rfl, .string hvalue⟩

/-! ### When neighbours fuse -/

theorem head?_lexeme_eq_equal_iff (hu : u.WellFormed) (more : Text) :
    (u.lexeme ++ more).head? = some '=' ↔ u.kind ∈ [.mark .equal, .mark .equalEqual] := by
  obtain ⟨kind, lexeme, literal, line⟩ := u
  rcases hu with ⟨m, rfl, rfl, rfl⟩ | ⟨value, hvalue, rfl, rfl, rfl⟩
  · cases m <;> simp [Mark.spelling]
  · simp

theorem head?_lexeme_eq_slash_iff (hu : u.WellFormed) (more : Text) :
    (u.lexeme ++ more).head? = some '/' ↔ u.kind = .mark .slash := by
  obtain ⟨kind, lexeme, literal, line⟩ := u
  rcases hu with ⟨m, rfl, rfl, rfl⟩ | ⟨value, hvalue, rfl, rfl, rfl⟩
  · cases m <;> simp [Mark.spelling]
  · simp

theorem not_goesOn_blank {c : Char} (hc : c ∈ [' ', '\r', '\t', '\n'])
    (hcontent : p.content? = some t.content) : ¬p.GoesOn (c :: after) := by
  rcases content?_eq_some hcontent with ⟨m, rfl, -⟩ | ⟨value, rfl, -⟩
  · simp only [List.mem_cons, List.not_mem_nil, or_false] at hc
    rintro (⟨-, hhead⟩ | ⟨-, hhead⟩)
    all_goals
      obtain rfl := Option.some.inj hhead
      rcases hc with hc | hc | hc | hc <;> cases hc
  · exact id

theorem goesOn_lexeme_iff (hcontent : p.content? = some t.content) (hu : u.WellFormed)
    (more : Text) : p.GoesOn (u.lexeme ++ more) ↔ t.Fuses u := by
  obtain ⟨kind, lexeme, literal, line⟩ := t
  rcases content?_eq_some hcontent with ⟨m, rfl, heq⟩ | ⟨value, rfl, heq⟩
  · cases heq
    rw [GoesOn, head?_lexeme_eq_equal_iff hu, head?_lexeme_eq_slash_iff hu]
    simp [Token.Fuses]
  · cases heq
    simp [GoesOn, Token.Fuses]

theorem exists_cut_longer {m : Mark} (hm : m ∈ [.bang, .equal, .less, .greater]) (rest : Text) :
    ∃ longer ≠ m, cut ((mark m).text ++ '=' :: rest) = .mark longer :: cut rest := by
  simp only [List.mem_cons, List.not_mem_nil, or_false] at hm
  have hlong : ∀ longer ∈ [Mark.bangEqual, .equalEqual, .lessEqual, .greaterEqual],
      cut ((mark longer).text ++ rest) = .mark longer :: cut rest := fun _ hlonger =>
    cut_text_append (.longOperator hlonger)
  rcases hm with rfl | rfl | rfl | rfl
  · exact ⟨.bangEqual, by decide, hlong .bangEqual (by decide)⟩
  · exact ⟨.equalEqual, by decide, hlong .equalEqual (by decide)⟩
  · exact ⟨.lessEqual, by decide, hlong .lessEqual (by decide)⟩
  · exact ⟨.greaterEqual, by decide, hlong .greaterEqual (by decide)⟩

/-! ### Reading what was written -/

theorem cut_blanks_append (hgap : ∀ c ∈ gap, c ∈ [' ', '\r', '\t', '\n']) :
    cut (gap ++ after) = gap.map .blank ++ cut after := by
  induction gap with
  | nil => rfl
  | cons c gap ih =>
      have hfits : Fits (.blank c) (gap ++ after) := .blank (hgap c List.mem_cons_self)
      rw [List.map_cons, List.cons_append, List.cons_append,
        ← ih fun d hd => hgap d (List.mem_cons_of_mem c hd), ← cut_text_append hfits]
      rfl

/-- What is read off no blank is not read off several. -/
theorem filterMap_blanks {α : Type} {read : Piece → Option α} (hread : ∀ c, read (.blank c) = none)
    (gap : Text) : (gap.map Piece.blank).filterMap read = [] := by
  rw [List.filterMap_map, List.filterMap_eq_nil_iff]
  exact fun c _ => hread c

/-! ### The slashes of the tokens -/

def lexemes (contents : List (Kind × Text × Option Text)) : Text :=
  contents.flatMap fun content => content.2.1

theorem count_lexemes_le (x : Char) (pieces : List Piece) :
    (lexemes (pieces.filterMap content?)).count x ≤ (joined pieces).count x := by
  induction pieces with
  | nil => exact Nat.le_refl _
  | cons p pieces ih =>
      rw [joined_cons, List.count_append]
      cases hcontent : p.content? with
      | none =>
          rw [List.filterMap_cons_none hcontent]
          omega
      | some content =>
          have htext : content.2.1 = p.text := by
            rcases content?_eq_some hcontent with ⟨m, rfl, rfl⟩ | ⟨value, rfl, rfl⟩ <;> rfl
          rw [List.filterMap_cons_some hcontent, lexemes, List.flatMap_cons, List.count_append,
            htext, ← lexemes]
          omega

theorem count_slash_lexemes_lt {body : Text} (hmem : .comment body ∈ pieces) :
    (lexemes (pieces.filterMap content?)).count '/' < (joined pieces).count '/' := by
  obtain ⟨front, back, rfl⟩ := List.append_of_mem hmem
  have hfront := count_lexemes_le '/' front
  have hback := count_lexemes_le '/' back
  have hslashes : 2 ≤ (comment body).text.count '/' := by
    simp [text]
  rw [List.filterMap_append, List.filterMap_cons_none rfl, joined_append, joined_cons,
    List.count_append, List.count_append, lexemes, List.flatMap_append, List.count_append,
    ← lexemes, ← lexemes]
  omega

end Piece

namespace Written

open Piece

variable {w : Written} {laid : List Written}

theorem text_cons (w : Written) (laid : List Written) :
    text (w :: laid) = w.token.lexeme ++ (w.gap ++ text laid) :=
  List.append_assoc _ _ _

theorem count_slash_text (hgap : ∀ w ∈ laid, ∀ c ∈ w.gap, c ∈ [' ', '\r', '\t', '\n']) :
    (text laid).count '/' = (lexemes (laid.map fun w => w.token.content)).count '/' := by
  induction laid with
  | nil => rfl
  | cons w laid ih =>
      have hnone : w.gap.count '/' = 0 := by
        apply List.count_eq_zero_of_not_mem
        intro hslash
        exact absurd (hgap w List.mem_cons_self '/' hslash) (by decide)
      rw [List.map_cons, text_cons, lexemes, List.flatMap_cons, ← lexemes, List.count_append,
        List.count_append, List.count_append, hnone, Nat.zero_add,
        ih fun v hv => hgap v (List.mem_cons_of_mem w hv)]
      rfl

theorem goesOn_iff {p : Piece} (hcontent : p.content? = some w.token.content)
    (hgap : ∀ c ∈ w.gap, c ∈ [' ', '\r', '\t', '\n'])
    (hwell : ∀ v ∈ laid, v.token.WellFormed) :
    p.GoesOn (w.gap ++ text laid) ↔ ∃ next ∈ laid.head?, ¬w.Apart next := by
  cases hw : w.gap with
  | cons c gap =>
      have hc : c ∈ [' ', '\r', '\t', '\n'] := hgap c (hw ▸ List.mem_cons_self)
      refine iff_of_false (not_goesOn_blank hc hcontent) ?_
      rintro ⟨next, -, hfuses⟩
      apply hfuses
      intro hnil
      rw [hw] at hnil
      cases hnil
  | nil =>
      cases laid with
      | nil =>
          refine iff_of_false ?_ (by rintro ⟨next, hnext, -⟩; cases hnext)
          rcases content?_eq_some hcontent with ⟨m, rfl, -⟩ | ⟨value, rfl, -⟩
          · rintro (⟨-, hhead⟩ | ⟨-, hhead⟩) <;> cases hhead
          · exact id
      | cons next laid =>
          rw [List.nil_append, text_cons, goesOn_lexeme_iff hcontent (hwell next List.mem_cons_self)]
          constructor
          · intro hfuses
            exact ⟨next, rfl, fun hapart => hapart hw hfuses⟩
          · rintro ⟨other, hother, hfuses⟩
            cases hother
            by_contra hnot
            exact hfuses fun _ => hnot

/-- What is read in place of two fused tokens begins with neither of them: with a longer operator, or
with a comment, and then the slashes of the comment are missing from what is read. -/
theorem filterMap_content?_ne_of_goesOn {p : Piece}
    (hcontent : p.content? = some w.token.content) (hlexeme : p.text = w.token.lexeme)
    (hgap : ∀ v ∈ w :: laid, ∀ c ∈ v.gap, c ∈ [' ', '\r', '\t', '\n'])
    (hgoes : p.GoesOn (w.gap ++ text laid)) :
    (cut (text (w :: laid))).filterMap content? ≠ (w :: laid).map fun v => v.token.content := by
  intro hread
  have htext := text_cons w laid
  rw [← hlexeme] at htext
  generalize w.gap ++ text laid = after at htext hgoes
  rcases content?_eq_some hcontent with ⟨m, rfl, hmark⟩ | ⟨value, rfl, -⟩
  · rcases hgoes with ⟨hm, hhead⟩ | ⟨rfl, hhead⟩
    · obtain ⟨rest, rfl⟩ := List.head?_eq_some_iff.mp hhead
      obtain ⟨longer, hne, hcut⟩ := exists_cut_longer hm rest
      rw [htext, hcut, List.map_cons, hmark] at hread
      have hkind := congrArg Prod.fst (List.cons.inj hread).1
      exact hne (Kind.mark.inj hkind)
    · obtain ⟨rest, rfl⟩ := List.head?_eq_some_iff.mp hhead
      have hmem : .comment (rest.takeWhile (· != '\n')) ∈ cut (text (w :: laid)) := by
        rw [htext]
        change _ ∈ cut ('/' :: '/' :: rest)
        rw [cut_cons]
        exact List.mem_cons_self
      have hlt := count_slash_lexemes_lt hmem
      rw [hread, joined_cut, count_slash_text hgap] at hlt
      exact Nat.lt_irrefl _ hlt
  · exact hgoes

theorem cut_text_cons {p : Piece} (hlexeme : p.text = w.token.lexeme) (hend : p.Fits [])
    (hgap : ∀ c ∈ w.gap, c ∈ [' ', '\r', '\t', '\n']) (hp : ¬p.GoesOn (w.gap ++ text laid)) :
    cut (text (w :: laid)) = p :: (w.gap.map .blank ++ cut (text laid)) := by
  rw [text_cons, ← hlexeme, cut_text_append (hend.of_not_goesOn hp), cut_blanks_append hgap]

section Laid

variable (hwell : ∀ w ∈ laid, w.token.WellFormed)
  (hgap : ∀ w ∈ laid, ∀ c ∈ w.gap, c ∈ [' ', '\r', '\t', '\n'])
include hwell hgap

theorem filterMap_content?_eq_iff :
    ((cut (text laid)).filterMap content? = laid.map fun w => w.token.content) ↔
      laid.IsChain Apart := by
  induction laid with
  | nil =>
      refine iff_of_true ?_ .nil
      rw [text, List.flatMap_nil, cut_nil]
      rfl
  | cons w laid ih =>
      have hw := hgap w List.mem_cons_self
      have hwell' := fun v hv => hwell v (List.mem_cons_of_mem w hv)
      have hrest := ih hwell' fun v hv => hgap v (List.mem_cons_of_mem w hv)
      obtain ⟨p, hcontent, hlexeme, hend⟩ :=
        exists_fits_of_wellFormed (hwell w List.mem_cons_self)
      have hgoes := goesOn_iff hcontent hw hwell'
      rw [List.isChain_cons, ← hrest]
      by_cases hp : p.GoesOn (w.gap ++ text laid)
      · refine iff_of_false (filterMap_content?_ne_of_goesOn hcontent hlexeme hgap hp) ?_
        rintro ⟨hapart, -⟩
        obtain ⟨next, hnext, hfuses⟩ := hgoes.mp hp
        exact hfuses (hapart next hnext)
      · have hapart : ∀ next ∈ laid.head?, w.Apart next := by
          intro next hnext
          by_contra hfuses
          exact hp (hgoes.mpr ⟨next, hnext, hfuses⟩)
        rw [cut_text_cons hlexeme hend hw hp, List.filterMap_cons_some hcontent,
          List.filterMap_append, filterMap_blanks (fun _ => rfl), List.nil_append, List.map_cons,
          List.cons.injEq]
        constructor
        · rintro ⟨-, hread⟩
          exact ⟨hapart, hread⟩
        · rintro ⟨-, hread⟩
          exact ⟨rfl, hread⟩

theorem filterMap_complaint?_eq_nil (hapart : laid.IsChain Apart) :
    (cut (text laid)).filterMap complaint? = [] := by
  induction laid with
  | nil =>
      rw [text, List.flatMap_nil, cut_nil]
      rfl
  | cons w laid ih =>
      have hw := hgap w List.mem_cons_self
      have hwell' := fun v hv => hwell v (List.mem_cons_of_mem w hv)
      obtain ⟨hnext, hrest⟩ := List.isChain_cons.mp hapart
      obtain ⟨p, hcontent, hlexeme, hend⟩ :=
        exists_fits_of_wellFormed (hwell w List.mem_cons_self)
      have hp : ¬p.GoesOn (w.gap ++ text laid) := by
        intro hp
        obtain ⟨next, hmem, hfuses⟩ := (goesOn_iff hcontent hw hwell').mp hp
        exact hfuses (hnext next hmem)
      rw [cut_text_cons hlexeme hend hw hp,
        List.filterMap_cons_none (complaint?_of_content? hcontent), List.filterMap_append,
        filterMap_blanks (fun _ => rfl), List.nil_append]
      exact ih hwell' (fun v hv => hgap v (List.mem_cons_of_mem w hv)) hrest

end Laid

end Written

namespace Scan

theorem wellFormed_of_mem_placed {source : Text} {t : Token}
    (ht : t ∈ (placed source).filterMap Placed.token?) : t.WellFormed := by
  obtain ⟨q, hq, htoken⟩ := List.mem_filterMap.mp ht
  rw [placed_eq_map_locate] at hq
  obtain ⟨l, hl, rfl⟩ := List.mem_map.mp hq
  obtain ⟨after, -, hfits⟩ := Piece.exists_after_of_mem_locate (Piece.tiles_cut source) hl
  have hcontent := Placed.content_token? l.piece l.line
  rw [htoken] at hcontent
  exact Piece.wellFormed_of_fits hfits hcontent.symm

end Scan

/-- Tokens with blanks or nothing behind each of them are read back, and without complaint, exactly if
no two neighbours fuse. Reading never gives other tokens than those that can be written. -/
theorem read_written_iff :
    (∀ laid : List Written, (∀ w ∈ laid, w.token.WellFormed) →
      (∀ w ∈ laid, ∀ c ∈ w.gap, c ∈ [' ', '\r', '\t', '\n']) →
      ∃ result, InPlace.Yields (String.ofList (Written.text laid)) result ∧
        (result.tokens.map Token.content =
            (laid.map fun w => w.token.content) ++ [(.eof, [], none)] ↔
          laid.IsChain Written.Apart) ∧
        (laid.IsChain Written.Apart → result.diagnostics = [])) ∧
    ∀ source : String, ∃ result front last,
      InPlace.Yields source result ∧ result.tokens = front ++ [.eof last] ∧
        ∀ t ∈ front, t.WellFormed := by
  constructor
  · intro laid hwell hgap
    have hread := Written.filterMap_content?_eq_iff hwell hgap
    have hyields := InPlace.yields_scan (String.ofList (Written.text laid))
    rw [String.toList_ofList] at hyields
    refine ⟨_, hyields, ?_, ?_⟩
    · rw [Scan.map_content_tokens, List.append_left_inj, hread]
    · intro hapart
      have hnone := Written.filterMap_complaint?_eq_nil hwell hgap hapart
      rw [← Scan.map_message_diagnostics, List.map_eq_nil_iff] at hnone
      rw [InPlace.Result.diagnostics, Scan.filterMap_diagnostic?_emissions, hnone]
  · intro source
    refine ⟨_, _, _, InPlace.yields_scan source, rfl, ?_⟩
    intro t ht
    exact Scan.wellFormed_of_mem_placed ht

/-- With a line feed between them two slashes are read back. Side by side they make a comment, which
takes the first quote of the string along, and the string begins with its last. -/
theorem slashes_read_apart_and_fused :
    (∃ result, InPlace.Yields "/\n/\"a\n;\"" result ∧
      result.tokens.map Token.content =
        [(.mark .slash, ['/'], none), (.mark .slash, ['/'], none),
          (.string, "\"a\n;\"".toList, some "a\n;".toList), (.eof, [], none)] ∧
      result.diagnostics = []) ∧
    ∃ result, InPlace.Yields "//\"a\n;\"" result ∧
      result.tokens.map Token.content ≠
        [(.mark .slash, ['/'], none), (.mark .slash, ['/'], none),
          (.string, "\"a\n;\"".toList, some "a\n;".toList), (.eof, [], none)] := by
  have hslash : (Token.ofMark .slash 1).WellFormed := Or.inl ⟨.slash, rfl, rfl, rfl⟩
  have hstring : (Token.ofString ['a', '\n', ';'] 1).WellFormed :=
    Or.inr ⟨['a', '\n', ';'], by decide, rfl, rfl, rfl⟩
  constructor
  · obtain ⟨result, hyields, hread, hclean⟩ := read_written_iff.1
      [⟨.ofMark .slash 1, ['\n']⟩, ⟨.ofMark .slash 1, []⟩, ⟨.ofString ['a', '\n', ';'] 1, []⟩]
      (by simp [hslash, hstring]) (by simp)
    have hapart : List.IsChain Written.Apart
        [⟨.ofMark .slash 1, ['\n']⟩, ⟨.ofMark .slash 1, []⟩, ⟨.ofString ['a', '\n', ';'] 1, []⟩] := by
      decide
    exact ⟨result, hyields, hread.mpr hapart, hclean hapart⟩
  · obtain ⟨result, hyields, hread, -⟩ := read_written_iff.1
      [⟨.ofMark .slash 1, []⟩, ⟨.ofMark .slash 1, []⟩, ⟨.ofString ['a', '\n', ';'] 1, []⟩]
      (by simp [hslash, hstring]) (by simp)
    refine ⟨result, hyields, mt hread.mp ?_⟩
    decide

end LoxTokens
