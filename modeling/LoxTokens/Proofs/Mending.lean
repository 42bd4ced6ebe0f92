import LoxTokens.Proofs.Writing

/-!
# Sources mended

A source is mended by putting a blank in place of every stray character and, if its last string is
not closed, line feeds in place of the string, as many as it holds. No piece goes on into a blank or
a line feed, except a comment, and a comment has nothing but a line feed or the end behind it. So all
other pieces stay what they were, on the lines on which they were, and nothing is left to report.
-/

namespace LoxTokens

namespace Piece

variable {p : Piece} {pieces : List Piece} {source after : Text}

/-- The pieces that are put in place of a piece. -/
def mended : Piece → List Piece
  | stray _ => [blank ' ']
  | unclosed tail => List.replicate tail.newlines (blank '\n')
  | p => [p]

/-- A source with its pieces mended. -/
def mend (pieces : List Piece) : Text :=
  joined (pieces.flatMap mended)

theorem mend_cons (p : Piece) (pieces : List Piece) :
    mend (p :: pieces) = joined p.mended ++ mend pieces := by
  rw [mend, List.flatMap_cons, joined_append, mend]

theorem mended_cases (hfits : p.Fits after) :
    p.mended = [p] ∨ (∃ c ≠ '\n', p = .stray c) ∨ ∃ tail, p = .unclosed tail ∧ after = [] := by
  cases hfits with
  | punctuation | longOperator | shortOperator | comment | slash | blank | string =>
      exact Or.inl rfl
  | @stray c _ hc =>
      refine Or.inr (Or.inl ⟨c, ?_, rfl⟩)
      rintro rfl
      exact hc (by decide)
  | unclosed => exact Or.inr (Or.inr ⟨_, rfl, rfl⟩)

theorem joined_blanks (s : Text) : joined (s.map blank) = s := by
  induction s with
  | nil => rfl
  | cons c s ih =>
      rw [List.map_cons, joined_cons, ih]
      rfl

theorem replicate_blank (n : Nat) :
    List.replicate n (blank '\n') = (List.replicate n '\n').map blank :=
  List.map_replicate.symm

/-! ### The pieces of a mended source -/

/-- A mended text begins as before, or it has begun with a fault and does not begin with anything
that a mark can go on into. -/
theorem head?_mend (htiles : Tiles pieces source) :
    (mend pieces).head? = source.head? ∨
      source ≠ [] ∧ source.head? ≠ some '\n' ∧ ∀ c ∈ (mend pieces).head?, c = ' ' ∨ c = '\n' := by
  cases htiles with
  | nil => exact Or.inl rfl
  | @cons p pieces rest hfits hrest =>
      rw [mend_cons]
      rcases mended_cases hfits with hsame | ⟨c, hc, rfl⟩ | ⟨tail, rfl, rfl⟩
      · left
        rw [hsame, joined_cons, joined_nil, List.append_nil,
          List.head?_append_of_ne_nil _ p.text_ne_nil, List.head?_append_of_ne_nil _ p.text_ne_nil]
      · right
        simp [text, mended, hc]
      · obtain rfl := eq_cut_of_tiles hrest
        right
        simp only [text, mended, replicate_blank, joined_blanks, cut_nil, mend, List.flatMap_nil,
          joined_nil, List.append_nil]
        refine ⟨by simp, by simp, ?_⟩
        intro c hc
        exact Or.inr (List.eq_of_mem_replicate (List.mem_of_mem_head? hc))

theorem fits_mend (hfits : p.Fits source) (hsame : p.mended = [p]) (htiles : Tiles pieces source) :
    p.Fits (mend pieces) := by
  apply hfits.nil.of_not_goesOn
  intro hgoes
  rcases head?_mend htiles with hhead | ⟨hne, hfeed, hblank⟩
  · exact hfits.not_goesOn ((goesOn_congr_head? hhead).mp hgoes)
  · cases p with
    | mark m =>
        rcases hgoes with ⟨-, hnext⟩ | ⟨-, hnext⟩
        all_goals exact absurd (hblank _ hnext) (by decide)
    | comment body =>
        -- What stops a comment is a line feed or the end, and neither is a fault that is mended.
        exact hfits.not_goesOn ⟨hne, hfeed⟩
    | unclosed tail =>
        cases hfits
        exact hne rfl
    | blank _ => exact hgoes
    | string _ => exact hgoes
    | stray _ => exact hgoes

theorem cut_mend (htiles : Tiles pieces source) : cut (mend pieces) = pieces.flatMap mended := by
  induction htiles with
  | nil => exact cut_nil
  | @cons p pieces rest hfits hrest ih =>
      rw [mend_cons, List.flatMap_cons, ← ih]
      rcases mended_cases hfits with hsame | ⟨c, -, rfl⟩ | ⟨tail, rfl, rfl⟩
      · rw [hsame, joined_cons, joined_nil, List.append_nil,
          cut_text_append (fits_mend hfits hsame hrest), List.singleton_append]
      · have hblank : Fits (.blank ' ') (mend pieces) := .blank (by simp)
        exact cut_text_append hblank
      · rw [mended, replicate_blank, joined_blanks]
        apply cut_blanks_append
        intro c hc
        rw [List.eq_of_mem_replicate hc]
        simp

example : cut (mend (cut "é!=\"a\nb".toList)) = [.blank ' ', .mark .bangEqual, .blank '\n'] := by
  decide +kernel

theorem complaint?_of_mem_mended {q : Piece} (hq : q ∈ p.mended) : q.complaint? = none := by
  cases p with
  | stray c =>
      obtain rfl := List.mem_singleton.mp hq
      rfl
  | unclosed tail =>
      obtain rfl := List.eq_of_mem_replicate hq
      rfl
  | mark _ | comment _ | blank _ | string _ =>
      obtain rfl := List.mem_singleton.mp hq
      rfl

theorem newlines_joined_mended (hfits : p.Fits after) :
    (joined p.mended).newlines = p.text.newlines := by
  rcases mended_cases hfits with hsame | ⟨c, hc, rfl⟩ | ⟨tail, rfl, -⟩
  · rw [hsame, joined_cons, joined_nil, List.append_nil]
  · simp [mended, text, Text.newlines_singleton, hc]
  · rw [mended, replicate_blank, joined_blanks]
    simp [text, Text.newlines]

end Piece

/-! ### The tokens of a mended source -/

namespace Placed

variable {p : Piece} {pieces : List Piece} {source : Text}

theorem filterMap_token?_place_mended (p : Piece) (line : Nat) :
    (place line p.mended).filterMap token? = (token? ⟨p, line⟩).toList := by
  have hblanks : ∀ n line, (place line (List.replicate n (.blank '\n'))).filterMap token? = [] := by
    intro n
    induction n with
    | zero => exact fun _ => rfl
    | succ n ih => exact fun _ => ih _
  cases p with
  | unclosed tail => exact hblanks _ _
  | mark _ | comment _ | blank _ | string _ | stray _ => rfl

theorem filterMap_token?_place_flatMap_mended (htiles : Piece.Tiles pieces source) (line : Nat) :
    (place line (pieces.flatMap Piece.mended)).filterMap token? =
      (place line pieces).filterMap token? := by
  induction htiles generalizing line with
  | nil => rfl
  | @cons p pieces rest hfits _ ih =>
      rw [List.flatMap_cons, place_append, List.filterMap_append, filterMap_token?_place_mended,
        Piece.newlines_joined_mended hfits, ih, place]
      cases htoken : token? ⟨p, line⟩ with
      | none =>
          rw [List.filterMap_cons_none htoken]
          rfl
      | some t =>
          rw [List.filterMap_cons_some htoken]
          rfl

end Placed

namespace Scan

open Piece

theorem newlines_mend (source : Text) : (mend (cut source)).newlines = source.newlines := by
  have htiles := tiles_cut source
  generalize cut source = pieces at htiles
  induction htiles with
  | nil => rfl
  | cons hfits _ ih =>
      rw [mend_cons, Text.newlines_append, newlines_joined_mended hfits, ih, Text.newlines_append]

theorem tokens_mend (source : Text) : tokens (mend (cut source)) = tokens source := by
  have htiles := tiles_cut source
  rw [tokens, tokens, placed, placed, cut_mend htiles,
    Placed.filterMap_token?_place_flatMap_mended htiles, lastLine, lastLine, newlines_mend]

theorem diagnostics_mend (source : Text) : diagnostics (mend (cut source)) = [] := by
  rw [diagnostics_eq_nil_iff, cut_mend (tiles_cut source)]
  intro q hq
  obtain ⟨p, -, hq⟩ := List.mem_flatMap.mp hq
  exact complaint?_of_mem_mended hq

end Scan

/-! ### The faults that are mended -/

/-- The fault that is logged, if one is. -/
def Emission.fault? : Emission → Option Fault
  | log (.lexicalError _ fault) => some fault
  | _ => none

def Piece.fault? : Piece → Option Fault
  | stray c => some (.unexpectedCharacter c)
  | unclosed _ => some .unterminatedString
  | _ => none

namespace Placed

theorem filterMap_fault?_emissions (p : Placed) :
    p.emissions.filterMap Emission.fault? = (p.fault?.map Prod.snd).toList := by
  obtain ⟨piece, line⟩ := p
  cases piece <;> rfl

theorem map_snd_fault? (piece : Piece) (line : Nat) :
    (fault? ⟨piece, line⟩).map Prod.snd = piece.fault? := by
  cases piece <;> rfl

end Placed

namespace Scan

theorem filterMap_fault?_emissions (source : Text) :
    (emissions source).filterMap Emission.fault? = (Piece.cut source).filterMap Piece.fault? := by
  rw [emissions, List.filterMap_append, List.filterMap_flatMap]
  simp only [Placed.filterMap_fault?_emissions]
  rw [← List.filterMap_eq_flatMap_toList, ← List.map_filterMap, placed,
    Placed.map_filterMap_place Placed.map_snd_fault?]
  exact List.append_nil _

theorem map_message_filterMap_fault? (pieces : List Piece) :
    (pieces.filterMap Piece.fault?).map Fault.message = pieces.filterMap Piece.complaint? := by
  rw [List.map_filterMap]
  apply List.filterMap_congr
  intro p _
  cases p <;> rfl

end Scan

/-- Once its faults are blanked out, a source has the tokens that it had before, all of them on the
same lines, and nothing is reported of it. -/
theorem scan_mended (source : String) :
    ∃ pieces result mended,
      Piece.Tiles pieces source.toList ∧
      InPlace.Yields source result ∧
      result.emissions.filterMap Emission.fault? = pieces.filterMap Piece.fault? ∧
      result.diagnostics.map Diagnostic.message =
        (pieces.filterMap Piece.fault?).map Fault.message ∧
      InPlace.Yields (String.ofList (Piece.mend pieces)) mended ∧
      mended.diagnostics = [] ∧
      mended.tokens = result.tokens ∧
      (Piece.mend pieces).newlines = Text.newlines source.toList := by
  refine ⟨Piece.cut source.toList, _, _, Piece.tiles_cut _, InPlace.yields_scan source,
    Scan.filterMap_fault?_emissions _, ?_, InPlace.yields_scan _, ?_, ?_, Scan.newlines_mend _⟩
  · rw [InPlace.Result.diagnostics, Scan.filterMap_diagnostic?_emissions,
      Scan.map_message_filterMap_fault?]
    exact Scan.map_message_diagnostics source.toList
  · rw [InPlace.Result.diagnostics, Scan.filterMap_diagnostic?_emissions, String.toList_ofList]
    exact Scan.diagnostics_mend source.toList
  · rw [String.toList_ofList]
    exact Scan.tokens_mend source.toList

end LoxTokens
