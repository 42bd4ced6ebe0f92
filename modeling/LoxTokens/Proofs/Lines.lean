import LoxTokens.Proofs.InPlace.Bounds
import LoxTokens.Proofs.Reading
import Mathlib.Data.List.Basic

/-!
# Line numbers

A number is right if it is one more than the line feeds in front of the place. The scan's pieces are
put down with the text in front of each, and every number that the machine writes is compared with
that text: a token's with what is before its first character, an unexpected character's likewise, and
those of the end with the whole source. Every line feed is counted as soon as it is taken, so the
numbers are right as long as they exist, and the machine stops at the first one that does not.
-/

namespace LoxTokens

/-- A piece and the text in front of it. -/
structure Located where
  before : Text
  piece : Piece

namespace Located

def line (l : Located) : Nat :=
  1 + l.before.newlines

def token? (l : Located) : Option ((Kind × Text × Option Text) × Nat) :=
  l.piece.content?.map fun content => (content, l.line)

/-- The report about a piece and the line it is about, the last line of the source being `last`. -/
def report? (last : Nat) (l : Located) : Option (Text × Nat) :=
  match l.piece with
  | .stray _ => some ("Unexpected character.".toList, l.line)
  | .unclosed _ => some ("Unterminated string.".toList, last)
  | _ => none

end Located

namespace Piece

/-- The pieces with what is in front of each, `before` being in front of the first. -/
def locate (before : Text) : List Piece → List Located
  | [] => []
  | piece :: pieces => ⟨before, piece⟩ :: locate (before ++ piece.text) pieces

theorem place_eq_map_locate (before : Text) (pieces : List Piece) :
    Placed.place (1 + before.newlines) pieces =
      (locate before pieces).map fun l => ⟨l.piece, l.line⟩ := by
  induction pieces generalizing before with
  | nil => rfl
  | cons piece pieces ih =>
      rw [Placed.place, locate, List.map_cons, ← ih, Text.newlines_append, Nat.add_assoc]
      rfl

theorem map_piece_locate (before : Text) (pieces : List Piece) :
    (locate before pieces).map Located.piece = pieces := by
  induction pieces generalizing before with
  | nil => rfl
  | cons piece pieces ih => rw [locate, List.map_cons, ih]

theorem exists_after_of_mem_locate {before rest : Text} {pieces : List Piece} {l : Located}
    (htiles : Tiles pieces rest) (hmem : l ∈ locate before pieces) :
    ∃ after, before ++ rest = l.before ++ l.piece.text ++ after ∧ l.piece.Fits after := by
  induction htiles generalizing before with
  | nil => cases hmem
  | @cons piece pieces rest hfits _ ih =>
      rcases List.mem_cons.mp hmem with rfl | hmem
      · exact ⟨rest, (List.append_assoc _ _ _).symm, hfits⟩
      · obtain ⟨after, htext, hfits⟩ := ih hmem
        exact ⟨after, by rw [← htext, List.append_assoc], hfits⟩

theorem newlines_of_mem_locate {source : Text} {l : Located}
    (hmem : l ∈ locate [] (cut source)) :
    l.before.newlines ≤ source.newlines ∧
      ∀ tail, l.piece = .unclosed tail → l.before.newlines + tail.newlines = source.newlines := by
  obtain ⟨after, htext, hfits⟩ := exists_after_of_mem_locate (tiles_cut source) hmem
  rw [List.nil_append] at htext
  have hcount := congrArg Text.newlines htext
  rw [Text.newlines_append, Text.newlines_append] at hcount
  constructor
  · omega
  · intro tail hpiece
    rw [hpiece] at hfits hcount
    -- An unclosed string only fits the end, so all line feeds are before it or in it.
    cases hfits
    have hquote : (unclosed tail).text.newlines = tail.newlines := Text.newlines_cons '"' tail
    rw [hquote, Text.newlines_nil] at hcount
    omega

end Piece

namespace Scan

variable {source : Text}

theorem placed_eq_map_locate (source : Text) :
    placed source = (Piece.locate [] (Piece.cut source)).map fun l => ⟨l.piece, l.line⟩ :=
  Piece.place_eq_map_locate [] (Piece.cut source)

/-! ### The numbers of tokens and reports -/

theorem map_token?_of_lt {l : Located} (hline : l.line < UInt32.size) :
    (Placed.token? ⟨l.piece, l.line⟩).map (fun t => (t.content, t.line.toNat)) = l.token? := by
  have hnumber := UInt32.toNat_ofNat_of_lt' hline
  obtain ⟨before, piece⟩ := l
  cases piece with
  | mark m => exact congrArg (fun n => some ((Kind.mark m, m.spelling, none), n)) hnumber
  | string value =>
      exact congrArg (fun n => some ((Kind.string, (Piece.string value).text, some value), n))
        hnumber
  | comment _ => rfl
  | blank _ => rfl
  | unclosed _ => rfl
  | stray _ => rfl

theorem map_line_tokens (hbound : 1 + source.newlines < UInt32.size) :
    (tokens source).map (fun t => (t.content, t.line.toNat)) =
      (Piece.locate [] (Piece.cut source)).filterMap Located.token? ++
        [((.eof, [], none), 1 + source.newlines)] := by
  have heof : (lastLine source).toNat = 1 + source.newlines := UInt32.toNat_ofNat_of_lt' hbound
  rw [tokens, List.map_append, placed_eq_map_locate, List.filterMap_map, List.map_filterMap,
    ← heof]
  refine congrArg (· ++ _) (List.filterMap_congr fun l hmem => ?_)
  apply map_token?_of_lt
  have hle := (Piece.newlines_of_mem_locate hmem).1
  unfold Located.line
  omega

theorem map_line_diagnostics (hbound : 1 + source.newlines < UInt32.size) :
    (diagnostics source).map (fun d => (d.message, d.line.toNat)) =
      (Piece.locate [] (Piece.cut source)).filterMap (Located.report? (1 + source.newlines)) := by
  rw [diagnostics, faults, placed_eq_map_locate, List.filterMap_map, List.map_map,
    List.map_filterMap]
  refine List.filterMap_congr fun l hmem => ?_
  obtain ⟨hle, hunclosed⟩ := Piece.newlines_of_mem_locate hmem
  obtain ⟨before, piece⟩ := l
  cases piece with
  | stray c =>
      have hlt : 1 + before.newlines < UInt32.size := by
        change before.newlines ≤ _ at hle
        omega
      exact congrArg (fun n => some ("Unexpected character.".toList, n))
        (UInt32.toNat_ofNat_of_lt' hlt)
  | unclosed tail =>
      have hsum : 1 + before.newlines + tail.newlines = 1 + source.newlines := by
        rw [Nat.add_assoc, hunclosed tail rfl]
      rw [← hsum] at hbound ⊢
      exact congrArg (fun n => some ("Unterminated string.".toList, n))
        (UInt32.toNat_ofNat_of_lt' hbound)
  | mark _ => rfl
  | comment _ => rfl
  | blank _ => rfl
  | string _ => rfl

end Scan

/-! ### Numbers never decrease -/

def Emission.line : Emission → UInt32
  | log (.token t) => t.line
  | log (.lexicalError line _) => line
  | log (.finished _ _ lines) => lines
  | report d => d.line

def Emission.NotAfter (e f : Emission) : Prop :=
  e.line.toNat ≤ f.line.toNat

namespace Placed

/-- What is said about a piece is about a line that the piece is on. -/
theorem exists_line_of_mem_emissions {piece : Piece} {line : Nat} {e : Emission}
    (hmem : e ∈ emissions ⟨piece, line⟩) :
    ∃ more, more ≤ piece.text.newlines ∧ e.line = .ofNat (line + more) := by
  cases piece with
  | mark m =>
      obtain rfl := List.mem_singleton.mp hmem
      exact ⟨0, Nat.zero_le _, rfl⟩
  | string value =>
      obtain rfl := List.mem_singleton.mp hmem
      exact ⟨0, Nat.zero_le _, rfl⟩
  | stray c =>
      refine ⟨0, Nat.zero_le _, ?_⟩
      rcases List.mem_cons.mp hmem with rfl | hmem
      · rfl
      · obtain rfl := List.mem_singleton.mp hmem
        rfl
  | unclosed tail =>
      refine ⟨tail.newlines, Nat.le_of_eq (Text.newlines_cons '"' tail).symm, ?_⟩
      rcases List.mem_cons.mp hmem with rfl | hmem
      · rfl
      · obtain rfl := List.mem_singleton.mp hmem
        rfl
  | comment _ => cases hmem
  | blank _ => cases hmem

theorem toNat_line_of_mem_emissions {piece : Piece} {line : Nat} {e : Emission}
    (hfits : line + piece.text.newlines < UInt32.size) (hmem : e ∈ emissions ⟨piece, line⟩) :
    line ≤ e.line.toNat ∧ e.line.toNat ≤ line + piece.text.newlines := by
  obtain ⟨more, hmore, hline⟩ := exists_line_of_mem_emissions hmem
  rw [hline, UInt32.toNat_ofNat_of_lt' (by omega)]
  omega

theorem pairwise_notAfter_emissions (p : Placed) : p.emissions.Pairwise Emission.NotAfter := by
  obtain ⟨piece, line⟩ := p
  cases piece with
  | stray c => exact List.pairwise_pair.mpr (Nat.le_refl _)
  | unclosed tail => exact List.pairwise_pair.mpr (Nat.le_refl _)
  | mark m => exact List.pairwise_singleton _ _
  | string value => exact List.pairwise_singleton _ _
  | comment _ => exact .nil
  | blank _ => exact .nil

theorem notAfter_place (line : Nat) (pieces : List Piece)
    (hfits : line + (Piece.joined pieces).newlines < UInt32.size) :
    (∀ e ∈ (place line pieces).flatMap emissions,
      line ≤ e.line.toNat ∧ e.line.toNat ≤ line + (Piece.joined pieces).newlines) ∧
    ((place line pieces).flatMap emissions).Pairwise Emission.NotAfter := by
  induction pieces generalizing line with
  | nil =>
      constructor
      · intro e hmem
        cases hmem
      · exact .nil
  | cons piece pieces ih =>
      rw [Piece.joined_cons, Text.newlines_append] at hfits ⊢
      have hrest : line + piece.text.newlines + (Piece.joined pieces).newlines < UInt32.size := by
        omega
      have hpiece : line + piece.text.newlines < UInt32.size := by omega
      obtain ⟨hbounds, hpairwise⟩ := ih _ hrest
      rw [place, List.flatMap_cons]
      constructor
      · intro e hmem
        rcases List.mem_append.mp hmem with hmem | hmem
        · have hhere := toNat_line_of_mem_emissions hpiece hmem
          omega
        · have hthere := hbounds e hmem
          omega
      · refine List.pairwise_append.mpr ⟨pairwise_notAfter_emissions _, hpairwise, ?_⟩
        intro e hmem f hmem'
        have hhere := (toNat_line_of_mem_emissions hpiece hmem).2
        have hthere := (hbounds f hmem').1
        exact Nat.le_trans hhere hthere

end Placed

namespace Scan

theorem toNat_line_le_of_mem_emissions {source : Text} {e : Emission}
    (hbound : 1 + source.newlines < UInt32.size) (hmem : e ∈ emissions source) :
    e.line.toNat ≤ 1 + source.newlines := by
  have hjoined := Piece.joined_cut source
  rcases List.mem_append.mp hmem with hmem | hmem
  · have hline := (Placed.notAfter_place 1 (Piece.cut source) (by rwa [hjoined])).1 e hmem
    rw [hjoined] at hline
    exact hline.2
  · obtain rfl := List.mem_singleton.mp hmem
    exact Nat.mod_le _ _

theorem pairwise_notAfter_emissions {source : Text} (hbound : 1 + source.newlines < UInt32.size) :
    (emissions source).Pairwise Emission.NotAfter := by
  have hjoined := Piece.joined_cut source
  have hpairwise := (Placed.notAfter_place 1 (Piece.cut source) (by rwa [hjoined])).2
  refine List.pairwise_append.mpr ⟨hpairwise, List.pairwise_singleton _ _, ?_⟩
  intro e hmem f hmem'
  obtain rfl := List.mem_singleton.mp hmem'
  have hlast : (lastLine source).toNat = 1 + source.newlines := UInt32.toNat_ofNat_of_lt' hbound
  change e.line.toNat ≤ (lastLine source).toNat
  rw [hlast]
  exact toNat_line_le_of_mem_emissions hbound (List.mem_append_left _ hmem)

end Scan

/-! ### The machine's count -/

namespace InPlace

namespace State

variable {source : String} {s s' : State}

/-- Wherever the machine is, it has counted the line feeds it has behind it, each of them once. -/
theorem Passes.toNat_line (hpasses : s.Passes .checked source) :
    ∃ before, slice source 0 s.current = .ok before ∧ s.line.toNat = 1 + before.newlines := by
  obtain ⟨done, taken, rest, hstands⟩ := hpasses.onCourse
  refine ⟨Piece.joined done ++ taken, ?_, hstands.toNat_line⟩
  rw [hstands.current_eq]
  exact slice_size (u := []) hstands.source_eq

theorem exists_step?_of_run {counting : Counting} {breach : Breach}
    (hpasses : s.Passes counting source) (hrun : s.run counting source = .error breach) :
    ∃ t : State, t.Passes counting source ∧ t.step? counting source = .error breach := by
  fun_induction run counting source s with
  | case1 s breach hstep =>
      cases hrun
      exact ⟨s, hpasses, hstep⟩
  | case2 s hstep => cases hrun
  | case3 s t hstep ih => exact ih (hpasses.tail hstep) hrun

end State

theorem exists_last_line_of_scan {source : String} (hscan : scan source = .error .lineOverflow) :
    ∃ s, State.Passes .checked source s ∧ s.line.toNat + 1 = UInt32.size ∧
      s.step? .checked source = .error .lineOverflow := by
  unfold scan scanCounting at hscan
  cases hrun : State.initial.run .checked source with
  | ok s =>
      rw [hrun] at hscan
      cases hscan
  | error breach =>
      rw [hrun] at hscan
      cases hscan
      obtain ⟨s, hpasses, hstep⟩ := State.exists_step?_of_run .refl hrun
      exact ⟨s, hpasses, (State.overflow_of_step? hpasses.onCourse hstep).2.2.1, hstep⟩

/-- The machine's count is exact wherever it is. With at most `2 ^ 32 - 2` line feeds every number is
right and they never decrease; with one more there is a line that has no number. -/
theorem scan_lines_exact (source : String) :
    (∀ s, State.Passes .checked source s →
      ∃ before, slice source 0 s.current = .ok before ∧ s.line.toNat = 1 + before.newlines) ∧
    (∀ l ∈ Piece.locate [] (Piece.cut source.toList),
      ∃ after, source.toList = l.before ++ l.piece.text ++ after) ∧
    (Text.newlines source.toList ≤ UInt32.size - 2 →
      ∃ result, scan source = .ok result ∧
        result.tokens.map (fun t => (t.content, t.line.toNat)) =
          (Piece.locate [] (Piece.cut source.toList)).filterMap Located.token? ++
            [((.eof, [], none), 1 + Text.newlines source.toList)] ∧
        result.diagnostics.map (fun d => (d.message, d.line.toNat)) =
          (Piece.locate [] (Piece.cut source.toList)).filterMap
            (Located.report? (1 + Text.newlines source.toList)) ∧
        (∃ tokens errors lines,
          result.emissions.getLast? = some (.log (.finished tokens errors lines)) ∧
            lines.toNat = 1 + Text.newlines source.toList) ∧
        result.emissions.Pairwise Emission.NotAfter) ∧
    (UInt32.size - 1 ≤ Text.newlines source.toList →
      scan source = .error .lineOverflow ∧
        ∃ s, State.Passes .checked source s ∧ s.line.toNat = UInt32.size - 1 ∧
          s.step? .checked source = .error .lineOverflow) := by
  have hsize : UInt32.size = 4294967296 := rfl
  refine ⟨fun s hpasses => hpasses.toNat_line, ?_, ?_, ?_⟩
  · intro l hmem
    obtain ⟨after, htext, -⟩ := Piece.exists_after_of_mem_locate (Piece.tiles_cut _) hmem
    exact ⟨after, htext⟩
  · intro hnewlines
    have hbound : 1 + Text.newlines source.toList < UInt32.size := by omega
    refine ⟨⟨Scan.tokens source.toList, Scan.emissions source.toList⟩, ?_, ?_, ?_, ?_, ?_⟩
    · rw [scan_eq, if_pos hbound]
    · exact Scan.map_line_tokens hbound
    · rw [Result.diagnostics, Scan.filterMap_diagnostic?_emissions]
      exact Scan.map_line_diagnostics hbound
    · refine ⟨_, _, _, List.getLast?_concat, ?_⟩
      exact UInt32.toNat_ofNat_of_lt' hbound
    · exact Scan.pairwise_notAfter_emissions hbound
  · intro hnewlines
    have hscan : scan source = .error .lineOverflow := by
      rw [scan_eq, if_neg (by omega)]
    obtain ⟨s, hpasses, hlast, hstep⟩ := exists_last_line_of_scan hscan
    exact ⟨hscan, s, hpasses, by omega, hstep⟩

/-- A source that has numbers enough, and one that has one line feed too many. -/
theorem scan_lines_exact_on_both_sides :
    (∃ result, scan "\"a\nb\" +\n@" = .ok result ∧
      result.tokens.map (fun t => t.line.toNat) = [1, 2, 3] ∧
      result.diagnostics.map (fun d => d.line.toNat) = [3]) ∧
    scan (String.ofList (List.replicate (UInt32.size - 1) '\n')) = .error .lineOverflow := by
  constructor
  · obtain ⟨result, hscan, htokens, hdiagnostics, -⟩ :=
      (scan_lines_exact "\"a\nb\" +\n@").2.2.1 (by decide)
    refine ⟨result, hscan, ?_, ?_⟩
    · have hlines := congrArg (List.map Prod.snd) htokens
      rw [List.map_map] at hlines
      exact hlines.trans (by decide +kernel)
    · have hlines := congrArg (List.map Prod.snd) hdiagnostics
      rw [List.map_map] at hlines
      exact hlines.trans (by decide +kernel)
  · have hcount : Text.newlines (String.ofList (List.replicate (UInt32.size - 1) '\n')).toList =
        UInt32.size - 1 := by
      rw [String.toList_ofList, Text.newlines, List.count_replicate_self]
    exact ((scan_lines_exact _).2.2.2 (Nat.le_of_eq hcount.symm)).1

end InPlace

end LoxTokens
