import LoxTokens.Proofs.Lines

/-!
# The seam between two texts

A text is cut piece by piece, and a piece asks for no more than the next character. So the cut of two
texts put together is the two cuts put together, unless the last piece of the first text goes on into
the second, and only four sorts of pieces can do that. What is read off the second part is what would
be read off it alone, further down.
-/

namespace LoxTokens

namespace Piece

variable {p : Piece} {pieces others : List Piece} {a b after : Text}

/-- The text ends in the piece. -/
def EndsIn (source : Text) (p : Piece) : Prop :=
  ∃ front, Tiles (front ++ [p]) source

/-- At the end of a text the piece would take more of what comes behind: a comment anything but a line
feed, a short operator an equals sign, a slash another one, an unclosed string whatever there is. -/
def GoesOn : Piece → Text → Prop
  | comment _, after => after ≠ [] ∧ after.head? ≠ some '\n'
  | mark m, after =>
      m ∈ [.bang, .equal, .less, .greater] ∧ after.head? = some '=' ∨
        m = .slash ∧ after.head? = some '/'
  | unclosed _, after => after ≠ []
  | _, _ => False

/-! ### Pieces that fit -/

/-- A piece that has something behind it does not care what comes behind that. -/
theorem Fits.append (hfits : Fits p after) (hafter : after ≠ []) (more : Text) :
    Fits p (after ++ more) := by
  have hhead : (after ++ more).head? = after.head? := List.head?_append_of_ne_nil after hafter
  cases hfits with
  | punctuation hm => exact .punctuation hm
  | longOperator hm => exact .longOperator hm
  | shortOperator hm hne =>
      rw [← hhead] at hne
      exact .shortOperator hm hne
  | comment hbody hend =>
      rcases hend with rfl | hend
      · exact absurd rfl hafter
      · rw [← hhead] at hend
        exact .comment hbody (Or.inr hend)
  | slash hne =>
      rw [← hhead] at hne
      exact .slash hne
  | blank hc => exact .blank hc
  | string hvalue => exact .string hvalue
  | unclosed _ => exact absurd rfl hafter
  | stray hc => exact .stray hc

theorem not_goesOn_of_mem {m : Mark} {marks : List Mark} (hm : m ∈ marks)
    (hshort : ∀ other ∈ [Mark.bang, .equal, .less, .greater], other ∉ marks)
    (hslash : Mark.slash ∉ marks) : ¬(mark m).GoesOn after := by
  rintro (⟨hgrows, -⟩ | ⟨rfl, -⟩)
  · exact hshort m hgrows hm
  · exact hslash hm

theorem Fits.not_goesOn (hfits : Fits p after) : ¬p.GoesOn after := by
  intro hgoes
  cases hfits with
  | punctuation hm => exact not_goesOn_of_mem hm (by decide) (by decide) hgoes
  | longOperator hm => exact not_goesOn_of_mem hm (by decide) (by decide) hgoes
  | shortOperator hm hne =>
      rcases hgoes with ⟨-, hequals⟩ | ⟨rfl, -⟩
      · exact hne hequals
      · exact absurd hm (by decide)
  | comment _ hafter =>
      rcases hafter with rfl | hfeed
      · exact hgoes.1 rfl
      · exact hgoes.2 hfeed
  | slash hne =>
      rcases hgoes with ⟨hshort, -⟩ | ⟨-, hslash⟩
      · exact absurd hshort (by decide)
      · exact hne hslash
  | unclosed _ => exact hgoes rfl
  | blank _ => exact hgoes
  | string _ => exact hgoes
  | stray _ => exact hgoes

theorem Fits.of_not_goesOn (hend : Fits p []) (hgoes : ¬p.GoesOn after) : Fits p after := by
  cases hend with
  | punctuation hm => exact .punctuation hm
  | longOperator hm => exact .longOperator hm
  | shortOperator hm _ =>
      refine .shortOperator hm ?_
      intro hequals
      exact hgoes (Or.inl ⟨hm, hequals⟩)
  | comment hbody _ =>
      refine .comment hbody ?_
      by_cases hnil : after = []
      · exact Or.inl hnil
      · by_cases hfeed : after.head? = some '\n'
        · exact Or.inr hfeed
        · exact absurd ⟨hnil, hfeed⟩ hgoes
  | slash _ =>
      refine .slash ?_
      intro hslash
      exact hgoes (Or.inr ⟨rfl, hslash⟩)
  | unclosed htail =>
      by_cases hnil : after = []
      · subst hnil
        exact .unclosed htail
      · exact absurd hnil hgoes
  | blank hc => exact .blank hc
  | string hvalue => exact .string hvalue
  | stray hc => exact .stray hc

/-- A piece looks at the next character and no further. -/
theorem goesOn_congr_head? (hhead : a.head? = b.head?) : p.GoesOn a ↔ p.GoesOn b := by
  have hnil : a = [] ↔ b = [] := by
    rw [← List.head?_eq_none_iff, hhead, List.head?_eq_none_iff]
  cases p <;> simp [GoesOn, hhead, hnil]

theorem Fits.nil (hfits : Fits p after) : Fits p [] := by
  cases hfits with
  | punctuation hm => exact .punctuation hm
  | longOperator hm => exact .longOperator hm
  | shortOperator hm _ => exact .shortOperator hm (by simp)
  | comment hbody _ => exact .comment hbody (Or.inl rfl)
  | slash _ => exact .slash (by simp)
  | blank hc => exact .blank hc
  | string hvalue => exact .string hvalue
  | unclosed htail => exact .unclosed htail
  | stray hc => exact .stray hc

/-! ### Tilings put together -/

theorem Tiles.joined_eq (htiles : Tiles pieces a) : joined pieces = a := by
  rw [eq_cut_of_tiles htiles, joined_cut]

theorem tiles_cons_iff :
    Tiles (p :: pieces) a ↔ a = p.text ++ joined pieces ∧ Fits p (joined pieces) ∧
      Tiles pieces (joined pieces) := by
  constructor
  · intro htiles
    cases htiles with
    | cons hfits hrest =>
        rw [hrest.joined_eq]
        exact ⟨rfl, hfits, hrest⟩
  · rintro ⟨rfl, hfits, hrest⟩
    exact .cons hfits hrest

theorem Tiles.fits_last (htiles : Tiles (pieces ++ [p]) a) : Fits p [] := by
  induction pieces generalizing a with
  | nil => exact (tiles_cons_iff.mp htiles).2.1
  | cons _ _ ih => exact ih (tiles_cons_iff.mp htiles).2.2

/-- Only the last piece of the first tiling comes to see what it did not see before. -/
theorem Tiles.append_iff (ha : Tiles pieces a) (hb : Tiles others b) :
    Tiles (pieces ++ others) (a ++ b) ↔ ∀ p, pieces.getLast? = some p → Fits p b := by
  induction ha with
  | nil =>
      constructor
      · intro _ p hp
        cases hp
      · intro _
        exact hb
  | @cons piece pieces rest hfits hrest ih =>
      have hjoined : joined (pieces ++ others) = rest ++ b := by
        rw [joined_append, hrest.joined_eq, hb.joined_eq]
      rw [List.cons_append, tiles_cons_iff, hjoined, ih, List.append_assoc]
      cases pieces with
      | nil =>
          obtain rfl := hrest.joined_eq
          constructor
          · rintro ⟨-, hseam, -⟩ p hp
            cases hp
            exact hseam
          · intro hseam
            refine ⟨rfl, hseam piece rfl, ?_⟩
            intro p hp
            cases hp
      | cons second pieces =>
          -- The piece has the whole second piece behind it, and looks no further.
          have hne : rest ≠ [] := by
            rw [← hrest.joined_eq, joined_cons]
            intro hnil
            exact second.text_ne_nil (List.append_eq_nil_iff.mp hnil).1
          rw [List.getLast?_cons_cons]
          constructor
          · rintro ⟨-, -, hseam⟩
            exact hseam
          · intro hseam
            exact ⟨rfl, hfits.append hne b, hseam⟩

theorem endsIn_iff : EndsIn a p ↔ (cut a).getLast? = some p := by
  rw [List.getLast?_eq_some_iff]
  constructor
  · rintro ⟨front, htiles⟩
    exact ⟨front, (eq_cut_of_tiles htiles).symm⟩
  · rintro ⟨front, hcut⟩
    exact ⟨front, hcut ▸ tiles_cut a⟩

/-- Two cuts put together are the cut of the texts put together unless a piece goes on at the seam. -/
theorem cut_append_iff (a b : Text) :
    cut (a ++ b) = cut a ++ cut b ↔ ∀ p, EndsIn a p → ¬p.GoesOn b := by
  rw [eq_comm, ← tiles_iff_eq_cut, (tiles_cut a).append_iff (tiles_cut b)]
  refine forall_congr' fun p => ?_
  rw [← endsIn_iff]
  refine forall_congr' fun hends => ?_
  obtain ⟨front, htiles⟩ := hends
  constructor
  · exact Fits.not_goesOn
  · exact htiles.fits_last.of_not_goesOn

end Piece

/-! ### What is further down -/

def lineBelow (n : Nat) (line : UInt32) : UInt32 :=
  .ofNat (line.toNat + n)

def Token.below (n : Nat) (t : Token) : Token :=
  { t with line := lineBelow n t.line }

def Diagnostic.below (n : Nat) (d : Diagnostic) : Diagnostic :=
  { d with line := lineBelow n d.line }

theorem lineBelow_ofNat (n line : Nat) : lineBelow n (.ofNat line) = .ofNat (line + n) := by
  apply UInt32.toNat_inj.mp
  simp only [lineBelow, UInt32.toNat_ofNat', Nat.mod_add_mod]

namespace Placed

def below (n : Nat) (p : Placed) : Placed :=
  { p with line := p.line + n }

theorem place_add (line n : Nat) (pieces : List Piece) :
    place (line + n) pieces = (place line pieces).map (below n) := by
  induction pieces generalizing line with
  | nil => rfl
  | cons piece pieces ih =>
      rw [place, place, List.map_cons, ← ih, Nat.add_right_comm]
      rfl

theorem token?_below (n : Nat) (p : Placed) :
    (p.below n).token? = p.token?.map (Token.below n) := by
  obtain ⟨piece, line⟩ := p
  cases piece with
  | mark m => simp [below, token?, Token.ofMark, Token.below, lineBelow_ofNat]
  | string value => simp [below, token?, Token.ofString, Token.below, lineBelow_ofNat]
  | comment _ => rfl
  | blank _ => rfl
  | unclosed _ => rfl
  | stray _ => rfl

theorem fault?_below (n : Nat) (p : Placed) :
    (p.below n).fault? = p.fault?.map fun found => (lineBelow n found.1, found.2) := by
  obtain ⟨piece, line⟩ := p
  cases piece with
  | stray c => simp [below, fault?, lineBelow_ofNat]
  | unclosed tail =>
      refine congrArg (fun found => some (found, Fault.unterminatedString)) ?_
      rw [lineBelow_ofNat]
      exact congrArg UInt32.ofNat (Nat.add_right_comm line n tail.newlines)
  | mark _ => rfl
  | comment _ => rfl
  | blank _ => rfl
  | string _ => rfl

end Placed

namespace Scan

variable {a b : Text}

theorem placed_append (hcut : Piece.cut (a ++ b) = Piece.cut a ++ Piece.cut b) :
    placed (a ++ b) = placed a ++ (placed b).map (Placed.below a.newlines) := by
  rw [placed, hcut, Placed.place_append, Piece.joined_cut, Placed.place_add]
  rfl

theorem lastLine_append (a b : Text) : lastLine (a ++ b) = lineBelow a.newlines (lastLine b) := by
  rw [lastLine, lastLine, lineBelow_ofNat, Text.newlines_append]
  congr 1
  omega

theorem tokens_append (hcut : Piece.cut (a ++ b) = Piece.cut a ++ Piece.cut b) :
    tokens (a ++ b) =
      (placed a).filterMap Placed.token? ++ (tokens b).map (Token.below a.newlines) := by
  have hbelow : Placed.token? ∘ Placed.below a.newlines =
      fun p => p.token?.map (Token.below a.newlines) := funext (Placed.token?_below _)
  rw [tokens, tokens, placed_append hcut, List.filterMap_append, List.filterMap_map, hbelow,
    ← List.map_filterMap, List.map_append, List.append_assoc, lastLine_append]
  rfl

theorem diagnostics_append (hcut : Piece.cut (a ++ b) = Piece.cut a ++ Piece.cut b) :
    diagnostics (a ++ b) = diagnostics a ++ (diagnostics b).map (Diagnostic.below a.newlines) := by
  have hbelow : Placed.fault? ∘ Placed.below a.newlines =
      fun p => p.fault?.map fun found => (lineBelow a.newlines found.1, found.2) :=
    funext (Placed.fault?_below _)
  rw [diagnostics, faults, placed_append hcut, List.filterMap_append, List.filterMap_map, hbelow,
    ← List.map_filterMap, List.map_append, List.map_map]
  rw [diagnostics, diagnostics, List.map_map]
  rfl

/-! ### No number is lost -/

theorem toNat_line_le_of_mem_tokens {source : Text} {t : Token}
    (hbound : 1 + source.newlines < UInt32.size) (hmem : t ∈ tokens source) :
    t.line.toNat ≤ 1 + source.newlines := by
  rcases List.mem_append.mp hmem with hmem | hmem
  · obtain ⟨p, hp, htoken⟩ := List.mem_filterMap.mp hmem
    have hsaid : .log (.token t) ∈ p.emissions := by
      rw [Placed.emissions, htoken]
      exact List.mem_singleton_self _
    have hemission : .log (.token t) ∈ emissions source :=
      List.mem_append_left _ (List.mem_flatMap.mpr ⟨p, hp, hsaid⟩)
    exact toNat_line_le_of_mem_emissions hbound hemission
  · obtain rfl := List.mem_singleton.mp hmem
    exact Nat.mod_le _ _

theorem toNat_line_le_of_mem_diagnostics {source : Text} {d : Diagnostic}
    (hbound : 1 + source.newlines < UInt32.size) (hmem : d ∈ diagnostics source) :
    d.line.toNat ≤ 1 + source.newlines := by
  rw [← filterMap_diagnostic?_emissions] at hmem
  obtain ⟨e, hemission, he⟩ := List.mem_filterMap.mp hmem
  cases e with
  | log _ => cases he
  | report _ =>
      cases he
      exact toNat_line_le_of_mem_emissions hbound hemission

theorem exists_unterminated_of_endsIn {source tail : Text}
    (hends : Piece.EndsIn source (.unclosed tail)) :
    ∃ d ∈ diagnostics source, d.message = "Unterminated string.".toList := by
  have hmem := List.mem_of_getLast? (Piece.endsIn_iff.mp hends)
  have hmessage : "Unterminated string.".toList ∈ (diagnostics source).map Diagnostic.message := by
    rw [map_message_diagnostics]
    exact List.mem_filterMap.mpr ⟨_, hmem, rfl⟩
  obtain ⟨d, hd, hmessage⟩ := List.mem_map.mp hmessage
  exact ⟨d, hd, hmessage⟩

/-- The conditions name what the last piece of the first text could go on into, sort by sort. -/
theorem cut_append_of_apart
    (hclosed : ∀ d ∈ diagnostics a, d.message ≠ "Unterminated string.".toList)
    (hcomment : ∀ body, Piece.EndsIn a (.comment body) → b = [] ∨ b.head? = some '\n')
    (hoperator : ∀ m ∈ [Mark.bang, .equal, .less, .greater],
      Piece.EndsIn a (.mark m) → b.head? ≠ some '=')
    (hslash : Piece.EndsIn a (.mark .slash) → b.head? ≠ some '/') :
    Piece.cut (a ++ b) = Piece.cut a ++ Piece.cut b := by
  rw [Piece.cut_append_iff]
  intro p hends hgoes
  cases p with
  | comment body =>
      rcases hcomment body hends with rfl | hfeed
      · exact hgoes.1 rfl
      · exact hgoes.2 hfeed
  | mark m =>
      rcases hgoes with ⟨hm, hequals⟩ | ⟨rfl, hmark⟩
      · exact hoperator m hm hends hequals
      · exact hslash hends hmark
  | unclosed tail =>
      obtain ⟨d, hd, hmessage⟩ := exists_unterminated_of_endsIn hends
      exact hclosed d hd hmessage
  | blank _ => exact hgoes
  | string _ => exact hgoes
  | stray _ => exact hgoes

end Scan

namespace InPlace

/-- The machine takes two texts as it takes each of them, unless a piece of the first goes on into
the second: its tokens and reports for the second come behind those for the first, and every line is
further down by the line feeds of the first. -/
theorem scan_append (a b : String) (hnewlines : Text.newlines (a ++ b).toList ≤ UInt32.size - 2)
    (hclosed : ∀ result, scan a = .ok result →
      ∀ d ∈ result.diagnostics, d.message ≠ "Unterminated string.".toList)
    (hcomment : ∀ body, Piece.EndsIn a.toList (.comment body) →
      b = "" ∨ b.toList.head? = some '\n')
    (hoperator : ∀ m ∈ [Mark.bang, .equal, .less, .greater],
      Piece.EndsIn a.toList (.mark m) → b.toList.head? ≠ some '=')
    (hslash : Piece.EndsIn a.toList (.mark .slash) → b.toList.head? ≠ some '/') :
    ∃ resultA resultB result front last,
      scan a = .ok resultA ∧ scan b = .ok resultB ∧ scan (a ++ b) = .ok result ∧
      resultA.tokens = front ++ [.eof last] ∧
      result.tokens =
        front ++ resultB.tokens.map (Token.below (Text.newlines a.toList)) ∧
      result.diagnostics =
        resultA.diagnostics ++
          resultB.diagnostics.map (Diagnostic.below (Text.newlines a.toList)) ∧
      (∀ t ∈ resultB.tokens, t.line.toNat + Text.newlines a.toList < UInt32.size) ∧
      (∀ d ∈ resultB.diagnostics, d.line.toNat + Text.newlines a.toList < UInt32.size) := by
  have hsize : UInt32.size = 4294967296 := rfl
  have hab : (a ++ b).toList = a.toList ++ b.toList := String.toList_append
  have hsum : Text.newlines (a ++ b).toList = Text.newlines a.toList + Text.newlines b.toList := by
    rw [hab, Text.newlines_append]
  have hscanA : scan a = .ok ⟨Scan.tokens a.toList, Scan.emissions a.toList⟩ := by
    rw [scan_eq, if_pos (by omega)]
  have hscanB : scan b = .ok ⟨Scan.tokens b.toList, Scan.emissions b.toList⟩ := by
    rw [scan_eq, if_pos (by omega)]
  have hscan : scan (a ++ b) = .ok ⟨Scan.tokens (a ++ b).toList, Scan.emissions (a ++ b).toList⟩ := by
    rw [scan_eq, if_pos (by omega)]
  have hcut : Piece.cut (a.toList ++ b.toList) = Piece.cut a.toList ++ Piece.cut b.toList := by
    refine Scan.cut_append_of_apart ?_ ?_ hoperator hslash
    · intro d hmem
      rw [← Scan.filterMap_diagnostic?_emissions] at hmem
      exact hclosed _ hscanA d hmem
    · intro body hends
      rcases hcomment body hends with rfl | hfeed
      · exact Or.inl rfl
      · exact Or.inr hfeed
  refine ⟨_, _, _, (Scan.placed a.toList).filterMap Placed.token?, Scan.lastLine a.toList,
    hscanA, hscanB, hscan, rfl, ?_, ?_, ?_, ?_⟩
  · dsimp only
    rw [hab, Scan.tokens_append hcut]
  · simp only [Result.diagnostics, Scan.filterMap_diagnostic?_emissions]
    rw [hab, Scan.diagnostics_append hcut]
  · intro t hmem
    have hle := Scan.toNat_line_le_of_mem_tokens (by omega) hmem
    omega
  · intro d hmem
    rw [Result.diagnostics, Scan.filterMap_diagnostic?_emissions] at hmem
    have hle := Scan.toNat_line_le_of_mem_diagnostics (by omega) hmem
    omega

theorem scan_append_slash_equal :
    ∃ resultA resultB result front last,
      scan "(\n@ /" = .ok resultA ∧ scan "=\n\"x" = .ok resultB ∧
      scan ("(\n@ /" ++ "=\n\"x") = .ok result ∧
      resultA.tokens = front ++ [.eof last] ∧
      result.tokens =
        front ++ resultB.tokens.map (Token.below (Text.newlines "(\n@ /".toList)) ∧
      result.diagnostics =
        resultA.diagnostics ++
          resultB.diagnostics.map (Diagnostic.below (Text.newlines "(\n@ /".toList)) ∧
      (∀ t ∈ resultB.tokens, t.line.toNat + Text.newlines "(\n@ /".toList < UInt32.size) ∧
      (∀ d ∈ resultB.diagnostics, d.line.toNat + Text.newlines "(\n@ /".toList < UInt32.size) := by
  have hlast : (Piece.cut "(\n@ /".toList).getLast? = some (.mark .slash) := by decide +kernel
  have hdiagnostics : ∀ d ∈ Scan.diagnostics "(\n@ /".toList,
      d.message ≠ "Unterminated string.".toList := by decide +kernel
  apply scan_append
  · decide +kernel
  · intro result hscan d hmem
    rw [scan_eq, if_pos (by decide +kernel)] at hscan
    cases hscan
    rw [Result.diagnostics, Scan.filterMap_diagnostic?_emissions] at hmem
    exact hdiagnostics d hmem
  · intro body hends
    rw [Piece.endsIn_iff, hlast] at hends
    cases hends
  · intro m hm hends
    rw [Piece.endsIn_iff, hlast] at hends
    cases hends
    exact absurd hm (by decide)
  · intro _
    decide

end InPlace

end LoxTokens
