import LoxTokens.Proofs.Automaton
import LoxTokens.Proofs.Seam

/-!
# What is settled of a text

However a text goes on, its pieces stay what they are, all but the last: every other piece has seen
the character behind it, and none looks further. The last piece is read anew together with what
comes behind it. Only five marks become something else then, a comment loses nothing by growing, and
an unclosed string takes its report back. So what a scan finds in a text is found again, in the same
place and first of all, in every text that begins with it.
-/

namespace LoxTokens

namespace Piece

variable {front : List Piece} {p q : Piece} {a b rest : Text}

theorem Tiles.append_settled (htiles : Tiles (front ++ [p]) a) (b : Text) :
    Tiles (front ++ cut (p.text ++ b)) (a ++ b) := by
  induction front generalizing a with
  | nil =>
      obtain ⟨rfl, -, -⟩ := tiles_cons_iff.mp htiles
      rw [joined_nil, List.append_nil]
      exact tiles_cut _
  | cons q front ih =>
      obtain ⟨rfl, hfits, hrest⟩ := tiles_cons_iff.mp htiles
      have hne : joined (front ++ [p]) ≠ [] := by
        rw [joined_append, joined_cons]
        simp [p.text_ne_nil]
      rw [List.append_assoc]
      exact .cons (hfits.append hne b) (ih hrest)

/-- All pieces but the last are those of every longer text. -/
theorem cut_append_of_cut_eq (hcut : cut a = front ++ [p]) (b : Text) :
    cut (a ++ b) = front ++ cut (p.text ++ b) := by
  have htiles : Tiles (front ++ [p]) a := hcut ▸ tiles_cut a
  exact (eq_cut_of_tiles (htiles.append_settled b)).symm

/-- The piece that `a` ends in is another one in `s`, where it begins in the same place. -/
def Becomes (p q : Piece) (a s : Text) : Prop :=
  ∃ front rest, Tiles (front ++ [p]) a ∧ Tiles (front ++ q :: rest) s

theorem becomes_of_cut_eq {others : List Piece} (hcut : cut a = front ++ [p])
    (hnext : cut (p.text ++ b) = q :: others) : p.Becomes q a (a ++ b) := by
  refine ⟨front, others, hcut ▸ tiles_cut a, ?_⟩
  rw [← hnext, ← cut_append_of_cut_eq hcut]
  exact tiles_cut _

theorem cut_slash_slash (rest : Text) :
    ∃ body others, cut ((mark .slash).text ++ '/' :: rest) = .comment body :: others := by
  have hfits : Fits (.comment (rest.takeWhile (· != '\n'))) (rest.dropWhile (· != '\n')) :=
    .comment (not_mem_takeWhile '\n' rest) (head?_dropWhile_ne '\n' rest)
  have hcut := cut_text_append hfits
  rw [text, List.cons_append, List.cons_append, List.takeWhile_append_dropWhile] at hcut
  exact ⟨_, _, hcut⟩

theorem exists_withEqual? {m : Mark} (hm : m ∈ [.bang, .equal, .less, .greater]) :
    ∃ longer, m.withEqual? = some longer := by
  simp only [List.mem_cons, List.not_mem_nil, or_false] at hm
  rcases hm with rfl | rfl | rfl | rfl <;> exact ⟨_, rfl⟩

theorem cut_withEqual? {m longer : Mark} (hlonger : m.withEqual? = some longer) (rest : Text) :
    cut ((mark m).text ++ '=' :: rest) = .mark longer :: cut rest := by
  have hfits : Fits (.mark longer) rest := fits_longer hlonger
  have hcut := cut_text_append hfits
  rwa [text, Mark.spelling_of_withEqual? hlonger, List.append_assoc] at hcut

theorem cut_append_of_not_goesOn (hcut : cut a = front ++ [p]) (hgoes : ¬p.GoesOn b) :
    cut (a ++ b) = cut a ++ cut b := by
  rw [cut_append_iff]
  intro q hends
  rw [endsIn_iff, hcut, List.getLast?_concat] at hends
  cases hends
  exact hgoes

end Piece

/-! ### What is found in the pieces that a text begins with -/

namespace Scan

variable {a b s : Text} {front others : List Piece} {p : Piece}

def tokensOf (front : List Piece) : List Token :=
  (Placed.place 1 front).filterMap Placed.token?

def diagnosticsOf (front : List Piece) : List Diagnostic :=
  ((Placed.place 1 front).filterMap Placed.fault?).map fun found => .ofFault found.1 found.2

theorem tokensOf_append (front others : List Piece) :
    tokensOf (front ++ others) =
      tokensOf front ++
        (Placed.place (1 + (Piece.joined front).newlines) others).filterMap Placed.token? := by
  rw [tokensOf, Placed.place_append, List.filterMap_append]
  rfl

theorem diagnosticsOf_append (front others : List Piece) :
    diagnosticsOf (front ++ others) =
      diagnosticsOf front ++
        ((Placed.place (1 + (Piece.joined front).newlines) others).filterMap Placed.fault?).map
          fun found => .ofFault found.1 found.2 := by
  rw [diagnosticsOf, Placed.place_append, List.filterMap_append, List.map_append]
  rfl

theorem tokensOf_isPrefix (hcut : Piece.cut s = front ++ others) : tokensOf front <+: tokens s := by
  have htokens : tokens s = tokensOf (Piece.cut s) ++ [.eof (lastLine s)] := rfl
  rw [htokens, hcut, tokensOf_append, List.append_assoc]
  exact List.prefix_append _ _

theorem diagnosticsOf_isPrefix (hcut : Piece.cut s = front ++ others) :
    diagnosticsOf front <+: diagnostics s := by
  have hdiagnostics : diagnostics s = diagnosticsOf (Piece.cut s) := rfl
  rw [hdiagnostics, hcut, diagnosticsOf_append]
  exact List.prefix_append _ _

/-- How the tokens `ts` of a text `a` come back among the tokens `later` of `a ++ b`. -/
inductive ComeBack (a b : Text) (ts later : List Token) : Prop where
  | all (hall : ts <+: later)
  /-- The last token has grown into a mark of two characters. -/
  | grown {us : List Token} {m longer : Mark} {line : UInt32}
      (hlonger : m.withEqual? = some longer) (hlast : ts = us ++ [.ofMark m line])
      (hb : b.head? = some '=') (hbecomes : (Piece.mark m).Becomes (.mark longer) a (a ++ b))
      (hlater : us ++ [.ofMark longer line] <+: later)
  /-- The last token has become the beginning of a comment. -/
  | commented {us : List Token} {body : Text} {line : UInt32}
      (hlast : ts = us ++ [.ofMark .slash line]) (hb : b.head? = some '/')
      (hbecomes : (Piece.mark .slash).Becomes (.comment body) a (a ++ b)) (hlater : us <+: later)

theorem comeBack_of_goesOn (hcut : Piece.cut a = front ++ [p]) (hgoes : p.GoesOn b) :
    ComeBack a b (tokensOf (Piece.cut a)) (tokens (a ++ b)) := by
  have hsettled := Piece.cut_append_of_cut_eq hcut b
  have hts := tokensOf_append front [p]
  rw [← hcut] at hts
  cases p with
  | mark m =>
      rcases hgoes with ⟨hm, hequals⟩ | ⟨rfl, hslash⟩
      · obtain ⟨longer, hlonger⟩ := Piece.exists_withEqual? hm
        obtain ⟨rest, rfl⟩ := List.head?_eq_some_iff.mp hequals
        have hnext := Piece.cut_withEqual? hlonger rest
        refine .grown hlonger hts rfl (Piece.becomes_of_cut_eq hcut hnext) ?_
        have hgrown : Piece.cut (a ++ '=' :: rest) =
            (front ++ [.mark longer]) ++ Piece.cut rest := by
          rw [hsettled, hnext, List.append_assoc, List.singleton_append]
        have hlater := tokensOf_isPrefix hgrown
        rwa [tokensOf_append] at hlater
      · obtain ⟨rest, rfl⟩ := List.head?_eq_some_iff.mp hslash
        obtain ⟨body, others, hnext⟩ := Piece.cut_slash_slash rest
        exact .commented hts rfl (Piece.becomes_of_cut_eq hcut hnext) (tokensOf_isPrefix hsettled)
  | comment body =>
      apply ComeBack.all
      rw [hts]
      exact (List.append_nil _).symm ▸ tokensOf_isPrefix hsettled
  | unclosed tail =>
      apply ComeBack.all
      rw [hts]
      exact (List.append_nil _).symm ▸ tokensOf_isPrefix hsettled
  | blank _ => cases hgoes
  | string _ => cases hgoes
  | stray _ => cases hgoes

theorem comeBack (a b : Text) : ComeBack a b (tokensOf (Piece.cut a)) (tokens (a ++ b)) := by
  rcases List.eq_nil_or_concat (Piece.cut a) with hnil | ⟨front, p, hcut⟩
  · rw [hnil]
    exact .all List.nil_prefix
  · rw [List.concat_eq_append] at hcut
    by_cases hgoes : p.GoesOn b
    · exact comeBack_of_goesOn hcut hgoes
    · exact .all (tokensOf_isPrefix (Piece.cut_append_of_not_goesOn hcut hgoes))

/-! ### Reports -/

theorem diagnosticsOf_append_of_goesOn (hgoes : p.GoesOn b) (hclosed : ∀ tail, p ≠ .unclosed tail) :
    diagnosticsOf (front ++ [p]) = diagnosticsOf front := by
  rw [diagnosticsOf_append]
  cases p with
  | unclosed tail => exact absurd rfl (hclosed tail)
  | mark _ => exact List.append_nil _
  | comment _ => exact List.append_nil _
  | blank _ => cases hgoes
  | string _ => cases hgoes
  | stray _ => cases hgoes

theorem diagnostics_prefix_of_closed (hclosed : ∀ tail, .unclosed tail ∉ Piece.cut a) (b : Text) :
    diagnostics a <+: diagnostics (a ++ b) := by
  have hdiagnostics : diagnostics a = diagnosticsOf (Piece.cut a) := rfl
  rw [hdiagnostics]
  rcases List.eq_nil_or_concat (Piece.cut a) with hnil | ⟨front, p, hcut⟩
  · rw [hnil]
    exact List.nil_prefix
  · rw [List.concat_eq_append] at hcut
    by_cases hgoes : p.GoesOn b
    · have hp : ∀ tail, p ≠ .unclosed tail := by
        rintro tail rfl
        apply hclosed tail
        rw [hcut]
        exact List.mem_append_right front List.mem_cons_self
      rw [hcut, diagnosticsOf_append_of_goesOn hgoes hp]
      exact diagnosticsOf_isPrefix (Piece.cut_append_of_cut_eq hcut b)
    · exact diagnosticsOf_isPrefix (Piece.cut_append_of_not_goesOn hcut hgoes)

/-- Only the report about a string that the first text leaves open is not made again. -/
theorem exists_kept_diagnostics (a b : Text) :
    ∃ kept, kept <+: diagnostics (a ++ b) ∧
      (diagnostics a = kept ∧ (∀ d ∈ kept, d.message ≠ "Unterminated string.".toList) ∨
        ∃ d : Diagnostic, d.message = "Unterminated string.".toList ∧
          diagnostics a = kept ++ [d]) := by
  by_cases hopen : ∃ tail, .unclosed tail ∈ Piece.cut a
  · obtain ⟨tail, hmem⟩ := hopen
    obtain ⟨front, hcut⟩ :=
      List.getLast?_eq_some_iff.mp (Watcher.getLast?_cut_eq_unclosed_iff.mpr hmem)
    have hlast := diagnosticsOf_append front [.unclosed tail]
    rw [← hcut] at hlast
    refine ⟨diagnosticsOf front, diagnosticsOf_isPrefix (Piece.cut_append_of_cut_eq hcut b),
      Or.inr ?_⟩
    exact ⟨.ofFault _ .unterminatedString, rfl, hlast⟩
  · refine ⟨diagnostics a, diagnostics_prefix_of_closed (not_exists.mp hopen) b, Or.inl ⟨rfl, ?_⟩⟩
    intro d hd hmessage
    apply hopen
    rw [← unterminated_mem_iff, ← hmessage]
    exact List.mem_map_of_mem hd

end Scan

namespace InPlace

/-- What the machine makes of a text is what it makes first of every longer text, except for the
last token, which an equals sign or a slash behind the text can take with it, and for the report
about a string that the text leaves open. -/
theorem scan_append_settles (a b : String)
    (hnewlines : Text.newlines (a ++ b).toList ≤ UInt32.size - 2) :
    ∃ resultA result front last,
      scan a = .ok resultA ∧ scan (a ++ b) = .ok result ∧ resultA.tokens = front ++ [.eof last] ∧
      Scan.ComeBack a.toList b.toList front result.tokens ∧
      ∃ kept, kept <+: result.diagnostics ∧
        (resultA.diagnostics = kept ∧ (∀ d ∈ kept, d.message ≠ "Unterminated string.".toList) ∨
          ∃ d : Diagnostic, d.message = "Unterminated string.".toList ∧
            resultA.diagnostics = kept ++ [d]) := by
  have hsize : UInt32.size = 4294967296 := rfl
  have hab : (a ++ b).toList = a.toList ++ b.toList := String.toList_append
  have hsum : Text.newlines (a ++ b).toList = Text.newlines a.toList + Text.newlines b.toList := by
    rw [hab, Text.newlines_append]
  refine ⟨⟨Scan.tokens a.toList, Scan.emissions a.toList⟩,
    ⟨Scan.tokens (a ++ b).toList, Scan.emissions (a ++ b).toList⟩,
    Scan.tokensOf (Piece.cut a.toList), Scan.lastLine a.toList, ?_, ?_, rfl, ?_, ?_⟩
  · rw [scan_eq, if_pos (by omega)]
  · rw [scan_eq, if_pos (by omega)]
  · rw [hab]
    exact Scan.comeBack a.toList b.toList
  · simp only [Result.diagnostics, Scan.filterMap_diagnostic?_emissions]
    rw [hab]
    exact Scan.exists_kept_diagnostics a.toList b.toList

/-- The mark grows across the seam, and the report in front of it is made again. -/
theorem scan_append_settles_at_less :
    Text.newlines ("@\n<" ++ "=\"").toList ≤ UInt32.size - 2 ∧
    ∃ resultA result front last,
      scan "@\n<" = .ok resultA ∧ scan ("@\n<" ++ "=\"") = .ok result ∧
      resultA.tokens = front ++ [.eof last] ∧
      Scan.ComeBack "@\n<".toList "=\"".toList front result.tokens ∧ ¬front <+: result.tokens ∧
      ∃ kept, kept <+: result.diagnostics ∧
        (resultA.diagnostics = kept ∧ (∀ d ∈ kept, d.message ≠ "Unterminated string.".toList) ∨
          ∃ d : Diagnostic, d.message = "Unterminated string.".toList ∧
            resultA.diagnostics = kept ++ [d]) := by
  refine ⟨by decide +kernel, ?_⟩
  obtain ⟨resultA, result, front, last, hscanA, hscan, htokens, hback, hkept⟩ :=
    scan_append_settles "@\n<" "=\"" (by decide +kernel)
  refine ⟨resultA, result, front, last, hscanA, hscan, htokens, hback, ?_, hkept⟩
  rw [scan_eq, if_pos (by decide +kernel)] at hscanA hscan
  cases hscanA
  cases hscan
  have hfront : front = [.ofMark .less 2] := by
    have hdrop := congrArg List.dropLast htokens
    rw [List.dropLast_concat] at hdrop
    rw [← hdrop]
    decide +kernel
  rw [hfront]
  decide +kernel

end InPlace

end LoxTokens
