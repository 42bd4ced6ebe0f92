import LoxTokens.Proofs.InPlace.Run
import LoxTokens.Proofs.Seam

/-!
# Comments edited

A comment is neither listed nor reported, and it has nothing but a line feed or the end behind it. So
it can be left out, or say something else, and what stands in front of it does not go on into what
stands behind it. Any number of comments can be edited at once, each for itself: the scan says what it
has said before, and of the same lines, since no line feed belongs to a comment.
-/

namespace LoxTokens

namespace Piece

variable {p : Piece} {pieces edited : List Piece} {source body : Text}

/-- Some comments are left out and others are given another body; what is not a comment stays. -/
inductive CommentsEdited : List Piece → List Piece → Prop where
  | nil : CommentsEdited [] []
  | stays {p : Piece} {pieces edited : List Piece} (hp : ∀ body, p ≠ .comment body)
      (hrest : CommentsEdited pieces edited) : CommentsEdited (p :: pieces) (p :: edited)
  | leftOut {body : Text} {pieces edited : List Piece} (hrest : CommentsEdited pieces edited) :
      CommentsEdited (.comment body :: pieces) edited
  | rewritten {body other : Text} {pieces edited : List Piece} (hother : '\n' ∉ other)
      (hrest : CommentsEdited pieces edited) :
      CommentsEdited (.comment body :: pieces) (.comment other :: edited)

/-! ### The pieces of an edited source -/

theorem Tiles.exists_of_comment (htiles : Tiles (.comment body :: pieces) source) :
    ∃ after, source = (comment body).text ++ after ∧ '\n' ∉ body ∧
      (after = [] ∨ after.head? = some '\n') ∧ Tiles pieces after := by
  cases htiles with
  | @cons _ _ after hfits hrest =>
      cases hfits with
      | comment hbody hafter => exact ⟨after, rfl, hbody, hafter, hrest⟩

/-- An edited text begins as before, or it has begun with a comment and now begins with what stood
behind it. -/
theorem head?_joined_edited (htiles : Tiles pieces source) (hedited : CommentsEdited pieces edited) :
    (joined edited).head? = source.head? ∨
      source.head? = some '/' ∧
        ((joined edited).head? = none ∨ (joined edited).head? = some '\n') := by
  induction hedited generalizing source with
  | nil =>
      cases htiles
      exact Or.inl rfl
  | @stays p pieces edited _ _ _ =>
      left
      cases htiles
      rw [joined_cons, List.head?_append_of_ne_nil _ p.text_ne_nil,
        List.head?_append_of_ne_nil _ p.text_ne_nil]
  | leftOut _ ih =>
      right
      obtain ⟨after, rfl, -, hafter, hrest⟩ := htiles.exists_of_comment
      refine ⟨rfl, ?_⟩
      rcases ih hrest with hhead | ⟨hslash, -⟩
      · rw [hhead, List.head?_eq_none_iff]
        exact hafter
      · rcases hafter with rfl | hfeed
        · cases hslash
        · rw [hfeed] at hslash
          exact absurd hslash (by decide)
  | rewritten _ _ _ =>
      cases htiles
      exact Or.inl rfl

theorem fits_joined_edited (hfits : p.Fits source) (htiles : Tiles pieces source)
    (hedited : CommentsEdited pieces edited) : p.Fits (joined edited) := by
  apply hfits.nil.of_not_goesOn
  intro hgoes
  rcases head?_joined_edited htiles hedited with hhead | ⟨hslash, hend⟩
  · exact hfits.not_goesOn ((goesOn_congr_head? hhead).mp hgoes)
  · -- What has come up from behind a comment is nothing that a mark or a comment goes on into.
    cases p with
    | mark m =>
        rcases hend with hend | hend <;> simp [GoesOn, hend] at hgoes
    | comment body =>
        rcases hend with hend | hend
        · exact hgoes.1 (List.head?_eq_none_iff.mp hend)
        · exact hgoes.2 hend
    | unclosed tail =>
        cases hfits
        cases hslash
    | blank _ => exact hgoes
    | string _ => exact hgoes
    | stray _ => exact hgoes

theorem tiles_edited (htiles : Tiles pieces source) (hedited : CommentsEdited pieces edited) :
    Tiles edited (joined edited) := by
  induction hedited generalizing source with
  | nil => exact .nil
  | stays _ hrest ih =>
      cases htiles with
      | cons hfits htiles => exact .cons (fits_joined_edited hfits htiles hrest) (ih htiles)
  | leftOut _ ih =>
      obtain ⟨after, -, -, -, hrest⟩ := htiles.exists_of_comment
      exact ih hrest
  | rewritten hother hrest ih =>
      cases htiles with
      | cons hfits htiles =>
          cases fits_joined_edited hfits htiles hrest with
          | comment _ hafter => exact .cons (.comment hother hafter) (ih htiles)

/-! ### Lines -/

theorem newlines_text_comment (hbody : '\n' ∉ body) : (comment body).text.newlines = 0 :=
  List.count_eq_zero_of_not_mem (by simp [text, hbody])

theorem newlines_joined_edited (htiles : Tiles pieces source)
    (hedited : CommentsEdited pieces edited) : (joined edited).newlines = source.newlines := by
  induction hedited generalizing source with
  | nil =>
      cases htiles
      rfl
  | stays _ _ ih =>
      cases htiles with
      | cons _ htiles => simp [ih htiles]
  | leftOut _ ih =>
      obtain ⟨after, rfl, hbody, -, hrest⟩ := htiles.exists_of_comment
      simp [newlines_text_comment hbody, ih hrest]
  | rewritten hother _ ih =>
      obtain ⟨after, rfl, hbody, -, hrest⟩ := htiles.exists_of_comment
      simp [newlines_text_comment hbody, newlines_text_comment hother, ih hrest]

end Piece

namespace Scan

variable {pieces edited : List Piece} {source : Text}

theorem flatMap_place_edited {α : Type} {f : Placed → List α}
    (hcomment : ∀ body line, f ⟨.comment body, line⟩ = []) (htiles : Piece.Tiles pieces source)
    (hedited : Piece.CommentsEdited pieces edited) (line : Nat) :
    (Placed.place line edited).flatMap f = (Placed.place line pieces).flatMap f := by
  induction hedited generalizing source line with
  | nil => rfl
  | stays _ _ ih =>
      cases htiles with
      | cons _ htiles => simp [Placed.place, ih htiles]
  | leftOut _ ih =>
      obtain ⟨after, -, hbody, -, hrest⟩ := htiles.exists_of_comment
      simp [Placed.place, hcomment, Piece.newlines_text_comment hbody, ih hrest]
  | rewritten hother _ ih =>
      obtain ⟨after, -, hbody, -, hrest⟩ := htiles.exists_of_comment
      simp [Placed.place, hcomment, Piece.newlines_text_comment hbody,
        Piece.newlines_text_comment hother, ih hrest]

theorem flatMap_placed_edited {α : Type} {f : Placed → List α}
    (hcomment : ∀ body line, f ⟨.comment body, line⟩ = []) (htiles : Piece.Tiles pieces source)
    (hedited : Piece.CommentsEdited pieces edited) :
    (placed (Piece.joined edited)).flatMap f = (placed source).flatMap f := by
  rw [placed, placed, ← Piece.eq_cut_of_tiles (Piece.tiles_edited htiles hedited),
    ← Piece.eq_cut_of_tiles htiles]
  exact flatMap_place_edited hcomment htiles hedited 1

theorem lastLine_edited (htiles : Piece.Tiles pieces source)
    (hedited : Piece.CommentsEdited pieces edited) :
    lastLine (Piece.joined edited) = lastLine source := by
  rw [lastLine, lastLine, Piece.newlines_joined_edited htiles hedited]

theorem tokens_edited (htiles : Piece.Tiles pieces source)
    (hedited : Piece.CommentsEdited pieces edited) :
    tokens (Piece.joined edited) = tokens source := by
  have hfound := flatMap_placed_edited (f := fun p => p.token?.toList) (fun _ _ => rfl) htiles hedited
  rw [tokens, tokens, List.filterMap_eq_flatMap_toList, List.filterMap_eq_flatMap_toList, hfound,
    lastLine_edited htiles hedited]

theorem emissions_edited (htiles : Piece.Tiles pieces source)
    (hedited : Piece.CommentsEdited pieces edited) :
    emissions (Piece.joined edited) = emissions source := by
  have hfaults : faults (Piece.joined edited) = faults source := by
    rw [faults, faults, List.filterMap_eq_flatMap_toList, List.filterMap_eq_flatMap_toList]
    exact flatMap_placed_edited (fun _ _ => rfl) htiles hedited
  rw [emissions, emissions, flatMap_placed_edited (fun _ _ => rfl) htiles hedited,
    tokens_edited htiles hedited, hfaults, lastLine_edited htiles hedited]

end Scan

/-- The comments of a source can be left out or be given other bodies: the machine comes to the same
result, with the same tokens, reports and lines, and takes for a comment just what is left of them. -/
theorem scan_ignores_comments {source : String} {pieces edited : List Piece}
    (htiles : Piece.Tiles pieces source.toList) (hedited : Piece.CommentsEdited pieces edited) :
    Piece.Tiles edited (Piece.joined edited) ∧
      ∃ result, InPlace.Yields source result ∧
        InPlace.Yields (String.ofList (Piece.joined edited)) result := by
  refine ⟨Piece.tiles_edited htiles hedited, _, InPlace.yields_scan source, ?_⟩
  have hyields := InPlace.yields_scan (String.ofList (Piece.joined edited))
  rwa [String.toList_ofList, Scan.tokens_edited htiles hedited,
    Scan.emissions_edited htiles hedited] at hyields

/-- The first comment is left out and the second one rewritten. The slashes in the string are no
comment, and the exclamation mark does not get hold of the equals sign. -/
theorem scan_ignores_comments_around_string :
    ∃ result, InPlace.Yields "/ //x\"\n\"//\" !// =" result ∧
      InPlace.Yields "/ \n\"//\" !//=\"" result := by
  have htiles : Piece.Tiles
      [.mark .slash, .blank ' ', .comment "x\"".toList, .blank '\n', .string "//".toList, .blank ' ',
        .mark .bang, .comment " =".toList] "/ //x\"\n\"//\" !// =".toList :=
    Piece.tiles_iff_eq_cut.mpr (by decide +kernel)
  have hedited : Piece.CommentsEdited
      [.mark .slash, .blank ' ', .comment "x\"".toList, .blank '\n', .string "//".toList, .blank ' ',
        .mark .bang, .comment " =".toList]
      [.mark .slash, .blank ' ', .blank '\n', .string "//".toList, .blank ' ', .mark .bang,
        .comment "=\"".toList] :=
    .stays nofun (.stays nofun (.leftOut (.stays nofun (.stays nofun (.stays nofun (.stays nofun
      (.rewritten (by decide) .nil)))))))
  exact (scan_ignores_comments htiles hedited).2

end LoxTokens
