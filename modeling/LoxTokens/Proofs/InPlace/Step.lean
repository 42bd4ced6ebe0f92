import LoxTokens.Proofs.InPlace.Course

/-!
# A step keeps the course

One lemma for each place a step can be taken from: behind the first character of a mark, between
pieces, inside a comment, inside a string, at the end. Each of them finishes the piece or extends it;
the only other outcome is a line feed on the last line that has a number in 32 bits, and only where
the count is checked.
-/

namespace LoxTokens.InPlace

namespace State

/-- What may come of moving on from `s`. -/
def Leads (counting : Counting) (source : String) (s : State) : Except Breach State → Prop
  | .ok s' => s'.OnCourse counting source
  | .error breach => breach = .lineOverflow ∧ counting = .checked ∧
      s.line.toNat + 1 = UInt32.size ∧ s.line.toNat ≤ Text.newlines source.toList

section Steps

variable {counting : Counting} {source : String} {done : List Piece} {taken rest after : Text}
  {c : Char} {m : Mark} {s t : State}

theorem leads_countLine (hline : t.line = s.line)
    (hstands : s.Stands counting source done taken ('\n' :: after))
    (hcourse : (counting = .checked → s.line.toNat + 1 < UInt32.size) →
      ({ t with line := t.line + 1 } : State).OnCourse counting source) :
    Leads counting source s (t.countLine counting) := by
  unfold countLine
  rw [hline] at hcourse ⊢
  split
  · next hfits =>
      apply hcourse
      intro hcounting
      rcases hfits with hwrapping | hfits
      · rw [hcounting] at hwrapping
        cases hwrapping
      · exact hfits
  · next hfull =>
      have hlt := s.line.toNat_lt
      have hchecked : counting = .checked := by
        cases counting with
        | checked => rfl
        | wrapping => exact absurd (Or.inl rfl) hfull
      subst hchecked
      refine ⟨rfl, rfl, ?_, hstands.toNat_line_le⟩
      have hnot : ¬ s.line.toNat + 1 < UInt32.size := fun hfits => hfull (Or.inr hfits)
      simp only [UInt32.size] at hnot ⊢
      omega

theorem line_add_of_ne (line : UInt32) (hfeed : c ≠ '\n') :
    line = line + .ofNat (Text.newlines [c]) := by
  rw [Text.newlines_singleton, if_neg hfeed]
  exact (UInt32.add_zero line).symm

theorem toNat_line_add_lt_of_ne (line : UInt32) (hfeed : c ≠ '\n') :
    line.toNat + Text.newlines [c] < UInt32.size := by
  rw [Text.newlines_singleton, if_neg hfeed]
  exact line.toNat_lt

theorem leads_find_mark {k : Mark}
    (hstands : s.Stands counting source done [] (k.spelling ++ after))
    (hfits : (Piece.mark k).Fits after)
    (hsees : t.Sees source (Piece.joined done) k.spelling after) (hmode : t.mode = s.mode)
    (hstartLine : t.startLine = s.line) (hline : t.line = s.line) (hfound : t.found = s.found)
    (hsaid : t.said = s.said) (herrors : t.errors = s.errors) :
    Leads counting source s (t.find source (.mark k) none) := by
  have hnewlines : (Piece.mark k).text.newlines = 0 := by cases k <;> rfl
  have hcount : (Piece.joined done ++ (Piece.mark k).text).newlines =
      (Piece.joined done).newlines := by
    rw [Text.newlines_append, hnewlines, Nat.add_zero]
  rw [hsees.find_eq]
  refine ⟨done ++ [.mark k], [], after, hstands.finish_note (p := .mark k) rfl hfits hsees ?_ ?_ ?_
    hfound hsaid herrors ?_⟩
  · rw [hmode, hstands.mode_eq]
  · rw [hline, hcount, hstands.line_eq_of_between]
  · intro hcounting
    have hnumbered := hstands.numbered hcounting
    rwa [List.append_nil, ← hcount] at hnumbered
  · rw [hstartLine, hstands.line_eq_of_between]
    rfl

theorem leads_stepMark (hstands : s.Stands counting source done [] (c :: after))
    (hmark : Mark.ofChar? c = some m) :
    Leads counting source s ((s.beginPiece.skip c).stepMark source m) := by
  have hsees : (s.beginPiece.skip c).Sees source (Piece.joined done) [c] after :=
    hstands.sees_beginPiece.skip
  have hspelling := Mark.spelling_of_ofChar? hmark
  have hshort : s.Stands counting source done [] (m.spelling ++ after) := by
    rw [hspelling]
    exact hstands
  rw [← hspelling] at hsees
  unfold stepMark
  split
  · next hslash =>
      subst hslash
      have hc : c = '/' := by simpa [Mark.spelling] using hspelling.symm
      by_cases hafter : after.head? = some '/'
      · obtain ⟨body, rfl⟩ := List.head?_eq_some_iff.mp hafter
        rw [hsees.accept_of_head?]
        subst hc
        exact ⟨done, ['/', '/'], body, hstands.extend ['/', '/'] (.comment (by simp)) rfl
          hsees.start_eq hstands.line_eq_of_between (UInt32.add_zero _).symm
          (fun _ => s.line.toNat_lt) rfl rfl rfl⟩
      · rw [hsees.accept_of_head?_ne hafter]
        exact leads_find_mark hshort (.slash hafter) hsees rfl rfl rfl rfl rfl rfl
  · next hslash =>
      split
      · next hgrow =>
          exact leads_find_mark hshort (Piece.fits_mark_of_withEqual?_eq_none hmark hslash hgrow)
            hsees rfl rfl rfl rfl rfl rfl
      · next longer hgrow =>
          by_cases hafter : after.head? = some '='
          · obtain ⟨rest, rfl⟩ := List.head?_eq_some_iff.mp hafter
            have hlonger := Mark.spelling_of_withEqual? hgrow
            have hsees' := hsees.skip
            rw [← hlonger] at hsees'
            rw [hsees.accept_of_head?]
            have hlong : s.Stands counting source done [] (longer.spelling ++ rest) := by
              rw [hlonger, List.append_assoc]
              exact hshort
            exact leads_find_mark hlong (Piece.fits_longer hgrow) hsees' rfl rfl rfl rfl rfl
              rfl
          · rw [hsees.accept_of_head?_ne hafter]
            exact leads_find_mark hshort (Piece.fits_mark_of_head?_ne hgrow hafter) hsees rfl rfl
              rfl rfl rfl rfl

/-- A piece of one character is finished as soon as it is taken. -/
theorem onCourse_of_text_eq {p : Piece} (hstands : s.Stands counting source done [] (c :: after))
    (htext : p.text = [c]) (hfits : p.Fits after) (hmode : t.mode = s.mode)
    (hstart : t.start = s.current) (hcurrent : t.current = s.current + c.utf8Size)
    (hline : t.line = s.line + .ofNat (Text.newlines [c]))
    (hnumbered : counting = .checked → s.line.toNat + Text.newlines [c] < UInt32.size)
    (hfound : t.found = (Placed.token? ⟨p, 1 + (Piece.joined done).newlines⟩).toList ++ s.found)
    (hsaid : t.said =
      (Placed.emissions ⟨p, 1 + (Piece.joined done).newlines⟩).reverse ++ s.said)
    (herrors : t.errors =
      s.errors + (Placed.fault? ⟨p, 1 + (Piece.joined done).newlines⟩).toList.length) :
    t.OnCourse counting source := by
  have hrest : [] ++ c :: after = p.text ++ after := by rw [htext]; rfl
  refine ⟨done ++ [p], [], after, hstands.finish hrest hfits ?_ ?_ ?_ ?_ ?_ hfound hsaid
    herrors⟩
  · rw [hmode, hstands.mode_eq]
  · rw [hstart, hstands.current_eq, List.append_nil]
  · rw [hcurrent, hstands.current_eq, htext]
    simp
  · rw [hline, hstands.line_add, List.append_nil, htext]
  · intro hcounting
    have hlt := hstands.numbered_add hnumbered hcounting
    rwa [List.append_nil, ← htext] at hlt

theorem leads_stepBetween (hstands : s.Stands counting source done [] (c :: after)) :
    Leads counting source s (s.stepBetween counting source) := by
  have hsees := hstands.sees_beginPiece
  unfold stepBetween
  rw [hsees.take_eq]
  change Leads counting source s ((s.beginPiece.skip c).stepFirst counting source c)
  unfold stepFirst
  split
  · next hquote =>
      subst hquote
      exact ⟨done, ['"'], after, hstands.extend ['"'] (.string (by simp)) rfl hsees.start_eq
        hstands.line_eq_of_between (UInt32.add_zero _).symm (fun _ => s.line.toNat_lt) rfl rfl rfl⟩
  · next hquote =>
      split
      · next hfeed =>
          subst hfeed
          refine leads_countLine rfl hstands fun hfits => ?_
          exact onCourse_of_text_eq (p := .blank '\n') hstands rfl (.blank (by decide)) rfl rfl rfl
            rfl hfits rfl rfl rfl
      · next hfeed =>
          have hsame := line_add_of_ne s.line hfeed
          have hlt := toNat_line_add_lt_of_ne s.line hfeed
          split
          · next hblank =>
              exact onCourse_of_text_eq (p := .blank c) hstands rfl
                (.blank (Piece.isBlank_iff.mp hblank)) rfl rfl rfl hsame (fun _ => hlt) rfl rfl
                rfl
          · next hblank =>
              cases hmark : Mark.ofChar? c with
              | some m => exact leads_stepMark hstands hmark
              | none =>
                  have hfits : (Piece.stray c).Fits after := by
                    have hnext := Piece.next_fits c after
                    rwa [Piece.next, if_neg hquote, if_neg hblank, hmark] at hnext
                  refine onCourse_of_text_eq (p := .stray c) hstands rfl hfits rfl rfl rfl hsame
                    (fun _ => hlt) rfl ?_ rfl
                  simp [complain, Placed.emissions, Placed.token?, Placed.fault?, skip, beginPiece,
                    hstands.line_eq_of_between]

theorem onCourse_enter_of_comment {body : Text}
    (hstands : s.Stands counting source done ('/' :: '/' :: body) rest) (hbody : '\n' ∉ body)
    (hrest : rest = [] ∨ rest.head? = some '\n') :
    (s.enter .between).OnCourse counting source := by
  refine ⟨done ++ [.comment body], [], rest, hstands.finish (p := .comment body) rfl
    (.comment hbody hrest) ?_ ?_ ?_ ?_ ?_ ?_ ?_ ?_⟩
  · rfl
  · exact hstands.start_eq (List.cons_ne_nil _ _)
  · exact hstands.current_eq
  · exact hstands.line_eq
  · exact hstands.numbered
  · rfl
  · rfl
  · rfl

theorem leads_stepComment {body : Text}
    (hstands : s.Stands counting source done ('/' :: '/' :: body) rest) (hbody : '\n' ∉ body)
    (hmode : s.mode = .comment) : Leads counting source s (s.stepComment source) := by
  have hsees := hstands.sees (List.cons_ne_nil _ _)
  unfold stepComment
  simp only [hsees.peek_eq, hstands.current_lt_iff, bind, Except.bind]
  split
  · next hnext =>
      obtain ⟨hfeed, hrest⟩ := hnext
      obtain ⟨c, after, rfl⟩ := List.exists_cons_of_ne_nil hrest
      have hne : c ≠ '\n' := fun heq => hfeed (congrArg some heq)
      rw [hsees.take_eq]
      refine ⟨done, '/' :: '/' :: (body ++ [c]), after, hstands.extend [c] ?_ ?_
        hsees.start_eq (hstands.startLine_eq (List.cons_ne_nil _ _))
        (line_add_of_ne s.line hne) (fun _ => toNat_line_add_lt_of_ne s.line hne) rfl rfl rfl⟩
      · change Begun s.mode _
        rw [hmode]
        exact .comment (by simpa [hbody] using Ne.symm hne)
      · simp [skip]
  · next hover =>
      refine onCourse_enter_of_comment hstands hbody ?_
      by_cases hrest : rest = []
      · exact Or.inl hrest
      · by_cases hfeed : rest.head? = some '\n'
        · exact Or.inr hfeed
        · exact absurd ⟨hfeed, hrest⟩ hover

theorem onCourse_of_string {value : Text}
    (hstands : s.Stands counting source done ('"' :: value) (c :: after)) (hvalue : '"' ∉ value)
    (hquote : c ≠ '"') (hmode : t.mode = .string) (hstart : t.start = s.start)
    (hcurrent : t.current = s.current + c.utf8Size) (hstartLine : t.startLine = s.startLine)
    (hline : t.line = s.line + .ofNat (Text.newlines [c]))
    (hnumbered : counting = .checked → s.line.toNat + Text.newlines [c] < UInt32.size)
    (hfound : t.found = s.found) (hsaid : t.said = s.said) (herrors : t.errors = s.errors) :
    t.OnCourse counting source := by
  have hstart' := hstands.start_eq (List.cons_ne_nil _ _)
  have hstartLine' := hstands.startLine_eq (List.cons_ne_nil _ _)
  refine ⟨done, '"' :: (value ++ [c]), after, hstands.extend [c] ?_ ?_
    (hstart.trans hstart') (hstartLine.trans hstartLine') hline hnumbered hfound hsaid
    herrors⟩
  · rw [hmode]
    exact .string (by simpa [hvalue] using Ne.symm hquote)
  · simpa using hcurrent

theorem leads_closeString {value : Text}
    (hstands : s.Stands counting source done ('"' :: value) ('"' :: after)) (hvalue : '"' ∉ value) :
    Leads counting source s (s.closeString source) := by
  have hsees := hstands.sees (List.cons_ne_nil _ _)
  have htext : '"' :: value ++ ['"'] = (Piece.string value).text := rfl
  have hclosed : ((s.skip '"').enter .between).Sees source (Piece.joined done)
      (Piece.string value).text after :=
    ⟨hsees.skip.source_eq, hsees.skip.start_eq, hsees.skip.current_eq⟩
  have hslice : slice source ((s.skip '"').start + 1) ((s.skip '"').current - 1) = .ok value := by
    have hstart : (s.skip '"').start + 1 = Utf8.size (Piece.joined done ++ ['"']) := by
      change s.start + 1 = _
      rw [hsees.start_eq, Utf8.size_append]
      rfl
    have hstop : (s.skip '"').current - 1 = Utf8.size (Piece.joined done ++ ['"'] ++ value) := by
      change s.current + 1 - 1 = _
      rw [Nat.add_sub_cancel, hsees.current_eq, List.append_assoc]
      rfl
    rw [hstart, hstop]
    refine slice_size (w := '"' :: after) ?_
    simpa using hsees.source_eq
  have hquote : ∀ line : UInt32, line = line + .ofNat (Text.newlines ['"']) := fun line =>
    line_add_of_ne line (by decide)
  unfold closeString
  rw [hsees.take_eq]
  simp only [hslice, bind, Except.bind]
  rw [hclosed.find_eq]
  refine ⟨done ++ [.string value], [], after, hstands.finish_note (p := .string value) ?_
    (.string hvalue) hclosed rfl ?_ ?_ rfl rfl rfl ?_⟩
  · simp [Piece.text]
  · rw [← htext, ← List.append_assoc, ← hstands.line_add]
    exact hquote s.line
  · rw [← htext, ← List.append_assoc]
    exact hstands.numbered_add fun _ => s.line.toNat_lt
  · change some (Token.ofString value (.ofNat (1 + (Piece.joined done).newlines))) = _
    rw [← hstands.startLine_eq (List.cons_ne_nil _ _)]
    rfl

theorem onCourse_complain_of_string {value : Text}
    (hstands : s.Stands counting source done ('"' :: value) []) (hvalue : '"' ∉ value) :
    ((s.enter .between).complain .unterminatedString).OnCourse counting source := by
  have hline : s.line = .ofNat (1 + (Piece.joined done).newlines + value.newlines) := by
    rw [hstands.line_eq, Text.newlines_append, Text.newlines_cons, if_neg (by decide),
      Nat.add_zero, Nat.add_assoc]
  refine ⟨done ++ [.unclosed value], [], [], hstands.finish (p := .unclosed value) rfl
    (.unclosed hvalue) ?_ ?_ ?_ ?_ ?_ ?_ ?_ ?_⟩
  · rfl
  · exact hstands.start_eq (List.cons_ne_nil _ _)
  · exact hstands.current_eq
  · exact hstands.line_eq
  · exact hstands.numbered
  · rfl
  · simp [complain, enter, Placed.emissions, Placed.token?, Placed.fault?, hline]
  · rfl

theorem leads_stepString {value : Text}
    (hstands : s.Stands counting source done ('"' :: value) rest) (hvalue : '"' ∉ value)
    (hmode : s.mode = .string) : Leads counting source s (s.stepString counting source) := by
  have hsees := hstands.sees (List.cons_ne_nil _ _)
  unfold stepString
  simp only [hsees.peek_eq, hstands.current_lt_iff, bind, Except.bind]
  split
  · next hnext =>
      obtain ⟨hhead, hrest⟩ := hnext
      obtain ⟨c, after, rfl⟩ := List.exists_cons_of_ne_nil hrest
      have hquote : c ≠ '"' := fun heq => hhead (congrArg some heq)
      rw [hsees.take_eq]
      change Leads counting source s (if c = '\n' then _ else _)
      split
      · next hfeed =>
          subst hfeed
          exact leads_countLine rfl hstands fun hfits =>
            onCourse_of_string hstands hvalue hquote hmode rfl rfl rfl rfl hfits rfl rfl rfl
      · next hfeed =>
          exact onCourse_of_string hstands hvalue hquote hmode rfl rfl rfl
            (line_add_of_ne s.line hfeed) (fun _ => toNat_line_add_lt_of_ne s.line hfeed) rfl rfl rfl
  · next hover =>
      by_cases hrest : rest = []
      · subst hrest
        rw [if_neg (fun hne => hne rfl)]
        exact onCourse_complain_of_string hstands hvalue
      · have hhead : rest.head? = some '"' := by
          by_cases hquote : rest.head? = some '"'
          · exact hquote
          · exact absurd ⟨hquote, hrest⟩ hover
        obtain ⟨after, rfl⟩ := List.head?_eq_some_iff.mp hhead
        rw [if_pos hrest]
        exact leads_closeString hstands hvalue

end Steps

end State

end LoxTokens.InPlace
