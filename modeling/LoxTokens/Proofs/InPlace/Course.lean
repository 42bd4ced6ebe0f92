import LoxTokens.Proofs.InPlace.Offset
import LoxTokens.Proofs.Placement
import LoxTokens.Proofs.Tiling

/-!
# The course of the machine

What the machine has behind it is always some first pieces of the cut and a part of the next piece,
and what it has found and said is what those first pieces stand for, its faults counted. There are two
ways on from there: one more part of the piece is taken, or the piece is finished. A piece that is finished fits
what is ahead, and that alone makes it the next piece of the cut.
-/

namespace LoxTokens.InPlace

namespace State

/-! ### What the operations do where a source is cut in three -/

/-- The machine's two offsets enclose `taken`, with `before` in front and `rest` behind. -/
structure Sees (source : String) (before taken rest : Text) (s : State) : Prop where
  source_eq : source.toList = before ++ taken ++ rest
  start_eq : s.start = Utf8.size before
  current_eq : s.current = Utf8.size (before ++ taken)

def note (t : Token) (s : State) : State :=
  { s with found := t :: s.found, said := .log (.token t) :: s.said }

namespace Sees

variable {source : String} {before taken rest : Text} {c : Char} {s : State}

theorem peek_eq (hsees : s.Sees source before taken rest) :
    peek source s.current = .ok rest.head? := by
  rw [hsees.current_eq]
  exact peek_size hsees.source_eq

theorem utf8ByteSize_eq (hsees : s.Sees source before taken rest) :
    source.utf8ByteSize = s.current + Utf8.size rest := by
  rw [Utf8.utf8ByteSize_eq, hsees.source_eq, hsees.current_eq, Utf8.size_append (before ++ taken)]

theorem skip (hsees : s.Sees source before taken (c :: rest)) :
    (s.skip c).Sees source before (taken ++ [c]) rest where
  source_eq := by simpa using hsees.source_eq
  start_eq := hsees.start_eq
  current_eq := by
    change s.current + c.utf8Size = _
    rw [hsees.current_eq]
    simp [Nat.add_assoc]

theorem take_eq (hsees : s.Sees source before taken (c :: rest)) :
    s.take source = .ok (c, s.skip c) := by
  simp only [take, hsees.peek_eq]
  rfl

theorem accept_of_head? {expected : Char} (hsees : s.Sees source before taken (expected :: rest)) :
    s.accept source expected = .ok (true, s.skip expected) := by
  have hlt : s.current < source.utf8ByteSize := by
    rw [hsees.utf8ByteSize_eq]
    exact Nat.lt_add_of_pos_right (Utf8.size_pos (List.cons_ne_nil _ _))
  simp only [accept, if_pos hlt, hsees.peek_eq, bind, Except.bind]
  rw [List.head?_cons, if_pos rfl]
  rfl

theorem accept_of_head?_ne {expected : Char} (hsees : s.Sees source before taken rest)
    (hne : rest.head? ≠ some expected) : s.accept source expected = .ok (false, s) := by
  unfold accept
  split
  · simp only [hsees.peek_eq, bind, Except.bind]
    rw [if_neg hne]
    rfl
  · rfl

theorem find_eq (hsees : s.Sees source before taken rest) (kind : Kind) (literal : Option Text) :
    s.find source kind literal = .ok (s.note ⟨kind, taken, literal, s.startLine⟩) := by
  have hslice : slice source s.start s.current = .ok taken := by
    rw [hsees.start_eq, hsees.current_eq]
    exact slice_size hsees.source_eq
  simp only [find, hslice]
  rfl

end Sees

/-! ### The course -/

/-- What the machine has of a piece when it is in a mode. -/
inductive Begun : Mode → Text → Prop where
  | between : Begun .between []
  | comment {body : Text} (hbody : '\n' ∉ body) : Begun .comment ('/' :: '/' :: body)
  | string {value : Text} (hvalue : '"' ∉ value) : Begun .string ('"' :: value)

/-- The machine has taken the pieces `done` and the part `taken` of the next, and has `rest` ahead.
Only where a piece is begun do the start and its line belong to that piece. -/
structure Stands (counting : Counting) (source : String) (done : List Piece) (taken rest : Text)
    (s : State) : Prop where
  cut_eq : Piece.cut source.toList = done ++ Piece.cut (taken ++ rest)
  begun : Begun s.mode taken
  current_eq : s.current = Utf8.size (Piece.joined done ++ taken)
  start_mem : ∃ u v, Piece.joined done ++ taken = u ++ v ∧ s.start = Utf8.size u
  start_eq : taken ≠ [] → s.start = Utf8.size (Piece.joined done)
  startLine_eq : taken ≠ [] → s.startLine = .ofNat (1 + (Piece.joined done).newlines)
  line_eq : s.line = .ofNat (1 + (Piece.joined done ++ taken).newlines)
  numbered : counting = .checked → 1 + (Piece.joined done ++ taken).newlines < UInt32.size
  found_eq : s.found = ((Placed.place 1 done).filterMap Placed.token?).reverse
  said_eq : s.said = ((Placed.place 1 done).flatMap Placed.emissions).reverse
  errors_eq : s.errors = (s.said.filterMap Emission.diagnostic?).length

def OnCourse (counting : Counting) (source : String) (s : State) : Prop :=
  ∃ done taken rest, s.Stands counting source done taken rest

theorem onCourse_initial (counting : Counting) (source : String) :
    initial.OnCourse counting source :=
  ⟨[], [], source.toList,
    { cut_eq := rfl
      begun := .between
      current_eq := rfl
      start_mem := ⟨[], [], rfl, rfl⟩
      start_eq := fun hne => absurd rfl hne
      startLine_eq := fun hne => absurd rfl hne
      line_eq := rfl
      numbered := fun _ => by decide
      found_eq := rfl
      said_eq := rfl
      errors_eq := rfl }⟩

namespace Stands

variable {counting : Counting} {source : String} {done : List Piece} {taken rest after : Text}
  {c : Char} {s s' : State}

theorem source_eq (hstands : s.Stands counting source done taken rest) :
    source.toList = Piece.joined done ++ taken ++ rest := by
  have hjoined := congrArg Piece.joined hstands.cut_eq
  rwa [Piece.joined_append, Piece.joined_cut, Piece.joined_cut, ← List.append_assoc] at hjoined

theorem sees (hstands : s.Stands counting source done taken rest) (htaken : taken ≠ []) :
    s.Sees source (Piece.joined done) taken rest :=
  ⟨hstands.source_eq, hstands.start_eq htaken, hstands.current_eq⟩

theorem sees_beginPiece (hstands : s.Stands counting source done [] rest) :
    s.beginPiece.Sees source (Piece.joined done) [] rest where
  source_eq := hstands.source_eq
  start_eq := by
    change s.current = _
    rw [hstands.current_eq, List.append_nil]
  current_eq := hstands.current_eq

theorem utf8ByteSize_eq (hstands : s.Stands counting source done taken rest) :
    source.utf8ByteSize = s.current + Utf8.size rest := by
  rw [Utf8.utf8ByteSize_eq, hstands.source_eq, Utf8.size_append, hstands.current_eq]

theorem current_lt_iff (hstands : s.Stands counting source done taken rest) :
    s.current < source.utf8ByteSize ↔ rest ≠ [] := by
  rw [hstands.utf8ByteSize_eq]
  constructor
  · rintro hlt rfl
    rw [Utf8.size_nil] at hlt
    omega
  · intro hrest
    have hpos := Utf8.size_pos hrest
    omega

theorem mode_eq (hstands : s.Stands counting source done [] rest) : s.mode = .between := by
  have hbegun := hstands.begun
  generalize s.mode = mode at hbegun
  cases hbegun
  rfl

theorem line_eq_of_between (hstands : s.Stands counting source done [] rest) :
    s.line = .ofNat (1 + (Piece.joined done).newlines) := by
  rw [hstands.line_eq, List.append_nil]

theorem toNat_line (hstands : s.Stands .checked source done taken rest) :
    s.line.toNat = 1 + (Piece.joined done ++ taken).newlines := by
  rw [hstands.line_eq]
  exact UInt32.toNat_ofNat_of_lt' (hstands.numbered rfl)

theorem line_add (hstands : s.Stands counting source done taken rest) (more : Text) :
    s.line + .ofNat more.newlines = .ofNat (1 + (Piece.joined done ++ taken ++ more).newlines) := by
  rw [hstands.line_eq, ← UInt32.ofNat_add, Text.newlines_append _ more, Nat.add_assoc]

theorem numbered_add (hstands : s.Stands counting source done taken rest) {more : Text}
    (hfits : counting = .checked → s.line.toNat + more.newlines < UInt32.size)
    (hcounting : counting = .checked) :
    1 + (Piece.joined done ++ taken ++ more).newlines < UInt32.size := by
  subst hcounting
  have hlt := hfits rfl
  rw [hstands.toNat_line] at hlt
  rw [Text.newlines_append _ more]
  omega

theorem toNat_line_le (hstands : s.Stands .checked source done taken ('\n' :: after)) :
    s.line.toNat ≤ Text.newlines source.toList := by
  rw [hstands.toNat_line, hstands.source_eq, Text.newlines_append _ ('\n' :: after),
    Text.newlines_cons, if_pos rfl]
  omega

/-! ### The two ways on -/

/-- A piece that fits what is ahead is the next piece of the cut. -/
theorem finish {p : Piece} (hstands : s.Stands counting source done taken rest)
    (htext : taken ++ rest = p.text ++ after) (hfits : p.Fits after)
    (hmode : s'.mode = .between) (hstart : s'.start = Utf8.size (Piece.joined done))
    (hcurrent : s'.current = Utf8.size (Piece.joined done ++ p.text))
    (hline : s'.line = .ofNat (1 + (Piece.joined done ++ p.text).newlines))
    (hnumbered : counting = .checked → 1 + (Piece.joined done ++ p.text).newlines < UInt32.size)
    (hfound : s'.found =
      (Placed.token? ⟨p, 1 + (Piece.joined done).newlines⟩).toList ++ s.found)
    (hsaid : s'.said =
      (Placed.emissions ⟨p, 1 + (Piece.joined done).newlines⟩).reverse ++ s.said)
    (herrors : s'.errors =
      s.errors + (Placed.fault? ⟨p, 1 + (Piece.joined done).newlines⟩).toList.length) :
    s'.Stands counting source (done ++ [p]) [] after where
  cut_eq := by
    rw [hstands.cut_eq, htext, Piece.cut_text_append hfits]
    simp
  begun := by
    rw [hmode]
    exact .between
  current_eq := by simpa using hcurrent
  start_mem := ⟨Piece.joined done, p.text, by simp, hstart⟩
  start_eq := fun hne => absurd rfl hne
  startLine_eq := fun hne => absurd rfl hne
  line_eq := by simpa using hline
  numbered := by simpa using hnumbered
  found_eq := by
    rw [hfound, hstands.found_eq, Placed.place_append, List.filterMap_append, List.reverse_append]
    cases htoken : Placed.token? ⟨p, 1 + (Piece.joined done).newlines⟩ with
    | none => simp [Placed.place, htoken]
    | some t => simp [Placed.place, htoken]
  said_eq := by
    rw [hsaid, hstands.said_eq, Placed.place_append, List.flatMap_append, List.reverse_append]
    simp [Placed.place]
  errors_eq := by
    rw [herrors, hstands.errors_eq, hsaid, List.filterMap_append, List.filterMap_reverse,
      Placed.filterMap_diagnostic?_emissions, List.length_append, List.length_reverse,
      Option.toList_map, List.length_map, Nat.add_comm]

/-- A piece that is a token is finished by finding the token. -/
theorem finish_note {p : Piece} {t : Token} (hstands : s.Stands counting source done taken rest)
    (htext : taken ++ rest = p.text ++ after) (hfits : p.Fits after)
    (hsees : s'.Sees source (Piece.joined done) p.text after) (hmode : s'.mode = .between)
    (hline : s'.line = .ofNat (1 + (Piece.joined done ++ p.text).newlines))
    (hnumbered : counting = .checked → 1 + (Piece.joined done ++ p.text).newlines < UInt32.size)
    (hfound : s'.found = s.found) (hsaid : s'.said = s.said) (herrors : s'.errors = s.errors)
    (htoken : Placed.token? ⟨p, 1 + (Piece.joined done).newlines⟩ = some t) :
    (s'.note t).Stands counting source (done ++ [p]) [] after := by
  refine hstands.finish htext hfits hmode hsees.start_eq hsees.current_eq hline hnumbered ?_ ?_ ?_
  · rw [htoken, ← hfound]
    rfl
  · rw [Placed.emissions, htoken, ← hsaid]
    rfl
  · rw [Placed.fault?_eq_none_of_token? htoken, ← herrors]
    rfl

/-- What comes next belongs to the piece that is begun. -/
theorem extend (more : Text) (hstands : s.Stands counting source done taken (more ++ after))
    (hbegun : Begun s'.mode (taken ++ more)) (hcurrent : s'.current = s.current + Utf8.size more)
    (hstart : s'.start = Utf8.size (Piece.joined done))
    (hstartLine : s'.startLine = .ofNat (1 + (Piece.joined done).newlines))
    (hline : s'.line = s.line + .ofNat more.newlines)
    (hfits : counting = .checked → s.line.toNat + more.newlines < UInt32.size)
    (hfound : s'.found = s.found) (hsaid : s'.said = s.said) (herrors : s'.errors = s.errors) :
    s'.Stands counting source done (taken ++ more) after where
  cut_eq := by
    rw [hstands.cut_eq, List.append_assoc]
  begun := hbegun
  current_eq := by
    rw [hcurrent, hstands.current_eq, ← List.append_assoc, ← Utf8.size_append]
  start_mem := ⟨Piece.joined done, taken ++ more, rfl, hstart⟩
  start_eq := fun _ => hstart
  startLine_eq := fun _ => hstartLine
  line_eq := by
    rw [hline, hstands.line_add, List.append_assoc]
  numbered := by
    intro hcounting
    rw [← List.append_assoc]
    exact hstands.numbered_add hfits hcounting
  found_eq := hfound.trans hstands.found_eq
  said_eq := hsaid.trans hstands.said_eq
  errors_eq := by
    rw [herrors, hstands.errors_eq, hsaid]

end Stands

end State

end LoxTokens.InPlace
