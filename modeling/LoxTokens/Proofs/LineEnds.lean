import LoxTokens.Proofs.Comments
import LoxTokens.Proofs.Silent

/-!
# Line ends converted

When every line feed is given a carriage return in front of it, the return is a blank of its own,
unless a string holds it or a comment takes it in at its end. A blank and a comment are both silent,
so all that becomes of a scan is that its strings hold the returns: no piece goes on into a carriage
return where it did not go on into a line feed, except a comment, and no line is begun or ended.
-/

namespace LoxTokens

namespace Text

variable {s : Text} {c : Char}

/-- A text with a carriage return put in front of every line feed. -/
def crlf (s : Text) : Text :=
  s.flatMap fun c => if c = '\n' then ['\r', '\n'] else [c]

@[simp]
theorem crlf_nil : crlf [] = [] := rfl

@[simp]
theorem crlf_append (s t : Text) : crlf (s ++ t) = crlf s ++ crlf t :=
  List.flatMap_append

theorem crlf_newline (s : Text) : crlf ('\n' :: s) = '\r' :: '\n' :: crlf s := rfl

theorem crlf_cons_of_ne (hc : c ≠ '\n') (s : Text) : crlf (c :: s) = c :: crlf s := by
  rw [crlf, List.flatMap_cons, if_neg hc]
  rfl

theorem crlf_of_not_mem (hs : '\n' ∉ s) : crlf s = s := by
  induction s with
  | nil => rfl
  | cons c s ih =>
      rw [List.mem_cons, not_or] at hs
      rw [crlf_cons_of_ne (Ne.symm hs.1), ih hs.2]

theorem head?_crlf (s : Text) :
    (crlf s).head? = if s.head? = some '\n' then some '\r' else s.head? := by
  cases s with
  | nil => rfl
  | cons c s =>
      by_cases hc : c = '\n'
      · rw [hc]
        rfl
      · rw [crlf_cons_of_ne hc, List.head?_cons, List.head?_cons, if_neg (by simpa using hc)]

theorem head?_crlf_ne (hc : c ≠ '\r') (hhead : s.head? ≠ some c) : (crlf s).head? ≠ some c := by
  rw [head?_crlf]
  split
  · simpa using Ne.symm hc
  · exact hhead

theorem newlines_crlf (s : Text) : (crlf s).newlines = s.newlines := by
  induction s with
  | nil => rfl
  | cons c s ih =>
      by_cases hc : c = '\n'
      · rw [hc, crlf_newline, newlines_cons, newlines_cons, newlines_cons, ih]
        rfl
      · rw [crlf_cons_of_ne hc, newlines_cons, newlines_cons, ih]

theorem quote_not_mem_crlf (hs : '"' ∉ s) : '"' ∉ crlf s := by
  intro hmem
  obtain ⟨c, hc, hquote⟩ := List.mem_flatMap.mp hmem
  split at hquote
  · exact absurd hquote (by decide)
  · obtain rfl := List.mem_singleton.mp hquote
    exact hs hc

end Text

/-! ### What becomes of pieces, tokens and emissions -/

def Token.crlf (t : Token) : Token :=
  { t with lexeme := t.lexeme.crlf, literal := t.literal.map Text.crlf }

def Emission.crlf : Emission → Emission
  | log (.token t) => log (.token t.crlf)
  | e => e

namespace Piece

variable {p : Piece} {rest body : Text}

/-- The piece that stands in a converted text for this one. -/
def crlf : Piece → Piece
  | string value => string value.crlf
  | unclosed tail => unclosed tail.crlf
  | p => p

theorem crlf_spelling (m : Mark) : Text.crlf m.spelling = m.spelling := by
  cases m <;> rfl

theorem text_comment_crlf (hbody : '\n' ∉ body) :
    (comment body).text.crlf = (comment body).text :=
  Text.crlf_of_not_mem (by simp [text, hbody])

theorem text_crlf (hfits : p.Fits rest) (hfeed : p ≠ .blank '\n') :
    p.crlf.text = p.text.crlf := by
  cases hfits with
  | punctuation _ => exact (crlf_spelling _).symm
  | longOperator _ => exact (crlf_spelling _).symm
  | shortOperator _ _ => exact (crlf_spelling _).symm
  | slash _ => exact (crlf_spelling .slash).symm
  | comment hbody _ => exact (text_comment_crlf hbody).symm
  | @blank c _ _ =>
      have hc : c ≠ '\n' := fun heq => hfeed (congrArg blank heq)
      exact (Text.crlf_cons_of_ne hc []).symm
  | string _ => simp [crlf, text, Text.crlf_cons_of_ne]
  | unclosed _ => simp [crlf, text, Text.crlf_cons_of_ne]
  | @stray c _ hc =>
      have hne : c ≠ '\n' := by
        rintro rfl
        exact hc (by decide)
      exact (Text.crlf_cons_of_ne hne []).symm

theorem fits_crlf (hfits : p.Fits rest)
    (hcomment : ∀ body, p = .comment body → rest.head? ≠ some '\n') :
    p.crlf.Fits rest.crlf := by
  cases hfits with
  | punctuation hm => exact .punctuation hm
  | longOperator hm => exact .longOperator hm
  | shortOperator hm hne => exact .shortOperator hm (Text.head?_crlf_ne (by decide) hne)
  | comment hbody hafter =>
      obtain rfl := hafter.resolve_right (hcomment _ rfl)
      exact .comment hbody (Or.inl rfl)
  | slash hne => exact .slash (Text.head?_crlf_ne (by decide) hne)
  | blank hc => exact .blank hc
  | string hvalue => exact .string (Text.quote_not_mem_crlf hvalue)
  | unclosed htail => exact .unclosed (Text.quote_not_mem_crlf htail)
  | stray hc => exact .stray hc

end Piece

namespace Placed

theorem token?_crlf (p : Piece) (line : Nat) :
    token? ⟨p.crlf, line⟩ = (token? ⟨p, line⟩).map Token.crlf := by
  cases p with
  | mark m => simp [Piece.crlf, token?, Token.ofMark, Token.crlf, Piece.crlf_spelling]
  | string value =>
      simp [Piece.crlf, token?, Token.ofString, Token.crlf, Text.crlf_cons_of_ne]
  | comment _ | blank _ | unclosed _ | stray _ => rfl

theorem fault?_crlf (p : Piece) (line : Nat) : fault? ⟨p.crlf, line⟩ = fault? ⟨p, line⟩ := by
  cases p with
  | unclosed tail => simp [Piece.crlf, fault?, Text.newlines_crlf]
  | mark _ | comment _ | blank _ | string _ | stray _ => rfl

theorem emissions_crlf (p : Piece) (line : Nat) :
    emissions ⟨p.crlf, line⟩ = (emissions ⟨p, line⟩).map Emission.crlf := by
  rw [emissions, emissions, token?_crlf, fault?_crlf]
  cases token? ⟨p, line⟩ <;> cases fault? ⟨p, line⟩ <;> rfl

section Silent

variable {p : Piece} (line : Nat) (hp : p.Silent)
include hp

theorem token?_of_silent : token? ⟨p, line⟩ = none := by
  rw [← Option.map_eq_none_iff (f := Token.content), content_token?]
  exact hp.1

theorem fault?_of_silent : fault? ⟨p, line⟩ = none := by
  rw [← Option.map_eq_none_iff (f := fun found => found.2.message), message_fault?]
  exact hp.2

theorem emissions_of_silent : emissions ⟨p, line⟩ = [] := by
  rw [emissions, token?_of_silent line hp, fault?_of_silent line hp]

end Silent

end Placed

/-! ### What is read off a converted text -/

namespace Piece

variable {α : Type} {f g : Placed → List α} {p : Piece} {rest body : Text}

/-- What is read off the pieces of a text whose first line has the given number. -/
def readOff (f : Placed → List α) (line : Nat) (source : Text) : List α :=
  (Placed.place line (cut source)).flatMap f

def SkipsSilent (f : Placed → List α) : Prop :=
  ∀ (p : Piece) (line : Nat), p.Silent → f ⟨p, line⟩ = []

theorem readOff_text_append (f : Placed → List α) (line : Nat) (hfits : p.Fits rest) :
    readOff f line (p.text ++ rest) =
      f ⟨p, line⟩ ++ readOff f (line + p.text.newlines) rest := by
  rw [readOff, cut_text_append hfits]
  rfl

theorem readOff_silent_append (hskips : SkipsSilent f) (hp : p.Silent) (hfits : p.Fits rest)
    (line : Nat) :
    readOff f line (p.text ++ rest) = readOff f (line + p.text.newlines) rest := by
  rw [readOff_text_append f line hfits, hskips p line hp, List.nil_append]

theorem readOff_return (hskips : SkipsSilent f) (line : Nat) (rest : Text) :
    readOff f line ('\r' :: rest) = readOff f line rest :=
  readOff_silent_append (p := .blank '\r') hskips ⟨rfl, rfl⟩ (.blank (by decide)) line

theorem readOff_newline (hskips : SkipsSilent f) (line : Nat) (rest : Text) :
    readOff f line ('\n' :: rest) = readOff f (line + 1) rest :=
  readOff_silent_append (p := .blank '\n') hskips ⟨rfl, rfl⟩ (.blank (by decide)) line

/-- The return that is put behind a comment becomes a part of it, and nothing is read off either. -/
theorem readOff_comment_crlf (hskips : SkipsSilent f) (hbody : '\n' ∉ body) (line : Nat)
    (after : Text) :
    readOff f line ((comment body).text.crlf ++ Text.crlf ('\n' :: after)) =
      readOff f line (Text.crlf ('\n' :: after)) := by
  have hlonger : '\n' ∉ body ++ ['\r'] := by simpa using hbody
  have hfits : Fits (.comment (body ++ ['\r'])) ('\n' :: Text.crlf after) :=
    .comment hlonger (Or.inr rfl)
  have hconverted : (comment body).text.crlf ++ Text.crlf ('\n' :: after) =
      (comment (body ++ ['\r'])).text ++ '\n' :: Text.crlf after := by
    rw [text_comment_crlf hbody, Text.crlf_newline]
    simp [text]
  rw [hconverted, readOff_silent_append hskips ⟨rfl, rfl⟩ hfits, newlines_text_comment hlonger,
    Nat.add_zero, Text.crlf_newline, readOff_return hskips]

/-- The step from one piece to the next. Only a comment and a line feed do not stay one piece. -/
theorem readOff_crlf_append (hskips : SkipsSilent f) (hfits : p.Fits rest) (line : Nat) :
    readOff f line (p.text.crlf ++ rest.crlf) =
      f ⟨p.crlf, line⟩ ++ readOff f (line + p.text.newlines) rest.crlf := by
  by_cases hfeed : p = .blank '\n'
  · -- The line feed becomes two blanks.
    subst hfeed
    rw [hskips (crlf (.blank '\n')) line ⟨rfl, rfl⟩, List.nil_append]
    exact (readOff_return hskips line _).trans (readOff_newline hskips line _)
  · by_cases hcomment : (∃ body, p = .comment body) ∧ rest.head? = some '\n'
    · -- The comment grows by the return that belongs to what follows it.
      obtain ⟨⟨body, rfl⟩, hhead⟩ := hcomment
      obtain ⟨after, rfl⟩ := List.head?_eq_some_iff.mp hhead
      cases hfits with
      | comment hbody _ =>
          rw [readOff_comment_crlf hskips hbody, hskips (crlf (.comment body)) line ⟨rfl, rfl⟩,
            List.nil_append, newlines_text_comment hbody, Nat.add_zero]
    · have hfits' := fits_crlf hfits fun body hp hhead => hcomment ⟨⟨body, hp⟩, hhead⟩
      rw [← text_crlf hfits hfeed, readOff_text_append f line hfits', text_crlf hfits hfeed,
        Text.newlines_crlf]

theorem readOff_crlf (hskips : SkipsSilent f)
    (hread : ∀ (p : Piece) (line : Nat), f ⟨p.crlf, line⟩ = g ⟨p, line⟩) (line : Nat)
    (source : Text) : readOff f line source.crlf = readOff g line source := by
  have htiles := tiles_cut source
  generalize cut source = pieces at htiles
  induction htiles generalizing line with
  | nil =>
      rw [Text.crlf_nil, readOff, readOff, cut_nil]
      rfl
  | @cons p pieces rest hfits _ ih =>
      rw [Text.crlf_append, readOff_crlf_append hskips hfits, ih, hread,
        readOff_text_append g line hfits]

example : cut (Text.crlf "/\n//a\n\"\n".toList) =
    [.mark .slash, .blank '\r', .blank '\n', .comment "a\r".toList, .blank '\n',
      .unclosed "\r\n".toList] := by
  decide +kernel

end Piece

namespace Scan

theorem lastLine_crlf (source : Text) : lastLine source.crlf = lastLine source := by
  rw [lastLine, Text.newlines_crlf, lastLine]

theorem tokens_crlf (source : Text) : tokens source.crlf = (tokens source).map Token.crlf := by
  have hread := Piece.readOff_crlf (f := fun p => p.token?.toList)
    (g := fun p => (p.token?.map Token.crlf).toList)
    (fun _ line hp => congrArg Option.toList (Placed.token?_of_silent line hp))
    (fun p line => congrArg Option.toList (Placed.token?_crlf p line)) 1 source
  rw [tokens, tokens, List.map_append, lastLine_crlf, List.filterMap_eq_flatMap_toList,
    List.map_filterMap, List.filterMap_eq_flatMap_toList]
  exact congrArg (· ++ [.eof (lastLine source)]) hread

theorem faults_crlf (source : Text) : faults source.crlf = faults source := by
  rw [faults, faults, List.filterMap_eq_flatMap_toList, List.filterMap_eq_flatMap_toList]
  exact Piece.readOff_crlf
    (fun _ line hp => congrArg Option.toList (Placed.fault?_of_silent line hp))
    (fun p line => congrArg Option.toList (Placed.fault?_crlf p line)) 1 source

theorem emissions_crlf (source : Text) :
    emissions source.crlf = (emissions source).map Emission.crlf := by
  have hread := Piece.readOff_crlf (f := Placed.emissions)
    (g := fun p => p.emissions.map Emission.crlf)
    (fun _ line hp => Placed.emissions_of_silent line hp) Placed.emissions_crlf 1 source
  rw [emissions, emissions, tokens_crlf, faults_crlf, lastLine_crlf, List.length_map,
    List.map_append, List.map_flatMap]
  exact congrArg (· ++ _) hread

theorem diagnostics_crlf (source : Text) : diagnostics source.crlf = diagnostics source := by
  rw [diagnostics, faults_crlf, diagnostics]

end Scan

/-- A source whose line ends are converted has the tokens that it had before, one for one and on the
same lines, with the line ends converted in each of them, and the same is reported of it. -/
theorem scan_crlf (source : String) :
    ∃ result converted,
      InPlace.Yields source result ∧
      InPlace.Yields (String.ofList (Text.crlf source.toList)) converted ∧
      converted.tokens = result.tokens.map Token.crlf ∧
      converted.diagnostics = result.diagnostics ∧
      converted.emissions = result.emissions.map Emission.crlf := by
  refine ⟨_, _, InPlace.yields_scan source, InPlace.yields_scan _, ?_, ?_, ?_⟩
  · rw [String.toList_ofList]
    exact Scan.tokens_crlf source.toList
  · rw [InPlace.Result.diagnostics, InPlace.Result.diagnostics, Scan.filterMap_diagnostic?_emissions,
      Scan.filterMap_diagnostic?_emissions, String.toList_ofList]
    exact Scan.diagnostics_crlf source.toList
  · rw [String.toList_ofList]
    exact Scan.emissions_crlf source.toList

end LoxTokens
