import LoxTokens.Token.Mark

/-!
# Pieces

A source text is cut from left to right into pieces, each as long as its first characters allow: a
mark takes the equals sign after it if it can, a comment runs up to the line feed, a string up to its
closing quote. Every character begins some piece, so the cut never fails and the pieces' texts put
together are the source. Neither tokens nor lines are thought of here.
-/

namespace LoxTokens

inductive Piece where
  | mark (m : Mark)
  /-- A comment; `body` is what follows the two slashes. -/
  | comment (body : Text)
  /-- A blank, a carriage return, a tab or a line feed. -/
  | blank (c : Char)
  /-- A closed string. -/
  | string (value : Text)
  /-- A string that the source ends in; `tail` is what follows the quote. -/
  | unclosed (tail : Text)
  /-- A character that begins none of the others. -/
  | stray (c : Char)
deriving DecidableEq

/-- The character separates tokens. -/
def isBlank (c : Char) : Bool :=
  c = ' ' || c = '\r' || c = '\t' || c = '\n'

namespace Piece

/-- The piece's text in the source. -/
def text : Piece → Text
  | mark m => m.spelling
  | comment body => '/' :: '/' :: body
  | blank c => [c]
  | string value => '"' :: (value ++ ['"'])
  | unclosed tail => '"' :: tail
  | stray c => [c]

/-- What follows a quote: a string up to the next quote, or everything there is. -/
def afterQuote (rest : Text) : Piece × Text :=
  match rest.dropWhile (· != '"') with
  | [] => (.unclosed rest, [])
  | _ :: after => (.string (rest.takeWhile (· != '"')), after)

/-- What follows a mark of one character: a comment, the longer mark, or nothing of its piece. -/
def afterMark (m : Mark) : Text → Piece × Text
  | '/' :: rest =>
      if m = .slash then
        (.comment (rest.takeWhile (· != '\n')), rest.dropWhile (· != '\n'))
      else
        (.mark m, '/' :: rest)
  | '=' :: rest =>
      match m.withEqual? with
      | some longer => (.mark longer, rest)
      | none => (.mark m, '=' :: rest)
  | rest => (.mark m, rest)

/-- The piece that begins with `c` when `rest` follows, and what is left after it. -/
def next (c : Char) (rest : Text) : Piece × Text :=
  if c = '"' then
    afterQuote rest
  else if isBlank c then
    (.blank c, rest)
  else
    match Mark.ofChar? c with
    | some m => afterMark m rest
    | none => (.stray c, rest)

/-! ### The piece and the rest make up the text -/

theorem afterQuote_text (rest : Text) :
    (afterQuote rest).1.text ++ (afterQuote rest).2 = '"' :: rest := by
  unfold afterQuote
  have hsplit := List.takeWhile_append_dropWhile (p := (· != '"')) (l := rest)
  split
  · simp [text]
  · next quote after hdrop =>
      have hquote : quote = '"' := by
        have hhead := List.head?_dropWhile_not (p := (· != '"')) rest
        simpa [hdrop] using hhead
      rw [hdrop, hquote] at hsplit
      simp [text, hsplit]

theorem afterMark_text {c : Char} {m : Mark} (hmark : Mark.ofChar? c = some m) (rest : Text) :
    (afterMark m rest).1.text ++ (afterMark m rest).2 = c :: rest := by
  have hspelling := Mark.spelling_of_ofChar? hmark
  unfold afterMark
  split
  · split
    · next hslash =>
        subst hslash
        have hc : c = '/' := by simpa [Mark.spelling] using hspelling.symm
        simp [text, hc]
    · simp [text, hspelling]
  · split
    · next longer hlonger => simp [text, Mark.spelling_of_withEqual? hlonger, hspelling]
    · simp [text, hspelling]
  · simp [text, hspelling]

theorem next_text (c : Char) (rest : Text) :
    (next c rest).1.text ++ (next c rest).2 = c :: rest := by
  unfold next
  split
  · next hquote => rw [hquote]; exact afterQuote_text rest
  · split
    · simp [text]
    · split
      · next m hmark => exact afterMark_text hmark rest
      · simp [text]

theorem text_ne_nil (p : Piece) : p.text ≠ [] := by
  cases p with
  | mark m => exact m.spelling_ne_nil
  | _ => exact List.cons_ne_nil _ _

/-- A piece takes at least the character it begins with. -/
theorem next_rest_length_le (c : Char) (rest : Text) : (next c rest).2.length ≤ rest.length := by
  have hlength := congrArg List.length (next_text c rest)
  have hpos := List.length_pos_iff.mpr (next c rest).1.text_ne_nil
  simp only [List.length_append, List.length_cons] at hlength
  omega

/-! ### The cut -/

/-- The pieces of a source text. -/
def cut : Text → List Piece
  | [] => []
  | c :: rest => (next c rest).1 :: cut (next c rest).2
termination_by source => source.length
decreasing_by
  exact Nat.lt_succ_of_le (next_rest_length_le c rest)

/-- The pieces put together are the source. -/
theorem flatMap_text_cut (source : Text) : (cut source).flatMap text = source := by
  fun_induction cut source with
  | case1 => rfl
  | case2 c rest ih => rw [List.flatMap_cons, ih, next_text]

end Piece

end LoxTokens
