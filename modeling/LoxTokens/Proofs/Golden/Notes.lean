import LoxTokens.Proofs.Golden.Comments

/-!
# Notes read back

A test can be written line by line, with a note behind a line's text where something is expected. What
is expected is then read off the notes, whatever stands in front of them, as long as no marker does:
no end of a marker is the beginning of a marker, so the text in front of a marker does not help another
one to begin before it. A note may repeat its own marker, since the first one is read, and it does not
hold the other one.
-/

namespace LoxTokens

namespace Golden

inductive Channel where
  | output
  | error
deriving DecidableEq

namespace Channel

def marker : Channel → Text
  | output => outputMarker
  | error => errorMarker

instance {p : Channel → Prop} [DecidablePred p] : Decidable (∀ c, p c) :=
  decidable_of_iff (p output ∧ p error)
    ⟨fun hp c => match c with
      | output => hp.1
      | error => hp.2, fun hp => ⟨hp output, hp error⟩⟩

end Channel

/-- A line that is expected on one of the two streams. -/
structure Note where
  channel : Channel
  text : Text
deriving DecidableEq

/-- A line of a test whose note can be read back. -/
structure NotedLine where
  front : Text
  note : Option Note
  /-- There is a carriage return in front of the line feed that ends the line. -/
  returned : Bool
  front_clear : ∀ c : Channel, ¬c.marker <:+: front
  note_clear : ∀ n ∈ note, ∀ c ≠ n.channel, ¬c.marker <:+: n.text
  front_line : '\n' ∉ front ∧ front.getLast? ≠ some '\r'
  note_line : ∀ n ∈ note, '\n' ∉ n.text ∧ n.text.getLast? ≠ some '\r'

namespace NotedLine

def text (l : NotedLine) : Text :=
  l.front ++ (l.note.elim [] fun n => n.channel.marker ++ n.text)

def written (l : NotedLine) : Text :=
  l.text ++ if l.returned then ['\r', '\n'] else ['\n']

/-- What the line states for a stream. -/
def noteFor (c : Channel) (l : NotedLine) : Option Text :=
  (l.note.filter (·.channel = c)).map Note.text

end NotedLine

variable {c d : Channel} {front rest v : Text}

theorem Channel.isMarker_marker (c : Channel) : IsMarker c.marker := by
  cases c with
  | output => exact isMarker_outputMarker
  | error => exact isMarker_errorMarker

/-! ### Lines -/

theorem newline_not_mem_marker_append (c : Channel) (hrest : '\n' ∉ rest) :
    '\n' ∉ c.marker ++ rest := by
  rw [List.mem_append, not_or]
  exact ⟨c.isMarker_marker.newline, hrest⟩

theorem getLast?_marker_append_ne (c : Channel) (hrest : rest.getLast? ≠ some '\r') :
    (front ++ (c.marker ++ rest)).getLast? ≠ some '\r' := by
  have hmarker := c.isMarker_marker
  rw [List.getLast?_append_of_ne_nil front (List.append_ne_nil_of_left_ne_nil hmarker.ne_nil rest)]
  by_cases hnil : rest = []
  · rw [hnil, List.append_nil]
    exact hmarker.getLast?_ne
  · rwa [List.getLast?_append_of_ne_nil _ hnil]

namespace NotedLine

theorem newline_not_mem_text (l : NotedLine) : '\n' ∉ l.text := by
  rw [text, List.mem_append, not_or]
  refine ⟨l.front_line.1, ?_⟩
  cases hnote : l.note with
  | none => exact List.not_mem_nil
  | some n => exact newline_not_mem_marker_append n.channel (l.note_line n hnote).1

theorem getLast?_text_ne (l : NotedLine) : l.text.getLast? ≠ some '\r' := by
  rw [text]
  cases hnote : l.note with
  | none =>
      rw [Option.elim_none, List.append_nil]
      exact l.front_line.2
  | some n => exact getLast?_marker_append_ne n.channel (l.note_line n hnote).2

theorem lines_written_append (l : NotedLine) (rest : Text) :
    Text.lines (l.written ++ rest) = l.text :: Text.lines rest := by
  rw [written, List.append_assoc]
  split
  · exact Text.lines_returnFeed l.newline_not_mem_text rest
  · exact Text.lines_feed l.newline_not_mem_text l.getLast?_text_ne rest

theorem lines_flatMap_written (ls : List NotedLine) :
    Text.lines (ls.flatMap written) = ls.map text := by
  induction ls with
  | nil => rfl
  | cons l ls ih => rw [List.flatMap_cons, l.lines_written_append, ih, List.map_cons]

end NotedLine

/-! ### What is read on a line -/

/-- What is left of a marker behind its first character does not go on into a marker. -/
theorem markers_apart (c d : Channel) : ∀ w ∈ c.marker.tail.tails, w ≠ [] →
    ¬w <+: d.marker ∧ ¬d.marker <+: w := by
  cases c <;> cases d <;> decide

theorem not_isPrefix_append_marker (hfront : ¬c.marker <:+: front) (hv : v <:+ front) (hne : v ≠ []) :
    ¬c.marker <+: v ++ (d.marker ++ rest) := by
  have hwhole : ¬c.marker <+: v := fun hbegins => hfront (hbegins.isInfix.trans hv.isInfix)
  intro hbegins
  rcases List.prefix_or_prefix_of_prefix hbegins (List.prefix_append v _) with hshort | ⟨w, hw⟩
  · exact hwhole hshort
  · -- The marker would begin in `v` and go on with `w` into the other marker.
    obtain ⟨first, v, rfl⟩ := List.exists_cons_of_ne_nil hne
    have hmore : w ≠ [] := by
      rintro rfl
      exact hwhole ⟨[], by rw [← hw, List.append_nil, List.append_nil]⟩
    have htail : w ∈ c.marker.tail.tails := by
      rw [List.mem_tails, ← hw]
      exact List.suffix_append v w
    obtain ⟨hinside, haround⟩ := markers_apart c d w htail hmore
    rw [← hw, List.prefix_append_right_inj] at hbegins
    rcases List.prefix_or_prefix_of_prefix hbegins (List.prefix_append d.marker rest) with h | h
    · exact hinside h
    · exact haround h

theorem textAfter?_append_marker (hfront : ¬c.marker <:+: front)
    (hline : '\n' ∉ front ++ (d.marker ++ rest)) :
    textAfter? c.marker (front ++ (d.marker ++ rest)) = textAfter? c.marker (d.marker ++ rest) := by
  have hmarker := c.isMarker_marker
  have hmarked : '\n' ∉ d.marker ++ rest := fun hmem => hline (List.mem_append_right front hmem)
  have hsaid : said c.marker (front ++ (d.marker ++ rest)) = said c.marker (d.marker ++ rest) :=
    said_append_of_forall_not_isPrefix hmarker fun _ hv hne =>
      not_isPrefix_append_marker hfront hv hne
  rw [said_run hmarker hline, said_run hmarker hmarked] at hsaid
  simpa only [Option.head?_toList] using congrArg List.head? hsaid

theorem textAfter?_other_marker_append (hne : c ≠ d) (rest : Text) :
    textAfter? c.marker (d.marker ++ rest) = textAfter? c.marker rest := by
  cases c with
  | output =>
      cases d with
      | output => exact absurd rfl hne
      | error => rfl
  | error =>
      cases d with
      | output => rfl
      | error => exact absurd rfl hne

theorem textAfter?_text (c : Channel) (l : NotedLine) :
    textAfter? c.marker l.text = l.noteFor c := by
  have hfront := l.front_clear c
  have hline := l.newline_not_mem_text
  rw [NotedLine.text] at hline ⊢
  rw [NotedLine.noteFor]
  cases hnote : l.note with
  | none =>
      rw [Option.elim_none, List.append_nil, textAfter?_eq_none_iff.mpr hfront]
      rfl
  | some n =>
      rw [hnote, Option.elim_some] at hline
      rw [Option.elim_some, textAfter?_append_marker hfront hline]
      by_cases hchannel : n.channel = c
      · rw [hchannel, textAfter?_append_self c.isMarker_marker.ne_nil,
          Option.filter_some_pos (by simpa using hchannel)]
        rfl
      · rw [textAfter?_other_marker_append (Ne.symm hchannel),
          textAfter?_eq_none_iff.mpr (l.note_clear n hnote c (Ne.symm hchannel)),
          Option.filter_some_neg (by simpa using hchannel)]
        rfl

/-! ### What is read of a test -/

theorem said_flatMap_written (c : Channel) (ls : List NotedLine) :
    said c.marker (ls.flatMap NotedLine.written) = ls.filterMap (·.noteFor c) := by
  rw [said, NotedLine.lines_flatMap_written, List.filterMap_map]
  exact List.filterMap_congr fun l _ => textAfter?_text c l

theorem said_append {marker a : Text} (hend : a = [] ∨ a.getLast? = some '\n') (b : Text) :
    said marker (a ++ b) = said marker a ++ said marker b := by
  rw [said, Text.lines_append hend, List.filterMap_append, said, said]

theorem noteFor_eq_none_iff (l : NotedLine) :
    l.noteFor c = none ↔ ∀ n ∈ l.note, n.channel ≠ c := by
  rw [NotedLine.noteFor, Option.map_eq_none_iff, Option.filter_eq_none_iff]
  simp

/-- The notes of a test are what it expects, stream by stream and in order, and the expectations of two
tests put together are those of the first and then those of the second. -/
theorem ofText_written (ls : List NotedLine) :
    Expectations.ofText (ls.flatMap NotedLine.written) =
        ⟨ls.filterMap (·.noteFor .output), ls.filterMap (·.noteFor .error)⟩ ∧
      ((Expectations.ofText (ls.flatMap NotedLine.written)).status.code = 65 ↔
        ∃ l ∈ ls, ∃ n ∈ l.note, n.channel = .error) ∧
      ∀ a b : Text, (a = [] ∨ a.getLast? = some '\n') →
        Expectations.ofText (a ++ b) =
          ⟨(Expectations.ofText a).stdout ++ (Expectations.ofText b).stdout,
            (Expectations.ofText a).stderr ++ (Expectations.ofText b).stderr⟩ := by
  have hread : Expectations.ofText (ls.flatMap NotedLine.written) =
      ⟨ls.filterMap (·.noteFor .output), ls.filterMap (·.noteFor .error)⟩ := by
    rw [Expectations.mk.injEq]
    exact ⟨said_flatMap_written .output ls, said_flatMap_written .error ls⟩
  refine ⟨hread, ?_, ?_⟩
  · rw [code_status_eq_iff, hread, Ne, List.filterMap_eq_nil_iff]
    simp [noteFor_eq_none_iff]
  · intro a b hend
    rw [Expectations.mk.injEq]
    exact ⟨said_append hend b, said_append hend b⟩

/-- A line whose slash stands in front of a marker with no text behind it, one with most of a marker in
front of another one that repeats itself, one that states nothing, and again a marker repeated. -/
def fourLines : List NotedLine :=
  [⟨"/".toList, some ⟨.output, []⟩, false, by decide, by decide, by decide, by decide⟩,
    ⟨"// expect".toList, some ⟨.error, "// expect error: x\ry".toList⟩, true, by decide, by decide,
      by decide, by decide⟩,
    ⟨"+;".toList, none, true, by decide, by decide, by decide, by decide⟩,
    ⟨[], some ⟨.output, "// expect: a".toList⟩, false, by decide, by decide, by decide, by decide⟩]

theorem ofText_written_of_four_lines :
    fourLines.flatMap NotedLine.written =
      ("/// expect: \n// expect// expect error: // expect error: x\ry\r\n+;\r\n" ++
        "// expect: // expect: a\n").toList ∧
    Expectations.ofText (fourLines.flatMap NotedLine.written) =
      ⟨["", "// expect: a"].map String.toList, ["// expect error: x\ry".toList]⟩ ∧
    (Expectations.ofText (fourLines.flatMap NotedLine.written)).status.code = 65 ∧
    "(\n".toList.getLast? = some '\n' ∧
    Expectations.ofText ("(\n".toList ++ fourLines.flatMap NotedLine.written) =
      ⟨["", "// expect: a"].map String.toList, ["// expect error: x\ry".toList]⟩ := by
  obtain ⟨hread, hcode, happend⟩ := ofText_written fourLines
  have hnotes : (⟨fourLines.filterMap (·.noteFor .output), fourLines.filterMap (·.noteFor .error)⟩ :
      Expectations) = ⟨["", "// expect: a"].map String.toList, ["// expect error: x\ry".toList]⟩ := by
    decide
  refine ⟨by decide +kernel, hread.trans hnotes, hcode.mpr (by decide), by decide, ?_⟩
  rw [happend "(\n".toList _ (Or.inr (by decide)), hread.trans hnotes]
  decide +kernel

end Golden

end LoxTokens
