import LoxTokens.Proofs.Golden.Markers
import LoxTokens.Proofs.Seam
import LoxTokens.Proofs.Text.Lines
import Mathlib.Data.List.Forall2

/-!
# Markers and comments

A golden test is read line by line and without regard to what the scanner makes of it, and yet it
says what its comments say. A marker begins with two slashes, so outside of a string it can only
begin where a comment does or inside one; it has no line feed and no quote, so it ends where the
comment or the string ends at the latest. As long as no string holds a marker, the text of every
other piece can be taken away from the front of a test without a change to what is read there.
-/

namespace LoxTokens

namespace Golden

/-- What markers have in common. -/
structure IsMarker (marker : Text) : Prop where
  slashes : ['/', '/'] <+: marker
  quote : '"' ∉ marker
  newline : '\n' ∉ marker
  carriageReturn : '\r' ∉ marker

theorem isMarker_outputMarker : IsMarker outputMarker := by
  constructor <;> decide

theorem isMarker_errorMarker : IsMarker errorMarker := by
  constructor <;> decide

namespace IsMarker

variable {marker s after : Text} {c : Char}

theorem ne_nil (hmarker : IsMarker marker) : marker ≠ [] := by
  obtain ⟨rest, rfl⟩ := hmarker.slashes
  exact List.cons_ne_nil _ _

theorem getLast?_ne (hmarker : IsMarker marker) : marker.getLast? ≠ some '\r' :=
  fun hlast => hmarker.carriageReturn (List.mem_of_getLast? hlast)

/-- Nothing begins with a marker but what begins with two slashes. -/
theorem slashes_of_isPrefix (hmarker : IsMarker marker) (hmark : marker <+: c :: s) :
    c = '/' ∧ s.head? = some '/' := by
  obtain ⟨rest, htext⟩ := hmarker.slashes.trans hmark
  cases htext
  exact ⟨rfl, rfl⟩

end IsMarker

section Reading

variable {marker s run rest front after : Text} {c : Char}

/-! ### What is said on a line -/

theorem textAfter?_cons_of_not_isPrefix (hnot : ¬marker <+: c :: s) :
    textAfter? marker (c :: s) = textAfter? marker s := by
  rw [textAfter?, if_neg]
  rwa [List.isPrefixOf_iff_prefix]

theorem textAfter?_nil (hne : marker ≠ []) : textAfter? marker [] = none :=
  if_neg hne

/-- No other occurrence begins further in front than the one that is read. -/
theorem exists_first_of_textAfter? {said : Text} (hsaid : textAfter? marker s = some said) :
    ∃ front, s = front ++ marker ++ said ∧
      ∀ other more, s = other ++ marker ++ more → front.length ≤ other.length := by
  induction s with
  | nil =>
      rw [textAfter?] at hsaid
      split at hsaid
      · next hnil =>
          cases hsaid
          exact ⟨[], by rw [hnil]; rfl, fun _ _ _ => Nat.zero_le _⟩
      · cases hsaid
  | cons c s ih =>
      by_cases hmark : marker <+: c :: s
      · obtain ⟨rest, htext⟩ := hmark
        refine ⟨[], ?_, fun _ _ _ => Nat.zero_le _⟩
        rw [textAfter?, if_pos (by rw [List.isPrefixOf_iff_prefix]; exact ⟨rest, htext⟩), ← htext,
          List.drop_left] at hsaid
        rw [← htext, ← Option.some.inj hsaid]
        rfl
      · rw [textAfter?_cons_of_not_isPrefix hmark] at hsaid
        obtain ⟨front, rfl, hfirst⟩ := ih hsaid
        refine ⟨c :: front, rfl, ?_⟩
        intro other more htext
        cases other with
        | nil => exact absurd ⟨more, htext.symm⟩ hmark
        | cons d other =>
            rw [List.cons_append, List.cons_append, List.cons.injEq] at htext
            exact Nat.succ_le_succ (hfirst other more htext.2)

theorem textAfter?_withoutReturn (hmarker : IsMarker marker) (s : Text) :
    textAfter? marker (Text.withoutReturn s) = (textAfter? marker s).map Text.withoutReturn := by
  have hnil := textAfter?_nil hmarker.ne_nil
  induction s with
  | nil =>
      rw [hnil]
      exact hnil
  | cons c s ih =>
      by_cases hmark : marker <+: c :: s
      · obtain ⟨rest, htext⟩ := hmark
        rw [← htext, Text.withoutReturn_append fun _ => hmarker.getLast?_ne,
          textAfter?_append_self hmarker.ne_nil, textAfter?_append_self hmarker.ne_nil]
        rfl
      · rw [textAfter?_cons_of_not_isPrefix hmark]
        by_cases hreturn : c :: s = ['\r']
        · cases hreturn
          rw [hnil]
          exact hnil
        · have hlast : s = [] → [c].getLast? ≠ some '\r' := by
            rintro rfl hlast
            exact hreturn (congrArg (fun c => [c]) (Option.some.inj hlast))
          have hkept : Text.withoutReturn (c :: s) = c :: Text.withoutReturn s :=
            Text.withoutReturn_append hlast
          have hshort : Text.withoutReturn (c :: s) <+: c :: s := Text.withoutReturn_isPrefix _
          rw [hkept] at hshort ⊢
          rw [textAfter?_cons_of_not_isPrefix fun hbegins => hmark (hbegins.trans hshort), ih]

/-- What the lines of a text say. -/
def said (marker s : Text) : List Text :=
  s.lines.filterMap (textAfter? marker)

theorem said_run (hmarker : IsMarker marker) (hrun : '\n' ∉ run) :
    said marker run = (textAfter? marker run).toList := by
  by_cases hnil : run = []
  · rw [hnil, textAfter?_nil hmarker.ne_nil]
    rfl
  · rw [said, Text.lines_run hrun hnil, List.filterMap_eq_flatMap_toList, List.flatMap_singleton]

theorem said_run_append (hmarker : IsMarker marker) (hrun : '\n' ∉ run) (rest : Text) :
    said marker (run ++ '\n' :: rest) =
      ((textAfter? marker run).map Text.withoutReturn).toList ++ said marker rest := by
  rw [said, said, Text.lines_run_append hrun, ← textAfter?_withoutReturn hmarker,
    List.filterMap_eq_flatMap_toList, List.flatMap_cons, ← List.filterMap_eq_flatMap_toList]

theorem said_cons_of_not_isPrefix (hmarker : IsMarker marker) (hnot : ¬marker <+: c :: s) :
    said marker (c :: s) = said marker s := by
  by_cases hfeed : c = '\n'
  · subst hfeed
    have hempty := said_run_append hmarker (List.not_mem_nil (a := '\n')) s
    rwa [textAfter?_nil hmarker.ne_nil] at hempty
  · induction s using cutAfter_induction '\n' with
    | last run hrun =>
        rw [said_run hmarker hrun, said_run hmarker (by simp [hrun, Ne.symm hfeed]),
          textAfter?_cons_of_not_isPrefix hnot]
    | piece run rest hrun _ =>
        have hline : ¬marker <+: c :: run :=
          fun hbegins => hnot (hbegins.trans (List.prefix_append (c :: run) _))
        rw [said_run_append hmarker hrun, ← List.cons_append,
          said_run_append hmarker (by simp [hrun, Ne.symm hfeed]),
          textAfter?_cons_of_not_isPrefix hline]

/-- Text in which no marker begins can be taken away. -/
theorem said_append_of_forall_not_isPrefix (hmarker : IsMarker marker)
    (hnone : ∀ v, v <:+ front → v ≠ [] → ¬marker <+: v ++ after) :
    said marker (front ++ after) = said marker after := by
  induction front with
  | nil => rfl
  | cons c front ih =>
      have hhere : ¬marker <+: c :: (front ++ after) :=
        hnone (c :: front) List.suffix_rfl (List.cons_ne_nil c front)
      rw [List.cons_append, said_cons_of_not_isPrefix hmarker hhere]
      exact ih fun v hv => hnone v (hv.trans (List.suffix_cons c front))

theorem eq_slash_of_mem_spelling {m : Mark} (hslash : '/' ∈ m.spelling) : m = .slash := by
  revert hslash
  cases m <;> decide

theorem not_isPrefix_of_not_mem (hmarker : IsMarker marker) (hslash : '/' ∉ front) {v : Text}
    (hv : v <:+ front) (hne : v ≠ []) : ¬marker <+: v ++ after := by
  obtain ⟨c, v, rfl⟩ := List.exists_cons_of_ne_nil hne
  intro hbegins
  obtain ⟨rfl, -⟩ := hmarker.slashes_of_isPrefix hbegins
  exact hslash (hv.subset List.mem_cons_self)

theorem not_isPrefix_of_quoted (hmarker : IsMarker marker) {value v : Text}
    (hvalue : ¬marker <:+: value) (hv : v <:+ '"' :: value) : ¬marker <+: v := by
  intro hbegins
  rcases List.suffix_cons_iff.mp hv with rfl | hv
  · cases (hmarker.slashes_of_isPrefix hbegins).1
  · exact hvalue (hbegins.isInfix.trans hv.isInfix)

/-- A marker has no room in a piece but a comment or a string, and the end of a piece never lies
inside of one: a slash has no slash behind it, and a marker has no quote. -/
theorem not_isPrefix_of_fits (hmarker : IsMarker marker) {p : Piece} (hfits : p.Fits after)
    (hcomment : ∀ body, p ≠ .comment body)
    (hstring : ∀ value, p = .string value ∨ p = .unclosed value → ¬marker <:+: value)
    {v : Text} (hv : v <:+ p.text) (hne : v ≠ []) : ¬marker <+: v ++ after := by
  by_cases hslash : '/' ∈ p.text
  · cases hfits with
    | slash hafter =>
        rcases List.suffix_cons_iff.mp hv with rfl | hv
        · intro hbegins
          exact hafter (hmarker.slashes_of_isPrefix hbegins).2
        · exact absurd (List.suffix_nil.mp hv) hne
    | @string value _ _ =>
        -- What is left of the string ends in its quote.
        have hquoted : v <:+ ('"' :: value) ++ ['"'] := hv
        rcases List.suffix_concat_iff.mp hquoted with rfl | ⟨v, rfl, hshort⟩
        · exact absurd rfl hne
        · rw [List.append_assoc]
          intro hbegins
          exact not_isPrefix_of_quoted hmarker (hstring value (Or.inl rfl)) hshort
            (Text.isPrefix_of_isPrefix_append_cons hmarker.quote hbegins)
    | @unclosed tail _ =>
        rw [List.append_nil]
        exact not_isPrefix_of_quoted hmarker (hstring tail (Or.inr rfl)) hv
    | comment _ _ => exact absurd rfl (hcomment _)
    | punctuation hm =>
        obtain rfl := eq_slash_of_mem_spelling hslash
        exact absurd hm (by decide)
    | longOperator hm =>
        obtain rfl := eq_slash_of_mem_spelling hslash
        exact absurd hm (by decide)
    | shortOperator hm _ =>
        obtain rfl := eq_slash_of_mem_spelling hslash
        exact absurd hm (by decide)
    | blank hc =>
        obtain rfl := List.mem_singleton.mp hslash
        exact absurd hc (by decide)
    | stray hc =>
        obtain rfl := List.mem_singleton.mp hslash
        exact absurd (by decide) hc
  · exact not_isPrefix_of_not_mem hmarker hslash hv hne

theorem said_text_append (hmarker : IsMarker marker) {p : Piece} (hfits : p.Fits after)
    (hcomment : ∀ body, p ≠ .comment body)
    (hstring : ∀ value, p = .string value ∨ p = .unclosed value → ¬marker <:+: value) :
    said marker (p.text ++ after) = said marker after :=
  said_append_of_forall_not_isPrefix hmarker fun _ hv hne =>
    not_isPrefix_of_fits hmarker hfits hcomment hstring hv hne

end Reading

/-! ### Comments -/

/-- A comment of a source, with its two slashes, and whether a line feed follows it. -/
structure Comment where
  text : Text
  ended : Bool
deriving DecidableEq

def comments : List Piece → List Comment
  | [] => []
  | .comment body :: pieces =>
      ⟨(Piece.comment body).text, (Piece.joined pieces).head? = some '\n'⟩ :: comments pieces
  | _ :: pieces => comments pieces

namespace Comment

/-- The comment's entry under a marker: what follows the marker where it stands first, and if a line
feed follows the comment, without a carriage return at its end. -/
def Says (marker : Text) (c : Comment) (entry : Text) : Prop :=
  ∃ front said, c.text = front ++ marker ++ said ∧
    (∀ other more, c.text = other ++ marker ++ more → front.length ≤ other.length) ∧
    entry = if c.ended then said.withoutReturn else said

def said? (marker : Text) (c : Comment) : Option Text :=
  (textAfter? marker c.text).map fun said => if c.ended then said.withoutReturn else said

theorem said?_eq_none_iff {marker : Text} {c : Comment} :
    c.said? marker = none ↔ ¬marker <:+: c.text := by
  rw [said?, Option.map_eq_none_iff, textAfter?_eq_none_iff]

theorem says_of_said? {marker entry : Text} {c : Comment} (hsaid : c.said? marker = some entry) :
    c.Says marker entry := by
  obtain ⟨said, htext, rfl⟩ := Option.map_eq_some_iff.mp hsaid
  obtain ⟨front, hfront, hfirst⟩ := exists_first_of_textAfter? htext
  exact ⟨front, said, hfront, hfirst, rfl⟩

/-- Each comment that holds the marker has one entry, in the order of the comments. -/
theorem forall₂_says (marker : Text) (cs : List Comment) :
    List.Forall₂ (Says marker) (cs.filter (marker <:+: ·.text)) (cs.filterMap (said? marker)) := by
  induction cs with
  | nil => exact .nil
  | cons c cs ih =>
      cases hsaid : c.said? marker with
      | none =>
          rw [List.filterMap_cons_none hsaid, List.filter_cons_of_neg]
          · exact ih
          · simpa using said?_eq_none_iff.mp hsaid
      | some entry =>
          rw [List.filterMap_cons_some hsaid, List.filter_cons_of_pos]
          · exact .cons (says_of_said? hsaid) ih
          · have hsome : c.said? marker ≠ none := hsaid ▸ Option.some_ne_none entry
            simpa using mt said?_eq_none_iff.mpr hsome

end Comment

section Agreement

variable {marker content : Text} {p : Piece} {pieces : List Piece}

theorem comments_cons_of_ne (hcomment : ∀ body, p ≠ .comment body) (pieces : List Piece) :
    comments (p :: pieces) = comments pieces := by
  cases p with
  | comment body => exact absurd rfl (hcomment body)
  | _ => rfl

/-- A comment says what it says and no more, and the line feed behind it is not a part of any
marker. -/
theorem said_comment_append (hmarker : IsMarker marker) {body after : Text}
    (hfits : (Piece.comment body).Fits after) :
    said marker ((Piece.comment body).text ++ after) =
      (Comment.said? marker ⟨(Piece.comment body).text, after.head? = some '\n'⟩).toList ++
        said marker after := by
  cases hfits with
  | comment hbody hafter =>
      have hrun : '\n' ∉ (Piece.comment body).text := by
        simpa [Piece.text] using hbody
      rcases hafter with rfl | hfeed
      · rw [List.append_nil, said_run hmarker hrun]
        simp [Comment.said?, said, Text.lines, cutAfter]
      · obtain ⟨rest, rfl⟩ := List.head?_eq_some_iff.mp hfeed
        have hnot : ¬marker <+: '\n' :: rest := by
          intro hbegins
          cases (hmarker.slashes_of_isPrefix hbegins).1
        rw [said_run_append hmarker hrun, said_cons_of_not_isPrefix hmarker hnot]
        simp [Comment.said?]

theorem code_status_eq_iff (expected : Expectations) :
    expected.status.code = 65 ↔ expected.stderr ≠ [] := by
  rw [Expectations.status]
  split
  · next hnone => exact iff_of_false (by decide) fun hne => hne hnone
  · next hne => exact iff_of_true rfl hne

theorem said_eq_comments (hmarker : IsMarker marker) (htiles : Piece.Tiles pieces content)
    (hstrings : ∀ value, .string value ∈ pieces ∨ .unclosed value ∈ pieces → ¬marker <:+: value) :
    said marker content = (comments pieces).filterMap (Comment.said? marker) := by
  induction htiles with
  | nil => rfl
  | @cons p pieces rest hfits hrest ih =>
      have hlater := ih fun value hvalue =>
        hstrings value (hvalue.imp (List.mem_cons_of_mem p) (List.mem_cons_of_mem p))
      by_cases hcomment : ∃ body, p = .comment body
      · obtain ⟨body, rfl⟩ := hcomment
        rw [said_comment_append hmarker hfits, hlater, comments, hrest.joined_eq,
          List.filterMap_eq_flatMap_toList, List.filterMap_eq_flatMap_toList, List.flatMap_cons]
      · rw [not_exists] at hcomment
        rw [comments_cons_of_ne hcomment, ← hlater]
        refine said_text_append hmarker hfits hcomment fun value hp => hstrings value ?_
        rcases hp with rfl | rfl
        · exact Or.inl List.mem_cons_self
        · exact Or.inr List.mem_cons_self

/-- What a test expects is what its comments say, entry by entry, unless a string holds a marker. -/
theorem expectations_of_comments (content : Text)
    (hstrings : ∀ value, .string value ∈ Piece.cut content ∨ .unclosed value ∈ Piece.cut content →
      ¬outputMarker <:+: value ∧ ¬errorMarker <:+: value) :
    List.Forall₂ (Comment.Says outputMarker)
      ((comments (Piece.cut content)).filter (outputMarker <:+: ·.text))
      (Expectations.ofText content).stdout ∧
    List.Forall₂ (Comment.Says errorMarker)
      ((comments (Piece.cut content)).filter (errorMarker <:+: ·.text))
      (Expectations.ofText content).stderr ∧
    ((Expectations.ofText content).status.code = 65 ↔
      ∃ c ∈ comments (Piece.cut content), errorMarker <:+: c.text) := by
  have hstdout : (Expectations.ofText content).stdout =
      (comments (Piece.cut content)).filterMap (Comment.said? outputMarker) :=
    said_eq_comments isMarker_outputMarker (Piece.tiles_cut content) fun value hvalue =>
      (hstrings value hvalue).1
  have hstderr : (Expectations.ofText content).stderr =
      (comments (Piece.cut content)).filterMap (Comment.said? errorMarker) :=
    said_eq_comments isMarker_errorMarker (Piece.tiles_cut content) fun value hvalue =>
      (hstrings value hvalue).2
  refine ⟨?_, ?_, ?_⟩
  · rw [hstdout]
    exact Comment.forall₂_says outputMarker _
  · rw [hstderr]
    exact Comment.forall₂_says errorMarker _
  · rw [code_status_eq_iff, hstderr, Ne, List.filterMap_eq_nil_iff]
    simp [Comment.said?_eq_none_iff]

/-- A string with all of a marker but its blank, three slashes, one marker in the other's entry, and
a carriage return where the text ends. -/
theorem expectations_of_comments_to_the_end :
    Expectations.ofText
        "\"// expect:\" /// expect: x // expect error: y\r\n@// expect: z\r".toList =
      ⟨["x // expect error: y", "z\r"].map String.toList, ["y".toList]⟩ ∧
    List.Forall₂ (Comment.Says outputMarker)
      [⟨"/// expect: x // expect error: y\r".toList, true⟩, ⟨"// expect: z\r".toList, false⟩]
      (["x // expect error: y", "z\r"].map String.toList) ∧
    List.Forall₂ (Comment.Says errorMarker)
      [⟨"/// expect: x // expect error: y\r".toList, true⟩] ["y".toList] := by
  have hcut : Piece.cut
        "\"// expect:\" /// expect: x // expect error: y\r\n@// expect: z\r".toList =
      [.string "// expect:".toList, .blank ' ', .comment "/ expect: x // expect error: y\r".toList,
        .blank '\n', .stray '@', .comment " expect: z\r".toList] := by decide +kernel
  have hexpected : Expectations.ofText
        "\"// expect:\" /// expect: x // expect error: y\r\n@// expect: z\r".toList =
      ⟨["x // expect error: y", "z\r"].map String.toList, ["y".toList]⟩ := by decide +kernel
  obtain ⟨hstdout, hstderr, -⟩ := expectations_of_comments
      "\"// expect:\" /// expect: x // expect error: y\r\n@// expect: z\r".toList (by
    intro value hvalue
    rw [hcut] at hvalue
    simp only [List.mem_cons, List.not_mem_nil, or_false, reduceCtorEq,
      Piece.string.injEq] at hvalue
    subst hvalue
    decide)
  rw [hexpected, hcut] at hstdout hstderr
  exact ⟨hexpected, hstdout, hstderr⟩

end Agreement

end Golden

end LoxTokens
