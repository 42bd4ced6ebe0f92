import LoxTokens.Proofs.Front
import LoxTokens.Proofs.InPlace.Run
import LoxTokens.Proofs.Prompt

/-!
# The prompt's loop

Between two lines the prompt has nothing to remember but its reporter and the lines that are left. The
reporter is always as it was at the start, so what the prompt writes is put together from lines that
know nothing of each other, as far as the lines are texts.
-/

namespace LoxTokens.Run

variable {filter : Log.Filter} {input : Bytes} {reporter : Reporter} {line : Text}
  {texts front back : List Text} {left rest : List Bytes}

/-- The prompt is about to read the first of the lines that are left. -/
inductive Waits (filter : Log.Filter) (input : Bytes) : Reporter → List Bytes → Prop
  | first : Waits filter input freshReporter (cutAfter 0x0A input)
  | again {reporter : Reporter} {line : Bytes} {left : List Bytes} {answer : Answer}
      (hwaits : Waits filter input reporter (line :: left))
      (hanswer : answerLine filter reporter line = .ok answer) :
      Waits filter input answer.reporter left

/-! ### One line -/

theorem eq_encode_of_answerLine {bytes : Bytes} {answer : Answer}
    (hanswer : answerLine filter freshReporter bytes = .ok answer) :
    answer.reporter = freshReporter ∧ ∃ line : Text, bytes = Utf8.encode line := by
  cases hread : Utf8.decode bytes with
  | error fault =>
      rw [answerLine, hread] at hanswer
      cases hanswer
  | ok line =>
      obtain rfl := Utf8.decode_eq_ok_iff.mp hread
      rw [freshReporter, answerLine_encode] at hanswer
      cases hanswer
      exact ⟨rfl, line, rfl⟩

/-- A line of the input, read as a text, is a single line. -/
theorem cutAfter_newline_of_encode_mem (hmem : Utf8.encode line ∈ cutAfter 0x0A input) :
    cutAfter '\n' line = [line] := by
  have hwhole := cutAfter_of_mem_cutAfter hmem
  rw [Utf8.cutAfter_encode] at hwhole
  exact List.map_injective_iff.mpr Utf8.encode_injective hwhole

theorem report_of_encode_mem (hmem : Utf8.encode line ∈ cutAfter 0x0A input) {d : Diagnostic}
    (hd : d ∈ Scan.diagnostics line) :
    d.message = "Unexpected character.".toList ∧ d.line = 1 ∨
      d.message = "Unterminated string.".toList ∧
        d.line = if line.getLast? = some '\n' then 2 else 1 := by
  have hline : line ∈ cutAfter '\n' line := by simp [cutAfter_newline_of_encode_mem hmem]
  rcases Scan.exists_piece_of_mem_diagnostics hline hd with ⟨c, -, rfl⟩ | ⟨tail, -, rfl⟩
  · exact Or.inl ⟨rfl, rfl⟩
  · refine Or.inr ⟨rfl, ?_⟩
    change UInt32.ofNat (1 + line.newlines) = _
    rw [Scan.newlines_of_mem_cutAfter hline]
    split <;> rfl

theorem scanCounting_of_encode_mem (hmem : Utf8.encode line ∈ cutAfter 0x0A input)
    (counting : InPlace.Counting) :
    InPlace.scanCounting counting (.ofList line) =
      .ok ⟨Scan.tokens line, Scan.emissions line⟩ := by
  have hline : line ∈ cutAfter '\n' line := by simp [cutAfter_newline_of_encode_mem hmem]
  have hshort := lt_size_of_mem_cutAfter hline
  exact InPlace.scanCounting_ofList_of_numbered counting (Or.inr hshort)

/-! ### All lines -/

theorem reporter_of_waits (hwaits : Waits filter input reporter left) :
    reporter = freshReporter := by
  induction hwaits with
  | first => rfl
  | again _ hanswer ih =>
      rw [ih] at hanswer
      exact (eq_encode_of_answerLine hanswer).1

theorem exists_after_of_waits (hwaits : Waits filter input reporter left) :
    ∃ stdout notices,
      prompt filter input = (promptLines filter reporter left).after stdout notices := by
  induction hwaits with
  | first => exact ⟨[], [], rfl⟩
  | @again reporter line left answer _ hanswer ih =>
      obtain ⟨stdout, notices, hprompt⟩ := ih
      refine ⟨stdout ++ (promptMark ++ answer.stdout), notices ++ answer.notices, ?_⟩
      rw [hprompt, promptLines, hanswer]
      simp [Outcome.after]

theorem waits_append (hlines : cutAfter 0x0A input = (front ++ back).map Utf8.encode ++ rest) :
    Waits filter input freshReporter (back.map Utf8.encode ++ rest) := by
  induction front using List.reverseRecOn generalizing back with
  | nil =>
      rw [List.nil_append] at hlines
      rw [← hlines]
      exact .first
  | append_singleton front line ih =>
      rw [List.append_assoc, List.singleton_append] at hlines
      exact .again (ih hlines) (answerLine_encode filter false line)

/-- The prompt goes around for the lines that are texts, and no further. -/
theorem waits_iff (hlines : cutAfter 0x0A input = texts.map Utf8.encode ++ rest)
    (hrest : ∀ bytes ∈ rest.head?, ∀ line, bytes ≠ Utf8.encode line) :
    Waits filter input reporter left ↔
      reporter = freshReporter ∧
        ∃ front back, texts = front ++ back ∧ left = back.map Utf8.encode ++ rest := by
  constructor
  · intro hwaits
    refine ⟨reporter_of_waits hwaits, ?_⟩
    induction hwaits with
    | first => exact ⟨[], texts, rfl, hlines⟩
    | again hwaits hanswer ih =>
        rw [reporter_of_waits hwaits] at hanswer
        obtain ⟨-, line, rfl⟩ := eq_encode_of_answerLine hanswer
        obtain ⟨front, back, htexts, hleft⟩ := ih
        cases back with
        | nil =>
            rw [List.map_nil, List.nil_append] at hleft
            exact absurd rfl (hrest (Utf8.encode line) (by rw [← hleft, List.head?_cons]; rfl) line)
        | cons next back =>
            rw [List.map_cons, List.cons_append] at hleft
            exact ⟨front ++ [next], back, by simp [htexts], (List.cons.inj hleft).2⟩
  · rintro ⟨rfl, front, back, rfl, rfl⟩
    exact waits_append hlines

theorem stderr_after (stdout : Text) (notices : List Notice) (outcome : Outcome) :
    (outcome.after stdout notices).stderr = notices.flatMap Notice.listing ++ outcome.stderr :=
  List.flatMap_append

theorem promptLines_of_head?_ne (hrest : ∀ bytes ∈ rest.head?, ∀ line, bytes ≠ Utf8.encode line) :
    promptLines filter reporter rest =
      if rest = [] then ⟨promptMark, [], .success⟩ else .broken promptMark .notText := by
  cases rest with
  | nil => rfl
  | cons bytes rest =>
      rw [if_neg (List.cons_ne_nil bytes rest), promptLines, answerLine]
      cases hread : Utf8.decode bytes with
      | error fault => rfl
      | ok line => exact absurd (Utf8.decode_eq_ok_iff.mp hread) (hrest bytes rfl line)

/-- A run over lines of which the first are texts and the next is not. -/
theorem prompt_of_lines (filter : Log.Filter)
    (hlines : cutAfter 0x0A input = texts.map Utf8.encode ++ rest)
    (hrest : ∀ bytes ∈ rest.head?, ∀ line, bytes ≠ Utf8.encode line) :
    prompt filter input =
      Outcome.after (texts.flatMap fun line => promptMark ++ listing line)
        (texts.flatMap (notices filter))
        (if rest = [] then ⟨promptMark, [], .success⟩ else .broken promptMark .notText) := by
  calc
    prompt filter input
      = promptLines filter freshReporter (texts.map Utf8.encode ++ rest) := by
        rw [prompt, hlines]
    _ = (promptLines filter freshReporter rest).after
          (texts.flatMap fun line => promptMark ++ listing line)
          (texts.flatMap (notices filter)) :=
        promptLines_map_encode filter texts rest
    _ = _ := by rw [promptLines_of_head?_ne hrest]

theorem listing_notText :
    Notice.listing (.failure .notText) =
      ("Error: Error \x7b kind: InvalidData, " ++
        "message: \"stream did not contain valid UTF-8\" \x7d\n").toList := by
  decide +kernel

/-- The prompt scans the lines of its input one by one, as sources of their own, up to the first that is
not a text. Whatever it has reported by then, its reporter has forgotten it before the next line. -/
theorem prompt_line_by_line (input : Bytes) :
    ∃ (texts : List Text) (rest : List Bytes),
      cutAfter 0x0A input = texts.map Utf8.encode ++ rest ∧
      (∀ bytes ∈ rest.head?, ∀ line, bytes ≠ Utf8.encode line) ∧
      (∀ line ∈ texts, ∀ counting,
        InPlace.scanCounting counting (.ofList line) =
          .ok ⟨Scan.tokens line, Scan.emissions line⟩) ∧
      (prompt (.atLeast .warn) input).stdout =
        (texts.flatMap fun line =>
          "> ".toList ++ (Scan.tokens line).flatMap fun t => t.listing ++ ['\n']) ++ "> ".toList ∧
      (prompt (.atLeast .warn) input).stderr =
        (texts.flatMap fun line =>
          (Scan.diagnostics line).flatMap fun d => d.listing ++ ['\n']) ++
          (if rest = [] then []
          else ("Error: Error \x7b kind: InvalidData, " ++
            "message: \"stream did not contain valid UTF-8\" \x7d\n").toList) ∧
      (prompt (.atLeast .warn) input).status.code = (if rest = [] then 0 else 1) ∧
      (∀ line ∈ texts, ∀ d ∈ Scan.diagnostics line,
        d.message = "Unexpected character.".toList ∧ d.line = 1 ∨
          d.message = "Unterminated string.".toList ∧
            d.line = if line.getLast? = some '\n' then 2 else 1) ∧
      ∀ reporter left,
        (Waits (.atLeast .warn) input reporter left → reporter.hadError = false ∧
          ∃ stdout notices, prompt (.atLeast .warn) input =
            (promptLines (.atLeast .warn) reporter left).after stdout notices) ∧
        (Waits (.atLeast .warn) input reporter left ↔ reporter = .console false ∧
          ∃ front back, texts = front ++ back ∧ left = back.map Utf8.encode ++ rest) := by
  obtain ⟨texts, rest, hlines, hrest⟩ := exists_map_append Utf8.encode (cutAfter 0x0A input)
  have hmem : ∀ line ∈ texts, Utf8.encode line ∈ cutAfter 0x0A input := by
    intro line hline
    rw [hlines]
    exact List.mem_append_left rest (List.mem_map_of_mem hline)
  have hprompt := prompt_of_lines (.atLeast .warn) hlines hrest
  refine ⟨texts, rest, hlines, hrest, ?_, ?_, ?_, ?_, ?_, ?_⟩
  · exact fun line hline counting => scanCounting_of_encode_mem (hmem line hline) counting
  · rw [hprompt]
    by_cases hall : rest = [] <;> simp only [hall, if_true, if_false] <;> rfl
  · rw [hprompt, stderr_after, List.flatMap_assoc, ← listing_notText]
    simp only [notices_atLeast_warn, List.flatMap_map]
    by_cases hall : rest = []
    · simp only [hall, if_true]
      rfl
    · simp only [hall, if_false, Outcome.stderr, Outcome.broken, List.flatMap_singleton]
      rfl
  · rw [hprompt]
    by_cases hall : rest = [] <;> simp only [hall, if_true, if_false] <;> rfl
  · exact fun line hline d hd => report_of_encode_mem (hmem line hline) hd
  · intro reporter left
    refine ⟨fun hwaits => ⟨?_, exists_after_of_waits hwaits⟩, waits_iff hlines hrest⟩
    rw [reporter_of_waits hwaits]
    rfl

end LoxTokens.Run
