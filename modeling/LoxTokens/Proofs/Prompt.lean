import LoxTokens.Proofs.LineByLine
import LoxTokens.Proofs.Silent
import LoxTokens.Proofs.Utf8.Inverse
import LoxTokens.Run.Prompt

/-!
# The prompt and the script

The prompt reads bytes up to a line feed and takes them for a text, the script takes all bytes for
one. No byte of a longer character looks like a line feed, so the two agree on what is a text, and
the lines of the bytes are the lines of the text. The prompt is on line 1 with each of them. The script
counts, so it only says the same of a line that has a number.
-/

namespace LoxTokens

namespace Utf8

variable {b : UInt8} {c : Char} {bytes : Bytes}

/-! ### Lines of bytes -/

/-- No byte of a longer character is one that can stand for itself. -/
theorem le_toNat_of_mem_utf8EncodeChar (hc : 0x80 ≤ c.val.toNat)
    (hb : b ∈ String.utf8EncodeChar c) : 0x80 ≤ b.toNat := by
  unfold String.utf8EncodeChar at hb
  dsimp only at hb
  split_ifs at hb with hone htwo hthree <;>
    simp only [List.mem_cons, List.not_mem_nil, or_false] at hb
  · omega
  · rcases hb with rfl | rfl <;> rw [UInt8.toNat_ofNat'] <;> omega
  · rcases hb with rfl | rfl | rfl <;> rw [UInt8.toNat_ofNat'] <;> omega
  · rcases hb with rfl | rfl | rfl | rfl <;> rw [UInt8.toNat_ofNat'] <;> omega

theorem eq_newline_of_mem_utf8EncodeChar (hmem : 0x0A ∈ String.utf8EncodeChar c) : c = '\n' := by
  by_cases hc : 0x80 ≤ c.val.toNat
  · exact absurd (le_toNat_of_mem_utf8EncodeChar hc hmem) (by decide)
  · have hsize : UInt8.size = 256 := rfl
    rw [String.utf8EncodeChar, if_pos (by omega), List.mem_singleton] at hmem
    have hten := congrArg UInt8.toNat hmem
    rw [UInt8.toNat_ofNat_of_lt' (by omega)] at hten
    exact Char.ext (UInt32.toNat_inj.mp hten.symm)

theorem cutAfter_encode (s : Text) : cutAfter 0x0A (encode s) = (cutAfter '\n' s).map encode := by
  have hfeed : String.utf8EncodeChar '\n' = [0x0A] := rfl
  refine cutAfter_flatMap hfeed ?_ s
  intro c hc
  have hpos : 0 < (String.utf8EncodeChar c).length := by
    rw [String.length_utf8EncodeChar]
    exact c.utf8Size_pos
  exact ⟨List.ne_nil_of_length_pos hpos, fun hmem => hc (eq_newline_of_mem_utf8EncodeChar hmem)⟩

end Utf8

namespace Run

variable {b : Build} {filter : Log.Filter} {reporter : Reporter}

/-! ### The two runs -/

/-- A line that is a text leaves a console as it was at the start, whatever is reported of it. -/
theorem answerLine_encode (filter : Log.Filter) (hadError : Bool) (line : Text) :
    answerLine filter (.console hadError) (Utf8.encode line) =
      .ok ⟨listing line, notices filter line, freshReporter⟩ := by
  rw [answerLine, Utf8.decode_encode]
  dsimp only
  rw [Reporter.hear, Reporter.foldl_report_console]
  rfl

theorem promptLines_map_encode (filter : Log.Filter) (lines : List Text) (rest : List Bytes) :
    promptLines filter freshReporter (lines.map Utf8.encode ++ rest) =
      (promptLines filter freshReporter rest).after
        (lines.flatMap fun line => promptMark ++ listing line) (lines.flatMap (notices filter)) := by
  induction lines with
  | nil => rfl
  | cons line lines ih =>
      have hanswer : answerLine filter freshReporter (Utf8.encode line) = _ :=
        answerLine_encode filter false line
      rw [List.map_cons, List.cons_append, promptLines, hanswer]
      dsimp only
      rw [ih]
      simp [Outcome.after]

theorem lt_size_of_mem_cutAfter {source line : Text} (hline : line ∈ cutAfter '\n' source) :
    1 + line.newlines < UInt32.size := by
  rw [Scan.newlines_of_mem_cutAfter hline]
  split <;> decide

/-- The reports that a console shows, by their numbers and messages. -/
theorem flatMap_listing_eq (found : List Diagnostic) :
    (found.flatMap fun d => d.listing ++ ['\n']) =
      (found.map fun d => (d.line.toNat, d.message)).flatMap fun report =>
        "[line ".toList ++ Text.decimal report.1 ++ "] Error: ".toList ++ report.2 ++ ['\n'] := by
  rw [List.flatMap_map]
  rfl

end Run

end LoxTokens
