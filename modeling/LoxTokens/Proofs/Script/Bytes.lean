import LoxTokens.Proofs.InPlace.Run
import LoxTokens.Proofs.Script
import LoxTokens.Proofs.Utf8.Malformed

/-!
# Runs over bytes

A script is decoded as a whole before anything else is done with it. If its bytes are a text, all of
its tokens are listed and all of its faults reported, and the status tells whether there were any.
If they are not, nothing is listed and nothing reported: the run names the bytes and the place up to
which they are a text, and that is all it leaves behind.
-/

namespace LoxTokens

namespace Description

theorem inlineParts_eq_intercalate (parts : List Description) :
    inlineParts parts = ", ".toList.intercalate (parts.map inline) := by
  induction parts with
  | nil => rw [inlineParts, List.map_nil, List.intercalate_nil]
  | cons part parts ih =>
      cases parts with
      | nil => rw [inlineParts, List.map_singleton, List.intercalate_singleton]
      | cons next parts =>
          rw [inlineParts, ih, List.map_cons, List.map_cons, List.map_cons,
            List.intercalate_cons_cons]

theorem inline_list (items : List Description) :
    (list items).inline = ['['] ++ ", ".toList.intercalate (items.map inline) ++ [']'] := by
  simp [list, inline, inlineParts_eq_intercalate, Brackets.opening, Brackets.closing,
    Brackets.padding]

theorem inline_record (name : String) (fields : List (String × Description)) :
    (record name fields).inline =
      name.toList ++ " \x7b ".toList ++
        ", ".toList.intercalate
          (fields.map fun field => field.1.toList ++ ": ".toList ++ field.2.inline) ++
        " \x7d".toList := by
  simp [record, inline, inlineParts_eq_intercalate, Brackets.opening, Brackets.closing,
    Brackets.padding, Function.comp_def]

end Description

namespace Failure

/-- The length of the sequence that was begun in vain, as the reason of a failure names it. -/
def lengthText (length : Option Nat) : Text :=
  length.elim "None".toList fun n => "Some".toList ++ ['('] ++ Text.decimal n ++ [')']

theorem inline_optional_number (length : Option Nat) :
    (Description.optional (length.map .number)).inline = lengthText length := by
  cases length with
  | none => rfl
  | some n =>
      change (Description.applied "Some" (.number n)).inline = _
      simp [Description.applied, Description.inline, Description.inlineParts, Description.number,
        Brackets.opening, Brackets.closing, Brackets.padding, lengthText]

theorem inline_describe_undecodable (bytes : Bytes) (fault : Utf8.Malformed) :
    (undecodable bytes fault).describe.inline =
      "FromUtf8Error \x7b bytes: [".toList ++
        ", ".toList.intercalate (bytes.map fun b => Text.decimal b.toNat) ++
        "], error: Utf8Error \x7b valid_up_to: ".toList ++ Text.decimal fault.validUpTo ++
        ", error_len: ".toList ++ lengthText fault.badLength ++ " \x7d \x7d".toList := by
  rw [describe, Description.inline_record]
  simp [Description.inline_list, Utf8.Malformed.describe, Description.inline_record,
    inline_optional_number, Description.number, Description.inline, Function.comp_def]

end Failure

theorem Notice.listing_failure (reason : Failure) :
    (failure reason).listing = "Error: ".toList ++ reason.describe.inline ++ ['\n'] := rfl

namespace Run

/-- A script that is a text is listed and reported in full, and any other bytes are refused as a
whole, at the end of the longest text in front. -/
theorem script_all_or_nothing (bytes : Bytes) :
    (∀ source : String, bytes = Utf8.encode source.toList →
      ∃ result, InPlace.Yields source result ∧
        (script (.atLeast .warn) bytes).stdout =
          result.tokens.flatMap (fun t => t.listing ++ ['\n']) ∧
        (script (.atLeast .warn) bytes).stderr =
          (result.diagnostics.flatMap fun d =>
            "[line ".toList ++ Text.decimal d.line.toNat ++ "] Error: ".toList ++ d.message ++
              ['\n']) ∧
        (script (.atLeast .warn) bytes).status.code =
          if result.diagnostics = [] then 0 else 65) ∧
    ((∀ source : String, bytes ≠ Utf8.encode source.toList) →
      ∃ fault : Utf8.Malformed,
        script (.atLeast .warn) bytes = ⟨[], [.failure (.undecodable bytes fault)], .failure⟩ ∧
        (script (.atLeast .warn) bytes).status.code = 1 ∧
        (script (.atLeast .warn) bytes).stderr =
          "Error: ".toList ++ "FromUtf8Error \x7b bytes: [".toList ++
            ", ".toList.intercalate (bytes.map fun b => Text.decimal b.toNat) ++
            "], error: Utf8Error \x7b valid_up_to: ".toList ++ Text.decimal fault.validUpTo ++
            ", error_len: ".toList ++ Failure.lengthText fault.badLength ++
            " \x7d \x7d".toList ++ ['\n'] ∧
        IsGreatest {n | n ≤ bytes.length ∧ ∃ s, bytes.take n = Utf8.encode s} fault.validUpTo ∧
        (fault.badLength = none ↔
          ∃ c, bytes.drop fault.validUpTo <+: String.utf8EncodeChar c ∧
            bytes.drop fault.validUpTo ≠ String.utf8EncodeChar c)) := by
  constructor
  · rintro source rfl
    refine ⟨_, InPlace.yields_scan source, ?_, ?_, ?_⟩
    · rw [script_encode]
      rfl
    · rw [script_encode, stderr_atLeast_warn, InPlace.Result.diagnostics,
        Scan.filterMap_diagnostic?_emissions]
      rfl
    · rw [script_encode, status_ofText, InPlace.Result.diagnostics,
        Scan.filterMap_diagnostic?_emissions]
      apply apply_ite
  · intro hnone
    cases hread : Utf8.decode bytes with
    | ok s =>
        have hbytes := Utf8.decode_eq_ok_iff.mp hread
        exact absurd hbytes (by simpa using hnone (String.ofList s))
    | error fault =>
        have hscript : script (.atLeast .warn) bytes =
            ⟨[], [.failure (.undecodable bytes fault)], .failure⟩ :=
          scriptBy_of_error hread
        refine ⟨fault, hscript, ?_, ?_, Utf8.malformed_of_decode hread⟩
        · rw [hscript]
          rfl
        · rw [hscript, Outcome.stderr, List.flatMap_singleton]
          simp only [Notice.listing_failure, Failure.inline_describe_undecodable,
            List.append_assoc]

/-- A string of two lines and a stray letter are a text. The bytes of a surrogate are refused at the
first of them, and what ends inside a character is refused at the end. -/
theorem script_all_or_nothing_on_three_scripts :
    ((script (.atLeast .warn) (Utf8.encode "\"a\n\" é".toList)).stdout =
        "STRING \"a\n\" a\n\nEOF  null\n".toList ∧
      (script (.atLeast .warn) (Utf8.encode "\"a\n\" é".toList)).status.code = 65) ∧
    (script (.atLeast .warn) [0x2B, 0xED, 0xA0, 0x80]).stderr =
      "Error: FromUtf8Error \x7b bytes: [43, 237, 160, 128], ".toList ++
        "error: Utf8Error \x7b valid_up_to: 1, error_len: Some(1) \x7d \x7d\n".toList ∧
    (script (.atLeast .warn) [0x2B, 0xE2, 0x82]).stderr =
      "Error: FromUtf8Error \x7b bytes: [43, 226, 130], ".toList ++
        "error: Utf8Error \x7b valid_up_to: 1, error_len: None \x7d \x7d\n".toList := by
  have hrefused : ∀ bytes fault, Utf8.decode bytes = .error fault →
      (script (.atLeast .warn) bytes).stderr =
        (Notice.failure (.undecodable bytes fault)).listing := by
    intro bytes fault hread
    have hnone : ∀ source : String, bytes ≠ Utf8.encode source.toList := by
      rintro source rfl
      rw [Utf8.decode_encode] at hread
      cases hread
    obtain ⟨found, hscript, -⟩ := (script_all_or_nothing bytes).2 hnone
    have hfound : fault = found := by
      simpa [script, scriptBy_of_error hread, Outcome.broken] using hscript
    rw [hscript, hfound, Outcome.stderr, List.flatMap_singleton]
  refine ⟨?_, ?_, ?_⟩
  · obtain ⟨result, hyields, hstdout, -, hstatus⟩ :=
      (script_all_or_nothing (Utf8.encode "\"a\n\" é".toList)).1 "\"a\n\" é" rfl
    obtain rfl := Except.ok.inj (hyields.wrapping.symm.trans (InPlace.scanCounting_wrapping _))
    rw [hstdout, hstatus]
    decide +kernel
  · rw [hrefused _ ⟨1, some 1⟩ (by decide +kernel)]
    decide +kernel
  · rw [hrefused _ ⟨1, none⟩ (by decide +kernel)]
    decide +kernel

end Run

end LoxTokens
