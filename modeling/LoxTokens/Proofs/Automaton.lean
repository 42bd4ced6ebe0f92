import LoxTokens.Proofs.InPlace.Run
import LoxTokens.Proofs.Reading
import LoxTokens.Proofs.Script
import Mathlib.Computability.DFA

/-!
# The automaton of clean sources

Whether a source has anything wrong with it can be found out by an automaton that reads one character
after another and never looks ahead. It does not know marks apart: it only has to know whether it is
in a comment or a string, and whether the last character was a slash that may begin a comment. Where
the automaton goes astray is a parameter, since a stray character ends the hope for a clean source but
does not keep strings from being opened and closed.
-/

namespace LoxTokens

/-- Where the automaton is. -/
inductive Region where
  | code
  /-- Behind a slash that could be the first of two. -/
  | slash
  | comment
  | string
  | bad
deriving DecidableEq

namespace Region

instance : Fintype Region where
  elems := {code, slash, comment, string, bad}
  complete := by rintro ⟨⟩ <;> decide

/-- Where a character other than a slash leads from code. -/
def enter (astray : Region) (c : Char) : Region :=
  if c = '"' then
    string
  else if c ∈ ['(', ')', '\x7b', '\x7d', ',', '.', '-', '+', ';', '*', '!', '=', '<', '>', ' ',
      '\r', '\t', '\n'] then
    code
  else
    astray

def step (astray : Region) : Region → Char → Region
  | code, c => if c = '/' then slash else enter astray c
  | slash, c => if c = '/' then comment else enter astray c
  | comment, c => if c = '\n' then code else comment
  | string, c => if c = '"' then code else string
  | bad, _ => bad

end Region

open Region in
/-- The automaton; characters that begin nothing lead to `astray`. -/
def watcher (astray : Region) : DFA Char Region where
  step := step astray
  start := code
  accept := {code, slash, comment}

/-- Where a piece leaves the automaton. -/
def Piece.region (astray : Region) : Piece → Region
  | mark m => if m = .slash then .slash else .code
  | comment _ => .comment
  | blank _ => .code
  | string _ => .code
  | unclosed _ => .string
  | stray _ => astray

namespace Watcher

variable {astray q : Region} {p : Piece} {pieces : List Piece} {c : Char} {s rest : Text}

/-- What comes next is read as it is read in code. -/
def ReadsOn (astray q : Region) (rest : Text) : Prop :=
  ∀ c, rest.head? = some c → Region.step astray q c = Region.step astray .code c

/-! ### One piece -/

theorem evalFrom_of_forall_step (hstay : ∀ c ∈ s, Region.step astray q c = q) :
    (watcher astray).evalFrom q s = q := by
  induction s with
  | nil => rfl
  | cons c s ih =>
      rw [DFA.evalFrom_cons]
      change (watcher astray).evalFrom (Region.step astray q c) s = q
      rw [hstay c List.mem_cons_self]
      exact ih fun d hd => hstay d (List.mem_cons_of_mem c hd)

theorem evalFrom_bad (astray : Region) (s : Text) : (watcher astray).evalFrom .bad s = .bad :=
  evalFrom_of_forall_step fun _ _ => rfl

theorem evalFrom_comment (hfeed : '\n' ∉ s) :
    (watcher astray).evalFrom .comment s = .comment := by
  refine evalFrom_of_forall_step fun c hc => ?_
  have hne : c ≠ '\n' := fun heq => hfeed (heq ▸ hc)
  exact if_neg hne

theorem evalFrom_string (hquote : '"' ∉ s) : (watcher astray).evalFrom .string s = .string := by
  refine evalFrom_of_forall_step fun c hc => ?_
  have hne : c ≠ '"' := fun heq => hquote (heq ▸ hc)
  exact if_neg hne

theorem step_code_of_stray
    (hc : c ∉ ['(', ')', '\x7b', '\x7d', ',', '.', '-', '+', ';', '*', '!', '=', '<', '>', '/',
      ' ', '\r', '\t', '\n', '"']) : Region.step astray .code c = astray := by
  have hslash : c ≠ '/' := by
    rintro rfl
    exact hc (by decide)
  have hquote : c ≠ '"' := by
    rintro rfl
    exact hc (by decide)
  rw [Region.step, if_neg hslash, Region.enter, if_neg hquote, if_neg]
  intro hmem
  apply hc
  exact List.Sublist.subset (by decide) hmem

theorem evalFrom_code_text (astray : Region) (hfits : p.Fits rest) :
    (watcher astray).evalFrom .code p.text = p.region astray := by
  cases hfits with
  | @punctuation m _ hm => cases m <;> rfl
  | @longOperator m _ hm => cases m <;> rfl
  | @shortOperator m _ hm hafter => cases m <;> rfl
  | comment hbody hafter => exact evalFrom_comment hbody
  | slash hafter => rfl
  | blank hc =>
      simp only [List.mem_cons, List.not_mem_nil, or_false] at hc
      rcases hc with rfl | rfl | rfl | rfl <;> rfl
  | @string value _ hvalue =>
      change (watcher astray).evalFrom .string (value ++ ['"']) = .code
      rw [DFA.evalFrom_append_singleton, evalFrom_string hvalue]
      rfl
  | unclosed htail => exact evalFrom_string htail
  | stray hc => exact step_code_of_stray hc

theorem ReadsOn.evalFrom_text (hreads : ReadsOn astray q (p.text ++ rest)) (hfits : p.Fits rest) :
    (watcher astray).evalFrom q p.text = p.region astray := by
  rw [← evalFrom_code_text astray hfits]
  obtain ⟨c, more, htext⟩ := List.exists_cons_of_ne_nil p.text_ne_nil
  rw [htext] at hreads ⊢
  rw [DFA.evalFrom_cons, DFA.evalFrom_cons]
  exact congrArg (fun r => (watcher astray).evalFrom r more) (hreads c rfl)

/-- A piece that is not stray leaves the automaton where it reads on as in code: behind a slash no
second one comes, behind a comment only the line feed that ends it. -/
theorem readsOn_region (hfits : p.Fits rest) (hstray : ∀ c, p = .stray c → astray = .code) :
    ReadsOn astray (p.region astray) rest := by
  intro d hd
  cases hfits with
  | @punctuation m _ hm => cases m <;> first | rfl | exact absurd hm (by decide)
  | @longOperator m _ hm => cases m <;> first | rfl | exact absurd hm (by decide)
  | @shortOperator m _ hm hafter => cases m <;> first | rfl | exact absurd hm (by decide)
  | comment hbody hafter =>
      rcases hafter with rfl | hfeed
      · cases hd
      · rw [hfeed] at hd
        cases hd
        rfl
  | slash hafter =>
      have hne : d ≠ '/' := by
        rintro rfl
        exact hafter hd
      change (if d = '/' then Region.comment else _) = if d = '/' then Region.slash else _
      rw [if_neg hne, if_neg hne]
  | blank hc => rfl
  | string hvalue => rfl
  | unclosed htail => cases hd
  | @stray c _ hc =>
      rw [Piece.region, hstray c rfl]

/-! ### All pieces -/

/-- Where nothing leads astray, the automaton ends where the last piece leaves it. -/
theorem evalFrom_of_tiles (htiles : Piece.Tiles pieces s) (hreads : ReadsOn astray q s)
    (hstray : ∀ c, .stray c ∈ pieces → astray = .code) :
    (watcher astray).evalFrom q s = (pieces.getLast?.map (Piece.region astray)).getD q := by
  induction htiles generalizing q with
  | nil => rfl
  | @cons p pieces rest hfits _ ih =>
      have hnext : ReadsOn astray (p.region astray) rest := by
        refine readsOn_region hfits fun c hp => ?_
        exact hstray c (hp ▸ List.mem_cons_self)
      rw [DFA.evalFrom_of_append, hreads.evalFrom_text hfits,
        ih hnext fun c hc => hstray c (List.mem_cons_of_mem p hc), List.getLast?_cons]
      cases pieces.getLast? <;> rfl

/-- One stray character is enough for the automaton to end in the bad region. -/
theorem evalFrom_of_stray_mem (htiles : Piece.Tiles pieces s) (hreads : ReadsOn .bad q s)
    (hstray : .stray c ∈ pieces) : (watcher .bad).evalFrom q s = .bad := by
  induction htiles generalizing q with
  | nil => cases hstray
  | @cons p pieces rest hfits _ ih =>
      rw [DFA.evalFrom_of_append, hreads.evalFrom_text hfits]
      by_cases hp : ∃ d, p = .stray d
      · obtain ⟨d, rfl⟩ := hp
        exact evalFrom_bad .bad rest
      · refine ih (readsOn_region hfits fun d hd => absurd ⟨d, hd⟩ hp) ?_
        rcases List.mem_cons.mp hstray with heq | hmem
        · exact absurd ⟨c, heq.symm⟩ hp
        · exact hmem

/-! ### What the automaton knows of a source -/

theorem readsOn_code (astray : Region) (s : Text) : ReadsOn astray .code s :=
  fun _ _ => rfl

theorem region_mem_accept_iff (hstray : ∀ c, p ≠ .stray c) :
    p.region astray ∈ (watcher astray).accept ↔ p.complaint? = none := by
  cases p with
  | mark m =>
      rw [Piece.region]
      split
      · exact iff_of_true (Or.inr (Or.inl rfl)) rfl
      · exact iff_of_true (Or.inl rfl) rfl
  | comment body => exact iff_of_true (Or.inr (Or.inr rfl)) rfl
  | blank c => exact iff_of_true (Or.inl rfl) rfl
  | string value => exact iff_of_true (Or.inl rfl) rfl
  | unclosed tail =>
      refine iff_of_false ?_ (Option.some_ne_none _)
      rintro (heq | heq | heq) <;> cases heq
  | stray c => exact absurd rfl (hstray c)

theorem region_code_eq_string_iff : p.region .code = .string ↔ ∃ tail, p = .unclosed tail := by
  constructor
  · intro hregion
    cases p with
    | unclosed tail => exact ⟨tail, rfl⟩
    | mark m =>
        rw [Piece.region] at hregion
        split at hregion <;> cases hregion
    | _ => cases hregion
  · rintro ⟨tail, rfl⟩
    rfl

theorem complaint?_ne_none (hcomplaint : p.complaint? ≠ none) :
    (∃ c, p = .stray c) ∨ ∃ tail, p = .unclosed tail := by
  cases p with
  | stray c => exact Or.inl ⟨c, rfl⟩
  | unclosed tail => exact Or.inr ⟨tail, rfl⟩
  | _ => exact absurd rfl hcomplaint

theorem exists_front_of_unclosed_mem {tail : Text} (htiles : Piece.Tiles pieces s)
    (hmem : .unclosed tail ∈ pieces) :
    ∃ front, pieces = front ++ [.unclosed tail] ∧ ∀ other, .unclosed other ∉ front := by
  induction htiles with
  | nil => cases hmem
  | @cons p pieces rest hfits hrest ih =>
      by_cases hp : ∃ other, p = .unclosed other
      · obtain ⟨other, rfl⟩ := hp
        cases hfits
        rw [Piece.eq_cut_of_tiles hrest, Piece.cut_nil] at hmem ⊢
        rw [List.mem_singleton.mp hmem]
        exact ⟨[], rfl, fun _ => List.not_mem_nil⟩
      · rcases List.mem_cons.mp hmem with heq | hmem
        · exact absurd ⟨tail, heq.symm⟩ hp
        · obtain ⟨front, rfl, hfront⟩ := ih hmem
          refine ⟨p :: front, rfl, fun other hother => ?_⟩
          rcases List.mem_cons.mp hother with heq | hother
          · exact hp ⟨other, heq.symm⟩
          · exact hfront other hother

theorem getLast?_cut_eq_unclosed_iff {source tail : Text} :
    (Piece.cut source).getLast? = some (.unclosed tail) ↔ .unclosed tail ∈ Piece.cut source := by
  constructor
  · exact List.mem_of_getLast?
  · intro hmem
    obtain ⟨front, hcut, -⟩ := exists_front_of_unclosed_mem (Piece.tiles_cut source) hmem
    rw [hcut, List.getLast?_concat]

theorem eval_code (source : Text) :
    (watcher .code).eval source =
      ((Piece.cut source).getLast?.map (Piece.region .code)).getD .code :=
  evalFrom_of_tiles (Piece.tiles_cut source) (readsOn_code _ source) fun _ _ => rfl

/-- Strings are followed whatever stray characters there are between them. -/
theorem eval_code_eq_string_iff (source : Text) :
    (watcher .code).eval source = .string ↔ ∃ tail, .unclosed tail ∈ Piece.cut source := by
  rw [eval_code]
  constructor
  · intro hstring
    cases hlast : (Piece.cut source).getLast? with
    | none =>
        rw [hlast] at hstring
        cases hstring
    | some p =>
        rw [hlast] at hstring
        obtain ⟨tail, rfl⟩ := region_code_eq_string_iff.mp hstring
        exact ⟨tail, List.mem_of_getLast? hlast⟩
  · rintro ⟨tail, hmem⟩
    rw [getLast?_cut_eq_unclosed_iff.mpr hmem]
    rfl

theorem mem_accepts_iff (source : Text) :
    source ∈ (watcher .bad).accepts ↔ ∀ p ∈ Piece.cut source, p.complaint? = none := by
  have htiles := Piece.tiles_cut source
  rw [DFA.mem_accepts]
  by_cases hstray : ∃ c, .stray c ∈ Piece.cut source
  · obtain ⟨c, hmem⟩ := hstray
    have hbad : (watcher .bad).eval source = .bad :=
      evalFrom_of_stray_mem htiles (readsOn_code _ source) hmem
    rw [hbad]
    refine iff_of_false ?_ fun hnone => Option.some_ne_none _ (hnone _ hmem)
    rintro (heq | heq | heq) <;> cases heq
  · have hne : ∀ p ∈ Piece.cut source, ∀ c, p ≠ .stray c := by
      rintro p hp c rfl
      exact hstray ⟨c, hp⟩
    have hend : (watcher .bad).eval source =
        ((Piece.cut source).getLast?.map (Piece.region .bad)).getD .code :=
      evalFrom_of_tiles htiles (readsOn_code _ source) fun c hc => absurd ⟨c, hc⟩ hstray
    rw [hend]
    constructor
    · intro haccept p hp
      by_contra hcomplaint
      rcases complaint?_ne_none hcomplaint with ⟨c, rfl⟩ | ⟨tail, rfl⟩
      · exact hne _ hp c rfl
      · rw [getLast?_cut_eq_unclosed_iff.mpr hp] at haccept
        rcases haccept with heq | heq | heq <;> cases heq
    · intro hnone
      cases hlast : (Piece.cut source).getLast? with
      | none => exact Or.inl rfl
      | some p =>
          have hp := List.mem_of_getLast? hlast
          exact (region_mem_accept_iff (hne p hp)).mpr (hnone p hp)

end Watcher

/-! ### What a scan reports -/

namespace Scan

theorem diagnostics_eq_nil_iff_mem_accepts (source : Text) :
    diagnostics source = [] ↔ source ∈ (watcher .bad).accepts :=
  (diagnostics_eq_nil_iff source).trans (Watcher.mem_accepts_iff source).symm

theorem complaint?_eq_unterminated_iff {p : Piece} :
    p.complaint? = some "Unterminated string.".toList ↔ ∃ tail, p = .unclosed tail := by
  constructor
  · intro hcomplaint
    rcases Watcher.complaint?_ne_none (hcomplaint ▸ Option.some_ne_none _) with
      ⟨c, rfl⟩ | hunclosed
    · exact absurd (Option.some.inj hcomplaint) (by decide)
    · exact hunclosed
  · rintro ⟨tail, rfl⟩
    rfl

theorem unterminated_mem_iff (source : Text) :
    "Unterminated string.".toList ∈ (diagnostics source).map Diagnostic.message ↔
      ∃ tail, .unclosed tail ∈ Piece.cut source := by
  rw [map_message_diagnostics, List.mem_filterMap]
  constructor
  · rintro ⟨p, hp, hcomplaint⟩
    obtain ⟨tail, rfl⟩ := complaint?_eq_unterminated_iff.mp hcomplaint
    exact ⟨tail, hp⟩
  · rintro ⟨tail, htail⟩
    exact ⟨_, htail, rfl⟩

/-- A string that is not closed is reported once, behind everything else. -/
theorem unterminated_last_and_once {source tail : Text} (hmem : .unclosed tail ∈ Piece.cut source) :
    ((diagnostics source).map Diagnostic.message).getLast? = some "Unterminated string.".toList ∧
      ((diagnostics source).map Diagnostic.message).count "Unterminated string.".toList = 1 := by
  obtain ⟨front, hcut, hfront⟩ :=
    Watcher.exists_front_of_unclosed_mem (Piece.tiles_cut source) hmem
  have hnot : "Unterminated string.".toList ∉ front.filterMap Piece.complaint? := by
    intro hcomplaint
    obtain ⟨p, hp, hcomplaint⟩ := List.mem_filterMap.mp hcomplaint
    obtain ⟨other, rfl⟩ := complaint?_eq_unterminated_iff.mp hcomplaint
    exact hfront other hp
  have hmessages : (diagnostics source).map Diagnostic.message =
      front.filterMap Piece.complaint? ++ ["Unterminated string.".toList] := by
    rw [map_message_diagnostics, hcut, List.filterMap_append]
    rfl
  rw [hmessages, List.getLast?_concat, List.count_append, List.count_eq_zero_of_not_mem hnot]
  exact ⟨rfl, rfl⟩

end Scan

/-- Sources with nothing wrong are those that the automaton accepts, and every run says so. That a
string is never closed is seen by the automaton that stray characters do not lead astray; it is then
the last thing reported, and it is reported once. -/
theorem clean_iff_accepted (source : String) :
    ∃ result, InPlace.Yields source result ∧
      (result.diagnostics = [] ↔ source.toList ∈ (watcher .bad).accepts) ∧
      (((Reporter.collecting []).hear result.emissions).hadError = false ↔
        source.toList ∈ (watcher .bad).accepts) ∧
      (∀ filter,
        (source.toList ∈ (watcher .bad).accepts ∧
          (Run.script filter (Utf8.encode source.toList)).status.code = 0) ∨
        (source.toList ∉ (watcher .bad).accepts ∧
          (Run.script filter (Utf8.encode source.toList)).status.code = 65)) ∧
      ("Unterminated string.".toList ∈ result.diagnostics.map Diagnostic.message ↔
        (watcher .code).eval source.toList = .string) ∧
      ((watcher .code).eval source.toList = .string ↔
        (result.diagnostics.map Diagnostic.message).getLast? = some "Unterminated string.".toList ∧
          (result.diagnostics.map Diagnostic.message).count "Unterminated string.".toList = 1) := by
  have hclean := Scan.diagnostics_eq_nil_iff_mem_accepts source.toList
  have hunclosed := Scan.unterminated_mem_iff source.toList
  have hstring := Watcher.eval_code_eq_string_iff source.toList
  have hreports : InPlace.Result.diagnostics
      ⟨Scan.tokens source.toList, Scan.emissions source.toList⟩ =
        Scan.diagnostics source.toList := Scan.filterMap_diagnostic?_emissions source.toList
  refine ⟨_, InPlace.yields_scan source, ?_, ?_, ?_, ?_, ?_⟩
  · rw [hreports, hclean]
  · rw [Reporter.hear_collecting, Scan.filterMap_diagnostic?_emissions, ← hclean, List.nil_append,
      Reporter.hadError, Bool.not_eq_false', List.isEmpty_iff]
  · intro filter
    rw [Run.script_encode, Run.status_ofText, ← hclean]
    by_cases hnil : Scan.diagnostics source.toList = []
    · exact Or.inl ⟨hnil, congrArg ExitStatus.code (if_pos hnil)⟩
    · exact Or.inr ⟨hnil, congrArg ExitStatus.code (if_neg hnil)⟩
  · rw [hreports, hunclosed, hstring]
  · rw [hreports, hstring]
    constructor
    · rintro ⟨tail, htail⟩
      exact Scan.unterminated_last_and_once htail
    · rintro ⟨hlast, -⟩
      exact hunclosed.mp (List.mem_of_getLast? hlast)

end LoxTokens
