import LoxTokens.Golden.Suite
import LoxTokens.Proofs.Front
import LoxTokens.Proofs.Utf8.Inverse

/-!
# Suites in the order of names

Names are told apart by their bytes, so there is only one way to put the entries of a folder in order,
however the folder lists them. A run over the entries in order reports one after another, and either
comes to the end or to the first entry that is no text; what it has written until then stays written.
-/

namespace LoxTokens.Golden

variable {folder listed : Folder} {ordered rest : List Entry} {bad : Entry}
  {lastWords : Text → Text}

/-! ### The order -/

def Before (a b : Entry) : Prop :=
  Utf8.encode a.name < Utf8.encode b.name

theorem sorted_perm (folder : Folder) : (sorted folder).Perm folder :=
  List.mergeSort_perm folder _

theorem pairwise_sorted (folder : Folder) :
    (sorted folder).Pairwise fun a b => Utf8.encode a.name ≤ Utf8.encode b.name := by
  have hsorted : (sorted folder).Pairwise fun a b =>
      decide (Utf8.encode a.name ≤ Utf8.encode b.name) = true := by
    apply List.pairwise_mergeSort
    · intro a b c hab hbc
      rw [decide_eq_true_iff] at hab hbc ⊢
      exact List.le_trans hab hbc
    · intro a b
      rw [Bool.or_eq_true, decide_eq_true_iff, decide_eq_true_iff]
      exact List.le_total _ _
  simpa using hsorted

theorem pairwise_before_sorted (hnames : (folder.map Entry.name).Nodup) :
    (sorted folder).Pairwise Before := by
  have hdistinct : ((sorted folder).map Entry.name).Nodup :=
    ((sorted_perm folder).map Entry.name).nodup_iff.mpr hnames
  refine ((pairwise_sorted folder).and (List.pairwise_map.mp hdistinct)).imp ?_
  rintro a b ⟨hle, hne⟩
  exact Std.lt_of_le_of_ne hle (Utf8.encode_injective.ne hne)

theorem sorted_eq_of_perm (hnames : (folder.map Entry.name).Nodup) (hperm : listed.Perm folder) :
    sorted listed = sorted folder := by
  have hlisted : (listed.map Entry.name).Nodup :=
    (hperm.map Entry.name).nodup_iff.mpr hnames
  refine List.Perm.eq_of_pairwise ?_ (pairwise_before_sorted hlisted)
    (pairwise_before_sorted hnames) ?_
  · intro a b _ _ hab hba
    exact absurd hab (List.lt_asymm hba)
  · calc
      (sorted listed).Perm listed := sorted_perm listed
      _ |>.Perm folder := hperm
      _ |>.Perm (sorted folder) := (sorted_perm folder).symm

/-! ### The reports -/

/-- An entry that can be run: its bytes are a text. -/
structure Case where
  name : Text
  content : Text

namespace Case

def entry (c : Case) : Entry :=
  ⟨c.name, .file (Utf8.encode c.content)⟩

def found (lastWords : Text → Text) (c : Case) : List Text :=
  failures (.ofText c.content)
    (Run.scriptBy (.debug lastWords) quiet (Utf8.encode c.content))

def report (lastWords : Text → Text) (c : Case) : Text :=
  "Running test: ".toList ++ c.name ++ " ... ".toList ++
    if c.found lastWords = [] then "pass!\n".toList
    else "\x1b[0;31mfail!\x1b[0m\n".toList ++ (c.found lastWords).flatMap (· ++ ['\n'])

theorem test_content (c : Case) :
    test lastWords (Utf8.encode c.content) = .ok (c.found lastWords) := by
  rw [test, Utf8.decode_encode, found]

theorem report_eq (c : Case) :
    c.report lastWords = heading c.name ++ verdict (c.found lastWords) := by
  unfold report heading
  by_cases hnone : c.found lastWords = []
  · rw [if_pos hnone, hnone]
    rfl
  · obtain ⟨failure, found, hfound⟩ := List.exists_cons_of_ne_nil hnone
    rw [if_neg hnone, hfound]
    rfl

end Case

theorem runInOrder_map_entry (failed : Bool) (cases : List Case) (rest : List Entry) :
    runInOrder lastWords failed (cases.map Case.entry ++ rest) =
      (runInOrder lastWords (failed || cases.any fun c => !(c.found lastWords).isEmpty) rest).after
        (cases.flatMap (Case.report lastWords)) [] := by
  induction cases generalizing failed with
  | nil =>
      rw [List.any_nil, Bool.or_false]
      rfl
  | cons c cases ih =>
      have htest : testItem lastWords c.entry.item = .ok (c.found lastWords) := c.test_content
      rw [List.map_cons, List.cons_append, runInOrder, htest]
      dsimp only
      rw [ih]
      simp [Outcome.after, Case.report_eq, Case.entry, Bool.or_assoc]

/-- What keeps an entry from being run. -/
theorem testItem_of_forall_ne (hbad : ∀ c : Case, bad ≠ c.entry) :
    bad.item = .folder ∧ testItem lastWords bad.item = .error (.path .isADirectory) ∨
      ∃ bytes, bad.item = .file bytes ∧ (∀ s, bytes ≠ Utf8.encode s) ∧
        testItem lastWords bad.item = .error .notText := by
  obtain ⟨name, item⟩ := bad
  cases item with
  | folder => exact Or.inl ⟨rfl, rfl⟩
  | file bytes =>
      have hbytes : ∀ s, bytes ≠ Utf8.encode s := by
        rintro s rfl
        exact hbad ⟨name, s⟩ rfl
      refine Or.inr ⟨bytes, rfl, hbytes, ?_⟩
      cases hread : Utf8.decode bytes with
      | ok s => exact absurd (Utf8.decode_eq_ok_iff.mp hread) (hbytes s)
      | error fault => rw [testItem, test, hread]

theorem runInOrder_all (cases : List Case) :
    runInOrder lastWords false (cases.map Case.entry) =
      ⟨cases.flatMap (Case.report lastWords), [],
        if ∀ c ∈ cases, c.found lastWords = [] then .success else .failure⟩ := by
  have hfailed : (false || cases.any fun c => !(c.found lastWords).isEmpty) = true ↔
      ¬∀ c ∈ cases, c.found lastWords = [] := by
    simp
  rw [← List.append_nil (cases.map Case.entry), runInOrder_map_entry, runInOrder,
    if_congr hfailed rfl rfl, ite_not]
  simp [Outcome.after]

theorem runInOrder_broken {reason : Failure} (cases : List Case) (later : List Entry)
    (htest : testItem lastWords bad.item = .error reason) :
    runInOrder lastWords false (cases.map Case.entry ++ bad :: later) =
      .broken (cases.flatMap (Case.report lastWords) ++ heading bad.name) reason := by
  rw [runInOrder_map_entry, runInOrder, htest]
  rfl

/-- The suite does not depend on how the folder is listed. It goes through the entries in the order of
their names' bytes and reports each until it comes to one that cannot be run, whose heading is the last
that is written; and it succeeds if and only if it comes to the end and no test has failed. -/
theorem suite_in_order_of_names (lastWords : Text → Text)
    (hnames : (folder.map Entry.name).Nodup) :
    (∀ listed : Folder, listed.Perm folder →
      suite lastWords (some listed) = suite lastWords (some folder)) ∧
    ∃ (cases : List Case) (rest : List Entry),
      (cases.map Case.entry ++ rest).Perm folder ∧
      (cases.map Case.entry ++ rest).Pairwise Before ∧
      (∀ c ∈ cases, test lastWords (Utf8.encode c.content) = .ok (c.found lastWords)) ∧
      (rest = [] →
        (suite lastWords (some folder)).stdout = cases.flatMap (Case.report lastWords) ∧
        (suite lastWords (some folder)).stderr = [] ∧
        (suite lastWords (some folder)).status.code =
          if ∀ c ∈ cases, c.found lastWords = [] then 0 else 1) ∧
      (∀ bad later, rest = bad :: later →
        (bad.item = .folder ∧
            (suite lastWords (some folder)).notices = [.failure (.path .isADirectory)] ∨
          ∃ bytes, bad.item = .file bytes ∧ (∀ s, bytes ≠ Utf8.encode s) ∧
            (suite lastWords (some folder)).notices = [.failure .notText]) ∧
        (suite lastWords (some folder)).stdout =
          cases.flatMap (Case.report lastWords) ++
            ("Running test: ".toList ++ bad.name ++ " ... ".toList) ∧
        (suite lastWords (some folder)).status.code = 1) := by
  refine ⟨?_, ?_⟩
  · intro listed hperm
    rw [suite, suite, sorted_eq_of_perm hnames hperm]
  · obtain ⟨cases, rest, hsorted, hbad⟩ := exists_map_append Case.entry (sorted folder)
    have hsuite : suite lastWords (some folder) =
        runInOrder lastWords false (cases.map Case.entry ++ rest) := by
      rw [suite, hsorted]
    refine ⟨cases, rest, ?_, ?_, fun c _ => c.test_content, ?_, ?_⟩
    · rw [← hsorted]
      exact sorted_perm folder
    · rw [← hsorted]
      exact pairwise_before_sorted hnames
    · rintro rfl
      rw [hsuite, List.append_nil, runInOrder_all]
      exact ⟨rfl, rfl, apply_ite _ _ _ _⟩
    · rintro bad later rfl
      rcases testItem_of_forall_ne (hbad bad rfl) with ⟨hitem, htest⟩ | ⟨bytes, hitem, hbytes, htest⟩
      · rw [hsuite, runInOrder_broken cases later htest]
        exact ⟨Or.inl ⟨hitem, rfl⟩, rfl, rfl⟩
      · rw [hsuite, runInOrder_broken cases later htest]
        exact ⟨Or.inr ⟨bytes, hitem, hbytes, rfl⟩, rfl, rfl⟩

/-- The folder is neither the first nor the last entry in order, and all that is reported of it is that
it comes. -/
theorem suite_in_order_of_names_up_to_folder :
    let a : Entry := ⟨['a'], .file []⟩
    let b : Entry := ⟨['b'], .folder⟩
    let c : Entry := ⟨['c'], .file [0x2B]⟩
    let lastWords : Text → Text := fun _ => "attempt to add with overflow\n".toList
    suite lastWords (some [c, b, a]) = suite lastWords (some [b, c, a]) ∧
      "Running test: b ... ".toList <:+ (suite lastWords (some [b, c, a])).stdout ∧
      (suite lastWords (some [b, c, a])).status.code = 1 := by
  intro a b c lastWords
  have hnames : ([b, c, a].map Entry.name).Nodup := by decide
  obtain ⟨horder, cases, rest, hperm, -, -, -, hbroken⟩ :=
    suite_in_order_of_names lastWords hnames
  refine ⟨horder [c, b, a] (List.Perm.swap b c [a]), ?_⟩
  cases rest with
  | nil =>
      have hmem : b ∈ cases.map Case.entry ++ [] := hperm.mem_iff.mpr (by simp)
      rw [List.append_nil] at hmem
      obtain ⟨k, -, hk⟩ := List.mem_map.mp hmem
      cases congrArg Entry.item hk
  | cons bad later =>
      obtain ⟨hbad, hstdout, hcode⟩ := hbroken bad later rfl
      have hmem : bad ∈ [b, c, a] :=
        hperm.mem_iff.mp (List.mem_append_right _ List.mem_cons_self)
      have hfolder : bad = b := by
        simp only [List.mem_cons, List.not_mem_nil, or_false] at hmem
        rcases hmem with rfl | rfl | rfl
        · rfl
        · rcases hbad with ⟨hitem, -⟩ | ⟨bytes, hitem, hbytes, -⟩
          · cases hitem
          · cases hitem
            exact absurd rfl (hbytes ['+'])
        · rcases hbad with ⟨hitem, -⟩ | ⟨bytes, hitem, hbytes, -⟩
          · cases hitem
          · cases hitem
            exact absurd rfl (hbytes [])
      rw [hstdout, hfolder]
      exact ⟨List.suffix_append _ _, hcode⟩

end LoxTokens.Golden
