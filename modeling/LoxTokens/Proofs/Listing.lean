import LoxTokens.Proofs.Script
import LoxTokens.Proofs.Text.Runs
import LoxTokens.Proofs.Writing

/-!
# Listings read back

Nothing in a listing is escaped. A string is listed with its line feeds and may hold whatever other
tokens are listed as, so the lines of a listing do not tell where its entries end. The entries do:
each begins with the name of a kind, which has no blank in it. The name of a mark leaves nothing
open, and that of a string is followed by the string in its quotes, which holds no quote and is then
repeated. So no entry begins with another, and a listing can be read in one way only.
-/

namespace LoxTokens

theorem Kind.blank_not_mem_name (k : Kind) : ' ' ∉ k.name.toList := by
  have hall : ∀ k ∈ all, ' ' ∉ k.name.toList := by decide
  exact hall k k.mem_all

theorem Kind.name_injective : Function.Injective name := by
  have hall : ∀ k ∈ all, ∀ l ∈ all, k.name = l.name → k = l := by decide +kernel
  intro k l
  exact hall k k.mem_all l l.mem_all

/-- What tokens of a scan say. -/
inductive Listed : Kind × Text × Option Text → Prop where
  | mark (m : Mark) : Listed (.mark m, m.spelling, none)
  | string {value : Text} (hvalue : '"' ∉ value) :
      Listed (.string, '"' :: (value ++ ['"']), some value)
  | eof : Listed (.eof, [], none)

/-- The entry of a token that says this, with its line end. -/
def entry (content : Kind × Text × Option Text) : Text :=
  content.1.name.toList ++
    ' ' :: (content.2.1 ++ ' ' :: (content.2.2.getD "null".toList ++ ['\n']))

section Entries

variable {content other : Kind × Text × Option Text}
  {contents others : List (Kind × Text × Option Text)} {after rest : Text}

theorem entry_ne_nil (content : Kind × Text × Option Text) : entry content ≠ [] := by
  simp [entry]

/-- An entry tells where it ends. -/
theorem Listed.eq_of_entry_append (hcontent : Listed content) (hother : Listed other)
    (heq : entry content ++ after = entry other ++ rest) : content = other ∧ after = rest := by
  have hsplit : ∀ (c : Kind × Text × Option Text) (s : Text), entry c ++ s =
      c.1.name.toList ++ ' ' :: (c.2.1 ++ ' ' :: (c.2.2.getD "null".toList ++ '\n' :: s)) := by
    simp [entry]
  rw [hsplit, hsplit] at heq
  obtain ⟨hname, htail⟩ :=
    Text.eq_of_run_append (Kind.blank_not_mem_name _) (Kind.blank_not_mem_name _) heq
  have hkind := Kind.name_injective (String.toList_inj.mp hname)
  cases hcontent with
  | mark m =>
      cases hother with
      | mark m' =>
          cases hkind
          simpa using htail
      | string _ => cases hkind
      | eof => cases hkind
  | eof =>
      cases hother with
      | mark m' => cases hkind
      | string _ => cases hkind
      | eof => simpa using htail
  | @string value hvalue =>
      cases hother with
      | mark m' => cases hkind
      | @string value' hvalue' =>
          simp only [List.cons_append, List.append_assoc, List.nil_append, List.cons.injEq,
            true_and] at htail
          obtain ⟨rfl, hrest⟩ := Text.eq_of_run_append hvalue hvalue' htail
          simpa using hrest
      | eof => cases hkind

theorem eq_of_flatMap_entry (hcontents : ∀ c ∈ contents, Listed c)
    (hothers : ∀ c ∈ others, Listed c)
    (heq : contents.flatMap entry = others.flatMap entry) : contents = others := by
  induction contents generalizing others with
  | nil =>
      cases others with
      | nil => rfl
      | cons other others =>
          rw [List.flatMap_nil, List.flatMap_cons, eq_comm, List.append_eq_nil_iff] at heq
          exact absurd heq.1 (entry_ne_nil other)
  | cons content contents ih =>
      cases others with
      | nil =>
          rw [List.flatMap_nil, List.flatMap_cons, List.append_eq_nil_iff] at heq
          exact absurd heq.1 (entry_ne_nil content)
      | cons other others =>
          rw [List.forall_mem_cons] at hcontents hothers
          rw [List.flatMap_cons, List.flatMap_cons] at heq
          obtain ⟨rfl, hrest⟩ := hcontents.1.eq_of_entry_append hothers.1 heq
          rw [ih hcontents.2 hothers.2 hrest]

end Entries

/-! ### The entries of a scan -/

namespace Scan

theorem listed_of_mem_tokens {source : Text} {t : Token} (ht : t ∈ tokens source) :
    Listed t.content := by
  rcases List.mem_append.mp ht with ht | ht
  · obtain ⟨kind, lexeme, literal, line⟩ := t
    rcases wellFormed_of_mem_placed ht with ⟨m, rfl, rfl, rfl⟩ | ⟨value, hvalue, rfl, rfl, rfl⟩
    · exact .mark m
    · exact .string hvalue
  · obtain rfl := List.mem_singleton.mp ht
    exact .eof

theorem flatMap_listing_eq (ts : List Token) :
    (ts.flatMap fun t => t.listing ++ ['\n']) = (ts.map Token.content).flatMap entry := by
  rw [List.flatMap_map]
  apply List.flatMap_congr
  intro t _
  simp [Token.listing, entry, Token.content]

/-- Two scans are listed alike if and only if they agree in everything but lines. -/
theorem flatMap_listing_eq_iff (source other : Text) :
    ((tokens source).flatMap fun t => t.listing ++ ['\n']) =
        ((tokens other).flatMap fun t => t.listing ++ ['\n']) ↔
      (tokens source).map Token.content = (tokens other).map Token.content := by
  rw [flatMap_listing_eq, flatMap_listing_eq]
  have hlisted : ∀ s, ∀ c ∈ (tokens s).map Token.content, Listed c := by
    intro s c hc
    obtain ⟨t, ht, rfl⟩ := List.mem_map.mp hc
    exact listed_of_mem_tokens ht
  constructor
  · intro heq
    exact eq_of_flatMap_entry (hlisted source) (hlisted other) heq
  · intro heq
    rw [heq]

end Scan

/-- What is printed of a source tells its tokens, one after another, up to their lines. -/
theorem listing_tells_tokens (a b : String) :
    ∃ resultA resultB, InPlace.Yields a resultA ∧ InPlace.Yields b resultB ∧
      ((resultA.tokens.flatMap fun t => t.listing ++ ['\n']) =
          (resultB.tokens.flatMap fun t => t.listing ++ ['\n']) ↔
        resultA.tokens.map Token.content = resultB.tokens.map Token.content) ∧
      ∀ filterA filterB,
        (Run.script filterA (Utf8.encode a.toList)).stdout =
            (Run.script filterB (Utf8.encode b.toList)).stdout ↔
          resultA.tokens.map Token.content = resultB.tokens.map Token.content := by
  have hlisting := Scan.flatMap_listing_eq_iff a.toList b.toList
  refine ⟨_, _, InPlace.yields_scan a, InPlace.yields_scan b, hlisting, ?_⟩
  intro filterA filterB
  rw [Run.script_encode, Run.script_encode]
  exact hlisting

end LoxTokens
