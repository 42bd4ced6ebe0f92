import LoxTokens.Description
import LoxTokens.Proofs.Text.Quoted
import Mathlib.Data.List.TakeWhile

/-!
# Descriptions read back

A description is read off its text in one way, in either layout. What it begins with is a word or
nothing; the character behind that tells whether it is a word, a quoted text, a label or a group, as
none of what may stand behind a description looks like an opening bracket or a colon. The parts of a
group are then read one after another, each up to what separates it from the next. So a value whose
parts are told by their descriptions is told by its own.
-/

namespace LoxTokens

namespace Description

/-- A name, a label or a numeral. -/
def IsWord (s : Text) : Prop :=
  s ≠ [] ∧ ∀ c ∈ s, c.isAlphanum = true

instance : DecidablePred IsWord := fun s =>
  decidable_of_iff (s ≠ [] ∧ s.all Char.isAlphanum = true)
    (and_congr Iff.rfl List.all_eq_true)

/-- The description is made of words and quoted texts, and only a list goes without a name. -/
inductive Legible : Description → Prop where
  | word {text : Text} (htext : IsWord text) : Legible (.word text)
  | quoted (s : Text) : Legible (.word (Quoted.text s))
  | labelled {label : Text} {value : Description} (hlabel : IsWord label) (hvalue : Legible value) :
      Legible (.labelled label value)
  | group {name : Text} {brackets : Brackets} {parts : List Description}
      (hname : ∀ c ∈ name, c.isAlphanum = true) (hlist : name = [] → brackets = .square)
      (hparts : ∀ part ∈ parts, Legible part) : Legible (.group name brackets parts)

/-- What stands behind a description: nothing, a comma, or the end of the group around it. -/
inductive Stops : Text → Prop where
  | nil : Stops []
  | comma (s : Text) : Stops (',' :: s)
  | round (s : Text) : Stops (')' :: s)
  | square (s : Text) : Stops (']' :: s)
  | curly (s : Text) : Stops (' ' :: '\x7d' :: s)

/-! ### The two layouts as one -/

inductive Layout where
  | inline
  | spread (depth : Nat)

namespace Layout

def text : Layout → Description → Text
  | inline, d => d.inline
  | spread depth, d => d.spread depth

/-- The layout of the parts of a group. -/
def inner : Layout → Layout
  | inline => inline
  | spread depth => spread (depth + 1)

/-- What stands in front of the first part of a group. -/
def first (b : Brackets) : Layout → Text
  | inline => b.padding
  | spread depth => '\n' :: indentation (depth + 1)

/-- What stands in front of every other part. -/
def before : Layout → Text
  | inline => [',', ' ']
  | spread depth => indentation (depth + 1)

def behind : Layout → Text
  | inline => []
  | spread _ => [',', '\n']

/-- What stands behind the last part. -/
def finish (b : Brackets) : Layout → Text
  | inline => b.padding ++ b.closing
  | spread depth => indentation depth ++ b.closing

/-- What stands between the brackets of a group without parts, and the bracket that closes it. -/
def empty (b : Brackets) : Layout → Text
  | inline => b.padding ++ b.padding ++ b.closing
  | spread _ => b.closing

/-- The rest of a group, behind one of its parts. -/
def remaining (l : Layout) (b : Brackets) : List Description → Text
  | [] => l.finish b
  | part :: parts => l.before ++ (l.inner.text part ++ (l.behind ++ l.remaining b parts))

/-- A group behind its opening bracket. -/
def body (l : Layout) (b : Brackets) : List Description → Text
  | [] => l.empty b
  | part :: parts => l.first b ++ (l.inner.text part ++ (l.behind ++ l.remaining b parts))

variable (l : Layout) (b : Brackets)

theorem inlineParts_append (part : Description) (parts : List Description) :
    inlineParts (part :: parts) ++ (b.padding ++ b.closing) =
      part.inline ++ inline.remaining b parts := by
  induction parts generalizing part with
  | nil => rfl
  | cons next parts ih =>
      rw [inlineParts, List.append_assoc, ih, List.append_assoc]
      rfl

theorem spreadParts_append (depth : Nat) (parts : List Description) :
    spreadParts (depth + 1) parts ++ (indentation depth ++ b.closing) =
      (spread depth).remaining b parts := by
  induction parts with
  | nil => rfl
  | cons part parts ih => simp [spreadParts, remaining, ih, before, inner, text, behind]

theorem text_labelled (label : Text) (value : Description) :
    l.text (.labelled label value) = label ++ ':' :: ' ' :: l.text value := by
  cases l <;> simp [text, Description.inline, Description.spread]

theorem text_group (name : Text) (parts : List Description) :
    l.text (.group name b parts) = name ++ (b.opening ++ l.body b parts) := by
  cases l with
  | inline =>
      cases parts with
      | nil => simp [text, Description.inline, inlineParts, body, empty]
      | cons part parts =>
          have hparts := inlineParts_append b part parts
          simp [text, Description.inline, body, first, inner, behind, hparts]
  | spread depth =>
      cases parts with
      | nil => simp [text, Description.spread, body, empty]
      | cons part parts =>
          have hparts := spreadParts_append b depth (part :: parts)
          simp [text, Description.spread, body, first, hparts, remaining, before]

end Layout

/-! ### How a description begins -/

/-- The letters and digits that a description begins with. -/
def lead : Description → Text
  | word text => text.takeWhile Char.isAlphanum
  | labelled label _ => label
  | group name _ _ => name

/-- What a description's text goes on with. -/
def Layout.tail (l : Layout) : Description → Text
  | word text => text.dropWhile Char.isAlphanum
  | labelled _ value => ':' :: ' ' :: l.text value
  | group _ brackets parts => brackets.opening ++ l.body brackets parts

variable {l : Layout} {b : Brackets} {d e : Description} {parts others : List Description}
  {s t w after rest : Text}

theorem Layout.text_eq (l : Layout) (d : Description) : l.text d = d.lead ++ l.tail d := by
  cases d with
  | word text =>
      have hword : l.text (.word text) = text := by
        cases l with
        | inline => exact inline.eq_1 text
        | spread depth => exact spread.eq_1 depth text
      rw [hword]
      exact List.takeWhile_append_dropWhile.symm
  | labelled label value => exact l.text_labelled label value
  | group name brackets parts => exact l.text_group brackets name parts

theorem lead_word (hw : IsWord w) : lead (.word w) = w :=
  List.takeWhile_eq_self_iff.mpr hw.2

theorem tail_word (l : Layout) (hw : IsWord w) : l.tail (.word w) = [] :=
  List.dropWhile_eq_nil_iff.mpr hw.2

theorem Stops.leaves (hstops : Stops s) : Text.Leaves Char.isAlphanum s := by
  intro c hc
  cases hstops <;> cases hc <;> rfl

theorem Stops.ne_opening (hstops : Stops s) (b : Brackets) (t : Text) : s ≠ b.opening ++ t := by
  rintro rfl
  cases b <;> exact nomatch hstops

theorem opening_append_injective {b c : Brackets} (heq : b.opening ++ s = c.opening ++ t) :
    b = c ∧ s = t := by
  cases b <;> cases c <;> simp_all [Brackets.opening]

theorem Legible.isAlphanum_of_mem_lead (hd : Legible d) : ∀ c ∈ d.lead, c.isAlphanum = true := by
  cases hd with
  | word hw =>
      rw [lead_word hw]
      exact hw.2
  | quoted s => exact fun _ hc => nomatch hc
  | labelled hlabel _ => exact hlabel.2
  | group hname _ _ => exact hname

theorem Legible.leaves_tail (hd : Legible d) (hafter : Stops after) :
    Text.Leaves Char.isAlphanum (l.tail d ++ after) := by
  cases hd with
  | word hw =>
      rw [tail_word l hw]
      exact hafter.leaves
  | quoted s =>
      intro c hc
      cases hc
      rfl
  | labelled _ _ =>
      intro c hc
      cases hc
      rfl
  | @group _ brackets _ _ _ _ =>
      intro c hc
      cases brackets <;> cases hc <;> rfl

theorem lead_eq_and_tail_eq (hd : Legible d) (he : Legible e) (hafter : Stops after)
    (hrest : Stops rest) (heq : l.text d ++ after = l.text e ++ rest) :
    d.lead = e.lead ∧ l.tail d ++ after = l.tail e ++ rest := by
  rw [l.text_eq d, l.text_eq e, List.append_assoc, List.append_assoc] at heq
  exact Text.eq_of_class_append hd.isAlphanum_of_mem_lead he.isAlphanum_of_mem_lead
    (hd.leaves_tail hafter) (he.leaves_tail hrest) heq

/-! ### What a description goes on with tells its sort -/

theorem Legible.word_of_stops (he : Legible e) (hafter : Stops after)
    (htail : after = l.tail e ++ rest) : e = .word e.lead ∧ after = rest := by
  cases he with
  | word hw =>
      rw [tail_word l hw] at htail
      rw [lead_word hw]
      exact ⟨rfl, htail⟩
  | quoted s =>
      subst htail
      exact nomatch hafter
  | labelled _ _ =>
      subst htail
      exact nomatch hafter
  | group _ _ _ =>
      rw [Layout.tail, List.append_assoc] at htail
      exact absurd htail (hafter.ne_opening _ _)

theorem Legible.quoted_of_quote (he : Legible e) (hrest : Stops rest)
    (htail : '"' :: s = l.tail e ++ rest) :
    ∃ t, e = .word (Quoted.text t) ∧ '"' :: s = Quoted.text t ++ rest := by
  cases he with
  | word hw =>
      rw [tail_word l hw, List.nil_append] at htail
      subst htail
      exact nomatch hrest
  | quoted t => exact ⟨t, rfl, htail⟩
  | labelled _ _ => cases htail
  | @group _ brackets _ _ _ _ => cases brackets <;> cases htail

theorem Legible.labelled_of_colon (he : Legible e) (hrest : Stops rest)
    (htail : ':' :: s = l.tail e ++ rest) :
    ∃ value, Legible value ∧ e = .labelled e.lead value ∧ s = ' ' :: (l.text value ++ rest) := by
  cases he with
  | word hw =>
      rw [tail_word l hw, List.nil_append] at htail
      subst htail
      exact nomatch hrest
  | quoted t => cases htail
  | @labelled _ value _ hvalue => exact ⟨value, hvalue, rfl, (List.cons.inj htail).2⟩
  | @group _ brackets _ _ _ _ => cases brackets <;> cases htail

theorem Legible.group_of_opening (he : Legible e) (hrest : Stops rest)
    (htail : b.opening ++ s = l.tail e ++ rest) :
    ∃ parts, (∀ part ∈ parts, Legible part) ∧ e = .group e.lead b parts ∧
      s = l.body b parts ++ rest := by
  cases he with
  | word hw =>
      rw [tail_word l hw, List.nil_append] at htail
      exact absurd htail.symm (hrest.ne_opening _ _)
  | quoted t => cases b <;> cases htail
  | labelled _ _ => cases b <;> cases htail
  | @group _ _ parts _ _ hparts =>
      rw [Layout.tail, List.append_assoc] at htail
      obtain ⟨rfl, hs⟩ := opening_append_injective htail
      exact ⟨parts, hparts, rfl, hs⟩

/-! ### Parts of a group -/

/-- No other description has a text that begins like this one's, up to where it stops. -/
def Tells (d : Description) : Prop :=
  ∀ (l : Layout) (e : Description) (after rest : Text), Legible e → Stops after → Stops rest →
    l.text d ++ after = l.text e ++ rest → d = e ∧ after = rest

theorem finish_append_ne (l : Layout) (b : Brackets) (s t : Text) :
    l.finish b ++ s ≠ l.before ++ t := by
  cases l with
  | inline => cases b <;> exact nofun
  | spread depth =>
      have hindentation : indentation (depth + 1) = indentation depth ++ [' ', ' ', ' ', ' '] :=
        List.replicate_append_replicate.symm
      rw [Layout.finish, Layout.before, hindentation, List.append_assoc, List.append_assoc]
      intro heq
      have hclosing := List.append_cancel_left heq
      cases b <;> cases hclosing

theorem stops_finish_append (b : Brackets) (s : Text) : Stops (Layout.inline.finish b ++ s) := by
  cases b with
  | round => exact .round s
  | square => exact .square s
  | curly => exact .curly s

theorem stops_behind_append (l : Layout) (b : Brackets) (parts : List Description) (s : Text) :
    Stops (l.behind ++ (l.remaining b parts ++ s)) := by
  cases l with
  | spread depth => exact .comma _
  | inline =>
      cases parts with
      | nil => exact stops_finish_append b s
      | cons part parts => exact .comma _

theorem eq_of_remaining_append (htells : ∀ part ∈ parts, Tells part)
    (hothers : ∀ other ∈ others, Legible other)
    (heq : l.remaining b parts ++ after = l.remaining b others ++ rest) :
    parts = others ∧ after = rest := by
  induction parts generalizing others with
  | nil =>
      cases others with
      | nil => exact ⟨rfl, List.append_cancel_left heq⟩
      | cons other others =>
          -- What closes a group does not begin like what separates two parts.
          rw [Layout.remaining, Layout.remaining, List.append_assoc] at heq
          exact absurd heq (finish_append_ne l b _ _)
  | cons part parts ih =>
      cases others with
      | nil =>
          rw [Layout.remaining, Layout.remaining, List.append_assoc] at heq
          exact absurd heq.symm (finish_append_ne l b _ _)
      | cons other others =>
          rw [List.forall_mem_cons] at htells hothers
          simp only [Layout.remaining, List.append_assoc, List.append_cancel_left_eq] at heq
          obtain ⟨rfl, htail⟩ := htells.1 l.inner other _ _ hothers.1
            (stops_behind_append l b parts after) (stops_behind_append l b others rest) heq
          obtain ⟨rfl, hafter⟩ := ih htells.2 hothers.2 (List.append_cancel_left htail)
          exact ⟨rfl, hafter⟩

theorem IsWord.exists_first (hw : IsWord w) (more : Text) :
    ∃ c rest, w ++ more = c :: rest ∧ c.isAlphanum = true := by
  obtain ⟨c, w, rfl⟩ := List.exists_cons_of_ne_nil hw.1
  exact ⟨c, w ++ more, rfl, hw.2 c List.mem_cons_self⟩

theorem Legible.exists_first (he : Legible e) :
    ∃ c rest, l.text e = c :: rest ∧ (c.isAlphanum = true ∨ c = '"' ∨ c = '[') := by
  have hword : IsWord e.lead →
      ∃ c rest, l.text e = c :: rest ∧ (c.isAlphanum = true ∨ c = '"' ∨ c = '[') := by
    intro hlead
    obtain ⟨c, rest, htext, hc⟩ := hlead.exists_first (l.tail e)
    exact ⟨c, rest, (l.text_eq e).trans htext, Or.inl hc⟩
  cases he with
  | word hw =>
      apply hword
      rwa [lead_word hw]
  | quoted s => exact ⟨'"', _, l.text_eq _, Or.inr (Or.inl rfl)⟩
  | labelled hlabel _ => exact hword hlabel
  | @group name brackets parts hname hlist _ =>
      by_cases hnil : name = []
      · -- Only a list has no name, and a list begins with its bracket.
        obtain rfl := hlist hnil
        obtain rfl := hnil
        exact ⟨'[', _, l.text_eq _, Or.inr (Or.inr rfl)⟩
      · exact hword ⟨hnil, hname⟩

/-- A group without parts does not look like one that has a part. -/
theorem Stops.ne_text_append (hstops : Stops s) (hne : s ≠ []) (he : Legible e) (t : Text) :
    s ≠ l.text e ++ t := by
  obtain ⟨c, more, htext, hc⟩ := he.exists_first (l := l)
  rintro rfl
  rw [htext, List.cons_append] at hstops
  generalize more ++ t = tail at hstops
  rcases hc with hc | rfl | rfl
  · cases hstops <;> exact absurd hc (by decide)
  · exact nomatch hstops
  · exact nomatch hstops

theorem empty_append_ne (b : Brackets) (he : Legible e) (s t : Text) :
    l.empty b ++ s ≠ l.first b ++ (l.inner.text e ++ t) := by
  cases l with
  | inline =>
      have hne : Layout.inline.finish b ++ s ≠ [] := by cases b <;> exact nofun
      have hfinish := (stops_finish_append b s).ne_text_append (l := .inline) hne he t
      rw [Layout.empty, List.append_assoc, List.append_assoc]
      intro heq
      exact hfinish ((List.append_assoc _ _ _).trans (List.append_cancel_left heq))
  | spread depth => cases b <;> exact nofun

theorem eq_of_body_append (htells : ∀ part ∈ parts, Tells part)
    (hparts : ∀ part ∈ parts, Legible part) (hothers : ∀ other ∈ others, Legible other)
    (heq : l.body b parts ++ after = l.body b others ++ rest) :
    parts = others ∧ after = rest := by
  cases parts with
  | nil =>
      cases others with
      | nil => exact ⟨rfl, List.append_cancel_left heq⟩
      | cons other others =>
          rw [List.forall_mem_cons] at hothers
          rw [Layout.body, Layout.body, List.append_assoc, List.append_assoc] at heq
          exact absurd heq (empty_append_ne b hothers.1 _ _)
  | cons part parts =>
      rw [List.forall_mem_cons] at htells hparts
      cases others with
      | nil =>
          rw [Layout.body, Layout.body, List.append_assoc, List.append_assoc] at heq
          exact absurd heq.symm (empty_append_ne b hparts.1 _ _)
      | cons other others =>
          rw [List.forall_mem_cons] at hothers
          simp only [Layout.body, List.append_assoc, List.append_cancel_left_eq] at heq
          obtain ⟨rfl, htail⟩ := htells.1 l.inner other _ _ hothers.1
            (stops_behind_append l b parts after) (stops_behind_append l b others rest) heq
          obtain ⟨rfl, hafter⟩ :=
            eq_of_remaining_append htells.2 hothers.2 (List.append_cancel_left htail)
          exact ⟨rfl, hafter⟩

/-! ### The one description -/

/-- A legible description is read off the front of a text in one way. -/
theorem Legible.tells (hd : Legible d) : Tells d := by
  induction hd with
  | @word w hw =>
      intro l e after rest he hafter hrest heq
      obtain ⟨hlead, htail⟩ := lead_eq_and_tail_eq (.word hw) he hafter hrest heq
      rw [tail_word l hw] at htail
      obtain ⟨hword, hrest⟩ := he.word_of_stops hafter htail
      rw [hword, ← hlead, lead_word hw]
      exact ⟨rfl, hrest⟩
  | quoted s =>
      intro l e after rest he hafter hrest heq
      obtain ⟨-, htail⟩ := lead_eq_and_tail_eq (.quoted s) he hafter hrest heq
      obtain ⟨t, rfl, hquoted⟩ := he.quoted_of_quote hrest htail
      obtain ⟨rfl, hafter⟩ := Quoted.eq_of_text_append hquoted
      exact ⟨rfl, hafter⟩
  | @labelled label value hlabel hvalue ih =>
      intro l e after rest he hafter hrest heq
      obtain ⟨hlead, htail⟩ := lead_eq_and_tail_eq (.labelled hlabel hvalue) he hafter hrest heq
      obtain ⟨other, hother, hlabelled, hvalues⟩ := he.labelled_of_colon hrest htail
      obtain ⟨rfl, hafter⟩ := ih l other after rest hother hafter hrest (List.cons.inj hvalues).2
      rw [hlabelled, ← hlead]
      exact ⟨rfl, hafter⟩
  | @group name b parts hname hlist hparts ih =>
      intro l e after rest he hafter hrest heq
      obtain ⟨hlead, htail⟩ :=
        lead_eq_and_tail_eq (.group hname hlist hparts) he hafter hrest heq
      rw [Layout.tail, List.append_assoc] at htail
      obtain ⟨others, hothers, hgroup, hbody⟩ := he.group_of_opening hrest htail
      obtain ⟨rfl, hafter⟩ := eq_of_body_append ih hparts hothers hbody
      rw [hgroup, ← hlead]
      exact ⟨rfl, hafter⟩

theorem Legible.text_injective (hd : Legible d) (he : Legible e) (l : Layout)
    (heq : l.text d = l.text e) : d = e :=
  (hd.tells l e [] [] he .nil .nil (congrArg (· ++ []) heq)).1

/-! ### Legible descriptions -/

theorem isWord_decimal (n : Nat) : IsWord (Text.decimal n) := by
  refine ⟨Nat.toDigits_ne_nil, ?_⟩
  intro c hc
  have hdigit : c.isDigit = true := Nat.isDigit_of_mem_toDigits (by decide) (by decide) hc
  simp [Char.isAlphanum, hdigit]

theorem legible_number (n : Nat) : Legible (number n) :=
  .word (isWord_decimal n)

theorem legible_applied {name : String} (hname : IsWord name.toList) (hd : Legible d) :
    Legible (applied name d) := by
  refine .group hname.2 (fun hnil => absurd hnil hname.1) ?_
  intro part hpart
  rwa [List.mem_singleton.mp hpart]

theorem legible_optional {part? : Option Description} (hparts : ∀ part ∈ part?, Legible part) :
    Legible (optional part?) := by
  cases part? with
  | none => exact .word (by decide)
  | some part => exact legible_applied (by decide) (hparts part rfl)

theorem legible_record {name : String} {fields : List (String × Description)}
    (hname : IsWord name.toList) (hlabels : ∀ field ∈ fields, IsWord field.1.toList)
    (hvalues : ∀ field ∈ fields, Legible field.2) : Legible (record name fields) := by
  refine .group hname.2 (fun hnil => absurd hnil hname.1) ?_
  intro part hpart
  obtain ⟨field, hfield, rfl⟩ := List.mem_map.mp hpart
  exact .labelled (hlabels field hfield) (hvalues field hfield)

theorem legible_list {items : List Description} (hitems : ∀ item ∈ items, Legible item) :
    Legible (list items) :=
  .group (fun _ hc => nomatch hc) (fun _ => rfl) hitems

/-! ### Parts that are told by a description -/

theorem quoted_injective : Function.Injective quoted :=
  fun _ _ heq => Quoted.text_injective (word.inj heq)

theorem number_toNat_injective {m n : UInt32} (heq : number m.toNat = number n.toNat) : m = n :=
  UInt32.toNat_inj.mp (Text.decimal_injective (word.inj heq))

theorem applied_injective (name : String) : Function.Injective (applied name) :=
  fun _ _ heq => (List.cons.inj (group.inj heq).2.2).1

theorem list_injective : Function.Injective list :=
  fun _ _ heq => (group.inj heq).2.2

theorem optional_injective : Function.Injective optional := by
  intro a b heq
  cases a with
  | none =>
      cases b with
      | none => rfl
      | some b => cases heq
  | some a =>
      cases b with
      | none => cases heq
      | some b => rw [applied_injective "Some" heq]

/-- A value that is described injectively and legibly is told by the text of its description, in
either layout. -/
theorem eq_iff_text_eq {α : Type} {describe : α → Description}
    (hlegible : ∀ a, (describe a).Legible) (hinjective : Function.Injective describe)
    (l : Layout) (a b : α) : a = b ↔ l.text (describe a) = l.text (describe b) := by
  constructor
  · intro heq
    rw [heq]
  · intro heq
    exact hinjective ((hlegible a).text_injective (hlegible b) l heq)

end Description

end LoxTokens
