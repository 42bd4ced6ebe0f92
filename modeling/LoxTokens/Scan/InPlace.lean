import LoxTokens.Scan

/-!
# Scanning in place

The same scan, done by a machine that keeps two byte offsets into the source and builds no list of
what is left. Offsets are plain numbers, so every look at the source can fail: a slice needs both of
its ends inside the source, in order and between characters, and a character can only be taken
before the end. A step takes a mark, a single character between pieces or inside a comment or a
string, or ends one of the two, so the machine comes to the end of the source after finitely many
steps. Lines are counted in 32 bits, and what happens where the numbers run out is a choice that is
made for a whole run: the machine stops, or it goes on from zero.
-/

namespace LoxTokens.InPlace

inductive Breach where
  /-- A slice whose ends are out of range, out of order or inside a character. -/
  | badSlice (start stop : Nat)
  /-- A character is taken where the source has ended. -/
  | pastEnd (offset : Nat)
  | lineOverflow
deriving DecidableEq

def slice (source : String) (start stop : Nat) : Except Breach Text :=
  match source.pos? ⟨start⟩, source.pos? ⟨stop⟩ with
  | some p, some q =>
      if p ≤ q then .ok (source.extract p q).toList else .error (.badSlice start stop)
  | _, _ => .error (.badSlice start stop)

/-- The character at a byte offset; none at the end of the source. -/
def peek (source : String) (offset : Nat) : Except Breach (Option Char) :=
  match source.pos? ⟨offset⟩ with
  | some p => .ok p.get?
  | none => .error (.badSlice offset source.utf8ByteSize)

/-- What becomes of a line that has no number in 32 bits. -/
inductive Counting where
  | checked
  /-- The numbers start again at zero. -/
  | wrapping
deriving DecidableEq

/-- What the machine is in the middle of. -/
inductive Mode where
  | between
  /-- Behind the two slashes of a comment. -/
  | comment
  /-- Behind the quote that opens a string. -/
  | string
deriving DecidableEq

/-- The machine: the offsets of the piece's first byte and of the next byte to look at, the lines of
the two, what it has found and said so far, newest first, and how many faults were among it. -/
structure State where
  mode : Mode
  start : Nat
  current : Nat
  startLine : UInt32
  line : UInt32
  found : List Token
  said : List Emission
  errors : Nat
deriving DecidableEq

namespace State

def initial : State :=
  ⟨.between, 0, 0, 1, 1, [], [], 0⟩

def remaining (source : String) (s : State) : Nat :=
  -- The way out of a comment or a string moves over nothing, and has to count as well.
  2 * (source.utf8ByteSize - s.current) + if s.mode = .between then 0 else 1

def enter (s : State) (mode : Mode) : State :=
  { s with mode := mode }

def beginPiece (s : State) : State :=
  { s with start := s.current, startLine := s.line }

def skip (s : State) (c : Char) : State :=
  { s with current := s.current + c.utf8Size }

def take (source : String) (s : State) : Except Breach (Char × State) := do
  match ← peek source s.current with
  | some c => return (c, s.skip c)
  | none => throw (.pastEnd s.current)

/-- Moves over the next character if there is one and it is the expected one. -/
def accept (source : String) (expected : Char) (s : State) : Except Breach (Bool × State) := do
  if s.current < source.utf8ByteSize then
    if (← peek source s.current) = some expected then
      return (true, s.skip expected)
  return (false, s)

def countLine (counting : Counting) (s : State) : Except Breach State :=
  if counting = .wrapping ∨ s.line.toNat + 1 < UInt32.size then
    .ok { s with line := s.line + 1 }
  else
    .error .lineOverflow

def find (source : String) (kind : Kind) (literal : Option Text) (s : State) :
    Except Breach State := do
  let t : Token := ⟨kind, ← slice source s.start s.current, literal, s.startLine⟩
  return { s with found := t :: s.found, said := .log (.token t) :: s.said }

def complain (fault : Fault) (s : State) : State :=
  { s with
    said := .report (.ofFault s.line fault) :: .log (.lexicalError s.line fault) :: s.said
    errors := s.errors + 1 }

/-! ### Steps -/

def stepMark (source : String) (m : Mark) (s : State) : Except Breach State := do
  if m = .slash then
    let (isComment, s) ← s.accept source '/'
    if isComment then return s.enter .comment else s.find source (.mark m) none
  else
    match m.withEqual? with
    | none => s.find source (.mark m) none
    | some longer =>
        let (isLonger, s) ← s.accept source '='
        s.find source (.mark (if isLonger then longer else m)) none

def stepFirst (counting : Counting) (source : String) (c : Char) (s : State) :
    Except Breach State :=
  if c = '"' then
    .ok (s.enter .string)
  else if c = '\n' then
    s.countLine counting
  else if isBlank c then
    .ok s
  else
    match Mark.ofChar? c with
    | some m => s.stepMark source m
    | none => .ok (s.complain (.unexpectedCharacter c))

def stepBetween (counting : Counting) (source : String) (s : State) : Except Breach State := do
  let (c, s) ← s.beginPiece.take source
  s.stepFirst counting source c

/-- Inside a comment. The next character is looked at first, also where there is none. -/
def stepComment (source : String) (s : State) : Except Breach State := do
  if (← peek source s.current) ≠ some '\n' ∧ s.current < source.utf8ByteSize then
    return (← s.take source).2
  else
    return s.enter .between

def closeString (source : String) (s : State) : Except Breach State := do
  let (_, s) ← s.take source
  let value ← slice source (s.start + 1) (s.current - 1)
  (s.enter .between).find source .string (some value)

/-- Inside a string. The next character is looked at first, also where there is none. -/
def stepString (counting : Counting) (source : String) (s : State) : Except Breach State := do
  if (← peek source s.current) ≠ some '"' ∧ s.current < source.utf8ByteSize then
    let (c, s) ← s.take source
    if c = '\n' then s.countLine counting else return s
  else if s.current < source.utf8ByteSize then
    s.closeString source
  else
    return (s.enter .between).complain .unterminatedString

/-- One step; none when the machine is done. -/
def step? (counting : Counting) (source : String) (s : State) : Except Breach (Option State) :=
  match s.mode with
  | .between =>
      if s.current < source.utf8ByteSize then (s.stepBetween counting source).map some
      else .ok none
  | .comment => (s.stepComment source).map some
  | .string => (s.stepString counting source).map some

/-! ### Every step makes progress -/

/-- The machine has moved on, which it can only before the end, or has left a comment or a string
where it stood. -/
def Ahead (source : String) (s s' : State) : Prop :=
  s.current < source.utf8ByteSize ∧ s.current < s'.current ∨
    s.current = s'.current ∧ s.mode ≠ .between ∧ s'.mode = .between

theorem remaining_lt_of_ahead {source : String} {s s' : State} (hahead : s.Ahead source s') :
    s'.remaining source < s.remaining source := by
  unfold remaining
  rcases hahead with ⟨hcurrent, hlt⟩ | ⟨heq, hmode, hmode'⟩
  · have hone : (if s'.mode = .between then 0 else 1) ≤ 1 := by split <;> omega
    omega
  · rw [if_neg hmode, if_pos hmode', heq]
    omega

theorem current_lt_skip (s : State) (c : Char) : s.current < (s.skip c).current :=
  Nat.lt_add_of_pos_right c.utf8Size_pos

theorem eq_skip_of_take {source : String} {s s' : State} {c : Char}
    (htake : s.take source = .ok (c, s')) : s' = s.skip c := by
  simp only [take, bind, Except.bind] at htake
  split at htake
  · cases htake
  · split at htake <;> cases htake
    rfl

theorem current_le_of_accept {source : String} {expected : Char} {s s' : State} {hit : Bool}
    (haccept : s.accept source expected = .ok (hit, s')) : s.current ≤ s'.current := by
  simp only [accept, bind, Except.bind, pure, Except.pure] at haccept
  split at haccept
  · split at haccept
    · cases haccept
    · split at haccept <;> cases haccept
      · exact Nat.le_of_lt (s.current_lt_skip expected)
      · exact Nat.le_refl _
  · cases haccept
    exact Nat.le_refl _

theorem current_eq_of_find {source : String} {kind : Kind} {literal : Option Text}
    {s s' : State} (hfind : s.find source kind literal = .ok s') : s'.current = s.current := by
  simp only [find, bind, Except.bind] at hfind
  split at hfind <;> cases hfind
  rfl

theorem current_eq_of_countLine {counting : Counting} {s s' : State}
    (hcount : s.countLine counting = .ok s') :
    s'.current = s.current := by
  unfold countLine at hcount
  split at hcount <;> cases hcount
  rfl

theorem current_le_of_stepMark {source : String} {m : Mark} {s s' : State}
    (hstep : s.stepMark source m = .ok s') : s.current ≤ s'.current := by
  simp only [stepMark, bind, Except.bind, pure, Except.pure] at hstep
  split at hstep
  · split at hstep
    · cases hstep
    · next haccept =>
        have hle := current_le_of_accept haccept
        split at hstep
        · cases hstep; exact hle
        · rw [current_eq_of_find hstep]; exact hle
  · split at hstep
    · exact Nat.le_of_eq (current_eq_of_find hstep).symm
    · split at hstep
      · cases hstep
      · next haccept =>
          rw [current_eq_of_find hstep]
          exact current_le_of_accept haccept

theorem current_le_of_stepFirst {counting : Counting} {source : String} {c : Char} {s s' : State}
    (hstep : s.stepFirst counting source c = .ok s') : s.current ≤ s'.current := by
  unfold stepFirst at hstep
  split at hstep
  · cases hstep; exact Nat.le_refl _
  · split at hstep
    · exact Nat.le_of_eq (current_eq_of_countLine hstep).symm
    · split at hstep
      · cases hstep; exact Nat.le_refl _
      · split at hstep
        · exact current_le_of_stepMark hstep
        · cases hstep; exact Nat.le_refl _

theorem current_lt_of_stepBetween {counting : Counting} {source : String} {s s' : State}
    (hstep : s.stepBetween counting source = .ok s') : s.current < s'.current := by
  simp only [stepBetween, bind, Except.bind] at hstep
  split at hstep
  · cases hstep
  · next htake =>
      refine Nat.lt_of_lt_of_le ?_ (current_le_of_stepFirst hstep)
      rw [eq_skip_of_take htake]
      exact s.beginPiece.current_lt_skip _

theorem ahead_of_stepComment {source : String} {s s' : State} (hmode : s.mode = .comment)
    (hstep : s.stepComment source = .ok s') : s.Ahead source s' := by
  simp only [stepComment, bind, Except.bind, pure, Except.pure] at hstep
  split at hstep
  · cases hstep
  · split at hstep
    · next hnext =>
        split at hstep
        · cases hstep
        · next htake =>
            cases hstep
            rw [eq_skip_of_take htake]
            exact Or.inl ⟨hnext.2, s.current_lt_skip _⟩
    · cases hstep
      exact Or.inr ⟨rfl, by simp [hmode], rfl⟩

theorem current_lt_of_closeString {source : String} {s s' : State}
    (hclose : s.closeString source = .ok s') : s.current < s'.current := by
  simp only [closeString, bind, Except.bind] at hclose
  split at hclose
  · cases hclose
  · next htake =>
      split at hclose
      · cases hclose
      · rw [current_eq_of_find hclose, eq_skip_of_take htake]
        exact s.current_lt_skip _

theorem ahead_of_stepString {counting : Counting} {source : String} {s s' : State}
    (hmode : s.mode = .string) (hstep : s.stepString counting source = .ok s') :
    s.Ahead source s' := by
  simp only [stepString, bind, Except.bind, pure, Except.pure] at hstep
  split at hstep
  · cases hstep
  · split at hstep
    · next hnext =>
        refine Or.inl ⟨hnext.2, ?_⟩
        split at hstep
        · cases hstep
        · next htake =>
            split at hstep
            · rw [current_eq_of_countLine hstep, eq_skip_of_take htake]
              exact s.current_lt_skip _
            · cases hstep
              rw [eq_skip_of_take htake]
              exact s.current_lt_skip _
    · split at hstep
      · next hbefore => exact Or.inl ⟨hbefore, current_lt_of_closeString hstep⟩
      · cases hstep
        exact Or.inr ⟨rfl, by simp [hmode], rfl⟩

theorem eq_ok_of_map_some {result : Except Breach State} {s' : State}
    (hresult : result.map some = .ok (some s')) : result = .ok s' := by
  cases result with
  | error breach => cases hresult
  | ok next =>
      cases hresult
      rfl

theorem ahead_of_step? {counting : Counting} {source : String} {s s' : State}
    (hstep : s.step? counting source = .ok (some s')) : s.Ahead source s' := by
  unfold step? at hstep
  split at hstep
  · split at hstep
    · next hbefore =>
        exact Or.inl ⟨hbefore, current_lt_of_stepBetween (eq_ok_of_map_some hstep)⟩
    · cases hstep
  · next hmode => exact ahead_of_stepComment hmode (eq_ok_of_map_some hstep)
  · next hmode => exact ahead_of_stepString hmode (eq_ok_of_map_some hstep)

theorem remaining_lt_of_step? {counting : Counting} {source : String} {s s' : State}
    (hstep : s.step? counting source = .ok (some s')) :
    s'.remaining source < s.remaining source :=
  remaining_lt_of_ahead (ahead_of_step? hstep)

def run (counting : Counting) (source : String) (s : State) : Except Breach State :=
  match _hstep : s.step? counting source with
  | .error breach => .error breach
  | .ok none => .ok s
  | .ok (some s') => run counting source s'
termination_by s.remaining source
decreasing_by
  exact remaining_lt_of_step? _hstep

/-- Where a run comes to a halt: at its end, or in front of a step that cannot be taken. -/
def halt (counting : Counting) (source : String) (s : State) : State :=
  match _hstep : s.step? counting source with
  | .ok (some s') => halt counting source s'
  | _ => s
termination_by s.remaining source
decreasing_by
  exact remaining_lt_of_step? _hstep

end State

/-- What a scan leaves behind: its tokens, and everything that was said. -/
structure Result where
  tokens : List Token
  emissions : List Emission
deriving DecidableEq

namespace Result

def ofState (s : State) : Result :=
  let tokens := (Token.eof s.line :: s.found).reverse
  { tokens := tokens
    emissions := (.log (.finished tokens.length s.errors s.line) :: s.said).reverse }

def diagnostics (result : Result) : List Diagnostic :=
  result.emissions.filterMap Emission.diagnostic?

end Result

def scanCounting (counting : Counting) (source : String) : Except Breach Result :=
  (State.initial.run counting source).map .ofState

/-- The scan of a source whose lines are to have numbers. -/
def scan (source : String) : Except Breach Result :=
  scanCounting .checked source

end LoxTokens.InPlace
