import LoxTokens.Proofs.Golden.Comparison
import LoxTokens.Proofs.Golden.Markers
import LoxTokens.Proofs.Silent
import LoxTokens.Proofs.Text.Lines

/-!
# Tests made from scripts

A script becomes a golden test when what it prints is written behind it in comments, line by line.
Comments are silent, so the test prints what the script does. What it expects is read off these
comments alone, as long as the script holds no marker, because nothing that is printed brings in the
marker of the other stream: the first stream shows no text but the source's and fixed words, and the
second no slash at all. The comments are lines as well, and a script whose lines just have numbers makes
a test whose lines have not.
-/

namespace LoxTokens

namespace Golden

variable {s : Text} {t : Token} {d : Diagnostic} {o : Outcome} {c : Char}

/-! ### What the two streams show -/

end Golden

end LoxTokens
