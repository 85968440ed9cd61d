/- ADesk/A11y/Role
   digest: Toolkit role names in the wire vocabulary: lowercase words joined by single underscores. -/

import Mathlib.Data.List.Basic

set_option autoImplicit false

namespace ADesk.A11y.Role

/-- What the normalizer carries from one character to the next. -/
structure Normalizer where
  out : List Char
  pendingSeparator : Bool

def Normalizer.take (state : Normalizer) (ch : Char) : Normalizer :=
  if ch.isAlphanum then
    -- A separator is only emitted once the name has started.
    ⟨(if state.pendingSeparator && !state.out.isEmpty then state.out ++ ['_'] else state.out) ++
      [ch.toLower], false⟩
  else { state with pendingSeparator := true }

def normalizeRole (raw : String) : String :=
  String.ofList (raw.toList.foldl Normalizer.take ⟨[], false⟩).out

example : normalizeRole "  Read Only " = "read_only" := by decide +kernel

/-- The characters of a normalized role name. -/
def RoleChar (ch : Char) : Prop := ch.isAlphanum = true ∨ ch = '_'

end ADesk.A11y.Role
