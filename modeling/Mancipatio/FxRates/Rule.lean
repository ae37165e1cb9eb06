import Mathlib

/-!
# Which rate counts

A payment mint has a manual row, an automatic one, or both.
-/

namespace Mancipatio

inductive FxKind where
  | eurPeg
  | rate
  deriving DecidableEq, Repr

section rule
variable {Row : Type} (pinned : Row → Bool) (asOf : Row → Int) (fresh : Row → Option Bool)

/-- The row that counts, if any: a pinned manual one, else the first that is fresh, else the one observed last. No result
where the age of a row that is looked at has none. -/
def effectiveRow (manual auto : Option Row) : Option (Option Row) :=
  if manual.any pinned = true then some manual
  else do
    if ← auto.elim (some false) fresh then return auto
    else if ← manual.elim (some false) fresh then return manual
    else if auto.any (fun a => manual.all fun m => decide (asOf m < asOf a)) = true then return auto
    else return manual

end rule

end Mancipatio
