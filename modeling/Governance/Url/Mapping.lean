import Governance.Text.Ranges
import Governance.Url.Mapping.Excluded
import Governance.Url.Mapping.Images
import Governance.Url.Mapping.Sequences
import Governance.Url.Mapping.Shifts

/-!
# What characters stand for in a domain

Domains are written in many ways and compared in one: a capital stands for its small letter, a wide or
a styled letter for the plain one, a ligature for its letters. Some characters leave no trace, and some
no domain has. Main statement: ASCII stands for itself in lower case (`image?_of_ascii`).
-/

namespace Governance.Url.Mapping

open Governance.Text

/-- What a table has for a code point: each entry has the first of some code points in a row and what
they have. -/
def lookup? (table : List (Nat × List α)) (n : Nat) : Option α :=
  table.findSome? fun (first, row) => if first ≤ n then row[n - first]? else none

/-- The code points that a code point outside ASCII stands for. -/
def codes (n : Nat) : List Nat :=
  if liesIn n ignoredRanges then []
  else
    match lookup? sequences n with
    | some ms => ms
    | none => [((shifts.findSome? (·.image? n)).or (lookup? images n)).getD n]

/-- What a character stands for, unless no domain has it. -/
def image? (c : Char) : Option (List Char) :=
  if c.toNat < 0x80 then some [c.toLower]
  else if liesIn c.toNat excludedRanges then none
  else some ((codes c.toNat).map Char.ofNat)

/-- What a text stands for, unless it has a character that no domain has. -/
def mapped? (cs : List Char) : Option (List Char) :=
  (cs.mapM image?).map List.flatten

/-- An ASCII character stands for itself in lower case. -/
theorem image?_of_ascii {c : Char} (h : c.toNat < 0x80) : image? c = some [c.toLower] :=
  if_pos h

end Governance.Url.Mapping
