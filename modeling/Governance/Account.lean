import Governance.Error
import Governance.Text.Blank

/-!
# Checks on arguments

An account ID has 2 to 64 characters, all of them lower-case letters, digits, points, underscores or
hyphens of ASCII. A required text has a character that is not blank.
-/

namespace Governance

/-- A character that account IDs are made of. -/
def isAccountChar (c : Char) : Bool :=
  c.isLower || c.isDigit || c == '.' || c == '_' || c == '-'

/-- Whether a text is an account ID. -/
def isAccountId (id : String) : Bool :=
  decide (2 ≤ id.utf8ByteSize ∧ id.utf8ByteSize ≤ 64) && id.toList.all isAccountChar

/-- Refuses what is no account ID. -/
def checkAccount (field id : String) : Except InputFault Unit :=
  if isAccountId id then .ok () else .error (.account field id)

/-- Whether a text has a character that is not blank. -/
def isFilled (text : String) : Bool :=
  Text.isFilled text.toList

/-- Refuses a text that is missing or blank. -/
def requireFilled (field : String) (text : Option String) : Except InputFault Unit :=
  if text.any isFilled then .ok () else .error (.blank field)

end Governance
