import Governance.FileContent
import Governance.Json.Decoder
import Governance.Session.Store
import Governance.Text.Blank

/-!
# Sessions in a file

A store may keep its entries in a file, as a JSON object with one member to a line. The file is read
before every operation and written again after every change, so nothing is lost when the program ends.
A file that is not there, or has nothing but blanks in it, has no entries. Main statement: the entries
that were written are read (`entriesOf_written`).
-/

namespace Governance

open Json

namespace SessionFile

/-- The tokens of further members, each on a line of its own, and of the end. -/
def furtherLines : List (String × String) → List (List Char × Token)
  | [] => [(['\n'], .closeObject)]
  | (name, value) :: entries =>
    ([], .comma) :: ("\n  ".toList, .string (some name)) :: ([], .colon) ::
      ([' '], .string (some value)) :: furtherLines entries

/-- The tokens of a file, with the white space in front of each. -/
def lines : List (String × String) → List (List Char × Token)
  | [] => [([], .openObject), ([], .closeObject)]
  | (name, value) :: entries =>
    ([], .openObject) :: ("\n  ".toList, .string (some name)) :: ([], .colon) ::
      ([' '], .string (some value)) :: furtherLines entries

/-- The text of a file with the given entries. -/
def textOf (entries : StringMap String) : String :=
  String.ofList (Token.spaced (lines entries.entries))

/-- The file with the given entries. -/
def written (entries : StringMap String) : FileContent :=
  .ofText (textOf entries)

/-- The entries of a file. -/
def entriesOf (file : FileContent) : Except Error (StringMap String) :=
  match file.readText with
  | .ok text =>
    if Text.isFilled text.toList then
      match Decoder.ofText? (Decoder.map Decoder.string) text with
      | some entries => .ok entries
      | none => .error .serialization
    else .ok .empty
  | .error .notFound => .ok .empty
  | .error fault => .error (.session (.stated fault.message))

/-- What becomes of a file when entries are written to it; a directory refuses. -/
def replace (entries : StringMap String) : FileContent → Except Error FileContent
  | .directory => .error (.session (.stated FileContent.ReadFault.isDirectory.message))
  | _ => .ok (written entries)

/-- Reads the entries and goes on with them. -/
def withEntries (use : StringMap String → StateM FileContent (Except Error α)) :
    ExceptT Error (StateM FileContent) α :=
  ExceptT.mk fun file =>
    match entriesOf file with
    | .ok entries => use entries file
    | .error e => (.error e, file)

/-- Writes entries. -/
def write (entries : StringMap String) : StateM FileContent (Except Error Unit) := fun file =>
  match replace entries file with
  | .ok file => (.ok (), file)
  | .error e => (.error e, file)

/-- The store that keeps its entries in a file. -/
def store : SessionStore (StateM FileContent) where
  get name := withEntries fun entries => pure (.ok (entries.get? name))
  set name value := withEntries fun entries => write (entries.insert name value)
  remove name := withEntries fun entries =>
    if (entries.get? name).isSome then write (entries.erase name) else pure (.ok ())

/-! ## What is written is read -/

theorem readable_furtherLines (es : List (String × String)) :
    ∀ p ∈ furtherLines es, p.1.all Token.isSpace = true ∧ p.2.Writable ∧ p.2.isNumber = false := by
  induction es with
  | nil => simp [furtherLines, Token.Writable, Token.isNumber, Token.isSpace]
  | cons e es ih =>
    obtain ⟨name, value⟩ := e
    simp only [furtherLines, List.forall_mem_cons]
    exact ⟨⟨rfl, trivial, rfl⟩, ⟨rfl, rfl, rfl⟩, ⟨rfl, trivial, rfl⟩, ⟨rfl, rfl, rfl⟩, ih⟩

theorem readable_lines (es : List (String × String)) :
    ∀ p ∈ lines es, p.1.all Token.isSpace = true ∧ p.2.Writable ∧ p.2.isNumber = false := by
  cases es with
  | nil => simp [lines, Token.Writable, Token.isNumber]
  | cons e es =>
    obtain ⟨name, value⟩ := e
    simp only [lines, List.forall_mem_cons]
    exact ⟨⟨rfl, trivial, rfl⟩, ⟨rfl, rfl, rfl⟩, ⟨rfl, trivial, rfl⟩, ⟨rfl, rfl, rfl⟩,
      readable_furtherLines es⟩

/-- The entries as members of an object. -/
def members (es : List (String × String)) : List (Option String × Document) :=
  es.map fun (name, value) => (some name, .text value)

theorem tokens_furtherLines (es : List (String × String)) :
    (furtherLines es).map Prod.snd = Document.memberTokens (members es) := by
  induction es with
  | nil => rfl
  | cons e es ih =>
    obtain ⟨name, value⟩ := e
    simpa [furtherLines, members, Document.memberTokens, Document.tokens, Document.text] using ih

theorem tokens_lines (es : List (String × String)) :
    (lines es).map Prod.snd = (Document.object (members es)).tokens := by
  cases es with
  | nil => rfl
  | cons e es =>
    obtain ⟨name, value⟩ := e
    simpa [lines, members, Document.tokens, Document.text] using tokens_furtherLines es

/-- The text of a file spells the object of its entries. -/
theorem parse_textOf (entries : StringMap String) :
    Document.parse (textOf entries).toList = some (.object (members entries.entries)) := by
  simp [Document.parse, textOf, Token.lex_spaced (readable_lines _), tokens_lines,
    Document.ofTokens?_tokens]

theorem namedMembers_members (es : List (String × String)) (depth : Nat) :
    Decoder.namedMembers (Decoder.string depth) (members es) = some es := by
  induction es with
  | nil => rfl
  | cons e es ih =>
    obtain ⟨name, value⟩ := e
    rw [members] at ih
    rw [members, List.map_cons, Decoder.namedMembers, ih]
    rfl

/-- The entries that were written are read. -/
theorem entriesOf_written (entries : StringMap String) :
    entriesOf (written entries) = .ok entries := by
  have filled : Text.isFilled (textOf entries).toList = true := by
    rw [textOf, String.toList_ofList]
    cases entries.entries <;> rfl
  have back : Decoder.ofText? (Decoder.map Decoder.string) (textOf entries) = some entries := by
    rw [Decoder.ofText?, parse_textOf]
    simp [Value.deepest, Decoder.map, namedMembers_members, StringMap.ofList_entries]
  simp [entriesOf, written, FileContent.readText_ofText, filled, back]

end SessionFile

end Governance
