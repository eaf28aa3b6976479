import Governance.Json.Token

/-!
# JSON documents

A document is what a JSON text spells, member by member: members keep their order, a name may occur
twice, and a number stays the numeral it was. Texts are read by a machine that takes one token at a
time and keeps the arrays and objects that are still open on a stack, so that reading a document in
front of more tokens is reading the document and going on (`run_tokens`). Main statement: every
writable document is read back from its text (`parse_render`).
-/

namespace Governance.Json

/-- What a JSON text spells. A string or a member name is `none` if no text is spelled by its literal. -/
inductive Document
  | null
  | bool (b : Bool)
  | number (n : Numeral)
  | string (s : Option String)
  | array (items : List Document)
  | object (members : List (Option String × Document))
  deriving Repr, Inhabited

namespace Document

/-! ## Construction -/

/-- A string. -/
def text (s : String) : Document :=
  .string (some s)

/-- A natural number. -/
def nat (n : Nat) : Document :=
  .number (Numeral.ofNat n)

/-- An object with the given members, in this order. -/
def record (members : List (String × Document)) : Document :=
  .object (members.map fun (name, d) => (some name, d))

/-- `null` for nothing. -/
def nullable (write : α → Document) : Option α → Document
  | none => .null
  | some a => write a

/-! ## Writing -/

mutual

/-- The tokens of a document. -/
def tokens : Document → List Token
  | .null => [.null]
  | .bool b => [.bool b]
  | .number n => [.number n]
  | .string s => [.string s]
  | .array [] => [.openArray, .closeArray]
  | .array (d :: ds) => .openArray :: (tokens d ++ itemTokens ds)
  | .object [] => [.openObject, .closeObject]
  | .object ((name, d) :: ms) =>
    .openObject :: .string name :: .colon :: (tokens d ++ memberTokens ms)

/-- The tokens of the further items of an array, and its end. -/
def itemTokens : List Document → List Token
  | [] => [.closeArray]
  | d :: ds => .comma :: (tokens d ++ itemTokens ds)

/-- The tokens of the further members of an object, and its end. -/
def memberTokens : List (Option String × Document) → List Token
  | [] => [.closeObject]
  | (name, d) :: ms => .comma :: .string name :: .colon :: (tokens d ++ memberTokens ms)

end

/-- The text of a document, without white space. -/
def render (d : Document) : List Char :=
  Token.textOf d.tokens

/-- The text of a document as a string. -/
def toText (d : Document) : String :=
  String.ofList d.render

/-! ## Reading -/

/-- An array or object that is open: its finished parts, the last one first, and for an object the name
whose value is being read. -/
inductive Frame
  | array (done : List Document)
  | object (done : List (Option String × Document)) (name : Option String)

/-- What the reader waits for. -/
inductive State
  /-- A value. -/
  | value (stack : List Frame)
  /-- The first item of an array, or its end. -/
  | arrayStart (stack : List Frame)
  /-- A comma, or the end of the array. -/
  | afterItem (done : List Document) (stack : List Frame)
  /-- The first name of an object, or its end. -/
  | objectStart (stack : List Frame)
  /-- A name. -/
  | name (done : List (Option String × Document)) (stack : List Frame)
  /-- The colon after a name. -/
  | colon (done : List (Option String × Document)) (name : Option String) (stack : List Frame)
  /-- A comma, or the end of the object. -/
  | afterMember (done : List (Option String × Document)) (stack : List Frame)
  /-- Nothing more. -/
  | finished (d : Document)

/-- The state after a value is complete: it goes to the innermost open array or object. -/
def deliver (d : Document) : List Frame → State
  | [] => .finished d
  | .array done :: stack => .afterItem (d :: done) stack
  | .object done name :: stack => .afterMember ((name, d) :: done) stack

/-- What a token does where a value is expected. -/
def stepValue (stack : List Frame) : Token → Option State
  | .null => some (deliver .null stack)
  | .bool b => some (deliver (.bool b) stack)
  | .number n => some (deliver (.number n) stack)
  | .string s => some (deliver (.string s) stack)
  | .openArray => some (.arrayStart stack)
  | .openObject => some (.objectStart stack)
  | _ => none

/-- What a token does; `none` if it is out of place. -/
def step : State → Token → Option State
  | .value stack, t => stepValue stack t
  | .arrayStart stack, .closeArray => some (deliver (.array []) stack)
  | .arrayStart stack, t => stepValue (.array [] :: stack) t
  | .afterItem done stack, .comma => some (.value (.array done :: stack))
  | .afterItem done stack, .closeArray => some (deliver (.array done.reverse) stack)
  | .objectStart stack, .closeObject => some (deliver (.object []) stack)
  | .objectStart stack, .string name => some (.colon [] name stack)
  | .name done stack, .string name => some (.colon done name stack)
  | .colon done name stack, .colon => some (.value (.object done name :: stack))
  | .afterMember done stack, .comma => some (.name done stack)
  | .afterMember done stack, .closeObject => some (deliver (.object done.reverse) stack)
  | _, _ => none

/-- What a sequence of tokens does. -/
def run (s : State) (ts : List Token) : Option State :=
  ts.foldlM step s

/-- The document that a sequence of tokens spells. -/
def ofTokens? (ts : List Token) : Option Document :=
  match run (.value []) ts with
  | some (.finished d) => some d
  | _ => none

/-- The document that a text spells. -/
def parse (cs : List Char) : Option Document := do
  ofTokens? (← Token.lex cs)

/-! ## What is written is read -/

theorem run_cons (s : State) (t : Token) (ts : List Token) :
    run s (t :: ts) = (step s t).bind fun s => run s ts := by
  simp [run, List.foldlM_cons]

theorem run_append (s : State) (ts us : List Token) :
    run s (ts ++ us) = (run s ts).bind fun s => run s us := by
  simp [run, List.foldlM_append]

/-- A token that begins a value does in an array what it does in front of a value. -/
theorem step_arrayStart {t : Token} (h : t ≠ .closeArray) (stack : List Frame) :
    step (.arrayStart stack) t = step (.value (.array [] :: stack)) t := by
  cases t <;> first | rfl | exact absurd rfl h

theorem tokens_head (d : Document) : ∃ t ts, d.tokens = t :: ts ∧ t ≠ .closeArray := by
  cases d with
  | array items => cases items <;> exact ⟨_, _, rfl, by simp⟩
  | object members =>
    cases members with
    | nil => exact ⟨_, _, rfl, by simp⟩
    | cons m ms => exact ⟨_, _, rfl, by simp⟩
  | _ => exact ⟨_, _, rfl, by simp⟩

theorem run_arrayStart (d : Document) (ts : List Token) (stack : List Frame) :
    run (.arrayStart stack) (d.tokens ++ ts) = run (.value (.array [] :: stack)) (d.tokens ++ ts) := by
  obtain ⟨t, us, e, h⟩ := tokens_head d
  rw [e, List.cons_append, run_cons, run_cons, step_arrayStart h]

mutual

/-- Reading the tokens of a document delivers it, wherever it stands. -/
theorem run_tokens (stack : List Frame) :
    ∀ d : Document, run (.value stack) d.tokens = some (deliver d stack)
  | .null => rfl
  | .bool _ => rfl
  | .number _ => rfl
  | .string _ => rfl
  | .array [] => rfl
  | .array (d :: ds) => by
    rw [tokens, run_cons]
    show run (.arrayStart stack) _ = _
    rw [run_arrayStart, run_append, run_tokens _ d]
    exact run_itemTokens stack [d] ds
  | .object [] => rfl
  | .object ((name, d) :: ms) => by
    rw [tokens, run_cons]
    show run (.objectStart stack) _ = _
    rw [run_cons]
    show run (.colon [] name stack) _ = _
    rw [run_cons]
    show run (.value (.object [] name :: stack)) _ = _
    rw [run_append, run_tokens _ d]
    exact run_memberTokens stack [(name, d)] ms

theorem run_itemTokens (stack : List Frame) (done : List Document) :
    ∀ ds : List Document,
      run (.afterItem done stack) (itemTokens ds) =
        some (deliver (.array (done.reverse ++ ds)) stack)
  | [] => by rw [List.append_nil]; rfl
  | d :: ds => by
    rw [itemTokens, run_cons]
    show run (.value (.array done :: stack)) _ = _
    rw [run_append, run_tokens _ d]
    have := run_itemTokens stack (d :: done) ds
    simpa [deliver] using this

theorem run_memberTokens (stack : List Frame) (done : List (Option String × Document)) :
    ∀ ms : List (Option String × Document),
      run (.afterMember done stack) (memberTokens ms) =
        some (deliver (.object (done.reverse ++ ms)) stack)
  | [] => by rw [List.append_nil]; rfl
  | (name, d) :: ms => by
    rw [memberTokens, run_cons]
    show run (.name done stack) _ = _
    rw [run_cons]
    show run (.colon done name stack) _ = _
    rw [run_cons]
    show run (.value (.object done name :: stack)) _ = _
    rw [run_append, run_tokens _ d]
    have := run_memberTokens stack ((name, d) :: done) ms
    simpa [deliver] using this

end

/-- Every document is read back from its tokens. -/
theorem ofTokens?_tokens (d : Document) : ofTokens? d.tokens = some d := by
  rw [ofTokens?, run_tokens]
  rfl

mutual

/-- Documents that can be written: every string spells a text and every numeral is read back. -/
def Writable : Document → Prop
  | .null => True
  | .bool _ => True
  | .number n => (Token.number n).Writable
  | .string s => s.isSome
  | .array items => WritableItems items
  | .object members => WritableMembers members

/-- All items of an array can be written. -/
def WritableItems : List Document → Prop
  | [] => True
  | d :: ds => Writable d ∧ WritableItems ds

/-- All members of an object can be written. -/
def WritableMembers : List (Option String × Document) → Prop
  | [] => True
  | (name, d) :: ms => name.isSome ∧ Writable d ∧ WritableMembers ms

end

theorem separated_cons {t : Token} {ts : List Token} (ht : t.Writable) (hn : t.isNumber = false)
    (h : Token.Separated ts) : Token.Separated (t :: ts) := by
  cases ts with
  | nil => exact ht
  | cons u us => exact ⟨ht, fun c => absurd c (by simp [hn]), h⟩

/-- A sequence of tokens that no number begins. -/
def StartsApart (ts : List Token) : Prop :=
  ∀ t, ts.head? = some t → t.isNumber = false

mutual

theorem separated_tokens : ∀ (d : Document) (ts : List Token), d.Writable → Token.Separated ts →
    StartsApart ts → Token.Separated (d.tokens ++ ts)
  | .null, _, _, h, _ => separated_cons trivial rfl h
  | .bool _, _, _, h, _ => separated_cons trivial rfl h
  | .string _, _, w, h, _ => separated_cons w rfl h
  | .number n, ts, w, h, apart => by
    cases ts with
    | nil => exact w
    | cons u us => exact ⟨w, fun _ => apart u rfl, h⟩
  | .array [], _, _, h, _ =>
    separated_cons trivial rfl (separated_cons trivial rfl h)
  | .array (d :: ds), ts, w, h, apart => by
    rw [tokens, List.cons_append, List.append_assoc]
    exact separated_cons trivial rfl
      (separated_tokens d _ w.1 (separated_itemTokens ds ts w.2 h) (by cases ds <;> rintro _ ⟨⟩ <;> rfl))
  | .object [], _, _, h, _ =>
    separated_cons trivial rfl (separated_cons trivial rfl h)
  | .object ((name, d) :: ms), ts, w, h, apart => by
    rw [tokens, List.cons_append, List.cons_append, List.cons_append, List.append_assoc]
    exact separated_cons trivial rfl (separated_cons w.1 rfl (separated_cons trivial rfl
      (separated_tokens d _ w.2.1 (separated_memberTokens ms ts w.2.2 h)
        (by rcases ms with _ | ⟨_, _⟩ <;> rintro _ ⟨⟩ <;> rfl))))

theorem separated_itemTokens : ∀ (ds : List Document) (ts : List Token), WritableItems ds →
    Token.Separated ts → Token.Separated (itemTokens ds ++ ts)
  | [], _, _, h => separated_cons trivial rfl h
  | d :: ds, ts, w, h => by
    rw [itemTokens, List.cons_append, List.append_assoc]
    exact separated_cons trivial rfl
      (separated_tokens d _ w.1 (separated_itemTokens ds ts w.2 h) (by cases ds <;> rintro _ ⟨⟩ <;> rfl))

theorem separated_memberTokens : ∀ (ms : List (Option String × Document)) (ts : List Token),
    WritableMembers ms → Token.Separated ts → Token.Separated (memberTokens ms ++ ts)
  | [], _, _, h => separated_cons trivial rfl h
  | (name, d) :: ms, ts, w, h => by
    rw [memberTokens, List.cons_append, List.cons_append, List.cons_append, List.append_assoc]
    exact separated_cons trivial rfl (separated_cons w.1 rfl (separated_cons trivial rfl
      (separated_tokens d _ w.2.1 (separated_memberTokens ms ts w.2.2 h)
        (by rcases ms with _ | ⟨_, _⟩ <;> rintro _ ⟨⟩ <;> rfl))))

end

/-- A writable document is read back from its text. -/
theorem parse_render {d : Document} (h : d.Writable) : parse d.render = some d := by
  have sep := separated_tokens d [] h trivial (by rintro _ ⟨⟩)
  rw [List.append_nil] at sep
  simp [parse, render, Token.lex_text sep, ofTokens?_tokens]

theorem parse_toText {d : Document} (h : d.Writable) : parse d.toText.toList = some d := by
  simp [toText, parse_render h]

end Document

end Governance.Json
