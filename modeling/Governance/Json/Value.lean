import Governance.Json.Document
import Governance.Json.Number
import Governance.StringMap

/-!
# Free JSON values

Where any JSON is allowed, only its meaning is kept: an object is a map whose members are in ascending
order of names, the last of several members with one name counts, and numbers are integers or
doubles. A document is a value if its strings spell texts, its numbers are not too large, and it
nests no deeper than is allowed where it stands. Main statement: a regular value (one that reading can
give, without doubles) is read back from its document (`ofDocument?_toDocument`) and hence from its text
(`ofText?_toText`).
-/

namespace Governance.Json

/-- A free JSON value. -/
inductive Value
  | null
  | bool (b : Bool)
  | number (n : Number)
  | string (s : String)
  | array (items : List Value)
  | object (members : List (String × Value))
  deriving Repr, Inhabited

namespace Value

/-! ## Equality -/

mutual

/-- Decides whether two values are the same. -/
def decEq : (v w : Value) → Decidable (v = w)
  | .null, .null => isTrue rfl
  | .bool a, .bool b =>
    if h : a = b then isTrue (h ▸ rfl) else isFalse fun e => h (Value.bool.inj e)
  | .number a, .number b =>
    if h : a = b then isTrue (h ▸ rfl) else isFalse fun e => h (Value.number.inj e)
  | .string a, .string b =>
    if h : a = b then isTrue (h ▸ rfl) else isFalse fun e => h (Value.string.inj e)
  | .array vs, .array ws =>
    match decEqItems vs ws with
    | isTrue h => isTrue (h ▸ rfl)
    | isFalse h => isFalse fun e => h (Value.array.inj e)
  | .object ms, .object ns =>
    match decEqMembers ms ns with
    | isTrue h => isTrue (h ▸ rfl)
    | isFalse h => isFalse fun e => h (Value.object.inj e)
  | .null, .bool _ | .null, .number _ | .null, .string _ | .null, .array _ | .null, .object _
  | .bool _, .null | .bool _, .number _ | .bool _, .string _ | .bool _, .array _
  | .bool _, .object _ | .number _, .null | .number _, .bool _ | .number _, .string _
  | .number _, .array _ | .number _, .object _ | .string _, .null | .string _, .bool _
  | .string _, .number _ | .string _, .array _ | .string _, .object _ | .array _, .null
  | .array _, .bool _ | .array _, .number _ | .array _, .string _ | .array _, .object _
  | .object _, .null | .object _, .bool _ | .object _, .number _ | .object _, .string _
  | .object _, .array _ => isFalse nofun

/-- Decides whether two lists of items are the same. -/
def decEqItems : (vs ws : List Value) → Decidable (vs = ws)
  | [], [] => isTrue rfl
  | [], _ :: _ | _ :: _, [] => isFalse nofun
  | v :: vs, w :: ws =>
    match decEq v w, decEqItems vs ws with
    | isTrue h, isTrue hs => isTrue (h ▸ hs ▸ rfl)
    | isFalse h, _ => isFalse fun e => h (List.cons.inj e).1
    | _, isFalse hs => isFalse fun e => hs (List.cons.inj e).2

/-- Decides whether two lists of members are the same. -/
def decEqMembers : (ms ns : List (String × Value)) → Decidable (ms = ns)
  | [], [] => isTrue rfl
  | [], _ :: _ | _ :: _, [] => isFalse nofun
  | (a, v) :: ms, (b, w) :: ns =>
    if h : a = b then
      match decEq v w, decEqMembers ms ns with
      | isTrue hv, isTrue hs => isTrue (h ▸ hv ▸ hs ▸ rfl)
      | isFalse hv, _ => isFalse fun e => hv (Prod.mk.inj (List.cons.inj e).1).2
      | _, isFalse hs => isFalse fun e => hs (List.cons.inj e).2
    else isFalse fun e => h (Prod.mk.inj (List.cons.inj e).1).1

end

instance : DecidableEq Value := decEq

mutual

/-- The value with every zero made positive. -/
def unsignedZeros : Value → Value
  | .number n => .number n.unsignedZero
  | .array items => .array (unsignedZeroItems items)
  | .object members => .object (unsignedZeroMembers members)
  | v => v

/-- The items with every zero made positive. -/
def unsignedZeroItems : List Value → List Value
  | [] => []
  | v :: vs => unsignedZeros v :: unsignedZeroItems vs

/-- The members with every zero made positive. -/
def unsignedZeroMembers : List (String × Value) → List (String × Value)
  | [] => []
  | (name, v) :: ms => (name, unsignedZeros v) :: unsignedZeroMembers ms

end

/-- Whether two values are equal as JSON: the same, except that minus zero equals zero. -/
def same (v w : Value) : Bool :=
  decide (v.unsignedZeros = w.unsignedZeros)

/-! ## Access -/

/-- The member of an object with the given name. -/
def get? (v : Value) (name : String) : Option Value :=
  match v with
  | .object members => Entries.get? name members
  | _ => none

/-- The text of a string. -/
def asString? : Value → Option String
  | .string s => some s
  | _ => none

/-- The integer, if the value is one from `0` to `2 ^ 64 - 1`. -/
def asUInt64? : Value → Option UInt64
  | .number (.integer n) => if 0 ≤ n ∧ n < UInt64.size then some (UInt64.ofNat n.toNat) else none
  | _ => none

/-- A natural number as a value. -/
def nat (n : Nat) : Value :=
  .number (.integer n)

/-- The object with the given members; of two with one name the later one stays. -/
def record (members : List (String × Value)) : Value :=
  .object (StringMap.ofList members).entries

/-- `null` for nothing. -/
def nullable (wrap : α → Value) : Option α → Value
  | none => .null
  | some a => wrap a

/-! ## Documents -/

mutual

/-- The document of a value. -/
def toDocument : Value → Document
  | .null => .null
  | .bool b => .bool b
  | .number n => .number n.toNumeral
  | .string s => .text s
  | .array items => .array (toItems items)
  | .object members => .object (toMembers members)

/-- The documents of items. -/
def toItems : List Value → List Document
  | [] => []
  | v :: vs => toDocument v :: toItems vs

/-- The documents of members. -/
def toMembers : List (String × Value) → List (Option String × Document)
  | [] => []
  | (name, v) :: ms => (some name, toDocument v) :: toMembers ms

end

mutual

/-- The value of a document in which arrays and objects may nest `depth` deep. -/
def ofDocument? (depth : Nat) : Document → Option Value
  | .null => some .null
  | .bool b => some (.bool b)
  | .number n => (Number.ofNumeral? n).map .number
  | .string s => s.map .string
  | .array items =>
    match depth with
    | 0 => none
    | depth + 1 => (ofItems? depth items).map .array
  | .object members =>
    match depth with
    | 0 => none
    | depth + 1 => (ofMembers? depth members []).map .object

/-- The values of items. -/
def ofItems? (depth : Nat) : List Document → Option (List Value)
  | [] => some []
  | d :: ds => do
    let v ← ofDocument? depth d
    let vs ← ofItems? depth ds
    return v :: vs

/-- Puts members into entries, one after the other. -/
def ofMembers? (depth : Nat) : List (Option String × Document) → List (String × Value) →
    Option (List (String × Value))
  | [], done => some done
  | (name, d) :: ms, done => do
    let name ← name
    let v ← ofDocument? depth d
    ofMembers? depth ms (Entries.insert name v done)

end

/-- The text of a value: no white space, members in ascending order of names. -/
def toText (v : Value) : String :=
  v.toDocument.toText

/-- How deep arrays and objects nest in a text that is read. -/
def deepest : Nat := 127

/-- The value that a text spells. -/
def ofText? (text : String) : Option Value := do
  ofDocument? deepest (← Document.parse text.toList)

/-! ## What is written is read -/

mutual

/-- How deep arrays and objects nest in a value. -/
def depth : Value → Nat
  | .array items => depthItems items + 1
  | .object members => depthMembers members + 1
  | _ => 0

/-- How deep arrays and objects nest in items. -/
def depthItems : List Value → Nat
  | [] => 0
  | v :: vs => max (depth v) (depthItems vs)

/-- How deep arrays and objects nest in members. -/
def depthMembers : List (String × Value) → Nat
  | [] => 0
  | (_, v) :: ms => max (depth v) (depthMembers ms)

end

mutual

/-- Values that reading can give, without doubles: integers are in range, and members are in ascending
order of names. -/
def Regular : Value → Prop
  | .number (.integer n) => Number.InRange n
  | .number (.double _) => False
  | .array items => RegularItems items
  | .object members => Entries.Sorted members ∧ RegularMembers members
  | _ => True

/-- All items are regular. -/
def RegularItems : List Value → Prop
  | [] => True
  | v :: vs => Regular v ∧ RegularItems vs

/-- All members are regular. -/
def RegularMembers : List (String × Value) → Prop
  | [] => True
  | (_, v) :: ms => Regular v ∧ RegularMembers ms

end

mutual

theorem ofDocument?_toDocument : ∀ (v : Value) (allowed : Nat), v.Regular → v.depth ≤ allowed →
    ofDocument? allowed v.toDocument = some v
  | .null, _, _, _ => rfl
  | .bool _, _, _, _ => rfl
  | .string _, _, _, _ => rfl
  | .number (.integer n), _, h, _ => by
    simp [toDocument, ofDocument?, Number.toNumeral, Number.ofNumeral?_ofInt h]
  | .number (.double _), _, h, _ => h.elim
  | .array items, allowed, h, deep => by
    cases allowed with
    | zero => simp [depth] at deep
    | succ allowed =>
      have := ofItems?_toItems items allowed h (by simpa [depth] using deep)
      simp [toDocument, ofDocument?, this]
  | .object members, allowed, h, deep => by
    cases allowed with
    | zero => simp [depth] at deep
    | succ allowed =>
      have := ofMembers?_toMembers members allowed [] h.1 h.2 (by simpa [depth] using deep)
      simp [toDocument, ofDocument?, this]

theorem ofItems?_toItems : ∀ (vs : List Value) (allowed : Nat), RegularItems vs →
    depthItems vs ≤ allowed → ofItems? allowed (toItems vs) = some vs
  | [], _, _, _ => rfl
  | v :: vs, allowed, h, deep => by
    have deep : v.depth ≤ allowed ∧ depthItems vs ≤ allowed := by
      simpa [depthItems, Nat.max_le] using deep
    simp [toItems, ofItems?, ofDocument?_toDocument v allowed h.1 deep.1,
      ofItems?_toItems vs allowed h.2 deep.2]

theorem ofMembers?_toMembers : ∀ (ms : List (String × Value)) (allowed : Nat)
    (done : List (String × Value)), Entries.Sorted (done ++ ms) → RegularMembers ms →
    depthMembers ms ≤ allowed → ofMembers? allowed (toMembers ms) done = some (done ++ ms)
  | [], _, _, _, _, _ => by simp [toMembers, ofMembers?]
  | (name, v) :: ms, allowed, done, sorted, h, deep => by
    have deep : v.depth ≤ allowed ∧ depthMembers ms ≤ allowed := by
      simpa [depthMembers, Nat.max_le] using deep
    have below : ∀ d ∈ done, d.1 < name := fun d hd =>
      (List.pairwise_append.1 sorted).2.2 d hd (name, v) List.mem_cons_self
    have := ofMembers?_toMembers ms allowed (done ++ [(name, v)]) (by simpa using sorted) h.2 deep.2
    simp [toMembers, ofMembers?, ofDocument?_toDocument v allowed h.1 deep.1,
      StringMap.insert_entries_of_lt v below, this]

end

theorem writable_number (n : Int) : (Token.number (Numeral.ofInt n)).Writable := by
  refine ⟨?_, fun rest h => Numeral.read_text_ofInt n h⟩
  by_cases neg : n < 0
  · exact ⟨'-', Text.digits n.natAbs, by simp [Numeral.text, Numeral.ofInt, neg], .inr rfl⟩
  · cases hd : Text.digits n.natAbs with
    | nil => exact absurd hd (Text.digits_ne_nil _)
    | cons c cs =>
      exact ⟨c, cs, by simp [Numeral.text, Numeral.ofInt, neg, hd],
        .inl (Text.isDigit_of_mem_digits (by rw [hd]; exact List.mem_cons_self))⟩

mutual

theorem writable_toDocument : ∀ v : Value, v.Regular → v.toDocument.Writable
  | .null, _ => trivial
  | .bool _, _ => trivial
  | .string _, _ => rfl
  | .number (.integer n), _ => writable_number n
  | .number (.double _), h => h.elim
  | .array items, h => writableItems_toItems items h
  | .object members, h => writableMembers_toMembers members h.2

theorem writableItems_toItems : ∀ vs : List Value, RegularItems vs →
    Document.WritableItems (toItems vs)
  | [], _ => trivial
  | v :: vs, h => ⟨writable_toDocument v h.1, writableItems_toItems vs h.2⟩

theorem writableMembers_toMembers : ∀ ms : List (String × Value), RegularMembers ms →
    Document.WritableMembers (toMembers ms)
  | [], _ => trivial
  | (_, v) :: ms, h => ⟨rfl, writable_toDocument v h.1, writableMembers_toMembers ms h.2⟩

end

/-- A regular value that does not nest too deep is read back from its text. -/
theorem ofText?_toText {v : Value} (h : v.Regular) (deep : v.depth ≤ deepest) :
    ofText? v.toText = some v := by
  simp [ofText?, toText, Document.parse_toText (writable_toDocument v h),
    ofDocument?_toDocument v deepest h deep]

end Value

end Governance.Json
