import Governance.Proofs.Rpc.Wording
import Governance.Rpc.Reply
import Mathlib.Control.Monad.Basic

/-!
# Errors of the node

An error that the node reports is put into words: the message, the name of the cause behind a colon, the data, and
the code. What is seen of them later is meant to be the name of the cause. But all other parts are free text, and
may hold a colon, a name or the words of a gateway themselves. `NodeError.SoundsPassing` lists the ways in which
an error comes to be taken for a passing trouble, and it is so taken in no other way
(`NodeError.isTransientRpc_describe_iff`). In a plain error, whose message has no colon with a blank and does not
begin like that of a gateway, and whose cause has a name without blanks, just the name decides
(`NodeError.Plain.soundsPassing_iff`). Main statement: `Reply.isRetryable_iff_soundsPassing`, on the error that a
reply with an error of the node gives.
-/

namespace Governance

open Text Json

/-! ## How JSON texts and numbers begin -/

/-- A character that neither is blank nor begins the name of the timeout. -/
def Opening (c : Char) : Prop :=
  isBlank c = false ∧ c ≠ 'T'

instance (c : Char) : Decidable (Opening c) :=
  inferInstanceAs (Decidable (_ ∧ _))

theorem Opening.of_isDigit {c : Char} (digit : c.isDigit = true) : Opening c := by
  refine ⟨isBlank_of_isDigit digit, ?_⟩
  rintro rfl
  cases digit

theorem digits_head (n : Nat) : ∃ c cs, digits n = c :: cs ∧ c.isDigit = true := by
  cases split : digits n with
  | nil => exact absurd split (digits_ne_nil n)
  | cons c cs =>
    have mem : c ∈ digits n := by
      rw [split]
      exact List.mem_cons_self
    exact ⟨c, cs, rfl, isDigit_of_mem_digits mem⟩

theorem toString_int_head (n : Int) : ∃ c cs, (toString n).toList = c :: cs ∧ Opening c := by
  cases n with
  | ofNat n =>
    obtain ⟨c, cs, split, digit⟩ := digits_head n
    refine ⟨c, cs, ?_, .of_isDigit digit⟩
    rw [← split]
    exact String.toList_ofList
  | negSucc n =>
    refine ⟨'-', (Nat.repr (n + 1)).toList, ?_, by decide⟩
    show ("-" ++ Nat.repr (n + 1)).toList = _
    rw [String.toList_append]
    rfl

theorem Double.layout_head (x : Double) : ∃ c cs, x.layout.whole = c :: cs ∧ c.isDigit = true := by
  obtain ⟨c, cs, split, digit⟩ := digits_head x.shortest.digits
  have split : Nat.toDigits 10 x.shortest.digits = c :: cs := split
  unfold Double.layout
  dsimp only
  rw [split]
  split
  · exact ⟨_, _, rfl, rfl⟩
  split
  · exact ⟨_, _, rfl, digit⟩
  split
  · exact ⟨_, _, rfl, rfl⟩
  split
  · exact ⟨_, _, rfl, digit⟩
  · exact ⟨_, _, rfl, digit⟩

theorem Json.Number.text_head (n : Number) : ∃ c cs, n.toNumeral.text = c :: cs ∧ Opening c := by
  have whole : ∃ c cs, n.toNumeral.whole = c :: cs ∧ c.isDigit = true := by
    cases n with
    | integer n => exact digits_head _
    | double x => exact x.layout_head
  obtain ⟨c, cs, split, digit⟩ := whole
  unfold Numeral.text
  rw [split]
  cases n.toNumeral.negative with
  | true => exact ⟨_, _, rfl, by decide⟩
  | false => exact ⟨_, _, rfl, .of_isDigit digit⟩

/-- No JSON text begins with a blank or with a capital letter. -/
theorem Json.Value.toText_head (v : Value) : ∃ c cs, v.toText.toList = c :: cs ∧ Opening c := by
  have shape : v.toText.toList = Token.textOf v.toDocument.tokens := String.toList_ofList
  rw [shape]
  cases v with
  | null => exact ⟨_, _, rfl, by decide⟩
  | bool b => cases b <;> exact ⟨_, _, rfl, by decide⟩
  | number n =>
    obtain ⟨c, cs, text, opening⟩ := n.text_head
    refine ⟨c, cs, ?_, opening⟩
    show n.toNumeral.text ++ [] = c :: cs
    rw [text, List.append_nil]
  | string s => exact ⟨_, _, rfl, by decide⟩
  | array items => cases items <;> exact ⟨_, _, rfl, by decide⟩
  | object members => cases members <;> exact ⟨_, _, rfl, by decide⟩

namespace Rpc.NodeError

variable {e : NodeError}

/-! ## The words for an error -/

/-- How the words end: with the code. -/
def codeText (e : NodeError) : List Char :=
  "(code: ".toList ++ (toString e.code).toList ++ [')']

/-- What follows the message and the name of the cause: the data, if there are any, and the code. -/
def remark (e : NodeError) : List Char :=
  match e.data with
  | some v => v.toText.toList ++ ' ' :: e.codeText
  | none => e.codeText

theorem describe_named {name : String} (named : e.causeName = some name) :
    e.describe.toList = e.message.toList ++ ':' :: ' ' :: (name.toList ++ ' ' :: e.remark) := by
  have same : ∀ s : String, toString s = s := fun _ => rfl
  unfold describe remark codeText
  rw [named]
  cases e.data <;> simp [same]

theorem describe_nameless (nameless : e.causeName = none) :
    e.describe.toList = e.message.toList ++ ' ' :: e.remark := by
  have same : ∀ s : String, toString s = s := fun _ => rfl
  unfold describe remark codeText
  rw [nameless]
  cases e.data <;> simp [same]

/-! ## What is not taken for the name of a cause -/

theorem not_namesTimeout_codeText (e : NodeError) : ¬ NamesTimeout e.codeText := by
  unfold codeText
  exact not_namesTimeout_cons (by decide) (by decide)

/-- Data are in JSON, and the code stands in brackets, so neither begins with the name. -/
theorem not_namesTimeout_remark (e : NodeError) : ¬ NamesTimeout e.remark := by
  unfold remark
  cases e.data with
  | none => exact e.not_namesTimeout_codeText
  | some v =>
    obtain ⟨c, cs, text, plain, other⟩ := v.toText_head
    show ¬ NamesTimeout (v.toText.toList ++ ' ' :: e.codeText)
    rw [text]
    exact not_namesTimeout_cons plain other

/-- Behind the colon of the code there is no name. -/
theorem not_seesTimeout_codeText (e : NodeError) : ¬ SeesTimeout e.codeText := by
  obtain ⟨c, cs, text, plain, other⟩ := toString_int_head e.code
  have colon : afterColon e.codeText = some (c :: (cs ++ [')'])) := by
    unfold codeText
    rw [text]
    rfl
  intro ⟨rest, found, named⟩
  cases colon.symm.trans found
  exact not_namesTimeout_cons plain other named

/-- In what follows the message, the name can be seen in the data only. -/
theorem seesTimeout_remark_iff (e : NodeError) :
    SeesTimeout e.remark ↔ ∃ v, e.data = some v ∧ SeesTimeout v.toText.toList := by
  unfold remark
  cases e.data with
  | none => simp [e.not_seesTimeout_codeText]
  | some v =>
    dsimp only
    rw [seesTimeout_append_blank e.not_namesTimeout_codeText]
    simp [e.not_seesTimeout_codeText]

/-- What follows the message begins with the status code of a gateway only if the data do. -/
theorem failingGateway_remark_iff (e : NodeError) :
    FailingGateway e.remark ↔ ∃ v, e.data = some v ∧ FailingGateway v.toText.toList := by
  unfold remark
  cases data : e.data with
  | none =>
    constructor
    · rintro ⟨code, listed, rest, split⟩
      have opens : ∀ code ∈ ["500", "502", "503", "504"], ∀ rest : List Char,
          (code.toList ++ rest).head? = some '5' := by
        simp
      have first := opens code listed rest
      rw [split] at first
      cases first
    · rintro ⟨v, none, _⟩
      cases none
  | some v =>
    have same : FailingGateway (v.toText.toList ++ ' ' :: e.codeText) ↔
        FailingGateway v.toText.toList := failingGateway_append_cons rfl
    constructor
    · intro failing
      exact ⟨v, rfl, same.1 failing⟩
    · rintro ⟨v', held, failing⟩
      cases held
      exact same.2 failing

/-! ## How an error is judged -/

/-- The words begin like those of a gateway that fails: the message does, or it is that very word, and no cause is
named behind it. -/
def SoundsLikeGateway (e : NodeError) : Prop :=
  "HTTP ".toList <+: e.message.toList ∨ e.message = "HTTP" ∧ e.causeName = none

/-- The ways in which an error is taken for a passing trouble. -/
inductive SoundsPassing (e : NodeError) : Prop
  /-- The message is that of a failing gateway. -/
  | gateway {rest : List Char} (begins : e.message.toList = "HTTP ".toList ++ rest)
    (code : FailingGateway rest)
  /-- The message is the first word of a failing gateway, no cause is named, and the data go on with the status
  code. -/
  | gatewayData {v : Value} (message : e.message = "HTTP") (nameless : e.causeName = none)
    (data : e.data = some v) (code : FailingGateway v.toText.toList)
  /-- The message holds no colon with a blank, so the name of the cause is looked at; the first word of it is the
  name of the timeout. -/
  | cause {name : String} (other : ¬ e.SoundsLikeGateway) (plain : afterColon e.message.toList = none)
    (named : e.causeName = some name) (timeout : NamesTimeout name.toList)
  /-- The message holds a colon with a blank, and the name of the timeout as the first word behind. A colon
  sticks to the last word of a message if a cause is named. -/
  | message {rest : List Char} (other : ¬ e.SoundsLikeGateway)
    (colon : afterColon e.message.toList = some rest)
    (timeout : NamesTimeout (if e.causeName.isSome then rest ++ [':'] else rest))
  /-- The message neither holds a colon with a blank nor ends with a colon, no cause is named, and the data
  hold a colon with a blank and the name of the timeout behind. -/
  | data {v : Value} (other : ¬ e.SoundsLikeGateway) (plain : afterColon e.message.toList = none)
    (ends : e.message.toList.getLast? ≠ some ':') (nameless : e.causeName = none)
    (data : e.data = some v) (sees : SeesTimeout v.toText.toList)

/-- What stands behind the word for a gateway stands in the message, or the message is that word and what stands
behind is the rest. This goes for whatever does not depend on what follows a character that is no digit. -/
theorem describe_gateway_iff (e : NodeError) {P : List Char → Prop}
    (ends : ∀ xs c ys, c.isDigit = false → (P (xs ++ c :: ys) ↔ P xs)) :
    (∃ rest, e.describe.toList = "HTTP ".toList ++ rest ∧ P rest) ↔
      (∃ rest, e.message.toList = "HTTP ".toList ++ rest ∧ P rest) ∨
        (e.message = "HTTP" ∧ e.causeName = none ∧ P e.remark) := by
  cases named : e.causeName with
  | some name =>
    rw [describe_named named]
    constructor
    · rintro ⟨rest, split, holds⟩
      obtain ⟨r, begins, rfl⟩ := gateway_append_colon_iff.1 split
      exact .inl ⟨r, begins, (ends _ _ _ rfl).1 holds⟩
    · rintro (⟨r, begins, holds⟩ | ⟨_, none, _⟩)
      · exact ⟨_, gateway_append_colon_iff.2 ⟨r, begins, rfl⟩, (ends _ _ _ rfl).2 holds⟩
      · cases none
  | none =>
    rw [describe_nameless named]
    constructor
    · rintro ⟨rest, split, holds⟩
      rcases gateway_append_blank_iff.1 split with ⟨r, begins, rfl⟩ | ⟨word, rfl⟩
      · exact .inl ⟨r, begins, (ends _ _ _ rfl).1 holds⟩
      · exact .inr ⟨String.toList_inj.1 word, rfl, holds⟩
    · rintro (⟨r, begins, holds⟩ | ⟨word, _, holds⟩)
      · exact ⟨_, gateway_append_blank_iff.2 (.inl ⟨r, begins, rfl⟩), (ends _ _ _ rfl).2 holds⟩
      · exact ⟨_, gateway_append_blank_iff.2 (.inr ⟨by rw [word], rfl⟩), holds⟩

theorem describe_begins_iff (e : NodeError) :
    "HTTP ".toList <+: e.describe.toList ↔ e.SoundsLikeGateway := by
  have begins_iff : ∀ cs : List Char,
      "HTTP ".toList <+: cs ↔ ∃ rest, cs = "HTTP ".toList ++ rest ∧ True := by
    intro cs
    constructor
    · intro ⟨rest, split⟩
      exact ⟨rest, split.symm, trivial⟩
    · intro ⟨rest, split, _⟩
      exact ⟨rest, split.symm⟩
  unfold SoundsLikeGateway
  rw [begins_iff, begins_iff, e.describe_gateway_iff fun _ _ _ _ => Iff.rfl]
  simp only [and_true]

/-- What is looked at as the name of a cause stands in the message, or is the name of the cause, or stands in the
data. -/
theorem seesTimeout_describe_iff (e : NodeError) :
    SeesTimeout e.describe.toList ↔
      (∃ rest, afterColon e.message.toList = some rest ∧
        NamesTimeout (if e.causeName.isSome then rest ++ [':'] else rest)) ∨
      afterColon e.message.toList = none ∧
        ((∃ name, e.causeName = some name ∧ NamesTimeout name.toList) ∨
          e.message.toList.getLast? ≠ some ':' ∧ e.causeName = none ∧ SeesTimeout e.remark) := by
  cases named : e.causeName with
  | some name =>
    rw [describe_named named, seesTimeout_append_colon e.not_namesTimeout_remark]
    simp
  | none =>
    rw [describe_nameless named, seesTimeout_append_blank e.not_namesTimeout_remark]
    simp [SeesTimeout]

/-- **The words for an error sound passing in these ways and no other.** -/
theorem isTransientRpc_describe_iff (e : NodeError) :
    isTransientRpc e.describe = true ↔ e.SoundsPassing := by
  rw [isTransientRpc_iff, e.describe_gateway_iff fun _ _ _ => failingGateway_append_cons,
    failingGateway_remark_iff, describe_begins_iff, seesTimeout_describe_iff, seesTimeout_remark_iff]
  constructor
  · rintro ((⟨rest, begins, failing⟩ | ⟨word, nameless, v, data, failing⟩) | ⟨other, rest⟩)
    · exact .gateway begins failing
    · exact .gatewayData word nameless data failing
    · rcases rest with ⟨rest, colon, timeout⟩ | ⟨plain, ⟨name, named, timeout⟩ |
        ⟨ends, nameless, v, data, sees⟩⟩
      · exact .message other colon timeout
      · exact .cause other plain named timeout
      · exact .data other plain ends nameless data sees
  · intro sounds
    cases sounds with
    | gateway begins failing => exact .inl (.inl ⟨_, begins, failing⟩)
    | gatewayData word nameless data failing => exact .inl (.inr ⟨word, nameless, _, data, failing⟩)
    | cause other plain named timeout =>
      exact .inr ⟨other, .inr ⟨plain, .inl ⟨_, named, timeout⟩⟩⟩
    | message other colon timeout => exact .inr ⟨other, .inl ⟨_, colon, timeout⟩⟩
    | data other plain ends nameless data sees =>
      exact .inr ⟨other, .inr ⟨plain, .inr ⟨ends, nameless, _, data, sees⟩⟩⟩

/-! ## Plain errors -/

/-- An error whose words keep their parts apart: the message holds no colon with a blank and does not begin like
that of a gateway, the name of the cause has no blanks, and if no cause is named the data hold no colon with a
blank either. -/
structure Plain (e : NodeError) : Prop where
  message : afterColon e.message.toList = none
  gateway : ¬ "HTTP".toList <+: e.message.toList
  cause : ∀ name, e.causeName = some name → ∀ c ∈ name.toList, isBlank c = false
  data : e.causeName = none → ∀ v, e.data = some v → afterColon v.toText.toList = none

/-- A plain error sounds passing exactly if its cause is named so. -/
theorem Plain.soundsPassing_iff (plain : e.Plain) :
    e.SoundsPassing ↔ e.causeName = some "TIMEOUT_ERROR" := by
  have other : ¬ e.SoundsLikeGateway := by
    rintro (begins | ⟨word, _⟩)
    · exact plain.gateway ((List.prefix_append "HTTP".toList [' ']).trans begins)
    · refine plain.gateway ⟨[], ?_⟩
      rw [word, List.append_nil]
  constructor
  · intro sounds
    cases sounds with
    | gateway begins failing => exact absurd (.inl ⟨_, begins.symm⟩) other
    | gatewayData word nameless data failing => exact absurd (.inr ⟨word, nameless⟩) other
    | cause _ _ named timeout =>
      have whole := (namesTimeout_iff_of_plain (plain.cause _ named)).1 timeout
      rw [named, String.toList_inj.1 whole]
    | message _ colon timeout => cases plain.message.symm.trans colon
    | data _ _ _ nameless data sees =>
      obtain ⟨rest, colon, _⟩ := sees
      cases (plain.data nameless _ data).symm.trans colon
  · intro named
    exact .cause other plain.message named (by decide)

end NodeError

/-! ## Replies -/

/-- A reply of success that reports an error means that error, in words. -/
theorem Reply.result_of_reported {status : Nat} (success : isSuccess status = true)
    (retryAfter : Option String) {body : List UInt8} {result : Option Value} {e : NodeError}
    (reads : ofBytes? Answer.ofDocument? body = some ⟨result, some e⟩) :
    (Reply.answered status retryAfter body).result = .error (.rpc e.describe) := by
  have bounds : 200 ≤ status ∧ status < 300 := of_decide_eq_true success
  show (if status = 429 then _ else if !isSuccess status then _ else _) = _
  rw [if_neg (by omega), success, if_neg (by decide), reads]
  rfl

/-- **Which errors of the node are taken for a passing trouble.** A reply of success may report an error of the
node, whatever its code, message, name, cause and data. The error that comes of it is worth another attempt
exactly if it sounds passing in one of the listed ways; and if the reported error is plain, exactly if the name of
its cause is that of the timeout. -/
theorem Reply.isRetryable_iff_soundsPassing {status : Nat} (success : isSuccess status = true)
    (retryAfter : Option String) {body : List UInt8} {result : Option Value} {e : NodeError}
    (reads : ofBytes? Answer.ofDocument? body = some ⟨result, some e⟩) :
    ∃ fault, (Reply.answered status retryAfter body).result = .error fault ∧
      (fault.isRetryable = true ↔ e.SoundsPassing) ∧
      (e.Plain → (fault.isRetryable = true ↔ e.causeName = some "TIMEOUT_ERROR")) := by
  have judged : (Error.rpc e.describe).isRetryable = true ↔ e.SoundsPassing :=
    e.isTransientRpc_describe_iff
  exact ⟨_, result_of_reported success retryAfter reads, judged,
    fun plain => judged.trans plain.soundsPassing_iff⟩

/-- A timeout in plain words: another attempt is worth it. -/
theorem Reply.plain_timeout_isRetryable :
    let body := Utf8.encode ("\x7b\"error\":\x7b\"code\":-32000,\"message\":\"Server error\"," ++
      "\"cause\":\x7b\"name\":\"TIMEOUT_ERROR\"\x7d\x7d\x7d")
    ∃ fault, (Reply.answered 200 none body).result = .error fault ∧ fault.isRetryable = true := by
  intro body
  let e : NodeError := ⟨-32000, "Server error", none,
    some (.object [("name", .string "TIMEOUT_ERROR")]), none⟩
  have reads : ofBytes? Answer.ofDocument? body = some ⟨none, some e⟩ := by decide +kernel
  have named : e.causeName = some "TIMEOUT_ERROR" := rfl
  have success : isSuccess 200 = true := rfl
  have word : "TIMEOUT_ERROR".toList.all (fun c => !isBlank c) = true := by decide
  have plain : e.Plain := by
    refine ⟨by decide, by decide, ?_, ?_⟩
    · intro name here c mem
      cases named.symm.trans here
      simpa using List.all_eq_true.1 word c mem
    · intro nameless
      cases nameless
  obtain ⟨fault, fails, _, judged⟩ := Reply.isRetryable_iff_soundsPassing success none reads
  exact ⟨fault, fails, (judged plain).2 named⟩

/-- The name of the cause alone does not decide. Behind a message with a colon a timeout is not seen, and a
message like that of a gateway stands for one, whatever the cause. -/
theorem Reply.message_decides :
    let body (message cause : String) := Utf8.encode ("\x7b\"error\":\x7b\"code\":-32000,\"message\":\"" ++
      message ++ "\",\"cause\":\x7b\"name\":\"" ++ cause ++ "\"\x7d\x7d\x7d")
    let hidden : NodeError := ⟨-32000, "Server error: shard 0", none,
      some (.object [("name", .string "TIMEOUT_ERROR")]), none⟩
    let feigned : NodeError := ⟨-32000, "HTTP 503", none,
      some (.object [("name", .string "UNKNOWN_BLOCK")]), none⟩
    let timeout := body "Server error: shard 0" "TIMEOUT_ERROR"
    let unknown := body "HTTP 503" "UNKNOWN_BLOCK"
    (ofBytes? Answer.ofDocument? timeout = some ⟨none, some hidden⟩ ∧
      hidden.causeName = some "TIMEOUT_ERROR" ∧
      ∃ fault, (Reply.answered 200 none timeout).result = .error fault ∧ fault.isRetryable = false) ∧
    ofBytes? Answer.ofDocument? unknown = some ⟨none, some feigned⟩ ∧
      feigned.causeName = some "UNKNOWN_BLOCK" ∧
      ∃ fault, (Reply.answered 200 none unknown).result = .error fault ∧ fault.isRetryable = true := by
  intro body hidden feigned timeout unknown
  have success : isSuccess 200 = true := rfl
  have first : ofBytes? Answer.ofDocument? timeout = some ⟨none, some hidden⟩ := by decide +kernel
  have second : ofBytes? Answer.ofDocument? unknown = some ⟨none, some feigned⟩ := by decide +kernel
  exact ⟨⟨first, rfl, _, result_of_reported success none first, by decide +kernel⟩,
    second, rfl, _, result_of_reported success none second, by decide +kernel⟩

end Rpc
end Governance
