import Governance.Client

/-!
# Clients deed by deed

All that a client does comes down to a few deeds: it takes the number of its next call, sends a request, has a call
signed, uses an entry of the session, takes a stamp. A process (`Process`) is a computation that has come to its
next deed and waits for the answer, so the processes of one client can go on by turns. Processes are a monad, and a
client in this monad is one whose lines, signer, session and stamps are deeds (`Process.line` and the others):
its operations do what those of any other client do, with nothing assumed about the answers.

A rule on deeds may depend on what happened before. `Process.Heeds` says that a process observes a rule whatever is
answered; rules are proved along sequences (`Heeds.bind_run`) and where failures are handled (`Heeds.tryCatch`).
-/

namespace Governance

/-! ## Deeds -/

/-- The lines of a client. -/
inductive Wire
  /-- To the governance contract. -/
  | dao
  /-- To the minting contracts. -/
  | minting
  deriving DecidableEq

/-- What a client does. -/
inductive Deed
  /-- Takes the number of the next call on a line. -/
  | number (wire : Wire)
  /-- Sends the text of a request to a URL. -/
  | post (wire : Wire) (url request : String)
  /-- Has a call signed. -/
  | sign (call : FunctionCall)
  /-- Looks an entry of the session up. -/
  | get (name : String)
  /-- Puts an entry into the session. -/
  | set (name value : String)
  /-- Removes an entry from the session. -/
  | remove (name : String)
  /-- Takes a token that was not used before, and the time. -/
  | stamp

/-- What is answered to a deed. -/
abbrev Deed.Answer : Deed → Type
  | number _ => UInt64
  | post _ _ _ => Rpc.Reply
  | sign _ => Except Error String
  | get _ => Except Error (Option String)
  | set _ _ => Except Error Unit
  | remove _ => Except Error Unit
  | stamp => Uuid × Timestamp

/-- A deed, and what was answered. -/
structure Occurrence where
  deed : Deed
  answer : deed.Answer

/-- A computation that gives a result, or waits for the answer to a deed. -/
inductive Process (α : Type) : Type
  | gives (a : α)
  | acts (deed : Deed) (resume : deed.Answer → Process α)

namespace Process

variable {α β : Type}

/-- Goes on with what a process gives. -/
def bind : Process α → (α → Process β) → Process β
  | gives a, f => f a
  | acts deed resume, f => acts deed fun answer => (resume answer).bind f

instance : Monad Process where
  pure := gives
  bind := bind

/-! ## Clients whose parts are deeds -/

/-- A line that takes numbers and sends requests. -/
def line (wire : Wire) : Rpc.Line Process where
  nextId := acts (.number wire) gives
  post url request := acts (.post wire url request) gives

/-- A signer who is asked. -/
def signer (account : String) : Signer Process where
  id := account
  sign call := ExceptT.mk (acts (.sign call) gives)

/-- A session whose entries are used one by one. -/
def store : SessionStore Process where
  get name := ExceptT.mk (acts (.get name) gives)
  set name value := ExceptT.mk (acts (.set name value) gives)
  remove name := ExceptT.mk (acts (.remove name) gives)

/-- A source of stamps. -/
def stamp : Process (Uuid × Timestamp) :=
  acts .stamp gives

/-! ## Rules -/

variable {due : List Occurrence → Deed → Prop}

/-- Every deed of a process that has seen `past` is due when it is done, whatever is answered, and what the
process gives is as said. -/
def Heeds (due : List Occurrence → Deed → Prop) (told : List Occurrence → α → Prop) :
    List Occurrence → Process α → Prop
  | past, gives a => told past a
  | past, acts deed resume =>
    due past deed ∧ ∀ answer, Heeds due told (past ++ [⟨deed, answer⟩]) (resume answer)

theorem Heeds.bind {mid : List Occurrence → α → Prop} {told : List Occurrence → β → Prop}
    {past : List Occurrence} {x : Process α} {f : α → Process β} (first : x.Heeds due mid past)
    (rest : ∀ past a, mid past a → (f a).Heeds due told past) : (x >>= f).Heeds due told past := by
  induction x generalizing past with
  | gives a => exact rest past a first
  | acts deed resume ih => exact ⟨first.1, fun answer => ih answer (first.2 answer)⟩

theorem Heeds.mono {told told' : List Occurrence → α → Prop} {past : List Occurrence} {x : Process α}
    (h : x.Heeds due told past) (weaker : ∀ past a, told past a → told' past a) :
    x.Heeds due told' past := by
  induction x generalizing past with
  | gives a => exact weaker past a h
  | acts deed resume ih => exact ⟨h.1, fun answer => ih answer (h.2 answer)⟩

/-- What observes a rule observes a weaker one. -/
theorem Heeds.imp {due' : List Occurrence → Deed → Prop} {told : List Occurrence → α → Prop}
    {past : List Occurrence} {x : Process α} (h : x.Heeds due told past)
    (weaker : ∀ past deed, due past deed → due' past deed) : x.Heeds due' told past := by
  induction x generalizing past with
  | gives a => exact h
  | acts deed resume ih => exact ⟨weaker past deed h.1, fun answer => ih answer (h.2 answer)⟩

/-- After a failure nothing is done. -/
theorem Heeds.bind_run {mid : List Occurrence → Except Error α → Prop}
    {told : List Occurrence → Except Error β → Prop} {past : List Occurrence}
    {x : ExceptT Error Process α} {f : α → ExceptT Error Process β} (first : x.run.Heeds due mid past)
    (rest : ∀ past a, mid past (.ok a) → (f a).run.Heeds due told past)
    (fails : ∀ past e, mid past (.error e) → told past (.error e)) :
    (x >>= f).run.Heeds due told past := by
  refine Heeds.bind (x := x.run) (f := ExceptT.bindCont f) first fun past outcome h => ?_
  cases outcome with
  | ok a => exact rest past a h
  | error e => exact fails past e h

theorem Heeds.tryCatch {mid told : List Occurrence → Except Error α → Prop} {past : List Occurrence}
    {x : ExceptT Error Process α} {handle : Error → ExceptT Error Process α}
    (first : x.run.Heeds due mid past) (fine : ∀ past a, mid past (.ok a) → told past (.ok a))
    (handled : ∀ past e, mid past (.error e) → (handle e).run.Heeds due told past) :
    (ExceptT.tryCatch x handle).run.Heeds due told past := by
  refine Heeds.bind (x := x.run) first fun past outcome h => ?_
  cases outcome with
  | ok a => exact fine past a h
  | error e => exact handled past e h

end Process

end Governance
