import Governance.Error
import Governance.StringMap

/-!
# Session stores

Between submitting a proposal and finding it a program may be restarted, so what it has to remember is kept in
a store of named texts. Here are the interface, over any monad, and the store that keeps its entries in
memory. A store that works on a part of some larger state is the same store seen through a change of
monads (`SessionStore.hoist`, `zoom`).
-/

namespace Governance

/-- A store of named texts. -/
structure SessionStore (m : Type → Type) where
  /-- The text under a name. -/
  get : String → ExceptT Error m (Option String)
  /-- Puts a text under a name, in place of what stood there. -/
  set : (name value : String) → ExceptT Error m Unit
  /-- Removes what stands under a name. -/
  remove : String → ExceptT Error m Unit

namespace SessionStore

/-- The same store, its actions carried over to another monad. -/
def hoist {m n : Type → Type} (carry : ∀ {α : Type}, m α → n α) (store : SessionStore m) :
    SessionStore n where
  get name := ExceptT.mk (carry (store.get name).run)
  set name value := ExceptT.mk (carry (store.set name value).run)
  remove name := ExceptT.mk (carry (store.remove name).run)

/-- The store that keeps its entries in memory. It never fails. -/
def memory : SessionStore (StateM (StringMap String)) where
  get name := ExceptT.mk fun entries => (.ok (entries.get? name), entries)
  set name value := ExceptT.mk fun entries => (.ok (), entries.insert name value)
  remove name := ExceptT.mk fun entries => (.ok (), entries.erase name)

end SessionStore

/-- Runs an action on the part of a state that `part` looks at and `put` replaces. -/
def zoom (part : σ → τ) (put : τ → σ → σ) {α : Type} (action : StateM τ α) : StateM σ α :=
  fun s =>
    let (a, t) := action (part s)
    (a, put t s)

end Governance
