/-
This file develops the discipline of handles that a program gets from its system: files,
devices, connections. A trace lists what the program does with them. It is disciplined
when a handle is used and given back only while it is held, and the program never holds
more of them than it has room for. Nothing here names a particular program.
-/

import Mathlib.Data.Finset.Card
import SmartQso.Runs

namespace Handles

/-- What a program does with a handle. -/
inductive Access (Handle : Type*)
  | acquire (handle : Handle)
  | use (handle : Handle)
  | release (handle : Handle)

variable {Handle : Type*} [DecidableEq Handle]

/-- The handles that are held after an access. -/
def heldAfter (held : Finset Handle) : Access Handle → Finset Handle
  | .acquire handle => insert handle held
  | .use _ => held
  | .release handle => held.erase handle

/-- An access that keeps the discipline. -/
def Disciplined (room : Nat) (held : Finset Handle) : Access Handle → Prop
  | .acquire handle => handle ∉ held ∧ held.card < room
  | .use handle => handle ∈ held
  | .release handle => handle ∈ held

/-- A disciplined trace leads from the handles held before it to those held after it. -/
def Leads (room : Nat) (before : Finset Handle) (trace : List (Access Handle))
    (after : Finset Handle) : Prop :=
  Runs.EachStep heldAfter (Disciplined room) before trace ∧
    Runs.finalState heldAfter before trace = after

section

variable {room : Nat} {before between after : Finset Handle} {first second : List (Access Handle)}
  {handle : Handle}

theorem Leads.nil : Leads room before [] before := ⟨trivial, rfl⟩

theorem Leads.append (start : Leads room before first between)
    (finish : Leads room between second after) : Leads room before (first ++ second) after := by
  obtain ⟨steps, rfl⟩ := start
  refine ⟨?_, (Runs.finalState_append before first second).trans finish.2⟩
  induction first generalizing before with
  | nil => exact finish.1
  | cons access rest inductionHypothesis =>
    exact ⟨steps.1, inductionHypothesis steps.2 finish⟩

theorem Leads.acquire (fresh : handle ∉ before) (fits : before.card < room) :
    Leads room before [.acquire handle] (insert handle before) :=
  ⟨⟨⟨fresh, fits⟩, trivial⟩, rfl⟩

theorem Leads.use (held : handle ∈ before) : Leads room before [.use handle] before :=
  ⟨⟨held, trivial⟩, rfl⟩

theorem Leads.release (held : handle ∈ before) :
    Leads room before [.release handle] (before.erase handle) :=
  ⟨⟨held, trivial⟩, rfl⟩

end

end Handles
