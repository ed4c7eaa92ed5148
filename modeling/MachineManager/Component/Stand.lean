import MachineManager.Lib.Reachable
import MachineManager.Nv.Types

/-!
# Where a component stands

What NV and the boot vector say about the banks of a component: the bank that is active in NV and
whether it is committed, and the banks in the primary and the committed copy of the vector. A
component is moved by its own calls, and by those of the others through the vector, which is
committed and rolled back as a whole.

The two stores agree as long as every rollback of a component finds its committed copy on the other
bank. If another component has had the vector committed meanwhile, the rollback takes NV back and
leaves the vector behind.
-/

namespace ComponentMgr

open Nv

/-- The bank in NV and whether it is committed, and the banks in the two copies of the vector. -/
structure Stand where
  active : Bank
  committed : Bool
  primary : Bank
  secondary : Bank
deriving DecidableEq

namespace Stand

variable (s : Stand)

/-- An install was armed in NV and sealed in the vector. -/
def arm : Stand :=
  { s with active := s.active.other, committed := false, primary := s.active.other }

/-- The active bank was sealed once more. -/
def reseal : Stand :=
  { s with primary := s.active }

/-- The vector was committed. -/
def promote : Stand :=
  { s with secondary := s.primary }

/-- The vector was rolled back. -/
def restore : Stand :=
  { s with primary := s.secondary }

/-- The component was committed, and the vector with it. -/
def commit : Stand :=
  { s.promote with committed := true }

/-- The component was rolled back, and the vector before it. -/
def rollback : Stand :=
  { s.restore with active := s.active.other, committed := true }

/-- The committed copy has the bank from before the install. -/
def Held : Prop :=
  s.secondary = s.active.other

/-- The moves of a component, and what is known before each of them. -/
inductive Step (s : Stand) : Stand → Prop
  | stay : Step s s
  | arm : s.committed = true → Step s s.arm
  | reseal : Step s s.reseal
  | promote : Step s s.promote
  | restore : Step s s.restore
  | commit : s.primary = s.active → Step s s.commit
  | rollback : s.committed = false → s.Held → Step s s.rollback

/-- NV and the vector are together: a committed component has one bank everywhere, and one on trial
boots from the bank that is active in NV unless the vector was taken back by another component. -/
structure Agrees : Prop where
  committed : s.committed = true → s.primary = s.active ∧ s.secondary = s.active
  trial : s.committed = false → s.primary = s.active ∨ s.primary = s.secondary

/-- NV and the vector are in step: the component boots from the bank that is active in NV, which is
also its committed one unless NV has it on trial. -/
structure Together : Prop where
  primary : s.primary = s.active
  secondary : s.committed = true → s.secondary = s.active

variable {s}

namespace Together

/-- After a seed NV and the vector are in step. -/
theorem of_seed (primary : s.primary = s.active)
    (secondary : s.secondary = if s.committed then s.active else s.active.other) :
  s.Together
  := ⟨primary, fun committed => secondary.trans (if_pos committed)⟩

/-- An update that is armed puts them in step, wherever they stood. -/
theorem arm (s : Stand) :
  s.arm.Together
  := ⟨rfl, nofun⟩

/-- A seal of the active bank keeps them in step. -/
theorem reseal (together : s.Together) :
  s.reseal.Together
  := ⟨rfl, together.secondary⟩

/-- A commit of the vector by another component keeps them in step. -/
theorem promote (together : s.Together) :
  s.promote.Together
  := ⟨together.primary, fun _ => together.primary⟩

/-- The vector is taken back under a component that does not need its trial. -/
theorem restore (together : s.Together) (anchored : s.secondary = s.active) :
  s.restore.Together
  := ⟨anchored, together.secondary⟩

/-- A commit puts them in step if the vector boots the active bank. -/
theorem commit (primary : s.primary = s.active) :
  s.commit.Together
  := ⟨primary, fun _ => primary⟩

/-- So does a rollback to the committed bank. -/
theorem rollback (held : s.Held) :
  s.rollback.Together
  := ⟨held, fun _ => held⟩

end Together

namespace Agrees

/-- After a seed NV and the vector agree. -/
theorem of_seed (primary : s.primary = s.active)
    (secondary : s.secondary = if s.committed then s.active else s.active.other) :
  s.Agrees
  where
  committed committed := by
    rw [committed, if_pos rfl] at secondary
    exact ⟨primary, secondary⟩
  trial _ := .inl primary

/-- They agree once an update is armed, wherever they stood. -/
theorem arm (s : Stand) :
  s.arm.Agrees
  := ⟨nofun, fun _ => .inl rfl⟩

theorem reseal (agrees : s.Agrees) :
  s.reseal.Agrees
  := ⟨fun committed => ⟨rfl, (agrees.committed committed).2⟩, fun _ => .inl rfl⟩

/-- They still agree when another component has the vector committed. -/
theorem promote (agrees : s.Agrees) :
  s.promote.Agrees
  where
  committed committed := ⟨(agrees.committed committed).1, (agrees.committed committed).1⟩
  trial _ := .inr rfl

/-- So they do when another one has it rolled back. -/
theorem restore (agrees : s.Agrees) :
  s.restore.Agrees
  where
  committed committed := ⟨(agrees.committed committed).2, (agrees.committed committed).2⟩
  trial _ := .inr rfl

theorem commit (primary : s.primary = s.active) :
  s.commit.Agrees
  := ⟨fun _ => ⟨primary, primary⟩, nofun⟩

/-- They agree after a rollback to the committed bank. -/
theorem rollback (held : s.Held) :
  s.rollback.Agrees
  := ⟨fun _ => ⟨held, held⟩, nofun⟩

end Agrees

/-- A rollback of a component whose committed copy is not on the other bank leaves NV and the vector
apart. -/
theorem agrees_rollback_iff :
  s.rollback.Agrees ↔ s.Held
  := ⟨fun agrees => (agrees.committed rfl).2, Agrees.rollback⟩

end Stand

end ComponentMgr
