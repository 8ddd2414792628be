import Winjob.Apply

set_option autoImplicit false

/-! # Locations of the cache

The limits of the catalogue read and write a few places of a `JobInfo`: one bit of the
limit flags, the scalar fields of the limit information, one bit of the UI restrictions,
and the two words of CPU rate control. A `Loc` names one such place, `Loc.read` reads it
and `Loc.write` writes it; setting or clearing a bit is done by `basicLimit`'s and
`uiRestriction`'s own `set` and `reset`. Everything else of a `JobInfo` is its `rest`, which
no write changes.

Writes to distinct locations commute, and the value at a location after a list of writes
depends only on its value before (`read_writeAll_congr`), or not even on that when the list
writes it (`read_writeAll_of_mem`). A `JobInfo` is determined by its locations and its rest
(`JobInfo.ext_loc`).
-/

namespace Winjob

/-- A place of the cache that a limit of the catalogue reads or writes. -/
inductive Loc where
  /-- A bit of the limit flags. -/
  | LimitFlag (i : Fin 32)
  /-- A scalar field of the limit information. -/
  | field (f : LimitField)
  /-- A bit of the UI restrictions. -/
  | UIRestriction (i : Fin 32)
  /-- The control flags of CPU rate control. -/
  | ControlFlags
  /-- The value of CPU rate control. -/
  | Value
  deriving DecidableEq

/-- What no location covers: the cache with the flags and scalar fields of the limit
information, the UI restrictions and CPU rate control cleared. -/
def JobInfo.rest (job : JobInfo) : JobInfo :=
  { job with
    ExtendedLimits := { job.ExtendedLimits with
      BasicLimitInformation := {}, ProcessMemoryLimit := 0, JobMemoryLimit := 0 }
    UIRestrictions := {}
    CPURateControl := {} }

namespace Loc

/-- What a location holds. -/
def type : Loc → Type
  | .LimitFlag _ | .UIRestriction _ => Bool
  | .field f => f.type
  | .ControlFlags => CPUControlFlag
  | .Value => BitVec 32

/-- The class of the block a location is in. -/
def cls : Loc → JobObjectInformationClass
  | .LimitFlag _ | .field _ => .JobObjectExtendedLimitInformation
  | .UIRestriction _ => .JobObjectBasicUIRestrictions
  | .ControlFlags | .Value => .JobObjectCpuRateControlInformation

def read : (t : Loc) → JobInfo → t.type
  | .LimitFlag i, job => job.ExtendedLimits.BasicLimitInformation.LimitFlags.getLsbD i
  | .field f, job => job.getField f
  | .UIRestriction i, job => job.UIRestrictions.UIRestrictionsClass.getLsbD i
  | .ControlFlags, job => job.CPURateControl.ControlFlags
  | .Value, job => job.CPURateControl.Value

def write : (t : Loc) → t.type → JobInfo → JobInfo
  | .LimitFlag i, b => cond b (basicLimit.set (.twoPow 32 i)) (basicLimit.reset (.twoPow 32 i))
  | .field f, x => fun job => job.setField f x
  | .UIRestriction i, b =>
    cond b (uiRestriction.set (.twoPow 32 i)) (uiRestriction.reset (.twoPow 32 i))
  | .ControlFlags, x => fun job => { job with CPURateControl.ControlFlags := x }
  | .Value, x => fun job => { job with CPURateControl.Value := x }

theorem rest_write (t : Loc) (v : t.type) (job : JobInfo) : (t.write v job).rest = job.rest := by
  cases t
  case field f => cases f <;> rfl
  all_goals first | rfl | (cases v <;> rfl)

/-- A location is read from the block of its class. -/
theorem read_congr {t : Loc} {a b : JobInfo} (h : a.infoPtr t.cls = b.infoPtr t.cls) :
    t.read a = t.read b := by
  cases t <;> simp only [cls, JobInfo.infoPtr] at h <;> simp only [read, JobInfo.getField, h]

/-- How `IsSet` reads the value at its location: a bit is the answer, and the CPU control
flags answer whether they are not zero. -/
def isSet : (t : Loc) → t.type → Bool
  | .LimitFlag _ | .UIRestriction _ => fun (b : Bool) => b
  | .ControlFlags => fun (x : CPUControlFlag) => x != 0
  | .field _ | .Value => fun _ => false

@[simp] theorem read_write_self (t : Loc) (v : t.type) (job : JobInfo) : t.read (t.write v job) = v := by
  cases t with
  | LimitFlag i => cases v <;> simp [read, write, basicLimit.set, basicLimit.reset, i.isLt]
  | UIRestriction i =>
    cases v <;> simp [read, write, uiRestriction.set, uiRestriction.reset, i.isLt]
  | field f => exact JobInfo.getField_setField_self job v
  | ControlFlags | Value => rfl

@[simp] theorem read_write_ne {t t' : Loc} (h : t ≠ t') (v : t'.type) (job : JobInfo) :
    t.read (t'.write v job) = t.read job := by
  cases t <;> cases t'
  case LimitFlag.LimitFlag i j =>
    have hij : (j : Nat) ≠ i := fun e => h (congrArg _ (Fin.ext e.symm))
    cases v <;> simp [read, write, basicLimit.set, basicLimit.reset, BitVec.getLsbD_twoPow, hij]
  case UIRestriction.UIRestriction i j =>
    have hij : (j : Nat) ≠ i := fun e => h (congrArg _ (Fin.ext e.symm))
    cases v <;> simp [read, write, uiRestriction.set, uiRestriction.reset, BitVec.getLsbD_twoPow, hij]
  case field.field f g => exact JobInfo.getField_setField_ne job v (fun e => h (congrArg _ e))
  case ControlFlags.ControlFlags | Value.Value => exact absurd rfl h
  all_goals first
    | (cases v <;> rfl)
    | (rename_i f; cases f <;> cases v <;> rfl)

/-- The value at a location after a write depends only on its value before. -/
theorem read_write_congr {t t' : Loc} (v : t'.type) {a b : JobInfo} (h : t.read a = t.read b) :
    t.read (t'.write v a) = t.read (t'.write v b) := by
  by_cases ht : t = t'
  · subst ht; rw [read_write_self, read_write_self]
  · rw [read_write_ne ht, read_write_ne ht, h]

/-- A location with the value written to it. -/
abbrev Assign := (t : Loc) × t.type

/-- Assignments performed in order. -/
def writeAll (ws : List Assign) (job : JobInfo) : JobInfo :=
  ws.foldl (fun job w => w.1.write w.2 job) job

@[simp] theorem writeAll_nil (job : JobInfo) : writeAll [] job = job := rfl

@[simp] theorem writeAll_cons (w : Assign) (ws : List Assign) (job : JobInfo) :
    writeAll (w :: ws) job = writeAll ws (w.1.write w.2 job) := rfl

theorem writeAll_append (ws ws' : List Assign) (job : JobInfo) :
    writeAll (ws ++ ws') job = writeAll ws' (writeAll ws job) :=
  List.foldl_append _ _ _ _

variable {t : Loc} {ws : List Assign}

theorem read_writeAll_congr {a b : JobInfo} (h : t.read a = t.read b) :
    t.read (writeAll ws a) = t.read (writeAll ws b) := by
  induction ws generalizing a b with
  | nil => exact h
  | cons w ws ih => exact ih (read_write_congr w.2 h)

theorem read_writeAll_of_not_mem (ht : t ∉ ws.map Sigma.fst) (job : JobInfo) :
    t.read (writeAll ws job) = t.read job := by
  induction ws generalizing job with
  | nil => rfl
  | cons w ws ih =>
    simp only [List.map_cons, List.mem_cons, not_or] at ht
    rw [writeAll_cons, ih ht.2, read_write_ne ht.1]

/-- A location the writes assign holds, after them, what they assign it last. -/
theorem read_writeAll_of_mem (ht : t ∈ ws.map Sigma.fst) (a b : JobInfo) :
    t.read (writeAll ws a) = t.read (writeAll ws b) := by
  induction ws generalizing a b with
  | nil => simp at ht
  | cons w ws ih =>
    by_cases hw : t ∈ ws.map Sigma.fst
    · exact ih hw _ _
    · obtain ⟨t', v⟩ := w
      obtain rfl : t = t' := by simpa [hw] using ht
      rw [writeAll_cons, writeAll_cons, read_writeAll_of_not_mem hw, read_writeAll_of_not_mem hw,
        read_write_self, read_write_self]

theorem rest_writeAll (ws : List Assign) (job : JobInfo) : (writeAll ws job).rest = job.rest := by
  induction ws generalizing job with
  | nil => rfl
  | cons w ws ih => rw [writeAll_cons, ih, rest_write]

end Loc

/-- **A cache is its locations and its rest.** -/
theorem JobInfo.ext_loc {a b : JobInfo} (h : ∀ t : Loc, t.read a = t.read b)
    (hr : a.rest = b.rest) : a = b := by
  have hf := BitVec.eq_of_getLsbD_eq fun i => h (.LimitFlag i)
  have hu := BitVec.eq_of_getLsbD_eq fun i => h (.UIRestriction i)
  have h₁ := h (.field .PerProcessUserTimeLimit)
  have h₂ := h (.field .PerJobUserTimeLimit)
  have h₃ := h (.field .MinimumWorkingSetSize)
  have h₄ := h (.field .MaximumWorkingSetSize)
  have h₅ := h (.field .ActiveProcessLimit)
  have h₆ := h (.field .Affinity)
  have h₇ := h (.field .PriorityClass)
  have h₈ := h (.field .SchedulingClass)
  have h₉ := h (.field .ProcessMemoryLimit)
  have h₁₀ := h (.field .JobMemoryLimit)
  have hc := h .ControlFlags
  have hv := h .Value
  obtain ⟨⟨⟨⟩, _⟩, ⟨⟩, _, ⟨⟩, _⟩ := a
  obtain ⟨⟨⟨⟩, _⟩, ⟨⟩, _, ⟨⟩, _⟩ := b
  simp only [Loc.read, JobInfo.getField, JobInfo.rest, JobInfo.mk.injEq,
    JOBOBJECT_EXTENDED_LIMIT_INFORMATION.mk.injEq, true_and, and_true] at *
  simp only [hf, hu, h₁, h₂, h₃, h₄, h₅, h₆, h₇, h₈, h₉, h₁₀, hc, hv, hr, and_self]

namespace Loc

variable {ws : List Assign}

/-- Writes to distinct locations commute. -/
theorem writeAll_comm {ws' : List Assign} (h : ∀ w ∈ ws, ∀ w' ∈ ws', w.1 ≠ w'.1)
    (job : JobInfo) : writeAll ws (writeAll ws' job) = writeAll ws' (writeAll ws job) := by
  refine JobInfo.ext_loc (fun t => ?_) (by simp only [rest_writeAll])
  by_cases ht : t ∈ ws.map Sigma.fst
  · have ht' : t ∉ ws'.map Sigma.fst := by
      simp only [List.mem_map] at ht ⊢
      rintro ⟨w', hw', rfl⟩
      obtain ⟨w, hw, he⟩ := ht
      exact h w hw w' hw' he
    rw [read_writeAll_of_mem ht _ job, read_writeAll_of_not_mem ht']
  · rw [read_writeAll_of_not_mem ht]
    exact read_writeAll_congr (read_writeAll_of_not_mem ht job).symm

/-- Writes made twice are made once: each location holds what the list assigns it last. -/
theorem writeAll_writeAll (ws : List Assign) (job : JobInfo) :
    writeAll ws (writeAll ws job) = writeAll ws job := by
  refine JobInfo.ext_loc (fun t => ?_) (by simp only [rest_writeAll])
  by_cases ht : t ∈ ws.map Sigma.fst
  · exact read_writeAll_of_mem ht _ job
  · rw [read_writeAll_of_not_mem ht, read_writeAll_of_not_mem ht]

end Loc

end Winjob
