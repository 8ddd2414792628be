import Winjob.Loc

set_option autoImplicit false

/-! # The catalogue of limits

The package exports one limit per entry of its catalogue: six flags of the basic limit
information, nine value limits, eight UI restrictions and the CPU limit. A value limit and
the CPU limit are used with a value (`LimitAffinity.WithValue(x)`, `WithAffinity(x)`,
`LimitCPU.WithValue(r)`); a `Catalogue` is an entry with its value, and `toLimit` is the
`Limit` the package builds for it.

`Catalogue.writes` lists the assignments to locations that `set` and `reset` perform, and
`apply_eq_writeAll` checks the list against the code. `Entry.reads` lists the locations
that `IsSet`, `Value` and `LimitValue` read (`IsSet` reads the first). Distinct entries read
disjoint locations (`reads_disjoint`), and a limit writes only locations its entry reads
(`writes_subset_reads`): limits of distinct entries commute.
-/

namespace Winjob

/-- An entry of the catalogue, named by its variable. -/
inductive Entry where
  | LimitBreakawayOK | LimitDieOnUnhandledException | LimitKillOnJobClose
  | LimitPreserveJobTime | LimitSubsetAffinity | LimitSilentBreakawayOK
  | LimitAffinity | LimitJobMemory | LimitJobTime | LimitProcessMemory | LimitProcessTime
  | LimitActiveProcess | LimitWorkingSet | LimitPriorityClass | LimitSchedulingClass
  | LimitDesktop | LimitDisplaySettings | LimitExitWindows | LimitGlobalAtoms | LimitHandles
  | LimitSystemParameters | LimitWriteClipboard | LimitReadClipboard
  | LimitCPU
  deriving DecidableEq, Fintype

/-- The value a limit of an entry carries; a flag or a UI restriction carries none. -/
def Entry.Value : Entry → Type
  | .LimitAffinity | .LimitJobMemory | .LimitProcessMemory => BitVec 64
  | .LimitJobTime | .LimitProcessTime => Duration
  | .LimitActiveProcess | .LimitSchedulingClass => BitVec 32
  | .LimitWorkingSet => BitVec 64 × BitVec 64
  | .LimitPriorityClass => PriorityClass
  | .LimitCPU => CPURate
  | .LimitBreakawayOK | .LimitDieOnUnhandledException | .LimitKillOnJobClose
  | .LimitPreserveJobTime | .LimitSubsetAffinity | .LimitSilentBreakawayOK
  | .LimitDesktop | .LimitDisplaySettings | .LimitExitWindows | .LimitGlobalAtoms | .LimitHandles
  | .LimitSystemParameters | .LimitWriteClipboard | .LimitReadClipboard => Unit

/-- A limit of the catalogue: an entry, with its value. -/
structure Catalogue where
  entry : Entry
  value : entry.Value

namespace Catalogue

/-- The limit the package builds for an entry and a value. A bare value-limit variable is
its `WithValue` of the zero value, and `LimitCPU` is `LimitCPU.WithValue` of the zero rate. -/
def toLimit : Catalogue → Limit
  | ⟨.LimitBreakawayOK, _⟩ => WithBreakawayOK
  | ⟨.LimitDieOnUnhandledException, _⟩ => WithDieOnUnhandledException
  | ⟨.LimitKillOnJobClose, _⟩ => WithKillOnJobClose
  | ⟨.LimitPreserveJobTime, _⟩ => WithPreserveJobTime
  | ⟨.LimitSubsetAffinity, _⟩ => WithSubsetAffinity
  | ⟨.LimitSilentBreakawayOK, _⟩ => WithSilentBreakawayOK
  | ⟨.LimitAffinity, x⟩ => WithAffinity x
  | ⟨.LimitJobMemory, x⟩ => WithJobMemoryLimit x
  | ⟨.LimitJobTime, d⟩ => WithJobTimeLimit d
  | ⟨.LimitProcessMemory, x⟩ => WithProcessMemoryLimit x
  | ⟨.LimitProcessTime, d⟩ => WithProcessTimeLimit d
  | ⟨.LimitActiveProcess, x⟩ => WithActiveProcessLimit x
  | ⟨.LimitWorkingSet, v⟩ => WithWorkingSetLimit v.1 v.2
  | ⟨.LimitPriorityClass, x⟩ => WithPriorityClassLimit x
  | ⟨.LimitSchedulingClass, x⟩ => WithSchedulingClassLimit x
  | ⟨.LimitDesktop, _⟩ => WithDesktopLimit
  | ⟨.LimitDisplaySettings, _⟩ => WithDisplaySettingsLimit
  | ⟨.LimitExitWindows, _⟩ => WithExitWindowsLimit
  | ⟨.LimitGlobalAtoms, _⟩ => WithGlobalAtomsLimit
  | ⟨.LimitHandles, _⟩ => WithHandlesLimit
  | ⟨.LimitSystemParameters, _⟩ => WithSystemParametersLimit
  | ⟨.LimitWriteClipboard, _⟩ => WithWriteClipboardLimit
  | ⟨.LimitReadClipboard, _⟩ => WithReadClipboardLimit
  | ⟨.LimitCPU, r⟩ => .cpuLimit (LimitCPU.WithValue r)

theorem isDirect_toLimit (c : Catalogue) : c.toLimit.IsDirect := by
  obtain ⟨e, v⟩ := c
  cases e <;> trivial

/-- The assignments of a value limit: its fields then its flag for `set`, its flag for
`reset`. -/
def valueWrites (set : Bool) (i : Fin 32) (fields : List Loc.Assign) : List Loc.Assign :=
  cond set (fields ++ [⟨.LimitFlag i, true⟩]) [⟨.LimitFlag i, false⟩]

/-- The assignments `set` (`set = true`) or `reset` performs. -/
def writes (set : Bool) : Catalogue → List Loc.Assign
  | ⟨.LimitBreakawayOK, _⟩ => [⟨.LimitFlag 11, set⟩]
  | ⟨.LimitDieOnUnhandledException, _⟩ => [⟨.LimitFlag 10, set⟩]
  | ⟨.LimitKillOnJobClose, _⟩ => [⟨.LimitFlag 13, set⟩]
  | ⟨.LimitPreserveJobTime, _⟩ => [⟨.LimitFlag 6, set⟩]
  | ⟨.LimitSubsetAffinity, _⟩ => [⟨.LimitFlag 14, set⟩]
  | ⟨.LimitSilentBreakawayOK, _⟩ => [⟨.LimitFlag 12, set⟩]
  | ⟨.LimitAffinity, x⟩ => valueWrites set 4 [⟨.field .Affinity, x⟩]
  | ⟨.LimitJobMemory, x⟩ => valueWrites set 9 [⟨.field .JobMemoryLimit, x⟩]
  | ⟨.LimitJobTime, d⟩ =>
    valueWrites set 2 [⟨.field .PerJobUserTimeLimit, d.Nanoseconds / timeFraction⟩]
  | ⟨.LimitProcessMemory, x⟩ => valueWrites set 8 [⟨.field .ProcessMemoryLimit, x⟩]
  | ⟨.LimitProcessTime, d⟩ =>
    valueWrites set 1 [⟨.field .PerProcessUserTimeLimit, d.Nanoseconds / timeFraction⟩]
  | ⟨.LimitActiveProcess, x⟩ => valueWrites set 3 [⟨.field .ActiveProcessLimit, x⟩]
  | ⟨.LimitWorkingSet, v⟩ =>
    valueWrites set 0 [⟨.field .MinimumWorkingSetSize, v.1⟩, ⟨.field .MaximumWorkingSetSize, v.2⟩]
  | ⟨.LimitPriorityClass, x⟩ => valueWrites set 5 [⟨.field .PriorityClass, x⟩]
  | ⟨.LimitSchedulingClass, x⟩ => valueWrites set 7 [⟨.field .SchedulingClass, x⟩]
  | ⟨.LimitDesktop, _⟩ => [⟨.UIRestriction 6, set⟩]
  | ⟨.LimitDisplaySettings, _⟩ => [⟨.UIRestriction 4, set⟩]
  | ⟨.LimitExitWindows, _⟩ => [⟨.UIRestriction 7, set⟩]
  | ⟨.LimitGlobalAtoms, _⟩ => [⟨.UIRestriction 5, set⟩]
  | ⟨.LimitHandles, _⟩ => [⟨.UIRestriction 0, set⟩]
  | ⟨.LimitSystemParameters, _⟩ => [⟨.UIRestriction 3, set⟩]
  | ⟨.LimitWriteClipboard, _⟩ => [⟨.UIRestriction 2, set⟩]
  | ⟨.LimitReadClipboard, _⟩ => [⟨.UIRestriction 1, set⟩]
  | ⟨.LimitCPU, r⟩ =>
    cond set ((cpuLimit.mode r).1.toList.map (⟨.Value, ·⟩) ++
        [⟨.ControlFlags, (cpuLimit.mode r).2 ||| JOB_OBJECT_CPU_RATE_CONTROL_ENABLE |||
          JOB_OBJECT_CPU_RATE_CONTROL_NOTIFY⟩])
      [⟨.ControlFlags, (0 : CPUControlFlag)⟩]

/-- **The write table is the code.** -/
theorem apply_eq_writeAll (set : Bool) (c : Catalogue) (job : JobInfo) :
    c.toLimit.apply set job = Loc.writeAll (c.writes set) job := by
  obtain ⟨e, v⟩ := c
  cases e
  case LimitCPU =>
    cases set
    · rfl
    · show cpuLimit.set v job = _
      cases h : (cpuLimit.mode v).1 <;>
        simp only [cpuLimit.set, writes, cond, h, Option.getD_none, Option.getD_some] <;> rfl
  all_goals cases set <;> rfl

end Catalogue

/-! ## What the limits read -/

namespace Entry

/-- The location `IsSet` reads: the entry's bit, or the CPU control flags. -/
def setLoc : Entry → Loc
  | .LimitBreakawayOK => .LimitFlag 11
  | .LimitDieOnUnhandledException => .LimitFlag 10
  | .LimitKillOnJobClose => .LimitFlag 13
  | .LimitPreserveJobTime => .LimitFlag 6
  | .LimitSubsetAffinity => .LimitFlag 14
  | .LimitSilentBreakawayOK => .LimitFlag 12
  | .LimitAffinity => .LimitFlag 4
  | .LimitJobMemory => .LimitFlag 9
  | .LimitJobTime => .LimitFlag 2
  | .LimitProcessMemory => .LimitFlag 8
  | .LimitProcessTime => .LimitFlag 1
  | .LimitActiveProcess => .LimitFlag 3
  | .LimitWorkingSet => .LimitFlag 0
  | .LimitPriorityClass => .LimitFlag 5
  | .LimitSchedulingClass => .LimitFlag 7
  | .LimitDesktop => .UIRestriction 6
  | .LimitDisplaySettings => .UIRestriction 4
  | .LimitExitWindows => .UIRestriction 7
  | .LimitGlobalAtoms => .UIRestriction 5
  | .LimitHandles => .UIRestriction 0
  | .LimitSystemParameters => .UIRestriction 3
  | .LimitWriteClipboard => .UIRestriction 2
  | .LimitReadClipboard => .UIRestriction 1
  | .LimitCPU => .ControlFlags

/-- The locations `LimitValue` reads besides. -/
def valueLocs : Entry → List Loc
  | .LimitAffinity => [.field .Affinity]
  | .LimitJobMemory => [.field .JobMemoryLimit]
  | .LimitJobTime => [.field .PerJobUserTimeLimit]
  | .LimitProcessMemory => [.field .ProcessMemoryLimit]
  | .LimitProcessTime => [.field .PerProcessUserTimeLimit]
  | .LimitActiveProcess => [.field .ActiveProcessLimit]
  | .LimitWorkingSet => [.field .MinimumWorkingSetSize, .field .MaximumWorkingSetSize]
  | .LimitPriorityClass => [.field .PriorityClass]
  | .LimitSchedulingClass => [.field .SchedulingClass]
  | .LimitCPU => [.Value]
  | _ => []

/-- The locations the limits of an entry read. -/
def reads (e : Entry) : List Loc := e.setLoc :: e.valueLocs

/-- **Distinct entries read disjoint locations.** -/
theorem reads_disjoint : ∀ e e' : Entry, e ≠ e' → ∀ t ∈ e.reads, t ∉ e'.reads := by decide

/-- What reading an entry back gives: `LimitValue` of a value limit (the pair
`MinWorkingSetSize`, `MaxWorkingSetSize` of the working set) or of the CPU limit, and
nothing for a flag or a UI restriction, whose `IsSet` is all there is to read. -/
def readBack : (e : Entry) → JobInfo → e.Value
  | .LimitAffinity, job => Winjob.LimitAffinity.LimitValue job
  | .LimitJobMemory, job => Winjob.LimitJobMemory.LimitValue job
  | .LimitJobTime, job => Winjob.LimitJobTime.LimitValue job
  | .LimitProcessMemory, job => Winjob.LimitProcessMemory.LimitValue job
  | .LimitProcessTime, job => Winjob.LimitProcessTime.LimitValue job
  | .LimitActiveProcess, job => Winjob.LimitActiveProcess.LimitValue job
  | .LimitWorkingSet, job =>
    (Winjob.LimitWorkingSet.MinWorkingSetSize job, Winjob.LimitWorkingSet.MaxWorkingSetSize job)
  | .LimitPriorityClass, job => Winjob.LimitPriorityClass.LimitValue job
  | .LimitSchedulingClass, job => Winjob.LimitSchedulingClass.LimitValue job
  | .LimitCPU, job => Winjob.LimitCPU.LimitValue job
  | .LimitBreakawayOK, _ | .LimitDieOnUnhandledException, _ | .LimitKillOnJobClose, _
  | .LimitPreserveJobTime, _ | .LimitSubsetAffinity, _ | .LimitSilentBreakawayOK, _
  | .LimitDesktop, _ | .LimitDisplaySettings, _ | .LimitExitWindows, _ | .LimitGlobalAtoms, _
  | .LimitHandles, _ | .LimitSystemParameters, _ | .LimitWriteClipboard, _
  | .LimitReadClipboard, _ => ()

theorem readBack_congr (e : Entry) {a b : JobInfo} (h : ∀ t ∈ e.reads, t.read a = t.read b) :
    e.readBack a = e.readBack b := by
  have hv : ∀ t ∈ e.valueLocs, t.read a = t.read b := fun t ht => h t (List.mem_cons_of_mem _ ht)
  cases e
  case LimitWorkingSet =>
    exact Prod.ext (hv (.field .MinimumWorkingSetSize) (by decide))
      (hv (.field .MaximumWorkingSetSize) (by decide))
  case LimitJobTime | LimitProcessTime =>
    exact congrArg (· * timeFraction) (hv _ (List.mem_singleton_self _))
  case LimitCPU =>
    have hf : a.CPURateControl.ControlFlags = b.CPURateControl.ControlFlags :=
      h .ControlFlags (by decide)
    have hval : a.CPURateControl.Value = b.CPURateControl.Value := hv .Value (by decide)
    simp only [readBack, cpuLimit.LimitValue, hf, hval]
  -- the other value limits read their one field; flags and UI restrictions read back `()`
  all_goals first | rfl | exact hv _ (List.mem_singleton_self _)

end Entry

namespace Catalogue

/-- A CPU limit has a mode: a hard cap, a weight or a maximum rate that is not zero. The
other limits have nothing to check. -/
def HasMode : Catalogue → Prop
  | ⟨.LimitCPU, r⟩ => 0 < r.HardCap ∨ 0 < r.Weight ∨ 0 < r.Max
  | _ => True

instance (c : Catalogue) : Decidable c.HasMode := by
  obtain ⟨e, v⟩ := c
  cases e
  case LimitCPU => exact inferInstanceAs (Decidable (0 < v.HardCap ∨ 0 < v.Weight ∨ 0 < v.Max))
  all_goals exact instDecidableTrue

/-- A limit writes only locations its entry reads. -/
theorem writes_subset_reads (set : Bool) (c : Catalogue) :
    ∀ w ∈ c.writes set, w.1 ∈ c.entry.reads := by
  obtain ⟨e, v⟩ := c
  cases e
  case LimitCPU =>
    cases set
    · simp [writes, Entry.reads, Entry.setLoc]
    · simp only [writes, cond, Entry.reads, Entry.setLoc, Entry.valueLocs, List.mem_append,
        List.mem_map, Option.mem_toList, List.mem_singleton]
      rintro ⟨t, x⟩ hw
      simp only [Sigma.mk.inj_iff] at hw
      rcases hw with ⟨a, -, rfl, -⟩ | ⟨rfl, -⟩ <;> simp
  all_goals cases set <;> simp [writes, valueWrites, Entry.reads, Entry.setLoc, Entry.valueLocs]

/-- `set` and `reset` write the location `IsSet` reads. -/
theorem setLoc_mem_writes (set : Bool) (c : Catalogue) :
    c.entry.setLoc ∈ (c.writes set).map Sigma.fst := by
  obtain ⟨e, v⟩ := c
  cases e <;> cases set <;> simp [writes, valueWrites, Entry.setLoc]

/-- `set` of a limit with a mode writes every location its entry reads. -/
theorem reads_subset_writes (c : Catalogue) (hc : c.HasMode) :
    ∀ t ∈ c.entry.reads, t ∈ (c.writes true).map Sigma.fst := by
  obtain ⟨e, v⟩ := c
  cases e
  case LimitCPU =>
    obtain ⟨m, hm⟩ : ∃ m, (cpuLimit.mode v).1 = some m := by
      simp only [HasMode] at hc
      simp only [cpuLimit.mode]
      split_ifs <;> first | exact ⟨_, rfl⟩ | (rcases hc with h | h | h <;> contradiction)
    simp [writes, Entry.reads, Entry.setLoc, Entry.valueLocs, hm]
  all_goals simp [writes, valueWrites, Entry.reads, Entry.setLoc, Entry.valueLocs]

/-- Limits of distinct entries write distinct locations. -/
theorem writes_disjoint {c c' : Catalogue} (h : c.entry ≠ c'.entry) (set set' : Bool) :
    ∀ w ∈ c.writes set, ∀ w' ∈ c'.writes set', w.1 ≠ w'.1 := fun w hw w' hw' he =>
  Entry.reads_disjoint _ _ h _ (writes_subset_reads set c w hw)
    (he ▸ writes_subset_reads set' c' w' hw')

/-- **Limits of distinct entries commute.** -/
theorem apply_comm {c c' : Catalogue} (h : c.entry ≠ c'.entry) (set set' : Bool)
    (job : JobInfo) :
    c.toLimit.apply set (c'.toLimit.apply set' job) =
      c'.toLimit.apply set' (c.toLimit.apply set job) := by
  simp only [apply_eq_writeAll]
  exact Loc.writeAll_comm (writes_disjoint h set set') job

/-! ## Reading back -/

/-- `IsSet` reads its location. -/
theorem IsSet_eq (c : Catalogue) (job : JobInfo) :
    c.toLimit.IsSet job = c.entry.setLoc.isSet (c.entry.setLoc.read job) := by
  obtain ⟨e, v⟩ := c
  cases e <;> first
    | exact basicLimit.IsSet_twoPow (by decide) job
    | exact uiRestriction.IsSet_twoPow (by decide) job
    | rfl

theorem IsSet_congr (c : Catalogue) {a b : JobInfo}
    (h : c.entry.setLoc.read a = c.entry.setLoc.read b) : c.toLimit.IsSet a = c.toLimit.IsSet b := by
  rw [IsSet_eq, IsSet_eq, h]

theorem ControlFlags_set_ne_zero (x : CPUControlFlag) :
    x ||| JOB_OBJECT_CPU_RATE_CONTROL_ENABLE ||| JOB_OBJECT_CPU_RATE_CONTROL_NOTIFY ≠ 0 := by
  intro h
  have := congrArg (BitVec.getLsbD · 0) h
  simp [JOB_OBJECT_CPU_RATE_CONTROL_ENABLE] at this

/-- **After `set` a limit is set, after `reset` it is not.** -/
theorem IsSet_apply (set : Bool) (c : Catalogue) (job : JobInfo) :
    c.toLimit.IsSet (c.toLimit.apply set job) = set := by
  rw [IsSet_eq, apply_eq_writeAll]
  obtain ⟨e, v⟩ := c
  cases e <;> cases set <;> simp [writes, valueWrites, Entry.setLoc, Loc.isSet, Loc.writeAll_append]
  exact ControlFlags_set_ne_zero _

end Catalogue

/-- What `Value` returns, from what `IsSet` and `LimitValue` read: the value of a value
limit or of the CPU limit, with its Go type, and whether it is set for the others (the
working-set limit has no `Value` of its own). -/
def Entry.goValue : (e : Entry) → Bool → e.Value → GoValue
  | .LimitAffinity | .LimitJobMemory | .LimitProcessMemory => fun _ (x : BitVec 64) => .uintptr x
  | .LimitJobTime | .LimitProcessTime => fun _ (d : Duration) => .duration d
  | .LimitActiveProcess | .LimitSchedulingClass => fun _ (x : BitVec 32) => .uint32 x
  | .LimitPriorityClass => fun _ (p : PriorityClass) => .priorityClass p
  | .LimitCPU => fun _ (r : CPURate) => .cpuRate r
  | .LimitWorkingSet | .LimitBreakawayOK | .LimitDieOnUnhandledException | .LimitKillOnJobClose
  | .LimitPreserveJobTime | .LimitSubsetAffinity | .LimitSilentBreakawayOK
  | .LimitDesktop | .LimitDisplaySettings | .LimitExitWindows | .LimitGlobalAtoms | .LimitHandles
  | .LimitSystemParameters | .LimitWriteClipboard | .LimitReadClipboard => fun b _ => .bool b

/-- The rate a CPU limit reads back after its `set`: its first mode whose value is not zero
(a hard cap, a weight, or the minimum and maximum rates), or no rate. -/
def CPURate.firstMode (r : CPURate) : CPURate :=
  if 0 < r.HardCap then { HardCap := r.HardCap }
  else if 0 < r.Weight then { Weight := r.Weight }
  else if 0 < r.Max then { Min := r.Min, Max := r.Max }
  else {}

/-- The CPU limit reads back as the first mode of the rate `set` stored. -/
theorem cpuLimit.LimitValue_set (l r : cpuLimit) (job : JobInfo) :
    l.LimitValue (r.set job) = r.firstMode := by
  simp only [cpuLimit.set, cpuLimit.mode, cpuLimit.LimitValue, CPURate.firstMode]
  by_cases h₁ : 0 < r.HardCap
  · simp only [h₁, if_true]; rfl
  by_cases h₂ : 0 < r.Weight
  · simp only [h₁, h₂, if_true, if_false]; rfl
  by_cases h₃ : 0 < r.Max
  · simp only [h₁, h₂, h₃, if_true, if_false, Option.getD_some,
      LittleEndian.Uint32_putUint16_append, LittleEndian.putUint32_append]
    have h2 : (LittleEndian.putUint16 r.Min).length = 2 := rfl
    simp only [List.take_left' h2, List.drop_left' h2]
    rw [if_neg (by decide), if_neg (by decide), if_pos (by decide)]
    simp only [LittleEndian.Uint16_putUint16]
  · simp only [h₁, h₂, h₃, if_true, if_false]
    rfl

/-- Of the three mode bits, `set` leaves the one of the first mode. -/
theorem cpuLimit.set_modeBits (r : cpuLimit) (job : JobInfo) :
    (r.set job).CPURateControl.ControlFlags &&& (JOB_OBJECT_CPU_RATE_CONTROL_HARD_CAP |||
      JOB_OBJECT_CPU_RATE_CONTROL_WEIGHT_BASED ||| JOB_OBJECT_CPU_RATE_CONTROL_MIN_MAX_RATE) =
    if 0 < r.HardCap then JOB_OBJECT_CPU_RATE_CONTROL_HARD_CAP
    else if 0 < r.Weight then JOB_OBJECT_CPU_RATE_CONTROL_WEIGHT_BASED
    else if 0 < r.Max then JOB_OBJECT_CPU_RATE_CONTROL_MIN_MAX_RATE else 0 := by
  simp only [cpuLimit.set, cpuLimit.mode]
  split_ifs <;> dsimp only <;> decide

/-- A duration truncated toward zero to a multiple of 100 ns. -/
def Duration.truncate100 (d : Duration) : Duration := Int64.ofInt (d.val.tdiv 100 * 100)

theorem Duration.tdiv_hundred_mem (d : Duration) :
    (-2 ^ 63 ≤ d.val.tdiv 100 * 100 ∧ d.val.tdiv 100 * 100 < 2 ^ 63) ∧
      (-2 ^ 63 ≤ d.val.tdiv 100 ∧ d.val.tdiv 100 < 2 ^ 63) := by
  have := d.lo
  have := d.hi
  rcases Int.tdiv_hundred d.val with ⟨h, e⟩ | ⟨h, e⟩ <;> rw [e] <;> omega

/-- The truncation does not wrap around. -/
theorem Duration.truncate100_val (d : Duration) : d.truncate100.val = d.val.tdiv 100 * 100 :=
  Int64.ofInt_val_of_mem d.tdiv_hundred_mem.1.1 d.tdiv_hundred_mem.1.2

/-- A duration stored in ticks reads back truncated. -/
theorem Duration.div_timeFraction_mul (d : Duration) :
    d.Nanoseconds / timeFraction * timeFraction = d.truncate100 := by
  have hq : (d.Nanoseconds / timeFraction).val = d.val.tdiv 100 :=
    Int64.ofInt_val_of_mem d.tdiv_hundred_mem.2.1 d.tdiv_hundred_mem.2.2
  ext
  rw [Int64.mul_val, hq]
  rfl

namespace Catalogue

theorem Value_eq (c : Catalogue) (job : JobInfo) :
    c.toLimit.Value job = c.entry.goValue (c.toLimit.IsSet job) (c.entry.readBack job) := by
  obtain ⟨e, v⟩ := c
  cases e <;> rfl

theorem Value_congr (c : Catalogue) {a b : JobInfo} (h : ∀ t ∈ c.entry.reads, t.read a = t.read b) :
    c.toLimit.Value a = c.toLimit.Value b := by
  rw [Value_eq, Value_eq, IsSet_congr c (h _ (List.mem_cons_self _ _)), Entry.readBack_congr _ h]

/-- What a limit should read back after its `set`: its value, but a duration truncated
toward zero to a multiple of 100 ns, and a CPU rate as its first mode. -/
def expected : (c : Catalogue) → c.entry.Value
  | ⟨.LimitJobTime, d⟩ => Duration.truncate100 d
  | ⟨.LimitProcessTime, d⟩ => Duration.truncate100 d
  | ⟨.LimitCPU, r⟩ => CPURate.firstMode r
  | ⟨_, v⟩ => v

/-- **A limit reads back its value after its `set`.** -/
theorem readBack_set (c : Catalogue) (job : JobInfo) :
    c.entry.readBack (c.toLimit.apply true job) = c.expected := by
  obtain ⟨e, v⟩ := c
  cases e
  case LimitJobTime | LimitProcessTime => exact Duration.div_timeFraction_mul v
  case LimitCPU => exact cpuLimit.LimitValue_set LimitCPU v job
  all_goals rfl

end Catalogue

end Winjob
