import Winjob.JobInfo

set_option autoImplicit false

/-! # Limits (`limits.go`, `limits_ui.go`, the CPU limit)

Each limit type of the package implements the `Limit` interface: `IsSet` and `Value` read
the cache, `set` and `reset` write it. A `Limit` value is one of these types, or a value
of another type that implements the interface: a pointer `*T` to a value of a limit type
`T` (its method set contains `T`'s), or a struct embedding a `Limit` (it gets the embedded
methods). `Limit.ptr` and `Limit.embed` are these two.

The value limits of `limits.go` share their `set`: store the value in a scalar field, then
set the limit flag (`valueLimitSet`). Each keeps its Go name, as that definition applied to
its own field.

The network limits (`netBandwidthLimit`, `netDSCPTagLimit`) are named by
`resolveRequiredInfoClass`, but their source is not in the repository's listing; they are
modelled from the spec.
-/

namespace Winjob

/-! ## Little-endian byte order (`encoding/binary`) -/

/-- `binary.Write(&b, binary.LittleEndian, x)` for a `uint16`: its bytes, low byte first. -/
def LittleEndian.putUint16 (x : BitVec 16) : List (BitVec 8) :=
  [x.extractLsb' 0 8, x.extractLsb' 8 8]

/-- `binary.Write(&b, binary.LittleEndian, x)` for a `uint32`: its bytes, low byte first. -/
def LittleEndian.putUint32 (x : BitVec 32) : List (BitVec 8) :=
  [x.extractLsb' 0 8, x.extractLsb' 8 8, x.extractLsb' 16 8, x.extractLsb' 24 8]

/-- `binary.LittleEndian.Uint16(b)`: the first two bytes, low byte first. The package always
passes at least two bytes (Go panics on fewer). -/
def LittleEndian.Uint16 (b : List (BitVec 8)) : BitVec 16 := b.getD 1 0 ++ b.getD 0 0

/-- `binary.LittleEndian.Uint32(b)`: the first four bytes, low byte first. -/
def LittleEndian.Uint32 (b : List (BitVec 8)) : BitVec 32 :=
  b.getD 3 0 ++ b.getD 2 0 ++ b.getD 1 0 ++ b.getD 0 0

private theorem getLsbD_append_ite {n m : Nat} (x : BitVec n) (y : BitVec m) (i : Nat) :
    (x ++ y).getLsbD i = if i < m then y.getLsbD i else x.getLsbD (i - m) := by
  rw [BitVec.getLsbD_append]; split <;> simp [*]

private theorem getLsbD_extractLsb'_of_lt {n : Nat} (x : BitVec n) (s l i : Nat) (h : i < l) :
    (x.extractLsb' s l).getLsbD i = x.getLsbD (s + i) := by
  simp [h]

namespace LittleEndian

/-- Reading back the bytes of a `uint16`. -/
theorem Uint16_putUint16_append (x : BitVec 16) (rest : List (BitVec 8)) :
    Uint16 (putUint16 x ++ rest) = x := by
  ext i
  have := i.isLt
  simp only [Uint16, putUint16, List.cons_append, List.nil_append, List.getD_cons_succ,
    List.getD_cons_zero, getLsbD_append_ite]
  split <;> (rw [getLsbD_extractLsb'_of_lt _ _ _ _ (by omega)]; congr 1; omega)

@[simp] theorem Uint16_putUint16 (x : BitVec 16) : Uint16 (putUint16 x) = x := by
  simpa using Uint16_putUint16_append x []

/-- The bytes of two `uint16`s, read as a `uint32`: the second is the high half. -/
theorem Uint32_putUint16_append (lo hi : BitVec 16) :
    Uint32 (putUint16 lo ++ putUint16 hi) = hi ++ lo := by
  ext i
  have := i.isLt
  simp only [Uint32, putUint16, List.cons_append, List.nil_append, List.getD_cons_succ,
    List.getD_cons_zero, getLsbD_append_ite]
  split_ifs <;> (try rw [getLsbD_extractLsb'_of_lt _ _ _ _ (by omega)]) <;>
    first | omega | (congr 1; omega)

/-- The bytes of a `uint32` are those of its low half, then those of its high half. -/
theorem putUint32_append (hi lo : BitVec 16) :
    putUint32 (hi ++ lo) = putUint16 lo ++ putUint16 hi := by
  simp only [putUint32, putUint16, List.cons_append, List.nil_append, List.cons.injEq, and_true]
  refine ⟨?_, ?_, ?_, ?_⟩ <;>
    (ext i; have := i.isLt; simp only [BitVec.getLsbD_extractLsb', getLsbD_append_ite]
     split <;> first | rfl | omega | (congr 2; omega))

end LittleEndian

/-! ## The value of a limit -/

/-- `CPURate`: the rate of CPU rate control, one of its three modes. -/
structure CPURate where
  Min : BitVec 16 := 0
  Max : BitVec 16 := 0
  Weight : BitVec 32 := 0
  HardCap : BitVec 32 := 0
  deriving DecidableEq

/-- What a `Value` method returns, tagged with its dynamic Go type (`interface{}`). -/
inductive GoValue where
  | bool (b : Bool)
  | uintptr (x : BitVec 64)
  | duration (d : Duration)
  | uint32 (x : BitVec 32)
  | priorityClass (p : PriorityClass)
  | cpuRate (r : CPURate)
  | uint64 (x : BitVec 64)
  | byte (b : BitVec 8)
  deriving DecidableEq

/-! ## `basicLimit` and the value limits -/

/-- `basicLimit`: a flag of the basic limit information. -/
abbrev basicLimit := LimitFlag

def basicLimit.set (l : basicLimit) (job : JobInfo) : JobInfo :=
  { job with ExtendedLimits.BasicLimitInformation.LimitFlags :=
      job.ExtendedLimits.BasicLimitInformation.LimitFlags ||| l }

def basicLimit.reset (l : basicLimit) (job : JobInfo) : JobInfo :=
  { job with ExtendedLimits.BasicLimitInformation.LimitFlags :=
      job.ExtendedLimits.BasicLimitInformation.LimitFlags &&& ~~~l }

def basicLimit.IsSet (l : basicLimit) (job : JobInfo) : Bool :=
  decide (0 < job.ExtendedLimits.BasicLimitInformation.LimitFlags &&& l)

/-- A flag word has the flag `2^i` exactly when its bit `i` is set. -/
theorem decide_pos_and_twoPow (x : BitVec 32) {i : Nat} (hi : i < 32) :
    decide (0 < x &&& .twoPow 32 i) = x.getLsbD i := by
  have h2 : 2 ^ i % 2 ^ 32 = 2 ^ i := Nat.mod_eq_of_lt (Nat.pow_lt_pow_right (by decide : 1 < 2) hi)
  rw [BitVec.and_twoPow]
  split
  · next h =>
    rw [h, decide_eq_true_eq, BitVec.lt_def, BitVec.toNat_twoPow, h2]
    exact Nat.two_pow_pos i
  · next h => simpa using h

theorem basicLimit.IsSet_twoPow {i : Nat} (hi : i < 32) (job : JobInfo) :
    basicLimit.IsSet (.twoPow 32 i) job =
      job.ExtendedLimits.BasicLimitInformation.LimitFlags.getLsbD i :=
  decide_pos_and_twoPow _ hi

def basicLimit.Value (l : basicLimit) (job : JobInfo) : GoValue := .bool (basicLimit.IsSet l job)

/-- The `set` of the value limits: store `x` in the field `f`, then `l.basicLimit.set(job)`. -/
def valueLimitSet (f : LimitField) (l : basicLimit) (x : f.type) (job : JobInfo) : JobInfo :=
  basicLimit.set l (job.setField f x)

structure affinityLimit where
  basicLimit : basicLimit
  affinity : BitVec 64 := 0
  deriving DecidableEq

def affinityLimit.WithValue (l : affinityLimit) (x : BitVec 64) : affinityLimit :=
  { l with affinity := x }

def affinityLimit.LimitValue (_l : affinityLimit) (job : JobInfo) : BitVec 64 :=
  job.ExtendedLimits.BasicLimitInformation.Affinity

def affinityLimit.set (l : affinityLimit) : JobInfo → JobInfo :=
  valueLimitSet .Affinity l.basicLimit l.affinity

structure jobMemoryLimit where
  basicLimit : basicLimit
  jobMemory : BitVec 64 := 0
  deriving DecidableEq

def jobMemoryLimit.WithValue (l : jobMemoryLimit) (x : BitVec 64) : jobMemoryLimit :=
  { l with jobMemory := x }

def jobMemoryLimit.LimitValue (_l : jobMemoryLimit) (job : JobInfo) : BitVec 64 :=
  job.ExtendedLimits.JobMemoryLimit

def jobMemoryLimit.set (l : jobMemoryLimit) : JobInfo → JobInfo :=
  valueLimitSet .JobMemoryLimit l.basicLimit l.jobMemory

/-- `timeFraction`: time limits and counters are in 100-nanosecond ticks. -/
def timeFraction : Int64 := 100

structure jobTimeLimit where
  basicLimit : basicLimit
  jobTime : Int64 := 0
  deriving DecidableEq

def jobTimeLimit.WithValue (l : jobTimeLimit) (x : Duration) : jobTimeLimit :=
  { l with jobTime := x.Nanoseconds / timeFraction }

def jobTimeLimit.LimitValue (_l : jobTimeLimit) (job : JobInfo) : Duration :=
  job.ExtendedLimits.BasicLimitInformation.PerJobUserTimeLimit * timeFraction

def jobTimeLimit.set (l : jobTimeLimit) : JobInfo → JobInfo :=
  valueLimitSet .PerJobUserTimeLimit l.basicLimit l.jobTime

structure processMemoryLimit where
  basicLimit : basicLimit
  processMemory : BitVec 64 := 0
  deriving DecidableEq

def processMemoryLimit.WithValue (l : processMemoryLimit) (x : BitVec 64) : processMemoryLimit :=
  { l with processMemory := x }

def processMemoryLimit.LimitValue (_l : processMemoryLimit) (job : JobInfo) : BitVec 64 :=
  job.ExtendedLimits.ProcessMemoryLimit

def processMemoryLimit.set (l : processMemoryLimit) : JobInfo → JobInfo :=
  valueLimitSet .ProcessMemoryLimit l.basicLimit l.processMemory

structure processTimeLimit where
  basicLimit : basicLimit
  processTime : Int64 := 0
  deriving DecidableEq

def processTimeLimit.WithValue (l : processTimeLimit) (x : Duration) : processTimeLimit :=
  { l with processTime := x.Nanoseconds / timeFraction }

def processTimeLimit.LimitValue (_l : processTimeLimit) (job : JobInfo) : Duration :=
  job.ExtendedLimits.BasicLimitInformation.PerProcessUserTimeLimit * timeFraction

def processTimeLimit.set (l : processTimeLimit) : JobInfo → JobInfo :=
  valueLimitSet .PerProcessUserTimeLimit l.basicLimit l.processTime

structure activeProcessLimit where
  basicLimit : basicLimit
  procs : BitVec 32 := 0
  deriving DecidableEq

def activeProcessLimit.WithValue (l : activeProcessLimit) (x : BitVec 32) : activeProcessLimit :=
  { l with procs := x }

def activeProcessLimit.LimitValue (_l : activeProcessLimit) (job : JobInfo) : BitVec 32 :=
  job.ExtendedLimits.BasicLimitInformation.ActiveProcessLimit

def activeProcessLimit.set (l : activeProcessLimit) : JobInfo → JobInfo :=
  valueLimitSet .ActiveProcessLimit l.basicLimit l.procs

/-- The working-set limit stores two values, and has no `Value` of its own: its `Value` is
`basicLimit`'s. -/
structure workingSetLimit where
  basicLimit : basicLimit
  wsMin : BitVec 64 := 0
  wsMax : BitVec 64 := 0
  deriving DecidableEq

def workingSetLimit.WithValue (l : workingSetLimit) (min max : BitVec 64) : workingSetLimit :=
  { l with wsMin := min, wsMax := max }

def workingSetLimit.MinWorkingSetSize (_l : workingSetLimit) (job : JobInfo) : BitVec 64 :=
  job.ExtendedLimits.BasicLimitInformation.MinimumWorkingSetSize

def workingSetLimit.MaxWorkingSetSize (_l : workingSetLimit) (job : JobInfo) : BitVec 64 :=
  job.ExtendedLimits.BasicLimitInformation.MaximumWorkingSetSize

def workingSetLimit.set (l : workingSetLimit) (job : JobInfo) : JobInfo :=
  basicLimit.set l.basicLimit
    ((job.setField .MinimumWorkingSetSize l.wsMin).setField .MaximumWorkingSetSize l.wsMax)

structure priorityClassLimit where
  basicLimit : basicLimit
  prio : PriorityClass := 0
  deriving DecidableEq

def priorityClassLimit.WithValue (l : priorityClassLimit) (x : PriorityClass) :
    priorityClassLimit :=
  { l with prio := x }

def priorityClassLimit.LimitValue (_l : priorityClassLimit) (job : JobInfo) : PriorityClass :=
  job.ExtendedLimits.BasicLimitInformation.PriorityClass

def priorityClassLimit.set (l : priorityClassLimit) : JobInfo → JobInfo :=
  valueLimitSet .PriorityClass l.basicLimit l.prio

structure schedulingClassLimit where
  basicLimit : basicLimit
  schedClass : BitVec 32 := 0
  deriving DecidableEq

def schedulingClassLimit.WithValue (l : schedulingClassLimit) (x : BitVec 32) :
    schedulingClassLimit :=
  { l with schedClass := x }

def schedulingClassLimit.LimitValue (_l : schedulingClassLimit) (job : JobInfo) : BitVec 32 :=
  job.ExtendedLimits.BasicLimitInformation.SchedulingClass

def schedulingClassLimit.set (l : schedulingClassLimit) : JobInfo → JobInfo :=
  valueLimitSet .SchedulingClass l.basicLimit l.schedClass

/-! ## `uiRestriction` -/

abbrev uiRestriction := UIRestrictionsClass

def uiRestriction.set (r : uiRestriction) (job : JobInfo) : JobInfo :=
  { job with UIRestrictions.UIRestrictionsClass := job.UIRestrictions.UIRestrictionsClass ||| r }

def uiRestriction.reset (r : uiRestriction) (job : JobInfo) : JobInfo :=
  { job with UIRestrictions.UIRestrictionsClass :=
      job.UIRestrictions.UIRestrictionsClass &&& ~~~r }

def uiRestriction.IsSet (r : uiRestriction) (job : JobInfo) : Bool :=
  decide (0 < job.UIRestrictions.UIRestrictionsClass &&& r)

theorem uiRestriction.IsSet_twoPow {i : Nat} (hi : i < 32) (job : JobInfo) :
    uiRestriction.IsSet (.twoPow 32 i) job = job.UIRestrictions.UIRestrictionsClass.getLsbD i :=
  decide_pos_and_twoPow _ hi

/-! ## `cpuLimit` -/

abbrev cpuLimit := CPURate

def cpuLimit.reset (_l : cpuLimit) (job : JobInfo) : JobInfo :=
  { job with CPURateControl.ControlFlags := 0 }

def cpuLimit.IsSet (_l : cpuLimit) (job : JobInfo) : Bool :=
  job.CPURateControl.ControlFlags != 0

def cpuLimit.WithValue (_l : cpuLimit) (x : CPURate) : cpuLimit := x

/-- The rate of the first mode whose flag is set: hard cap, weight, or the min/max pair
unpacked from the bytes of `Value`. -/
def cpuLimit.LimitValue (_l : cpuLimit) (job : JobInfo) : CPURate :=
  let flags := job.CPURateControl.ControlFlags
  if 0 < flags &&& JOB_OBJECT_CPU_RATE_CONTROL_HARD_CAP then
    { HardCap := job.CPURateControl.Value }
  else if 0 < flags &&& JOB_OBJECT_CPU_RATE_CONTROL_WEIGHT_BASED then
    { Weight := job.CPURateControl.Value }
  else if 0 < flags &&& JOB_OBJECT_CPU_RATE_CONTROL_MIN_MAX_RATE then
    let b := LittleEndian.putUint32 job.CPURateControl.Value
    { Min := LittleEndian.Uint16 (b.take 2), Max := LittleEndian.Uint16 (b.drop 2) }
  else {}

/-- The mode `set` picks, with the value it stores: hard cap, else weight, else the
min/max pair packed into four bytes, else no mode (`Value` kept, flag `0`). -/
def cpuLimit.mode (l : cpuLimit) : Option (BitVec 32) × CPUControlFlag :=
  if 0 < l.HardCap then (some l.HardCap, JOB_OBJECT_CPU_RATE_CONTROL_HARD_CAP)
  else if 0 < l.Weight then (some l.Weight, JOB_OBJECT_CPU_RATE_CONTROL_WEIGHT_BASED)
  else if 0 < l.Max then
    (some (LittleEndian.Uint32 (LittleEndian.putUint16 l.Min ++ LittleEndian.putUint16 l.Max)),
      JOB_OBJECT_CPU_RATE_CONTROL_MIN_MAX_RATE)
  else (none, 0)

def cpuLimit.set (l : cpuLimit) (job : JobInfo) : JobInfo :=
  { job with CPURateControl :=
      { Value := l.mode.1.getD job.CPURateControl.Value
        ControlFlags := l.mode.2 ||| JOB_OBJECT_CPU_RATE_CONTROL_ENABLE |||
          JOB_OBJECT_CPU_RATE_CONTROL_NOTIFY } }

/-! ## Network limits -/

/-- Modelled from the spec: the outgoing-bandwidth limit (`netBandwidthLimit`, missing from
the repository's listing). The spec calls the network limits "independently settable bits
of one control block": `set` stores the bandwidth and sets its bit, `reset` clears the bit,
`IsSet` tests it. -/
structure netBandwidthLimit where
  bandwidth : BitVec 64 := 0
  deriving DecidableEq

def netBandwidthLimit.set (l : netBandwidthLimit) (job : JobInfo) : JobInfo :=
  { job with NetRateControl.MaxBandwidth := l.bandwidth,
             NetRateControl.ControlFlags :=
               job.NetRateControl.ControlFlags ||| JOB_OBJECT_NET_RATE_CONTROL_MAX_BANDWIDTH }

def netBandwidthLimit.reset (_l : netBandwidthLimit) (job : JobInfo) : JobInfo :=
  { job with NetRateControl.ControlFlags :=
      job.NetRateControl.ControlFlags &&& ~~~JOB_OBJECT_NET_RATE_CONTROL_MAX_BANDWIDTH }

def netBandwidthLimit.IsSet (_l : netBandwidthLimit) (job : JobInfo) : Bool :=
  decide (0 < job.NetRateControl.ControlFlags &&& JOB_OBJECT_NET_RATE_CONTROL_MAX_BANDWIDTH)

/-- Modelled from the spec: the DSCP tag limit (`netDSCPTagLimit`, missing from the
repository's listing), a second independently settable bit of the network control block. -/
structure netDSCPTagLimit where
  tag : BitVec 8 := 0
  deriving DecidableEq

def netDSCPTagLimit.set (l : netDSCPTagLimit) (job : JobInfo) : JobInfo :=
  { job with NetRateControl.DscpTag := l.tag,
             NetRateControl.ControlFlags :=
               job.NetRateControl.ControlFlags ||| JOB_OBJECT_NET_RATE_CONTROL_DSCP_TAG }

def netDSCPTagLimit.reset (_l : netDSCPTagLimit) (job : JobInfo) : JobInfo :=
  { job with NetRateControl.ControlFlags :=
      job.NetRateControl.ControlFlags &&& ~~~JOB_OBJECT_NET_RATE_CONTROL_DSCP_TAG }

def netDSCPTagLimit.IsSet (_l : netDSCPTagLimit) (job : JobInfo) : Bool :=
  decide (0 < job.NetRateControl.ControlFlags &&& JOB_OBJECT_NET_RATE_CONTROL_DSCP_TAG)

/-! ## The `Limit` interface -/

/-- A value of the interface type `Limit`, by its dynamic type. -/
inductive Limit where
  | basicLimit (l : basicLimit)
  | affinityLimit (l : affinityLimit)
  | jobMemoryLimit (l : jobMemoryLimit)
  | jobTimeLimit (l : jobTimeLimit)
  | processMemoryLimit (l : processMemoryLimit)
  | processTimeLimit (l : processTimeLimit)
  | activeProcessLimit (l : activeProcessLimit)
  | workingSetLimit (l : workingSetLimit)
  | priorityClassLimit (l : priorityClassLimit)
  | schedulingClassLimit (l : schedulingClassLimit)
  | uiRestriction (r : uiRestriction)
  | cpuLimit (l : cpuLimit)
  | netBandwidthLimit (l : netBandwidthLimit)
  | netDSCPTagLimit (l : netDSCPTagLimit)
  /-- A pointer `*T` to a value of a limit type `T`. -/
  | ptr (l : Limit)
  /-- A struct embedding a `Limit`. -/
  | embed (l : Limit)
  deriving DecidableEq

namespace Limit

def set : Limit → JobInfo → JobInfo
  | .basicLimit l => basicLimit.set l
  | .affinityLimit l => l.set
  | .jobMemoryLimit l => l.set
  | .jobTimeLimit l => l.set
  | .processMemoryLimit l => l.set
  | .processTimeLimit l => l.set
  | .activeProcessLimit l => l.set
  | .workingSetLimit l => l.set
  | .priorityClassLimit l => l.set
  | .schedulingClassLimit l => l.set
  | .uiRestriction r => uiRestriction.set r
  | .cpuLimit l => cpuLimit.set l
  | .netBandwidthLimit l => l.set
  | .netDSCPTagLimit l => l.set
  | .ptr l => l.set
  | .embed l => l.set

/-- The value limits have no `reset` of their own: theirs is `basicLimit`'s. -/
def reset : Limit → JobInfo → JobInfo
  | .basicLimit l => basicLimit.reset l
  | .affinityLimit l => basicLimit.reset l.basicLimit
  | .jobMemoryLimit l => basicLimit.reset l.basicLimit
  | .jobTimeLimit l => basicLimit.reset l.basicLimit
  | .processMemoryLimit l => basicLimit.reset l.basicLimit
  | .processTimeLimit l => basicLimit.reset l.basicLimit
  | .activeProcessLimit l => basicLimit.reset l.basicLimit
  | .workingSetLimit l => basicLimit.reset l.basicLimit
  | .priorityClassLimit l => basicLimit.reset l.basicLimit
  | .schedulingClassLimit l => basicLimit.reset l.basicLimit
  | .uiRestriction r => uiRestriction.reset r
  | .cpuLimit l => cpuLimit.reset l
  | .netBandwidthLimit l => l.reset
  | .netDSCPTagLimit l => l.reset
  | .ptr l => l.reset
  | .embed l => l.reset

def IsSet : Limit → JobInfo → Bool
  | .basicLimit l => basicLimit.IsSet l
  | .affinityLimit l => basicLimit.IsSet l.basicLimit
  | .jobMemoryLimit l => basicLimit.IsSet l.basicLimit
  | .jobTimeLimit l => basicLimit.IsSet l.basicLimit
  | .processMemoryLimit l => basicLimit.IsSet l.basicLimit
  | .processTimeLimit l => basicLimit.IsSet l.basicLimit
  | .activeProcessLimit l => basicLimit.IsSet l.basicLimit
  | .workingSetLimit l => basicLimit.IsSet l.basicLimit
  | .priorityClassLimit l => basicLimit.IsSet l.basicLimit
  | .schedulingClassLimit l => basicLimit.IsSet l.basicLimit
  | .uiRestriction r => uiRestriction.IsSet r
  | .cpuLimit l => cpuLimit.IsSet l
  | .netBandwidthLimit l => l.IsSet
  | .netDSCPTagLimit l => l.IsSet
  | .ptr l => l.IsSet
  | .embed l => l.IsSet

def Value : Limit → JobInfo → GoValue
  | .basicLimit l, job => basicLimit.Value l job
  | .affinityLimit l, job => .uintptr (l.LimitValue job)
  | .jobMemoryLimit l, job => .uintptr (l.LimitValue job)
  | .jobTimeLimit l, job => .duration (l.LimitValue job)
  | .processMemoryLimit l, job => .uintptr (l.LimitValue job)
  | .processTimeLimit l, job => .duration (l.LimitValue job)
  | .activeProcessLimit l, job => .uint32 (l.LimitValue job)
  | .workingSetLimit l, job => basicLimit.Value l.basicLimit job
  | .priorityClassLimit l, job => .priorityClass (l.LimitValue job)
  | .schedulingClassLimit l, job => .uint32 (l.LimitValue job)
  | .uiRestriction r, job => .bool (uiRestriction.IsSet r job)
  | .cpuLimit l, job => .cpuRate (cpuLimit.LimitValue l job)
  | .netBandwidthLimit _, job => .uint64 job.NetRateControl.MaxBandwidth
  | .netDSCPTagLimit _, job => .byte job.NetRateControl.DscpTag
  | .ptr l, job => l.Value job
  | .embed l, job => l.Value job

/-- `limit.set(job)` or `limit.reset(job)`, as `applyLimit` chooses by `set`. -/
def apply (set : Bool) (l : Limit) : JobInfo → JobInfo := if set then l.set else l.reset

end Limit

/-- `resolveRequiredInfoClass`: the class of the block a limit is taken to write, by a type
switch on its dynamic type. -/
def resolveRequiredInfoClass : Limit → JobObjectInformationClass
  | .uiRestriction _ => .JobObjectBasicUIRestrictions
  | .cpuLimit _ => .JobObjectCpuRateControlInformation
  | .netBandwidthLimit _ | .netDSCPTagLimit _ => .JobObjectNetRateControlInformation
  | _ => .JobObjectExtendedLimitInformation

/-! ## The catalogue -/

def LimitBreakawayOK : basicLimit := JOB_OBJECT_LIMIT_BREAKAWAY_OK
def LimitDieOnUnhandledException : basicLimit := JOB_OBJECT_LIMIT_DIE_ON_UNHANDLED_EXCEPTION
def LimitKillOnJobClose : basicLimit := JOB_OBJECT_LIMIT_KILL_ON_JOB_CLOSE
def LimitPreserveJobTime : basicLimit := JOB_OBJECT_LIMIT_PRESERVE_JOB_TIME
def LimitSubsetAffinity : basicLimit := JOB_OBJECT_LIMIT_SUBSET_AFFINITY
def LimitSilentBreakawayOK : basicLimit := JOB_OBJECT_LIMIT_SILENT_BREAKAWAY_OK

def LimitAffinity : affinityLimit := { basicLimit := JOB_OBJECT_LIMIT_AFFINITY }
def LimitJobMemory : jobMemoryLimit := { basicLimit := JOB_OBJECT_LIMIT_JOB_MEMORY }
def LimitJobTime : jobTimeLimit := { basicLimit := JOB_OBJECT_LIMIT_JOB_TIME }
def LimitProcessMemory : processMemoryLimit := { basicLimit := JOB_OBJECT_LIMIT_PROCESS_MEMORY }
def LimitProcessTime : processTimeLimit := { basicLimit := JOB_OBJECT_LIMIT_PROCESS_TIME }
def LimitActiveProcess : activeProcessLimit := { basicLimit := JOB_OBJECT_LIMIT_ACTIVE_PROCESS }
def LimitWorkingSet : workingSetLimit := { basicLimit := JOB_OBJECT_LIMIT_WORKINGSET }
def LimitPriorityClass : priorityClassLimit := { basicLimit := JOB_OBJECT_LIMIT_PRIORITY_CLASS }
def LimitSchedulingClass : schedulingClassLimit :=
  { basicLimit := JOB_OBJECT_LIMIT_SCHEDULING_CLASS }

def LimitDesktop : uiRestriction := JOB_OBJECT_UILIMIT_DESKTOP
def LimitDisplaySettings : uiRestriction := JOB_OBJECT_UILIMIT_DISPLAYSETTINGS
def LimitExitWindows : uiRestriction := JOB_OBJECT_UILIMIT_EXITWINDOWS
def LimitGlobalAtoms : uiRestriction := JOB_OBJECT_UILIMIT_GLOBALATOMS
def LimitHandles : uiRestriction := JOB_OBJECT_UILIMIT_HANDLES
def LimitSystemParameters : uiRestriction := JOB_OBJECT_UILIMIT_SYSTEMPARAMETERS
def LimitWriteClipboard : uiRestriction := JOB_OBJECT_UILIMIT_WRITECLIPBOARD
def LimitReadClipboard : uiRestriction := JOB_OBJECT_UILIMIT_READCLIPBOARD

def LimitCPU : cpuLimit := {}

def WithBreakawayOK : Limit := .basicLimit LimitBreakawayOK
def WithSilentBreakawayOK : Limit := .basicLimit LimitSilentBreakawayOK
def WithDieOnUnhandledException : Limit := .basicLimit LimitDieOnUnhandledException
def WithKillOnJobClose : Limit := .basicLimit LimitKillOnJobClose
def WithPreserveJobTime : Limit := .basicLimit LimitPreserveJobTime
def WithSubsetAffinity : Limit := .basicLimit LimitSubsetAffinity

def WithAffinity (x : BitVec 64) : Limit := .affinityLimit (LimitAffinity.WithValue x)
def WithJobMemoryLimit (x : BitVec 64) : Limit := .jobMemoryLimit (LimitJobMemory.WithValue x)
def WithJobTimeLimit (x : Duration) : Limit := .jobTimeLimit (LimitJobTime.WithValue x)
def WithProcessMemoryLimit (x : BitVec 64) : Limit :=
  .processMemoryLimit (LimitProcessMemory.WithValue x)
def WithProcessTimeLimit (x : Duration) : Limit := .processTimeLimit (LimitProcessTime.WithValue x)
def WithActiveProcessLimit (x : BitVec 32) : Limit :=
  .activeProcessLimit (LimitActiveProcess.WithValue x)
def WithWorkingSetLimit (min max : BitVec 64) : Limit :=
  .workingSetLimit (LimitWorkingSet.WithValue min max)
def WithPriorityClassLimit (x : PriorityClass) : Limit :=
  .priorityClassLimit (LimitPriorityClass.WithValue x)
def WithSchedulingClassLimit (x : BitVec 32) : Limit :=
  .schedulingClassLimit (LimitSchedulingClass.WithValue x)

def WithDesktopLimit : Limit := .uiRestriction LimitDesktop
def WithDisplaySettingsLimit : Limit := .uiRestriction LimitDisplaySettings
def WithExitWindowsLimit : Limit := .uiRestriction LimitExitWindows
def WithGlobalAtomsLimit : Limit := .uiRestriction LimitGlobalAtoms
def WithHandlesLimit : Limit := .uiRestriction LimitHandles
def WithReadClipboardLimit : Limit := .uiRestriction LimitReadClipboard
def WithSystemParametersLimit : Limit := .uiRestriction LimitSystemParameters
def WithWriteClipboardLimit : Limit := .uiRestriction LimitWriteClipboard

def WithCPUHardCapLimit (v : BitVec 32) : Limit := .cpuLimit (LimitCPU.WithValue { HardCap := v })
def WithCPUWeightedLimit (v : BitVec 32) : Limit := .cpuLimit (LimitCPU.WithValue { Weight := v })
def WithCPUMinMaxLimit (min max : BitVec 16) : Limit :=
  .cpuLimit (LimitCPU.WithValue { Min := min, Max := max })

end Winjob
