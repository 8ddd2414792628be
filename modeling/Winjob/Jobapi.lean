import Mathlib.Tactic.DeriveFintype

set_option autoImplicit false

/-! # The job object API (`jobapi`)

The types, constants and information blocks of package `jobapi` (`jobapi/jobapi.go`,
`jobapi/jobapi_amd64.go`) that package `winjob` reads and writes. A Go unsigned integer of
width `w` is a `BitVec w`; a `uintptr` is 64 bits wide, as on `amd64`. Go's `int64` is an
integer kept in its range (`Int64`), and its arithmetic wraps around (`Int64.ofInt`).

Padding members are left out, and so are the constants and blocks of information classes
that the package never passes to the OS.
-/

namespace Winjob

/-! ## `int64` and `time.Duration` -/

/-- Go's `int64`: an integer in `[-2^63, 2^63)`. -/
structure Int64 where
  val : Int
  lo : -2 ^ 63 ≤ val
  hi : val < 2 ^ 63
  deriving DecidableEq

/-- The `int64` that Go's two's complement arithmetic makes of an integer result. -/
def Int64.ofInt (x : Int) : Int64 where
  val := x.bmod (2 ^ 64)
  lo := by have := Int.le_bmod (x := x) (m := 2 ^ 64) (by decide); omega
  hi := by have := Int.bmod_lt (x := x) (m := 2 ^ 64) (by decide); omega

instance (n : Nat) : OfNat Int64 n := ⟨Int64.ofInt n⟩

/-- `a * b` on `int64`. -/
instance : Mul Int64 := ⟨fun a b => Int64.ofInt (a.val * b.val)⟩

/-- `a / b` on `int64`: truncated division. -/
instance : Div Int64 := ⟨fun a b => Int64.ofInt (a.val.tdiv b.val)⟩

@[ext] theorem Int64.ext {a b : Int64} (h : a.val = b.val) : a = b := by
  cases a; cases b; cases h; rfl

theorem Int64.ofInt_val_of_mem {x : Int} (lo : -2 ^ 63 ≤ x) (hi : x < 2 ^ 63) :
    (Int64.ofInt x).val = x := by
  simp only [Int64.ofInt, Int.bmod_def]
  split <;> omega

theorem Int64.mul_val (a b : Int64) : (a * b).val = (a.val * b.val).bmod (2 ^ 64) := rfl

theorem Int64.div_val (a b : Int64) : (a / b).val = (a.val.tdiv b.val).bmod (2 ^ 64) := rfl

/-- Truncated division by `100`, as Euclidean division of the magnitude. -/
theorem Int.tdiv_hundred (a : Int) :
    (0 ≤ a ∧ a.tdiv 100 = a / 100) ∨ (a < 0 ∧ a.tdiv 100 = -((-a) / 100)) := by
  rcases le_or_lt 0 a with h | h
  · exact .inl ⟨h, Int.tdiv_eq_ediv h (by decide)⟩
  · refine .inr ⟨h, ?_⟩
    rw [← Int.tdiv_eq_ediv (by omega) (by decide), Int.neg_tdiv, Int.neg_neg]

/-- `time.Duration`: nanoseconds in an `int64`. -/
abbrev Duration := Int64

/-- `d.Nanoseconds()`. -/
def Duration.Nanoseconds (d : Duration) : Int64 := d

/-! ## Errors -/

/-- `syscall.Errno`. -/
abbrev Errno := BitVec 64

/-- `jobapi.ErrAbandoned`: the port handle was closed while a wait on it was outstanding
(`ERROR_ABANDONED_WAIT_0`). -/
def ErrAbandoned : Errno := 0x2df

/-- `ERROR_INVALID_HANDLE`, "The handle is invalid" (`syscall.Errno(0x6)` in the tests). -/
def ERROR_INVALID_HANDLE : Errno := 0x6

/-- `*os.SyscallError`, as `os.NewSyscallError(name, err)` builds it: the name of the
failing call and the error code. `errors.Is(e, target)` compares the code. -/
structure SyscallError where
  Syscall : String
  Err : Errno
  deriving DecidableEq

/-! ## Flag words -/

/-- `LimitFlag`: the flags of the basic limit information. -/
abbrev LimitFlag := BitVec 32

def JOB_OBJECT_LIMIT_WORKINGSET : LimitFlag := .twoPow 32 0
def JOB_OBJECT_LIMIT_PROCESS_TIME : LimitFlag := .twoPow 32 1
def JOB_OBJECT_LIMIT_JOB_TIME : LimitFlag := .twoPow 32 2
def JOB_OBJECT_LIMIT_ACTIVE_PROCESS : LimitFlag := .twoPow 32 3
def JOB_OBJECT_LIMIT_AFFINITY : LimitFlag := .twoPow 32 4
def JOB_OBJECT_LIMIT_PRIORITY_CLASS : LimitFlag := .twoPow 32 5
def JOB_OBJECT_LIMIT_PRESERVE_JOB_TIME : LimitFlag := .twoPow 32 6
def JOB_OBJECT_LIMIT_SCHEDULING_CLASS : LimitFlag := .twoPow 32 7
def JOB_OBJECT_LIMIT_PROCESS_MEMORY : LimitFlag := .twoPow 32 8
def JOB_OBJECT_LIMIT_JOB_MEMORY : LimitFlag := .twoPow 32 9
def JOB_OBJECT_LIMIT_DIE_ON_UNHANDLED_EXCEPTION : LimitFlag := .twoPow 32 10
def JOB_OBJECT_LIMIT_BREAKAWAY_OK : LimitFlag := .twoPow 32 11
def JOB_OBJECT_LIMIT_SILENT_BREAKAWAY_OK : LimitFlag := .twoPow 32 12
def JOB_OBJECT_LIMIT_KILL_ON_JOB_CLOSE : LimitFlag := .twoPow 32 13
def JOB_OBJECT_LIMIT_SUBSET_AFFINITY : LimitFlag := .twoPow 32 14

/-- `UIRestrictionsClass`: the user-interface restrictions. -/
abbrev UIRestrictionsClass := BitVec 32

def JOB_OBJECT_UILIMIT_HANDLES : UIRestrictionsClass := .twoPow 32 0
def JOB_OBJECT_UILIMIT_READCLIPBOARD : UIRestrictionsClass := .twoPow 32 1
def JOB_OBJECT_UILIMIT_WRITECLIPBOARD : UIRestrictionsClass := .twoPow 32 2
def JOB_OBJECT_UILIMIT_SYSTEMPARAMETERS : UIRestrictionsClass := .twoPow 32 3
def JOB_OBJECT_UILIMIT_DISPLAYSETTINGS : UIRestrictionsClass := .twoPow 32 4
def JOB_OBJECT_UILIMIT_GLOBALATOMS : UIRestrictionsClass := .twoPow 32 5
def JOB_OBJECT_UILIMIT_DESKTOP : UIRestrictionsClass := .twoPow 32 6
def JOB_OBJECT_UILIMIT_EXITWINDOWS : UIRestrictionsClass := .twoPow 32 7

/-- `CPUControlFlag`: the scheduling policy of CPU rate control. -/
abbrev CPUControlFlag := BitVec 32

def JOB_OBJECT_CPU_RATE_CONTROL_ENABLE : CPUControlFlag := .twoPow 32 0
def JOB_OBJECT_CPU_RATE_CONTROL_WEIGHT_BASED : CPUControlFlag := .twoPow 32 1
def JOB_OBJECT_CPU_RATE_CONTROL_HARD_CAP : CPUControlFlag := .twoPow 32 2
def JOB_OBJECT_CPU_RATE_CONTROL_NOTIFY : CPUControlFlag := .twoPow 32 3
def JOB_OBJECT_CPU_RATE_CONTROL_MIN_MAX_RATE : CPUControlFlag := .twoPow 32 4

/-- `JOB_OBJECT_NET_RATE_CONTROL_FLAGS`. -/
abbrev JOB_OBJECT_NET_RATE_CONTROL_FLAGS := BitVec 32

def JOB_OBJECT_NET_RATE_CONTROL_ENABLE : JOB_OBJECT_NET_RATE_CONTROL_FLAGS := .twoPow 32 0
def JOB_OBJECT_NET_RATE_CONTROL_MAX_BANDWIDTH : JOB_OBJECT_NET_RATE_CONTROL_FLAGS := .twoPow 32 1
def JOB_OBJECT_NET_RATE_CONTROL_DSCP_TAG : JOB_OBJECT_NET_RATE_CONTROL_FLAGS := .twoPow 32 2

/-- `PriorityClass`: a priority class of a process. -/
abbrev PriorityClass := BitVec 32

/-! ## Information classes and blocks -/

/-- The information classes (`JobObjectInformationClass`) that the package queries or sets. -/
inductive JobObjectInformationClass where
  | JobObjectBasicUIRestrictions
  | JobObjectBasicAndIoAccountingInformation
  | JobObjectExtendedLimitInformation
  | JobObjectCpuRateControlInformation
  | JobObjectNetRateControlInformation
  deriving DecidableEq, Repr

structure JOBOBJECT_BASIC_LIMIT_INFORMATION where
  PerProcessUserTimeLimit : Int64 := 0
  PerJobUserTimeLimit : Int64 := 0
  LimitFlags : LimitFlag := 0
  MinimumWorkingSetSize : BitVec 64 := 0
  MaximumWorkingSetSize : BitVec 64 := 0
  ActiveProcessLimit : BitVec 32 := 0
  Affinity : BitVec 64 := 0
  PriorityClass : PriorityClass := 0
  SchedulingClass : BitVec 32 := 0
  deriving DecidableEq

structure IO_COUNTERS where
  ReadOperationCount : BitVec 64 := 0
  WriteOperationCount : BitVec 64 := 0
  OtherOperationCount : BitVec 64 := 0
  ReadTransferCount : BitVec 64 := 0
  WriteTransferCount : BitVec 64 := 0
  OtherTransferCount : BitVec 64 := 0
  deriving DecidableEq

structure JOBOBJECT_EXTENDED_LIMIT_INFORMATION where
  BasicLimitInformation : JOBOBJECT_BASIC_LIMIT_INFORMATION := {}
  IoInfo : IO_COUNTERS := {}
  ProcessMemoryLimit : BitVec 64 := 0
  JobMemoryLimit : BitVec 64 := 0
  PeakProcessMemoryUsed : BitVec 64 := 0
  PeakJobMemoryUsed : BitVec 64 := 0
  deriving DecidableEq

structure JOBOBJECT_BASIC_UI_RESTRICTIONS where
  UIRestrictionsClass : UIRestrictionsClass := 0
  deriving DecidableEq

structure JOBOBJECT_BASIC_ACCOUNTING_INFORMATION where
  TotalUserTime : BitVec 64 := 0
  TotalKernelTime : BitVec 64 := 0
  ThisPeriodTotalUserTime : BitVec 64 := 0
  ThisPeriodTotalKernelTime : BitVec 64 := 0
  TotalPageFaultCount : BitVec 32 := 0
  TotalProcesses : BitVec 32 := 0
  ActiveProcesses : BitVec 32 := 0
  TotalTerminatedProcesses : BitVec 32 := 0
  deriving DecidableEq

/-- Go embeds both structures, so their fields are read as fields of this one. -/
structure JOBOBJECT_BASIC_AND_IO_ACCOUNTING_INFORMATION
    extends JOBOBJECT_BASIC_ACCOUNTING_INFORMATION, IO_COUNTERS
  deriving DecidableEq

/-- The original union of the OS structure is the single member `Value`. -/
structure JOBOBJECT_CPU_RATE_CONTROL_INFORMATION where
  ControlFlags : CPUControlFlag := 0
  Value : BitVec 32 := 0
  deriving DecidableEq

structure JOBOBJECT_NET_RATE_CONTROL_INFORMATION where
  MaxBandwidth : BitVec 64 := 0
  ControlFlags : JOB_OBJECT_NET_RATE_CONTROL_FLAGS := 0
  DscpTag : BitVec 8 := 0
  deriving DecidableEq

/-- The block a class names: the type of the pointer `infoPtr` returns for it. -/
def JobObjectInformationClass.Block : JobObjectInformationClass → Type
  | .JobObjectBasicUIRestrictions => JOBOBJECT_BASIC_UI_RESTRICTIONS
  | .JobObjectBasicAndIoAccountingInformation => JOBOBJECT_BASIC_AND_IO_ACCOUNTING_INFORMATION
  | .JobObjectExtendedLimitInformation => JOBOBJECT_EXTENDED_LIMIT_INFORMATION
  | .JobObjectCpuRateControlInformation => JOBOBJECT_CPU_RATE_CONTROL_INFORMATION
  | .JobObjectNetRateControlInformation => JOBOBJECT_NET_RATE_CONTROL_INFORMATION

end Winjob
