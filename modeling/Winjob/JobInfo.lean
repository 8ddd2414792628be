import Winjob.Jobapi

set_option autoImplicit false

/-! # The cache of information blocks (`JobInfo`)

A `JobObject` keeps a copy of each information block it exchanges with the OS
(`JobInfo`, `job_object.go`). `infoPtr` selects the cached block of a class; here it is a
pair of functions, one reading the block (`JobInfo.infoPtr`) and one writing it
(`JobInfo.setInfoPtr`). The OS side holds one block per class too, and is modelled by the
same structure.

The value limits of `limits.go` store their values in scalar fields of the basic and
extended limit information; `LimitField` names those fields, with a reader and a writer
for each.
-/

namespace Winjob

/-- `JobInfo`: one block per information class. -/
structure JobInfo where
  ExtendedLimits : JOBOBJECT_EXTENDED_LIMIT_INFORMATION := {}
  UIRestrictions : JOBOBJECT_BASIC_UI_RESTRICTIONS := {}
  AccountingInfo : JOBOBJECT_BASIC_AND_IO_ACCOUNTING_INFORMATION := {}
  CPURateControl : JOBOBJECT_CPU_RATE_CONTROL_INFORMATION := {}
  NetRateControl : JOBOBJECT_NET_RATE_CONTROL_INFORMATION := {}
  deriving DecidableEq

namespace JobInfo

/-! ## `infoPtr` -/

/-- `*job.infoPtr(infoClass)`: the cached block of a class. -/
def infoPtr (job : JobInfo) : (infoClass : JobObjectInformationClass) → infoClass.Block
  | .JobObjectBasicUIRestrictions => job.UIRestrictions
  | .JobObjectBasicAndIoAccountingInformation => job.AccountingInfo
  | .JobObjectExtendedLimitInformation => job.ExtendedLimits
  | .JobObjectCpuRateControlInformation => job.CPURateControl
  | .JobObjectNetRateControlInformation => job.NetRateControl

/-- `*job.infoPtr(infoClass) = b`: the cache with the block of a class replaced. -/
def setInfoPtr (job : JobInfo) :
    (infoClass : JobObjectInformationClass) → infoClass.Block → JobInfo
  | .JobObjectBasicUIRestrictions, b => { job with UIRestrictions := b }
  | .JobObjectBasicAndIoAccountingInformation, b => { job with AccountingInfo := b }
  | .JobObjectExtendedLimitInformation, b => { job with ExtendedLimits := b }
  | .JobObjectCpuRateControlInformation, b => { job with CPURateControl := b }
  | .JobObjectNetRateControlInformation, b => { job with NetRateControl := b }

variable (job : JobInfo) {j k : JobObjectInformationClass}

@[simp] theorem infoPtr_setInfoPtr_self (b : k.Block) : (job.setInfoPtr k b).infoPtr k = b := by
  cases k <;> rfl

@[simp] theorem infoPtr_setInfoPtr_ne (b : k.Block) (h : j ≠ k) :
    (job.setInfoPtr k b).infoPtr j = job.infoPtr j := by
  cases j <;> cases k <;> first | rfl | exact absurd rfl h

@[simp] theorem setInfoPtr_infoPtr : job.setInfoPtr k (job.infoPtr k) = job := by
  cases k <;> rfl

@[simp] theorem setInfoPtr_setInfoPtr_self (b b' : k.Block) :
    (job.setInfoPtr k b).setInfoPtr k b' = job.setInfoPtr k b' := by
  cases k <;> rfl

theorem setInfoPtr_comm (b : j.Block) (b' : k.Block) (h : j ≠ k) :
    (job.setInfoPtr j b).setInfoPtr k b' = (job.setInfoPtr k b').setInfoPtr j b := by
  cases j <;> cases k <;> first | rfl | exact absurd rfl h

/-- Two caches with the same block in every class are equal. -/
theorem ext_infoPtr {a b : JobInfo} (h : ∀ k, a.infoPtr k = b.infoPtr k) : a = b := by
  have h1 := h .JobObjectBasicUIRestrictions
  have h2 := h .JobObjectBasicAndIoAccountingInformation
  have h3 := h .JobObjectExtendedLimitInformation
  have h4 := h .JobObjectCpuRateControlInformation
  have h5 := h .JobObjectNetRateControlInformation
  cases a; cases b
  simp only [infoPtr] at h1 h2 h3 h4 h5
  subst h1 h2 h3 h4 h5
  rfl

end JobInfo

/-! ## Scalar fields of the limit information -/

/-- The scalar fields of the basic and extended limit information in which a value limit
of `limits.go` stores its value. -/
inductive LimitField where
  | PerProcessUserTimeLimit
  | PerJobUserTimeLimit
  | MinimumWorkingSetSize
  | MaximumWorkingSetSize
  | ActiveProcessLimit
  | Affinity
  | PriorityClass
  | SchedulingClass
  | ProcessMemoryLimit
  | JobMemoryLimit
  deriving DecidableEq, Repr

/-- The Go type of a field. -/
def LimitField.type : LimitField → Type
  | .PerProcessUserTimeLimit | .PerJobUserTimeLimit => Int64
  | .ActiveProcessLimit | .SchedulingClass => BitVec 32
  | .PriorityClass => Winjob.PriorityClass
  | .MinimumWorkingSetSize | .MaximumWorkingSetSize | .Affinity | .ProcessMemoryLimit
  | .JobMemoryLimit => BitVec 64

namespace JobInfo

/-- The cached value of a field. -/
def getField (job : JobInfo) : (f : LimitField) → f.type
  | .PerProcessUserTimeLimit => job.ExtendedLimits.BasicLimitInformation.PerProcessUserTimeLimit
  | .PerJobUserTimeLimit => job.ExtendedLimits.BasicLimitInformation.PerJobUserTimeLimit
  | .MinimumWorkingSetSize => job.ExtendedLimits.BasicLimitInformation.MinimumWorkingSetSize
  | .MaximumWorkingSetSize => job.ExtendedLimits.BasicLimitInformation.MaximumWorkingSetSize
  | .ActiveProcessLimit => job.ExtendedLimits.BasicLimitInformation.ActiveProcessLimit
  | .Affinity => job.ExtendedLimits.BasicLimitInformation.Affinity
  | .PriorityClass => job.ExtendedLimits.BasicLimitInformation.PriorityClass
  | .SchedulingClass => job.ExtendedLimits.BasicLimitInformation.SchedulingClass
  | .ProcessMemoryLimit => job.ExtendedLimits.ProcessMemoryLimit
  | .JobMemoryLimit => job.ExtendedLimits.JobMemoryLimit

/-- The cache with a field assigned. -/
def setField (job : JobInfo) : (f : LimitField) → f.type → JobInfo
  | .PerProcessUserTimeLimit, x =>
    { job with ExtendedLimits.BasicLimitInformation.PerProcessUserTimeLimit := x }
  | .PerJobUserTimeLimit, x =>
    { job with ExtendedLimits.BasicLimitInformation.PerJobUserTimeLimit := x }
  | .MinimumWorkingSetSize, x =>
    { job with ExtendedLimits.BasicLimitInformation.MinimumWorkingSetSize := x }
  | .MaximumWorkingSetSize, x =>
    { job with ExtendedLimits.BasicLimitInformation.MaximumWorkingSetSize := x }
  | .ActiveProcessLimit, x =>
    { job with ExtendedLimits.BasicLimitInformation.ActiveProcessLimit := x }
  | .Affinity, x => { job with ExtendedLimits.BasicLimitInformation.Affinity := x }
  | .PriorityClass, x => { job with ExtendedLimits.BasicLimitInformation.PriorityClass := x }
  | .SchedulingClass, x =>
    { job with ExtendedLimits.BasicLimitInformation.SchedulingClass := x }
  | .ProcessMemoryLimit, x => { job with ExtendedLimits.ProcessMemoryLimit := x }
  | .JobMemoryLimit, x => { job with ExtendedLimits.JobMemoryLimit := x }

variable (job : JobInfo) {f g : LimitField}

@[simp] theorem getField_setField_self (x : f.type) : (job.setField f x).getField f = x := by
  cases f <;> rfl

@[simp] theorem getField_setField_ne (x : g.type) (h : f ≠ g) :
    (job.setField g x).getField f = job.getField f := by
  cases f <;> cases g <;> first | rfl | exact absurd rfl h

theorem setField_comm (x : f.type) (y : g.type) (h : f ≠ g) :
    (job.setField f x).setField g y = (job.setField g y).setField f x := by
  cases f <;> cases g <;> first | rfl | exact absurd rfl h

/-- A field write leaves the flags and every block but the extended limits alone, and in
that block the I/O counters and peak usages. -/
@[simp] theorem setField_LimitFlags (x : f.type) :
    (job.setField f x).ExtendedLimits.BasicLimitInformation.LimitFlags =
      job.ExtendedLimits.BasicLimitInformation.LimitFlags := by
  cases f <;> rfl

@[simp] theorem setField_UIRestrictions (x : f.type) :
    (job.setField f x).UIRestrictions = job.UIRestrictions := by
  cases f <;> rfl

@[simp] theorem setField_AccountingInfo (x : f.type) :
    (job.setField f x).AccountingInfo = job.AccountingInfo := by
  cases f <;> rfl

@[simp] theorem setField_CPURateControl (x : f.type) :
    (job.setField f x).CPURateControl = job.CPURateControl := by
  cases f <;> rfl

@[simp] theorem setField_NetRateControl (x : f.type) :
    (job.setField f x).NetRateControl = job.NetRateControl := by
  cases f <;> rfl

end JobInfo

end Winjob
