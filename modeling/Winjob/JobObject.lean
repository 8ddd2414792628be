import Winjob.Limits

set_option autoImplicit false

/-! # The job object and its OS calls (`job_object.go`)

The state of a run (`Sys`) is what the OS holds for the job, one block per class (`os`),
the job object's cache (`job`), and the trace of the run (`trace`): each OS call, and each
`set` or `reset` of a limit into the cache. Nothing reads the trace; it is there for the
specifications.

Whether an OS call succeeds is up to an oracle (`Oracle`), which sees the state and the
call. A failed call changes nothing but the trace. A successful `QueryInfo` copies the
OS's block of the class into the cache and a successful `SetInfo` copies the cached block to
the OS: the OS stores and returns blocks faithfully. The OS's own bookkeeping (the
accounting block) does not change during a run.

A method returns `JobM`: it changes the state and may return an error, and, as in Go, the
changes made before an error stay. A Go map is iterated in an unspecified order;
`MapOrder` is one such order, a permutation of the keys.
-/

namespace Winjob

/-- A call of `jobapi` on the job's handle. -/
inductive OsCall where
  | QueryInfo (infoClass : JobObjectInformationClass)
  | SetInfo (infoClass : JobObjectInformationClass)
  deriving DecidableEq

/-- The name `os.NewSyscallError` gives the error of a call. -/
def OsCall.syscall : OsCall → String
  | .QueryInfo _ => "QueryInformationJobObject"
  | .SetInfo _ => "SetInformationJobObject"

/-- An event of a run. -/
inductive Event where
  | call (c : OsCall)
  /-- `limit.set(job)` (`set = true`) or `limit.reset(job)`. -/
  | apply (set : Bool) (l : Limit)
  deriving DecidableEq

structure Sys where
  os : JobInfo
  job : JobInfo
  trace : List Event

/-- How the OS answers a call in a state: `none` for success, or the error code. -/
abbrev Oracle := Sys → OsCall → Option Errno

/-- The OS that never fails. -/
def Oracle.faithful : Oracle := fun _ _ => none

abbrev JobM := EStateM SyscallError Sys

/-- The effect of a successful call. -/
def OsCall.perform : OsCall → Sys → Sys
  | .QueryInfo k, s => { s with job := s.job.setInfoPtr k (s.os.infoPtr k) }
  | .SetInfo k, s => { s with os := s.os.setInfoPtr k (s.job.infoPtr k) }

/-- The state with an event appended to its trace. -/
def Sys.log (s : Sys) (e : Event) : Sys := { s with trace := s.trace ++ [e] }

/-- Issue a call, as the oracle answers it. -/
def osCall (o : Oracle) (c : OsCall) : JobM Unit := fun s =>
  let s := s.log (.call c)
  match o s c with
  | some e => .error { Syscall := c.syscall, Err := e } s
  | none => .ok () (c.perform s)

/-- An iteration order of a Go map with keys of type `α`. -/
structure MapOrder (α : Type) where
  iter : List α → List α
  perm : ∀ ks, (iter ks).Perm ks

namespace jobapi

/-- `jobapi.QueryInfo(job.Handle, infoClass, job.infoPtr(infoClass))`. -/
def QueryInfo (o : Oracle) (infoClass : JobObjectInformationClass) : JobM Unit :=
  osCall o (.QueryInfo infoClass)

/-- `jobapi.SetInfo(job.Handle, infoClass, job.infoPtr(infoClass))`. -/
def SetInfo (o : Oracle) (infoClass : JobObjectInformationClass) : JobM Unit :=
  osCall o (.SetInfo infoClass)

end jobapi

/-- `Counters`: accounting information and I/O counters of a job object. -/
structure Counters where
  TotalUserTime : BitVec 64 := 0
  TotalKernelTime : BitVec 64 := 0
  ThisPeriodTotalUserTime : BitVec 64 := 0
  ThisPeriodTotalKernelTime : BitVec 64 := 0
  TotalPageFaultCount : BitVec 32 := 0
  TotalProcesses : BitVec 32 := 0
  ActiveProcesses : BitVec 32 := 0
  TotalTerminatedProcesses : BitVec 32 := 0
  ReadOperationCount : BitVec 64 := 0
  WriteOperationCount : BitVec 64 := 0
  OtherOperationCount : BitVec 64 := 0
  ReadTransferCount : BitVec 64 := 0
  WriteTransferCount : BitVec 64 := 0
  OtherTransferCount : BitVec 64 := 0
  deriving DecidableEq

namespace JobObject

variable (o : Oracle)

/-- `job.sync(fn, infoClasses...)`: `fn` on each class in turn, up to the first error. -/
def sync (fn : JobObjectInformationClass → JobM Unit) :
    List JobObjectInformationClass → JobM Unit
  | [] => pure ()
  | infoClass :: infoClasses => do
    fn infoClass
    sync fn infoClasses

/-- `limit.set(job)` or `limit.reset(job)` on the cache. -/
def applyToCache (set : Bool) (limit : Limit) : JobM Unit :=
  modify fun s => { s.log (.apply set limit) with job := limit.apply set s.job }

/-- The loop of `applyLimit`. The map `classesSet` is the list of its keys: a class is
queried the first time a limit of it comes. -/
def applyLimitLoop (set : Bool) :
    List Limit → List JobObjectInformationClass → JobM (List JobObjectInformationClass)
  | [], classesSet => pure classesSet
  | limit :: limits, classesSet => do
    let infoClass := resolveRequiredInfoClass limit
    if infoClass ∉ classesSet then
      sync (jobapi.QueryInfo o) [infoClass]
    applyToCache set limit
    applyLimitLoop set limits (classesSet.insert infoClass)

/-- `job.applyLimit(set, limits...)`: query the class of each limit before its first limit,
set or reset the limits in order, then write back every class queried, in the map's order. -/
def applyLimit (order : MapOrder JobObjectInformationClass) (set : Bool) (limits : List Limit) :
    JobM Unit := do
  let classesSet ← applyLimitLoop o set limits []
  sync (jobapi.SetInfo o) (order.iter classesSet)

def SetLimit (order : MapOrder JobObjectInformationClass) (limits : List Limit) : JobM Unit :=
  applyLimit o order true limits

def ResetLimit (order : MapOrder JobObjectInformationClass) (limits : List Limit) : JobM Unit :=
  applyLimit o order false limits

/-- The four classes of limit information, in the order `QueryLimits` queries them. -/
def limitClasses : List JobObjectInformationClass :=
  [.JobObjectExtendedLimitInformation, .JobObjectBasicUIRestrictions,
    .JobObjectCpuRateControlInformation, .JobObjectNetRateControlInformation]

def QueryLimits : JobM Unit := sync (jobapi.QueryInfo o) limitClasses

/-- `job.limitInfoClassesSet()`: the classes whose flag word is not zero. -/
def limitInfoClassesSet (job : JobInfo) : List JobObjectInformationClass :=
  ([(decide (0 < job.ExtendedLimits.BasicLimitInformation.LimitFlags),
      JobObjectInformationClass.JobObjectExtendedLimitInformation),
    (decide (0 < job.UIRestrictions.UIRestrictionsClass), .JobObjectBasicUIRestrictions),
    (decide (0 < job.CPURateControl.ControlFlags), .JobObjectCpuRateControlInformation),
    (decide (0 < job.NetRateControl.ControlFlags), .JobObjectNetRateControlInformation)]
  ).filterMap fun info => if info.1 then some info.2 else none

def HasLimits : JobM Bool := do
  QueryLimits o
  return (limitInfoClassesSet (← get).job).length > 0

/-- `job.ResetLimits()`: query every class of limits, clear the whole cache, and write back
the classes that had a flag set. -/
def ResetLimits : JobM Unit := do
  QueryLimits o
  let infoClasses := limitInfoClassesSet (← get).job
  modify fun s => { s with job := {} }
  sync (jobapi.SetInfo o) infoClasses

/-- `job.QueryCounters(c)`: query the accounting block and copy it into `c`, field by field
as the source assigns them. -/
def QueryCounters (c : Counters) : JobM Counters := do
  sync (jobapi.QueryInfo o) [.JobObjectBasicAndIoAccountingInformation]
  let a := (← get).job.AccountingInfo
  return { c with
    TotalUserTime := a.TotalUserTime
    TotalKernelTime := a.TotalUserTime
    ThisPeriodTotalUserTime := a.TotalUserTime
    ThisPeriodTotalKernelTime := a.TotalUserTime
    TotalPageFaultCount := a.TotalPageFaultCount
    TotalProcesses := a.TotalProcesses
    ActiveProcesses := a.ActiveProcesses
    TotalTerminatedProcesses := a.TotalTerminatedProcesses
    ReadOperationCount := a.ReadOperationCount
    WriteOperationCount := a.WriteOperationCount
    OtherOperationCount := a.OtherOperationCount
    ReadTransferCount := a.ReadTransferCount
    WriteTransferCount := a.WriteTransferCount
    OtherTransferCount := a.OtherOperationCount }

/-- `job.Counters()`: `QueryCounters` into a fresh `Counters`. -/
def Counters : JobM Winjob.Counters := QueryCounters o {}

end JobObject

end Winjob
