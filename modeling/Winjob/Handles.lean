import Winjob.Apply
import Winjob.Subscription

set_option autoImplicit false

/-! # Handles: jobs, processes and ports without leaks

`Create` creates a job, or opens the existing job of the name, and sets its limits; when they
fail to apply, it closes the job before returning their error. `Open` opens an existing job
by name, and `Terminate` is one call on the job's handle. `withProcessHandle`, under `Assign`
and `Contains`, opens a process, runs a call on it and closes it whatever the call returned.
`CreatePort` opens a completion port and associates it with the job, closing the port when
the association fails; `Notify` starts the dequeue loop only on a port that was associated.

The OS here is the set of handles the process holds open (`Handles`), with the value the
next handle opened gets, and an oracle that may fail each call and knows the jobs that
exist by name. The OS never gives out `0`, the `NULL` handle that is Go's zero
`syscall.Handle`. A call given a handle that is not open fails with `ERROR_INVALID_HANDLE`,
but for the `NULL` job handle of `IsProcessInJob`, which asks about any job; `CloseHandle`
of an open handle succeeds. Each function leaves the process holding the handles it held,
and on success the one it returns besides (`Create_ok`, `Create_error`, `CreatePort_live`);
and it returns the error of the step that failed, never that of the clean-up. The limits
`Create` sets go on the blocks the job had, which a job of the same name may already hold
(`Create_os`).
-/

namespace Winjob

/-- A Go `error` of the functions here: a `syscall.Errno`, or an `*os.SyscallError` that
wraps an error. -/
inductive GoError where
  | errno (e : Errno)
  | syscallError (name : String) (err : GoError)
  deriving DecidableEq

/-- The error `os.NewSyscallError` built in `jobapi`. -/
def SyscallError.toGoError (e : SyscallError) : GoError := .syscallError e.Syscall (.errno e.Err)

/-- The handles the process holds open, each once, and the value of the next handle the OS
gives out. Every open handle is below it, so a new handle is never one already open; and
none is `NULL`. -/
structure Handles where
  live : List Nat
  next : Nat
  nodup : live.Nodup
  lt_next : ∀ h ∈ live, h < next
  pos : ∀ h ∈ live, 0 < h
  next_pos : 0 < next

namespace Handles

theorem next_not_mem (hs : Handles) : hs.next ∉ hs.live := fun h =>
  Nat.lt_irrefl _ (hs.lt_next _ h)

/-- The OS opens the handle `next`. -/
def add (hs : Handles) : Handles where
  live := hs.next :: hs.live
  next := hs.next + 1
  nodup := List.nodup_cons.mpr ⟨hs.next_not_mem, hs.nodup⟩
  lt_next h hh := by
    rcases List.mem_cons.mp hh with rfl | hh
    · exact Nat.lt_succ_self _
    · exact Nat.lt_succ_of_lt (hs.lt_next h hh)
  pos h hh := by
    rcases List.mem_cons.mp hh with rfl | hh
    exacts [hs.next_pos, hs.pos h hh]
  next_pos := Nat.succ_pos _

/-- The OS closes the handle `h`. -/
def remove (hs : Handles) (h : Nat) : Handles where
  live := hs.live.erase h
  next := hs.next
  nodup := hs.nodup.erase h
  lt_next x hx := hs.lt_next x (List.mem_of_mem_erase hx)
  pos x hx := hs.pos x (List.mem_of_mem_erase hx)
  next_pos := hs.next_pos

/-- A handle closed is no longer open: it was open once. -/
theorem not_mem_remove (hs : Handles) (h : Nat) : h ∉ (hs.remove h).live :=
  hs.nodup.not_mem_erase

/-- Closing the handle just opened gives back the handles before. -/
theorem remove_add_live (hs : Handles) : (hs.add.remove hs.next).live = hs.live :=
  List.erase_cons_head _ _

end Handles

/-- A call of the OS on handles. -/
inductive HandleCall where
  | CreateJobObject (name : String)
  | OpenJobObject (access : Nat) (name : String)
  | CloseHandle (h : Nat)
  | TerminateJobObject (job : Nat) (exitCode : BitVec 32)
  | OpenProcess (access pid : Nat)
  | AssignProcessToJobObject (job process : Nat)
  | IsProcessInJob (process job : Nat)
  | CreateIoCompletionPort
  | AssociateCompletionPort (job port : Nat)
  deriving DecidableEq

/-- The handles a call is given and needs open. `IsProcessInJob` takes a `NULL` job handle
for any job. -/
def HandleCall.uses : HandleCall → List Nat
  | .CloseHandle h | .TerminateJobObject h _ => [h]
  | .AssignProcessToJobObject job p | .AssociateCompletionPort job p => [job, p]
  | .IsProcessInJob p job => if job = 0 then [p] else [job, p]
  | _ => []

/-- An OS on handles: the error it fails a call with, if any; what `IsProcessInJob` finds for
a process handle and a job handle, the `NULL` job handle asking about any job; and the
limit blocks of the job of each name, if one exists. No job has the empty name:
`CreateJobObject("")` makes an anonymous job. -/
structure HandleOracle where
  fails : Handles → HandleCall → Option Errno
  inJob : Handles → Nat → Nat → Bool
  existing : String → Option JobInfo
  existing_anonymous : existing "" = none

/-- Go errors, and the handles the process holds. -/
abbrev HandleM := EStateM GoError Handles

/-- The handles after a call, whatever it returned. -/
def HandleM.after {α : Type} : EStateM.Result GoError Handles α → Handles
  | .ok _ hs | .error _ hs => hs

variable (ho : HandleOracle)

/-- What a call returns: `ERROR_INVALID_HANDLE` when it is given a handle that is not open,
success for `CloseHandle` of an open handle, and otherwise what the OS decides. -/
def callResult (c : HandleCall) (hs : Handles) : Option Errno :=
  if c.uses.all (· ∈ hs.live) then
    match c with
    | .CloseHandle _ => none
    | _ => ho.fails hs c
  else some ERROR_INVALID_HANDLE

/-- A call that opens a handle; `wrap` is how its error reaches Go. -/
def openCall (c : HandleCall) (wrap : Errno → GoError) : HandleM Nat := fun hs =>
  match callResult ho c hs with
  | some e => .error (wrap e) hs
  | none => .ok hs.next hs.add

/-- A call that changes no handle. -/
def plainCall (c : HandleCall) (wrap : Errno → GoError) : HandleM Unit := fun hs =>
  match callResult ho c hs with
  | some e => .error (wrap e) hs
  | none => .ok () hs

/-- `jobapi.CreateJobObject(name, jobapi.MakeSA())`. -/
def jobapi.CreateJobObject (name : String) : HandleM Nat :=
  openCall ho (.CreateJobObject name) fun e => .syscallError "CreateJobObject" (.errno e)

/-- `syscall.CloseHandle(h)`, also `syscall.Close(h)`. -/
def syscall.CloseHandle (h : Nat) : HandleM Unit := fun hs =>
  match callResult ho (.CloseHandle h) hs with
  | some e => .error (.errno e) hs
  | none => .ok () (hs.remove h)

/-- `syscall.OpenProcess(access, false, pid)`. -/
def syscall.OpenProcess (access pid : Nat) : HandleM Nat :=
  openCall ho (.OpenProcess access pid) .errno

/-- `jobapi.AssignProcessToJobObject(job, process)`. -/
def jobapi.AssignProcessToJobObject (job process : Nat) : HandleM Unit :=
  plainCall ho (.AssignProcessToJobObject job process) fun e =>
    .syscallError "AssignProcessToJobObject" (.errno e)

/-- `syscall.CreateIoCompletionPort(syscall.InvalidHandle, 0, 0, 1)`. -/
def syscall.CreateIoCompletionPort : HandleM Nat :=
  openCall ho .CreateIoCompletionPort .errno

/-- `jobapi.AssociateCompletionPort(job, port)`: the error of `SetInformationJobObject`,
wrapped once more. -/
def jobapi.AssociateCompletionPort (job port : Nat) : HandleM Unit :=
  plainCall ho (.AssociateCompletionPort job port) fun e =>
    .syscallError "SetInformationJobObject" (.syscallError "SetInformationJobObject" (.errno e))

/-- `_ = f()`: the error of the call is dropped. -/
def discardError (x : HandleM Unit) : HandleM Unit := fun hs => .ok () (HandleM.after (x hs))

/-- A `JobObject`: its name and handle. Its cache and the OS's blocks are a `Sys`. -/
structure JobObject where
  Name : String
  Handle : Nat

/-- `job.Close()`. -/
def JobObject.Close (job : JobObject) : HandleM Unit := syscall.CloseHandle ho job.Handle

/-- `JOB_OBJECT_ALL_ACCESS`. -/
def JOB_OBJECT_ALL_ACCESS : Nat := 0x1F001F

/-- `jobapi.OpenJobObject(access, 0, name)`. -/
def jobapi.OpenJobObject (access : Nat) (name : String) : HandleM Nat :=
  openCall ho (.OpenJobObject access name) fun e => .syscallError "OpenJobObject" (.errno e)

/-- `OpenWithAccess(name, access)`: the existing job `name`, opened. -/
def OpenWithAccess (name : String) (access : Nat) : HandleM JobObject := fun hs =>
  match jobapi.OpenJobObject ho access name hs with
  | .error e hs₁ => .error e hs₁
  | .ok h hs₁ => .ok ⟨name, h⟩ hs₁

/-- `Open(name)`: the job opened with all access rights. -/
def Open (name : String) : HandleM JobObject := OpenWithAccess ho name JOB_OBJECT_ALL_ACCESS

/-- `jobapi.TerminateJobObject(job, exitCode)`. -/
def jobapi.TerminateJobObject (job : Nat) (exitCode : BitVec 32) : HandleM Unit :=
  plainCall ho (.TerminateJobObject job exitCode) fun e =>
    .syscallError "TerminateJobObject" (.errno e)

/-- `job.TerminateWithExitCode(exitCode)`. -/
def JobObject.TerminateWithExitCode (job : JobObject) (exitCode : BitVec 32) : HandleM Unit :=
  jobapi.TerminateJobObject ho job.Handle exitCode

/-- `job.Terminate()`: every process of the job exits with code 1. -/
def JobObject.Terminate (job : JobObject) : HandleM Unit := job.TerminateWithExitCode ho 1

/-! ## `Create` -/

/-- The `Sys` of the job `CreateJobObject(name)` returns: on the OS, the blocks of the
existing job of that name, which it opens, or no limits for a new job; an empty cache. -/
def HandleOracle.opened (name : String) : Sys := ⟨(ho.existing name).getD {}, {}, []⟩

/-- `Create(name, limits...)`: the job and the state of its limits, or the error. -/
def Create (o : Oracle) (order : MapOrder JobObjectInformationClass) (name : String)
    (limits : List Limit) : HandleM (JobObject × Sys) := fun hs =>
  match jobapi.CreateJobObject ho name hs with
  | .error e hs₁ => .error e hs₁
  | .ok h hs₁ =>
    if limits.length ≠ 0 then
      match JobObject.SetLimit o order limits (ho.opened name) with
      | .error e _ =>
        .error e.toGoError (HandleM.after (discardError (JobObject.Close ho ⟨name, h⟩) hs₁))
      | .ok () sys => .ok (⟨name, h⟩, sys) hs₁
    else .ok (⟨name, h⟩, ho.opened name) hs₁

section Create

variable {o : Oracle} {order : MapOrder JobObjectInformationClass} {name : String}
  {limits : List Limit} {hs hs' : Handles}

theorem openCall_ok {c : HandleCall} {wrap : Errno → GoError} {h : Nat}
    (hc : openCall ho c wrap hs = .ok h hs') : h = hs.next ∧ hs' = hs.add := by
  simp only [openCall] at hc
  split at hc <;> cases hc
  exact ⟨rfl, rfl⟩

theorem openCall_error {c : HandleCall} {wrap : Errno → GoError} {e : GoError}
    (hc : openCall ho c wrap hs = .error e hs') : (∃ c', e = wrap c') ∧ hs' = hs := by
  simp only [openCall] at hc
  split at hc <;> cases hc
  exact ⟨⟨_, rfl⟩, rfl⟩

theorem plainCall_after (c : HandleCall) (wrap : Errno → GoError) (hs : Handles) :
    HandleM.after (plainCall ho c wrap hs) = hs := by
  simp only [plainCall]
  split <;> rfl

/-- `CloseHandle` of an open handle closes it. -/
theorem CloseHandle_of_mem {h : Nat} (hh : h ∈ hs.live) :
    syscall.CloseHandle ho h hs = .ok () (hs.remove h) := by
  simp [syscall.CloseHandle, callResult, HandleCall.uses, hh]

/-- Closing the handle just opened, its error dropped, gives back the handles before. -/
theorem discardError_CloseHandle_add :
    (HandleM.after (discardError (syscall.CloseHandle ho hs.next) hs.add)).live = hs.live := by
  rw [discardError, HandleM.after, CloseHandle_of_mem ho (List.mem_cons_self _ _)]
  exact hs.remove_add_live

/-- **A successful `Create`** holds one more handle, the job's, new; and the state of the
job is what `SetLimit` of the limits leaves on the job it created or opened. -/
theorem Create_ok {job : JobObject} {sys : Sys}
    (h : Create ho o order name limits hs = .ok (job, sys) hs') :
    hs'.live = job.Handle :: hs.live ∧ job.Handle ∉ hs.live ∧
      (limits ≠ [] → JobObject.SetLimit o order limits (ho.opened name) = .ok () sys) ∧
      (limits = [] → sys = ho.opened name) := by
  simp only [Create] at h
  split at h
  · cases h
  · rename_i hj hc
    obtain ⟨rfl, rfl⟩ := openCall_ok ho hc
    split_ifs at h with hl
    · split at h
      · cases h
      · rename_i hset
        cases h
        exact ⟨rfl, hs.next_not_mem, fun _ => hset, fun e => absurd (by simp [e]) hl⟩
    · cases h
      exact ⟨rfl, hs.next_not_mem, fun e => absurd (List.length_eq_zero.not.mpr e) hl, fun _ => rfl⟩

/-- **A failed `Create` leaks no handle.** It leaves the process holding the handles it held,
and returns the error of `CreateJobObject`, or that of `SetLimit`, after closing the job. -/
theorem Create_error {e : GoError} (h : Create ho o order name limits hs = .error e hs') :
    hs'.live = hs.live ∧
      ((∃ c, e = .syscallError "CreateJobObject" (.errno c)) ∨
        ∃ e₀ s₀, limits ≠ [] ∧ JobObject.SetLimit o order limits (ho.opened name) = .error e₀ s₀ ∧
          e = e₀.toGoError) := by
  simp only [Create] at h
  split at h
  · rename_i hc
    cases h
    obtain ⟨he, rfl⟩ := openCall_error ho hc
    exact ⟨rfl, .inl he⟩
  · rename_i hj hc
    obtain ⟨rfl, rfl⟩ := openCall_ok ho hc
    split_ifs at h with hl
    · split at h
      · rename_i e₀ s₀ hset
        cases h
        -- the job's handle is open, so closing it succeeds
        exact ⟨discardError_CloseHandle_add ho,
          .inr ⟨e₀, s₀, fun e => absurd (by simp [e]) hl, hset, rfl⟩⟩
      · cases h

/-- A successful `OpenWithAccess` holds one more handle, the job's, new. -/
theorem OpenWithAccess_ok {access : Nat} {job : JobObject}
    (h : OpenWithAccess ho name access hs = .ok job hs') : job = ⟨name, hs.next⟩ ∧ hs' = hs.add := by
  simp only [OpenWithAccess] at h
  split at h <;> cases h
  rename_i hc
  obtain ⟨rfl, rfl⟩ := openCall_ok ho hc
  exact ⟨rfl, rfl⟩

/-- A failed `OpenWithAccess` returns the error of `OpenJobObject` and opens nothing. -/
theorem OpenWithAccess_error {access : Nat} {e : GoError}
    (h : OpenWithAccess ho name access hs = .error e hs') :
    (∃ c, e = .syscallError "OpenJobObject" (.errno c)) ∧ hs' = hs := by
  simp only [OpenWithAccess] at h
  split at h <;> cases h
  rename_i hc
  exact openCall_error ho hc

end Create

/-! ## Processes -/

/-- The handle closed in a `defer`, its error dropped. -/
def closeQuietly (h : Nat) (hs : Handles) : Handles := HandleM.after (syscall.CloseHandle ho h hs)

/-- `withProcessHandle(pid, access, fn)`: open the process, run `fn` on its handle, and close
the handle when `fn` returns. -/
def withProcessHandle {α : Type} (pid access : Nat) (fn : Nat → HandleM α) : HandleM α :=
  fun hs =>
    match syscall.OpenProcess ho access pid hs with
    | .error e hs₁ => .error e hs₁
    | .ok h hs₁ =>
      match fn h hs₁ with
      | .ok a hs₂ => .ok a (closeQuietly ho h hs₂)
      | .error e hs₂ => .error e (closeQuietly ho h hs₂)

/-- `PROCESS_ALL_ACCESS`. -/
def PROCESS_ALL_ACCESS : Nat := 0x1F0FFF

/-- `job.Assign(p)`, for the process `pid`. -/
def JobObject.Assign (job : JobObject) (pid : Nat) : HandleM Unit :=
  withProcessHandle ho pid PROCESS_ALL_ACCESS fun h =>
    jobapi.AssignProcessToJobObject ho job.Handle h

/-- A call that, whatever it returns, leaves the open handles as they were. -/
def KeepsLive {α : Type} (x : HandleM α) : Prop := ∀ hs, (HandleM.after (x hs)).live = hs.live

theorem plainCall_keepsLive (c : HandleCall) (wrap : Errno → GoError) :
    KeepsLive (plainCall ho c wrap) := fun hs =>
  congrArg Handles.live (plainCall_after ho c wrap hs)

/-- **`withProcessHandle` leaks no handle**, when `fn` opens or closes none: the process
handle it opened is closed on every path. -/
theorem withProcessHandle_live {α : Type} {pid access : Nat} {fn : Nat → HandleM α}
    (hfn : ∀ h, KeepsLive (fn h)) (hs : Handles) :
    (HandleM.after (withProcessHandle ho pid access fn hs)).live = hs.live := by
  simp only [withProcessHandle]
  split
  · rename_i hc
    exact congrArg Handles.live (openCall_error ho hc).2
  · rename_i h hs₁ hc
    obtain ⟨rfl, rfl⟩ := openCall_ok ho hc
    have hkeep := hfn hs.next hs.add
    -- the handle is still open after `fn`, so the deferred close removes it
    have hclose : ∀ hs₂ : Handles, hs₂.live = hs.add.live →
        (closeQuietly ho hs.next hs₂).live = hs.live := fun hs₂ h₂ => by
      rw [closeQuietly, CloseHandle_of_mem ho (h₂ ▸ List.mem_cons_self _ _)]
      exact (congrArg (List.erase · hs.next) h₂).trans hs.remove_add_live
    split <;> rename_i hfn' <;> rw [hfn'] at hkeep <;> exact hclose _ hkeep

theorem Assign_live (job : JobObject) (pid : Nat) (hs : Handles) :
    (HandleM.after (job.Assign ho pid hs)).live = hs.live :=
  withProcessHandle_live ho (fun _ => plainCall_keepsLive ho _ _) hs

/-- `PROCESS_QUERY_LIMITED_INFORMATION`. -/
def PROCESS_QUERY_LIMITED_INFORMATION : Nat := 0x001000

/-- `jobapi.IsProcessInJob(process, job)`: whether the OS finds the process in the job. -/
def jobapi.IsProcessInJob (process job : Nat) : HandleM Bool := fun hs =>
  match callResult ho (.IsProcessInJob process job) hs with
  | some e => .error (.syscallError "IsProcessInJob" (.errno e)) hs
  | none => .ok (ho.inJob hs process job) hs

/-- `job.Contains(p)`, for the process `pid`. (The `found` that Go returns beside an error is
left out: a caller that gets an error does not read it.) -/
def JobObject.Contains (job : JobObject) (pid : Nat) : HandleM Bool :=
  withProcessHandle ho pid PROCESS_QUERY_LIMITED_INFORMATION fun h =>
    jobapi.IsProcessInJob ho h job.Handle

theorem Contains_live (job : JobObject) (pid : Nat) (hs : Handles) :
    (HandleM.after (job.Contains ho pid hs)).live = hs.live :=
  withProcessHandle_live ho (fun _ hs => by simp only [jobapi.IsProcessInJob]; split <;> rfl) hs

/-! ## Ports and `Notify` -/

/-- `CreatePort(job)`: the port and the error of the association. On that error the port has
been closed, and the handle returned is the closed one. -/
def CreatePort (job : JobObject) : Handles → (Nat × Option GoError) × Handles := fun hs =>
  match syscall.CreateIoCompletionPort ho hs with
  | .error e hs₁ => ((0, some e), hs₁)
  | .ok h hs₁ =>
    match jobapi.AssociateCompletionPort ho job.Handle h hs₁ with
    | .error e hs₂ =>
      ((h, some e), HandleM.after (discardError (syscall.CloseHandle ho h) hs₂))
    | .ok () hs₂ => ((h, none), hs₂)

/-- `p.Close()`. -/
def Port.Close (p : Nat) : HandleM Unit := syscall.CloseHandle ho p

/-- `Notify(c, job)`, for a channel `c` of capacity `cap`: a subscription whose loop is about
to wait on its port, or the error. -/
def Notify (cap : Nat) (job : JobObject) : HandleM Subscription := fun hs =>
  match CreatePort ho job hs with
  | ((_, some e), hs₁) => .error e hs₁
  | ((_, none), hs₁) => .ok (Subscription.init cap) hs₁

/-- **`CreatePort` leaks no handle.** When it returns no error, the process holds one more
handle, the port; when it returns one, it holds the handles it held. -/
theorem CreatePort_live {job : JobObject} {hs hs' : Handles} {p : Nat} {r : Option GoError}
    (h : CreatePort ho job hs = ((p, r), hs')) :
    (r = none → hs'.live = p :: hs.live ∧ p ∉ hs.live) ∧ (r ≠ none → hs'.live = hs.live) := by
  simp only [CreatePort] at h
  split at h
  · rename_i hc
    cases h
    rw [(openCall_error ho hc).2]
    exact ⟨nofun, fun _ => rfl⟩
  · rename_i hc
    obtain ⟨rfl, rfl⟩ := openCall_ok ho hc
    split at h <;> rename_i hass <;> cases h <;>
      have h₂ := (congrArg HandleM.after hass).symm.trans (plainCall_after ho _ _ hs.add) <;>
      dsimp only [HandleM.after] at h₂ <;> subst h₂
    · exact ⟨nofun, fun _ => discardError_CloseHandle_add ho⟩
    · exact ⟨fun _ => ⟨rfl, hs.next_not_mem⟩, fun h => absurd rfl h⟩

/-! ## Closing a handle -/

/-- A call given a handle that is not open fails with `ERROR_INVALID_HANDLE`. -/
theorem callResult_of_not_mem {hs : Handles} {h : Nat} (c : HandleCall) (hc : h ∈ c.uses)
    (hh : h ∉ hs.live) : callResult ho c hs = some ERROR_INVALID_HANDLE := by
  unfold callResult
  rw [if_neg]
  simpa using ⟨h, hc, hh⟩

/-- `CloseHandle` succeeds exactly on an open handle, which it closes; when it fails it
changes nothing. -/
theorem CloseHandle_eq (h : Nat) (hs : Handles) :
    syscall.CloseHandle ho h hs = if h ∈ hs.live then .ok () (hs.remove h)
      else .error (.errno ERROR_INVALID_HANDLE) hs := by
  split_ifs with hh
  · exact CloseHandle_of_mem ho hh
  · simp only [syscall.CloseHandle,
      callResult_of_not_mem ho (.CloseHandle h) (List.mem_singleton_self h) hh]

end Winjob
