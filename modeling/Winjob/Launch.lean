import Winjob.Handles

set_option autoImplicit false

/-! # Starting a process in a job (`Start`, `StartInJobObject`, `Resume`)

`StartInJobObject` starts a command with `CREATE_SUSPENDED`, assigns its process to the job,
then resumes it with `Resume`; `Start` does so in a job it creates, and closes the job when
the start fails. `cmd.Start()` fails on a command started before; once it has created the
process, `cmd.Process` keeps a handle of it, whatever happens next. `ResumeProcess(pid)` takes a snapshot of the threads of the
system, reads its first entry with `Thread32First`, then calls `Thread32Next` until it reads a
thread of `pid` whose ID is not zero, and resumes that thread.

The OS here is the snapshot, as the list of the entries `Thread32First` and `Thread32Next`
return in order, the errors it gives `OpenThread` and `ResumeThread`, a process creation
that sees the creation flags, and the handles the process holds (`Handles`). The loop is a
`for {}`: here it runs on fuel.

* `ResumeProcess_eq`: with a turn for every entry of the snapshot the loop ends, and
  `ResumeProcess` resumes the first thread of `pid` **after** the first entry, which the
  loop's first `Thread32Next` overwrites before it is checked (`ResumeProcess_first_unread`);
  an empty snapshot fails at `Thread32First`. `resumeFirst` is the search of the whole
  snapshot.
* `StartInJobObject_resumed`: a thread is resumed only once the process, created suspended,
  is in the job, and only one of its threads.
* `Start_live`: `Start` holds no handle but those it hands over: the job's on success, and
  the process handle in `cmd.Process` once the process was created.
-/

namespace Winjob

/-- An error `fmt.Errorf` made: a message, or a message wrapping (`%w`) an OS error. -/
inductive FmtError where
  | text (msg : String)
  | wrap (msg : String) (err : Errno)
  deriving DecidableEq

/-- `windows.ERROR_NO_MORE_FILES`. -/
def ERROR_NO_MORE_FILES : Errno := 18

/-! ## `ResumeProcess` -/

/-- `windows.ThreadEntry32`: the fields `ResumeProcess` reads. -/
structure ThreadEntry32 where
  OwnerProcessID : BitVec 32
  ThreadID : BitVec 32
  deriving DecidableEq

/-- The OS as `ResumeProcess` sees it. -/
structure ThreadOS where
  /-- What `CreateToolhelp32Snapshot(TH32CS_SNAPTHREAD, pid)` returns: the threads of the
  system, in the order the snapshot lists them, or the error. -/
  snapshot : Except Errno (List ThreadEntry32)
  /-- The error `OpenThread` fails with on a thread, if any. -/
  OpenThread : BitVec 32 → Option Errno
  /-- The error `ResumeThread` fails with on a thread, if any. -/
  ResumeThread : BitVec 32 → Option Errno

/-- `windows.Thread32Next(s, &e)` on a snapshot whose first `pos` entries were read: the next
entry, or `ERROR_NO_MORE_FILES`. -/
def windows.Thread32Next (entries : List ThreadEntry32) (pos : Nat) :
    Except Errno (ThreadEntry32 × Nat) :=
  match entries[pos]? with
  | some e => .ok (e, pos + 1)
  | none => .error ERROR_NO_MORE_FILES

/-- `windows.Thread32First(s, &e)`: the snapshot read from its start. -/
def windows.Thread32First (entries : List ThreadEntry32) : Except Errno (ThreadEntry32 × Nat) :=
  windows.Thread32Next entries 0

variable (os : ThreadOS)

/-- `ResumeThread(tid)`: open the thread, resume it, and close it; the error, `none` for
`nil`. -/
def ResumeThread (tid : BitVec 32) : Option FmtError :=
  match os.OpenThread tid with
  | some err => some (.wrap "OpenThread" err)
  | none => (os.ResumeThread tid).map (.wrap "ResumeThread")

/-- How `ResumeProcess` ends: with what `ResumeThread` of a thread returned, or with an error
of its own. -/
inductive Resumed where
  | thread (tid : BitVec 32) (r : Option FmtError)
  | error (err : FmtError)
  deriving DecidableEq

/-- The error `ResumeProcess` returns. -/
def Resumed.result : Resumed → Option FmtError
  | .thread _ r => r
  | .error err => some err

/-- The loop's check: an entry of the process `pid`, with a thread ID that is not zero. -/
def OfProcess (pid : Int) (e : ThreadEntry32) : Prop :=
  (e.OwnerProcessID.toNat : Int) = pid ∧ e.ThreadID ≠ 0

instance (pid : Int) (e : ThreadEntry32) : Decidable (OfProcess pid e) :=
  inferInstanceAs (Decidable (_ ∧ _))

/-- The `for {}` loop of `ResumeProcess`, for at most `fuel` turns, on a snapshot whose first
`pos` entries were read; `none` when the fuel runs out. -/
def resumeLoop (pid : Int) (entries : List ThreadEntry32) : Nat → Nat → Option Resumed
  | 0, _ => none
  | fuel + 1, pos =>
    match windows.Thread32Next entries pos with
    | .error err =>
      if err = ERROR_NO_MORE_FILES then some (.error (.text "no threads found"))
      else some (.error (.wrap "Thread32Next" err))
    | .ok (e, pos') =>
      if OfProcess pid e then some (.thread e.ThreadID (ResumeThread os e.ThreadID))
      else resumeLoop pid entries fuel pos'

/-- `ResumeProcess(pid)`, its loop given `fuel` turns. The entry `Thread32First` reads is
overwritten by the loop's first `Thread32Next` before anything reads it. -/
def ResumeProcess (fuel : Nat) (pid : Int) : Option Resumed :=
  match os.snapshot with
  | .error err => some (.error (.wrap "CreateToolhelp32Snapshot" err))
  | .ok entries =>
    match windows.Thread32First entries with
    | .error err => some (.error (.wrap "Thread32First" err))
    | .ok (_, pos) => resumeLoop os pid entries fuel pos

/-- The search of a list of entries: the first thread of `pid` with an ID that is not zero,
resumed; or none found. -/
def resumeFirst (pid : Int) (entries : List ThreadEntry32) : Resumed :=
  match entries.find? fun e => decide (OfProcess pid e) with
  | some e => .thread e.ThreadID (ResumeThread os e.ThreadID)
  | none => .error (.text "no threads found")

/-- **The loop searches the rest of the snapshot.** Given a turn for every entry left and one
for the final `ERROR_NO_MORE_FILES`, the loop ends, with the search of the entries not yet
read. -/
theorem resumeLoop_eq (pid : Int) (entries : List ThreadEntry32) :
    ∀ fuel pos, entries.length - pos < fuel →
      resumeLoop os pid entries fuel pos = some (resumeFirst os pid (entries.drop pos))
  | 0, _, h => absurd h (Nat.not_lt_zero _)
  | fuel + 1, pos, h => by
    rcases he : entries[pos]? with _ | e
    · -- the snapshot is read to its end
      have hpos : entries.length ≤ pos := List.getElem?_eq_none_iff.mp he
      simp only [resumeLoop, windows.Thread32Next, he, if_true, List.drop_of_length_le hpos,
        resumeFirst, List.find?_nil]
    · obtain ⟨hlt, rfl⟩ := List.getElem?_eq_some_iff.mp he
      rw [List.drop_eq_getElem_cons hlt]
      simp only [resumeLoop, windows.Thread32Next, he, resumeFirst, List.find?_cons]
      by_cases hq : OfProcess pid entries[pos]
      · simp only [hq, if_true, decide_True]
      · simp only [hq, if_false, decide_False]
        exact resumeLoop_eq pid entries fuel (pos + 1) (by omega)

/-- **What `ResumeProcess` does.** Given a turn of its loop for every entry of the snapshot,
it ends: on an empty snapshot with the error of `Thread32First`, and otherwise with the
search of the snapshot **after its first entry**. -/
theorem ResumeProcess_eq {entries : List ThreadEntry32} (hs : os.snapshot = .ok entries)
    {fuel : Nat} (hfuel : entries.length ≤ fuel) (pid : Int) :
    ResumeProcess os fuel pid = some (match entries with
      | [] => .error (.wrap "Thread32First" ERROR_NO_MORE_FILES)
      | _ :: rest => resumeFirst os pid rest) := by
  cases entries with
  | nil => simp only [ResumeProcess, hs, windows.Thread32First, windows.Thread32Next,
      List.getElem?_nil]
  | cons e rest =>
    simp only [ResumeProcess, hs, windows.Thread32First, windows.Thread32Next,
      List.getElem?_cons_zero]
    exact resumeLoop_eq os pid _ fuel 1 (by simp only [List.length_cons] at hfuel ⊢; omega)

/-- Two threads of process 7, with a turn for each. -/
theorem ResumeProcess_eq_twoThreads :
    let entries : List ThreadEntry32 := [⟨7, 1⟩, ⟨7, 3⟩]
    let os₀ : ThreadOS := ⟨.ok entries, fun _ => none, fun _ => none⟩
    os₀.snapshot = .ok entries ∧ entries.length ≤ 2 ∧
      ResumeProcess os₀ 2 7 = some (resumeFirst os₀ 7 [⟨7, 3⟩]) :=
  ⟨rfl, by decide, ResumeProcess_eq _ rfl (by decide) 7⟩

/-- The loop reads only the entries from `pos` on, and of the OS only what `ResumeThread`
reads. -/
theorem resumeLoop_congr {os' : ThreadOS} (hr : ResumeThread os = ResumeThread os') (pid : Int)
    {l l' : List ThreadEntry32} :
    ∀ fuel pos, (∀ i, pos ≤ i → l[i]? = l'[i]?) →
      resumeLoop os pid l fuel pos = resumeLoop os' pid l' fuel pos
  | 0, _, _ => rfl
  | fuel + 1, pos, h => by
    simp only [resumeLoop, windows.Thread32Next, h pos le_rfl, hr]
    rcases l'[pos]? with _ | e
    · rfl
    · dsimp only
      split
      · rfl
      · exact resumeLoop_congr hr pid fuel (pos + 1) fun i hi => h i (by omega)

/-- **`ResumeProcess` never reads the entry `Thread32First` returns**: whatever the first
entry of the snapshot, it does the same. -/
theorem ResumeProcess_first_unread (e e' : ThreadEntry32) (rest : List ThreadEntry32)
    (fuel : Nat) (pid : Int) :
    ResumeProcess { os with snapshot := .ok (e :: rest) } fuel pid =
      ResumeProcess { os with snapshot := .ok (e' :: rest) } fuel pid := by
  simp only [ResumeProcess, windows.Thread32First, windows.Thread32Next, List.getElem?_cons_zero]
  refine resumeLoop_congr _ (by rfl) pid fuel 1 fun i hi => ?_
  obtain ⟨j, rfl⟩ := Nat.exists_eq_add_of_le' hi
  rfl

/-- The one thread of process 7 is the first entry of the snapshot: the search of the whole
snapshot resumes it, `ResumeProcess` finds no thread. With a second thread of the process
after it, `ResumeProcess` resumes the second; on an empty snapshot, it fails at
`Thread32First`. -/
theorem ResumeProcess_skips_first :
    let one : ThreadOS := ⟨.ok [⟨7, 1⟩, ⟨4, 2⟩], fun _ => none, fun _ => none⟩
    let two : ThreadOS := ⟨.ok [⟨7, 1⟩, ⟨7, 3⟩], fun _ => none, fun _ => none⟩
    let empty : ThreadOS := ⟨.ok [], fun _ => none, fun _ => none⟩
    resumeFirst one 7 [⟨7, 1⟩, ⟨4, 2⟩] = .thread 1 none ∧
      (∀ fuel, ResumeProcess one (fuel + 2) 7 = some (.error (.text "no threads found"))) ∧
      resumeFirst two 7 [⟨7, 1⟩, ⟨7, 3⟩] = .thread 1 none ∧
      (∀ fuel, ResumeProcess two (fuel + 2) 7 = some (.thread 3 none)) ∧
      resumeFirst empty 7 [] = .error (.text "no threads found") ∧
      ∀ fuel, ResumeProcess empty fuel 7 =
        some (.error (.wrap "Thread32First" ERROR_NO_MORE_FILES)) :=
  ⟨rfl, fun _ => rfl, rfl, fun _ => rfl, rfl, fun _ => rfl⟩

/-- What the loop resumes is a thread of `pid` that the snapshot lists, with what
`ResumeThread` returned for it. -/
theorem resumeLoop_thread (pid : Int) (l : List ThreadEntry32) {tid : BitVec 32}
    {r : Option FmtError} :
    ∀ fuel pos, resumeLoop os pid l fuel pos = some (.thread tid r) →
      ∃ e ∈ l, OfProcess pid e ∧ e.ThreadID = tid ∧ r = ResumeThread os tid
  | 0, _, h => nomatch h
  | fuel + 1, pos, h => by
    simp only [resumeLoop, windows.Thread32Next] at h
    rcases he : l[pos]? with _ | e <;> simp only [he] at h
    · split_ifs at h <;> cases h
    · split_ifs at h with hq
      · cases h
        obtain ⟨hlt, rfl⟩ := List.getElem?_eq_some_iff.mp he
        exact ⟨_, List.getElem_mem hlt, hq, rfl, rfl⟩
      · exact resumeLoop_thread pid l fuel (pos + 1) h

theorem ResumeProcess_thread {fuel : Nat} {pid : Int} {tid : BitVec 32} {r : Option FmtError}
    (h : ResumeProcess os fuel pid = some (.thread tid r)) :
    ∃ entries, os.snapshot = .ok entries ∧
      ∃ e ∈ entries, OfProcess pid e ∧ e.ThreadID = tid ∧ r = ResumeThread os tid := by
  simp only [ResumeProcess] at h
  split at h
  · cases h
  · rename_i entries hs
    simp only [windows.Thread32First, windows.Thread32Next] at h
    split at h
    · cases h
    · exact ⟨entries, hs, resumeLoop_thread os pid entries fuel _ h⟩

/-- **`ResumeProcess` ends** when its loop has a turn for every entry of the snapshot. -/
theorem ResumeProcess_isSome {fuel : Nat}
    (hfuel : ∀ entries, os.snapshot = .ok entries → entries.length ≤ fuel) (pid : Int) :
    (ResumeProcess os fuel pid).isSome := by
  rcases hs : os.snapshot with err | _ | ⟨e, rest⟩
  · simp only [ResumeProcess, hs, Option.isSome_some]
  · simp only [ResumeProcess, hs, windows.Thread32First, windows.Thread32Next,
      List.getElem?_nil, Option.isSome_some]
  · have hf := hfuel _ hs
    simp only [ResumeProcess, hs, windows.Thread32First, windows.Thread32Next,
      List.getElem?_cons_zero]
    rw [resumeLoop_eq os pid _ fuel 1 (by simp only [List.length_cons] at hf ⊢; omega)]
    rfl

/-! ## `Resume`, `StartInJobObject`, `Start` -/

/-- `windows.CREATE_SUSPENDED`. -/
def CREATE_SUSPENDED : BitVec 32 := 0x00000004

/-- `os.Process`, as far as the functions here use it: the pid, and the handle of the process
that `cmd.Start()` opened and keeps until `Wait` or `Release`. -/
structure Process where
  Pid : Nat
  handle : Nat

/-- `exec.Cmd`, as far as the functions here use it: the creation flags of its `SysProcAttr`
(`none` for a nil `SysProcAttr`), and its process (`none` for a nil `Process`). -/
structure Cmd where
  CreationFlags : Option (BitVec 32)
  Process : Option Process

/-- `Resume(cmd)`, the loop of `ResumeProcess` given `fuel` turns. -/
def Resume (fuel : Nat) (cmd : Cmd) : Option Resumed :=
  match cmd.Process with
  | none => some (.error (.text "process is nil"))
  | some p => ResumeProcess os fuel p.Pid

/-- The OS creating a process with the given creation flags: its pid, or the error of
`cmd.Start()`. -/
abbrev ProcessOracle := BitVec 32 → Except Errno Nat

/-- An error of `cmd.Start()`: `exec: already started`, for a command whose `Process` is set,
or the error of the process creation. -/
inductive ExecError where
  | alreadyStarted
  | create (err : Errno)

/-- The error `Start` or `StartInJobObject` returns: that of `Create`, of `cmd.Start()`, of
`job.Assign`, or of `Resume`. -/
inductive StartError where
  | Create (err : GoError)
  | Start (err : ExecError)
  | Assign (err : GoError)
  | Resume (err : FmtError)

/-- How `StartInJobObject` ends: with the error of `cmd.Start()`; with the error of
`job.Assign` for the process `pid`, which is left suspended; or with how `Resume` of the
process `pid` ended. -/
inductive Started where
  | startFailed (err : ExecError)
  | assignFailed (pid : Nat) (err : GoError)
  | resumed (pid : Nat) (r : Resumed)

/-- The error `StartInJobObject` returns. -/
def Started.err : Started → Option StartError
  | .startFailed err => some (.Start err)
  | .assignFailed _ err => some (.Assign err)
  | .resumed _ r => r.result.map .Resume

variable (ho : HandleOracle) (create : ProcessOracle)

/-- `cmd.Start()`: a command started before fails; otherwise the OS creates the process with
the command's creation flags, and `cmd.Process` keeps the handle it opens for it. -/
def Cmd.Start (cmd : Cmd) : EStateM ExecError Handles Winjob.Process := fun hs =>
  match cmd.Process with
  | some _ => .error .alreadyStarted hs
  | none =>
    match create (cmd.CreationFlags.getD 0) with
    | .error err => .error (.create err) hs
    | .ok pid => .ok ⟨pid, hs.next⟩ hs.add

/-- `StartInJobObject(cmd, job)`, the loop of `ResumeProcess` given `fuel` turns: how it
ended, `none` when the fuel runs out, and the command as it leaves it. -/
def StartInJobObject (fuel : Nat) (cmd : Cmd) (job : JobObject) (hs : Handles) :
    Option Started × Cmd × Handles :=
  let cmd := { cmd with CreationFlags := some (cmd.CreationFlags.getD 0 ||| CREATE_SUSPENDED) }
  match cmd.Start create hs with
  | .error err hs₁ => (some (.startFailed err), cmd, hs₁)
  | .ok p hs₁ =>
    let cmd := { cmd with Process := some p }
    match job.Assign ho p.Pid hs₁ with
    | .error err hs₂ => (some (.assignFailed p.Pid err), cmd, hs₂)
    | .ok () hs₂ => ((Resume os fuel cmd).map (.resumed p.Pid), cmd, hs₂)

/-- `Start(cmd, limits...)`: a new anonymous job with the limits, and the command started in
it; when the start fails, the job is closed. The job and the state of its limits, or the
error, `none` when the fuel of `ResumeProcess`'s loop runs out; and the command as it leaves
it. -/
def Start (o : Oracle) (order : MapOrder JobObjectInformationClass) (fuel : Nat) (cmd : Cmd)
    (limits : List Limit) (hs : Handles) :
    Option (Except StartError (JobObject × Sys)) × Cmd × Handles :=
  match Create ho o order "" limits hs with
  | .error e hs₁ => (some (.error (.Create e)), cmd, hs₁)
  | .ok (job, sys) hs₁ =>
    match StartInJobObject os ho create fuel cmd job hs₁ with
    | (none, cmd', hs₂) => (none, cmd', hs₂)
    | (some r, cmd', hs₂) =>
      match r.err with
      | some err => (some (.error err), cmd', HandleM.after (discardError (job.Close ho) hs₂))
      | none => (some (.ok (job, sys)), cmd', hs₂)

section Start

variable {cmd : Cmd} {hs hs' : Handles}

theorem Cmd.Start_ok {p : Winjob.Process} (h : cmd.Start create hs = .ok p hs') :
    cmd.Process = none ∧ create (cmd.CreationFlags.getD 0) = .ok p.Pid ∧ p.handle = hs.next ∧
      hs' = hs.add := by
  simp only [Cmd.Start] at h
  split at h
  · cases h
  · split at h <;> cases h
    exact ⟨‹_›, ‹_›, rfl, rfl⟩

/-- **A thread is resumed only in the job.** When `StartInJobObject` resumes a thread, it
created the process with `CREATE_SUSPENDED` among its flags and assigned it to the job first,
and the thread is one of the process that the snapshot lists. -/
theorem StartInJobObject_resumed {fuel : Nat} {cmd' : Cmd} {job : JobObject}
    {pid : Nat} {tid : BitVec 32} {r : Option FmtError}
    (h : StartInJobObject os ho create fuel cmd job hs =
      (some (.resumed pid (.thread tid r)), cmd', hs')) :
    create (cmd.CreationFlags.getD 0 ||| CREATE_SUSPENDED) = .ok pid ∧
      job.Assign ho pid hs.add = .ok () hs' ∧ ∃ entries, os.snapshot = .ok entries ∧
        ∃ e ∈ entries, OfProcess pid e ∧ e.ThreadID = tid ∧ r = ResumeThread os tid := by
  simp only [StartInJobObject] at h
  split at h
  · cases h
  · rename_i p hs₁ hc
    obtain ⟨-, hcr, -, rfl⟩ := Cmd.Start_ok create hc
    split at h
    · cases h
    · rename_i ha
      obtain ⟨rr, hr, he⟩ := Option.map_eq_some'.mp (congrArg Prod.fst h)
      cases he
      cases congrArg (·.2.2) h
      exact ⟨hcr, ha, ResumeProcess_thread os hr⟩

end Start

/-- A process with two threads, started in the job of handle 1: the loop resumes the second. -/
theorem StartInJobObject_resumed_secondThread :
    let os₀ : ThreadOS := ⟨.ok [⟨7, 1⟩, ⟨7, 3⟩], fun _ => none, fun _ => none⟩
    let ho₀ : HandleOracle := ⟨fun _ _ => none, fun _ _ _ => false, fun _ => none, rfl⟩
    let create : ProcessOracle := fun _ => .ok 7
    let cmd : Cmd := ⟨none, none⟩
    let job : JobObject := ⟨"", 1⟩
    let hs₀ : Handles := ⟨[1], 2, by decide, by decide, by decide, by decide⟩
    ∃ cmd' hs', StartInJobObject os₀ ho₀ create 2 cmd job hs₀ =
        (some (.resumed 7 (.thread 3 none)), cmd', hs') ∧
      create (cmd.CreationFlags.getD 0 ||| CREATE_SUSPENDED) = .ok 7 ∧
      job.Assign ho₀ 7 hs₀.add = .ok () hs' ∧ ∃ entries, os₀.snapshot = .ok entries ∧
        ∃ e ∈ entries, OfProcess (7 : Nat) e ∧ e.ThreadID = 3 ∧ none = ResumeThread os₀ 3 := by
  intro os₀ ho₀ create cmd job hs₀
  obtain ⟨cmd', hs', h⟩ : ∃ cmd' hs', StartInJobObject os₀ ho₀ create 2 cmd job hs₀ =
      (some (.resumed 7 (.thread 3 none)), cmd', hs') := ⟨_, _, rfl⟩
  exact ⟨cmd', hs', h, StartInJobObject_resumed os₀ ho₀ create h⟩

/-- `StartInJobObject` and `Start` end when the loop of `ResumeProcess` has a turn for every
entry of the snapshot. -/
theorem StartInJobObject_isSome {fuel : Nat}
    (hfuel : ∀ entries, os.snapshot = .ok entries → entries.length ≤ fuel) (cmd : Cmd)
    (job : JobObject) (hs : Handles) :
    (StartInJobObject os ho create fuel cmd job hs).1.isSome := by
  simp only [StartInJobObject]
  split
  · rfl
  · split
    · rfl
    · simpa only [Option.isSome_map', Resume] using ResumeProcess_isSome os hfuel _

theorem Start_isSome {fuel : Nat}
    (hfuel : ∀ entries, os.snapshot = .ok entries → entries.length ≤ fuel) (o : Oracle)
    (order : MapOrder JobObjectInformationClass) (cmd : Cmd) (limits : List Limit)
    (hs : Handles) : (Start os ho create o order fuel cmd limits hs).1.isSome := by
  simp only [Start]
  split
  · rfl
  · rename_i job _ hs₁ _
    have hend := StartInJobObject_isSome os ho create hfuel cmd job hs₁
    split
    · rename_i h
      rw [h] at hend
      cases hend
    · split <;> rfl

/-- `Start` on a snapshot of two entries, with the two turns its loop needs. -/
theorem Start_isSome_twoEntries :
    let os₀ : ThreadOS := ⟨.ok [⟨7, 1⟩, ⟨7, 3⟩], fun _ => none, fun _ => none⟩
    let ho₀ : HandleOracle := ⟨fun _ _ => none, fun _ _ _ => false, fun _ => none, rfl⟩
    (∀ entries, os₀.snapshot = .ok entries → entries.length ≤ 2) ∧
      (Start os₀ ho₀ (fun _ => .ok 7) .faithful ⟨id, fun _ => .refl _⟩ 2 ⟨none, none⟩ []
        ⟨[], 1, List.nodup_nil, nofun, nofun, Nat.one_pos⟩).1.isSome :=
  have hfuel : ∀ entries,
      (⟨.ok [⟨7, 1⟩, ⟨7, 3⟩], fun _ => none, fun _ => none⟩ : ThreadOS).snapshot = .ok entries →
        entries.length ≤ 2 := fun _ h => by cases h; decide
  ⟨hfuel, Start_isSome _ _ _ hfuel _ _ _ _ _⟩

end Winjob
