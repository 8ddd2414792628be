import Winjob.JobObject

set_option autoImplicit false

/-! # Runs as lists of events

A method of `JobObject` that reaches the OS is, up to its first failing call, a list of
events performed in order (`runEvents`). Each event has an effect when it goes through
(`Event.perform`); a call goes through when the oracle lets it (`Event.Passes`).
`runEvents_ok_iff` and `runEvents_error` say once what a run of events does: it succeeds
exactly when every event goes through, and then ends in the state the effects give; or it
stops at a call the oracle fails, with the effects of the events before it and that call in
the trace.

`applyLimit` is such a run (`applyLimit_eq`). Its events (`applyLimitEvents`) are: for each
limit, a query of its class if no limit of the class came before, then the limit; and then
one write-back per class, in the map's order.
-/

namespace Winjob

/-! ## Events -/

namespace Event

/-- The effect of an event that goes through. -/
def perform : Event → Sys → Sys
  | .call c, s => c.perform (s.log (.call c))
  | .apply set l, s => { s.log (.apply set l) with job := l.apply set s.job }

/-- Whether the oracle lets an event through. -/
def Passes (o : Oracle) : Event → Sys → Prop
  | .call c, s => o (s.log (.call c)) c = none
  | .apply _ _, _ => True

/-- An event as the code performs it. -/
def run (o : Oracle) : Event → JobM Unit
  | .call c => osCall o c
  | .apply set l => JobObject.applyToCache set l

variable (k : JobObjectInformationClass) (set : Bool) (l : Limit) (s : Sys)

@[simp] theorem perform_QueryInfo_os : ((Event.call (.QueryInfo k)).perform s).os = s.os := rfl

@[simp] theorem perform_QueryInfo_job :
    ((Event.call (.QueryInfo k)).perform s).job = s.job.setInfoPtr k (s.os.infoPtr k) := rfl

@[simp] theorem perform_SetInfo_os :
    ((Event.call (.SetInfo k)).perform s).os = s.os.setInfoPtr k (s.job.infoPtr k) := rfl

@[simp] theorem perform_SetInfo_job : ((Event.call (.SetInfo k)).perform s).job = s.job := rfl

@[simp] theorem perform_apply_os : ((Event.apply set l).perform s).os = s.os := rfl

@[simp] theorem perform_apply_job : ((Event.apply set l).perform s).job = l.apply set s.job := rfl

@[simp] theorem perform_trace (e : Event) (s : Sys) : (e.perform s).trace = s.trace ++ [e] := by
  rcases e with (_ | _) | _ <;> rfl

end Event

theorem bind_ok {α β : Type} {x : JobM α} {s s' : Sys} {a : α} (h : x s = .ok a s')
    (f : α → JobM β) : (x >>= f) s = f a s' := by
  show EStateM.bind x f s = _
  simp only [EStateM.bind, h]

theorem bind_error {α β : Type} {x : JobM α} {s s' : Sys} {e : SyscallError}
    (h : x s = .error e s') (f : α → JobM β) : (x >>= f) s = .error e s' := by
  show EStateM.bind x f s = _
  simp only [EStateM.bind, h]

/-- A bind that succeeded: both parts did. -/
theorem bind_eq_ok {α β : Type} {x : JobM α} {f : α → JobM β} {s s'' : Sys} {b : β}
    (h : (x >>= f) s = .ok b s'') : ∃ a s', x s = .ok a s' ∧ f a s' = .ok b s'' := by
  rcases hx : x s with ⟨a, s'⟩ | ⟨e, s'⟩
  · exact ⟨a, s', rfl, by rwa [bind_ok hx] at h⟩
  · rw [bind_error hx] at h
    cases h

variable (o : Oracle)

theorem Event.run_of_passes {e : Event} {s : Sys} (h : e.Passes o s) :
    e.run o s = .ok () (e.perform s) := by
  cases e with
  | call c => simp only [Event.Passes] at h; simp [Event.run, osCall, h, Event.perform]
  | apply set l => rfl

theorem Event.run_of_not_passes {e : Event} {s : Sys} (h : ¬ e.Passes o s) :
    ∃ c err, e = .call c ∧ o (s.log (.call c)) c = some err ∧
      e.run o s = .error { Syscall := c.syscall, Err := err } (s.log (.call c)) := by
  cases e with
  | call c =>
    obtain ⟨err, herr⟩ := Option.ne_none_iff_exists'.mp h
    exact ⟨c, err, rfl, herr, by simp [Event.run, osCall, herr]⟩
  | apply set l => exact absurd trivial h

/-! ## Runs of events -/

/-- Events performed in order, up to the first error. -/
def runEvents : List Event → JobM Unit
  | [] => pure ()
  | e :: es => do
    e.run o
    runEvents es

/-- The state after events that all went through. -/
def performAll (es : List Event) (s : Sys) : Sys := es.foldl (fun s e => e.perform s) s

/-- Every event goes through, in the state the ones before it leave. -/
def PassesAll : List Event → Sys → Prop
  | [], _ => True
  | e :: es, s => e.Passes o s ∧ PassesAll es (e.perform s)

theorem runEvents_append (a b : List Event) :
    runEvents o (a ++ b) = (do runEvents o a; runEvents o b) := by
  induction a with
  | nil => simp [runEvents]
  | cons e a ih => simp [runEvents, ih]

@[simp] theorem performAll_nil (s : Sys) : performAll [] s = s := rfl

@[simp] theorem performAll_cons (e : Event) (es : List Event) (s : Sys) :
    performAll (e :: es) s = performAll es (e.perform s) := rfl

theorem performAll_append (a b : List Event) (s : Sys) :
    performAll (a ++ b) s = performAll b (performAll a s) :=
  List.foldl_append _ _ _ _

@[simp] theorem performAll_trace (es : List Event) (s : Sys) :
    (performAll es s).trace = s.trace ++ es := by
  induction es generalizing s with
  | nil => simp [performAll]
  | cons e es ih =>
    show (performAll es (e.perform s)).trace = _
    simp [ih]

theorem passesAll_faithful (es : List Event) (s : Sys) : PassesAll .faithful es s := by
  induction es generalizing s with
  | nil => trivial
  | cons e es ih => exact ⟨by cases e <;> trivial, ih _⟩

/-- **A run succeeds** exactly when every event goes through, and ends in the state their
effects give. -/
theorem runEvents_ok_iff (es : List Event) (s s' : Sys) :
    runEvents o es s = .ok () s' ↔ PassesAll o es s ∧ s' = performAll es s := by
  induction es generalizing s with
  | nil => simp [runEvents, PassesAll, performAll, pure, EStateM.pure, eq_comm]
  | cons e es ih =>
    simp only [runEvents, PassesAll, performAll, List.foldl_cons]
    by_cases h : e.Passes o s
    · rw [bind_ok (Event.run_of_passes o h), ih]
      simp only [h, true_and]; rfl
    · obtain ⟨c, err, rfl, -, hrun⟩ := Event.run_of_not_passes o h
      simp [bind_error hrun, h]

/-- **A run fails** at a call the oracle fails: the events before it went through, and the
error names the call. -/
theorem runEvents_error (es : List Event) (s s' : Sys) (err : SyscallError)
    (h : runEvents o es s = .error err s') :
    ∃ pre c post, es = pre ++ .call c :: post ∧ PassesAll o pre s ∧
      s' = (performAll pre s).log (.call c) ∧ err.Syscall = c.syscall ∧
      o s' c = some err.Err := by
  induction es generalizing s with
  | nil => simp [runEvents, pure, EStateM.pure] at h
  | cons e es ih =>
    simp only [runEvents] at h
    by_cases hp : e.Passes o s
    · rw [bind_ok (Event.run_of_passes o hp)] at h
      obtain ⟨pre, c, post, rfl, hpre, rfl, hs, ho⟩ := ih _ h
      exact ⟨e :: pre, c, post, rfl, ⟨hp, hpre⟩, rfl, hs, ho⟩
    · obtain ⟨c, err', rfl, ho, hrun⟩ := Event.run_of_not_passes o hp
      rw [bind_error hrun] at h
      cases h
      exact ⟨[], c, es, rfl, trivial, rfl, rfl, ho⟩

/-! ## `applyLimit` as a run -/

namespace JobObject

/-- The events of `applyLimitLoop`. -/
def loopEvents (set : Bool) : List Limit → List JobObjectInformationClass → List Event
  | [], _ => []
  | l :: ls, C =>
    let k := resolveRequiredInfoClass l
    (if k ∈ C then [] else [.call (.QueryInfo k)]) ++
      .apply set l :: loopEvents set ls (C.insert k)

/-- The keys of the loop's map at its end. -/
def loopClasses : List Limit → List JobObjectInformationClass → List JobObjectInformationClass
  | [], C => C
  | l :: ls, C => loopClasses ls (C.insert (resolveRequiredInfoClass l))

/-- The query events for a list of classes. -/
def queryEvents (ks : List JobObjectInformationClass) : List Event :=
  ks.map fun k => .call (.QueryInfo k)

/-- The write-back events for a list of classes. -/
def setInfoEvents (ks : List JobObjectInformationClass) : List Event :=
  ks.map fun k => .call (.SetInfo k)

/-- The events of `applyLimit`. -/
def applyLimitEvents (order : MapOrder JobObjectInformationClass) (set : Bool)
    (ls : List Limit) : List Event :=
  loopEvents set ls [] ++ setInfoEvents (order.iter (loopClasses ls []))

theorem sync_eq (mk : JobObjectInformationClass → OsCall) (ks : List JobObjectInformationClass) :
    sync (fun k => osCall o (mk k)) ks = runEvents o (ks.map fun k => .call (mk k)) := by
  induction ks with
  | nil => rfl
  | cons k ks ih => simp only [sync, ih, List.map_cons, runEvents, Event.run]

theorem sync_QueryInfo (ks : List JobObjectInformationClass) :
    sync (jobapi.QueryInfo o) ks = runEvents o (queryEvents ks) :=
  sync_eq o .QueryInfo ks

theorem sync_SetInfo (ks : List JobObjectInformationClass) :
    sync (jobapi.SetInfo o) ks = runEvents o (setInfoEvents ks) :=
  sync_eq o .SetInfo ks

theorem applyLimitLoop_eq (set : Bool) (ls : List Limit) (C : List JobObjectInformationClass) :
    applyLimitLoop o set ls C =
      (do runEvents o (loopEvents set ls C); pure (loopClasses ls C)) := by
  induction ls generalizing C with
  | nil => simp [applyLimitLoop, loopEvents, loopClasses, runEvents]
  | cons l ls ih =>
    simp only [applyLimitLoop, loopEvents, loopClasses, ih, runEvents_append]
    by_cases h : resolveRequiredInfoClass l ∈ C <;>
      simp [h, runEvents, Event.run, jobapi.QueryInfo, sync]

/-- The queries copy the OS's block of each class they query to the cache. -/
theorem performAll_queryEvents_job (ks : List JobObjectInformationClass) (s : Sys)
    (k : JobObjectInformationClass) :
    (performAll (queryEvents ks) s).job.infoPtr k =
      if k ∈ ks then s.os.infoPtr k else s.job.infoPtr k := by
  induction ks generalizing s with
  | nil => simp [queryEvents]
  | cons k' ks ih =>
    simp only [queryEvents, List.map_cons, performAll_cons] at ih ⊢
    rw [ih, Event.perform_QueryInfo_job, Event.perform_QueryInfo_os]
    by_cases h : k = k'
    · subst h; simp
    · simp [h, JobInfo.infoPtr_setInfoPtr_ne _ _ h]

theorem SetInfo_not_mem_queryEvents (ks : List JobObjectInformationClass)
    (k : JobObjectInformationClass) : .call (.SetInfo k) ∉ queryEvents ks := by
  simp [queryEvents]

/-- The write-back copies the cached block of each class it writes to the OS. -/
theorem performAll_setInfoEvents_os (ks : List JobObjectInformationClass) (s : Sys)
    (k : JobObjectInformationClass) :
    (performAll (setInfoEvents ks) s).os.infoPtr k =
      if k ∈ ks then s.job.infoPtr k else s.os.infoPtr k := by
  induction ks generalizing s with
  | nil => simp [setInfoEvents]
  | cons k' ks ih =>
    simp only [setInfoEvents, List.map_cons, performAll_cons] at ih ⊢
    rw [ih, Event.perform_SetInfo_job, Event.perform_SetInfo_os]
    by_cases h : k = k'
    · subst h; simp
    · simp [h, JobInfo.infoPtr_setInfoPtr_ne _ _ h]

/-- `applyLimit` is the run of its events. -/
theorem applyLimit_eq (order : MapOrder JobObjectInformationClass) (set : Bool)
    (ls : List Limit) :
    applyLimit o order set ls = runEvents o (applyLimitEvents order set ls) := by
  simp only [applyLimit, applyLimitLoop_eq, applyLimitEvents, runEvents_append, sync_SetInfo,
    bind_assoc, pure_bind]

end JobObject

/-! ## Failed runs -/

/-- What a failed call of a method leaves in the OS, against the state `s` it started from
and the state `sF` a fully successful call would have reached. The call that failed is a
query or a write-back. A failed query leaves the
OS as it was, with no write-back issued. A failed write-back leaves alone the blocks of the
classes outside `written`, and each block either as it was or as the successful call would
have written it. -/
def FailsCleanly (s s' : Sys) (err : SyscallError) (written : List JobObjectInformationClass)
    (sF : Sys) : Prop :=
  (err.Syscall = "QueryInformationJobObject" ∨ err.Syscall = "SetInformationJobObject") ∧
  (err.Syscall = "QueryInformationJobObject" →
    s'.os = s.os ∧ ∃ t, s'.trace = s.trace ++ t ∧ ∀ k, .call (.SetInfo k) ∉ t) ∧
  (err.Syscall = "SetInformationJobObject" → ∀ k,
    (k ∉ written → s'.os.infoPtr k = s.os.infoPtr k) ∧
    (s'.os.infoPtr k = s.os.infoPtr k ∨ s'.os.infoPtr k = sF.os.infoPtr k))

variable {o}

theorem runEvents_append_error {a b : List Event} {s s' : Sys} {err : SyscallError}
    (h : runEvents o (a ++ b) s = .error err s') :
    runEvents o a s = .error err s' ∨
      ∃ s₁, runEvents o a s = .ok () s₁ ∧ runEvents o b s₁ = .error err s' := by
  rw [runEvents_append] at h
  cases ha : runEvents o a s with
  | ok u s₁ => cases u; exact .inr ⟨s₁, rfl, by rwa [bind_ok ha] at h⟩
  | error e s₁ => rw [bind_error ha] at h; cases h; exact .inl rfl

theorem performAll_os_of_no_SetInfo {es : List Event} (hes : ∀ k, .call (.SetInfo k) ∉ es)
    (s : Sys) : (performAll es s).os = s.os := by
  induction es generalizing s with
  | nil => rfl
  | cons e es ih =>
    rw [performAll_cons, ih (fun k hk => hes k (.tail _ hk))]
    rcases e with (k | k) | _
    · rfl
    · exact absurd (.head _) (hes k)
    · rfl

/-- A failed run with no write-back failed at a query, and left the OS as it was. -/
theorem runEvents_error_of_no_SetInfo {es : List Event} (hes : ∀ k, .call (.SetInfo k) ∉ es)
    {s s' : Sys} {err : SyscallError} (h : runEvents o es s = .error err s') :
    err.Syscall = "QueryInformationJobObject" ∧ s'.os = s.os ∧
      ∃ t, s'.trace = s.trace ++ t ∧ ∀ k, .call (.SetInfo k) ∉ t := by
  obtain ⟨pre, c, post, rfl, -, rfl, hname, -⟩ := runEvents_error o es s s' err h
  have hpre : ∀ k, .call (.SetInfo k) ∉ pre := fun k hk => hes k (List.mem_append_left _ hk)
  cases c with
  | SetInfo k => exact absurd (List.mem_append_right _ (.head _)) (hes k)
  | QueryInfo k =>
    refine ⟨hname, performAll_os_of_no_SetInfo hpre s, pre ++ [.call (.QueryInfo k)],
      by simp [Sys.log], fun k' hk' => ?_⟩
    simp only [List.mem_append, List.mem_singleton] at hk'
    rcases hk' with hk' | hk'
    · exact hpre k' hk'
    · cases hk'

/-- A failed write-back failed at a write, and left each block as it was or as the whole
write-back would have written it. -/
theorem runEvents_setInfoEvents_error {ks : List JobObjectInformationClass} {s s' : Sys}
    {err : SyscallError} (h : runEvents o (JobObject.setInfoEvents ks) s = .error err s') :
    err.Syscall = "SetInformationJobObject" ∧ ∀ k,
      (k ∉ ks → s'.os.infoPtr k = s.os.infoPtr k) ∧
      (s'.os.infoPtr k = s.os.infoPtr k ∨
        s'.os.infoPtr k = (performAll (JobObject.setInfoEvents ks) s).os.infoPtr k) := by
  obtain ⟨pre, c, post, hks, -, rfl, hname, -⟩ := runEvents_error o _ s s' err h
  obtain ⟨ks₁, ks₂, rfl, rfl, hks₂⟩ := List.map_eq_append_iff.mp hks
  obtain ⟨k₀, ks₂, rfl, hc, -⟩ := List.map_eq_cons_iff.mp hks₂
  cases hc
  have hos (k : JobObjectInformationClass) :
      ((performAll (ks₁.map fun k => .call (.SetInfo k)) s).log
        (.call (.SetInfo k₀))).os.infoPtr k = if k ∈ ks₁ then s.job.infoPtr k else s.os.infoPtr k :=
    JobObject.performAll_setInfoEvents_os ks₁ s k
  refine ⟨hname, fun k => ⟨fun hk => ?_, ?_⟩⟩ <;> rw [hos]
  · rw [if_neg (fun h => hk (List.mem_append_left _ h))]
  · rw [JobObject.performAll_setInfoEvents_os]
    by_cases hk : k ∈ ks₁ <;> simp [hk]

end Winjob
