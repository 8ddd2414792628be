import Winjob.Queries

set_option autoImplicit false

/-! # A client's calls on a job object: the cache does not show

A `JobObject` keeps a copy of the OS's blocks (`JobInfo`), and each method fills the copy
from the OS before it reads a block of it or writes one back: `applyLimit` queries the class
of each limit before the first limit of the class, `HasLimits` and `ResetLimits` query the
four classes of limits before they read the flag words, and `ResetLimits` writes back only
blocks it has cleared. So what the cache held before a method never shows, not in what the
method returns, not in the calls it makes and not in what it leaves on the OS.

A client here makes any sequence of calls of the limit methods (`Call.run`), each whatever the
ones before returned.

* `Call.run_cache_invisible`: two states that differ only in their caches give, along every
  run, the same answers and errors, the same calls to the OS and the same OS. This holds
  against any OS that sees of the process's memory only the blocks the calls pass it
  (`Oracle.Blind`), failures included, and for every limit, pointers to limits and structs
  embedding one included. A cache made stale by another program's changes to the job, or
  written by the caller (the field `JobInfo` is exported), is harmless.
* `Call.run_faithful`: against a faithful OS and for limits of the package's types, the calls
  act as the machine without a cache `Call.spec`: `SetLimit` and `ResetLimit` apply their
  limits to the OS's blocks, `ResetLimits` clears the blocks whose flag word is set, and
  `HasLimits` tells whether one is.
* `Call.run_ok`: against any OS, a run in which every call succeeded is the machine's run.

Two facts carry the first result: every limit writes each block as a function of that block
(`Limit.apply_infoPtr_congr`), and every write-back of a method's run of events comes after a
query of its class (`Covered`).
-/

namespace Winjob

/-- **Every limit acts block by block**, a pointer to a limit or a struct embedding one too:
two caches that agree on a block agree on it after the limit. -/
theorem Limit.apply_infoPtr_congr (set : Bool) (l : Limit) {a b : JobInfo}
    {k : JobObjectInformationClass} (h : a.infoPtr k = b.infoPtr k) :
    (l.apply set a).infoPtr k = (l.apply set b).infoPtr k := by
  induction l with
  | ptr l ih | embed l ih => exact ih
  | _ => exact (Limit.local_of_isDirect set (by trivial)).infoPtr_congr h

/-! ## States that differ only in the cache -/

namespace Sys

/-- Two states that differ at most in the cache: the OS holds the same blocks, and the same
calls and limits were made. -/
structure SameOS (s t : Sys) : Prop where
  os : s.os = t.os
  trace : s.trace = t.trace

/-- Two states that differ at most in the cached blocks of the classes outside `K`. -/
structure AgreeOn (K : List JobObjectInformationClass) (s t : Sys) extends SameOS s t : Prop where
  job : ∀ k ∈ K, s.job.infoPtr k = t.job.infoPtr k

theorem SameOS.log {s t : Sys} (h : s.SameOS t) (e : Event) : (s.log e).SameOS (t.log e) :=
  ⟨h.os, by rw [Sys.log, Sys.log, h.trace]⟩

theorem SameOS.agreeOn_nil {s t : Sys} (h : s.SameOS t) : s.AgreeOn [] t :=
  ⟨h, fun _ hk => absurd hk (List.not_mem_nil _)⟩

/-- After `QueryLimits` the flag words are read from agreeing blocks. -/
theorem AgreeOn.flagWord {s t : Sys} (h : s.AgreeOn JobObject.limitClasses t)
    (k : JobObjectInformationClass) : s.job.flagWord k = t.job.flagWord k := by
  cases k
  case JobObjectBasicAndIoAccountingInformation => rfl
  all_goals exact JobInfo.flagWord_congr (h.job _ (by simp [JobObject.limitClasses]))

end Sys

/-- An OS that sees of the process's memory only the block a call passes it: it answers a call
alike in two states with the same OS and trace whose caches agree on that block. A query
passes a block only for the OS to fill; `SetInformationJobObject` passes the block it writes,
which the OS may check. -/
def Oracle.Blind (o : Oracle) : Prop :=
  ∀ s t c, s.SameOS t → (∀ k, c = .SetInfo k → s.job.infoPtr k = t.job.infoPtr k) → o s c = o t c

theorem Oracle.faithful_blind : Oracle.faithful.Blind := fun _ _ _ _ _ => rfl

/-- Two results of a method: the same value, with the states after it related by `R`; or the
same error, with the states after it differing only in the cache. -/
def ResultAgree {α : Type} (R : Sys → Sys → Prop) :
    EStateM.Result SyscallError Sys α → EStateM.Result SyscallError Sys α → Prop
  | .ok a s, .ok b t => a = b ∧ R s t
  | .error e s, .error e' t => e = e' ∧ s.SameOS t
  | _, _ => False

namespace ResultAgree

variable {α β : Type} {R R' : Sys → Sys → Prop}

theorem mono (hR : ∀ s t, R s t → R' s t) :
    ∀ {r r' : EStateM.Result SyscallError Sys α}, ResultAgree R r r' → ResultAgree R' r r'
  | .ok _ _, .ok _ _, h => ⟨h.1, hR _ _ h.2⟩
  | .error _ _, .error _ _, h => h
  | .ok _ _, .error _ _, h | .error _ _, .ok _ _, h => h.elim

/-- Results that agree stay so under the same continuation, if it maps related states to
results that agree. -/
theorem bind {x : JobM α} {f : α → JobM β} {s t : Sys} (hx : ResultAgree R (x s) (x t))
    (hf : ∀ a s t, R s t → ResultAgree R' (f a s) (f a t)) :
    ResultAgree R' ((x >>= f) s) ((x >>= f) t) := by
  rcases hs : x s with ⟨a, s₁⟩ | ⟨e, s₁⟩ <;> rcases ht : x t with ⟨b, t₁⟩ | ⟨e', t₁⟩ <;>
    rw [hs, ht] at hx
  · obtain ⟨rfl, h⟩ := hx
    rw [bind_ok hs, bind_ok ht]
    exact hf a s₁ t₁ h
  · exact hx.elim
  · exact hx.elim
  · rw [bind_error hs, bind_error ht]
    exact hx

end ResultAgree

/-! ## Runs of events -/

namespace Event

/-- The classes whose cached blocks agree after the event, when those of `K` agreed before
it: a query adds its class. -/
def fresh : Event → List JobObjectInformationClass → List JobObjectInformationClass
  | .call (.QueryInfo k), K => k :: K
  | _, K => K

/-- The event writes back no block outside `K`. -/
def WritesIn (K : List JobObjectInformationClass) : Event → Prop
  | .call (.SetInfo k) => k ∈ K
  | _ => True

/-- **One event keeps the caches' agreement**, and a query extends it to its class. -/
theorem perform_agreeOn {K : List JobObjectInformationClass} {s t : Sys} (h : s.AgreeOn K t)
    {e : Event} (hw : e.WritesIn K) : (e.perform s).AgreeOn (e.fresh K) (e.perform t) := by
  have htr : (e.perform s).trace = (e.perform t).trace := by simp [h.trace]
  rcases e with (k | k) | ⟨set, l⟩
  · refine ⟨⟨by simp [h.os], htr⟩, fun k' hk' => ?_⟩
    by_cases hk : k' = k
    · subst hk
      simp [h.os]
    · simp [hk, h.job k' ((List.mem_cons.mp hk').resolve_left hk)]
  · exact ⟨⟨by simp [h.os, h.job k hw], htr⟩, fun k' hk' => by simpa using h.job k' hk'⟩
  · exact ⟨⟨h.os, htr⟩, fun k' hk' => l.apply_infoPtr_congr set (h.job k' hk')⟩

variable {o : Oracle} (ho : o.Blind)
include ho

theorem run_agree {K : List JobObjectInformationClass} {s t : Sys} (h : s.AgreeOn K t)
    {e : Event} (hw : e.WritesIn K) :
    ResultAgree (Sys.AgreeOn (e.fresh K)) (e.run o s) (e.run o t) := by
  cases e with
  | apply set l => exact ⟨rfl, perform_agreeOn h hw⟩
  | call c =>
    have hoc : o (s.log (.call c)) c = o (t.log (.call c)) c :=
      ho _ _ c (h.toSameOS.log _) fun k hk => by subst hk; exact h.job k hw
    simp only [run, osCall, hoc]
    cases o (t.log (.call c)) c with
    | some err => exact ⟨rfl, h.toSameOS.log _⟩
    | none => exact ⟨rfl, perform_agreeOn h hw⟩

end Event

/-- Every write-back of the events is of a class of `K`, or of a class the events queried
before it. -/
def Covered : List JobObjectInformationClass → List Event → Prop
  | _, [] => True
  | K, e :: es => e.WritesIn K ∧ Covered (e.fresh K) es

/-- The classes whose cached blocks agree after the events, when those of `K` agreed before. -/
def freshAll (es : List Event) (K : List JobObjectInformationClass) :
    List JobObjectInformationClass :=
  es.foldl (fun K e => e.fresh K) K

@[simp] theorem freshAll_nil (K : List JobObjectInformationClass) : freshAll [] K = K := rfl

@[simp] theorem freshAll_cons (e : Event) (es : List Event) (K : List JobObjectInformationClass) :
    freshAll (e :: es) K = freshAll es (e.fresh K) := rfl

theorem mem_freshAll {K : List JobObjectInformationClass} {k : JobObjectInformationClass}
    (es : List Event) : k ∈ freshAll es K ↔ k ∈ K ∨ .call (.QueryInfo k) ∈ es := by
  induction es generalizing K with
  | nil => simp
  | cons e es ih =>
    rw [freshAll_cons, ih]
    rcases e with (k' | k') | _ <;> simp [Event.fresh]
    -- a query adds its class on both sides
    tauto

theorem covered_append {K : List JobObjectInformationClass} (a b : List Event) :
    Covered K (a ++ b) ↔ Covered K a ∧ Covered (freshAll a K) b := by
  induction a generalizing K with
  | nil => simp [Covered]
  | cons e a ih => rw [List.cons_append, Covered, Covered, ih, freshAll_cons, and_assoc]

section Agree

variable {o : Oracle} (ho : o.Blind)
include ho

/-- **A run of events keeps the caches' agreement** when it writes back only blocks that
agree: the same result, and after success the queried blocks agree too. -/
theorem runEvents_agree {K : List JobObjectInformationClass} (es : List Event)
    (hc : Covered K es) {s t : Sys} (h : s.AgreeOn K t) :
    ResultAgree (Sys.AgreeOn (freshAll es K)) (runEvents o es s) (runEvents o es t) := by
  induction es generalizing K s t with
  | nil => exact ⟨rfl, h⟩
  | cons e es ih => exact ResultAgree.bind (Event.run_agree ho h hc.1) fun _ _ _ h' => ih hc.2 h'

end Agree

/-! ## The methods -/

/-- The blocks with each block of limits whose flag word is set cleared. -/
def JobInfo.clearLimits (job : JobInfo) : JobInfo where
  ExtendedLimits :=
    if 0 < job.flagWord .JobObjectExtendedLimitInformation then {} else job.ExtendedLimits
  UIRestrictions :=
    if 0 < job.flagWord .JobObjectBasicUIRestrictions then {} else job.UIRestrictions
  AccountingInfo := job.AccountingInfo
  CPURateControl :=
    if 0 < job.flagWord .JobObjectCpuRateControlInformation then {} else job.CPURateControl
  NetRateControl :=
    if 0 < job.flagWord .JobObjectNetRateControlInformation then {} else job.NetRateControl

theorem JobInfo.infoPtr_clearLimits (job : JobInfo) (k : JobObjectInformationClass) :
    job.clearLimits.infoPtr k =
      if 0 < job.flagWord k then ({} : JobInfo).infoPtr k else job.infoPtr k := by
  cases k <;> rfl


namespace JobObject

open Limit

variable {K : List JobObjectInformationClass}

theorem covered_queryEvents (ks : List JobObjectInformationClass) : Covered K (queryEvents ks) := by
  induction ks generalizing K with
  | nil => trivial
  | cons k ks ih => exact ⟨trivial, ih⟩

theorem covered_setInfoEvents {ks : List JobObjectInformationClass} (h : ∀ k ∈ ks, k ∈ K) :
    Covered K (setInfoEvents ks) := by
  induction ks with
  | nil => trivial
  | cons k ks ih => exact ⟨h k (.head _), ih fun k' hk' => h k' (.tail _ hk')⟩

theorem covered_loopEvents (set : Bool) (ls : List Limit) (C : List JobObjectInformationClass) :
    Covered K (loopEvents set ls C) := by
  induction ls generalizing K C with
  | nil => trivial
  | cons l ls ih =>
    rw [loopEvents, covered_append]
    exact ⟨by split; exacts [trivial, ⟨trivial, trivial⟩], trivial, ih _⟩

/-- The loop queries each class of its map that was not in it at the start. -/
theorem query_mem_loopEvents {set : Bool} {ls : List Limit} {C : List JobObjectInformationClass}
    {k : JobObjectInformationClass} (hk : k ∈ loopClasses ls C) :
    k ∈ C ∨ .call (.QueryInfo k) ∈ loopEvents set ls C := by
  induction ls generalizing C with
  | nil => exact .inl hk
  | cons l ls ih =>
    rw [loopEvents, List.mem_append, List.mem_cons]
    rcases ih hk with hk | hk
    · rcases List.mem_insert_iff.mp hk with rfl | hk
      · by_cases hC : resolveRequiredInfoClass l ∈ C
        · exact .inl hC
        · exact .inr (.inl (by simp [hC]))
      · exact .inl hk
    · exact .inr (.inr (.inr hk))

/-- Every write-back of `applyLimit` is of a class its loop queried. -/
theorem covered_applyLimitEvents (order : MapOrder JobObjectInformationClass) (set : Bool)
    (ls : List Limit) : Covered [] (applyLimitEvents order set ls) := by
  rw [applyLimitEvents, covered_append]
  refine ⟨covered_loopEvents set ls [], covered_setInfoEvents fun k hk => ?_⟩
  rw [(order.perm _).mem_iff] at hk
  exact (mem_freshAll _).mpr (.inr ((query_mem_loopEvents hk).resolve_left (List.not_mem_nil k)))

section Agree

variable {o : Oracle} (ho : o.Blind) (order : MapOrder JobObjectInformationClass) {s t : Sys}
include ho

theorem applyLimit_agree (set : Bool) (ls : List Limit) (h : s.SameOS t) :
    ResultAgree Sys.SameOS (applyLimit o order set ls s) (applyLimit o order set ls t) := by
  rw [applyLimit_eq]
  exact (runEvents_agree ho _ (covered_applyLimitEvents order set ls) h.agreeOn_nil).mono
    fun _ _ h' => h'.toSameOS

theorem QueryLimits_agree (h : s.SameOS t) :
    ResultAgree (Sys.AgreeOn limitClasses) (QueryLimits o s) (QueryLimits o t) := by
  rw [QueryLimits_eq]
  refine (runEvents_agree ho _ (covered_queryEvents _) h.agreeOn_nil).mono
    fun _ _ h' => ⟨h'.toSameOS, fun k hk => h'.job k ((mem_freshAll _).mpr (.inr ?_))⟩
  exact List.mem_map_of_mem _ hk

theorem HasLimits_agree (h : s.SameOS t) :
    ResultAgree Sys.SameOS (HasLimits o s) (HasLimits o t) :=
  ResultAgree.bind (QueryLimits_agree ho h) fun _ _ _ h' =>
    ⟨by rw [limitInfoClassesSet_congr h'.flagWord], h'.toSameOS⟩

theorem ResetLimits_agree (h : s.SameOS t) :
    ResultAgree Sys.SameOS (ResetLimits o s) (ResetLimits o t) := by
  refine ResultAgree.bind (QueryLimits_agree ho h) fun _ s' t' h' => ?_
  show ResultAgree _ (sync (jobapi.SetInfo o) (limitInfoClassesSet s'.job) { s' with job := {} })
    (sync (jobapi.SetInfo o) (limitInfoClassesSet t'.job) { t' with job := {} })
  -- both caches are cleared, so they agree on every block written back
  rw [limitInfoClassesSet_congr h'.flagWord, sync_SetInfo]
  refine ResultAgree.mono (fun _ _ h'' => h''.toSameOS)
    (runEvents_agree ho _ (covered_setInfoEvents fun _ hk => hk) ?_)
  exact ⟨⟨h'.os, h'.trace⟩, fun _ _ => rfl⟩

end Agree

/-- `HasLimits` answers whether a class of limits has its flag word set. -/
theorem length_limitInfoClassesSet_pos (job : JobInfo) :
    0 < (limitInfoClassesSet job).length ↔ ∃ k ∈ limitClasses, 0 < job.flagWord k := by
  rw [List.length_pos, Ne, List.eq_nil_iff_forall_not_mem]
  simp only [mem_limitInfoClassesSet, not_forall, not_not]
  constructor
  · rintro ⟨k, hk⟩
    refine ⟨k, ?_, hk⟩
    cases k <;> simp_all [limitClasses, JobInfo.flagWord]
  · rintro ⟨k, -, hk⟩
    exact ⟨k, hk⟩

/-- The events of a successful `ResetLimits` clear the blocks of limits whose flag word is
set. -/
theorem ResetLimits_events_os (s : Sys) :
    (performAll (setInfoEvents (limitInfoClassesSet s.os))
      { performAll (queryEvents limitClasses) s with job := {} }).os = s.os.clearLimits := by
  refine JobInfo.ext_infoPtr fun k => ?_
  rw [performAll_setInfoEvents_os, JobInfo.infoPtr_clearLimits]
  simp only [mem_limitInfoClassesSet]
  split <;> simp [performAll_os_of_no_SetInfo (SetInfo_not_mem_queryEvents _)]

end JobObject

/-! ## A client's calls -/

/-- A call of a limit method that a client makes on a job object, with its arguments. -/
inductive Call where
  | SetLimit (limits : List Limit)
  | ResetLimit (limits : List Limit)
  | QueryLimits
  | HasLimits
  | ResetLimits

namespace Call

variable (o : Oracle) (order : MapOrder JobObjectInformationClass)

/-- The call, as its method runs: the `bool` `HasLimits` returns, or `none` for the methods
that return only an error. -/
def exec : Call → JobM (Option Bool)
  | .SetLimit limits => do JobObject.SetLimit o order limits; return none
  | .ResetLimit limits => do JobObject.ResetLimit o order limits; return none
  | .QueryLimits => do JobObject.QueryLimits o; return none
  | .HasLimits => do return some (← JobObject.HasLimits o)
  | .ResetLimits => do JobObject.ResetLimits o; return none

/-- Calls made in order, each whatever the ones before returned: what each returned, and the
state after them. -/
def run : List Call → Sys → List (Except SyscallError (Option Bool)) × Sys
  | [], s => ([], s)
  | c :: cs, s =>
    match c.exec o order s with
    | .ok a s' => let r := run cs s'; (.ok a :: r.1, r.2)
    | .error e s' => let r := run cs s'; (.error e :: r.1, r.2)

variable {o : Oracle} (order : MapOrder JobObjectInformationClass)

theorem exec_agree (ho : o.Blind) (c : Call) {s t : Sys} (h : s.SameOS t) :
    ResultAgree Sys.SameOS (c.exec o order s) (c.exec o order t) := by
  have hret (a : Option Bool) : ∀ u s t, Sys.SameOS s t →
      ResultAgree Sys.SameOS ((fun _ => pure a : Unit → JobM (Option Bool)) u s)
        ((fun _ => pure a : Unit → JobM (Option Bool)) u t) := fun _ _ _ h' => ⟨rfl, h'⟩
  cases c with
  | SetLimit ls | ResetLimit ls =>
    exact ResultAgree.bind (JobObject.applyLimit_agree ho order _ ls h) (hret none)
  | QueryLimits =>
    exact ResultAgree.bind ((JobObject.QueryLimits_agree ho h).mono fun _ _ h' => h'.toSameOS)
      (hret none)
  | HasLimits => exact ResultAgree.bind (JobObject.HasLimits_agree ho h) fun _ _ _ h' => ⟨rfl, h'⟩
  | ResetLimits => exact ResultAgree.bind (JobObject.ResetLimits_agree ho h) (hret none)

/-- **The cache does not show.** Against an OS that sees of the process's memory only the
blocks the calls pass it, two states that differ only in their caches give, along every run
of calls, the same answers and errors, and end with the same OS and the same calls made. -/
theorem run_cache_invisible (ho : o.Blind) (cs : List Call) {s t : Sys} (h : s.SameOS t) :
    (run o order cs s).1 = (run o order cs t).1 ∧ (run o order cs s).2.SameOS (run o order cs t).2 := by
  induction cs generalizing s t with
  | nil => exact ⟨rfl, h⟩
  | cons c cs ih =>
    have hc := exec_agree order ho c h
    rcases hs : c.exec o order s with ⟨a, s'⟩ | ⟨e, s'⟩ <;>
      rcases ht : c.exec o order t with ⟨b, t'⟩ | ⟨e', t'⟩ <;> rw [hs, ht] at hc
    -- an answer and an error never agree
    any_goals exact hc.elim
    -- the same answer, or the same error: the rest of the run agrees
    all_goals
      obtain ⟨rfl, h'⟩ := hc
      simp only [run, hs, ht]
      exact ⟨by rw [(ih h').1], (ih h').2⟩

/-- A job whose cache says `LimitKillOnJobClose` is set, and one whose cache is empty, with the
OS holding no limit: `SetLimit`, `HasLimits` and `ResetLimits` answer alike. -/
theorem run_cache_invisible_killOnJobClose :
    let s : Sys := ⟨{}, {}, []⟩
    let t : Sys :=
      ⟨{}, { ExtendedLimits.BasicLimitInformation.LimitFlags := LimitKillOnJobClose }, []⟩
    let cs := [SetLimit [.basicLimit LimitBreakawayOK], HasLimits, ResetLimits, HasLimits]
    let order : MapOrder JobObjectInformationClass := ⟨id, fun _ => .refl _⟩
    Oracle.faithful.Blind ∧ s.SameOS t ∧
      (run .faithful order cs s).1 = (run .faithful order cs t).1 ∧
      (run .faithful order cs s).2.SameOS (run .faithful order cs t).2 :=
  ⟨Oracle.faithful_blind, ⟨rfl, rfl⟩,
    run_cache_invisible ⟨id, fun _ => .refl _⟩ Oracle.faithful_blind _ ⟨rfl, rfl⟩⟩

/-! ## The machine without a cache -/

/-- What a call is for, on the blocks the OS holds and with no cache: its answer, and the
blocks after it. `SetLimit` and `ResetLimit` apply their limits in order, `ResetLimits`
clears the blocks of limits whose flag word is set, `HasLimits` tells whether one is. -/
def spec : Call → JobInfo → Option Bool × JobInfo
  | .SetLimit limits, os => (none, Limit.applyAll true limits os)
  | .ResetLimit limits, os => (none, Limit.applyAll false limits os)
  | .QueryLimits, os => (none, os)
  | .HasLimits, os => (some (decide (∃ k ∈ JobObject.limitClasses, 0 < os.flagWord k)), os)
  | .ResetLimits, os => (none, os.clearLimits)

/-- The machine's run: the answers, and the blocks at the end. -/
def specRun : List Call → JobInfo → List (Option Bool) × JobInfo
  | [], os => ([], os)
  | c :: cs, os => let r := c.spec os; let rs := specRun cs r.2; (r.1 :: rs.1, rs.2)

/-- The limits of the call are values of the package's limit types. -/
def Direct : Call → Prop
  | .SetLimit limits | .ResetLimit limits => ∀ l ∈ limits, l.IsDirect
  | _ => True

open JobObject in
/-- **A successful call is the machine's step**, against any OS: it answered as `spec` does on
the blocks the OS held, and left the OS holding the blocks `spec` gives. -/
theorem exec_ok {c : Call} (hc : c.Direct) {s s' : Sys} {r : Option Bool}
    (h : c.exec o order s = .ok r s') : r = (c.spec s.os).1 ∧ s'.os = (c.spec s.os).2 := by
  have hqos := performAll_os_of_no_SetInfo (SetInfo_not_mem_queryEvents limitClasses) s
  cases c <;> obtain ⟨a, s₁, h₁, h₂⟩ := bind_eq_ok h <;> cases h₂
  case SetLimit ls =>
    exact ⟨rfl, applyLimit_os o order (fun l hl => Limit.local_of_isDirect true (hc l hl)) h₁⟩
  case ResetLimit ls =>
    exact ⟨rfl, applyLimit_os o order (fun l hl => Limit.local_of_isDirect false (hc l hl)) h₁⟩
  case QueryLimits =>
    rw [QueryLimits_eq, runEvents_ok_iff] at h₁
    exact ⟨rfl, h₁.2 ▸ hqos⟩
  case HasLimits =>
    obtain ⟨rfl, rfl⟩ := HasLimits_ok o h₁
    exact ⟨by simp only [spec, decide_eq_decide.mpr (length_limitInfoClassesSet_pos s.os)], hqos⟩
  case ResetLimits =>
    rw [ResetLimits_ok o h₁]
    exact ⟨rfl, ResetLimits_events_os s⟩

open JobObject in
/-- **One call refines the machine's step**: against a faithful OS it succeeds, answers as
`spec` does on the OS's blocks and leaves the OS holding the blocks `spec` gives. -/
theorem exec_faithful {c : Call} (hc : c.Direct) (s : Sys) :
    ∃ s', c.exec .faithful order s = .ok (c.spec s.os).1 s' ∧ s'.os = (c.spec s.os).2 := by
  obtain ⟨r, s', h⟩ : ∃ r s', c.exec .faithful order s = .ok r s' := by
    cases c
    case SetLimit | ResetLimit => exact ⟨_, _, bind_ok (applyLimit_faithful order s) _⟩
    case QueryLimits => exact ⟨_, _, bind_ok (QueryLimits_faithful s) _⟩
    case HasLimits => exact ⟨_, _, bind_ok (HasLimits_of_ok .faithful
      ((runEvents_ok_iff _ _ s _).mpr ⟨passesAll_faithful _ _, rfl⟩)) _⟩
    case ResetLimits => exact ⟨_, _, bind_ok (ResetLimits_faithful s) _⟩
  obtain ⟨rfl, hos⟩ := exec_ok order hc h
  exact ⟨s', h, hos⟩

/-- **The calls refine the machine without a cache.** Against a faithful OS, along every run
of calls whose limits are of the package's types, from any cache, every call succeeds with
the answer of the machine run on the OS's blocks, and the OS ends holding the machine's
blocks. -/
theorem run_faithful {cs : List Call} (hcs : ∀ c ∈ cs, c.Direct) (s : Sys) :
    (run .faithful order cs s).1 = (specRun cs s.os).1.map .ok ∧
      (run .faithful order cs s).2.os = (specRun cs s.os).2 := by
  induction cs generalizing s with
  | nil => exact ⟨rfl, rfl⟩
  | cons c cs ih =>
    obtain ⟨s', he, hos⟩ := exec_faithful order (hcs c (.head _)) s
    obtain ⟨h₁, h₂⟩ := ih (fun c' hc' => hcs c' (.tail _ hc')) s'
    simp only [run, he, specRun, List.map_cons]
    rw [← hos, h₁, h₂]
    exact ⟨rfl, rfl⟩

/-- `LimitKillOnJobClose` set, then all limits cleared, on a job with none. -/
theorem run_faithful_killOnJobClose :
    let cs := [SetLimit [.basicLimit LimitKillOnJobClose], HasLimits, ResetLimits, HasLimits]
    let order : MapOrder JobObjectInformationClass := ⟨id, fun _ => .refl _⟩
    (∀ c ∈ cs, c.Direct) ∧
      (run .faithful order cs ⟨{}, {}, []⟩).1 = (specRun cs {}).1.map .ok ∧
      (run .faithful order cs ⟨{}, {}, []⟩).2.os = (specRun cs {}).2 :=
  have hcs : ∀ c ∈ [SetLimit [.basicLimit LimitKillOnJobClose], HasLimits, ResetLimits,
      HasLimits], c.Direct := by simp [Direct, Limit.IsDirect]
  ⟨hcs, run_faithful ⟨id, fun _ => .refl _⟩ hcs _⟩

example : (specRun [SetLimit [.basicLimit LimitKillOnJobClose], HasLimits, ResetLimits, HasLimits]
    {}).1 = [none, some true, none, some false] := by
  decide

/-- **Every successful run is the machine's run.** Against any OS, a run of calls whose limits
are of the package's types, in which every call succeeded, answered as the machine without a
cache run on the OS's blocks, and left the OS holding the machine's blocks. -/
theorem run_ok {cs : List Call} (hcs : ∀ c ∈ cs, c.Direct) {s : Sys}
    (hok : ∀ r ∈ (run o order cs s).1, ∃ a, r = .ok a) :
    (run o order cs s).1 = (specRun cs s.os).1.map .ok ∧
      (run o order cs s).2.os = (specRun cs s.os).2 := by
  induction cs generalizing s with
  | nil => exact ⟨rfl, rfl⟩
  | cons c cs ih =>
    rcases he : c.exec o order s with ⟨a, s'⟩ | ⟨e, s'⟩
    · obtain ⟨rfl, hos⟩ := exec_ok order (hcs c (.head _)) he
      simp only [run, he] at hok ⊢
      obtain ⟨h₁, h₂⟩ := ih (fun c' hc' => hcs c' (.tail _ hc')) fun r hr => hok r (.tail _ hr)
      simp only [specRun, List.map_cons]
      rw [← hos, h₁, h₂]
      exact ⟨rfl, rfl⟩
    · -- a failed call is in the run
      simp only [run, he] at hok
      obtain ⟨_, h⟩ := hok _ (.head _)
      cases h

/-- `LimitKillOnJobClose` set, then all limits cleared, against an OS that would refuse to
write the CPU rate control block. -/
theorem run_ok_cpuRefused :
    let o : Oracle := fun _ c =>
      if c = .SetInfo .JobObjectCpuRateControlInformation then some ERROR_INVALID_HANDLE else none
    let cs := [SetLimit [.basicLimit LimitKillOnJobClose], HasLimits, ResetLimits, HasLimits]
    let order : MapOrder JobObjectInformationClass := ⟨id, fun _ => .refl _⟩
    (∀ c ∈ cs, c.Direct) ∧ (∀ r ∈ (run o order cs ⟨{}, {}, []⟩).1, ∃ a, r = .ok a) ∧
      (run o order cs ⟨{}, {}, []⟩).1 = (specRun cs {}).1.map .ok ∧
      (run o order cs ⟨{}, {}, []⟩).2.os = (specRun cs {}).2 := by
  intro o cs order
  have hcs : ∀ c ∈ cs, c.Direct := by simp [cs, Direct, Limit.IsDirect]
  have hok : ∀ r ∈ (run o order cs ⟨{}, {}, []⟩).1, ∃ a, r = .ok a := by
    have hr : (run o order cs ⟨{}, {}, []⟩).1 =
        [.ok none, .ok (some true), .ok none, .ok (some false)] := rfl
    rw [hr]
    simp
  exact ⟨hcs, hok, run_ok order hcs hok⟩

end Call

end Winjob
