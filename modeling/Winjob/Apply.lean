import Winjob.Run

set_option autoImplicit false

/-! # What `applyLimit` does to the OS

The purpose of `SetLimit` and `ResetLimit` is to apply limits to what the OS holds for the
job: `applyAll` applies them, in order, to a `JobInfo`, and is the abstract model the code
is compared with. The code does not apply the limits to the OS: it copies blocks into the
cache, applies the limits there, and copies blocks back, and it picks the blocks by
`resolveRequiredInfoClass`. This is sound for a limit that writes only the block of its
class, as a function of that block (`Limit.Local`). Every limit of a type of the package is
local (`Limit.local_of_isDirect`); for local limits a successful `applyLimit` leaves the OS
holding exactly what `applyAll` gives (`applyLimit_os`).

A pointer to a limit, or a struct embedding one, is not local: the type switch of
`resolveRequiredInfoClass` sends it to the extended limit information whatever block it
writes (`ptr_LimitCPU_not_local`).

The section on calls counts and orders the OS calls of a successful run, and the last
section says what the OS holds after a failed one.
-/

namespace Winjob

/-! ## Local limits -/

namespace Limit

/-- Limits applied in order: what `SetLimit` (`set = true`) or `ResetLimit` is for. -/
def applyAll (set : Bool) (ls : List Limit) (job : JobInfo) : JobInfo :=
  ls.foldl (fun job l => l.apply set job) job

@[simp] theorem applyAll_nil (set : Bool) (job : JobInfo) : applyAll set [] job = job := rfl

@[simp] theorem applyAll_cons (set : Bool) (l : Limit) (ls : List Limit) (job : JobInfo) :
    applyAll set (l :: ls) job = applyAll set ls (l.apply set job) := rfl

/-- `l.set` (`set = true`) or `l.reset` writes only the block of the class
`resolveRequiredInfoClass` gives `l`, and writes there a function of that block. -/
def Local (set : Bool) (l : Limit) : Prop :=
  ∃ f : (resolveRequiredInfoClass l).Block → (resolveRequiredInfoClass l).Block,
    ∀ job : JobInfo, l.apply set job =
      job.setInfoPtr (resolveRequiredInfoClass l) (f (job.infoPtr (resolveRequiredInfoClass l)))

/-- A value of a limit type of the package, not a pointer to one or a struct embedding one. -/
def IsDirect : Limit → Prop
  | .ptr _ | .embed _ => False
  | _ => True

/-- **Every limit of a type of the package is local.** -/
theorem local_of_isDirect (set : Bool) {l : Limit} (h : l.IsDirect) : l.Local set :=
  ⟨fun b => (l.apply set (({} : JobInfo).setInfoPtr _ b)).infoPtr _, fun job => by
    cases l <;> cases set <;> first | rfl | exact absurd h id⟩

variable {set : Bool} {l : Limit}

/-- A local limit leaves the blocks of other classes alone. -/
theorem Local.infoPtr_ne (h : l.Local set) (job : JobInfo) {j : JobObjectInformationClass}
    (hj : j ≠ resolveRequiredInfoClass l) : (l.apply set job).infoPtr j = job.infoPtr j := by
  obtain ⟨f, hf⟩ := h
  rw [hf, JobInfo.infoPtr_setInfoPtr_ne _ _ hj]

/-- The block of each class after a local limit depends only on that block before it. -/
theorem Local.infoPtr_congr (h : l.Local set) {job job' : JobInfo}
    {j : JobObjectInformationClass} (hj : job.infoPtr j = job'.infoPtr j) :
    (l.apply set job).infoPtr j = (l.apply set job').infoPtr j := by
  by_cases hk : j = resolveRequiredInfoClass l
  · subst hk
    obtain ⟨f, hf⟩ := h
    rw [hf, hf, JobInfo.infoPtr_setInfoPtr_self, JobInfo.infoPtr_setInfoPtr_self, hj]
  · rw [h.infoPtr_ne _ hk, h.infoPtr_ne _ hk, hj]

variable {ls : List Limit}

theorem applyAll_infoPtr_congr (hls : ∀ l ∈ ls, l.Local set) {job job' : JobInfo}
    {j : JobObjectInformationClass} (hj : job.infoPtr j = job'.infoPtr j) :
    (applyAll set ls job).infoPtr j = (applyAll set ls job').infoPtr j := by
  induction ls generalizing job job' with
  | nil => exact hj
  | cons l ls ih =>
    exact ih (fun l' hl' => hls l' (.tail _ hl')) ((hls l (.head _)).infoPtr_congr hj)

/-- The block of a class after local limits is that block with the limits of the class
applied, in order. -/
theorem applyAll_infoPtr_filter (hls : ∀ l ∈ ls, l.Local set) (job : JobInfo)
    (k : JobObjectInformationClass) :
    (applyAll set ls job).infoPtr k =
      (applyAll set (ls.filter (resolveRequiredInfoClass · = k)) job).infoPtr k := by
  induction ls generalizing job with
  | nil => rfl
  | cons l ls ih =>
    have hls' : ∀ l' ∈ ls, l'.Local set := fun l' hl' => hls l' (.tail _ hl')
    by_cases hk : resolveRequiredInfoClass l = k
    · simp only [applyAll_cons, List.filter_cons, hk, decide_True, ↓reduceIte, ih hls']
    · simp only [applyAll_cons, List.filter_cons, hk, decide_False, ih hls']
      exact applyAll_infoPtr_congr (fun l' hl' => hls' l' (List.mem_of_mem_filter hl'))
        ((hls l (.head _)).infoPtr_ne job (Ne.symm hk))

theorem applyAll_infoPtr_of_not_mem (hls : ∀ l ∈ ls, l.Local set) (job : JobInfo)
    {k : JobObjectInformationClass} (hk : k ∉ ls.map resolveRequiredInfoClass) :
    (applyAll set ls job).infoPtr k = job.infoPtr k := by
  rw [applyAll_infoPtr_filter hls, List.filter_eq_nil_iff.mpr]
  · rfl
  · intro l hl h
    exact hk (List.mem_map.mpr ⟨l, hl, of_decide_eq_true h⟩)

end Limit

/-! ## The loop and the write-back -/

namespace JobObject

open Limit

variable {set : Bool} {ls : List Limit}

theorem mem_loopClasses {C : List JobObjectInformationClass} {k : JobObjectInformationClass} :
    k ∈ loopClasses ls C ↔ k ∈ C ∨ k ∈ ls.map resolveRequiredInfoClass := by
  induction ls generalizing C with
  | nil => simp [loopClasses]
  | cons l ls ih => simp only [loopClasses, ih, List.mem_insert_iff, List.map_cons,
      List.mem_cons]; tauto

/-- One round of the loop: the query of the limit's class if the class is new, then the
limit. -/
theorem performAll_loopEvents_cons (l : Limit) (C : List JobObjectInformationClass) (s : Sys) :
    performAll (loopEvents set (l :: ls) C) s =
      performAll (loopEvents set ls (C.insert (resolveRequiredInfoClass l)))
        ((Event.apply set l).perform (if resolveRequiredInfoClass l ∈ C then s
          else (Event.call (.QueryInfo (resolveRequiredInfoClass l))).perform s)) := by
  by_cases h : resolveRequiredInfoClass l ∈ C <;> simp [loopEvents, h, performAll_append]

theorem performAll_loopEvents_os (C : List JobObjectInformationClass) (s : Sys) :
    (performAll (loopEvents set ls C) s).os = s.os := by
  induction ls generalizing C s with
  | nil => rfl
  | cons l ls ih => rw [performAll_loopEvents_cons, ih]; split <;> rfl

/-- **The loop's invariant.** Started with the cache equal to `X` on the classes of its map
and `X` equal to the OS on the others, the loop ends with the cache of every class of its
map equal to `X` with the limits applied. -/
theorem performAll_loopEvents_job (hls : ∀ l ∈ ls, l.Local set)
    (C : List JobObjectInformationClass) (s : Sys) (X : JobInfo)
    (hC : ∀ k ∈ C, s.job.infoPtr k = X.infoPtr k)
    (hX : ∀ k, k ∉ C → X.infoPtr k = s.os.infoPtr k) :
    ∀ k ∈ loopClasses ls C,
      (performAll (loopEvents set ls C) s).job.infoPtr k = (applyAll set ls X).infoPtr k := by
  induction ls generalizing C s X with
  | nil => exact hC
  | cons l ls ih =>
    have hl := hls l (.head _)
    rw [performAll_loopEvents_cons]
    refine ih (fun l' hl' => hls l' (.tail _ hl')) _ _ (l.apply set X)
      (fun k hk => hl.infoPtr_congr ?_) (fun k hk => ?_)
    · -- after the query, the cache agrees with `X` on the map's classes and the new class
      split
      · next h₀ => exact hC k (by rwa [List.insert_of_mem h₀] at hk)
      · next h₀ =>
        rcases List.mem_insert_iff.mp hk with rfl | hk
        · simp [hX _ h₀]
        · rw [Event.perform_QueryInfo_job,
            JobInfo.infoPtr_setInfoPtr_ne _ _ (ne_of_mem_of_not_mem hk h₀), hC k hk]
    · simp only [List.mem_insert_iff, not_or] at hk
      rw [hl.infoPtr_ne _ hk.1, Event.perform_apply_os, hX k hk.2]
      split <;> rfl

variable (o : Oracle) (order : MapOrder JobObjectInformationClass)

theorem applyLimit_ok {s s' : Sys} (h : applyLimit o order set ls s = .ok () s') :
    s' = performAll (applyLimitEvents order set ls) s := by
  rw [applyLimit_eq, runEvents_ok_iff] at h; exact h.2

/-- Against a faithful OS, `applyLimit` succeeds. -/
theorem applyLimit_faithful (s : Sys) :
    applyLimit .faithful order set ls s = .ok () (performAll (applyLimitEvents order set ls) s) := by
  rw [applyLimit_eq, runEvents_ok_iff]; exact ⟨passesAll_faithful _ _, rfl⟩

/-- **`applyLimit` refines `applyAll`.** A successful `applyLimit` of local limits leaves
the OS holding what applying the limits, in order, to its blocks gives. -/
theorem applyLimit_os (hls : ∀ l ∈ ls, l.Local set) {s s' : Sys}
    (h : applyLimit o order set ls s = .ok () s') : s'.os = applyAll set ls s.os := by
  rw [applyLimit_ok o order h]
  refine JobInfo.ext_infoPtr fun k => ?_
  rw [applyLimitEvents, performAll_append, performAll_setInfoEvents_os, performAll_loopEvents_os]
  split <;> rename_i hk <;> rw [(order.perm _).mem_iff] at hk
  · exact performAll_loopEvents_job hls [] s s.os (by simp) (fun _ _ => rfl) k hk
  · rw [applyAll_infoPtr_of_not_mem hls _ (by simpa [mem_loopClasses] using hk)]

/-! ## Calls -/

section Calls

variable {C : List JobObjectInformationClass} {k : JobObjectInformationClass}

theorem count_QueryInfo_loopEvents (C : List JobObjectInformationClass)
    (k : JobObjectInformationClass) :
    (loopEvents set ls C).count (.call (.QueryInfo k)) =
      if k ∉ C ∧ k ∈ ls.map resolveRequiredInfoClass then 1 else 0 := by
  induction ls generalizing C with
  | nil => simp [loopEvents]
  | cons l ls ih =>
    simp only [loopEvents, List.count_append, List.count_cons, ih, List.mem_insert_iff,
      List.map_cons, List.mem_cons]
    by_cases h₀ : resolveRequiredInfoClass l ∈ C <;> by_cases hk : k = resolveRequiredInfoClass l
    all_goals simp [h₀, hk]

theorem SetInfo_not_mem_loopEvents (C : List JobObjectInformationClass)
    (k : JobObjectInformationClass) : .call (.SetInfo k) ∉ loopEvents set ls C := by
  induction ls generalizing C with
  | nil => simp [loopEvents]
  | cons l ls ih => simp only [loopEvents]; split <;> simp [ih]

/-- The query of a class comes before every limit of the class. -/
theorem loopEvents_split (hC : k ∉ C) (hk : k ∈ ls.map resolveRequiredInfoClass) :
    ∃ A B, loopEvents set ls C = A ++ .call (.QueryInfo k) :: B ∧
      ∀ set' l, .apply set' l ∈ A → resolveRequiredInfoClass l ≠ k := by
  induction ls generalizing C with
  | nil => simp at hk
  | cons l ls ih =>
    by_cases h : resolveRequiredInfoClass l = k
    · subst h
      exact ⟨[], .apply set l :: loopEvents set ls (C.insert (resolveRequiredInfoClass l)),
        by simp [loopEvents, hC], by simp⟩
    · have hk' : k ∈ ls.map resolveRequiredInfoClass := by simpa [Ne.symm h] using hk
      obtain ⟨A, B, hAB, hA⟩ := @ih (C.insert (resolveRequiredInfoClass l))
        (by simpa [List.mem_insert_iff, Ne.symm h] using hC) hk'
      refine ⟨(if resolveRequiredInfoClass l ∈ C then []
        else [.call (.QueryInfo (resolveRequiredInfoClass l))]) ++ .apply set l :: A, B,
        by simp [loopEvents, hAB], fun set' l' hl' => ?_⟩
      simp only [List.mem_append, List.mem_cons] at hl'
      rcases hl' with hl' | ⟨-, rfl⟩ | hl'
      · split at hl' <;> simp at hl'
      · exact h
      · exact hA set' l' hl'

theorem nodup_loopClasses (hC : C.Nodup) : (loopClasses ls C).Nodup := by
  induction ls generalizing C with
  | nil => exact hC
  | cons l ls ih => exact ih hC.insert

theorem count_SetInfo_setInfoEvents (ks : List JobObjectInformationClass)
    (k : JobObjectInformationClass) : (setInfoEvents ks).count (.call (.SetInfo k)) = ks.count k := by
  induction ks with
  | nil => rfl
  | cons k' ks ih => simp [setInfoEvents, List.count_cons] at ih ⊢; rw [ih]

theorem QueryInfo_not_mem_setInfoEvents (ks : List JobObjectInformationClass)
    (k : JobObjectInformationClass) : .call (.QueryInfo k) ∉ setInfoEvents ks := by
  simp [setInfoEvents]

/-- **The calls of a successful `applyLimit`.** One query and one write-back for each class
of the limits and no call for any other class; the query of a class comes before every
limit of the class, and the write-backs after the last limit. An empty list makes no
call. -/
theorem applyLimit_calls (o : Oracle) (order : MapOrder JobObjectInformationClass)
    {s s' : Sys} (h : applyLimit o order set ls s = .ok () s') :
    ∃ t, s'.trace = s.trace ++ t ∧
      (∀ k, t.count (.call (.QueryInfo k)) =
        if k ∈ ls.map resolveRequiredInfoClass then 1 else 0) ∧
      (∀ k, t.count (.call (.SetInfo k)) =
        if k ∈ ls.map resolveRequiredInfoClass then 1 else 0) ∧
      (∀ k ∈ ls.map resolveRequiredInfoClass, ∃ A B, t = A ++ .call (.QueryInfo k) :: B ∧
        ∀ set' l, .apply set' l ∈ A → resolveRequiredInfoClass l ≠ k) ∧
      (∃ A B, t = A ++ B ∧ (∀ k, .call (.SetInfo k) ∉ A) ∧
        ∀ e ∈ B, ∃ k, e = .call (.SetInfo k)) ∧
      (ls = [] → t = []) := by
  refine ⟨applyLimitEvents order set ls, by rw [applyLimit_ok o order h, performAll_trace],
    fun k => ?_, fun k => ?_, fun k hk => ?_, ⟨_, _, rfl, SetInfo_not_mem_loopEvents [], ?_⟩,
    fun hls => ?_⟩
  · rw [applyLimitEvents, List.count_append, count_QueryInfo_loopEvents,
      List.count_eq_zero_of_not_mem (QueryInfo_not_mem_setInfoEvents _ _)]
    simp
  · rw [applyLimitEvents, List.count_append,
      List.count_eq_zero_of_not_mem (SetInfo_not_mem_loopEvents _ _),
      count_SetInfo_setInfoEvents, (order.perm _).count_eq,
      List.count_eq_of_nodup (nodup_loopClasses List.nodup_nil)]
    simp [mem_loopClasses]
  · obtain ⟨A, B, hAB, hA⟩ := @loopEvents_split set ls [] k (List.not_mem_nil k) hk
    exact ⟨A, B ++ setInfoEvents (order.iter (loopClasses ls [])),
      by rw [applyLimitEvents, hAB]; simp, hA⟩
  · simp [setInfoEvents]
  · subst hls
    simp [applyLimitEvents, loopEvents, loopClasses, setInfoEvents, (order.perm []).eq_nil]

/-- The calls of `SetLimit` with two limits of the extended limit information and one UI
restriction. -/
theorem applyLimit_calls_mixed :
    let order : MapOrder JobObjectInformationClass := ⟨id, fun _ => .refl _⟩
    let ls : List Limit :=
      [.basicLimit LimitKillOnJobClose, .uiRestriction LimitDesktop, WithAffinity 1]
    let s : Sys := ⟨{}, {}, []⟩
    let s' := performAll (applyLimitEvents order true ls) s
    applyLimit .faithful order true ls s = .ok () s' ∧
    ∃ t, s'.trace = s.trace ++ t ∧
      (∀ k, t.count (.call (.QueryInfo k)) =
        if k ∈ ls.map resolveRequiredInfoClass then 1 else 0) ∧
      (∀ k, t.count (.call (.SetInfo k)) =
        if k ∈ ls.map resolveRequiredInfoClass then 1 else 0) ∧
      (∀ k ∈ ls.map resolveRequiredInfoClass, ∃ A B, t = A ++ .call (.QueryInfo k) :: B ∧
        ∀ set' l, .apply set' l ∈ A → resolveRequiredInfoClass l ≠ k) ∧
      (∃ A B, t = A ++ B ∧ (∀ k, .call (.SetInfo k) ∉ A) ∧
        ∀ e ∈ B, ∃ k, e = .call (.SetInfo k)) ∧
      (ls = [] → t = []) :=
  ⟨applyLimit_faithful _ _, applyLimit_calls .faithful _ (applyLimit_faithful _ _)⟩

end Calls

/-! ## Failures -/

/-- **A failed `applyLimit` fails cleanly**: a failed query leaves the OS as it was, and a
failed write-back leaves every block as it was or as the successful call writes it. -/
theorem applyLimit_error (o : Oracle) (order : MapOrder JobObjectInformationClass)
    {s s' : Sys} {err : SyscallError} (h : applyLimit o order set ls s = .error err s') :
    FailsCleanly s s' err (ls.map resolveRequiredInfoClass)
      (performAll (applyLimitEvents order set ls) s) := by
  rw [applyLimit_eq, applyLimitEvents] at h
  rcases runEvents_append_error h with h | ⟨s₁, h₁, h⟩
  · obtain ⟨hname, hos, ht⟩ := runEvents_error_of_no_SetInfo (SetInfo_not_mem_loopEvents _) h
    exact ⟨.inl hname, fun _ => ⟨hos, ht⟩, fun h => absurd (hname.symm.trans h) (by decide)⟩
  · obtain ⟨-, rfl⟩ := (runEvents_ok_iff o _ s s₁).mp h₁
    obtain ⟨hname, hk⟩ := runEvents_setInfoEvents_error h
    refine ⟨.inr hname, fun h => absurd (hname.symm.trans h) (by decide), fun _ k => ?_⟩
    rw [performAll_loopEvents_os] at hk
    rw [applyLimitEvents, performAll_append]
    refine ⟨fun hk' => (hk k).1 ?_, (hk k).2⟩
    rwa [(order.perm _).mem_iff, mem_loopClasses, or_iff_right (List.not_mem_nil k)]

end JobObject

/-! ## Pointers to limits -/

/-- **A pointer to `LimitCPU` is lost.** `&LimitCPU` is a `Limit` (`cpuLimit`'s methods have
value receivers) whose `set` writes the CPU rate control block, but the type switch of
`resolveRequiredInfoClass` does not know the type `*cpuLimit` and gives it the extended limit
information. `SetLimit(&LimitCPU)` on a job with no limits succeeds, enables CPU rate
control in the cache only, and leaves the OS without it. -/
theorem ptr_LimitCPU_not_local (order : MapOrder JobObjectInformationClass) :
    resolveRequiredInfoClass (.ptr (.cpuLimit LimitCPU)) = .JobObjectExtendedLimitInformation ∧
    ((Limit.ptr (.cpuLimit LimitCPU)).set {}).CPURateControl ≠ ({} : JobInfo).CPURateControl ∧
    ∃ s', JobObject.SetLimit .faithful order [.ptr (.cpuLimit LimitCPU)] ⟨{}, {}, []⟩ = .ok () s' ∧
      s'.os = {} ∧ s'.os ≠ Limit.applyAll true [.ptr (.cpuLimit LimitCPU)] {} := by
  have hord : order.iter [.JobObjectExtendedLimitInformation] = [.JobObjectExtendedLimitInformation] :=
    List.perm_singleton.mp (order.perm _)
  have hcls : JobObject.loopClasses [.ptr (.cpuLimit LimitCPU)] [] =
      [.JobObjectExtendedLimitInformation] := rfl
  refine ⟨rfl, by decide, _, JobObject.applyLimit_faithful order _, ?_⟩
  simp only [JobObject.applyLimitEvents, hcls, hord]
  decide

end Winjob
