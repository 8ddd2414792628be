import Winjob.Apply

set_option autoImplicit false

/-! # Querying and clearing limits, and the counters

`QueryLimits` queries the four classes of limit information; `HasLimits` then tells
whether one of their flag words is not zero, and `ResetLimits` writes back, as all-zero
blocks, the classes whose flag word is not zero. The flag word of a class
(`JobInfo.flagWord`) is the one `limitInfoClassesSet` tests.

`QueryCounters` queries the accounting block and copies it into a `Counters`. It copies
`TotalUserTime` into the three other time fields and `OtherOperationCount` into
`OtherTransferCount` (`QueryCounters_ok`), so the counters it returns differ from the
block's whenever those fields differ (`Counters_miscopies`).
-/

namespace Winjob

/-! ## Flag words -/

/-- The flag word of a class of limits, the one `limitInfoClassesSet` tests; the accounting
class has none. -/
def JobInfo.flagWord (job : JobInfo) : JobObjectInformationClass → BitVec 32
  | .JobObjectExtendedLimitInformation => job.ExtendedLimits.BasicLimitInformation.LimitFlags
  | .JobObjectBasicUIRestrictions => job.UIRestrictions.UIRestrictionsClass
  | .JobObjectCpuRateControlInformation => job.CPURateControl.ControlFlags
  | .JobObjectNetRateControlInformation => job.NetRateControl.ControlFlags
  | .JobObjectBasicAndIoAccountingInformation => 0

namespace JobInfo

@[simp] theorem flagWord_empty (k : JobObjectInformationClass) : flagWord {} k = 0 := by
  cases k <;> rfl

/-- The flag word of a class is read from the block of the class. -/
theorem flagWord_congr {a b : JobInfo} {k : JobObjectInformationClass}
    (h : a.infoPtr k = b.infoPtr k) : a.flagWord k = b.flagWord k := by
  cases k <;> simp only [infoPtr] at h <;> simp only [flagWord, h]

end JobInfo

namespace JobObject

theorem mem_limitInfoClassesSet (job : JobInfo) (k : JobObjectInformationClass) :
    k ∈ limitInfoClassesSet job ↔ 0 < job.flagWord k := by
  cases k <;> simp [limitInfoClassesSet, JobInfo.flagWord]

/-- The four classes are distinct, and a flag word that is kept gives its own class. -/
theorem nodup_limitInfoClassesSet (job : JobInfo) : (limitInfoClassesSet job).Nodup := by
  refine List.Nodup.filterMap (fun a a' k ha ha' => ?_)
    (List.Nodup.of_map Prod.snd (by simp only [List.map_cons, List.map_nil]; decide))
  obtain ⟨_ | _, _⟩ := a <;> obtain ⟨_ | _, _⟩ := a' <;> simp_all

/-- `limitInfoClassesSet` reads only the flag words. -/
theorem limitInfoClassesSet_congr {a b : JobInfo} (h : ∀ k, a.flagWord k = b.flagWord k) :
    limitInfoClassesSet a = limitInfoClassesSet b := by
  have h₁ := h .JobObjectExtendedLimitInformation
  have h₂ := h .JobObjectBasicUIRestrictions
  have h₃ := h .JobObjectCpuRateControlInformation
  have h₄ := h .JobObjectNetRateControlInformation
  simp only [JobInfo.flagWord] at h₁ h₂ h₃ h₄
  simp only [limitInfoClassesSet, h₁, h₂, h₃, h₄]

/-- After `QueryLimits` the cache holds the OS's flag words. -/
theorem flagWord_performAll_queryEvents (s : Sys) (k : JobObjectInformationClass) :
    (performAll (queryEvents limitClasses) s).job.flagWord k = s.os.flagWord k := by
  cases k
  case JobObjectBasicAndIoAccountingInformation => rfl
  all_goals exact JobInfo.flagWord_congr (by rw [performAll_queryEvents_job]; simp [limitClasses])

/-- With every flag word zero, no limit is set. -/
theorem IsSet_of_flagWord_eq_zero {job : JobInfo} (h : ∀ k, job.flagWord k = 0) (l : Limit) :
    l.IsSet job = false := by
  have h₁ := h .JobObjectExtendedLimitInformation
  have h₂ := h .JobObjectBasicUIRestrictions
  have h₃ := h .JobObjectCpuRateControlInformation
  have h₄ := h .JobObjectNetRateControlInformation
  simp only [JobInfo.flagWord] at h₁ h₂ h₃ h₄
  induction l <;> simp [Limit.IsSet, basicLimit.IsSet, uiRestriction.IsSet, cpuLimit.IsSet,
    netBandwidthLimit.IsSet, netDSCPTagLimit.IsSet, h₁, h₂, h₃, h₄, *]

/-! ## `QueryLimits`, `HasLimits`, `ResetLimits` -/

variable (o : Oracle)

theorem QueryLimits_eq : QueryLimits o = runEvents o (queryEvents limitClasses) :=
  sync_QueryInfo o limitClasses

/-- Against a faithful OS, `QueryLimits` succeeds. -/
theorem QueryLimits_faithful (s : Sys) :
    QueryLimits .faithful s = .ok () (performAll (queryEvents limitClasses) s) := by
  rw [QueryLimits_eq, runEvents_ok_iff]
  exact ⟨passesAll_faithful _ _, rfl⟩

theorem limitInfoClassesSet_performAll_queryEvents (s : Sys) :
    limitInfoClassesSet (performAll (queryEvents limitClasses) s).job = limitInfoClassesSet s.os :=
  limitInfoClassesSet_congr (flagWord_performAll_queryEvents s)

/-- Once the queries went through, `HasLimits` tells whether a flag word of the OS is not
zero. -/
theorem HasLimits_of_ok {s s₁ : Sys} (hq : runEvents o (queryEvents limitClasses) s = .ok () s₁) :
    HasLimits o s = .ok (decide (0 < (limitInfoClassesSet s.os).length)) s₁ := by
  obtain ⟨-, rfl⟩ := (runEvents_ok_iff o _ s s₁).mp hq
  rw [HasLimits, QueryLimits_eq, bind_ok hq, ← limitInfoClassesSet_performAll_queryEvents s]
  rfl

theorem HasLimits_ok {s s' : Sys} {b : Bool} (h : HasLimits o s = .ok b s') :
    s' = performAll (queryEvents limitClasses) s ∧
      b = decide (0 < (limitInfoClassesSet s.os).length) := by
  cases hq : runEvents o (queryEvents limitClasses) s with
  | error e s₁ => rw [HasLimits, QueryLimits_eq, bind_error hq] at h; cases h
  | ok u s₁ =>
    cases u
    rw [HasLimits_of_ok o hq] at h
    cases h
    exact ⟨((runEvents_ok_iff o _ s _).mp hq).2, rfl⟩

/-- Once the queries went through, `ResetLimits` writes back, from a cleared cache, the
classes whose flag word in the OS is not zero. -/
theorem ResetLimits_of_ok {s s₁ : Sys} (hq : runEvents o (queryEvents limitClasses) s = .ok () s₁) :
    ResetLimits o s = runEvents o (setInfoEvents (limitInfoClassesSet s.os)) { s₁ with job := {} } := by
  obtain ⟨-, rfl⟩ := (runEvents_ok_iff o _ s s₁).mp hq
  rw [ResetLimits, QueryLimits_eq, bind_ok hq, ← limitInfoClassesSet_performAll_queryEvents s,
    ← sync_SetInfo]
  rfl

theorem ResetLimits_of_error {s s₁ : Sys} {e : SyscallError}
    (hq : runEvents o (queryEvents limitClasses) s = .error e s₁) : ResetLimits o s = .error e s₁ := by
  rw [ResetLimits, QueryLimits_eq, bind_error hq]

/-- The OS after a successful `ResetLimits`: the blocks whose flag word was not zero are
cleared, the others kept. -/
theorem ResetLimits_ok {s s' : Sys} (h : ResetLimits o s = .ok () s') :
    s' = performAll (setInfoEvents (limitInfoClassesSet s.os))
      { performAll (queryEvents limitClasses) s with job := {} } := by
  cases hq : runEvents o (queryEvents limitClasses) s with
  | error e s₁ => rw [ResetLimits_of_error o hq] at h; cases h
  | ok u s₁ =>
    cases u
    rw [ResetLimits_of_ok o hq, runEvents_ok_iff] at h
    rw [h.2, ((runEvents_ok_iff o _ s _).mp hq).2]

theorem ResetLimits_faithful (s : Sys) :
    ResetLimits .faithful s = .ok () (performAll (setInfoEvents (limitInfoClassesSet s.os))
      { performAll (queryEvents limitClasses) s with job := {} }) := by
  rw [ResetLimits_of_ok .faithful ((runEvents_ok_iff _ _ s _).mpr ⟨passesAll_faithful _ _, rfl⟩),
    runEvents_ok_iff]
  exact ⟨passesAll_faithful _ _, rfl⟩

/-- **`ResetLimits` clears every limit.** After a successful `ResetLimits`, a successful
`HasLimits` answers `false` and no limit is set, and against a faithful OS `HasLimits`
succeeds. `ResetLimits` wrote back, once each, exactly the classes whose flag word was not
zero, as all-zero blocks, and left the other blocks alone. -/
theorem ResetLimits_clears {s s' : Sys} (h : ResetLimits o s = .ok () s') :
    (∀ o' b s'', HasLimits o' s' = .ok b s'' → b = false ∧ ∀ l : Limit, l.IsSet s''.job = false) ∧
    (∃ s'', HasLimits .faithful s' = .ok false s'') ∧
    (∀ k, s'.os.infoPtr k =
      if 0 < s.os.flagWord k then ({} : JobInfo).infoPtr k else s.os.infoPtr k) ∧
    ∃ t, s'.trace = s.trace ++ t ∧
      ∀ k, t.count (.call (.SetInfo k)) = if 0 < s.os.flagWord k then 1 else 0 := by
  have h' := ResetLimits_ok o h
  have hos : ∀ k, s'.os.infoPtr k =
      if 0 < s.os.flagWord k then ({} : JobInfo).infoPtr k else s.os.infoPtr k := fun k => by
    simp only [h', performAll_setInfoEvents_os, mem_limitInfoClassesSet]
    split <;> simp [performAll_os_of_no_SetInfo (SetInfo_not_mem_queryEvents _)]
  have hzero : ∀ k, s'.os.flagWord k = 0 := fun k => by
    have hk := hos k
    split at hk
    · rw [JobInfo.flagWord_congr hk, JobInfo.flagWord_empty]
    · rw [JobInfo.flagWord_congr hk]; bv_omega
  have hnil : limitInfoClassesSet s'.os = [] := by
    rw [@limitInfoClassesSet_congr _ {} fun k => by rw [hzero, JobInfo.flagWord_empty]]; rfl
  refine ⟨fun o' b s'' hb => ?_, ⟨_, hnil ▸ HasLimits_of_ok .faithful
    ((runEvents_ok_iff _ _ s' _).mpr ⟨passesAll_faithful _ _, rfl⟩)⟩, hos,
    queryEvents limitClasses ++ setInfoEvents (limitInfoClassesSet s.os), by simp [h'], fun k => ?_⟩
  · obtain ⟨rfl, rfl⟩ := HasLimits_ok o' hb
    refine ⟨by simp [hnil], IsSet_of_flagWord_eq_zero fun k => ?_⟩
    rw [flagWord_performAll_queryEvents, hzero]
  · rw [List.count_append, List.count_eq_zero_of_not_mem (SetInfo_not_mem_queryEvents _ _),
      count_SetInfo_setInfoEvents, List.count_eq_of_nodup (nodup_limitInfoClassesSet _)]
    simp only [mem_limitInfoClassesSet, zero_add]

/-- `ResetLimits` on a job whose only limit is `LimitKillOnJobClose`. -/
theorem ResetLimits_clears_killOnJobClose :
    let s : Sys :=
      ⟨{ ExtendedLimits.BasicLimitInformation.LimitFlags := LimitKillOnJobClose }, {}, []⟩
    let s' := performAll (setInfoEvents (limitInfoClassesSet s.os))
      { performAll (queryEvents limitClasses) s with job := {} }
    ResetLimits .faithful s = .ok () s' ∧
    (∀ o' b s'', HasLimits o' s' = .ok b s'' → b = false ∧ ∀ l : Limit, l.IsSet s''.job = false) ∧
    (∃ s'', HasLimits .faithful s' = .ok false s'') ∧
    (∀ k, s'.os.infoPtr k =
      if 0 < s.os.flagWord k then ({} : JobInfo).infoPtr k else s.os.infoPtr k) ∧
    ∃ t, s'.trace = s.trace ++ t ∧
      ∀ k, t.count (.call (.SetInfo k)) = if 0 < s.os.flagWord k then 1 else 0 :=
  ⟨ResetLimits_faithful _, ResetLimits_clears .faithful (ResetLimits_faithful _)⟩

/-- **A failed `ResetLimits` fails cleanly.** -/
theorem ResetLimits_error {s s' : Sys} {err : SyscallError} (h : ResetLimits o s = .error err s') :
    FailsCleanly s s' err (limitInfoClassesSet s.os)
      (performAll (setInfoEvents (limitInfoClassesSet s.os))
        { performAll (queryEvents limitClasses) s with job := {} }) := by
  cases hq : runEvents o (queryEvents limitClasses) s with
  | error e s₁ =>
    rw [ResetLimits_of_error o hq] at h
    cases h
    obtain ⟨hname, hos, ht⟩ := runEvents_error_of_no_SetInfo (SetInfo_not_mem_queryEvents _) hq
    exact ⟨.inl hname, fun _ => ⟨hos, ht⟩, fun h => absurd (hname.symm.trans h) (by decide)⟩
  | ok u s₁ =>
    cases u
    rw [ResetLimits_of_ok o hq] at h
    obtain ⟨-, rfl⟩ := (runEvents_ok_iff o _ s s₁).mp hq
    obtain ⟨hname, hk⟩ := runEvents_setInfoEvents_error h
    refine ⟨.inr hname, fun h => absurd (hname.symm.trans h) (by decide), fun _ k => ?_⟩
    simpa [performAll_os_of_no_SetInfo (SetInfo_not_mem_queryEvents limitClasses) s] using hk k

/-- **A failed call fails cleanly.** When `SetLimit` or `ResetLimit` (`applyLimit`), or
`ResetLimits`, returns an error: if a query failed, the OS is as it was and no write-back
was issued; if a write-back failed, the blocks of the classes the call does not write are
as they were, and each block is as it was or as the call, run against a faithful OS, writes
it. -/
theorem failed_call_fails_cleanly (order : MapOrder JobObjectInformationClass) :
    (∀ set ls s s' err, applyLimit o order set ls s = .error err s' →
      ∃ sF, applyLimit .faithful order set ls s = .ok () sF ∧
        FailsCleanly s s' err (ls.map resolveRequiredInfoClass) sF) ∧
    (∀ s s' err, ResetLimits o s = .error err s' →
      ∃ sF, ResetLimits .faithful s = .ok () sF ∧
        FailsCleanly s s' err (limitInfoClassesSet s.os) sF) :=
  ⟨fun _ _ _ _ _ h => ⟨_, applyLimit_faithful order _, applyLimit_error o order h⟩,
    fun _ _ _ h => ⟨_, ResetLimits_faithful _, ResetLimits_error o h⟩⟩

/-- Every call failing with an invalid handle: `SetLimit(LimitKillOnJobClose)` and
`ResetLimits` both fail at their first query. -/
theorem failed_call_fails_cleanly_invalidHandle :
    let o : Oracle := fun _ _ => some ERROR_INVALID_HANDLE
    let order : MapOrder JobObjectInformationClass := ⟨id, fun _ => .refl _⟩
    let s : Sys := ⟨{}, {}, []⟩
    let s' : Sys := ⟨{}, {}, [.call (.QueryInfo .JobObjectExtendedLimitInformation)]⟩
    let err : SyscallError := ⟨"QueryInformationJobObject", ERROR_INVALID_HANDLE⟩
    applyLimit o order true [.basicLimit LimitKillOnJobClose] s = .error err s' ∧
    (∃ sF, applyLimit .faithful order true [.basicLimit LimitKillOnJobClose] s = .ok () sF ∧
      FailsCleanly s s' err [.JobObjectExtendedLimitInformation] sF) ∧
    ResetLimits o s = .error err s' ∧
    ∃ sF, ResetLimits .faithful s = .ok () sF ∧ FailsCleanly s s' err (limitInfoClassesSet s.os) sF :=
  have h := failed_call_fails_cleanly (fun _ _ => some ERROR_INVALID_HANDLE) ⟨id, fun _ => .refl _⟩
  ⟨rfl, h.1 _ _ _ _ _ rfl, rfl, h.2 _ _ _ rfl⟩

/-! ## Counters -/

/-- **What `QueryCounters` copies.** A successful `QueryCounters(c)` returns the OS's
accounting block with `TotalUserTime` in all four time fields and `OtherOperationCount` in
`OtherTransferCount`, whatever `c` held, and leaves the OS as it was. -/
theorem QueryCounters_ok {c c' : Winjob.Counters} {s s' : Sys}
    (h : QueryCounters o c s = .ok c' s') :
    let a := s.os.AccountingInfo
    c' = {
      TotalUserTime := a.TotalUserTime, TotalKernelTime := a.TotalUserTime,
      ThisPeriodTotalUserTime := a.TotalUserTime, ThisPeriodTotalKernelTime := a.TotalUserTime,
      TotalPageFaultCount := a.TotalPageFaultCount, TotalProcesses := a.TotalProcesses,
      ActiveProcesses := a.ActiveProcesses, TotalTerminatedProcesses := a.TotalTerminatedProcesses,
      ReadOperationCount := a.ReadOperationCount, WriteOperationCount := a.WriteOperationCount,
      OtherOperationCount := a.OtherOperationCount, ReadTransferCount := a.ReadTransferCount,
      WriteTransferCount := a.WriteTransferCount, OtherTransferCount := a.OtherOperationCount } ∧
    s'.os = s.os := by
  have hq' := sync_QueryInfo o [.JobObjectBasicAndIoAccountingInformation]
  cases hq : runEvents o (queryEvents [.JobObjectBasicAndIoAccountingInformation]) s with
  | error e s₁ => rw [QueryCounters, hq', bind_error hq] at h; cases h
  | ok u s₁ =>
    obtain ⟨-, rfl⟩ := (runEvents_ok_iff o _ s s₁).mp hq
    rw [QueryCounters, hq', bind_ok hq] at h
    cases h
    have ha := performAll_queryEvents_job [.JobObjectBasicAndIoAccountingInformation] s
      .JobObjectBasicAndIoAccountingInformation
    simp only [List.mem_singleton, ↓reduceIte, JobInfo.infoPtr] at ha
    exact ⟨by simp only [ha], performAll_os_of_no_SetInfo (SetInfo_not_mem_queryEvents _) s⟩

end JobObject

/-- **`Counters` mis-copies four fields.** On an accounting block whose fourteen fields are
`1` to `14`, `Counters()` reports `TotalKernelTime`, `ThisPeriodTotalUserTime` and
`ThisPeriodTotalKernelTime` as `1` (the block's `TotalUserTime`) and `OtherTransferCount`
as `11` (its `OtherOperationCount`). -/
theorem Counters_miscopies :
    let a : JOBOBJECT_BASIC_AND_IO_ACCOUNTING_INFORMATION :=
      { TotalUserTime := 1, TotalKernelTime := 2, ThisPeriodTotalUserTime := 3,
        ThisPeriodTotalKernelTime := 4, TotalPageFaultCount := 5, TotalProcesses := 6,
        ActiveProcesses := 7, TotalTerminatedProcesses := 8, ReadOperationCount := 9,
        WriteOperationCount := 10, OtherOperationCount := 11, ReadTransferCount := 12,
        WriteTransferCount := 13, OtherTransferCount := 14 }
    ∃ c s', JobObject.Counters .faithful ⟨{ AccountingInfo := a }, {}, []⟩ = .ok c s' ∧
      c.TotalKernelTime = 1 ∧ c.TotalKernelTime ≠ a.TotalKernelTime ∧
      c.ThisPeriodTotalUserTime = 1 ∧ c.ThisPeriodTotalUserTime ≠ a.ThisPeriodTotalUserTime ∧
      c.ThisPeriodTotalKernelTime = 1 ∧ c.ThisPeriodTotalKernelTime ≠ a.ThisPeriodTotalKernelTime ∧
      c.OtherTransferCount = 11 ∧ c.OtherTransferCount ≠ a.OtherTransferCount :=
  ⟨_, _, rfl, by decide⟩

end Winjob
