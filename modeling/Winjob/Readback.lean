import Winjob.Catalogue
import Winjob.Queries

set_option autoImplicit false

/-! # Setting catalogue limits and reading them back

A `SetLimit` or `ResetLimit` of limits of the catalogue leaves on the OS, for each class the
limits have, the limits of that class applied in order to its block, and every other block
alone. The OS after it is a list of writes to locations (`applyAll_toLimit`): a location no
limit writes keeps its value, and a location the last limit of an entry writes holds what
that limit wrote there (`read_applyAll_last`). `QueryLimits` copies the four limit blocks
back to the cache, so the cache then reads every limit back as its last `set` or `reset`
left it, and `HasLimits` then answers `true` (`HasLimits_after_SetLimit`). Limits of
distinct entries commute, so the order they are given in does not change the OS they leave;
and a call repeated, or retried after it failed, leaves what one successful call leaves
(`applyLimit_retry`).
-/

namespace Winjob

namespace Catalogue

variable (set : Bool)

/-- Limits of the catalogue applied in order are their writes in order. -/
theorem applyAll_toLimit (ls : List Catalogue) (job : JobInfo) :
    Limit.applyAll set (ls.map toLimit) job = Loc.writeAll (ls.flatMap (·.writes set)) job := by
  induction ls generalizing job with
  | nil => rfl
  | cons c ls ih =>
    rw [List.map_cons, Limit.applyAll_cons, ih, apply_eq_writeAll, List.flatMap_cons,
      Loc.writeAll_append]

/-- Limits of the catalogue applied twice are applied once. -/
theorem applyAll_applyAll (ls : List Catalogue) (job : JobInfo) :
    Limit.applyAll set (ls.map toLimit) (Limit.applyAll set (ls.map toLimit) job) =
      Limit.applyAll set (ls.map toLimit) job := by
  rw [applyAll_toLimit, applyAll_toLimit, Loc.writeAll_writeAll]

theorem local_toLimit (ls : List Catalogue) : ∀ l ∈ ls.map toLimit, l.Local set := by
  simp only [List.mem_map]
  rintro _ ⟨c, -, rfl⟩
  exact Limit.local_of_isDirect set c.isDirect_toLimit

/-- Limits of other entries do not write what an entry reads. -/
theorem not_mem_writes {e : Entry} {t : Loc} (ht : t ∈ e.reads) {ls : List Catalogue}
    (he : e ∉ ls.map entry) : t ∉ (ls.flatMap (·.writes set)).map Sigma.fst := by
  simp only [List.mem_map, List.mem_flatMap]
  rintro ⟨w, ⟨c, hc, hw⟩, rfl⟩
  exact Entry.reads_disjoint c.entry e (fun h => he (List.mem_map.mpr ⟨c, hc, h⟩)) _
    (writes_subset_reads set c w hw) ht

theorem read_applyAll_of_not_mem {e : Entry} {t : Loc} (ht : t ∈ e.reads) {ls : List Catalogue}
    (he : e ∉ ls.map entry) (job : JobInfo) :
    t.read (Limit.applyAll set (ls.map toLimit) job) = t.read job := by
  rw [applyAll_toLimit]
  exact Loc.read_writeAll_of_not_mem (not_mem_writes set ht he) job

/-- A location the last limit of an entry writes holds what that limit writes there,
whatever it was applied to. -/
theorem read_applyAll_last {pre post : List Catalogue} {c : Catalogue}
    (hc : c.entry ∉ post.map entry) {t : Loc} (ht : t ∈ (c.writes set).map Sigma.fst)
    (job job' : JobInfo) :
    t.read (Limit.applyAll set ((pre ++ c :: post).map toLimit) job) =
      t.read (c.toLimit.apply set job') := by
  have htr : t ∈ c.entry.reads := by
    obtain ⟨w, hw, rfl⟩ := List.mem_map.mp ht
    exact writes_subset_reads set c w hw
  rw [applyAll_toLimit, List.flatMap_append, List.flatMap_cons, Loc.writeAll_append,
    Loc.writeAll_append, Loc.read_writeAll_of_not_mem (not_mem_writes set htr hc),
    apply_eq_writeAll]
  exact Loc.read_writeAll_of_mem ht _ _

/-- Every entry of a list has a last limit in it. -/
theorem exists_last {ls : List Catalogue} {e : Entry} (he : e ∈ ls.map entry) :
    ∃ pre c post, ls = pre ++ c :: post ∧ c.entry = e ∧ e ∉ post.map entry := by
  induction ls with
  | nil => simp at he
  | cons c ls ih =>
    by_cases h : e ∈ ls.map entry
    · obtain ⟨pre, c', post, rfl, hc', hpost⟩ := ih h
      exact ⟨c :: pre, c', post, rfl, hc', hpost⟩
    · rw [List.map_cons, List.mem_cons] at he
      exact ⟨[], c, ls, rfl, (he.resolve_right h).symm, h⟩

/-- **Limits of distinct entries can be applied in any order.** -/
theorem applyAll_perm {ls ls' : List Catalogue} (hnd : (ls.map entry).Nodup) (hp : ls.Perm ls')
    (job : JobInfo) :
    Limit.applyAll set (ls.map toLimit) job = Limit.applyAll set (ls'.map toLimit) job := by
  refine (hp.map toLimit).foldl_eq' ?_ job
  simp only [List.mem_map]
  rintro _ ⟨c, hc, rfl⟩ _ ⟨c', hc', rfl⟩ z
  by_cases he : c.entry = c'.entry
  · rw [List.inj_on_of_nodup_map hnd hc hc' he]
  · exact apply_comm (Ne.symm he) set set z

/-- After limits of the catalogue are applied, each of them is set, or not set. -/
theorem IsSet_applyAll {ls : List Catalogue} {c : Catalogue} (hc : c ∈ ls) (job : JobInfo) :
    c.toLimit.IsSet (Limit.applyAll set (ls.map toLimit) job) = set := by
  obtain ⟨pre, c', post, rfl, he, hpost⟩ := exists_last (List.mem_map_of_mem entry hc)
  rw [IsSet_eq, ← he, read_applyAll_last set (he ▸ hpost) (setLoc_mem_writes set c') job {},
    ← IsSet_eq, IsSet_apply]

end Catalogue

namespace JobObject

/-- After `QueryLimits`, the cache holds at every location what the OS holds. -/
theorem read_QueryLimits (o : Oracle) {s s' : Sys} (h : QueryLimits o s = .ok () s')
    (t : Loc) : t.read s'.job = t.read s.os := by
  rw [QueryLimits_eq, runEvents_ok_iff] at h
  rw [h.2]
  refine Loc.read_congr ?_
  rw [performAll_queryEvents_job, if_pos (by cases t <;> simp [Loc.cls, limitClasses])]

variable (o : Oracle) (order : MapOrder JobObjectInformationClass) (set : Bool)

/-- **`SetLimit` and `ResetLimit` of catalogue limits.** The block of each class the limits
have becomes its block before with the limits of that class applied in order, and the block
of every other class is left alone. Every location no limit writes, and all that no location
covers, keep their values. -/
theorem applyLimit_catalogue {ls : List Catalogue} {s s' : Sys}
    (h : applyLimit o order set (ls.map Catalogue.toLimit) s = .ok () s') :
    (∀ k, s'.os.infoPtr k =
      if k ∈ (ls.map Catalogue.toLimit).map resolveRequiredInfoClass then
        (Limit.applyAll set ((ls.map Catalogue.toLimit).filter (resolveRequiredInfoClass · = k))
          s.os).infoPtr k
      else s.os.infoPtr k) ∧
    (∀ t : Loc, (∀ c ∈ ls, ∀ w ∈ c.writes set, w.1 ≠ t) → t.read s'.os = t.read s.os) ∧
    s'.os.rest = s.os.rest := by
  have hls := Catalogue.local_toLimit set ls
  rw [applyLimit_os o order hls h]
  refine ⟨fun k => ?_, fun t ht => ?_, ?_⟩
  · split
    · exact Limit.applyAll_infoPtr_filter hls _ k
    · exact Limit.applyAll_infoPtr_of_not_mem hls _ ‹_›
  · rw [Catalogue.applyAll_toLimit]
    refine Loc.read_writeAll_of_not_mem ?_ _
    simp only [List.mem_map, List.mem_flatMap]
    rintro ⟨w, ⟨c, hc, hw⟩, rfl⟩
    exact ht c hc w hw rfl
  · rw [Catalogue.applyAll_toLimit, Loc.rest_writeAll]

/-- The catalogue limits against an OS that holds `{}`: the affinity and the desktop
restriction, then the affinity again. -/
theorem applyLimit_catalogue_affinity :
    let ls : List Catalogue := [⟨.LimitAffinity, (1 : BitVec 64)⟩, ⟨.LimitDesktop, ()⟩,
      ⟨.LimitAffinity, (3 : BitVec 64)⟩]
    let order : MapOrder JobObjectInformationClass := ⟨id, fun _ => .refl _⟩
    let s : Sys := ⟨{}, {}, []⟩
    ∃ s', applyLimit .faithful order true (ls.map Catalogue.toLimit) s = .ok () s' ∧
    (∀ k, s'.os.infoPtr k =
      if k ∈ (ls.map Catalogue.toLimit).map resolveRequiredInfoClass then
        (Limit.applyAll true ((ls.map Catalogue.toLimit).filter (resolveRequiredInfoClass · = k))
          s.os).infoPtr k
      else s.os.infoPtr k) ∧
    (∀ t : Loc, (∀ c ∈ ls, ∀ w ∈ c.writes true, w.1 ≠ t) → t.read s'.os = t.read s.os) ∧
    s'.os.rest = s.os.rest :=
  ⟨_, applyLimit_faithful _ _, applyLimit_catalogue .faithful _ true (applyLimit_faithful _ _)⟩

/-- **Reading catalogue limits back.** After a `SetLimit` (`set = true`) or `ResetLimit` of
catalogue limits and a `QueryLimits`, every limit given is set, or not set; the last limit
of each entry reads back its value (a duration truncated, a CPU rate as its first mode,
whose bit is then the only mode bit of the control flags); and a limit of an entry not
given reads back as it did on the OS before. -/
theorem applyLimit_readBack (o' : Oracle) {ls : List Catalogue}
    (hmode : set = true → ∀ c ∈ ls, c.HasMode)
    {s s' s'' : Sys} (h : applyLimit o order set (ls.map Catalogue.toLimit) s = .ok () s')
    (hq : QueryLimits o' s' = .ok () s'') :
    (∀ c ∈ ls, c.toLimit.IsSet s''.job = set) ∧
    (set = true → ∀ pre c post, ls = pre ++ c :: post → c.entry ∉ post.map Catalogue.entry →
      c.entry.readBack s''.job = c.expected ∧
        c.toLimit.Value s''.job = c.entry.goValue true c.expected) ∧
    (set = true → ∀ pre (r : CPURate) post, ls = pre ++ ⟨.LimitCPU, r⟩ :: post →
      Entry.LimitCPU ∉ post.map Catalogue.entry →
      s''.job.CPURateControl.ControlFlags &&& (JOB_OBJECT_CPU_RATE_CONTROL_HARD_CAP |||
        JOB_OBJECT_CPU_RATE_CONTROL_WEIGHT_BASED ||| JOB_OBJECT_CPU_RATE_CONTROL_MIN_MAX_RATE) =
      if 0 < r.HardCap then JOB_OBJECT_CPU_RATE_CONTROL_HARD_CAP
      else if 0 < r.Weight then JOB_OBJECT_CPU_RATE_CONTROL_WEIGHT_BASED
      else if 0 < r.Max then JOB_OBJECT_CPU_RATE_CONTROL_MIN_MAX_RATE else 0) ∧
    (∀ c : Catalogue, c.entry ∉ ls.map Catalogue.entry →
      c.toLimit.IsSet s''.job = c.toLimit.IsSet s.os ∧
        c.toLimit.Value s''.job = c.toLimit.Value s.os ∧
        c.entry.readBack s''.job = c.entry.readBack s.os) := by
  have hos := applyLimit_os o order (Catalogue.local_toLimit set ls) h
  have hread : ∀ t : Loc, t.read s''.job = t.read (Limit.applyAll set (ls.map Catalogue.toLimit) s.os) :=
    fun t => hos ▸ read_QueryLimits o' hq t
  -- what the last limit `c` of its entry wrote can be read as `c` applied to anything
  have hlast : ∀ pre c post, ls = pre ++ c :: post → c.entry ∉ post.map Catalogue.entry →
      ∀ t ∈ (c.writes set).map Sigma.fst, t.read s''.job = t.read (c.toLimit.apply set {}) := by
    rintro pre c post rfl hc t ht
    rw [hread, Catalogue.read_applyAll_last set hc ht]
  refine ⟨fun c hc => ?_, ?_, ?_, fun c hc => ?_⟩
  · obtain ⟨pre, c', post, hls, he, hpost⟩ := Catalogue.exists_last (List.mem_map_of_mem _ hc)
    rw [Catalogue.IsSet_eq, ← he,
      hlast pre c' post hls (he ▸ hpost) _ (Catalogue.setLoc_mem_writes set c'),
      ← Catalogue.IsSet_eq, Catalogue.IsSet_apply]
  · rintro rfl pre c post hls hc
    have hrb : c.entry.readBack s''.job = c.expected := by
      rw [Entry.readBack_congr c.entry (fun t ht => hlast pre c post hls hc t
        (Catalogue.reads_subset_writes c (hmode rfl c (by simp [hls])) t ht)),
        Catalogue.readBack_set]
    have hset : c.toLimit.IsSet s''.job = true := by
      rw [Catalogue.IsSet_congr c (hlast pre c post hls hc _ (Catalogue.setLoc_mem_writes true c)),
        Catalogue.IsSet_apply]
    exact ⟨hrb, by rw [Catalogue.Value_eq, hset, hrb]⟩
  · rintro rfl pre r post hls hc
    have hflags : s''.job.CPURateControl.ControlFlags =
        (cpuLimit.set (LimitCPU.WithValue r) {}).CPURateControl.ControlFlags :=
      hlast pre ⟨.LimitCPU, r⟩ post hls hc .ControlFlags
        (Catalogue.setLoc_mem_writes true ⟨.LimitCPU, r⟩)
    rw [hflags]
    exact cpuLimit.set_modeBits _ {}
  · have hc' : ∀ t ∈ c.entry.reads, t.read s''.job = t.read s.os := fun t ht =>
      (hread t).trans (Catalogue.read_applyAll_of_not_mem set ht hc _)
    exact ⟨Catalogue.IsSet_congr c (hc' _ (List.mem_cons_self _ _)), Catalogue.Value_congr c hc',
      Entry.readBack_congr _ hc'⟩

/-- A CPU limit given twice, the second time as a hard cap, around a job time limit of 10 s
and 50 ns, set on an OS that holds `{}` and queried back. -/
theorem applyLimit_readBack_cpu :
    let ls : List Catalogue := [⟨.LimitCPU, { Min := 500, Max := 1000 }⟩,
      ⟨.LimitJobTime, Int64.ofInt 10000000050⟩, ⟨.LimitCPU, { HardCap := 500 }⟩]
    let order : MapOrder JobObjectInformationClass := ⟨id, fun _ => .refl _⟩
    let s : Sys := ⟨{}, {}, []⟩
    (true = true → ∀ c ∈ ls, c.HasMode) ∧
    ∃ s' s'', applyLimit .faithful order true (ls.map Catalogue.toLimit) s = .ok () s' ∧
      QueryLimits .faithful s' = .ok () s'' ∧
    (∀ c ∈ ls, c.toLimit.IsSet s''.job = true) ∧
    (true = true → ∀ pre c post, ls = pre ++ c :: post → c.entry ∉ post.map Catalogue.entry →
      c.entry.readBack s''.job = c.expected ∧
        c.toLimit.Value s''.job = c.entry.goValue true c.expected) ∧
    (true = true → ∀ pre (r : CPURate) post, ls = pre ++ ⟨.LimitCPU, r⟩ :: post →
      Entry.LimitCPU ∉ post.map Catalogue.entry →
      s''.job.CPURateControl.ControlFlags &&& (JOB_OBJECT_CPU_RATE_CONTROL_HARD_CAP |||
        JOB_OBJECT_CPU_RATE_CONTROL_WEIGHT_BASED ||| JOB_OBJECT_CPU_RATE_CONTROL_MIN_MAX_RATE) =
      if 0 < r.HardCap then JOB_OBJECT_CPU_RATE_CONTROL_HARD_CAP
      else if 0 < r.Weight then JOB_OBJECT_CPU_RATE_CONTROL_WEIGHT_BASED
      else if 0 < r.Max then JOB_OBJECT_CPU_RATE_CONTROL_MIN_MAX_RATE else 0) ∧
    (∀ c : Catalogue, c.entry ∉ ls.map Catalogue.entry →
      c.toLimit.IsSet s''.job = c.toLimit.IsSet s.os ∧
        c.toLimit.Value s''.job = c.toLimit.Value s.os ∧
        c.entry.readBack s''.job = c.entry.readBack s.os) :=
  ⟨fun _ => by decide, _, _, applyLimit_faithful _ _, QueryLimits_faithful _,
    applyLimit_readBack .faithful _ true .faithful (fun _ => by decide) (applyLimit_faithful _ _)
      (QueryLimits_faithful _)⟩

/-- **`HasLimits` sees what `SetLimit` set.** After a successful `SetLimit` of catalogue
limits, at least one, a `HasLimits` that succeeds answers `true`, whatever the OS fails and
whatever the cache held. -/
theorem HasLimits_after_SetLimit (o' : Oracle) {ls : List Catalogue} (hne : ls ≠ [])
    {s s' s'' : Sys} {b : Bool} (h : SetLimit o order (ls.map Catalogue.toLimit) s = .ok () s')
    (hb : HasLimits o' s' = .ok b s'') : b = true := by
  obtain ⟨-, rfl⟩ := HasLimits_ok o' hb
  obtain ⟨c, hc⟩ := List.exists_mem_of_ne_nil ls hne
  have hset := Catalogue.IsSet_applyAll true hc s.os
  rw [← applyLimit_os o order (Catalogue.local_toLimit true ls) h] at hset
  -- a limit is set, so the flag word of some class is not zero
  obtain ⟨k, hk⟩ : ∃ k, s'.os.flagWord k ≠ 0 := by
    by_contra! hz
    simp [IsSet_of_flagWord_eq_zero hz] at hset
  have hmem : k ∈ limitInfoClassesSet s'.os := (mem_limitInfoClassesSet _ _).mpr (by bv_omega)
  simpa using List.length_pos_of_mem hmem

/-- `SetLimit(WithKillOnJobClose())` on a job with no limits, then `HasLimits`, against a
faithful OS. -/
theorem HasLimits_after_SetLimit_killOnJobClose :
    let ls : List Catalogue := [⟨.LimitKillOnJobClose, ()⟩]
    let order : MapOrder JobObjectInformationClass := ⟨id, fun _ => .refl _⟩
    ∃ s' b s'', ls ≠ [] ∧
      SetLimit .faithful order (ls.map Catalogue.toLimit) ⟨{}, {}, []⟩ = .ok () s' ∧
      HasLimits .faithful s' = .ok b s'' ∧ b = true := by
  intro ls order
  obtain ⟨s', b, s'', h, hb⟩ : ∃ s' b s'',
      SetLimit .faithful order (ls.map Catalogue.toLimit) ⟨{}, {}, []⟩ = .ok () s' ∧
      HasLimits .faithful s' = .ok b s'' := ⟨_, _, _, rfl, rfl⟩
  exact ⟨s', b, s'', List.cons_ne_nil _ _, h, hb,
    HasLimits_after_SetLimit .faithful order .faithful (List.cons_ne_nil _ _) h hb⟩

/-- **The order of distinct catalogue limits does not matter.** Two successful `SetLimit`s
(or `ResetLimit`s) of limits of distinct entries, given in two orders, leave the same OS,
whatever order the classes are written back in. -/
theorem applyLimit_perm (o₁ o₂ : Oracle) (order₁ order₂ : MapOrder JobObjectInformationClass)
    {ls ls' : List Catalogue} (hnd : (ls.map Catalogue.entry).Nodup) (hp : ls.Perm ls')
    {s s₁ s₂ : Sys} (h₁ : applyLimit o₁ order₁ set (ls.map Catalogue.toLimit) s = .ok () s₁)
    (h₂ : applyLimit o₂ order₂ set (ls'.map Catalogue.toLimit) s = .ok () s₂) : s₁.os = s₂.os := by
  rw [applyLimit_os o₁ order₁ (Catalogue.local_toLimit set ls) h₁,
    applyLimit_os o₂ order₂ (Catalogue.local_toLimit set ls') h₂,
    Catalogue.applyAll_perm set hnd hp]

/-- The affinity and a CPU weight, set in both orders with the classes written back in two
orders, on an OS that holds `{}`. -/
theorem applyLimit_perm_swap :
    let ls : List Catalogue := [⟨.LimitAffinity, (1 : BitVec 64)⟩, ⟨.LimitCPU, { Weight := 7 }⟩]
    let order₁ : MapOrder JobObjectInformationClass := ⟨id, fun _ => .refl _⟩
    let order₂ : MapOrder JobObjectInformationClass := ⟨List.reverse, List.reverse_perm⟩
    let s : Sys := ⟨{}, {}, []⟩
    (ls.map Catalogue.entry).Nodup ∧ ls.Perm ls.reverse ∧
    ∃ s₁ s₂, applyLimit .faithful order₁ true (ls.map Catalogue.toLimit) s = .ok () s₁ ∧
      applyLimit .faithful order₂ true (ls.reverse.map Catalogue.toLimit) s = .ok () s₂ ∧
      s₁.os = s₂.os :=
  ⟨by decide, (List.reverse_perm _).symm, _, _, applyLimit_faithful _ _, applyLimit_faithful _ _,
    applyLimit_perm true .faithful .faithful _ _ (by decide) (List.reverse_perm _).symm
      (applyLimit_faithful _ _) (applyLimit_faithful _ _)⟩

/-! ## Repeating a call -/

/-- **`SetLimit` and `ResetLimit` can be repeated and retried.** After a call of limits of the
catalogue, successful or failed, against any OS, a successful call of the same limits, against
any OS and in any map order, leaves the OS holding what one successful call gives. A failed
call leaves each block as it was or as the call writes it, and the limits write each block the
same whichever of the two they find. -/
theorem applyLimit_retry {o o' : Oracle} {order order' : MapOrder JobObjectInformationClass}
    {set : Bool} {ls : List Catalogue} {s s' s'' : Sys}
    (h : applyLimit o order set (ls.map Catalogue.toLimit) s = .ok () s' ∨
      ∃ err, applyLimit o order set (ls.map Catalogue.toLimit) s = .error err s')
    (h' : applyLimit o' order' set (ls.map Catalogue.toLimit) s' = .ok () s'') :
    s''.os = Limit.applyAll set (ls.map Catalogue.toLimit) s.os := by
  have hloc := Catalogue.local_toLimit set ls
  rw [applyLimit_os o' order' hloc h']
  rcases h with h | ⟨err, h⟩
  · rw [applyLimit_os o order hloc h, Catalogue.applyAll_applyAll]
  · obtain ⟨hname, hq, hw⟩ := applyLimit_error o order h
    rcases hname with hn | hn
    · rw [(hq hn).1]
    -- a failed write-back: each block is the old one, or the one the call writes
    have hF := applyLimit_os .faithful order hloc (applyLimit_faithful order s)
    refine JobInfo.ext_infoPtr fun k => ?_
    rcases ((hw hn) k).2 with hk | hk
    · exact Limit.applyAll_infoPtr_congr hloc hk
    · rw [Limit.applyAll_infoPtr_congr hloc (hk.trans (by rw [hF])), Catalogue.applyAll_applyAll]

/-- `SetLimit(WithKillOnJobClose())` whose write-back fails, retried against a faithful OS. -/
theorem applyLimit_retry_killOnJobClose :
    let o : Oracle := fun _ c =>
      if c = .SetInfo .JobObjectExtendedLimitInformation then some ERROR_INVALID_HANDLE else none
    let order : MapOrder JobObjectInformationClass := ⟨id, fun _ => .refl _⟩
    let ls : List Catalogue := [⟨.LimitKillOnJobClose, ()⟩]
    ∃ s' s'', (applyLimit o order true (ls.map Catalogue.toLimit) ⟨{}, {}, []⟩ = .ok () s' ∨
        ∃ err, applyLimit o order true (ls.map Catalogue.toLimit) ⟨{}, {}, []⟩ = .error err s') ∧
      applyLimit .faithful order true (ls.map Catalogue.toLimit) s' = .ok () s'' ∧
      s''.os = Limit.applyAll true (ls.map Catalogue.toLimit) {} := by
  intro o order ls
  obtain ⟨err, s', h⟩ : ∃ err s',
      applyLimit o order true (ls.map Catalogue.toLimit) ⟨{}, {}, []⟩ = .error err s' :=
    ⟨_, _, rfl⟩
  exact ⟨s', _, .inr ⟨err, h⟩, applyLimit_faithful _ _,
    applyLimit_retry (.inr ⟨err, h⟩) (applyLimit_faithful _ _)⟩

end JobObject

/-! ## Time limits read back from ticks

The OS holds a time limit in 100-ns ticks, which another program may have set to any
`int64`. `LimitValue` multiplies the ticks by `timeFraction` in `int64`, so the product wraps
around once it leaves the range of `int64`. -/

/-- The ticks `t` times `timeFraction` in `int64`: `t * 100` brought into the range of
`int64`. That is `t * 100` exactly when it fits; a product in `[2^63, 2^64)` gives
`t * 100 - 2^64`, and one in `[-2^64, -2^63)` gives `t * 100 + 2^64`. -/
theorem Int64.mul_timeFraction_val (t : Int64) :
    (t * timeFraction).val = (t.val * 100).bmod (2 ^ 64) ∧
    ((t * timeFraction).val = t.val * 100 ↔ -2 ^ 63 ≤ t.val * 100 ∧ t.val * 100 < 2 ^ 63) ∧
      (2 ^ 63 ≤ t.val * 100 → t.val * 100 < 2 ^ 64 →
        (t * timeFraction).val = t.val * 100 - 2 ^ 64) ∧
      (-2 ^ 64 ≤ t.val * 100 → t.val * 100 < -2 ^ 63 →
        (t * timeFraction).val = t.val * 100 + 2 ^ 64) := by
  have hv : (t * timeFraction).val = (t.val * 100).bmod (2 ^ 64) := rfl
  refine ⟨hv, ?_⟩
  rw [hv, Int.bmod_def]
  split_ifs <;> omega

/-- **A job time limit read back from ticks.** `LimitJobTime.LimitValue` is the job's tick
count `t` times 100 brought into the range of `int64`: `t * 100` exactly when that fits,
`t * 100 - 2^64` for a product in `[2^63, 2^64)`, `t * 100 + 2^64` for one in
`[-2^64, -2^63)`. -/
theorem LimitJobTime.LimitValue_val (job : JobInfo) :
    let t := job.ExtendedLimits.BasicLimitInformation.PerJobUserTimeLimit.val
    (LimitJobTime.LimitValue job).val = (t * 100).bmod (2 ^ 64) ∧
    ((LimitJobTime.LimitValue job).val = t * 100 ↔ -2 ^ 63 ≤ t * 100 ∧ t * 100 < 2 ^ 63) ∧
      (2 ^ 63 ≤ t * 100 → t * 100 < 2 ^ 64 → (LimitJobTime.LimitValue job).val = t * 100 - 2 ^ 64) ∧
      (-2 ^ 64 ≤ t * 100 → t * 100 < -2 ^ 63 →
        (LimitJobTime.LimitValue job).val = t * 100 + 2 ^ 64) :=
  Int64.mul_timeFraction_val _

/-- **A process time limit read back from ticks**, as the job time limit is. -/
theorem LimitProcessTime.LimitValue_val (job : JobInfo) :
    let t := job.ExtendedLimits.BasicLimitInformation.PerProcessUserTimeLimit.val
    (LimitProcessTime.LimitValue job).val = (t * 100).bmod (2 ^ 64) ∧
    ((LimitProcessTime.LimitValue job).val = t * 100 ↔ -2 ^ 63 ≤ t * 100 ∧ t * 100 < 2 ^ 63) ∧
      (2 ^ 63 ≤ t * 100 → t * 100 < 2 ^ 64 →
        (LimitProcessTime.LimitValue job).val = t * 100 - 2 ^ 64) ∧
      (-2 ^ 64 ≤ t * 100 → t * 100 < -2 ^ 63 →
        (LimitProcessTime.LimitValue job).val = t * 100 + 2 ^ 64) :=
  Int64.mul_timeFraction_val _

/-- A job time limit of `2^57` ticks, set by another program, reads back as `-7 * 2^59` ns,
a negative duration, and one of `2^62` ticks reads back as `0`; and so does a process time
limit. -/
theorem LimitValue_ticks_wrap :
    let job (t : Int) : JobInfo := { ExtendedLimits := { BasicLimitInformation :=
      { PerJobUserTimeLimit := .ofInt t, PerProcessUserTimeLimit := .ofInt t } } }
    (Int64.ofInt (2 ^ 57)).val = 2 ^ 57 ∧
      (LimitJobTime.LimitValue (job (2 ^ 57))).val = -7 * 2 ^ 59 ∧
      (LimitProcessTime.LimitValue (job (2 ^ 57))).val = -7 * 2 ^ 59 ∧
      (Int64.ofInt (2 ^ 62)).val = 2 ^ 62 ∧
      (LimitJobTime.LimitValue (job (2 ^ 62))).val = 0 ∧
      (LimitProcessTime.LimitValue (job (2 ^ 62))).val = 0 := by
  intro job
  have h57 : (Int64.ofInt (2 ^ 57)).val = 2 ^ 57 := by decide
  have h62 : (Int64.ofInt (2 ^ 62)).val = 2 ^ 62 := by decide
  -- each read-back is the tick count times 100, brought into the range of `int64`
  refine ⟨h57, ?_, ?_, h62, ?_, ?_⟩
  · rw [(LimitJobTime.LimitValue_val _).1]; simp only [job, h57]; decide
  · rw [(LimitProcessTime.LimitValue_val _).1]; simp only [job, h57]; decide
  · rw [(LimitJobTime.LimitValue_val _).1]; simp only [job, h62]; decide
  · rw [(LimitProcessTime.LimitValue_val _).1]; simp only [job, h62]; decide

end Winjob
