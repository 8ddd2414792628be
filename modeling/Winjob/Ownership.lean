import Winjob.Handles
import Winjob.Queries

set_option autoImplicit false

/-! # The handles a caller owns

A user of the package owns the jobs `Create` and `OpenWithAccess` return and the ports
`CreatePort` returns, and disposes of each with its `Close`. Here any sequence of calls of
the package's API runs against the OS on handles, and each call's effect on what the caller
owns is read off its result: the handle it handed over, the handle it closed, or none.

* `exec_live`: after one call the process holds what it held, with that effect applied.
* `exec_valid`: a handle handed over is not one the caller owns already, and a handle a
  `Close` closed is one it owned.
* `run_owned` (**no handle leaks**): along every run the process holds exactly the
  handles the caller was handed and has not closed, each once.
-/

namespace Winjob

/-- A call a user of the package makes. (`Open(name)` is `OpenWithAccess` with
`JOB_OBJECT_ALL_ACCESS`, `job.Terminate()` is `TerminateWithExitCode` with 1, and `Notify`
opens and owns its port as `CreatePort` does.) -/
inductive ApiCall where
  | Create (name : String) (limits : List Limit)
  | OpenWithAccess (name : String) (access : Nat)
  | Close (job : JobObject)
  | TerminateWithExitCode (job : JobObject) (exitCode : BitVec 32)
  | Assign (job : JobObject) (pid : Nat)
  | Contains (job : JobObject) (pid : Nat)
  | CreatePort (job : JobObject)
  | PortClose (port : Nat)

/-- What a call did to the handles its caller owns. -/
inductive Effect where
  | none
  | acquired (h : Nat)
  | released (h : Nat)
  deriving DecidableEq

namespace Effect

/-- The handles owned after the effect. -/
def apply : Effect → List Nat → List Nat
  | .none, held => held
  | .acquired h, held => h :: held
  | .released h, held => held.erase h

/-- An effect the caller can account for: a handle handed over is not one it owns, a handle
closed is one it owns. -/
def Valid (held : List Nat) : Effect → Prop
  | .none => True
  | .acquired h => h ∉ held
  | .released h => h ∈ held

/-- The effect of a call that hands its result's handle over on success. -/
def ofOpen {α : Type} (handle : α → Nat) : EStateM.Result GoError Handles α → Effect × Handles
  | .ok a hs => (.acquired (handle a), hs)
  | .error _ hs => (.none, hs)

/-- The effect of a call that closes `h` on success. -/
def ofClose (h : Nat) : EStateM.Result GoError Handles Unit → Effect × Handles
  | .ok () hs => (.released h, hs)
  | .error _ hs => (.none, hs)

/-- An effect that closes nothing is valid when it leaves each handle owned once. -/
theorem valid_of_nodup {e : Effect} {held : List Nat} (hne : ∀ h, e ≠ .released h)
    (hnd : (e.apply held).Nodup) : e.Valid held := by
  cases e with
  | none => trivial
  | acquired h => exact (List.nodup_cons.mp hnd).1
  | released h => exact absurd rfl (hne h)

theorem ofOpen_ne_released {α : Type} {handle : α → Nat} {r : EStateM.Result GoError Handles α}
    {h : Nat} : (ofOpen handle r).1 ≠ .released h := by
  rcases r with ⟨⟩ | ⟨⟩ <;> nofun

end Effect

variable (ho : HandleOracle) (o : Oracle) (order : MapOrder JobObjectInformationClass)

/-- One call, with its effect. -/
def ApiCall.exec : ApiCall → Handles → Effect × Handles
  | .Create name limits, hs => Effect.ofOpen (·.1.Handle) (Winjob.Create ho o order name limits hs)
  | .OpenWithAccess name access, hs =>
    Effect.ofOpen JobObject.Handle (Winjob.OpenWithAccess ho name access hs)
  | .Close job, hs => Effect.ofClose job.Handle (job.Close ho hs)
  | .TerminateWithExitCode job c, hs => (.none, HandleM.after (job.TerminateWithExitCode ho c hs))
  | .Assign job pid, hs => (.none, HandleM.after (job.Assign ho pid hs))
  | .Contains job pid, hs => (.none, HandleM.after (job.Contains ho pid hs))
  | .CreatePort job, hs =>
    match Winjob.CreatePort ho job hs with
    | ((p, none), hs') => (.acquired p, hs')
    | ((_, some _), hs') => (.none, hs')
  | .PortClose p, hs => Effect.ofClose p (Port.Close ho p hs)

/-- Calls made in order: their effects, and the handles after them. -/
def ApiCall.run : List ApiCall → Handles → List Effect × Handles
  | [], hs => ([], hs)
  | c :: cs, hs =>
    let r := c.exec ho o order hs
    let rs := ApiCall.run cs r.2
    (r.1 :: rs.1, rs.2)

/-- The handles owned after a list of effects. -/
def owned (held : List Nat) (es : List Effect) : List Nat := es.foldl (fun h e => e.apply h) held

/-- Every effect of the list is valid where it happens. -/
def ValidRun : List Nat → List Effect → Prop
  | _, [] => True
  | held, e :: es => e.Valid held ∧ ValidRun (e.apply held) es

/-! ## One call -/

section Exec

variable {hs : Handles}

/-- A call that hands a handle over on success, and otherwise leaves the handles alone,
holds what its effect says. -/
theorem ofOpen_live {α : Type} {handle : α → Nat} {r : EStateM.Result GoError Handles α}
    (hok : ∀ a hs', r = .ok a hs' → hs'.live = handle a :: hs.live)
    (herr : ∀ e hs', r = .error e hs' → hs'.live = hs.live) :
    (Effect.ofOpen handle r).2.live = (Effect.ofOpen handle r).1.apply hs.live := by
  rcases r with ⟨a, hs'⟩ | ⟨e, hs'⟩
  · exact hok a hs' rfl
  · exact herr e hs' rfl

theorem ofClose_CloseHandle (h : Nat) :
    (Effect.ofClose h (syscall.CloseHandle ho h hs)).2.live =
      (Effect.ofClose h (syscall.CloseHandle ho h hs)).1.apply hs.live ∧
    (Effect.ofClose h (syscall.CloseHandle ho h hs)).1.Valid hs.live := by
  rw [CloseHandle_eq]
  split_ifs with hh
  · exact ⟨rfl, hh⟩
  · exact ⟨rfl, trivial⟩

/-- **One call holds what its effect says.** -/
theorem exec_live (c : ApiCall) (hs : Handles) :
    (c.exec ho o order hs).2.live = (c.exec ho o order hs).1.apply hs.live := by
  cases c with
  | Create name limits =>
    refine ofOpen_live (fun a hs' h => (Create_ok ho h).1) fun e hs' h => (Create_error ho h).1
  | OpenWithAccess name access =>
    refine ofOpen_live (fun a hs' h => ?_) fun e hs' h => by rw [(OpenWithAccess_error ho h).2]
    obtain ⟨rfl, rfl⟩ := OpenWithAccess_ok ho h
    rfl
  | Close job => exact (ofClose_CloseHandle ho job.Handle).1
  | TerminateWithExitCode job c => exact plainCall_keepsLive ho _ _ hs
  | Assign job pid => exact Assign_live ho job pid hs
  | Contains job pid => exact Contains_live ho job pid hs
  | CreatePort job =>
    rcases hc : CreatePort ho job hs with ⟨⟨p, r⟩, hs'⟩
    have hlive := CreatePort_live ho hc
    cases r with
    | none => simpa only [ApiCall.exec, hc] using (hlive.1 rfl).1
    | some e => simpa only [ApiCall.exec, hc] using hlive.2 nofun
  | PortClose p => exact (ofClose_CloseHandle ho p).1

/-- **Every effect can be accounted for.** A handle handed over is new, because the process
holds every handle once; a handle a `Close` closed was open. -/
theorem exec_valid (c : ApiCall) (hs : Handles) :
    (c.exec ho o order hs).1.Valid hs.live := by
  have hnd : ((c.exec ho o order hs).1.apply hs.live).Nodup :=
    exec_live ho o order c hs ▸ (c.exec ho o order hs).2.nodup
  cases c
  case Close job => exact (ofClose_CloseHandle ho job.Handle).2
  case PortClose p => exact (ofClose_CloseHandle ho p).2
  -- the other calls close nothing, so only their new handle is to check
  all_goals refine Effect.valid_of_nodup (fun h => ?_) hnd
  case Create | OpenWithAccess => exact Effect.ofOpen_ne_released
  case CreatePort job =>
    simp only [ApiCall.exec]
    split <;> nofun
  all_goals nofun

end Exec

/-! ## Runs -/

/-- **No handle leaks.** Along every run of calls of the API, the process holds exactly the
handles the caller owned before, with those the calls handed over added and those its `Close`
calls closed removed, each once; every handle handed over was new, and every handle closed
was owned. -/
theorem run_owned (cs : List ApiCall) (hs : Handles) :
    (ApiCall.run ho o order cs hs).2.live = owned hs.live (ApiCall.run ho o order cs hs).1 ∧
      (owned hs.live (ApiCall.run ho o order cs hs).1).Nodup ∧
      ValidRun hs.live (ApiCall.run ho o order cs hs).1 := by
  induction cs generalizing hs with
  | nil => exact ⟨rfl, hs.nodup, trivial⟩
  | cons c cs ih =>
    obtain ⟨hl, hnd, hv⟩ := ih (c.exec ho o order hs).2
    rw [exec_live] at hl hnd hv
    exact ⟨hl, hnd, exec_valid ho o order c hs, hv⟩

/-- A job created, closed, then used: its `Close` releases what `Create` handed over. -/
example : (ApiCall.run ⟨fun _ _ => none, fun _ _ _ => false, fun _ => none, rfl⟩ .faithful
    ⟨id, fun _ => .refl _⟩ [.Create "" [], .Close ⟨"", 1⟩, .TerminateWithExitCode ⟨"", 1⟩ 1]
    ⟨[], 1, List.nodup_nil, nofun, nofun, Nat.one_pos⟩).1 = [.acquired 1, .released 1, .none] := by
  decide

end Winjob
