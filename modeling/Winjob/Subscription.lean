import Winjob.Notification

set_option autoImplicit false

/-! # Subscriptions: `Close` against the dequeue loop

`Notify` associates a completion port with a job and starts the dequeue loop `notify` in a
goroutine: it waits on the port (`NextMessage`), sends each message on the caller's channel,
and on the first error calls `handlePortErr` and closes the channel. `Close` may be called at
any time, from any number of goroutines. Both `Close` and `handlePortErr` take `s.mu`; the
loop waits on the port without it.

A `Subscription` here is the struct's fields (the call of `Close` holding `mu`, `err`,
`closed`), whether the port handle is still valid, where each call of `Close` is, where the
loop is, and the channel: its capacity and the notifications sent on it and not yet
received. A step is one statement of `Close`, `notify` or `NextMessage`; `handlePortErr`
and `Err` hold the lock for all they do, so each is one step. The OS chooses what each
`CloseHandle` returns and how a wait ends: with a message while the handle is valid, with
`ErrAbandoned` once the handle was released during the wait, or with another error; a wait
begun on a released handle fails at once with `ERROR_INVALID_HANDLE`. The loop's `c <- m`
completes when the channel's buffer has room, or when the reader takes `m` from the loop
directly, the only way on an unbuffered channel. The reader takes the oldest buffered
notification first, when it likes, also after `close(c)`.

`releases` counts the successful `CloseHandle` calls, `Closer.late` records whether the
handle had been released when a call of `Close` began, and `dequeued` and `received` log the
messages the loop dequeued and the notifications the reader took: all are ghost state, read
only by statements. Every reachable state satisfies `Inv`: the handle is released at most
once, `closed` tells whether it was, `err` is what `handlePortErr` recorded (which is not
`nil` when the loop began its wait after `Close` had released the handle), and the reader
got the dequeued messages once each, in order, but for those in the buffer and the one being
sent. A release during the wait, on the other hand, ends the loop with `Err` returning `nil`
(`Close_during_wait_Err`).

No call of `Close` waits for the loop (`Close_returns`), and a call made after the release
returns `nil` without a second `CloseHandle` (`Close_releases_once`). The reader can
always take every notification the loop dequeued, also after the channel is closed
(`notify_delivers`), and once the channel is closed, `Err` keeps its answer
(`Err_after_close`). Once the handle is released, the loop, the OS and the reader take at
most `cap + 5` more steps, after which the loop has closed the channel and the reader has
taken everything (`loop_ends_after_release`).
-/

namespace Winjob

/-! ## The subscription -/

/-- Where a call of `Close` is. -/
inductive ClosePc where
  /-- Not called yet. -/
  | idle
  /-- At `s.mu.Lock()`. -/
  | lock
  /-- Holding the lock, at `if s.closed`. -/
  | checkClosed
  /-- Holding the lock, at `s.Port.Close()`. -/
  | closePort
  /-- Holding the lock, at `s.closed = true`. -/
  | setClosed
  /-- Returned `err`, after the deferred `Unlock`. -/
  | returned (err : Option Errno)
  deriving DecidableEq

/-- The places of `Close` that hold the lock. -/
def ClosePc.HoldsLock : ClosePc → Bool
  | .checkClosed | .closePort | .setClosed => true
  | _ => false

/-- A call of `Close`: where it is, and (ghost) whether the handle had been released when it
was made. -/
structure Closer where
  pc : ClosePc
  late : Bool
  deriving DecidableEq

/-- Where the dequeue loop `notify` is. -/
inductive NotifyPc where
  /-- At `s.Port.NextMessage()`. -/
  | next
  /-- In `GetQueuedCompletionStatus`, on a handle that was valid when the wait began. -/
  | waiting
  /-- At `c <- m`. -/
  | send (m : Notification)
  /-- At `s.handlePortErr(err)`. -/
  | handlePortErr (err : SyscallError)
  /-- Returned from `notify`; the deferred `close(c)` is next. -/
  | closeSink (err : SyscallError)
  /-- The channel is closed. -/
  | done (err : SyscallError)
  deriving DecidableEq

/-- What `handlePortErr` records, once the loop has run it: the error it ended on, unless
that is `ErrAbandoned`. -/
def NotifyPc.recorded : NotifyPc → Option SyscallError
  | .closeSink err | .done err => if err.Err = ErrAbandoned then none else some err
  | _ => none

/-- The notification the loop is sending, if any. -/
def NotifyPc.pending : NotifyPc → List Notification
  | .send m => [m]
  | _ => []

/-- The loop has closed the channel. -/
def NotifyPc.isDone : NotifyPc → Bool
  | .done _ => true
  | _ => false

/-- The steps the loop has left once the port handle is released: its `c <- m`, if it is
sending; the wait, or the call after it, fails; `handlePortErr` runs; the channel is
closed. -/
def NotifyPc.stepsLeft : NotifyPc → Nat
  | .send _ => 4
  | .next | .waiting => 3
  | .handlePortErr _ => 2
  | .closeSink _ => 1
  | .done _ => 0

/-- A `Subscription`, with the port handle, the goroutines that use it, and the channel given
to `Notify`. -/
structure Subscription where
  /-- The call of `Close` holding `mu`. -/
  mu : Option Nat
  err : Option SyscallError
  closed : Bool
  /-- The port handle is valid: no `CloseHandle` has released it. -/
  portOpen : Bool
  /-- The successful `CloseHandle` calls on the port handle (ghost). -/
  releases : Nat
  /-- The calls of `Close`, numbered. -/
  closers : Nat → Closer
  /-- The dequeue loop. -/
  loop : NotifyPc
  /-- The capacity of the channel. -/
  cap : Nat
  /-- The notifications sent on the channel and not yet received, oldest first. -/
  buffer : List Notification
  /-- The messages the loop dequeued, in order (ghost). -/
  dequeued : List (CompletionPortMessage × BitVec 64)
  /-- The notifications the reader of the channel received, in order (ghost). -/
  received : List Notification

namespace Subscription

/-- The subscription `Notify` returns for a channel of capacity `cap`, with its loop about to
wait. -/
def init (cap : Nat) : Subscription where
  mu := none
  err := none
  closed := false
  portOpen := true
  releases := 0
  closers := fun _ => ⟨.idle, false⟩
  loop := .next
  cap := cap
  buffer := []
  dequeued := []
  received := []

/-- `s.Err()`: `err`, read under the lock. -/
def Err (s : Subscription) : Option SyscallError := s.err

/-- The body of `s.handlePortErr(err)`, under the lock: an `ErrAbandoned` after `Close` is
dropped, any other error is recorded. -/
def handlePortErr (s : Subscription) (err : SyscallError) : Subscription :=
  { s with err := if err.Err = ErrAbandoned ∧ s.closed = true then s.err else some err }

/-- Call `i` of `Close` becomes `c`. -/
@[simps] def setCloser (s : Subscription) (i : Nat) (c : Closer) : Subscription :=
  { s with closers := Function.update s.closers i c }

/-- A step of a goroutine, or of the OS. -/
inductive Action where
  /-- A goroutine makes call `i` of `Close`. -/
  | call (i : Nat)
  | lock (i : Nat)
  | checkClosed (i : Nat)
  /-- `CloseHandle` in call `i` returns `r`; `none` is success. -/
  | closePort (i : Nat) (r : Option Errno)
  | setClosed (i : Nat)
  /-- The loop calls `GetQueuedCompletionStatus`. -/
  | nextMessage
  /-- A message arrives while the handle is valid. -/
  | dequeue (mType : CompletionPortMessage) (pid : BitVec 64)
  /-- The wait fails with `e`, which is not `ErrAbandoned`, while the handle is valid. -/
  | waitFails (e : Errno)
  /-- The wait ends with `ErrAbandoned`: the handle was released during it. -/
  | abandoned
  /-- The loop's `c <- m` puts `m` in the channel's buffer, which has room. -/
  | send
  /-- The reader of the channel takes the oldest buffered notification, or, the buffer
  empty, the one the loop is sending. -/
  | receive
  /-- The loop runs `handlePortErr`, once the lock is free. -/
  | handlePortErr
  /-- The deferred `close(c)`. -/
  | closeSink
  deriving DecidableEq

/-- One step; `none` when the action cannot be taken. -/
def step (s : Subscription) : Action → Option Subscription
  | .call i =>
    if (s.closers i).pc = .idle then some (s.setCloser i ⟨.lock, decide (0 < s.releases)⟩)
    else none
  | .lock i =>
    if (s.closers i).pc = .lock ∧ s.mu = none then
      some { s.setCloser i ⟨.checkClosed, (s.closers i).late⟩ with mu := some i }
    else none
  | .checkClosed i =>
    if (s.closers i).pc = .checkClosed then
      if s.closed then some { s.setCloser i ⟨.returned none, (s.closers i).late⟩ with mu := none }
      else some (s.setCloser i ⟨.closePort, (s.closers i).late⟩)
    else none
  | .closePort i none =>
    if (s.closers i).pc = .closePort then
      some { s.setCloser i ⟨.setClosed, (s.closers i).late⟩ with
        portOpen := false, releases := s.releases + 1 }
    else none
  | .closePort i (some e) =>
    if (s.closers i).pc = .closePort then
      some { s.setCloser i ⟨.returned (some e), (s.closers i).late⟩ with mu := none }
    else none
  | .setClosed i =>
    if (s.closers i).pc = .setClosed then
      some { s.setCloser i ⟨.returned none, (s.closers i).late⟩ with closed := true, mu := none }
    else none
  | .nextMessage =>
    if s.loop = .next then
      some { s with
        loop := if s.portOpen then .waiting
          else .handlePortErr (jobapi.GetQueuedCompletionStatusError ERROR_INVALID_HANDLE) }
    else none
  | .dequeue mType pid =>
    if s.loop = .waiting ∧ s.portOpen = true then
      some { s with
        loop := .send (Port.notification mType pid), dequeued := s.dequeued ++ [(mType, pid)] }
    else none
  | .waitFails e =>
    if s.loop = .waiting ∧ s.portOpen = true ∧ e ≠ ErrAbandoned then
      some { s with loop := .handlePortErr (jobapi.GetQueuedCompletionStatusError e) }
    else none
  | .abandoned =>
    if s.loop = .waiting ∧ s.portOpen = false then
      some { s with loop := .handlePortErr (jobapi.GetQueuedCompletionStatusError ErrAbandoned) }
    else none
  | .send =>
    match s.loop with
    | .send m =>
      if s.buffer.length < s.cap then some { s with loop := .next, buffer := s.buffer ++ [m] }
      else none
    | _ => none
  | .receive =>
    match s.buffer, s.loop with
    | m :: ms, _ => some { s with buffer := ms, received := s.received ++ [m] }
    | [], .send m => some { s with loop := .next, received := s.received ++ [m] }
    | [], _ => none
  | .handlePortErr =>
    match s.loop, s.mu with
    | .handlePortErr err, none => some { s.handlePortErr err with loop := .closeSink err }
    | _, _ => none
  | .closeSink =>
    match s.loop with
    | .closeSink err => some { s with loop := .done err }
    | _ => none

/-- The states some interleaving reaches from a subscription `Notify` returned. -/
inductive Reachable : Subscription → Prop
  | init (cap : Nat) : Reachable (init cap)
  | next {s s' : Subscription} (a : Action) : Reachable s → step s a = some s' → Reachable s'

/-- Actions taken in order; `none` when one cannot be taken. -/
def run (s : Subscription) : List Action → Option Subscription
  | [] => some s
  | a :: as => (step s a).bind (run · as)

theorem Reachable.run {s s' : Subscription} {as : List Action} (hs : Reachable s)
    (h : run s as = some s') : Reachable s' := by
  induction as generalizing s with
  | nil => cases h; exact hs
  | cons a as ih =>
    obtain ⟨s₁, h₁, h⟩ := Option.bind_eq_some.mp h
    exact ih (hs.next a h₁) h

theorem reachable_run_init {cap : Nat} {as : List Action} {s : Subscription}
    (h : run (init cap) as = some s) : Reachable s :=
  (Reachable.init cap).run h

theorem run_cons {s s' : Subscription} {a : Action} (h : step s a = some s') (as : List Action) :
    run s (a :: as) = run s' as := by
  simp only [run, h, Option.some_bind]

theorem run_append (as bs : List Action) (s : Subscription) :
    run s (as ++ bs) = (run s as).bind (run · bs) := by
  induction as generalizing s with
  | nil => rfl
  | cons a as ih =>
    simp only [List.cons_append, run]
    cases step s a <;> simp [ih]

/-! ## The invariant

The invariant of a call of `Close` reads only `mu`, `releases` and `closed`; the invariant
of the subscription is that of every call, with what holds of the lock, the handle, the
loop and the channel.
-/

/-- What a call of `Close` satisfies, given the holder of `mu`, the releases and `closed`. -/
structure CallInv (mu : Option Nat) (releases : Nat) (closed : Bool) (i : Nat) (c : Closer) :
    Prop where
  /-- It holds the lock exactly when `mu` names it. -/
  holds_iff : c.pc.HoldsLock = true ↔ mu = some i
  /-- At `CloseHandle`, the handle is not released yet. -/
  closePort : c.pc = .closePort → releases = 0
  /-- At `s.closed = true`, its `CloseHandle` released the handle and the flag is not set. -/
  setClosed : c.pc = .setClosed → releases = 1 ∧ closed = false
  /-- Holding the lock anywhere else, it sees `closed` set once the handle is released. -/
  closed_of_holds : mu = some i → c.pc ≠ .setClosed → releases = 1 → closed = true
  /-- Made after the release, it has not passed the check, or it returned `nil`. -/
  late : c.late = true → releases = 1 ∧
    (c.pc = .lock ∨ c.pc = .checkClosed ∨ c.pc = .returned none)

/-- What every reachable state satisfies. -/
structure Inv (s : Subscription) : Prop where
  calls : ∀ i, CallInv s.mu s.releases s.closed i (s.closers i)
  releases_le : s.releases ≤ 1
  /-- The handle is valid until the release. -/
  portOpen_iff : s.portOpen = true ↔ s.releases = 0
  releases_of_closed : s.closed = true → s.releases = 1
  /-- While the lock is free, `closed` is set once the handle is released. -/
  closed_of_free : s.mu = none → s.releases = 1 → s.closed = true
  /-- The loop gets `ErrAbandoned` only after the release. -/
  abandoned : ∀ err, s.loop = .handlePortErr err → err.Err = ErrAbandoned → s.releases = 1
  /-- `err` is what `handlePortErr` recorded. -/
  err_eq : s.err = s.loop.recorded
  /-- The buffer holds at most `cap` notifications. -/
  buffer_le : s.buffer.length ≤ s.cap
  /-- The reader received the dequeued messages in order, but for those in the buffer and
  the one being sent. -/
  delivery : s.received ++ s.buffer ++ s.loop.pending =
    s.dequeued.map fun p => Port.notification p.1 p.2

/-- After call `i` becomes `c`, every call has its invariant if `c` and the others have. -/
theorem CallInv.update {mu : Option Nat} {r : Nat} {cl : Bool} {f : Nat → Closer} {i : Nat}
    {c : Closer} (hc : CallInv mu r cl i c) (h : ∀ j, j ≠ i → CallInv mu r cl j (f j)) :
    ∀ j, CallInv mu r cl j (Function.update f i c j) :=
  (Function.forall_update_iff f (CallInv mu r cl)).mpr ⟨hc, h⟩

/-- A call outside the lock keeps its invariant while `mu` does not name it and no second
release happens. -/
theorem CallInv.of_free {mu mu' : Option Nat} {r r' : Nat} {cl cl' : Bool} {i : Nat}
    {c : Closer} (h : CallInv mu r cl i c) (hc : c.pc.HoldsLock = false) (hmu : mu' ≠ some i)
    (hr : r ≤ r') (hle : r' ≤ 1) : CallInv mu' r' cl' i c where
  holds_iff := by simp [hc, hmu]
  closePort hp := by simp [hp, ClosePc.HoldsLock] at hc
  setClosed hp := by simp [hp, ClosePc.HoldsLock] at hc
  closed_of_holds hm := absurd hm hmu
  late hl := ⟨by have := (h.late hl).1; omega, (h.late hl).2⟩

theorem Inv.init (cap : Nat) : Inv (init cap) where
  calls _ := ⟨by simp [Subscription.init, ClosePc.HoldsLock], nofun, nofun, nofun, nofun⟩
  releases_le := Nat.zero_le 1
  portOpen_iff := iff_of_true rfl rfl
  releases_of_closed := nofun
  closed_of_free _ := nofun
  abandoned _ := nofun
  err_eq := rfl
  buffer_le := Nat.zero_le _
  delivery := rfl

variable {s s' : Subscription} {a : Action}

theorem Inv.mu_eq (hi : Inv s) {i : Nat} (h : (s.closers i).pc.HoldsLock = true) :
    s.mu = some i :=
  (hi.calls i).holds_iff.mp h

/-- When the lock is taken, or when its holder `i` lets it go, the other calls keep their
invariant. -/
theorem Inv.others_of_lock (hi : Inv s) (hmu : s.mu = none) {i : Nat} :
    ∀ j, j ≠ i → CallInv (some i) s.releases s.closed j (s.closers j) := fun j hj =>
  (hi.calls j).of_free (by simpa [hmu] using (hi.calls j).holds_iff) (by simpa using Ne.symm hj)
    le_rfl hi.releases_le

theorem Inv.others_of_unlock (hi : Inv s) {i : Nat} (hmu : s.mu = some i) {cl : Bool} :
    ∀ j, j ≠ i → CallInv none s.releases cl j (s.closers j) := fun j hj =>
  (hi.calls j).of_free (by simpa [hmu, Ne.symm hj] using (hi.calls j).holds_iff) nofun le_rfl
    hi.releases_le

/-- Moving the loop keeps the invariant when its new place records what the old one did,
sends nothing, and holds `ErrAbandoned` only after the release. -/
theorem Inv.setLoop (hi : Inv s) {l₀ l : NotifyPc} (hs : s.loop = l₀)
    (hrec : l.recorded = l₀.recorded) (hpend : l.pending = l₀.pending)
    (hab : ∀ err, l = .handlePortErr err → err.Err = ErrAbandoned → s.releases = 1) :
    Inv { s with loop := l } :=
  { hi with
    abandoned := hab
    err_eq := hi.err_eq.trans (hs ▸ hrec.symm)
    delivery := hpend ▸ hs ▸ hi.delivery }

/-- **Every step keeps the invariant.** -/
theorem Inv.step (hi : Inv s) (h : step s a = some s') : Inv s' := by
  cases a with
  | call i =>
    simp only [step] at h
    split_ifs at h with hc
    cases h
    have hmu : s.mu ≠ some i := fun e => by
      simpa [hc, ClosePc.HoldsLock] using (hi.calls i).holds_iff.mpr e
    have hnew : CallInv s.mu s.releases s.closed i ⟨.lock, decide (0 < s.releases)⟩ :=
      ⟨by simpa [ClosePc.HoldsLock] using hmu, nofun, nofun, fun e => absurd e hmu,
        fun hl => ⟨by have := hi.releases_le; simp at hl; omega, .inl rfl⟩⟩
    exact { hi with calls := hnew.update fun j _ => hi.calls j }
  | lock i =>
    simp only [step] at h
    split_ifs at h with hc
    cases h
    have hnew : CallInv (some i) s.releases s.closed i ⟨.checkClosed, (s.closers i).late⟩ :=
      ⟨by simp [ClosePc.HoldsLock], nofun, nofun, fun _ _ hr => hi.closed_of_free hc.2 hr,
        fun hl => ⟨((hi.calls i).late hl).1, .inr (.inl rfl)⟩⟩
    exact { hi with calls := hnew.update (hi.others_of_lock hc.2), closed_of_free := nofun }
  | checkClosed i =>
    simp only [step] at h
    split_ifs at h with hc hcl <;> cases h
    all_goals have hmu := hi.mu_eq (by rw [hc]; rfl)
    · -- `closed` is set: return `nil`
      have hnew : CallInv none s.releases s.closed i ⟨.returned none, (s.closers i).late⟩ :=
        ⟨by simp [ClosePc.HoldsLock], nofun, nofun, nofun,
          fun hl => ⟨((hi.calls i).late hl).1, .inr (.inr rfl)⟩⟩
      exact { hi with
        calls := hnew.update (hi.others_of_unlock hmu)
        closed_of_free := fun _ _ => hcl }
    · -- `closed` is not set, so the handle is not released: go on to `CloseHandle`
      have hr0 : s.releases = 0 := Nat.lt_one_iff.mp (lt_of_le_of_ne hi.releases_le
        fun e => hcl ((hi.calls i).closed_of_holds hmu (by rw [hc]; nofun) e))
      have hnew : CallInv s.mu s.releases s.closed i ⟨.closePort, (s.closers i).late⟩ :=
        ⟨by simpa [ClosePc.HoldsLock] using hmu, fun _ => hr0, nofun,
          fun _ _ e => by simp [hr0] at e, fun hl => absurd ((hi.calls i).late hl).1 (by omega)⟩
      exact { hi with calls := hnew.update fun j _ => hi.calls j }
  | closePort i r =>
    simp only [step] at h
    rcases r with _ | e <;> simp only at h <;> split_ifs at h with hc <;> cases h
    all_goals
      have hmu := hi.mu_eq (by rw [hc]; rfl)
      have hr0 := (hi.calls i).closePort hc
    · -- success: the release
      have hcl : s.closed = false := by
        cases e : s.closed
        · rfl
        · have := hi.releases_of_closed e; omega
      have hnew : CallInv s.mu (s.releases + 1) s.closed i ⟨.setClosed, (s.closers i).late⟩ :=
        ⟨by simpa [ClosePc.HoldsLock] using hmu, nofun, fun _ => ⟨by omega, hcl⟩,
          fun _ h => absurd rfl h, fun hl => absurd ((hi.calls i).late hl).1 (by omega)⟩
      refine { hi with
        calls := hnew.update fun j hj => (hi.calls j).of_free ?_
          (by simpa [hmu] using Ne.symm hj) (by omega) (by omega)
        releases_le := by simp [hr0]
        portOpen_iff := by simp
        releases_of_closed := fun e => by simp [hcl] at e
        closed_of_free := fun e => absurd (hmu.symm.trans e) nofun
        abandoned := fun _ _ _ => by simp [hr0] }
      simpa [hmu, Ne.symm hj] using (hi.calls j).holds_iff
    · -- failure: return the error
      have hnew : CallInv none s.releases s.closed i ⟨.returned (some e), (s.closers i).late⟩ :=
        ⟨by simp [ClosePc.HoldsLock], nofun, nofun, nofun,
          fun hl => absurd ((hi.calls i).late hl).1 (by omega)⟩
      exact { hi with
        calls := hnew.update (hi.others_of_unlock hmu)
        closed_of_free := fun _ e => absurd e (by simp [hr0]) }
  | setClosed i =>
    simp only [step] at h
    split_ifs at h with hc
    cases h
    have hmu := hi.mu_eq (by rw [hc]; rfl)
    obtain ⟨hr1, -⟩ := (hi.calls i).setClosed hc
    have hnew : CallInv none s.releases true i ⟨.returned none, (s.closers i).late⟩ :=
      ⟨by simp [ClosePc.HoldsLock], nofun, nofun, nofun, fun _ => ⟨hr1, .inr (.inr rfl)⟩⟩
    exact { hi with
      calls := hnew.update (hi.others_of_unlock hmu)
      releases_of_closed := fun _ => hr1
      closed_of_free := fun _ _ => rfl }
  | nextMessage =>
    simp only [step] at h
    split_ifs at h with hc <;> cases h
    · exact hi.setLoop hc rfl rfl nofun
    · exact hi.setLoop hc rfl rfl fun _ hl he => by cases hl; exact absurd he (by decide)
  | dequeue mType pid =>
    simp only [step] at h
    split_ifs at h with hc
    cases h
    -- the message is logged and pending
    exact { hi with
      abandoned := nofun
      err_eq := hi.err_eq.trans (by rw [hc.1]; rfl)
      delivery := by rw [List.map_append, ← hi.delivery, hc.1]; simp [NotifyPc.pending] }
  | waitFails e =>
    simp only [step] at h
    split_ifs at h with hc
    cases h
    exact hi.setLoop hc.1 rfl rfl fun _ hl he => by cases hl; exact absurd he hc.2.2
  | abandoned =>
    simp only [step] at h
    split_ifs at h with hc
    cases h
    have hr1 : s.releases = 1 := by
      have h0 : s.releases ≠ 0 := fun e => by simpa [hc.2] using hi.portOpen_iff.mpr e
      have := hi.releases_le
      omega
    exact hi.setLoop hc.1 rfl rfl fun _ _ _ => hr1
  | send =>
    simp only [step] at h
    split at h
    · rename_i m hloop
      split_ifs at h with hlt
      cases h
      -- the notification being sent goes to the end of the buffer
      exact { hi with
        abandoned := nofun
        err_eq := hi.err_eq.trans (by rw [hloop]; rfl)
        buffer_le := by simpa using hlt
        delivery := by rw [← hi.delivery, hloop]; simp [NotifyPc.pending] }
    · cases h
  | receive =>
    simp only [step] at h
    split at h <;> cases h
    · -- the reader takes the oldest buffered notification
      rename_i hbuf
      exact { hi with
        buffer_le := by
          have := hi.buffer_le
          simp only [hbuf, List.length_cons] at this
          simp
          omega
        delivery := by rw [← hi.delivery, hbuf]; simp }
    · -- the buffer is empty: the reader takes the notification from the loop
      rename_i m hbuf hloop
      exact { hi with
        abandoned := nofun
        err_eq := hi.err_eq.trans (by rw [hloop]; rfl)
        delivery := by rw [← hi.delivery, hloop, hbuf]; simp [NotifyPc.pending] }
  | handlePortErr =>
    simp only [step] at h
    split at h
    · rename_i err hloop hmu
      cases h
      have hdel := hi.delivery
      rw [hloop] at hdel
      refine { hi with abandoned := nofun, err_eq := ?_, delivery := hdel }
      have hnone : s.err = none := hi.err_eq.trans (by rw [hloop]; rfl)
      by_cases he : err.Err = ErrAbandoned
      · -- the handle was released during the wait, and `closed` is set
        have := hi.closed_of_free hmu (hi.abandoned err hloop he)
        simp [handlePortErr, NotifyPc.recorded, he, this, hnone]
      · simp [handlePortErr, NotifyPc.recorded, he]
    · cases h
  | closeSink =>
    simp only [step] at h
    split at h
    · rename_i err hloop
      cases h
      exact hi.setLoop hloop rfl rfl nofun
    · cases h

theorem Reachable.inv {s : Subscription} (h : Reachable s) : Inv s := by
  induction h with
  | init cap => exact Inv.init cap
  | next _ _ hstep ih => exact ih.step hstep

/-- A step releases the handle or leaves it as it was: nothing makes it valid again. -/
theorem portOpen_step (h : step s a = some s') :
    s'.portOpen = s.portOpen ∨ s'.portOpen = false := by
  cases a <;> simp only [step] at h
  case closePort i r => cases r <;> simp only at h <;> split_ifs at h <;> cases h <;> simp
  all_goals split at h <;> (try split_ifs at h) <;> cases h <;> exact .inl rfl

/-! ## `Close` does not wait for the loop

A call of `Close` never waits for the loop, which may be blocked in its wait or on the
channel: it returns through steps of calls of `Close` alone, its own and those of the call
holding the lock (`Close_returns`). A call made after the release returns `nil`
(`Close_releases_once`).
-/

/-- The call of `Close` an action is a step of; `none` for the steps of the loop, of the OS
and of the reader. -/
def Action.closer : Action → Option Nat
  | .call i | .lock i | .checkClosed i | .closePort i _ | .setClosed i => some i
  | _ => none

/-- **Frame.** A step of call `i` of `Close` moves neither the loop nor another call. -/
theorem step_frame {i : Nat} (ha : a.closer = some i) (h : step s a = some s') :
    s'.loop = s.loop ∧ ∀ j, j ≠ i → s'.closers j = s.closers j := by
  cases a <;> cases ha
  case closePort r =>
    cases r <;> simp only [step] at h <;> split_ifs at h <;> cases h <;>
      exact ⟨rfl, fun j hj => Function.update_noteq hj _ _⟩
  all_goals
    simp only [step] at h
    split_ifs at h <;> cases h <;> exact ⟨rfl, fun j hj => Function.update_noteq hj _ _⟩

theorem run_frame {i : Nat} : ∀ {as : List Action} {s : Subscription},
    (∀ a ∈ as, a.closer = some i) → run s as = some s' →
      s'.loop = s.loop ∧ ∀ j, j ≠ i → s'.closers j = s.closers j
  | [], _, _, h => by cases h; exact ⟨rfl, fun _ _ => rfl⟩
  | a :: as, s, ha, h => by
    obtain ⟨s₁, h₁, h⟩ := Option.bind_eq_some.mp h
    obtain ⟨hl₁, hc₁⟩ := step_frame (ha a (.head _)) h₁
    obtain ⟨hl, hc⟩ := run_frame (fun b hb => ha b (.tail _ hb)) h
    exact ⟨hl.trans hl₁, fun j hj => (hc j hj).trans (hc₁ j hj)⟩

/-- A step changes at most one call of `Close`, to a place past the call, and only the call
itself sets `late`. -/
theorem closers_step (h : step s a = some s') :
    s'.closers = s.closers ∨ ∃ j c, s'.closers = Function.update s.closers j c ∧
      c.pc ≠ .idle ∧ (c.late = (s.closers j).late ∨ (s.closers j).pc = .idle) := by
  cases a <;> simp only [step] at h
  case call i => split_ifs at h with hc; cases h; exact .inr ⟨i, _, rfl, nofun, .inr hc⟩
  case closePort i r =>
    cases r <;> simp only at h <;> split_ifs at h <;> cases h <;>
      exact .inr ⟨i, _, rfl, nofun, .inl rfl⟩
  case lock i | checkClosed i | setClosed i =>
    split_ifs at h <;> cases h <;> exact .inr ⟨i, _, rfl, nofun, .inl rfl⟩
  all_goals split at h <;> (try split_ifs at h) <;> cases h <;> exact .inl rfl

/-- A call of `Close` once made stays made, and keeps whether it was made after the
release. -/
theorem late_step {i : Nat} (hc : (s.closers i).pc ≠ .idle) (h : step s a = some s') :
    (s'.closers i).pc ≠ .idle ∧ (s'.closers i).late = (s.closers i).late := by
  rcases closers_step h with he | ⟨j, c, he, hcp, hcl⟩
  · rw [he]; exact ⟨hc, rfl⟩
  · rw [he]
    by_cases hij : i = j
    · subst hij
      rw [Function.update_same]
      exact ⟨hcp, hcl.resolve_right hc⟩
    · rw [Function.update_noteq hij]
      exact ⟨hc, rfl⟩

theorem late_run {i : Nat} : ∀ {as : List Action} {s : Subscription},
    (s.closers i).pc ≠ .idle → run s as = some s' →
      (s'.closers i).pc ≠ .idle ∧ (s'.closers i).late = (s.closers i).late
  | [], _, hc, h => by cases h; exact ⟨hc, rfl⟩
  | a :: as, s, hc, h => by
    obtain ⟨s₁, h₁, h⟩ := Option.bind_eq_some.mp h
    obtain ⟨hc₁, hl₁⟩ := late_step hc h₁
    obtain ⟨hc', hl'⟩ := late_run hc₁ h
    exact ⟨hc', hl'.trans hl₁⟩

/-- The call holding the lock returns through its own steps, and lets the lock go. -/
theorem holder_returns {i : Nat} (h : (s.closers i).pc.HoldsLock = true) :
    ∃ as, (∀ a ∈ as, a.closer = some i) ∧ ∃ s', run s as = some s' ∧
      (∃ r, (s'.closers i).pc = .returned r) ∧ s'.mu = none := by
  cases hp : (s.closers i).pc with
  | checkClosed =>
    cases hc : s.closed
    · refine ⟨[.checkClosed i, .closePort i none, .setClosed i], by simp [Action.closer], ?_⟩
      simp [run, step, hp, hc]
    · refine ⟨[.checkClosed i], by simp [Action.closer], ?_⟩
      simp [run, step, hp, hc]
  | closePort =>
    refine ⟨[.closePort i none, .setClosed i], by simp [Action.closer], ?_⟩
    simp [run, step, hp]
  | setClosed =>
    refine ⟨[.setClosed i], by simp [Action.closer], ?_⟩
    simp [run, step, hp]
  | _ => simp [hp, ClosePc.HoldsLock] at h

/-- A call at `s.mu.Lock()` takes the free lock and returns. -/
theorem lock_returns {i : Nat} (hp : (s.closers i).pc = .lock) (hmu : s.mu = none) :
    ∃ as, (∀ a ∈ as, a.closer = some i) ∧ ∃ s', run s as = some s' ∧
      ∃ r, (s'.closers i).pc = .returned r := by
  obtain ⟨s₁, h₁, hl⟩ : ∃ s₁, step s (.lock i) = some s₁ ∧ (s₁.closers i).pc.HoldsLock = true := by
    simp [step, hp, hmu, ClosePc.HoldsLock]
  obtain ⟨as, has, s', h, hr, -⟩ := holder_returns hl
  exact ⟨.lock i :: as, List.forall_mem_cons.mpr ⟨rfl, has⟩, s', by rw [run_cons h₁]; exact h, hr⟩

/-- A call at `s.mu.Lock()` returns once the call holding the lock, if any, has. -/
theorem lock_waits_for_holder (hi : Inv s) {i : Nat} (hp : (s.closers i).pc = .lock) :
    ∃ as, (∀ a ∈ as, ∃ j, a.closer = some j ∧ (j = i ∨ s.mu = some j)) ∧
      ∃ s', run s as = some s' ∧ ∃ r, (s'.closers i).pc = .returned r := by
  cases hmu : s.mu with
  | none =>
    obtain ⟨as, has, h⟩ := lock_returns hp hmu
    exact ⟨as, fun a ha => ⟨i, has a ha, .inl rfl⟩, h⟩
  | some j =>
    have hj : (s.closers j).pc.HoldsLock = true := (hi.calls j).holds_iff.mpr hmu
    have hji : j ≠ i := by rintro rfl; simp [hp, ClosePc.HoldsLock] at hj
    obtain ⟨as, has, s₁, h₁, -, hmu₁⟩ := holder_returns hj
    obtain ⟨bs, hbs, h₂⟩ :=
      lock_returns ((congrArg Closer.pc ((run_frame has h₁).2 i hji.symm)).trans hp) hmu₁
    refine ⟨as ++ bs, fun a ha => ?_, by rw [run_append, h₁]; exact h₂⟩
    rcases List.mem_append.mp ha with ha | ha
    exacts [⟨j, has a ha, .inr rfl⟩, ⟨i, hbs a ha, .inl rfl⟩]

/-- Every call of `Close` returns through steps of calls of `Close` alone: its own, and those
of the call holding the lock. -/
theorem call_returns (hi : Inv s) (i : Nat) :
    ∃ as, (∀ a ∈ as, ∃ j, a.closer = some j ∧ (j = i ∨ s.mu = some j)) ∧
      ∃ s', run s as = some s' ∧ ∃ r, (s'.closers i).pc = .returned r := by
  cases hp : (s.closers i).pc with
  | idle =>
    -- the call is made, and waits at the lock
    obtain ⟨s₁, h₁, hp₁, hmu₁⟩ : ∃ s₁, step s (.call i) = some s₁ ∧
        (s₁.closers i).pc = .lock ∧ s₁.mu = s.mu := by simp [step, hp]
    obtain ⟨as, has, h⟩ := lock_waits_for_holder (hi.step h₁) hp₁
    refine ⟨.call i :: as, List.forall_mem_cons.mpr ⟨⟨i, rfl, .inl rfl⟩, ?_⟩, by rwa [run_cons h₁]⟩
    simpa only [hmu₁] using has
  | lock => exact lock_waits_for_holder hi hp
  | returned r => exact ⟨[], nofun, s, rfl, r, hp⟩
  | _ =>
    -- holding the lock
    obtain ⟨as, has, s', h, hr, -⟩ := holder_returns (by rw [hp]; rfl)
    exact ⟨as, fun a ha => ⟨i, has a ha, .inl rfl⟩, s', h, hr⟩

/-- **`Close` does not wait for the loop.** From every reachable state, a call of `Close`,
made then or earlier, returns through steps of calls of `Close` alone: its own, and those
of the call holding the lock. -/
theorem Close_returns {s : Subscription} (hs : Reachable s) (i : Nat) :
    ∃ as, (∀ a ∈ as, ∃ j, a.closer = some j ∧ (j = i ∨ s.mu = some j)) ∧
      ∃ s', run s as = some s' ∧ ∃ r, (s'.closers i).pc = .returned r :=
  call_returns hs.inv i

/-- Call 1 of `Close` waits at the lock that call 0 holds. -/
theorem Close_returns_waiting :
    let as : List Action := [.call 0, .lock 0, .call 1]
    ∃ s, run (init 1) as = some s ∧ Reachable s ∧
      ∃ bs, (∀ a ∈ bs, ∃ j, a.closer = some j ∧ (j = 1 ∨ s.mu = some j)) ∧
        ∃ s', run s bs = some s' ∧ ∃ r, (s'.closers 1).pc = .returned r := by
  intro as
  obtain ⟨s, h⟩ : ∃ s, run (init 1) as = some s := ⟨_, rfl⟩
  exact ⟨s, h, reachable_run_init h, Close_returns (reachable_run_init h) 1⟩

/-- Once the handle is released, no step calls `CloseHandle`: a call gets there holding the
lock, before the release. -/
theorem no_closePort_run : ∀ {as : List Action} {s s' : Subscription}, Reachable s →
    s.portOpen = false → run s as = some s' → ∀ a ∈ as, ∀ j r, a ≠ .closePort j r
  | [], _, _, _, _, _ => nofun
  | a :: as, s, s', hs, hp, h => by
    obtain ⟨s₁, h₁, h⟩ := Option.bind_eq_some.mp h
    rintro b (_ | ⟨_, hb⟩) j r rfl
    · -- `CloseHandle` is called at the place that needs the handle valid
      have hc : (s.closers j).pc = .closePort := by
        cases r <;> simp only [step] at h₁ <;> split_ifs at h₁ with hc <;> exact hc
      simpa [hp] using hs.inv.portOpen_iff.mpr ((hs.inv.calls j).closePort hc)
    · exact no_closePort_run (hs.next _ h₁) ((portOpen_step h₁).elim (·.trans hp) id) h _ hb j r rfl

/-- A call made after the release returns `nil`, and no `CloseHandle` is called on the way:
the calls of `Close` it waits for take it to its end, where the invariant leaves it no other
result. -/
theorem late_returns_nil {s : Subscription} (hs : Reachable s) {i : Nat}
    (hl : (s.closers i).late = true) :
    ∃ as, (∀ a ∈ as, ∃ j, a.closer = some j ∧ (j = i ∨ s.mu = some j)) ∧
      (∀ a ∈ as, ∀ j r, a ≠ .closePort j r) ∧
      ∃ s', run s as = some s' ∧ (s'.closers i).pc = .returned none := by
  obtain ⟨as, has, s', h, r, hr⟩ := call_returns hs.inv i
  have hrel := ((hs.inv.calls i).late hl).1
  have hidle : (s.closers i).pc ≠ .idle := by
    rcases ((hs.inv.calls i).late hl).2 with hp | hp | hp <;> rw [hp] <;> nofun
  have hl' : (s'.closers i).late = true := (late_run hidle h).2.trans hl
  have hp : s.portOpen = false := by simpa [hrel] using hs.inv.portOpen_iff
  refine ⟨as, has, no_closePort_run hs hp h, s', h, ?_⟩
  have hend := (((hs.run h).inv.calls i).late hl').2
  rw [hr] at hend ⊢
  simpa using hend

/-! ## `Close` and `Err` -/

/-- **`Close` releases the port once.** In every interleaving of calls of `Close` with the
loop, the handle is released by a successful `CloseHandle` at most once; `closed` is set
exactly when it was, but for the step between the release and `s.closed = true`, which the
releasing call takes holding the lock; `CloseHandle` is called only before the release; and
a call made after the release has not passed the check of `closed` or returned `nil`, and
returns `nil` through steps of calls of `Close` alone, its own and those of the call holding
the lock, none of which calls `CloseHandle`. -/
theorem Close_releases_once {s : Subscription} (hs : Reachable s) :
    s.releases ≤ 1 ∧
    (s.closed = true ↔ s.releases = 1 ∧ ∀ i, (s.closers i).pc ≠ .setClosed) ∧
    (∀ i r s', step s (.closePort i r) = some s' → s.releases = 0) ∧
    (∀ i, (s.closers i).late = true →
      ((s.closers i).pc = .lock ∨ (s.closers i).pc = .checkClosed ∨
        (s.closers i).pc = .returned none) ∧
      ∃ as, (∀ a ∈ as, ∃ j, a.closer = some j ∧ (j = i ∨ s.mu = some j)) ∧
        (∀ a ∈ as, ∀ j r, a ≠ .closePort j r) ∧
        ∃ s', run s as = some s' ∧ (s'.closers i).pc = .returned none) := by
  have hi := hs.inv
  refine ⟨hi.releases_le, ⟨fun hc => ⟨hi.releases_of_closed hc, fun i hp => ?_⟩,
    fun ⟨hr, hp⟩ => ?_⟩, fun i r s' h => ?_,
    fun i hl => ⟨((hi.calls i).late hl).2, late_returns_nil hs hl⟩⟩
  · simp [((hi.calls i).setClosed hp).2] at hc
  · cases hmu : s.mu with
    | none => exact hi.closed_of_free hmu hr
    | some j => exact (hi.calls j).closed_of_holds hmu (hp j) hr
  · cases r <;> simp only [step] at h <;> split_ifs at h with hc <;>
      exact (hi.calls i).closePort hc

/-- Two calls of `Close`, the second made after the first released the handle. -/
theorem Close_releases_once_twice :
    ∃ s, run (init 1) [.call 0, .lock 0, .checkClosed 0, .closePort 0 none, .setClosed 0,
      .call 1, .lock 1] = some s ∧ Reachable s ∧
    (s.releases ≤ 1 ∧
    (s.closed = true ↔ s.releases = 1 ∧ ∀ i, (s.closers i).pc ≠ .setClosed) ∧
    (∀ i r s', step s (.closePort i r) = some s' → s.releases = 0) ∧
    (∀ i, (s.closers i).late = true →
      ((s.closers i).pc = .lock ∨ (s.closers i).pc = .checkClosed ∨
        (s.closers i).pc = .returned none) ∧
      ∃ as, (∀ a ∈ as, ∃ j, a.closer = some j ∧ (j = i ∨ s.mu = some j)) ∧
        (∀ a ∈ as, ∀ j r, a ≠ .closePort j r) ∧
        ∃ s', run s as = some s' ∧ (s'.closers i).pc = .returned none)) := by
  obtain ⟨s, h⟩ : ∃ s, run (init 1) [.call 0, .lock 0, .checkClosed 0, .closePort 0 none,
      .setClosed 0, .call 1, .lock 1] = some s := ⟨_, rfl⟩
  exact ⟨s, h, reachable_run_init h, Close_releases_once (reachable_run_init h)⟩

/-- Once the loop has closed the channel, `Err` returns `nil` if the loop ended on
`ErrAbandoned`, and the error it ended on otherwise. -/
theorem Err_of_done {s : Subscription} (hs : Reachable s) {err : SyscallError}
    (h : s.loop = .done err) : s.Err = if err.Err = ErrAbandoned then none else some err := by
  rw [Err, hs.inv.err_eq, h]
  rfl

/-- A `Close` that completes before the loop's first wait: the wait begins on the released
handle and fails with `ERROR_INVALID_HANDLE`, which `handlePortErr` records. -/
theorem Close_before_wait_Err (cap : Nat) :
    ∃ s, run (init cap) [.call 0, .lock 0, .checkClosed 0, .closePort 0 none, .setClosed 0,
      .nextMessage, .handlePortErr, .closeSink] = some s ∧
      (s.closers 0).pc = .returned none ∧ s.closed = true ∧
      s.loop = .done (jobapi.GetQueuedCompletionStatusError ERROR_INVALID_HANDLE) ∧
      s.Err = some (jobapi.GetQueuedCompletionStatusError ERROR_INVALID_HANDLE) :=
  ⟨_, rfl, rfl, rfl, rfl, rfl⟩

/-- The loop waits on the released handle, or is ending on `ErrAbandoned`. -/
def EndsAbandoned (s : Subscription) : Prop :=
  s.portOpen = false ∧ (s.loop = .waiting ∨ ∃ err : SyscallError, err.Err = ErrAbandoned ∧
    (s.loop = .handlePortErr err ∨ s.loop = .closeSink err ∨ s.loop = .done err))

/-- Once the loop waits on the released handle, it can only end on `ErrAbandoned`: the
handle stays released, a message or another error needs a valid handle, and the loop does
not wait again. -/
theorem EndsAbandoned.step (he : EndsAbandoned s) (h : step s a = some s') : EndsAbandoned s' := by
  obtain ⟨hp, hl⟩ := he
  -- a step of a call of `Close`, or of the reader at the buffer, moves no part of the loop
  -- and releases nothing back
  have hclose : s'.loop = s.loop → s'.portOpen = false → EndsAbandoned s' := fun e p =>
    ⟨p, e ▸ hl⟩
  cases a with
  | call | lock | checkClosed | setClosed =>
    simp only [step] at h; split_ifs at h <;> cases h <;> exact hclose rfl hp
  | closePort i r =>
    rcases r with _ | e <;> simp only [step] at h <;> split_ifs at h <;> cases h
    · exact hclose rfl rfl
    · exact hclose rfl hp
  | nextMessage =>
    simp only [step] at h; split_ifs at h with hc <;> simp_all
  | dequeue | waitFails => simp only [step] at h; split_ifs at h with hc; simp_all
  | abandoned =>
    simp only [step] at h; split_ifs at h; cases h
    exact ⟨hp, .inr ⟨_, rfl, .inl rfl⟩⟩
  | send =>
    simp only [step] at h; split at h <;> (try split_ifs at h) <;> cases h; simp_all
  | receive =>
    simp only [step] at h; split at h <;> cases h
    · exact hclose rfl hp
    · simp_all
  | handlePortErr =>
    simp only [step] at h; split at h <;> cases h
    rename_i err hloop _
    obtain ⟨err', he, hl | hl | hl⟩ := hl.resolve_left (by simp [hloop]) <;> simp only [hloop,
      NotifyPc.handlePortErr.injEq, reduceCtorEq] at hl
    exact ⟨hp, .inr ⟨err, hl ▸ he, .inr (.inl rfl)⟩⟩
  | closeSink =>
    simp only [step] at h; split at h <;> cases h
    rename_i err hloop
    obtain ⟨err', he, hl | hl | hl⟩ := hl.resolve_left (by simp [hloop]) <;> simp only [hloop,
      NotifyPc.closeSink.injEq, reduceCtorEq] at hl
    exact ⟨hp, .inr ⟨err, hl ▸ he, .inr (.inr rfl)⟩⟩

theorem EndsAbandoned.run {as : List Action} {s₀ : Subscription} (he : EndsAbandoned s₀)
    (h : run s₀ as = some s) : EndsAbandoned s := by
  induction as generalizing s₀ with
  | nil => cases h; exact he
  | cons a as ih =>
    obtain ⟨s₁, h₁, h⟩ := Option.bind_eq_some.mp h
    exact ih (he.step h₁) h

/-- **`Close` during a wait: `Err` is `nil`.** When the handle is released while the loop
waits, the wait ends with `ErrAbandoned`, and once the loop has closed the channel `Err`
returns `nil`. -/
theorem Close_during_wait_Err {s₀ : Subscription} (hs : Reachable s₀) (hw : s₀.loop = .waiting)
    (hp : s₀.portOpen = false) {as : List Action} (h : run s₀ as = some s)
    (hd : s.loop.isDone = true) : s.Err = none := by
  obtain ⟨-, hl⟩ := (EndsAbandoned.run ⟨hp, .inl hw⟩ h)
  obtain ⟨err, he, hl | hl | hl⟩ := hl.resolve_left fun e => by simp [e, NotifyPc.isDone] at hd
  -- the loop has closed the channel, so it is past `handlePortErr` and `close(c)`
  iterate 2 · simp [hl, NotifyPc.isDone] at hd
  rw [Err_of_done (hs.run h) hl, if_pos he]

/-- A `Close` that releases the handle while the loop waits on it. -/
theorem Close_during_wait_Err_abandoned :
    let close : List Action :=
      [.call 0, .lock 0, .checkClosed 0, .nextMessage, .closePort 0 none, .setClosed 0]
    let ending : List Action := [.abandoned, .handlePortErr, .closeSink]
    ∃ s₀ s, run (init 1) close = some s₀ ∧ Reachable s₀ ∧ s₀.loop = .waiting ∧
      s₀.portOpen = false ∧ run s₀ ending = some s ∧ s.loop.isDone = true ∧ s.Err = none := by
  intro close ending
  obtain ⟨s₀, h₀, hw, hp, s, h, hd⟩ : ∃ s₀, run (init 1) close = some s₀ ∧ s₀.loop = .waiting ∧
      s₀.portOpen = false ∧ ∃ s, run s₀ ending = some s ∧ s.loop.isDone = true :=
    ⟨_, rfl, rfl, rfl, _, rfl, rfl⟩
  exact ⟨s₀, s, h₀, reachable_run_init h₀, hw, hp, h, hd,
    Close_during_wait_Err (reachable_run_init h₀) hw hp h hd⟩

/-- Once the loop has closed the channel, no step moves it, and `err` stays. -/
theorem done_step {err : SyscallError} (hl : s.loop = .done err) (h : step s a = some s') :
    s'.loop = .done err ∧ s'.err = s.err := by
  cases a <;> simp only [step] at h
  case closePort i r =>
    cases r <;> simp only at h <;> split_ifs at h <;> cases h <;> exact ⟨hl, rfl⟩
  case call | lock | checkClosed | setClosed => split_ifs at h <;> cases h <;> exact ⟨hl, rfl⟩
  -- the reader may still take what the buffer holds
  case receive =>
    split at h <;> cases h
    · exact ⟨hl, rfl⟩
    · simp_all
  -- the loop has no step left
  all_goals simp [hl] at h

theorem done_run {err : SyscallError} : ∀ {as : List Action} {s s' : Subscription},
    s.loop = .done err → run s as = some s' → s'.loop = .done err ∧ s'.err = s.err
  | [], _, _, hl, h => by cases h; exact ⟨hl, rfl⟩
  | a :: as, s, s', hl, h => by
    obtain ⟨s₁, h₁, h⟩ := Option.bind_eq_some.mp h
    obtain ⟨hl₁, he₁⟩ := done_step hl h₁
    obtain ⟨hl', he'⟩ := done_run hl₁ h
    exact ⟨hl', he'.trans he₁⟩

/-- **`Err` is settled once the channel is closed.** Along every run from a reachable state in
which the loop has closed the channel, whatever the calls of `Close` do, `Err` keeps
returning what it returned then: `nil` if the loop ended on `ErrAbandoned`, and the error it
ended on otherwise. -/
theorem Err_after_close {s : Subscription} (hs : Reachable s) {err : SyscallError}
    (hl : s.loop = .done err) {as : List Action} {s' : Subscription} (h : run s as = some s') :
    s'.Err = s.Err ∧ s'.Err = if err.Err = ErrAbandoned then none else some err := by
  have he : s'.Err = s.Err := (done_run hl h).2
  exact ⟨he, he.trans (Err_of_done hs hl)⟩

/-- A wait that failed ends the loop; a `Close` after it releases the handle. -/
theorem Err_after_close_waitFails :
    let ending : List Action := [.nextMessage, .waitFails 5, .handlePortErr, .closeSink]
    let close : List Action := [.call 0, .lock 0, .checkClosed 0, .closePort 0 none, .setClosed 0]
    let err := jobapi.GetQueuedCompletionStatusError 5
    ∃ s s', run (init 1) ending = some s ∧ Reachable s ∧ s.loop = .done err ∧
      run s close = some s' ∧
      s'.Err = s.Err ∧ s'.Err = if err.Err = ErrAbandoned then none else some err := by
  intro ending close err
  obtain ⟨s, h, hl, s', h'⟩ : ∃ s, run (init 1) ending = some s ∧ s.loop = .done err ∧
      ∃ s', run s close = some s' := ⟨_, rfl, rfl, _, rfl⟩
  exact ⟨s, s', h, reachable_run_init h, hl, h', Err_after_close (reachable_run_init h) hl h'⟩

/-! ## Delivery -/

/-- The reader takes what the buffer holds, oldest first, one `receive` each. -/
theorem run_receive_buffer (s : Subscription) :
    run s (List.replicate s.buffer.length .receive) =
      some { s with buffer := [], received := s.received ++ s.buffer } := by
  obtain ⟨ms, hb⟩ : ∃ ms, s.buffer = ms := ⟨_, rfl⟩
  induction ms generalizing s with
  | nil => rw [hb]; cases s; cases hb; simp [run]
  | cons m ms ih =>
    have h₁ : step s .receive = some { s with buffer := ms, received := s.received ++ [m] } := by
      simp only [step, hb]
    rw [hb, List.length_cons, List.replicate_succ, run_cons h₁, ih _ rfl]
    simp

/-- The reader takes what the buffer holds, then the notification the loop is sending. -/
theorem run_receive_all (s : Subscription) :
    ∃ s', run s (List.replicate (s.buffer.length + s.loop.pending.length) .receive) = some s' ∧
      s'.received = s.received ++ s.buffer ++ s.loop.pending := by
  rw [List.replicate_add, run_append, run_receive_buffer, Option.some_bind]
  cases hl : s.loop with
  | send m => simp [NotifyPc.pending, run, step, hl]
  | _ => exact ⟨_, rfl, by simp [NotifyPc.pending]⟩

/-- **The loop relays every message once, in order.** The reader has received the
notifications of the messages the loop dequeued, in the order of the port, but for those in
the channel's buffer, at most its capacity, and the one the loop is sending; and the reader
alone can take those, one `receive` each, and so have received them all, whether or not the
channel is closed. -/
theorem notify_delivers {s : Subscription} (hs : Reachable s) :
    s.received ++ s.buffer ++ s.loop.pending =
      s.dequeued.map (fun p => Port.notification p.1 p.2) ∧
    s.buffer.length ≤ s.cap ∧
    ∃ s', run s (List.replicate (s.buffer.length + s.loop.pending.length) .receive) = some s' ∧
      s'.received = s.dequeued.map fun p => Port.notification p.1 p.2 := by
  obtain ⟨s', h, hr⟩ := run_receive_all s
  exact ⟨hs.inv.delivery, hs.inv.buffer_le, s', h, hr.trans hs.inv.delivery⟩

/-- On a channel of capacity 1, a message is sent and not yet received when a failed wait
ends the loop and closes the channel. -/
theorem notify_delivers_unread :
    let as : List Action := [.nextMessage, .dequeue JOB_OBJECT_MSG_NEW_PROCESS 42, .send,
      .nextMessage, .waitFails 5, .handlePortErr, .closeSink]
    ∃ s, run (init 1) as = some s ∧ Reachable s ∧
      (s.received ++ s.buffer ++ s.loop.pending =
        s.dequeued.map (fun p => Port.notification p.1 p.2) ∧
      s.buffer.length ≤ s.cap ∧
      ∃ s', run s (List.replicate (s.buffer.length + s.loop.pending.length) .receive) = some s' ∧
        s'.received = s.dequeued.map fun p => Port.notification p.1 p.2) := by
  intro as
  obtain ⟨s, h⟩ : ∃ s, run (init 1) as = some s := ⟨_, rfl⟩
  exact ⟨s, h, reachable_run_init h, notify_delivers (reachable_run_init h)⟩

example : ∃ s, run (init 0) [.nextMessage, .dequeue JOB_OBJECT_MSG_NEW_PROCESS 42, .receive,
    .nextMessage, .dequeue 5 42, .receive] = some s ∧
    s.received = [⟨NotificationNewProcess, 42⟩, ⟨"5", 42⟩] :=
  ⟨_, rfl, rfl⟩

/-! ## The end of the loop

Once the port handle is released, the loop ends on it: whatever the OS and the other
goroutines do, the loop, the OS and the reader take at most `cap + 5` more steps (`stepsLeft`
bounds them and each of their steps lowers it), and once the call holding the lock has
returned they can take them, the reader emptying the buffer (`loop_ends_after_release`).
-/

/-- What the loop, the OS and the reader have left to do once the port handle is released:
the loop's own steps, and a `receive` for each notification sent, or being sent, that the
reader has not taken. -/
def stepsLeft (s : Subscription) : Nat :=
  s.loop.stepsLeft + s.loop.pending.length + s.buffer.length

/-- Once the handle is released, a step of the loop, of the OS or of the reader lowers
`stepsLeft`, and a step of `Close` leaves it. -/
theorem stepsLeft_step (hp : s.portOpen = false) (h : step s a = some s') :
    s'.stepsLeft + (if a.closer.isNone then 1 else 0) ≤ s.stepsLeft := by
  cases a <;> simp only [step] at h
  case closePort i r =>
    cases r <;> simp only at h <;> split_ifs at h <;> cases h <;> simp [Action.closer, stepsLeft]
  case call | lock | checkClosed | setClosed =>
    split_ifs at h <;> cases h <;> simp [Action.closer, stepsLeft]
  -- no message arrives and no wait fails on the released handle
  case dequeue | waitFails => split_ifs at h with hc; simp [hp] at hc
  case nextMessage | abandoned =>
    split_ifs at h <;> cases h <;>
      simp_all [Action.closer, stepsLeft, NotifyPc.stepsLeft, NotifyPc.pending]
    all_goals omega
  case send =>
    split at h <;> (try split_ifs at h) <;> cases h
    simp_all [Action.closer, stepsLeft, NotifyPc.stepsLeft, NotifyPc.pending]
    omega
  case receive =>
    split at h <;> cases h <;>
      simp_all [Action.closer, stepsLeft, NotifyPc.stepsLeft, NotifyPc.pending]
    all_goals omega
  case handlePortErr | closeSink =>
    split at h <;> cases h
    simp_all [Action.closer, stepsLeft, NotifyPc.stepsLeft, NotifyPc.pending, handlePortErr]
    omega

theorem stepsLeft_run : ∀ {as : List Action} {s s' : Subscription}, s.portOpen = false →
    run s as = some s' →
      s'.portOpen = false ∧
        as.countP (fun a => a.closer.isNone) + s'.stepsLeft ≤ s.stepsLeft
  | [], _, _, hp, h => by cases h; exact ⟨hp, by simp⟩
  | a :: as, s, s', hp, h => by
    obtain ⟨s₁, h₁, h⟩ := Option.bind_eq_some.mp h
    have hl₁ := stepsLeft_step hp h₁
    obtain ⟨hp', hl⟩ := stepsLeft_run ((portOpen_step h₁).elim (·.trans hp) id) h
    refine ⟨hp', ?_⟩
    rw [List.countP_cons]
    omega

/-- The buffer holds at most `cap` notifications, and the loop has at most five steps and
receives left. -/
theorem stepsLeft_le (hi : Inv s) : s.stepsLeft ≤ s.cap + 5 := by
  have hb := hi.buffer_le
  have hl : s.loop.stepsLeft + s.loop.pending.length ≤ 5 := by
    cases s.loop <;> simp [NotifyPc.stepsLeft, NotifyPc.pending]
  simp only [stepsLeft]
  omega

/-- With the handle released and the lock free, the reader empties the buffer and the loop
closes the channel. -/
theorem loop_closes (hp : s.portOpen = false) (hmu : s.mu = none) :
    ∃ as s', run s as = some s' ∧ s'.loop.isDone = true ∧ s'.buffer = [] := by
  -- the reader first takes what the buffer holds
  suffices h : ∀ s₁ : Subscription, s₁.portOpen = false → s₁.mu = none → s₁.buffer = [] →
      ∃ as s', run s₁ as = some s' ∧ s'.loop.isDone = true ∧ s'.buffer = [] by
    obtain ⟨as, s', h', hd⟩ := h { s with buffer := [], received := s.received ++ s.buffer } hp
      hmu rfl
    exact ⟨_ ++ as, s', by rw [run_append, run_receive_buffer, Option.some_bind]; exact h', hd⟩
  intro s hp hmu hb
  cases hl : s.loop with
  | next => exact ⟨[.nextMessage, .handlePortErr, .closeSink], by
      simp [run, step, hl, hp, hmu, handlePortErr, NotifyPc.isDone, hb]⟩
  | waiting => exact ⟨[.abandoned, .handlePortErr, .closeSink], by
      simp [run, step, hl, hp, hmu, handlePortErr, NotifyPc.isDone, hb]⟩
  | send m => exact ⟨[.receive, .nextMessage, .handlePortErr, .closeSink], by
      simp [run, step, hl, hp, hmu, handlePortErr, NotifyPc.isDone, hb]⟩
  | handlePortErr err => exact ⟨[.handlePortErr, .closeSink], by
      simp [run, step, hl, hp, hmu, handlePortErr, NotifyPc.isDone, hb]⟩
  | closeSink err => exact ⟨[.closeSink], by simp [run, step, hl, NotifyPc.isDone, hb]⟩
  | done err => exact ⟨[], s, rfl, by simp [hl, NotifyPc.isDone], hb⟩

/-- **The loop ends after the release.** Once the port handle is released, the loop, the OS
and the reader take at most `cap + 5` more steps along any run; and they can take steps
after which the loop has closed the channel and the reader has emptied the buffer, once the
call of `Close` holding the lock, if any, has returned. -/
theorem loop_ends_after_release {s : Subscription} (hs : Reachable s) (hp : s.portOpen = false) :
    (∀ as s', run s as = some s' → as.countP (fun a => a.closer.isNone) ≤ s.cap + 5) ∧
      ∃ as s', run s as = some s' ∧ s'.loop.isDone = true ∧ s'.buffer = [] := by
  refine ⟨fun as s' h => ?_, ?_⟩
  · have := (stepsLeft_run hp h).2
    have := stepsLeft_le hs.inv
    omega
  cases hmu : s.mu with
  | none => exact loop_closes hp hmu
  | some j =>
    -- the call holding the lock returns first
    obtain ⟨as, -, s₁, h₁, -, hmu₁⟩ := holder_returns ((hs.inv.calls j).holds_iff.mpr hmu)
    obtain ⟨bs, s', h₂, hd⟩ := loop_closes (stepsLeft_run hp h₁).1 hmu₁
    exact ⟨as ++ bs, s', by rw [run_append, h₁]; exact h₂, hd⟩

/-- A channel of capacity 1 holds a notification and the loop is blocked sending a second,
when call 0 of `Close` releases the handle, still holding the lock. -/
theorem loop_ends_after_release_fullBuffer :
    let as : List Action := [.nextMessage, .dequeue JOB_OBJECT_MSG_NEW_PROCESS 1, .send,
      .nextMessage, .dequeue JOB_OBJECT_MSG_NEW_PROCESS 2, .call 0, .lock 0, .checkClosed 0,
      .closePort 0 none]
    ∃ s, run (init 1) as = some s ∧ Reachable s ∧ s.portOpen = false ∧
      (∀ bs s', run s bs = some s' → bs.countP (fun a => a.closer.isNone) ≤ s.cap + 5) ∧
        ∃ bs s', run s bs = some s' ∧ s'.loop.isDone = true ∧ s'.buffer = [] := by
  intro as
  obtain ⟨s, h, hp⟩ : ∃ s, run (init 1) as = some s ∧ s.portOpen = false := ⟨_, rfl, rfl⟩
  exact ⟨s, h, reachable_run_init h, hp, loop_ends_after_release (reachable_run_init h) hp⟩

end Subscription

end Winjob
