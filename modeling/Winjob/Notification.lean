import Winjob.Jobapi

set_option autoImplicit false

/-! # Completion port messages and `NextMessage`

The job posts a message to its completion port when certain events occur: a type and the
process it concerns. `NextMessage` waits for the next message with
`GetQueuedCompletionStatus` and relays it as a `Notification`: the name `notificationTypes`
gives its type, or the type's number in decimal when the package does not know it.

No two known types share a name and no name is a decimal number, so a notification tells the
message apart (`Port.notification_inj`).
-/

namespace Winjob


/-- The error `jobapi.GetQueuedCompletionStatus` returns: the code, wrapped by
`os.NewSyscallError`. -/
def jobapi.GetQueuedCompletionStatusError (e : Errno) : SyscallError :=
  ⟨"GetQueuedCompletionStatus", e⟩

/-! ## Messages and notifications -/

/-- `jobapi.CompletionPortMessage`: the type of a message of a completion port. -/
abbrev CompletionPortMessage := BitVec 32

def JOB_OBJECT_MSG_END_OF_JOB_TIME : CompletionPortMessage := 1
def JOB_OBJECT_MSG_END_OF_PROCESS_TIME : CompletionPortMessage := 2
def JOB_OBJECT_MSG_ACTIVE_PROCESS_LIMIT : CompletionPortMessage := 3
def JOB_OBJECT_MSG_ACTIVE_PROCESS_ZERO : CompletionPortMessage := 4
def JOB_OBJECT_MSG_NEW_PROCESS : CompletionPortMessage := 6
def JOB_OBJECT_MSG_EXIT_PROCESS : CompletionPortMessage := 7
def JOB_OBJECT_MSG_ABNORMAL_EXIT_PROCESS : CompletionPortMessage := 8
def JOB_OBJECT_MSG_PROCESS_MEMORY_LIMIT : CompletionPortMessage := 9
def JOB_OBJECT_MSG_JOB_MEMORY_LIMIT : CompletionPortMessage := 10
def JOB_OBJECT_MSG_NOTIFICATION_LIMIT : CompletionPortMessage := 11
def JOB_OBJECT_MSG_JOB_CYCLE_TIME_LIMIT : CompletionPortMessage := 12
def JOB_OBJECT_MSG_SILO_TERMINATED : CompletionPortMessage := 13

/-- `NotificationType`. -/
abbrev NotificationType := String

def NotificationEndOfJobTime : NotificationType := "EndOfJobTime"
def NotificationEndOfProcessTime : NotificationType := "EndOfProcessTime"
def NotificationActiveProcessLimit : NotificationType := "ActiveProcessLimit"
def NotificationActiveProcessZero : NotificationType := "ActiveProcessZero"
def NotificationNewProcess : NotificationType := "NewProcess"
def NotificationExitProcess : NotificationType := "ExitProcess"
def NotificationAbnormalExitProcess : NotificationType := "AbnormalExitProcess"
def NotificationProcessMemoryExit : NotificationType := "ProcessMemoryExit"
def NotificationJobMemoryLimit : NotificationType := "JobMemoryLimit"
def NotificationNotificationLimit : NotificationType := "NotificationLimit"
def NotificationJobCycleLimit : NotificationType := "JobCycleLimit"
def NotificationSiloTerminated : NotificationType := "SiloTerminated"

/-- `notificationTypes`: the name of each message type the package knows. -/
def notificationTypes : List (CompletionPortMessage × NotificationType) :=
  [(JOB_OBJECT_MSG_END_OF_JOB_TIME, NotificationEndOfJobTime),
    (JOB_OBJECT_MSG_END_OF_PROCESS_TIME, NotificationEndOfProcessTime),
    (JOB_OBJECT_MSG_ACTIVE_PROCESS_LIMIT, NotificationActiveProcessLimit),
    (JOB_OBJECT_MSG_ACTIVE_PROCESS_ZERO, NotificationActiveProcessZero),
    (JOB_OBJECT_MSG_NEW_PROCESS, NotificationNewProcess),
    (JOB_OBJECT_MSG_EXIT_PROCESS, NotificationExitProcess),
    (JOB_OBJECT_MSG_ABNORMAL_EXIT_PROCESS, NotificationAbnormalExitProcess),
    (JOB_OBJECT_MSG_PROCESS_MEMORY_LIMIT, NotificationProcessMemoryExit),
    (JOB_OBJECT_MSG_JOB_MEMORY_LIMIT, NotificationJobMemoryLimit),
    (JOB_OBJECT_MSG_NOTIFICATION_LIMIT, NotificationNotificationLimit),
    (JOB_OBJECT_MSG_JOB_CYCLE_TIME_LIMIT, NotificationJobCycleLimit),
    (JOB_OBJECT_MSG_SILO_TERMINATED, NotificationSiloTerminated)]

def resolveNotificationType (mType : CompletionPortMessage) : Option NotificationType :=
  notificationTypes.lookup mType

/-- `Notification`: a message of the port, as the package relays it. -/
structure Notification where
  /-- The field `Type`. -/
  type : NotificationType
  /-- The process the message concerns, `0` if none. -/
  PID : Int
  deriving DecidableEq

/-- The notification `NextMessage` returns for a dequeued message type and process id: the
name of the type, or its number printed by `%v` when the package does not know it. -/
def Port.notification (mType : CompletionPortMessage) (pid : BitVec 64) : Notification :=
  { type := (resolveNotificationType mType).getD (toString mType.toNat), PID := pid.toInt }

/-! ### Notifications tell messages apart

`NextMessage` names a message type the package knows by its name in `notificationTypes`, and
any other type by its number in decimal. No two known types share a name, and no name is a
decimal number, so a notification's type determines the message's (`Port.notification_inj`).
-/

/-- The number a list of decimal digits reads as. -/
def ofDigitChars (cs : List Char) : Nat := cs.foldl (fun n c => 10 * n + (c.toNat - '0'.toNat)) 0

theorem digitChar_toNat : ∀ d < 10, (Nat.digitChar d).toNat = d + 48 := by decide

theorem digitChar_isDigit : ∀ d < 10, (Nat.digitChar d).isDigit := by decide

/-- One step of core's decimal printer: the last digit goes in front of those already written. -/
theorem toDigitsCore_succ (fuel n : Nat) (ds : List Char) :
    Nat.toDigitsCore 10 (fuel + 1) n ds =
      if n / 10 = 0 then Nat.digitChar (n % 10) :: ds
      else Nat.toDigitsCore 10 fuel (n / 10) (Nat.digitChar (n % 10) :: ds) := rfl

theorem repr_data (n : Nat) : (Nat.repr n).data = Nat.toDigitsCore 10 (n + 1) n [] := rfl

theorem toDigitsCore_append (fuel n : Nat) (ds : List Char) :
    Nat.toDigitsCore 10 fuel n ds = Nat.toDigitsCore 10 fuel n [] ++ ds := by
  induction fuel generalizing n ds with
  | zero => rfl
  | succ fuel ih =>
    rw [toDigitsCore_succ, toDigitsCore_succ]
    split
    · rfl
    · rw [ih _ (_ :: ds), ih _ [_]]
      simp

/-- Reading back the digits `toDigitsCore` writes, when it has the fuel for all of them. -/
theorem ofDigitChars_toDigitsCore {fuel n : Nat} (h : n < fuel) :
    ofDigitChars (Nat.toDigitsCore 10 fuel n []) = n := by
  induction fuel generalizing n with
  | zero => omega
  | succ fuel ih =>
    have hd := digitChar_toNat (n % 10) (Nat.mod_lt n (by decide))
    rw [toDigitsCore_succ]
    split
    · simp [ofDigitChars]
      omega
    · rw [toDigitsCore_append, ofDigitChars, List.foldl_append, ← ofDigitChars, ih (by omega)]
      simp
      omega

/-- Two numbers with the same decimal text are equal. -/
theorem repr_injective : Function.Injective Nat.repr := fun m n h => by
  have := congrArg (fun s : String => ofDigitChars s.data) h
  simpa only [repr_data, ofDigitChars_toDigitsCore (Nat.lt_succ_self _)] using this

/-- The decimal text of a number is made of digits. -/
theorem isDigit_repr (n : Nat) : ∀ c ∈ (Nat.repr n).data, c.isDigit := by
  rw [repr_data]
  suffices ∀ fuel n, ∀ c ∈ Nat.toDigitsCore 10 fuel n [], c.isDigit from this _ _
  intro fuel
  induction fuel with
  | zero => exact fun _ _ h => nomatch h
  | succ fuel ih =>
    intro n
    have hd := digitChar_isDigit (n % 10) (Nat.mod_lt n (by decide))
    rw [toDigitsCore_succ]
    split
    · simpa using hd
    · rw [toDigitsCore_append]
      simp only [List.mem_append, List.mem_singleton]
      rintro c (hc | rfl)
      exacts [ih _ c hc, hd]

theorem mem_of_lookup_eq_some {a : CompletionPortMessage} {n : NotificationType} :
    ∀ {l : List (CompletionPortMessage × NotificationType)}, l.lookup a = some n → (a, n) ∈ l
  | [], h => nomatch h
  | (a', n') :: l, h => by
    rw [List.lookup_cons] at h
    split at h
    · rename_i he
      cases h
      rw [beq_iff_eq.mp he]
      exact .head _
    · exact .tail _ (mem_of_lookup_eq_some h)

/-- No two known types share a name, and no name is made of digits. -/
theorem notificationTypes_names :
    (∀ p ∈ notificationTypes, ∀ q ∈ notificationTypes, p.2 = q.2 → p.1 = q.1) ∧
      ∀ p ∈ notificationTypes, p.2.data.all Char.isDigit = false := by
  decide

theorem name_ne_repr {m : CompletionPortMessage} {n : NotificationType}
    (h : resolveNotificationType m = some n) (k : Nat) : n ≠ Nat.repr k := fun e => by
  have hn := notificationTypes_names.2 _ (mem_of_lookup_eq_some h)
  simp only [e, List.all_eq_false] at hn
  obtain ⟨c, hc, hnd⟩ := hn
  exact hnd (isDigit_repr k c hc)

/-- **Notifications tell messages apart.** Two dequeued messages give the same notification
exactly when they have the same type and the same process. -/
theorem Port.notification_inj {m m' : CompletionPortMessage} {p p' : BitVec 64} :
    Port.notification m p = Port.notification m' p' ↔ m = m' ∧ p = p' := by
  refine ⟨fun h => ?_, by rintro ⟨rfl, rfl⟩; rfl⟩
  simp only [Port.notification, Notification.mk.injEq] at h
  refine ⟨?_, BitVec.eq_of_toInt_eq h.2⟩
  have ht := h.1
  rcases hm : resolveNotificationType m with _ | n <;>
    rcases hm' : resolveNotificationType m' with _ | n' <;>
    simp only [hm, hm', Option.getD_none, Option.getD_some] at ht
  · exact BitVec.eq_of_toNat_eq (repr_injective ht)
  · exact absurd ht.symm (name_ne_repr hm' _)
  · exact absurd ht (name_ne_repr hm _)
  · exact notificationTypes_names.1 _ (mem_of_lookup_eq_some hm) _ (mem_of_lookup_eq_some hm') ht

end Winjob
