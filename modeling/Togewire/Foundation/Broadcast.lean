import Mathlib.Data.List.Basic

/-!
# Broadcast channels with a bounded backlog

A channel is the list of everything sent on it, oldest first.  A receiver is a cursor into that
list: it yields messages in order, and one that falls further behind than the capacity skips to
the oldest message still held and is marked as lagged.  `Receiver.InStep` is the contract of a
receiver which has never lagged: what it has yielded and what is still ahead of it make up
exactly the messages sent since its subscription.
-/

namespace Broadcast

/-- A cursor into the messages of one channel. -/
structure Receiver (α : Type*) where
  /-- Number of messages sent before the subscription. -/
  start : Nat
  /-- Position of the next message to yield. -/
  next : Nat
  /-- Messages yielded so far, oldest first. -/
  received : List α
  /-- Whether the receiver ever fell behind the backlog and skipped messages. -/
  lagged : Bool
  deriving DecidableEq

namespace Receiver

variable {α : Type*}

/-- A receiver sees what is sent after its subscription. -/
def subscribe (sent : List α) : Receiver α :=
  { start := sent.length, next := sent.length, received := [], lagged := false }

/-- Yield the next message, or skip to the oldest one held after falling behind. -/
def recv (capacity : Nat) (sent : List α) (receiver : Receiver α) : Receiver α :=
  if capacity < sent.length - receiver.next then
    { receiver with next := sent.length - capacity, lagged := true }
  else
    match sent[receiver.next]? with
    | none => receiver
    | some message =>
        { receiver with next := receiver.next + 1, received := receiver.received ++ [message] }

/-- Messages sent and not yet yielded. -/
def pending (sent : List α) (receiver : Receiver α) : List α :=
  sent.drop receiver.next

/-- What a receiver has yielded and what is ahead of it are the messages since its start. -/
structure InStep (sent : List α) (receiver : Receiver α) : Prop where
  /-- The subscription lies within the channel's history. -/
  start_le : receiver.start ≤ sent.length
  /-- The receiver has not overtaken the channel. -/
  next_le : receiver.next ≤ sent.length
  /-- No message since the subscription is lost, repeated or reordered. -/
  complete : receiver.lagged = false →
    receiver.received ++ receiver.pending sent = sent.drop receiver.start

theorem inStep_subscribe (sent : List α) : InStep sent (subscribe sent) where
  start_le := Nat.le_refl _
  next_le := Nat.le_refl _
  complete _ := by simp [subscribe, pending]

@[simp] theorem recv_start (capacity : Nat) (sent : List α) (receiver : Receiver α) :
    (receiver.recv capacity sent).start = receiver.start := by
  unfold recv
  split
  · rfl
  · split <;> rfl

theorem received_prefix_recv (capacity : Nat) (sent : List α) (receiver : Receiver α) :
    receiver.received <+: (receiver.recv capacity sent).received := by
  unfold recv
  split
  · exact List.prefix_rfl
  · split
    · exact List.prefix_rfl
    · exact List.prefix_append _ _

/-- Yielding moves one message from the pending part to the received part. -/
theorem InStep.recv {sent : List α} {receiver : Receiver α} (capacity : Nat)
    (inStep : InStep sent receiver) : InStep sent (receiver.recv capacity sent) := by
  by_cases behind : capacity < sent.length - receiver.next
  · exact
      { start_le := by simpa using inStep.start_le
        next_le := by simp [Receiver.recv, behind]
        complete := by simp [Receiver.recv, behind] }
  · cases found : sent[receiver.next]? with
    | none => simpa [Receiver.recv, behind, found] using inStep
    | some message =>
        obtain ⟨bound, rfl⟩ := List.getElem?_eq_some_iff.mp found
        refine ⟨by simpa using inStep.start_le, ?_, ?_⟩
        · simpa [Receiver.recv, behind, found] using Nat.succ_le_of_lt bound
        · intro fresh
          have whole := inStep.complete (by simpa [Receiver.recv, behind, found] using fresh)
          rw [recv_start, ← whole, pending, pending, List.drop_eq_getElem_cons bound]
          simp [Receiver.recv, behind, found]

theorem InStep.send {sent : List α} {receiver : Receiver α} (message : α)
    (inStep : InStep sent receiver) : InStep (sent ++ [message]) receiver where
  start_le := Nat.le_trans inStep.start_le (by simp)
  next_le := Nat.le_trans inStep.next_le (by simp)
  complete := by
    intro fresh
    have whole := inStep.complete fresh
    simp only [pending] at whole ⊢
    rw [List.drop_append_of_le_length inStep.next_le,
      List.drop_append_of_le_length inStep.start_le, ← whole, List.append_assoc]

end Receiver

/-! ## Joining a channel through a bounded replay -/

/-- A tail of a sequence extends with the sequence. -/
theorem suffix_concat {α : Type*} {tail whole : List α} (message : α) (suffix : tail <:+ whole) :
    tail ++ [message] <:+ whole ++ [message] := by
  obtain ⟨front, rfl⟩ := suffix
  exact ⟨front, by simp⟩

/-- A listener handed a `replay` at position `start` of a channel misses nothing: the replay and
the messages since then spell the `opening` followed by a tail of the `items`, and the tail holds
every item sent since `start`. -/
def Joined {α : Type*} (opening items sent replay : List α) (start : Nat) : Prop :=
  ∃ run, run <:+ items ∧ items.drop (start - opening.length) <:+ run ∧
    replay ++ sent.drop start = opening ++ run

/-- Joining with the opening and a tail of the items sent so far. -/
theorem joined_of_replay {α : Type*} {opening items sent burst : List α}
    (whole : sent = opening ++ items) (tail : burst <:+ items) :
    Joined opening items sent (opening ++ burst) sent.length := by
  refine ⟨burst, tail, ?_, by simp⟩
  have passed : sent.length - opening.length = items.length := by simp [whole]
  rw [passed, List.drop_length]
  exact List.nil_suffix

/-- A listener which joined stays gap-free when an item is sent. -/
theorem Joined.send {α : Type*} {opening items sent replay : List α} {start : Nat} (item : α)
    (start_le : start ≤ sent.length) (joined : Joined opening items sent replay start) :
    Joined opening (items ++ [item]) (sent ++ [item]) replay start := by
  obtain ⟨run, tail, since, spelled⟩ := joined
  refine ⟨run ++ [item], suffix_concat item tail, ?_, ?_⟩
  · by_cases within : start - opening.length ≤ items.length
    · rw [List.drop_append_of_le_length within]
      exact suffix_concat item since
    · rw [List.drop_of_length_le (by simp; omega)]
      exact List.nil_suffix
  · rw [List.drop_append_of_le_length start_le, ← List.append_assoc, spelled, List.append_assoc]

/-- A listener which joined an untouched channel receives the opening as its first message. -/
theorem Joined.open {α : Type*} {replay : List α} {start : Nat} (opening : α)
    (start_le : start ≤ 0) (joined : Joined [] [] [] replay start) :
    Joined [opening] [] [opening] replay start := by
  obtain ⟨run, tail, -, spelled⟩ := joined
  obtain rfl := List.suffix_nil.mp tail
  obtain rfl : replay = [] := by simpa using spelled
  exact ⟨[], List.suffix_rfl, by simp, by simp [Nat.le_zero.mp start_le]⟩

/-! ## Listeners which may have lagged -/

/-- What a listener has been handed, lagged or not: a replay which stems from what was sent before
its subscription, and then messages since, in order and none twice. -/
structure Heard {α : Type*} (sent lead : List α) (receiver : Receiver α) : Prop where
  /-- The cursor is not before the subscription. -/
  started : receiver.start ≤ receiver.next
  /-- The receiver has not overtaken the channel. -/
  within : receiver.next ≤ sent.length
  /-- The replay is part of what was sent before the subscription. -/
  replayed : lead.Sublist (sent.take receiver.start)
  /-- What was yielded is part of what the cursor has passed. -/
  yielded : receiver.received.Sublist ((sent.take receiver.next).drop receiver.start)

namespace Heard

variable {α : Type*} {sent lead : List α} {receiver : Receiver α}

/-- A replay at the time of the subscription. -/
theorem subscribe (replayed : lead.Sublist sent) : Heard sent lead (Receiver.subscribe sent) where
  started := Nat.le_refl _
  within := Nat.le_refl _
  replayed := by simpa [Receiver.subscribe] using replayed
  yielded := by simp [Receiver.subscribe]

theorem append (heard : Heard sent lead receiver) (later : List α) :
    Heard (sent ++ later) lead receiver := by
  have started := heard.started
  have within := heard.within
  refine ⟨started, by simp; omega, ?_, ?_⟩
  · rw [List.take_append_of_le_length (by omega)]
    exact heard.replayed
  · rw [List.take_append_of_le_length within]
    exact heard.yielded

theorem skip (heard : Heard sent lead receiver) {next : Nat} (later : receiver.next ≤ next)
    (within : next ≤ sent.length) :
    Heard sent lead { receiver with next := next, lagged := true } where
  started := Nat.le_trans heard.started later
  within := within
  replayed := heard.replayed
  yielded := by
    have longer : (sent.take receiver.next).Sublist (sent.take next) :=
      List.take_sublist_take_left later
    exact heard.yielded.trans (longer.drop receiver.start)

theorem yield (heard : Heard sent lead receiver) (bound : receiver.next < sent.length) :
    Heard sent lead
      { receiver with
        next := receiver.next + 1
        received := receiver.received ++ [sent[receiver.next]] } where
  started := Nat.le_succ_of_le heard.started
  within := bound
  replayed := heard.replayed
  yielded := by
    have started := heard.started
    have grown : (sent.take (receiver.next + 1)).drop receiver.start =
        (sent.take receiver.next).drop receiver.start ++ [sent[receiver.next]] := by
      rw [List.take_add_one, List.getElem?_eq_getElem bound, Option.toList_some,
        List.drop_append_of_le_length (by simp; omega)]
    rw [grown]
    exact heard.yielded.append (List.Sublist.refl _)

theorem recv (heard : Heard sent lead receiver) (capacity : Nat) :
    Heard sent lead (receiver.recv capacity sent) := by
  unfold Receiver.recv
  split
  · rename_i behind
    exact heard.skip (by omega) (by omega)
  · cases found : sent[receiver.next]? with
    | none => exact heard
    | some message =>
        obtain ⟨bound, rfl⟩ := List.getElem?_eq_some_iff.mp found
        exact heard.yield bound

/-- What was yielded was sent after the subscription. -/
theorem received_sublist (heard : Heard sent lead receiver) :
    receiver.received.Sublist (sent.drop receiver.start) :=
  heard.yielded.trans ((List.take_sublist _ _).drop _)

/-- A listener is handed messages of the channel in order and none twice. -/
theorem sublist (heard : Heard sent lead receiver) : (lead ++ receiver.received).Sublist sent := by
  have whole := heard.replayed.append heard.received_sublist
  rwa [List.take_append_drop] at whole

end Heard

/-- A listener which has caught up was handed the last message last. -/
def Recent {α : Type*} (sent : List α) (receiver : Receiver α) : Prop :=
  receiver.next = sent.length → receiver.start < sent.length →
    receiver.received.getLast? = sent.getLast?

namespace Recent

variable {α : Type*} {sent : List α} {receiver : Receiver α}

theorem subscribe (sent : List α) : Recent sent (Receiver.subscribe sent) :=
  fun _ earlier => absurd earlier (Nat.lt_irrefl _)

/-- Whoever has caught up is behind again once something is sent. -/
theorem send (within : receiver.next ≤ sent.length) (message : α) :
    Recent (sent ++ [message]) receiver := by
  intro caught_up
  rw [List.length_append, List.length_singleton] at caught_up
  omega

theorem recv (recent : Recent sent receiver) {capacity : Nat} (some_room : 0 < capacity) :
    Recent sent (receiver.recv capacity sent) := by
  unfold Receiver.recv
  split
  · rename_i behind
    intro caught_up
    simp only at caught_up
    omega
  · cases found : sent[receiver.next]? with
    | none => exact recent
    | some message =>
        obtain ⟨bound, rfl⟩ := List.getElem?_eq_some_iff.mp found
        intro caught_up _
        have last : sent.length - 1 = receiver.next := by
          simp only at caught_up
          omega
        simp [List.getLast?_eq_getElem?, last]

/-- The last message since the subscription, if there is one. -/
theorem getLast?_eq (recent : Recent sent receiver) {lead : List α}
    (heard : Heard sent lead receiver) (caught_up : receiver.next = sent.length) :
    receiver.received.getLast? = (sent.drop receiver.start).getLast? := by
  rw [List.getLast?_drop]
  split
  · rename_i late
    have nothing := heard.received_sublist
    rw [List.drop_of_length_le late] at nothing
    rw [List.sublist_nil.mp nothing]
    rfl
  · exact recent caught_up (by omega)

end Recent

end Broadcast
