import Togewire.Stream.Manager

/-!
# Listeners which fall behind

A listener that falls further behind than the backlog skips ahead, so what it hears has gaps.  It
never hears a message of another generation, one out of order, or one twice, and it begins with the
header pages unless it attached before there were any and then fell behind.
-/

namespace Togewire.Stream.Station

open Broadcast Transition

/-- A listener has been handed messages of its own generation, from the headers on. -/
structure Follows (manager : Manager) (listener : Listener) : Prop where
  attached : listener.generation ≤ manager.generation
  heard : Heard (manager.pipes listener.generation).sent listener.lead listener.receiver
  opening : ∀ first, listener.lead.head? = some first →
    (manager.producers listener.generation).headers = some first

/-- A change of the manager keeps a generation when it only sends more on its pipe, and leaves its
headers alone once they are set. -/
structure Keeps (before after : Manager) (generation : Nat) : Prop where
  sent : ∃ later, (after.pipes generation).sent = (before.pipes generation).sent ++ later
  headers : ∀ first, (before.producers generation).headers = some first →
    (after.producers generation).headers = some first

theorem Follows.keeps {before after : Manager} {listener : Listener}
    (follows : Follows before listener) (keeps : Keeps before after listener.generation)
    (later : before.generation ≤ after.generation) : Follows after listener := by
  obtain ⟨more, grown⟩ := keeps.sent
  refine ⟨Nat.le_trans follows.attached later, ?_, ?_⟩
  · rw [grown]
    exact follows.heard.append more
  · exact fun first leads => keeps.headers first (follows.opening first leads)

theorem keeps_swapPipe (manager : Manager) (playingFile : Bool) (source : Source)
    {generation : Nat} (older : generation ≤ manager.generation) :
    Keeps manager (manager.swapPipe playingFile source) generation := by
  have retired : generation ≠ manager.generation + 1 := by omega
  refine ⟨⟨[], ?_⟩, ?_⟩
  · by_cases current : generation = manager.generation
    · simp [Manager.swapPipe, current, Pipe.retire]
    · simp [Manager.swapPipe, retired, current]
  · intro first set
    simpa [Manager.swapPipe, retired] using set

theorem keeps_setHeaders (manager : Manager) {own : Nat} (headers : Bytes)
    (unset : (manager.producers own).headers = none) (generation : Nat) :
    Keeps manager (manager.setHeaders own headers) generation := by
  by_cases same : generation = own
  · subst same
    refine ⟨⟨[headers], by simp [Manager.setHeaders, Pipe.setHeaders]⟩, ?_⟩
    intro first set
    simp [unset] at set
  · exact ⟨⟨[], by simp [Manager.setHeaders, same]⟩,
      fun first set => by simpa [Manager.setHeaders, same] using set⟩

theorem keeps_send (manager : Manager) (own : Nat) (page : Bytes) (generation : Nat) :
    Keeps manager (manager.send own page) generation := by
  by_cases same : generation = own
  · subst same
    exact ⟨⟨[page], by simp [Manager.send, Pipe.send]⟩,
      fun first set => by simpa [Manager.send] using set⟩
  · exact ⟨⟨[], by simp [Manager.send, same]⟩,
      fun first set => by simpa [Manager.send, same] using set⟩

/-- The replay of a new listener is part of what was sent, and begins with the headers. -/
theorem follows_subscribe {manager : Manager} (faithful : manager.Faithful) (listeners : Nat) :
    Follows { manager with listeners := listeners }
      { generation := manager.generation
        lead := (manager.pipes manager.generation).subscribe.2
        receiver := (manager.pipes manager.generation).subscribe.1 } := by
  have feeds := faithful manager.generation
  refine ⟨Nat.le_refl _, Heard.subscribe ?_, ?_⟩
  · rw [feeds.sent]
    simp only [Pipe.subscribe, feeds.headers]
    exact (List.Sublist.refl _).append feeds.burst.sublist
  · intro first leads
    cases set : (manager.producers manager.generation).headers with
    | some headers =>
        have shown : headers = first := by
          simpa [Pipe.subscribe, feeds.headers, set] using leads
        rw [shown]
    | none =>
        have empty : (manager.pipes manager.generation).stored.burst = [] :=
          List.suffix_nil.mp (feeds.opening set ▸ feeds.burst)
        simp [Pipe.subscribe, feeds.headers, set, empty] at leads

/-- What all interleavings keep about their listeners. -/
structure Tracked (station : Station) : Prop where
  coherent : station.Coherent
  follows : ∀ listener ∈ station.attached, Follows station.manager listener

theorem Tracked.of_keeps {station : Station} {manager : Manager} (tracked : station.Tracked)
    (coherent : Coherent { station with manager := manager })
    (later : station.manager.generation ≤ manager.generation)
    (keeps : ∀ generation ≤ station.manager.generation,
      Keeps station.manager manager generation) :
    Tracked { station with manager := manager } :=
  ⟨coherent, fun listener member =>
    (tracked.follows listener member).keeps
      (keeps _ (tracked.follows listener member).attached) later⟩

theorem Tracked.addClient {station : Station} (tracked : station.Tracked) (maxListeners : Nat) :
    (station.addClient maxListeners).Tracked := by
  refine ⟨tracked.coherent.addClient maxListeners, ?_⟩
  unfold Station.addClient Manager.addClient
  by_cases full : maxListeners ≤ station.manager.listeners
  · simpa [full] using tracked.follows
  · simp only [full, if_false]
    intro listener member
    rcases List.mem_append.mp member with earlier | added
    · have follows := tracked.follows listener earlier
      exact ⟨follows.attached, follows.heard, follows.opening⟩
    · obtain rfl := List.mem_singleton.mp added
      exact follows_subscribe tracked.coherent.faithful _

theorem Tracked.recv {station after : Station} (tracked : station.Tracked) {index : Nat}
    (step : station.recv index = some after) : after.Tracked := by
  refine ⟨tracked.coherent.recv step, ?_⟩
  unfold Station.recv at step
  cases found : station.attached[index]? with
  | none => simp [found] at step
  | some listener =>
      simp only [found, Option.some.injEq] at step
      subst step
      intro other member
      rcases List.mem_or_eq_of_mem_set member with earlier | rfl
      · exact tracked.follows other earlier
      · have follows := tracked.follows listener (List.mem_of_getElem? found)
        exact ⟨follows.attached, follows.heard.recv _, follows.opening⟩

theorem Tracked.step {station after : Station} {event : StreamEvent} (tracked : station.Tracked)
    (step : station.step event = some after) : after.Tracked := by
  have coherent := tracked.coherent.step step
  cases event with
  | playTrack filePath seekMs =>
      obtain rfl := Option.some.inj step
      exact tracked.of_keeps coherent (Nat.le_succ _) fun _ older => keeps_swapPipe _ _ _ older
  | playLive =>
      obtain rfl := Option.some.inj step
      exact tracked.of_keeps coherent (Nat.le_succ _) fun _ older => keeps_swapPipe _ _ _ older
  | stop =>
      obtain rfl := Option.some.inj step
      exact tracked.of_keeps coherent (Nat.le_succ _) fun _ older => keeps_swapPipe _ _ _ older
  | addClient maxListeners =>
      obtain rfl := Option.some.inj step
      exact tracked.addClient maxListeners
  | removeClient =>
      obtain rfl := Option.some.inj step
      exact tracked.of_keeps coherent (Nat.le_refl _) fun _ _ =>
        ⟨⟨[], by simp [Manager.removeClient]⟩, fun _ set => set⟩
  | setHeaders generation headers =>
      simp only [Station.step, Option.ite_none_right_eq_some, Option.some.injEq] at step
      obtain ⟨⟨-, unset⟩, rfl⟩ := step
      exact tracked.of_keeps coherent (Nat.le_refl _) fun _ _ => keeps_setHeaders _ _ unset _
  | send generation page =>
      simp only [Station.step, Option.ite_none_right_eq_some, Option.some.injEq] at step
      obtain ⟨-, rfl⟩ := step
      exact tracked.of_keeps coherent (Nat.le_refl _) fun _ _ => keeps_send _ _ _ _
  | recv index => exact tracked.recv step

theorem addClient_of_admitted {station : Station} {maxListeners : Nat}
    {given : Receiver Bytes × List Bytes} {manager : Manager}
    (admitted : station.manager.addClient maxListeners = some (given, manager)) :
    manager.generation = station.manager.generation ∧
      station.addClient maxListeners =
        { manager := manager
          attached := station.attached ++
            [{ generation := station.manager.generation
               lead := given.2
               receiver := given.1 }] } := by
  refine ⟨?_, by rw [Station.addClient, admitted]⟩
  unfold Manager.addClient at admitted
  split at admitted
  · simp at admitted
  · obtain ⟨-, rfl⟩ := Prod.mk.inj (Option.some.inj admitted)
    rfl

theorem addClient_of_refused {station : Station} {maxListeners : Nat}
    (refused : station.manager.addClient maxListeners = none) :
    station.addClient maxListeners = station := by
  rw [Station.addClient, refused]

/-- A listener stays where it is attached, and the generation never goes back. -/
theorem step_attached {station after : Station} {event : StreamEvent}
    (step : station.step event = some after) :
    station.manager.generation ≤ after.manager.generation ∧
      ∀ (index : Nat) (listener : Listener), station.attached[index]? = some listener →
        ∃ moved, after.attached[index]? = some moved ∧ moved.generation = listener.generation := by
  cases event with
  | playTrack | playLive | stop =>
      obtain rfl := Option.some.inj step
      exact ⟨Nat.le_succ _, fun index listener found => ⟨listener, found, rfl⟩⟩
  | removeClient =>
      obtain rfl := Option.some.inj step
      exact ⟨Nat.le_refl _, fun index listener found => ⟨listener, found, rfl⟩⟩
  | setHeaders | send =>
      simp only [Station.step, Option.ite_none_right_eq_some, Option.some.injEq] at step
      obtain ⟨-, rfl⟩ := step
      exact ⟨Nat.le_refl _, fun index listener found => ⟨listener, found, rfl⟩⟩
  | addClient maxListeners =>
      obtain rfl := Option.some.inj step
      cases admitted : station.manager.addClient maxListeners with
      | none =>
          rw [addClient_of_refused admitted]
          exact ⟨Nat.le_refl _, fun index listener found => ⟨listener, found, rfl⟩⟩
      | some outcome =>
          obtain ⟨current, longer⟩ := addClient_of_admitted admitted
          rw [longer]
          refine ⟨current.ge, fun index other found => ⟨other, ?_, rfl⟩⟩
          obtain ⟨bound, -⟩ := List.getElem?_eq_some_iff.mp found
          rw [List.getElem?_append_left bound, found]
  | recv index =>
      simp only [Station.step, Station.recv] at step
      split at step
      · simp at step
      · rename_i reader read
        obtain rfl := Option.some.inj step
        refine ⟨Nat.le_refl _, fun other listener found => ?_⟩
        by_cases same : index = other
        · subst same
          obtain ⟨bound, -⟩ := List.getElem?_eq_some_iff.mp found
          obtain rfl : reader = listener := Option.some.inj (read.symm.trans found)
          exact ⟨_, List.getElem?_set_self bound, rfl⟩
        · exact ⟨listener, by rw [List.getElem?_set_ne same, found], rfl⟩

theorem tracked_of_reachable {station : Station} (reach : system.Reachable station) :
    station.Tracked := by
  refine reach.invariant _ ?_ ?_
  · rintro _ rfl
    exact ⟨⟨Manager.new_faithful, by simp⟩, by simp⟩
  · intro before event after _ tracked _ step
    exact tracked.step step

/-- A listener which has skipped nothing begins with the headers, wherever it attached. -/
theorem Tracked.prompt_opening {station : Station} (tracked : station.Tracked)
    {listener : Listener} (member : listener ∈ station.attached)
    (prompt : listener.receiver.lagged = false) {first : Bytes}
    (leads : (listener.lead ++ listener.receiver.received).head? = some first) :
    (station.manager.producers listener.generation).headers = some first := by
  have tuned := tracked.coherent.tuned listener member
  obtain ⟨run, tail, -, spelled⟩ := tuned.joined
  rw [← tuned.inStep.complete prompt, ← List.append_assoc] at spelled
  have heard_first : ((station.manager.producers listener.generation).headers.toList ++ run).head? =
      some first := by
    rw [← spelled, List.head?_append, leads, Option.some_or]
  cases set : (station.manager.producers listener.generation).headers with
  | some headers => simpa [set] using heard_first
  | none =>
      have silent := (tracked.coherent.faithful listener.generation).opening set
      rw [silent] at tail
      simp [set, List.suffix_nil.mp tail] at heard_first

/-- However far a listener falls behind, what it hears is its own generation's headers and pages in
order, none of them twice and none of another generation.  It begins with the headers if it
attached once they were there, or has never skipped ahead. -/
theorem listener_hears_in_order {station : Station} (reach : system.Reachable station)
    {listener : Listener} (member : listener ∈ station.attached) :
    (listener.lead ++ listener.receiver.received).Sublist
        ((station.manager.producers listener.generation).headers.toList ++
          (station.manager.producers listener.generation).pages) ∧
      (listener.lead ≠ [] ∨ listener.receiver.lagged = false →
        ∀ first, (listener.lead ++ listener.receiver.received).head? = some first →
          (station.manager.producers listener.generation).headers = some first) := by
  have tracked := tracked_of_reachable reach
  have follows := tracked.follows listener member
  refine ⟨?_, ?_⟩
  · rw [← (tracked.coherent.faithful listener.generation).sent]
    exact follows.heard.sublist
  · intro favoured first leads
    rcases favoured with led | prompt
    · obtain ⟨opening, rest, shape⟩ := List.exists_cons_of_ne_nil led
      refine follows.opening first ?_
      simpa [shape] using leads
    · exact tracked.prompt_opening member prompt leads

/-- A listener that attached to a file before its headers, and stalled for seventy pages. -/
def stalled : Station :=
  system.final { manager := .new, attached := [] }
    ([.playTrack "song.ogg" 0, .addClient 250, .setHeaders 1 [79]] ++
      List.replicate 70 (.send 1 [1]) ++ [.recv 0, .recv 0, .recv 0]) rfl

/-- It has skipped the headers, and hears pages only. -/
theorem stalled_hears_in_order :
    ([] ++ [[1], [1]] : List Bytes).Sublist
        ((stalled.manager.producers 1).headers.toList ++ (stalled.manager.producers 1).pages) ∧
      (([] : List Bytes) ≠ [] ∨ true = false →
        ∀ first, ([] ++ [[1], [1]] : List Bytes).head? = some first →
          (stalled.manager.producers 1).headers = some first) :=
  listener_hears_in_order (System.reachable_final rfl _ _ : system.Reachable stalled)
    (by decide : Listener.mk 1 [] ⟨0, 9, [[1], [1]], true⟩ ∈ stalled.attached)

end Togewire.Stream.Station
