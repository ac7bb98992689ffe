import Togewire.Cache.Manager

/-!
# Eviction is least recently used up to the touch gate

A lookup renews a track's access time at most every `touchPersistSecs` seconds, so the queue is not
in the order of the last uses.  It is in the order of the recorded access times, through every
operation and across restarts, and a recorded time trails the last use by less than the gate.
Eviction takes a front segment of the queue, and the two facts bound how much more recently an
evicted track can have been used than a kept one.
-/

namespace Togewire.Cache

open Ledger Register Transition

/-- The queue is in the order of the recorded access times. -/
abbrev Chronological (order : List String) (entries : Entries) : Prop :=
  Chronicle Entry.lastAccessedAt order entries

/-- Every recorded access time is past, and trails the track's last use by less than the gate. -/
def Timely (now : Int) (lastUsed : String → Int) (entries : Entries) : Prop :=
  ∀ trackId entry, entries.lookup trackId = some entry →
    (0 ≤ entry.lastAccessedAt ∧ entry.lastAccessedAt ≤ now) ∧
      entry.lastAccessedAt ≤ lastUsed trackId ∧
        lastUsed trackId < entry.lastAccessedAt + touchPersistSecs

theorem Timely.included {now : Int} {lastUsed : String → Int} {entries smaller : Entries}
    (timely : Timely now lastUsed entries)
    (included : ∀ id entry, smaller.lookup id = some entry → entries.lookup id = some entry) :
    Timely now lastUsed smaller :=
  fun id entry found => timely id entry (included id entry found)

theorem Timely.later {now later : Int} {lastUsed : String → Int} {entries : Entries}
    (timely : Timely now lastUsed entries) (le : now ≤ later) : Timely later lastUsed entries :=
  fun id entry found =>
    let ⟨⟨nonneg, past⟩, trailing⟩ := timely id entry found
    ⟨⟨nonneg, past.trans le⟩, trailing⟩

theorem Timely.latest {now : Int} {lastUsed : String → Int} {entries : Entries}
    (timely : Timely now lastUsed entries) :
    ∀ id other, entries.lookup id = some other → other.lastAccessedAt ≤ now :=
  fun id other found => (timely id other found).1.2

/-- A track used now whose recorded time is now. -/
theorem Timely.renew {now : Int} {lastUsed : String → Int} {entries : Entries}
    (timely : Timely now lastUsed entries) (now_nonneg : 0 ≤ now) {trackId : String} {entry : Entry}
    (accessed : entry.lastAccessedAt = now) :
    Timely now (Function.update lastUsed trackId now) (entries.insert trackId entry) := by
  intro id other found
  by_cases same : id = trackId
  · subst same
    obtain rfl : entry = other := by simpa using found
    simp only [Function.update_self, accessed, touchPersistSecs]
    omega
  · rw [AList.lookup_insert_ne same] at found
    rw [Function.update_of_ne same]
    exact timely id other found

/-- A track used now whose recorded time is within the gate. -/
theorem Timely.use {now : Int} {lastUsed : String → Int} {entries : Entries}
    (timely : Timely now lastUsed entries) {trackId : String}
    (recent : ∀ entry, entries.lookup trackId = some entry →
      now < entry.lastAccessedAt + touchPersistSecs) :
    Timely now (Function.update lastUsed trackId now) entries := by
  intro id entry found
  by_cases same : id = trackId
  · subst same
    rw [Function.update_self]
    exact ⟨(timely id entry found).1, (timely id entry found).1.2, recent entry found⟩
  · rw [Function.update_of_ne same]
    exact timely id entry found

namespace Manager

/-- What eviction leaves: the queue loses a front segment, and the map exactly its tracks. -/
theorem evictFrom_split (manager : Manager) (queue : List String) :
    ∃ dropped, queue = dropped ++ (manager.evictFrom queue).order ∧
      ∀ trackId, (manager.evictFrom queue).entries.lookup trackId =
        if trackId ∈ dropped then none else manager.entries.lookup trackId := by
  induction queue generalizing manager with
  | nil => exact ⟨[], rfl, by simp [evictFrom]⟩
  | cons oldest queue ih =>
      unfold evictFrom
      split
      · obtain ⟨dropped, queue_eq, lookup_eq⟩ := ih (manager.removeEntry oldest)
        refine ⟨oldest :: dropped, by rw [List.cons_append, ← queue_eq], ?_⟩
        intro trackId
        rw [lookup_eq, removeEntry_entries]
        by_cases same : trackId = oldest
        · subst same
          simp
        · simp [same, AList.lookup_erase_ne same]
      · exact ⟨[], rfl, by simp⟩

theorem evictFrom_included (manager : Manager) (queue : List String) :
    ∀ trackId entry, (manager.evictFrom queue).entries.lookup trackId = some entry →
      manager.entries.lookup trackId = some entry := by
  intro trackId entry found
  obtain ⟨dropped, -, lookup_eq⟩ := manager.evictFrom_split queue
  rw [lookup_eq] at found
  split at found
  · simp at found
  · exact found

theorem chronological_evictFrom {manager : Manager} {queue : List String}
    (chronological : Chronological queue manager.entries) :
    Chronological (manager.evictFrom queue).order (manager.evictFrom queue).entries := by
  induction queue generalizing manager with
  | nil => exact chronological
  | cons oldest queue ih =>
      unfold evictFrom
      split
      · apply ih
        rw [removeEntry_entries]
        exact chronological.pop
      · exact chronological

theorem chronological_supersede {manager : Manager}
    (chronological : Chronological manager.order manager.entries) (trackId filePath : String) :
    Chronological (manager.supersede trackId filePath).order
      (manager.supersede trackId filePath).entries := by
  unfold supersede
  split
  · exact chronological
  · exact chronological.erase trackId

theorem chronological_store {manager : Manager} {now : Int}
    (chronological : Chronological manager.order manager.entries)
    (latest : ∀ id other, manager.entries.lookup id = some other → other.lastAccessedAt ≤ now)
    (trackId filePath bitrate : String) (normalized : Bool) :
    Chronological (manager.store trackId filePath bitrate normalized now).order
      (manager.store trackId filePath bitrate normalized now).entries := by
  apply (chronological_supersede chronological trackId filePath).push
  · rw [supersede_entries, AList.mem_erase]
    simp
  · rw [supersede_entries]
    exact forall_erase trackId latest

/-- The loading loop over a listing sorted by access time. -/
theorem chronological_foldl_loadEntry (manager : Manager)
    (chronological : Chronological manager.order manager.entries)
    {listing : List (Σ _ : String, Entry)} (distinct : listing.NodupKeys)
    (sorted : listing.Pairwise fun older newer =>
      older.2.lastAccessedAt ≤ newer.2.lastAccessedAt)
    (fresh : ∀ listed ∈ listing, listed.1 ∉ manager.entries)
    (latest : ∀ listed ∈ listing, ∀ id other, manager.entries.lookup id = some other →
      other.lastAccessedAt ≤ listed.2.lastAccessedAt) :
    Chronological (listing.foldl loadEntry manager).order
      (listing.foldl loadEntry manager).entries := by
  induction listing generalizing manager with
  | nil => exact chronological
  | cons listed listing ih =>
      obtain ⟨unlisted, distinct⟩ := List.nodupKeys_cons.mp distinct
      obtain ⟨earliest, sorted⟩ := List.pairwise_cons.mp sorted
      obtain ⟨new, fresh⟩ := List.forall_mem_cons.mp fresh
      obtain ⟨listed_latest, latest⟩ := List.forall_mem_cons.mp latest
      rw [List.foldl_cons]
      by_cases present : manager.disk.pathExists listed.2.filePath
      · have entered : manager.loadEntry listed = manager.enter listed.1 listed.2 := by
          simp [loadEntry, present]
        have extended : Chronological (manager.enter listed.1 listed.2).order
            (manager.enter listed.1 listed.2).entries := chronological.push new listed_latest
        rw [entered]
        apply ih _ extended distinct sorted
        · intro other other_mem
          simp only [enter, AList.mem_insert, not_or]
          exact ⟨fun same => unlisted (same ▸ List.mem_keys_of_mem other_mem),
            fresh other other_mem⟩
        · intro other other_mem
          exact forall_insert (earliest other other_mem) (latest other other_mem)
      · have skipped : manager.loadEntry listed = manager := by
          simp [loadEntry, present]
        rw [skipped]
        exact ih _ chronological distinct sorted fresh latest

theorem chronological_load {manager : Manager} {listing : List (Σ _ : String, Entry)}
    (empty : manager.entries = ∅) (unqueued : manager.order = [])
    (lists : Lists manager.disk listing) :
    Chronological (manager.load listing).order (manager.load listing).entries := by
  unfold load
  cases metadata : manager.disk.metadata with
  | none =>
      dsimp only
      rw [empty, unqueued]
      exact .empty _
  | some entries =>
      have sorted := sortListing_perm lists metadata
      exact chronological_foldl_loadEntry _ (.empty _)
        ((List.perm_nodupKeys sorted).mpr entries.nodupKeys) (List.pairwise_insertionSort _ _)
        (fun listed _ => AList.notMem_empty _) (by simp)

/-- A fresh load is chronological and holds only what the metadata file lists. -/
theorem chronological_new (maxMb : Nat) {disk : Disk} {listing : List (Σ _ : String, Entry)}
    (lists : Lists disk listing) :
    Chronological (new maxMb disk listing).order (new maxMb disk listing).entries ∧
      ∀ id entry, (new maxMb disk listing).entries.lookup id = some entry →
        ∃ entries, disk.metadata = some entries ∧ entries.lookup id = some entry := by
  have swept := lists_sweepWorkDirs.mpr lists
  refine ⟨chronological_load rfl rfl swept, ?_⟩
  intro id entry found
  rw [new, lookup_load rfl swept] at found
  simpa [Disk.listed, Disk.sweepWorkDirs, Option.bind_eq_some_iff] using found.1

end Manager

namespace Session

/-- The clock never goes back, and the program restarts only from a metadata file whose last write
succeeded. -/
def Forward (session : Session) : CacheEvent → Prop
  | .clock now => session.now ≤ now
  | .restart _ _ => session.manager.disk.stale = false
  | _ => True

instance decidableForward (session : Session) : ∀ event, Decidable (session.Forward event)
  | .clock _ => inferInstanceAs (Decidable (_ ≤ _))
  | .restart _ _ => inferInstanceAs (Decidable (_ = false))
  | .getPath _ | .put _ _ _ _ | .setMaxMb _ | .clear | .file _ _ | .access _ =>
      inferInstanceAs (Decidable True)

/-- The first start of the program, before it has saved any metadata. -/
def firstStart : System Session CacheEvent where
  initial session :=
    ∃ maxMb disk, disk.metadata = none ∧ session.manager = Manager.new maxMb disk [] ∧
      0 ≤ session.now ∧ Fits session.now
  step := step

/-- The invariant of forward runs. -/
structure Prompt (session : Session) : Prop where
  now_nonneg : 0 ≤ session.now
  now_fits : Fits session.now
  chronological : Chronological session.manager.order session.manager.entries
  timely : Timely session.now session.lastUsed session.manager.entries
  /-- Whatever is in memory is in the metadata file, once written. -/
  persisted : session.manager.disk.stale = false →
    ∀ id entry, session.manager.entries.lookup id = some entry →
      ∃ entries, session.manager.disk.metadata = some entries ∧ entries.lookup id = some entry
  saved : session.manager.disk.stale = false →
    ∀ entries, session.manager.disk.metadata = some entries →
      Timely session.now session.lastUsed entries

theorem Prompt.save {session : Session} (prompt : session.Prompt) {manager : Manager}
    {lastUsed : String → Int} (chronological : Chronological manager.order manager.entries)
    (timely : Timely session.now lastUsed manager.entries) :
    { session with manager := manager.save, lastUsed := lastUsed }.Prompt := by
  refine ⟨prompt.now_nonneg, prompt.now_fits, chronological, timely, ?_, ?_⟩
  · intro written id entry found
    exact ⟨manager.entries, Disk.saveMetadata_metadata written, found⟩
  · intro written entries metadata
    obtain rfl : manager.entries = entries :=
      Option.some.inj ((Disk.saveMetadata_metadata written).symm.trans metadata)
    exact timely

/-- A lookup which renews nothing still leaves the recorded time within the gate. -/
theorem Prompt.use {session : Session} (prompt : session.Prompt) {trackId : String} {entry : Entry}
    (found : session.manager.entries.lookup trackId = some entry)
    (recent : session.now < entry.lastAccessedAt + touchPersistSecs) :
    (session.use trackId).Prompt := by
  refine ⟨prompt.now_nonneg, prompt.now_fits, prompt.chronological, ?_, prompt.persisted, ?_⟩
  · apply prompt.timely.use
    intro other listed
    obtain rfl : entry = other := Option.some.inj (found.symm.trans listed)
    exact recent
  · intro written entries metadata
    apply (prompt.saved written entries metadata).use
    intro other listed
    obtain ⟨saved, saved_eq, saved_listed⟩ := prompt.persisted written trackId entry found
    obtain rfl : saved = entries := Option.some.inj (saved_eq.symm.trans metadata)
    obtain rfl : entry = other := Option.some.inj (saved_listed.symm.trans listed)
    exact recent

/-- The access times of a prompt cache are read without wrapping. -/
theorem Prompt.age_eq {session : Session} (prompt : session.Prompt) {trackId : String}
    {entry : Entry} (found : session.manager.entries.lookup trackId = some entry) :
    wrap (session.now - entry.lastAccessedAt) = session.now - entry.lastAccessedAt := by
  obtain ⟨⟨past, -⟩, -⟩ := prompt.timely trackId entry found
  have now_nonneg := prompt.now_nonneg
  obtain ⟨-, now_bounded⟩ := prompt.now_fits
  have accessed := (prompt.timely trackId entry found).1.2
  exact wrap_of_fits ⟨by omega, by omega⟩

theorem Prompt.getPath {session : Session} (prompt : session.Prompt) (trackId : String) :
    (session.getPath trackId).Prompt := by
  cases found : session.manager.entries.lookup trackId with
  | none =>
      rw [getPath_of_absent found]
      exact prompt
  | some entry =>
      by_cases present : session.manager.disk.pathExists entry.filePath
      · have age := prompt.age_eq found
        by_cases recent : wrap (session.now - entry.lastAccessedAt) < touchPersistSecs
        · rw [getPath_of_recent found present recent]
          exact prompt.use found (by omega)
        · have timely : Timely session.now (Function.update session.lastUsed trackId session.now)
              (session.manager.entries.insert trackId
                { entry with lastAccessedAt := session.now }) :=
            prompt.timely.renew prompt.now_nonneg rfl
          have renewed : Chronological
              ((session.manager.order.filter fun id => id ≠ trackId) ++ [trackId])
              (session.manager.entries.insert trackId
                { entry with lastAccessedAt := session.now }) :=
            prompt.chronological.renew trackId prompt.timely.latest
          rw [getPath_of_stale prompt.chronological.nodup found present recent]
          exact prompt.save renewed timely
      · have removed : Chronological (session.manager.remove trackId).order
            (session.manager.remove trackId).entries := by
          simpa [Manager.remove] using prompt.chronological.erase trackId
        have timely : Timely session.now session.lastUsed
            (session.manager.remove trackId).entries := by
          simpa [Manager.remove] using
            prompt.timely.included fun _ _ => lookup_of_erase
        rw [getPath_of_vanished found present]
        exact prompt.save removed timely

theorem Prompt.evict {session : Session} (prompt : session.Prompt) {manager : Manager}
    {lastUsed : String → Int} (chronological : Chronological manager.order manager.entries)
    (timely : Timely session.now lastUsed manager.entries) :
    { session with manager := manager.evictIfNeeded.save, lastUsed := lastUsed }.Prompt := by
  apply prompt.save
  · exact Manager.chronological_evictFrom chronological
  · exact timely.included (manager.evictFrom_included manager.order)

/-- The session in which an operation calls `evict_if_needed`. -/
def evicting (session : Session) : CacheEvent → Option Session
  | .put trackId filePath bitrate normalized =>
      let stored := session.manager.store trackId filePath bitrate normalized session.now
      some ({ session with manager := stored }.use trackId)
  | .setMaxMb maxMb =>
      some { session with manager := session.manager.limit (Cache.maxBytes maxMb) }
  | _ => none

theorem step_of_evicting {session evicting : Session} {event : CacheEvent}
    (evicts : session.evicting event = some evicting) :
    session.step event =
      some { evicting with manager := evicting.manager.evictIfNeeded.save } := by
  cases event with
  | put trackId filePath bitrate normalized =>
      obtain rfl := Option.some.inj evicts
      rfl
  | setMaxMb maxMb =>
      obtain rfl := Option.some.inj evicts
      rfl
  | _ => simp [Session.evicting] at evicts

/-- What eviction finds is chronological and timely. -/
theorem Prompt.evicting {session evicting : Session} {event : CacheEvent} (prompt : session.Prompt)
    (evicts : session.evicting event = some evicting) :
    evicting.now = session.now ∧
      Chronological evicting.manager.order evicting.manager.entries ∧
        Timely session.now evicting.lastUsed evicting.manager.entries := by
  cases event with
  | put trackId filePath bitrate normalized =>
      obtain rfl := Option.some.inj evicts
      refine ⟨rfl, Manager.chronological_store prompt.chronological prompt.timely.latest trackId
        filePath bitrate normalized, ?_⟩
      apply Timely.renew _ prompt.now_nonneg rfl
      rw [Manager.supersede_entries]
      exact prompt.timely.included fun _ _ => lookup_of_erase
  | setMaxMb maxMb =>
      obtain rfl := Option.some.inj evicts
      exact ⟨rfl, prompt.chronological, prompt.timely⟩
  | _ => simp [Session.evicting] at evicts

theorem Prompt.step_evicting {session evicting : Session} {event : CacheEvent}
    (prompt : session.Prompt) (evicts : session.evicting event = some evicting) :
    { evicting with manager := evicting.manager.evictIfNeeded.save }.Prompt := by
  obtain ⟨now_eq, chronological, timely⟩ := prompt.evicting evicts
  have evicted := prompt.evict chronological timely
  rwa [← now_eq] at evicted

/-- Every operation of a forward run keeps the cache prompt. -/
theorem Prompt.step {session after : Session} {event : CacheEvent} (prompt : session.Prompt)
    (forward : session.Forward event) (step : session.step event = some after) :
    after.Prompt := by
  cases event with
  | getPath trackId =>
      obtain rfl := Option.some.inj step
      exact prompt.getPath trackId
  | put trackId filePath bitrate normalized =>
      obtain rfl := Option.some.inj step
      exact prompt.step_evicting
        (rfl : session.evicting (.put trackId filePath bitrate normalized) = some _)
  | setMaxMb maxMb =>
      obtain rfl := Option.some.inj step
      exact prompt.step_evicting (rfl : session.evicting (.setMaxMb maxMb) = some _)
  | clear =>
      obtain rfl := Option.some.inj step
      apply prompt.save
      · exact .empty _
      · intro id entry found
        simp [Manager.wipe] at found
  | restart maxMb listing =>
      simp only [Session.step, Option.ite_none_right_eq_some, Option.some.injEq] at step
      obtain ⟨lists, rfl⟩ := step
      obtain ⟨chronological, listed⟩ := Manager.chronological_new maxMb lists
      have written : session.manager.disk.stale = false := forward
      refine ⟨prompt.now_nonneg, prompt.now_fits, chronological, ?_, ?_, ?_⟩
      · intro id entry found
        obtain ⟨entries, metadata, saved⟩ := listed id entry found
        exact prompt.saved written entries metadata id entry saved
      · simpa [Disk.sweepWorkDirs, written] using listed
      · simpa [Disk.sweepWorkDirs] using prompt.saved
  | file path size =>
      obtain rfl := Option.some.inj step
      exact ⟨prompt.now_nonneg, prompt.now_fits, prompt.chronological, prompt.timely,
        prompt.persisted, prompt.saved⟩
  | access writable =>
      obtain rfl := Option.some.inj step
      exact ⟨prompt.now_nonneg, prompt.now_fits, prompt.chronological, prompt.timely,
        prompt.persisted, prompt.saved⟩
  | clock now =>
      simp only [Session.step, Option.ite_none_right_eq_some, Option.some.injEq] at step
      obtain ⟨fits, rfl⟩ := step
      have later : session.now ≤ now := forward
      exact ⟨prompt.now_nonneg.trans later, fits, prompt.chronological, prompt.timely.later later,
        prompt.persisted, fun written entries metadata =>
          (prompt.saved written entries metadata).later later⟩

theorem prompt_of_reachable {session : Session}
    (reach : firstStart.ReachableUnder Forward session) : session.Prompt := by
  refine reach.invariant _ ?_ ?_
  · rintro session ⟨maxMb, disk, metadata, manager_eq, now_nonneg, now_fits⟩
    have entries_empty : session.manager.entries = ∅ := by
      simp [manager_eq, Manager.new, Manager.load, Disk.sweepWorkDirs, metadata]
    have unsaved : session.manager.disk.metadata = none := by
      simp [manager_eq, Disk.sweepWorkDirs, metadata]
    refine ⟨now_nonneg, now_fits, ?_, ?_, ?_, ?_⟩
    · have order_empty : session.manager.order = [] := by
        simp [manager_eq, Manager.new, Manager.load, Disk.sweepWorkDirs, metadata]
      rw [entries_empty, order_empty]
      exact .empty _
    · intro id entry found
      simp [entries_empty] at found
    · intro _ id entry found
      simp [entries_empty] at found
    · intro _ entries found
      simp [unsaved] at found
  · intro before event after _ prompt forward step
    exact prompt.step forward step

/-- A track evicted while another stays was last used less than the touch gate after it. -/
theorem evicts_least_recently_used {session evicting after : Session} {event : CacheEvent}
    (reach : firstStart.ReachableUnder Forward session)
    (evicts : session.evicting event = some evicting) (step : session.step event = some after)
    {removed kept : String} (cached : removed ∈ evicting.manager.entries)
    (gone : removed ∉ after.manager.entries) (stays : kept ∈ after.manager.entries) :
    after.lastUsed removed < after.lastUsed kept + touchPersistSecs := by
  obtain rfl := Option.some.inj ((step_of_evicting evicts).symm.trans step)
  obtain ⟨-, chronological, timely⟩ := (prompt_of_reachable reach).evicting evicts
  obtain ⟨dropped, order_eq, lookup_eq⟩ :=
    evicting.manager.evictFrom_split evicting.manager.order
  obtain ⟨old, old_found⟩ := Option.isSome_iff_exists.mp (AList.lookup_isSome.mpr cached)
  obtain ⟨recent, recent_found⟩ := Option.isSome_iff_exists.mp (AList.lookup_isSome.mpr stays)
  have removed_dropped : removed ∈ dropped := by
    by_contra undropped
    have lookup_removed := lookup_eq removed
    rw [if_neg undropped, old_found] at lookup_removed
    exact gone (AList.lookup_isSome.mp (by simp [Manager.save, Manager.evictIfNeeded,
      lookup_removed]))
  have kept_found : evicting.manager.entries.lookup kept = some recent :=
    evicting.manager.evictFrom_included _ kept recent recent_found
  have kept_queued : kept ∈ (evicting.manager.evictFrom evicting.manager.order).order :=
    ((Manager.chronological_evictFrom chronological).mem_iff kept).mpr stays
  rw [order_eq] at chronological
  have stamps := chronological.stamp_le removed_dropped kept_queued old_found kept_found
  obtain ⟨-, -, removed_used⟩ := timely removed old old_found
  obtain ⟨-, kept_used, -⟩ := timely kept recent kept_found
  calc evicting.lastUsed removed
      < old.lastAccessedAt + touchPersistSecs := removed_used
    _ ≤ recent.lastAccessedAt + touchPersistSecs := by omega
    _ ≤ evicting.lastUsed kept + touchPersistSecs := by omega

/-- A disk with two files of forty megabytes. -/
def twoFiles : Disk where
  files path := if path = "a.ogg" ∨ path = "b.ogg" then some 40000000 else none
  metadata := none
  writable := true
  stale := false

/-- The first start on that disk. -/
def emptyCache : Session where
  manager := Manager.new 64 twoFiles []
  now := 1000
  lastUsed _ := 0

/-- Two tracks are cached, and the older one is looked up again within the gate. -/
def lookups : List CacheEvent :=
  [.setMaxMb 100, .put "a" "a.ogg" "144k" false, .clock 1010, .put "b" "b.ogg" "144k" false,
    .clock 1299, .getPath "a"]

def lookedUp : Session := firstStart.final emptyCache lookups rfl

theorem lookedUp_reachable : firstStart.ReachableUnder Forward lookedUp := by
  refine System.ReachableUnder.final ?_ (by decide) _
  exact ⟨64, twoFiles, rfl, rfl, by decide, by decide⟩

/-- Lowering the limit evicts the track used last, within the gate of the one that stays. -/
theorem lookedUp_evicts :
    ((lookedUp.step (.setMaxMb 64)).get rfl).lastUsed "a" <
      ((lookedUp.step (.setMaxMb 64)).get rfl).lastUsed "b" + touchPersistSecs :=
  evicts_least_recently_used lookedUp_reachable
    (rfl : lookedUp.evicting (.setMaxMb 64) = some _) (Option.some_get rfl).symm
    (by decide) (by decide) (by decide)

end Session

end Togewire.Cache
