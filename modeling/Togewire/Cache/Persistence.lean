import Togewire.Cache.Budget

/-!
# A restart loses nothing

Each operation decides for itself whether to save, loading drops entries without saving, and the
queue is not stored but rebuilt from the access times.  While the clock never goes back and writes
succeed, the metadata file nevertheless determines the cache: it records every entry in memory, and
whatever else it records has lost its file.
-/

namespace Togewire.Cache

open Ledger Register Transition

/-- One use of the cache, or a change of its surroundings. -/
inductive Usage
  | getPath (trackId : String)
  /-- A finished file appears under its path and is `put`. -/
  | cache (trackId filePath bitrate : String) (normalized : Bool) (size : Nat)
  | setMaxMb (maxMb : Nat)
  | clear
  /-- A file vanishes. -/
  | vanish (path : String)
  /-- The clock is read anew. -/
  | clock (now : Int)

namespace Disk

@[simp] theorem keepFiles_writable (disk : Disk) (keep : String → Bool) :
    (disk.keepFiles keep).writable = disk.writable := by
  unfold keepFiles
  split <;> rfl

@[simp] theorem saveMetadata_writable (disk : Disk) (entries : Entries) :
    (disk.saveMetadata entries).writable = disk.writable := by
  unfold saveMetadata
  split <;> rfl

theorem listed_saveMetadata {disk : Disk} (writable : disk.writable = true) (entries : Entries)
    (trackId : String) : (disk.saveMetadata entries).listed trackId = entries.lookup trackId := by
  simp [saveMetadata, writable, listed]

@[simp] theorem keepFiles_listed (disk : Disk) (keep : String → Bool) (trackId : String) :
    (disk.keepFiles keep).listed trackId = disk.listed trackId := by
  simp [listed]

end Disk

namespace Manager

@[simp] theorem removeEntry_writable (manager : Manager) (trackId : String) :
    (manager.removeEntry trackId).disk.writable = manager.disk.writable := by
  unfold removeEntry
  split <;> simp

@[simp] theorem evictFrom_writable (manager : Manager) (queue : List String) :
    (manager.evictFrom queue).disk.writable = manager.disk.writable := by
  induction queue generalizing manager with
  | nil => rfl
  | cons oldest queue ih =>
      unfold evictFrom
      split
      · rw [ih, removeEntry_writable]
      · rfl

theorem past_store {manager : Manager} {now : Int}
    (past : ∀ id entry, manager.entries.lookup id = some entry → entry.lastAccessedAt ≤ now)
    (trackId filePath bitrate : String) (normalized : Bool) :
    ∀ id entry,
      (manager.store trackId filePath bitrate normalized now).entries.lookup id = some entry →
        entry.lastAccessedAt ≤ now := by
  refine forall_insert (le_refl now) ?_
  rw [supersede_entries]
  exact forall_erase trackId past

theorem holds_iff {manager : Manager} {trackId : String} :
    manager.holds trackId = true ↔ ∃ entry, manager.entries.lookup trackId = some entry ∧
      manager.disk.pathExists entry.filePath := by
  unfold holds
  split <;> simp_all

/-- The recorded access time of a cached track. -/
def accessedAt (manager : Manager) (trackId : String) : Int :=
  (manager.entries.lookup trackId).elim 0 Entry.lastAccessedAt

/-- The cache of a new process on the same directory, before it has loaded anything. -/
def emptied (manager : Manager) : Manager where
  maxBytes := manager.maxBytes
  entries := ∅
  order := []
  totalSizeBytes := 0
  disk := manager.disk
  clamped := false

/-- `Inner::load` in a new process. -/
def reload (manager : Manager) (listing : List (Σ _ : String, Entry)) : Manager :=
  manager.emptied.load listing

end Manager

namespace Session

/-- The effect of a use.  The clock does not go back. -/
def operate (session : Session) : Usage → Option Session
  | .getPath trackId => session.step (.getPath trackId)
  | .cache trackId filePath bitrate normalized size =>
      (session.step (.file filePath (some size))).bind fun appeared =>
        appeared.step (.put trackId filePath bitrate normalized)
  | .setMaxMb maxMb => session.step (.setMaxMb maxMb)
  | .clear => session.step .clear
  | .vanish path => session.step (.file path none)
  | .clock now => if session.now ≤ now then session.step (.clock now) else none

/-- A cache loaded from a metadata file written in the past, on a disk where writes succeed. -/
def lasting : System Session Usage where
  initial session :=
    ∃ maxMb disk listing, Lists disk listing ∧ disk.writable = true ∧
      (∀ id entry, disk.listed id = some entry → entry.lastAccessedAt ≤ session.now) ∧
      session.manager = Manager.new maxMb disk listing
  step := operate

/-- The metadata file determines the cache in memory, up to entries without a file. -/
structure Persisted (session : Session) : Prop where
  writable : session.manager.disk.writable = true
  chronological : Chronological session.manager.order session.manager.entries
  past : ∀ id entry, session.manager.entries.lookup id = some entry →
    entry.lastAccessedAt ≤ session.now
  written : ∀ id entry, session.manager.entries.lookup id = some entry →
    session.manager.disk.listed id = some entry
  lost : ∀ id entry, session.manager.disk.listed id = some entry →
    session.manager.disk.pathExists entry.filePath →
      session.manager.entries.lookup id = some entry

theorem persisted_save {session : Session} {manager : Manager} {lastUsed : String → Int}
    (writable : manager.disk.writable = true)
    (chronological : Chronological manager.order manager.entries)
    (past : ∀ id entry, manager.entries.lookup id = some entry →
      entry.lastAccessedAt ≤ session.now) :
    { session with manager := manager.save, lastUsed := lastUsed }.Persisted := by
  refine ⟨?_, chronological, past, ?_, ?_⟩
  · simpa [Manager.save] using writable
  · intro id entry found
    simp only [Manager.save]
    rwa [Disk.listed_saveMetadata writable]
  · intro id entry listed _
    simp only [Manager.save] at listed
    rwa [Disk.listed_saveMetadata writable] at listed

theorem persisted_evict {session : Session} {manager : Manager} {lastUsed : String → Int}
    (writable : manager.disk.writable = true)
    (chronological : Chronological manager.order manager.entries)
    (past : ∀ id entry, manager.entries.lookup id = some entry →
      entry.lastAccessedAt ≤ session.now) :
    { session with manager := manager.evictIfNeeded.save, lastUsed := lastUsed }.Persisted := by
  apply persisted_save
  · simpa [Manager.evictIfNeeded] using writable
  · exact Manager.chronological_evictFrom chronological
  · intro id entry found
    exact past id entry (manager.evictFrom_included manager.order id entry found)

theorem persisted_initial {session : Session} (initial : lasting.initial session) :
    session.Persisted := by
  obtain ⟨maxMb, disk, listing, lists, writable, past, manager_eq⟩ := initial
  have swept := lists_sweepWorkDirs.mpr lists
  have listed_eq : ∀ id, session.manager.disk.listed id = disk.listed id := by
    simp [manager_eq, Disk.sweepWorkDirs]
  have loaded : ∀ id entry, session.manager.entries.lookup id = some entry ↔
      disk.listed id = some entry ∧ session.manager.disk.pathExists entry.filePath := by
    intro id entry
    rw [manager_eq, Manager.new_disk, Manager.new, Manager.lookup_load rfl swept]
    simp [Disk.sweepWorkDirs]
  refine ⟨?_, ?_, ?_, ?_, ?_⟩
  · simpa [manager_eq, Disk.sweepWorkDirs] using writable
  · rw [manager_eq]
    exact (Manager.chronological_new maxMb lists).1
  · intro id entry found
    exact past id entry ((loaded id entry).mp found).1
  · intro id entry found
    rw [listed_eq]
    exact ((loaded id entry).mp found).1
  · intro id entry listed present
    rw [listed_eq] at listed
    exact (loaded id entry).mpr ⟨listed, present⟩

theorem Persisted.getPath {session : Session} (persisted : session.Persisted) (trackId : String) :
    (session.getPath trackId).Persisted := by
  have chronological := persisted.chronological
  cases found : session.manager.entries.lookup trackId with
  | none =>
      rw [getPath_of_absent found]
      exact persisted
  | some entry =>
      by_cases present : session.manager.disk.pathExists entry.filePath
      · by_cases recent : wrap (session.now - entry.lastAccessedAt) < touchPersistSecs
        · rw [getPath_of_recent found present recent]
          exact ⟨persisted.writable, chronological, persisted.past, persisted.written,
            persisted.lost⟩
        · rw [getPath_of_stale chronological.nodup found present recent]
          refine persisted_save ?_ ?_ ?_
          · exact persisted.writable
          · exact chronological.renew trackId persisted.past
          · exact forall_insert (le_refl _) persisted.past
      · rw [getPath_of_vanished found present]
        apply persisted_save
        · simpa [Manager.remove] using persisted.writable
        · simpa [Manager.remove] using chronological.erase trackId
        · simpa [Manager.remove] using forall_erase trackId persisted.past

theorem Persisted.cache {session : Session} (persisted : session.Persisted)
    (files : String → Option Nat) (trackId filePath bitrate : String) (normalized : Bool) :
    let disk := { session.manager.disk with files := files }
    ({ session with manager := { session.manager with disk := disk } }.put trackId filePath bitrate
      normalized).Persisted := by
  intro disk
  have writable_eq :=
    (Manager.supersede_disk { session.manager with disk := disk } trackId filePath).2
  apply persisted_evict
  · exact writable_eq.trans persisted.writable
  · exact @Manager.chronological_store { session.manager with disk := disk } session.now
      persisted.chronological persisted.past trackId filePath bitrate normalized
  · exact @Manager.past_store { session.manager with disk := disk } session.now persisted.past
      trackId filePath bitrate normalized

theorem Persisted.operate {session after : Session} {usage : Usage}
    (persisted : session.Persisted) (step : session.operate usage = some after) :
    after.Persisted := by
  cases usage with
  | getPath trackId =>
      obtain rfl := Option.some.inj step
      exact persisted.getPath trackId
  | cache trackId filePath bitrate normalized size =>
      obtain rfl := Option.some.inj step
      exact persisted.cache _ trackId filePath bitrate normalized
  | setMaxMb maxMb =>
      obtain rfl := Option.some.inj step
      exact persisted_evict persisted.writable persisted.chronological persisted.past
  | clear =>
      obtain rfl := Option.some.inj step
      apply persisted_save
      · simpa [Manager.wipe, Disk.clearCache] using persisted.writable
      · exact .empty _
      · simp [Manager.wipe]
  | vanish path =>
      obtain rfl := Option.some.inj step
      refine ⟨persisted.writable, persisted.chronological, persisted.past, persisted.written, ?_⟩
      intro id entry listed present
      refine persisted.lost id entry listed ?_
      by_cases same : entry.filePath = path
      · simp [Disk.pathExists, same] at present
      · simpa [Disk.pathExists, same] using present
  | clock now =>
      obtain ⟨later, clocked⟩ := Option.ite_none_right_eq_some.mp step
      simp only [Session.step, Option.ite_none_right_eq_some, Option.some.injEq] at clocked
      obtain ⟨-, rfl⟩ := clocked
      exact ⟨persisted.writable, persisted.chronological,
        fun id entry found => (persisted.past id entry found).trans later, persisted.written,
        persisted.lost⟩

theorem persisted_of_reachable {session : Session} (reach : lasting.Reachable session) :
    session.Persisted :=
  reach.invariant _ (fun _ => persisted_initial) fun _ _ _ _ persisted _ step =>
    persisted.operate step

/-- A reload finds exactly the entries in memory whose file exists. -/
theorem Persisted.lookup_reload {session : Session} (persisted : session.Persisted)
    {listing : List (Σ _ : String, Entry)} (lists : Lists session.manager.disk listing)
    (trackId : String) (entry : Entry) :
    (session.manager.reload listing).entries.lookup trackId = some entry ↔
      session.manager.entries.lookup trackId = some entry ∧
        session.manager.disk.pathExists entry.filePath := by
  have loaded : (session.manager.reload listing).entries.lookup trackId = some entry ↔
      session.manager.disk.listed trackId = some entry ∧
        session.manager.disk.pathExists entry.filePath :=
    @Manager.lookup_load session.manager.emptied listing rfl lists trackId entry
  rw [loaded]
  constructor
  · rintro ⟨listed, present⟩
    exact ⟨persisted.lost trackId entry listed present, present⟩
  · rintro ⟨found, present⟩
    exact ⟨persisted.written trackId entry found, present⟩

/-- The metadata file and memory record the same bytes for the files which are there. -/
theorem Persisted.listedBytes_eq {session : Session} (persisted : session.Persisted) :
    session.manager.disk.listedBytes =
      ((session.manager.entries.entries.filter fun cached =>
        session.manager.disk.pathExists cached.2.filePath).map
          fun cached => cached.2.fileSize).sum := by
  have same : ∀ id entry, session.manager.disk.pathExists entry.filePath →
      (session.manager.disk.listed id = some entry ↔
        session.manager.entries.lookup id = some entry) :=
    fun id entry present =>
      ⟨fun listed => persisted.lost id entry listed present, persisted.written id entry⟩
  unfold Disk.listedBytes
  cases metadata : session.manager.disk.metadata with
  | none =>
      have nothing : session.manager.entries.entries.filter (fun cached =>
          session.manager.disk.pathExists cached.2.filePath) = [] := by
        apply List.filter_eq_nil_iff.mpr
        intro cached member present
        have listed := (same cached.1 cached.2 present).mpr (AList.mem_lookup_iff.mpr member)
        simp [Disk.listed, metadata] at listed
      rw [nothing]
      rfl
  | some entries =>
      have permuted : (entries.entries.filter fun listed =>
          session.manager.disk.pathExists listed.2.filePath).Perm
            (session.manager.entries.entries.filter fun cached =>
              session.manager.disk.pathExists cached.2.filePath) := by
        rw [List.perm_ext_iff_of_nodup (entries.nodupKeys.nodup.filter _)
          (session.manager.entries.nodupKeys.nodup.filter _)]
        intro cached
        rw [List.mem_filter, List.mem_filter]
        refine and_congr_left ?_
        intro present
        have agree := same cached.1 cached.2 present
        simp only [Disk.listed, metadata, Option.bind_some] at agree
        rwa [AList.mem_lookup_iff.symm, AList.mem_lookup_iff.symm]
      exact (permuted.map _).sum_eq

/-- Stopping and loading again keeps exactly the entries whose file exists, with their exact total,
in the order they had up to entries with equal access times. -/
theorem restart_loses_nothing {session : Session} (reach : lasting.Reachable session)
    {listing : List (Σ _ : String, Entry)} (lists : Lists session.manager.disk listing) :
    let manager := session.manager
    let loaded := manager.reload listing
    let kept := (manager.entries.entries.filter fun cached =>
      manager.disk.pathExists cached.2.filePath).map fun cached => cached.2.fileSize
    (∀ trackId entry, loaded.entries.lookup trackId = some entry ↔
      manager.entries.lookup trackId = some entry ∧ manager.disk.pathExists entry.filePath) ∧
      (loaded.totalSizeBytes = wrap kept.sum ∧
        (Fits kept.sum → loaded.totalSizeBytes = kept.sum)) ∧
      loaded.order.Perm (manager.order.filter manager.holds) ∧
      loaded.order.map loaded.accessedAt =
        (manager.order.filter manager.holds).map manager.accessedAt := by
  intro manager loaded kept
  have persisted := persisted_of_reachable reach
  have lookup_iff := persisted.lookup_reload lists
  have total : loaded.totalSizeBytes = wrap kept.sum := by
    have loaded_total : loaded.totalSizeBytes = wrap manager.disk.listedBytes :=
      @Manager.totalSizeBytes_load manager.emptied listing rfl lists
    rw [loaded_total, persisted.listedBytes_eq]
  have lookup_eq : ∀ id, loaded.entries.lookup id =
      if manager.holds id then manager.entries.lookup id else none := by
    intro id
    split
    · rename_i held
      obtain ⟨entry, found, present⟩ := Manager.holds_iff.mp held
      rw [found]
      exact (lookup_iff id entry).mpr ⟨found, present⟩
    · rename_i missing
      cases found : loaded.entries.lookup id with
      | none => rfl
      | some entry =>
          have held := Manager.holds_iff.mpr ⟨entry, (lookup_iff id entry).mp found⟩
          exact absurd held missing
  have reloaded : Chronological loaded.order loaded.entries :=
    @Manager.chronological_load manager.emptied listing rfl rfl lists
  have remembered := persisted.chronological.restrict manager.holds lookup_eq
  obtain ⟨permuted, stamps⟩ := reloaded.same_stamps remembered
  refine ⟨lookup_iff, ⟨total, ?_⟩, permuted, ?_⟩
  · intro fits
    rw [total, wrap_of_fits fits]
  · refine stamps.trans ?_
    apply List.map_congr_left
    intro id member
    have held : manager.holds id = true := (List.mem_filter.mp member).2
    rw [lookup_eq, if_pos held]
    rfl

/-- Tracks are cached and looked up, and one loses its file. -/
def usedAndLost : List Usage :=
  [.cache "c" "c.ogg" "144k" false 5, .clock 1400, .getPath "a", .cache "d" "d.ogg" "256k" false 7,
    .vanish "c.ogg"]

theorem reopened_lasting : lasting.initial reopened := by
  refine ⟨64, leftoverDisk, leftover.entries.reverse, List.reverse_perm _, rfl, ?_, rfl⟩
  exact forall_insert (by decide) (forall_insert (by decide) (by simp))

/-- A restart after them finds the two tracks which are left, in their order. -/
theorem usedAndLost_reloaded :
    let manager := (lasting.final reopened usedAndLost rfl).manager
    let loaded := manager.reload (manager.disk.metadata.elim [] AList.entries).reverse
    manager.order = ["c", "a", "d"] ∧ loaded.order = ["a", "d"] ∧ loaded.totalSizeBytes = 10 ∧
      loaded.order.Perm (manager.order.filter manager.holds) ∧
        loaded.order.map loaded.accessedAt =
          (manager.order.filter manager.holds).map manager.accessedAt :=
  ⟨rfl, rfl, rfl, (restart_loses_nothing (System.reachable_final reopened_lasting usedAndLost rfl)
    (List.reverse_perm _)).2.2⟩

end Session

end Togewire.Cache
