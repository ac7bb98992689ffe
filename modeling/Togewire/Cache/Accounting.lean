import Togewire.Cache.Manager

/-!
# The cache's books balance

The queue lists every key of the map exactly once, the running total is the sum of the recorded
sizes, and no clamp ever changes it.  Eviction and replacement take the map and the total apart
from the queue, so the part of the invariant about sizes is preserved on its own through them.
-/

namespace Togewire.Cache

open Ledger Register Transition

/-- Sizes of a map of entries are non-negative and their sum is representable. -/
structure SizesFit (entries : Entries) : Prop where
  nonneg : ∀ trackId entry, entries.lookup trackId = some entry → 0 ≤ entry.fileSize
  bounded : weigh Entry.fileSize entries < 2 ^ 63

theorem SizesFit.empty : SizesFit ∅ where
  nonneg := by simp
  bounded := by simp

theorem SizesFit.erase {entries : Entries} (sizes : SizesFit entries) (trackId : String) :
    SizesFit (entries.erase trackId) where
  nonneg := forall_erase trackId sizes.nonneg
  bounded := by
    have bounded := sizes.bounded
    cases found : entries.lookup trackId with
    | none => rwa [erase_of_notMem (AList.lookup_eq_none.mp found)]
    | some entry =>
        have nonneg := sizes.nonneg trackId entry found
        rw [weigh_erase _ found]
        omega

theorem SizesFit.insert {entries : Entries} (sizes : SizesFit entries) {trackId : String}
    {entry : Entry} (nonneg : 0 ≤ entry.fileSize)
    (bounded : entry.fileSize + weigh Entry.fileSize (entries.erase trackId) < 2 ^ 63) :
    SizesFit (entries.insert trackId entry) where
  nonneg := forall_insert nonneg sizes.nonneg
  bounded := by rwa [weigh_insert]

namespace Manager

/-- The running total agrees with the map, and no clamp has changed it. -/
structure Booked (manager : Manager) : Prop where
  sizes : SizesFit manager.entries
  total : manager.totalSizeBytes = weigh Entry.fileSize manager.entries
  unclamped : manager.clamped = false

/-- The map, the queue and the running total agree. -/
structure Accounted (manager : Manager) : Prop extends Booked manager where
  enumerates : Enumerates manager.order manager.entries

theorem Booked.withDisk {manager : Manager} (booked : manager.Booked) (disk : Disk) :
    { manager with disk := disk }.Booked :=
  ⟨booked.sizes, booked.total, booked.unclamped⟩

theorem Accounted.withDisk {manager : Manager} (accounted : manager.Accounted) (disk : Disk) :
    { manager with disk := disk }.Accounted :=
  ⟨accounted.toBooked.withDisk disk, accounted.enumerates⟩

/-- Taking a present entry's size off the total needs no clamp. -/
theorem Booked.discount {manager : Manager} (booked : manager.Booked) {trackId : String}
    {old : Entry} (found : manager.entries.lookup trackId = some old) :
    ({ manager with entries := manager.entries.erase trackId }.discount old).Booked := by
  have nonneg := weigh_nonneg (booked.sizes.erase trackId).nonneg
  have bounded := (booked.sizes.erase trackId).bounded
  have erased := weigh_erase Entry.fileSize found
  have exact : wrap (manager.totalSizeBytes - old.fileSize) =
      weigh Entry.fileSize (manager.entries.erase trackId) := by
    rw [booked.total, ← erased]
    exact wrap_of_fits ⟨by omega, bounded⟩
  refine ⟨booked.sizes.erase trackId, ?_, ?_⟩
  · simp only [Manager.discount, exact]
    omega
  · simp only [Manager.discount, exact, booked.unclamped]
    simpa using nonneg

theorem Booked.removeEntry {manager : Manager} (booked : manager.Booked) (trackId : String) :
    (manager.removeEntry trackId).Booked := by
  unfold Manager.removeEntry
  cases found : manager.entries.lookup trackId with
  | none => exact booked
  | some old =>
      exact (booked.discount found).withDisk _

theorem Accounted.remove {manager : Manager} (accounted : manager.Accounted) (trackId : String) :
    (manager.remove trackId).Accounted := by
  have removed := accounted.removeEntry trackId
  refine ⟨⟨removed.sizes, removed.total, removed.unclamped⟩, ?_⟩
  simp only [Manager.remove, removeEntry_order, removeEntry_entries]
  exact accounted.enumerates.erase trackId

theorem enumerates_removeEntry {manager : Manager} {oldest : String} {queue : List String}
    (enumerates : Enumerates (oldest :: queue) manager.entries) :
    Enumerates queue (manager.removeEntry oldest).entries := by
  rw [removeEntry_entries]
  exact enumerates.pop

/-- The eviction loop keeps the books for the queue it is left with. -/
theorem Booked.evictFrom {manager : Manager} (booked : manager.Booked) {queue : List String}
    (enumerates : Enumerates queue manager.entries) : (manager.evictFrom queue).Accounted := by
  induction queue generalizing manager with
  | nil => exact { booked with enumerates := enumerates }
  | cons oldest queue ih =>
      unfold Manager.evictFrom
      split
      · exact ih (booked.removeEntry oldest) (enumerates_removeEntry enumerates)
      · exact { booked with enumerates := enumerates }

theorem Accounted.evictIfNeeded {manager : Manager} (accounted : manager.Accounted) :
    manager.evictIfNeeded.Accounted :=
  accounted.toBooked.evictFrom accounted.enumerates

theorem Accounted.supersede {manager : Manager} (accounted : manager.Accounted)
    (trackId filePath : String) : (manager.supersede trackId filePath).Accounted := by
  unfold Manager.supersede
  cases found : manager.entries.lookup trackId with
  | none => exact accounted
  | some old =>
      have discounted := accounted.discount found
      exact ⟨⟨discounted.sizes, discounted.total, discounted.unclamped⟩,
        accounted.enumerates.erase trackId⟩

/-- Recording a new track keeps the books while the total stays representable. -/
theorem Accounted.enter {manager : Manager} (accounted : manager.Accounted) {trackId : String}
    {entry : Entry} (fresh : trackId ∉ manager.entries) (nonneg : 0 ≤ entry.fileSize)
    (bounded : entry.fileSize + weigh Entry.fileSize manager.entries < 2 ^ 63) :
    (manager.enter trackId entry).Accounted := by
  have old_nonneg := weigh_nonneg accounted.sizes.nonneg
  refine ⟨⟨?_, ?_, accounted.unclamped⟩, accounted.enumerates.push fresh entry⟩
  · apply accounted.sizes.insert nonneg
    rwa [erase_of_notMem fresh]
  · simp only [Manager.enter]
    rw [weigh_insert_of_notMem _ fresh, accounted.total, Int.add_comm]
    exact wrap_of_fits ⟨by omega, bounded⟩

theorem Accounted.store {manager : Manager} (accounted : manager.Accounted)
    {trackId filePath : String} (bitrate : String) (normalized : Bool) (now : Int)
    (nonneg : 0 ≤ sizeOnDisk manager.disk filePath)
    (bounded : sizeOnDisk manager.disk filePath +
      weigh Entry.fileSize (manager.entries.erase trackId) < 2 ^ 63) :
    (manager.store trackId filePath bitrate normalized now).Accounted := by
  have fresh : trackId ∉ (manager.supersede trackId filePath).entries := by
    rw [supersede_entries, AList.mem_erase]
    simp
  rw [← supersede_entries manager trackId filePath] at bounded
  exact (accounted.supersede trackId filePath).enter fresh nonneg bounded

theorem Accounted.limit {manager : Manager} (accounted : manager.Accounted) (maxBytes : Int) :
    (manager.limit maxBytes).Accounted :=
  ⟨⟨accounted.sizes, accounted.total, accounted.unclamped⟩, accounted.enumerates⟩

theorem Accounted.save {manager : Manager} (accounted : manager.Accounted) :
    manager.save.Accounted :=
  accounted.withDisk _

/-- Renewing an access time changes no size. -/
theorem Accounted.touch {manager : Manager} (accounted : manager.Accounted) (trackId : String)
    (now : Int) : (manager.touch trackId now).2.Accounted := by
  cases found : manager.entries.lookup trackId with
  | none => simpa [Manager.touch, found] using accounted
  | some entry =>
      by_cases recent : wrap (now - entry.lastAccessedAt) < touchPersistSecs
      · rw [touch_of_recent found recent]
        exact accounted
      · rw [touch_of_stale accounted.enumerates.nodup found recent]
        have nonneg := accounted.sizes.nonneg trackId entry found
        have unchanged : weigh Entry.fileSize
            (manager.entries.insert trackId { entry with lastAccessedAt := now }) =
            weigh Entry.fileSize manager.entries := by
          rw [weigh_insert, weigh_erase _ found]
          exact add_sub_cancel _ _
        refine ⟨⟨⟨?_, ?_⟩, ?_, accounted.unclamped⟩, accounted.enumerates.renew trackId _⟩
        · exact forall_insert nonneg accounted.sizes.nonneg
        · rw [unchanged]
          exact accounted.sizes.bounded
        · rw [unchanged]
          exact accounted.total

theorem Accounted.wipe {manager : Manager} (accounted : manager.Accounted) :
    manager.wipe.Accounted :=
  ⟨⟨SizesFit.empty, rfl, accounted.unclamped⟩, Enumerates.empty⟩

/-- The loading loop keeps the books when the listed tracks are new, distinct and fit. -/
theorem Accounted.foldl_loadEntry {manager : Manager} (accounted : manager.Accounted)
    {listing : List (Σ _ : String, Entry)} (distinct : listing.NodupKeys)
    (fresh : ∀ listed ∈ listing, listed.1 ∉ manager.entries)
    (nonneg : ∀ listed ∈ listing, 0 ≤ listed.2.fileSize)
    (bounded : (listing.map fun listed => listed.2.fileSize).sum +
      weigh Entry.fileSize manager.entries < 2 ^ 63) :
    (listing.foldl Manager.loadEntry manager).Accounted := by
  induction listing generalizing manager with
  | nil => exact accounted
  | cons listed listing ih =>
      obtain ⟨unlisted, distinct⟩ := List.nodupKeys_cons.mp distinct
      obtain ⟨new, fresh⟩ := List.forall_mem_cons.mp fresh
      obtain ⟨size_nonneg, nonneg⟩ := List.forall_mem_cons.mp nonneg
      have rest_nonneg : 0 ≤ (listing.map fun listed => listed.2.fileSize).sum := by
        apply List.sum_nonneg
        intro size member
        obtain ⟨other, other_mem, rfl⟩ := List.mem_map.mp member
        exact nonneg other other_mem
      rw [List.map_cons, List.sum_cons] at bounded
      rw [List.foldl_cons]
      unfold Manager.loadEntry
      split
      · apply ih (accounted.enter new size_nonneg (by omega)) distinct
        · intro other other_mem
          simp only [Manager.enter, AList.mem_insert, not_or]
          refine ⟨?_, fresh other other_mem⟩
          rintro same
          exact unlisted (same ▸ List.mem_keys_of_mem other_mem)
        · exact nonneg
        · simp only [Manager.enter]
          rw [weigh_insert_of_notMem _ new]
          omega
      · exact ih accounted distinct fresh nonneg (by omega)

theorem Accounted.load {manager : Manager} (accounted : manager.Accounted)
    {listing : List (Σ _ : String, Entry)} (lists : Lists manager.disk listing)
    (sizes : ∀ entries, manager.disk.metadata = some entries → SizesFit entries) :
    (manager.load listing).Accounted := by
  unfold Manager.load
  cases metadata : manager.disk.metadata with
  | none => exact accounted
  | some entries =>
      have fits := sizes entries metadata
      have sorted := sortListing_perm lists metadata
      apply Accounted.foldl_loadEntry
      · exact ⟨⟨SizesFit.empty, rfl, accounted.unclamped⟩, Enumerates.empty⟩
      · exact (List.perm_nodupKeys sorted).mpr entries.nodupKeys
      · intro listed _
        exact AList.notMem_empty _
      · intro listed member
        exact fits.nonneg listed.1 listed.2
          (AList.mem_lookup_iff.mpr (sorted.mem_iff.mp member))
      · rw [(sorted.map _).sum_eq, weigh_empty, Int.add_zero]
        exact fits.bounded

theorem accounted_new {maxMb : Nat} {disk : Disk} {listing : List (Σ _ : String, Entry)}
    (lists : Lists disk listing)
    (sizes : ∀ entries, disk.metadata = some entries → SizesFit entries) :
    (new maxMb disk listing).Accounted := by
  apply Accounted.load
  · exact ⟨⟨SizesFit.empty, rfl, rfl⟩, Enumerates.empty⟩
  · exact lists_sweepWorkDirs.mpr lists
  · simpa [Disk.sweepWorkDirs] using sizes

end Manager

namespace Session

/-- Every file `put` is given has a size, and it fits beside the tracks that stay. -/
def Fitting (session : Session) : CacheEvent → Prop
  | .put trackId filePath _ _ =>
      0 ≤ Manager.sizeOnDisk session.manager.disk filePath ∧
        Manager.sizeOnDisk session.manager.disk filePath +
          weigh Entry.fileSize (session.manager.entries.erase trackId) < 2 ^ 63
  | _ => True

instance decidableFitting (session : Session) :
    ∀ event, Decidable (session.Fitting event)
  | .put _ _ _ _ => inferInstanceAs (Decidable (_ ∧ _))
  | .getPath _ | .setMaxMb _ | .clear | .restart _ _ | .file _ _ | .access _ | .clock _ =>
      inferInstanceAs (Decidable True)

/-- The cache loaded from any metadata file whose sizes fit. -/
def system : System Session CacheEvent where
  initial session :=
    ∃ maxMb disk listing, Lists disk listing ∧
      (∀ entries, disk.metadata = some entries → SizesFit entries) ∧
      session.manager = Manager.new maxMb disk listing
  step := step

/-- The books balance, and so do those of the metadata file. -/
structure Balanced (session : Session) : Prop where
  accounted : session.manager.Accounted
  metadata : ∀ entries, session.manager.disk.metadata = some entries → SizesFit entries

theorem Balanced.save {session : Session} (balanced : session.Balanced) {manager : Manager}
    (accounted : manager.Accounted)
    (unwritten : manager.disk.metadata = session.manager.disk.metadata) :
    { session with manager := manager.save }.Balanced := by
  refine ⟨accounted.save, ?_⟩
  intro entries found
  simp only [Manager.save, Disk.saveMetadata] at found
  split at found
  · obtain rfl := Option.some.inj found
    exact accounted.sizes
  · exact balanced.metadata entries (unwritten ▸ found)

theorem Balanced.use {session : Session} (balanced : session.Balanced) (trackId : String) :
    (session.use trackId).Balanced :=
  ⟨balanced.accounted, balanced.metadata⟩

theorem Balanced.getPath {session : Session} (balanced : session.Balanced) (trackId : String) :
    (session.getPath trackId).Balanced := by
  have looked : { session with
      manager := (session.manager.getPath trackId session.now).2 }.Balanced := by
    unfold Manager.getPath
    split
    · exact balanced
    · split
      · dsimp only
        split
        · exact balanced.save (balanced.accounted.touch trackId session.now) (by simp)
        · exact ⟨balanced.accounted.touch trackId session.now, by simpa using balanced.metadata⟩
      · exact balanced.save (balanced.accounted.remove trackId) (by simp [Manager.remove])
  unfold Session.getPath
  dsimp only
  split
  · exact looked.use trackId
  · exact looked

/-- Every operation and every change of the surroundings keeps the books balanced. -/
theorem Balanced.step {session after : Session} {event : CacheEvent} (balanced : session.Balanced)
    (fitting : session.Fitting event) (step : session.step event = some after) :
    after.Balanced := by
  cases event with
  | getPath trackId =>
      obtain rfl := Option.some.inj step
      exact balanced.getPath trackId
  | put trackId filePath bitrate normalized =>
      obtain rfl := Option.some.inj step
      have stored := balanced.accounted.store bitrate normalized session.now fitting.1 fitting.2
      have saved := balanced.save stored.evictIfNeeded
        (by simp [Manager.evictIfNeeded, Manager.store, Manager.enter])
      exact saved.use trackId
  | setMaxMb maxMb =>
      obtain rfl := Option.some.inj step
      have limited := balanced.accounted.limit (Cache.maxBytes maxMb)
      exact balanced.save limited.evictIfNeeded (by simp [Manager.evictIfNeeded])
  | clear =>
      obtain rfl := Option.some.inj step
      exact balanced.save balanced.accounted.wipe (by simp [Manager.wipe, Disk.clearCache])
  | restart maxMb listing =>
      simp only [Session.step, Option.ite_none_right_eq_some, Option.some.injEq] at step
      obtain ⟨lists, rfl⟩ := step
      have loaded : (Manager.new maxMb session.manager.disk listing).Accounted :=
        Manager.accounted_new lists balanced.metadata
      refine ⟨⟨⟨loaded.sizes, loaded.total, balanced.accounted.unclamped⟩, loaded.enumerates⟩, ?_⟩
      simpa [Disk.sweepWorkDirs] using balanced.metadata
  | file path size =>
      obtain rfl := Option.some.inj step
      exact ⟨balanced.accounted.withDisk _, balanced.metadata⟩
  | access writable =>
      obtain rfl := Option.some.inj step
      exact ⟨balanced.accounted.withDisk _, balanced.metadata⟩
  | clock now =>
      simp only [Session.step, Option.ite_none_right_eq_some, Option.some.injEq] at step
      obtain ⟨-, rfl⟩ := step
      exact ⟨balanced.accounted, balanced.metadata⟩

theorem balanced_of_reachable {session : Session}
    (reach : system.ReachableUnder Fitting session) : session.Balanced := by
  refine reach.invariant _ ?_ ?_
  · rintro session ⟨maxMb, disk, listing, lists, sizes, manager_eq⟩
    refine ⟨by rw [manager_eq]; exact Manager.accounted_new lists sizes, ?_⟩
    rw [manager_eq]
    simpa [Disk.sweepWorkDirs] using sizes
  · intro before event after _ balanced fitting step
    exact balanced.step fitting step

/-- The queue lists every cached track exactly once, the total is the sum of the recorded sizes,
and no clamp has ever changed it. -/
theorem order_and_total_exact {session : Session} (reach : system.ReachableUnder Fitting session) :
    session.manager.order.Nodup ∧
      (∀ trackId, trackId ∈ session.manager.order ↔ trackId ∈ session.manager.entries) ∧
      session.manager.totalSizeBytes =
        (session.manager.entries.entries.map fun entry => entry.2.fileSize).sum ∧
      session.manager.clamped = false := by
  have accounted := (balanced_of_reachable reach).accounted
  exact ⟨accounted.enumerates.nodup, accounted.enumerates.mem_iff, accounted.total,
    accounted.unclamped⟩

/-- The metadata file of a cache which has lost the file of one of its two tracks. -/
def leftover : Entries :=
  AList.insert "b" ⟨20, "b.ogg", 9, "144k", false⟩
    (AList.insert "a" ⟨10, "a.ogg", 3, "144k", true⟩ ∅)

/-- The disk around that metadata file, with two files of three bytes. -/
def leftoverDisk : Disk where
  files path := if path = "a.ogg" ∨ path = "c.ogg" then some 3 else none
  metadata := some leftover
  writable := true
  stale := false

/-- A start on that disk. -/
def reopened : Session where
  manager := Manager.new 64 leftoverDisk leftover.entries.reverse
  now := 1000
  lastUsed _ := 0

theorem reopened_initial : system.initial reopened := by
  refine ⟨64, leftoverDisk, leftover.entries.reverse, List.reverse_perm _, ?_, rfl⟩
  intro entries found
  obtain rfl := Option.some.inj found
  refine ⟨?_, by decide⟩
  exact forall_insert (by decide) (forall_insert (by decide) (by simp))

/-- One track is renewed, one is cached twice under different files, and one vanishes. -/
def mixedUse : List CacheEvent :=
  [.getPath "a", .put "c" "a.ogg" "256k" false, .put "c" "c.ogg" "144k" false,
    .file "c.ogg" none, .getPath "c", .put "d" "none.ogg" "144k" false]

theorem mixedUse_exact :
    let manager := (system.final reopened mixedUse rfl).manager
    manager.order = ["a", "d"] ∧ manager.order.Nodup ∧
      (∀ trackId, trackId ∈ manager.order ↔ trackId ∈ manager.entries) ∧
      manager.totalSizeBytes = (manager.entries.entries.map fun entry => entry.2.fileSize).sum ∧
      manager.clamped = false :=
  ⟨rfl, order_and_total_exact (System.ReachableUnder.final reopened_initial
    (by decide : system.Admits Fitting reopened mixedUse) rfl)⟩

end Session

end Togewire.Cache
