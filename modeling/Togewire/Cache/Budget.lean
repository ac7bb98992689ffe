import Togewire.Cache.Accounting
import Togewire.Cache.Recency

/-!
# What fits the byte limit

Eviction takes tracks from the front of the queue until the rest fits.  A track therefore stays
exactly when the bytes recorded from its place in the queue on fit the limit, and the total is
within the limit after every operation that evicts.  Loading does not evict.
-/

namespace Togewire.Cache

open Ledger Register Transition

namespace Disk

@[simp] theorem removeFile_writable (disk : Disk) (path : String) :
    (disk.removeFile path).writable = disk.writable := by
  unfold removeFile setFile
  split <;> rfl

theorem pathExists_removeFile (disk : Disk) (path other : String) :
    (disk.removeFile path).pathExists other ↔
      disk.pathExists other ∧ (disk.writable → other ≠ path) := by
  unfold removeFile setFile
  by_cases writable : disk.writable
  · by_cases same : other = path
    · simp [writable, same, pathExists]
    · simp [writable, same, pathExists]
  · simp [writable]

/-- The bytes the metadata file records for the files which are there. -/
def listedBytes (disk : Disk) : Int :=
  match disk.metadata with
  | none => 0
  | some entries =>
      ((entries.entries.filter fun listed => disk.pathExists listed.2.filePath).map
        fun listed => listed.2.fileSize).sum

end Disk

namespace Manager

variable {manager : Manager} {queue : List String}

/-! ## What eviction leaves -/

theorem Booked.total_queue (booked : manager.Booked)
    (enumerates : Enumerates queue manager.entries) :
    manager.totalSizeBytes = weighQueue Entry.fileSize queue manager.entries := by
  rw [booked.total, enumerates.weighQueue_eq]

/-- A track stays when the bytes recorded from its place in the queue on fit the limit. -/
theorem lookup_evictFrom (booked : manager.Booked) (enumerates : Enumerates queue manager.entries)
    (trackId : String) :
    (manager.evictFrom queue).entries.lookup trackId =
      if weighFrom Entry.fileSize queue manager.entries trackId ≤ manager.maxBytes then
        manager.entries.lookup trackId
      else
        none := by
  induction queue generalizing manager with
  | nil =>
      simp [evictFrom, enumerates.lookup_of_nil trackId]
  | cons oldest queue ih =>
      have total := booked.total_queue enumerates
      unfold evictFrom
      split
      · rename_i exceeds
        rw [ih (booked.removeEntry oldest) (enumerates_removeEntry enumerates)]
        simp only [removeEntry_entries, removeEntry_maxBytes]
        by_cases same : trackId = oldest
        · subst same
          have exceeds : ¬ weighFrom Entry.fileSize (trackId :: queue) manager.entries trackId ≤
              manager.maxBytes := by
            rw [weighFrom_cons_self]
            omega
          rw [if_neg exceeds, AList.lookup_erase]
          split <;> rfl
        · rw [enumerates.weighFrom_pop _ same, AList.lookup_erase_ne same]
      · have fits := weighFrom_le booked.sizes.nonneg (oldest :: queue) trackId
        rw [if_pos (by omega)]

/-- A file stays unless a track recorded under it goes. -/
theorem pathExists_evictFrom (booked : manager.Booked)
    (enumerates : Enumerates queue manager.entries) (path : String) :
    (manager.evictFrom queue).disk.pathExists path ↔
      manager.disk.pathExists path ∧ (manager.disk.writable → ∀ trackId entry,
        manager.entries.lookup trackId = some entry → entry.filePath = path →
          weighFrom Entry.fileSize queue manager.entries trackId ≤ manager.maxBytes) := by
  induction queue generalizing manager with
  | nil =>
      simp [evictFrom, enumerates.lookup_of_nil]
  | cons oldest queue ih =>
      have total := booked.total_queue enumerates
      unfold evictFrom
      split
      · rename_i exceeds
        have popped := enumerates_removeEntry enumerates
        obtain ⟨old, found⟩ := enumerates.lookup_of_mem List.mem_cons_self
        have disk_eq : (manager.removeEntry oldest).disk =
            manager.disk.removeFile old.filePath := by
          simp [removeEntry, found]
        rw [ih (booked.removeEntry oldest) popped, disk_eq, Disk.pathExists_removeFile,
          Disk.removeFile_writable, removeEntry_entries, removeEntry_maxBytes]
        constructor
        · rintro ⟨⟨there, different⟩, rest⟩
          refine ⟨there, ?_⟩
          intro writable trackId entry listed recorded
          by_cases same : trackId = oldest
          · subst same
            obtain rfl : old = entry := Option.some.inj (found.symm.trans listed)
            exact absurd recorded.symm (different writable)
          · rw [← enumerates.weighFrom_pop _ same]
            refine rest writable trackId entry ?_ recorded
            rwa [AList.lookup_erase_ne same]
        · rintro ⟨there, every⟩
          have different : manager.disk.writable → path ≠ old.filePath := by
            rintro writable rfl
            have fits := every writable oldest old found rfl
            rw [weighFrom_cons_self] at fits
            omega
          refine ⟨⟨there, different⟩, ?_⟩
          intro writable trackId entry listed recorded
          have same : trackId ≠ oldest := by
            rintro rfl
            simp at listed
          rw [AList.lookup_erase_ne same] at listed
          have fits := every writable trackId entry listed recorded
          rwa [← enumerates.weighFrom_pop _ same] at fits
      · have fits : ∀ trackId,
            weighFrom Entry.fileSize (oldest :: queue) manager.entries trackId ≤
              manager.maxBytes := by
          intro trackId
          have bounded := weighFrom_le booked.sizes.nonneg (oldest :: queue) trackId
          omega
        exact ⟨fun there => ⟨there, fun _ trackId _ _ _ => fits trackId⟩, And.left⟩

@[simp] theorem evictFrom_maxBytes (manager : Manager) (queue : List String) :
    (manager.evictFrom queue).maxBytes = manager.maxBytes := by
  induction queue generalizing manager with
  | nil => rfl
  | cons oldest queue ih =>
      unfold evictFrom
      split
      · rw [ih, removeEntry_maxBytes]
      · rfl

theorem totalSizeBytes_evictFrom_le (booked : manager.Booked)
    (enumerates : Enumerates queue manager.entries) (limit_nonneg : 0 ≤ manager.maxBytes) :
    (manager.evictFrom queue).totalSizeBytes ≤ (manager.evictFrom queue).maxBytes := by
  induction queue generalizing manager with
  | nil =>
      have empty : manager.totalSizeBytes = 0 := by
        rw [booked.total, ← enumerates.weighQueue_eq]
        rfl
      simpa [evictFrom, empty] using limit_nonneg
  | cons oldest queue ih =>
      unfold evictFrom
      split
      · apply ih (booked.removeEntry oldest) (enumerates_removeEntry enumerates)
        simpa using limit_nonneg
      · rename_i fits
        exact not_lt.mp fits

/-! ## A finished file stays cached -/

/-- A track is recorded under a path, and the file is there. -/
def CachedAt (manager : Manager) (trackId filePath : String) : Prop :=
  (∃ entry, manager.entries.lookup trackId = some entry ∧ entry.filePath = filePath) ∧
    manager.disk.pathExists filePath

/-- A new file fits the limit alone, and every other track recorded under its path fits together
with the tracks queued behind it and the new file. -/
structure Room (manager : Manager) (trackId filePath : String) (size : Int) : Prop where
  alone : size ≤ manager.maxBytes
  shared : manager.disk.writable → ∀ other entry, other ≠ trackId →
    manager.entries.lookup other = some entry → entry.filePath = filePath →
      weighFrom Entry.fileSize (manager.order.filter fun id => id ≠ trackId) manager.entries other +
        size ≤ manager.maxBytes

theorem supersede_order_of_enumerates (enumerates : Enumerates manager.order manager.entries)
    (trackId filePath : String) :
    (manager.supersede trackId filePath).order = manager.order.filter fun id => id ≠ trackId := by
  unfold supersede
  cases found : manager.entries.lookup trackId with
  | none =>
      have unlisted : trackId ∉ manager.order := by
        rw [enumerates.mem_iff]
        exact AList.lookup_eq_none.mp found
      symm
      apply List.filter_eq_self.mpr
      intro id member
      have different : id ≠ trackId := fun same => unlisted (same ▸ member)
      simpa using different
  | some old => rfl

@[simp] theorem supersede_maxBytes (manager : Manager) (trackId filePath : String) :
    (manager.supersede trackId filePath).maxBytes = manager.maxBytes := by
  unfold supersede
  split <;> rfl

/-- Replacing a track's entry leaves the file of the new one and the directory's permission. -/
theorem supersede_disk (manager : Manager) (trackId filePath : String) :
    ((manager.supersede trackId filePath).disk.pathExists filePath ↔
      manager.disk.pathExists filePath) ∧
        (manager.supersede trackId filePath).disk.writable = manager.disk.writable := by
  unfold supersede
  split
  · exact ⟨Iff.rfl, rfl⟩
  · rename_i old found
    dsimp only
    split
    · rename_i replaced
      rw [discount_disk, Disk.pathExists_removeFile, Disk.removeFile_writable]
      exact ⟨and_iff_left fun _ => replaced.symm, rfl⟩
    · exact ⟨Iff.rfl, rfl⟩

/-- The queue `put` evicts from, for the track it adds and for every other one. -/
theorem weighFrom_store (enumerates : Enumerates manager.order manager.entries)
    (trackId filePath bitrate : String) (normalized : Bool) (now : Int) :
    let stored := manager.store trackId filePath bitrate normalized now
    weighFrom Entry.fileSize stored.order stored.entries trackId =
        sizeOnDisk manager.disk filePath ∧
      ∀ other ∈ manager.entries, other ≠ trackId →
        weighFrom Entry.fileSize stored.order stored.entries other =
          weighFrom Entry.fileSize (manager.order.filter fun id => id ≠ trackId) manager.entries
            other + sizeOnDisk manager.disk filePath := by
  have fresh : trackId ∉ manager.order.filter fun id => id ≠ trackId := by simp
  simp only [store, enter, supersede_order_of_enumerates enumerates, supersede_entries]
  refine ⟨weighFrom_newest _ _ fresh, ?_⟩
  intro other cached different
  have listed : other ∈ manager.order.filter fun id => id ≠ trackId :=
    List.mem_filter.mpr ⟨(enumerates.mem_iff other).mpr cached, by simpa using different⟩
  rw [weighFrom_push _ _ listed fresh]
  congr 1
  apply weighFrom_congr
  intro id member
  have kept : id ≠ trackId := by simpa using (List.mem_filter.mp member).2
  exact AList.lookup_erase_ne kept

/-- `put` leaves a finished file cached exactly when there is room for it. -/
theorem cachedAt_put_iff (accounted : manager.Accounted) {trackId filePath : String} {size : Nat}
    (finished : manager.disk.files filePath = some size) (bitrate : String) (normalized : Bool)
    (now : Int)
    (bounded : size + weigh Entry.fileSize (manager.entries.erase trackId) < 2 ^ 63) :
    (manager.put trackId filePath bitrate normalized now).CachedAt trackId filePath ↔
      manager.Room trackId filePath size := by
  have rest_nonneg := weigh_nonneg (accounted.sizes.erase trackId).nonneg
  have size_eq : sizeOnDisk manager.disk filePath = size := by
    simp only [sizeOnDisk, finished]
    exact wrap_of_fits ⟨by omega, by omega⟩
  have stored : (manager.store trackId filePath bitrate normalized now).Accounted :=
    accounted.store bitrate normalized now (by omega) (by omega)
  obtain ⟨there_iff, writable_eq⟩ := manager.supersede_disk trackId filePath
  obtain ⟨own, others⟩ :=
    weighFrom_store accounted.enumerates trackId filePath bitrate normalized now
  rw [size_eq] at own others
  have there : (manager.store trackId filePath bitrate normalized now).disk.pathExists filePath :=
    there_iff.mpr (by simp [Disk.pathExists, finished])
  have limit_eq : (manager.store trackId filePath bitrate normalized now).maxBytes =
      manager.maxBytes := supersede_maxBytes manager trackId filePath
  have writable : (manager.store trackId filePath bitrate normalized now).disk.writable =
      manager.disk.writable := writable_eq
  have entries_eq : (manager.store trackId filePath bitrate normalized now).entries =
      (manager.entries.erase trackId).insert trackId
        ⟨now, filePath, size, bitrate, normalized⟩ := by
    simp [store, enter, size_eq]
  have recorded : (manager.store trackId filePath bitrate normalized now).entries.lookup trackId =
      some ⟨now, filePath, size, bitrate, normalized⟩ := by
    rw [entries_eq, AList.lookup_insert]
  have entry_iff := lookup_evictFrom stored.toBooked stored.enumerates trackId
  have file_iff := pathExists_evictFrom stored.toBooked stored.enumerates filePath
  rw [own, limit_eq, recorded] at entry_iff
  rw [limit_eq, writable] at file_iff
  have saved : (manager.put trackId filePath bitrate normalized now).CachedAt trackId filePath ↔
      (manager.store trackId filePath bitrate normalized now).evictIfNeeded.CachedAt trackId
        filePath := by
    simp [put, save, CachedAt, Disk.pathExists]
  rw [saved, CachedAt, evictIfNeeded, entry_iff, file_iff]
  constructor
  · rintro ⟨⟨entry, found, -⟩, -, stays⟩
    have alone : (size : Int) ≤ manager.maxBytes := by
      by_contra exceeds
      simp [exceeds] at found
    refine ⟨alone, ?_⟩
    intro writes other entry different listed path_eq
    have cached : other ∈ manager.entries := AList.lookup_isSome.mp (by simp [listed])
    rw [← others other cached different]
    refine stays writes other entry ?_ path_eq
    rwa [entries_eq, AList.lookup_insert_ne different, AList.lookup_erase_ne different]
  · rintro ⟨alone, shared⟩
    refine ⟨⟨_, if_pos alone, rfl⟩, there, ?_⟩
    intro writes other entry listed path_eq
    by_cases same : other = trackId
    · subst same
      rwa [own]
    · rw [entries_eq, AList.lookup_insert_ne same, AList.lookup_erase_ne same] at listed
      have cached : other ∈ manager.entries := AList.lookup_isSome.mp (by simp [listed])
      rw [others other cached same]
      exact shared writes other entry same listed path_eq

/-- A track is cached under a path exactly when every lookup returns it. -/
theorem getPath_eq_iff (manager : Manager) (trackId filePath : String) (now : Int) :
    (manager.getPath trackId now).1 = some filePath ↔ manager.CachedAt trackId filePath := by
  unfold getPath CachedAt
  cases found : manager.entries.lookup trackId with
  | none => simp
  | some entry =>
      by_cases there : manager.disk.pathExists entry.filePath
      · simp only [there, if_true, Option.some.injEq, exists_eq_left']
        constructor
        · rintro rfl
          exact ⟨rfl, there⟩
        · exact And.left
      · simp only [there, Option.some.injEq, exists_eq_left']
        constructor
        · simp
        · rintro ⟨rfl, present⟩
          exact absurd present there

/-! ## The total of a loaded cache -/

@[simp] theorem loadEntry_maxBytes (manager : Manager) (listed : Σ _ : String, Entry) :
    (manager.loadEntry listed).maxBytes = manager.maxBytes := by
  unfold loadEntry
  split <;> rfl

@[simp] theorem foldl_loadEntry_maxBytes (manager : Manager)
    (listing : List (Σ _ : String, Entry)) :
    (listing.foldl loadEntry manager).maxBytes = manager.maxBytes := by
  induction listing generalizing manager with
  | nil => rfl
  | cons listed listing ih => rw [List.foldl_cons, ih, loadEntry_maxBytes]

@[simp] theorem new_maxBytes (maxMb : Nat) (disk : Disk) (listing : List (Σ _ : String, Entry)) :
    (new maxMb disk listing).maxBytes = Cache.maxBytes maxMb := by
  unfold new load
  split <;> simp

theorem foldl_loadEntry_totalSizeBytes (manager : Manager) (listing : List (Σ _ : String, Entry))
    (fits : Fits manager.totalSizeBytes) :
    (listing.foldl loadEntry manager).totalSizeBytes =
      wrap (manager.totalSizeBytes +
        ((listing.filter fun listed => manager.disk.pathExists listed.2.filePath).map
          fun listed => listed.2.fileSize).sum) := by
  induction listing generalizing manager with
  | nil => simpa using (wrap_of_fits fits).symm
  | cons listed listing ih =>
      rw [List.foldl_cons]
      by_cases there : manager.disk.pathExists listed.2.filePath
      · have entered : manager.loadEntry listed = manager.enter listed.1 listed.2 := by
          simp [loadEntry, there]
        rw [entered, ih _ (fits_wrap _)]
        simp only [enter, wrap_wrap_add, List.filter_cons, there, if_true, List.map_cons,
          List.sum_cons]
        rw [Int.add_assoc]
      · have skipped : manager.loadEntry listed = manager := by
          simp [loadEntry, there]
        rw [skipped, ih _ fits, List.filter_cons_of_neg (by simpa using there)]

theorem totalSizeBytes_load {manager : Manager} {listing : List (Σ _ : String, Entry)}
    (unused : manager.totalSizeBytes = 0) (lists : Lists manager.disk listing) :
    (manager.load listing).totalSizeBytes = wrap manager.disk.listedBytes := by
  unfold load Disk.listedBytes
  cases metadata : manager.disk.metadata with
  | none => exact unused
  | some entries =>
      have sorted := sortListing_perm lists metadata
      rw [foldl_loadEntry_totalSizeBytes _ _ (show Fits 0 by decide)]
      simp only [Int.zero_add]
      rw [((sorted.filter _).map _).sum_eq]

theorem totalSizeBytes_new (maxMb : Nat) {disk : Disk} {listing : List (Σ _ : String, Entry)}
    (lists : Lists disk listing) :
    (new maxMb disk listing).totalSizeBytes = wrap disk.sweepWorkDirs.listedBytes := by
  rw [new, totalSizeBytes_load rfl (lists_sweepWorkDirs.mpr lists)]

/-- The sizes of the listed files which are there fit when those of all listed files do. -/
theorem wrap_listedBytes {disk : Disk}
    (sizes : ∀ entries, disk.metadata = some entries → SizesFit entries) :
    wrap disk.listedBytes = disk.listedBytes := by
  unfold Disk.listedBytes
  cases metadata : disk.metadata with
  | none => rfl
  | some entries =>
      have fits := sizes entries metadata
      have nonneg : ∀ size ∈ entries.entries.map fun listed => listed.2.fileSize, 0 ≤ size := by
        intro size member
        obtain ⟨listed, listed_mem, rfl⟩ := List.mem_map.mp member
        exact fits.nonneg listed.1 listed.2 (AList.mem_lookup_iff.mpr listed_mem)
      have part : ((entries.entries.filter fun listed => disk.pathExists listed.2.filePath).map
          fun listed => listed.2.fileSize).Sublist
            (entries.entries.map fun listed => listed.2.fileSize) :=
        List.filter_sublist.map _
      have part_nonneg := List.sum_nonneg fun size member => nonneg size (part.subset member)
      have part_le := part.sum_le_sum nonneg
      have bounded := fits.bounded
      unfold weigh at bounded
      dsimp only
      exact wrap_of_fits ⟨by omega, by omega⟩

/-- A start is within the limit exactly when the listed files which are there are. -/
theorem new_within_iff (maxMb : Nat) {disk : Disk} {listing : List (Σ _ : String, Entry)}
    (lists : Lists disk listing)
    (sizes : ∀ entries, disk.metadata = some entries → SizesFit entries) :
    (new maxMb disk listing).totalSizeBytes ≤ (new maxMb disk listing).maxBytes ↔
      disk.sweepWorkDirs.listedBytes ≤ Cache.maxBytes maxMb := by
  have swept : ∀ entries, disk.sweepWorkDirs.metadata = some entries → SizesFit entries := by
    simpa [Disk.sweepWorkDirs] using sizes
  rw [totalSizeBytes_new maxMb lists, wrap_listedBytes swept, new_maxBytes]

theorem maxBytes_nonneg (maxMb : Nat) : 0 ≤ Cache.maxBytes maxMb := by
  unfold Cache.maxBytes
  omega

/-- The total is within a limit which is not negative. -/
structure Within (manager : Manager) : Prop where
  limit_nonneg : 0 ≤ manager.maxBytes
  total_le : manager.totalSizeBytes ≤ manager.maxBytes

theorem within_evictIfNeeded (accounted : manager.Accounted)
    (limit_nonneg : 0 ≤ manager.maxBytes) : manager.evictIfNeeded.save.Within := by
  refine ⟨?_, totalSizeBytes_evictFrom_le accounted.toBooked accounted.enumerates limit_nonneg⟩
  simpa [save, evictIfNeeded] using limit_nonneg

theorem touch_limit (manager : Manager) (trackId : String) (now : Int) :
    (manager.touch trackId now).2.maxBytes = manager.maxBytes ∧
      (manager.touch trackId now).2.totalSizeBytes = manager.totalSizeBytes := by
  unfold touch
  split
  · exact ⟨rfl, rfl⟩
  · split
    · exact ⟨rfl, rfl⟩
    · dsimp only
      split <;> exact ⟨rfl, rfl⟩

theorem totalSizeBytes_remove_le (accounted : manager.Accounted) (trackId : String) :
    (manager.remove trackId).totalSizeBytes ≤ manager.totalSizeBytes := by
  rw [(accounted.remove trackId).total, accounted.total]
  simp only [remove, removeEntry_entries]
  cases found : manager.entries.lookup trackId with
  | none => rw [erase_of_notMem (AList.lookup_eq_none.mp found)]
  | some entry =>
      have nonneg := accounted.sizes.nonneg trackId entry found
      rw [weigh_erase Entry.fileSize found]
      omega

theorem Within.getPath (within : manager.Within) (accounted : manager.Accounted)
    (trackId : String) (now : Int) : (manager.getPath trackId now).2.Within := by
  obtain ⟨limit_nonneg, total_le⟩ := within
  obtain ⟨limit_eq, total_eq⟩ := manager.touch_limit trackId now
  have touched : (manager.touch trackId now).2.Within :=
    ⟨by rwa [limit_eq], by rwa [limit_eq, total_eq]⟩
  unfold Manager.getPath
  split
  · exact ⟨limit_nonneg, total_le⟩
  · split
    · dsimp only
      split
      · exact ⟨touched.limit_nonneg, touched.total_le⟩
      · exact touched
    · have removed_le := totalSizeBytes_remove_le accounted trackId
      have limit_kept : (manager.remove trackId).maxBytes = manager.maxBytes :=
        removeEntry_maxBytes manager trackId
      refine ⟨?_, ?_⟩
      · simpa [save, limit_kept] using limit_nonneg
      · simp only [save, limit_kept]
        omega

end Manager

namespace Session

/-- Every start finds files which fit its limit, and every file `put` is given fits the books. -/
def Budgeted (session : Session) : CacheEvent → Prop
  | .restart maxMb _ =>
      session.manager.disk.sweepWorkDirs.listedBytes ≤ Cache.maxBytes maxMb
  | event => session.Fitting event

instance decidableBudgeted (session : Session) :
    ∀ event, Decidable (session.Budgeted event)
  | .restart _ _ => inferInstanceAs (Decidable (_ ≤ _))
  | .put trackId filePath bitrate normalized =>
      session.decidableFitting (.put trackId filePath bitrate normalized)
  | .getPath _ | .setMaxMb _ | .clear | .file _ _ | .access _ | .clock _ =>
      inferInstanceAs (Decidable True)

theorem Budgeted.fitting {session : Session} {event : CacheEvent}
    (budgeted : session.Budgeted event) : session.Fitting event := by
  cases event with
  | restart => trivial
  | _ => exact budgeted

/-- The cache loaded from a metadata file whose files fit the limit. -/
def budgetedStart : System Session CacheEvent where
  initial session :=
    ∃ maxMb disk listing, Lists disk listing ∧
      (∀ entries, disk.metadata = some entries → SizesFit entries) ∧
      disk.sweepWorkDirs.listedBytes ≤ Cache.maxBytes maxMb ∧
      session.manager = Manager.new maxMb disk listing
  step := step

theorem within_step {session after : Session} {event : CacheEvent} (balanced : session.Balanced)
    (within : session.manager.Within) (budgeted : session.Budgeted event)
    (step : session.step event = some after) : after.manager.Within := by
  cases event with
  | getPath trackId =>
      obtain rfl := Option.some.inj step
      have looked := within.getPath balanced.accounted trackId session.now
      unfold Session.getPath
      dsimp only
      split
      · exact ⟨looked.limit_nonneg, looked.total_le⟩
      · exact looked
  | put trackId filePath bitrate normalized =>
      obtain rfl := Option.some.inj step
      have fitting : session.Fitting (.put trackId filePath bitrate normalized) :=
        budgeted.fitting
      have stored := balanced.accounted.store bitrate normalized session.now fitting.1 fitting.2
      apply Manager.within_evictIfNeeded stored
      simpa [Manager.store, Manager.enter] using within.limit_nonneg
  | setMaxMb maxMb =>
      obtain rfl := Option.some.inj step
      exact Manager.within_evictIfNeeded (balanced.accounted.limit _)
        (Manager.maxBytes_nonneg maxMb)
  | clear =>
      obtain rfl := Option.some.inj step
      exact ⟨within.limit_nonneg, within.limit_nonneg⟩
  | restart maxMb listing =>
      simp only [Session.step, Option.ite_none_right_eq_some, Option.some.injEq] at step
      obtain ⟨lists, rfl⟩ := step
      refine ⟨?_, (Manager.new_within_iff maxMb lists balanced.metadata).mpr budgeted⟩
      simpa using Manager.maxBytes_nonneg maxMb
  | file path size =>
      obtain rfl := Option.some.inj step
      exact ⟨within.limit_nonneg, within.total_le⟩
  | access writable =>
      obtain rfl := Option.some.inj step
      exact ⟨within.limit_nonneg, within.total_le⟩
  | clock now =>
      simp only [Session.step, Option.ite_none_right_eq_some, Option.some.injEq] at step
      obtain ⟨-, rfl⟩ := step
      exact within

/-- In every run whose starts find files that fit, the total is within the limit. -/
theorem total_within_limit {session : Session}
    (reach : budgetedStart.ReachableUnder Budgeted session) :
    session.manager.totalSizeBytes ≤ session.manager.maxBytes := by
  have kept : session.Balanced ∧ session.manager.Within := by
    refine reach.invariant (fun session => session.Balanced ∧ session.manager.Within) ?_ ?_
    · rintro session ⟨maxMb, disk, listing, lists, sizes, listed, manager_eq⟩
      have balanced : session.Balanced := balanced_of_reachable
        (.start ⟨maxMb, disk, listing, lists, sizes, manager_eq⟩)
      refine ⟨balanced, ?_⟩
      rw [manager_eq]
      refine ⟨?_, (Manager.new_within_iff maxMb lists sizes).mpr listed⟩
      simpa using Manager.maxBytes_nonneg maxMb
    · rintro before event after - ⟨balanced, within⟩ budgeted step
      exact ⟨balanced.step budgeted.fitting step, within_step balanced within budgeted step⟩
  exact kept.2.total_le

/-- Two tracks which do not fit together are cached, and the program starts again. -/
def overfull : List CacheEvent :=
  [.put "a" "a.ogg" "144k" false, .put "b" "b.ogg" "144k" false,
    .restart 64 [⟨"b", 1000, "b.ogg", 40000000, "144k", false⟩], .getPath "b"]

theorem emptyCache_budgeted : budgetedStart.initial emptyCache :=
  ⟨64, twoFiles, [], List.Perm.refl _, by simp [twoFiles], by decide, rfl⟩

theorem overfull_within :
    (budgetedStart.final emptyCache overfull rfl).manager.totalSizeBytes ≤
      (budgetedStart.final emptyCache overfull rfl).manager.maxBytes :=
  total_within_limit (System.ReachableUnder.final emptyCache_budgeted
    (by decide : budgetedStart.Admits Budgeted emptyCache overfull) rfl)

/-- Two tracks are cached under a limit of a hundred megabytes, which a restart lowers. -/
def lowered : List CacheEvent :=
  [.setMaxMb 100, .put "a" "a.ogg" "144k" false, .put "b" "b.ogg" "144k" false,
    .restart 64 [⟨"a", 1000, "a.ogg", 40000000, "144k", false⟩,
      ⟨"b", 1000, "b.ogg", 40000000, "144k", false⟩]]

theorem emptyCache_initial : firstStart.initial emptyCache :=
  ⟨64, twoFiles, rfl, rfl, by decide, by decide⟩

/-- The restarted cache holds eighty million bytes under a limit of sixty-four megabytes. -/
theorem lowered_exceeds :
    ∃ session, firstStart.Reachable session ∧
      session.manager.totalSizeBytes = 80000000 ∧ session.manager.maxBytes = 67108864 ∧
        ¬ session.manager.totalSizeBytes ≤ session.manager.maxBytes :=
  ⟨firstStart.final emptyCache lowered rfl,
    System.reachable_final emptyCache_initial lowered rfl,
    rfl, rfl, by decide⟩

end Session

end Togewire.Cache
