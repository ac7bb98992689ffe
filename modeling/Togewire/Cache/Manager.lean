import Mathlib.Data.List.Sort
import Togewire.Cache.Disk
import Togewire.Foundation.Ledger
import Togewire.Foundation.Register
import Togewire.Foundation.Transition

/-!
# The track cache

`Manager` holds three redundant views of the cached tracks: the map of entries, the recency queue
and the running total of bytes.  Every operation updates them by hand, and the definitions below
keep the updates in the source's order.
-/

namespace Togewire.Cache

open Register

/-- `TOUCH_PERSIST_SECS`: a track's access time is renewed at most this often. -/
def touchPersistSecs : Int := 300

/-- The byte limit for a configured number of megabytes, saturating. -/
def maxBytes (maxMb : Nat) : Int :=
  min ((min (2 ^ 20 * max maxMb 64) (2 ^ 64 - 1) : Nat) : Int) (2 ^ 63 - 1)

/-- A listing is an iteration order of the metadata file's map. -/
def Lists (disk : Disk) (listing : List (Σ _ : String, Entry)) : Prop :=
  listing.Perm (disk.metadata.elim [] AList.entries)

instance (disk : Disk) (listing : List (Σ _ : String, Entry)) : Decidable (Lists disk listing) :=
  inferInstanceAs (Decidable (List.Perm _ _))

theorem lists_sweepWorkDirs {disk : Disk} {listing : List (Σ _ : String, Entry)} :
    Lists disk.sweepWorkDirs listing ↔ Lists disk listing := by
  simp [Lists, Disk.sweepWorkDirs]

/-- The locked state of the cache and the directory under it. -/
structure Manager where
  maxBytes : Int
  entries : Entries
  order : List String
  totalSizeBytes : Int
  disk : Disk
  /-- History: whether a clamp at zero has ever changed the total. -/
  clamped : Bool

namespace Manager

/-- Persist the entries. -/
def save (manager : Manager) : Manager :=
  { manager with disk := manager.disk.saveMetadata manager.entries }

/-- Take an entry's size off the total, clamping at zero. -/
def discount (manager : Manager) (old : Entry) : Manager :=
  let remaining := wrap (manager.totalSizeBytes - old.fileSize)
  { manager with
    totalSizeBytes := max remaining 0
    clamped := manager.clamped || remaining < 0 }

/-- Drop a track's entry and its file, leaving the queue alone. -/
def removeEntry (manager : Manager) (trackId : String) : Manager :=
  match manager.entries.lookup trackId with
  | none => manager
  | some old =>
      let discounted := { manager with entries := manager.entries.erase trackId }.discount old
      { discounted with disk := discounted.disk.removeFile old.filePath }

/-- Drop a track's entry, its file and its place in the queue. -/
def remove (manager : Manager) (trackId : String) : Manager :=
  let removed := manager.removeEntry trackId
  { removed with order := removed.order.filter fun id => id ≠ trackId }

/-- The eviction loop, over the queue it pops. -/
def evictFrom (manager : Manager) : List String → Manager
  | [] => { manager with order := [] }
  | oldest :: order =>
      if manager.maxBytes < manager.totalSizeBytes then
        (manager.removeEntry oldest).evictFrom order
      else
        { manager with order := oldest :: order }

/-- Remove the oldest tracks while the total exceeds the limit. -/
def evictIfNeeded (manager : Manager) : Manager := manager.evictFrom manager.order

/-- Recency bump; true when worth persisting. -/
def touch (manager : Manager) (trackId : String) (now : Int) : Bool × Manager :=
  match manager.entries.lookup trackId with
  | none => (false, manager)
  | some entry =>
      if wrap (now - entry.lastAccessedAt) < touchPersistSecs then
        (false, manager)
      else
        let bumped := { manager with
          entries := manager.entries.insert trackId { entry with lastAccessedAt := now } }
        if manager.order.getLast? = some trackId then
          (true, bumped)
        else
          (true, { bumped with
            order := (bumped.order.filter fun id => id ≠ trackId) ++ [trackId] })

/-- Path of a cached track, dropping the entry if the file vanished. -/
def getPath (manager : Manager) (trackId : String) (now : Int) : Option String × Manager :=
  match manager.entries.lookup trackId with
  | none => (none, manager)
  | some entry =>
      if manager.disk.pathExists entry.filePath then
        let (persist, touched) := manager.touch trackId now
        (some entry.filePath, if persist then touched.save else touched)
      else
        (none, (manager.remove trackId).save)

/-- The size `put` records for a file, zero when it cannot be read. -/
def sizeOnDisk (disk : Disk) (filePath : String) : Int :=
  match disk.files filePath with
  | none => 0
  | some size => wrap size

/-- The first half of `put`: drop an entry the new one replaces. -/
def supersede (manager : Manager) (trackId filePath : String) : Manager :=
  match manager.entries.lookup trackId with
  | none => manager
  | some old =>
      let discounted := { manager with entries := manager.entries.erase trackId }.discount old
      { discounted with
        order := discounted.order.filter fun id => id ≠ trackId
        disk := if old.filePath ≠ filePath then
            discounted.disk.removeFile old.filePath
          else
            discounted.disk }

/-- The second half of `put`: record the entry as the newest. -/
def enter (manager : Manager) (trackId : String) (entry : Entry) : Manager :=
  { manager with
    totalSizeBytes := wrap (manager.totalSizeBytes + entry.fileSize)
    entries := manager.entries.insert trackId entry
    order := manager.order ++ [trackId] }

/-- `put` up to its eviction. -/
def store (manager : Manager) (trackId filePath bitrate : String) (normalized : Bool) (now : Int) :
    Manager :=
  (manager.supersede trackId filePath).enter trackId
    { lastAccessedAt := now
      filePath := filePath
      fileSize := sizeOnDisk manager.disk filePath
      bitrate := bitrate
      normalized := normalized }

/-- Cache a finished file as the newest track, evicting the oldest ones. -/
def put (manager : Manager) (trackId filePath bitrate : String) (normalized : Bool) (now : Int) :
    Manager :=
  (manager.store trackId filePath bitrate normalized now).evictIfNeeded.save

/-- Change the limit. -/
def limit (manager : Manager) (maxBytes : Int) : Manager := { manager with maxBytes := maxBytes }

/-- Change the limit and evict down to it. -/
def setMaxMb (manager : Manager) (maxMb : Nat) : Manager :=
  (manager.limit (Cache.maxBytes maxMb)).evictIfNeeded.save

/-- Forget every track and delete every file of the cache directory. -/
def wipe (manager : Manager) : Manager :=
  { manager with
    entries := ∅
    order := []
    totalSizeBytes := 0
    disk := manager.disk.clearCache }

/-- Empty the cache. -/
def clear (manager : Manager) : Manager := manager.wipe.save

/-- One round of the loading loop. -/
def loadEntry (manager : Manager) (listed : Σ _ : String, Entry) : Manager :=
  if manager.disk.pathExists listed.2.filePath then
    manager.enter listed.1 listed.2
  else
    manager

/-- The metadata in the order the hash map yields it, stably sorted by access time. -/
def sortListing (listing : List (Σ _ : String, Entry)) : List (Σ _ : String, Entry) :=
  listing.insertionSort fun left right => left.2.lastAccessedAt ≤ right.2.lastAccessedAt

/-- Read the metadata file, keeping the entries whose file exists.  The hash map's iteration order
is the argument. -/
def load (manager : Manager) (listing : List (Σ _ : String, Entry)) : Manager :=
  match manager.disk.metadata with
  | none => manager
  | some _ =>
      (sortListing listing).foldl loadEntry
        { manager with entries := ∅, order := [], totalSizeBytes := 0 }

/-- The cache at startup. -/
def new (maxMb : Nat) (disk : Disk) (listing : List (Σ _ : String, Entry)) : Manager :=
  { maxBytes := Cache.maxBytes maxMb
    entries := ∅
    order := []
    totalSizeBytes := 0
    disk := disk.sweepWorkDirs
    clamped := false : Manager }.load listing

/-- A cache with neither tracks nor room. -/
def bare : Manager where
  maxBytes := 0
  entries := ∅
  order := []
  totalSizeBytes := 0
  disk := { files := fun _ => none, metadata := none, writable := true, stale := false }
  clamped := false

/-- Whether `get_path` finds a track. -/
def holds (manager : Manager) (trackId : String) : Bool :=
  match manager.entries.lookup trackId with
  | none => false
  | some entry => manager.disk.pathExists entry.filePath

/-! ### What the operations leave alone -/

@[simp] theorem discount_disk (manager : Manager) (old : Entry) :
    (manager.discount old).disk = manager.disk := rfl

@[simp] theorem removeEntry_entries (manager : Manager) (trackId : String) :
    (manager.removeEntry trackId).entries = manager.entries.erase trackId := by
  unfold removeEntry
  cases found : manager.entries.lookup trackId with
  | none => exact (Ledger.erase_of_notMem (AList.lookup_eq_none.mp found)).symm
  | some old => rfl

@[simp] theorem removeEntry_order (manager : Manager) (trackId : String) :
    (manager.removeEntry trackId).order = manager.order := by
  unfold removeEntry
  split <;> rfl

@[simp] theorem removeEntry_maxBytes (manager : Manager) (trackId : String) :
    (manager.removeEntry trackId).maxBytes = manager.maxBytes := by
  unfold removeEntry
  split <;> rfl

@[simp] theorem removeEntry_metadata (manager : Manager) (trackId : String) :
    (manager.removeEntry trackId).disk.metadata = manager.disk.metadata := by
  unfold removeEntry
  split <;> simp

@[simp] theorem evictFrom_metadata (manager : Manager) (queue : List String) :
    (manager.evictFrom queue).disk.metadata = manager.disk.metadata := by
  induction queue generalizing manager with
  | nil => rfl
  | cons oldest queue ih =>
      unfold evictFrom
      split
      · rw [ih, removeEntry_metadata]
      · rfl

@[simp] theorem limit_disk (manager : Manager) (maxBytes : Int) :
    (manager.limit maxBytes).disk = manager.disk := rfl

@[simp] theorem supersede_entries (manager : Manager) (trackId filePath : String) :
    (manager.supersede trackId filePath).entries = manager.entries.erase trackId := by
  unfold supersede
  cases found : manager.entries.lookup trackId with
  | none => exact (Ledger.erase_of_notMem (AList.lookup_eq_none.mp found)).symm
  | some old => rfl

@[simp] theorem supersede_metadata (manager : Manager) (trackId filePath : String) :
    (manager.supersede trackId filePath).disk.metadata = manager.disk.metadata := by
  unfold supersede
  split
  · rfl
  · simp only [discount_disk]
    split <;> simp

theorem touch_of_recent {manager : Manager} {trackId : String} {now : Int} {entry : Entry}
    (found : manager.entries.lookup trackId = some entry)
    (recent : wrap (now - entry.lastAccessedAt) < touchPersistSecs) :
    manager.touch trackId now = (false, manager) := by
  simp [touch, found, recent]

/-- A stale access time is renewed, and the track ends at the back of the queue. -/
theorem touch_of_stale {manager : Manager} {trackId : String} {now : Int} {entry : Entry}
    (nodup : manager.order.Nodup) (found : manager.entries.lookup trackId = some entry)
    (stale : ¬ wrap (now - entry.lastAccessedAt) < touchPersistSecs) :
    manager.touch trackId now =
      (true, { manager with
        entries := manager.entries.insert trackId { entry with lastAccessedAt := now }
        order := (manager.order.filter fun id => id ≠ trackId) ++ [trackId] }) := by
  by_cases newest : manager.order.getLast? = some trackId
  · rw [Ledger.filter_append_getLast nodup newest]
    simp [touch, found, stale, newest]
  · simp [touch, found, stale, newest]

theorem lookup_of_touch {manager : Manager} {trackId other : String} {now : Int} {entry : Entry}
    (found : (manager.touch trackId now).2.entries.lookup other = some entry) :
    ∃ old, manager.entries.lookup other = some old ∧ old.filePath = entry.filePath := by
  cases present : manager.entries.lookup trackId with
  | none => exact ⟨entry, by simpa [touch, present] using found, rfl⟩
  | some old =>
      by_cases recent : wrap (now - old.lastAccessedAt) < touchPersistSecs
      · rw [touch_of_recent present recent] at found
        exact ⟨entry, found, rfl⟩
      · have entries_eq : (manager.touch trackId now).2.entries =
            manager.entries.insert trackId { old with lastAccessedAt := now } := by
          simp only [touch, present, recent, if_false]
          split <;> rfl
        rw [entries_eq] at found
        by_cases same : other = trackId
        · subst same
          obtain rfl : { old with lastAccessedAt := now } = entry := by simpa using found
          exact ⟨old, present, rfl⟩
        · rw [AList.lookup_insert_ne same] at found
          exact ⟨entry, found, rfl⟩

@[simp] theorem touch_disk (manager : Manager) (trackId : String) (now : Int) :
    (manager.touch trackId now).2.disk = manager.disk := by
  unfold touch
  split
  · rfl
  · split
    · rfl
    · dsimp only
      split <;> rfl

theorem getPath_isSome (manager : Manager) (trackId : String) (now : Int) :
    (manager.getPath trackId now).1.isSome = manager.holds trackId := by
  unfold getPath holds
  split
  · rfl
  · split <;> simp_all

/-- A cache whose entries and files are among those of another holds nothing the other does not. -/
theorem holds_of_included {manager after : Manager} {trackId : String}
    (held : after.holds trackId)
    (entries : ∀ entry, after.entries.lookup trackId = some entry →
      ∃ old, manager.entries.lookup trackId = some old ∧ old.filePath = entry.filePath)
    (files : ∀ path, after.disk.pathExists path → manager.disk.pathExists path) :
    manager.holds trackId := by
  unfold holds at held ⊢
  split at held
  · simp at held
  · rename_i entry found
    obtain ⟨old, old_found, path_eq⟩ := entries entry found
    rw [old_found]
    exact files _ (path_eq ▸ held)

/-- A lookup adds no entry and changes no file path. -/
theorem lookup_of_getPath {manager : Manager} {trackId other : String} {now : Int} {entry : Entry}
    (found : (manager.getPath trackId now).2.entries.lookup other = some entry) :
    ∃ old, manager.entries.lookup other = some old ∧ old.filePath = entry.filePath := by
  rw [getPath] at found
  split at found
  · exact ⟨entry, found, rfl⟩
  · split at found
    · dsimp only at found
      split at found <;> exact lookup_of_touch found
    · simp only [save, remove, removeEntry_entries] at found
      exact ⟨entry, Ledger.lookup_of_erase found, rfl⟩

theorem pathExists_of_getPath {manager : Manager} {trackId path : String} {now : Int}
    (present : (manager.getPath trackId now).2.disk.pathExists path) :
    manager.disk.pathExists path := by
  rw [getPath] at present
  split at present
  · exact present
  · rename_i entry found
    split at present
    · dsimp only at present
      split at present
      · simpa [save, Disk.pathExists] using present
      · simpa using present
    · simp only [save, remove, removeEntry, found, discount_disk, Disk.pathExists,
        Disk.saveMetadata_files] at present
      exact Disk.pathExists_of_removeFile manager.disk present

theorem holds_of_getPath {manager : Manager} {trackId other : String} {now : Int}
    (held : (manager.getPath trackId now).2.holds other) : manager.holds other :=
  holds_of_included held (fun _ => lookup_of_getPath) fun _ => pathExists_of_getPath

/-! ### What becomes of an absent track -/

theorem absent_evictFrom {manager : Manager} {trackId : String} (queue : List String)
    (absent : manager.entries.lookup trackId = none) :
    (manager.evictFrom queue).entries.lookup trackId = none := by
  induction queue generalizing manager with
  | nil => exact absent
  | cons oldest queue ih =>
      rw [evictFrom]
      split
      · refine ih ?_
        rw [removeEntry_entries]
        exact Ledger.absent_erase absent
      · exact absent

theorem absent_setMaxMb {manager : Manager} {trackId : String} (maxMb : Nat)
    (absent : manager.entries.lookup trackId = none) :
    (manager.setMaxMb maxMb).entries.lookup trackId = none :=
  absent_evictFrom (manager.limit (Cache.maxBytes maxMb)).order absent

theorem absent_put {manager : Manager} {trackId other : String} (filePath bitrate : String)
    (normalized : Bool) (now : Int) (different : other ≠ trackId)
    (absent : manager.entries.lookup other = none) :
    (manager.put trackId filePath bitrate normalized now).entries.lookup other = none := by
  refine absent_evictFrom _ ?_
  rw [store, enter, AList.lookup_insert_ne different, supersede_entries]
  exact Ledger.absent_erase absent

theorem absent_getPath {manager : Manager} {trackId other : String} (now : Int)
    (absent : manager.entries.lookup other = none) :
    (manager.getPath trackId now).2.entries.lookup other = none := by
  have touched : (manager.touch trackId now).2.entries.lookup other = none := by
    cases found : (manager.touch trackId now).2.entries.lookup other with
    | none => rfl
    | some entry =>
        obtain ⟨old, present, -⟩ := lookup_of_touch found
        simp [absent] at present
  rw [getPath]
  split
  · exact absent
  · split
    · dsimp only
      split <;> exact touched
    · simp only [save, remove, removeEntry_entries]
      exact Ledger.absent_erase absent

theorem absent_of_getPath {manager : Manager} {trackId : String} {now : Int}
    (missed : (manager.getPath trackId now).1 = none) :
    (manager.getPath trackId now).2.entries.lookup trackId = none := by
  rw [getPath] at missed ⊢
  split
  · assumption
  · rename_i entry found
    split
    · rename_i present
      simp [found, present] at missed
    · simp only [save, remove, removeEntry_entries]
      exact AList.lookup_erase _ _

theorem holds_of_absent {manager : Manager} {trackId : String}
    (absent : manager.entries.lookup trackId = none) : manager.holds trackId = false := by
  simp [holds, absent]

@[simp] theorem loadEntry_disk (manager : Manager) (listed : Σ _ : String, Entry) :
    (manager.loadEntry listed).disk = manager.disk := by
  unfold loadEntry
  split <;> rfl

@[simp] theorem foldl_loadEntry_disk (manager : Manager) (listing : List (Σ _ : String, Entry)) :
    (listing.foldl loadEntry manager).disk = manager.disk := by
  induction listing generalizing manager with
  | nil => rfl
  | cons listed listing ih => rw [List.foldl_cons, ih, loadEntry_disk]

@[simp] theorem load_disk (manager : Manager) (listing : List (Σ _ : String, Entry)) :
    (manager.load listing).disk = manager.disk := by
  unfold load
  split <;> simp

/-- The loading loop adds the listed entries whose file exists. -/
theorem lookup_foldl_loadEntry (manager : Manager) {listing : List (Σ _ : String, Entry)}
    (distinct : listing.NodupKeys) (fresh : ∀ listed ∈ listing, listed.1 ∉ manager.entries)
    (trackId : String) (entry : Entry) :
    (listing.foldl loadEntry manager).entries.lookup trackId = some entry ↔
      manager.entries.lookup trackId = some entry ∨
        Sigma.mk trackId entry ∈ listing ∧ manager.disk.pathExists entry.filePath := by
  induction listing generalizing manager with
  | nil => simp
  | cons listed listing ih =>
      obtain ⟨unlisted, distinct⟩ := List.nodupKeys_cons.mp distinct
      obtain ⟨new, fresh⟩ := List.forall_mem_cons.mp fresh
      have later : ∀ other ∈ listing, other.1 ≠ listed.1 :=
        fun other member same => unlisted (same ▸ List.mem_keys_of_mem member)
      have absent : manager.entries.lookup listed.1 = none := AList.lookup_eq_none.mpr new
      rw [List.foldl_cons]
      by_cases there : manager.disk.pathExists listed.2.filePath
      · have entered : manager.loadEntry listed = manager.enter listed.1 listed.2 := by
          simp [loadEntry, there]
        have still_fresh : ∀ other ∈ listing,
            other.1 ∉ (manager.enter listed.1 listed.2).entries := by
          intro other member
          simp only [enter, AList.mem_insert, not_or]
          exact ⟨later other member, fresh other member⟩
        rw [entered, ih _ distinct still_fresh]
        by_cases same : trackId = listed.1
        · subst same
          have beyond : Sigma.mk listed.1 entry ∉ listing := fun member => later _ member rfl
          simp only [enter, AList.lookup_insert, absent, Option.some.injEq, List.mem_cons, beyond,
            reduceCtorEq, false_or, or_false, false_and]
          constructor
          · rintro rfl
            exact ⟨rfl, there⟩
          · rintro ⟨listed_eq, -⟩
            rw [← listed_eq]
        · have other : Sigma.mk trackId entry ≠ listed := fun eq => same (eq ▸ rfl)
          simp [enter, AList.lookup_insert_ne same, other]
      · have skipped : manager.loadEntry listed = manager := by
          simp [loadEntry, there]
        rw [skipped, ih _ distinct fresh]
        constructor
        · rintro (earlier | ⟨member, present⟩)
          · exact Or.inl earlier
          · exact Or.inr ⟨List.mem_cons_of_mem _ member, present⟩
        · rintro (earlier | ⟨member, present⟩)
          · exact Or.inl earlier
          · rcases List.mem_cons.mp member with same | member
            · rw [← same] at there
              exact absurd present there
            · exact Or.inr ⟨member, present⟩

theorem sortListing_perm {disk : Disk} {listing : List (Σ _ : String, Entry)} {entries : Entries}
    (lists : Lists disk listing) (metadata : disk.metadata = some entries) :
    (sortListing listing).Perm entries.entries := by
  have permuted : listing.Perm entries.entries := by
    simpa [Lists, metadata] using lists
  exact (List.perm_insertionSort _ _).trans permuted

/-- Loading an empty cache takes over the recorded entries whose file exists. -/
theorem lookup_load {manager : Manager} {listing : List (Σ _ : String, Entry)}
    (empty : manager.entries = ∅) (lists : Lists manager.disk listing) (trackId : String)
    (entry : Entry) :
    (manager.load listing).entries.lookup trackId = some entry ↔
      manager.disk.listed trackId = some entry ∧ manager.disk.pathExists entry.filePath := by
  unfold load Disk.listed
  cases metadata : manager.disk.metadata with
  | none => simp [empty]
  | some entries =>
      have sorted := sortListing_perm lists metadata
      have distinct : (sortListing listing).NodupKeys :=
        (List.perm_nodupKeys sorted).mpr entries.nodupKeys
      dsimp only
      rw [lookup_foldl_loadEntry _ distinct fun listed _ => AList.notMem_empty _, sorted.mem_iff]
      simp [← AList.mem_lookup_iff]

@[simp] theorem new_disk (maxMb : Nat) (disk : Disk) (listing : List (Σ _ : String, Entry)) :
    (new maxMb disk listing).disk = disk.sweepWorkDirs := load_disk _ listing

end Manager

/-! ## Runs of the cache -/

/-- The cache together with the clock and the history of uses. -/
structure Session where
  manager : Manager
  now : Int
  /-- History: the last `put` or successful `get_path` of each track. -/
  lastUsed : String → Int

/-- One operation on the cache, or a change of its surroundings. -/
inductive CacheEvent
  | getPath (trackId : String)
  | put (trackId filePath bitrate : String) (normalized : Bool)
  | setMaxMb (maxMb : Nat)
  | clear
  /-- The process stops, and a new one loads the metadata in the given order. -/
  | restart (maxMb : Nat) (listing : List (Σ _ : String, Entry))
  /-- A file appears, changes or vanishes. -/
  | file (path : String) (size : Option Nat)
  /-- The directory becomes or ceases to be writable. -/
  | access (writable : Bool)
  /-- The clock is read anew. -/
  | clock (now : Int)

namespace Session

/-- Note a use of a track now. -/
def use (session : Session) (trackId : String) : Session :=
  { session with lastUsed := Function.update session.lastUsed trackId session.now }

/-- `get_path`, noting a use when it succeeds. -/
def getPath (session : Session) (trackId : String) : Session :=
  let (path, manager) := session.manager.getPath trackId session.now
  let looked := { session with manager := manager }
  if path.isSome then looked.use trackId else looked

/-- `put`, noting the use. -/
def put (session : Session) (trackId filePath bitrate : String) (normalized : Bool) : Session :=
  let stored := session.manager.put trackId filePath bitrate normalized session.now
  { session with manager := stored }.use trackId

/-- The effect of one event of a session, if it can happen. -/
def step (session : Session) : CacheEvent → Option Session
  | .getPath trackId => some (session.getPath trackId)
  | .put trackId filePath bitrate normalized =>
      some (session.put trackId filePath bitrate normalized)
  | .setMaxMb maxMb => some { session with manager := session.manager.setMaxMb maxMb }
  | .clear => some { session with manager := session.manager.clear }
  | .restart maxMb listing =>
      if Lists session.manager.disk listing then
        some { session with
          manager := { Manager.new maxMb session.manager.disk listing with
            clamped := session.manager.clamped } }
      else
        none
  | .file path size =>
      let disk := session.manager.disk
      let changed := { disk with files := Function.update disk.files path size }
      some { session with manager := { session.manager with disk := changed } }
  | .access writable =>
      let disk := { session.manager.disk with writable := writable }
      some { session with manager := { session.manager with disk := disk } }
  | .clock now => if Fits now then some { session with now := now } else none

/-! ### The outcomes of a lookup -/

theorem getPath_of_absent {session : Session} {trackId : String}
    (absent : session.manager.entries.lookup trackId = none) :
    session.getPath trackId = session := by
  simp [getPath, Manager.getPath, absent]

theorem getPath_of_recent {session : Session} {trackId : String} {entry : Entry}
    (found : session.manager.entries.lookup trackId = some entry)
    (present : session.manager.disk.pathExists entry.filePath)
    (recent : wrap (session.now - entry.lastAccessedAt) < touchPersistSecs) :
    session.getPath trackId = session.use trackId := by
  simp [getPath, Manager.getPath, found, present, Manager.touch_of_recent found recent]

theorem getPath_of_stale {session : Session} {trackId : String} {entry : Entry}
    (nodup : session.manager.order.Nodup)
    (found : session.manager.entries.lookup trackId = some entry)
    (present : session.manager.disk.pathExists entry.filePath)
    (stale : ¬ wrap (session.now - entry.lastAccessedAt) < touchPersistSecs) :
    session.getPath trackId =
      { session with
        manager := Manager.save { session.manager with
          entries := session.manager.entries.insert trackId
            { entry with lastAccessedAt := session.now }
          order := (session.manager.order.filter fun id => id ≠ trackId) ++ [trackId] }
        lastUsed := Function.update session.lastUsed trackId session.now } := by
  simp [getPath, Manager.getPath, found, present, Manager.touch_of_stale nodup found stale, use]

theorem getPath_of_vanished {session : Session} {trackId : String} {entry : Entry}
    (found : session.manager.entries.lookup trackId = some entry)
    (vanished : ¬ session.manager.disk.pathExists entry.filePath) :
    session.getPath trackId =
      { session with manager := (session.manager.remove trackId).save } := by
  simp [getPath, Manager.getPath, found, vanished]

end Session

end Togewire.Cache
