import Togewire.Cache.Budget
import Togewire.Media.Tasks

/-!
# One owner for every cached file

A name is chosen by what exists on disk, and owned through the map of entries.  As long as a chosen
name is not still recorded for a track whose file has vanished, no two tracks record one file: the
download lock keeps other fetches away between the choice and the entry, and everything else only
removes entries.
-/

namespace Togewire.Media

open Cache Interleaving Transition

namespace Store

variable {store after : Store}

/-- No other track records a path. -/
def Unrecorded (store : Store) (trackId path : String) : Prop :=
  ∀ cached ∈ store.manager.entries.entries, cached.2.filePath = path → cached.1 = trackId

instance (store : Store) (trackId path : String) : Decidable (store.Unrecorded trackId path) :=
  inferInstanceAs (Decidable (∀ cached ∈ store.manager.entries.entries, _ → _))

theorem Unrecorded.eq {trackId path other : String} {entry : Entry}
    (unrecorded : store.Unrecorded trackId path)
    (found : store.manager.entries.lookup other = some entry) (same : entry.filePath = path) :
    other = trackId :=
  unrecorded ⟨other, entry⟩ (AList.mem_lookup_iff.mp found) same

/-- Entries go, and the files of those which stay are the same. -/
structure Shrinks (store after : Store) : Prop where
  entries : ∀ trackId entry, after.manager.entries.lookup trackId = some entry →
    ∃ old, store.manager.entries.lookup trackId = some old ∧ old.filePath = entry.filePath
  maker : after.maker = store.maker
  lock : after.downloadLock = store.downloadLock

theorem Shrinks.of_eq (entries : after.manager.entries = store.manager.entries)
    (maker : after.maker = store.maker) (lock : after.downloadLock = store.downloadLock) :
    store.Shrinks after where
  entries _ entry found := ⟨entry, entries ▸ found, rfl⟩
  maker := maker
  lock := lock

theorem Shrinks.unrecorded (shrinks : store.Shrinks after) {trackId path : String}
    (unrecorded : store.Unrecorded trackId path) : after.Unrecorded trackId path := by
  rintro ⟨other, entry⟩ member same
  obtain ⟨old, found, path_eq⟩ := shrinks.entries other entry (AList.mem_lookup_iff.mpr member)
  exact unrecorded.eq found (path_eq.trans same)

theorem Shrinks.owned (shrinks : store.Shrinks after) (owned : store.Owned) : after.Owned := by
  intro trackId entry found
  obtain ⟨old, old_found, path_eq⟩ := shrinks.entries trackId entry found
  rw [shrinks.maker, ← path_eq]
  exact owned trackId old old_found

/-- What a task relies on while it has the download lock. -/
def Sound (store : Store) (actor : Nat) (trace : Trace) : Prop :=
  trace.locked = true → store.downloadLock = some actor ∧
    ∀ trackId dest, trace.reserved = some (trackId, dest) →
      store.Unrecorded trackId dest ∧ (trace.placed = true → store.maker dest = some trackId)

theorem Sound.shrinks {actor : Nat} {trace : Trace} (sound : store.Sound actor trace)
    (shrinks : store.Shrinks after) : after.Sound actor trace := by
  intro locked
  obtain ⟨lock, fetch⟩ := sound locked
  refine ⟨shrinks.lock.trans lock, ?_⟩
  intro trackId dest reserved
  obtain ⟨unrecorded, placed⟩ := fetch trackId dest reserved
  refine ⟨shrinks.unrecorded unrecorded, ?_⟩
  rw [shrinks.maker]
  exact placed

theorem sound_of_unlocked {actor : Nat} {trace : Trace} (unlocked : trace.locked = false) :
    store.Sound actor trace := by
  intro locked
  simp [unlocked] at locked

/-- Only one task has the lock. -/
theorem Sound.unlocked {actor holder : Nat} {trace : Trace} (sound : store.Sound actor trace)
    (held : store.downloadLock = some holder) (different : actor ≠ holder) :
    trace.locked = false := by
  by_contra locked
  obtain ⟨lock, -⟩ := sound (by simpa using locked)
  exact different (Option.some.inj (lock.symm.trans held))

/-- The invariant of all interleavings. -/
structure Owning (store : Store) (traces : Nat → Trace) : Prop where
  owned : store.Owned
  sound : ∀ actor, store.Sound actor (traces actor)

variable {traces : Nat → Trace} {actor : Nat} {next : Trace}

theorem Owning.shrink (owning : store.Owning traces) (shrinks : store.Shrinks after)
    (locked : next.locked = (traces actor).locked)
    (reserved : next.reserved = (traces actor).reserved)
    (placed : next.placed = (traces actor).placed) :
    after.Owning (Function.update traces actor next) where
  owned := shrinks.owned owning.owned
  sound := by
    refine (Function.forall_update_iff traces fun task trace => after.Sound task trace).mpr ⟨?_, ?_⟩
    · have own := (owning.sound actor).shrinks shrinks
      unfold Sound at own ⊢
      rwa [locked, reserved, placed]
    · exact fun task _ => (owning.sound task).shrinks shrinks

theorem Owning.fetch (owning : store.Owning traces) (locked : (traces actor).locked = true)
    (owned : after.Owned) (own : after.Sound actor next) :
    after.Owning (Function.update traces actor next) where
  owned := owned
  sound := by
    refine (Function.forall_update_iff traces fun task trace => after.Sound task trace).mpr
      ⟨own, ?_⟩
    intro task different
    obtain ⟨held, -⟩ := owning.sound actor locked
    exact sound_of_unlocked ((owning.sound task).unlocked held different)

theorem owned_write (owned : store.Owned) {trackId path : String}
    (unrecorded : store.Unrecorded trackId path) (size : Nat) :
    (store.write trackId path size).Owned := by
  intro other entry found
  have listed : store.manager.entries.lookup other = some entry := found
  by_cases same : entry.filePath = path
  · simp [write, same, unrecorded.eq listed same]
  · simpa [write, same] using owned other entry listed

theorem Sound.write (sound : store.Sound actor next) {trackId dest path : String}
    (reserved : next.reserved = some (trackId, dest)) (size : Nat) :
    (store.write trackId path size).Sound actor next := by
  intro locked
  obtain ⟨lock, fetch⟩ := sound locked
  refine ⟨lock, ?_⟩
  intro other target other_reserved
  obtain ⟨rfl, rfl⟩ := Prod.mk.inj (Option.some.inj (reserved.symm.trans other_reserved))
  obtain ⟨unrecorded, placed⟩ := fetch trackId dest reserved
  refine ⟨unrecorded, ?_⟩
  intro in_place
  by_cases same : dest = path
  · simp [Store.write, same]
  · simpa [Store.write, same] using placed in_place

/-- A tool writes a temporary file which no other track records. -/
theorem Owning.leave (owning : store.Owning traces) {trackId dest path : String}
    (locked : (traces actor).locked = true)
    (reserved : (traces actor).reserved = some (trackId, dest))
    (unrecorded : store.Unrecorded trackId path) (written : Option Nat) :
    (store.leave trackId path written).Owning (Function.update traces actor (traces actor)) := by
  cases written with
  | none =>
      rw [Function.update_eq_self]
      exact owning
  | some size =>
      exact owning.fetch locked (owned_write owning.owned unrecorded size)
        ((owning.sound actor).write reserved size)

theorem lookup_of_put {manager : Manager} {trackId filePath bitrate other : String}
    {normalized : Bool} {now : Int} {entry : Entry}
    (found : (manager.put trackId filePath bitrate normalized now).entries.lookup other =
      some entry) :
    other = trackId ∧ entry.filePath = filePath ∨ manager.entries.lookup other = some entry := by
  have stored : (manager.store trackId filePath bitrate normalized now).entries.lookup other =
      some entry := Manager.evictFrom_included _ _ other entry found
  by_cases same : other = trackId
  · subst same
    simp only [Manager.store, Manager.enter, AList.lookup_insert, Option.some.injEq] at stored
    exact Or.inl ⟨rfl, stored ▸ rfl⟩
  · simp only [Manager.store, Manager.enter, Manager.supersede_entries] at stored
    rw [AList.lookup_insert_ne same, AList.lookup_erase_ne same] at stored
    exact Or.inr stored

theorem Owning.put (owning : store.Owning traces) {trackId filePath : String}
    (locked : (traces actor).locked = true)
    (reserved : (traces actor).reserved = some (trackId, filePath))
    (placed : (traces actor).placed = true) (bitrate : String) (normalized : Bool) :
    { store with
      manager := store.manager.put trackId filePath bitrate normalized store.now }.Owning
        (Function.update traces actor (traces actor)) := by
  obtain ⟨lock, fetch⟩ := owning.sound actor locked
  obtain ⟨unrecorded, made⟩ := fetch trackId filePath reserved
  apply owning.fetch locked
  · intro other entry found
    rcases lookup_of_put found with ⟨rfl, path_eq⟩ | old
    · rw [path_eq]
      exact made placed
    · exact owning.owned other entry old
  · intro _
    refine ⟨lock, ?_⟩
    intro other dest other_reserved
    obtain ⟨rfl, rfl⟩ := Prod.mk.inj (Option.some.inj (reserved.symm.trans other_reserved))
    refine ⟨?_, made⟩
    rintro ⟨other, entry⟩ member same
    rcases lookup_of_put (AList.mem_lookup_iff.mpr member) with ⟨rfl, -⟩ | old
    · rfl
    · exact unrecorded.eq old same

end Store

/-- A chosen name, and every temporary file written, is recorded by no other track. -/
def Unclaimed (store : Store) (_ : Nat → Trace) (_ : Nat) : Op → Input → Prop
  | .trackPath track, input =>
      match trackPath store.manager.disk track "ogg" input.rounds with
      | none => True
      | some path => store.Unrecorded track.id path
  | .writeRaw trackId path, _ | .writeCacheOpus trackId path, _ => store.Unrecorded trackId path
  | _, _ => True

instance decidableUnclaimed (store : Store) (traces : Nat → Trace) (actor : Nat) :
    ∀ op input, Decidable (Unclaimed store traces actor op input)
  | .trackPath track, input =>
      match h : trackPath store.manager.disk track "ogg" input.rounds with
      | none => isTrue (by simp [Unclaimed, h])
      | some path =>
          decidable_of_iff (store.Unrecorded track.id path) (by simp [Unclaimed, h])
  | .writeRaw _ _, _ | .writeCacheOpus _ _, _ =>
      inferInstanceAs (Decidable (Store.Unrecorded _ _ _))
  | .getPath _, _ | .acquireDownload, _ | .releaseDownload, _ | .removeFile _, _
  | .rename _ _ _, _ | .put _ _ _ _, _ | .planTempArtifact _, _ | .isFile _, _
  | .startPrewarming _, _ | .stopPrewarming _, _ | .isPrewarming _, _ | .normalize _ _, _
  | .transcodeFile _ _, _ | .transcodeCopy _ _, _ | .renameTemp, _ | .removeCopy _, _
  | .pruneNormCache, _ | .openCopy _ _ _, _ => isTrue trivial

namespace Store

variable {store after : Store} {traces : Nat → Trace} {actor : Nat} {input : Input}

theorem shrinks_of_plays {op : Op} {answer : op.Answer} (plays : op.Plays)
    (performed : store.perform actor op input = some (answer, after)) : store.Shrinks after := by
  rw [eq_of_plays plays performed]
  exact Shrinks.of_eq rfl rfl rfl

theorem Owning.perform (owning : store.Owning traces) {op : Op} {answer : op.Answer}
    (allowed : (traces actor).Allows op) (permitted : Unclaimed store traces actor op input)
    (performed : store.perform actor op input = some (answer, after)) :
    after.Owning (Function.update traces actor ((traces actor).next op answer)) := by
  cases op with
  | getPath trackId =>
      obtain ⟨-, rfl⟩ := Prod.mk.inj (Option.some.inj performed)
      exact owning.shrink ⟨fun _ _ => Manager.lookup_of_getPath, rfl, rfl⟩ rfl rfl rfl
  | acquireDownload =>
      obtain ⟨free, -, rfl⟩ := of_guarded_answer performed
      refine ⟨owning.owned, ?_⟩
      refine (Function.forall_update_iff traces _).mpr ⟨?_, ?_⟩
      · intro _
        refine ⟨rfl, ?_⟩
        intro trackId dest reserved
        have unreserved : (traces actor).reserved = none := allowed
        have kept : (traces actor).reserved = some (trackId, dest) := reserved
        simp [unreserved] at kept
      · intro task _
        apply sound_of_unlocked
        by_contra locked
        obtain ⟨held, -⟩ := owning.sound task (by simpa using locked)
        simp [free] at held
  | releaseDownload =>
      obtain ⟨-, rfl⟩ := Prod.mk.inj (Option.some.inj performed)
      obtain ⟨held, -⟩ := owning.sound actor allowed
      refine ⟨owning.owned, ?_⟩
      refine (Function.forall_update_iff traces _).mpr ⟨sound_of_unlocked rfl, ?_⟩
      intro task different
      exact sound_of_unlocked ((owning.sound task).unlocked held different)
  | trackPath track =>
      obtain ⟨path, chosen, outcome⟩ := Option.map_eq_some_iff.mp performed
      obtain ⟨rfl, rfl⟩ := Prod.mk.inj outcome
      have unrecorded : store.Unrecorded track.id path := by
        simpa [Unclaimed, chosen] using permitted
      obtain ⟨held, -⟩ := owning.sound actor allowed
      apply owning.fetch allowed owning.owned
      intro _
      refine ⟨held, ?_⟩
      intro trackId dest reserved
      obtain ⟨rfl, rfl⟩ := Prod.mk.inj (Option.some.inj reserved)
      exact ⟨unrecorded, nofun⟩
  | writeRaw trackId path =>
      obtain ⟨-, rfl⟩ := Prod.mk.inj (Option.some.inj performed)
      obtain ⟨locked, dest, reserved⟩ := allowed
      exact owning.leave locked reserved permitted input.written
  | writeCacheOpus trackId path =>
      obtain ⟨-, rfl⟩ := Prod.mk.inj (Option.some.inj performed)
      obtain ⟨locked, dest, reserved⟩ := allowed
      exact owning.leave locked reserved permitted input.written
  | removeFile path =>
      obtain ⟨-, rfl⟩ := Prod.mk.inj (Option.some.inj performed)
      exact owning.shrink (Shrinks.of_eq rfl rfl rfl) rfl rfl rfl
  | rename trackId source target =>
      obtain ⟨locked, reserved⟩ := allowed
      rcases rename_cases performed with ⟨rfl, rfl⟩ | ⟨size, rfl, rfl⟩
      · exact owning.shrink (Shrinks.of_eq rfl rfl rfl) rfl rfl rfl
      · obtain ⟨held, fetch⟩ := owning.sound actor locked
        obtain ⟨unrecorded, -⟩ := fetch trackId target reserved
        have owned : (store.place trackId source target size).Owned :=
          @owned_write (store.setFile source none) owning.owned trackId target unrecorded size
        apply owning.fetch locked owned
        intro _
        refine ⟨held, ?_⟩
        intro other dest other_reserved
        obtain ⟨rfl, rfl⟩ := Prod.mk.inj (Option.some.inj (reserved.symm.trans other_reserved))
        exact ⟨unrecorded, fun _ => by simp [Store.place, Store.write]⟩
  | put trackId filePath bitrate normalized =>
      obtain ⟨-, rfl⟩ := Prod.mk.inj (Option.some.inj performed)
      obtain ⟨locked, reserved, placed⟩ := allowed
      exact owning.put locked reserved placed bitrate normalized
  | planTempArtifact | isFile | startPrewarming | stopPrewarming | isPrewarming | normalize
  | transcodeFile | transcodeCopy | renameTemp | removeCopy | pruneNormCache | openCopy =>
      exact owning.shrink (shrinks_of_plays (by trivial) performed) rfl rfl rfl

/-- Changes from outside only remove entries and files. -/
theorem Owning.outside (owning : store.Owning traces) (change : Change) :
    (store.outside change).Owning traces := by
  have shrinks : store.Shrinks (store.outside change) := by
    cases change with
    | getPath trackId => exact ⟨fun _ _ => Manager.lookup_of_getPath, rfl, rfl⟩
    | setMaxMb maxMb =>
        refine ⟨fun trackId entry found => ⟨entry, ?_, rfl⟩, rfl, rfl⟩
        exact Manager.evictFrom_included (store.manager.limit (Cache.maxBytes maxMb)) _ trackId
          entry found
    | clear =>
        refine ⟨fun trackId entry found => ?_, rfl, rfl⟩
        simp [Store.outside, Manager.clear, Manager.wipe, Manager.save] at found
    | vanish | loseCopy | clock | settings => exact Shrinks.of_eq rfl rfl rfl
  exact ⟨shrinks.owned owning.owned, fun task => (owning.sound task).shrinks shrinks⟩

end Store

theorem safe_owning : machine.Safe discipline Unclaimed Store.Owning where
  initial store fresh := ⟨fresh.owned, fun _ => Store.sound_of_unlocked rfl⟩
  accept store traces actor request program after owning _ accepted := by
    obtain ⟨rfl, rfl⟩ := Prod.mk.inj (Option.some.inj accepted)
    exact ⟨owning, Trace.guides_accept request⟩
  perform store traces actor op input answer after owning allowed permitted performed :=
    owning.perform allowed permitted performed
  outside store traces change after owning changed := by
    obtain rfl := Option.some.inj changed
    exact owning.outside change

/-- While no name is chosen or written that another track still records, no two tracks record one
file, a lookup returns a file fetched for its own track, and dropping one track's entry leaves every
other track's file. -/
theorem one_owner {pool : Pool signature Store Trace}
    (reach : (machine.system discipline).ReachableUnder (Machine.Permits Unclaimed) pool) :
    let store := pool.shared
    (∀ id other first second, store.manager.entries.lookup id = some first →
      store.manager.entries.lookup other = some second →
        first.filePath = second.filePath → id = other) ∧
      (∀ id now path, (store.manager.getPath id now).1 = some path →
        store.maker path = some id) ∧
      ∀ id other entry, other ≠ id → store.manager.entries.lookup other = some entry →
        store.manager.disk.pathExists entry.filePath →
          (store.manager.removeEntry id).disk.pathExists entry.filePath := by
  intro store
  have owned : store.Owned := (safe_owning.guarded reach).holds.owned
  have unique : ∀ id other first second, store.manager.entries.lookup id = some first →
      store.manager.entries.lookup other = some second →
        first.filePath = second.filePath → id = other := by
    intro id other first second first_found second_found same
    have first_made := owned id first first_found
    rw [same, owned other second second_found] at first_made
    exact (Option.some.inj first_made).symm
  refine ⟨unique, ?_, ?_⟩
  · intro id now path found
    obtain ⟨⟨entry, recorded, rfl⟩, -⟩ := (Manager.getPath_eq_iff _ _ _ _).mp found
    exact owned id entry recorded
  · intro id other entry different found present
    unfold Manager.removeEntry
    cases removed : store.manager.entries.lookup id with
    | none => exact present
    | some old =>
        have elsewhere : entry.filePath ≠ old.filePath :=
          fun same => different (unique other id entry old found removed same)
        exact (Disk.pathExists_removeFile _ _ _).mpr ⟨present, fun _ => elsewhere⟩

/-- A program started on an empty cache directory. -/
def emptyStore : Store where
  manager := Manager.new 64
    { files := fun _ => none, metadata := none, writable := true, stale := false } []
  now := 1000
  downloadLock := none
  normalizeStream := true
  lowDataStreaming := false
  audioBitrate := "144k"
  copies := ∅
  temps := ∅
  prewarming := []
  version _ := 0
  maker _ := none
  placed := []
  streamed := []

theorem emptyStore_fresh : emptyStore.Fresh where
  owned := by
    intro trackId entry found
    have empty : emptyStore.manager.entries = ∅ := rfl
    simp [empty] at found
  idle := rfl
  copies := rfl
  temps := rfl
  streamed := rfl

/-- That store with no task started. -/
def emptyPool : Pool signature Store Trace := Machine.boot discipline emptyStore

theorem emptyPool_initial : (machine.system discipline).initial emptyPool :=
  ⟨emptyStore, emptyStore_fresh, rfl⟩

/-- Some steps of one task, under one input. -/
def advance (actor count : Nat) (input : Input) : List (PoolEvent Request Input Change) :=
  List.replicate count (.advance actor input)

/-- A whole fetch of a track with yt-dlp. -/
def fetched (actor : Nat) (track : Track) : List (PoolEvent Request Input Change) :=
  .start (.prepare track none) :: advance actor 7 { rounds := 2, written := some 3 }

/-- A song. -/
def song : Track := { id := "a", name := "Song", artist := "Band" }

/-- The same song on another release. -/
def rerelease : Track := { id := "b", name := "Song", artist := "Band" }

/-- Two releases cached one after the other have files of their own. -/
theorem releases_owned :
    let store := ((machine.system discipline).final emptyPool
      (fetched 0 song ++ fetched 1 rerelease) rfl).shared
    store.manager.order = ["a", "b"] ∧
      ∀ id now path, (store.manager.getPath id now).1 = some path →
        store.maker path = some id :=
  ⟨rfl, (one_owner (System.ReachableUnder.final emptyPool_initial (by decide) rfl)).2.1⟩

/-- The file of the first release vanishes before the second is fetched: both record one path, a
lookup of the first returns the file of the second, and dropping the first deletes that file. -/
theorem releases_share_file :
    ∃ pool, (machine.system discipline).Reachable pool ∧
      let store := pool.shared
      let path := "data/track_cache/Band - Song.ogg"
      ((store.manager.entries.lookup "a").map Entry.filePath = some path ∧
        (store.manager.entries.lookup "b").map Entry.filePath = some path) ∧
        (store.manager.getPath "a" 1000).1 = some path ∧ store.maker path = some "b" ∧
        store.manager.disk.pathExists path = true ∧
        (store.manager.removeEntry "a").disk.pathExists path = false :=
  ⟨(machine.system discipline).final emptyPool
      (fetched 0 song ++ .outside (.vanish "data/track_cache/Band - Song.ogg") ::
        fetched 1 rerelease) rfl,
    System.reachable_final emptyPool_initial _ rfl, ⟨rfl, rfl⟩, rfl, rfl, rfl, rfl⟩

end Togewire.Media
