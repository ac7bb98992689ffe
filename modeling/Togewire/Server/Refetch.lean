import Togewire.Cache.Budget
import Togewire.Server.Playback

/-!
# Whether a finished download is fetched again

A fetcher ends by caching its file, and everybody who waits for the track relies on the next lookup
to find it.  The lookup of the next poll decides whether the track is downloaded once more.
-/

namespace Togewire.Server

open Cache Interleaving Ledger

/-- A poll starts no download of a track which is cached. -/
theorem runs_prepareCurrent_of_cached {state : AppState} {actor : Nat} {input : Input}
    {track : Track} {filePath : String} (cached : state.cache.CachedAt track.id filePath) :
    state.Runs actor input (prepareCurrent track) fun _ after =>
      after.spawned = state.spawned := by
  have found : (state.getCachedPath track).1 = some filePath :=
    (Manager.getPath_eq_iff _ _ _ _).mpr cached
  have answered : state.perform actor (.getCachedPath track) input =
      some (some filePath, (state.getCachedPath track).2) := by
    rw [← found]
    rfl
  exact AppState.runs_ask answered (AppState.runs_pure rfl)

/-- Once `put` has returned, the track is recorded under its path with the file in place, every
later lookup returns the path, and no poll downloads the track again: exactly when there is room for
the file. -/
theorem put_keeps_track_iff {manager : Manager} (accounted : manager.Accounted) {track : Track}
    {filePath : String} {size : Nat} (finished : manager.disk.files filePath = some size)
    (bounded : size + weigh Entry.fileSize (manager.entries.erase track.id) < 2 ^ 63)
    (bitrate : String) (normalized : Bool) (now : Int) :
    let stored := manager.put track.id filePath bitrate normalized now
    (((∃ entry, stored.entries.lookup track.id = some entry ∧ entry.filePath = filePath) ∧
        stored.disk.pathExists filePath) ∧
      (∀ later, (stored.getPath track.id later).1 = some filePath) ∧
      ∀ (state : AppState) actor input, state.cache = stored →
        state.Runs actor input (prepareCurrent track) fun _ after =>
          after.spawned = state.spawned) ↔
      manager.Room track.id filePath size := by
  intro stored
  have cached_iff : stored.CachedAt track.id filePath ↔ manager.Room track.id filePath size :=
    Manager.cachedAt_put_iff accounted finished bitrate normalized now bounded
  rw [← cached_iff]
  constructor
  · rintro ⟨cached, -⟩
    exact cached
  · intro cached
    refine ⟨cached, fun later => (Manager.getPath_eq_iff _ _ _ later).mpr cached, ?_⟩
    rintro state actor input cache_eq
    have held : state.cache.CachedAt track.id filePath := by rwa [cache_eq]
    exact runs_prepareCurrent_of_cached held

/-- A disk with a file of forty and one of a hundred megabytes. -/
def shortAndLong : Disk where
  files path :=
    if path = "short.ogg" then some 40000000
    else if path = "long.ogg" then some 100000000
    else none
  metadata := none
  writable := true
  stale := false

/-- An empty cache on that disk, limited to sixty-four megabytes. -/
def shelf : Manager := Manager.new 64 shortAndLong []

theorem shelf_accounted : shelf.Accounted :=
  Manager.accounted_new (List.Perm.refl _) (by simp [shortAndLong])

theorem shelf_room : shelf.Room "s" "short.ogg" (40000000 : Nat) where
  alone := by decide
  shared := by
    intro _ other entry _ found
    have empty : shelf.entries = ∅ := rfl
    simp [empty] at found

/-- The short file stays cached. -/
theorem short_kept :
    let stored := shelf.put "s" "short.ogg" "144k" false 1000
    ((∃ entry, stored.entries.lookup "s" = some entry ∧ entry.filePath = "short.ogg") ∧
        stored.disk.pathExists "short.ogg") ∧
      (∀ later, (stored.getPath "s" later).1 = some "short.ogg") ∧
      ∀ (state : AppState) actor input, state.cache = stored →
        state.Runs actor input (prepareCurrent { id := "s" }) fun _ after =>
          after.spawned = state.spawned :=
  (@put_keeps_track_iff shelf shelf_accounted { id := "s" } "short.ogg" 40000000 rfl (by decide)
    "144k" false 1000).mpr shelf_room

/-- The long file is deleted by the `put` that records it, the next lookup misses, and the next poll
downloads the track again. -/
theorem long_refetched :
    let stored := shelf.put "l" "long.ogg" "144k" false 1000
    stored.entries.lookup "l" = none ∧ stored.disk.pathExists "long.ogg" = false ∧
      (stored.getPath "l" 1003).1 = none ∧
        (Playback.finish { AppState.bare with cache := stored } 1 {}
          (prepareCurrent { id := "l" })).map (fun outcome => outcome.2.spawned) =
            some [{ id := "l" }] :=
  ⟨rfl, rfl, rfl, rfl⟩

end Togewire.Server
