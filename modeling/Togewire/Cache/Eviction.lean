import Togewire.Cache.Budget

/-!
# What eviction removes

The eviction loop goes by a running total which it keeps with a clamped subtraction.  Where the
total is the sum of the sizes, the loop sheds exactly what the limit asks for, as long as no tail
of the queue weighs more than the total can hold.
-/

namespace Togewire.Cache

open Ledger Register

/-- The numbers of a cache are 64-bit ones. -/
structure Manager.InRange (manager : Manager) : Prop where
  limit : Fits manager.maxBytes
  total : Fits manager.totalSizeBytes
  sizes : ∀ trackId entry, manager.entries.lookup trackId = some entry → Fits entry.fileSize

namespace Manager

variable {manager after : Manager} {queue dropped kept : List String} {trackId path : String}
  {ledger : Entries}

/-! ## Entries and files -/

theorem files_removeFile (disk : Disk) (path other : String) :
    (disk.removeFile path).files other =
      if disk.writable ∧ other = path then none else disk.files other := by
  unfold Disk.removeFile Disk.setFile
  cases disk.writable with
  | false => simp
  | true => simp [Function.update_apply]

theorem writable_removeEntry (manager : Manager) (trackId : String) :
    (manager.removeEntry trackId).disk.writable = manager.disk.writable := by
  unfold removeEntry
  split
  · rfl
  · exact Disk.removeFile_writable _ _

theorem files_removeEntry_eq_none (absent : manager.disk.files path = none) (trackId : String) :
    (manager.removeEntry trackId).disk.files path = none := by
  unfold removeEntry
  split
  · exact absent
  · rw [files_removeFile, discount_disk]
    split
    · rfl
    · exact absent

theorem files_removeEntry (others : ∀ entry, manager.entries.lookup trackId = some entry →
    path ≠ entry.filePath) :
    (manager.removeEntry trackId).disk.files path = manager.disk.files path := by
  unfold removeEntry
  split
  · rfl
  · rename_i old found
    rw [files_removeFile, discount_disk]
    exact if_neg fun both => others old found both.2

theorem files_removeEntry_self {entry : Entry} (writable : manager.disk.writable)
    (found : manager.entries.lookup trackId = some entry) :
    (manager.removeEntry trackId).disk.files entry.filePath = none := by
  simp [removeEntry, found, files_removeFile, writable]

/-- The loop drops a front segment of the queue, exactly its tracks and, where the directory can be
written, exactly their files. -/
structure Drops (manager after : Manager) (queue dropped kept : List String) : Prop where
  split : dropped ++ kept = queue
  order : after.order = kept
  entries : ∀ trackId, after.entries.lookup trackId =
    if trackId ∈ dropped then none else manager.entries.lookup trackId
  deleted : manager.disk.writable → ∀ trackId ∈ dropped, ∀ entry,
    manager.entries.lookup trackId = some entry → after.disk.files entry.filePath = none
  spared : ∀ path, (∀ trackId ∈ dropped, ∀ entry, manager.entries.lookup trackId = some entry →
    path ≠ entry.filePath) → after.disk.files path = manager.disk.files path

theorem files_evictFrom_eq_none (absent : manager.disk.files path = none) (queue : List String) :
    (manager.evictFrom queue).disk.files path = none := by
  induction queue generalizing manager with
  | nil => exact absent
  | cons oldest queue ih =>
      unfold evictFrom
      split
      · exact ih (files_removeEntry_eq_none absent oldest)
      · exact absent

theorem drops_evictFrom (manager : Manager) (queue : List String) :
    ∃ dropped, Drops manager (manager.evictFrom queue) queue dropped
      (manager.evictFrom queue).order := by
  induction queue generalizing manager with
  | nil => exact ⟨[], rfl, rfl, by simp [evictFrom], nofun, fun _ _ => rfl⟩
  | cons oldest queue ih =>
      unfold evictFrom
      split
      · obtain ⟨dropped, drops⟩ := ih (manager.removeEntry oldest)
        have entries : ∀ trackId, trackId ≠ oldest →
            (manager.removeEntry oldest).entries.lookup trackId =
              manager.entries.lookup trackId := by
          intro trackId different
          rw [removeEntry_entries, AList.lookup_erase_ne different]
        refine ⟨oldest :: dropped, by rw [List.cons_append, drops.split], rfl, ?_, ?_, ?_⟩
        · intro trackId
          rw [drops.entries]
          by_cases same : trackId = oldest
          · subst same
            simp
          · simp [same, AList.lookup_erase_ne same]
        · intro writable trackId member entry found
          by_cases same : trackId = oldest
          · subst same
            exact files_evictFrom_eq_none (files_removeEntry_self writable found) queue
          · have listed : trackId ∈ dropped := (List.mem_cons.mp member).resolve_left same
            apply drops.deleted ((writable_removeEntry manager oldest).trans writable) trackId
              listed
            rwa [entries trackId same]
        · intro path others
          obtain ⟨first, rest⟩ := List.forall_mem_cons.mp others
          rw [drops.spared path, files_removeEntry first]
          intro trackId listed entry found
          by_cases same : trackId = oldest
          · subst same
            simp at found
          · exact rest trackId listed entry (by rwa [← entries trackId same])
      · exact ⟨[], rfl, rfl, by simp, nofun, fun _ _ => rfl⟩

/-! ## The running total -/

/-- The total agrees with a weight, as far as the loop can tell: a clamp may have raised it to zero
when the weight is below. -/
def Counts (manager : Manager) (weight : Int) : Prop :=
  manager.maxBytes < manager.totalSizeBytes ∨ manager.maxBytes < weight →
    manager.totalSizeBytes = weight

theorem totalSizeBytes_removeEntry {entry : Entry}
    (found : manager.entries.lookup trackId = some entry) :
    (manager.removeEntry trackId).totalSizeBytes =
      max (wrap (manager.totalSizeBytes - entry.fileSize)) 0 := by
  simp only [removeEntry, found]
  rfl

/-- The subtraction is exact unless what is left exceeds 64 bits. -/
theorem Counts.removeEntry {entry : Entry} {rest : Int} (limit_nonneg : 0 ≤ manager.maxBytes)
    (counts : manager.Counts (entry.fileSize + rest))
    (exceeds : manager.maxBytes < manager.totalSizeBytes) (size : Fits entry.fileSize)
    (found : manager.entries.lookup trackId = some entry) (below : rest < 2 ^ 63) :
    (manager.removeEntry trackId).Counts rest := by
  have total := counts (Or.inl exceeds)
  have exact : wrap (manager.totalSizeBytes - entry.fileSize) = rest := by
    rw [total, show entry.fileSize + rest - entry.fileSize = rest by omega]
    unfold Fits at size
    exact wrap_of_fits ⟨by omega, below⟩
  unfold Counts
  rw [totalSizeBytes_removeEntry found, removeEntry_maxBytes, exact]
  omega

/-- What is left exceeds 64 bits, and the total reads zero. -/
theorem totalSizeBytes_of_overflow {entry : Entry} {rest : Int}
    (counts : manager.Counts (entry.fileSize + rest))
    (exceeds : manager.maxBytes < manager.totalSizeBytes) (total : Fits manager.totalSizeBytes)
    (size : Fits entry.fileSize) (found : manager.entries.lookup trackId = some entry)
    (overflow : 2 ^ 63 ≤ rest) : (manager.removeEntry trackId).totalSizeBytes = 0 := by
  have exact := counts (Or.inl exceeds)
  unfold Fits at total size
  have wrapped : wrap (manager.totalSizeBytes - entry.fileSize) = rest - 2 ^ 64 := by
    unfold wrap
    rw [exact, show entry.fileSize + rest - entry.fileSize = rest by omega, Int.bmod_def]
    omega
  rw [totalSizeBytes_removeEntry found, wrapped]
  omega

/-! ## The loop -/

/-- What the loop relies on: the tracks still queued are those of the ledger it began with, and the
total counts them. -/
structure Evicting (manager : Manager) (queue : List String) (ledger : Entries) : Prop where
  inRange : manager.InRange
  limit_nonneg : 0 ≤ manager.maxBytes
  nodup : queue.Nodup
  listed : ∀ trackId ∈ queue, ∃ entry, ledger.lookup trackId = some entry ∧
    manager.entries.lookup trackId = some entry
  counts : manager.Counts (weighQueue Entry.fileSize queue ledger)

theorem InRange.removeEntry (inRange : manager.InRange) (trackId : String) :
    (manager.removeEntry trackId).InRange where
  limit := by
    rw [removeEntry_maxBytes]
    exact inRange.limit
  total := by
    cases found : manager.entries.lookup trackId with
    | none =>
        have same : manager.removeEntry trackId = manager := by simp [Manager.removeEntry, found]
        rw [same]
        exact inRange.total
    | some entry =>
        have fits := fits_wrap (manager.totalSizeBytes - entry.fileSize)
        rw [totalSizeBytes_removeEntry found]
        unfold Fits at fits ⊢
        omega
  sizes := by
    rw [removeEntry_entries]
    exact forall_erase trackId inRange.sizes

/-- One round, when what it leaves can be counted. -/
theorem Evicting.pop {oldest : String} (evicting : manager.Evicting (oldest :: queue) ledger)
    (exceeds : manager.maxBytes < manager.totalSizeBytes)
    (below : weighQueue Entry.fileSize queue ledger < 2 ^ 63) :
    (manager.removeEntry oldest).Evicting queue ledger where
  inRange := evicting.inRange.removeEntry oldest
  limit_nonneg := by
    rw [removeEntry_maxBytes]
    exact evicting.limit_nonneg
  nodup := (List.nodup_cons.mp evicting.nodup).2
  listed := by
    intro trackId member
    obtain ⟨entry, recorded, found⟩ := evicting.listed trackId (List.mem_cons_of_mem _ member)
    have different : trackId ≠ oldest := by
      rintro rfl
      exact (List.nodup_cons.mp evicting.nodup).1 member
    refine ⟨entry, recorded, ?_⟩
    rwa [removeEntry_entries, AList.lookup_erase_ne different]
  counts := by
    obtain ⟨entry, recorded, found⟩ := evicting.listed oldest List.mem_cons_self
    have counts := evicting.counts
    rw [weighQueue_cons _ recorded] at counts
    exact counts.removeEntry evicting.limit_nonneg exceeds (evicting.inRange.sizes _ _ found) found
      below

/-- With every tail countable the loop sheds what the limit asks for. -/
theorem order_evictFrom (evicting : manager.Evicting queue ledger)
    (below : StaysBelow Entry.fileSize manager.maxBytes (2 ^ 63) ledger queue) :
    (manager.evictFrom queue).order = shed Entry.fileSize manager.maxBytes ledger queue := by
  induction queue generalizing manager with
  | nil => rfl
  | cons oldest queue ih =>
      unfold evictFrom shed
      by_cases exceeds : manager.maxBytes < manager.totalSizeBytes
      · have heavy : manager.maxBytes < weighQueue Entry.fileSize (oldest :: queue) ledger := by
          rw [← evicting.counts (Or.inl exceeds)]
          exact exceeds
        obtain ⟨countable, below⟩ := below.resolve_left (by omega)
        rw [if_pos exceeds, if_pos heavy, ih (evicting.pop exceeds countable), removeEntry_maxBytes]
        rwa [removeEntry_maxBytes]
      · have light : ¬ manager.maxBytes < weighQueue Entry.fileSize (oldest :: queue) ledger := by
          intro heavy
          rw [← evicting.counts (Or.inr heavy)] at heavy
          exact exceeds heavy
        rw [if_neg exceeds, if_neg light]

/-- Once a tail cannot be counted the loop stops with too much left. -/
theorem order_evictFrom_of_overflow (evicting : manager.Evicting queue ledger)
    (overflow : ¬ StaysBelow Entry.fileSize manager.maxBytes (2 ^ 63) ledger queue) :
    manager.maxBytes < weighQueue Entry.fileSize (manager.evictFrom queue).order ledger := by
  induction queue generalizing manager with
  | nil => exact absurd trivial overflow
  | cons oldest queue ih =>
      obtain ⟨heavy, stuck⟩ := not_or.mp overflow
      have exceeds : manager.maxBytes < manager.totalSizeBytes := by
        rw [evicting.counts (Or.inr (by omega))]
        omega
      unfold evictFrom
      rw [if_pos exceeds]
      by_cases countable : weighQueue Entry.fileSize queue ledger < 2 ^ 63
      · have later := ih (evicting.pop exceeds countable)
        rw [removeEntry_maxBytes] at later
        exact later fun below => stuck ⟨countable, below⟩
      · obtain ⟨entry, recorded, found⟩ := evicting.listed oldest List.mem_cons_self
        have counts := evicting.counts
        rw [weighQueue_cons _ recorded] at counts
        have zero := totalSizeBytes_of_overflow counts exceeds evicting.inRange.total
          (evicting.inRange.sizes _ _ found) found (not_lt.mp countable)
        have limit := evicting.inRange.limit
        have limit_nonneg := evicting.limit_nonneg
        have stops : ((manager.removeEntry oldest).evictFrom queue).order = queue := by
          cases queue with
          | nil => rfl
          | cons next queue =>
              unfold evictFrom
              rw [removeEntry_maxBytes, zero, if_neg (by omega)]
        unfold Fits at limit
        rw [stops]
        omega

/-- The shortest front segment of the queue that brings the sizes within the limit goes, with its
entries and files, and nothing else does. -/
def EvictsExactly (manager : Manager) : Prop :=
  ∃ dropped kept,
    Sheds Entry.fileSize manager.maxBytes manager.entries manager.order dropped kept ∧
      Drops manager manager.evictIfNeeded manager.order dropped kept

/-- Eviction is exact just if the loop can count every tail it comes to, as it can where no size is
negative. -/
theorem evicts_exactly_iff (inRange : manager.InRange)
    (enumerates : Enumerates manager.order manager.entries)
    (total : manager.totalSizeBytes = weigh Entry.fileSize manager.entries)
    (limit_nonneg : 0 ≤ manager.maxBytes) :
    (manager.EvictsExactly ↔
      StaysBelow Entry.fileSize manager.maxBytes (2 ^ 63) manager.entries manager.order) ∧
    ((∀ trackId entry, manager.entries.lookup trackId = some entry → 0 ≤ entry.fileSize) →
      manager.EvictsExactly) := by
  rw [← enumerates.weighQueue_eq] at total
  have evicting : manager.Evicting manager.order manager.entries := by
    refine ⟨inRange, limit_nonneg, enumerates.nodup, ?_, fun _ => total⟩
    intro trackId member
    obtain ⟨entry, found⟩ := enumerates.lookup_of_mem member
    exact ⟨entry, found, found⟩
  have exact_of_below :
      StaysBelow Entry.fileSize manager.maxBytes (2 ^ 63) manager.entries manager.order →
        manager.EvictsExactly := by
    intro below
    obtain ⟨dropped, drops⟩ := drops_evictFrom manager manager.order
    obtain ⟨front, sheds⟩ : ∃ front,
        Sheds Entry.fileSize manager.maxBytes manager.entries manager.order front
          (shed Entry.fileSize manager.maxBytes manager.entries manager.order) :=
      sheds_shed limit_nonneg manager.order
    rw [← order_evictFrom evicting below] at sheds
    have same : front = dropped := List.append_cancel_right (sheds.split.trans drops.split.symm)
    exact ⟨dropped, _, same ▸ sheds, drops⟩
  refine ⟨⟨?_, exact_of_below⟩, ?_⟩
  · rintro ⟨dropped, kept, sheds, drops⟩
    by_contra overflow
    have heavy := order_evictFrom_of_overflow evicting overflow
    have kept_eq : (manager.evictFrom manager.order).order = kept := drops.order
    rw [kept_eq] at heavy
    have within := sheds.within
    omega
  · intro nonneg
    apply exact_of_below
    have fits := inRange.total
    unfold Fits at fits
    exact staysBelow_of_nonneg nonneg (by omega)

/-- A cache of one track for each size, the first one the oldest. -/
def sized (maxBytes totalSizeBytes : Int) (tracks : List (String × Int)) : Manager :=
  { bare with
    maxBytes := maxBytes
    totalSizeBytes := totalSizeBytes
    order := tracks.map Prod.fst
    entries := tracks.foldr
      (fun track entries => entries.insert track.1
        { lastAccessedAt := 0
          filePath := track.1
          fileSize := track.2
          bitrate := "144k"
          normalized := false }) ∅ }

/-- A file which fills the limit, an empty one and one of a byte. -/
def filled : Manager := sized (2 ^ 26) (2 ^ 26 + 1) [("a", 2 ^ 26), ("b", 0), ("c", 1)]

theorem inRange_of_forall {manager : Manager} (limit : Fits manager.maxBytes)
    (total : Fits manager.totalSizeBytes)
    (sizes : ∀ listed ∈ manager.entries.entries, Fits listed.2.fileSize) : manager.InRange where
  limit := limit
  total := total
  sizes trackId entry found := sizes ⟨trackId, entry⟩ (AList.mem_lookup_iff.mp found)

theorem enumerates_of_perm {manager : Manager} (nodup : manager.order.Nodup)
    (same : manager.order.Perm manager.entries.keys) :
    Enumerates manager.order manager.entries where
  nodup := nodup
  mem_iff _ := same.mem_iff

theorem filled_evicts_exactly :
    filled.evictIfNeeded.order = ["b", "c"] ∧
      (filled.EvictsExactly ↔
        StaysBelow Entry.fileSize filled.maxBytes (2 ^ 63) filled.entries filled.order) ∧
      ((∀ trackId entry, filled.entries.lookup trackId = some entry → 0 ≤ entry.fileSize) →
        filled.EvictsExactly) :=
  ⟨rfl, evicts_exactly_iff (inRange_of_forall (by decide) (by decide) (by decide))
    (enumerates_of_perm (by decide) (by decide)) rfl (by decide)⟩

/-- A recorded size below every file's, and three whose sum the total cannot hold. -/
def overflowing : Manager :=
  sized (2 ^ 26) (2 ^ 62) [("a", -2 ^ 63), ("b", 2 ^ 62), ("c", 2 ^ 62), ("d", 2 ^ 62)]

/-- The total wraps, and the loop stops far above the limit. -/
theorem overflowing_stops_early :
    ¬ ∀ manager : Manager, manager.InRange → Enumerates manager.order manager.entries →
      manager.totalSizeBytes = weigh Entry.fileSize manager.entries → 0 ≤ manager.maxBytes →
        manager.EvictsExactly := by
  intro exact
  obtain ⟨dropped, kept, sheds, drops⟩ := exact overflowing
    (inRange_of_forall (by decide) (by decide) (by decide))
    (enumerates_of_perm (by decide) (by decide)) rfl (by decide)
  obtain rfl : ["b", "c", "d"] = kept := drops.order
  exact absurd sheds.within (by decide)

end Manager

end Togewire.Cache
