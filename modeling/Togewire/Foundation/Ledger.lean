import Mathlib.Algebra.Order.BigOperators.Group.List
import Mathlib.Algebra.Order.Ring.Int
import Mathlib.Data.List.AList
import Mathlib.Data.List.Sort
import Mathlib.Data.List.TakeWhile

/-!
# Weighed ledgers and their queues

A ledger is a finite map whose values have integer weights.  Programs that keep a running total
and a queue of the keys beside the map update the three by hand; the lemmas here say what each
update of the map does to its weight, and which edits of a queue follow it.
-/

namespace Ledger

variable {κ β : Type*} [DecidableEq κ]

/-- The sum of the weights of all values. -/
def weigh (weight : β → Int) (ledger : AList fun _ : κ => β) : Int :=
  (ledger.entries.map fun entry => weight entry.2).sum

omit [DecidableEq κ] in
@[simp] theorem weigh_empty (weight : β → Int) :
    weigh weight (∅ : AList fun _ : κ => β) = 0 := rfl

theorem weigh_insert (weight : β → Int) (ledger : AList fun _ : κ => β) (key : κ) (value : β) :
    weigh weight (ledger.insert key value) = weight value + weigh weight (ledger.erase key) := rfl

theorem erase_of_notMem {ledger : AList fun _ : κ => β} {key : κ} (fresh : key ∉ ledger) :
    ledger.erase key = ledger :=
  AList.ext (List.kerase_of_notMem_keys fresh)

theorem weigh_insert_of_notMem (weight : β → Int) {ledger : AList fun _ : κ => β} {key : κ}
    (fresh : key ∉ ledger) (value : β) :
    weigh weight (ledger.insert key value) = weight value + weigh weight ledger := by
  rw [weigh_insert, erase_of_notMem fresh]

theorem insert_erase (ledger : AList fun _ : κ => β) (key : κ) (value : β) :
    (ledger.erase key).insert key value = ledger.insert key value := by
  apply AList.ext
  rw [AList.entries_insert, AList.entries_insert]
  have fresh : key ∉ (ledger.erase key).entries.keys := List.notMem_keys_kerase key ledger.nodupKeys
  rw [List.kerase_of_notMem_keys fresh]
  rfl

/-- Erasing a key takes its value's weight off the total. -/
theorem weigh_erase (weight : β → Int) {ledger : AList fun _ : κ => β} {key : κ} {value : β}
    (found : ledger.lookup key = some value) :
    weigh weight (ledger.erase key) = weigh weight ledger - weight value := by
  have member : Sigma.mk key value ∈ ledger.entries := AList.mem_lookup_iff.mp found
  obtain ⟨other, front, back, fresh, entries_eq, erased⟩ :=
    List.exists_of_kerase (List.mem_keys_of_mem member)
  have here : Sigma.mk key other ∈ ledger.entries := by simp [entries_eq]
  obtain rfl : value = other := ledger.nodupKeys.eq_of_mk_mem member here
  have erased_entries : (ledger.erase key).entries = front ++ back := erased
  simp only [weigh, erased_entries, entries_eq, List.map_append, List.map_cons, List.sum_append,
    List.sum_cons]
  omega

theorem lookup_of_erase {ledger : AList fun _ : κ => β} {key id : κ} {value : β}
    (found : (ledger.erase key).lookup id = some value) : ledger.lookup id = some value := by
  by_cases same : id = key
  · subst same
    simp at found
  · rwa [AList.lookup_erase_ne same] at found

theorem absent_erase {ledger : AList fun _ : κ => β} {key id : κ}
    (absent : ledger.lookup id = none) : (ledger.erase key).lookup id = none := by
  cases found : (ledger.erase key).lookup id with
  | none => rfl
  | some value => rw [← absent, lookup_of_erase found]

theorem forall_erase {ledger : AList fun _ : κ => β} {holds : κ → β → Prop} (key : κ)
    (every : ∀ id value, ledger.lookup id = some value → holds id value) :
    ∀ id value, (ledger.erase key).lookup id = some value → holds id value :=
  fun id value found => every id value (lookup_of_erase found)

theorem forall_insert {ledger : AList fun _ : κ => β} {holds : κ → β → Prop} {key : κ} {value : β}
    (added : holds key value) (every : ∀ id other, ledger.lookup id = some other → holds id other) :
    ∀ id other, (ledger.insert key value).lookup id = some other → holds id other := by
  intro id other found
  by_cases same : id = key
  · subst same
    obtain rfl : value = other := by simpa using found
    exact added
  · rw [AList.lookup_insert_ne same] at found
    exact every id other found

/-- Non-negative weights bound every single weight by the total. -/
theorem weigh_nonneg {weight : β → Int} {ledger : AList fun _ : κ => β}
    (nonneg : ∀ key value, ledger.lookup key = some value → 0 ≤ weight value) :
    0 ≤ weigh weight ledger := by
  apply List.sum_nonneg
  intro summand member
  obtain ⟨⟨key, value⟩, listed, rfl⟩ := List.mem_map.mp member
  exact nonneg key value (AList.mem_lookup_iff.mpr listed)

/-! ## Queues of keys -/

/-- A queue lists every key of a ledger exactly once and nothing else. -/
structure Enumerates (queue : List κ) (ledger : AList fun _ : κ => β) : Prop where
  nodup : queue.Nodup
  mem_iff : ∀ key, key ∈ queue ↔ key ∈ ledger

namespace Enumerates

variable {queue : List κ} {ledger : AList fun _ : κ => β}

omit [DecidableEq κ] in
theorem empty : Enumerates ([] : List κ) (∅ : AList fun _ : κ => β) where
  nodup := List.nodup_nil
  mem_iff key := by simp [AList.notMem_empty]

/-- Dropping a key from the queue follows its erasure. -/
theorem erase (enumerates : Enumerates queue ledger) (key : κ) :
    Enumerates (queue.filter fun other => other ≠ key) (ledger.erase key) where
  nodup := enumerates.nodup.filter _
  mem_iff other := by
    rw [List.mem_filter, enumerates.mem_iff, AList.mem_erase]
    simp [and_comm]

/-- Dropping the front of the queue follows its erasure. -/
theorem pop {key : κ} (enumerates : Enumerates (key :: queue) ledger) :
    Enumerates queue (ledger.erase key) := by
  obtain ⟨fresh, nodup⟩ := List.nodup_cons.mp enumerates.nodup
  refine ⟨nodup, ?_⟩
  intro other
  rw [AList.mem_erase, ← enumerates.mem_iff]
  by_cases same : other = key
  · subst same
    simp [fresh]
  · simp [same]

/-- Queueing a new key follows its insertion. -/
theorem push (enumerates : Enumerates queue ledger) {key : κ} (fresh : key ∉ ledger) (value : β) :
    Enumerates (queue ++ [key]) (ledger.insert key value) where
  nodup := by
    have unlisted : key ∉ queue := by rwa [enumerates.mem_iff]
    refine List.Nodup.append enumerates.nodup (List.nodup_singleton key) ?_
    intro other listed same
    obtain rfl := List.mem_singleton.mp same
    exact unlisted listed
  mem_iff other := by
    rw [List.mem_append, enumerates.mem_iff, AList.mem_insert, List.mem_singleton, or_comm]

/-- Moving a key to the back of the queue follows an overwrite of its value. -/
theorem renew (enumerates : Enumerates queue ledger) (key : κ) (value : β) :
    Enumerates ((queue.filter fun other => other ≠ key) ++ [key]) (ledger.insert key value) := by
  rw [← insert_erase]
  apply (enumerates.erase key).push
  rw [AList.mem_erase]
  simp

end Enumerates

theorem filter_append_getLast {queue : List κ} {key : κ} (nodup : queue.Nodup)
    (newest : queue.getLast? = some key) :
    (queue.filter fun other => other ≠ key) ++ [key] = queue := by
  obtain ⟨front, rfl⟩ := List.getLast?_eq_some_iff.mp newest
  have fresh : key ∉ front := by
    intro member
    exact List.disjoint_of_nodup_append nodup member (List.mem_singleton.mpr rfl)
  have kept : front.filter (fun other => other ≠ key) = front := by
    apply List.filter_eq_self.mpr
    intro other member
    have different : other ≠ key := fun same => fresh (same ▸ member)
    simpa using different
  rw [List.filter_append, kept]
  simp

/-! ## Weighing a queue -/

/-- The sum of the weights a ledger gives the keys of a queue. -/
def weighQueue (weight : β → Int) (queue : List κ) (ledger : AList fun _ : κ => β) : Int :=
  (queue.map fun key => (ledger.lookup key).elim 0 weight).sum

/-- The weight of a queue from the place of a key on. -/
def weighFrom (weight : β → Int) (queue : List κ) (ledger : AList fun _ : κ => β) (key : κ) : Int :=
  weighQueue weight (queue.dropWhile fun other => other ≠ key) ledger

theorem weighQueue_cons (weight : β → Int) {key : κ} {queue : List κ}
    {ledger : AList fun _ : κ => β} {value : β} (found : ledger.lookup key = some value) :
    weighQueue weight (key :: queue) ledger = weight value + weighQueue weight queue ledger := by
  simp [weighQueue, found]

theorem weighQueue_append (weight : β → Int) (front back : List κ)
    (ledger : AList fun _ : κ => β) :
    weighQueue weight (front ++ back) ledger =
      weighQueue weight front ledger + weighQueue weight back ledger := by
  simp [weighQueue]

theorem weighQueue_congr {weight : β → Int} {queue : List κ}
    {ledger other : AList fun _ : κ => β}
    (agree : ∀ key ∈ queue, ledger.lookup key = other.lookup key) :
    weighQueue weight queue ledger = weighQueue weight queue other := by
  unfold weighQueue
  rw [List.map_congr_left fun key member => by rw [agree key member]]

theorem weighQueue_nonneg {weight : β → Int} {ledger : AList fun _ : κ => β}
    (nonneg : ∀ key value, ledger.lookup key = some value → 0 ≤ weight value) (queue : List κ) :
    0 ≤ weighQueue weight queue ledger := by
  apply List.sum_nonneg
  intro summand member
  obtain ⟨key, -, rfl⟩ := List.mem_map.mp member
  cases found : ledger.lookup key with
  | none => exact le_refl _
  | some value => exact nonneg key value found

/-- What a key's place in the queue leaves behind it weighs no more than the whole queue. -/
theorem weighFrom_le {weight : β → Int} {ledger : AList fun _ : κ => β}
    (nonneg : ∀ key value, ledger.lookup key = some value → 0 ≤ weight value) (queue : List κ)
    (key : κ) : weighFrom weight queue ledger key ≤ weighQueue weight queue ledger := by
  have front_nonneg := weighQueue_nonneg nonneg (queue.takeWhile fun other => other ≠ key)
  have split := weighQueue_append weight (queue.takeWhile fun other => other ≠ key)
    (queue.dropWhile fun other => other ≠ key) ledger
  rw [List.takeWhile_append_dropWhile] at split
  unfold weighFrom
  omega

theorem weighFrom_cons_self (weight : β → Int) (key : κ) (queue : List κ)
    (ledger : AList fun _ : κ => β) :
    weighFrom weight (key :: queue) ledger key = weighQueue weight (key :: queue) ledger := by
  simp [weighFrom]

theorem weighFrom_cons_ne (weight : β → Int) {key other : κ} (different : other ≠ key)
    (queue : List κ) (ledger : AList fun _ : κ => β) :
    weighFrom weight (other :: queue) ledger key = weighFrom weight queue ledger key := by
  simp [weighFrom, different]

theorem weighFrom_congr {weight : β → Int} {queue : List κ}
    {ledger other : AList fun _ : κ => β} (key : κ)
    (agree : ∀ id ∈ queue, ledger.lookup id = other.lookup id) :
    weighFrom weight queue ledger key = weighFrom weight queue other key :=
  weighQueue_congr fun id member => agree id ((List.dropWhile_sublist _).subset member)

/-- Nothing is queued behind the last key. -/
theorem weighFrom_newest (weight : β → Int) {queue : List κ} {newest : κ} {value : β}
    (ledger : AList fun _ : κ => β) (fresh : newest ∉ queue) :
    weighFrom weight (queue ++ [newest]) (ledger.insert newest value) newest = weight value := by
  have passed : ∀ key ∈ queue, (decide (key ≠ newest)) = true := by
    rintro key member
    have different : key ≠ newest := fun same => fresh (same ▸ member)
    simpa using different
  rw [weighFrom, List.dropWhile_append_of_pos passed]
  simp [weighQueue]

/-- A queue with a further key at its back. -/
theorem weighFrom_push (weight : β → Int) {queue : List κ} {key newest : κ} {value : β}
    (ledger : AList fun _ : κ => β) (listed : key ∈ queue) (fresh : newest ∉ queue) :
    weighFrom weight (queue ++ [newest]) (ledger.insert newest value) key =
      weighFrom weight queue ledger key + weight value := by
  have stops : (queue.dropWhile fun other => other ≠ key) ≠ [] := by
    intro passed
    simpa using List.dropWhile_eq_nil_iff.mp passed key listed
  have agree : ∀ id ∈ queue, (ledger.insert newest value).lookup id = ledger.lookup id := by
    rintro id member
    apply AList.lookup_insert_ne
    rintro rfl
    exact fresh member
  have last : weighQueue weight [newest] (ledger.insert newest value) = weight value := by
    simp [weighQueue]
  have suffix : (queue ++ [newest]).dropWhile (fun other => other ≠ key) =
      (queue.dropWhile fun other => other ≠ key) ++ [newest] := by
    rw [List.dropWhile_append, if_neg (by rwa [List.isEmpty_iff])]
  unfold weighFrom
  rw [suffix, weighQueue_append, last, weighQueue_congr fun id member =>
    agree id ((List.dropWhile_sublist _).subset member)]

namespace Enumerates

variable {queue : List κ} {ledger : AList fun _ : κ => β}

theorem lookup_of_nil (enumerates : Enumerates [] ledger) (key : κ) : ledger.lookup key = none := by
  rw [AList.lookup_eq_none, ← enumerates.mem_iff]
  exact List.not_mem_nil

theorem lookup_of_mem {key : κ} (enumerates : Enumerates queue ledger) (member : key ∈ queue) :
    ∃ value, ledger.lookup key = some value := by
  have present : key ∈ ledger := (enumerates.mem_iff key).mp member
  exact Option.isSome_iff_exists.mp (AList.lookup_isSome.mpr present)

/-- Erasing the front of the queue leaves what is behind it. -/
theorem lookup_pop {key : κ} (enumerates : Enumerates (key :: queue) ledger) :
    ∀ other ∈ queue, (ledger.erase key).lookup other = ledger.lookup other := by
  rintro other member
  apply AList.lookup_erase_ne
  rintro rfl
  exact (List.nodup_cons.mp enumerates.nodup).1 member

theorem weighFrom_pop {key other : κ} (enumerates : Enumerates (key :: queue) ledger)
    (weight : β → Int) (different : other ≠ key) :
    weighFrom weight queue (ledger.erase key) other =
      weighFrom weight (key :: queue) ledger other := by
  rw [weighFrom_congr other enumerates.lookup_pop, weighFrom_cons_ne weight (Ne.symm different)]

/-- Weighing a ledger along a queue which enumerates it. -/
theorem weighQueue_eq (enumerates : Enumerates queue ledger) (weight : β → Int) :
    weighQueue weight queue ledger = weigh weight ledger := by
  induction queue generalizing ledger with
  | nil =>
      have empty : ledger.entries = [] := by
        apply List.eq_nil_iff_forall_not_mem.mpr
        intro listed member
        have present : listed.1 ∈ ledger := List.mem_keys_of_mem member
        simpa using (enumerates.mem_iff listed.1).mpr present
      simp [weighQueue, weigh, empty]
  | cons key queue ih =>
      obtain ⟨value, found⟩ := enumerates.lookup_of_mem List.mem_cons_self
      rw [weighQueue_cons weight found, ← weighQueue_congr enumerates.lookup_pop,
        ih enumerates.pop, weigh_erase weight found]
      omega

end Enumerates

/-! ## Shedding weight -/

/-- What a queue drops is its shortest front segment without which it is within a limit. -/
structure Sheds (weight : β → Int) (limit : Int) (ledger : AList fun _ : κ => β)
    (queue dropped kept : List κ) : Prop where
  split : dropped ++ kept = queue
  within : weighQueue weight kept ledger ≤ limit
  shortest : ∀ front back, front ++ back = queue → weighQueue weight back ledger ≤ limit →
    dropped.length ≤ front.length

/-- Drop keys from the front while what is left exceeds a limit. -/
def shed (weight : β → Int) (limit : Int) (ledger : AList fun _ : κ => β) : List κ → List κ
  | [] => []
  | key :: queue =>
      if limit < weighQueue weight (key :: queue) ledger then
        shed weight limit ledger queue
      else
        key :: queue

/-- Every tail which the shedding comes to weighs less than a bound. -/
def StaysBelow (weight : β → Int) (limit bound : Int) (ledger : AList fun _ : κ => β) :
    List κ → Prop
  | [] => True
  | key :: queue =>
      weighQueue weight (key :: queue) ledger ≤ limit ∨
        weighQueue weight queue ledger < bound ∧ StaysBelow weight limit bound ledger queue

section Shedding

variable {weight : β → Int} {limit bound : Int} {ledger : AList fun _ : κ => β} {queue : List κ}

theorem sheds_shed (nonneg : 0 ≤ limit) (queue : List κ) :
    ∃ dropped, Sheds weight limit ledger queue dropped (shed weight limit ledger queue) := by
  induction queue with
  | nil =>
      refine ⟨[], rfl, ?_, fun _ _ _ _ => Nat.zero_le _⟩
      simpa [weighQueue, shed] using nonneg
  | cons key queue ih =>
      obtain ⟨dropped, sheds⟩ := ih
      by_cases exceeds : limit < weighQueue weight (key :: queue) ledger
      · have dropping : shed weight limit ledger (key :: queue) = shed weight limit ledger queue :=
          if_pos exceeds
        rw [dropping]
        refine ⟨key :: dropped, by rw [List.cons_append, sheds.split], sheds.within, ?_⟩
        intro front back split within
        cases front with
        | nil =>
            obtain rfl : back = key :: queue := split
            omega
        | cons first front =>
            have rest := sheds.shortest front back (List.cons.inj split).2 within
            exact Nat.succ_le_succ rest
      · have keeping : shed weight limit ledger (key :: queue) = key :: queue := if_neg exceeds
        rw [keeping]
        exact ⟨[], rfl, by omega, fun _ _ _ _ => Nat.zero_le _⟩

/-- Non-negative weights only go down. -/
theorem staysBelow_of_nonneg
    (nonneg : ∀ key value, ledger.lookup key = some value → 0 ≤ weight value)
    (below : weighQueue weight queue ledger < bound) :
    StaysBelow weight limit bound ledger queue := by
  induction queue with
  | nil => trivial
  | cons key queue ih =>
      have front := weighQueue_nonneg nonneg [key]
      have split := weighQueue_append weight [key] queue ledger
      rw [List.singleton_append] at split
      have rest : weighQueue weight queue ledger < bound := by omega
      exact Or.inr ⟨rest, ih rest⟩

end Shedding

/-! ## Chronological queues -/

/-- The values of a queue's keys have stamps which never decrease along the queue. -/
def Sorted (stamp : β → Int) (queue : List κ) (ledger : AList fun _ : κ => β) : Prop :=
  queue.Pairwise fun older newer => ∀ first second,
    ledger.lookup older = some first → ledger.lookup newer = some second →
      stamp first ≤ stamp second

/-- A ledger without some of the values is still sorted. -/
theorem Sorted.restrict {stamp : β → Int} {queue : List κ} {ledger smaller : AList fun _ : κ => β}
    (sorted : Sorted stamp queue ledger)
    (included : ∀ key value, smaller.lookup key = some value → ledger.lookup key = some value) :
    Sorted stamp queue smaller := by
  refine sorted.imp ?_
  intro older newer ordered first second first_found second_found
  exact ordered first second (included _ _ first_found) (included _ _ second_found)

/-- A queue which enumerates a ledger in the order of its values' stamps. -/
structure Chronicle (stamp : β → Int) (queue : List κ) (ledger : AList fun _ : κ => β) : Prop
    extends Enumerates queue ledger where
  sorted : Sorted stamp queue ledger

namespace Chronicle

variable {stamp : β → Int} {queue : List κ} {ledger : AList fun _ : κ => β}

theorem empty (stamp : β → Int) :
    Chronicle stamp ([] : List κ) (∅ : AList fun _ : κ => β) :=
  ⟨.empty, .nil⟩

theorem erase (chronicle : Chronicle stamp queue ledger) (key : κ) :
    Chronicle stamp (queue.filter fun other => other ≠ key) (ledger.erase key) where
  toEnumerates := chronicle.toEnumerates.erase key
  sorted := by
    have kept : Sorted stamp (queue.filter fun other => other ≠ key) ledger :=
      chronicle.sorted.filter _
    exact kept.restrict fun _ _ => lookup_of_erase

theorem pop {key : κ} (chronicle : Chronicle stamp (key :: queue) ledger) :
    Chronicle stamp queue (ledger.erase key) where
  toEnumerates := chronicle.toEnumerates.pop
  sorted := by
    have rest : Sorted stamp queue ledger := (List.pairwise_cons.mp chronicle.sorted).2
    exact rest.restrict fun _ _ => lookup_of_erase

/-- The newest value is queued last. -/
theorem push (chronicle : Chronicle stamp queue ledger) {key : κ} (fresh : key ∉ ledger)
    {value : β}
    (latest : ∀ id other, ledger.lookup id = some other → stamp other ≤ stamp value) :
    Chronicle stamp (queue ++ [key]) (ledger.insert key value) where
  toEnumerates := chronicle.toEnumerates.push fresh value
  sorted := by
    have unlisted : ∀ id ∈ queue, id ≠ key := by
      rintro id listed rfl
      exact fresh ((chronicle.mem_iff id).mp listed)
    apply List.pairwise_append.mpr
    refine ⟨?_, List.pairwise_singleton _ key, ?_⟩
    · refine List.Pairwise.imp_of_mem ?_ chronicle.sorted
      intro older newer older_mem newer_mem ordered first second first_found second_found
      rw [AList.lookup_insert_ne (unlisted older older_mem)] at first_found
      rw [AList.lookup_insert_ne (unlisted newer newer_mem)] at second_found
      exact ordered first second first_found second_found
    · intro older older_mem newer newer_mem first second first_found second_found
      obtain rfl := List.mem_singleton.mp newer_mem
      rw [AList.lookup_insert_ne (unlisted older older_mem)] at first_found
      rw [AList.lookup_insert] at second_found
      obtain rfl := Option.some.inj second_found
      exact latest older first first_found

/-- A renewed value moves to the back. -/
theorem renew (chronicle : Chronicle stamp queue ledger) (key : κ) {value : β}
    (latest : ∀ id other, ledger.lookup id = some other → stamp other ≤ stamp value) :
    Chronicle stamp ((queue.filter fun other => other ≠ key) ++ [key])
      (ledger.insert key value) := by
  rw [← insert_erase]
  apply (chronicle.erase key).push
  · rw [AList.mem_erase]
    simp
  · exact forall_erase key latest

/-- Keys nearer the front have older values. -/
theorem stamp_le {front back : List κ} (chronicle : Chronicle stamp (front ++ back) ledger)
    {older newer : κ} (older_mem : older ∈ front) (newer_mem : newer ∈ back) {first second : β}
    (first_found : ledger.lookup older = some first)
    (second_found : ledger.lookup newer = some second) : stamp first ≤ stamp second :=
  (List.pairwise_append.mp chronicle.sorted).2.2 older older_mem newer newer_mem first second
    first_found second_found

/-- The part of a chronicle that keeps some of the keys. -/
theorem restrict (chronicle : Chronicle stamp queue ledger) {kept : AList fun _ : κ => β}
    (keep : κ → Bool)
    (lookup_eq : ∀ key, kept.lookup key = if keep key then ledger.lookup key else none) :
    Chronicle stamp (queue.filter keep) kept where
  nodup := chronicle.nodup.filter _
  mem_iff key := by
    rw [List.mem_filter, chronicle.mem_iff, ← AList.lookup_isSome, ← AList.lookup_isSome,
      lookup_eq]
    by_cases kept_key : keep key
    · simp [kept_key]
    · simp [kept_key]
  sorted := by
    have part : Sorted stamp (queue.filter keep) ledger := chronicle.sorted.filter _
    apply part.restrict
    intro key value found
    rw [lookup_eq] at found
    split at found
    · exact found
    · simp at found

/-- The stamps along a queue do not decrease. -/
theorem stamps_sorted (chronicle : Chronicle stamp queue ledger) :
    (queue.map fun key => (ledger.lookup key).elim 0 stamp).Pairwise (· ≤ ·) := by
  apply List.pairwise_map.mpr
  refine List.Pairwise.imp_of_mem ?_ chronicle.sorted
  intro older newer older_mem newer_mem ordered
  obtain ⟨first, first_found⟩ := Option.isSome_iff_exists.mp
    (AList.lookup_isSome.mpr ((chronicle.mem_iff older).mp older_mem))
  obtain ⟨second, second_found⟩ := Option.isSome_iff_exists.mp
    (AList.lookup_isSome.mpr ((chronicle.mem_iff newer).mp newer_mem))
  rw [first_found, second_found]
  exact ordered first second first_found second_found

/-- Two chronicles of one ledger differ only in the order of keys with equal stamps: they list the
same keys, and have the same stamps place by place. -/
theorem same_stamps {other : List κ} (chronicle : Chronicle stamp queue ledger)
    (another : Chronicle stamp other ledger) :
    queue.Perm other ∧
      queue.map (fun key => (ledger.lookup key).elim 0 stamp) =
        other.map fun key => (ledger.lookup key).elim 0 stamp := by
  have permuted : queue.Perm other := by
    rw [List.perm_ext_iff_of_nodup chronicle.nodup another.nodup]
    intro key
    rw [chronicle.mem_iff, another.mem_iff]
  refine ⟨permuted, ?_⟩
  exact (permuted.map _).eq_of_pairwise' chronicle.stamps_sorted another.stamps_sorted

end Chronicle

end Ledger
