import Togewire.Foundation.Ranking
import Togewire.Foundation.Tally
import Togewire.Media.Copies

/-!
# How many copies there are

Copies are kept in memory, so there must not be many.  Every build which moves a copy into place
drops all but the newest few right after it.  Builds run side by side: in between there is one more
for each that has not dropped any yet.
-/

namespace Togewire.Media

open Cache Interleaving Transition

/-- How far a player is with a copy. -/
inductive Stage
  | idle
  /-- It has a temporary file. -/
  | built
  /-- It has moved the copy into place. -/
  | moved
  deriving DecidableEq

namespace Stage

def next : Stage → (op : Op) → op.Answer → Stage
  | _, .normalize _ _, true | _, .transcodeFile _ _, true | _, .transcodeCopy _ _, true => .built
  | _, .renameTemp, true => .moved
  | _, .renameTemp, false | _, .pruneNormCache, _ => .idle
  | stage, _, _ => stage

def Allows (stage : Stage) : Op → Prop
  | .renameTemp => stage = .built
  | .pruneNormCache => stage = .moved
  | .removeCopy _ => stage ≠ .moved
  | _ => stage = .idle

end Stage

/-- The discipline of builds. -/
def building : Discipline signature Stage where
  start := .idle
  next := Stage.next
  allows := Stage.Allows

namespace Stage

/-- A task which leaves nothing behind. -/
abbrev Tidies {α : Type} (task : Task α) : Prop :=
  task.Obeys building .idle fun _ stage => stage = .idle

theorem Tidies.bind {α β : Type} {first : Task α} {next : α → Task β} (tidies : Tidies first)
    (rest : ∀ result, Tidies (next result)) : Tidies (first >>= next) := by
  apply Program.Obeys.bind
  refine tidies.mono ?_
  rintro result _ rfl
  exact rest result

theorem tidies_storeEncoded (track : Track) (dest : String) (encoded : Option (String × Bool)) :
    Tidies (storeEncoded track dest encoded) := by
  cases encoded with
  | none => rfl
  | some encoded =>
      refine Program.Obeys.perform rfl fun (renamed : Bool) => ?_
      cases renamed with
      | false => rfl
      | true => exact ⟨rfl, fun _ => rfl⟩

theorem tidies_downloadToCache (track : Track) : Tidies (downloadToCache track) := by
  refine Program.Obeys.perform rfl fun dest => ?_
  refine Program.Obeys.perform rfl fun encoded => ?_
  exact tidies_storeEncoded track dest encoded

theorem tidies_encodeRaw (track : Track) (dest : String) (written : Bool) :
    Tidies (encodeRaw track dest written) := by
  cases written with
  | false => rfl
  | true => exact ⟨rfl, fun _ => rfl⟩

theorem tidies_fetchTrackInner (track : Track) (kind : EncodedKind) :
    Tidies (fetchTrackInner track kind) := by
  refine Program.Obeys.perform rfl fun dest => ?_
  refine Program.Obeys.perform rfl fun written => ?_
  refine (tidies_encodeRaw track dest written).bind fun encoded => ?_
  exact Program.Obeys.perform rfl fun _ => tidies_storeEncoded track dest encoded

theorem tidies_prepareInner (track : Track) (kind : Option EncodedKind) :
    Tidies (prepareInner track kind) := by
  cases kind with
  | none => exact tidies_downloadToCache track
  | some kind =>
      refine (tidies_fetchTrackInner track kind).bind fun fetched => ?_
      cases fetched with
      | some path => rfl
      | none => exact tidies_downloadToCache track

theorem tidies_executePrepare (track : Track) (kind : Option EncodedKind) :
    Tidies (executePrepare track kind) := by
  have downloads : Tidies (downloadOnce track kind) := by
    refine Program.Obeys.perform rfl fun (cached : Option String) => ?_
    cases cached with
    | some path => rfl
    | none => exact tidies_prepareInner track kind
  refine Program.Obeys.perform rfl fun _ => ?_
  exact downloads.bind fun _ => ⟨rfl, fun _ => rfl⟩

/-- A copy which is built is moved into place, and then old ones are dropped. -/
theorem obeys_finishCopy (target : String) :
    (finishCopy target).Obeys building .built fun _ stage => stage = .idle := by
  refine Program.Obeys.perform rfl fun (moved : Bool) => ?_
  cases moved with
  | false => rfl
  | true => exact ⟨rfl, fun _ => rfl⟩

theorem tidies_ensureNormalized (filePath : String) : Tidies (ensureNormalized filePath) := by
  refine Program.Obeys.perform rfl fun (present : Bool) => ?_
  cases present with
  | true => rfl
  | false =>
      refine Program.Obeys.perform rfl fun (built : Bool) => ?_
      cases built with
      | false => rfl
      | true => exact obeys_finishCopy _

/-- What is transcoded is built. -/
theorem obeys_transcode (filePath target : String) (copy : Option String) :
    (transcode filePath target copy).Obeys building .idle fun ran stage =>
      stage = if ran then .built else .idle := by
  cases copy with
  | none =>
      refine ⟨rfl, fun (ran : Bool) => ?_⟩
      cases ran <;> rfl
  | some copy =>
      refine Program.Obeys.perform rfl fun (ran : Bool) => ?_
      cases ran with
      | false => exact ⟨fun (moved : Stage.idle = .moved) => (by cases moved), fun _ => rfl⟩
      | true => exact ⟨fun (moved : Stage.built = .moved) => (by cases moved), fun _ => rfl⟩

theorem tidies_ensureStreamTemp (filePath : String) (variant : TempArtifact) :
    Tidies (ensureStreamTemp filePath variant) := by
  cases variant with
  | normalized => exact tidies_ensureNormalized filePath
  | lowData normalized =>
      have source : Tidies (normalizedCopy filePath normalized) := by
        cases normalized with
        | false => rfl
        | true => exact tidies_ensureNormalized filePath
      refine Program.Obeys.perform rfl fun (present : Bool) => ?_
      cases present with
      | true => rfl
      | false =>
          refine source.bind fun copy => ?_
          apply Program.Obeys.bind
          refine (obeys_transcode _ _ copy).mono ?_
          rintro ran _ rfl
          cases ran with
          | false => rfl
          | true => exact obeys_finishCopy _

theorem tidies_awaitPrewarm (filePath : String) (polls : Nat) :
    Tidies (awaitPrewarm filePath polls) := by
  induction polls with
  | zero => rfl
  | succ polls ih =>
      refine Program.Obeys.perform rfl fun (waiting : Bool) => ?_
      cases waiting with
      | false => rfl
      | true => exact ih

theorem tidies_playTrack (filePath : String) : Tidies (playTrack filePath) := by
  refine Program.Obeys.perform rfl fun (plan : Option TempArtifact) => ?_
  cases plan with
  | none => rfl
  | some variant =>
      refine Tidies.bind ?_ fun copy => ?_
      · exact (tidies_awaitPrewarm filePath 60).bind fun _ => tidies_ensureStreamTemp _ variant
      · cases copy with
        | none => rfl
        | some copy => exact ⟨rfl, fun _ => rfl⟩

theorem tidies_prewarm (filePath : String) : Tidies (prewarm filePath) := by
  refine Program.Obeys.perform rfl fun (plan : Option TempArtifact) => ?_
  cases plan with
  | none => rfl
  | some variant =>
      refine Program.Obeys.perform rfl fun (present : Bool) => ?_
      cases present with
      | true => rfl
      | false =>
          refine Program.Obeys.perform rfl fun (started : Bool) => ?_
          cases started with
          | false => rfl
          | true => exact (tidies_ensureStreamTemp _ variant).bind fun _ => ⟨rfl, fun _ => rfl⟩

theorem tidies_accept (request : Request) : Tidies (accept request) := by
  cases request with
  | prepare track kind => exact tidies_executePrepare track kind
  | playTrack filePath => exact tidies_playTrack filePath
  | prewarm filePath => exact tidies_prewarm filePath

end Stage

/-! ## The newest few -/

namespace Store

/-- The copies which pruning looks at. -/
def finished (store : Store) : List (Σ _ : String, Copy) :=
  store.copies.entries.filter fun listed => !isTemporary listed.1

/-- The copies whose names do not look like that of an unfinished one. -/
def ordinary (store : Store) : List String :=
  store.copies.keys.filter fun name => ¬".tmp.".toList <:+: name.toList

theorem isTemporary_iff {name : String} :
    isTemporary name = true ↔ ".tmp.".toList <:+: name.toList := by
  simp [isTemporary, List.infix_iff_prefix_suffix, and_comm]

theorem length_ordinary (store : Store) : store.ordinary.length = store.finished.length := by
  have same : store.ordinary = store.finished.map Sigma.fst := by
    simp only [ordinary, finished, AList.keys, List.keys, List.filter_map, ← isTemporary_iff]
    congr 2
    funext listed
    cases temporary : isTemporary listed.1 <;> simp [temporary]
  rw [same, List.length_map]

theorem newer_trans (one two three : Σ _ : String, Copy) (first : newer one two = true)
    (second : newer two three = true) : newer one three = true := by
  simp only [newer, Bool.or_eq_true, decide_eq_true_eq, Bool.and_eq_true, beq_iff_eq] at *
  rcases first with first | ⟨first, above⟩
  · rcases second with second | ⟨second, -⟩
    · exact .inl (second.trans first)
    · exact .inl (second ▸ first)
  · rcases second with second | ⟨second, higher⟩
    · exact .inl (first ▸ second)
    · exact .inr ⟨second.trans first, String.lt_trans higher above⟩

theorem newer_total {one two : Σ _ : String, Copy} (named : one.1 ≠ two.1) :
    newer one two = true ∨ newer two one = true := by
  simp only [newer, Bool.or_eq_true, decide_eq_true_eq, Bool.and_eq_true, beq_iff_eq]
  rcases Nat.lt_trichotomy two.2.modified one.2.modified with later | same | earlier
  · exact .inl (.inl later)
  · by_cases before : one.1 < two.1
    · exact .inr (.inr ⟨same.symm, before⟩)
    · exact .inl (.inr ⟨same, Std.lt_of_le_of_ne (String.not_lt.mp before) named.symm⟩)
  · exact .inr (.inl earlier)

/-- Pruning leaves few copies. -/
theorem length_finished_pruneNormCache (store : Store) :
    store.pruneNormCache.finished.length ≤ maxTempCopies := by
  have apart : store.finished.Pairwise fun one two =>
      newer one two = true ∨ newer two one = true := by
    refine ((List.pairwise_map.mp store.copies.nodupKeys).sublist List.filter_sublist).imp ?_
    exact fun named => newer_total named
  have few := Ranking.length_foremost_le newer_trans apart maxTempCopies
  have same : store.pruneNormCache.finished =
      Ranking.foremost newer maxTempCopies store.finished := by
    simp only [finished, pruneNormCache, keepCopies, Ranking.foremost, List.filter_filter]
    congr 1
    funext listed
    cases isTemporary listed.1 <;> simp
  rw [same]
  exact few

variable {store after : Store} {stages : Nat → Stage} {actor : Nat}

/-- There are few copies which are in place, and each temporary file is one being built. -/
structure Few (store : Store) (stages : Nat → Stage) : Prop where
  temps : ∀ task, task ∈ store.temps → stages task = .built
  few : ∃ waiting, Tally (fun stage => stage = .moved) stages waiting ∧
    store.finished.length ≤ maxTempCopies + waiting

/-- Nothing is added. -/
theorem Few.keep (few : store.Few stages) (temps : after.temps = store.temps)
    (copies : after.copies.entries.Sublist store.copies.entries) : after.Few stages := by
  obtain ⟨waiting, tally, bound⟩ := few.few
  have fewer := (copies.filter fun listed => !isTemporary listed.1).length_le
  exact ⟨temps ▸ few.temps, waiting, tally, Nat.le_trans fewer bound⟩

/-- A player which neither begins nor ends with a copy in place. -/
theorem Few.go (few : store.Few stages) {stage : Stage} (copies : after.copies = store.copies)
    (temps : ∀ task, task ∈ after.temps →
      (task = actor ∧ stage = .built) ∨ (task ≠ actor ∧ task ∈ store.temps))
    (before : stages actor ≠ .moved) (later : stage ≠ .moved) :
    after.Few (Function.update stages actor stage) := by
  obtain ⟨waiting, tally, bound⟩ := few.few
  refine ⟨fun task unfinished => ?_, waiting,
    tally.stay (iff_of_false later before), by rwa [finished, copies]⟩
  rcases temps task unfinished with ⟨rfl, built⟩ | ⟨other, member⟩
  · rwa [Function.update_self]
  · rw [Function.update_of_ne other]
    exact few.temps task member

theorem Few.build (few : store.Few stages) (idle : stages actor = .idle) (target : String)
    (audio : Audio) :
    (store.build actor target audio).Few (Function.update stages actor .built) := by
  refine few.go rfl (fun task unfinished => ?_) (by simp [idle]) (by simp)
  by_cases same : task = actor
  · exact .inl ⟨same, rfl⟩
  · exact .inr ⟨same, by simpa [Store.build, same] using unfinished⟩

/-- A temporary file is dropped. -/
theorem Few.drop (few : store.Few stages) (built : stages actor = .built) :
    { store with temps := store.temps.erase actor }.Few (Function.update stages actor .idle) := by
  refine few.go rfl (fun task unfinished => ?_) (by simp [built]) (by simp)
  obtain ⟨other, member⟩ := AList.mem_erase.mp unfinished
  exact .inr ⟨other, member⟩

/-- A temporary file is moved into place. -/
theorem Few.move (few : store.Few stages) (built : stages actor = .built) (target : String)
    (copy : Copy) :
    { store with
      temps := store.temps.erase actor
      copies := store.copies.insert target copy }.Few (Function.update stages actor .moved) := by
  obtain ⟨waiting, tally, bound⟩ := few.few
  refine ⟨fun task unfinished => ?_, waiting + 1,
    tally.enter (by simp [built]) rfl, ?_⟩
  · obtain ⟨other, member⟩ := AList.mem_erase.mp unfinished
    rw [Function.update_of_ne other]
    exact few.temps task member
  · have one_more : (store.copies.insert target copy).entries.Sublist
        (⟨target, copy⟩ :: store.copies.entries) := by
      rw [AList.entries_insert]
      exact (List.kerase_sublist _ _).cons_cons _
    have longer := (one_more.filter fun listed => !isTemporary listed.1).length_le
    have counted : ((⟨target, copy⟩ :: store.copies.entries :
        List (Σ _ : String, Copy)).filter fun listed => !isTemporary listed.1).length ≤
          store.finished.length + 1 := by
      rw [List.filter_cons]
      split
      · exact Nat.le_refl _
      · exact Nat.le_succ _
    exact Nat.le_trans (Nat.le_trans longer counted) (by omega)

/-- Old copies are dropped. -/
theorem Few.prune (few : store.Few stages) (moved : stages actor = .moved) :
    store.pruneNormCache.Few (Function.update stages actor .idle) := by
  obtain ⟨waiting, tally, -⟩ := few.few
  refine ⟨fun task unfinished => ?_, waiting - 1, tally.leave moved (by simp), ?_⟩
  · have built := few.temps task unfinished
    have other : task ≠ actor := by
      rintro rfl
      simp [built] at moved
    rwa [Function.update_of_ne other]
  · exact Nat.le_trans store.length_finished_pruneNormCache (Nat.le_add_right _ _)

/-- Operations which touch neither copies nor temporary files leave few of them. -/
theorem Few.rest (few : store.Few stages) {stage : Stage} (same : stage = stages actor)
    (copies : after.copies = store.copies) (temps : after.temps = store.temps) :
    after.Few (Function.update stages actor stage) := by
  rw [same, Function.update_eq_self]
  exact few.keep temps (by rw [copies])

/-- A temporary file is moved into place, or dropped. -/
theorem Few.rename (few : store.Few stages) (built : stages actor = .built) {input : Input}
    {moved : Bool} (performed : store.perform actor .renameTemp input = some (moved, after)) :
    after.Few (Function.update stages actor ((stages actor).next .renameTemp moved)) := by
  simp only [Store.perform] at performed
  split at performed
  · rename_i missing
    obtain ⟨rfl, rfl⟩ := Prod.mk.inj (Option.some.inj performed)
    have absent : actor ∉ store.temps := AList.lookup_eq_none.mp missing
    refine few.go rfl (fun task unfinished => .inr ⟨?_, unfinished⟩) (by simp [built])
      (fun (moved : Stage.idle = .moved) => by cases moved)
    rintro rfl
    exact absent unfinished
  · split at performed <;> obtain ⟨rfl, rfl⟩ := Prod.mk.inj (Option.some.inj performed)
    · exact few.move built _ _
    · exact few.drop built

/-- Every operation of a build leaves few copies. -/
theorem Few.perform (few : store.Few stages) {op : Op} {input : Input} {answer : op.Answer}
    (allowed : Stage.Allows (stages actor) op)
    (performed : store.perform actor op input = some (answer, after)) :
    after.Few (Function.update stages actor ((stages actor).next op answer)) := by
  cases op with
  | getPath | removeFile | put | releaseDownload | isFile | isPrewarming | stopPrewarming =>
      obtain ⟨-, rfl⟩ := Prod.mk.inj (Option.some.inj performed)
      exact few.rest rfl rfl rfl
  | writeRaw trackId path | writeCacheOpus trackId path =>
      obtain ⟨-, rfl⟩ := Prod.mk.inj (Option.some.inj performed)
      cases input.written <;> exact few.rest rfl rfl rfl
  | acquireDownload | planTempArtifact filePath =>
      obtain ⟨-, -, rfl⟩ := of_guarded_answer performed
      exact few.rest rfl rfl rfl
  | trackPath track =>
      obtain ⟨path, -, same⟩ := Option.map_eq_some_iff.mp performed
      obtain ⟨-, rfl⟩ := Prod.mk.inj same
      exact few.rest rfl rfl rfl
  | rename trackId source target =>
      rcases rename_cases performed with ⟨-, rfl⟩ | ⟨size, -, rfl⟩ <;> exact few.rest rfl rfl rfl
  | startPrewarming filePath =>
      obtain ⟨prewarming, rfl⟩ := startPrewarming_cases performed
      exact few.rest rfl rfl rfl
  | openCopy name filePath variant =>
      obtain ⟨-, rfl⟩ := Prod.mk.inj (Option.some.inj performed)
      unfold openCopy
      split <;> exact few.rest rfl rfl rfl
  | normalize source target | transcodeFile source target | transcodeCopy source target =>
      simp only [Store.perform] at performed
      split at performed
      · obtain ⟨rfl, rfl⟩ := Prod.mk.inj (Option.some.inj performed)
        exact few.rest rfl rfl rfl
      · split at performed <;> obtain ⟨rfl, rfl⟩ := Prod.mk.inj (Option.some.inj performed)
        · exact few.build allowed target _
        · exact few.rest rfl rfl rfl
  | renameTemp => exact few.rename allowed performed
  | removeCopy name =>
      obtain ⟨-, rfl⟩ := Prod.mk.inj (Option.some.inj performed)
      change Few _ (Function.update stages actor (stages actor))
      rw [Function.update_eq_self]
      exact few.keep rfl (List.kerase_sublist _ _)
  | pruneNormCache =>
      obtain ⟨-, rfl⟩ := Prod.mk.inj (Option.some.inj performed)
      exact few.prune allowed

end Store

theorem safe_few : machine.Safe building (fun _ _ _ _ _ => True) Store.Few where
  initial store fresh := by
    refine ⟨fun task unfinished => ?_, 0, Tally.empty (by simp [building]), ?_⟩
    · rw [fresh.temps] at unfinished
      exact absurd unfinished (AList.notMem_empty task)
    · simp [Store.finished, fresh.copies]
  accept store stages actor request program after few _ accepted := by
    obtain ⟨rfl, rfl⟩ := Prod.mk.inj (Option.some.inj accepted)
    exact ⟨few, (Stage.tidies_accept request).mono fun _ _ _ => trivial⟩
  perform store stages actor op input answer after few allowed _ performed :=
    few.perform allowed performed
  outside store stages change after few changed := by
    obtain rfl := Option.some.inj changed
    cases change with
    | loseCopy name => exact few.keep rfl (List.kerase_sublist _ _)
    | getPath | setMaxMb | clear | vanish | clock | settings =>
        exact few.keep rfl (List.Sublist.refl _)

/-- A task whose next operation is this one. -/
def Awaits (op : Op) (program : Task Unit) : Prop := ∃ next, program = .call op next

/-- What a task does next tells how far it is with a copy, and the other way round. -/
theorem awaits_prune_iff {program : Task Unit} {stage : Stage}
    (obeys : program.Obeys building stage fun _ stage => stage = .idle) :
    Awaits .pruneNormCache program ↔ stage = .moved := by
  constructor
  · rintro ⟨next, rfl⟩
    exact obeys.1
  · rintro rfl
    cases program with
    | done => cases (show Stage.moved = .idle from obeys)
    | call op next =>
        have allowed : Stage.Allows .moved op := obeys.1
        cases op with
        | pruneNormCache => exact ⟨next, rfl⟩
        | removeCopy => exact absurd rfl allowed
        | _ => cases (show Stage.moved = _ from allowed)

theorem awaits_of_built {program : Task Unit}
    (obeys : program.Obeys building .built fun _ stage => stage = .idle) :
    Awaits .renameTemp program ∨ ∃ name, Awaits (.removeCopy name) program := by
  cases program with
  | done => cases (show Stage.built = .idle from obeys)
  | call op next =>
      have allowed : Stage.Allows .built op := obeys.1
      cases op with
      | renameTemp => exact .inl ⟨next, rfl⟩
      | removeCopy name => exact .inr ⟨name, next, rfl⟩
      | _ => cases (show Stage.built = _ from allowed)

/-- However many players build copies side by side: of those whose names do not look like that of an
unfinished one, there are three, and at most one more for each task which is about to drop old ones;
and what is unfinished belongs to a task which is about to move it into place or drop it. -/
theorem copies_are_few {pool : Pool signature Store Stage}
    (reach : (machine.system building).Reachable pool) :
    (∃ waiting, Tally (Awaits .pruneNormCache) pool.task waiting ∧
        pool.shared.ordinary.length ≤ 3 + waiting) ∧
      ∀ task, task ∈ pool.shared.temps → Awaits .renameTemp (pool.task task) ∨
        ∃ name, Awaits (.removeCopy name) (pool.task task) := by
  have few := (safe_few.guarded_of_reachable reach).holds
  have settling : Machine.Settling building (fun stage => stage = .idle) pool := by
    have begun : building.start = .idle := rfl
    refine Machine.settling_of_reachable begun ?_ reach
    intro store actor request program after accepted
    obtain ⟨rfl, rfl⟩ := Prod.mk.inj (Option.some.inj accepted)
    exact Stage.tidies_accept request
  constructor
  · obtain ⟨waiting, tally, bound⟩ := few.few
    refine ⟨waiting, ?_, pool.shared.length_ordinary ▸ bound⟩
    have same : tasksIn (Awaits .pruneNormCache) pool.task =
        tasksIn (fun stage => stage = .moved) pool.trace :=
      Set.ext fun task => awaits_prune_iff (settling.obeys task)
    rw [Tally, same]
    exact tally
  · intro task unfinished
    have obeys := settling.obeys task
    rw [few.temps task unfinished] at obeys
    exact awaits_of_built obeys

/-- A copy has just been moved into place. -/
theorem played_is_few :
    let pool := (machine.system building).final (Machine.boot building emptyStore)
      (fetched 0 song ++ played 1 "data/track_cache/Band - Song.ogg" 5) rfl
    pool.shared.ordinary.length = 1 ∧
      (∃ waiting, Tally (Awaits .pruneNormCache) pool.task waiting ∧
        pool.shared.ordinary.length ≤ 3 + waiting) ∧
      ∀ task, task ∈ pool.shared.temps → Awaits .renameTemp (pool.task task) ∨
        ∃ name, Awaits (.removeCopy name) (pool.task task) := by
  refine ⟨rfl, copies_are_few (System.reachable_final ?_ _ rfl)⟩
  exact ⟨emptyStore, emptyStore_fresh, rfl⟩

end Togewire.Media
