import Togewire.Media.Owners

/-!
# Streaming copies of the content a file has

A copy is found again by its name, and nothing removes it when its file is evicted, cleared or
replaced.  As long as files are moved only to where no copy of an earlier one is left, and copies
are built only under names which belong to one file, everything streamed from memory was made from
the content last placed in its file.
-/

namespace Togewire.Media

open Cache Interleaving Transition

namespace TempArtifact

/-- What `ensure_stream_temp` builds of a file's content.  A low-data copy is made from the file
where the normalized copy could not be built. -/
def made : TempArtifact → String → Nat → List Audio
  | normalized, filePath, version => [.normalized (.file filePath version)]
  | lowData false, filePath, version => [.transcoded (.file filePath version)]
  | lowData true, filePath, version =>
      [.transcoded (.normalized (.file filePath version)), .transcoded (.file filePath version)]

theorem transcoded_file_mem_made (normalized : Bool) (filePath : String) (version : Nat) :
    .transcoded (.file filePath version) ∈ (lowData normalized).made filePath version := by
  cases normalized <;> simp [made]

theorem transcoded_mem_made {filePath : String} {version : Nat} {audio : Audio}
    (source : audio ∈ normalized.made filePath version) :
    .transcoded audio ∈ (lowData true).made filePath version := by
  obtain rfl := List.mem_singleton.mp source
  simp [made]

end TempArtifact

theorem mem_copyNames {name filePath : String} :
    name ∈ copyNames filePath ↔ ∃ variant : TempArtifact, variant.path filePath = name := by
  constructor
  · intro member
    simp only [copyNames, List.mem_cons, List.not_mem_nil, or_false] at member
    rcases member with rfl | rfl | rfl
    · exact ⟨.normalized, rfl⟩
    · exact ⟨.lowData false, rfl⟩
    · exact ⟨.lowData true, rfl⟩
  · rintro ⟨variant, rfl⟩
    exact path_mem_copyNames variant filePath

/-- Two files share a copy's name exactly if they have one name, or the name of one is that of the
other behind a mark. -/
theorem copyNames_meet_iff (filePath other : String) :
    (∃ name ∈ copyNames filePath, name ∈ copyNames other) ↔
      fileName filePath = fileName other ∨
        ∃ normalized, fileName filePath = (TempArtifact.lowData normalized).mark ++ fileName other ∨
          fileName other = (TempArtifact.lowData normalized).mark ++ fileName filePath := by
  constructor
  · rintro ⟨name, first, second⟩
    obtain ⟨variant, rfl⟩ := mem_copyNames.mp first
    obtain ⟨rival, same⟩ := mem_copyNames.mp second
    have texts : rival.mark ++ fileName other = variant.mark ++ fileName filePath :=
      String.ofList_injective same
    have bare : TempArtifact.normalized.mark = [] := rfl
    cases rival with
    | normalized =>
        rw [bare, List.nil_append] at texts
        cases variant with
        | normalized => exact Or.inl texts.symm
        | lowData normalized => exact Or.inr ⟨normalized, Or.inr texts⟩
    | lowData low =>
        cases variant with
        | normalized =>
            rw [bare, List.nil_append] at texts
            exact Or.inr ⟨low, Or.inl texts.symm⟩
        | lowData normalized =>
            rcases Bool.eq_false_or_eq_true low with rfl | rfl <;>
              rcases Bool.eq_false_or_eq_true normalized with rfl | rfl
            · exact Or.inl (List.append_cancel_left texts).symm
            · simp [TempArtifact.mark] at texts
            · simp [TempArtifact.mark] at texts
            · exact Or.inl (List.append_cancel_left texts).symm
  · rintro (same | ⟨normalized, longer | longer⟩)
    · refine ⟨_, path_mem_copyNames .normalized filePath, mem_copyNames.mpr ⟨.normalized, ?_⟩⟩
      simp [TempArtifact.path, same]
    · refine ⟨_, path_mem_copyNames .normalized filePath,
        mem_copyNames.mpr ⟨.lowData normalized, ?_⟩⟩
      simp [TempArtifact.path, longer, TempArtifact.mark]
    · refine ⟨_, path_mem_copyNames (.lowData normalized) filePath,
        mem_copyNames.mpr ⟨.normalized, ?_⟩⟩
      simp [TempArtifact.path, longer, TempArtifact.mark]

namespace Store

variable {store after : Store} {traces : Nat → Trace} {actor : Nat} {next : Trace}
  {name path filePath target : String} {audio : Audio}

/-- No copy of a file exists or is being built. -/
def Uncopied (store : Store) (path : String) : Prop :=
  (∀ name ∈ copyNames path, store.copies.lookup name = none) ∧
    ∀ started ∈ store.temps.entries, started.2.1 ∉ copyNames path

instance (store : Store) (path : String) : Decidable (store.Uncopied path) :=
  inferInstanceAs (Decidable ((∀ _ ∈ _, _) ∧ ∀ _ ∈ _, _))

/-- No other cached file has a copy's name. -/
def Sole (store : Store) (filePath name : String) : Prop :=
  ∀ other ∈ store.placed, name ∈ copyNames other → other = filePath

instance (store : Store) (filePath name : String) : Decidable (store.Sole filePath name) :=
  inferInstanceAs (Decidable (∀ _ ∈ _, _ → _))

/-- Whatever cached file a copy's name is for, the copy was made from its last content. -/
def Right (store : Store) (name : String) (audio : Audio) : Prop :=
  ∀ path ∈ store.placed, ∀ variant : TempArtifact, variant.path path = name →
    audio ∈ variant.made path (store.version path)

/-- A copy under a name which belongs to one file. -/
theorem right_of_sole {variant : TempArtifact} (sole : store.Sole filePath target)
    (named : target = variant.path filePath)
    (built : audio ∈ variant.made filePath (store.version filePath)) :
    store.Right target audio := by
  intro path placed other same
  obtain rfl := sole path placed (same ▸ path_mem_copyNames other path)
  obtain rfl := TempArtifact.eq_of_path (same.trans named)
  exact built

theorem Right.congr (right : store.Right name audio) (placed : after.placed = store.placed)
    (version : after.version = store.version) : after.Right name audio := by
  unfold Right
  rw [placed, version]
  exact right

/-- The invariant of all interleavings. -/
structure Faithful (store : Store) (traces : Nat → Trace) : Prop where
  copies : ∀ name copy, store.copies.lookup name = some copy → store.Right name copy.audio
  temps : ∀ actor started, store.temps.lookup actor = some started →
    store.Right started.1 started.2
  playing : ∀ actor filePath, (traces actor).filePath = some filePath → filePath ∈ store.placed
  streamed : ∀ opened ∈ store.streamed,
    opened.audio ∈ opened.variant.made opened.filePath opened.version

/-- Copies may go, and all they are judged by stays. -/
structure Keeps (store after : Store) : Prop where
  copies : ∀ name copy, after.copies.lookup name = some copy → store.copies.lookup name = some copy
  temps : ∀ actor started, after.temps.lookup actor = some started →
    store.temps.lookup actor = some started
  placed : after.placed = store.placed
  version : after.version = store.version
  streamed : after.streamed = store.streamed

/-- Nothing of it changes. -/
theorem keeps_of_eq (copies : after.copies = store.copies) (temps : after.temps = store.temps)
    (placed : after.placed = store.placed) (version : after.version = store.version)
    (streamed : after.streamed = store.streamed) : store.Keeps after where
  copies _ _ found := copies ▸ found
  temps _ _ found := temps ▸ found
  placed := placed
  version := version
  streamed := streamed

theorem Faithful.keep (faithful : store.Faithful traces) (keeps : store.Keeps after) :
    after.Faithful traces where
  copies name copy found :=
    (faithful.copies name copy (keeps.copies name copy found)).congr keeps.placed keeps.version
  temps actor started found :=
    (faithful.temps actor started (keeps.temps actor started found)).congr keeps.placed
      keeps.version
  playing actor filePath playing := keeps.placed ▸ faithful.playing actor filePath playing
  streamed := keeps.streamed ▸ faithful.streamed

/-- A task which plays what it has played before, or takes up a cached file. -/
theorem Faithful.retrace (faithful : store.Faithful traces)
    (playing : ∀ filePath, next.filePath = some filePath → filePath ∈ store.placed) :
    store.Faithful (Function.update traces actor next) :=
  ⟨faithful.copies, faithful.temps,
    (Function.forall_update_iff traces fun _ trace =>
      ∀ filePath, trace.filePath = some filePath → filePath ∈ store.placed).mpr
        ⟨playing, fun task _ => faithful.playing task⟩, faithful.streamed⟩

/-- A step which keeps the copies of a task which goes on playing what it plays. -/
theorem Faithful.go (faithful : store.Faithful traces) (keeps : store.Keeps after)
    (same : next.filePath = (traces actor).filePath) :
    after.Faithful (Function.update traces actor next) := by
  apply (faithful.keep keeps).retrace
  intro filePath playing
  rw [keeps.placed]
  exact faithful.playing actor filePath (same ▸ playing)

/-! ### Files -/

/-- One file gets another content. -/
structure Writes (store after : Store) (path : String) : Prop where
  copies : after.copies = store.copies
  temps : after.temps = store.temps
  streamed : after.streamed = store.streamed
  version : ∀ other, other ≠ path → after.version other = store.version other
  placed : ∀ other ∈ after.placed, other ≠ path → other ∈ store.placed
  stays : ∀ other ∈ store.placed, other ∈ after.placed

theorem Right.write (right : store.Right name audio) (writes : store.Writes after path)
    (free : path ∈ after.placed → name ∉ copyNames path) : after.Right name audio := by
  intro other placed variant same
  have different : other ≠ path := by
    rintro rfl
    exact free placed (same ▸ path_mem_copyNames variant other)
  rw [writes.version other different]
  exact right other (writes.placed other placed different) variant same

/-- A cached file gets another content while it has no copies. -/
theorem Faithful.write (faithful : store.Faithful traces) (writes : store.Writes after path)
    (free : path ∈ after.placed → store.Uncopied path) : after.Faithful traces where
  copies name copy found := by
    rw [writes.copies] at found
    apply (faithful.copies name copy found).write writes
    intro placed named
    simp [(free placed).1 name named] at found
  temps task started found := by
    rw [writes.temps] at found
    apply (faithful.temps task started found).write writes
    intro placed named
    exact (free placed).2 ⟨task, started⟩ (AList.mem_lookup_iff.mp found) named
  playing task filePath playing := writes.stays filePath (faithful.playing task filePath playing)
  streamed := writes.streamed ▸ faithful.streamed

theorem writes_write (store : Store) (trackId path : String) (size : Nat) :
    store.Writes (store.write trackId path size) path where
  copies := rfl
  temps := rfl
  streamed := rfl
  version _ different := Function.update_of_ne different _ _
  placed _ placed _ := placed
  stays _ placed := placed

theorem writes_place (store : Store) (trackId source target : String) (size : Nat) :
    store.Writes (store.place trackId source target size) target where
  copies := rfl
  temps := rfl
  streamed := rfl
  version _ different := Function.update_of_ne different _ _
  placed _ placed different := List.mem_of_ne_of_mem different placed
  stays _ placed := List.mem_cons_of_mem target placed

/-- What a tool leaves in a file which is not cached, or has no copies. -/
theorem Faithful.leave (faithful : store.Faithful traces)
    (free : path ∈ store.placed → store.Uncopied path) (trackId : String) (written : Option Nat) :
    (store.leave trackId path written).Faithful traces := by
  cases written with
  | none => exact faithful
  | some size => exact faithful.write (writes_write store trackId path size) free

/-! ### Copies -/

theorem Faithful.build (faithful : store.Faithful traces) (right : store.Right target audio) :
    (store.build actor target audio).Faithful traces where
  copies := faithful.copies
  temps := by
    apply Ledger.forall_insert
    · exact right
    · exact faithful.temps
  playing := faithful.playing
  streamed := faithful.streamed

/-- A finished copy is moved into place. -/
theorem Faithful.finish (faithful : store.Faithful traces)
    (built : store.temps.lookup actor = some (target, audio)) (modified : Nat) :
    { store with
      temps := store.temps.erase actor
      copies := store.copies.insert target ⟨audio, modified⟩ }.Faithful traces where
  copies := by
    apply Ledger.forall_insert
    · exact faithful.temps actor (target, audio) built
    · exact faithful.copies
  temps := Ledger.forall_erase actor faithful.temps
  playing := faithful.playing
  streamed := faithful.streamed

theorem keeps_keepCopies (store : Store) (keep : (Σ _ : String, Copy) → Bool) :
    store.Keeps (store.keepCopies keep) where
  copies name copy found := by
    have kept := AList.mem_lookup_iff.mp (Option.mem_def.mpr found)
    exact AList.mem_lookup_iff.mpr (List.mem_filter.mp kept).1
  temps _ _ found := found
  placed := rfl
  version := rfl
  streamed := rfl

/-- A copy is opened for the file it is named after. -/
theorem Faithful.stream (faithful : store.Faithful traces) {variant : TempArtifact}
    (placed : filePath ∈ store.placed) (named : name = variant.path filePath) :
    (store.openCopy name filePath variant).Faithful traces := by
  unfold openCopy
  split
  · exact faithful
  · rename_i copy found
    refine ⟨faithful.copies, faithful.temps, faithful.playing, ?_⟩
    intro opened member
    rcases List.mem_cons.mp member with rfl | earlier
    · exact faithful.copies name copy found filePath placed variant named.symm
    · exact faithful.streamed opened earlier

end Store

/-- A file is written where no copy of a cached file is left, and a copy is built under a name which
belongs to one file. -/
def Uncontested (store : Store) (traces : Nat → Trace) (actor : Nat) : Op → Input → Prop
  | .writeRaw _ path, _ | .writeCacheOpus _ path, _ => path ∈ store.placed → store.Uncopied path
  | .rename _ _ target, _ => store.Uncopied target
  | .normalize filePath target, _ | .transcodeFile filePath target, _ => store.Sole filePath target
  | .transcodeCopy _ target, _ =>
      ∀ filePath ∈ (traces actor).filePath, store.Sole filePath target
  | _, _ => True

instance decidableUncontested (store : Store) (traces : Nat → Trace) (actor : Nat) :
    ∀ op input, Decidable (Uncontested store traces actor op input)
  | .writeRaw _ _, _ | .writeCacheOpus _ _, _ => inferInstanceAs (Decidable (_ → _))
  | .rename _ _ _, _ => inferInstanceAs (Decidable (Store.Uncopied _ _))
  | .normalize _ _, _ | .transcodeFile _ _, _ => inferInstanceAs (Decidable (Store.Sole _ _ _))
  | .transcodeCopy _ _, _ => inferInstanceAs (Decidable (∀ _ ∈ _, _))
  | .getPath _, _ | .acquireDownload, _ | .releaseDownload, _ | .trackPath _, _ | .removeFile _, _
  | .put _ _ _ _, _ | .planTempArtifact _, _ | .isFile _, _ | .startPrewarming _, _
  | .stopPrewarming _, _ | .isPrewarming _, _ | .renameTemp, _ | .removeCopy _, _
  | .pruneNormCache, _ | .openCopy _ _ _, _ => isTrue trivial

namespace Store

variable {store after : Store} {traces : Nat → Trace} {actor : Nat} {input : Input}

/-- Every permitted operation keeps the copies right. -/
theorem Faithful.perform (faithful : store.Faithful traces) {op : Op} {answer : op.Answer}
    (allowed : (traces actor).Allows op) (permitted : Uncontested store traces actor op input)
    (performed : store.perform actor op input = some (answer, after)) :
    after.Faithful (Function.update traces actor ((traces actor).next op answer)) := by
  cases op with
  | getPath | releaseDownload | removeFile | put | isFile | isPrewarming | stopPrewarming =>
      obtain ⟨-, rfl⟩ := Prod.mk.inj (Option.some.inj performed)
      exact faithful.go (keeps_of_eq rfl rfl rfl rfl rfl) rfl
  | acquireDownload =>
      obtain ⟨-, -, rfl⟩ := of_guarded_answer performed
      exact faithful.go (keeps_of_eq rfl rfl rfl rfl rfl) rfl
  | trackPath track =>
      obtain ⟨path, -, outcome⟩ := Option.map_eq_some_iff.mp performed
      obtain ⟨rfl, rfl⟩ := Prod.mk.inj outcome
      exact faithful.go (keeps_of_eq rfl rfl rfl rfl rfl) rfl
  | writeRaw trackId path =>
      obtain ⟨-, rfl⟩ := Prod.mk.inj (Option.some.inj performed)
      have left := faithful.leave permitted trackId input.written
      exact left.retrace (left.playing actor)
  | writeCacheOpus trackId path =>
      obtain ⟨-, rfl⟩ := Prod.mk.inj (Option.some.inj performed)
      have left := faithful.leave permitted trackId input.written
      exact left.retrace (left.playing actor)
  | rename trackId source target =>
      rcases rename_cases performed with ⟨rfl, rfl⟩ | ⟨size, rfl, rfl⟩
      · exact faithful.retrace (faithful.playing actor)
      · have placed := faithful.write (writes_place store trackId source target size)
          fun _ => permitted
        exact placed.retrace (placed.playing actor)
  | planTempArtifact filePath =>
      obtain ⟨cached, -, rfl⟩ := of_guarded_answer performed
      apply faithful.retrace
      intro path playing
      obtain rfl := Option.some.inj playing
      exact cached
  | startPrewarming filePath =>
      obtain ⟨prewarming, rfl⟩ := startPrewarming_cases performed
      exact faithful.go (keeps_of_eq rfl rfl rfl rfl rfl) rfl
  | normalize filePath target =>
      obtain ⟨-, named⟩ := allowed
      rcases normalize_cases performed with rfl | rfl
      · exact faithful.retrace (faithful.playing actor)
      · have right := right_of_sole permitted named (List.mem_singleton.mpr rfl)
        exact (faithful.build right).retrace (faithful.playing actor)
  | transcodeFile filePath target =>
      obtain ⟨-, normalized, named⟩ := allowed
      rcases transcodeFile_cases performed with rfl | rfl
      · exact faithful.retrace (faithful.playing actor)
      · have right := right_of_sole permitted named
          (TempArtifact.transcoded_file_mem_made normalized filePath _)
        exact (faithful.build right).retrace (faithful.playing actor)
  | transcodeCopy copy target =>
      obtain ⟨filePath, playing, rfl, named⟩ := allowed
      rcases transcodeCopy_cases performed with rfl | ⟨source, found, rfl⟩
      · exact faithful.retrace (faithful.playing actor)
      · have normal : source.audio ∈ TempArtifact.normalized.made filePath
            (store.version filePath) :=
          faithful.copies _ source found filePath (faithful.playing actor filePath playing)
            .normalized rfl
        have right := right_of_sole (permitted filePath playing) named
          (TempArtifact.transcoded_mem_made normal)
        exact (faithful.build right).retrace (faithful.playing actor)
  | renameTemp =>
      rcases renameTemp_cases performed with rfl | rfl | ⟨target, audio, built, rfl⟩
      · exact faithful.retrace (faithful.playing actor)
      · exact faithful.go ⟨fun _ _ found => found, fun _ _ => Ledger.lookup_of_erase, rfl, rfl,
          rfl⟩ rfl
      · exact (faithful.finish built input.modified).retrace (faithful.playing actor)
  | removeCopy name =>
      obtain ⟨-, rfl⟩ := Prod.mk.inj (Option.some.inj performed)
      exact faithful.go ⟨fun _ _ => Ledger.lookup_of_erase, fun _ _ found => found, rfl, rfl, rfl⟩
        rfl
  | pruneNormCache =>
      obtain ⟨-, rfl⟩ := Prod.mk.inj (Option.some.inj performed)
      exact faithful.go (keeps_keepCopies store _) rfl
  | openCopy name filePath variant =>
      obtain ⟨-, rfl⟩ := Prod.mk.inj (Option.some.inj performed)
      obtain ⟨playing, named⟩ := allowed
      have opened := faithful.stream (faithful.playing actor filePath playing) named
      exact opened.retrace (opened.playing actor)

/-- From outside copies only go. -/
theorem Faithful.outside (faithful : store.Faithful traces) (change : Change) :
    (store.outside change).Faithful traces := by
  cases change with
  | loseCopy name =>
      exact faithful.keep ⟨fun _ _ => Ledger.lookup_of_erase, fun _ _ found => found, rfl, rfl, rfl⟩
  | getPath | setMaxMb | clear | vanish | clock | settings =>
      exact faithful.keep (keeps_of_eq rfl rfl rfl rfl rfl)

/-- Without copies there is nothing to be wrong. -/
theorem Fresh.faithful (fresh : store.Fresh) : store.Faithful fun _ => {} where
  copies name copy found := by simp [fresh.copies] at found
  temps actor started found := by simp [fresh.temps] at found
  playing actor filePath playing := nomatch playing
  streamed opened member := by simp [fresh.streamed] at member

end Store

theorem safe_faithful : machine.Safe discipline Uncontested Store.Faithful where
  initial store fresh := fresh.faithful
  accept store traces actor request program after faithful _ accepted := by
    obtain ⟨rfl, rfl⟩ := Prod.mk.inj (Option.some.inj accepted)
    exact ⟨faithful, Trace.guides_accept request⟩
  perform store traces actor op input answer after faithful allowed permitted performed :=
    faithful.perform allowed permitted performed
  outside store traces change after faithful changed := by
    obtain rfl := Option.some.inj changed
    exact faithful.outside change

/-- While files are written only where no copy of a cached file is left, and copies are built only
under names which belong to one file, every streamed copy was made as its variant from the content
last placed in its file. -/
theorem streams_last_content {pool : Pool signature Store Trace}
    (reach : (machine.system discipline).ReachableUnder (Machine.Permits Uncontested) pool) :
    ∀ opened ∈ pool.shared.streamed,
      opened.audio ∈ opened.variant.made opened.filePath opened.version :=
  (safe_faithful.guarded reach).holds.streamed

/-- Some steps of a player of a cached file. -/
def played (actor : Nat) (filePath : String) (count : Nat) :
    List (PoolEvent Request Input Change) :=
  .start (.playTrack filePath) :: advance actor count {}

/-- A song whose file is named like the low-data copy of another one. -/
def namesake : Track := { id := "c", name := "Song", artist := "ld_Band" }

/-- A file is fetched, streamed from a new copy and again from the copy found. -/
theorem replayed_streams_content :
    let store := ((machine.system discipline).final emptyPool
      (fetched 0 song ++ played 1 "data/track_cache/Band - Song.ogg" 7 ++
        played 2 "data/track_cache/Band - Song.ogg" 4) rfl).shared
    store.streamed.length = 2 ∧
      ∀ opened ∈ store.streamed,
        opened.audio ∈ opened.variant.made opened.filePath opened.version :=
  ⟨rfl, streams_last_content (System.ReachableUnder.final emptyPool_initial (by decide) rfl)⟩

/-- A copy was streamed for a file which is still there, and was made from something else. -/
def Store.Misled (store : Store) (opened : Streamed) : Prop :=
  opened ∈ store.streamed ∧ store.current opened.filePath = some opened.version ∧
    opened.audio ∉ opened.variant.made opened.filePath opened.version

/-- A copy outlives the cleared file and is streamed for the next one of that name, and the
normalized copy of one file is streamed as the low-data copy of another. -/
theorem streams_stale_and_foreign :
    let path := "data/track_cache/Band - Song.ogg"
    (∃ pool, (machine.system discipline).Reachable pool ∧
      pool.shared.Misled ⟨path, .normalized, .normalized (.file path 1), 2⟩) ∧
      ∃ pool, (machine.system discipline).Reachable pool ∧
        pool.shared.Misled
          ⟨path, .lowData false, .normalized (.file "data/track_cache/ld_Band - Song.ogg" 1), 1⟩ :=
  ⟨⟨(machine.system discipline).final emptyPool
      (fetched 0 song ++ played 1 "data/track_cache/Band - Song.ogg" 7 ++ .outside .clear ::
        (fetched 2 rerelease ++ played 3 "data/track_cache/Band - Song.ogg" 4)) rfl,
      System.reachable_final emptyPool_initial _ rfl, .head _, rfl, by decide⟩,
    ⟨(machine.system discipline).final emptyPool
      (fetched 0 song ++ fetched 1 namesake ++ played 2 "data/track_cache/ld_Band - Song.ogg" 7 ++
        .outside (.settings false true "160k") ::
          played 3 "data/track_cache/Band - Song.ogg" 4) rfl,
      System.reachable_final emptyPool_initial _ rfl, .head _, rfl, by decide⟩⟩

end Togewire.Media
