import Togewire.Cache.Manager
import Togewire.Media.Names
import Togewire.Settings.Update

/-!
# Admin changes which cannot be saved

An update applies its closure to the shared configuration before it tries the file, and the
handlers of the dashboard only report that the save has failed.  What they have changed stays in
memory, so a failed change changes nothing exactly if it asks for what is already configured.
-/

namespace Togewire.Admin.Changes

open Interleaving Settings

/-- What the handlers change. -/
structure Panel where
  config : Config
  file : Option Config
  cache : Cache.Manager
  setupToken : String
  pendingHash : String

/-- What a change is answered. -/
inductive Response
  | internalServerError
  /-- The switch as the dashboard shows it. -/
  | player (enabled : Bool)
  | redirect (target : String)
  | loginPage (step setupToken error : String)
  | signedIn (adminHash : String)
  deriving DecidableEq

/-- The cache form.  A checkbox is sent only when on. -/
structure CacheForm where
  cacheMaxMb : Nat
  audioBitrate : String
  normalization : Normalization
  lowDataStreaming : Option String
  togematchApi : String := ""

/-- `AUDIO_BITRATES`. -/
def audioBitrates : List String := ["112k", "144k", "192k", "256k"]

namespace CacheForm

/-- The address as it is stored: `trim` and `trim_end_matches('/')`. -/
def api (form : CacheForm) : List Char :=
  ((Trimming.strip Media.isWhitespace form.togematchApi.toList).reverse.dropWhile
    fun c => c == '/').reverse

/-- The address is empty or one of the web. -/
def apiAccepted (form : CacheForm) : Bool :=
  form.api.isEmpty || "http://".toList.isPrefixOf form.api || "https://".toList.isPrefixOf form.api

/-- The limit as it is stored. -/
def maxMb (form : CacheForm) : Nat := max form.cacheMaxMb 64

/-- The closure of `handle_admin_cache`. -/
def apply (form : CacheForm) (config : Config) : Config :=
  { config with
    cacheMaxMb := form.maxMb
    audioBitrate := form.audioBitrate
    normalization := form.normalization
    lowDataStreaming := form.lowDataStreaming.isSome
    togematchApi := String.ofList form.api }

/-- The form asks for what is configured. -/
def Agrees (form : CacheForm) (config : Config) : Prop :=
  config.cacheMaxMb = form.maxMb ∧ config.audioBitrate = form.audioBitrate ∧
    config.normalization = form.normalization ∧
    config.lowDataStreaming = form.lowDataStreaming.isSome ∧
    config.togematchApi = String.ofList form.api

instance (form : CacheForm) (config : Config) : Decidable (form.Agrees config) :=
  inferInstanceAs (Decidable (_ ∧ _))

theorem apply_eq_iff (form : CacheForm) (config : Config) :
    form.apply config = config ↔ form.Agrees config := by
  constructor
  · intro same
    refine ⟨?_, ?_, ?_, ?_, ?_⟩ <;> rw [← same] <;> rfl
  · rintro ⟨limit, bitrate, normalization, lowData, api⟩
    rw [CacheForm.apply, ← limit, ← bitrate, ← normalization, ← lowData, ← api]

end CacheForm

/-- `verify_password`: bcrypt would ignore what comes after 72 bytes. -/
def verifyPassword (bcrypt : String → String → Bool) (hash password : String) : Bool :=
  if 72 < password.utf8ByteSize then false else bcrypt hash password

namespace Panel

/-- `config::update` with nothing in between. -/
def update (panel : Panel) (f : Config → Config) (saved : Bool) : Bool × Panel :=
  let config := f panel.config
  (saved, { panel with config := config, file := if saved then some config else panel.file })

theorem save_alone (store : Store) (snapshot : Config) (actor : Nat) (input : Settings.Input) :
    (save snapshot).Yields (fun store op => store.perform actor op input) store
      fun saved after => saved = (input.written && input.renamed) ∧
        after.config = store.config ∧
          after.file = if saved then some snapshot else store.file := by
  refine (Program.yields_bind _ _ _ _).mpr (Program.yields_perform rfl ?_)
  cases written : input.written with
  | false => exact (Program.yields_pure _ _ _).mpr ⟨rfl, rfl, rfl⟩
  | true =>
      cases renamed : input.renamed with
      | false =>
          have failed : store.perform actor (.rename snapshot) input = some (false, store) := by
            simp only [Store.perform, renamed, Bool.false_eq_true, if_false]
            rfl
          exact Program.yields_perform failed ⟨rfl, rfl, rfl⟩
      | true =>
          have moved : store.perform actor (.rename snapshot) input =
              some (true, { store with
                file := some snapshot
                landed := ⟨store.taken actor, snapshot⟩ :: store.landed }) := by
            simp only [Store.perform, renamed, if_true]
            rfl
          exact Program.yields_perform moved ⟨rfl, rfl, rfl⟩

/-- That is what the program of `config::update` does when run alone. -/
theorem update_alone (panel : Panel) {store : Store} (free : store.writer = none)
    (config : store.config = panel.config) (file : store.file = panel.file)
    (f : Config → Config) (actor : Nat) (input : Settings.Input) :
    (Settings.update f).Yields (fun store op => store.perform actor op input) store
      fun saved after => saved = (input.written && input.renamed) ∧
        after.config = (panel.update f saved).2.config ∧
          after.file = (panel.update f saved).2.file := by
  refine (Program.yields_bind _ _ _ _).mpr (Program.yields_perform (if_pos free) ?_)
  refine (Program.yields_bind _ _ _ _).mpr (Program.yields_perform rfl ?_)
  refine (Program.yields_bind _ _ _ _).mpr ((save_alone _ _ actor input).mono ?_)
  rintro saved after ⟨saved_eq, after_config, after_file⟩
  refine (Program.yields_bind _ _ _ _).mpr (Program.yields_perform rfl ?_)
  refine (Program.yields_pure _ _ _).mpr ⟨saved_eq, ?_, ?_⟩
  · rw [Panel.update, ← config]
    exact after_config
  · rw [Panel.update, ← config, ← file]
    exact after_file

/-- `handle_admin_player`, up to what a switch does to streams and sockets. -/
def handleAdminPlayer (panel : Panel) (enabled saved : Bool) : Response × Panel :=
  let (ok, panel) := panel.update (fun config => { config with playerEnabled := enabled }) saved
  if ok then (.player enabled, panel) else (.internalServerError, panel)

/-- `handle_admin_cache`: the settings are checked first, and all of them are saved at once. -/
def handleAdminCache (panel : Panel) (form : CacheForm) (saved : Bool) : Response × Panel :=
  if form.audioBitrate ∉ audioBitrates then
    (.redirect "/admin?n=bad_bitrate", panel)
  else if !form.apiAccepted then
    (.redirect "/admin?n=bad_togematch_api", panel)
  else
    let (ok, panel) := panel.update form.apply saved
    if ok then
      (.redirect "/admin?n=saved", { panel with cache := panel.cache.setMaxMb form.maxMb })
    else
      (.redirect "/admin?n=save_failed", panel)

/-- The confirm step of `handle_admin_login_post`. -/
def confirmStep (panel : Panel) (bcrypt : String → String → Bool) (token confirm : String)
    (saved : Bool) : Response × Panel :=
  let hash := panel.pendingHash
  let taken := { panel with pendingHash := "" }
  if hash = "" ∨ verifyPassword bcrypt hash confirm = false then
    (.loginPage "password" token "Passwords do not match", taken)
  else
    let (ok, panel) := taken.update (fun config => { config with adminPasswordHash := hash }) saved
    if ok then
      (.signedIn panel.config.adminPasswordHash, { panel with setupToken := "", pendingHash := "" })
    else
      (.loginPage "password" token "Failed to save password", panel)

/-- The configuration, and what it decides, is as before. -/
structure Unchanged (before after : Panel) : Prop where
  config : after.config = before.config
  player : after.config.playerEnabled = before.config.playerEnabled
  limit : after.cache.maxBytes = before.cache.maxBytes
  password : after.config.hasAdminPassword = before.config.hasAdminPassword

theorem unchanged_iff {before after : Panel} (cache : after.cache = before.cache) :
    before.Unchanged after ↔ after.config = before.config := by
  constructor
  · exact fun unchanged => unchanged.config
  · intro config
    exact ⟨config, by rw [config], by rw [cache], by rw [config]⟩

theorem player_failed_iff (panel : Panel) (enabled : Bool) :
    panel.Unchanged (panel.handleAdminPlayer enabled false).2 ↔
      panel.config.playerEnabled = enabled := by
  have cache : (panel.handleAdminPlayer enabled false).2.cache = panel.cache := rfl
  rw [unchanged_iff cache]
  constructor
  · intro same
    exact (congrArg Config.playerEnabled same).symm
  · rintro rfl
    rfl

theorem cache_failed_iff (panel : Panel) (form : CacheForm)
    (failed : (panel.handleAdminCache form false).1 = .redirect "/admin?n=save_failed") :
    panel.Unchanged (panel.handleAdminCache form false).2 ↔ form.Agrees panel.config := by
  unfold handleAdminCache at failed ⊢
  split at failed
  · simp at failed
  · split at failed
    · simp at failed
    · rename_i offered accepted
      rw [if_neg offered, if_neg accepted]
      rw [← form.apply_eq_iff]
      exact unchanged_iff rfl

/-- A password which is confirmed and not saved is set all the same. -/
theorem confirm_failed (panel : Panel) (bcrypt : String → String → Bool) (token confirm : String)
    (unset : panel.config.hasAdminPassword = false)
    (failed : (panel.confirmStep bcrypt token confirm false).1 =
      .loginPage "password" token "Failed to save password") :
    ¬ panel.Unchanged (panel.confirmStep bcrypt token confirm false).2 := by
  unfold confirmStep at failed ⊢
  dsimp only at failed ⊢
  split at failed
  · simp at failed
  · rename_i confirmed
    rw [if_neg confirmed]
    intro unchanged
    have none : panel.config.adminPasswordHash = "" := by
      simpa [Config.hasAdminPassword] using unset
    have same : panel.pendingHash = panel.config.adminPasswordHash :=
      congrArg Config.adminPasswordHash unchanged.config
    exact confirmed (Or.inl (same.trans none))

/-- A change whose save fails leaves the configuration as it was exactly if the player switch, or
every cache setting, asks for what is configured; after a failed confirm step it never does. -/
theorem failed_change_unchanged_iff (panel : Panel) :
    (∀ enabled, (panel.handleAdminPlayer enabled false).1 = .internalServerError →
      (panel.Unchanged (panel.handleAdminPlayer enabled false).2 ↔
        panel.config.playerEnabled = enabled)) ∧
      (∀ form, (panel.handleAdminCache form false).1 = .redirect "/admin?n=save_failed" →
        (panel.Unchanged (panel.handleAdminCache form false).2 ↔ form.Agrees panel.config)) ∧
      ∀ bcrypt token confirm, panel.config.hasAdminPassword = false →
        (panel.confirmStep bcrypt token confirm false).1 =
          .loginPage "password" token "Failed to save password" →
        ¬ panel.Unchanged (panel.confirmStep bcrypt token confirm false).2 :=
  ⟨fun enabled _ => panel.player_failed_iff enabled, panel.cache_failed_iff, panel.confirm_failed⟩

end Panel

/-- A dashboard with the player on, as saved, and a password being set up. -/
def publicPlayer : Panel where
  config := { playerEnabled := true }
  file := some { playerEnabled := true }
  cache := .new 2048
    { files := fun _ => none, metadata := none, writable := true, stale := false } []
  setupToken := "token"
  pendingHash := "hash"

/-- The cache form as the dashboard shows it at first. -/
def defaultForm : CacheForm := ⟨2048, "144k", .off, none, " "⟩

/-- Switching the player on again, and setting the default limits again, fails without a trace. -/
theorem repeated_unchanged :
    publicPlayer.Unchanged (publicPlayer.handleAdminPlayer true false).2 ∧
      publicPlayer.Unchanged (publicPlayer.handleAdminCache defaultForm false).2 ∧
        ¬ publicPlayer.Unchanged
          (publicPlayer.confirmStep (fun _ _ => true) "token" "password" false).2 :=
  have ⟨player, cache, confirm⟩ := publicPlayer.failed_change_unchanged_iff
  ⟨(player true rfl).mpr rfl, (cache defaultForm rfl).mpr (by decide),
    confirm (fun _ _ => true) "token" "password" rfl rfl⟩

/-- The switch-off fails, and the player is off in memory and on in the file. -/
theorem failed_switch_off_applies :
    (publicPlayer.handleAdminPlayer false false).1 = .internalServerError ∧
      (publicPlayer.handleAdminPlayer false false).2.config.playerEnabled = false ∧
        ¬ publicPlayer.Unchanged (publicPlayer.handleAdminPlayer false false).2 :=
  ⟨rfl, rfl, fun unchanged => Bool.false_ne_true unchanged.player⟩

end Togewire.Admin.Changes
