import Togewire.Spotify.Pairing

/-!
# How fast a page polls

A page waits before each poll, five seconds longer for each time it was told to slow down.  However
long the server takes, and whatever is lost, its polls are that far apart.
-/

namespace Togewire.Spotify.Pairing

open Interleaving Transition

/-- How long a page is to wait, in milliseconds, after what it has been told: what Spotify asked
for, five seconds if it did not say, three at least, and five more for each time it said so. -/
def intervalAfter (auth : DeviceAuthResponse) (told : List Status) : Nat :=
  (match auth.interval with
    | none | some 0 => 5000
    | some seconds => 1000 * max 3 seconds) +
    5000 * told.count (.pending "slow_down")

theorem firstInterval_eq (auth : DeviceAuthResponse) :
    firstInterval auth = intervalAfter auth [] := by
  unfold firstInterval intervalAfter
  cases auth.interval with
  | none => rfl
  | some seconds =>
      cases seconds with
      | zero => rfl
      | succ seconds => simp [Nat.mul_comm, Nat.max_comm]

theorem slowed_intervalAfter (auth : DeviceAuthResponse) (told : List Status) (status : String) :
    slowed (intervalAfter auth told) status = intervalAfter auth (.pending status :: told) := by
  unfold slowed intervalAfter
  rw [List.count_cons]
  by_cases slow : status = "slow_down"
  · subst slow
    simp
    omega
  · simp [slow]

/-- Operations of the server, which leave the page as it is, and a page's alerts. -/
def Op.aside : Op → Bool
  | .fetchStart | .startResponse _ | .setTimeout _ | .timeout | .fetchPoll _ | .pollResponse _
  | .showPaired => false
  | _ => true

/-- A poll was sent no earlier than the page was told to. -/
def Poll.Asked (poll : Poll) : Prop :=
  ∃ auth, poll.auth = some auth ∧ poll.interval = intervalAfter auth poll.told

namespace World

/-- What a page has sent, and when. -/
structure Timely (world : World) (task : Nat) (page : Page) : Prop where
  past : ∀ poll ∈ world.sent task, poll.time ≤ world.now
  asked : ∀ poll ∈ world.sent task, poll.Asked
  spaced : (world.sent task).Pairwise fun later earlier =>
    earlier.time + delay later.interval ≤ later.time
  fresh : page.code = none → page.pollCall = none ∧ world.told task = []
  waits : ∀ deviceCode, page.code = some deviceCode →
    ∃ auth, world.auth task = some auth ∧ page.interval = intervalAfter auth (world.told task)
  timer : ∀ timer, world.timers task = some timer →
    page.pollCall = none ∧ page.code ≠ none ∧ timer.milliseconds = page.interval ∧
      ∀ poll ∈ world.sent task, poll.time + delay timer.milliseconds ≤ timer.due
  fired : page.fired = true → ∃ timer, world.timers task = some timer ∧ timer.due ≤ world.now

variable {world after : World} {traces : Nat → Trace} {page : Page} {trace : Trace} {actor : Nat}

theorem Timely.later {task : Nat} (timely : world.Timely task page) (now : world.now ≤ after.now)
    (timers : after.timers task = world.timers task) (auth : after.auth task = world.auth task)
    (told : after.told task = world.told task) (sent : after.sent task = world.sent task) :
    after.Timely task page where
  past poll member := Nat.le_trans (timely.past poll (sent ▸ member)) now
  asked poll member := timely.asked poll (sent ▸ member)
  spaced := by
    rw [sent]
    exact timely.spaced
  fresh := by
    rw [told]
    exact timely.fresh
  waits := by
    rw [auth, told]
    exact timely.waits
  timer := by
    rw [timers, sent]
    exact timely.timer
  fired waits := by
    obtain ⟨timer, set, due⟩ := timely.fired waits
    exact ⟨timer, timers.trans set, Nat.le_trans due now⟩

theorem next_aside {op : Op} (aside : op.aside = true) (answer : op.Answer) :
    (trace.next op answer).page = trace.page := by
  cases op with
  | fetchStart | startResponse | setTimeout | timeout | fetchPoll | pollResponse | showPaired =>
      cases aside
  | requestDeviceCode => rcases answer with error | auth <;> rfl
  | pollDeviceToken => rcases answer with error | pending | token <;> rfl
  | saveSpotifyAuth => rcases answer with unsaved | error <;> rfl
  | alert | takeStart | respondStart | takePoll | clearCachedToken | accountIsPremium
  | setPremium | setUseLibrespot | respondPoll => rfl

theorem perform_aside {op : Op} (aside : op.aside = true) {input : Input} {answer : op.Answer}
    (performed : world.perform actor op input = some (answer, after)) :
    after.now = world.now ∧ after.timers = world.timers ∧ after.auth = world.auth ∧
      after.told = world.told ∧ after.sent = world.sent := by
  cases op with
  | fetchStart | startResponse | setTimeout | timeout | fetchPoll | pollResponse | showPaired =>
      cases aside
  | takeStart | takePoll =>
      obtain ⟨taken, -, same⟩ := Option.map_eq_some_iff.mp performed
      obtain ⟨-, rfl⟩ := Prod.mk.inj same
      exact ⟨rfl, rfl, rfl, rfl, rfl⟩
  | saveSpotifyAuth =>
      simp only [World.perform] at performed
      split at performed <;> obtain ⟨-, rfl⟩ := Prod.mk.inj (Option.some.inj performed)
      all_goals exact ⟨rfl, rfl, rfl, rfl, rfl⟩
  | alert | requestDeviceCode | respondStart | pollDeviceToken | clearCachedToken
  | accountIsPremium | setPremium | setUseLibrespot | respondPoll =>
      obtain ⟨-, rfl⟩ := Prod.mk.inj (Option.some.inj performed)
      exact ⟨rfl, rfl, rfl, rfl, rfl⟩

/-! ### What a page does -/

theorem Timely.unset (timely : world.Timely actor page)
    (busy : page.pollCall ≠ none ∨ page.code = none) : world.timers actor = none := by
  cases set : world.timers actor with
  | none => rfl
  | some timer =>
      obtain ⟨idle, coded, -, -⟩ := timely.timer timer set
      rcases busy with waits | fresh
      · exact absurd idle waits
      · exact absurd fresh coded

theorem Timely.startResponse (timely : world.Timely actor trace.page)
    (fresh : trace.page.code = none) {number : Nat} {started : Started} :
    { world with auth := Function.update world.auth actor started.toOption }.Timely actor
      (trace.next (.startResponse number) (.ok started)).page := by
  obtain ⟨idle, silent⟩ := timely.fresh fresh
  cases started with
  | error error =>
      exact ⟨timely.past, timely.asked, timely.spaced, timely.fresh,
        fun _ coded => absurd (fresh.symm.trans coded) (by simp), timely.timer, timely.fired⟩
  | ok auth =>
      refine ⟨timely.past, timely.asked, timely.spaced, by simp [Trace.next], ?_,
        by simp [timely.unset (.inr fresh)], timely.fired⟩
      intro _ _
      refine ⟨auth, by simp [Except.toOption], ?_⟩
      rw [silent]
      exact firstInterval_eq auth

theorem Timely.setTimeout (timely : world.Timely actor page) {milliseconds : Nat}
    (interval : milliseconds = page.interval) (idle : page.pollCall = none)
    (coded : page.code ≠ none) :
    { world with
      timers := Function.update world.timers actor
        (some ⟨world.now + delay milliseconds, milliseconds⟩) }.Timely actor
      { page with fired := false } := by
  refine ⟨timely.past, timely.asked, timely.spaced, timely.fresh, timely.waits, ?_, by simp⟩
  intro timer set
  obtain rfl : ⟨world.now + delay milliseconds, milliseconds⟩ = timer := by simpa using set
  exact ⟨idle, coded, interval,
    fun poll member => Nat.add_le_add_right (timely.past poll member) _⟩

theorem Timely.timeout (timely : world.Timely actor page)
    (elapsed : (world.timers actor).any fun timer => timer.due ≤ world.now) :
    world.Timely actor { page with fired := true } := by
  refine ⟨timely.past, timely.asked, timely.spaced, timely.fresh, timely.waits, timely.timer, ?_⟩
  intro _
  cases set : world.timers actor with
  | none => simp [set] at elapsed
  | some timer => exact ⟨timer, rfl, by simpa [set] using elapsed⟩

/-- A page polls once its timer has run out. -/
theorem Timely.fetchPoll (timely : world.Timely actor page) {deviceCode : String} {number : Nat}
    (fired : page.fired = true) :
    (world.sendPoll actor deviceCode).Timely actor
      { page with pollCall := some number, fired := false } := by
  obtain ⟨timer, set, due⟩ := timely.fired fired
  obtain ⟨-, coded, interval, apart⟩ := timely.timer timer set
  obtain ⟨code, polls⟩ := Option.ne_none_iff_exists'.mp coded
  obtain ⟨auth, given, waited⟩ := timely.waits code polls
  have sent : (world.sendPoll actor deviceCode).sent actor =
      ⟨world.now, timer.milliseconds, world.auth actor, world.told actor⟩ :: world.sent actor := by
    simp [sendPoll, set]
  refine ⟨?_, ?_, ?_, fun fresh => absurd fresh coded, timely.waits, by simp [sendPoll], by simp⟩
  · rw [sent]
    exact List.forall_mem_cons.mpr ⟨Nat.le_refl _, timely.past⟩
  · rw [sent]
    exact List.forall_mem_cons.mpr ⟨⟨auth, given, interval.trans waited⟩, timely.asked⟩
  · rw [sent]
    exact List.pairwise_cons.mpr
      ⟨fun poll member => Nat.le_trans (apart poll member) due, timely.spaced⟩

theorem Timely.pollResponse (timely : world.Timely actor page) {number : Nat} {status : Status}
    (waits : page.pollCall = some number) :
    { world with
      told := Function.update world.told actor (status :: world.told actor) }.Timely actor
      (page.hear status) := by
  have busy : page.pollCall ≠ none := by simp [waits]
  have coded : page.code ≠ none := fun fresh => busy (timely.fresh fresh).1
  have unset := timely.unset (.inl busy)
  have code : (page.hear status).code = page.code := by cases status <;> rfl
  refine ⟨timely.past, timely.asked, timely.spaced, ?_, ?_, by simp [unset], ?_⟩
  · rw [code]
    exact fun fresh => absurd fresh coded
  · rw [code]
    intro deviceCode polls
    obtain ⟨auth, given, waited⟩ := timely.waits deviceCode polls
    refine ⟨auth, given, ?_⟩
    simp only [Function.update_self]
    cases status with
    | pending status =>
        rw [← slowed_intervalAfter, ← waited]
        rfl
    | paired | error message => simpa [Page.hear, intervalAfter] using waited
  · intro fired
    have before : page.fired = true := by cases status <;> exact fired
    obtain ⟨timer, set, -⟩ := timely.fired before
    exact absurd (unset.symm.trans set) (by simp)

/-- One page has done something, and the others have not. -/
theorem timely_update (timely : ∀ task, world.Timely task (traces task).page)
    (mine : after.Timely actor trace.page) (now : after.now = world.now)
    (timers : ∀ task, task ≠ actor → after.timers task = world.timers task)
    (auth : ∀ task, task ≠ actor → after.auth task = world.auth task)
    (told : ∀ task, task ≠ actor → after.told task = world.told task)
    (sent : ∀ task, task ≠ actor → after.sent task = world.sent task) :
    ∀ task, after.Timely task (Function.update traces actor trace task).page :=
  (Function.forall_update_iff traces fun task trace => after.Timely task trace.page).mpr
    ⟨mine, fun task other => (timely task).later (Nat.le_of_eq now.symm) (timers task other)
      (auth task other) (told task other) (sent task other)⟩

/-- One page has done something which only it knows of. -/
theorem timely_kept (timely : ∀ task, world.Timely task (traces task).page)
    (mine : after.Timely actor trace.page) (now : after.now = world.now)
    (timers : after.timers = world.timers) (auth : after.auth = world.auth)
    (told : after.told = world.told) (sent : after.sent = world.sent) :
    ∀ task, after.Timely task (Function.update traces actor trace task).page :=
  timely_update timely mine now (fun task _ => congrFun timers task)
    (fun task _ => congrFun auth task) (fun task _ => congrFun told task)
    fun task _ => congrFun sent task

theorem perform_timely (timely : ∀ task, world.Timely task (traces task).page) {op : Op}
    {input : Input} {answer : op.Answer} (allowed : (traces actor).Allows op)
    (performed : world.perform actor op input = some (answer, after)) :
    ∀ task, after.Timely task
      (Function.update traces actor ((traces actor).next op answer) task).page := by
  have mine := timely actor
  cases aside : op.aside with
  | true =>
      obtain ⟨now, timers, auth, told, sent⟩ := perform_aside aside performed
      have kept := mine.later (Nat.le_of_eq now.symm) (congrFun timers actor) (congrFun auth actor)
        (congrFun told actor) (congrFun sent actor)
      rw [← next_aside aside answer] at kept
      exact timely_kept timely kept now timers auth told sent
  | false =>
      cases op with
      | fetchStart =>
          obtain ⟨rfl, rfl⟩ := Prod.mk.inj (Option.some.inj performed)
          have page : Timely { world with starts := world.starts.send () } actor
              ((traces actor).next .fetchStart world.starts.size).page :=
            ⟨mine.past, mine.asked, mine.spaced, mine.fresh, mine.waits, mine.timer, mine.fired⟩
          exact timely_kept timely page rfl rfl rfl rfl rfl
      | startResponse number =>
          rcases receive_cases performed with ⟨error, rfl, rfl⟩ | ⟨started, -, rfl, rfl⟩
          · have page : after.Timely actor
                ((traces actor).next (.startResponse number) (.error error)).page :=
              ⟨mine.past, mine.asked, mine.spaced, mine.fresh, mine.waits, mine.timer, mine.fired⟩
            exact timely_kept timely page rfl rfl rfl rfl rfl
          · exact timely_update timely (mine.startResponse allowed.2) rfl (fun _ _ => rfl)
              (fun _ other => Function.update_of_ne other _ _) (fun _ _ => rfl) fun _ _ => rfl
      | setTimeout milliseconds =>
          obtain ⟨-, rfl⟩ := Prod.mk.inj (Option.some.inj performed)
          obtain ⟨interval, idle, coded⟩ := allowed
          exact timely_update timely (mine.setTimeout interval idle coded) rfl
            (fun _ other => Function.update_of_ne other _ _) (fun _ _ => rfl) (fun _ _ => rfl)
            fun _ _ => rfl
      | timeout =>
          simp only [World.perform] at performed
          split at performed
          · rename_i elapsed
            obtain ⟨-, rfl⟩ := Prod.mk.inj (Option.some.inj performed)
            exact timely_kept timely (mine.timeout elapsed) rfl rfl rfl rfl rfl
          · cases performed
      | fetchPoll deviceCode =>
          obtain ⟨rfl, rfl⟩ := Prod.mk.inj (Option.some.inj performed)
          exact timely_update timely (mine.fetchPoll allowed.1) rfl
            (fun _ other => Function.update_of_ne other _ _) (fun _ _ => rfl) (fun _ _ => rfl)
            fun _ other => Function.update_of_ne other _ _
      | pollResponse number =>
          rcases receive_cases performed with ⟨error, rfl, rfl⟩ | ⟨status, -, rfl, rfl⟩
          · have page : after.Timely actor
                ((traces actor).next (.pollResponse number) (.error error)).page :=
              ⟨mine.past, mine.asked, mine.spaced, fun fresh => ⟨rfl, (mine.fresh fresh).2⟩,
                mine.waits, fun timer set => ⟨rfl, (mine.timer timer set).2⟩, mine.fired⟩
            exact timely_kept timely page rfl rfl rfl rfl rfl
          · exact timely_update timely (mine.pollResponse allowed) rfl (fun _ _ => rfl)
              (fun _ _ => rfl) (fun _ other => Function.update_of_ne other _ _) fun _ _ => rfl
      | showPaired =>
          obtain ⟨-, rfl⟩ := Prod.mk.inj (Option.some.inj performed)
          have page : world.Timely actor ((traces actor).next .showPaired ()).page :=
            ⟨mine.past, mine.asked, mine.spaced, mine.fresh, mine.waits, mine.timer, mine.fired⟩
          exact timely_kept timely page rfl rfl rfl rfl rfl
      | _ => cases aside

theorem safe_timely : machine.Safe discipline (fun _ _ _ _ _ => True)
    fun world traces => ∀ task, world.Timely task (traces task).page where
  initial := by
    rintro _ ⟨forceNoLibrespot, rfl⟩ task
    constructor <;> simp [discipline, World.start]
  accept _ _ _ request _ _ timely _ accepted := by
    obtain ⟨rfl, rfl⟩ := Prod.mk.inj (Option.some.inj accepted)
    exact ⟨timely, Trace.guides_run request⟩
  perform _ _ _ _ _ _ _ timely allowed _ performed := perform_timely timely allowed performed
  outside world _ change _ timely changed := by
    obtain rfl := Option.some.inj changed
    have now : world.now ≤ (world.outside change).now := by
      cases change with
      | tick milliseconds => exact Nat.le_add_right _ _
      | librespotOff premium => exact Nat.le_refl _
    intro task
    refine (timely task).later now ?_ ?_ ?_ ?_ <;> cases change <;> rfl

end World

theorem delay_eq {milliseconds : Nat} (short : milliseconds < 2 ^ 31) :
    delay milliseconds = milliseconds := by
  unfold delay
  rw [Nat.mod_eq_of_lt (by omega), if_pos short]

/-- However long the server takes, and whatever is lost: the polls of a page are as far apart as it
was last told to, five seconds more for each time it was told to slow down, unless that is so much
that `setTimeout` does not take it. -/
theorem polls_are_spaced {pool : Pool signature World Trace} (reach : system.Reachable pool)
    (page : Nat) :
    (∀ poll ∈ pool.shared.sent page, poll.Asked) ∧
      (pool.shared.sent page).Pairwise fun later earlier =>
        later.interval < 2 ^ 31 → earlier.time + later.interval ≤ later.time := by
  have timely := (World.safe_timely.guarded_of_reachable reach).holds page
  refine ⟨timely.asked, timely.spaced.imp fun {later earlier} apart short => ?_⟩
  rwa [delay_eq short] at apart

theorem visit_is_spaced :
    let pool := system.final dashboard visit visit_runs
    (pool.shared.sent 0).map Poll.time = [15000, 5000] ∧
      (∀ poll ∈ pool.shared.sent 0, poll.Asked) ∧
        (pool.shared.sent 0).Pairwise fun later earlier =>
          later.interval < 2 ^ 31 → earlier.time + later.interval ≤ later.time := by
  intro pool
  exact ⟨by decide +kernel,
    polls_are_spaced (System.reachable_final dashboard_initial visit visit_runs) 0⟩

end Togewire.Spotify.Pairing
