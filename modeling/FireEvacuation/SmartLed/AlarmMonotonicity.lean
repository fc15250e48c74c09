import FireEvacuation.Clients.CallbackThreads

/-!
# The alarm of the LED under interleaved callbacks

The parties are Redis with its key `alert`, the speaker which sets it to `1`, and the
observation callbacks of the LED, each on a thread of its own.  The context is live, so
every `GET alert` is answered with the value of the key.

The value is read under the lock but acted on after the unlock: a callback which has read
`0` may set the LED to 3 after another one, which has read `1`, set it to 2.
-/

namespace FireEvacuation
namespace SmartLed

open FireEvacuation.Core Redis Speaker Clients

/-- The client and the key.  `seen` records that a callback which read `1` has completed
`getAlertStatus`. -/
structure LedWorld where
  client : Watched LedVars
  alert : String
  seen : Bool
  deriving DecidableEq

/-- Before the alarm, with a live context and any value of the LED. -/
def LedWorld.initial (value : Int) : LedWorld := ⟨.initial ⟨.live, value⟩, "0", false⟩

/-- One callback.  `late` records that it started after one which had seen the alarm was
through with `getAlertStatus`, `askedAfter` that its `GET alert` came after the `SET`. -/
structure LedCallback where
  thread : LedThread
  late : Bool
  askedAfter : Bool
  deriving DecidableEq

/-- What Redis answers while the key is there. -/
def keyAnswer (alert : String) : Answer := ⟨.connected, .ok 0, some (.string alert)⟩

/-- The callbacks over Redis; the step of the environment is the `SET alert 1` of the
speaker. -/
def ledWorldSystem : ThreadSystem LedWorld LedCallback String Unit Unit where
  start := fun s host => some (s, ⟨.testContext host, s.seen, false⟩)
  advance := fun index s callback _ =>
    (ledAdvance index s.client callback.thread (keyAnswer s.alert)).map fun next =>
      (⟨next.1, s.alert, s.seen || next.2 = .build true⟩,
        ⟨next.2, callback.late,
          if callback.thread = .getAlert then s.alert = "1" else callback.askedAfter⟩)
  environment := fun s _ => some { s with alert := "1" }

/-- The pool before the first callback. -/
def initialPool (value : Int) : Pool LedWorld LedCallback := ⟨.initial value, []⟩

/-- Once the alarm was seen the LED shows it. -/
def LedShown (p : Pool LedWorld LedCallback) : Prop :=
  p.shared.seen = true → p.shared.client.vars.value = 2

/-- Who starts after the alarm was seen posts it. -/
def AlarmPosted (p : Pool LedWorld LedCallback) : Prop :=
  ∀ callback ∈ p.threads, callback.late = true →
    ∀ alertState, callback.thread = .done alertState → alertState = true

/-- What `getAlertStatus` returned to a callback. -/
def returned : LedThread → Option Bool
  | .build ret | .done ret => some ret
  | _ => none

/-- The callback comes to `led->SetValue` next. -/
def setsLed : LedThread → Bool
  | .setValue _ => true
  | _ => false

/-- A callback which asked after the `SET` is through with `getAlertStatus`. -/
def LedCallback.shows (callback : LedCallback) : Bool :=
  callback.askedAfter && (returned callback.thread).isSome

/-- The condition on a step: nobody who asked before the `SET` sets the LED after somebody
who asked after it is through with `getAlertStatus`. -/
def AlarmCondition (p : Pool LedWorld LedCallback) : PoolEvent String Unit Unit → Prop
  | .advance index _ => ∀ callback ∈ p.threads[index]?, setsLed callback.thread = true →
      callback.askedAfter = true ∨ ∀ other ∈ p.threads, other.shows = false
  | .start _ | .environment _ => True

instance (p : Pool LedWorld LedCallback) :
    (event : PoolEvent String Unit Unit) → Decidable (AlarmCondition p event)
  | .advance index _ => inferInstanceAs (Decidable (∀ callback ∈ p.threads[index]?,
      setsLed callback.thread = true →
        callback.askedAfter = true ∨ ∀ other ∈ p.threads, other.shows = false))
  | .start _ | .environment _ => isTrue trivial

/-! ## One callback -/

/-- What a callback has read and not acted on yet. -/
def reading : LedThread → Option String
  | .readText reply => reply.str
  | .unlock alertValue | .setValue alertValue => some alertValue
  | _ => none

/-- The callback has found no context. -/
def connects : LedThread → Bool
  | .connect _ => true
  | _ => false

/-- What a step of a callback can do. -/
inductive LedMove (alert : String) (s : Watched LedVars) (thread : LedThread)
    (t : Watched LedVars) (next : LedThread) : Prop where
  | goes (hvars : t.vars = s.vars) (hreading : reading next = reading thread)
      (hreturned : returned next = returned thread) (hconnects : connects next = false)
      (hget : thread ≠ .getAlert) (hset : setsLed thread = false) (hbuild : next ≠ .build true)
  | reads (hvars : t.vars = s.vars) (hthread : thread = .getAlert)
      (hnext : next = .readText (.string alert))
  | sets (alertValue : String) (hthread : thread = .setValue alertValue)
      (hvars : t.vars = { s.vars with value := ledValue alertValue })
      (hnext : next = .build (alertValue = "1"))

theorem ledAdvance_cases {self : Nat} {alert : String} {s t : Watched LedVars}
    {thread next : LedThread} (hlive : s.vars.context = .live)
    (hconnects : connects thread = false)
    (h : ledAdvance self s thread (keyAnswer alert) = some (t, next)) :
    LedMove alert s thread t next := by
  cases thread with
  | testContext host =>
      unfold ledAdvance at h
      rw [hlive] at h
      cases h
      exact .goes rfl rfl rfl rfl (by simp) rfl (by simp)
  | connect host => cases hconnects
  | lock =>
      rcases Option.map_eq_some_iff.mp h with ⟨locked, hlock, hnext⟩
      cases hnext
      unfold Watched.lock at hlock
      split at hlock
      · cases hlock
        exact .goes rfl rfl rfl rfl (by simp) rfl (by simp)
      · cases hlock
  | getAlert =>
      cases h
      exact .reads rfl rfl rfl
  | readText reply =>
      unfold ledAdvance at h
      dsimp only at h
      cases htext : reply.str with
      | none =>
          rw [htext] at h
          cases h
          exact .goes rfl htext.symm rfl rfl (by simp) rfl (by simp)
      | some alertValue =>
          rw [htext] at h
          cases h
          exact .goes rfl htext.symm rfl rfl (by simp) rfl (by simp)
  | unlock alertValue =>
      cases h
      exact .goes rfl rfl rfl rfl (by simp) rfl (by simp)
  | setValue alertValue =>
      cases h
      exact .sets alertValue rfl rfl rfl
  | build ret =>
      cases h
      exact .goes rfl rfl rfl rfl (by simp) rfl (by simp)
  | done ret | thrown | crashed => cases h

/-! ## What holds in every run -/

/-- The shared part: the alarm is seen only when it is there. -/
structure WorldShared (_ : Nat) (s : LedWorld) : Prop where
  live : s.client.vars.context = .live
  seen : s.seen = true → s.alert = "1"

/-- The part of a callback: it carries and returns `1` exactly when it asked after the
`SET`, and a late callback asks after it. -/
structure WorldThread (_ : Nat) (s : LedWorld) (callback : LedCallback) : Prop where
  connects : connects callback.thread = false
  asked : callback.askedAfter = true → s.alert = "1"
  read : ∀ alertValue, reading callback.thread = some alertValue →
    (alertValue = "1" ↔ callback.askedAfter = true)
  returned : ∀ ret, returned callback.thread = some ret → ret = callback.askedAfter
  late : callback.late = true → s.seen = true
  lateReading : callback.late = true →
    ∀ alertValue, reading callback.thread = some alertValue → alertValue = "1"
  lateReturned : callback.late = true →
    ∀ ret, SmartLed.returned callback.thread = some ret → ret = true
  shows : callback.shows = true → s.seen = true

abbrev WorldInv (p : Pool LedWorld LedCallback) : Prop := PoolInv WorldShared WorldThread p

/-- The alarm was seen by one of the callbacks. -/
def SeenBy (p : Pool LedWorld LedCallback) : Prop :=
  p.shared.seen = true → ∃ callback ∈ p.threads, callback.shows = true

/-- Nothing which is seen or set is lost. -/
theorem WorldThread.mono {index : Nat} {s t : LedWorld} {callback : LedCallback}
    (h : WorldThread index s callback) (halert : s.alert = "1" → t.alert = "1")
    (hseen : s.seen = true → t.seen = true) : WorldThread index t callback where
  connects := h.connects
  asked := fun hasked => halert (h.asked hasked)
  read := h.read
  returned := h.returned
  late := fun hlate => hseen (h.late hlate)
  lateReading := h.lateReading
  lateReturned := h.lateReturned
  shows := fun hshows => hseen (h.shows hshows)

theorem WorldInv.posted {p : Pool LedWorld LedCallback} (h : WorldInv p) : AlarmPosted p := by
  intro callback hmem hlate alertState hdone
  rcases List.mem_iff_getElem?.mp hmem with ⟨index, hindex⟩
  refine (h.threads index callback hindex).lateReturned hlate alertState ?_
  rw [hdone]
  rfl

theorem worldInv_initial (value : Int) : WorldInv (initialPool value) :=
  PoolInv.of_empty ⟨rfl, fun hseen => nomatch hseen⟩

/-- What the record of a callback says after its next step. -/
def askedNext (s : LedWorld) (callback : LedCallback) : Bool :=
  if callback.thread = .getAlert then s.alert = "1" else callback.askedAfter

/-- The next state of a callback keeps its part. -/
theorem WorldThread.move {index : Nat} {s : LedWorld} {t : Watched LedVars}
    {callback : LedCallback} {next : LedThread} (hs : WorldShared 0 s)
    (h : WorldThread index s callback)
    (hmove : LedMove s.alert s.client callback.thread t next) :
    WorldThread index ⟨t, s.alert, s.seen || next = .build true⟩
      ⟨next, callback.late, askedNext s callback⟩ := by
  have hlate : callback.late = true → (s.seen || decide (next = .build true)) = true := by
    intro hlate
    simp [h.late hlate]
  cases hmove with
  | goes hvars hreading hreturned hconnects hget hset hbuild =>
      have hasked : askedNext s callback = callback.askedAfter := if_neg hget
      rw [hasked]
      refine ⟨hconnects, h.asked, ?_, ?_, hlate, ?_, ?_, fun hshows => ?_⟩
      · dsimp only
        rw [hreading]
        exact h.read
      · dsimp only
        rw [hreturned]
        exact h.returned
      · dsimp only
        rw [hreading]
        exact h.lateReading
      · dsimp only
        rw [hreturned]
        exact h.lateReturned
      · rw [LedCallback.shows] at hshows
        dsimp only at hshows
        rw [hreturned] at hshows
        simp [h.shows hshows]
  | reads hvars hthread hnext =>
      subst hnext
      have hasked : askedNext s callback = decide (s.alert = "1") := if_pos hthread
      rw [hasked]
      refine ⟨rfl, fun hone => of_decide_eq_true hone, fun alertValue hvalue => ?_,
        fun _ hret => (nomatch hret), hlate, fun hl alertValue hvalue => ?_,
        fun _ _ hret => (nomatch hret), fun hshows => ?_⟩
      · cases hvalue
        simp
      · -- the key was set before the callback started
        cases hvalue
        exact hs.seen (h.late hl)
      · simp [LedCallback.shows, SmartLed.returned] at hshows
  | sets alertValue hthread hvars hnext =>
      subst hnext
      have hasked : askedNext s callback = callback.askedAfter :=
        if_neg (by rw [hthread]; exact LedThread.noConfusion)
      have hread := h.read alertValue (by rw [hthread]; rfl)
      have hret : decide (alertValue = "1") = callback.askedAfter := by
        rw [Bool.eq_iff_iff, decide_eq_true_eq]
        exact hread
      rw [hasked]
      refine ⟨rfl, h.asked, fun _ hvalue => (nomatch hvalue), fun ret hsome => ?_, hlate,
        fun _ _ hvalue => (nomatch hvalue), fun hl ret hsome => ?_, fun hshows => ?_⟩
      · cases hsome
        exact hret
      · cases hsome
        simp [h.lateReading hl alertValue (by rw [hthread]; rfl)]
      · have haskedAfter : callback.askedAfter = true := (Bool.and_eq_true_iff.mp hshows).1
        simp [hread.mpr haskedAfter]

theorem WorldShared.move {count index : Nat} {s : LedWorld} {t : Watched LedVars}
    {callback : LedCallback} {next : LedThread} (hs : WorldShared count s)
    (h : WorldThread index s callback)
    (hmove : LedMove s.alert s.client callback.thread t next) :
    WorldShared count ⟨t, s.alert, s.seen || next = .build true⟩ := by
  cases hmove with
  | goes hvars _ _ _ _ _ hbuild =>
      refine ⟨hvars ▸ hs.live, fun hseen => hs.seen ?_⟩
      simpa [hbuild] using hseen
  | reads hvars _ hnext =>
      refine ⟨hvars ▸ hs.live, fun hseen => hs.seen ?_⟩
      simpa [hnext] using hseen
  | sets alertValue hthread hvars hnext =>
      refine ⟨by rw [hvars]; exact hs.live, fun hseen => ?_⟩
      rw [Bool.or_eq_true, hnext] at hseen
      obtain hbefore | hnow := hseen
      · exact hs.seen hbefore
      · have hone : alertValue = "1" := by simpa using hnow
        exact h.asked ((h.read alertValue (by rw [hthread]; rfl)).mp hone)

/-- What the next step of a callback does. -/
theorem step_advance_led {p q : Pool LedWorld LedCallback} {index : Nat} {input : Unit}
    (h : WorldInv p) (hstep : ledWorldSystem.step p (.advance index input) = some q) :
    ∃ callback t next, p.threads[index]? = some callback ∧
      LedMove p.shared.alert p.shared.client callback.thread t next ∧
      q = ⟨⟨t, p.shared.alert, p.shared.seen || next = .build true⟩,
        p.threads.set index ⟨next, callback.late, askedNext p.shared callback⟩⟩ := by
  rcases ThreadSystem.step_advance hstep with ⟨callback, s, thread, hthread, hadvance, rfl⟩
  rcases Option.map_eq_some_iff.mp hadvance with ⟨⟨t, next⟩, hled, hnext⟩
  cases hnext
  have hmove := ledAdvance_cases h.shared.live (h.threads index callback hthread).connects hled
  exact ⟨callback, t, next, hthread, hmove, rfl⟩

/-- Every step keeps the invariant. -/
theorem WorldInv.step {p q : Pool LedWorld LedCallback} {event : PoolEvent String Unit Unit}
    (h : WorldInv p) (hstep : ledWorldSystem.step p event = some q) : WorldInv q := by
  cases event with
  | start host =>
      rcases ThreadSystem.step_start hstep with ⟨s, callback, hstart, rfl⟩
      cases hstart
      refine PoolInv.start h ⟨h.shared.live, h.shared.seen⟩ ?_ fun _ _ _ hother => hother
      exact ⟨rfl, fun hasked => (nomatch hasked), fun _ hvalue => (nomatch hvalue),
        fun _ hret => (nomatch hret), id, fun _ _ hvalue => (nomatch hvalue),
        fun _ _ hret => (nomatch hret), fun hshows => nomatch hshows⟩
  | advance index input =>
      rcases step_advance_led h hstep with ⟨callback, t, next, hthread, hmove, rfl⟩
      have hself := h.threads index callback hthread
      refine PoolInv.advance h ?_ (hself.move ⟨h.shared.live, h.shared.seen⟩ hmove)
        fun other callback' _ _ hother => hother.mono id fun hseen => by simp [hseen]
      exact h.shared.move hself hmove
  | environment event =>
      rcases ThreadSystem.step_environment hstep with ⟨s, henv, rfl⟩
      cases henv
      exact PoolInv.environment h ⟨h.shared.live, fun _ => rfl⟩
        fun index callback _ hother => hother.mono (fun _ => rfl) id

/-- Who shows the alarm goes on showing it. -/
theorem shows_move {s : LedWorld} {t : Watched LedVars} {callback : LedCallback}
    {next : LedThread} (hmove : LedMove s.alert s.client callback.thread t next)
    (h : callback.shows = true) :
    LedCallback.shows ⟨next, callback.late, askedNext s callback⟩ = true := by
  cases hmove with
  | goes hvars hreading hreturned hconnects hget hset hbuild =>
      rw [LedCallback.shows, askedNext, if_neg hget, hreturned]
      exact h
  | reads hvars hthread hnext =>
      rw [LedCallback.shows, hthread] at h
      simp [returned] at h
  | sets alertValue hthread hvars hnext =>
      rw [LedCallback.shows, hthread] at h
      simp [returned] at h

/-- Every step keeps the alarm seen by somebody. -/
theorem SeenBy.step {p q : Pool LedWorld LedCallback} {event : PoolEvent String Unit Unit}
    (hinv : WorldInv p) (h : SeenBy p) (hstep : ledWorldSystem.step p event = some q) :
    SeenBy q := by
  intro hseen
  cases event with
  | start host =>
      rcases ThreadSystem.step_start hstep with ⟨s, callback, hstart, rfl⟩
      cases hstart
      obtain ⟨shower, hmem, hshows⟩ := h hseen
      exact ⟨shower, List.mem_append_left _ hmem, hshows⟩
  | environment event =>
      rcases ThreadSystem.step_environment hstep with ⟨s, henv, rfl⟩
      cases henv
      exact h hseen
  | advance index input =>
      rcases step_advance_led hinv hstep with ⟨callback, t, next, hthread, hmove, rfl⟩
      have hlt : index < p.threads.length := (List.getElem?_eq_some_iff.mp hthread).1
      have hself := List.mem_set hlt ⟨next, callback.late, askedNext p.shared callback⟩
      dsimp only at hseen
      rw [Bool.or_eq_true] at hseen
      obtain hbefore | hnow := hseen
      · obtain ⟨shower, hmem, hshows⟩ := h hbefore
        rcases List.mem_iff_getElem?.mp hmem with ⟨other, hother⟩
        by_cases hsame : index = other
        · subst hsame
          rw [hthread] at hother
          cases hother
          exact ⟨_, hself, shows_move hmove hshows⟩
        · refine ⟨shower, List.mem_iff_getElem?.mpr ⟨other, ?_⟩, hshows⟩
          rw [List.getElem?_set_ne hsame]
          exact hother
      · refine ⟨_, hself, ?_⟩
        have hbuild : next = .build true := of_decide_eq_true hnow
        have hnext := ((hinv.threads index callback hthread).move
          ⟨hinv.shared.live, hinv.shared.seen⟩ hmove).returned true (by rw [hbuild]; rfl)
        rw [LedCallback.shows, ← hnext, hbuild]
        rfl

/-! ## When the LED goes on showing the alarm -/

/-- The LED shows the alarm after a step exactly under the condition, when it did before. -/
theorem ledShown_step_iff {p q : Pool LedWorld LedCallback}
    {event : PoolEvent String Unit Unit} (hinv : WorldInv p) (hseen : SeenBy p)
    (hshown : LedShown p) (hstep : ledWorldSystem.step p event = some q) :
    LedShown q ↔ AlarmCondition p event := by
  cases event with
  | start host =>
      rcases ThreadSystem.step_start hstep with ⟨s, callback, hstart, rfl⟩
      cases hstart
      exact iff_of_true hshown trivial
  | environment event =>
      rcases ThreadSystem.step_environment hstep with ⟨s, henv, rfl⟩
      cases henv
      exact iff_of_true hshown trivial
  | advance index input =>
      rcases step_advance_led hinv hstep with ⟨callback, t, next, hthread, hmove, rfl⟩
      have hself := hinv.threads index callback hthread
      rw [AlarmCondition, hthread]
      simp only [Option.mem_def, Option.some.injEq, forall_eq']
      cases hmove with
      | goes hvars hreading hreturned hconnects hget hset hbuild =>
          refine iff_of_true ?_ fun hsets => ?_
          · simpa [LedShown, hvars, hbuild] using hshown
          · rw [hset] at hsets
            cases hsets
      | reads hvars hthread hnext =>
          refine iff_of_true ?_ fun hsets => ?_
          · simpa [LedShown, hvars, hnext] using hshown
          · rw [hthread] at hsets
            cases hsets
      | sets alertValue hset hvars hnext =>
          have hread := hself.read alertValue (by rw [hset]; rfl)
          have hsets : setsLed callback.thread = true := by
            rw [hset]
            rfl
          rw [imp_iff_right hsets, LedShown]
          simp only [hvars, hnext]
          by_cases hone : alertValue = "1"
          · exact iff_of_true (fun _ => by simp [ledValue, hone]) (.inl (hread.mp hone))
          · -- the LED is set to 3, so nobody may have seen the alarm
            have hbefore : callback.askedAfter ≠ true := fun hasked => hone (hread.mpr hasked)
            have hthree : ledValue alertValue ≠ 2 := by simp [ledValue, hone]
            simp only [hone, decide_false, LedThread.build.injEq, Bool.false_eq_true,
              Bool.or_false, hbefore, false_or, hthree, imp_false, Bool.not_eq_true]
            constructor
            · intro hunseen other hother
              rcases List.mem_iff_getElem?.mp hother with ⟨position, hposition⟩
              rw [← Bool.not_eq_true]
              intro hshows
              have h := (hinv.threads position other hposition).shows hshows
              rw [hunseen] at h
              cases h
            · intro hnone
              rw [← Bool.not_eq_true]
              intro hseenNow
              obtain ⟨shower, hmem, hshows⟩ := hseen hseenNow
              rw [hnone shower hmem] at hshows
              cases hshows

/-- Nothing is asked of a step which cannot be taken. -/
theorem alarmCondition_of_none {p : Pool LedWorld LedCallback}
    {event : PoolEvent String Unit Unit} (hnone : ledWorldSystem.step p event = none) :
    AlarmCondition p event := by
  cases event with
  | start host => trivial
  | environment event => trivial
  | advance index input =>
      intro callback hcallback hsets
      -- `led->SetValue` waits for nobody
      cases hthread : callback.thread with
      | setValue alertValue =>
          simp [ThreadSystem.step, Option.mem_def.mp hcallback, ledWorldSystem, ledAdvance,
            hthread] at hnone
      | testContext _ | connect _ | lock | getAlert | readText _ | unlock _ | build _ | done _
      | thrown | crashed =>
          rw [hthread] at hsets
          cases hsets

/-- What holds in every guarded run. -/
structure ShownInv (p : Pool LedWorld LedCallback) : Prop where
  world : WorldInv p
  seenBy : SeenBy p
  shown : LedShown p

theorem shownInv_initial (value : Int) : ShownInv (initialPool value) :=
  ⟨worldInv_initial value, fun hseen => (nomatch hseen), fun hseen => nomatch hseen⟩

theorem ShownInv.shown_iff {p q : Pool LedWorld LedCallback}
    {event : PoolEvent String Unit Unit} (h : ShownInv p)
    (hstep : ledWorldSystem.step p event = some q) : LedShown q ↔ AlarmCondition p event :=
  ledShown_step_iff h.world h.seenBy h.shown hstep

theorem ShownInv.step {p q : Pool LedWorld LedCallback} {event : PoolEvent String Unit Unit}
    (h : ShownInv p) (hcondition : AlarmCondition p event)
    (hstep : ledWorldSystem.step p event = some q) : ShownInv q :=
  ⟨h.world.step hstep, h.seenBy.step h.world hstep, (h.shown_iff hstep).mpr hcondition⟩

/-- **The alarm of the LED.**  Over any sequence of steps the LED goes on showing the alarm
which was seen if and only if every step meets the condition; and whoever starts after it
was seen posts it in any case. -/
theorem alarmShown_run_iff (value : Int) (events : List (PoolEvent String Unit Unit)) :
    (Throughout ledWorldSystem.step LedShown (initialPool value) events ↔
      Guarded ledWorldSystem.step AlarmCondition (initialPool value) events) ∧
    Throughout ledWorldSystem.step AlarmPosted (initialPool value) events := by
  constructor
  · have hinitial := shownInv_initial value
    exact (guarded_iff_throughout_of_enabled
      (fun _ _ _ hs hcondition hstep => ShownInv.step hs hcondition hstep)
      (fun _ _ _ hs hstep => ShownInv.shown_iff hs hstep)
      (fun _ _ _ hnone => alarmCondition_of_none hnone) hinitial hinitial.shown events).symm
  · intro before hbefore p hrun
    have hreaches : Reaches ledWorldSystem.step (initialPool value) p := ⟨before, hrun⟩
    exact (hreaches.invariant (fun _ _ _ hs hstep => WorldInv.step hs hstep)
      (worldInv_initial value)).posted

/-! ## Two callbacks -/

/-- The next steps of one callback. -/
def callbackSteps (index count : Nat) : List (PoolEvent String Unit Unit) :=
  List.replicate count (.advance index ())

/-- The alarm was raised, seen by one callback, and posted by a later one. -/
example : Guarded ledWorldSystem.step AlarmCondition (initialPool 3)
    (.environment () :: .start "192.168.0.10" :: callbackSteps 0 7 ++
      .start "192.168.0.10" :: callbackSteps 1 7) := by
  decide

/-- A callback has read `0` when the alarm is raised, and acts on it after another one has
set the LED to 2. -/
theorem stale_reading_sets_back :
    ¬∀ p, Reaches ledWorldSystem.step (initialPool 3) p → LedShown p ∧ AlarmPosted p := by
  intro h
  have hreaches : Reaches ledWorldSystem.step (initialPool 3)
      ⟨⟨⟨none, [(0, some 0), (1, some 1)], [.string "0", .string "1"], ⟨.live, 3⟩⟩, "1", true⟩,
        [⟨.build false, false, false⟩, ⟨.build true, false, true⟩]⟩ :=
    ⟨.start "192.168.0.10" :: callbackSteps 0 5 ++
      .environment () :: .start "192.168.0.10" :: callbackSteps 1 6 ++ callbackSteps 0 1,
      by decide⟩
  have hvalue := (h _ hreaches).1 rfl
  cases hvalue

end SmartLed
end FireEvacuation
