import FireEvacuation.Clients.CallbackThreads
import FireEvacuation.Speaker.AlarmLatch

/-!
# The latch among the threads of the speaker

The alarm latch was looked at with a live context, a probe which can be read and replies with
a text.  These callbacks are the threads of the speaker under such answers: every step of a
thread is a step of its callback, or changes nothing a callback knows of.
-/

namespace FireEvacuation
namespace Clients

open FireEvacuation.Core Redis Speaker

/-- The callback stands where the thread does, with the same variables.  It has no step for
the look at the context, and reads the text of a reply with the reply. -/
def SpeakerThread.Matches : SpeakerThread → Callback → Prop
  | .testLatch _, c => c.pc = .testLatch ∧ c.ret = false
  | .testContext _, c | .lock, c => c.pc = .lock ∧ c.ret = false
  | .readTemper, c => c.pc = .readTemper ∧ c.ret = false
  | .getAlert temperature, c => c.pc = .getAlert ∧ c.ret = false ∧ c.temperature = temperature
  | .readText temperature reply, c =>
      c.pc = .unlock ∧ c.ret = false ∧ c.temperature = temperature ∧
        reply.str = some c.alertValue
  | .unlock temperature alertValue, c =>
      c.pc = .unlock ∧ c.ret = false ∧ c.temperature = temperature ∧ c.alertValue = alertValue
  | .testSong temperature alertValue, c =>
      c.pc = .testSong ∧ c.ret = false ∧ c.temperature = temperature ∧ c.alertValue = alertValue
  | .writeSong, c => c.pc = .writeSong ∧ c.ret = false
  | .setAlert, c => c.pc = .setAlert ∧ c.ret = false
  | .writeLatch ret, c => c.pc = .writeLatch ∧ c.ret = ret
  | .lockValue, c => c.pc = .lockValue
  | .readValue, c => c.pc = .readValue
  | .unlockValue value, c => c.pc = .unlockValue ∧ c.sensorValue = value
  | .readLatch value, c => c.pc = .readLatch ∧ c.sensorValue = value
  | .done post, c => c.pc = .done ∧ c.post = some post
  | .connect _, _ | .thrown, _ | .crashed, _ => False

/-- The variables of the threads and those of the callbacks. -/
structure SharedMatches (s : Watched SpeakerVars) (shared : SpeakerShared) : Prop where
  live : s.vars.context = .live
  currentSong : shared.currentSong = s.vars.currentSong
  deviceAlertState : shared.deviceAlertState = s.vars.deviceAlertState
  temperLocked : shared.temperLocked = s.holder.isSome

/-- The probe can be read, and the reply has a text. -/
def Readable (answer : Answer) : Prop :=
  ∃ reading reply text, answer.reading = .ok reading ∧ answer.reply = some reply ∧
    reply.str = some text

section Steps

variable {self : Nat} {s t : Watched SpeakerVars} {thread next : SpeakerThread}
  {shared : SpeakerShared} {callback : Callback} {answer : Answer}

/-- A lock which is free in the threads is free among the callbacks. -/
theorem lock_of_speakerAdvance {after : SpeakerThread}
    (hlocked : shared.temperLocked = s.holder.isSome)
    (h : (s.lock self).map (fun u => (u, after)) = some (t, next)) :
    next = after ∧ ¬shared.temperLocked = true ∧
      (s.vars.context = .live → shared.currentSong = s.vars.currentSong →
        shared.deviceAlertState = s.vars.deviceAlertState →
          SharedMatches t { shared with temperLocked := true }) := by
  obtain ⟨u, hlock, hnext⟩ := Option.map_eq_some_iff.mp h
  cases hnext
  rw [Watched.lock] at hlock
  split at hlock
  · rename_i hfree
    cases hlock
    refine ⟨rfl, ?_, fun hlive hsong hlatch => ⟨hlive, hsong, hlatch, rfl⟩⟩
    rw [hlocked, hfree]
    exact Bool.false_ne_true
  · cases hlock

/-- **One step of a thread.** -/
theorem advance_of_speakerAdvance (hshared : SharedMatches s shared)
    (hthread : thread.Matches callback) (hanswer : Readable answer) (songChanged : Bool)
    (h : speakerAdvance self s thread answer = some (t, next)) :
    SharedMatches t shared ∧ next.Matches callback ∨
      ∃ reading text shared' callback',
        advance shared songChanged callback reading text = some (shared', callback') ∧
          SharedMatches t shared' ∧ next.Matches callback' := by
  obtain ⟨reading, reply, text, hreading, hreply, htext⟩ := hanswer
  obtain ⟨hlive, hsong, hlatch, hlocked⟩ := hshared
  obtain ⟨pc, temperature, alertValue, ret, sensorValue, post, lookedFirst, switched, late⟩ :=
    callback
  cases thread with
  | connect host | thrown | crashed => exact hthread.elim
  | testContext host =>
      rw [speakerAdvance, hlive] at h
      cases h
      exact Or.inl ⟨⟨hlive, hsong, hlatch, hlocked⟩, hthread⟩
  | readText read reply' =>
      obtain ⟨hpc, hret, htemperature, halert⟩ := hthread
      rw [speakerAdvance, halert] at h
      cases h
      exact Or.inl ⟨⟨hlive, hsong, hlatch, hlocked⟩, hpc, hret, htemperature, rfl⟩
  | testLatch host =>
      obtain ⟨rfl, hret⟩ := hthread
      cases h
      refine Or.inr ⟨reading, text, _, _, rfl, ⟨hlive, hsong, hlatch, hlocked⟩, ?_⟩
      rw [hlatch]
      cases s.vars.deviceAlertState with
      | true => exact rfl
      | false => exact ⟨rfl, hret⟩
  | lock =>
      obtain ⟨rfl, hret⟩ := hthread
      obtain ⟨hnext, hfree, hheld⟩ := lock_of_speakerAdvance hlocked h
      cases hnext
      exact Or.inr ⟨reading, text, _, _, if_neg hfree, hheld hlive hsong hlatch, rfl, hret⟩
  | lockValue =>
      cases hthread
      obtain ⟨hnext, hfree, hheld⟩ := lock_of_speakerAdvance hlocked h
      cases hnext
      exact Or.inr ⟨reading, text, _, _, if_neg hfree, hheld hlive hsong hlatch, rfl⟩
  | readTemper =>
      obtain ⟨rfl, hret⟩ := hthread
      rw [speakerAdvance, hreading] at h
      cases h
      exact Or.inr ⟨reading, text, _, _, rfl, ⟨hlive, hsong, hlatch, hlocked⟩, rfl, hret, rfl⟩
  | getAlert read =>
      obtain ⟨rfl, hret, htemperature⟩ := hthread
      rw [speakerAdvance, hreply] at h
      cases h
      exact Or.inr ⟨reading, text, _, _, rfl, ⟨hlive, hsong, hlatch, hlocked⟩, rfl, hret,
        htemperature, htext⟩
  | unlock read value =>
      obtain ⟨rfl, hret, htemperature, halert⟩ := hthread
      cases h
      exact Or.inr ⟨reading, text, _, _, rfl, ⟨hlive, hsong, hlatch, rfl⟩, rfl, hret,
        htemperature, halert⟩
  | testSong read value =>
      obtain ⟨rfl, hret, rfl, rfl⟩ := hthread
      cases h
      refine Or.inr ⟨reading, text, _, _, rfl, ⟨hlive, hsong, hlatch, hlocked⟩, ?_⟩
      rw [hsong]
      cases switchesSong s.vars.currentSong temperature alertValue with
      | true => exact ⟨rfl, hret⟩
      | false => exact ⟨rfl, hret⟩
  | writeSong =>
      obtain ⟨rfl, hret⟩ := hthread
      cases h
      exact Or.inr ⟨reading, text, _, _, rfl, ⟨hlive, rfl, hlatch, hlocked⟩, rfl, hret⟩
  | setAlert =>
      obtain ⟨rfl, hret⟩ := hthread
      rw [speakerAdvance, hreply] at h
      cases h
      exact Or.inr ⟨reading, text, _, _, rfl, ⟨hlive, hsong, hlatch, hlocked⟩, rfl, rfl⟩
  | writeLatch value =>
      obtain ⟨rfl, rfl⟩ := hthread
      cases h
      exact Or.inr ⟨reading, text, _, _, rfl, ⟨hlive, hsong, rfl, hlocked⟩, rfl⟩
  | readValue =>
      cases hthread
      rw [speakerAdvance, hreading] at h
      cases h
      exact Or.inr ⟨reading, text, _, _, rfl, ⟨hlive, hsong, hlatch, hlocked⟩, rfl, rfl⟩
  | unlockValue value =>
      obtain ⟨rfl, hvalue⟩ := hthread
      cases h
      exact Or.inr ⟨reading, text, _, _, rfl, ⟨hlive, hsong, hlatch, rfl⟩, rfl, hvalue⟩
  | readLatch value =>
      obtain ⟨rfl, rfl⟩ := hthread
      cases h
      refine Or.inr ⟨reading, text, _, _, rfl, ⟨hlive, hsong, hlatch, hlocked⟩, rfl, ?_⟩
      rw [hlatch]
  | done post' => cases h

end Steps

/-! ## Runs -/

/-- Every thread has its callback. -/
structure PoolMatches (p : Pool (Watched SpeakerVars) SpeakerThread) (s : SpeakerState) :
    Prop where
  shared : SharedMatches p.shared s.shared
  count : p.threads.length = s.callbacks.length
  threads : ∀ (index : Nat) (thread : SpeakerThread) (callback : Callback),
    p.threads[index]? = some thread → s.callbacks[index]? = some callback →
      thread.Matches callback

/-- The answers the latch was looked at with. -/
def AnswersReadable : PoolEvent String Answer Empty → Prop
  | .advance _ answer => Readable answer
  | .start _ | .environment _ => True

section Runs

variable {p q : Pool (Watched SpeakerVars) SpeakerThread} {s : SpeakerState}

/-- A thread starts, and so does its callback. -/
theorem PoolMatches.start (h : PoolMatches p s) {host : String}
    (hstep : speakerSystem.step p (.start host) = some q) :
    ∃ t, Reaches speakerStep s t ∧ PoolMatches q t := by
  cases hstep
  refine ⟨_, ⟨[.begin], rfl⟩, h.shared, by simp [h.count], fun index thread callback hp hs => ?_⟩
  rcases Nat.lt_or_ge index p.threads.length with hlt | hge
  · rw [List.getElem?_append_left hlt] at hp
    rw [List.getElem?_append_left (h.count ▸ hlt)] at hs
    exact h.threads index thread callback hp hs
  · rw [List.getElem?_append_right hge] at hp
    rw [List.getElem?_append_right (h.count ▸ hge), ← h.count] at hs
    have hzero := (List.getElem?_eq_some_iff.mp hp).1
    rw [List.length_singleton, Nat.lt_one_iff] at hzero
    rw [hzero] at hp hs
    cases hp
    cases hs
    exact ⟨rfl, rfl⟩

/-- A thread takes a step, and its callback one or none. -/
theorem PoolMatches.advance (h : PoolMatches p s) {index : Nat} {answer : Answer}
    (hanswer : Readable answer) (hstep : speakerSystem.step p (.advance index answer) = some q) :
    ∃ t, Reaches speakerStep s t ∧ PoolMatches q t := by
  obtain ⟨thread, shared, next, hthread, hadvance, rfl⟩ := ThreadSystem.step_advance hstep
  have hlt : index < s.callbacks.length :=
    h.count ▸ (List.getElem?_eq_some_iff.mp hthread).1
  have hcallback : s.callbacks[index]? = some s.callbacks[index] := List.getElem?_eq_getElem hlt
  have hmatches := h.threads index thread _ hthread hcallback
  -- the threads at the other positions stay, and so do their callbacks
  have hothers : ∀ (callbacks : List Callback) (after : Callback),
      (∀ other, other ≠ index → callbacks[other]? = s.callbacks[other]?) →
      (∀ callback, callbacks[index]? = some callback → callback = after) →
      next.Matches after → ∀ (other : Nat) (thread : SpeakerThread) (callback : Callback),
        (p.threads.set index next)[other]? = some thread → callbacks[other]? = some callback →
          thread.Matches callback := by
    intro callbacks after hother hsame hnext other thread' callback hp hs
    by_cases heq : index = other
    · subst heq
      rw [List.getElem?_set_self (h.count ▸ hlt)] at hp
      cases hp
      rw [hsame callback hs]
      exact hnext
    · rw [List.getElem?_set_ne heq] at hp
      rw [hother other (Ne.symm heq)] at hs
      exact h.threads other thread' callback hp hs
  rcases advance_of_speakerAdvance h.shared hmatches hanswer s.songChanged hadvance with
    ⟨hshared, hnext⟩ | ⟨reading, text, shared', after, hafter, hshared, hnext⟩
  · refine ⟨s, Reaches.refl s, hshared, by rw [List.length_set, h.count], ?_⟩
    refine hothers s.callbacks _ (fun _ _ => rfl) (fun callback hs => ?_) hnext
    exact Option.some.inj (hs.symm.trans hcallback)
  · have hstep' : speakerStep s (.advance index reading text) = some {
        shared := shared'
        callbacks := s.callbacks.set index after
        switchedFinished := s.switchedFinished || (after.pc = .done && after.switched) } := by
      rw [speakerStep, hcallback]
      dsimp only
      rw [hafter]
    refine ⟨_, Reaches.of_step hstep', hshared, by rw [List.length_set, List.length_set, h.count], ?_⟩
    refine hothers _ after (fun other hne => List.getElem?_set_ne hne.symm) (fun callback hs => ?_)
      hnext
    rw [List.getElem?_set_self hlt] at hs
    exact (Option.some.inj hs).symm

/-- **The latch among the threads.**  A run of the threads with a live context and readable
answers is a run of the callbacks. -/
theorem poolMatches_of_run {events : List (PoolEvent String Answer Empty)}
    (hreadable : ∀ event ∈ events, AnswersReadable event)
    (hrun : run speakerSystem.step ⟨.initial ⟨.live, normalSong, false⟩, []⟩ events = some q) :
    ∃ t, Reaches speakerStep .initial t ∧ PoolMatches q t := by
  have hguard : ∀ (events : List (PoolEvent String Answer Empty)) p,
      (∀ event ∈ events, AnswersReadable event) →
        Guarded speakerSystem.step (fun _ event => AnswersReadable event) p events := by
    intro events
    induction events with
    | nil => exact fun _ _ => trivial
    | cons event events ih =>
        exact fun p h => ⟨h event List.mem_cons_self,
          fun u _ => ih u fun e he => h e (List.mem_cons_of_mem _ he)⟩
  refine (hguard events _ hreadable).simulated (fun p event q s h hevent hstep => ?_) hrun ?_
  · cases event with
    | start host => exact h.start hstep
    | advance index answer => exact h.advance hevent hstep
    | environment event => exact nomatch event
  · exact ⟨⟨rfl, rfl, rfl, rfl⟩, rfl, fun index thread callback hp => by simp at hp⟩

end Runs

end Clients
end FireEvacuation
