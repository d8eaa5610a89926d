import Mathlib.Data.List.Induction
import Telemetry.Exporter.Restart

/-! Lifetimes, one after the other. Of what happens in a lifetime only three things decide what comes after it: the
    first end of the pipeline, the first end of the server, and what ended the waiting, which is either a signal or
    the notice that a task has ended. -/

namespace Telemetry
namespace Lifetime

/-! ### What the events of a lifetime say -/

/-- Whether a task ends. -/
def Event.isEnd : Event → Bool
  | .pipelineEnds _ => true
  | .serverEnds _ => true
  | _ => false

/-- How the pipeline ends. -/
def pipelineEnd? (es : List Event) : Option Delivery.Ending :=
  es.findSome? fun
    | .pipelineEnds e => some e
    | _ => none

/-- How the server ends. -/
def serverEnd? (es : List Event) : Option Delivery.Ending :=
  es.findSome? fun
    | .serverEnds e => some e
    | _ => none

/-- The waiting goes on: there was no signal, and no notice of the end of a task. -/
structure Waits (es : List Event) : Prop where
  signal : Event.signal ∉ es
  notice : ∀ before after, es = before ++ .notice :: after → ∀ e ∈ before, e.isEnd = false

/-- The waiting ended with a signal. -/
def TakesSignal (es : List Event) : Prop := ∃ before after, es = before ++ .signal :: after ∧ Waits before

/-- The waiting ended with the notice that a task had ended. -/
def NoticesEnd (es : List Event) : Prop :=
  ∃ before after, es = before ++ .notice :: after ∧ Waits before ∧ ∃ e ∈ before, e.isEnd = true

variable {x : Lifetime} {e : Event} {es : List Event} {queue : List Signal}

theorem Waits.nil : Waits [] := ⟨List.not_mem_nil, by simp⟩

theorem Waits.of_concat (h : Waits (es ++ [e])) :
    Waits es ∧ e ≠ .signal ∧ (e = .notice → ∀ a ∈ es, a.isEnd = false) := by
  refine ⟨⟨fun hmem => h.signal (List.mem_append_left _ hmem), fun before after hsplit => ?_⟩, ?_, ?_⟩
  · refine h.notice before (after ++ [e]) ?_
    rw [hsplit, List.append_assoc, List.cons_append]
  · rintro rfl
    exact h.signal List.mem_concat_self
  · rintro rfl
    exact h.notice es [] rfl

theorem Waits.concat (h : Waits es) (hsignal : e ≠ .signal) (hnotice : e = .notice → ∀ a ∈ es, a.isEnd = false) :
    Waits (es ++ [e]) := by
  refine ⟨fun hmem => ?_, fun before after hsplit => ?_⟩
  · rcases List.mem_append.mp hmem with hmem | hmem
    · exact h.signal hmem
    · exact hsignal (List.mem_singleton.mp hmem).symm
  · rcases List.eq_nil_or_concat after with rfl | ⟨after, last, rfl⟩
    · obtain ⟨rfl, hlast⟩ := List.append_inj' hsplit rfl
      exact hnotice (List.cons.inj hlast).1
    · rw [List.concat_eq_append, ← List.cons_append, ← List.append_assoc] at hsplit
      exact h.notice before after (List.append_inj' hsplit rfl).1

theorem TakesSignal.append (h : TakesSignal es) (es' : List Event) : TakesSignal (es ++ es') := by
  obtain ⟨before, after, rfl, hwaits⟩ := h
  exact ⟨before, after ++ es', by rw [List.append_assoc, List.cons_append], hwaits⟩

theorem NoticesEnd.append (h : NoticesEnd es) (es' : List Event) : NoticesEnd (es ++ es') := by
  obtain ⟨before, after, rfl, hwaits, hend⟩ := h
  exact ⟨before, after ++ es', by rw [List.append_assoc, List.cons_append], hwaits, hend⟩

/-- The waiting goes on, or it has ended in one of two ways. -/
theorem waits_or_over (es : List Event) : Waits es ∨ TakesSignal es ∨ NoticesEnd es := by
  induction es using List.reverseRecOn with
  | nil => exact .inl .nil
  | append_singleton es e ih =>
    rcases ih with hwaits | htakes | hnotices
    · by_cases hsignal : e = .signal
      · subst hsignal
        exact .inr (.inl ⟨es, [], rfl, hwaits⟩)
      by_cases hnotice : e = .notice → ∀ a ∈ es, a.isEnd = false
      · exact .inl (hwaits.concat hsignal hnotice)
      · obtain ⟨rfl, hends⟩ := Classical.not_imp.mp hnotice
        simp only [Classical.not_forall, Bool.not_eq_false] at hends
        obtain ⟨a, ha, hend⟩ := hends
        exact .inr (.inr ⟨es, [], rfl, hwaits, a, ha, hend⟩)
    · exact .inr (.inl (htakes.append _))
    · exact .inr (.inr (hnotices.append _))

/-! ### What becomes of a lifetime -/

theorem steps_append (x : Lifetime) (es es' : List Event) : x.steps (es ++ es') = (x.steps es).steps es' :=
  List.foldl_append

theorem steps_cons (x : Lifetime) (e : Event) (es : List Event) : x.steps (e :: es) = (x.step e).steps es := rfl

/-- The first end of the pipeline counts. -/
theorem pipeline_steps (x : Lifetime) (es : List Event) : (x.steps es).pipeline = x.pipeline.or (pipelineEnd? es) := by
  induction es generalizing x with
  | nil => exact Option.or_none.symm
  | cons e es ih =>
    rw [steps_cons, ih, pipelineEnd?, pipelineEnd?, List.findSome?_cons]
    cases e with
    | pipelineEnds e => cases hpipeline : x.pipeline <;> simp [step, hpipeline]
    | signal | notice | serverEnds e => simp only [step, apply_ite Lifetime.pipeline, ite_self]

/-- The first end of the server counts. -/
theorem server_steps (x : Lifetime) (es : List Event) : (x.steps es).server = x.server.or (serverEnd? es) := by
  induction es generalizing x with
  | nil => exact Option.or_none.symm
  | cons e es ih =>
    rw [steps_cons, ih, serverEnd?, serverEnd?, List.findSome?_cons]
    cases e with
    | serverEnds e => cases hserver : x.server <;> simp [step, hserver]
    | signal | notice | pipelineEnds e => simp only [step, apply_ite Lifetime.server, ite_self]

/-- There is a result once the waiting and both tasks have ended. -/
theorem result?_eq (x : Lifetime) :
    x.result? =
      x.awaited.bind fun a => x.pipeline.bind fun p => x.server.map fun s => p.bind fun _ => s.map fun _ => a := by
  rw [result?]
  rcases x.awaited with _ | a <;> rcases x.pipeline with _ | _ | ⟨⟩ <;> rcases x.server with _ | _ | ⟨⟩ <;> rfl

theorem result?_steps (queue : List Signal) (es : List Event) :
    (steps { queue } es).result? =
      (steps { queue } es).awaited.bind fun a => (pipelineEnd? es).bind fun p => (serverEnd? es).map fun s =>
        p.bind fun _ => s.map fun _ => a := by
  rw [result?_eq, pipeline_steps, server_steps, Option.none_or, Option.none_or]

/-- Once the waiting has ended, no signal is taken. -/
theorem steps_of_awaited (h : x.awaited.isSome = true) (es : List Event) :
    (x.steps es).awaited = x.awaited ∧ (x.steps es).queue = x.queue := by
  induction es generalizing x with
  | nil => exact ⟨rfl, rfl⟩
  | cons e es ih =>
    have hstep : (x.step e).awaited = x.awaited ∧ (x.step e).queue = x.queue := by
      cases e <;> rw [step] <;> split <;> simp_all
    obtain ⟨hawaited, hqueue⟩ := ih (x := x.step e) (by rw [hstep.1, h])
    exact ⟨hawaited.trans hstep.1, hqueue.trans hstep.2⟩

/-- What has ended in a lifetime has asked for the cancellation that its tasks share. -/
structure Shared (x : Lifetime) : Prop where
  awaited : x.awaited.isSome = true → x.cancelled = true
  pipeline : x.pipeline.isSome = true → x.cancelled = true
  server : x.server.isSome = true → x.cancelled = true

theorem Shared.start (queue : List Signal) : Shared { queue } := ⟨nofun, nofun, nofun⟩

theorem Shared.cancelled_step (h : Shared x) (e : Event) :
    (x.step e).cancelled = true ↔ x.cancelled = true ∨ e ≠ .notice := by
  cases e with
  | signal =>
    rw [step]
    split <;> rename_i hawaited
    · simp [h.awaited hawaited]
    · simp
  | notice => rw [step]; split <;> simp
  | pipelineEnds e =>
    rw [step]
    split <;> rename_i hpipeline
    · simp [h.pipeline hpipeline]
    · simp
  | serverEnds e =>
    rw [step]
    split <;> rename_i hserver
    · simp [h.server hserver]
    · simp

theorem Shared.step (h : Shared x) (e : Event) : Shared (x.step e) := by
  by_cases hnotice : e = .notice
  · subst hnotice
    rw [Lifetime.step]
    split <;> rename_i hwaiting
    · exact h
    · have hcancelled : x.cancelled = true := by
        rw [Bool.not_eq_true, Bool.or_eq_false_iff, Bool.not_eq_false'] at hwaiting
        exact hwaiting.2
      exact ⟨fun _ => hcancelled, h.pipeline, h.server⟩
  · have hcancelled := (h.cancelled_step e).mpr (.inr hnotice)
    exact ⟨fun _ => hcancelled, fun _ => hcancelled, fun _ => hcancelled⟩

/-- A signal and the end of a task ask for the cancellation, and nothing else does. -/
theorem Shared.cancelled_steps (h : Shared x) (es : List Event) :
    (x.steps es).cancelled = true ↔ x.cancelled = true ∨ ∃ e ∈ es, e ≠ .notice := by
  induction es generalizing x with
  | nil => simp [steps]
  | cons e es ih =>
    rw [steps_cons, ih (h.step e), h.cancelled_step e, or_assoc]
    simp

theorem cancelled_steps_iff (queue : List Signal) (es : List Event) :
    (steps { queue } es).cancelled = true ↔ ∃ e ∈ es, e ≠ .notice :=
  ((Shared.start queue).cancelled_steps es).trans (or_iff_right Bool.false_ne_true)

theorem Event.isEnd_iff : e.isEnd = true ↔ e ≠ .signal ∧ e ≠ .notice := by cases e <;> simp [isEnd]

/-- A notice is taken of a cancellation only. -/
theorem steps_of_waits (h : Waits es) (queue : List Signal) :
    (steps { queue } es).awaited = none ∧ (steps { queue } es).queue = queue := by
  induction es using List.reverseRecOn with
  | nil => exact ⟨rfl, rfl⟩
  | append_singleton es e ih =>
    obtain ⟨hwaits, hsignal, hnotice⟩ := h.of_concat
    obtain ⟨hawaited, hqueue⟩ := ih hwaits
    have hcancelled := cancelled_steps_iff queue es
    rw [steps_append, steps_cons, steps, List.foldl_nil]
    generalize steps { queue } es = x at hawaited hqueue hcancelled ⊢
    cases e with
    | signal => exact absurd rfl hsignal
    | notice =>
      -- Had something asked for the cancellation before, it would be a signal or an end, and there was neither.
      have hrunning : x.cancelled = false := by
        refine Bool.eq_false_iff.mpr fun h => ?_
        obtain ⟨e, he, hne⟩ := hcancelled.mp h
        have hend : e.isEnd = true := Event.isEnd_iff.mpr ⟨fun heq => hwaits.signal (heq ▸ he), hne⟩
        rw [hnotice rfl e he] at hend
        cases hend
      simpa [step, hrunning] using ⟨hawaited, hqueue⟩
    | pipelineEnds e | serverEnds e =>
      rw [step]
      split <;> exact ⟨hawaited, hqueue⟩

theorem steps_of_takesSignal (h : TakesSignal es) (queue : List Signal) :
    (steps { queue } es).awaited = some (some (queue.head?.getD .terminate)) ∧
      (steps { queue } es).queue = queue.tail := by
  obtain ⟨before, after, rfl, hwaits⟩ := h
  obtain ⟨hawaited, hqueue⟩ := steps_of_waits hwaits queue
  rw [steps_append, steps_cons]
  generalize steps { queue } before = x at hawaited hqueue ⊢
  have hstep : x.step .signal = { x with queue := x.queue.tail, awaited := some (some x.next), cancelled := true } := by
    simp [step, hawaited]
  obtain ⟨hawaited', hqueue'⟩ := steps_of_awaited (x := x.step .signal) (by rw [hstep]; rfl) after
  rw [hawaited', hqueue', hstep, next, hqueue]
  exact ⟨rfl, rfl⟩

theorem steps_of_noticesEnd (h : NoticesEnd es) (queue : List Signal) :
    (steps { queue } es).awaited = some none ∧ (steps { queue } es).queue = queue := by
  obtain ⟨before, after, rfl, hwaits, e, he, hend⟩ := h
  obtain ⟨hawaited, hqueue⟩ := steps_of_waits hwaits queue
  have hcancelled := (cancelled_steps_iff queue before).mpr ⟨e, he, (Event.isEnd_iff.mp hend).2⟩
  rw [steps_append, steps_cons]
  generalize steps { queue } before = x at hawaited hqueue hcancelled ⊢
  have hstep : x.step .notice = { x with awaited := some none } := by simp [step, hawaited, hcancelled]
  obtain ⟨hawaited', hqueue'⟩ := steps_of_awaited (x := x.step .notice) (by rw [hstep]; rfl) after
  rw [hawaited', hqueue', hstep]
  exact ⟨rfl, hqueue⟩

theorem exists_awaited (h : TakesSignal es ∨ NoticesEnd es) (queue : List Signal) :
    ∃ a, (steps { queue } es).awaited = some a := by
  rcases h with htakes | hnotices
  · exact ⟨_, (steps_of_takesSignal htakes queue).1⟩
  · exact ⟨_, (steps_of_noticesEnd hnotices queue).1⟩

end Lifetime

/-! ### What comes after a lifetime -/

/-- What comes after a lifetime: another one, or an end. -/
inductive Sequel where
  | restart
  | stop
  | failure (r : Report)
  deriving Repr

/-- How the exporter ends, if it does. -/
def Sequel.ending : Sequel → Option (Except Report Unit)
  | restart => none
  | stop => some (.ok ())
  | failure r => some (.error r)

namespace Course
open Lifetime (TakesSignal NoticesEnd Waits pipelineEnd? serverEnd?)

/-- What a lifetime leads to, if `s` is the signal that waits for it. -/
inductive LeadsTo (c : Course) (s : Signal) : Sequel → Prop
  /-- The failure to start comes before everything else. -/
  | unstarted {r : Report} (start : c.start = .error r) : LeadsTo c s (.failure r)
  /-- The failure of the pipeline counts, whatever ended the waiting and however the server ended. -/
  | pipelineFailed {r : Report} (start : c.start = .ok ()) (past : TakesSignal c.events ∨ NoticesEnd c.events)
    (pipeline : pipelineEnd? c.events = some (.error r)) (server : (serverEnd? c.events).isSome = true) :
    LeadsTo c s (.failure r)
  /-- So does the failure of the server, if the pipeline ended well. -/
  | serverFailed {r : Report} (start : c.start = .ok ()) (past : TakesSignal c.events ∨ NoticesEnd c.events)
    (pipeline : pipelineEnd? c.events = some (.ok ())) (server : serverEnd? c.events = some (.error r)) :
    LeadsTo c s (.failure r)
  /-- Both tasks ended well, but one of them by itself. -/
  | unasked (start : c.start = .ok ()) (notices : NoticesEnd c.events)
    (pipeline : pipelineEnd? c.events = some (.ok ())) (server : serverEnd? c.events = some (.ok ())) :
    LeadsTo c s (.failure Service.unasked)
  | stopped (start : c.start = .ok ()) (takes : TakesSignal c.events) (signal : s ≠ .hangup)
    (pipeline : pipelineEnd? c.events = some (.ok ())) (server : serverEnd? c.events = some (.ok ())) :
    LeadsTo c s .stop
  | restarted (start : c.start = .ok ()) (takes : TakesSignal c.events) (signal : s = .hangup)
    (pipeline : pipelineEnd? c.events = some (.ok ())) (server : serverEnd? c.events = some (.ok ())) :
    LeadsTo c s .restart

/-- The lifetime could not start, or its waiting and both its tasks have ended. -/
def IsOver (c : Course) : Prop :=
  (∃ r, c.start = .error r) ∨
    (TakesSignal c.events ∨ NoticesEnd c.events) ∧ (pipelineEnd? c.events).isSome = true ∧
      (serverEnd? c.events).isSome = true

/-- A signal is taken in the lifetime. -/
def Takes (c : Course) : Prop := c.start = .ok () ∧ TakesSignal c.events

/-- What is left of the queue after the lifetime. -/
def rest (c : Course) (queue : List Signal) : List Signal :=
  match c.start with
  | .error _ => queue
  | .ok () => (Lifetime.steps { queue } c.events).queue

variable {c : Course} {s : Signal} {q q' : Sequel} {queue : List Signal}

theorem not_takesSignal_of_noticesEnd {es : List Lifetime.Event} (h : NoticesEnd es) : ¬TakesSignal es := by
  intro htakes
  have hsignal := (Lifetime.steps_of_takesSignal htakes []).1
  rw [(Lifetime.steps_of_noticesEnd h []).1] at hsignal
  cases hsignal

theorem rest_of_takes (h : c.Takes) (queue : List Signal) : c.rest queue = queue.tail := by
  rw [rest, h.1]
  exact (Lifetime.steps_of_takesSignal h.2 queue).2

theorem rest_of_not_takes (h : ¬c.Takes) (queue : List Signal) : c.rest queue = queue := by
  rw [rest]
  split
  · rfl
  · rename_i hstart
    rcases Lifetime.waits_or_over c.events with hwaits | htakes | hnotices
    · exact (Lifetime.steps_of_waits hwaits queue).2
    · exact absurd ⟨hstart, htakes⟩ h
    · exact (Lifetime.steps_of_noticesEnd hnotices queue).2

/-! ### The sequel of a lifetime -/

/-- A lifetime leads to one thing only. -/
theorem LeadsTo.unique (h : c.LeadsTo s q) (h' : c.LeadsTo s q') : q = q' := by
  have hnotices := @not_takesSignal_of_noticesEnd c.events
  cases h <;> cases h' <;> simp_all

theorem LeadsTo.isOver (h : c.LeadsTo s q) : c.IsOver := by
  cases h with
  | unstarted hstart => exact .inl ⟨_, hstart⟩
  | pipelineFailed hstart hover hpipeline hserver => exact .inr ⟨hover, by rw [hpipeline]; rfl, hserver⟩
  | serverFailed hstart hover hpipeline hserver => exact .inr ⟨hover, by rw [hpipeline]; rfl, by rw [hserver]; rfl⟩
  | unasked hstart hnotices hpipeline hserver =>
    exact .inr ⟨.inr hnotices, by rw [hpipeline]; rfl, by rw [hserver]; rfl⟩
  | stopped hstart htakes hsignal hpipeline hserver | restarted hstart htakes hsignal hpipeline hserver =>
    exact .inr ⟨.inl htakes, by rw [hpipeline]; rfl, by rw [hserver]; rfl⟩

/-- A lifetime that is over leads to something. -/
theorem IsOver.exists_leadsTo (h : c.IsOver) (s : Signal) : ∃ q, c.LeadsTo s q := by
  rcases hstart : c.start with r | ⟨⟩
  · exact ⟨_, .unstarted hstart⟩
  obtain ⟨r, herror⟩ | ⟨hover, hpipeline, hserver⟩ := h
  · rw [hstart] at herror
    cases herror
  obtain ⟨pipeline, hpipeline⟩ := Option.isSome_iff_exists.mp hpipeline
  obtain ⟨server, hserver⟩ := Option.isSome_iff_exists.mp hserver
  rcases pipeline with r | ⟨⟩
  · exact ⟨_, .pipelineFailed hstart hover hpipeline (by rw [hserver]; rfl)⟩
  rcases server with r | ⟨⟩
  · exact ⟨_, .serverFailed hstart hover hpipeline hserver⟩
  rcases hover with htakes | hnotices
  · by_cases hsignal : s = .hangup
    · exact ⟨_, .restarted hstart htakes hsignal hpipeline hserver⟩
    · exact ⟨_, .stopped hstart htakes hsignal hpipeline hserver⟩
  · exact ⟨_, .unasked hstart hnotices hpipeline hserver⟩

end Course

namespace Service
open Course (LeadsTo IsOver Takes)
open Lifetime (TakesSignal NoticesEnd Waits pipelineEnd? serverEnd?)

variable {c : Course} {cs : List Course} {q : Sequel} {queue : List Signal}

/-- The signal that waits for the lifetime of a number, if each lifetime before it takes one. -/
def signalFor (queue : List Signal) (n : Nat) : Signal := queue[n]?.getD .terminate

theorem signalFor_zero (queue : List Signal) : signalFor queue 0 = queue.head?.getD .terminate := by
  rw [signalFor, List.head?_eq_getElem?]

theorem signalFor_tail (queue : List Signal) (n : Nat) : signalFor queue.tail n = signalFor queue (n + 1) := by
  rw [signalFor, signalFor, List.getElem?_tail]

theorem restarts_iff {s : Signal} : s.restarts = true ↔ s = .hangup := by cases s <;> simp [Signal.restarts]

/-- As long as a lifetime is not over, nothing follows. -/
theorem run_cons_of_not_isOver (h : ¬c.IsOver) (cs : List Course) :
    run (c :: cs) queue = { lifetimes := 1, queue := c.rest queue, ending := none } := by
  rcases hstart : c.start with r | ⟨⟩
  · exact absurd (.inl ⟨r, hstart⟩) h
  have hnone : (Lifetime.steps { queue } c.events).result? = none := by
    rw [Lifetime.result?_steps]
    rcases Lifetime.waits_or_over c.events with hwaits | hover
    · rw [(Lifetime.steps_of_waits hwaits queue).1, Option.bind_none]
    · have hends : ¬((pipelineEnd? c.events).isSome = true ∧ (serverEnd? c.events).isSome = true) :=
        fun hends => h (.inr ⟨hover, hends⟩)
      cases hpipeline : pipelineEnd? c.events <;> cases hserver : serverEnd? c.events <;> simp_all
  rw [run, Course.rest, hstart]
  dsimp only
  rw [hnone]
  rfl

/-- What a lifetime leads to, as the exporter looks at it. -/
theorem verdict_of_leadsTo (hstart : c.start = .ok ()) (h : c.LeadsTo (signalFor queue 0) q) :
    (Lifetime.steps { queue } c.events).result?.map verdict = some q.ending := by
  rw [signalFor_zero] at h
  rw [Lifetime.result?_steps]
  cases h with
  | unstarted herror =>
    rw [hstart] at herror
    cases herror
  | pipelineFailed _ hover hpipeline hserver =>
    obtain ⟨server, hserver⟩ := Option.isSome_iff_exists.mp hserver
    obtain ⟨a, hawaited⟩ := Lifetime.exists_awaited hover queue
    rw [hpipeline, hserver, hawaited]
    rfl
  | serverFailed _ hover hpipeline hserver =>
    obtain ⟨a, hawaited⟩ := Lifetime.exists_awaited hover queue
    rw [hpipeline, hserver, hawaited]
    rfl
  | unasked _ hnotices hpipeline hserver =>
    rw [hpipeline, hserver, (Lifetime.steps_of_noticesEnd hnotices queue).1]
    rfl
  | stopped _ htakes hsignal hpipeline hserver =>
    rw [hpipeline, hserver, (Lifetime.steps_of_takesSignal htakes queue).1]
    exact congrArg some (if_neg (mt restarts_iff.mp hsignal))
  | restarted _ htakes hsignal hpipeline hserver =>
    rw [hpipeline, hserver, (Lifetime.steps_of_takesSignal htakes queue).1]
    exact congrArg some (if_pos (restarts_iff.mpr hsignal))

/-- Unless a lifetime leads to another one, it is the last. -/
theorem run_cons_of_leadsTo (h : c.LeadsTo (signalFor queue 0) q) (hq : q ≠ .restart) (cs : List Course) :
    run (c :: cs) queue = { lifetimes := 1, queue := c.rest queue, ending := q.ending } := by
  rcases hstart : c.start with r | ⟨⟩
  · obtain rfl := h.unique (.unstarted hstart)
    rw [run, Course.rest, hstart]
    rfl
  · have hverdict := verdict_of_leadsTo hstart h
    rw [run, Course.rest, hstart]
    dsimp only
    rw [hverdict]
    cases q with
    | restart => exact absurd rfl hq
    | stop | failure r => rfl

theorem run_cons_of_restart (h : c.LeadsTo (signalFor queue 0) .restart) (cs : List Course) :
    run (c :: cs) queue =
      { lifetimes := (run cs queue.tail).lifetimes + 1
        queue := (run cs queue.tail).queue
        ending := (run cs queue.tail).ending } := by
  obtain ⟨hstart, htakes⟩ : c.Takes := by
    cases h with
    | restarted hstart htakes => exact ⟨hstart, htakes⟩
  have hrest := Course.rest_of_takes ⟨hstart, htakes⟩ queue
  rw [Course.rest, hstart] at hrest
  have hverdict := verdict_of_leadsTo hstart h
  rw [run, hstart]
  dsimp only at hrest ⊢
  rw [hverdict, hrest]
  rfl

/-! ### All lifetimes -/

/-- What becomes of the exporter follows from what its lifetimes lead to, one after the other. -/
structure Follows (cs : List Course) (queue : List Signal) (x : Service) : Prop where
  begins : x.lifetimes = 0 ↔ cs = []
  length_le : x.lifetimes ≤ cs.length
  goesOn : ∀ n c, n < x.lifetimes → cs[n]? = some c →
    (n + 1 < x.lifetimes ↔ n + 1 < cs.length ∧ c.LeadsTo (signalFor queue n) .restart)
  ends : ∀ n c, n < x.lifetimes → cs[n]? = some c → ∀ result,
    (n + 1 = x.lifetimes ∧ x.ending = some result ↔ ∃ q, c.LeadsTo (signalFor queue n) q ∧ q.ending = some result)
  idle : x.lifetimes = 0 → x.ending = none ∧ x.queue = queue
  queue : ∀ n c, n + 1 = x.lifetimes → cs[n]? = some c →
    (c.Takes → x.queue = queue.drop (n + 1)) ∧ (¬c.Takes → x.queue = queue.drop n)

namespace Follows

theorem nil (queue : List Signal) : Follows [] queue (run [] queue) where
  begins := ⟨fun _ => rfl, fun _ => rfl⟩
  length_le := Nat.le_refl 0
  goesOn := nofun
  ends := nofun
  idle _ := ⟨rfl, rfl⟩
  queue := nofun

/-- A last lifetime. -/
theorem last {ending : Option (Except Report Unit)} (hrestart : ¬c.LeadsTo (signalFor queue 0) .restart)
    (hending : ∀ result, ending = some result ↔ ∃ q, c.LeadsTo (signalFor queue 0) q ∧ q.ending = some result)
    (cs : List Course) :
    Follows (c :: cs) queue { lifetimes := 1, queue := c.rest queue, ending } where
  begins := by simp
  length_le := by simp
  goesOn := by
    rintro n c' hn hc
    obtain rfl := Nat.lt_one_iff.mp hn
    obtain rfl : c = c' := Option.some.inj hc
    simp [hrestart]
  ends := by
    rintro n c' hn hc result
    obtain rfl := Nat.lt_one_iff.mp hn
    obtain rfl : c = c' := Option.some.inj hc
    simp [← hending]
  idle := nofun
  queue := by
    rintro n c' hn hc
    obtain rfl : n = 0 := Nat.succ.inj hn
    obtain rfl : c = c' := Option.some.inj hc
    exact ⟨fun htakes => (Course.rest_of_takes htakes queue).trans List.drop_one.symm,
      fun htakes => Course.rest_of_not_takes htakes queue⟩

/-- A lifetime that leads to another one, in front of those that follow it. -/
theorem cons {x : Service} (h : Follows cs queue.tail x) (hrestart : c.LeadsTo (signalFor queue 0) .restart) :
    Follows (c :: cs) queue { lifetimes := x.lifetimes + 1, queue := x.queue, ending := x.ending } where
  begins := by simp
  length_le := Nat.succ_le_succ h.length_le
  goesOn := by
    rintro (_ | n) c' hn hc
    · obtain rfl : c = c' := Option.some.inj hc
      have hbegins : 0 < x.lifetimes ↔ 0 < cs.length := by
        rw [Nat.pos_iff_ne_zero, List.length_pos_iff, ne_eq, h.begins]
      simpa [hrestart] using hbegins
    · have hgoesOn := h.goesOn n c' (Nat.lt_of_succ_lt_succ hn) hc
      rw [signalFor_tail] at hgoesOn
      simpa using hgoesOn
  ends := by
    rintro (_ | n) c' hn hc result
    · obtain rfl : c = c' := Option.some.inj hc
      constructor
      · rintro ⟨hlast, hending⟩
        -- Were the first lifetime the last, nothing would have followed yet, and there would be no ending.
        have hzero : x.lifetimes = 0 := (Nat.succ.inj hlast).symm
        rw [(h.idle hzero).1] at hending
        cases hending
      · rintro ⟨q, hq, hending⟩
        rw [← hrestart.unique hq] at hending
        cases hending
    · have hends := h.ends n c' (Nat.lt_of_succ_lt_succ hn) hc result
      rw [signalFor_tail] at hends
      simpa using hends
  idle := nofun
  queue := by
    rintro (_ | n) c' hn hc
    · obtain rfl : c = c' := Option.some.inj hc
      have hzero : x.lifetimes = 0 := (Nat.succ.inj hn).symm
      have htakes : c.Takes := by
        cases hrestart with
        | restarted hstart htakes => exact ⟨hstart, htakes⟩
      exact ⟨fun _ => (h.idle hzero).2.trans List.drop_one.symm, fun hnot => absurd htakes hnot⟩
    · have hqueue := h.queue n c' (Nat.succ.inj hn) hc
      simpa [List.drop_tail] using hqueue

end Follows

theorem follows_run (cs : List Course) (queue : List Signal) : Follows cs queue (run cs queue) := by
  induction cs generalizing queue with
  | nil => exact .nil queue
  | cons c cs ih =>
    by_cases hover : c.IsOver
    · obtain ⟨q, hq⟩ := hover.exists_leadsTo (signalFor queue 0)
      by_cases hrestart : q = .restart
      · subst hrestart
        rw [run_cons_of_restart hq]
        exact (ih queue.tail).cons hq
      · rw [run_cons_of_leadsTo hq hrestart]
        refine .last (fun h => hrestart (hq.unique h)) (fun result => ?_) cs
        exact ⟨fun h => ⟨q, hq, h⟩, fun ⟨q', hq', h⟩ => hq.unique hq' ▸ h⟩
    · rw [run_cons_of_not_isOver hover]
      refine .last (fun h => hover h.isOver) (fun result => ?_) cs
      exact ⟨nofun, fun ⟨_, hq, _⟩ => absurd hq.isOver hover⟩

/-- The exporter ends as its last lifetime does. -/
theorem Follows.ending_eq_iff {x : Service} (h : Follows cs queue x) (result : Except Report Unit) :
    x.ending = some result ↔
      ∃ n c q, n + 1 = x.lifetimes ∧ cs[n]? = some c ∧ c.LeadsTo (signalFor queue n) q ∧ q.ending = some result := by
  constructor
  · intro hending
    obtain ⟨n, hn⟩ : ∃ n, x.lifetimes = n + 1 := by
      refine Nat.exists_eq_succ_of_ne_zero fun hzero => ?_
      rw [(h.idle hzero).1] at hending
      cases hending
    have hlt : n < x.lifetimes := by rw [hn]; exact Nat.lt_succ_self n
    have hc := List.getElem?_eq_getElem (Nat.lt_of_lt_of_le hlt h.length_le)
    obtain ⟨q, hq, hresult⟩ := (h.ends n _ hlt hc result).mp ⟨hn.symm, hending⟩
    exact ⟨n, _, q, hn.symm, hc, hq, hresult⟩
  · rintro ⟨n, c, q, hn, hc, hq, hresult⟩
    exact ((h.ends n c (by rw [← hn]; exact Nat.lt_succ_self n) hc result).mpr ⟨q, hq, hresult⟩).2

theorem Follows.last_of_leadsTo {x : Service} (h : Follows cs queue x) {n : Nat} (hn : n < x.lifetimes)
    (hc : cs[n]? = some c) (hq : c.LeadsTo (signalFor queue n) q) (hrestart : q ≠ .restart) : n + 1 = x.lifetimes := by
  refine Nat.le_antisymm hn (Nat.not_lt.mp fun hmore => hrestart ?_)
  exact hq.unique ((h.goesOn n c hn hc).mp hmore).2

/-- Lifetime after lifetime, the exporter goes on to another one if and only if the lifetime could start, was ended by
    the signal that waited for it, this was a hangup, and both its tasks ended well. A lifetime that is over and
    leads to no other is the last, and the exporter ends as it does: well after any other signal if both tasks ended
    well, and otherwise with the failure to start, that of the pipeline, that of the server, or that of having stopped
    unasked, in this order and whatever signals wait. Every lifetime takes the signal of its number or none at all,
    and the cancellation that its tasks share is asked for once either of them has ended. -/
theorem restarts_on_hangup_only (cs : List Course) (queue : List Signal) :
    let x := run cs queue
    (0 < x.lifetimes ↔ cs ≠ []) ∧ x.lifetimes ≤ cs.length ∧
    (∀ n c, n < x.lifetimes → cs[n]? = some c →
      (n + 1 < x.lifetimes ↔ n + 1 < cs.length ∧ c.LeadsTo (signalFor queue n) .restart) ∧
      (∀ q, c.LeadsTo (signalFor queue n) q → q ≠ .restart → n + 1 = x.lifetimes) ∧
      (c.IsOver → ∃ q, c.LeadsTo (signalFor queue n) q)) ∧
    (∀ result, x.ending = some result ↔
      ∃ n c q, n + 1 = x.lifetimes ∧ cs[n]? = some c ∧ c.LeadsTo (signalFor queue n) q ∧ q.ending = some result) ∧
    (∀ n c, n + 1 = x.lifetimes → cs[n]? = some c →
      (c.Takes → x.queue = queue.drop (n + 1)) ∧ (¬c.Takes → x.queue = queue.drop n)) ∧
    ∀ waiting es, (Lifetime.steps { queue := waiting } es).cancelled = true ↔ ∃ e ∈ es, e ≠ .notice := by
  intro x
  have hfollows : Follows cs queue x := follows_run cs queue
  refine ⟨?_, hfollows.length_le, fun n c hn hc => ⟨hfollows.goesOn n c hn hc, ?_, ?_⟩, hfollows.ending_eq_iff,
    hfollows.queue, Lifetime.cancelled_steps_iff⟩
  · rw [Nat.pos_iff_ne_zero, ne_eq, ne_eq, hfollows.begins]
  · exact fun q hq hrestart => hfollows.last_of_leadsTo hn hc hq hrestart
  · exact fun hover => hover.exists_leadsTo _

/-- A hangup does not hide the failure of the server, after which the second signal is left where it is. -/
example :
    let failing : Course := ⟨.ok (), [.serverEnds (.error unasked), .signal, .pipelineEnds (.ok ())]⟩
    let x := run [failing, failing] [.hangup, .terminate]
    x.lifetimes = 1 ∧ x.queue = [.terminate] ∧ x.ending = some (.error unasked) := ⟨rfl, rfl, rfl⟩

end Service
end Telemetry
