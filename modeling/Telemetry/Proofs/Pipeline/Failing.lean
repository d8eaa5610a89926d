import Telemetry.Device.Scripted
import Telemetry.Proofs.Alike
import Telemetry.Proofs.Pipeline.Ticks

/-! Failing ticks. A tick fails in the pass of the collector or in a transform, after which no other runs. If
    its report tells of a lost connection, however deep it stands, the run ends with it; any other failure
    leaves the run as if there had been no tick. -/

namespace Telemetry

/-- At the bottom of the report is the loss of the connection. -/
def Report.TellsLoss (r : Report) : Prop := ∃ reason, r.cause = .device (.connectionLost reason)

theorem Report.isFatal_iff {r : Report} : r.isFatal = true ↔ r.TellsLoss := by
  obtain ⟨contexts, e | ⟨message, sources⟩⟩ := r
  · cases e <;> simp [isFatal, DeviceError.isFatal, TellsLoss]
  · simp [isFatal, TellsLoss]

namespace Pipeline

variable {σ : Type} {p : Pipeline σ} {s t : σ} {r : Report}

/-! ### How ticks fail -/

/-- A tick that begins in one world fails with the report and leaves another world: the pass fails, or after it
    a transform to which those before it have given their metrics. -/
inductive Fails (p : Pipeline σ) (s : σ) : Report → σ → Prop where
  | collecting {e : DeviceError} {t : σ} (pass : p.collector.collect p.manager s = (.error e, t)) :
    Fails p s (.ofDevice e) t
  | transforming {metrics given left : MetricSet} {t u v : σ} {earlier later : List (Transform σ)} {x : Transform σ}
    {r : Report} (pass : p.collector.collect p.manager s = (.ok metrics, t))
    (transforms : p.transforms = earlier ++ x :: later)
    (before : Transform.processAll p.topology earlier (metrics, t) = (.ok (), given, u))
    (failed : x.process p.topology (given, u) = (.error r, left, v)) :
    Fails p s (Transform.failure x.name r) v

section Transforms
variable {topology : Topology} {xs earlier later : List (Transform σ)} {x : Transform σ} {name : String}
  {a b c : MetricSet × σ}

theorem processAll_append (topology : Topology) (earlier later : List (Transform σ)) :
    Transform.processAll topology (earlier ++ later) =
      (do Transform.processAll topology earlier; Transform.processAll topology later) := by
  induction earlier with
  | nil => rfl
  | cons x xs ih =>
    rw [List.cons_append, Transform.processAll, ih, Transform.processAll, bind_assoc]

/-- What fails among transforms is the first of them that does, and the others before it did not. -/
theorem processAll_eq_error_iff :
    Transform.processAll topology xs a = (.error (name, r), c) ↔
      ∃ earlier x later b, xs = earlier ++ x :: later ∧ Transform.processAll topology earlier a = (.ok (), b) ∧
        x.process topology b = (.error r, c) ∧ x.name = name := by
  constructor
  · intro h
    induction xs generalizing a with
    | nil => cases h
    | cons x xs ih =>
      rw [Transform.processAll, Action.bind_apply, Action.mapFault] at h
      rcases hx : x.process topology a with ⟨e | ⟨⟩, b⟩
      · rw [hx] at h
        cases h
        exact ⟨[], x, xs, a, rfl, rfl, hx, rfl⟩
      · rw [hx] at h
        obtain ⟨earlier, y, later, d, rfl, hearlier, hy, rfl⟩ := ih h
        refine ⟨x :: earlier, y, later, d, rfl, ?_, hy, rfl⟩
        rw [Transform.processAll, Action.bind_apply, Action.mapFault, hx]
        exact hearlier
  · rintro ⟨earlier, x, later, b, rfl, hearlier, hx, rfl⟩
    rw [processAll_append, Action.bind_apply, hearlier]
    dsimp only
    rw [Transform.processAll, Action.bind_apply, Action.mapFault, hx]

end Transforms

theorem transformed_eq_error_iff {metrics : MetricSet} :
    p.transformed metrics s = (.error r, t) ↔
      ∃ name r' left, Transform.processAll p.topology p.transforms (metrics, s) = (.error (name, r'), left, t) ∧
        r = Transform.failure name r' := by
  rw [transformed]
  rcases Transform.processAll p.topology p.transforms (metrics, s) with ⟨⟨name, r'⟩ | ⟨⟩, left, u⟩
  · constructor
    · rintro ⟨⟩
      exact ⟨name, r', left, rfl, rfl⟩
    · rintro ⟨_, _, _, ⟨⟩, rfl⟩
      rfl
  · constructor
    · rintro ⟨⟩
    · rintro ⟨_, _, _, ⟨⟩, -⟩

/-- There are no other ways in which a tick fails. -/
theorem renderOnce_eq_error_iff : p.renderOnce s = (.error r, t) ↔ p.Fails s r t := by
  constructor
  · intro h
    rw [renderOnce, Action.bind_apply, Action.mapFault] at h
    rcases hpass : p.collector.collect p.manager s with ⟨e | metrics, u⟩
    · rw [hpass] at h
      cases h
      exact .collecting hpass
    rw [hpass] at h
    dsimp only at h
    rw [Action.bind_apply] at h
    rcases htransformed : p.transformed metrics u with ⟨r' | given, v⟩
    · rw [htransformed] at h
      cases h
      obtain ⟨name, r', left, hall, rfl⟩ := transformed_eq_error_iff.mp htransformed
      obtain ⟨earlier, x, later, ⟨given, w⟩, hsplit, hearlier, hx, rfl⟩ := processAll_eq_error_iff.mp hall
      exact .transforming hpass hsplit hearlier hx
    · rw [htransformed] at h
      cases h
  · intro h
    rw [renderOnce, Action.bind_apply, Action.mapFault]
    cases h with
    | collecting hpass => rw [hpass]
    | transforming hpass hsplit hearlier hx =>
      rw [hpass]
      dsimp only
      rw [Action.bind_apply, transformed_eq_error_iff.mpr
        ⟨_, _, _, processAll_eq_error_iff.mpr ⟨_, _, _, _, hsplit, hearlier, hx, rfl⟩, rfl⟩]

/-- What stands behind a transform that fails is not run: whatever it is, the tick is the same. -/
theorem renderOnce_of_failed {metrics given left : MetricSet} {u v : σ} {earlier : List (Transform σ)} {x : Transform σ}
    (hpass : p.collector.collect p.manager s = (.ok metrics, t))
    (hearlier : Transform.processAll p.topology earlier (metrics, t) = (.ok (), given, u))
    (hx : x.process p.topology (given, u) = (.error r, left, v)) (later : List (Transform σ)) :
    { p with transforms := earlier ++ x :: later }.renderOnce s = (.error (Transform.failure x.name r), v) := by
  have hfails : Fails { p with transforms := earlier ++ x :: later } s (Transform.failure x.name r) v :=
    .transforming hpass rfl hearlier hx
  exact renderOnce_eq_error_iff.mpr hfails

end Pipeline

namespace Delivery

/-- All texts that were put into the channel, received or not. -/
def texts (d : Delivery) : List String := d.received ++ d.channel.waiting

theorem texts_receive (d : Delivery) : d.receive.texts = d.texts := by
  rw [receive, Channel.receive]
  cases hwaiting : d.channel.waiting with
  | nil => rfl
  | cons text rest => simp [texts, hwaiting]

end Delivery

namespace Run
open Pipeline (Fails)

variable {σ : Type} {p : Pipeline σ} {r r' : Run σ} {report : Report} {t : σ} {R : σ → σ → Prop}

/-! ### Failures in runs -/

theorem tick?_of_going (hgoing : r.ending = none) (hcancelled : r.cancelled = false) :
    r.tick? p .turn =
      some { outcome := (p.renderOnce r.world).1, before := r.delivery, after := (r.step p .turn).delivery } :=
  tick?_eq_some_iff.mpr ⟨rfl, hgoing, hcancelled, rfl⟩

/-- The next turn of the run is a tick, and it fails. -/
structure FailsNext (p : Pipeline σ) (r : Run σ) (report : Report) (t : σ) : Prop where
  going : r.ending = none
  uncancelled : r.cancelled = false
  fails : p.Fails r.world report t

theorem step_turn_of_error (hgoing : r.ending = none) (hcancelled : r.cancelled = false)
    (herror : p.renderOnce r.world = (.error report, t)) :
    r.step p .turn =
      if report.isFatal then { r with world := t }.stop p (.error (Delivery.lost report))
      else { r with world := t } := by
  have hticking : r.ticking p = { r with world := t } := by
    rw [ticking, herror]
    rfl
  rw [step_turn hgoing hcancelled, hticking, herror, Delivery.tick]
  split
  · rename_i h
    rw [if_neg]
    intro hfatal
    rw [if_pos hfatal] at h
    cases h
  · rename_i h
    split at h
    · cases h
      rw [if_pos ‹_›]
    · cases h

/-- A loss ends the run. -/
theorem FailsNext.step_lost (h : FailsNext p r report t) (hloss : report.TellsLoss) :
    r.step p .turn = { r with world := t }.stop p (.error (Delivery.lost report)) := by
  rw [step_turn_of_error h.going h.uncancelled (Pipeline.renderOnce_eq_error_iff.mpr h.fails),
    if_pos (Report.isFatal_iff.mpr hloss)]

/-- Any other failure changes nothing of the run. -/
theorem FailsNext.step_otherwise (h : FailsNext p r report t) (hloss : ¬report.TellsLoss) :
    r.step p .turn = { r with world := t } := by
  rw [step_turn_of_error h.going h.uncancelled (Pipeline.renderOnce_eq_error_iff.mpr h.fails),
    if_neg (fun hfatal => hloss (Report.isFatal_iff.mp hfatal))]

theorem Tick.Delivers.ending_of_ok {u : Tick} {ending : Option Delivery.Ending} {text : String}
    (h : u.Delivers ending) (hok : u.outcome = .ok text) : ending = none ∨ ending = some (.ok ()) := by
  cases h with
  | failed => cases hok
  | sent | dropped => exact .inl rfl
  | refused => exact .inr rfl

/-- What ends a run that was going on: that it was cancelled or has no receiver, or a loss. -/
theorem ending_step (hgoing : r.ending = none) (e : Event) :
    (r.step p e).ending = none ∨ (r.step p e).ending = some (.ok ()) ∨
      e = .turn ∧ ∃ report t, FailsNext p r report t ∧ report.TellsLoss := by
  cases e with
  | receive | close | cancel => exact .inl hgoing
  | turn =>
    cases hcancelled : r.cancelled with
    | true =>
      rw [step_turn_of_cancelled hgoing hcancelled]
      exact .inr (.inl rfl)
    | false =>
      rcases houtcome : p.renderOnce r.world with ⟨report | text, t⟩
      · have hnext : FailsNext p r report t := ⟨hgoing, hcancelled, Pipeline.renderOnce_eq_error_iff.mp houtcome⟩
        by_cases hloss : report.TellsLoss
        · exact .inr (.inr ⟨rfl, report, t, hnext, hloss⟩)
        · rw [hnext.step_otherwise hloss]
          exact .inl hgoing
      · rw [step_turn hgoing hcancelled, houtcome]
        rcases (Tick.delivers r.delivery (.ok text)).ending_of_ok rfl with hend | hend
        · simp only [hend]
          exact .inl hgoing
        · simp only [hend]
          exact .inr (.inl rfl)

section Losses
variable {es after : List Event}

/-- Nothing is put into the channel where there is no tick. -/
theorem texts_step_of_tick?_eq_none {e : Event} (h : r.tick? p e = none) :
    (r.step p e).delivery.texts = r.delivery.texts := by
  rcases delivery_step_of_tick?_eq_none h with heq | rfl | rfl
  · rw [heq]
  · exact Delivery.texts_receive r.delivery
  · rfl

theorem texts_steps_of_ended (h : r.ending.isSome = true) (es : List Event) :
    (r.steps p es).delivery.texts = r.delivery.texts := by
  induction es generalizing r with
  | nil => rfl
  | cons e es ih =>
    have hrests : Rests r (r.step p e) := rests_step h e
    rw [steps_cons, ih (by rw [hrests.ending]; exact h), texts_step_of_tick?_eq_none (tick?_of_ended h e)]

/-- A run that goes on has had no loss. -/
theorem not_tellsLoss_of_going (hgoing : (r.steps p es).ending = none) :
    ∀ u ∈ r.ticks p es, ∀ report, u.outcome = .error report → ¬report.TellsLoss := by
  induction es generalizing r with
  | nil => exact fun u hu => absurd hu List.not_mem_nil
  | cons e es ih =>
    intro u hu report herror hloss
    rw [ticks] at hu
    rcases List.mem_append.mp hu with hu | hu
    · obtain ⟨rfl, hnone, hcancelled, rfl⟩ := tick?_eq_some_iff.mp (Option.mem_toList.mp hu)
      have hnext : FailsNext p r report (p.renderOnce r.world).2 :=
        ⟨hnone, hcancelled, Pipeline.renderOnce_eq_error_iff.mp (Prod.ext herror rfl)⟩
      have hended : (r.step p .turn).ending.isSome = true := by rw [hnext.step_lost hloss]; rfl
      have hrests : Rests (r.step p .turn) ((r.step p .turn).steps p es) := rests_steps hended es
      rw [steps_cons, hrests.ending] at hgoing
      rw [hgoing] at hended
      cases hended
    · exact ih hgoing u hu report herror hloss

/-- With a loss the run ends. It publishes no more texts and makes no more ticks. -/
theorem FailsNext.ends (h : FailsNext p r report t) (hloss : report.TellsLoss) (after : List Event) :
    (r.steps p (.turn :: after)).ending = some (.error (Delivery.lost report)) ∧
      (r.steps p (.turn :: after)).delivery.texts = r.delivery.texts ∧
      (r.steps p (.turn :: after)).delivery.overflows = r.delivery.overflows ∧
      ∃ last, r.ticks p (.turn :: after) = [last] ∧ last.outcome = .error report := by
  have hstep := h.step_lost hloss
  have hended : (r.step p .turn).ending.isSome = true := by rw [hstep]; rfl
  have hrests : Rests (r.step p .turn) ((r.step p .turn).steps p after) := rests_steps hended after
  have htick := tick?_of_going (p := p) h.going h.uncancelled
  have herror : (p.renderOnce r.world).1 = .error report :=
    congrArg Prod.fst (Pipeline.renderOnce_eq_error_iff.mpr h.fails)
  have hticks := ticks_of_ended (p := p) hended after
  refine ⟨?_, ?_, ?_, _, by rw [ticks, htick, hticks]; rfl, herror⟩
  · rw [steps_cons, hrests.ending, hstep]
    rfl
  · rw [steps_cons, texts_steps_of_ended hended, hstep]
    rfl
  · rw [steps_cons, hrests.overflows, hstep]
    rfl

/-- A run fails only by a loss, whenever its turns come. -/
theorem ending_eq_error_iff (hgoing : r.ending = none) :
    (∃ report, (r.steps p es).ending = some (.error report)) ↔
      ∃ before after report t, es = before ++ .turn :: after ∧ FailsNext p (r.steps p before) report t ∧
        report.TellsLoss := by
  constructor
  · intro hfailed
    induction es generalizing r with
    | nil =>
      obtain ⟨report, hreport⟩ := hfailed
      rw [show r.steps p [] = r from rfl, hgoing] at hreport
      cases hreport
    | cons e es ih =>
      rcases ending_step (p := p) hgoing e with hnone | hok | ⟨rfl, report, t, hnext, hloss⟩
      · obtain ⟨before, after, report, t, rfl, hnext, hloss⟩ := ih hnone hfailed
        exact ⟨e :: before, after, report, t, rfl, hnext, hloss⟩
      · obtain ⟨report, hreport⟩ := hfailed
        have hrests : Rests (r.step p e) ((r.step p e).steps p es) := rests_steps (by rw [hok]; rfl) es
        rw [steps_cons, hrests.ending, hok] at hreport
        cases hreport
      · exact ⟨[], es, report, t, rfl, hnext, hloss⟩
  · rintro ⟨before, after, report, t, rfl, hnext, hloss⟩
    rw [steps_append]
    exact ⟨_, (hnext.ends hloss after).1⟩

end Losses

/-! ### Failures that leave no trace -/

/-- Every turn among the events is a tick that fails, and none of them by a loss. -/
def AllFail (p : Pipeline σ) (r : Run σ) (es : List Event) : Prop :=
  ∀ before after, es = before ++ .turn :: after →
    ∃ report t, FailsNext p (r.steps p before) report t ∧ ¬report.TellsLoss

section Otherwise
variable {es : List Event}

theorem AllFail.tail {e : Event} (h : AllFail p r (e :: es)) : AllFail p (r.step p e) es := by
  rintro before after rfl
  exact h (e :: before) after rfl

/-- Without turns the world plays no role, and the run goes on if it does. -/
theorem steps_of_no_turn (h : .turn ∉ es) (w : σ) :
    { r with world := w }.steps p es = { r.steps p es with world := w } ∧ (r.steps p es).ending = r.ending := by
  induction es generalizing r with
  | nil => exact ⟨rfl, rfl⟩
  | cons e es ih =>
    obtain ⟨hne, hrest⟩ := not_or.mp (mt List.mem_cons.mpr h)
    cases e with
    | turn => exact absurd rfl hne
    | receive => exact ih (r := r.step p .receive) hrest
    | close => exact ih (r := r.step p .close) hrest
    | cancel => exact ih (r := r.step p .cancel) hrest

/-- Ticks that fail otherwise leave a run as it is without them, but for the world. -/
theorem steps_of_allFail (h : AllFail p r es) :
    r.steps p es = { r.steps p (es.filter (· ≠ .turn)) with world := (r.steps p es).world } := by
  induction es generalizing r with
  | nil => rfl
  | cons e es ih =>
    cases e with
    | receive | close | cancel =>
      rw [List.filter_cons_of_pos (by simp), steps_cons, steps_cons]
      exact ih h.tail
    | turn =>
      obtain ⟨report, t, hnext, hloss⟩ := h [] es rfl
      have hstep : r.step p .turn = { r with world := t } := hnext.step_otherwise hloss
      have htail := h.tail
      have hspared : .turn ∉ es.filter (· ≠ .turn) := by simp
      rw [List.filter_cons_of_neg (by simp), steps_cons, hstep]
      rw [hstep] at htail
      refine (ih htail).trans ?_
      rw [(steps_of_no_turn hspared t).1]

theorem ending_of_allFail (h : AllFail p r es) : (r.steps p es).ending = r.ending := by
  have hspared : .turn ∉ es.filter (· ≠ .turn) := by simp
  rw [steps_of_allFail h]
  exact (steps_of_no_turn hspared r.world).2

end Otherwise

/-! ### Worlds that answer alike -/

/-- Nothing but their worlds tells the runs apart, and these are related as long as the runs go on. -/
structure Alike (R : σ → σ → Prop) (r r' : Run σ) : Prop where
  world : r.ending = none → R r.world r'.world
  delivery : r'.delivery = r.delivery
  cancelled : r'.cancelled = r.cancelled
  ending : r'.ending = r.ending

section Alike
variable (hp : p.Alike R)
include hp

theorem Alike.step (h : Alike R r r') (e : Event) : Alike R (r.step p e) (r'.step p e) := by
  cases e with
  | receive => exact { h with delivery := congrArg Delivery.receive h.delivery }
  | close => exact { h with delivery := congrArg Delivery.close h.delivery }
  | cancel => exact { h with cancelled := rfl }
  | turn =>
    cases hending : r.ending with
    | some ending =>
      have hended : r.ending.isSome = true := by rw [hending]; rfl
      rw [step_turn_of_ended hended, step_turn_of_ended (by rw [h.ending]; exact hended)]
      exact h
    | none =>
      have hending' := h.ending.trans hending
      cases hcancelled : r.cancelled with
      | true =>
        rw [step_turn_of_cancelled hending hcancelled,
          step_turn_of_cancelled hending' (h.cancelled.trans hcancelled)]
        exact ⟨nofun, h.delivery, h.cancelled, rfl⟩
      | false =>
        obtain ⟨houtcome, hworld⟩ := hp.renderOnce r.world r'.world (h.world hending)
        have hdelivery : (r'.ticking p).delivery = (r.ticking p).delivery := by
          rw [ticking, ticking, h.delivery, houtcome]
        rw [step_turn hending hcancelled, step_turn hending' (h.cancelled.trans hcancelled), h.delivery, ← houtcome]
        cases (r.delivery.tick (p.renderOnce r.world).1).2 with
        | none => exact ⟨fun _ => hworld, hdelivery, h.cancelled, h.ending⟩
        | some ending => exact ⟨nofun, hdelivery, h.cancelled, rfl⟩

theorem Alike.tick?_eq (h : Alike R r r') (e : Event) : r.tick? p e = r'.tick? p e := by
  cases e with
  | receive | close | cancel => rfl
  | turn =>
    rw [tick?, tick?, h.ending, h.cancelled, h.delivery, (h.step hp .turn).delivery]
    split
    · rfl
    · rename_i hgoing
      rw [Bool.or_eq_true, not_or, Bool.not_eq_true, Option.isSome_eq_false_iff, Option.isNone_iff_eq_none] at hgoing
      rw [(hp.renderOnce r.world r'.world (h.world hgoing.1)).1]

/-- Runs in worlds that answer alike make the same ticks. -/
theorem Alike.ticks_eq (h : Alike R r r') (es : List Event) : r.ticks p es = r'.ticks p es := by
  induction es generalizing r r' with
  | nil => rfl
  | cons e es ih => rw [ticks, ticks, h.tick?_eq hp, ih (h.step hp e)]

end Alike

/-! ### Every run -/

/-- The first events of an endless schedule. -/
def upTo (schedule : Nat → Event) (n : Nat) : List Event := (List.range n).map schedule

theorem upTo_succ (schedule : Nat → Event) (n : Nat) : upTo schedule (n + 1) = upTo schedule n ++ [schedule n] := by
  rw [upTo, List.range_succ, List.map_append]
  rfl

theorem upTo_eq_append {schedule : Nat → Event} {n : Nat} {before after : List Event} {e : Event}
    (h : upTo schedule n = before ++ e :: after) :
    before = upTo schedule before.length ∧ schedule before.length = e := by
  have hlength : before.length < n := by
    have hlengths := congrArg List.length h
    simp only [upTo, List.length_map, List.length_range, List.length_append, List.length_cons] at hlengths
    omega
  constructor
  · have htake := congrArg (List.take before.length) h
    rw [List.take_left, upTo, ← List.map_take, List.take_range, Nat.min_eq_left (Nat.le_of_lt hlength)] at htake
    exact htake.symm
  · have hget := congrArg (fun es => es[before.length]?) h
    simpa [upTo, hlength] using hget

theorem exists_ending_eq_error_iff (hgoing : r.ending = none) (schedule : Nat → Event) :
    (∃ n report, (r.steps p (upTo schedule n)).ending = some (.error report)) ↔
      ∃ n report t, schedule n = .turn ∧ FailsNext p (r.steps p (upTo schedule n)) report t ∧ report.TellsLoss := by
  constructor
  · rintro ⟨n, hfailed⟩
    obtain ⟨before, after, report, t, hsplit, hnext, hloss⟩ := (ending_eq_error_iff hgoing).mp hfailed
    obtain ⟨hbefore, hturn⟩ := upTo_eq_append hsplit
    exact ⟨before.length, report, t, hturn, hbefore ▸ hnext, hloss⟩
  · rintro ⟨n, report, t, hturn, hnext, hloss⟩
    refine ⟨n + 1, (ending_eq_error_iff hgoing).mpr ⟨upTo schedule n, [], report, t, ?_, hnext, hloss⟩⟩
    rw [upTo_succ, hturn]

/-- A run fails exactly if a tick reports a lost connection, from the pass or from a transform and in whatever
    contexts, before the run is cancelled or finds no receiver. It ends with the first such report, which is
    still seen to be one; no text is published from then on, and no tick is made. Ticks that fail otherwise
    change nothing of the run, however many they are: in a world that answers alike, later ticks are those of a
    run without them. Whatever stands behind a transform that fails, the tick is the same. -/
theorem fails_with_first_loss (p : Pipeline σ) (capacity : Nat) (world : σ) :
    let begun := start { capacity } world
    (∀ schedule : Nat → Event,
      (∃ n report, (begun.steps p (upTo schedule n)).ending = some (.error report)) ↔
        ∃ n report t, schedule n = .turn ∧ FailsNext p (begun.steps p (upTo schedule n)) report t ∧
          report.TellsLoss) ∧
    (∀ es, (∃ report, (begun.steps p es).ending = some (.error report)) ↔
      ∃ before after report t, es = before ++ .turn :: after ∧ FailsNext p (begun.steps p before) report t ∧
        report.TellsLoss) ∧
    (∀ before after report t, FailsNext p (begun.steps p before) report t → report.TellsLoss →
      let r := begun.steps p (before ++ .turn :: after)
      r.ending = some (.error (Delivery.lost report)) ∧ (Delivery.lost report).isFatal = true ∧
      r.delivery.texts = (begun.steps p before).delivery.texts ∧
      r.delivery.overflows = (begun.steps p before).delivery.overflows ∧
      (∃ last, begun.ticks p (before ++ .turn :: after) = begun.ticks p before ++ [last] ∧
        last.outcome = .error report) ∧
      ∀ u ∈ begun.ticks p before, ∀ report, u.outcome = .error report → ¬report.TellsLoss) ∧
    (∀ before mid,
      let r := begun.steps p before
      let spared := r.steps p (mid.filter (· ≠ .turn))
      AllFail p r mid →
      r.steps p mid = { spared with world := (r.steps p mid).world } ∧ (r.steps p mid).ending = r.ending ∧
      ∀ R : σ → σ → Prop, p.Alike R → ∀ w, R (r.steps p mid).world w → ∀ later,
        (r.steps p mid).ticks p later = { spared with world := w }.ticks p later) ∧
    ∀ s t u v metrics given left earlier x report, p.collector.collect p.manager s = (.ok metrics, t) →
      Transform.processAll p.topology earlier (metrics, t) = (.ok (), given, u) →
      x.process p.topology (given, u) = (.error report, left, v) →
      ∀ later, { p with transforms := earlier ++ x :: later }.renderOnce s =
        (.error (Transform.failure x.name report), v) := by
  intro begun
  refine ⟨exists_ending_eq_error_iff rfl, fun es => ending_eq_error_iff rfl, ?loss, ?otherwise, ?later⟩
  case loss =>
    intro before after report t hnext hloss r
    obtain ⟨hending, htexts, hoverflows, last, hlast, houtcome⟩ := hnext.ends hloss after
    refine ⟨?_, Report.isFatal_iff.mpr hloss, ?_, ?_, ⟨last, ?_, houtcome⟩, not_tellsLoss_of_going hnext.going⟩
    · rw [← hending, ← steps_append]
    · rw [← htexts, ← steps_append]
    · rw [← hoverflows, ← steps_append]
    · rw [ticks_append, hlast]
  case otherwise =>
    intro before mid r spared hfail
    have hsteps := steps_of_allFail hfail
    refine ⟨hsteps, ending_of_allFail hfail, fun R hp w hw later => ?_⟩
    have halike : Alike R (r.steps p mid) { spared with world := w } :=
      ⟨fun _ => hw, (congrArg Run.delivery hsteps).symm, (congrArg Run.cancelled hsteps).symm,
        (congrArg Run.ending hsteps).symm⟩
    exact halike.ticks_eq hp later
  case later =>
    intro s t u v metrics given left earlier x report hpass hearlier hx later
    exact Pipeline.renderOnce_of_failed hpass hearlier hx later

/-- The report of a transform that looks something up when the connection is gone. -/
def lossWhileLooking : Report := (Report.ofDevice (.connectionLost "gone")).wrap "Looking up a name"

/-- A transform that looks something up, for which it needs the connection. -/
def lookup : Transform Nat where
  name := "lookup"
  process _ := fun a => (if a.2 < 4 then .ok () else .error lossWhileLooking, a)

/-- A pipeline whose second pass fails, whose third has no values, and whose transform finds the connection lost
    after the fourth. -/
def unsteady : Pipeline Nat where
  manager := Script.manager
    { values := [.ok [{ type := .int64, value := .int64 7 }], .error (.backend "busy"), .ok [],
        .ok [{ type := .int64, value := .int64 8 }]] }
  collector :=
    { counters := [default], entities := [Topology.monitoredDevice (Script.plainDevice 0)], options := {}
      watch := default }
  topology := default
  transforms := [lookup, Transform.ofMap "relabel" fun _ m => m]

/-- Two passes that fail leave no trace; the loss ends the run with the text of the first pass in the channel. -/
theorem fails_with_first_loss_unsteady :
    let begun := start { capacity := 4 } 0
    let r := begun.steps unsteady [.turn]
    AllFail unsteady r [.turn, .turn] ∧ r.steps unsteady [.turn, .turn] = { r with world := 3 } ∧
      (begun.steps unsteady [.turn, .turn, .turn, .turn, .turn]).ending =
        some (.error (Delivery.lost (Transform.failure "lookup" lossWhileLooking))) ∧
      (begun.steps unsteady [.turn, .turn, .turn, .turn, .turn]).delivery.texts.length = 1 := by
  intro begun r
  obtain ⟨-, -, hloss, hotherwise, -⟩ := fails_with_first_loss unsteady 4 0
  have hsecond : FailsNext unsteady r (.ofDevice (.backend "busy")) 2 := by
    refine ⟨rfl, rfl, .collecting ?_⟩
    show unsteady.collector.collect unsteady.manager 1 = _
    rfl
  have hthird : FailsNext unsteady (r.step unsteady .turn)
      (.ofDevice (Collector.wrongCount 1 (Entity.device 0) 0)) 3 := by
    refine ⟨rfl, rfl, .collecting ?_⟩
    show unsteady.collector.collect unsteady.manager 2 = _
    rfl
  have hfail : AllFail unsteady r [.turn, .turn] := by
    rintro (_ | ⟨_, _ | ⟨_, _ | ⟨_, _⟩⟩⟩) after hsplit
    · exact ⟨_, _, hsecond, by rw [← Report.isFatal_iff]; decide⟩
    · obtain ⟨rfl, -⟩ := List.cons.inj hsplit
      exact ⟨_, _, hthird, by rw [← Report.isFatal_iff]; decide⟩
    · simp at hsplit
    · simp at hsplit
  have hfourth : FailsNext unsteady (begun.steps unsteady [.turn, .turn, .turn])
      (Transform.failure "lookup" lossWhileLooking) 4 := by
    obtain ⟨metrics, hpass⟩ : ∃ metrics, unsteady.collector.collect unsteady.manager 3 = (.ok metrics, 4) := ⟨_, rfl⟩
    have hlookup : lookup.process unsteady.topology (metrics, 4) = (.error lossWhileLooking, metrics, 4) := rfl
    have hfails : unsteady.Fails 3 (Transform.failure lookup.name lossWhileLooking) 4 :=
      .transforming hpass (List.nil_append unsteady.transforms).symm rfl hlookup
    exact ⟨rfl, rfl, hfails⟩
  obtain ⟨hsteps, -⟩ := hotherwise [.turn] [.turn, .turn] hfail
  obtain ⟨hending, -, htexts, -⟩ := hloss [.turn, .turn, .turn] [.turn] _ 4 hfourth
    (by rw [← Report.isFatal_iff]; decide)
  refine ⟨hfail, hsteps, hending, ?_⟩
  rw [show [Event.turn, .turn, .turn, .turn, .turn] = [.turn, .turn, .turn] ++ .turn :: [.turn] from rfl, htexts]
  decide +kernel

end Run
end Telemetry
