import Telemetry.Pipeline.Run

/-! The ticks of a run, and what becomes of their texts. While there is a receiver, the text of a tick was
    received, waits in the channel, or was dropped because the channel was full; without one, the first
    text ends the run. -/

namespace Telemetry

namespace Run

variable {σ : Type}

/-! ### Ticks -/

/-- A tick of a run: its outcome, and the delivery as the tick found it and as it left it. -/
structure Tick where
  outcome : Delivery.Outcome
  before : Delivery
  after : Delivery

namespace Tick

/-- The text of a tick that succeeded. -/
def text? (t : Tick) : Option String := t.outcome.toOption

def succeeded (t : Tick) : Bool := t.text?.isSome

/-- Whether the text of the tick went into the channel. -/
def sent (t : Tick) : Bool := t.before.channel.waiting.length < t.after.channel.waiting.length

/-- Whether the tick was counted as an overflow. -/
def dropped (t : Tick) : Bool := t.before.overflows < t.after.overflows

/-- What a tick does to the delivery that it finds, and how it ends the run if it does. -/
inductive Delivers : Tick → Option Delivery.Ending → Prop where
  | failed (d : Delivery) (r : Report) :
    Delivers ⟨.error r, d, d⟩ (if r.isFatal then some (.error (Delivery.lost r)) else none)
  | sent (d : Delivery) (text : String) (isOpen : d.channel.isOpen = true)
      (room : d.channel.waiting.length < d.channel.capacity) :
    Delivers ⟨.ok text, d, { d with channel := { d.channel with waiting := d.channel.waiting ++ [text] } }⟩ none
  | dropped (d : Delivery) (text : String) (isOpen : d.channel.isOpen = true)
      (full : d.channel.capacity ≤ d.channel.waiting.length) :
    Delivers ⟨.ok text, d, { d with overflows := d.overflows + 1 }⟩ none
  | refused (d : Delivery) (text : String) (closed : d.channel.isOpen = false) :
    Delivers ⟨.ok text, d, d⟩ (some (.ok ()))

theorem delivers (d : Delivery) (o : Delivery.Outcome) : Delivers ⟨o, d, (d.tick o).1⟩ (d.tick o).2 := by
  cases o with
  | error r => exact .failed d r
  | ok text =>
    rw [Delivery.tick, Channel.offer]
    cases hopen : d.channel.isOpen with
    | false => exact .refused d text hopen
    | true =>
      by_cases hfull : d.channel.capacity ≤ d.channel.waiting.length
      · simp only [Bool.not_true, Bool.false_eq_true, if_false, if_pos hfull]
        exact .dropped d text hopen hfull
      · have hsent := Delivers.sent d text hopen (Nat.lt_of_not_le hfull)
        simpa only [Bool.not_true, Bool.false_eq_true, if_false, if_neg hfull, hopen] using hsent

theorem Delivers.received_eq {t : Tick} {ending : Option Delivery.Ending} (h : t.Delivers ending) :
    t.after.received = t.before.received := by
  cases h <;> rfl

end Tick

/-- The tick that an event makes: a run that has ended, or that was cancelled, makes none. -/
def tick? (p : Pipeline σ) (r : Run σ) : Event → Option Tick
  | .turn =>
    if r.ending.isSome || r.cancelled then none
    else some { outcome := (p.renderOnce r.world).1, before := r.delivery, after := (r.step p .turn).delivery }
  | _ => none

/-- The ticks that events make, in their order. -/
def ticks (p : Pipeline σ) (r : Run σ) : List Event → List Tick
  | [] => []
  | e :: es => (r.tick? p e).toList ++ ticks p (r.step p e) es

/-- The run once its tick is done, before it ends if the tick ends it. -/
def ticking (p : Pipeline σ) (r : Run σ) : Run σ :=
  { r with world := (p.renderOnce r.world).2, delivery := (r.delivery.tick (p.renderOnce r.world).1).1 }

section Steps
variable {p : Pipeline σ} {r : Run σ} {e : Event} {es fs : List Event} {t : Tick}

theorem steps_cons : r.steps p (e :: es) = (r.step p e).steps p es := rfl

theorem steps_append : r.steps p (es ++ fs) = (r.steps p es).steps p fs := List.foldl_append

theorem ticks_append : r.ticks p (es ++ fs) = r.ticks p es ++ (r.steps p es).ticks p fs := by
  induction es generalizing r with
  | nil => rfl
  | cons e es ih => rw [List.cons_append, ticks, ih, ticks, List.append_assoc, steps_cons]

theorem step_turn_of_ended (h : r.ending.isSome = true) : r.step p .turn = r := by
  rw [step, if_pos h]

theorem step_turn_of_cancelled (hgoing : r.ending = none) (h : r.cancelled = true) :
    r.step p .turn = r.stop p (.ok ()) := by
  rw [step, hgoing, Option.isSome_none, if_neg Bool.false_ne_true, turn, if_pos h]

/-- A turn of a run that goes on is a tick, which ends the run if the delivery says so. -/
theorem step_turn (hgoing : r.ending = none) (h : r.cancelled = false) :
    r.step p .turn =
      match (r.delivery.tick (p.renderOnce r.world).1).2 with
      | none => r.ticking p
      | some ending => (r.ticking p).stop p ending := by
  rw [step, if_neg (by rw [hgoing]; exact Bool.false_ne_true), turn, if_neg (by rw [h]; exact Bool.false_ne_true)]
  rfl

theorem tick?_eq_some_iff :
    r.tick? p e = some t ↔ e = .turn ∧ r.ending = none ∧ r.cancelled = false ∧
      t = { outcome := (p.renderOnce r.world).1, before := r.delivery, after := (r.step p .turn).delivery } := by
  cases e with
  | turn =>
    cases hending : r.ending with
    | some ending => simp [tick?, hending]
    | none =>
      cases hcancelled : r.cancelled with
      | true => simp [tick?, hcancelled]
      | false => simp [tick?, hending, hcancelled, eq_comm]
  | receive | close | cancel => simp [tick?]

/-- What a tick does to the delivery of its run, and how it ends the run if it does. -/
theorem delivers_of_tick? (h : r.tick? p e = some t) :
    t.before = r.delivery ∧ t.after = (r.step p e).delivery ∧ t.Delivers (r.step p e).ending := by
  obtain ⟨rfl, hgoing, hcancelled, rfl⟩ := tick?_eq_some_iff.mp h
  have hdelivers := Tick.delivers r.delivery (p.renderOnce r.world).1
  refine ⟨rfl, rfl, ?_⟩
  rw [step_turn hgoing hcancelled]
  cases hend : (r.delivery.tick (p.renderOnce r.world).1).2 with
  | none =>
    rw [hend, ← hgoing] at hdelivers
    exact hdelivers
  | some ending =>
    rw [hend] at hdelivers
    exact hdelivers

/-- Only ticks and what happens to the receiver change the delivery. -/
theorem delivery_step_of_tick?_eq_none (h : r.tick? p e = none) :
    (r.step p e).delivery = r.delivery ∨ e = .receive ∨ e = .close := by
  cases e with
  | turn =>
    refine .inl ?_
    cases hending : r.ending with
    | some ending => rw [step_turn_of_ended (by rw [hending]; rfl)]
    | none =>
      cases hcancelled : r.cancelled with
      | true => rw [step_turn_of_cancelled hending hcancelled]; rfl
      | false => simp [tick?, hending, hcancelled] at h
  | receive => exact .inr (.inl rfl)
  | close => exact .inr (.inr rfl)
  | cancel => exact .inl rfl

theorem received_step_of_ne (p : Pipeline σ) (r : Run σ) (h : e ≠ .receive) :
    (r.step p e).delivery.received = r.delivery.received := by
  cases htick : r.tick? p e with
  | some t =>
    obtain ⟨hbefore, hafter, hdelivers⟩ := delivers_of_tick? htick
    rw [← hbefore, ← hafter, hdelivers.received_eq]
  | none =>
    rcases delivery_step_of_tick?_eq_none htick with heq | heq | rfl
    · rw [heq]
    · exact absurd heq h
    · rfl

/-- What was received stays received, and more comes behind it. -/
theorem received_step (p : Pipeline σ) (r : Run σ) (e : Event) :
    r.delivery.received <+: (r.step p e).delivery.received := by
  by_cases h : e = .receive
  · rw [h, step, Delivery.receive]
    split
    · exact List.prefix_rfl
    · exact List.prefix_append _ _
  · exact (received_step_of_ne p r h).symm ▸ List.prefix_rfl

theorem received_steps (p : Pipeline σ) (r : Run σ) (es : List Event) :
    r.delivery.received <+: (r.steps p es).delivery.received := by
  induction es generalizing r with
  | nil => exact List.prefix_rfl
  | cons e es ih => exact (received_step p r e).trans (ih (r.step p e))

end Steps

/-! ### After the end -/

/-- What a run that has ended leaves as it is; its channel may still be read and closed. -/
structure Rests (r r' : Run σ) : Prop where
  world : r'.world = r.world
  published : r'.published = r.published
  ending : r'.ending = r.ending
  overflows : r'.delivery.overflows = r.delivery.overflows

section Ended
variable {p : Pipeline σ} {r : Run σ}

theorem overflows_receive (d : Delivery) : d.receive.overflows = d.overflows := by
  rw [Delivery.receive]
  split <;> rfl

theorem rests_step (h : r.ending.isSome = true) (e : Event) : Rests r (r.step p e) := by
  cases e with
  | turn =>
    rw [step_turn_of_ended h]
    exact ⟨rfl, rfl, rfl, rfl⟩
  | receive => exact ⟨rfl, rfl, rfl, overflows_receive r.delivery⟩
  | close | cancel => exact ⟨rfl, rfl, rfl, rfl⟩

theorem rests_steps (h : r.ending.isSome = true) (es : List Event) : Rests r (r.steps p es) := by
  induction es generalizing r with
  | nil => exact ⟨rfl, rfl, rfl, rfl⟩
  | cons e es ih =>
    have hstep : Rests r (r.step p e) := rests_step h e
    have hrest := ih (r := r.step p e) (by rw [hstep.ending]; exact h)
    exact ⟨hrest.world.trans hstep.world, hrest.published.trans hstep.published, hrest.ending.trans hstep.ending,
      hrest.overflows.trans hstep.overflows⟩

theorem tick?_of_ended (h : r.ending.isSome = true) (e : Event) : r.tick? p e = none := by
  cases e with
  | turn => rw [tick?, if_pos (by rw [h, Bool.true_or])]
  | receive | close | cancel => rfl

theorem ticks_of_ended (h : r.ending.isSome = true) (es : List Event) : r.ticks p es = [] := by
  induction es generalizing r with
  | nil => rfl
  | cons e es ih =>
    have hstep : Rests r (r.step p e) := rests_step h e
    rw [ticks, tick?_of_ended h, ih (by rw [hstep.ending]; exact h)]
    rfl

/-- A text that finds no receiver ends the run well: its tick is the last, and is not counted. -/
theorem refused_last {es : List Event} {earlier later : List Tick} {t : Tick}
    (h : r.ticks p es = earlier ++ t :: later) (hclosed : t.before.channel.isOpen = false)
    (hsucceeded : t.succeeded = true) :
    later = [] ∧ (r.steps p es).ending = some (.ok ()) ∧ (r.steps p es).delivery.overflows = t.before.overflows := by
  induction es generalizing r earlier with
  | nil => exact absurd h.symm (List.append_ne_nil_of_right_ne_nil _ (List.cons_ne_nil _ _))
  | cons e es ih =>
    rw [ticks] at h
    cases htick : r.tick? p e with
    | none =>
      rw [htick] at h
      exact ih h
    | some u =>
      rw [htick] at h
      cases earlier with
      | cons v earlier => exact ih (List.cons.inj h).2
      | nil =>
        obtain ⟨rfl, hlater⟩ := List.cons.inj h
        obtain ⟨-, hafter, hdelivers⟩ := delivers_of_tick? htick
        have hrefused : (r.step p e).ending = some (.ok ()) ∧ u.after = u.before := by
          generalize (r.step p e).ending = ending at hdelivers
          cases hdelivers with
          | failed => cases hsucceeded
          | sent d text isOpen | dropped d text isOpen =>
            rw [hclosed] at isOpen
            cases isOpen
          | refused => exact ⟨rfl, rfl⟩
        have hended : (r.step p e).ending.isSome = true := by rw [hrefused.1]; rfl
        have hrests : Rests (r.step p e) ((r.step p e).steps p es) := rests_steps hended es
        refine ⟨hlater.symm.trans (ticks_of_ended hended es), hrests.ending.trans hrefused.1, ?_⟩
        rw [steps_cons, hrests.overflows, ← hafter, hrefused.2]

end Ended

/-! ### After a cancellation -/

section Cancelled
variable {p : Pipeline σ} {r : Run σ}

theorem cancelled_step (h : r.cancelled = true) (e : Event) : (r.step p e).cancelled = true := by
  cases e with
  | turn =>
    cases hending : r.ending with
    | some ending => rw [step_turn_of_ended (by rw [hending]; rfl), h]
    | none =>
      rw [step_turn_of_cancelled hending h]
      exact h
  | receive | close => exact h
  | cancel => rfl

theorem ticks_of_cancelled (h : r.cancelled = true) (es : List Event) : r.ticks p es = [] := by
  induction es generalizing r with
  | nil => rfl
  | cons e es ih =>
    have hnone : r.tick? p e = none := by
      cases e with
      | turn => rw [tick?, if_pos (by rw [h, Bool.or_true])]
      | receive | close | cancel => rfl
    rw [ticks, hnone, ih (cancelled_step h e)]
    rfl

end Cancelled
end Run
end Telemetry
