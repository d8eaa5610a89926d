import Mathlib.Data.List.Basic
import Telemetry.Proofs.Pipeline.Ticks

/-! The accounts of a run: every text that its ticks made is received, waits in the channel, or was dropped
    and counted. The order is kept, and only what no longer fits is dropped. -/

namespace Telemetry
namespace Run

/-! ### One tick -/

namespace Tick

/-- The tick did what ticks do to a delivery, whose channel holds so many texts and no more. -/
structure Fair (n : Nat) (t : Tick) : Prop where
  delivers : ∃ ending, t.Delivers ending
  capacity : t.before.channel.capacity = n
  bounded : t.before.channel.waiting.length ≤ n

section Fair
variable {n : Nat} {t : Tick}

theorem Fair.eq_of_failed (h : t.Fair n) (hfailed : t.succeeded = false) : t.after = t.before := by
  obtain ⟨⟨ending, hdelivers⟩, -, -⟩ := h
  cases hdelivers with
  | failed d r => rfl
  | sent | dropped | refused => cases hfailed

/-- A text is dropped exactly if as many texts wait as the channel holds. -/
theorem Fair.dropped_iff (h : t.Fair n) :
    t.dropped = true ↔
      t.succeeded = true ∧ t.before.channel.isOpen = true ∧ t.before.channel.waiting.length = n := by
  obtain ⟨⟨ending, hdelivers⟩, hcapacity, hbounded⟩ := h
  cases hdelivers with
  | failed d r => simp [dropped, succeeded, text?, Except.toOption]
  | sent d text isOpen room =>
    have hne : d.channel.waiting.length ≠ n := Nat.ne_of_lt (hcapacity ▸ room)
    simp [dropped, hne]
  | dropped d text isOpen full =>
    have heq : d.channel.waiting.length = n := Nat.le_antisymm hbounded (hcapacity ▸ full)
    simp [dropped, succeeded, text?, Except.toOption, isOpen, heq]
  | refused d text closed => simp [dropped, closed]

/-- What waits when a text is dropped goes on waiting. -/
theorem Fair.eq_of_dropped (h : t.Fair n) (hdropped : t.dropped = true) :
    t.after = { t.before with overflows := t.before.overflows + 1 } := by
  obtain ⟨⟨ending, hdelivers⟩, -, -⟩ := h
  cases hdelivers with
  | dropped => rfl
  | failed | sent | refused => simp [Tick.dropped] at hdropped

/-- As long as there is a receiver, a text is sent unless it is dropped. -/
theorem Fair.sent_eq (h : t.Fair n) (hopen : t.before.channel.isOpen = true) :
    t.sent = (t.succeeded && !t.dropped) := by
  obtain ⟨⟨ending, hdelivers⟩, -, -⟩ := h
  cases hdelivers with
  | failed d r => simp [sent, succeeded, text?, Except.toOption]
  | sent d text isOpen room => simp [sent, succeeded, dropped, text?, Except.toOption]
  | dropped d text isOpen full => simp [sent, dropped]
  | refused d text closed => exact absurd hopen (by rw [closed]; exact Bool.false_ne_true)

theorem Fair.of_sent (h : t.Fair n) (hsent : t.sent = true) : (∃ text, t.outcome = .ok text) ∧ t.dropped = false := by
  obtain ⟨⟨ending, hdelivers⟩, -, -⟩ := h
  cases hdelivers with
  | sent d text isOpen room => exact ⟨⟨text, rfl⟩, by simp [dropped]⟩
  | failed | dropped | refused => simp [sent] at hsent

end Fair
end Tick

/-! ### All ticks -/

section Counting
variable {n : Nat} {ts : List Tick}

/-- The texts that were sent are those that were not dropped. -/
theorem texts_sent_eq (hfair : ∀ t ∈ ts, t.Fair n) (hopen : ∀ t ∈ ts, t.before.channel.isOpen = true) :
    (ts.filter Tick.sent).filterMap Tick.text? = (ts.filter fun t => !t.dropped).filterMap Tick.text? := by
  rw [List.filterMap_filter, List.filterMap_filter]
  refine List.filterMap_congr fun t ht => ?_
  rw [(hfair t ht).sent_eq (hopen t ht), Tick.succeeded]
  cases htext : t.text? <;> cases t.dropped <;> rfl

theorem countP_succeeded_eq (hfair : ∀ t ∈ ts, t.Fair n)
    (hopen : ∀ t ∈ ts, t.before.channel.isOpen = true) :
    ts.countP Tick.succeeded = ((ts.filter Tick.sent).filterMap Tick.text?).length + ts.countP Tick.dropped := by
  induction ts with
  | nil => rfl
  | cons t ts ih =>
    have ih := ih (fun u hu => hfair u (List.mem_cons_of_mem _ hu)) fun u hu => hopen u (List.mem_cons_of_mem _ hu)
    have hfair := hfair t List.mem_cons_self
    have hopen := hopen t List.mem_cons_self
    rw [List.countP_cons, List.countP_cons, ih, List.filter_cons, hfair.sent_eq hopen]
    cases hdropped : t.dropped with
    | true =>
      have hsucceeded := (hfair.dropped_iff.mp hdropped).1
      simp [hsucceeded, Nat.add_assoc]
    | false =>
      cases htext : t.text? with
      | none => simp [Tick.succeeded, htext]
      | some text => simp [Tick.succeeded, htext]; omega

end Counting

/-! ### The accounts -/

/-- The delivery holds what the ticks have made of it. -/
structure Accounted (n : Nat) (ts : List Tick) (d : Delivery) : Prop where
  capacity : d.channel.capacity = n
  bounded : d.channel.waiting.length ≤ n
  texts : d.received ++ d.channel.waiting = (ts.filter Tick.sent).filterMap Tick.text?
  overflows : d.overflows = ts.countP Tick.dropped
  fair : ∀ t ∈ ts, t.Fair n
  /-- A receiver that is gone does not come back. -/
  receiver : d.channel.isOpen = true → ∀ t ∈ ts, t.before.channel.isOpen = true

namespace Accounted
variable {σ : Type} {n : Nat} {ts : List Tick} {d d' : Delivery} {t : Tick}

theorem receive (h : Accounted n ts d) : Accounted n ts d.receive := by
  rcases hwaiting : d.channel.waiting with _ | ⟨text, rest⟩
  · have heq : d.receive = d := by simp only [Delivery.receive, Channel.receive, hwaiting]
    rwa [heq]
  · have heq : d.receive =
        { d with channel := { d.channel with waiting := rest }, received := d.received ++ [text] } := by
      simp only [Delivery.receive, Channel.receive, hwaiting]
    rw [heq]
    have hbounded := h.bounded
    have htexts := h.texts
    rw [hwaiting] at hbounded htexts
    refine ⟨h.capacity, Nat.le_of_succ_le hbounded, ?_, h.overflows, h.fair, h.receiver⟩
    rw [← htexts, List.append_assoc, List.singleton_append]

theorem close (h : Accounted n ts d) : Accounted n ts d.close where
  capacity := h.capacity
  bounded := h.bounded
  texts := h.texts
  overflows := h.overflows
  fair := h.fair
  receiver := fun hopen => Bool.noConfusion hopen

theorem tick {ending : Option Delivery.Ending} (h : Accounted n ts t.before) (hdelivers : t.Delivers ending) :
    Accounted n (ts ++ [t]) t.after := by
  have hfair : ∀ u ∈ ts ++ [t], u.Fair n := by
    intro u hu
    rcases List.mem_append.mp hu with hu | hu
    · exact h.fair u hu
    · obtain rfl := List.mem_singleton.mp hu
      exact ⟨⟨ending, hdelivers⟩, h.capacity, h.bounded⟩
  have hreceiver : t.before.channel.isOpen = true → ∀ u ∈ ts ++ [t], u.before.channel.isOpen = true := by
    intro hopen u hu
    rcases List.mem_append.mp hu with hu | hu
    · exact h.receiver hopen u hu
    · exact List.mem_singleton.mp hu ▸ hopen
  cases hdelivers with
  | failed d r =>
    refine ⟨h.capacity, h.bounded, ?_, ?_, hfair, hreceiver⟩
    · simpa [Tick.sent] using h.texts
    · simpa [Tick.dropped] using h.overflows
  | sent d text isOpen room =>
    refine ⟨h.capacity, ?_, ?_, ?_, hfair, hreceiver⟩
    · rw [List.length_append]
      exact h.capacity ▸ room
    · rw [List.filter_append, List.filterMap_append, ← h.texts, List.append_assoc]
      simp [Tick.sent, Tick.text?, Except.toOption]
    · simpa [Tick.dropped] using h.overflows
  | dropped d text isOpen full =>
    refine ⟨h.capacity, h.bounded, ?_, ?_, hfair, hreceiver⟩
    · simpa [Tick.sent] using h.texts
    · simpa [Tick.dropped] using h.overflows
  | refused d text closed =>
    refine ⟨h.capacity, h.bounded, ?_, ?_, hfair, hreceiver⟩
    · simpa [Tick.sent] using h.texts
    · simpa [Tick.dropped] using h.overflows

theorem step {p : Pipeline σ} {r : Run σ} (h : Accounted n ts r.delivery) (e : Event) :
    Accounted n (ts ++ (r.tick? p e).toList) (r.step p e).delivery := by
  cases htick : r.tick? p e with
  | some t =>
    obtain ⟨hbefore, hafter, hdelivers⟩ := delivers_of_tick? htick
    rw [← hbefore] at h
    rw [← hafter]
    exact h.tick hdelivers
  | none =>
    rw [Option.toList_none, List.append_nil]
    rcases delivery_step_of_tick?_eq_none htick with heq | rfl | rfl
    · rwa [heq]
    · exact h.receive
    · exact h.close

theorem steps {p : Pipeline σ} {r : Run σ} (h : Accounted n ts r.delivery) (es : List Event) :
    Accounted n (ts ++ r.ticks p es) (r.steps p es).delivery := by
  induction es generalizing r ts with
  | nil => rwa [ticks, List.append_nil]
  | cons e es ih =>
    rw [ticks, ← List.append_assoc, steps_cons]
    exact ih (h.step e)

theorem start (n : Nat) (world : σ) : Accounted n [] (Run.start { capacity := n } world).delivery where
  capacity := rfl
  bounded := Nat.zero_le _
  texts := rfl
  overflows := rfl
  fair := fun _ ht => absurd ht List.not_mem_nil
  receiver := fun _ _ ht => absurd ht List.not_mem_nil

end Accounted

/-- The accounts of a run, at any moment. While there is a receiver, every text is received, waits or was
    counted as an overflow; those received and then those that wait are all that were not dropped, in the
    order of their ticks. A text is dropped if and only if the channel is full when its tick offers it, and
    what waits stays. A tick that fails changes nothing; without a receiver the first text is the end. -/
theorem renders_accounted {σ : Type} (p : Pipeline σ) (capacity : Nat) (world : σ) (es : List Event) :
    let begun := start { capacity } world
    let r := begun.steps p es
    let ts := begun.ticks p es
    let d := r.delivery
    d.channel.waiting.length ≤ capacity ∧
    (d.channel.isOpen = true →
      ts.countP Tick.succeeded = d.received.length + d.channel.waiting.length + d.overflows ∧
      d.received ++ d.channel.waiting = (ts.filter fun t => !t.dropped).filterMap Tick.text?) ∧
    (∀ t ∈ ts,
      (t.dropped = true ↔
        t.succeeded = true ∧ t.before.channel.isOpen = true ∧ t.before.channel.waiting.length = capacity) ∧
      (t.dropped = true → t.after = { t.before with overflows := t.before.overflows + 1 }) ∧
      (t.succeeded = false → t.after = t.before)) ∧
    ∀ earlier t later, ts = earlier ++ t :: later → t.before.channel.isOpen = false → t.succeeded = true →
      later = [] ∧ r.ending = some (.ok ()) ∧ d.overflows = t.before.overflows := by
  intro begun r ts d
  have h : Accounted capacity ts d := (Accounted.start capacity world).steps es
  refine ⟨h.bounded, fun hopen => ⟨?count, ?texts⟩, fun t ht => ⟨?_, ?_, ?_⟩, fun _ _ _ => refused_last⟩
  case count =>
    rw [countP_succeeded_eq h.fair (h.receiver hopen), ← h.texts, h.overflows, List.length_append]
  case texts => rw [h.texts, texts_sent_eq h.fair (h.receiver hopen)]
  · exact (h.fair t ht).dropped_iff
  · exact (h.fair t ht).eq_of_dropped
  · exact (h.fair t ht).eq_of_failed

end Run
end Telemetry
