import Telemetry.Exporter.Serving
import Telemetry.Proofs.Pipeline.Accounting

/-! What scrapes see of a lifetime. Before anything is published there are no metrics and no health; from
    then on every scrape sees the whole text of one tick, and a later scrape never that of an earlier tick. -/

namespace Telemetry

/-! ### The ticks whose texts went into the channel -/

namespace Run

/-- The ticks whose texts went into the channel, each with its number among all ticks. -/
def numberedSent (ts : List Tick) : List (Tick × Nat) := ts.zipIdx.filter fun t => t.1.sent

section Numbered
variable {n k : Nat} {ts us : List Tick} {t : Tick} {d : Delivery}

theorem numberedSent_prefix (ts us : List Tick) : numberedSent ts <+: numberedSent (ts ++ us) := by
  rw [numberedSent, numberedSent, List.zipIdx_append, List.filter_append]
  exact List.prefix_append _ _

theorem numberedSent_ascending {l m : Nat} {t u : Tick} (hn : (numberedSent ts)[k]? = some (t, n))
    (hm : (numberedSent ts)[l]? = some (u, m)) (h : k < l) : n < m := by
  have hnumbers : (ts.zipIdx.map Prod.snd).Pairwise (· < ·) := by
    rw [List.zipIdx_map_snd]
    exact List.pairwise_lt_range'
  have hsent : (numberedSent ts).Pairwise fun t u => t.2 < u.2 := (List.pairwise_map.mp hnumbers).filter _
  obtain ⟨hk, hn⟩ := List.getElem?_eq_some_iff.mp hn
  obtain ⟨hl, hm⟩ := List.getElem?_eq_some_iff.mp hm
  have hlt := List.pairwise_iff_getElem.mp hsent k l hk hl h
  rwa [hn, hm] at hlt

theorem of_mem_numberedSent (h : (t, n) ∈ numberedSent ts) : ts[n]? = some t ∧ t.sent = true := by
  obtain ⟨hmem, hsent⟩ := List.mem_filter.mp h
  exact ⟨List.mem_zipIdx_iff_getElem?.mp hmem, hsent⟩

theorem map_fst_numberedSent (ts : List Tick) : (numberedSent ts).map Prod.fst = ts.filter Tick.sent := by
  calc (numberedSent ts).map Prod.fst = (ts.zipIdx.map Prod.fst).filter Tick.sent := by rw [List.filter_map]; rfl
    _ = ts.filter Tick.sent := by rw [List.zipIdx_map_fst]

/-- The text that was received in some place is that of the tick that has this place among those sent. -/
theorem Accounted.tick_of_received (h : Accounted n ts d) {text : String} (hk : d.received[k]? = some text) :
    ∃ t i, (numberedSent ts)[k]? = some (t, i) ∧ ts[i]? = some t ∧ t.outcome = .ok text ∧ t.dropped = false := by
  have htext : ∀ t ∈ ts.filter Tick.sent, t.text? = some (t.text?.getD "") := by
    intro t ht
    obtain ⟨ht, hsent⟩ := List.mem_filter.mp ht
    obtain ⟨⟨text, hok⟩, -⟩ := (h.fair t ht).of_sent hsent
    rw [Tick.text?, hok]
    rfl
  have hplace : (d.received ++ d.channel.waiting)[k]? = some text := by
    obtain ⟨hlt, -⟩ := List.getElem?_eq_some_iff.mp hk
    rw [List.getElem?_append_left hlt, hk]
  rw [h.texts, List.filterMap_eq_map_iff_forall_eq_some.mpr htext, ← map_fst_numberedSent, List.map_map,
    List.getElem?_map, Option.map_eq_some_iff] at hplace
  obtain ⟨⟨t, i⟩, hnumbered, heq⟩ := hplace
  obtain ⟨hi, hsent⟩ := of_mem_numberedSent (List.mem_of_getElem? hnumbered)
  obtain ⟨⟨text', hok⟩, hdropped⟩ := (h.fair t (List.mem_of_getElem? hi)).of_sent hsent
  have htext' : text' = text := by
    simpa only [Function.comp_apply, Tick.text?, hok, Except.toOption, Option.getD_some] using heq
  exact ⟨t, i, hnumbered, hi, htext' ▸ hok, hdropped⟩

end Numbered
end Run

/-! ### Targets -/

namespace Router

/-- A path as pages have it: it begins with a slash, and holds no query and no fragment. -/
def IsPage (page : String) : Prop := page.toList.head? = some '/' ∧ page.toList.all isPathChar = true

instance (page : String) : Decidable (IsPage page) := inferInstanceAs (Decidable (_ ∧ _))

/-- The path of a target that begins with one, up to what cannot stand in it. -/
theorem IsPage.path_append {page : String} (h : IsPage page) (rest : String)
    (hrest : rest.toList.takeWhile isPathChar = []) : path (page ++ rest) = page := by
  obtain ⟨hslash, hchars⟩ := h
  have htake : (page ++ rest).toList.takeWhile isPathChar = page.toList := by
    rw [String.toList_append, List.takeWhile_append_of_pos (List.all_eq_true.mp hchars), hrest, List.append_nil]
  obtain ⟨cs, hcs⟩ := List.head?_eq_some_iff.mp hslash
  rw [path, htake, hcs]
  exact (congrArg String.ofList hcs.symm).trans String.ofList_toList

theorem IsPage.path_eq {page : String} (h : IsPage page) : path page = page := by
  simpa using h.path_append "" rfl

theorem IsPage.path_query {page : String} (h : IsPage page) (query : String) : path (page ++ "?" ++ query) = page := by
  rw [String.append_assoc]
  refine h.path_append _ ?_
  rw [String.toList_append]
  rfl

end Router

namespace Serving

variable {σ : Type}

/-! ### The run of a lifetime -/

/-- What an event of a lifetime is to its run, if it concerns the run at all. -/
def runEvent? (x : Serving σ) : Event → Option Run.Event
  | .turn => some .turn
  | .publish => if x.run.cancelled then none else some .receive
  | .request .. => none
  | .cancel => some .cancel

def runEvents (p : Pipeline σ) (x : Serving σ) : List Event → List Run.Event
  | [] => []
  | e :: es => (x.runEvent? e).toList ++ runEvents p (x.step p e) es

/-- The ticks of a lifetime, in their order. -/
def ticks (p : Pipeline σ) (x : Serving σ) (es : List Event) : List Run.Tick := x.run.ticks p (x.runEvents p es)

/-- The number of the tick whose text is shown, if one is: of the texts that went into the channel, the
    server has published so many as were taken out. -/
def shown? (p : Pipeline σ) (x : Serving σ) (es : List Event) : Option Nat :=
  match (x.steps p es).run.delivery.received.length with
  | 0 => none
  | k + 1 => ((Run.numberedSent (x.ticks p es))[k]?).map Prod.snd

section Steps
variable {p : Pipeline σ} {x : Serving σ} {e : Event} {es later : List Event}

theorem steps_cons : x.steps p (e :: es) = (x.step p e).steps p es := rfl

theorem steps_append : x.steps p (es ++ later) = (x.steps p es).steps p later := List.foldl_append

theorem run_publishNext (p : Pipeline σ) (x : Serving σ) : (x.publishNext p).run = x.run.step p .receive := by
  rw [publishNext]
  cases hreceive : x.run.delivery.channel.receive with
  | none => rw [Run.step, Delivery.receive, hreceive]
  | some received => rfl

theorem run_step (p : Pipeline σ) (x : Serving σ) (e : Event) :
    (x.step p e).run = x.run.steps p (x.runEvent? e).toList := by
  cases e with
  | turn | request | cancel => rfl
  | publish =>
    rw [step, runEvent?]
    split
    · rfl
    · exact run_publishNext p x

theorem run_steps (p : Pipeline σ) (x : Serving σ) (es : List Event) :
    (x.steps p es).run = x.run.steps p (x.runEvents p es) := by
  induction es generalizing x with
  | nil => rfl
  | cons e es ih => rw [steps_cons, ih, runEvents, Run.steps_append, run_step]

theorem runEvents_append : x.runEvents p (es ++ later) = x.runEvents p es ++ (x.steps p es).runEvents p later := by
  induction es generalizing x with
  | nil => rfl
  | cons e es ih => rw [List.cons_append, runEvents, ih, runEvents, List.append_assoc, steps_cons]

theorem ticks_append : x.ticks p (es ++ later) = x.ticks p es ++ (x.steps p es).ticks p later := by
  rw [ticks, runEvents_append, Run.ticks_append, ← run_steps]
  rfl

theorem received_steps (p : Pipeline σ) (x : Serving σ) (es : List Event) :
    x.run.delivery.received <+: (x.steps p es).run.delivery.received := by
  rw [run_steps]
  exact Run.received_steps p x.run _

/-! ### What is shown -/

/-- The text that is shown is the last that was taken out of the channel. -/
theorem latest_step (h : x.store.latest = x.run.delivery.received.getLast?) (e : Event) :
    (x.step p e).store.latest = (x.step p e).run.delivery.received.getLast? := by
  cases e with
  | request | cancel => exact h
  | turn =>
    have hsame := Run.received_step_of_ne p x.run (e := .turn) Run.Event.noConfusion
    exact h.trans (congrArg List.getLast? hsame.symm)
  | publish =>
    rw [step]
    split
    · exact h
    · rw [run_publishNext, publishNext, Run.step, Delivery.receive]
      cases x.run.delivery.channel.receive with
      | none => exact h
      | some received => exact List.getLast?_concat.symm

theorem latest_steps (h : x.store.latest = x.run.delivery.received.getLast?) (es : List Event) :
    (x.steps p es).store.latest = (x.steps p es).run.delivery.received.getLast? := by
  induction es generalizing x with
  | nil => exact h
  | cons e es ih => exact ih (latest_step h e)

theorem shown?_eq_some_iff {n : Nat} :
    x.shown? p es = some n ↔
      ∃ k t, (x.steps p es).run.delivery.received.length = k + 1 ∧
        (Run.numberedSent (x.ticks p es))[k]? = some (t, n) := by
  rw [shown?]
  cases (x.steps p es).run.delivery.received.length with
  | zero => simp
  | succ k => simp

end Steps

/-! ### What is shown from the start on -/

section Begun
variable (p : Pipeline σ) (capacity : Nat) (world : σ) (es : List Event)

theorem accounted_start :
    Run.Accounted capacity ((start capacity world).ticks p es) ((start capacity world).steps p es).run.delivery := by
  rw [run_steps]
  exact (Run.Accounted.start capacity world).steps _

theorem latest_start :
    ((start capacity world).steps p es).store.latest =
      ((start capacity world).steps p es).run.delivery.received.getLast? :=
  latest_steps (x := start capacity world) rfl es

/-- Once something was published, the text of a tick is shown. -/
theorem exists_shown (h : ((start capacity world).steps p es).run.delivery.received ≠ []) :
    ∃ n t text, (start capacity world).shown? p es = some n ∧ ((start capacity world).ticks p es)[n]? = some t ∧
      t.outcome = .ok text ∧ t.dropped = false ∧ ((start capacity world).steps p es).store.latest = some text := by
  have hlength : 0 < ((start capacity world).steps p es).run.delivery.received.length :=
    List.length_pos_iff.mpr h
  obtain ⟨k, hk⟩ := Nat.exists_eq_succ_of_ne_zero (Nat.ne_of_gt hlength)
  have hlast := latest_start p capacity world es
  rw [List.getLast?_eq_getElem?, hk, Nat.succ_sub_one] at hlast
  have hlt : k < ((start capacity world).steps p es).run.delivery.received.length := by omega
  have hplace := List.getElem?_eq_getElem hlt
  obtain ⟨t, n, hnumbered, hn, hok, hdropped⟩ := (accounted_start p capacity world es).tick_of_received hplace
  exact ⟨n, t, _, shown?_eq_some_iff.mpr ⟨k, t, hk, hnumbered⟩, hn, hok, hdropped, hlast.trans hplace⟩

/-- What is shown later is of the same tick or of a later one. -/
theorem shown?_mono {n : Nat} (later : List Event) (h : (start capacity world).shown? p es = some n) :
    ∃ m, (start capacity world).shown? p (es ++ later) = some m ∧ n ≤ m := by
  obtain ⟨k, t, hk, hn⟩ := shown?_eq_some_iff.mp h
  have hreceived := (received_steps p ((start capacity world).steps p es) later).length_le
  rw [← steps_append] at hreceived
  have hpublished : ((start capacity world).steps p (es ++ later)).run.delivery.received ≠ [] := by
    refine List.length_pos_iff.mp ?_
    omega
  obtain ⟨m, -, -, hshown, -⟩ := exists_shown p capacity world (es ++ later) hpublished
  refine ⟨m, hshown, ?_⟩
  obtain ⟨l, u, hl, hm⟩ := shown?_eq_some_iff.mp hshown
  -- The texts sent up to now are a beginning of those sent up to then, under the same numbers.
  have hprefix := Run.numberedSent_prefix ((start capacity world).ticks p es)
    (((start capacity world).steps p es).ticks p later)
  rw [← ticks_append] at hprefix
  have hn : (Run.numberedSent ((start capacity world).ticks p (es ++ later)))[k]? = some (t, n) := by
    rw [← hn]
    obtain ⟨hlt, -⟩ := List.getElem?_eq_some_iff.mp hn
    obtain ⟨rest, hrest⟩ := hprefix
    rw [← hrest, List.getElem?_append_left hlt]
  rcases Nat.eq_or_lt_of_le (show k ≤ l by omega) with rfl | hlt
  · have heq : (t, n) = (u, m) := Option.some.inj (hn.symm.trans hm)
    exact Nat.le_of_eq (congrArg Prod.snd heq)
  · exact Nat.le_of_lt (Run.numberedSent_ascending hn hm hlt)

/-- A text that waits is shown once the server publishes. -/
theorem exists_shown_publish (hgoing : ((start capacity world).steps p es).run.cancelled = false)
    (hwaiting : ((start capacity world).steps p es).run.delivery.channel.waiting ≠ []) :
    ∃ n, (start capacity world).shown? p (es ++ [.publish]) = some n := by
  have hreceived : ((start capacity world).steps p (es ++ [.publish])).run.delivery.received ≠ [] := by
    obtain ⟨text, rest, hcons⟩ := List.exists_cons_of_ne_nil hwaiting
    rw [steps_append, steps_cons, step, hgoing, if_neg Bool.false_ne_true, steps, List.foldl_nil, run_publishNext,
      Run.step, Delivery.receive, Channel.receive, hcons]
    exact List.concat_ne_nil text _
  obtain ⟨n, -, -, hshown, -⟩ := exists_shown p capacity world (es ++ [.publish]) hreceived
  exact ⟨n, hshown⟩

end Begun

/-! ### After the last publication -/

/-- Nothing will be published any more: the server has stopped publishing, or the run has ended and left
    nothing in the channel. -/
def Over (x : Serving σ) : Prop :=
  x.run.cancelled = true ∨ x.run.ending.isSome = true ∧ x.run.delivery.channel.waiting = []

section Over
variable {p : Pipeline σ} {x : Serving σ}

theorem over_step (h : x.Over) (e : Event) : (x.step p e).Over ∧ (x.step p e).store = x.store := by
  cases e with
  | turn =>
    refine ⟨?_, rfl⟩
    rcases h with hcancelled | ⟨hended, hempty⟩
    · exact .inl (Run.cancelled_step hcancelled .turn)
    · have hsame : x.run.step p .turn = x.run := Run.step_turn_of_ended hended
      exact .inr (by rw [step, hsame]; exact ⟨hended, hempty⟩)
  | publish =>
    rcases h with hcancelled | ⟨hended, hempty⟩
    · rw [step, if_pos hcancelled]
      exact ⟨.inl hcancelled, rfl⟩
    · have hsame : x.publishNext p = x := by rw [publishNext, Channel.receive, hempty]
      rw [step, hsame, ite_self]
      exact ⟨.inr ⟨hended, hempty⟩, rfl⟩
  | request => exact ⟨h, rfl⟩
  | cancel => exact ⟨.inl rfl, rfl⟩

theorem store_steps_of_over (h : x.Over) (es : List Event) : (x.steps p es).store = x.store := by
  induction es generalizing x with
  | nil => rfl
  | cons e es ih =>
    obtain ⟨hover, hstore⟩ := over_step (p := p) h e
    rw [steps_cons, ih hover, hstore]

end Over

/-! ### Answers -/

/-- The answer that carries a text as the metrics. -/
def exposition (text : String) : Response :=
  { status := 200, contentType := some Router.expositionType, body := text }

def healthy : Response := { status := 200, contentType := some Router.plainType, body := "OK" }

def unhealthy : Response := { status := 503, contentType := some Router.plainType, body := "KO" }

/-- GET on a page is answered so: for its path alone, with a query behind it, and however else a target has the path. -/
structure Gives (p : Pipeline σ) (x : Serving σ) (page : String) (r : Response) : Prop where
  plain : (x.step p (.request "GET" page)).answers = x.answers ++ [r]
  query : ∀ query, (x.step p (.request "GET" (page ++ "?" ++ query))).answers = x.answers ++ [r]
  path : ∀ target, Router.path target = page → (x.step p (.request "GET" target)).answers = x.answers ++ [r]

/-- What GET is answered for the metrics and for the health. -/
structure Answers (p : Pipeline σ) (x : Serving σ) (text : String) (health : Response) : Prop where
  metrics : x.Gives p "/metrics" (exposition text)
  health : x.Gives p "/health" health

section Answers
variable {p : Pipeline σ} {x y : Serving σ} {text page : String} {r health : Response}

theorem gives_of_page? (hpage : Router.IsPage page) (h : Router.page? x.store page = some r) : x.Gives p page r := by
  have hpath (target : String) (htarget : Router.path target = page) :
      (x.step p (.request "GET" target)).answers = x.answers ++ [r] := by
    rw [step, Router.respond, htarget, h]
    rfl
  exact ⟨hpath page hpage.path_eq, fun query => hpath _ (hpage.path_query query), hpath⟩

theorem answers_of_empty (h : x.store.latest = none) : x.Answers p "" unhealthy where
  metrics := gives_of_page? (by decide) (by rw [Router.page?, h]; rfl)
  health := gives_of_page? (by decide) (by rw [Router.page?, Store.isReady, h]; rfl)

theorem answers_of_latest (h : x.store.latest = some text) : x.Answers p text healthy where
  metrics := gives_of_page? (by decide) (by rw [Router.page?, h]; rfl)
  health := gives_of_page? (by decide) (by rw [Router.page?, Store.isReady, h]; rfl)

/-- The answers depend on nothing but what the store holds. -/
theorem Gives.of_store_eq (h : x.Gives p page r) (hstore : y.store = x.store) : y.Gives p page r := by
  have hsame (target : String) (htarget : (x.step p (.request "GET" target)).answers = x.answers ++ [r]) :
      (y.step p (.request "GET" target)).answers = y.answers ++ [r] := by
    rw [step, hstore]
    exact congrArg (y.answers ++ ·) (List.append_cancel_left htarget)
  exact ⟨hsame _ h.plain, fun query => hsame _ (h.query query),
    fun target htarget => hsame _ (h.path target htarget)⟩

theorem Answers.of_store_eq (h : x.Answers p text health) (hstore : y.store = x.store) : y.Answers p text health :=
  ⟨h.metrics.of_store_eq hstore, h.health.of_store_eq hstore⟩

end Answers

/-- What scrapes see at any moment of a lifetime. Before the first publication, which a text that waits is enough
    for, the metrics are empty and the health is bad. From then on the health is good, and the metrics are the
    whole text of one tick that succeeded and was not dropped; what is seen later is of the same tick or of a
    later one, and once nothing is published any more it stays as it is. -/
theorem scrapes_follow_ticks (p : Pipeline σ) (capacity : Nat) (world : σ) (es later : List Event) :
    ((start capacity world).shown? p es = none →
        ((start capacity world).steps p es).run.delivery.received = [] ∧
          ((start capacity world).steps p es).Answers p "" unhealthy) ∧
      (((start capacity world).steps p es).run.cancelled = false →
        ((start capacity world).steps p es).run.delivery.channel.waiting ≠ [] →
          ∃ n, (start capacity world).shown? p (es ++ [.publish]) = some n) ∧
      (∀ n, (start capacity world).shown? p es = some n →
        ((start capacity world).steps p es).run.delivery.received ≠ [] ∧
          (∃ t text, ((start capacity world).ticks p es)[n]? = some t ∧ t.outcome = .ok text ∧
            t.dropped = false ∧ ((start capacity world).steps p es).Answers p text healthy) ∧
          ∃ m, (start capacity world).shown? p (es ++ later) = some m ∧ n ≤ m) ∧
      (((start capacity world).steps p es).Over → ∀ text health,
        ((start capacity world).steps p es).Answers p text health →
          ((start capacity world).steps p (es ++ later)).Answers p text health) := by
  have hlatest := latest_start p capacity world es
  refine ⟨fun hnone => ?_, exists_shown_publish p capacity world es, fun n hsome => ?_,
    fun hover text health hanswers => ?_⟩
  · have hnothing : ((start capacity world).steps p es).run.delivery.received = [] := by
      by_contra hne
      obtain ⟨n, -, -, hshown, -⟩ := exists_shown p capacity world es hne
      exact Option.some_ne_none n (hshown.symm.trans hnone)
    rw [hnothing] at hlatest
    exact ⟨hnothing, answers_of_empty hlatest⟩
  · have hpublished : ((start capacity world).steps p es).run.delivery.received ≠ [] := by
      obtain ⟨k, -, hk, -⟩ := shown?_eq_some_iff.mp hsome
      exact List.ne_nil_of_length_eq_add_one hk
    obtain ⟨m, t, text, hshown, htick, hok, hdropped, htext⟩ := exists_shown p capacity world es hpublished
    obtain rfl : m = n := Option.some.inj (hshown.symm.trans hsome)
    exact ⟨hpublished, ⟨t, text, htick, hok, hdropped, answers_of_latest htext⟩,
      shown?_mono p capacity world es later hsome⟩
  · refine hanswers.of_store_eq ?_
    rw [steps_append]
    exact store_steps_of_over hover later

end Serving
end Telemetry
