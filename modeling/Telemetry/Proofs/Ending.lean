import Mathlib.Data.List.Forall2
import Telemetry.Action

/-! How checks end that are made one after the other, each of which may have a fault. They end with the
    first fault; without any, they end with a value, about which more can be told. -/

namespace Telemetry

/-- Two steps end well if the first does and the second does with its value. -/
theorem bind_eq_ok_iff {ε α β : Type} {x : Except ε α} {f : α → Except ε β} {b : β} :
    (x >>= f) = .ok b ↔ ∃ a, x = .ok a ∧ f a = .ok b := by
  cases x with
  | error e => simp [Bind.bind, Except.bind]
  | ok a => simp [Bind.bind, Except.bind]

/-- Two steps fail if the first does, or the second does with its value. -/
theorem bind_eq_error_iff {ε α β : Type} {x : Except ε α} {f : α → Except ε β} {e : ε} :
    (x >>= f) = .error e ↔ x = .error e ∨ ∃ a, x = .ok a ∧ f a = .error e := by
  cases x with
  | error e => simp [Bind.bind, Except.bind]
  | ok a => simp [Bind.bind, Except.bind]

theorem map_eq_ok_iff {ε α β : Type} {x : Except ε α} {f : α → β} {b : β} :
    x.map f = .ok b ↔ ∃ a, x = .ok a ∧ f a = b := by
  cases x <;> simp [Except.map]

theorem map_eq_error_iff {ε α β : Type} {x : Except ε α} {f : α → β} {e : ε} : x.map f = .error e ↔ x = .error e := by
  cases x <;> simp [Except.map]

/-- Every value of steps that end well is that of one of them. -/
theorem exists_of_mem_mapM {α β ε : Type} {f : α → Except ε β} {l : List α} {bs : List β} (h : l.mapM f = .ok bs) :
    ∀ b ∈ bs, ∃ a ∈ l, f a = .ok b := by
  induction l generalizing bs with
  | nil =>
    cases h
    exact nofun
  | cons a l ih =>
    rw [List.mapM_cons] at h
    obtain ⟨b, hb, h⟩ := bind_eq_ok_iff.mp h
    obtain ⟨bs, hbs, ⟨⟩⟩ := bind_eq_ok_iff.mp h
    rintro x (_ | ⟨_, hx⟩)
    · exact ⟨a, List.mem_cons_self, hb⟩
    · obtain ⟨a', hmem, ha'⟩ := ih hbs x hx
      exact ⟨a', List.mem_cons_of_mem a hmem, ha'⟩

/-- Steps end well if each of them does, with their values in order. -/
theorem mapM_eq_ok_iff {α β ε : Type} {f : α → Except ε β} {l : List α} {bs : List β} :
    l.mapM f = .ok bs ↔ List.Forall₂ (fun a b => f a = .ok b) l bs := by
  induction l generalizing bs with
  | nil =>
    rw [List.mapM_nil, List.forall₂_nil_left_iff]
    exact ⟨fun h => (Except.ok.inj h).symm, fun h => congrArg Except.ok h.symm⟩
  | cons a l ih =>
    rw [List.mapM_cons, bind_eq_ok_iff, List.forall₂_cons_left_iff]
    refine exists_congr fun b => ⟨?_, ?_⟩
    · rintro ⟨hb, h⟩
      obtain ⟨bs', hbs, ⟨⟩⟩ := bind_eq_ok_iff.mp h
      exact ⟨bs', hb, ih.mp hbs, rfl⟩
    · rintro ⟨bs', hb, hbs, rfl⟩
      exact ⟨hb, bind_eq_ok_iff.mpr ⟨bs', ih.mpr hbs, rfl⟩⟩

theorem exists_mapM_iff {α β ε : Type} {f : α → Except ε β} {l : List α} :
    (∃ bs, l.mapM f = .ok bs) ↔ ∀ a ∈ l, ∃ b, f a = .ok b := by
  induction l with
  | nil => exact iff_of_true ⟨[], rfl⟩ nofun
  | cons a l ih =>
    simp only [mapM_eq_ok_iff, List.forall₂_cons_left_iff] at ih ⊢
    rw [List.forall_mem_cons, ← ih]
    constructor
    · rintro ⟨bs, b, bs', ha, hl, rfl⟩
      exact ⟨⟨b, ha⟩, bs', hl⟩
    · rintro ⟨⟨b, ha⟩, bs, hl⟩
      exact ⟨b :: bs, b, bs, ha, hl, rfl⟩

/-- Steps fail with the fault of the first one that fails. -/
theorem mapM_eq_error_iff {α β ε : Type} {f : α → Except ε β} {l : List α} {e : ε} :
    l.mapM f = .error e ↔
      ∃ before a after, l = before ++ a :: after ∧ (∀ b ∈ before, ∃ c, f b = .ok c) ∧ f a = .error e := by
  constructor
  · intro h
    induction l with
    | nil => cases h
    | cons a l ih =>
      rw [List.mapM_cons] at h
      rcases bind_eq_error_iff.mp h with ha | ⟨c, ha, h⟩
      · exact ⟨[], a, l, rfl, nofun, ha⟩
      · obtain hl | ⟨bs, -, ⟨⟩⟩ := bind_eq_error_iff.mp h
        obtain ⟨before, a', after, rfl, hbefore, ha'⟩ := ih hl
        exact ⟨a :: before, a', after, rfl, List.forall_mem_cons.mpr ⟨⟨c, ha⟩, hbefore⟩, ha'⟩
  · rintro ⟨before, a, after, rfl, hbefore, ha⟩
    induction before with
    | nil =>
      rw [List.nil_append, List.mapM_cons]
      exact bind_eq_error_iff.mpr (.inl ha)
    | cons b before ih =>
      obtain ⟨⟨c, hc⟩, hbefore⟩ := List.forall_mem_cons.mp hbefore
      rw [List.cons_append, List.mapM_cons]
      exact bind_eq_error_iff.mpr (.inr ⟨c, hc, bind_eq_error_iff.mpr (.inl (ih hbefore))⟩)

/-- The first fault of checks, each with its fault if it has one. -/
def firstFault {ε : Type} (checks : List (Option ε)) : Option ε := checks.findSome? id

section FirstFault
variable {ε : Type} {checks more : List (Option ε)}

@[simp] theorem firstFault_nil : firstFault ([] : List (Option ε)) = none := rfl

@[simp] theorem firstFault_cons (c : Option ε) : firstFault (c :: checks) = c.or (firstFault checks) := by
  cases c <;> rfl

@[simp] theorem firstFault_append : firstFault (checks ++ more) = (firstFault checks).or (firstFault more) :=
  List.findSome?_append

theorem firstFault_eq_none_iff : firstFault checks = none ↔ ∀ c ∈ checks, c = none := List.findSome?_eq_none_iff

end FirstFault

/-- The result is the fault, or without a fault a value with the property. -/
inductive Ends {ε α : Type} (P : α → Prop) : Option ε → Except ε α → Prop where
  | fails (e : ε) : Ends P (some e) (.error e)
  | gives {a : α} (h : P a) : Ends P none (.ok a)

namespace Ends
variable {ε α β : Type} {P : α → Prop} {Q : β → Prop} {c d : Option ε} {r : Except ε α}

theorem eq_error_iff (h : Ends P c r) {e : ε} : r = .error e ↔ c = some e := by
  cases h <;> simp

theorem exists_ok_iff (h : Ends P c r) : (∃ a, r = .ok a) ↔ c = none := by
  cases h <;> simp

theorem of_ok {a : α} (h : Ends P c (.ok a)) : P a := by
  cases h
  assumption

/-- The value is the one that the result has. -/
theorem and_eq (h : Ends P c r) : Ends (fun a => P a ∧ r = .ok a) c r := by
  cases h with
  | fails e => exact .fails e
  | gives h => exact .gives ⟨h, rfl⟩

/-- A step that is made if nothing failed before. -/
theorem bind {k : α → Except ε β} (hr : Ends P c r) (hk : ∀ a, P a → Ends Q d (k a)) :
    Ends Q (c.or d) (r >>= k) := by
  cases hr with
  | fails e => exact .fails e
  | gives h => exact hk _ h

end Ends

namespace Action
variable {σ ε α β : Type} {P : α → σ → Prop} {Q : β → σ → Prop} {c d : Option ε} {s : σ} {x : Action σ ε α}

/-- From the state, the action ends with the fault, or without a fault with a value and a state that
    have the property. -/
def EndsFrom (s : σ) (x : Action σ ε α) (P : α → σ → Prop) (c : Option ε) : Prop :=
  Ends (fun a => P a (x s).2) c (x s).1

namespace EndsFrom

/-- An action that is made if the one before did not fail, in the state after it. -/
theorem bind {k : α → Action σ ε β} (hx : EndsFrom s x P c) (hk : ∀ a t, P a t → EndsFrom t (k a) Q d) :
    EndsFrom s (x >>= k) Q (c.or d) := by
  rw [EndsFrom, bind_apply]
  rw [EndsFrom] at hx
  rcases hrun : x s with ⟨r, t⟩
  rw [hrun] at hx
  cases hx with
  | fails e => exact .fails e
  | gives h => exact hk _ _ h

theorem pure {a : α} (h : P a s) : EndsFrom s (pure a : Action σ ε α) P none := .gives h

theorem ofExcept {P : α → Prop} {r : Except ε α} (h : Ends P c r) :
    EndsFrom s (Action.ofExcept r) (fun a t => P a ∧ t = s) c := by
  cases h with
  | fails e => exact .fails e
  | gives h => exact .gives ⟨h, rfl⟩

end EndsFrom
end Action
end Telemetry
