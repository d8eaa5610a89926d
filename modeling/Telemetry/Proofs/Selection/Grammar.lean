import Mathlib.Data.List.Pairwise
import Telemetry.Proofs.Selection.Tokens

/-! The grammar of rule texts. Between the semicolons of a text stand tokens: the flexible rule alone, or
    tokens of classes, each class at most once. A text is accepted exactly where its tokens are such, and
    its rules are what the tokens say, in whatever order and however often they say it. -/

namespace Telemetry
namespace SelectionRules
open Text

/-- The tokens of a rule text, without the blanks around them. -/
def tokens (s : String) : List (List Char) := (split ';' s.toList).map trim

/-- The tokens of explicit rules: each is of a class, and no class has two of them. -/
structure Explicit (toks : List (List Char)) : Prop where
  known : ∀ tok ∈ toks, ∃ c items, Token c tok items
  apart : toks.Pairwise Apart

/-- The rows of tokens that the grammar has. -/
def Accepted (toks : List (List Char)) : Prop := (∃ tok ∈ flexTokens, toks = [tok]) ∨ Explicit toks

/-- The rules that a row of tokens means. -/
inductive Means (toks : List (List Char)) : SelectionRules → Prop where
  | flex {tok : List Char} (htok : tok ∈ flexTokens) (htoks : toks = [tok]) : Means toks .flex
  | explicit {d p : Option Selection} (h : Explicit toks) (hd : ∀ sel, d = some sel ↔ SelectedBy toks .device sel)
      (hp : ∀ sel, p = some sel ↔ SelectedBy toks .partition sel) : Means toks (.explicit d p)

/-- Some item of a token of the class covers the index. -/
def CoveredBy (toks : List (List Char)) (c : SelectableClass) (k : UInt32) : Prop :=
  ∃ tok ∈ toks, ∃ items, Token c tok (some items) ∧ ∃ x ∈ items, Covers x k

section Means

instance : Std.Symm Apart := ⟨fun _ _ h c items items' htok htok' => h c items' items htok' htok⟩

variable {s s' : String} {toks toks' : List (List Char)} {r r' : SelectionRules} {c : SelectableClass} {sel : Selection}

theorem tokens_ne_nil (s : String) : tokens s ≠ [] := by
  rw [tokens, ne_eq, List.map_eq_nil_iff]
  exact split_ne_nil ';' s.toList

theorem Explicit.not_mem_flexTokens (h : Explicit toks) {tok : List Char} (htok : tok ∈ toks) : tok ∉ flexTokens := by
  obtain ⟨c, items, htoken⟩ := h.known tok htok
  exact htoken.not_mem_flexTokens

/-- Of explicit rules, a class has one token. -/
theorem Explicit.token_unique (h : Explicit toks) {tok tok' : List Char} {items items' : Option (List (List Char))}
    (hmem : tok ∈ toks) (hmem' : tok' ∈ toks) (htok : Token c tok items) (htok' : Token c tok' items') :
    items = items' := by
  by_cases heq : tok = tok'
  · subst heq
    exact (htok.unique htok').2
  · exact absurd htok' (h.apart.forall hmem hmem' heq c items items' htok)

theorem Explicit.selectedBy_unique (h : Explicit toks) {sel' : Selection} (hsel : SelectedBy toks c sel)
    (hsel' : SelectedBy toks c sel') : sel = sel' := by
  obtain ⟨tok, hmem, items, htok, hselects⟩ := hsel
  obtain ⟨tok', hmem', items', htok', hselects'⟩ := hsel'
  obtain rfl := h.token_unique hmem hmem' htok htok'
  exact hselects.unique hselects'

theorem Explicit.exists_means (h : Explicit toks) : ∃ r, Means toks r := by
  have hclass : ∀ c, ∃ o : Option Selection, ∀ sel, o = some sel ↔ SelectedBy toks c sel := by
    intro c
    by_cases hsel : ∃ sel, SelectedBy toks c sel
    · obtain ⟨sel, hsel⟩ := hsel
      refine ⟨some sel, fun sel' => ?_⟩
      rw [Option.some_inj]
      exact ⟨fun heq => heq ▸ hsel, fun hsel' => h.selectedBy_unique hsel hsel'⟩
    · exact ⟨none, fun sel => ⟨fun hnone => absurd hnone.symm (Option.some_ne_none sel), fun h => absurd ⟨sel, h⟩ hsel⟩⟩
  obtain ⟨d, hd⟩ := hclass .device
  obtain ⟨p, hp⟩ := hclass .partition
  exact ⟨_, .explicit h hd hp⟩

theorem accepted_iff : Accepted toks ↔ ∃ r, Means toks r := by
  constructor
  · rintro (⟨tok, htok, htoks⟩ | h)
    · exact ⟨.flex, .flex htok htoks⟩
    · exact h.exists_means
  · rintro ⟨r, hr⟩
    cases hr with
    | flex htok htoks => exact Or.inl ⟨_, htok, htoks⟩
    | explicit h => exact Or.inr h

/-- What is read of a text is what its tokens mean. -/
theorem parse_eq_ok_iff : parse s = .ok r ↔ Means (tokens s) r := by
  have hread : parse s = .ok r ↔ ∃ seen, Adds {} (tokens s) seen ∧
      (if seen.flex then if 1 < (tokens s).length then Except.error SelectionError.flexCombined else .ok .flex
        else .ok (.explicit seen.devices seen.partitions)) = .ok r := by
    simp only [← readTokens_eq_ok_iff]
    exact bind_eq_ok_iff
  rw [hread]
  constructor
  · rintro ⟨seen, hadds, h⟩
    split at h
    · rename_i hflex
      split at h
      · cases h
      rename_i hlength
      cases h
      obtain ⟨tok, htoks⟩ := List.length_eq_one_iff.mp
        (show (tokens s).length = 1 by have := List.length_pos_iff.mpr (tokens_ne_nil s); omega)
      have hmem := (hadds.flex.mp hflex).resolve_left Bool.false_ne_true
      rw [htoks] at hmem
      exact .flex (by simpa using hmem) htoks
    · rename_i hflex
      cases h
      have hnot : ∀ tok ∈ tokens s, tok ∉ flexTokens := fun tok htok hmem =>
        hflex (hadds.flex.mpr (Or.inr ⟨tok, htok, hmem⟩))
      have hselects : ∀ c sel, seen.get c = some sel ↔ SelectedBy (tokens s) c sel := by
        intro c sel
        rw [hadds.selects]
        cases c <;> simp [Seen.get]
      refine .explicit ⟨fun tok htok => ?_, hadds.apart⟩ (hselects .device) (hselects .partition)
      exact (hadds.known tok htok).resolve_left (hnot tok htok)
  · intro h
    cases h with
    | flex htok htoks =>
      refine ⟨{ flex := true }, ?_, by rw [htoks]; rfl⟩
      rw [htoks, Adds.flex_cons_iff htok, Adds.nil_iff]
    | @explicit d p h hd hp =>
      refine ⟨{ devices := d, partitions := p }, ?_, rfl⟩
      exact
        { known := fun tok htok => Or.inr (h.known tok htok)
          apart := h.apart
          fresh := fun c hc => by cases c <;> exact absurd rfl hc
          flex := by simpa using fun tok htok => h.not_mem_flexTokens htok
          selects := fun c sel => by cases c <;> simp [Seen.get, hd, hp] }

/-! ### What the rules depend on -/

theorem Explicit.perm (h : Explicit toks) (hperm : toks'.Perm toks) : Explicit toks' where
  known := fun tok htok => h.known tok (hperm.mem_iff.mp htok)
  apart := (hperm.pairwise_iff (Std.Symm.symm _ _)).mpr h.apart

theorem Means.perm (h : Means toks r) (hperm : toks'.Perm toks) : Means toks' r := by
  have hselected : ∀ c sel, SelectedBy toks' c sel ↔ SelectedBy toks c sel := fun c sel => by
    simp only [SelectedBy, hperm.mem_iff]
  cases h with
  | flex htok htoks =>
    subst htoks
    exact .flex htok (List.perm_singleton.mp hperm)
  | explicit h hd hp =>
    exact .explicit (h.perm hperm) (fun sel => (hd sel).trans (hselected _ sel).symm)
      fun sel => (hp sel).trans (hselected _ sel).symm

/-- The rule for a class, if there is one. -/
def selectionOf (r : SelectionRules) : SelectableClass → Option Selection
  | .device => r.devices
  | .partition => r.partitions

theorem Means.selectionOf_eq_some_iff (h : Means toks r) : r.selectionOf c = some sel ↔ SelectedBy toks c sel := by
  cases h with
  | flex htok htoks =>
    have hnot : ¬SelectedBy toks c sel := by
      rintro ⟨tok', hmem, items, htoken, -⟩
      rw [htoks, List.mem_singleton] at hmem
      exact htoken.not_mem_flexTokens (hmem ▸ htok)
    cases c <;> simp [selectionOf, devices, partitions, hnot]
  | explicit _ hd hp =>
    cases c with
    | device => exact hd sel
    | partition => exact hp sel

/-- Some of the tokens names the class as a whole. -/
def NamedBy (toks : List (List Char)) (c : SelectableClass) : Prop := ∃ tok ∈ toks, Token c tok none

theorem Means.namedBy_iff (h : Means toks r) : NamedBy toks c ↔ r.selectionOf c = some .all := by
  rw [h.selectionOf_eq_some_iff]
  constructor
  · rintro ⟨tok, hmem, htok⟩
    exact ⟨tok, hmem, none, htok, .whole⟩
  · rintro ⟨tok, hmem, items, htok, hselects⟩
    cases hselects
    exact ⟨tok, hmem, htok⟩

theorem Means.coveredBy_iff (h : Means toks r) {k : UInt32} :
    CoveredBy toks c k ↔ ∃ is, r.selectionOf c = some (.indices is) ∧ k ∈ is := by
  simp only [h.selectionOf_eq_some_iff]
  constructor
  · rintro ⟨tok, hmem, items, htok, hk⟩
    obtain ⟨sel, hselects⟩ := htok.exists_selects
    have hsel : SelectedBy toks c sel := ⟨tok, hmem, some items, htok, hselects⟩
    cases hselects with
    | list _ hcovers => exact ⟨_, hsel, (hcovers k).mpr hk⟩
  · rintro ⟨is, ⟨tok, hmem, items, htok, hselects⟩, hk⟩
    cases hselects with
    | list _ hcovers => exact ⟨tok, hmem, _, htok, (hcovers k).mp hk⟩

/-! ### The rules that texts have -/

/-- A selection of indices has some, each once and in order. -/
inductive Proper : Selection → Prop where
  | all : Proper .all
  | indices {is : List UInt32} (hne : is ≠ []) (hasc : is.Pairwise (· < ·)) : Proper (.indices is)

/-- The flexible rule, or explicit rules with at least one class and proper selections only. -/
inductive Canonical : SelectionRules → Prop where
  | flex : Canonical .flex
  | explicit {d p : Option Selection} (hpresent : d ≠ none ∨ p ≠ none) (hd : ∀ sel, d = some sel → Proper sel)
      (hp : ∀ sel, p = some sel → Proper sel) : Canonical (.explicit d p)

theorem SelectedBy.proper (h : SelectedBy toks c sel) : Proper sel := by
  obtain ⟨tok, -, items, htok, hselects⟩ := h
  cases hselects with
  | whole => exact .all
  | list hasc hcovers =>
    cases htok with
    | list _ hne hitems =>
      obtain ⟨x, hx⟩ := List.exists_mem_of_ne_nil _ hne
      obtain ⟨k, hk⟩ := (hitems x hx).exists_covers
      exact .indices (List.ne_nil_of_mem ((hcovers k).mpr ⟨x, hx, hk⟩)) hasc

theorem Means.canonical (h : Means toks r) (hne : toks ≠ []) : Canonical r := by
  cases h with
  | flex => exact .flex
  | explicit h hd hp =>
    refine .explicit ?_ (fun sel hsel => ((hd sel).mp hsel).proper) fun sel hsel => ((hp sel).mp hsel).proper
    obtain ⟨tok, hmem⟩ := List.exists_mem_of_ne_nil toks hne
    obtain ⟨c, items, htok⟩ := h.known tok hmem
    obtain ⟨sel, hselects⟩ := htok.exists_selects
    have hsel : SelectedBy toks c sel := ⟨tok, hmem, items, htok, hselects⟩
    cases c with
    | device => exact Or.inl (Option.ne_none_iff_exists'.mpr ⟨sel, (hd sel).mpr hsel⟩)
    | partition => exact Or.inr (Option.ne_none_iff_exists'.mpr ⟨sel, (hp sel).mpr hsel⟩)

theorem Canonical.proper (h : Canonical r) (hsel : r.selectionOf c = some sel) : Proper sel := by
  cases h with
  | flex => cases c <;> cases hsel
  | explicit _ hd hp =>
    cases c with
    | device => exact hd sel hsel
    | partition => exact hp sel hsel

theorem Canonical.ext (h : Canonical r) (h' : Canonical r') (heq : ∀ c, r.selectionOf c = r'.selectionOf c) :
    r = r' := by
  have hd := heq .device
  have hp := heq .partition
  cases h with
  | flex =>
    cases h' with
    | flex => rfl
    | explicit hpresent => exact absurd hpresent (by simp_all [selectionOf, devices, partitions])
  | explicit hpresent =>
    cases h' with
    | flex => exact absurd hpresent (by simp_all [selectionOf, devices, partitions])
    | explicit => exact congrArg₂ SelectionRules.explicit hd hp

/-- A list has an index, so that a selection with the same indices is a list, too. -/
theorem Proper.eq_indices {is : List UInt32} {o : Option Selection} (h : Proper (.indices is))
    (ho : ∀ sel, o = some sel → Proper sel) (hmem : ∀ k, (∃ js, o = some (.indices js) ∧ k ∈ js) ↔ k ∈ is) :
    o = some (.indices is) := by
  cases h with
  | indices hne hasc =>
    obtain ⟨k, hk⟩ := List.exists_mem_of_ne_nil is hne
    obtain ⟨js, rfl, -⟩ := (hmem k).mpr hk
    cases ho _ rfl with
    | indices _ hasc' =>
      refine congrArg (fun is => some (Selection.indices is)) (hasc'.eq_of_mem_iff hasc fun k => ?_)
      simpa using hmem k

/-- A proper selection, or none, is known from whether it is all and which indices it has. -/
theorem selection_ext {o o' : Option Selection} (ho : ∀ sel, o = some sel → Proper sel)
    (ho' : ∀ sel, o' = some sel → Proper sel) (hall : o = some .all ↔ o' = some .all)
    (hmem : ∀ k : UInt32, (∃ is, o = some (.indices is) ∧ k ∈ is) ↔ ∃ is, o' = some (.indices is) ∧ k ∈ is) :
    o = o' := by
  rcases o with - | - | is
  · rcases o' with - | - | js
    · rfl
    · exact hall.mpr rfl
    · exact (ho' _ rfl).eq_indices ho fun k => by simpa using hmem k
  · exact (hall.mp rfl).symm
  · exact ((ho _ rfl).eq_indices ho' fun k => by simpa using (hmem k).symm).symm

/-- Rows of tokens that name the same classes as a whole and cover the same indices of each class. -/
structure SameChoice (toks toks' : List (List Char)) : Prop where
  named : ∀ c, NamedBy toks c ↔ NamedBy toks' c
  covered : ∀ c k, CoveredBy toks c k ↔ CoveredBy toks' c k

theorem Means.eq_iff_sameChoice (h : Means toks r) (h' : Means toks' r') (hne : toks ≠ []) (hne' : toks' ≠ []) :
    r = r' ↔ SameChoice toks toks' := by
  constructor
  · rintro rfl
    exact
      { named := fun c => h.namedBy_iff.trans h'.namedBy_iff.symm
        covered := fun c k => h.coveredBy_iff.trans h'.coveredBy_iff.symm }
  · intro hsame
    refine (h.canonical hne).ext (h'.canonical hne') fun c => ?_
    refine selection_ext (fun sel => (h.canonical hne).proper) (fun sel => (h'.canonical hne').proper) ?_ fun k => ?_
    · exact h.namedBy_iff.symm.trans ((hsame.named c).trans h'.namedBy_iff)
    · exact h.coveredBy_iff.symm.trans ((hsame.covered c k).trans h'.coveredBy_iff)

/-- A text is read exactly where its tokens are accepted, and as the rules that they mean. Neither the
    order of tokens matters, nor the order of items, nor whether items overlap or come twice: only which
    classes are named and which indices covered. No difference of bounds is taken that is below zero. -/
theorem parse_grammar (s : String) :
    ((∃ r, parse s = .ok r) ↔ Accepted (tokens s)) ∧
    (∀ r, parse s = .ok r ↔ Means (tokens s) r) ∧
    (∀ s', (tokens s').Perm (tokens s) → ∀ r, parse s' = .ok r ↔ parse s = .ok r) ∧
    (∀ s' r r', parse s = .ok r → parse s' = .ok r' → (r = r' ↔ SameChoice (tokens s) (tokens s'))) ∧
    ∀ difference : UInt32 → UInt32 → Nat,
      (∀ first last, first ≤ last → difference last first = last.toNat - first.toNat) →
      ∀ list item, readItemBy difference list item = readItem list item := by
  refine ⟨?accepted, fun r => parse_eq_ok_iff, ?perm, ?same, fun _ h => readItemBy_eq h⟩
  case accepted =>
    rw [accepted_iff]
    exact exists_congr fun r => parse_eq_ok_iff
  case perm =>
    intro s' hperm r
    rw [parse_eq_ok_iff, parse_eq_ok_iff]
    exact ⟨fun h => h.perm hperm.symm, fun h => h.perm hperm⟩
  case same =>
    intro s' r r' hr hr'
    exact (parse_eq_ok_iff.mp hr).eq_iff_sameChoice (parse_eq_ok_iff.mp hr') (tokens_ne_nil s) (tokens_ne_nil s')

theorem parse_grammar_overlapping :
    let r := SelectionRules.explicit (some .all) (some (.indices [1, 2, 3]))
    parse "i:3,1-2 ; device" = .ok r ∧ parse "device;i:3,1-2" = .ok r ∧
      SameChoice (tokens "i:3,1-2 ; device") (tokens "g;partition:+1-3,02") ∧
      readItemBy (fun last first => (last - first).toNat) [] ['3', '-', '1'] = .error (.reversedRange 3 1) := by
  intro r
  obtain ⟨-, -, hperm, hsame, hdifference⟩ := parse_grammar "i:3,1-2 ; device"
  have hr : parse "i:3,1-2 ; device" = .ok r := by decide
  have hr' : parse "g;partition:+1-3,02" = .ok r := by decide
  refine ⟨hr, (hperm _ (by decide) r).mpr hr, (hsame _ r r hr hr').mp rfl, ?_⟩
  rw [hdifference _ fun first last hle => UInt32.toNat_sub_of_le last first hle]
  decide

end Means
end SelectionRules
end Telemetry
