import Telemetry.Proofs.Selection.Items

/-! The tokens of rule texts. A token is the flexible rule, or the key of a class with or without a list.
    A row of tokens is read exactly where each of them is a token and no class has two, and what was
    seen at its end is what the tokens select. -/

namespace Telemetry

namespace SelectableClass

/-- The keys of a class, the short one and the long one. -/
def keys : SelectableClass → List (List Char)
  | device => ["g".toList, "device".toList]
  | partition => ["i".toList, "partition".toList]

end SelectableClass

namespace SelectionRules
open Text

/-! ### Tokens -/

/-- The tokens that are the flexible rule. -/
def flexTokens : List (List Char) := ["f".toList, "flex".toList]

/-- A token of a class: one of its keys, and the items of a list if there is one behind a colon. -/
inductive Token (c : SelectableClass) : List Char → Option (List (List Char)) → Prop where
  | whole {key : List Char} (hkey : key ∈ c.keys) : Token c key none
  | list {key : List Char} {items : List (List Char)} (hkey : key ∈ c.keys) (hne : items ≠ [])
      (hitems : ∀ x ∈ items, IsItem x) : Token c (key ++ ':' :: join ',' items) (some items)

/-- What a token selects: all of its class, or the indices that its items cover, ascending. -/
inductive Selects : Option (List (List Char)) → Selection → Prop where
  | whole : Selects none .all
  | list {items : List (List Char)} {is : List UInt32} (hasc : is.Pairwise (· < ·))
      (hmem : ∀ k, k ∈ is ↔ ∃ x ∈ items, Covers x k) : Selects (some items) (.indices is)

/-- Some of the tokens selects so of the class. -/
def SelectedBy (toks : List (List Char)) (c : SelectableClass) (sel : Selection) : Prop :=
  ∃ tok ∈ toks, ∃ items, Token c tok items ∧ Selects items sel

/-- Not both tokens are of one class. -/
def Apart (tok tok' : List Char) : Prop := ∀ c items items', Token c tok items → ¬Token c tok' items'

section Keys
variable {c : SelectableClass} {key : List Char}

theorem readKey_eq_flex_iff : readKey key = some .flex ↔ key ∈ flexTokens := by
  simp only [readKey, flexTokens, ← String.toList_inj, String.toList_ofList, List.mem_cons, List.not_mem_nil, or_false]
  split
  · simp_all
  · split
    · simp_all
    · split <;> simp_all

theorem readKey_eq_cls_iff : readKey key = some (.cls c) ↔ key ∈ c.keys := by
  have hflex : key = "f".toList ∨ key = "flex".toList → key ∉ c.keys := by
    rintro (rfl | rfl) <;> cases c <;> decide
  have hdevice : key = "g".toList ∨ key = "device".toList → key ∉ SelectableClass.partition.keys := by
    rintro (rfl | rfl) <;> decide
  simp only [readKey, ← String.toList_inj, String.toList_ofList]
  split
  · rename_i h
    simp [hflex h]
  · split
    · rename_i h
      cases c with
      | device => simpa [SelectableClass.keys] using h
      | partition => simp [hdevice h]
    · rename_i hnot
      cases c with
      | device =>
        have hkey : key ∉ SelectableClass.device.keys := by simpa [SelectableClass.keys] using hnot
        split <;> simp [hkey]
      | partition => split <;> simp_all [SelectableClass.keys]

theorem flexTokens_plain : ∀ tok ∈ flexTokens, ':' ∉ tok ∧ tok ≠ [] := by decide

theorem colon_not_mem_key (h : key ∈ c.keys) : ':' ∉ key := by
  revert key
  cases c <;> decide

theorem key_ne_nil (h : key ∈ c.keys) : key ≠ [] := by
  rintro rfl
  revert h
  cases c <;> decide

end Keys

section Tokens
variable {c c' : SelectableClass} {tok : List Char} {items items' : Option (List (List Char))}

theorem not_mem_join_items {items : List (List Char)} (h : ∀ x ∈ items, IsItem x) {a : Char}
    (hdigit : a.isDigit = false) (hplus : a ≠ '+') (hminus : a ≠ '-') (hcomma : a ≠ ',') :
    a ∉ join ',' items := by
  refine not_mem_join hcomma fun x hx => ?_
  obtain ⟨i, j, hitem⟩ := h x hx
  exact hitem.not_mem hdigit hplus hminus

theorem split_join_items {items : List (List Char)} (hne : items ≠ []) (h : ∀ x ∈ items, IsItem x) :
    split ',' (join ',' items) = items := by
  refine split_join hne fun x hx => ?_
  obtain ⟨i, j, hitem⟩ := h x hx
  exact hitem.not_mem rfl (by decide) (by decide)

/-- A token is cut into its key and, if it has one, its list. -/
theorem Token.split_eq (h : Token c tok items) :
    ∃ key ∈ c.keys, split ':' tok = key :: (items.map (join ',')).toList := by
  cases h with
  | whole hkey => exact ⟨tok, hkey, split_of_not_mem (colon_not_mem_key hkey)⟩
  | list hkey hne hitems =>
    refine ⟨_, hkey, ?_⟩
    rw [split_append (colon_not_mem_key hkey),
      split_of_not_mem (not_mem_join_items hitems rfl (by decide) (by decide) (by decide))]
    rfl

theorem Token.split_join_eq (h : Token c tok items) : (items.map (join ',')).map (split ',') = items := by
  cases h with
  | whole => rfl
  | list _ hne hitems => exact congrArg some (split_join_items hne hitems)

/-- A token is of one class only, and has its items only. -/
theorem Token.unique (h : Token c tok items) (h' : Token c' tok items') : c = c' ∧ items = items' := by
  obtain ⟨key, hkey, hsplit⟩ := h.split_eq
  obtain ⟨key', hkey', hsplit'⟩ := h'.split_eq
  obtain ⟨rfl, hlist⟩ := List.cons.inj (hsplit.symm.trans hsplit')
  constructor
  · have hread := (readKey_eq_cls_iff.mpr hkey).symm.trans (readKey_eq_cls_iff.mpr hkey')
    cases hread
    rfl
  · have hjoin : items.map (join ',') = items'.map (join ',') := by
      simpa using congrArg List.head? hlist
    rw [← h.split_join_eq, ← h'.split_join_eq, hjoin]

theorem Token.not_mem_flexTokens (h : Token c tok items) : tok ∉ flexTokens := by
  intro hflex
  obtain ⟨key, hkey, hsplit⟩ := h.split_eq
  have hcolon : split ':' tok = [tok] := split_of_not_mem (flexTokens_plain tok hflex).1
  obtain ⟨rfl, -⟩ := List.cons.inj (hcolon.symm.trans hsplit)
  have hread := (readKey_eq_cls_iff.mpr hkey).symm.trans (readKey_eq_flex_iff.mpr hflex)
  cases hread

theorem Token.ne_nil (h : Token c tok items) : tok ≠ [] := by
  cases h with
  | whole hkey => exact key_ne_nil hkey
  | list hkey => simp

theorem exists_readItems (list : List Char) {items : List (List Char)} (h : ∀ x ∈ items, IsItem x)
    (acc : List UInt32) : ∃ is, readItems list items acc = .ok is := by
  induction items generalizing acc with
  | nil => exact ⟨acc, rfl⟩
  | cons x items ih =>
    obtain ⟨⟨i, j, hx⟩, hitems⟩ := List.forall_mem_cons.mp h
    obtain ⟨is, his⟩ := ih hitems _
    exact ⟨is, bind_eq_ok_iff.mpr ⟨range i j, readItem_eq_ok_iff.mpr ⟨i, j, hx, rfl⟩, his⟩⟩

/-- Every token selects something. -/
theorem Token.exists_selects (h : Token c tok items) : ∃ sel, Selects items sel := by
  cases h with
  | whole => exact ⟨.all, .whole⟩
  | list _ _ hitems =>
    obtain ⟨is, his⟩ := exists_readItems [] hitems []
    obtain ⟨-, hasc, hmem⟩ := (readItems_eq_ok_iff List.Pairwise.nil).mp his
    exact ⟨.indices is, .list hasc fun k => by simpa using hmem k⟩

theorem Selects.unique {sel sel' : Selection} (h : Selects items sel) (h' : Selects items sel') : sel = sel' := by
  cases h with
  | whole =>
    cases h'
    rfl
  | list hasc hmem =>
    cases h' with
    | list hasc' hmem' =>
      have hmem'' (k : UInt32) := (hmem k).trans (hmem' k).symm
      exact congrArg Selection.indices (hasc.eq_of_mem_iff hasc' hmem'')

end Tokens

/-! ### Reading tokens -/

section Reading
variable {c : SelectableClass} {tok : List Char} {items : Option (List (List Char))} {sel : Selection}
  {seen seen' : Seen}

theorem readSelection_eq_ok_iff {list : Option (List Char)} :
    readSelection list = .ok sel ↔
      (∀ xs, list.map (split ',') = some xs → ∀ x ∈ xs, IsItem x) ∧ Selects (list.map (split ',')) sel := by
  cases list with
  | none =>
    constructor
    · intro h
      cases h
      exact ⟨by simp, .whole⟩
    · rintro ⟨-, h⟩
      cases h
      rfl
  | some list =>
    rw [readSelection, bind_eq_ok_iff]
    constructor
    · rintro ⟨is, his, h⟩
      cases h
      obtain ⟨hitems, hasc, hmem⟩ := readList_eq_ok_iff.mp his
      refine ⟨fun xs hxs => ?_, .list hasc hmem⟩
      cases hxs
      exact hitems
    · rintro ⟨hitems, h⟩
      cases h with
      | list hasc hmem => exact ⟨_, readList_eq_ok_iff.mpr ⟨hitems _ rfl, hasc, hmem⟩, rfl⟩

theorem Seen.get_set (seen : Seen) (sel : Selection) (c c' : SelectableClass) :
    (seen.set sel c).get c' = if c' = c then some sel else seen.get c' := by
  cases c <;> cases c' <;> rfl

theorem Seen.flex_set (seen : Seen) (sel : Selection) (c : SelectableClass) : (seen.set sel c).flex = seen.flex := by
  cases c <;> rfl

theorem Seen.ext_get (hflex : seen.flex = seen'.flex) (hget : ∀ c, seen.get c = seen'.get c) : seen = seen' := by
  obtain ⟨f, d, p⟩ := seen
  obtain ⟨f', d', p'⟩ := seen'
  obtain rfl : f = f' := hflex
  obtain rfl : d = d' := hget .device
  obtain rfl : p = p' := hget .partition
  rfl

/-- A key with what may follow it is taken if it is the flexible rule, or a class that is new and whose
    list can be read. -/
theorem add_eq_ok_iff {key : List Char} {list : Option (List Char)} :
    seen.add key list = .ok seen' ↔
      (key ∈ flexTokens ∧ list = none ∧ seen' = { seen with flex := true }) ∨
      ∃ c sel, key ∈ c.keys ∧ seen.get c = none ∧ readSelection list = .ok sel ∧ seen' = seen.set sel c := by
  rw [Seen.add]
  cases hread : readKey key with
  | none =>
    have hflex : key ∉ flexTokens := fun h => by simp [readKey_eq_flex_iff.mpr h] at hread
    have hkeys : ∀ c : SelectableClass, key ∉ c.keys := fun c h => by simp [readKey_eq_cls_iff.mpr h] at hread
    simp [hflex, hkeys]
  | some k =>
    cases k with
    | flex =>
      have hflex := readKey_eq_flex_iff.mp hread
      have hkeys : ∀ c : SelectableClass, key ∉ c.keys := fun c h => by simp [readKey_eq_cls_iff.mpr h] at hread
      cases list <;> simp [hflex, hkeys, eq_comm]
    | cls c =>
      have hkey := readKey_eq_cls_iff.mp hread
      have hflex : key ∉ flexTokens := fun h => by simp [readKey_eq_flex_iff.mpr h] at hread
      have hkeys : ∀ c', key ∈ SelectableClass.keys c' → c' = c := fun c' h => by
        simpa [readKey_eq_cls_iff.mpr h] using hread
      dsimp only
      constructor
      · intro h
        split at h
        · cases h
        rename_i hget
        obtain ⟨sel, hsel, h⟩ := bind_eq_ok_iff.mp h
        cases h
        exact Or.inr ⟨c, sel, hkey, by simpa using hget, hsel, rfl⟩
      · rintro (⟨h, -⟩ | ⟨c', sel, hc', hget, hsel, rfl⟩)
        · exact absurd h hflex
        · obtain rfl := hkeys c' hc'
          rw [hget, Option.isSome_none, if_neg Bool.false_ne_true]
          exact bind_eq_ok_iff.mpr ⟨sel, hsel, rfl⟩

/-- A token is taken if it is the flexible rule or of a class that is new. -/
theorem addToken_eq_ok_iff :
    seen.addToken tok = .ok seen' ↔
      (tok ∈ flexTokens ∧ seen' = { seen with flex := true }) ∨
      ∃ c items sel, Token c tok items ∧ Selects items sel ∧ seen.get c = none ∧ seen' = seen.set sel c := by
  constructor
  · intro h
    rw [Seen.addToken] at h
    split at h
    · cases h
    split at h
    · rename_i key hsplit
      obtain ⟨-, -, rfl⟩ := split_eq_iff.mp hsplit
      rcases add_eq_ok_iff.mp h with ⟨hflex, -, rfl⟩ | ⟨c, sel, hkey, hget, hsel, rfl⟩
      · exact Or.inl ⟨hflex, rfl⟩
      · exact Or.inr ⟨c, none, sel, .whole hkey, (readSelection_eq_ok_iff.mp hsel).2, hget, rfl⟩
    · rename_i key list hsplit
      obtain ⟨-, -, rfl⟩ := split_eq_iff.mp hsplit
      rcases add_eq_ok_iff.mp h with ⟨-, hnone, -⟩ | ⟨c, sel, hkey, hget, hsel, rfl⟩
      · cases hnone
      · obtain ⟨hitems, hselects⟩ := readSelection_eq_ok_iff.mp hsel
        have htoken := Token.list hkey (split_ne_nil ',' list) (hitems _ rfl)
        rw [join_split] at htoken
        exact Or.inr ⟨c, _, sel, htoken, hselects, hget, rfl⟩
    · cases h
  · rintro (⟨hflex, rfl⟩ | ⟨c, items, sel, htoken, hselects, hget, rfl⟩)
    · obtain ⟨hcolon, hne⟩ := flexTokens_plain tok hflex
      rw [Seen.addToken, if_neg hne, split_of_not_mem hcolon]
      exact add_eq_ok_iff.mpr (Or.inl ⟨hflex, rfl, rfl⟩)
    · have hlist := htoken.split_join_eq
      obtain ⟨key, hkey, hsplit⟩ := htoken.split_eq
      have hsel : readSelection (items.map (join ',')) = .ok sel := by
        rw [readSelection_eq_ok_iff, hlist]
        refine ⟨?_, hselects⟩
        rintro xs rfl
        cases htoken with
        | list _ _ hitems => exact hitems
      have hadd := add_eq_ok_iff.mpr (Or.inr ⟨c, sel, hkey, hget, hsel, rfl⟩)
      rw [Seen.addToken, if_neg htoken.ne_nil, hsplit]
      cases items <;> exact hadd

/-- What a row of tokens adds to what was seen before. -/
structure Adds (seen : Seen) (toks : List (List Char)) (seen' : Seen) : Prop where
  known : ∀ tok ∈ toks, tok ∈ flexTokens ∨ ∃ c items, Token c tok items
  apart : toks.Pairwise Apart
  fresh : ∀ c, seen.get c ≠ none → ∀ tok ∈ toks, ∀ items, ¬Token c tok items
  flex : seen'.flex = true ↔ seen.flex = true ∨ ∃ tok ∈ toks, tok ∈ flexTokens
  selects : ∀ c sel, seen'.get c = some sel ↔ seen.get c = some sel ∨ SelectedBy toks c sel

theorem selectedBy_cons {toks : List (List Char)} :
    SelectedBy (tok :: toks) c sel ↔ (∃ items, Token c tok items ∧ Selects items sel) ∨ SelectedBy toks c sel :=
  List.exists_mem_cons_iff ..

theorem Adds.nil_iff : Adds seen [] seen' ↔ seen = seen' := by
  constructor
  · intro h
    refine Seen.ext_get (Bool.eq_iff_iff.mpr ?_) fun c => Option.ext fun sel => ?_
    · simpa using h.flex.symm
    · simpa [SelectedBy] using (h.selects c sel).symm
  · rintro rfl
    exact { known := by simp, apart := .nil, fresh := by simp, flex := by simp, selects := by simp [SelectedBy] }

theorem Adds.flex_cons_iff {toks : List (List Char)} (htok : tok ∈ flexTokens) :
    Adds seen (tok :: toks) seen' ↔ Adds { seen with flex := true } toks seen' := by
  have hnot : ∀ c items, ¬Token c tok items := fun c items h => h.not_mem_flexTokens htok
  have hget : ∀ c, ({ seen with flex := true } : Seen).get c = seen.get c := fun c => by cases c <;> rfl
  constructor
  · intro h
    exact
      { known := fun t ht => h.known t (List.mem_cons_of_mem tok ht)
        apart := (List.pairwise_cons.mp h.apart).2
        fresh := fun c hc t ht => h.fresh c (hget c ▸ hc) t (List.mem_cons_of_mem tok ht)
        flex := by simp [h.flex, htok]
        selects := fun c sel => by rw [h.selects, hget, selectedBy_cons]; simp [hnot] }
  · intro h
    exact
      { known := List.forall_mem_cons.mpr ⟨Or.inl htok, h.known⟩
        apart := List.pairwise_cons.mpr ⟨fun t _ c items _ ht => absurd ht (hnot c items), h.apart⟩
        fresh := fun c hc => List.forall_mem_cons.mpr ⟨hnot c, h.fresh c (by rwa [hget])⟩
        flex := by simp [h.flex, htok]
        selects := fun c sel => by rw [h.selects, hget, selectedBy_cons]; simp [hnot] }

theorem Adds.token_cons_iff {toks : List (List Char)} (htok : Token c tok items) (hsel : Selects items sel)
    (hget : seen.get c = none) : Adds seen (tok :: toks) seen' ↔ Adds (seen.set sel c) toks seen' := by
  have hflex : tok ∉ flexTokens := htok.not_mem_flexTokens
  have hselects : ∀ c' sel', (∃ xs, Token c' tok xs ∧ Selects xs sel') ↔ c' = c ∧ sel' = sel := by
    intro c' sel'
    constructor
    · rintro ⟨xs, hxs, hsel'⟩
      obtain ⟨rfl, rfl⟩ := hxs.unique htok
      exact ⟨rfl, hsel'.unique hsel⟩
    · rintro ⟨rfl, rfl⟩
      exact ⟨items, htok, hsel⟩
  -- What is seen of a class after the token is what was seen before or what the token selects.
  have hset : ∀ c' sel', (seen.set sel c).get c' = some sel' ↔ seen.get c' = some sel' ∨ c' = c ∧ sel' = sel := by
    intro c' sel'
    rw [Seen.get_set]
    split
    · rename_i hc
      subst hc
      simp [hget, eq_comm]
    · rename_i hc
      simp [hc]
  constructor
  · intro h
    obtain ⟨hapart, hrest⟩ := List.pairwise_cons.mp h.apart
    refine
      { known := fun t ht => h.known t (List.mem_cons_of_mem tok ht)
        apart := hrest
        fresh := fun c' hc' t ht xs hxs => ?_
        flex := by rw [h.flex, Seen.flex_set, List.exists_mem_cons_iff]; simp [hflex]
        selects := fun c' sel' => by rw [h.selects, hset, selectedBy_cons, hselects, or_assoc] }
    rw [Seen.get_set] at hc'
    split at hc'
    · rename_i heq
      subst heq
      exact hapart t ht c' items xs htok hxs
    · exact h.fresh c' hc' t (List.mem_cons_of_mem tok ht) xs hxs
  · intro h
    have hnew : ∀ t ∈ toks, ∀ xs, ¬Token c t xs := h.fresh c (by simp [Seen.get_set])
    refine
      { known := List.forall_mem_cons.mpr ⟨Or.inr ⟨c, items, htok⟩, h.known⟩
        apart := List.pairwise_cons.mpr ⟨fun t ht c' xs xs' hxs hxs' => ?_, h.apart⟩
        fresh := fun c' hc' => List.forall_mem_cons.mpr ⟨fun xs hxs => ?_, h.fresh c' ?_⟩
        flex := by rw [h.flex, Seen.flex_set, List.exists_mem_cons_iff]; simp [hflex]
        selects := fun c' sel' => by rw [h.selects, hset, selectedBy_cons, hselects, or_assoc] }
    · obtain ⟨rfl, -⟩ := hxs.unique htok
      exact hnew t ht xs' hxs'
    · obtain ⟨rfl, -⟩ := hxs.unique htok
      exact hc' hget
    · rw [Seen.get_set]
      split
      · exact Option.some_ne_none sel
      · exact hc'

theorem readTokens_eq_ok_iff {toks : List (List Char)} :
    readTokens seen toks = .ok seen' ↔ Adds seen toks seen' := by
  induction toks generalizing seen with
  | nil =>
    rw [readTokens, Adds.nil_iff]
    exact ⟨Except.ok.inj, congrArg _⟩
  | cons tok toks ih =>
    rw [readTokens, bind_eq_ok_iff]
    constructor
    · rintro ⟨next, hnext, h⟩
      rcases addToken_eq_ok_iff.mp hnext with ⟨hflex, rfl⟩ | ⟨c, items, sel, htoken, hselects, hget, rfl⟩
      · exact (Adds.flex_cons_iff hflex).mpr (ih.mp h)
      · exact (Adds.token_cons_iff htoken hselects hget).mpr (ih.mp h)
    · intro h
      rcases h.known tok List.mem_cons_self with hflex | ⟨c, items, htoken⟩
      · exact ⟨_, addToken_eq_ok_iff.mpr (Or.inl ⟨hflex, rfl⟩), ih.mpr ((Adds.flex_cons_iff hflex).mp h)⟩
      · obtain ⟨sel, hselects⟩ := htoken.exists_selects
        have hget : seen.get c = none := by
          by_contra hseen
          exact h.fresh c hseen tok List.mem_cons_self items htoken
        exact ⟨_, addToken_eq_ok_iff.mpr (Or.inr ⟨c, items, sel, htoken, hselects, hget, rfl⟩),
          ih.mpr ((Adds.token_cons_iff htoken hselects hget).mp h)⟩

end Reading

end SelectionRules
end Telemetry
