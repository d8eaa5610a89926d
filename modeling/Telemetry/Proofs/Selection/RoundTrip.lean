import Telemetry.Proofs.Json
import Telemetry.Proofs.Selection.Grammar
import Telemetry.Selection.Json

/-! Rules and their texts. The text of rules is read back as the same rules, as long as there is at least
    one class and every list has indices in ascending order; and no other rules come from a text. -/

namespace Telemetry
namespace SelectionRules
open Text Numeral

/-- The short key of a class. -/
def shortKey : SelectableClass → Char
  | .device => 'g'
  | .partition => 'i'

/-- The token that is written for a selection of a class. -/
def tokenOf (c : SelectableClass) (sel : Selection) : List Char := shortKey c :: sel.chars

/-- The tokens that are written for a class: one, or none if there is no rule. -/
def tokensOf (c : SelectableClass) (o : Option Selection) : List (List Char) := (o.map (tokenOf c)).toList

theorem chars_explicit (d p : Option Selection) :
    (explicit d p).chars = join ';' (tokensOf .device d ++ tokensOf .partition p) := rfl

/-! ### One token -/

section Token
variable {c c' : SelectableClass} {sel sel' : Selection}

theorem item_indexChars (i : UInt32) : Item (indexChars i) i i := .single (spells_toDigits i.toNat)

theorem covers_indexChars_iff {i k : UInt32} : Covers (indexChars i) k ↔ k = i := by
  constructor
  · rintro ⟨a, b, hitem, hak, hkb⟩
    obtain ⟨rfl, rfl⟩ := hitem.unique (item_indexChars i)
    exact UInt32.le_antisymm hkb hak
  · rintro rfl
    exact ⟨k, k, item_indexChars k, UInt32.le_refl k, UInt32.le_refl k⟩

theorem shortKey_mem (c : SelectableClass) : [shortKey c] ∈ c.keys := by cases c <;> decide

/-- The token that is written for a selection selects it. -/
theorem Proper.token (h : Proper sel) (c : SelectableClass) :
    ∃ items, Token c (tokenOf c sel) items ∧ Selects items sel := by
  cases h with
  | all => exact ⟨none, .whole (shortKey_mem c), .whole⟩
  | @indices is hne hasc =>
    have hitems : ∀ x ∈ is.map indexChars, IsItem x := by
      intro x hx
      obtain ⟨i, -, rfl⟩ := List.mem_map.mp hx
      exact ⟨i, i, item_indexChars i⟩
    have hne' : is.map indexChars ≠ [] := mt List.map_eq_nil_iff.mp hne
    refine ⟨some (is.map indexChars), .list (shortKey_mem c) hne' hitems, .list hasc fun k => ?_⟩
    simp [covers_indexChars_iff]

/-- The characters of tokens. -/
def IsTokenChar (a : Char) : Prop := a.isDigit = true ∨ a = 'g' ∨ a = 'i' ∨ a = ':' ∨ a = ','

theorem isTokenChar_of_mem_tokenOf {a : Char} (h : a ∈ tokenOf c sel) : IsTokenChar a := by
  rcases List.mem_cons.mp h with rfl | h
  · cases c
    · exact Or.inr (Or.inl rfl)
    · exact Or.inr (Or.inr (Or.inl rfl))
  cases sel with
  | all => exact absurd h List.not_mem_nil
  | indices is =>
    rcases List.mem_cons.mp h with rfl | h
    · exact Or.inr (Or.inr (Or.inr (Or.inl rfl)))
    · by_contra hnot
      have hcomma : a ≠ ',' := fun heq => hnot (Or.inr (Or.inr (Or.inr (Or.inr heq))))
      refine not_mem_join hcomma (fun x hx hmem => ?_) h
      obtain ⟨i, -, rfl⟩ := List.mem_map.mp hx
      exact hnot (Or.inl (Nat.isDigit_of_mem_toDigits (by decide) (by decide) hmem))

theorem IsTokenChar.ne_semicolon {a : Char} (h : IsTokenChar a) : a ≠ ';' := by
  rintro rfl
  unfold IsTokenChar at h
  revert h
  decide

theorem IsTokenChar.isBlank_eq_false {a : Char} (h : IsTokenChar a) : isBlank a = false := by
  rcases h with hdigit | rfl | rfl | rfl | rfl
  · have hrange := Char.isDigit_iff_toNat.mp hdigit
    have hlow : 48 ≤ a.toNat := hrange.1
    have hhigh : a.toNat ≤ 57 := hrange.2
    simp [isBlank]
    omega
  all_goals decide

end Token

/-! ### All tokens -/

section Tokens
variable {c c' : SelectableClass} {sel : Selection} {o : Option Selection}

theorem mem_tokensOf {tok : List Char} (h : tok ∈ tokensOf c o) : ∃ sel, o = some sel ∧ tok = tokenOf c sel := by
  cases o with
  | none => exact absurd h List.not_mem_nil
  | some sel => exact ⟨sel, rfl, List.mem_singleton.mp h⟩

theorem selectedBy_append {toks toks' : List (List Char)} :
    SelectedBy (toks ++ toks') c sel ↔ SelectedBy toks c sel ∨ SelectedBy toks' c sel := by
  simp only [SelectedBy, List.mem_append, or_and_right, exists_or]

theorem selectedBy_tokensOf_iff (ho : ∀ sel, o = some sel → Proper sel) :
    SelectedBy (tokensOf c o) c' sel ↔ c' = c ∧ o = some sel := by
  constructor
  · rintro ⟨tok, hmem, items, htok, hselects⟩
    obtain ⟨sel', rfl, rfl⟩ := mem_tokensOf hmem
    obtain ⟨items', htok', hselects'⟩ := (ho sel' rfl).token c
    obtain ⟨rfl, rfl⟩ := htok.unique htok'
    rw [hselects.unique hselects']
    exact ⟨rfl, rfl⟩
  · rintro ⟨rfl, rfl⟩
    obtain ⟨items, htok, hselects⟩ := (ho sel rfl).token c'
    exact ⟨tokenOf c' sel, List.mem_singleton_self _, items, htok, hselects⟩

theorem explicit_tokensOf {d p : Option Selection} (hd : ∀ sel, d = some sel → Proper sel)
    (hp : ∀ sel, p = some sel → Proper sel) : Explicit (tokensOf .device d ++ tokensOf .partition p) := by
  have hclass : ∀ {c o}, (∀ sel, o = some sel → Proper sel) → ∀ tok ∈ tokensOf c o, ∃ items, Token c tok items := by
    intro c o ho tok hmem
    obtain ⟨sel, hsel, rfl⟩ := mem_tokensOf hmem
    obtain ⟨items, htok, -⟩ := (ho sel hsel).token c
    exact ⟨items, htok⟩
  constructor
  · intro tok hmem
    rcases List.mem_append.mp hmem with hmem | hmem
    · exact ⟨.device, hclass hd tok hmem⟩
    · exact ⟨.partition, hclass hp tok hmem⟩
  · have hsingle : ∀ c o, (tokensOf c o).Pairwise Apart := by
      intro c o
      cases o with
      | none => exact .nil
      | some sel => exact List.pairwise_singleton _ _
    refine List.pairwise_append.mpr ⟨hsingle _ d, hsingle _ p, fun tok hmem tok' hmem' c items items' htok htok' => ?_⟩
    obtain ⟨_, hdevice⟩ := hclass hd tok hmem
    obtain ⟨_, hpartition⟩ := hclass hp tok' hmem'
    have hclasses := (htok.unique hdevice).1.symm.trans (htok'.unique hpartition).1
    cases hclasses

/-- The tokens of the text of explicit rules are those that are written for its classes. -/
theorem tokens_render {d p : Option Selection} (h : d ≠ none ∨ p ≠ none) :
    tokens (explicit d p).render = tokensOf .device d ++ tokensOf .partition p := by
  have hchars : ∀ tok ∈ tokensOf .device d ++ tokensOf .partition p, ∀ a ∈ tok, IsTokenChar a := by
    intro tok hmem a ha
    rcases List.mem_append.mp hmem with hmem | hmem
    all_goals
      obtain ⟨sel, -, rfl⟩ := mem_tokensOf hmem
      exact isTokenChar_of_mem_tokenOf ha
  have hne : tokensOf .device d ++ tokensOf .partition p ≠ [] := by
    cases d <;> cases p <;> simp_all [tokensOf]
  have hsplit : ∀ tok ∈ tokensOf .device d ++ tokensOf .partition p, ';' ∉ tok := fun tok hmem ha =>
    (hchars tok hmem _ ha).ne_semicolon rfl
  have htrim : ∀ tok ∈ tokensOf .device d ++ tokensOf .partition p, trim tok = id tok := fun tok hmem =>
    trim_of_forall fun a ha => (hchars tok hmem a ha).isBlank_eq_false
  rw [tokens, render, String.toList_ofList, chars_explicit, split_join hne hsplit, List.map_congr_left htrim,
    List.map_id]

theorem Canonical.means {r : SelectionRules} (h : Canonical r) : Means (tokens r.render) r := by
  cases h with
  | flex => exact .flex (show ['f'] ∈ flexTokens from List.mem_cons_self) (by decide)
  | explicit hpresent hd hp =>
    rw [tokens_render hpresent]
    refine .explicit (explicit_tokensOf hd hp) (fun sel => ?_) fun sel => ?_
    all_goals
      rw [selectedBy_append, selectedBy_tokensOf_iff hd, selectedBy_tokensOf_iff hp]
      simp

/-- Rules that come from a text come back from their own text, also through JSON; and exactly the flexible
    rule and explicit rules in canonical form come from texts. -/
theorem parse_render :
    (∀ s r, parse s = .ok r → parse r.render = .ok r ∧ ofJson? r.toJson = some (.ok r) ∧
      (Json.parse? (Json.write r.toJson)).bind ofJson? = some (.ok r)) ∧
    ∀ r, (∃ s, parse s = .ok r) ↔ Canonical r := by
  have hcanonical : ∀ s r, parse s = .ok r → Canonical r := fun s r h =>
    (parse_eq_ok_iff.mp h).canonical (tokens_ne_nil s)
  have hrender : ∀ r, Canonical r → parse r.render = .ok r := fun r h => parse_eq_ok_iff.mpr h.means
  refine ⟨fun s r h => ?_, fun r => ⟨fun ⟨s, h⟩ => hcanonical s r h, fun h => ⟨r.render, hrender r h⟩⟩⟩
  have hback := hrender r (hcanonical s r h)
  have hjson : ofJson? r.toJson = some (.ok r) := congrArg some hback
  refine ⟨hback, hjson, ?_⟩
  rw [toJson, Json.parse?_write_string, Option.bind_some]
  exact hjson

theorem parse_render_unordered :
    let r := SelectionRules.explicit (some (.indices [0, 4294967295])) (some .all)
    parse " partition ;g:4294967295,+0,00-0" = .ok r ∧ parse "g:0,4294967295;i" = .ok r := by
  intro r
  have hr : parse " partition ;g:4294967295,+0,00-0" = .ok r := by decide
  exact ⟨hr, (parse_render.1 _ r hr).1⟩

end Tokens
end SelectionRules
end Telemetry
