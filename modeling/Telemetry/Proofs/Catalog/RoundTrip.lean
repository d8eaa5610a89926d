import Telemetry.Proofs.Catalog.Comments
import Telemetry.Proofs.Catalog.Fields

/-! Catalogs that are written and read back. A counter is written as a row of quoted fields, with blanks around the
    texts, and empty lines and comments may stand between rows. Reading gives back the counters, whatever their help
    texts are. -/

namespace Telemetry.Catalog

open Csv (rowsFrom symbolOfChar EndsLine)
open Text

/-! ### Writing -/

/-- Blanks around a text. -/
structure Padding where
  before : List Char := []
  after : List Char := []

namespace Padding

def around (p : Padding) (s : String) : List Char := p.before ++ s.toList ++ p.after

def Blank (p : Padding) : Prop := (∀ c ∈ p.before, isBlank c = true) ∧ ∀ c ∈ p.after, isBlank c = true

instance (p : Padding) : Decidable p.Blank :=
  decidable_of_iff (p.before.all isBlank = true ∧ p.after.all isBlank = true) <| by simp [Blank, List.all_eq_true]

end Padding

/-- What a line of a catalog holds. -/
inductive Content where
  /-- A counter, with blanks around its name, type and help text. -/
  | row (c : Counter) (name type help : Padding)
  | empty
  /-- What stands behind the sign of a comment. -/
  | comment (text : List Char)

namespace Content

def chars : Content → List Char
  | row c name type help =>
    Csv.quotedRow symbolOfChar '"' ',' [name.around c.name, type.around c.type.name, help.around c.help]
  | empty => []
  | comment text => '#' :: text

def counter? : Content → Option Counter
  | row c _ _ _ => some c
  | empty | comment _ => none

/-- Counters are those of fields, and no blank is at an end of their help texts; comments hold no quotes. -/
inductive Sound : Content → Prop where
  | row {c : Counter} {name type help : Padding} (hfield : HasField c) (hhelp : Unpadded c.help.toList)
      (hname : name.Blank) (htype : type.Blank) (hblank : help.Blank) : Sound (.row c name type help)
  | empty : Sound .empty
  | comment {text : List Char} (h : ∀ c ∈ text, c ≠ '"' ∧ c ≠ '\n' ∧ c ≠ '\r') : Sound (.comment text)

end Content

/-- A line with the characters that end it. -/
structure Line where
  content : Content
  ending : List Char

def Line.chars (l : Line) : List Char := l.content.chars ++ l.ending

/-- The text of some lines. -/
def write (ls : List Line) : String := String.ofList (ls.flatMap Line.chars)

/-- The counters that some lines are written for. -/
def written (ls : List Line) : List Counter := ls.filterMap fun l => l.content.counter?

/-! ### Reading back -/

theorem isBlank_eq_false {c : Char} (h : '$'.toNat ≤ c.toNat ∧ c.toNat ≤ 'z'.toNat) : isBlank c = false := by
  have hlow : 36 ≤ c.toNat := h.1
  have hhigh : c.toNat ≤ 122 := h.2
  simp [isBlank]
  omega

theorem unpadded_of_forall {cs : List Char} (h : ∀ c ∈ cs, isBlank c = false) : Unpadded cs :=
  ⟨fun c hc => h c (List.mem_of_mem_head? hc), fun c hc => h c (List.mem_of_mem_getLast? hc)⟩

theorem unpadded_typeName (t : MetricType) : Unpadded t.name.toList := by
  cases t <;> decide +kernel

theorem trim_around {p : Padding} (hp : p.Blank) {s : String} (hs : Unpadded s.toList) :
    String.ofList (trim (p.around s)) = s := by
  rw [Padding.around, trim_padded hp.1 hs hp.2, String.ofList_toList]

theorem readRows_cons_of_counter {row : List (List Char)} {c : Counter}
    (htexts : texts row = [c.name, c.type.name, c.help]) (hfield : HasField c) {rows : List (List (List Char))}
    {cs : List Counter} (hrows : readRows rows = .ok cs) :
    readRows (row :: rows) = .ok (c :: cs) := by
  obtain ⟨hne, hchars⟩ := hfield.name_chars
  have hignored : isIgnored [c.name, c.type.name, c.help] = false := by
    have hempty : c.name.isEmpty = false := by
      rw [String.isEmpty_eq_false_iff]
      rintro hnil
      exact hne (by rw [hnil]; rfl)
    have hsign : ¬ c.name.toList.head? = some '#' := by
      intro hhead
      have hrange := hchars '#' (List.mem_of_mem_head? hhead)
      exact absurd hrange.1 (by decide)
    simp [isIgnored, hempty, hsign]
  obtain ⟨f, hf, hid⟩ := hfield
  have hcounter : readCounter 0 [c.name, c.type.name, c.help] = .ok c := by
    simp only [readCounter, hf, MetricType.ofName?_name, ← hid]
  rw [readRows] at hrows
  rw [readRows, List.map_cons, readRecords, htexts, hignored, hcounter, hrows]
  rfl

/-- A line in front of others gives its counter, if it has one, and leaves the others as they are. -/
theorem readRows_line {l : Line} (hsound : l.content.Sound) (hending : l.ending ∈ lineEnds) {rest : List Char}
    {cs : List Counter} (hrest : readRows (rowsFrom symbolOfChar {} rest) = .ok cs) :
    readRows (rowsFrom symbolOfChar {} (l.chars ++ rest)) = .ok (l.content.counter?.toList ++ cs) := by
  obtain ⟨content, ending⟩ := l
  obtain ⟨hne, hends⟩ := endsLine_of_mem_lineEnds hending
  rw [Line.chars, List.append_assoc]
  cases hsound with
  | row hfield hhelp hname htype hblank =>
    rename_i c name type help
    obtain ⟨e, ending, rfl⟩ := List.exists_cons_of_ne_nil hne
    obtain ⟨he, hends⟩ := List.forall_mem_cons.mp hends
    have htexts : texts [name.around c.name, type.around c.type.name, help.around c.help] =
        [c.name, c.type.name, c.help] := by
      have hunpadded := unpadded_of_forall fun ch hch => isBlank_eq_false (hfield.name_chars.2 ch hch)
      simp only [texts, List.map_cons, List.map_nil, trim_around hname hunpadded,
        trim_around htype (unpadded_typeName c.type), trim_around hblank hhelp]
    rw [Content.chars, List.cons_append, Csv.rowsFrom_quotedRow rfl rfl he (.inl rfl) (List.cons_ne_nil _ _),
      Csv.rowsFrom_line_ends hends, List.nil_append]
    exact readRows_cons_of_counter htexts hfield hrest
  | empty =>
    rw [Content.chars, List.nil_append, Csv.rowsFrom_line_ends hends, hrest]
    rfl
  | comment htext =>
    rename_i text
    have hcomment : IsComment ('#' :: text) := by
      refine ⟨⟨fun hmem => ?_, fun hmem => ?_⟩, rfl⟩
      · exact (htext _ ((List.mem_cons.mp hmem).resolve_left (by decide))).2.1 rfl
      · exact (htext _ ((List.mem_cons.mp hmem).resolve_left (by decide))).2.2 rfl
    have hquote : ∀ c ∈ '#' :: text, symbolOfChar c ≠ .quote := by
      intro c hc hsymbol
      rw [symbolOfChar_eq_quote_iff] at hsymbol
      rcases List.mem_cons.mp hc with rfl | hc
      · exact absurd hsymbol (by decide)
      · exact (htext c hc).1 hsymbol
    obtain ⟨start, hsign, hbegun, hnone⟩ := begun_of_isComment hcomment
    have hstart : ({} : Csv.State Char).mode ≠ .quoted := by decide
    have hclosed := Csv.read_of_not_quote hstart hquote
    rw [Content.chars, Csv.rowsFrom_append, hnone, List.map_nil, List.nil_append,
      readRows_closed hsign hbegun hclosed hending rest, hrest]
    rfl

/-- No byte order mark is read off a text that begins with a line. -/
theorem dropMark_lines {ls : List Line} (h : ∀ l ∈ ls, l.ending ∈ lineEnds) :
    dropMark (ls.flatMap Line.chars) = ls.flatMap Line.chars := by
  cases ls with
  | nil => rfl
  | cons l ls =>
    obtain ⟨content, ending⟩ := l
    have hending : ending ∈ lineEnds := h _ List.mem_cons_self
    rw [List.flatMap_cons, Line.chars]
    cases content with
    | row => rfl
    | empty =>
      simp only [lineEnds, List.mem_cons, List.not_mem_nil, or_false] at hending
      rcases hending with rfl | rfl | rfl <;> rfl
    | comment => rfl

/-- Lines that are written for some counters are read as these counters, in order. -/
theorem parse_write {ls : List Line} (h : ∀ l ∈ ls, l.content.Sound ∧ l.ending ∈ lineEnds) :
    parse (write ls) = .ok (written ls) := by
  rw [parse_eq_ok_iff, write, String.toList_ofList, dropMark_lines fun l hl => (h l hl).2]
  induction ls with
  | nil => rfl
  | cons l ls ih =>
    obtain ⟨⟨hsound, hending⟩, hrest⟩ := List.forall_mem_cons.mp h
    rw [List.flatMap_cons, readRows_line hsound hending (ih hrest), written, written, List.filterMap_cons]
    cases l.content.counter? <;> rfl

/-- A help text with a quote, a comma and a line end, whose second line looks like a comment. -/
def awkwardHelp : Counter :=
  { field := 50, name := "DCGM_FI_DEV_NAME", type := .gauge, help := "Model, \"as is\"\r\n# not a comment" }

def awkwardLines : List Line :=
  [{ content := .comment " name, type, help".toList, ending := ['\n'] },
    { content := .row awkwardHelp {} { before := [' '] } { before := ['\n', ' '], after := ['\u00a0'] }
      ending := ['\r', '\n'] },
    { content := .empty, ending := ['\n'] },
    { content := .row { awkwardHelp with help := "" } {} {} {}, ending := ['\n'] }]

theorem parse_write_awkward :
    write awkwardLines =
      "# name, type, help\n" ++
      "\"DCGM_FI_DEV_NAME\",\" gauge\",\"\n Model, \"\"as is\"\"\r\n# not a comment\u00a0\"\r\n" ++
      "\n\"DCGM_FI_DEV_NAME\",\"gauge\",\"\"\n" ∧
    (∀ l ∈ awkwardLines, l.content.Sound ∧ l.ending ∈ lineEnds) ∧
    parse (write awkwardLines) = .ok [awkwardHelp, { awkwardHelp with help := "" }] := by
  have hfield : HasField awkwardHelp := ⟨⟨50, "DCGM_FI_DEV_NAME", .string⟩, by decide +kernel, rfl⟩
  have hsound : ∀ l ∈ awkwardLines, l.content.Sound ∧ l.ending ∈ lineEnds := by
    simp only [awkwardLines, List.forall_mem_cons]
    refine ⟨⟨.comment (by simp), by decide⟩, ⟨.row hfield ?_ ?_ ?_ ?_, by decide⟩, ⟨.empty, by decide⟩,
      ⟨.row hfield ?_ ?_ ?_ ?_, by decide⟩, nofun⟩ <;> decide +kernel
  exact ⟨by decide +kernel, hsound, parse_write hsound⟩

end Telemetry.Catalog
