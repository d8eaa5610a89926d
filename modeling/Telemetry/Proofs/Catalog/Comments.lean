import Telemetry.Proofs.Catalog.Rows

/-! Comments in catalogs. A comment line may stand anywhere between the lines of a catalog, and the catalog gives the
    same counters, or has the same fault, as long as the comment closes every quoted field that it opens. One that
    leaves a quoted field open takes the lines behind it into this field. -/

namespace Telemetry.Catalog

open CatalogError (unplaced)
open Csv (State rowsFrom symbolOfChar EndsLine)
open Text

/-- Whether a quoted field is open behind some characters. -/
def LeavesOpen (cs : List Char) : Prop := Csv.LeavesOpen symbolOfChar cs

instance (cs : List Char) : Decidable (LeavesOpen cs) := inferInstanceAs (Decidable (Csv.LeavesOpen _ _))

/-- A line whose first character that is not blank is a `#`. -/
def IsComment (line : List Char) : Prop := ('\n' ∉ line ∧ '\r' ∉ line) ∧ (trimLeft line).head? = some '#'

instance (line : List Char) : Decidable (IsComment line) := inferInstanceAs (Decidable (_ ∧ _))

/-! ### Places for lines -/

/-- A place in a text: what stands before it and behind it, and the line ends that part a line put there from these. -/
structure Place where
  before : List Char
  opening : List Char := []
  closing : List Char
  after : List Char

namespace Place

/-- The text without a line at the place. -/
def text (p : Place) : List Char := p.before ++ p.after

/-- The text with a line put at the place. -/
def fill (p : Place) (line : List Char) : List Char := p.before ++ p.opening ++ line ++ p.closing ++ p.after

/-- A line at the place is a line by itself. It begins the text or stands behind a line end, which may be put there at
    the end of the text; and there is a line end behind it, unless it ends the text. -/
structure Proper (p : Place) : Prop where
  opening : p.opening = [] ∨ p.opening ∈ lineEnds ∧ p.after = []
  begins : p.before ++ p.opening = [] ∨ ∃ e ∈ lineEnds, e <:+ p.before ++ p.opening
  closing : p.closing ∈ lineEnds ∨ p.closing = [] ∧ p.after = []

end Place

/-! ### Comments -/

/-- A comment that stands at the beginning of a line begins a record that stands for no counter. -/
theorem begun_of_isComment {line : List Char} (h : IsComment line) :
    ∃ start, IsSign start ∧ (Csv.read symbolOfChar {} line).1.Begun start ∧ (Csv.read symbolOfChar {} line).2 = [] := by
  obtain ⟨⟨hnewline, hreturn⟩, hhead⟩ := h
  have hends : ∀ c ∈ line, ¬ EndsLine symbolOfChar c := by
    intro c hc hends
    rcases endsLine_iff.mp hends with rfl | rfl
    · exact hnewline hc
    · exact hreturn hc
  obtain ⟨body, hbody⟩ := List.head?_eq_some_iff.mp hhead
  have hline : line = line.takeWhile isBlank ++ ['#'] ++ body := by
    rw [List.append_assoc, List.cons_append, List.nil_append, ← hbody]
    exact List.takeWhile_append_dropWhile.symm
  have hblanks : ∀ c ∈ line.takeWhile isBlank, isBlank c = true := List.all_eq_true.mp List.all_takeWhile
  generalize line.takeWhile isBlank = blanks at hline hblanks
  subst hline
  -- Neither a blank within a line nor the sign has a meaning for the reader.
  have hplain : ∀ c ∈ blanks ++ ['#'], symbolOfChar c = .plain := by
    intro c hc
    rcases List.mem_append.mp hc with hblank | hsign
    · have hc := hblanks c hblank
      refine symbolOfChar_eq_plain ?_ ?_ (hends c (List.mem_append_left _ (List.mem_append_left _ hblank)))
      · rintro rfl
        exact absurd hc (by decide)
      · rintro rfl
        exact absurd hc (by decide)
    · obtain rfl := List.mem_singleton.mp hsign
      rfl
  obtain ⟨hstart, -⟩ := Csv.begun_read_plain (by simp) hplain
  have hbody := Csv.read_of_not_endsLine fun c hc => hends c (List.mem_append_right _ hc)
  refine ⟨blanks ++ ['#'], ⟨blanks, hblanks, rfl⟩, ?_, Csv.read_of_not_endsLine hends {}⟩
  rw [Csv.read_append]
  exact hstart.read (hbody _)

section Behind
variable {start : List Char} {st : State Char}

theorem readRows_closed (hsign : IsSign start) (hbegun : st.Begun start) (hmode : st.mode ≠ .quoted)
    {closing : List Char} (hclosing : closing ∈ lineEnds) (after : List Char) :
    readRows (rowsFrom symbolOfChar st (closing ++ after)) = readRows (rowsFrom symbolOfChar {} after) := by
  obtain ⟨hne, hends⟩ := endsLine_of_mem_lineEnds hclosing
  obtain ⟨c, closing, rfl⟩ := List.exists_cons_of_ne_nil hne
  obtain ⟨hc, hends⟩ := List.forall_mem_cons.mp hends
  obtain ⟨f, fs, hrows, hstart⟩ := hbegun.rowsFrom_line_end hmode hc (closing ++ after)
  rw [List.cons_append, hrows, readRows_cons_of_ignored (isIgnored_of_sign hsign hstart fs),
    Csv.rowsFrom_line_ends hends]

theorem readRows_final (hsign : IsSign start) (hbegun : st.Begun start) :
    readRows (rowsFrom symbolOfChar st []) = .ok [] := by
  obtain ⟨f, fs, hrows, hstart⟩ := hbegun.rowsFrom_nil symbolOfChar
  rw [hrows, readRows_cons_of_ignored (isIgnored_of_sign hsign hstart fs)]
  rfl

/-- Behind an open quote there are no rows up to the next quote. -/
theorem readRows_open (hsign : IsSign start) (hbegun : st.Begun start) (hmode : st.mode = .quoted) {rest : List Char}
    (hrest : '"' ∉ rest) : readRows (rowsFrom symbolOfChar st rest) = .ok [] := by
  have hquote : ∀ c ∈ rest, symbolOfChar c ≠ .quote := by
    intro c hc hsymbol
    rw [symbolOfChar_eq_quote_iff.mp hsymbol] at hc
    exact hrest hc
  have hnone := (Csv.read_quoted hmode hquote).2
  have hrows := Csv.rowsFrom_append symbolOfChar st rest []
  rw [List.append_nil, hnone] at hrows
  rw [hrows]
  exact readRows_final hsign (hbegun.read hnone)

end Behind

/-! ### Texts with a comment -/

section Fill
variable {p : Place}

/-- The rows in front of a place. -/
def Place.rowsBefore (p : Place) : List (List (List Char)) :=
  (Csv.read symbolOfChar {} (p.before ++ p.opening)).2.map Csv.Record.fields

/-- At the place the reader is as at the beginning of a text. -/
theorem Place.Proper.like_start (h : p.Proper) (hcomplete : ¬ LeavesOpen p.before) :
    (Csv.read symbolOfChar {} (p.before ++ p.opening)).1.Like {} := by
  rcases h.opening with hnil | ⟨hopening, -⟩
  · have hbegins := h.begins
    rw [hnil, List.append_nil] at hbegins ⊢
    rcases hbegins with hnil | ⟨e, he, r, hr⟩
    · rw [hnil]
      exact ⟨rfl, rfl, rfl⟩
    · obtain ⟨hne, hends⟩ := endsLine_of_mem_lineEnds he
      rw [← hr] at hcomplete ⊢
      rw [Csv.read_append]
      refine Csv.like_of_endsLine (Csv.settled_read Csv.settled_start r) (fun hquoted => hcomplete ?_) hne hends
      -- A line end does not close a quoted field.
      rw [LeavesOpen, Csv.LeavesOpen, Csv.read_append]
      refine (Csv.read_quoted hquoted fun c hc hquote => ?_).1
      rcases hends c hc with hc | hc <;> cases hquote.symm.trans hc
  · obtain ⟨hne, hends⟩ := endsLine_of_mem_lineEnds hopening
    rw [Csv.read_append]
    exact Csv.like_of_endsLine (Csv.settled_read Csv.settled_start _) hcomplete hne hends

theorem Place.Proper.rowsFrom_before (h : p.Proper) (hcomplete : ¬ LeavesOpen p.before) :
    rowsFrom symbolOfChar {} p.before = p.rowsBefore := by
  have hrows : rowsFrom symbolOfChar {} (p.before ++ p.opening) = p.rowsBefore := by
    have happend := Csv.rowsFrom_append symbolOfChar {} (p.before ++ p.opening) []
    rw [List.append_nil, Csv.rowsFrom_congr (h.like_start hcomplete)] at happend
    rw [happend]
    exact List.append_nil _
  rcases h.opening with hnil | ⟨hopening, -⟩
  · rwa [hnil, List.append_nil] at hrows
  · have hlast := Csv.rowsFrom_final (Csv.settled_read Csv.settled_start p.before) hcomplete
      (endsLine_of_mem_lineEnds hopening).2
    have hbefore := Csv.rowsFrom_append symbolOfChar {} p.before []
    rw [List.append_nil, ← hlast, ← Csv.rowsFrom_append, hrows] at hbefore
    exact hbefore

theorem Place.Proper.rowsFrom_text (h : p.Proper) (hcomplete : ¬ LeavesOpen p.before) :
    rowsFrom symbolOfChar {} p.text = p.rowsBefore ++ rowsFrom symbolOfChar {} p.after := by
  rcases h.opening with hnil | ⟨-, hafter⟩
  · have hstart := h.like_start hcomplete
    rw [hnil, List.append_nil] at hstart
    rw [Place.text, Csv.rowsFrom_append, Csv.rowsFrom_congr hstart, Place.rowsBefore, hnil, List.append_nil]
  · rw [Place.text, hafter, List.append_nil, h.rowsFrom_before hcomplete]
    exact (List.append_nil _).symm

theorem Place.Proper.rowsFrom_fill (h : p.Proper) (hcomplete : ¬ LeavesOpen p.before) {line : List Char}
    (hnone : (Csv.read symbolOfChar {} line).2 = []) :
    rowsFrom symbolOfChar {} (p.fill line) =
      p.rowsBefore ++ rowsFrom symbolOfChar (Csv.read symbolOfChar {} line).1 (p.closing ++ p.after) := by
  rw [Place.fill, List.append_assoc, List.append_assoc, Csv.rowsFrom_append,
    Csv.rowsFrom_congr (h.like_start hcomplete), Csv.rowsFrom_append, hnone]
  rfl

end Fill

/-- A comment line put between the lines of a catalog, or at either end, in front of which no quoted field is open. The
    counters stay the same, and so does a fault, but for its line, if the comment closes the quoted fields that it
    opens or nothing stands behind it. If it leaves one open, the rows behind it are lost up to the next quote. -/
theorem parse_fill_comment {p : Place} {line : List Char} {text filled : String} (hproper : p.Proper)
    (hcomplete : ¬ LeavesOpen p.before) (hcomment : IsComment line) (htext : dropMark text.toList = p.text)
    (hfilled : dropMark filled.toList = p.fill line) :
    (¬ LeavesOpen line ∨ p.after = [] → (parse filled).mapError unplaced = (parse text).mapError unplaced) ∧
      (LeavesOpen line → '"' ∉ p.after → ∀ start : String, dropMark start.toList = p.before →
        (parse filled).mapError unplaced = (parse start).mapError unplaced) := by
  obtain ⟨start, hsign, hbegun, hnone⟩ := begun_of_isComment hcomment
  have hclosing : '"' ∉ p.closing := by
    rcases hproper.closing with hclosing | ⟨hnil, -⟩
    · intro hquote
      rcases (endsLine_of_mem_lineEnds hclosing).2 _ hquote with h | h <;> cases h
    · simp [hnil]
  have hlost (hopen : LeavesOpen line) (hafter : '"' ∉ p.after) :
      readRows (rowsFrom symbolOfChar (Csv.read symbolOfChar {} line).1 (p.closing ++ p.after)) = readRows [] :=
    readRows_open hsign hbegun hopen (fun hquote => (List.mem_append.mp hquote).elim hclosing hafter)
  rw [unplaced_parse, unplaced_parse, htext, hfilled, hproper.rowsFrom_text hcomplete,
    hproper.rowsFrom_fill hcomplete hnone]
  refine ⟨fun hclosed => readRows_append_congr _ ?_, fun hopen hafter s hs => ?_⟩
  · by_cases hopen : LeavesOpen line
    · have hafter : p.after = [] := hclosed.resolve_left (not_not_intro hopen)
      rw [hlost hopen (by simp [hafter]), hafter]
      rfl
    · rcases hproper.closing with hclosing | ⟨hnil, hafter⟩
      · exact readRows_closed hsign hbegun hopen hclosing p.after
      · rw [hnil, hafter]
        exact readRows_final hsign hbegun
  · rw [unplaced_parse, hs, hproper.rowsFrom_before hcomplete, readRows_append_congr _ (hlost hopen hafter),
      List.append_nil]

/-- A place between two rows. -/
def betweenRows : Place where
  before := "DCGM_FI_DEV_NAME,gauge,\"Model, if any\"\n".toList
  closing := ['\n']
  after := "DCGM_FI_DEV_GPU_TEMP,gauge,Temperature\n".toList

theorem proper_betweenRows : betweenRows.Proper :=
  ⟨.inl rfl, .inr ⟨['\n'], by decide, by decide +kernel⟩, .inl (by decide)⟩

/-- A comment with a quoted field that it closes. -/
theorem parse_fill_comment_quoting :
    let line := "  # name,\"type, help\"".toList
    let counters : List Counter :=
      [{ field := 50, name := "DCGM_FI_DEV_NAME", type := .gauge, help := "Model, if any" },
        { field := 150, name := "DCGM_FI_DEV_GPU_TEMP", type := .gauge, help := "Temperature" }]
    betweenRows.Proper ∧ ¬ LeavesOpen betweenRows.before ∧ IsComment line ∧ ¬ LeavesOpen line ∧
      parse (String.ofList betweenRows.text) = .ok counters ∧
      parse (String.ofList (betweenRows.fill line)) = .ok counters := by
  intro line counters
  have hcomplete : ¬ LeavesOpen betweenRows.before := by decide +kernel
  have hcomment : IsComment line := by decide +kernel
  have hclosed : ¬ LeavesOpen line := by decide +kernel
  have hcounters : parse (String.ofList betweenRows.text) = .ok counters := rfl
  have htext : dropMark (String.ofList betweenRows.text).toList = betweenRows.text := by
    rw [String.toList_ofList]
    rfl
  have hfilled : dropMark (String.ofList (betweenRows.fill line)).toList = betweenRows.fill line := by
    rw [String.toList_ofList]
    rfl
  have hsame := (parse_fill_comment proper_betweenRows hcomplete hcomment htext hfilled).1 (.inl hclosed)
  rw [hcounters] at hsame
  exact ⟨proper_betweenRows, hcomplete, hcomment, hclosed, hcounters, mapError_eq_ok_iff.mp hsame⟩

/-- A comment with a quote that it does not close takes the row behind it. -/
theorem parse_fill_comment_swallowing :
    let line := "# see,\"notes".toList
    betweenRows.Proper ∧ ¬ LeavesOpen betweenRows.before ∧ ¬ LeavesOpen betweenRows.text ∧ IsComment line ∧
      (∃ c c', parse (String.ofList betweenRows.text) = .ok [c, c']) ∧
      ∃ c, parse (String.ofList (betweenRows.fill line)) = .ok [c] :=
  ⟨proper_betweenRows, by decide +kernel, by decide +kernel, by decide +kernel, ⟨_, _, rfl⟩, _, rfl⟩

end Telemetry.Catalog
