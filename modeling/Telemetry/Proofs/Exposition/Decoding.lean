import Mathlib.Data.List.Basic
import Telemetry.Proofs.Exposition.Grouping

/-! Reading a text back. A reader needs no more than the text to get every name with its help text and
    type, and the labels and values of every sample, as long as names and the keys of labels can be
    told from what stands around them. Help texts and the values of labels may hold anything. -/

namespace Telemetry.Exposition

/-! ### Reading -/

structure Sample where
  labels : List (String × String)
  value : String
  deriving DecidableEq, Repr

/-- The samples of a name as a reader sees them. -/
structure Family where
  name : String
  help : String
  type : MetricType
  samples : List Sample
  deriving DecidableEq, Repr

/-- What a character behind a backslash stands for. -/
def unescapeChar : Char → Char
  | 'n' => '\n'
  | c => c

/-- An escaped text as it was before. -/
def unescape : List Char → List Char
  | '\\' :: c :: cs => unescapeChar c :: unescape cs
  | c :: cs => c :: unescape cs
  | [] => []

/-- The text in front of the first `stop`, and what follows it. -/
def cut? (stop : Char) : List Char → Option (List Char × List Char)
  | [] => none
  | c :: cs => if c = stop then some ([], cs) else (cut? stop cs).map fun (s, rest) => (c :: s, rest)

/-- The text in front of the closing quotation mark, as it was before it was escaped, and what follows
    the mark. -/
def readQuoted? : List Char → Option (List Char × List Char)
  | [] => none
  | '"' :: cs => some ([], cs)
  | '\\' :: c :: cs => (readQuoted? cs).map fun (s, rest) => (unescapeChar c :: s, rest)
  | c :: cs => (readQuoted? cs).map fun (s, rest) => (c :: s, rest)

/-- A label with its value, and what follows it. -/
def readLabel? (cs : List Char) : Option ((String × String) × List Char) :=
  match cut? '=' cs with
  | some (key, '"' :: cs) =>
    (readQuoted? cs).map fun (value, rest) => ((String.ofList key, String.ofList value), rest)
  | _ => none

theorem length_of_cut? {stop : Char} {cs s rest : List Char} (h : cut? stop cs = some (s, rest)) :
    rest.length < cs.length := by
  induction cs generalizing s with
  | nil => cases h
  | cons c cs ih =>
    rw [cut?] at h
    split at h
    · cases h
      exact Nat.lt_succ_self _
    · obtain ⟨⟨s', rest'⟩, hcut, heq⟩ := Option.map_eq_some_iff.mp h
      cases heq
      exact Nat.lt_succ_of_lt (ih hcut)

theorem length_of_readQuoted? {cs s rest : List Char} (h : readQuoted? cs = some (s, rest)) :
    rest.length < cs.length := by
  induction cs using readQuoted?.induct generalizing s with
  | case1 => cases h
  | case2 cs =>
    cases h
    exact Nat.lt_succ_self _
  | case3 c cs ih =>
    rw [readQuoted?] at h
    obtain ⟨⟨s', rest'⟩, hcs, heq⟩ := Option.map_eq_some_iff.mp h
    cases heq
    exact Nat.lt_succ_of_lt (Nat.lt_succ_of_lt (ih hcs))
  | case4 c cs hquote hescape ih =>
    rw [readQuoted?] at h
    · obtain ⟨⟨s', rest'⟩, hcs, heq⟩ := Option.map_eq_some_iff.mp h
      cases heq
      exact Nat.lt_succ_of_lt (ih hcs)
    · exact hquote
    · exact hescape

theorem length_of_readLabel? {cs rest : List Char} {label : String × String}
    (h : readLabel? cs = some (label, rest)) : rest.length < cs.length := by
  unfold readLabel? at h
  split at h
  · rename_i key cs' hcut
    obtain ⟨⟨value, rest'⟩, hvalue, heq⟩ := Option.map_eq_some_iff.mp h
    cases heq
    have hkey := length_of_cut? hcut
    have hrest := length_of_readQuoted? hvalue
    simp only [List.length_cons] at hkey
    omega
  · cases h

/-- The labels up to the closing brace, and what follows it. -/
def readLabels? (cs : List Char) : Option (List (String × String) × List Char) :=
  match _h : readLabel? cs with
  | some (label, ',' :: rest) => (readLabels? rest).map fun (labels, rest) => (label :: labels, rest)
  | some (label, '\x7d' :: rest) => some ([label], rest)
  | _ => none
termination_by cs.length
decreasing_by
  have := length_of_readLabel? _h
  simp only [List.length_cons] at this
  omega

def readSample? (line : List Char) : Option (String × Sample) :=
  match cut? '\x7b' line with
  | none => none
  | some (name, cs) =>
    match readLabels? cs with
    | some (labels, ' ' :: value) => some (String.ofList name, { labels, value := String.ofList value })
    | _ => none

/-- The name and what is said about it on a line that begins with a mark. -/
def readMarked? (mark line : List Char) : Option (String × List Char) :=
  (line.dropPrefix? mark).bind fun cs => (cut? ' ' cs).map fun (name, rest) => (String.ofList name, rest)

inductive Line where
  | help (name help : String)
  | type (name : String) (type : MetricType)
  | sample (name : String) (sample : Sample)
  deriving DecidableEq, Repr

def readLine? (line : List Char) : Option Line :=
  match readMarked? helpMark line with
  | some (name, help) => some (.help name (String.ofList (unescape help)))
  | none =>
    match readMarked? typeMark line with
    | some (name, type) => (MetricType.ofName? (String.ofList type)).map (.type name)
    | none => (readSample? line).map fun (name, sample) => .sample name sample

/-- The families of some lines, and in front of them the samples that no help text precedes. -/
def families? : List Line → Option (List (String × Sample) × List Family)
  | [] => some ([], [])
  | .help name help :: .type typeName type :: rest =>
    match families? rest with
    | some (samples, families) =>
      if typeName = name ∧ ∀ s ∈ samples, s.1 = name then
        some ([], { name, help, type, samples := samples.map Prod.snd } :: families)
      else none
    | none => none
  | .sample name sample :: rest =>
    (families? rest).map fun (samples, families) => ((name, sample) :: samples, families)
  | _ => none

/-- The families of a text that ends with the end of a line. -/
def decode (text : String) : Option (List Family) :=
  let pieces := Text.split '\n' text.toList
  if pieces.getLast? = some [] then
    match (pieces.dropLast.mapM readLine?).bind families? with
    | some ([], families) => some families
    | _ => none
  else none

/-! ### What is written is read -/

theorem unescape_cons {c : Char} (h : c ≠ '\\') (cs : List Char) : unescape (c :: cs) = c :: unescape cs := by
  rw [unescape]
  intro _ _ hc
  exact absurd hc h

theorem escapeHelp_cons (c : Char) (cs : List Char) :
    escapeHelp (c :: cs) =
      (if c = '\\' then ['\\', '\\'] else if c = '\n' then ['\\', 'n'] else [c]) ++ escapeHelp cs := by
  rw [escapeHelp_eq, escapeHelp_eq, List.flatMap_cons, toList_spellHelp]

theorem unescape_escapeHelp (cs : List Char) : unescape (escapeHelp cs) = cs := by
  induction cs with
  | nil => rfl
  | cons c cs ih =>
    rw [escapeHelp_cons]
    by_cases hb : c = '\\'
    · simp [hb, unescape, unescapeChar, ih]
    · by_cases hn : c = '\n'
      · simp [hn, unescape, unescapeChar, ih]
      · simp [hb, hn, unescape_cons hb, ih]

theorem newline_not_mem_escapeHelp (cs : List Char) : '\n' ∉ escapeHelp cs := by
  induction cs with
  | nil => exact List.not_mem_nil
  | cons c cs ih =>
    rw [escapeHelp_cons, List.mem_append, not_or]
    refine ⟨?_, ih⟩
    by_cases hb : c = '\\'
    · simp [hb]
    · by_cases hn : c = '\n'
      · simp [hn]
      · simp [hb, hn, Ne.symm hn]

theorem escapeLabelChar_of_ne {c : Char} (hb : c ≠ '\\') (hq : c ≠ '"') (hn : c ≠ '\n') :
    escapeLabelChar c = [c] := by
  unfold escapeLabelChar
  split
  · exact absurd rfl hb
  · exact absurd rfl hq
  · exact absurd rfl hn
  · rfl

theorem readQuoted?_escaped (cs rest : List Char) :
    readQuoted? (cs.flatMap escapeLabelChar ++ '"' :: rest) = some (cs, rest) := by
  induction cs with
  | nil => rfl
  | cons c cs ih =>
    rw [List.flatMap_cons, List.append_assoc]
    by_cases hb : c = '\\'
    · simp [hb, escapeLabelChar, readQuoted?, unescapeChar, ih]
    by_cases hq : c = '"'
    · simp [hq, escapeLabelChar, readQuoted?, unescapeChar, ih]
    by_cases hn : c = '\n'
    · simp [hn, escapeLabelChar, readQuoted?, unescapeChar, ih]
    rw [escapeLabelChar_of_ne hb hq hn, List.singleton_append, readQuoted?, ih]
    · rfl
    · exact hq
    · intro _ _ hc
      exact absurd hc hb

theorem newline_not_mem_escapeLabel (cs : List Char) : '\n' ∉ cs.flatMap escapeLabelChar := by
  rw [List.mem_flatMap]
  rintro ⟨c, -, hc⟩
  unfold escapeLabelChar at hc
  split at hc
  · simp at hc
  · simp at hc
  · simp at hc
  · rename_i hn
    exact hn (List.mem_singleton.mp hc).symm

theorem cut?_append {stop : Char} {s : List Char} (h : stop ∉ s) (rest : List Char) :
    cut? stop (s ++ stop :: rest) = some (s, rest) := by
  induction s with
  | nil => simp [cut?]
  | cons c cs ih =>
    have hc : c ≠ stop := fun e => h (e ▸ List.mem_cons_self)
    simp [cut?, hc, ih fun hm => h (List.mem_cons_of_mem _ hm)]

theorem readLabel?_labelChars {label : String × String} (h : '=' ∉ label.1.toList) (rest : List Char) :
    readLabel? (labelChars label ++ rest) = some (label, rest) := by
  have hcut : cut? '=' (labelChars label ++ rest) =
      some (label.1.toList, '"' :: (label.2.toList.flatMap escapeLabelChar ++ '"' :: rest)) := by
    rw [← cut?_append h]
    simp [labelChars]
  rw [readLabel?, hcut]
  simp [readQuoted?_escaped]

theorem readLabels?_of_comma {cs rest : List Char} {label : String × String}
    (h : readLabel? cs = some (label, ',' :: rest)) :
    readLabels? cs = (readLabels? rest).map fun (labels, rest) => (label :: labels, rest) := by
  rw [readLabels?, h]
  rfl

theorem readLabels?_of_brace {cs rest : List Char} {label : String × String}
    (h : readLabel? cs = some (label, '\x7d' :: rest)) : readLabels? cs = some ([label], rest) := by
  rw [readLabels?, h]
  rfl

theorem readLabels?_join {labels : List (String × String)} (hne : labels ≠ [])
    (h : ∀ label ∈ labels, '=' ∉ label.1.toList) (rest : List Char) :
    readLabels? (Text.join ',' (labels.map labelChars) ++ '\x7d' :: rest) = some (labels, rest) := by
  induction labels with
  | nil => exact absurd rfl hne
  | cons label labels ih =>
    have hlabel := h label List.mem_cons_self
    cases labels with
    | nil => exact readLabels?_of_brace (readLabel?_labelChars hlabel _)
    | cons next labels =>
      have hrest := ih (List.cons_ne_nil _ _) fun l hl => h l (List.mem_cons_of_mem _ hl)
      have hjoin : Text.join ',' ((label :: next :: labels).map labelChars) ++ '\x7d' :: rest =
          labelChars label ++ ',' :: (Text.join ',' ((next :: labels).map labelChars) ++ '\x7d' :: rest) :=
        List.append_assoc _ _ _
      rw [hjoin, readLabels?_of_comma (readLabel?_labelChars hlabel _), hrest]
      rfl

/-! ### Plain names -/

/-- A name that can be told from what stands around it. -/
structure PlainName (name : String) : Prop where
  ne_empty : name ≠ ""
  no_comment : name.toList.head? ≠ some '#'
  chars : ∀ c ∈ name.toList, c ≠ ' ' ∧ c ≠ '\n' ∧ c ≠ '\x7b'

/-- The key of a label that can be told from what stands around it. -/
def PlainKey (key : String) : Prop :=
  ∀ c ∈ key.toList, c ≠ '=' ∧ c ≠ '"' ∧ c ≠ ',' ∧ c ≠ '\x7d' ∧ c ≠ '\n'

instance (key : String) : Decidable (PlainKey key) :=
  List.decidableBAll (fun c => c ≠ '=' ∧ c ≠ '"' ∧ c ≠ ',' ∧ c ≠ '\x7d' ∧ c ≠ '\n') key.toList

/-- A sample all of whose parts can be told from what stands around them. Its own attributes are the
    labels whose keys it chooses. -/
structure PlainMetric (m : Metric) : Prop where
  name : PlainName m.counter.name
  keys : ∀ a ∈ m.attributes.toList, PlainKey a.1
  value : '\n' ∉ m.value.toList

theorem PlainName.space_not_mem {name : String} (h : PlainName name) : ' ' ∉ name.toList :=
  fun hm => (h.chars _ hm).1 rfl

theorem PlainName.newline_not_mem {name : String} (h : PlainName name) : '\n' ∉ name.toList :=
  fun hm => (h.chars _ hm).2.1 rfl

theorem PlainName.brace_not_mem {name : String} (h : PlainName name) : '\x7b' ∉ name.toList :=
  fun hm => (h.chars _ hm).2.2 rfl

/-- The keys that are the same for all samples are plain, too. -/
theorem plainKey_of_mem_labels {m : Metric} (hkeys : ∀ a ∈ m.attributes.toList, PlainKey a.1) :
    ∀ label ∈ m.labels, PlainKey label.1 := by
  have huuid : PlainKey m.style.uuid := by
    cases m.style <;> simp [LabelStyle.uuid, PlainKey]
  have hfixed : ∀ key ∈ ["gpu", "device", "modelName", "GPU_I_PROFILE", "GPU_I_ID", "Hostname"],
      PlainKey key := by
    simp [PlainKey]
  intro label hlabel
  simp only [Metric.labels, List.mem_append] at hlabel
  rcases hlabel with ((hlabel | hlabel) | hlabel) | hlabel
  · simp only [List.mem_cons, List.not_mem_nil, or_false] at hlabel
    rcases hlabel with rfl | rfl | rfl | rfl
    · exact hfixed _ (by simp)
    · exact huuid
    · exact hfixed _ (by simp)
    · exact hfixed _ (by simp)
  · split at hlabel
    · cases hlabel
    · simp only [List.mem_cons, List.not_mem_nil, or_false] at hlabel
      rcases hlabel with rfl | rfl <;> exact hfixed _ (by simp)
  · obtain ⟨host, -, rfl⟩ := List.mem_map.mp hlabel
    exact hfixed _ (by simp)
  · exact hkeys label hlabel

theorem PlainMetric.labels {m : Metric} (h : PlainMetric m) : ∀ label ∈ m.labels, PlainKey label.1 :=
  plainKey_of_mem_labels h.keys

theorem newline_not_mem_labelChars {label : String × String} (h : PlainKey label.1) : '\n' ∉ labelChars label := by
  have hkey : '\n' ∉ label.1.toList := fun hm => (h _ hm).2.2.2.2 rfl
  simpa [labelChars, hkey] using newline_not_mem_escapeLabel label.2.toList

/-! ### Lines -/

theorem newline_not_mem_helpLine {c : Counter} (h : PlainName c.name) : '\n' ∉ helpLine c := by
  have hmark : '\n' ∉ helpMark := by decide
  simp [helpLine, hmark, h.newline_not_mem, newline_not_mem_escapeHelp]

theorem newline_not_mem_typeLine {c : Counter} (h : PlainName c.name) : '\n' ∉ typeLine c := by
  have htype : '\n' ∉ c.type.name.toList := by
    cases c.type <;> simp [MetricType.name]
  have hmark : '\n' ∉ typeMark := by decide
  simp [typeLine, hmark, h.newline_not_mem, htype]

theorem newline_not_mem_labels {m : Metric} (hkeys : ∀ a ∈ m.attributes.toList, PlainKey a.1) :
    '\n' ∉ Text.join ',' (m.labels.map labelChars) := by
  refine Text.not_mem_join (by decide) fun p hp => ?_
  obtain ⟨label, hlabel, rfl⟩ := List.mem_map.mp hp
  exact newline_not_mem_labelChars (plainKey_of_mem_labels hkeys label hlabel)

theorem newline_not_mem_sampleLine {m : Metric} (h : PlainMetric m) : '\n' ∉ sampleLine m := by
  simp [sampleLine, h.name.newline_not_mem, newline_not_mem_labels h.keys, h.value]

def sampleOf (m : Metric) : Sample := { labels := labelsOf m, value := m.value }

theorem readSample?_sampleLine {m : Metric} (h : PlainMetric m) :
    readSample? (sampleLine m) = some (m.counter.name, sampleOf m) := by
  have hne : m.labels ≠ [] := by simp [Metric.labels]
  have hkeys : ∀ label ∈ m.labels, '=' ∉ label.1.toList := fun label hl hm => (h.labels label hl _ hm).1 rfl
  have hcut : cut? '\x7b' (sampleLine m) =
      some (m.counter.name.toList, Text.join ',' (m.labels.map labelChars) ++ '\x7d' :: ' ' :: m.value.toList) := by
    rw [← cut?_append h.name.brace_not_mem]
    simp [sampleLine]
  rw [readSample?, hcut]
  simp [readLabels?_join hne hkeys, sampleOf, ← labels_eq_labelsOf]

theorem readMarked?_append {mark : List Char} {name : String} (h : PlainName name) (rest : List Char) :
    readMarked? mark (mark ++ name.toList ++ ' ' :: rest) = some (name, rest) := by
  rw [readMarked?, List.append_assoc, List.dropPrefix?_append_of_beq _ (beq_self_eq_true mark)]
  simp [cut?_append h.space_not_mem]

/-- The line of a sample is no line of a help text or a type: its name does not begin a comment. -/
theorem readMarked?_sampleLine {m : Metric} (h : PlainName m.counter.name) (mark : List Char) :
    readMarked? ('#' :: mark) (sampleLine m) = none := by
  have hhead : (sampleLine m).head? ≠ some '#' := by
    rw [sampleLine, List.append_assoc, List.head?_append]
    cases hname : m.counter.name.toList.head? with
    | none => simp
    | some c =>
      have hc := h.no_comment
      rw [hname] at hc
      simpa using hc
  have hdrop : (sampleLine m).dropPrefix? ('#' :: mark) = none := by
    refine Option.eq_none_iff_forall_ne_some.mpr fun rest hrest => ?_
    obtain ⟨start, hline, hstart⟩ := List.dropPrefix?_eq_some_iff.mp hrest
    rw [hline, eq_of_beq hstart] at hhead
    exact hhead rfl
  rw [readMarked?, hdrop]
  rfl

theorem readLine?_helpLine {c : Counter} (h : PlainName c.name) :
    readLine? (helpLine c) = some (.help c.name c.help) := by
  rw [readLine?, helpLine, readMarked?_append h]
  simp [unescape_escapeHelp]

theorem readLine?_typeLine {c : Counter} (h : PlainName c.name) :
    readLine? (typeLine c) = some (.type c.name c.type) := by
  have hhelp : readMarked? helpMark (typeLine c) = none := rfl
  rw [readLine?, hhelp, typeLine, readMarked?_append h]
  simp [MetricType.ofName?_name]

theorem readLine?_sampleLine {m : Metric} (h : PlainMetric m) :
    readLine? (sampleLine m) = some (.sample m.counter.name (sampleOf m)) := by
  rw [readLine?, helpMark, readMarked?_sampleLine h.name, typeMark, readMarked?_sampleLine h.name,
    readSample?_sampleLine h]
  rfl

/-! ### Families -/

/-- What a reader gets of the samples of a counter's name. -/
def familyOf (ms : List Metric) (c : Counter) : Family :=
  { name := c.name, help := c.help, type := c.type, samples := (samplesOf c.name ms).map sampleOf }

def linesOf (ms : List Metric) (c : Counter) : List Line :=
  .help c.name c.help :: .type c.name c.type :: (samplesOf c.name ms).map fun m => .sample m.counter.name (sampleOf m)

theorem mapM_readLine?_samples {ms : List Metric} (h : ∀ m ∈ ms, PlainMetric m) :
    (ms.map sampleLine).mapM readLine? = some (ms.map fun m => .sample m.counter.name (sampleOf m)) := by
  induction ms with
  | nil => rfl
  | cons m ms ih =>
    have hms := ih fun x hx => h x (List.mem_cons_of_mem _ hx)
    rw [List.map_cons, List.mapM_cons, readLine?_sampleLine (h m List.mem_cons_self), hms]
    rfl

theorem mapM_readLine?_blocks {cs : List Counter} {ms : List Metric} (hc : ∀ c ∈ cs, PlainName c.name)
    (hm : ∀ m ∈ ms, PlainMetric m) :
    (cs.flatMap fun c => helpLine c :: typeLine c :: (samplesOf c.name ms).map sampleLine).mapM readLine? =
      some (cs.flatMap (linesOf ms)) := by
  induction cs with
  | nil => rfl
  | cons c cs ih =>
    have hname := hc c List.mem_cons_self
    have hsamples := mapM_readLine?_samples fun m (hs : m ∈ samplesOf c.name ms) =>
      hm m (List.mem_of_mem_filter hs)
    have hrest := ih fun x hx => hc x (List.mem_cons_of_mem _ hx)
    rw [List.flatMap_cons, List.mapM_append, List.mapM_cons, List.mapM_cons, readLine?_helpLine hname,
      readLine?_typeLine hname, hsamples, hrest]
    rfl

theorem families?_samples (ms : List Metric) {ls : List Line} {samples : List (String × Sample)}
    {families : List Family} (hls : families? ls = some (samples, families)) :
    families? ((ms.map fun m => .sample m.counter.name (sampleOf m)) ++ ls) =
      some ((ms.map fun m => (m.counter.name, sampleOf m)) ++ samples, families) := by
  induction ms with
  | nil => exact hls
  | cons m ms ih =>
    rw [List.map_cons, List.cons_append, families?, ih]
    rfl

theorem families?_linesOf (cs : List Counter) (ms : List Metric) :
    families? (cs.flatMap (linesOf ms)) = some ([], cs.map (familyOf ms)) := by
  induction cs with
  | nil => rfl
  | cons c cs ih =>
    have hsamples := families?_samples (samplesOf c.name ms) ih
    have hnames : ∀ m ∈ samplesOf c.name ms, m.counter.name = c.name := fun m hm => by
      simpa using (List.mem_filter.mp hm).2
    have hall : ∀ s ∈ ((samplesOf c.name ms).map fun m => (m.counter.name, sampleOf m)) ++ [], s.1 = c.name := by
      rw [List.append_nil]
      intro s hs
      obtain ⟨m, hm, rfl⟩ := List.mem_map.mp hs
      exact hnames m hm
    rw [List.flatMap_cons, linesOf, List.cons_append, List.cons_append, families?, hsamples]
    refine (if_pos ⟨rfl, hall⟩).trans ?_
    rw [List.append_nil, List.map_map]
    rfl

/-! ### Texts -/

/-- A catalog and a set of metrics whose names and keys can be told from what stands around them. -/
structure Plain (catalog : List Counter) (metrics : MetricSet) : Prop where
  counters : ∀ c ∈ catalog, PlainName c.name
  metrics : ∀ m ∈ metrics.flatten, PlainMetric m

/-- What a reader gets of a catalog and a set of metrics. -/
def families (catalog : List Counter) (metrics : MetricSet) : List Family :=
  (heads catalog metrics).map (familyOf metrics.flatten)

theorem Plain.name_of_mem_heads {catalog : List Counter} {metrics : MetricSet} (h : Plain catalog metrics) :
    ∀ c ∈ heads catalog metrics, PlainName c.name := by
  intro c hc
  rw [heads_eq_firsts] at hc
  rcases List.mem_append.mp ((firsts_sublist _).subset hc) with hc | hc
  · exact h.counters c hc
  · obtain ⟨m, hm, rfl⟩ := List.mem_map.mp hc
    exact (h.metrics m hm).name

theorem Plain.newline_not_mem_lines {catalog : List Counter} {metrics : MetricSet} (h : Plain catalog metrics) :
    ∀ l ∈ lines catalog metrics, '\n' ∉ l := by
  intro l hl
  rw [lines_eq, List.mem_flatMap] at hl
  obtain ⟨c, hc, hl⟩ := hl
  rcases List.mem_cons.mp hl with rfl | hl
  · exact newline_not_mem_helpLine (h.name_of_mem_heads c hc)
  rcases List.mem_cons.mp hl with rfl | hl
  · exact newline_not_mem_typeLine (h.name_of_mem_heads c hc)
  · obtain ⟨m, hm, rfl⟩ := List.mem_map.mp hl
    exact newline_not_mem_sampleLine (h.metrics m (List.mem_of_mem_filter hm))

theorem Plain.decode_render {catalog : List Counter} {metrics : MetricSet} (h : Plain catalog metrics) :
    decode (render catalog metrics) = some (families catalog metrics) := by
  have hlines : (lines catalog metrics).mapM readLine? =
      some ((heads catalog metrics).flatMap (linesOf metrics.flatten)) := by
    rw [lines_eq]
    exact mapM_readLine?_blocks h.name_of_mem_heads h.metrics
  rw [decode, render, String.toList_ofList, Text.split_unlines h.newline_not_mem_lines]
  simp [hlines, families?_linesOf, families]

/-- Every text can be read back: one reader gets from it, block by block, the name, the help text and the
    type, and of every sample all labels with their values and its own value. So texts of catalogs and
    metrics that differ in any of these differ. -/
theorem decode_render_eq_families {catalog : List Counter} {metrics : MetricSet} (h : Plain catalog metrics) :
    decode (render catalog metrics) = some (families catalog metrics) ∧
      ∀ otherCatalog otherMetrics, Plain otherCatalog otherMetrics →
        families otherCatalog otherMetrics ≠ families catalog metrics →
          render otherCatalog otherMetrics ≠ render catalog metrics := by
  refine ⟨h.decode_render, fun otherCatalog otherMetrics hother hne heq => hne ?_⟩
  have hdecode := hother.decode_render
  rw [heq, h.decode_render] at hdecode
  exact (Option.some.inj hdecode).symm

/-- A counter whose help text has every character that needs care. -/
def awkwardCounter : Counter := { field := 150, name := "temp", type := .gauge, help := "a\\n\n\"b\" # HELP" }

/-- A metric with the marks of labels and lines inside its labels' values. -/
def awkwardMetric : Metric where
  counter := awkwardCounter
  value := "40"
  gpu := "0"
  uuid := "GPU-0"
  device := "nvidia0"
  model := "T4\",x=\"1\"\x7d 2\n\\"
  style := .legacy
  partition := some { profile := "1g", instanceId := "7" }
  hostname := some "\\\"n"
  attributes := SortedMap.empty.insert "pod" "a,b=\"c\""

theorem decode_render_awkward :
    Plain [awkwardCounter] [[awkwardMetric], []] ∧
      decode (render [awkwardCounter] [[awkwardMetric], []]) =
        some (families [awkwardCounter] [[awkwardMetric], []]) := by
  have hname : PlainName awkwardCounter.name := ⟨by decide, by decide, by simp [awkwardCounter]⟩
  have hmetric : PlainMetric awkwardMetric := ⟨hname, by decide, by decide⟩
  have hplain : Plain [awkwardCounter] [[awkwardMetric], []] := ⟨by simpa using hname, by simpa using hmetric⟩
  exact ⟨hplain, (decode_render_eq_families hplain).1⟩

end Telemetry.Exposition
