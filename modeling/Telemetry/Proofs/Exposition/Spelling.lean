import Telemetry.Exposition

/-! The lines of a text spelled out as scrapers are to get them, each with its newline. They say nothing of how lines
    are made; what is written is compared with them character by character. -/

namespace Telemetry.Exposition

/-! ### Lines as they are to be read -/

/-- How a character of a help text is spelled. -/
def spellHelp : Char → String
  | '\\' => "\\\\"
  | '\n' => "\\n"
  | c => String.singleton c

/-- How a character of the value of a label is spelled. -/
def spellValue : Char → String
  | '\\' => "\\\\"
  | '"' => "\\\""
  | '\n' => "\\n"
  | c => String.singleton c

/-- The text with all its characters spelled. -/
def spelled (spell : Char → String) (text : String) : String := String.join (text.toList.map spell)

def typeWord : MetricType → String
  | .gauge => "gauge"
  | .counter => "counter"
  | .histogram => "histogram"
  | .summary => "summary"

def uuidKey : LabelStyle → String
  | .current => "UUID"
  | .legacy => "uuid"

/-- The labels of a sample: those of its device, of its partition and of the host if there are any, and at last its
    attributes in the order of their keys. -/
def labelsOf (m : Metric) : List (String × String) :=
  [("gpu", m.gpu), (uuidKey m.style, m.uuid), ("device", m.device), ("modelName", m.model)] ++
    (m.partition.elim [] fun p => [("GPU_I_PROFILE", p.profile), ("GPU_I_ID", p.instanceId)]) ++
    (m.hostname.elim [] fun h => [("Hostname", h)]) ++ m.attributes.toList

def helpText (c : Counter) : String := "# HELP " ++ c.name ++ " " ++ spelled spellHelp c.help ++ "\n"

def typeText (c : Counter) : String := "# TYPE " ++ c.name ++ " " ++ typeWord c.type ++ "\n"

def labelText (label : String × String) : String := label.1 ++ "=\"" ++ spelled spellValue label.2 ++ "\""

def sampleText (m : Metric) : String :=
  m.counter.name ++ "\x7b" ++ ",".intercalate ((labelsOf m).map labelText) ++ "\x7d " ++ m.value ++ "\n"

/-! ### Lines as they are written -/

theorem toList_spelled (spell : Char → String) (text : String) :
    (spelled spell text).toList = text.toList.flatMap fun c => (spell c).toList := by
  rw [spelled, String.toList_join, List.flatMap_map]

theorem toList_spellHelp (c : Char) :
    (spellHelp c).toList = if c = '\\' then ['\\', '\\'] else if c = '\n' then ['\\', 'n'] else [c] := by
  unfold spellHelp
  split
  · rfl
  · rfl
  · rename_i hb hn
    rw [if_neg hb, if_neg hn, String.toList_singleton]

/-- Escaping in two goes comes to one spelling of each character. -/
theorem escapeHelp_eq (cs : List Char) : escapeHelp cs = cs.flatMap fun c => (spellHelp c).toList := by
  rw [escapeHelp, replaceChar, replaceChar, List.flatMap_assoc]
  congr 1
  funext c
  rw [toList_spellHelp]
  by_cases hb : c = '\\' <;> simp [hb]

theorem escapeLabelChar_eq : escapeLabelChar = fun c => (spellValue c).toList := by
  funext c
  unfold escapeLabelChar spellValue
  split <;> simp

theorem join_eq_intercalate (sep : Char) (ps : List (List Char)) : Text.join sep ps = [sep].intercalate ps := by
  induction ps with
  | nil => rfl
  | cons p ps ih =>
    cases ps with
    | nil => rw [Text.join, List.intercalate_singleton]
    | cons q qs =>
      rw [Text.join_cons (List.cons_ne_nil q qs), ih, List.intercalate_cons_cons, List.append_assoc]
      rfl

theorem labels_eq_labelsOf (m : Metric) : m.labels = labelsOf m := by
  obtain ⟨counter, value, gpu, uuid, device, model, style, partition, hostname, attributes⟩ := m
  cases style <;> cases partition <;> cases hostname <;> rfl

theorem toList_labelText (label : String × String) : (labelText label).toList = labelChars label := by
  simp [labelText, labelChars, toList_spelled, escapeLabelChar_eq]

theorem map_toList_labelText (labels : List (String × String)) :
    (labels.map labelText).map String.toList = labels.map labelChars := by
  rw [List.map_map]
  exact List.map_congr_left fun label _ => toList_labelText label

theorem toList_helpText (c : Counter) : (helpText c).toList = helpLine c ++ ['\n'] := by
  simp [helpText, helpLine, helpMark, toList_spelled, escapeHelp_eq]

theorem toList_typeText (c : Counter) : (typeText c).toList = typeLine c ++ ['\n'] := by
  cases h : c.type <;> simp [typeText, typeLine, typeMark, typeWord, MetricType.name, h]

theorem toList_sampleText (m : Metric) : (sampleText m).toList = sampleLine m ++ ['\n'] := by
  have hlabels : (",".intercalate ((labelsOf m).map labelText)).toList = Text.join ',' (m.labels.map labelChars) := by
    rw [String.toList_intercalate, map_toList_labelText, join_eq_intercalate, labels_eq_labelsOf]
    rfl
  simp only [sampleText, sampleLine, String.toList_append, hlabels]
  simp

end Telemetry.Exposition
