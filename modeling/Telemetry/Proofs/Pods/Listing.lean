import Telemetry.Pods.Wire
import Telemetry.Proofs.Wire

/-! Listings of pods that are written and read back. A message is read from what it is written as, whatever stands
    behind it, so listings that are written one after the other are read as one. -/

namespace Telemetry

open Wire

/-! ### Fields -/

section Fields
variable {α β : Type} {merge : Merge α} {tag : Nat} {message field : String}

/-- A field that puts its text into a message; the text that it has by default is not written. -/
theorem writes_text {s : String} (put : String → α) (htag : IsTag tag)
    (hmerge : ∀ bs, merge tag .lengthDelimited (put "") bs =
      fieldOf message field ((readText .lengthDelimited bs).map fun (s, rest) => (put s, rest)))
    (hlength : (textField tag s).length < 2 ^ 64) : Writes merge (put "") (textField tag s) (put s) := by
  refine writes_textField htag (fun hempty => by rw [hempty]) fun hs rest => ?_
  rw [hmerge, readText_delimited (length_lt_of_textField hlength hs)]
  rfl

/-- A field that adds its text to a list of a message. -/
theorem writes_texts {ss : List String} (put : List String → α) (htag : IsTag tag)
    (hmerge : ∀ before bs, merge tag .lengthDelimited (put before) bs =
      fieldOf message field ((readText .lengthDelimited bs).map fun (s, rest) => (put (before ++ [s]), rest)))
    (hlength : (textsField tag ss).length < 2 ^ 64) : Writes merge (put []) (textsField tag ss) (put ss) := by
  rw [textsField_eq] at hlength ⊢
  refine writes_messagesField Text.encode put htag (fun s hs before rest => ?_) []
  have hle := length_le_messagesField tag (List.mem_map_of_mem (f := Text.encode) hs)
  rw [hmerge, readText_delimited (by omega)]
  rfl

/-- A field that adds its message to a list of the message that it is in. -/
theorem writes_messages {inner : Nat → Merge β} {empty : β} {depth : Nat} {xs : List β} (encode : β → List UInt8)
    (put : List β → α) (htag : IsTag tag)
    (hmerge : ∀ before bs, merge tag .lengthDelimited (put before) bs = fieldOf message field
      ((readNested inner empty (depth + 1) .lengthDelimited bs).map fun (x, rest) => (put (before ++ [x]), rest)))
    (hinner : ∀ x ∈ xs, (encode x).length < 2 ^ 64 → Writes (inner depth) empty (encode x) x)
    (hlength : (messagesField tag (xs.map encode)).length < 2 ^ 64) (before : List β) :
    Writes merge (put before) (messagesField tag (xs.map encode)) (put (before ++ xs)) := by
  refine writes_messagesField encode put htag (fun x hx before rest => ?_) before
  have hle := length_le_messagesField tag (List.mem_map_of_mem (f := encode) hx)
  have hlt : (encode x).length < 2 ^ 64 := by omega
  rw [hmerge, readNested_delimited hlt (hinner x hx hlt)]
  rfl

end Fields

/-! ### Messages -/

theorem Allocation.writes (depth : Nat) {a : Allocation} (h : a.encode.length < 2 ^ 64) :
    Writes (Allocation.merge depth) {} a.encode a := by
  simp only [Allocation.encode, List.length_append] at h
  have hresource : Writes (Allocation.merge depth) {} (textField 1 a.resource) (.mk a.resource []) :=
    writes_text (Allocation.mk · []) (by decide) (fun _ => rfl) (by omega)
  have hids : Writes (Allocation.merge depth) (.mk a.resource []) (textsField 2 a.ids) a :=
    writes_texts (Allocation.mk a.resource) (by decide) (fun _ _ => rfl) (by omega)
  exact hresource.append hids

theorem Container.writes (depth : Nat) {c : Container} (h : c.encode.length < 2 ^ 64) :
    Writes (Container.merge (depth + 1)) {} c.encode c := by
  simp only [Container.encode, List.length_append] at h
  have hname : Writes (Container.merge (depth + 1)) {} (textField 1 c.name) (.mk c.name []) :=
    writes_text (Container.mk · []) (by decide) (fun _ => rfl) (by omega)
  have hdevices : Writes (Container.merge (depth + 1)) (.mk c.name [])
      (messagesField 2 (c.devices.map Allocation.encode)) c :=
    writes_messages Allocation.encode (Container.mk c.name) (by decide) (fun _ _ => rfl)
      (fun _ _ => Allocation.writes depth) (by omega) []
  exact hname.append hdevices

theorem Pod.writes (depth : Nat) {p : Pod} (h : p.encode.length < 2 ^ 64) :
    Writes (Pod.merge (depth + 2)) {} p.encode p := by
  simp only [Pod.encode, List.length_append] at h
  have hname : Writes (Pod.merge (depth + 2)) {} (textField 1 p.name) (.mk p.name "" []) :=
    writes_text (Pod.mk · "" []) (by decide) (fun _ => rfl) (by omega)
  have hnamespace : Writes (Pod.merge (depth + 2)) (.mk p.name "" []) (textField 2 p.namespaceName)
      (.mk p.name p.namespaceName []) :=
    writes_text (Pod.mk p.name · []) (by decide) (fun _ => rfl) (by omega)
  have hcontainers : Writes (Pod.merge (depth + 2)) (.mk p.name p.namespaceName [])
      (messagesField 3 (p.containers.map Container.encode)) p :=
    writes_messages Container.encode (Pod.mk p.name p.namespaceName) (by decide) (fun _ _ => rfl)
      (fun _ _ => Container.writes depth) (by omega) []
  exact (hname.append hnamespace).append hcontainers

namespace Pod
variable {ps qs : List Pod}

/-- A listing adds its pods to those that have been read. -/
theorem writes_listing (depth : Nat) (h : (encodeListing ps).length < 2 ^ 64) (before : List Pod) :
    Writes (mergeListing (depth + 3)) before (encodeListing ps) (before ++ ps) :=
  writes_messages encode id (by decide) (fun _ _ => rfl) (fun _ _ => writes depth) h before

/-- A listing is read from what it is written as, and two listings that are written one after the other are read as
    the pods of both. -/
theorem decodeListing_encodeListing (hps : (encodeListing ps).length < 2 ^ 63)
    (hqs : (encodeListing qs).length < 2 ^ 63) :
    decodeListing (encodeListing ps) = .ok ps ∧
      decodeListing (encodeListing ps ++ encodeListing qs) = .ok (ps ++ qs) := by
  -- A listing takes three of the levels that messages may have within each other.
  have hone := writes_listing 97 (Nat.lt_trans hps (by decide)) []
  have hother := writes_listing 97 (Nat.lt_trans hqs (by decide)) ps
  exact ⟨hone.readMessage_eq, (hone.append hother).readMessage_eq⟩

/-- Texts, lists and pods that are empty, identifiers that come again, and lengths of more than one byte. -/
theorem decodeListing_encodeListing_sparse :
    let ps : List Pod := [{ containers := [{}, { devices := [{ ids := ["", "a", "", "a"] }, {}] }] }]
    let qs : List Pod := [{ namespaceName := String.ofList (List.replicate 200 'n') }, {}]
    decodeListing (encodeListing ps) = .ok ps ∧
      decodeListing (encodeListing ps ++ encodeListing qs) = .ok (ps ++ qs) :=
  decodeListing_encodeListing (by decide +kernel) (by decide +kernel)

/-- The empty texts of messages are left out, and the empty identifier in a list is not. -/
example : encodeListing [{ name := "p", containers := [{ devices := [{ ids := [""] }] }] }] =
    [10, 9, 10, 1, 112, 26, 4, 18, 2, 18, 0] := by decide +kernel

end Pod

end Telemetry
