import TagAudit.Data
import TagAudit.Proofs.Keyed

/-!
# Texts as keys

Keys of different kinds may be the same, but a text is the same key as no other key. So a table with
texts for keys finds under a text what it would find if its keys were plain texts.
-/

namespace TagAudit

/-- Keys that are the same have one spelling, so being the same is an equivalence. -/
instance : EquivBEq Key where
  rfl := decide_eq_true rfl
  symm same := decide_eq_true (of_decide_eq_true same).symm
  trans same same' := decide_eq_true ((of_decide_eq_true same).trans (of_decide_eq_true same'))

/-- Only a text is the same key as a text. -/
theorem Key.beq_text_iff (key : Key) (t : Text) : (key == .text t) = true ↔ key = .text t := by
  refine decide_eq_true_iff.trans ?_
  cases key with
  | real x =>
    rw [canonical]
    split <;> simp [canonical]
  | null | bool _ | int _ | text _ | bytes _ | moment _ _ => simp [canonical]

/-- Texts are the same as keys exactly if they are as texts. -/
theorem Key.text_beq_text (t other : Text) : (Key.text t == Key.text other) = (t == other) := by
  rw [Bool.eq_iff_iff, Key.beq_text_iff, Key.text.injEq, beq_iff_eq]

/-- A text finds among texts what it finds among them as keys. -/
theorem get?_map_text (name : Text) (fields : Keyed Text Data) :
    Keyed.get? (Key.text name) (fields.map fun (name, value) => (Key.text name, value)) =
      fields.get? name := by
  simpa using Keyed.get?_map Key.text id Key.text_beq_text name fields

/-- Distinct texts are distinct keys. -/
theorem isDistinct_map_text {fields : Keyed Text Data} (distinct : (Keyed.keys fields).Nodup) :
    Keyed.IsDistinct (fields.map fun (name, value) => (Key.text name, value)) := by
  rw [Keyed.IsDistinct, Keyed.keys, List.map_map, List.pairwise_map]
  refine (List.pairwise_map.mp distinct).imp fun apart => ?_
  simpa [Key.text_beq_text] using apart

/-- What stands under a text in a table with text keys. -/
theorem Data.field?_ofFields (name : Text) (fields : Keyed Text Data) :
    (Data.ofFields fields).field? name = fields.get? name := get?_map_text name fields

end TagAudit
