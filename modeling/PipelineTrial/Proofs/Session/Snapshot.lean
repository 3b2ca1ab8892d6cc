import PipelineTrial.Proofs.Dictionary
import PipelineTrial.Proofs.Json.Written
import PipelineTrial.Session.Snapshot

/-! A snapshot is read back from the text and from the bytes under which it is stored. -/

namespace PipelineTrial

namespace Environment

/-- The texts of an object of texts are all there. -/
private theorem texts?_ofTexts (pairs : List (String × String)) :
    texts? (Json.ofTexts pairs) = some pairs := by
  -- Each field is looked at in turn.
  induction pairs with
  | nil => rfl
  | cons pair pairs ih =>
    have tail : Json.ofTexts (pair :: pairs) = (pair.1, .text pair.2) :: Json.ofTexts pairs := rfl
    simp [tail, texts?, ih]

/-- A stored snapshot is read back. -/
theorem ofStored?_stored (environment : Environment) :
    ofStored? environment.stored = some environment := by
  -- Its fields are read in their order, they are all texts, and they make up the same map.
  have written : Json.parseFields? environment.stored = some (Json.ofTexts environment.entries) :=
    Json.parseFields?_pretty environment.entries
  simp [ofStored?, written, texts?_ofTexts]

/-- A snapshot is read back from the bytes of its stored text. -/
theorem ofStored?_toUTF8 (environment : Environment) :
    (String.fromUTF8? environment.stored.toUTF8).bind ofStored? = some environment := by
  -- The bytes of a text are valid.
  have decoded : String.fromUTF8? environment.stored.toUTF8 = some environment.stored := by
    simp only [String.fromUTF8?, String.toUTF8_eq_toByteArray, dif_pos environment.stored.isValidUTF8]
    rfl
  rw [decoded]
  exact ofStored?_stored environment

end Environment

end PipelineTrial
