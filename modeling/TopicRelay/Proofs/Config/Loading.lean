/-
Loading written models. A model is read back from its text whatever order the fields of its records have
and whichever fields with their defaults are left out; an unknown field anywhere is an error. A JSON
text allows every model. A configuration file, being JSON5, gives integers exactly up to `2^53` and may
not have the separators U+2028 and U+2029 in a string, where the text of a model has them as they are.
-/
import TopicRelay.Proofs.Config.Json5Models
import TopicRelay.Proofs.Config.JsonModels

namespace TopicRelay.Config

open TopicRelay.Decimal
open TopicRelay.Json5 (Plain)

/-- Written models load exactly. The text of a model is one of its written forms, and of any of these:
* a JSON text gives the model;
* a configuration file gives the model if its integers are at most `2^53` and no text has a separator
  in it, and with a separator it is not well-formed;
* with one field more, of an unknown name, in any of the records, neither gives a model. -/
theorem written_models_load (m : Model) :
    (∃ v, Gives m.fields v ∧ v.write = m.write) ∧
      ∀ v, Gives m.fields v →
        Model.ofJson v.render = .ok m ∧
        ((∀ n ∈ m.integers, n ≤ twoTo 53) → (∀ s ∈ m.texts, Plain s) →
          ∀ path, parseModel path v.render = .ok m) ∧
        ((∃ s ∈ m.texts, ¬ Plain s) →
          ∀ path, parseModel path v.render = .error (.parse path .grammar)) ∧
        ∀ v', Extends .model v v' → (∃ r, Model.ofJson v'.render = .error r) ∧
          ∀ path, ∃ e, parseModel path v'.render = .error e := by
  refine ⟨⟨m.value, m.gives_value, m.write_value⟩, fun v given => ?_⟩
  exact ⟨Model.ofJson_render given, parseModel_render given, parseModel_render_of_separator given,
    fun v' more => ⟨Model.ofJson_render_error given more, parseModel_render_error given more⟩⟩

/-- A model with a line separator in the name of the broker's host. -/
def separated : Model where
  broker := { host := "a\u2028b" }

/-- A model with a line separator in a text is written so that no configuration file can be read. -/
theorem separated_is_refused :
    (∀ n ∈ separated.integers, n ≤ twoTo 53) ∧ Gives separated.fields separated.value ∧
      separated.value.write = separated.write ∧
      parseModel "config.json5" separated.value.render ≠ .ok separated := by
  refine ⟨by decide, separated.gives_value, separated.write_value, ?_⟩
  rw [parseModel_render_of_separator separated.gives_value ⟨"a\u2028b", by decide, by decide⟩]
  exact nofun

end TopicRelay.Config
