/-
# Redaction before the adapter seam

The actor replaces the configured values, and the secret it put into the
child's environment, in every text it lets out. A parsed message is redacted in
its string leaves; its keys and numbers stay.
-/

import YakShed.Codex.Bridge
import YakShed.Collections.Substitution
import YakShed.Json.Value

namespace YakShed.Codex

open Json

def redactionMarker : String := "[REDACTED]"

/-- `str::replace` with the marker. -/
def redact (text secret : String) : String :=
  String.ofList (List.substitute secret.toList redactionMarker.toList text.toList)

/-- The values to redact: those of the specification and the environment's secret. -/
structure Sanitizer where
  redactions : List String
  environment : Option String

namespace Sanitizer

/-- Every value that is redacted, in the order in which they are replaced. -/
def secrets (sanitizer : Sanitizer) : List String :=
  sanitizer.redactions ++ sanitizer.environment.toList

def sanitize (sanitizer : Sanitizer) (value : String) : String :=
  sanitizer.secrets.foldl redact value

def sanitizeValue (sanitizer : Sanitizer) (value : Value) : Value :=
  value.mapStrings sanitizer.sanitize

end Sanitizer

/-! ## What redaction leaves -/

/-- A text occurs in another one. -/
def Occurs (part text : String) : Prop := part.toList <:+: text.toList

instance (part text : String) : Decidable (Occurs part text) :=
  inferInstanceAs (Decidable (part.toList <:+: text.toList))

/-- A value that redaction is about: it has characters, and none of them is the marker's. -/
structure Redactable (secret : String) : Prop where
  nonempty : secret.toList ≠ []
  avoids : secret.toList.Avoids redactionMarker.toList

theorem redactionMarker_ne_nil : redactionMarker.toList ≠ [] := by decide

theorem not_occurs_redact {secret text : String} (hsecret : Redactable secret) :
    ¬ Occurs secret (redact text secret) := by
  unfold Occurs redact
  rw [String.toList_ofList]
  exact List.not_infix_substitute hsecret.nonempty redactionMarker_ne_nil hsecret.avoids

theorem occurs_of_occurs_redact {secret secret' text : String} (hsecret : Redactable secret)
    (hsecret' : Redactable secret') (h : Occurs secret (redact text secret')) :
    Occurs secret text := by
  unfold Occurs redact at h
  rw [String.toList_ofList] at h
  exact List.infix_of_infix_substitute hsecret'.nonempty redactionMarker_ne_nil
    hsecret.nonempty hsecret.avoids h

theorem occurs_of_occurs_foldl {secret text : String} {secrets : List String}
    (hsecret : Redactable secret) (hsecrets : ∀ other ∈ secrets, Redactable other)
    (h : Occurs secret (secrets.foldl redact text)) : Occurs secret text := by
  induction secrets generalizing text with
  | nil => exact h
  | cons other rest ih =>
      have hrest := ih (fun other hmem => hsecrets other (List.mem_cons_of_mem _ hmem)) h
      exact occurs_of_occurs_redact hsecret (hsecrets other List.mem_cons_self) hrest

/-- No redacted value occurs in a sanitized text. -/
theorem Sanitizer.not_occurs_sanitize {sanitizer : Sanitizer} {secret text : String}
    (hsecrets : ∀ other ∈ sanitizer.secrets, Redactable other)
    (hmem : secret ∈ sanitizer.secrets) : ¬ Occurs secret (sanitizer.sanitize text) := by
  unfold sanitize
  revert hsecrets hmem
  generalize sanitizer.secrets = secrets
  intro hsecrets hmem
  induction secrets generalizing text with
  | nil => cases hmem
  | cons other rest ih =>
      have hrest : ∀ other ∈ rest, Redactable other :=
        fun other hmem => hsecrets other (List.mem_cons_of_mem _ hmem)
      rcases List.mem_cons.mp hmem with rfl | hmem
      · intro h
        have hsecret := hsecrets secret List.mem_cons_self
        exact not_occurs_redact hsecret (occurs_of_occurs_foldl hsecret hrest h)
      · exact ih hrest hmem

end YakShed.Codex
