/-
# The broker's view of credential bindings

`CredentialBroker` takes a configuration's connections, checks them by rules of
its own and resolves a supplied binding to the current one. A set of connections
is acceptable when each one is valid and no secret is bound twice.
-/

import YakShed.Domain.Credentials

namespace YakShed.Secrets

/-! ## Errors -/

inductive SecretOperation
  | probe
  | resolve
  | put
  | delete
  deriving DecidableEq

inductive InvalidBindingReason
  | unknownConnection
  | unknownSlot
  | staleBinding
  | disabled
  | notSecretBacked
  deriving DecidableEq

inductive SecretError
  | notFound (reference : SecretReference)
  | alreadyExists (reference : SecretReference)
  | backendUnavailable (backend : SecretBackendId)
  | locked (backend : SecretBackendId)
  | denied (backend : SecretBackendId) (remediation : Option String := none)
  | authenticationRequired (backend : SecretBackendId)
  | invalidLocator (backend : SecretBackendId) (reason : String)
  | unsupportedOperation (backend : SecretBackendId) (operation : SecretOperation)
  | timedOut (backend : SecretBackendId)
  | cancelled (backend : SecretBackendId)
  | protocolViolation (backend : SecretBackendId) (reason : String)
  | backendFailure (backend : SecretBackendId) (redactedMessage : String)
  | uncertainWrite (backend : SecretBackendId)
  | invalidBinding (connection : ConnectionId) (slot : CredentialSlot)
      (reason : InvalidBindingReason)
  deriving DecidableEq

def brokerId : SecretBackendId := ⟨"broker", by decide +kernel⟩

/-! ## Validation -/

/-- The inner loop of `validate_bindings`; it returns the references seen so far. -/
def insertReferences : List CredentialBindingRecord → List SecretReference →
    Except SecretError (List SecretReference)
  | [], seen => .ok seen
  | credential :: rest, seen =>
      match credential.binding.secretReference with
      | none => insertReferences rest seen
      | some reference =>
          if reference ∈ seen then
            .error (.backendFailure brokerId "duplicate secret reference")
          else insertReferences rest (reference :: seen)

/-- The outer loop of `validate_bindings`. -/
def validateFrom : List Connection → List SecretReference → Except SecretError Unit
  | [], _ => .ok ()
  | connection :: rest, seen =>
      match connection.validate with
      | .error _ =>
          .error (.backendFailure brokerId "invalid connection credential configuration")
      | .ok () =>
          match insertReferences connection.credentials seen with
          | .error error => .error error
          | .ok seen => validateFrom rest seen

def validateBindings (connections : List Connection) : Except SecretError Unit :=
  validateFrom connections []

theorem insertReferences_eq_ok_iff {credentials : List CredentialBindingRecord}
    {seen seen' : List SecretReference} :
    insertReferences credentials seen = .ok seen' ↔
      seen' = (credentials.filterMap (·.binding.secretReference)).reverse ++ seen ∧
      (credentials.filterMap (·.binding.secretReference)).Nodup ∧
      ∀ reference ∈ credentials.filterMap (·.binding.secretReference), reference ∉ seen := by
  induction credentials generalizing seen with
  | nil => simp [insertReferences, eq_comm]
  | cons credential rest ih =>
      unfold insertReferences
      cases hreference : credential.binding.secretReference with
      | none =>
          simp only [List.filterMap_cons, hreference]
          exact ih
      | some reference =>
          simp only [List.filterMap_cons, hreference]
          by_cases hseen : reference ∈ seen
          · simp [hseen]
          · simp only [hseen, if_false, ih, List.nodup_cons, List.reverse_cons, List.append_assoc,
              List.singleton_append, List.mem_cons]
            constructor
            · rintro ⟨rfl, hnodup, hnew⟩
              refine ⟨rfl, ⟨fun hmem => hnew reference hmem (.inl rfl), hnodup⟩, ?_⟩
              rintro other (rfl | hmem)
              · exact hseen
              · exact fun hother => hnew other hmem (.inr hother)
            · rintro ⟨rfl, ⟨hfresh, hnodup⟩, hnew⟩
              refine ⟨rfl, hnodup, ?_⟩
              rintro other hmem (rfl | hother)
              · exact hfresh hmem
              · exact hnew other (.inr hmem) hother

theorem validateFrom_eq_ok_iff {connections : List Connection} {seen : List SecretReference} :
    validateFrom connections seen = .ok () ↔
      (∀ connection ∈ connections, connection.validate = .ok ()) ∧
      (connections.flatMap Connection.references).Nodup ∧
      ∀ reference ∈ connections.flatMap Connection.references, reference ∉ seen := by
  induction connections generalizing seen with
  | nil => simp [validateFrom]
  | cons connection rest ih =>
      unfold validateFrom
      cases hvalid : connection.validate with
      | error error => simp [hvalid]
      | ok value =>
          cases hinsert : insertReferences connection.credentials seen with
          | error error =>
              have hnot : ¬ (connection.references.Nodup ∧
                  ∀ reference ∈ connection.references, reference ∉ seen) := by
                rintro ⟨hnodup, hnew⟩
                have hok := insertReferences_eq_ok_iff.mpr ⟨rfl, hnodup, hnew⟩
                rw [hinsert] at hok
                cases hok
              simp only [reduceCtorEq, false_iff, List.flatMap_cons, List.mem_append,
                List.nodup_append]
              rintro ⟨_, ⟨hnodup, _⟩, hnew⟩
              exact hnot ⟨hnodup, fun reference hmem => hnew reference (.inl hmem)⟩
          | ok seen' =>
              obtain ⟨rfl, hnodup, hnew⟩ := insertReferences_eq_ok_iff.mp hinsert
              change connection.references.Nodup at hnodup
              change ∀ reference ∈ connection.references, reference ∉ seen at hnew
              change validateFrom rest (connection.references.reverse ++ seen) = _ ↔ _
              simp only [ih, List.mem_cons, forall_eq_or_imp, hvalid, true_and, List.flatMap_cons,
                List.nodup_append, List.mem_append, List.mem_reverse, not_or]
              constructor
              · rintro ⟨hrest, hnodup', hfresh⟩
                refine ⟨hrest, ⟨hnodup, hnodup', ?_⟩, ?_⟩
                · rintro reference hmem other hother rfl
                  exact (hfresh reference hother).1 hmem
                · rintro reference (hmem | hmem)
                  · exact hnew reference hmem
                  · exact (hfresh reference hmem).2
              · rintro ⟨hrest, ⟨_, hnodup', hdisjoint⟩, hfresh⟩
                refine ⟨hrest, hnodup', fun reference hmem => ⟨?_, hfresh reference (.inr hmem)⟩⟩
                exact fun hmine => hdisjoint reference hmine reference hmem rfl

/-- The broker accepts connections exactly if each is valid and no secret is
bound twice. -/
theorem validateBindings_eq_ok_iff {connections : List Connection} :
    validateBindings connections = .ok () ↔
      (∀ connection ∈ connections, connection.validate = .ok ()) ∧
      (connections.flatMap Connection.references).Nodup := by
  unfold validateBindings
  rw [validateFrom_eq_ok_iff]
  simp

end YakShed.Secrets
