/-
# No secret crosses the seam

Every text that the actor makes of what its child prints is redacted, and what
it keeps for later (handles, command texts) is made of redacted texts too. So
events, diagnostics and errors are free of a secret that the input holds, as
long as the secret is no part of the adapter's own words. There are three
exceptions. The method of a request that is rejected, and that of a
notification about an unknown run, are reported as they came. A request's
number is no string, so its digits stay. And an error's text is put after fixed
words, where the two together can spell a secret.
-/

import YakShed.Codex.Replies
import YakShed.Codex.RunLifecycle

namespace YakShed.Codex

open Json

/-! ## Texts -/

def ProviderRunHandle.texts (run : ProviderRunHandle) : List String :=
  [run.runtime, run.sessionId, run.nativeId]

def ProviderRequestHandle.texts (request : ProviderRequestHandle) : List String :=
  request.nativeId :: request.run.texts

def ProviderCommandHandle.texts (command : ProviderCommandHandle) : List String :=
  command.nativeId :: command.run.texts

def HarnessRunTerminal.texts : HarnessRunTerminal → List String
  | failed diagnostic | crashed diagnostic => [diagnostic]
  | completed | interrupted => []

/-- Every string field of an event. -/
def HarnessEvent.texts : HarnessEvent → List String
  | runAccepted run => run.texts
  | messageDelta run chunk => chunk :: run.texts
  | messageCompleted run text => text :: run.texts
  | approvalRequested request summary => summary :: request.texts
  | userInputRequested request prompt => prompt :: request.texts
  | fileMutation run path summary => path :: summary :: run.texts
  | commandOutputDelta run command commandText chunk =>
      commandText :: chunk :: (run.texts ++ command.texts)
  | commandOutputCompleted run command commandText output =>
      commandText :: output :: (run.texts ++ command.texts)
  | runTerminal run state => state.texts ++ run.texts
  | unknown run itemType native => itemType :: native :: run.toList.flatMap (·.texts)
  | malformed run itemType native => itemType :: native :: run.toList.flatMap (·.texts)

def NativeEvent.texts (event : NativeEvent) : List String := event.native :: event.event.texts

/-- Every string field of an error. -/
def HarnessError.texts : HarnessError → List String
  | invalidInput message => [message]
  | notFound entity id => [entity, id]
  | outcomeUnknown operation => [operation]
  | protocol diagnostic | transport diagnostic => [diagnostic]
  | overloaded | disconnected => []

/-- The strings of the error in a reply. -/
def Reply.errorTexts : Reply → List String
  | request (.error error) | responded (.error error) | loginStart (.error error) => error.texts
  | _ => []

/-- The text the child printed. -/
def Inbound.text : Inbound → Option String
  | frame raw _ => some raw
  | malformed raw => some raw
  | oversized start => some start
  | stderr chunk => some chunk
  | eof => none

/-- The text that a round's input comes with from the child. -/
def Arrival.printed (arrival : Arrival) : Option String :=
  match arrival.input with
  | .inbound inbound => inbound.text
  | _ => none

/-- The secret occurs in none of the texts. -/
def Hides (secret : String) (texts : List String) : Prop := ∀ text ∈ texts, ¬ Occurs secret text

instance (secret : String) (texts : List String) : Decidable (Hides secret texts) :=
  inferInstanceAs (Decidable (∀ text ∈ texts, ¬ Occurs secret text))

@[simp] theorem hides_append {secret : String} {texts texts' : List String} :
    Hides secret (texts ++ texts') ↔ Hides secret texts ∧ Hides secret texts' :=
  List.forall_mem_append

@[simp] theorem hides_nil {secret : String} : Hides secret [] := by
  intro found hmem
  cases hmem

@[simp] theorem hides_cons {secret text : String} {texts : List String} :
    Hides secret (text :: texts) ↔ ¬ Occurs secret text ∧ Hides secret texts :=
  List.forall_mem_cons

theorem hides_run {secret : String} {run : Option ProviderRunHandle}
    (h : ∀ found, run = some found → Hides secret found.texts) :
    Hides secret (run.toList.flatMap (·.texts)) := by
  cases run with
  | none => exact hides_nil
  | some run =>
      rw [Option.toList_some, List.flatMap_singleton]
      exact h run rfl

/-! ## Redacted values -/

/-- A value whose strings have been redacted. -/
def Redacted (sanitizer : Sanitizer) (value : Value) : Prop :=
  ∃ source, value = sanitizer.sanitizeValue source

namespace Redacted

variable {sanitizer : Sanitizer} {value found : Value} {key : String}

theorem get (redacted : Redacted sanitizer value) (h : value.get key = some found) :
    Redacted sanitizer found := by
  obtain ⟨source, rfl⟩ := redacted
  unfold Sanitizer.sanitizeValue at h
  rw [Value.get_mapStrings] at h
  obtain ⟨inner, _, rfl⟩ := Option.map_eq_some_iff.mp h
  exact ⟨inner, rfl⟩

theorem item {items : List Value} (redacted : Redacted sanitizer value)
    (h : value.asArray = some items) (hmem : found ∈ items) : Redacted sanitizer found := by
  obtain ⟨source, rfl⟩ := redacted
  unfold Sanitizer.sanitizeValue at h
  rw [Value.asArray_mapStrings] at h
  obtain ⟨inner, _, rfl⟩ := Option.map_eq_some_iff.mp h
  obtain ⟨item, _, rfl⟩ := List.mem_map.mp hmem
  exact ⟨item, rfl⟩

/-- A string of a redacted value is a redacted string. -/
theorem str {text : String} (redacted : Redacted sanitizer value)
    (h : value.str key = some text) : ∃ source, text = sanitizer.sanitize source := by
  obtain ⟨source, rfl⟩ := redacted
  unfold Sanitizer.sanitizeValue at h
  rw [Value.str_mapStrings] at h
  obtain ⟨inner, _, rfl⟩ := Option.map_eq_some_iff.mp h
  exact ⟨inner, rfl⟩

end Redacted

/-! ## The secret -/

/-- What the adapter says in its own words. -/
def ownWords : List String :=
  ["Codex requests command approval", "Codex requests file-change approval", "file changed",
    "Codex turn failed", "Codex emitted a malformed terminal frame",
    "\x7b\"event\":\"malformed-terminal-frame\"\x7d", "\x7b\"event\":\"process-exited\"\x7d",
    "codex.missing-method", "codex.malformed-frame", "codex.oversized-frame",
    "provider protocol failure: ", "runtime is overloaded", "account/login/start",
    "Codex response did not match the pinned schema",
    "Codex emitted a malformed account/login/completed notification",
    "Codex emitted a malformed account/updated notification"]

/-- One of the runtime's secrets, which neither its handle nor the adapter's own
words contain. All its secrets can be redacted. -/
structure Secret (runtime : Runtime) (secret : String) : Prop where
  redactable : ∀ other ∈ runtime.sanitizer.secrets, Redactable other
  mem : secret ∈ runtime.sanitizer.secrets
  words : Hides secret ownWords
  handle : ¬ Occurs secret runtime.handle.value

/-- The secret begins at the end of the lead and ends in the text behind it. -/
def Straddles (secret lead text : String) : Prop :=
  ∃ start rest, start ≠ [] ∧ rest ≠ [] ∧ secret.toList = start ++ rest ∧
    start <:+ lead.toList ∧ rest <+: text.toList

namespace Secret

variable {runtime : Runtime} {secret : String}

theorem sanitized (known : Secret runtime secret) (text : String) :
    ¬ Occurs secret (runtime.sanitizer.sanitize text) :=
  runtime.sanitizer.not_occurs_sanitize known.redactable known.mem

theorem str (known : Secret runtime secret) {value : Value} {key text : String}
    (redacted : Redacted runtime.sanitizer value) (h : value.str key = some text) :
    ¬ Occurs secret text := by
  obtain ⟨source, rfl⟩ := redacted.str h
  exact known.sanitized source

/-- A secret without a line break occurs in joined lines only where it occurs in one. -/
theorem lines (known : Secret runtime secret) (hline : '\n' ∉ secret.toList)
    {texts : List String} (h : Hides secret texts) : ¬ Occurs secret ("\n".intercalate texts) := by
  intro hoccurs
  unfold Occurs at hoccurs
  rw [String.toList_intercalate] at hoccurs
  have havoids : secret.toList.Avoids "\n".toList := by
    intro c hmem hbreak
    have heq : c = '\n' := List.mem_singleton.mp hbreak
    exact hline (heq ▸ hmem)
  obtain ⟨text, hmem, hinfix⟩ := havoids.infix_of_intercalate (List.cons_ne_nil _ _)
    (known.redactable secret known.mem).nonempty hoccurs
  obtain ⟨found, hfound, rfl⟩ := List.mem_map.mp hmem
  exact h found hfound hinfix

/-- A redacted text continues no secret that the text itself does not continue. -/
theorem straddles_of_sanitize (known : Secret runtime secret) {lead text : String}
    (h : Straddles secret lead (runtime.sanitizer.sanitize text)) :
    Straddles secret lead text := by
  obtain ⟨start, rest, hstart, hrest, heq, hsuffix, hprefix⟩ := h
  refine ⟨start, rest, hstart, hrest, heq, hsuffix, ?_⟩
  have havoids : rest.Avoids redactionMarker.toList := by
    intro c hmem
    apply (known.redactable secret known.mem).avoids
    rw [heq]
    exact List.mem_append_right start hmem
  unfold Sanitizer.sanitize at hprefix
  have hredactable := known.redactable
  revert hprefix hredactable
  generalize runtime.sanitizer.secrets = secrets
  intro hprefix hredactable
  induction secrets generalizing text with
  | nil => exact hprefix
  | cons other others ih =>
      have hothers := ih hprefix fun other hmem => hredactable other (List.mem_cons_of_mem _ hmem)
      unfold redact at hothers
      rw [String.toList_ofList] at hothers
      have hother := (hredactable other List.mem_cons_self).nonempty
      exact List.prefix_of_prefix_substitute hother redactionMarker_ne_nil havoids hothers

/-- A redacted text behind a lead is free of a secret that the two do not spell together. -/
theorem behind (known : Secret runtime secret) {lead text : String}
    (hlead : ¬ Occurs secret lead) (h : ¬ Straddles secret lead text) :
    ¬ Occurs secret (lead ++ runtime.sanitizer.sanitize text) := by
  intro hoccurs
  unfold Occurs at hoccurs
  rw [String.toList_append, List.infix_append_iff_ne_nil] at hoccurs
  rcases hoccurs with hinfix | hinfix | ⟨start, rest, hstart, hrest, heq, hsuffix, hprefix⟩
  · exact hlead hinfix
  · exact known.sanitized text hinfix
  · exact h (known.straddles_of_sanitize ⟨start, rest, hstart, hrest, heq, hsuffix, hprefix⟩)

end Secret

/-! ## The reducer -/

namespace Reducer

variable {runtime : Runtime} {secret : String} {guard : Prop}

/-- The commands it remembers are free of the secret. -/
def Clean (secret : String) (reducer : Reducer) : Prop :=
  ∀ handle text, reducer.commands.find handle = some text →
    Hides secret (text :: handle.texts)

/-- A message's outcome: the commands stay free of the secret, and under the
guard so are the events. -/
structure Hidden (secret : String) (guard : Prop) (result : Reducer × List NativeEvent) :
    Prop where
  reducer : result.1.Clean secret
  events : guard → ∀ event ∈ result.2, Hides secret event.texts

/-- What the reducer is given: redacted parameters, and handles, a payload and
remembered commands that are free of the secret. A request's handle has to be so
only under the guard. -/
structure Shielded (runtime : Runtime) (secret : String) (guard : Prop) (reducer : Reducer)
    (params : Value) (run : Option ProviderRunHandle) (request : Option ProviderRequestHandle)
    (native : String) : Prop where
  known : Secret runtime secret
  clean : reducer.Clean secret
  params : Redacted runtime.sanitizer params
  run : ∀ found, run = some found → Hides secret found.texts
  request : guard → ∀ found, request = some found → Hides secret found.texts
  line : guard → '\n' ∉ secret.toList
  native : ¬ Occurs secret native

variable {reducer : Reducer} {params : Value} {run : Option ProviderRunHandle}
  {request : Option ProviderRequestHandle} {native method itemType : String}
  {result : Reducer × List NativeEvent}

/-- Nothing is remembered, and one event is produced. -/
theorem hidden_event (clean : reducer.Clean secret) {event : NativeEvent}
    (h : guard → Hides secret event.texts) : Hidden secret guard (reducer, [event]) where
  reducer := clean
  events := by
    intro hguard found hmem
    rw [List.mem_singleton.mp hmem]
    exact h hguard

theorem hidden_nothing (clean : reducer.Clean secret) : Hidden secret guard (reducer, []) where
  reducer := clean
  events := by
    intro _ event hmem
    cases hmem

theorem hides_unknown (hrun : ∀ found, run = some found → Hides secret found.texts)
    (hnative : ¬ Occurs secret native) (hitem : ¬ Occurs secret itemType) :
    Hides secret (NativeEvent.unknown run itemType native).texts := by
  simp [NativeEvent.texts, NativeEvent.unknown, HarnessEvent.texts, hnative, hitem, hides_run hrun]

theorem hides_malformed (hrun : ∀ found, run = some found → Hides secret found.texts)
    (hnative : ¬ Occurs secret native) (hitem : ¬ Occurs secret itemType) :
    Hides secret (NativeEvent.malformed run itemType native).texts := by
  simp [NativeEvent.texts, NativeEvent.malformed, HarnessEvent.texts, hnative, hitem,
    hides_run hrun]

theorem Shielded.unknown
    (shielded : Shielded runtime secret guard reducer params run request native)
    (hitem : ¬ Occurs secret itemType) :
    Hidden secret guard (reducer, [.unknown run itemType native]) :=
  hidden_event shielded.clean fun _ => hides_unknown shielded.run shielded.native hitem

theorem Clean.remove (clean : reducer.Clean secret) (handle : ProviderCommandHandle) :
    ({ reducer with commands := reducer.commands.remove handle } : Reducer).Clean secret := by
  intro handle' text hfind
  have hfind : (reducer.commands.remove handle).find handle' = some text := hfind
  rw [Dict.find_remove] at hfind
  split at hfind
  · cases hfind
  · exact clean handle' text hfind

theorem Clean.retireRun (clean : reducer.Clean secret) (run : ProviderRunHandle) :
    (reducer.retireRun run).Clean secret :=
  fun handle text hfind => clean handle text (Dict.find_retain_eq_some.mp hfind).1

section Messages

variable (shielded : Shielded runtime secret guard reducer params run request native)

include shielded

theorem hidden_itemStarted (h : reducer.itemStarted params run native = some result) :
    Hidden secret guard result := by
  unfold itemStarted at h
  simp only [Option.bind_eq_bind, Option.bind_eq_some_iff] at h
  obtain ⟨item, hitem, itemType, hitemType, run, rfl, id, hid, h⟩ := h
  have redacted := shielded.params.get hitem
  split at h
  · simp only [Option.bind_eq_some_iff] at h
    obtain ⟨command, hcommand, handle, hhandle, h⟩ := h
    cases h
    unfold ProviderCommandHandle.new at hhandle
    split at hhandle
    · cases hhandle
      refine ⟨?_, fun _ event hmem => by cases hmem⟩
      intro handle' text hfind
      have hfind : (reducer.commands.set ⟨run, id⟩ command).find handle' = some text := hfind
      rw [Dict.find_set] at hfind
      split at hfind
      · next heq =>
        cases hfind
        rw [heq]
        simp [ProviderCommandHandle.texts, shielded.known.str redacted hcommand,
          shielded.known.str redacted hid, shielded.run run rfl]
      · exact shielded.clean handle' text hfind
    · cases hhandle
  · split at h
    · cases h
      exact hidden_nothing shielded.clean
    · cases h
      exact shielded.unknown (shielded.known.str redacted hitemType)

theorem hidden_messageDelta (h : reducer.messageDelta params run native = some result) :
    Hidden secret guard result := by
  unfold messageDelta at h
  simp only [Option.bind_eq_bind, Option.bind_eq_some_iff] at h
  obtain ⟨run, rfl, chunk, hchunk, h⟩ := h
  cases h
  apply hidden_event shielded.clean
  intro _
  simp [NativeEvent.texts, HarnessEvent.texts, shielded.native,
    shielded.known.str shielded.params hchunk, shielded.run run rfl]

theorem hidden_commandOutputDelta
    (h : reducer.commandOutputDelta params run native = some result) :
    Hidden secret guard result := by
  unfold commandOutputDelta at h
  simp only [Option.bind_eq_bind, Option.bind_eq_some_iff] at h
  obtain ⟨run, rfl, itemId, _, chunk, hchunk, handle, _, text, hfind, h⟩ := h
  cases h
  have hcommand := hides_cons.mp (shielded.clean handle text hfind)
  apply hidden_event shielded.clean
  intro _
  simp [NativeEvent.texts, HarnessEvent.texts, shielded.native,
    shielded.known.str shielded.params hchunk, shielded.run run rfl, hcommand]

theorem hidden_fileChangeOutputDelta (hmethod : ¬ Occurs secret method)
    (h : reducer.fileChangeOutputDelta params run native method = some result) :
    Hidden secret guard result := by
  unfold fileChangeOutputDelta at h
  simp only [Option.bind_eq_bind, Option.bind_eq_some_iff] at h
  obtain ⟨run, rfl, itemId, _, delta, _, h⟩ := h
  cases h
  exact shielded.unknown hmethod

theorem hidden_messageCompleted {item : Value} {found : ProviderRunHandle}
    (redacted : Redacted runtime.sanitizer item) (hfound : run = some found)
    (h : reducer.messageCompleted native item found = some result) :
    Hidden secret guard result := by
  unfold messageCompleted at h
  simp only [Option.bind_eq_bind, Option.bind_eq_some_iff] at h
  obtain ⟨text, htext, h⟩ := h
  cases h
  apply hidden_event shielded.clean
  intro _
  simp [NativeEvent.texts, HarnessEvent.texts, shielded.native,
    shielded.known.str redacted htext, shielded.run found hfound]

theorem hides_fileMutation {change : Value} {found : ProviderRunHandle} {event : NativeEvent}
    (redacted : Redacted runtime.sanitizer change) (hfound : run = some found)
    (h : fileMutation native found change = some event) : Hides secret event.texts := by
  unfold fileMutation at h
  simp only [Option.bind_eq_bind, Option.bind_eq_some_iff] at h
  obtain ⟨path, hpath, h⟩ := h
  cases h
  have hsummary : ¬ Occurs secret ((change.str "diff").getD "file changed") := by
    cases hdiff : change.str "diff" with
    | none => exact shielded.known.words _ (by simp [ownWords])
    | some diff => exact shielded.known.str redacted hdiff
  simp [NativeEvent.texts, HarnessEvent.texts, shielded.native,
    shielded.known.str redacted hpath, hsummary, shielded.run found hfound]

theorem hidden_fileChangeCompleted {item : Value} {found : ProviderRunHandle}
    (redacted : Redacted runtime.sanitizer item) (hfound : run = some found)
    (h : reducer.fileChangeCompleted native item found = some result) :
    Hidden secret guard result := by
  unfold fileChangeCompleted at h
  simp only [Option.bind_eq_bind, Option.bind_eq_some_iff] at h
  obtain ⟨changes, ⟨array, harray, hchanges⟩, mutations, hmutations, h⟩ := h
  cases h
  refine ⟨shielded.clean, ?_⟩
  intro _ event hmem
  obtain ⟨change, hchange, hevent⟩ := mem_of_mapM_eq_some hmutations hmem
  exact hides_fileMutation shielded ((redacted.get harray).item hchanges hchange) hfound hevent

theorem hidden_commandCompleted {item : Value} {found : ProviderRunHandle} {itemId : String}
    (redacted : Redacted runtime.sanitizer item) (hfound : run = some found)
    (hmethod : ¬ Occurs secret method)
    (h : reducer.commandCompleted native item found itemId method = some result) :
    Hidden secret guard result := by
  unfold commandCompleted at h
  simp only [Option.bind_eq_bind, Option.bind_eq_some_iff] at h
  obtain ⟨handle, _, text, hfind, h⟩ := h
  have hcommand := hides_cons.mp (shielded.clean handle text hfind)
  have houtput : ¬ Occurs secret ((item.str "aggregatedOutput").getD "") := by
    cases haggregated : item.str "aggregatedOutput" with
    | none =>
        intro hoccurs
        have hredactable := shielded.known.redactable secret shielded.known.mem
        exact hredactable.nonempty (List.infix_nil.mp hoccurs)
    | some output => exact shielded.known.str redacted haggregated
  subst hfound
  split at h
  · cases h
    apply hidden_event (shielded.clean.remove handle)
    exact fun _ => hides_malformed shielded.run shielded.native hmethod
  · cases h
    apply hidden_event (shielded.clean.remove handle)
    intro _
    simp [NativeEvent.texts, HarnessEvent.texts, shielded.native, hcommand, houtput,
      shielded.run found rfl]

theorem hidden_completedItem (hmethod : ¬ Occurs secret method)
    (h : reducer.completedItem params run native method = some result) :
    Hidden secret guard result := by
  unfold completedItem at h
  simp only [Option.bind_eq_bind, Option.bind_eq_some_iff] at h
  obtain ⟨run, rfl, item, hitem, itemId, _, itemType, hitemType, h⟩ := h
  have redacted := shielded.params.get hitem
  split at h
  · exact hidden_messageCompleted shielded redacted rfl h
  · split at h
    · exact hidden_fileChangeCompleted shielded redacted rfl h
    · split at h
      · exact hidden_commandCompleted shielded redacted rfl hmethod h
      · cases h
        exact shielded.unknown (shielded.known.str redacted hitemType)

theorem hidden_approval {summary : String} {found : ProviderRequestHandle}
    (hfound : request = some found) (hsummary : ¬ Occurs secret summary) :
    Hidden secret guard (reducer, [⟨.approvalRequested found summary, native⟩]) := by
  apply hidden_event shielded.clean
  intro hguard
  simp [NativeEvent.texts, HarnessEvent.texts, shielded.native, hsummary,
    shielded.request hguard found hfound]

theorem hidden_commandApproval (h : reducer.commandApproval params request native = some result) :
    Hidden secret guard result := by
  unfold commandApproval at h
  simp only [Option.bind_eq_bind, Option.bind_eq_some_iff] at h
  obtain ⟨found, rfl, h⟩ := h
  cases h
  apply hidden_approval shielded rfl
  cases hreason : params.str "reason" with
  | some reason => exact shielded.known.str shielded.params hreason
  | none =>
      cases hcommand : params.str "command" with
      | some command => exact shielded.known.str shielded.params hcommand
      | none => exact shielded.known.words _ (by simp [ownWords])

theorem hidden_fileApproval (h : reducer.fileApproval params request native = some result) :
    Hidden secret guard result := by
  unfold fileApproval at h
  simp only [Option.bind_eq_bind, Option.bind_eq_some_iff] at h
  obtain ⟨found, rfl, h⟩ := h
  cases h
  apply hidden_approval shielded rfl
  cases hreason : params.str "reason" with
  | some reason => exact shielded.known.str shielded.params hreason
  | none => exact shielded.known.words _ (by simp [ownWords])

theorem hidden_userInput (h : reducer.userInput params request native = some result) :
    Hidden secret guard result := by
  unfold userInput at h
  simp only [Option.bind_eq_bind, Option.bind_eq_some_iff] at h
  obtain ⟨found, rfl, questions, ⟨array, harray, hquestions⟩, prompts, hprompts, h⟩ := h
  have hhides : Hides secret prompts := by
    intro prompt hmem
    obtain ⟨question, hquestion, hprompt⟩ := mem_of_mapM_eq_some hprompts hmem
    exact shielded.known.str ((shielded.params.get harray).item hquestions hquestion) hprompt
  split at h
  · cases h
  · cases h
    apply hidden_event shielded.clean
    intro hguard
    have hprompt := shielded.known.lines (shielded.line hguard) hhides
    simp [NativeEvent.texts, HarnessEvent.texts, shielded.native, hprompt,
      shielded.request hguard found rfl]

theorem hidden_turnCompleted (hmethod : ¬ Occurs secret method)
    (h : reducer.turnCompleted params run native method = some result) :
    Hidden secret guard result := by
  unfold turnCompleted at h
  simp only [Option.bind_eq_bind, Option.bind_eq_some_iff] at h
  obtain ⟨run, rfl, h⟩ := h
  split at h
  · next state hstate =>
    cases h
    have htexts : Hides secret state.texts := by
      unfold terminalState at hstate
      split at hstate
      · cases hstate
        exact hides_nil
      · cases hstate
        exact hides_nil
      · cases hstate
        exact hides_cons.mpr ⟨shielded.known.words _ (by simp [ownWords]), hides_nil⟩
      · cases hstate
    apply hidden_event (shielded.clean.retireRun run)
    intro _
    simp [NativeEvent.texts, HarnessEvent.texts, shielded.native, htexts, shielded.run run rfl]
  · cases h
    apply hidden_event (shielded.clean.retireRun run)
    exact fun _ => hides_malformed shielded.run shielded.native hmethod

theorem hidden_reduceMethod (hmethod : ¬ Occurs secret method)
    (h : reducer.reduceMethod params run request native method = some result) :
    Hidden secret guard result := by
  unfold reduceMethod at h
  split at h
  · exact hidden_itemStarted shielded h
  · exact hidden_messageDelta shielded h
  · exact hidden_commandOutputDelta shielded h
  · exact hidden_fileChangeOutputDelta shielded hmethod h
  · exact hidden_completedItem shielded hmethod h
  · exact hidden_commandApproval shielded h
  · exact hidden_fileApproval shielded h
  · exact hidden_userInput shielded h
  · exact hidden_turnCompleted shielded hmethod h
  · cases h
    exact shielded.unknown hmethod

end Messages

/-- Whatever the message is, what the reducer makes of it is free of the secret. -/
theorem hidden_reduce {message : Value} (redacted : Redacted runtime.sanitizer message)
    (shielded : Shielded runtime secret guard reducer ((message.get "params").getD .null) run
      request native) :
    Hidden secret guard (reducer.reduce native message run request) := by
  unfold reduce
  split
  · next method hmethod =>
    have hfree := shielded.known.str redacted hmethod
    show Hidden secret guard ((reducer.reduceMethod ((message.get "params").getD .null) run
      request native method).getD (reducer, [.malformed run method native]))
    cases h : reducer.reduceMethod ((message.get "params").getD .null) run request native
        method with
    | none =>
        apply hidden_event shielded.clean
        exact fun _ => hides_malformed shielded.run shielded.native hfree
    | some result => exact hidden_reduceMethod shielded hfree h
  · split
    · exact hidden_nothing shielded.clean
    · exact shielded.unknown (shielded.known.words _ (by simp [ownWords]))

end Reducer

namespace Actor

variable {runtime : Runtime} {secret : String} {guard : Prop} {actor after : Actor}

/-! ## What is kept and what is let out -/

/-- What the actor keeps and may let out later is free of the secret. -/
structure Sealed (secret : String) (actor : Actor) : Prop where
  runs : ∀ key run, actor.runs.find key = some run → Hides secret run.texts
  reducer : actor.reducer.Clean secret
  methods : ∀ id pending, actor.pending.find id = some pending → ¬ Occurs secret pending.method
  sessions : ∀ id pending session, actor.pending.find id = some pending →
    pending.kind = .startRun session → ¬ Occurs secret session.value

/-- What has been let out and stored since is free of the secret: the events, the
errors that were replied, and the diagnostics behind those that are left of the
old ones. -/
structure Silent (secret : String) (actor after : Actor) : Prop where
  events : ∃ new, after.events = actor.events ++ new ∧ ∀ event ∈ new, Hides secret event.texts
  replies : ∃ new, after.replies = actor.replies ++ new ∧
    ∀ entry ∈ new, Hides secret entry.2.errorTexts
  diagnostics : ∃ new, after.diagnostics <:+ actor.diagnostics ++ new ∧ Hides secret new

/-- The actor stays sealed, and under the guard it has been silent. -/
structure Kept (secret : String) (guard : Prop) (actor after : Actor) : Prop where
  isSealed : Sealed secret after
  silent : guard → Silent secret actor after

theorem Silent.refl (actor : Actor) : Silent secret actor actor := by
  refine ⟨⟨[], ?_, ?_⟩, ⟨[], ?_, ?_⟩, [], ?_, ?_⟩
  · rw [List.append_nil]
  · simp
  · rw [List.append_nil]
  · simp
  · rw [List.append_nil]
  · exact hides_nil

theorem Silent.trans {last : Actor} (h : Silent secret actor after)
    (h' : Silent secret after last) : Silent secret actor last := by
  obtain ⟨events, hevents, hhides⟩ := h.events
  obtain ⟨events', hevents', hhides'⟩ := h'.events
  obtain ⟨replies, hreplies, herrors⟩ := h.replies
  obtain ⟨replies', hreplies', herrors'⟩ := h'.replies
  obtain ⟨diagnostics, ⟨dropped, hdiagnostics⟩, hstored⟩ := h.diagnostics
  obtain ⟨diagnostics', ⟨dropped', hdiagnostics'⟩, hstored'⟩ := h'.diagnostics
  refine ⟨⟨events ++ events', ?_, ?_⟩, ⟨replies ++ replies', ?_, ?_⟩, diagnostics ++ diagnostics',
    ⟨dropped ++ dropped', ?_⟩, ?_⟩
  · rw [hevents', hevents, List.append_assoc]
  · exact List.forall_mem_append.mpr ⟨hhides, hhides'⟩
  · rw [hreplies', hreplies, List.append_assoc]
  · exact List.forall_mem_append.mpr ⟨herrors, herrors'⟩
  · rw [List.append_assoc, hdiagnostics', ← List.append_assoc, hdiagnostics, List.append_assoc]
  · exact hides_append.mpr ⟨hstored, hstored'⟩

theorem Kept.refl (hsealed : Sealed secret actor) : Kept secret guard actor actor :=
  ⟨hsealed, fun _ => Silent.refl actor⟩

theorem Kept.trans {last : Actor} (h : Kept secret guard actor after)
    (h' : Kept secret guard after last) : Kept secret guard actor last :=
  ⟨h'.isSealed, fun hguard => (h.silent hguard).trans (h'.silent hguard)⟩

/-- Nothing is let out but replies, whose errors are free of the secret. -/
theorem Kept.replies (hsealed : Sealed secret actor) {entries : List (Nat × Reply)}
    (hruns : after.runs = actor.runs) (hreducer : after.reducer = actor.reducer)
    (hpending : after.pending = actor.pending) (hevents : after.events = actor.events)
    (hdiagnostics : after.diagnostics = actor.diagnostics)
    (hreplies : after.replies = actor.replies ++ entries)
    (h : guard → ∀ entry ∈ entries, Hides secret entry.2.errorTexts) :
    Kept secret guard actor after := by
  refine ⟨⟨?_, ?_, ?_, ?_⟩, fun hguard => ⟨⟨[], ?_, ?_⟩, ⟨entries, hreplies, h hguard⟩, [], ?_, ?_⟩⟩
  · rw [hruns]
    exact hsealed.runs
  · rw [hreducer]
    exact hsealed.reducer
  · rw [hpending]
    exact hsealed.methods
  · rw [hpending]
    exact hsealed.sessions
  · rw [hevents, List.append_nil]
  · simp
  · rw [hdiagnostics, List.append_nil]
  · exact hides_nil

theorem Kept.same (hsealed : Sealed secret actor) (hruns : after.runs = actor.runs)
    (hreducer : after.reducer = actor.reducer) (hpending : after.pending = actor.pending)
    (hevents : after.events = actor.events) (hdiagnostics : after.diagnostics = actor.diagnostics)
    (hreplies : after.replies = actor.replies) : Kept secret guard actor after := by
  apply Kept.replies hsealed hruns hreducer hpending hevents hdiagnostics
    (hreplies.trans (List.append_nil _).symm)
  intro _ entry hmem
  cases hmem

theorem Kept.emit (hsealed : Sealed secret actor) {event : NativeEvent}
    (h : guard → Hides secret event.texts) : Kept secret guard actor (actor.emit event) where
  isSealed := ⟨hsealed.runs, hsealed.reducer, hsealed.methods, hsealed.sessions⟩
  silent := by
    intro hguard
    have hsame : Silent secret actor actor := Silent.refl actor
    refine ⟨⟨[event], rfl, ?_⟩, hsame.replies, hsame.diagnostics⟩
    intro found hmem
    rw [List.mem_singleton.mp hmem]
    exact h hguard

theorem Kept.pushDiagnostic (hsealed : Sealed secret actor) {value : String}
    (h : guard → ¬ Occurs secret value) : Kept secret guard actor (actor.pushDiagnostic value) where
  isSealed := ⟨hsealed.runs, hsealed.reducer, hsealed.methods, hsealed.sessions⟩
  silent := by
    intro hguard
    have hsame : Silent secret actor actor := Silent.refl actor
    refine ⟨hsame.events, hsame.replies, [value], ?_, hides_cons.mpr ⟨h hguard, hides_nil⟩⟩
    unfold Actor.pushDiagnostic
    dsimp only
    split
    · obtain ⟨dropped, hdropped⟩ := List.drop_suffix 1 actor.diagnostics
      exact ⟨dropped, by rw [← List.append_assoc, hdropped]⟩
    · exact List.suffix_refl _

theorem Kept.reply (hsealed : Sealed secret actor) {channel : Nat} {reply : Reply}
    (h : guard → Hides secret reply.errorTexts) :
    Kept secret guard actor (actor.reply channel reply) := by
  refine Kept.replies hsealed rfl rfl rfl rfl rfl rfl ?_
  intro hguard entry hmem
  rw [List.mem_singleton.mp hmem]
  exact h hguard

theorem kept_forgetLogin (hsealed : Sealed secret actor) :
    Kept secret guard actor actor.forgetLogin := by
  refine Kept.replies hsealed rfl rfl rfl rfl rfl rfl ?_
  intro _ entry hmem
  obtain ⟨waiter, _, rfl⟩ := List.mem_map.mp hmem
  exact hides_nil

theorem kept_settleLoginStart (hsealed : Sealed secret actor)
    {result : Except HarnessError HarnessAccountStatus}
    (h : guard → ∀ error, result = .error error → Hides secret error.texts) :
    Kept secret guard actor (actor.settleLoginStart result) := by
  unfold settleLoginStart
  split
  · refine Kept.replies hsealed rfl rfl rfl rfl rfl rfl ?_
    intro hguard entry hmem
    obtain ⟨waiter, _, rfl⟩ := List.mem_map.mp hmem
    cases result with
    | ok status => exact hides_nil
    | error error => exact h hguard error rfl
  · exact Kept.same hsealed rfl rfl rfl rfl rfl rfl

theorem kept_completeClientRequest (hsealed : Sealed secret actor) (pending : PendingClient)
    {result : Except HarnessError Value}
    (h : guard → ∀ error, result = .error error → Hides secret error.texts) :
    Kept secret guard actor (actor.completeClientRequest pending result) := by
  unfold completeClientRequest
  split
  · apply kept_settleLoginStart hsealed
    intro hguard error heq
    cases result with
    | ok value => cases heq
    | error error =>
        cases heq
        exact h hguard error rfl
  · split
    · apply Kept.reply hsealed
      intro hguard
      cases result with
      | ok value => exact hides_nil
      | error error => exact h hguard error rfl
    · exact Kept.refl hsealed

/-! ## Responses -/

/-- A frame refuses a pending request. -/
def Refuses (actor : Actor) (value error : Value) : Prop :=
  value.get "method" = none ∧ value.get "error" = some error ∧ value.get "result" = none ∧
    ∃ id pending, (value.get "id").bind Value.asU64 = some id ∧
      actor.pending.find id = some pending

/-- A pending request whose method and session are free of the secret. -/
structure Covered (secret : String) (pending : PendingClient) : Prop where
  method : ¬ Occurs secret pending.method
  session : ∀ session, pending.kind = .startRun session → ¬ Occurs secret session.value

/-- A run is accepted whose handle is free of the secret. -/
theorem Kept.accept (hsealed : Sealed secret actor) (key : String × String)
    {run : ProviderRunHandle} {native : String} (htexts : Hides secret run.texts)
    (hnative : ¬ Occurs secret native) :
    Kept secret guard actor
      ({ actor with runs := actor.runs.set key run }.emit ⟨.runAccepted run, native⟩) := by
  have hset : Sealed secret { actor with runs := actor.runs.set key run } := by
    refine ⟨?_, hsealed.reducer, hsealed.methods, hsealed.sessions⟩
    intro key' found hfind
    have hfind : (actor.runs.set key run).find key' = some found := hfind
    rw [Dict.find_set] at hfind
    split at hfind
    · cases hfind
      exact htexts
    · exact hsealed.runs key' found hfind
  have hemitted : Kept secret guard { actor with runs := actor.runs.set key run }
      ({ actor with runs := actor.runs.set key run }.emit ⟨.runAccepted run, native⟩) :=
    Kept.emit hset fun _ => hides_cons.mpr ⟨hnative, htexts⟩
  refine ⟨hemitted.isSealed, ?_⟩
  intro hguard
  have hsilent := hemitted.silent hguard
  exact ⟨hsilent.events, hsilent.replies, hsilent.diagnostics⟩

theorem kept_acknowledge (known : Secret runtime secret) (hsealed : Sealed secret actor)
    {pending : PendingClient} (covered : Covered secret pending) (raw : String) {result : Value}
    (redacted : Redacted runtime.sanitizer result) :
    Kept secret guard actor (actor.acknowledge runtime pending.kind raw result) := by
  unfold acknowledge
  split
  · split
    · exact Kept.same hsealed rfl rfl rfl rfl rfl rfl
    · exact Kept.refl hsealed
  · next sessionId hkind =>
    split
    · next turnId hturnId =>
      simp only [Option.bind_eq_some_iff] at hturnId
      obtain ⟨id, ⟨turn, hturn, hid⟩, hnew⟩ := hturnId
      unfold ProviderComponent.new at hnew
      split at hnew
      · cases hnew
        apply Kept.accept hsealed _ _ (known.sanitized raw)
        have hsession := covered.session sessionId hkind
        have hturnId := known.str (redacted.get hturn) hid
        simp [ProviderRunHandle.texts, ProviderRunHandle.new, known.handle, hsession, hturnId]
      · cases hnew
    · exact Kept.refl hsealed
  · split
    · exact Kept.refl hsealed
    · exact kept_forgetLogin hsealed
  · exact kept_forgetLogin hsealed
  · exact Kept.refl hsealed
  · exact Kept.refl hsealed
  · exact Kept.refl hsealed
  · exact Kept.refl hsealed

/-- The error of a refused request is free of the secret, and so is the diagnostic
that is made of it where the two do not spell it together. -/
theorem hides_classifyProtocolError (known : Secret runtime secret) (error : Value) :
    Hides secret (classifyProtocolError error runtime.sanitizer).texts := by
  unfold classifyProtocolError
  dsimp only
  split
  · exact hides_nil
  · exact hides_cons.mpr ⟨known.sanitized _, hides_nil⟩

theorem not_occurs_refusal (known : Secret runtime secret) {error : Value}
    (h : ¬ Straddles secret "provider protocol failure: " error.toText) :
    ¬ Occurs secret (classifyProtocolError error runtime.sanitizer).toText := by
  unfold classifyProtocolError
  dsimp only
  split
  · show ¬ Occurs secret "runtime is overloaded"
    exact known.words _ (by simp [ownWords])
  · exact known.behind (known.words _ (by simp [ownWords])) h

theorem hides_malformedAckError (known : Secret runtime secret) {pending : PendingClient}
    (covered : Covered secret pending) : Hides secret (malformedAckError pending).texts := by
  unfold malformedAckError
  split
  · exact hides_cons.mpr ⟨covered.method, hides_nil⟩
  · exact hides_cons.mpr ⟨known.words _ (by simp [ownWords]), hides_nil⟩

/-- A diagnostic is stored, and the request fails with an error. -/
theorem kept_failed (hsealed : Sealed secret actor) (pending : PendingClient) {diagnostic : String}
    {error : HarnessError} (hdiagnostic : guard → ¬ Occurs secret diagnostic)
    (herror : Hides secret error.texts) :
    Kept secret guard actor
      ((actor.pushDiagnostic diagnostic).completeClientRequest pending (.error error)) := by
  have hpushed := Kept.pushDiagnostic hsealed hdiagnostic
  apply hpushed.trans
  apply kept_completeClientRequest hpushed.isSealed
  intro _ found heq
  cases heq
  exact herror

theorem kept_answerPending (known : Secret runtime secret) (hsealed : Sealed secret actor)
    {pending : PendingClient} (covered : Covered secret pending) (raw : String) {value : Value}
    (hstraddles : guard → ∀ error, value.get "error" = some error → value.get "result" = none →
      ¬ Straddles secret "provider protocol failure: " error.toText) :
    Kept secret guard actor (actor.answerPending runtime raw value pending) := by
  have hmalformed : Kept secret guard actor
      ((actor.pushDiagnostic (runtime.sanitizer.sanitize raw)).completeClientRequest pending
        (.error (malformedAckError pending))) :=
    kept_failed hsealed pending (fun _ => known.sanitized raw)
      (hides_malformedAckError known covered)
  unfold answerPending
  split
  · next error herror hresult =>
    apply kept_failed hsealed pending _ (hides_classifyProtocolError known error)
    exact fun hguard => not_occurs_refusal known (hstraddles hguard error herror hresult)
  · exact hmalformed
  · next error result hresult =>
    dsimp only
    split
    · exact hmalformed
    · next hvalid =>
      rw [Bool.not_eq_true, Bool.or_eq_false_iff, Bool.not_eq_false'] at hvalid
      rw [mismatchedThread_eq_none hvalid.2]
      have hacknowledged : Kept secret guard actor (actor.acknowledge runtime pending.kind raw
          (runtime.sanitizer.sanitizeValue result)) :=
        kept_acknowledge known hsealed covered raw ⟨result, rfl⟩
      apply hacknowledged.trans
      apply kept_completeClientRequest hacknowledged.isSealed
      intro _ error heq
      cases heq

theorem kept_handleResponse (known : Secret runtime secret) (hsealed : Sealed secret actor)
    (raw : String) {value : Value} (hmethod : value.get "method" = none)
    (hstraddles : guard → ∀ error, Refuses actor value error →
      ¬ Straddles secret "provider protocol failure: " error.toText) :
    Kept secret guard actor (actor.handleResponse runtime raw value) := by
  unfold handleResponse
  split
  · exact Kept.refl hsealed
  · next id hid =>
    split
    · exact Kept.refl hsealed
    · next pending hpending =>
      have hremoved : ∀ id' found, (actor.pending.remove id).find id' = some found →
          actor.pending.find id' = some found := by
        intro id' found hfind
        rw [Dict.find_remove] at hfind
        split at hfind
        · cases hfind
        · exact hfind
      have hsealed' : Sealed secret { actor with pending := actor.pending.remove id } :=
        ⟨hsealed.runs, hsealed.reducer,
          fun id' found hfind => hsealed.methods id' found (hremoved id' found hfind),
          fun id' found session hfind =>
            hsealed.sessions id' found session (hremoved id' found hfind)⟩
      have covered : Covered secret pending :=
        ⟨hsealed.methods id pending hpending,
          fun session => hsealed.sessions id pending session hpending⟩
      have hanswered := kept_answerPending known hsealed' covered raw
        fun hguard error herror hresult =>
          hstraddles hguard error ⟨hmethod, herror, hresult, id, pending, hid, hpending⟩
      refine ⟨hanswered.isSealed, ?_⟩
      intro hguard
      have hsilent := hanswered.silent hguard
      exact ⟨hsilent.events, hsilent.replies, hsilent.diagnostics⟩

/-! ## Account notifications -/

theorem kept_loginCompleted (known : Secret runtime secret) (hsealed : Sealed secret actor)
    (value : Value) : Kept secret guard actor (actor.loginCompleted runtime value) := by
  unfold loginCompleted
  split
  · have hpushed : Kept secret guard actor (actor.pushDiagnostic
        "Codex emitted a malformed account/login/completed notification") :=
      Kept.pushDiagnostic hsealed fun _ => known.words _ (by simp [ownWords])
    exact hpushed.trans (kept_forgetLogin hpushed.isSealed)
  · split
    · exact Kept.same hsealed rfl rfl rfl rfl rfl rfl
    · split
      · exact Kept.same hsealed rfl rfl rfl rfl rfl rfl
      · exact Kept.refl hsealed
    · exact Kept.refl hsealed

theorem kept_accountUpdated (known : Secret runtime secret) (hsealed : Sealed secret actor)
    (value : Value) : Kept secret guard actor (actor.accountUpdated runtime value) := by
  unfold accountUpdated
  split
  · split
    · exact Kept.same hsealed rfl rfl rfl rfl rfl rfl
    · exact Kept.same hsealed rfl rfl rfl rfl rfl rfl
  · exact Kept.pushDiagnostic hsealed fun _ => known.words _ (by simp [ownWords])

/-! ## Messages -/

theorem Kept.retire (hsealed : Sealed secret actor) {run : ProviderRunHandle}
    {state : HarnessRunTerminal} {native : String}
    (h : guard → Hides secret (NativeEvent.mk (.runTerminal run state) native).texts) :
    Kept secret guard actor (actor.emitTerminalAndRetire run state native) := by
  have hemitted : Kept secret guard actor (actor.emit ⟨.runTerminal run state, native⟩) :=
    Kept.emit hsealed h
  refine ⟨⟨?_, hsealed.reducer.retireRun run, hsealed.methods, hsealed.sessions⟩, ?_⟩
  · intro key found hfind
    have hfind : (actor.runs.remove (run.sessionId, run.nativeId)).find key = some found := hfind
    rw [Dict.find_remove] at hfind
    split at hfind
    · cases hfind
    · exact hsealed.runs key found hfind
  · intro hguard
    have hsilent := hemitted.silent hguard
    exact ⟨hsilent.events, hsilent.replies, hsilent.diagnostics⟩

theorem kept_endMalformed (known : Secret runtime secret) (hsealed : Sealed secret actor)
    {run : Option ProviderRunHandle} (hrun : ∀ found, run = some found → Hides secret found.texts) :
    Kept secret guard actor (actor.endMalformed run) := by
  cases run with
  | none => exact Kept.refl hsealed
  | some run =>
      apply Kept.retire hsealed
      intro _
      have hnative := known.words "\x7b\"event\":\"malformed-terminal-frame\"\x7d"
        (by simp [ownWords])
      have hstate := known.words "Codex emitted a malformed terminal frame" (by simp [ownWords])
      simp [NativeEvent.texts, HarnessEvent.texts, HarnessRunTerminal.texts, hnative, hstate,
        hrun run rfl]

theorem kept_dispatch (known : Secret runtime secret) (hsealed : Sealed secret actor)
    {completesRun : Bool} {run : Option ProviderRunHandle} {event : NativeEvent}
    (hrun : ∀ found, run = some found → Hides secret found.texts)
    (h : guard → Hides secret event.texts) :
    Kept secret guard actor (dispatch completesRun run actor event) := by
  unfold dispatch
  split
  · next run' state hevent =>
    apply Kept.retire hsealed
    intro hguard
    rw [← hevent]
    exact h hguard
  · have hemitted : Kept secret guard actor (actor.emit event) := Kept.emit hsealed h
    split
    · exact hemitted.trans (kept_endMalformed known hemitted.isSealed hrun)
    · exact hemitted
  · exact Kept.emit hsealed h

theorem kept_foldl {α : Type} {f : Actor → α → Actor} {items : List α}
    (hsealed : Sealed secret actor)
    (hf : ∀ actor, Sealed secret actor → ∀ item ∈ items, Kept secret guard actor (f actor item)) :
    Kept secret guard actor (items.foldl f actor) := by
  induction items generalizing actor with
  | nil => exact Kept.refl hsealed
  | cons item rest ih =>
      have hfirst := hf actor hsealed item List.mem_cons_self
      apply hfirst.trans
      exact ih hfirst.isSealed fun actor hsealed item hmem =>
        hf actor hsealed item (List.mem_cons_of_mem _ hmem)

theorem kept_reduceMessage (known : Secret runtime secret) (hsealed : Sealed secret actor)
    (method raw : String) {value : Value} (redacted : Redacted runtime.sanitizer value)
    {run : Option ProviderRunHandle} {request : Option ProviderRequestHandle}
    (hrun : ∀ found, run = some found → Hides secret found.texts)
    (hrequest : guard → ∀ found, request = some found → Hides secret found.texts)
    (hline : guard → '\n' ∉ secret.toList) :
    Kept secret guard actor
      (actor.reduceMessage method (runtime.sanitizer.sanitize raw) value run request) := by
  have hparams : Redacted runtime.sanitizer ((value.get "params").getD .null) := by
    cases hfound : value.get "params" with
    | none => exact ⟨.null, rfl⟩
    | some params => exact redacted.get hfound
  have hidden : Reducer.Hidden secret guard
      (actor.reducer.reduce (runtime.sanitizer.sanitize raw) value run request) :=
    Reducer.hidden_reduce redacted
      ⟨known, hsealed.reducer, hparams, hrun, hrequest, hline, known.sanitized raw⟩
  unfold reduceMessage
  dsimp only
  have hreduced : Sealed secret { actor with
      reducer := (actor.reducer.reduce (runtime.sanitizer.sanitize raw) value run request).1 } :=
    ⟨hsealed.runs, hidden.reducer, hsealed.methods, hsealed.sessions⟩
  have hdispatch : ∀ before, Sealed secret before →
      ∀ event ∈ (actor.reducer.reduce (runtime.sanitizer.sanitize raw) value run request).2,
        Kept secret guard before (dispatch (method = "turn/completed") run before event) :=
    fun before hsealed event hmem =>
      kept_dispatch known hsealed hrun fun hguard => hidden.events hguard event hmem
  have hdispatched := kept_foldl hreduced hdispatch
  refine ⟨hdispatched.isSealed, ?_⟩
  intro hguard
  have hsilent := hdispatched.silent hguard
  exact ⟨hsilent.events, hsilent.replies, hsilent.diagnostics⟩

/-! ## Frames -/

/-- The outcome of the checks of a frame that asks for something. -/
def validated (runtime : Runtime) (actor : Actor) (value : Value) :
    Except ServerRequestRejection (ProviderRequestHandle × PendingServer) :=
  validateServerRequest (runtime.sanitizer.sanitizeValue value)
    (runForMessage (runtime.sanitizer.sanitizeValue value) actor.runs) actor.serverRequests

/-- The method of a frame is reported as it came: that of a request whose
rejection can be written, or of a notification about a run that is not known. -/
def ReportsMethod (runtime : Runtime) (writable : Bool) (actor : Actor) (value : Value) : Prop :=
  ((value.get "id").isSome ∧ writable ∧
      ∃ rejection, actor.validated runtime value = .error rejection) ∨
    ((value.get "id").isNone ∧ messageHasRunIdentity (runtime.sanitizer.sanitizeValue value) ∧
      runForMessage (runtime.sanitizer.sanitizeValue value) actor.runs = none)

/-- A frame makes the actor tell a secret: in a method that is reported as it
came, in the digits of a request's number, or in an error's text together with
the words before it. -/
inductive Exposes (runtime : Runtime) (secret : String) (writable : Bool) (actor : Actor)
    (value : Value) : Prop
  | method (hreported : ReportsMethod runtime writable actor value)
      (hoccurs : Occurs secret (frameMethod value))
  | number (n : Int) (accepted : ProviderRequestHandle × PendingServer)
      (hid : value.get "id" = some (.number (.integer n)))
      (haccepted : actor.validated runtime value = .ok accepted)
      (hoccurs : Occurs secret (toString n))
  | refusal (error : Value) (hrefused : Refuses actor value error)
      (hstraddles : Straddles secret "provider protocol failure: " error.toText)

/-- The id of an accepted request is redacted, or it is a number's digits. -/
theorem id_of_validated {value : Value} {handle : ProviderRequestHandle} {pending : PendingServer}
    (h : actor.validated runtime value = .ok (handle, pending)) :
    (∃ source, handle.nativeId = runtime.sanitizer.sanitize source) ∨
      ∃ n, value.get "id" = some (.number (.integer n)) ∧ handle.nativeId = toString n := by
  unfold validated validateServerRequest at h
  obtain ⟨method, _, h⟩ := bind_eq_ok.mp h
  obtain ⟨kind, _, h⟩ := bind_eq_ok.mp h
  obtain ⟨run, _, h⟩ := bind_eq_ok.mp h
  obtain ⟨rpcId, hrpcId, h⟩ := bind_eq_ok.mp h
  obtain ⟨nativeId, hnativeId, h⟩ := bind_eq_ok.mp h
  dsimp only at h
  split at h
  · cases h
  · cases h
    have hid := (Option.filter_eq_some_iff.mp (orReject_eq_ok.mp hrpcId)).1
    have htext := (Option.filter_eq_some_iff.mp (orReject_eq_ok.mp hnativeId)).1
    unfold Sanitizer.sanitizeValue at hid
    rw [Value.get_mapStrings] at hid
    obtain ⟨id, hvalue, rfl⟩ := Option.map_eq_some_iff.mp hid
    rw [hvalue]
    cases id with
    | string source =>
        cases htext
        exact .inl ⟨source, rfl⟩
    | number number =>
        cases number with
        | integer n =>
            simp only [Value.mapStrings, requestIdText] at htext
            split at htext
            · cases htext
              exact .inr ⟨n, rfl, rfl⟩
            · cases htext
        | float text => cases htext
    | null => cases htext
    | bool b => cases htext
    | array items => cases htext
    | object fields => cases htext

theorem hides_runForMessage (hsealed : Sealed secret actor) {value : Value} :
    ∀ found, runForMessage value actor.runs = some found → Hides secret found.texts := by
  intro found h
  obtain ⟨key, _, hfind⟩ := Option.bind_eq_some_iff.mp h
  exact hsealed.runs key found hfind

theorem kept_handleMessage (known : Secret runtime secret) (hsealed : Sealed secret actor)
    {writable : Bool} {raw : String} {value : Value} (hline : guard → '\n' ∉ secret.toList)
    (hexposes : guard → ¬ Exposes runtime secret writable actor value)
    (h : actor.handleMessage runtime writable raw value (frameMethod value) = .ok after) :
    Kept secret guard actor after := by
  have hrun : ∀ found, runForMessage (runtime.sanitizer.sanitizeValue value) actor.runs =
      some found → Hides secret found.texts := hides_runForMessage hsealed
  have hid : (runtime.sanitizer.sanitizeValue value).get "id" =
      (value.get "id").map (runtime.sanitizer.sanitizeValue) := Value.get_mapStrings
  have hmethod : guard → ReportsMethod runtime writable actor value →
      ¬ Occurs secret (frameMethod value) := fun hguard hreported hoccurs =>
    hexposes hguard (.method hreported hoccurs)
  unfold handleMessage at h
  dsimp only at h
  split at h
  · next id hfound =>
    have hsome : (value.get "id").isSome := by
      rw [hfound] at hid
      obtain ⟨source, hsource, _⟩ := Option.map_eq_some_iff.mp hid.symm
      rw [hsource]
      rfl
    split at h
    · next handle pending haccepted =>
      cases h
      have hregistered : Sealed secret { actor with
          serverRequests := actor.serverRequests.set handle pending } :=
        ⟨hsealed.runs, hsealed.reducer, hsealed.methods, hsealed.sessions⟩
      have hrequest : guard → ∀ found, some handle = some found → Hides secret found.texts := by
        intro hguard found heq
        cases heq
        have hhandle := hrun handle.run (run_of_validateServerRequest haccepted)
        refine hides_cons.mpr ⟨?_, hhandle⟩
        rcases id_of_validated haccepted with ⟨source, hsource⟩ | ⟨n, hn, htext⟩
        · rw [hsource]
          exact known.sanitized source
        · rw [htext]
          exact fun hoccurs => hexposes hguard (.number n (handle, pending) hn haccepted hoccurs)
      have hreduced := kept_reduceMessage known hregistered (frameMethod value) raw
        ⟨value, rfl⟩ hrun hrequest hline
      refine ⟨hreduced.isSealed, ?_⟩
      intro hguard
      have hsilent := hreduced.silent hguard
      exact ⟨hsilent.events, hsilent.replies, hsilent.diagnostics⟩
    · next rejection hrejected =>
      split at h
      · next hwritable =>
        cases h
        have hwritten : Kept secret guard actor
            (actor.writeFrame (protocolErrorFrame id rejection) true) :=
          Kept.same hsealed rfl rfl rfl rfl rfl rfl
        have hpushed : Kept secret guard (actor.writeFrame (protocolErrorFrame id rejection) true)
            ((actor.writeFrame (protocolErrorFrame id rejection) true).pushDiagnostic
              (runtime.sanitizer.sanitize raw)) :=
          Kept.pushDiagnostic hwritten.isSealed fun _ => known.sanitized raw
        apply hwritten.trans
        apply hpushed.trans
        apply Kept.emit hpushed.isSealed
        intro hguard
        have hfree := hmethod hguard (.inl ⟨hsome, hwritable, rejection, hrejected⟩)
        unfold rejectionEvent
        split
        · exact Reducer.hides_unknown hrun (known.sanitized raw) hfree
        · exact Reducer.hides_malformed hrun (known.sanitized raw) hfree
      · cases h
  · next hfound =>
    have hnone : (value.get "id").isNone := by
      rw [hfound] at hid
      rw [Option.map_eq_none_iff.mp hid.symm]
      rfl
    split at h
    · next hunknown =>
      rw [Bool.and_eq_true, Option.isNone_iff_eq_none] at hunknown
      cases h
      apply Kept.emit hsealed
      intro hguard
      have hfree := hmethod hguard (.inr ⟨hnone, hunknown⟩)
      apply Reducer.hides_unknown _ (known.sanitized raw) hfree
      intro found heq
      cases heq
    · cases h
      apply kept_reduceMessage known hsealed _ raw ⟨value, rfl⟩ hrun _ hline
      intro _ found heq
      cases heq

theorem kept_handleFrame (known : Secret runtime secret) (hsealed : Sealed secret actor)
    {writable : Bool} {raw : String} {value : Value} (hline : guard → '\n' ∉ secret.toList)
    (hexposes : guard → ¬ Exposes runtime secret writable actor value)
    (h : actor.handleFrame runtime writable raw value = .ok after) :
    Kept secret guard actor after := by
  unfold handleFrame at h
  split at h
  · next hmethod =>
    cases h
    apply kept_handleResponse known hsealed raw (Option.isNone_iff_eq_none.mp hmethod)
    exact fun hguard error hrefused hstraddles =>
      hexposes hguard (.refusal error hrefused hstraddles)
  · split at h
    · cases h
      exact kept_loginCompleted known hsealed value
    · split at h
      · cases h
        exact kept_accountUpdated known hsealed value
      · exact kept_handleMessage known hsealed hline hexposes h

/-! ## Settlement -/

theorem hides_settledError {pending : PendingClient} (hmethod : ¬ Occurs secret pending.method) :
    Hides secret (settledError pending).texts := by
  unfold settledError
  split
  · exact hides_cons.mpr ⟨hmethod, hides_nil⟩
  · exact hides_nil

theorem kept_settlePending (hsealed : Sealed secret actor) {pending : PendingClient}
    (hmethod : ¬ Occurs secret pending.method) :
    Kept secret guard actor (actor.settlePending pending) := by
  unfold settlePending
  split
  · exact Kept.reply hsealed fun _ => hides_settledError hmethod
  · exact Kept.refl hsealed

/-- What a settlement tells of every run. -/
theorem hides_terminal (known : Secret runtime secret) (settlement : Settlement)
    (hcrashed : guard → settlement = .crashed) :
    guard → Hides secret ((settlement.terminal runtime.sanitizer).2 ::
      (settlement.terminal runtime.sanitizer).1.texts) := by
  intro hguard
  rw [hcrashed hguard]
  have hnative := known.words "\x7b\"event\":\"process-exited\"\x7d" (by simp [ownWords])
  exact hides_cons.mpr ⟨hnative, hides_cons.mpr ⟨known.sanitized _, hides_nil⟩⟩

theorem kept_settleRuntime (known : Secret runtime secret) (hsealed : Sealed secret actor)
    (arrival : Arrival) {settlement : Settlement} (hcrashed : guard → settlement = .crashed) :
    Kept secret guard actor (actor.settleRuntime runtime arrival settlement) := by
  have hempty : Sealed secret { actor with pending := ∅ } := by
    refine ⟨hsealed.runs, hsealed.reducer, ?_, ?_⟩
    · intro id pending hfind
      rw [Dict.find_empty] at hfind
      cases hfind
    · intro id pending session hfind
      rw [Dict.find_empty] at hfind
      cases hfind
  have hanswered : Kept secret guard { actor with pending := ∅ }
      ((actor.pending.inOrder arrival.pendingOrder).foldl
        (fun actor entry => actor.settlePending entry.2) { actor with pending := ∅ }) := by
    apply kept_foldl hempty
    intro before hsealed' entry hmem
    exact kept_settlePending hsealed' (hsealed.methods entry.1 entry.2 (Dict.mem_inOrder.mp hmem))
  have hretired : ∀ settled : Actor, Sealed secret settled → Kept secret guard settled
      ((settled.runs.inOrder arrival.runOrder).foldl (fun actor entry =>
        actor.emitTerminalAndRetire entry.2 (settlement.terminal runtime.sanitizer).1
          (settlement.terminal runtime.sanitizer).2) { settled with serverRequests := ∅ }) := by
    intro settled hsettled
    have hcleared : Kept secret guard settled { settled with serverRequests := ∅ } :=
      Kept.same hsettled rfl rfl rfl rfl rfl rfl
    apply hcleared.trans
    apply kept_foldl hcleared.isSealed
    intro before hsealed' entry hmem
    apply Kept.retire hsealed'
    intro hguard
    have hstate := hides_cons.mp (hides_terminal known settlement hcrashed hguard)
    have hrun := hsettled.runs entry.1 entry.2 (Dict.mem_inOrder.mp hmem)
    exact hides_cons.mpr ⟨hstate.1, hides_append.mpr ⟨hstate.2, hrun⟩⟩
  have hsettled := hanswered.trans (hretired _ hanswered.isSealed)
  refine ⟨hsettled.isSealed, ?_⟩
  intro hguard
  have hsilent := hsettled.silent hguard
  exact ⟨hsilent.events, hsilent.replies, hsilent.diagnostics⟩

theorem kept_exit (known : Secret runtime secret) (hsealed : Sealed secret actor)
    (arrival : Arrival) {settlement : Settlement} (hcrashed : guard → settlement = .crashed) :
    Kept secret guard actor (actor.exit runtime arrival settlement) := by
  have hsettled : Kept secret guard actor (actor.settleRuntime runtime arrival settlement) :=
    kept_settleRuntime known hsealed arrival hcrashed
  apply hsettled.trans
  have hforgot : Kept secret guard (actor.settleRuntime runtime arrival settlement)
      (actor.settleRuntime runtime arrival settlement).forgetLogin :=
    kept_forgetLogin hsettled.isSealed
  apply hforgot.trans
  exact Kept.same hforgot.isSealed rfl rfl rfl rfl rfl rfl

/-! ## One round -/

/-- What a round's input must be for the secret not to be told: a client's
request is free of it, and a frame that holds it is one line that does not
expose it. -/
def Careful (runtime : Runtime) (secret : String) (actor : Actor) (arrival : Arrival) : Prop :=
  match arrival.input with
  | .command (.request request) =>
      ¬ Occurs secret request.method ∧
        ∀ session, request.kind = .startRun session → ¬ Occurs secret session.value
  | .inbound (.frame raw value) =>
      Occurs secret raw → '\n' ∉ raw.toList ∧ ¬ Exposes runtime secret arrival.writable actor value
  | _ => True

theorem Sealed.same (hsealed : Sealed secret actor) (hruns : after.runs = actor.runs)
    (hreducer : after.reducer = actor.reducer) (hpending : after.pending = actor.pending) :
    Sealed secret after := by
  refine ⟨?_, ?_, ?_, ?_⟩
  · rw [hruns]
    exact hsealed.runs
  · rw [hreducer]
    exact hsealed.reducer
  · rw [hpending]
    exact hsealed.methods
  · rw [hpending]
    exact hsealed.sessions

theorem Sealed.forgetLogin (hsealed : Sealed secret actor) : Sealed secret actor.forgetLogin :=
  hsealed.same rfl rfl rfl

theorem Sealed.exit (known : Secret runtime secret) (hsealed : Sealed secret actor)
    (arrival : Arrival) (settlement : Settlement) :
    Sealed secret (actor.exit runtime arrival settlement) := by
  have hexit : Kept secret False actor (actor.exit runtime arrival settlement) :=
    kept_exit known hsealed arrival False.elim
  exact hexit.isSealed

/-- A request is sent that is free of the secret. -/
theorem Sealed.send (hsealed : Sealed secret actor) {id : Nat} {pending : PendingClient}
    (covered : Covered secret pending) :
    Sealed secret { actor with pending := actor.pending.set id pending } := by
  have hfind : ∀ id' found, (actor.pending.set id pending).find id' = some found →
      found = pending ∨ actor.pending.find id' = some found := by
    intro id' found hfound
    rw [Dict.find_set] at hfound
    split at hfound
    · cases hfound
      exact .inl rfl
    · exact .inr hfound
  refine ⟨hsealed.runs, hsealed.reducer, ?_, ?_⟩
  · intro id' found hfound
    rcases hfind id' found hfound with rfl | hold
    · exact covered.method
    · exact hsealed.methods id' found hold
  · intro id' found session hfound
    rcases hfind id' found hfound with rfl | hold
    · exact covered.session session
    · exact hsealed.sessions id' found session hold

theorem sealed_handleRequest (known : Secret runtime secret) (hsealed : Sealed secret actor)
    (arrival : Arrival) {request : ClientRequest} (hmethod : ¬ Occurs secret request.method)
    (hsession : ∀ session, request.kind = .startRun session → ¬ Occurs secret session.value) :
    Sealed secret (actor.handleRequest runtime arrival request) := by
  unfold handleRequest
  split
  · exact hsealed.same rfl rfl rfl
  · dsimp only
    split
    · have hsent : Sealed secret { actor with
          pending := actor.pending.set actor.nextId
            ⟨request.method, request.mutation, request.kind, some actor.round⟩ } :=
        hsealed.send ⟨hmethod, hsession⟩
      exact hsent.same rfl rfl rfl
    · apply Sealed.exit known
      exact hsealed.same rfl rfl rfl

theorem sealed_handleRespond (known : Secret runtime secret) (hsealed : Sealed secret actor)
    (arrival : Arrival) (request : ProviderRequestHandle) (response : ProviderResponse) :
    Sealed secret (actor.handleRespond runtime arrival request response) := by
  unfold handleRespond
  split
  · exact hsealed.same rfl rfl rfl
  · split
    · exact hsealed.same rfl rfl rfl
    · split
      · exact hsealed.same rfl rfl rfl
      · dsimp only
        split
        · exact hsealed.same rfl rfl rfl
        · apply Sealed.exit known
          exact hsealed.same rfl rfl rfl

theorem sealed_handleLoginStart (known : Secret runtime secret) (hsealed : Sealed secret actor)
    (arrival : Arrival) : Sealed secret (actor.handleLoginStart runtime arrival) := by
  unfold handleLoginStart
  split
  · exact hsealed.same rfl rfl rfl
  · exact hsealed.same rfl rfl rfl
  all_goals
    unfold sendLoginStart
    dsimp only
    split
    · have hmethod := known.words "account/login/start" (by simp [ownWords])
      have hsent : Sealed secret { actor with
          pending := actor.pending.set actor.nextId
            ⟨"account/login/start", true, .accountLoginStart, none⟩ } :=
        hsealed.send ⟨hmethod, fun session hkind => by cases hkind⟩
      exact hsent.same rfl rfl rfl
    · apply Sealed.exit known
      exact hsealed.same rfl rfl rfl

theorem sealed_handleCommand (known : Secret runtime secret) (hsealed : Sealed secret actor)
    {arrival : Arrival} {message : CommandMessage} (hinput : arrival.input = .command message)
    (hcareful : Careful runtime secret actor arrival) :
    Sealed secret (actor.handleCommand runtime arrival message) := by
  cases message with
  | request request =>
      unfold Careful at hcareful
      rw [hinput] at hcareful
      exact sealed_handleRequest known hsealed arrival hcareful.1 hcareful.2
  | respond request response => exact sealed_handleRespond known hsealed arrival request response
  | diagnostics => exact hsealed.same rfl rfl rfl
  | recordDiagnostic diagnostic => exact hsealed.same rfl rfl rfl
  | health => exact hsealed.same rfl rfl rfl
  | accountLoginStatus => exact hsealed.same rfl rfl rfl
  | accountLoginStart => exact sealed_handleLoginStart known hsealed arrival
  | shutdown =>
      have hsettled : Kept secret False actor (actor.settleRuntime runtime arrival .shutdown) :=
        kept_settleRuntime known hsealed arrival False.elim
      have hreplied : Kept secret False (actor.settleRuntime runtime arrival .shutdown)
          ((actor.settleRuntime runtime arrival .shutdown).reply actor.round .shutdown) :=
        Kept.reply hsettled.isSealed False.elim
      exact hreplied.isSealed.forgetLogin.same rfl rfl rfl

/-- What is no frame is stored and reported redacted. -/
theorem kept_garbled (known : Secret runtime secret) (hsealed : Sealed secret actor)
    (raw : String) {itemType : String} (hitem : itemType ∈ ownWords) :
    Kept secret guard actor ((actor.pushDiagnostic (runtime.sanitizer.sanitize raw)).emit
      (.malformed none itemType (runtime.sanitizer.sanitize raw))) := by
  have hpushed : Kept secret guard actor
      (actor.pushDiagnostic (runtime.sanitizer.sanitize raw)) :=
    Kept.pushDiagnostic hsealed fun _ => known.sanitized raw
  apply hpushed.trans
  apply Kept.emit hpushed.isSealed
  intro _
  apply Reducer.hides_malformed _ (known.sanitized raw) (known.words itemType hitem)
  intro found heq
  cases heq

/-- What the child prints keeps the actor sealed, and where it holds the secret
the actor is silent about it. -/
theorem kept_handleInbound (known : Secret runtime secret) (hsealed : Sealed secret actor)
    {arrival : Arrival} {inbound : Inbound} (hinput : arrival.input = .inbound inbound)
    (hcareful : Careful runtime secret actor arrival) :
    Kept secret (∃ text, inbound.text = some text ∧ Occurs secret text) actor
      (actor.handleInbound runtime arrival inbound) := by
  cases inbound with
  | frame raw value =>
      unfold Careful at hcareful
      rw [hinput] at hcareful
      have hline : (∃ text, (Inbound.frame raw value).text = some text ∧ Occurs secret text) →
          '\n' ∉ secret.toList := by
        rintro ⟨text, htext, hoccurs⟩ hbreak
        cases htext
        exact (hcareful hoccurs).1 (hoccurs.subset hbreak)
      have hexposes : (∃ text, (Inbound.frame raw value).text = some text ∧ Occurs secret text) →
          ¬ Exposes runtime secret arrival.writable actor value := by
        rintro ⟨text, htext, hoccurs⟩
        cases htext
        exact (hcareful hoccurs).2
      unfold handleInbound
      dsimp only
      split
      · next after hframe => exact kept_handleFrame known hsealed hline hexposes hframe
      · exact kept_exit known hsealed arrival fun _ => rfl
  | malformed raw => exact kept_garbled known hsealed raw (by simp [ownWords])
  | oversized start => exact kept_garbled known hsealed start (by simp [ownWords])
  | stderr chunk => exact Kept.pushDiagnostic hsealed fun _ => known.sanitized chunk
  | eof => exact kept_exit known hsealed arrival fun _ => rfl

/-- One round keeps the actor sealed, and where the child printed the secret it
is silent about it. -/
theorem kept_step (known : Secret runtime secret) (hsealed : Sealed secret actor)
    {arrival : Arrival} (hcareful : Careful runtime secret actor arrival) :
    Kept secret (∃ text, arrival.printed = some text ∧ Occurs secret text) actor
      (actor.step runtime arrival) := by
  have hhandled : Kept secret (∃ text, arrival.printed = some text ∧ Occurs secret text) actor
      (actor.handleInput runtime arrival) := by
    unfold handleInput
    split
    · unfold abandon
      split
      · exact Kept.refl hsealed
      · exact Kept.refl hsealed
      · exact Kept.refl hsealed
      · exact Kept.reply hsealed fun _ => hides_nil
    · unfold Arrival.printed
      cases hinput : arrival.input with
      | command message =>
          refine ⟨sealed_handleCommand known hsealed hinput hcareful, ?_⟩
          rintro ⟨text, htext, _⟩
          cases htext
      | hangup =>
          refine ⟨hsealed.exit known arrival .shutdown, ?_⟩
          rintro ⟨text, htext, _⟩
          cases htext
      | inbound inbound => exact kept_handleInbound known hsealed hinput hcareful
  refine ⟨hhandled.isSealed.same rfl rfl rfl, ?_⟩
  intro hprinted
  have hsilent := hhandled.silent hprinted
  exact ⟨hsilent.events, hsilent.replies, hsilent.diagnostics⟩

theorem sealed_init : Sealed secret {} where
  runs := by
    intro key run hfind
    rw [Dict.find_empty] at hfind
    cases hfind
  reducer := by
    intro handle text hfind
    rw [Dict.find_empty] at hfind
    cases hfind
  methods := by
    intro id pending hfind
    rw [Dict.find_empty] at hfind
    cases hfind
  sessions := by
    intro id pending session hfind
    rw [Dict.find_empty] at hfind
    cases hfind

/-- Every round's input is careful about the secret. -/
def CarefulRun (runtime : Runtime) (secret : String) (arrivals : List Arrival) : Prop :=
  ∀ before arrival rest, arrivals = before ++ arrival :: rest →
    Careful runtime secret (Actor.run runtime before) arrival

theorem sealed_run (known : Secret runtime secret) {arrivals : List Arrival}
    (hcareful : CarefulRun runtime secret arrivals) :
    Sealed secret (Actor.run runtime arrivals) := by
  induction arrivals using List.reverseRecOn with
  | nil => exact sealed_init
  | append_singleton arrivals arrival ih =>
      have hbefore : CarefulRun runtime secret arrivals := by
        intro before other rest heq
        apply hcareful before other (rest ++ [arrival])
        rw [heq, List.append_assoc, List.cons_append]
      rw [run_concat]
      exact (kept_step known (ih hbefore) (hcareful arrivals arrival [] rfl)).isSealed

/-- In a run that is careful about a secret, each round in which the child printed
it is silent about it: no event, error or diagnostic of that round contains it. -/
theorem run_silent (known : Secret runtime secret) {arrivals : List Arrival}
    (hcareful : CarefulRun runtime secret arrivals) {before rest : List Arrival}
    {arrival : Arrival} (hround : arrivals = before ++ arrival :: rest) {text : String}
    (hprinted : arrival.printed = some text) (hoccurs : Occurs secret text) :
    Silent secret (Actor.run runtime before) (Actor.run runtime (before ++ [arrival])) := by
  have hbefore : CarefulRun runtime secret before := by
    intro first other later heq
    apply hcareful first other (later ++ arrival :: rest)
    rw [hround, heq, List.append_assoc, List.cons_append]
  have hsealed := sealed_run known hbefore
  rw [run_concat]
  have hkept := kept_step known hsealed (hcareful before arrival rest hround)
  exact hkept.silent ⟨text, hprinted, hoccurs⟩

/-! ## A method that is reported as it came -/

section Sample

def tokenRuntime : Runtime := ⟨⟨"codex-redaction", by decide +kernel⟩, ⟨["xyz-7351"], none⟩⟩

theorem token_secret : Secret tokenRuntime "xyz-7351" where
  redactable := by
    intro other hmem
    rw [List.mem_singleton.mp hmem]
    exact ⟨by decide +kernel, by decide +kernel⟩
  mem := List.mem_singleton_self _
  words := by decide +kernel
  handle := by decide +kernel

/-- A request of a method that is not supported. -/
def tokenRequest (method : String) (params : Fields) : Value :=
  .object [("id", .number (.integer 41)), ("method", .string method), ("params", .object params)]

/-- The secret as the method of such a request. -/
def tokenMethod : Arrival where
  input := .inbound (.frame "\x7b\"id\":41,\"method\":\"xyz-7351\",\"params\":\x7b\x7d\x7d"
    (tokenRequest "xyz-7351" []))

/-- The secret in the parameters of such a request. -/
def tokenNote : Arrival where
  input := .inbound (.frame
    "\x7b\"id\":41,\"method\":\"log\",\"params\":\x7b\"note\":\"xyz-7351\"\x7d\x7d"
    (tokenRequest "log" [("note", .string "xyz-7351")]))

set_option maxRecDepth 100000 in
/-- The method of a rejected request reaches an event with the secret in it. -/
theorem token_reported :
    ¬ ∀ (runtime : Runtime) (secret : String) (arrivals : List Arrival) (arrival : Arrival)
      (text : String), (∀ other ∈ runtime.sanitizer.secrets, Redactable other) →
        secret ∈ runtime.sanitizer.secrets → arrival.printed = some text → Occurs secret text →
          Silent secret (Actor.run runtime arrivals)
            (Actor.run runtime (arrivals ++ [arrival])) := by
  intro h
  have hsilent := h tokenRuntime "xyz-7351" [] tokenMethod _ token_secret.redactable
    token_secret.mem rfl (by decide +kernel)
  obtain ⟨events, hevents, hhides⟩ := hsilent.events
  have hreported : ¬ ∀ event ∈ (Actor.run tokenRuntime [tokenMethod]).events,
      Hides "xyz-7351" event.texts := by decide +kernel
  apply hreported
  rw [List.nil_append] at hevents
  rw [hevents]
  exact hhides

set_option maxRecDepth 100000 in
/-- The secret in the parameters is not told. -/
theorem token_redacted :
    Silent "xyz-7351" (Actor.run tokenRuntime []) (Actor.run tokenRuntime ([] ++ [tokenNote])) := by
  have hcareful : CarefulRun tokenRuntime "xyz-7351" [tokenNote] := by
    intro before arrival rest heq
    cases before with
    | cons other before => simp at heq
    | nil =>
        cases heq
        refine fun _ => ⟨by decide +kernel, ?_⟩
        rintro (⟨_, hoccurs⟩ | ⟨n, _, hid, _, hoccurs⟩ | ⟨_, hrefused, _⟩)
        · exact absurd hoccurs (by decide +kernel)
        · cases hid
          exact absurd hoccurs (by decide +kernel)
        · cases hrefused.1
  have hround : [tokenNote] = [] ++ tokenNote :: [] := rfl
  exact run_silent token_secret hcareful hround rfl (by decide +kernel)

end Sample

end Actor

end YakShed.Codex
