/-
# The Codex reducer

A message of the provider becomes harness events. The reducer remembers the
text of every command that has started, and requires the command's completion
to repeat it. Whatever lacks a required field is reported as malformed.
-/

import YakShed.Codex.Bridge
import YakShed.Json.Value

namespace YakShed.Codex

open Json

/-- An event with the native payload it carries. -/
structure NativeEvent where
  event : HarnessEvent
  native : String
  deriving DecidableEq

namespace NativeEvent

def unknown (run : Option ProviderRunHandle) (itemType native : String) : NativeEvent :=
  ⟨.unknown run itemType native, native⟩

/-- `malformed`. -/
def malformed (run : Option ProviderRunHandle) (itemType native : String) : NativeEvent :=
  ⟨.malformed run itemType native, native⟩

end NativeEvent

/-- A command handle whose id has passed `ProviderCommandId::new`. -/
def ProviderCommandHandle.new (run : ProviderRunHandle) (id : String) :
    Option ProviderCommandHandle :=
  if isProviderComponent id then some ⟨run, id⟩ else none

structure Reducer where
  commands : Dict ProviderCommandHandle String := ∅

namespace Reducer

/-- `retire_run`. -/
def retireRun (reducer : Reducer) (run : ProviderRunHandle) : Reducer :=
  { reducer with commands := reducer.commands.retain fun handle _ => handle.run ≠ run }

/-! ## Messages

Each of these functions is one branch of `reduce`. It returns nothing where the
branch returns a malformed payload and leaves the commands as they are. -/

section Messages

variable (reducer : Reducer) (params : Value) (run : Option ProviderRunHandle)
  (request : Option ProviderRequestHandle) (native : String)

/-- `item/started`. -/
def itemStarted : Option (Reducer × List NativeEvent) := do
  let item ← params.get "item"
  let itemType ← item.str "type"
  let run ← run
  let id ← item.str "id"
  if itemType = "commandExecution" then
    let command ← item.str "command"
    let handle ← ProviderCommandHandle.new run id
    return ({ reducer with commands := reducer.commands.set handle command }, [])
  else if itemType = "agentMessage" ∨ itemType = "fileChange" then return (reducer, [])
  else return (reducer, [.unknown (some run) itemType native])

/-- `item/agentMessage/delta`. -/
def messageDelta : Option (Reducer × List NativeEvent) := do
  let run ← run
  let chunk ← params.str "delta"
  return (reducer, [⟨.messageDelta run chunk, native⟩])

/-- `item/commandExecution/outputDelta`. -/
def commandOutputDelta : Option (Reducer × List NativeEvent) := do
  let run ← run
  let itemId ← params.str "itemId"
  let chunk ← params.str "delta"
  let handle ← ProviderCommandHandle.new run itemId
  let commandText ← reducer.commands.find handle
  return (reducer, [⟨.commandOutputDelta run handle commandText chunk, native⟩])

/-- `item/fileChange/outputDelta`. -/
def fileChangeOutputDelta (method : String) : Option (Reducer × List NativeEvent) := do
  let run ← run
  let _ ← params.str "itemId"
  let _ ← params.str "delta"
  return (reducer, [.unknown (some run) method native])

/-- A completed `agentMessage`. -/
def messageCompleted (item : Value) (run : ProviderRunHandle) :
    Option (Reducer × List NativeEvent) := do
  let text ← item.str "text"
  return (reducer, [⟨.messageCompleted run text, native⟩])

/-- The mutation of one change of a completed `fileChange`. -/
def fileMutation (run : ProviderRunHandle) (change : Value) : Option NativeEvent := do
  let path ← change.str "path"
  return ⟨.fileMutation run path ((change.str "diff").getD "file changed"), native⟩

/-- A completed `fileChange`. -/
def fileChangeCompleted (item : Value) (run : ProviderRunHandle) :
    Option (Reducer × List NativeEvent) := do
  let changes ← (item.get "changes").bind Value.asArray
  let mutations ← changes.mapM (fileMutation native run)
  return (reducer, mutations)

/-- A completed `commandExecution`. The command is forgotten also where its
completion does not repeat its text. -/
def commandCompleted (item : Value) (run : ProviderRunHandle) (itemId method : String) :
    Option (Reducer × List NativeEvent) := do
  let handle ← ProviderCommandHandle.new run itemId
  let commandText ← reducer.commands.find handle
  let reducer' := { reducer with commands := reducer.commands.remove handle }
  if item.str "command" ≠ some commandText then
    return (reducer', [.malformed (some run) method native])
  let output := (item.str "aggregatedOutput").getD ""
  return (reducer', [⟨.commandOutputCompleted run handle commandText output, native⟩])

/-- `completed_item`. -/
def completedItem (method : String) : Option (Reducer × List NativeEvent) := do
  let run ← run
  let item ← params.get "item"
  let itemId ← item.str "id"
  let itemType ← item.str "type"
  if itemType = "agentMessage" then reducer.messageCompleted native item run
  else if itemType = "fileChange" then reducer.fileChangeCompleted native item run
  else if itemType = "commandExecution" then
    reducer.commandCompleted native item run itemId method
  else return (reducer, [.unknown (some run) itemType native])

/-- `item/commandExecution/requestApproval`. -/
def commandApproval : Option (Reducer × List NativeEvent) := do
  let request ← request
  let summary := ((params.str "reason").or (params.str "command")).getD
    "Codex requests command approval"
  return (reducer, [⟨.approvalRequested request summary, native⟩])

/-- `item/fileChange/requestApproval`. -/
def fileApproval : Option (Reducer × List NativeEvent) := do
  let request ← request
  let summary := (params.str "reason").getD "Codex requests file-change approval"
  return (reducer, [⟨.approvalRequested request summary, native⟩])

/-- `item/tool/requestUserInput`. A prompt without text is malformed. -/
def userInput : Option (Reducer × List NativeEvent) := do
  let request ← request
  let questions ← (params.get "questions").bind Value.asArray
  let prompts ← questions.mapM fun question => question.str "question"
  let prompt := "\n".intercalate prompts
  if prompt = "" then none
  else return (reducer, [⟨.userInputRequested request prompt, native⟩])

/-- The state in which `turn/completed` leaves a run. -/
def terminalState (status : Option String) : Option HarnessRunTerminal :=
  match status with
  | some "completed" => some .completed
  | some "interrupted" => some .interrupted
  | some "failed" => some (.failed "Codex turn failed")
  | _ => none

/-- `turn/completed`. The run is retired also where its status is malformed. -/
def turnCompleted (method : String) : Option (Reducer × List NativeEvent) := do
  let run ← run
  match terminalState ((params.get "turn").bind fun turn => turn.str "status") with
  | some state => return (reducer.retireRun run, [⟨.runTerminal run state, native⟩])
  | none => return (reducer.retireRun run, [.malformed (some run) method native])

/-- The branch of a method. -/
def reduceMethod (method : String) : Option (Reducer × List NativeEvent) :=
  match method with
  | "item/started" => reducer.itemStarted params run native
  | "item/agentMessage/delta" => reducer.messageDelta params run native
  | "item/commandExecution/outputDelta" => reducer.commandOutputDelta params run native
  | "item/fileChange/outputDelta" => reducer.fileChangeOutputDelta params run native method
  | "item/completed" => reducer.completedItem params run native method
  | "item/commandExecution/requestApproval" => reducer.commandApproval params request native
  | "item/fileChange/requestApproval" => reducer.fileApproval params request native
  | "item/tool/requestUserInput" => reducer.userInput params request native
  | "turn/completed" => reducer.turnCompleted params run native method
  | _ => some (reducer, [.unknown run method native])

end Messages

/-- `reduce`. A response has no method and is not for the reducer. -/
def reduce (reducer : Reducer) (raw : String) (message : Value)
    (run : Option ProviderRunHandle) (request : Option ProviderRequestHandle) :
    Reducer × List NativeEvent :=
  let params := (message.get "params").getD .null
  match message.str "method" with
  | some method =>
      (reducer.reduceMethod params run request raw method).getD
        (reducer, [.malformed run method raw])
  | none =>
      if (message.get "id").isSome then (reducer, [])
      else (reducer, [.unknown run "codex.missing-method" raw])

end Reducer

end YakShed.Codex
