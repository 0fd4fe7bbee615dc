import ColabPlatform.Ai.Clients
import ColabPlatform.Common.Text

/-!
# In-chat commands

`run_command`: the checks before the charge, and the branch of each command
once its credits are reserved.
-/

namespace ColabPlatform.Ai

open Foundation
open Billing (Uuid Timestamp)
open Common

/-- Decoded JSON, as far as it is told apart. -/
inductive Json where
  | list (items : List Json)
  | object (fields : List (String × Json))
  | text (value : String)
  | other

structure CommandRequest where
  roomId : Uuid
  userId : Option Uuid
  command : Command
  prompt : Option String := none
  n : Nat := 50
  now : Timestamp

/-- A call whose credits are reserved. -/
structure HeldCall where
  request : CommandRequest
  userId : Uuid
  tier : AiTier
  cost : Nat
  interactionId : Uuid
  reservationId : Uuid

def Command.text : Command → String
  | .summarizeChat => "summarize-chat"
  | .brainstorm => "brainstorm"
  | .palette => "palette"
  | .mockupImage => "mockup-image"
  | .mockupAudio => "mockup-audio"

def upsell : Failure := .http 402 (.insufficientCredits "premium" "https://app.colab.app/upgrade")

/-- `f"{score:.3f}"` of a score between 0 and 1 -/
def threeDecimals (score : Score) : String :=
  let thousandths := (score * 1000 + 1 / 2).floor.toNat
  let digits := toString (thousandths % 1000)
  toString (thousandths / 1000) ++ "." ++
    String.ofList (List.replicate (3 - digits.length) '0') ++ digits

section

variable (settings : AISettings)

/-- `_rate_limit` -/
def rateLimit (userId : Uuid) : AiM Unit := do
  let count ← orRaise (← ask (.countCall userId))
  if settings.commandRatePerMinute < count then
    throw (.http 429 (.text "Rate limit exceeded: max 10 AI commands per minute"))

/-- `_credit_cost` -/
def creditCost (command : Command) (tier : AiTier) : Nat :=
  match command, tier with
  | .mockupImage, .pro => settings.creditMockupImagePro
  | .mockupImage, .premium => settings.creditMockupImageBasic
  | .mockupAudio, .pro => settings.creditMockupAudioPro
  | .mockupAudio, .premium => settings.creditMockupAudioBasic
  | .summarizeChat, _ => settings.creditSummarizeChat
  | .brainstorm, _ => settings.creditBrainstorm
  | .palette, _ => settings.creditPalette

/-! ## Prompts -/

def transcriptLine (message : RoomMessage) : String :=
  if message.messageType = "text" then
    "[" ++ message.senderDisplayName ++ "]: " ++ message.body
  else
    "[" ++ message.senderDisplayName ++ "]: [" ++ message.messageType ++ "]"

/-- `_handle_summarize` -/
def handleSummarize (roomId : Uuid) (n : Nat) : AiM Completion := do
  let n := max 5 (min 200 n)
  let messages ← match (← ask (.messages roomId n)).body with
    | .ok messages => pure messages
    | .error _ => pure []
  let lines := messages.reverse.map transcriptLine
  let transcript := if lines = [] then "(no messages)" else join "\n" lines
  chatComplete settings
    [{ role := "system",
       content := "You are an assistant summarizing a creative collaboration chat. " ++
         "Summarize the following " ++ toString n ++ " messages into 3–5 bullet points covering: " ++
         "decisions made, action items, creative ideas raised, and any blockers. " ++
         "Be neutral. Do not editorialize. Output only the bullet list." },
     { role := "user", content := "---\n" ++ transcript ++ "\n---" }]
    settings.openaiModelText 800

/-- `_handle_brainstorm` -/
def handleBrainstorm (topic : String) (userId : Uuid) : AiM Completion := do
  let various := "various creative fields"
  let vocations ← match ← ask (.vocations userId) with
    | .response 200 vocations =>
        pure (if join ", " vocations = "" then various else join ", " vocations)
    | _ => pure various
  chatComplete settings
    [{ role := "system",
       content := "You are a creative collaborator. " ++
         "The two artists on this project specialize in: " ++ vocations ++ " and " ++ various ++
         ". Brainstorm 5–7 distinct creative ideas or angles on the following topic. " ++
         "Be specific and actionable. Keep each idea to 1–2 sentences." },
     { role := "user", content := "Topic: " ++ topic }]
    settings.openaiModelText 1000

/-- `_handle_palette` -/
def handlePalette (description : String) : AiM Completion :=
  chatComplete settings
    [{ role := "system",
       content := "You are a visual designer. Generate a color palette of exactly 5 colors " ++
         "that fits the following mood/concept. Output ONLY a JSON array of objects: " ++
         "[\x7b\"name\": \"...\", \"hex\": \"#RRGGBB\", \"usage_note\": \"...\"\x7d]. " ++
         "No prose outside the JSON." },
     { role := "user", content := "Concept: " ++ description }]
    settings.openaiModelPalette 300

/-! ## The end of a call -/

/-- Store how the interaction ended, give the credits back and raise. -/
def refuse {α : Type} (call : HeldCall) (change : InteractionChange) (reason : String)
    (status : Nat) (detail : String) : AiM α := do
  save [.updateInteraction call.interactionId change]
  releaseReservation call.reservationId reason
  throw (.http status (.text detail))

/-- Store that the interaction is completed and charge for it. -/
def complete (call : HeldCall) (completion : Completion) : AiM Unit := do
  save [.updateInteraction call.interactionId
    { status := some .completed
      inputTokens := some completion.inputTokens
      outputTokens := some completion.outputTokens
      completedAt := some call.request.now }]
  commitReservation call.reservationId

/-! ## Text commands -/

def runSummarize (call : HeldCall) : AiM Response := do
  let n := if call.request.n = 0 then 50 else call.request.n
  let completion ← try handleSummarize settings call.request.roomId n
    catch error =>
      refuse call { status := some .failed, failureReason := some (some error.text) }
        "openai_error" 500 "Summary generation failed. Credits refunded."
  if ← reaches (← scanText completion.content) settings.moderationBlockThreshold then
    refuse call { status := some .moderationBlocked } "moderation_output" 422
      "AI output blocked by moderation. Credits refunded."
  complete call completion
  return .text call.interactionId .summarizeChat completion.content
    (some completion.inputTokens) (some completion.outputTokens) call.cost

def runBrainstorm (call : HeldCall) : AiM Response := do
  let topic := strip (call.request.prompt.getD "")
  if topic.length < 3 then
    refuse call { status := some .failed } "invalid_input" 400
      "Topic must be at least 3 characters"
  let completion ← try handleBrainstorm settings topic call.userId
    catch error =>
      refuse call { status := some .failed, failureReason := some (some error.text) }
        "openai_error" 500 "Brainstorm failed. Credits refunded."
  complete call completion
  return .text call.interactionId .brainstorm completion.content none none call.cost

/-! ## Palette -/

/-- A decoded reply of five entries. -/
def fiveColors : Option Json → Bool
  | some (.list colors) => colors.length = 5
  | _ => false

def Json.textField (fields : List (String × Json)) (name : String) : Option String :=
  match (fields.find? fun field => field.1 = name).map Prod.snd with
  | some (.text value) => some value
  | _ => none

/-- `AIPaletteColor(**color)` -/
def Json.paletteColor : Json → Option AIPaletteColor
  | .object fields => do
      let name ← textField fields "name"
      let hex ← textField fields "hex"
      let usageNote ← textField fields "usage_note"
      return { name, hex, usageNote }
  | _ => none

/-- The colors of a decoded reply, if all of its entries are colors. -/
def paletteColors : Option Json → Option (List AIPaletteColor)
  | some (.list colors) => colors.mapM Json.paletteColor
  | _ => none

end

section

variable (settings : AISettings) (loads : String → Option Json)

/-- What the attempts have left: the last completion, and whether one was refused. -/
structure PaletteDraft where
  completion : Completion := { content := "", inputTokens := 0, outputTokens := 0 }
  refused : Bool := false

/-- The attempts that are left; a refused one is remembered also when a later one succeeds. -/
def paletteAttempts (description : String) (draft : PaletteDraft) : Nat → AiM PaletteDraft
  | 0 => return draft
  | left + 1 => do
      let completion ← handlePalette settings description
      if fiveColors (loads completion.content) then
        return { draft with completion }
      paletteAttempts description { completion, refused := true } left

def runPalette (call : HeldCall) : AiM Response := do
  let description := strip (call.request.prompt.getD "")
  if description = "" then
    refuse call { status := some .failed } "invalid_input" 400
      "Description is required for /palette"
  let draft ← paletteAttempts settings loads description {} 2
  if draft.completion.content = "" ∨ draft.refused then
    refuse call { status := some .failed } "palette_parse_error" 500
      "Palette generation failed. Credits refunded."
  complete call draft.completion
  -- the entries are checked only now, after the charge
  match paletteColors (loads draft.completion.content) with
  | some colors => return .palette call.interactionId colors call.cost
  | none => throw (.raised "ValidationError")

/-! ## Mockups -/

def runMockup (call : HeldCall) (kind : AssetKind) : AiM Response := do
  let prompt := strip (call.request.prompt.getD "")
  if prompt = "" then
    refuse call { status := some .failed } "invalid_input" 400
      ("Please include a prompt after `/" ++ call.request.command.text ++ "`")
  let assetId ← draw .asset
  save [.insertAsset
      { id := assetId, replicatePredictionId := "pending", kind, s3Key := "" },
    .updateInteraction call.interactionId { mockupAssetId := some assetId }]
  enqueue
    { interactionId := call.interactionId, assetId, kind, prompt, tier := call.tier }
  return .queued call.interactionId assetId (match kind with | .image => 45 | .audio => 30)

/-! ## The route -/

/-- The moderation of the prompt, before anything is generated. -/
def moderatePrompt (call : HeldCall) : AiM Unit := do
  let prompt := call.request.prompt.getD ""
  if prompt ≠ "" then
    let score ← moderateText prompt
    if settings.moderationPreGenThreshold ≤ score then
      refuse call
        { status := some .moderationBlocked
          failureReason :=
            some (some ("Pre-generation moderation score: " ++ threeDecimals score)) }
        "moderation_pre_gen" 422 "Prompt contains potentially unsafe content"

/-- The branch of the command. -/
def runBranch (call : HeldCall) : AiM Response :=
  match call.request.command with
  | .summarizeChat => runSummarize settings call
  | .brainstorm => runBrainstorm settings call
  | .palette => runPalette settings loads call
  | .mockupImage => runMockup call .image
  | .mockupAudio => runMockup call .audio

def runHeld (call : HeldCall) : AiM Response := do
  moderatePrompt settings call
  runBranch settings loads call

/-- `run_command` -/
def runCommand (request : CommandRequest) : AiM Response := do
  let userId ← getUserId request.userId
  rateLimit settings userId
  let roomId := some request.roomId
  let command := request.command
  match ← checkEntitlement userId with
  | none =>
      let id ← draw .interaction
      save [.insertInteraction
        { id, userId, roomId, command, costCredits := 0,
          status := .rejectedInsufficientCredits }]
      throw upsell
  | some tier =>
      let cost := creditCost settings command tier
      let id ← draw .interaction
      let interaction : AIInteraction :=
        { id, userId, roomId, command, costCredits := cost, status := .queued }
      match ← reserveCredits userId cost id with
      | none =>
          save [.insertInteraction { interaction with status := .rejectedInsufficientCredits }]
          throw upsell
      | some reservationId =>
          save [.insertInteraction
            { interaction with billingReservationId := some reservationId }]
          runHeld settings loads
            { request, userId, tier, cost, interactionId := id, reservationId }

end

end ColabPlatform.Ai
