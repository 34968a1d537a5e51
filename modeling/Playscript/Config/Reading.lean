import Playscript.Config
import Playscript.Json.Fields

/-!
A configuration from JSON. Every field may be left out; what is written must have its type.
-/

namespace Playscript

open Json (Fields)

def Columns.ofJson? (json : Json) : Option Columns := do
  let fields ← json.fields? ["address", "tag", "speaker", "body", "nextAddress", "visualVariant"] 0
  let standard : Columns := {}
  some {
    address := ← fields.optional "address" standard.address Json.count?
    tag := ← fields.optional "tag" standard.tag Json.count?
    speaker := ← fields.optional "speaker" standard.speaker Json.count?
    body := ← fields.optional "body" standard.body Json.count?
    jump := ← fields.optional "nextAddress" standard.jump Json.count?
    variant := ← fields.optional "visualVariant" standard.variant Json.count? }

def TagNames.ofJson? (json : Json) : Option TagNames := do
  let fields ← json.fields? ["speech", "narration", "branch", "terminate"] 0
  let standard : TagNames := {}
  some {
    speech := ← fields.optional "speech" standard.speech Json.string?
    narration := ← fields.optional "narration" standard.narration Json.string?
    branch := ← fields.optional "branch" standard.branch Json.string?
    terminate := ← fields.optional "terminate" standard.terminate Json.string? }

namespace Config

def fieldNames : List String :=
  ["columns", "fieldDelimiter", "lineDelimiter", "headerRowIndex", "minRequiredColumns", "tags",
    "defaultVariantName", "emptyField", "revealIntervalSecs", "autoPlayDelayAfterAudioSecs",
    "autoPlayTextSpeedMultiplier", "speakerLabelOpen", "speakerLabelClose", "bodyIndent"]

def ofJson? (json : Json) : Option Config := do
  let fields ← json.fields? fieldNames 0
  let standard : Config := {}
  some {
    columns := ← fields.optional "columns" standard.columns Columns.ofJson?
    fieldDelimiter := ← fields.optional "fieldDelimiter" standard.fieldDelimiter Json.char?
    lineDelimiter := ← fields.optional "lineDelimiter" standard.lineDelimiter Json.char?
    headerRow := ← fields.optional "headerRowIndex" standard.headerRow Json.count?
    minColumns := ← fields.optional "minRequiredColumns" standard.minColumns Json.count?
    tags := ← fields.optional "tags" standard.tags TagNames.ofJson?
    defaultVariant := ← fields.optional "defaultVariantName" standard.defaultVariant Json.string?
    emptyField := ← fields.optional "emptyField" standard.emptyField Json.string?
    revealInterval := ← fields.optional "revealIntervalSecs" standard.revealInterval Json.single?
    audioDelay := ← fields.optional "autoPlayDelayAfterAudioSecs" standard.audioDelay Json.single?
    textSpeed := ← fields.optional "autoPlayTextSpeedMultiplier" standard.textSpeed Json.single?
    labelOpen := ← fields.optional "speakerLabelOpen" standard.labelOpen Json.string?
    labelClose := ← fields.optional "speakerLabelClose" standard.labelClose Json.string?
    bodyIndent := ← fields.optional "bodyIndent" standard.bodyIndent Json.string? }

def ofText (wording : Wording) (text : String) : Except Fault Config :=
  match (Json.parse? text).bind ofJson? with
  | none => .error (.configMalformed (wording.noConfig text))
  | some config => config.validate.map fun () => config

end Config
end Playscript
