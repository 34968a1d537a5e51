import Playscript.Cast
import Playscript.Fault
import Playscript.Json.Fields

/-!
A cast from JSON: a list of speakers. In a file every speaker has a name that is not empty.
-/

namespace Playscript

open Json (Fields)

def Variant.ofJson? (json : Json) : Option Variant := do
  let fields ← json.fields? ["name", "asset"] 2
  some {
    name := ← fields.required "name" Json.string?
    asset := ← fields.required "asset" Json.string? }

def Speaker.ofJson? (json : Json) : Option Speaker := do
  let fields ← json.fields? ["name", "hasPortrait", "variants"] 1
  some {
    name := ← fields.required "name" Json.string?
    hasPortrait := ← fields.optional "hasPortrait" true Json.bool?
    variants := ← fields.optional "variants" [] (Json.listOf? Variant.ofJson?) }

namespace Cast

def ofJson? (json : Json) : Option Cast :=
  (json.listOf? Speaker.ofJson?).map Cast.mk

def ofText (wording : Wording) (text : String) : Except Fault Cast :=
  match (Json.parse? text).bind ofJson? with
  | none => .error (.castMalformed (wording.noCast text))
  | some cast =>
    match cast.speakers.findIdx? fun speaker => speaker.name.isEmpty with
    | some index => .error (.castUnnamed index)
    | none => .ok cast

end Cast
end Playscript
