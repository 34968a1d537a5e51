/-!
The cast: who speaks in a script and how they look.
-/

namespace Playscript

/-- One look of a speaker. The asset is what a host draws; nothing here looks into it. -/
structure Variant where
  name : String
  asset : String
  deriving DecidableEq, Repr, Inhabited

structure Speaker where
  name : String
  hasPortrait : Bool := true
  variants : List Variant := []
  deriving DecidableEq, Repr, Inhabited

structure Portrait where
  speaker : String
  variant : String
  asset : String
  deriving DecidableEq, Repr, Inhabited

namespace Speaker

def portraitOf (speaker : Speaker) (variant : Variant) : Portrait :=
  ⟨speaker.name, variant.name, variant.asset⟩

/-- The look of this name, or else the first look. The empty name finds nothing. -/
def variant? (speaker : Speaker) (name : String) : Option Variant :=
  if name.isEmpty then none
  else (speaker.variants.find? fun variant => variant.name == name).or speaker.variants.head?

def portrait? (speaker : Speaker) (variantName : String) : Option Portrait :=
  (speaker.variant? variantName).map speaker.portraitOf

end Speaker

/-- What a performance asks of its cast: who goes by a name, and how a speaker looks. -/
structure CastLookup where
  find? : String → Option Speaker
  portrait? : Speaker → String → Option Portrait := Speaker.portrait?

def CastLookup.nobody : CastLookup where
  find? _ := none

structure Cast where
  speakers : List Speaker := []
  deriving DecidableEq, Repr, Inhabited

namespace Cast

def find? (cast : Cast) (name : String) : Option Speaker :=
  if name.isEmpty then none else cast.speakers.find? fun speaker => speaker.name == name

def lookup (cast : Cast) : CastLookup where
  find? := cast.find?

instance : Coe Cast CastLookup := ⟨lookup⟩

end Cast
end Playscript
