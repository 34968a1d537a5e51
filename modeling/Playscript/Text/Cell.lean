import Playscript.Text.Cell.Tables

/-!
The cells of a terminal that a cluster of characters takes. Most characters count for themselves.
Some are drawn together with what comes after them: a picture that is put together from several
takes the cells of its last part alone, and a letter that is put below another takes none. So the
characters are counted from the last to the first, each knowing what comes after it.
-/

namespace Playscript.Text

/-- What a character needs to know of the characters after it. -/
inductive CellContext where
  | plain
  | lineFeed
  | subjoinable
  | skinTone
  | picture
  | joined
  | joinedKeycap
  | joinedRegion (letters digits : Nat)
  | joinedLetter
  | pictureStyle
  | joinedPictureStyle
  | textStyle
  deriving DecidableEq, Repr, Inhabited

namespace Cell

def joiner : Nat := 0x200D

def textSelector : Nat := 0xFE0E

def pictureSelector : Nat := 0xFE0F

def keycap : Nat := 0x20E3

def coeng : Nat := 0x17D2

def beyyal : Nat := 0x17D8

/-- The flag whose region is spelled with tags, and the tag that ends the region. -/
def regionFlag : Nat := 0x1F3F4

def regionEnd : Nat := 0xE007F

def isRegionLetter (code : Nat) : Bool := 0xE0061 ≤ code && code ≤ 0xE007A

def isRegionDigit (code : Nat) : Bool := 0xE0030 ≤ code && code ≤ 0xE0039

def isSkinTone (code : Nat) : Bool := 0x1F3FB ≤ code && code ≤ 0x1F3FF

def isFlagLetter (code : Nat) : Bool := 0x1F1E6 ≤ code && code ≤ 0x1F1FF

/-- Pictures that are narrow when they are shown as text. Enclosed ideographs stay wide. -/
def hasNarrowStyle (code : Nat) : Bool :=
  pictures.has code && twoStyles.has code && !(0x1F200 ≤ code && code ≤ 0x1F2FF)

def alone (code : Nat) : Nat :=
  if code = 0x0A then 0
  else if code ≤ 0xA0 then 1
  else if code = beyyal then 3
  else if zeroWidth.has code then 0
  else if wide.has code then 2
  else 1

def contextOf (code : Nat) : CellContext :=
  if code = 0x0A then .lineFeed
  else if code ≤ 0xA0 then .plain
  else if code = pictureSelector then .pictureStyle
  else if code = textSelector then .textStyle
  else if subjoinable.has code then .subjoinable
  else if isSkinTone code then .skinTone
  else if pictures.has code then .picture
  else .plain

/-- A character whose style is asked for. When it cannot have the style nobody asks any more. -/
def styled (code : Nat) : CellContext → (Int × CellContext) ⊕ CellContext
  | .pictureStyle => if twoStyles.has code then .inl (2, .picture) else .inr .plain
  | .joinedPictureStyle => if twoStyles.has code then .inl (0, .picture) else .inr .plain
  | .textStyle => if hasNarrowStyle code then .inl (1, .plain) else .inr .plain
  | context => .inr context

/-- A region is named by three to six letters, or by three digits and up to four letters; it is read
from its end. -/
def spellsRegion (letters digits : Nat) : Bool :=
  digits = 3 || (digits = 0 && 3 ≤ letters)

/-- The cells that a character adds together with what comes after it. The sign before a subjoined
letter takes its cell back. -/
def together? (code : Nat) : CellContext → Option (Int × CellContext)
  | .lineFeed => if code = 0x0D then some (0, .plain) else none
  | .subjoinable =>
    if code = coeng then some (-1, .plain)
    else if code = joiner || ignorableMarks.has code then some (0, .subjoinable)
    else none
  | .skinTone =>
    if code = joiner then some (0, .joined)
    else if modifierBases.has code then some (0, .picture)
    else none
  | .picture => if code = joiner then some (0, .joined) else none
  | .joined =>
    if code = pictureSelector then some (0, .joinedPictureStyle)
    else if code = keycap then some (0, .joinedKeycap)
    else if code = regionEnd then some (0, .joinedRegion 0 0)
    else if isSkinTone code then some (0, .skinTone)
    else if isFlagLetter code then some (1, .joinedLetter)
    else if pictures.has code then some (0, .picture)
    else none
  | .joinedLetter => if isFlagLetter code then some (-1, .picture) else none
  | .joinedKeycap => if code = pictureSelector then some (0, .joinedPictureStyle) else none
  | .joinedRegion letters digits =>
    if isRegionLetter code && digits = 0 && letters < 6 then some (0, .joinedRegion (letters + 1) 0)
    else if isRegionDigit code && letters ≤ 4 && digits < 3 then
      some (0, .joinedRegion letters (digits + 1))
    else if code = regionFlag && spellsRegion letters digits then some (0, .picture)
    else none
  | .plain | .pictureStyle | .joinedPictureStyle | .textStyle => none

def before (code : Nat) (context : CellContext) : Int × CellContext :=
  match styled code context with
  | .inl counted => counted
  | .inr context => (together? code context).getD (alone code, contextOf code)

def count : List Char → Int × CellContext
  | [] => (0, .plain)
  | c :: rest =>
    let (later, context) := count rest
    let (cells, next) := before c.toNat context
    (cells + later, next)

end Cell

def cellWidth (cluster : List Char) : Nat := (Cell.count cluster).1.toNat

end Playscript.Text
