import Ak1Driver.Lib.Reader
import Ak1Driver.Lib.Utf16

/-! The system's reading of a dialog template: a DLGTEMPLATE with the strings
behind it, and as many DLGITEMTEMPLATEs as it says, none with creation data.
Words are read in the order they have in memory. -/

namespace Ak1Driver.Panel
open Lib Lib.Reader

/-- A class that the system knows by ordinal, or one registered under a name. -/
inductive WindowClass where
  | button
  | edit
  | static
  | listBox
  | scrollBar
  | comboBox
  | named (name : String)
  deriving DecidableEq, Repr

/-- A name, or the ordinal of a resource. -/
inductive Resource where
  | ordinal (number : UInt16)
  | name (text : String)
  deriving DecidableEq, Repr

structure Control where
  style : UInt32
  extendedStyle : UInt32
  rect : Vector Int16 4
  id : UInt16
  windowClass : WindowClass
  title : Resource
  deriving DecidableEq, Repr

structure Dialog where
  style : UInt32
  extendedStyle : UInt32
  rect : Vector Int16 4
  menu : Option Resource
  windowClass : Option Resource
  title : String
  /-- The point size and the typeface. -/
  font : Option (UInt16 × String)
  controls : List Control
  deriving DecidableEq, Repr

abbrev dsSetFont : UInt32 := 0x40

/-- The words of a buffer in memory. -/
def wordsOf (buffer : List UInt32) : List UInt16 := buffer.flatMap fun (value : UInt32) => [value.toUInt16, (value >>> 16).toUInt16]

def readDword : Reader UInt16 UInt32 := do
  let low ← next
  let high ← next
  pure (low.toUInt32 ||| high.toUInt32 <<< 16)

def readShort : Reader UInt16 Int16 := do
  let word ← next
  pure word.toInt16

def readRect : Reader UInt16 (Vector Int16 4) := do
  let x ← readShort
  let y ← readShort
  let cx ← readShort
  let cy ← readShort
  pure #v[x, y, cx, cy]

/-- A text up to its NUL. -/
def readString : Reader UInt16 String := do
  let units ← upTo 0
  give (Utf16.decode units)

def readResource : Reader UInt16 Resource := do
  let first ← peek
  if first = 0xffff then
    let _ ← next
    let number ← next
    pure (.ordinal number)
  else
    let text ← readString
    pure (.name text)

/-- A resource, or a zero word for none. -/
def readOptional : Reader UInt16 (Option Resource) := do
  let first ← peek
  if first = 0 then
    let _ ← next
    pure none
  else
    let resource ← readResource
    pure (some resource)

def knownClass : Resource → Option WindowClass
  | .ordinal 0x80 => some .button
  | .ordinal 0x81 => some .edit
  | .ordinal 0x82 => some .static
  | .ordinal 0x83 => some .listBox
  | .ordinal 0x84 => some .scrollBar
  | .ordinal 0x85 => some .comboBox
  | .ordinal _ => none
  | .name name => some (.named name)

/-- An item begins on a DWORD boundary and ends with the size of its creation data. -/
def readControl : Reader UInt16 Control := do
  align 2
  let style ← readDword
  let extendedStyle ← readDword
  let rect ← readRect
  let id ← next
  let kind ← readResource
  let windowClass ← give (knownClass kind)
  let title ← readResource
  let creation ← next
  give (if creation = 0 then some { style, extendedStyle, rect, id, windowClass, title } else none)

def readFont (style : UInt32) : Reader UInt16 (Option (UInt16 × String)) :=
  if style &&& dsSetFont ≠ 0 then do
    let pointSize ← next
    let typeface ← readString
    pure (some (pointSize, typeface))
  else pure none

def readDialog : Reader UInt16 Dialog := do
  let style ← readDword
  let extendedStyle ← readDword
  let count ← next
  let rect ← readRect
  let menu ← readOptional
  let windowClass ← readOptional
  let title ← readString
  let font ← readFont style
  let controls ← times readControl count.toNat
  pure { style, extendedStyle, rect, menu, windowClass, title, font, controls }

end Ak1Driver.Panel
