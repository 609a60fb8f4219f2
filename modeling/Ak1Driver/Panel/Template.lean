import Ak1Driver.Lib.Utf16

/-! In-memory dialog templates. -/

namespace Ak1Driver.Panel
open Lib

inductive Class where
  | button
  | static
  | comboBox
  | named (name : String)
  deriving DecidableEq, Repr

structure Template where
  words : List UInt16
  items : UInt16

/-- Index of `cdit` in DLGTEMPLATE, counted in 16-bit words. -/
abbrev itemCountWord : Nat := 4

abbrev wsChild : UInt32 := 0x40000000
abbrev wsVisible : UInt32 := 0x10000000

namespace Template

def extend (template : Template) (words : List UInt16) : Template := { template with words := template.words ++ words }

def dword (template : Template) (value : UInt32) : Template := template.extend [value.toUInt16, (value >>> 16).toUInt16]

def shorts (template : Template) (values : Vector Int16 4) : Template := template.extend (values.toList.map (·.toUInt16))

def string (template : Template) (text : String) : Template := template.extend (Utf16.encode text ++ [0])

def new (title : String) (style : UInt32) (font : String) (pointSize : UInt16) (cx cy : Int16) : Template :=
  let template : Template := { words := [], items := 0 }
  let template := template.dword style
  let template := template.dword 0
  let template := template.extend [0]
  let template := template.shorts #v[0, 0, cx, cy]
  -- No menu, the default dialog class.
  let template := template.extend [0, 0]
  let template := template.string title
  let template := template.extend [pointSize]
  template.string font

/-- Lays out a control's class, as an ordinal if the system knows it. -/
def windowClass (template : Template) : Class → Template
  | .button => template.extend [0xffff, 0x0080]
  | .static => template.extend [0xffff, 0x0082]
  | .comboBox => template.extend [0xffff, 0x0085]
  | .named name => template.string name

def item (template : Template) (kind : Class) (text : String) (id : UInt16) (style : UInt32) (rect : Vector Int16 4) :
    Template :=
  let template := if template.words.length % 2 = 1 then template.extend [0] else template
  let template := template.dword (wsChild ||| wsVisible ||| style)
  let template := template.dword 0
  let template := template.shorts rect
  let template := template.extend [id]
  let template := template.windowClass kind
  let template := template.string text
  -- No creation data.
  let template := template.extend [0]
  let items := template.items + 1
  { words := template.words.set itemCountWord items, items }

/-- Words in pairs, the second of a pair in the high half. -/
def repack : List UInt16 → List UInt32
  | [] => []
  | [low] => [low.toUInt32 ||| UInt16.toUInt32 0 <<< 16]
  | low :: high :: rest => (low.toUInt32 ||| high.toUInt32 <<< 16) :: repack rest

/-- The template in a DWORD-aligned buffer. -/
def build (template : Template) : List UInt32 := repack template.words

end Template

/-- What `Template.item` is given. -/
structure Item where
  kind : Class
  text : String
  id : UInt16
  style : UInt32
  rect : Vector Int16 4
  deriving DecidableEq, Repr

/-- The template with these items added in order. -/
def Template.withItems (template : Template) (items : List Item) : Template :=
  items.foldl (fun template item => template.item item.kind item.text item.id item.style item.rect) template

end Ak1Driver.Panel
