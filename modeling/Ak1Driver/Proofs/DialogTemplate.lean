import Ak1Driver.Panel.Dialog
import Ak1Driver.Panel.Template
import Mathlib.Algebra.Ring.Nat

/-! Dialog templates read back. Every part of a template is read as it was laid
out wherever it stands, so the items follow by induction, each at the position
that those before it leave. -/

namespace Ak1Driver.Panel
open Lib Lib.Reader

section Words

theorem joined_toNat (low high : UInt16) : (low.toUInt32 ||| high.toUInt32 <<< 16).toNat = low.toNat + 2 ^ 16 * high.toNat := by
  have small := low.toNat_lt
  have large := high.toNat_lt
  have shifted : (high.toUInt32 <<< 16).toNat = 2 ^ 16 * high.toNat := by
    rw [UInt32.toNat_shiftLeft, UInt16.toNat_toUInt32]
    change high.toNat <<< 16 % 2 ^ 32 = _
    rw [Nat.shiftLeft_eq, Nat.mul_comm]
    exact Nat.mod_eq_of_lt (by omega)
  rw [UInt32.toNat_or, shifted, UInt16.toNat_toUInt32, Nat.or_comm, ← Nat.two_pow_add_eq_or_of_lt small, Nat.add_comm]

theorem low_joined (low high : UInt16) : (low.toUInt32 ||| high.toUInt32 <<< 16).toUInt16 = low := by
  have small := low.toNat_lt
  apply UInt16.toNat_inj.mp
  rw [UInt32.toNat_toUInt16, joined_toNat]
  omega

theorem high_half (value : UInt32) : (value >>> 16).toUInt16.toNat = value.toNat / 2 ^ 16 := by
  have inside := value.toNat_lt
  rw [UInt32.toNat_toUInt16, UInt32.toNat_shiftRight]
  change value.toNat >>> 16 % 2 ^ 16 = _
  rw [Nat.shiftRight_eq_div_pow]
  omega

theorem high_joined (low high : UInt16) : ((low.toUInt32 ||| high.toUInt32 <<< 16) >>> 16).toUInt16 = high := by
  have small := low.toNat_lt
  apply UInt16.toNat_inj.mp
  rw [high_half, joined_toNat]
  omega

theorem joined_halves (value : UInt32) : value.toUInt16.toUInt32 ||| (value >>> 16).toUInt16.toUInt32 <<< 16 = value := by
  apply UInt32.toNat_inj.mp
  rw [joined_toNat, high_half, UInt32.toNat_toUInt16]
  omega

/-- In memory a repacked list is the list, with a padding word if its length is odd. -/
theorem wordsOf_repack (words : List UInt16) :
    ∃ padding, wordsOf (Template.repack words) = words ++ padding ∧ padding.length ≤ 1 := by
  fun_induction Template.repack words with
  | case1 => exact ⟨[], rfl, Nat.zero_le _⟩
  | case2 low =>
    refine ⟨[0], ?_, Nat.le_refl _⟩
    simp only [wordsOf, List.flatMap_cons, List.flatMap_nil, low_joined, high_joined]
    rfl
  | case3 low high rest ih =>
    obtain ⟨padding, same, short⟩ := ih
    refine ⟨padding, ?_, short⟩
    rw [wordsOf, List.flatMap_cons, low_joined, high_joined]
    exact congrArg (low :: high :: ·) same

end Words
section Fields
variable {position : Nat}

def dwordWords (value : UInt32) : List UInt16 := [value.toUInt16, (value >>> 16).toUInt16]

def rectWords (rect : Vector Int16 4) : List UInt16 := rect.toList.map (·.toUInt16)

def stringWords (text : String) : List UInt16 := Utf16.encode text ++ [0]

def classWords : Class → List UInt16
  | .button => [0xffff, 0x0080]
  | .static => [0xffff, 0x0082]
  | .comboBox => [0xffff, 0x0085]
  | .named name => stringWords name

/-- A text that can be terminated. -/
def Terminable (text : String) : Prop := Char.ofNat 0 ∉ text.toList

/-- A text that can be told from an ordinal. -/
def Nominal (text : String) : Prop := Terminable text ∧ text.toList.head? ≠ some (Char.ofNat 0xffff)

theorem dword_reads (value : UInt32) : Reads readDword position (dwordWords value) value := by
  have joined : Reads readDword position (dwordWords value) _ :=
    (next_reads value.toUInt16).bind (Reads.bind (next_reads (value >>> 16).toUInt16) (Reads.pure _))
  rwa [joined_halves] at joined

theorem short_reads (value : Int16) : Reads readShort position [value.toUInt16] value :=
  (next_reads value.toUInt16).map UInt16.toInt16

theorem rect_reads (rect : Vector Int16 4) : Reads readRect position (rectWords rect) rect := by
  have whole : rect = #v[rect[0], rect[1], rect[2], rect[3]] := by
    ext channel inside
    match channel, inside with
    | 0, _ => rfl
    | 1, _ => rfl
    | 2, _ => rfl
    | 3, _ => rfl
  rw [whole]
  apply (short_reads rect[0]).bind
  apply (short_reads rect[1]).bind
  apply (short_reads rect[2]).bind
  exact (short_reads rect[3]).bind (Reads.pure _)

theorem string_reads {text : String} (terminable : Terminable text) : Reads readString position (stringWords text) text := by
  have clean : (0 : UInt16) ∉ Utf16.encode text := fun member => terminable (Utf16.nul_of_mem member)
  rw [← List.append_nil (stringWords text)]
  apply (upTo_reads clean).bind
  rw [Utf16.decode_encode]
  exact give_reads text

instance (text : String) : Decidable (Terminable text) := inferInstanceAs (Decidable (_ ∉ _))

instance (text : String) : Decidable (Nominal text) := inferInstanceAs (Decidable (_ ∧ _))

/-- What a text does not begin with, the words of it do not begin with. -/
theorem stringWords_head {text : String} (nominal : Nominal text) :
    ∃ first rest, stringWords text = first :: rest ∧ first ≠ 0xffff := by
  cases units : Utf16.encode text with
  | nil =>
    refine ⟨0, [], ?_, by decide⟩
    rw [stringWords, units]
    rfl
  | cons first rest =>
    refine ⟨first, rest ++ [0], ?_, ?_⟩
    · rw [stringWords, units]
      rfl
    · rintro rfl
      apply nominal.2
      have begins : (Utf16.encode text).head? = some 0xffff := by rw [units, List.head?_cons]
      have code := Utf16.head_of_encode (Or.inr (by decide)) begins
      obtain ⟨char, head, same⟩ := Option.map_eq_some_iff.mp code
      rw [head, ← Char.ofNat_toNat char, same]
      rfl

theorem ordinal_reads (number : UInt16) : Reads readResource position [0xffff, number] (.ordinal number) := by
  apply Reads.peek
  rw [if_pos rfl]
  apply (next_reads (0xffff : UInt16)).bind
  exact (next_reads number).map Resource.ordinal

theorem name_reads {text : String} (nominal : Nominal text) : Reads readResource position (stringWords text) (.name text) := by
  obtain ⟨first, rest, words, other⟩ := stringWords_head nominal
  have read := @string_reads position text nominal.1
  rw [words] at read ⊢
  apply Reads.peek
  rw [if_neg other]
  exact read.map Resource.name

theorem absent_reads : Reads readOptional position [0] none := by
  apply Reads.peek
  rw [if_pos rfl]
  exact (next_reads (0 : UInt16)).map fun _ => none

/-- The class as the system knows it. -/
def Class.known : Class → WindowClass
  | .button => .button
  | .static => .static
  | .comboBox => .comboBox
  | .named name => .named name

/-- A class that can be told from an ordinal if it has a name. -/
def Class.Nominal : Class → Prop
  | .named name => Panel.Nominal name
  | _ => True

theorem class_reads {kind : Class} (nominal : kind.Nominal) :
    ∃ resource, Reads readResource position (classWords kind) resource ∧ knownClass resource = some kind.known := by
  cases kind with
  | button => exact ⟨_, ordinal_reads 0x80, rfl⟩
  | static => exact ⟨_, ordinal_reads 0x82, rfl⟩
  | comboBox => exact ⟨_, ordinal_reads 0x85, rfl⟩
  | named name => exact ⟨_, name_reads nominal, rfl⟩

theorem font_reads {style : UInt32} (fonted : style &&& dsSetFont ≠ 0) (pointSize : UInt16) {font : String}
    (terminable : Terminable font) :
    Reads (readFont style) position ([pointSize] ++ stringWords font) (some (pointSize, font)) := by
  rw [readFont, if_pos fonted]
  apply (next_reads pointSize).bind
  exact (string_reads terminable).map fun typeface => some (pointSize, typeface)

end Fields
section Items
variable {position : Nat}

/-- What brings an item to a DWORD boundary. -/
def padding (position : Nat) : List UInt16 := if position % 2 = 1 then [0] else []

def itemWords (item : Item) : List UInt16 :=
  dwordWords (wsChild ||| wsVisible ||| item.style) ++ (dwordWords 0 ++ (rectWords item.rect ++
    ([item.id] ++ (classWords item.kind ++ (stringWords item.text ++ [0])))))

/-- The control that an item asks for. -/
def Item.control (item : Item) : Control :=
  { style := wsChild ||| wsVisible ||| item.style
    extendedStyle := 0
    rect := item.rect
    id := item.id
    windowClass := item.kind.known
    title := .name item.text }

structure Item.Plain (item : Item) : Prop where
  kind : item.kind.Nominal
  text : Nominal item.text

theorem control_reads {item : Item} (plain : item.Plain) :
    Reads readControl position (padding position ++ itemWords item) item.control := by
  have aligned : (padding position).length = (2 - position % 2) % 2 := by
    rw [padding]
    split <;> simp only [List.length_cons, List.length_nil] <;> omega
  apply (align_reads aligned).bind
  apply (dword_reads (wsChild ||| wsVisible ||| item.style)).bind
  apply (dword_reads 0).bind
  apply (rect_reads item.rect).bind
  apply (next_reads item.id).bind
  obtain ⟨resource, read, known⟩ := class_reads plain.kind
  apply read.bind
  rw [← List.nil_append (stringWords item.text ++ [0]), known]
  apply (give_reads item.kind.known).bind
  apply (name_reads plain.text).bind
  rw [← List.append_nil [(0 : UInt16)]]
  apply (next_reads (0 : UInt16)).bind
  rw [if_pos rfl]
  exact give_reads _

/-- The items one after the other, each on a boundary, from a position on. -/
def laidOut (position : Nat) : List Item → List UInt16
  | [] => []
  | item :: items =>
    let words := padding position ++ itemWords item
    words ++ laidOut (position + words.length) items

theorem controls_read {items : List Item} (plain : ∀ item ∈ items, item.Plain) :
    Reads (times readControl items.length) position (laidOut position items) (items.map Item.control) := by
  induction items generalizing position with
  | nil => exact times_zero readControl
  | cons item items ih =>
    apply times_succ (control_reads (plain item List.mem_cons_self))
    exact ih fun later member => plain later (List.mem_cons_of_mem _ member)

end Items
section Layout

/-- The header of a template for so many items. -/
def headerWords (title : String) (style : UInt32) (font : String) (pointSize : UInt16) (cx cy : Int16) (count : UInt16) :
    List UInt16 :=
  dwordWords style ++ (dwordWords 0 ++ ([count] ++ ([0, 0, cx.toUInt16, cy.toUInt16] ++ ([0] ++ ([0] ++
    (stringWords title ++ ([pointSize] ++ stringWords font)))))))

theorem new_words (title : String) (style : UInt32) (font : String) (pointSize : UInt16) (cx cy : Int16) :
    Template.new title style font pointSize cx cy = ⟨headerWords title style font pointSize cx cy 0, 0⟩ := by
  simp only [Template.new, Template.dword, Template.shorts, Template.string, Template.extend, headerWords, dwordWords,
    stringWords, List.append_assoc, List.nil_append]
  rfl

/-- An item is added behind the others, and counted in the header. -/
theorem item_words (template : Template) (item : Item) :
    template.item item.kind item.text item.id item.style item.rect =
      ⟨(template.words ++ (padding template.words.length ++ itemWords item)).set itemCountWord (template.items + 1),
        template.items + 1⟩ := by
  have aligned : (if template.words.length % 2 = 1 then template.extend [0] else template) =
      template.extend (padding template.words.length) := by
    rw [padding]
    split
    · rfl
    · rw [Template.extend, List.append_nil]
  have classed : ∀ template : Template, template.windowClass item.kind = template.extend (classWords item.kind) := by
    intro template
    cases item.kind <;> rfl
  simp only [Template.item, aligned, classed]
  simp only [Template.dword, Template.shorts, Template.string, Template.extend, itemWords, dwordWords, rectWords, stringWords,
    List.append_assoc]

theorem withItems_words (template : Template) (items : List Item) (counted : itemCountWord < template.words.length)
    (known : template.words[itemCountWord]? = some template.items) :
    (template.withItems items).words =
      template.words.set itemCountWord (template.items + UInt16.ofNat items.length) ++ laidOut template.words.length items := by
  induction items generalizing template with
  | nil =>
    have same : template.words.set itemCountWord (template.items + UInt16.ofNat 0) = template.words := by
      have held := (List.getElem?_eq_some_iff.mp known).2
      rw [← held]
      change template.words.set itemCountWord (_ + 0) = _
      rw [UInt16.add_zero, List.set_getElem_self]
    rw [List.length_nil, same, laidOut, List.append_nil]
    rfl
  | cons item items ih =>
    have count : template.items + 1 + UInt16.ofNat items.length = template.items + UInt16.ofNat (items.length + 1) := by
      rw [UInt16.ofNat_add, UInt16.add_assoc, UInt16.add_comm 1]
      rfl
    have added := item_words template item
    have later := ih (template.item item.kind item.text item.id item.style item.rect)
      (by rw [added, List.length_set, List.length_append]; omega)
      (by rw [added, List.getElem?_set_self (by rw [List.length_append]; omega)])
    rw [Template.withItems, List.foldl_cons]
    apply later.trans
    rw [added, List.set_set, List.length_set, List.set_append_left _ _ counted, count, List.append_assoc, List.length_append]
    rfl

/-- All of a dialog's words: the header with the number of items, and the items. -/
theorem dialog_words (title : String) (style : UInt32) (font : String) (pointSize : UInt16) (cx cy : Int16) (items : List Item) :
    let header := headerWords title style font pointSize cx cy (UInt16.ofNat items.length)
    ((Template.new title style font pointSize cx cy).withItems items).words = header ++ laidOut header.length items := by
  have begun := withItems_words (Template.new title style font pointSize cx cy) items
    (by rw [new_words]; exact Nat.lt_of_sub_pos (Nat.succ_pos _)) (by rw [new_words]; rfl)
  have set : (headerWords title style font pointSize cx cy 0).set itemCountWord (0 + UInt16.ofNat items.length) =
      headerWords title style font pointSize cx cy (UInt16.ofNat items.length) := by
    rw [UInt16.zero_add]
    rfl
  have length := congrArg List.length set
  rw [List.length_set] at length
  rw [begun, new_words]
  dsimp only
  rw [set, length]

theorem dialog_reads {title font : String} {style : UInt32} (fonted : style &&& dsSetFont ≠ 0) (pointSize : UInt16)
    (cx cy : Int16) {items : List Item} (titled : Terminable title) (typeface : Terminable font)
    (few : items.length < 65536) (plain : ∀ item ∈ items, item.Plain) :
    let header := headerWords title style font pointSize cx cy (UInt16.ofNat items.length)
    Reads readDialog 0 (header ++ laidOut header.length items)
      { style
        extendedStyle := 0
        rect := #v[0, 0, cx, cy]
        menu := none
        windowClass := none
        title
        font := some (pointSize, font)
        controls := items.map Item.control } := by
  intro header
  have count : (UInt16.ofNat items.length).toNat = items.length := UInt16.toNat_ofNat_of_lt' few
  have rect : ∀ position, Reads readRect position [0, 0, cx.toUInt16, cy.toUInt16] #v[0, 0, cx, cy] :=
    fun position => @rect_reads position #v[0, 0, cx, cy]
  simp only [header, headerWords, List.append_assoc]
  apply (dword_reads style).bind
  apply (dword_reads 0).bind
  apply (next_reads (UInt16.ofNat items.length)).bind
  apply (rect _).bind
  apply absent_reads.bind
  apply absent_reads.bind
  apply (string_reads titled).bind
  rw [← List.append_assoc [pointSize]]
  apply (font_reads fonted pointSize typeface).bind
  rw [count]
  refine Reads.at ?_ ((controls_read plain).map _)
  simp only [List.length_append]
  omega

end Layout

/-- A dialog template reads back as what it was built from, and fills its buffer
but for a word. -/
theorem build_reads_back {title font : String} {style : UInt32} (fonted : style &&& dsSetFont ≠ 0) (pointSize : UInt16)
    (cx cy : Int16) {items : List Item} (titled : Terminable title) (typeface : Terminable font)
    (few : items.length < 65536) (plain : ∀ item ∈ items, item.Plain) :
    let memory := wordsOf ((Template.new title style font pointSize cx cy).withItems items).build
    ∃ left, readDialog ⟨0, memory⟩ =
        some ({ style
                extendedStyle := 0
                rect := #v[0, 0, cx, cy]
                menu := none
                windowClass := none
                title
                font := some (pointSize, font)
                controls := items.map Item.control }, left) ∧
      left.position + left.rest.length = memory.length ∧ left.rest.length ≤ 1 := by
  obtain ⟨unused, whole, short⟩ := wordsOf_repack ((Template.new title style font pointSize cx cy).withItems items).words
  have read := dialog_reads fonted pointSize cx cy titled typeface few plain unused
  rw [Template.build, whole, dialog_words]
  refine ⟨_, read, ?_, short⟩
  dsimp only
  rw [Nat.zero_add, ← List.length_append]

/-- A button behind a text of odd length, and a named control without a text. -/
def twoControls : List Item :=
  [⟨.button, "OK!", 1, 0x10, #v[4, -4, 50, 14]⟩, ⟨.named "msctls_trackbar32", "", 1000, 0, #v[0, 0, 100, 20]⟩]

theorem build_reads_back_two :
    ∃ left, readDialog ⟨0, wordsOf ((Template.new "AK1" 0x40 "Segoe UI" 9 200 100).withItems twoControls).build⟩ =
        some (⟨0x40, 0, #v[0, 0, 200, 100], none, none, "AK1", some (9, "Segoe UI"), twoControls.map Item.control⟩, left) ∧
      left.rest.length ≤ 1 := by
  have nominal : ∀ text ∈ ["OK!", "msctls_trackbar32", ""], Nominal text := by decide +kernel
  have plain : ∀ item ∈ twoControls, item.Plain := by
    intro item member
    simp only [twoControls, List.mem_cons, List.not_mem_nil, or_false] at member
    rcases member with rfl | rfl
    · exact ⟨trivial, nominal _ (by decide)⟩
    · exact ⟨nominal _ (by decide), nominal _ (by decide)⟩
  obtain ⟨left, read, _, short⟩ := @build_reads_back "AK1" "Segoe UI" 0x40 (by decide) 9 200 100 _ (by decide +kernel)
    (by decide +kernel) (by decide) plain
  exact ⟨left, read, short⟩

end Ak1Driver.Panel
