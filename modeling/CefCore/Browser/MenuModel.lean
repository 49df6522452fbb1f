import CefCore.Foundations.FirstMatch

/-!
# Context menus from the renderer

`CefMenuModelImpl::AddMenuItem` of `libcef/browser/menu_model_impl.cc` makes an item of a menu from an
item that a renderer has sent, with all its sub-menus. The item is put at the end of the menu. Its state
is set behind that, for the item that is found under its command id.

## Main results

* `sameItems_addMenuItems_iff`: when the menu shows what has been sent.

## Implementation notes

* The menu is used on the thread that has made it. The checks of debug builds are left out.
* What is not set here (accelerators, colors, fonts) is left out.
* `AddSubMenu` returns a menu that the item at the end refers to, and no other one does: adding to it is
  adding to the sub-menu of the item.
-/

namespace CefCore.Browser

open FirstMatch List

abbrev Label := List UInt16

inductive CustomContextMenuItemType where
  | option
  | checkableOption
  | group
  | separator
  | subMenu
  deriving DecidableEq

inductive CustomContextMenuItem where
  | mk (type : CustomContextMenuItemType) (label : Label) (action : UInt32) (enabled checked : Bool)
    (submenu : List CustomContextMenuItem)

/-- `cef_menu_item_type_t`. -/
inductive MenuItemType where
  | command
  | check
  | radio
  | separator
  | subMenu

/-- `CefMenuModelImpl::Item`. -/
structure MenuItem where
  type : MenuItemType
  commandId : Int
  label : Label
  groupId : Int
  submenu : Option (List MenuItem) := none
  enabled : Bool := true
  visible : Bool := true
  checked : Bool := false

/-- The items of a `CefMenuModelImpl`. -/
abbrev Menu := List MenuItem

def kSeparatorId : Int := -1

def kInvalidGroupId : Int := -1

/-- `static_cast<int>` of a number of 32 bits. -/
def staticCastInt (n : UInt32) : Int := n.toInt32.toInt

namespace Menu

variable (menu : Menu)

def appendItem (item : MenuItem) : Menu := menu ++ [item]

def addSeparator : Menu :=
  menu.appendItem { type := .separator, commandId := kSeparatorId, label := [], groupId := kInvalidGroupId }

def addItem (commandId : Int) (label : Label) : Menu :=
  menu.appendItem { type := .command, commandId, label, groupId := kInvalidGroupId }

def addCheckItem (commandId : Int) (label : Label) : Menu :=
  menu.appendItem { type := .check, commandId, label, groupId := kInvalidGroupId }

def addRadioItem (commandId : Int) (label : Label) (groupId : Int) : Menu :=
  menu.appendItem { type := .radio, commandId, label, groupId }

/-- `AddSubMenu`, and what is added to the sub-menu that it returns. -/
def addSubMenu (commandId : Int) (label : Label) (submenu : Menu) : Menu :=
  menu.appendItem
    { type := .subMenu, commandId, label, groupId := kInvalidGroupId, submenu := some submenu }

/-- `GetIndexOf`, with `none` for `kInvalidIndex`. -/
def getIndexOf (commandId : Int) : Option Nat :=
  menu.findIdx? fun item => item.commandId = commandId

def setEnabledAt (index : Option Nat) (enabled : Bool) : Menu :=
  match index with
  | some i => menu.modify i fun item => { item with enabled }
  | none => menu

def setEnabled (commandId : Int) (enabled : Bool) : Menu :=
  menu.setEnabledAt (menu.getIndexOf commandId) enabled

def setCheckedAt (index : Option Nat) (checked : Bool) : Menu :=
  match index with
  | some i => menu.modify i fun item => { item with checked }
  | none => menu

def setChecked (commandId : Int) (checked : Bool) : Menu :=
  menu.setCheckedAt (menu.getIndexOf commandId) checked

/-- The state of an item is set in `AddMenuItem`, behind the item itself. -/
def setState (commandId : Int) (type : CustomContextMenuItemType) (enabled checked : Bool) : Menu :=
  let menu := if !enabled && type ≠ .separator then menu.setEnabled commandId false else menu
  if checked && (type = .checkableOption || type = .group) then menu.setChecked commandId true
  else menu

end Menu

mutual

def addMenuItem (menu : Menu) : CustomContextMenuItem → Menu
  | .mk type label action enabled checked submenu =>
    let commandId := staticCastInt action
    let menu := match type with
      | .option => menu.addItem commandId label
      | .checkableOption => menu.addCheckItem commandId label
      | .group => menu.addRadioItem commandId label 0
      | .separator => menu.addSeparator
      | .subMenu => menu.addSubMenu commandId label (addMenuItems [] submenu)
    menu.setState commandId type enabled checked

/-- `AddMenuItem` for one item after another. -/
def addMenuItems (menu : Menu) : List CustomContextMenuItem → Menu
  | [] => menu
  | x :: xs => addMenuItems (addMenuItem menu x) xs

end

/-! ### What the conversion is to do -/

def CustomContextMenuItemType.converted : CustomContextMenuItemType → MenuItemType
  | .option => .command
  | .checkableOption => .check
  | .group => .radio
  | .separator => .separator
  | .subMenu => .subMenu

mutual

/-- An item of the menu is the one that the renderer has sent. A separator has neither a label nor an
id, and it is not disabled. -/
def SameItem : CustomContextMenuItem → MenuItem → Prop
  | .mk type label action enabled checked submenu, item =>
    item.type = type.converted ∧
    (if type = .separator then item.label = [] ∧ item.commandId = kSeparatorId
      else item.label = label ∧ item.commandId = staticCastInt action ∧ item.enabled = enabled) ∧
    item.checked = (checked && (type = .checkableOption || type = .group)) ∧
    (if type = .subMenu then ∃ items, item.submenu = some items ∧ SameItems submenu items
      else item.submenu = none)

/-- The items of a menu are those that the renderer has sent, in their order. -/
def SameItems : List CustomContextMenuItem → Menu → Prop
  | [], [] => True
  | x :: xs, item :: items => SameItem x item ∧ SameItems xs items
  | _, _ => False

end

def CustomContextMenuItem.commandId : CustomContextMenuItem → Int
  | .mk type _ action _ _ _ => if type = .separator then kSeparatorId else staticCastInt action

def CustomContextMenuItem.HasState : CustomContextMenuItem → Prop
  | .mk type _ _ enabled checked _ => (enabled = false ∧ type ≠ .separator) ∨
    (checked = true ∧ (type = .checkableOption ∨ type = .group))

mutual

/-- An item whose state is set has an id that is not one of `ids`, in its sub-menus as well. -/
def StateReachable (ids : List Int) : CustomContextMenuItem → Prop
  | .mk type label action enabled checked submenu =>
    ((CustomContextMenuItem.mk type label action enabled checked submenu).HasState →
      (CustomContextMenuItem.mk type label action enabled checked submenu).commandId ∉ ids) ∧
    (type = .subMenu → StatesReachable [] submenu)

/-- Each item whose state is set has an id that is not one of `ids`, and not the one of an item before
it, in the sub-menus as well. -/
def StatesReachable (ids : List Int) : List CustomContextMenuItem → Prop
  | [] => True
  | x :: xs => StateReachable ids x ∧ StatesReachable (ids ++ [x.commandId]) xs

end

/-! ### One step of the conversion -/

namespace Menu

variable (menu : Menu) (commandId : Int) (b : Bool)

lemma setEnabled_eq : menu.setEnabled commandId b =
    modifyFirst (fun item => item.commandId = commandId) ({ · with enabled := b }) menu :=
  modify_findIdx?_eq menu

lemma setChecked_eq : menu.setChecked commandId b =
    modifyFirst (fun item => item.commandId = commandId) ({ · with checked := b }) menu :=
  modify_findIdx?_eq menu

end Menu

def MenuItem.setState (type : CustomContextMenuItemType) (enabled checked : Bool) (item : MenuItem) :
    MenuItem :=
  { item with
    enabled := item.enabled && (enabled || type = .separator)
    checked := item.checked || (checked && (type = .checkableOption || type = .group)) }

lemma Menu.setState_eq (menu : Menu) (commandId : Int) (type : CustomContextMenuItemType)
    (enabled checked : Bool) : menu.setState commandId type enabled checked =
      modifyFirst (fun item => item.commandId = commandId) (MenuItem.setState type enabled checked)
        menu := by
  have he : (!enabled && decide (type ≠ .separator)) = !(enabled || decide (type = .separator)) := by
    rw [Bool.not_or, decide_not]
  unfold Menu.setState MenuItem.setState
  rw [he]
  cases enabled || decide (type = .separator) <;>
    cases checked && (decide (type = .checkableOption) || decide (type = .group))
  · simp [Menu.setEnabled_eq]
  · have hkeep : ∀ item : MenuItem, decide (item.commandId = commandId) = true →
        decide (({ item with enabled := false } : MenuItem).commandId = commandId) = true :=
      fun _ h => h
    simp only [Bool.not_false, if_true, Menu.setEnabled_eq, Menu.setChecked_eq,
      modifyFirst_modifyFirst hkeep, Bool.and_false, Bool.or_true]
    rfl
  · have hid : (fun item : MenuItem => { item with
        enabled := item.enabled && true, checked := item.checked || false }) = id := by
      funext item
      rw [Bool.and_true, Bool.or_false]
      cases item
      rfl
    simp only [Bool.not_true, Bool.false_eq_true, if_false, hid, modifyFirst_id]
  · simp [Menu.setChecked_eq]

namespace CustomContextMenuItem

def newItem : CustomContextMenuItem → MenuItem
  | .mk type label action _ _ submenu =>
    { type := type.converted
      commandId := if type = .separator then kSeparatorId else staticCastInt action
      label := if type = .separator then [] else label
      groupId := if type = .group then 0 else kInvalidGroupId
      submenu := if type = .subMenu then some (addMenuItems [] submenu) else none }

def setIn : CustomContextMenuItem → MenuItem → MenuItem
  | .mk type _ _ enabled checked _ => MenuItem.setState type enabled checked

def isFound (x : CustomContextMenuItem) (item : MenuItem) : Bool := item.commandId = x.commandId

variable {x : CustomContextMenuItem}

lemma commandId_newItem : x.newItem.commandId = x.commandId := by
  cases x
  rfl

lemma isFound_newItem : x.isFound x.newItem = true := decide_eq_true commandId_newItem

lemma commandId_setIn (item : MenuItem) : (x.setIn item).commandId = item.commandId := by
  cases x
  rfl

lemma setIn_eq_id (h : ¬ x.HasState) : x.setIn = id := by
  obtain ⟨type, label, action, enabled, checked, submenu⟩ := x
  have he : (enabled || decide (type = .separator)) = true := by
    by_contra hne
    rw [Bool.not_eq_true, Bool.or_eq_false_iff] at hne
    exact h (.inl ⟨hne.1, of_decide_eq_false hne.2⟩)
  have hc : (checked && (decide (type = .checkableOption) || decide (type = .group))) = false := by
    by_contra hne
    rw [Bool.not_eq_false, Bool.and_eq_true, Bool.or_eq_true, decide_eq_true_iff,
      decide_eq_true_iff] at hne
    exact h (.inr hne)
  funext item
  simp only [setIn, MenuItem.setState, he, hc, Bool.and_true, Bool.or_false]
  cases item
  rfl

end CustomContextMenuItem

lemma addMenuItem_eq (menu : Menu) (x : CustomContextMenuItem) :
    addMenuItem menu x = modifyFirst x.isFound x.setIn (menu ++ [x.newItem]) := by
  obtain ⟨type, label, action, enabled, checked, submenu⟩ := x
  cases type
  case separator =>
    -- the state of a separator is not set
    have hstate : ¬ (CustomContextMenuItem.mk .separator label action enabled checked
        submenu).HasState := by simp [CustomContextMenuItem.HasState]
    have hid := CustomContextMenuItem.setIn_eq_id hstate
    rw [addMenuItem, Menu.setState_eq, hid, modifyFirst_id]
    rw [CustomContextMenuItem.setIn] at hid
    rw [hid, modifyFirst_id]
    rfl
  all_goals
    rw [addMenuItem, Menu.setState_eq]
    rfl


@[simp] lemma length_addMenuItem (menu : Menu) (x : CustomContextMenuItem) :
    (addMenuItem menu x).length = menu.length + 1 := by
  rw [addMenuItem_eq, length_modifyFirst, length_append]
  rfl

def Menu.ids (menu : Menu) : List Int := menu.map MenuItem.commandId

lemma ids_addMenuItem (menu : Menu) (x : CustomContextMenuItem) :
    (addMenuItem menu x).ids = menu.ids ++ [x.commandId] := by
  rw [addMenuItem_eq, Menu.ids, map_modifyFirst CustomContextMenuItem.commandId_setIn, map_append,
    map_singleton, CustomContextMenuItem.commandId_newItem, Menu.ids]

variable {menu : Menu} {x : CustomContextMenuItem} {xs : List CustomContextMenuItem}

lemma exists_isFound_iff : (∃ item ∈ menu, x.isFound item = true) ↔ x.commandId ∈ menu.ids := by
  rw [Menu.ids, mem_map]
  exact exists_congr fun item => and_congr_right' decide_eq_true_iff

def CustomContextMenuItem.item (x : CustomContextMenuItem) : MenuItem := x.setIn x.newItem

/-- **An item with a new id**, or one whose state is not set, is put at the end, and nothing else is
changed. -/
lemma addMenuItem_of_reachable (h : x.HasState → x.commandId ∉ menu.ids) :
    addMenuItem menu x = menu ++ [x.item] := by
  rw [addMenuItem_eq]
  by_cases hx : x.HasState
  · rw [modifyFirst_concat, if_neg (fun hfound => h hx (exists_isFound_iff.mp hfound)),
      modifyFirst_cons, if_pos CustomContextMenuItem.isFound_newItem]
    rfl
  · have hid := CustomContextMenuItem.setIn_eq_id hx
    rw [hid, modifyFirst_id, CustomContextMenuItem.item, hid]
    rfl

lemma addMenuItem_of_mem (h : x.commandId ∈ menu.ids) :
    addMenuItem menu x = modifyFirst x.isFound x.setIn menu ++ [x.newItem] := by
  rw [addMenuItem_eq, modifyFirst_concat, if_pos (exists_isFound_iff.mpr h)]

/-! ### All steps of the conversion -/

lemma addMenuItems_nil (menu : Menu) : addMenuItems menu [] = menu := rfl

lemma addMenuItems_cons (menu : Menu) (x : CustomContextMenuItem) (xs : List CustomContextMenuItem) :
    addMenuItems menu (x :: xs) = addMenuItems (addMenuItem menu x) xs := rfl

@[simp] lemma length_addMenuItems : ∀ (menu : Menu) (xs : List CustomContextMenuItem),
    (addMenuItems menu xs).length = menu.length + xs.length
  | menu, [] => rfl
  | menu, x :: xs => by
    rw [addMenuItems_cons, length_addMenuItems _ xs, length_addMenuItem, length_cons]
    omega


lemma stateReachable_iff {ids : List Int} : StateReachable ids x ↔
    (x.HasState → x.commandId ∉ ids) ∧ StateReachable [] x := by
  cases x
  simp [StateReachable]

lemma prefix_addMenuItems : ∀ {xs : List CustomContextMenuItem} {menu : Menu},
    StatesReachable menu.ids xs → menu <+: addMenuItems menu xs
  | [], menu, _ => prefix_refl menu
  | x :: xs, menu, ⟨hx, hxs⟩ => by
    rw [← ids_addMenuItem] at hxs
    have hfirst := addMenuItem_of_reachable (stateReachable_iff.mp hx).1
    exact (hfirst ▸ prefix_append menu [x.item]).trans (prefix_addMenuItems hxs)

lemma getElem?_addMenuItems_cons {l : Menu} {item : MenuItem}
    (hadd : addMenuItem menu x = l ++ [item]) (hxs : StatesReachable (addMenuItem menu x).ids xs) :
    (addMenuItems menu (x :: xs))[menu.length]? = some item := by
  have hlength : menu.length = l.length := by
    have h := congrArg List.length hadd
    rw [length_addMenuItem, length_append] at h
    exact Nat.succ.inj h
  obtain ⟨rest, hrest⟩ := prefix_addMenuItems hxs
  rw [addMenuItems_cons, ← hrest, hadd, hlength, append_assoc, getElem?_append_right (Nat.le_refl _),
    Nat.sub_self]
  rfl

lemma not_sameItem_newItem (h : x.HasState) : ¬ SameItem x x.newItem := by
  obtain ⟨type, label, action, enabled, checked, submenu⟩ := x
  rintro ⟨-, hid, hchecked, -⟩
  rcases h with ⟨rfl, htype⟩ | ⟨rfl, htype⟩
  · rw [if_neg htype] at hid
    exact Bool.noConfusion hid.2.2
  · have htrue : (decide (type = .checkableOption) || decide (type = .group)) = true := by
      simpa using htype
    rw [htrue] at hchecked
    exact Bool.noConfusion hchecked

lemma exists_sameItem_iff (hxs : StatesReachable (addMenuItem menu x).ids xs) :
    (∃ item, (addMenuItems menu (x :: xs))[menu.length]? = some item ∧ SameItem x item) ↔
      (x.HasState → x.commandId ∉ menu.ids) ∧ SameItem x x.item := by
  by_cases hreach : x.HasState → x.commandId ∉ menu.ids
  · rw [getElem?_addMenuItems_cons (addMenuItem_of_reachable hreach) hxs]
    simp only [Option.some.injEq, exists_eq_left']
    exact (and_iff_right hreach).symm
  · obtain ⟨hstate, hmem⟩ := Classical.not_imp.mp hreach
    rw [getElem?_addMenuItems_cons (addMenuItem_of_mem (not_not.mp hmem)) hxs]
    simp only [hreach, false_and, iff_false]
    rintro ⟨item, hitem, hsame⟩
    cases hitem
    exact not_sameItem_newItem hstate hsame

lemma sameItems_cons_iff :
    SameItems (x :: xs) ((addMenuItems menu (x :: xs)).drop menu.length) ↔
      (∃ item, (addMenuItems menu (x :: xs))[menu.length]? = some item ∧ SameItem x item) ∧
        SameItems xs ((addMenuItems (addMenuItem menu x) xs).drop (addMenuItem menu x).length) := by
  have hlt : menu.length < (addMenuItems menu (x :: xs)).length := by
    rw [length_addMenuItems, length_cons]
    omega
  rw [drop_eq_getElem_cons hlt, getElem?_eq_getElem hlt, length_addMenuItem]
  simp only [SameItems, Option.some.injEq, exists_eq_left']
  rfl

mutual

lemma sameItem_item_iff : ∀ x : CustomContextMenuItem, SameItem x x.item ↔ StateReachable [] x
  | .mk type label action enabled checked submenu => by
    have hsub := sameItems_drop_iff [] submenu
    cases type <;> simp [SameItem, StateReachable, CustomContextMenuItem.item,
      CustomContextMenuItem.setIn, CustomContextMenuItem.newItem, MenuItem.setState]
    exact hsub

lemma sameItems_drop_iff : ∀ (menu : Menu) (xs : List CustomContextMenuItem),
    SameItems xs ((addMenuItems menu xs).drop menu.length) ↔ StatesReachable menu.ids xs
  | menu, [] => by
    rw [addMenuItems_nil, drop_length]
    exact Iff.rfl
  | menu, x :: xs => by
    have hrest := sameItems_drop_iff (addMenuItem menu x) xs
    rw [sameItems_cons_iff, hrest]
    constructor
    · rintro ⟨hx, hxs⟩
      have hx := (exists_sameItem_iff hxs).mp hx
      rw [ids_addMenuItem] at hxs
      exact ⟨stateReachable_iff.mpr ⟨hx.1, (sameItem_item_iff x).mp hx.2⟩, hxs⟩
    · rintro ⟨hx, hxs⟩
      have hx := stateReachable_iff.mp hx
      rw [← ids_addMenuItem] at hxs
      exact ⟨(exists_sameItem_iff hxs).mpr ⟨hx.1, (sameItem_item_iff x).mpr hx.2⟩, hxs⟩

end

/-- **The conversion** is faithful if and only if each item that is not enabled, and each one that is
checked, has an id that no item before it in its menu has. -/
theorem sameItems_addMenuItems_iff (xs : List CustomContextMenuItem) :
    SameItems xs (addMenuItems [] xs) ↔ StatesReachable [] xs :=
  sameItems_drop_iff [] xs

/-- **Two items with one id**: the second one is not enabled, but the first one is disabled. -/
theorem disabled_item_behind_equal_id :
    (addMenuItems [] [.mk .option [97] 5 true false [], .mk .option [98] 5 false false []]).map
        (fun item => (item.commandId, item.enabled)) = [(5, false), (5, true)] ∧
      ¬ SameItems [.mk .option [97] 5 true false [], .mk .option [98] 5 false false []]
        (addMenuItems [] [.mk .option [97] 5 true false [], .mk .option [98] 5 false false []]) := by
  refine ⟨by decide, fun h => ?_⟩
  have h := (sameItems_drop_iff [] _).mp h
  exact h.2.1.1 (.inl ⟨rfl, by decide⟩) (by decide)

end CefCore.Browser
