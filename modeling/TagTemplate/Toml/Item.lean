import TagTemplate.Value

/-! The tree of a TOML document, and the rules on defining and extending its tables. -/

namespace TagTemplate.Toml

inductive TableKind where
  | header
  | implicit
  | dotted
  | inline
deriving DecidableEq, Repr

/-- The items of a document. Of numbers and dates that no setting uses, only the kind is kept. -/
inductive Item where
  | text (content : String)
  | integer (n : Int)
  | boolean (b : Bool)
  | float
  | datetime
  | array (items : List Item)
  | table (kind : TableKind) (entries : List (String × Item))
  | tables (elements : List (List (String × Item)))
deriving Repr, Inhabited

abbrev Entries := List (String × Item)

def changeLast (change : Entries → Option Entries) : List Entries → Option (List Entries)
  | [] => none
  | [last] => (change last).map ([·])
  | element :: rest => (changeLast change rest).map (element :: ·)

/-- Changes the table at a path below a table. Tables on the way that are missing are made, as
dotted or as implicit ones. A dotted key does not reach into a table that has a header of its own,
and nothing reaches into a value. -/
def changeAt (dotted : Bool) (change : TableKind → Entries → Option Entries) :
    List String → TableKind → Entries → Option Entries
  | [], kind, entries => change kind entries
  | key :: rest, _, entries =>
      match Fields.get? entries key with
      | none =>
          let kind : TableKind := if dotted then .dotted else .implicit
          (changeAt dotted change rest kind []).map fun inner =>
            Fields.insert key (.table kind inner) entries
      | some (.table kind inner) =>
          if kind = .inline ∨ (dotted ∧ kind = .header) then none
          else
            (changeAt dotted change rest kind inner).map fun changed =>
              Fields.insert key (.table kind changed) entries
      | some (.tables elements) =>
          (changeLast (changeAt dotted change rest .header) elements).map fun changed =>
            Fields.insert key (.tables changed) entries
      | some _ => none

def addEntry (key : String) (item : Item) (entries : Entries) : Option Entries :=
  match Fields.get? entries key with
  | some _ => none
  | none => some (Fields.insert key item entries)

def assign (path : List String) (key : String) (item : Item) (kind : TableKind)
    (entries : Entries) : Option Entries :=
  changeAt true
    (fun kind entries =>
      if !path.isEmpty && kind != .dotted then none else addEntry key item entries)
    path kind entries

def defineTable (path : List String) (key : String) (root : Entries) : Option Entries :=
  changeAt false
    (fun _ entries =>
      match Fields.get? entries key with
      | none => some (Fields.insert key (.table .header []) entries)
      | some (.table .implicit inner) => some (Fields.insert key (.table .header inner) entries)
      | some _ => none)
    path .header root

def defineElement (path : List String) (key : String) (root : Entries) : Option Entries :=
  changeAt false
    (fun _ entries =>
      match Fields.get? entries key with
      | none => some (Fields.insert key (.tables [[]]) entries)
      | some (.tables elements) => some (Fields.insert key (.tables (elements ++ [[]])) entries)
      | some _ => none)
    path .header root

end TagTemplate.Toml
