import IniKeeper.Text

/-!
# TOML tables

A TOML document is a table of keys and values. Tables are opened by headers, by dotted keys or
inline, and which of these it was decides whether it may be opened or extended again: a table is
defined once, a table that only lies on the way to another may still be defined, dotted keys extend
only what dotted keys made, and an inline table is closed.
-/

namespace IniKeeper

namespace Toml

/-- How a table came to be. -/
inductive Form where
  /-- It lies on the way to a table with a header. -/
  | implied
  /-- It was made by a dotted key. -/
  | dotted
  /-- It has a header of its own, or is the document. -/
  | defined
  deriving Repr, DecidableEq

/-- A value of a document. Numbers that are not whole have no use here beyond being one. -/
inductive Value where
  /-- A string. -/
  | string (text : Text)
  /-- A whole number. -/
  | integer (n : Int)
  /-- A truth value. -/
  | boolean (b : Bool)
  /-- A number that is not whole, infinity, or no number. -/
  | float
  /-- A date, a time, or both. -/
  | moment
  /-- A list of values in brackets. -/
  | array (items : List Value)
  /-- A table in braces. -/
  | inline (items : List (Text × Value))
  /-- A table that is not in braces. -/
  | table (form : Form) (items : List (Text × Value))
  /-- The tables of a doubled header: those before, and the last, which later headers extend. -/
  | tables (before : List (List (Text × Value))) (last : List (Text × Value))

/-- The keys of a table with their values, in order. -/
abbrev Items := List (Text × Value)

namespace Items

/-- The value of a key. -/
def get? (items : Items) (key : Text) : Option Value := List.lookup key items

/-- The items with a value in place of the one that a key has. -/
def replace (items : Items) (key : Text) (value : Value) : Items :=
  items.map fun (other, old) => if other = key then (other, value) else (other, old)

/-- The items with a value for a key that has none. -/
def append (items : Items) (key : Text) (value : Value) : Items := items ++ [(key, value)]

/-- Change the table at the end of a path. Missing tables on the way are made, by the form of the
path; a path of dotted keys does not enter a table with a header. -/
def descend (dotted : Bool) (form : Form) (items : Items) (path : List Text)
    (act : Form → Items → Option Items) : Option Items :=
  match path with
  | [] => act form items
  | key :: rest =>
    let made := if dotted then Form.dotted else Form.implied
    match items.get? key with
    | none =>
      (descend dotted made [] rest act).map fun inner => items.append key (.table made inner)
    | some (.table form inner) =>
      if dotted && form == .defined then none
      else
        (descend dotted form inner rest act).map fun inner =>
          items.replace key (.table form inner)
    | some (.tables before last) =>
      (descend dotted .defined last rest act).map fun changed =>
        items.replace key (.tables before changed)
    | some _ => none

/-- Give a key its value under a dotted path. Plain keys go into a table that dotted keys did not
make, and keys with a path into one that they made. -/
def assign (form : Form) (items : Items) (path : List Text) (key : Text) (value : Value) :
    Option Items :=
  descend true form items path fun form items =>
    if (form == .dotted) == path.isEmpty || (items.get? key).isSome then none
    else some (items.append key value)

/-- Define the table of a header, which must be new or lie on the way to another. -/
def define (items : Items) (key : Text) : Option Items :=
  match items.get? key with
  | none => some (items.append key (.table .defined []))
  | some (.table .implied inner) => some (items.replace key (.table .defined inner))
  | some _ => none

/-- Add one more table of a doubled header. -/
def defineMore (items : Items) (key : Text) : Option Items :=
  match items.get? key with
  | none => some (items.append key (.tables [] []))
  | some (.tables before last) => some (items.replace key (.tables (before ++ [last]) []))
  | some _ => none

end Items

end Toml

end IniKeeper
