import ExportSurface.Toml.Value

/-!
# Growing tables

Keys and headers add to a tree of tables. A path of keys leads from a table through the tables on
the way, which are made if they are absent; on an array of tables it goes into the last element.

* `Toml.assign?` gives a value to a key. No key is given a value twice, and a dotted key does not
  reach into a table that a header made.
* `Toml.declareTable?` opens the table of a header. A table is declared once, but one that a longer
  header or nothing has made so far may still be.
* `Toml.declareElement?` opens one more element of an array of tables.
-/

namespace ExportSurface.Toml

/-- Puts a value in the place of the one that a key has. -/
def replace (k : Text) (v : Toml) (es : Entries) : Entries :=
  es.map fun e => if e.1 = k then (k, v) else e

/-- Changes the last of several tables. -/
def changeLast? (change : Entries → Option Entries) : List Entries → Option (List Entries)
  | [] => none
  | [es] => (change es).map ([·])
  | es :: rest => (changeLast? change rest).map (es :: ·)

/-- Changes the table that a path leads to. `dotted` says that the path belongs to a dotted key, which
passes only through tables that were not declared. The change is told what made the table. -/
def change? (dotted : Bool) (change : TableOrigin → Entries → Option Entries) :
    List Text → TableOrigin → Entries → Option Entries
  | [], origin, es => change origin es
  | k :: ks, _, es =>
    match es.lookup k with
    | none =>
      let origin := if dotted then TableOrigin.dotted else .implied
      (change? dotted change ks origin []).map fun sub => es ++ [(k, table origin sub)]
    | some (table origin sub) =>
      if dotted && origin = .declared then none
      else (change? dotted change ks origin sub).map fun sub => replace k (table origin sub) es
    | some (tables elements) =>
      (changeLast? (change? dotted change ks .declared) elements).map fun elements =>
        replace k (tables elements) es
    | some _ => none

/-- Adds an entry for a key that has none. -/
def add? (k : Text) (v : Toml) (es : Entries) : Option Entries :=
  match es.lookup k with
  | none => some (es ++ [(k, v)])
  | some _ => none

/-- Gives a value to a key, from the table that the key starts in. -/
def assign? (path : List Text) (v : Toml) (es : Entries) : Option Entries :=
  match path.getLast? with
  | none => none
  | some k =>
    let outer := path.dropLast
    change? true (fun origin es =>
      if !outer.isEmpty && origin ≠ .dotted then none else add? k v es) outer .declared es

/-- Opens the table of a header, from the root. -/
def declareTable? (path : List Text) (root : Entries) : Option Entries :=
  match path.getLast? with
  | none => none
  | some k =>
    change? false (fun _ es =>
      match es.lookup k with
      | none => some (es ++ [(k, table .declared [])])
      | some (table .implied sub) => some (replace k (table .declared sub) es)
      | some _ => none) path.dropLast .declared root

/-- Opens one more element of an array of tables, from the root. -/
def declareElement? (path : List Text) (root : Entries) : Option Entries :=
  match path.getLast? with
  | none => none
  | some k =>
    change? false (fun _ es =>
      match es.lookup k with
      | none => some (es ++ [(k, tables [[]])])
      | some (tables elements) => some (replace k (tables (elements ++ [[]])) es)
      | some _ => none) path.dropLast .declared root

/-- Gives a value to a key of the table that a header opened. -/
def assignIn? (header path : List Text) (v : Toml) (root : Entries) : Option Entries :=
  change? false (fun _ es => assign? path v es) header .declared root

end ExportSurface.Toml
