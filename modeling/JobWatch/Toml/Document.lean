import JobWatch.Toml.Value

/-!
# Building a document

The lines of a document build up one table. A header opens a table, and keys with values go into the
table opened last. Nothing may be said twice: a key has one value, a table one header, and what is
written out as a value cannot be added to.
-/

namespace JobWatch.Toml.Members

/-- Changes the table at a path. Tables that are missing on the way are implied; a list of tables
stands for its last one. -/
def descend (change : Members → Option Members) : List String → Members → Option Members
  | [], ms => change ms
  | k :: ks, ms =>
    match ms.find? k with
    | none => (descend change ks []).map fun sub => ms ++ [(k, .table .implied sub)]
    | some (.table origin sub) =>
      if origin = .inlined then none
      else (descend change ks sub).map fun sub => ms.replace k (.table origin sub)
    | some (.tables (last :: others)) =>
      (descend change ks last).map fun last => ms.replace k (.tables (last :: others))
    | some _ => none

/-- Opens the table of the given name by its header. -/
def openTable (k : String) (ms : Members) : Option Members :=
  match ms.find? k with
  | none => some (ms ++ [(k, .table .header [])])
  | some (.table .implied sub) => some (ms.replace k (.table .header sub))
  | some _ => none

/-- Opens one more table in the list of the given name. -/
def openElement (k : String) (ms : Members) : Option Members :=
  match ms.find? k with
  | none => some (ms ++ [(k, .tables [[]])])
  | some (.tables elements) => some (ms.replace k (.tables ([] :: elements)))
  | some _ => none

/-- Gives a value to a dotted key. The tables on the way may have been made by other dotted keys; the
one that gets the value has to be. -/
def assign (v : Value) : List String → Members → Option Members
  | [], _ => none
  | [k], ms => if (ms.find? k).isSome then none else some (ms ++ [(k, v)])
  | k :: ks, ms =>
    match ms.find? k with
    | none => (assign v ks []).map fun sub => ms ++ [(k, .table .dotted sub)]
    | some (.table origin sub) =>
      if origin = .dotted || (origin = .implied && ks.length > 1) then
        (assign v ks sub).map fun sub => ms.replace k (.table origin sub)
      else none
    | some (.tables (last :: others)) =>
      if ks.length > 1 then
        (assign v ks last).map fun last => ms.replace k (.tables (last :: others))
      else none
    | some _ => none

end JobWatch.Toml.Members
