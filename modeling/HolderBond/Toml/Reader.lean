import HolderBond.Toml.Scan

/-!
# Reading settings files

A file is a sequence of statements: headers, headers with two brackets, and assignments.
Assignments belong to the table of the header before them.
-/

set_option autoImplicit false

namespace HolderBond.Toml

/-! ## Values -/

def Scan.ofPartial {α : Type} (f : List Char → Option (α × List Char)) : Scan α := do
  match f (← get) with
  | some (a, left) =>
      set left
      return a
  | none => failure

def Scan.word : List Char → Scan Unit
  | [] => return ()
  | c :: cs => do
      char c
      word cs

def Scan.itemsWithin (item : Scan Toml) : Nat → Scan (List Toml)
  | 0 => failure
  | bound + 1 => do
      gap
      if ← accept ']' then return []
      else
        let value ← item
        gap
        if ← accept ',' then
          let rest ← itemsWithin item bound
          return value :: rest
        else
          char ']'
          return [value]

def Scan.member (value : Scan Toml) : Scan (List String × Toml) := do
  let path ← key
  char '='
  blanks
  let v ← value
  blanks
  return (path, v)

def Scan.membersWithin (value : Scan Toml) : Nat → Scan (List (List String × Toml))
  | 0 => failure
  | bound + 1 => do
      let first ← member value
      if ← accept ',' then
        let rest ← membersWithin value bound
        return first :: rest
      else
        char '\x7d'
        return [first]

def assignPath (entries : Entries) (path : List String) (value : Toml) : Option Entries :=
  match path.getLast? with
  | some key => assign value path.dropLast key entries
  | none => none

def ofMembers (members : List (List String × Toml)) : Option Entries :=
  members.foldlM (fun entries (path, value) => assignPath entries path value) []

/-- A value whose parts, if it is an array or a table, are read by `nested`; without it
there may be no such thing. -/
def Scan.valueOver (nested : Option (Scan Toml)) : Scan Toml := do
  match ← peek with
  | some '"' | some '\'' => return .text (String.ofList (← ofPartial string?))
  | some 't' =>
      word ['t', 'r', 'u', 'e']
      return .flag true
  | some 'f' =>
      word ['f', 'a', 'l', 's', 'e']
      return .flag false
  | some 'i' | some 'n' => ofPartial special?
  | some '[' =>
      let some item := nested | failure
      char '['
      return .array (← itemsWithin item ((← get).length + 1))
  | some '\x7b' =>
      let some value := nested | failure
      char '\x7b'
      blanks
      if ← accept '\x7d' then return .table .braces []
      else
        let some entries := ofMembers (← membersWithin value ((← get).length + 1)) | failure
        return .table .braces entries
  | some _ => ofPartial numberOrMoment?
  | none => failure

def Scan.value : Nat → Scan Toml
  | 0 => valueOver none
  | levels + 1 => valueOver (some (value levels))

/-! ## Statements -/

inductive Statement where
  | header (path : List String)
  | element (path : List String)
  | assignment (path : List String) (value : Toml)

def Scan.header : Scan Statement := do
  char '['
  if ← accept '[' then
    let path ← key
    word [']', ']']
    lineEnd
    return .element path
  else
    let path ← key
    char ']'
    lineEnd
    return .header path

def Scan.assignment : Scan Statement := do
  let (path, v) ← member (value (maxDepth - 1))
  lineEnd
  return .assignment path v

def Scan.statementsWithin : Nat → Scan (List Statement)
  | 0 => failure
  | bound + 1 => do
      blanks
      match ← peek with
      | none => return []
      | some '#' =>
          lineEnd
          statementsWithin bound
      | some '\n' | some '\r' =>
          newline
          statementsWithin bound
      | some '[' =>
          let first ← header
          let rest ← statementsWithin bound
          return first :: rest
      | some _ =>
          let first ← assignment
          let rest ← statementsWithin bound
          return first :: rest

/-- The statements of a text; a mark of byte order may come before them. -/
def statements? (s : String) : Option (List Statement) :=
  let input := match s.toList with
    | c :: rest => if c.toNat = 0xFEFF then rest else c :: rest
    | [] => []
  ((Scan.statementsWithin (input.length + 1)).run input).map Prod.fst

/-! ## The table of a file -/

/-- The assignments before the next header, put into a table, and the statements after them. -/
def body (entries : Entries) : List Statement → Option (Entries × List Statement)
  | .assignment path value :: rest => do
      let entries ← assignPath entries path value
      body entries rest
  | rest => some (entries, rest)

/-- What a header makes of what is there: a table may be opened once. -/
def opened (members : List Statement) : Option Toml → Option Toml
  | none => (body [] members).map fun done => .table .header done.1
  | some (.table .passed entries) => (body entries members).map fun done => .table .header done.1
  | some _ => none

/-- What a header with two brackets makes of what is there: a longer list. -/
def lengthened (members : List Statement) : Option Toml → Option Toml
  | none => (body [] members).map fun done => .tables [done.1]
  | some (.tables elements) => (body [] members).map fun done => .tables (elements ++ [done.1])
  | some _ => none

def afterBody : List Statement → List Statement
  | .assignment _ _ :: rest => afterBody rest
  | rest => rest

def sectionsWithin : Nat → Entries → List Statement → Option Entries
  | _, entries, [] => some entries
  | 0, _, _ :: _ => none
  | bound + 1, entries, .header path :: rest => do
      let key ← path.getLast?
      let entries ← visit (opened rest) path.dropLast key entries
      sectionsWithin bound entries (afterBody rest)
  | bound + 1, entries, .element path :: rest => do
      let key ← path.getLast?
      let entries ← visit (lengthened rest) path.dropLast key entries
      sectionsWithin bound entries (afterBody rest)
  | _ + 1, _, .assignment _ _ :: _ => none

def ofStatements? (statements : List Statement) : Option Entries := do
  let (entries, rest) ← body [] statements
  sectionsWithin statements.length entries rest

def read? (s : String) : Option Entries := do
  ofStatements? (← statements? s)

end HolderBond.Toml
