import VirtualRecords.Text.Pieces

/-! Folders and files of text, as far as the program looks at them. A path is a text; it is
followed from the left, one name after another, and leads to a place or to a failure. Every
name on the way must be that of a folder, also where the next step goes up again. -/

namespace VirtualRecords

def childPath (folder name : String) : String :=
  if folder = "" ∨ folder.toList.getLast? = some '/' then folder ++ name
  else folder ++ "/" ++ name

/-- A place: the names that lead down to it from where paths start. Behind the name `/` they
lead down from the root, and `..` is kept where it leads up from the start. -/
abbrev Place := List String

def Place.above (place : Place) : Place :=
  if place.all (· == "..") then place ++ [".."]
  else if place = ["/"] then place
  else place.dropLast

def stepsOf (path : String) : Place × List String :=
  match (Text.pieces '/' path.toList).map String.ofList with
  | "" :: step :: steps => (["/"], step :: steps)
  | steps => ([], steps)

def isIdleStep (step : String) : Bool := step == "" || step == "."

inductive FileFailure where
  | missing
  | present
  | isFile
  | isFolder
  | tooLong
  | nulInPath
deriving DecidableEq

def FileFailure.text : FileFailure → String
  | missing => "No such file or directory (os error 2)"
  | present => "File exists (os error 17)"
  | isFile => "Not a directory (os error 20)"
  | isFolder => "Is a directory (os error 21)"
  | tooLong => "File name too long (os error 36)"
  | nulInPath => "file name contained an unexpected NUL byte"

def greatestNameSize : Nat := 255

def greatestPathSize : Nat := 4095

def pathFailure? (path : String) : Option FileFailure :=
  if path.toList.contains '\x00' then some .nulInPath
  else if path = "" then some .missing
  else if greatestPathSize < path.utf8ByteSize then some .tooLong
  else none

structure FileTree where
  files : List (Place × String)
  folders : List Place

namespace FileTree

def empty : FileTree := ⟨[], []⟩

def places (tree : FileTree) : List Place := tree.files.map Prod.fst ++ tree.folders

def isFile (tree : FileTree) (place : Place) : Bool := tree.files.any (·.1 == place)

/-- The start, the root and what lies above the start are folders, and so is every place
where a folder was made or in which something lies. -/
def isFolder (tree : FileTree) (place : Place) : Bool :=
  place.all (· == "..") || place == ["/"] || tree.folders.contains place ||
    tree.places.any fun other => place.isPrefixOf other && place.length < other.length

def holds (tree : FileTree) (place : Place) : Bool := tree.isFile place || tree.isFolder place

def step (tree : FileTree) (place : Place) (name : String) : Except FileFailure Place :=
  if !tree.isFolder place then .error .isFile
  else if isIdleStep name then .ok place
  else if name = ".." then .ok place.above
  else if greatestNameSize < name.utf8ByteSize then .error .tooLong
  else if tree.holds (place ++ [name]) then .ok (place ++ [name])
  else .error .missing

def follow (tree : FileTree) (start : Place) (steps : List String) : Except FileFailure Place :=
  steps.foldlM tree.step start

def find (tree : FileTree) (path : String) : Except FileFailure Place :=
  match pathFailure? path with
  | some failure => .error failure
  | none => tree.follow (stepsOf path).1 (stepsOf path).2

def read (tree : FileTree) (path : String) : Except FileFailure String := do
  let place ← tree.find path
  match tree.files.lookup place with
  | some text => .ok text
  | none => .error .isFolder

def names (tree : FileTree) (folder : Place) : List String :=
  (tree.places.filterMap fun place =>
    if folder.isPrefixOf place then (place.drop folder.length).head? else none).eraseDups

def makeChild (tree : FileTree) (start : Place) (steps : List String) (name : String) :
    Except FileFailure FileTree := do
  let place ← tree.follow start steps
  if !tree.isFolder place then .error .isFile
  else if name = ".." then .error .present
  else if greatestNameSize < name.utf8ByteSize then .error .tooLong
  else if tree.holds (place ++ [name]) then .error .present
  else .ok { tree with folders := tree.folders ++ [place ++ [name]] }

def leadsToFolder (tree : FileTree) (start : Place) (steps : List String) : Bool :=
  match tree.follow start steps with
  | .ok place => tree.isFolder place
  | .error _ => false

def makeFolders (tree : FileTree) (start : Place) : List String → Except FileFailure FileTree
  | [] => .ok tree
  | name :: before =>
    let settled (tree : FileTree) (failure : FileFailure) : Except FileFailure FileTree :=
      if tree.leadsToFolder start (name :: before).reverse then .ok tree else .error failure
    match tree.makeChild start before.reverse name with
    | .ok made => .ok made
    | .error .missing => do
      let made ← tree.makeFolders start before
      match made.makeChild start before.reverse name with
      | .ok made => .ok made
      | .error failure => settled made failure
    | .error failure => settled tree failure

def movesOf (path : String) : List String :=
  ((stepsOf path).2.filter (!isIdleStep ·)).reverse

def makeFolder (tree : FileTree) (path : String) : Except FileFailure FileTree :=
  match pathFailure? path with
  | some .missing => .ok tree
  | some failure => .error failure
  | none => tree.makeFolders (stepsOf path).1 (movesOf path)

def writeChild (tree : FileTree) (start : Place) (steps : List String) (name text : String) :
    Except FileFailure FileTree := do
  let place := (← tree.follow start steps) ++ [name]
  if tree.isFolder place then .error .isFolder
  else return { tree with files := (tree.files.filter (·.1 != place)) ++ [(place, text)] }

def write (tree : FileTree) (path text : String) : Except FileFailure FileTree :=
  match movesOf path with
  | [] => .error .isFolder
  | name :: before => tree.writeChild (stepsOf path).1 before.reverse name text

def put (tree : FileTree) (path text : String) : Except FileFailure FileTree :=
  match movesOf path with
  | [] => .error .isFolder
  | name :: before => do
    let made ← tree.makeFolders (stepsOf path).1 before
    made.writeChild (stepsOf path).1 before.reverse name text

end FileTree
end VirtualRecords
