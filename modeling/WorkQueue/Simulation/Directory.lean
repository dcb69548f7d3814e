/-!
# Simulated directories

A working directory that holds nothing but some files, given by their relative paths.

## Main definitions

* `Simulation.Directory.find?`: the text of the file that a path leads to
-/

namespace WorkQueue.Simulation

/-- The files of a directory, each with the names that lead to it. -/
structure Directory where
  files : List (List String × String)

namespace Directory

/-- The names in a path; a dot stands for the directory it is in. -/
def names (path : String) : List String :=
  (path.splitOn "/").filter fun name => !name.isEmpty && name ≠ "."

/-- The directory that holds the texts at the given paths. -/
def ofPaths (files : List (String × String)) : Directory :=
  ⟨files.map fun (path, text) => (names path, text)⟩

/-- Some file lies below the given names. -/
def isDirectory (d : Directory) (place : List String) : Bool :=
  place.isEmpty || d.files.any fun file => place.isPrefixOf file.1 && place.length < file.1.length

/-- Follows names from a directory. Two dots lead out of a directory, but not out of the working
directory. -/
def follow? (d : Directory) : List String → List String → Option (List String)
  | place, [] => some place
  | place, name :: rest =>
    if !d.isDirectory place then none
    else if name = ".." then if place.isEmpty then none else d.follow? place.dropLast rest
    else d.follow? (place ++ [name]) rest

/-- The text of the file at a relative path. -/
def find? (d : Directory) (path : String) : Option String := do
  let place ← if path.startsWith "/" then none else d.follow? [] (names path)
  (d.files.find? fun file => file.1 = place).map (·.2)

end Directory

end WorkQueue.Simulation
