import ViewBinding.Files.Path

/-!
# File systems

The operations on files that the library needs. They are given by a value, so that a run can be
had on the disk as well as on a tree in memory. A failure comes with the system's own wording.
-/

namespace ViewBinding

/-- Reading a text, making a directory with those above it, and writing a text. -/
structure FileSystem (m : Type → Type) where
  readText : Path → m (Except String String)
  makeDirs : Path → m (Except String Unit)
  write : Path → String → m (Except String Unit)

end ViewBinding
