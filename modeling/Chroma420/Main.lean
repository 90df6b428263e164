import Chroma420.Demo

/-!
# The program

Makes the demonstration and writes its four pictures into the current directory.
-/

def main : IO UInt32 := do
  match Chroma420.Demo.run? Chroma420.Demo.size with
  | none => return 1
  | some run =>
    for (name, picture) in run.pictures do
      IO.FS.writeBinFile name (Chroma420.Png.encode picture)
    return 0
