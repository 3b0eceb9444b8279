-- SUMMARY: A line in which backspaces take away the visible character before them.
import DocStore.Text.Cluster

/-!
# Backspaces

A line that is typed without an editor can hold backspaces. Each of them takes away the cluster
before it that is still there, and a backspace with nothing before it does nothing. The size of a
cluster is kept in one byte, so a cluster of 256 bytes or more loses only what its size is beyond the
last multiple of 256.
-/

namespace DocStore

/-- The characters, back to front, without the last `size` bytes. -/
def dropLastBytes : (size : Nat) → List Char → List Char
  | 0, cs => cs
  | _, [] => []
  | size, c :: cs => dropLastBytes (size - c.utf8Size) cs

/-- Put the clusters of a line after `kept`, which is back to front, as are the sizes of the clusters
that a backspace can still take away. -/
def applyClusters : (kept : List Char) → (sizes : List Nat) → List (List Char) → List Char
  | kept, _, [] => kept.reverse
  | kept, sizes, cluster :: rest =>
    if cluster == ['\x08'] then
      match sizes with
      | [] => applyClusters kept [] rest
      | size :: sizes => applyClusters (dropLastBytes size kept) sizes rest
    else
      let size := (cluster.map Char.utf8Size).sum % 256
      applyClusters (cluster.reverse ++ kept) (size :: sizes) rest

/-- A line after its backspaces have taken effect. -/
def applyBackspaces (line : String) : String :=
  if line.toList.contains '\x08' then
    String.ofList (applyClusters [] [] (clusters line.toList))
  else line

end DocStore
