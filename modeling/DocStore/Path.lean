-- SUMMARY: Paths as they are written: their parts, their text, and the paths made from them.

/-!
# Paths

A path is a text in which slashes divide parts. It is kept as these parts, empty ones included, so
that nothing of the text is lost: a message shows a path as it was written, and what a path leads to
is decided only when it is followed, directory by directory. A path that starts with a slash is
followed from the root of the file system, any other one from the working directory.

Whether two paths are the same is asked of their routes. A slash that is doubled or stands at the end
makes no difference to a route.
-/

namespace DocStore

/-- A path, as the parts between its slashes. -/
structure Path where
  parts : List String
deriving DecidableEq, Repr, Inhabited

/-- Where a way starts and the components that it has. -/
structure Route where
  fromRoot : Bool
  components : List String
deriving DecidableEq, Repr, Inhabited

namespace Path

def ofText (text : String) : Path :=
  ⟨text.splitOn "/"⟩

def text (p : Path) : String :=
  "/".intercalate p.parts

def isAbsolute (p : Path) : Bool :=
  match p.parts with
  | "" :: _ :: _ => true
  | _ => false

/-- The parts that are followed one after another. -/
def steps (p : Path) : List String :=
  p.parts.filter (· != "")

/-- Whether the path ends in a slash, or is empty. -/
def endsOpen (p : Path) : Bool :=
  p.parts.getLast? == some ""

/-- The step that stays in a directory. -/
def here : String := "."

/-- The step to the directory above. -/
def above : String := ".."

/-! ## Paths from paths -/

/-- The path of a name in a directory. -/
def child (p : Path) (name : String) : Path :=
  ⟨(if p.endsOpen then p.parts.dropLast else p.parts) ++ [name]⟩

/-- Add to the last of some parts. -/
def extendLast (ending : String) : List String → List String
  | [] => [ending]
  | [part] => [part ++ ending]
  | part :: parts => part :: extendLast ending parts

/-- The path whose text has an ending more. -/
def withEnding (p : Path) (ending : String) : Path :=
  ⟨extendLast ending p.parts⟩

/-- The path of the directory that is reached by names from the root. -/
def ofNames (names : List String) : Path :=
  ⟨"" :: (if names.isEmpty then [""] else names)⟩

/-- The steps that count when a path is shortened: those that stay where they are do not, but for
one in front. -/
def components (p : Path) : List String :=
  match p.steps with
  | [] => []
  | first :: rest =>
    let rest := rest.filter (· != here)
    if first == here && p.isAbsolute then rest else first :: rest

/-- What tells a path from others, in whatever way they are written: where it starts and its
components. -/
def route (p : Path) : Route :=
  ⟨p.isAbsolute, p.components⟩

/-- The path of the first `count` components. -/
def shortened (p : Path) (count : Nat) : Path :=
  let names := p.components.take count
  ⟨if p.isAbsolute then "" :: names else names⟩

/-- The path and the directories on its way, the path itself first. The directory where the way
starts is not among them. -/
def ancestors (p : Path) : List Path :=
  match p.components.length with
  | 0 => []
  | count + 1 => p :: (List.range count).reverse.map fun n => p.shortened (n + 1)

end Path

end DocStore
