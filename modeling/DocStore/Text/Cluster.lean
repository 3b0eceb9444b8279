-- SUMMARY: Where one visible character of a text ends and the next begins.
import DocStore.Text.Cluster.Class

/-!
# Clusters

A cluster is what a person takes for one character. The rules are the extended ones of Unicode: a
line end of two characters is one cluster, controls are alone, a syllable of Hangul is kept
together, marks and joiners stay with what is before them, leading signs with what is after them, a
chain of linked consonants is one, pictures are joined by a joiner between them, and the halves of
flags go in pairs.

The rules look back beyond the last character in three cases only, so a cluster that is being read is
described by its last class and by what could still be continued.
-/

namespace DocStore

/-- What a chain of consonants still needs to go on. -/
inductive ConsonantChain where
  | absent
  /-- A consonant, but no link after it yet. -/
  | unlinked
  /-- A consonant and a link after it. -/
  | linked
deriving DecidableEq, Repr

/-- What a sequence of pictures still needs to go on. -/
inductive PictureChain where
  | absent
  /-- A picture, with marks on it. -/
  | started
  /-- A picture with marks on it, and a joiner. -/
  | joined
deriving DecidableEq, Repr

/-- A cluster that is being read. -/
structure ClusterState where
  last : ClusterClass
  consonants : ConsonantChain
  pictures : PictureChain
  /-- Whether a half of a flag waits for the other one. -/
  halfFlag : Bool
deriving DecidableEq, Repr

namespace ClusterState

/-- A cluster that starts with a character of a class, or goes on with one after `before`. -/
def extend (before : Option ClusterState) (c : ClusterClass) : ClusterState where
  last := c
  consonants :=
    let earlier := (before.map consonants).getD .absent
    match c with
    | .consonant => .unlinked
    | .joiner => earlier
    | .mark true true => if earlier = .absent then .absent else .linked
    | .mark true false => earlier
    | _ => .absent
  pictures :=
    let earlier := (before.map pictures).getD .absent
    match c with
    | .picture => .started
    | .mark _ _ => if earlier = .started then .started else .absent
    | .joiner => if earlier = .started then .joined else .absent
    | _ => .absent
  halfFlag := c = .regional && !(before.map halfFlag).getD false

/-- Whether a character of a class belongs to the cluster. -/
def joins (s : ClusterState) (c : ClusterClass) : Bool :=
  match s.last, c with
  | .carriageReturn, .lineFeed => true
  | .carriageReturn, _ => false
  | .lineFeed, _ => false
  | .control, _ => false
  | _, .carriageReturn => false
  | _, .lineFeed => false
  | _, .control => false
  | .leading, _ => true
  | _, .mark _ _ => true
  | _, .joiner => true
  | _, .spacing => true
  | .hangulL, .hangulL => true
  | .hangulL, .hangulV => true
  | .hangulL, .hangulLV => true
  | .hangulL, .hangulLVT => true
  | .hangulLV, .hangulV => true
  | .hangulLV, .hangulT => true
  | .hangulV, .hangulV => true
  | .hangulV, .hangulT => true
  | .hangulLVT, .hangulT => true
  | .hangulT, .hangulT => true
  | _, .consonant => s.consonants = .linked
  | _, .picture => s.pictures = .joined
  | .regional, .regional => s.halfFlag
  | _, _ => false

end ClusterState

/-- The clusters of a text whose cluster `current`, back to front, is being read in a state. -/
def clustersFrom : (current : List Char) → Option ClusterState → List Char → List (List Char)
  | [], _, [] => []
  | current, _, [] => [current.reverse]
  | current, state, c :: cs =>
    let k := clusterClass c
    match state with
    | none => clustersFrom [c] (some (.extend none k)) cs
    | some s =>
      if s.joins k then clustersFrom (c :: current) (some (.extend state k)) cs
      else current.reverse :: clustersFrom [c] (some (.extend none k)) cs

def clusters (cs : List Char) : List (List Char) :=
  clustersFrom [] none cs

end DocStore
