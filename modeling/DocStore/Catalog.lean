-- SUMMARY: Catalogs: the named collections of one database.
import DocStore.Collection

/-!
# Catalogs

A catalog is the whole content of a database: its collections by name, and the members of its file
that are not known here, carried along as they are.
-/

namespace DocStore

/-- The content of a database. -/
structure Catalog where
  documents : NameMap Collection
  extra : Object
deriving Repr, Inhabited

namespace Catalog

def empty : Catalog := ⟨NameMap.empty, []⟩

def collection? (c : Catalog) (name : String) : Option Collection :=
  c.documents.get? name

/-- The catalog with a collection under a name, in place of the one that was there. -/
def withCollection (c : Catalog) (name : String) (collection : Collection) : Catalog :=
  { c with documents := c.documents.insert name collection }

/-- The catalog with a new collection under a name, in place of the one that was there. -/
def createCollection (c : Catalog) (name : String) (schema : Schema) : Catalog :=
  c.withCollection name (Collection.new schema)

def names (c : Catalog) : List String :=
  c.documents.names

/-- Whether two catalogs say the same, members in any order. -/
def same (a b : Catalog) : Bool :=
  a.documents.size == b.documents.size &&
  ((a.documents.entries.zip b.documents.entries).all fun (x, y) => x.1 == y.1 && x.2.same y.2) &&
  Json.same (.object a.extra) (.object b.extra)

end Catalog

end DocStore
