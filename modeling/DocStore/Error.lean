-- SUMMARY: The errors of the document store and their wording.
import DocStore.Catalog.Codec
import DocStore.FileSystem
import DocStore.Name

/-!
# Errors

Every operation of the store either succeeds or fails with one of the errors below. An error is its
cause; `message` words it.

What is wrong with a text is worded by whoever reads it, with the line and the column of the place
where reading stopped. Those words depend on nothing but the text, so a fault of a text carries the
text, and `reason` takes the words as a parameter; `message` names the kind of problem in their place.
-/

namespace DocStore

instance reprBytes : Repr ByteArray where
  reprPrec bytes := reprPrec bytes.toList

/-- Why a file does not hold a catalog: it cannot be read, or the bytes in it have a problem. -/
inductive CatalogFault where
  | unreadable (fault : IoFault)
  | undecodable (problem : Problem) (bytes : ByteArray)
deriving Repr

/-- The reason that is given for a file that does not hold a catalog, by what the reader of texts says
of bytes that it does not accept. -/
def CatalogFault.reason (wording : ByteArray → String) : CatalogFault → String
  | .unreadable fault => fault.message
  | .undecodable _ bytes => wording bytes

/-- What is said of a file that does not hold a catalog. -/
def CatalogFault.message : CatalogFault → String
  | .unreadable fault => fault.message
  | .undecodable problem _ => problem.message

/-- Why a configuration cannot be used. -/
inductive ConfigFault where
  | unreadable (path : String) (fault : IoFault)
  | notText (path : String)
  | malformed (path : String)
  | writeMode (word : String)
  | idPolicy (word : String)
deriving DecidableEq, Repr

/-- What is said of a configuration that cannot be used. -/
def ConfigFault.message : ConfigFault → String
  | .unreadable path fault => s!"Failed to read config file '{path}': " ++ fault.message
  | .notText path => s!"Failed to read config file '{path}': stream did not contain valid UTF-8"
  | .malformed path => s!"Failed to parse config file '{path}': <toml error>"
  | .writeMode word =>
    s!"Invalid write_mode '{word}' in jsondoc.toml. Expected \"atomic\" or \"overwrite\"."
  | .idPolicy word =>
    s!"Invalid id_policy '{word}' in jsondoc.toml. Expected \"max_plus_one\" or \"sequence\"."

/-- An error of the store. -/
inductive Error where
  | databaseNotFound (name : String)
  | collectionNotFound (name : String)
  | invalidFieldType (field : String) (kind : Kind)
  | missingPredicate
  | invalidName (name : String) (fault : Name.Fault)
  | schemaViolation (collection : String) (violation : Schema.Violation)
  | corruptCatalog (path : String) (fault : CatalogFault)
  | databaseLocked (path : String)
  | io (path : String) (fault : IoFault)
  | config (fault : ConfigFault)
deriving Repr

namespace Error

/-- What is said of a record or a schema that a collection refuses for a reason. -/
def violationMessage (collection reason : String) : String :=
  s!"schema violation in collection '{collection}': {reason}"

/-- What is said of an error. -/
def message : Error → String
  | .databaseNotFound name => s!"database not found: {name}"
  | .collectionNotFound name => s!"collection not found: {name}"
  | .invalidFieldType field kind =>
    s!"type of field '{field}' is " ++ kind.name ++
      ", allowed types are string, number, boolean, object, array"
  | .missingPredicate => "no where clause provided: update requires a non-empty predicate"
  | .invalidName name fault => s!"invalid name '{name}': " ++ fault.message
  | .schemaViolation collection violation => violationMessage collection violation.message
  | .corruptCatalog path fault => s!"corrupt catalog at {path}: " ++ fault.message
  | .databaseLocked path => s!"database at {path} is locked by another process"
  | .io path fault => s!"I/O error on {path}: " ++ fault.message
  | .config fault => "configuration error: " ++ fault.message

/-- Whether an error says that a database or a collection is not there. -/
def isNotFound : Error → Bool
  | .databaseNotFound _ => true
  | .collectionNotFound _ => true
  | _ => false

end Error

end DocStore
