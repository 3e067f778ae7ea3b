import DocStore.Backend
import DocStore.Settings

/-!
# Errors of the store
-/

namespace DocStore

/-- Why a collection could not be opened. -/
inductive OpenFault where
  | schema (fault : Error)
  | table (name : String) (fault : BackendError)
  | noTable (name : String)
  deriving DecidableEq

def OpenFault.message : OpenFault → String
  | schema fault => fault.message
  | table name fault => "table " ++ name ++ ": " ++ fault.message
  | noTable name => "table " ++ name ++ ": table does not exist"

inductive StoreError where
  | schemaInit (fault : OpenFault)
  | engine (fault : Error)
  | backend (fault : BackendError)
  | attachments
  | closed
  | readOnly
  | config (fault : ConfigError)
  deriving DecidableEq

def StoreError.message : StoreError → String
  | schemaInit fault => "Schema initialization failed: " ++ fault.message
  | engine fault => "Engine error: " ++ fault.message
  | backend fault => "Backend unavailable: " ++ fault.message
  | attachments => "Unsupported operation: attachments are not stored by this backend"
  | closed => "Storage instance is closed"
  | readOnly => "Storage instance is read-only"
  | config fault => "Configuration error: " ++ fault.message

end DocStore
