import Lookout.Settings
import Lookout.Text.Percent

/-!
# Connection addresses

The addresses of the database, for the services and for schema changes: taken whole from
the environment, or put together from their parts.
-/

namespace Lookout

/-- The address of the database is not set, and neither are all of its parts. -/
structure ConnectionError where
  deriving DecidableEq, Repr

/-- What is wrong with the environment. -/
def ConnectionError.message : ConnectionError → String
  | ⟨⟩ => "DATABASE_URL must be set, or DB_USER, DB_PASSWORD, and DB_DATABASE must all be set."

namespace Connection

/-- A variable that is set to something. -/
def present (environment : Environment) (name : String) : Option String :=
  (environment name).filter fun value => !value.isEmpty

/-- An address from its parts, with the password in form encoding. -/
def assembled (user password host port database : String) : String :=
  s!"postgresql+psycopg://{user}:{Text.formEncode password}@{host}:{port}/{database}"

/-- The address that the parts in the environment make, under the names of a user and
its password. -/
def fromParts? (environment : Environment) (userName passwordName : String) : Option String := do
  let user ← present environment userName
  let password ← present environment passwordName
  let database ← present environment "DB_DATABASE"
  return assembled user password ((environment "DB_HOST").getD "db")
    ((environment "DB_PORT").getD "5432") database

/-- The address for the services. -/
def service (environment : Environment) : Except ConnectionError String :=
  match present environment "DATABASE_URL" <|> fromParts? environment "DB_USER" "DB_PASSWORD" with
  | some address => .ok address
  | none => .error ⟨⟩

/-- The address for schema changes; that of the services if no other is set. -/
def admin (environment : Environment) : Except ConnectionError String :=
  match present environment "DB_ADMIN_URL" <|>
      fromParts? environment "DB_ADMIN_USER" "DB_ADMIN_PASSWORD" with
  | some address => .ok address
  | none => service environment

end Connection

end Lookout
