/-!
# Kinds of applications and tokens

The client applications that tokens and watches are for, and the kinds of credentials
that tokens are. The store keeps their numbers and takes any other number as well.
-/

namespace Lookout

/-- A client application. -/
inductive Application where
  | unknown
  | debug
  | production
  deriving DecidableEq, Repr

namespace Application

/-- Every application. -/
def all : List Application := [unknown, debug, production]

/-- The name of an application. -/
def name : Application → String
  | unknown => "UNKNOWN"
  | debug => "KUROBA_EX_LITE_DEBUG"
  | production => "KUROBA_EX_LITE_PRODUCTION"

/-- The number that an application is stored as. -/
def number : Application → Int
  | unknown => -1
  | debug => 0
  | production => 1

end Application

/-- A kind of credential. -/
inductive TokenKind where
  | unknown
  | firebase
  deriving DecidableEq, Repr

namespace TokenKind

/-- Every kind of credential. -/
def all : List TokenKind := [unknown, firebase]

/-- The name of a kind of credential. -/
def name : TokenKind → String
  | unknown => "UNKNOWN"
  | firebase => "FIREBASE"

/-- The number that a kind of credential is stored as. -/
def number : TokenKind → Int
  | unknown => -1
  | firebase => 0

end TokenKind

end Lookout
