import Lookout.Account.Registry

/-!
# Tokens

An account has one slot for each application and kind of token. Registering a token fills
the slot or replaces what is in it; a token that another account holds is refused.
-/

namespace Lookout.Token

open Operation Store
open Text (masked)

/-- The tokens of an account, by application and kind. -/
def ofAccount (accountId : Option String) : Operation (List (Entry Token)) := do
  require [.tokens, .accounts]
  let database ← database
  let owned := database.tokens.select fun entry =>
    database.accounts.entries.any fun account =>
      account.id = entry.row.account && some account.row.accountId = accountId
  return owned.mergeSort fun left right =>
    left.row.application < right.row.application ||
      (left.row.application = right.row.application && left.row.kind ≤ right.row.kind)

/-- The row that holds a token for an application and kind. -/
def find (text : String) (application kind : Int) : Operation (Option (Entry Token)) := do
  require [.tokens]
  fits [some application, some kind]
  return (← rows Token).find? fun entry =>
    entry.row.text = some text && entry.row.application = application && entry.row.kind = kind

/-- The slot of an account for an application and kind. -/
def slot (account application kind : Int) : Operation (Option (Entry Token)) := do
  require [.tokens]
  fits [some application, some kind]
  return (← rows Token).find? fun entry =>
    entry.row.account = account && entry.row.application = application && entry.row.kind = kind

/-- Whether a token has an admissible length. -/
def isAdmissible (text : String) : Bool :=
  0 < text.length && text.length ≤ Settings.tokenMax

/-- Put a token into the slot of an account, which is made if it is missing. -/
def fill (owner : Entry Account) (text : Option String) (application kind : Int) :
    Operation Int := do
  match ← slot owner.id application kind with
  | some held =>
      let _ ← updateWhere (fun entry => entry.id = held.id) fun (row : Token) => { row with text }
      return held.id
  | none =>
      prepareInsertion .tokens none
      orFail (.slotRefused text (some owner.row.accountId))
        (add { account := owner.id, text, application, kind : Token })

/-- Register a token for an account. The answer is the number of the row that holds it. -/
def register (accountId text : Option String) (application kind : Value) :
    Operation Int := do
  if let some characters := text then
    if !isAdmissible characters then throw (.tokenLength characters.length)
  let application ← wholeNumber application
  let kind ← wholeNumber kind
  let owner ← Account.demand accountId
  if owner.row.deletedOn.isSome then
    log .info .accounts s!"register_token() account {masked accountId} is deleted"
    throw (.accountDeleted accountId)
  let existing ← match text with
    | some characters => find characters application kind
    | none => pure none
  match existing with
  | some held =>
      if held.row.account = owner.id then
        commit
        return held.id
      else
        rollback
        throw (.tokenTaken text)
  | none =>
      let id ← fill owner text application kind
      commit
      log .info .accounts <|
        s!"register_token() account {masked accountId} token {masked text} " ++
          s!"(application_type: {application}, token_type: {kind})"
      return id

end Lookout.Token
