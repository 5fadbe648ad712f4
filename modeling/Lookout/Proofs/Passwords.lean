import Lookout.Connection
import Lookout.Proofs.PercentCodes

/-!
# Passwords in addresses

An address that is put together from its parts is read by its separators: the scheme, two slashes,
then the user, the password, the host, the port and the name of the database. Where none of the
other parts holds a separator, reading finds all of them and, for the password, its encoded text,
so different parts make different addresses. The codes in that text stand for the password as long
as it has no space. A space is written as a plus sign, which decoding leaves as it is.
-/

namespace Lookout

namespace Connection

/-- The parts that an address is put together from. -/
structure Parts where
  user : String
  password : String
  host : String
  port : String
  database : String
  deriving DecidableEq, Repr

/-- A text without the characters that separate the parts of an address. -/
def IsPlain (text : String) : Prop :=
  ':' ∉ text.toList ∧ '@' ∉ text.toList ∧ '/' ∉ text.toList

instance (text : String) : Decidable (IsPlain text) :=
  inferInstanceAs (Decidable (_ ∧ _ ∧ _))

/-- What stands before and after the first separator of a text. -/
def cut? (separator : Char) : List Char → Option (List Char × List Char)
  | [] => none
  | character :: rest =>
      if character = separator then some ([], rest)
      else (cut? separator rest).map fun (front, back) => (character :: front, back)

theorem cut?_self (separator : Char) (back : List Char) :
    cut? separator (separator :: back) = some ([], back) :=
  if_pos rfl

theorem cut?_append {separator : Char} {front : List Char} (absent : separator ∉ front)
    (back : List Char) : cut? separator (front ++ separator :: back) = some (front, back) := by
  induction front with
  | nil => exact cut?_self separator back
  | cons character front inductionHypothesis =>
      rw [List.mem_cons, not_or] at absent
      simp [cut?, inductionHypothesis absent.2, Ne.symm absent.1]

namespace Parts

/-- Parts of which all but the password are free of separators. -/
structure IsPlain (parts : Parts) : Prop where
  user : Connection.IsPlain parts.user
  host : Connection.IsPlain parts.host
  port : Connection.IsPlain parts.port
  database : Connection.IsPlain parts.database

/-- The address that parts make. -/
def address (parts : Parts) : String :=
  assembled parts.user parts.password parts.host parts.port parts.database

/-- The parts of an address as its separators show them, the password as it is encoded. -/
def ofAddress? (address : String) : Option Parts := do
  let (_, rest) ← cut? ':' address.toList
  let (_, rest) ← cut? '/' rest
  let (_, rest) ← cut? '/' rest
  let (user, rest) ← cut? ':' rest
  let (password, rest) ← cut? '@' rest
  let (host, rest) ← cut? ':' rest
  let (port, database) ← cut? '/' rest
  return ⟨.ofList user, .ofList password, .ofList host, .ofList port, .ofList database⟩

end Parts

/-- A variable is not set, or to nothing. -/
def IsUnset (environment : Environment) (name : String) : Prop :=
  environment name = none ∨ environment name = some ""

/-- The variables of an environment give parts, under the names of a user and its password. -/
structure Gives (environment : Environment) (userName passwordName : String) (parts : Parts) :
    Prop where
  user : environment userName = some parts.user
  user_ne : parts.user ≠ ""
  password : environment passwordName = some parts.password
  password_ne : parts.password ≠ ""
  database : environment "DB_DATABASE" = some parts.database
  database_ne : parts.database ≠ ""
  host : (environment "DB_HOST").getD "db" = parts.host
  port : (environment "DB_PORT").getD "5432" = parts.port

/-- What an address is wanted for. -/
inductive Purpose where
  | services
  | schemaChanges
  deriving DecidableEq, Repr

/-- The address for a purpose. -/
def Purpose.address : Purpose → Environment → Except ConnectionError String
  | services => service
  | schemaChanges => admin

/-- In an environment the address for a purpose is put together from parts. Schema changes have a
user of their own, and without one they are made as the services are. -/
inductive Assembles (environment : Environment) : Purpose → Parts → Prop where
  | services {parts : Parts} (unset : IsUnset environment "DATABASE_URL")
      (gives : Gives environment "DB_USER" "DB_PASSWORD" parts) :
      Assembles environment .services parts
  | schemaChanges {parts : Parts} (unset : IsUnset environment "DB_ADMIN_URL")
      (gives : Gives environment "DB_ADMIN_USER" "DB_ADMIN_PASSWORD" parts) :
      Assembles environment .schemaChanges parts
  | asServices {parts : Parts} (unset : IsUnset environment "DB_ADMIN_URL")
      (nobody : IsUnset environment "DB_ADMIN_USER" ∨ IsUnset environment "DB_ADMIN_PASSWORD")
      (assembles : Assembles environment .services parts) :
      Assembles environment .schemaChanges parts

variable {environment : Environment} {parts : Parts} {purpose : Purpose}

theorem present_of_isUnset {name : String} (unset : IsUnset environment name) :
    present environment name = none := by
  rcases unset with unset | unset <;> simp [present, unset]

theorem present_of_ne {name value : String} (isSet : environment name = some value)
    (value_ne : value ≠ "") : present environment name = some value := by
  simp [present, isSet, value_ne]

theorem fromParts?_of_gives {userName passwordName : String}
    (gives : Gives environment userName passwordName parts) :
    fromParts? environment userName passwordName = some parts.address := by
  simp [fromParts?, present_of_ne gives.user gives.user_ne,
    present_of_ne gives.password gives.password_ne,
    present_of_ne gives.database gives.database_ne, gives.host, gives.port, Parts.address]

/-- The address is the one that the parts make. -/
theorem Assembles.address_eq (assembles : Assembles environment purpose parts) :
    purpose.address environment = .ok parts.address := by
  induction assembles with
  | services unset gives =>
      simp [Purpose.address, service, present_of_isUnset unset, fromParts?_of_gives gives]
  | schemaChanges unset gives =>
      simp [Purpose.address, admin, present_of_isUnset unset, fromParts?_of_gives gives]
  | asServices unset nobody _ inductionHypothesis =>
      have lacking : fromParts? environment "DB_ADMIN_USER" "DB_ADMIN_PASSWORD" = none := by
        rcases nobody with noUser | noPassword
        · simp [fromParts?, present_of_isUnset noUser]
        · simp [fromParts?, present_of_isUnset noPassword]
      simpa [Purpose.address, admin, present_of_isUnset unset, lacking] using inductionHypothesis

/-- No separator stands in an encoded text. -/
theorem isPlain_formEncode (text : String) : IsPlain (Text.formEncode text) := by
  have each : ∀ code < 256, (Text.formEncodeByte (UInt8.ofNat code)).all
      (fun character => character != ':' && character != '@' && character != '/') = true := by
    decide +kernel
  have plain : ∀ character ∈ (Text.formEncode text).toList,
      character ≠ ':' ∧ character ≠ '@' ∧ character ≠ '/' := by
    intro character isHeld
    rw [Text.formEncode, String.toList_ofList, List.mem_flatMap] at isHeld
    obtain ⟨byte, -, isHeld⟩ := isHeld
    have isPlain := List.all_eq_true.mp (each byte.toNat byte.toNat_lt) character
      (by simpa using isHeld)
    simpa [and_assoc] using isPlain
  exact ⟨fun isHeld => (plain _ isHeld).1 rfl, fun isHeld => (plain _ isHeld).2.1 rfl,
    fun isHeld => (plain _ isHeld).2.2 rfl⟩

/-- The characters of an assembled address. -/
theorem toList_assembled (user password host port database : String) :
    (assembled user password host port database).toList =
      "postgresql+psycopg".toList ++ ':' :: '/' :: '/' :: (user.toList ++
        ':' :: ((Text.formEncode password).toList ++ '@' :: (host.toList ++
          ':' :: (port.toList ++ '/' :: database.toList)))) := by
  have joined : assembled user password host port database =
      "postgresql+psycopg" ++ "://" ++ user ++ ":" ++ Text.formEncode password ++ "@" ++ host ++
        ":" ++ port ++ "/" ++ database := rfl
  simp only [joined, String.toList_append, List.append_assoc]
  rfl

/-- Reading an address finds the parts that it was made from, the password as it is encoded. -/
theorem Parts.ofAddress?_address (plain : parts.IsPlain) :
    Parts.ofAddress? parts.address =
      some { parts with password := Text.formEncode parts.password } := by
  obtain ⟨user, password, host, port, database⟩ := parts
  have noColon : ':' ∉ "postgresql+psycopg".toList := by simp
  have whole := toList_assembled user password host port database
  -- The characters of the scheme do not matter below, only that none of them is a colon.
  generalize "postgresql+psycopg".toList = scheme at noColon whole
  simp [ofAddress?, Parts.address, whole, cut?_append noColon, cut?_self,
    cut?_append plain.user.1, cut?_append (isPlain_formEncode password).2.1,
    cut?_append plain.host.1, cut?_append plain.port.2.2]

/-- Reading an address tells which parts it was made from. -/
theorem Parts.address_injective {other : Parts} (plain : parts.IsPlain) (otherPlain : other.IsPlain)
    (same : other.address = parts.address) : other = parts := by
  have isRead := Parts.ofAddress?_address otherPlain
  rw [same, Parts.ofAddress?_address plain] at isRead
  obtain ⟨user, password, host, port, database⟩ := parts
  obtain ⟨otherUser, otherPassword, otherHost, otherPort, otherDatabase⟩ := other
  simp only [Option.some.injEq, Parts.mk.injEq] at isRead ⊢
  exact ⟨isRead.1.symm, (Text.formEncode_injective isRead.2.1).symm, isRead.2.2.1.symm,
    isRead.2.2.2.1.symm, isRead.2.2.2.2.symm⟩

/-- An assembled address shows its password in a text without separators. The text is decoded to the
password with plus signs in the place of its spaces, so to the password itself exactly if it has no
space. Still no two passwords make the same address. -/
theorem password_survives_iff (assembles : Assembles environment purpose parts)
    (plain : parts.IsPlain) :
    ∃ address coded, purpose.address environment = .ok address ∧
      Parts.ofAddress? address = some { parts with password := coded } ∧
      IsPlain coded ∧
      Text.percentDecoded? coded = some (Text.replaced ' ' '+' parts.password) ∧
      (Text.percentDecoded? coded = some parts.password ↔ ' ' ∉ parts.password.toList) ∧
      ∀ (otherEnvironment : Environment) (otherPurpose : Purpose) (other : Parts),
        Assembles otherEnvironment otherPurpose other → other.IsPlain →
          otherPurpose.address otherEnvironment = .ok address → other = parts := by
  have decoded : Text.percentDecoded? (Text.formEncode parts.password) =
      some (Text.replaced ' ' '+' parts.password) := by
    simpa using Text.percentDecoded?_formEncode (by decide : '+' ≠ '%') parts.password
  refine ⟨parts.address, Text.formEncode parts.password, assembles.address_eq,
    Parts.ofAddress?_address plain, isPlain_formEncode _, decoded, ?_, ?_⟩
  · rw [decoded, Option.some.injEq, Text.replaced_eq_self_iff (by decide)]
  · intro otherEnvironment otherPurpose other otherAssembles otherPlain same
    rw [otherAssembles.address_eq, Except.ok.injEq] at same
    exact Parts.address_injective plain otherPlain same

/-- Separators, percent and plus signs and characters outside the ASCII range all survive. -/
theorem password_survives_signs :
    let environment : Environment := fun name =>
      [("DB_ADMIN_USER", "owner"), ("DB_ADMIN_PASSWORD", "p@s:s/%41+\u00e9"), ("DB_DATABASE", "n"),
        ("DB_HOST", "h")].lookup name
    let parts : Parts := ⟨"owner", "p@s:s/%41+\u00e9", "h", "5432", "n"⟩
    Assembles environment .schemaChanges parts ∧ parts.IsPlain ∧
      ∃ address coded, admin environment = .ok address ∧
        Parts.ofAddress? address = some ⟨"owner", coded, "h", "5432", "n"⟩ ∧ IsPlain coded ∧
        Text.percentDecoded? coded = some "p@s:s/%41+\u00e9" := by
  intro environment parts
  have gives : Gives environment "DB_ADMIN_USER" "DB_ADMIN_PASSWORD" parts :=
    ⟨rfl, by decide, rfl, by decide, rfl, by decide, rfl, rfl⟩
  have assembles : Assembles environment .schemaChanges parts := .schemaChanges (.inl rfl) gives
  have plain : parts.IsPlain :=
    ⟨by decide +kernel, by decide +kernel, by decide +kernel, by decide +kernel⟩
  obtain ⟨address, coded, isAddress, isRead, isPlain, -, survives, -⟩ :=
    password_survives_iff assembles plain
  exact ⟨assembles, plain, address, coded, isAddress, isRead, isPlain,
    survives.mpr (by decide +kernel)⟩

/-- A space does not: the address shows a plus sign in its place, and decoding leaves it there. -/
theorem password_loses_space :
    let environment : Environment := fun name =>
      [("DB_USER", "u"), ("DB_PASSWORD", "a b"), ("DB_DATABASE", "n")].lookup name
    let parts : Parts := ⟨"u", "a b", "db", "5432", "n"⟩
    Assembles environment .services parts ∧ parts.IsPlain ∧
      service environment = .ok "postgresql+psycopg://u:a+b@db:5432/n" ∧
      Parts.ofAddress? "postgresql+psycopg://u:a+b@db:5432/n" =
        some ⟨"u", "a+b", "db", "5432", "n"⟩ ∧
      Text.percentDecoded? "a+b" = some "a+b" ∧ Text.percentDecoded? "a+b" ≠ some "a b" := by
  intro environment parts
  have gives : Gives environment "DB_USER" "DB_PASSWORD" parts :=
    ⟨rfl, by decide, rfl, by decide, rfl, by decide, rfl, rfl⟩
  have assembles : Assembles environment .services parts := .services (.inl rfl) gives
  have plain : parts.IsPlain :=
    ⟨by decide +kernel, by decide +kernel, by decide +kernel, by decide +kernel⟩
  have isAddress : parts.address = "postgresql+psycopg://u:a+b@db:5432/n" := by decide +kernel
  have isDecoded : Text.percentDecoded? "a+b" = some "a+b" := by decide +kernel
  refine ⟨assembles, plain, isAddress ▸ assembles.address_eq, by decide +kernel, isDecoded, ?_⟩
  simp [isDecoded]

end Connection

end Lookout
