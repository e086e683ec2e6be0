import Switchboard.Json.Record

/-!
# Authorization states and start-up parameters

The engine walks a sign-in sequence and reports where it stands as an authorization state: it
waits for start-up parameters, an encryption key, a phone number or bot token, a code, a password,
and is then ready; it may log out, close, and be closed. A state is a tagged union on the wire,
tagged under `@type`; a tag this library does not know reads as `unknown`, so that a newer engine
cannot break a reader.

The start-up parameters are a record of fifteen fields, all required when read. They are written
with their tag `tdlibParameters` first and the fields in declaration order.
-/

namespace Switchboard

/-- Where the engine is in its sign-in sequence. -/
inductive AuthState where
  | waitParameters
  | waitEncryptionKey (isEncrypted : Bool)
  | waitPhoneNumber
  | waitCode (isRegistered : Bool)
  | waitPassword (passwordHint : String) (hasRecoveryEmailAddress : Bool)
      (recoveryEmailAddressPattern : String)
  | waitBotToken
  | ready
  | loggingOut
  | closing
  | closed
  /-- A state whose tag this library does not know. -/
  | unknown
  deriving DecidableEq, Repr

/-- The kinds of authorization state, one for each tag. -/
inductive AuthKind where
  | waitParameters
  | waitEncryptionKey
  | waitPhoneNumber
  | waitCode
  | waitPassword
  | waitBotToken
  | ready
  | loggingOut
  | closing
  | closed
  | unknown
  deriving DecidableEq, Repr

namespace AuthKind

/-- The kinds that have a tag, in declaration order. -/
def tagged : List AuthKind :=
  [waitParameters, waitEncryptionKey, waitPhoneNumber, waitCode, waitPassword, waitBotToken, ready,
    loggingOut, closing, closed]

/-- The wire tag of a kind; `unknown` has none and is named `unknown`. -/
def tag : AuthKind → String
  | waitParameters => "authorizationStateWaitTdlibParameters"
  | waitEncryptionKey => "authorizationStateWaitEncryptionKey"
  | waitPhoneNumber => "authorizationStateWaitPhoneNumber"
  | waitCode => "authorizationStateWaitCode"
  | waitPassword => "authorizationStateWaitPassword"
  | waitBotToken => "authorizationStateWaitBotToken"
  | ready => "authorizationStateReady"
  | loggingOut => "authorizationStateLoggingOut"
  | closing => "authorizationStateClosing"
  | closed => "authorizationStateClosed"
  | unknown => "unknown"

/-- The kind's name in error messages. -/
def variantName : AuthKind → String
  | waitParameters => "WaitTdlibParameters"
  | waitEncryptionKey => "WaitEncryptionKey"
  | waitPhoneNumber => "WaitPhoneNumber"
  | waitCode => "WaitCode"
  | waitPassword => "WaitPassword"
  | waitBotToken => "WaitBotToken"
  | ready => "Ready"
  | loggingOut => "LoggingOut"
  | closing => "Closing"
  | closed => "Closed"
  | unknown => "Unknown"

/-- The kind a tag names: the tagged kind whose tag it is, else `unknown`. -/
def ofTag (name : String) : AuthKind :=
  (tagged.find? fun kind => kind.tag = name).getD unknown

end AuthKind

namespace AuthState

/-- The kind of a state. -/
def kind : AuthState → AuthKind
  | waitParameters => .waitParameters
  | waitEncryptionKey _ => .waitEncryptionKey
  | waitPhoneNumber => .waitPhoneNumber
  | waitCode _ => .waitCode
  | waitPassword .. => .waitPassword
  | waitBotToken => .waitBotToken
  | ready => .ready
  | loggingOut => .loggingOut
  | closing => .closing
  | closed => .closed
  | unknown => .unknown

/-- The wire tag of a state, `unknown` for a state read from an unknown tag. -/
def typeName (state : AuthState) : String :=
  state.kind.tag

/-- Whether sign-in has completed. -/
def isReady : AuthState → Bool
  | ready => true
  | _ => false

/-- Whether the engine is shutting down and will not become ready. -/
def isTerminal : AuthState → Bool
  | loggingOut | closing | closed => true
  | _ => false

/-- The wire form: the tag under `@type`, then the fields; an unknown state is tagged `Unknown`. -/
def toJson : AuthState → Json
  | waitEncryptionKey isEncrypted =>
      .object [("@type", .string AuthKind.waitEncryptionKey.tag), ("is_encrypted", .bool isEncrypted)]
  | waitCode isRegistered =>
      .object [("@type", .string AuthKind.waitCode.tag), ("is_registered", .bool isRegistered)]
  | waitPassword hint hasEmail pattern =>
      .object [("@type", .string AuthKind.waitPassword.tag), ("password_hint", .string hint),
        ("has_recovery_email_address", .bool hasEmail),
        ("recovery_email_address_pattern", .string pattern)]
  | unknown => .object [("@type", .string "Unknown")]
  | state => .object [("@type", .string state.typeName)]

/-- The union's name in error messages. -/
def unionName : String := "AuthorizationState"

/-- How a variant with fields is named in error messages. -/
def recordName (kind : AuthKind) : String :=
  "struct variant " ++ unionName ++ "::" ++ kind.variantName

section Reading

variable {m : Type → Type} [Monad m] [MonadExceptOf DecodeError m] [JsonSource m]

/-- Reads the fields of a password request; all three default. -/
def readPassword : m AuthState :=
  let record := recordName .waitPassword
  JsonSource.record record
    (do
      let (hint, hasEmail, pattern) ← JsonSource.foldEntries
        ((none : Option String), (none : Option Bool), (none : Option String))
        fun (hint, hasEmail, pattern) key =>
          if key = "password_hint" then do
            pure (← JsonSource.fieldOnce hint key JsonSource.string, hasEmail, pattern)
          else if key = "has_recovery_email_address" then do
            pure (hint, ← JsonSource.fieldOnce hasEmail key JsonSource.bool, pattern)
          else if key = "recovery_email_address_pattern" then do
            pure (hint, hasEmail, ← JsonSource.fieldOnce pattern key JsonSource.string)
          else do
            JsonSource.entry JsonSource.skip
            pure (hint, hasEmail, pattern)
      pure (waitPassword (hint.getD "") (hasEmail.getD false) (pattern.getD "")))
    (do
      let hint ← JsonSource.positional record 3 0 JsonSource.string (some "")
      let hasEmail ← JsonSource.positional record 3 1 JsonSource.bool (some false)
      let pattern ← JsonSource.positional record 3 2 JsonSource.string (some "")
      pure (waitPassword hint hasEmail pattern))

/-- Reads the variant of `kind` from the rest of a state. -/
def readVariant (kind : AuthKind) : m AuthState :=
  match kind with
  | .waitEncryptionKey =>
      waitEncryptionKey <$>
        JsonSource.single (recordName kind) "is_encrypted" JsonSource.bool (some false)
  | .waitCode =>
      waitCode <$> JsonSource.single (recordName kind) "is_registered" JsonSource.bool (some false)
  | .waitPassword => readPassword
  | .waitParameters => pure waitParameters
  | .waitPhoneNumber => pure waitPhoneNumber
  | .waitBotToken => pure waitBotToken
  | .ready => pure ready
  | .loggingOut => pure loggingOut
  | .closing => pure closing
  | .closed => pure closed
  | .unknown => pure unknown

/-- Whether a kind's variant has fields. -/
def hasFields : AuthKind → Bool
  | .waitEncryptionKey | .waitCode | .waitPassword => true
  | _ => false

/-- Reads an authorization state. -/
def read : m AuthState :=
  JsonSource.union unionName "@type" (JsonSource.variantTag fun name => .ok (AuthKind.ofTag name))
    (fun kind =>
      if hasFields kind then readVariant kind
      else do
        Walk.unitVariant unionName kind.variantName
        readVariant kind)
    130

end Reading

end AuthState

/-- The engine's start-up parameters. -/
structure Parameters where
  useTestDc : Bool := false
  databaseDirectory : String := ""
  filesDirectory : String := ""
  useFileDatabase : Bool := false
  useChatInfoDatabase : Bool := false
  useMessageDatabase : Bool := false
  useSecretChats : Bool := false
  apiId : Int32 := 0
  apiHash : String := ""
  systemLanguageCode : String := ""
  deviceModel : String := ""
  systemVersion : String := ""
  applicationVersion : String := ""
  enableStorageOptimizer : Bool := false
  ignoreFileNames : Bool := false
  deriving DecidableEq, Repr

namespace Parameters

/-- Parameters with every field empty, false or zero. -/
def empty : Parameters := {}

/-- The wire form: the tag, then the fields in declaration order. -/
def toJson (p : Parameters) : Json :=
  .object [
    ("@type", .string "tdlibParameters"),
    ("use_test_dc", .bool p.useTestDc),
    ("database_directory", .string p.databaseDirectory),
    ("files_directory", .string p.filesDirectory),
    ("use_file_database", .bool p.useFileDatabase),
    ("use_chat_info_database", .bool p.useChatInfoDatabase),
    ("use_message_database", .bool p.useMessageDatabase),
    ("use_secret_chats", .bool p.useSecretChats),
    ("api_id", .number (Number.ofInt p.apiId.toInt)),
    ("api_hash", .string p.apiHash),
    ("system_language_code", .string p.systemLanguageCode),
    ("device_model", .string p.deviceModel),
    ("system_version", .string p.systemVersion),
    ("application_version", .string p.applicationVersion),
    ("enable_storage_optimizer", .bool p.enableStorageOptimizer),
    ("ignore_file_names", .bool p.ignoreFileNames)]

/-- The record's name in error messages. -/
def recordName : String := "struct TdlibParameters"

/-- Parameters being read from a map: the fields seen so far. -/
structure Partial where
  useTestDc : Option Bool := none
  databaseDirectory : Option String := none
  filesDirectory : Option String := none
  useFileDatabase : Option Bool := none
  useChatInfoDatabase : Option Bool := none
  useMessageDatabase : Option Bool := none
  useSecretChats : Option Bool := none
  apiId : Option Int32 := none
  apiHash : Option String := none
  systemLanguageCode : Option String := none
  deviceModel : Option String := none
  systemVersion : Option String := none
  applicationVersion : Option String := none
  enableStorageOptimizer : Option Bool := none
  ignoreFileNames : Option Bool := none

section Reading

variable {m : Type → Type} [Monad m] [MonadExceptOf DecodeError m] [JsonSource m]

open JsonSource in
/-- Reads one entry of a parameters map into `p`. -/
def readEntry (p : Partial) (key : String) : m Partial :=
  match key with
  | "use_test_dc" => do pure { p with useTestDc := ← fieldOnce p.useTestDc key bool }
  | "database_directory" => do
      pure { p with databaseDirectory := ← fieldOnce p.databaseDirectory key string }
  | "files_directory" => do pure { p with filesDirectory := ← fieldOnce p.filesDirectory key string }
  | "use_file_database" => do
      pure { p with useFileDatabase := ← fieldOnce p.useFileDatabase key bool }
  | "use_chat_info_database" => do
      pure { p with useChatInfoDatabase := ← fieldOnce p.useChatInfoDatabase key bool }
  | "use_message_database" => do
      pure { p with useMessageDatabase := ← fieldOnce p.useMessageDatabase key bool }
  | "use_secret_chats" => do pure { p with useSecretChats := ← fieldOnce p.useSecretChats key bool }
  | "api_id" => do pure { p with apiId := ← fieldOnce p.apiId key int32 }
  | "api_hash" => do pure { p with apiHash := ← fieldOnce p.apiHash key string }
  | "system_language_code" => do
      pure { p with systemLanguageCode := ← fieldOnce p.systemLanguageCode key string }
  | "device_model" => do pure { p with deviceModel := ← fieldOnce p.deviceModel key string }
  | "system_version" => do pure { p with systemVersion := ← fieldOnce p.systemVersion key string }
  | "application_version" => do
      pure { p with applicationVersion := ← fieldOnce p.applicationVersion key string }
  | "enable_storage_optimizer" => do
      pure { p with enableStorageOptimizer := ← fieldOnce p.enableStorageOptimizer key bool }
  | "ignore_file_names" => do
      pure { p with ignoreFileNames := ← fieldOnce p.ignoreFileNames key bool }
  | _ => do
      entry skip
      pure p

open JsonSource in
/-- Completes parameters read from a map; the first missing field in declaration order is the
error. -/
def complete (p : Partial) : m Parameters := do
  let useTestDc ← required p.useTestDc "use_test_dc"
  let databaseDirectory ← required p.databaseDirectory "database_directory"
  let filesDirectory ← required p.filesDirectory "files_directory"
  let useFileDatabase ← required p.useFileDatabase "use_file_database"
  let useChatInfoDatabase ← required p.useChatInfoDatabase "use_chat_info_database"
  let useMessageDatabase ← required p.useMessageDatabase "use_message_database"
  let useSecretChats ← required p.useSecretChats "use_secret_chats"
  let apiId ← required p.apiId "api_id"
  let apiHash ← required p.apiHash "api_hash"
  let systemLanguageCode ← required p.systemLanguageCode "system_language_code"
  let deviceModel ← required p.deviceModel "device_model"
  let systemVersion ← required p.systemVersion "system_version"
  let applicationVersion ← required p.applicationVersion "application_version"
  let enableStorageOptimizer ← required p.enableStorageOptimizer "enable_storage_optimizer"
  let ignoreFileNames ← required p.ignoreFileNames "ignore_file_names"
  pure ⟨useTestDc, databaseDirectory, filesDirectory, useFileDatabase, useChatInfoDatabase,
    useMessageDatabase, useSecretChats, apiId, apiHash, systemLanguageCode, deviceModel,
    systemVersion, applicationVersion, enableStorageOptimizer, ignoreFileNames⟩

open JsonSource in
/-- Reads parameters given as a sequence, fields in declaration order. -/
def readSequence : m Parameters := do
  let field {α : Type} (index : Nat) (read : m α) : m α := positional recordName 15 index read none
  let useTestDc ← field 0 bool
  let databaseDirectory ← field 1 string
  let filesDirectory ← field 2 string
  let useFileDatabase ← field 3 bool
  let useChatInfoDatabase ← field 4 bool
  let useMessageDatabase ← field 5 bool
  let useSecretChats ← field 6 bool
  let apiId ← field 7 int32
  let apiHash ← field 8 string
  let systemLanguageCode ← field 9 string
  let deviceModel ← field 10 string
  let systemVersion ← field 11 string
  let applicationVersion ← field 12 string
  let enableStorageOptimizer ← field 13 bool
  let ignoreFileNames ← field 14 bool
  pure ⟨useTestDc, databaseDirectory, filesDirectory, useFileDatabase, useChatInfoDatabase,
    useMessageDatabase, useSecretChats, apiId, apiHash, systemLanguageCode, deviceModel,
    systemVersion, applicationVersion, enableStorageOptimizer, ignoreFileNames⟩

/-- Reads start-up parameters; every field is required and the tag is not checked. -/
def read : m Parameters :=
  JsonSource.record recordName
    (do complete (← JsonSource.foldEntries {} readEntry))
    readSequence

end Reading

end Parameters

end Switchboard
