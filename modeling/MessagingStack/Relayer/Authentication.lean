import MessagingStack.Base.Fallible
import MessagingStack.Relayer.Messages

/-!
# Who sent a request

The part of the three authenticators that says who sent a request: a request names its key and
its signature in hex, and `verifyRequestSender` (`auth/request_sender.rs`) accepts the sender
whose key verifies the signed bytes.  The WebSocket upgrades (`auth/ws_auth.rs`) sign a canonical
string of their headers or query fields; the upgrade to a group socket also needs
`MessagingReader` in the group, the upgrade to the feed of a wallet needs no membership.
-/

namespace MessagingStack.Relayer

/-! ## Errors -/

/-- Error types for authentication failures. -/
inductive AuthError where
  | missingSignature
  | missingPublicKey
  | missingTimestamp
  | invalidTimestamp (reason : String)
  | requestExpired (timestamp serverTime ttlSeconds : Int)
  | invalidSignatureFormat (reason : String)
  | invalidPublicKeyFormat (reason : String)
  | signatureVerificationFailed (reason : String)
  | addressMismatch (expected got : String)
  | notGroupMember (address groupId : String)
  deriving DecidableEq

def AuthError.display : AuthError → String
  | .missingSignature => "Missing X-Signature header"
  | .missingPublicKey => "Missing X-Public-Key header"
  | .missingTimestamp => "Missing timestamp"
  | .invalidTimestamp reason => "Invalid timestamp: " ++ reason
  | .requestExpired timestamp serverTime ttlSeconds =>
    "Request expired: timestamp " ++ toString timestamp ++ " is more than " ++
      toString ttlSeconds ++ "s from server time " ++ toString serverTime
  | .invalidSignatureFormat reason => "Invalid signature format: " ++ reason
  | .invalidPublicKeyFormat reason => "Invalid public key format: " ++ reason
  | .signatureVerificationFailed reason => "Signature verification failed: " ++ reason
  | .addressMismatch expected got => "Address mismatch: expected " ++ expected ++ ", got " ++ got
  | .notGroupMember address groupId =>
    "Address " ++ address ++ " is not a member of group " ++ groupId

/-- The answer to a request that is not let through. -/
structure Rejection where
  status : Nat
  error : String
  code : String
  deriving DecidableEq

/-- An early return with an error. -/
def refuse {ε : Type} (condition : Prop) [Decidable condition] (reason : ε) : Except ε Unit :=
  if condition then .error reason else .ok ()

/-! ## Fields of a request -/

/-- `HeaderMap`: names in lower case, values as bytes. -/
abbrev HeaderMap := List (String × Bytes)

def headerText (value : Bytes) : Option String :=
  if value.all fun byte => (32 ≤ byte && byte < 127) || byte == 9 then
    some (String.ofList (value.map fun byte => Char.ofNat byte.toNat))
  else none

/-- Extracts a header value as a trimmed String. -/
def getHeader (headers : HeaderMap) (name : String) : Option String :=
  ((headers.lookup name).bind headerText).map Text.trim

def stripHexPrefix (hex : String) : String :=
  match hex.toList with
  | '0' :: 'x' :: digits => String.ofList digits
  | '0' :: 'X' :: digits => String.ofList digits
  | _ => hex

/-- The value of decimal digits, if there is at least one and nothing else. -/
def parseDigits (digits : List Char) : Option Nat :=
  if digits ≠ [] ∧ digits.all Char.isDigit then
    some (digits.foldl (fun value digit => value * 10 + (digit.toNat - 48)) 0)
  else none

def parseI64 (text : String) : Option Int :=
  let value : Option Int :=
    match text.toList with
    | '-' :: digits => (parseDigits digits).map fun value => -(value : Int)
    | '+' :: digits => (parseDigits digits).map fun value => (value : Int)
    | digits => (parseDigits digits).map fun value => (value : Int)
  value.filter fun value => -2 ^ 63 ≤ value && value < 2 ^ 63

/-! ## The sender -/

def SignatureScheme.fromFlag (flag : UInt8) : Option SignatureScheme :=
  if flag = 0 then some .ed25519
  else if flag = 1 then some .secp256k1
  else if flag = 2 then some .secp256r1
  else none

def SignatureScheme.publicKeyLength : SignatureScheme → Nat
  | .ed25519 => 32
  | .secp256k1 => 33
  | .secp256r1 => 33

def SignatureScheme.display : SignatureScheme → String
  | .ed25519 => "Ed25519"
  | .secp256k1 => "Secp256k1"
  | .secp256r1 => "Secp256r1"

/-- The flag byte clients send for a zkLogin-signed request. -/
def zkloginFlag : UInt8 := 5

/-- The decoded `public_key` request field. -/
inductive RequestKey where
  /-- Flagged public key whose address must equal the sender. -/
  | key (scheme : SignatureScheme) (publicKey : Bytes)
  /-- The signature field carries a full serialized zkLogin signature. -/
  | zkLogin
  deriving DecidableEq

/-- A request sender whose signature checked out. -/
structure VerifiedSender where
  scheme : SignatureScheme
  publicKey : Bytes
  zklogin : Bool
  deriving DecidableEq

/-- What the authenticators call outside of their own code. -/
structure AuthCrates where
  parseSignature : Bytes → Except String Unit
  verifyPersonalMessage : Bytes → Bytes → Except String Unit
  blake2b256 : Bytes → Bytes
  /-- `zklogin::shared().verify(message, signature, sender_address)`: the scheme and the
  ephemeral key of the proof. -/
  verifyZklogin : Bytes → Bytes → String → Except AuthError (SignatureScheme × Bytes)

def wrongKeyLength (scheme : SignatureScheme) (publicKey : Bytes) : AuthError :=
  .invalidPublicKeyFormat ("Expected " ++ toString scheme.publicKeyLength ++ " bytes for " ++
    scheme.display ++ ", got " ++ toString publicKey.length)

/-- Parses the flagged `public_key` bytes. -/
def parseRequestKey : Bytes → Except AuthError RequestKey
  | [] => .error (.invalidPublicKeyFormat "Empty public key")
  | flag :: publicKey =>
    if flag = zkloginFlag then
      if publicKey.length + 1 ≠ 1 then
        .error (.invalidPublicKeyFormat "zkLogin public_key must be the flag byte 05 only")
      else .ok .zkLogin
    else
      match SignatureScheme.fromFlag flag with
      | none =>
        .error (.invalidPublicKeyFormat ("Unknown signature scheme flag: 0x" ++ Hex.encode [flag]))
      | some scheme =>
        if publicKey.length ≠ scheme.publicKeyLength then .error (wrongKeyLength scheme publicKey)
        else .ok (.key scheme publicKey)

/-- Validates that a timestamp is within the acceptable TTL window. -/
def validateTimestamp (now timestamp ttlSeconds : Int) : Except AuthError Unit :=
  if ttlSeconds < (now - timestamp).natAbs then .error (.requestExpired timestamp now ttlSeconds)
  else .ok ()

section Sender

variable (crates : AuthCrates)

def verifySignature (message signature publicKey : Bytes) (scheme : SignatureScheme) :
    Except AuthError Unit := do
  refuse (signature.length ≠ 64)
    (AuthError.invalidSignatureFormat ("Expected 64 bytes, got " ++ toString signature.length))
  refuse (publicKey.length ≠ scheme.publicKeyLength) (wrongKeyLength scheme publicKey)
  let serialized := scheme.flag :: signature ++ publicKey
  match crates.parseSignature serialized with
  | .error reason => .error (.invalidSignatureFormat ("Failed to parse signature: " ++ reason))
  | .ok _ =>
    match crates.verifyPersonalMessage message serialized with
    | .error reason => .error (.signatureVerificationFailed reason)
    | .ok _ => .ok ()

def deriveMysoAddress (publicKey : Bytes) (scheme : SignatureScheme) :
    Except AuthError String :=
  if publicKey.length ≠ scheme.publicKeyLength then .error (wrongKeyLength scheme publicKey)
  else .ok ("0x" ++ Hex.encode (crates.blake2b256 (scheme.flag :: publicKey)))

def verifyAddressMatchesPubkey (claimedAddress : String) (publicKey : Bytes)
    (scheme : SignatureScheme) : Except AuthError String := do
  let derivedAddress ← deriveMysoAddress crates publicKey scheme
  refuse (Text.eqIgnoreAsciiCase claimedAddress derivedAddress = false)
    (AuthError.addressMismatch derivedAddress claimedAddress)
  return derivedAddress

def verifyRequestSender (message signature : Bytes) (key : RequestKey)
    (senderAddress : String) : Except AuthError VerifiedSender :=
  match key with
  | .key scheme publicKey => do
    verifySignature crates message signature publicKey scheme
    let _ ← verifyAddressMatchesPubkey crates senderAddress publicKey scheme
    return { scheme, publicKey, zklogin := false }
  | .zkLogin => do
    let (scheme, publicKey) ← crates.verifyZklogin message signature senderAddress
    return { scheme, publicKey, zklogin := true }

end Sender

/-- Lift an authentication error into the answer of an authenticator. -/
def rejecting {α : Type} (reject : AuthError → Rejection) (result : Except AuthError α) :
    Except Rejection α :=
  result.mapError reject

/-! ## WebSocket upgrades -/

/-- The query fields of an upgrade. -/
structure WsAuthQuery where
  groupId : Option String := none
  senderAddress : Option String := none
  timestamp : Option Int := none
  signature : Option String := none
  publicKey : Option String := none
  afterOrder : Option Int := none

def wsAuthErrorResponse (status : Nat) (error : AuthError) : Rejection where
  status := status
  error := error.display
  code :=
    match error with
    | .invalidSignatureFormat _ => "INVALID_SIGNATURE"
    | .invalidPublicKeyFormat _ => "INVALID_PUBLIC_KEY"
    | .signatureVerificationFailed _ => "SIGNATURE_VERIFICATION_FAILED"
    | .addressMismatch _ _ => "ADDRESS_MISMATCH"
    | .requestExpired _ _ _ | .invalidTimestamp _ => "INVALID_TIMESTAMP"
    | .notGroupMember _ _ => "FORBIDDEN"
    | .missingSignature | .missingPublicKey | .missingTimestamp => "MISSING_AUTH"

/-- A field of an upgrade that neither the query nor the headers have. -/
def orMissing {α : Type} (field : Option α) (error code : String) : Except Rejection α :=
  match field with
  | some value => .ok value
  | none => .error ⟨401, error, code⟩

/-- What both upgrades check, after the group: the fields, the clock, the key and the signature
over the canonical string of the sender, the timestamp and the group if there is one. -/
def authenticateWsSender (crates : AuthCrates) (now requestTtlSeconds : Int)
    (headers : HeaderMap) (query : WsAuthQuery) (groupId : Option String) :
    Except Rejection AuthContext := do
  let senderAddress ← orMissing
    (query.senderAddress <|> getHeader headers "x-sender-address")
    "Missing sender_address" "MISSING_SENDER_ADDRESS"
  let senderAddress := Text.toAsciiLowercase senderAddress
  let timestamp ← orMissing
    (query.timestamp <|> (getHeader headers "x-timestamp").bind parseI64)
    "Missing timestamp" "MISSING_TIMESTAMP"
  let signatureHex ← orMissing (query.signature <|> getHeader headers "x-signature")
    "Missing signature" "MISSING_SIGNATURE"
  let publicKeyHex ← orMissing (query.publicKey <|> getHeader headers "x-public-key")
    "Missing public_key" "MISSING_PUBLIC_KEY"
  rejecting (wsAuthErrorResponse 401) (validateTimestamp now timestamp requestTtlSeconds)
  let publicKeyWithFlag ← rejecting (wsAuthErrorResponse 401)
    ((Hex.decode (stripHexPrefix publicKeyHex)).mapError fun reason =>
      .invalidPublicKeyFormat reason.display)
  let requestKey ← rejecting (wsAuthErrorResponse 401) (parseRequestKey publicKeyWithFlag)
  let signatureBytes ← rejecting (wsAuthErrorResponse 401)
    ((Hex.decode (stripHexPrefix signatureHex)).mapError fun reason =>
      .invalidSignatureFormat reason.display)
  let canonical := toString timestamp ++ ":" ++ senderAddress ++
    (groupId.map fun groupId => ":" ++ groupId).getD ""
  let verified ← rejecting (wsAuthErrorResponse 401)
    (verifyRequestSender crates (Text.utf8 canonical) signatureBytes requestKey senderAddress)
  return { senderAddress
           authorizedGroup := groupId
           scheme := verified.scheme
           publicKey := verified.publicKey
           zklogin := verified.zklogin }

/-- Authenticate a WebSocket upgrade using headers or query parameters. -/
def authenticateWsUpgrade (crates : AuthCrates) (now requestTtlSeconds : Int)
    (membershipStore : MembershipStore) (headers : HeaderMap) (query : WsAuthQuery) :
    Except Rejection AuthContext := do
  let groupId ← orMissing (query.groupId <|> getHeader headers "x-group-id")
    "Missing group_id" "MISSING_GROUP_ID"
  let groupId := Text.toAsciiLowercase groupId
  let auth ← authenticateWsSender crates now requestTtlSeconds headers query (some groupId)
  refuse (membershipStore.hasPermission groupId auth.senderAddress .messagingReader = false)
    (Rejection.mk 403 "Insufficient permissions" "FORBIDDEN")
  return auth

/-- Authenticate a wallet-scoped (user feed) WebSocket upgrade: no group membership is
required. -/
def authenticateUserWsUpgrade (crates : AuthCrates) (now requestTtlSeconds : Int)
    (headers : HeaderMap) (query : WsAuthQuery) : Except Rejection AuthContext :=
  authenticateWsSender crates now requestTtlSeconds headers query none

/-! ## What an accepted upgrade says -/

theorem refuse_eq_ok {ε : Type} {condition : Prop} [Decidable condition] {reason : ε}
    {passed : Unit} : refuse condition reason = .ok passed ↔ ¬condition := by
  by_cases holds : condition <;> simp [refuse, holds]

end MessagingStack.Relayer
