import MessagingStack.Relayer.Authentication

/-!
# The authenticator of the group routes

`auth_middleware` (`auth/middleware.rs`) stands in front of every group route.  It takes the
group, the sender and the time of a request from its JSON body (`POST`, `PUT`) or from its headers
(`GET`, `DELETE`), checks the signature over the raw body or over `timestamp:sender:group`, and
asks for the permission that belongs to the method.  The handler behind it gets the sender and the
group that was checked; a request with another method reaches the handler without them.
-/

namespace MessagingStack.Relayer

/-! ## Requests -/

inductive Method where
  | get
  | head
  | post
  | put
  | delete
  | other (name : String)
  deriving DecidableEq

def Method.requiredPermission : Method → Option MessagingPermission
  | .get => some .messagingReader
  | .post => some .messagingSender
  | .put => some .messagingEditor
  | .delete => some .messagingDeleter
  | .head | .other _ => none

def Method.useBodyAuth : Method → Bool
  | .post | .put => true
  | _ => false

structure HttpRequest where
  method : Method
  /-- The segments of the path as they are sent. -/
  path : List String
  query : String
  headers : HeaderMap
  body : Option Bytes

structure BodyAuthFields where
  groupId : String
  senderAddress : String
  timestamp : Int
  deriving DecidableEq

/-! ## The middleware -/

def authErrorResponse (status : Nat) (error : AuthError) : Rejection where
  status := status
  error := error.display
  code :=
    match error with
    | .requestExpired _ _ _ => "REQUEST_EXPIRED"
    | .invalidSignatureFormat _ => "INVALID_SIGNATURE_FORMAT"
    | .invalidPublicKeyFormat _ => "INVALID_PUBLIC_KEY_FORMAT"
    | .signatureVerificationFailed _ => "SIGNATURE_VERIFICATION_FAILED"
    | .addressMismatch _ _ => "ADDRESS_MISMATCH"
    | .notGroupMember _ _ => "NOT_GROUP_MEMBER"
    | .missingSignature => "MISSING_SIGNATURE"
    | .missingPublicKey => "MISSING_PUBLIC_KEY"
    | .missingTimestamp => "MISSING_TIMESTAMP"
    | .invalidTimestamp _ => "INVALID_TIMESTAMP"

/-- Who a request says it is from, and the bytes that have to be signed. -/
structure SignedClaim where
  groupId : String
  senderAddress : String
  timestamp : Int
  message : Bytes
  deriving DecidableEq

/-- The whole body is the signed message. -/
def claimOfBody (parse : Bytes → Except String BodyAuthFields) (body : Bytes) :
    Except Rejection SignedClaim :=
  match parse body with
  | .error reason => .error ⟨400, "Invalid request body: " ++ reason, "INVALID_BODY"⟩
  | .ok fields =>
    .ok
      { groupId := fields.groupId
        senderAddress := fields.senderAddress
        timestamp := fields.timestamp
        message := body }

/-- The string that is signed for a request without a body. -/
def canonicalRequest (timestamp : Int) (senderAddress groupId : String) : String :=
  toString timestamp ++ ":" ++ senderAddress ++ ":" ++ groupId

def parseTimestamp (text : String) : Except Rejection Int :=
  match parseI64 text with
  | some timestamp => .ok timestamp
  | none =>
    .error ⟨400, "Invalid X-Timestamp header: must be a unix timestamp", "INVALID_TIMESTAMP"⟩

/-- The fields come from headers, in lower case. -/
def claimOfHeaders (headers : HeaderMap) : Except Rejection SignedClaim := do
  let senderAddress ← orMissing (getHeader headers "x-sender-address")
    "Missing X-Sender-Address header" "MISSING_SENDER_ADDRESS"
  let timestampStr ← orMissing (getHeader headers "x-timestamp")
    "Missing X-Timestamp header" "MISSING_TIMESTAMP"
  let groupId ← orMissing (getHeader headers "x-group-id")
    "Missing X-Group-Id header" "MISSING_GROUP_ID"
  let timestamp ← parseTimestamp timestampStr
  let senderAddress := Text.toAsciiLowercase senderAddress
  let groupId := Text.toAsciiLowercase groupId
  return { groupId, senderAddress, timestamp
           message := Text.utf8 (canonicalRequest timestamp senderAddress groupId) }

def requestCredentials (headers : HeaderMap) : Except Rejection (RequestKey × Bytes) := do
  let signatureHex ← orMissing (getHeader headers "x-signature")
    "Missing X-Signature header" "MISSING_SIGNATURE"
  let publicKeyHex ← orMissing (getHeader headers "x-public-key")
    "Missing X-Public-Key header" "MISSING_PUBLIC_KEY"
  let publicKeyWithFlag ← rejecting (authErrorResponse 401)
    ((Hex.decode (stripHexPrefix publicKeyHex)).mapError fun reason =>
      .invalidPublicKeyFormat reason.display)
  let requestKey ← rejecting (authErrorResponse 401) (parseRequestKey publicKeyWithFlag)
  let signature ← rejecting (authErrorResponse 401)
    ((Hex.decode (stripHexPrefix signatureHex)).mapError fun reason =>
      .invalidSignatureFormat reason.display)
  return (requestKey, signature)

def HttpRequest.readBody (request : HttpRequest) : Except Rejection Bytes :=
  match request.body with
  | some body => .ok body
  | none => .error ⟨400, "Failed to read request body", "BODY_READ_ERROR"⟩

section Middleware

variable (crates : AuthCrates) (parse : Bytes → Except String BodyAuthFields)

/-- Extract auth fields and determine what was signed by HTTP method. -/
def signedClaim (request : HttpRequest) (body : Bytes) : Except Rejection SignedClaim :=
  if request.method.useBodyAuth then claimOfBody parse body else claimOfHeaders request.headers

/-- The middleware, for a method that requires a permission. -/
def authenticate (now requestTtlSeconds : Int) (membershipStore : MembershipStore)
    (request : HttpRequest) (permission : MessagingPermission) : Except Rejection AuthContext := do
  let (requestKey, signature) ← requestCredentials request.headers
  let body ← request.readBody
  let claim ← signedClaim parse request body
  rejecting (authErrorResponse 401) (validateTimestamp now claim.timestamp requestTtlSeconds)
  let verified ← rejecting (authErrorResponse 401)
    (verifyRequestSender crates claim.message signature requestKey claim.senderAddress)
  let groupId := Text.toAsciiLowercase claim.groupId
  let senderAddress := Text.toAsciiLowercase claim.senderAddress
  refuse (membershipStore.hasPermission groupId senderAddress permission = false)
    (authErrorResponse 403 (.notGroupMember senderAddress groupId))
  return { senderAddress
           publicKey := verified.publicKey
           scheme := verified.scheme
           authorizedGroup := some groupId
           zklogin := verified.zklogin }

/-- `auth_middleware`: the context for the handler, none for a method that is not checked. -/
def authMiddleware (now requestTtlSeconds : Int) (membershipStore : MembershipStore)
    (request : HttpRequest) : Except Rejection (Option AuthContext) :=
  match request.method.requiredPermission with
  | none => .ok none
  | some permission =>
    (authenticate crates parse now requestTtlSeconds membershipStore request permission).map some

end Middleware

/-! ## What an accepted request says -/

theorem rejecting_eq_ok {α : Type} {reject : AuthError → Rejection} {result : Except AuthError α}
    {value : α} : rejecting reject result = .ok value ↔ result = .ok value := by
  cases result <;> simp [rejecting, Except.mapError]

theorem readBody_eq_ok {request : HttpRequest} {body : Bytes} :
    request.readBody = .ok body ↔ request.body = some body := by
  unfold HttpRequest.readBody
  cases request.body <;> simp

/-- What the middleware has checked of a request that it lets through. -/
structure Accepted (crates : AuthCrates) (parse : Bytes → Except String BodyAuthFields)
    (now requestTtlSeconds : Int) (membershipStore : MembershipStore) (request : HttpRequest)
    (permission : MessagingPermission) (auth : AuthContext) where
  requestKey : RequestKey
  signature : Bytes
  body : Bytes
  claim : SignedClaim
  verified : VerifiedSender
  credentials : requestCredentials request.headers = .ok (requestKey, signature)
  isBody : request.body = some body
  isClaim : signedClaim parse request body = .ok claim
  inTime : validateTimestamp now claim.timestamp requestTtlSeconds = .ok ()
  signed : verifyRequestSender crates claim.message signature requestKey claim.senderAddress =
    .ok verified
  sender : auth.senderAddress = Text.toAsciiLowercase claim.senderAddress
  group : auth.authorizedGroup = some (Text.toAsciiLowercase claim.groupId)
  key : auth.publicKey = verified.publicKey ∧ auth.scheme = verified.scheme ∧
    auth.zklogin = verified.zklogin
  permitted : membershipStore.hasPermission (Text.toAsciiLowercase claim.groupId)
    auth.senderAddress permission = true

theorem authenticate_spec {crates : AuthCrates} {parse : Bytes → Except String BodyAuthFields}
    {now requestTtlSeconds : Int} {membershipStore : MembershipStore} {request : HttpRequest}
    {permission : MessagingPermission} {auth : AuthContext}
    (accepted : authenticate crates parse now requestTtlSeconds membershipStore request permission =
      .ok auth) :
    Nonempty (Accepted crates parse now requestTtlSeconds membershipStore request permission
      auth) := by
  simp only [authenticate, bind_eq_ok, rejecting_eq_ok] at accepted
  obtain ⟨⟨requestKey, signature⟩, credentials, body, isBody, claim, isClaim, _, inTime, verified,
    signed, _, permitted, returned⟩ := accepted
  cases returned
  rw [refuse_eq_ok, Bool.not_eq_false] at permitted
  exact ⟨⟨requestKey, signature, body, claim, verified, credentials, readBody_eq_ok.mp isBody,
    isClaim, inTime, signed, rfl, rfl, ⟨rfl, rfl, rfl⟩, permitted⟩⟩

end MessagingStack.Relayer
