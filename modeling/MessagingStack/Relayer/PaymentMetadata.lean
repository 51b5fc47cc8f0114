import MessagingStack.Relayer.Message

/-!
# Payment metadata

Cleartext, relayer-owned metadata of the 1:1 DM payment kinds
(`models/payment_metadata.rs`): what a client may send at creation, and what is stored.
Everything a client sends beside the allow-listed fields is ignored.
-/

namespace MessagingStack.Relayer

inductive PaymentAssetKind where
  | native
  | spt
  deriving DecidableEq

namespace PaymentAssetKind

def parse (s : String) : Option PaymentAssetKind :=
  if s = "native" then some .native else if s = "spt" then some .spt else none

def asStr : PaymentAssetKind → String
  | .native => "native"
  | .spt => "spt"

end PaymentAssetKind

inductive PaymentMetadataError where
  | missing
  | invalid (message : String)
  deriving DecidableEq

def PaymentMetadataError.display : PaymentMetadataError → String
  | .missing => "metadata is required for this message kind"
  | .invalid message => message

def base58Alphabet : List Char :=
  "123456789ABCDEFGHJKLMNPQRSTUVWXYZabcdefghijkmnopqrstuvwxyz".toList

def isValidTxDigest (s : String) : Bool :=
  32 ≤ s.utf8ByteSize && s.utf8ByteSize ≤ 44 && s.toList.all (base58Alphabet.contains ·)

def transferIdempotencyKey (sender digest : String) : String :=
  "transfer:" ++ Text.toAsciiLowercase sender ++ ":" ++ digest

def strField (metadata : Json) (key : String) : Option String :=
  ((metadata.get key).bind Json.asStr).map Text.trim

/-- Lowercase `0x` and left-pad to 64 hex digits. -/
def normalizeWallet (raw : String) : Option String := Text.normalizeHexAddress raw

structure TokenTransferCreate where
  digest : String
  assetKind : PaymentAssetKind
  requestMessageId : Option Uuid
  senderWallet : Option String
  deriving DecidableEq

def parseAssetKind (metadata : Json) : Except PaymentMetadataError PaymentAssetKind :=
  match (strField metadata "asset_kind").bind PaymentAssetKind.parse with
  | some assetKind => .ok assetKind
  | none => .error (.invalid "metadata.asset_kind must be native or spt")

/-- A client may name the status a payment row starts in, and no other. -/
def checkStatus (metadata : Json) (expected message : String) :
    Except PaymentMetadataError Unit :=
  match strField metadata "status" with
  | none => .ok ()
  | some status => if status = expected then .ok () else .error (.invalid message)

def parseTokenTransferCreate (parseUuid : String → Option Uuid) (metadata : Option Json)
    (idempotencyKey : Option String) (sender : String) :
    Except PaymentMetadataError TokenTransferCreate := do
  let metadata ←
    match metadata with
    | some metadata => .ok metadata
    | none => .error .missing
  let digest ←
    match strField metadata "digest" with
    | some digest => .ok digest
    | none => .error (.invalid "metadata.digest is required")
  if !isValidTxDigest digest then
    .error (.invalid "metadata.digest must be a base58 transaction digest")
  let assetKind ← parseAssetKind metadata
  checkStatus metadata "pending" "metadata.status must be pending on create"
  let expectedKey := transferIdempotencyKey sender digest
  if idempotencyKey ≠ some expectedKey then
    .error (.invalid ("idempotency_key must equal " ++ expectedKey))
  let requestMessageId ←
    match strField metadata "request_message_id" with
    | none => .ok none
    | some raw =>
      match parseUuid raw with
      | some id => .ok (some id)
      | none => .error (.invalid "metadata.request_message_id must be a UUID")
  let senderWallet ←
    match strField metadata "sender_wallet" with
    | none => .ok none
    | some raw =>
      match normalizeWallet raw with
      | some wallet => .ok (some wallet)
      | none => .error (.invalid "metadata.sender_wallet must be a 0x address")
  return { digest, assetKind, requestMessageId, senderWallet }

/-- Canonical stored `token_transfer` metadata; `to` is derived from membership. -/
def tokenTransferMetadata (uuidToString : Uuid → String) (create : TokenTransferCreate)
    (recipient : String) : Json :=
  .obj ([("version", .num 1), ("digest", .str create.digest),
      ("asset_kind", .str create.assetKind.asStr), ("status", .str "pending"),
      ("to", .str recipient)] ++
    (create.requestMessageId.map fun id =>
      ("request_message_id", Json.str (uuidToString id))).toList ++
    (create.senderWallet.map fun wallet => ("sender_wallet", Json.str wallet)).toList)

structure PaymentRequestCreate where
  assetKind : PaymentAssetKind
  deriving DecidableEq

def parsePaymentRequestCreate (metadata : Option Json) (idempotencyKey : Option String) :
    Except PaymentMetadataError PaymentRequestCreate := do
  let metadata ←
    match metadata with
    | some metadata => .ok metadata
    | none => .error .missing
  let assetKind ← parseAssetKind metadata
  checkStatus metadata "open" "metadata.status must be open on create"
  let start := "request:".toList
  match idempotencyKey with
  | some key =>
    if start.length < key.toList.length ∧ start.isPrefixOf key.toList then .ok { assetKind }
    else .error (.invalid "idempotency_key must start with request:")
  | none => .error (.invalid "idempotency_key must start with request:")

def paymentRequestMetadata (create : PaymentRequestCreate) (payer : String) : Json :=
  .obj [("version", .num 1), ("asset_kind", .str create.assetKind.asStr),
    ("payer", .str payer), ("status", .str "open")]

end MessagingStack.Relayer
