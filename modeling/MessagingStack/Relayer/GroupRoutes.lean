import MessagingStack.Relayer.AuthMiddleware
import MessagingStack.Relayer.GroupStores
import MessagingStack.Relayer.Paging
import MessagingStack.Relayer.TransferConfirmation

/-!
# The group routes

The handlers behind `auth_middleware` (`build_router` in `server.rs`): messages, reactions, pins,
receipts, preferences, typing, presence, notification keys, attachments, MLS welcomes and group
infos, and the archive.  Most take their group from the path and compare it with the group that
the authenticator checked (`ensure_group`); those on one message compare the group of its row.
`create_message` takes its group from the body, the text that the authenticator read.  Two compare
nothing: `get_archive_messages` and `get_group_notification_keys`.
-/

namespace MessagingStack.Relayer

open Preferences (ConversationPreferences ConversationPreferencesPatch)
open Reactions (ReactionEntry)
open TransferConfirmation (checkRespond respond)

namespace GroupRoutes

/-! ## Bodies and queries -/

structure GetMessagesQuery where
  messageId : Option Uuid
  groupId : Option String
  afterOrder : Option Int
  beforeOrder : Option Int
  limit : Option Nat

structure RespondToPaymentRequestBody where
  messageId : Uuid
  action : String

structure PostReactionBody where
  chainSeq : Int
  emoji : String
  add : Bool := true
  messageId : Option Uuid := none
  notificationEnvelopes : List NotificationEnvelopeRequest := []

structure PostPinBody where
  chainSeq : Int
  pin : Bool := true

structure PostReceiptBody where
  deliveredUpto : Option Nat
  readUpto : Option Nat

structure WelcomeRecipient where
  wallet : String
  deviceId : String

structure PostWelcomeBody where
  senderAddress : String
  recipients : List WelcomeRecipient
  welcome : String

structure ArchiveMessagesQuery where
  namespace_ : Option String
  afterOrder : Option Int
  beforeOrder : Option Int
  limit : Option Nat

/-- What `serde_json`, the extractors and `percent-encoding` make of the text of a request. -/
structure Parsers where
  percentDecode : String → Option String
  /-- A `Content-Type` that the JSON extractor takes. -/
  isJson : HeaderMap → Bool
  authFields : Bytes → Except String BodyAuthFields
  createMessage : Bytes → Except String CreateMessageRequest
  updateMessage : Bytes → Except String UpdateMessageRequest
  respond : Bytes → Except String RespondToPaymentRequestBody
  postReaction : Bytes → Except String PostReactionBody
  postPin : Bytes → Except String PostPinBody
  postReceipt : Bytes → Except String PostReceiptBody
  putPrefs : Bytes → Except String ConversationPreferencesPatch
  postTyping : Bytes → Except String Bool
  /-- The data of `UploadBody`. -/
  upload : Bytes → Except String String
  postWelcome : Bytes → Except String PostWelcomeBody
  putGroupInfo : Bytes → Except String String
  messagesQuery : String → Except String GetMessagesQuery
  reactionsQuery : String → Except String (Option Int)
  archiveQuery : String → Except String ArchiveMessagesQuery

/-- What is configured, and what the surroundings answer during one request. -/
structure Surroundings where
  authCrates : AuthCrates
  crates : Crates
  parsers : Parsers
  services : Services
  /-- The clock of the authenticator, in seconds. -/
  serverTime : Int
  requestTtlSeconds : Int
  realtimeEnabled : Bool
  typingAllowed : Bool
  objectStoreUp : Bool
  maxAttachmentBytes : Nat

/-! ## Answers -/

/-- One row of `get_group_presence`. -/
structure PresenceEntry where
  member : String
  lastSeen : Option Timestamp
  online : Bool
  deriving DecidableEq

/-- The data of a successful answer, with the group that it is taken from where the data do not
say it. -/
inductive Payload where
  /-- Nothing that is stored. -/
  | done
  | created (status : StatusCode) (id : Uuid)
  | row (message : Message)
  | page (rows : List Message) (hasNext : Bool)
  | reactions (groupId : String) (entries : List ReactionEntry)
  | changed (groupId : String) (changed : Bool)
  | pins (groupId : String) (pins : List Int)
  | receipt (groupId : String) (receipt : Option MemberReceipt)
  | receipts (groupId : String) (members : List MemberReceipt)
  | preferences (groupId : String) (preferences : ConversationPreferences)
  | presence (groupId : String) (entries : List PresenceEntry)
  | notificationKeys (groupId : String) (keys : List DeviceNotificationKeyRecord)
  | attachment (groupId : String) (bytes : Bytes)
  | stored (id : Uuid)
  | groupInfo (groupId : String) (epoch : Nat) (info : Bytes)
  | archive (groupId : String) (messages : List Json) (hasNext : Bool)

inductive Answer where
  /-- By the authenticator. -/
  | rejected (rejection : Rejection)
  /-- By the router, an extractor, or a handler with an answer of its own. -/
  | refused (status : Nat) (message : String)
  | failed (error : ApiError)
  | ok (payload : Payload)
  /-- The loop over the batches of a page does not come to an end, or the process died. -/
  | unanswered

abbrev Reply := Answer × Relay

/-! ## Handlers -/

def ensureGroup (auth : AuthContext) (groupId : String) : Except ApiError Unit :=
  refuse (auth.authorizedGroup ≠ some groupId) (ApiError.forbidden "Not authorized for this group")

/-- A handler that goes on once its checks have passed. -/
def orFail {α : Type} (relay : Relay) (result : Except ApiError α) (next : α → Reply) :
    Reply :=
  match result with
  | .error reason => (.failed reason, relay)
  | .ok value => next value

/-- The answer to a message request, with the state it leaves. -/
def finish {α : Type} (relay : Relay) (result : Outcome ApiError α × AppState)
    (payload : α → Payload) : Reply :=
  match result with
  | (.error reason, app) => (.failed reason, relay.setApp app)
  | (.ok value, app) => (.ok (payload value), relay.setApp app)
  | (.crash, app) => (.unanswered, relay.setApp app)

section Handlers

variable (around : Surroundings) (relay : Relay) (auth : AuthContext)

/-! ### Messages -/

def createMessage (req : CreateMessageRequest) : Reply :=
  finish relay (Relayer.createMessage around.crates around.services auth req relay.app)
    fun answer => .created answer.1 answer.2

def getMessage (messageId : Uuid) : Reply :=
  orFail relay (fromStorage around.crates (relay.app.storage.getMessage messageId))
    fun message =>
      if auth.authorizedGroup ≠ some message.groupId then
        (.failed (.forbidden "Message does not belong to the authorized group"), relay)
      else (.ok (.row message), relay)

def listMessages (query : GetMessagesQuery) : Reply :=
  match query.groupId with
  | none => (.failed (.badRequest "Either message_id or group_id is required"), relay)
  | some groupId =>
    if auth.authorizedGroup ≠ some groupId then
      (.failed (.forbidden "Not authorized for this group"), relay)
    else
      match Paging.fetchPage relay.app.storage groupId query.afterOrder query.beforeOrder
          (min (query.limit.getD 50) 100) with
      | none => (.unanswered, relay)
      | some page =>
        orFail relay (fromStorage around.crates page) fun page => (.ok (.page page.1 page.2), relay)

def getMessages (query : GetMessagesQuery) : Reply :=
  match query.messageId with
  | some messageId => getMessage around relay auth messageId
  | none => listMessages around relay auth query

def updateMessage (req : UpdateMessageRequest) : Reply :=
  finish relay
    (Relayer.updateMessage around.crates around.services.now auth req relay.app) fun _ => .done

def deleteMessage (messageId : Uuid) : Reply :=
  finish relay
    (Relayer.deleteMessage around.crates around.services.now auth messageId relay.app)
    fun _ => .done

def respondToPaymentRequest (body : RespondToPaymentRequestBody) : Reply :=
  orFail relay (checkRespond around.crates auth body.messageId body.action relay.app)
    fun action =>
      match respond around.services.now relay.app.storage body.messageId action with
      | (result, storage) =>
        let relay := relay.setApp { relay.app with storage }
        orFail relay (fromStorage around.crates result) fun updated =>
          match updated with
          | none => (.failed (.conflict "Payment request is no longer open"), relay)
          | some row => (.ok (.row row), relay)

/-! ### Reactions, pins, typing, presence -/

def isControl (c : Char) : Bool := c.toNat < 32 || (127 ≤ c.toNat && c.toNat < 160)

def maxReactionEmojiBytes : Nat := 64

def validateReactionEmoji (emoji : String) : Except ApiError Unit := do
  refuse (emoji = "") (ApiError.badRequest "emoji must not be empty")
  refuse (maxReactionEmojiBytes < (Text.utf8 emoji).length)
    (ApiError.badRequest ("emoji must be at most " ++ toString maxReactionEmojiBytes ++ " bytes"))
  refuse (emoji.toList.any (fun c => isControl c || Text.isWhitespace c) = true)
    (ApiError.badRequest "emoji must not contain control or whitespace characters")

/-- `notify_reaction_author`, as far as it can fail: the envelopes are checked once the message
that was reacted to is found. -/
def notifyReactionAuthor (groupId : String) (body : PostReactionBody) : Except ApiError Unit :=
  match relay.app.storage.getMessagesByGroup groupId (some (body.chainSeq - 1))
      (some (body.chainSeq + 1)) 1 with
  | .ok (_ :: _) => (checkEnvelopes around.crates body.notificationEnvelopes).map fun _ => ()
  | _ => .ok ()

def postReaction (groupId : String) (body : PostReactionBody) : Reply :=
  orFail relay (ensureGroup auth groupId) fun _ =>
  orFail relay (validateReactionEmoji body.emoji) fun _ =>
    let (updated, data) := (relay.groups groupId).setReaction groupId body.chainSeq body.emoji
      auth.senderAddress body.add
    let after := relay.setGroup groupId data
    if body.add && updated.isSome then
      orFail after (notifyReactionAuthor around relay groupId body) fun _ =>
        (.ok (.changed groupId updated.isSome), after)
    else (.ok (.changed groupId updated.isSome), after)

def listReactions (groupId : String) (chainSeq : Option Int) : Reply :=
  orFail relay (ensureGroup auth groupId) fun _ =>
    (.ok (.reactions groupId ((relay.groups groupId).listReactions groupId chainSeq)), relay)

/-- Broadcast only: nothing is stored. -/
def postTyping (groupId : String) (_ : Bool) : Reply :=
  orFail relay (ensureGroup auth groupId) fun _ => (.ok .done, relay)

def getGroupPresence (groupId : String) : Reply :=
  orFail relay (ensureGroup auth groupId) fun _ =>
    let entries := (relay.app.membershipStore.listMemberAddresses groupId).map fun member =>
      if ((relay.groups groupId).conversationPreferences member).hideOnlinePresence then
        PresenceEntry.mk member none false
      else PresenceEntry.mk member (relay.lastSeen member) (relay.isOnline member)
    (.ok (.presence groupId entries), relay)

def setPin (groupId : String) (body : PostPinBody) : Reply :=
  orFail relay (ensureGroup auth groupId) fun _ =>
    (.ok .done, relay.setGroup groupId ((relay.groups groupId).setPinForSeq body.chainSeq body.pin))

def listPins (groupId : String) : Reply :=
  orFail relay (ensureGroup auth groupId) fun _ =>
    (.ok (.pins groupId (relay.groups groupId).listPins), relay)

/-! ### Receipts and preferences -/

def allowedMarks (mode : String) (body : PostReceiptBody) : Option Nat × Option Nat :=
  if mode = "none" then (none, none)
  else if mode = "delivered_only" then (body.deliveredUpto, none)
  else (body.deliveredUpto, body.readUpto)

def postReceipts (groupId : String) (body : PostReceiptBody) : Reply :=
  orFail relay (ensureGroup auth groupId) fun _ =>
    let data := relay.groups groupId
    let (deliveredUpto, readUpto) :=
      allowedMarks (data.conversationPreferences auth.senderAddress).receiptMode body
    orFail relay
        (fromStorage around.crates (relay.app.storage.getGroupActivity groupId 0)) fun activity =>
      let (updated, data) := data.advanceMemberReceipts auth.senderAddress
        { tip := activity.latestOrder.toNat, deliveredUpto, readUpto }
      (.ok (.receipt groupId updated), relay.setGroup groupId data)

def getReceipts (groupId : String) : Reply :=
  orFail relay (ensureGroup auth groupId) fun _ =>
    (.ok (.receipts groupId (relay.groups groupId).listGroupReceipts), relay)

def getPrefs (groupId : String) : Reply :=
  orFail relay (ensureGroup auth groupId) fun _ =>
    (.ok (.preferences groupId
      ((relay.groups groupId).conversationPreferences auth.senderAddress)), relay)

def validateNotificationMode (mode : String) : Except ApiError Unit :=
  refuse (mode ≠ "all" ∧ mode ≠ "none")
    (ApiError.badRequest "notification_mode must be 'all' or 'none'")

def validateReceiptMode (mode : String) : Except ApiError Unit :=
  refuse (mode ≠ "full" ∧ mode ≠ "delivered_only" ∧ mode ≠ "none")
    (ApiError.badRequest "receipt_mode must be 'full', 'delivered_only', or 'none'")

def validatePrefs (body : ConversationPreferencesPatch) : Except ApiError Unit := do
  refuse (body.notificationMode.isNone ∧ body.receiptMode.isNone ∧ body.hideOnlinePresence.isNone)
    (ApiError.badRequest
      ("at least one of notification_mode, receipt_mode, or hide_online_presence is required"))
  match body.notificationMode with
  | some mode => validateNotificationMode mode
  | none => .ok ()
  match body.receiptMode with
  | some mode => validateReceiptMode mode
  | none => .ok ()

def putPrefs (groupId : String) (body : ConversationPreferencesPatch) : Reply :=
  orFail relay (ensureGroup auth groupId) fun _ =>
  orFail relay (validatePrefs body) fun _ =>
    let (preferences, data) :=
      (relay.groups groupId).upsertConversationPreferences auth.senderAddress body
    (.ok (.preferences groupId preferences), relay.setGroup groupId data)

/-! ### Notification keys -/

/-- The path names the group; nothing is compared with the group that was checked. -/
def getGroupNotificationKeys (groupId : String) : Reply :=
  let members := relay.app.membershipStore.listMemberAddresses groupId
  (.ok (.notificationKeys groupId
    ((listDeviceKeysForWallets relay.deviceKeys members).filter
      (·.wallet ≠ auth.senderAddress))), relay)

/-! ### Attachments -/

def stripStorageIdPrefix (text : String) : String :=
  match text.toList with
  | 'r' :: '2' :: ':' :: rest => String.ofList rest
  | _ => text

def uploadAttachment (groupId : String) (body : Bytes) : Reply :=
  orFail relay (ensureGroup auth groupId) fun _ =>
    if ¬relay.attachmentStore then
      (.failed (.internal "attachment storage is not configured"), relay)
    else
      match around.parsers.upload body with
      | .error reason => (.failed (.badRequest ("invalid upload body: " ++ reason)), relay)
      | .ok data =>
        match around.crates.decodeBase64 (Text.trim data) with
        | none => (.failed (.badRequest "data must be base64"), relay)
        | some bytes =>
          if bytes.isEmpty then (.failed (.badRequest "attachment is empty"), relay)
          else if around.maxAttachmentBytes < bytes.length then
            (.refused 413
              ("attachment exceeds " ++ toString around.maxAttachmentBytes ++ " bytes"), relay)
          else if ¬around.objectStoreUp then (.failed (.internal "attachment upload failed"), relay)
          else
            let key := Text.toAsciiLowercase groupId
            (.ok (.stored around.services.newId),
              relay.setGroup key ((relay.groups key).putObject around.services.newId bytes))

def downloadAttachment (groupId attachmentId : String) : Reply :=
  orFail relay (ensureGroup auth groupId) fun _ =>
    if ¬relay.attachmentStore then
      (.failed (.internal "attachment storage is not configured"), relay)
    else
      match around.crates.parseUuid (stripStorageIdPrefix attachmentId) with
      | none => (.failed (.badRequest "invalid attachment id"), relay)
      | some id =>
        let key := Text.toAsciiLowercase groupId
        match (relay.groups key).getObject id with
        | none => (.failed (.notFound "attachment not found"), relay)
        | some bytes =>
          if ¬around.objectStoreUp then (.failed (.notFound "attachment not found"), relay)
          else (.ok (.attachment key bytes), relay)

/-! ### MLS -/

/-- A hex field of an MLS request, an optional `0x` before it. -/
def hexBytes (field value : String) : Except ApiError Bytes :=
  (Hex.decode (stripHexPrefix (Text.trim value))).mapError fun reason =>
    .badRequest (field ++ ": " ++ reason.display)

def checkRecipients (members : List String) (recipients : List WelcomeRecipient) :
    Except ApiError Unit :=
  match recipients.find? fun recipient =>
      !members.any (Text.eqIgnoreAsciiCase · recipient.wallet) with
  | some recipient => .error (.forbidden (recipient.wallet ++ " is not a member of this group"))
  | none => .ok ()

def postWelcome (groupId : String) (body : PostWelcomeBody) : Reply :=
  orFail relay (ensureGroup auth groupId) fun _ =>
    if ¬Text.eqIgnoreAsciiCase body.senderAddress auth.senderAddress then
      (.failed (.forbidden "sender_address does not match authenticated wallet"), relay)
    else
      orFail relay (hexBytes "welcome" body.welcome) fun welcome =>
        if around.crates.inspect welcome ≠ some .welcome then
          (.failed (.badRequest "welcome is not an MLS Welcome"), relay)
        else
          orFail relay
              (checkRecipients (relay.app.membershipStore.listMemberAddresses groupId)
                body.recipients) fun _ =>
            (.ok .done, relay.setGroup groupId
              (body.recipients.foldl (fun data recipient =>
                data.putWelcome (Text.toAsciiLowercase recipient.wallet)
                  (Text.trim recipient.deviceId) welcome) (relay.groups groupId)))

/-- The epoch of a GroupInfo for the group. -/
def inspectGroupInfo (groupId : String) (info : Bytes) : Except ApiError Nat :=
  match around.crates.inspect info with
  | some (.groupInfo headerGroup epoch) =>
    if headerGroup = Text.utf8 groupId then .ok epoch
    else .error (.badRequest "group_info is not an MLS GroupInfo for this group")
  | _ => .error (.badRequest "group_info is not an MLS GroupInfo for this group")

def putGroupInfo (groupId hexInfo : String) : Reply :=
  orFail relay (ensureGroup auth groupId) fun _ =>
  orFail relay (hexBytes "group_info" hexInfo) fun info =>
  orFail relay (inspectGroupInfo around groupId info) fun epoch =>
    if relay.app.mls.currentEpoch groupId ≠ epoch then
      (.failed (.conflict
        ("GroupInfo epoch " ++ toString epoch ++ " is not the current epoch")), relay)
    else
      (.ok .done,
        relay.setGroup groupId { relay.groups groupId with groupInfo := some (epoch, info) })

def getGroupInfo (groupId : String) : Reply :=
  orFail relay (ensureGroup auth groupId) fun _ =>
    match (relay.groups groupId).groupInfo with
    | none => (.failed (.notFound "no GroupInfo published for this group"), relay)
    | some (epoch, info) => (.ok (.groupInfo groupId epoch info), relay)

/-! ### The archive -/

/-- The path names the group; the handler does not know who is asking. -/
def getArchiveMessages (groupId : String) (query : ArchiveMessagesQuery) : Reply :=
  match relay.archiveRead with
  | none => (.refused 503 "Archive recovery is not enabled (ARCHIVE_BACKEND=r2 required)", relay)
  | some archive =>
    match archive.listMessages groupId query.namespace_ query.afterOrder query.beforeOrder
        (min (max (query.limit.getD 50) 1) 100) with
    | .error reason => (.refused 500 reason, relay)
    | .ok (messages, hasNext) => (.ok (.archive groupId messages hasNext), relay)

end Handlers

/-! ## The router -/

/-- The routes behind the authenticator, with the parameters of their paths as they are sent. -/
inductive GroupRoute where
  | messages
  | messagesRespond
  | message (messageId : String)
  | reactions (groupId : String)
  | pins (groupId : String)
  | receipts (groupId : String)
  | prefs (groupId : String)
  | typing (groupId : String)
  | presence (groupId : String)
  | notificationKeys (groupId : String)
  | attachments (groupId : String)
  | attachment (groupId attachmentId : String)
  | mlsWelcomes (groupId : String)
  | mlsGroupInfo (groupId : String)
  | archiveMessages (groupId : String)
  deriving DecidableEq

/-- `message_routes`: a fixed segment comes before a parameter. -/
def matchMessageRoute : List String → Option GroupRoute
  | ["messages"] => some .messages
  | ["messages", "respond"] => some .messagesRespond
  | ["messages", messageId] => some (.message messageId)
  | _ => none

/-- `v1_group_routes`. -/
def matchGroupRoute : List String → Option GroupRoute
  | ["groups", groupId, "reactions"] => some (.reactions groupId)
  | ["groups", groupId, "pins"] => some (.pins groupId)
  | ["groups", groupId, "receipts"] => some (.receipts groupId)
  | ["groups", groupId, "prefs"] => some (.prefs groupId)
  | ["groups", groupId, "typing"] => some (.typing groupId)
  | ["groups", groupId, "presence"] => some (.presence groupId)
  | ["groups", groupId, "notification-keys"] => some (.notificationKeys groupId)
  | ["groups", groupId, "attachments"] => some (.attachments groupId)
  | ["groups", groupId, "attachments", attachmentId] => some (.attachment groupId attachmentId)
  | ["groups", groupId, "mls", "welcomes"] => some (.mlsWelcomes groupId)
  | ["groups", groupId, "mls", "group-info"] => some (.mlsGroupInfo groupId)
  | ["archive", "groups", groupId, "messages"] => some (.archiveMessages groupId)
  | _ => none

/-- The message routes stand at the root and under `/v1`, the group routes under `/v1`. -/
def matchRoute : List String → Option GroupRoute
  | "v1" :: rest => (matchMessageRoute rest).or (matchGroupRoute rest)
  | segments => matchMessageRoute segments

section Router

variable (around : Surroundings) (relay : Relay)

/-- A parameter of the path, percent-decoded. -/
def withParam (raw : String) (next : String → Reply) : Reply :=
  match around.parsers.percentDecode raw with
  | some value => next value
  | none => (.refused 400 "Invalid UTF-8 in path parameter", relay)

def withQuery {α : Type} (parsed : Except String α) (next : α → Reply) : Reply :=
  match parsed with
  | .ok query => next query
  | .error reason => (.refused 400 ("Failed to deserialize query string: " ++ reason), relay)

/-- A JSON body, parsed. -/
def withJson {α : Type} (request : HttpRequest) (parse : Bytes → Except String α)
    (next : α → Reply) : Reply :=
  if around.parsers.isJson request.headers then
    match request.body with
    | none => (.refused 400 "Failed to buffer the request body", relay)
    | some body =>
      match parse body with
      | .ok value => next value
      | .error reason =>
        (.refused 422 ("Failed to deserialize the JSON body into the target type: " ++ reason),
          relay)
  else (.refused 415 "Expected request with Content-Type: application/json", relay)

/-- The context of the authenticator, for the handlers that ask for it. -/
def withAuth (auth : Option AuthContext) (next : AuthContext → Reply) : Reply :=
  match auth with
  | some auth => next auth
  | none => (.refused 500 "Missing request extension", relay)

/-- What a method asks a route for: a `HEAD` request is served by the handler of `GET`. -/
inductive Verb where
  | read
  | post
  | put
  | delete
  deriving DecidableEq

def Method.verb : Method → Option Verb
  | .get | .head => some .read
  | .post => some .post
  | .put => some .put
  | .delete => some .delete
  | .other _ => none

/-- The handler of a route and a method, behind its extractors. -/
def route (request : HttpRequest) (auth : Option AuthContext) :
    GroupRoute → Option Verb → Reply
  | .messages, some .read =>
    withAuth relay auth fun auth =>
    withQuery relay (around.parsers.messagesQuery request.query) fun query =>
      getMessages around relay auth query
  | .messages, some .post =>
    withAuth relay auth fun auth =>
    withJson around relay request around.parsers.createMessage fun body =>
      createMessage around relay auth body
  | .messages, some .put =>
    withAuth relay auth fun auth =>
    withJson around relay request around.parsers.updateMessage fun body =>
      updateMessage around relay auth body
  | .messagesRespond, some .post =>
    withAuth relay auth fun auth =>
    withJson around relay request around.parsers.respond fun body =>
      respondToPaymentRequest around relay auth body
  | .message raw, some .delete =>
    withParam around relay raw fun messageId =>
      match around.crates.parseUuid messageId with
      | none => (.refused 400 "Invalid URL: Cannot parse `message_id` to a `Uuid`", relay)
      | some messageId => withAuth relay auth fun auth => deleteMessage around relay auth messageId
  | .reactions raw, some .read =>
    withParam around relay raw fun groupId =>
    withAuth relay auth fun auth =>
    withQuery relay (around.parsers.reactionsQuery request.query) fun chainSeq =>
      listReactions relay auth groupId chainSeq
  | .reactions raw, some .post =>
    withParam around relay raw fun groupId =>
    withAuth relay auth fun auth =>
    withJson around relay request around.parsers.postReaction fun body =>
      postReaction around relay auth groupId body
  | .pins raw, some .read =>
    withParam around relay raw fun groupId =>
    withAuth relay auth fun auth => listPins relay auth groupId
  | .pins raw, some .post =>
    withParam around relay raw fun groupId =>
    withAuth relay auth fun auth =>
    withJson around relay request around.parsers.postPin fun body => setPin relay auth groupId body
  | .receipts raw, some .read =>
    withParam around relay raw fun groupId =>
    withAuth relay auth fun auth => getReceipts relay auth groupId
  | .receipts raw, some .post =>
    withParam around relay raw fun groupId =>
    withAuth relay auth fun auth =>
    withJson around relay request around.parsers.postReceipt fun body =>
      postReceipts around relay auth groupId body
  | .prefs raw, some .read =>
    withParam around relay raw fun groupId =>
    withAuth relay auth fun auth => getPrefs relay auth groupId
  | .prefs raw, some .put =>
    withParam around relay raw fun groupId =>
    withAuth relay auth fun auth =>
    withJson around relay request around.parsers.putPrefs fun body =>
      putPrefs relay auth groupId body
  | .typing raw, some .post =>
    withParam around relay raw fun groupId =>
    withAuth relay auth fun auth =>
    withJson around relay request around.parsers.postTyping fun typing =>
      postTyping relay auth groupId typing
  | .presence raw, some .read =>
    withParam around relay raw fun groupId =>
    withAuth relay auth fun auth => getGroupPresence relay auth groupId
  | .notificationKeys raw, some .read =>
    withAuth relay auth fun auth =>
    withParam around relay raw fun groupId => getGroupNotificationKeys relay auth groupId
  | .attachments raw, some .post =>
    withParam around relay raw fun groupId =>
    withAuth relay auth fun auth =>
      match request.body with
      | none => (.refused 400 "Failed to buffer the request body", relay)
      | some body => uploadAttachment around relay auth groupId body
  | .attachment rawGroup rawId, some .read =>
    withParam around relay rawGroup fun groupId =>
    withParam around relay rawId fun attachmentId =>
    withAuth relay auth fun auth => downloadAttachment around relay auth groupId attachmentId
  | .mlsWelcomes raw, some .post =>
    withAuth relay auth fun auth =>
    withParam around relay raw fun groupId =>
    withJson around relay request around.parsers.postWelcome fun body =>
      postWelcome around relay auth groupId body
  | .mlsGroupInfo raw, some .read =>
    withAuth relay auth fun auth =>
    withParam around relay raw fun groupId => getGroupInfo relay auth groupId
  | .mlsGroupInfo raw, some .post =>
    withAuth relay auth fun auth =>
    withParam around relay raw fun groupId =>
    withJson around relay request around.parsers.putGroupInfo fun hexInfo =>
      putGroupInfo around relay auth groupId hexInfo
  | .archiveMessages raw, some .read =>
    withParam around relay raw fun groupId =>
    withQuery relay (around.parsers.archiveQuery request.query) fun query =>
      getArchiveMessages relay groupId query
  | _, _ => (.refused 405 "", relay)

/-- What the router leaves of the answer to a `HEAD` request. -/
def Answer.withoutBody : Answer → Answer
  | .ok _ => .ok .done
  | answer => answer

def bodyFor (method : Method) (reply : Reply) : Reply :=
  if method = .head then (reply.1.withoutBody, reply.2) else reply

/-- A request to one of the routes: the authenticator, and then the handler. -/
def serve (request : HttpRequest) : Reply :=
  match matchRoute request.path with
  | none => (.refused 404 "", relay)
  | some groupRoute =>
    match authMiddleware around.authCrates around.parsers.authFields around.serverTime
        around.requestTtlSeconds relay.app.membershipStore request with
    | .error rejection => (.rejected rejection, relay)
    | .ok auth =>
      bodyFor request.method
        (route around relay request auth groupRoute (Method.verb request.method))

end Router

end GroupRoutes

end MessagingStack.Relayer
