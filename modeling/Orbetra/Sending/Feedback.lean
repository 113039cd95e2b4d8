import Orbetra.Framework.Json

/-!
# Bounces and complaints

`POST /v1/webhooks/ses`: SNS posts an envelope, its signature is checked over the canonical string,
its topic against the one that is configured, and the addresses of the event inside are suppressed.

`URL`, the certificates and the verification of a signature are parameters, and so is the text that
a number has inside a template.
-/

namespace Orbetra.Feedback

open JsonText

/-! ## Reading JSON -/

/-- The properties of a JSON object, newest first. -/
abbrev Properties := List (Utf16 × JsonValue)

def property (name : String) (msg : Properties) : Option JsonValue := msg.lookup (utf16 name)

/-- `value.name`; the outer `none` is the TypeError of reading from `null`. -/
def read (name : String) : JsonValue → Option (Option JsonValue)
  | .null => none
  | .object properties => some (property name properties)
  | _ => some none

def readIfAny (name : String) : Option JsonValue → Option JsonValue
  | some (.object properties) => property name properties
  | _ => none

def orElse : Option JsonValue → Option JsonValue → Option JsonValue
  | none, fallback | some .null, fallback => fallback
  | some v, _ => some v

def isText (text : String) : Option JsonValue → Bool
  | some (.string t) => t == utf16 text
  | _ => false

def str : Option JsonValue → Utf16
  | some (.string text) => text
  | _ => []

/-! ## The canonical string -/

def signedFields : List (Utf16 × List String) :=
  [(utf16 "Notification", ["Message", "MessageId", "Subject", "Timestamp", "TopicArn", "Type"]),
   (utf16 "SubscriptionConfirmation",
    ["Message", "MessageId", "SubscribeURL", "Timestamp", "Token", "TopicArn", "Type"]),
   (utf16 "UnsubscribeConfirmation",
    ["Message", "MessageId", "SubscribeURL", "Timestamp", "Token", "TopicArn", "Type"])]

/-- A field of the canonical string. -/
def line (name : String) (value : Utf16) : Utf16 := utf16 name ++ newline :: value ++ [newline]

/-- What a field adds to the canonical string: nothing, unless it is a text. -/
def signedLine (msg : Properties) (name : String) : Utf16 :=
  match property name msg with
  | some (.string value) => line name value
  | _ => []

/-- `stringToSign` -/
def stringToSign (msg : Properties) : Option Utf16 :=
  (signedFields.lookup (str (property "Type" msg))).map fun fields =>
    fields.flatMap (signedLine msg)

/-! ## The signature -/

structure Url where
  protocol : Utf16
  hostname : Utf16
  deriving DecidableEq

inductive Algorithm
  | rsaSha1
  | rsaSha256
  deriving DecidableEq

structure Platform (Cert : Type) where
  /-- `new URL(raw)`; `none` if it throws. -/
  url : Utf16 → Option Url
  /-- `none` if it throws. -/
  fetchCert : Utf16 → Option Cert
  /-- Of the payload and the signature; `false` if it throws. -/
  verify : Algorithm → Cert → Utf16 → Utf16 → Bool
  /-- A number inside a template, from its literal. -/
  numeral : Utf16 → Utf16

/-- A character of `[a-z0-9-]`. -/
def isRegionUnit (u : UInt16) : Bool :=
  let c := charOf u
  c.isLower || c.isDigit || c == '-'

/-- `CERT_HOST_RE.test`.  A region has no full stop, so it ends at the first one. -/
def certHost (hostname : Utf16) : Bool :=
  let rest := hostname.drop 4
  let domain := rest.dropWhile isRegionUnit
  hostname.take 4 == utf16 "sns." && !(rest.takeWhile isRegionUnit).isEmpty &&
    (domain == utf16 ".amazonaws.com" || domain == utf16 ".amazonaws.com.cn")

variable {Cert : Type}

/-- `isAwsUrl` -/
def isAwsUrl (platform : Platform Cert) (raw : Utf16) : Bool :=
  match platform.url raw with
  | some u => u.protocol == utf16 "https:" && certHost u.hostname
  | none => false

def algorithmOf (version : Utf16) : Option Algorithm :=
  if version = utf16 "1" then some .rsaSha1
  else if version = utf16 "2" then some .rsaSha256
  else none

def verifySnsMessage (platform : Platform Cert) (msg : Properties) : Bool :=
  let certUrl := str (property "SigningCertURL" msg)
  let signature := str (property "Signature" msg)
  if !isAwsUrl platform certUrl || signature.isEmpty then false
  else
    match algorithmOf (str (property "SignatureVersion" msg)), stringToSign msg with
    | some algorithm, some payload =>
      match platform.fetchCert certUrl with
      | some cert => platform.verify algorithm cert payload signature
      | none => false
    | _, _ => false

/-! ## Suppressing -/

inductive Reason
  | bounce
  | complaint
  deriving DecidableEq

structure Suppression where
  address : Utf16
  reason : Reason
  detail : Option Utf16
  messageId : Option Utf16
  deriving DecidableEq

/-- What `trim` takes away. -/
def isBlank (u : UInt16) : Bool :=
  [9, 10, 11, 12, 13, 32, 0xa0, 0x1680, 0x2028, 0x2029, 0x202f, 0x205f, 0x3000, 0xfeff].contains u
    || (0x2000 ≤ u && u ≤ 0x200a)

/-- `suppressions.suppress`; `none` if it throws, as it does for what is not a text. -/
def suppress (address : JsonValue) (reason : Reason) (detail : Option JsonValue)
    (messageId : Option Utf16) : Option (List Suppression) :=
  match address, detail with
  | .string a, some (.string d) =>
    some (if a.all isBlank then [] else [⟨a, reason, some d, messageId⟩])
  | .string a, some .null => some (if a.all isBlank then [] else [⟨a, reason, none, messageId⟩])
  | .string a, _ => if a.all isBlank then some [] else none
  | _, _ => none

mutual

/-- `${value}`; `none` if it throws, as it does for an object with a property `toString`. -/
def template (numeral : Utf16 → Utf16) : JsonValue → Option Utf16
  | .null => some (utf16 "null")
  | .bool b => some (if b then utf16 "true" else utf16 "false")
  | .number literal => some (numeral literal)
  | .string text => some text
  | .array items => (templateItems numeral items).map [44].intercalate
  | .object properties =>
    if (property "toString" properties).isSome then none else some (utf16 "[object Object]")

/-- The items between the commas; `null` leaves its place empty. -/
def templateItems (numeral : Utf16 → Utf16) : List JsonValue → Option (List Utf16)
  | [] => some []
  | .null :: items => (templateItems numeral items).map ([] :: ·)
  | item :: items => do
    let text ← template numeral item
    let texts ← templateItems numeral items
    some (text :: texts)

end

def bounceDetail (numeral : Utf16 → Utf16) (bounce : Option JsonValue) (recipient : JsonValue) :
    Option (Option JsonValue) := do
  let subType ←
    match orElse (readIfAny "bounceSubType" bounce) none with
    | some v => template numeral v
    | none => some (utf16 "Permanent")
  let diagnosis ←
    match readIfAny "diagnosticCode" (some recipient) with
    | some v => (template numeral v).map fun text => utf16 ": " ++ text
    | none => some []
  some (some (.string ((subType ++ diagnosis).take 500)))

/-- What a `for` loop over `value ?? []` goes through; `none` if it throws. -/
def recipients : Option JsonValue → Option (List JsonValue)
  | none | some .null => some []
  | some (.array items) => some items
  -- the characters of a text have no `emailAddress` and are passed over
  | some (.string _) => some []
  | some _ => none

inductive EventKind
  | bounce
  | complaint
  | other
  | rejected
  deriving DecidableEq

/-- What a request does. -/
inductive Act
  | event (kind : EventKind)
  | confirm (url : Utf16)
  | suppress (s : Suppression)
  deriving DecidableEq

structure Reply where
  status : ℕ
  text : String
  deriving DecidableEq

/-- What a request did, and its answer; `none` if it threw. -/
structure Outcome where
  acts : List Act
  reply : Option Reply
  deriving DecidableEq

def Outcome.suppressed (o : Outcome) : List Suppression :=
  o.acts.filterMap fun
    | .suppress s => some s
    | _ => none

/-- The loop over the recipients: what it suppresses, and whether it comes to its end. -/
def suppressEach (reason : Reason) (detail : JsonValue → Option (Option JsonValue))
    (messageId : Option Utf16) : List JsonValue → List Suppression × Bool
  | [] => ([], true)
  | r :: rs =>
    match read "emailAddress" r with
    | none => ([], false)
    | some none => suppressEach reason detail messageId rs
    | some (some address) =>
      match (detail r).bind fun d => suppress address reason d messageId with
      | none => ([], false)
      | some made =>
        let later := suppressEach reason detail messageId rs
        (made ++ later.1, later.2)

/-- A loop over recipients, and the event behind it. -/
def suppressAll (reason : Reason) (kind : EventKind)
    (detail : JsonValue → Option (Option JsonValue)) (messageId : Option Utf16)
    (list : Option JsonValue) : Outcome :=
  match recipients list with
  | none => ⟨[], none⟩
  | some rs =>
    let done := suppressEach reason detail messageId rs
    if done.2 then ⟨done.1.map .suppress ++ [.event kind], some ⟨200, "ok"⟩⟩
    else ⟨done.1.map .suppress, none⟩

/-- What follows once the event is parsed. -/
def onSesEvent (numeral : Utf16 → Utf16) (messageId : Option Utf16) (event : JsonValue) : Outcome :=
  match read "eventType" event with
  | none => ⟨[], none⟩
  | some eventType =>
    let kind := orElse eventType (readIfAny "notificationType" (some event))
    let bounce := readIfAny "bounce" (some event)
    let complaint := readIfAny "complaint" (some event)
    if isText "Bounce" kind then
      if !isText "Permanent" (readIfAny "bounceType" bounce) then
        ⟨[.event .other], some ⟨200, "ok"⟩⟩
      else
        suppressAll .bounce .bounce (bounceDetail numeral bounce) messageId
          (readIfAny "bouncedRecipients" bounce)
    else if isText "Complaint" kind then
      suppressAll .complaint .complaint
        (fun _ => some (orElse (readIfAny "complaintFeedbackType" complaint) (some .null)))
        messageId (readIfAny "complainedRecipients" complaint)
    else ⟨[.event .other], some ⟨200, "ok"⟩⟩

/-- A hard bounce suppresses its recipients. -/
example :
    (onSesEvent id none (.object
      [(utf16 "eventType", .string (utf16 "Bounce")),
       (utf16 "bounce", .object
        [(utf16 "bounceType", .string (utf16 "Permanent")),
         (utf16 "bouncedRecipients", .array
          [.object [(utf16 "emailAddress", .string (utf16 "a@b"))]])])])).suppressed =
      [⟨utf16 "a@b", .bounce, some (utf16 "Permanent"), none⟩] := by
  decide +kernel

/-! ## The request -/

/-- The text of the event: the message, or an empty object for an empty one. -/
def eventText (msg : Properties) : Utf16 :=
  let message := str (property "Message" msg)
  if message = [] then utf16 "\x7b\x7d" else message

def orNull (text : Utf16) : Option Utf16 := if text = [] then none else some text

/-- What follows once the body is an object. -/
def onEnvelope (platform : Platform Cert) (expectedTopicArn : Option Utf16) (msg : Properties) :
    Outcome :=
  if !verifySnsMessage platform msg then ⟨[.event .rejected], some ⟨403, "bad signature"⟩⟩
  else
    let topic := str (property "TopicArn" msg)
    let expected := expectedTopicArn.getD []
    if expected = [] ∨ topic ≠ expected then
      ⟨[.event .rejected], some ⟨403, "unexpected topic"⟩⟩
    else
      let type := str (property "Type" msg)
      if type = utf16 "SubscriptionConfirmation" then
        let subscribeUrl := str (property "SubscribeURL" msg)
        if !isAwsUrl platform subscribeUrl then ⟨[], some ⟨403, "bad subscribe url"⟩⟩
        else ⟨[.confirm subscribeUrl], some ⟨200, "confirmed"⟩⟩
      else if type ≠ utf16 "Notification" then ⟨[], some ⟨200, "ignored"⟩⟩
      else
        match parse (eventText msg) with
        | none => ⟨[], some ⟨200, "bad event"⟩⟩
        | some event =>
          onSesEvent platform.numeral (orNull (str (property "MessageId" msg))) event

def postSes (platform : Platform Cert) (expectedTopicArn : Option Utf16) (raw : Utf16) : Outcome :=
  match parse raw with
  | some (.object msg) => onEnvelope platform expectedTopicArn msg
  | _ => ⟨[], some ⟨400, "bad json"⟩⟩

end Orbetra.Feedback
