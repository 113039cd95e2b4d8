import Orbetra.Sending.Feedback

/-!
# What the canonical string binds

Two messages with one canonical string agree in their last two lines, which are the topic and the
type.  Their first lines may be cut apart differently: the text of one message may go on with the
name of the next field of the other.  That line begins no JSON token, so such a text is no event.
-/

namespace Orbetra.Feedback

open JsonText List Option

/-! ## Genuine messages -/

inductive Kind
  | notification
  | subscriptionConfirmation
  | unsubscribeConfirmation
  deriving DecidableEq

def Kind.name : Kind → String
  | notification => "Notification"
  | subscriptionConfirmation => "SubscriptionConfirmation"
  | unsubscribeConfirmation => "UnsubscribeConfirmation"

/-- A message that SNS publishes. -/
structure Genuine where
  kind : Kind
  topicArn : Utf16
  messageId : Utf16
  timestamp : Utf16
  message : Utf16
  /-- Of a notification. -/
  subject : Option Utf16
  /-- Of the two others. -/
  subscribeUrl : Utf16
  token : Utf16
  topicArn_line : newline ∉ topicArn
  messageId_line : newline ∉ messageId
  timestamp_line : newline ∉ timestamp

/-- The fields between the message id and the topic. -/
def Genuine.own (m : Genuine) : List (String × Utf16) :=
  match m.kind with
  | .notification =>
    (m.subject.map fun s => ("Subject", s)).toList ++ [("Timestamp", m.timestamp)]
  | _ => [("SubscribeURL", m.subscribeUrl), ("Timestamp", m.timestamp), ("Token", m.token)]

/-- The fields that are signed, in their order. -/
def Genuine.signed (m : Genuine) : List (String × Utf16) :=
  [("Message", m.message), ("MessageId", m.messageId)] ++ m.own ++
    [("TopicArn", m.topicArn), ("Type", utf16 m.kind.name)]

/-- The string that is signed for a genuine message. -/
def Genuine.canonical (m : Genuine) : Utf16 := m.signed.flatMap fun field => line field.1 field.2

/-- A genuine message as it is posted. -/
def Genuine.properties (m : Genuine) : Properties :=
  m.signed.map fun field => (utf16 field.1, .string field.2)

/-- The code signs a genuine message as SNS does. -/
theorem stringToSign_properties (m : Genuine) : stringToSign m.properties = some m.canonical := by
  obtain ⟨kind, topicArn, messageId, timestamp, message, subject, url, token, _, _, _⟩ := m
  cases kind with
  | notification =>
    cases subject <;>
      simp only [Genuine.properties, Genuine.canonical, Genuine.signed, Genuine.own, map_cons,
        map_nil, map_append, map_none, map_some, toList] <;>
      rfl
  | subscriptionConfirmation =>
    simp only [Genuine.properties, Genuine.canonical, Genuine.signed, Genuine.own, map_cons,
      map_nil, map_append]
    rfl
  | unsubscribeConfirmation =>
    simp only [Genuine.properties, Genuine.canonical, Genuine.signed, Genuine.own, map_cons,
      map_nil, map_append]
    rfl

/-! ## Cutting at line breaks -/

variable {b y a x r t v : Utf16} {name : String} {msg : Properties}

lemma lastLine (h : a ++ newline :: x = b ++ newline :: y) (hx : newline ∉ x) (hy : newline ∉ y) :
    a = b ∧ x = y := by
  rcases append_eq_append_iff.1 h with ⟨c, rfl, hc⟩ | ⟨c, rfl, hc⟩
  · cases c with
    | nil => exact ⟨by simp, by simpa using hc⟩
    | cons u c =>
      cases hc
      simp at hx
  · cases c with
    | nil => exact ⟨by simp, by simpa using hc.symm⟩
    | cons u c =>
      cases hc
      simp at hy

lemma firstLine (h : x ++ newline :: r = y ++ newline :: t) (hx : newline ∉ x) :
    y = x ∨ ∃ z, y = x ++ newline :: z ∧ r = z ++ newline :: t := by
  rcases append_eq_append_iff.1 h with ⟨c, rfl, hc⟩ | ⟨c, rfl, hc⟩
  · cases c with
    | nil => exact .inl (by simp)
    | cons u c =>
      cases hc
      exact .inr ⟨c, rfl, rfl⟩
  · cases c with
    | nil => exact .inl (by simp)
    | cons u c =>
      cases hc
      simp at hx

lemma newline_notMem_name (kind : Kind) : newline ∉ utf16 kind.name := by
  cases kind <;> decide

lemma addressed_inj {e e' : Utf16} {k k' : Kind} (he : newline ∉ e) (he' : newline ∉ e')
    (h : a ++ line "TopicArn" e ++ line "Type" (utf16 k.name) =
      b ++ line "TopicArn" e' ++ line "Type" (utf16 k'.name)) :
    e = e' ∧ utf16 k.name = utf16 k'.name := by
  have hclosed : ∀ (x f : Utf16) (t : Kind), x ++ line "TopicArn" f ++ line "Type" (utf16 t.name) =
      x ++ utf16 "TopicArn" ++ newline :: f ++ newline :: utf16 "Type" ++
        newline :: utf16 t.name ++ [newline] := by
    simp [line]
  rw [hclosed, hclosed] at h
  obtain ⟨h, hname⟩ := lastLine (append_cancel_right h) (newline_notMem_name k)
    (newline_notMem_name k')
  obtain ⟨h, -⟩ := lastLine h (by decide) (by decide)
  obtain ⟨-, htopic⟩ := lastLine h he he'
  exact ⟨htopic, hname⟩

/-- A text that goes on with the name of the next field. -/
lemma message_eq_or {i : Utf16}
    (h : line "Message" x ++ line "MessageId" i ++ r = line "Message" y ++ t) (hx : newline ∉ x) :
    y = x ∨ ∃ z, y = x ++ newline :: utf16 "M" ++ z := by
  have hlines : x ++ newline :: (line "MessageId" i ++ r) = y ++ newline :: t := by
    have := h
    simp only [line, append_assoc, cons_append, nil_append] at this ⊢
    exact cons.inj (append_cancel_left this) |>.2
  rcases firstLine hlines hx with hy | ⟨z, hy, hz⟩
  · exact .inl hy
  · cases z with
    | nil => exact absurd (cons.inj hz).1 (by decide)
    | cons u z =>
      have hu : utf16 "M" = [u] := congrArg (fun l : Utf16 => l.take 1) hz
      refine .inr ⟨z, ?_⟩
      rw [hy, hu]
      simp

/-! ## The fields that are read -/

lemma signedLine_of_text (h : property name msg = some (.string v)) :
    signedLine msg name = line name v := by
  rw [signedLine, h]

lemma property_of_str (h : str (property name msg) = v) (hv : v ≠ []) :
    property name msg = some (.string v) := by
  cases hp : property name msg with
  | none => exact absurd (by rw [← h, hp]; rfl) hv
  | some value =>
    cases value with
    | string text =>
      rw [hp] at h
      exact congrArg (fun t => some (JsonValue.string t)) h
    | _ => exact absurd (by rw [← h, hp]; rfl) hv

/-- The fields between the message and the topic. -/
def Kind.between : Kind → List String
  | notification => ["MessageId", "Subject", "Timestamp"]
  | _ => ["MessageId", "SubscribeURL", "Timestamp", "Token"]

lemma signedFields_lookup {type : Utf16} {fields : List String}
    (h : signedFields.lookup type = some fields) :
    ∃ kind : Kind, type = utf16 kind.name ∧
      fields = "Message" :: kind.between ++ ["TopicArn", "Type"] := by
  simp only [signedFields, lookup_cons] at h
  split at h
  · next htype => exact ⟨.notification, eq_of_beq htype, (some.inj h).symm⟩
  split at h
  · next htype => exact ⟨.subscriptionConfirmation, eq_of_beq htype, (some.inj h).symm⟩
  split at h
  · next htype => exact ⟨.unsubscribeConfirmation, eq_of_beq htype, (some.inj h).symm⟩
  · cases h

lemma stringToSign_eq_some {s : Utf16} (h : stringToSign msg = some s) :
    ∃ kind : Kind, property "Type" msg = some (.string (utf16 kind.name)) ∧
      s = signedLine msg "Message" ++ kind.between.flatMap (signedLine msg) ++
        signedLine msg "TopicArn" ++ signedLine msg "Type" := by
  obtain ⟨fields, hlookup, rfl⟩ := map_eq_some_iff.1 h
  obtain ⟨kind, htype, rfl⟩ := signedFields_lookup hlookup
  refine ⟨kind, property_of_str htype ?_, ?_⟩
  · cases kind <;> decide
  · simp [flatMap_append]

lemma canonical_eq (m : Genuine) :
    m.canonical = line "Message" m.message ++ line "MessageId" m.messageId ++
      m.own.flatMap (fun field => line field.1 field.2) ++ line "TopicArn" m.topicArn ++
      line "Type" (utf16 m.kind.name) := by
  simp [Genuine.canonical, Genuine.signed, flatMap_append]

/-! ## What an accepted message binds -/

lemma suppressed_of_eventText {Cert : Type} {platform : Platform Cert} {expected : Option Utf16}
    (h : eventText msg = utf16 "\x7b\x7d" ∨ parse (eventText msg) = none) :
    (onEnvelope platform expected msg).suppressed = [] := by
  simp only [onEnvelope]
  split_ifs
  · rfl
  · rfl
  · rfl
  · rfl
  · rfl
  · rcases h with h | h
    · rw [h, show parse (utf16 "\x7b\x7d") = some (.object []) from rfl]
      rfl
    · rw [h]
      rfl

/-- A text whose second line begins with the name of the next field is no event. -/
lemma parse_of_shifted (x z : Utf16) : parse (x ++ newline :: utf16 "M" ++ z) = none := by
  have h := parse_of_line (u := 77) rfl x z
  rwa [append_assoc]

/-- **The signed string binds the topic and the content.**  If every payload that verifies is the
canonical string of a message that was published, then an accepted message with the expected topic
shares its canonical string with a published message, and every genuine message with that string has
that topic and that type; and if its text is one line, the accepted message has the same text or the
request suppresses nothing. -/
theorem accepted_binds {Cert : Type} {platform : Platform Cert} {published : Set Genuine}
    (hsigned : ∀ algorithm cert payload signature,
      platform.verify algorithm cert payload signature = true →
        ∃ m ∈ published, m.canonical = payload)
    {msg : Properties} (haccepted : verifySnsMessage platform msg = true) {expected : Utf16}
    (htopic : property "TopicArn" msg = some (.string expected)) (hline : newline ∉ expected) :
    (∃ m ∈ published, stringToSign msg = some m.canonical) ∧
      ∀ m : Genuine, stringToSign msg = some m.canonical →
        m.topicArn = expected ∧ property "Type" msg = some (.string (utf16 m.kind.name)) ∧
        (newline ∉ m.message →
          property "Message" msg = some (.string m.message) ∨
            (onEnvelope platform (some expected) msg).suppressed = []) := by
  constructor
  · simp only [verifySnsMessage] at haccepted
    split_ifs at haccepted
    split at haccepted
    · next algorithm payload _ hpayload =>
      split at haccepted
      · next cert _ =>
        obtain ⟨m, hm, hcanonical⟩ := hsigned _ _ _ _ haccepted
        exact ⟨m, hm, by rw [hpayload, hcanonical]⟩
      · cases haccepted
    · cases haccepted
  · intro m hm
    obtain ⟨kind, htype, hs⟩ := stringToSign_eq_some hm
    rw [signedLine_of_text htopic, signedLine_of_text htype, canonical_eq] at hs
    obtain ⟨hexpected, hname⟩ := addressed_inj m.topicArn_line hline hs
    refine ⟨hexpected, hname ▸ htype, fun hmessage => ?_⟩
    cases hp : property "Message" msg with
    | none => exact .inr (suppressed_of_eventText (.inl (by simp [eventText, hp, str])))
    | some value =>
      cases value with
      | string text =>
        rw [signedLine_of_text hp] at hs
        simp only [append_assoc] at hs
        rcases message_eq_or (by simpa only [append_assoc] using hs) hmessage with
          htext | ⟨z, htext⟩
        · exact .inl (by rw [htext])
        · refine .inr (suppressed_of_eventText (.inr ?_))
          have hne : text ≠ [] := by simp [htext]
          rw [eventText, hp, show str (some (.string text)) = text from rfl, if_neg hne, htext]
          exact parse_of_shifted m.message z
      | _ => exact .inr (suppressed_of_eventText (.inl (by simp [eventText, hp, str])))

/-- An empty event of the topic `arn:ses`. -/
def emptyEvent : Genuine where
  kind := .notification
  topicArn := utf16 "arn:ses"
  messageId := utf16 "7"
  timestamp := utf16 "0"
  message := utf16 "[]"
  subject := none
  subscribeUrl := []
  token := []
  topicArn_line := by decide
  messageId_line := by decide
  timestamp_line := by decide

def onlyEmptyEvent : Platform Unit where
  url raw :=
    if raw = utf16 "https://sns.eu-west-1.amazonaws.com/SimpleNotificationService-1.pem" then
      some ⟨utf16 "https:", utf16 "sns.eu-west-1.amazonaws.com"⟩
    else none
  fetchCert _ := some ()
  verify _ _ payload signature := payload == emptyEvent.canonical && signature == utf16 "c2ln"
  numeral literal := literal

/-- The empty event with its message id moved into its text. -/
def shiftedEvent : Properties :=
  [(utf16 "Type", .string (utf16 "Notification")),
   (utf16 "TopicArn", .string (utf16 "arn:ses")),
   (utf16 "Timestamp", .string (utf16 "0")),
   (utf16 "SignatureVersion", .string (utf16 "2")),
   (utf16 "SigningCertURL", .string
     (utf16 "https://sns.eu-west-1.amazonaws.com/SimpleNotificationService-1.pem")),
   (utf16 "Signature", .string (utf16 "c2ln")),
   (utf16 "Message", .string (utf16 "[]\nMessageId\n7"))]

/-- The shifted event verifies, and suppresses nothing. -/
theorem accepted_binds_shifted :
    verifySnsMessage onlyEmptyEvent shiftedEvent = true ∧
      (property "Message" shiftedEvent = some (.string (utf16 "[]")) ∨
        (onEnvelope onlyEmptyEvent (some (utf16 "arn:ses")) shiftedEvent).suppressed = []) := by
  have haccepted : verifySnsMessage onlyEmptyEvent shiftedEvent = true := by decide +kernel
  have hsigned : ∀ algorithm cert payload signature,
      onlyEmptyEvent.verify algorithm cert payload signature = true →
        ∃ m ∈ ({emptyEvent} : Set Genuine), m.canonical = payload := by
    intro _ _ payload _ hverify
    exact ⟨emptyEvent, rfl, (eq_of_beq (Bool.and_eq_true_iff.1 hverify).1).symm⟩
  have htopic : property "TopicArn" shiftedEvent = some (.string (utf16 "arn:ses")) := rfl
  have hbinds := accepted_binds hsigned haccepted htopic (by decide)
  exact ⟨haccepted, (hbinds.2 emptyEvent rfl).2.2 (by decide)⟩

end Orbetra.Feedback
