import Orbetra.Settings.Getparam

/-!
# The config SMS of a new device

`buildOnboarding` of `packages/shared/src/onboarding.ts` writes the texts, and `isAllowedSmsCommand`
of `packages/shared/src/sms.ts` says which texts the platform sends.  Both are regular expressions
over classes of characters; the texts of the sheet meet the second through the parameters that they
set. -/

namespace Orbetra

open List Nat

/-! ## The generator -/

def ofClass (inside : Char → Bool) (low high : ℕ) (t : Text) : Bool :=
  low ≤ t.length && t.length ≤ high && t.all inside

def safeHost : Text → Bool := ofClass (fun c => c.isAlphanum || c ∈ ['.', '-']) 1 253

def safeApn : Text → Bool := ofClass (fun c => c.isAlphanum || c ∈ ['.', '_', '-']) 1 63

/-- `/^(?:…)/i` -/
def startsWithOneOf (words : List String) (t : Text) : Bool :=
  words.any fun word => (stripWord word.toList t).isSome

def ftPlatform : Text → Bool := startsWithOneOf ["ftc", "ftm", "atc", "atm"]

def masksItsOwnPosition : Text → Bool := startsWithOneOf ["ftc", "ftm"]

/-- What the caller gives.  A port is `none` where the number is not finite. -/
structure OnboardingInput where
  imei : Text
  host : Text
  port : Option ℚ
  apn : Option Text := none
  family : Option Text := none
  legacyProfile : Option Bool := none
  canSend : Option Bool := none

structure OnboardingSheet where
  imei : Text
  host : Option Text
  port : ℕ
  smsServer : Option Text
  smsApn : Option Text
  smsAuto : Option Text
  steps : List String
  familyCaveat : Bool
  deriving DecidableEq

/-- `smsPrefixFor` -/
def smsPrefixFor (family : Option Text) : Text :=
  if family.any fun f => ftPlatform (trim f) then [' '] else [' ', ' ']

def unmask (family : Option Text) : Text :=
  if family.any fun f => masksItsOwnPosition (trim f) then ";11813:0".toList else []

namespace OnboardingInput

variable (input : OnboardingInput)

/-- `host` of `buildOnboarding`: there is no fallback. -/
def hostOrNull : Option Text := if safeHost input.host then some input.host else none

def usablePort : ℕ :=
  match input.port with
  | some q => if q.isInt ∧ 0 < q ∧ q < 65536 then q.num.toNat else 5027
  | none => 5027

/-- `apnSafe` of `buildOnboarding` -/
def apnSafe : Option Text := (input.apn.map trim).filter fun apn => apn ≠ [] ∧ safeApn apn

/-- `2004:…;2005:…;2006:0`, and `;11813:0` where it applies. -/
def serverTriplet (host : Text) : Text :=
  "2004:".toList ++ host ++ ";2005:".toList ++ toDigits 10 input.usablePort ++
    ";2006:0".toList ++
    unmask input.family

end OnboardingInput

/-- The checklist of the sheet. -/
def onboardingSteps (canSend withApn familyCaveat : Bool) : List String :=
  (if canSend then
    ["Insert a working data SIM into the tracker and power it on.",
      "Save the tracker’s SIM phone number above.",
      "Press “Send config SMS” — we send the APN and server settings to the device for you.",
      "Within ~1 minute the device connects and appears online here — then manage it fully from the Commands panel (no more SMS)."]
  else
    ["Insert a working data SIM into the tracker and power it on.",
      if withApn then "Send the APN SMS below to the tracker’s phone number, wait ~30 s."
      else "Set the carrier APN on the tracker (ask your SIM provider for the APN).",
      "Send the server SMS below to the tracker’s phone number.",
      "Within ~1 minute the device connects and appears online here — then manage it fully from the Commands panel (no more SMS)."]) ++
  if familyCaveat then
    ["NOTE: this device family may use different parameters — verify against the Teltonika wiki for your model."]
  else []

def buildOnboarding (input : OnboardingInput) : OnboardingSheet :=
  let lead := smsPrefixFor input.family
  let smsApn := input.apnSafe.map fun apn => lead ++ "setparam 2001:".toList ++ apn
  let familyCaveat := input.legacyProfile.getD true
  { imei := input.imei
    host := input.hostOrNull
    port := input.usablePort
    smsServer := input.hostOrNull.map fun host =>
      lead ++ "setparam ".toList ++ input.serverTriplet host
    smsApn := smsApn
    smsAuto := input.hostOrNull.map fun host =>
      lead ++ "setparam ".toList ++
        (match input.apnSafe with
          | some apn => "2001:".toList ++ apn ++ [';']
          | none => []) ++ input.serverTriplet host
    steps := onboardingSteps (input.canSend.getD false) smsApn.isSome familyCaveat
    familyCaveat := familyCaveat }

/-! ## The validator -/

/-- `body.length`, in UTF-16 code units. -/
def jsLength (t : Text) : ℕ := (t.map fun c => if c.toNat < 0x10000 then 1 else 2).sum

/-- `/^ {1,2}/`, before a character that is no space: what follows. -/
def afterLead : Text → Option Text
  | ' ' :: ' ' :: t => some t
  | ' ' :: t => some t
  | _ => none

/-- `[A-Za-z0-9._@/\-+]` -/
def isValueChar (c : Char) : Bool := c.isAlphanum || c ∈ ['.', '_', '@', '/', '-', '+']

/-- A part of a list of parameters, split at its first `:`. -/
def splitPair (part : Text) : Text × Text :=
  (part.takeWhile (· ≠ ':'), (part.dropWhile (· ≠ ':')).tail)

/-- `/^\d{1,5}:[A-Za-z0-9._@/\-+]{0,64}$/` -/
def isAssignment (part : Text) : Bool :=
  ':' ∈ part && ofClass Char.isDigit 1 5 (splitPair part).1 &&
    ofClass isValueChar 0 64 (splitPair part).2

def afterSetparam (body : Text) : Option Text :=
  (afterLead body).bind "setparam ".toList.isPrefixOf?

def isSetparamCommand (body : Text) : Bool :=
  (afterSetparam body).any fun t => (t.splitOn ';').all isAssignment

def isGetparamCommand (body : Text) : Bool :=
  ((afterLead body).bind "getparam ".toList.isPrefixOf?).any (ofClass Char.isDigit 1 5)

def isBareCommand (body : Text) : Bool :=
  (afterLead body).any fun t =>
    t ∈ ["getinfo", "getstatus", "getgps", "getver", "cpureset"].map String.toList

def isAllowedSmsCommand (body : Text) : Bool :=
  if 320 < jsLength body then false
  else isSetparamCommand body || isGetparamCommand body || isBareCommand body

/-! ## What the sheet is for -/

/-- The parameters that a config text sets: its text after `setparam `, split at each `;`, and each
part at its first `:`. -/
def parametersOf (body : Text) : Option (List (Text × Text)) :=
  (afterSetparam body).map fun t => (t.splitOn ';').map splitPair

def SetsParameters (text : Option Text) (params : List (Text × Text)) : Prop :=
  ∀ body, text = some body → isAllowedSmsCommand body ∧ parametersOf body = some params

namespace OnboardingInput

variable (input : OnboardingInput)

/-- The carrier's access point. -/
def apnParams : List (Text × Text) := input.apnSafe.toList.map fun apn => ("2001".toList, apn)

/-- Where the device finds the server, and its own position unhidden where it would hide it. -/
def serverParams : List (Text × Text) :=
  [("2004".toList, input.host), ("2005".toList, toDigits 10 input.usablePort),
    ("2006".toList, "0".toList)] ++
  if input.family.any fun f => masksItsOwnPosition (trim f) then [("11813".toList, "0".toList)]
  else []

/-- Every text of the sheet is admitted, and sets what it is meant to set. -/
structure Admitted : Prop where
  server : SetsParameters (buildOnboarding input).smsServer input.serverParams
  apn : SetsParameters (buildOnboarding input).smsApn input.apnParams
  auto : SetsParameters (buildOnboarding input).smsAuto (input.apnParams ++ input.serverParams)

end OnboardingInput

/-! ## A text as its parameters -/

def configText (lead : Text) (params : List (Text × Text)) : Text :=
  lead ++ "setparam ".toList ++ [';'].intercalate (params.map fun p => p.1 ++ ':' :: p.2)

/-- A parameter that can be written: its value, of whatever length, holds no separator. -/
structure Writable (p : Text × Text) : Prop where
  id : ofClass Char.isDigit 1 5 p.1
  value : p.2.all isValueChar

variable {low high : ℕ} {t : Text}

lemma ofClass_iff {inside : Char → Bool} :
    ofClass inside low high t ↔ low ≤ t.length ∧ t.length ≤ high ∧ ∀ c ∈ t, inside c := by
  simp [ofClass, and_assoc]

namespace Writable

variable {p : Text × Text} (h : Writable p)

include h

lemma id_ne {c : Char} (hc : c ∈ p.1) (d : Char) (hd : d.isDigit = false) : c ≠ d := by
  have hdigit := (ofClass_iff.1 h.id).2.2 c hc
  rintro rfl
  simp [hd] at hdigit

lemma value_ne {c : Char} (hc : c ∈ p.2) (d : Char) (hd : isValueChar d = false) : c ≠ d := by
  have hvalue := all_eq_true.1 h.value c hc
  rintro rfl
  simp [hd] at hvalue

lemma no_separator : ';' ∉ p.1 ++ ':' :: p.2 := by
  intro hmem
  rcases mem_append.1 hmem with hid | hrest
  · exact h.id_ne hid ';' (by decide) rfl
  · rcases mem_cons.1 hrest with heq | hvalue
    · exact absurd heq (by decide)
    · exact h.value_ne hvalue ';' (by decide) rfl

lemma splitPair_eq : splitPair (p.1 ++ ':' :: p.2) = p := by
  have hid : ∀ c ∈ p.1, decide (c ≠ ':') = true := fun c hc =>
    decide_eq_true (h.id_ne hc ':' (by decide))
  have htake : (p.1 ++ ':' :: p.2).takeWhile (· ≠ ':') = p.1 := by
    rw [takeWhile_append_of_pos hid]
    simp
  have hdrop : (p.1 ++ ':' :: p.2).dropWhile (· ≠ ':') = ':' :: p.2 := by
    rw [dropWhile_append_of_pos hid]
    simp
  rw [splitPair, htake, hdrop, tail_cons]

/-- Of all that the validator asks of a parameter, only the length of its value is open. -/
lemma isAssignment_iff : isAssignment (p.1 ++ ':' :: p.2) ↔ p.2.length ≤ 64 := by
  have hvalue : ∀ c ∈ p.2, isValueChar c := all_eq_true.1 h.value
  simp only [isAssignment, h.splitPair_eq, Bool.and_eq_true, h.id, and_true, ofClass_iff]
  simp only [mem_append, mem_cons, true_or, or_true, decide_true, true_and]
  exact ⟨fun hok => hok.2.1, fun hshort => ⟨zero_le _, hshort, hvalue⟩⟩

end Writable

variable {lead : Text} {params : List (Text × Text)}

/-- The two leads of `smsPrefixFor`. -/
def IsLead (lead : Text) : Prop := lead = [' '] ∨ lead = [' ', ' ']

lemma isLead_smsPrefixFor (family : Option Text) : IsLead (smsPrefixFor family) := by
  unfold smsPrefixFor IsLead
  split
  · exact .inl rfl
  · exact .inr rfl

lemma afterLead_configText (hlead : IsLead lead) : afterLead (configText lead params) =
    some ("setparam ".toList ++ [';'].intercalate (params.map fun p => p.1 ++ ':' :: p.2)) := by
  rcases hlead with rfl | rfl <;> rfl

lemma afterSetparam_configText (hlead : IsLead lead) : afterSetparam (configText lead params) =
    some ([';'].intercalate (params.map fun p => p.1 ++ ':' :: p.2)) := by
  rw [afterSetparam, afterLead_configText hlead]
  exact isPrefixOf?_eq_some_iff_append_eq.2 rfl

lemma splitOn_params (hne : params ≠ []) (h : ∀ p ∈ params, Writable p) :
    ([';'].intercalate (params.map fun p => p.1 ++ ':' :: p.2)).splitOn ';' =
      params.map fun p => p.1 ++ ':' :: p.2 := by
  refine splitOn_intercalate ';' (fun part hpart => ?_) (by simpa using hne)
  obtain ⟨p, hp, rfl⟩ := mem_map.1 hpart
  exact (h p hp).no_separator

lemma parametersOf_configText (hlead : IsLead lead) (hne : params ≠ [])
    (h : ∀ p ∈ params, Writable p) : parametersOf (configText lead params) = some params := by
  have hpairs : (params.map fun p => p.1 ++ ':' :: p.2).map splitPair = params := by
    rw [map_map]
    exact (map_congr_left fun p hp => (h p hp).splitPair_eq).trans (map_id params)
  rw [parametersOf, afterSetparam_configText hlead, Option.map_some, splitOn_params hne h, hpairs]

lemma isSetparamCommand_configText (hlead : IsLead lead) (hne : params ≠ [])
    (h : ∀ p ∈ params, Writable p) :
    isSetparamCommand (configText lead params) ↔ ∀ p ∈ params, p.2.length ≤ 64 := by
  rw [isSetparamCommand, afterSetparam_configText hlead, Option.any_some, splitOn_params hne h,
    all_map, all_eq_true]
  exact forall₂_congr fun p hp => (h p hp).isAssignment_iff

lemma isAllowedSmsCommand_configText (hlead : IsLead lead) (hne : params ≠ [])
    (h : ∀ p ∈ params, Writable p) : isAllowedSmsCommand (configText lead params) ↔
      jsLength (configText lead params) ≤ 320 ∧ ∀ p ∈ params, p.2.length ≤ 64 := by
  have hget : isGetparamCommand (configText lead params) = false := by
    rw [isGetparamCommand, afterLead_configText hlead]
    rfl
  have hbare : isBareCommand (configText lead params) = false := by
    rw [isBareCommand, afterLead_configText hlead]
    simp
  rw [isAllowedSmsCommand, hget, hbare, Bool.or_false, Bool.or_false]
  split
  case isTrue hlong => simp [hlong.not_ge]
  case isFalse hshort =>
    rw [isSetparamCommand_configText hlead hne h]
    exact ⟨fun hall => ⟨not_lt.1 hshort, hall⟩, And.right⟩

/-! ## The sheet -/

lemma jsLength_append_le {s : Text} {m n : ℕ} (hs : jsLength s ≤ m) (ht : jsLength t ≤ n) :
    jsLength (s ++ t) ≤ m + n := by
  rw [jsLength, map_append, sum_append_nat]
  exact Nat.add_le_add hs ht

/-- A text of the basic plane is as long as it has characters. -/
lemma jsLength_eq (h : ∀ c ∈ t, c.toNat < 0x10000) : jsLength t = t.length := by
  induction t with
  | nil => rfl
  | cons c t ih =>
      have hc := h c mem_cons_self
      have htail := ih fun d hd => h d (mem_cons_of_mem c hd)
      simp only [jsLength, map_cons, sum_cons, if_pos hc, length_cons] at htail ⊢
      omega

variable {c : Char}

lemma toNat_lt_of_isValueChar (h : isValueChar c) : c.toNat < 0x10000 := by
  simp only [isValueChar, Char.isAlphanum, Char.isAlpha, Char.isUpper, Char.isLower, Char.isDigit,
    Bool.or_eq_true, Bool.and_eq_true, decide_eq_true_eq, UInt32.le_iff_toNat_le, ge_iff_le,
    mem_cons, not_mem_nil, or_false] at h
  change (((65 ≤ c.toNat ∧ c.toNat ≤ 90) ∨ (97 ≤ c.toNat ∧ c.toNat ≤ 122)) ∨
    (48 ≤ c.toNat ∧ c.toNat ≤ 57)) ∨ _ at h
  rcases h with h | rfl | rfl | rfl | rfl | rfl | rfl
  · omega
  all_goals decide

lemma isValueChar_of_isDigit (h : c.isDigit) : isValueChar c := by
  simp [isValueChar, Char.isAlphanum, h]

lemma all_isValueChar_of_ofClass {others : List Char} (hothers : others.all isValueChar)
    (h : ofClass (fun c => c.isAlphanum || c ∈ others) low high t) : t.all isValueChar := by
  refine all_eq_true.2 fun c hc => ?_
  have hclass := (ofClass_iff.1 h).2.2 c hc
  rcases Bool.or_eq_true_iff.1 hclass with halnum | hother
  · rw [isValueChar, halnum, Bool.true_or]
  · exact all_eq_true.1 hothers c (of_decide_eq_true hother)

namespace OnboardingInput

variable (input : OnboardingInput)

lemma usablePort_lt : input.usablePort < 65536 := by
  unfold usablePort
  cases input.port with
  | none => decide
  | some q =>
      dsimp only
      split
      case isFalse => decide
      case isTrue h =>
        obtain ⟨hint, hpos, hlt⟩ := h
        have hnum : q.num < 65536 := by
          rw [Rat.eq_num_of_isInt hint] at hlt
          exact Int.cast_lt.1 (hlt.trans_eq (Int.cast_ofNat 65536).symm)
        omega

lemma length_usablePort : (toDigits 10 input.usablePort).length ≤ 5 :=
  (length_toDigits_le_iff (by decide) (by decide)).2 (input.usablePort_lt.trans (by decide))

lemma isValueChar_usablePort : (toDigits 10 input.usablePort).all isValueChar :=
  all_eq_true.2 fun _ hc =>
    isValueChar_of_isDigit (isDigit_of_mem_toDigits (by decide) (by decide) hc)

variable {input}

lemma isValueChar_host (h : safeHost input.host) : input.host.all isValueChar :=
  all_isValueChar_of_ofClass (by decide) h

variable {apn body : Text}

lemma safeApn_of_apnSafe (h : input.apnSafe = some apn) : safeApn apn := by
  obtain ⟨-, hsafe⟩ := Option.filter_eq_some_iff.1 h
  simpa using (of_decide_eq_true hsafe).2

lemma isValueChar_apn (h : safeApn apn) : apn.all isValueChar :=
  all_isValueChar_of_ofClass (by decide) h

lemma writable_apnParams : ∀ p ∈ input.apnParams, Writable p := by
  intro p hp
  obtain ⟨apn, hapn, rfl⟩ := mem_map.1 hp
  exact ⟨(by decide : ofClass Char.isDigit 1 5 "2001".toList),
    isValueChar_apn (safeApn_of_apnSafe (Option.mem_toList.1 hapn))⟩

lemma writable_serverParams (h : safeHost input.host) : ∀ p ∈ input.serverParams, Writable p := by
  intro p hp
  unfold serverParams at hp
  have hhost : Writable ("2004".toList, input.host) :=
    ⟨(by decide : ofClass Char.isDigit 1 5 "2004".toList), isValueChar_host h⟩
  have hport : Writable ("2005".toList, toDigits 10 input.usablePort) :=
    ⟨(by decide : ofClass Char.isDigit 1 5 "2005".toList), input.isValueChar_usablePort⟩
  split at hp <;> simp only [cons_append, nil_append, mem_cons, not_mem_nil, or_false] at hp
  · rcases hp with rfl | rfl | rfl | rfl
    · exact hhost
    · exact hport
    · exact ⟨by decide, by decide⟩
    · exact ⟨by decide, by decide⟩
  · rcases hp with rfl | rfl | rfl
    · exact hhost
    · exact hport
    · exact ⟨by decide, by decide⟩

/-! ### The three texts -/

lemma hostOrNull_eq_some {host : Text} :
    input.hostOrNull = some host ↔ safeHost input.host ∧ input.host = host := by
  unfold hostOrNull
  split <;> simp_all

lemma serverTriplet_eq : input.serverTriplet input.host =
    [';'].intercalate (input.serverParams.map fun p => p.1 ++ ':' :: p.2) := by
  unfold serverTriplet serverParams unmask
  split <;> simp [intercalate, intersperse]

/-- The access point's parameter as the source writes it. -/
lemma apnParams_eq (h : input.apnSafe = some apn) :
    "2001:".toList ++ apn = [';'].intercalate (input.apnParams.map fun p => p.1 ++ ':' :: p.2) := by
  simp [apnParams, h, intercalate]

/-- Both, as the source writes them. -/
lemma autoParams_eq :
    (match input.apnSafe with
      | some apn => "2001:".toList ++ apn ++ [';']
      | none => []) ++ input.serverTriplet input.host =
      [';'].intercalate
        ((input.apnParams ++ input.serverParams).map fun p => p.1 ++ ':' :: p.2) := by
  rw [serverTriplet_eq, apnParams]
  cases input.apnSafe with
  | none => simp
  | some apn => simp [serverParams, intercalate, intersperse]

lemma smsServer_eq : (buildOnboarding input).smsServer = some body ↔
    safeHost input.host ∧ configText (smsPrefixFor input.family) input.serverParams = body := by
  simp only [buildOnboarding, Option.map_eq_some_iff, hostOrNull_eq_some, configText,
    ← serverTriplet_eq]
  exact ⟨fun ⟨_, ⟨hsafe, hhost⟩, hbody⟩ => ⟨hsafe, hhost ▸ hbody⟩,
    fun ⟨hsafe, hbody⟩ => ⟨_, ⟨hsafe, rfl⟩, hbody⟩⟩

lemma smsApn_eq : (buildOnboarding input).smsApn = some body ↔
    input.apnParams ≠ [] ∧ configText (smsPrefixFor input.family) input.apnParams = body := by
  unfold buildOnboarding apnParams
  cases input.apnSafe <;> simp [configText, intercalate]

lemma smsAuto_eq : (buildOnboarding input).smsAuto = some body ↔
    safeHost input.host ∧
      configText (smsPrefixFor input.family) (input.apnParams ++ input.serverParams) = body := by
  simp only [buildOnboarding, Option.map_eq_some_iff, hostOrNull_eq_some, configText,
    ← autoParams_eq, append_assoc]
  exact ⟨fun ⟨_, ⟨hsafe, hhost⟩, hbody⟩ => ⟨hsafe, hhost ▸ hbody⟩,
    fun ⟨hsafe, hbody⟩ => ⟨_, ⟨hsafe, rfl⟩, hbody⟩⟩

/-! ### Their lengths -/

lemma jsLength_smsPrefixFor_le (family : Option Text) : jsLength (smsPrefixFor family) ≤ 2 := by
  rcases isLead_smsPrefixFor family with h | h <;> rw [h] <;> decide

lemma jsLength_of_all {t : Text} (h : t.all isValueChar) : jsLength t = t.length :=
  jsLength_eq fun c hc => toNat_lt_of_isValueChar (all_eq_true.1 h c hc)

lemma jsLength_serverTriplet_le (h : safeHost input.host) (hshort : input.host.length ≤ 64) :
    jsLength (input.serverTriplet input.host) ≤ 95 := by
  have hunmask : jsLength (unmask input.family) ≤ 8 := by
    unfold unmask
    split <;> decide
  have hport : jsLength (toDigits 10 input.usablePort) ≤ 5 :=
    (jsLength_of_all input.isValueChar_usablePort).trans_le input.length_usablePort
  have hhost : jsLength input.host ≤ 64 := (jsLength_of_all (isValueChar_host h)).trans_le hshort
  have h2004 : jsLength "2004:".toList ≤ 5 := by decide
  have h2005 : jsLength ";2005:".toList ≤ 6 := by decide
  have h2006 : jsLength ";2006:0".toList ≤ 7 := by decide
  exact jsLength_append_le (jsLength_append_le (jsLength_append_le (jsLength_append_le
    (jsLength_append_le h2004 hhost) h2005) hport) h2006) hunmask

lemma jsLength_apn_le (h : input.apnSafe = some apn) : jsLength apn ≤ 63 := by
  have hsafe := safeApn_of_apnSafe h
  exact (jsLength_of_all (isValueChar_apn hsafe)).trans_le (ofClass_iff.1 hsafe).2.1

lemma jsLength_configText_le (family : Option Text) {params : List (Text × Text)} {n : ℕ}
    (h : jsLength ([';'].intercalate (params.map fun p => p.1 ++ ':' :: p.2)) ≤ n) :
    jsLength (configText (smsPrefixFor family) params) ≤ 2 + 9 + n := by
  have hword : jsLength "setparam ".toList ≤ 9 := by decide
  exact jsLength_append_le (jsLength_append_le (jsLength_smsPrefixFor_le family) hword) h

lemma jsLength_server_le (hsafe : safeHost input.host) (hshort : input.host.length ≤ 64) :
    jsLength (configText (smsPrefixFor input.family) input.serverParams) ≤ 106 := by
  have hserver := jsLength_serverTriplet_le hsafe hshort
  rw [serverTriplet_eq] at hserver
  exact jsLength_configText_le input.family hserver

lemma jsLength_apnText_le (hne : input.apnParams ≠ []) :
    jsLength (configText (smsPrefixFor input.family) input.apnParams) ≤ 79 := by
  obtain ⟨apn, hapn⟩ : ∃ apn, input.apnSafe = some apn := by
    rw [← Option.isSome_iff_exists, Option.isSome_iff_ne_none]
    intro hnone
    exact hne (by rw [apnParams, hnone]; rfl)
  have h2001 : jsLength "2001:".toList ≤ 5 := by decide
  have hparams := jsLength_append_le h2001 (jsLength_apn_le hapn)
  rw [apnParams_eq hapn] at hparams
  exact jsLength_configText_le input.family hparams

lemma jsLength_auto_le (hsafe : safeHost input.host) (hshort : input.host.length ≤ 64) :
    jsLength (configText (smsPrefixFor input.family) (input.apnParams ++ input.serverParams)) ≤
      175 := by
  have hapn : jsLength (match input.apnSafe with
      | some apn => "2001:".toList ++ apn ++ [';']
      | none => []) ≤ 69 := by
    have h2001 : jsLength "2001:".toList ≤ 5 := by decide
    have hend : jsLength [';'] ≤ 1 := by decide
    cases h : input.apnSafe with
    | none => exact zero_le 69
    | some apn => exact jsLength_append_le (jsLength_append_le h2001 (jsLength_apn_le h)) hend
  have hparams := jsLength_append_le hapn (jsLength_serverTriplet_le hsafe hshort)
  rw [autoParams_eq] at hparams
  exact jsLength_configText_le input.family hparams

lemma apn_length_le : ∀ p ∈ input.apnParams, p.2.length ≤ 64 := by
  intro p hp
  obtain ⟨apn, hapn, rfl⟩ := mem_map.1 hp
  have hlength := (ofClass_iff.1 (safeApn_of_apnSafe (Option.mem_toList.1 hapn))).2.1
  exact hlength.trans (by decide)

lemma server_length_le_iff :
    (∀ p ∈ input.serverParams, p.2.length ≤ 64) ↔ input.host.length ≤ 64 := by
  constructor
  · exact fun h => h ("2004".toList, input.host) (by simp [serverParams])
  · intro hhost p hp
    have hport := input.length_usablePort
    unfold serverParams at hp
    split at hp <;> simp only [cons_append, nil_append, mem_cons, not_mem_nil, or_false] at hp
    · rcases hp with rfl | rfl | rfl | rfl
      · exact hhost
      · exact hport.trans (by decide)
      · exact le_of_ble_eq_true rfl
      · exact le_of_ble_eq_true rfl
    · rcases hp with rfl | rfl | rfl
      · exact hhost
      · exact hport.trans (by decide)
      · exact le_of_ble_eq_true rfl

/-! ### The sheet and the validator -/

lemma server_iff (hsafe : safeHost input.host) :
    SetsParameters (buildOnboarding input).smsServer input.serverParams ↔
      input.host.length ≤ 64 := by
  have hwritable := writable_serverParams hsafe
  have hne : input.serverParams ≠ [] := cons_ne_nil _ _
  have hallowed := isAllowedSmsCommand_configText (isLead_smsPrefixFor input.family) hne hwritable
  rw [server_length_le_iff] at hallowed
  constructor
  · exact fun h => (hallowed.1 (h _ (smsServer_eq.2 ⟨hsafe, rfl⟩)).1).2
  · rintro hshort body hbody
    obtain ⟨-, rfl⟩ := smsServer_eq.1 hbody
    refine ⟨hallowed.2 ⟨(jsLength_server_le hsafe hshort).trans (by decide), hshort⟩, ?_⟩
    exact parametersOf_configText (isLead_smsPrefixFor input.family) hne hwritable

/-- What the access point's text sets is admitted always. -/
lemma apn_sets : SetsParameters (buildOnboarding input).smsApn input.apnParams := by
  intro body hbody
  obtain ⟨hne, rfl⟩ := smsApn_eq.1 hbody
  have hlead := isLead_smsPrefixFor input.family
  refine ⟨(isAllowedSmsCommand_configText hlead hne writable_apnParams).2 ⟨?_, apn_length_le⟩,
    parametersOf_configText hlead hne writable_apnParams⟩
  exact (jsLength_apnText_le hne).trans (by decide)

lemma auto_sets (hsafe : safeHost input.host) (hshort : input.host.length ≤ 64) :
    SetsParameters (buildOnboarding input).smsAuto (input.apnParams ++ input.serverParams) := by
  intro body hbody
  obtain ⟨-, rfl⟩ := smsAuto_eq.1 hbody
  have hlead := isLead_smsPrefixFor input.family
  have hne : input.apnParams ++ input.serverParams ≠ [] := by simp [serverParams]
  have hwritable : ∀ p ∈ input.apnParams ++ input.serverParams, Writable p :=
    forall_mem_append.2 ⟨writable_apnParams, writable_serverParams hsafe⟩
  refine ⟨(isAllowedSmsCommand_configText hlead hne hwritable).2 ⟨?_, ?_⟩,
    parametersOf_configText hlead hne hwritable⟩
  · exact (jsLength_auto_le hsafe hshort).trans (by decide)
  · exact forall_mem_append.2 ⟨apn_length_le, server_length_le_iff.2 hshort⟩

end OnboardingInput

/-- The platform admits what the sheet says, and each text sets what it is meant to set, exactly
where the host is no longer than a value of the validator. -/
theorem sheet_admitted_iff (input : OnboardingInput) :
    input.Admitted ↔ (safeHost input.host → input.host.length ≤ 64) := by
  constructor
  · exact fun h hsafe => (OnboardingInput.server_iff hsafe).1 h.server
  · intro hhost
    refine ⟨?_, OnboardingInput.apn_sets, ?_⟩
    · intro body hbody
      have hsafe := (OnboardingInput.smsServer_eq.1 hbody).1
      exact (OnboardingInput.server_iff hsafe).2 (hhost hsafe) body hbody
    · intro body hbody
      have hsafe := (OnboardingInput.smsAuto_eq.1 hbody).1
      exact OnboardingInput.auto_sets hsafe (hhost hsafe) body hbody

/-- A host name of 65 letters, which a deployment may have. -/
def longHost : OnboardingInput where
  imei := "356307042441013".toList
  host := replicate 65 'a'
  port := some 5027

/-- The sheet has a text for it, which the platform refuses. -/
theorem long_host_refused : ¬ ∀ input : OnboardingInput, input.Admitted := by
  intro h
  have hserver := (h longHost).server (configText (smsPrefixFor none) longHost.serverParams)
    (OnboardingInput.smsServer_eq.2 ⟨by decide, rfl⟩)
  exact absurd hserver.1 (by decide +kernel)

end Orbetra
