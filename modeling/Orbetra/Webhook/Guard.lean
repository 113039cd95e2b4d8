import Orbetra.Framework.IpText

/-!
# The guard of the webhooks

`apps/worker/src/webhook/guard.ts`: a webhook is delivered only to an address outside the private
ranges.  `net.isIP`, `new URL` and the resolver are parameters.
-/

namespace Orbetra.Guard

open IpText

abbrev Text := List Char

/-! ## IPv4 -/

def number (text : Text) : Option ℕ :=
  if text ≠ [] ∧ text.all Char.isDigit then some (Nat.ofDigitChars 10 text 0) else none

/-- `isPrivateV4` -/
def isPrivateV4 (ip : Text) : Bool :=
  match (ip.splitOn '.').map number with
  | [some a, some b, some c, some d] =>
    if 255 < a ∨ 255 < b ∨ 255 < c ∨ 255 < d then true
    else if a = 0 ∨ a = 127 ∨ 224 ≤ a then true
    else if a = 10 then true
    else if a = 169 ∧ b = 254 then true
    else if a = 172 ∧ 16 ≤ b ∧ b ≤ 31 then true
    else if a = 192 ∧ b = 168 then true
    else if a = 100 ∧ 64 ≤ b ∧ b ≤ 127 then true
    else false
  | _ => true

/-! ## IPv6 -/

/-- What `.` does not match. -/
def isLineTerminator (c : Char) : Bool :=
  c == '\n' || c == '\r' || c.toNat == 0x2028 || c.toNat == 0x2029

/-- Four runs of one to three digits. -/
def isDotted (text : Text) : Bool :=
  let parts := text.splitOn '.'
  parts.length == 4 &&
    parts.all fun part => !part.isEmpty && decide (part.length ≤ 3) && part.all Char.isDigit

/-- The two groups of the pattern for a trailing quad.  The second one has no colon, so the first
one ends at the last colon. -/
def dotted (text : Text) : Option (Text × Text) :=
  let prefixed := text.rdropWhile (· != ':')
  let quad := text.rtakeWhile (· != ':')
  if prefixed ≠ [] ∧ prefixed.all (fun c => !isLineTerminator c) ∧ isDotted quad then
    some (prefixed, quad)
  else none

/-- Two octets as one group, `((hi << 8) | lo).toString(16)`. -/
def hextet (hi lo : ℕ) : Text := Nat.toDigits 16 (hi <<< 8 ||| lo)

/-- A trailing quad is folded into two groups; `none` if an octet is too large. -/
def foldQuad (ip : Text) : Option Text :=
  match dotted ip with
  | none => some ip
  | some (prefixed, quad) =>
    match (quad.splitOn '.').map number with
    | [some q₀, some q₁, some q₂, some q₃] =>
      if 255 < q₀ ∨ 255 < q₁ ∨ 255 < q₂ ∨ 255 < q₃ then none
      else some (prefixed ++ hextet q₀ q₁ ++ ':' :: hextet q₂ q₃)
    | _ => none

def splitGap : Text → List Text
  | [] => [[]]
  | ':' :: ':' :: rest => [] :: splitGap rest
  | c :: rest => (splitGap rest).modifyHead (c :: ·)

def groupsOf (half : Text) : List Text := if half = [] then [] else half.splitOn ':'

def isGroupDigit (c : Char) : Bool := c.isDigit || ('a' ≤ c && c ≤ 'f')

def groupBytes (group : Text) : Option (List ℕ) :=
  if group ≠ [] ∧ group.length ≤ 4 ∧ group.all isGroupDigit then
    let n := hexNumber group
    some [n >>> 8 &&& 0xff, n &&& 0xff]
  else none

def bytesOf (groups : List Text) : Option (List ℕ) :=
  if groups.length ≠ 8 then none else (groups.mapM groupBytes).map List.flatten

def v6ToBytes (ip : Text) : Option (List ℕ) := do
  let s ← foldQuad ip
  match splitGap s with
  | [all] => bytesOf (groupsOf all)
  | [left, right] =>
    let head := groupsOf left
    let tail := groupsOf right
    if 8 < head.length + tail.length then none
    else bytesOf (head ++ List.replicate (8 - (head.length + tail.length)) ['0'] ++ tail)
  | _ => none

/-- `toLowerCase`, of the letters that addresses are written with. -/
def toLowerCase (text : Text) : Text := text.map Char.toLower

/-- `b.slice(12).join('.')` -/
def embeddedV4 (b : List ℕ) : Text := ['.'].intercalate ((b.drop 12).map (Nat.toDigits 10))

/-- `b.slice(0, n).every((x) => x === 0)` -/
def zeroHi (b : List ℕ) (n : ℕ) : Bool := (b.take n).all (· == 0)

/-- The tests of `isPrivateV6` on the bytes. -/
def isPrivateBytes (b : List ℕ) : Bool :=
  if zeroHi b 10 ∧ b[10]? = some 0xff ∧ b[11]? = some 0xff then isPrivateV4 (embeddedV4 b)
  else if b.take 4 = [0x00, 0x64, 0xff, 0x9b] ∧ ((b.take 12).drop 4).all (· == 0) then
    isPrivateV4 (embeddedV4 b)
  else if zeroHi b 12 then isPrivateV4 (embeddedV4 b)
  else if b[0]? = some 0xfe ∧ (b.getD 1 0) &&& 0xc0 = 0x80 then true
  else if (b.getD 0 0) &&& 0xfe = 0xfc then true
  else false

/-- `isPrivateV6` -/
def isPrivateV6 (ip : Text) : Bool :=
  let s := toLowerCase ip
  if s = "::1".toList ∨ s = "::".toList then true
  else
    match v6ToBytes s with
    | none => true
    | some b => isPrivateBytes b

/-! ## The guard -/

/-- `isPrivateIp` -/
def isPrivateIp (isIP : Text → ℕ) (ip : Text) : Bool :=
  match isIP ip with
  | 4 => isPrivateV4 ip
  | 6 => isPrivateV6 ip
  | _ => true

structure Url where
  protocol : Text
  hostname : Text
  deriving DecidableEq

structure Platform where
  isIP : Text → ℕ
  /-- `new URL(raw)`; `none` if it throws. -/
  url : Text → Option Url
  /-- The addresses of all answers; `none` if the lookup fails. -/
  resolveHost : Text → Option (List Text)

structure ValidatedUrl where
  url : Url
  ip : Text
  deriving DecidableEq

inductive GuardError
  /-- `UnsafeUrlError`, with its reason. -/
  | unsafeUrl (reason : Text)
  | lookupFailed
  deriving DecidableEq

/-- The hostname without the brackets of an IPv6 address. -/
def hostOf (hostname : Text) : Text :=
  let opened := if hostname.head? = some '[' then hostname.tail else hostname
  if opened.getLast? = some ']' then opened.dropLast else opened

/-- The addresses that are judged: the host itself if it is one, else the answers for it. -/
def Platform.addresses (platform : Platform) (host : Text) : Option (List Text) :=
  if platform.isIP host ≠ 0 then some [host] else platform.resolveHost host

def assertPublicUrl (platform : Platform) (raw : Text) : Except GuardError ValidatedUrl :=
  match platform.url raw with
  | none => .error (.unsafeUrl "malformed".toList)
  | some u =>
    if u.protocol ≠ "http:".toList ∧ u.protocol ≠ "https:".toList then
      .error (.unsafeUrl ("scheme ".toList ++ u.protocol))
    else
      match platform.addresses (hostOf u.hostname) with
      | none => .error .lookupFailed
      | some [] => .error (.unsafeUrl "no address".toList)
      | some (first :: others) =>
        match (first :: others).find? (isPrivateIp platform.isIP) with
        | some ip => .error (.unsafeUrl ("private address ".toList ++ ip))
        | none => .ok ⟨u, first⟩

end Orbetra.Guard
