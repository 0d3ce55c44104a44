import Mathlib.Algebra.GroupWithZero.Nat
import Mathlib.Data.Nat.Notation

/-! Content parts and the text formats that the protocol schemas check. -/

namespace ChatCore.Protocol

abbrev Id := String

/-- Microseconds since the epoch, the resolution of `timestamptz`. -/
abbrev Timestamp := Int

def milliseconds (n : ℕ) : Int := 1000 * n

inductive Json
  | string (value : String)
  | bool (value : Bool)
  | array (items : List Json)
  | object (fields : List (String × Json))
  | null

/-- What the code takes from the platform: SHA-256 of a serialized value, the hash behind an
advisory lock, and whether `new URL(value)` has the protocol `https:`. -/
structure Platform where
  sha256 : Json → String
  hashtextextended : String → Int
  isHttpsUrl : String → Bool

inductive ToolStatus
  | started
  | completed
  | failed
  deriving DecidableEq, Repr

inductive InputPartStatus
  | pending
  | submitted
  | declined
  deriving DecidableEq, Repr

inductive ContentPart
  | text (text : String)
  | citation (citationId sourceId : Id) (title url excerpt : Option String)
  | fileReference (fileId : Id) (name : String) (mediaType url : Option String)
  | toolStatus (toolCallId : Id) (label : String) (status : ToolStatus)
  | structuredInput (requestId : Id) (label : String) (required : Bool) (status : InputPartStatus)
  deriving DecidableEq, Repr

def ContentPart.texts : ContentPart → List String
  | .text value => [value]
  | .citation citationId sourceId title url excerpt =>
      citationId :: sourceId :: (title.toList ++ url.toList ++ excerpt.toList)
  | .fileReference fileId name mediaType url => fileId :: name :: (mediaType.toList ++ url.toList)
  | .toolStatus toolCallId label _ => [toolCallId, label]
  | .structuredInput requestId label _ _ => [requestId, label]

def hasNul (s : String) : Bool := s.toList.any (· == '\x00')

def isAlphanumeric (c : Char) : Bool :=
  ('A' ≤ c && c ≤ 'Z') || ('a' ≤ c && c ≤ 'z') || ('0' ≤ c && c ≤ '9')

def isOpaqueIdCharacter (c : Char) : Bool := isAlphanumeric c || c == '.' || c == '_' || c == '~' || c == '-'

def isOpaqueId (s : String) : Bool := match s.toList with
  | [] => false
  | c :: cs => isAlphanumeric c && cs.all isOpaqueIdCharacter && decide (cs.length ≤ 127)

def isFailureCode (s : String) : Bool := match s.toList with
  | [] => false
  | c :: cs => ('A' ≤ c && c ≤ 'Z') &&
      cs.all (fun d => ('A' ≤ d && d ≤ 'Z') || ('0' ≤ d && d ≤ '9') || d == '_') && decide (cs.length ≤ 63)

def codeUnits (s : String) : ℕ := (s.toList.map (fun c => if c.toNat < 0x10000 then 1 else 2)).sum

def lengthBetween (lo hi : ℕ) (s : String) : Bool := decide (lo ≤ codeUnits s) && decide (codeUnits s ≤ hi)

def isHttpsReference (platform : Platform) (s : String) : Bool :=
  platform.isHttpsUrl s && "https://".toList.isPrefixOf s.toList && decide (codeUnits s ≤ 2048)

def isCitation (platform : Platform) (citationId sourceId : Id) (title url excerpt : Option String) : Bool :=
  isOpaqueId citationId && isOpaqueId sourceId && title.all (lengthBetween 1 500) &&
    url.all (isHttpsReference platform) && excerpt.all (lengthBetween 0 2000)

def isContentPart (platform : Platform) : ContentPart → Bool
  | .text text => lengthBetween 1 100000 text
  | .citation citationId sourceId title url excerpt => isCitation platform citationId sourceId title url excerpt
  | .fileReference fileId name mediaType url => isOpaqueId fileId && lengthBetween 1 500 name &&
      mediaType.all (lengthBetween 1 200) && url.all (isHttpsReference platform)
  | .toolStatus toolCallId label _ => isOpaqueId toolCallId && lengthBetween 1 200 label
  | .structuredInput requestId label _ _ => isOpaqueId requestId && lengthBetween 1 200 label

end ChatCore.Protocol
