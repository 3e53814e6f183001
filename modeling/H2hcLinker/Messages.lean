import H2hcLinker.AgentProxy

/-! The WebSocket messages and the state of one connection. -/
namespace H2hcLinker

structure SignedRemoteSignalInput where
  targetAgent : List UInt8
  zomeCallParams : List UInt8
  signature : List UInt8
  deriving DecidableEq

inductive ClientMessage where
  | auth (agentPubkey : String)
  | authChallengeResponse (signature : String)
  | register (dnaHash agentPubkey : String)
  | unregister (dnaHash agentPubkey : String)
  | ping
  | signResponse (requestId : String) (signature error : Option String)
  | sendRemoteSignal (dnaHash : String) (signals : List SignedRemoteSignalInput)
  deriving DecidableEq

inductive ServerMessage where
  | authOk (sessionToken : String)
  | authChallenge (challenge : String)
  | authError (message : String)
  | registered (dnaHash agentPubkey : String)
  | unregistered (dnaHash agentPubkey : String)
  | signal (dnaHash toAgent fromAgent zomeName signal : String)
  | pong (peerCount : Nat)
  | error (message : String)
  | signAgentInfo (requestId agentPubkey agentInfo : String)
  deriving DecidableEq

/-- A text frame, by what it parses to or the parse error, or whatever ends the loop: a close
frame, a socket error, the end of the stream or a timeout. -/
inductive Frame where
  | text (message : Except String ClientMessage)
  | close
  deriving DecidableEq

structure ConnectionState where
  authenticated : Bool
  registrations : List AgentRegistration
  pendingAuthAgent : Option AgentPubKey
  pendingChallenge : Option (List UInt8)
  authenticatedAgent : Option AgentPubKey
  deriving DecidableEq

def ConnectionState.default : ConnectionState := ⟨false, [], none, none, none⟩

/-- The library functions that the handlers call; an error is its text. -/
structure Libraries where
  codec : HashCodec
  base64Decode : String → Except String (List UInt8)
  base64Encode : List UInt8 → String
  hexEncode : List UInt8 → String
  /-- `Signature::from_slice` on the decoded bytes. -/
  checkSignature : List UInt8 → Except String Unit
  /-- `VerifyingKey::from_bytes` on the core bytes of the key. -/
  checkKey : AgentPubKey → Except String Unit
  /-- The signature verifies for the challenge under the agent's key. -/
  verify : AgentPubKey → List UInt8 → List UInt8 → Bool

def sampleChallenge : List UInt8 := List.replicate 32 7

/-- Alice's signature of the challenge. -/
def aliceSignature : List UInt8 := [14, 27, 208, 108, 106, 185, 142, 243, 84, 112, 26, 0, 197, 87, 21,
  209, 182, 90, 145, 93, 137, 139, 159, 104, 232, 228, 139, 3, 124, 52, 92, 86, 117, 162, 67, 254, 234,
  227, 231, 196, 222, 202, 45, 166, 211, 64, 133, 78, 220, 91, 134, 101, 84, 97, 231, 77, 157, 101, 224,
  35, 51, 82, 31, 14]

def aliceSignatureText : String :=
  "DhvQbGq5jvNUcBoAxVcV0bZakV2Ji59o6OSLA3w0XFZ1okP+6uPnxN7KLabTQIVO3FuGZVRh502dZeAjM1IfDg=="

/-- Bob's signature of the challenge. -/
def bobSignature : List UInt8 := [203, 63, 181, 37, 141, 125, 62, 203, 151, 230, 99, 113, 82, 104, 124,
  208, 225, 179, 134, 252, 149, 184, 214, 147, 76, 38, 67, 108, 71, 87, 121, 251, 231, 81, 230, 80, 144,
  55, 156, 156, 35, 153, 86, 101, 150, 243, 10, 219, 91, 79, 204, 125, 198, 229, 251, 243, 58, 25, 182,
  52, 182, 76, 109, 10]

def bobSignatureText : String :=
  "yz+1JY19PsuX5mNxUmh80OGzhvyVuNaTTCZDbEdXefvnUeZQkDecnCOZVmWW8wrbW0/Mfcbl+/M6GbY0tkxtCg=="

def base64Digit (n : Nat) : Char :=
  if n < 26 then .ofNat (65 + n)
  else if n < 52 then .ofNat (71 + n)
  else if n < 62 then .ofNat (n - 4)
  else if n = 62 then '+' else '/'

/-- The standard base64, padded. -/
def base64Chars : List UInt8 → List Char
  | [] => []
  | [a] => [base64Digit (a.toNat / 4), base64Digit (a.toNat % 4 * 16), '=', '=']
  | [a, b] => [base64Digit (a.toNat / 4), base64Digit (a.toNat % 4 * 16 + b.toNat / 16),
      base64Digit (b.toNat % 16 * 4), '=']
  | a :: b :: c :: rest => base64Digit (a.toNat / 4) :: base64Digit (a.toNat % 4 * 16 + b.toNat / 16) ::
      base64Digit (b.toNat % 16 * 4 + c.toNat / 64) :: base64Digit (c.toNat % 64) :: base64Chars rest

/-- The two agents with one signature each. -/
def sampleLibraries : Libraries where
  codec := sampleCodec
  base64Decode text :=
    if text = aliceSignatureText then .ok aliceSignature
    else if text = bobSignatureText then .ok bobSignature
    else .error "Invalid padding"
  base64Encode bytes := .ofList (base64Chars bytes)
  hexEncode bytes := .ofList (bytes.flatMap fun b =>
    [Nat.digitChar (b.toNat / 16), Nat.digitChar (b.toNat % 16)])
  checkSignature bytes := if bytes.length = 64 then .ok () else .error "signature error"
  checkKey _ := .ok ()
  verify agent challenge signature :=
    challenge = sampleChallenge ∧
      (agent = alice ∧ signature = aliceSignature ∨ agent = bob ∧ signature = bobSignature)

example : sampleLibraries.base64Encode aliceSignature = aliceSignatureText := by decide

end H2hcLinker
