import H2hcLinker.HashTable
import Mathlib.Data.Finset.Insert

/-! Data shared by the components: the hash types, capabilities, allowlist entries and sessions.
A hash is its raw bytes; parsing and printing belong to the hash library, see `HashCodec`. -/
namespace H2hcLinker

structure DnaHash where
  raw : List UInt8
  deriving DecidableEq, Repr

structure AgentPubKey where
  raw : List UInt8
  deriving DecidableEq, Repr

/-- The string forms of hashes as the hash library reads them; an error is its debug text. -/
structure HashCodec where
  dnaOfStr : String → Except String DnaHash
  agentOfStr : String → Except String AgentPubKey
  agentOfRaw39 : List UInt8 → Option AgentPubKey
  dnaToStr : DnaHash → String
  agentToStr : AgentPubKey → String

def sampleDna : DnaHash := ⟨[132, 45, 36] ++ List.replicate 32 1 ++ [126, 207, 206, 190]⟩

def sampleDnaText : String := "uhC0kAQEBAQEBAQEBAQEBAQEBAQEBAQEBAQEBAQEBAQEBAQF-z86-"

def alice : AgentPubKey := ⟨[132, 32, 36, 138, 136, 227, 221, 116, 9, 241, 149, 253, 82, 219, 45, 60,
  186, 93, 114, 202, 103, 9, 191, 29, 148, 18, 27, 243, 116, 136, 1, 180, 15, 111, 92, 133, 128, 82,
  96]⟩

def aliceText : String := "uhCAkiojj3XQJ8ZX9UtstPLpdcspnCb8dlBIb83SIAbQPb1yFgFJg"

def bob : AgentPubKey := ⟨[132, 32, 36, 129, 57, 119, 14, 168, 125, 23, 95, 86, 163, 84, 102, 195, 76,
  126, 204, 203, 141, 138, 145, 180, 238, 55, 162, 93, 246, 15, 91, 143, 201, 179, 148, 35, 150, 106,
  149]⟩

def bobText : String := "uhCAkgTl3Dqh9F19Wo1Rmw0x-zMuNipG07jeiXfYPW4_Js5QjlmqV"

/-- Reads and prints one DNA and two agents. -/
def sampleCodec : HashCodec where
  dnaOfStr text := if text = sampleDnaText then .ok sampleDna else .error "BadPrefix"
  agentOfStr text :=
    if text = aliceText then .ok alice
    else if text = bobText then .ok bob
    else .error "BadPrefix"
  agentOfRaw39 raw := if raw.length = 39 then some ⟨raw⟩ else none
  dnaToStr _ := sampleDnaText
  agentToStr agent := if agent = alice then aliceText else bobText

inductive LinkerError where
  | config (message : String)
  | network (message : String)
  | serialization (message : String)
  | notFound (message : String)
  | invalidRequest (message : String)
  | internal (message : String)
  | holochainError (message : String)
  | upstreamUnavailable
  | authenticationFailed (message : String)
  | forbidden (message : String)
  | requestMalformed (message : String)
  deriving DecidableEq, Repr

inductive Capability where
  | dhtRead
  | dhtWrite
  | k2
  deriving DecidableEq, Repr

/-- An agent that has been granted access to the gateway. -/
structure AllowedAgent where
  agentPubkey : AgentPubKey
  capabilities : Finset Capability
  label : Option String
  deriving DecidableEq

/-- Opaque session token: the hex text of 32 random bytes. -/
structure SessionToken where
  text : String
  deriving DecidableEq, Repr

structure SessionInfo where
  agentPubkey : AgentPubKey
  capabilities : Finset Capability
  registeredDnas : Finset DnaHash
  deriving DecidableEq

def SessionInfo.hasCapability (session : SessionInfo) (cap : Capability) : Bool :=
  cap ∈ session.capabilities

def SessionInfo.hasDna (session : SessionInfo) (dna : DnaHash) : Bool :=
  dna ∈ session.registeredDnas

end H2hcLinker
