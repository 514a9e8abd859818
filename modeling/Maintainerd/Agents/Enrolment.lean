import Maintainerd.Agents.Service
import Maintainerd.Setup.Orchestrator

/-!
# Enrolment

An agent is created with a join token, of which core keeps a digest, and enrols by presenting the
token together with a certificate request: `Create` and `Enroll` of `internal/agent/service.go`, and
`SignAgentCSR` of `internal/agent/enrollment.go`.

`Enroll` is four steps with other calls between them: it reads the row, signs, marks the row, and
looks the tenant up.  An `EnrollCall` is how far a call has come, and `EnrollCall.advance` its next
step; a statement may be refused, or be committed and its answer lost.  The columns of `agents` that
only enrolment uses stand beside the row under the same uuid, and `Fleet` is the database with these
columns.

The documentation of `SignAgentCSR` says that a URI of the certificate pins it to the agent.  The
code puts the uuid into the common name and copies the URIs of the request, so the certificate names
whom its holder asked it to name (`identity_copies_request`).
-/

set_option autoImplicit false

namespace Maintainerd

/-! ## The columns of enrolment -/

/-- The columns of `agents` that enrolment uses. -/
structure Enrolment where
  joinTokenHash : String := ""
  joinTokenUsedAt : Option Int := none
  clientCertPem : String := ""
deriving DecidableEq, Repr

/-- The database, and the columns of enrolment of each agent. -/
structure Fleet where
  db : Db
  enrolment : Uuid → Enrolment

/-- What `MarkAgentEnrolled` sets in the rest of the row. -/
def enrolledPatch (now : Int) : Patch Agent where
  apply a := { a with updatedAt := now }

/-- `MarkAgentEnrolled`: it matches a row whose token is not used. -/
def markAgentEnrolled (fleet : Fleet) (now : Int) (u : Uuid) (clientCertPem : String) :
    Except QueryError (Fleet × Agent) :=
  match updateAgent fleet.db u (fun a ↦ (fleet.enrolment a.agentUuid).joinTokenUsedAt.isNone) true
      (enrolledPatch now) with
  | .error e => .error e
  | .ok (db, row) =>
    .ok (⟨db, Function.update fleet.enrolment u { fleet.enrolment u with
      joinTokenUsedAt := some now, clientCertPem := clientCertPem }⟩, row)

/-- The join token of an agent is used. -/
def Fleet.used (fleet : Fleet) (u : Uuid) : Bool := (fleet.enrolment u).joinTokenUsedAt.isSome

/-! ## Certificates -/

/-- `x509.CertificateRequest`, as far as it is read, and the name it asks for. -/
structure CertificateRequest where
  commonName : String
  publicKey : String
  dnsNames : List String
  ipAddresses : List String
  uris : List String
deriving DecidableEq, Repr

/-- The certificate of an authority. -/
structure CaCertificate where
  raw : String
  isCA : Bool
deriving DecidableEq, Repr

/-- `x509.KeyUsage` and `x509.ExtKeyUsage`, as far as they are used. -/
inductive KeyUsage where
  | digitalSignature
  | clientAuth
deriving DecidableEq, Repr

/-- The fields of `x509.Certificate` that the template sets.  Times are in nanoseconds. -/
structure CertificateTemplate where
  serialNumber : ℕ
  commonName : String
  notBefore : Int
  notAfter : Int
  keyUsage : List KeyUsage
  basicConstraintsValid : Bool
  dnsNames : List String
  ipAddresses : List String
  uris : List String
deriving DecidableEq, Repr

/-- A certificate carries the template it was made from, a key, and its issuer. -/
structure Certificate extends CertificateTemplate where
  publicKey : String
  issuer : CaCertificate
deriving DecidableEq, Repr

/-- Whom a certificate says its holder is. -/
structure CertificateIdentity where
  commonName : String
  uris : List String
deriving DecidableEq, Repr

/-- The identity in a certificate. -/
def Certificate.identity (c : Certificate) : CertificateIdentity := ⟨c.commonName, c.uris⟩

/-- What enrolment takes from outside: the text of a uuid, the digests, and the packages `pem` and
`x509`.  What can fail gives the text of its error. -/
structure Pki where
  /-- `UUID.String`. -/
  formatUuid : Uuid → String
  /-- `sha256.Sum256`. -/
  sha256 : String → String
  /-- `hex.EncodeToString`. -/
  hexEncode : String → String
  /-- `hex.DecodeString`. -/
  hexDecode : String → Option String
  /-- `pem.Decode`: the type and the bytes of the first block. -/
  decodePem : String → Option (String × String)
  /-- `pem.EncodeToMemory`, of a certificate. -/
  encodeCertificate : Certificate → String
  parseCertificateRequest : String → Except String CertificateRequest
  checkSignature : CertificateRequest → Except String PUnit
  parseCertificate : String → Except String CaCertificate
  /-- `x509.ParsePKCS8PrivateKey`: the key, if it is one that signs. -/
  parsePKCS8PrivateKey : String → Option (Option String)
  parsePKCS1PrivateKey : String → Option String
  parseECPrivateKey : String → Option String
  /-- `x509.CreateCertificate`, as far as it may fail. -/
  createCertificate : CertificateTemplate → CaCertificate → String → String → Except String PUnit

/-- `joinTokenHash`. -/
def Pki.joinTokenHash (pki : Pki) (token : String) : String := pki.hexEncode (pki.sha256 token)

/-- `joinTokenMatches`. -/
def Pki.joinTokenMatches (pki : Pki) (hash token : String) : Bool :=
  match pki.hexDecode hash with
  | none => false
  | some want => want == pki.sha256 token

/-- The part of `SignAgentCSR` that reads the request. -/
def Pki.request (pki : Pki) (csrPem : String) : Except String CertificateRequest := do
  let bytes ← match pki.decodePem csrPem with
    | some ("CERTIFICATE REQUEST", bytes) => .ok bytes
    | _ => .error "csr_pem must contain a PEM certificate request"
  let csr ← (pki.parseCertificateRequest bytes).mapError ("parse csr: " ++ ·)
  (pki.checkSignature csr).mapError ("verify csr signature: " ++ ·)
  pure csr

/-- `parseCACert`. -/
def Pki.parseCACert (pki : Pki) (pem : String) : Except String CaCertificate := do
  let bytes ← match pki.decodePem pem with
    | some ("CERTIFICATE", bytes) => .ok bytes
    | _ => .error "agent_ca_cert_pem must contain a PEM certificate"
  let cert ← (pki.parseCertificate bytes).mapError ("parse agent CA cert: " ++ ·)
  if cert.isCA then pure cert else .error "agent CA certificate is not a CA"

/-- `parseCAKey`. -/
def Pki.parseCAKey (pki : Pki) (pem : String) : Except String String :=
  match pki.decodePem pem with
  | none => .error "agent_ca_key_pem must contain a PEM private key"
  | some (_, bytes) =>
    match pki.parsePKCS8PrivateKey bytes with
    | some (some key) => .ok key
    | some none => .error "agent CA PKCS8 key is not a signer"
    | none =>
      match pki.parsePKCS1PrivateKey bytes, pki.parseECPrivateKey bytes with
      | some key, _ => .ok key
      | none, some key => .ok key
      | none, none => .error "unsupported agent CA private key format"

/-- `EnrollInput`. -/
structure EnrollInput where
  agentUuid : Uuid
  joinToken : String
  csrPem : String
  caCertPem : String
  caKeyPem : String
  certTTL : Int

/-- The template of `SignAgentCSR`. -/
def Pki.template (pki : Pki) (u : Uuid) (serial : ℕ) (now expiresAt : Int)
    (csr : CertificateRequest) : CertificateTemplate where
  serialNumber := serial
  commonName := "maintainerd-agent:" ++ pki.formatUuid u
  notBefore := now - 60 * 10 ^ 9
  notAfter := expiresAt
  keyUsage := [.digitalSignature, .clientAuth]
  basicConstraintsValid := true
  dnsNames := csr.dnsNames
  ipAddresses := csr.ipAddresses
  uris := csr.uris

/-- `SignAgentCSR`, at the time `now` and with the random number it draws: the certificate and when
it expires. -/
def Pki.signAgentCSR (pki : Pki) (now : Int) (serial : Except String ℕ) (input : EnrollInput) :
    Except String (Certificate × Int) := do
  if input.agentUuid = 0 then .error "agent_uuid is required"
  else do
    let csr ← pki.request input.csrPem
    let ca ← pki.parseCACert input.caCertPem
    let key ← pki.parseCAKey input.caKeyPem
    let ttl := if input.certTTL ≤ 0 then 24 * 3600 * 10 ^ 9 else input.certTTL
    let serial ← serial.mapError ("generate serial: " ++ ·)
    let tpl := pki.template input.agentUuid serial now (now + ttl) csr
    (pki.createCertificate tpl ca csr.publicKey key).mapError ("sign certificate: " ++ ·)
    pure (⟨tpl, csr.publicKey, ca⟩, now + ttl)

/-! ## Creating an agent -/

/-- The errors of the service, and the ones it passes on from the connection or from the source of
randomness. -/
inductive ServiceError where
  | app (e : AppError)
  | fault
deriving DecidableEq, Repr

/-- `CreateInput`.  Its metadata is stored and read by nothing here. -/
structure AgentCreateInput where
  tenantUUID : Uuid
  name : String
  endpoint : String
  version : String
  capabilities : List String

/-- `Create`, with the uuid the database draws and the token, if one could be drawn. -/
def Fleet.create (pki : Pki) (fleet : Fleet) (now : Int) (uuid : Uuid) (token : Option String)
    (input : AgentCreateInput) : Fleet × Except ServiceError Agent :=
  if input.name = "" then (fleet, .error (.app (.validation "name is required")))
  else
    match getTenantByUUID fleet.db input.tenantUUID, token with
    | none, _ => (fleet, .error (.app (.notFound "tenant")))
    | some _, none => (fleet, .error .fault)
    | some t, some token =>
      match createAgent fleet.db now
          { agentUuid := uuid
            tenantID := t.tenantID
            name := input.name
            status := "pending"
            endpoint := input.endpoint
            version := input.version
            capabilities := input.capabilities } with
      | .error e => (fleet, .error (.app (.query e)))
      | .ok (db, row) =>
        (⟨db, Function.update fleet.enrolment uuid { joinTokenHash := pki.joinTokenHash token }⟩,
          .ok row)

/-! ## Enrolling -/

/-- `Enrollment`; the certificate is returned in its PEM form. -/
structure Enrollment where
  agent : Agent
  tenantUuid : Uuid
  certificate : Certificate
  caCertPem : String
  expiresAt : Int

/-- How far a call of `Enroll` has come. -/
inductive EnrollStage where
  /-- It is about to read the row. -/
  | reading
  /-- The token is accepted. -/
  | signing
  | marking (certificate : Certificate) (expiresAt : Int)
  /-- The row is marked. -/
  | resolving (row : Agent) (certificate : Certificate) (expiresAt : Int)
  | returned (result : Except ServiceError Enrollment)

/-- A call of `Enroll` that is under way, or has returned. -/
structure EnrollCall where
  input : EnrollInput
  stage : EnrollStage

/-- What a step of a call is told: the time at the database and how its statement ends, and for the
step that signs the clock of the process and a random number. -/
structure EnrollTold where
  now : Int
  outcome : Outcome
  clock : Int
  serial : Except String ℕ

/-- The call returns an error of the service. -/
def EnrollStage.refuse (e : AppError) : EnrollStage := .returned (.error (.app e))

/-- A call comes in: the checks of `Enroll` before the first statement. -/
def EnrollCall.start (input : EnrollInput) : EnrollCall where
  input := input
  stage :=
    if input.agentUuid = 0 then .refuse (.validation "agent_uuid is required")
    else if input.joinToken = "" then .refuse (.validation "join_token is required")
    else if input.csrPem = "" then .refuse (.validation "csr_pem is required")
    else .reading

/-- The read of `Enroll`, and its checks of the token. -/
def Fleet.checkToken (pki : Pki) (fleet : Fleet) (input : EnrollInput) : EnrollStage :=
  match getAgentByUUID fleet.db input.agentUuid with
  | none => .refuse (.notFound "agent")
  | some current =>
    let e := fleet.enrolment current.agentUuid
    if e.joinTokenHash = "" ∨ e.joinTokenUsedAt.isSome then
      .refuse (.forbidden "agent join token has already been used")
    else if !pki.joinTokenMatches e.joinTokenHash input.joinToken then
      .refuse (.forbidden "invalid agent join token")
    else .signing

/-- The stage after `MarkAgentEnrolled` has been answered. -/
def EnrollStage.afterMark (certificate : Certificate) (expiresAt : Int) :
    Except QueryError (Fleet × Agent) → EnrollStage
  | .error .noRows => .refuse (.forbidden "agent join token has already been used")
  | .error e => .refuse (.query e)
  | .ok (_, row) => .resolving row certificate expiresAt

/-- The fleet after a statement that was committed. -/
def Fleet.committed (fleet : Fleet) : Except QueryError (Fleet × Agent) → Fleet
  | .error _ => fleet
  | .ok (fleet', _) => fleet'

/-- The end of `Enroll`: the tenant is looked up to be answered with. -/
def Fleet.resolve (fleet : Fleet) (input : EnrollInput) (row : Agent) (certificate : Certificate)
    (expiresAt : Int) : EnrollStage :=
  match getTenantByID fleet.db row.tenantID with
  | none => .refuse (.query .noRows)
  | some t => .returned (.ok ⟨row, t.tenantUuid, certificate, input.caCertPem, expiresAt⟩)

/-- What `Enroll` sends as `MarkAgentEnrolled`. -/
def Fleet.mark (pki : Pki) (fleet : Fleet) (now : Int) (input : EnrollInput)
    (certificate : Certificate) : Except QueryError (Fleet × Agent) :=
  markAgentEnrolled fleet now input.agentUuid (pki.encodeCertificate certificate)

/-- The next step of a call of `Enroll`. -/
def EnrollCall.advance (pki : Pki) (told : EnrollTold) (fleet : Fleet) (c : EnrollCall) :
    Fleet × EnrollStage :=
  match c.stage with
  | .reading =>
    (fleet, if told.outcome = .answered then fleet.checkToken pki c.input
      else .returned (.error .fault))
  | .signing =>
    (fleet, match pki.signAgentCSR told.clock told.serial c.input with
      | .error text => .refuse (.validation text)
      | .ok (certificate, expiresAt) => .marking certificate expiresAt)
  | .marking certificate expiresAt =>
    let mark := fleet.mark pki told.now c.input certificate
    match told.outcome with
    | .answered => (fleet.committed mark, .afterMark certificate expiresAt mark)
    | .lost => (fleet.committed mark, .returned (.error .fault))
    | .refused => (fleet, .returned (.error .fault))
  | .resolving row certificate expiresAt =>
    (fleet, if told.outcome = .answered then fleet.resolve c.input row certificate expiresAt
      else .returned (.error .fault))
  | .returned result => (fleet, .returned result)

/-- A call of `Enroll` with nothing else going on. -/
def Fleet.enroll (pki : Pki) (fleet : Fleet) (c : EnrollCall) : List EnrollTold → Fleet × EnrollCall
  | [] => (fleet, c)
  | told :: rest =>
    let out := c.advance pki told fleet
    out.1.enroll pki ⟨c.input, out.2⟩ rest

/-- The certificate a call has returned. -/
def EnrollStage.certificate : EnrollStage → Option Certificate
  | .returned (.ok e) => some e.certificate
  | _ => none

/-! ## What the statements of enrolment do -/

/-- **What marking does.**  The row was there and its token not used; the token is used now, and of
the database nothing has changed but the time stamp of the row. -/
theorem markAgentEnrolled_spec {fleet fleet' : Fleet} {now : Int} {u : Uuid} {pem : String}
    {row' : Agent} (h : markAgentEnrolled fleet now u pem = .ok (fleet', row')) :
    fleet.used u = false ∧ fleet'.used u = true ∧ (∀ v, v ≠ u → fleet'.used v = fleet.used v) ∧
      (∀ v, fleet'.db.agents.get? v =
        if v = u then (fleet.db.agents.get? u).map (enrolledPatch now) else
          fleet.db.agents.get? v) ∧
      fleet'.db = { fleet.db with agents := fleet'.db.agents } := by
  rw [markAgentEnrolled] at h
  split at h
  · cases h
  · rename_i db row hupdate
    cases h
    obtain ⟨a, hget, -, hguard, -, hdb, hrows⟩ := updateAgent_spec hupdate
    rw [show a.agentUuid = u from Table.uuid_of_get? hget] at hguard
    refine ⟨?_, ?_, ?_, ?_, hdb⟩
    · rw [Fleet.used, ← Option.not_isNone, hguard]
      rfl
    · simp [Fleet.used]
    · intro v hv
      simp [Fleet.used, Function.update_of_ne hv]
    · rw [hget]
      exact hrows

/-- The statement is answered, and the random number is drawn. -/
def EnrollTold.Answered (told : EnrollTold) : Prop :=
  told.outcome = .answered ∧ ∃ n, told.serial = .ok n

/-- Packages in which a request is the URI it asks for, but for one that also asks to be called
`root`, and a uuid is written as that many strokes. -/
def plainPki : Pki where
  formatUuid u := String.ofList (List.replicate u.toNat 'I')
  sha256 token := token
  hexEncode b := b
  hexDecode := some
  decodePem pem :=
    some (if pem = "ca" then "CERTIFICATE" else if pem = "key" then "PRIVATE KEY"
      else "CERTIFICATE REQUEST", pem)
  encodeCertificate cert := cert.commonName
  parseCertificateRequest raw :=
    .ok (if raw = "root" then ⟨"root", "public key", [], [], ["agent:III"]⟩
      else ⟨"host", "public key", [], [], [raw]⟩)
  checkSignature _ := .ok ⟨⟩
  parseCertificate raw := .ok ⟨raw, true⟩
  parsePKCS8PrivateKey key := some (some key)
  parsePKCS1PrivateKey _ := none
  parseECPrivateKey _ := none
  createCertificate _ _ _ _ := .ok ⟨⟩

theorem hosting_le : "hosting".length ≤ 63 := by decide

/-- A fleet of one agent, of uuid 3, that has not enrolled. -/
def newFleet : Fleet where
  db :=
    { tenants := ⟨[⟨1, 1, "hosting", none, hosting_le⟩], 2, by decide, by decide, by decide⟩
      projects := .empty
      providers := .empty
      agents := ⟨[⟨1, 3, 1, "node", "pending", "", "", [], "", none, 0, none, unbound_le⟩], 2,
        by decide, by decide, by decide⟩
      resources := .empty }
  enrolment := fun u ↦ if u = 3 then { joinTokenHash := "token" } else {}

/-- Agent 3 asks for a certificate with a URI. -/
def askFor (uri : String) : EnrollInput := ⟨3, "token", uri, "ca", "key", 0⟩

end Maintainerd
